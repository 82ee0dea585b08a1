import OpenDataCon.CBPort.Block
import OpenDataCon.CBPort.TableLayout
import OpenDataCon.Foundations.Runs

/-!
# Scans at the master

The answer to a scan is read section by section. A section belongs to the
analog points of its place, else to the counter there, else to the binary
points. What is read is stored in the table and published.

The section of another place does not touch a point (`proccessScanPayload_*_frame`),
so a point of a scan is decided by the section of its own place.
-/

set_option autoImplicit false

namespace OpenDataCon.CBPort

open Runs

/-- An event that the master publishes, with the time of the scan. Its quality is online. -/
inductive PublishedEvent where
  | Analog (index : Nat) (meas : BitVec 16) (timestamp : Nat)
  | Counter (index : Nat) (meas : BitVec 16) (timestamp : Nat)
  | Binary (index : Nat) (meas : Bool) (timestamp : Nat)
deriving DecidableEq, Repr

/-- A place and the word in it. -/
abbrev ScanSection := PayloadLocationType × BitVec 16

namespace MasterScan

/-- The value of an analog point in a word. The six-bit values are inverted. -/
def analogValue (point : CBAnalogCounterPoint) (data : BitVec 16) : BitVec 16 :=
  if point.pointType = .ANA6 then
    63#16 - (if point.channel = 1 then (data >>> 6) &&& 0x3F#16 else data &&& 0x3F#16)
  else data

/-- Store the value of an analog point. The event carries the word of the place. -/
def receiveAnalog (data : BitVec 16) (now : Nat) (table : PointTable) (index : Nat) :
    PointTable × List PublishedEvent :=
  let point := (table.analog.odcPointMap index).getD default
  ({ table with
      analog := table.analog.modify index (·.setAnalog (analogValue point data).toNat now) },
    [.Analog point.index data now])

def receiveCounter (data : BitVec 16) (now : Nat) (table : PointTable) (index : Nat) :
    PointTable × List PublishedEvent :=
  let point := (table.counter.odcPointMap index).getD default
  ({ table with counter := table.counter.modify index (·.setAnalog data.toNat now) },
    [.Counter point.index data now])

/-- Publish a binary value that is new. -/
def sendBinaryEvent (table : PointTable) (index : Nat) (bitvalue : Bool) (now : Nat) :
    PointTable × List PublishedEvent :=
  let point := (table.binary.odcPointMap index).getD default
  if point.binary ≠ bitvalue ∨ point.hasBeenSet = false then
    ({ table with binary := table.binary.modify index (·.setBinary bitvalue now) },
      [.Binary point.index bitvalue now])
  else (table, [])

/-- The bit of a binary input in a word. -/
def bitshift (isBakerDevice : Bool) (ch : Nat) : Nat := if isBakerDevice then ch - 1 else 12 - ch

/-- The bit of the value of a momentary contact in a word. -/
def bitshiftval (isBakerDevice : Bool) (ch : Nat) : Nat :=
  if isBakerDevice then 1 + (ch - 1) * 2 else 10 - (ch - 1) * 2

/-- The value of a binary point in a word. The change mark of a momentary contact is not used. -/
def receiveBinary (isBakerDevice : Bool) (data : BitVec 16) (now : Nat) (table : PointTable)
    (index : Nat) : PointTable × List PublishedEvent :=
  let point := (table.binary.odcPointMap index).getD default
  match point.pointType with
  | .DIG => sendBinaryEvent table index (data.getLsbD (bitshift isBakerDevice point.channel)) now
  | .MCA =>
    sendBinaryEvent table index (!data.getLsbD (bitshiftval isBakerDevice point.channel)) now
  | .MCB | .MCC =>
    sendBinaryEvent table index (data.getLsbD (bitshiftval isBakerDevice point.channel)) now
  | .BINCONTROL => (table, [])

/-- Read one section. -/
def proccessScanPayload (isBakerDevice : Bool) (group now : Nat) (table : PointTable)
    (payload : ScanSection) : PointTable × List PublishedEvent :=
  let analogs := table.matchingAnalogPoints group payload.1
  if analogs ≠ [] then run (receiveAnalog payload.2 now) table analogs
  else
    match table.matchingCounterPoint group payload.1 with
    | some index => receiveCounter payload.2 now table index
    | none =>
      run (receiveBinary isBakerDevice payload.2 now) table
        (table.matchingBinaryPoints group payload.1)

/-- The two sections of each block after the first. -/
def blockSections (packet : Nat) : CBMessage → List ScanSection
  | [] => []
  | block :: rest =>
    (⟨packet, .PositionA⟩, block.getA) :: (⟨packet, .PositionB⟩, block.getB) ::
      blockSections (packet + 1) rest

/-- The sections of a message: section A of the first block is its header. -/
def scanSections : CBMessage → List ScanSection
  | [] => []
  | header :: blocks => (⟨1, .PositionB⟩, header.getB) :: blockSections 2 blocks

/-- Read the answer to a scan. -/
def processScanRequestReturn (isBakerDevice : Bool) (table : PointTable)
    (completeCBMessage : CBMessage) (now : Nat) : PointTable × List PublishedEvent :=
  match completeCBMessage with
  | [] => (table, [])
  | header :: _ =>
    run (proccessScanPayload isBakerDevice header.getGroup now) table
      (scanSections completeCBMessage)

/-! ## One point of a section -/

/-- The kind and the ODC index of a point. -/
abbrev PointKey := PlaceUse × Nat

/-- The point with a key. -/
def pointAt (key : PointKey) (table : PointTable) :
    Option (CBAnalogCounterPoint ⊕ CBBinaryPoint) :=
  match key.1 with
  | .analog => (table.analog.odcPointMap key.2).map .inl
  | .counter => (table.counter.odcPointMap key.2).map .inl
  | .binary => (table.binary.odcPointMap key.2).map .inr

/-- The point that an event is about. -/
def eventKey : PublishedEvent → PointKey
  | .Analog index _ _ => (.analog, index)
  | .Counter index _ _ => (.counter, index)
  | .Binary index _ _ => (.binary, index)

/-- An event is about the point with the key. -/
def isAbout (key : PointKey) (event : PublishedEvent) : Bool := eventKey event == key

/-- The points that a section belongs to. -/
def matched (table : PointTable) (group : Nat) (payloadLocation : PayloadLocationType) :
    List PointKey :=
  let analogs := table.matchingAnalogPoints group payloadLocation
  if analogs ≠ [] then analogs.map (PlaceUse.analog, ·)
  else
    match table.matchingCounterPoint group payloadLocation with
    | some index => [(.counter, index)]
    | none => (table.matchingBinaryPoints group payloadLocation).map (PlaceUse.binary, ·)

/-- Read the word for one point. -/
def receive (isBakerDevice : Bool) (data : BitVec 16) (now : Nat) (table : PointTable)
    (key : PointKey) : PointTable × List PublishedEvent :=
  match key.1 with
  | .analog => receiveAnalog data now table key.2
  | .counter => receiveCounter data now table key.2
  | .binary => receiveBinary isBakerDevice data now table key.2

/-- **A section is read for each of its points.** -/
theorem proccessScanPayload_eq (isBakerDevice : Bool) (group now : Nat) (table : PointTable)
    (payload : ScanSection) :
    proccessScanPayload isBakerDevice group now table payload =
      run (receive isBakerDevice payload.2 now) table (matched table group payload.1) := by
  simp only [proccessScanPayload, matched]
  split
  · rw [run_map]
    rfl
  · split
    · rw [run_singleton]
      rfl
    · rw [run_map]
      rfl

/-! ## Points at their places -/

open PointTable

variable {calls : List PointCall} {start table : PointTable}

/-- The group and the place of the point with a key. -/
def placeOf (key : PointKey) (table : PointTable) : Option (Nat × PayloadLocationType) :=
  (pointAt key table).map
    (Sum.elim (fun point => (point.group, point.payloadLocation))
      fun point => (point.group, point.payloadLocation))

section Matched

variable {group : Nat} {payloadLocation : PayloadLocationType} {key : PointKey}

theorem placeOf_analog {index : Nat} :
    placeOf (.analog, index) table = some (group, payloadLocation) ↔
      ∃ point, table.analog.odcPointMap index = some point ∧ point.group = group ∧
        point.payloadLocation = payloadLocation := by
  simp [placeOf, pointAt]

theorem placeOf_counter {index : Nat} :
    placeOf (.counter, index) table = some (group, payloadLocation) ↔
      ∃ point, table.counter.odcPointMap index = some point ∧ point.group = group ∧
        point.payloadLocation = payloadLocation := by
  simp [placeOf, pointAt]

theorem placeOf_binary {index : Nat} :
    placeOf (.binary, index) table = some (group, payloadLocation) ↔
      ∃ point, table.binary.odcPointMap index = some point ∧ point.group = group ∧
        point.payloadLocation = payloadLocation := by
  simp [placeOf, pointAt]

/-- A point at a place was added there for its kind. -/
theorem use_of_placeOf (laid : Laid calls table)
    (here : placeOf key table = some (group, payloadLocation)) :
    ∃ call ∈ calls, call.use = some (key.1, group, payloadLocation) := by
  obtain ⟨use, index⟩ := key
  cases use with
  | analog =>
      obtain ⟨point, there, rfl, rfl⟩ := placeOf_analog.mp here
      exact ⟨_, laid.analog.added index point there, rfl⟩
  | counter =>
      obtain ⟨point, there, rfl, rfl⟩ := placeOf_counter.mp here
      exact ⟨_, laid.counter.added index point there, rfl⟩
  | binary =>
      obtain ⟨point, there, rfl, rfl⟩ := placeOf_binary.mp here
      exact ⟨_, laid.binary.added index point there, rfl⟩

/-- All points of a place are of one kind. -/
theorem sameUse (script : ScanScript calls) (laid : Laid calls table) {other : PointKey}
    (here : placeOf key table = some (group, payloadLocation))
    (there : placeOf other table = some (group, payloadLocation)) : key.1 = other.1 := by
  obtain ⟨first, member, used⟩ := use_of_placeOf laid here
  obtain ⟨second, member', used'⟩ := use_of_placeOf laid there
  exact script.exclusive _ (List.mem_filterMap.mpr ⟨first, member, used⟩) _
    (List.mem_filterMap.mpr ⟨second, member', used'⟩) rfl

/-- **A section belongs to the points of its place.** -/
theorem mem_matched (script : ScanScript calls) (laid : Laid calls table)
    (groupSmall : group < 16) (inScan : payloadLocation.InScan) :
    key ∈ matched table group payloadLocation ↔
      placeOf key table = some (group, payloadLocation) := by
  have analogs (index : Nat) : index ∈ table.matchingAnalogPoints group payloadLocation ↔
      placeOf (.analog, index) table = some (group, payloadLocation) := by
    rw [mem_matchingAnalogPoints script laid groupSmall inScan, placeOf_analog]
  have counters (index : Nat) : table.matchingCounterPoint group payloadLocation = some index ↔
      placeOf (.counter, index) table = some (group, payloadLocation) := by
    rw [matchingCounterPoint_eq_some script laid groupSmall inScan, placeOf_counter]
  have binaries (index : Nat) : index ∈ table.matchingBinaryPoints group payloadLocation ↔
      placeOf (.binary, index) table = some (group, payloadLocation) := by
    rw [mem_matchingBinaryPoints script laid groupSmall inScan, placeOf_binary]
  obtain ⟨use, index⟩ := key
  simp only [matched]
  split
  · next some =>
      obtain ⟨first, member⟩ := List.exists_mem_of_ne_nil _ some
      simp only [List.mem_map, Prod.mk.injEq, exists_eq_right_right]
      constructor
      · rintro ⟨found, rfl⟩
        exact (analogs index).mp found
      · intro here
        cases sameUse script laid here ((analogs first).mp member)
        exact ⟨(analogs index).mpr here, rfl⟩
  · next none =>
      have noAnalog (other : Nat) :
          placeOf (.analog, other) table ≠ some (group, payloadLocation) := by
        intro here
        have member := (analogs other).mpr here
        simp [not_not.mp none] at member
      split
      · next counter found =>
          have placed := (counters counter).mp found
          simp only [List.mem_singleton, Prod.mk.injEq]
          constructor
          · rintro ⟨rfl, rfl⟩
            exact placed
          · intro here
            cases sameUse script laid here placed
            exact ⟨rfl, Option.some.inj (((counters index).mpr here).symm.trans found)⟩
      · next noCounter =>
          simp only [List.mem_map, Prod.mk.injEq, exists_eq_right_right]
          constructor
          · rintro ⟨found, rfl⟩
            exact (binaries index).mp found
          · intro here
            cases use with
            | analog => exact absurd here (noAnalog index)
            | counter =>
                rw [(counters index).mpr here] at noCounter
                cases noCounter
            | binary => exact ⟨(binaries index).mpr here, rfl⟩

theorem nodup_matched (laid : Laid calls table) (groupSmall : group < 16)
    (inScan : payloadLocation.InScan) : (matched table group payloadLocation).Nodup := by
  simp only [matched]
  split
  · exact (laid.analog.nodup_channels groupSmall inScan.toOnWire (by decide)).map
      (Prod.mk_right_injective _)
  · split
    · exact List.nodup_singleton _
    · exact (laid.binary.nodup_channels groupSmall inScan.toOnWire (by decide)).map
        (Prod.mk_right_injective _)

end Matched

/-! ## Reading a word for a point -/

/-- The value of a binary point in a word, when its type has one. -/
def binaryValue (isBakerDevice : Bool) (point : CBBinaryPoint) (data : BitVec 16) : Option Bool :=
  match point.pointType with
  | .DIG => some (data.getLsbD (bitshift isBakerDevice point.channel))
  | .MCA => some (!data.getLsbD (bitshiftval isBakerDevice point.channel))
  | .MCB | .MCC => some (data.getLsbD (bitshiftval isBakerDevice point.channel))
  | .BINCONTROL => none

theorem receiveBinary_eq (isBakerDevice : Bool) (data : BitVec 16) (now : Nat)
    (table : PointTable) (index : Nat) :
    receiveBinary isBakerDevice data now table index =
      match binaryValue isBakerDevice ((table.binary.odcPointMap index).getD default) data with
      | some value => sendBinaryEvent table index value now
      | none => (table, []) := by
  simp only [receiveBinary, binaryValue]
  cases ((table.binary.odcPointMap index).getD default).pointType <;> rfl

/-- A binary value is stored and published when it is new, else nothing happens. -/
theorem receiveBinary_cases (isBakerDevice : Bool) (data : BitVec 16) (now : Nat)
    (table : PointTable) (index : Nat) :
    receiveBinary isBakerDevice data now table index = (table, []) ∨
      ∃ value, receiveBinary isBakerDevice data now table index =
        ({ table with binary := table.binary.modify index (·.setBinary value now) },
          [.Binary ((table.binary.odcPointMap index).getD default).index value now]) := by
  rw [receiveBinary_eq]
  split
  · next value _ =>
      simp only [sendBinaryEvent]
      split
      · exact .inr ⟨value, rfl⟩
      · exact .inl rfl
  · exact .inl rfl

/-- Reading changes values only. -/
theorem receive_sameLayout (isBakerDevice : Bool) (data : BitVec 16) (now : Nat)
    (same : SameLayout start table) (key : PointKey) :
    SameLayout start (receive isBakerDevice data now table key).1 := by
  obtain ⟨use, index⟩ := key
  cases use with
  | analog => exact { same with analog := same.analog.modify index fun _ => rfl }
  | counter => exact { same with counter := same.counter.modify index fun _ => rfl }
  | binary =>
      simp only [receive]
      rcases receiveBinary_cases isBakerDevice data now table index with nothing | ⟨value, stored⟩
      · rw [nothing]
        exact same
      · rw [stored]
        exact { same with binary := same.binary.modify index fun _ => rfl }

/-- Reading for one point leaves the other points alone. -/
theorem receive_other (isBakerDevice : Bool) (data : BitVec 16) (now : Nat) (table : PointTable)
    {key other : PointKey} (distinct : other ≠ key) :
    pointAt key (receive isBakerDevice data now table other).1 = pointAt key table := by
  obtain ⟨use, index⟩ := key
  obtain ⟨use', index'⟩ := other
  cases use' with
  | analog =>
      cases use with
      | analog =>
          have apart : index ≠ index' := fun same => distinct (by rw [same])
          simp [pointAt, receive, receiveAnalog, PointMaps.modify_odcPointMap, apart]
      | counter => rfl
      | binary => rfl
  | counter =>
      cases use with
      | counter =>
          have apart : index ≠ index' := fun same => distinct (by rw [same])
          simp [pointAt, receive, receiveCounter, PointMaps.modify_odcPointMap, apart]
      | analog => rfl
      | binary => rfl
  | binary =>
      simp only [receive]
      rcases receiveBinary_cases isBakerDevice data now table index' with nothing | ⟨value, stored⟩
      · rw [nothing]
      · rw [stored]
        cases use with
        | binary =>
            have apart : index ≠ index' := fun same => distinct (by rw [same])
            simp [pointAt, PointMaps.modify_odcPointMap, apart]
        | analog => rfl
        | counter => rfl

/-- Reading for a point publishes events about it. -/
theorem receive_eventKey (isBakerDevice : Bool) (data : BitVec 16) (now : Nat)
    (laid : Laid calls table) {key : PointKey} (present : (pointAt key table).isSome) :
    ∀ event ∈ (receive isBakerDevice data now table key).2, eventKey event = key := by
  obtain ⟨use, index⟩ := key
  intro event member
  cases use with
  | analog =>
      simp only [pointAt, Option.isSome_map, Option.isSome_iff_exists] at present
      obtain ⟨point, there⟩ := present
      simp only [receive, receiveAnalog, there, Option.getD_some, List.mem_singleton] at member
      rw [member, eventKey, laid.analog.own index point there]
  | counter =>
      simp only [pointAt, Option.isSome_map, Option.isSome_iff_exists] at present
      obtain ⟨point, there⟩ := present
      simp only [receive, receiveCounter, there, Option.getD_some, List.mem_singleton] at member
      rw [member, eventKey, laid.counter.own index point there]
  | binary =>
      simp only [pointAt, Option.isSome_map, Option.isSome_iff_exists] at present
      obtain ⟨point, there⟩ := present
      simp only [receive] at member
      rcases receiveBinary_cases isBakerDevice data now table index with nothing | ⟨value, stored⟩
      · rw [nothing] at member
        cases member
      · rw [stored, there] at member
        rw [List.mem_singleton.mp member, eventKey, Option.getD_some,
          laid.binary.own index point there]

/-! ## What a scan does to a point -/

theorem placeOf_sameLayout (same : SameLayout start table) (key : PointKey) :
    placeOf key table = placeOf key start := by
  have reset {P : Type} {strip : P → P} {loaded maps : PointMaps P}
      (same : SameKind strip loaded maps) (place : P → Nat × PayloadLocationType)
      (hidden : ∀ point, place (strip point) = place point) (index : Nat) :
      (maps.odcPointMap index).map place = (loaded.odcPointMap index).map place := by
    have points := congrArg (Option.map place) (same.points index)
    simpa only [Option.map_map, Function.comp_def, hidden] using points
  obtain ⟨use, index⟩ := key
  cases use with
  | analog =>
      simpa [placeOf, pointAt, Option.map_map, Function.comp_def] using
        reset same.analog (fun point => (point.group, point.payloadLocation)) (fun _ => rfl) index
  | counter =>
      simpa [placeOf, pointAt, Option.map_map, Function.comp_def] using
        reset same.counter (fun point => (point.group, point.payloadLocation)) (fun _ => rfl) index
  | binary =>
      simpa [placeOf, pointAt, Option.map_map, Function.comp_def] using
        reset same.binary (fun point => (point.group, point.payloadLocation)) (fun _ => rfl) index

theorem pointAt_isSome {key : PointKey} {place : Nat × PayloadLocationType}
    (here : placeOf key table = some place) : (pointAt key table).isSome := by
  obtain ⟨point, there, -⟩ := Option.map_eq_some_iff.mp here
  rw [there]
  rfl

variable {key : PointKey} {group : Nat} {isBakerDevice : Bool} {now : Nat}

/-- A point does not see the reading for another point. -/
theorem receive_silent (laid : Laid calls start) (data : BitVec 16) {other : PointKey}
    (distinct : other ≠ key) {place : Nat × PayloadLocationType}
    (here : placeOf other start = some place) :
    Silent (receive isBakerDevice data now) (SameLayout start) (pointAt key) (isAbout key)
      other := by
  refine ⟨fun state same => receive_sameLayout isBakerDevice data now same other,
    fun state _ => receive_other isBakerDevice data now state distinct,
    fun state same => List.filter_eq_nil_iff.mpr fun event member => ?_⟩
  have present := pointAt_isSome ((placeOf_sameLayout same other).trans here)
  have about := receive_eventKey isBakerDevice data now (laid.sameLayout same) present event member
  simpa [isAbout, about] using distinct

theorem proccessScanPayload_sameLayout (payload : ScanSection) (same : SameLayout start table) :
    SameLayout start (proccessScanPayload isBakerDevice group now table payload).1 := by
  rw [proccessScanPayload_eq]
  exact run_invariant (SameLayout start)
    (fun _ other same => receive_sameLayout isBakerDevice payload.2 now same other) same _

/-- A point of another place does not see a section. -/
theorem proccessScanPayload_silent (script : ScanScript calls) (laid : Laid calls start)
    (groupSmall : group < 16) {payload : ScanSection} (inScan : payload.1.InScan)
    (elsewhere : placeOf key start ≠ some (group, payload.1)) :
    Silent (proccessScanPayload isBakerDevice group now) (SameLayout start) (pointAt key)
      (isAbout key) payload := by
  have silent (table : PointTable) (same : SameLayout start table) :
      ∀ other ∈ matched table group payload.1,
        Silent (receive isBakerDevice payload.2 now) (SameLayout start) (pointAt key)
          (isAbout key) other := by
    intro other member
    have here := (mem_matched script (laid.sameLayout same) groupSmall inScan).mp member
    rw [placeOf_sameLayout same] at here
    refine receive_silent laid payload.2 ?_ here
    rintro rfl
    exact elsewhere here
  have quiet (table : PointTable) (same : SameLayout start table) :=
    run_silent _ _ _ (silent table same) same
  refine ⟨fun table same => proccessScanPayload_sameLayout payload same, fun table same => ?_,
    fun table same => ?_⟩
  · rw [proccessScanPayload_eq]
    exact (quiet table same).2.1
  · rw [proccessScanPayload_eq]
    exact (quiet table same).2.2

/-- A point sees the section of its own place once. -/
theorem proccessScanPayload_own (script : ScanScript calls) (laid : Laid calls start)
    (groupSmall : group < 16) {payload : ScanSection} (inScan : payload.1.InScan)
    (own : placeOf key start = some (group, payload.1)) (same : SameLayout start table) :
    ∃ here, SameLayout start here ∧ pointAt key here = pointAt key table ∧
      pointAt key (proccessScanPayload isBakerDevice group now table payload).1 =
        pointAt key (receive isBakerDevice payload.2 now here key).1 ∧
      (proccessScanPayload isBakerDevice group now table payload).2.filter (isAbout key) =
        (receive isBakerDevice payload.2 now here key).2.filter (isAbout key) := by
  have there (other : PointKey) : other ∈ matched table group payload.1 ↔
      placeOf other start = some (group, payload.1) := by
    rw [mem_matched script (laid.sameLayout same) groupSmall inScan, placeOf_sameLayout same]
  have once := nodup_matched (laid.sameLayout same) groupSmall inScan
  obtain ⟨before, after, split⟩ := List.append_of_mem ((there key).mpr own)
  have silent (other : PointKey) (member : other ∈ before ++ after) :
      Silent (receive isBakerDevice payload.2 now) (SameLayout start) (pointAt key)
        (isAbout key) other := by
    have placed : other ∈ matched table group payload.1 := by
      rw [split]
      simp only [List.mem_append, List.mem_cons] at member ⊢
      tauto
    refine receive_silent laid payload.2 ?_ ((there other).mp placed)
    rintro rfl
    rw [split, List.nodup_middle, List.nodup_cons] at once
    exact once.1 member
  rw [proccessScanPayload_eq, split]
  exact run_once _ _ _ (fun other member => silent other (List.mem_append_left _ member))
    (fun other member => silent other (List.mem_append_right _ member))
    (fun state same => receive_sameLayout isBakerDevice payload.2 now same key) same

/-- **A scan does to a point what the section of its place does.** -/
theorem scan_own (script : ScanScript calls) (laid : Laid calls start) (groupSmall : group < 16)
    {sections : List ScanSection} (inScan : ∀ payload ∈ sections, payload.1.InScan)
    (once : (sections.map Prod.fst).Nodup) (payload : ScanSection) (member : payload ∈ sections)
    (own : placeOf key start = some (group, payload.1)) :
    ∃ here, SameLayout start here ∧ pointAt key here = pointAt key start ∧
      pointAt key (run (proccessScanPayload isBakerDevice group now) start sections).1 =
        pointAt key (receive isBakerDevice payload.2 now here key).1 ∧
      (run (proccessScanPayload isBakerDevice group now) start sections).2.filter (isAbout key) =
        (receive isBakerDevice payload.2 now here key).2.filter (isAbout key) := by
  obtain ⟨before, after, rfl⟩ := List.append_of_mem member
  have silent (other : ScanSection) (among : other ∈ before ++ after) :
      Silent (proccessScanPayload isBakerDevice group now) (SameLayout start) (pointAt key)
        (isAbout key) other := by
    refine proccessScanPayload_silent script laid groupSmall (inScan other ?_) ?_
    · simp only [List.mem_append, List.mem_cons] at among ⊢
      tauto
    · intro here
      rw [own] at here
      have sameFst : payload.1 = other.1 := (Prod.mk.inj (Option.some.inj here)).2
      rw [List.map_append, List.map_cons, List.nodup_middle, List.nodup_cons, ← List.map_append]
        at once
      exact once.1 (sameFst ▸ List.mem_map_of_mem among)
  obtain ⟨there, same, view, stored, events⟩ := run_once (SameLayout start) (pointAt key)
    (isAbout key)
    (fun other among => silent other (List.mem_append_left _ among))
    (fun other among => silent other (List.mem_append_right _ among))
    (fun state same => proccessScanPayload_sameLayout payload same) (SameLayout.refl start)
  obtain ⟨here, sameHere, viewHere, storedHere, eventsHere⟩ :=
    proccessScanPayload_own script laid groupSmall (inScan payload member) own same
  exact ⟨here, sameHere, viewHere.trans view, stored.trans storedHere, events.trans eventsHere⟩

end MasterScan

end OpenDataCon.CBPort

import OpenDataCon.CBPort.PointTable
import Mathlib.Data.List.Nodup

/-!
# The layout of a loaded table

The two ends of a line load the same additions. When every addition is accepted
and no ODC index is used twice for one kind of point, the table is laid out by
the additions (`load_laid`): the map over CB indexes finds each point at its
place and finds nothing else, no two binary points of a place share a bit, and
the last packet of a group is not before the packet of any point in it.

The layout does not depend on the values of the points (`Laid.sameLayout`).
-/

set_option autoImplicit false

namespace OpenDataCon.CBPort

/-! ## Two maps over one kind of point -/

/-- Every point is found at its place, and nothing else is found. -/
structure PointMaps.Indexed {P : Type} (place : P → Nat) (maps : PointMaps P) : Prop where
  placed : ∀ index point, maps.odcPointMap index = some point →
    maps.cbPointMap (place point) = some index
  found : ∀ cbIndex index, maps.cbPointMap cbIndex = some index →
    ∃ point, maps.odcPointMap index = some point ∧ place point = cbIndex

namespace PointMaps

variable {P : Type} {place : P → Nat} {maps : PointMaps P}

theorem indexed_empty : Indexed place {} := ⟨nofun, nofun⟩

/-- A new point at a free place. -/
theorem Indexed.insert (indexed : Indexed place maps) {index : Nat} {point : P}
    (free : maps.cbPointMap (place point) = none) (absent : maps.odcPointMap index = none) :
    Indexed place (maps.insert (place point) index point) := by
  have entered := insert_odcPointMap absent (place point) point
  constructor
  · intro other found there
    simp only [PointMaps.insert, Function.update_apply]
    rcases (entered other found).mp there with ⟨rfl, rfl⟩ | before
    · rw [if_pos rfl]
    · have elsewhere : place found ≠ place point := by
        intro same
        have taken := indexed.placed other found before
        rw [same, free] at taken
        cases taken
      rw [if_neg elsewhere]
      exact indexed.placed other found before
  · intro cbIndex other there
    simp only [PointMaps.insert, Function.update_apply] at there
    split at there
    · next here =>
        cases there
        exact ⟨point, (entered index point).mpr (.inl ⟨rfl, rfl⟩), here.symm⟩
    · obtain ⟨found, before, same⟩ := indexed.found cbIndex other there
      exact ⟨found, (entered other found).mpr (.inr before), same⟩

/-- Two places hold different points. -/
theorem Indexed.place_inj (indexed : Indexed place maps) {index : Nat} {point : P}
    (first : maps.odcPointMap index = some point) {cbIndex : Nat}
    (second : maps.cbPointMap cbIndex = some index) : cbIndex = place point := by
  obtain ⟨found, there, same⟩ := indexed.found cbIndex index second
  rw [first] at there
  cases there
  exact same.symm

end PointMaps

/-! ## Additions that a scan can carry -/

/-- A place that is scanned: not the section that holds the station and the group. -/
structure PayloadLocationType.InScan (payloadLocation : PayloadLocationType) : Prop
    extends payloadLocation.OnWire where
  notHeader : payloadLocation ≠ ⟨1, .PositionA⟩

instance (payloadLocation : PayloadLocationType) : Decidable payloadLocation.InScan :=
  decidable_of_iff
    ((1 ≤ payloadLocation.packet ∧ payloadLocation.packet ≤ 16 ∧
      payloadLocation.position ≠ .Error) ∧ payloadLocation ≠ ⟨1, .PositionA⟩)
    ⟨fun h => ⟨⟨h.1.1, h.1.2.1, h.1.2.2⟩, h.2⟩,
      fun h => ⟨⟨h.first, h.last, h.position⟩, h.notHeader⟩⟩

/-- What a place is used for. -/
inductive PlaceUse where
  | analog | counter | binary
deriving DecidableEq, Repr

def CBAnalogCounterPoint.place (point : CBAnalogCounterPoint) : Nat :=
  getCBPointMapIndex point.group point.channel point.payloadLocation

def CBBinaryPoint.place (point : CBBinaryPoint) : Nat :=
  getCBPointMapIndex point.group point.channel point.payloadLocation

namespace PointTable

/-- The bits that a binary point takes. -/
def takenBits (pointType : BinaryPointType) (channel : Nat) : List Nat :=
  if isDualBit pointType then [firstBit pointType channel, firstBit pointType channel + 1]
  else [firstBit pointType channel]

namespace PointCall

/-- What the loader checks of a point, and what the code asserts of its group. -/
def WellFormed : PointCall → Prop
  | .analog _ group channel payloadLocation pointType =>
    group < 16 ∧ payloadLocation.InScan ∧
      ((pointType = .ANA ∧ channel = 1) ∨ (pointType = .ANA6 ∧ 1 ≤ channel ∧ channel ≤ 2))
  | .counter _ group channel payloadLocation pointType =>
    group < 16 ∧ payloadLocation.InScan ∧ (pointType = .ACC12 ∨ pointType = .ACC24) ∧ channel = 1
  | .binary _ group channel payloadLocation pointType _ _ =>
    group < 16 ∧ payloadLocation.InScan ∧
      ((pointType = .DIG ∧ 1 ≤ channel ∧ channel ≤ 12) ∨
        (isDualBit pointType = true ∧ 1 ≤ channel ∧ channel ≤ 6))
  | .statusByte group payloadLocation => group < 16 ∧ payloadLocation.InScan
  | .analogControl .. | .binaryControl .. => True

instance : DecidablePred WellFormed
  | .analog .. | .counter .. | .binary .. => inferInstanceAs (Decidable (_ ∧ _ ∧ _))
  | .statusByte .. => inferInstanceAs (Decidable (_ ∧ _))
  | .analogControl .. | .binaryControl .. => .isTrue trivial

/-- The use that an addition makes of a place. -/
def use : PointCall → Option (PlaceUse × Nat × PayloadLocationType)
  | .analog _ group _ payloadLocation _ => some (.analog, group, payloadLocation)
  | .counter _ group _ payloadLocation _ => some (.counter, group, payloadLocation)
  | .binary _ group _ payloadLocation _ _ _ => some (.binary, group, payloadLocation)
  | _ => none

/-- A place in use is scanned. -/
theorem WellFormed.inScan {call : PointCall} (wellFormed : call.WellFormed) {use : PlaceUse}
    {group : Nat} {payloadLocation : PayloadLocationType}
    (used : call.use = some (use, group, payloadLocation)) : payloadLocation.InScan := by
  cases call <;> cases used <;> exact wellFormed.2.1

/-- The ODC index of a point that is scanned, with its kind. -/
def odcIndex : PointCall → Option (PlaceUse × Nat)
  | .analog index .. => some (.analog, index)
  | .counter index .. => some (.counter, index)
  | .binary index .. => some (.binary, index)
  | _ => none

end PointCall

/-- Additions of distinct points, each place for one use. -/
structure ScanScript (calls : List PointCall) : Prop where
  wellFormed : ∀ call ∈ calls, call.WellFormed
  distinct : (calls.filterMap PointCall.odcIndex).Nodup
  exclusive : ∀ first ∈ calls.filterMap PointCall.use, ∀ second ∈ calls.filterMap PointCall.use,
    first.2 = second.2 → first.1 = second.1

/-! ## The last packet of a group -/

/-- The last packets cover the places in use, and are packets of the wire. -/
structure PacketsLaid (calls : List PointCall) (table : PointTable) : Prop where
  covered : ∀ call ∈ calls, ∀ use group payloadLocation,
    call.use = some (use, group, payloadLocation) →
    ∃ last, table.maxiumPayloadPerGroupMap group = some last ∧ payloadLocation.packet ≤ last
  onWire : ∀ group last, table.maxiumPayloadPerGroupMap group = some last → last ≤ 16

/-- The last packet of the group is the later one; the other groups keep theirs. -/
theorem updateMaxPayload_apply (table : PointTable) (group : Nat)
    (payloadLocation : PayloadLocationType) (other : Nat) :
    (table.updateMaxPayload group payloadLocation).maxiumPayloadPerGroupMap other =
      if other = group then
        some (max ((table.maxiumPayloadPerGroupMap group).getD 0) payloadLocation.packet)
      else table.maxiumPayloadPerGroupMap other := by
  cases known : table.maxiumPayloadPerGroupMap group with
  | none =>
      rw [updateMaxPayload, known]
      simp [Function.update_apply]
  | some last =>
      rw [updateMaxPayload, known]
      by_cases later : last < payloadLocation.packet
      · simp [later, Function.update_apply, Nat.max_eq_right (Nat.le_of_lt later)]
      · simp only [later, if_false, Option.getD_some, Nat.max_eq_left (Nat.le_of_not_lt later)]
        split
        · next same => rw [same, known]
        · rfl

/-- Another place of the wire is counted in. -/
theorem PacketsLaid.grow {calls : List PointCall} {table : PointTable}
    (laid : PacketsLaid calls table) (group : Nat) {payloadLocation : PayloadLocationType}
    (small : payloadLocation.packet ≤ 16) :
    PacketsLaid calls (table.updateMaxPayload group payloadLocation) := by
  constructor
  · intro other member use group' payloadLocation' used
    rw [updateMaxPayload_apply]
    obtain ⟨last, known, covers⟩ := laid.covered other member use group' payloadLocation' used
    split
    · next same =>
        refine ⟨_, rfl, covers.trans ?_⟩
        rw [← same, known]
        exact Nat.le_max_left last _
    · exact ⟨last, known, covers⟩
  · intro other last known
    rw [updateMaxPayload_apply] at known
    split at known
    · cases known
      refine Nat.max_le.mpr ⟨?_, small⟩
      cases before : table.maxiumPayloadPerGroupMap group with
      | none => exact Nat.zero_le _
      | some last => exact laid.onWire group last before
    · exact laid.onWire other last known

/-- An addition to a place of the wire. -/
theorem PacketsLaid.update {calls : List PointCall} {table : PointTable}
    (laid : PacketsLaid calls table) (call : PointCall) {use : PlaceUse} {group : Nat}
    {payloadLocation : PayloadLocationType} (small : payloadLocation.packet ≤ 16)
    (used : call.use = some (use, group, payloadLocation)) :
    PacketsLaid (calls ++ [call]) (table.updateMaxPayload group payloadLocation) := by
  have grown := laid.grow group small
  refine ⟨fun other member use' group' payloadLocation' used' => ?_, grown.onWire⟩
  rcases List.mem_append.mp member with before | here
  · exact grown.covered other before use' group' payloadLocation' used'
  · cases List.mem_singleton.mp here
    rw [used] at used'
    cases used'
    rw [updateMaxPayload_apply, if_pos rfl]
    exact ⟨_, rfl, Nat.le_max_right _ _⟩

/-- An addition that no scan carries. -/
theorem PacketsLaid.other {calls : List PointCall} {table : PointTable}
    (laid : PacketsLaid calls table) (call : PointCall) (unused : call.use = none) :
    PacketsLaid (calls ++ [call]) table := by
  refine ⟨fun other member use group payloadLocation used => ?_, laid.onWire⟩
  rcases List.mem_append.mp member with before | here
  · exact laid.covered other before use group payloadLocation used
  · cases List.mem_singleton.mp here
    rw [unused] at used
    cases used

/-! ## The bits of a place -/

/-- The bits of the binary points are taken, and no two points share one. -/
structure BitsLaid (table : PointTable) : Prop where
  taken : ∀ index point, table.binary.odcPointMap index = some point →
    ∀ bit ∈ takenBits point.pointType point.channel,
      table.binaryCBBitMap (getCBBitMapIndex point.group bit point.payloadLocation) = true
  apart : ∀ index point other found, table.binary.odcPointMap index = some point →
    table.binary.odcPointMap other = some found → index ≠ other → point.group = found.group →
    point.payloadLocation = found.payloadLocation →
    ∀ bit ∈ takenBits point.pointType point.channel,
      bit ∉ takenBits found.pointType found.channel

theorem takeBit_accepted (table : PointTable) {cbBitIndex : Nat}
    (accepted : (table.takeBit cbBitIndex).2 = true) :
    table.binaryCBBitMap cbBitIndex = false ∧
      (table.takeBit cbBitIndex).1 =
        { table with
          binaryCBBitMap := Function.update table.binaryCBBitMap cbBitIndex true } := by
  unfold takeBit at accepted ⊢
  split at accepted
  · cases accepted
  · next free =>
      rw [if_neg free]
      exact ⟨by simpa using free, rfl⟩

/-- An accepted point takes bits that were free. -/
theorem checkForBinaryBitClash_accepted {table : PointTable} {group channel : Nat}
    {payloadLocation : PayloadLocationType} {pointType : BinaryPointType}
    (accepted : (table.checkForBinaryBitClash group channel payloadLocation pointType).2 = true) :
    ∃ bits, (table.checkForBinaryBitClash group channel payloadLocation pointType).1 =
        { table with binaryCBBitMap := bits } ∧
      (∀ bit ∈ takenBits pointType channel,
        table.binaryCBBitMap (getCBBitMapIndex group bit payloadLocation) = false ∧
          bits (getCBBitMapIndex group bit payloadLocation) = true) ∧
      ∀ cbBitIndex, table.binaryCBBitMap cbBitIndex = true → bits cbBitIndex = true := by
  have keeps (bits : Nat → Bool) (index cbBitIndex : Nat) (held : bits cbBitIndex = true) :
      Function.update bits index true cbBitIndex = true := by
    rw [Function.update_apply]
    split
    · rfl
    · exact held
  simp only [checkForBinaryBitClash] at accepted ⊢
  split at accepted
  · next refused => simp [accepted] at refused
  · next first =>
      rw [if_neg first]
      obtain ⟨free, taken⟩ := takeBit_accepted table (by simpa using first)
      split at accepted
      · next dual =>
          rw [if_pos dual]
          obtain ⟨freeToo, takenToo⟩ := takeBit_accepted _ accepted
          rw [taken] at freeToo takenToo
          rw [taken, takenToo]
          have before : table.binaryCBBitMap (getCBBitMapIndex group
              (firstBit pointType channel + 1) payloadLocation) = false := by
            cases held : table.binaryCBBitMap (getCBBitMapIndex group
              (firstBit pointType channel + 1) payloadLocation) with
            | false => rfl
            | true =>
                have kept := keeps table.binaryCBBitMap
                  (getCBBitMapIndex group (firstBit pointType channel) payloadLocation) _ held
                simp only [kept] at freeToo
                cases freeToo
          refine ⟨_, rfl, fun bit member => ?_, fun cbBitIndex held =>
            keeps _ _ _ (keeps _ _ _ held)⟩
          simp only [takenBits, dual, if_true, List.mem_cons, List.not_mem_nil, or_false] at member
          rcases member with rfl | rfl
          · exact ⟨free, keeps _ _ _ (Function.update_self _ _ _)⟩
          · exact ⟨before, Function.update_self _ _ _⟩
      · next single =>
          rw [if_neg single, taken]
          refine ⟨_, rfl, fun bit member => ?_, fun cbBitIndex held => keeps _ _ _ held⟩
          simp only [takenBits, single, Bool.false_eq_true, if_false, List.mem_singleton] at member
          subst member
          exact ⟨free, Function.update_self _ _ _⟩

/-- A new point with bits of its own. -/
theorem BitsLaid.insert {table after : PointTable} (laid : BitsLaid table) {cbIndex index : Nat}
    {point : CBBinaryPoint} (absent : table.binary.odcPointMap index = none)
    (entered : after.binary = table.binary.insert cbIndex index point)
    (own : ∀ bit ∈ takenBits point.pointType point.channel,
      table.binaryCBBitMap (getCBBitMapIndex point.group bit point.payloadLocation) = false ∧
        after.binaryCBBitMap (getCBBitMapIndex point.group bit point.payloadLocation) = true)
    (keeps : ∀ cbBitIndex, table.binaryCBBitMap cbBitIndex = true →
      after.binaryCBBitMap cbBitIndex = true) : BitsLaid after := by
  have cases (other : Nat) (found : CBBinaryPoint)
      (there : after.binary.odcPointMap other = some found) :
      (other = index ∧ found = point) ∨ table.binary.odcPointMap other = some found :=
    (PointMaps.insert_odcPointMap absent cbIndex point other found).mp (entered ▸ there)
  -- a bit of the new point was free, so it is no bit of a point that was there
  have apart (other : Nat) (found : CBBinaryPoint)
      (there : table.binary.odcPointMap other = some found) (group : point.group = found.group)
      (place : point.payloadLocation = found.payloadLocation) (bit : Nat)
      (mine : bit ∈ takenBits point.pointType point.channel)
      (theirs : bit ∈ takenBits found.pointType found.channel) : False := by
    have taken := laid.taken other found there bit theirs
    rw [← group, ← place, (own bit mine).1] at taken
    cases taken
  constructor
  · intro other found there bit member
    rcases cases other found there with ⟨-, rfl⟩ | before
    · exact (own bit member).2
    · exact keeps _ (laid.taken other found before bit member)
  · intro first found second found' there there' distinct group place bit mine theirs
    rcases cases first found there with ⟨rfl, rfl⟩ | before
    · rcases cases second found' there' with ⟨rfl, rfl⟩ | before'
      · exact distinct rfl
      · exact apart second found' before' group place bit mine theirs
    · rcases cases second found' there' with ⟨rfl, rfl⟩ | before'
      · exact apart first found before group.symm place.symm bit theirs mine
      · exact laid.apart first found second found' before before' distinct group place bit mine
          theirs

/-! ## The layout -/

/-- The points of one kind: found at their places, and from the additions. -/
structure KindLaid {P : Type} (place indexOf : P → Nat) (addition : P → PointCall)
    (calls : List PointCall) (maps : PointMaps P) : Prop where
  indexed : maps.Indexed place
  own : ∀ index point, maps.odcPointMap index = some point → indexOf point = index
  added : ∀ index point, maps.odcPointMap index = some point → addition point ∈ calls

section KindLaid

variable {P : Type} {place indexOf : P → Nat} {addition : P → PointCall} {calls : List PointCall}
  {maps : PointMaps P}

theorem KindLaid.more (laid : KindLaid place indexOf addition calls maps) (call : PointCall) :
    KindLaid place indexOf addition (calls ++ [call]) maps :=
  ⟨laid.indexed, laid.own, fun index point there =>
    List.mem_append_left _ (laid.added index point there)⟩

/-- A new ODC index has no point yet. -/
theorem KindLaid.absent (laid : KindLaid place indexOf addition calls maps) {use : PlaceUse}
    (named : ∀ point, (addition point).odcIndex = some (use, indexOf point)) {index : Nat}
    (fresh : (use, index) ∉ calls.filterMap PointCall.odcIndex) :
    maps.odcPointMap index = none := by
  cases there : maps.odcPointMap index with
  | none => rfl
  | some point =>
      refine absurd (List.mem_filterMap.mpr ⟨addition point, laid.added index point there, ?_⟩)
        fresh
      rw [named, laid.own index point there]

theorem KindLaid.insert (laid : KindLaid place indexOf addition calls maps) (point : P)
    (free : maps.cbPointMap (place point) = none)
    (absent : maps.odcPointMap (indexOf point) = none) :
    KindLaid place indexOf addition (calls ++ [addition point])
      (maps.insert (place point) (indexOf point) point) := by
  have entered := PointMaps.insert_odcPointMap absent (place point) point
  refine ⟨laid.indexed.insert free absent, fun index found there => ?_,
    fun index found there => ?_⟩
  · rcases (entered index found).mp there with ⟨rfl, rfl⟩ | before
    · rfl
    · exact laid.own index found before
  · rcases (entered index found).mp there with ⟨rfl, rfl⟩ | before
    · exact List.mem_append_right _ (List.mem_singleton.mpr rfl)
    · exact List.mem_append_left _ (laid.added index found before)

end KindLaid

/-- The additions that made a point. -/
def analogAddition (point : CBAnalogCounterPoint) : PointCall :=
  .analog point.index point.group point.channel point.payloadLocation point.pointType

def counterAddition (point : CBAnalogCounterPoint) : PointCall :=
  .counter point.index point.group point.channel point.payloadLocation point.pointType

def binaryAddition (point : CBBinaryPoint) : PointCall :=
  .binary point.index point.group point.channel point.payloadLocation point.pointType
    point.soePoint point.soeIndex

/-- A table that is laid out by some additions. -/
structure Laid (calls : List PointCall) (table : PointTable) : Prop where
  analog : KindLaid CBAnalogCounterPoint.place CBAnalogCounterPoint.index analogAddition calls
    table.analog
  counter : KindLaid CBAnalogCounterPoint.place CBAnalogCounterPoint.index counterAddition calls
    table.counter
  binary : KindLaid CBBinaryPoint.place CBBinaryPoint.index binaryAddition calls table.binary
  bits : BitsLaid table
  packets : PacketsLaid calls table

section Load

variable {calls : List PointCall} {table : PointTable}

/-- The table before any addition. -/
structure Empty (table : PointTable) : Prop where
  analog : table.analog = {}
  counter : table.counter = {}
  binary : table.binary = {}
  packets : table.maxiumPayloadPerGroupMap = fun _ => none

theorem laid_empty (empty : Empty table) : Laid [] table where
  analog := empty.analog ▸ ⟨PointMaps.indexed_empty, nofun, nofun⟩
  counter := empty.counter ▸ ⟨PointMaps.indexed_empty, nofun, nofun⟩
  binary := empty.binary ▸ ⟨PointMaps.indexed_empty, nofun, nofun⟩
  bits := by constructor <;> simp [empty.binary]
  packets := ⟨nofun, by simp [empty.packets]⟩

/-- **One addition** that is accepted extends the layout. -/
theorem Laid.call (laid : Laid calls table) {call : PointCall} (wellFormed : call.WellFormed)
    (fresh : ∀ kind index, call.odcIndex = some (kind, index) →
      (kind, index) ∉ calls.filterMap PointCall.odcIndex)
    (accepted : (table.call call).2 = true) : Laid (calls ++ [call]) (table.call call).1 := by
  cases call with
  | analog index group channel payloadLocation pointType =>
      simp only [PointTable.call, addAnalogPointToPointTable] at accepted ⊢
      split at accepted
      · cases accepted
      · next free =>
          rw [if_neg free]
          have packets := laid.packets.update
            (.analog index group channel payloadLocation pointType) wellFormed.2.1.last rfl
          have analog := laid.analog.insert
            { index := index, group := group, channel := channel
              payloadLocation := payloadLocation, pointType := pointType }
            (by simpa [CBAnalogCounterPoint.place] using free)
            (laid.analog.absent (fun _ => rfl) (fresh _ _ rfl))
          exact ⟨analog, laid.counter.more _, laid.binary.more _, ⟨laid.bits.taken, laid.bits.apart⟩,
            ⟨packets.covered, packets.onWire⟩⟩
  | counter index group channel payloadLocation pointType =>
      simp only [PointTable.call, addCounterPointToPointTable] at accepted ⊢
      split at accepted
      · cases accepted
      · next free =>
          rw [if_neg free]
          have packets := laid.packets.update
            (.counter index group channel payloadLocation pointType) wellFormed.2.1.last rfl
          have counter := laid.counter.insert
            { index := index, group := group, channel := channel
              payloadLocation := payloadLocation, pointType := pointType }
            (by simpa [CBAnalogCounterPoint.place] using free)
            (laid.counter.absent (fun _ => rfl) (fresh _ _ rfl))
          exact ⟨laid.analog.more _, counter, laid.binary.more _, ⟨laid.bits.taken, laid.bits.apart⟩,
            ⟨packets.covered, packets.onWire⟩⟩
  | binary index group channel payloadLocation pointType isSOE soeIndex =>
      simp only [PointTable.call, addBinaryPointToPointTable] at accepted ⊢
      split at accepted
      · cases accepted
      · next free =>
          rw [if_neg free]
          split at accepted
          · next refused => simp [accepted] at refused
          · next clear =>
              rw [if_neg clear]
              have absent := laid.binary.absent (fun _ => rfl) (fresh _ _ rfl)
              have binary := laid.binary.insert
                { index := index, group := group, channel := channel
                  payloadLocation := payloadLocation, pointType := pointType, soePoint := isSOE
                  soeIndex := soeIndex }
                (by simpa [CBBinaryPoint.place] using free) absent
              obtain ⟨bits, frame, taken, keeps⟩ :=
                checkForBinaryBitClash_accepted (by simpa using clear)
              have checked : PacketsLaid calls { table with binaryCBBitMap := bits } :=
                ⟨laid.packets.covered, laid.packets.onWire⟩
              have packets := checked.update
                (.binary index group channel payloadLocation pointType isSOE soeIndex)
                wellFormed.2.1.last rfl
              rw [frame]
              refine ⟨laid.analog.more _, laid.counter.more _, binary, ?_,
                ⟨packets.covered, packets.onWire⟩⟩
              exact laid.bits.insert absent rfl taken keeps
  | analogControl index group channel pointType =>
      have same : ∃ control, (table.call (.analogControl index group channel pointType)).1 =
          { table with analogControl := control } := by
        simp only [PointTable.call, addAnalogControlPointToPointTable]
        split <;> exact ⟨_, rfl⟩
      obtain ⟨control, same⟩ := same
      rw [same]
      have packets := laid.packets.other (.analogControl index group channel pointType) rfl
      exact ⟨laid.analog.more _, laid.counter.more _, laid.binary.more _,
        ⟨laid.bits.taken, laid.bits.apart⟩, ⟨packets.covered, packets.onWire⟩⟩
  | binaryControl index group channel pointType =>
      have same : ∃ control, (table.call (.binaryControl index group channel pointType)).1 =
          { table with binaryControl := control } := by
        simp only [PointTable.call, addBinaryControlPointToPointTable]
        split
        · exact ⟨_, rfl⟩
        · split <;> exact ⟨_, rfl⟩
      obtain ⟨control, same⟩ := same
      rw [same]
      have packets := laid.packets.other (.binaryControl index group channel pointType) rfl
      exact ⟨laid.analog.more _, laid.counter.more _, laid.binary.more _,
        ⟨laid.bits.taken, laid.bits.apart⟩, ⟨packets.covered, packets.onWire⟩⟩
  | statusByte group payloadLocation =>
      have packets := (laid.packets.other (.statusByte group payloadLocation) rfl).grow group
        wellFormed.2.last
      exact ⟨laid.analog.more _, laid.counter.more _, laid.binary.more _,
        ⟨laid.bits.taken, laid.bits.apart⟩, ⟨packets.covered, packets.onWire⟩⟩

/-- **A script that is accepted lays the table out.** -/
theorem load_laid {calls : List PointCall} (script : ScanScript calls) {table : PointTable}
    (empty : Empty table) (accepted : (table.load calls).2 = true) :
    Laid calls (table.load calls).1 := by
  suffices later : ∀ (rest before : List PointCall) (table : PointTable), Laid before table →
      (∀ call ∈ rest, call.WellFormed) → ((before ++ rest).filterMap PointCall.odcIndex).Nodup →
      (table.load rest).2 = true → Laid (before ++ rest) (table.load rest).1 by
    exact later calls [] table (laid_empty empty) script.wellFormed script.distinct accepted
  intro rest
  induction rest with
  | nil => intro before table laid _ _ _; simpa [load] using laid
  | cons call rest ih =>
      intro before table laid wellFormed distinct accepted
      obtain ⟨first, later⟩ := Bool.and_eq_true_iff.mp accepted
      have fresh (kind : PlaceUse) (index : Nat) (named : call.odcIndex = some (kind, index)) :
          (kind, index) ∉ before.filterMap PointCall.odcIndex := by
        rw [List.filterMap_append, List.filterMap_cons, named] at distinct
        intro member
        exact List.disjoint_of_nodup_append distinct member List.mem_cons_self
      rw [List.append_cons] at distinct ⊢
      exact ih (before ++ [call]) (table.call call).1
        (laid.call (wellFormed call List.mem_cons_self) fresh first)
        (fun other member => wellFormed other (List.mem_cons_of_mem _ member)) distinct later

end Load

/-! ## The points of a place -/

/-- A point at a CB index is a point of the group and the place of the index. -/
theorem KindLaid.at_place {P : Type} {place indexOf : P → Nat} {addition : P → PointCall}
    {calls : List PointCall} {maps : PointMaps P}
    (laid : KindLaid place indexOf addition calls maps) {group channel index : Nat}
    {payloadLocation : PayloadLocationType} {point : P}
    (there : maps.odcPointMap index = some point)
    (found : maps.cbPointMap (getCBPointMapIndex group channel payloadLocation) = some index)
    {group' channel' : Nat} {payloadLocation' : PayloadLocationType}
    (own : place point = getCBPointMapIndex group' channel' payloadLocation')
    (groupSmall : group < 16) (channelSmall : channel < 16) (onWire : payloadLocation.OnWire)
    (groupSmall' : group' < 16) (channelSmall' : channel' < 16)
    (onWire' : payloadLocation'.OnWire) :
    group' = group ∧ channel' = channel ∧ payloadLocation' = payloadLocation := by
  have same := laid.indexed.place_inj there found
  rw [own] at same
  obtain ⟨rfl, rfl, rfl⟩ :=
    getCBBitMapIndex_inj groupSmall channelSmall onWire groupSmall' channelSmall' onWire' same
  exact ⟨rfl, rfl, rfl⟩

/-- Different channels of a place find different points. -/
theorem KindLaid.nodup_channels {P : Type} {place indexOf : P → Nat} {addition : P → PointCall}
    {calls : List PointCall} {maps : PointMaps P}
    (laid : KindLaid place indexOf addition calls maps) {group : Nat} (groupSmall : group < 16)
    {payloadLocation : PayloadLocationType} (onWire : payloadLocation.OnWire) {channels : Nat}
    (few : channels < 16) :
    ((List.range channels).filterMap fun i =>
      maps.cbPointMap (getCBPointMapIndex group (i + 1) payloadLocation)).Nodup := by
  have distinct : (List.range channels).Nodup := List.nodup_range
  rw [List.nodup_iff_pairwise_ne] at distinct ⊢
  rw [List.pairwise_filterMap]
  refine distinct.imp_of_mem fun {i j} iSmall jSmall apart index found index' found' same => apart ?_
  subst same
  obtain ⟨point, there, -⟩ := laid.indexed.found _ _ found
  have equal := (laid.indexed.place_inj there found).trans (laid.indexed.place_inj there found').symm
  have channel := (getCBBitMapIndex_inj groupSmall (by have := List.mem_range.mp iSmall; omega)
    onWire groupSmall (by have := List.mem_range.mp jSmall; omega) onWire equal).2.1
  omega

section Places

variable {calls : List PointCall} {table : PointTable} {group index : Nat}
  {payloadLocation : PayloadLocationType}

theorem mem_matchingAnalogPoints (script : ScanScript calls) (laid : Laid calls table)
    (groupSmall : group < 16) (inScan : payloadLocation.InScan) :
    index ∈ table.matchingAnalogPoints group payloadLocation ↔
      ∃ point, table.analog.odcPointMap index = some point ∧ point.group = group ∧
        point.payloadLocation = payloadLocation := by
  simp only [matchingAnalogPoints, List.mem_filterMap, List.mem_range]
  constructor
  · rintro ⟨i, small, found⟩
    obtain ⟨point, there, -⟩ := laid.analog.indexed.found _ index found
    obtain ⟨group', inScan', pointType⟩ := script.wellFormed _ (laid.analog.added index point there)
    obtain ⟨sameGroup, -, samePlace⟩ := laid.analog.at_place there found rfl groupSmall (by omega)
      inScan.toOnWire group' (by omega) inScan'.toOnWire
    exact ⟨point, there, sameGroup, samePlace⟩
  · rintro ⟨point, there, rfl, rfl⟩
    obtain ⟨-, -, pointType⟩ := script.wellFormed _ (laid.analog.added index point there)
    have placed := laid.analog.indexed.placed index point there
    refine ⟨point.channel - 1, by omega, ?_⟩
    rw [Nat.sub_add_cancel (by omega)]
    exact placed

theorem matchingCounterPoint_eq_some (script : ScanScript calls) (laid : Laid calls table)
    (groupSmall : group < 16) (inScan : payloadLocation.InScan) :
    table.matchingCounterPoint group payloadLocation = some index ↔
      ∃ point, table.counter.odcPointMap index = some point ∧ point.group = group ∧
        point.payloadLocation = payloadLocation := by
  unfold matchingCounterPoint
  constructor
  · intro found
    obtain ⟨point, there, -⟩ := laid.counter.indexed.found _ index found
    obtain ⟨group', inScan', pointType⟩ :=
      script.wellFormed _ (laid.counter.added index point there)
    obtain ⟨sameGroup, -, samePlace⟩ := laid.counter.at_place there found rfl groupSmall (by omega)
      inScan.toOnWire group' (by omega) inScan'.toOnWire
    exact ⟨point, there, sameGroup, samePlace⟩
  · rintro ⟨point, there, rfl, rfl⟩
    obtain ⟨-, -, -, channel⟩ := script.wellFormed _ (laid.counter.added index point there)
    have placed := laid.counter.indexed.placed index point there
    rwa [CBAnalogCounterPoint.place, channel] at placed

theorem mem_matchingBinaryPoints (script : ScanScript calls) (laid : Laid calls table)
    (groupSmall : group < 16) (inScan : payloadLocation.InScan) :
    index ∈ table.matchingBinaryPoints group payloadLocation ↔
      ∃ point, table.binary.odcPointMap index = some point ∧ point.group = group ∧
        point.payloadLocation = payloadLocation := by
  simp only [matchingBinaryPoints, List.mem_filterMap, List.mem_range]
  constructor
  · rintro ⟨i, small, found⟩
    obtain ⟨point, there, -⟩ := laid.binary.indexed.found _ index found
    obtain ⟨group', inScan', pointType⟩ := script.wellFormed _ (laid.binary.added index point there)
    obtain ⟨sameGroup, -, samePlace⟩ := laid.binary.at_place there found rfl groupSmall (by omega)
      inScan.toOnWire group' (by omega) inScan'.toOnWire
    exact ⟨point, there, sameGroup, samePlace⟩
  · rintro ⟨point, there, rfl, rfl⟩
    obtain ⟨-, -, pointType⟩ := script.wellFormed _ (laid.binary.added index point there)
    have placed := laid.binary.indexed.placed index point there
    refine ⟨point.channel - 1, by omega, ?_⟩
    rw [Nat.sub_add_cancel (by omega)]
    exact placed

end Places

/-! ## Tables with other values -/

/-- The maps hold the same points at the same places, up to what `strip` forgets. -/
structure SameKind {P : Type} (strip : P → P) (loaded maps : PointMaps P) : Prop where
  places : maps.cbPointMap = loaded.cbPointMap
  points : ∀ index, (maps.odcPointMap index).map strip = (loaded.odcPointMap index).map strip

/-- The tables differ in the values of their points, and not in their layout. -/
structure SameLayout (loaded table : PointTable) : Prop where
  analog : SameKind CBAnalogCounterPoint.resetAnalog loaded.analog table.analog
  counter : SameKind CBAnalogCounterPoint.resetAnalog loaded.counter table.counter
  binary : SameKind CBBinaryPoint.resetBinary loaded.binary table.binary
  bits : table.binaryCBBitMap = loaded.binaryCBBitMap
  packets : table.maxiumPayloadPerGroupMap = loaded.maxiumPayloadPerGroupMap
  statusByteGroup : table.statusByteGroup = loaded.statusByteGroup
  statusBytePlace : table.statusBytePayloadLocation = loaded.statusBytePayloadLocation

section SameKind

variable {P : Type} {strip : P → P} {loaded maps other : PointMaps P}

/-- A point has a counterpart with the same stripped fields. -/
theorem SameKind.counterpart (same : SameKind strip loaded maps) {index : Nat} {point : P}
    (there : maps.odcPointMap index = some point) :
    ∃ found, loaded.odcPointMap index = some found ∧ strip found = strip point := by
  have points := same.points index
  rw [there] at points
  obtain ⟨found, there, stripped⟩ := Option.map_eq_some_iff.mp points.symm
  exact ⟨found, there, stripped⟩

theorem SameKind.symm (same : SameKind strip loaded maps) : SameKind strip maps loaded :=
  ⟨same.places.symm, fun index => (same.points index).symm⟩

theorem SameKind.trans (same : SameKind strip loaded maps) (next : SameKind strip maps other) :
    SameKind strip loaded other :=
  ⟨next.places.trans same.places, fun index => (next.points index).trans (same.points index)⟩

/-- A change that the stripped fields do not show. -/
theorem SameKind.modify (same : SameKind strip loaded maps) (index : Nat) {change : P → P}
    (hidden : ∀ point, strip (change point) = strip point) :
    SameKind strip loaded (maps.modify index change) := by
  refine ⟨same.places, fun other => ?_⟩
  rw [PointMaps.modify_odcPointMap, ← same.points other]
  split
  · next here =>
      rw [here, Option.map_map]
      exact congrFun (congrArg Option.map (funext hidden)) _
  · rfl

theorem KindLaid.sameKind {place indexOf : P → Nat} {addition : P → PointCall}
    {calls : List PointCall} (laid : KindLaid place indexOf addition calls loaded)
    (same : SameKind strip loaded maps) (placeStrip : ∀ point, place (strip point) = place point)
    (indexStrip : ∀ point, indexOf (strip point) = indexOf point)
    (additionStrip : ∀ point, addition (strip point) = addition point) :
    KindLaid place indexOf addition calls maps := by
  have fields {index : Nat} {point : P} (there : maps.odcPointMap index = some point) :
      ∃ found, loaded.odcPointMap index = some found ∧ place found = place point ∧
        indexOf found = indexOf point ∧ addition found = addition point := by
    obtain ⟨found, before, stripped⟩ := same.counterpart there
    refine ⟨found, before, ?_, ?_, ?_⟩
    · rw [← placeStrip found, stripped, placeStrip]
    · rw [← indexStrip found, stripped, indexStrip]
    · rw [← additionStrip found, stripped, additionStrip]
  refine ⟨⟨fun index point there => ?_, fun cbIndex index there => ?_⟩,
    fun index point there => ?_, fun index point there => ?_⟩
  · obtain ⟨found, before, placed, -, -⟩ := fields there
    rw [same.places, ← placed]
    exact laid.indexed.placed index found before
  · rw [same.places] at there
    obtain ⟨found, before, placed⟩ := laid.indexed.found cbIndex index there
    obtain ⟨point, now, stripped⟩ := same.symm.counterpart before
    refine ⟨point, now, ?_⟩
    rw [← placeStrip point, stripped, placeStrip, placed]
  · obtain ⟨found, before, -, named, -⟩ := fields there
    rw [← named]
    exact laid.own index found before
  · obtain ⟨found, before, -, -, made⟩ := fields there
    rw [← made]
    exact laid.added index found before

end SameKind

theorem SameLayout.refl (table : PointTable) : SameLayout table table :=
  ⟨⟨rfl, fun _ => rfl⟩, ⟨rfl, fun _ => rfl⟩, ⟨rfl, fun _ => rfl⟩, rfl, rfl, rfl, rfl⟩

/-- **The layout does not depend on the values.** -/
theorem Laid.sameLayout {calls : List PointCall} {loaded table : PointTable}
    (laid : Laid calls loaded) (same : SameLayout loaded table) : Laid calls table where
  analog := laid.analog.sameKind same.analog (fun _ => rfl) (fun _ => rfl) fun _ => rfl
  counter := laid.counter.sameKind same.counter (fun _ => rfl) (fun _ => rfl) fun _ => rfl
  binary := laid.binary.sameKind same.binary (fun _ => rfl) (fun _ => rfl) fun _ => rfl
  bits := by
    have fields {index : Nat} {point : CBBinaryPoint}
        (there : table.binary.odcPointMap index = some point) :
        ∃ found, loaded.binary.odcPointMap index = some found ∧ found.group = point.group ∧
          found.payloadLocation = point.payloadLocation ∧ found.pointType = point.pointType ∧
          found.channel = point.channel := by
      obtain ⟨found, before, stripped⟩ := same.binary.counterpart there
      simp only [CBBinaryPoint.resetBinary, CBBinaryPoint.mk.injEq] at stripped
      exact ⟨found, before, by simp [stripped]⟩
    constructor
    · intro index point there
      obtain ⟨found, before, group, place, pointType, channel⟩ := fields there
      rw [same.bits, ← group, ← place, ← pointType, ← channel]
      exact laid.bits.taken index found before
    · intro index point other point' there there'
      obtain ⟨found, before, group, place, pointType, channel⟩ := fields there
      obtain ⟨found', before', group', place', pointType', channel'⟩ := fields there'
      rw [← group, ← place, ← pointType, ← channel, ← group', ← place', ← pointType', ← channel']
      exact laid.bits.apart index found other found' before before'
  packets := by
    obtain ⟨covered, onWire⟩ := laid.packets
    exact ⟨same.packets ▸ covered, same.packets ▸ onWire⟩

/-! ## Loading for either end -/

/-- The table is what the additions make, with any values. -/
def LoadedFrom (calls : List PointCall) (table : PointTable) : Prop :=
  SameLayout (({} : PointTable).load calls).1 table

theorem takeBit_build (table : PointTable) (cbBitIndex : Nat) (isOutstation : Bool)
    (soeQueueSize : Nat) :
    (table.build isOutstation soeQueueSize).takeBit cbBitIndex =
      ((table.takeBit cbBitIndex).1.build isOutstation soeQueueSize,
        (table.takeBit cbBitIndex).2) := by
  change (if table.binaryCBBitMap cbBitIndex then _ else _) = _
  unfold takeBit
  split <;> rfl

theorem checkForBinaryBitClash_build (table : PointTable) (group channel : Nat)
    (payloadLocation : PayloadLocationType) (pointType : BinaryPointType) (isOutstation : Bool)
    (soeQueueSize : Nat) :
    (table.build isOutstation soeQueueSize).checkForBinaryBitClash group channel payloadLocation
        pointType =
      ((table.checkForBinaryBitClash group channel payloadLocation pointType).1.build isOutstation
        soeQueueSize,
        (table.checkForBinaryBitClash group channel payloadLocation pointType).2) := by
  simp only [checkForBinaryBitClash, takeBit_build]
  split
  · rfl
  · split <;> rfl

/-- An addition does not depend on which end makes it. -/
theorem call_build (table : PointTable) (call : PointCall) (isOutstation : Bool)
    (soeQueueSize : Nat) :
    (table.build isOutstation soeQueueSize).call call =
      ((table.call call).1.build isOutstation soeQueueSize, (table.call call).2) := by
  cases call with
  | analog index group channel payloadLocation pointType =>
      simp only [PointTable.call, addAnalogPointToPointTable]
      change (if (table.analog.cbPointMap _).isSome then _ else _) = _
      split <;> rfl
  | counter index group channel payloadLocation pointType =>
      simp only [PointTable.call, addCounterPointToPointTable]
      change (if (table.counter.cbPointMap _).isSome then _ else _) = _
      split <;> rfl
  | binary index group channel payloadLocation pointType isSOE soeIndex =>
      simp only [PointTable.call, addBinaryPointToPointTable, checkForBinaryBitClash_build]
      change (if (table.binary.cbPointMap _).isSome then _ else _) = _
      split
      · rfl
      · split <;> rfl
  | analogControl index group channel pointType =>
      simp only [PointTable.call, addAnalogControlPointToPointTable]
      change (if (table.analogControl.cbPointMap _).isSome then _ else _) = _
      split <;> rfl
  | binaryControl index group channel pointType =>
      simp only [PointTable.call, addBinaryControlPointToPointTable]
      change (if (table.binaryControl.cbPointMap _).isSome then _ else
        if (table.binaryControl.odcPointMap _).isSome then _ else _) = _
      split
      · rfl
      · split <;> rfl
  | statusByte group payloadLocation => rfl

/-- The two ends load the same table, apart from the queue of events. -/
theorem load_build (table : PointTable) (calls : List PointCall) (isOutstation : Bool)
    (soeQueueSize : Nat) :
    (table.build isOutstation soeQueueSize).load calls =
      ((table.load calls).1.build isOutstation soeQueueSize, (table.load calls).2) := by
  induction calls generalizing table with
  | nil => rfl
  | cons call rest ih => simp only [load, call_build, ih]

/-- **What a port loads is loaded from its additions.** -/
theorem loadedFrom_load (calls : List PointCall) (isOutstation : Bool) (soeQueueSize : Nat) :
    LoadedFrom calls ((build {} isOutstation soeQueueSize).load calls).1 := by
  rw [load_build]
  exact ⟨⟨rfl, fun _ => rfl⟩, ⟨rfl, fun _ => rfl⟩, ⟨rfl, fun _ => rfl⟩, rfl, rfl, rfl, rfl⟩

end PointTable

end OpenDataCon.CBPort

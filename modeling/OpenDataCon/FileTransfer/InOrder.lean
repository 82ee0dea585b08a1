import OpenDataCon.FileTransfer.Rx

/-!
# The receiving port takes events in the order in which they were sent

While a file is received the port looks for the event at its sequence number,
otherwise for a filename (`Rx.expected`). When the events that were sent are each
what the port expects after the ones before it (`Accepted`), the port takes them in
this order, however they were reordered on the way: after all events have arrived it
is in the state in which they leave it one after the other (`receives_inOrder`).
-/

set_option autoImplicit false

namespace OpenDataCon.FileTransfer

open Resequencing

/-! ## The event in turn -/

/-- The index at which the port looks for the next event. -/
def Rx.expected (conf : FileTransferConf) (rx : Rx) : Nat :=
  if rx.rxInProgress then rx.seq else conf.fileNameIndex

/-- The event in turn is used. -/
def Rx.take (conf : FileTransferConf) (rx : Rx) (event : Event) : Rx :=
  if rx.rxInProgress then (rx.sequenceData conf event).1 else (rx.startFile conf [] event).1

/-- The event is the one in turn. -/
structure Fits (conf : FileTransferConf) (rx : Rx) (event : Event) : Prop where
  index : event.index = rx.expected conf
  crc : conf.useCRCs = true → readCrc event.payload = rx.crc
  size : conf.crcSize ≤ event.payload.length

/-- Each event is the one in turn after the ones before it. -/
def Accepted (conf : FileTransferConf) : Rx → List Event → Prop
  | _, [] => True
  | rx, event :: rest => Fits conf rx event ∧ Accepted conf (rx.take conf event) rest

/-- The port is enabled, its sequence number is one of the range, no file is open between
files, and no reset is pending. -/
structure Ready (conf : FileTransferConf) (rx : Rx) : Prop where
  enabled : rx.enabled = true
  reset : rx.transferReset = false
  seq : conf.sequenceIndexStart ≤ rx.seq ∧ rx.seq ≤ conf.sequenceIndexStop
  closed : rx.rxInProgress = false → rx.fout = none

/-- The task goes with what the port is doing. -/
def TaskFits (rx : Rx) : Task → Prop
  | .processRxBuffer => rx.rxInProgress = true
  | .processQdFilenames => rx.rxInProgress = false

section Taking

variable {conf : FileTransferConf} {rx : Rx} {event : Event}

theorem accepted_append {events : List Event} :
    Accepted conf rx (events ++ [event]) ↔
      Accepted conf rx events ∧ Fits conf (events.foldl (Rx.take conf) rx) event := by
  induction events generalizing rx with
  | nil => simp [Accepted]
  | cons first rest ih =>
      simp only [List.cons_append, Accepted, ih, List.foldl_cons, and_assoc]

/-- The CRC after an event. -/
def Rx.nextCrc (conf : FileTransferConf) (rx : Rx) (event : Event) : BitVec 16 :=
  if conf.useCRCs then crcCcitt event.payload rx.crc else rx.crc

/-- The event in turn is used: it ends the file, or is written to it. -/
theorem sequenceData_fits (fits : Fits conf rx event) :
    rx.sequenceData conf event =
      if event.payload.length = conf.crcSize then
        (Rx.endFile conf { rx with crc := rx.nextCrc conf event }, .processQdFilenames)
      else
        (Rx.writeChunk conf { rx with crc := rx.nextCrc conf event }
          (event.payload.drop conf.crcSize), .processRxBuffer) := by
  have right : ¬ (conf.useCRCs = true ∧ readCrc event.payload ≠ rx.crc) :=
    fun ⟨crcs, different⟩ => different (fits.crc crcs)
  have crc : (if conf.useCRCs = true then crcCcitt event.payload (readCrc event.payload)
      else rx.crc) = rx.nextCrc conf event := by
    rw [Rx.nextCrc]
    split
    · next crcs => rw [fits.crc crcs]
    · rfl
  rw [Rx.sequenceData, if_neg (Nat.not_lt.mpr fits.size), if_neg right]
  dsimp only
  rw [crc]

/-- The filename in turn opens its file. -/
theorem startFile_fits (ready : Ready conf rx) (idle : rx.rxInProgress = false)
    (fits : Fits conf rx event) :
    rx.startFile conf [] event =
      ({ rx with
          crc := rx.nextCrc conf event
          filename := writtenName conf event
          rxInProgress := true
          transferReset := false
          fout := some []
          log := .opened (writtenName conf event) :: rx.log }, some .processRxBuffer) := by
  have closed := ready.closed idle
  have synced : rx.syncFilename conf event = { rx with crc := rx.nextCrc conf event } := by
    rw [Rx.syncFilename, Rx.nextCrc]
    split
    · next crcs =>
      rw [fits.crc crcs]
      simp [ready.reset]
    · rfl
  rw [Rx.startFile, synced]
  simp [closed]

variable (confirms : conf.useConfirms = false)

include confirms in
theorem confirmCheck_off (rx : Rx) : rx.confirmCheck conf = rx := by
  rw [Rx.confirmCheck, if_neg]
  simp [confirms]

include confirms in
theorem take_eof (busy : rx.rxInProgress = true) (fits : Fits conf rx event)
    (empty : event.payload.length = conf.crcSize) :
    rx.take conf event = Rx.bumpSequence conf { rx with
      crc := rx.nextCrc conf event
      fout := none
      rxInProgress := false
      log := rx.fout.toList.map (RxEntry.closed rx.filename) ++ rx.log } := by
  rw [Rx.take, if_pos busy, sequenceData_fits fits, if_pos empty, Rx.endFile,
    confirmCheck_off confirms]

include confirms in
theorem take_chunk (busy : rx.rxInProgress = true) (fits : Fits conf rx event)
    (some_data : event.payload.length ≠ conf.crcSize) :
    rx.take conf event = Rx.bumpSequence conf { rx with
      crc := rx.nextCrc conf event
      fout := rx.fout.map (· ++ event.payload.drop conf.crcSize) } := by
  rw [Rx.take, if_pos busy, sequenceData_fits fits, if_neg some_data, Rx.writeChunk,
    confirmCheck_off confirms]

theorem take_filename (ready : Ready conf rx) (idle : rx.rxInProgress = false)
    (fits : Fits conf rx event) :
    rx.take conf event = { rx with
      crc := rx.nextCrc conf event
      filename := writtenName conf event
      rxInProgress := true
      transferReset := false
      fout := some []
      log := .opened (writtenName conf event) :: rx.log } := by
  rw [Rx.take, if_neg (by simp [idle]), startFile_fits ready idle fits]

theorem bumpSequence_range (valid : conf.Valid)
    (range : conf.sequenceIndexStart ≤ rx.seq) :
    conf.sequenceIndexStart ≤ (rx.bumpSequence conf).seq ∧
      (rx.bumpSequence conf).seq ≤ conf.sequenceIndexStop := by
  rw [Rx.bumpSequence]
  dsimp only
  split
  · exact ⟨Nat.le_refl _, valid.range⟩
  · exact ⟨Nat.le_succ_of_le range, by omega⟩

include confirms in
/-- The port stays ready. -/
theorem Ready.take (valid : conf.Valid) (ready : Ready conf rx) (fits : Fits conf rx event) :
    Ready conf (rx.take conf event) := by
  cases busy : rx.rxInProgress with
  | false =>
      rw [take_filename ready busy fits]
      exact ⟨ready.enabled, rfl, ready.seq, fun idle => by cases idle⟩
  | true =>
      have range : conf.sequenceIndexStart ≤ (rx.bumpSequence conf).seq ∧
          (rx.bumpSequence conf).seq ≤ conf.sequenceIndexStop :=
        bumpSequence_range valid ready.seq.1
      by_cases empty : event.payload.length = conf.crcSize
      · rw [take_eof confirms busy fits empty]
        exact ⟨ready.enabled, ready.reset, range, fun _ => rfl⟩
      · rw [take_chunk confirms busy fits empty]
        exact ⟨ready.enabled, ready.reset, range,
          fun idle => absurd (busy.symm.trans idle) (by decide)⟩

/-! ## The buffer does not matter to what is taken -/

theorem Fits.buffer (fits : Fits conf rx event) (buffer : List Event) :
    Fits conf { rx with rxEventBuffer := buffer } event :=
  ⟨fits.index, fits.crc, fits.size⟩

theorem Ready.buffer (ready : Ready conf rx) (buffer : List Event) :
    Ready conf { rx with rxEventBuffer := buffer } :=
  ⟨ready.enabled, ready.reset, ready.seq, ready.closed⟩

include confirms in
theorem take_buffer (ready : Ready conf rx) (fits : Fits conf rx event) (buffer : List Event) :
    Rx.take conf { rx with rxEventBuffer := buffer } event =
      { rx.take conf event with rxEventBuffer := buffer } := by
  by_cases busy : rx.rxInProgress = true
  · by_cases empty : event.payload.length = conf.crcSize
    · rw [take_eof confirms (by exact busy) (fits.buffer buffer) empty,
        take_eof confirms busy fits empty]
      rfl
    · rw [take_chunk confirms (by exact busy) (fits.buffer buffer) empty,
        take_chunk confirms busy fits empty]
      rfl
  · have idle : rx.rxInProgress = false := by simpa using busy
    rw [take_filename (ready.buffer buffer) idle (fits.buffer buffer),
      take_filename ready idle fits]
    rfl

/-- The port without its buffer. -/
def Rx.unbuffered (rx : Rx) : Rx := { rx with rxEventBuffer := [] }

include confirms in
theorem foldl_take_buffer (valid : conf.Valid) {events : List Event} (ready : Ready conf rx)
    (accepted : Accepted conf rx events) (buffer : List Event) :
    Accepted conf { rx with rxEventBuffer := buffer } events ∧
      (events.foldl (Rx.take conf) { rx with rxEventBuffer := buffer }).unbuffered =
        (events.foldl (Rx.take conf) rx).unbuffered := by
  induction events generalizing rx with
  | nil => exact ⟨trivial, rfl⟩
  | cons event rest ih =>
      obtain ⟨fits, later⟩ := accepted
      obtain ⟨again, same⟩ := ih (ready.take confirms valid fits) later
      rw [List.foldl_cons, List.foldl_cons, take_buffer confirms ready fits]
      refine ⟨⟨fits.buffer buffer, ?_⟩, same⟩
      rw [take_buffer confirms ready fits]
      exact again

/-! ## Rounds -/

/-- The port has taken the events before `rest`; with the rest it reaches its goal. -/
structure Receiving (conf : FileTransferConf) (goal : Rx) (coming : List Event) (rx : Rx)
    (rest : List Event) : Prop where
  ready : Ready conf rx
  accepted : Accepted conf rx rest
  awaited : Awaited Event.index rx.rxEventBuffer coming rest
  goal : (rest.foldl (Rx.take conf) rx).unbuffered = goal

/-- The event in turn has not arrived. -/
def Stuck (conf : FileTransferConf) (rx : Rx) : Prop :=
  popBuffer (rx.expected conf) rx.rxEventBuffer = none

variable {goal : Rx} {coming rest : List Event} (valid : conf.Valid)
  (apart : conf.sequenceIndexEOF ≠ some conf.fileNameIndex)

include confirms valid in
/-- **The event that is popped is the one in turn.** -/
theorem Receiving.pop (receiving : Receiving conf goal coming rx rest) {buffer : List Event}
    (popped : popBuffer (rx.expected conf) rx.rxEventBuffer = some (event, buffer)) :
    Fits conf rx event ∧ ∃ later, Receiving conf goal coming
      { rx.take conf event with rxEventBuffer := buffer } later := by
  cases rest with
  | nil =>
      rw [receiving.awaited.empty.1] at popped
      cases popped
  | cons first later =>
      obtain ⟨fits, accepted⟩ := receiving.accepted
      rw [← fits.index] at popped
      obtain ⟨rfl, awaited⟩ := receiving.awaited.pop popped
      have ready := receiving.ready.take confirms valid fits
      obtain ⟨again, same⟩ := foldl_take_buffer confirms valid ready accepted buffer
      exact ⟨fits, later, ready.buffer buffer, again, awaited, same.trans receiving.goal⟩

include confirms in
/-- The data in turn leaves the task that goes with what the port is doing then. -/
theorem sequenceData_task (fits : Fits conf rx event) (busy : rx.rxInProgress = true) :
    TaskFits (rx.sequenceData conf event).1 (rx.sequenceData conf event).2 := by
  rw [sequenceData_fits fits]
  split
  · change ((Rx.confirmCheck conf _).bumpSequence conf).rxInProgress = false
    rw [confirmCheck_off confirms]
    rfl
  · change ((Rx.confirmCheck conf _).bumpSequence conf).rxInProgress = true
    rw [confirmCheck_off confirms]
    exact busy

include apart in
theorem effectiveEvent_filename (index : event.index = conf.fileNameIndex) :
    effectiveEvent conf event = some event := by
  rw [effectiveEvent, if_neg]
  rw [index]
  exact apart

include apart in
/-- The filename in turn is taken when it arrives. -/
theorem rxEvent_filename (ready : Ready conf rx) (idle : rx.rxInProgress = false)
    (fits : Fits conf rx event) :
    rx.rxEvent conf [] event = (rx.take conf event, some .processRxBuffer) := by
  have index : event.index = conf.fileNameIndex := by
    rw [fits.index, Rx.expected, if_neg (by simp [idle])]
  have right : ¬ (conf.useCRCs = true ∧ ((!rx.transferReset) = true ∨ conf.useConfirms = true) ∧
      readCrc event.payload ≠ rx.crc) :=
    fun ⟨crcs, _, different⟩ => different (fits.crc crcs)
  rw [Rx.rxEvent, effectiveEvent_filename apart index]
  dsimp only
  rw [if_pos index, Rx.filenameEvent, if_neg (by simp [idle]), if_neg right,
    startFile_fits ready idle fits, take_filename ready idle fits]

include confirms valid apart in
/-- **A round takes the event in turn**, or finds that it has not arrived. -/
theorem Receiving.round {task : Task} (receiving : Receiving conf goal coming rx rest)
    (fits : TaskFits rx task) :
    (rx.round conf [] task = none ∧ Stuck conf rx) ∨
      ∃ next again later, rx.round conf [] task = some (next, some again) ∧ TaskFits next again ∧
        Receiving conf goal coming next later ∧
        next.rxEventBuffer.length < rx.rxEventBuffer.length := by
  cases task with
  | processRxBuffer =>
      have busy : rx.rxInProgress = true := fits
      have expected : rx.expected conf = rx.seq := if_pos busy
      rw [Stuck, expected]
      cases popped : popBuffer rx.seq rx.rxEventBuffer with
      | none => exact .inl ⟨congrArg (Option.map _) popped, rfl⟩
      | some found =>
          obtain ⟨event, buffer⟩ := found
          obtain ⟨here, later, received⟩ := receiving.pop confirms valid (expected.symm ▸ popped)
          have used : (Rx.sequenceData conf { rx with rxEventBuffer := buffer } event).1 =
              { rx.take conf event with rxEventBuffer := buffer } :=
            (if_pos busy).symm.trans (take_buffer confirms receiving.ready here buffer)
          refine .inr ⟨_, _, later, congrArg (Option.map _) popped,
            sequenceData_task confirms (here.buffer buffer) busy, used ▸ received, ?_⟩
          rw [used]
          exact Nat.lt_of_succ_le (Nat.le_of_eq (length_pop popped).symm)
  | processQdFilenames =>
      have idle : rx.rxInProgress = false := fits
      have expected : rx.expected conf = conf.fileNameIndex := if_neg (by simp [idle])
      rw [Stuck, expected]
      cases popped : popBuffer conf.fileNameIndex rx.rxEventBuffer with
      | none => exact .inl ⟨congrArg (Option.map _) popped, rfl⟩
      | some found =>
          obtain ⟨event, buffer⟩ := found
          obtain ⟨here, later, received⟩ := receiving.pop confirms valid (expected.symm ▸ popped)
          have used := rxEvent_filename apart (receiving.ready.buffer buffer) idle
            (here.buffer buffer)
          rw [take_buffer confirms receiving.ready here buffer] at used
          refine .inr ⟨_, _, later, (congrArg (Option.map _) popped).trans (congrArg some used), ?_,
            received, Nat.lt_of_succ_le (Nat.le_of_eq (length_pop popped).symm)⟩
          rw [take_filename receiving.ready idle here]
          rfl

include confirms valid apart in
/-- **The rounds go on until the event in turn has not arrived.** -/
theorem Receiving.process (fuel : Nat) {task : Task} (receiving : Receiving conf goal coming rx rest)
    (fits : TaskFits rx task) (enough : rx.rxEventBuffer.length ≤ fuel) :
    ∃ later, Receiving conf goal coming (Rx.process conf [] fuel (rx, some task)) later ∧
      Stuck conf (Rx.process conf [] fuel (rx, some task)) := by
  induction fuel generalizing rx rest task with
  | zero =>
      refine ⟨rest, receiving, ?_⟩
      have empty : rx.rxEventBuffer = [] := List.eq_nil_of_length_eq_zero (Nat.le_zero.mp enough)
      change popBuffer _ rx.rxEventBuffer = none
      rw [empty]
      rfl
  | succ fuel ih =>
      rcases receiving.round confirms valid apart fits with
        ⟨done, stuck⟩ | ⟨next, again, later, here, goes_on, received, shorter⟩
      · rw [Rx.process, done]
        exact ⟨rest, receiving, stuck⟩
      · rw [Rx.process, here]
        exact ih received goes_on (by omega)

/-! ## Arrivals -/

/-- An event at an index that the port uses. -/
def Used (conf : FileTransferConf) (event : Event) : Prop :=
  event.index = conf.fileNameIndex ∨
    (conf.sequenceIndexStart ≤ event.index ∧ event.index ≤ conf.sequenceIndexStop)

include confirms valid in
theorem Receiving.push (receiving : Receiving conf goal (event :: coming) rx rest) :
    Receiving conf goal coming { rx with rxEventBuffer := rx.rxEventBuffer ++ [event] } rest := by
  obtain ⟨accepted, same⟩ :=
    foldl_take_buffer confirms valid receiving.ready receiving.accepted
      (rx.rxEventBuffer ++ [event])
  exact ⟨receiving.ready.buffer _, accepted, receiving.awaited.arrive, same.trans receiving.goal⟩

include confirms valid apart in
/-- A filename that arrives between files is the one in turn, and is not buffered. -/
theorem Receiving.filename (receiving : Receiving conf goal (event :: coming) rx rest)
    (stuck : Stuck conf rx) (idle : rx.rxInProgress = false)
    (index : event.index = conf.fileNameIndex) :
    rx.rxEvent conf [] event = (rx.take conf event, some .processRxBuffer) ∧
      TaskFits (rx.take conf event) .processRxBuffer ∧
      (rx.take conf event).rxEventBuffer = rx.rxEventBuffer ∧
      ∃ later, Receiving conf goal coming (rx.take conf event) later := by
  have expected : rx.expected conf = conf.fileNameIndex := if_neg (by simp [idle])
  have pushed := receiving.push confirms valid
  have popped : popBuffer (rx.expected conf) (rx.rxEventBuffer ++ [event]) =
      some (event, rx.rxEventBuffer) := pop_append stuck (index.trans expected.symm)
  obtain ⟨here, later, received⟩ := pushed.pop confirms valid popped
  have fits : Fits conf rx event := here.buffer rx.rxEventBuffer
  rw [take_buffer confirms receiving.ready fits] at received
  have taken := take_filename receiving.ready idle fits
  have kept : (rx.take conf event).rxEventBuffer = rx.rxEventBuffer := by rw [taken]
  refine ⟨rxEvent_filename apart receiving.ready idle fits, ?_, kept, later, ?_⟩
  · rw [taken]
    rfl
  · rw [← kept] at received
    exact received

/-- Nothing is left to do. -/
theorem process_none (fuel : Nat) : Rx.process conf [] fuel (rx, none) = rx := by
  cases fuel <;> rfl

/-- An event that stands for none is ignored. -/
theorem rxStep_ignored {raw : Event} (ready : Ready conf rx)
    (ignored : effectiveEvent conf raw = none) : rxStep conf rx (.event raw []) = rx := by
  have step : rxStep conf rx (.event raw []) = Rx.process conf []
      (2 * rx.rxEventBuffer.length + 2) (rx.rxEvent conf [] raw) := if_pos ready.enabled
  rw [step, Rx.rxEvent, ignored]
  rfl

include confirms valid apart in
/-- **An event arrives**, and everything that is in turn then is taken. -/
theorem Receiving.receive {raw : Event} (receiving : Receiving conf goal (event :: coming) rx rest)
    (stuck : Stuck conf rx) (effective : effectiveEvent conf raw = some event)
    (used : Used conf event) :
    ∃ later, Receiving conf goal coming (rxStep conf rx (.event raw [])) later ∧
      Stuck conf (rxStep conf rx (.event raw [])) := by
  have pushed := receiving.push confirms valid
  have step : rxStep conf rx (.event raw []) = Rx.process conf []
      (2 * rx.rxEventBuffer.length + 2) (rx.rxEvent conf [] raw) := if_pos receiving.ready.enabled
  have same : event.index = conf.fileNameIndex →
      rx.rxEvent conf [] raw = rx.rxEvent conf [] event := by
    intro index
    rw [Rx.rxEvent, Rx.rxEvent, effective, effectiveEvent_filename apart index]
  rw [step]
  by_cases index : event.index = conf.fileNameIndex
  · rw [same index]
    by_cases busy : rx.rxInProgress = true
    · have buffered : rx.rxEvent conf [] event =
          ({ rx with rxEventBuffer := rx.rxEventBuffer ++ [event] }, none) := by
        rw [Rx.rxEvent, effectiveEvent_filename apart index]
        dsimp only
        rw [if_pos index, Rx.filenameEvent, if_pos busy]
      have expected : rx.expected conf = rx.seq := if_pos busy
      rw [buffered, process_none]
      refine ⟨rest, pushed, pop_append_none stuck ?_⟩
      change event.index ≠ rx.expected conf
      rw [expected, index]
      intro clash
      exact valid.filename (clash ▸ receiving.ready.seq)
    · have idle : rx.rxInProgress = false := by simpa using busy
      obtain ⟨taken, goes_on, kept, later, received⟩ :=
        receiving.filename confirms valid apart stuck idle index
      rw [taken]
      exact received.process confirms valid apart _ goes_on (by rw [kept]; omega)
  · have range := used.resolve_left index
    have queued : rx.rxEvent conf [] raw = rx.sequenceEvent event := by
      rw [Rx.rxEvent, effective]
      dsimp only
      rw [if_neg index, if_pos range]
    rw [queued, Rx.sequenceEvent]
    dsimp only
    by_cases busy : rx.rxInProgress = true
    · rw [if_pos busy]
      refine pushed.process confirms valid apart _ busy ?_
      rw [List.length_append]
      simp only [List.length_singleton]
      omega
    · have expected : rx.expected conf = conf.fileNameIndex := if_neg busy
      rw [if_neg busy, process_none]
      refine ⟨rest, pushed, pop_append_none stuck ?_⟩
      change event.index ≠ rx.expected conf
      rwa [expected]

include confirms valid apart in
/-- **The port takes the events in the order in which they were sent**, however they arrive. -/
theorem receives_inOrder {start : Rx} {sent delivered : List Event} (ready : Ready conf start)
    (empty : start.rxEventBuffer = []) (accepted : Accepted conf start sent)
    (used : ∀ event ∈ sent, Used conf event)
    (reordered : Reordered Event.index sent (delivered.filterMap (effectiveEvent conf))) :
    (delivered.foldl (fun rx event => rxStep conf rx (.event event [])) start).unbuffered =
        (sent.foldl (Rx.take conf) start).unbuffered ∧
      (delivered.foldl (fun rx event => rxStep conf rx (.event event [])) start).rxEventBuffer =
        [] := by
  have begins : Receiving conf (sent.foldl (Rx.take conf) start).unbuffered
      (delivered.filterMap (effectiveEvent conf)) start sent :=
    ⟨ready, accepted, by rw [empty]; exact reordered.awaited, rfl⟩
  have stuck : Stuck conf start := by
    rw [Stuck, empty]
    rfl
  have coming : ∀ event ∈ delivered.filterMap (effectiveEvent conf), Used conf event :=
    fun event member => used event (reordered.perm.subset member)
  clear reordered used accepted empty
  generalize (sent.foldl (Rx.take conf) start).unbuffered = goal at begins
  induction delivered generalizing start sent with
  | nil =>
      cases sent with
      | nil => exact ⟨begins.goal, begins.awaited.empty.1⟩
      | cons next later =>
          have index := begins.accepted.1.index
          exact absurd (index ▸ stuck) begins.awaited.arrived
  | cons raw rest ih =>
      rw [List.foldl_cons]
      cases effective : effectiveEvent conf raw with
      | none =>
          rw [List.filterMap_cons_none effective] at begins coming
          rw [rxStep_ignored ready effective]
          exact ih ready stuck coming begins
      | some event =>
          rw [List.filterMap_cons_some effective] at begins coming
          obtain ⟨later, received, stuck'⟩ := begins.receive confirms valid apart stuck effective
            (coming event List.mem_cons_self)
          exact ih received.ready stuck'
            (fun other member => coming other (List.mem_cons_of_mem _ member)) received

end Taking

end OpenDataCon.FileTransfer

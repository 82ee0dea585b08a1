import OpenDataCon.FileTransfer.Aborting

/-!
# Resynchronising after a loss without confirms

After a transfer timeout the receiving port takes the CRC of the next filename as it
comes, but the sequence number of the sending port only when this CRC is the initial
one. The file is then written exactly when the two ports have the same sequence
number (`next_file_written_iff`): the data are taken in turn
(`receives_inStep`), and otherwise what is closed has too few bytes, because the
event that ends the file is reached too early or not at all (`Astray`).

A file that is sent after a loss, without a reset of the sending port, is lost
(`next_file_lost`).
-/

set_option autoImplicit false

namespace OpenDataCon.FileTransfer

open Resequencing Runs

section Resync

variable {conf : FileTransferConf} {rx : Rx} {event : Event}

/-! ## Events of another file -/

/-- A buffered event that does not carry the CRC is dropped. -/
def Refuses (conf : FileTransferConf) (crc : BitVec 16) (event : Event) : Prop :=
  event.payload.length < conf.crcSize ∨ readCrc event.payload ≠ crc

/-- An event that does not carry the CRC of any event of a file, and is no filename. -/
structure Foreign (conf : FileTransferConf) (own : List Event) (event : Event) : Prop where
  data : event.index ≠ conf.fileNameIndex
  refused : ∀ next ∈ own, Refuses conf (readCrc next.payload) event

theorem sequenceData_refused (crcs : conf.useCRCs = true) (refused : Refuses conf rx.crc event) :
    rx.sequenceData conf event = (rx, .processRxBuffer) := by
  rw [Rx.sequenceData]
  split
  · rfl
  · next long => rw [if_pos ⟨crcs, refused.resolve_left long⟩]

/-- **Events of another file are dropped** when it is their turn. -/
theorem process_refused (crcs : conf.useCRCs = true) (fuel : Nat)
    (refused : ∀ event ∈ rx.rxEventBuffer, Refuses conf rx.crc event)
    (enough : rx.rxEventBuffer.length ≤ fuel) :
    ∃ buffer ⊆ rx.rxEventBuffer, popBuffer rx.seq buffer = none ∧
      Rx.process conf [] fuel (rx, some .processRxBuffer) = { rx with rxEventBuffer := buffer } := by
  induction fuel generalizing rx with
  | zero =>
      have empty := List.eq_nil_of_length_eq_zero (Nat.le_zero.mp enough)
      refine ⟨rx.rxEventBuffer, List.Subset.refl _, ?_, rfl⟩
      rw [empty]
      rfl
  | succ fuel ih =>
      cases popped : popBuffer rx.seq rx.rxEventBuffer with
      | none =>
          refine ⟨rx.rxEventBuffer, List.Subset.refl _, popped, ?_⟩
          rw [Rx.process, Rx.round, popped]
          rfl
      | some found =>
          obtain ⟨event, rest⟩ := found
          obtain ⟨-, member, sub⟩ := pop_mem popped
          have shorter := length_pop popped
          obtain ⟨buffer, kept, missing, same⟩ := @ih { rx with rxEventBuffer := rest }
            (fun other inside => refused other (sub inside)) (by dsimp only; omega)
          refine ⟨buffer, List.Subset.trans kept sub, missing, ?_⟩
          rw [Rx.process, Rx.round, popped, Option.map_some,
            @sequenceData_refused conf { rx with rxEventBuffer := rest } event crcs
              (refused event member)]
          exact same

/-! ## The filename -/

/-- The sequence number with which the port goes on after a filename of this CRC. -/
def resumedSequence (conf : FileTransferConf) (rx : Rx) (crc : BitVec 16) : Nat :=
  if crc = crcCcitt [] then conf.sequenceIndexStart else rx.seq

/-- The port when it has taken a filename after it has aborted a file. -/
def Rx.resumed (conf : FileTransferConf) (rx : Rx) (crc : BitVec 16) (name : Bytes)
    (buffer : List Event) : Rx :=
  { rx with
    seq := resumedSequence conf rx crc
    crc := filenameCrc conf crc name
    filename := writtenName conf (filenameEventOf conf crc name)
    rxInProgress := true
    transferReset := false
    fout := some []
    log := .opened (writtenName conf (filenameEventOf conf crc name)) :: rx.log
    rxEventBuffer := buffer }

variable (valid : conf.Valid) (crcs : conf.useCRCs = true) (confirms : conf.useConfirms = false)

include valid crcs in
theorem step_receive (enabled : rx.enabled = true) :
    rxStep conf rx (.event event []) = Rx.process conf [] (2 * rx.rxEventBuffer.length + 2)
      (if event.index = conf.fileNameIndex then rx.filenameEvent conf [] event
        else if conf.sequenceIndexStart ≤ event.index ∧ event.index ≤ conf.sequenceIndexStop then
          rx.sequenceEvent event
        else (rx, none)) := by
  rw [rxStep, if_pos enabled, Rx.receive, Rx.rxEvent, effectiveEvent_crcs valid crcs]

include crcs confirms in
theorem startFile_aborted (aborted : Aborted conf rx) (crc : BitVec 16) (name : Bytes) :
    rx.startFile conf [] (filenameEventOf conf crc name) =
      (rx.resumed conf crc name rx.rxEventBuffer, some .processRxBuffer) := by
  have carried : readCrc (filenameEventOf conf crc name).payload = crc := readCrc_payloadOf crcs
  have synced : rx.syncFilename conf (filenameEventOf conf crc name) =
      { rx with seq := resumedSequence conf rx crc, crc := filenameCrc conf crc name } := by
    rw [Rx.syncFilename, if_pos crcs, carried, resumedSequence, filenameCrc, crcAfter,
      if_pos crcs]
    simp [aborted.reset, confirms, filenameEventOf]
  rw [Rx.startFile, synced]
  simp [aborted.closed, Rx.resumed]

include valid crcs confirms in
/-- **The filename is taken as it comes**, and what is buffered of other files is dropped when
it is its turn. -/
theorem step_filename (aborted : Aborted conf rx) (crc : BitVec 16) (name : Bytes)
    (refused : ∀ event ∈ rx.rxEventBuffer, Refuses conf (filenameCrc conf crc name) event) :
    ∃ buffer ⊆ rx.rxEventBuffer, popBuffer (resumedSequence conf rx crc) buffer = none ∧
      rxStep conf rx (.event (filenameEventOf conf crc name) []) =
        rx.resumed conf crc name buffer := by
  have taken : rx.filenameEvent conf [] (filenameEventOf conf crc name) =
      (rx.resumed conf crc name rx.rxEventBuffer, some .processRxBuffer) := by
    rw [Rx.filenameEvent, if_neg (by simp [aborted.idle]),
      if_neg (by simp [aborted.reset, confirms]), startFile_aborted crcs confirms aborted]
  have index : (filenameEventOf conf crc name).index = conf.fileNameIndex := rfl
  rw [step_receive valid crcs aborted.enabled, if_pos index, taken]
  exact @process_refused conf (rx.resumed conf crc name rx.rxEventBuffer) crcs _ refused
    (by change rx.rxEventBuffer.length ≤ _; omega)

/-! ## Data in turn -/

/-- The port writes a file, and what it has buffered is of other files. -/
structure InStep (conf : FileTransferConf) (own : List Event) (rx : Rx) : Prop where
  enabled : rx.enabled = true
  busy : rx.rxInProgress = true
  seq : rx.seq ∈ sequenceRange conf
  foreign : ∀ event ∈ rx.rxEventBuffer, Foreign conf own event
  missing : popBuffer rx.seq rx.rxEventBuffer = none

include valid crcs in
/-- The event in turn is taken, and the rounds go on. -/
theorem InStep.step {own : List Event} (inStep : InStep conf own rx) (index : event.index = rx.seq) :
    rxStep conf rx (.event event []) =
      Rx.process conf [] (2 * rx.rxEventBuffer.length + 1)
        ((rx.sequenceData conf event).1, some (rx.sequenceData conf event).2) := by
  have other : event.index ≠ conf.fileNameIndex := by
    intro clash
    exact valid.filename (clash ▸ index ▸ inStep.seq)
  have queued : rx.sequenceEvent event =
      ({ rx with rxEventBuffer := rx.rxEventBuffer ++ [event] }, some .processRxBuffer) := by
    rw [Rx.sequenceEvent]
    dsimp only
    rw [if_pos inStep.busy]
  have popped : popBuffer rx.seq (rx.rxEventBuffer ++ [event]) = some (event, rx.rxEventBuffer) :=
    pop_append inStep.missing index
  rw [step_receive valid crcs inStep.enabled, if_neg other, if_pos (index ▸ inStep.seq), queued,
    Rx.process, Rx.round, popped]
  rfl

include crcs in
theorem fits_data (busy : rx.rxInProgress = true) (data : Bytes) :
    Fits conf rx { index := rx.seq, payload := payloadOf conf rx.crc data } where
  index := (if_pos busy).symm
  crc _ := readCrc_payloadOf crcs
  size := by
    rw [length_payloadOf]
    exact Nat.le_add_right _ _

include valid crcs confirms in
/-- **A chunk in turn is written**, and what is buffered of other files is dropped when it is its
turn. -/
theorem InStep.chunk {own : List Event} (inStep : InStep conf own rx) {chunk : Bytes}
    (some_data : chunk ≠ [])
    (carried : ∃ next ∈ own,
      readCrc next.payload = crcAfter conf rx.crc (payloadOf conf rx.crc chunk)) :
    ∃ buffer, InStep conf own
        { rx with
          seq := nextSequence conf rx.seq
          crc := crcAfter conf rx.crc (payloadOf conf rx.crc chunk)
          fout := rx.fout.map (· ++ chunk)
          rxEventBuffer := buffer } ∧
      rxStep conf rx (.event { index := rx.seq, payload := payloadOf conf rx.crc chunk } []) =
        { rx with
          seq := nextSequence conf rx.seq
          crc := crcAfter conf rx.crc (payloadOf conf rx.crc chunk)
          fout := rx.fout.map (· ++ chunk)
          rxEventBuffer := buffer } := by
  obtain ⟨next, member, same⟩ := carried
  have long : (payloadOf conf rx.crc chunk).length ≠ conf.crcSize := by
    rw [length_payloadOf]
    have := List.length_pos_of_ne_nil some_data
    omega
  have written : rx.sequenceData conf
      { index := rx.seq, payload := payloadOf conf rx.crc chunk } =
      ({ rx with
          seq := nextSequence conf rx.seq
          crc := crcAfter conf rx.crc (payloadOf conf rx.crc chunk)
          fout := rx.fout.map (· ++ chunk) }, .processRxBuffer) := by
    rw [sequenceData_fits (fits_data crcs inStep.busy chunk), if_neg long, Rx.writeChunk,
      confirmCheck_off confirms, drop_payloadOf]
    rfl
  obtain ⟨buffer, kept, missing, processed⟩ := @process_refused conf
    { rx with
      seq := nextSequence conf rx.seq
      crc := crcAfter conf rx.crc (payloadOf conf rx.crc chunk)
      fout := rx.fout.map (· ++ chunk) } crcs (2 * rx.rxEventBuffer.length + 1)
    (fun event inside => same ▸ (inStep.foreign event inside).refused next member)
    (by dsimp only; omega)
  refine ⟨buffer, ⟨inStep.enabled, inStep.busy, nextSequence_mem valid inStep.seq, ?_, missing⟩, ?_⟩
  · intro event inside
    exact inStep.foreign event (kept inside)
  · rw [inStep.step valid crcs rfl, written]
    exact processed

include valid crcs confirms in
/-- **The end in turn closes the file.** -/
theorem InStep.eof {own : List Event} (inStep : InStep conf own rx) :
    rxStep conf rx (.event (eofEvent conf rx.seq rx.crc) []) =
      { rx with
        seq := nextSequence conf rx.seq
        crc := crcAfter conf rx.crc (payloadOf conf rx.crc [])
        fout := none
        rxInProgress := false
        log := rx.fout.toList.map (RxEntry.closed rx.filename) ++ rx.log } := by
  have empty : (payloadOf conf rx.crc []).length = conf.crcSize := length_payloadOf
  have ended : rx.sequenceData conf { index := rx.seq, payload := payloadOf conf rx.crc [] } =
      ({ rx with
          seq := nextSequence conf rx.seq
          crc := crcAfter conf rx.crc (payloadOf conf rx.crc [])
          fout := none
          rxInProgress := false
          log := rx.fout.toList.map (RxEntry.closed rx.filename) ++ rx.log },
        .processQdFilenames) := by
    rw [sequenceData_fits (fits_data crcs inStep.busy []), if_pos empty, Rx.endFile,
      confirmCheck_off confirms]
    rfl
  have none_left : popBuffer conf.fileNameIndex rx.rxEventBuffer = none := by
    cases popped : popBuffer conf.fileNameIndex rx.rxEventBuffer with
    | none => rfl
    | some found =>
        obtain ⟨index, member, -⟩ := pop_mem popped
        exact absurd index (inStep.foreign _ member).data
  rw [eofEvent_eq valid crcs, inStep.step valid crcs rfl, ended, Rx.process, Rx.round, none_left]
  rfl

include valid crcs confirms in
/-- **Data in turn are written whole**, and the file is closed. -/
theorem receives_inStep {own : List Event} (inStep : InStep conf own rx) (content : Bytes)
    (writing : rx.fout = some content) {chunks : List Bytes}
    (some_data : ∀ chunk ∈ chunks, chunk ≠ [])
    (included : dataEvents conf rx.crc rx.seq chunks ⊆ own) :
    (rx.receives conf (dataEvents conf rx.crc rx.seq chunks)).log =
        .closed rx.filename (content ++ chunks.flatten) :: rx.log ∧
      (rx.receives conf (dataEvents conf rx.crc rx.seq chunks)).fout = none := by
  induction chunks generalizing rx content with
  | nil =>
      have ended : rx.receives conf (dataEvents conf rx.crc rx.seq []) = _ :=
        inStep.eof valid crcs confirms
      rw [ended]
      refine ⟨?_, rfl⟩
      rw [writing, List.flatten_nil, List.append_nil]
      rfl
  | cons chunk rest ih =>
      obtain ⟨next, member, same⟩ := dataEvents_first valid crcs
        (crcAfter conf rx.crc (payloadOf conf rx.crc chunk)) (nextSequence conf rx.seq) rest
      obtain ⟨buffer, again, stepped⟩ := inStep.chunk valid crcs confirms
        (some_data chunk List.mem_cons_self)
        ⟨next, included (List.mem_cons_of_mem _ member), same⟩
      have later := ih again (content ++ chunk)
        (by dsimp only; rw [writing]; rfl)
        (fun other inside => some_data other (List.mem_cons_of_mem _ inside))
        (fun other inside => included (List.mem_cons_of_mem _ inside))
      rw [List.append_assoc] at later
      rw [dataEvents, Rx.receives, List.foldl_cons, stepped]
      exact later

/-! ## Data out of turn -/

/-- The data bytes of an event of the file. -/
def ownBytes (conf : FileTransferConf) (own : List Event) (event : Event) : Nat :=
  if event ∈ own then (dataOf conf event).length else 0

/-- What the events of the file weigh among others. -/
def weight (conf : FileTransferConf) (own : List Event) (f : Nat → Nat) (events : List Event) :
    Nat :=
  (events.map fun event => f (ownBytes conf own event)).sum

theorem weight_pop {own : List Event} (f : Nat → Nat) {index : Nat} {buffer rest : List Event}
    (coming : List Event) (popped : popBuffer index buffer = some (event, rest)) :
    weight conf own f (buffer ++ coming) =
      f (ownBytes conf own event) + weight conf own f (rest ++ coming) := by
  have same := (((pop_perm popped).append_right coming).map
    fun event => f (ownBytes conf own event)).sum_eq
  rw [weight, same]
  rfl

theorem weight_foreign {own : List Event} {f : Nat → Nat} (nothing : f 0 = 0)
    {events : List Event} (foreign : ∀ event ∈ events, event ∉ own) (coming : List Event) :
    weight conf own f (events ++ coming) = weight conf own f coming := by
  induction events with
  | nil => rfl
  | cons event rest ih =>
      have here : ownBytes conf own event = 0 := if_neg (foreign event List.mem_cons_self)
      have later := ih fun other inside => foreign other (List.mem_cons_of_mem _ inside)
      rw [← later, weight, List.cons_append, List.map_cons, List.sum_cons, here, nothing,
        Nat.zero_add, weight]

include valid crcs in
theorem weight_dataEvents {own : List Event} {f : Nat → Nat} (nothing : f 0 = 0)
    {crc : BitVec 16} {seq : Nat} {chunks : List Bytes}
    (included : dataEvents conf crc seq chunks ⊆ own) :
    weight conf own f (dataEvents conf crc seq chunks) =
      (chunks.map fun chunk => f chunk.length).sum := by
  induction chunks generalizing crc seq with
  | nil =>
      have here : ownBytes conf own (eofEvent conf seq crc) = 0 := by
        rw [ownBytes, dataOf, eofEvent_eq valid crcs, drop_payloadOf]
        exact ite_self 0
      rw [dataEvents, weight, List.map_singleton, here, nothing]
      rfl
  | cons chunk rest ih =>
      have here : ownBytes conf own { index := seq, payload := payloadOf conf crc chunk } =
          chunk.length := by
        rw [ownBytes, if_pos (included List.mem_cons_self), dataOf, drop_payloadOf]
      have later := ih fun other inside => included (List.mem_cons_of_mem _ inside)
      rw [List.map_cons, List.sum_cons, ← later, dataEvents, weight, List.map_cons,
        List.sum_cons, here, weight]

include valid crcs in
theorem dataEvents_size {crc : BitVec 16} {seq : Nat} {chunks : List Bytes}
    (member : event ∈ dataEvents conf crc seq chunks) : conf.crcSize ≤ event.payload.length := by
  induction chunks generalizing crc seq with
  | nil =>
      rw [List.mem_singleton.mp member, eofEvent_eq valid crcs, length_payloadOf]
      exact Nat.le_add_right _ _
  | cons chunk rest ih =>
      rcases List.mem_cons.mp member with rfl | later
      · rw [length_payloadOf]
        exact Nat.le_add_right _ _
      · exact ih later

variable {crc : BitVec 16} {seq start : Nat} {chunks : List Bytes} {coming : List Event}
  {files : List (Bytes × Bytes)}

include valid crcs in
/-- An event of another file is none of the file. -/
theorem Foreign.not_mem (foreign : Foreign conf (dataEvents conf crc seq chunks) event) :
    event ∉ dataEvents conf crc seq chunks := by
  intro member
  rcases foreign.refused event member with short | different
  · exact absurd (dataEvents_size valid crcs member) (Nat.not_le.mpr short)
  · exact different rfl

/-- The port writes a file from another sequence number on. It has taken `count` chunks; what it
has written, with what it may still write, is at most the file, and as many bytes are missing as
chunks are. -/
structure Astray (conf : FileTransferConf) (crc : BitVec 16) (seq : Nat) (chunks : List Bytes)
    (start : Nat) (files : List (Bytes × Bytes)) (coming : List Event) (rx : Rx) : Prop where
  enabled : rx.enabled = true
  busy : rx.rxInProgress = true
  buffered : ∀ event ∈ rx.rxEventBuffer, event ∈ dataEvents conf crc seq chunks ∨
    Foreign conf (dataEvents conf crc seq chunks) event
  carried : ∃ next ∈ dataEvents conf crc seq chunks, readCrc next.payload = rx.crc
  closed : closings rx.log = files
  writing : ∃ content count, rx.fout = some content ∧
    rx.seq = (nextSequence conf)^[count] start ∧
    count + weight conf (dataEvents conf crc seq chunks) (min 1) (rx.rxEventBuffer ++ coming) ≤
      chunks.length ∧
    content.length + chunks.length +
        weight conf (dataEvents conf crc seq chunks) (· - 1) (rx.rxEventBuffer ++ coming) ≤
      count + chunks.flatten.length

/-- The file was closed before all was written. -/
structure CutShort (chunks : List Bytes) (files : List (Bytes × Bytes)) (rx : Rx) : Prop where
  enabled : rx.enabled = true
  idle : rx.rxInProgress = false
  closed : ∃ filename content, content.length < chunks.flatten.length ∧
    closings rx.log = (filename, content) :: files

/-- The port is astray, or the file was cut short and no filename is buffered. -/
def StillLost (conf : FileTransferConf) (crc : BitVec 16) (seq : Nat) (chunks : List Bytes)
    (start : Nat) (files : List (Bytes × Bytes)) (coming : List Event) (rx : Rx) : Task → Prop
  | .processRxBuffer => Astray conf crc seq chunks start files coming rx
  | .processQdFilenames => CutShort chunks files rx ∧
      popBuffer conf.fileNameIndex rx.rxEventBuffer = none

variable (some_data : ∀ chunk ∈ chunks, chunk ≠ []) (range : seq ∈ sequenceRange conf)
  (range' : start ∈ sequenceRange conf) (apart : start ≠ seq)

include valid crcs confirms some_data range range' apart in
/-- **An event that is popped does not complete the file.** -/
theorem Astray.sequenceData (astray : Astray conf crc seq chunks start files coming rx)
    {rest : List Event} (popped : popBuffer rx.seq rx.rxEventBuffer = some (event, rest)) :
    StillLost conf crc seq chunks start files coming
      (Rx.sequenceData conf { rx with rxEventBuffer := rest } event).1
      (Rx.sequenceData conf { rx with rxEventBuffer := rest } event).2 := by
  obtain ⟨index, member, sub⟩ := pop_mem popped
  obtain ⟨content, count, writing, reached, counted, bytes⟩ := astray.writing
  rw [weight_pop _ coming popped] at counted bytes
  have kept : ∀ other ∈ rest, other ∈ dataEvents conf crc seq chunks ∨
      Foreign conf (dataEvents conf crc seq chunks) other :=
    fun other inside => astray.buffered other (sub inside)
  by_cases refused : Refuses conf rx.crc event
  · rw [@sequenceData_refused conf { rx with rxEventBuffer := rest } event crcs refused]
    exact ⟨astray.enabled, astray.busy, kept, astray.carried, astray.closed, content, count,
      writing, reached, by dsimp only; omega, by dsimp only; omega⟩
  · have own : event ∈ dataEvents conf crc seq chunks := by
      rcases astray.buffered event member with own | foreign
      · exact own
      · obtain ⟨next, inside, same⟩ := astray.carried
        exact absurd (same ▸ foreign.refused next inside) refused
    have size : conf.crcSize ≤ event.payload.length := dataEvents_size valid crcs own
    have carries : readCrc event.payload = rx.crc := by
      by_contra different
      exact refused (.inr different)
    have fits : Fits conf { rx with rxEventBuffer := rest } event :=
      ⟨index.trans (if_pos astray.busy).symm, fun _ => carries, size⟩
    have data : ownBytes conf (dataEvents conf crc seq chunks) event =
        event.payload.length - conf.crcSize := by
      rw [ownBytes, if_pos own, dataOf, List.length_drop]
    rw [data] at counted bytes
    rw [sequenceData_fits fits]
    by_cases empty : event.payload.length = conf.crcSize
    · rw [if_pos empty, Rx.endFile, confirmCheck_off confirms]
      have last := dataEvents_end valid crcs some_data own empty
      have behind : count ≠ chunks.length := by
        rintro rfl
        exact apart (nextSequence_iterate valid range' range _
          (reached.symm.trans (index.symm.trans last)))
      refine ⟨⟨astray.enabled, rfl, rx.filename, content, by omega, ?_⟩, ?_⟩
      · change closings (rx.fout.toList.map (RxEntry.closed rx.filename) ++ rx.log) = _
        rw [writing, ← astray.closed]
        rfl
      · cases filename : popBuffer conf.fileNameIndex rest with
        | none => exact filename
        | some found =>
            obtain ⟨clash, inside, -⟩ := pop_mem filename
            rcases kept _ inside with mine | foreign
            · exact absurd (clash ▸ dataEvents_range valid crcs range mine) valid.filename
            · exact absurd clash foreign.data
    · rw [if_neg empty, Rx.writeChunk, confirmCheck_off confirms]
      obtain ⟨next, inside, same⟩ := dataEvents_next valid crcs own empty
      refine ⟨astray.enabled, astray.busy, kept, ⟨next, inside, ?_⟩, astray.closed,
        content ++ event.payload.drop conf.crcSize, count + 1, ?_, ?_, ?_, ?_⟩
      · rw [same, carries]
        exact (if_pos crcs).symm
      · change rx.fout.map _ = _
        rw [writing]
        rfl
      · rw [Function.iterate_succ_apply', ← reached]
        rfl
      · change _ + weight conf _ _ (rest ++ coming) ≤ _
        omega
      · change _ + weight conf _ _ (rest ++ coming) ≤ _
        rw [List.length_append, List.length_drop]
        omega

include valid crcs confirms some_data range range' apart in
/-- **The rounds do not complete the file.** -/
theorem StillLost.process (fuel : Nat) {task : Task}
    (lost : StillLost conf crc seq chunks start files coming rx task) :
    Astray conf crc seq chunks start files coming (Rx.process conf [] fuel (rx, some task)) ∨
      CutShort chunks files (Rx.process conf [] fuel (rx, some task)) := by
  induction fuel generalizing rx task with
  | zero =>
      cases task with
      | processRxBuffer => exact .inl lost
      | processQdFilenames => exact .inr lost.1
  | succ fuel ih =>
      cases task with
      | processRxBuffer =>
          cases popped : popBuffer rx.seq rx.rxEventBuffer with
          | none =>
              rw [Rx.process, Rx.round, popped]
              exact .inl lost
          | some found =>
              obtain ⟨event, rest⟩ := found
              rw [Rx.process, Rx.round, popped]
              exact ih (Astray.sequenceData valid crcs confirms some_data range range' apart lost
                popped)
      | processQdFilenames =>
          rw [Rx.process, Rx.round, lost.2]
          exact .inr lost.1

include valid crcs confirms some_data range range' apart in
/-- **An event of the file does not complete it.** -/
theorem Astray.step (astray : Astray conf crc seq chunks start files (event :: coming) rx)
    (own : event ∈ dataEvents conf crc seq chunks) :
    Astray conf crc seq chunks start files coming (rxStep conf rx (.event event [])) ∨
      CutShort chunks files (rxStep conf rx (.event event [])) := by
  have inside : conf.sequenceIndexStart ≤ event.index ∧ event.index ≤ conf.sequenceIndexStop :=
    dataEvents_range valid crcs range own
  have other : event.index ≠ conf.fileNameIndex := by
    intro clash
    exact valid.filename (clash ▸ inside)
  have queued : rx.sequenceEvent event =
      ({ rx with rxEventBuffer := rx.rxEventBuffer ++ [event] }, some .processRxBuffer) := by
    rw [Rx.sequenceEvent]
    dsimp only
    rw [if_pos astray.busy]
  rw [step_receive valid crcs astray.enabled, if_neg other, if_pos inside, queued]
  obtain ⟨content, count, writing, reached, counted, bytes⟩ := astray.writing
  apply StillLost.process valid crcs confirms some_data range range' apart
  refine ⟨astray.enabled, astray.busy, ?_, astray.carried, astray.closed, content, count, writing,
    reached, ?_, ?_⟩
  · intro buffered member
    rcases List.mem_append.mp member with old | new
    · exact astray.buffered buffered old
    · exact .inl (List.mem_singleton.mp new ▸ own)
  · rw [List.append_assoc]
    exact counted
  · rw [List.append_assoc]
    exact bytes

include valid crcs in
/-- Data that arrive later are only buffered. -/
theorem CutShort.step (short : CutShort chunks files rx)
    (data : event.index ≠ conf.fileNameIndex) :
    CutShort chunks files (rxStep conf rx (.event event [])) := by
  rw [step_receive valid crcs short.enabled, if_neg data]
  split
  · rw [Rx.sequenceEvent]
    dsimp only
    rw [if_neg (by simp [short.idle]), process_none]
    exact ⟨short.enabled, short.idle, short.closed⟩
  · rw [process_none]
    exact short

include valid crcs confirms some_data range range' apart in
/-- **The file is not completed** when all its events have arrived. -/
theorem receives_astray (coming : List Event) (own : coming ⊆ dataEvents conf crc seq chunks)
    (lost : Astray conf crc seq chunks start files coming rx ∨ CutShort chunks files rx) :
    Astray conf crc seq chunks start files [] (rx.receives conf coming) ∨
      CutShort chunks files (rx.receives conf coming) := by
  induction coming generalizing rx with
  | nil => exact lost
  | cons event rest ih =>
      have here := own List.mem_cons_self
      refine ih (fun other inside => own (List.mem_cons_of_mem _ inside)) ?_
      rcases lost with astray | short
      · exact astray.step valid crcs confirms some_data range range' apart here
      · refine .inr (short.step valid crcs ?_)
        intro clash
        exact valid.filename (clash ▸ dataEvents_range valid crcs range here)

/-! ## The next file -/

/-- The next file is written and closed, and nothing else is. -/
structure WritesNext (filename content : Bytes) (before after : Rx) : Prop where
  closed : closings after.log = (filename, content) :: closings before.log
  opened : openings after.log = filename :: openings before.log
  finished : after.fout = none

/-- A chunk weighs one, and each of its bytes after the first one. -/
theorem sum_chunks {chunks : List Bytes} (some_data : ∀ chunk ∈ chunks, chunk ≠ []) :
    (chunks.map fun chunk => min 1 chunk.length).sum = chunks.length ∧
      chunks.length + (chunks.map fun chunk => chunk.length - 1).sum = chunks.flatten.length := by
  induction chunks with
  | nil => exact ⟨rfl, rfl⟩
  | cons chunk rest ih =>
      obtain ⟨counted, bytes⟩ := ih fun other inside =>
        some_data other (List.mem_cons_of_mem _ inside)
      have := List.length_pos_of_ne_nil (some_data chunk List.mem_cons_self)
      simp only [List.map_cons, List.sum_cons, List.length_cons, List.flatten_cons,
        List.length_append]
      omega

include valid crcs confirms some_data range in
/-- **The data of the next file** are written exactly when they go on from the sequence number
with which the port goes on. -/
theorem resumed_writes_iff (aborted : Aborted conf rx) {name : Bytes} {buffer : List Event}
    (foreign : ∀ event ∈ buffer,
      Foreign conf (dataEvents conf (filenameCrc conf crc name) seq chunks) event)
    (missing : popBuffer (resumedSequence conf rx crc) buffer = none) :
    WritesNext (writtenName conf (filenameEventOf conf crc name)) chunks.flatten rx
        ((rx.resumed conf crc name buffer).receives conf
          (dataEvents conf (filenameCrc conf crc name) seq chunks)) ↔
      seq = resumedSequence conf rx crc := by
  have resumed : resumedSequence conf rx crc ∈ sequenceRange conf := by
    rw [resumedSequence]
    split
    · exact ⟨Nat.le_refl _, valid.range⟩
    · exact aborted.seq
  constructor
  · intro writes
    by_contra apart
    obtain ⟨counted, bytes⟩ := sum_chunks some_data
    have none_own : ∀ event ∈ buffer,
        event ∉ dataEvents conf (filenameCrc conf crc name) seq chunks :=
      fun event member => (foreign event member).not_mem valid crcs
    have astray : Astray conf (filenameCrc conf crc name) seq chunks
        (resumedSequence conf rx crc) (closings rx.log)
        (dataEvents conf (filenameCrc conf crc name) seq chunks)
        (rx.resumed conf crc name buffer) := by
      refine ⟨aborted.enabled, rfl, fun event member => .inr (foreign event member),
        dataEvents_first valid crcs _ _ _, rfl, [], 0, rfl, rfl, ?_, ?_⟩
      · rw [show (rx.resumed conf crc name buffer).rxEventBuffer = buffer from rfl,
          weight_foreign rfl none_own, weight_dataEvents valid crcs rfl (List.Subset.refl _)]
        omega
      · rw [show (rx.resumed conf crc name buffer).rxEventBuffer = buffer from rfl,
          weight_foreign rfl none_own, weight_dataEvents valid crcs rfl (List.Subset.refl _),
          List.length_nil]
        omega
    rcases receives_astray valid crcs confirms some_data range resumed (Ne.symm apart) _
        (List.Subset.refl _) (.inl astray) with lost | short
    · obtain ⟨content, _, writing, _⟩ := lost.writing
      rw [writes.finished] at writing
      cases writing
    · obtain ⟨filename, content, less, closed⟩ := short.closed
      rw [writes.closed] at closed
      obtain ⟨pair, -⟩ := List.cons.inj closed
      obtain ⟨-, rfl⟩ := Prod.mk.inj pair
      exact absurd less (Nat.lt_irrefl _)
  · intro same
    have inStep : InStep conf (dataEvents conf (filenameCrc conf crc name) seq chunks)
        (rx.resumed conf crc name buffer) :=
      ⟨aborted.enabled, rfl, resumed, foreign, missing⟩
    have events : dataEvents conf (filenameCrc conf crc name) seq chunks =
        dataEvents conf (rx.resumed conf crc name buffer).crc
          (rx.resumed conf crc name buffer).seq chunks := by
      rw [same]
      rfl
    obtain ⟨log, fout⟩ := receives_inStep valid crcs confirms inStep [] rfl some_data
      (events ▸ List.Subset.refl _)
    rw [events]
    refine ⟨?_, ?_, fout⟩
    · rw [log]
      rfl
    · rw [log]
      rfl

include valid crcs confirms some_data range in
/-- **The next file after a transfer timeout.** After any run that ends in a timeout that aborts a
transfer, the events of a file are delivered in order, for any CRC and any sequence number that
the sending port has reached. Before the filename, events that carry none of the CRCs of the file
may be left over from the transfer. The file is written, and nothing else, if and only if its
sequence number is the one that the port had reached, or the first one if the filename carries the
initial CRC. -/
theorem next_file_written_iff {inputs : List RxInput}
    (run : inputs.foldl (rxStep conf) (Rx.build conf) = rx) (receiving : rx.Receiving)
    (name : Bytes) {leftOver : List Event}
    (foreign : ∀ event ∈ leftOver,
      Foreign conf (dataEvents conf (filenameCrc conf crc name) seq chunks) event) :
    WritesNext (writtenName conf (filenameEventOf conf crc name)) chunks.flatten
        (rxStep conf rx .transferTimeout)
        ((rxStep conf rx .transferTimeout).receives conf
          (leftOver ++ fileEvents conf crc seq name chunks)) ↔
      seq = resumedSequence conf rx crc := by
  obtain ⟨aborted, empty, kept⟩ := timeout_aborted confirms
    (run ▸ run_tidy valid confirms inputs) receiving
  obtain ⟨buffer, sub, buffered⟩ := foldl_leftOver valid crcs aborted
    (fun event member => (foreign event member).data)
  have foreign' : ∀ event ∈ buffer,
      Foreign conf (dataEvents conf (filenameCrc conf crc name) seq chunks) event := by
    intro event member
    rcases sub event member with old | new
    · rw [empty] at old
      cases old
    · exact foreign event new
  have same : resumedSequence conf rx crc =
      resumedSequence conf (rxStep conf rx .transferTimeout) crc := by
    rw [resumedSequence, resumedSequence, kept]
  obtain ⟨first, member, carried⟩ := dataEvents_first valid crcs
    (filenameCrc conf crc name) seq chunks
  obtain ⟨rest, left, missing, taken⟩ := step_filename valid crcs confirms
    (aborted.buffer buffer) crc name
    (fun event inside => carried ▸ (foreign' event inside).refused first member)
  rw [receives_append, buffered, fileEvents, Rx.receives, List.foldl_cons, taken, same]
  exact resumed_writes_iff valid crcs confirms some_data range aborted
    (fun event inside => foreign' event (left inside)) missing

end Resync

/-! ## A file after a lost chunk -/

/-- Four sequence numbers, CRCs and no confirms. -/
def resyncConf : FileTransferConf :=
  { sequenceIndexStart := 5, sequenceIndexStop := 8, fileNameIndex := 1, useConfirms := false }

theorem resyncConf_valid : resyncConf.Valid where
  range := by decide
  filename := by decide
  eof := by simp [resyncConf]
  crcs _ := rfl

/-- A sending port after a file of two chunks. -/
def firstTx : Tx := (Tx.build resyncConf).transferFile resyncConf [1] [0x61] [[1], [2]]

/-- The same port after a second file of one chunk. -/
def secondTx : Tx := firstTx.transferFile resyncConf [2] [0x62] [[3]]

/-- The first file, of which the second chunk is lost. -/
def lossyInputs : List RxInput :=
  .enable :: ((published firstTx.log).eraseIdx 2).map fun event => .event event []

/-- The receiving port when the transfer timeout comes. -/
def waitingRx : Rx := lossyInputs.foldl (rxStep resyncConf) (Rx.build resyncConf)

/-- **A port that was built anew is understood again**: it starts with the initial CRC and the first
sequence number. Before, the end of the first file arrives once more. -/
theorem next_file_written :
    WritesNext [0x62] [3] (rxStep resyncConf waitingRx .transferTimeout)
      ((rxStep resyncConf waitingRx .transferTimeout).receives resyncConf
        ((published firstTx.log).drop 3 ++
          fileEvents resyncConf (crcCcitt []) 5 [0x62] [[3]])) := by
  have data : ∀ event ∈ (published firstTx.log).drop 3,
      event.index ≠ resyncConf.fileNameIndex := by
    decide +kernel
  have refused : ∀ event ∈ (published firstTx.log).drop 3,
      ∀ next ∈ dataEvents resyncConf (filenameCrc resyncConf (crcCcitt []) [0x62]) 5 [[3]],
        event.payload.length < resyncConf.crcSize ∨
          readCrc event.payload ≠ readCrc next.payload := by
    decide +kernel
  exact (next_file_written_iff resyncConf_valid rfl rfl (by decide) ⟨by decide, by decide⟩
    rfl (by decide +kernel) [0x62]
    fun event member => ⟨data event member, refused event member⟩).mpr (by decide)

/-- **The file after a lost chunk is lost** when the sending port goes on. -/
theorem next_file_lost :
    waitingRx.Receiving ∧
      published secondTx.log =
        published firstTx.log ++ fileEvents resyncConf firstTx.crc firstTx.seq [0x62] [[3]] ∧
      ¬ WritesNext [0x62] [3] (rxStep resyncConf waitingRx .transferTimeout)
        ((rxStep resyncConf waitingRx .transferTimeout).receives resyncConf
          (fileEvents resyncConf firstTx.crc firstTx.seq [0x62] [[3]])) := by
  refine ⟨by decide +kernel, published_transferFile resyncConf firstTx [2] [0x62] [[3]], ?_⟩
  intro writes
  exact absurd writes.closed (by decide +kernel)

end OpenDataCon.FileTransfer

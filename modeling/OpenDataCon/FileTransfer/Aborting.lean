import OpenDataCon.FileTransfer.FileEvents

/-!
# The receiving port after a transfer timeout

Without confirms, a transfer timeout aborts what is being received. Whatever happened
before, the port then receives no file, has none open, has an empty buffer, and waits
for the next filename with the sequence number that it had reached (`timeout_aborted`).
Events that are left over from the transfer are only buffered (`foldl_leftOver`).
-/

set_option autoImplicit false

namespace OpenDataCon.FileTransfer

open Resequencing

section Aborting

variable {conf : FileTransferConf} {rx : Rx} {event : Event}

/-! ## What every step keeps -/

/-- The sequence number is one of the range, no file is open between files, and a reset
is pending only then. -/
structure Tidy (conf : FileTransferConf) (rx : Rx) : Prop where
  seq : rx.seq ∈ sequenceRange conf
  closed : rx.rxInProgress = false → rx.fout = none
  reset : rx.transferReset = true → rx.rxInProgress = false

theorem Tidy.build (valid : conf.Valid) : Tidy conf (Rx.build conf) where
  seq := ⟨Nat.le_refl _, valid.range⟩
  closed _ := rfl
  reset := by
    intro pending
    cases pending

theorem Tidy.buffer (tidy : Tidy conf rx) (buffer : List Event) :
    Tidy conf { rx with rxEventBuffer := buffer } :=
  ⟨tidy.seq, tidy.closed, tidy.reset⟩

variable (valid : conf.Valid) (confirms : conf.useConfirms = false)

include valid confirms in
/-- An event that is popped while a file is received. -/
theorem Tidy.sequenceData (tidy : Tidy conf rx) (busy : rx.rxInProgress = true) :
    Tidy conf (rx.sequenceData conf event).1 ∧
      TaskFits (rx.sequenceData conf event).1 (rx.sequenceData conf event).2 := by
  have kept : rx.transferReset = false := by
    cases pending : rx.transferReset with
    | false => rfl
    | true => exact absurd (busy.symm.trans (tidy.reset pending)) (by decide)
  have moved : nextSequence conf rx.seq ∈ sequenceRange conf := nextSequence_mem valid tidy.seq
  rw [Rx.sequenceData]
  split
  · exact ⟨tidy, busy⟩
  · split
    · exact ⟨tidy, busy⟩
    · dsimp only
      split
      · rw [Rx.endFile, confirmCheck_off confirms]
        exact ⟨⟨moved, fun _ => rfl, fun _ => rfl⟩, rfl⟩
      · rw [Rx.writeChunk, confirmCheck_off confirms]
        refine ⟨⟨moved, ?_, ?_⟩, busy⟩
        · intro idle
          exact absurd (busy.symm.trans idle) (by decide)
        · intro pending
          exact absurd (kept.symm.trans pending) (by decide)

theorem Tidy.startFile (valid : conf.Valid) {blocked : List Bytes} (tidy : Tidy conf rx) :
    Tidy conf (rx.startFile conf blocked event).1 ∧
      ∀ task, (rx.startFile conf blocked event).2 = some task →
        TaskFits (rx.startFile conf blocked event).1 task := by
  have range : (rx.syncFilename conf event).seq ∈ sequenceRange conf := by
    rw [Rx.syncFilename]
    split
    · dsimp only
      split
      · exact ⟨Nat.le_refl _, valid.range⟩
      · exact tidy.seq
    · exact tidy.seq
  rw [Rx.startFile]
  dsimp only
  split
  · refine ⟨⟨range, ?_, ?_⟩, ?_⟩
    · intro idle
      cases idle
    · intro pending
      cases pending
    · intro task none_left
      cases none_left
  · refine ⟨⟨range, ?_, ?_⟩, ?_⟩
    · intro idle
      cases idle
    · intro pending
      cases pending
    · rintro task ⟨⟩
      rfl

/-- What a handler leaves is tidy, and the task that follows goes with it. -/
def TidyNext (conf : FileTransferConf) (next : Rx × Option Task) : Prop :=
  Tidy conf next.1 ∧ ∀ task, next.2 = some task → TaskFits next.1 task

theorem Tidy.rxEvent (valid : conf.Valid) {blocked : List Bytes} (tidy : Tidy conf rx) :
    TidyNext conf (rx.rxEvent conf blocked event) := by
  have stays : TidyNext conf (rx, none) := by
    refine ⟨tidy, ?_⟩
    intro task none_left
    cases none_left
  rw [Rx.rxEvent]
  split
  · exact stays
  · next meant _ =>
    split
    · rw [Rx.filenameEvent]
      split
      · refine ⟨tidy.buffer _, ?_⟩
        intro task none_left
        cases none_left
      · next idle =>
        split
        · refine ⟨tidy, ?_⟩
          rintro task ⟨⟩
          exact Bool.eq_false_iff.mpr idle
        · exact tidy.startFile valid
    · split
      · refine ⟨tidy.buffer _, ?_⟩
        intro task posted
        rw [Rx.sequenceEvent] at posted
        dsimp only at posted
        split at posted
        · next busy =>
          cases posted
          exact busy
        · cases posted
      · exact stays

include valid confirms in
theorem Tidy.round {blocked : List Bytes} {task : Task} {next : Rx × Option Task}
    (tidy : Tidy conf rx) (fits : TaskFits rx task)
    (round : rx.round conf blocked task = some next) : TidyNext conf next := by
  cases task with
  | processRxBuffer =>
      obtain ⟨popped, -, rfl⟩ := Option.map_eq_some_iff.mp round
      obtain ⟨kept, goes_on⟩ :=
        Tidy.sequenceData valid confirms (tidy.buffer popped.2) fits
      refine ⟨kept, ?_⟩
      rintro task ⟨⟩
      exact goes_on
  | processQdFilenames =>
      obtain ⟨popped, -, rfl⟩ := Option.map_eq_some_iff.mp round
      exact (tidy.buffer popped.2).rxEvent valid

include valid confirms in
theorem Tidy.process {blocked : List Bytes} (fuel : Nat) {next : Rx × Option Task}
    (tidy : TidyNext conf next) : Tidy conf (Rx.process conf blocked fuel next) := by
  induction fuel generalizing next with
  | zero => exact tidy.1
  | succ fuel ih =>
      obtain ⟨rx, posted⟩ := next
      cases posted with
      | none => exact tidy.1
      | some task =>
          rw [Rx.process]
          split
          · exact tidy.1
          · next later round => exact ih (tidy.1.round valid confirms (tidy.2 task rfl) round)

include confirms in
/-- A reset keeps the sequence number and the CRC. -/
theorem resetTransfer_eq : rx.resetTransfer conf =
    if rx.transferReset = true then rx
    else if rx.rxInProgress = true then
      { rx with
        transferReset := true
        rxInProgress := false
        fout := none
        log := .aborted rx.filename :: rx.log }
    else { rx with transferReset := true } := by
  rw [Rx.resetTransfer, confirms]
  rfl

include confirms in
theorem Tidy.resetTransfer (tidy : Tidy conf rx) :
    Tidy conf (rx.resetTransfer conf) ∧ (rx.resetTransfer conf).transferReset = true := by
  rw [resetTransfer_eq confirms]
  split
  · next pending => exact ⟨tidy, pending⟩
  · split
    · exact ⟨⟨tidy.seq, fun _ => rfl, fun _ => rfl⟩, rfl⟩
    · next idle =>
      exact ⟨⟨tidy.seq, tidy.closed, fun _ => Bool.eq_false_iff.mpr idle⟩, rfl⟩

include valid confirms in
/-- **Every step keeps the port tidy.** -/
theorem Tidy.step (tidy : Tidy conf rx) (input : RxInput) : Tidy conf (rxStep conf rx input) := by
  cases input with
  | enable =>
      refine ⟨tidy.seq, tidy.closed, ?_⟩
      intro pending
      cases pending
  | disable =>
      obtain ⟨kept, -⟩ := tidy.resetTransfer confirms
      exact ⟨kept.seq, kept.closed, kept.reset⟩
  | event event blocked =>
      rw [rxStep]
      split
      · exact Tidy.process valid confirms _ (tidy.rxEvent valid)
      · exact tidy
  | transferTimeout =>
      rw [rxStep]
      split
      · rw [Rx.transferTimeout, confirms]
        apply Tidy.buffer
        split
        · exact (tidy.resetTransfer confirms).1
        · exact tidy
      · exact tidy
  | idleTimeout => exact (tidy.resetTransfer confirms).1

include valid confirms in
theorem run_tidy (inputs : List RxInput) :
    Tidy conf (inputs.foldl (rxStep conf) (Rx.build conf)) := by
  induction inputs using List.reverseRecOn with
  | nil => exact .build valid
  | append_singleton before input ih =>
      rw [List.foldl_append]
      exact ih.step valid confirms input

/-! ## The timeout -/

/-- The port is enabled and there is something for a transfer timeout to abort. -/
def Rx.Receiving (rx : Rx) : Prop :=
  rx.enabled = true ∧ (rx.rxInProgress = true ∨ rx.rxEventBuffer ≠ [])

instance (rx : Rx) : Decidable rx.Receiving := inferInstanceAs (Decidable (_ ∧ _))

/-- Nothing is received, and the next filename is taken as it comes. -/
structure Aborted (conf : FileTransferConf) (rx : Rx) : Prop where
  enabled : rx.enabled = true
  reset : rx.transferReset = true
  idle : rx.rxInProgress = false
  closed : rx.fout = none
  seq : rx.seq ∈ sequenceRange conf

include confirms in
theorem resetTransfer_kept :
    (rx.resetTransfer conf).enabled = rx.enabled ∧ (rx.resetTransfer conf).seq = rx.seq := by
  rw [resetTransfer_eq confirms]
  split
  · exact ⟨rfl, rfl⟩
  · split
    · exact ⟨rfl, rfl⟩
    · exact ⟨rfl, rfl⟩

include confirms in
/-- **A transfer timeout leaves nothing but the sequence number.** -/
theorem timeout_aborted (tidy : Tidy conf rx) (receiving : rx.Receiving) :
    Aborted conf (rxStep conf rx .transferTimeout) ∧
      (rxStep conf rx .transferTimeout).rxEventBuffer = [] ∧
      (rxStep conf rx .transferTimeout).seq = rx.seq := by
  obtain ⟨enabled, something⟩ := receiving
  have step : rxStep conf rx .transferTimeout =
      { rx.resetTransfer conf with rxEventBuffer := [] } := by
    rw [rxStep, if_pos enabled, Rx.transferTimeout, if_pos something, confirms]
    rfl
  obtain ⟨kept, pending⟩ := tidy.resetTransfer confirms
  obtain ⟨still, seq⟩ := @resetTransfer_kept conf rx confirms
  rw [step]
  exact ⟨⟨still.trans enabled, pending, kept.reset pending, kept.closed (kept.reset pending),
    kept.seq⟩, rfl, seq⟩

theorem Aborted.buffer (aborted : Aborted conf rx) (buffer : List Event) :
    Aborted conf { rx with rxEventBuffer := buffer } :=
  ⟨aborted.enabled, aborted.reset, aborted.idle, aborted.closed, aborted.seq⟩

/-! ## What is left over -/

/-- The port receives events, each of whose files can be opened. -/
def Rx.receives (conf : FileTransferConf) (rx : Rx) (events : List Event) : Rx :=
  events.foldl (fun rx event => rxStep conf rx (.event event [])) rx

theorem receives_append (first second : List Event) :
    rx.receives conf (first ++ second) = (rx.receives conf first).receives conf second :=
  List.foldl_append

theorem effectiveEvent_crcs (valid : conf.Valid) (crcs : conf.useCRCs = true) :
    effectiveEvent conf event = some event := by
  rw [effectiveEvent, valid.crcs crcs, if_neg (by simp)]

include valid in
/-- **What is left over of a transfer is only buffered.** -/
theorem foldl_leftOver (crcs : conf.useCRCs = true) (aborted : Aborted conf rx)
    {leftOver : List Event} (data : ∀ event ∈ leftOver, event.index ≠ conf.fileNameIndex) :
    ∃ buffer, (∀ event ∈ buffer, event ∈ rx.rxEventBuffer ∨ event ∈ leftOver) ∧
      rx.receives conf leftOver = { rx with rxEventBuffer := buffer } := by
  induction leftOver generalizing rx with
  | nil => exact ⟨rx.rxEventBuffer, fun _ member => .inl member, rfl⟩
  | cons event rest ih =>
      have step : ∃ buffer, (∀ other ∈ buffer, other ∈ rx.rxEventBuffer ∨ other = event) ∧
          rxStep conf rx (.event event []) = { rx with rxEventBuffer := buffer } := by
        have received : rxStep conf rx (.event event []) = Rx.process conf []
            (2 * rx.rxEventBuffer.length + 2) (rx.rxEvent conf [] event) := if_pos aborted.enabled
        rw [received, Rx.rxEvent, effectiveEvent_crcs valid crcs]
        dsimp only
        rw [if_neg (data event List.mem_cons_self)]
        split
        · refine ⟨rx.rxEventBuffer ++ [event], ?_, ?_⟩
          · intro other member
            simpa using member
          · rw [Rx.sequenceEvent]
            dsimp only
            rw [if_neg (by simp [aborted.idle]), process_none]
        · exact ⟨rx.rxEventBuffer, fun _ member => .inl member, process_none _⟩
      obtain ⟨first, kept, stepped⟩ := step
      obtain ⟨buffer, later, same⟩ := ih (aborted.buffer first)
        (fun other inside => data other (List.mem_cons_of_mem _ inside))
      refine ⟨buffer, ?_, ?_⟩
      · intro other member
        rcases later other member with old | new
        · rcases kept other old with before | rfl
          · exact .inl before
          · exact .inr List.mem_cons_self
        · exact .inr (List.mem_cons_of_mem _ new)
      · rw [Rx.receives, List.foldl_cons, stepped]
        exact same

end Aborting

end OpenDataCon.FileTransfer

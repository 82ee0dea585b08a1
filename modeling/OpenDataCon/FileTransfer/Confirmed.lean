import OpenDataCon.FileTransfer.WrongFile

/-!
# A confirmed file was received

A path that waits to be confirmed was ended since the last reset (`txStep_waits`). An
unsolicited confirmation is compared with the sequence number and CRC of the sending
port; the confirmation of an entire sequence is not, so it also clears what was sent
after the sequence that it confirms (`confirms_unreceived`).

When every confirmation of a sequence is processed while the CRC of the sending port
is still the one at which it was sent, each path that it clears has been closed by
the receiving port with the content transmitted (`run_confirmedClosed`).
-/

set_option autoImplicit false

namespace OpenDataCon.FileTransfer

open Runs

/-! ## What waits to be confirmed -/

/-- A transmission of the path was ended since the last reset. -/
def endedSince (path : Path) : List Entry → Prop
  | [] => False
  | .reset :: _ => False
  | .ended other _ :: before => other = path ∨ endedSince path before
  | .triggered _ :: before => endedSince path before
  | .announced _ _ :: before => endedSince path before
  | .opened _ _ :: before => endedSince path before
  | .chunk _ _ :: before => endedSince path before
  | .resent _ :: before => endedSince path before

theorem endedSince_resent {path : Path} {log : List Entry} (ended : endedSince path log)
    (events : List Event) : endedSince path (events.map Entry.resent ++ log) := by
  induction events with
  | nil => exact ended
  | cons event rest ih => exact ih

/-- Every path that waits to be confirmed was ended since the last reset. -/
def Waits (tx : Tx) : Prop :=
  ∀ path ∈ tx.txUncofirmedTransfers.keys, endedSince path tx.log

theorem FilenameQ.keys_insert {queue more : FilenameQ} {path : Path}
    (member : path ∈ (queue.insert more).keys) : path ∈ queue.keys ∨ path ∈ more.keys := by
  induction more generalizing queue with
  | nil => exact .inl member
  | cons entry rest ih =>
      rcases ih member with old | new
      · split at old
        · exact .inl old
        · rw [keys, List.map_append] at old
          rcases List.mem_append.mp old with old | here
          · exact .inl old
          · rw [List.mem_singleton.mp here]
            exact .inr List.mem_cons_self
      · exact .inr (List.mem_cons_of_mem _ new)

section Functions

variable {conf : FileTransferConf} {tx : Tx}

theorem Waits.postNext (waits : Waits tx) (pick : Nat) : Waits (tx.postNext pick) := by
  rw [Tx.postNext]
  split <;> exact waits

theorem Waits.nextAction (waits : Waits tx) (pick : Nat) : Waits (tx.nextAction pick) := by
  rw [Tx.nextAction]
  split
  · exact waits
  · split
    · apply Waits.postNext
      exact waits
    · exact waits.postNext pick

/-- The file that was sent waits from its EOF on. -/
theorem Waits.endFile (waits : Waits tx) (path : Path) : Waits (tx.endFile conf path) := by
  intro other member
  change other ∈ FilenameQ.keys (if conf.useConfirms = true then _ else _) at member
  split at member
  · rcases FilenameQ.keys_insert member with old | new
    · exact .inr (waits other old)
    · obtain ⟨entry, inside, rfl⟩ := List.mem_map.mp new
      have same : entry.1 = path := by simpa using (List.mem_filter.mp inside).2
      exact .inl same.symm
  · exact .inr (waits other member)

theorem Waits.sendEOF (waits : Waits tx) (path : Path) (pick : Nat) :
    Waits (tx.sendEOF conf path pick) := by
  have ended : Waits (tx.endFile conf path) := waits.endFile path
  rw [Tx.sendEOF]
  split
  · exact waits.nextAction pick
  · dsimp only
    split
    · exact ended
    · exact ended.nextAction pick

theorem Waits.runAction (waits : Waits tx) (action : Action) (pick : Nat) :
    Waits (tx.runAction conf action pick) := by
  cases action with
  | none => exact waits
  | nextAction => exact waits.nextAction pick
  | scheduleNextChunk path =>
      rw [Tx.runAction]
      split <;> exact waits
  | sendEOF path =>
      rw [Tx.runAction]
      split
      · exact waits.sendEOF path pick
      · exact waits

theorem Waits.continue (waits : Waits tx) (action : Action) (pick : Nat) :
    Waits (tx.continue conf action pick) := by
  rw [Tx.continue]
  split
  · exact waits
  · exact waits.runAction action pick

theorem Waits.sendChunk (waits : Waits tx) (path : Path) (pick : Nat) :
    Waits (tx.sendChunk conf path pick) := by
  rw [Tx.sendChunk]
  split
  · apply Waits.sendEOF
    exact waits
  · dsimp only
    split
    · apply Waits.sendEOF
      exact waits
    · split
      · apply Waits.continue
        exact waits
      · apply Waits.continue
        exact waits

theorem Waits.trySend (waits : Waits tx) (path : Path) (txName : Bytes) :
    Waits (tx.trySend conf path txName) := by
  rw [Tx.trySend]
  split
  · exact waits
  · dsimp only
    split <;> exact waits

theorem Waits.sendFile (waits : Waits tx) (path : Path) (content : Option Bytes) (pick : Nat) :
    Waits (tx.sendFile conf path content pick) := by
  rw [Tx.sendFile]
  split
  · exact waits
  · dsimp only
    split
    · apply Waits.sendChunk
      exact waits
    · apply Waits.postNext
      exact waits

/-- After a reset nothing waits to be confirmed. -/
theorem Waits.resetTransfer (waits : Waits tx) (pick : Nat) :
    Waits (tx.resetTransfer conf pick) := by
  have cleared : Waits (tx.clear conf) := fun path member => by cases member
  rw [Tx.resetTransfer]
  split
  · exact waits
  · dsimp only
    split
    · have ran : Waits (Tx.runAction conf { tx.clear conf with fin := (tx.clear conf).fin.close }
          (tx.clear conf).confirmHandler pick) := by
        apply Waits.runAction
        exact cleared
      exact ran
    · exact cleared

theorem Waits.resend (waits : Waits tx) : Waits tx.resend :=
  fun path member => endedSince_resent (waits path member) _

theorem Waits.processConfirm (waits : Waits tx) (crob : ControlRelayOutputBlock) (pick : Nat) :
    Waits (tx.processConfirm conf crob pick) := by
  have nothing : ∀ buffer, Waits { tx with
      txEventBuffer := buffer, txUncofirmedTransfers := [] } :=
    fun _ path member => by cases member
  rw [Tx.processConfirm]
  split
  · split
    · rw [Tx.unsolConfirm]
      split
      · exact nothing []
      · split <;> exact waits
    · have ran : Waits (Tx.runAction conf { tx with
          txEventBuffer := [], txUncofirmedTransfers := [] } tx.confirmHandler pick) :=
        (nothing []).runAction _ pick
      exact ran
  · rw [Tx.negativeConfirm]
    split
    · apply Waits.resend
      exact waits
    · exact (waits.resetTransfer pick).resend
  · exact waits

/-- **What waits to be confirmed was ended since the last reset.** -/
theorem txStep_waits (input : TxInput) (waits : Waits tx) : Waits (txStep conf tx input).1 := by
  cases input with
  | enable pick =>
      apply Waits.postNext
      exact waits
  | disable pick => exact waits.resetTransfer pick
  | trigger path txName =>
      rw [txStep, Tx.trigger]
      split
      · apply Waits.trySend
        exact waits
      · exact waits
  | handler i content pick =>
      rw [txStep]
      split
      · next handler here =>
        have removed : Waits { tx with handlers := tx.handlers.eraseIdx i } := waits
        cases handler with
        | sendFile path => exact removed.sendFile path content pick
        | sendChunk path =>
            rw [Tx.runHandler]
            split
            · exact removed.sendChunk path pick
            · exact removed
        | trySend path txName => exact removed.trySend path txName
      · exact waits
  | confirm crob pick =>
      rw [txStep]
      split
      · rw [Tx.confirmEvent]
        split
        · exact waits.processConfirm crob pick
        · exact (waits.processConfirm crob pick).postNext pick
      · exact waits
  | confirmTimeout =>
      rw [txStep]
      split
      · exact waits.resend
      · exact waits
  | idleTimeout pick => exact waits.resetTransfer pick

end Functions

/-! ## The last transmission of a path -/

/-- The last EOF of a path since the reset, and the transmission that it ends. -/
theorem last_of_endedSince {conf : FileTransferConf} {path : Path} {log : List Entry}
    (ended : endedSince path log) :
    ∃ eof before, .ended path eof :: before <:+ log ∧
      (∃ after, history log = history before ++ eof :: after) ∧
      ∀ sent, sending conf path [] before = some sent →
        (transmissions conf log).find? (fun other => other.path = path) =
          some { path, event := sent.1, content := sent.2 } := by
  induction log with
  | nil => cases ended
  | cons entry before ih =>
      by_cases here : ∃ eof, entry = .ended path eof
      · obtain ⟨eof, rfl⟩ := here
        refine ⟨eof, before, List.suffix_rfl, ⟨[], rfl⟩, ?_⟩
        intro sent under_way
        rw [transmissions, under_way]
        simp
      · have older : endedSince path before := by
          cases entry with
          | reset => cases ended
          | ended other eof =>
              rcases ended with rfl | older
              · exact absurd ⟨eof, rfl⟩ here
              · exact older
          | _ => exact ended
        have goes_on : entry ≠ .reset := by
          rintro rfl
          cases ended
        obtain ⟨eof, rest, suffix, ⟨after, split⟩, last⟩ := ih older
        refine ⟨eof, rest, suffix.trans (List.suffix_cons _ _), ?_, ?_⟩
        · refine ⟨after ++ entry.event?.toList, ?_⟩
          rw [history_cons before goes_on, split, List.append_assoc]
          rfl
        · intro sent under_way
          cases entry with
          | ended other eof' =>
              have different : other ≠ path := by
                rintro rfl
                exact here ⟨eof', rfl⟩
              rw [transmissions, List.find?_append, last sent under_way]
              simp [List.find?_eq_none.mpr, different]
          | _ => exact last sent under_way

/-! ## Confirmations -/

/-- A positive confirmation after which nothing waits to be confirmed. -/
def ClearsAll (conf : FileTransferConf) (tx : Tx) (crob : ControlRelayOutputBlock) : Prop :=
  crob.status = .success ∧
    (crob.count = 2 →
      crob.onTimeMS = tx.seq ∧ (conf.useCRCs = true → crob.offTimeMS = tx.crc.toNat))

/-- A file could not be opened. -/
def RxEntry.isBlocked : RxEntry → Bool
  | .blocked _ => true
  | _ => false

/-- The receiving port has closed the last transmission of a path. -/
def Received (conf : FileTransferConf) (net : Net) (path : Path) : Prop :=
  ∃ sent ∈ (transmissions conf net.tx.log).find? (fun other => other.path = path),
    .closed (writtenName conf sent.event) sent.content ∈ net.rx.log

instance (conf : FileTransferConf) (net : Net) (path : Path) :
    Decidable (Received conf net path) :=
  inferInstanceAs (Decidable (∃ sent ∈ (transmissions conf net.tx.log).find? _, _))

/-- **Confirmed means received**: every path that a confirmation clears was received. -/
structure ConfirmsReceived (conf : FileTransferConf) (net : Net)
    (crob : ControlRelayOutputBlock) : Prop where
  received : ClearsAll conf net.tx crob →
    ∀ path ∈ net.tx.txUncofirmedTransfers.keys, Received conf net path

/-- Transmissions exclude each other, and the confirmation of a sequence is processed while the
CRC of the sending port is the one at which it was sent. -/
def ConfirmsInStep (net : Net) : NetInput → Prop
  | .tx input => Exclusive net.tx input
  | .confirm i _ =>
    ∀ confirmation ∈ (confirmations net.rx.log)[i]?,
      confirmation.crob.status = .success → confirmation.crob.count ≠ 2 →
        confirmation.crc = net.tx.crc
  | _ => True

instance (net : Net) : ∀ input, Decidable (ConfirmsInStep net input)
  | .tx input => inferInstanceAs (Decidable (Exclusive net.tx input))
  | .deliver _ _ => .isTrue trivial
  | .rxEnable => .isTrue trivial
  | .rxDisable => .isTrue trivial
  | .transferTimeout => .isTrue trivial
  | .rxIdleTimeout => .isTrue trivial
  | .confirm i _ =>
    inferInstanceAs (Decidable (∀ confirmation ∈ (confirmations net.rx.log)[i]?, _ → _ → _))

theorem ConfirmsInStep.exclusive {net : Net} {input : NetInput}
    (inStep : ConfirmsInStep net input) : NetExclusive net input := by
  cases input with
  | tx input => exact inStep
  | _ => trivial

theorem mem_confirmations {log : List RxEntry} {confirmation : Confirmation}
    (member : confirmation ∈ confirmations log) :
    .confirmed confirmation.crob confirmation.seq confirmation.crc ∈ log := by
  induction log with
  | nil => cases member
  | cons entry before ih =>
      cases entry with
      | confirmed crob seq crc =>
          rcases List.mem_append.mp member with old | new
          · exact List.mem_cons_of_mem _ (ih old)
          · rw [List.mem_singleton.mp new]
            exact List.mem_cons_self
      | _ => exact List.mem_cons_of_mem _ (ih member)

section Runs

variable {conf : FileTransferConf} (valid : conf.Valid) (crcs : conf.useCRCs = true)
  (confirms : conf.useConfirms = true)

theorem netStep_waits (net : Net) (input : NetInput) (waits : Waits net.tx) :
    Waits (netStep conf net input).1.tx := by
  cases input with
  | tx input =>
      have stepped : Waits (txStep conf net.tx input).1 := txStep_waits input waits
      cases input with
      | confirm crob pick => exact waits
      | _ => exact stepped
  | deliver i blocked =>
      rw [netStep]
      split <;> exact waits
  | confirm i pick =>
      rw [netStep]
      split
      · exact txStep_waits _ waits
      · exact waits
  | _ => exact waits

include confirms in
/-- A confirmation whose CRC is that of the sending port was sent for its whole history. -/
theorem received_of_crc {net : Net} {confirmation : Confirmation} {path : Path}
    (sound : NetSound conf net) (distinct : DistinctCrcs net.tx.log)
    (opened : ∀ entry ∈ net.rx.log, entry.isBlocked = false)
    (sent : .confirmed confirmation.crob confirmation.seq confirmation.crc ∈ net.rx.log)
    (same : confirmation.crc = net.tx.crc) (ended : endedSince path net.tx.log) :
    Received conf net path := by
  obtain ⟨-, events, known, crc, completed⟩ := (sound.rx distinct).confirmed _ _ _ sent
  have whole : events = history net.tx.log :=
    distinct _ known _ (history_mem_histories _) (crc.symm.trans (same.trans sound.tx.crc))
  obtain ⟨eof, before, suffix, ⟨after, split⟩, last⟩ := @last_of_endedSince conf path _ ended
  obtain ⟨index, -, empty, -⟩ := sound.tx.logged.entry suffix
  obtain ⟨event, chunks, file, done⟩ :=
    completed confirms (history before) eof after (whole.trans split) index empty
  have extended : Extends net.tx.log (history before) eof (.ended path eof) before :=
    ⟨suffix, rfl, rfl, histories_mono suffix (history_mem_histories _)⟩
  obtain ⟨_, same_path, under_way⟩ :=
    extended.sending sound.tx.logged index empty file
  cases same_path
  refine ⟨_, last _ under_way, ?_⟩
  exact done.resolve_right fun failed => Bool.false_ne_true (opened _ failed).symm

include valid crcs confirms in
/-- **Confirmed means received.** In every run in which transmissions exclude each other, files
open, the CRCs of different histories differ, and the confirmation of a sequence is processed while
the CRC of the sending port is the one at which it was sent, every path that a positive
confirmation clears was received. -/
theorem run_confirmsReceived (inputs : List NetInput) (i pick : Nat) (confirmation : Confirmation)
    (inStep : Guarded (netStep conf) ConfirmsInStep (Net.build conf) (inputs ++ [.confirm i pick]))
    (here : (confirmations (run (netStep conf) (Net.build conf) inputs).1.rx.log)[i]? =
      some confirmation)
    (distinct : DistinctCrcs (run (netStep conf) (Net.build conf) inputs).1.tx.log)
    (opened : ∀ entry ∈ (run (netStep conf) (Net.build conf) inputs).1.rx.log,
      entry.isBlocked = false) :
    ConfirmsReceived conf (run (netStep conf) (Net.build conf) inputs).1 confirmation.crob where
  received clears path member := by
    obtain ⟨before, ⟨now, -⟩⟩ := guarded_append.mp inStep
    have kept : NetSound conf (run (netStep conf) (Net.build conf) inputs).1 ∧
        Waits (run (netStep conf) (Net.build conf) inputs).1.tx := by
      refine guarded_invariant (fun net => NetSound conf net ∧ Waits net.tx) ?_ ?_ before
      · rintro net input ⟨sound, waits⟩ guard
        exact ⟨netStep_sound valid crcs net input sound guard.exclusive,
          netStep_waits net input waits⟩
      · exact ⟨build_netSound valid, fun path member => by cases member⟩
    obtain ⟨sound, waits⟩ := kept
    have sent := mem_confirmations (List.mem_of_getElem? here)
    refine received_of_crc confirms sound distinct opened sent ?_ (waits path member)
    by_cases unsol : confirmation.crob.count = 2
    · obtain ⟨reached, -⟩ := (sound.rx distinct).confirmed _ _ _ sent
      have expected := (clears.2 unsol).2 crcs
      exact BitVec.eq_of_toNat_eq ((reached unsol).symm.trans expected)
    · exact now confirmation here clears.1 unsol

end Runs

/-- A file is sent and received whole. -/
def receivedInputs : List NetInput :=
  [.rxEnable, .tx (.enable 0), .tx (.trigger [1] [0x41]), .tx (.handler 0 (some [7]) 0),
    .deliver 0 [], .deliver 1 [], .deliver 2 []]

/-- The confirmation of the first two sequence numbers. -/
def wholeConfirmation : Confirmation := { crob := {}, seq := 0, crc := 0x3D37#16 }

theorem run_confirmsReceived_whole :
    (run (netStep pairConf) (Net.build pairConf) receivedInputs).1.tx.txUncofirmedTransfers =
        [([1], [0x41])] ∧
      ConfirmsReceived pairConf (run (netStep pairConf) (Net.build pairConf) receivedInputs).1
        wholeConfirmation.crob :=
  ⟨by decide +kernel,
    run_confirmsReceived pairConf_valid rfl rfl receivedInputs 0 0 wholeConfirmation
      (by decide +kernel) (by decide +kernel) (by decide +kernel) (by decide +kernel)⟩

/-- A second file is triggered before the confirmation of the first one arrives; none of its
events do. -/
def overtakenInputs : List NetInput :=
  receivedInputs ++ [.tx (.trigger [2] [0x42]), .tx (.handler 0 (some [8]) 0)]

/-- **A file is confirmed that was never received**: the confirmation of the first file clears
the second one as well. -/
theorem confirms_unreceived :
    (confirmations (run (netStep pairConf) (Net.build pairConf) overtakenInputs).1.rx.log)[0]? =
        some wholeConfirmation ∧
      DistinctCrcs (run (netStep pairConf) (Net.build pairConf) overtakenInputs).1.tx.log ∧
      ¬ ConfirmsReceived pairConf (run (netStep pairConf) (Net.build pairConf) overtakenInputs).1
        wholeConfirmation.crob := by
  refine ⟨by decide +kernel, by decide +kernel, fun kept => ?_⟩
  have clears : ClearsAll pairConf
      (run (netStep pairConf) (Net.build pairConf) overtakenInputs).1.tx wholeConfirmation.crob :=
    ⟨rfl, fun unsol => absurd unsol (by decide)⟩
  exact absurd (kept.received clears [2] (by decide +kernel)) (by decide +kernel)

end OpenDataCon.FileTransfer

import OpenDataCon.FileTransfer.Tx

/-!
# A file that is triggered while it is being sent

The queue is keyed by path, so a trigger of the file that is being read changes only
the entry that the end of the transmission removes: the file is not sent again
(`trigger_lost`). When no file is triggered between its opening and its EOF, and
every file opens, each path that was triggered is in the queue or was opened since
(`Remembered`), and an idle port has opened every path since it was last triggered
(`run_noLostTrigger`).
-/

set_option autoImplicit false

namespace OpenDataCon.FileTransfer

open Runs

/-! ## Triggers and openings in the log -/

/-- The path was opened since it was last triggered, in a log with the newest entry first. -/
def openedSince (path : Path) : List Entry → Prop
  | [] => True
  | .triggered other :: rest => other ≠ path ∧ openedSince path rest
  | .opened other _ :: rest => other = path ∨ openedSince path rest
  | .announced _ _ :: rest => openedSince path rest
  | .chunk _ _ :: rest => openedSince path rest
  | .ended _ _ :: rest => openedSince path rest
  | .resent _ :: rest => openedSince path rest
  | .reset :: rest => openedSince path rest

instance decidableOpenedSince (path : Path) : ∀ log, Decidable (openedSince path log)
  | [] => .isTrue trivial
  | .triggered _ :: rest =>
    have := decidableOpenedSince path rest
    inferInstanceAs (Decidable (_ ∧ _))
  | .opened _ _ :: rest =>
    have := decidableOpenedSince path rest
    inferInstanceAs (Decidable (_ ∨ _))
  | .announced _ _ :: rest => decidableOpenedSince path rest
  | .chunk _ _ :: rest => decidableOpenedSince path rest
  | .ended _ _ :: rest => decidableOpenedSince path rest
  | .resent _ :: rest => decidableOpenedSince path rest
  | .reset :: rest => decidableOpenedSince path rest

theorem openedSince_resent (path : Path) (events : List Event) (log : List Entry) :
    openedSince path (events.map Entry.resent ++ log) ↔ openedSince path log := by
  induction events with
  | nil => rfl
  | cons event rest ih => exact ih

/-- The port is between opening the file and its EOF. -/
def Reading (tx : Tx) (path : Path) : Prop :=
  .sendChunk path ∈ tx.handlers ∨ tx.confirmHandler = .scheduleNextChunk path ∨
    tx.confirmHandler = .sendEOF path

instance (tx : Tx) (path : Path) : Decidable (Reading tx path) :=
  inferInstanceAs (Decidable (_ ∨ _ ∨ _))

/-- No transmission is under way or waiting. -/
def Idle (tx : Tx) : Prop := tx.txInProgress = false ∧ tx.txFilenameQ = []

instance (tx : Tx) : Decidable (Idle tx) := inferInstanceAs (Decidable (_ ∧ _))

/-- **No trigger is lost**: when the port is idle, the last transmission of each path
started after the last trigger of that path. -/
structure NoLostTrigger (tx : Tx) : Prop where
  opened : Idle tx → ∀ path, openedSince path tx.log

theorem not_noLostTrigger {tx : Tx} (path : Path) (idle : Idle tx)
    (missed : ¬ openedSince path tx.log) : ¬ NoLostTrigger tx :=
  fun kept => missed (kept.opened idle path)

/-- A handler that opens a file does so with success. -/
def Opens (tx : Tx) (content : Option Bytes) : Option Handler → Prop
  | some (.sendFile _) => tx.enabled = true → (tx.fin.open content).good = true
  | _ => True

instance (tx : Tx) (content : Option Bytes) : ∀ handler, Decidable (Opens tx content handler)
  | some (.sendFile _) => inferInstanceAs (Decidable (_ → _))
  | some (.sendChunk _) => .isTrue trivial
  | some (.trySend _ _) => .isTrue trivial
  | none => .isTrue trivial

/-- A file is triggered only while it is not being read, and files open. -/
def Undisturbed (tx : Tx) : TxInput → Prop
  | .trigger path _ => ¬ Reading tx path
  | .handler i content _ => Opens tx content tx.handlers[i]?
  | _ => True

instance (tx : Tx) : ∀ input, Decidable (Undisturbed tx input)
  | .trigger path _ => inferInstanceAs (Decidable (¬ Reading tx path))
  | .handler i content _ => inferInstanceAs (Decidable (Opens tx content tx.handlers[i]?))
  | .enable _ => .isTrue trivial
  | .disable _ => .isTrue trivial
  | .confirm _ _ => .isTrue trivial
  | .confirmTimeout => .isTrue trivial
  | .idleTimeout _ => .isTrue trivial

/-! ## Keys of the queues -/

theorem FilenameQ.mem_keys_assign {queue : FilenameQ} {path other : Path} (txName : Bytes)
    (member : other = path ∨ other ∈ queue.keys) :
    other ∈ (queue.assign path txName).keys := by
  by_cases known : path ∈ queue.map Prod.fst
  · rw [assign, if_pos known, keys, List.map_map]
    have inside : other ∈ queue.map Prod.fst := by
      rcases member with rfl | inside
      · exact known
      · exact inside
    obtain ⟨entry, there, rfl⟩ := List.mem_map.mp inside
    refine List.mem_map.mpr ⟨entry, there, ?_⟩
    by_cases same : entry.1 = path <;> simp [same]
  · rw [assign, if_neg known, keys, List.map_append]
    rcases member with rfl | inside
    · exact List.mem_append_right _ List.mem_cons_self
    · exact List.mem_append_left _ inside

theorem FilenameQ.mem_keys_erase {queue : FilenameQ} {path other : Path}
    (different : other ≠ path) (member : other ∈ queue.keys) :
    other ∈ (queue.erase path).keys := by
  obtain ⟨entry, there, rfl⟩ := List.mem_map.mp member
  exact List.mem_map.mpr ⟨entry, List.mem_filter.mpr ⟨there, by simpa using different⟩, rfl⟩

theorem FilenameQ.mem_keys_insert {queue : FilenameQ} (more : FilenameQ) {path : Path}
    (member : path ∈ queue.keys) : path ∈ (queue.insert more).keys := by
  induction more generalizing queue with
  | nil => exact member
  | cons entry rest ih =>
      apply ih
      by_cases known : entry.1 ∈ queue.map Prod.fst
      · rwa [if_pos known]
      · rw [if_neg known, keys, List.map_append]
        exact List.mem_append_left _ member

/-! ## What every function of the port keeps -/

/-- Every triggered path is in the queue or was opened since, and what is being read was
opened since. -/
structure Remembered (tx : Tx) : Prop where
  queued : ∀ path, path ∈ tx.txFilenameQ.keys ∨ openedSince path tx.log
  reading : ∀ path, Reading tx path → openedSince path tx.log

/-- The paths that a stored action goes on reading. -/
def Action.Reads (action : Action) (path : Path) : Prop :=
  action = .scheduleNextChunk path ∨ action = .sendEOF path

section Functions

variable {conf : FileTransferConf} {tx : Tx}

/-- What a step must not touch. -/
theorem Remembered.step {later : Tx} (kept : Remembered tx)
    (log : ∀ path, openedSince path tx.log → openedSince path later.log)
    (queue : ∀ path ∈ tx.txFilenameQ.keys,
      path ∈ later.txFilenameQ.keys ∨ openedSince path later.log)
    (reading : ∀ path, Reading later path → Reading tx path ∨ openedSince path later.log) :
    Remembered later where
  queued path := by
    rcases kept.queued path with inside | opened
    · exact queue path inside
    · exact .inr (log path opened)
  reading path here := by
    rcases reading path here with before | opened
    · exact log path (kept.reading path before)
    · exact opened

/-- A step that changes neither queue nor log, nor what is being read. -/
theorem Remembered.frame {later : Tx} (kept : Remembered tx) (log : later.log = tx.log)
    (queue : later.txFilenameQ = tx.txFilenameQ)
    (reading : ∀ path, Reading later path → Reading tx path) : Remembered later := by
  refine kept.step ?_ ?_ (fun path here => .inl (reading path here))
  · rw [log]
    exact fun path opened => opened
  · rw [queue]
    exact fun path inside => .inl inside

theorem Remembered.postNext (kept : Remembered tx) (pick : Nat) :
    Remembered (tx.postNext pick) := by
  rw [Tx.postNext]
  split
  · refine kept.frame rfl rfl ?_
    rintro path (chunk | stored)
    · rcases List.mem_append.mp chunk with before | posted
      · exact .inl before
      · cases List.mem_singleton.mp posted
    · exact .inr stored
  · exact kept

theorem Remembered.nextAction (kept : Remembered tx) (pick : Nat) :
    Remembered (tx.nextAction pick) := by
  rw [Tx.nextAction]
  split
  · exact kept
  · split
    · apply Remembered.postNext
      exact kept.frame rfl rfl fun path here => here
    · exact kept.postNext pick

theorem Remembered.endFile {path : Path} (kept : Remembered tx)
    (opened : openedSince path tx.log) : Remembered (tx.endFile conf path) := by
  refine kept.step (fun other here => here) ?_ (fun other here => .inl here)
  intro other inside
  by_cases same : other = path
  · subst same
    exact .inr opened
  · exact .inl (FilenameQ.mem_keys_erase same inside)

theorem Remembered.sendEOF {path : Path} (kept : Remembered tx) (opened : openedSince path tx.log)
    (pick : Nat) : Remembered (tx.sendEOF conf path pick) := by
  rw [Tx.sendEOF]
  split
  · exact kept.nextAction pick
  · have ended : Remembered (tx.endFile conf path) := kept.endFile opened
    dsimp only
    split
    · refine ended.frame rfl rfl ?_
      rintro other (chunk | stored | stored)
      · exact .inl chunk
      · cases stored
      · cases stored
    · exact ended.nextAction pick

theorem Remembered.runAction {action : Action} (kept : Remembered tx)
    (opened : ∀ path, action.Reads path → openedSince path tx.log) (pick : Nat) :
    Remembered (tx.runAction conf action pick) := by
  cases action with
  | none => exact kept
  | nextAction => exact kept.nextAction pick
  | scheduleNextChunk path =>
      rw [Tx.runAction]
      split
      · refine kept.step (fun other here => here) (fun other inside => .inl inside) ?_
        rintro other (chunk | stored)
        · rcases List.mem_append.mp chunk with before | posted
          · exact .inl (.inl before)
          · cases List.mem_singleton.mp posted
            exact .inr (opened path (.inl rfl))
        · exact .inl (.inr stored)
      · exact kept
  | sendEOF path =>
      rw [Tx.runAction]
      split
      · exact kept.sendEOF (opened path (.inr rfl)) pick
      · exact kept

theorem Remembered.continue {action : Action} (kept : Remembered tx)
    (opened : ∀ path, action.Reads path → openedSince path tx.log) (pick : Nat) :
    Remembered (tx.continue conf action pick) := by
  rw [Tx.continue]
  split
  · refine kept.step (fun other here => here) (fun other inside => .inl inside) ?_
    rintro other (chunk | stored)
    · exact .inl (.inl chunk)
    · exact .inr (opened other stored)
  · exact kept.runAction opened pick

theorem Remembered.sendChunk {path : Path} (kept : Remembered tx)
    (opened : openedSince path tx.log) (pick : Nat) :
    Remembered (tx.sendChunk conf path pick) := by
  have ending : ∀ fin, Remembered (Tx.sendEOF conf { tx with fin := fin } path pick) := by
    intro fin
    have closed : Remembered { tx with fin := fin } := kept.frame rfl rfl fun other here => here
    exact closed.sendEOF opened pick
  rw [Tx.sendChunk]
  split
  · exact ending _
  · dsimp only
    split
    · exact ending _
    · have published : ∀ fin, Remembered { tx.publishChunk conf path
          (tx.fin.data (255 - conf.crcSize)) with fin := fin } := fun fin =>
        kept.step (fun other here => here) (fun other inside => .inl inside)
          (fun other here => .inl here)
      split
      · apply Remembered.continue (published _)
        rintro other (same | same) <;> cases same
        exact opened
      · apply Remembered.continue (published _)
        rintro other (same | same) <;> cases same
        exact opened

/-- Announcing a file changes nothing that is remembered. -/
theorem Remembered.announce {path : Path} {txName : Bytes} (kept : Remembered tx) :
    Remembered (tx.announce conf path txName) := by
  refine kept.step (fun other here => here) (fun other inside => .inl inside) ?_
  rintro other (chunk | stored)
  · rcases List.mem_append.mp chunk with before | posted
    · exact .inl (.inl before)
    · cases List.mem_singleton.mp posted
  · exact .inl (.inr stored)

theorem Remembered.trySend {path : Path} {txName : Bytes}
    (assigned : Remembered { tx with txFilenameQ := tx.txFilenameQ.assign path txName })
    (off : tx.enabled = false → Remembered tx) : Remembered (tx.trySend conf path txName) := by
  rw [Tx.trySend]
  split
  · next disabled => exact off (by simpa using disabled)
  · dsimp only
    split
    · exact assigned
    · exact assigned.announce

/-- A posted `TrySend` adds to the queue. -/
theorem Remembered.assign {path : Path} (txName : Bytes) (kept : Remembered tx) :
    Remembered { tx with txFilenameQ := tx.txFilenameQ.assign path txName } :=
  kept.step (fun _ here => here)
    (fun _ inside => .inl (FilenameQ.mem_keys_assign txName (.inr inside)))
    fun _ here => .inl here

/-- A trigger puts its path into the queue; what is being read is not triggered. -/
theorem Remembered.assign_triggered {path : Path} (txName : Bytes) (kept : Remembered tx)
    (unread : ¬ Reading tx path) :
    Remembered { tx with
      log := .triggered path :: tx.log, txFilenameQ := tx.txFilenameQ.assign path txName } where
  queued other := by
    by_cases same : path = other
    · exact .inl (FilenameQ.mem_keys_assign txName (.inl same.symm))
    · rcases kept.queued other with inside | opened
      · exact .inl (FilenameQ.mem_keys_assign txName (.inr inside))
      · exact .inr ⟨same, opened⟩
  reading other here := by
    refine ⟨?_, kept.reading other here⟩
    rintro rfl
    exact unread here

theorem Remembered.trigger {path : Path} {txName : Bytes} (kept : Remembered tx)
    (unread : ¬ Reading tx path) : Remembered (tx.trigger conf path txName) := by
  rw [Tx.trigger]
  split
  · next on =>
    refine Remembered.trySend (kept.assign_triggered txName unread) fun off => ?_
    exact absurd (on.symm.trans off) (by decide)
  · exact kept

theorem Remembered.sendFile {path : Path} {content : Option Bytes} (kept : Remembered tx)
    (opens : tx.enabled = true → (tx.fin.open content).good = true) (pick : Nat) :
    Remembered (tx.sendFile conf path content pick) := by
  rw [Tx.sendFile]
  split
  · exact kept
  · next on =>
    dsimp only
    rw [if_pos (opens (by simpa using on))]
    apply Remembered.sendChunk
    · exact kept.step (fun _ here => .inr here) (fun _ inside => .inl inside)
        fun _ here => .inl here
    · exact .inl rfl

theorem Remembered.clear (kept : Remembered tx) : Remembered (tx.clear conf) :=
  kept.step (fun _ here => here) (fun _ inside => .inl (FilenameQ.mem_keys_insert _ inside))
    fun _ here => .inl here

/-- The stored action is done, and nothing is stored after it. -/
theorem Remembered.runConfirmHandler (kept : Remembered tx) (pick : Nat) :
    Remembered { tx.runAction conf tx.confirmHandler pick with confirmHandler := .none } := by
  have ran : Remembered (tx.runAction conf tx.confirmHandler pick) :=
    kept.runAction (fun path reads => kept.reading path (.inr reads)) pick
  refine ran.frame rfl rfl ?_
  rintro path (chunk | stored | stored)
  · exact .inl chunk
  · cases stored
  · cases stored

theorem Remembered.resetTransfer (kept : Remembered tx) (pick : Nat) :
    Remembered (tx.resetTransfer conf pick) := by
  rw [Tx.resetTransfer]
  split
  · exact kept
  · have cleared : Remembered (tx.clear conf) := kept.clear
    dsimp only
    split
    · have closed : Remembered { tx.clear conf with fin := (tx.clear conf).fin.close } :=
        cleared.frame rfl rfl fun path here => here
      exact closed.runConfirmHandler pick
    · exact cleared

theorem Remembered.resend (kept : Remembered tx) : Remembered tx.resend := by
  refine kept.step ?_ (fun path inside => .inl inside) (fun path here => .inl here)
  exact fun path opened => (openedSince_resent path _ tx.log).mpr opened

theorem Remembered.processConfirm (kept : Remembered tx) (crob : ControlRelayOutputBlock)
    (pick : Nat) : Remembered (tx.processConfirm conf crob pick) := by
  have buffered : ∀ buffer unconfirmed, Remembered { tx with
      txEventBuffer := buffer, txUncofirmedTransfers := unconfirmed } :=
    fun buffer unconfirmed => kept.frame rfl rfl fun path here => here
  rw [Tx.processConfirm]
  split
  · split
    · rw [Tx.unsolConfirm]
      split
      · exact buffered _ _
      · split
        · exact buffered _ _
        · exact kept
    · exact (buffered [] []).runConfirmHandler pick
  · rw [Tx.negativeConfirm]
    split
    · exact (buffered _ _).resend
    · exact (kept.resetTransfer pick).resend
  · exact kept

theorem Remembered.confirmEvent (kept : Remembered tx) (crob : ControlRelayOutputBlock)
    (pick : Nat) : Remembered (tx.confirmEvent conf crob pick) := by
  rw [Tx.confirmEvent]
  split
  · exact kept.processConfirm crob pick
  · exact (kept.processConfirm crob pick).postNext pick

end Functions

/-! ## Runs -/

variable {conf : FileTransferConf}

theorem Remembered.runHandler {tx : Tx} {content : Option Bytes} {handler : Handler}
    (kept : Remembered tx) (opens : Opens tx content (some handler))
    (reads : ∀ path, handler = .sendChunk path → openedSince path tx.log) (pick : Nat) :
    Remembered (tx.runHandler conf content pick handler) := by
  cases handler with
  | sendFile path => exact kept.sendFile opens pick
  | sendChunk path =>
      rw [Tx.runHandler]
      split
      · exact kept.sendChunk (reads path rfl) pick
      · exact kept
  | trySend path txName => exact (kept.assign txName).trySend fun _ => kept

theorem remembered_txStep (tx : Tx) (input : TxInput) (kept : Remembered tx)
    (undisturbed : Undisturbed tx input) : Remembered (txStep conf tx input).1 := by
  cases input with
  | enable pick =>
      apply Remembered.postNext
      exact kept.frame rfl rfl fun path here => here
  | disable pick => exact (kept.resetTransfer pick).frame rfl rfl fun path here => here
  | trigger path txName => exact kept.trigger undisturbed
  | handler i content pick =>
      rw [Undisturbed] at undisturbed
      rw [txStep]
      cases here : tx.handlers[i]? with
      | none => exact kept
      | some handler =>
          rw [here] at undisturbed
          have removed : Remembered { tx with handlers := tx.handlers.eraseIdx i } := by
            refine kept.frame rfl rfl ?_
            rintro path (chunk | stored)
            · exact .inl (List.mem_of_mem_eraseIdx chunk)
            · exact .inr stored
          refine removed.runHandler undisturbed ?_ pick
          rintro path rfl
          exact kept.reading path (.inl (List.mem_of_getElem? here))
  | confirm crob pick =>
      rw [txStep]
      split
      · exact kept.confirmEvent crob pick
      · exact kept
  | confirmTimeout =>
      rw [txStep]
      split
      · exact kept.resend
      · exact kept
  | idleTimeout pick => exact kept.resetTransfer pick

theorem remembered_build : Remembered (Tx.build conf) where
  queued _ := .inr trivial
  reading _ _ := trivial

/-- **No trigger is lost in an undisturbed run.** When no file is triggered between its opening
and its EOF, and every file opens, the last transmission of each path started after its last
trigger whenever the port is idle. -/
theorem run_noLostTrigger (inputs : List TxInput)
    (undisturbed : Guarded (txStep conf) Undisturbed (Tx.build conf) inputs) :
    NoLostTrigger (run (txStep conf) (Tx.build conf) inputs).1 := by
  have kept : Remembered (run (txStep conf) (Tx.build conf) inputs).1 :=
    guarded_invariant Remembered remembered_txStep remembered_build undisturbed
  constructor
  intro idle path
  rcases kept.queued path with inside | opened
  · rw [idle.2] at inside
    cases inside
  · exact opened

/-- A port without CRCs and confirms, with ten sequence numbers. -/
def plainConf : FileTransferConf :=
  { sequenceIndexStop := 9, fileNameIndex := 100, useCRCs := false, useConfirms := false }

/-- A second file is triggered while the first one is being read. -/
def secondInputs : List TxInput :=
  [.enable 0, .trigger [1] [0x61], .handler 0 (some (List.replicate 300 7)) 0,
    .trigger [2] [0x62], .handler 0 none 0, .handler 0 none 0, .handler 0 (some [8]) 0]

theorem run_noLostTrigger_second :
    Idle (run (txStep plainConf) (Tx.build plainConf) secondInputs).1 ∧
      NoLostTrigger (run (txStep plainConf) (Tx.build plainConf) secondInputs).1 :=
  ⟨by decide +kernel, run_noLostTrigger secondInputs (by decide +kernel)⟩

/-- The first file is triggered again instead. -/
def retriggerInputs : List TxInput :=
  [.enable 0, .trigger [1] [0x61], .handler 0 (some (List.replicate 300 7)) 0,
    .trigger [1] [0x61], .handler 0 none 0]

/-- **A trigger is lost** when its file is being read: the port is idle in the end, and the file
was last opened before it was last triggered. -/
theorem trigger_lost :
    ¬ NoLostTrigger (run (txStep plainConf) (Tx.build plainConf) retriggerInputs).1 :=
  not_noLostTrigger [1] (by decide +kernel) (by decide +kernel)

end OpenDataCon.FileTransfer

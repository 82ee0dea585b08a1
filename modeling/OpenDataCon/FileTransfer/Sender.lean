import OpenDataCon.FileTransfer.Histories

/-!
# One transmission at a time

A transmission goes on through one thing that is outstanding: the callback of its
filename event, its next chunk, or what waits for a confirmation (`jobs`). A
transmission may start while another is outstanding, because `txInProgress` is false
during the wait for the confirmation of an EOF, and a stale action then makes the
port ready once more.

When a transmission starts only while nothing is outstanding (`Exclusive`), what is
outstanding either goes on with the transmission that the log ends in, or has been
cut off by a reset, after which no filename event has been published (`JobSound`).
Then every EOF ends a transmission (`txStep_sound`).
-/

set_option autoImplicit false

namespace OpenDataCon.FileTransfer

/-! ## What is outstanding -/

/-- What goes on with a transmission. -/
inductive Job where
  | sendFile (path : Path)
  | sendChunk (path : Path)
  | sendEOF (path : Path)
deriving DecidableEq, Repr

def Handler.job? : Handler → Option Job
  | .sendFile path => some (.sendFile path)
  | .sendChunk path => some (.sendChunk path)
  | .trySend _ _ => none

def Action.job? : Action → Option Job
  | .scheduleNextChunk path => some (.sendChunk path)
  | .sendEOF path => some (.sendEOF path)
  | .none => Option.none
  | .nextAction => Option.none

/-- What is outstanding on the strand. -/
def Tx.handlerJobs (tx : Tx) : List Job := tx.handlers.filterMap Handler.job?

def Tx.jobs (tx : Tx) : List Job := tx.handlerJobs ++ tx.confirmHandler.job?.toList

/-- A `TrySend` starts a transmission. -/
def Tx.Starts (tx : Tx) : Prop := tx.enabled = true ∧ tx.txInProgress = false

instance (tx : Tx) : Decidable tx.Starts := inferInstanceAs (Decidable (_ ∧ _))

/-- A transmission starts only while nothing of an earlier one is outstanding. -/
def Exclusive (tx : Tx) : TxInput → Prop
  | .trigger _ _ => tx.Starts → tx.jobs = []
  | .handler i _ _ =>
    (∃ handler ∈ tx.handlers[i]?, handler.job? = none) → tx.Starts → tx.jobs = []
  | _ => True

instance (tx : Tx) : ∀ input, Decidable (Exclusive tx input)
  | .trigger _ _ => inferInstanceAs (Decidable (_ → _))
  | .handler _ _ _ => inferInstanceAs (Decidable (_ → _))
  | .enable _ => .isTrue trivial
  | .disable _ => .isTrue trivial
  | .confirm _ _ => .isTrue trivial
  | .confirmTimeout => .isTrue trivial
  | .idleTimeout _ => .isTrue trivial

/-! ## The invariant -/

/-- No file was announced since the last reset. -/
def CutOff (conf : FileTransferConf) (log : List Entry) : Prop :=
  ∀ event ∈ history log, event.index ≠ conf.fileNameIndex

/-- What is outstanding goes on with the transmission at the end of the log. -/
def GoesOn (conf : FileTransferConf) (fin : InStream) (log : List Entry) : Job → Prop
  | .sendFile path => ∃ event, announcement path log = some event
  | .sendChunk path =>
    ∃ rest sent, fin = { rest := some rest, good := true } ∧
      sending conf path rest log = some sent
  | .sendEOF path => ∃ sent, sending conf path [] log = some sent

def JobSound (conf : FileTransferConf) (fin : InStream) (log : List Entry) (job : Job) : Prop :=
  CutOff conf log ∨ GoesOn conf fin log job

/-- The log is what it must be, and the port stands where the log ends. -/
structure LogSound (conf : FileTransferConf) (tx : Tx) : Prop where
  logged : WellLogged conf tx.log
  crc : tx.crc = chainCrc (history tx.log)
  seq : conf.sequenceIndexStart ≤ tx.seq ∧ tx.seq ≤ conf.sequenceIndexStop
  reset : tx.transferReset = true → history tx.log = []

/-- One job is outstanding at most, and it is sound. -/
structure TxSound (conf : FileTransferConf) (tx : Tx) : Prop extends LogSound conf tx where
  one : tx.jobs.length ≤ 1
  sound : ∀ job ∈ tx.jobs, JobSound conf tx.fin tx.log job

theorem cutOff_reset (conf : FileTransferConf) (before : List Entry) :
    CutOff conf (.reset :: before) :=
  fun _ member => (List.not_mem_nil member).elim

/-- A step that leaves everything as it is that the invariant looks at. -/
structure Untouched (tx later : Tx) : Prop where
  log : later.log = tx.log
  crc : later.crc = tx.crc
  seq : later.seq = tx.seq
  fin : later.fin = tx.fin
  handlerJobs : later.handlerJobs = tx.handlerJobs
  confirmHandler : later.confirmHandler = tx.confirmHandler
  reset : later.transferReset = true → tx.transferReset = true

section Functions

variable {conf : FileTransferConf} {tx later : Tx}

theorem Untouched.trans {last : Tx} (first : Untouched tx later) (second : Untouched later last) :
    Untouched tx last where
  log := second.log.trans first.log
  crc := second.crc.trans first.crc
  seq := second.seq.trans first.seq
  fin := second.fin.trans first.fin
  handlerJobs := second.handlerJobs.trans first.handlerJobs
  confirmHandler := second.confirmHandler.trans first.confirmHandler
  reset here := first.reset (second.reset here)

theorem LogSound.untouched (sound : LogSound conf tx) (untouched : Untouched tx later) :
    LogSound conf later where
  logged := untouched.log ▸ sound.logged
  crc := by rw [untouched.crc, untouched.log, sound.crc]
  seq := untouched.seq ▸ sound.seq
  reset here := by rw [untouched.log, sound.reset (untouched.reset here)]

theorem TxSound.untouched (sound : TxSound conf tx) (untouched : Untouched tx later) :
    TxSound conf later where
  toLogSound := sound.toLogSound.untouched untouched
  one := by
    rw [Tx.jobs, untouched.handlerJobs, untouched.confirmHandler]
    exact sound.one
  sound job member := by
    rw [Tx.jobs, untouched.handlerJobs, untouched.confirmHandler] at member
    rw [untouched.fin, untouched.log]
    exact sound.sound job member

/-- With nothing outstanding the log is all that matters. -/
theorem LogSound.quiet (sound : LogSound conf tx) (quiet : tx.jobs = []) : TxSound conf tx where
  toLogSound := sound
  one := by rw [quiet]; exact Nat.zero_le 1
  sound job member := by rw [quiet] at member; cases member

/-- With one job outstanding it must be sound. -/
theorem LogSound.single {job : Job} (sound : LogSound conf tx) (single : tx.jobs = [job])
    (here : JobSound conf tx.fin tx.log job) : TxSound conf tx where
  toLogSound := sound
  one := by rw [single]; exact Nat.le_refl 1
  sound other member := by
    rw [single] at member
    rw [List.mem_singleton.mp member]
    exact here

theorem untouched_postNext (tx : Tx) (pick : Nat) : Untouched tx (tx.postNext pick) := by
  rw [Tx.postNext]
  split
  · refine ⟨rfl, rfl, rfl, rfl, ?_, rfl, id⟩
    rw [Tx.handlerJobs, List.filterMap_append]
    exact List.append_nil _
  · exact ⟨rfl, rfl, rfl, rfl, rfl, rfl, id⟩

theorem untouched_nextAction (tx : Tx) (pick : Nat) : Untouched tx (tx.nextAction pick) := by
  rw [Tx.nextAction]
  split
  · exact ⟨rfl, rfl, rfl, rfl, rfl, rfl, id⟩
  · split
    · refine Untouched.trans ?_ (untouched_postNext _ pick)
      exact ⟨rfl, rfl, rfl, rfl, rfl, rfl, fun here => by cases here⟩
    · exact untouched_postNext tx pick

variable (valid : conf.Valid) (crcs : conf.useCRCs = true)

include valid in
theorem nextSequence_range {seq : Nat} (range : conf.sequenceIndexStart ≤ seq) :
    conf.sequenceIndexStart ≤ nextSequence conf seq ∧
      nextSequence conf seq ≤ conf.sequenceIndexStop := by
  rw [nextSequence]
  split
  · exact ⟨Nat.le_refl _, valid.range⟩
  · exact ⟨Nat.le_succ_of_le range, by omega⟩

include valid in
/-- A sequence number is not the filename index. -/
theorem LogSound.seq_ne (sound : LogSound conf tx) : tx.seq ≠ conf.fileNameIndex :=
  fun same => valid.filename (same ▸ sound.seq)

/-- Publishing an event extends the history and its CRC. -/
theorem LogSound.publish {event : Event} (sound : LogSound conf tx) (entry : Entry)
    (logged : Logged conf entry tx.log) (goes_on : entry ≠ .reset)
    (publishes : entry.event? = some event) (log : later.log = entry :: tx.log)
    (crc : later.crc = crcCcitt event.payload tx.crc) (live : later.transferReset = false)
    (seq : conf.sequenceIndexStart ≤ later.seq ∧ later.seq ≤ conf.sequenceIndexStop) :
    LogSound conf later where
  logged := by
    rw [log]
    exact ⟨logged, sound.logged⟩
  crc := by
    rw [log, history_cons _ goes_on, publishes, Option.toList_some, chainCrc_append, ← sound.crc]
    exact crc
  seq := seq
  reset here := absurd (live.symm.trans here) (by decide)

include valid crcs in
/-- **An EOF is published for a job that was sound.** -/
theorem LogSound.endFile {path : Path} (sound : LogSound conf tx)
    (job : JobSound conf tx.fin tx.log (.sendEOF path)) (live : tx.transferReset = false) :
    LogSound conf (tx.endFile conf path) := by
  have eof := valid.crcs crcs
  have event : eofEvent conf tx.seq tx.crc = { index := tx.seq, payload := crcBytes tx.crc } := by
    rw [eofEvent, eof]
    simp only [crcs, if_true]
  have crc : eofCrc conf tx.crc = crcCcitt (crcBytes tx.crc) tx.crc := by
    rw [eofCrc, if_pos ⟨eof, crcs⟩]
  have read : readCrc (crcBytes tx.crc) = tx.crc := readCrc_crcBytes tx.crc []
  refine sound.publish (.ended path (eofEvent conf tx.seq tx.crc)) ?_ (by simp) rfl rfl ?_ live
    (nextSequence_range valid sound.seq.1)
  · rw [event]
    refine ⟨sound.seq_ne valid, read.trans sound.crc, ?_, job⟩
    simp [FileTransferConf.crcSize, crcs]
  · rw [event]
    exact crc

include valid crcs in
theorem LogSound.sendEOF {path : Path} (sound : LogSound conf tx)
    (job : JobSound conf tx.fin tx.log (.sendEOF path)) (pick : Nat) :
    LogSound conf (tx.sendEOF conf path pick) := by
  rw [Tx.sendEOF]
  split
  · exact sound.untouched (untouched_nextAction tx pick)
  · next live =>
    have ended : LogSound conf (tx.endFile conf path) :=
      sound.endFile valid crcs job (by simpa using live)
    dsimp only
    split
    · exact ⟨ended.logged, ended.crc, ended.seq, ended.reset⟩
    · exact ended.untouched (untouched_nextAction _ pick)

variable (conf) in
/-- The end of a file leaves nothing of it outstanding. -/
theorem sendEOF_jobs (tx : Tx) (path : Path) (pick : Nat) :
    (tx.sendEOF conf path pick).handlerJobs = tx.handlerJobs ∧
      ((tx.sendEOF conf path pick).confirmHandler = tx.confirmHandler ∨
        (tx.sendEOF conf path pick).confirmHandler = .nextAction) := by
  rw [Tx.sendEOF]
  split
  · have same := untouched_nextAction tx pick
    exact ⟨same.handlerJobs, .inl same.confirmHandler⟩
  · dsimp only
    split
    · exact ⟨rfl, .inr rfl⟩
    · have same := untouched_nextAction (tx.endFile conf path) pick
      exact ⟨same.handlerJobs, .inl same.confirmHandler⟩

include valid crcs in
theorem LogSound.sendEOF_quiet {path : Path} (sound : LogSound conf tx)
    (job : JobSound conf tx.fin tx.log (.sendEOF path)) (quiet : tx.jobs = []) (pick : Nat) :
    TxSound conf (tx.sendEOF conf path pick) := by
  obtain ⟨none, stored⟩ := List.append_eq_nil_iff.mp quiet
  obtain ⟨handlers, confirm⟩ := sendEOF_jobs conf tx path pick
  refine (sound.sendEOF valid crcs job pick).quiet ?_
  rw [Tx.jobs, handlers, none]
  rcases confirm with same | next
  · rw [same, stored]
    rfl
  · rw [next]
    rfl

include valid crcs in
/-- **A chunk is published for a job that was sound**, and what is left of the file is still
to come. -/
theorem LogSound.publishChunk {path : Path} {data : Bytes} (sound : LogSound conf tx)
    (live : tx.transferReset = false) (some_data : data ≠ []) :
    LogSound conf (tx.publishChunk conf path data) := by
  have payload : payloadOf conf tx.crc data = crcBytes tx.crc ++ data := by
    rw [payloadOf, if_pos crcs]
  refine sound.publish (.chunk path { index := tx.seq, payload := payloadOf conf tx.crc data })
    ?_ (by simp) rfl rfl ?_ live (nextSequence_range valid sound.seq.1)
  · refine ⟨sound.seq_ne valid, ?_, ?_⟩
    · rw [payload, readCrc_crcBytes, sound.crc]
    · rw [payload, List.length_append, length_crcBytes, FileTransferConf.crcSize, if_pos crcs]
      exact Nat.lt_add_of_pos_right (List.length_pos_iff.mpr some_data)
  · change crcAfter conf tx.crc _ = _
    rw [crcAfter, if_pos crcs]

include crcs in
theorem dataOf_payload (crc : BitVec 16) (index : Nat) (data : Bytes) :
    dataOf conf { index, payload := payloadOf conf crc data } = data := by
  rw [dataOf, payloadOf, if_pos crcs, FileTransferConf.crcSize, if_pos crcs]
  rfl

include valid in
/-- A transmission that was cut off stays so until a file is announced. -/
theorem LogSound.cutOff_chunk {path : Path} {data : Bytes} (sound : LogSound conf tx)
    (cut : CutOff conf tx.log) : CutOff conf (tx.publishChunk conf path data).log := by
  intro event member
  rcases List.mem_append.mp member with old | new
  · exact cut event old
  · rw [List.mem_singleton.mp new]
    exact sound.seq_ne valid

include crcs in
/-- A chunk of a file that is being sent leaves the rest of the file to come. -/
theorem sending_chunk {path : Path} {data rest : Bytes} {sent : Event × Bytes}
    (under_way : sending conf path (data ++ rest) tx.log = some sent) :
    sending conf path rest (tx.publishChunk conf path data).log = some sent := by
  change sending conf path rest (.chunk path _ :: tx.log) = some sent
  rw [sending, if_pos rfl, dataOf_payload crcs]
  exact under_way

include valid crcs in
theorem LogSound.runAction {job : Job} (sound : LogSound conf tx) (action : Action)
    (quiet : tx.jobs = []) (here : action.job? = some job) (good : JobSound conf tx.fin tx.log job)
    (pick : Nat) : TxSound conf (tx.runAction conf action pick) := by
  cases action with
  | none => cases here
  | nextAction => cases here
  | scheduleNextChunk path =>
      cases here
      obtain ⟨none, stored⟩ := List.append_eq_nil_iff.mp quiet
      rw [Tx.runAction]
      split
      · have single : Tx.jobs { tx with handlers := tx.handlers ++ [.sendChunk path] } =
            [.sendChunk path] := by
          rw [Tx.jobs, stored, Tx.handlerJobs, List.filterMap_append]
          change tx.handlerJobs ++ _ ++ _ = _
          rw [none]
          rfl
        refine LogSound.single ?_ single good
        exact ⟨sound.logged, sound.crc, sound.seq, sound.reset⟩
      · exact sound.quiet quiet
  | sendEOF path =>
      cases here
      rw [Tx.runAction]
      split
      · exact sound.sendEOF_quiet valid crcs good quiet pick
      · exact sound.quiet quiet

include valid crcs in
theorem LogSound.continue {action : Action} {job : Job} (sound : LogSound conf tx)
    (quiet : tx.jobs = []) (here : action.job? = some job) (good : JobSound conf tx.fin tx.log job)
    (pick : Nat) : TxSound conf (tx.continue conf action pick) := by
  rw [Tx.continue]
  split
  · have single : Tx.jobs { tx with confirmHandler := action } = [job] := by
      obtain ⟨none, stored⟩ := List.append_eq_nil_iff.mp quiet
      change tx.handlerJobs ++ action.job?.toList = _
      rw [none, here]
      rfl
    refine LogSound.single ?_ single good
    exact ⟨sound.logged, sound.crc, sound.seq, sound.reset⟩
  · exact sound.runAction valid crcs action quiet here good pick

include crcs in
theorem chunkSize_pos : 0 < 255 - conf.crcSize := by
  rw [FileTransferConf.crcSize, if_pos crcs]
  decide

/-- After the last chunk of an open file nothing is left to come. -/
theorem drop_of_bad {rest : Bytes} {size : Nat}
    (bad : ¬ (InStream.read { rest := some rest, good := true } size).good = true) :
    rest.drop size = [] := by
  rw [List.drop_eq_nil_iff]
  simp only [InStream.read, true_and, Option.getD_some, decide_eq_true_eq] at bad
  omega

include valid crcs in
/-- **The next chunk of a file** goes on with its transmission, or ends it. -/
theorem LogSound.sendChunk {path : Path} (sound : LogSound conf tx) (quiet : tx.jobs = [])
    (good : JobSound conf tx.fin tx.log (.sendChunk path)) (pick : Nat) :
    TxSound conf (tx.sendChunk conf path pick) := by
  have ending : ∀ fin, JobSound conf fin tx.log (.sendEOF path) →
      TxSound conf (Tx.sendEOF conf { tx with fin := fin } path pick) := by
    intro fin job
    have framed : LogSound conf { tx with fin := fin } :=
      ⟨sound.logged, sound.crc, sound.seq, sound.reset⟩
    exact framed.sendEOF_quiet valid crcs job quiet pick
  rw [Tx.sendChunk]
  split
  · next reset =>
    apply ending
    left
    intro event member
    rw [sound.reset reset] at member
    cases member
  · next live =>
    dsimp only
    split
    · next no_data =>
      apply ending
      rcases good with cut | ⟨rest, sent, fin, under_way⟩
      · exact .inl cut
      · rw [fin] at no_data
        have empty : rest = [] := by
          rcases List.take_eq_nil_iff.mp no_data with zero | empty
          · exact absurd zero (Nat.ne_of_gt (chunkSize_pos crcs))
          · exact empty
        rw [empty] at under_way
        exact .inr ⟨sent, under_way⟩
    · next some_data =>
      have published : ∀ fin, LogSound conf (Tx.publishChunk conf { tx with fin := fin } path
          (tx.fin.data (255 - conf.crcSize))) := by
        intro fin
        have framed : LogSound conf { tx with fin := fin } :=
          ⟨sound.logged, sound.crc, sound.seq, sound.reset⟩
        exact framed.publishChunk valid crcs (by simpa using live) some_data
      split
      · next more =>
        refine (published _).continue valid crcs quiet rfl ?_ pick
        rcases good with cut | ⟨rest, sent, fin, under_way⟩
        · exact .inl (sound.cutOff_chunk valid cut)
        · rw [fin] at more ⊢
          refine .inr ⟨rest.drop (255 - conf.crcSize), sent, ?_, sending_chunk crcs ?_⟩
          · exact congrArg (InStream.mk (some _)) more
          · exact (List.take_append_drop (255 - conf.crcSize) rest).symm ▸ under_way
      · next last =>
        have closed : ∀ fin, LogSound conf { Tx.publishChunk conf tx path
            (tx.fin.data (255 - conf.crcSize)) with fin := fin } := published
        refine (closed _).continue valid crcs quiet rfl ?_ pick
        · rcases good with cut | ⟨rest, sent, fin, under_way⟩
          · exact .inl (sound.cutOff_chunk valid cut)
          · rw [fin] at last ⊢
            refine .inr ⟨sent, sending_chunk crcs ?_⟩
            rw [← drop_of_bad last]
            exact (List.take_append_drop (255 - conf.crcSize) rest).symm ▸ under_way

include crcs in
/-- **A file is announced while nothing is outstanding.** -/
theorem LogSound.announce {path : Path} {txName : Bytes} (sound : LogSound conf tx)
    (quiet : tx.jobs = []) : TxSound conf (tx.announce conf path txName) := by
  have payload : payloadOf conf tx.crc (announcedName txName) =
      crcBytes tx.crc ++ announcedName txName := by
    rw [payloadOf, if_pos crcs]
  obtain ⟨none, stored⟩ := List.append_eq_nil_iff.mp quiet
  have single : (tx.announce conf path txName).jobs = [.sendFile path] := by
    change (tx.handlers ++ [Handler.sendFile path]).filterMap _ ++ tx.confirmHandler.job?.toList = _
    rw [stored, List.filterMap_append]
    change tx.handlerJobs ++ _ ++ _ = _
    rw [none]
    rfl
  refine LogSound.single ?_ single (.inr ⟨_, if_pos rfl⟩)
  refine sound.publish (.announced path _) ⟨rfl, ?_⟩ (by simp) rfl rfl ?_ rfl sound.seq
  · rw [payload, readCrc_crcBytes, sound.crc]
  · change crcAfter conf tx.crc _ = _
    rw [crcAfter, if_pos crcs]

include crcs in
theorem TxSound.trySend {path : Path} {txName : Bytes} (sound : TxSound conf tx)
    (exclusive : tx.Starts → tx.jobs = []) : TxSound conf (tx.trySend conf path txName) := by
  rw [Tx.trySend]
  split
  · exact sound
  · next on =>
    dsimp only
    split
    · exact sound.untouched ⟨rfl, rfl, rfl, rfl, rfl, rfl, id⟩
    · next off =>
      refine LogSound.announce crcs ?_ (exclusive ⟨by simpa using on, by simpa using off⟩)
      exact ⟨sound.logged, sound.crc, sound.seq, sound.reset⟩

/-- An entry that publishes nothing does not matter to the log. -/
theorem LogSound.silent (sound : LogSound conf tx) (fin : InStream) (entry : Entry)
    (goes_on : entry ≠ .reset) (silent : entry.event? = none) :
    LogSound conf { tx with fin := fin, log := entry :: tx.log } where
  logged := by
    refine ⟨?_, sound.logged⟩
    cases entry with
    | announced path event => cases silent
    | chunk path event => cases silent
    | ended path event => cases silent
    | _ => trivial
  crc := by
    change tx.crc = chainCrc (history (entry :: tx.log))
    rw [history_silent _ goes_on silent, sound.crc]
  seq := sound.seq
  reset here := (history_silent _ goes_on silent).trans (sound.reset here)

theorem JobSound.skip {fin : InStream} {log : List Entry} {job : Job} {entry : Entry}
    (sound : JobSound conf fin log job) (skipped : (∃ path, entry = .triggered path) ∨
      ∃ event, entry = .resent event) : JobSound conf fin (entry :: log) job := by
  have silent : history (entry :: log) = history log := by
    rcases skipped with ⟨path, rfl⟩ | ⟨event, rfl⟩
    · exact history_silent _ (by simp) rfl
    · exact history_silent _ (by simp) rfl
  rcases sound with cut | goes_on
  · left
    rw [CutOff, silent]
    exact cut
  · right
    rcases skipped with ⟨path, rfl⟩ | ⟨event, rfl⟩
    · cases job <;> exact goes_on
    · cases job <;> exact goes_on

include crcs in
theorem TxSound.trigger {path : Path} {txName : Bytes} (sound : TxSound conf tx)
    (exclusive : tx.Starts → tx.jobs = []) : TxSound conf (tx.trigger conf path txName) := by
  rw [Tx.trigger]
  split
  · refine TxSound.trySend crcs ?_ exclusive
    exact { toLogSound := sound.silent tx.fin (.triggered path) (by simp) rfl
            one := sound.one
            sound := fun job member => (sound.sound job member).skip (.inl ⟨path, rfl⟩) }
  · exact sound

/-- An opening that succeeds has the whole file still to come. -/
theorem open_good {fin : InStream} {content : Option Bytes}
    (opens : (fin.open content).good = true) :
    ∃ bytes, fin.open content = { rest := some bytes, good := true } := by
  obtain ⟨rest, good⟩ := fin
  cases rest with
  | some rest => cases opens
  | none =>
      cases content with
      | none => cases opens
      | some bytes => exact ⟨bytes, rfl⟩

include valid crcs in
/-- **The callback of the filename event** opens the file and sends its first chunk. -/
theorem LogSound.sendFile {path : Path} {content : Option Bytes} (sound : LogSound conf tx)
    (quiet : tx.jobs = []) (good : JobSound conf tx.fin tx.log (.sendFile path)) (pick : Nat) :
    TxSound conf (tx.sendFile conf path content pick) := by
  rw [Tx.sendFile]
  split
  · exact sound.quiet quiet
  · dsimp only
    split
    · next opens =>
      have started := sound.silent (tx.fin.open content)
        (.opened path ((tx.fin.open content).rest.getD [])) (by simp) rfl
      refine started.sendChunk valid crcs quiet ?_ pick
      rcases good with cut | ⟨event, announced⟩
      · left
        rw [CutOff, history_silent _ (by simp) rfl]
        exact cut
      · obtain ⟨bytes, fin⟩ := open_good opens
        right
        refine ⟨bytes, (event, bytes), fin, ?_⟩
        change sending conf path bytes (.opened path _ :: tx.log) = _
        rw [fin, sending, if_pos ⟨rfl, rfl⟩, announced]
        rfl
    · have failed : LogSound conf { tx with
          fin := tx.fin.open content
          txInProgress := false
          txFilenameQ := tx.txFilenameQ.erase path } :=
        ⟨sound.logged, sound.crc, sound.seq, sound.reset⟩
      exact (failed.quiet quiet).untouched (untouched_postNext _ pick)

/-! ## Resets and confirmations -/

include valid in
/-- **A reset cuts everything off that is outstanding.** -/
theorem TxSound.clear (sound : TxSound conf tx) (fin : InStream) :
    TxSound conf { tx.clear conf with fin := fin } where
  logged := ⟨trivial, sound.logged⟩
  crc := rfl
  seq := ⟨Nat.le_refl _, valid.range⟩
  reset _ := rfl
  one := sound.one
  sound _ _ := .inl (cutOff_reset conf tx.log)

/-- Nothing waits for a confirmation any more. -/
theorem TxSound.dropHandler (sound : TxSound conf tx) :
    TxSound conf { tx with confirmHandler := .none } where
  toLogSound := ⟨sound.logged, sound.crc, sound.seq, sound.reset⟩
  one := by
    have one := sound.one
    rw [Tx.jobs, List.length_append] at one ⊢
    exact Nat.le_trans (Nat.add_le_add_left (Nat.zero_le _) _) one
  sound job member := by
    apply sound.sound job
    rcases List.mem_append.mp member with handler | stored
    · exact List.mem_append_left _ handler
    · cases stored

/-- What waits for a confirmation is all that is outstanding. -/
theorem TxSound.alone {job : Job} (sound : TxSound conf tx)
    (stored : tx.confirmHandler.job? = some job) :
    tx.handlerJobs = [] ∧ JobSound conf tx.fin tx.log job := by
  have one := sound.one
  have good := sound.sound job
  rw [Tx.jobs, stored] at one good
  rw [List.length_append] at one
  refine ⟨List.eq_nil_of_length_eq_zero (Nat.le_zero.mp (Nat.le_of_succ_le_succ one)), ?_⟩
  exact good (List.mem_append_right _ List.mem_cons_self)

include valid crcs in
/-- **What waits for a confirmation is done**, and nothing waits after it. -/
theorem TxSound.runConfirmHandler (sound : TxSound conf tx) (pick : Nat) :
    TxSound conf { tx.runAction conf tx.confirmHandler pick with confirmHandler := .none } := by
  have dropped := sound.dropHandler
  cases stored : tx.confirmHandler with
  | none => exact dropped
  | nextAction => exact (sound.untouched (untouched_nextAction tx pick)).dropHandler
  | scheduleNextChunk path =>
      obtain ⟨none, good⟩ := sound.alone (congrArg Action.job? stored)
      have quiet : Tx.jobs { tx with confirmHandler := .none } = [] :=
        List.append_eq_nil_iff.mpr ⟨none, rfl⟩
      have ran := dropped.runAction valid crcs (.scheduleNextChunk path) quiet rfl good pick
      rw [Tx.runAction] at ran ⊢
      by_cases on : tx.enabled = true
      · rw [if_pos on] at ran ⊢
        exact ran
      · rw [if_neg on] at ran ⊢
        exact ran
  | sendEOF path =>
      obtain ⟨none, good⟩ := sound.alone (congrArg Action.job? stored)
      rw [Tx.runAction]
      split
      · have ended := sound.sendEOF valid crcs good pick
        have log : LogSound conf { tx.sendEOF conf path pick with confirmHandler := .none } :=
          ⟨ended.logged, ended.crc, ended.seq, ended.reset⟩
        refine log.quiet (List.append_eq_nil_iff.mpr ⟨?_, rfl⟩)
        exact (sendEOF_jobs conf tx path pick).1.trans none
      · exact dropped

include valid crcs in
theorem TxSound.resetTransfer (sound : TxSound conf tx) (pick : Nat) :
    TxSound conf (tx.resetTransfer conf pick) := by
  rw [Tx.resetTransfer]
  split
  · exact sound
  · dsimp only
    split
    · exact (sound.clear valid (tx.clear conf).fin.close).runConfirmHandler valid crcs pick
    · exact sound.clear valid tx.fin

theorem TxSound.resend (sound : TxSound conf tx) : TxSound conf tx.resend := by
  have skipped : ∀ events : List Event,
      TxSound conf { tx with log := events.map Entry.resent ++ tx.log } := by
    intro events
    induction events with
    | nil => exact sound
    | cons event rest ih =>
        exact { toLogSound := ih.silent tx.fin (.resent event) (by simp) rfl
                one := sound.one
                sound := fun job member => (ih.sound job member).skip (.inr ⟨event, rfl⟩) }
  exact skipped _

include valid crcs in
theorem TxSound.processConfirm (sound : TxSound conf tx) (crob : ControlRelayOutputBlock)
    (pick : Nat) : TxSound conf (tx.processConfirm conf crob pick) := by
  have buffered : ∀ buffer unconfirmed, TxSound conf { tx with
      txEventBuffer := buffer, txUncofirmedTransfers := unconfirmed } :=
    fun _ _ => sound.untouched ⟨rfl, rfl, rfl, rfl, rfl, rfl, id⟩
  rw [Tx.processConfirm]
  split
  · split
    · rw [Tx.unsolConfirm]
      split
      · exact buffered _ _
      · split
        · exact buffered _ _
        · exact sound
    · exact (buffered [] []).runConfirmHandler valid crcs pick
  · rw [Tx.negativeConfirm]
    split
    · exact (buffered _ _).resend
    · exact (sound.resetTransfer valid crcs pick).resend
  · exact sound

include valid crcs in
theorem TxSound.confirmEvent (sound : TxSound conf tx) (crob : ControlRelayOutputBlock)
    (pick : Nat) : TxSound conf (tx.confirmEvent conf crob pick) := by
  have processed := sound.processConfirm valid crcs crob pick
  rw [Tx.confirmEvent]
  split
  · exact processed
  · exact processed.untouched (untouched_postNext _ pick)

end Functions

/-! ## The log only grows -/

section Log

variable (conf : FileTransferConf) {tx : Tx} {log : List Entry} (grown : log <:+ tx.log)

include grown

theorem log_postNext (pick : Nat) : log <:+ (tx.postNext pick).log := by
  rw [(untouched_postNext tx pick).log]
  exact grown

theorem log_nextAction (pick : Nat) : log <:+ (tx.nextAction pick).log := by
  rw [(untouched_nextAction tx pick).log]
  exact grown

theorem log_sendEOF (path : Path) (pick : Nat) : log <:+ (tx.sendEOF conf path pick).log := by
  have ended : log <:+ (tx.endFile conf path).log := grown.trans (List.suffix_cons _ _)
  rw [Tx.sendEOF]
  split
  · exact log_nextAction grown pick
  · dsimp only
    split
    · exact ended
    · exact log_nextAction ended pick

theorem log_runAction (action : Action) (pick : Nat) :
    log <:+ (tx.runAction conf action pick).log := by
  cases action with
  | none => exact grown
  | nextAction => exact log_nextAction grown pick
  | scheduleNextChunk path =>
      rw [Tx.runAction]
      split <;> exact grown
  | sendEOF path =>
      rw [Tx.runAction]
      split
      · exact log_sendEOF conf grown path pick
      · exact grown

theorem log_continue (action : Action) (pick : Nat) :
    log <:+ (tx.continue conf action pick).log := by
  rw [Tx.continue]
  split
  · exact grown
  · exact log_runAction conf grown action pick

theorem log_sendChunk (path : Path) (pick : Nat) :
    log <:+ (tx.sendChunk conf path pick).log := by
  rw [Tx.sendChunk]
  split
  · exact log_sendEOF conf (by exact grown) path pick
  · dsimp only
    split
    · exact log_sendEOF conf (by exact grown) path pick
    · split
      · exact log_continue conf (by exact grown.trans (List.suffix_cons _ _)) _ pick
      · exact log_continue conf (by exact grown.trans (List.suffix_cons _ _)) _ pick

theorem log_trySend (path : Path) (txName : Bytes) :
    log <:+ (tx.trySend conf path txName).log := by
  rw [Tx.trySend]
  split
  · exact grown
  · dsimp only
    split
    · exact grown
    · exact grown.trans (List.suffix_cons _ _)

theorem log_sendFile (path : Path) (content : Option Bytes) (pick : Nat) :
    log <:+ (tx.sendFile conf path content pick).log := by
  rw [Tx.sendFile]
  split
  · exact grown
  · dsimp only
    split
    · exact log_sendChunk conf (by exact grown.trans (List.suffix_cons _ _)) path pick
    · exact log_postNext (by exact grown) pick

theorem log_resetTransfer (pick : Nat) : log <:+ (tx.resetTransfer conf pick).log := by
  have cleared : log <:+ (tx.clear conf).log := grown.trans (List.suffix_cons _ _)
  rw [Tx.resetTransfer]
  split
  · exact grown
  · dsimp only
    split
    · exact log_runAction conf (by exact cleared) _ pick
    · exact cleared

theorem log_processConfirm (crob : ControlRelayOutputBlock) (pick : Nat) :
    log <:+ (tx.processConfirm conf crob pick).log := by
  rw [Tx.processConfirm]
  split
  · split
    · rw [Tx.unsolConfirm]
      split
      · exact grown
      · split <;> exact grown
    · exact log_runAction conf (by exact grown) _ pick
  · rw [Tx.negativeConfirm]
    split
    · exact grown.trans (List.suffix_append _ _)
    · exact (log_resetTransfer conf grown pick).trans (List.suffix_append _ _)
  · exact grown

theorem log_runHandler (content : Option Bytes) (pick : Nat) (handler : Handler) :
    log <:+ (tx.runHandler conf content pick handler).log := by
  cases handler with
  | sendFile path => exact log_sendFile conf grown path content pick
  | sendChunk path =>
      rw [Tx.runHandler]
      split
      · exact log_sendChunk conf grown path pick
      · exact grown
  | trySend path txName => exact log_trySend conf grown path txName

omit grown in
/-- **The log only grows.** -/
theorem log_txStep (tx : Tx) (input : TxInput) : tx.log <:+ (txStep conf tx input).1.log := by
  cases input with
  | enable pick => exact log_postNext (by exact List.suffix_rfl) pick
  | disable pick => exact log_resetTransfer conf List.suffix_rfl pick
  | trigger path txName =>
      rw [txStep, Tx.trigger]
      split
      · exact log_trySend conf (by exact List.suffix_cons _ _) path txName
      · exact List.suffix_rfl
  | handler i content pick =>
      rw [txStep]
      split
      · exact log_runHandler conf (by exact List.suffix_rfl) content pick _
      · exact List.suffix_rfl
  | confirm crob pick =>
      rw [txStep]
      split
      · rw [Tx.confirmEvent]
        split
        · exact log_processConfirm conf List.suffix_rfl crob pick
        · exact log_postNext (log_processConfirm conf List.suffix_rfl crob pick) pick
      · exact List.suffix_rfl
  | confirmTimeout =>
      rw [txStep]
      split
      · exact List.suffix_append _ _
      · exact List.suffix_rfl
  | idleTimeout pick => exact log_resetTransfer conf List.suffix_rfl pick

end Log

/-! ## Steps -/

section Steps

variable {conf : FileTransferConf} (valid : conf.Valid) (crcs : conf.useCRCs = true)

/-- What is outstanding before and after a handler is taken off the strand. -/
theorem handlerJobs_eraseIdx {tx : Tx} {i : Nat} {handler : Handler}
    (here : tx.handlers[i]? = some handler) :
    ∃ before after, tx.handlerJobs = before ++ (handler.job?.toList ++ after) ∧
      Tx.handlerJobs { tx with handlers := tx.handlers.eraseIdx i } = before ++ after := by
  obtain ⟨bound, same⟩ := List.getElem?_eq_some_iff.mp here
  refine ⟨(tx.handlers.take i).filterMap Handler.job?,
    (tx.handlers.drop (i + 1)).filterMap Handler.job?, ?_, ?_⟩
  · have split : tx.handlers = tx.handlers.take i ++ (handler :: tx.handlers.drop (i + 1)) := by
      rw [← same, ← List.drop_eq_getElem_cons bound, List.take_append_drop]
    rw [Tx.handlerJobs]
    conv_lhs => rw [split]
    rw [List.filterMap_append]
    cases handler <;> rfl
  · change (tx.handlers.eraseIdx i).filterMap Handler.job? = _
    rw [List.eraseIdx_eq_take_drop_succ, List.filterMap_append]

/-- A handler that goes on with a file leaves nothing outstanding when it is taken off. -/
theorem TxSound.take_job {tx : Tx} {i : Nat} {handler : Handler} {job : Job}
    (sound : TxSound conf tx) (here : tx.handlers[i]? = some handler)
    (goes_on : handler.job? = some job) :
    Tx.jobs { tx with handlers := tx.handlers.eraseIdx i } = [] ∧
      JobSound conf tx.fin tx.log job := by
  obtain ⟨before, after, jobs, rest⟩ := handlerJobs_eraseIdx here
  have one := sound.one
  rw [goes_on, Option.toList_some] at jobs
  rw [Tx.jobs, jobs] at one
  simp only [List.length_append, List.length_singleton] at one
  refine ⟨?_, sound.sound job ?_⟩
  · apply List.eq_nil_of_length_eq_zero
    change (Tx.handlerJobs { tx with handlers := tx.handlers.eraseIdx i } ++
      tx.confirmHandler.job?.toList).length = 0
    rw [rest]
    simp only [List.length_append]
    omega
  · rw [Tx.jobs, jobs]
    simp

/-- A handler that goes on with no file does not matter to what is outstanding. -/
theorem TxSound.take_other {tx : Tx} {i : Nat} {handler : Handler} (sound : TxSound conf tx)
    (here : tx.handlers[i]? = some handler) (other : handler.job? = none) :
    TxSound conf { tx with handlers := tx.handlers.eraseIdx i } := by
  obtain ⟨before, after, jobs, rest⟩ := handlerJobs_eraseIdx here
  rw [other] at jobs
  exact sound.untouched ⟨rfl, rfl, rfl, rfl, rest.trans jobs.symm, rfl, id⟩

include valid crcs in
theorem TxSound.runHandler {tx : Tx} {i : Nat} {handler : Handler} (sound : TxSound conf tx)
    (here : tx.handlers[i]? = some handler)
    (exclusive : handler.job? = none → tx.Starts → tx.jobs = []) (content : Option Bytes)
    (pick : Nat) :
    TxSound conf (Tx.runHandler conf { tx with handlers := tx.handlers.eraseIdx i } content pick
      handler) := by
  have log : LogSound conf { tx with handlers := tx.handlers.eraseIdx i } :=
    ⟨sound.logged, sound.crc, sound.seq, sound.reset⟩
  cases handler with
  | sendFile path =>
      obtain ⟨quiet, good⟩ := sound.take_job here rfl
      exact log.sendFile valid crcs quiet good pick
  | sendChunk path =>
      obtain ⟨quiet, good⟩ := sound.take_job here rfl
      rw [Tx.runHandler]
      split
      · exact log.sendChunk valid crcs quiet good pick
      · exact log.quiet quiet
  | trySend path txName =>
      refine (sound.take_other here rfl).trySend crcs ?_
      intro starts
      obtain ⟨before, after, jobs, rest⟩ := handlerJobs_eraseIdx here
      have quiet := exclusive rfl starts
      rw [Tx.jobs] at quiet ⊢
      rwa [rest, ← show tx.handlerJobs = before ++ after from jobs]

include valid crcs in
/-- **What is outstanding stays sound** while transmissions exclude each other. -/
theorem txStep_sound (tx : Tx) (input : TxInput) (sound : TxSound conf tx)
    (exclusive : Exclusive tx input) : TxSound conf (txStep conf tx input).1 := by
  cases input with
  | enable pick =>
      refine TxSound.untouched ?_ (untouched_postNext _ pick)
      exact sound.untouched ⟨rfl, rfl, rfl, rfl, rfl, rfl, fun here => by cases here⟩
  | disable pick =>
      have reset := sound.resetTransfer valid crcs pick
      exact reset.untouched ⟨rfl, rfl, rfl, rfl, rfl, rfl, id⟩
  | trigger path txName => exact sound.trigger crcs exclusive
  | handler i content pick =>
      rw [txStep]
      cases here : tx.handlers[i]? with
      | none => exact sound
      | some handler =>
          refine sound.runHandler valid crcs here ?_ content pick
          intro no_job starts
          exact exclusive ⟨handler, here, no_job⟩ starts
  | confirm crob pick =>
      rw [txStep]
      split
      · exact sound.confirmEvent valid crcs crob pick
      · exact sound
  | confirmTimeout =>
      rw [txStep]
      split
      · exact sound.resend
      · exact sound
  | idleTimeout pick => exact sound.resetTransfer valid crcs pick

include valid in
theorem build_sound : TxSound conf (Tx.build conf) where
  logged := trivial
  crc := rfl
  seq := ⟨Nat.le_refl _, valid.range⟩
  reset _ := rfl
  one := Nat.zero_le 1
  sound job member := by cases member

end Steps

end OpenDataCon.FileTransfer

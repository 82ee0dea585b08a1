import OpenDataCon.FileTransfer.Sender
import OpenDataCon.FileTransfer.Rx

/-!
# Two file transfer ports and the channels between them

Any event that the sending port has published may reach the receiving port at any
time, any number of times and in any order, or never; the same holds of the
confirmations the other way.

With CRCs the receiving port follows one history of the sending port (`Follows`):
its CRC is the CRC of that history, and while a file is received, the data of the
events since the last filename event is what it has written. This holds because an
event is used only when its CRC is the CRC of the history (`Published.extends`).
-/

set_option autoImplicit false

namespace OpenDataCon.FileTransfer

/-! ## The network -/

structure Net where
  tx : Tx
  rx : Rx
deriving DecidableEq, Repr

/-- What can happen. -/
inductive NetInput where
  /-- An input of the sending port other than a confirmation. -/
  | tx (input : TxInput)
  /-- A published event reaches the receiving port. -/
  | deliver (i : Nat) (blocked : List Bytes)
  | rxEnable
  | rxDisable
  | transferTimeout
  | rxIdleTimeout
  /-- A confirmation reaches the sending port. -/
  | confirm (i : Nat) (pick : Nat)
deriving DecidableEq, Repr

/-- A confirmation, with the sequence number and CRC the receiving port had reached. -/
structure Confirmation where
  crob : ControlRelayOutputBlock
  seq : Nat
  crc : BitVec 16
deriving DecidableEq, Repr

/-- The confirmations that were sent, oldest first. -/
def confirmations : List RxEntry → List Confirmation
  | [] => []
  | .confirmed crob seq crc :: before => confirmations before ++ [{ crob, seq, crc }]
  | .opened _ :: before => confirmations before
  | .blocked _ :: before => confirmations before
  | .closed _ _ :: before => confirmations before
  | .aborted _ :: before => confirmations before

section Code

variable (conf : FileTransferConf)

def Net.build : Net := { tx := Tx.build conf, rx := Rx.build conf }

def netStep (net : Net) : NetInput → Net × List Unit
  | .tx (.confirm _ _) => (net, [])
  | .tx input => ({ net with tx := (txStep conf net.tx input).1 }, [])
  | .deliver i blocked =>
    match (published net.tx.log)[i]? with
    | some event => ({ net with rx := rxStep conf net.rx (.event event blocked) }, [])
    | none => (net, [])
  | .rxEnable => ({ net with rx := rxStep conf net.rx .enable }, [])
  | .rxDisable => ({ net with rx := rxStep conf net.rx .disable }, [])
  | .transferTimeout => ({ net with rx := rxStep conf net.rx .transferTimeout }, [])
  | .rxIdleTimeout => ({ net with rx := rxStep conf net.rx .idleTimeout }, [])
  | .confirm i pick =>
    match (confirmations net.rx.log)[i]? with
    | some confirmation =>
      ({ net with tx := (txStep conf net.tx (.confirm confirmation.crob pick)).1 }, [])
    | none => (net, [])

end Code

/-- The sending port starts a transmission only while nothing of an earlier one is
outstanding. -/
def NetExclusive (net : Net) : NetInput → Prop
  | .tx input => Exclusive net.tx input
  | _ => True

instance (net : Net) : ∀ input, Decidable (NetExclusive net input)
  | .tx input => inferInstanceAs (Decidable (Exclusive net.tx input))
  | .deliver _ _ => .isTrue trivial
  | .rxEnable => .isTrue trivial
  | .rxDisable => .isTrue trivial
  | .transferTimeout => .isTrue trivial
  | .rxIdleTimeout => .isTrue trivial
  | .confirm _ _ => .isTrue trivial

/-! ## What the receiving port follows -/

/-- The filename event of the file that a history ends in, and the events after it. -/
structure OpenFile (conf : FileTransferConf) (history : List Event) (event : Event)
    (chunks : List Event) : Prop where
  split : ∃ earlier, history = earlier ++ event :: chunks
  filename : event.index = conf.fileNameIndex
  others : ∀ chunk ∈ chunks, chunk.index ≠ conf.fileNameIndex

/-- The data of some chunks. -/
def chunkData (conf : FileTransferConf) (chunks : List Event) : Bytes :=
  (chunks.map (dataOf conf)).flatten

/-- Every file whose EOF is in the history was closed with the data in the history, or could
not be opened. -/
def Completed (conf : FileTransferConf) (log : List RxEntry) (history : List Event) : Prop :=
  ∀ before eof after, history = before ++ eof :: after → eof.index ≠ conf.fileNameIndex →
    eof.payload.length = conf.crcSize → ∃ event chunks, OpenFile conf before event chunks ∧
      (.closed (writtenName conf event) (chunkData conf chunks) ∈ log ∨
        .blocked (writtenName conf event) ∈ log)

/-- The receiving port writes the open file of a history. -/
structure WritesFile (conf : FileTransferConf) (rx : Rx) (history : List Event) (event : Event)
    (chunks : List Event) : Prop extends OpenFile conf history event chunks where
  name : rx.filename = writtenName conf event
  data : ∀ bytes, rx.fout = some bytes → bytes = chunkData conf chunks
  failed : rx.fout = none → .blocked rx.filename ∈ rx.log

/-- The receiving port has taken the events of a history. -/
structure Follows (conf : FileTransferConf) (rx : Rx) (history : List Event) : Prop where
  crc : rx.crc = chainCrc history
  idle : rx.rxInProgress = false → rx.fout = none
  file : rx.rxInProgress = true → ∃ event chunks, WritesFile conf rx history event chunks
  completed : conf.useConfirms = true → Completed conf rx.log history

/-- What the receiving port makes of the events of a log. -/
structure RxSound (conf : FileTransferConf) (log : List Entry) (rx : Rx) : Prop where
  seq : conf.sequenceIndexStart ≤ rx.seq ∧ rx.seq ≤ conf.sequenceIndexStop
  buffered : ∀ event ∈ rx.rxEventBuffer, event ∈ published log
  follows : ∃ history ∈ histories log, Follows conf rx history
  closed : ∀ filename content, .closed filename content ∈ rx.log →
    ∃ sent ∈ transmissions conf log, filename = writtenName conf sent.event ∧
      content = sent.content
  confirmed : ∀ crob seq crc, .confirmed crob seq crc ∈ rx.log →
    (crob.count = 2 → crob.offTimeMS = crc.toNat) ∧
      ∃ history ∈ histories log, crc = chainCrc history ∧
        (conf.useConfirms = true → Completed conf rx.log history)

section Following

variable {conf : FileTransferConf} {log : List Entry} {rx : Rx}

/-- A step that leaves the file and the CRC as they are. -/
theorem Follows.frame {later : Rx} {events : List Event} (follows : Follows conf rx events)
    (crc : later.crc = rx.crc) (busy : later.rxInProgress = rx.rxInProgress)
    (fout : later.fout = rx.fout) (filename : later.filename = rx.filename)
    (log : later.log = rx.log) : Follows conf later events where
  crc := crc.trans follows.crc
  idle idle := fout.trans (follows.idle (busy.symm.trans idle))
  file here := by
    obtain ⟨event, chunks, file⟩ := follows.file (busy.symm.trans here)
    refine ⟨event, chunks, file.toOpenFile, filename.trans file.name, ?_, ?_⟩
    · rw [fout]
      exact file.data
    · rw [fout, filename, log]
      exact file.failed
  completed := by
    rw [log]
    exact follows.completed

theorem Completed.mono {entries later : List RxEntry} {history : List Event}
    (completed : Completed conf entries history) (grown : entries ⊆ later) :
    Completed conf later history := by
  intro before eof after split index empty
  obtain ⟨event, chunks, file, done⟩ := completed before eof after split index empty
  exact ⟨event, chunks, file, done.imp (fun member => grown member) fun member => grown member⟩

theorem completed_nil (entries : List RxEntry) : Completed conf entries [] := by
  intro before eof after split
  exact absurd split.symm (by simp)

/-- Where a list that was extended is split. -/
theorem split_append {α : Type*} {list before after : List α} {last x : α}
    (split : list ++ [last] = before ++ x :: after) :
    (list = before ∧ last = x) ∨ ∃ rest, list = before ++ x :: rest := by
  rcases List.eq_nil_or_concat after with rfl | ⟨rest, y, rfl⟩
  · obtain ⟨same, here⟩ := List.append_inj' split rfl
    exact .inl ⟨same, by simpa using here⟩
  · right
    refine ⟨rest, ?_⟩
    have moved : list ++ [last] = (before ++ x :: rest) ++ [y] := by simpa using split
    exact (List.append_inj' moved rfl).1

/-- An event that ends no file leaves the files of the history as they are. -/
theorem Completed.append {entries : List RxEntry} {history : List Event} {event : Event}
    (completed : Completed conf entries history)
    (no_end : event.index = conf.fileNameIndex ∨ event.payload.length ≠ conf.crcSize) :
    Completed conf entries (history ++ [event]) := by
  intro before eof after split index empty
  rcases split_append split with ⟨-, rfl⟩ | ⟨rest, inside⟩
  · rcases no_end with atIndex | some_data
    · exact absurd atIndex index
    · exact absurd empty some_data
  · exact completed before eof rest inside index empty

/-- An EOF ends the file that the history has open. -/
theorem Completed.append_eof {entries : List RxEntry} {history chunks : List Event}
    {event eof : Event} (completed : Completed conf entries history)
    (file : OpenFile conf history event chunks)
    (done : .closed (writtenName conf event) (chunkData conf chunks) ∈ entries ∨
      .blocked (writtenName conf event) ∈ entries) :
    Completed conf entries (history ++ [eof]) := by
  intro before eof' after split index empty
  rcases split_append split with ⟨rfl, rfl⟩ | ⟨rest, inside⟩
  · exact ⟨event, chunks, file, done⟩
  · exact completed before eof' rest inside index empty

theorem OpenFile.append {history chunks : List Event} {event chunk : Event}
    (file : OpenFile conf history event chunks) (index : chunk.index ≠ conf.fileNameIndex) :
    OpenFile conf (history ++ [chunk]) event (chunks ++ [chunk]) where
  split := by
    obtain ⟨earlier, rfl⟩ := file.split
    exact ⟨earlier, by simp⟩
  filename := file.filename
  others other member := by
    rcases List.mem_append.mp member with old | new
    · exact file.others other old
    · rw [List.mem_singleton.mp new]
      exact index

/-- A history has one open file at most. -/
theorem OpenFile.unique {history chunks chunks' : List Event} {event event' : Event}
    (first : OpenFile conf history event chunks) (second : OpenFile conf history event' chunks') :
    event = event' ∧ chunks = chunks' := by
  obtain ⟨earlier, split⟩ := first.split
  obtain ⟨earlier', split'⟩ := second.split
  exact (split_unique (split.symm.trans split') first.filename second.filename first.others
    second.others).2

/-- The transmission that a log is in is the open file of its history. -/
theorem openFile_of_sending {path : Path} {later : Bytes} {sent : Event × Bytes}
    {before : List Entry} (logged : WellLogged conf before)
    (under_way : sending conf path later before = some sent) :
    ∃ chunks, OpenFile conf (history before) sent.1 chunks ∧
      chunkData conf chunks ++ later = sent.2 := by
  obtain ⟨event, content⟩ := sent
  obtain ⟨earlier, chunks, split, index, others, data⟩ := history_of_sending logged under_way
  exact ⟨chunks, ⟨⟨earlier, split⟩, index, others⟩, data⟩

theorem WellLogged.before {entry : Entry} {before : List Entry} (logged : WellLogged conf log)
    (suffix : entry :: before <:+ log) : WellLogged conf before := by
  obtain ⟨new, rfl⟩ := suffix
  induction new with
  | nil => exact logged.2
  | cons first rest ih => exact ih logged.2

/-- A published event carries the CRC of the history before it. -/
theorem WellLogged.readCrc {entry : Entry} {before : List Entry} {event : Event}
    (logged : WellLogged conf log) (suffix : entry :: before <:+ log)
    (here : entry.event? = some event) :
    FileTransfer.readCrc event.payload = chainCrc (history before) ∧
      history (entry :: before) = history before ++ [event] := by
  have good := logged.entry suffix
  cases entry with
  | announced path event' => cases here; exact ⟨good.2, rfl⟩
  | chunk path event' => cases here; exact ⟨good.2.1, rfl⟩
  | ended path event' => cases here; exact ⟨good.2.1, rfl⟩
  | _ => cases here

/-- An event was published right after a history of the log. -/
structure Extends (log : List Entry) (events : List Event) (event : Event) (entry : Entry)
    (before : List Entry) : Prop where
  suffix : entry :: before <:+ log
  publishes : entry.event? = some event
  back : history before = events
  known : events ++ [event] ∈ histories log

/-- **An event whose CRC is that of a history extends this history.** -/
theorem extends_history {events : List Event} {event : Event} (logged : WellLogged conf log)
    (distinct : DistinctCrcs log) (known : events ∈ histories log)
    (member : event ∈ published log) (same : readCrc event.payload = chainCrc events) :
    ∃ entry before, Extends log events event entry before := by
  obtain ⟨entry, before, suffix, here⟩ := published_split member
  obtain ⟨crc, extended⟩ := logged.readCrc suffix here
  have before_known : history before ∈ histories log :=
    histories_mono ((List.suffix_cons entry before).trans suffix) (history_mem_histories before)
  have back : history before = events :=
    distinct _ before_known _ known (crc.symm.trans same)
  refine ⟨entry, before, suffix, here, back, ?_⟩
  rw [← back, ← extended]
  exact histories_mono suffix (history_mem_histories _)

end Following

end OpenDataCon.FileTransfer

import OpenDataCon.FileTransfer.Histories
import OpenDataCon.FileTransfer.InOrder

/-!
# The sending port sends every queued file

Without confirms, the events that were published are each the one in turn for a
receiving port that has taken those before (`Lockstep`): the two ports have the same
sequence number and CRC, and what the receiving port has written of the open file is
what the sending port has read of it (`Transferring`). The handlers run in the order
in which they were posted, so a file is queued again by none of them
(`step_transferring`).
-/

set_option autoImplicit false

namespace OpenDataCon.FileTransfer

open Resequencing Runs

/-! ## Files -/

/-- A file to send. -/
structure File where
  path : Path
  name : Bytes
  content : Bytes
deriving DecidableEq, Repr

def File.entry (file : File) : Path × Bytes := (file.path, file.name)

/-- The name and the bytes that are to be written of a file. -/
def written (conf : FileTransferConf) (file : File) : Bytes × Bytes :=
  (templatedName conf.filenameInfo (announcedName file.name), file.content)

def RxEntry.closing? : RxEntry → Option (Bytes × Bytes)
  | .closed filename content => some (filename, content)
  | _ => none

def RxEntry.opening? : RxEntry → Option Bytes
  | .opened filename => some filename
  | _ => none

/-- The files that were closed, with what was written, newest first. -/
def closings (log : List RxEntry) : List (Bytes × Bytes) := log.filterMap RxEntry.closing?

/-- The names of the files that were opened, newest first. -/
def openings (log : List RxEntry) : List Bytes := log.filterMap RxEntry.opening?

/-! ## Payloads -/

section Payloads

variable {conf : FileTransferConf} {crc : BitVec 16} {data : Bytes}

theorem readCrc_payloadOf (crcs : conf.useCRCs = true) :
    readCrc (payloadOf conf crc data) = crc := by
  rw [payloadOf, if_pos crcs, readCrc_crcBytes]

theorem length_payloadOf : (payloadOf conf crc data).length = conf.crcSize + data.length := by
  rw [payloadOf, FileTransferConf.crcSize]
  split
  · rw [List.length_append, length_crcBytes]
  · rw [Nat.zero_add]

theorem drop_payloadOf : (payloadOf conf crc data).drop conf.crcSize = data := by
  rw [payloadOf, FileTransferConf.crcSize]
  split
  · rfl
  · rfl

/-- The name in a filename event. -/
theorem nameOf_payloadOf {index : Nat} {name : Bytes} (nulFree : 0 ∉ name) :
    nameOf conf { index, payload := payloadOf conf crc name } = name := by
  rw [nameOf, drop_payloadOf]
  apply List.takeWhile_eq_self_iff.mpr
  intro byte member
  simpa using fun zero : byte = 0 => nulFree (zero ▸ member)

theorem announcedName_nulFree {name : Bytes} (nulFree : 0 ∉ name) : 0 ∉ announcedName name := by
  rw [announcedName]
  split
  · decide
  · exact nulFree

variable (valid : conf.Valid)

include valid in
/-- An event of the range stands for itself. -/
theorem effectiveEvent_range {event : Event}
    (range : conf.sequenceIndexStart ≤ event.index ∧ event.index ≤ conf.sequenceIndexStop) :
    effectiveEvent conf event = some event := by
  rw [effectiveEvent, if_neg]
  exact fun eof => valid.eof _ eof range

include valid in
/-- **An EOF stands for an event without data** at the sequence number. -/
theorem effectiveEvent_eof {seq : Nat}
    (range : conf.sequenceIndexStart ≤ seq ∧ seq ≤ conf.sequenceIndexStop)
    (bound : conf.sequenceIndexStop < 2 ^ 32) :
    effectiveEvent conf (eofEvent conf seq crc) =
      some { index := seq, payload := payloadOf conf crc [] } := by
  cases eof : conf.sequenceIndexEOF with
  | none =>
      rw [effectiveEvent_range valid (by rw [eofEvent, eof]; exact range), eofEvent, eof]
      rw [payloadOf, List.append_nil]
  | some index =>
      have plain : conf.useCRCs ≠ true := by
        intro crcs
        rw [valid.crcs crcs] at eof
        cases eof
      have number : stoul (toDecimal seq) = some seq := stoul_toDecimal (by omega)
      rw [effectiveEvent, eofEvent, eof]
      dsimp only
      rw [if_pos rfl, number, payloadOf, if_neg plain]
      rfl

include valid in
theorem eofCrc_eq : eofCrc conf crc = crcAfter conf crc (payloadOf conf crc []) := by
  rw [eofCrc, crcAfter, payloadOf]
  by_cases crcs : conf.useCRCs = true
  · rw [if_pos ⟨valid.crcs crcs, crcs⟩, if_pos crcs, if_pos crcs, List.append_nil]
  · rw [if_neg fun both => crcs both.2, if_neg crcs]

end Payloads

/-! ## The two ports in lockstep -/

/-- The events that the published events stand for. -/
def meant (conf : FileTransferConf) (log : List Entry) : List Event :=
  (published log).filterMap (effectiveEvent conf)

/-- The receiving port when it is enabled. -/
def Rx.started (conf : FileTransferConf) : Rx := rxStep conf (Rx.build conf) .enable

/-- The receiving port after it has taken all that was published in order. -/
def mirror (conf : FileTransferConf) (log : List Entry) : Rx :=
  (meant conf log).foldl (Rx.take conf) (Rx.started conf)

structure Lockstep (conf : FileTransferConf) (tx : Tx) : Prop where
  accepted : Accepted conf (Rx.started conf) (meant conf tx.log)
  used : ∀ event ∈ meant conf tx.log, Used conf event
  ready : Ready conf (mirror conf tx.log)
  seq : (mirror conf tx.log).seq = tx.seq
  crc : (mirror conf tx.log).crc = tx.crc
  busy : (mirror conf tx.log).rxInProgress = tx.txInProgress

section Mirror

variable {conf : FileTransferConf} {tx later : Tx} {entry : Entry} {raw event : Event}

theorem started_ready (valid : conf.Valid) : Ready conf (Rx.started conf) where
  enabled := rfl
  reset := rfl
  seq := ⟨Nat.le_refl _, valid.range⟩
  closed _ := rfl

theorem meant_cons (publishes : entry.event? = some raw)
    (meaning : effectiveEvent conf raw = some event) (before : List Entry) :
    meant conf (entry :: before) = meant conf before ++ [event] := by
  rw [meant, published, publishes, Option.toList_some, List.filterMap_append,
    List.filterMap_cons_some meaning]
  rfl

theorem meant_silent (silent : entry.event? = none) (before : List Entry) :
    meant conf (entry :: before) = meant conf before := by
  rw [meant, published, silent, Option.toList_none, List.append_nil]
  rfl

theorem mirror_cons (publishes : entry.event? = some raw)
    (meaning : effectiveEvent conf raw = some event) (before : List Entry) :
    mirror conf (entry :: before) = (mirror conf before).take conf event := by
  rw [mirror, meant_cons publishes meaning, List.foldl_append]
  rfl

theorem mirror_silent (silent : entry.event? = none) (before : List Entry) :
    mirror conf (entry :: before) = mirror conf before := by
  rw [mirror, meant_silent silent]
  rfl

theorem Fits.used {rx : Rx} (ready : Ready conf rx) (fits : Fits conf rx event) :
    Used conf event := by
  rw [Used, fits.index, Rx.expected]
  split
  · exact .inr ready.seq
  · exact .inl rfl

/-- **What is published is the event in turn.** -/
theorem Lockstep.publish (lockstep : Lockstep conf tx) (valid : conf.Valid)
    (confirms : conf.useConfirms = false) (publishes : entry.event? = some raw)
    (meaning : effectiveEvent conf raw = some event)
    (fits : Fits conf (mirror conf tx.log) event) (log : later.log = entry :: tx.log)
    (seq : ((mirror conf tx.log).take conf event).seq = later.seq)
    (crc : ((mirror conf tx.log).take conf event).crc = later.crc)
    (busy : ((mirror conf tx.log).take conf event).rxInProgress = later.txInProgress) :
    Lockstep conf later := by
  have next : mirror conf later.log = (mirror conf tx.log).take conf event := by
    rw [log, mirror_cons publishes meaning]
  have goes_on : meant conf later.log = meant conf tx.log ++ [event] := by
    rw [log, meant_cons publishes meaning]
  refine ⟨?_, ?_, ?_, by rw [next, seq], by rw [next, crc], by rw [next, busy]⟩
  · rw [goes_on]
    exact accepted_append.mpr ⟨lockstep.accepted, fits⟩
  · intro other member
    rw [goes_on] at member
    rcases List.mem_append.mp member with old | new
    · exact lockstep.used other old
    · rw [List.mem_singleton.mp new]
      exact fits.used lockstep.ready
  · rw [next]
    exact lockstep.ready.take confirms valid fits

/-- An entry that publishes nothing keeps the lockstep. -/
theorem Lockstep.silent (lockstep : Lockstep conf tx) (silent : entry.event? = none)
    (log : later.log = entry :: tx.log) (seq : later.seq = tx.seq) (crc : later.crc = tx.crc)
    (busy : later.txInProgress = tx.txInProgress) : Lockstep conf later := by
  have same : mirror conf later.log = mirror conf tx.log := by rw [log, mirror_silent silent]
  have events : meant conf later.log = meant conf tx.log := by rw [log, meant_silent silent]
  refine ⟨?_, ?_, ?_, ?_, ?_, ?_⟩
  · rw [events]
    exact lockstep.accepted
  · rw [events]
    exact lockstep.used
  · rw [same]
    exact lockstep.ready
  · rw [same, seq, lockstep.seq]
  · rw [same, crc, lockstep.crc]
  · rw [same, busy, lockstep.busy]

end Mirror

/-! ## Files in turn -/

/-- The files that are done and those that are queued. The open file, with what was written of
it, is still queued. -/
structure Transferring (conf : FileTransferConf) (files : List File) (tx : Tx)
    (done pending : List File) (current : Option (File × Bytes)) : Prop
    extends Lockstep conf tx where
  enabled : tx.enabled = true
  reset : tx.transferReset = false
  closed : closings (mirror conf tx.log).log = done.map (written conf)
  opened : openings (mirror conf tx.log).log =
    (current.toList.map Prod.fst ++ done).map fun file => (written conf file).1
  writing : (mirror conf tx.log).fout = current.map Prod.snd
  named : ∀ file data, current = some (file, data) →
    (mirror conf tx.log).filename = (written conf file).1 ∧ file ∈ pending
  sending : tx.txInProgress = current.isSome
  queue : tx.txFilenameQ = pending.map File.entry
  nodup : ((done ++ pending).map File.path).Nodup
  known : ∀ file ∈ done ++ pending, file ∈ files
  triggered : ∀ file ∈ files, .triggered file.path ∈ tx.log ↔ file ∈ done ++ pending

section Transfers

variable {conf : FileTransferConf} {files : List File} {tx : Tx} {done pending : List File}
  {current : Option (File × Bytes)}

/-- The handlers and the file stream do not matter. -/
theorem Transferring.frame (transfers : Transferring conf files tx done pending current)
    (handlers : List Handler) (fin : InStream) :
    Transferring conf files { tx with handlers, fin } done pending current :=
  { transfers with }

/-- The opening of a file for reading does not matter. -/
theorem Transferring.read (transfers : Transferring conf files tx done pending current)
    (path : Path) (content : Bytes) :
    Transferring conf files { tx with log := .opened path content :: tx.log } done pending
      current := by
  have same : mirror conf (.opened path content :: tx.log) = mirror conf tx.log :=
    mirror_silent rfl _
  refine
    { toLockstep := transfers.silent rfl rfl rfl rfl rfl
      enabled := transfers.enabled
      reset := transfers.reset
      closed := by rw [same]; exact transfers.closed
      opened := by rw [same]; exact transfers.opened
      writing := by rw [same]; exact transfers.writing
      named := by rw [same]; exact transfers.named
      sending := transfers.sending
      queue := transfers.queue
      nodup := transfers.nodup
      known := transfers.known
      triggered := fun file member => ?_ }
  rw [← transfers.triggered file member]
  simp

variable (valid : conf.Valid) (confirms : conf.useConfirms = false)
  (apart : conf.sequenceIndexEOF ≠ some conf.fileNameIndex)
  (bound : conf.sequenceIndexStop < 2 ^ 32) (nulFree : ∀ file ∈ files, 0 ∉ file.name)

include valid confirms apart nulFree in
/-- A file of the queue is announced. -/
theorem Transferring.announce (transfers : Transferring conf files tx done pending none)
    {file : File} (queued : file ∈ pending) :
    Transferring conf files (tx.announce conf file.path file.name) done pending
      (some (file, [])) := by
  have idle : (mirror conf tx.log).rxInProgress = false :=
    transfers.busy.trans transfers.sending
  have fits : Fits conf (mirror conf tx.log)
      { index := conf.fileNameIndex
        payload := payloadOf conf tx.crc (announcedName file.name) } := by
    refine ⟨?_, fun crcs => ?_, ?_⟩
    · rw [Rx.expected, if_neg (by simp [idle])]
    · rw [readCrc_payloadOf crcs, transfers.crc]
    · rw [length_payloadOf]
      exact Nat.le_add_right _ _
  have taken := take_filename transfers.ready idle fits
  have name : writtenName conf
      { index := conf.fileNameIndex
        payload := payloadOf conf tx.crc (announcedName file.name) } = (written conf file).1 := by
    have known := transfers.known file (List.mem_append_right _ queued)
    rw [writtenName, nameOf_payloadOf (announcedName_nulFree (nulFree file known))]
    rfl
  rw [name] at taken
  have lockstep : Lockstep conf (tx.announce conf file.path file.name) := by
    refine transfers.publish valid confirms rfl (effectiveEvent_filename apart rfl) fits rfl ?_ ?_ ?_
    · rw [taken]
      exact transfers.seq
    · rw [taken]
      exact congrArg (crcAfter conf · _) transfers.crc
    · rw [taken]
      rfl
  have next : mirror conf (tx.announce conf file.path file.name).log = _ :=
    (mirror_cons rfl (effectiveEvent_filename apart rfl) tx.log).trans taken
  refine
    { toLockstep := lockstep
      enabled := transfers.enabled
      reset := rfl
      closed := by rw [next]; exact transfers.closed
      opened := by rw [next]; exact congrArg (List.cons _) transfers.opened
      writing := by rw [next]; rfl
      named := ?_
      sending := rfl
      queue := transfers.queue
      nodup := transfers.nodup
      known := transfers.known
      triggered := ?_ }
  · intro other data same
    obtain ⟨rfl, -⟩ := Prod.mk.inj (Option.some.inj same)
    rw [next]
    exact ⟨rfl, queued⟩
  · intro other member
    rw [← transfers.triggered other member]
    simp [Tx.announce, Tx.publish]

/-! ## Chunks and ends -/

include valid confirms in
/-- A chunk of the open file is sent. -/
theorem Transferring.publishChunk {file : File} {data chunk : Bytes}
    (transfers : Transferring conf files tx done pending (some (file, data)))
    (some_data : chunk ≠ []) :
    Transferring conf files (tx.publishChunk conf file.path chunk) done pending
      (some (file, data ++ chunk)) := by
  have busy : (mirror conf tx.log).rxInProgress = true := transfers.busy.trans transfers.sending
  have range : conf.sequenceIndexStart ≤ tx.seq ∧ tx.seq ≤ conf.sequenceIndexStop :=
    transfers.seq ▸ transfers.ready.seq
  have fits : Fits conf (mirror conf tx.log)
      { index := tx.seq, payload := payloadOf conf tx.crc chunk } := by
    refine ⟨?_, fun crcs => ?_, ?_⟩
    · rw [Rx.expected, if_pos busy, transfers.seq]
    · rw [readCrc_payloadOf crcs, transfers.crc]
    · rw [length_payloadOf]
      exact Nat.le_add_right _ _
  have long : (payloadOf conf tx.crc chunk).length ≠ conf.crcSize := by
    rw [length_payloadOf]
    have := List.length_pos_of_ne_nil some_data
    omega
  have meaning : effectiveEvent conf { index := tx.seq, payload := payloadOf conf tx.crc chunk } =
      some { index := tx.seq, payload := payloadOf conf tx.crc chunk } :=
    effectiveEvent_range valid range
  have taken := take_chunk confirms busy fits long
  rw [drop_payloadOf] at taken
  have lockstep : Lockstep conf (tx.publishChunk conf file.path chunk) := by
    refine transfers.publish valid confirms rfl meaning fits rfl ?_ ?_ ?_
    · rw [taken]
      exact congrArg (nextSequence conf) transfers.seq
    · rw [taken]
      exact congrArg (crcAfter conf · _) transfers.crc
    · rw [taken]
      exact transfers.busy
  have next : mirror conf (tx.publishChunk conf file.path chunk).log = _ :=
    (mirror_cons rfl meaning tx.log).trans taken
  refine
    { toLockstep := lockstep
      enabled := transfers.enabled
      reset := transfers.reset
      closed := by rw [next]; exact transfers.closed
      opened := by rw [next]; exact transfers.opened
      writing := by
        rw [next]
        exact congrArg (Option.map (· ++ chunk)) transfers.writing
      named := ?_
      sending := transfers.sending
      queue := transfers.queue
      nodup := transfers.nodup
      known := transfers.known
      triggered := ?_ }
  · intro other all same
    obtain ⟨rfl, -⟩ := Prod.mk.inj (Option.some.inj same)
    rw [next]
    exact transfers.named file data rfl
  · intro other member
    rw [← transfers.triggered other member]
    simp [Tx.publishChunk, Tx.publish, Tx.bumpSequence]

/-- The queue without a file. -/
theorem erase_entry {file : File} (queued : file ∈ pending)
    (nodup : (pending.map File.path).Nodup) :
    FilenameQ.erase (pending.map File.entry) file.path = (pending.erase file).map File.entry := by
  rw [nodup.of_map.erase_eq_filter, FilenameQ.erase, List.filter_map]
  refine congrArg (List.map File.entry) (List.filter_congr fun other member => ?_)
  have same : other.path = file.path ↔ other = file :=
    ⟨fun path => List.inj_on_of_nodup_map nodup member queued path, fun here => here ▸ rfl⟩
  rw [Bool.eq_iff_iff]
  simp [File.entry, same]

/-- Taking a file from the queue to those that are done. -/
theorem erase_perm {file : File} (queued : file ∈ pending) :
    ((file :: done) ++ pending.erase file).Perm (done ++ pending) := by
  have moved : (done ++ file :: pending.erase file).Perm (done ++ pending) :=
    (List.perm_cons_erase queued).symm.append_left done
  exact List.perm_middle.symm.trans moved

include valid confirms bound in
/-- The open file is ended when all of it was sent. -/
theorem Transferring.endFile {file : File}
    (transfers : Transferring conf files tx done pending (some (file, file.content))) :
    Transferring conf files (tx.endFile conf file.path) (file :: done) (pending.erase file)
      none := by
  obtain ⟨filename, queued⟩ := transfers.named file file.content rfl
  have busy : (mirror conf tx.log).rxInProgress = true := transfers.busy.trans transfers.sending
  have range : conf.sequenceIndexStart ≤ tx.seq ∧ tx.seq ≤ conf.sequenceIndexStop :=
    transfers.seq ▸ transfers.ready.seq
  have fits : Fits conf (mirror conf tx.log)
      { index := tx.seq, payload := payloadOf conf tx.crc [] } := by
    refine ⟨?_, fun crcs => ?_, ?_⟩
    · rw [Rx.expected, if_pos busy, transfers.seq]
    · rw [readCrc_payloadOf crcs, transfers.crc]
    · rw [length_payloadOf]
      exact Nat.le_add_right _ _
  have meaning : effectiveEvent conf (eofEvent conf tx.seq tx.crc) = _ :=
    effectiveEvent_eof valid range bound
  have taken := take_eof confirms busy fits length_payloadOf
  rw [transfers.writing, filename] at taken
  have lockstep : Lockstep conf (tx.endFile conf file.path) := by
    refine transfers.publish valid confirms rfl meaning fits rfl ?_ ?_ ?_
    · rw [taken]
      exact congrArg (nextSequence conf) transfers.seq
    · rw [taken]
      exact (congrArg (crcAfter conf · _) transfers.crc).trans (eofCrc_eq valid).symm
    · rw [taken]
      rfl
  have next : mirror conf (tx.endFile conf file.path).log = _ :=
    (mirror_cons rfl meaning tx.log).trans taken
  have moved : ((file :: done) ++ pending.erase file).Perm (done ++ pending) := erase_perm queued
  have nodup : (pending.map File.path).Nodup := by
    have both := transfers.nodup
    rw [List.map_append] at both
    exact both.of_append_right
  refine
    { toLockstep := lockstep
      enabled := transfers.enabled
      reset := transfers.reset
      closed := by
        rw [next]
        exact congrArg (List.cons _) transfers.closed
      opened := by rw [next]; exact transfers.opened
      writing := by rw [next]; rfl
      named := fun _ _ same => by cases same
      sending := rfl
      queue := ?_
      nodup := ((moved.map File.path).nodup_iff).mpr transfers.nodup
      known := fun other member => transfers.known other (moved.subset member)
      triggered := ?_ }
  · change tx.txFilenameQ.erase file.path = _
    rw [transfers.queue, erase_entry queued nodup]
  · intro other member
    rw [moved.mem_iff, ← transfers.triggered other member]
    simp [Tx.endFile, Tx.dequeue, Tx.publish, Tx.bumpSequence]

/-! ## What is scheduled -/

/-- The posted `TrySend` of an entry of the queue. -/
def postedSend (entry : Path × Bytes) : Handler := .trySend entry.1 entry.2

/-- Between files a `TrySend` is posted as long as a file is queued. An open file has one handler,
behind what was posted before, and the stream has what is left of it. -/
def Scheduled (tx : Tx) : Option (File × Bytes) → Prop
  | none => ∃ posted ⊆ tx.txFilenameQ, tx.handlers = posted.map postedSend ∧
      tx.fin.rest = none ∧ (posted = [] → tx.txFilenameQ = [])
  | some (file, data) =>
    (∃ posted ⊆ tx.txFilenameQ, tx.handlers = posted.map postedSend ++ [.sendFile file.path] ∧
      tx.fin.rest = none ∧ data = []) ∨
    (tx.handlers = [.sendChunk file.path] ∧
      ∃ rest, tx.fin = { rest := some rest, good := true } ∧ data ++ rest = file.content)

/-- The files that are done, pending and open go with what is scheduled. -/
def InTurn (conf : FileTransferConf) (files : List File) (tx : Tx) : Prop :=
  ∃ done pending current, Transferring conf files tx done pending current ∧ Scheduled tx current

/-- Nothing is open, and the next file is posted. -/
theorem Transferring.postNext (transfers : Transferring conf files tx done pending none)
    (none_left : tx.handlers = []) (closed : tx.fin.rest = none) (pick : Nat) :
    InTurn conf files (tx.postNext pick) := by
  rw [Tx.postNext]
  cases first : tx.txFilenameQ.begin pick with
  | none =>
      have empty : tx.txFilenameQ = [] := by
        by_contra more
        have here := List.getElem?_eq_none_iff.mp first
        exact absurd (Nat.mod_lt pick (List.length_pos_of_ne_nil more)) (Nat.not_lt.mpr here)
      exact ⟨done, pending, none, transfers, [], List.nil_subset _, none_left, closed,
        fun _ => empty⟩
  | some entry =>
      refine ⟨done, pending, none, by exact transfers.frame _ _, [entry], ?_, ?_, closed,
        fun absent => by cases absent⟩
      · intro other member
        rw [List.mem_singleton.mp member]
        exact List.mem_of_getElem? first
      · change tx.handlers ++ [_] = _
        rw [none_left]
        rfl

include valid confirms bound in
/-- All of the file was sent. -/
theorem Transferring.sendEOF {file : File}
    (transfers : Transferring conf files tx done pending (some (file, file.content)))
    (none_left : tx.handlers = []) (closed : tx.fin.rest = none) (pick : Nat) :
    InTurn conf files (tx.sendEOF conf file.path pick) := by
  have ended := transfers.endFile valid confirms bound
  rw [Tx.sendEOF, if_neg (by simp [transfers.reset])]
  dsimp only
  rw [if_neg (by simp [confirms]), Tx.nextAction, if_neg (by simp [ended.enabled]),
    if_neg (by simp [ended.reset])]
  exact ended.postNext none_left closed pick

include valid confirms bound in
/-- The next chunk of the file is sent, and the end after the last one. -/
theorem Transferring.sendChunk {file : File} {data rest : Bytes}
    (transfers : Transferring conf files tx done pending (some (file, data)))
    (none_left : tx.handlers = []) (stream : tx.fin = { rest := some rest, good := true })
    (content : data ++ rest = file.content) (pick : Nat) :
    InTurn conf files (tx.sendChunk conf file.path pick) := by
  have chunk : tx.fin.data (255 - conf.crcSize) = rest.take (255 - conf.crcSize) := by
    rw [stream]
    rfl
  rw [Tx.sendChunk, if_neg (by simp [transfers.reset]), chunk]
  dsimp only
  by_cases empty : rest.take (255 - conf.crcSize) = []
  · have size : 255 - conf.crcSize ≠ 0 := by
      rw [FileTransferConf.crcSize]
      split <;> decide
    have all : data = file.content := by
      rw [← content, (List.take_eq_nil_iff.mp empty).resolve_left size, List.append_nil]
    rw [if_pos empty]
    subst all
    have framed := transfers.frame tx.handlers (tx.fin.read (255 - conf.crcSize)).close
    exact framed.sendEOF valid confirms bound none_left (by rw [stream]; rfl) pick
  · have framed := transfers.frame tx.handlers (tx.fin.read (255 - conf.crcSize))
    have sent := framed.publishChunk valid confirms empty
    have read : tx.fin.read (255 - conf.crcSize) =
        { rest := some (rest.drop (255 - conf.crcSize))
          good := 255 - conf.crcSize ≤ rest.length } := by
      rw [stream]
      simp [InStream.read]
    have off : ∀ action later, Tx.continue conf later action pick =
        later.runAction conf action pick := fun action later => if_neg (by simp [confirms])
    rw [if_neg empty, off, off]
    by_cases more : 255 - conf.crcSize ≤ rest.length
    · have good : (Tx.publishChunk conf { tx with fin := tx.fin.read (255 - conf.crcSize) }
          file.path (rest.take (255 - conf.crcSize))).fin.good = true := by
        change (tx.fin.read (255 - conf.crcSize)).good = true
        rw [read]
        exact decide_eq_true more
      rw [if_pos good, Tx.runAction, if_pos sent.enabled]
      refine ⟨done, pending, some (file, data ++ rest.take (255 - conf.crcSize)),
        by exact sent.frame _ _, Or.inr ⟨?_, rest.drop (255 - conf.crcSize), ?_, ?_⟩⟩
      · change tx.handlers ++ [_] = _
        rw [none_left]
        rfl
      · change tx.fin.read (255 - conf.crcSize) = _
        rw [read, decide_eq_true more]
      · rw [List.append_assoc, List.take_append_drop, content]
    · have bad : ¬ (Tx.publishChunk conf { tx with fin := tx.fin.read (255 - conf.crcSize) }
          file.path (rest.take (255 - conf.crcSize))).fin.good = true := by
        change ¬ (tx.fin.read (255 - conf.crcSize)).good = true
        rw [read]
        simpa using more
      rw [if_neg bad, Tx.runAction, if_pos sent.enabled]
      have whole : rest.take (255 - conf.crcSize) = rest :=
        List.take_of_length_le (Nat.le_of_not_le more)
      rw [whole, content] at sent
      rw [whole]
      have closed := sent.frame tx.handlers (tx.fin.read (255 - conf.crcSize)).close
      exact closed.sendEOF valid confirms bound none_left rfl pick

/-! ## Steps -/

/-- An entry of the queue is queued already. -/
theorem FilenameQ.assign_entry {queue : FilenameQ} {entry : Path × Bytes} (inside : entry ∈ queue)
    (nodup : (queue.map Prod.fst).Nodup) : queue.assign entry.1 entry.2 = queue := by
  rw [FilenameQ.assign, if_pos (List.mem_map_of_mem inside)]
  refine (List.map_congr_left fun other member => ?_).trans (List.map_id _)
  by_cases same : other.1 = entry.1
  · rw [if_pos same]
    exact (List.inj_on_of_nodup_map nodup member inside same).symm
  · exact if_neg same

theorem Transferring.queue_nodup (transfers : Transferring conf files tx done pending current) :
    (tx.txFilenameQ.map Prod.fst).Nodup := by
  have both := transfers.nodup
  rw [List.map_append] at both
  rw [transfers.queue, List.map_map]
  exact both.of_append_right

include valid confirms apart nulFree in
/-- A posted `TrySend` announces its file when none is open, and does nothing otherwise. -/
theorem InTurn.posted (entry : Path × Bytes) {rest : List Handler}
    (transfers : Transferring conf files tx done pending current) (scheduled : Scheduled tx current)
    (first : tx.handlers = .trySend entry.1 entry.2 :: rest) :
    InTurn conf files (Tx.trySend conf { tx with handlers := rest } entry.1 entry.2) := by
  have known : ∀ posted ⊆ tx.txFilenameQ, posted.head? = some entry →
      tx.txFilenameQ.assign entry.1 entry.2 = tx.txFilenameQ :=
    fun posted sub head => FilenameQ.assign_entry (sub (List.mem_of_mem_head? head))
      transfers.queue_nodup
  rw [Tx.trySend, if_neg (by simp [transfers.enabled])]
  dsimp only
  cases current with
  | none =>
      obtain ⟨posted, sub, handlers, closed, -⟩ := scheduled
      cases posted with
      | nil =>
          rw [handlers] at first
          cases first
      | cons other later =>
          rw [handlers] at first
          obtain ⟨same, tail⟩ := List.cons.inj first
          obtain rfl : other = entry := by
            cases other
            cases same
            rfl
          rw [known _ sub rfl, if_neg (by simp [transfers.sending])]
          have inside := sub List.mem_cons_self
          rw [transfers.queue] at inside
          obtain ⟨file, queued, rfl⟩ := List.mem_map.mp inside
          have framed := transfers.frame rest tx.fin
          refine ⟨done, pending, some (file, []),
            framed.announce valid confirms apart nulFree queued, Or.inl ⟨later, ?_, ?_, closed, rfl⟩⟩
          · exact fun _ inside => sub (List.mem_cons_of_mem _ inside)
          · exact congrArg (· ++ [Handler.sendFile file.path]) tail.symm
  | some opened =>
      obtain ⟨file, data⟩ := opened
      rcases scheduled with ⟨posted, sub, handlers, closed, empty⟩ | ⟨handlers, -⟩
      · cases posted with
        | nil =>
            rw [handlers] at first
            cases first
        | cons other later =>
            rw [handlers] at first
            obtain ⟨same, tail⟩ := List.cons.inj first
            obtain rfl : other = entry := by
              cases other
              cases same
              rfl
            rw [known _ sub rfl, if_pos (by simp [transfers.sending])]
            refine ⟨done, pending, some (file, data), by exact transfers.frame _ _,
              Or.inl ⟨later, ?_, tail.symm, closed, empty⟩⟩
            exact fun _ inside => sub (List.mem_cons_of_mem _ inside)
      · rw [handlers] at first
        cases first

include valid confirms bound in
/-- The callback of the filename event opens the file and sends its first chunk. -/
theorem InTurn.opened {path : Path} {rest : List Handler} {file : File}
    (transfers : Transferring conf files tx done pending current) (scheduled : Scheduled tx current)
    (paths : (files.map File.path).Nodup) (first : tx.handlers = .sendFile path :: rest)
    (member : file ∈ files) (named : file.path = path) (pick : Nat) :
    InTurn conf files
      (Tx.sendFile conf { tx with handlers := rest } path (some file.content) pick) := by
  cases current with
  | none =>
      obtain ⟨posted, -, handlers, -⟩ := scheduled
      rw [handlers] at first
      cases posted with
      | nil => cases first
      | cons => cases first
  | some opened =>
      obtain ⟨current, data⟩ := opened
      rcases scheduled with ⟨posted, sub, handlers, closed, rfl⟩ | ⟨handlers, -⟩
      · rw [handlers] at first
        cases posted with
        | cons => cases first
        | nil =>
            obtain ⟨same, tail⟩ := List.cons.inj first
            obtain rfl : current = file := by
              have queued := (transfers.named current [] rfl).2
              have known := transfers.known current (List.mem_append_right _ queued)
              refine List.inj_on_of_nodup_map paths known member (Eq.trans ?_ named.symm)
              exact Handler.sendFile.inj same
            subst named
            have opens : tx.fin.open (some current.content) =
                { rest := some current.content, good := true } := by
              simp only [InStream.open, closed]
            rw [Tx.sendFile, if_neg (by simp [transfers.enabled])]
            dsimp only
            rw [opens, if_pos rfl]
            have framed :=
              (transfers.read current.path current.content).frame rest
                { rest := some current.content, good := true }
            exact framed.sendChunk valid confirms bound tail.symm rfl rfl pick
      · rw [handlers] at first
        cases first

include valid confirms bound in
/-- The next chunk is due. -/
theorem InTurn.chunk {path : Path} {rest : List Handler}
    (transfers : Transferring conf files tx done pending current) (scheduled : Scheduled tx current)
    (first : tx.handlers = .sendChunk path :: rest) (pick : Nat) :
    InTurn conf files (Tx.sendChunk conf { tx with handlers := rest } path pick) := by
  cases current with
  | none =>
      obtain ⟨posted, -, handlers, -⟩ := scheduled
      rw [handlers] at first
      cases posted with
      | nil => cases first
      | cons => cases first
  | some opened =>
      obtain ⟨file, data⟩ := opened
      rcases scheduled with ⟨posted, -, handlers, -⟩ | ⟨handlers, left, stream, content⟩
      · rw [handlers] at first
        cases posted with
        | nil => cases first
        | cons => cases first
      · rw [handlers] at first
        obtain ⟨same, tail⟩ := List.cons.inj first
        obtain rfl : file.path = path := Handler.sendChunk.inj same
        have framed := transfers.frame rest tx.fin
        exact framed.sendChunk valid confirms bound tail.symm stream content pick

/-- A file that is triggered for the first time is queued. -/
theorem Transferring.trigger {file : File}
    (transfers : Transferring conf files tx done pending current)
    (paths : (files.map File.path).Nodup) (member : file ∈ files)
    (new : .triggered file.path ∉ tx.log) :
    Transferring conf files
      { tx with
        txFilenameQ := tx.txFilenameQ.assign file.path file.name
        log := .triggered file.path :: tx.log }
      done (pending ++ [file]) current := by
  have same : mirror conf (.triggered file.path :: tx.log) = mirror conf tx.log :=
    mirror_silent rfl _
  have absent : file ∉ done ++ pending := fun inside =>
    new ((transfers.triggered file member).mpr inside)
  have fresh : file.path ∉ (done ++ pending).map File.path := by
    intro inside
    obtain ⟨other, known, path⟩ := List.mem_map.mp inside
    obtain rfl := List.inj_on_of_nodup_map paths (transfers.known other known) member path
    exact absent known
  have assigned : tx.txFilenameQ.assign file.path file.name =
      (pending ++ [file]).map File.entry := by
    rw [FilenameQ.assign, transfers.queue, List.map_map, if_neg, List.map_append]
    · rfl
    · intro inside
      rw [List.map_append] at fresh
      exact fresh (List.mem_append_right _ inside)
  refine
    { toLockstep := transfers.silent rfl rfl rfl rfl rfl
      enabled := transfers.enabled
      reset := transfers.reset
      closed := by rw [same]; exact transfers.closed
      opened := by rw [same]; exact transfers.opened
      writing := by rw [same]; exact transfers.writing
      named := fun other data here => ?_
      sending := transfers.sending
      queue := assigned
      nodup := ?_
      known := ?_
      triggered := fun other inside => ?_ }
  · rw [same]
    obtain ⟨named, queued⟩ := transfers.named other data here
    exact ⟨named, List.mem_append_left _ queued⟩
  · rw [← List.append_assoc, List.map_append]
    exact List.nodup_append'.mpr ⟨transfers.nodup, List.nodup_singleton _,
      List.disjoint_singleton.mpr fresh⟩
  · rw [← List.append_assoc]
    intro other inside
    rcases List.mem_append.mp inside with old | now
    · exact transfers.known other old
    · rw [List.mem_singleton.mp now]
      exact member
  · have path : other.path = file.path ↔ other = file :=
      ⟨fun path => List.inj_on_of_nodup_map paths inside member path, fun here => here ▸ rfl⟩
    rw [← List.append_assoc, List.mem_append, List.mem_singleton,
      ← transfers.triggered other inside, List.mem_cons, Entry.triggered.injEq, path, or_comm]

include valid confirms apart nulFree in
/-- A file is triggered: it is announced when none is open, and waits otherwise. -/
theorem InTurn.trigger {file : File}
    (transfers : Transferring conf files tx done pending current) (scheduled : Scheduled tx current)
    (paths : (files.map File.path).Nodup) (member : file ∈ files)
    (new : .triggered file.path ∉ tx.log) :
    InTurn conf files (tx.trigger conf file.path file.name) := by
  have queued := transfers.trigger paths member new
  have grown : tx.txFilenameQ ⊆ tx.txFilenameQ.assign file.path file.name := by
    have assigned := queued.queue
    dsimp only at assigned
    rw [assigned, transfers.queue, List.map_append]
    exact List.subset_append_left _ _
  rw [Tx.trigger, if_pos transfers.enabled, Tx.trySend, if_neg (by simp [transfers.enabled])]
  dsimp only
  cases current with
  | none =>
      obtain ⟨posted, sub, handlers, closed, -⟩ := scheduled
      have last : file ∈ pending ++ [file] := List.mem_append_right _ (List.mem_singleton_self _)
      rw [if_neg (by simp [transfers.sending])]
      refine ⟨done, pending ++ [file], some (file, []),
        queued.announce valid confirms apart nulFree last, Or.inl ⟨posted, ?_, ?_, closed, rfl⟩⟩
      · exact fun _ inside => grown (sub inside)
      · exact congrArg (· ++ [Handler.sendFile file.path]) handlers
  | some opened =>
      obtain ⟨other, data⟩ := opened
      rw [if_pos (by simp [transfers.sending])]
      refine ⟨done, pending ++ [file], some (other, data), queued, ?_⟩
      rcases scheduled with ⟨posted, sub, handlers, closed, empty⟩ | reading
      · exact Or.inl ⟨posted, fun _ inside => grown (sub inside), handlers, closed, empty⟩
      · exact Or.inr reading

/-! ## Runs -/

/-- The callback of a filename event can read its file. -/
def Readable (files : List File) (content : Option Bytes) : Option Handler → Prop
  | some (.sendFile path) => ∃ file ∈ files, file.path = path ∧ content = some file.content
  | _ => True

instance (files : List File) (content : Option Bytes) :
    ∀ handler, Decidable (Readable files content handler)
  | some (.sendFile _) => inferInstanceAs (Decidable (∃ file ∈ files, _))
  | some (.sendChunk _) => .isTrue trivial
  | some (.trySend _ _) => .isTrue trivial
  | none => .isTrue trivial

/-- The port is enabled once, each file is triggered once, and the handlers run in the order in
which they were posted; every file can be read. -/
def Sends (files : List File) (tx : Tx) : TxInput → Prop
  | .enable _ => tx.enabled = false
  | .trigger path txName =>
    .triggered path ∉ tx.log ∧ ∃ file ∈ files, file.path = path ∧ file.name = txName
  | .handler i content _ => i = 0 ∧ Readable files content tx.handlers.head?
  | .disable _ => False
  | .confirm _ _ => False
  | .confirmTimeout => False
  | .idleTimeout _ => False

instance (files : List File) (tx : Tx) : ∀ input, Decidable (Sends files tx input)
  | .enable _ => inferInstanceAs (Decidable (_ = _))
  | .trigger _ _ => inferInstanceAs (Decidable (_ ∧ ∃ file ∈ files, _))
  | .handler _ _ _ => inferInstanceAs (Decidable (_ ∧ _))
  | .disable _ => .isFalse id
  | .confirm _ _ => .isFalse id
  | .confirmTimeout => .isFalse id
  | .idleTimeout _ => .isFalse id

/-- The port is as it was built, or the files go in turn. -/
def Drains (conf : FileTransferConf) (files : List File) (tx : Tx) : Prop :=
  tx = Tx.build conf ∨ InTurn conf files tx

include valid in
theorem enable_inTurn (pick : Nat) : InTurn conf files ((Tx.build conf).enable pick) := by
  have transfers : Transferring conf files
      { Tx.build conf with enabled := true, txInProgress := false, transferReset := false }
      [] [] none :=
    { accepted := trivial
      used := fun _ member => (List.not_mem_nil member).elim
      ready := started_ready valid
      seq := rfl
      crc := rfl
      busy := rfl
      enabled := rfl
      reset := rfl
      closed := rfl
      opened := rfl
      writing := rfl
      named := fun _ _ same => by cases same
      sending := rfl
      queue := rfl
      nodup := List.nodup_nil
      known := fun _ member => (List.not_mem_nil member).elim
      triggered := fun _ _ => ⟨fun member => (List.not_mem_nil member).elim,
        fun member => (List.not_mem_nil member).elim⟩ }
  exact transfers.postNext rfl rfl pick

include valid confirms apart bound nulFree in
/-- **The files go in turn at every step.** -/
theorem step_drains (paths : (files.map File.path).Nodup) (tx : Tx) (input : TxInput)
    (drains : Drains conf files tx) (sends : Sends files tx input) :
    Drains conf files (txStep conf tx input).1 := by
  rcases drains with rfl | ⟨done, pending, current, transfers, scheduled⟩
  · cases input with
    | enable pick => exact .inr (enable_inTurn valid pick)
    | trigger path txName => exact .inl rfl
    | handler i content pick => exact .inl rfl
    | disable | confirm | confirmTimeout | idleTimeout => exact sends.elim
  · right
    cases input with
    | enable pick =>
        have off : tx.enabled = false := sends
        rw [transfers.enabled] at off
        cases off
    | trigger path txName =>
        obtain ⟨new, file, member, rfl, rfl⟩ := sends
        exact InTurn.trigger valid confirms apart nulFree transfers scheduled paths member new
    | handler i content pick =>
        obtain ⟨rfl, readable⟩ := sends
        rw [txStep]
        cases handlers : tx.handlers with
        | nil => exact ⟨done, pending, current, transfers, scheduled⟩
        | cons first rest =>
            cases first with
            | trySend path txName =>
                exact InTurn.posted valid confirms apart nulFree (path, txName) transfers scheduled
                  handlers
            | sendFile path =>
                rw [handlers] at readable
                obtain ⟨file, member, named, rfl⟩ := readable
                exact InTurn.opened valid confirms bound transfers scheduled paths handlers member
                  named pick
            | sendChunk path =>
                have chunk : Tx.runHandler conf { tx with handlers := rest } content pick
                    (.sendChunk path) = Tx.sendChunk conf { tx with handlers := rest } path pick :=
                  if_pos transfers.enabled
                have here := InTurn.chunk valid confirms bound transfers scheduled handlers pick
                rw [← chunk] at here
                exact here
    | disable | confirm | confirmTimeout | idleTimeout => exact sends.elim

include valid confirms apart bound nulFree in
theorem run_drains (paths : (files.map File.path).Nodup) {inputs : List TxInput}
    (sends : Guarded (txStep conf) (Sends files) (Tx.build conf) inputs) :
    Drains conf files (run (txStep conf) (Tx.build conf) inputs).1 :=
  guarded_invariant (Drains conf files)
    (step_drains valid confirms apart bound nulFree paths) (.inl rfl) sends

/-- **When every file was triggered and no handler is left, every file is done**, and the
receiving port in lockstep has written it. -/
theorem Drains.finished (drains : Drains conf files tx) (paths : (files.map File.path).Nodup)
    (all : ∀ file ∈ files, .triggered file.path ∈ tx.log) (none_left : tx.handlers = []) :
    ∃ done : List File, done.Perm files ∧
      closings (mirror conf tx.log).log = done.map (written conf) ∧
      openings (mirror conf tx.log).log = done.map (fun file => (written conf file).1) ∧
      (mirror conf tx.log).fout = none := by
  rcases drains with rfl | ⟨done, pending, current, transfers, scheduled⟩
  · cases files with
    | nil => exact ⟨[], .refl _, rfl, rfl, rfl⟩
    | cons file rest => exact (List.not_mem_nil (all file List.mem_cons_self)).elim
  · cases current with
    | some opened =>
        obtain ⟨file, data⟩ := opened
        rcases scheduled with ⟨posted, -, handlers, -⟩ | ⟨handlers, -⟩
        · rw [none_left] at handlers
          exact absurd handlers.symm (by simp)
        · rw [none_left] at handlers
          cases handlers
    | none =>
        obtain ⟨posted, -, handlers, -, idle⟩ := scheduled
        rw [none_left] at handlers
        have empty := idle (List.map_eq_nil_iff.mp handlers.symm)
        rw [transfers.queue, List.map_eq_nil_iff] at empty
        subst empty
        have nodup := transfers.nodup
        rw [List.append_nil] at nodup
        refine ⟨done, ?_, transfers.closed, transfers.opened, transfers.writing⟩
        apply (List.perm_ext_iff_of_nodup nodup.of_map paths.of_map).mpr
        intro file
        constructor
        · intro here
          exact transfers.known file (List.mem_append_left _ here)
        · intro member
          have here := (transfers.triggered file member).mp (all file member)
          rwa [List.append_nil] at here

end Transfers

end OpenDataCon.FileTransfer

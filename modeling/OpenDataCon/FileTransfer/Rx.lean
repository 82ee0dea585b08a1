import OpenDataCon.FileTransfer.Events
import OpenDataCon.Foundations.Resequencing

/-!
# The receiving side of the file transfer port

Events that cannot be used yet are buffered by index. The buffer is one list in the
order of arrival; the oldest event of an index is its first event with that index
(`popBuffer`). A filename opens a file, the events at the sequence numbers in turn
are written to it, and an event without data closes it, after which the next
buffered filename is taken.

The log has what the port did, newest first: the files it opened, closed and
aborted, and the confirmations it sent with the sequence number and CRC it had
reached.
-/

set_option autoImplicit false

namespace OpenDataCon.FileTransfer

/-! ## File names -/

/-- Where a token begins in a text. -/
def findToken (token : Bytes) : Bytes → Option Nat
  | [] => if token = [] then some 0 else none
  | byte :: rest =>
    if token.isPrefixOf (byte :: rest) then some 0 else (findToken token rest).map (· + 1)

/-- The template with its token replaced. -/
def templatedName (info : FilenameConf) (name : Bytes) : Bytes :=
  match findToken info.eventToken info.template with
  | some pos => info.template.take pos ++ name ++ info.template.drop (pos + info.eventToken.length)
  | none => info.template

/-- The name in a filename event, up to its first zero byte. -/
def nameOf (conf : FileTransferConf) (event : Event) : Bytes :=
  (event.payload.drop conf.crcSize).takeWhile (· ≠ 0)

/-- The name a file is written under. -/
def writtenName (conf : FileTransferConf) (event : Event) : Bytes :=
  templatedName conf.filenameInfo (nameOf conf event)

/-! ## The state -/

/-- An entry of the log. -/
inductive RxEntry where
  | opened (filename : Bytes)
  /-- The file could not be opened. -/
  | blocked (filename : Bytes)
  | closed (filename content : Bytes)
  | aborted (filename : Bytes)
  | confirmed (crob : ControlRelayOutputBlock) (seq : Nat) (crc : BitVec 16)
deriving DecidableEq, Repr

structure Rx where
  enabled : Bool := false
  seq : Nat := 0
  crc : BitVec 16 := crcCcitt []
  rxInProgress : Bool := false
  transferReset : Bool := false
  filename : Bytes := []
  /-- What was written to the file since it was opened. -/
  fout : Option Bytes := none
  rxEventBuffer : List Event := []
  log : List RxEntry := []
deriving DecidableEq, Repr

/-- What a handler calls last. -/
inductive Task where
  | processRxBuffer
  | processQdFilenames
deriving DecidableEq, Repr

/-- Take the oldest event of an index out of the buffer. -/
def popBuffer (index : Nat) (buffer : List Event) : Option (Event × List Event) :=
  Resequencing.pop Event.index index buffer

/-! ## The functions of the port -/

section Code

variable (conf : FileTransferConf)

/-- The receiving port as it is built. -/
def Rx.build : Rx := { seq := conf.sequenceIndexStart }

def Rx.bumpSequence (rx : Rx) : Rx :=
  { rx with
    seq := if conf.sequenceIndexStop < rx.seq + 1 then conf.sequenceIndexStart else rx.seq + 1 }

/-- Confirm a whole sequence. The log has the state after the sequence number moves on. -/
def Rx.confirmCheck (rx : Rx) : Rx :=
  if conf.useConfirms ∧ rx.seq = conf.sequenceIndexStop then
    { rx with log := .confirmed {} (rx.bumpSequence conf).seq rx.crc :: rx.log }
  else rx

/-- The CRC and sequence number that a filename is taken with. -/
def Rx.syncFilename (rx : Rx) (event : Event) : Rx :=
  if conf.useCRCs then
    { rx with
      seq :=
        if (rx.transferReset ∧ !conf.useConfirms) ∧ readCrc event.payload = crcCcitt [] then
          conf.sequenceIndexStart
        else rx.seq
      crc := crcCcitt event.payload (readCrc event.payload) }
  else rx

/-- The filename of a file that is not being received yet is taken. -/
def Rx.startFile (blocked : List Bytes) (rx : Rx) (event : Event) : Rx × Option Task :=
  let rx := rx.syncFilename conf event
  let filename := writtenName conf event
  let rx := { rx with filename, rxInProgress := true, transferReset := false }
  if filename ∈ blocked ∨ rx.fout ≠ none then
    ({ rx with log := .blocked filename :: rx.log }, none)
  else
    ({ rx with fout := some [], log := .opened filename :: rx.log }, some .processRxBuffer)

/-- An event at the filename index. -/
def Rx.filenameEvent (blocked : List Bytes) (rx : Rx) (event : Event) : Rx × Option Task :=
  if rx.rxInProgress then ({ rx with rxEventBuffer := rx.rxEventBuffer ++ [event] }, none)
  else if conf.useCRCs ∧ (!rx.transferReset ∨ conf.useConfirms) ∧
      readCrc event.payload ≠ rx.crc then
    (rx, some .processQdFilenames)
  else rx.startFile conf blocked event

/-- An event at a sequence number. -/
def Rx.sequenceEvent (rx : Rx) (event : Event) : Rx × Option Task :=
  let rx := { rx with rxEventBuffer := rx.rxEventBuffer ++ [event] }
  (rx, if rx.rxInProgress then some .processRxBuffer else none)

/-- The event that an event stands for: one at the EOF index has its sequence number in
its payload. -/
def effectiveEvent (event : Event) : Option Event :=
  if conf.sequenceIndexEOF = some event.index then
    (stoul event.payload).map fun index => { index, payload := [] }
  else some event

def Rx.rxEvent (blocked : List Bytes) (rx : Rx) (event : Event) : Rx × Option Task :=
  match effectiveEvent conf event with
  | none => (rx, none)
  | some event =>
    if event.index = conf.fileNameIndex then rx.filenameEvent conf blocked event
    else if conf.sequenceIndexStart ≤ event.index ∧ event.index ≤ conf.sequenceIndexStop then
      rx.sequenceEvent event
    else (rx, none)

/-- The end of a file. -/
def Rx.endFile (rx : Rx) : Rx :=
  let rx :=
    { rx with
      fout := none
      rxInProgress := false
      log := rx.fout.toList.map (RxEntry.closed rx.filename) ++ rx.log }
  (rx.confirmCheck conf).bumpSequence conf

/-- A chunk of a file. -/
def Rx.writeChunk (rx : Rx) (data : Bytes) : Rx :=
  let rx := { rx with fout := rx.fout.map (· ++ data) }
  (rx.confirmCheck conf).bumpSequence conf

/-- An event that was popped at the current sequence number. -/
def Rx.sequenceData (rx : Rx) (event : Event) : Rx × Task :=
  if event.payload.length < conf.crcSize then (rx, .processRxBuffer)
  else if conf.useCRCs ∧ readCrc event.payload ≠ rx.crc then (rx, .processRxBuffer)
  else
    let rx :=
      { rx with
        crc :=
          if conf.useCRCs then crcCcitt event.payload (readCrc event.payload) else rx.crc }
    if event.payload.length = conf.crcSize then (rx.endFile conf, .processQdFilenames)
    else (rx.writeChunk conf (event.payload.drop conf.crcSize), .processRxBuffer)

/-- Do one round of a task: pop an event and use it. -/
def Rx.round (blocked : List Bytes) (rx : Rx) : Task → Option (Rx × Option Task)
  | .processRxBuffer =>
    (popBuffer rx.seq rx.rxEventBuffer).map fun popped =>
      let next := Rx.sequenceData conf { rx with rxEventBuffer := popped.2 } popped.1
      (next.1, some next.2)
  | .processQdFilenames =>
    (popBuffer conf.fileNameIndex rx.rxEventBuffer).map fun popped =>
      Rx.rxEvent conf blocked { rx with rxEventBuffer := popped.2 } popped.1

/-- Go on until there is nothing to pop. -/
def Rx.process (blocked : List Bytes) : Nat → Rx × Option Task → Rx
  | 0, (rx, _) => rx
  | _ + 1, (rx, none) => rx
  | fuel + 1, (rx, some task) =>
    match rx.round conf blocked task with
    | none => rx
    | some next => Rx.process blocked fuel next

/-- Receive an event. Every round takes an event out of the buffer; an event that was
buffered as a filename may at most be put back once. -/
def Rx.receive (blocked : List Bytes) (rx : Rx) (event : Event) : Rx :=
  Rx.process conf blocked (2 * rx.rxEventBuffer.length + 2) (rx.rxEvent conf blocked event)

def Rx.resetTransfer (rx : Rx) : Rx :=
  if rx.transferReset then rx
  else
    let rx := { rx with transferReset := true }
    let rx :=
      if conf.useConfirms then { rx with crc := crcCcitt [], seq := conf.sequenceIndexStart }
      else rx
    if rx.rxInProgress then
      { rx with rxInProgress := false, fout := none, log := .aborted rx.filename :: rx.log }
    else rx

/-- Send a confirmation with the sequence number and CRC that are expected next. -/
def Rx.sendConfirm (rx : Rx) (status : CommandStatus) : Rx :=
  let crob : ControlRelayOutputBlock :=
    { status
      count := if rx.rxInProgress then 1 else 2
      onTimeMS := rx.seq
      offTimeMS := if conf.useCRCs then rx.crc.toNat else 0 }
  { rx with log := .confirmed crob rx.seq rx.crc :: rx.log }

def Rx.transferTimeout (rx : Rx) : Rx :=
  let rx :=
    if rx.rxInProgress ∨ rx.rxEventBuffer ≠ [] then
      if conf.useConfirms then rx.sendConfirm conf .timeout else rx.resetTransfer conf
    else if conf.useConfirms then rx.sendConfirm conf .success
    else rx
  { rx with rxEventBuffer := [] }

/-- What can happen at the port. The files that cannot be opened are given with an event. -/
inductive RxInput where
  | enable
  | disable
  | event (event : Event) (blocked : List Bytes)
  | transferTimeout
  | idleTimeout
deriving DecidableEq, Repr

def rxStep (rx : Rx) : RxInput → Rx
  | .enable => { rx with enabled := true, transferReset := false }
  | .disable => { rx.resetTransfer conf with enabled := false }
  | .event event blocked => if rx.enabled then rx.receive conf blocked event else rx
  | .transferTimeout => if rx.enabled then rx.transferTimeout conf else rx
  | .idleTimeout => rx.resetTransfer conf

end Code

end OpenDataCon.FileTransfer

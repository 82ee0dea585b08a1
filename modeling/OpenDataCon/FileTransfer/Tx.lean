import Mathlib
import OpenDataCon.FileTransfer.Events
import OpenDataCon.Foundations.Runs

/-!
# The sending side of the file transfer port

The handlers of the strand are kept in a list, from which any one may run next: the
callback of a filename event, the next chunk of a file, and a posted `TrySend`. What
follows a confirmation is kept in `confirmHandler`. A file is read as it was when it
was opened.

The log has what the port did, newest first: the calls of `TrySend` from outside, the
events of each file as they are published, and the resets of sequence and CRC.
-/

set_option autoImplicit false

namespace OpenDataCon.FileTransfer

/-! ## The state -/

abbrev Path := Bytes

/-- A file name queue, keyed by path. -/
abbrev FilenameQ := List (Path × Bytes)

def FilenameQ.keys (queue : FilenameQ) : List Path := queue.map Prod.fst

/-- `queue[path] = txName`. -/
def FilenameQ.assign (queue : FilenameQ) (path : Path) (txName : Bytes) : FilenameQ :=
  if path ∈ queue.map Prod.fst then
    queue.map fun entry => if entry.1 = path then (path, txName) else entry
  else queue ++ [(path, txName)]

def FilenameQ.erase (queue : FilenameQ) (path : Path) : FilenameQ :=
  queue.filter fun entry => entry.1 ≠ path

/-- Insert what has a new key. -/
def FilenameQ.insert (queue : FilenameQ) : FilenameQ → FilenameQ
  | [] => queue
  | entry :: rest =>
    FilenameQ.insert (if entry.1 ∈ queue.map Prod.fst then queue else queue ++ [entry]) rest

/-- The first entry, in an order of the map's own. -/
def FilenameQ.begin (queue : FilenameQ) (pick : Nat) : Option (Path × Bytes) :=
  queue[pick % queue.length]?

/-- The file stream: what is left of the open file, and whether the stream is good. -/
structure InStream where
  rest : Option Bytes := none
  good : Bool := true
deriving DecidableEq, Repr

/-- `open` after `clear`; a stream that is open already fails. -/
def InStream.open (fin : InStream) (content : Option Bytes) : InStream :=
  match fin.rest, content with
  | none, some bytes => { rest := some bytes, good := true }
  | _, _ => { fin with good := false }

def InStream.close (fin : InStream) : InStream := { fin with rest := none }

/-- What `read` gets. -/
def InStream.data (fin : InStream) (size : Nat) : Bytes :=
  if fin.good then (fin.rest.getD []).take size else []

/-- The stream after `read`; it is good no more if it has met the end. -/
def InStream.read (fin : InStream) (size : Nat) : InStream :=
  { rest := fin.rest.map fun rest => if fin.good then rest.drop size else rest
    good := fin.good ∧ size ≤ (fin.rest.getD []).length }

/-- What `ConfirmHandler` holds. -/
inductive Action where
  | none
  | nextAction
  | scheduleNextChunk (path : Path)
  | sendEOF (path : Path)
deriving DecidableEq, Repr

/-- What is to run on the strand. -/
inductive Handler where
  /-- The callback of the filename event. -/
  | sendFile (path : Path)
  | sendChunk (path : Path)
  | trySend (path : Path) (txName : Bytes)
deriving DecidableEq, Repr

/-- An entry of the log. -/
inductive Entry where
  | triggered (path : Path)
  | announced (path : Path) (event : Event)
  /-- The file was opened for reading. -/
  | opened (path : Path) (content : Bytes)
  | chunk (path : Path) (event : Event)
  | ended (path : Path) (event : Event)
  | resent (event : Event)
  | reset
deriving DecidableEq, Repr

structure Tx where
  enabled : Bool := false
  seq : Nat := 0
  crc : BitVec 16 := crcCcitt []
  txInProgress : Bool := false
  transferReset : Bool := false
  fin : InStream := {}
  txFilenameQ : FilenameQ := []
  txUncofirmedTransfers : FilenameQ := []
  txEventBuffer : List Event := []
  confirmHandler : Action := .none
  handlers : List Handler := []
  log : List Entry := []
deriving DecidableEq, Repr

/-! ## The functions of the port -/

section Code

variable (conf : FileTransferConf)

/-- The sending port as it is built. -/
def Tx.build : Tx := { seq := conf.sequenceIndexStart }

/-- `TXBufferPublishEvent`. -/
def Tx.publish (tx : Tx) (entry : Entry) (event : Event) : Tx :=
  { tx with
    txEventBuffer := if conf.useConfirms then tx.txEventBuffer ++ [event] else tx.txEventBuffer
    log := entry :: tx.log }

def nextSequence (seq : Nat) : Nat :=
  if conf.sequenceIndexStop < seq + 1 then conf.sequenceIndexStart else seq + 1

def Tx.bumpSequence (tx : Tx) : Tx := { tx with seq := nextSequence conf tx.seq }

/-- Post a `TrySend` of the first file in the queue. -/
def Tx.postNext (tx : Tx) (pick : Nat) : Tx :=
  match tx.txFilenameQ.begin pick with
  | some (path, txName) => { tx with handlers := tx.handlers ++ [.trySend path txName] }
  | none => tx

/-- The lambda at the end of a transmission. -/
def Tx.nextAction (tx : Tx) (pick : Nat) : Tx :=
  if !tx.enabled then tx
  else if tx.transferReset then
    Tx.postNext { tx with txInProgress := false, transferReset := false } pick
  else tx.postNext pick

/-- The event that ends a file. -/
def eofEvent (seq : Nat) (crc : BitVec 16) : Event :=
  match conf.sequenceIndexEOF with
  | some index => { index, payload := toDecimal seq }
  | none => { index := seq, payload := if conf.useCRCs then crcBytes crc else [] }

/-- The CRC after the event that ends a file. -/
def eofCrc (crc : BitVec 16) : BitVec 16 :=
  if conf.sequenceIndexEOF = none ∧ conf.useCRCs then crcCcitt (crcBytes crc) crc else crc

/-- The file has been sent, and waits to be confirmed if confirms are used. -/
def Tx.dequeue (tx : Tx) (path : Path) : Tx :=
  { tx with
    txFilenameQ := tx.txFilenameQ.erase path
    txUncofirmedTransfers :=
      if conf.useConfirms then
        tx.txUncofirmedTransfers.insert (tx.txFilenameQ.filter fun entry => entry.1 = path)
      else tx.txUncofirmedTransfers }

/-- Publish the end of the file, and take the file out of the queue. -/
def Tx.endFile (tx : Tx) (path : Path) : Tx :=
  let event := eofEvent conf tx.seq tx.crc
  let tx := { tx with crc := eofCrc conf tx.crc, txInProgress := false }
  Tx.dequeue conf (Tx.bumpSequence conf (tx.publish conf (.ended path event) event)) path

def Tx.sendEOF (tx : Tx) (path : Path) (pick : Nat) : Tx :=
  if tx.transferReset then tx.nextAction pick
  else
    let tx := tx.endFile conf path
    if conf.useConfirms ∧ tx.seq = conf.sequenceIndexStart then
      { tx with confirmHandler := .nextAction }
    else tx.nextAction pick

/-- Run what `ConfirmHandler` holds. -/
def Tx.runAction (tx : Tx) (action : Action) (pick : Nat) : Tx :=
  match action with
  | .none => tx
  | .nextAction => tx.nextAction pick
  | .scheduleNextChunk path =>
    if tx.enabled then { tx with handlers := tx.handlers ++ [.sendChunk path] } else tx
  | .sendEOF path => if tx.enabled then tx.sendEOF conf path pick else tx

/-- A payload with the CRC of what went before it. -/
def payloadOf (crc : BitVec 16) (data : Bytes) : Bytes :=
  if conf.useCRCs then crcBytes crc ++ data else data

/-- The CRC after a payload. -/
def crcAfter (crc : BitVec 16) (payload : Bytes) : BitVec 16 :=
  if conf.useCRCs then crcCcitt payload crc else crc

/-- Publish a chunk of the file. -/
def Tx.publishChunk (tx : Tx) (path : Path) (data : Bytes) : Tx :=
  let event : Event := { index := tx.seq, payload := payloadOf conf tx.crc data }
  let tx := { tx with crc := crcAfter conf tx.crc event.payload }
  Tx.bumpSequence conf (tx.publish conf (.chunk path event) event)

/-- Go on with the action, at once or after a confirmation. -/
def Tx.continue (tx : Tx) (action : Action) (pick : Nat) : Tx :=
  if conf.useConfirms ∧ tx.seq = conf.sequenceIndexStart then { tx with confirmHandler := action }
  else tx.runAction conf action pick

def Tx.sendChunk (tx : Tx) (path : Path) (pick : Nat) : Tx :=
  if tx.transferReset then Tx.sendEOF conf { tx with fin := tx.fin.close } path pick
  else
    let data := tx.fin.data (255 - conf.crcSize)
    let tx := { tx with fin := tx.fin.read (255 - conf.crcSize) }
    if data = [] then Tx.sendEOF conf { tx with fin := tx.fin.close } path pick
    else
      let tx := tx.publishChunk conf path data
      if tx.fin.good then tx.continue conf (.scheduleNextChunk path) pick
      else Tx.continue conf { tx with fin := tx.fin.close } (.sendEOF path) pick

/-- `StartFileTransmission` stands for a name that is empty. -/
def startFileTransmission : Bytes :=
  [0x53, 0x74, 0x61, 0x72, 0x74, 0x46, 0x69, 0x6C, 0x65, 0x54, 0x72, 0x61, 0x6E, 0x73, 0x6D,
    0x69, 0x73, 0x73, 0x69, 0x6F, 0x6E]

/-- The name under which a file is announced. -/
def announcedName (txName : Bytes) : Bytes := if txName = [] then startFileTransmission else txName

/-- Publish the name of the file; its callback sends the file. -/
def Tx.announce (tx : Tx) (path : Path) (txName : Bytes) : Tx :=
  let event : Event :=
    { index := conf.fileNameIndex, payload := payloadOf conf tx.crc (announcedName txName) }
  let tx :=
    { tx with
      txInProgress := true
      transferReset := false
      crc := crcAfter conf tx.crc event.payload
      handlers := tx.handlers ++ [Handler.sendFile path] }
  tx.publish conf (.announced path event) event

def Tx.trySend (tx : Tx) (path : Path) (txName : Bytes) : Tx :=
  if !tx.enabled then tx
  else
    let tx := { tx with txFilenameQ := tx.txFilenameQ.assign path txName }
    if tx.txInProgress then tx else tx.announce conf path txName

/-- The callback of the filename event. -/
def Tx.sendFile (tx : Tx) (path : Path) (content : Option Bytes) (pick : Nat) : Tx :=
  if !tx.enabled then tx
  else
    let tx := { tx with fin := tx.fin.open content }
    if tx.fin.good then
      Tx.sendChunk conf { tx with log := .opened path (tx.fin.rest.getD []) :: tx.log } path pick
    else
      Tx.postNext { tx with txInProgress := false, txFilenameQ := tx.txFilenameQ.erase path } pick

/-- Go back to the first sequence number and CRC, and queue what has not been confirmed. -/
def Tx.clear (tx : Tx) : Tx :=
  { tx with
    transferReset := true
    crc := crcCcitt []
    seq := conf.sequenceIndexStart
    txFilenameQ := tx.txFilenameQ.insert tx.txUncofirmedTransfers
    txUncofirmedTransfers := []
    txEventBuffer := []
    log := .reset :: tx.log }

def Tx.resetTransfer (tx : Tx) (pick : Nat) : Tx :=
  if tx.transferReset then tx
  else
    let tx := tx.clear conf
    if tx.txInProgress then
      { { tx with fin := tx.fin.close }.runAction conf tx.confirmHandler pick with
        confirmHandler := .none }
    else tx

/-- Look for the expected event in the buffer, and drop what stands before it. -/
def clearUpTo (expectedSeq : Nat) (expectedCrc : BitVec 16) : List Event → Option (List Event)
  | [] => none
  | event :: rest =>
    if event.index = expectedSeq ∨ event.index = conf.fileNameIndex then
      if expectedCrc ≠ 0 then
        if expectedCrc ≠ readCrc event.payload then clearUpTo expectedSeq expectedCrc rest
        else some (event :: rest)
      else if event.index = conf.fileNameIndex ∧
          rest.head?.map Event.index ≠ some expectedSeq then
        clearUpTo expectedSeq expectedCrc rest
      else some (event :: rest)
    else clearUpTo expectedSeq expectedCrc rest

/-- The CRC that `ClearUpTo` looks for; without CRCs there is none. -/
def expectedCrc (crob : ControlRelayOutputBlock) : BitVec 16 :=
  if conf.useCRCs then BitVec.ofNat 16 crob.offTimeMS else 0

/-- An unsolicited positive confirmation. -/
def Tx.unsolConfirm (tx : Tx) (crob : ControlRelayOutputBlock) : Tx :=
  if crob.onTimeMS = tx.seq ∧ (conf.useCRCs → crob.offTimeMS = tx.crc.toNat) then
    { tx with txEventBuffer := [], txUncofirmedTransfers := [] }
  else
    match clearUpTo conf crob.onTimeMS (expectedCrc conf crob) tx.txEventBuffer with
    | some buffer => { tx with txEventBuffer := buffer }
    | none => tx

/-- The confirmation of an entire sequence. -/
def Tx.sequenceConfirm (tx : Tx) (pick : Nat) : Tx :=
  let tx := { tx with txEventBuffer := [], txUncofirmedTransfers := [] }
  { tx.runAction conf tx.confirmHandler pick with confirmHandler := .none }

/-- Publish all that is buffered once more. -/
def Tx.resend (tx : Tx) : Tx :=
  { tx with log := tx.txEventBuffer.reverse.map Entry.resent ++ tx.log }

/-- A negative confirmation. -/
def Tx.negativeConfirm (tx : Tx) (crob : ControlRelayOutputBlock) (pick : Nat) : Tx :=
  match clearUpTo conf crob.onTimeMS (expectedCrc conf crob) tx.txEventBuffer with
  | some buffer => Tx.resend { tx with txEventBuffer := buffer }
  | none => (tx.resetTransfer conf pick).resend

/-- What a confirmation says, by its status. -/
def Tx.processConfirm (tx : Tx) (crob : ControlRelayOutputBlock) (pick : Nat) : Tx :=
  match crob.status with
  | .success => if crob.count = 2 then tx.unsolConfirm conf crob else tx.sequenceConfirm conf pick
  | .timeout => tx.negativeConfirm conf crob pick
  | .other => tx

def Tx.confirmEvent (tx : Tx) (crob : ControlRelayOutputBlock) (pick : Nat) : Tx :=
  let tx := tx.processConfirm conf crob pick
  if tx.txInProgress then tx else tx.postNext pick

def Tx.enable (tx : Tx) (pick : Nat) : Tx :=
  Tx.postNext { tx with enabled := true, txInProgress := false, transferReset := false } pick

def Tx.disable (tx : Tx) (pick : Nat) : Tx :=
  { tx.resetTransfer conf pick with enabled := false }

/-- Run a handler of the strand. -/
def Tx.runHandler (tx : Tx) (content : Option Bytes) (pick : Nat) : Handler → Tx
  | .sendFile path => tx.sendFile conf path content pick
  | .sendChunk path => if tx.enabled then tx.sendChunk conf path pick else tx
  | .trySend path txName => tx.trySend conf path txName

end Code

/-! ## What can happen at the port -/

/-- An input of the port. `pick` tells which entry of the queue comes first. -/
inductive TxInput where
  | enable (pick : Nat)
  | disable (pick : Nat)
  /-- A trigger, or a modification seen by `TxPath`. -/
  | trigger (path : Path) (txName : Bytes)
  /-- A handler of the strand runs; `content` is what can be read of its file. -/
  | handler (i : Nat) (content : Option Bytes) (pick : Nat)
  | confirm (crob : ControlRelayOutputBlock) (pick : Nat)
  /-- The confirm timer, which is started again whenever it expires. -/
  | confirmTimeout
  | idleTimeout (pick : Nat)
deriving DecidableEq, Repr

def Tx.trigger (conf : FileTransferConf) (tx : Tx) (path : Path) (txName : Bytes) : Tx :=
  if tx.enabled then Tx.trySend conf { tx with log := .triggered path :: tx.log } path txName
  else tx

def txStep (conf : FileTransferConf) (tx : Tx) : TxInput → Tx × List Unit
  | .enable pick => (tx.enable pick, [])
  | .disable pick => (tx.disable conf pick, [])
  | .trigger path txName => (tx.trigger conf path txName, [])
  | .handler i content pick =>
    match tx.handlers[i]? with
    | some handler =>
      (Tx.runHandler conf { tx with handlers := tx.handlers.eraseIdx i } content pick handler, [])
    | none => (tx, [])
  | .confirm crob pick => (if tx.enabled then tx.confirmEvent conf crob pick else tx, [])
  | .confirmTimeout => (if tx.enabled then tx.resend else tx, [])
  | .idleTimeout pick => (tx.resetTransfer conf pick, [])

end OpenDataCon.FileTransfer

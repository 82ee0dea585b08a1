import OpenDataCon.CBPort.Block
import OpenDataCon.Foundations.Runs

/-!
# Framing on a connection

The reader pushes the bytes of a stream through a window of four bytes. When
the window holds a valid block, the block joins the message under construction
and the window is emptied; an end-of-message block hands the message to be
routed. An address block always starts a new message, a data block without a
message before it is dropped, and a seventeenth block drops the message.

Reading is independent of the way the stream is cut (`run_chunks`), every
message it hands on is well formed (`readByte_wellFormed`), and well-formed
messages written one after the other are handed on as they were written
(`run_write_messages`). `readCompletionHandler_frames` states the three
together.
-/

set_option autoImplicit false

namespace OpenDataCon.CBPort

open Runs

/-- The settings of a connection that writing, reading and routing use. -/
structure CBConnection where
  isBakerDevice : Bool
  successfullyopened : Bool
  /-- The station addresses with a read callback. -/
  readCallbackMap : List Nat
deriving Repr

/-- What the reader keeps between two bytes. -/
structure ReadState where
  block : CBBlockData := {}
  message : CBMessage := []
deriving DecidableEq, Repr

namespace CBMessage

/-- The blocks of a message up to some point: an address block, then data blocks. -/
structure Started (message : CBMessage) : Prop where
  short : message.length ≤ MAX_BLOCK_COUNT
  valid : ∀ block ∈ message, block.isValidBlock = true
  address : ∀ block ∈ message.head?, block.isAddressBlock = true
  data : ∀ block ∈ message.tail, block.isDataBlock = true

/-- A complete message: the last block, and no other, carries the end-of-message bit. -/
structure WellFormed (message : CBMessage) : Prop extends Started message where
  unfinished : ∀ block ∈ message.dropLast, block.isEndOfMessageBlock = false
  finished : ∃ block ∈ message.getLast?, block.isEndOfMessageBlock = true

end CBMessage

namespace CBConnection

variable (conn : CBConnection)

/-- The bytes of a message. A Baker device has the station and the group of the
address block exchanged on the wire. -/
def write (message : CBMessage) : List (BitVec 8) :=
  match message with
  | [] => []
  | first :: rest =>
    (if conn.isBakerDevice then first.doBakerConitelSwap else first).toBinaryString ++
      rest.flatMap CBBlockData.toBinaryString

/-- A valid block joins the message under construction. -/
def takeBlock (message : CBMessage) (block : CBBlockData) : CBMessage :=
  if block.isAddressBlock then [block]
  else if message.length = 0 then message
  else if MAX_BLOCK_COUNT ≤ message.length then []
  else message ++ [block]

/-- A valid block in the window: exchange its address on a Baker device, store
it, and hand the message on when the block ends it. -/
def processBlock (message : CBMessage) (block : CBBlockData) : ReadState × List CBMessage :=
  let block :=
    if block.isAddressBlock then
      if conn.isBakerDevice then block.doBakerConitelSwap else block
    else block
  let message := takeBlock message block
  if block.isEndOfMessageBlock && message.length != 0 then
    ({ block := block.clear, message := [] }, [message])
  else ({ block := block.clear, message := message }, [])

/-- One turn of the read loop. -/
def readByte (state : ReadState) (b : BitVec 8) : ReadState × List CBMessage :=
  let block := state.block.addByteToBlock b
  if block.isValidBlock then conn.processBlock state.message block
  else ({ state with block := block }, [])

/-- One read: the messages handed to be routed, in order. -/
def readCompletionHandler (state : ReadState) (readbuf : List (BitVec 8)) :
    ReadState × List CBMessage :=
  if conn.successfullyopened then run conn.readByte state readbuf else (state, [])

/-- The stations whose callback gets a message; station zero reaches all of them. -/
def routeCBMessage (message : CBMessage) : List (Nat × CBMessage) :=
  match message with
  | [] => []
  | first :: _ =>
    if first.getStationAddress = 0 then conn.readCallbackMap.map fun station => (station, message)
    else if first.getStationAddress ∈ conn.readCallbackMap then
      [(first.getStationAddress, message)]
    else []

variable {conn}

/-! ## What is handed on -/

/-- The message under construction has begun well and has not ended. -/
structure ReadState.Open (state : ReadState) : Prop where
  started : CBMessage.Started state.message
  unfinished : ∀ block ∈ state.message, block.isEndOfMessageBlock = false

theorem open_empty (block : CBBlockData) : ReadState.Open { block := block, message := [] } where
  started :=
    { short := Nat.zero_le _
      valid := fun _ member => by cases member
      address := fun _ member => by cases member
      data := fun _ member => by cases member }
  unfinished := fun _ member => by cases member

/-- A valid block joins a message that has begun well. -/
theorem takeBlock_started {message : CBMessage} {block : CBBlockData}
    (started : CBMessage.Started message) (valid : block.isValidBlock = true) :
    CBMessage.Started (takeBlock message block) := by
  unfold takeBlock
  split
  · rename_i address
    exact
      { short := Nat.le_of_ble_eq_true rfl
        valid := fun other member => by rw [List.mem_singleton.mp member]; exact valid
        address := fun other member => by
          rw [List.head?_cons, Option.mem_some_iff] at member
          rw [← member]; exact address
        data := fun other member => by cases member }
  · split
    · exact started
    · split
      · exact (open_empty block).started
      · rename_i data some short
        obtain ⟨first, rest, rfl⟩ := List.exists_cons_of_ne_nil
          (fun none => some (by rw [none]; rfl) : message ≠ [])
        have isData : block.isDataBlock = true := by
          simpa [CBBlockData.isAddressBlock] using data
        refine ⟨?_, fun other member => ?_, started.address, fun other member => ?_⟩
        · rw [List.length_append, List.length_singleton]
          omega
        · rcases List.mem_append.mp member with old | new
          · exact started.valid other old
          · rw [List.mem_singleton.mp new]; exact valid
        · rcases List.mem_append.mp member with old | new
          · exact started.data other old
          · rw [List.mem_singleton.mp new]; exact isData

/-- Either the message stays without its last block, or the block is its last one. -/
theorem takeBlock_cases (message : CBMessage) (block : CBBlockData) :
    takeBlock message block = [] ∨
      ∃ before, (before = [] ∨ before = message) ∧ takeBlock message block = before ++ [block] := by
  unfold takeBlock
  split
  · exact Or.inr ⟨[], Or.inl rfl, rfl⟩
  · split
    · rename_i none
      exact Or.inl (List.length_eq_zero_iff.mp none)
    · split
      · exact Or.inl rfl
      · exact Or.inr ⟨message, Or.inr rfl, rfl⟩

/-- The block as it is stored, its address exchanged on a Baker device. -/
theorem stored_isValidBlock (conn : CBConnection) {block : CBBlockData}
    (valid : block.isValidBlock = true) :
    (if block.isAddressBlock then
      if conn.isBakerDevice then block.doBakerConitelSwap else block
    else block).isValidBlock = true := by
  split
  · split
    · exact CBBlockData.doBakerConitelSwap_isValidBlock valid
    · exact valid
  · exact valid

/-- **A valid block keeps the message under construction well begun, and a
message it completes is well formed.** -/
theorem processBlock_open {message : CBMessage} {block : CBBlockData}
    (before : ReadState.Open { block := block, message := message })
    (valid : block.isValidBlock = true) :
    ReadState.Open (conn.processBlock message block).1 ∧
      ∀ routed ∈ (conn.processBlock message block).2, CBMessage.WellFormed routed := by
  unfold processBlock
  have storedValid := stored_isValidBlock conn valid
  generalize (if block.isAddressBlock then
      if conn.isBakerDevice then block.doBakerConitelSwap else block
    else block) = stored at storedValid
  have started := takeBlock_started before.started storedValid
  dsimp only
  split
  · rename_i complete
    rw [Bool.and_eq_true, bne_iff_ne] at complete
    refine ⟨open_empty _, fun routed member => ?_⟩
    rw [List.mem_singleton.mp member]
    rcases takeBlock_cases message stored with none | ⟨old, origin, last⟩
    · exact absurd (by rw [none]; rfl) complete.2
    · refine ⟨started, fun other member => ?_, stored, ?_, complete.1⟩
      · rw [last, List.dropLast_concat] at member
        rcases origin with none | same
        · rw [none] at member; cases member
        · rw [same] at member; exact before.unfinished other member
      · rw [last, List.getLast?_concat]; exact rfl
  · rename_i incomplete
    rw [Bool.and_eq_true, bne_iff_ne] at incomplete
    refine ⟨⟨started, fun other member => ?_⟩, fun routed member => by cases member⟩
    rcases takeBlock_cases message stored with none | ⟨old, origin, last⟩
    · rw [none] at member; cases member
    · rw [last] at member incomplete
      rcases List.mem_append.mp member with earlier | new
      · rcases origin with none | same
        · rw [none] at earlier; cases earlier
        · rw [same] at earlier; exact before.unfinished other earlier
      · rw [List.mem_singleton.mp new]
        exact eq_false_of_ne_true fun ends => incomplete ⟨ends, by simp⟩

/-- One byte keeps the message under construction well begun, and whatever it
completes is well formed. -/
theorem readByte_wellFormed {state : ReadState} (before : ReadState.Open state) (b : BitVec 8) :
    ReadState.Open (conn.readByte state b).1 ∧
      ∀ routed ∈ (conn.readByte state b).2, CBMessage.WellFormed routed := by
  unfold readByte
  dsimp only
  split
  · exact processBlock_open ⟨before.started, before.unfinished⟩ (by assumption)
  · exact ⟨⟨before.started, before.unfinished⟩, fun routed member => by cases member⟩

theorem run_readByte_wellFormed (bytes : List (BitVec 8)) :
    ∀ routed ∈ (run conn.readByte {} bytes).2, CBMessage.WellFormed routed :=
  run_outputs ReadState.Open (fun _ b before => (readByte_wellFormed before b).1)
    (fun _ b before => (readByte_wellFormed before b).2) (open_empty {}) bytes

/-! ## What was written is read -/

/-- While the window is not full nothing is handed on. -/
theorem run_readByte_partial (block : CBBlockData) (message : CBMessage)
    (bytes : List (BitVec 8)) (room : block.builddataindex + bytes.length < 4) :
    run conn.readByte { block := block, message := message } bytes =
      ({ block := bytes.foldl CBBlockData.addByteToBlock block, message := message }, []) := by
  induction bytes generalizing block with
  | nil => rfl
  | cons b rest ih =>
      rw [List.length_cons] at room
      have index : (block.addByteToBlock b).builddataindex = block.builddataindex + 1 :=
        CBBlockData.foldl_addByteToBlock_index block [b] (by simp; omega)
      have invalid : (block.addByteToBlock b).isValidBlock = false := by
        simp [CBBlockData.isValidBlock, index]
        omega
      have first : conn.readByte { block := block, message := message } b =
          ({ block := block.addByteToBlock b, message := message }, []) := by
        simp [readByte, invalid]
      rw [run_cons, first, ih _ (by omega)]
      rfl

/-- The four bytes of a valid block, read into an empty window. -/
theorem run_readByte_toBinaryString {block : CBBlockData} (message : CBMessage)
    (valid : block.isValidBlock = true) :
    run conn.readByte { message := message } block.toBinaryString =
      conn.processBlock message block := by
  obtain ⟨-, -, full⟩ := (CBBlockData.isValidBlock_iff block).mp valid
  have whole : block.toBinaryString.foldl CBBlockData.addByteToBlock {} = block := by
    rw [CBBlockData.foldl_addByteToBlock_toBinaryString]
    cases block
    simp only at full
    rw [full]
  have split : block.toBinaryString = block.toBinaryString.take 3 ++
      [(block.data &&& 0xFF#32).setWidth 8] := rfl
  have last : ((block.toBinaryString.take 3).foldl CBBlockData.addByteToBlock {}).addByteToBlock
      ((block.data &&& 0xFF#32).setWidth 8) = block := by
    rw [split, List.foldl_append] at whole
    exact whole
  have first : run conn.readByte { message := message } (block.toBinaryString.take 3) =
      ({ block := (block.toBinaryString.take 3).foldl CBBlockData.addByteToBlock {}
         message := message }, []) :=
    run_readByte_partial {} message _ (by simp)
  rw [split, run_append, first, run_singleton]
  simp only [readByte, last, valid, if_true, List.nil_append]

/-- The data blocks of a message are stored one after the other, and the last
one hands the message on. -/
theorem run_readByte_data {message : CBMessage} (rest : CBMessage) (some : message ≠ [])
    (more : rest ≠ []) (short : message.length + rest.length ≤ MAX_BLOCK_COUNT)
    (valid : ∀ block ∈ rest, block.isValidBlock = true)
    (data : ∀ block ∈ rest, block.isDataBlock = true)
    (unfinished : ∀ block ∈ rest.dropLast, block.isEndOfMessageBlock = false)
    (finished : ∃ block ∈ rest.getLast?, block.isEndOfMessageBlock = true) :
    run conn.readByte { message := message } (rest.flatMap CBBlockData.toBinaryString) =
      ({}, [message ++ rest]) := by
  induction rest generalizing message with
  | nil => exact absurd rfl more
  | cons block later ih =>
      rw [List.length_cons] at short
      have isData := data block (by simp)
      have joins : takeBlock message block = message ++ [block] := by
        have notEmpty : message.length ≠ 0 := fun none => some (List.length_eq_zero_iff.mp none)
        have room : ¬ MAX_BLOCK_COUNT ≤ message.length := by omega
        simp [takeBlock, CBBlockData.isAddressBlock, isData, notEmpty, room]
      have first : run conn.readByte { message := message } block.toBinaryString =
          if block.isEndOfMessageBlock then ({}, [message ++ [block]])
          else ({ message := message ++ [block] }, []) := by
        rw [run_readByte_toBinaryString message (valid block (by simp))]
        simp [processBlock, CBBlockData.isAddressBlock, isData, joins, CBBlockData.clear]
      rw [List.flatMap_cons, run_append, first]
      cases later with
      | nil =>
          obtain ⟨last, isLast, ends⟩ := finished
          obtain rfl : block = last := by simpa using isLast
          simp [ends]
      | cons next others =>
          have continues : block.isEndOfMessageBlock = false := unfinished block (by simp)
          rw [continues]
          simp only [Bool.false_eq_true, if_false]
          rw [ih (by simp) (by simp) (by simp at short ⊢; omega)
            (fun other member => valid other (by simp [member]))
            (fun other member => data other (by simp [member]))
            (fun other member => unfinished other (by simp [member]))
            (by simpa using finished)]
          simp

/-- The address block of a message is read back as it was before it was written. -/
theorem run_readByte_address {block : CBBlockData} (valid : block.isValidBlock = true)
    (address : block.isAddressBlock = true) :
    run conn.readByte {}
        (if conn.isBakerDevice then block.doBakerConitelSwap else block).toBinaryString =
      if block.isEndOfMessageBlock then ({}, [[block]]) else ({ message := [block] }, []) := by
  have isAddress : block.isDataBlock = false := by
    simpa [CBBlockData.isAddressBlock] using address
  obtain ⟨-, passes, -⟩ := (CBBlockData.isValidBlock_iff block).mp valid
  cases baker : conn.isBakerDevice with
  | false =>
      simp only [Bool.false_eq_true, if_false]
      rw [run_readByte_toBinaryString [] valid]
      simp [processBlock, takeBlock, CBBlockData.isAddressBlock, isAddress, baker,
        CBBlockData.clear]
  | true =>
      simp only [if_true]
      rw [run_readByte_toBinaryString [] (CBBlockData.doBakerConitelSwap_isValidBlock valid)]
      simp [processBlock, takeBlock, CBBlockData.isAddressBlock, isAddress, baker,
        CBBlockData.clear, CBBlockData.doBakerConitelSwap_involutive passes]

/-- **A well-formed message is read back as it was written.** -/
theorem run_write {message : CBMessage} (formed : CBMessage.WellFormed message) :
    run conn.readByte {} (conn.write message) = ({}, [message]) := by
  obtain ⟨last, isLast, ends⟩ := formed.finished
  cases message with
  | nil => cases isLast
  | cons first rest =>
      have valid := formed.valid first (by simp)
      have address := formed.address first (by simp)
      simp only [write]
      rw [run_append, run_readByte_address valid address]
      cases rest with
      | nil =>
          obtain rfl : first = last := by simpa using isLast
          simp [ends]
      | cons next others =>
          have continues : first.isEndOfMessageBlock = false :=
            formed.unfinished first (by simp)
          have short := formed.short
          rw [continues]
          simp only [Bool.false_eq_true, if_false]
          rw [run_readByte_data (next :: others) (by simp) (by simp)
            (by simp at short ⊢; omega)
            (fun other member => formed.valid other (List.mem_cons_of_mem _ member)) formed.data
            (fun other member => formed.unfinished other (List.mem_cons_of_mem _ member))
            ⟨last, by simpa using isLast, ends⟩]
          simp

/-- **Well-formed messages written one after the other are read back in order.** -/
theorem run_write_messages {messages : List CBMessage}
    (formed : ∀ message ∈ messages, CBMessage.WellFormed message) :
    run conn.readByte {} (messages.flatMap conn.write) = ({}, messages) := by
  induction messages with
  | nil => rfl
  | cons message rest ih =>
      rw [List.flatMap_cons, run_append, run_write (formed message (by simp)),
        ih fun other member => formed other (by simp [member])]
      rfl

/-- On an open connection the reads of the chunks are one run over their bytes. -/
theorem run_readCompletionHandler (opened : conn.successfullyopened = true) (state : ReadState)
    (chunks : List (List (BitVec 8))) :
    run conn.readCompletionHandler state chunks = run conn.readByte state chunks.flatten := by
  have each : conn.readCompletionHandler = run conn.readByte := by
    funext state readbuf
    rw [readCompletionHandler, if_pos opened]
  rw [each, run_chunks]

/-- **The framer.** On an open connection, from the cleared state: messages
written one after the other are handed on in order however the stream is cut;
every message handed on from any stream is well formed; and the way a stream is
cut does not matter. -/
theorem readCompletionHandler_frames (conn : CBConnection)
    (opened : conn.successfullyopened = true) :
    (∀ (messages : List CBMessage) (chunks : List (List (BitVec 8))),
      (∀ message ∈ messages, CBMessage.WellFormed message) →
      chunks.flatten = messages.flatMap conn.write →
      run conn.readCompletionHandler {} chunks = ({}, messages)) ∧
    (∀ (chunks : List (List (BitVec 8))),
      ∀ routed ∈ (run conn.readCompletionHandler {} chunks).2, CBMessage.WellFormed routed) ∧
    (∀ (first second : List (List (BitVec 8))), first.flatten = second.flatten →
      run conn.readCompletionHandler {} first = run conn.readCompletionHandler {} second) := by
  refine ⟨fun messages chunks formed stream => ?_, fun chunks routed member => ?_,
    fun first second same => ?_⟩
  · rw [run_readCompletionHandler opened, stream, run_write_messages formed]
  · rw [run_readCompletionHandler opened] at member
    exact run_readByte_wellFormed _ routed member
  · rw [run_readCompletionHandler opened, run_readCompletionHandler opened, same]

/-- A scan answer of two blocks, cut after three bytes, on a Baker connection. -/
theorem readCompletionHandler_frames_scan :
    let conn : CBConnection :=
      { isBakerDevice := true, successfullyopened := true, readCallbackMap := [9] }
    let message : CBMessage :=
      [.addressBlock 9 3 FUNC_SCAN_DATA 0x123#16, .dataBlock 0x456#16 0x789#16 true]
    run conn.readCompletionHandler {} [(conn.write message).take 3, (conn.write message).drop 3] =
      ({}, [message]) := by
  intro conn message
  refine (readCompletionHandler_frames conn rfl).1 [message] _ ?_ (by simp)
  intro other member
  rw [List.mem_singleton.mp member]
  exact
    { short := by decide
      valid := by
        intro block isBlock
        rcases List.mem_cons.mp isBlock with rfl | last
        · exact CBBlockData.addressBlock_isValidBlock _ _ _ _ _
        · rw [List.mem_singleton.mp last]
          exact CBBlockData.dataBlock_isValidBlock _ _ _
      address := by simp [message, CBBlockData.isAddressBlock]
      data := by simp [message]
      unfinished := by simp [message]
      finished := by simp [message] }

end CBConnection

end OpenDataCon.CBPort

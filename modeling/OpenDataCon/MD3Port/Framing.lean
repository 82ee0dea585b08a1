import Mathlib
import OpenDataCon.Foundations.Assembly
import OpenDataCon.Foundations.BitFields
import OpenDataCon.MD3Port.MasterCommands

/-!
# Framing on an MD3 connection

A block on the wire has its four bytes, an end byte with six check bits, the
end-of-message bit and the bit of an unformatted block, and a padding byte of zero. The
reader pushes the bytes of a stream through a window of six bytes. When the window holds a valid
block, the block is taken into the message under construction and the window is emptied:
a formatted block starts a message, and an end-of-message block hands it on.

The reader is the window piped into the assembly of messages (`readByte_eq_pipe`). The window puts
out valid blocks only, from any stream (`run_window_valid`), and the blocks that were
written (`run_window_blocks`). `md3Connection_frames` states what follows for
the messages.
-/

set_option autoImplicit false

namespace OpenDataCon.MD3Port

open Runs BitFields

def EOMBIT : BitVec 8 := 0x40#8
def FOMBIT : BitVec 8 := 0x80#8

/-- A block with all it has on the wire, and how much of it has been received. -/
structure MD3Block extends MD3BlockData where
  endbyte : BitVec 8 := 0#8
  paddingbyte : BitVec 8 := 0#8
  builddataindex : Nat := 0
deriving DecidableEq, Repr

def fcstab : Array (BitVec 8) := #[
  0x00#8, 0x6c#8, 0xd8#8, 0xb4#8, 0xdc#8, 0xb0#8, 0x04#8, 0x68#8,
  0xd4#8, 0xb8#8, 0x0c#8, 0x60#8, 0x08#8, 0x64#8, 0xd0#8, 0xbc#8,
  0xc4#8, 0xa8#8, 0x1c#8, 0x70#8, 0x18#8, 0x74#8, 0xc0#8, 0xac#8,
  0x10#8, 0x7c#8, 0xc8#8, 0xa4#8, 0xcc#8, 0xa0#8, 0x14#8, 0x78#8,
  0xe4#8, 0x88#8, 0x3c#8, 0x50#8, 0x38#8, 0x54#8, 0xe0#8, 0x8c#8,
  0x30#8, 0x5c#8, 0xe8#8, 0x84#8, 0xec#8, 0x80#8, 0x34#8, 0x58#8,
  0x20#8, 0x4c#8, 0xf8#8, 0x94#8, 0xfc#8, 0x90#8, 0x24#8, 0x48#8,
  0xf4#8, 0x98#8, 0x2c#8, 0x40#8, 0x28#8, 0x44#8, 0xf0#8, 0x9c#8,
  0xa4#8, 0xc8#8, 0x7c#8, 0x10#8, 0x78#8, 0x14#8, 0xa0#8, 0xcc#8,
  0x70#8, 0x1c#8, 0xa8#8, 0xc4#8, 0xac#8, 0xc0#8, 0x74#8, 0x18#8,
  0x60#8, 0x0c#8, 0xb8#8, 0xd4#8, 0xbc#8, 0xd0#8, 0x64#8, 0x08#8,
  0xb4#8, 0xd8#8, 0x6c#8, 0x00#8, 0x68#8, 0x04#8, 0xb0#8, 0xdc#8,
  0x40#8, 0x2c#8, 0x98#8, 0xf4#8, 0x9c#8, 0xf0#8, 0x44#8, 0x28#8,
  0x94#8, 0xf8#8, 0x4c#8, 0x20#8, 0x48#8, 0x24#8, 0x90#8, 0xfc#8,
  0x84#8, 0xe8#8, 0x5c#8, 0x30#8, 0x58#8, 0x34#8, 0x80#8, 0xec#8,
  0x50#8, 0x3c#8, 0x88#8, 0xe4#8, 0x8c#8, 0xe0#8, 0x54#8, 0x38#8,
  0x24#8, 0x48#8, 0xfc#8, 0x90#8, 0xf8#8, 0x94#8, 0x20#8, 0x4c#8,
  0xf0#8, 0x9c#8, 0x28#8, 0x44#8, 0x2c#8, 0x40#8, 0xf4#8, 0x98#8,
  0xe0#8, 0x8c#8, 0x38#8, 0x54#8, 0x3c#8, 0x50#8, 0xe4#8, 0x88#8,
  0x34#8, 0x58#8, 0xec#8, 0x80#8, 0xe8#8, 0x84#8, 0x30#8, 0x5c#8,
  0xc0#8, 0xac#8, 0x18#8, 0x74#8, 0x1c#8, 0x70#8, 0xc4#8, 0xa8#8,
  0x14#8, 0x78#8, 0xcc#8, 0xa0#8, 0xc8#8, 0xa4#8, 0x10#8, 0x7c#8,
  0x04#8, 0x68#8, 0xdc#8, 0xb0#8, 0xd8#8, 0xb4#8, 0x00#8, 0x6c#8,
  0xd0#8, 0xbc#8, 0x08#8, 0x64#8, 0x0c#8, 0x60#8, 0xd4#8, 0xb8#8,
  0x80#8, 0xec#8, 0x58#8, 0x34#8, 0x5c#8, 0x30#8, 0x84#8, 0xe8#8,
  0x54#8, 0x38#8, 0x8c#8, 0xe0#8, 0x88#8, 0xe4#8, 0x50#8, 0x3c#8,
  0x44#8, 0x28#8, 0x9c#8, 0xf0#8, 0x98#8, 0xf4#8, 0x40#8, 0x2c#8,
  0x90#8, 0xfc#8, 0x48#8, 0x24#8, 0x4c#8, 0x20#8, 0x94#8, 0xf8#8,
  0x64#8, 0x08#8, 0xbc#8, 0xd0#8, 0xb8#8, 0xd4#8, 0x60#8, 0x0c#8,
  0xb0#8, 0xdc#8, 0x68#8, 0x04#8, 0x6c#8, 0x00#8, 0xb4#8, 0xd8#8,
  0xa0#8, 0xcc#8, 0x78#8, 0x14#8, 0x7c#8, 0x10#8, 0xa4#8, 0xc8#8,
  0x74#8, 0x18#8, 0xac#8, 0xc0#8, 0xa8#8, 0xc4#8, 0x70#8, 0x1c#8]

/-- Six check bits. -/
def md3CRC (data : BitVec 32) : BitVec 8 :=
  let crcChar := fcstab.getD ((data >>> 24) &&& 0xFF#32).toNat 0#8
  let crcChar := fcstab.getD (((data >>> 16) ^^^ crcChar.setWidth 32) &&& 0xFF#32).toNat 0#8
  let crcChar := fcstab.getD (((data >>> 8) ^^^ crcChar.setWidth 32) &&& 0xFF#32).toNat 0#8
  let crcChar := fcstab.getD ((data ^^^ crcChar.setWidth 32) &&& 0xFF#32).toNat 0#8
  ~~~(crcChar >>> 2) &&& 0x3F#8

def md3CRCCompare (crc1 crc2 : BitVec 8) : Bool := crc1 &&& 0x3F#8 == crc2 &&& 0x3F#8

namespace MD3Block

def isEndOfMessageBlock (block : MD3Block) : Bool := block.endbyte &&& EOMBIT == EOMBIT

def isFormattedBlock (block : MD3Block) : Bool := !(block.endbyte &&& FOMBIT == FOMBIT)

def checkSumPasses (block : MD3Block) : Bool := md3CRCCompare (md3CRC block.data) block.endbyte

/-- The end byte of a block that is built. -/
def setEndByte (block : MD3Block) (datablock lastblock : Bool) : MD3Block :=
  { block with
    endbyte := md3CRC block.data ||| (if datablock then FOMBIT else 0#8) |||
      (if lastblock then EOMBIT else 0#8)
    builddataindex := 6 }

/-- A block as it is built from its four bytes. -/
def build (block : MD3BlockData) (datablock lastblock : Bool) : MD3Block :=
  { toMD3BlockData := block : MD3Block }.setEndByte datablock lastblock

def toBinaryString (block : MD3Block) : List (BitVec 8) :=
  [(block.data >>> 24).setWidth 8, ((block.data >>> 16) &&& 0xFF#32).setWidth 8,
    ((block.data >>> 8) &&& 0xFF#32).setWidth 8, (block.data &&& 0xFF#32).setWidth 8,
    block.endbyte, 0#8]

/-- A block that is full pushes one byte out to make room for a new one. -/
def addByteToBlock (block : MD3Block) (b : BitVec 8) : MD3Block :=
  if block.builddataindex < 4 then
    { block with
      data := block.data ||| (b.setWidth 32 <<< (8 * (3 - block.builddataindex)))
      builddataindex := block.builddataindex + 1 }
  else if block.builddataindex = 4 then
    { block with endbyte := b, builddataindex := block.builddataindex + 1 }
  else if block.builddataindex = 5 then
    { block with paddingbyte := b, builddataindex := block.builddataindex + 1 }
  else
    { block with
      data := (block.data <<< 8) ||| block.endbyte.setWidth 32
      endbyte := block.paddingbyte
      paddingbyte := b }

def isValidBlock (block : MD3Block) : Bool :=
  block.checkSumPasses && block.builddataindex == 6 && block.paddingbyte == 0#8

def clear (_ : MD3Block) : MD3Block := {}

end MD3Block

/-! ## The connection -/

/-- What the reader keeps between two bytes. -/
structure ReadState where
  readCompletionHandlerMD3block : MD3Block := {}
  md3Message : List MD3Block := []
deriving DecidableEq, Repr

namespace MD3Connection

/-- The rest of a message, written by a loop that counts in a byte; without an end
within the turns that are left there is no result. -/
def writeFrom (message : List MD3Block) : Nat → BitVec 8 → Option (List (BitVec 8))
  | 0, _ => none
  | turns + 1, i =>
    match message[i.toNat]? with
    | none => some []
    | some block =>
      (writeFrom message turns (i + 1#8)).map fun bytes => block.toBinaryString ++ bytes

/-- The bytes of a message. -/
def write (turns : Nat) (message : List MD3Block) : Option (List (BitVec 8)) :=
  match message with
  | [] => some []
  | blk :: _ => (writeFrom message turns 1#8).map fun bytes => blk.toBinaryString ++ bytes

/-- One turn of the read loop. -/
def readByte (state : ReadState) (b : BitVec 8) : ReadState × List (List MD3Block) :=
  let block := state.readCompletionHandlerMD3block.addByteToBlock b
  if block.isValidBlock then
    let message :=
      if block.isFormattedBlock then [block]
      else if state.md3Message.length = 0 then state.md3Message
      else state.md3Message ++ [block]
    if block.isEndOfMessageBlock && message.length != 0 then
      ({ readCompletionHandlerMD3block := block.clear, md3Message := [] }, [message])
    else ({ readCompletionHandlerMD3block := block.clear, md3Message := message }, [])
  else ({ state with readCompletionHandlerMD3block := block }, [])

/-- One read: the messages handed to be routed, in order. -/
def readCompletionHandler (state : ReadState) (readbuf : List (BitVec 8)) :
    ReadState × List (List MD3Block) :=
  run readByte state readbuf

/-! ## The window and the messages -/

/-- The window puts out a block when it holds a valid one. -/
def window (block : MD3Block) (b : BitVec 8) : MD3Block × List MD3Block :=
  let block := block.addByteToBlock b
  if block.isValidBlock then (block.clear, [block]) else (block, [])

def assemble : List MD3Block → MD3Block → List MD3Block × List (List MD3Block) :=
  Assembly.step MD3Block.isFormattedBlock MD3Block.isEndOfMessageBlock

def parts (state : ReadState) : MD3Block × List MD3Block :=
  (state.readCompletionHandlerMD3block, state.md3Message)

theorem take_eq (message : List MD3Block) (block : MD3Block) :
    (if block.isFormattedBlock then [block]
      else if message.length = 0 then message
      else message ++ [block]) = Assembly.take MD3Block.isFormattedBlock message block := by
  unfold Assembly.take
  cases message <;> rfl

/-- **Reading is the window piped into the assembly of messages.** -/
theorem readByte_eq_pipe (state : ReadState) (b : BitVec 8) :
    (parts (readByte state b).1, (readByte state b).2) = pipe window assemble (parts state) b := by
  rcases state with ⟨block, message⟩
  unfold readByte pipe window assemble Assembly.step parts
  dsimp only
  split
  · rw [take_eq, run_singleton]
    generalize Assembly.take MD3Block.isFormattedBlock message (block.addByteToBlock b) = taken
    have empty : (taken.length != 0) = !taken.isEmpty := by
      cases taken <;> rfl
    rw [empty]
    cases (block.addByteToBlock b).isEndOfMessageBlock && !taken.isEmpty <;> rfl
  · rfl

theorem run_readByte (state : ReadState) (bytes : List (BitVec 8)) :
    (parts (run readByte state bytes).1, (run readByte state bytes).2) =
      run (pipe window assemble) (parts state) bytes :=
  run_view parts readByte_eq_pipe state bytes

end MD3Connection

namespace MD3Block

/-! ## Blocks and their bytes -/

/-- Six bytes taken into an empty block are the block they were written from. -/
theorem foldl_addByteToBlock (block : MD3Block) :
    block.toBinaryString.foldl addByteToBlock {} =
      { block with paddingbyte := 0#8, builddataindex := 6 } := by
  have word : ((((0#32 ||| (((block.data >>> 24).setWidth 8).setWidth 32 <<< 24)) |||
      ((((block.data >>> 16) &&& 0xFF#32).setWidth 8).setWidth 32 <<< 16)) |||
      ((((block.data >>> 8) &&& 0xFF#32).setWidth 8).setWidth 32 <<< 8)) |||
      (((block.data &&& 0xFF#32).setWidth 8).setWidth 32 <<< 0)) = block.data := by
    have masks : IsMask 0xFF#32 8 := isMask_ofNat 8
    apply BitVec.eq_of_getLsbD_eq
    intro i inWord
    simp only [BitVec.getLsbD_or, BitVec.getLsbD_shiftLeft, BitVec.getLsbD_setWidth,
      BitVec.getLsbD_ushiftRight, BitVec.getLsbD_and, BitVec.getLsbD_zero, masks _]
    grind
  exact congrArg (fun data => MD3Block.mk { data } block.endbyte 0#8 6) word

theorem addByteToBlock_index (block : MD3Block) (room : block.builddataindex < 6) (b : BitVec 8) :
    (block.addByteToBlock b).builddataindex = block.builddataindex + 1 := by
  unfold addByteToBlock
  split
  · rfl
  · split
    · rfl
    · split
      · rfl
      · omega

theorem isValidBlock_of_index {block : MD3Block} (notFull : block.builddataindex ≠ 6) :
    block.isValidBlock = false := by
  simp [isValidBlock, notFull]

/-- A valid block is the one that its bytes make. -/
theorem foldl_addByteToBlock_of_valid {block : MD3Block} (valid : block.isValidBlock = true) :
    block.toBinaryString.foldl addByteToBlock {} = block := by
  simp only [isValidBlock, Bool.and_eq_true, beq_iff_eq] at valid
  obtain ⟨⟨-, full⟩, zero⟩ := valid
  rw [foldl_addByteToBlock]
  rcases block with ⟨data, endbyte, paddingbyte, builddataindex⟩
  dsimp only at full zero
  rw [full, zero]

end MD3Block

namespace MD3Connection

/-! ## The window -/

/-- **What the window puts out is valid.** -/
theorem run_window_valid (block : MD3Block) (bytes : List (BitVec 8)) :
    ∀ found ∈ (run window block bytes).2, found.isValidBlock = true := by
  refine run_outputs (fun _ => True) (fun _ _ _ => trivial) ?_ trivial bytes
  intro block b _ found member
  unfold window at member
  dsimp only at member
  split at member
  · next valid =>
    rw [List.mem_singleton.mp member]
    exact valid
  · simp at member

/-- While the window is not full nothing is put out. -/
theorem run_window_partial (block : MD3Block) (bytes : List (BitVec 8))
    (room : block.builddataindex + bytes.length < 6) :
    run window block bytes = (bytes.foldl MD3Block.addByteToBlock block, []) := by
  induction bytes generalizing block with
  | nil => rfl
  | cons b rest ih =>
      rw [List.length_cons] at room
      have index := block.addByteToBlock_index (by omega) b
      have first : window block b = (block.addByteToBlock b, []) := by
        rw [window, MD3Block.isValidBlock_of_index (by omega)]
        rfl
      have room' : (block.addByteToBlock b).builddataindex + rest.length < 6 := by omega
      rw [run_cons, first, ih _ room']
      rfl

/-- The six bytes of a valid block, read into an empty window. -/
theorem run_window_toBinaryString {block : MD3Block} (valid : block.isValidBlock = true) :
    run window {} block.toBinaryString = ({}, [block]) := by
  have whole := MD3Block.foldl_addByteToBlock_of_valid valid
  have split : block.toBinaryString = block.toBinaryString.take 5 ++ [0#8] := rfl
  rw [split, List.foldl_append] at whole
  have last : ((block.toBinaryString.take 5).foldl MD3Block.addByteToBlock {}).addByteToBlock 0#8 =
      block := whole
  have first := run_window_partial {} (block.toBinaryString.take 5) (by simp [MD3Block.toBinaryString])
  rw [split, run_append, first, run_singleton, window, last, valid]
  rfl

/-- **Valid blocks are read as they were written.** -/
theorem run_window_blocks {blocks : List MD3Block}
    (valid : ∀ block ∈ blocks, block.isValidBlock = true) :
    run window {} (blocks.flatMap MD3Block.toBinaryString) = ({}, blocks) := by
  induction blocks with
  | nil => rfl
  | cons block rest ih =>
      rw [List.flatMap_cons, run_append,
        run_window_toBinaryString (valid block List.mem_cons_self),
        ih fun other member => valid other (List.mem_cons_of_mem _ member)]
      rfl

/-! ## Writing -/

theorem writeFrom_eq {message : List MD3Block} (short : message.length ≤ 255) {turns : Nat}
    {i : BitVec 8} (enough : message.length - i.toNat < turns) :
    writeFrom message turns i =
      some ((message.drop i.toNat).flatMap MD3Block.toBinaryString) := by
  induction turns generalizing i with
  | zero => omega
  | succ turns ih =>
      rw [writeFrom]
      split
      · next out =>
        rw [List.getElem?_eq_none_iff] at out
        rw [List.drop_eq_nil_of_le out]
        rfl
      · next block inside =>
        obtain ⟨bound, here⟩ := List.getElem?_eq_some_iff.mp inside
        have next : (i + 1#8).toNat = i.toNat + 1 := by
          rw [BitVec.toNat_add]
          exact Nat.mod_eq_of_lt (by simp; omega)
        rw [ih (by omega), next, List.drop_eq_getElem_cons bound, List.flatMap_cons, here]
        rfl

/-- **Up to 255 blocks are written one after the other.** -/
theorem write_eq {message : List MD3Block} (short : message.length ≤ 255) :
    write 256 message = some (message.flatMap MD3Block.toBinaryString) := by
  cases message with
  | nil => rfl
  | cons blk rest =>
      rw [write, writeFrom_eq short (by simp at short ⊢; omega)]
      rfl

/-! ## The framer -/

/-- A formatted block and data blocks after it, each of them valid; the last block, and no
other, ends the message. -/
structure WellFormed (message : List MD3Block) : Prop extends
    Assembly.WellFormed MD3Block.isFormattedBlock MD3Block.isEndOfMessageBlock message where
  valid : ∀ block ∈ message, block.isValidBlock = true

/-- The messages handed on are those assembled from what the window puts out. -/
theorem run_readByte_messages (bytes : List (BitVec 8)) :
    (run readByte {} bytes).2 = (run assemble [] (run window {} bytes).2).2 := by
  have piped := congrArg Prod.snd (run_readByte {} bytes)
  rw [run_pipe] at piped
  exact piped

theorem run_readByte_wellFormed (bytes : List (BitVec 8)) :
    ∀ routed ∈ (run readByte {} bytes).2, WellFormed routed := by
  intro routed member
  rw [run_readByte_messages] at member
  exact
    { toWellFormed := Assembly.run_wellFormed _ routed member
      valid := Assembly.run_blocks (fun block absent => by simp at absent)
        (run_window_valid {} bytes) routed member }

/-- **Well-formed messages written one after the other are read back in order.** -/
theorem run_readByte_written {messages : List (List MD3Block)}
    (formed : ∀ message ∈ messages, WellFormed message) :
    run readByte {} (messages.flatten.flatMap MD3Block.toBinaryString) = ({}, messages) := by
  have valid : ∀ block ∈ messages.flatten, block.isValidBlock = true := by
    intro block member
    obtain ⟨message, isMessage, inside⟩ := List.mem_flatten.mp member
    exact (formed message isMessage).valid block inside
  have piped := run_readByte {} (messages.flatten.flatMap MD3Block.toBinaryString)
  have assembled : run assemble [] messages.flatten = ([], messages) :=
    Assembly.run_messages fun message member => (formed message member).toWellFormed
  rw [run_pipe] at piped
  change _ = (((run window {} _).1, (run assemble [] (run window {} _).2).1),
    (run assemble [] (run window {} _).2).2) at piped
  rw [run_window_blocks valid, assembled] at piped
  obtain ⟨state, outputs⟩ := Prod.mk.inj piped
  obtain ⟨block, message⟩ := Prod.mk.inj state
  refine Prod.ext ?_ outputs
  generalize (run readByte {} _).1 = reached at block message
  cases reached
  dsimp only at block message
  rw [block, message]

/-- **The framer.** From the cleared state: well-formed messages of up to 255 blocks are
written, and are handed on as they were written, in order, however the stream is cut; every
message handed on from any stream is well formed; and the way a stream is cut does not
matter. -/
theorem md3Connection_frames :
    (∀ messages : List (List MD3Block),
      (∀ message ∈ messages, WellFormed message ∧ message.length ≤ 255) →
      ∃ written : List (List (BitVec 8)), messages.map (write 256) = written.map some ∧
        ∀ chunks : List (List (BitVec 8)), chunks.flatten = written.flatten →
          run readCompletionHandler {} chunks = ({}, messages)) ∧
    (∀ chunks : List (List (BitVec 8)),
      ∀ routed ∈ (run readCompletionHandler {} chunks).2, WellFormed routed) ∧
    (∀ first second : List (List (BitVec 8)), first.flatten = second.flatten →
      run readCompletionHandler {} first = run readCompletionHandler {} second) := by
  have whole : ∀ chunks : List (List (BitVec 8)),
      run readCompletionHandler {} chunks = run readByte {} chunks.flatten := by
    intro chunks
    have each : readCompletionHandler = run readByte := rfl
    rw [each, run_chunks]
  refine ⟨fun messages formed => ?_, fun chunks => ?_, fun first second same => ?_⟩
  · refine ⟨messages.map fun message => message.flatMap MD3Block.toBinaryString, ?_, ?_⟩
    · rw [List.map_map]
      exact List.map_congr_left fun message member => write_eq (formed message member).2
    · intro chunks stream
      have blocks : messages.flatten.flatMap MD3Block.toBinaryString =
          messages.flatMap fun message => message.flatMap MD3Block.toBinaryString := by
        rw [← List.flatMap_id, List.flatMap_assoc]
        rfl
      rw [whole, stream, ← List.flatMap_def, ← blocks]
      exact run_readByte_written fun message member => (formed message member).1
  · rw [whole]
    exact run_readByte_wellFormed _
  · rw [whole, whole, same]

/-- An answer of two blocks, cut after three bytes. -/
def twoBlocks : List MD3Block :=
  [.build { data := 0x81050100#32 } false false, .build { data := 0x12345678#32 } true true]

theorem md3Connection_frames_twoBlocks :
    ∃ written : List (List (BitVec 8)), [twoBlocks].map (write 256) = written.map some ∧
      run readCompletionHandler {} [written.flatten.take 3, written.flatten.drop 3] =
        ({}, [twoBlocks]) := by
  have formed : WellFormed twoBlocks :=
    { first := by decide +kernel
      later := by decide +kernel
      unfinished := by decide +kernel
      finished := by decide +kernel
      valid := by decide +kernel }
  obtain ⟨written, whole, frames⟩ := md3Connection_frames.1 [twoBlocks]
    (by simpa using ⟨formed, by decide⟩)
  exact ⟨written, whole, frames _ (by simp)⟩

end MD3Connection

end OpenDataCon.MD3Port

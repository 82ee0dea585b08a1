import OpenDataCon.CBPort.Block
import OpenDataCon.CBPort.SOEEvent

/-!
# The message that carries the events

The bits of the packed records are cut into words of twelve bits. The first
word goes into section B of the address block and the others in pairs into data
blocks, so the message carries twelve bits and a multiple of 24: what is missing
is sent as clear bits.

`convertSOEMessageToBitArray_convertPayloadWordsToCBMessage` is the round trip:
the master reads the bits that were packed, followed by the padding
(`paddedLength`).
-/

set_option autoImplicit false

namespace OpenDataCon.CBPort

open BitStrings

/-! ## The outstation -/

/-- One payload word, its bits set one after the other. -/
def payloadWord (bitArray : List Bool) (block : Nat) : BitVec 16 :=
  (List.range 12).foldl
    (fun payload i =>
      if block * 12 + i ≥ MaxSOEBits then payload
      else payload |||
        (if bitArray.getD (block * 12 + i) false then 1#16 else 0#16) <<< (11 - i)) 0#16

def convertBitArrayToPayloadWords (usedBits : Nat) (bitArray : List Bool) : List (BitVec 16) :=
  let blockCount := (usedBits / 12 + if usedBits % 12 = 0 then 0 else 1) % 2 ^ 8
  (List.range (if blockCount > 31 then 31 else blockCount)).map (payloadWord bitArray)

/-- The data blocks of the words after the first. -/
def payloadBlocks : List (BitVec 16) → CBMessage
  | [] => []
  | [aPayload] => [.dataBlock aPayload 0#16]
  | aPayload :: bPayload :: rest => .dataBlock aPayload bPayload :: payloadBlocks rest

/-- Mark the last block of a message. -/
def markLastBlock : CBMessage → CBMessage
  | [] => []
  | [last] => [last.markAsEndOfMessageBlock]
  | block :: rest => block :: markLastBlock rest

def convertPayloadWordsToCBMessage (header : CBBlockData) (payloadWords : List (BitVec 16)) :
    CBMessage :=
  markLastBlock
    (.addressBlock header.getStationAddress header.getGroup header.getFunctionCode
        (payloadWords.headD 0#16) ::
      payloadBlocks payloadWords.tail)

/-! ## The master -/

/-- The twelve bits of a section, the most significant bit first. -/
def sectionBits (payload : BitVec 16) : List Bool :=
  (List.range 12).map fun i => payload.getLsbD (11 - i)

/-- The bits of a message: section B of the address block, then both sections of
every data block. -/
def messageBits : CBMessage → List Bool
  | [] => []
  | header :: blocks =>
    sectionBits header.getB ++
      blocks.flatMap fun block => sectionBits block.getA ++ sectionBits block.getB

/-- A message of one block has no events. -/
def convertSOEMessageToBitArray (message : CBMessage) : Option (List Bool) :=
  if message.length = 1 then none else some (messageBits message)

/-! ## Words -/

@[simp] theorem sectionBits_zero : sectionBits 0#16 = List.replicate 12 false := by decide

/-- A bit shifted into its place. -/
theorem getLsbD_shiftedBit (bit : Bool) {shift j : Nat} (inWord : j < 12) :
    ((if bit then 1#16 else 0#16) <<< shift).getLsbD j = (decide (j = shift) && bit) := by
  rw [BitVec.getLsbD_shiftLeft]
  cases bit
  · simp
  · by_cases below : j < shift
    · simp [below, show j ≠ shift by omega]
    · by_cases here : j = shift
      · simp [here]
        omega
      · simp [here, show j - shift ≠ 0 by omega]

/-- The bits that the first turns of the loop have set. -/
theorem getLsbD_payloadWord_prefix (bitArray : List Bool) {block turns : Nat}
    (inArray : block * 12 + 12 ≤ MaxSOEBits) (few : turns ≤ 12) {j : Nat} (inWord : j < 12) :
    ((List.range turns).foldl
      (fun payload i =>
        if block * 12 + i ≥ MaxSOEBits then payload
        else payload |||
          (if bitArray.getD (block * 12 + i) false then 1#16 else 0#16) <<< (11 - i))
      0#16).getLsbD j =
      (decide (12 - turns ≤ j) && bitArray.getD (block * 12 + (11 - j)) false) := by
  induction turns with
  | zero => simp [show ¬ 12 ≤ j by omega]
  | succ turns ih =>
      have inside : ¬ block * 12 + turns ≥ MaxSOEBits := by omega
      rw [List.range_succ, List.foldl_append, List.foldl_cons, List.foldl_nil, if_neg inside,
        BitVec.getLsbD_or, ih (by omega), getLsbD_shiftedBit _ inWord]
      by_cases here : j = 11 - turns
      · rw [decide_eq_true here, decide_eq_false (by omega : ¬ 12 - turns ≤ j),
          decide_eq_true (by omega : 12 - (turns + 1) ≤ j), show 11 - j = turns by omega]
        simp
      · rw [decide_eq_false here, show decide (12 - (turns + 1) ≤ j) = decide (12 - turns ≤ j) from
          decide_eq_decide.mpr (by omega)]
        simp

/-- **The bits of a word are the window it was built from.** -/
theorem sectionBits_payloadWord (bitArray : List Bool) {block : Nat}
    (inArray : block * 12 + 12 ≤ MaxSOEBits) :
    sectionBits (payloadWord bitArray block) = window bitArray (12 * block) 12 := by
  refine List.map_congr_left fun i member => ?_
  have inWord := List.mem_range.mp member
  rw [payloadWord, getLsbD_payloadWord_prefix bitArray inArray (Nat.le_refl 12) (by omega),
    show 11 - (11 - i) = i by omega, Nat.mul_comm block 12]
  simp

/-- Windows side by side. -/
theorem flatMap_window (bitArray : List Bool) (blocks : Nat) :
    (List.range blocks).flatMap (fun block => window bitArray (12 * block) 12) =
      window bitArray 0 (12 * blocks) := by
  induction blocks with
  | zero => rfl
  | succ blocks ih =>
      rw [List.range_succ, List.flatMap_append, ih, Nat.mul_succ, window_add, Nat.zero_add]
      simp

/-- How many words are sent. -/
theorem length_convertBitArrayToPayloadWords {usedBits : Nat} (bitArray : List Bool)
    (room : usedBits ≤ MaxSOEBits) :
    (convertBitArrayToPayloadWords usedBits bitArray).length = (usedBits + 11) / 12 := by
  unfold MaxSOEBits at room
  simp only [convertBitArrayToPayloadWords, List.length_map, List.length_range]
  split <;> split <;> omega

/-- **The words carry the bits**, the last word filled up with clear bits. -/
theorem flatMap_sectionBits_payloadWords {bitArray : List Bool}
    (room : bitArray.length ≤ MaxSOEBits) :
    (convertBitArrayToPayloadWords bitArray.length bitArray).flatMap sectionBits =
      bitArray ++ List.replicate (12 * ((bitArray.length + 11) / 12) - bitArray.length) false := by
  have count := length_convertBitArrayToPayloadWords bitArray room
  simp only [convertBitArrayToPayloadWords, List.length_map, List.length_range] at count
  have inArray : 12 * ((bitArray.length + 11) / 12) ≤ MaxSOEBits := by
    unfold MaxSOEBits at room ⊢
    omega
  simp only [convertBitArrayToPayloadWords, count, List.flatMap_map]
  have windows : (List.range ((bitArray.length + 11) / 12)).flatMap
      (fun block => sectionBits (payloadWord bitArray block)) =
        (List.range ((bitArray.length + 11) / 12)).flatMap
          (fun block => window bitArray (12 * block) 12) := by
    refine List.flatMap_congr fun block member => ?_
    have small := List.mem_range.mp member
    exact sectionBits_payloadWord bitArray (by omega)
  rw [windows, flatMap_window, ← window_zero]
  congr 1
  omega

/-! ## Blocks -/

theorem markLastBlock_cons_cons (block next : CBBlockData) (rest : CBMessage) :
    markLastBlock (block :: next :: rest) = block :: markLastBlock (next :: rest) := rfl

/-- Marking the last block moves no section. -/
@[simp] theorem messageBits_markLastBlock (message : CBMessage) :
    messageBits (markLastBlock message) = messageBits message := by
  have blocks : ∀ message : CBMessage,
      (markLastBlock message).flatMap
          (fun block => sectionBits block.getA ++ sectionBits block.getB) =
        message.flatMap fun block => sectionBits block.getA ++ sectionBits block.getB := by
    intro message
    induction message with
    | nil => rfl
    | cons block rest ih =>
        cases rest with
        | nil => simp [markLastBlock]
        | cons next rest =>
            rw [markLastBlock_cons_cons, List.flatMap_cons, ih]
            rfl
  cases message with
  | nil => rfl
  | cons header rest =>
      cases rest with
      | nil => simp [markLastBlock, messageBits]
      | cons next rest => rw [markLastBlock_cons_cons, messageBits, blocks, messageBits]

@[simp] theorem length_markLastBlock (message : CBMessage) :
    (markLastBlock message).length = message.length := by
  induction message with
  | nil => rfl
  | cons block rest ih =>
      cases rest with
      | nil => rfl
      | cons next rest => simpa [markLastBlock] using ih

/-- The bits above a section are not sent. -/
@[simp] theorem sectionBits_and_mask (payload : BitVec 16) :
    sectionBits (payload &&& 0xFFF#16) = sectionBits payload := by
  refine List.map_congr_left fun i member => ?_
  have inWord := List.mem_range.mp member
  rw [BitVec.getLsbD_and, CBBlockData.isMask_section16]
  simp [show 11 - i < 12 by omega]
  omega

/-- Words in pairs; an odd word is followed by a clear one. -/
theorem flatMap_payloadBlocks (words : List (BitVec 16)) :
    (payloadBlocks words).flatMap
        (fun block => sectionBits block.getA ++ sectionBits block.getB) =
      words.flatMap sectionBits ++ List.replicate (12 * (words.length % 2)) false := by
  induction words using payloadBlocks.induct with
  | case1 => rfl
  | case2 aPayload => simp [payloadBlocks]
  | case3 aPayload bPayload rest ih =>
      have odd : (rest.length + 1 + 1) % 2 = rest.length % 2 := by omega
      simp [payloadBlocks, ih, odd]

theorem length_payloadBlocks (words : List (BitVec 16)) :
    (payloadBlocks words).length = (words.length + 1) / 2 := by
  induction words using payloadBlocks.induct with
  | case1 => rfl
  | case2 aPayload => simp [payloadBlocks]
  | case3 aPayload bPayload rest ih =>
      rw [payloadBlocks, List.length_cons, ih]
      simp only [List.length_cons]
      omega

/-- The number of bits a message of so many used bits carries. -/
def paddedLength (usedBits : Nat) : Nat := 12 + 24 * ((usedBits + 11) / 24)

/-- **The round trip of the bits**: more than twelve used bits come back, padded. -/
theorem convertSOEMessageToBitArray_convertPayloadWordsToCBMessage (header : CBBlockData)
    {bitArray : List Bool} (several : 12 < bitArray.length)
    (room : bitArray.length ≤ MaxSOEBits) :
    convertSOEMessageToBitArray (convertPayloadWordsToCBMessage header
        (convertBitArrayToPayloadWords bitArray.length bitArray)) =
      some (bitArray ++
        List.replicate (paddedLength bitArray.length - bitArray.length) false) := by
  have count := length_convertBitArrayToPayloadWords bitArray room
  have bits := flatMap_sectionBits_payloadWords room
  generalize convertBitArrayToPayloadWords bitArray.length bitArray = words at count bits
  obtain ⟨first, rest, rfl⟩ : ∃ first rest, words = first :: rest :=
    List.exists_cons_of_length_pos (by omega)
  rw [List.length_cons] at count
  have blocks : (convertPayloadWordsToCBMessage header (first :: rest)).length ≠ 1 := by
    simp only [convertPayloadWordsToCBMessage, length_markLastBlock, List.length_cons,
      List.tail_cons, length_payloadBlocks]
    omega
  rw [convertSOEMessageToBitArray, if_neg blocks, convertPayloadWordsToCBMessage,
    messageBits_markLastBlock, messageBits, flatMap_payloadBlocks, CBBlockData.getB_addressBlock,
    sectionBits_and_mask, List.headD_cons, List.tail_cons, ← List.append_assoc,
    ← List.flatMap_cons, bits, List.append_assoc, List.replicate_append_replicate]
  congr 3
  unfold paddedLength
  omega

end OpenDataCon.CBPort

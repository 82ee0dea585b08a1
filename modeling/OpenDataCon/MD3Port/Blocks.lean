import Mathlib.Tactic.IntervalCases
import OpenDataCon.Foundations.BitFields
import OpenDataCon.MD3Port.MasterCommands

/-!
# Blocks of an MD3 message

A formatted block has the direction, the station, the function, a module address and
the number of channels; a data block has two words or four bytes. What is packed into
a block is read back from it. The words of a list fill blocks two by two, and its
bytes four by four (`wordBlocks`, `byteBlocks`); unloading as many as were packed
gives the list again (`unloadWords_wordBlocks`, `unloadBytes_byteBlocks`).
-/

set_option autoImplicit false

namespace OpenDataCon.MD3Port

open BitFields

namespace MD3BlockData

def words (firstword secondword : BitVec 16) : MD3BlockData :=
  { data := (firstword.setWidth 32 <<< 16) ||| secondword.setWidth 32 }

def combineDataBytes (b1 b2 b3 b4 : BitVec 8) : BitVec 32 :=
  (b1.setWidth 32 <<< 24) ||| (b2.setWidth 32 <<< 16) ||| (b3.setWidth 32 <<< 8) |||
    b4.setWidth 32

def bytes (b1 b2 b3 b4 : BitVec 8) : MD3BlockData := { data := combineDataBytes b1 b2 b3 b4 }

def getFirstWord (block : MD3BlockData) : BitVec 16 := (block.data >>> 16).setWidth 16

def getSecondWord (block : MD3BlockData) : BitVec 16 := block.data.setWidth 16

/-- The bytes are counted from the high one. -/
def getByte (block : MD3BlockData) (b : Nat) : BitVec 8 :=
  ((block.data >>> (8 * (3 - b))) &&& 0xFF#32).setWidth 8

def getModuleAddress (block : MD3BlockData) : Nat := ((block.data >>> 8) &&& 0xFF#32).toNat

/-! ## Fields of a block -/

@[simp] theorem getFirstWord_words (first second : BitVec 16) :
    (words first second).getFirstWord = first := by
  apply BitVec.eq_of_getLsbD_eq
  intro i bound
  simp only [words, getFirstWord, BitVec.getLsbD_setWidth, BitVec.getLsbD_ushiftRight,
    BitVec.getLsbD_or, BitVec.getLsbD_shiftLeft]
  simp [bound, show 16 + i < 32 by omega, show i < 32 by omega]

@[simp] theorem getSecondWord_words (first second : BitVec 16) :
    (words first second).getSecondWord = second := by
  apply BitVec.eq_of_getLsbD_eq
  intro i bound
  simp only [words, getSecondWord, BitVec.getLsbD_setWidth, BitVec.getLsbD_or,
    BitVec.getLsbD_shiftLeft]
  simp [bound, show i < 32 by omega]

/-- The bits of four bytes, the last byte lowest. -/
theorem getLsbD_combineDataBytes (b1 b2 b3 b4 : BitVec 8) (i : Nat) :
    (combineDataBytes b1 b2 b3 b4).getLsbD i =
      if i < 8 then b4.getLsbD i
      else if i < 16 then b3.getLsbD (i - 8)
      else if i < 24 then b2.getLsbD (i - 16)
      else b1.getLsbD (i - 24) := by
  simp only [combineDataBytes, BitVec.getLsbD_or, BitVec.getLsbD_shiftLeft,
    BitVec.getLsbD_setWidth]
  by_cases first : i < 8
  · simp [first, show i < 16 by omega, show i < 24 by omega, show i < 32 by omega]
  · have beyond : b4.getLsbD i = false := BitVec.getLsbD_of_ge _ _ (by omega)
    by_cases second : i < 16
    · simp [first, second, beyond, show i < 24 by omega, show i < 32 by omega,
        show i - 8 < 32 by omega]
    · have beyond' : b3.getLsbD (i - 8) = false := BitVec.getLsbD_of_ge _ _ (by omega)
      by_cases third : i < 24
      · simp [first, second, third, beyond, beyond', show i < 32 by omega,
          show i - 16 < 32 by omega]
      · have beyond'' : b2.getLsbD (i - 16) = false := BitVec.getLsbD_of_ge _ _ (by omega)
        by_cases last : i < 32
        · simp [first, second, third, last, beyond, beyond', beyond'', show i - 24 < 32 by omega]
        · have outside : b1.getLsbD (i - 24) = false := BitVec.getLsbD_of_ge _ _ (by omega)
          simp [first, second, third, last, beyond, outside]

/-- The four bytes of a block. -/
def byteAt (b1 b2 b3 b4 : BitVec 8) : Nat → BitVec 8
  | 0 => b1
  | 1 => b2
  | 2 => b3
  | _ => b4

theorem getByte_bytes (b1 b2 b3 b4 : BitVec 8) {j : Nat} (inside : j < 4) :
    (bytes b1 b2 b3 b4).getByte j = byteAt b1 b2 b3 b4 j := by
  apply BitVec.eq_of_getLsbD_eq
  intro i bound
  have mask : (0xFF#32).getLsbD i = true := by
    interval_cases i <;> rfl
  simp only [bytes, getByte, BitVec.getLsbD_setWidth, BitVec.getLsbD_and,
    BitVec.getLsbD_ushiftRight, mask, getLsbD_combineDataBytes, bound, decide_true, Bool.true_and,
    Bool.and_true]
  interval_cases j
  · rw [if_neg (by omega), if_neg (by omega), if_neg (by omega)]
    exact congrArg b1.getLsbD (by omega)
  · rw [if_neg (by omega), if_neg (by omega), if_pos (by omega)]
    exact congrArg b2.getLsbD (by omega)
  · rw [if_neg (by omega), if_pos (by omega)]
    exact congrArg b3.getLsbD (by omega)
  · rw [if_pos (by omega)]
    exact congrArg b4.getLsbD (by omega)

/-! ## Formatted blocks -/

/-- A formatted block; on the wire the channels are counted from zero. -/
def formatted (stationAddress : Nat) (mastertostation : Bool)
    (functioncode moduleaddress channels : Nat) : MD3BlockData :=
  { data := combineFormattedBytes mastertostation (BitVec.ofNat 8 stationAddress)
      (BitVec.ofNat 8 functioncode) (BitVec.ofNat 8 moduleaddress) (BitVec.ofNat 8 (channels - 1)) }

/-- Set the flags: remote status, time tagged events and digital changes. -/
def setFlags (block : MD3BlockData) (RSF HRP DCP : Bool) : MD3BlockData :=
  let flags : BitVec 32 :=
    (if RSF then 0x40#32 else 0#32) ||| (if HRP then 0x20#32 else 0#32) |||
      (if DCP then 0x10#32 else 0#32)
  { data := (block.data &&& ~~~(0x70#32)) ||| flags }

/-- The flags take the bits from 4 to 6. -/
theorem getLsbD_setFlags (block : MD3BlockData) (RSF HRP DCP : Bool) {i : Nat}
    (outside : i < 4 ∨ 7 ≤ i) :
    (block.setFlags RSF HRP DCP).data.getLsbD i = block.data.getLsbD i := by
  have clear : ∀ word : BitVec 32, word = 0x70#32 ∨ word = 0x40#32 ∨ word = 0x20#32 ∨
      word = 0x10#32 ∨ word = 0#32 → word.getLsbD i = false := by
    intro word known
    by_cases inWord : i < 32
    · rcases known with rfl | rfl | rfl | rfl | rfl <;> interval_cases i <;> first | rfl | omega
    · exact BitVec.getLsbD_of_ge _ _ (by omega)
  have flag : ∀ (on : Bool) (word : BitVec 32), word.getLsbD i = false →
      (if on then word else 0#32).getLsbD i = false := by
    intro on word zero
    cases on
    · exact clear _ (by simp)
    · exact zero
  by_cases inWord : i < 32
  · simp only [setFlags, BitVec.getLsbD_or, BitVec.getLsbD_and, BitVec.getLsbD_not, inWord,
      decide_true, Bool.true_and]
    rw [clear 0x70#32 (by simp), flag RSF _ (clear _ (by simp)), flag HRP _ (clear _ (by simp)),
      flag DCP _ (clear _ (by simp))]
    simp
  · rw [BitVec.getLsbD_of_ge _ _ (by omega), BitVec.getLsbD_of_ge _ _ (by omega)]

/-- A field of a word whose bits are those of a byte. -/
theorem readField_toNat {data mask : BitVec 32} {byte : BitVec 8} {offset width : Nat}
    (masks : IsMask mask width) (small : width ≤ 8)
    (bits : ∀ i < width, data.getLsbD (offset + i) = byte.getLsbD i) :
    (readField data mask offset).toNat = byte.toNat % 2 ^ width := by
  have same : readField data mask offset = (byte.setWidth width).setWidth 32 := by
    apply BitVec.eq_of_getLsbD_eq
    intro i inWord
    rw [getLsbD_readField masks]
    simp only [BitVec.getLsbD_setWidth, inWord, decide_true, Bool.true_and]
    by_cases inside : i < width
    · simp [inside, bits i inside]
    · simp [inside]
  rw [same, BitVec.toNat_setWidth, BitVec.toNat_setWidth]
  have bound : 2 ^ width ≤ 2 ^ 8 := Nat.pow_le_pow_right (by decide) small
  have := Nat.mod_lt byte.toNat (Nat.two_pow_pos width)
  exact Nat.mod_eq_of_lt (by omega)

theorem isMasterToStationMessage_eq (block : MD3BlockData) :
    block.isMasterToStationMessage = !block.data.getLsbD 31 := by
  have top : (0x80000000#32) = BitVec.twoPow 32 31 := by decide
  rw [isMasterToStationMessage, top, BitVec.and_twoPow]
  split
  · next on => simp [on]
  · next off =>
    have off' : block.data.getLsbD 31 = false := by simpa using off
    rw [off']
    decide

section Fields

variable (stationAddress : Nat) (mastertostation : Bool) (functioncode moduleaddress channels : Nat)

theorem getLsbD_formatted (i : Nat) :
    (formatted stationAddress mastertostation functioncode moduleaddress channels).data.getLsbD i =
      if i < 8 then (BitVec.ofNat 8 (channels - 1)).getLsbD i
      else if i < 16 then (BitVec.ofNat 8 moduleaddress).getLsbD (i - 8)
      else if i < 24 then (BitVec.ofNat 8 functioncode).getLsbD (i - 16)
      else ((if mastertostation then 0x00#8 else 0x80#8) |||
        (BitVec.ofNat 8 stationAddress &&& 0x7f#8)).getLsbD (i - 24) :=
  getLsbD_combineDataBytes _ _ _ _ i

@[simp] theorem getFunctionCode_formatted :
    (formatted stationAddress mastertostation functioncode moduleaddress channels).getFunctionCode =
      functioncode % 256 := by
  have field : (readField (formatted stationAddress mastertostation functioncode moduleaddress
      channels).data 0xFF#32 16).toNat = (BitVec.ofNat 8 functioncode).toNat % 2 ^ 8 := by
    refine readField_toNat (isMask_ofNat 8) (Nat.le_refl _) fun i small => ?_
    rw [getLsbD_formatted, if_neg (by omega), if_neg (by omega), if_pos (by omega)]
    exact congrArg _ (by omega)
  rw [BitVec.toNat_ofNat, Nat.mod_mod] at field
  exact field

@[simp] theorem getModuleAddress_formatted :
    (formatted stationAddress mastertostation functioncode moduleaddress channels).getModuleAddress =
      moduleaddress % 256 := by
  have field : (readField (formatted stationAddress mastertostation functioncode moduleaddress
      channels).data 0xFF#32 8).toNat = (BitVec.ofNat 8 moduleaddress).toNat % 2 ^ 8 := by
    refine readField_toNat (isMask_ofNat 8) (Nat.le_refl _) fun i small => ?_
    rw [getLsbD_formatted, if_neg (by omega), if_pos (by omega)]
    exact congrArg _ (by omega)
  rw [BitVec.toNat_ofNat, Nat.mod_mod] at field
  exact field

theorem getChannels_formatted (bounds : 1 ≤ channels ∧ channels ≤ 16) :
    (formatted stationAddress mastertostation functioncode moduleaddress channels).getChannels =
      channels := by
  have field : (readField (formatted stationAddress mastertostation functioncode moduleaddress
      channels).data 0x0F#32 0).toNat = (BitVec.ofNat 8 (channels - 1)).toNat % 2 ^ 4 := by
    refine readField_toNat (isMask_ofNat 4) (by decide) fun i small => ?_
    rw [getLsbD_formatted, if_pos (by omega)]
    exact congrArg _ (by omega)
  have low : ((formatted stationAddress mastertostation functioncode moduleaddress
      channels).data &&& 0x0F#32).toNat = channels - 1 := by
    rw [readField, BitVec.ushiftRight_zero, BitVec.toNat_ofNat] at field
    omega
  rw [getChannels, low]
  omega

end Fields

/-! ## The flags do not matter to the other fields -/

section Flags

variable (block : MD3BlockData) (RSF HRP DCP : Bool)

theorem readField_setFlags (offset : Nat) {mask : BitVec 32} {width : Nat} (masks : IsMask mask width)
    (outside : offset + width ≤ 4 ∨ 7 ≤ offset) :
    readField (block.setFlags RSF HRP DCP).data mask offset = readField block.data mask offset := by
  apply BitVec.eq_of_getLsbD_eq
  intro i inWord
  rw [getLsbD_readField masks, getLsbD_readField masks]
  by_cases inside : i < width
  · rw [getLsbD_setFlags _ _ _ _ (by omega)]
  · simp [inside]

@[simp] theorem getFunctionCode_setFlags :
    (block.setFlags RSF HRP DCP).getFunctionCode = block.getFunctionCode :=
  congrArg BitVec.toNat (readField_setFlags block RSF HRP DCP 16 (isMask_ofNat 8) (.inr (by decide)))

@[simp] theorem getModuleAddress_setFlags :
    (block.setFlags RSF HRP DCP).getModuleAddress = block.getModuleAddress :=
  congrArg BitVec.toNat (readField_setFlags block RSF HRP DCP 8 (isMask_ofNat 8) (.inr (by decide)))

@[simp] theorem getChannels_setFlags :
    (block.setFlags RSF HRP DCP).getChannels = block.getChannels := by
  have field := readField_setFlags block RSF HRP DCP 0 (isMask_ofNat 4) (.inl (by decide))
  rw [readField, readField, BitVec.ushiftRight_zero, BitVec.ushiftRight_zero] at field
  exact congrArg (fun word : BitVec 32 => word.toNat + 1) field

end Flags

theorem getChannels_bounds (block : MD3BlockData) :
    1 ≤ block.getChannels ∧ block.getChannels ≤ 16 := by
  have field : (readField block.data 0x0F#32 0).toNat < 16 := by
    rw [readField, BitVec.toNat_and]
    exact Nat.lt_of_le_of_lt Nat.and_le_right (by decide)
  rw [readField, BitVec.ushiftRight_zero] at field
  rw [getChannels]
  omega

theorem getModuleAddress_lt (block : MD3BlockData) : block.getModuleAddress < 256 := by
  rw [getModuleAddress, BitVec.toNat_and]
  exact Nat.lt_of_le_of_lt Nat.and_le_right (by decide)

end MD3BlockData

open MD3BlockData

/-! ## Words -/

/-- Two words share a block; the last one may be filled with zero. -/
def wordBlocks : List (BitVec 16) → MD3Message
  | [] => []
  | [first] => [words first 0#16]
  | first :: second :: rest => words first second :: wordBlocks rest

/-- Unload a block: its second word counts only if there are channels left. -/
def unloadWordBlock (channels : Nat) (values : List (BitVec 16)) (block : MD3BlockData) :
    List (BitVec 16) :=
  let values := values ++ [block.getFirstWord]
  if values.length < channels then values ++ [block.getSecondWord] else values

def unloadWords (channels : Nat) (blocks : MD3Message) : List (BitVec 16) :=
  blocks.foldl (unloadWordBlock channels) []

theorem length_wordBlocks (values : List (BitVec 16)) :
    (wordBlocks values).length = values.length / 2 + values.length % 2 := by
  fun_induction wordBlocks values with
  | case1 => rfl
  | case2 first => simp
  | case3 first second rest ih =>
      simp only [List.length_cons, ih]
      omega

/-- **The words that were packed are unloaded.** -/
theorem unloadWords_wordBlocks (values : List (BitVec 16)) :
    unloadWords values.length (wordBlocks values) = values := by
  have unload : ∀ before : List (BitVec 16),
      (wordBlocks values).foldl (unloadWordBlock (before.length + values.length)) before =
        before ++ values := by
    fun_induction wordBlocks values with
    | case1 => simp
    | case2 first =>
        intro before
        simp [unloadWordBlock]
    | case3 first second rest ih =>
        intro before
        have more : (before ++ [first, second]).length + rest.length =
            before.length + (first :: second :: rest).length := by
          simp only [List.length_append, List.length_cons, List.length_nil]
          omega
        have next : unloadWordBlock (before.length + (first :: second :: rest).length) before
            (words first second) = before ++ [first, second] := by
          simp [unloadWordBlock]
        rw [List.foldl_cons, next, ← more, ih]
        simp
  have whole := unload []
  simpa [unloadWords] using whole

/-! ## Bytes -/

/-- Four bytes share a block; the last one may be filled with zeros. -/
def byteBlocks : List (BitVec 8) → MD3Message
  | [] => []
  | [b1] => [bytes b1 0#8 0#8 0#8]
  | [b1, b2] => [bytes b1 b2 0#8 0#8]
  | [b1, b2, b3] => [bytes b1 b2 b3 0#8]
  | b1 :: b2 :: b3 :: b4 :: rest => bytes b1 b2 b3 b4 :: byteBlocks rest

/-- Unload the bytes of a block, until there are no channels left. -/
def unloadBytesOf (channels : Nat) (block : MD3BlockData) (values : List (BitVec 8)) :
    List Nat → List (BitVec 8)
  | [] => values
  | j :: rest =>
    let values := values ++ [block.getByte j]
    if channels ≤ values.length then values else unloadBytesOf channels block values rest

def unloadBytes (channels : Nat) (blocks : MD3Message) : List (BitVec 8) :=
  blocks.foldl (fun values block => unloadBytesOf channels block values [0, 1, 2, 3]) []

/-- **The bytes that were packed are unloaded.** -/
theorem unloadBytes_byteBlocks (values : List (BitVec 8)) :
    unloadBytes values.length (byteBlocks values) = values := by
  have unload : ∀ before : List (BitVec 8),
      (byteBlocks values).foldl (fun read block =>
          unloadBytesOf (before.length + values.length) block read [0, 1, 2, 3]) before =
        before ++ values := by
    fun_induction byteBlocks values with
    | case1 => simp
    | case2 b1 =>
        intro before
        simp [unloadBytesOf, getByte_bytes, byteAt]
    | case3 b1 b2 =>
        intro before
        simp [unloadBytesOf, getByte_bytes, byteAt]
    | case4 b1 b2 b3 =>
        intro before
        simp [unloadBytesOf, getByte_bytes, byteAt]
    | case5 b1 b2 b3 b4 rest ih =>
        intro before
        have more : (before ++ [b1, b2, b3, b4]).length + rest.length =
            before.length + (b1 :: b2 :: b3 :: b4 :: rest).length := by
          simp only [List.length_append, List.length_cons, List.length_nil]
          omega
        have next : unloadBytesOf (before.length + (b1 :: b2 :: b3 :: b4 :: rest).length)
            (bytes b1 b2 b3 b4) before [0, 1, 2, 3] = before ++ [b1, b2, b3, b4] := by
          simp [unloadBytesOf, getByte_bytes, byteAt]
        rw [List.foldl_cons, next, ← more, ih]
        simp
  have whole := unload []
  simpa [unloadBytes] using whole

end OpenDataCon.MD3Port

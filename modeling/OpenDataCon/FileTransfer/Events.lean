import Mathlib.Data.BitVec
import Mathlib.Data.List.TakeWhile
import Mathlib.Data.Nat.Digits.Lemmas

/-!
# Configuration and events of the file transfer port

A file is announced by an event at the filename index, sent as events at the
sequence indices in turn, and ended by an event without data. With CRCs every
payload begins with the chained CRC of all payloads before it
(`readCrc_crcBytes`). Without, the end may instead be an event at an index of its
own, with the sequence number in ASCII as its payload (`stoul_toDecimal`).
-/

set_option autoImplicit false

namespace OpenDataCon.FileTransfer

abbrev Bytes := List UInt8

instance : LawfulBEq Bytes := inferInstance

/-! ## The chained CRC -/

/-- One bit of `crc_ccitt`. -/
def crcBit (poly crc : BitVec 16) : BitVec 16 :=
  if crc &&& 0x8000#16 = 0#16 then crc <<< 1 else (crc <<< 1) ^^^ poly

/-- One byte of `crc_ccitt`. -/
def crcByte (poly crc : BitVec 16) (byte : UInt8) : BitVec 16 :=
  (crcBit poly)^[8] (crc ^^^ (byte.toBitVec.setWidth 16 <<< 8))

def crcCcitt (data : Bytes) (crc : BitVec 16 := 0xFFFF#16) (poly : BitVec 16 := 0x1021#16) :
    BitVec 16 :=
  data.foldl (crcByte poly) crc

/-- The bytes of a CRC in memory, the low one first. -/
def crcBytes (crc : BitVec 16) : Bytes :=
  [UInt8.ofBitVec (crc.setWidth 8), UInt8.ofBitVec ((crc >>> 8).setWidth 8)]

/-- The CRC at the beginning of a payload. -/
def readCrc : Bytes → BitVec 16
  | low :: high :: _ => high.toBitVec.setWidth 16 <<< 8 ||| low.toBitVec.setWidth 16
  | _ => 0

/-- A CRC survives its way through a payload. -/
theorem readCrc_crcBytes (crc : BitVec 16) (data : Bytes) :
    readCrc (crcBytes crc ++ data) = crc := by
  change (((crc >>> 8).setWidth 8).setWidth 16 <<< 8 ||| (crc.setWidth 8).setWidth 16) = crc
  apply BitVec.eq_of_getLsbD_eq
  intro i bound
  simp only [BitVec.getLsbD_or, BitVec.getLsbD_shiftLeft, BitVec.getLsbD_setWidth,
    BitVec.getLsbD_ushiftRight]
  by_cases low : i < 8
  · simp [low, bound]
  · simp [low, bound, show i - 8 < 16 by omega, show i - 8 < 8 by omega,
      show 8 + (i - 8) = i by omega]

@[simp] theorem length_crcBytes (crc : BitVec 16) : (crcBytes crc).length = 2 := rfl

/-! ## Texts and numbers in ASCII -/

def ascii (text : String) : Bytes := text.toList.map Char.toUInt8

/-- `std::to_string`. -/
def toDecimal (n : Nat) : Bytes :=
  if n = 0 then [0x30] else ((Nat.digits 10 n).map fun digit => UInt8.ofNat (0x30 + digit)).reverse

def isSpace (byte : UInt8) : Bool :=
  byte.toNat == 0x20 || (0x09 ≤ byte.toNat && byte.toNat ≤ 0x0D)

def isDigit (byte : UInt8) : Bool := 0x30 ≤ byte.toNat && byte.toNat ≤ 0x39

/-- The digits at the beginning of a text, as a number. -/
def digitsValue (text : Bytes) : Option Nat :=
  let digits := text.takeWhile isDigit
  if digits = [] then none
  else
    let value := digits.foldl (fun value digit => value * 10 + (digit.toNat - 0x30)) 0
    if value < 2 ^ 64 then some value else none

/-- `std::stoul`: leading space and a sign are allowed, what follows the digits is ignored,
and a negative number wraps around. -/
def stoul (text : Bytes) : Option Nat :=
  match text.dropWhile isSpace with
  | 0x2B :: digits => digitsValue digits
  | 0x2D :: digits => (digitsValue digits).map fun value => (2 ^ 64 - value) % 2 ^ 64
  | digits => digitsValue digits

theorem digit_toNat {digit : Nat} (small : digit < 10) :
    (UInt8.ofNat (0x30 + digit)).toNat = 0x30 + digit := by
  rw [UInt8.toNat_ofNat']
  exact Nat.mod_eq_of_lt (by omega)

theorem isDigit_ofNat {digit : Nat} (small : digit < 10) :
    isDigit (UInt8.ofNat (0x30 + digit)) = true := by
  simp only [isDigit, Bool.and_eq_true, decide_eq_true_eq, digit_toNat small]
  omega

/-- A text of digits is read whole. -/
theorem digitsValue_reverse {digits : List Nat} (small : ∀ digit ∈ digits, digit < 10)
    (some_digit : digits ≠ []) (bound : Nat.ofDigits 10 digits < 2 ^ 64) :
    digitsValue (digits.map fun digit => UInt8.ofNat (0x30 + digit)).reverse =
      some (Nat.ofDigits 10 digits) := by
  have all : (digits.map fun digit => UInt8.ofNat (0x30 + digit)).reverse.takeWhile isDigit =
      (digits.map fun digit => UInt8.ofNat (0x30 + digit)).reverse := by
    apply List.takeWhile_eq_self_iff.mpr
    intro byte member
    obtain ⟨digit, inside, rfl⟩ := List.mem_map.mp (List.mem_reverse.mp member)
    exact isDigit_ofNat (small digit inside)
  have value : (digits.map fun digit => UInt8.ofNat (0x30 + digit)).reverse.foldl
      (fun value digit => value * 10 + (digit.toNat - 0x30)) 0 = Nat.ofDigits 10 digits := by
    rw [List.foldl_reverse, List.foldr_map, Nat.ofDigits_eq_foldr]
    refine List.foldr_ext _ _ _ ?_
    intro digit member value
    rw [digit_toNat (small digit member)]
    simp only [Nat.cast_id]
    omega
  simp only [digitsValue, all, value, List.reverse_eq_nil_iff, List.map_eq_nil_iff, some_digit,
    bound, if_true, if_false]

/-- **A sequence number is read back as it was written.** -/
theorem stoul_toDecimal {n : Nat} (bound : n < 2 ^ 64) : stoul (toDecimal n) = some n := by
  by_cases zero : n = 0
  · subst zero
    decide
  · have small : ∀ digit ∈ Nat.digits 10 n, digit < 10 :=
      fun digit member => Nat.digits_lt_base (by decide) member
    have some_digit : Nat.digits 10 n ≠ [] := Nat.digits_ne_nil_iff_ne_zero.mpr zero
    have whole : digitsValue (toDecimal n) = some n := by
      rw [toDecimal, if_neg zero, digitsValue_reverse small some_digit
        (by rwa [Nat.ofDigits_digits]), Nat.ofDigits_digits]
    have digit : ∀ byte ∈ toDecimal n, isDigit byte = true := by
      intro byte member
      rw [toDecimal, if_neg zero, List.mem_reverse] at member
      obtain ⟨digit, inside, rfl⟩ := List.mem_map.mp member
      exact isDigit_ofNat (small digit inside)
    cases text : toDecimal n with
    | nil => rw [text] at whole; cases whole
    | cons first rest =>
        rw [text] at whole digit
        have number := digit first List.mem_cons_self
        simp only [isDigit, Bool.and_eq_true, decide_eq_true_eq] at number
        have noSpace : isSpace first = false := by
          simp only [isSpace, Bool.or_eq_false_iff, beq_eq_false_iff_ne, Bool.and_eq_false_iff,
            decide_eq_false_iff_not]
          omega
        rw [stoul, List.dropWhile_cons_of_neg (by simp [noSpace])]
        split
        · next sign => cases sign; exact absurd number (by decide)
        · next sign => cases sign; exact absurd number (by decide)
        · exact whole

/-! ## Events and configuration -/

/-- An octet string event. -/
structure Event where
  index : Nat
  payload : Bytes
deriving DecidableEq, Repr

/-- The status of a confirmation. -/
inductive CommandStatus where
  | success
  | timeout
  | other
deriving DecidableEq, Repr

/-- The control relay output block of a confirmation. -/
structure ControlRelayOutputBlock where
  status : CommandStatus := .success
  count : Nat := 1
  onTimeMS : Nat := 100
  offTimeMS : Nat := 100
deriving DecidableEq, Repr

/-- The token of a filename template is `<NAME>` unless another one is set. -/
structure FilenameConf where
  template : Bytes := [0x3C, 0x4E, 0x41, 0x4D, 0x45, 0x3E]
  eventToken : Bytes := [0x3C, 0x4E, 0x41, 0x4D, 0x45, 0x3E]
deriving DecidableEq, Repr

/-- The settings that both directions use. -/
structure FileTransferConf where
  sequenceIndexStart : Nat := 0
  sequenceIndexStop : Nat := 0
  sequenceIndexEOF : Option Nat := none
  fileNameIndex : Nat := 0
  filenameInfo : FilenameConf := {}
  useCRCs : Bool := true
  useConfirms : Bool := true
deriving DecidableEq, Repr

def FileTransferConf.crcSize (conf : FileTransferConf) : Nat := if conf.useCRCs then 2 else 0

/-- What `Build` of a sending port leaves: it throws when indices clash, and does not use the
EOF index together with CRCs. -/
structure FileTransferConf.Valid (conf : FileTransferConf) : Prop where
  range : conf.sequenceIndexStart ≤ conf.sequenceIndexStop
  filename : ¬ (conf.sequenceIndexStart ≤ conf.fileNameIndex ∧
    conf.fileNameIndex ≤ conf.sequenceIndexStop)
  eof : ∀ index, conf.sequenceIndexEOF = some index →
    ¬ (conf.sequenceIndexStart ≤ index ∧ index ≤ conf.sequenceIndexStop)
  crcs : conf.useCRCs = true → conf.sequenceIndexEOF = none

end OpenDataCon.FileTransfer

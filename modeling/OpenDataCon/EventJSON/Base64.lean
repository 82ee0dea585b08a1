import OpenDataCon.FileTransfer.Events
import OpenDataCon.Foundations.BitStrings

/-!
# Base64

Three bytes are written as four characters, and a last group of one or two bytes is
filled up with `=`. The decoder finds out from the length and the last two
characters how many bytes the last group has. What the encoder writes is decoded
again (`b64decode_b64encode`).
-/

set_option autoImplicit false

namespace OpenDataCon.EventJSON

open FileTransfer (Bytes ascii)

/-! ## The alphabet -/

def B64chars : Bytes := ascii "ABCDEFGHIJKLMNOPQRSTUVWXYZabcdefghijklmnopqrstuvwxyz0123456789+/"

/-- `B64index`; what is not written out is zero. -/
def B64index : List Nat :=
  [0,  0,  0,  0,  0,  0,  0,  0,  0,  0,  0,  0,  0,  0,  0,  0,
   0,  0,  0,  0,  0,  0,  0,  0,  0,  0,  0,  0,  0,  0,  0,  0,
   0,  0,  0,  0,  0,  0,  0,  0,  0,  0,  0,  62, 63, 62, 62, 63,
   52, 53, 54, 55, 56, 57, 58, 59, 60, 61, 0,  0,  0,  0,  0,  0,
   0,  0,  1,  2,  3,  4,  5,  6,  7,  8,  9,  10, 11, 12, 13, 14,
   15, 16, 17, 18, 19, 20, 21, 22, 23, 24, 25, 0,  0,  0,  0,  63,
   0,  26, 27, 28, 29, 30, 31, 32, 33, 34, 35, 36, 37, 38, 39, 40,
   41, 42, 43, 44, 45, 46, 47, 48, 49, 50, 51]

/-- A character of the alphabet. -/
def char64 (value : Nat) : UInt8 := B64chars.getD value 0

/-- The value of a byte. -/
def index64 (byte : UInt8) : Nat := B64index.getD byte.toNat 0

/-! ## Encoder and decoder -/

/-- `b64encode`, one group after the other. -/
def b64encode : Bytes → Bytes
  | first :: second :: third :: rest =>
    let n := first.toNat <<< 16 ||| second.toNat <<< 8 ||| third.toNat
    char64 (n >>> 18) :: char64 (n >>> 12 &&& 0x3F) :: char64 (n >>> 6 &&& 0x3F) ::
      char64 (n &&& 0x3F) :: b64encode rest
  | [first, second] =>
    let n := first.toNat <<< 8 ||| second.toNat
    [char64 (n >>> 10 &&& 0x3F), char64 (n >>> 4 &&& 0x3F), char64 (n <<< 2 &&& 0x3F), 0x3D]
  | [first] =>
    [char64 (first.toNat >>> 2), char64 (first.toNat <<< 4 &&& 0x3F), 0x3D, 0x3D]
  | [] => []

/-- The whole groups. -/
def decodeGroups : Bytes → Bytes
  | first :: second :: third :: fourth :: rest =>
    let n := index64 first <<< 18 ||| index64 second <<< 12 ||| index64 third <<< 6 |||
      index64 fourth
    UInt8.ofNat (n >>> 16) :: UInt8.ofNat (n >>> 8 &&& 0xFF) :: UInt8.ofNat (n &&& 0xFF) ::
      decodeGroups rest
  | _ => []

/-- The group of one or two bytes, and whether it has two. -/
def decodeLast (two : Bool) (group : Bytes) : Bytes :=
  let n := index64 (group.getD 0 0) <<< 18 ||| index64 (group.getD 1 0) <<< 12
  if two then
    [UInt8.ofNat (n >>> 16),
      UInt8.ofNat ((n ||| index64 (group.getD 2 0) <<< 6) >>> 8 &&& 0xFF)]
  else [UInt8.ofNat (n >>> 16)]

/-- `b64decode`; a text of a single byte looks at the byte before it. -/
def b64decode (data : Bytes) : Bytes :=
  if data.length = 0 then []
  else
    let pad1 : Bool := data.length % 4 ≠ 0 ∨ data.getD (data.length - 1) 0 = 0x3D
    let pad2 : Bool := pad1 ∧ (2 < data.length % 4 ∨ data.getD (data.length - 2) 0 ≠ 0x3D)
    let last := (data.length - pad1.toNat) / 4 * 4
    decodeGroups (data.take last) ++ if pad1 then decodeLast pad2 (data.drop last) else []

/-! ## Groups -/

/-- The alphabet is read back, and has no `=`. -/
theorem char64_spec : ∀ value < 64, index64 (char64 value) = value ∧ char64 value ≠ 0x3D := by
  decide +kernel

theorem index64_char64 {value : Nat} (small : value < 64) : index64 (char64 value) = value :=
  (char64_spec value small).1

theorem char64_ne_pad {value : Nat} (small : value < 64) : char64 value ≠ 0x3D :=
  (char64_spec value small).2

/-- The low six bits of a number. -/
theorem and_low_six (n : Nat) : n &&& 0x3F = n % 64 := Nat.and_two_pow_sub_one_eq_mod n 6

/-- Three bytes, joined. -/
theorem join_bytes {a b c : Nat} (middle : b < 256) (low : c < 256) :
    a <<< 16 ||| b <<< 8 ||| c = a * 65536 + b * 256 + c := by
  rw [Nat.shiftLeft_eq, Nat.shiftLeft_eq]
  exact BitStrings.or_three (p := 16) (q := 8) (by omega) (by omega) (by omega) (by omega)

/-- Values of six bits, joined. -/
theorem join_two {a b : Nat} (second : b < 64) : a <<< 18 ||| b <<< 12 = a * 262144 + b * 4096 := by
  rw [Nat.shiftLeft_eq, Nat.shiftLeft_eq]
  exact BitStrings.or_eq_add 18 (by omega) (by omega)

theorem join_three {a b c : Nat} (second : b < 64) (third : c < 64) :
    a <<< 18 ||| b <<< 12 ||| c <<< 6 = a * 262144 + b * 4096 + c * 64 := by
  rw [join_two second, Nat.shiftLeft_eq]
  exact BitStrings.or_eq_add 12 (by omega) (by omega)

theorem join_four {a b c d : Nat} (second : b < 64) (third : c < 64) (fourth : d < 64) :
    a <<< 18 ||| b <<< 12 ||| c <<< 6 ||| d = a * 262144 + b * 4096 + c * 64 + d := by
  rw [join_three second third]
  exact BitStrings.or_eq_add 6 (by omega) (by omega)

theorem ofNat_of_eq {n : Nat} {byte : UInt8} (same : n = byte.toNat) : UInt8.ofNat n = byte := by
  rw [same, UInt8.ofNat_toNat]

/-- **A whole group is read back.** -/
theorem decodeGroups_cons (first second third : UInt8) (rest : Bytes) :
    decodeGroups (b64encode (first :: second :: third :: rest)) =
      first :: second :: third :: decodeGroups (b64encode rest) := by
  have high := first.toNat_lt
  have middle := second.toNat_lt
  have low := third.toNat_lt
  rw [b64encode, join_bytes middle low]
  simp only [decodeGroups, and_low_six, Nat.shiftRight_eq_div_pow]
  rw [index64_char64 (by omega), index64_char64 (by omega), index64_char64 (by omega),
    index64_char64 (by omega), join_four (by omega) (by omega) (by omega),
    Nat.and_two_pow_sub_one_eq_mod _ 8, Nat.and_two_pow_sub_one_eq_mod _ 8,
    @ofNat_of_eq _ first (by omega), @ofNat_of_eq _ second (by omega),
    @ofNat_of_eq _ third (by omega)]

/-- A last group of two bytes is read back. -/
theorem decodeLast_two (first second : UInt8) :
    decodeLast true (b64encode [first, second]) = [first, second] := by
  have high := first.toNat_lt
  have low := second.toNat_lt
  have joined : first.toNat <<< 8 ||| second.toNat = first.toNat * 256 + second.toNat := by
    rw [Nat.shiftLeft_eq]
    exact BitStrings.or_eq_add 8 (by omega) (by omega)
  rw [b64encode, joined]
  simp only [decodeLast, List.getD_cons_zero, List.getD_cons_succ, and_low_six, if_true]
  rw [index64_char64 (by omega), index64_char64 (by omega), index64_char64 (by omega),
    join_three (by omega) (by omega), join_two (by omega), Nat.and_two_pow_sub_one_eq_mod _ 8]
  simp only [Nat.shiftRight_eq_div_pow, Nat.shiftLeft_eq]
  rw [@ofNat_of_eq _ first (by omega), @ofNat_of_eq _ second (by omega)]

/-- A last group of one byte is read back. -/
theorem decodeLast_one (byte : UInt8) : decodeLast false (b64encode [byte]) = [byte] := by
  have small := byte.toNat_lt
  simp only [b64encode, decodeLast, List.getD_cons_zero, List.getD_cons_succ, and_low_six,
    Bool.false_eq_true, if_false, Nat.shiftRight_eq_div_pow, Nat.shiftLeft_eq]
  rw [index64_char64 (by omega), index64_char64 (by omega)]
  have joined := join_two (a := byte.toNat / 2 ^ 2) (b := byte.toNat * 2 ^ 4 % 64) (by omega)
  rw [Nat.shiftLeft_eq, Nat.shiftLeft_eq] at joined
  rw [joined, @ofNat_of_eq _ byte (by omega)]

/-! ## Round trip -/

/-- Whole groups and a padded one are decoded on their own. -/
theorem b64decode_padded {whole group : Bytes} (aligned : whole.length % 4 = 0)
    (four : group.length = 4) (padded : group.getD 3 0 = 0x3D) :
    b64decode (whole ++ group) =
      decodeGroups whole ++ decodeLast (group.getD 2 0 ≠ 0x3D) group := by
  have total : (whole ++ group).length = whole.length + 4 := by rw [List.length_append, four]
  have last : (whole ++ group).getD ((whole ++ group).length - 1) 0 = 0x3D := by
    rw [total, List.getD_append_right _ _ _ _ (by omega),
      show whole.length + 4 - 1 - whole.length = 3 by omega]
    exact padded
  have before : (whole ++ group).getD ((whole ++ group).length - 2) 0 = group.getD 2 0 := by
    rw [total, List.getD_append_right _ _ _ _ (by omega),
      show whole.length + 4 - 2 - whole.length = 2 by omega]
  have rounded : (whole.length + 4 - 1) / 4 * 4 = whole.length := by omega
  unfold b64decode
  rw [if_neg (by omega), last, before, total]
  simp only [or_true, decide_true, Bool.toNat_true, rounded, List.take_left, List.drop_left,
    if_true, true_and, show ¬2 < (whole.length + 4) % 4 by omega, false_or]

/-- Whole groups alone. -/
theorem b64decode_whole {whole : Bytes} (aligned : whole.length % 4 = 0)
    (unpadded : ∀ byte ∈ whole, byte ≠ 0x3D) : b64decode whole = decodeGroups whole := by
  unfold b64decode
  by_cases empty : whole.length = 0
  · rw [if_pos empty, List.eq_nil_of_length_eq_zero empty]
    rfl
  · have last : whole.getD (whole.length - 1) 0 ≠ 0x3D := by
      rw [List.getD_eq_getElem _ _ (by omega)]
      exact unpadded _ (List.getElem_mem _)
    rw [if_neg empty]
    simp only [aligned, last, ne_eq, not_true_eq_false, or_self, decide_false, Bool.toNat_false,
      Nat.sub_zero, Bool.false_eq_true, if_false, List.append_nil]
    rw [show whole.length / 4 * 4 = whole.length by omega, List.take_length]

/-- What is written for whole groups. -/
theorem b64encode_whole (whole rest : Bytes) (aligned : whole.length % 3 = 0) :
    b64encode (whole ++ rest) = b64encode whole ++ b64encode rest ∧
      (b64encode whole).length % 4 = 0 ∧ (∀ byte ∈ b64encode whole, byte ≠ 0x3D) ∧
      decodeGroups (b64encode whole) = whole := by
  fun_induction b64encode whole with
  | case1 first second third later n ih =>
      have aligned' : later.length % 3 = 0 := by
        simp only [List.length_cons] at aligned
        omega
      obtain ⟨appended, length, unpadded, decoded⟩ := ih aligned'
      refine ⟨?_, ?_, ?_, ?_⟩
      · rw [List.cons_append, List.cons_append, List.cons_append, b64encode, appended]
        rfl
      · simp only [List.length_cons]
        omega
      · have high := first.toNat_lt
        have middle := second.toNat_lt
        have low := third.toNat_lt
        have joined : n = first.toNat * 65536 + second.toNat * 256 + third.toNat :=
          join_bytes middle low
        intro byte inside
        simp only [List.mem_cons, and_low_six, Nat.shiftRight_eq_div_pow] at inside
        rcases inside with rfl | rfl | rfl | rfl | inside
        · exact char64_ne_pad (by omega)
        · exact char64_ne_pad (by omega)
        · exact char64_ne_pad (by omega)
        · exact char64_ne_pad (by omega)
        · exact unpadded byte inside
      · have group := decodeGroups_cons first second third later
        rw [decoded, b64encode] at group
        exact group
  | case2 first second n => simp at aligned
  | case3 first => simp at aligned
  | case4 => exact ⟨rfl, rfl, fun byte inside => absurd inside List.not_mem_nil, rfl⟩

/-- **What is encoded is decoded again.** -/
theorem b64decode_b64encode (data : Bytes) : b64decode (b64encode data) = data := by
  have split : data = data.take (data.length / 3 * 3) ++ data.drop (data.length / 3 * 3) :=
    (List.take_append_drop _ _).symm
  obtain ⟨appended, length, unpadded, decoded⟩ :=
    b64encode_whole (data.take (data.length / 3 * 3)) (data.drop (data.length / 3 * 3))
      (by rw [List.length_take]; omega)
  have short : (data.drop (data.length / 3 * 3)).length < 3 := by
    rw [List.length_drop]
    omega
  rw [split, appended]
  generalize data.take (data.length / 3 * 3) = whole at *
  generalize data.drop (data.length / 3 * 3) = rest at *
  match rest, short with
  | [], _ =>
      rw [b64encode, List.append_nil, List.append_nil, b64decode_whole length unpadded, decoded]
  | [byte], _ =>
      rw [b64decode_padded length rfl rfl, decoded]
      exact congrArg (whole ++ ·) (decodeLast_one byte)
  | [first, second], _ =>
      have third : decide ((b64encode [first, second]).getD 2 0 ≠ 0x3D) = true := by
        rw [b64encode, List.getD_cons_succ, List.getD_cons_succ, List.getD_cons_zero, and_low_six]
        exact decide_eq_true (char64_ne_pad (by omega))
      rw [b64decode_padded length rfl rfl, decoded, third, decodeLast_two]

end OpenDataCon.EventJSON

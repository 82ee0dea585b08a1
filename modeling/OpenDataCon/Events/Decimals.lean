import OpenDataCon.FileTransfer.Events
import OpenDataCon.Foundations.Exceptions

/-!
# Decimal numbers in texts

`std::stoi` reads the integer at the beginning of a text and raises an exception when
there is none or it does not fit into 32 bits. What `std::to_string` writes is read
back (`stoi_signedDecimal`).
-/

set_option autoImplicit false

namespace OpenDataCon.Events

open Exceptions
open FileTransfer

/-! ## Digits -/

def digitsNumber (digits : Bytes) : Nat :=
  digits.foldl (fun value digit => value * 10 + (digit.toNat - 0x30)) 0

theorem digitsNumber_toDecimal (n : Nat) : digitsNumber (toDecimal n) = n := by
  by_cases zero : n = 0
  · subst zero
    decide
  · have value : digitsNumber (toDecimal n) = Nat.ofDigits 10 (Nat.digits 10 n) := by
      rw [digitsNumber, toDecimal, if_neg zero, List.foldl_reverse, List.foldr_map,
        Nat.ofDigits_eq_foldr]
      refine List.foldr_ext _ _ _ ?_
      intro digit member value
      rw [digit_toNat (Nat.digits_lt_base (by decide) member)]
      simp only [Nat.cast_id]
      omega
    rw [value, Nat.ofDigits_digits]

theorem isDigit_of_mem_toDecimal {n : Nat} {byte : UInt8} (member : byte ∈ toDecimal n) :
    isDigit byte = true := by
  by_cases zero : n = 0
  · subst zero
    cases List.mem_singleton.mp member
    decide
  · rw [toDecimal, if_neg zero, List.mem_reverse] at member
    obtain ⟨digit, inside, rfl⟩ := List.mem_map.mp member
    exact isDigit_ofNat (Nat.digits_lt_base (by decide) inside)

theorem toDecimal_ne_nil (n : Nat) : toDecimal n ≠ [] := by
  by_cases zero : n = 0
  · subst zero
    decide
  · rw [toDecimal, if_neg zero]
    simpa [Nat.digits_eq_nil_iff_eq_zero] using zero

/-! ## Numbers -/

/-- The digits at the beginning of a text. -/
def unsignedAt (text : Bytes) : Option Nat :=
  let digits := text.takeWhile isDigit
  if digits = [] then none else some (digitsNumber digits)

/-- The integer at the beginning of a text, after spaces and perhaps a sign. -/
def integerAt (text : Bytes) : Option Int :=
  match text.dropWhile isSpace with
  | 0x2B :: digits => (unsignedAt digits).map fun value : Nat => (value : Int)
  | 0x2D :: digits => (unsignedAt digits).map fun value : Nat => -(value : Int)
  | digits => (unsignedAt digits).map fun value : Nat => (value : Int)

def stoi (text : Bytes) : Except Thrown Int :=
  match integerAt text with
  | none => .error (.invalidArgument "stoi")
  | some value =>
    if -2 ^ 31 ≤ value ∧ value < 2 ^ 31 then .ok value else .error (.outOfRange "stoi")

/-- `std::to_string` of an integer. -/
def signedDecimal (value : Int) : Bytes :=
  if 0 ≤ value then toDecimal value.toNat else 0x2D :: toDecimal (-value).toNat

theorem unsignedAt_toDecimal (n : Nat) : unsignedAt (toDecimal n) = some n := by
  have whole : (toDecimal n).takeWhile isDigit = toDecimal n :=
    List.takeWhile_eq_self_iff.mpr fun byte member => isDigit_of_mem_toDecimal member
  unfold unsignedAt
  rw [whole, if_neg (toDecimal_ne_nil n), digitsNumber_toDecimal]

/-- A text of digits is the integer that its digits spell. -/
theorem integerAt_digits {text : Bytes} (digits : ∀ byte ∈ text, isDigit byte = true) :
    integerAt text = (unsignedAt text).map fun value : Nat => (value : Int) := by
  cases text with
  | nil => rfl
  | cons first rest =>
      have number := digits first List.mem_cons_self
      simp only [isDigit, Bool.and_eq_true, decide_eq_true_eq] at number
      have noSpace : isSpace first = false := by
        simp only [isSpace, Bool.or_eq_false_iff, beq_eq_false_iff_ne, Bool.and_eq_false_iff,
          decide_eq_false_iff_not]
        omega
      rw [integerAt, List.dropWhile_cons_of_neg (by simp [noSpace])]
      split
      · next sign => cases sign; exact absurd number (by decide)
      · next sign => cases sign; exact absurd number (by decide)
      · rfl

/-- **What is written is read back.** -/
theorem integerAt_signedDecimal (value : Int) : integerAt (signedDecimal value) = some value := by
  by_cases sign : 0 ≤ value
  · rw [signedDecimal, if_pos sign, integerAt_digits fun byte => isDigit_of_mem_toDecimal,
      unsignedAt_toDecimal, Option.map_some, Int.toNat_of_nonneg sign]
  · have read : integerAt (0x2D :: toDecimal (-value).toNat) =
        (unsignedAt (toDecimal (-value).toNat)).map fun value : Nat => -(value : Int) := rfl
    rw [signedDecimal, if_neg sign, read, unsignedAt_toDecimal, Option.map_some,
      Int.toNat_of_nonneg (by omega), Int.neg_neg]

theorem stoi_eq_ok {text : Bytes} {value : Int} :
    stoi text = .ok value ↔ integerAt text = some value ∧ -2 ^ 31 ≤ value ∧ value < 2 ^ 31 := by
  unfold stoi
  cases read : integerAt text with
  | none => simp
  | some number =>
      by_cases fits : -2 ^ 31 ≤ number ∧ number < 2 ^ 31
      · simp only [if_pos fits, Except.ok.injEq, Option.some.injEq]
        constructor
        · rintro rfl
          exact ⟨rfl, fits⟩
        · exact fun same => same.1
      · simp only [if_neg fits, reduceCtorEq, Option.some.injEq, false_iff]
        rintro ⟨rfl, bounds⟩
        exact fits bounds

theorem stoi_signedDecimal {value : Int} (low : -2 ^ 31 ≤ value) (high : value < 2 ^ 31) :
    stoi (signedDecimal value) = .ok value :=
  stoi_eq_ok.mpr ⟨integerAt_signedDecimal value, low, high⟩

end OpenDataCon.Events

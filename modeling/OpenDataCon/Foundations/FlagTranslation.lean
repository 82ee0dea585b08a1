import Mathlib.Data.BitVec

/-!
# Translating flags

Two words hold the same flags in different places. A loop over the names of the flags carries each
of them from its place in one word to its place in the other.

Translated there and back, a word keeps the flags with a name and loses its other bits
(`translate_translate`), in whatever order the two loops go. A translation goes through an or
(`translate_or`), so what is added on the way comes out beside the rest (`translate_flag`), or not
at all if it has no name (`translate_other`).
-/

set_option autoImplicit false

namespace OpenDataCon.FlagTranslation

universe u

variable {ι : Type u} {m n : Nat}

/-- The flags with a name, carried to other places. -/
def translate (m n : Nat) (p q : ι → Nat) (names : List ι) (word : BitVec m) : BitVec n :=
  names.foldl (fun flags name =>
    if word &&& (1#m <<< p name) ≠ 0#m then flags ||| (1#n <<< q name) else flags) 0#n

/-- All the flags with a name. -/
def mask (m : Nat) (p : ι → Nat) (names : List ι) : BitVec m :=
  names.foldl (fun flags name => flags ||| (1#m <<< p name)) 0#m

variable {p q : ι → Nat} {names : List ι}

/-! ## Bits -/

theorem getLsbD_flag {i k : Nat} (small : k < n) :
    (1#n <<< i).getLsbD k = true ↔ i = k := by
  rw [BitVec.getLsbD_shiftLeft, BitVec.getLsbD_one]
  by_cases below : k < i
  · simp [below, Nat.ne_of_gt below]
  · simp only [small, decide_true, below, decide_false, Bool.not_false, Bool.true_and,
      decide_eq_true_eq, Bool.and_eq_true]
    omega

theorem and_flag_ne_zero {word : BitVec m} {i : Nat} (small : i < m) :
    word &&& (1#m <<< i) ≠ 0#m ↔ word.getLsbD i = true := by
  constructor
  · intro set
    by_contra clear
    refine set (BitVec.eq_of_getLsbD_eq fun k below => ?_)
    rw [BitVec.getLsbD_and, BitVec.getLsbD_zero, Bool.and_eq_false_iff]
    by_cases same : i = k
    · left
      rw [← same]
      exact Bool.eq_false_iff.mpr clear
    · right
      exact Bool.eq_false_iff.mpr fun flag => same ((getLsbD_flag below).mp flag)
  · intro set zero
    have bit : (word &&& (1#m <<< i)).getLsbD i = false := by rw [zero, BitVec.getLsbD_zero]
    rw [BitVec.getLsbD_and, set, (getLsbD_flag small).mpr rfl] at bit
    cases bit

theorem getLsbD_mask {k : Nat} (small : k < m) :
    (mask m p names).getLsbD k = true ↔ ∃ name ∈ names, p name = k := by
  have folded : ∀ flags : BitVec m,
      (names.foldl (fun flags name => flags ||| (1#m <<< p name)) flags).getLsbD k = true ↔
        flags.getLsbD k = true ∨ ∃ name ∈ names, p name = k := by
    induction names with
    | nil => simp
    | cons name rest ih =>
        intro flags
        rw [List.foldl_cons, ih, BitVec.getLsbD_or, Bool.or_eq_true, getLsbD_flag small]
        simp only [List.mem_cons, exists_eq_or_imp, or_assoc]
  rw [mask, folded, BitVec.getLsbD_zero]
  simp

/-- The bits of a translated word. -/
theorem getLsbD_translate (inside : ∀ name ∈ names, p name < m) {word : BitVec m} {k : Nat}
    (small : k < n) :
    (translate m n p q names word).getLsbD k = true ↔
      ∃ name ∈ names, q name = k ∧ word.getLsbD (p name) = true := by
  have folded : ∀ flags : BitVec n,
      (names.foldl (fun flags name =>
        if word &&& (1#m <<< p name) ≠ 0#m then flags ||| (1#n <<< q name) else flags)
          flags).getLsbD k = true ↔
        flags.getLsbD k = true ∨ ∃ name ∈ names, q name = k ∧ word.getLsbD (p name) = true := by
    induction names with
    | nil => simp
    | cons name rest ih =>
        intro flags
        have later := ih fun other member => inside other (List.mem_cons_of_mem _ member)
        rw [List.foldl_cons, later]
        simp only [List.mem_cons, exists_eq_or_imp, ← or_assoc]
        refine or_congr ?_ Iff.rfl
        split
        · next set =>
          rw [BitVec.getLsbD_or, Bool.or_eq_true, getLsbD_flag small,
            and_iff_left ((and_flag_ne_zero (inside name List.mem_cons_self)).mp set)]
        · next clear =>
          rw [or_iff_left]
          rintro ⟨-, set⟩
          exact clear ((and_flag_ne_zero (inside name List.mem_cons_self)).mpr set)
  rw [translate, folded, BitVec.getLsbD_zero]
  simp

/-- Words are compared by the bits that are set. -/
theorem ext_of_set {first second : BitVec m}
    (same : ∀ k < m, first.getLsbD k = true ↔ second.getLsbD k = true) : first = second :=
  BitVec.eq_of_getLsbD_eq fun k below => Bool.eq_iff_iff.mpr (same k below)

/-! ## Translations -/

section Translate

variable (pInside : ∀ name ∈ names, p name < m)

include pInside in
theorem translate_or (first second : BitVec m) :
    translate m n p q names (first ||| second) =
      translate m n p q names first ||| translate m n p q names second := by
  apply ext_of_set
  intro k below
  rw [BitVec.getLsbD_or, Bool.or_eq_true, getLsbD_translate pInside below,
    getLsbD_translate pInside below, getLsbD_translate pInside below, ← exists_or]
  refine exists_congr fun name => ?_
  rw [BitVec.getLsbD_or, Bool.or_eq_true, and_or_left, and_or_left]

include pInside in
/-- A flag with a name is translated to the flag of this name. -/
theorem translate_flag (pDistinct : ∀ first ∈ names, ∀ second ∈ names, p first = p second →
    first = second) {flag : ι} (member : flag ∈ names) :
    translate m n p q names (1#m <<< p flag) = 1#n <<< q flag := by
  apply ext_of_set
  intro k below
  rw [getLsbD_translate pInside below, getLsbD_flag below]
  constructor
  · rintro ⟨name, inside, rfl, set⟩
    rw [getLsbD_flag (pInside name inside)] at set
    rw [pDistinct flag member name inside set]
  · intro same
    exact ⟨flag, member, same, (getLsbD_flag (pInside flag member)).mpr rfl⟩

include pInside in
/-- A bit without a name is lost. -/
theorem translate_other {i : Nat} (other : ∀ name ∈ names, p name ≠ i) :
    translate m n p q names (1#m <<< i) = 0#n := by
  apply ext_of_set
  intro k below
  rw [getLsbD_translate pInside below, BitVec.getLsbD_zero]
  refine iff_of_false ?_ Bool.false_ne_true
  rintro ⟨name, inside, -, set⟩
  exact other name inside ((getLsbD_flag (pInside name inside)).mp set).symm

include pInside in
/-- **Translated there and back, a word keeps the flags with a name.** -/
theorem translate_translate {back : List ι} (same : ∀ name, name ∈ back ↔ name ∈ names)
    (qInside : ∀ name ∈ names, q name < n)
    (qDistinct : ∀ first ∈ names, ∀ second ∈ names, q first = q second → first = second)
    (word : BitVec m) :
    translate n m q p back (translate m n p q names word) = word &&& mask m p names := by
  have backInside : ∀ name ∈ back, q name < n := by
    intro name member
    exact qInside name ((same name).mp member)
  apply ext_of_set
  intro k below
  rw [getLsbD_translate backInside below, BitVec.getLsbD_and, Bool.and_eq_true, getLsbD_mask below]
  constructor
  · rintro ⟨name, member, rfl, set⟩
    have inside := (same name).mp member
    obtain ⟨other, otherInside, place, bit⟩ :=
      (getLsbD_translate pInside (qInside name inside)).mp set
    obtain rfl := qDistinct other otherInside name inside place
    exact ⟨bit, other, otherInside, rfl⟩
  · rintro ⟨set, name, inside, rfl⟩
    exact ⟨name, (same name).mpr inside, rfl,
      (getLsbD_translate pInside (qInside name inside)).mpr ⟨name, inside, rfl, set⟩⟩

end Translate

end OpenDataCon.FlagTranslation

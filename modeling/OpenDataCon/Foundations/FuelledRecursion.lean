import Mathlib

/-!
# Recursions that may not end

A recursion without a measure is written with fuel, and it ends at an argument when some fuel is
enough. Where a call returns exactly if the calls it makes return, it ends exactly at the
accessible arguments of the call relation (`isSome_iff_acc`), and in a finite call graph these are
the arguments from which no cycle is reached (`acc_iff_acyclic`).
-/

set_option autoImplicit false

namespace OpenDataCon.FuelledRecursion

open Relation

universe u v

variable {α : Type u} {β : Type v}

/-! ## Lists of calls -/

theorem mapM_isSome_iff {f : α → Option β} {arguments : List α} :
    (arguments.mapM f).isSome = true ↔ ∀ argument ∈ arguments, (f argument).isSome = true := by
  induction arguments with
  | nil => simp
  | cons argument rest ih =>
      rw [List.mapM_cons, List.forall_mem_cons, ← ih]
      cases f argument with
      | none => simp
      | some result => cases rest.mapM f <;> simp

theorem mapM_eq_some_iff {f : α → Option β} {arguments : List α} {results : List β} :
    arguments.mapM f = some results ↔
      List.Forall₂ (fun argument result => f argument = some result) arguments results := by
  induction arguments generalizing results with
  | nil =>
      rw [List.mapM_nil]
      constructor
      · rintro ⟨⟩
        exact .nil
      · rintro ⟨⟩
        rfl
  | cons argument rest ih =>
      rw [List.mapM_cons]
      constructor
      · intro called
        obtain ⟨result, first, called⟩ := Option.bind_eq_some_iff.mp called
        obtain ⟨later, calledLater, same⟩ := Option.bind_eq_some_iff.mp called
        obtain rfl := Option.some.inj same
        exact .cons first (ih.mp calledLater)
      · rintro (_ | ⟨first, later⟩)
        rw [first, ih.mpr later]
        rfl

/-- Every argument has a result. -/
theorem exists_result {related : α → β → Prop} {arguments : List α} {results : List β}
    (pairs : List.Forall₂ related arguments results) {argument : α}
    (member : argument ∈ arguments) : ∃ result ∈ results, related argument result := by
  induction pairs with
  | nil => cases member
  | cons first _ ih =>
      rcases List.mem_cons.mp member with rfl | later
      · exact ⟨_, List.mem_cons_self, first⟩
      · obtain ⟨result, inside, same⟩ := ih later
        exact ⟨result, List.mem_cons_of_mem _ inside, same⟩

/-! ## Fuel and accessibility -/

section Fuel

variable {eval : Nat → α → Option β} {calls : α → List α}
  (none_ : ∀ argument, eval 0 argument = none)
  (step : ∀ fuel argument, (eval (fuel + 1) argument).isSome = true ↔
    ∀ called ∈ calls argument, (eval fuel called).isSome = true)

include none_ step

/-- More fuel is enough where less is. -/
theorem isSome_mono {fuel more : Nat} (order : fuel ≤ more) {argument : α}
    (enough : (eval fuel argument).isSome = true) : (eval more argument).isSome = true := by
  induction fuel generalizing more argument with
  | zero =>
      rw [none_] at enough
      cases enough
  | succ fuel ih =>
      obtain ⟨more, rfl⟩ := Nat.exists_eq_add_of_le' (Nat.lt_of_lt_of_le (Nat.succ_pos fuel) order)
      rw [step] at enough ⊢
      exact fun called member => ih (Nat.le_of_succ_le_succ order) (enough called member)

/-- Fuel that is enough for each of some calls. -/
theorem exists_fuel_of_forall {arguments : List α}
    (ends : ∀ argument ∈ arguments, ∃ fuel, (eval fuel argument).isSome = true) :
    ∃ fuel, ∀ argument ∈ arguments, (eval fuel argument).isSome = true := by
  induction arguments with
  | nil => exact ⟨0, fun argument member => absurd member List.not_mem_nil⟩
  | cons argument rest ih =>
      obtain ⟨first, enough⟩ := ends argument (.head _)
      obtain ⟨later, enoughLater⟩ := ih fun other member => ends other (.tail _ member)
      refine ⟨max first later, List.forall_mem_cons.mpr ⟨?_, fun other member => ?_⟩⟩
      · exact isSome_mono none_ step (Nat.le_max_left ..) enough
      · exact isSome_mono none_ step (Nat.le_max_right ..) (enoughLater other member)

/-- **A recursion ends exactly at the accessible arguments of its calls.** -/
theorem isSome_iff_acc (argument : α) :
    (∃ fuel, (eval fuel argument).isSome = true) ↔
      Acc (fun called caller => called ∈ calls caller) argument := by
  constructor
  · rintro ⟨fuel, enough⟩
    induction fuel generalizing argument with
    | zero =>
        rw [none_] at enough
        cases enough
    | succ fuel ih =>
        rw [step] at enough
        exact .intro _ fun called member => ih called (enough called member)
  · intro accessible
    induction accessible with
    | intro argument _ ih =>
        obtain ⟨fuel, enough⟩ := exists_fuel_of_forall none_ step ih
        exact ⟨fuel + 1, (step fuel argument).mpr enough⟩

end Fuel

/-! ## Finite call graphs -/

section Cycles

variable {r : α → α → Prop} {root : α}

/-- What is reached from an accessible element is accessible. -/
theorem acc_of_reflTransGen {reached : α} (accessible : Acc r root)
    (path : ReflTransGen r reached root) : Acc r reached := by
  induction path using ReflTransGen.head_induction_on with
  | refl => exact accessible
  | head step _ ih => exact ih.inv step

/-- An accessible element is on no cycle. -/
theorem not_transGen_self {element : α} (accessible : Acc r element) :
    ¬TransGen r element element := by
  have again := accessible.transGen
  clear accessible
  induction again with
  | intro element _ ih => exact fun cycle => ih element cycle cycle

/-- **With finitely many elements in reach, an element is accessible exactly when none of these
reaches itself.** -/
theorem acc_iff_acyclic (finite : {reached | ReflTransGen r reached root}.Finite) :
    Acc r root ↔ ∀ reached, ReflTransGen r reached root → ¬TransGen r reached reached := by
  constructor
  · intro accessible reached path cycle
    exact not_transGen_self (acc_of_reflTransGen accessible path) cycle
  · intro acyclic
    have : Finite {reached // ReflTransGen r reached root} := finite
    let below (first second : {reached // ReflTransGen r reached root}) : Prop :=
      TransGen r first.val second.val
    have : IsTrans _ below := ⟨fun _ _ _ => TransGen.trans⟩
    have : Std.Irrefl below := ⟨fun reached => acyclic reached.val reached.property⟩
    have wellFounded : WellFounded below := Finite.wellFounded_of_trans_of_irrefl below
    have all : ∀ reached : {reached // ReflTransGen r reached root}, Acc r reached.val := by
      intro reached
      induction reached using wellFounded.induction with
      | _ reached ih =>
          exact .intro _ fun next step =>
            ih ⟨next, .head step reached.property⟩ (.single step)
    exact all ⟨root, .refl⟩

end Cycles

end OpenDataCon.FuelledRecursion

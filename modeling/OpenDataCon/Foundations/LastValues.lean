import Mathlib.Data.List.Basic

/-!
# The last value of each key

A stream of values comes with keys. What a reader keeps of it is the last value of each key: a
state that every value of a key sets, and values of other keys leave alone, ends with the last
one, or as it was when there is none (`foldl_lastFor`).
-/

set_option autoImplicit false

namespace OpenDataCon.LastValues

universe u v w

variable {κ : Type u} {α : Type v} [DecidableEq κ]

/-- The last value that comes with a key. -/
def lastFor (key : κ) : List (κ × α) → Option α
  | [] => none
  | (other, value) :: rest =>
    (lastFor key rest).or (if other = key then some value else none)

variable {key : κ}

@[simp] theorem lastFor_nil : lastFor key ([] : List (κ × α)) = none := rfl

theorem lastFor_append (first second : List (κ × α)) :
    lastFor key (first ++ second) = (lastFor key second).or (lastFor key first) := by
  induction first with
  | nil => exact (Option.or_none).symm
  | cons entry rest ih => rw [List.cons_append, lastFor, ih, Option.or_assoc, lastFor]

/-- A value at the end is the last one of its key. -/
theorem lastFor_concat (entries : List (κ × α)) (other : κ) (value : α) :
    lastFor key (entries ++ [(other, value)]) =
      if other = key then some value else lastFor key entries := by
  rw [lastFor_append, lastFor, lastFor_nil, Option.none_or]
  by_cases same : other = key
  · rw [if_pos same, if_pos same, Option.some_or]
  · rw [if_neg same, if_neg same, Option.none_or]

/-- Where each key has one value, that is the last one of every key in the stream. -/
theorem lastFor_graph (f : κ → α) (keys : List κ) :
    lastFor key (keys.map fun other => (other, f other)) =
      if key ∈ keys then some (f key) else none := by
  induction keys with
  | nil => rfl
  | cons other rest ih =>
      rw [List.map_cons, lastFor, ih]
      by_cases later : key ∈ rest
      · rw [if_pos later, if_pos (List.mem_cons_of_mem _ later), Option.some_or]
      · rw [if_neg later, Option.none_or]
        by_cases same : other = key
        · rw [if_pos same, if_pos (by simp [same]), same]
        · rw [if_neg same, if_neg (by simp [later, Ne.symm same])]

theorem lastFor_eq_none {entries : List (κ × α)} :
    lastFor key entries = none ↔ ∀ entry ∈ entries, entry.1 ≠ key := by
  induction entries with
  | nil => simp
  | cons entry rest ih =>
      rw [lastFor, Option.or_eq_none_iff, ih, List.forall_mem_cons, and_comm]
      by_cases same : entry.1 = key
      · simp [same]
      · simp [same]

/-- Where all values of a key are the same, that is the last one. -/
theorem lastFor_eq_some {entries : List (κ × α)} {value : α}
    (there : ∃ entry ∈ entries, entry.1 = key)
    (same : ∀ entry ∈ entries, entry.1 = key → entry.2 = value) :
    lastFor key entries = some value := by
  induction entries with
  | nil =>
      obtain ⟨entry, member, -⟩ := there
      cases member
  | cons entry rest ih =>
      by_cases later : ∃ other ∈ rest, other.1 = key
      · rw [lastFor, ih later fun other member => same other (.tail _ member), Option.some_or]
      · have absent : lastFor key rest = none :=
          lastFor_eq_none.mpr fun other member here => later ⟨other, member, here⟩
        obtain ⟨other, member, here⟩ := there
        have isFirst : other = entry := by
          rcases List.mem_cons.mp member with first | inRest
          · exact first
          · exact absurd ⟨other, inRest, here⟩ later
        subst isFirst
        rw [lastFor, absent, Option.none_or, if_pos here, same other (.head _) here]

/-- The last value of a key comes from an entry that no other of the key comes after. -/
theorem lastFor_eq_some_iff {entries : List (κ × α)} {value : α} :
    lastFor key entries = some value ↔
      ∃ before after, entries = before ++ (key, value) :: after ∧
        ∀ later ∈ after, later.1 ≠ key := by
  constructor
  · intro found
    induction entries with
    | nil => cases found
    | cons entry rest ih =>
        rw [lastFor] at found
        cases there : lastFor key rest with
        | some last =>
            rw [there, Option.some_or] at found
            obtain ⟨before, after, parts, noOther⟩ := ih (there.trans found)
            exact ⟨entry :: before, after, by rw [parts, List.cons_append], noOther⟩
        | none =>
            rw [there, Option.none_or] at found
            obtain ⟨rfl, rfl⟩ : entry.1 = key ∧ entry.2 = value := by
              split at found
              · exact ⟨by assumption, Option.some.inj found⟩
              · cases found
            exact ⟨[], rest, rfl, lastFor_eq_none.mp there⟩
  · rintro ⟨before, after, rfl, noOther⟩
    rw [lastFor_append, lastFor, lastFor_eq_none.mpr noOther, Option.none_or, if_pos rfl,
      Option.some_or]

/-- **A key comes back from its last value, looked up among the exchanged entries, exactly when
one entry of it has no other after it with its key or with its value.** -/
theorem lastFor_swap_eq_some_iff [DecidableEq α] {entries : List (κ × α)} :
    ((lastFor key entries).bind fun value => lastFor value (entries.map Prod.swap)) = some key ↔
      ∃ before value after, entries = before ++ (key, value) :: after ∧
        ∀ later ∈ after, later.1 ≠ key ∧ later.2 ≠ value := by
  constructor
  · intro back
    obtain ⟨value, found, back⟩ := Option.bind_eq_some_iff.mp back
    obtain ⟨before, after, rfl, noKey⟩ := lastFor_eq_some_iff.mp found
    refine ⟨before, value, after, rfl, fun later member => ⟨noKey later member, ?_⟩⟩
    intro sameValue
    -- the last entry with the value has another key, as it comes after the last with the key
    rw [List.map_append, List.map_cons, lastFor_append, lastFor] at back
    cases there : lastFor value (after.map Prod.swap) with
    | none =>
        exact lastFor_eq_none.mp there later.swap (List.mem_map_of_mem member) sameValue
    | some other =>
        rw [there, Option.some_or, Option.some_or] at back
        obtain ⟨first, rest, parts, -⟩ := lastFor_eq_some_iff.mp there
        have inAfter : (value, other) ∈ after.map Prod.swap := by
          rw [parts]
          exact List.mem_append_right _ (.head _)
        obtain ⟨entry, isLater, swapped⟩ := List.mem_map.mp inAfter
        exact noKey entry isLater ((congrArg Prod.snd swapped).trans (Option.some.inj back))
  · rintro ⟨before, value, after, rfl, noOther⟩
    have found : lastFor key (before ++ (key, value) :: after) = some value :=
      lastFor_eq_some_iff.mpr ⟨before, after, rfl, fun later member => (noOther later member).1⟩
    rw [found, Option.bind_some, lastFor_eq_some_iff]
    refine ⟨before.map Prod.swap, after.map Prod.swap, by simp, fun later member => ?_⟩
    obtain ⟨entry, isLater, rfl⟩ := List.mem_map.mp member
    exact (noOther entry isLater).2

/-- Entries that are there a second time change nothing. -/
theorem lastFor_append_again (first second rest : List (κ × α)) :
    lastFor key (first ++ second ++ (second ++ rest)) = lastFor key (first ++ (second ++ rest)) := by
  simp only [lastFor_append]
  cases lastFor key rest with
  | some value => rfl
  | none => cases lastFor key second <;> rfl

/-- **A state that every value of a key sets, and no other value changes, ends with the last
value of the key.** -/
theorem foldl_lastFor {σ : Type w} {ε : Type*} {β : Type*} {step : σ → ε → σ} {view : σ → β}
    {read : α → β} {label : ε → κ × α} {Invariant : σ → Prop} {entries : List ε}
    (keeps : ∀ state, ∀ entry ∈ entries, Invariant state → Invariant (step state entry))
    (sets : ∀ state, ∀ entry ∈ entries, Invariant state → (label entry).1 = key →
      view (step state entry) = read (label entry).2)
    (leaves : ∀ state, ∀ entry ∈ entries, Invariant state → (label entry).1 ≠ key →
      view (step state entry) = view state)
    {state : σ} (holds : Invariant state) :
    view (entries.foldl step state) =
      ((lastFor key (entries.map label)).map read).getD (view state) := by
  induction entries generalizing state with
  | nil => rfl
  | cons entry rest ih =>
      have first := keeps state entry (.head _) holds
      have later := ih (fun state other after => keeps state other (.tail _ after))
        (fun state other after => sets state other (.tail _ after))
        (fun state other after => leaves state other (.tail _ after)) first
      rw [List.foldl_cons, later, List.map_cons, lastFor]
      cases lastFor key (rest.map label) with
      | some last => rfl
      | none =>
          rw [Option.none_or]
          by_cases same : (label entry).1 = key
          · rw [if_pos same]
            exact sets state entry (.head _) holds same
          · rw [if_neg same]
            exact leaves state entry (.head _) holds same

/-- Entries that are assigned one after the other leave the last value of each key. -/
theorem foldl_assign (entries : List (κ × α)) (map : κ → Option α) :
    entries.foldl (fun map entry key => if key = entry.1 then some entry.2 else map key) map key =
      (lastFor key entries).or (map key) := by
  induction entries generalizing map with
  | nil => rfl
  | cons entry rest ih =>
      rw [List.foldl_cons, ih, lastFor, Option.or_assoc]
      by_cases same : key = entry.1
      · rw [if_pos same, if_pos same.symm, Option.some_or]
      · rw [if_neg same, if_neg fun other => same other.symm, Option.none_or]

end OpenDataCon.LastValues

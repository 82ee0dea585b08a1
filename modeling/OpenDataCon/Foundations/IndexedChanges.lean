import Mathlib.Data.List.Basic

/-!
# Changing the entries with an index

The entries of a table are kept by key, and each has an index. An operation takes an index and
changes the entries that have it; it may also change none of them, or those of another table. What
is left after the operation was made at every index of a list follows from what it does at one:
the entries whose index is in the list are changed, once or more often (`Changes.foldl`), and what
the operation keeps is kept (`Keeps.foldl`).
-/

set_option autoImplicit false

namespace OpenDataCon.IndexedChanges

universe u v w x y

variable {σ : Type u} {ι : Type v} {κ : Type w} {α : Type x} {β : Type y}
  {Inv : σ → Prop} {op : σ → ι → σ}

/-- The operation keeps the invariant. -/
def Preserves (Inv : σ → Prop) (op : σ → ι → σ) : Prop :=
  ∀ state index, Inv state → Inv (op state index)

/-- The operation changes nothing of a field. -/
def Keeps (Inv : σ → Prop) (op : σ → ι → σ) (field : σ → β) : Prop :=
  ∀ state index, Inv state → field (op state index) = field state

/-- The operation changes the entries with its index, to what they still are when they are
changed again. -/
structure Changes [DecidableEq ι] (Inv : σ → Prop) (op : σ → ι → σ) (entries : σ → κ → Option α)
    (indexOf : α → ι) (change : α → α) : Prop where
  changed : ∀ state index, Inv state → ∀ key, entries (op state index) key =
    (entries state key).map fun entry => if indexOf entry = index then change entry else entry
  sameIndex : ∀ entry, indexOf (change entry) = indexOf entry
  again : ∀ entry, change (change entry) = change entry

theorem Preserves.foldl (preserves : Preserves Inv op) (indexes : List ι) {state : σ}
    (inv : Inv state) : Inv (indexes.foldl op state) := by
  induction indexes generalizing state with
  | nil => exact inv
  | cons index rest ih => exact ih (preserves state index inv)

theorem Keeps.foldl {field : σ → β} (keeps : Keeps Inv op field) (preserves : Preserves Inv op)
    (indexes : List ι) {state : σ} (inv : Inv state) :
    field (indexes.foldl op state) = field state := by
  induction indexes generalizing state with
  | nil => rfl
  | cons index rest ih =>
      rw [List.foldl_cons, ih (preserves state index inv)]
      exact keeps state index inv

section Changes

variable [DecidableEq ι] {entries : σ → κ → Option α} {indexOf : α → ι} {change : α → α}

/-- **The entries whose index is in the list are changed.** -/
theorem Changes.foldl (changes : Changes Inv op entries indexOf change)
    (preserves : Preserves Inv op) (indexes : List ι) {state : σ} (inv : Inv state) (key : κ) :
    entries (indexes.foldl op state) key =
      (entries state key).map fun entry =>
        if indexOf entry ∈ indexes then change entry else entry := by
  induction indexes generalizing state with
  | nil => simp only [List.foldl_nil, List.not_mem_nil, if_false, Option.map_id']
  | cons index rest ih =>
      rw [List.foldl_cons, ih (preserves state index inv), changes.changed state index inv,
        Option.map_map]
      congr 1
      funext entry
      rw [Function.comp_apply]
      by_cases here : indexOf entry = index
      · rw [if_pos here, changes.sameIndex, if_pos (List.mem_cons.mpr (.inl here)),
          changes.again, ite_self]
      · have later : indexOf entry ∈ index :: rest ↔ indexOf entry ∈ rest :=
          List.mem_cons.trans (or_iff_right here)
        simp only [if_neg here, later]

/-- Every entry is changed when the list has all indexes. -/
theorem Changes.foldl_all (changes : Changes Inv op entries indexOf change)
    (preserves : Preserves Inv op) {indexes : List ι} {state : σ} (inv : Inv state)
    (listed : ∀ key entry, entries state key = some entry → indexOf entry ∈ indexes) (key : κ) :
    entries (indexes.foldl op state) key = (entries state key).map change := by
  rw [changes.foldl preserves indexes inv]
  cases there : entries state key with
  | none => rfl
  | some entry => rw [Option.map_some, Option.map_some, if_pos (listed key entry there)]

/-- Entries that have been changed before stay as they are. -/
theorem Changes.foldl_again (changes : Changes Inv op entries indexOf change)
    (preserves : Preserves Inv op) (indexes : List ι) {state : σ} (inv : Inv state)
    {before : κ → Option α} (done : ∀ key, entries state key = (before key).map change) (key : κ) :
    entries (indexes.foldl op state) key = (before key).map change := by
  rw [changes.foldl preserves indexes inv, done key, Option.map_map]
  congr 1
  funext entry
  rw [Function.comp_apply, changes.again, ite_self]

end Changes

/-- An output at each index leaves the state as without it. -/
theorem foldl_outputs (op : σ → ι → σ) (output : ι → β) (indexes : List ι) (state : σ)
    (outputs : List β) :
    indexes.foldl (fun run index => (op run.1 index, run.2 ++ [output index])) (state, outputs) =
      (indexes.foldl op state, outputs ++ indexes.map output) := by
  induction indexes generalizing state outputs with
  | nil => rw [List.map_nil, List.append_nil]; rfl
  | cons index rest ih =>
      rw [List.foldl_cons, ih, List.foldl_cons, List.map_cons, List.append_assoc,
        List.singleton_append]

end OpenDataCon.IndexedChanges

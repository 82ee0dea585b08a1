import Mathlib.Data.List.Induction
import Mathlib.Data.List.Nodup

/-!
# Substituting one marker after the other

A text with markers may be filled in by replacing one marker after the other, each
time the first symbol that looks like the marker. That is the substitution of all the
markers at once, except where a value that was put in earlier looks like a later
marker and stands before it (`sequential_eq_map_iff`). What is not a marker is never
touched (`getElem?_sequential`).
-/

set_option autoImplicit false

namespace OpenDataCon.Substitution

universe u

variable {α : Type u} [DecidableEq α]

/-! ## Both substitutions -/

/-- Each field, a marker with a value, replaces the first symbol equal to its marker. -/
def sequential (fields : List (α × α)) (text : List α) : List α :=
  fields.foldl (fun text field => text.replace field.1 field.2) text

/-- The value of a symbol when all fields are put in at once. -/
def value : List (α × α) → α → α
  | [], symbol => symbol
  | field :: fields, symbol => if symbol = field.1 then field.2 else value fields symbol

/-- A symbol stands before the first occurrence of another. -/
def Before (text : List α) (first second : α) : Prop :=
  second ∈ text ∧ first ∈ text.takeWhile (· ≠ second)

instance (text : List α) (first second : α) : Decidable (Before text first second) :=
  inferInstanceAs (Decidable (_ ∧ _))

theorem sequential_concat (fields : List (α × α)) (field : α × α) (text : List α) :
    sequential (fields ++ [field]) text = (sequential fields text).replace field.1 field.2 := by
  rw [sequential, List.foldl_append]
  rfl

/-- What is no marker is left as it is. -/
theorem getElem?_sequential {fields : List (α × α)} {text : List α} {i : Nat} {symbol : α}
    (here : text[i]? = some symbol) (other : ∀ field ∈ fields, field.1 ≠ symbol) :
    (sequential fields text)[i]? = some symbol := by
  induction fields generalizing text with
  | nil => exact here
  | cons field fields ih =>
      refine ih ?_ fun later inside => other later (List.mem_cons_of_mem field inside)
      rw [List.getElem?_replace_of_ne, here]
      rw [here]
      exact fun same => other field List.mem_cons_self (Option.some.inj same).symm

theorem value_of_not_mem {fields : List (α × α)} {symbol : α}
    (other : ∀ field ∈ fields, field.1 ≠ symbol) : value fields symbol = symbol := by
  induction fields with
  | nil => rfl
  | cons field fields ih =>
      rw [value, if_neg (other field List.mem_cons_self).symm]
      exact ih fun later inside => other later (List.mem_cons_of_mem field inside)

theorem value_of_mem {fields : List (α × α)} (distinct : (fields.map Prod.fst).Nodup)
    {field : α × α} (inside : field ∈ fields) : value fields field.1 = field.2 := by
  induction fields with
  | nil => exact absurd inside List.not_mem_nil
  | cons first fields ih =>
      obtain ⟨fresh, distinct⟩ := List.nodup_cons.mp distinct
      rw [value]
      rcases List.mem_cons.mp inside with rfl | later
      · rw [if_pos rfl]
      · have other : field.1 ≠ first.1 := fun same => fresh (same ▸ List.mem_map_of_mem later)
        rw [if_neg other, ih distinct later]

theorem value_concat {fields : List (α × α)} {field : α × α}
    (fresh : ∀ earlier ∈ fields, earlier.1 ≠ field.1) (symbol : α) :
    value (fields ++ [field]) symbol =
      if symbol = field.1 then field.2 else value fields symbol := by
  induction fields with
  | nil => rfl
  | cons first fields ih =>
      rw [List.cons_append, value, value,
        ih fun earlier inside => fresh earlier (List.mem_cons_of_mem first inside)]
      by_cases here : symbol = first.1
      · have other : symbol ≠ field.1 := by
          rw [here]
          exact fresh first List.mem_cons_self
        rw [if_pos here, if_neg other, if_pos here]
      · rw [if_neg here, if_neg here]

/-- A symbol looks like a marker only where the marker was, or where a field has the
marker as its value. -/
theorem value_eq_cases {fields : List (α × α)} {symbol marker : α}
    (same : value fields symbol = marker) :
    symbol = marker ∨ ∃ field ∈ fields, field.1 = symbol ∧ field.2 = marker := by
  induction fields with
  | nil => exact .inl same
  | cons field fields ih =>
      rw [value] at same
      by_cases here : symbol = field.1
      · rw [if_pos here] at same
        exact .inr ⟨field, List.mem_cons_self, here.symm, same⟩
      · rw [if_neg here] at same
        rcases ih same with equal | ⟨later, inside, found⟩
        · exact .inl equal
        · exact .inr ⟨later, List.mem_cons_of_mem field inside, found⟩

/-- Fields that the text has no marker of change nothing. -/
theorem value_filter {fields : List (α × α)} {text : List α} {symbol : α} (inside : symbol ∈ text) :
    value (fields.filter fun field => field.1 ∈ text) symbol = value fields symbol := by
  induction fields with
  | nil => rfl
  | cons field fields ih =>
      by_cases marked : field.1 ∈ text
      · rw [List.filter_cons, if_pos (decide_eq_true marked), value, value, ih]
      · have other : symbol ≠ field.1 := fun same => marked (same ▸ inside)
        rw [List.filter_cons, if_neg (by simpa using marked), ih, value, if_neg other]

/-! ## One more field -/

/-- No field that was put in before the marker of `later` looks like it, or the value
of `later` looks the same. -/
def Compatible (text : List α) (earlier later : α × α) : Prop :=
  Before text earlier.1 later.1 → earlier.2 = later.1 → later.2 = later.1

instance (text : List α) (earlier later : α × α) : Decidable (Compatible text earlier later) :=
  inferInstanceAs (Decidable (_ → _ → _))

theorem split_of_mem {text : List α} {marker : α} (once : text.count marker = 1) :
    ∃ before after, text = before ++ marker :: after ∧ marker ∉ before ∧ marker ∉ after := by
  have inside : marker ∈ text := List.count_pos_iff.mp (once ▸ Nat.one_pos)
  obtain ⟨before, after, rfl, fresh⟩ := List.eq_append_cons_of_mem inside
  refine ⟨before, after, rfl, fresh, ?_⟩
  rw [List.count_append, List.count_cons_self, List.count_eq_zero.mpr fresh] at once
  exact List.count_eq_zero.mp (by omega)

theorem takeWhile_ne {before after : List α} {marker : α} (fresh : marker ∉ before) :
    (before ++ marker :: after).takeWhile (· ≠ marker) = before := by
  have all : ∀ symbol ∈ before, (decide (symbol ≠ marker)) = true := by
    intro symbol inside
    exact decide_eq_true fun same => fresh (same ▸ inside)
  rw [List.takeWhile_append_of_pos all, List.takeWhile_cons_of_neg (by simp), List.append_nil]

theorem replace_self (text : List α) (marker : α) : text.replace marker marker = text := by
  induction text with
  | nil => rfl
  | cons symbol text ih =>
      by_cases here : symbol = marker
      · rw [here, List.replace_cons_self]
      · rw [List.replace_cons, beq_false_of_ne (Ne.symm here), ih]

omit [DecidableEq α] in
theorem getElem?_middle (before after : List α) (symbol : α) :
    (before ++ symbol :: after)[before.length]? = some symbol := by
  rw [List.getElem?_append_right (Nat.le_refl _), Nat.sub_self]
  rfl

/-- **One more field**, after the others were put in rightly: it is put in rightly too, or
its marker stays. -/
theorem replace_map_cases {fields : List (α × α)} {field : α × α} {text : List α}
    (distinct : (fields.map Prod.fst).Nodup) (fresh : ∀ earlier ∈ fields, earlier.1 ≠ field.1)
    (once : text.count field.1 = 1) :
    (∀ earlier ∈ fields, Compatible text earlier field) ∧
        (text.map (value fields)).replace field.1 field.2 = text.map (value (fields ++ [field])) ∨
      (¬∀ earlier ∈ fields, Compatible text earlier field) ∧ field.2 ≠ field.1 ∧
        ∃ i : Nat, text[i]? = some field.1 ∧
          ((text.map (value fields)).replace field.1 field.2)[i]? = some field.1 := by
  obtain ⟨before, after, rfl, freshBefore, freshAfter⟩ := split_of_mem once
  have others : ∀ part : List α, field.1 ∉ part →
      part.map (value (fields ++ [field])) = part.map (value fields) := by
    intro part missing
    refine List.map_congr_left ?_
    intro symbol inside
    rw [value_concat fresh, if_neg]
    exact fun same => missing (same ▸ inside)
  have own : value fields field.1 = field.1 := value_of_not_mem fresh
  have whole : (before ++ field.1 :: after).map (value (fields ++ [field])) =
      before.map (value fields) ++ field.2 :: after.map (value fields) := by
    rw [List.map_append, List.map_cons, others before freshBefore, others after freshAfter,
      value_concat fresh, if_pos rfl]
  have looks : (∀ earlier ∈ fields, Compatible (before ++ field.1 :: after) earlier field) ↔
      (field.1 ∈ before.map (value fields) → field.2 = field.1) := by
    constructor
    · intro compatible looks
      obtain ⟨symbol, inside, same⟩ := List.mem_map.mp looks
      rcases value_eq_cases same with equal | ⟨earlier, member, marked, content⟩
      · exact absurd (equal ▸ inside) freshBefore
      · refine compatible earlier member ⟨List.mem_append_right _ List.mem_cons_self, ?_⟩ content
        rw [takeWhile_ne freshBefore, marked]
        exact inside
    · intro same earlier member stands content
      have first := stands.2
      rw [takeWhile_ne freshBefore] at first
      refine same (List.mem_map.mpr ⟨earlier.1, first, ?_⟩)
      rw [value_of_mem distinct member, content]
  rw [looks, whole, List.map_append, List.map_cons, own]
  by_cases early : field.1 ∈ before.map (value fields)
  · rw [List.replace_append_left early]
    by_cases same : field.2 = field.1
    · rw [same, replace_self]
      exact .inl ⟨fun _ => rfl, rfl⟩
    · refine .inr ⟨fun compatible => same (compatible early), same, before.length,
        getElem?_middle before after field.1, ?_⟩
      have length : ((before.map (value fields)).replace field.1 field.2).length =
          before.length := by
        rw [List.length_replace, List.length_map]
      rw [← length, getElem?_middle]
  · rw [List.replace_append_right early, List.replace_cons_self]
    exact .inl ⟨fun looks => absurd looks early, rfl⟩

/-! ## All fields -/

/-- A marker still stands where its value belongs. -/
def Stuck (fields : List (α × α)) (text : List α) : Prop :=
  ∃ field ∈ fields, field.2 ≠ field.1 ∧
    ∃ i : Nat, text[i]? = some field.1 ∧ (sequential fields text)[i]? = some field.1

theorem Stuck.concat {fields : List (α × α)} {text : List α} (stuck : Stuck fields text)
    {field : α × α} (fresh : ∀ earlier ∈ fields, earlier.1 ≠ field.1) :
    Stuck (fields ++ [field]) text := by
  obtain ⟨first, inside, changes, i, before, after⟩ := stuck
  refine ⟨first, List.mem_append_left _ inside, changes, i, before, ?_⟩
  rw [sequential_concat, List.getElem?_replace_of_ne, after]
  rw [after]
  exact fun same => fresh first inside (Option.some.inj same)

theorem Stuck.ne {fields : List (α × α)} {text : List α} (stuck : Stuck fields text)
    (distinct : (fields.map Prod.fst).Nodup) :
    sequential fields text ≠ text.map (value fields) := by
  obtain ⟨field, inside, changes, i, before, after⟩ := stuck
  intro same
  rw [same, List.getElem?_map, before, Option.map_some, value_of_mem distinct inside] at after
  exact changes (Option.some.inj after)

theorem pairwise_concat {fields : List (α × α)} {field : α × α} {text : List α} :
    (fields ++ [field]).Pairwise (Compatible text) ↔
      fields.Pairwise (Compatible text) ∧ ∀ earlier ∈ fields, Compatible text earlier field := by
  rw [List.pairwise_append]
  simp

/-- The fields are put in rightly, or one of them is stuck. -/
theorem sequential_cases {fields : List (α × α)} {text : List α}
    (distinct : (fields.map Prod.fst).Nodup) (once : ∀ field ∈ fields, text.count field.1 = 1) :
    fields.Pairwise (Compatible text) ∧ sequential fields text = text.map (value fields) ∨
      ¬fields.Pairwise (Compatible text) ∧ Stuck fields text := by
  induction fields using List.reverseRecOn with
  | nil => exact .inl ⟨.nil, (List.map_id'' (fun _ => rfl) text).symm⟩
  | append_singleton fields field ih =>
      rw [List.map_append, List.nodup_append] at distinct
      obtain ⟨distinct, -, apart⟩ := distinct
      have fresh : ∀ earlier ∈ fields, earlier.1 ≠ field.1 := fun earlier inside =>
        apart earlier.1 (List.mem_map_of_mem inside) field.1 List.mem_cons_self
      have own := once field (List.mem_append_right fields List.mem_cons_self)
      rw [pairwise_concat]
      rcases ih distinct fun earlier inside => once earlier (List.mem_append_left [field] inside)
        with ⟨compatible, right⟩ | ⟨incompatible, stuck⟩
      · rcases replace_map_cases distinct fresh own with
          ⟨all, whole⟩ | ⟨some_field, changes, i, here, kept⟩
        · refine .inl ⟨⟨compatible, all⟩, ?_⟩
          rw [sequential_concat, right, whole]
        · refine .inr ⟨fun both => some_field both.2, field,
            List.mem_append_right fields List.mem_cons_self, changes, i, here, ?_⟩
          rw [sequential_concat, right, kept]
      · exact .inr ⟨fun both => incompatible both.1, stuck.concat fresh⟩

/-- **When filling in one field after the other is right**: no value that was put in
before a later marker looks like it, unless the later value looks the same. -/
theorem sequential_eq_map_iff {fields : List (α × α)} {text : List α}
    (distinct : (fields.map Prod.fst).Nodup) (once : ∀ field ∈ fields, text.count field.1 = 1) :
    sequential fields text = text.map (value fields) ↔ fields.Pairwise (Compatible text) := by
  rcases sequential_cases distinct once with ⟨compatible, right⟩ | ⟨incompatible, stuck⟩
  · exact ⟨fun _ => compatible, fun _ => right⟩
  · exact ⟨fun right => absurd right (stuck.ne distinct),
      fun compatible => absurd compatible incompatible⟩

theorem Before.mem {text : List α} {first second : α} (stands : Before text first second) :
    first ∈ text ∧ second ∈ text :=
  ⟨(List.takeWhile_prefix _).subset stands.2, stands.1⟩

/-- **The same with fields whose markers need not occur**, which are left out then. -/
theorem sequential_filter_iff {fields : List (α × α)} {text : List α}
    (distinct : (fields.map Prod.fst).Nodup) (once : ∀ field ∈ fields, text.count field.1 ≤ 1) :
    sequential (fields.filter fun field => field.1 ∈ text) text = text.map (value fields) ↔
      fields.Pairwise (Compatible text) := by
  have same : text.map (value fields) =
      text.map (value (fields.filter fun field => field.1 ∈ text)) :=
    List.map_congr_left fun symbol inside => (value_filter inside).symm
  have distinct' : ((fields.filter fun field => field.1 ∈ text).map Prod.fst).Nodup :=
    distinct.sublist (List.filter_sublist.map Prod.fst)
  have once' : ∀ field ∈ fields.filter (fun field => field.1 ∈ text), text.count field.1 = 1 := by
    intro field inside
    obtain ⟨member, marked⟩ := List.mem_filter.mp inside
    have most := once field member
    have least := List.count_pos_iff.mpr (of_decide_eq_true marked)
    omega
  rw [same, sequential_eq_map_iff distinct' once', List.pairwise_filter]
  constructor
  · intro compatible
    refine compatible.imp ?_
    intro earlier later imposed stands
    obtain ⟨first, second⟩ := stands.mem
    exact imposed (decide_eq_true first) (decide_eq_true second) stands
  · intro compatible
    exact compatible.imp fun imposed _ _ => imposed

end OpenDataCon.Substitution

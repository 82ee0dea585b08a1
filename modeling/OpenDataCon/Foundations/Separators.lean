import Mathlib.Data.List.Basic

/-!
# Reading a text piece by piece

Reading up to a delimiter, again and again until nothing is left, gives the pieces
between the delimiters, except that a delimiter at the end of the text is not
followed by an empty piece. Joining pieces without the delimiter and reading them
back gives the same pieces, unless the last of them is empty (`pieces_intercalate`).

What has no delimiter in it occurs in a text only within a piece (`infix_closed_iff`).
-/

set_option autoImplicit false

namespace OpenDataCon.Separators

universe u

variable {α : Type u} [DecidableEq α] {delimiter : α}

/-- The pieces of a text, each read up to the delimiter or to the end. -/
def pieces (delimiter : α) : List α → List (List α)
  | [] => []
  | symbol :: rest =>
    if symbol = delimiter then [] :: pieces delimiter rest
    else
      match pieces delimiter rest with
      | [] => [[symbol]]
      | piece :: later => (symbol :: piece) :: later

@[simp] theorem pieces_nil : pieces delimiter [] = [] := rfl

@[simp] theorem pieces_delimiter (rest : List α) :
    pieces delimiter (delimiter :: rest) = [] :: pieces delimiter rest := if_pos rfl

/-- A text that is not empty has a first piece, and the pieces of the rest do not
depend on it. -/
theorem pieces_cons {symbol : α} (other : symbol ≠ delimiter) (rest : List α) :
    pieces delimiter (symbol :: rest) =
      (symbol :: (pieces delimiter rest).headD []) :: (pieces delimiter rest).tail := by
  rw [pieces, if_neg other]
  cases pieces delimiter rest with
  | nil => rfl
  | cons piece later => rfl

/-- A piece is read up to its delimiter. -/
theorem pieces_append {piece : List α} (clean : delimiter ∉ piece) (rest : List α) :
    pieces delimiter (piece ++ delimiter :: rest) = piece :: pieces delimiter rest := by
  induction piece with
  | nil => exact pieces_delimiter rest
  | cons symbol piece ih =>
      have other : symbol ≠ delimiter := fun same => clean (same ▸ List.mem_cons_self)
      rw [List.cons_append, pieces_cons other,
        ih fun inside => clean (List.mem_cons_of_mem symbol inside)]
      rfl

/-- A text without the delimiter is a single piece. -/
theorem pieces_of_clean {piece : List α} (clean : delimiter ∉ piece) (some_symbol : piece ≠ []) :
    pieces delimiter piece = [piece] := by
  induction piece with
  | nil => exact absurd rfl some_symbol
  | cons symbol piece ih =>
      have other : symbol ≠ delimiter := fun same => clean (same ▸ List.mem_cons_self)
      rw [pieces_cons other]
      by_cases last : piece = []
      · rw [last]
        rfl
      · rw [ih (fun inside => clean (List.mem_cons_of_mem symbol inside)) last]
        rfl

/-- **Joined pieces are read back**, unless the last of them is empty. -/
theorem pieces_intercalate {parts : List (List α)} (clean : ∀ part ∈ parts, delimiter ∉ part)
    (ends : ∀ part ∈ parts.getLast?, part ≠ []) :
    pieces delimiter ([delimiter].intercalate parts) = parts := by
  induction parts with
  | nil => rfl
  | cons first later ih =>
      cases later with
      | nil =>
          rw [List.intercalate_singleton]
          exact pieces_of_clean (clean first List.mem_cons_self) (ends first rfl)
      | cons second later =>
          rw [List.intercalate_cons_cons, List.append_assoc, List.singleton_append,
            pieces_append (clean first List.mem_cons_self),
            ih (fun part inside => clean part (List.mem_cons_of_mem first inside))
              fun part last => ends part (by rwa [List.getLast?_cons_cons])]

/-- A piece consists of symbols of the text that are not the delimiter. -/
theorem of_mem_pieces {text piece : List α} (member : piece ∈ pieces delimiter text) :
    ∀ symbol ∈ piece, symbol ∈ text ∧ symbol ≠ delimiter := by
  induction text generalizing piece with
  | nil => exact absurd member List.not_mem_nil
  | cons first rest ih =>
      intro symbol inside
      by_cases same : first = delimiter
      · rw [same, pieces_delimiter] at member
        rcases List.mem_cons.mp member with rfl | later
        · exact absurd inside List.not_mem_nil
        · obtain ⟨within, other⟩ := ih later symbol inside
          exact ⟨List.mem_cons_of_mem first within, other⟩
      · rw [pieces_cons same] at member
        have ofRest : ∀ piece ∈ pieces delimiter rest, symbol ∈ piece →
            symbol ∈ first :: rest ∧ symbol ≠ delimiter := by
          intro piece member inside
          obtain ⟨within, other⟩ := ih member symbol inside
          exact ⟨List.mem_cons_of_mem first within, other⟩
        rcases List.mem_cons.mp member with rfl | later
        · rcases List.mem_cons.mp inside with rfl | inside
          · exact ⟨List.mem_cons_self, same⟩
          · cases read : pieces delimiter rest with
            | nil =>
                rw [read] at inside
                exact absurd inside List.not_mem_nil
            | cons piece later =>
                rw [read] at inside
                exact ofRest piece (read ▸ List.mem_cons_self) inside
        · exact ofRest piece (List.mem_of_mem_tail later) inside

/-! ## Occurrences -/

omit [DecidableEq α] in
/-- A beginning without the delimiter does not reach past it. -/
theorem prefix_of_clean {needle piece rest : List α} (clean : delimiter ∉ needle)
    (start : needle <+: piece ++ delimiter :: rest) : needle <+: piece := by
  rcases List.prefix_or_prefix_of_prefix start (List.prefix_append piece _) with within | beyond
  · exact within
  · obtain ⟨more, rfl⟩ := beyond
    cases more with
    | nil =>
        exact ⟨[], by rw [List.append_nil, List.append_nil]⟩
    | cons symbol more =>
        obtain ⟨same, -⟩ := List.cons_prefix_cons.mp ((List.prefix_append_right_inj piece).mp start)
        exact absurd (List.mem_append_right _ (same ▸ List.mem_cons_self)) clean

omit [DecidableEq α] in
/-- What has no delimiter in it occurs before the delimiter or after it. -/
theorem infix_append_iff {needle piece rest : List α} (clean : delimiter ∉ needle)
    (some_symbol : needle ≠ []) :
    needle <:+: piece ++ delimiter :: rest ↔ needle <:+: piece ∨ needle <:+: rest := by
  have nowhere : ¬ needle <:+: [] := fun inside => some_symbol (List.eq_nil_of_infix_nil inside)
  induction piece with
  | nil =>
      rw [List.nil_append, List.infix_cons_iff]
      refine or_congr ?_ Iff.rfl
      refine iff_of_false ?_ nowhere
      intro start
      have none : needle <+: [] := prefix_of_clean clean start
      exact nowhere none.isInfix
  | cons symbol piece ih =>
      rw [List.cons_append, List.infix_cons_iff, List.infix_cons_iff, or_assoc]
      refine or_congr ?_ ih
      constructor
      · exact fun start => @prefix_of_clean α delimiter needle (symbol :: piece) rest clean start
      · exact fun start => start.trans (List.prefix_append (symbol :: piece) _)

omit [DecidableEq α] in
/-- **What has no delimiter in it occurs within a piece**, where each piece is closed by the
delimiter. -/
theorem infix_closed_iff {needle : List α} (clean : delimiter ∉ needle)
    (some_symbol : needle ≠ []) (parts : List (List α)) :
    needle <:+: (parts.flatMap fun part => part ++ [delimiter]) ↔
      ∃ part ∈ parts, needle <:+: part := by
  induction parts with
  | nil =>
      refine iff_of_false ?_ ?_
      · exact fun inside => some_symbol (List.eq_nil_of_infix_nil inside)
      · rintro ⟨part, member, -⟩
        exact List.not_mem_nil member
  | cons part parts ih =>
      rw [List.flatMap_cons, List.append_assoc, List.singleton_append,
        infix_append_iff clean some_symbol, ih]
      simp only [List.mem_cons, exists_eq_or_imp]

end OpenDataCon.Separators

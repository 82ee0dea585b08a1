import Mathlib.Data.List.TakeWhile
import Mathlib.Order.Lattice
import OpenDataCon.Foundations.Outcomes

/-!
# Loops that may stop or raise an exception

A loop over some elements collects what they decode to (`collect`), or has an effect for
each of them until one stops it (`each`). The first returns when no element raises an
exception, the second when none of those does that it comes to (`collect_returns_iff`,
`each_returns_iff`); what they give is then known from the elements one by one
(`collect_eq`, `each_effects`).
-/

set_option autoImplicit false

namespace OpenDataCon.Outcome

universe u v w

variable {α : Type w} {β : Type v} {ε X : Type u}

/-! ## Collecting -/

def collect (decode : α → Except X (Option β)) : List α → Except X (List β)
  | [] => .ok []
  | item :: items =>
    match decode item with
    | .error exception => .error exception
    | .ok value =>
      match collect decode items with
      | .error exception => .error exception
      | .ok values => .ok (value.toList ++ values)

/-- What an element decodes to, if to anything. -/
def decoded (decode : α → Except X (Option β)) (item : α) : Option β :=
  match decode item with
  | .ok value => value
  | .error _ => none

theorem decoded_eq_some {decode : α → Except X (Option β)} {item : α} {value : β} :
    decoded decode item = some value ↔ decode item = .ok (some value) := by
  rw [decoded]
  cases decode item with
  | ok result => exact ⟨congrArg Except.ok, Except.ok.inj⟩
  | error exception => exact ⟨nofun, nofun⟩

/-- **What is collected**, when no exception is raised. -/
theorem collect_eq {decode : α → Except X (Option β)} {items : List α}
    (returns : ∀ item ∈ items, ∃ value, decode item = .ok value) :
    collect decode items = .ok (items.filterMap (decoded decode)) := by
  induction items with
  | nil => rfl
  | cons item items ih =>
      obtain ⟨value, found⟩ := returns item List.mem_cons_self
      have rest := ih fun other inside => returns other (List.mem_cons_of_mem item inside)
      rw [collect, found, rest, List.filterMap_cons, decoded, found]
      cases value with
      | none => rfl
      | some value => rfl

/-- **When collecting returns**: no element raises an exception. -/
theorem collect_returns_iff {decode : α → Except X (Option β)} {items : List α} :
    (∃ values, collect decode items = .ok values) ↔
      ∀ item ∈ items, ∃ value, decode item = .ok value := by
  constructor
  · induction items with
    | nil => exact fun _ _ none => absurd none List.not_mem_nil
    | cons item items ih =>
        rintro ⟨values, collected⟩
        rw [collect] at collected
        cases found : decode item with
        | error exception =>
            rw [found] at collected
            contradiction
        | ok value =>
            cases rest : collect decode items with
            | error exception =>
                rw [found, rest] at collected
                contradiction
            | ok later =>
                intro other inside
                rcases List.mem_cons.mp inside with rfl | inside
                · exact ⟨value, found⟩
                · exact ih ⟨later, rest⟩ other inside
  · exact fun returns => ⟨_, collect_eq returns⟩

/-! ## Effects for each element -/

/-- What an element asks of its loop. -/
inductive Turn (ε : Type u) where
  | skip
  | yield (effect : ε)
  | stop

def each (turn : α → Except X (Turn ε)) : List α → Outcome ε X PUnit.{v + 1}
  | [] => ⟨[], .ok ⟨⟩⟩
  | item :: items =>
    match turn item with
    | .error exception => ⟨[], .error exception⟩
    | .ok .skip => each turn items
    | .ok (.yield effect) => ⟨effect :: (each turn items).effects, (each turn items).result⟩
    | .ok .stop => ⟨[], .ok ⟨⟩⟩

/-- Whether an element stops the loop. -/
def stops (turn : α → Except X (Turn ε)) (item : α) : Bool :=
  match turn item with
  | .ok .stop => true
  | _ => false

/-- The effect that an element asks for. -/
def yielded (turn : α → Except X (Turn ε)) (item : α) : Option ε :=
  match turn item with
  | .ok (.yield effect) => some effect
  | _ => none

theorem yielded_eq_some {turn : α → Except X (Turn ε)} {item : α} {effect : ε} :
    yielded turn item = some effect ↔ turn item = .ok (.yield effect) := by
  rw [yielded]
  cases turn item with
  | ok asked =>
      cases asked with
      | yield other => simp
      | skip | stop => exact ⟨nofun, nofun⟩
  | error exception => exact ⟨nofun, nofun⟩

theorem stops_eq_true {turn : α → Except X (Turn ε)} {item : α} :
    stops turn item = true ↔ turn item = .ok .stop := by
  rw [stops]
  cases turn item with
  | ok asked =>
      cases asked with
      | stop => exact ⟨fun _ => rfl, fun _ => rfl⟩
      | skip | yield => exact ⟨nofun, nofun⟩
  | error exception => exact ⟨nofun, nofun⟩

/-- The elements that a loop comes to, but for the one that stops it. -/
def reached (turn : α → Except X (Turn ε)) (items : List α) : List α :=
  items.takeWhile fun item => !stops turn item

variable {turn : α → Except X (Turn ε)} {items : List α}

theorem reached_cons (item : α) (items : List α) :
    reached turn (item :: items) = if stops turn item then [] else item :: reached turn items := by
  rw [reached, List.takeWhile_cons]
  cases stops turn item <;> rfl

/-- **When a loop returns**: no element that it comes to raises an exception. -/
theorem each_returns_iff :
    (each.{u, v} turn items).result = .ok ⟨⟩ ↔
      ∀ item ∈ reached turn items, ∃ asked, turn item = .ok asked := by
  induction items with
  | nil => exact ⟨fun _ _ none => absurd none List.not_mem_nil, fun _ => rfl⟩
  | cons item items ih =>
      rw [reached_cons, each, stops]
      cases found : turn item with
      | error exception =>
          constructor
          · exact nofun
          · intro returns
            obtain ⟨asked, other⟩ := returns item List.mem_cons_self
            rw [found] at other
            contradiction
      | ok asked =>
          have first : ∃ asked, turn item = .ok asked := ⟨asked, found⟩
          cases asked with
          | skip =>
              rw [if_neg Bool.false_ne_true, List.forall_mem_cons]
              exact ih.trans ⟨fun rest => ⟨first, rest⟩, And.right⟩
          | yield effect =>
              rw [if_neg Bool.false_ne_true, List.forall_mem_cons]
              exact ih.trans ⟨fun rest => ⟨first, rest⟩, And.right⟩
          | stop => exact ⟨fun _ _ none => absurd none List.not_mem_nil, fun _ => rfl⟩

/-- **What a loop does**, when it returns. -/
theorem each_effects (returns : (each.{u, v} turn items).result = .ok ⟨⟩) :
    (each.{u, v} turn items).effects = (reached turn items).filterMap (yielded turn) := by
  induction items with
  | nil => rfl
  | cons item items ih =>
      rw [each] at returns ⊢
      rw [reached_cons, stops]
      cases found : turn item with
      | error exception =>
          rw [found] at returns
          contradiction
      | ok asked =>
          rw [found] at returns
          cases asked with
          | skip =>
              rw [if_neg Bool.false_ne_true, List.filterMap_cons, yielded, found]
              exact ih returns
          | yield effect =>
              rw [if_neg Bool.false_ne_true, List.filterMap_cons, yielded, found]
              exact congrArg (List.cons effect) (ih returns)
          | stop => rfl

/-- A loop that nothing stops comes to every element. -/
theorem reached_eq (goes : ∀ item ∈ items, stops turn item = false) :
    reached turn items = items :=
  List.takeWhile_eq_self_iff.mpr fun item inside => by rw [goes item inside]; rfl

/-! ## Elements with a key -/

section Keys

variable {κ : Type w} [DecidableEq κ] {items : List (κ × α)} {make : κ × α → Option β}
  {counts : κ → β → Bool}

/-- What other keys make is not counted. -/
theorem countP_of_missing (spec : ∀ item made, make item = some made →
    ∀ key, counts key made = decide (item.1 = key)) {key : κ}
    (missing : ∀ item ∈ items, item.1 ≠ key) : (items.filterMap make).countP (counts key) = 0 := by
  rw [List.countP_eq_zero]
  intro made inside
  obtain ⟨item, member, given⟩ := List.mem_filterMap.mp inside
  rw [spec item made given key]
  simpa using missing item member

/-- **What a key makes is counted once.** -/
theorem countP_of_mem (spec : ∀ item made, make item = some made →
    ∀ key, counts key made = decide (item.1 = key)) (distinct : (items.map Prod.fst).Nodup)
    {item : κ × α} (inside : item ∈ items) {made : β} (given : make item = some made) :
    (items.filterMap make).countP (counts item.1) = 1 := by
  induction items with
  | nil => exact absurd inside List.not_mem_nil
  | cons first rest ih =>
      obtain ⟨fresh, distinct⟩ := List.nodup_cons.mp distinct
      rcases List.mem_cons.mp inside with rfl | later
      · have others : (rest.filterMap make).countP (counts item.1) = 0 :=
          countP_of_missing spec fun other member same =>
            fresh (same ▸ List.mem_map_of_mem member)
        rw [List.filterMap_cons_some given, List.countP_cons, others, spec item made given]
        simp
      · have other : first.1 ≠ item.1 := fun same => fresh (same ▸ List.mem_map_of_mem later)
        have rest_one := ih distinct later
        cases asked : make first with
        | none => rwa [List.filterMap_cons_none asked]
        | some value =>
            rw [List.filterMap_cons_some asked, List.countP_cons, rest_one,
              spec first value asked, decide_eq_false other]
            rfl

end Keys

/-- A loop over sorted elements comes to those that none up to them stops. -/
theorem mem_reached_iff {κ : Type w} [LinearOrder κ] {turn : κ × α → Except X (Turn ε)}
    {items : List (κ × α)} (sorted : (items.map Prod.fst).Pairwise (· < ·)) {item : κ × α} :
    item ∈ reached turn items ↔
      item ∈ items ∧ ∀ other ∈ items, other.1 ≤ item.1 → stops turn other = false := by
  induction items with
  | nil => simp [reached]
  | cons first rest ih =>
      obtain ⟨least, sorted⟩ := List.pairwise_cons.mp sorted
      have below : ∀ other ∈ rest, first.1 < other.1 := fun other inside =>
        least other.1 (List.mem_map_of_mem inside)
      rw [reached_cons]
      by_cases stopped : stops turn first = true
      · rw [if_pos stopped]
        refine ⟨fun none => absurd none List.not_mem_nil, ?_⟩
        rintro ⟨inside, goes⟩
        have low : first.1 ≤ item.1 := by
          rcases List.mem_cons.mp inside with rfl | later
          · exact le_rfl
          · exact (below item later).le
        rw [goes first List.mem_cons_self low] at stopped
        contradiction
      · rw [if_neg stopped, List.mem_cons, ih sorted]
        constructor
        · rintro (rfl | ⟨inside, goes⟩)
          · refine ⟨List.mem_cons_self, ?_⟩
            intro other member low
            rcases List.mem_cons.mp member with rfl | later
            · exact Bool.eq_false_iff.mpr stopped
            · exact absurd low (not_le_of_gt (below other later))
          · refine ⟨List.mem_cons_of_mem first inside, ?_⟩
            intro other member low
            rcases List.mem_cons.mp member with rfl | later
            · exact Bool.eq_false_iff.mpr stopped
            · exact goes other later low
        · rintro ⟨inside, goes⟩
          rcases List.mem_cons.mp inside with rfl | later
          · exact .inl rfl
          · exact .inr ⟨later, fun other member low =>
              goes other (List.mem_cons_of_mem first member) low⟩

/-! ## One call after the other -/

theorem bind_returns_iff {γ : Type v} {first : Outcome ε X β} {next : β → Outcome ε X γ}
    {value : γ} :
    (first >>= next).result = .ok value ↔
      ∃ reached, first.result = .ok reached ∧ (next reached).result = .ok value := by
  cases given : first.result with
  | ok reached =>
      rw [bind_of_ok given]
      constructor
      · exact fun returns => ⟨reached, rfl, returns⟩
      · rintro ⟨other, ⟨⟩, returns⟩
        exact returns
  | error exception =>
      rw [bind_of_error given]
      exact ⟨nofun, fun ⟨_, found, _⟩ => nomatch found⟩

end OpenDataCon.Outcome

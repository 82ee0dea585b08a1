import Mathlib.Data.List.Basic
import OpenDataCon.Foundations.Runs

/-!
# Handing over what was taken

A server that answers a request takes items from its store and puts them into
the answer. An answer on its way may be dropped, answers may overtake one
another, and a request may be served again. The ledger keeps what was taken for
every request and what was handed over with the answers that arrived.

A request that is served again is covered (`Covered`) when everything taken for
it so far was handed over, and something new is taken only while it has no
answer, delivered or on its way. In a run of covered events, whatever was taken
for an answered request was handed over (`run_settled`).
-/

set_option autoImplicit false

namespace OpenDataCon.Handover

open Runs

universe u v

variable {κ : Type u} {α : Type v}

/-! ## The ledger -/

/-- The answers on their way, the requests that were answered, and the items that
were taken for a request or handed over for it, in order. -/
structure Ledger (κ : Type u) (α : Type v) where
  inFlight : List (κ × List α) := []
  answered : List κ := []
  taken : List (κ × α) := []
  handed : List (κ × α) := []

/-- What can happen: a request is served, or an answer is dropped or delivered. -/
inductive Event (κ : Type u) (α : Type v) where
  | serve (key : κ) (items : List α)
  | drop (position : Nat)
  | deliver (position : Nat)

/-- Some items, entered under a request. -/
def tagged (key : κ) (items : List α) : List (κ × α) := items.map fun item => (key, item)

/-- One event; a delivery puts out what it hands over. -/
def step (ledger : Ledger κ α) : Event κ α → Ledger κ α × List (κ × α)
  | .serve key items =>
    ({ ledger with
        inFlight := ledger.inFlight ++ [(key, items)]
        taken := ledger.taken ++ tagged key items }, [])
  | .drop position => ({ ledger with inFlight := ledger.inFlight.eraseIdx position }, [])
  | .deliver position =>
    match ledger.inFlight[position]? with
    | none => (ledger, [])
    | some answer =>
      ({ ledger with
          inFlight := ledger.inFlight.eraseIdx position
          answered := ledger.answered ++ [answer.1]
          handed := ledger.handed ++ tagged answer.1 answer.2 }, tagged answer.1 answer.2)

section Keys

variable [DecidableEq κ]

/-- The items entered under a request. -/
def itemsOf (key : κ) (entries : List (κ × α)) : List α :=
  (entries.filter fun entry => entry.1 = key).map Prod.snd

@[simp] theorem itemsOf_nil (key : κ) : itemsOf key ([] : List (κ × α)) = [] := rfl

@[simp] theorem itemsOf_append (key : κ) (first second : List (κ × α)) :
    itemsOf key (first ++ second) = itemsOf key first ++ itemsOf key second := by
  simp [itemsOf]

@[simp] theorem itemsOf_tagged_self (key : κ) (items : List α) :
    itemsOf key (tagged key items) = items := by
  simp [itemsOf, tagged, List.filter_map, Function.comp_def]

theorem itemsOf_tagged_of_ne {key other : κ} (apart : key ≠ other) (items : List α) :
    itemsOf other (tagged key items) = [] := by
  simp [itemsOf, tagged, List.filter_map, Function.comp_def, apart]

/-- Everything taken for an answered request was handed over. -/
def Settled (ledger : Ledger κ α) : Prop :=
  ∀ key ∈ ledger.answered, itemsOf key ledger.handed = itemsOf key ledger.taken

/-- When a request may be served: what was taken for it before has arrived, and
something is taken only while it has no answer, delivered or on its way. -/
def Covered (ledger : Ledger κ α) : Event κ α → Prop
  | .serve key items =>
    itemsOf key ledger.handed = itemsOf key ledger.taken ∧
      (items = [] ∨ key ∉ ledger.answered ∧ ∀ answer ∈ ledger.inFlight, answer.1 ≠ key)
  | .drop _ => True
  | .deliver _ => True

/-! ## The account of a request -/

/-- The account of a request: either all is settled and the answers on their way
are empty, or it has no answer yet and what was taken is in the one answer that
is on its way, or was dropped. -/
structure Accounted (ledger : Ledger κ α) (key : κ) : Prop where
  unanswered : key ∉ ledger.answered → itemsOf key ledger.handed = []
  carried :
    (itemsOf key ledger.handed = itemsOf key ledger.taken ∧
        ∀ answer ∈ ledger.inFlight, answer.1 = key → answer.2 = []) ∨
      (key ∉ ledger.answered ∧
        ((ledger.inFlight.filter fun answer => answer.1 = key) = [] ∨
          (ledger.inFlight.filter fun answer => answer.1 = key) =
            [(key, itemsOf key ledger.taken)]))

/-- An answered request is settled. -/
theorem Accounted.settled {ledger : Ledger κ α} {key : κ} (accounted : Accounted ledger key)
    (isAnswered : key ∈ ledger.answered) :
    itemsOf key ledger.handed = itemsOf key ledger.taken := by
  rcases accounted.carried with ⟨settled, -⟩ | ⟨unanswered, -⟩
  · exact settled
  · exact absurd isAnswered unanswered

theorem accounted_empty (key : κ) : Accounted ({} : Ledger κ α) key :=
  ⟨fun _ => rfl, Or.inl ⟨rfl, nofun⟩⟩

/-- The entry at a position, and what is left without it. -/
theorem exists_split_of_getElem? {β : Type*} {entries : List β} {position : Nat} {entry : β}
    (here : entries[position]? = some entry) :
    ∃ before after, entries = before ++ entry :: after ∧
      entries.eraseIdx position = before ++ after := by
  obtain ⟨inside, rfl⟩ := List.getElem?_eq_some_iff.mp here
  refine ⟨entries.take position, entries.drop (position + 1), ?_, ?_⟩
  · rw [List.getElem_cons_drop, List.take_append_drop]
  · exact List.eraseIdx_eq_take_drop_succ entries position

/-- A covered service keeps every account. -/
theorem serve_accounted {ledger : Ledger κ α} {key : κ} {items : List α}
    (accounted : ∀ other, Accounted ledger other)
    (covered : Covered ledger (.serve key items)) (other : κ) :
    Accounted (step ledger (.serve key items)).1 other := by
  obtain ⟨unanswered, carried⟩ := accounted other
  by_cases same : key = other
  · subst same
    obtain ⟨settled, none | ⟨open_, alone⟩⟩ := covered
    · -- nothing is taken: an empty answer goes out
      subst none
      have emptied : ∀ answer ∈ ledger.inFlight, answer.1 = key → answer.2 = [] := by
        intro answer member own
        have mine : answer ∈ ledger.inFlight.filter fun answer => answer.1 = key :=
          List.mem_filter.mpr ⟨member, decide_eq_true own⟩
        rcases carried with ⟨-, emptied⟩ | ⟨notAnswered, noAnswer | oneAnswer⟩
        · exact emptied answer member own
        · rw [noAnswer] at mine
          cases mine
        · rw [oneAnswer, List.mem_singleton] at mine
          rw [mine, ← settled, unanswered notAnswered]
      refine ⟨unanswered, Or.inl ⟨?_, ?_⟩⟩
      · simpa [step, tagged] using settled
      · intro answer member own
        rcases List.mem_append.mp member with before | new
        · exact emptied answer before own
        · rw [List.mem_singleton.mp new]
    · -- the first items of a request without answers
      have nothing := unanswered open_
      have noAnswer : (ledger.inFlight.filter fun answer => answer.1 = key) = [] :=
        List.filter_eq_nil_iff.mpr fun answer member => by simpa using alone answer member
      refine ⟨unanswered, Or.inr ⟨open_, Or.inr ?_⟩⟩
      simp [step, List.filter_append, noAnswer, ← settled, nothing]
  · have elsewhere : itemsOf other (ledger.taken ++ tagged key items) =
        itemsOf other ledger.taken := by
      rw [itemsOf_append, itemsOf_tagged_of_ne same, List.append_nil]
    refine ⟨unanswered, ?_⟩
    simp only [step, elsewhere]
    refine carried.imp (fun ⟨settled, emptied⟩ => ⟨settled, ?_⟩) (fun ⟨open_, flying⟩ => ⟨open_, ?_⟩)
    · intro answer member own
      rcases List.mem_append.mp member with before | new
      · exact emptied answer before own
      · rw [List.mem_singleton.mp new] at own
        exact absurd own same
    · simpa [List.filter_append, same] using flying

/-- A dropped answer keeps every account. -/
theorem drop_accounted {ledger : Ledger κ α} {key : κ} (accounted : Accounted ledger key)
    (position : Nat) : Accounted (step ledger (.drop position)).1 key := by
  obtain ⟨unanswered, carried⟩ := accounted
  refine ⟨unanswered, ?_⟩
  have fewer : (ledger.inFlight.eraseIdx position).Sublist ledger.inFlight :=
    List.eraseIdx_sublist ..
  refine carried.imp (fun ⟨settled, emptied⟩ => ⟨settled, ?_⟩) (fun ⟨open_, flying⟩ => ⟨open_, ?_⟩)
  · exact fun answer member => emptied answer (fewer.subset member)
  · have left := fewer.filter fun answer => decide (answer.1 = key)
    rcases flying with noAnswer | oneAnswer
    · rw [noAnswer] at left
      exact Or.inl (List.sublist_nil.mp left)
    · rw [oneAnswer] at left
      exact List.sublist_singleton.mp left

/-- A delivered answer keeps every account. -/
theorem deliver_accounted {ledger : Ledger κ α} {key : κ} (accounted : Accounted ledger key)
    (position : Nat) : Accounted (step ledger (.deliver position)).1 key := by
  obtain ⟨unanswered, carried⟩ := accounted
  cases here : ledger.inFlight[position]? with
  | none =>
      simp only [step, here]
      exact ⟨unanswered, carried⟩
  | some answer =>
      obtain ⟨before, after, split, left⟩ := exists_split_of_getElem? here
      obtain ⟨owner, items⟩ := answer
      simp only [step, here, left]
      rw [split] at carried
      by_cases own : owner = key
      · subst own
        refine ⟨fun open_ => absurd (by simp) open_, Or.inl ?_⟩
        rcases carried with ⟨settled, emptied⟩ | ⟨notAnswered, noAnswer | oneAnswer⟩
        · have nothing : items = [] := emptied (owner, items) (by simp) rfl
          refine ⟨by simpa [nothing] using settled, fun answer member => emptied answer ?_⟩
          simp only [List.mem_append, List.mem_cons] at member ⊢
          tauto
        · simp [List.filter_append] at noAnswer
        · -- the one answer on its way is the one that arrives
          simp only [List.filter_append, List.filter_cons, decide_true, if_true] at oneAnswer
          have count := congrArg List.length oneAnswer
          simp only [List.length_append, List.length_cons, List.length_nil] at count
          have noneBefore : (before.filter fun answer => decide (answer.1 = owner)) = [] :=
            List.length_eq_zero_iff.mp (by omega)
          have noneAfter : (after.filter fun answer => decide (answer.1 = owner)) = [] :=
            List.length_eq_zero_iff.mp (by omega)
          rw [noneBefore, noneAfter] at oneAnswer
          have carries : items = itemsOf owner ledger.taken := by simpa using oneAnswer
          refine ⟨by simp [unanswered notAnswered, carries], fun answer member mine => ?_⟩
          rcases List.mem_append.mp member with first | second
          · exact absurd (decide_eq_true mine) (List.filter_eq_nil_iff.mp noneBefore answer first)
          · exact absurd (decide_eq_true mine) (List.filter_eq_nil_iff.mp noneAfter answer second)
      · have elsewhere : itemsOf key (ledger.handed ++ tagged owner items) =
            itemsOf key ledger.handed := by
          rw [itemsOf_append, itemsOf_tagged_of_ne own, List.append_nil]
        have stays : key ∉ ledger.answered ++ [owner] ↔ key ∉ ledger.answered := by
          simp [Ne.symm own]
        refine ⟨fun open_ => elsewhere.trans (unanswered (stays.mp open_)), ?_⟩
        simp only [elsewhere]
        refine carried.imp (fun ⟨settled, emptied⟩ => ⟨settled, ?_⟩)
          (fun ⟨open_, flying⟩ => ⟨stays.mpr open_, ?_⟩)
        · intro answer member
          refine emptied answer ?_
          simp only [List.mem_append, List.mem_cons] at member ⊢
          tauto
        · simpa [List.filter_append, own] using flying

/-- **A covered event keeps every account.** -/
theorem step_accounted {ledger : Ledger κ α} (accounted : ∀ key, Accounted ledger key)
    {event : Event κ α} (covered : Covered ledger event) (key : κ) :
    Accounted (step ledger event).1 key := by
  cases event with
  | serve served items => exact serve_accounted accounted covered key
  | drop position => exact drop_accounted (accounted key) position
  | deliver position => exact deliver_accounted (accounted key) position

/-- **In every run of covered events, what was taken for an answered request was
handed over.** -/
theorem run_settled {ledger : Ledger κ α} (accounted : ∀ key, Accounted ledger key)
    {events : List (Event κ α)} (guarded : Guarded step Covered ledger events) :
    Settled (run step ledger events).1 := by
  have all : ∀ key, Accounted (run step ledger events).1 key :=
    guarded_invariant (fun ledger => ∀ key, Accounted ledger key)
      (fun _ _ accounted covered => step_accounted accounted covered) accounted guarded
  exact fun key isAnswered => (all key).settled isAnswered

end Keys

end OpenDataCon.Handover

import Mathlib.Data.List.Basic

/-!
# Answers that are sent again

A server takes items from its store for a request and puts them into the answer. It keeps its
last answer, and may send it again instead of taking anything. Answers may be dropped. The client
has one request at a time and takes an answer for it, which may be the answer to another one.

A safe event (`Safe`) takes items for a request that has nothing outstanding and no answer that
could be taken in their place, sends the kept answer for the request it was made for, and has the
client take the answer to its own request. As long as events are safe, everything that was taken
for a request has been handed over when the request has succeeded (`step_covered`).
-/

set_option autoImplicit false

namespace OpenDataCon.Redelivery

universe u v

variable {κ : Type u} {α : Type v}

/-! ## The ledger -/

/-- An answer: the request it is sent for, and its items, each with the request it was taken
for. -/
structure Answer (κ : Type u) (α : Type v) where
  request : κ
  entries : List (κ × α) := []
deriving DecidableEq

/-- The answers on their way, the one that is kept, the requests that the client takes to have
succeeded, and the items that were taken and handed over. -/
structure Ledger (κ : Type u) (α : Type v) where
  inFlight : List (Answer κ α) := []
  kept : Option (Answer κ α) := none
  succeeded : List κ := []
  taken : List (κ × α) := []
  handed : List (κ × α) := []

/-- A request is served with items; it is served with the kept answer, or with an answer of
another kind; an answer is dropped; an answer comes to the client, which may look into it, and
may take it for its current request. -/
inductive Event (κ : Type u) (α : Type v) where
  | serve (request : κ) (items : List α)
  | serveAgain (request : κ)
  | serveOther (request : κ)
  | drop (position : Nat)
  | receive (current : κ) (handed accepted : Bool)

/-- What the kept answer has. -/
def Ledger.keptEntries (ledger : Ledger κ α) : List (κ × α) :=
  ledger.kept.elim [] Answer.entries

def step (ledger : Ledger κ α) : Event κ α → Ledger κ α
  | .serve request items =>
    let answer : Answer κ α := { request, entries := items.map fun item => (request, item) }
    { ledger with
      inFlight := ledger.inFlight ++ [answer]
      kept := some answer
      taken := ledger.taken ++ answer.entries }
  | .serveAgain request =>
    { ledger with inFlight := ledger.inFlight ++ [{ request, entries := ledger.keptEntries }] }
  | .serveOther request => { ledger with inFlight := ledger.inFlight ++ [{ request }] }
  | .drop position => { ledger with inFlight := ledger.inFlight.eraseIdx position }
  | .receive current handed accepted =>
    match ledger.inFlight with
    | [] => ledger
    | answer :: rest =>
      { ledger with
        inFlight := rest
        handed := if handed then ledger.handed ++ answer.entries else ledger.handed
        succeeded := if accepted then ledger.succeeded ++ [current] else ledger.succeeded }

namespace Ledger

/-- Everything taken for the request has been handed over. -/
def Settled (ledger : Ledger κ α) (request : κ) : Prop :=
  ∀ entry ∈ ledger.taken, entry.1 = request → entry ∈ ledger.handed

instance [DecidableEq κ] [DecidableEq α] (ledger : Ledger κ α) (request : κ) :
    Decidable (ledger.Settled request) :=
  inferInstanceAs (Decidable (∀ entry ∈ _, _))

/-- When nothing gets lost. Items are taken for a request only while it has no answer on its way
and has not succeeded, and nothing taken for it before is outstanding. The kept answer goes to
the request it was made for, or to one with nothing outstanding. The client takes the answer to
its current request, after it has looked into it, or has nothing outstanding for it. -/
def Safe (ledger : Ledger κ α) : Event κ α → Prop
  | .serve request items =>
    ledger.Settled request ∧
      (items = [] ∨ request ∉ ledger.succeeded ∧
        ∀ answer ∈ ledger.inFlight, answer.request ≠ request)
  | .serveAgain request =>
    (∃ answer ∈ ledger.kept, answer.request = request) ∨ ledger.Settled request
  | .serveOther request => ledger.Settled request
  | .drop _ => True
  | .receive current handed accepted =>
    accepted = true → ∀ answer ∈ ledger.inFlight.head?,
      answer.request = current ∧ (handed = true ∨ answer.entries = []) ∨ ledger.Settled current

/-- The answer has everything that is outstanding for its request. -/
def Covers (ledger : Ledger κ α) (answer : Answer κ α) : Prop :=
  ∀ entry ∈ ledger.taken, entry.1 = answer.request →
    entry ∈ ledger.handed ∨ entry ∈ answer.entries

/-- Every answer covers its request, and the requests that have succeeded are settled. -/
structure Covered (ledger : Ledger κ α) : Prop where
  inFlight : ∀ answer ∈ ledger.inFlight, ledger.Covers answer
  kept : ∀ answer ∈ ledger.kept, ledger.Covers answer
  settled : ∀ request ∈ ledger.succeeded, ledger.Settled request

theorem covered_empty : ({} : Ledger κ α).Covered where
  inFlight := fun _ member => absurd member List.not_mem_nil
  kept := fun answer member => absurd member (Option.not_mem_none answer)
  settled := fun _ member => absurd member List.not_mem_nil

variable {ledger : Ledger κ α}

/-- An answer of a settled request covers it, whatever it has. -/
theorem Settled.covers {request : κ} (settled : ledger.Settled request)
    (entries : List (κ × α)) : ledger.Covers { request, entries } :=
  fun entry taken own => .inl (settled entry taken own)

theorem serve_covered (covered : ledger.Covered) {request : κ} {items : List α}
    (safe : ledger.Safe (.serve request items)) : (step ledger (.serve request items)).Covered := by
  obtain ⟨settled, fresh⟩ := safe
  -- What is new is taken for this request, and it is in the new answer.
  have taken : ∀ entry ∈ ledger.taken ++ items.map fun item => (request, item),
      entry ∈ ledger.taken ∨ entry.1 = request ∧ entry ∈ items.map fun item => (request, item) := by
    intro entry member
    rcases List.mem_append.mp member with before | new
    · exact .inl before
    · refine .inr ⟨?_, new⟩
      obtain ⟨item, -, rfl⟩ := List.mem_map.mp new
      rfl
  have newCovers : (step ledger (.serve request items)).Covers
      { request, entries := items.map fun item => (request, item) } := by
    intro entry member own
    rcases taken entry member with before | ⟨-, new⟩
    · exact .inl (settled entry before own)
    · exact .inr new
  have others : ∀ answer : Answer κ α, ledger.Covers answer →
      answer.request ≠ request ∨ items = [] → (step ledger (.serve request items)).Covers answer := by
    intro answer covers apart entry member own
    rcases taken entry member with before | ⟨here, new⟩
    · exact covers entry before own
    · rcases apart with other | none
      · exact absurd (own.symm.trans here) other
      · rw [none] at new
        cases new
  refine { inFlight := ?_, kept := ?_, settled := ?_ }
  · intro answer member
    rcases List.mem_append.mp member with before | new
    · refine others answer (covered.inFlight answer before) ?_
      exact fresh.symm.imp (fun alone => alone.2 answer before) id
    · rw [List.mem_singleton.mp new]
      exact newCovers
  · intro answer isKept
    rw [← Option.mem_some.mp isKept]
    exact newCovers
  · intro other succeeded entry member own
    rcases taken entry member with before | ⟨here, new⟩
    · exact covered.settled other succeeded entry before own
    · rcases fresh with none | ⟨open_, -⟩
      · rw [none] at new
        cases new
      · exact absurd (here.symm.trans own ▸ succeeded) open_

theorem serveAgain_covered (covered : ledger.Covered) {request : κ}
    (safe : ledger.Safe (.serveAgain request)) : (step ledger (.serveAgain request)).Covered where
  inFlight := by
    intro answer member
    rcases List.mem_append.mp member with before | new
    · exact covered.inFlight answer before
    · rw [List.mem_singleton.mp new]
      rcases safe with ⟨kept, isKept, rfl⟩ | settled
      · have entries : ledger.keptEntries = kept.entries := by
          rw [keptEntries, Option.mem_def.mp isKept]
          rfl
        rw [entries]
        exact covered.kept kept isKept
      · exact settled.covers _
  kept := covered.kept
  settled := covered.settled

theorem receive_covered (covered : ledger.Covered) {current : κ} {handed accepted : Bool}
    (safe : ledger.Safe (.receive current handed accepted)) :
    (step ledger (.receive current handed accepted)).Covered := by
  unfold step
  cases flying : ledger.inFlight with
  | nil => exact covered
  | cons answer rest =>
      have more : ∀ entry, entry ∈ ledger.handed →
          entry ∈ if handed then ledger.handed ++ answer.entries else ledger.handed := by
        intro entry before
        split
        · exact List.mem_append_left _ before
        · exact before
      refine { inFlight := ?_, kept := ?_, settled := ?_ }
      · intro other member entry taken own
        exact (covered.inFlight other (flying ▸ .tail _ member) entry taken own).imp_left
          (more entry)
      · intro other isKept entry taken own
        exact (covered.kept other isKept entry taken own).imp_left (more entry)
      · intro request succeeded entry taken own
        have accept : request ∈ ledger.succeeded ∨ accepted = true ∧ request = current := by
          cases accepted with
          | true => exact (List.mem_append.mp succeeded).imp_right fun new =>
              ⟨rfl, List.mem_singleton.mp new⟩
          | false => exact .inl succeeded
        rcases accept with before | ⟨isAccepted, rfl⟩
        · exact more entry (covered.settled request before entry taken own)
        · rcases safe isAccepted answer (flying ▸ rfl) with ⟨isOwn, looked⟩ | settled
          · have covers := covered.inFlight answer (flying ▸ .head _) entry taken
              (own.trans isOwn.symm)
            rcases covers with before | here
            · exact more entry before
            · rcases looked with isHanded | empty
              · have looked : entry ∈
                    if handed then ledger.handed ++ answer.entries else ledger.handed := by
                  rw [if_pos isHanded]
                  exact List.mem_append_right _ here
                exact looked
              · rw [empty] at here
                cases here
          · exact more entry (settled entry taken own)

/-- **A safe event keeps the ledger covered.** -/
theorem step_covered (covered : ledger.Covered) {event : Event κ α} (safe : ledger.Safe event) :
    (step ledger event).Covered := by
  cases event with
  | serve request items => exact serve_covered covered safe
  | serveAgain request => exact serveAgain_covered covered safe
  | serveOther request =>
      refine { inFlight := ?_, kept := covered.kept, settled := covered.settled }
      intro answer member
      rcases List.mem_append.mp member with before | new
      · exact covered.inFlight answer before
      · rw [List.mem_singleton.mp new]
        exact safe.covers _
  | drop position =>
      exact
        { inFlight := fun answer member =>
            covered.inFlight answer (List.mem_of_mem_eraseIdx member)
          kept := covered.kept
          settled := covered.settled }
  | receive current handed accepted => exact receive_covered covered safe

end Ledger

end OpenDataCon.Redelivery

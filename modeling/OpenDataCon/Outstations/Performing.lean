import Mathlib.Algebra.BigOperators.Group.List.Basic
import Mathlib.Algebra.GroupWithZero.Nat
import OpenDataCon.Connectors.MultiCallback

/-!
# Performing a control

The outstations of Conitel and of MD3 hand a control to their subscribers with the same function,
`Perform`. It calls the status callback itself when the port is disabled, and when it does not wait
for a result; in the end it always publishes the event with the callback. Each subscriber answers
each event that it receives once, at any time after it was published, and a closure made by
`SyncMultiCallback` collects the answers when there are two subscribers or more.

`step` takes these parts one at a time, in any order. What is still due of calls of the callback
goes down by one with each of them (`step_due`). So when nothing is left to be done the callback
was called once for each call that `Perform` makes and once for each event published with it
(`run_called_length`), and each subscriber received each event that was published
(`run_received`).
-/

set_option autoImplicit false

namespace OpenDataCon.Outstations

open Connectors Runs

/-! ## What is performed -/

/-- What is done with a control: the status callback is called, or the event is published, with
the callback or without. -/
inductive Action (ε : Type) where
  | call (status : CommandStatus)
  | publish (event : ε) (callback : Bool)
deriving DecidableEq, Repr

/-- `Perform`. The branches before the last line do not return. -/
def perform {ε : Type} (enabled waitforresult : Bool) (event : ε) : List (Action ε) :=
  (if !enabled then [.call .UNDEFINED] else []) ++
    (if !waitforresult then [.publish event false, .call .SUCCESS] else []) ++
    [.publish event true]

/-- An event that was published: whether with the callback, the subscribers that have not answered
it, and the closure of its answers. -/
structure Publication where
  callback : Bool
  waiting : List Nat
  closure : MultiCallback
deriving DecidableEq, Repr

/-- An event that was given to so many subscribers. -/
def Publication.new (subscribers : Nat) (callback : Bool) : Publication where
  callback := callback
  waiting := List.range subscribers
  closure := .new subscribers

/-- An answer, and the calls it leads to. A single subscriber has the callback itself. -/
def Publication.answer (publication : Publication) (subscriber : Nat) (status : CommandStatus) :
    Publication × List CommandStatus :=
  let left := publication.waiting.erase subscriber
  if !publication.callback then ({ publication with waiting := left }, [])
  else if publication.closure.cbNumber < 2 then
    ({ publication with waiting := left }, [status])
  else
    let called := publication.closure.call status
    ({ publication with waiting := left, closure := called.1 }, called.2)

/-- What is left of the actions, and what was published. -/
structure Performing (ε : Type) where
  todo : List (Action ε)
  published : List Publication := []
deriving DecidableEq, Repr

/-- The next action is taken, or a subscriber answers an event. -/
inductive Input where
  | next
  | answer (publication subscriber : Nat) (status : CommandStatus)
deriving DecidableEq, Repr

/-- An event that a subscriber receives, or a call of the status callback. -/
inductive Output (ε : Type) where
  | event (subscriber : Nat) (event : ε)
  | called (status : CommandStatus)
deriving DecidableEq, Repr

section Machine

variable {ε : Type} (subscribers : Nat)

/-- A subscriber answers an event once. -/
def step (state : Performing ε) : Input → Performing ε × List (Output ε)
  | .next =>
    match state.todo with
    | [] => (state, [])
    | .call status :: rest => ({ state with todo := rest }, [.called status])
    | .publish event callback :: rest =>
      ({ todo := rest, published := state.published ++ [.new subscribers callback] },
        (List.range subscribers).map (.event · event))
  | .answer index subscriber status =>
    match state.published[index]? with
    | none => (state, [])
    | some publication =>
      if subscriber ∈ publication.waiting then
        let answered := publication.answer subscriber status
        ({ state with published := state.published.set index answered.1 },
          answered.2.map .called)
      else (state, [])

/-- Every action was taken, and every event was answered. -/
def Done (state : Performing ε) : Prop :=
  state.todo = [] ∧ ∀ publication ∈ state.published, publication.waiting = []

instance (state : Performing ε) : Decidable (Done state) :=
  decidable_of_iff (state.todo.isEmpty = true ∧
    ∀ publication ∈ state.published, publication.waiting = []) (by rw [List.isEmpty_iff, Done])

/-- The events that a subscriber received. -/
def received (subscriber : Nat) (outputs : List (Output ε)) : List ε :=
  outputs.filterMap fun output =>
    match output with
    | .event other event => if other = subscriber then some event else none
    | .called _ => none

/-- The calls of the status callback. -/
def called (outputs : List (Output ε)) : List CommandStatus :=
  outputs.filterMap fun output =>
    match output with
    | .event .. => none
    | .called status => some status

/-- The events among some actions. -/
def events (actions : List (Action ε)) : List ε :=
  actions.filterMap fun action =>
    match action with
    | .call _ => none
    | .publish event _ => some event

/-- The calls that an action leads to. -/
def calls : Action ε → Nat
  | .call _ => 1
  | .publish _ callback => if callback then 1 else 0

/-! ## What is received -/

theorem received_append (subscriber : Nat) (first second : List (Output ε)) :
    received subscriber (first ++ second) =
      received subscriber first ++ received subscriber second :=
  List.filterMap_append

theorem called_append (first second : List (Output ε)) :
    called (first ++ second) = called first ++ called second :=
  List.filterMap_append

/-- An event that is published goes to each subscriber once. -/
theorem received_publish (event : ε) (subscriber : Nat) :
    received subscriber ((List.range subscribers).map (Output.event · event)) =
      if subscriber < subscribers then [event] else [] := by
  induction subscribers with
  | zero => rfl
  | succ count ih =>
      rw [List.range_succ, List.map_append, received_append, ih]
      by_cases last : subscriber = count
      · subst last
        simp [received]
      · have before : subscriber < count + 1 ↔ subscriber < count := by omega
        simp [received, before, Ne.symm last]

theorem called_publish (event : ε) :
    called ((List.range subscribers).map (Output.event · event)) = [] := by
  rw [called, List.filterMap_map]
  exact List.filterMap_eq_nil_iff.mpr fun _ _ => rfl

theorem received_called (subscriber : Nat) (statuses : List CommandStatus) :
    received subscriber (statuses.map (Output.called : CommandStatus → Output ε)) = [] := by
  rw [received, List.filterMap_map]
  exact List.filterMap_eq_nil_iff.mpr fun _ _ => rfl

theorem called_called (statuses : List CommandStatus) :
    called (statuses.map (Output.called : CommandStatus → Output ε)) = statuses := by
  rw [called, List.filterMap_map]
  exact List.filterMap_some

variable {subscribers}

/-- What was received and what is still to be published are together what was to be. -/
theorem step_received {subscriber : Nat} (subscribed : subscriber < subscribers)
    (state : Performing ε) (input : Input) :
    received subscriber (step subscribers state input).2 ++
        events (step subscribers state input).1.todo = events state.todo := by
  cases input with
  | next =>
      obtain ⟨todo, published⟩ := state
      cases todo with
      | nil => rfl
      | cons action rest =>
          cases action with
          | call status => rfl
          | publish event callback =>
              simp only [step, received_publish, if_pos subscribed]
              rfl
  | answer index other status =>
      simp only [step]
      split
      · rfl
      · split
        · simp only [received_called, List.nil_append]
        · rfl

/-- **Each subscriber receives the events in their order.** -/
theorem run_received {subscriber : Nat} (subscribed : subscriber < subscribers)
    {state : Performing ε} {inputs : List Input}
    (done : Done (run (step subscribers) state inputs).1) :
    received subscriber (run (step subscribers) state inputs).2 = events state.todo := by
  have together : received subscriber (run (step subscribers) state inputs).2 ++
      events (run (step subscribers) state inputs).1.todo = events state.todo := by
    clear done
    induction inputs generalizing state with
    | nil => rfl
    | cons input rest ih =>
        rw [run_cons, received_append, List.append_assoc, ih, step_received subscribed]
  rw [done.1] at together
  exact (List.append_nil _).symm.trans together

/-! ## What is called -/

/-- The calls that a closure still makes. -/
def remaining (cb : MultiCallback) : Nat :=
  if cb.combinedStatus = .UNDEFINED then 0 else if cb.execCount < cb.cbNumber then 1 else 0

/-- The calls that an event still leads to. -/
def Publication.due (publication : Publication) : Nat :=
  if !publication.callback then 0
  else if publication.closure.cbNumber < 2 then publication.waiting.length
  else remaining publication.closure

/-- The closure of an event counts its answers as long as it may call. -/
def Publication.Sound (publication : Publication) : Prop :=
  publication.callback = true → 2 ≤ publication.closure.cbNumber →
    publication.closure.combinedStatus ≠ .UNDEFINED →
    publication.closure.execCount + publication.waiting.length = publication.closure.cbNumber

/-- What the actions and the events lead to. -/
def due (state : Performing ε) : Nat :=
  (state.todo.map calls).sum + (state.published.map Publication.due).sum

end Machine

/-- **A closure that has room calls as it should.** -/
theorem call_remaining {cb : MultiCallback} (several : 2 ≤ cb.cbNumber)
    (room : cb.combinedStatus ≠ .UNDEFINED → cb.execCount < cb.cbNumber)
    (status : CommandStatus) :
    (cb.call status).2.length + remaining (cb.call status).1 = remaining cb := by
  by_cases dead : cb.combinedStatus = .UNDEFINED
  · rw [MultiCallback.call_undefined cb dead, List.length_nil, Nat.zero_add]
  · have before : remaining cb = 1 := by rw [remaining, if_neg dead, if_pos (room dead)]
    rw [before]
    by_cases fresh : cb.execCount = 0
    · rw [MultiCallback.call_first cb dead fresh]
      by_cases none : status = .UNDEFINED
      · simp [none, remaining]
      · have many : ¬cb.cbNumber ≤ 1 := by omega
        simp [none, many, remaining]
    · by_cases agrees : status = cb.combinedStatus
      · rw [agrees, MultiCallback.call_agrees cb dead fresh]
        by_cases last : cb.cbNumber ≤ cb.execCount + 1
        · have full : ¬cb.execCount + 1 < cb.cbNumber := by omega
          simp [remaining, dead, last, full]
        · have more : cb.execCount + 1 < cb.cbNumber := by omega
          simp [remaining, dead, last, more]
      · rw [MultiCallback.call_differs cb dead fresh agrees]
        simp [remaining]

/-- A closure that still counts has counted the call. -/
theorem call_counted {cb : MultiCallback} {status : CommandStatus}
    (live : (cb.call status).1.combinedStatus ≠ .UNDEFINED) :
    cb.combinedStatus ≠ .UNDEFINED ∧ (cb.call status).1.execCount = cb.execCount + 1 := by
  by_cases dead : cb.combinedStatus = .UNDEFINED
  · rw [MultiCallback.call_undefined cb dead] at live
    exact absurd dead live
  · refine ⟨dead, ?_⟩
    by_cases fresh : cb.execCount = 0
    · rw [MultiCallback.call_first cb dead fresh, fresh]
    · by_cases agrees : status = cb.combinedStatus
      · rw [agrees, MultiCallback.call_agrees cb dead fresh]
      · rw [MultiCallback.call_differs cb dead fresh agrees]

namespace Publication

theorem new_sound (subscribers : Nat) (callback : Bool) : (new subscribers callback).Sound := by
  intro _ _ _
  simp [new, MultiCallback.new]

/-- An event leads to one call if it was published with the callback. -/
theorem new_due {subscribers : Nat} (positive : 0 < subscribers) (callback : Bool) :
    (new subscribers callback).due = if callback then 1 else 0 := by
  cases callback with
  | false => rfl
  | true =>
      by_cases single : subscribers < 2
      · have one : subscribers = 1 := by omega
        subst one
        rfl
      · have one : remaining (MultiCallback.new subscribers) = 1 := by
          simp [remaining, MultiCallback.new, positive]
        simp [due, new, MultiCallback.new, single] at one ⊢
        exact one

variable {publication : Publication}

/-- An event that was answered by all leads to no more calls. -/
theorem Sound.due_of_answered (sound : publication.Sound) (answered : publication.waiting = []) :
    publication.due = 0 := by
  unfold due
  by_cases callback : publication.callback = true
  · by_cases single : publication.closure.cbNumber < 2
    · simp [callback, single, answered]
    · by_cases dead : publication.closure.combinedStatus = .UNDEFINED
      · simp [callback, single, remaining, dead]
      · have counts := sound callback (by omega) dead
        rw [answered, List.length_nil, Nat.add_zero] at counts
        simp [callback, single, remaining, dead, counts]
  · simp [callback]

/-- An answer to a closure of several subscribers. -/
theorem answer_several (callback : publication.callback = true)
    (several : 2 ≤ publication.closure.cbNumber) (subscriber : Nat) (status : CommandStatus) :
    publication.answer subscriber status =
      ({ publication with
          waiting := publication.waiting.erase subscriber
          closure := (publication.closure.call status).1 },
        (publication.closure.call status).2) := by
  have many : ¬publication.closure.cbNumber < 2 := by omega
  simp [answer, callback, many]

theorem answer_callback (subscriber : Nat) (status : CommandStatus) :
    (publication.answer subscriber status).1.callback = publication.callback := by
  unfold answer
  dsimp only
  split_ifs <;> rfl

theorem answer_cbNumber (subscriber : Nat) (status : CommandStatus) :
    (publication.answer subscriber status).1.closure.cbNumber =
      publication.closure.cbNumber := by
  unfold answer
  dsimp only
  split_ifs
  · rfl
  · rfl
  · exact (MultiCallback.call_counts publication.closure status).1

theorem Sound.answer (sound : publication.Sound) {subscriber : Nat}
    (waits : subscriber ∈ publication.waiting) (status : CommandStatus) :
    (publication.answer subscriber status).1.Sound := by
  have left := List.length_erase_of_mem waits
  have waited := List.length_pos_of_mem waits
  intro callback several live
  rw [answer_callback] at callback
  rw [answer_cbNumber] at several ⊢
  rw [answer_several callback several] at live ⊢
  obtain ⟨before, counted⟩ := call_counted live
  have counts := sound callback several before
  dsimp only
  omega

/-- An answer calls, or leaves the call due. -/
theorem Sound.answer_due (sound : publication.Sound) {subscriber : Nat}
    (waits : subscriber ∈ publication.waiting) (status : CommandStatus) :
    (publication.answer subscriber status).2.length +
      (publication.answer subscriber status).1.due = publication.due := by
  have left := List.length_erase_of_mem waits
  have waited := List.length_pos_of_mem waits
  by_cases callback : publication.callback = true
  · by_cases single : publication.closure.cbNumber < 2
    · simp [Publication.answer, due, callback, single]
      omega
    · have several : 2 ≤ publication.closure.cbNumber := by omega
      have room : publication.closure.combinedStatus ≠ .UNDEFINED →
          publication.closure.execCount < publication.closure.cbNumber := by
        intro live
        have counts := sound callback several live
        omega
      have number := (MultiCallback.call_counts publication.closure status).1
      rw [answer_several callback several]
      simp only [due, callback, Bool.not_true, Bool.false_eq_true, if_false, number, if_neg single]
      exact call_remaining several room status
  · have silent : publication.callback = false := Bool.eq_false_iff.mpr callback
    simp [Publication.answer, due, silent]

end Publication

section Machine

variable {ε : Type} {subscribers : Nat}

/-- Every event that was published is counted. -/
def Sound (state : Performing ε) : Prop :=
  ∀ publication ∈ state.published, publication.Sound

theorem Sound.step {state : Performing ε} (sound : Sound state) (input : Input) :
    Sound (step subscribers state input).1 := by
  cases input with
  | next =>
      obtain ⟨todo, published⟩ := state
      cases todo with
      | nil => exact sound
      | cons action rest =>
          cases action with
          | call status => exact sound
          | publish event callback =>
              intro publication member
              rcases List.mem_append.mp member with before | new
              · exact sound publication before
              · rw [List.mem_singleton.mp new]
                exact Publication.new_sound subscribers callback
  | answer index subscriber status =>
      simp only [Outstations.step]
      split
      · exact sound
      · next publication found =>
          split
          · next waits =>
              intro other member
              rcases List.mem_or_eq_of_mem_set member with before | rfl
              · exact sound other before
              · exact (sound publication (List.mem_of_getElem? found)).answer waits status
          · exact sound

/-- One entry of a list is replaced. -/
theorem sum_map_set {α : Type} (f : α → Nat) {entries : List α} {index : Nat} {old : α} (new : α)
    (found : entries[index]? = some old) :
    ((entries.set index new).map f).sum + f old = (entries.map f).sum + f new := by
  induction entries generalizing index with
  | nil => cases found
  | cons entry rest ih =>
      cases index with
      | zero =>
          cases found
          simp only [List.set_cons_zero, List.map_cons, List.sum_cons]
          omega
      | succ index =>
          have later := ih found
          simp only [List.set_cons_succ, List.map_cons, List.sum_cons]
          omega

/-- **With each call there is one call less due.** -/
theorem step_due (positive : 0 < subscribers) {state : Performing ε} (sound : Sound state)
    (input : Input) :
    (called (step subscribers state input).2).length + due (step subscribers state input).1 =
      due state := by
  cases input with
  | next =>
      obtain ⟨todo, published⟩ := state
      cases todo with
      | nil => exact Nat.zero_add _
      | cons action rest =>
          cases action with
          | call status =>
              simp [step, due, called, calls]
              omega
          | publish event callback =>
              simp only [step, due, called_publish, List.length_nil, List.map_append,
                List.sum_append, List.map_cons, List.sum_cons, List.map_nil, List.sum_nil,
                Publication.new_due positive, calls]
              omega
  | answer index subscriber status =>
      simp only [step]
      split
      · exact Nat.zero_add _
      · next publication found =>
          split
          · next waits =>
              have member := List.mem_of_getElem? found
              have answered := (sound publication member).answer_due waits status
              have replaced := sum_map_set Publication.due
                (publication.answer subscriber status).1 found
              simp only [called_called, due]
              omega
          · exact Nat.zero_add _

theorem run_due (positive : 0 < subscribers) {state : Performing ε} (sound : Sound state)
    (inputs : List Input) :
    (called (run (step subscribers) state inputs).2).length +
      due (run (step subscribers) state inputs).1 = due state := by
  induction inputs generalizing state with
  | nil => exact Nat.zero_add _
  | cons input rest ih =>
      rw [run_cons, called_append, List.length_append, Nat.add_assoc, ih (sound.step input),
        step_due positive sound]

/-- **The callback is called as often as the actions lead to.** -/
theorem run_called_length (positive : 0 < subscribers) {todo : List (Action ε)} {inputs : List Input}
    (done : Done (run (step subscribers) { todo } inputs).1) :
    (called (run (step subscribers) { todo } inputs).2).length = (todo.map calls).sum := by
  have start : Sound ({ todo } : Performing ε) := fun _ member => nomatch member
  have sound : Sound (run (step subscribers) { todo } inputs).1 :=
    run_invariant Sound (fun _ input before => before.step input) start inputs
  have none : due (run (step subscribers) { todo } inputs).1 = 0 := by
    rw [due, done.1, List.map_nil, List.sum_nil, Nat.zero_add]
    refine List.sum_eq_zero fun count member => ?_
    obtain ⟨publication, published, rfl⟩ := List.mem_map.mp member
    exact (sound publication published).due_of_answered (done.2 publication published)
  have total := run_due positive start inputs
  rw [none, Nat.add_zero] at total
  exact total

end Machine

/-! ## One call of `Perform` -/

section Perform

variable {ε : Type} {subscribers : Nat}

/-- A control is published to each subscriber at most once, and once when the port is enabled, and
its callback is called once. -/
structure PerformedOnce (subscribers : Nat) (enabled : Bool) (event : ε)
    (outputs : List (Output ε)) : Prop where
  atMostOnce : ∀ subscriber < subscribers, (received subscriber outputs).length ≤ 1
  published : enabled = true → ∀ subscriber < subscribers, received subscriber outputs = [event]
  called : (called outputs).length = 1

/-- **A control is performed once** exactly by a port that is enabled and waits for its result. -/
theorem performedOnce_iff (positive : 0 < subscribers) (enabled waitforresult : Bool) (event : ε)
    {inputs : List Input}
    (done : Done (run (step subscribers)
      { todo := perform enabled waitforresult event } inputs).1) :
    PerformedOnce subscribers enabled event
        (run (step subscribers) { todo := perform enabled waitforresult event } inputs).2 ↔
      enabled = true ∧ waitforresult = true := by
  have length := run_called_length positive done
  constructor
  · intro once
    rw [once.called] at length
    cases enabled <;> cases waitforresult <;> simp [perform, calls] at length ⊢
  · rintro ⟨rfl, rfl⟩
    have all : ∀ subscriber < subscribers, received subscriber (run (step subscribers)
        { todo := perform true true event } inputs).2 = [event] :=
      fun subscriber subscribed => run_received subscribed done
    refine ⟨?_, fun _ => all, length⟩
    intro subscriber subscribed
    exact Nat.le_of_eq (congrArg List.length (all subscriber subscribed))

/-! ## The controls of a message -/

/-- Several controls, one after the other, by a port that is enabled. -/
def performAll (waitforresult : Bool) (controls : List ε) : List (Action ε) :=
  controls.flatMap (perform true waitforresult)

/-- Each subscriber receives the controls once, and there are no more responses than allowed. -/
structure ControlledOnce (subscribers : Nat) (controls : List ε) (allowed : Nat)
    (outputs : List (Output ε)) (responses : Nat) : Prop where
  received : ∀ subscriber < subscribers, received subscriber outputs = controls
  responses : responses ≤ allowed

/-- A port that does not wait publishes each control twice. -/
theorem events_performAll (waitforresult : Bool) (controls : List ε) :
    events (performAll waitforresult controls) =
      controls.flatMap fun event => if waitforresult then [event] else [event, event] := by
  induction controls with
  | nil => rfl
  | cons event rest ih =>
      rw [performAll, List.flatMap_cons, events, List.filterMap_append, List.flatMap_cons]
      refine congrArg₂ _ ?_ ih
      cases waitforresult <;> rfl

theorem calls_performAll (controls : List ε) :
    ((performAll true controls).map calls).sum = controls.length := by
  induction controls with
  | nil => rfl
  | cons event rest ih =>
      rw [performAll, List.flatMap_cons, List.map_append, List.sum_append, ← performAll, ih,
        List.length_cons, Nat.add_comm]
      rfl

/-- **Controls are performed once** exactly by a port that waits for their results, if there are
any. -/
theorem controlledOnce_iff (positive : 0 < subscribers) (waitforresult : Bool) (controls : List ε)
    {inputs : List Input}
    (done : Done (run (step subscribers) { todo := performAll waitforresult controls } inputs).1)
    {responses allowed : Nat}
    (few : (called (run (step subscribers) { todo := performAll waitforresult controls }
      inputs).2).length = controls.length → responses ≤ allowed) :
    ControlledOnce subscribers controls allowed
        (run (step subscribers) { todo := performAll waitforresult controls } inputs).2
        responses ↔ waitforresult = true ∨ controls = [] := by
  have all : ∀ subscriber < subscribers, received subscriber (run (step subscribers)
      { todo := performAll waitforresult controls } inputs).2 =
        controls.flatMap fun event => if waitforresult then [event] else [event, event] :=
    fun subscriber subscribed =>
      (run_received subscribed done).trans (events_performAll waitforresult controls)
  have length := run_called_length positive done
  constructor
  · intro once
    have twice := (all 0 positive).symm.trans (once.received 0 positive)
    cases waitforresult with
    | true => exact .inl rfl
    | false =>
        right
        have doubled := congrArg List.length twice
        simp only [Bool.false_eq_true, if_false, List.length_flatMap, List.length_cons,
          List.length_nil, List.map_const', List.sum_replicate_nat] at doubled
        exact List.length_eq_zero_iff.mp (by omega)
  · rintro (rfl | rfl)
    · refine ⟨fun subscriber subscribed => ?_, few (length.trans (calls_performAll controls))⟩
      rw [all subscriber subscribed]
      simp
    · exact ⟨fun subscriber subscribed => all subscriber subscribed, few length⟩

end Perform

end OpenDataCon.Outstations

import OpenDataCon.Connectors.PromisedCalls

/-!
# Status callbacks of published events

The callback that is passed to `PublishEvent` is to be called exactly once, with
the status that the answers of the subscribers combine to (`AnsweredOnce`). A
publisher without subscribers never calls it, and a closure that waits for such a
publisher waits for ever, unless another answer settles it.

So the callback is called exactly once if and only if no publisher without
subscribers is in the way (`publishEvent_answeredOnce_iff`).
-/

set_option autoImplicit false

namespace OpenDataCon.Connectors

open Runs MultiCallback

universe u

variable {Name : Type u}

namespace Network

variable {net : Network Name} {answer : List Nat → CommandStatus}

/-! ## What the answers combine to -/

variable (net answer) in
/-- A receiver may answer with this status: a port with its own, a connector that does
not pass the event on with `UNDEFINED`, and otherwise with what the answers combine to. -/
inductive Answered : Name → Name → List Nat → CommandStatus → Prop where
  | port {receiver sender : Name} {place : List Nat}
      (reacts : net.reaction receiver sender = .answer) :
      Answered receiver sender place (answer place)
  | refuse {receiver sender : Name} {place : List Nat}
      (reacts : net.reaction receiver sender = .refuse) :
      Answered receiver sender place .UNDEFINED
  | pass {receiver sender : Name} {place : List Nat} {targets : List Name}
      (reacts : net.reaction receiver sender = .pass targets)
      (statuses : Fin targets.length → CommandStatus)
      (each : ∀ i, Answered (targets.get i) receiver (i.val :: place) (statuses i))
      {combined : CommandStatus} (combines : Combines (List.ofFn statuses) combined) :
      Answered receiver sender place combined

variable (net answer) in
/-- The callback that a publisher passes is called at most once at any time, and
exactly once when all is done, with what the answers of the subscribers combine to. -/
def AnsweredOnce (name : Name) : Prop :=
  ∀ state, net.Reaches answer name state →
    state.called.length ≤ 1 ∧
      (net.Finished answer state →
        ∃ statuses : Fin (net.Subscribers name).length → CommandStatus,
          (∀ i, net.Answered answer (net.Subscribers name)[i] name [i.val] (statuses i)) ∧
          ∃ combined, Combines (List.ofFn statuses) combined ∧ state.called = [combined])

variable (net) in
/-- The event reaches a connector that is disabled or has no connection for it, so that
the answer is `UNDEFINED` whatever the ports say. -/
inductive Refuses : Name → Name → Prop where
  | refuse {receiver sender : Name} (reacts : net.reaction receiver sender = .refuse) :
      Refuses receiver sender
  | pass {receiver sender next : Name} {targets : List Name}
      (reacts : net.reaction receiver sender = .pass targets) (member : next ∈ targets)
      (refuses : Refuses next receiver) : Refuses receiver sender

variable (net) in
/-- The event is published where nobody has subscribed, and no connector beside it
refuses. -/
inductive Silent : Name → Name → Prop where
  | nobody {receiver sender : Name} (reacts : net.reaction receiver sender = .pass []) :
      Silent receiver sender
  | somebody {receiver sender next : Name} {targets : List Name}
      (reacts : net.reaction receiver sender = .pass targets) (member : next ∈ targets)
      (silent : Silent next receiver)
      (answers : ∀ other ∈ targets, ¬net.Refuses other receiver) : Silent receiver sender

variable (net) in
/-- Of those whom an event is passed to, some do not answer. -/
def Unanswered (targets : List Name) (sender : Name) : Prop :=
  targets = [] ∨
    (∃ next ∈ targets, net.Silent next sender) ∧
      ∀ other ∈ targets, ¬net.Refuses other sender

/-! ## Who answers -/

theorem flatten_ofFn_singleton {n : Nat} (statuses : Fin n → CommandStatus) :
    (List.ofFn fun i => [statuses i]).flatten = List.ofFn statuses := by
  induction n with
  | zero => rfl
  | succ n ih =>
      rw [List.ofFn_succ, List.ofFn_succ, List.flatten_cons, ih, List.singleton_append]

/-- Answers of all receivers come out as one call. -/
theorem gather_full {statuses : List CommandStatus} (somebody : statuses ≠ []) :
    ∃ combined, gather statuses.length statuses = [combined] ∧ Combines statuses combined := by
  unfold gather
  split_ifs with one
  · match statuses with
    | [] => exact absurd rfl somebody
    | [status] => exact ⟨status, rfl, combines_singleton status⟩
    | _ :: _ :: _ =>
        rw [List.length_cons, List.length_cons] at one
        omega
  · exact run_new_full (by omega) rfl

/-- One `UNDEFINED` among the calls comes out, and nothing else. -/
theorem gather_undefined {cbNumber : Nat} {statuses : List CommandStatus}
    (member : .UNDEFINED ∈ statuses) (few : statuses.length ≤ cbNumber) :
    gather cbNumber statuses = [.UNDEFINED] := by
  unfold gather
  split_ifs with one
  · match statuses, member with
    | [_], member => rw [List.mem_singleton.mp member]
    | _ :: _ :: _, _ =>
        rw [List.length_cons, List.length_cons] at few
        omega
  · exact run_new_undefined member few

/-- Calls that agree come out as they are, or not at all. -/
theorem gather_agreeing {cbNumber : Nat} {status : CommandStatus}
    {statuses : List CommandStatus} (defined : status ≠ .UNDEFINED)
    (all : ∀ other ∈ statuses, other = status) (few : statuses.length ≤ cbNumber) :
    ∀ other ∈ gather cbNumber statuses, other = status := by
  unfold gather
  split_ifs with one
  · exact all
  · rw [run_new_agreeing defined (by omega) all few]
    split_ifs
    · exact fun other member => List.mem_singleton.mp member
    · exact fun other member => nomatch member

/-- Too few calls that agree do not come out. -/
theorem gather_silent {cbNumber : Nat} {status : CommandStatus} {statuses : List CommandStatus}
    (defined : status ≠ .UNDEFINED) (all : ∀ other ∈ statuses, other = status)
    (fewer : statuses.length < cbNumber ∨ cbNumber = 0 ∧ statuses = []) :
    gather cbNumber statuses = [] := by
  unfold gather
  split_ifs with one
  · rcases fewer with fewer | ⟨-, none⟩
    · exact List.eq_nil_of_length_eq_zero (by omega)
    · exact none
  · rcases fewer with fewer | ⟨nobody, -⟩
    · rw [run_new_agreeing defined (by omega) all (by omega), if_neg (by omega)]
    · omega

variable (net answer) in
/-- The receivers answer, and one call with what they combine to comes out. -/
def PassAnswered (targets : List Name) (sender : Name) (place : List Nat) : Prop :=
  ∃ statuses : Fin targets.length → CommandStatus,
    (∀ i, net.Answered answer (targets.get i) sender (i.val :: place) (statuses i)) ∧
    ∃ combined, Combines (List.ofFn statuses) combined ∧
      net.promisedAll answer (passOn targets sender place) = [combined]

variable (net answer) in
/-- A receiver always has an answer that it may give. -/
theorem exists_answered (receiver sender : Name) (place : List Nat) :
    ∃ status, net.Answered answer receiver sender place status := by
  induction receiver using net.acyclic.induction generalizing sender place with
  | _ receiver ih =>
      match reacts : net.reaction receiver sender with
      | .answer => exact ⟨_, .port reacts⟩
      | .refuse => exact ⟨_, .refuse reacts⟩
      | .pass targets =>
          have each : ∀ i : Fin targets.length,
              ∃ status, net.Answered answer (targets.get i) receiver (i.val :: place) status :=
            fun i => ih _ ⟨sender, targets, reacts, List.get_mem _ _⟩ receiver _
          choose statuses answers using each
          obtain ⟨combined, combines⟩ := exists_combines (List.ofFn statuses)
          exact ⟨combined, .pass reacts statuses answers combines⟩

/-- If one receiver reports `UNDEFINED`, so does the whole. -/
theorem passAnswered_undefined {targets : List Name} {sender : Name} {place : List Nat}
    (i : Fin targets.length)
    (calls : net.calls answer (targets.get i) sender (i.val :: place) = [.UNDEFINED])
    (answers : net.Answered answer (targets.get i) sender (i.val :: place) .UNDEFINED) :
    net.promisedAll answer (passOn targets sender place) = [.UNDEFINED] ∧
      PassAnswered net answer targets sender place := by
  have reported : net.promisedAll answer (passOn targets sender place) = [.UNDEFINED] := by
    rw [promisedAll_passOn]
    refine gather_undefined (List.mem_flatten.mpr ⟨_, List.mem_ofFn.mpr ⟨i, rfl⟩, ?_⟩)
      (length_flatten_ofFn_le fun j => net.calls_length_le answer _ _ _)
    rw [calls]
    exact List.mem_singleton_self _
  have each : ∀ j : Fin targets.length, ∃ status,
      net.Answered answer (targets.get j) sender (j.val :: place) status ∧
        (j = i → status = .UNDEFINED) := by
    intro j
    by_cases same : j = i
    · subst same
      exact ⟨.UNDEFINED, answers, fun _ => rfl⟩
    · obtain ⟨status, other⟩ := net.exists_answered answer (targets.get j) sender (j.val :: place)
      exact ⟨status, other, fun equal => absurd equal same⟩
  choose statuses answered undefined using each
  refine ⟨reported, statuses, answered, .UNDEFINED, combines_undefined ?_, reported⟩
  exact List.mem_ofFn.mpr ⟨i, undefined i rfl⟩

/-- The calls of a receiver that passes the event on. -/
theorem calls_pass {receiver sender : Name} {targets : List Name}
    (reacts : net.reaction receiver sender = .pass targets) (place : List Nat) :
    net.calls answer receiver sender place =
      net.promisedAll answer (passOn targets receiver place) := by
  rw [← promisedAll_event, event_eq, reacts]

theorem calls_refuse {receiver sender : Name} (reacts : net.reaction receiver sender = .refuse)
    (place : List Nat) : net.calls answer receiver sender place = [.UNDEFINED] := by
  rw [← promisedAll_event, event_eq, reacts]
  rfl

theorem calls_answer {receiver sender : Name} (reacts : net.reaction receiver sender = .answer)
    (place : List Nat) : net.calls answer receiver sender place = [answer place] := by
  rw [← promisedAll_event, event_eq, reacts]
  rfl

variable (answer) in
/-- Where a connector refuses, the answer is `UNDEFINED`. -/
theorem Refuses.answered {receiver sender : Name} (refuses : net.Refuses receiver sender)
    (place : List Nat) :
    net.calls answer receiver sender place = [.UNDEFINED] ∧
      net.Answered answer receiver sender place .UNDEFINED := by
  induction refuses generalizing place with
  | refuse reacts => exact ⟨calls_refuse reacts place, .refuse reacts⟩
  | @pass receiver sender next targets reacts member _ ih =>
      obtain ⟨i, bound, rfl⟩ := List.getElem_of_mem member
      obtain ⟨called, answered⟩ := ih (i :: place)
      obtain ⟨reported, statuses, answers, combined, combines, promised⟩ :=
        passAnswered_undefined ⟨i, bound⟩ called answered
      rw [reported] at promised
      rw [calls_pass reacts, reported]
      have undefined : combined = .UNDEFINED := (List.head_eq_of_cons_eq promised).symm
      exact ⟨rfl, .pass reacts statuses answers (undefined ▸ combines)⟩

variable (answer) in
/-- A pass is answered unless some receivers do not answer. -/
theorem passAnswered_of_answering {targets : List Name} {sender : Name} (place : List Nat)
    (answering : ∀ next ∈ targets, ¬net.Silent next sender → ∀ place, ∃ status,
      net.calls answer next sender place = [status] ∧
        net.Answered answer next sender place status)
    (answered : ¬net.Unanswered targets sender) :
    net.PassAnswered answer targets sender place := by
  unfold Unanswered at answered
  push Not at answered
  obtain ⟨somebody, others⟩ := answered
  by_cases refused : ∃ other ∈ targets, net.Refuses other sender
  · obtain ⟨other, member, refuses⟩ := refused
    obtain ⟨i, bound, rfl⟩ := List.getElem_of_mem member
    obtain ⟨called, answers⟩ := refuses.answered answer (i :: place)
    exact (passAnswered_undefined ⟨i, bound⟩ called answers).2
  · push Not at refused
    have speaks : ∀ next ∈ targets, ¬net.Silent next sender := by
      intro next member silent
      obtain ⟨other, right, refuses⟩ := others ⟨next, member, silent⟩
      exact refused other right refuses
    have each : ∀ i : Fin targets.length, ∃ status,
        net.calls answer (targets.get i) sender (i.val :: place) = [status] ∧
          net.Answered answer (targets.get i) sender (i.val :: place) status :=
      fun i => answering _ (List.getElem_mem _) (speaks _ (List.getElem_mem _)) _
    choose statuses called answers using each
    have full : (List.ofFn statuses).length = targets.length := List.length_ofFn
    have spoken : List.ofFn statuses ≠ [] := by
      intro none
      rw [none] at full
      exact somebody (List.eq_nil_of_length_eq_zero full.symm)
    obtain ⟨combined, reported, combines⟩ := gather_full spoken
    refine ⟨statuses, answers, combined, combines, ?_⟩
    rw [full] at reported
    rw [promisedAll_passOn, funext called, flatten_ofFn_singleton]
    exact reported

/-- A receiver that is not silent answers exactly once. -/
theorem answered_of_not_silent {receiver sender : Name} (speaks : ¬net.Silent receiver sender)
    (place : List Nat) :
    ∃ status, net.calls answer receiver sender place = [status] ∧
      net.Answered answer receiver sender place status := by
  induction receiver using net.acyclic.induction generalizing sender place with
  | _ receiver ih =>
      match reacts : net.reaction receiver sender with
      | .answer => exact ⟨_, calls_answer reacts place, .port reacts⟩
      | .refuse => exact ⟨_, calls_refuse reacts place, .refuse reacts⟩
      | .pass targets =>
          have answered : ¬net.Unanswered targets receiver := by
            rintro (nobody | ⟨⟨next, member, silent⟩, answers⟩)
            · exact speaks (.nobody (nobody ▸ reacts))
            · exact speaks (.somebody reacts member silent answers)
          obtain ⟨statuses, answers, combined, combines, reported⟩ :=
            passAnswered_of_answering answer place (fun next member silent place =>
              ih next ⟨sender, targets, reacts, member⟩ silent place) answered
          exact ⟨combined, (calls_pass reacts place).trans reported,
            .pass reacts statuses answers combines⟩

/-! ## Who does not answer -/

/-- Where all ports report success, a receiver that does not refuse reports nothing else. -/
theorem calls_success {receiver sender : Name} (accepts : ¬net.Refuses receiver sender)
    (place : List Nat) :
    ∀ status ∈ net.calls (fun _ => .SUCCESS) receiver sender place, status = .SUCCESS := by
  induction receiver using net.acyclic.induction generalizing sender place with
  | _ receiver ih =>
      match reacts : net.reaction receiver sender with
      | .answer =>
          rw [calls_answer reacts]
          exact fun status member => List.mem_singleton.mp member
      | .refuse => exact absurd (.refuse reacts) accepts
      | .pass targets =>
          have others : ∀ i : Fin targets.length, ∀ status ∈
              net.calls (fun _ => .SUCCESS) (targets.get i) receiver (i.val :: place),
              status = .SUCCESS :=
            fun i => ih _ ⟨sender, targets, reacts, List.get_mem _ _⟩
              (fun refuses => accepts (.pass reacts (List.getElem_mem _) refuses)) _
          rw [calls_pass reacts, promisedAll_passOn]
          exact gather_agreeing CommandStatus.noConfusion (forall_mem_flatten_ofFn others)
            (length_flatten_ofFn_le fun i => net.calls_length_le _ _ _ _)

/-- Where all ports report success, one silent receiver among those that do not refuse
keeps the whole from answering. -/
theorem passOn_silent {targets : List Name} {sender next : Name} {place : List Nat}
    (member : next ∈ targets)
    (silence : ∀ place, net.calls (fun _ => .SUCCESS) next sender place = [])
    (answers : ∀ other ∈ targets, ¬net.Refuses other sender) :
    net.promisedAll (fun _ => .SUCCESS) (passOn targets sender place) = [] := by
  obtain ⟨i, bound, rfl⟩ := List.getElem_of_mem member
  have all : ∀ j : Fin targets.length, ∀ status ∈
      net.calls (fun _ => .SUCCESS) (targets.get j) sender (j.val :: place), status = .SUCCESS :=
    fun j => calls_success (answers _ (List.getElem_mem _)) _
  have fewer := length_flatten_ofFn_lt (i := ⟨i, bound⟩)
    (fun j : Fin targets.length =>
      net.calls_length_le (fun _ => .SUCCESS) (targets.get j) sender (j.val :: place)) (silence _)
  rw [promisedAll_passOn]
  exact gather_silent CommandStatus.noConfusion (forall_mem_flatten_ofFn all) (.inl fewer)

theorem Silent.calls {receiver sender : Name} (silent : net.Silent receiver sender)
    (place : List Nat) : net.calls (fun _ => .SUCCESS) receiver sender place = [] := by
  induction silent generalizing place with
  | nobody reacts =>
      rw [calls_pass reacts]
      rfl
  | somebody reacts member _ answers ih =>
      rw [calls_pass reacts]
      exact passOn_silent member ih answers

/-- Where all ports report success, those who do not answer keep the whole silent. -/
theorem Unanswered.promised {targets : List Name} {sender : Name}
    (unanswered : net.Unanswered targets sender) (place : List Nat) :
    net.promisedAll (fun _ => .SUCCESS) (passOn targets sender place) = [] := by
  rcases unanswered with rfl | ⟨⟨next, member, silent⟩, answers⟩
  · rfl
  · exact passOn_silent member silent.calls answers

/-! ## When the callback is called -/

/-- **The callback of a published event is called exactly once, whatever the ports
answer, if and only if all subscribers answer.** -/
theorem publishEvent_answeredOnce_iff (net : Network Name) (name : Name) :
    (∀ answer, net.AnsweredOnce answer name) ↔
      ¬net.Unanswered (net.Subscribers name) name := by
  constructor
  · intro answered unanswered
    have promised : net.promisedAll (fun _ => .SUCCESS) (net.publishEvent name []) = [] :=
      unanswered.promised []
    have published : net.Reaches (fun _ => .SUCCESS) name
        { pending := net.publishEvent name [] } := .publish
    obtain ⟨final, reached, finished⟩ := exists_finished published
    obtain ⟨-, -, combined, -, called⟩ := (answered _ final reached).2 finished
    rw [finished_called reached finished, promised] at called
    exact absurd called nofun
  · intro answered answer state reached
    constructor
    · have few := net.publishEvent_length_le answer name []
      rw [← (reaches_promised reached).2.length_eq, List.length_append] at few
      omega
    · intro finished
      obtain ⟨statuses, answers, combined, combines, promised⟩ :=
        passAnswered_of_answering answer [] (fun next _ speaks place =>
          answered_of_not_silent speaks place) answered
      exact ⟨statuses, answers, combined, combines,
        (finished_called reached finished).trans promised⟩

end Network

/-- A port alone, with nobody who has subscribed to it. -/
def lonelyPort : Network Unit where
  Subscribers _ := []
  handler _ := .port
  acyclic := ⟨fun name => ⟨name, fun _ ⟨_, _, reacts, _⟩ => nomatch reacts⟩⟩

/-- The callback of a port without subscribers is never called. -/
theorem publishEvent_neverCalled :
    ¬∀ (net : Network Unit) (name : Unit) (answer : List Nat → CommandStatus),
      net.AnsweredOnce answer name := by
  intro answered
  have published : lonelyPort.Reaches (fun _ => .SUCCESS) () { pending := [] } := .publish
  have finished : lonelyPort.Finished (fun _ => .SUCCESS) { pending := [] } := by
    intro state' step
    exact absurd (Network.step_weight step) (Nat.not_lt_zero _)
  obtain ⟨-, -, combined, -, called⟩ := (answered lonelyPort () _ _ published).2 finished
  exact absurd called nofun

end OpenDataCon.Connectors

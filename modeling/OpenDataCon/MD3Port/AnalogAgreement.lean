import Mathlib
import OpenDataCon.MD3Port.AnalogExchange

/-!
# Agreement of the analog and counter points

After an accepted answer, a point that the poll covers holds at the master what it held at
the outstation when the answer was built, if the range is uniform and the answer carries values
or the slot was in step (`value_of_accepts`).

Hence the points agree after every poll that is answered in a run where this holds of each
accepted answer (`run_polledAgree`), and with losses, timeouts and retries where moreover each
accepted answer is for the poll the master waits for (`run_analogsCurrent`). Neither
holds of every run: a restarted master takes a counter from 0x8000
(`not_polledAgree`), and one lost answer leaves an analog behind (`not_analogsCurrent`).
-/

set_option autoImplicit false

namespace OpenDataCon.MD3Port

open MD3BlockData MasterQueue Runs Differences

namespace AnalogExchange

variable (conf : AnalogConf)

section Steps

variable {conf} {exchange : AnalogExchange}

/-- **An accepted answer brings a slot to the value it had when the answer was built.** -/
theorem value_of_accepts (inStep : exchange.ExchangeInStep conf) {answer : Answer}
    {rest : List Answer} (waiting : exchange.answers = answer :: rest)
    (accepted : (conf.port.accepts exchange.master.data answer).isSome = true)
    (uniform : exchange.masterPoints.Uniform answer.request.group.moduleAddress
      answer.request.group.channels) {slot : Slot} (covers : answer.request.Covers slot)
    (known : slot ∈ answer.slots conf → (exchange.masterPoints.points slot).isSome = true →
      carriesValues answer.message = true ∨ exchange.outOfStep slot = false) :
    (exchange.masterPoints.processAnalogAnswer conf.updateAnalogCounterTimeStamps
      exchange.master.data.currentFunctionCode answer.message).value slot =
        answer.before.value slot := by
  have first : answer ∈ exchange.answers := waiting ▸ List.mem_cons_self
  obtain ⟨same, -, covered⟩ := applied_of_accepts inStep first accepted uniform
  have same' := inStep.same.trans (inStep.genuine answer first).1.symm
  cases exists' : (exchange.masterPoints.points slot).isSome with
  | false =>
      rw [AnalogTable.value_of_missing _ ((same slot).trans exists'),
        AnalogTable.value_of_missing _ ((same' slot).symm.trans exists')]
  | true =>
      have member : slot ∈ answer.before.scanSlots (answer.request.header conf) := by
        rw [← AnswersScan.scanSlots_eq same', Poll.getModuleAddress_header,
          Poll.getChannels_header]
        exact uniform.mem_rangeSlots covers exists'
      refine covered slot member ?_
      rcases known member exists' with carries | fresh
      · exact .inl carries
      · have coming := inStep.inStep
        rw [waiting, List.map_cons] at coming
        exact .inr (coming.refers (by simp [fresh]))

/-- What a step puts out is an accepted answer that was the next one. -/
theorem accepted_of_step {input : AnalogInput} {accepted : Accepted}
    (output : accepted ∈ (exchange.step conf input).2) :
    input = .deliver ∧ ∃ rest, exchange.answers = accepted.answer :: rest ∧
      (conf.port.accepts exchange.master.data accepted.answer).isSome = true ∧
      accepted.poll = exchange.master.data.currentCommand.message ∧
      accepted.built = exchange.built ∧
      accepted.points = exchange.masterPoints.processAnalogAnswer
        conf.updateAnalogCounterTimeStamps exchange.master.data.currentFunctionCode
        accepted.answer.message := by
  cases input with
  | event kind index meas => cases kind <;> cases output
  | serve flags =>
      rw [AnalogExchange.step] at output
      split at output <;> cases output
  | loseAnswer =>
      rw [AnalogExchange.step] at output
      split at output <;> cases output
  | setCommsLost =>
      rw [AnalogExchange.step] at output
      split at output <;> cases output
  | poll group => cases output
  | loseRequest => cases output
  | expire => cases output
  | runHandler position => cases output
  | restart => cases output
  | deliver =>
      refine ⟨rfl, ?_⟩
      rw [AnalogExchange.step] at output
      split at output
      · cases output
      · next answer rest waiting =>
        rw [AnalogExchange.receive] at output
        split at output
        · next success =>
          obtain rfl := List.mem_singleton.mp output
          exact ⟨rest, waiting, success, rfl, rfl, rfl⟩
        · cases output

end Steps

/-! ## Lossless runs -/

/-- No message is lost. -/
def Lossless (inputs : List AnalogInput) : Prop :=
  ∀ input ∈ inputs, input ≠ .loseRequest ∧ input ≠ .loseAnswer

instance (inputs : List AnalogInput) : Decidable (Lossless inputs) :=
  inferInstanceAs (Decidable (∀ input ∈ inputs, _))

/-- After every poll whose answer is accepted, the points it covers hold what they held at
the outstation when the answer was built. -/
structure PolledAgree (inputs : List AnalogInput) : Prop where
  agree : ∀ accepted ∈ (run (step conf) (start conf) inputs).2,
    accepted.answer.request = accepted.poll → ∀ slot, accepted.poll.Covers slot →
      accepted.points.value slot = accepted.answer.before.value slot

/-- An answer that is accepted is for a uniform range, and carries values or covers only
points that are in step. -/
def AcceptsInStep (exchange : AnalogExchange) : AnalogInput → Prop
  | .deliver => ∀ answer ∈ exchange.answers.head?,
    (conf.port.accepts exchange.master.data answer).isSome = true →
      exchange.masterPoints.Uniform answer.request.group.moduleAddress
          answer.request.group.channels ∧
        (carriesValues answer.message = true ∨ ∀ slot ∈ answer.slots conf,
          (exchange.masterPoints.points slot).isSome = true → exchange.outOfStep slot = false)
  | _ => True

instance (exchange : AnalogExchange) : ∀ input, Decidable (exchange.AcceptsInStep conf input)
  | .deliver => inferInstanceAs (Decidable (∀ answer ∈ exchange.answers.head?, _))
  | .event _ _ _ => .isTrue trivial
  | .poll _ => .isTrue trivial
  | .serve _ => .isTrue trivial
  | .loseRequest => .isTrue trivial
  | .loseAnswer => .isTrue trivial
  | .expire => .isTrue trivial
  | .runHandler _ => .isTrue trivial
  | .setCommsLost => .isTrue trivial
  | .restart => .isTrue trivial

theorem acceptsUniform_of_inStep {exchange : AnalogExchange} {input : AnalogInput}
    (guard : exchange.AcceptsInStep conf input) : exchange.AcceptsUniform conf input := by
  cases input with
  | deliver => exact fun answer first accepted => (guard answer first accepted).1
  | _ => trivial

/-- **The points agree in every run whose accepted answers are for uniform ranges, and carry
values or cover only points in step.** -/
theorem run_polledAgree (inputs : List AnalogInput)
    (guarded : Guarded (step conf) (AcceptsInStep conf) (start conf) inputs) :
    PolledAgree conf inputs where
  agree := by
    refine guarded_outputs (ExchangeInStep conf)
      (fun exchange input inStep guard => inStep.step (acceptsUniform_of_inStep conf guard)) ?_
      start_inStep guarded
    intro exchange input inStep guard accepted output asked slot covers
    obtain ⟨rfl, rest, waiting, success, -, -, points⟩ := accepted_of_step output
    obtain ⟨uniform, known⟩ := guard accepted.answer (by simp [waiting]) success
    rw [points]
    rw [← asked] at covers
    refine value_of_accepts inStep waiting success uniform covers fun member exists' => ?_
    rcases known with carries | fresh
    · exact .inl carries
    · exact .inr (fresh slot member exists')

/-- Station 1, with a counter in module 1. -/
def counterConf : AnalogConf where
  master := { outstationAddr := 1 }
  points := [{ kind := .counterModule, index := 0, moduleaddress := 1, channel := 0 }]

def counterGroup : AnalogPollGroup where
  polltype := .counterPoints
  moduleAddress := 1
  channels := 1
  moduleAddress_lt := by decide
  channels_bounds := one_channel

/-- The counter is set and polled. -/
def counterPoll : List AnalogInput :=
  [.event .counterModule 0 5#16, .poll counterGroup, .serve {}, .deliver]

theorem run_polledAgree_counter : PolledAgree counterConf counterPoll :=
  run_polledAgree counterConf counterPoll (by decide +kernel)

/-- After a restart the master is told of no change, and holds 0x8000 for a counter of 5. -/
theorem not_polledAgree :
    ¬ ∀ (conf : AnalogConf) (inputs : List AnalogInput), Lossless inputs →
      PolledAgree conf inputs := by
  intro claim
  have agree := (claim counterConf
    (counterPoll ++ [.restart, .poll counterGroup, .serve {}, .deliver]) (by decide)).agree
  have value : ∃ accepted ∈ (run (step counterConf) (start counterConf)
      (counterPoll ++ [.restart, .poll counterGroup, .serve {}, .deliver])).2,
      accepted.answer.request = accepted.poll ∧ accepted.poll.Covers ⟨.counterModule, 256⟩ ∧
        accepted.points.value ⟨.counterModule, 256⟩ ≠
          accepted.answer.before.value ⟨.counterModule, 256⟩ := by
    decide +kernel
  obtain ⟨accepted, output, asked, covers, wrong⟩ := value
  exact wrong (agree accepted output asked _ covers)

/-! ## Runs with losses -/

/-- Whenever a poll is completed, the analogs it covers hold what they held at the outstation
when some answer to that poll was built. -/
structure AnalogsCurrent (inputs : List AnalogInput) : Prop where
  current : ∀ accepted ∈ (run (step conf) (start conf) inputs).2,
    ∃ answer ∈ accepted.built, answer.request = accepted.poll ∧
      ∀ slot, slot.kind = .analogModule → accepted.poll.Covers slot →
        accepted.points.value slot = answer.before.value slot

/-- An answer that is accepted is for the poll the master waits for and for a uniform range, and
carries values or covers only analogs that are in step. -/
def AcceptsCurrent (exchange : AnalogExchange) : AnalogInput → Prop
  | .deliver => ∀ answer ∈ exchange.answers.head?,
    (conf.port.accepts exchange.master.data answer).isSome = true →
      answer.request = exchange.master.data.currentCommand.message ∧
        exchange.masterPoints.Uniform answer.request.group.moduleAddress
          answer.request.group.channels ∧
        (carriesValues answer.message = true ∨ ∀ slot ∈ answer.slots conf,
          slot.kind = .analogModule → (exchange.masterPoints.points slot).isSome = true →
            exchange.outOfStep slot = false)
  | _ => True

instance (exchange : AnalogExchange) : ∀ input, Decidable (exchange.AcceptsCurrent conf input)
  | .deliver => inferInstanceAs (Decidable (∀ answer ∈ exchange.answers.head?, _))
  | .event _ _ _ => .isTrue trivial
  | .poll _ => .isTrue trivial
  | .serve _ => .isTrue trivial
  | .loseRequest => .isTrue trivial
  | .loseAnswer => .isTrue trivial
  | .expire => .isTrue trivial
  | .runHandler _ => .isTrue trivial
  | .setCommsLost => .isTrue trivial
  | .restart => .isTrue trivial

theorem acceptsUniform_of_current {exchange : AnalogExchange} {input : AnalogInput}
    (guard : exchange.AcceptsCurrent conf input) : exchange.AcceptsUniform conf input := by
  cases input with
  | deliver => exact fun answer first accepted => (guard answer first accepted).2.1
  | _ => trivial

/-- **The analogs are current in every run whose accepted answers are for the poll that waits
and for uniform ranges, and carry values or cover only analogs in step.** -/
theorem run_analogsCurrent (inputs : List AnalogInput)
    (guarded : Guarded (step conf) (AcceptsCurrent conf) (start conf) inputs) :
    AnalogsCurrent conf inputs where
  current := by
    refine guarded_outputs (ExchangeInStep conf)
      (fun exchange input inStep guard => inStep.step (acceptsUniform_of_current conf guard)) ?_
      start_inStep guarded
    intro exchange input inStep guard accepted output
    obtain ⟨rfl, rest, waiting, success, poll, built, points⟩ := accepted_of_step output
    obtain ⟨asked, uniform, known⟩ := guard accepted.answer (by simp [waiting]) success
    refine ⟨accepted.answer, built ▸ inStep.known _ (waiting ▸ List.mem_cons_self),
      asked.trans poll.symm, fun slot analog covers => ?_⟩
    rw [points]
    rw [poll, ← asked] at covers
    refine value_of_accepts inStep waiting success uniform covers fun member exists' => ?_
    rcases known with carries | fresh
    · exact .inl carries
    · exact .inr (fresh slot member analog exists')

/-- Station 1, with an analog in module 1. -/
def analogConf : AnalogConf where
  master := { outstationAddr := 1 }
  points := [{ kind := .analogModule, index := 0, moduleaddress := 1, channel := 0 }]

def analogGroup : AnalogPollGroup where
  polltype := .analogPoints
  moduleAddress := 1
  channels := 1
  moduleAddress_lt := by decide
  channels_bounds := one_channel

/-- The analog is polled, moves by 3, and is polled again; the second request is lost
once. -/
def analogPolls : List AnalogInput :=
  [.event .analogModule 0 5#16, .poll analogGroup, .serve {}, .deliver,
    .event .analogModule 0 8#16, .poll analogGroup, .loseRequest, .expire, .runHandler 0,
    .serve {}, .deliver]

theorem run_analogsCurrent_retry : AnalogsCurrent analogConf analogPolls :=
  run_analogsCurrent analogConf analogPolls (by decide +kernel)

/-- The analog is polled, moves by 3, and is polled again; the answer is lost, and the retry
is told of no change. -/
def lostAnswer : List AnalogInput :=
  [.event .analogModule 0 5#16, .poll analogGroup, .serve {}, .deliver,
    .event .analogModule 0 8#16, .poll analogGroup, .serve {}, .loseAnswer, .expire,
    .runHandler 0, .serve {}, .deliver]

/-- A lost answer leaves the master with 5, while every answer to the poll was built
from 8. -/
theorem not_analogsCurrent :
    ¬ ∀ (conf : AnalogConf) (inputs : List AnalogInput), AnalogsCurrent conf inputs := by
  intro claim
  have current := (claim analogConf lostAnswer).current
  have stale : ∃ accepted ∈ (run (step analogConf) (start analogConf) lostAnswer).2,
      accepted.poll.Covers ⟨.analogModule, 256⟩ ∧ ∀ answer ∈ accepted.built,
        answer.request = accepted.poll →
          accepted.points.value ⟨.analogModule, 256⟩ ≠
            answer.before.value ⟨.analogModule, 256⟩ := by
    decide +kernel
  obtain ⟨accepted, output, covers, wrong⟩ := stale
  obtain ⟨answer, built, asked, same⟩ := current accepted output
  exact wrong answer built asked (same _ rfl covers)

end AnalogExchange

end OpenDataCon.MD3Port

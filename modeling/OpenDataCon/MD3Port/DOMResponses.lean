import OpenDataCon.MD3Port.PerformedControls

/-!
# The response to an output word

The outstation performs a control for each point of the module of an output word. All share a
callback, which counts its calls and responds at the sixteenth. Each control calls it when it
reports; and it is called with a success for each of the sixteen channels, for those that have a
point as well.

So the sixteenth call may come before all the controls have reported. `domStep` takes what is to be
performed and the answers of the subscribers one at a time, in any order. A report that comes when
the response was already sent changes nothing (`run_late`), and as the calls are at least sixteen,
exactly one response is sent (`run_early`). It is the response to all the reports exactly when each
of them comes in time (`doDOMControl_respondsOnce_iff`).
-/

set_option autoImplicit false

namespace OpenDataCon.MD3Port

open Connectors MD3BlockData Runs
open Outstations (Action Done Input Performing called)

/-! ## Reports and responses -/

/-- What is left of the controls of an output word, and the variables of its callback. -/
structure DOMResponding where
  performing : Performing ControlEvent
  closure : Bool × Nat := (true, 0)
deriving DecidableEq, Repr

/-- A control reports its status, or a response is sent: an acceptance or a rejection. -/
inductive DOMOutput where
  | report (status : CommandStatus)
  | response (ok : Bool)
deriving DecidableEq, Repr

/-- The statuses that controls report: the calls that are made for a subscriber that answers. -/
def reportsOf (subscribers : Nat) (performing : Performing ControlEvent) :
    Input → List CommandStatus
  | .next => []
  | .answer index subscriber status =>
    called (Outstations.step subscribers performing (.answer index subscriber status)).2

/-- The next action is taken, or a subscriber answers, and the callback counts its calls. -/
def domStep (subscribers : Nat) (state : DOMResponding) (input : Input) :
    DOMResponding × List DOMOutput :=
  let performed := Outstations.step subscribers state.performing input
  let counted := run countStatus state.closure (called performed.2)
  ({ performing := performed.1, closure := counted.1 },
    (reportsOf subscribers state.performing input).map .report ++ counted.2.map .response)

/-- The controls of a message that passed its checks. -/
def ControlAction.responding (action : ControlAction) (waitforresult : Bool) : DOMResponding where
  performing := { todo := action.actions waitforresult }

/-- The statuses that were reported. -/
def reported (outputs : List DOMOutput) : List CommandStatus :=
  outputs.filterMap fun output =>
    match output with
    | .report status => some status
    | .response _ => none

/-- The responses that were sent. -/
def responded (outputs : List DOMOutput) : List Bool :=
  outputs.filterMap fun output =>
    match output with
    | .report _ => none
    | .response ok => some ok

/-- Each of the points reports, and then there is one response, which accepts exactly when all the
reports are successes. -/
structure RespondsOnce (points : Nat) (outputs : List DOMOutput) : Prop where
  all : (reported outputs).length = points
  once : outputs = (reported outputs).map .report ++
    [.response ((reported outputs).all (· == .SUCCESS))]

/-- A report comes in time when the callback was called fewer than sixteen times before. -/
def InTime (subscribers : Nat) (state : DOMResponding) (input : Input) : Prop :=
  reportsOf subscribers state.performing input ≠ [] → state.closure.2 < 16

instance (subscribers : Nat) (state : DOMResponding) (input : Input) :
    Decidable (InTime subscribers state input) :=
  inferInstanceAs (Decidable (_ → _))

theorem reported_append (first second : List DOMOutput) :
    reported (first ++ second) = reported first ++ reported second :=
  List.filterMap_append

theorem responded_append (first second : List DOMOutput) :
    responded (first ++ second) = responded first ++ responded second :=
  List.filterMap_append

theorem reported_report (statuses : List CommandStatus) :
    reported (statuses.map .report) = statuses := by
  rw [reported, List.filterMap_map]
  exact List.filterMap_some

theorem reported_response (responses : List Bool) : reported (responses.map .response) = [] := by
  rw [reported, List.filterMap_map]
  exact List.filterMap_eq_nil_iff.mpr fun _ _ => rfl

theorem responded_report (statuses : List CommandStatus) :
    responded (statuses.map .report) = [] := by
  rw [responded, List.filterMap_map]
  exact List.filterMap_eq_nil_iff.mpr fun _ _ => rfl

theorem responded_response (responses : List Bool) :
    responded (responses.map .response) = responses := by
  rw [responded, List.filterMap_map]
  exact List.filterMap_some

/-- A response to the reports before it is the one that is asked for when no report is late. -/
theorem respondsOnce_iff_of_split {points : Nat} {outputs : List DOMOutput}
    {early late : List CommandStatus}
    (split : outputs =
      early.map .report ++ .response (early.all (· == .SUCCESS)) :: late.map .report)
    (all : (reported outputs).length = points) : RespondsOnce points outputs ↔ late = [] := by
  constructor
  · intro responds
    rcases List.eq_nil_or_concat late with none | ⟨before, status, rfl⟩
    · exact none
    · have ends := split.symm.trans responds.once
      rw [List.concat_eq_append, List.map_append, ← List.cons_append, ← List.append_assoc] at ends
      have last := (List.append_inj' ends rfl).2
      cases last
  · rintro rfl
    have before : reported outputs = early := by
      rw [split, reported_append, reported_report]
      exact List.append_nil early
    refine ⟨all, ?_⟩
    rw [before, split]
    rfl

/-! ## One step -/

section Steps

variable {subscribers : Nat}

/-- The callback is called directly with successes only. -/
def CallsSuccess (todo : List (Action ControlEvent)) : Prop :=
  ∀ status, .call status ∈ todo → status = .SUCCESS

theorem CallsSuccess.step {performing : Performing ControlEvent}
    (successes : CallsSuccess performing.todo) (input : Input) :
    CallsSuccess (Outstations.step subscribers performing input).1.todo := by
  obtain ⟨todo, published⟩ := performing
  cases input with
  | next =>
      cases todo with
      | nil => exact successes
      | cons action rest =>
          have later : CallsSuccess rest := by
            intro status member
            exact successes status (List.mem_cons_of_mem _ member)
          cases action with
          | call status => exact later
          | publish event callback => exact later
  | answer index subscriber status =>
      simp only [Outstations.step]
      split
      · exact successes
      · split <;> exact successes

/-- An answer leads to one call at most. -/
theorem answer_length_le (publication : Outstations.Publication) (subscriber : Nat)
    (status : CommandStatus) : (publication.answer subscriber status).2.length ≤ 1 := by
  unfold Outstations.Publication.answer
  dsimp only
  split_ifs
  · exact Nat.zero_le 1
  · exact Nat.le_refl 1
  · exact MultiCallback.call_length_le status

/-- **What a step does to the callback**: nothing, a call with a success that no control reports,
or a report. -/
theorem step_called {performing : Performing ControlEvent}
    (successes : CallsSuccess performing.todo) (input : Input) :
    let statuses := called (Outstations.step subscribers performing input).2
    let reports := reportsOf subscribers performing input
    (statuses = [] ∧ reports = []) ∨ (statuses = [.SUCCESS] ∧ reports = []) ∨
      ∃ status, statuses = [status] ∧ reports = [status] := by
  intro statuses reports
  cases input with
  | next =>
      obtain ⟨todo, published⟩ := performing
      cases todo with
      | nil => exact .inl ⟨rfl, rfl⟩
      | cons action rest =>
          cases action with
          | call status =>
              have success : status = .SUCCESS := successes status List.mem_cons_self
              subst success
              exact .inr (.inl ⟨rfl, rfl⟩)
          | publish event callback =>
              exact .inl ⟨Outstations.called_publish subscribers event, rfl⟩
  | answer index subscriber status =>
      have same : reports = statuses := rfl
      have few : statuses.length ≤ 1 := by
        simp only [statuses, Outstations.step]
        split
        · exact Nat.zero_le 1
        · split
          · rw [Outstations.called_called]
            exact answer_length_le _ subscriber status
          · exact Nat.zero_le 1
      rw [same]
      rcases Nat.le_one_iff_eq_zero_or_eq_one.mp few with none | one
      · rw [List.eq_nil_of_length_eq_zero none]
        exact .inl ⟨rfl, rfl⟩
      · obtain ⟨status, only⟩ := List.length_eq_one_iff.mp one
        exact .inr (.inr ⟨status, only, only⟩)

/-- What a step does to the state and which outputs it has, when it calls the callback. -/
theorem domStep_call {state : DOMResponding} {input : Input} {status : CommandStatus}
    (one : called (Outstations.step subscribers state.performing input).2 = [status]) :
    domStep subscribers state input =
      ({ performing := (Outstations.step subscribers state.performing input).1
         closure := (countStatus state.closure status).1 },
        (reportsOf subscribers state.performing input).map .report ++
          (countStatus state.closure status).2.map .response) := by
  rw [domStep, one, run_singleton]

theorem domStep_silent {state : DOMResponding} {input : Input}
    (none : called (Outstations.step subscribers state.performing input).2 = [])
    (quiet : reportsOf subscribers state.performing input = []) :
    domStep subscribers state input =
      ({ state with performing := (Outstations.step subscribers state.performing input).1 },
        []) := by
  rw [domStep, none, quiet]
  rfl

/-! ## Runs -/

/-- **Once the response was sent** there is none after it, and every report is late. -/
theorem run_late {state : DOMResponding} (successes : CallsSuccess state.performing.todo)
    (sent : 16 ≤ state.closure.2) (inputs : List Input) :
    ∃ late : List CommandStatus,
      (run (domStep subscribers) state inputs).2 = late.map .report ∧
        (Guarded (domStep subscribers) (InTime subscribers) state inputs ↔ late = []) := by
  induction inputs generalizing state with
  | nil => exact ⟨[], rfl, iff_of_true trivial rfl⟩
  | cons input rest ih =>
      have kept : CallsSuccess (Outstations.step subscribers state.performing input).1.todo :=
        successes.step input
      have inTime : InTime subscribers state input ↔
          reportsOf subscribers state.performing input = [] := by
        rw [InTime, iff_false_intro (Nat.not_lt.mpr sent), imp_false, not_not]
      have silent : ∀ status, (countStatus state.closure status).2 = [] := by
        intro status
        exact if_neg (by omega)
      have stepped : (domStep subscribers state input).2 =
            (reportsOf subscribers state.performing input).map .report ∧
          16 ≤ (domStep subscribers state input).1.closure.2 := by
        rcases step_called successes input with ⟨none, quiet⟩ | ⟨one, -⟩ | ⟨status, one, -⟩
        · rw [domStep_silent none quiet, quiet]
          exact ⟨rfl, sent⟩
        · rw [domStep_call one, silent, List.map_nil, List.append_nil]
          exact ⟨rfl, Nat.le_succ_of_le sent⟩
        · rw [domStep_call one, silent, List.map_nil, List.append_nil]
          exact ⟨rfl, Nat.le_succ_of_le sent⟩
      obtain ⟨late, same, guarded⟩ := ih kept stepped.2
      refine ⟨reportsOf subscribers state.performing input ++ late, ?_, ?_⟩
      · rw [run_cons, stepped.1, same, List.map_append]
      · rw [Guarded, inTime, guarded, List.append_eq_nil_iff]

/-- **The response is sent once**, when enough calls are made: it accepts exactly when the reports
before it are successes, and every report after it is late. -/
theorem run_early {state : DOMResponding} (successes : CallsSuccess state.performing.todo)
    (waits : state.closure.2 < 16) {inputs : List Input}
    (enough : 16 ≤ state.closure.2 +
      (called (run (Outstations.step subscribers) state.performing inputs).2).length) :
    ∃ early late : List CommandStatus,
      (run (domStep subscribers) state inputs).2 =
          early.map .report ++
            .response (state.closure.1 && early.all (· == .SUCCESS)) :: late.map .report ∧
        (Guarded (domStep subscribers) (InTime subscribers) state inputs ↔ late = []) := by
  induction inputs generalizing state with
  | nil =>
      have none : 16 ≤ state.closure.2 := enough
      omega
  | cons input rest ih =>
      have kept : CallsSuccess (Outstations.step subscribers state.performing input).1.todo :=
        successes.step input
      have inTime : InTime subscribers state input := fun _ => waits
      rw [run_cons, Outstations.called_append, List.length_append] at enough
      -- A call, reported or not: it is the sixteenth, or others follow.
      have counted : ∀ (status : CommandStatus) (reports : List CommandStatus),
          called (Outstations.step subscribers state.performing input).2 = [status] →
          reportsOf subscribers state.performing input = reports →
          (status == .SUCCESS) = reports.all (· == .SUCCESS) →
          ∃ early late : List CommandStatus,
            (run (domStep subscribers) state (input :: rest)).2 =
                early.map .report ++
                  .response (state.closure.1 && early.all (· == .SUCCESS)) :: late.map .report ∧
              (Guarded (domStep subscribers) (InTime subscribers) state (input :: rest) ↔
                late = []) := by
        intro status reports one same verdict
        rw [one, List.length_singleton] at enough
        rw [Guarded, run_cons, domStep_call one, same]
        by_cases last : state.closure.2 + 1 = 16
        · have sent : 16 ≤ (countStatus state.closure status).1.2 := Nat.le_of_eq last.symm
          obtain ⟨late, later, guarded⟩ := @run_late subscribers ⟨_, _⟩ kept sent rest
          refine ⟨reports, late, ?_, ?_⟩
          · rw [later, countStatus, if_pos last, verdict]
            simp
          · rw [guarded]
            exact and_iff_right inTime
        · have waiting : (countStatus state.closure status).1.2 < 16 := by
            change state.closure.2 + 1 < 16
            omega
          have more : 16 ≤ (countStatus state.closure status).1.2 + _ :=
            (Nat.add_assoc ..).symm ▸ enough
          obtain ⟨early, late, later, guarded⟩ := @ih ⟨_, _⟩ kept waiting more
          refine ⟨reports ++ early, late, ?_, ?_⟩
          · rw [later, countStatus, if_neg last, verdict]
            simp [Bool.and_assoc]
          · rw [guarded]
            exact and_iff_right inTime
      rcases step_called successes input with ⟨none, quiet⟩ | ⟨one, quiet⟩ | ⟨status, one, same⟩
      · rw [none, List.length_nil, Nat.zero_add] at enough
        obtain ⟨early, late, later, guarded⟩ := @ih ⟨_, _⟩ kept waits enough
        refine ⟨early, late, ?_, ?_⟩
        · rw [run_cons, domStep_silent none quiet, later, List.nil_append]
        · rw [Guarded, domStep_silent none quiet, guarded]
          exact and_iff_right inTime
      · exact counted .SUCCESS [] one quiet rfl
      · exact counted status [status] one same (by simp)

/-- The state of a run is that of the controls, and of the callback after their calls. -/
theorem run_domStep (state : DOMResponding) (inputs : List Input) :
    let performed := run (Outstations.step subscribers) state.performing inputs
    let counted := run countStatus state.closure (called performed.2)
    (run (domStep subscribers) state inputs).1 =
        { performing := performed.1, closure := counted.1 } ∧
      responded (run (domStep subscribers) state inputs).2 = counted.2 := by
  induction inputs generalizing state with
  | nil => exact ⟨rfl, rfl⟩
  | cons input rest ih =>
      intro performed counted
      obtain ⟨ended, later⟩ := ih (domStep subscribers state input).1
      have split : counted = run countStatus state.closure
          (called (Outstations.step subscribers state.performing input).2 ++
            called (run (Outstations.step subscribers)
              (Outstations.step subscribers state.performing input).1 rest).2) := by
        rw [← Outstations.called_append]
        rfl
      rw [split, run_append, run_cons, responded_append, later]
      refine ⟨ended, ?_⟩
      rw [domStep, responded_append, responded_report, responded_response, List.nil_append]

/-! ## Counting the reports -/

/-- The calls that an action makes itself. -/
def directCalls : Action ControlEvent → Nat
  | .call _ => 1
  | .publish _ _ => 0

theorem step_reported (state : DOMResponding) (input : Input) :
    (reported (domStep subscribers state input).2).length +
        (state.performing.todo.map directCalls).sum =
      (called (Outstations.step subscribers state.performing input).2).length +
        ((Outstations.step subscribers state.performing input).1.todo.map directCalls).sum := by
  have reports : reported (domStep subscribers state input).2 =
      reportsOf subscribers state.performing input := by
    rw [domStep, reported_append, reported_report, reported_response, List.append_nil]
  rw [reports]
  obtain ⟨⟨todo, published⟩, closure⟩ := state
  cases input with
  | next =>
      cases todo with
      | nil => rfl
      | cons action rest =>
          cases action with
          | call status =>
              simp [reportsOf, Outstations.step, called, directCalls]
          | publish event callback =>
              simp [reportsOf, Outstations.step, Outstations.called_publish, directCalls]
  | answer index subscriber status =>
      simp only [reportsOf, Outstations.step]
      split
      · rfl
      · split <;> rfl

theorem run_reported (state : DOMResponding) (inputs : List Input) :
    (reported (run (domStep subscribers) state inputs).2).length +
        (state.performing.todo.map directCalls).sum =
      (called (run (Outstations.step subscribers) state.performing inputs).2).length +
        ((run (Outstations.step subscribers) state.performing inputs).1.todo.map
          directCalls).sum := by
  induction inputs generalizing state with
  | nil => rfl
  | cons input rest ih =>
      have first : (reported (domStep subscribers state input).2).length + _ = _ :=
        step_reported state input
      have later := ih (domStep subscribers state input).1
      rw [run_cons, run_cons, reported_append, Outstations.called_append, List.length_append,
        List.length_append]
      dsimp only [domStep] at first later ⊢
      omega

end Steps

/-! ## An output word -/

section Words

variable (channels : List (Option ControlEvent)) (waitforresult : Bool)

theorem actions_performedWord_cons (channel : Option ControlEvent) :
    (ControlAction.performedWord (channel :: channels)).actions waitforresult =
      Outstations.performAll waitforresult channel.toList ++ [.call .SUCCESS] ++
        (ControlAction.performedWord channels).actions waitforresult := rfl

/-- The callback is called once for each control, apart from the direct calls. -/
theorem calls_performedWord :
    (((ControlAction.performedWord channels).actions waitforresult).map Outstations.calls).sum =
      channels.reduceOption.length +
        (((ControlAction.performedWord channels).actions waitforresult).map directCalls).sum := by
  induction channels with
  | nil => rfl
  | cons channel rest ih =>
      rw [actions_performedWord_cons]
      simp only [List.map_append, List.sum_append, ih]
      cases channel with
      | none =>
          rw [List.reduceOption_cons_of_none]
          simp [Outstations.performAll, Outstations.calls, directCalls]
          omega
      | some event =>
          rw [List.reduceOption_cons_of_some]
          cases waitforresult <;>
            simp [Outstations.performAll, Outstations.perform, Outstations.calls, directCalls] <;>
            omega

/-- There is a direct call for each channel. -/
theorem length_le_directCalls :
    channels.length ≤
      (((ControlAction.performedWord channels).actions waitforresult).map directCalls).sum := by
  induction channels with
  | nil => exact Nat.le_refl 0
  | cons channel rest ih =>
      rw [actions_performedWord_cons]
      simp only [List.map_append, List.sum_append, List.map_cons, List.sum_cons, List.map_nil,
        List.sum_nil, directCalls, List.length_cons]
      omega

theorem callsSuccess_performedWord :
    CallsSuccess ((ControlAction.performedWord channels).actions waitforresult) := by
  intro status member
  obtain ⟨channel, -, made⟩ := List.mem_flatMap.mp member
  rcases List.mem_append.mp made with performed | direct
  · obtain ⟨event, -, called⟩ := List.mem_flatMap.mp performed
    cases waitforresult with
    | true => simp [Outstations.perform] at called
    | false => simpa [Outstations.perform] using called
  · simpa using direct

variable {channels waitforresult} {subscribers : Nat}

/-- **Sixteen channels or more.** With all events answered there was one response to all reports
exactly when each of them came in time. -/
theorem performedWord_respondsOnce_iff (positive : 0 < subscribers)
    (sixteen : 16 ≤ channels.length) {inputs : List Input} :
    let start := (ControlAction.performedWord channels).responding waitforresult
    let ended := run (domStep subscribers) start inputs
    Done ended.1.performing →
      (RespondsOnce channels.reduceOption.length ended.2 ↔
        Guarded (domStep subscribers) (InTime subscribers) start inputs) := by
  intro start ended done
  rw [(run_domStep start inputs).1] at done
  have total := Outstations.run_called_length positive done
  have points := calls_performedWord channels waitforresult
  have direct := length_le_directCalls channels waitforresult
  have reports := @run_reported subscribers start inputs
  rw [done.1, List.map_nil, List.sum_nil] at reports
  change _ + (((ControlAction.performedWord channels).actions waitforresult).map
    directCalls).sum = _ at reports
  change (called (run (Outstations.step subscribers) start.performing inputs).2).length = _ at total
  have enough : 16 ≤ start.closure.2 +
      (called (run (Outstations.step subscribers) start.performing inputs).2).length := by
    omega
  have all : (reported (run (domStep subscribers) start inputs).2).length =
      channels.reduceOption.length := by
    omega
  obtain ⟨early, late, outputs, guarded⟩ :=
    run_early (callsSuccess_performedWord channels waitforresult) (Nat.zero_lt_succ 15) enough
  exact (respondsOnce_iff_of_split outputs all).trans guarded.symm

end Words

/-- The word of a message for one station: it has two blocks that fit together, and its module has
a point at channel zero. -/
structure IsOutputWord (tables : ControlTables) (header : MD3BlockData)
    (completeMD3Message : MD3Message) : Prop where
  answered : header.getStationAddress ≠ 0
  twoBlocks : completeMD3Message.length = 2
  verified : header.verifyDomSecondBlock (completeMD3Message.getD 1 {}) = true
  channelZero : tables.getBinaryControlODCIndexUsingMD3Index header.getModuleAddress 0 ≠ none

/-- How many of the sixteen channels of a module have a point. -/
def definedPoints (tables : ControlTables) (moduleAddress : Nat) : Nat :=
  (List.range 16).countP fun channel =>
    (tables.getBinaryControlODCIndexUsingMD3Index moduleAddress channel).isSome

section Responses

variable {tables : ControlTables} {header : MD3BlockData} {completeMD3Message : MD3Message}

/-- An output word is performed when controls are not made to fail. -/
theorem IsOutputWord.doDOMControl (word : IsOutputWord tables header completeMD3Message) :
    tables.doDOMControl false header completeMD3Message =
      .performedWord ((List.range 16).map (tables.channelEvent header.getModuleAddress
        (getOutputFromDomSecondBlock (completeMD3Message.getD 1 {})))) := by
  rw [ControlTables.doDOMControl, if_neg word.answered, if_neg, if_neg Bool.false_ne_true]
  rintro (blocks | unverified | missing)
  · exact blocks word.twoBlocks
  · exact Bool.false_ne_true (unverified.symm.trans word.verified)
  · exact word.channelZero missing

theorem length_channelEvents (moduleAddress : Nat) (output : BitVec 16) :
    ((List.range 16).map (tables.channelEvent moduleAddress output)).reduceOption.length =
      definedPoints tables moduleAddress := by
  rw [List.reduceOption, List.filterMap_map, List.length_filterMap_eq_countP, definedPoints]
  refine List.countP_congr fun channel _ => ?_
  simp [ControlTables.channelEvent]

variable {subscribers : Nat}

/-- **The response to an output word.** Whatever the subscribers answer and in whatever order, with
all events answered there was exactly one response, it was sent after all the points of the module
had reported, and it accepts exactly when all reports were successes, if and only if each report
came before the sixteenth call of the callback. -/
theorem doDOMControl_respondsOnce_iff (word : IsOutputWord tables header completeMD3Message)
    (standAloneOutstation : Bool) (positive : 0 < subscribers) (inputs : List Input) :
    let start := (tables.doDOMControl false header completeMD3Message).responding
      (!standAloneOutstation)
    let ended := run (domStep subscribers) start inputs
    Done ended.1.performing →
      (RespondsOnce (definedPoints tables header.getModuleAddress) ended.2 ↔
        Guarded (domStep subscribers) (InTime subscribers) start inputs) := by
  rw [word.doDOMControl, ← length_channelEvents]
  exact performedWord_respondsOnce_iff positive (by rw [List.length_map, List.length_range])

end Responses

/-! ## Early and late reports -/

/-- An output word for the two outputs of module 2, at the channels zero and one. -/
def twoOutputsMessage : MD3Message := sendDOMOutputCommand stationFive.address 2 0xC000#16

theorem twoOutputs_isOutputWord :
    IsOutputWord controlTables (twoOutputsMessage.headD {}) twoOutputsMessage where
  answered := by decide +kernel
  twoBlocks := rfl
  verified := by decide +kernel
  channelZero := by decide +kernel

/-- Each control reports before the next channel; the second one fails. -/
def promptReports : List Input :=
  [.next, .answer 0 0 .SUCCESS, .next, .next, .answer 1 0 .HARDWARE_ERROR] ++
    List.replicate 15 .next

/-- The second control reports after all channels. -/
def tardyReport : List Input :=
  [.next, .answer 0 0 .SUCCESS] ++ List.replicate 17 .next ++ [.answer 1 0 .HARDWARE_ERROR]

/-- Reports that come at once are responded to. -/
theorem doDOMControl_respondsOnce_prompt :
    RespondsOnce (definedPoints controlTables (twoOutputsMessage.headD {}).getModuleAddress)
      (run (domStep 1) ((controlTables.doDOMControl false (twoOutputsMessage.headD {})
        twoOutputsMessage).responding true) promptReports).2 :=
  (doDOMControl_respondsOnce_iff twoOutputs_isOutputWord false (by decide : 0 < 1) promptReports
    (by decide +kernel)).mpr (by decide +kernel)

/-- The word is accepted, and then its second control fails. -/
theorem doDOMControl_accepts_early :
    let outputs := (run (domStep 1) ((controlTables.doDOMControl false (twoOutputsMessage.headD {})
      twoOutputsMessage).responding true) tardyReport).2
    outputs = [.report .SUCCESS, .response true, .report .HARDWARE_ERROR] ∧
      ¬RespondsOnce (definedPoints controlTables (twoOutputsMessage.headD {}).getModuleAddress)
        outputs := by
  intro outputs
  have ended : outputs = [.report .SUCCESS, .response true, .report .HARDWARE_ERROR] := by
    decide +kernel
  refine ⟨ended, ?_⟩
  rw [ended]
  intro responds
  exact absurd responds.once (by decide)

end OpenDataCon.MD3Port

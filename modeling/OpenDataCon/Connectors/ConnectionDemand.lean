import OpenDataCon.Foundations.Runs

/-!
# Connection demand

A connector keeps, for every receiver, which of its senders are connected
(`DemandMap`), and forwards connection events to the receivers. Several events may
be on their way through the connector at once. Each region that holds the mutex is
one step, and so is each forwarding call; a disconnect updates the map, gives the
mutex up, asks the map again, and only then forwards.

A connect from another sender may come between the answer to the query and the
forwarding call, and the receiver is left without demand
(`muxConnectionEvents_lostConnect`). In a run in which no disconnect is forwarded
while a sender is connected, unless a connect is still to be forwarded, and the same
the other way round, a receiver is in demand exactly if a sender's last event was
`CONNECTED` whenever nothing is on its way (`run_inDemand`).
-/

set_option autoImplicit false

namespace OpenDataCon.Connectors.Demand

open Runs

universe u v

variable {Sender : Type u} {Receiver : Type v} [DecidableEq Sender] [DecidableEq Receiver]

/-! ## The demand map -/

inductive ConnectState where
  | PORT_UP | CONNECTED | DISCONNECTED | PORT_DOWN | UNDEFINED
deriving DecidableEq, Repr

/-- The senders of one receiver that have been heard of. -/
abbrev Demands (Sender : Type u) := List (Sender × Bool)

namespace Demands

/-- `demands[sender] = value`. -/
def set (demands : Demands Sender) (sender : Sender) (value : Bool) : Demands Sender :=
  demands.filter (fun demand => demand.1 ≠ sender) ++ [(sender, value)]

/-- `demands[sender]`, which is false for a new sender. -/
def get (demands : Demands Sender) (sender : Sender) : Bool :=
  demands.any fun demand => demand.1 = sender && demand.2

/-- `InDemand`. -/
def inDemand (demands : Demands Sender) : Bool := demands.any fun demand => demand.2

variable {demands : Demands Sender}

theorem get_set (sender other : Sender) (value : Bool) :
    (demands.set sender value).get other =
      if other = sender then value else demands.get other := by
  rw [Bool.eq_iff_iff]
  by_cases same : other = sender
  · subst same
    simp [get, set]
  · have differs : sender ≠ other := fun equal => same equal.symm
    rw [if_neg same]
    simp only [get, set, List.any_eq_true, List.mem_append, List.mem_filter, List.mem_singleton,
      Bool.and_eq_true, decide_eq_true_eq]
    constructor
    · rintro ⟨demand, (⟨member, -⟩ | rfl), here, demanded⟩
      · exact ⟨demand, member, here, demanded⟩
      · exact absurd here differs
    · rintro ⟨demand, member, here, demanded⟩
      have stays : demand.1 ≠ sender := fun equal => same (here.symm.trans equal)
      exact ⟨demand, .inl ⟨member, stays⟩, here, demanded⟩

theorem inDemand_iff : demands.inDemand = true ↔ ∃ sender, demands.get sender = true := by
  unfold inDemand get
  simp only [List.any_eq_true, Bool.and_eq_true, decide_eq_true_eq]
  constructor
  · rintro ⟨demand, member, demanded⟩
    exact ⟨demand.1, demand, member, rfl, demanded⟩
  · rintro ⟨sender, demand, member, -, demanded⟩
    exact ⟨demand, member, demanded⟩

end Demands

/-! ## Events on their way through the connector -/

/-- What an event does next with the first of the connections it still has to serve. -/
inductive Phase where
  | mux | query | forward
deriving DecidableEq, Repr

/-- An event on its way; it is done when no connection is left. -/
structure Task (Sender : Type u) (Receiver : Type v) where
  sender : Sender
  state : ConnectState
  connections : List Receiver
  phase : Phase := .mux

/-- The connector's map, the demand of the connector at every receiver, and the events. -/
structure DemandState (Sender : Type u) (Receiver : Type v) where
  connectionDemands : Receiver → Demands Sender := fun _ => []
  receiverInDemand : Receiver → Bool := fun _ => false
  tasks : List (Task Sender Receiver) := []
  /-- The last connect or disconnect of a sender that was processed for a receiver. -/
  lastProcessed : Receiver → Sender → Option ConnectState := fun _ _ => none

/-- The event goes on to the next connection. -/
def Task.next (task : Task Sender Receiver) : Task Sender Receiver :=
  { task with connections := task.connections.tail, phase := .mux }

namespace DemandState

/-- The locked update of `MuxConnectionEvents`. -/
def update (s : DemandState Sender Receiver) (receiver : Receiver) (sender : Sender)
    (state : ConnectState) (value : Bool) : DemandState Sender Receiver :=
  { s with
    connectionDemands :=
      Function.update s.connectionDemands receiver
        ((s.connectionDemands receiver).set sender value)
    lastProcessed :=
      Function.update s.lastProcessed receiver
        (Function.update (s.lastProcessed receiver) sender (some state)) }

theorem update_demands (s : DemandState Sender Receiver) (receiver : Receiver)
    (sender : Sender) (state : ConnectState) (value : Bool) :
    (s.update receiver sender state value).connectionDemands receiver =
      (s.connectionDemands receiver).set sender value := Function.update_self _ _ _

/-- The receiver's `Event(state, Name)`, on a demand map of its own. -/
def receive (s : DemandState Sender Receiver) (receiver : Receiver) (state : ConnectState) :
    DemandState Sender Receiver :=
  match state with
  | .CONNECTED =>
    { s with receiverInDemand := Function.update s.receiverInDemand receiver true }
  | .DISCONNECTED =>
    { s with receiverInDemand := Function.update s.receiverInDemand receiver false }
  | _ => s

/-- One step of a task: the state it leaves behind and the task after it. -/
def taskStep (s : DemandState Sender Receiver) (task : Task Sender Receiver) :
    DemandState Sender Receiver × Task Sender Receiver :=
  match task.connections with
  | [] => (s, task)
  | receiver :: _ =>
    match task.phase, task.state with
    | .mux, .DISCONNECTED =>
      (s.update receiver task.sender .DISCONNECTED false, { task with phase := .query })
    | .mux, .CONNECTED =>
      let newDemand := !(s.connectionDemands receiver).get task.sender
      (s.update receiver task.sender .CONNECTED true,
        if newDemand then { task with phase := .forward } else task.next)
    | .mux, _ => (s, { task with phase := .forward })
    | .query, _ =>
      (s, if (s.connectionDemands receiver).inDemand then task.next
        else { task with phase := .forward })
    | .forward, state => (s.receive receiver state, task.next)

end DemandState

/-- What can happen: an event of a sender reaches the connector, or an event goes one
step on. -/
inductive Input (Sender : Type u) where
  | event (state : ConnectState) (sender : Sender)
  | advance (position : Nat)

variable (SenderConnections : Sender → List Receiver)

/-- One step of the connector. -/
def step (s : DemandState Sender Receiver) :
    Input Sender → DemandState Sender Receiver × List Unit
  | .event state sender =>
    ({ s with tasks := s.tasks ++ [{ sender, state, connections := SenderConnections sender }] },
      [])
  | .advance position =>
    match s.tasks[position]? with
    | none => (s, [])
    | some task =>
      let taken := s.taskStep task
      ({ taken.1 with tasks := s.tasks.set position taken.2 }, [])

/-! ## When the receivers are right -/

/-- The task is about to forward this state to the receiver. -/
def Task.Forwards (state : ConnectState) (receiver : Receiver) (task : Task Sender Receiver) :
    Prop :=
  task.phase = .forward ∧ task.state = state ∧ task.connections.head? = some receiver

/-- The task has updated the map for the receiver and is about to ask it again. -/
def Task.Queries (receiver : Receiver) (task : Task Sender Receiver) : Prop :=
  task.phase = .query ∧ task.connections.head? = some receiver

/-- A task will tell the receiver to connect. -/
def Task.Connects (receiver : Receiver) (task : Task Sender Receiver) : Prop :=
  task.Forwards .CONNECTED receiver

/-- A task will tell the receiver to disconnect, unless it finds a demand first. -/
def Task.Disconnects (receiver : Receiver) (task : Task Sender Receiver) : Prop :=
  task.Forwards .DISCONNECTED receiver ∨ task.Queries receiver

/-- Some other task has the property. -/
def Another (tasks : List (Task Sender Receiver)) (position : Nat)
    (has : Task Sender Receiver → Prop) : Prop :=
  ∃ other task, other ≠ position ∧ tasks[other]? = some task ∧ has task

/-- A disconnect is forwarded while no sender is in demand, or while a connect is still to
be forwarded; and a connect the other way round. -/
def Timely (s : DemandState Sender Receiver) : Input Sender → Prop
  | .event _ _ => True
  | .advance position => ∀ task receiver, s.tasks[position]? = some task →
      (task.Forwards .DISCONNECTED receiver →
        (s.connectionDemands receiver).inDemand = false ∨
          Another s.tasks position (Task.Connects receiver)) ∧
      (task.Forwards .CONNECTED receiver →
        (s.connectionDemands receiver).inDemand = true ∨
          Another s.tasks position (Task.Disconnects receiver))

/-- The receiver knows whether there is a demand, or a task will tell it. -/
structure Informed (s : DemandState Sender Receiver) (receiver : Receiver) : Prop where
  connected : (s.connectionDemands receiver).inDemand = true →
    s.receiverInDemand receiver = true ∨ ∃ task ∈ s.tasks, task.Connects receiver
  disconnected : (s.connectionDemands receiver).inDemand = false →
    s.receiverInDemand receiver = false ∨ ∃ task ∈ s.tasks, task.Disconnects receiver

/-- The map records who connected last. -/
def Recorded (s : DemandState Sender Receiver) : Prop :=
  ∀ receiver sender, (s.connectionDemands receiver).get sender = true ↔
    s.lastProcessed receiver sender = some .CONNECTED

/-- All events have been processed. -/
def Quiet (s : DemandState Sender Receiver) : Prop := ∀ task ∈ s.tasks, task.connections = []

instance (s : DemandState Sender Receiver) : Decidable (Quiet s) :=
  inferInstanceAs (Decidable (∀ task ∈ s.tasks, task.connections = []))

omit [DecidableEq Sender] [DecidableEq Receiver] in
/-- A task tells only the receiver that it stands at. -/
theorem Task.not_tells {receiver : Receiver} {task : Task Sender Receiver}
    (elsewhere : task.connections.head? ≠ some receiver) :
    ¬task.Connects receiver ∧ ¬task.Disconnects receiver := by
  constructor
  · exact fun connects => elsewhere connects.2.2
  · rintro (forwards | queries)
    · exact elsewhere forwards.2.2
    · exact elsewhere queries.2

section Tasks

variable {tasks : List (Task Sender Receiver)} {position : Nat} {task task' : Task Sender Receiver}
  {has : Task Sender Receiver → Prop}

omit [DecidableEq Sender] [DecidableEq Receiver]

/-- The other tasks stay. -/
theorem another_set (other : Another tasks position has) :
    ∃ task ∈ tasks.set position task', has task := by
  obtain ⟨place, task, differs, here, holds⟩ := other
  refine ⟨task, List.mem_of_getElem? (i := place) ?_, holds⟩
  rw [List.getElem?_set_ne differs.symm, here]

/-- The task that moved is there as it is now. -/
theorem moved_set (here : tasks[position]? = some task) (holds : has task') :
    ∃ task ∈ tasks.set position task', has task := by
  obtain ⟨bound, -⟩ := List.getElem?_eq_some_iff.mp here
  exact ⟨task', List.mem_set bound _, holds⟩

/-- A task with the property is another one, or the one that moves has it. -/
theorem exists_set (here : tasks[position]? = some task) (some' : ∃ task ∈ tasks, has task)
    (lacks : ¬has task) : ∃ task ∈ tasks.set position task', has task := by
  obtain ⟨other, member, holds⟩ := some'
  obtain ⟨place, found⟩ := List.getElem?_of_mem member
  refine another_set ⟨place, other, fun equal => lacks ?_, found, holds⟩
  rw [equal, here] at found
  cases found
  exact holds

end Tasks

/-! ## One step -/

section Steps

variable {s : DemandState Sender Receiver} {position : Nat} {task : Task Sender Receiver}

omit [DecidableEq Sender] [DecidableEq Receiver] in
/-- A step that changes nothing for a receiver, by a task that had nothing to tell it. -/
theorem informed_unchanged {receiver : Receiver} {s' : DemandState Sender Receiver}
    {task' : Task Sender Receiver} (here : s.tasks[position]? = some task)
    (tells : ¬task.Connects receiver ∧ ¬task.Disconnects receiver)
    (demands : s'.connectionDemands receiver = s.connectionDemands receiver)
    (received : s'.receiverInDemand receiver = s.receiverInDemand receiver)
    (informed : Informed s receiver) :
    Informed { s' with tasks := s.tasks.set position task' } receiver := by
  constructor
  · dsimp only
    rw [demands, received]
    exact fun demanded => (informed.connected demanded).imp_right fun others =>
      exists_set here others tells.1
  · dsimp only
    rw [demands, received]
    exact fun idle => (informed.disconnected idle).imp_right fun others =>
      exists_set here others tells.2

/-- A task touches only the receiver that it stands at. -/
theorem taskStep_frame {receiver : Receiver}
    (elsewhere : task.connections.head? ≠ some receiver) :
    (s.taskStep task).1.connectionDemands receiver = s.connectionDemands receiver ∧
      (s.taskStep task).1.receiverInDemand receiver = s.receiverInDemand receiver := by
  obtain ⟨sender, state, connections, phase⟩ := task
  cases connections with
  | nil => exact ⟨rfl, rfl⟩
  | cons first rest =>
      have differs : receiver ≠ first := fun equal => elsewhere (congrArg some equal.symm)
      have updated : ∀ value, (s.update first sender state value).connectionDemands receiver =
          s.connectionDemands receiver := fun value => Function.update_of_ne differs _ _
      cases phase with
      | mux =>
          cases state with
          | CONNECTED => exact ⟨updated true, rfl⟩
          | DISCONNECTED => exact ⟨updated false, rfl⟩
          | _ => exact ⟨rfl, rfl⟩
      | query => exact ⟨rfl, rfl⟩
      | forward =>
          cases state with
          | CONNECTED => exact ⟨rfl, Function.update_of_ne differs _ _⟩
          | DISCONNECTED => exact ⟨rfl, Function.update_of_ne differs _ _⟩
          | _ => exact ⟨rfl, rfl⟩

omit [DecidableEq Sender] [DecidableEq Receiver] in
/-- A task that still updates the map has nothing to tell yet. -/
theorem Task.mux_tells (receiver : Receiver) (muxes : task.phase = .mux) :
    ¬task.Connects receiver ∧ ¬task.Disconnects receiver := by
  constructor
  · exact fun connects => Phase.noConfusion (muxes.symm.trans connects.1)
  · rintro (forwards | queries)
    · exact Phase.noConfusion (muxes.symm.trans forwards.1)
    · exact Phase.noConfusion (muxes.symm.trans queries.1)

/-- A disconnected sender does not make a demand. -/
theorem inDemand_of_set_false {demands : Demands Sender} {sender : Sender}
    (demanded : (demands.set sender false).inDemand = true) : demands.inDemand = true := by
  obtain ⟨other, asks⟩ := Demands.inDemand_iff.mp demanded
  rw [Demands.get_set] at asks
  split_ifs at asks
  exact Demands.inDemand_iff.mpr ⟨other, asks⟩

theorem inDemand_set_true (demands : Demands Sender) (sender : Sender) :
    (demands.set sender true).inDemand = true :=
  Demands.inDemand_iff.mpr ⟨sender, by rw [Demands.get_set, if_pos rfl]⟩

/-- **A timely step of a task leaves the receiver it stands at informed.** -/
theorem informed_here {receiver : Receiver} {rest : List Receiver}
    (here : s.tasks[position]? = some task) (stands : task.connections = receiver :: rest)
    (timely : Timely s (.advance position))
    (queries : task.phase = .query → task.state = .DISCONNECTED)
    (informed : Informed s receiver) :
    Informed { (s.taskStep task).1 with tasks := s.tasks.set position (s.taskStep task).2 }
      receiver := by
  obtain ⟨sender, state, connections, phase⟩ := task
  dsimp only at stands queries
  subst stands
  cases phase with
  | mux =>
      have quiet := Task.mux_tells receiver
        (show Task.phase ⟨sender, state, receiver :: rest, .mux⟩ = .mux from rfl)
      cases state with
      | DISCONNECTED =>
          constructor
          · intro demanded
            have after : ((s.update receiver sender .DISCONNECTED false).connectionDemands
                receiver).inDemand = true := demanded
            rw [DemandState.update_demands] at after
            exact (informed.connected (inDemand_of_set_false after)).imp_right fun others =>
              exists_set here others quiet.1
          · exact fun _ => .inr (moved_set here (.inr ⟨rfl, rfl⟩))
      | CONNECTED =>
          have now : ((s.update receiver sender .CONNECTED true).connectionDemands
              receiver).inDemand = true := by
            rw [DemandState.update_demands]
            exact inDemand_set_true _ sender
          constructor
          · intro _
            cases already : (s.connectionDemands receiver).get sender with
            | true =>
                have before := Demands.inDemand_iff.mpr ⟨sender, already⟩
                exact (informed.connected before).imp_right fun others =>
                  exists_set here others quiet.1
            | false =>
                refine .inr (moved_set here ?_)
                dsimp only [DemandState.taskStep]
                rw [already]
                exact ⟨rfl, rfl, rfl⟩
          · exact fun idle => Bool.noConfusion (now.symm.trans idle)
      | _ => exact informed_unchanged here quiet rfl rfl informed
  | query =>
      obtain rfl := queries rfl
      constructor
      · intro demanded
        exact (informed.connected demanded).imp_right fun others =>
          exists_set here others fun connects => Phase.noConfusion connects.1
      · intro idle
        refine .inr (moved_set here (.inl ?_))
        have asked : (s.connectionDemands receiver).inDemand = false := idle
        dsimp only [DemandState.taskStep]
        rw [asked]
        exact ⟨rfl, rfl, rfl⟩
  | forward =>
      obtain ⟨disconnects, connects⟩ := timely _ receiver here
      cases state with
      | CONNECTED =>
          constructor
          · exact fun _ => .inl (Function.update_self _ _ _)
          · intro idle
            rcases connects ⟨rfl, rfl, rfl⟩ with demanded | another
            · exact Bool.noConfusion (demanded.symm.trans idle)
            · exact .inr (another_set another)
      | DISCONNECTED =>
          constructor
          · intro demanded
            rcases disconnects ⟨rfl, rfl, rfl⟩ with idle | another
            · exact Bool.noConfusion (demanded.symm.trans idle)
            · exact .inr (another_set another)
          · exact fun _ => .inl (Function.update_self _ _ _)
      | _ =>
          refine informed_unchanged here ⟨?_, ?_⟩ rfl rfl informed
          · exact fun forwards => ConnectState.noConfusion forwards.2.1
          · rintro (forwards | asks)
            · exact ConnectState.noConfusion forwards.2.1
            · exact Phase.noConfusion asks.1

/-- The map records the event that the task processes. -/
theorem recorded_update (recorded : Recorded s) (receiver : Receiver) (sender : Sender)
    (state : ConnectState) (value : Bool) (agrees : value = true ↔ state = .CONNECTED) :
    Recorded (s.update receiver sender state value) := by
  intro other from'
  by_cases here : other = receiver
  · subst here
    have last : (s.update other sender state value).lastProcessed other =
        Function.update (s.lastProcessed other) sender (some state) := Function.update_self _ _ _
    rw [DemandState.update_demands, Demands.get_set, last]
    by_cases same : from' = sender
    · subst same
      rw [if_pos rfl, Function.update_self, Option.some_inj]
      exact agrees
    · rw [if_neg same, Function.update_of_ne same]
      exact recorded other from'
  · have demands : (s.update receiver sender state value).connectionDemands other =
        s.connectionDemands other := Function.update_of_ne here _ _
    have last : (s.update receiver sender state value).lastProcessed other =
        s.lastProcessed other := Function.update_of_ne here _ _
    rw [demands, last]
    exact recorded other from'

theorem recorded_taskStep (recorded : Recorded s) (task : Task Sender Receiver) :
    Recorded (s.taskStep task).1 := by
  obtain ⟨sender, state, connections, phase⟩ := task
  cases connections with
  | nil => exact recorded
  | cons receiver rest =>
      cases phase with
      | mux =>
          cases state with
          | CONNECTED => exact recorded_update recorded receiver sender .CONNECTED true (by decide)
          | DISCONNECTED =>
              exact recorded_update recorded receiver sender .DISCONNECTED false (by decide)
          | _ => exact recorded
      | query => exact recorded
      | forward => cases state <;> exact recorded

/-- Only a disconnect asks the map again. -/
theorem taskStep_queries (asks : task.phase = .query → task.state = .DISCONNECTED) :
    (s.taskStep task).2.phase = .query → (s.taskStep task).2.state = .DISCONNECTED := by
  obtain ⟨sender, state, connections, phase⟩ := task
  cases connections with
  | nil => exact asks
  | cons receiver rest =>
      cases phase with
      | mux =>
          cases state with
          | CONNECTED =>
              dsimp only [DemandState.taskStep]
              split_ifs <;> exact nofun
          | DISCONNECTED => exact fun _ => rfl
          | _ => exact nofun
      | query =>
          dsimp only [DemandState.taskStep]
          split_ifs <;> exact nofun
      | forward => exact nofun

end Steps

/-! ## Whole runs -/

/-- Every receiver is informed, and the map records who connected last. -/
structure Sound (s : DemandState Sender Receiver) : Prop where
  informed : ∀ receiver, Informed s receiver
  recorded : Recorded s
  queries : ∀ task ∈ s.tasks, task.phase = .query → task.state = .DISCONNECTED

variable {SenderConnections}

theorem step_sound (s : DemandState Sender Receiver) (input : Input Sender) (sound : Sound s)
    (timely : Timely s input) : Sound (step SenderConnections s input).1 := by
  cases input with
  | event state sender =>
      have still : ∀ {has : Task Sender Receiver → Prop}, (∃ task ∈ s.tasks, has task) →
          ∃ task ∈ (step SenderConnections s (.event state sender)).1.tasks, has task :=
        fun ⟨task, member, holds⟩ => ⟨task, List.mem_append_left _ member, holds⟩
      exact
        { informed := fun receiver =>
            { connected := fun demanded => ((sound.informed receiver).connected demanded).imp_right
                still
              disconnected := fun idle => ((sound.informed receiver).disconnected idle).imp_right
                still }
          recorded := sound.recorded
          queries := fun task member => by
            rcases List.mem_append.mp member with old | new
            · exact sound.queries task old
            · rw [List.mem_singleton.mp new]
              exact nofun }
  | advance position =>
      dsimp only [step]
      match here : s.tasks[position]? with
      | none => exact sound
      | some task =>
          have asks := sound.queries task (List.mem_of_getElem? here)
          refine ⟨fun receiver => ?_, recorded_taskStep sound.recorded task, ?_⟩
          · by_cases stands : task.connections.head? = some receiver
            · obtain ⟨rest, split⟩ := List.head?_eq_some_iff.mp stands
              exact informed_here here split timely asks (sound.informed receiver)
            · obtain ⟨demands, received⟩ := taskStep_frame (s := s) stands
              exact informed_unchanged here (Task.not_tells stands) demands received
                (sound.informed receiver)
          · intro other member
            rcases List.mem_or_eq_of_mem_set member with old | rfl
            · exact sound.queries other old
            · exact taskStep_queries asks

/-- **A receiver is in demand exactly if a sender connected last**, in every state of a run
of timely steps in which nothing is on its way. -/
theorem run_inDemand (SenderConnections : Sender → List Receiver) (inputs : List (Input Sender))
    (timely : Guarded (step SenderConnections) Timely {} inputs)
    (quiet : Quiet (run (step SenderConnections) {} inputs).1) (receiver : Receiver) :
    (run (step SenderConnections) {} inputs).1.receiverInDemand receiver = true ↔
      ∃ sender, (run (step SenderConnections) {} inputs).1.lastProcessed receiver sender =
        some .CONNECTED := by
  have start : Sound ({} : DemandState Sender Receiver) :=
    ⟨fun _ => ⟨nofun, fun _ => .inl rfl⟩, fun _ _ => ⟨nofun, nofun⟩, nofun⟩
  have sound := guarded_invariant Sound step_sound start timely
  obtain ⟨connected, disconnected⟩ := sound.informed receiver
  generalize (run (step SenderConnections) {} inputs).1 = final at *
  have silent : ∀ task ∈ final.tasks,
      ¬task.Connects receiver ∧ ¬task.Disconnects receiver := by
    intro task member
    refine Task.not_tells ?_
    rw [quiet task member]
    exact nofun
  have demanded : (final.connectionDemands receiver).inDemand = true ↔
      ∃ sender, final.lastProcessed receiver sender = some .CONNECTED := by
    rw [Demands.inDemand_iff]
    exact exists_congr fun sender => sound.recorded receiver sender
  rw [← demanded]
  cases known : (final.connectionDemands receiver).inDemand with
  | true =>
      rcases connected known with told | ⟨task, member, connects⟩
      · exact iff_of_true told rfl
      · exact absurd connects (silent task member).1
  | false =>
      rcases disconnected known with told | ⟨task, member, disconnects⟩
      · rw [told]
      · exact absurd disconnects (silent task member).2

/-- One sender that connects. -/
theorem run_inDemand_connected :
    (run (step fun _ : Unit => [()]) {}
        [.event .CONNECTED (), .advance 0, .advance 0]).1.receiverInDemand () = true ↔
      ∃ sender, (run (step fun _ : Unit => [()]) {}
        [.event .CONNECTED (), .advance 0, .advance 0]).1.lastProcessed () sender =
          some .CONNECTED := by
  refine run_inDemand (fun _ : Unit => [()]) [.event .CONNECTED (), .advance 0, .advance 0]
    ⟨trivial, ?_, ?_, trivial⟩ ?_ ()
  · intro task receiver here
    cases here
    exact ⟨fun forwards => Phase.noConfusion forwards.1, fun forwards =>
      Phase.noConfusion forwards.1⟩
  · intro task receiver here
    cases here
    exact ⟨fun forwards => ConnectState.noConfusion forwards.2.1, fun _ => .inl rfl⟩
  · intro task member
    cases List.mem_singleton.mp member
    rfl

/-- A first sender disconnects and finds no demand; before that is forwarded, a second one
connects. -/
def lostConnect : List (Input Bool) :=
  [.event .CONNECTED false, .advance 0, .advance 0,
    .event .DISCONNECTED false, .advance 1, .advance 1,
    .event .CONNECTED true, .advance 2, .advance 2, .advance 1]

/-- The receiver is left without demand although a sender is connected. -/
theorem muxConnectionEvents_lostConnect :
    ¬∀ inputs : List (Input Bool), Quiet (run (step fun _ => [()]) {} inputs).1 →
      ∀ receiver : Unit,
        ((run (step fun _ => [()]) {} inputs).1.receiverInDemand receiver = true ↔
          ∃ sender, (run (step fun _ => [()]) {} inputs).1.lastProcessed receiver sender =
            some .CONNECTED) := by
  intro always
  have quiet : Quiet (run (step fun _ => [()]) {} lostConnect).1 := by decide
  have told := (always lostConnect quiet ()).mpr ⟨true, rfl⟩
  exact Bool.noConfusion told

end OpenDataCon.Connectors.Demand

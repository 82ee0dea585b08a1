import OpenDataCon.Connectors.Network

/-!
# The calls that an event leads to

The calls that an event leads to are known from the network (`Network.calls`), so
what holds a callback promises certain calls of it (`Network.promisedAll`). Every
step keeps the promised calls in some order (`handles_promised`), every run comes
to an end (`step_wellFounded`), and what is promised is delivered by then
(`finished_called`).
-/

set_option autoImplicit false

namespace OpenDataCon.Connectors

open Runs MultiCallback

universe u

variable {Name : Type u}

namespace Network

variable (net : Network Name) (answer : List Nat → CommandStatus)

/-! ## The calls that will be made -/

/-- The calls that come out of a closure when these go in. -/
def gather (cbNumber : Nat) (calls : List CommandStatus) : List CommandStatus :=
  if cbNumber < 2 then calls else (run MultiCallback.call (.new cbNumber) calls).2

/-- The calls that an event at a receiver leads to. -/
def calls (receiver sender : Name) (place : List Nat) : List CommandStatus :=
  match reacts : net.reaction receiver sender with
  | .answer => [answer place]
  | .refuse => [.UNDEFINED]
  | .pass targets =>
    gather targets.length (List.ofFn fun i : Fin targets.length =>
      calls (targets.get i) receiver (i.val :: place)).flatten
termination_by net.acyclic.wrap receiver
decreasing_by exact ⟨sender, targets, reacts, List.get_mem _ _⟩

mutual
/-- The calls that will be made of a callback by what holds it. -/
def promised : Pending Name → List CommandStatus
  | .event receiver sender place => net.calls answer receiver sender place
  | .call status => [status]
  | .multi cb waiting => (run MultiCallback.call cb (promisedAll waiting)).2

def promisedAll : List (Pending Name) → List CommandStatus
  | [] => []
  | first :: rest => promised first ++ promisedAll rest
end

mutual
/-- No closure expects more calls than it was made for. -/
def Fits : Pending Name → Prop
  | .event _ _ _ => True
  | .call _ => True
  | .multi cb waiting => cb.Allows (net.promisedAll answer waiting).length ∧ FitsAll waiting

def FitsAll : List (Pending Name) → Prop
  | [] => True
  | first :: rest => Fits first ∧ FitsAll rest
end

@[simp] theorem promisedAll_append (first second : List (Pending Name)) :
    net.promisedAll answer (first ++ second) =
      net.promisedAll answer first ++ net.promisedAll answer second := by
  induction first with
  | nil => rfl
  | cons pending rest ih =>
      rw [List.cons_append, promisedAll, promisedAll, ih, List.append_assoc]

theorem promisedAll_cons (first : Pending Name) (rest : List (Pending Name)) :
    net.promisedAll answer (first :: rest) =
      net.promised answer first ++ net.promisedAll answer rest := rfl

theorem fitsAll_append (first second : List (Pending Name)) :
    net.FitsAll answer (first ++ second) ↔
      net.FitsAll answer first ∧ net.FitsAll answer second := by
  induction first with
  | nil => simp [FitsAll]
  | cons pending rest ih => simp [FitsAll, ih, and_assoc]

/-- Calls on their way are promised as they are. -/
theorem promisedAll_map_call (statuses : List CommandStatus) :
    net.promisedAll answer (statuses.map .call) = statuses := by
  induction statuses with
  | nil => rfl
  | cons status rest ih =>
      rw [List.map_cons, promisedAll_cons, promised, ih, List.singleton_append]

theorem fitsAll_map_call (statuses : List CommandStatus) :
    net.FitsAll answer (statuses.map .call) := by
  induction statuses with
  | nil => trivial
  | cons status rest ih => exact ⟨trivial, ih⟩

/-- What the deliveries to all targets promise. -/
theorem promisedAll_ofFn {n : Nat} (events : Fin n → Pending Name) :
    net.promisedAll answer (List.ofFn events) =
      (List.ofFn fun i => net.promised answer (events i)).flatten := by
  induction n with
  | zero => rfl
  | succ n ih =>
      rw [List.ofFn_succ, List.ofFn_succ, promisedAll_cons, List.flatten_cons, ih]

theorem promisedAll_passOn (targets : List Name) (sender : Name) (place : List Nat) :
    net.promisedAll answer (passOn targets sender place) =
      gather targets.length (List.ofFn fun i : Fin targets.length =>
        net.calls answer (targets.get i) sender (i.val :: place)).flatten := by
  have each : net.promisedAll answer (deliveries targets sender place) =
      (List.ofFn fun i : Fin targets.length =>
        net.calls answer (targets.get i) sender (i.val :: place)).flatten :=
    net.promisedAll_ofFn answer _
  unfold passOn syncMultiCallback gather
  by_cases few : targets.length < 2
  · rw [if_pos few, if_pos few, each]
  · rw [if_neg few, if_neg few, promisedAll_cons, promised, each]
    exact List.append_nil _

/-- Handling an event keeps what it promises. -/
theorem promisedAll_event (receiver sender : Name) (place : List Nat) :
    net.promisedAll answer (net.event answer receiver sender place) =
      net.calls answer receiver sender place := by
  rw [event_eq, calls]
  split
  · rename_i reacts
    rw [reacts]
    rfl
  · rename_i reacts
    rw [reacts]
    rfl
  · rename_i targets reacts
    rw [reacts]
    exact net.promisedAll_passOn answer targets receiver place

/-! ## Every step keeps the calls that have been and will be made -/

/-- As many lists of at most one element as there are places. -/
theorem length_flatten_ofFn_le {n : Nat} {lists : Fin n → List CommandStatus}
    (short : ∀ i, (lists i).length ≤ 1) : (List.ofFn lists).flatten.length ≤ n := by
  induction n with
  | zero => exact Nat.le_refl 0
  | succ n ih =>
      rw [List.ofFn_succ, List.flatten_cons, List.length_append]
      have first := short 0
      have rest := ih fun i => short i.succ
      omega

theorem length_flatten_ofFn_lt {n : Nat} {lists : Fin n → List CommandStatus} {i : Fin n}
    (short : ∀ i, (lists i).length ≤ 1) (none : lists i = []) :
    (List.ofFn lists).flatten.length < n := by
  induction n with
  | zero => exact i.elim0
  | succ n ih =>
      rw [List.ofFn_succ, List.flatten_cons, List.length_append]
      cases i using Fin.cases with
      | zero =>
          have rest := length_flatten_ofFn_le fun i : Fin n => short i.succ
          rw [none, List.length_nil]
          omega
      | succ i =>
          have first := short 0
          have rest := ih (fun i => short i.succ) none
          omega

/-- What holds of all elements of all lists. -/
theorem forall_mem_flatten_ofFn {n : Nat} {lists : Fin n → List CommandStatus}
    {holds : CommandStatus → Prop} (each : ∀ i, ∀ status ∈ lists i, holds status) :
    ∀ status ∈ (List.ofFn lists).flatten, holds status := by
  intro status member
  obtain ⟨list, isOne, inside⟩ := List.mem_flatten.mp member
  obtain ⟨i, rfl⟩ := List.mem_ofFn.mp isOne
  exact each i status inside

theorem gather_length_le {cbNumber : Nat} {statuses : List CommandStatus}
    (few : statuses.length ≤ cbNumber) : (gather cbNumber statuses).length ≤ 1 := by
  unfold gather
  split_ifs with one
  · omega
  · exact run_new_length_le (by omega) few

/-- An event at a receiver leads to at most one call. -/
theorem calls_length_le (receiver sender : Name) (place : List Nat) :
    (net.calls answer receiver sender place).length ≤ 1 := by
  induction receiver using net.acyclic.induction generalizing sender place with
  | _ receiver ih =>
      rw [calls]
      split
      · exact Nat.le_refl 1
      · exact Nat.le_refl 1
      · rename_i targets reacts
        refine gather_length_le (length_flatten_ofFn_le fun i => ?_)
        exact ih _ ⟨sender, targets, reacts, List.get_mem _ _⟩ receiver _

/-- A published event leads to at most one call. -/
theorem publishEvent_length_le (sender : Name) (place : List Nat) :
    (net.promisedAll answer (net.publishEvent sender place)).length ≤ 1 := by
  rw [Handlers.publishEvent, promisedAll_passOn]
  exact gather_length_le (length_flatten_ofFn_le fun i => net.calls_length_le answer _ _ _)

theorem fitsAll_of_forall {pending : List (Pending Name)}
    (each : ∀ held ∈ pending, net.Fits answer held) : net.FitsAll answer pending := by
  induction pending with
  | nil => trivial
  | cons first rest ih =>
      exact ⟨each first List.mem_cons_self, ih fun held member =>
        each held (List.mem_cons_of_mem first member)⟩

theorem fitsAll_deliveries (targets : List Name) (sender : Name) (place : List Nat) :
    net.FitsAll answer (deliveries targets sender place) := by
  refine net.fitsAll_of_forall answer fun held member => ?_
  obtain ⟨i, rfl⟩ := List.mem_ofFn.mp member
  trivial

theorem fitsAll_passOn (targets : List Name) (sender : Name) (place : List Nat) :
    net.FitsAll answer (passOn targets sender place) := by
  have each := net.fitsAll_deliveries answer targets sender place
  unfold passOn syncMultiCallback
  split_ifs with few
  · exact each
  · refine ⟨⟨new_allows ?_, each⟩, trivial⟩
    rw [deliveries, promisedAll_ofFn]
    exact length_flatten_ofFn_le fun i => net.calls_length_le answer _ _ _

theorem fitsAll_event (receiver sender : Name) (place : List Nat) :
    net.FitsAll answer (net.event answer receiver sender place) := by
  rw [event_eq]
  cases net.reaction receiver sender with
  | answer => exact ⟨trivial, trivial⟩
  | refuse => exact ⟨trivial, trivial⟩
  | pass targets => exact net.fitsAll_passOn answer targets receiver place

variable {net answer}

/-- **A step in the network keeps the promised calls**, in some order. -/
theorem handles_promised {pending pending' : List (Pending Name)}
    (step : net.Handles answer pending pending') (fits : net.FitsAll answer pending) :
    net.FitsAll answer pending' ∧
      (net.promisedAll answer pending').Perm (net.promisedAll answer pending) := by
  induction step with
  | event before after receiver sender place =>
      obtain ⟨fitsBefore, -, fitsAfter⟩ := (net.fitsAll_append answer _ _).mp fits
      constructor
      · rw [List.append_assoc, fitsAll_append, fitsAll_append]
        exact ⟨fitsBefore, net.fitsAll_event answer receiver sender place, fitsAfter⟩
      · rw [List.append_assoc, promisedAll_append, promisedAll_append, promisedAll_event,
          promisedAll_append, promisedAll_cons, promised]
  | call before after cb left right status =>
      obtain ⟨fitsBefore, ⟨allowed, fitsWaiting⟩, fitsAfter⟩ :=
        (net.fitsAll_append answer _ _).mp fits
      obtain ⟨fitsLeft, -, fitsRight⟩ := (net.fitsAll_append answer _ _).mp fitsWaiting
      have moved : (net.promisedAll answer (left ++ .call status :: right)).Perm
          (status :: net.promisedAll answer (left ++ right)) := by
        rw [promisedAll_append, promisedAll_append, promisedAll_cons, promised]
        exact List.perm_middle
      constructor
      · rw [fitsAll_append]
        have fitsRest := (net.fitsAll_append answer _ _).mpr ⟨fitsLeft, fitsRight⟩
        refine ⟨fitsBefore, ⟨?_, fitsRest⟩, ?_⟩
        · rw [moved.length_eq] at allowed
          exact call_allows allowed status
        · exact (net.fitsAll_append answer _ _).mpr ⟨net.fitsAll_map_call answer _, fitsAfter⟩
      · rw [promisedAll_append, promisedAll_append, promisedAll_cons, promisedAll_cons,
          promisedAll_append, promisedAll_map_call, promised, promised, run_call_perm moved allowed,
          run_cons]
        refine List.Perm.append_left _ ?_
        rw [← List.append_assoc]
        exact List.Perm.append_right _ List.perm_append_comm
  | within before after cb inner ih =>
      obtain ⟨fitsBefore, ⟨allowed, fitsWaiting⟩, fitsAfter⟩ :=
        (net.fitsAll_append answer _ _).mp fits
      obtain ⟨fitsWaiting', kept⟩ := ih fitsWaiting
      have allowed' := allowed
      rw [← kept.length_eq] at allowed'
      constructor
      · rw [fitsAll_append]
        exact ⟨fitsBefore, ⟨allowed', fitsWaiting'⟩, fitsAfter⟩
      · rw [promisedAll_append, promisedAll_append, promisedAll_cons, promisedAll_cons, promised,
          promised, run_call_perm kept allowed']

/-- In every state that a published event leads to, the calls received and the calls
still promised are those that the subscribers lead to. -/
theorem reaches_promised {name : Name} {state : CallbackState Name}
    (reached : net.Reaches answer name state) :
    net.FitsAll answer state.pending ∧
      (state.called ++ net.promisedAll answer state.pending).Perm
        (net.promisedAll answer (net.publishEvent name [])) := by
  induction reached with
  | publish => exact ⟨net.fitsAll_passOn answer _ _ _, List.Perm.refl _⟩
  | step _ next ih =>
      obtain ⟨fits, kept⟩ := ih
      cases next with
      | handles called inner =>
          obtain ⟨fits', moved⟩ := handles_promised inner fits
          exact ⟨fits', (moved.append_left called).trans kept⟩
      | arrives before after status called =>
          obtain ⟨fitsBefore, -, fitsAfter⟩ := (net.fitsAll_append answer _ _).mp fits
          refine ⟨(net.fitsAll_append answer _ _).mpr ⟨fitsBefore, fitsAfter⟩, ?_⟩
          refine List.Perm.trans ?_ kept
          rw [promisedAll_append, promisedAll_append, promisedAll_cons, promised,
            List.append_assoc, List.singleton_append, List.singleton_append]
          exact List.Perm.append_left called List.perm_middle.symm

/-! ## What is promised is delivered -/

/-- Somebody holds the call that is promised. -/
theorem exists_promised {pending : List (Pending Name)}
    (promises : net.promisedAll answer pending ≠ []) :
    ∃ before held after, pending = before ++ held :: after ∧
      net.promised answer held ≠ [] := by
  induction pending with
  | nil => exact absurd rfl promises
  | cons first rest ih =>
      by_cases silent : net.promised answer first = []
      · rw [promisedAll_cons, silent] at promises
        obtain ⟨before, held, after, rfl, speaks⟩ := ih promises
        exact ⟨first :: before, held, after, rfl, speaks⟩
      · exact ⟨[], first, rest, rfl, silent⟩

/-- As long as a call is promised, a step is possible. -/
theorem exists_step_of_promised (pending : List (Pending Name))
    (promises : net.promisedAll answer pending ≠ []) :
    (∃ pending', net.Handles answer pending pending') ∨
      ∃ before status after, pending = before ++ .call status :: after := by
  obtain ⟨before, held, after, split, speaks⟩ := exists_promised promises
  match held, split, speaks with
  | .event receiver sender place, split, _ =>
      rw [split]
      exact .inl ⟨_, .event before after receiver sender place⟩
  | .call status, split, _ => exact .inr ⟨before, status, after, split⟩
  | .multi cb waiting, split, speaks =>
      have inside : net.promisedAll answer waiting ≠ [] := by
        intro none
        rw [promised, none] at speaks
        exact speaks rfl
      have smaller : sizeOf waiting < sizeOf pending := by
        have part := List.sizeOf_lt_of_mem
          (show Pending.multi cb waiting ∈ before ++ .multi cb waiting :: after by simp)
        rw [Pending.multi.sizeOf_spec, ← split] at part
        omega
      rcases exists_step_of_promised waiting inside with ⟨waiting', inner⟩ | called
      · rw [split]
        exact .inl ⟨_, .within before after cb inner⟩
      · obtain ⟨left, status, right, rfl⟩ := called
        rw [split]
        exact .inl ⟨_, .call before after cb left right status⟩
termination_by sizeOf pending

/-- When no step is possible any more, nothing is promised any more. -/
theorem finished_promised {state : CallbackState Name} (finished : net.Finished answer state) :
    net.promisedAll answer state.pending = [] := by
  by_contra promises
  rcases exists_step_of_promised state.pending promises with ⟨pending', inner⟩ | arrived
  · exact finished _ (.handles state.called inner)
  · obtain ⟨before, status, after, split⟩ := arrived
    obtain ⟨pending, called⟩ := state
    dsimp only at split
    subst split
    exact finished _ (.arrives before after status called)

/-- **At the end the publisher's callback has received the calls that the subscribers
lead to.** -/
theorem finished_called {name : Name} {state : CallbackState Name}
    (reached : net.Reaches answer name state) (finished : net.Finished answer state) :
    state.called = net.promisedAll answer (net.publishEvent name []) := by
  obtain ⟨-, kept⟩ := reaches_promised reached
  rw [finished_promised finished, List.append_nil] at kept
  have few := net.publishEvent_length_le answer name []
  match promises : net.promisedAll answer (net.publishEvent name []) with
  | [] => exact (promises ▸ kept).eq_nil
  | [status] => exact (promises ▸ kept).eq_singleton
  | _ :: _ :: _ =>
      rw [promises, List.length_cons, List.length_cons] at few
      omega

/-! ## Every run ends -/

variable (net) in
/-- The steps that an event at a receiver can lead to, counted with their depth. -/
def eventWeight (receiver sender : Name) : Nat :=
  match reacts : net.reaction receiver sender with
  | .answer => 2
  | .refuse => 2
  | .pass targets =>
    1 + 2 * (List.ofFn fun i : Fin targets.length => eventWeight (targets.get i) receiver).sum
termination_by net.acyclic.wrap receiver
decreasing_by exact ⟨sender, targets, reacts, List.get_mem _ _⟩

variable (net) in
mutual
def weight : Pending Name → Nat
  | .event receiver sender _ => net.eventWeight receiver sender
  | .call _ => 1
  | .multi _ waiting => 2 * weightAll waiting

def weightAll : List (Pending Name) → Nat
  | [] => 0
  | first :: rest => weight first + weightAll rest
end

theorem weightAll_append (first second : List (Pending Name)) :
    net.weightAll (first ++ second) = net.weightAll first + net.weightAll second := by
  induction first with
  | nil => exact (Nat.zero_add _).symm
  | cons pending rest ih =>
      rw [List.cons_append, weightAll, weightAll, ih, Nat.add_assoc]

theorem weightAll_cons (first : Pending Name) (rest : List (Pending Name)) :
    net.weightAll (first :: rest) = net.weight first + net.weightAll rest := rfl

theorem weightAll_map_call (statuses : List CommandStatus) :
    net.weightAll (statuses.map .call) = statuses.length := by
  induction statuses with
  | nil => rfl
  | cons status rest ih =>
      rw [List.map_cons, weightAll_cons, weight, ih, List.length_cons, Nat.add_comm]

theorem weightAll_ofFn {n : Nat} (events : Fin n → Pending Name) :
    net.weightAll (List.ofFn events) = (List.ofFn fun i => net.weight (events i)).sum := by
  induction n with
  | zero => rfl
  | succ n ih => rw [List.ofFn_succ, List.ofFn_succ, weightAll_cons, List.sum_cons, ih]

variable (net answer) in
/-- Handling an event is progress. -/
theorem weightAll_event (receiver sender : Name) (place : List Nat) :
    net.weightAll (net.event answer receiver sender place) < net.eventWeight receiver sender := by
  rw [event_eq, eventWeight]
  split
  · rename_i reacts
    rw [reacts]
    exact Nat.le_refl 2
  · rename_i reacts
    rw [reacts]
    exact Nat.le_refl 2
  · rename_i targets reacts
    rw [reacts]
    have each : net.weightAll (deliveries targets receiver place) =
        (List.ofFn fun i : Fin targets.length => net.eventWeight (targets.get i) receiver).sum :=
      weightAll_ofFn _
    dsimp only [passOn, syncMultiCallback]
    split_ifs
    · omega
    · rw [weightAll_cons, weight, weightAll, each]
      omega

theorem handles_weight {pending pending' : List (Pending Name)}
    (step : net.Handles answer pending pending') :
    net.weightAll pending' < net.weightAll pending := by
  induction step with
  | event before after receiver sender place =>
      have progress := net.weightAll_event answer receiver sender place
      rw [weightAll_append, weightAll_append, weightAll_append, weightAll_cons, weight]
      omega
  | call before after cb left right status =>
      have few : (cb.call status).2.length ≤ 1 := call_length_le status
      simp only [weightAll_append, weightAll_cons, weight, weightAll_map_call]
      omega
  | within before after cb inner ih =>
      simp only [weightAll_append, weightAll_cons, weight]
      omega

theorem step_weight {state state' : CallbackState Name} (step : net.Step answer state state') :
    net.weightAll state'.pending < net.weightAll state.pending := by
  cases step with
  | handles called inner => exact handles_weight inner
  | arrives before after status called =>
      simp only [weightAll_append, weightAll_cons, weight]
      omega

variable (net answer) in
/-- **Every run comes to an end**: no step goes on for ever. -/
theorem step_wellFounded :
    WellFounded fun state' state : CallbackState Name => net.Step answer state state' :=
  Subrelation.wf (fun step => step_weight step)
    (InvImage.wf (fun state : CallbackState Name => net.weightAll state.pending) Nat.lt_wfRel.wf)

theorem exists_finished {name : Name} {state : CallbackState Name}
    (reached : net.Reaches answer name state) :
    ∃ final, net.Reaches answer name final ∧ net.Finished answer final := by
  induction state using (net.step_wellFounded answer).induction with
  | _ state ih =>
      by_cases finished : net.Finished answer state
      · exact ⟨state, reached, finished⟩
      · unfold Handlers.Finished at finished
        push Not at finished
        obtain ⟨state', next⟩ := finished
        exact ih state' next (.step reached next)

end Network

end OpenDataCon.Connectors

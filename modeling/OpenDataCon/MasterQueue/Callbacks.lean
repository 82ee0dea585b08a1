import OpenDataCon.MasterQueue.CommandQueue

/-!
# Every callback is posted once

A port owes a callback while its command waits in the queue or is in flight
(`owed`). A function of the port balances when what it owed before is what it
posted and what it still owes (`Balances`). Sending, queueing and finishing a
command balance, whatever the state (`unprotectedSend_balances`,
`queueCommand_balances`).

Three steps balance only under a condition (`CallbackSafe`): an accepted answer
needs its command in flight, a timeout handler needs a command in flight
exactly when the port can send, and a clear needs nothing owed. In a run whose
steps meet it, no callback is posted twice and none is forgotten
(`run_callbacksKept`).
-/

set_option autoImplicit false

namespace OpenDataCon.MasterQueue

open Runs

universe u v

variable {M : Type u} {R : Type v}

/-! ## What is owed -/

/-- The callbacks of the commands in the queue. -/
def waiting (data : MasterCommandData M) : List Nat :=
  data.masterCommandQueue.filterMap MasterCommandQueueItem.callback

/-- The callback of the command in flight. -/
def inFlight (data : MasterCommandData M) : List Nat :=
  if data.processingCommand then data.currentCommand.callback.toList else []

def owed (data : MasterCommandData M) : List Nat := waiting data ++ inFlight data

/-- The callback an effect posts. -/
def Effect.posted? : Effect M → Option Nat
  | .post callback _ => some callback
  | _ => none

def postedIn (effects : List (Effect M)) : List Nat := effects.filterMap Effect.posted?

/-- What was owed has been posted or is still owed, each callback as often. -/
def Balances (before : List Nat) (result : MasterCommandData M × List (Effect M)) : Prop :=
  ∀ id, (postedIn result.2).count id + (owed result.1).count id = before.count id

@[simp] theorem postedIn_append (first second : List (Effect M)) :
    postedIn (first ++ second) = postedIn first ++ postedIn second :=
  List.filterMap_append ..

@[simp] theorem postedIn_postCallbackCall (callback : Option Nat) (status : CommandStatus) :
    postedIn (MasterPort.postCallbackCall callback status : List (Effect M)) =
      callback.toList := by
  cases callback <;> rfl

@[simp] theorem waiting_snoc (data : MasterCommandData M) (item : MasterCommandQueueItem M) :
    waiting { data with masterCommandQueue := data.masterCommandQueue ++ [item] } =
      waiting data ++ item.callback.toList := by
  cases found : item.callback <;> simp [waiting, found]

theorem inFlight_of_idle {data : MasterCommandData M} (idle : data.processingCommand = false) :
    inFlight data = [] := by
  simp [inFlight, idle]

theorem inFlight_of_processing {data : MasterCommandData M}
    (processing : data.processingCommand = true) :
    inFlight data = data.currentCommand.callback.toList := by
  simp [inFlight, processing]

/-- A balanced result, seen from an equal account. -/
theorem Balances.congr {before other : List Nat} {result : MasterCommandData M × List (Effect M)}
    (balances : Balances before result) (same : ∀ id, before.count id = other.count id) :
    Balances other result :=
  fun id => (balances id).trans (same id)

/-! ## The functions balance -/

section Functions

variable (port : MasterPort M R)

theorem takeNextCommand_owed (data : MasterCommandData M) (id : Nat) :
    (owed (port.takeNextCommand data)).count id = (owed data).count id := by
  unfold MasterPort.takeNextCommand
  cases held : data.masterCommandQueue with
  | nil => rfl
  | cons front rest =>
      cases processing : data.processingCommand with
      | true => simp
      | false =>
          simp only [Bool.false_eq_true, if_false, owed, waiting, inFlight, held, processing,
            if_true]
          cases found : front.callback with
          | none => simp [found]
          | some callback => simp [found, List.count_cons, Nat.add_comm]

theorem transmit_owed (data : MasterCommandData M) : owed (port.transmit data).1 = owed data := by
  unfold MasterPort.transmit
  split <;> rfl

theorem transmit_posted (data : MasterCommandData M) : postedIn (port.transmit data).2 = [] := by
  unfold MasterPort.transmit
  split <;> rfl

/-- Using up a retry, or failing, accounts for the current command. -/
theorem retryCommand_balances {data : MasterCommandData M}
    (idle : data.processingCommand = false) :
    Balances (waiting data ++ data.currentCommand.callback.toList)
      (MasterPort.retryCommand data) := by
  intro id
  unfold MasterPort.retryCommand
  dsimp only
  split
  · simp [postedIn, owed, waiting, inFlight]
  · have lost : postedIn [(.commsLost : Effect M)] = [] := rfl
    rw [postedIn_append, postedIn_postCallbackCall, lost]
    simp [owed, waiting, inFlight, idle, Nat.add_comm]

/-- Sending the next command accounts for everything that was owed. -/
theorem unprotectedSend_balances (enabled : Bool) (data : MasterCommandData M) :
    Balances (owed data) (port.unprotectedSendNextMasterCommand enabled data false) := by
  intro id
  unfold MasterPort.unprotectedSendNextMasterCommand
  split
  · simp [postedIn]
  · split
    · simp [postedIn]
    · simp only [Bool.false_eq_true, if_false, List.nil_append, transmit_posted, transmit_owed,
        takeNextCommand_owed, List.count_nil, Nat.zero_add]

/-- After a timeout, sending accounts for the current command as well. -/
theorem unprotectedSend_timeout_balances {enabled : Bool} {data : MasterCommandData M}
    (sends : port.canSend enabled = true) (idle : data.processingCommand = false) :
    Balances (waiting data ++ data.currentCommand.callback.toList)
      (port.unprotectedSendNextMasterCommand enabled data true) := by
  intro id
  rw [← retryCommand_balances idle id]
  simp only [MasterPort.unprotectedSendNextMasterCommand, sends, idle, Bool.not_true,
    Bool.false_eq_true, if_false, if_true, postedIn_append, transmit_posted, List.append_nil,
    transmit_owed, takeNextCommand_owed]

theorem queueCommand_balances (enabled : Bool) (data : MasterCommandData M)
    (item : MasterCommandQueueItem M) :
    Balances (owed data ++ item.callback.toList) (port.queueCommand enabled data item) := by
  intro id
  unfold MasterPort.queueCommand
  split
  · rw [unprotectedSend_balances port enabled _ id]
    simp only [owed, waiting_snoc, List.count_append]
    have same : inFlight { data with
        masterCommandQueue := data.masterCommandQueue ++ [item] } = inFlight data := rfl
    rw [same]
    omega
  · have sent := unprotectedSend_balances port enabled data id
    simp only [postedIn_append, postedIn_postCallbackCall, List.count_append]
    omega

/-- The handler of a timeout balances when a command is in flight exactly if
the port can send. -/
theorem timeoutHandler_balances {enabled : Bool} {data : MasterCommandData M} (endtime : Nat)
    (safe : data.currentCommand.callback = none ∨
      data.processingCommand = port.canSend enabled) :
    Balances (owed data) (port.timeoutHandler enabled data endtime) := by
  unfold MasterPort.timeoutHandler
  split
  · cases sends : port.canSend enabled with
    | true =>
        refine (unprotectedSend_timeout_balances port sends rfl).congr fun id => ?_
        rcases safe with none | inFlightNow
        · simp [owed, waiting, inFlight, none]
        · rw [sends] at inFlightNow
          simp [owed, waiting, inFlight, inFlightNow]
    | false =>
        intro id
        simp only [MasterPort.unprotectedSendNextMasterCommand, sends, Bool.not_false, if_true]
        rcases safe with none | idle
        · simp [postedIn, owed, waiting, inFlight, none]
        · rw [sends] at idle
          simp [postedIn, owed, waiting, inFlight, idle]
  · intro id
    simp [postedIn]

/-- The current command can be finished: it is in flight, or has no callback. -/
def Finishable (data : MasterCommandData M) : Prop :=
  data.processingCommand = true ∨ data.currentCommand.callback = none

instance (data : MasterCommandData M) : Decidable (Finishable data) :=
  inferInstanceAs (Decidable (_ ∨ _))

theorem finishCommand_balances (enabled : Bool) {data : MasterCommandData M}
    (finishable : Finishable data) :
    Balances (owed data) (port.finishCommand enabled data) := by
  intro id
  have sent := unprotectedSend_balances port enabled { data with processingCommand := false } id
  have rest : owed { data with processingCommand := false } = waiting data := by
    simp [owed, waiting, inFlight]
  have current : inFlight data = data.currentCommand.callback.toList := by
    rcases finishable with processing | none
    · exact inFlight_of_processing processing
    · simp [inFlight, none]
  have cancelled (effects : List (Effect M)) :
      postedIn (.cancelTimer :: effects) = postedIn effects := rfl
  rw [rest] at sent
  simp only [MasterPort.finishCommand, List.cons_append, cancelled, postedIn_append,
    postedIn_postCallbackCall, owed, List.count_append, current] at sent ⊢
  omega

/-- Sending leaves a command that can be finished. -/
theorem unprotectedSend_finishable {enabled : Bool} {data : MasterCommandData M}
    (finishable : Finishable data) :
    Finishable (port.unprotectedSendNextMasterCommand enabled data false).1 := by
  unfold MasterPort.unprotectedSendNextMasterCommand
  split
  · exact finishable
  · split
    · exact finishable
    · rename_i idle
      have none : data.currentCommand.callback = none := finishable.resolve_left idle
      simp only [Bool.false_eq_true, if_false]
      unfold MasterPort.transmit MasterPort.takeNextCommand
      cases held : data.masterCommandQueue with
      | nil => simp [Finishable, idle, none]
      | cons front rest => simp [Finishable, idle]

theorem queueCommand_finishable (enabled : Bool) {data : MasterCommandData M}
    (finishable : Finishable data) (item : MasterCommandQueueItem M) :
    Finishable (port.queueCommand enabled data item).1 := by
  unfold MasterPort.queueCommand
  split
  · exact unprotectedSend_finishable port finishable
  · exact unprotectedSend_finishable port finishable

/-- Commands that an answer queues have no callback: they owe nothing. -/
theorem run_queueCommand_balances (enabled : Bool) {data : MasterCommandData M}
    (finishable : Finishable data) (commands : List M) :
    let queued := run (fun data message => port.queueCommand enabled data { message := message })
      data commands
    Balances (owed data) queued ∧ Finishable queued.1 := by
  induction commands generalizing data with
  | nil => exact ⟨fun id => by simp [postedIn], finishable⟩
  | cons message rest ih =>
      have first := queueCommand_balances port enabled data { message := message }
      obtain ⟨later, ready⟩ :=
        ih (queueCommand_finishable port enabled finishable { message := message })
      refine ⟨fun id => ?_, ready⟩
      have one := first id
      have others := later id
      simp only [run_cons, postedIn_append, List.count_append, Option.toList_none,
        List.append_nil] at one others ⊢
      omega

/-- An answer balances when it is not accepted, or its command can be finished. -/
theorem processMessage_balances {enabled : Bool} {data : MasterCommandData M} {response : R}
    (safe : port.accepts data response = none ∨ Finishable data) :
    Balances (owed data) (port.processMessage enabled data response) := by
  unfold MasterPort.processMessage
  cases answer : port.accepts data response with
  | none => intro id; simp [postedIn]
  | some commands =>
      have finishable : Finishable data :=
        safe.resolve_left (by rw [answer]; exact Option.some_ne_none commands)
      obtain ⟨queued, ready⟩ := run_queueCommand_balances port enabled finishable commands
      intro id
      have first := queued id
      have last := finishCommand_balances port enabled ready id
      simp only [postedIn_append, List.count_append]
      omega

end Functions

/-! ## Runs -/

/-- No callback was posted twice; every callback not posted belongs to a
command that waits or is in flight. -/
structure CallbacksKept (system : MasterSystem M) : Prop where
  once : ∀ id, (system.posted.map Prod.fst).count id ≤ 1
  kept : ∀ id, id < system.commands → id ∉ system.posted.map Prod.fst →
    id ∈ waiting system.data ∨
      (system.data.processingCommand = true ∧ system.data.currentCommand.callback = some id)

/-- The callbacks numbered so far are each posted or owed, once. -/
def Accounted (system : MasterSystem M) : Prop :=
  ∀ id, (system.posted.map Prod.fst).count id + (owed system.data).count id =
    if id < system.commands then 1 else 0

theorem Accounted.callbacksKept {system : MasterSystem M} (accounted : Accounted system) :
    CallbacksKept system where
  once := by
    intro id
    have total := accounted id
    split at total <;> omega
  kept := by
    intro id queued missing
    have total := accounted id
    rw [if_pos queued, List.count_eq_zero_of_not_mem missing] at total
    have isOwed : id ∈ owed system.data := List.count_pos_iff.mp (by omega)
    rcases List.mem_append.mp isOwed with inQueue | current
    · exact Or.inl inQueue
    · right
      cases processing : system.data.processingCommand with
      | false => rw [inFlight_of_idle processing] at current; cases current
      | true =>
          rw [inFlight_of_processing processing, Option.mem_toList] at current
          exact ⟨rfl, current⟩

/-- The steps at which the callbacks are safe. -/
def CallbackSafe (port : MasterPort M R) (system : MasterSystem M) : Action M R → Prop
  | .response message =>
    port.accepts system.data message = none ∨ Finishable system.data
  | .runHandler position =>
    ∀ wait ∈ system.handlers[position]?, wait.endtime = system.data.timerExpireTime →
      system.data.currentCommand.callback = none ∨
        system.data.processingCommand = port.canSend system.enabled
  | .clear => owed system.data = []
  | .queue _ _ => True
  | .expire => True
  | .setEnabled _ => True

@[simp] theorem foldl_record_posted (system : MasterSystem M) (effects : List (Effect M)) :
    ((effects.foldl MasterSystem.record system).posted.map Prod.fst) =
      system.posted.map Prod.fst ++ postedIn effects := by
  induction effects generalizing system with
  | nil => simp [postedIn]
  | cons effect rest ih =>
      rw [List.foldl_cons, ih]
      cases effect with
      | post callback status =>
          simp [MasterSystem.record, postedIn, Effect.posted?]
      | send message => rfl
      | armTimer endtime => rfl
      | cancelTimer => rfl
      | commsLost => rfl

@[simp] theorem foldl_record_commands (system : MasterSystem M) (effects : List (Effect M)) :
    (effects.foldl MasterSystem.record system).commands = system.commands := by
  induction effects generalizing system with
  | nil => rfl
  | cons effect rest ih =>
      rw [List.foldl_cons, ih]
      cases effect <;> rfl

/-- A balanced result keeps the account. -/
theorem Accounted.update {system other : MasterSystem M} (accounted : Accounted system)
    (posted : other.posted = system.posted) (commands : other.commands = system.commands)
    {result : MasterCommandData M × List (Effect M)}
    (balances : Balances (owed system.data) result) : Accounted (other.update result) := by
  intro id
  have before := accounted id
  have changed := balances id
  simp only [MasterSystem.update, foldl_record_posted, foldl_record_commands, List.count_append,
    posted, commands]
  omega

variable {port : MasterPort M R}

/-- **A safe step keeps the account of the callbacks.** -/
theorem step_accounted {system : MasterSystem M} {action : Action M R}
    (accounted : Accounted system) (safe : CallbackSafe port system action) :
    Accounted (system.step port action).1 := by
  cases action with
  | queue message withCallback =>
      intro id
      have before := accounted id
      simp only [MasterSystem.step, MasterSystem.update, foldl_record_posted,
        foldl_record_commands, List.count_append]
      have changed := queueCommand_balances port system.enabled system.data
        { message := message, callback := if withCallback then some system.commands else none } id
      cases withCallback with
      | false =>
          simp only [Bool.false_eq_true, if_false, Option.toList_none, List.append_nil]
            at changed ⊢
          omega
      | true =>
          simp only [if_true, Option.toList_some, List.count_append, List.count_singleton]
            at changed ⊢
          by_cases fresh : system.commands = id
          · subst fresh
            simp only [Nat.lt_irrefl, if_false, beq_self_eq_true, if_true, Nat.lt_succ_self]
              at before changed ⊢
            omega
          · have other : (system.commands == id) = false := by simpa using fresh
            have same : (id < system.commands + 1) ↔ id < system.commands := by omega
            simp only [other, same, Bool.false_eq_true, if_false] at before changed ⊢
            omega
  | response message =>
      change Accounted (MasterSystem.update _ _)
      refine accounted.update ?_ ?_ (processMessage_balances port safe)
      · rfl
      · rfl
  | expire =>
      simp only [MasterSystem.step]
      cases system.pending with
      | none => exact accounted
      | some wait => exact accounted
  | runHandler position =>
      simp only [MasterSystem.step]
      cases found : system.handlers[position]? with
      | none => exact accounted
      | some wait =>
          change Accounted (MasterSystem.update _ _)
          refine accounted.update ?_ ?_ ?_
          · rfl
          · rfl
          · by_cases armed : wait.endtime = system.data.timerExpireTime
            · exact timeoutHandler_balances port _ (safe wait found armed)
            · intro id
              simp [MasterPort.timeoutHandler, armed, postedIn]
  | clear =>
      intro id
      have before := accounted id
      have nothing : owed system.data = [] := safe
      have cleared : owed (MasterPort.clearCommandQueue system.data) = [] := by
        simp [owed, waiting, inFlight, MasterPort.clearCommandQueue]
      rw [nothing, ← cleared] at before
      exact before
  | setEnabled enabled => exact accounted

theorem start_accounted (enabled : Bool) (message : M) :
    Accounted (MasterSystem.start enabled message) := by
  intro id
  simp [MasterSystem.start, owed, waiting, inFlight]

/-- **In every run of safe steps the callbacks are kept.** -/
theorem run_callbacksKept (enabled : Bool) (message : M) {actions : List (Action M R)}
    (guarded : Guarded (MasterSystem.step port) (CallbackSafe port)
      (MasterSystem.start enabled message) actions) :
    CallbacksKept (run (MasterSystem.step port) (MasterSystem.start enabled message) actions).1 :=
  (guarded_invariant Accounted (fun _ _ accounted safe => step_accounted accounted safe)
    (start_accounted enabled message) guarded).callbacksKept

end OpenDataCon.MasterQueue

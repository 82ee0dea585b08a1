import OpenDataCon.MasterQueue.CommandQueue

/-!
# Timeout handlers

A timeout handler acts when the expiry time it kept is the one in the data.
Every transmission stores the same constant there, so in every run the test of
every queued handler succeeds (`run_endtimes`): it does not tell transmissions
apart.

What a handler then does is known exactly. A port that can send always changes
its data: a retry is used up or the queue shrinks. A port that cannot send
changes its data unless no command is in flight (`timeoutHandler_eq_self_iff`).
-/

set_option autoImplicit false

namespace OpenDataCon.MasterQueue

open Runs

universe u v

variable {M : Type u} {R : Type v}

/-! ## The expiry time is a constant -/

/-- Each wait a function starts has the constant expiry time, and stores it. -/
structure StoresTimeout (port : MasterPort M R) (before : MasterCommandData M)
    (result : MasterCommandData M × List (Effect M)) : Prop where
  stored : result.1.timerExpireTime = before.timerExpireTime ∨
    result.1.timerExpireTime = port.commandTimeoutmsec
  armed : ∀ endtime, Effect.armTimer endtime ∈ result.2 →
    endtime = port.commandTimeoutmsec ∧ result.1.timerExpireTime = port.commandTimeoutmsec

section Functions

variable (port : MasterPort M R)

theorem StoresTimeout.refl (data : MasterCommandData M) :
    StoresTimeout port data (data, []) where
  stored := Or.inl rfl
  armed := fun _ member => by cases member

/-- Only the stored time of the data before matters. -/
theorem StoresTimeout.congr {before other : MasterCommandData M}
    {result : MasterCommandData M × List (Effect M)} (stores : StoresTimeout port before result)
    (same : before.timerExpireTime = other.timerExpireTime) : StoresTimeout port other result where
  stored := same ▸ stores.stored
  armed := stores.armed

/-- One function after another. -/
theorem StoresTimeout.trans {before : MasterCommandData M}
    {first last : MasterCommandData M × List (Effect M)}
    (earlier : StoresTimeout port before first) (later : StoresTimeout port first.1 last) :
    StoresTimeout port before (last.1, first.2 ++ last.2) where
  stored := by
    rcases later.stored with same | constant
    · exact same ▸ earlier.stored
    · exact Or.inr constant
  armed := by
    intro endtime member
    rcases List.mem_append.mp member with old | new
    · have constant := earlier.armed endtime old
      refine ⟨constant.1, ?_⟩
      rcases later.stored with same | stored
      · exact same.trans constant.2
      · exact stored
    · exact later.armed endtime new

/-- Posting callbacks starts no wait. -/
theorem StoresTimeout.post {before : MasterCommandData M}
    {result : MasterCommandData M × List (Effect M)} (stores : StoresTimeout port before result)
    (callback : Option Nat) (status : CommandStatus) :
    StoresTimeout port before
      (result.1, MasterPort.postCallbackCall callback status ++ result.2) where
  stored := stores.stored
  armed := by
    intro endtime member
    rcases List.mem_append.mp member with posted | other
    · cases callback with
      | none => cases posted
      | some id => simp [MasterPort.postCallbackCall] at posted
    · exact stores.armed endtime other

theorem retryCommand_storesTimeout (data : MasterCommandData M) :
    StoresTimeout port data (MasterPort.retryCommand data) := by
  unfold MasterPort.retryCommand
  dsimp only
  split
  · exact ⟨Or.inl rfl, fun _ member => by cases member⟩
  · refine ⟨Or.inl rfl, fun endtime member => ?_⟩
    cases found : data.currentCommand.callback <;>
      simp [MasterPort.postCallbackCall, found] at member

theorem takeNextCommand_timerExpireTime (data : MasterCommandData M) :
    (port.takeNextCommand data).timerExpireTime = data.timerExpireTime := by
  unfold MasterPort.takeNextCommand
  split
  · rfl
  · split <;> rfl

theorem transmit_storesTimeout (data : MasterCommandData M) :
    StoresTimeout port data (port.transmit data) := by
  unfold MasterPort.transmit
  split
  · exact ⟨Or.inr rfl, fun endtime member => ⟨by simpa using member, rfl⟩⟩
  · exact StoresTimeout.refl port data

theorem unprotectedSend_storesTimeout (enabled : Bool) (data : MasterCommandData M)
    (timeoutoccured : Bool) :
    StoresTimeout port data
      (port.unprotectedSendNextMasterCommand enabled data timeoutoccured) := by
  unfold MasterPort.unprotectedSendNextMasterCommand
  split
  · exact StoresTimeout.refl port data
  · split
    · exact StoresTimeout.refl port data
    · have first : StoresTimeout port data
          (if timeoutoccured then MasterPort.retryCommand data else (data, [])) := by
        split
        · exact retryCommand_storesTimeout port data
        · exact StoresTimeout.refl port data
      refine first.trans port ?_
      exact (transmit_storesTimeout port _).congr port (takeNextCommand_timerExpireTime port _)

theorem queueCommand_storesTimeout (enabled : Bool) (data : MasterCommandData M)
    (item : MasterCommandQueueItem M) :
    StoresTimeout port data (port.queueCommand enabled data item) := by
  unfold MasterPort.queueCommand
  split
  · exact (unprotectedSend_storesTimeout port enabled _ false).congr port rfl
  · exact (unprotectedSend_storesTimeout port enabled data false).post port _ _

theorem run_queueCommand_storesTimeout (enabled : Bool) (data : MasterCommandData M)
    (commands : List M) :
    StoresTimeout port data
      (run (fun data message => port.queueCommand enabled data { message := message })
        data commands) := by
  induction commands generalizing data with
  | nil => exact StoresTimeout.refl port data
  | cons message rest ih =>
      rw [run_cons]
      exact (queueCommand_storesTimeout port enabled data { message := message }).trans port (ih _)

theorem finishCommand_storesTimeout (enabled : Bool) (data : MasterCommandData M) :
    StoresTimeout port data (port.finishCommand enabled data) := by
  have sent := (unprotectedSend_storesTimeout port enabled
    { data with processingCommand := false } false).post port
    data.currentCommand.callback .SUCCESS
  refine ⟨sent.stored, fun endtime member => ?_⟩
  simp only [MasterPort.finishCommand, List.cons_append, List.mem_cons, reduceCtorEq,
    false_or] at member
  exact sent.armed endtime member

theorem processMessage_storesTimeout (enabled : Bool) (data : MasterCommandData M)
    (response : R) : StoresTimeout port data (port.processMessage enabled data response) := by
  unfold MasterPort.processMessage
  split
  · exact StoresTimeout.refl port data
  · rename_i commands _
    exact (run_queueCommand_storesTimeout port enabled data commands).trans port
      (finishCommand_storesTimeout port enabled _)

theorem timeoutHandler_storesTimeout (enabled : Bool) (data : MasterCommandData M)
    (endtime : Nat) : StoresTimeout port data (port.timeoutHandler enabled data endtime) := by
  unfold MasterPort.timeoutHandler
  split
  · exact (unprotectedSend_storesTimeout port enabled _ true).congr port rfl
  · exact StoresTimeout.refl port data

end Functions

/-- Every wait has the constant expiry time, and the data stores it. -/
def Endtimes (port : MasterPort M R) (system : MasterSystem M) : Prop :=
  ∀ wait ∈ system.pending.toList ++ system.handlers,
    wait.endtime = port.commandTimeoutmsec ∧
      system.data.timerExpireTime = port.commandTimeoutmsec

theorem foldl_record_handlers (system : MasterSystem M) (effects : List (Effect M)) :
    (effects.foldl MasterSystem.record system).handlers = system.handlers := by
  induction effects generalizing system with
  | nil => rfl
  | cons effect rest ih =>
      rw [List.foldl_cons, ih]
      cases effect <;> rfl

/-- The pending wait after some effects is the one before, or was started by one of them. -/
theorem foldl_record_pending (system : MasterSystem M) (effects : List (Effect M)) :
    ∀ wait ∈ (effects.foldl MasterSystem.record system).pending,
      wait ∈ system.pending ∨ Effect.armTimer wait.endtime ∈ effects := by
  induction effects generalizing system with
  | nil => exact fun wait member => Or.inl member
  | cons effect rest ih =>
      intro wait member
      rcases ih (system.record effect) wait member with before | later
      · cases effect with
        | armTimer endtime =>
            obtain rfl : Wait.mk (system.transmissions - 1) endtime = wait := by
              simpa [MasterSystem.record] using before
            exact Or.inr (by simp)
        | cancelTimer => simp [MasterSystem.record] at before
        | send message => exact Or.inl before
        | post callback status => exact Or.inl before
        | commsLost => exact Or.inl before
      · exact Or.inr (List.mem_cons_of_mem _ later)

variable {port : MasterPort M R}

/-- A function of the port keeps the expiry times, when no handler is added. -/
theorem Endtimes.update {system other : MasterSystem M} (endtimes : Endtimes port system)
    (pending : other.pending = system.pending)
    (handlers : ∀ wait ∈ other.handlers, wait ∈ system.handlers)
    {result : MasterCommandData M × List (Effect M)}
    (stores : StoresTimeout port system.data result) : Endtimes port (other.update result) := by
  intro wait member
  simp only [MasterSystem.update, foldl_record_handlers] at member ⊢
  have fromBefore (isWait : wait ∈ system.pending.toList ++ system.handlers) :
      wait.endtime = port.commandTimeoutmsec ∧
        result.1.timerExpireTime = port.commandTimeoutmsec := by
    obtain ⟨constant, stored⟩ := endtimes wait isWait
    refine ⟨constant, ?_⟩
    rcases stores.stored with same | new
    · exact same.trans stored
    · exact new
  rcases List.mem_append.mp member with isPending | isHandler
  · rcases foldl_record_pending other result.2 wait (Option.mem_toList.mp isPending) with
      old | new
    · rw [pending] at old
      exact fromBefore (List.mem_append_left _ (Option.mem_toList.mpr old))
    · exact stores.armed _ new
  · exact fromBefore (List.mem_append_right _ (handlers wait isHandler))

/-- **Every step keeps the expiry times.** -/
theorem step_endtimes {system : MasterSystem M} (endtimes : Endtimes port system)
    (action : Action M R) : Endtimes port (system.step port action).1 := by
  cases action with
  | queue message withCallback =>
      change Endtimes port (MasterSystem.update _ _)
      refine endtimes.update ?_ ?_ (queueCommand_storesTimeout port _ _ _)
      · rfl
      · exact fun wait member => member
  | response message =>
      change Endtimes port (MasterSystem.update _ _)
      refine endtimes.update ?_ ?_ (processMessage_storesTimeout port _ _ _)
      · rfl
      · exact fun wait member => member
  | expire =>
      simp only [MasterSystem.step]
      cases waits : system.pending with
      | none => exact endtimes
      | some wait =>
          intro other member
          refine endtimes other ?_
          rw [waits]
          rcases List.mem_append.mp member with none | later
          · cases none
          · rcases List.mem_append.mp later with old | new
            · exact List.mem_append_right _ old
            · exact List.mem_append_left _ (by simpa using new)
  | runHandler position =>
      simp only [MasterSystem.step]
      cases found : system.handlers[position]? with
      | none => exact endtimes
      | some wait =>
          change Endtimes port (MasterSystem.update _ _)
          refine endtimes.update ?_ ?_ (timeoutHandler_storesTimeout port _ _ _)
          · rfl
          · exact fun other member => List.mem_of_mem_eraseIdx member
  | clear => exact endtimes
  | setEnabled enabled => exact endtimes

/-- In every run the test of every queued handler succeeds. -/
theorem run_endtimes (enabled : Bool) (message : M) (actions : List (Action M R)) :
    Endtimes port (run (MasterSystem.step port) (MasterSystem.start enabled message) actions).1 :=
  run_invariant (Endtimes port)
    (fun _ action endtimes => step_endtimes endtimes action)
    (fun wait member => by cases member) actions

/-! ## What a handler does -/

theorem decremented_ne (n : Nat) : MasterPort.decremented n ≠ n := by
  unfold MasterPort.decremented
  split <;> omega

theorem transmit_retriesLeft (port : MasterPort M R) (data : MasterCommandData M) :
    (port.transmit data).1.retriesLeft = data.retriesLeft := by
  unfold MasterPort.transmit
  split <;> rfl

theorem transmit_masterCommandQueue (port : MasterPort M R) (data : MasterCommandData M) :
    (port.transmit data).1.masterCommandQueue = data.masterCommandQueue := by
  unfold MasterPort.transmit
  split <;> rfl

/-- Using up a retry and going on with the queue changes the retries or the queue. -/
theorem retry_changes (port : MasterPort M R) (data : MasterCommandData M) :
    let next := port.takeNextCommand (MasterPort.retryCommand data).1
    next.retriesLeft ≠ data.retriesLeft ∨
      next.masterCommandQueue ≠ data.masterCommandQueue := by
  have queue : (MasterPort.retryCommand data).1.masterCommandQueue = data.masterCommandQueue := by
    unfold MasterPort.retryCommand
    dsimp only
    split <;> rfl
  have retries : (MasterPort.retryCommand data).1.retriesLeft =
      MasterPort.decremented data.retriesLeft := by
    unfold MasterPort.retryCommand
    dsimp only
    split <;> rfl
  unfold MasterPort.takeNextCommand
  rw [queue]
  cases held : data.masterCommandQueue with
  | nil =>
      left
      rw [retries]
      exact decremented_ne _
  | cons front rest =>
      dsimp only
      split
      · left
        rw [retries]
        exact decremented_ne _
      · right
        exact fun same => by simpa using congrArg List.length same

/-- **A handler whose test succeeds leaves the data as it was exactly when the
port cannot send and no command is in flight.** -/
theorem timeoutHandler_eq_self_iff (port : MasterPort M R) {enabled : Bool}
    {data : MasterCommandData M} {endtime : Nat} (test : endtime = data.timerExpireTime) :
    port.timeoutHandler enabled data endtime = (data, []) ↔
      port.canSend enabled = false ∧ data.processingCommand = false := by
  rw [MasterPort.timeoutHandler, if_pos test, MasterPort.unprotectedSendNextMasterCommand]
  cases sends : port.canSend enabled with
  | false =>
      simp only [Bool.not_false, if_true, true_and]
      constructor
      · intro same
        exact (congrArg (fun result => result.1.processingCommand) same).symm
      · intro idle
        cases data
        simp only at idle
        rw [idle]
  | true =>
      simp only [Bool.not_true, Bool.false_eq_true, if_false, if_true, false_and, iff_false,
        reduceCtorEq]
      intro same
      have retries := congrArg (fun result => result.1.retriesLeft) same
      have queue := congrArg (fun result => result.1.masterCommandQueue) same
      simp only [transmit_retriesLeft, transmit_masterCommandQueue] at retries queue
      rcases retry_changes port { data with processingCommand := false } with changed | changed
      · exact changed retries
      · exact changed queue

/-- In every run, what every queued handler does is known. -/
theorem run_handler_eq_self_iff (port : MasterPort M R) (enabled : Bool) (message : M) (actions : List (Action M R)) :
    let system := (run (MasterSystem.step port) (MasterSystem.start enabled message) actions).1
    ∀ wait ∈ system.handlers,
      (port.timeoutHandler system.enabled system.data wait.endtime = (system.data, []) ↔
        port.canSend system.enabled = false ∧ system.data.processingCommand = false) := by
  intro system wait member
  have constant : wait.endtime = port.commandTimeoutmsec ∧
      system.data.timerExpireTime = port.commandTimeoutmsec :=
    run_endtimes enabled message actions wait (List.mem_append_right _ member)
  exact timeoutHandler_eq_self_iff port (constant.1.trans constant.2.symm)

end OpenDataCon.MasterQueue

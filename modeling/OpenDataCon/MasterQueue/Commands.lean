import OpenDataCon.MasterQueue.Timeouts

/-!
# What a master sends was queued

A property of messages that every queued command has is a property of everything
the master sends, and of its current command from the first transmission on
(`step_carries`). Until then there is no command in flight and no timer.
-/

set_option autoImplicit false

namespace OpenDataCon.MasterQueue

open Runs

universe u v

variable {M : Type u} {R : Type v}

/-! ## The functions of a port -/

/-- Does an effect belong to a transmission? -/
def Effect.starts : Effect M → Bool
  | .send _ => true
  | .armTimer _ => true
  | .cancelTimer => false
  | .post _ _ => false
  | .commsLost => false

section Functions

variable (port : MasterPort M R) (P : M → Prop)

/-- Every waiting command has the property. -/
def Queued (data : MasterCommandData M) : Prop :=
  ∀ item ∈ data.masterCommandQueue, P item.message

/-- The current command was taken from the queue. -/
structure Begun (data : MasterCommandData M) : Prop where
  holds : P data.currentCommand.message
  code : data.currentFunctionCode = port.getFunctionCode data.currentCommand.message

/-- A function keeps the property: of the queue, of the current command, and of what it sends. -/
structure Carries (before : MasterCommandData M) (result : MasterCommandData M × List (Effect M)) :
    Prop where
  queued : Queued P result.1
  begun : Begun port P before → Begun port P result.1
  processing : result.1.processingCommand = true → Begun port P result.1
  started : ∀ effect ∈ result.2, effect.starts = true → Begun port P result.1
  sent : ∀ message, Effect.send message ∈ result.2 → P message

variable {P}

theorem Carries.refl {data : MasterCommandData M} (queued : Queued P data)
    (processing : data.processingCommand = true → Begun port P data) :
    Carries port P data (data, []) where
  queued := queued
  begun := id
  processing := processing
  started := nofun
  sent := nofun

/-- Only the current command of the data before matters. -/
theorem Carries.congr {before other : MasterCommandData M}
    {result : MasterCommandData M × List (Effect M)} (carries : Carries port P before result)
    (same : Begun port P other → Begun port P before) : Carries port P other result :=
  { carries with begun := fun begun => carries.begun (same begun) }

/-- One function after another. -/
theorem Carries.trans {before : MasterCommandData M}
    {first last : MasterCommandData M × List (Effect M)} (earlier : Carries port P before first)
    (later : Carries port P first.1 last) : Carries port P before (last.1, first.2 ++ last.2) where
  queued := later.queued
  begun := fun begun => later.begun (earlier.begun begun)
  processing := later.processing
  started := by
    intro effect member starts
    rcases List.mem_append.mp member with old | new
    · exact later.begun (earlier.started effect old starts)
    · exact later.started effect new starts
  sent := by
    intro message member
    rcases List.mem_append.mp member with old | new
    · exact earlier.sent message old
    · exact later.sent message new

/-- Effects that start nothing. -/
theorem Carries.quiet {before : MasterCommandData M}
    {result : MasterCommandData M × List (Effect M)} (carries : Carries port P before result)
    (effects : List (Effect M)) (quiet : ∀ effect ∈ effects, effect.starts = false) :
    Carries port P before (result.1, effects ++ result.2) where
  queued := carries.queued
  begun := carries.begun
  processing := carries.processing
  started := by
    intro effect member starts
    rcases List.mem_append.mp member with old | new
    · exact absurd starts (by simp [quiet effect old])
    · exact carries.started effect new starts
  sent := by
    intro message member
    rcases List.mem_append.mp member with old | new
    · exact absurd (quiet _ old) (by simp [Effect.starts])
    · exact carries.sent message new

theorem postCallbackCall_quiet (callback : Option Nat) (status : CommandStatus) :
    ∀ effect ∈ (MasterPort.postCallbackCall callback status : List (Effect M)),
      effect.starts = false := by
  cases callback with
  | none => nofun
  | some id => simp [MasterPort.postCallbackCall, Effect.starts]

theorem retryCommand_carries {data : MasterCommandData M} (queued : Queued P data)
    (begun : Begun port P data) : Carries port P data (MasterPort.retryCommand data) := by
  have kept (other : MasterCommandData M) (sameQueue :
      other.masterCommandQueue = data.masterCommandQueue)
      (sameCommand : other.currentCommand = data.currentCommand)
      (sameCode : other.currentFunctionCode = data.currentFunctionCode) :
      Carries port P data (other, []) := by
    have begunNow : Begun port P other :=
      ⟨by rw [sameCommand]; exact begun.holds, by rw [sameCommand, sameCode]; exact begun.code⟩
    exact ⟨fun item member => queued item (sameQueue ▸ member), fun _ => begunNow,
      fun _ => begunNow, nofun, nofun⟩
  unfold MasterPort.retryCommand
  dsimp only
  split
  · exact kept _ rfl rfl rfl
  · have quiet : ∀ effect ∈ MasterPort.postCallbackCall data.currentCommand.callback .UNDEFINED ++
        [(.commsLost : Effect M)], effect.starts = false := by
      intro effect member
      rcases List.mem_append.mp member with posted | lost
      · exact postCallbackCall_quiet _ _ effect posted
      · rw [List.mem_singleton.mp lost]
        rfl
    have failed := (kept { data with retriesLeft := MasterPort.decremented data.retriesLeft }
      rfl rfl rfl).quiet port _ quiet
    rwa [List.append_nil] at failed

theorem takeNextCommand_carries {data : MasterCommandData M} (queued : Queued P data)
    (processing : data.processingCommand = true → Begun port P data) :
    Carries port P data (port.takeNextCommand data, []) := by
  unfold MasterPort.takeNextCommand
  cases held : data.masterCommandQueue with
  | nil => exact Carries.refl port queued processing
  | cons front rest =>
      have waiting : ∀ item ∈ front :: rest, P item.message := held ▸ queued
      by_cases inFlight : data.processingCommand = true
      · simp only [inFlight, if_true]
        exact Carries.refl port queued processing
      · simp only [inFlight, Bool.false_eq_true, if_false]
        exact ⟨fun item member => waiting item (List.mem_cons_of_mem _ member),
          fun _ => ⟨waiting front List.mem_cons_self, rfl⟩,
          fun _ => ⟨waiting front List.mem_cons_self, rfl⟩, nofun, nofun⟩

theorem transmit_carries {data : MasterCommandData M} (queued : Queued P data)
    (processing : data.processingCommand = true → Begun port P data) :
    Carries port P data (port.transmit data) := by
  unfold MasterPort.transmit
  split
  · next inFlight =>
      have begun := processing inFlight
      refine ⟨queued, fun _ => ⟨begun.holds, begun.code⟩, fun _ => ⟨begun.holds, begun.code⟩,
        fun _ _ _ => ⟨begun.holds, begun.code⟩, fun message member => ?_⟩
      simp only [List.mem_cons, Effect.send.injEq, reduceCtorEq, List.not_mem_nil, or_false]
        at member
      exact member ▸ begun.holds
  · exact Carries.refl port queued processing

/-- Sending the next command. After a timeout a command was taken before. -/
theorem unprotectedSend_carries (enabled : Bool) (data : MasterCommandData M)
    (timeoutoccured : Bool) (queued : Queued P data)
    (processing : data.processingCommand = true → Begun port P data) (taken : timeoutoccured = true → Begun port P data) :
    Carries port P data
      (port.unprotectedSendNextMasterCommand enabled data timeoutoccured) := by
  unfold MasterPort.unprotectedSendNextMasterCommand
  split
  · exact Carries.refl port queued processing
  · split
    · exact Carries.refl port queued processing
    · have first : Carries port P data
          (if timeoutoccured then MasterPort.retryCommand data else (data, [])) := by
        split
        · next timeout => exact retryCommand_carries port queued (taken timeout)
        · exact Carries.refl port queued processing
      have next := takeNextCommand_carries port first.queued first.processing
      exact first.trans port (next.trans port (transmit_carries port next.queued next.processing))

theorem queueCommand_carries (enabled : Bool) {data : MasterCommandData M}
    (queued : Queued P data) (processing : data.processingCommand = true → Begun port P data)
    (item : MasterCommandQueueItem M) (holds : P item.message) :
    Carries port P data (port.queueCommand enabled data item) := by
  unfold MasterPort.queueCommand
  split
  · have longer : Queued P { data with
        masterCommandQueue := data.masterCommandQueue ++ [item] } := by
      intro other member
      rcases List.mem_append.mp member with before | new
      · exact queued other before
      · rw [List.mem_singleton.mp new]
        exact holds
    refine (unprotectedSend_carries port enabled _ false longer (fun inFlight => ?_)
      nofun).congr port fun begun => ⟨begun.holds, begun.code⟩
    exact ⟨(processing inFlight).holds, (processing inFlight).code⟩
  · exact (unprotectedSend_carries port enabled data false queued processing nofun).quiet
      port _ (postCallbackCall_quiet item.callback .UNDEFINED)

theorem run_queueCommand_carries (enabled : Bool) {data : MasterCommandData M}
    (queued : Queued P data) (processing : data.processingCommand = true → Begun port P data)
    {commands : List M} (holds : ∀ message ∈ commands, P message) :
    Carries port P data
      (run (fun data message => port.queueCommand enabled data { message := message })
        data commands) := by
  induction commands generalizing data with
  | nil => exact Carries.refl port queued processing
  | cons message rest ih =>
      have first := queueCommand_carries port enabled queued processing
        { message := message } (holds message List.mem_cons_self)
      rw [run_cons]
      exact first.trans port (ih first.queued first.processing fun other member =>
        holds other (List.mem_cons_of_mem _ member))

theorem finishCommand_carries (enabled : Bool) {data : MasterCommandData M}
    (queued : Queued P data) : Carries port P data (port.finishCommand enabled data) := by
  have sent : Carries port P data (port.unprotectedSendNextMasterCommand enabled
      { data with processingCommand := false } false) :=
    (unprotectedSend_carries port enabled { data with processingCommand := false } false queued
      nofun nofun).congr port fun begun => ⟨begun.holds, begun.code⟩
  refine Carries.quiet port sent
    (.cancelTimer :: MasterPort.postCallbackCall data.currentCommand.callback .SUCCESS)
    fun effect member => ?_
  rcases List.mem_cons.mp member with rfl | posted
  · rfl
  · exact postCallbackCall_quiet _ _ effect posted

/-- The commands that an answer queues must have the property. -/
def FollowUps (P : M → Prop) : Prop :=
  ∀ data response commands, port.accepts data response = some commands →
    ∀ message ∈ commands, P message

theorem processMessage_carries (enabled : Bool) {data : MasterCommandData M}
    (queued : Queued P data) (processing : data.processingCommand = true → Begun port P data)
    (followUps : FollowUps port P) (response : R) :
    Carries port P data (port.processMessage enabled data response) := by
  unfold MasterPort.processMessage
  cases answer : port.accepts data response with
  | none => exact Carries.refl port queued processing
  | some commands =>
      have asked := run_queueCommand_carries port enabled queued processing
        (followUps data response commands answer)
      exact asked.trans port (finishCommand_carries port enabled asked.queued)

theorem timeoutHandler_carries (enabled : Bool) {data : MasterCommandData M}
    (queued : Queued P data) (begun : Begun port P data) (endtime : Nat) :
    Carries port P data (port.timeoutHandler enabled data endtime) := by
  unfold MasterPort.timeoutHandler
  split
  · exact (unprotectedSend_carries port enabled { data with processingCommand := false } true
      queued nofun fun _ => ⟨begun.holds, begun.code⟩).congr port fun begun =>
        ⟨begun.holds, begun.code⟩
  · exact Carries.refl port queued fun _ => begun

end Functions

/-! ## Runs -/

/-- In a run: every waiting command has the property, and while there is a
command in flight, a timer or a handler, the current command was taken from the queue. -/
structure Carrying (port : MasterPort M R) (P : M → Prop) (system : MasterSystem M) : Prop where
  queued : Queued P system.data
  processing : system.data.processingCommand = true → Begun port P system.data
  pending : ∀ wait ∈ system.pending, Begun port P system.data
  handlers : ∀ wait ∈ system.handlers, Begun port P system.data

variable {port : MasterPort M R} {P : M → Prop}

theorem start_carrying (enabled : Bool) (message : M) :
    Carrying port P (MasterSystem.start enabled message) :=
  ⟨nofun, nofun, nofun, nofun⟩

/-- A function of the port, when no handler is added. -/
theorem Carrying.update {system other : MasterSystem M} (carrying : Carrying port P system)
    (pending : other.pending = system.pending)
    (handlers : ∀ wait ∈ other.handlers, wait ∈ system.handlers)
    {result : MasterCommandData M × List (Effect M)} (carries : Carries port P system.data result) :
    Carrying port P (other.update result) where
  queued := carries.queued
  processing := carries.processing
  pending := by
    intro wait isPending
    rcases foldl_record_pending other result.2 wait isPending with old | new
    · exact carries.begun (carrying.pending wait (pending ▸ old))
    · exact carries.started _ new rfl
  handlers := by
    intro wait isHandler
    simp only [MasterSystem.update, foldl_record_handlers] at isHandler
    exact carries.begun (carrying.handlers wait (handlers wait isHandler))

/-- What a step does with the property. -/
structure StepCarries (port : MasterPort M R) (P : M → Prop) (system : MasterSystem M)
    (result : MasterSystem M × List (Effect M)) : Prop where
  carrying : Carrying port P result.1
  begun : Begun port P system.data → Begun port P result.1.data
  sent : ∀ message, Effect.send message ∈ result.2 → P message ∧ Begun port P result.1.data

/-- A step that leaves the commands as they are. -/
theorem StepCarries.still {system other : MasterSystem M} (carrying : Carrying port P other)
    (same : other.data = system.data) : StepCarries port P system (other, []) :=
  ⟨carrying, fun begun => same ▸ begun, nofun⟩

/-- A step that is a function of the port. -/
theorem StepCarries.ofCarries {system other : MasterSystem M} (carrying : Carrying port P system)
    (pending : other.pending = system.pending)
    (handlers : ∀ wait ∈ other.handlers, wait ∈ system.handlers)
    {result : MasterCommandData M × List (Effect M)} (carries : Carries port P system.data result) :
    StepCarries port P system (other.update result, result.2) :=
  ⟨carrying.update pending handlers carries, carries.begun,
    fun message member => ⟨carries.sent message member, carries.started _ member rfl⟩⟩

/-- **A step sends only commands that were queued**, except that a clear forgets
the current one. -/
theorem step_carries (followUps : FollowUps port P) {system : MasterSystem M}
    (carrying : Carrying port P system) {action : Action M R} (notClear : action ≠ .clear)
    (holds : ∀ message withCallback, action = .queue message withCallback → P message) :
    StepCarries port P system (system.step port action) := by
  obtain ⟨queued, processing, pending, handlers⟩ := carrying
  have carrying : Carrying port P system := ⟨queued, processing, pending, handlers⟩
  cases action with
  | queue message withCallback =>
      change StepCarries port P system (MasterSystem.update _ _, _)
      refine .ofCarries carrying ?_ ?_
        (queueCommand_carries port _ queued processing _ (holds message withCallback rfl))
      · rfl
      · exact fun wait member => member
  | response message =>
      change StepCarries port P system (MasterSystem.update _ _, _)
      refine .ofCarries carrying ?_ ?_
        (processMessage_carries port _ queued processing followUps message)
      · rfl
      · exact fun wait member => member
  | expire =>
      dsimp only [MasterSystem.step]
      cases waits : system.pending with
      | none => exact .still carrying rfl
      | some wait =>
          refine .still ⟨queued, processing, nofun, fun other member => ?_⟩ rfl
          exact pending wait (Option.mem_def.mpr waits)
  | runHandler position =>
      dsimp only [MasterSystem.step]
      cases here : system.handlers[position]? with
      | none => exact .still carrying rfl
      | some wait =>
          have begun := handlers wait (List.mem_of_getElem? here)
          refine .ofCarries carrying ?_ ?_ (timeoutHandler_carries port _ queued begun wait.endtime)
          · rfl
          · exact fun other member => List.mem_of_mem_eraseIdx member
  | clear => exact absurd rfl notClear
  | setEnabled enabled => exact .still ⟨queued, processing, pending, handlers⟩ rfl

end OpenDataCon.MasterQueue

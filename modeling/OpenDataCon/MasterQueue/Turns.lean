import OpenDataCon.MasterQueue.CommandQueue

/-!
# One command at its turn

A command has its turn when it is taken from the queue. Every transmission is answered, in time;
an answer that is not accepted does nothing, and the timeout after it uses up a retry. The turn
ends with the first answer that is accepted, or when no retry is left (`exchange`).

The callback of the command is posted once, with success exactly when an answer was accepted
(`turn_posted`). The command is transmitted once exactly when its first answer is accepted or
it has no retries (`turn_once`).
-/

set_option autoImplicit false

namespace OpenDataCon.MasterQueue

universe u v

variable {M : Type u} {R : Type v}

/-- The statuses that effects post for a callback. -/
def postedFor (id : Nat) (effects : List (Effect M)) : List CommandStatus :=
  effects.filterMap fun
    | .post callback status => if callback = id then some status else none
    | _ => none

@[simp] theorem postedFor_append (id : Nat) (first second : List (Effect M)) :
    postedFor id (first ++ second) = postedFor id first ++ postedFor id second :=
  List.filterMap_append ..

@[simp] theorem postedFor_postCallbackCall (id : Nat) (status : CommandStatus) :
    postedFor id (MasterPort.postCallbackCall (some id) status : List (Effect M)) = [status] := by
  simp [postedFor, MasterPort.postCallbackCall]

namespace MasterPort

variable (port : MasterPort M R)

/-- The command in flight, as it was taken from the queue. -/
def atTurn (data : MasterCommandData M) (item : MasterCommandQueueItem M) : MasterCommandData M :=
  { data with
    processingCommand := true
    retriesLeft := port.commandRetries
    currentCommand := item
    currentFunctionCode := port.getFunctionCode item.message
    timerExpireTime := port.commandTimeoutmsec }

/-- Every transmission is answered; so many of them there were, and what was done. -/
def exchange (enabled : Bool) (answer : Nat → R) :
    Nat → Nat → MasterCommandData M → Nat × List (Effect M)
  | left, attempt, data =>
    let answered := port.processMessage enabled data (answer attempt)
    if (port.accepts data (answer attempt)).isSome then (1, answered.2)
    else
      let expired := port.timeoutHandler enabled answered.1 answered.1.timerExpireTime
      match left with
      | 0 => (1, answered.2 ++ expired.2)
      | left + 1 =>
        let later := exchange enabled answer left (attempt + 1) expired.1
        (later.1 + 1, answered.2 ++ expired.2 ++ later.2)

/-- The exchange of a command from its first transmission on. -/
def turn (enabled : Bool) (answer : Nat → R) (data : MasterCommandData M)
    (item : MasterCommandQueueItem M) : Nat × List (Effect M) :=
  port.exchange enabled answer port.commandRetries 0 (port.atTurn data item)

/-! ## The functions at a turn -/

section Functions

theorem postedFor_transmit (id : Nat) (data : MasterCommandData M) :
    postedFor id (port.transmit data).2 = [] := by
  unfold transmit
  split
  · rfl
  · rfl

variable {enabled : Bool} (canSend : port.canSend enabled = true)

include canSend

/-- An accepted answer posts the callback, if there is one. -/
theorem postedFor_processMessage (id : Nat) {data : MasterCommandData M} {response : R}
    (accepted : port.accepts data response = some []) :
    postedFor id (port.processMessage enabled data response).2 =
      postedFor id (postCallbackCall data.currentCommand.callback .SUCCESS : List (Effect M)) := by
  have sent := port.postedFor_transmit id
    (port.takeNextCommand { data with processingCommand := false })
  simp only [processMessage, accepted, Runs.run_nil, List.nil_append, finishCommand,
    unprotectedSendNextMasterCommand, canSend, Bool.not_true, Bool.false_eq_true, if_false]
  rw [List.cons_append, ← List.singleton_append, postedFor_append, postedFor_append, sent,
    List.append_nil]
  rfl

/-- A timeout with a retry left sends the command again. -/
theorem timeoutHandler_retry {data : MasterCommandData M} {left : Nat}
    (retries : data.retriesLeft = left + 1) :
    port.timeoutHandler enabled data data.timerExpireTime =
      ({ data with
          processingCommand := true, retriesLeft := left
          timerExpireTime := port.commandTimeoutmsec },
        [.send data.currentCommand.message, .armTimer port.commandTimeoutmsec]) := by
  simp only [timeoutHandler, if_true, unprotectedSendNextMasterCommand, canSend, Bool.not_true,
    Bool.false_eq_true, if_false, retryCommand, retries, Nat.zero_lt_succ, takeNextCommand]
  cases data.masterCommandQueue with
  | nil => simp [transmit, decremented]
  | cons front rest => simp [transmit, decremented]

/-- A timeout without one posts the callback as failed, if there is one. -/
theorem postedFor_timeoutHandler (id : Nat) {data : MasterCommandData M}
    (retries : data.retriesLeft = 0) :
    postedFor id (port.timeoutHandler enabled data data.timerExpireTime).2 =
      postedFor id
        (postCallbackCall data.currentCommand.callback .UNDEFINED : List (Effect M)) := by
  simp only [timeoutHandler, if_true, unprotectedSendNextMasterCommand, canSend, Bool.not_true,
    Bool.false_eq_true, if_false, retryCommand, retries, Nat.lt_irrefl]
  rw [postedFor_append, postedFor_append, port.postedFor_transmit, List.append_nil]
  exact List.append_nil _

end Functions

/-! ## The whole turn -/

section Steps

variable {enabled : Bool} {answer : Nat → R} {left attempt : Nat} {data : MasterCommandData M}

theorem exchange_accepted (accepted : port.accepts data (answer attempt) = some []) :
    port.exchange enabled answer left attempt data =
      (1, (port.processMessage enabled data (answer attempt)).2) := by
  unfold exchange
  rw [accepted]
  rfl

theorem processMessage_refused {response : R} (refused : port.accepts data response = none) :
    port.processMessage enabled data response = (data, []) := by
  unfold processMessage
  rw [refused]

theorem exchange_last (refused : port.accepts data (answer attempt) = none) :
    port.exchange enabled answer 0 attempt data =
      (1, (port.timeoutHandler enabled data data.timerExpireTime).2) := by
  simp only [exchange, refused, Option.isSome_none, Bool.false_eq_true, if_false,
    port.processMessage_refused refused, List.nil_append]

theorem exchange_retry (refused : port.accepts data (answer attempt) = none)
    {expired : MasterCommandData M × List (Effect M)}
    (timeout : port.timeoutHandler enabled data data.timerExpireTime = expired) :
    port.exchange enabled answer (left + 1) attempt data =
      ((port.exchange enabled answer left (attempt + 1) expired.1).1 + 1,
        expired.2 ++ (port.exchange enabled answer left (attempt + 1) expired.1).2) := by
  have silent : port.processMessage enabled data (answer attempt) = (data, []) :=
    port.processMessage_refused refused
  have notAccepted : ¬(port.accepts data (answer attempt)).isSome = true := by
    rw [refused]
    exact Bool.false_ne_true
  rw [exchange, if_neg notAccepted, silent]
  dsimp only
  rw [timeout, List.nil_append]

end Steps

/-- With the function of a command, an answer is accepted or not, and queues nothing. -/
def Judges (functionCode : Nat) (accepted : R → Bool) : Prop :=
  ∀ data response, data.currentFunctionCode = functionCode →
    port.accepts data response = if accepted response then some [] else none

/-- While a command is in flight, an answer is accepted or not, and queues nothing. -/
def JudgesCommand (item : MasterCommandQueueItem M) (accepted : R → Bool) : Prop :=
  ∀ data response, data.currentCommand = item →
    data.currentFunctionCode = port.getFunctionCode item.message →
      port.accepts data response = if accepted response then some [] else none

theorem Judges.command {functionCode : Nat} {accepted : R → Bool}
    (judges : port.Judges functionCode accepted) {item : MasterCommandQueueItem M}
    (code : port.getFunctionCode item.message = functionCode) :
    port.JudgesCommand item accepted := by
  intro data response _ same
  exact judges data response (same.trans code)

/-- There is at least one transmission. -/
theorem exchange_pos (enabled : Bool) (answer : Nat → R) (left attempt : Nat)
    (data : MasterCommandData M) : 0 < (port.exchange enabled answer left attempt data).1 := by
  unfold exchange
  dsimp only
  split
  · exact Nat.one_pos
  · cases left with
    | zero => exact Nat.one_pos
    | succ left => exact Nat.succ_pos _

section Turns

variable {enabled : Bool} (canSend : port.canSend enabled = true) {functionCode id : Nat}
  {accepted : R → Bool} {item : MasterCommandQueueItem M} (answer : Nat → R)

include canSend

/-- The callback, if there is one, is posted once, with success when an answer was accepted; and
there is one transmission when it is the first one, or there is no retry. -/
theorem exchange_spec (judges : port.JudgesCommand item accepted) {left : Nat} (attempt : Nat)
    {data : MasterCommandData M} (retries : data.retriesLeft = left)
    (current : data.currentCommand = item)
    (code : data.currentFunctionCode = port.getFunctionCode item.message) :
    let result := port.exchange enabled answer left attempt data
    (∃ status, postedFor id result.2 =
        postedFor id (postCallbackCall item.callback status : List (Effect M)) ∧
      (status = .SUCCESS ↔ ∃ j < result.1, accepted (answer (attempt + j)) = true)) ∧
    (result.1 = 1 ↔ left = 0 ∨ accepted (answer attempt) = true) := by
  induction left generalizing attempt data with
  | zero =>
      have judged := judges data (answer attempt) current code
      cases verdict : accepted (answer attempt) with
      | true =>
          rw [verdict, if_pos rfl] at judged
          rw [port.exchange_accepted judged, ← current]
          have posted := port.postedFor_processMessage canSend id judged
          exact ⟨⟨.SUCCESS, posted, by simpa using verdict⟩, by simp⟩
      | false =>
          rw [verdict, if_neg Bool.false_ne_true] at judged
          rw [port.exchange_last judged, ← current]
          have posted := port.postedFor_timeoutHandler canSend id retries
          exact ⟨⟨.UNDEFINED, posted, by simpa using verdict⟩, by simp⟩
  | succ left ih =>
      have judged := judges data (answer attempt) current code
      cases verdict : accepted (answer attempt) with
      | true =>
          rw [verdict, if_pos rfl] at judged
          rw [port.exchange_accepted judged, ← current]
          have posted := port.postedFor_processMessage canSend id judged
          exact ⟨⟨.SUCCESS, posted, by simpa using verdict⟩, by simp⟩
      | false =>
          rw [verdict, if_neg Bool.false_ne_true] at judged
          rw [port.exchange_retry judged (port.timeoutHandler_retry canSend retries)]
          have positive := port.exchange_pos enabled answer left (attempt + 1) { data with
            processingCommand := true, retriesLeft := left
            timerExpireTime := port.commandTimeoutmsec }
          obtain ⟨⟨status, posted, success⟩, -⟩ :=
            @ih (attempt + 1) { data with
              processingCommand := true, retriesLeft := left
              timerExpireTime := port.commandTimeoutmsec } rfl current code
          refine ⟨⟨status, ?_, ?_⟩, ?_⟩
          · rw [postedFor_append, posted]
            rfl
          · rw [success]
            constructor
            · rintro ⟨j, before, yes⟩
              exact ⟨j + 1, Nat.succ_lt_succ before, by rwa [Nat.add_right_comm] at yes⟩
            · rintro ⟨j, before, yes⟩
              cases j with
              | zero => exact absurd (verdict.symm.trans yes) Bool.false_ne_true
              | succ j =>
                  exact ⟨j, Nat.lt_of_succ_lt_succ before, by rwa [Nat.add_right_comm]⟩
          · simp only [Nat.add_eq_right, Nat.succ_ne_zero, Bool.false_eq_true, or_self, iff_false]
            exact Nat.pos_iff_ne_zero.mp positive

/-- **The callback of a command at its turn is posted once, with success exactly when an answer
was accepted.** -/
theorem turn_posted_command (judges : port.JudgesCommand item accepted)
    (data : MasterCommandData M) (callback : item.callback = some id) :
    let result := port.turn enabled answer data item
    ∃ status, postedFor id result.2 = [status] ∧
      (status = .SUCCESS ↔ ∃ j < result.1, accepted (answer j) = true) := by
  have spec := (@exchange_spec _ _ port _ canSend id _ _ answer judges _ 0
    (port.atTurn data item) rfl rfl rfl).1
  simp only [Nat.zero_add, callback, postedFor_postCallbackCall] at spec
  exact spec

/-- A command without a callback posts none. -/
theorem turn_silent (judges : port.JudgesCommand item accepted) (data : MasterCommandData M)
    (silent : item.callback = none) : postedFor id (port.turn enabled answer data item).2 = [] := by
  obtain ⟨status, posted, -⟩ := (@exchange_spec _ _ port _ canSend id _ _ answer judges _ 0
    (port.atTurn data item) rfl rfl rfl).1
  rw [silent] at posted
  exact posted

theorem turn_posted (judges : port.Judges functionCode accepted) (data : MasterCommandData M)
    (code : port.getFunctionCode item.message = functionCode) (callback : item.callback = some id) :
    let result := port.turn enabled answer data item
    ∃ status, postedFor id result.2 = [status] ∧
      (status = .SUCCESS ↔ ∃ j < result.1, accepted (answer j) = true) :=
  port.turn_posted_command canSend answer (judges.command port code) data callback

/-- **It is transmitted once exactly when the first answer is accepted or there is no retry.** -/
theorem turn_once (judges : port.Judges functionCode accepted) (data : MasterCommandData M)
    (code : port.getFunctionCode item.message = functionCode) :
    (port.turn enabled answer data item).1 = 1 ↔
      port.commandRetries = 0 ∨ accepted (answer 0) = true :=
  (@exchange_spec _ _ port _ canSend 0 _ _ answer (judges.command port code) _ 0
    (port.atTurn data item) rfl rfl rfl).2

end Turns

/-- A first answer that is accepted ends the turn. -/
theorem turn_accepted {enabled : Bool} {answer : Nat → R} {data : MasterCommandData M}
    {item : MasterCommandQueueItem M} {accepted : R → Bool}
    (judges : port.JudgesCommand item accepted) (first : accepted (answer 0) = true) :
    (port.turn enabled answer data item).1 = 1 := by
  have judged := judges (port.atTurn data item) (answer 0) rfl rfl
  rw [first, if_pos rfl] at judged
  rw [turn, port.exchange_accepted judged]

end MasterPort

end OpenDataCon.MasterQueue

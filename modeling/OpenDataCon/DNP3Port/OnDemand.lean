import OpenDataCon.Connectors.ConnectionDemand
import OpenDataCon.Foundations.Runs

/-!
# The stack of an on-demand port

A connection event reaches a port twice: `IOHandler::Event` enters it in the demand map, and the
port's own `Event` decides from the flag `stack_enabled` whether to post `EnableStack` or
`DisableStack`. Handlers that were posted earlier may not have run by then, so the flag may be out
of date, and a connect and a disconnect in quick succession leave the stack in the wrong state
(`run_outOfDate`).

When a handler runs only if it goes with the demand, or the opposite one is posted too, the stack of
an on-demand port is enabled exactly if the port is in demand, whenever nothing is posted
(`run_stackEnabled_iff`).
-/

set_option autoImplicit false

namespace OpenDataCon.DNP3Port

open Connectors.Demand Runs

inductive ServerType where
  | ONDEMAND | PERSISTENT | MANUAL
deriving DecidableEq, Repr

inductive StackHandler where
  | EnableStack | DisableStack
deriving DecidableEq, Repr

/-- The demand map of the port, whether the stack is enabled, and the handlers that are posted. -/
structure StackState (Sender : Type) where
  mDemandMap : Demands Sender := []
  stackEnabled : Bool := false
  posted : List StackHandler := []
deriving Repr

/-- A connection event from a sender, or one of the handlers that are posted. -/
inductive StackInput (Sender : Type) where
  | event (state : ConnectState) (sender : Sender)
  | handler (k : Nat)
deriving DecidableEq, Repr

namespace StackState

variable {Sender : Type} [DecidableEq Sender]

/-! ## The steps -/

/-- `IOHandler::Event`. -/
def muxConnectionEvents (demands : Demands Sender) (state : ConnectState) (sender : Sender) :
    Demands Sender :=
  match state with
  | .DISCONNECTED => demands.set sender false
  | .CONNECTED => demands.set sender true
  | _ => demands

omit [DecidableEq Sender] in
/-- The port's `Event`, of the master and of the outstation. -/
def event (serverType : ServerType) (port : StackState Sender) (state : ConnectState) :
    StackState Sender :=
  let enabling :=
    if !port.stackEnabled && state == .CONNECTED && serverType == .ONDEMAND then
      [StackHandler.EnableStack]
    else []
  let disabling :=
    if port.stackEnabled && !port.mDemandMap.inDemand && serverType == .ONDEMAND then
      [StackHandler.DisableStack]
    else []
  { port with posted := port.posted ++ enabling ++ disabling }

omit [DecidableEq Sender] in
def runHandler (port : StackState Sender) : StackHandler → StackState Sender
  | .EnableStack => { port with stackEnabled := true }
  | .DisableStack => { port with stackEnabled := false }

/-- `PublishEvent` of a sender calls both functions of the port; a posted handler may be any. -/
def step (serverType : ServerType) (port : StackState Sender) :
    StackInput Sender → StackState Sender × List Unit
  | .event state sender =>
    let mDemandMap := muxConnectionEvents port.mDemandMap state sender
    (event serverType { port with mDemandMap } state, [])
  | .handler k =>
    match port.posted[k]? with
    | none => (port, [])
    | some handler => (runHandler { port with posted := port.posted.eraseIdx k } handler, [])

/-- `Enable`: an on-demand port that is in demand enables its stack. -/
def enable (mDemandMap : Demands Sender) : StackState Sender where
  mDemandMap
  stackEnabled := mDemandMap.inDemand

/-! ## When the stack follows the demand -/

/-- The handler that goes with the demand. -/
def wanted (port : StackState Sender) : StackHandler :=
  if port.mDemandMap.inDemand then .EnableStack else .DisableStack

/-- A handler that runs is the one that goes with the demand, or that one is posted too. -/
def Timely (port : StackState Sender) : StackInput Sender → Prop
  | .event _ _ => True
  | .handler k => ∀ handler ∈ port.posted[k]?.toList,
      handler = port.wanted ∨ port.wanted ∈ port.posted

instance decidableTimely (port : StackState Sender) : ∀ input, Decidable (port.Timely input)
  | .event _ _ => .isTrue trivial
  | .handler k => inferInstanceAs (Decidable (∀ handler ∈ port.posted[k]?.toList,
      handler = port.wanted ∨ port.wanted ∈ port.posted))

/-- The stack follows the demand, or the handler that makes it do so is posted. -/
def Follows (port : StackState Sender) : Prop :=
  port.stackEnabled = port.mDemandMap.inDemand ∨ port.wanted ∈ port.posted

/-- Only a connect makes a new demand. -/
theorem inDemand_mux {demands : Demands Sender} {state : ConnectState} {sender : Sender}
    (demanded : (muxConnectionEvents demands state sender).inDemand = true) :
    state = .CONNECTED ∨ demands.inDemand = true := by
  cases state with
  | CONNECTED => exact .inl rfl
  | DISCONNECTED =>
      obtain ⟨other, set⟩ := Demands.inDemand_iff.mp demanded
      rw [muxConnectionEvents, Demands.get_set] at set
      split at set
      · cases set
      · exact .inr (Demands.inDemand_iff.mpr ⟨other, set⟩)
  | PORT_UP | PORT_DOWN | UNDEFINED => exact .inr demanded

variable {port : StackState Sender}

/-- An event that reaches an on-demand port keeps the stack following. -/
theorem Follows.event (follows : port.Follows) (state : ConnectState) (sender : Sender) :
    ((port.step .ONDEMAND (.event state sender)).1).Follows := by
  unfold Follows wanted step StackState.event
  dsimp only
  cases demanded : (muxConnectionEvents port.mDemandMap state sender).inDemand with
  | false =>
      cases enabled : port.stackEnabled with
      | false => exact .inl rfl
      | true => exact .inr (List.mem_append_right _ (by simp))
  | true =>
      cases enabled : port.stackEnabled with
      | true => exact .inl rfl
      | false =>
          refine .inr (List.mem_append_left _ ?_)
          rcases inDemand_mux demanded with rfl | before
          · exact List.mem_append_right _ (by simp)
          · -- the demand is older than the event, and so is the handler
            refine List.mem_append_left _ ?_
            rcases follows with same | posted
            · rw [enabled, before] at same
              cases same
            · rw [wanted, before] at posted
              exact posted

omit [DecidableEq Sender] in
/-- After a timely handler the stack follows. -/
theorem follows_handler {k : Nat} {handler : StackHandler}
    (runs : port.posted[k]? = some handler)
    (timely : handler = port.wanted ∨ port.wanted ∈ port.posted) :
    (runHandler { port with posted := port.posted.eraseIdx k } handler).Follows := by
  by_cases same : handler = port.wanted
  · left
    rw [same, wanted]
    cases demanded : port.mDemandMap.inDemand with
    | false => exact demanded.symm
    | true => exact demanded.symm
  · right
    have other : port.wanted ∈ port.posted := timely.resolve_left same
    have left : port.wanted ∈ port.posted.eraseIdx k := by
      obtain ⟨place, found⟩ := List.getElem?_of_mem other
      refine List.mem_eraseIdx_iff_getElem?.mpr ⟨place, fun here => same ?_, found⟩
      rw [here, runs] at found
      exact Option.some.inj found
    cases handler with
    | EnableStack => exact left
    | DisableStack => exact left

/-- **A timely step keeps the stack following.** -/
theorem Follows.step (follows : port.Follows) (input : StackInput Sender)
    (timely : port.Timely input) : ((port.step .ONDEMAND input).1).Follows := by
  cases input with
  | event state sender => exact follows.event state sender
  | handler k =>
      unfold StackState.step
      unfold Timely at timely
      dsimp only at timely ⊢
      cases runs : port.posted[k]? with
      | none => exact follows
      | some handler =>
          rw [runs] at timely
          exact follows_handler runs (timely handler List.mem_cons_self)

/-- **The stack of an on-demand port is enabled exactly if the port is in demand** whenever nothing
is posted, when the handlers are timely. -/
theorem run_stackEnabled_iff (mDemandMap : Demands Sender) (inputs : List (StackInput Sender))
    (timely : Guarded (step .ONDEMAND) Timely (enable mDemandMap) inputs) :
    let port := (run (step .ONDEMAND) (enable mDemandMap) inputs).1
    port.posted = [] → (port.stackEnabled = true ↔ port.mDemandMap.inDemand = true) := by
  intro port quiet
  have follows : port.Follows := guarded_invariant Follows
    (fun _ input follows timely => follows.step input timely) (.inl rfl) timely
  rcases follows with same | posted
  · rw [same]
  · rw [quiet] at posted
    cases posted

/-- Two senders connect, and each handler runs before the next event. -/
theorem run_stackEnabled_iff_two :
    let inputs : List (StackInput Nat) := [.event .CONNECTED 0, .handler 0, .event .CONNECTED 1,
      .event .DISCONNECTED 0, .event .DISCONNECTED 1, .handler 0]
    let port := (run (step .ONDEMAND) (enable []) inputs).1
    port.posted = [] ∧ (port.stackEnabled = true ↔ port.mDemandMap.inDemand = true) :=
  ⟨by decide, run_stackEnabled_iff [] [.event .CONNECTED 0, .handler 0, .event .CONNECTED 1,
    .event .DISCONNECTED 0, .event .DISCONNECTED 1, .handler 0] (by decide) (by decide)⟩

/-- A sender that disconnects before the port has enabled its stack leaves it enabled; one that
connects before the port has disabled its stack leaves it disabled. -/
theorem run_outOfDate :
    let quick := (run (step .ONDEMAND) (enable ([] : Demands Nat))
      [.event .CONNECTED 0, .event .DISCONNECTED 0, .handler 0]).1
    let back := (run (step .ONDEMAND) (enable [(0, true)])
      [.event .DISCONNECTED 0, .event .CONNECTED 0, .handler 0]).1
    (quick.posted = [] ∧ quick.stackEnabled = true ∧ quick.mDemandMap.inDemand = false) ∧
      back.posted = [] ∧ back.stackEnabled = false ∧ back.mDemandMap.inDemand = true := by
  decide

end StackState

end OpenDataCon.DNP3Port

import OpenDataCon.Connectors.ConnectionDemand
import OpenDataCon.DNP3Port.ChannelHandler
import OpenDataCon.Foundations.Traces
import OpenDataCon.Foundations.WaitTimers

/-!
# Connection notices of a DNP3 port

When its link comes up, a port waits for the stability timer and then publishes `CONNECTED`. When
the link goes down it cancels the timer: if that aborts nothing, the port takes it that `CONNECTED`
has been published, and publishes `DISCONNECTED`.

A handler that has expired and is queued is not aborted. The port then publishes `DISCONNECTED`
first, and `CONNECTED` when the handler runs, although the link is down (`run_turnedRound`). When
no such handler is queued at the time a link goes down, the two take turns, and the last one that
was published on a link that is down is `DISCONNECTED` (`run_takeTurns`).
-/

set_option autoImplicit false

namespace OpenDataCon.DNP3Port

open Connectors.Demand Runs Traces WaitTimers

/-- The link, and the handlers that wait for the stability timer. -/
structure LinkNotices where
  linkDeadness : LinkDeadness := .LinkDownChannelDown
  pConnectionStabilityTimer : WaitTimer Unit := {}
deriving Repr

/-- A report on the link, an expiry, or one of the handlers that are queued. -/
inductive NoticeStep where
  | link (report : LinkReport)
  | expiry
  | handler (k : Nat)
deriving DecidableEq, Repr

namespace LinkNotices

variable (ConnectionStabilityTimems : Nat)

/-! ## The steps -/

def NotifyOfConnection (port : LinkNotices) : LinkNotices × List ConnectState :=
  if ConnectionStabilityTimems ≠ 0 then
    ({ port with pConnectionStabilityTimer := port.pConnectionStabilityTimer.arm () }, [])
  else (port, [.CONNECTED])

def NotifyOfDisconnection (port : LinkNotices) : LinkNotices × List ConnectState :=
  ({ port with pConnectionStabilityTimer := port.pConnectionStabilityTimer.cancel },
    if port.pConnectionStabilityTimer.aborts = 0 then [.DISCONNECTED] else [])

/-- The master and the outstation have a `LinkDeadnessChange` each. -/
inductive PortRole where
  | master | outstation
deriving DecidableEq, Repr

/-- What `LinkDeadnessChange` publishes; the master returns after the first branch. -/
def LinkDeadnessChange (role : PortRole) (port : LinkNotices) (previous next : LinkDeadness) :
    LinkNotices × List ConnectState :=
  match role with
  | .master =>
    if next = .LinkUpChannelUp then port.NotifyOfConnection ConnectionStabilityTimems
    else if previous = .LinkUpChannelUp then port.NotifyOfDisconnection
    else (port, [])
  | .outstation =>
    let connected :=
      if next = .LinkUpChannelUp then port.NotifyOfConnection ConnectionStabilityTimems
      else (port, [])
    let disconnected :=
      if previous = .LinkUpChannelUp then connected.1.NotifyOfDisconnection else (connected.1, [])
    (disconnected.1, connected.2 ++ disconnected.2)

def step (role : PortRole) (port : LinkNotices) : NoticeStep → LinkNotices × List ConnectState
  | .link report =>
    match port.linkDeadness.change report with
    | none => (port, [])
    | some next =>
      { port with linkDeadness := next }.LinkDeadnessChange ConnectionStabilityTimems role
        port.linkDeadness next
  | .expiry => ({ port with pConnectionStabilityTimer := port.pConnectionStabilityTimer.expire }, [])
  | .handler k =>
    match port.pConnectionStabilityTimer.queued[k]? with
    | none => (port, [])
    | some (_, completion) =>
      ({ port with pConnectionStabilityTimer := port.pConnectionStabilityTimer.take k },
        if completion = .aborted then [] else [.CONNECTED])

/-! ## What is meant -/

/-- The notices take turns, and the first one is `CONNECTED`. -/
def TakesTurn (before : List ConnectState) (notice : ConnectState) : Prop :=
  notice = if before.getLast? = some .CONNECTED then .DISCONNECTED else .CONNECTED

instance decidableTakesTurn (before : List ConnectState) (notice : ConnectState) :
    Decidable (TakesTurn before notice) :=
  inferInstanceAs (Decidable (notice = if before.getLast? = some .CONNECTED then .DISCONNECTED
    else .CONNECTED))

/-- No handler that will publish is queued when the link goes down. -/
def NoneExpired (port : LinkNotices) : NoticeStep → Prop
  | .link report =>
    port.linkDeadness = .LinkUpChannelUp → (port.linkDeadness.change report).isSome →
      ∀ entry ∈ port.pConnectionStabilityTimer.queued, entry.2 = .aborted
  | _ => True

instance decidableNoneExpired (port : LinkNotices) : ∀ input, Decidable (port.NoneExpired input)
  | .link report => inferInstanceAs (Decidable (port.linkDeadness = .LinkUpChannelUp →
      (port.linkDeadness.change report).isSome →
        ∀ entry ∈ port.pConnectionStabilityTimer.queued, entry.2 = .aborted))
  | .expiry | .handler _ => .isTrue trivial

/-! ## Every guarded run -/

variable {ConnectionStabilityTimems} {port : LinkNotices} {trace : List ConnectState}

/-- The missing return of the outstation makes no difference, since the two states differ. -/
theorem linkDeadnessChange_role (role : PortRole) {previous next : LinkDeadness}
    (differ : previous ≠ next) :
    port.LinkDeadnessChange ConnectionStabilityTimems role previous next =
      port.LinkDeadnessChange ConnectionStabilityTimems .master previous next := by
  cases role with
  | master => rfl
  | outstation =>
      unfold LinkDeadnessChange
      dsimp only
      by_cases up : next = .LinkUpChannelUp
      · have down : previous ≠ .LinkUpChannelUp := fun same => differ (same.trans up.symm)
        rw [if_pos up, if_neg down, List.append_nil, if_pos up]
      · rw [if_neg up, if_neg up]
        split <;> rfl

/-- One handler at most is still to publish `CONNECTED`, and only on a link that is up and not yet
announced. -/
structure Invariant (trace : List ConnectState) (port : LinkNotices) : Prop where
  turns : EachAfter TakesTurn [] trace
  down : port.linkDeadness ≠ .LinkUpChannelUp →
    port.pConnectionStabilityTimer.due = 0 ∧ trace.getLast? ≠ some .CONNECTED
  up : port.linkDeadness = .LinkUpChannelUp →
    port.pConnectionStabilityTimer.due = if trace.getLast? = some .CONNECTED then 0 else 1

/-- `CONNECTED` is published when it is its turn. -/
theorem Invariant.connected (turns : EachAfter TakesTurn [] trace)
    (notYet : trace.getLast? ≠ some .CONNECTED) (up : port.linkDeadness = .LinkUpChannelUp)
    (none : port.pConnectionStabilityTimer.due = 0) : Invariant (trace ++ [.CONNECTED]) port where
  turns := turns.snoc (if_neg notYet).symm
  down := fun down => absurd up down
  up := by
    intro _
    rw [List.getLast?_concat, if_pos rfl]
    exact none

/-- The link comes up. -/
theorem Invariant.notifyOfConnection (holds : Invariant trace port)
    (down : port.linkDeadness ≠ .LinkUpChannelUp) {next : LinkDeadness}
    (up : next = .LinkUpChannelUp) :
    let notified := { port with linkDeadness := next }.NotifyOfConnection ConnectionStabilityTimems
    Invariant (trace ++ notified.2) notified.1 := by
  obtain ⟨none, notYet⟩ := holds.down down
  intro notified
  by_cases timer : ConnectionStabilityTimems ≠ 0
  · have waits : notified = (⟨next, port.pConnectionStabilityTimer.arm ()⟩, []) := if_pos timer
    rw [waits, List.append_nil]
    refine ⟨holds.turns, fun still => absurd up still, fun _ => ?_⟩
    rw [if_neg notYet, WaitTimer.due_arm, WaitTimer.due_cancel]
    rw [WaitTimer.due] at none
    omega
  · have published : notified = ({ port with linkDeadness := next }, [.CONNECTED]) := if_neg timer
    rw [published]
    exact Invariant.connected holds.turns notYet up none

/-- The link goes down while no expired handler is queued. -/
theorem Invariant.notifyOfDisconnection (holds : Invariant trace port)
    (up : port.linkDeadness = .LinkUpChannelUp)
    (aborted : ∀ entry ∈ port.pConnectionStabilityTimer.queued, entry.2 = .aborted)
    {next : LinkDeadness} (down : next ≠ .LinkUpChannelUp) :
    let notified := { port with linkDeadness := next }.NotifyOfDisconnection
    Invariant (trace ++ notified.2) notified.1 := by
  obtain ⟨none, waiting⟩ := WaitTimer.due_cancel_of_aborted aborted
  have due := holds.up up
  rw [waiting] at due
  intro notified
  by_cases announced : trace.getLast? = some .CONNECTED
  · rw [if_pos announced] at due
    have published : notified.2 = [.DISCONNECTED] := if_pos due
    rw [published]
    refine ⟨holds.turns.snoc (if_pos announced).symm, fun _ => ⟨none, ?_⟩,
      fun still => absurd still down⟩
    rw [List.getLast?_concat]
    exact fun same => ConnectState.noConfusion (Option.some.inj same)
  · rw [if_neg announced] at due
    have silent : notified.2 = [] := if_neg (by rw [WaitTimer.aborts, due]; exact Nat.one_ne_zero)
    rw [silent, List.append_nil]
    exact ⟨holds.turns, fun _ => ⟨none, announced⟩, fun still => absurd still down⟩

/-- The state of the link changes. -/
theorem Invariant.linkDeadnessChange (holds : Invariant trace port) {next : LinkDeadness}
    (differ : port.linkDeadness ≠ next)
    (aborted : port.linkDeadness = .LinkUpChannelUp →
      ∀ entry ∈ port.pConnectionStabilityTimer.queued, entry.2 = .aborted) :
    let changed := { port with linkDeadness := next }.LinkDeadnessChange ConnectionStabilityTimems
      .master port.linkDeadness next
    Invariant (trace ++ changed.2) changed.1 := by
  unfold LinkDeadnessChange
  dsimp only
  by_cases up : next = .LinkUpChannelUp
  · rw [if_pos up]
    exact holds.notifyOfConnection (fun same => differ (same.trans up.symm)) up
  · rw [if_neg up]
    by_cases wasUp : port.linkDeadness = .LinkUpChannelUp
    · rw [if_pos wasUp]
      exact holds.notifyOfDisconnection wasUp (aborted wasUp) up
    · rw [if_neg wasUp, List.append_nil]
      exact ⟨holds.turns, fun _ => holds.down wasUp, fun still => absurd still up⟩

/-- A handler runs. -/
theorem Invariant.handler (holds : Invariant trace port) {k : Nat} {completion : Completion}
    (taken : port.pConnectionStabilityTimer.queued[k]? = some ((), completion)) :
    Invariant (trace ++ if completion = .aborted then [] else [.CONNECTED])
      { port with pConnectionStabilityTimer := port.pConnectionStabilityTimer.take k } := by
  have due := WaitTimer.due_take taken
  cases completion with
  | aborted =>
      rw [if_neg (by decide), Nat.add_zero] at due
      rw [if_pos rfl, List.append_nil]
      refine ⟨holds.turns, fun down => ?_, fun up => ?_⟩
      · rw [due]
        exact holds.down down
      · rw [due]
        exact holds.up up
  | expired =>
      rw [if_pos rfl] at due
      rw [if_neg (by decide)]
      by_cases up : port.linkDeadness = .LinkUpChannelUp
      · have one := holds.up up
        by_cases announced : trace.getLast? = some .CONNECTED
        · rw [if_pos announced] at one
          omega
        · rw [if_neg announced] at one
          exact Invariant.connected holds.turns announced up (by dsimp only; omega)
      · have none := (holds.down up).1
        omega

/-- **Every step keeps the invariant** when no expired handler is queued as the link goes down. -/
theorem Invariant.step (holds : Invariant trace port) (role : PortRole) (input : NoticeStep)
    (none : port.NoneExpired input) :
    Invariant (trace ++ (port.step ConnectionStabilityTimems role input).2)
      (port.step ConnectionStabilityTimems role input).1 := by
  unfold LinkNotices.step
  cases input with
  | link report =>
      dsimp only
      cases changes : port.linkDeadness.change report with
      | none =>
          rw [List.append_nil]
          exact holds
      | some next =>
          have differ := LinkDeadness.change_ne changes
          dsimp only
          rw [linkDeadnessChange_role role differ]
          exact holds.linkDeadnessChange differ fun up => none up (by rw [changes]; rfl)
  | expiry =>
      rw [List.append_nil]
      refine ⟨holds.turns, fun down => ?_, fun up => ?_⟩
      · rw [WaitTimer.due_expire]
        exact holds.down down
      · rw [WaitTimer.due_expire]
        exact holds.up up
  | handler k =>
      dsimp only
      cases taken : port.pConnectionStabilityTimer.queued[k]? with
      | none =>
          rw [List.append_nil]
          exact holds
      | some entry => exact holds.handler taken

/-- **`CONNECTED` and `DISCONNECTED` take turns**, and the last one is not `CONNECTED` on a link
that is down, when no expired handler is queued as the link goes down. -/
theorem run_takeTurns (ConnectionStabilityTimems : Nat) (role : PortRole)
    (inputs : List NoticeStep)
    (none : Guarded (step ConnectionStabilityTimems role) NoneExpired {} inputs) :
    let after := run (step ConnectionStabilityTimems role) {} inputs
    EachAfter TakesTurn [] after.2 ∧
      (after.1.linkDeadness ≠ .LinkUpChannelUp → after.2.getLast? ≠ some .CONNECTED) := by
  have start : Invariant [] {} :=
    ⟨trivial, fun _ => ⟨rfl, nofun⟩, fun up => LinkDeadness.noConfusion up⟩
  have holds := guarded_trace Invariant
    (fun _ _ input holds none => Invariant.step holds role input none) start none
  exact ⟨holds.turns, fun down => (holds.down down).2⟩

/-- A link that drops at once is not announced, and the next one is. -/
theorem run_takeTurns_twice :
    let inputs : List NoticeStep := [.link .LinkUp, .link .LinkDown, .handler 0, .link .LinkUp,
      .expiry, .handler 0, .link (.StateListener false)]
    let after := run (step 500 .outstation) {} inputs
    after.2 = [.CONNECTED, .DISCONNECTED] ∧ EachAfter TakesTurn [] after.2 :=
  ⟨by decide, (run_takeTurns 500 .outstation [.link .LinkUp, .link .LinkDown, .handler 0,
    .link .LinkUp, .expiry, .handler 0, .link (.StateListener false)] (by decide)).1⟩

/-- The link goes down after the timer has expired and before its handler runs. -/
theorem run_turnedRound :
    let after := run (step 500 .outstation) {}
      [.link .LinkUp, .expiry, .link .LinkDown, .handler 0]
    after.2 = [.DISCONNECTED, .CONNECTED] ∧ ¬EachAfter TakesTurn [] after.2 ∧
      after.1.linkDeadness = .LinkDownChannelUp ∧
      after.1.pConnectionStabilityTimer.handlers = [] ∧ after.2.getLast? = some .CONNECTED := by
  decide

end LinkNotices

end OpenDataCon.DNP3Port

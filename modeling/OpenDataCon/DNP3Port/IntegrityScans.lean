import OpenDataCon.DNP3Port.ChannelHandler
import OpenDataCon.DNP3Port.CommsRideThroughTimer

/-!
# Integrity scans after failed communications

When a ride-through ends badly, a DNP3 master marks its points as failed (`SetCommsFailed`), and
only an integrity scan makes them good again. The ride-through timer runs on one strand and the link
on another. Whether a scan is needed is decided on the second one from two flags; the marking
happens on the first one.

A ride-through that ends badly just as the link comes up may mark the points after the scan of the
new link session, and no scan is asked for again. The check that `SetCommsGood` posts is lost where
it finds the link down (`run_leftFailed`). When the points are marked only in a link session without
a scan, and a check that would be lost is not the last chance, then every IIN on a link that is up
leaves no point failed once the strands are idle (`run_refreshed`).
-/

set_option autoImplicit false

namespace OpenDataCon.DNP3Port

open Runs WaitTimers

inductive LinkUpIntegrityTrigger where
  | NEVER | ON_FIRST | ON_EVERY
deriving DecidableEq, Repr

/-- The configuration that the scans depend on; `SetQualityOnLinkStatus` is on. -/
structure ScanConf where
  LinkUpIntegrityTrigger : LinkUpIntegrityTrigger := .ON_FIRST
  IntegrityOnEventOverflowIIN : Bool := true
  IgnoreRestartIIN : Bool := false
deriving DecidableEq, Repr

/-- The two bits of an IIN that make the stack scan. -/
structure IINField where
  EVENT_BUFFER_OVERFLOW : Bool := false
  DEVICE_RESTART : Bool := false
deriving DecidableEq, Repr

/-- The stack makes an integrity scan because of the IIN. -/
def ScanConf.stackScans (conf : ScanConf) (iin : IINField) : Bool :=
  (iin.EVENT_BUFFER_OVERFLOW && conf.IntegrityOnEventOverflowIIN) ||
    (iin.DEVICE_RESTART && !conf.IgnoreRestartIIN)

/-- What is posted on the strand of the channel. -/
inductive ChannelTask where
  | link (report : LinkReport)
  /-- The check of `OnReceiveIIN`. -/
  | iin (field : IINField)
  /-- The check of `SetCommsGood`. -/
  | commsGood
  /-- The check of `EnableStack`. -/
  | enableStack
deriving DecidableEq, Repr

/-- The check of an IIN that made the stack scan. -/
def ChannelTask.stackScans (conf : ScanConf) : ChannelTask → Bool
  | .iin field => conf.stackScans field
  | _ => false

/-- A link that is up stays so. -/
def ChannelTask.keepsLink : ChannelTask → Bool
  | .link report => (LinkDeadness.LinkUpChannelUp.change report).isNone
  | _ => true

/-- What is posted on the strand of the ride-through timer. -/
inductive TimerTask where
  | Trigger | Cancel
deriving DecidableEq, Repr

/-- The link, the flags, the timer, and what is posted on the two strands. `Enable` has posted a
`Trigger`. The last field says that the points have been marked since the last scan was started. -/
structure ScanState where
  linkDeadness : LinkDeadness := .LinkDownChannelDown
  IntegrityScanNeeded : Bool := false
  IntegrityScanDone : Bool := false
  pCommsRideThroughTimer : CommsRideThroughTimer := {}
  channelStrand : List ChannelTask := []
  timerStrand : List TimerTask := [.Trigger]
  failedSinceScan : Bool := false
deriving Repr

/-- A report or an IIN from the stack, `EnableStack`, the next task of a strand, an expiry, or a
handler of one of the two timers. -/
inductive ScanStep where
  | report (report : LinkReport)
  | receiveIIN (field : IINField)
  | enableStack
  | channel
  | timer
  | expiry
  | handler (k : Nat)
  | heartBeat
deriving DecidableEq, Repr

/-- No report that takes a link down. -/
def ScanStep.keepsLink (input : ScanStep) : Bool :=
  match input with
  | .report down => (LinkDeadness.LinkUpChannelUp.change down).isNone
  | _ => true

namespace ScanState

variable (conf : ScanConf)

/-! ## The steps -/

def SetCommsGood (port : ScanState) : ScanState :=
  { port with channelStrand := port.channelStrand ++ [.commsGood] }

def SetCommsFailed (port : ScanState) : ScanState := { port with failedSinceScan := true }

/-- The callbacks of the ride-through timer. -/
def callback (port : ScanState) : RideThroughEvent → ScanState
  | .commsBad _ _ => port.SetCommsFailed
  | .commsGood => port.SetCommsGood
  | _ => port

/-- What an operation or a handler leaves behind, and the callbacks it calls. -/
def afterTimer (port : ScanState) (done : CommsRideThroughTimer × List RideThroughEvent) :
    ScanState :=
  done.2.foldl callback { port with pCommsRideThroughTimer := done.1 }

def LinkDeadnessChange (port : ScanState) (previous next : LinkDeadness) : ScanState :=
  if next = .LinkUpChannelUp then
    { port with
      timerStrand := port.timerStrand ++ [.Cancel]
      IntegrityScanNeeded :=
        port.IntegrityScanNeeded || conf.LinkUpIntegrityTrigger == .ON_EVERY }
  else if previous = .LinkUpChannelUp then
    { port with timerStrand := port.timerStrand ++ [.Trigger], IntegrityScanDone := false }
  else port

/-- The check of `OnReceiveIIN`. -/
def checkIIN (port : ScanState) (field : IINField) : ScanState :=
  if port.linkDeadness = .LinkUpChannelUp then
    let done := port.IntegrityScanDone || conf.stackScans field
    if port.IntegrityScanNeeded then
      if done then { port with IntegrityScanDone := true, IntegrityScanNeeded := false }
      else
        { port with
          IntegrityScanDone := true
          IntegrityScanNeeded := false
          failedSinceScan := false }
    else { port with IntegrityScanDone := done }
  else port

def runChannelTask (port : ScanState) : ChannelTask → ScanState
  | .link report =>
    match port.linkDeadness.change report with
    | none => port
    | some next =>
      { port with linkDeadness := next }.LinkDeadnessChange conf port.linkDeadness next
  | .iin field => port.checkIIN conf field
  | .commsGood =>
    if !port.IntegrityScanDone && port.linkDeadness == .LinkUpChannelUp then
      { port with IntegrityScanNeeded := true }
    else port
  | .enableStack =>
    if port.linkDeadness != .LinkUpChannelUp && conf.LinkUpIntegrityTrigger != .NEVER then
      { port with IntegrityScanNeeded := true }
    else port

def runTimerTask (port : ScanState) : TimerTask → ScanState
  | .Trigger => port.afterTimer port.pCommsRideThroughTimer.trigger
  | .Cancel => port.afterTimer port.pCommsRideThroughTimer.cancel

/-- The stack starts the scan that an IIN asks for when it receives it. -/
def step (port : ScanState) : ScanStep → ScanState × List Unit
  | .report report => ({ port with channelStrand := port.channelStrand ++ [.link report] }, [])
  | .receiveIIN field =>
    ({ port with
        channelStrand := port.channelStrand ++ [.link .LinkUp, .iin field]
        failedSinceScan := port.failedSinceScan && !conf.stackScans field }, [])
  | .enableStack => ({ port with channelStrand := port.channelStrand ++ [.enableStack] }, [])
  | .channel =>
    match port.channelStrand with
    | [] => (port, [])
    | task :: rest => ({ port with channelStrand := rest }.runChannelTask conf task, [])
  | .timer =>
    match port.timerStrand with
    | [] => (port, [])
    | task :: rest => ({ port with timerStrand := rest }.runTimerTask task, [])
  | .expiry => (port.afterTimer (port.pCommsRideThroughTimer.step .expiry), [])
  | .handler k => (port.afterTimer (port.pCommsRideThroughTimer.step (.handler k)), [])
  | .heartBeat => (if port.pCommsRideThroughTimer.commsIsBad then port.SetCommsFailed else port, [])

/-! ## What is meant -/

/-- Nothing is posted, and no handler of the ride-through timer is queued. -/
def Idle (port : ScanState) : Prop :=
  port.channelStrand = [] ∧ port.timerStrand = [] ∧
    port.pCommsRideThroughTimer.pCommsRideThroughTimer.queued = []

instance decidableIdle (port : ScanState) : Decidable port.Idle :=
  inferInstanceAs (Decidable (_ ∧ _ ∧ _))

/-- No scan was made in this link session, nor has the stack made one whose check is posted. -/
def NoScan (port : ScanState) : Prop :=
  port.IntegrityScanDone = false ∧ ∀ task ∈ port.channelStrand, task.stackScans conf = false

instance decidableNoScan (port : ScanState) : Decidable (port.NoScan conf) :=
  inferInstanceAs (Decidable (_ ∧ _))

/-- The points are marked only in a link session without a scan; where they are marked, the check of
`SetCommsGood` finds the link up, or something else will ask for a scan. -/
def Timely (port : ScanState) : ScanStep → Prop
  | .handler k =>
    (port.pCommsRideThroughTimer.pCommsRideThroughTimer.queued[k]?).isSome →
      port.pCommsRideThroughTimer.rideThroughInProgress = true → port.NoScan conf
  | .heartBeat => port.pCommsRideThroughTimer.commsIsBad = true → port.NoScan conf
  | .channel =>
    port.channelStrand.head? = some .commsGood → port.failedSinceScan = true →
      port.linkDeadness = .LinkUpChannelUp ∨ conf.LinkUpIntegrityTrigger = .ON_EVERY ∨
        port.IntegrityScanNeeded = true ∨ port.pCommsRideThroughTimer.commsIsBad = true
  | _ => True

instance decidableTimely (port : ScanState) : ∀ input, Decidable (port.Timely conf input)
  | .handler k => inferInstanceAs (Decidable
      ((port.pCommsRideThroughTimer.pCommsRideThroughTimer.queued[k]?).isSome →
        port.pCommsRideThroughTimer.rideThroughInProgress = true → port.NoScan conf))
  | .heartBeat => inferInstanceAs (Decidable
      (port.pCommsRideThroughTimer.commsIsBad = true → port.NoScan conf))
  | .channel => inferInstanceAs (Decidable
      (port.channelStrand.head? = some .commsGood → port.failedSinceScan = true →
        port.linkDeadness = .LinkUpChannelUp ∨ conf.LinkUpIntegrityTrigger = .ON_EVERY ∨
          port.IntegrityScanNeeded = true ∨ port.pCommsRideThroughTimer.commsIsBad = true))
  | .report _ | .receiveIIN _ | .enableStack | .timer | .expiry => .isTrue trivial

/-! ## The ride-through timer -/

/-- A ride-through is in progress or has ended badly, once the tasks have run. -/
def downAfter (down : Bool) (tasks : List TimerTask) : Bool :=
  tasks.foldl (fun _ task => task == .Trigger) down

theorem downAfter_append (down : Bool) (first second : List TimerTask) :
    downAfter down (first ++ second) = downAfter (downAfter down first) second :=
  List.foldl_append

/-- A ride-through is in progress or has ended badly. -/
def down (timer : CommsRideThroughTimer) : Bool :=
  timer.rideThroughInProgress || timer.commsIsBad

/-- A ride-through in progress has not ended badly. -/
def Exclusive (timer : CommsRideThroughTimer) : Prop :=
  timer.rideThroughInProgress = true → timer.commsIsBad = false

variable {conf} {port : ScanState} {timer : CommsRideThroughTimer}

theorem trigger_spec (exclusive : Exclusive timer) :
    Exclusive timer.trigger.1 ∧ down timer.trigger.1 = true ∧
      timer.trigger.1.commsIsBad = timer.commsIsBad ∧
      port.afterTimer timer.trigger = { port with pCommsRideThroughTimer := timer.trigger.1 } := by
  unfold CommsRideThroughTimer.trigger
  split
  · next already => exact ⟨exclusive, already, rfl, rfl⟩
  · next neither =>
    refine ⟨fun _ => ?_, rfl, rfl, rfl⟩
    exact (Bool.or_eq_false_iff.mp (Bool.eq_false_iff.mpr neither)).2

/-- `Cancel` ends a ride-through in progress, or one that has ended badly. -/
theorem cancel_spec (exclusive : Exclusive timer) :
    Exclusive timer.cancel.1 ∧ down timer.cancel.1 = false ∧
      ((timer.commsIsBad = false ∧
          port.afterTimer timer.cancel = { port with pCommsRideThroughTimer := timer.cancel.1 }) ∨
        port.afterTimer timer.cancel =
          { port with
            pCommsRideThroughTimer := timer.cancel.1
            channelStrand := port.channelStrand ++ [.commsGood] }) := by
  unfold CommsRideThroughTimer.cancel
  split
  · next inProgress =>
    have notBad := exclusive inProgress
    exact ⟨fun ended => Bool.noConfusion ended, notBad, .inl ⟨notBad, rfl⟩⟩
  · next notInProgress =>
    refine ⟨fun _ => rfl, ?_, .inr rfl⟩
    exact Bool.or_eq_false_iff.mpr ⟨Bool.eq_false_iff.mpr notInProgress, rfl⟩

theorem expiry_spec :
    port.afterTimer (timer.step .expiry) =
      { port with
        pCommsRideThroughTimer :=
          { timer with pCommsRideThroughTimer := timer.pCommsRideThroughTimer.expire } } := by
  unfold CommsRideThroughTimer.step afterTimer
  dsimp only
  generalize timer.pCommsRideThroughTimer.waiting = waiting
  induction waiting with
  | nil => rfl
  | cons handler rest ih => exact ih

/-- A handler marks the points if it finds a ride-through in progress. -/
theorem handler_spec (exclusive : Exclusive timer) (k : Nat) :
    let after := (timer.step (.handler k)).1
    Exclusive after ∧ down after = down timer ∧ (timer.commsIsBad = true → after.commsIsBad = true) ∧
      (port.afterTimer (timer.step (.handler k)) = { port with pCommsRideThroughTimer := after } ∨
        (timer.pCommsRideThroughTimer.queued[k]?).isSome ∧ timer.rideThroughInProgress = true ∧
          after.commsIsBad = true ∧
          port.afterTimer (timer.step (.handler k)) =
            { port with pCommsRideThroughTimer := after, failedSinceScan := true }) := by
  unfold CommsRideThroughTimer.step
  dsimp only
  cases queued : timer.pCommsRideThroughTimer.queued[k]? with
  | none => exact ⟨exclusive, rfl, id, .inl rfl⟩
  | some entry =>
      unfold CommsRideThroughTimer.handler
      dsimp only
      split
      · next inProgress =>
        refine ⟨fun ended => Bool.noConfusion ended, ?_, fun _ => rfl,
          .inr ⟨rfl, inProgress, rfl, rfl⟩⟩
        unfold down
        rw [inProgress]
        rfl
      · exact ⟨exclusive, rfl, id, .inl rfl⟩

/-! ## What every timely step keeps -/

/-- On a link that is up the timer is idle once its tasks have run. Where the points are marked, no
scan was made in this link session, and something will ask for one. -/
structure Invariant (conf : ScanConf) (port : ScanState) : Prop where
  exclusive : Exclusive port.pCommsRideThroughTimer
  settles : port.linkDeadness = .LinkUpChannelUp →
    downAfter (down port.pCommsRideThroughTimer) port.timerStrand = false
  noScan : port.failedSinceScan = true → port.NoScan conf
  owed : port.failedSinceScan = true →
    port.IntegrityScanNeeded = true ∨
      (conf.LinkUpIntegrityTrigger = .ON_EVERY ∧ port.linkDeadness ≠ .LinkUpChannelUp) ∨
      .commsGood ∈ port.channelStrand ∨ port.pCommsRideThroughTimer.commsIsBad = true

/-- A task that is no check of an IIN that made the stack scan is posted. -/
theorem Invariant.post (holds : Invariant conf port) {task : ChannelTask}
    (noScan : task.stackScans conf = false) :
    Invariant conf { port with channelStrand := port.channelStrand ++ [task] } where
  exclusive := holds.exclusive
  settles := holds.settles
  noScan := by
    intro failed
    refine ⟨(holds.noScan failed).1, fun other member => ?_⟩
    rcases List.mem_append.mp member with before | new
    · exact (holds.noScan failed).2 other before
    · exact List.mem_singleton.mp new ▸ noScan
  owed := by
    intro failed
    rcases holds.owed failed with needed | down | posted | bad
    · exact .inl needed
    · exact .inr (.inl down)
    · exact .inr (.inr (.inl (List.mem_append_left _ posted)))
    · exact .inr (.inr (.inr bad))

theorem Invariant.receiveIIN (holds : Invariant conf port) (field : IINField) :
    Invariant conf (port.step conf (.receiveIIN field)).1 := by
  dsimp only [ScanState.step]
  cases scans : conf.stackScans field with
  | true =>
      rw [Bool.not_true, Bool.and_false]
      exact ⟨holds.exclusive, holds.settles, fun failed => Bool.noConfusion failed,
        fun failed => Bool.noConfusion failed⟩
  | false =>
      rw [Bool.not_false, Bool.and_true, List.append_cons]
      have linkUp : Invariant conf
          { port with channelStrand := port.channelStrand ++ [.link .LinkUp] } := holds.post rfl
      exact linkUp.post scans

/-- The next task of the channel has been taken; the check of `SetCommsGood` is not the last
chance. -/
theorem Invariant.taken (holds : Invariant conf port) {task : ChannelTask} {rest : List ChannelTask}
    (strand : port.channelStrand = task :: rest)
    (owed : task = .commsGood → port.failedSinceScan = true →
      port.IntegrityScanNeeded = true ∨
        (conf.LinkUpIntegrityTrigger = .ON_EVERY ∧ port.linkDeadness ≠ .LinkUpChannelUp) ∨
        port.pCommsRideThroughTimer.commsIsBad = true) :
    Invariant conf { port with channelStrand := rest } where
  exclusive := holds.exclusive
  settles := holds.settles
  noScan := by
    intro failed
    refine ⟨(holds.noScan failed).1, fun other member => (holds.noScan failed).2 other ?_⟩
    rw [strand]
    exact List.mem_cons_of_mem _ member
  owed := by
    intro failed
    rcases holds.owed failed with needed | down | posted | bad
    · exact .inl needed
    · exact .inr (.inl down)
    · rw [strand] at posted
      rcases List.mem_cons.mp posted with first | later
      · rcases owed first.symm failed with needed | down | bad
        · exact .inl needed
        · exact .inr (.inl down)
        · exact .inr (.inr (.inr bad))
      · exact .inr (.inr (.inl later))
    · exact .inr (.inr (.inr bad))

/-- The state of the link changes. -/
theorem Invariant.linkDeadnessChange (holds : Invariant conf port) (next : LinkDeadness) :
    Invariant conf ({ port with linkDeadness := next }.LinkDeadnessChange conf
      port.linkDeadness next) := by
  unfold LinkDeadnessChange
  split
  · next up =>
    refine ⟨holds.exclusive, fun _ => ?_, holds.noScan, fun failed => ?_⟩
    · rw [downAfter_append]
      rfl
    · rcases holds.owed failed with needed | ⟨every, -⟩ | posted | bad
      · exact .inl (Bool.or_eq_true_iff.mpr (.inl needed))
      · refine .inl (Bool.or_eq_true_iff.mpr (.inr ?_))
        rw [every]
        rfl
      · exact .inr (.inr (.inl posted))
      · exact .inr (.inr (.inr bad))
  · next notUp =>
    have owed (failed : port.failedSinceScan = true) :
        port.IntegrityScanNeeded = true ∨
          (conf.LinkUpIntegrityTrigger = .ON_EVERY ∧ next ≠ .LinkUpChannelUp) ∨
          .commsGood ∈ port.channelStrand ∨ port.pCommsRideThroughTimer.commsIsBad = true :=
      (holds.owed failed).imp_right fun later => later.imp_left fun every => ⟨every.1, notUp⟩
    split
    · exact ⟨holds.exclusive, fun up => absurd up notUp,
        fun failed => ⟨rfl, (holds.noScan failed).2⟩, owed⟩
    · exact ⟨holds.exclusive, fun up => absurd up notUp, holds.noScan, owed⟩

/-- The check of an IIN; where it made the stack scan, the points are not marked. -/
theorem Invariant.checkIIN (holds : Invariant conf port) {field : IINField}
    (scanned : conf.stackScans field = true → port.failedSinceScan = false) :
    Invariant conf (port.checkIIN conf field) := by
  unfold ScanState.checkIIN
  split
  · have done (failed : port.failedSinceScan = true) :
        (port.IntegrityScanDone || conf.stackScans field) = false := by
      refine Bool.or_eq_false_iff.mpr ⟨(holds.noScan failed).1, Bool.eq_false_iff.mpr ?_⟩
      intro scans
      rw [scanned scans] at failed
      cases failed
    dsimp only
    split
    · split
      · next already =>
        have notFailed (failed : port.failedSinceScan = true) : False := by
          rw [done failed] at already
          cases already
        exact ⟨holds.exclusive, holds.settles, fun failed => (notFailed failed).elim,
          fun failed => (notFailed failed).elim⟩
      · exact ⟨holds.exclusive, holds.settles, fun failed => Bool.noConfusion failed,
          fun failed => Bool.noConfusion failed⟩
    · exact ⟨holds.exclusive, holds.settles,
        fun failed => ⟨done failed, (holds.noScan failed).2⟩, holds.owed⟩
  · exact holds

/-- A check finds that a scan is needed. -/
theorem Invariant.need (holds : Invariant conf port) :
    Invariant conf { port with IntegrityScanNeeded := true } :=
  ⟨holds.exclusive, holds.settles, holds.noScan, fun _ => .inl rfl⟩

/-- The next task of the channel runs. -/
theorem Invariant.channelTask (holds : Invariant conf port) (timely : port.Timely conf .channel) :
    Invariant conf (port.step conf .channel).1 := by
  dsimp only [ScanState.step]
  cases strand : port.channelStrand with
  | nil => exact holds
  | cons task rest =>
      dsimp only
      cases task with
      | link report =>
          have taken := holds.taken strand ChannelTask.noConfusion
          dsimp only [runChannelTask]
          cases changes : port.linkDeadness.change report with
          | none => exact taken
          | some next => exact taken.linkDeadnessChange next
      | iin field =>
          have taken := holds.taken strand ChannelTask.noConfusion
          refine taken.checkIIN fun scans => Bool.eq_false_iff.mpr fun failed => ?_
          have noScan := (holds.noScan failed).2 (.iin field) (strand ▸ List.mem_cons_self)
          exact Bool.noConfusion (noScan.symm.trans scans)
      | commsGood =>
          dsimp only [runChannelTask]
          split
          · next needs =>
            exact ⟨holds.exclusive, holds.settles,
              fun failed => ⟨(holds.noScan failed).1, fun other member =>
                (holds.noScan failed).2 other (strand ▸ List.mem_cons_of_mem _ member)⟩,
              fun _ => .inl rfl⟩
          · next lost =>
            refine holds.taken strand fun _ failed => ?_
            have notUp : port.linkDeadness ≠ .LinkUpChannelUp := by
              intro up
              rw [(holds.noScan failed).1, up] at lost
              exact lost rfl
            rcases timely (by rw [strand]; rfl) failed with up | every | needed | bad
            · exact absurd up notUp
            · exact .inr (.inl ⟨every, notUp⟩)
            · exact .inl needed
            · exact .inr (.inr bad)
      | enableStack =>
          have taken := holds.taken strand ChannelTask.noConfusion
          dsimp only [runChannelTask]
          split
          · exact taken.need
          · exact taken

/-- The next task of the timer runs. -/
theorem Invariant.timerTask (holds : Invariant conf port) :
    Invariant conf (port.step conf .timer).1 := by
  dsimp only [ScanState.step]
  cases strand : port.timerStrand with
  | nil => exact holds
  | cons task rest =>
      have settles := holds.settles
      rw [strand] at settles
      dsimp only
      cases task with
      | Trigger =>
          obtain ⟨exclusive, isDown, bad, after⟩ := @trigger_spec
            { port with timerStrand := rest } _ holds.exclusive
          dsimp only [runTimerTask]
          rw [after]
          refine ⟨exclusive, fun up => ?_, holds.noScan, fun failed => ?_⟩
          · dsimp only
            rw [isDown]
            exact settles up
          · dsimp only
            rw [bad]
            exact holds.owed failed
      | Cancel =>
          obtain ⟨exclusive, isDown, after⟩ := @cancel_spec
            { port with timerStrand := rest } _ holds.exclusive
          have settled (up : port.linkDeadness = .LinkUpChannelUp) :
              downAfter (down port.pCommsRideThroughTimer.cancel.1) rest = false := by
            rw [isDown]
            exact settles up
          dsimp only [runTimerTask]
          rcases after with ⟨notBad, after⟩ | after
          · rw [after]
            refine ⟨exclusive, settled, holds.noScan, fun failed => ?_⟩
            rcases holds.owed failed with needed | every | posted | bad
            · exact .inl needed
            · exact .inr (.inl every)
            · exact .inr (.inr (.inl posted))
            · exact Bool.noConfusion (notBad.symm.trans bad)
          · rw [after]
            refine ⟨exclusive, settled, fun failed => ⟨(holds.noScan failed).1, ?_⟩, fun _ =>
              .inr (.inr (.inl (List.mem_append_right _ List.mem_cons_self)))⟩
            intro other member
            rcases List.mem_append.mp member with before | new
            · exact (holds.noScan failed).2 other before
            · exact List.mem_singleton.mp new ▸ rfl

/-- A handler runs; it marks the points only where no scan was made. -/
theorem Invariant.handler (holds : Invariant conf port) (k : Nat)
    (timely : port.Timely conf (.handler k)) :
    Invariant conf (port.step conf (.handler k)).1 := by
  obtain ⟨exclusive, isDown, bad, after⟩ := @handler_spec port _ holds.exclusive k
  have settles (up : port.linkDeadness = .LinkUpChannelUp) :
      downAfter (down (port.pCommsRideThroughTimer.step (.handler k)).1) port.timerStrand =
        false := by
    rw [isDown]
    exact holds.settles up
  dsimp only [ScanState.step]
  rcases after with after | ⟨queued, inProgress, isBad, after⟩
  · rw [after]
    refine ⟨exclusive, settles, holds.noScan, fun failed => ?_⟩
    exact (holds.owed failed).imp_right fun later => later.imp_right fun last => last.imp_right bad
  · rw [after]
    exact ⟨exclusive, settles, fun _ => timely queued inProgress, fun _ =>
      .inr (.inr (.inr isBad))⟩

/-- **Every timely step keeps the invariant.** -/
theorem Invariant.step (holds : Invariant conf port) (input : ScanStep)
    (timely : port.Timely conf input) : Invariant conf (port.step conf input).1 := by
  cases input with
  | report report => exact holds.post rfl
  | receiveIIN field => exact holds.receiveIIN field
  | enableStack => exact holds.post rfl
  | channel => exact holds.channelTask timely
  | timer => exact holds.timerTask
  | expiry =>
      dsimp only [ScanState.step]
      rw [expiry_spec]
      exact ⟨holds.exclusive, holds.settles, holds.noScan, holds.owed⟩
  | handler k => exact holds.handler k timely
  | heartBeat =>
      dsimp only [ScanState.step]
      split
      · next bad =>
        exact ⟨holds.exclusive, holds.settles, fun _ => timely bad, fun _ =>
          .inr (.inr (.inr bad))⟩
      · exact holds

/-! ## After an IIN on a link that is up -/

variable (conf) in
/-- The link stays up, and where the points are marked, an IIN that will ask for the scan is posted. -/
structure Refreshing (port : ScanState) : Prop where
  up : port.linkDeadness = .LinkUpChannelUp
  settled : port.timerStrand = [] ∧ down port.pCommsRideThroughTimer = false
  posted : ∀ task ∈ port.channelStrand, task.keepsLink = true
  asked : port.failedSinceScan = true → port.IntegrityScanNeeded = true ∧ port.NoScan conf ∧
    ∃ field, .iin field ∈ port.channelStrand

/-- A task is posted. -/
theorem Refreshing.post (holds : Refreshing conf port) {task : ChannelTask}
    (keeps : task.keepsLink = true) (noScan : task.stackScans conf = false) :
    Refreshing conf { port with channelStrand := port.channelStrand ++ [task] } where
  up := holds.up
  settled := holds.settled
  posted := by
    intro other member
    rcases List.mem_append.mp member with before | new
    · exact holds.posted other before
    · exact List.mem_singleton.mp new ▸ keeps
  asked := by
    intro failed
    obtain ⟨needed, ⟨notDone, before⟩, field, iin⟩ := holds.asked failed
    refine ⟨needed, ⟨notDone, fun other member => ?_⟩, field, List.mem_append_left _ iin⟩
    rcases List.mem_append.mp member with old | new
    · exact before other old
    · exact List.mem_singleton.mp new ▸ noScan

/-- An IIN is received. -/
theorem refreshing_receiveIIN (up : port.linkDeadness = .LinkUpChannelUp)
    (settled : port.timerStrand = [] ∧ down port.pCommsRideThroughTimer = false)
    (posted : ∀ task ∈ port.channelStrand, task.keepsLink = true)
    (asked : port.failedSinceScan = true → port.IntegrityScanNeeded = true ∧ port.NoScan conf)
    (field : IINField) : Refreshing conf (port.step conf (.receiveIIN field)).1 where
  up := up
  settled := settled
  posted := by
    intro task member
    rcases List.mem_append.mp member with before | new
    · exact posted task before
    · rcases List.mem_pair.mp new with rfl | rfl <;> rfl
  asked := by
    intro failed
    obtain ⟨before, noStackScan⟩ := Bool.and_eq_true_iff.mp failed
    obtain ⟨needed, notDone, noScan⟩ := asked before
    refine ⟨needed, ⟨notDone, fun task member => ?_⟩, field, ?_⟩
    · rcases List.mem_append.mp member with old | new
      · exact noScan task old
      · rcases List.mem_pair.mp new with rfl | rfl
        · rfl
        · exact Bool.not_inj noStackScan
    · exact List.mem_append_right _ (List.mem_pair.mpr (.inr rfl))

/-- The check of an IIN changes the flags only. -/
theorem checkIIN_frame (field : IINField) :
    (port.checkIIN conf field).linkDeadness = port.linkDeadness ∧
      (port.checkIIN conf field).timerStrand = port.timerStrand ∧
      (port.checkIIN conf field).pCommsRideThroughTimer = port.pCommsRideThroughTimer ∧
      (port.checkIIN conf field).channelStrand = port.channelStrand := by
  unfold ScanState.checkIIN
  dsimp only
  split
  · split
    · split <;> exact ⟨rfl, rfl, rfl, rfl⟩
    · exact ⟨rfl, rfl, rfl, rfl⟩
  · exact ⟨rfl, rfl, rfl, rfl⟩

/-- The check of an IIN starts the scan that is needed. -/
theorem checkIIN_refreshes (field : IINField) (up : port.linkDeadness = .LinkUpChannelUp)
    (asked : port.failedSinceScan = true → port.IntegrityScanNeeded = true ∧
      port.IntegrityScanDone = false ∧ conf.stackScans field = false) :
    (port.checkIIN conf field).failedSinceScan = false := by
  unfold ScanState.checkIIN
  dsimp only
  rw [if_pos up]
  cases failed : port.failedSinceScan with
  | true =>
      obtain ⟨needed, notDone, noStackScan⟩ := asked failed
      rw [if_pos needed, notDone, noStackScan]
      rfl
  | false =>
      split
      · split <;> rfl
      · rfl

/-- The next task of the channel runs; the check of an IIN asks for the scan. -/
theorem Refreshing.channelTask (holds : Refreshing conf port) :
    Refreshing conf (port.step conf .channel).1 := by
  dsimp only [ScanState.step]
  cases strand : port.channelStrand with
  | nil => exact holds
  | cons task rest =>
      obtain ⟨up, settled, posted, asked⟩ := holds
      rw [strand] at posted
      have postedRest : ∀ other ∈ rest, other.keepsLink = true := fun other member =>
        posted other (List.mem_cons_of_mem _ member)
      have askedRest (noIIN : ∀ field, task ≠ .iin field) (failed : port.failedSinceScan = true) :
          port.IntegrityScanNeeded = true ∧ { port with channelStrand := rest }.NoScan conf ∧
            ∃ field, .iin field ∈ rest := by
        obtain ⟨needed, ⟨notDone, noScan⟩, field, iin⟩ := asked failed
        rw [strand] at noScan iin
        refine ⟨needed, ⟨notDone, fun other member =>
          noScan other (List.mem_cons_of_mem _ member)⟩, field, ?_⟩
        exact (List.mem_cons.mp iin).resolve_left fun same => noIIN field same.symm
      dsimp only
      cases task with
      | link report =>
          have keeps : port.linkDeadness.change report = none := by
            rw [up]
            exact Option.isNone_iff_eq_none.mp (posted _ List.mem_cons_self)
          dsimp only [runChannelTask]
          rw [keeps]
          exact ⟨up, settled, postedRest, askedRest fun _ => ChannelTask.noConfusion⟩
      | iin field =>
          obtain ⟨sameLink, sameTasks, sameTimer, sameStrand⟩ :=
            @checkIIN_frame conf { port with channelStrand := rest } field
          have notFailed := @checkIIN_refreshes conf { port with channelStrand := rest } field up
            fun failed => ?_
          · refine ⟨sameLink.trans up, ?_, ?_, fun failed => ?_⟩
            · dsimp only [runChannelTask]
              rw [sameTasks, sameTimer]
              exact settled
            · dsimp only [runChannelTask]
              rw [sameStrand]
              exact postedRest
            · exact Bool.noConfusion (notFailed.symm.trans failed)
          · obtain ⟨needed, ⟨notDone, noScan⟩, -⟩ := asked failed
            exact ⟨needed, notDone, noScan (.iin field) (strand ▸ List.mem_cons_self)⟩
      | commsGood =>
          dsimp only [runChannelTask]
          split
          · refine ⟨up, settled, postedRest, fun failed => ?_⟩
            exact ⟨rfl, (askedRest (fun _ => ChannelTask.noConfusion) failed).2⟩
          · exact ⟨up, settled, postedRest, askedRest fun _ => ChannelTask.noConfusion⟩
      | enableStack =>
          have same : (port.linkDeadness != .LinkUpChannelUp) = false := by
            rw [up]
            rfl
          dsimp only [runChannelTask]
          rw [same, Bool.false_and, if_neg Bool.false_ne_true]
          exact ⟨up, settled, postedRest, askedRest fun _ => ChannelTask.noConfusion⟩

/-- Steps that do not take the link down. -/
theorem Refreshing.step (holds : Refreshing conf port) (input : ScanStep)
    (keeps : input.keepsLink = true) : Refreshing conf (port.step conf input).1 := by
  have notInProgress := (Bool.or_eq_false_iff.mp holds.settled.2).1
  have notBad := (Bool.or_eq_false_iff.mp holds.settled.2).2
  cases input with
  | report report => exact holds.post keeps rfl
  | receiveIIN field =>
      exact refreshing_receiveIIN holds.up holds.settled holds.posted
        (fun failed => ⟨(holds.asked failed).1, (holds.asked failed).2.1⟩) field
  | enableStack => exact holds.post rfl rfl
  | channel => exact holds.channelTask
  | timer =>
      dsimp only [ScanState.step]
      rw [holds.settled.1]
      exact holds
  | expiry =>
      dsimp only [ScanState.step]
      rw [expiry_spec]
      exact ⟨holds.up, holds.settled, holds.posted, holds.asked⟩
  | handler k =>
      have exclusive : Exclusive port.pCommsRideThroughTimer := fun inProgress =>
        Bool.noConfusion (notInProgress.symm.trans inProgress)
      obtain ⟨-, isDown, -, after⟩ := @handler_spec port _ exclusive k
      dsimp only [ScanState.step]
      rcases after with after | ⟨-, inProgress, -⟩
      · rw [after]
        exact ⟨holds.up, ⟨holds.settled.1, isDown.trans holds.settled.2⟩, holds.posted, holds.asked⟩
      · exact Bool.noConfusion (notInProgress.symm.trans inProgress)
  | heartBeat =>
      dsimp only [ScanState.step]
      rw [notBad]
      exact holds

/-- **No point is left failed on a healthy link.** From a state in which the strands are idle and
the link is up, once an IIN has been received, every state in which the strands are idle again, with
the link up throughout, is one where the last scan was started after the last marking. -/
theorem run_refreshed (conf : ScanConf) (inputs : List ScanStep)
    (timely : Guarded (step conf) (Timely conf) {} inputs) :
    let port := (run (step conf) {} inputs).1
    port.Idle → port.linkDeadness = .LinkUpChannelUp →
      ∀ field later, (∀ input ∈ later, input.keepsLink = true) →
        let after := (run (step conf) port (.receiveIIN field :: later)).1
        after.Idle → after.failedSinceScan = false := by
  intro port idle up field later keeps after idleAfter
  have start : Invariant conf {} :=
    ⟨fun inProgress => Bool.noConfusion inProgress, fun up => LinkDeadness.noConfusion up,
      fun failed => Bool.noConfusion failed, fun failed => Bool.noConfusion failed⟩
  have holds : Invariant conf port := guarded_invariant (Invariant conf)
    (fun _ input holds timely => holds.step input timely) start timely
  have settled : down port.pCommsRideThroughTimer = false := by
    have settles := holds.settles up
    rw [idle.2.1] at settles
    exact settles
  have asked (failed : port.failedSinceScan = true) :
      port.IntegrityScanNeeded = true ∧ port.NoScan conf := by
    refine ⟨?_, holds.noScan failed⟩
    rcases holds.owed failed with needed | ⟨-, notUp⟩ | posted | bad
    · exact needed
    · exact absurd up notUp
    · rw [idle.1] at posted
      cases posted
    · exact Bool.noConfusion ((Bool.or_eq_false_iff.mp settled).2.symm.trans bad)
  have first := refreshing_receiveIIN up ⟨idle.2.1, settled⟩
    (fun _ member => by rw [idle.1] at member; cases member) asked field
  have guarded := (@guarded_true _ _ _ (step conf) (port.step conf (.receiveIIN field)).1
    later).and_inputs keeps
  have refreshing : Refreshing conf
      (run (step conf) (port.step conf (.receiveIIN field)).1 later).1 :=
    guarded_invariant (Refreshing conf)
      (fun _ input holds keeps => Refreshing.step holds input keeps.1) first guarded
  refine Bool.eq_false_iff.mpr fun failed => ?_
  obtain ⟨-, -, other, posted⟩ := refreshing.asked failed
  exact List.not_mem_nil (idleAfter.1 ▸ posted)

/-- A ride-through ends badly, the link comes up, and the check of `SetCommsGood` asks for the scan
that the next IIN starts. -/
theorem run_refreshed_once :
    let inputs : List ScanStep :=
      [.timer, .expiry, .handler 0, .report .LinkUp, .channel, .timer, .channel]
    let port := (run (step {}) {} inputs).1
    let after := (run (step {}) port [.receiveIIN {}, .channel, .channel]).1
    (port.Idle ∧ port.failedSinceScan = true) ∧ after.failedSinceScan = false := by
  intro inputs port after
  exact ⟨by decide, run_refreshed {} inputs (by decide) (by decide) (by decide) {}
    [.channel, .channel] (by decide) (by decide)⟩

/-- The handler of a ride-through that has expired marks the points after the scan of the new link
session. And the check of `SetCommsGood` finds that the link has gone down again, and the next
ride-through is cancelled. -/
theorem run_leftFailed :
    let every : ScanConf := { LinkUpIntegrityTrigger := .ON_EVERY }
    let late := (run (step every) {} [.timer, .expiry, .receiveIIN {}, .channel, .channel,
      .handler 0, .timer, .channel]).1
    let never : ScanConf := { LinkUpIntegrityTrigger := .NEVER }
    let lost := (run (step never) {} [.timer, .expiry, .handler 0, .report .LinkUp, .channel,
      .report .LinkDown, .timer, .channel, .channel, .timer, .report .LinkUp, .channel, .timer,
      .handler 0]).1
    let lateAfter := (run (step every) late [.receiveIIN {}, .channel, .channel]).1
    let lostAfter := (run (step never) lost [.receiveIIN {}, .channel, .channel]).1
    (late.Idle ∧ late.linkDeadness = .LinkUpChannelUp ∧ lateAfter.Idle ∧
      lateAfter.failedSinceScan = true) ∧
    lost.Idle ∧ lost.linkDeadness = .LinkUpChannelUp ∧ lostAfter.Idle ∧
      lostAfter.failedSinceScan = true := by
  decide

end ScanState

end OpenDataCon.DNP3Port

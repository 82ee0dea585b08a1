import Mathlib.Data.Rat.Defs
import OpenDataCon.Connectors.MultiCallback
import OpenDataCon.Foundations.Runs
import OpenDataCon.ModbusPort.PointConf

/-!
# The tables of a Modbus outstation

An outstation keeps the values of events in tables with as many cells as there are points. The
register of an event is looked up by its index, but its value is stored at the index itself, and
the answer takes register 0 for one that was not found and one that was not found for any other.

So an event is stored where it belongs, and answered as it is to be, exactly when its index is an
address that is configured without an offset, below the number of points, and the register that is
found first is not register 0 (`run_stored_iff`).
-/

set_option autoImplicit false

namespace OpenDataCon.ModbusPort

open Connectors Runs

/-! ## The port -/

/-- The first register with an index of 16 bits, or -1. -/
def findIndex (groups : List ModbusReadGroup) (index : Nat) : Int :=
  let found := groups.findSome? fun group =>
    (List.range' group.start (group.bound - group.start)).find? fun register =>
      decide ((register + group.indexOffset.toNat) % 2 ^ 32 = index % 65536)
  match found with
  | some register => register
  | none => -1

/-- A value that is stored at an address of a table. -/
structure Store where
  table : ModbusTable
  address : Nat
  value : BitVec 16
deriving DecidableEq, Repr

/-- An event; a double comes as it is after scaling. -/
inductive PortEvent where
  | analog (index : Nat) (scaledFloat : Rat)
  | binary (index : Nat) (value : Bool)
  | other

structure ModbusOutstationPort where
  conf : ModbusPointConf
  enabled : Bool := true
  cells : ModbusTable → Nat → BitVec 16 := fun _ _ => 0#16

/-- A double cut to an integer of 16 bits. -/
def toInt16 (scaledFloat : Rat) : BitVec 16 := BitVec.ofInt 16 (scaledFloat.num.tdiv scaledFloat.den)

/-- A double has a value of 16 bits. -/
def InInt16 (scaledFloat : Rat) : Prop := -32768 ≤ scaledFloat ∧ scaledFloat ≤ 32767

namespace ModbusOutstationPort

/-- A store changes a cell of its table if the address lies inside. -/
def store (port : ModbusOutstationPort) (entry : Store) : ModbusOutstationPort :=
  if entry.address < total (port.conf.groups entry.table) then
    { port with
      cells := fun table address =>
        if table = entry.table ∧ address = entry.address then entry.value
        else port.cells table address }
  else port

/-- The answer to an event, by what the last look-up gave. -/
def statusOf (mapIndex : Int) : CommandStatus := if mapIndex = 0 then .NOT_SUPPORTED else .SUCCESS

/-- Look an index up in two tables, and store a value. -/
def load (port : ModbusOutstationPort) (inputs outputs : ModbusTable) (index : Nat)
    (value : BitVec 16) : List Store × CommandStatus :=
  let mapIndex := findIndex (port.conf.groups inputs) index
  if 0 ≤ mapIndex then ([⟨inputs, index, value⟩], statusOf mapIndex)
  else
    let mapIndex := findIndex (port.conf.groups outputs) index
    (if 0 ≤ mapIndex then [⟨outputs, index, value⟩] else [], statusOf mapIndex)

def event (port : ModbusOutstationPort) (event : PortEvent) : List Store × CommandStatus :=
  if port.enabled = false then ([], .UNDEFINED)
  else
    match event with
    | .analog index scaledFloat =>
      if 32767 < scaledFloat ∨ scaledFloat < -32768 then ([], .OUT_OF_RANGE)
      else port.load .inputRegisters .registers index (toInt16 scaledFloat)
    | .binary index value => port.load .inputBits .bits index (if value then 1#16 else 0#16)
    | .other => ([], .NOT_SUPPORTED)

/-- An event that was handled, with the port before and after it. -/
structure Handled where
  event : PortEvent
  before : ModbusOutstationPort
  after : ModbusOutstationPort
  stores : List Store
  status : CommandStatus

inductive Input where
  | event (event : PortEvent)
  | setEnabled (enabled : Bool)

def step (port : ModbusOutstationPort) : Input → ModbusOutstationPort × List Handled
  | .event event =>
    let handled := port.event event
    let after := handled.1.foldl store port
    (after, [⟨event, port, after, handled.1, handled.2⟩])
  | .setEnabled enabled => ({ port with enabled }, [])

end ModbusOutstationPort

/-! ## What is to be stored -/

namespace ModbusPointConf

/-- A configured register with the index of an event: their difference is the offset. -/
def Indexed (conf : ModbusPointConf) (table : ModbusTable) (register index : Nat) : Prop :=
  ∃ group ∈ conf.groups table, group.Has register ∧
    (index : Int) = register + group.indexOffset.toInt

end ModbusPointConf

namespace ModbusOutstationPort.Handled

/-- One cell has changed, the one of the register. -/
structure StoredAt (handled : Handled) (table : ModbusTable) (register : Nat)
    (value : BitVec 16) : Prop where
  stores : handled.stores = [⟨table, register, value⟩]
  inside : register < total (handled.before.conf.groups table)
  cells : ∀ other address, handled.after.cells other address =
    if other = table ∧ address = register then value else handled.before.cells other address
  status : handled.status = .SUCCESS

/-- No cell has changed. -/
structure NotStored (handled : Handled) : Prop where
  stores : handled.stores = []
  cells : handled.after.cells = handled.before.cells
  status : handled.status = .NOT_SUPPORTED

/-- An event is stored in a register with its index, if there is one. -/
def StoredIn (handled : Handled) (inputs outputs : ModbusTable) (index : Nat)
    (value : BitVec 16) : Prop :=
  (∃ table register, (table = inputs ∨ table = outputs) ∧
    handled.before.conf.Indexed table register index ∧ handled.StoredAt table register value) ∨
  (∀ table register, table = inputs ∨ table = outputs →
    ¬handled.before.conf.Indexed table register index) ∧ handled.NotStored

/-- What is to be done with analog values of 16 bits and with binary values. -/
def Right (handled : Handled) : Prop :=
  match handled.event with
  | .analog index scaledFloat => InInt16 scaledFloat →
    handled.StoredIn .inputRegisters .registers index (toInt16 scaledFloat)
  | .binary index value =>
    handled.StoredIn .inputBits .bits index (if value then 1#16 else 0#16)
  | .other => True

end ModbusOutstationPort.Handled

/-! ## When it is stored -/

/-- A register of a group has an index, in 32-bit numbers. -/
def ModbusReadGroup.At (group : ModbusReadGroup) (register index : Nat) : Prop :=
  group.Has register ∧ (register + group.indexOffset.toNat) % 2 ^ 32 = index % 65536

/-- The first group with a register of an index has this register. -/
def FirstAt (groups : List ModbusReadGroup) (register index : Nat) : Prop :=
  ∃ before group after, groups = before ++ group :: after ∧ group.At register index ∧
    ∀ other ∈ before, ∀ register, ¬other.At register index

/-- An index is an address without an offset, inside the table, and not taken for register 0. -/
structure InPlace (conf : ModbusPointConf) (table : ModbusTable) (index : Nat) : Prop where
  configured : ∃ group ∈ conf.groups table, group.Has index ∧ group.indexOffset = 0#32
  inside : index < total (conf.groups table)
  not_zero : ∃ register, register ≠ 0 ∧ FirstAt (conf.groups table) register index

/-- The index is in place in the first of two tables that has it. -/
def InPlaceOf (conf : ModbusPointConf) (inputs outputs : ModbusTable) (index : Nat) : Prop :=
  InPlace conf inputs index ∨
    (∀ register, ¬FirstAt (conf.groups inputs) register index) ∧ InPlace conf outputs index

/-- The events that are stored as they are to be. -/
def ModbusOutstationPort.Stores (port : ModbusOutstationPort) : Input → Prop
  | .event (.analog index scaledFloat) => InInt16 scaledFloat →
    port.enabled = true ∧ InPlaceOf port.conf .inputRegisters .registers index
  | .event (.binary index _) => port.enabled = true ∧ InPlaceOf port.conf .inputBits .bits index
  | .event .other => True
  | .setEnabled _ => True

/-! ## Look-ups -/

section FindIndex

variable {groups : List ModbusReadGroup} {index : Nat}

/-- A group has at most one register with an index. -/
theorem ModbusReadGroup.At.unique {group : ModbusReadGroup} (fits : group.Fits)
    {first second : Nat} (one : group.At first index) (other : group.At second index) :
    first = second := by
  have limit := fits.addresses
  obtain ⟨⟨_, firstBelow⟩, firstSame⟩ := one
  obtain ⟨⟨_, secondBelow⟩, secondSame⟩ := other
  have small := group.indexOffset.isLt
  omega

/-- The look-up in one group. -/
theorem find_at_iff {group : ModbusReadGroup} (fits : group.Fits) (register : Nat) :
    ((List.range' group.start (group.bound - group.start)).find? fun register =>
        decide ((register + group.indexOffset.toNat) % 2 ^ 32 = index % 65536)) = some register ↔
      group.At register index := by
  have count : group.bound - group.start = group.count := by
    rw [fits.bound_eq, Nat.add_sub_cancel_left]
  have found_at : ∀ {found}, ((List.range' group.start group.count).find? fun register =>
      decide ((register + group.indexOffset.toNat) % 2 ^ 32 = index % 65536)) = some found →
      group.At found index := by
    intro found here
    have passes := List.find?_some here
    exact ⟨List.mem_range'_1.mp (List.mem_of_find?_eq_some here), of_decide_eq_true passes⟩
  rw [count]
  constructor
  · exact found_at
  · intro here
    cases found : (List.range' group.start group.count).find? fun register =>
        decide ((register + group.indexOffset.toNat) % 2 ^ 32 = index % 65536) with
    | none =>
        have missing := List.find?_eq_none.mp found register (List.mem_range'_1.mpr here.1)
        exact absurd (decide_eq_true here.2) missing
    | some other => rw [(found_at found).unique fits here]

theorem find_at_eq_none_iff {group : ModbusReadGroup} (fits : group.Fits) :
    ((List.range' group.start (group.bound - group.start)).find? fun register =>
        decide ((register + group.indexOffset.toNat) % 2 ^ 32 = index % 65536)) = none ↔
      ∀ register, ¬group.At register index := by
  rw [Option.eq_none_iff_forall_ne_some]
  exact forall_congr' fun register => not_congr (find_at_iff fits register)

/-- **The look-up finds the register of the first group that has one**, or none has. -/
theorem findIndex_cases (fits : ∀ group ∈ groups, group.Fits) :
    (∃ register, FirstAt groups register index ∧ findIndex groups index = (register : Nat)) ∨
      (∀ register, ¬FirstAt groups register index) ∧ findIndex groups index = -1 := by
  cases found : groups.findSome? fun group =>
      (List.range' group.start (group.bound - group.start)).find? fun register =>
        decide ((register + group.indexOffset.toNat) % 2 ^ 32 = index % 65536) with
  | some register =>
      left
      obtain ⟨before, group, after, same, here, none_before⟩ := List.findSome?_eq_some_iff.mp found
      have group_fits : group.Fits := fits group (by simp [same])
      refine ⟨register, ⟨before, group, after, same, (find_at_iff group_fits register).mp here, ?_⟩,
        by rw [findIndex, found]⟩
      intro other member
      have other_fits : other.Fits := fits other (by simp [same, member])
      exact (find_at_eq_none_iff other_fits).mp (none_before other member)
  | none =>
      right
      refine ⟨?_, by rw [findIndex, found]⟩
      rintro register ⟨before, group, after, rfl, here, -⟩
      have inside : group ∈ before ++ group :: after := by simp
      have missing := List.findSome?_eq_none_iff.mp found group inside
      exact (find_at_eq_none_iff (fits group inside)).mp missing register here

theorem findIndex_of_firstAt (fits : ∀ group ∈ groups, group.Fits) {register : Nat}
    (first : FirstAt groups register index) : findIndex groups index = register := by
  obtain ⟨before, group, after, rfl, here, none_before⟩ := first
  have group_fits : group.Fits := fits group (by simp)
  have found := List.findSome?_eq_some_iff.mpr
    ⟨before, group, after, rfl, (find_at_iff group_fits register).mpr here, fun other member =>
      (find_at_eq_none_iff (fits other (by simp [member]))).mpr (none_before other member)⟩
  rw [findIndex, found]

end FindIndex

theorem statusOf_eq_success {mapIndex : Int} :
    ModbusOutstationPort.statusOf mapIndex = .SUCCESS ↔ mapIndex ≠ 0 := by
  rw [ModbusOutstationPort.statusOf]
  split
  · next zero => exact iff_of_false (by decide) (not_not.mpr zero)
  · next other => exact iff_of_true rfl other

theorem toInt_eq_zero_iff (offset : BitVec 32) : offset.toInt = 0 ↔ offset = 0#32 := by
  rw [← BitVec.toInt_inj]
  rfl

namespace ModbusOutstationPort

section Loading

variable (port : ModbusOutstationPort) {event : PortEvent} {inputs outputs : ModbusTable}
  {index : Nat} {value : BitVec 16}

theorem store_inside {entry : Store}
    (inside : entry.address < total (port.conf.groups entry.table)) (table : ModbusTable)
    (address : Nat) :
    (port.store entry).cells table address =
      if table = entry.table ∧ address = entry.address then entry.value
      else port.cells table address := by
  rw [store, if_pos inside]

/-- **A value is stored at the index** of an event whose register is found in a table. -/
theorem storedIn_iff_inPlace (fits : port.conf.Fits) {table : ModbusTable}
    (which : table = inputs ∨ table = outputs) {register : Nat}
    (first : FirstAt (port.conf.groups table) register index) :
    Handled.StoredIn ⟨event, port, [⟨table, index, value⟩].foldl store port,
        [⟨table, index, value⟩], statusOf register⟩ inputs outputs index value ↔
      InPlace port.conf table index := by
  constructor
  · rintro (⟨other, address, _, ⟨group, member, has, same⟩, stored⟩ | ⟨_, nothing⟩)
    · obtain ⟨rfl, rfl, -⟩ := Store.mk.inj (List.cons.inj stored.stores).1
      have offset : group.indexOffset.toInt = 0 := by omega
      refine ⟨⟨group, member, has, (toInt_eq_zero_iff _).mp offset⟩, stored.inside, register, ?_,
        first⟩
      have success := statusOf_eq_success.mp stored.status
      exact fun zero => success (congrArg Nat.cast zero)
    · cases nothing.stores
  · rintro ⟨⟨group, member, has, zero⟩, inside, other, positive, also⟩
    have same : (register : Int) = other := by
      rw [← findIndex_of_firstAt (fits table) first, findIndex_of_firstAt (fits table) also]
    refine .inl ⟨table, index, which, ⟨group, member, has, ?_⟩, rfl, inside, ?_, ?_⟩
    · rw [(toInt_eq_zero_iff _).mpr zero, add_zero]
    · exact port.store_inside inside
    · refine statusOf_eq_success.mpr ?_
      rw [same]
      exact Nat.cast_ne_zero.mpr positive

/-- A look-up that finds nothing is answered as if something was stored. -/
theorem not_storedIn_of_nothing {after : ModbusOutstationPort} {status : CommandStatus}
    (other : status ≠ .NOT_SUPPORTED) :
    ¬Handled.StoredIn ⟨event, port, after, [], status⟩ inputs outputs index value := by
  rintro (⟨_, _, _, _, stored⟩ | ⟨_, nothing⟩)
  · cases stored.stores
  · exact other nothing.status

/-- **A value is stored as it is to be exactly when its index is in place.** -/
theorem load_storedIn_iff (fits : port.conf.Fits) :
    Handled.StoredIn ⟨event, port, (port.load inputs outputs index value).1.foldl store port,
        (port.load inputs outputs index value).1, (port.load inputs outputs index value).2⟩
        inputs outputs index value ↔
      InPlaceOf port.conf inputs outputs index := by
  rcases @findIndex_cases _ index (fits inputs) with ⟨register, first, found⟩ | ⟨none_, found⟩
  · have loaded : port.load inputs outputs index value =
        ([⟨inputs, index, value⟩], statusOf register) := by
      rw [load, found]
      exact if_pos (Int.natCast_nonneg register)
    rw [loaded, storedIn_iff_inPlace port fits (.inl rfl) first, InPlaceOf, or_iff_left]
    rintro ⟨missing, -⟩
    exact missing register first
  · have not_inputs : ¬InPlace port.conf inputs index := by
      rintro ⟨-, -, register, -, first⟩
      exact none_ register first
    rw [InPlaceOf, or_iff_right not_inputs, and_iff_right none_]
    rcases @findIndex_cases _ index (fits outputs) with
      ⟨register, first, second⟩ | ⟨missing, second⟩
    · have loaded : port.load inputs outputs index value =
          ([⟨outputs, index, value⟩], statusOf register) := by
        rw [load, found, second]
        simp
      rw [loaded]
      exact storedIn_iff_inPlace port fits (.inr rfl) first
    · have loaded : port.load inputs outputs index value = ([], .SUCCESS) := by
        rw [load, found, second]
        rfl
      rw [loaded]
      refine iff_of_false (not_storedIn_of_nothing port (by decide)) ?_
      rintro ⟨-, -, register, -, first⟩
      exact missing register first

end Loading

/-! ## Runs -/

theorem step_conf (port : ModbusOutstationPort) (input : Input) :
    (port.step input).1.conf = port.conf := by
  have stored : ∀ (entries : List Store) (port : ModbusOutstationPort),
      (entries.foldl store port).conf = port.conf := by
    intro entries
    induction entries with
    | nil =>
        intro port
        rfl
    | cons entry rest ih =>
        intro port
        rw [List.foldl_cons, ih, store]
        split
        · rfl
        · rfl
  cases input with
  | event event => exact stored _ port
  | setEnabled enabled => rfl

/-- One event is handled right exactly when it is one that is stored as it is to be. -/
theorem step_right_iff {port : ModbusOutstationPort} (fits : port.conf.Fits) (input : Input) :
    (∀ handled ∈ (port.step input).2, handled.Right) ↔ port.Stores input := by
  cases input with
  | setEnabled enabled => exact iff_of_true (by rintro _ ⟨⟩) trivial
  | event event =>
      rw [step, List.forall_mem_singleton]
      cases event with
      | other => exact iff_of_true trivial trivial
      | analog index scaledFloat =>
          refine forall_congr' fun small => ?_
          cases working : port.enabled with
          | false =>
              rw [ModbusOutstationPort.event, if_pos working]
              exact iff_of_false (not_storedIn_of_nothing port (by decide))
                fun stores => by cases stores.1
          | true =>
              have inside : ¬(32767 < scaledFloat ∨ scaledFloat < -32768) := by
                rw [not_or, Rat.not_lt, Rat.not_lt]
                exact small.symm
              rw [ModbusOutstationPort.event, if_neg (by simp [working]), if_neg inside,
                load_storedIn_iff port fits]
              exact (and_iff_right rfl).symm
      | binary index value =>
          cases working : port.enabled with
          | false =>
              rw [ModbusOutstationPort.event, if_pos working]
              exact iff_of_false (not_storedIn_of_nothing port (by decide))
                fun stores => by
                  rw [Stores, working] at stores
                  cases stores.1
          | true =>
              rw [ModbusOutstationPort.event, if_neg (by simp [working]), Stores, working,
                and_iff_right rfl]
              exact load_storedIn_iff port fits

/-- **Every event of a run is stored where it belongs**, and answered as it is to be, exactly when
the run is one of events that come in place while the port is enabled. -/
theorem run_stored_iff (port : ModbusOutstationPort) (fits : port.conf.Fits)
    (inputs : List Input) :
    (∀ handled ∈ (run step port inputs).2, handled.Right) ↔ Guarded step Stores port inputs :=
  outputs_iff_guarded (fun port : ModbusOutstationPort => port.conf.Fits)
    (fun port input fits => (port.step_conf input).symm ▸ fits)
    (fun _ input fits => step_right_iff fits input) fits inputs

theorem singleton_fits {start count : Nat} {offset : BitVec 32} (some_point : 0 < count)
    (addresses : start + count ≤ 65536) :
    ModbusPointConf.Fits ⟨[], [], [], [⟨start, count, 0, offset⟩]⟩ := by
  intro table group member
  cases table with
  | inputRegisters =>
      obtain rfl := List.mem_singleton.mp member
      exact ⟨some_point, addresses⟩
  | bits => cases member
  | inputBits => cases member
  | registers => cases member

theorem run_stored_twice :
    ModbusPointConf.Fits ⟨[], [], [], [⟨1, 3, 0, 0#32⟩]⟩ ∧
      ∀ handled ∈ (run step { conf := ⟨[], [], [], [⟨1, 3, 0, 0#32⟩]⟩ }
        [.event (.analog 1 50), .event (.analog 2 (-7))]).2, handled.Right := by
  have fits := @singleton_fits 1 3 0#32 (by decide) (by decide)
  refine ⟨fits, (run_stored_iff { conf := ⟨[], [], [], [⟨1, 3, 0, 0#32⟩]⟩ } fits _).mpr
    ⟨fun _ => ⟨rfl, .inl ?_⟩, fun _ => ⟨rfl, .inl ?_⟩, trivial⟩⟩
  · exact ⟨⟨_, List.mem_singleton_self _, ⟨by decide, by decide⟩, rfl⟩, by decide, 1, by decide, [],
      _, [], rfl, ⟨⟨by decide, by decide⟩, by decide⟩, by rintro _ ⟨⟩⟩
  · exact ⟨⟨_, List.mem_singleton_self _, ⟨by decide, by decide⟩, rfl⟩, by decide, 2, by decide, [],
      _, [], rfl, ⟨⟨by decide, by decide⟩, by decide⟩, by rintro _ ⟨⟩⟩

/-- A run of one event that is not stored as it is to be. -/
theorem not_right_of_not_stores {port : ModbusOutstationPort} (fits : port.conf.Fits)
    {input : Input} (apart : ¬port.Stores input) :
    ¬∀ handled ∈ (run step port [input]).2, handled.Right := by
  intro right
  rw [run_singleton] at right
  exact apart ((step_right_iff fits input).mp right)

/-- Register 5 as the only point is stored outside the table, register 0 is not taken for found, an
index that is not found is taken for stored, and with an offset of 9 register 1 is stored at the
address 10. -/
theorem run_not_stored :
    (¬∀ handled ∈ (run step { conf := ⟨[], [], [], [⟨5, 1, 0, 0#32⟩]⟩ }
        [.event (.analog 5 1)]).2, handled.Right) ∧
      (¬∀ handled ∈ (run step { conf := ⟨[], [], [], [⟨0, 2, 0, 0#32⟩]⟩ }
        [.event (.analog 0 1)]).2, handled.Right) ∧
      (¬∀ handled ∈ (run step { conf := ⟨[], [], [], [⟨0, 2, 0, 0#32⟩]⟩ }
        [.event (.binary 7 true)]).2, handled.Right) ∧
      ¬∀ handled ∈ (run step { conf := ⟨[], [], [], [⟨1, 20, 0, 9#32⟩]⟩ }
        [.event (.analog 10 1)]).2, handled.Right := by
  have small : InInt16 1 := ⟨by decide, by decide⟩
  refine ⟨?_, ?_, ?_, ?_⟩
  · refine not_right_of_not_stores (singleton_fits (by decide) (by decide)) fun stores => ?_
    rcases (stores small).2 with inputs | ⟨-, outputs⟩
    · exact absurd inputs.inside (by decide)
    · exact absurd outputs.inside (by decide)
  · refine not_right_of_not_stores (singleton_fits (by decide) (by decide)) fun stores => ?_
    rcases (stores small).2 with inputs | ⟨-, outputs⟩
    · obtain ⟨register, positive, before, group, after, same, here, -⟩ := inputs.not_zero
      have member : group ∈ before ++ group :: after := by simp
      rw [← same] at member
      obtain rfl := List.mem_singleton.mp member
      obtain ⟨⟨_, below⟩, zero⟩ := here
      change (register + 0) % 2 ^ 32 = 0 at zero
      change register < 2 at below
      omega
    · exact absurd outputs.inside (by decide)
  · refine not_right_of_not_stores (singleton_fits (by decide) (by decide)) fun stores => ?_
    rcases stores.2 with inputs | ⟨-, outputs⟩
    · exact absurd inputs.inside (by decide)
    · exact absurd outputs.inside (by decide)
  · refine not_right_of_not_stores (singleton_fits (by decide) (by decide)) fun stores => ?_
    rcases (stores small).2 with inputs | ⟨-, outputs⟩
    · obtain ⟨group, member, -, offset⟩ := inputs.configured
      obtain rfl := List.mem_singleton.mp member
      revert offset
      decide
    · exact absurd outputs.inside (by decide)

end ModbusOutstationPort

end OpenDataCon.ModbusPort

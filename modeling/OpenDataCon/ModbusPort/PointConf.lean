import Mathlib.Data.BitVec
import Mathlib.Data.List.Range

/-!
# Modbus points

The points of a Modbus port are the addresses of four tables. They are configured as ranges, each
with an offset from the addresses to the indices of events. An entry whose range starts behind its
end, or that has neither an index nor a range, is skipped.
-/

set_option autoImplicit false

namespace OpenDataCon.ModbusPort

inductive ModbusTable where
  | bits | inputBits | registers | inputRegisters
deriving DecidableEq, Repr

/-- Some addresses of one table, with their 32-bit numbers. -/
structure ModbusReadGroup where
  start : Nat
  count : Nat
  pollgroup : Nat := 0
  indexOffset : BitVec 32 := 0#32
deriving DecidableEq, Repr

namespace ModbusReadGroup

/-- The bound of every loop over a group. -/
def bound (group : ModbusReadGroup) : Nat := (group.start + group.count) % 2 ^ 32

/-- An address of the group. -/
def Has (group : ModbusReadGroup) (register : Nat) : Prop :=
  group.start ≤ register ∧ register < group.start + group.count

instance (group : ModbusReadGroup) (register : Nat) : Decidable (group.Has register) :=
  inferInstanceAs (Decidable (_ ∧ _))

/-- A group of 16-bit addresses. -/
structure Fits (group : ModbusReadGroup) : Prop where
  some_point : 0 < group.count
  addresses : group.start + group.count ≤ 65536

theorem Fits.bound_eq {group : ModbusReadGroup} (fits : group.Fits) :
    group.bound = group.start + group.count :=
  Nat.mod_eq_of_lt (Nat.lt_of_le_of_lt fits.addresses (by decide))

end ModbusReadGroup

/-- The number of points of a table. -/
def total (groups : List ModbusReadGroup) : Nat := (groups.map ModbusReadGroup.count).sum

/-! ## Configuration -/

/-- One entry of a table in the configuration, with the members that it has. -/
structure RangeEntry where
  pollGroup : Option Nat := none
  indexOffset : Option Int := none
  index : Option Nat := none
  start : Option Nat := none
  stop : Option Nat := none
deriving DecidableEq, Repr

/-- The addresses of an entry are 16-bit numbers. -/
structure RangeEntry.Fits (entry : RangeEntry) : Prop where
  index : ∀ register ∈ entry.index, register ≤ 65535
  stop : ∀ register ∈ entry.stop, register ≤ 65535

/-- The group of an entry. -/
def RangeEntry.group (entry : RangeEntry) : Option ModbusReadGroup :=
  let pollgroup := entry.pollGroup.getD 0
  let offset := BitVec.ofInt 32 (entry.indexOffset.getD 0)
  match entry.index, entry.start, entry.stop with
  | some index, _, _ => some ⟨index, 1, pollgroup, offset⟩
  | none, some start, some stop =>
    if start > stop then none else some ⟨start, (stop - start + 1) % 2 ^ 32, pollgroup, offset⟩
  | none, _, _ => none

def processReadGroup (ranges : List RangeEntry) : List ModbusReadGroup :=
  ranges.filterMap RangeEntry.group

/-- The ranges of the four tables. -/
structure ModbusPointConf where
  bitIndicies : List ModbusReadGroup := []
  inputBitIndicies : List ModbusReadGroup := []
  regIndicies : List ModbusReadGroup := []
  inputRegIndicies : List ModbusReadGroup := []

namespace ModbusPointConf

/-- The configuration from the entries of each table. -/
def processElements (entries : ModbusTable → List RangeEntry) : ModbusPointConf where
  bitIndicies := processReadGroup (entries .bits)
  inputBitIndicies := processReadGroup (entries .inputBits)
  regIndicies := processReadGroup (entries .registers)
  inputRegIndicies := processReadGroup (entries .inputRegisters)

def groups (conf : ModbusPointConf) : ModbusTable → List ModbusReadGroup
  | .bits => conf.bitIndicies
  | .inputBits => conf.inputBitIndicies
  | .registers => conf.regIndicies
  | .inputRegisters => conf.inputRegIndicies

/-- A configured point: an address of a group of its table. -/
def Configured (conf : ModbusPointConf) (table : ModbusTable) (register : Nat) : Prop :=
  ∃ group ∈ conf.groups table, group.Has register

/-- A configuration of 16-bit addresses. -/
def Fits (conf : ModbusPointConf) : Prop := ∀ table, ∀ group ∈ conf.groups table, group.Fits

end ModbusPointConf

theorem RangeEntry.Fits.group {entry : RangeEntry} (fits : entry.Fits) {group : ModbusReadGroup}
    (made : entry.group = some group) : group.Fits := by
  rw [RangeEntry.group] at made
  split at made
  · next index given =>
    obtain rfl := Option.some.inj made
    have small := fits.index index given
    exact ⟨Nat.one_pos, Nat.succ_le_succ small⟩
  · next start stop _ _ given =>
    split at made
    · cases made
    · obtain rfl := Option.some.inj made
      have small := fits.stop stop given
      have count : (stop - start + 1) % 2 ^ 32 = stop - start + 1 := Nat.mod_eq_of_lt (by omega)
      refine ⟨?_, ?_⟩
      · dsimp only
        omega
      · dsimp only
        omega
  · cases made

/-- **A configuration of 16-bit addresses has groups of 16-bit addresses.** -/
theorem ModbusPointConf.processElements_fits {entries : ModbusTable → List RangeEntry}
    (fits : ∀ table, ∀ entry ∈ entries table, entry.Fits) : (processElements entries).Fits := by
  have each : ∀ table, ∀ group ∈ processReadGroup (entries table), group.Fits := by
    intro table group member
    obtain ⟨entry, inside, made⟩ := List.mem_filterMap.mp member
    exact (fits table entry inside).group made
  intro table
  cases table with
  | bits => exact each .bits
  | inputBits => exact each .inputBits
  | registers => exact each .registers
  | inputRegisters => exact each .inputRegisters

end OpenDataCon.ModbusPort

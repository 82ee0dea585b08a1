import Mathlib.Data.List.Pairwise
import OpenDataCon.CBPort.OutstationScan

/-!
# The bits that binary points write

A binary point is refused when its CB index or one of its bits is taken. The bits of the accepted
points are apart in both bit orders and lie in the word. A momentary contact that is refused for its
second bit leaves its first bit marked, without a point. Where this never happened, a point is
refused only for a point that is there (`run_bitsApart`); where it did, a later point is refused for
a bit that nobody has (`run_bitsApart_refused`).
-/

set_option autoImplicit false

namespace OpenDataCon.CBPort

open CBOutstation PointTable Runs

/-! ## Additions and what they write -/

/-- What is given for a binary point. -/
structure BinaryAdd where
  index : Nat
  group : Nat
  channel : Nat
  payloadLocation : PayloadLocationType
  pointType : BinaryPointType
  isSOE : Bool := false
  soeIndex : Nat := 0
deriving DecidableEq, Repr

namespace BinaryAdd

variable (add : BinaryAdd)

/-- The point that is made. -/
def point : CBBinaryPoint where
  index := add.index
  group := add.group
  channel := add.channel
  payloadLocation := add.payloadLocation
  pointType := add.pointType
  soePoint := add.isSOE
  soeIndex := add.soeIndex

/-- A group, a packet and a section of the wire, and a channel of the type. -/
structure WellFormed : Prop where
  group : add.group < 16
  onWire : add.payloadLocation.OnWire
  input : InputChannel add.pointType add.channel

instance : Decidable add.WellFormed :=
  have : Decidable (InputChannel add.pointType add.channel) :=
    inferInstanceAs (Decidable (_ ∧ _ ∧ _ ∨ _ ∧ _ ∧ _))
  decidable_of_iff
    (add.group < 16 ∧ (1 ≤ add.payloadLocation.packet ∧ add.payloadLocation.packet ≤ 16 ∧
      add.payloadLocation.position ≠ .Error) ∧ InputChannel add.pointType add.channel)
    ⟨fun h => ⟨h.1, ⟨h.2.1.1, h.2.1.2.1, h.2.1.2.2⟩, h.2.2⟩,
      fun h => ⟨h.group, ⟨h.onWire.first, h.onWire.last, h.onWire.position⟩, h.input⟩⟩

/-- The CB index of a bit of the word of the point. -/
def bitIndex (bit : Nat) : Nat := getCBBitMapIndex add.group bit add.payloadLocation

/-- The bits that the table takes for the point. -/
def taken : List Nat := takenBits add.pointType add.channel

/-- Two points of one word. -/
def SameWord (other : BinaryAdd) : Prop :=
  add.group = other.group ∧ add.payloadLocation = other.payloadLocation

/-- The point with a value and a change mark. -/
def valued (binary momentaryChangeStatus : Bool) : CBBinaryPoint :=
  { add.point with binary, momentaryChangeStatus }

@[simp] theorem valued_pointType (binary mark : Bool) :
    (add.valued binary mark).pointType = add.pointType := rfl

@[simp] theorem valued_channel (binary mark : Bool) :
    (add.valued binary mark).channel = add.channel := rfl

/-- Some values of the point set the bit of its word. -/
def Writes (isBakerDevice : Bool) (bit : Nat) : Prop :=
  ∃ binary mark, (binaryPayload isBakerDevice (add.valued binary mark)).2.getLsbD bit = true

/-- Two points of one word that write one bit, in both bit orders. -/
def Clashes (other : BinaryAdd) : Prop :=
  add.SameWord other ∧
    ∀ isBakerDevice, ∃ bit, add.Writes isBakerDevice bit ∧ other.Writes isBakerDevice bit

variable {add}

/-- A point writes its value bit, and its change bit when it is a momentary contact. -/
theorem writes_iff_own (input : InputChannel add.pointType add.channel) (isBakerDevice : Bool)
    (bit : Nat) :
    add.Writes isBakerDevice bit ↔ bit ∈ ownBits isBakerDevice add.point := by
  constructor
  · rintro ⟨binary, mark, set⟩
    by_contra outside
    have clear := (@getLsbD_binaryPayload (add.valued binary mark) isBakerDevice input).2 bit outside
    exact absurd (set.symm.trans clear) (by decide)
  · intro own
    rcases input with ⟨digital, low, high⟩ | ⟨dual, low, high⟩
    · refine ⟨true, false, ?_⟩
      have isValue : bit = valueBit isBakerDevice (add.valued true false) := by
        simpa [ownBits, valueBit, point, digital, isDualBit] using own
      rw [isValue, (getLsbD_binaryPayload isBakerDevice (.inl ⟨digital, low, high⟩)).1]
      simp [wireValue, valued, point, digital]
    · -- a value that is set on the wire, and the change mark
      have shifts : (momentaryShifts isBakerDevice add.channel).1 < 16 ∧
          (momentaryShifts isBakerDevice add.channel).2 < 16 := by
        unfold momentaryShifts
        split <;> simp <;> omega
      have isSet : wireValue (add.valued (decide (add.pointType ≠ .MCA)) true) = true := by
        by_cases inverted : add.pointType = .MCA <;> simp [wireValue, valued, point, inverted]
      refine ⟨decide (add.pointType ≠ .MCA), true, ?_⟩
      rw [binaryPayload_momentary dual, isSet, valued_channel, BitVec.getLsbD_or,
        getLsbD_optionalBit _ shifts.1, getLsbD_optionalBit _ shifts.2]
      simpa [ownBits, valued, point, dual] using own

/-- The value bit is not the change bit. -/
theorem nodup_ownBits (input : InputChannel add.pointType add.channel) (isBakerDevice : Bool) :
    (ownBits isBakerDevice add.point).Nodup := by
  unfold ownBits
  split
  · next dual =>
      rcases input with ⟨digital, -, -⟩ | ⟨-, low, high⟩
      · simp [point, digital, isDualBit] at dual
      · unfold momentaryShifts
        split <;> simp [point] <;> omega
  · exact List.nodup_singleton _

/-- **What a point writes is what the table has taken for it**, in the bit order of the device. -/
theorem writes_iff (input : InputChannel add.pointType add.channel) (isBakerDevice : Bool)
    (bit : Nat) :
    add.Writes isBakerDevice bit ↔ ∃ taken ∈ add.taken, bit = wireBit isBakerDevice taken :=
  (writes_iff_own input isBakerDevice bit).trans (@ownBits_eq isBakerDevice add.point input bit)

/-- A point writes bits of the word only. -/
theorem writes_small (input : InputChannel add.pointType add.channel) {isBakerDevice : Bool}
    {bit : Nat} (writes : add.Writes isBakerDevice bit) : bit < 12 := by
  obtain ⟨taken, mine, rfl⟩ := (writes_iff input isBakerDevice bit).mp writes
  obtain ⟨low, high⟩ := takenBits_small input taken mine
  unfold wireBit
  split <;> omega

/-- Two points that write one bit have taken one bit. -/
theorem taken_of_writes {other : BinaryAdd} (input : InputChannel add.pointType add.channel)
    (input' : InputChannel other.pointType other.channel) {isBakerDevice : Bool} {bit : Nat}
    (mine : add.Writes isBakerDevice bit) (theirs : other.Writes isBakerDevice bit) :
    ∃ taken ∈ add.taken, taken ∈ other.taken := by
  obtain ⟨first, isFirst, rfl⟩ := (writes_iff input isBakerDevice bit).mp mine
  obtain ⟨second, isSecond, same⟩ := (writes_iff input' isBakerDevice _).mp theirs
  obtain ⟨low, high⟩ := takenBits_small input first isFirst
  obtain ⟨low', high'⟩ := takenBits_small input' second isSecond
  obtain rfl := wireBit_inj low high low' high' same
  exact ⟨first, isFirst, isSecond⟩

/-- Two points of one word that have taken one bit clash. -/
theorem clashes_of_taken {other : BinaryAdd} (input : InputChannel add.pointType add.channel)
    (input' : InputChannel other.pointType other.channel) (sameWord : add.SameWord other)
    {bit : Nat} (mine : bit ∈ add.taken) (theirs : bit ∈ other.taken) : add.Clashes other :=
  ⟨sameWord, fun isBakerDevice => ⟨wireBit isBakerDevice bit,
    (writes_iff input isBakerDevice _).mpr ⟨bit, mine, rfl⟩,
    (writes_iff input' isBakerDevice _).mpr ⟨bit, theirs, rfl⟩⟩⟩

end BinaryAdd

/-! ## The check for clashes -/

section Check

variable {table : PointTable} {group channel : Nat} {payloadLocation : PayloadLocationType}
  {pointType : BinaryPointType}

/-- Taking a bit. -/
theorem takeBit_eq (table : PointTable) (cbBitIndex : Nat) :
    table.takeBit cbBitIndex =
      ({ table with binaryCBBitMap := Function.update table.binaryCBBitMap cbBitIndex true },
        !table.binaryCBBitMap cbBitIndex) := by
  unfold takeBit
  cases taken : table.binaryCBBitMap cbBitIndex with
  | false => rfl
  | true =>
      have same : Function.update table.binaryCBBitMap cbBitIndex true = table.binaryCBBitMap := by
        rw [← taken, Function.update_eq_self]
      rw [if_pos rfl, same]
      rfl

/-- The check keeps every mark. -/
theorem checkForBinaryBitClash_keeps {cbBitIndex : Nat}
    (marked : table.binaryCBBitMap cbBitIndex = true) :
    (table.checkForBinaryBitClash group channel payloadLocation pointType).1.binaryCBBitMap
      cbBitIndex = true := by
  have keeps (bits : Nat → Bool) (index : Nat) (held : bits cbBitIndex = true) :
      Function.update bits index true cbBitIndex = true := by
    rw [Function.update_apply]
    split
    · rfl
    · exact held
  simp only [checkForBinaryBitClash, takeBit_eq]
  split
  · exact keeps _ _ marked
  · split
    · exact keeps _ _ (keeps _ _ marked)
    · exact keeps _ _ marked

/-- A check that succeeds marks the bits of the point and no others. -/
theorem marks_of_accepted {cbBitIndex : Nat}
    (accepted : (table.checkForBinaryBitClash group channel payloadLocation pointType).2 = true)
    (marked : (table.checkForBinaryBitClash group channel payloadLocation
      pointType).1.binaryCBBitMap cbBitIndex = true) :
    table.binaryCBBitMap cbBitIndex = true ∨
      ∃ bit ∈ takenBits pointType channel,
        cbBitIndex = getCBBitMapIndex group bit payloadLocation := by
  have fromUpdate {bits : Nat → Bool} {index : Nat}
      (held : Function.update bits index true cbBitIndex = true) :
      bits cbBitIndex = true ∨ cbBitIndex = index := by
    rw [Function.update_apply] at held
    split at held
    · next same => exact .inr same
    · exact .inl held
  simp only [checkForBinaryBitClash, takeBit_eq] at accepted marked
  split at accepted
  · next refused =>
      rw [Bool.not_eq_true'] at refused
      exact absurd (accepted.symm.trans refused) (by decide)
  · next first =>
      rw [if_neg first] at marked
      by_cases dual : isDualBit pointType = true
      · rw [if_pos dual] at marked
        simp only [takenBits, dual, if_true, List.mem_cons, List.not_mem_nil, or_false,
          exists_eq_or_imp, exists_eq_left]
        rcases fromUpdate marked with marked | isSecond
        · rcases fromUpdate marked with before | isFirst
          · exact .inl before
          · exact .inr (.inl isFirst)
        · exact .inr (.inr isSecond)
      · rw [if_neg dual] at marked
        simp only [takenBits, dual, Bool.false_eq_true, if_false, List.mem_singleton,
          exists_eq_left]
        exact fromUpdate marked

/-- The two bits of a momentary contact have different CB indexes. -/
theorem secondIndex_ne (groupSmall : group < 16) (onWire : payloadLocation.OnWire)
    (input : InputChannel pointType channel) (dual : isDualBit pointType = true) :
    getCBBitMapIndex group (firstBit pointType channel + 1) payloadLocation ≠
      getCBBitMapIndex group (firstBit pointType channel) payloadLocation := by
  have small := takenBits_small input
  simp only [takenBits, dual, if_true] at small
  have low := (small (firstBit pointType channel) (by simp)).2
  have high := (small (firstBit pointType channel + 1) (by simp)).2
  intro same
  have bits := (getCBBitMapIndex_inj groupSmall (by omega) onWire groupSmall (by omega)
    onWire same).2.1
  omega

/-- A check that fails found a mark on a bit of the point. -/
theorem marked_of_refused (groupSmall : group < 16) (onWire : payloadLocation.OnWire)
    (input : InputChannel pointType channel)
    (refused : (table.checkForBinaryBitClash group channel payloadLocation pointType).2 = false) :
    ∃ bit ∈ takenBits pointType channel,
      table.binaryCBBitMap (getCBBitMapIndex group bit payloadLocation) = true := by
  simp only [checkForBinaryBitClash, takeBit_eq] at refused
  split at refused
  · next first =>
      refine ⟨firstBit pointType channel, ?_, by simpa using refused⟩
      unfold takenBits
      split <;> exact List.mem_cons_self
  · next first =>
      by_cases dual : isDualBit pointType = true
      · rw [if_pos dual] at refused
        refine ⟨firstBit pointType channel + 1, by simp [takenBits, dual], ?_⟩
        -- not the first bit, which was marked just before
        rwa [Bool.not_eq_false', Function.update_of_ne
          (secondIndex_ne groupSmall onWire input dual)] at refused
      · rw [if_neg dual] at refused
        exact absurd (by simpa using refused) first

/-- A check that fails on the first bit, or finds both bits of a momentary contact marked or
neither, leaves no mark. -/
theorem marks_of_refused (groupSmall : group < 16) (onWire : payloadLocation.OnWire)
    (input : InputChannel pointType channel) {cbBitIndex : Nat}
    (noMark : isDualBit pointType = true →
      table.binaryCBBitMap (getCBBitMapIndex group (firstBit pointType channel) payloadLocation) =
        false →
      table.binaryCBBitMap
        (getCBBitMapIndex group (firstBit pointType channel + 1) payloadLocation) = false)
    (refused : (table.checkForBinaryBitClash group channel payloadLocation pointType).2 = false)
    (marked : (table.checkForBinaryBitClash group channel payloadLocation
      pointType).1.binaryCBBitMap cbBitIndex = true) : table.binaryCBBitMap cbBitIndex = true := by
  simp only [checkForBinaryBitClash, takeBit_eq] at refused marked
  cases first : table.binaryCBBitMap
      (getCBBitMapIndex group (firstBit pointType channel) payloadLocation) with
  | true =>
      simp only [first, Bool.not_true, Bool.not_false, if_true] at marked
      have same : Function.update table.binaryCBBitMap
          (getCBBitMapIndex group (firstBit pointType channel) payloadLocation) true =
            table.binaryCBBitMap := by
        rw [← first, Function.update_eq_self]
      rwa [same] at marked
  | false =>
      simp only [first, Bool.not_false, Bool.not_true, Bool.false_eq_true, if_false] at refused
      by_cases dual : isDualBit pointType = true
      · rw [if_pos dual, Bool.not_eq_false', Function.update_of_ne
          (secondIndex_ne groupSmall onWire input dual), noMark dual first] at refused
        cases refused
      · rw [if_neg dual] at refused
        cases refused

end Check

/-! ## Loading binary points -/

/-- The table, and the additions that were accepted, in order. -/
structure BinaryLoad where
  table : PointTable := {}
  accepted : List BinaryAdd := []

namespace BinaryLoad

/-- Add a point; what is put out is whether it was accepted. -/
def step (load : BinaryLoad) (add : BinaryAdd) : BinaryLoad × List Bool :=
  let result := load.table.addBinaryPointToPointTable add.index add.group add.channel
    add.payloadLocation add.pointType add.isSOE add.soeIndex
  ({ table := result.1
     accepted := if result.2 then load.accepted ++ [add] else load.accepted }, [result.2])

/-- The addition leaves no mark behind: it is not refused for its second bit alone. -/
def LeavesNoMark (load : BinaryLoad) (add : BinaryAdd) : Prop :=
  isDualBit add.pointType = true →
    load.table.binary.cbPointMap (getCBPointMapIndex add.group add.channel add.payloadLocation) =
      none →
    load.table.binaryCBBitMap (add.bitIndex (firstBit add.pointType add.channel)) = false →
    load.table.binaryCBBitMap (add.bitIndex (firstBit add.pointType add.channel + 1)) = false

instance (load : BinaryLoad) (add : BinaryAdd) : Decidable (load.LeavesNoMark add) :=
  inferInstanceAs (Decidable (_ → _ → _ → _))

/-- The points of the table are the accepted ones, at their places, with their bits. -/
structure Loaded (load : BinaryLoad) : Prop where
  wellFormed : ∀ add ∈ load.accepted, add.WellFormed
  entered : ∀ add ∈ load.accepted, load.table.binary.odcPointMap add.index = some add.point
  only : ∀ index point, load.table.binary.odcPointMap index = some point →
    ∃ add ∈ load.accepted, add.index = index ∧ add.point = point
  indexed : load.table.binary.Indexed CBBinaryPoint.place
  bits : BitsLaid load.table
  apart : load.accepted.Pairwise fun first second => first.index ≠ second.index

/-- Every marked bit is one of an accepted point. -/
def MarksOwned (load : BinaryLoad) : Prop :=
  ∀ cbBitIndex, load.table.binaryCBBitMap cbBitIndex = true →
    ∃ add ∈ load.accepted, ∃ bit ∈ add.taken, cbBitIndex = add.bitIndex bit

theorem loaded_empty : Loaded {} where
  wellFormed := fun _ member => absurd member List.not_mem_nil
  entered := fun _ member => absurd member List.not_mem_nil
  only := fun _ _ found => absurd found.symm (Option.some_ne_none _)
  indexed := PointMaps.indexed_empty
  bits := (laid_empty ⟨rfl, rfl, rfl, rfl⟩).bits
  apart := List.Pairwise.nil

variable {load : BinaryLoad} {add : BinaryAdd}

/-- What an addition does: it is refused for its CB index or by the check, or it is accepted. -/
theorem step_cases (load : BinaryLoad) (add : BinaryAdd) :
    let checked := load.table.checkForBinaryBitClash add.group add.channel add.payloadLocation
      add.pointType
    ((load.table.binary.cbPointMap
        (getCBPointMapIndex add.group add.channel add.payloadLocation)).isSome = true ∧
      load.step add = (load, [false])) ∨
    (load.table.binary.cbPointMap
        (getCBPointMapIndex add.group add.channel add.payloadLocation) = none ∧
      checked.2 = false ∧
        load.step add = ({ table := checked.1, accepted := load.accepted }, [false])) ∨
    (load.table.binary.cbPointMap
        (getCBPointMapIndex add.group add.channel add.payloadLocation) = none ∧
      checked.2 = true ∧ ∃ table,
        load.step add = ({ table, accepted := load.accepted ++ [add] }, [true]) ∧
        table.binary = load.table.binary.insert
          (getCBPointMapIndex add.group add.channel add.payloadLocation) add.index add.point ∧
        table.binaryCBBitMap = checked.1.binaryCBBitMap) := by
  intro checked
  obtain ⟨bits, frame⟩ := load.table.checkForBinaryBitClash_frame add.group add.channel
    add.payloadLocation add.pointType
  by_cases taken : (load.table.binary.cbPointMap
      (getCBPointMapIndex add.group add.channel add.payloadLocation)).isSome = true
  · refine .inl ⟨taken, ?_⟩
    unfold step addBinaryPointToPointTable
    simp [taken]
  · have free : load.table.binary.cbPointMap
        (getCBPointMapIndex add.group add.channel add.payloadLocation) = none := by
      simpa using taken
    cases clear : checked.2 with
    | false =>
        refine .inr (.inl ⟨free, rfl, ?_⟩)
        unfold step addBinaryPointToPointTable
        simp only [checked] at clear ⊢
        simp [free, clear]
    | true =>
        refine .inr (.inr ⟨free, rfl, ?_⟩)
        unfold step addBinaryPointToPointTable
        simp only [checked] at clear ⊢
        simp only [free, clear, Option.isSome_none, Bool.false_eq_true, if_false, Bool.not_true,
          if_true]
        refine ⟨_, rfl, ?_, rfl⟩
        simp only [updateMaxPayload_binary, frame]
        rfl

/-- An addition with a new ODC index keeps the table loaded. -/
theorem step_loaded (loaded : load.Loaded) (wellFormed : add.WellFormed)
    (fresh : ∀ other ∈ load.accepted, other.index ≠ add.index) : (load.step add).1.Loaded := by
  have absent : load.table.binary.odcPointMap add.index = none := by
    cases found : load.table.binary.odcPointMap add.index with
    | none => rfl
    | some point =>
        obtain ⟨other, accepted, same, -⟩ := loaded.only add.index point found
        exact absurd same (fresh other accepted)
  obtain ⟨bits, frame⟩ := load.table.checkForBinaryBitClash_frame add.group add.channel
    add.payloadLocation add.pointType
  rcases load.step_cases add with ⟨-, result⟩ | ⟨-, -, result⟩ |
    ⟨free, clear, table, result, binary, marks⟩
  · rw [result]
    exact loaded
  · rw [result, frame]
    refine { loaded with bits := ⟨?_, loaded.bits.apart⟩ }
    intro index point found bit member
    have kept := @checkForBinaryBitClash_keeps load.table add.group add.channel
      add.payloadLocation add.pointType _ (loaded.bits.taken index point found bit member)
    rw [frame] at kept
    exact kept
  · rw [result]
    have entered := PointMaps.insert_odcPointMap absent
      (getCBPointMapIndex add.group add.channel add.payloadLocation) add.point
    obtain ⟨taken, frame', own, keeps⟩ := checkForBinaryBitClash_accepted clear
    refine
      { wellFormed := ?_, entered := ?_, only := ?_, indexed := ?_, bits := ?_, apart := ?_ }
    · intro other member
      rcases List.mem_append.mp member with before | new
      · exact loaded.wellFormed other before
      · rw [List.mem_singleton.mp new]
        exact wellFormed
    · intro other member
      dsimp only
      rw [binary, entered]
      rcases List.mem_append.mp member with before | new
      · exact .inr (loaded.entered other before)
      · rw [List.mem_singleton.mp new]
        exact .inl ⟨rfl, rfl⟩
    · intro index point found
      dsimp only at found
      rw [binary, entered] at found
      rcases found with ⟨rfl, rfl⟩ | before
      · exact ⟨add, List.mem_append_right _ (List.mem_singleton.mpr rfl), rfl, rfl⟩
      · obtain ⟨other, accepted, same⟩ := loaded.only index point before
        exact ⟨other, List.mem_append_left _ accepted, same⟩
    · dsimp only
      rw [binary]
      exact @PointMaps.Indexed.insert _ _ _ loaded.indexed add.index add.point free absent
    · refine loaded.bits.insert absent binary ?_ ?_
      · intro bit member
        dsimp only
        rw [marks, frame']
        exact own bit member
      · intro cbBitIndex marked
        dsimp only
        rw [marks, frame']
        exact keeps cbBitIndex marked
    · refine List.pairwise_append.mpr ⟨loaded.apart, List.pairwise_singleton _ _, ?_⟩
      intro other accepted new isNew
      rw [List.mem_singleton.mp isNew]
      exact fresh other accepted

/-- An addition that leaves no mark keeps every mark owned. -/
theorem step_marksOwned (owned : load.MarksOwned) (wellFormed : add.WellFormed)
    (noMark : load.LeavesNoMark add) : (load.step add).1.MarksOwned := by
  rcases load.step_cases add with ⟨-, result⟩ | ⟨free, refused, result⟩ |
    ⟨-, clear, table, result, -, marks⟩
  · rw [result]
    exact owned
  · rw [result]
    intro cbBitIndex marked
    exact owned cbBitIndex (marks_of_refused wellFormed.group wellFormed.onWire wellFormed.input
      (fun dual => noMark dual free) refused marked)
  · rw [result]
    intro cbBitIndex marked
    dsimp only at marked
    rw [marks] at marked
    rcases marks_of_accepted clear marked with before | ⟨bit, mine, here⟩
    · obtain ⟨other, accepted, found⟩ := owned cbBitIndex before
      exact ⟨other, List.mem_append_left _ accepted, found⟩
    · exact ⟨add, List.mem_append_right _ (List.mem_singleton.mpr rfl), bit, mine, here⟩

/-- A refusal has a cause: the CB index or a bit of an accepted point. -/
def RefusalCaused (load : BinaryLoad) (add : BinaryAdd) : Prop :=
  (load.step add).2 = [false] →
    ∃ other ∈ load.accepted,
      other.SameWord add ∧ other.channel = add.channel ∨ other.Clashes add

/-- Where every mark is owned, every refusal has a cause. -/
theorem Loaded.refusalCaused (loaded : load.Loaded) (owned : load.MarksOwned)
    (wellFormed : add.WellFormed) : load.RefusalCaused add := by
  have small {other : BinaryAdd} (wellFormed : other.WellFormed) : other.channel < 16 := by
    rcases wellFormed.input with ⟨-, -, high⟩ | ⟨-, -, high⟩ <;> omega
  intro refused
  rcases load.step_cases add with ⟨taken, -⟩ | ⟨-, clash, -⟩ | ⟨-, -, table, result, -⟩
  · -- the CB index leads to an accepted point of the group, the channel and the place
    obtain ⟨index, found⟩ := Option.isSome_iff_exists.mp taken
    obtain ⟨point, there, place⟩ := loaded.indexed.found _ index found
    obtain ⟨other, accepted, -, rfl⟩ := loaded.only index point there
    have before := loaded.wellFormed other accepted
    obtain ⟨group, channel, location⟩ := getCBBitMapIndex_inj before.group (small before)
      before.onWire wellFormed.group (small wellFormed) wellFormed.onWire place
    exact ⟨other, accepted, .inl ⟨⟨group, location⟩, channel⟩⟩
  · obtain ⟨bit, mine, marked⟩ :=
      marked_of_refused wellFormed.group wellFormed.onWire wellFormed.input clash
    obtain ⟨other, accepted, theirs, member, same⟩ := owned _ marked
    have before := loaded.wellFormed other accepted
    have fits := (takenBits_small wellFormed.input bit mine).2
    have fits' := (takenBits_small before.input theirs member).2
    obtain ⟨group, rfl, location⟩ := getCBBitMapIndex_inj wellFormed.group (by omega)
      wellFormed.onWire before.group (by omega) before.onWire same
    exact ⟨other, accepted, .inr (BinaryAdd.clashes_of_taken before.input wellFormed.input
      ⟨group.symm, location.symm⟩ member mine)⟩
  · rw [result] at refused
    cases refused

/-- The accepted points are found at their word. Each writes its own bits, which are bits of the
word, and no two of a word write the same. -/
structure BitsApart (load : BinaryLoad) : Prop where
  found : ∀ add ∈ load.accepted,
    load.table.binary.odcPointMap add.index = some add.point ∧
      add.index ∈ load.table.matchingBinaryPoints add.group add.payloadLocation
  own : ∀ add ∈ load.accepted, ∀ isBakerDevice, (ownBits isBakerDevice add.point).Nodup ∧
    ∀ bit, add.Writes isBakerDevice bit ↔ bit ∈ ownBits isBakerDevice add.point
  small : ∀ add ∈ load.accepted, ∀ isBakerDevice bit, add.Writes isBakerDevice bit → bit < 12
  apart : load.accepted.Pairwise fun first second => first.SameWord second →
    ∀ isBakerDevice bit, first.Writes isBakerDevice bit → ¬second.Writes isBakerDevice bit

theorem Loaded.bitsApart (loaded : load.Loaded) : load.BitsApart where
  found := by
    intro add accepted
    have entered := loaded.entered add accepted
    refine ⟨entered, List.mem_filterMap.mpr ⟨add.channel - 1, ?_, ?_⟩⟩
    · rw [List.mem_range]
      rcases (loaded.wellFormed add accepted).input with ⟨-, -, high⟩ | ⟨-, -, high⟩ <;> omega
    · have channel : add.channel - 1 + 1 = add.channel := by
        rcases (loaded.wellFormed add accepted).input with ⟨-, low, -⟩ | ⟨-, low, -⟩ <;> omega
      rw [channel]
      exact loaded.indexed.placed add.index add.point entered
  own := fun add accepted isBakerDevice =>
    ⟨BinaryAdd.nodup_ownBits (loaded.wellFormed add accepted).input isBakerDevice,
      BinaryAdd.writes_iff_own (loaded.wellFormed add accepted).input isBakerDevice⟩
  small := fun add accepted _ _ writes =>
    BinaryAdd.writes_small (loaded.wellFormed add accepted).input writes
  apart := by
    refine loaded.apart.imp_of_mem ?_
    intro first second isFirst isSecond distinct sameWord isBakerDevice bit mine theirs
    obtain ⟨taken, member, shared⟩ := BinaryAdd.taken_of_writes
      (loaded.wellFormed first isFirst).input (loaded.wellFormed second isSecond).input mine theirs
    exact loaded.bits.apart first.index first.point second.index second.point
      (loaded.entered first isFirst) (loaded.entered second isSecond) distinct sameWord.1
      sameWord.2 taken member shared

/-- The indexes of the accepted additions are among those of all. -/
theorem accepted_subset (load : BinaryLoad) (adds : List BinaryAdd) :
    ∀ add ∈ (run step load adds).1.accepted, add ∈ load.accepted ∨ add ∈ adds := by
  induction adds generalizing load with
  | nil => exact fun add member => .inl member
  | cons first rest ih =>
      intro add member
      rw [run_cons] at member
      rcases ih (load.step first).1 add member with before | later
      · have one : add ∈ load.accepted ∨ add = first := by
          unfold step at before
          dsimp only at before
          split at before
          · exact (List.mem_append.mp before).imp_right List.mem_singleton.mp
          · exact .inl before
        exact one.imp_right fun same => List.mem_cons.mpr (.inl same)
      · exact .inr (List.mem_cons_of_mem _ later)

/-- A run of additions with distinct ODC indexes keeps the table loaded. -/
theorem run_loaded (loaded : load.Loaded) {adds : List BinaryAdd}
    (wellFormed : ∀ add ∈ adds, add.WellFormed) (distinct : (adds.map BinaryAdd.index).Nodup)
    (fresh : ∀ add ∈ adds, ∀ other ∈ load.accepted, other.index ≠ add.index) :
    (run step load adds).1.Loaded := by
  induction adds generalizing load with
  | nil => exact loaded
  | cons first rest ih =>
      rw [List.map_cons, List.nodup_cons] at distinct
      refine ih (step_loaded loaded (wellFormed first List.mem_cons_self)
        (fresh first List.mem_cons_self))
        (fun add member => wellFormed add (List.mem_cons_of_mem _ member)) distinct.2 ?_
      intro add member other accepted
      rcases accepted_subset load [first] other accepted with before | new
      · exact fresh add (List.mem_cons_of_mem _ member) other before
      · rw [List.mem_singleton.mp new]
        intro same
        exact distinct.1 (List.mem_map.mpr ⟨add, member, same.symm⟩)

/-- **The bits of the accepted points are apart and in the word.** After a run of additions that
left no mark behind, a point is refused only for a point that is there. -/
theorem run_bitsApart (adds : List BinaryAdd) (next : BinaryAdd)
    (wellFormed : ∀ add ∈ adds ++ [next], add.WellFormed)
    (distinct : ((adds ++ [next]).map BinaryAdd.index).Nodup) :
    (run step {} (adds ++ [next])).1.BitsApart ∧
      (Guarded step LeavesNoMark {} adds → (run step {} adds).1.RefusalCaused next) := by
  have earlier : ∀ add ∈ adds, add.WellFormed := fun add member =>
    wellFormed add (List.mem_append_left _ member)
  have none : ∀ add ∈ adds ++ [next], ∀ other ∈ ({} : BinaryLoad).accepted,
      other.index ≠ add.index := fun _ _ _ member => absurd member List.not_mem_nil
  refine ⟨(run_loaded loaded_empty wellFormed distinct none).bitsApart, fun noMarks => ?_⟩
  rw [List.map_append] at distinct
  have loaded := run_loaded loaded_empty earlier distinct.of_append_left
    fun add member => none add (List.mem_append_left _ member)
  refine loaded.refusalCaused ?_ (wellFormed next (by simp))
  exact guarded_invariant MarksOwned (fun _ _ owned guard => step_marksOwned owned guard.1 guard.2)
    (fun _ marked => absurd marked Bool.false_ne_true) (noMarks.and_inputs earlier)

/-- A single point and a momentary contact of one word, and one point more. -/
theorem run_bitsApart_mixed :
    let adds : List BinaryAdd :=
      [{ index := 0, group := 3, channel := 1, payloadLocation := ⟨2, .PositionA⟩
         pointType := .DIG },
        { index := 1, group := 3, channel := 2, payloadLocation := ⟨2, .PositionA⟩
          pointType := .MCA }]
    let next : BinaryAdd :=
      { index := 2, group := 3, channel := 4, payloadLocation := ⟨2, .PositionA⟩
        pointType := .DIG }
    (run step {} (adds ++ [next])).1.accepted = adds ∧
      (run step {} (adds ++ [next])).1.BitsApart ∧ (run step {} adds).1.RefusalCaused next := by
  intro adds next
  have apart := run_bitsApart adds next (by decide) (by decide)
  exact ⟨by decide, apart.1, apart.2 (by decide)⟩

/-- A single point of channel 2 is in the way of a momentary contact of channel 1, which leaves a
mark in the way of a single point of channel 1. -/
theorem run_bitsApart_refused :
    let adds : List BinaryAdd :=
      [{ index := 0, group := 3, channel := 2, payloadLocation := ⟨2, .PositionA⟩
         pointType := .DIG },
        { index := 1, group := 3, channel := 1, payloadLocation := ⟨2, .PositionA⟩
          pointType := .MCA }]
    let next : BinaryAdd :=
      { index := 2, group := 3, channel := 1, payloadLocation := ⟨2, .PositionA⟩
        pointType := .DIG }
    (∀ add ∈ adds ++ [next], add.WellFormed) ∧ ((adds ++ [next]).map BinaryAdd.index).Nodup ∧
      ¬(run step {} adds).1.RefusalCaused next := by
  intro adds next
  refine ⟨by decide, by decide, fun caused => ?_⟩
  obtain ⟨other, accepted, cause⟩ := caused (by decide)
  have first : (run step {} adds).1.accepted = adds.take 1 := by decide
  rw [first] at accepted
  obtain rfl := List.mem_singleton.mp accepted
  rcases cause with ⟨-, channel⟩ | ⟨-, shared⟩
  · exact absurd channel (by decide)
  · obtain ⟨bit, theirs, mine⟩ := shared false
    obtain ⟨taken, isTheirs, isMine⟩ := BinaryAdd.taken_of_writes (.inl (by decide))
      (.inl (by decide)) theirs mine
    revert isTheirs isMine
    simp [BinaryAdd.taken, takenBits, firstBit, isDualBit, next]
    omega

end BinaryLoad

end OpenDataCon.CBPort

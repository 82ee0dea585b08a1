import OpenDataCon.Connectors.Transforms
import OpenDataCon.Foundations.LastValues
import Mathlib

/-!
# Mapping an index there and back

An `IndexMap` transform is built from lists `From` and `To` of one length, and an `IndexOffset`
transform from a number. The transform built from the exchanged lists, or from the negated
number, should undo the first (`MapsBack`, `ShiftsBack`).

The map has 16-bit keys and values, while an entry of the lists has 32 bits and the index of an
event 64, so an index that is too wide is taken for the one with its last 16 bits, and entries
that differ only above these bits overwrite each other. The offset transform compares with `<`
and `>`, so it drops an event whose new index is 0 or 65535. `remapping_iff` says exactly which
indices come back.
-/

set_option autoImplicit false

namespace OpenDataCon.Connectors

open LastValues

variable {D : Type} {O : EventType → Type}

/-! ## The parameters of the transforms -/

/-- The arrays of one map, as unsigned integers. -/
structure MapLists where
  From : List (BitVec 32)
  To : List (BitVec 32)

/-- The same arrays under each other's names. -/
def MapLists.swap (lists : MapLists) : MapLists := ⟨lists.To, lists.From⟩

/-- The map that arrays are loaded into, one entry after the other. Arrays of different lengths
leave it empty. -/
def MapLists.load_map (lists : MapLists) : BitVec 16 → Option (BitVec 16) :=
  if lists.From.length = lists.To.length then
    (lists.From.zip lists.To).foldl
      (fun map entry index =>
        if index = entry.1.setWidth 16 then some (entry.2.setWidth 16) else map index)
      fun _ => none
  else fun _ => none

/-- The four maps, where they are there with both arrays. -/
structure IndexMapParams where
  AnalogMap : Option MapLists
  BinaryMap : Option MapLists
  ControlMap : Option MapLists
  OctetStringMap : Option MapLists

namespace IndexMapParams

def swap (params : IndexMapParams) : IndexMapParams where
  AnalogMap := params.AnalogMap.map MapLists.swap
  BinaryMap := params.BinaryMap.map MapLists.swap
  ControlMap := params.ControlMap.map MapLists.swap
  OctetStringMap := params.OctetStringMap.map MapLists.swap

/-- The arrays for a type of events. -/
def listsFor (params : IndexMapParams) : EventType → Option MapLists
  | .Analog => params.AnalogMap
  | .Binary => params.BinaryMap
  | .ControlRelayOutputBlock => params.ControlMap
  | .OctetString => params.OctetStringMap
  | _ => none

theorem listsFor_swap (params : IndexMapParams) (type : EventType) :
    params.swap.listsFor type = (params.listsFor type).map MapLists.swap := by
  cases type <;> rfl

end IndexMapParams

/-- The map that is loaded, or an empty one. -/
def loaded : Option MapLists → BitVec 16 → Option (BitVec 16)
  | some lists => lists.load_map
  | none => fun _ => none

def IndexMapTransform.new (params : IndexMapParams) : IndexMapTransform where
  AnalogMap := loaded params.AnalogMap
  BinaryMap := loaded params.BinaryMap
  ControlMap := loaded params.ControlMap
  OctetStringMap := loaded params.OctetStringMap

/-! ## What a map does to an event -/

/-- The entries of a map, cut to 16 bits. -/
def MapLists.entries (lists : MapLists) : List (BitVec 16 × BitVec 16) :=
  if lists.From.length = lists.To.length then
    (lists.From.zip lists.To).map fun entry => (entry.1.setWidth 16, entry.2.setWidth 16)
  else []

theorem MapLists.load_map_eq (lists : MapLists) (index : BitVec 16) :
    lists.load_map index = lastFor index lists.entries := by
  rw [load_map, entries]
  by_cases sameLength : lists.From.length = lists.To.length
  · rw [if_pos sameLength, if_pos sameLength, ← Option.or_none (o := lastFor index _),
      ← foldl_assign _ fun _ : BitVec 16 => none, List.foldl_map]
  · rw [if_neg sameLength, if_neg sameLength, lastFor_nil]

theorem MapLists.entries_swap (lists : MapLists) :
    lists.swap.entries = lists.entries.map Prod.swap := by
  rw [entries, entries, swap]
  by_cases sameLength : lists.From.length = lists.To.length
  · rw [if_pos sameLength, if_pos sameLength.symm, List.map_map, ← List.zip_swap, List.map_map]
    rfl
  · rw [if_neg sameLength, if_neg fun same => sameLength same.symm, List.map_nil]

/-- An event of a type with a map gets the index that the map has for its last 16 bits. -/
theorem IndexMapTransform.event_new {params : IndexMapParams} {lists : MapLists}
    {event : EventInfo D O} (mapped : params.listsFor event.type = some lists) :
    (IndexMapTransform.new params).event event =
      (lastFor (event.index.setWidth 16) lists.entries).map fun index =>
        { event with index := index.setWidth 64 } := by
  rw [← lists.load_map_eq]
  obtain ⟨type, index, timestamp, quality, sourcePort, payload⟩ := event
  cases type
  case Analog | Binary | ControlRelayOutputBlock | OctetString =>
    have present : _ = some lists := mapped
    rw [IndexMapTransform.event, IndexMapTransform.new]
    simp only [IndexMapParams.listsFor] at present
    simp only [present, loaded]
  all_goals cases mapped

/-! ## Which indices the maps bring back -/

/-- The claim of a map and its exchange: an event whose index is in `From` comes through both
unchanged, and any other is dropped. -/
def MapsBack (params : IndexMapParams) (lists : MapLists) (event : EventInfo D O) : Prop :=
  let back := ((IndexMapTransform.new params).event event).bind
    (IndexMapTransform.new params.swap).event
  (event.index ∈ lists.From.map (BitVec.setWidth 64) → back = some event) ∧
    (event.index ∉ lists.From.map (BitVec.setWidth 64) → back = none)

/-- An index of `From` has at most 16 bits, and one entry of it has no other after it that agrees
with it, on either side, in the last 16 bits; any other index has no entry in its last 16. -/
def MapLists.Invertible (lists : MapLists) (index : BitVec 64) : Prop :=
  (index ∈ lists.From.map (BitVec.setWidth 64) → index < 65536#64 ∧
    ∃ before value after, lists.entries = before ++ (index.setWidth 16, value) :: after ∧
      ∀ later ∈ after, later.1 ≠ index.setWidth 16 ∧ later.2 ≠ value) ∧
  (index ∉ lists.From.map (BitVec.setWidth 64) →
    ∀ entry ∈ lists.entries, entry.1 ≠ index.setWidth 16)

/-- What comes out of both maps. -/
theorem maps_there_and_back {params : IndexMapParams} {lists : MapLists} {event : EventInfo D O}
    (mapped : params.listsFor event.type = some lists) :
    ((IndexMapTransform.new params).event event).bind (IndexMapTransform.new params.swap).event =
      ((lastFor (event.index.setWidth 16) lists.entries).bind fun value =>
        lastFor value (lists.entries.map Prod.swap)).map fun index =>
          { event with index := index.setWidth 64 } := by
  have exchanged : params.swap.listsFor event.type = some lists.swap := by
    rw [IndexMapParams.listsFor_swap, mapped, Option.map_some]
  rw [IndexMapTransform.event_new mapped]
  cases lastFor (event.index.setWidth 16) lists.entries with
  | none => rfl
  | some value =>
      rw [Option.map_some, Option.bind_some, Option.bind_some,
        @IndexMapTransform.event_new _ _ _ _ { event with index := value.setWidth 64 } exchanged,
        MapLists.entries_swap]
      have narrow : (value.setWidth 64).setWidth 16 = value :=
        BitVec.setWidth_setWidth_of_le value (by decide) |>.trans (BitVec.setWidth_eq value)
      dsimp only
      rw [narrow]

/-- The index is what the map sees of it exactly when it has at most 16 bits. -/
theorem setWidth_setWidth_eq_iff (index : BitVec 64) :
    (index.setWidth 16).setWidth 64 = index ↔ index < 65536#64 := by
  rw [← BitVec.toNat_inj, BitVec.lt_def]
  simp only [BitVec.toNat_setWidth, BitVec.toNat_ofNat]
  omega

theorem mapsBack_iff {params : IndexMapParams} {lists : MapLists} {event : EventInfo D O}
    (mapped : params.listsFor event.type = some lists) :
    MapsBack params lists event ↔ lists.Invertible event.index := by
  rw [MapsBack, MapLists.Invertible, maps_there_and_back mapped, ← lastFor_swap_eq_some_iff,
    ← lastFor_eq_none]
  refine and_congr (imp_congr_right fun _ => ?_) (imp_congr_right fun _ => ?_)
  · -- the index that comes out has at most 16 bits
    rw [Option.map_eq_some_iff]
    constructor
    · rintro ⟨index, found, same⟩
      have wide : index.setWidth 64 = event.index := congrArg EventInfo.index same
      have narrow : event.index.setWidth 16 = index := by
        rw [← wide, BitVec.setWidth_setWidth_of_le index (by decide), BitVec.setWidth_eq]
      rw [narrow] at found
      exact ⟨(setWidth_setWidth_eq_iff event.index).mp (narrow.symm ▸ wide), narrow.symm ▸ found⟩
    · rintro ⟨narrow, found⟩
      refine ⟨_, found, ?_⟩
      rw [(setWidth_setWidth_eq_iff event.index).mpr narrow]
  · -- whatever the map gives is in the exchanged one
    rw [Option.map_eq_none_iff]
    cases found : lastFor (event.index.setWidth 16) lists.entries with
    | none => exact iff_of_true rfl rfl
    | some value =>
        refine iff_of_false (fun gone => ?_) (fun none => by cases none)
        obtain ⟨before, after, parts, -⟩ := lastFor_eq_some_iff.mp found
        rw [Option.bind_some, lastFor_eq_none] at gone
        have member : (event.index.setWidth 16, value) ∈ lists.entries := by
          rw [parts]
          exact List.mem_append_right _ (.head _)
        exact gone _ (List.mem_map_of_mem member) rfl

/-! ## Which indices the offsets bring back -/

/-- An index and what it becomes are both 16-bit numbers. -/
def InRange (index : BitVec 64) (k : BitVec 32) : Prop :=
  index.toNat ≤ 65535 ∧ 0 ≤ (index.toNat : Int) + k.toInt ∧ (index.toNat : Int) + k.toInt ≤ 65535

/-- The claim of an offset and its negation. -/
def ShiftsBack (k : BitVec 32) (event : EventInfo D O) : Prop :=
  InRange event.index k →
    ((IndexOffsetTransform.mk k).event event).bind (IndexOffsetTransform.mk (-k)).event = some event

/-- Neither the index nor what it becomes is at an end of the range. -/
def OffTheEnds (index : BitVec 64) (k : BitVec 32) : Prop :=
  InRange index k → index.toNat ≠ 0 ∧ index.toNat ≠ 65535 ∧
    (index.toNat : Int) + k.toInt ≠ 0 ∧ (index.toNat : Int) + k.toInt ≠ 65535

/-- In range the sum of index and offset does not wrap. -/
theorem toNat_add_signExtend {index : BitVec 64} {k : BitVec 32} (inRange : InRange index k) :
    ((index + k.signExtend 64).toNat : Int) = index.toNat + k.toInt := by
  have extended : (k.signExtend 64).toInt = k.toInt := BitVec.toInt_signExtend_of_le (by decide)
  obtain ⟨small, atLeast, atMost⟩ := inRange
  rw [BitVec.toNat_add]
  rw [BitVec.toInt_eq_toNat_cond] at extended
  split at extended
  · omega
  · omega

/-- Going back is in range, and leads back. -/
theorem inRange_back {index : BitVec 64} {k : BitVec 32} (inRange : InRange index k) :
    InRange (index + k.signExtend 64) (-k) ∧
      index + k.signExtend 64 + (-k).signExtend 64 = index := by
  have moved := toNat_add_signExtend inRange
  have negated : (-k).toInt = -k.toInt := by
    refine BitVec.toInt_neg_of_ne_intMin fun isMin => ?_
    have least : k.toInt = -2147483648 := by rw [isMin]; decide
    have := inRange.1
    have := inRange.2.1
    omega
  have back : InRange (index + k.signExtend 64) (-k) := by
    obtain ⟨small, atLeast, atMost⟩ := inRange
    refine ⟨?_, ?_, ?_⟩ <;> omega
  refine ⟨back, BitVec.eq_of_toNat_eq ?_⟩
  have returned := toNat_add_signExtend back
  omega

/-- In range an offset drops what it would move to an end. -/
theorem IndexOffsetTransform.event_inRange {event : EventInfo D O} {k : BitVec 32}
    (inRange : InRange event.index k) :
    (IndexOffsetTransform.mk k).event event =
      if (event.index.toNat : Int) + k.toInt ≠ 0 ∧ (event.index.toNat : Int) + k.toInt ≠ 65535 then
        some { event with index := event.index + k.signExtend 64 }
      else none := by
  have moved := toNat_add_signExtend inRange
  obtain ⟨small, atLeast, atMost⟩ := inRange
  rw [IndexOffsetTransform.event]
  refine if_congr ?_ rfl rfl
  rw [BitVec.lt_def, gt_iff_lt, BitVec.lt_def]
  simp only [BitVec.toNat_ofNat]
  omega

theorem shiftsBack_iff (k : BitVec 32) (event : EventInfo D O) :
    ShiftsBack k event ↔ OffTheEnds event.index k := by
  refine imp_congr_right fun inRange => ?_
  obtain ⟨backInRange, leadsBack⟩ := inRange_back inRange
  have moved := toNat_add_signExtend inRange
  have returned := toNat_add_signExtend backInRange
  rw [leadsBack] at returned
  rw [IndexOffsetTransform.event_inRange inRange]
  by_cases inside :
      (event.index.toNat : Int) + k.toInt ≠ 0 ∧ (event.index.toNat : Int) + k.toInt ≠ 65535
  · rw [if_pos inside, Option.bind_some, IndexOffsetTransform.event_inRange backInRange]
    dsimp only
    rw [leadsBack, ← returned]
    by_cases home : (event.index.toNat : Int) ≠ 0 ∧ (event.index.toNat : Int) ≠ 65535
    · rw [if_pos home]
      refine iff_of_true rfl ⟨?_, ?_, inside⟩ <;> omega
    · rw [if_neg home]
      refine iff_of_false (by simp) fun off => home ⟨?_, ?_⟩ <;> omega
  · rw [if_neg inside]
    exact iff_of_false (by simp) fun off => inside off.2.2

/-! ## Both transforms -/

/-- **Exactly the narrow indices that no other entry overwrites come back through the maps, and
exactly those off the ends of the range through the offsets.** -/
theorem remapping_iff {params : IndexMapParams} {lists : MapLists} (k : BitVec 32)
    {event : EventInfo D O} (mapped : params.listsFor event.type = some lists) :
    MapsBack params lists event ∧ ShiftsBack k event ↔
      lists.Invertible event.index ∧ OffTheEnds event.index k :=
  and_congr (mapsBack_iff mapped) (shiftsBack_iff k event)

/-- A map from 3 to 7, for binaries. -/
def threeToSeven : MapLists := ⟨[3], [7]⟩

def threeToSevenParams : IndexMapParams := ⟨none, some threeToSeven, none, none⟩

def binaryAt (index : BitVec 64) : EventInfo Unit fun _ => Unit :=
  { type := .Binary, index, timestamp := 0, quality := 1, sourcePort := "source", payload := true }

theorem remapping_three :
    threeToSevenParams.listsFor (binaryAt 3).type = some threeToSeven ∧
      (MapsBack threeToSevenParams threeToSeven (binaryAt 3) ∧ ShiftsBack 2 (binaryAt 3) ↔
        threeToSeven.Invertible (binaryAt 3).index ∧ OffTheEnds (binaryAt 3).index 2) :=
  ⟨rfl, remapping_iff 2 rfl⟩

/-- **65539 is not in `From`, but comes through both maps as 3; 0 does not come back from 5.** -/
theorem remapping_wide :
    (threeToSeven.From.Nodup ∧ threeToSeven.To.Nodup ∧
      threeToSevenParams.listsFor (binaryAt 65539).type = some threeToSeven ∧
      ¬ MapsBack threeToSevenParams threeToSeven (binaryAt 65539)) ∧
    InRange (binaryAt 0).index 5 ∧ ¬ ShiftsBack 5 (binaryAt 0) := by
  have inRange : InRange (binaryAt 0).index 5 := ⟨by decide, by decide, by decide⟩
  refine ⟨⟨by decide, by decide, rfl, fun back => ?_⟩, inRange, fun back => ?_⟩
  · exact absurd (congrArg Option.isNone (back.2 (by decide))) (by decide)
  · exact absurd (congrArg Option.isSome (back inRange)) (by decide)

end OpenDataCon.Connectors

import OpenDataCon.MD3Port.AnalogScan

/-!
# The slots of a scanned range

Reading a range at the outstation reads each of its slots once
(`readAnalogOrCounterRange_eq`): the values and the differences are those of the table
before, and the values become what was last read (`lastRead_readSlots`). The kind of the
response follows the differences: without change all of them are zero
(`responseType_noChange`), and what is sent as differences fits in a signed byte
(`responseType_small`).

In a uniform range every module has points of one kind only (`Uniform`). There the master
sets the slots that the outstation reads (`storeChannels_eq`).
-/

set_option autoImplicit false

namespace OpenDataCon.MD3Port

/-! ## Ranges -/

def rangeIndexes (moduleAddress channels : Nat) : List Nat :=
  (rangeChannels moduleAddress channels).map fun c => calcAnalogCounterMD3Index c.1 c.2

theorem length_rangeChannels (moduleAddress channels : Nat) :
    (rangeChannels moduleAddress channels).length = channels := by
  simp only [rangeChannels, List.length_append, List.length_map, List.length_range]
  omega

theorem calcAnalogCounterMD3Index_of_lt {channel : Nat} (moduleAddress : Nat) (low : channel < 8) :
    calcAnalogCounterMD3Index moduleAddress channel = moduleAddress % 256 * 256 + channel :=
  if_neg (by omega)

theorem calcAnalogCounterMD3Index_mod (moduleAddress channel : Nat) :
    calcAnalogCounterMD3Index (moduleAddress % 256) channel =
      calcAnalogCounterMD3Index moduleAddress channel := by
  unfold calcAnalogCounterMD3Index
  split <;> omega

theorem nodup_rangeIndexes (moduleAddress channels : Nat) (bound : channels ≤ 16) :
    (rangeIndexes moduleAddress channels).Nodup := by
  refine List.Nodup.map_on ?_ ?_
  · intro c inside c' inside' same
    have low : ∀ c ∈ rangeChannels moduleAddress channels, c.2 < 8 ∧
        (c.1 = moduleAddress ∨ c.1 = (moduleAddress + 1) % 256) := by
      intro c inside
      simp only [rangeChannels, List.mem_append, List.mem_map, List.mem_range] at inside
      rcases inside with ⟨i, small, rfl⟩ | ⟨i, small, rfl⟩
      · exact ⟨by dsimp only; omega, .inl rfl⟩
      · exact ⟨by dsimp only; omega, .inr rfl⟩
    obtain ⟨small, here⟩ := low c inside
    obtain ⟨small', here'⟩ := low c' inside'
    rw [calcAnalogCounterMD3Index_of_lt _ small, calcAnalogCounterMD3Index_of_lt _ small'] at same
    exact Prod.ext (by omega) (by omega)
  · refine List.Nodup.append ?_ ?_ ?_
    · exact List.nodup_range.map fun i j same => congrArg Prod.snd same
    · exact List.nodup_range.map fun i j same => congrArg Prod.snd same
    · intro c inside inside'
      simp only [List.mem_map, List.mem_range] at inside inside'
      obtain ⟨i, -, rfl⟩ := inside
      obtain ⟨j, -, same⟩ := inside'
      have module : (moduleAddress + 1) % 256 = moduleAddress := congrArg Prod.fst same
      omega

namespace AnalogTable

/-! ## Tables with points in the same slots -/

/-- The slots in which there is a point are the same. -/
def SamePoints (first second : AnalogTable) : Prop :=
  ∀ slot, (first.points slot).isSome = (second.points slot).isSome

theorem SamePoints.refl (table : AnalogTable) : table.SamePoints table := fun _ => rfl

theorem SamePoints.symm {first second : AnalogTable} (same : first.SamePoints second) :
    second.SamePoints first :=
  fun slot => (same slot).symm

theorem SamePoints.trans {first second third : AnalogTable} (same : first.SamePoints second)
    (same' : second.SamePoints third) : first.SamePoints third :=
  fun slot => (same slot).trans (same' slot)

theorem SamePoints.modify (table : AnalogTable) (slot : Slot)
    (change : MD3AnalogCounterPoint → MD3AnalogCounterPoint) :
    (table.modify slot change).SamePoints table :=
  table.isSome_modify slot change

theorem moduleType_congr {first second : AnalogTable} (same : first.SamePoints second)
    (moduleAddress : Nat) : first.moduleType moduleAddress = second.moduleType moduleAddress := by
  simp only [moduleType, getCounterValueUsingMD3Index, getValueUsingMD3Index, Option.isSome_map,
    same _]

theorem moduleType_mod (table : AnalogTable) (moduleAddress : Nat) :
    table.moduleType (moduleAddress % 256) = table.moduleType moduleAddress := by
  rw [moduleType, moduleType, getCounterValueUsingMD3Index, getCounterValueUsingMD3Index,
    getValueUsingMD3Index, getValueUsingMD3Index, calcAnalogCounterMD3Index_mod]

/-- The slot of a channel, of the kind that its module has. -/
def channelSlot (table : AnalogTable) (c : Nat × Nat) : Slot :=
  ⟨table.moduleType c.1, calcAnalogCounterMD3Index c.1 c.2⟩

def rangeSlots (table : AnalogTable) (moduleAddress channels : Nat) : List Slot :=
  (rangeChannels moduleAddress channels).map table.channelSlot

theorem rangeSlots_congr {first second : AnalogTable} (same : first.SamePoints second)
    (moduleAddress channels : Nat) :
    first.rangeSlots moduleAddress channels = second.rangeSlots moduleAddress channels := by
  have slots : first.channelSlot = second.channelSlot := by
    funext c
    rw [channelSlot, channelSlot, moduleType_congr same]
  rw [rangeSlots, rangeSlots, slots]

section Slots

variable (table : AnalogTable) (moduleAddress channels : Nat)

theorem length_rangeSlots : (table.rangeSlots moduleAddress channels).length = channels := by
  rw [rangeSlots, List.length_map, length_rangeChannels]

theorem nodup_rangeSlots (bound : channels ≤ 16) :
    (table.rangeSlots moduleAddress channels).Nodup := by
  have indexes : (table.rangeSlots moduleAddress channels).map Slot.md3index =
      rangeIndexes moduleAddress channels := by
    rw [rangeSlots, List.map_map]
    rfl
  exact List.Nodup.of_map Slot.md3index (indexes ▸ nodup_rangeIndexes moduleAddress channels bound)

/-- The points of each module of the range are of one kind, the one of its channel 0. -/
def Uniform : Prop :=
  ∀ c ∈ rangeChannels moduleAddress channels, ∀ slot ∈
    [Slot.mk .counterModule (calcAnalogCounterMD3Index c.1 c.2),
      Slot.mk .analogModule (calcAnalogCounterMD3Index c.1 c.2)],
    (table.points slot).isSome = true → slot.kind = table.moduleType c.1

instance : Decidable (table.Uniform moduleAddress channels) :=
  inferInstanceAs (Decidable (∀ c ∈ rangeChannels moduleAddress channels, ∀ slot ∈
    [Slot.mk .counterModule (calcAnalogCounterMD3Index c.1 c.2),
      Slot.mk .analogModule (calcAnalogCounterMD3Index c.1 c.2)],
    (table.points slot).isSome = true → slot.kind = table.moduleType c.1))

/-- A point at an index of a uniform range is in a slot of the range. -/
theorem Uniform.mem_rangeSlots {table : AnalogTable} {moduleAddress channels : Nat}
    (uniform : table.Uniform moduleAddress channels) {slot : Slot}
    (covered : slot.md3index ∈ rangeIndexes moduleAddress channels)
    (exists' : (table.points slot).isSome = true) :
    slot ∈ table.rangeSlots moduleAddress channels := by
  obtain ⟨c, inside, index⟩ := List.mem_map.mp covered
  have kind : slot.kind = table.moduleType c.1 := by
    refine uniform c inside slot ?_ exists'
    rcases slot with ⟨kind, md3index⟩
    subst index
    cases kind <;> simp
  refine List.mem_map.mpr ⟨c, inside, ?_⟩
  rcases slot with ⟨kind', md3index⟩
  dsimp only at index kind
  rw [channelSlot, kind, index]

end Slots

/-! ## Changing the points in a list of slots -/

/-- Change the points in some slots. -/
def modifyAll (table : AnalogTable) (change : Slot → MD3AnalogCounterPoint → MD3AnalogCounterPoint)
    (slots : List Slot) : AnalogTable :=
  slots.foldl (fun t slot => t.modify slot (change slot)) table

section ModifyAll

variable (change : Slot → MD3AnalogCounterPoint → MD3AnalogCounterPoint)

theorem samePoints_modifyAll (table : AnalogTable) (slots : List Slot) :
    (table.modifyAll change slots).SamePoints table := by
  induction slots generalizing table with
  | nil => exact .refl _
  | cons slot rest ih => exact (ih _).trans (.modify _ _ _)

/-- Each of the slots is changed once, and no other. -/
theorem points_modifyAll (table : AnalogTable) {slots : List Slot} (nodup : slots.Nodup)
    (s : Slot) :
    (table.modifyAll change slots).points s =
      if s ∈ slots then (table.points s).map (change s) else table.points s := by
  induction slots generalizing table with
  | nil => rfl
  | cons slot rest ih =>
      obtain ⟨fresh, nodup'⟩ := List.nodup_cons.mp nodup
      have step := ih (table.modify slot (change slot)) nodup'
      by_cases here : s = slot
      · subst here
        rw [if_neg fresh, points_modify, if_pos rfl] at step
        rw [if_pos List.mem_cons_self]
        exact step
      · rw [points_modify_of_ne _ _ _ here] at step
        refine step.trans ?_
        simp [here]

end ModifyAll

/-! ## Reading -/

/-- The change of a slot since it was last read. -/
def change (table : AnalogTable) (slot : Slot) : Int :=
  (table.value slot).toNat - (table.lastRead slot).toNat

theorem change_of_point {table : AnalogTable} {slot : Slot} {pt : MD3AnalogCounterPoint}
    (found : table.points slot = some pt) : table.change slot = pt.delta := by
  simp only [change, value, lastRead, found]
  rfl

theorem change_of_missing {table : AnalogTable} {slot : Slot}
    (missing : table.points slot = none) : table.change slot = 0 := by
  simp [change, value, lastRead, missing]

/-- The point in the slot after it was read. -/
def markRead (_ : Slot) (pt : MD3AnalogCounterPoint) : MD3AnalogCounterPoint :=
  pt.setLastReadAnalog pt.analog

/-- The table after the slots were read. -/
def readSlots (table : AnalogTable) (slots : List Slot) : AnalogTable :=
  table.modifyAll markRead slots

theorem samePoints_readSlots (table : AnalogTable) (slots : List Slot) :
    (table.readSlots slots).SamePoints table :=
  samePoints_modifyAll _ _ _

/-- **What was read is what was last read.** -/
theorem lastRead_readSlots (table : AnalogTable) {slots : List Slot} (nodup : slots.Nodup)
    (s : Slot) :
    (table.readSlots slots).lastRead s =
      if s ∈ slots then table.value s else table.lastRead s := by
  rw [lastRead, readSlots, points_modifyAll _ _ nodup]
  by_cases inside : s ∈ slots
  · rw [if_pos inside, if_pos inside, value]
    cases table.points s <;> rfl
  · rw [if_neg inside, if_neg inside, lastRead]

end AnalogTable

namespace AnalogReading

/-- Read one slot. -/
def read (reading : AnalogReading) (slot : Slot) : AnalogReading where
  table := reading.table.modify slot (AnalogTable.markRead slot)
  responseType := reading.responseType.after (reading.table.change slot)
  analogValues := reading.analogValues ++ [reading.table.value slot]
  analogDeltaValues := reading.analogDeltaValues ++ [reading.table.change slot]

theorem getAnalogChannelValue_eq (kind : AnalogCounterModuleType) (moduleAddress i : Nat)
    (reading : AnalogReading) :
    getAnalogChannelValue kind moduleAddress reading i =
      reading.read ⟨kind, calcAnalogCounterMD3Index moduleAddress i⟩ := by
  have found : (if kind = .counterModule then
        reading.table.getCounterValueAndChangeUsingMD3Index moduleAddress i
      else reading.table.getAnalogValueAndChangeUsingMD3Index moduleAddress i) =
      reading.table.getValueAndChangeUsingMD3Index kind moduleAddress i := by
    cases kind <;> rfl
  rw [getAnalogChannelValue, found, AnalogTable.getValueAndChangeUsingMD3Index]
  cases inSlot : reading.table.points ⟨kind, calcAnalogCounterMD3Index moduleAddress i⟩ with
  | none =>
      have still : reading.responseType.after 0 = reading.responseType := by
        simp [AnalogChangeType.after]
      simp only [Option.map_none, read, AnalogTable.change_of_missing inSlot, still,
        AnalogTable.value, inSlot]
      rfl
  | some pt =>
      simp only [Option.map_some, read, AnalogTable.change_of_point inSlot, AnalogTable.value,
        inSlot]
      rfl

theorem getAnalogModuleValues_eq (kind : AnalogCounterModuleType) (channels moduleAddress : Nat)
    (reading : AnalogReading) :
    getAnalogModuleValues kind channels moduleAddress reading =
      ((List.range channels).map fun i =>
        Slot.mk kind (calcAnalogCounterMD3Index moduleAddress i)).foldl read reading := by
  rw [List.foldl_map, getAnalogModuleValues]
  congr 1
  funext reading i
  exact getAnalogChannelValue_eq kind moduleAddress i reading

theorem samePoints_read (slots : List Slot) (reading : AnalogReading) :
    (slots.foldl read reading).table.SamePoints reading.table := by
  induction slots generalizing reading with
  | nil => exact .refl _
  | cons slot rest ih => exact (ih _).trans (.modify _ _ _)

/-- **Reading a range reads its slots in order.** -/
theorem readAnalogOrCounterRange_eq (moduleAddress channels : Nat) (reading : AnalogReading) :
    readAnalogOrCounterRange moduleAddress channels reading =
      (reading.table.rangeSlots moduleAddress channels).foldl read reading := by
  have count : (if 8 ≤ channels then 8 else channels) = min channels 8 := by
    split <;> omega
  rw [AnalogTable.rangeSlots, rangeChannels, List.map_append, List.foldl_append, List.map_map,
    List.map_map, readAnalogOrCounterRange, count, getAnalogModuleValues_eq]
  split
  · rw [getAnalogModuleValues_eq, AnalogTable.moduleType_congr (samePoints_read _ _),
      ← AnalogTable.moduleType_mod _ (moduleAddress + 1)]
    rfl
  · next few =>
    have last : channels - 8 = 0 := by omega
    rw [last, getAnalogModuleValues_eq]
    rfl

section Read

variable {slots : List Slot}

theorem table_read (reading : AnalogReading) :
    (slots.foldl read reading).table = reading.table.readSlots slots := by
  induction slots generalizing reading with
  | nil => rfl
  | cons slot rest ih => exact ih (reading.read slot)

/-- What is read of the other slots does not change. -/
theorem same_after_read {reading : AnalogReading} {slot : Slot} {rest : List Slot}
    (fresh : slot ∉ rest) : ∀ s ∈ rest,
    (reading.read slot).table.value s = reading.table.value s ∧
      (reading.read slot).table.change s = reading.table.change s := by
  intro s inside
  have other : s ≠ slot := fun same => fresh (same ▸ inside)
  have value := reading.table.value_modify_of_ne slot (AnalogTable.markRead slot) other
  refine ⟨value, ?_⟩
  rw [AnalogTable.change, AnalogTable.change]
  change (((reading.table.modify slot (AnalogTable.markRead slot)).value s).toNat : Int) -
    ((reading.table.modify slot (AnalogTable.markRead slot)).lastRead s).toNat = _
  rw [value, AnalogTable.lastRead_modify_of_ne _ _ _ other]

theorem analogValues_read (nodup : slots.Nodup) (reading : AnalogReading) :
    (slots.foldl read reading).analogValues =
      reading.analogValues ++ slots.map reading.table.value := by
  induction slots generalizing reading with
  | nil => simp
  | cons slot rest ih =>
      obtain ⟨fresh, nodup'⟩ := List.nodup_cons.mp nodup
      rw [List.foldl_cons, ih nodup',
        List.map_congr_left fun s inside => (same_after_read fresh s inside).1]
      simp [read]

theorem analogDeltaValues_read (nodup : slots.Nodup) (reading : AnalogReading) :
    (slots.foldl read reading).analogDeltaValues =
      reading.analogDeltaValues ++ slots.map reading.table.change := by
  induction slots generalizing reading with
  | nil => simp
  | cons slot rest ih =>
      obtain ⟨fresh, nodup'⟩ := List.nodup_cons.mp nodup
      rw [List.foldl_cons, ih nodup',
        List.map_congr_left fun s inside => (same_after_read fresh s inside).2]
      simp [read]

theorem responseType_read (nodup : slots.Nodup) (reading : AnalogReading) :
    (slots.foldl read reading).responseType =
      (slots.map reading.table.change).foldl AnalogChangeType.after reading.responseType := by
  induction slots generalizing reading with
  | nil => rfl
  | cons slot rest ih =>
      obtain ⟨fresh, nodup'⟩ := List.nodup_cons.mp nodup
      rw [List.foldl_cons, ih nodup',
        List.map_congr_left fun s inside => (same_after_read fresh s inside).2]
      rfl

end Read

end AnalogReading

/-! ## The kind of the response -/

namespace AnalogChangeType

theorem after_ne_allChange {responseType : AnalogChangeType} {delta : Int}
    (small : responseType.after delta ≠ .allChange) :
    responseType ≠ .allChange ∧ delta.natAbs ≤ 127 := by
  unfold after at small
  split at small
  · exact absurd rfl small
  · next low =>
    refine ⟨fun all => small ?_, by omega⟩
    simp [all]

theorem after_noChange {responseType : AnalogChangeType} {delta : Int}
    (still : responseType.after delta = .noChange) : responseType = .noChange ∧ delta = 0 := by
  unfold after at still
  split at still
  · exact absurd still (by decide)
  · split at still
    · exact absurd still (by decide)
    · next low zero =>
      subst still
      refine ⟨rfl, ?_⟩
      by_contra moved
      exact zero ⟨by omega, by decide⟩

variable {deltas : List Int} {responseType : AnalogChangeType}

/-- Unless all values are sent, every difference fits in a signed byte. -/
theorem responseType_small (small : deltas.foldl after responseType ≠ .allChange) :
    responseType ≠ .allChange ∧ ∀ delta ∈ deltas, delta.natAbs ≤ 127 := by
  induction deltas generalizing responseType with
  | nil => exact ⟨small, fun delta inside => absurd inside List.not_mem_nil⟩
  | cons first rest ih =>
      obtain ⟨before, restSmall⟩ := ih small
      obtain ⟨start, firstSmall⟩ := after_ne_allChange before
      refine ⟨start, fun delta inside => ?_⟩
      rcases List.mem_cons.mp inside with rfl | inside
      · exact firstSmall
      · exact restSmall delta inside

/-- When no change is reported, there is none. -/
theorem responseType_noChange (still : deltas.foldl after responseType = .noChange) :
    responseType = .noChange ∧ ∀ delta ∈ deltas, delta = 0 := by
  induction deltas generalizing responseType with
  | nil => exact ⟨still, fun delta inside => absurd inside List.not_mem_nil⟩
  | cons first rest ih =>
      obtain ⟨before, restZero⟩ := ih still
      obtain ⟨start, firstZero⟩ := after_noChange before
      refine ⟨start, fun delta inside => ?_⟩
      rcases List.mem_cons.mp inside with rfl | inside
      · exact firstZero
      · exact restZero delta inside

end AnalogChangeType

/-! ## Storing -/

namespace AnalogTable

/-- The point after it was set. -/
def stored (word : Slot → BitVec 16) (deltaUpdate onlyUpdateTime : Bool) (slot : Slot)
    (pt : MD3AnalogCounterPoint) : MD3AnalogCounterPoint :=
  pt.setAnalog (updatedWord pt.analog (word slot) deltaUpdate onlyUpdateTime)

theorem modify_of_missing {table : AnalogTable} {slot : Slot}
    (change : MD3AnalogCounterPoint → MD3AnalogCounterPoint)
    (missing : table.points slot = none) : table.modify slot change = table := by
  have points : (table.modify slot change).points = table.points := by
    funext s
    rw [points_modify]
    split
    · next same => rw [same, missing, Option.map_none]
    · rfl
  rcases table with ⟨before, odcPoints, keys⟩
  exact congrArg (fun p => AnalogTable.mk p odcPoints keys) points

theorem modify_congr {table : AnalogTable} {slot : Slot}
    {change change' : MD3AnalogCounterPoint → MD3AnalogCounterPoint}
    (same : ∀ pt, table.points slot = some pt → change pt = change' pt) :
    table.modify slot change = table.modify slot change' := by
  have points : (table.modify slot change).points = (table.modify slot change').points := by
    funext s
    rw [points_modify, points_modify]
    split
    · next here =>
      subst here
      exact Option.map_congr fun pt found => same pt found
    · rfl
  exact congrArg (fun p => AnalogTable.mk p table.odcPoints table.keys) points

/-- In a module of one kind, a channel is set in the slot of that kind. -/
theorem setAnalogCounterAndSendEvent_eq {table : AnalogTable} {kind : AnalogCounterModuleType}
    {c : Nat × Nat} (value : BitVec 16) (deltaUpdate onlyUpdateTime : Bool)
    (oneKind : ∀ kind', (table.points ⟨kind', calcAnalogCounterMD3Index c.1 c.2⟩).isSome = true →
      kind' = kind) :
    (table.setAnalogCounterAndSendEvent c.1 c.2 value deltaUpdate onlyUpdateTime).1 =
      table.modify ⟨kind, calcAnalogCounterMD3Index c.1 c.2⟩
        (stored (fun _ => value) deltaUpdate onlyUpdateTime
          ⟨kind, calcAnalogCounterMD3Index c.1 c.2⟩) := by
  rw [setAnalogCounterAndSendEvent, getCounterValueUsingMD3Index, getAnalogValueUsingMD3Index,
    getValueUsingMD3Index, getValueUsingMD3Index]
  cases counter : table.points ⟨.counterModule, calcAnalogCounterMD3Index c.1 c.2⟩ with
  | some pt =>
      obtain rfl : AnalogCounterModuleType.counterModule = kind :=
        oneKind _ (by rw [counter]; rfl)
      refine modify_congr fun pt' found => ?_
      obtain rfl : pt = pt' := Option.some.inj (counter.symm.trans found)
      rfl
  | none =>
      cases analog : table.points ⟨.analogModule, calcAnalogCounterMD3Index c.1 c.2⟩ with
      | some pt =>
          obtain rfl : AnalogCounterModuleType.analogModule = kind :=
            oneKind _ (by rw [analog]; rfl)
          refine modify_congr fun pt' found => ?_
          obtain rfl : pt = pt' := Option.some.inj (analog.symm.trans found)
          rfl
      | none =>
          refine (modify_of_missing _ ?_).symm
          cases kind
          · exact counter
          · exact analog

/-- **The master sets the slots of a uniform range.** -/
theorem storeChannels_eq {table : AnalogTable} {moduleAddress channels : Nat}
    (uniform : table.Uniform moduleAddress channels) (word : Slot → BitVec 16)
    (deltaUpdate onlyUpdateTime : Bool) :
    table.storeChannels moduleAddress channels
        ((table.rangeSlots moduleAddress channels).map word) deltaUpdate onlyUpdateTime =
      table.modifyAll (stored word deltaUpdate onlyUpdateTime)
        (table.rangeSlots moduleAddress channels) := by
  have run : ∀ (cs : List (Nat × Nat)) (t : AnalogTable), t.SamePoints table →
      (∀ c ∈ cs, c ∈ rangeChannels moduleAddress channels) →
      (cs.zip ((cs.map table.channelSlot).map word)).foldl
          (fun t item => (t.setAnalogCounterAndSendEvent item.1.1 item.1.2 item.2 deltaUpdate
            onlyUpdateTime).1) t =
        t.modifyAll (stored word deltaUpdate onlyUpdateTime) (cs.map table.channelSlot) := by
    intro cs
    induction cs with
    | nil => exact fun t same inside => rfl
    | cons c rest ih =>
        intro t same inside
        have oneKind : ∀ kind',
            (t.points ⟨kind', calcAnalogCounterMD3Index c.1 c.2⟩).isSome = true →
              kind' = table.moduleType c.1 := by
          intro kind' exists'
          refine uniform c (inside c List.mem_cons_self) ⟨kind', _⟩ ?_ ((same _).symm.trans exists')
          cases kind' <;> simp
        have set := setAnalogCounterAndSendEvent_eq (word (table.channelSlot c)) deltaUpdate
          onlyUpdateTime oneKind
        rw [List.map_cons, List.map_cons, List.zip_cons_cons, List.foldl_cons]
        change List.foldl _ (t.setAnalogCounterAndSendEvent c.1 c.2 _ _ _).1 _ = _
        rw [set, ih _ ((SamePoints.modify _ _ _).trans same)
          fun c' later => inside c' (List.mem_cons_of_mem _ later)]
        rfl
  exact run _ table (.refl _) fun c inside => inside

section Stored

variable (table : AnalogTable) {slots : List Slot} (word : Slot → BitVec 16)
  (deltaUpdate onlyUpdateTime : Bool)

theorem value_stored_of_not_mem (nodup : slots.Nodup) {s : Slot} (outside : s ∉ slots) :
    (table.modifyAll (stored word deltaUpdate onlyUpdateTime) slots).value s = table.value s := by
  rw [value, value, points_modifyAll _ _ nodup, if_neg outside]

theorem value_stored (nodup : slots.Nodup) {s : Slot} (inside : s ∈ slots)
    (exists' : (table.points s).isSome = true) :
    (table.modifyAll (stored word deltaUpdate onlyUpdateTime) slots).value s =
      updatedWord (table.value s) (word s) deltaUpdate onlyUpdateTime := by
  obtain ⟨pt, found⟩ := Option.isSome_iff_exists.mp exists'
  rw [value, value, points_modifyAll _ _ nodup, if_pos inside, found]
  rfl

theorem value_of_missing {s : Slot} (missing : (table.points s).isSome = false) :
    table.value s = 0x8000#16 := by
  have absent : table.points s = none := by simpa using missing
  rw [value, absent]

end Stored

end AnalogTable

end OpenDataCon.MD3Port

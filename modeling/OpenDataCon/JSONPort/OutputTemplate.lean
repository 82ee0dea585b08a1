import OpenDataCon.Foundations.Substitution
import OpenDataCon.JSON.Leaves

/-!
# The output template of a JSON port

`JSONOutputTemplate` fills in the fields of an event one after the other, each in the
place of the first leaf that looks like the field's marker. A value that was put in
earlier may look like a later marker, the index is cut to 16 bits, and a template that
is nothing but a marker is not filled in at all; the output is as it should be in all
other cases, and only in those (`instantiate_iff`).
-/

set_option autoImplicit false

namespace OpenDataCon.JSONPort

open JSON Substitution
open FileTransfer (Bytes ascii)

variable {D : Type}

/-! ## Finding a marker -/

def isMarker (marker : Bytes) : Value D → Bool
  | .string text => text = marker
  | _ => false

mutual

/-- `find_marker`: the value with the leaf that it refers to assigned, if there is one; a
reference to `NullJV` is `none`. -/
def findMarker (marker : Bytes) (assigned : Value D) : Value D → Option (Value D)
  | .array items => (findItems marker assigned items).map .array
  | .object members => (findMembers marker assigned members).map .object
  | _ => none

def findItems (marker : Bytes) (assigned : Value D) : List (Value D) → Option (List (Value D))
  | [] => none
  | item :: items =>
    if isMarker marker item then some (assigned :: items)
    else
      ((findMarker marker assigned item).map fun deeper => deeper :: items).or
        ((findItems marker assigned items).map fun later => item :: later)

def findMembers (marker : Bytes) (assigned : Value D) :
    List (Bytes × Value D) → Option (List (Bytes × Value D))
  | [] => none
  | (name, value) :: members =>
    if isMarker marker value then some ((name, assigned) :: members)
    else
      ((findMarker marker assigned value).map fun deeper => (name, deeper) :: members).or
        ((findMembers marker assigned members).map fun later => (name, value) :: later)

end

/-! ## Filling in an event -/

structure Markers where
  ind : Bytes := ascii "<INDEX>"
  val : Bytes := ascii "<VALUE>"
  qual : Bytes := ascii "<QUALITY>"
  time : Bytes := ascii "<TIMESTAMP>"
  name : Bytes := ascii "<NAME>"
  source : Bytes := ascii "<SOURCE>"
  sender : Bytes := ascii "<SENDER>"
deriving DecidableEq

/-- The markers in the order in which they are filled in. -/
def Markers.toList (markers : Markers) : List Bytes :=
  [markers.ind, markers.val, markers.qual, markers.time, markers.name, markers.source,
    markers.sender]

structure JSONOutputTemplate (D : Type) where
  JV : Value D
  markers : Markers

/-- The types of value that are output. -/
inductive Output (D : Type) where
  | number (value : D)
  | boolean (value : Bool)
  | text (value : Bytes)

def Output.toValue : Output D → Value D
  | .number value => .real value
  | .boolean value => .boolean value
  | .text value => .string value

/-- The arguments of `Instantiate`, before the index is cut to 16 bits. -/
structure Fields (D : Type) where
  index : Nat
  value : Output D
  qual : Bytes
  time : BitVec 64
  pointName : Bytes := []
  sourcePort : Bytes := []
  sender : Bytes := []

section Instantiate

variable (sinceEpochToDatetime : BitVec 64 → Bytes) (template : JSONOutputTemplate D)
  (fields : Fields D)

/-- One assignment of `Instantiate`, made when the template has the marker. -/
def assign (marker : Bytes) (assigned filled : Value D) : Value D :=
  if (findMarker marker .null template.JV).isSome then
    (findMarker marker assigned filled).getD filled
  else filled

def instantiate : Value D :=
  let filled := template.JV
  let filled := assign template template.markers.ind (.int (fields.index % 2 ^ 16 : Nat)) filled
  let filled := assign template template.markers.val fields.value.toValue filled
  let filled := assign template template.markers.qual (.string fields.qual) filled
  let filled := assign template template.markers.time
    (.string (sinceEpochToDatetime fields.time)) filled
  let filled := assign template template.markers.name (.string fields.pointName) filled
  let filled := assign template template.markers.source (.string fields.sourcePort) filled
  assign template template.markers.sender (.string fields.sender) filled

/-- The markers with the values that belong in their places. -/
def textRows : List (Bytes × Value D) :=
  [(template.markers.val, fields.value.toValue),
    (template.markers.qual, .string fields.qual),
    (template.markers.time, .string (sinceEpochToDatetime fields.time)),
    (template.markers.name, .string fields.pointName),
    (template.markers.source, .string fields.sourcePort),
    (template.markers.sender, .string fields.sender)]

def rows (index : Nat) : List (Bytes × Value D) :=
  (template.markers.ind, .int index) :: textRows sinceEpochToDatetime template fields

/-- The leaves that look like a marker, with the values that belong in their places. -/
def markerLeaves (rows : List (Bytes × Value D)) : List (Value D × Value D) :=
  rows.map fun row => (.string row.1, row.2)

theorem markerLeaves_cons (row : Bytes × Value D) (rows : List (Bytes × Value D)) :
    markerLeaves (row :: rows) = (.string row.1, row.2) :: markerLeaves rows := rfl

theorem markerLeaves_rows (index : Nat) :
    markerLeaves (rows sinceEpochToDatetime template fields index) =
      (.string template.markers.ind, .int index) ::
        markerLeaves (textRows sinceEpochToDatetime template fields) := rfl

theorem Output.isLeaf_toValue (output : Output D) : output.toValue.isLeaf = true := by
  cases output <;> rfl

theorem rows_isLeaf (index : Nat) :
    ∀ row ∈ rows sinceEpochToDatetime template fields index, row.2.isLeaf = true := by
  simp only [rows, textRows, List.forall_mem_cons]
  exact ⟨rfl, Output.isLeaf_toValue _, rfl, rfl, rfl, rfl, rfl,
    fun _ none => absurd none List.not_mem_nil⟩

/-- `Instantiate` assigns one row after the other, with the index cut. -/
theorem instantiate_eq :
    instantiate sinceEpochToDatetime template fields =
      (rows sinceEpochToDatetime template fields (fields.index % 2 ^ 16)).foldl
        (fun filled row => assign template row.1 row.2 filled) template.JV := rfl

variable [DecidableEq D]

/-- The template with each marker replaced by its own value, and nothing else changed. -/
def filledIn : Value D :=
  template.JV.mapLeaves
    (value (markerLeaves (rows sinceEpochToDatetime template fields fields.index)))

end Instantiate

/-! ## Finding and assigning a leaf -/

theorem isMarker_iff (marker : Bytes) (value : Value D) :
    isMarker marker value = true ↔ value = .string marker := by
  cases value <;> simp [isMarker]

section Leaves

variable {marker : Bytes} {assigned : Value D}

theorem findMarker_of_isLeaf {value : Value D} (leaf : value.isLeaf = true) :
    findMarker marker assigned value = none := by
  cases value with
  | array items => contradiction
  | object members => contradiction
  | null | int | uint | real | string | boolean => rfl

variable [DecidableEq D]

/-- What a search in some leaves finds: nothing, or a tree of the same shape in which the
first leaf that looks like the marker is assigned. -/
def Finds {T : Type} (leaves : T → List (Value D)) (shape : T → T) (marker : Bytes)
    (assigned : Value D) (tree : T) (found : Option T) : Prop :=
  (.string marker ∉ leaves tree ∧ found = none) ∨
    .string marker ∈ leaves tree ∧ ∃ deeper, found = some deeper ∧ shape deeper = shape tree ∧
      leaves deeper = (leaves tree).replace (.string marker) assigned

/-- A search that goes on when the first part has nothing. -/
theorem Finds.either {S T U : Type} {leavesS : S → List (Value D)} {shapeS : S → S}
    {leavesT : T → List (Value D)} {shapeT : T → T} (leavesU : U → List (Value D)) (shapeU : U → U)
    (build : S → T → U) (leaves : ∀ s t, leavesU (build s t) = leavesS s ++ leavesT t)
    (shape : ∀ s t, shapeU (build s t) = build (shapeS s) (shapeT t)) {s : S} {t : T}
    {here : Option S} {later : Option T} (first : Finds leavesS shapeS marker assigned s here)
    (second : Finds leavesT shapeT marker assigned t later) :
    Finds leavesU shapeU marker assigned (build s t)
      ((here.map fun deeper => build deeper t).or (later.map (build s))) := by
  rcases first with ⟨missing, rfl⟩ | ⟨inside, deeper, rfl, same, filled⟩
  · rcases second with ⟨missing', rfl⟩ | ⟨inside, deeper, rfl, same, filled⟩
    · refine .inl ⟨?_, rfl⟩
      rw [leaves]
      exact List.not_mem_append missing missing'
    · refine .inr ⟨?_, build s deeper, rfl, ?_, ?_⟩
      · rw [leaves]
        exact List.mem_append_right _ inside
      · rw [shape, shape, same]
      · rw [leaves, leaves, List.replace_append_right missing, filled]
  · refine .inr ⟨?_, build deeper t, rfl, ?_, ?_⟩
    · rw [leaves]
      exact List.mem_append_left _ inside
    · rw [shape, shape, same]
    · rw [leaves, leaves, List.replace_append_left inside, filled]

/-- A search that comes to the marker. -/
theorem Finds.here {T U : Type} {leavesT : T → List (Value D)} {shapeT : T → T}
    (leavesU : U → List (Value D)) (shapeU : U → U) (build : Value D → T → U)
    (leaves : ∀ s t, leavesU (build s t) = s.leaves ++ leavesT t)
    (shape : ∀ s t, shapeU (build s t) = build s.shape (shapeT t)) {t : T}
    (leaf : assigned.isLeaf = true) :
    Finds leavesU shapeU marker assigned (build (.string marker) t) (some (build assigned t)) := by
  refine .inr ⟨?_, build assigned t, rfl, ?_, ?_⟩
  · rw [leaves]
    exact List.mem_cons_self
  · rw [shape, shape, Value.shape_of_isLeaf leaf]
    rfl
  · rw [leaves, leaves, Value.leaves_of_isLeaf leaf, Value.leaves_of_isLeaf rfl,
      List.singleton_append, List.singleton_append, List.replace_cons_self]

/-- A child that does not look like the marker is searched. -/
theorem finds_below {value : Value D} (other : ¬isMarker marker value = true)
    (deeper : value.isLeaf = false →
      Finds Value.leaves Value.shape marker assigned value (findMarker marker assigned value)) :
    Finds Value.leaves Value.shape marker assigned value (findMarker marker assigned value) := by
  by_cases single : value.isLeaf = true
  · refine .inl ⟨?_, findMarker_of_isLeaf single⟩
    rw [Value.leaves_of_isLeaf single, List.mem_singleton]
    exact fun same => other ((isMarker_iff marker value).mpr same.symm)
  · exact deeper (Bool.eq_false_iff.mpr single)

mutual

/-- **What `find_marker` finds** in an array or an object. -/
theorem findMarker_spec (leaf : assigned.isLeaf = true) :
    ∀ value : Value D, value.isLeaf = false →
      Finds Value.leaves Value.shape marker assigned value (findMarker marker assigned value)
  | .array items, _ => by
      rcases findItems_spec leaf items with ⟨missing, none⟩ | ⟨inside, deeper, found, same, filled⟩
      · exact .inl ⟨missing, by rw [findMarker, none]; rfl⟩
      · exact .inr ⟨inside, .array deeper, by rw [findMarker, found]; rfl,
          congrArg Value.array same, filled⟩
  | .object members, _ => by
      rcases findMembers_spec leaf members with
        ⟨missing, none⟩ | ⟨inside, deeper, found, same, filled⟩
      · exact .inl ⟨missing, by rw [findMarker, none]; rfl⟩
      · exact .inr ⟨inside, .object deeper, by rw [findMarker, found]; rfl,
          congrArg Value.object same, filled⟩

theorem findItems_spec (leaf : assigned.isLeaf = true) : ∀ items : List (Value D),
    Finds Value.leavesItems Value.shapeItems marker assigned items
      (findItems marker assigned items)
  | [] => .inl ⟨List.not_mem_nil, rfl⟩
  | item :: items => by
      rw [findItems]
      by_cases marked : isMarker marker item = true
      · rw [if_pos marked, (isMarker_iff marker item).mp marked]
        exact Finds.here Value.leavesItems Value.shapeItems List.cons (fun _ _ => rfl)
          (fun _ _ => rfl) leaf
      · rw [if_neg marked]
        exact Finds.either Value.leavesItems Value.shapeItems List.cons (fun _ _ => rfl)
          (fun _ _ => rfl) (finds_below marked (findMarker_spec leaf item))
          (findItems_spec leaf items)

theorem findMembers_spec (leaf : assigned.isLeaf = true) : ∀ members : List (Bytes × Value D),
    Finds Value.leavesMembers Value.shapeMembers marker assigned members
      (findMembers marker assigned members)
  | [] => .inl ⟨List.not_mem_nil, rfl⟩
  | (name, value) :: members => by
      rw [findMembers]
      by_cases marked : isMarker marker value = true
      · rw [if_pos marked, (isMarker_iff marker value).mp marked]
        exact Finds.here Value.leavesMembers Value.shapeMembers
          (fun value members => (name, value) :: members) (fun _ _ => rfl) (fun _ _ => rfl) leaf
      · rw [if_neg marked]
        exact Finds.either Value.leavesMembers Value.shapeMembers
          (fun value members => (name, value) :: members) (fun _ _ => rfl) (fun _ _ => rfl)
          (finds_below marked (findMarker_spec leaf value)) (findMembers_spec leaf members)

end

end Leaves

/-! ## Filling in field after field -/

section Filling

variable {sinceEpochToDatetime : BitVec 64 → Bytes} {template : JSONOutputTemplate D}
  {fields : Fields D}

theorem nodup_markerLeaves (distinct : template.markers.toList.Nodup) (index : Nat) :
    ((markerLeaves (rows sinceEpochToDatetime template fields index)).map Prod.fst).Nodup :=
  have nodup : (template.markers.toList.map Value.string : List (Value D)).Nodup :=
    distinct.map fun _ _ same => Value.string.inj same
  nodup

/-- A leaf has no children, so nothing is found in it. -/
theorem instantiate_leaf (single : template.JV.isLeaf = true) :
    instantiate sinceEpochToDatetime template fields = template.JV := by
  rw [instantiate_eq]
  induction rows sinceEpochToDatetime template fields (fields.index % 2 ^ 16) with
  | nil => rfl
  | cons row rows ih =>
      rw [List.foldl_cons, assign, findMarker_of_isLeaf single]
      exact ih

variable [DecidableEq D]

theorem assign_spec (marker : Bytes) {assigned filled : Value D} (leaf : assigned.isLeaf = true)
    (tree : template.JV.isLeaf = false) (same : filled.shape = template.JV.shape) :
    (assign template marker assigned filled).shape = template.JV.shape ∧
      (assign template marker assigned filled).leaves =
        if .string marker ∈ template.JV.leaves then
          filled.leaves.replace (.string marker) assigned
        else filled.leaves := by
  have tree' : filled.isLeaf = false := by
    rw [← Value.isLeaf_shape, same, Value.isLeaf_shape, tree]
  have looked : Finds Value.leaves Value.shape marker .null template.JV
      (findMarker marker .null template.JV) := findMarker_spec rfl template.JV tree
  have searched : Finds Value.leaves Value.shape marker assigned filled
      (findMarker marker assigned filled) := findMarker_spec leaf filled tree'
  rw [assign]
  rcases looked with ⟨missing, none⟩ | ⟨inside, deeper, found, -, -⟩
  · rw [none, if_neg missing]
    exact ⟨same, rfl⟩
  · rw [found, if_pos inside, Option.isSome_some, if_pos rfl]
    rcases searched with ⟨missing, none⟩ | ⟨inside, deeper, found, same', filled'⟩
    · rw [none, List.replace_of_not_mem missing]
      exact ⟨same, rfl⟩
    · rw [found]
      exact ⟨same'.trans same, filled'⟩

/-- **The leaves after some assignments**: those of the template, with one present marker
after the other replaced. -/
theorem assigned_leaves (tree : template.JV.isLeaf = false) {rows : List (Bytes × Value D)}
    (leaf : ∀ row ∈ rows, row.2.isLeaf = true) {filled : Value D}
    (same : filled.shape = template.JV.shape) :
    (rows.foldl (fun filled row => assign template row.1 row.2 filled) filled).shape =
        template.JV.shape ∧
      (rows.foldl (fun filled row => assign template row.1 row.2 filled) filled).leaves =
        sequential ((markerLeaves rows).filter fun field => field.1 ∈ template.JV.leaves)
          filled.leaves := by
  induction rows generalizing filled with
  | nil => exact ⟨same, rfl⟩
  | cons row rows ih =>
      obtain ⟨same', filled'⟩ := assign_spec row.1 (leaf row List.mem_cons_self) tree same
      obtain ⟨shaped, reached⟩ :=
        ih (fun later inside => leaf later (List.mem_cons_of_mem row inside)) same'
      refine ⟨shaped, ?_⟩
      rw [List.foldl_cons, reached, filled', markerLeaves_cons, List.filter_cons]
      by_cases marked : .string row.1 ∈ template.JV.leaves
      · rw [if_pos marked, if_pos (decide_eq_true marked)]
        rfl
      · rw [if_neg marked, if_neg (by simpa using marked)]

/-- When filling in the template with an event's fields is right: the template is no
bare marker, the index is not cut, and no value that stands before a later marker looks
like it, unless the later value looks the same. -/
structure FillsIn (sinceEpochToDatetime : BitVec 64 → Bytes) (template : JSONOutputTemplate D)
    (fields : Fields D) : Prop where
  bare : ∀ row ∈ rows sinceEpochToDatetime template fields fields.index,
    template.JV = .string row.1 → row.2 = .string row.1
  fits : .string template.markers.ind ∈ template.JV.leaves → fields.index < 2 ^ 16
  apart : (markerLeaves (rows sinceEpochToDatetime template fields fields.index)).Pairwise
    (Compatible template.JV.leaves)

/-! ### Templates that are nothing but a leaf -/

theorem filledIn_leaf_iff (distinct : template.markers.toList.Nodup)
    (single : template.JV.isLeaf = true) :
    template.JV = filledIn sinceEpochToDatetime template fields ↔
      ∀ row ∈ rows sinceEpochToDatetime template fields fields.index,
        template.JV = .string row.1 → row.2 = .string row.1 := by
  have nodup : ((markerLeaves (rows sinceEpochToDatetime template fields fields.index)).map
      Prod.fst).Nodup := nodup_markerLeaves distinct fields.index
  rw [filledIn, Value.mapLeaves_of_isLeaf single]
  constructor
  · intro same row inside bare
    have own := value_of_mem nodup (List.mem_map_of_mem inside)
    rw [← own, ← bare, ← same]
  · intro bare
    by_cases marked : ∃ row ∈ rows sinceEpochToDatetime template fields fields.index,
        template.JV = .string row.1
    · obtain ⟨row, inside, same⟩ := marked
      have own := value_of_mem nodup (List.mem_map_of_mem inside)
      rw [same, own, bare row inside same]
    · rw [value_of_not_mem]
      intro field inside same
      obtain ⟨row, rowInside, rfl⟩ := List.mem_map.mp inside
      exact marked ⟨row, rowInside, same.symm⟩

/-! ### Templates with arrays and objects -/

theorem instantiate_leaves (tree : template.JV.isLeaf = false) :
    (instantiate sinceEpochToDatetime template fields).shape = template.JV.shape ∧
      (instantiate sinceEpochToDatetime template fields).leaves =
        sequential
          ((markerLeaves (rows sinceEpochToDatetime template fields (fields.index % 2 ^ 16))).filter
            fun field => field.1 ∈ template.JV.leaves) template.JV.leaves := by
  rw [instantiate_eq]
  exact assigned_leaves tree (rows_isLeaf _ _ _ _) rfl

theorem keepsLeaves_value {rows : List (Bytes × Value D)}
    (leaf : ∀ row ∈ rows, row.2.isLeaf = true) :
    Value.KeepsLeaves (value (markerLeaves rows)) := by
  intro symbol single
  induction rows with
  | nil => exact single
  | cons row rows ih =>
      rw [markerLeaves_cons, value]
      by_cases here : symbol = .string row.1
      · rw [if_pos here]
        exact leaf row List.mem_cons_self
      · rw [if_neg here]
        exact ih fun later inside => leaf later (List.mem_cons_of_mem row inside)

/-- The output is right when its leaves are. -/
theorem instantiate_eq_filledIn_iff (tree : template.JV.isLeaf = false) :
    instantiate sinceEpochToDatetime template fields =
        filledIn sinceEpochToDatetime template fields ↔
      (instantiate sinceEpochToDatetime template fields).leaves =
        template.JV.leaves.map
          (value (markerLeaves (rows sinceEpochToDatetime template fields fields.index))) := by
  have keeps : Value.KeepsLeaves
      (value (markerLeaves (rows sinceEpochToDatetime template fields fields.index))) :=
    keepsLeaves_value (rows_isLeaf _ _ _ _)
  have leaves : (filledIn sinceEpochToDatetime template fields).leaves =
      template.JV.leaves.map
        (value (markerLeaves (rows sinceEpochToDatetime template fields fields.index))) :=
    Value.leaves_mapLeaves keeps template.JV
  have shape : (filledIn sinceEpochToDatetime template fields).shape = template.JV.shape :=
    Value.shape_mapLeaves keeps template.JV
  rw [← leaves]
  constructor
  · exact congrArg Value.leaves
  · exact Value.eq_of_leaves ((instantiate_leaves tree).1.trans shape.symm)

/-- The index is the first field, and its marker is replaced by what is left of it. -/
theorem fits_of_filled (tree : template.JV.isLeaf = false)
    (filled : (instantiate sinceEpochToDatetime template fields).leaves =
      template.JV.leaves.map
        (value (markerLeaves (rows sinceEpochToDatetime template fields fields.index))))
    (marked : .string template.markers.ind ∈ template.JV.leaves) : fields.index < 2 ^ 16 := by
  obtain ⟨before, after, split, fresh⟩ := List.eq_append_cons_of_mem marked
  have cut : (instantiate sinceEpochToDatetime template fields).leaves[before.length]? =
      some (.int (fields.index % 2 ^ 16 : Nat)) := by
    rw [(instantiate_leaves tree).2, markerLeaves_rows, List.filter_cons,
      if_pos (decide_eq_true marked), sequential, List.foldl_cons]
    refine getElem?_sequential ?_ ?_
    · rw [split, List.replace_append_right fresh, List.replace_cons_self, getElem?_middle]
    · intro field inside
      obtain ⟨row, -, rfl⟩ := List.mem_map.mp (List.mem_filter.mp inside).1
      intro same
      cases same
  have whole : (template.JV.leaves.map (value (markerLeaves
      (rows sinceEpochToDatetime template fields fields.index))))[before.length]? =
      some (.int fields.index) := by
    rw [List.getElem?_map, split, getElem?_middle, Option.map_some]
    exact congrArg some (if_pos rfl)
  rw [filled, whole] at cut
  have same := Value.int.inj (Option.some.inj cut)
  omega

/-- The index looks like no marker. -/
theorem pairwise_rows (index : Nat) :
    (markerLeaves (rows sinceEpochToDatetime template fields index)).Pairwise
        (Compatible template.JV.leaves) ↔
      (markerLeaves (rows sinceEpochToDatetime template fields 0)).Pairwise
        (Compatible template.JV.leaves) := by
  rw [markerLeaves_rows, markerLeaves_rows, List.pairwise_cons, List.pairwise_cons]
  have never : ∀ value : Int,
      ∀ later ∈ markerLeaves (textRows sinceEpochToDatetime template fields),
        Compatible template.JV.leaves (.string template.markers.ind, .int value) later := by
    intro value later inside stands same
    obtain ⟨row, -, rfl⟩ := List.mem_map.mp inside
    exact nomatch same
  exact ⟨fun apart => ⟨never 0, apart.2⟩, fun apart => ⟨never index, apart.2⟩⟩

/-- An index that has no marker does not matter. -/
theorem map_value_rows {index other : Nat}
    (same : .string template.markers.ind ∈ template.JV.leaves → index = other) :
    template.JV.leaves.map (value (markerLeaves
        (rows sinceEpochToDatetime template fields index))) =
      template.JV.leaves.map (value (markerLeaves
        (rows sinceEpochToDatetime template fields other))) := by
  by_cases marked : .string template.markers.ind ∈ template.JV.leaves
  · rw [same marked]
  · refine List.map_congr_left ?_
    intro symbol inside
    have other : symbol ≠ .string template.markers.ind := fun here => marked (here ▸ inside)
    rw [markerLeaves_rows, markerLeaves_rows, value, value, if_neg other, if_neg other]

/-- **When an event's fields are filled in rightly.** -/
theorem instantiate_iff (distinct : template.markers.toList.Nodup)
    (once : ∀ marker ∈ template.markers.toList, template.JV.leaves.count (.string marker) ≤ 1) :
    instantiate sinceEpochToDatetime template fields =
        filledIn sinceEpochToDatetime template fields ↔
      FillsIn sinceEpochToDatetime template fields := by
  by_cases single : template.JV.isLeaf = true
  · rw [instantiate_leaf single, filledIn_leaf_iff distinct single]
    refine ⟨fun bare => ⟨bare, ?_, ?_⟩, fun fills => fills.bare⟩
    · rw [Value.leaves_of_isLeaf single]
      intro marked
      exact nomatch bare _ List.mem_cons_self (List.mem_singleton.mp marked).symm
    · refine List.pairwise_of_forall ?_
      rintro earlier later ⟨inside, first⟩
      rw [Value.leaves_of_isLeaf single] at inside first
      rw [List.mem_singleton.mp inside] at first
      simp at first
  · have tree := Bool.eq_false_iff.mpr single
    have once' : ∀ index, ∀ field ∈ markerLeaves (rows sinceEpochToDatetime template fields index),
        template.JV.leaves.count field.1 ≤ 1 := by
      intro index field inside
      obtain ⟨row, member, rfl⟩ := List.mem_map.mp inside
      exact once row.1 (List.mem_map_of_mem member : row.1 ∈ (rows _ _ _ _).map Prod.fst)
    rw [instantiate_eq_filledIn_iff tree]
    constructor
    · intro filled
      have fits := fits_of_filled tree filled
      refine ⟨fun row _ same => absurd tree (by rw [same]; exact nofun), fits, ?_⟩
      rw [pairwise_rows, ← pairwise_rows (fields.index % 2 ^ 16),
        ← sequential_filter_iff (nodup_markerLeaves distinct _) (once' _),
        ← (instantiate_leaves tree).2, filled]
      exact map_value_rows fun marked => (Nat.mod_eq_of_lt (fits marked)).symm
    · intro fills
      have apart := fills.apart
      rw [pairwise_rows, ← pairwise_rows (fields.index % 2 ^ 16),
        ← sequential_filter_iff (nodup_markerLeaves distinct _) (once' _)] at apart
      rw [(instantiate_leaves tree).2, apart]
      exact map_value_rows fun marked => Nat.mod_eq_of_lt (fills.fits marked)

end Filling

/-- The value of an event, and its quality behind it. -/
def valueAndQuality : JSONOutputTemplate ℚ where
  JV := .array [.string (ascii "<VALUE>"), .string (ascii "<QUALITY>")]
  markers := {}

theorem instantiate_iff_valueAndQuality :
    instantiate (fun _ => []) valueAndQuality
        { index := 1, value := .text (ascii "<VALUE>"), qual := ascii "|ONLINE|", time := 0 } =
      filledIn (fun _ => []) valueAndQuality
        { index := 1, value := .text (ascii "<VALUE>"), qual := ascii "|ONLINE|", time := 0 } :=
  (instantiate_iff (by decide) (by decide)).mpr
    ⟨by decide, by decide, by decide⟩

/-- A value that looks like the marker of the quality. -/
theorem instantiate_value_as_marker :
    (valueAndQuality.markers.toList.Nodup ∧ ∀ marker ∈ valueAndQuality.markers.toList,
      valueAndQuality.JV.leaves.count (.string marker) ≤ 1) ∧
    instantiate (fun _ => []) valueAndQuality
        { index := 1, value := .text (ascii "<QUALITY>"), qual := ascii "|ONLINE|", time := 0 } =
      .array [.string (ascii "|ONLINE|"), .string (ascii "<QUALITY>")] ∧
    filledIn (fun _ => []) valueAndQuality
        { index := 1, value := .text (ascii "<QUALITY>"), qual := ascii "|ONLINE|", time := 0 } =
      .array [.string (ascii "<QUALITY>"), .string (ascii "|ONLINE|")] := by
  decide

end OpenDataCon.JSONPort

import OpenDataCon.JSON.Values

/-!
# The leaves of a JSON value

The leaves of a value are what arrays and objects are built of, in the order in which
iterators come to them. A value is determined by its shape and its leaves
(`eq_of_leaves`).
-/

set_option autoImplicit false

namespace OpenDataCon.JSON.Value

open FileTransfer (Bytes)

variable {D : Type}

/-! ## Leaves -/

/-- Neither an array nor an object. -/
def isLeaf : Value D → Bool
  | .array _ => false
  | .object _ => false
  | _ => true

mutual

def leaves : Value D → List (Value D)
  | .array items => leavesItems items
  | .object members => leavesMembers members
  | value => [value]

def leavesItems : List (Value D) → List (Value D)
  | [] => []
  | item :: items => leaves item ++ leavesItems items

def leavesMembers : List (Bytes × Value D) → List (Value D)
  | [] => []
  | (_, value) :: members => leaves value ++ leavesMembers members

end

mutual

/-- The value with each leaf replaced by its own. -/
def mapLeaves (f : Value D → Value D) : Value D → Value D
  | .array items => .array (mapItems f items)
  | .object members => .object (mapMembers f members)
  | value => f value

def mapItems (f : Value D → Value D) : List (Value D) → List (Value D)
  | [] => []
  | item :: items => mapLeaves f item :: mapItems f items

def mapMembers (f : Value D → Value D) : List (Bytes × Value D) → List (Bytes × Value D)
  | [] => []
  | (name, value) :: members => (name, mapLeaves f value) :: mapMembers f members

end

@[simp] theorem leaves_of_isLeaf {value : Value D} (leaf : value.isLeaf = true) :
    value.leaves = [value] := by
  cases value with
  | array items => contradiction
  | object members => contradiction
  | null | int | uint | real | string | boolean => rfl

theorem mapLeaves_of_isLeaf {value : Value D} (leaf : value.isLeaf = true)
    (f : Value D → Value D) : value.mapLeaves f = f value := by
  cases value with
  | array items => contradiction
  | object members => contradiction
  | null | int | uint | real | string | boolean => rfl

/-- A leaf is replaced by a leaf. -/
def KeepsLeaves (f : Value D → Value D) : Prop :=
  ∀ value, value.isLeaf = true → (f value).isLeaf = true

/-- Nothing but the shape: every leaf is null. -/
def shape (value : Value D) : Value D := value.mapLeaves fun _ => .null

def shapeItems (items : List (Value D)) : List (Value D) := mapItems (fun _ => .null) items

def shapeMembers (members : List (Bytes × Value D)) : List (Bytes × Value D) :=
  mapMembers (fun _ => .null) members

theorem shape_of_isLeaf {value : Value D} (leaf : value.isLeaf = true) : value.shape = .null :=
  mapLeaves_of_isLeaf leaf _

mutual

/-- Leaves that are mapped to leaves are the leaves. -/
theorem leaves_mapLeaves {f : Value D → Value D} (leaf : KeepsLeaves f) :
    ∀ value : Value D, (value.mapLeaves f).leaves = value.leaves.map f
  | .array items => by
      rw [mapLeaves, leaves, leaves, leavesItems_mapItems leaf items]
  | .object members => by
      rw [mapLeaves, leaves, leaves, leavesMembers_mapMembers leaf members]
  | .null | .int _ | .uint _ | .real _ | .string _ | .boolean _ =>
      leaves_of_isLeaf (leaf _ rfl)

theorem leavesItems_mapItems {f : Value D → Value D} (leaf : KeepsLeaves f) :
    ∀ items : List (Value D), leavesItems (mapItems f items) = (leavesItems items).map f
  | [] => rfl
  | item :: items => by
      rw [mapItems, leavesItems, leavesItems, List.map_append, leaves_mapLeaves leaf item,
        leavesItems_mapItems leaf items]

theorem leavesMembers_mapMembers {f : Value D → Value D} (leaf : KeepsLeaves f) :
    ∀ members : List (Bytes × Value D),
      leavesMembers (mapMembers f members) = (leavesMembers members).map f
  | [] => rfl
  | (name, value) :: members => by
      rw [mapMembers, leavesMembers, leavesMembers, List.map_append, leaves_mapLeaves leaf value,
        leavesMembers_mapMembers leaf members]

end

mutual

theorem shape_mapLeaves {f : Value D → Value D} (leaf : KeepsLeaves f) :
    ∀ value : Value D, (value.mapLeaves f).shape = value.shape
  | .array items => congrArg Value.array (shapeItems_mapItems leaf items)
  | .object members => congrArg Value.object (shapeMembers_mapMembers leaf members)
  | .null | .int _ | .uint _ | .real _ | .string _ | .boolean _ =>
      shape_of_isLeaf (leaf _ rfl)

theorem shapeItems_mapItems {f : Value D → Value D} (leaf : KeepsLeaves f) :
    ∀ items : List (Value D), shapeItems (mapItems f items) = shapeItems items
  | [] => rfl
  | item :: items =>
      congrArg₂ List.cons (shape_mapLeaves leaf item) (shapeItems_mapItems leaf items)

theorem shapeMembers_mapMembers {f : Value D → Value D} (leaf : KeepsLeaves f) :
    ∀ members : List (Bytes × Value D), shapeMembers (mapMembers f members) = shapeMembers members
  | [] => rfl
  | (name, value) :: members =>
      congrArg₂ List.cons (congrArg (Prod.mk name) (shape_mapLeaves leaf value))
        (shapeMembers_mapMembers leaf members)

end

/-! ## Shape and leaves -/

@[simp] theorem isLeaf_shape (value : Value D) : value.shape.isLeaf = value.isLeaf := by
  cases value <;> rfl

/-- Values of one shape have as many leaves. -/
theorem length_leaves {value other : Value D} (same : value.shape = other.shape) :
    value.leaves.length = other.leaves.length := by
  have lengths := congrArg (fun shape => shape.leaves.length) same
  have null : KeepsLeaves fun _ : Value D => .null := fun _ _ => rfl
  simpa only [shape, leaves_mapLeaves null, List.length_map] using lengths

mutual

/-- **A value is determined by its shape and its leaves.** -/
theorem eq_of_leaves : ∀ {value other : Value D}, value.shape = other.shape →
    value.leaves = other.leaves → value = other
  | .array items, other, same, equal => by
      cases other with
      | array others =>
          rw [eq_of_leavesItems (Value.array.inj same) equal]
      | null | int | uint | real | string | boolean | object => exact nomatch same
  | .object members, other, same, equal => by
      cases other with
      | object others =>
          rw [eq_of_leavesMembers (Value.object.inj same) equal]
      | null | int | uint | real | string | boolean | array => exact nomatch same
  | .null, other, same, equal
  | .int _, other, same, equal
  | .uint _, other, same, equal
  | .real _, other, same, equal
  | .string _, other, same, equal
  | .boolean _, other, same, equal => by
      cases other with
      | array | object => exact nomatch same
      | null | int | uint | real | string | boolean => exact (List.cons.inj equal).1

theorem eq_of_leavesItems : ∀ {items others : List (Value D)},
    shapeItems items = shapeItems others → leavesItems items = leavesItems others →
      items = others
  | [], others, same, _ => by
      cases others with
      | nil => rfl
      | cons other others => exact nomatch same
  | item :: items, others, same, equal => by
      cases others with
      | nil => exact nomatch same
      | cons other others =>
          obtain ⟨first, rest⟩ := List.cons.inj same
          obtain ⟨here, later⟩ := List.append_inj equal (length_leaves first)
          rw [eq_of_leaves first here, eq_of_leavesItems rest later]

theorem eq_of_leavesMembers : ∀ {members others : List (Bytes × Value D)},
    shapeMembers members = shapeMembers others → leavesMembers members = leavesMembers others →
      members = others
  | [], others, same, _ => by
      cases others with
      | nil => rfl
      | cons other others => exact nomatch same
  | (name, value) :: members, others, same, equal => by
      cases others with
      | nil => exact nomatch same
      | cons other others =>
          obtain ⟨first, rest⟩ := List.cons.inj same
          obtain ⟨named, shaped⟩ := Prod.mk.inj first
          obtain ⟨here, later⟩ := List.append_inj equal (length_leaves shaped)
          rw [eq_of_leavesMembers rest later, named, eq_of_leaves shaped here]

end

end OpenDataCon.JSON.Value

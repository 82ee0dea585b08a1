import OpenDataCon.Configuration.ConfigParser

/-!
# Which objects a reload changes

A reload compares the entries of the new main file with those of the old one by their names.
Entries of one name are compared member by member, and then the files: the file of the
object, and the files that it inherits from directly. The old contents are those that were
kept when the old configuration was started; the new ones are read again.

The loop adds each new entry to what was found, by its name, and the null pointers that the
look-ups add to the old contents change none of them (`foldl_compare_spec`). The names that are
missing in the new file are added by the second loop (`mem_deletedNames`).
-/

set_option autoImplicit false

namespace OpenDataCon.Configuration

open Relation

universe u

variable {E : Type u}

/-! ## The comparison -/

deriving instance DecidableEq for JSONRoot

/-- An entry of a collection of the main file; members that are missing are null. -/
structure Object (E : Type u) where
  Name : Option String := none
  type : E
  Library : E
  ConfOverrides : E
  ConfFilename : String := ""
  others : E
deriving DecidableEq

/-- The old contents of the files, by their names. A pointer may be null. -/
abbrev FileConfs (E : Type u) := List (String × Option (JSONRoot E))

/-- The contents that a name points to. -/
def FileConfs.content (confs : FileConfs E) (FileName : String) : Option (JSONRoot E) :=
  (confs.lookup FileName).join

/-- `operator[]`: the pointer of a name, and a null pointer is added for a name that is missing. -/
def FileConfs.at (confs : FileConfs E) (FileName : String) :
    Option (JSONRoot E) × FileConfs E :=
  match confs.lookup FileName with
  | some pointer => (pointer, confs)
  | none => (none, (FileName, none) :: confs)

/-- The names of the objects that are created, changed and deleted. -/
structure Changes where
  created : Finset String := ∅
  changed : Finset String := ∅
  deleted : Finset String := ∅

section Code

variable [Inhabited E] [DecidableEq E] (newFiles : List (String × JSONRoot E))

/-- The loop over the files that are inherited directly. -/
def inheritsDiffer : List String → FileConfs E → Bool × FileConfs E
  | [], old_file_confs => (false, old_file_confs)
  | filename :: rest, old_file_confs =>
    let (pOldInherit, old_file_confs) := old_file_confs.at filename
    if pOldInherit.any (· ≠ recallOrCreate newFiles filename) then (true, old_file_confs)
    else inheritsDiffer rest old_file_confs

def isDifferent (old_object new_object : Object E) (old_file_confs : FileConfs E) :
    Bool × FileConfs E :=
  if old_object.type ≠ new_object.type then (true, old_file_confs)
  else if old_object.Library ≠ new_object.Library then (true, old_file_confs)
  else if old_object.ConfOverrides ≠ new_object.ConfOverrides then (true, old_file_confs)
  else
    let (pOld, old_file_confs) := old_file_confs.at old_object.ConfFilename
    let pNew := recallOrCreate newFiles new_object.ConfFilename
    if pOld.getD { elements := default } ≠ pNew then (true, old_file_confs)
    else inheritsDiffer newFiles (pNew.Inherits.getD []) old_file_confs

/-- What the loop over the new entries has found. -/
structure Comparison (E : Type u) where
  changed_confs : List (Object E) := []
  changes : Changes
  old_file_confs : FileConfs E

/-- One turn of the loop over the new entries. -/
def Comparison.compare (old_main_conf : List (Object E)) (state : Comparison E)
    (new_object : Object E) : Comparison E :=
  match new_object.Name with
  | none => state
  | some name =>
    match old_main_conf.find? fun old_object => old_object.Name = some name with
    | some old_object =>
      let (different, old_file_confs) :=
        isDifferent newFiles old_object new_object state.old_file_confs
      if different then
        { changed_confs := state.changed_confs ++ [new_object]
          changes := { state.changes with changed := insert name state.changes.changed }
          old_file_confs }
      else { state with old_file_confs }
    | none =>
      { state with
        changed_confs := state.changed_confs ++ [new_object]
        changes := { state.changes with created := insert name state.changes.created } }

/-- The loop over the old entries. -/
def deletedNames (old_main_conf new_main_conf : List (Object E)) (deleted : Finset String) :
    Finset String :=
  old_main_conf.foldl (fun deleted old_object =>
    if new_main_conf.any (fun new_object => old_object.Name = new_object.Name) then deleted
    else insert (old_object.Name.getD "") deleted) deleted

/-- `FindChangedConfs`, for the collection of one name. -/
def findChangedConfs (old_file_confs : FileConfs E) (old_main_conf new_main_conf : List (Object E))
    (changes : Changes) : Comparison E :=
  let compared := new_main_conf.foldl (Comparison.compare newFiles old_main_conf)
    { changes, old_file_confs }
  { compared with
    changes := { compared.changes with
      deleted := deletedNames old_main_conf new_main_conf compared.changes.deleted } }

end Code

/-! ## What is kept of the old files -/

section Pointers

theorem FileConfs.at_fst (confs : FileConfs E) (FileName : String) :
    (confs.at FileName).1 = confs.content FileName := by
  unfold FileConfs.at FileConfs.content
  cases confs.lookup FileName with
  | some pointer => rfl
  | none => rfl

/-- **A null pointer that is added changes no contents.** -/
theorem FileConfs.content_at (confs : FileConfs E) (FileName : String) :
    (confs.at FileName).2.content = confs.content := by
  unfold FileConfs.at
  cases found : confs.lookup FileName with
  | some pointer => rfl
  | none =>
      funext other
      unfold FileConfs.content
      rw [List.lookup_cons]
      cases same : other == FileName with
      | true =>
          rw [eq_of_beq same, found]
          rfl
      | false => rfl

end Pointers

/-! ## Which objects are different -/

section Different

variable [Inhabited E] [DecidableEq E] {newFiles : List (String × JSONRoot E)}
  {old_object new_object : Object E} {confs : FileConfs E}

/-- A difference of two entries, of their own files, or of a file that is inherited directly and
has old contents. -/
def DiffersDirectly (content : String → Option (JSONRoot E)) (newFiles : List (String × JSONRoot E))
    (old_object new_object : Object E) : Prop :=
  old_object.type ≠ new_object.type ∨ old_object.Library ≠ new_object.Library ∨
    old_object.ConfOverrides ≠ new_object.ConfOverrides ∨
    (content old_object.ConfFilename).getD { elements := default } ≠
      recallOrCreate newFiles new_object.ConfFilename ∨
    ∃ filename ∈ inherited newFiles new_object.ConfFilename, ∃ root ∈ content filename,
      root ≠ recallOrCreate newFiles filename

theorem inheritsDiffer_spec (filenames : List String) (confs : FileConfs E) :
    ((inheritsDiffer newFiles filenames confs).1 = true ↔
      ∃ filename ∈ filenames, ∃ root ∈ confs.content filename,
        root ≠ recallOrCreate newFiles filename) ∧
    (inheritsDiffer newFiles filenames confs).2.content = confs.content := by
  induction filenames generalizing confs with
  | nil => exact ⟨by simp [inheritsDiffer], rfl⟩
  | cons filename rest ih =>
      unfold inheritsDiffer
      dsimp only
      have here : (confs.at filename).1.any (· ≠ recallOrCreate newFiles filename) = true ↔
          ∃ root ∈ confs.content filename, root ≠ recallOrCreate newFiles filename := by
        rw [FileConfs.at_fst]
        cases confs.content filename <;> simp
      by_cases differs : (confs.at filename).1.any (· ≠ recallOrCreate newFiles filename) = true
      · rw [if_pos differs]
        refine ⟨iff_of_true rfl ⟨filename, List.mem_cons_self, here.mp differs⟩, ?_⟩
        exact confs.content_at filename
      · rw [if_neg differs]
        obtain ⟨found, kept⟩ := ih (confs.at filename).2
        rw [confs.content_at filename] at found kept
        refine ⟨found.trans ?_, kept⟩
        rw [List.exists_mem_cons_iff, or_iff_right fun other => differs (here.mpr other)]

theorem isDifferent_spec (old_object new_object : Object E) (confs : FileConfs E) :
    ((isDifferent newFiles old_object new_object confs).1 = true ↔
      DiffersDirectly confs.content newFiles old_object new_object) ∧
    (isDifferent newFiles old_object new_object confs).2.content = confs.content := by
  unfold isDifferent DiffersDirectly
  by_cases type : old_object.type ≠ new_object.type
  · rw [if_pos type]
    exact ⟨iff_of_true rfl (.inl type), rfl⟩
  · rw [if_neg type, or_iff_right type]
    by_cases library : old_object.Library ≠ new_object.Library
    · rw [if_pos library]
      exact ⟨iff_of_true rfl (.inl library), rfl⟩
    · rw [if_neg library, or_iff_right library]
      by_cases overrides : old_object.ConfOverrides ≠ new_object.ConfOverrides
      · rw [if_pos overrides]
        exact ⟨iff_of_true rfl (.inl overrides), rfl⟩
      · rw [if_neg overrides, or_iff_right overrides]
        dsimp only
        rw [FileConfs.at_fst]
        by_cases own : (confs.content old_object.ConfFilename).getD { elements := default } ≠
            recallOrCreate newFiles new_object.ConfFilename
        · rw [if_pos own]
          exact ⟨iff_of_true rfl (.inl own), confs.content_at _⟩
        · rw [if_neg own, or_iff_right own, inherited]
          have spec := @inheritsDiffer_spec _ _ _ newFiles
            ((recallOrCreate newFiles new_object.ConfFilename).Inherits.getD [])
            (confs.at old_object.ConfFilename).2
          rwa [confs.content_at] at spec

end Different

/-! ## The names of the entries -/

section Names

variable {old : List (Object E)}

/-- The old object of a name. -/
def oldObject (old : List (Object E)) (name : String) : Option (Object E) :=
  old.find? fun old_object => old_object.Name = some name

/-- The names of the entries that have one. -/
def names (objects : List (Object E)) : List String :=
  objects.filterMap Object.Name

theorem mem_names {objects : List (Object E)} {name : String} :
    name ∈ names objects ↔ ∃ object ∈ objects, object.Name = some name :=
  List.mem_filterMap

theorem oldObject_eq_none_iff {name : String} :
    oldObject old name = none ↔ name ∉ names old := by
  rw [oldObject, List.find?_eq_none, mem_names]
  simp

theorem eq_of_name {objects : List (Object E)} (distinct : (names objects).Nodup)
    {object other : Object E} (member : object ∈ objects) (otherMember : other ∈ objects)
    {name : String} (named : object.Name = some name) (otherNamed : other.Name = some name) :
    object = other := by
  by_contra different
  have apart := List.pairwise_filterMap.mp distinct
  have symmetric : Std.Symm fun first second : Object E => ∀ one, first.Name = some one →
      ∀ other, second.Name = some other → one ≠ other :=
    ⟨fun _ _ ne one oneNamed other otherNamed => (ne other otherNamed one oneNamed).symm⟩
  exact apart.forall member otherMember different _ named _ otherNamed rfl

theorem oldObject_eq_some_iff (distinct : (names old).Nodup) {name : String}
    {old_object : Object E} :
    oldObject old name = some old_object ↔ old_object ∈ old ∧ old_object.Name = some name := by
  have found : ∀ other, oldObject old name = some other →
      other ∈ old ∧ other.Name = some name := by
    intro other same
    rw [oldObject] at same
    exact ⟨List.mem_of_find?_eq_some same, by simpa using List.find?_some same⟩
  refine ⟨found old_object, fun ⟨member, named⟩ => ?_⟩
  cases other : oldObject old name with
  | none =>
      exact absurd (mem_names.mpr ⟨old_object, member, named⟩) (oldObject_eq_none_iff.mp other)
  | some another =>
      obtain ⟨anotherMember, anotherNamed⟩ := found another other
      rw [eq_of_name distinct anotherMember member anotherNamed named]

theorem mem_deletedNames {new : List (Object E)} {deleted : Finset String} {name : String} :
    name ∈ deletedNames old new deleted ↔ name ∈ deleted ∨
      ∃ old_object ∈ old, (∀ new_object ∈ new, old_object.Name ≠ new_object.Name) ∧
        old_object.Name.getD "" = name := by
  unfold deletedNames
  induction old generalizing deleted with
  | nil => simp
  | cons old_object rest ih =>
      rw [List.foldl_cons, ih, List.exists_mem_cons_iff, ← or_assoc]
      refine or_congr_left ?_
      by_cases found : new.any (fun new_object => old_object.Name = new_object.Name) = true
      · rw [if_pos found]
        refine (or_iff_left fun ⟨missing, _⟩ => ?_).symm
        obtain ⟨new_object, member, same⟩ := List.any_eq_true.mp found
        exact missing new_object member (of_decide_eq_true same)
      · rw [if_neg found, Finset.mem_insert, or_comm, eq_comm]
        refine or_congr_right (iff_and_self.mpr fun _ new_object member same => found ?_)
        exact List.any_eq_true.mpr ⟨new_object, member, decide_eq_true same⟩

end Names

/-! ## The loops -/

section Loops

variable [Inhabited E] [DecidableEq E] {newFiles : List (String × JSONRoot E)}
  {old : List (Object E)}

/-- A new entry is created, or changed as far as the comparison can tell. -/
def Taken (content : String → Option (JSONRoot E)) (newFiles : List (String × JSONRoot E))
    (old : List (Object E)) (new_object : Object E) : Prop :=
  ∃ name ∈ new_object.Name, ∀ old_object ∈ oldObject old name,
    DiffersDirectly content newFiles old_object new_object

open Classical in
/-- What the loop does for some of the new entries. -/
structure Compared (newFiles : List (String × JSONRoot E)) (old objects : List (Object E))
    (before after : Comparison E) : Prop where
  content : after.old_file_confs.content = before.old_file_confs.content
  confs : after.changed_confs = before.changed_confs ++
    objects.filter fun object => Taken before.old_file_confs.content newFiles old object
  created : ∀ name, name ∈ after.changes.created ↔ name ∈ before.changes.created ∨
    ∃ object ∈ objects, object.Name = some name ∧ oldObject old name = none
  changed : ∀ name, name ∈ after.changes.changed ↔ name ∈ before.changes.changed ∨
    ∃ object ∈ objects, object.Name = some name ∧ ∃ old_object ∈ oldObject old name,
      DiffersDirectly before.old_file_confs.content newFiles old_object object
  deleted : after.changes.deleted = before.changes.deleted

omit [DecidableEq E] in
theorem Compared.trans {first second : List (Object E)} {before between after : Comparison E}
    (one : Compared newFiles old first before between)
    (other : Compared newFiles old second between after) :
    Compared newFiles old (first ++ second) before after where
  content := other.content.trans one.content
  confs := by
    rw [other.confs, one.confs, one.content, List.filter_append, List.append_assoc]
  created name := by
    rw [other.created, one.created, or_assoc]
    simp only [List.mem_append, or_and_right, exists_or]
  changed name := by
    rw [other.changed, one.changed, one.content, or_assoc]
    simp only [List.mem_append, or_and_right, exists_or]
  deleted := other.deleted.trans one.deleted

/-- An entry without a name is passed over. -/
theorem compare_unnamed {new_object : Object E} (named : new_object.Name = none)
    (state : Comparison E) :
    Compared newFiles old [new_object] state (state.compare newFiles old new_object) := by
  have skipped : state.compare newFiles old new_object = state := by
    rw [Comparison.compare, named]
  rw [skipped]
  have notTaken : ¬Taken state.old_file_confs.content newFiles old new_object := by
    rintro ⟨name, other, -⟩
    rw [named] at other
    cases other
  refine ⟨rfl, ?_, ?_, ?_, rfl⟩
  · simp [notTaken]
  · simp [named]
  · simp [named]

/-- An entry of a new name is created. -/
theorem compare_fresh {new_object : Object E} {name : String}
    (named : new_object.Name = some name) (fresh : oldObject old name = none)
    (state : Comparison E) :
    Compared newFiles old [new_object] state (state.compare newFiles old new_object) := by
  have inserted : state.compare newFiles old new_object =
      { state with
        changed_confs := state.changed_confs ++ [new_object]
        changes := { state.changes with created := insert name state.changes.created } } := by
    rw [oldObject] at fresh
    rw [Comparison.compare, named]
    dsimp only
    rw [fresh]
  rw [inserted]
  have taken : Taken state.old_file_confs.content newFiles old new_object := by
    refine ⟨name, named, ?_⟩
    rw [fresh]
    simp
  refine ⟨rfl, ?_, fun other => ?_, fun other => ?_, rfl⟩
  · simp [taken]
  · simp only [List.mem_singleton, exists_eq_left]
    rw [Finset.mem_insert, named, Option.some_inj, or_comm, eq_comm]
    exact or_congr_right (iff_self_and.mpr fun same => same ▸ fresh)
  · simp only [List.mem_singleton, exists_eq_left]
    rw [named, Option.some_inj]
    refine (or_iff_left ?_).symm
    rintro ⟨rfl, old_object, inside, -⟩
    rw [fresh] at inside
    cases inside

/-- An entry of an old name is changed if the comparison finds it different. -/
theorem compare_known {new_object old_object : Object E} {name : String}
    (named : new_object.Name = some name) (known : oldObject old name = some old_object)
    (state : Comparison E) :
    Compared newFiles old [new_object] state (state.compare newFiles old new_object) := by
  obtain ⟨detects, kept⟩ := @isDifferent_spec _ _ _ newFiles old_object new_object
    state.old_file_confs
  have taken : Taken state.old_file_confs.content newFiles old new_object ↔
      DiffersDirectly state.old_file_confs.content newFiles old_object new_object := by
    rw [Taken, named]
    simp [known]
  have notCreated : ∀ other, ¬(new_object.Name = some other ∧ oldObject old other = none) := by
    rintro other ⟨same, fresh⟩
    obtain rfl := Option.some_inj.mp (named.symm.trans same)
    rw [known] at fresh
    cases fresh
  rw [oldObject] at known
  by_cases different : (isDifferent newFiles old_object new_object state.old_file_confs).1 = true
  · have inserted : state.compare newFiles old new_object =
        { changed_confs := state.changed_confs ++ [new_object]
          changes := { state.changes with changed := insert name state.changes.changed }
          old_file_confs :=
            (isDifferent newFiles old_object new_object state.old_file_confs).2 } := by
      rw [Comparison.compare, named]
      dsimp only
      rw [known]
      dsimp only
      rw [if_pos different]
    rw [inserted]
    refine ⟨kept, ?_, fun other => ?_, fun other => ?_, rfl⟩
    · simp [taken.mpr (detects.mp different)]
    · simp only [List.mem_singleton, exists_eq_left]
      exact (or_iff_left (notCreated other)).symm
    · simp only [List.mem_singleton, exists_eq_left]
      rw [Finset.mem_insert, named, Option.some_inj, or_comm, eq_comm]
      refine or_congr_right (iff_self_and.mpr fun same => ?_)
      exact ⟨old_object, same ▸ known, detects.mp different⟩
  · have skipped : state.compare newFiles old new_object =
        { state with
          old_file_confs :=
            (isDifferent newFiles old_object new_object state.old_file_confs).2 } := by
      rw [Comparison.compare, named]
      dsimp only
      rw [known]
      dsimp only
      rw [if_neg different]
    rw [skipped]
    refine ⟨kept, ?_, fun other => ?_, fun other => ?_, rfl⟩
    · simp [taken, detects.not.mp different]
    · simp only [List.mem_singleton, exists_eq_left]
      exact (or_iff_left (notCreated other)).symm
    · simp only [List.mem_singleton, exists_eq_left]
      rw [named, Option.some_inj]
      refine (or_iff_left ?_).symm
      rintro ⟨rfl, another, inside, found⟩
      obtain rfl := Option.some_inj.mp (known.symm.trans inside)
      exact different (detects.mpr found)

theorem compare_spec (state : Comparison E) (new_object : Object E) :
    Compared newFiles old [new_object] state (state.compare newFiles old new_object) := by
  cases named : new_object.Name with
  | none => exact compare_unnamed named state
  | some name =>
      cases found : oldObject old name with
      | none => exact compare_fresh named found state
      | some old_object => exact compare_known named found state

theorem foldl_compare_spec (objects : List (Object E)) (state : Comparison E) :
    Compared newFiles old objects state
      (objects.foldl (Comparison.compare newFiles old) state) := by
  induction objects generalizing state with
  | nil => exact ⟨rfl, (List.append_nil _).symm, by simp, by simp, rfl⟩
  | cons object rest ih => exact (compare_spec state object).trans (ih _)

end Loops

end OpenDataCon.Configuration

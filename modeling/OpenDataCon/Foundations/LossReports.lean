import Mathlib.Data.List.Chain

/-!
# Streams with reported losses

A buffer that can lose arrivals tells its reader where it did. Its history is a
list of segments: an arrival that was kept, or a run of lost arrivals with the
records that stand for it. The history is well told (`Reported`) when every
lost run is maximal, has at least one record, each of its records is a loss
record, and each of its arrivals had reason to be lost.

Three rules extend a history at its end: an arrival is kept (`Reported.keep`),
it is lost and a record says so (`Reported.lose`), or it is lost right after
another loss and nothing is added (`Reported.loseAgain`).
-/

set_option autoImplicit false

namespace OpenDataCon.LossReports

universe u v

/-- A kept arrival, or a run of lost arrivals and the records that stand for it. -/
inductive Segment (α : Type u) (ρ : Type v) where
  | kept (arrival : α)
  | lost (run : List α) (records : List ρ)

namespace Segment

variable {α : Type u} {ρ : Type v}

def isLost : Segment α ρ → Bool
  | kept _ => false
  | lost _ _ => true

def arrivals : Segment α ρ → List α
  | kept arrival => [arrival]
  | lost run _ => run

/-- What the reader gets: the record of a kept arrival, or the loss records. -/
def carried (record : α → ρ) : Segment α ρ → List ρ
  | kept arrival => [record arrival]
  | lost _ records => records

/-- A lost run is not empty, has loss records, and every arrival in it had reason. -/
def WellTold (reason : α → Prop) (isLossRecord : ρ → Prop) : Segment α ρ → Prop
  | kept _ => True
  | lost run records =>
    run ≠ [] ∧ records ≠ [] ∧ (∀ arrival ∈ run, reason arrival) ∧
      ∀ record ∈ records, isLossRecord record

end Segment

section Reports

variable {α : Type u} {ρ : Type v} {record : α → ρ} {reason : α → Prop}
  {isLossRecord : ρ → Prop}

/-- The history of the arrivals, as told by what the reader got. Two lost runs
never follow one another: each is maximal. -/
structure Reported (record : α → ρ) (reason : α → Prop) (isLossRecord : ρ → Prop)
    (segments : List (Segment α ρ)) (arrivals : List α) (carried : List ρ) : Prop where
  arrivals_eq : segments.flatMap Segment.arrivals = arrivals
  carried_eq : segments.flatMap (Segment.carried record) = carried
  wellTold : ∀ segment ∈ segments, segment.WellTold reason isLossRecord
  maximal : segments.IsChain fun first second => ¬(first.isLost ∧ second.isLost)

/-- The last segment is a loss. -/
def EndsLost (segments : List (Segment α ρ)) : Prop :=
  ∃ before run records, segments = before ++ [Segment.lost run records]

variable {segments : List (Segment α ρ)} {arrivals : List α} {carried : List ρ}

theorem Reported.nil : Reported record reason isLossRecord [] [] [] where
  arrivals_eq := rfl
  carried_eq := rfl
  wellTold := fun _ member => by cases member
  maximal := List.isChain_nil

/-- The next arrival is kept. -/
theorem Reported.keep (told : Reported record reason isLossRecord segments arrivals carried)
    (arrival : α) :
    Reported record reason isLossRecord (segments ++ [.kept arrival]) (arrivals ++ [arrival])
      (carried ++ [record arrival]) where
  arrivals_eq := by
    rw [List.flatMap_append, told.arrivals_eq]
    rfl
  carried_eq := by
    rw [List.flatMap_append, told.carried_eq]
    rfl
  wellTold := by
    intro segment member
    rcases List.mem_append.mp member with old | new
    · exact told.wellTold segment old
    · rw [List.mem_singleton.mp new]; trivial
  maximal := by
    refine List.isChain_append.mpr ⟨told.maximal, List.isChain_singleton _, ?_⟩
    intro last _ first isFirst both
    obtain rfl : Segment.kept arrival = first := by simpa using isFirst
    exact absurd both.2 Bool.false_ne_true

/-- A history that does not end in a loss, or is extended in its last loss, stays maximal
when that loss is the last segment. -/
theorem Reported.openLoss
    (told : Reported record reason isLossRecord segments arrivals carried) :
    ∃ before run records, arrivals = before.flatMap Segment.arrivals ++ run ∧
      carried = before.flatMap (Segment.carried record) ++ records ∧
      (∀ segment ∈ before, segment.WellTold reason isLossRecord) ∧
      (∀ arrival ∈ run, reason arrival) ∧ (∀ mark ∈ records, isLossRecord mark) ∧
      (EndsLost segments → records ≠ []) ∧
      ∀ newRun newRecords, (before ++ [Segment.lost newRun newRecords]).IsChain
        fun first second => ¬(first.isLost ∧ second.isLost) := by
  have extend (before : List (Segment α ρ))
      (chain : before.IsChain fun first second => ¬(first.isLost ∧ second.isLost))
      (notLost : ∀ last ∈ before.getLast?, last.isLost = false) (newRun : List α)
      (newRecords : List ρ) : (before ++ [Segment.lost newRun newRecords]).IsChain
        fun first second => ¬(first.isLost ∧ second.isLost) := by
    refine List.isChain_append.mpr ⟨chain, List.isChain_singleton _, ?_⟩
    intro last isLast first _ both
    rw [notLost last isLast] at both
    exact absurd both.1 Bool.false_ne_true
  rcases List.eq_nil_or_concat segments with rfl | ⟨before, last, rfl⟩
  · refine ⟨[], [], [], ?_, ?_, ?_, ?_, ?_, ?_, extend [] List.isChain_nil (by simp)⟩
    · exact told.arrivals_eq.symm
    · exact told.carried_eq.symm
    · intro segment member; cases member
    · intro arrival member; cases member
    · intro mark member; cases member
    · rintro ⟨before, run, records, none⟩
      exact absurd none.symm (by simp)
  · rw [List.concat_eq_append] at told ⊢
    obtain ⟨chain, -, apart⟩ := List.isChain_append.mp told.maximal
    cases last with
    | kept arrival =>
        refine ⟨before ++ [.kept arrival], [], [], ?_, ?_, told.wellTold, ?_, ?_, ?_,
          extend _ told.maximal (by simp [Segment.isLost])⟩
        · rw [List.append_nil, told.arrivals_eq]
        · rw [List.append_nil, told.carried_eq]
        · intro other member; cases member
        · intro mark member; cases member
        · rintro ⟨others, run, records, same⟩
          have ends := (List.append_inj' same rfl).2
          simp at ends
    | lost run records =>
        have lossTold := told.wellTold (.lost run records) (by simp)
        refine ⟨before, run, records, ?_, ?_, ?_, lossTold.2.2.1, lossTold.2.2.2,
          fun _ => lossTold.2.1, extend before chain ?_⟩
        · rw [← told.arrivals_eq, List.flatMap_append, List.flatMap_singleton]
          rfl
        · rw [← told.carried_eq, List.flatMap_append, List.flatMap_singleton]
          rfl
        · exact fun segment member => told.wellTold segment (by simp [member])
        · intro last isLast
          have loss := apart last isLast (.lost run records) (by simp)
          exact eq_false_of_ne_true fun isLost => loss ⟨isLost, rfl⟩

/-- The next arrival is lost, and a loss record is added. -/
theorem Reported.lose (told : Reported record reason isLossRecord segments arrivals carried)
    {arrival : α} {mark : ρ} (cause : reason arrival) (marks : isLossRecord mark) :
    ∃ extended, Reported record reason isLossRecord extended (arrivals ++ [arrival])
      (carried ++ [mark]) ∧ EndsLost extended := by
  obtain ⟨before, run, records, rfl, rfl, old, runReason, recordMarks, -, chain⟩ := told.openLoss
  refine ⟨before ++ [.lost (run ++ [arrival]) (records ++ [mark])],
    ⟨?_, ?_, ?_, chain _ _⟩, before, _, _, rfl⟩
  · rw [List.flatMap_append, List.flatMap_singleton, List.append_assoc]
    rfl
  · rw [List.flatMap_append, List.flatMap_singleton, List.append_assoc]
    rfl
  · intro segment member
    rcases List.mem_append.mp member with earlier | last
    · exact old segment earlier
    · rw [List.mem_singleton.mp last]
      refine ⟨by simp, by simp, fun other isOther => ?_, fun other isOther => ?_⟩
      · rcases List.mem_append.mp isOther with inRun | new
        · exact runReason other inRun
        · rw [List.mem_singleton.mp new]; exact cause
      · rcases List.mem_append.mp isOther with inRecords | new
        · exact recordMarks other inRecords
        · rw [List.mem_singleton.mp new]; exact marks

/-- The next arrival is lost right after a loss, and nothing is added. -/
theorem Reported.loseAgain
    (told : Reported record reason isLossRecord segments arrivals carried)
    (ends : EndsLost segments) {arrival : α} (cause : reason arrival) :
    ∃ extended, Reported record reason isLossRecord extended (arrivals ++ [arrival]) carried ∧
      EndsLost extended := by
  obtain ⟨before, run, records, rfl, rfl, old, runReason, recordMarks, some, chain⟩ :=
    told.openLoss
  refine ⟨before ++ [.lost (run ++ [arrival]) records],
    ⟨?_, ?_, ?_, chain _ _⟩, before, _, _, rfl⟩
  · rw [List.flatMap_append, List.flatMap_singleton, List.append_assoc]
    rfl
  · rw [List.flatMap_append, List.flatMap_singleton]
    rfl
  · intro segment member
    rcases List.mem_append.mp member with earlier | last
    · exact old segment earlier
    · rw [List.mem_singleton.mp last]
      refine ⟨by simp, some ends, fun other isOther => ?_, recordMarks⟩
      rcases List.mem_append.mp isOther with inRun | new
      · exact runReason other inRun
      · rw [List.mem_singleton.mp new]; exact cause

end Reports

end OpenDataCon.LossReports

import OpenDataCon.Foundations.Runs

/-!
# What a run has put out so far

An output may be right or wrong by what was put out before it. `EachAfter Right` holds of a trace
when each of its outputs is right after the ones before it, and an invariant may speak of the state
and of the trace that led to it (`guarded_trace`).
-/

set_option autoImplicit false

namespace OpenDataCon.Traces

open Runs

universe u v w

variable {σ : Type u} {ι : Type v} {ο : Type w}

/-- Every output is right after those that were seen and those before it. -/
def EachAfter (Right : List ο → ο → Prop) : List ο → List ο → Prop
  | _, [] => True
  | seen, output :: rest => Right seen output ∧ EachAfter Right (seen ++ [output]) rest

/-- Whether every output is right can be computed. -/
instance decidableEachAfter (Right : List ο → ο → Prop)
    [decided : ∀ seen output, Decidable (Right seen output)] :
    ∀ seen trace, Decidable (EachAfter Right seen trace)
  | _, [] => .isTrue trivial
  | seen, output :: rest =>
    have := decided seen output
    have := decidableEachAfter Right (seen ++ [output]) rest
    inferInstanceAs (Decidable (_ ∧ _))

variable {Right : List ο → ο → Prop}

theorem eachAfter_append {seen first second : List ο} :
    EachAfter Right seen (first ++ second) ↔
      EachAfter Right seen first ∧ EachAfter Right (seen ++ first) second := by
  induction first generalizing seen with
  | nil => simp [EachAfter]
  | cons output rest ih =>
      simp only [List.cons_append, EachAfter, ih, and_assoc, List.append_assoc, List.nil_append]

@[simp] theorem eachAfter_nil {seen : List ο} : EachAfter Right seen [] := trivial

@[simp] theorem eachAfter_singleton {seen : List ο} {output : ο} :
    EachAfter Right seen [output] ↔ Right seen output := iff_of_eq (and_true _)

/-- One more output that is right after the whole trace. -/
theorem EachAfter.snoc {trace : List ο} (each : EachAfter Right [] trace) {output : ο}
    (right : Right trace output) : EachAfter Right [] (trace ++ [output]) :=
  eachAfter_append.mpr ⟨each, eachAfter_singleton.mpr right⟩

/-- What is right stays so after more has been seen. -/
theorem EachAfter.mono
    (stays : ∀ {seen more : List ο} {output : ο}, seen ⊆ more → Right seen output →
      Right more output) {seen more trace : List ο} (within : seen ⊆ more)
    (each : EachAfter Right seen trace) : EachAfter Right more trace := by
  induction trace generalizing seen more with
  | nil => trivial
  | cons output rest ih =>
      refine ⟨stays within each.1, ih (fun other member => ?_) each.2⟩
      rcases List.mem_append.mp member with before | last
      · exact List.mem_append_left _ (within before)
      · exact List.mem_append_right _ last

/-- An output anywhere in the trace is right after the ones before it. -/
theorem EachAfter.at {before after : List ο} {output : ο}
    (each : EachAfter Right [] (before ++ output :: after)) : Right before output :=
  (eachAfter_append.mp each).2.1

variable {step : σ → ι → σ × List ο} {guard : σ → ι → Prop}

/-- **What every guarded step keeps of the trace and the state** holds after every guarded run. -/
theorem guarded_trace (Invariant : List ο → σ → Prop)
    (keeps : ∀ trace state input, Invariant trace state → guard state input →
      Invariant (trace ++ (step state input).2) (step state input).1)
    {trace : List ο} {state : σ} {inputs : List ι} (start : Invariant trace state)
    (guarded : Guarded step guard state inputs) :
    Invariant (trace ++ (run step state inputs).2) (run step state inputs).1 := by
  induction inputs generalizing trace state with
  | nil =>
      rw [run_nil, List.append_nil]
      exact start
  | cons input rest ih =>
      rw [run_cons, ← List.append_assoc]
      exact ih (keeps trace state input start guarded.1) guarded.2

end OpenDataCon.Traces

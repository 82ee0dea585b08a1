import Mathlib.Data.List.Basic

/-!
# Runs of a machine with outputs

A machine takes one input at a time, changes its state and puts out a list of
outputs. `run` feeds it a list of inputs and collects what it puts out.

Feeding two lists one after the other is feeding their concatenation
(`run_append`), so the way a stream is cut does not matter (`run_chunks`). A
property that every step keeps holds after every run, and a property that
every step has of its outputs holds of all outputs (`run_invariant`,
`run_outputs`). When a step keeps the property only where a guard holds, the
run must meet the guard at every step (`Guarded`). Where the outputs of a machine are the
inputs of another, the two runs follow one another (`run_pipe`).
-/

set_option autoImplicit false

namespace OpenDataCon.Runs

universe u v w

variable {σ : Type u} {ι : Type v} {ο : Type w}

/-- Feed the inputs in order and collect the outputs. -/
def run (step : σ → ι → σ × List ο) : σ → List ι → σ × List ο
  | state, [] => (state, [])
  | state, input :: rest =>
    let first := step state input
    let later := run step first.1 rest
    (later.1, first.2 ++ later.2)

section Runs

variable {step : σ → ι → σ × List ο}

@[simp] theorem run_nil (state : σ) : run step state [] = (state, []) := rfl

theorem run_cons (state : σ) (input : ι) (rest : List ι) :
    run step state (input :: rest) =
      ((run step (step state input).1 rest).1,
        (step state input).2 ++ (run step (step state input).1 rest).2) := rfl

theorem run_singleton (state : σ) (input : ι) : run step state [input] = step state input := by
  rw [run_cons, run_nil, List.append_nil]

theorem run_append (state : σ) (first second : List ι) :
    run step state (first ++ second) =
      ((run step (run step state first).1 second).1,
        (run step state first).2 ++ (run step (run step state first).1 second).2) := by
  induction first generalizing state with
  | nil => rfl
  | cons input rest ih => simp only [List.cons_append, run_cons, ih, List.append_assoc]

/-- Inputs that are made from other things. -/
theorem run_map {κ : Type*} (f : κ → ι) (state : σ) (keys : List κ) :
    run step state (keys.map f) = run (fun state key => step state (f key)) state keys := by
  induction keys generalizing state with
  | nil => rfl
  | cons key rest ih => simp only [List.map_cons, run_cons, ih]

/-- **Feeding a stream in chunks is feeding it whole.** -/
theorem run_chunks (state : σ) (chunks : List (List ι)) :
    run (run step) state chunks = run step state chunks.flatten := by
  induction chunks generalizing state with
  | nil => rfl
  | cons chunk rest ih => rw [List.flatten_cons, run_append, run_cons, ih]

/-- A machine seen through its states is another machine, step by step and so over every run. -/
theorem run_view {τ : Type*} {step : σ → ι → σ × List ο} {seen : τ → ι → τ × List ο} (view : σ → τ)
    (same : ∀ state input, (view (step state input).1, (step state input).2) =
      seen (view state) input) (state : σ) (inputs : List ι) :
    (view (run step state inputs).1, (run step state inputs).2) =
      run seen (view state) inputs := by
  induction inputs generalizing state with
  | nil => rfl
  | cons input rest ih =>
      rw [run_cons, run_cons, ← same, ← ih]

/-- Two machines, the second fed with what the first puts out. -/
def pipe {τ υ : Type*} (first : σ → ι → σ × List ο) (second : τ → ο → τ × List υ)
    (state : σ × τ) (input : ι) : (σ × τ) × List υ :=
  let made := first state.1 input
  let done := run second state.2 made.2
  ((made.1, done.1), done.2)

/-- **A run of the pipe runs the second machine over what the first one puts out.** -/
theorem run_pipe {τ υ : Type*} (first : σ → ι → σ × List ο) (second : τ → ο → τ × List υ)
    (state : σ × τ) (inputs : List ι) :
    run (pipe first second) state inputs =
      (((run first state.1 inputs).1, (run second state.2 (run first state.1 inputs).2).1),
        (run second state.2 (run first state.1 inputs).2).2) := by
  induction inputs generalizing state with
  | nil => rfl
  | cons input rest ih =>
      rw [run_cons, ih, run_cons, run_append]
      rfl

/-- The guard holds of every input at the state where it is taken. -/
def Guarded (step : σ → ι → σ × List ο) (guard : σ → ι → Prop) : σ → List ι → Prop
  | _, [] => True
  | state, input :: rest =>
    guard state input ∧ Guarded step guard (step state input).1 rest

/-- Whether a run is guarded can be computed. -/
instance decidableGuarded (step : σ → ι → σ × List ο) (guard : σ → ι → Prop)
    [decided : ∀ state input, Decidable (guard state input)] :
    ∀ state inputs, Decidable (Guarded step guard state inputs)
  | _, [] => .isTrue trivial
  | state, input :: rest =>
    have := decided state input
    have := decidableGuarded step guard (step state input).1 rest
    inferInstanceAs (Decidable (_ ∧ _))

variable {guard : σ → ι → Prop}

theorem guarded_append {state : σ} {first second : List ι} :
    Guarded step guard state (first ++ second) ↔
      Guarded step guard state first ∧ Guarded step guard (run step state first).1 second := by
  induction first generalizing state with
  | nil => simp [Guarded]
  | cons input rest ih =>
      simp only [List.cons_append, Guarded, run_cons, ih, and_assoc]

/-- A guard that always holds. -/
theorem guarded_true (state : σ) (inputs : List ι) :
    Guarded step (fun _ _ => True) state inputs := by
  induction inputs generalizing state with
  | nil => trivial
  | cons input rest ih => exact ⟨trivial, ih _⟩

/-- A property of all inputs may join the guard. -/
theorem Guarded.and_inputs {P : ι → Prop} {state : σ} {inputs : List ι}
    (guarded : Guarded step guard state inputs) (all : ∀ input ∈ inputs, P input) :
    Guarded step (fun state input => P input ∧ guard state input) state inputs := by
  induction inputs generalizing state with
  | nil => trivial
  | cons input rest ih =>
      exact ⟨⟨all input List.mem_cons_self, guarded.1⟩,
        ih guarded.2 fun later member => all later (List.mem_cons_of_mem _ member)⟩

variable (Invariant : σ → Prop) {Good : ο → Prop}

/-- What every guarded step keeps holds after every guarded run. -/
theorem guarded_invariant
    (keeps : ∀ state input, Invariant state → guard state input → Invariant (step state input).1)
    {state : σ} {inputs : List ι} (start : Invariant state)
    (guarded : Guarded step guard state inputs) : Invariant (run step state inputs).1 := by
  induction inputs generalizing state with
  | nil => exact start
  | cons input rest ih => exact ih (keeps state input start guarded.1) guarded.2

/-- What every guarded step from the invariant has of its outputs holds of all outputs. -/
theorem guarded_outputs
    (keeps : ∀ state input, Invariant state → guard state input → Invariant (step state input).1)
    (puts : ∀ state input, Invariant state → guard state input →
      ∀ output ∈ (step state input).2, Good output)
    {state : σ} {inputs : List ι} (start : Invariant state)
    (guarded : Guarded step guard state inputs) :
    ∀ output ∈ (run step state inputs).2, Good output := by
  induction inputs generalizing state with
  | nil => intro output member; cases member
  | cons input rest ih =>
      intro output member
      rw [run_cons] at member
      rcases List.mem_append.mp member with first | later
      · exact puts state input start guarded.1 output first
      · exact ih (keeps state input start guarded.1) guarded.2 output later

/-- **Where every guarded step from the invariant is correct, so is every step of a guarded
run.** -/
theorem Guarded.of_invariant {Correct : σ → ι → Prop}
    (keeps : ∀ state input, Invariant state → guard state input → Invariant (step state input).1)
    (correct : ∀ state input, Invariant state → guard state input → Correct state input)
    {state : σ} {inputs : List ι} (start : Invariant state)
    (guarded : Guarded step guard state inputs) : Guarded step Correct state inputs := by
  induction inputs generalizing state with
  | nil => trivial
  | cons input rest ih =>
      exact ⟨correct state input start guarded.1, ih (keeps state input start guarded.1) guarded.2⟩

/-- What every step keeps holds after every run. -/
theorem run_invariant (keeps : ∀ state input, Invariant state → Invariant (step state input).1)
    {state : σ} (start : Invariant state) (inputs : List ι) :
    Invariant (run step state inputs).1 :=
  guarded_invariant Invariant (fun state input holds _ => keeps state input holds) start
    (guarded_true state inputs)

/-- What every step from the invariant has of its outputs holds of all outputs. -/
theorem run_outputs (keeps : ∀ state input, Invariant state → Invariant (step state input).1)
    (puts : ∀ state input, Invariant state → ∀ output ∈ (step state input).2, Good output)
    {state : σ} (start : Invariant state) (inputs : List ι) :
    ∀ output ∈ (run step state inputs).2, Good output :=
  guarded_outputs Invariant (fun state input holds _ => keeps state input holds)
    (fun state input holds _ => puts state input holds) start (guarded_true state inputs)

/-- **Where the outputs of a step are good exactly when its guard holds, the outputs of a run are
good exactly when it is guarded.** -/
theorem outputs_iff_guarded
    (keeps : ∀ state input, Invariant state → Invariant (step state input).1)
    (good : ∀ state input, Invariant state →
      ((∀ output ∈ (step state input).2, Good output) ↔ guard state input))
    {state : σ} (start : Invariant state) (inputs : List ι) :
    (∀ output ∈ (run step state inputs).2, Good output) ↔ Guarded step guard state inputs := by
  induction inputs generalizing state with
  | nil => exact iff_of_true (fun output member => by cases member) trivial
  | cons input rest ih =>
      rw [run_cons, Guarded, ← good state input start, ← ih (keeps state input start),
        List.forall_mem_append]

/-- What every step has of its outputs, from any state, holds of all outputs. -/
theorem outputs_of_step (puts : ∀ state input, ∀ output ∈ (step state input).2, Good output)
    (state : σ) (inputs : List ι) : ∀ output ∈ (run step state inputs).2, Good output :=
  run_outputs (fun _ => True) (fun _ _ _ => trivial) (fun state input _ => puts state input)
    trivial inputs

/-- Outputs that do not depend on the state are those of the inputs one by one. -/
theorem run_stateless {outputs : ι → List ο}
    (same : ∀ state input, (step state input).2 = outputs input) (state : σ) (inputs : List ι) :
    (run step state inputs).2 = inputs.flatMap outputs := by
  induction inputs generalizing state with
  | nil => rfl
  | cons input rest ih => rw [run_cons, same, ih, List.flatMap_cons]

end Runs

/-! ## Runs seen from one place -/

section Views

variable {α : Type*} {step : σ → ι → σ × List ο} (Invariant : σ → Prop) (view : σ → α)
  (seen : ο → Bool)

/-- From the invariant, an input changes nothing in view and puts out nothing that is seen. -/
structure Silent (step : σ → ι → σ × List ο) (Invariant : σ → Prop) (view : σ → α)
    (seen : ο → Bool) (input : ι) : Prop where
  keeps : ∀ state, Invariant state → Invariant (step state input).1
  unchanged : ∀ state, Invariant state → view (step state input).1 = view state
  unseen : ∀ state, Invariant state → (step state input).2.filter seen = []

/-- Silent inputs make a silent run. -/
theorem run_silent {inputs : List ι}
    (silent : ∀ input ∈ inputs, Silent step Invariant view seen input) {state : σ}
    (start : Invariant state) :
    Invariant (run step state inputs).1 ∧ view (run step state inputs).1 = view state ∧
      (run step state inputs).2.filter seen = [] := by
  induction inputs generalizing state with
  | nil => exact ⟨start, rfl, rfl⟩
  | cons input rest ih =>
      have first := silent input List.mem_cons_self
      obtain ⟨holds, unchanged, unseen⟩ :=
        ih (fun later member => silent later (List.mem_cons_of_mem _ member))
          (first.keeps state start)
      rw [run_cons]
      refine ⟨holds, unchanged.trans (first.unchanged state start), ?_⟩
      rw [List.filter_append, first.unseen state start, unseen, List.append_nil]

/-- **A run with one input that is not silent is that input**, taken at a state
that looks like the first one. -/
theorem run_once {before after : List ι} {input : ι}
    (silentBefore : ∀ other ∈ before, Silent step Invariant view seen other)
    (silentAfter : ∀ other ∈ after, Silent step Invariant view seen other)
    (keeps : ∀ state, Invariant state → Invariant (step state input).1) {state : σ}
    (start : Invariant state) :
    ∃ here, Invariant here ∧ view here = view state ∧
      view (run step state (before ++ input :: after)).1 = view (step here input).1 ∧
      (run step state (before ++ input :: after)).2.filter seen =
        (step here input).2.filter seen := by
  obtain ⟨holds, unchanged, unseen⟩ := run_silent Invariant view seen silentBefore start
  obtain ⟨-, unchangedAfter, unseenAfter⟩ :=
    run_silent Invariant view seen silentAfter (keeps _ holds)
  refine ⟨(run step state before).1, holds, unchanged, ?_, ?_⟩
  · rw [run_append, run_cons]
    exact unchangedAfter
  · rw [run_append, run_cons, List.filter_append, List.filter_append, unseen, unseenAfter,
      List.nil_append, List.append_nil]

end Views

end OpenDataCon.Runs

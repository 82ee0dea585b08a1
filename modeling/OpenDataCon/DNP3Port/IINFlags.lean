import Mathlib.Data.BitVec
import OpenDataCon.Foundations.Linearization
import OpenDataCon.Foundations.Runs

/-!
# The internal indications of an outstation

`SetIINFlags` and `ClearIINFlags` read the flags and then exchange them for a guess, until the value
they get back is the one the guess was made from. Each load and each exchange is one step, and the
steps of concurrent calls may come in any order.

An exchange writes its guess before the check. When every exchange of a `Set` differs from the
flags in nothing but the flags it sets, and every exchange of a `Clear` finds the value it was made
from, with all of its flags set, the calls act as if they were done one after the other, and a call
that runs alone ends (`run_linearized`). Otherwise a `Clear` may set flags, and two calls of `Set`
may leave one of them in its loop for ever (`run_notLinearized`, `alone_set_never`).
-/

set_option autoImplicit false

namespace OpenDataCon.DNP3Port

open Linearization Runs

/-! ## Calls and their steps -/

abbrev AppIINFlags := BitVec 8

inductive IINOperation where
  | set | clear
deriving DecidableEq, Repr

structure IINCall where
  operation : IINOperation
  flags : AppIINFlags
deriving DecidableEq, Repr

namespace IINCall

variable (call : IINCall) (oldIINs : AppIINFlags)

/-- What the call is meant to do. -/
def apply : AppIINFlags :=
  match call.operation with
  | .set => oldIINs ||| call.flags
  | .clear => oldIINs &&& ~~~call.flags

/-- There is something to set, or something to clear. -/
def hasTo : Bool :=
  match call.operation with
  | .set => oldIINs &&& call.flags != call.flags
  | .clear => oldIINs &&& call.flags != 0#8

/-- What an exchange writes. -/
def guess : AppIINFlags :=
  match call.operation with
  | .set => oldIINs ||| call.flags
  | .clear => oldIINs ^^^ call.flags

end IINCall

/-- A call has not started, is about to exchange with an expected value, or has returned. -/
inductive IINPhase where
  | waiting
  | looping (oldIINs : AppIINFlags)
  | finished
deriving DecidableEq, Repr

structure IINState where
  iinFlags : AppIINFlags
  phase : Nat → IINPhase := fun _ => .waiting

namespace IINState

variable (calls : List IINCall)

/-- The state with another phase of a call. -/
def setPhase (state : IINState) (i : Nat) (phase : IINPhase) : IINState :=
  { state with phase := Function.update state.phase i phase }

/-- The next load or exchange of a call. -/
def step (state : IINState) (i : Nat) : IINState × List Unit :=
  match calls[i]? with
  | none => (state, [])
  | some call =>
    match state.phase i with
    | .waiting =>
      (state.setPhase i
        (if call.hasTo state.iinFlags then .looping state.iinFlags else .finished), [])
    | .looping oldIINs =>
      let exIINs := state.iinFlags
      ({ state with iinFlags := call.guess oldIINs }.setPhase i
        (if oldIINs != exIINs then .looping exIINs else .finished), [])
    | .finished => (state, [])

/-- The exchange of a `Set` differs from the flags in what it sets, and that of a `Clear` finds the
value it expects, with all of its flags set. -/
def SafeStep (state : IINState) (i : Nat) : Prop :=
  match calls[i]?, state.phase i with
  | some ⟨.set, flags⟩, .looping oldIINs => oldIINs ||| flags = state.iinFlags ||| flags
  | some ⟨.clear, flags⟩, .looping oldIINs =>
    oldIINs = state.iinFlags ∧ state.iinFlags &&& flags = flags
  | _, _ => True

instance decidableSafeStep (state : IINState) (i : Nat) : Decidable (SafeStep calls state i) :=
  match called : calls[i]?, phase : state.phase i with
  | some ⟨.set, flags⟩, .looping oldIINs =>
    decidable_of_iff (oldIINs ||| flags = state.iinFlags ||| flags)
      (by unfold SafeStep; rw [called, phase])
  | some ⟨.clear, flags⟩, .looping oldIINs =>
    decidable_of_iff (oldIINs = state.iinFlags ∧ state.iinFlags &&& flags = flags)
      (by unfold SafeStep; rw [called, phase])
  | none, _ => .isTrue (by unfold SafeStep; rw [called]; trivial)
  | some ⟨.set, _⟩, .waiting => .isTrue (by unfold SafeStep; rw [called, phase]; trivial)
  | some ⟨.clear, _⟩, .waiting => .isTrue (by unfold SafeStep; rw [called, phase]; trivial)
  | some ⟨.set, _⟩, .finished => .isTrue (by unfold SafeStep; rw [called, phase]; trivial)
  | some ⟨.clear, _⟩, .finished => .isTrue (by unfold SafeStep; rw [called, phase]; trivial)

/-- The call with a number, done as it is meant. -/
def applyCall (i : Nat) (iinFlags : AppIINFlags) : AppIINFlags :=
  match calls[i]? with
  | none => iinFlags
  | some call => call.apply iinFlags

/-- A call keeps the flags outside its own and fixes its own. -/
theorem getLsbD_apply (call : IINCall) (iinFlags : AppIINFlags) {i : Nat} (inByte : i < 8) :
    (call.apply iinFlags).getLsbD i =
      if call.flags.getLsbD i then call.operation == .set else iinFlags.getLsbD i := by
  obtain ⟨operation, flags⟩ := call
  cases operation with
  | set =>
      rw [IINCall.apply, BitVec.getLsbD_or]
      cases flags.getLsbD i <;> simp
  | clear =>
      rw [IINCall.apply, BitVec.getLsbD_and, BitVec.getLsbD_not]
      cases flags.getLsbD i <;> simp [inByte]

/-- Done again, a call changes nothing, and what it fixes stays out of the others' sight. -/
theorem overriding_applyCall : Overriding (applyCall calls) where
  again := by
    intro i iinFlags
    unfold applyCall
    cases calls[i]? with
    | none => rfl
    | some call =>
        apply BitVec.eq_of_getLsbD_eq
        intro bit inByte
        rw [getLsbD_apply call _ inByte, getLsbD_apply call _ inByte]
        split <;> rfl
  congr := by
    intro i j first second same
    unfold applyCall at same ⊢
    cases calls[j]? with
    | none => exact same
    | some other =>
        cases called : calls[i]? with
        | none =>
            rw [called] at same
            dsimp only at same ⊢
            rw [same]
        | some call =>
            rw [called] at same
            dsimp only at same ⊢
            apply BitVec.eq_of_getLsbD_eq
            intro bit inByte
            have bits := congrArg (fun iinFlags => iinFlags.getLsbD bit) same
            simp only [getLsbD_apply _ _ inByte] at bits ⊢
            split
            · rfl
            · next outside =>
                rw [if_neg outside, if_neg outside] at bits
                rw [bits]

variable {calls}

@[simp] theorem setPhase_iinFlags (state : IINState) (i : Nat) (phase : IINPhase) :
    (state.setPhase i phase).iinFlags = state.iinFlags := rfl

theorem setPhase_phase (state : IINState) (i : Nat) (phase : IINPhase) (j : Nat) :
    (state.setPhase i phase).phase j = if j = i then phase else state.phase j :=
  Function.update_apply state.phase i phase j

/-- **A safe exchange does what its call is meant to do.** -/
theorem guess_of_safe {state : IINState} {i : Nat} {call : IINCall} {oldIINs : AppIINFlags}
    (called : calls[i]? = some call) (looping : state.phase i = .looping oldIINs)
    (safe : SafeStep calls state i) : call.guess oldIINs = call.apply state.iinFlags := by
  obtain ⟨operation, flags⟩ := call
  unfold SafeStep at safe
  rw [called, looping] at safe
  cases operation with
  | set => exact safe
  | clear =>
      obtain ⟨rfl, whole⟩ := safe
      apply BitVec.eq_of_getLsbD_eq
      intro bit inByte
      have own := congrArg (fun iinFlags => iinFlags.getLsbD bit) whole
      simp only [BitVec.getLsbD_and] at own
      rw [getLsbD_apply _ _ inByte, IINCall.guess, BitVec.getLsbD_xor]
      cases set : flags.getLsbD bit with
      | false => simp
      | true =>
          rw [set, Bool.and_true] at own
          rw [own]
          rfl

/-- A call that has nothing to do is done. -/
theorem apply_of_not_hasTo {call : IINCall} {iinFlags : AppIINFlags}
    (nothing : call.hasTo iinFlags = false) : call.apply iinFlags = iinFlags := by
  obtain ⟨operation, flags⟩ := call
  apply BitVec.eq_of_getLsbD_eq
  intro bit inByte
  rw [getLsbD_apply _ _ inByte]
  cases operation with
  | set =>
      have same : iinFlags &&& flags = flags := by simpa [IINCall.hasTo] using nothing
      have bits := congrArg (fun iinFlags => iinFlags.getLsbD bit) same
      simp only [BitVec.getLsbD_and] at bits
      cases set : flags.getLsbD bit with
      | false => rfl
      | true =>
          rw [set, Bool.and_true] at bits
          rw [bits]
          rfl
  | clear =>
      have same : iinFlags &&& flags = 0#8 := by simpa [IINCall.hasTo] using nothing
      have bits := congrArg (fun iinFlags => iinFlags.getLsbD bit) same
      simp only [BitVec.getLsbD_and, BitVec.getLsbD_zero] at bits
      cases set : flags.getLsbD bit with
      | false => rfl
      | true =>
          rw [set, Bool.and_true] at bits
          rw [bits]
          rfl

/-! ## Calls one after the other -/

/-- The flags are those after some calls, each done once; every call that has returned is one of
them. -/
structure DoneInOrder (calls : List IINCall) (start : AppIINFlags) (state : IINState)
    (order : List Nat) : Prop where
  nodup : order.Nodup
  inRange : ∀ i ∈ order, i < calls.length
  finished : ∀ i, state.phase i = .finished → i ∈ order
  iinFlags : state.iinFlags = applyAll (applyCall calls) order start

/-- A call is done, for the first time or again. -/
theorem DoneInOrder.moveLast {start : AppIINFlags} {state after : IINState} {order : List Nat}
    (done : DoneInOrder calls start state order) {i : Nat} (inRange : i < calls.length)
    (iinFlags : after.iinFlags = applyCall calls i state.iinFlags)
    (others : ∀ j, j ≠ i → after.phase j = state.phase j) :
    DoneInOrder calls start after (Linearization.moveLast order i) where
  nodup := nodup_moveLast done.nodup i
  inRange := by
    intro j member
    rcases mem_moveLast.mp member with rfl | before
    · exact inRange
    · exact done.inRange j before
  finished := by
    intro j finished
    refine mem_moveLast.mpr ?_
    by_cases same : j = i
    · exact .inl same
    · exact .inr (done.finished j (others j same ▸ finished))
  iinFlags := by
    rw [(overriding_applyCall calls).applyAll_moveLast, iinFlags, done.iinFlags]

/-- **A safe step keeps the calls in an order.** -/
theorem step_doneInOrder {start : AppIINFlags} {state : IINState} {i : Nat}
    (done : ∃ order, DoneInOrder calls start state order) (safe : SafeStep calls state i) :
    ∃ order, DoneInOrder calls start (state.step calls i).1 order := by
  obtain ⟨order, done⟩ := done
  unfold step
  cases called : calls[i]? with
  | none => exact ⟨order, done⟩
  | some call =>
      have inRange : i < calls.length := (List.getElem?_eq_some_iff.mp called).1
      have isCall (iinFlags : AppIINFlags) : applyCall calls i iinFlags = call.apply iinFlags := by
        rw [applyCall, called]
      have others (phase : IINPhase) (j : Nat) (other : j ≠ i) :
          (state.setPhase i phase).phase j = state.phase j := by
        rw [setPhase_phase, if_neg other]
      dsimp only
      cases phase : state.phase i with
      | finished => exact ⟨order, done⟩
      | waiting =>
          dsimp only
          cases hasTo : call.hasTo state.iinFlags with
          | false =>
              refine ⟨_, done.moveLast inRange ?_ (others .finished)⟩
              rw [isCall, apply_of_not_hasTo hasTo]
              rfl
          | true =>
              refine ⟨order, { done with finished := ?_ }⟩
              intro j finished
              rw [if_pos rfl, setPhase_phase] at finished
              split at finished
              · cases finished
              · exact done.finished j finished
      | looping oldIINs =>
          refine ⟨_, done.moveLast inRange ?_ fun j other => ?_⟩
          · rw [isCall, ← guess_of_safe called phase safe]
            rfl
          · dsimp only
            rw [setPhase_phase, if_neg other]

/-! ## A call alone -/

/-- Steps of one call. -/
def alone (calls : List IINCall) (state : IINState) (i : Nat) (steps : Nat) : IINState :=
  (run (step calls) state (List.replicate steps i)).1

/-- An exchange: it ends the call when it finds the expected value. -/
theorem step_looping {state : IINState} {i : Nat} {call : IINCall} {oldIINs : AppIINFlags}
    (called : calls[i]? = some call) (looping : state.phase i = .looping oldIINs) :
    (state.step calls i).1.iinFlags = call.guess oldIINs ∧
      (state.step calls i).1.phase i =
        if oldIINs = state.iinFlags then .finished else .looping state.iinFlags := by
  unfold step
  rw [called]
  dsimp only
  rw [looping]
  refine ⟨rfl, ?_⟩
  dsimp only
  rw [setPhase_phase, if_pos rfl]
  by_cases same : oldIINs = state.iinFlags <;> simp [same]

/-- A call that has returned stays so. -/
theorem alone_of_finished (calls : List IINCall) {state : IINState} {i : Nat}
    (finished : state.phase i = .finished) (steps : Nat) :
    (alone calls state i steps).phase i = .finished := by
  have still : (state.step calls i).1 = state := by
    unfold step
    cases calls[i]? with
    | none => rfl
    | some call =>
        dsimp only
        rw [finished]
  induction steps with
  | zero => exact finished
  | succ steps ih =>
      rw [alone, List.replicate_succ, run_cons, still]
      exact ih

/-- A call that expects the flags as they are ends with its next step. -/
theorem alone_of_expected {state : IINState} {i : Nat} (inRange : i < calls.length)
    (expected : state.phase i = .looping state.iinFlags) (steps : Nat) :
    (alone calls state i (steps + 1)).phase i = .finished := by
  have next := (step_looping (List.getElem?_eq_getElem inRange) expected).2
  rw [if_pos rfl] at next
  exact alone_of_finished calls next steps

/-- **A safe call that runs alone ends**, after its load and at most three exchanges. -/
theorem alone_ends {state : IINState} {i : Nat} (inRange : i < calls.length)
    (safe : SafeStep calls state i) : (alone calls state i 3).phase i = .finished := by
  have called := List.getElem?_eq_getElem inRange
  cases phase : state.phase i with
  | finished => exact alone_of_finished calls phase 3
  | waiting =>
      have next : (state.step calls i).1.phase i = .finished ∨
          (state.step calls i).1.phase i = .looping (state.step calls i).1.iinFlags := by
        unfold step
        rw [called]
        dsimp only
        rw [phase]
        dsimp only
        rw [setPhase_phase, if_pos rfl, setPhase_iinFlags]
        split
        · exact .inr rfl
        · exact .inl rfl
      rcases next with finished | expected
      · exact alone_of_finished calls finished 2
      · exact alone_of_expected inRange expected 1
  | looping oldIINs =>
      by_cases first : oldIINs = state.iinFlags
      · exact alone_of_expected inRange (first ▸ phase) 2
      · -- only a `Set` may expect another value; its second guess is what it has written already
        obtain ⟨written, next⟩ := step_looping called phase
        rw [if_neg first] at next
        obtain ⟨writtenAgain, nextAgain⟩ := step_looping called next
        by_cases second : state.iinFlags = (state.step calls i).1.iinFlags
        · rw [second] at next
          exact alone_of_expected inRange next 1
        · rw [if_neg second] at nextAgain
          refine alone_of_expected inRange (nextAgain.trans ?_) 0
          rw [written, writtenAgain]
          unfold SafeStep at safe
          rw [called, phase] at safe
          generalize calls[i] = call at safe
          obtain ⟨operation, flags⟩ := call
          cases operation with
          | set => exact congrArg IINPhase.looping safe
          | clear => exact absurd safe.1 first

/-- **A `Set` whose guess is wrong stays in its loop for ever**, when it runs alone: it goes on
exchanging two values that are wrong for each other. -/
theorem alone_set_never {i : Nat} {flags : AppIINFlags} (called : calls[i]? = some ⟨.set, flags⟩)
    (steps : Nat) {state : IINState} {oldIINs : AppIINFlags}
    (looping : state.phase i = .looping oldIINs)
    (wrong : oldIINs ||| flags ≠ state.iinFlags ||| flags) :
    ∃ now, (alone calls state i steps).phase i = .looping now := by
  induction steps generalizing state oldIINs with
  | zero => exact ⟨oldIINs, looping⟩
  | succ steps ih =>
      obtain ⟨written, next⟩ := step_looping called looping
      have different : oldIINs ≠ state.iinFlags := fun same => wrong (by rw [same])
      rw [if_neg different] at next
      refine ih next ?_
      rw [written, IINCall.guess, BitVec.or_assoc, BitVec.or_self]
      exact wrong.symm

/-- The flags are those of the calls done one after the other in some order. -/
def AsInSomeOrder (calls : List IINCall) (start : AppIINFlags) (state : IINState) : Prop :=
  ∃ order : List Nat, order.Perm (List.range calls.length) ∧
    state.iinFlags = applyAll (applyCall calls) order start

/-- **Safe calls act as if they were done one after the other**, and one that runs alone in the end
returns. -/
theorem run_linearized (calls : List IINCall) (start : AppIINFlags) (schedule : List Nat)
    (safe : Guarded (step calls) (SafeStep calls) { iinFlags := start } schedule) :
    let state := (run (step calls) { iinFlags := start } schedule).1
    ((∀ i < calls.length, state.phase i = .finished) → AsInSomeOrder calls start state) ∧
      ∀ i < calls.length, ∀ before, schedule = before ++ List.replicate 3 i →
        state.phase i = .finished := by
  intro state
  refine ⟨fun finished => ?_, fun i inRange before whole => ?_⟩
  · obtain ⟨order, done⟩ := guarded_invariant
      (fun state => ∃ order, DoneInOrder calls start state order)
      (fun _ _ done safe => step_doneInOrder done safe)
      ⟨[], List.nodup_nil, fun _ member => absurd member List.not_mem_nil,
        fun _ finished => IINPhase.noConfusion finished, rfl⟩ safe
    refine ⟨order, perm_range done.nodup fun i => ?_, done.iinFlags⟩
    exact ⟨done.inRange i, fun inRange => done.finished i (finished i inRange)⟩
  · rw [whole] at safe
    have ends := alone_ends inRange (guarded_append.mp safe).2.1
    change (run (step calls) ({ iinFlags := start } : IINState) schedule).1.phase i = .finished
    rw [whole, run_append]
    exact ends

/-- A `Set` and a `Clear` of two flags, with a `Set` between the load and the exchange of the first
that sets one of its flags. -/
theorem run_linearized_three :
    let calls : List IINCall := [⟨.set, 0x03#8⟩, ⟨.set, 0x01#8⟩, ⟨.clear, 0x03#8⟩]
    let state := (run (step calls) { iinFlags := 0x10#8 } [0, 1, 1, 0, 0, 0, 2, 2]).1
    state.iinFlags = 0x10#8 ∧ AsInSomeOrder calls 0x10#8 state := by
  intro calls state
  have linearized := run_linearized calls 0x10#8 [0, 1, 1, 0, 0, 0, 2, 2] (by decide +kernel)
  exact ⟨by decide, linearized.1 (by decide)⟩

/-- A `Clear` of two flags, one of which is set, sets the other. Two calls of `Set` that have loaded
the same value: when one is done, the other, which then runs alone, never ends. -/
theorem run_notLinearized :
    let clear : List IINCall := [⟨.clear, 0x03#8⟩]
    let sets : List IINCall := [⟨.set, 0x01#8⟩, ⟨.set, 0x02#8⟩]
    let cleared := (run (step clear) { iinFlags := 0x01#8 } [0, 0]).1
    ((∀ i < clear.length, cleared.phase i = .finished) ∧ cleared.iinFlags = 0x02#8 ∧
      ¬AsInSomeOrder clear 0x01#8 cleared) ∧
    ∀ steps, (run (step sets) { iinFlags := 0#8 } ([0, 1, 1] ++ List.replicate steps 0)).1.phase 0 ≠
      .finished := by
  intro clear sets cleared
  refine ⟨⟨by decide, by decide, ?_⟩, fun steps => ?_⟩
  · rintro ⟨order, arranged, iinFlags⟩
    have one : order = [0] := List.perm_singleton.mp arranged
    rw [one] at iinFlags
    exact absurd iinFlags (by decide)
  · rw [run_append]
    obtain ⟨now, looping⟩ := @alone_set_never sets 0 0x01#8 rfl steps
      (run (step sets) { iinFlags := 0#8 } [0, 1, 1]).1 0#8 (by decide) (by decide)
    intro finished
    exact IINPhase.noConfusion (looping.symm.trans finished)

end IINState

end OpenDataCon.DNP3Port

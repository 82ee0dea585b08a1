import OpenDataCon.Foundations.Runs

/-!
# Messages from a stream of blocks

A block may start a message, and it may end one. A starting block always begins a new
message, whatever was under construction; another block joins the message under
construction, or is dropped when there is none. A block that ends a message hands it on.

Every message handed on is well formed, from any stream (`run_wellFormed`), and well-formed
messages one after the other are handed on as they are (`run_messages`).
-/

set_option autoImplicit false

namespace OpenDataCon.Assembly

open Runs

variable {β : Type*} (starts ends : β → Bool)

/-- A block joins the message under construction. -/
def take (message : List β) (block : β) : List β :=
  if starts block then [block]
  else if message.isEmpty then []
  else message ++ [block]

/-- A block is taken; the message it ends is handed on. -/
def step (message : List β) (block : β) : List β × List (List β) :=
  let message := take starts message block
  if ends block && !message.isEmpty then ([], [message]) else (message, [])

/-- The first block of a message starts it, and no other does. -/
structure Begun (message : List β) : Prop where
  first : ∀ block ∈ message.head?, starts block = true
  later : ∀ block ∈ message.tail, starts block = false

/-- The last block of a message ends it, and no other does. -/
structure WellFormed (message : List β) : Prop extends Begun starts message where
  unfinished : ∀ block ∈ message.dropLast, ends block = false
  finished : ∃ block ∈ message.getLast?, ends block = true

/-- A message under construction has begun and has not ended. -/
structure Open (message : List β) : Prop extends Begun starts message where
  unfinished : ∀ block ∈ message, ends block = false

variable {starts ends}

theorem open_nil : Open starts ends [] where
  first block member := by simp at member
  later block member := by simp at member
  unfinished block member := by simp at member

/-- Either the message stays without its last block, or the block is its last one. -/
theorem take_cases (message : List β) (block : β) :
    take starts message block = [] ∨
      ∃ before, (before = [] ∨ before = message) ∧
        take starts message block = before ++ [block] := by
  unfold take
  split
  · exact .inr ⟨[], .inl rfl, rfl⟩
  · split
    · exact .inl rfl
    · exact .inr ⟨message, .inr rfl, rfl⟩

theorem Begun.take {message : List β} (begun : Begun starts message) (block : β) :
    Begun starts (take starts message block) := by
  unfold Assembly.take
  split
  · next start =>
    refine ⟨fun other member => ?_, fun other member => by simp at member⟩
    rw [List.head?_cons, Option.mem_some_iff] at member
    rw [← member, start]
  · next noStart =>
    split
    · exact (@open_nil _ starts starts).toBegun
    · next some =>
      obtain ⟨first, rest, rfl⟩ := List.exists_cons_of_ne_nil (by simpa using some)
      refine ⟨begun.first, fun other member => ?_⟩
      rcases List.mem_append.mp member with old | new
      · exact begun.later other old
      · rw [List.mem_singleton.mp new]
        simpa using noStart

/-- **A block keeps a message begun and open, and what it hands on is well formed.** -/
theorem step_open {message : List β} (before : Open starts ends message) (block : β) :
    Open starts ends (step starts ends message block).1 ∧
      ∀ routed ∈ (step starts ends message block).2, WellFormed starts ends routed := by
  have begun := before.toBegun.take block
  unfold step
  dsimp only
  split
  · next complete =>
    rw [Bool.and_eq_true, Bool.not_eq_true'] at complete
    refine ⟨open_nil, fun routed member => ?_⟩
    rw [List.mem_singleton.mp member]
    rcases take_cases message block with nothing | ⟨old, origin, last⟩
    · rw [nothing] at complete
      exact absurd complete.2 (by simp)
    · refine ⟨begun, fun other inside => ?_, block, ?_, complete.1⟩
      · rw [last, List.dropLast_concat] at inside
        rcases origin with rfl | rfl
        · simp at inside
        · exact before.unfinished other inside
      · rw [last, List.getLast?_concat]
        exact rfl
  · next incomplete =>
    refine ⟨⟨begun, fun other member => ?_⟩, fun routed member => by simp at member⟩
    rcases take_cases message block with nothing | ⟨old, origin, last⟩
    · rw [nothing] at member
      simp at member
    · rw [last] at member incomplete
      rcases List.mem_append.mp member with earlier | new
      · rcases origin with rfl | rfl
        · simp at earlier
        · exact before.unfinished other earlier
      · rw [List.mem_singleton.mp new]
        simpa using incomplete

/-- **Every message handed on is well formed.** -/
theorem run_wellFormed (blocks : List β) :
    ∀ routed ∈ (run (step starts ends) [] blocks).2, WellFormed starts ends routed :=
  run_outputs (Open starts ends) (fun _ block before => (step_open before block).1)
    (fun _ block before => (step_open before block).2) open_nil blocks

/-- The blocks of the messages handed on are among those that came in. -/
theorem run_blocks {holds : β → Prop} {message : List β} (before : ∀ block ∈ message, holds block)
    {blocks : List β} (coming : ∀ block ∈ blocks, holds block) :
    ∀ routed ∈ (run (step starts ends) message blocks).2, ∀ block ∈ routed, holds block := by
  have taken : ∀ (message : List β) (block : β), (∀ other ∈ message, holds other) →
      holds block → ∀ other ∈ take starts message block, holds other := by
    intro message block old new other member
    rcases take_cases message block with nothing | ⟨kept, origin, last⟩
    · rw [nothing] at member
      simp at member
    · rw [last] at member
      rcases List.mem_append.mp member with earlier | here
      · rcases origin with rfl | rfl
        · simp at earlier
        · exact old other earlier
      · rw [List.mem_singleton.mp here]
        exact new
  induction blocks generalizing message with
  | nil => exact fun routed member => by simp at member
  | cons block rest ih =>
      have here := taken message block before (coming block List.mem_cons_self)
      have later := fun other member => coming other (List.mem_cons_of_mem block member)
      intro routed member
      rw [run_cons] at member
      rcases List.mem_append.mp member with first | after
      · unfold step at first
        dsimp only at first
        split at first
        · rw [List.mem_singleton.mp first]
          exact here
        · simp at first
      · refine ih ?_ later routed after
        unfold step
        dsimp only
        split
        · exact fun other absent => by simp at absent
        · exact here

/-- The later blocks of a message join it, and the last one hands it on. -/
theorem run_rest {message : List β} (rest : List β) (some : message ≠ []) (more : rest ≠ [])
    (later : ∀ block ∈ rest, starts block = false)
    (unfinished : ∀ block ∈ rest.dropLast, ends block = false)
    (finished : ∃ block ∈ rest.getLast?, ends block = true) :
    run (step starts ends) message rest = ([], [message ++ rest]) := by
  induction rest generalizing message with
  | nil => exact absurd rfl more
  | cons block others ih =>
      have joins : take starts message block = message ++ [block] := by
        simp [take, later block List.mem_cons_self, some]
      cases others with
      | nil =>
          obtain ⟨last, isLast, ended⟩ := finished
          obtain rfl : block = last := by simpa using isLast
          simp [run_singleton, step, joins, ended]
      | cons next others =>
          have continues : ends block = false := unfinished block (by simp)
          have first : step starts ends message block = (message ++ [block], []) := by
            simp [step, joins, continues]
          rw [run_cons, first, ih (by simp) (by simp)
            (fun other member => later other (List.mem_cons_of_mem _ member))
            (fun other member => unfinished other (by simp [member]))
            (by simpa using finished)]
          simp

/-- **A well-formed message is handed on as it is.** -/
theorem run_message {message : List β} (formed : WellFormed starts ends message) :
    run (step starts ends) [] message = ([], [message]) := by
  obtain ⟨last, isLast, ended⟩ := formed.finished
  cases message with
  | nil => simp at isLast
  | cons first rest =>
      have start := formed.first first (by simp)
      have begins : take starts [] first = [first] := by simp [take, start]
      cases rest with
      | nil =>
          obtain rfl : first = last := by simpa using isLast
          simp [run_singleton, step, begins, ended]
      | cons next others =>
          have continues : ends first = false := formed.unfinished first (by simp)
          have opened : step starts ends [] first = ([first], []) := by
            simp [step, begins, continues]
          rw [run_cons, opened, run_rest (next :: others) (by simp) (by simp) formed.later
            (fun other member => formed.unfinished other (List.mem_cons_of_mem _ member))
            ⟨last, by simpa using isLast, ended⟩]
          simp

/-- **Well-formed messages one after the other are handed on in order.** -/
theorem run_messages {messages : List (List β)}
    (formed : ∀ message ∈ messages, WellFormed starts ends message) :
    run (step starts ends) [] messages.flatten = ([], messages) := by
  induction messages with
  | nil => rfl
  | cons message rest ih =>
      rw [List.flatten_cons, run_append, run_message (formed message List.mem_cons_self),
        ih fun other member => formed other (List.mem_cons_of_mem _ member)]
      rfl

end OpenDataCon.Assembly

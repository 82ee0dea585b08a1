import OpenDataCon.JSONPort.Points

/-!
# The direction of a control

A control with two directions has the values that stand for them configured, both or
one, or is left to the default words. `check_val` takes the words for on and close
together and those for off and trip, and a tripping control asks it for trip first: the
default words get the opposite direction there, and only there
(`controlTurn_direction_iff`).
-/

set_option autoImplicit false

namespace OpenDataCon.JSONPort

open Connectors Exceptions JSON Outcome
open FileTransfer (Bytes ascii)
open MD3Port (ControlCode ControlRelayOutputBlock)

variable {D : Type}

/-! ## Values on the way to a decoder -/

theorem atPath_eq {α : Type} {JSONRoot nodes val : Value D} {point : Point D}
    (path : point.lookup (ascii "JSONPath") = some nodes)
    (leads : traversePath JSONRoot nodes = .ok val) (found : val.isNull = false) (missing : α)
    (decode : Value D → Except Thrown α) : atPath JSONRoot point missing decode = decode val := by
  have walked : atPath JSONRoot point missing decode =
      if val.isNull then .ok missing else decode val := by
    rw [atPath, path]
    show (traversePath JSONRoot nodes >>= _) = _
    rw [leads]
    rfl
  rw [walked, found]
  rfl

/-! ## The numbers of a control -/

variable [Doubles D]

/-- The numbers that a control is sent with can be read. -/
def NumbersFit (point : Point D) : Prop :=
  ∀ name ∈ ["PulseCount", "OnTimems", "OffTimems"], ∀ number : Value D,
    point.lookup (ascii name) = some number → ∃ value, number.asUInt = .ok value

theorem numberOf_ok {point : Point D} {name : String}
    (fits : ∀ number : Value D, point.lookup (ascii name) = some number →
      ∃ value, number.asUInt = .ok value) (default : Nat) :
    ∃ value, numberOf point name default = .ok value := by
  rw [numberOf]
  cases given : point.lookup (ascii name) with
  | none => exact ⟨default, rfl⟩
  | some number =>
      obtain ⟨value, read⟩ := fits number given
      exact ⟨value.toNat, by simp only [read]; rfl⟩

theorem numberOf_error {point : Point D} {name : String} {number : Value D}
    (given : point.lookup (ascii name) = some number)
    (unread : ¬∃ value, number.asUInt = .ok value) (default : Nat) :
    ∃ thrown, numberOf point name default = .error thrown := by
  rw [numberOf, given]
  cases read : number.asUInt with
  | ok value => exact absurd ⟨value, read⟩ unread
  | error thrown => exact ⟨thrown, by simp only [read]; rfl⟩

section Command

variable [DecidableEq D] {point : Point D} {val : Value D}

theorem controlCommand_none (undirected : functionCode point val = .ok none) :
    controlCommand point val = .ok none := by
  rw [controlCommand, undirected]
  rfl

theorem controlCommand_ok {code : ControlCode} (directed : functionCode point val = .ok (some code))
    (fits : NumbersFit point) :
    ∃ command, controlCommand point val = .ok (some command) ∧ command.functionCode = code := by
  obtain ⟨count, counted⟩ := numberOf_ok (fits "PulseCount" (by simp)) 1
  obtain ⟨onTime, on⟩ := numberOf_ok (fits "OnTimems" (by simp)) 100
  obtain ⟨offTime, off⟩ := numberOf_ok (fits "OffTimems" (by simp)) 100
  refine ⟨⟨code, count % 2 ^ 8, onTime, offTime, .SUCCESS⟩, ?_, rfl⟩
  simp only [controlCommand, directed, counted, on, off]
  rfl

theorem controlCommand_error {code : ControlCode}
    (directed : functionCode point val = .ok (some code)) (unfit : ¬NumbersFit point) :
    ∃ thrown, controlCommand point val = .error thrown := by
  cases counted : numberOf point "PulseCount" 1 with
  | error thrown => exact ⟨thrown, by simp only [controlCommand, directed, counted]; rfl⟩
  | ok count =>
      cases on : numberOf point "OnTimems" 100 with
      | error thrown => exact ⟨thrown, by simp only [controlCommand, directed, counted, on]; rfl⟩
      | ok onTime =>
          cases off : numberOf point "OffTimems" 100 with
          | error thrown =>
              exact ⟨thrown, by simp only [controlCommand, directed, counted, on, off]; rfl⟩
          | ok offTime =>
              refine absurd ?_ unfit
              intro name named number given
              by_contra unread
              simp only [List.mem_cons, List.not_mem_nil, or_false] at named
              rcases named with rfl | rfl | rfl
              · obtain ⟨thrown, fails⟩ := numberOf_error given unread 1
                rw [counted] at fails
                contradiction
              · obtain ⟨thrown, fails⟩ := numberOf_error given unread 100
                rw [on] at fails
                contradiction
              · obtain ⟨thrown, fails⟩ := numberOf_error given unread 100
                rw [off] at fails
                contradiction

/-! ## Directions -/

theorem directionCode_ok {direction : Bool} {truename falsename : String}
    {trueCode falseCode : ControlCode}
    (checked : checkVal point val truename falsename = .ok direction) :
    directionCode point val truename falsename trueCode falseCode =
      .ok (some (if direction then trueCode else falseCode)) := by
  rw [directionCode, checked]

theorem directionCode_unexpected {message : String} {truename falsename : String}
    {trueCode falseCode : ControlCode}
    (checked : checkVal point val truename falsename = .error (.runtimeError message)) :
    directionCode point val truename falsename trueCode falseCode = .ok none := by
  rw [directionCode, checked]
  rfl

/-- The code by the configured values of the directions. -/
theorem directionCode_configured (point : Point D) (val : Value D) (truename falsename : String)
    (trueCode falseCode : ControlCode) :
    match point.lookup (ascii truename), point.lookup (ascii falsename) with
    | some first, some second =>
      directionCode point val truename falsename trueCode falseCode =
        .ok (if val = first then some trueCode else if val = second then some falseCode else none)
    | some first, none =>
      directionCode point val truename falsename trueCode falseCode =
        .ok (some (if val = first then trueCode else falseCode))
    | none, some second =>
      directionCode point val truename falsename trueCode falseCode =
        .ok (some (if val = second then falseCode else trueCode))
    | none, none => True := by
  cases first : point.lookup (ascii truename) with
  | some trueVal =>
      cases second : point.lookup (ascii falsename) with
      | some falseVal =>
          by_cases isTrue : val = trueVal
          · have checked : checkVal point val truename falsename = .ok true := by
              simp [checkVal, first, second, isTrue]
            rw [directionCode_ok checked]
            simp [isTrue]
          · by_cases isFalse : val = falseVal
            · have checked : checkVal point val truename falsename = .ok false := by
                simp [checkVal, first, second, isTrue, ← isFalse]
              rw [directionCode_ok checked]
              simp [isTrue, ← isFalse]
            · have checked : checkVal point val truename falsename =
                  .error (.runtimeError "Unexpected control value") := by
                simp [checkVal, first, second, isTrue, isFalse]
              rw [directionCode_unexpected checked]
              simp [isTrue, isFalse]
      | none =>
          have checked : checkVal point val truename falsename = .ok (decide (val = trueVal)) := by
            simp [checkVal, first, second]
          rw [directionCode_ok checked]
          simp
  | none =>
      cases second : point.lookup (ascii falsename) with
      | some falseVal =>
          have checked : checkVal point val truename falsename = .ok (decide (val ≠ falseVal)) := by
            simp [checkVal, first, second]
          rw [directionCode_ok checked]
          by_cases isFalse : val = falseVal <;> simp [isFalse]
      | none => trivial

/-- No word stands for both directions. -/
theorem words_disjoint : ∀ text ∈ offWords, text ∉ onWords := by decide

/-- The code by the default words. -/
theorem directionCode_words {truename falsename : String} {trueCode falseCode : ControlCode}
    (first : point.lookup (ascii truename) = none) (second : point.lookup (ascii falsename) = none)
    {text : Bytes} (word : text ∈ onWords ++ offWords) :
    directionCode point (.string text) truename falsename trueCode falseCode =
      .ok (some (if text ∈ onWords then trueCode else falseCode)) := by
  have known : ¬(text ∉ onWords ∧ text ∉ offWords) := by
    rintro ⟨notOn, notOff⟩
    rcases List.mem_append.mp word with on | off
    · exact notOn on
    · exact notOff off
  have checked : checkVal point (.string text) truename falsename =
      .ok (decide (text ∈ onWords)) := by
    rw [checkVal, first, second]
    exact if_neg known
  rw [directionCode_ok checked]
  simp

end Command

/-- The modes of a control. -/
inductive ControlMode where
  | LATCH | TRIPCLOSE | PULSE
deriving DecidableEq, Repr

namespace ControlMode

def text : ControlMode → Bytes
  | .LATCH => ascii "LATCH"
  | .TRIPCLOSE => ascii "TRIPCLOSE"
  | .PULSE => ascii "PULSE"

/-- What the values of the two directions are called, on or trip and off or close. -/
def names : ControlMode → Option (String × String)
  | .LATCH => some ("OnVal", "OffVal")
  | .TRIPCLOSE => some ("TripVal", "CloseVal")
  | .PULSE => none

/-- The configured values of the two directions. -/
def configured (point : Point D) (mode : ControlMode) : Option (Value D) × Option (Value D) :=
  match mode.names with
  | some (truename, falsename) => (point.lookup (ascii truename), point.lookup (ascii falsename))
  | none => (none, none)

/-- The codes of the two directions. -/
def codes : ControlMode → ControlCode × ControlCode
  | .LATCH => (.LATCH_ON, .LATCH_OFF)
  | .TRIPCLOSE => (.TRIP_PULSE_ON, .CLOSE_PULSE_ON)
  | .PULSE => (.PULSE_ON, .PULSE_ON)

end ControlMode

/-- A control with a code is published. -/
def Sends (turn : Except Thrown (Turn (Event D))) (code : ControlCode) : Prop :=
  ∃ event command, turn = .ok (.yield event) ∧
    event.payload = .ControlRelayOutputBlock command ∧ command.functionCode = code

/-- The control of a value in each of the four configurations, the last of which leaves it
to the default words. -/
def Directed (mode : ControlMode) (point : Point D) (val : Value D)
    (turn : Except Thrown (Turn (Event D))) : Prop :=
  match mode.configured point with
  | (some first, some second) =>
    (val = first → Sends turn mode.codes.1) ∧ (val = second → Sends turn mode.codes.2) ∧
      (val ≠ first → val ≠ second → turn = .ok .skip)
  | (some first, none) =>
    (val = first → Sends turn mode.codes.1) ∧ (val ≠ first → Sends turn mode.codes.2)
  | (none, some second) =>
    (val = second → Sends turn mode.codes.2) ∧ (val ≠ second → Sends turn mode.codes.1)
  | (none, none) =>
    ∀ text, val = .string text →
      (text ∈ onWords → ¬Sends turn .LATCH_OFF ∧ ¬Sends turn .TRIP_PULSE_ON) ∧
      (text ∈ offWords → ¬Sends turn .LATCH_ON ∧ ¬Sends turn .CLOSE_PULSE_ON)

/-- A tripping control that is left to the default words is sent one of them. -/
def Inverted (mode : ControlMode) (point : Point D) (val : Value D) : Prop :=
  mode = .TRIPCLOSE ∧ mode.configured point = (none, none) ∧
    ∃ text ∈ onWords ++ offWords, val = .string text

/-- A configured value decides on a control. -/
def Decided (mode : ControlMode) (point : Point D) (val : Value D) : Prop :=
  match mode.configured point with
  | (some first, some second) => val = first ∨ val = second
  | (none, none) => False
  | _ => True

section Turns

variable [DecidableEq D] {port : Port D} {JSONRoot nodes val : Value D} {index : Index}
  {timestamp : BitVec 64} {point : Point D}

theorem controlTurn_eq (path : point.lookup (ascii "JSONPath") = some nodes)
    (leads : traversePath JSONRoot nodes = .ok val) (found : val.isNull = false) :
    controlTurn port JSONRoot timestamp (index, point) =
      (controlCommand point val).map fun command =>
        match command with
        | some command => .yield ⟨index, port.name, QualityFlags.NONE, timestamp,
            .ControlRelayOutputBlock command⟩
        | none => .skip := by
  rw [controlTurn, atPath_eq path leads found]
  cases controlCommand point val with
  | error thrown => rfl
  | ok command =>
      cases command with
      | none => rfl
      | some command => rfl

/-- Which control is published. -/
theorem sends_iff (path : point.lookup (ascii "JSONPath") = some nodes)
    (leads : traversePath JSONRoot nodes = .ok val) (found : val.isNull = false)
    {chosen code : ControlCode} (directed : functionCode point val = .ok (some chosen)) :
    Sends (controlTurn port JSONRoot timestamp (index, point)) code ↔
      NumbersFit point ∧ chosen = code := by
  rw [controlTurn_eq path leads found]
  by_cases fits : NumbersFit point
  · obtain ⟨command, sent, rfl⟩ := controlCommand_ok directed fits
    rw [sent]
    constructor
    · rintro ⟨event, other, yields, payload, rfl⟩
      obtain rfl := Turn.yield.inj (Except.ok.inj yields)
      obtain rfl := Payload.ControlRelayOutputBlock.inj payload
      exact ⟨fits, rfl⟩
    · rintro ⟨-, rfl⟩
      exact ⟨_, command, rfl, rfl, rfl⟩
  · obtain ⟨thrown, fails⟩ := controlCommand_error directed fits
    rw [fails]
    constructor
    · rintro ⟨event, other, yields, -⟩
      exact nomatch yields
    · rintro ⟨fits', -⟩
      exact absurd fits' fits

theorem controlTurn_skip (path : point.lookup (ascii "JSONPath") = some nodes)
    (leads : traversePath JSONRoot nodes = .ok val) (found : val.isNull = false)
    (undirected : functionCode point val = .ok none) :
    controlTurn port JSONRoot timestamp (index, point) = .ok .skip := by
  rw [controlTurn_eq path leads found, controlCommand_none undirected]
  rfl

/-- The code of a control with two directions. -/
theorem functionCode_eq {mode : ControlMode} {truename falsename : String}
    (given : point.lookup (ascii "ControlMode") = some (.string mode.text))
    (names : mode.names = some (truename, falsename)) :
    functionCode point val =
      directionCode point val truename falsename mode.codes.1 mode.codes.2 := by
  rw [functionCode, given]
  cases mode with
  | LATCH =>
      cases names
      exact if_pos rfl
  | TRIPCLOSE =>
      cases names
      exact (if_neg (by decide)).trans (if_pos rfl)
  | PULSE => contradiction

theorem functionCode_pulse
    (given : point.lookup (ascii "ControlMode") = some (.string ControlMode.PULSE.text)) :
    functionCode point val = .ok (some .PULSE_ON) := by
  rw [functionCode, given]
  exact (if_neg (by decide)).trans ((if_neg (by decide)).trans (if_pos rfl))

/-- With a value configured, the control has the right direction when its numbers fit. -/
theorem directed_configured_iff {mode : ControlMode}
    (given : point.lookup (ascii "ControlMode") = some (.string mode.text))
    (distinct : ∀ first second, mode.configured point = (some first, some second) →
      first ≠ second)
    (path : point.lookup (ascii "JSONPath") = some nodes)
    (leads : traversePath JSONRoot nodes = .ok val) (found : val.isNull = false)
    (some_value : mode.configured point ≠ (none, none)) :
    Directed mode point val (controlTurn port JSONRoot timestamp (index, point)) ↔
      (Decided mode point val → NumbersFit point) := by
  cases names : mode.names with
  | none => exact absurd (by rw [ControlMode.configured, names]) some_value
  | some pair =>
      obtain ⟨truename, falsename⟩ := pair
      have code := directionCode_configured point val truename falsename mode.codes.1 mode.codes.2
      rw [← functionCode_eq given names] at code
      have configured : mode.configured point =
          (point.lookup (ascii truename), point.lookup (ascii falsename)) := by
        rw [ControlMode.configured, names]
      have own : ∀ {code : ControlCode}, functionCode point val = .ok (some code) →
          (Sends (controlTurn port JSONRoot timestamp (index, point)) code ↔ NumbersFit point) :=
        fun directed => (sends_iff path leads found directed).trans (and_iff_left rfl)
      cases first : point.lookup (ascii truename) with
      | some trueVal =>
          cases second : point.lookup (ascii falsename) with
          | some falseVal =>
              rw [first, second] at code configured
              have apart := distinct trueVal falseVal configured
              rw [Directed, Decided, configured]
              dsimp only at code ⊢
              by_cases isTrue : val = trueVal
              · rw [if_pos isTrue] at code
                subst isTrue
                simp [apart, own code]
              · rw [if_neg isTrue] at code
                by_cases isFalse : val = falseVal
                · rw [if_pos isFalse] at code
                  subst isFalse
                  simp [isTrue, own code]
                · rw [if_neg isFalse] at code
                  have skipped : controlTurn port JSONRoot timestamp (index, point) = .ok .skip :=
                    controlTurn_skip path leads found code
                  simp [isTrue, isFalse, skipped]
          | none =>
              rw [first, second] at code configured
              rw [Directed, Decided, configured]
              dsimp only at code ⊢
              by_cases isTrue : val = trueVal
              · rw [if_pos isTrue] at code
                simp [isTrue, own code]
              · rw [if_neg isTrue] at code
                simp [isTrue, own code]
      | none =>
          cases second : point.lookup (ascii falsename) with
          | some falseVal =>
              rw [first, second] at code configured
              rw [Directed, Decided, configured]
              dsimp only at code ⊢
              by_cases isFalse : val = falseVal
              · rw [if_pos isFalse] at code
                simp [isFalse, own code]
              · rw [if_neg isFalse] at code
                simp [isFalse, own code]
          | none =>
              rw [first, second] at configured
              exact absurd configured some_value

/-- The default words have the right direction, but for tripping controls. -/
theorem directed_words_iff {mode : ControlMode}
    (given : point.lookup (ascii "ControlMode") = some (.string mode.text))
    (path : point.lookup (ascii "JSONPath") = some nodes)
    (leads : traversePath JSONRoot nodes = .ok val) (found : val.isNull = false)
    (no_value : mode.configured point = (none, none)) :
    Directed mode point val (controlTurn port JSONRoot timestamp (index, point)) ↔
      (NumbersFit point → ¬Inverted mode point val) := by
  have sends : ∀ {text : Bytes}, val = .string text → text ∈ onWords ++ offWords →
      ∀ code, Sends (controlTurn port JSONRoot timestamp (index, point)) code ↔
        NumbersFit point ∧ (if text ∈ onWords then mode.codes.1 else mode.codes.2) = code := by
    intro text same word code
    refine sends_iff path leads found ?_
    cases names : mode.names with
    | none =>
        cases mode with
        | LATCH | TRIPCLOSE => contradiction
        | PULSE =>
            rw [functionCode_pulse given]
            simp [ControlMode.codes]
    | some pair =>
        obtain ⟨truename, falsename⟩ := pair
        rw [ControlMode.configured, names] at no_value
        obtain ⟨first, second⟩ := Prod.mk.inj no_value
        rw [functionCode_eq given names, same, directionCode_words first second word]
  rw [Directed, no_value]
  dsimp only
  constructor
  · rintro directed fits ⟨rfl, -, text, word, same⟩
    rcases List.mem_append.mp word with on | off
    · refine ((directed text same).1 on).2 ((sends same word _).mpr ⟨fits, ?_⟩)
      rw [if_pos on]
      rfl
    · refine ((directed text same).2 off).2 ((sends same word _).mpr ⟨fits, ?_⟩)
      rw [if_neg (words_disjoint text off)]
      rfl
  · intro upright text same
    constructor
    · intro on
      have word : text ∈ onWords ++ offWords := List.mem_append_left _ on
      rw [sends same word, sends same word, if_pos on]
      cases mode with
      | LATCH | PULSE => exact ⟨fun sent => (nomatch sent.2), fun sent => (nomatch sent.2)⟩
      | TRIPCLOSE =>
          exact ⟨fun sent => (nomatch sent.2),
            fun sent => upright sent.1 ⟨rfl, no_value, text, word, same⟩⟩
    · intro off
      have word : text ∈ onWords ++ offWords := List.mem_append_right _ off
      rw [sends same word, sends same word, if_neg (words_disjoint text off)]
      cases mode with
      | LATCH | PULSE => exact ⟨fun sent => (nomatch sent.2), fun sent => (nomatch sent.2)⟩
      | TRIPCLOSE =>
          exact ⟨fun sent => (nomatch sent.2),
            fun sent => upright sent.1 ⟨rfl, no_value, text, word, same⟩⟩

end Turns

/-- A control at the path `b`, with other members before it. -/
def breaker (members : Point ℚ) : Point ℚ :=
  members ++ [(ascii "JSONPath", .array [.string (ascii "b")])]

/-- A message to it. -/
def breakerMessage (word : String) : Value ℚ := .object [(ascii "b", .string (ascii word))]

end OpenDataCon.JSONPort

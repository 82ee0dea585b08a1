import OpenDataCon.Connectors.MultiCallback
import OpenDataCon.Foundations.Doubles
import OpenDataCon.Foundations.Runs
import OpenDataCon.SimPort.BinaryControl
import OpenDataCon.SimPort.Encodings

/-!
# A simulated tap changer

The position of a tap changer is held by binary points alone: a control reads it from
their bits, tests the limit, adds or subtracts the step, and publishes the bits of the new
position. The limit has nothing to do with the number of points, and nothing else is
tested. So a control moves the position as it is to, or leaves the points alone, exactly
when a move that the limit allows leads to a position that the points can show
(`controls_moveExactly_iff`).
-/

set_option autoImplicit false

namespace OpenDataCon.SimPort

open Connectors (CommandStatus)
open DNP3Port (ControlCode)
open Doubles Runs

/-! ## Points -/

/-- A binary point: its value, and whether it is forced. -/
structure SimPoint where
  binary : Bool := false
  forced : Bool := false
deriving DecidableEq, Repr

/-- The binary points that are configured, by index. -/
abbrev Points := Nat → Option SimPoint

/-- The bits of the points, or how the control is answered without them. -/
def readBinaries (unsupported : String) (points : Points) :
    List Nat → Except (CommandStatus × String) BitString
  | [] => .ok []
  | index :: indexes =>
    match points index with
    | none => .error (.NOT_SUPPORTED, unsupported)
    | some point =>
      if point.forced then
        .error (.BLOCKED, "this binary control position is blocked due to forced state")
      else (bitChar point.binary :: ·) <$> readBinaries unsupported points indexes

/-- Store what is published. -/
def publishBinaryEvents (points : Points) : List Nat → BitString → Points
  | index :: indexes, bit :: payload =>
    publishBinaryEvents
      (Function.update points index
        ((points index).map fun point => { point with binary := bit != '0' }))
      indexes payload
  | _, _ => points

/-! ## Controls -/

/-- What a control comes to: the answer, the points, and the events that are published. -/
structure Handled where
  status : CommandStatus
  message : String
  points : Points
  published : List (Nat × Bool) := []

/-- `int` of a double; nothing when it is not within the range. -/
def toInt (x : ℚ) : Option ℤ :=
  let whole := if 0 ≤ x then ⌊x⌋ else ⌈x⌉
  if -2 ^ 31 ≤ whole ∧ whole < 2 ^ 31 then some whole else none

/-- How a position is held by points: what is answered when there is none, and the texts. -/
structure Coding where
  unsupported : String
  decode : BitString → Nat
  /-- The text of a number, with so many bits. -/
  encode : Nat → Nat → Option BitString

namespace PositionFeedback

variable (feedback : PositionFeedback)

/-- The test of the upper limit, in doubles. -/
def MayRaise (payload : Nat) : Prop :=
  roundDouble (roundDouble payload + feedback.tapStep) ≤ roundDouble feedback.raiseLimit

/-- The test of the lower limit, in doubles. -/
def MayLower (payload : Nat) : Prop :=
  roundDouble feedback.lowerLimit ≤ roundDouble (roundDouble payload - feedback.tapStep)

instance (payload : Nat) : Decidable (feedback.MayRaise payload) := Rat.instDecidableLe _ _

instance (payload : Nat) : Decidable (feedback.MayLower payload) := Rat.instDecidableLe _ _

/-- Publish the bits of a position, which is a `std::size_t`. -/
def publishPosition (coding : Coding) (points : Points) (payload : ℤ) : Option Handled := do
  let binary ← coding.encode (payload % 2 ^ 64).toNat feedback.indexes.length
  pure
    { status := .SUCCESS
      message := "the event processing for this binary control position is a success"
      points := publishBinaryEvents points feedback.indexes binary
      published := feedback.indexes.zip (binary.map (· != '0')) }

/-- A control of a position that points hold. -/
def handle (coding : Coding) (functionCode : ControlCode) (points : Points) : Option Handled :=
  match readBinaries coding.unsupported points feedback.indexes with
  | .error (status, message) => some { status, message, points }
  | .ok binary =>
    let payload := coding.decode binary
    match feedback.action functionCode with
    | .RAISE =>
      if feedback.MayRaise payload then do
        feedback.publishPosition coding points (payload + (← toInt feedback.tapStep))
      else
        some { status := .OUT_OF_RANGE, message := "this binary control is out or range", points }
    | .LOWER =>
      if feedback.MayLower payload then do
        feedback.publishPosition coding points (payload - (← toInt feedback.tapStep))
      else
        some { status := .OUT_OF_RANGE, message := "this binary control is out or range", points }
    | .UNDEFINED => some { status := .NOT_SUPPORTED, message := coding.unsupported, points }

end PositionFeedback

def binaryCoding : Coding where
  unsupported := "this binary control position is not supported"
  decode := toDecimal
  encode n size := some (toBinary n size)

def bcdCoding : Coding where
  unsupported := "this binary control position is not supported for bcd type"
  decode := bcdEncodedToDecimal
  encode := decimalToBcdEncodedString

def handlePositionFeedbackForBinary (feedback : PositionFeedback) :
    ControlCode → Points → Option Handled := feedback.handle binaryCoding

def handlePositionFeedbackForBCD (feedback : PositionFeedback) :
    ControlCode → Points → Option Handled := feedback.handle bcdCoding

/-- A control, by the type of its feedback. A position that is an analog value is in no binary
point. -/
def handlePositionFeedback
    (handlePositionFeedbackForAnalog : PositionFeedback → ControlCode → Points → Option Handled)
    (feedback : PositionFeedback) (command : ControlCode) (points : Points) : Option Handled :=
  match feedback.type with
  | .ANALOG => handlePositionFeedbackForAnalog feedback command points
  | .BINARY => handlePositionFeedbackForBinary feedback command points
  | .BCD => handlePositionFeedbackForBCD feedback command points
  | .UNDEFINED =>
    some
      { status := .NOT_SUPPORTED, message := "This binary position point is not supported", points }

/-! ## What is to hold -/

namespace PositionFeedback

variable (feedback : PositionFeedback) (coding : Coding) (step : Nat)

/-- The bits of the points. -/
def text (points : Points) : BitString :=
  feedback.indexes.map fun index => bitChar ((points index).elim false (·.binary))

/-- The position that is read from the points. -/
def position (points : Points) : Nat := coding.decode (feedback.text points)

def InLimits (points : Points) : Prop :=
  feedback.lowerLimit ≤ feedback.position coding points ∧
    feedback.position coding points ≤ feedback.raiseLimit

/-- Where a control is to move a position. -/
def target (functionCode : ControlCode) (position : Nat) : ℤ :=
  match feedback.action functionCode with
  | .RAISE => position + step
  | .LOWER => position - step
  | .UNDEFINED => position

/-- A control succeeds and moves the position by the step, within the limits, or it does not
succeed and leaves the points alone. -/
def MovesExactly (control : ControlCode → Points → Option Handled) (points : Points)
    (functionCode : ControlCode) : Prop :=
  ∃ handled, control functionCode points = some handled ∧
    if handled.status = .SUCCESS then
      (feedback.position coding handled.points : ℤ) =
          feedback.target step functionCode (feedback.position coding points) ∧
        feedback.InLimits coding handled.points
    else handled.points = points

/-- No point is forced. -/
def Unforced (points : Points) : Prop :=
  ∀ index ∈ feedback.indexes, ∃ point, points index = some point ∧ point.forced = false

/-- The tests of a control let it move the position. -/
def Allowed (points : Points) (functionCode : ControlCode) : Prop :=
  feedback.Unforced points ∧
    match feedback.action functionCode with
    | .RAISE => feedback.MayRaise (feedback.position coding points)
    | .LOWER => feedback.MayLower (feedback.position coding points)
    | .UNDEFINED => False

/-- A move that is allowed is by an `int`, to a position that can be shown. -/
def LeadsToShown (Shown : Nat → Prop) (points : Points) (functionCode : ControlCode) : Prop :=
  feedback.Allowed coding points functionCode →
    step < 2 ^ 31 ∧ ∃ n, Shown n ∧
      (n : ℤ) = feedback.target step functionCode (feedback.position coding points)

end PositionFeedback

/-- The points after a control. -/
def controlStep (control : ControlCode → Points → Option Handled) (points : Points)
    (functionCode : ControlCode) : Points × List CommandStatus :=
  match control functionCode points with
  | some handled => (handled.points, [handled.status])
  | none => (points, [])

/-! ## The points of a position -/

section Texts

variable {points : Points}

/-- Reading the points succeeds when none is forced or missing. -/
theorem readBinaries_of_unforced (unsupported : String) {indexes : List Nat}
    (unforced : ∀ index ∈ indexes, ∃ point, points index = some point ∧ point.forced = false) :
    readBinaries unsupported points indexes =
      .ok (indexes.map fun index => bitChar ((points index).elim false (·.binary))) := by
  induction indexes with
  | nil => rfl
  | cons index indexes ih =>
      obtain ⟨point, known, free⟩ := unforced index List.mem_cons_self
      have rest := ih fun other inside => unforced other (List.mem_cons_of_mem index inside)
      rw [readBinaries, known]
      simp only [free, Bool.false_eq_true, if_false, rest, List.map_cons, known, Option.elim_some]
      rfl

/-- Otherwise the control does not succeed. -/
theorem readBinaries_of_not_unforced (unsupported : String) {indexes : List Nat}
    (forced : ¬∀ index ∈ indexes, ∃ point, points index = some point ∧ point.forced = false) :
    ∃ status message, readBinaries unsupported points indexes = .error (status, message) ∧
      status ≠ .SUCCESS := by
  induction indexes with
  | nil => exact absurd (List.forall_mem_nil _) forced
  | cons index indexes ih =>
      rw [readBinaries]
      cases known : points index with
      | none => exact ⟨_, _, rfl, nofun⟩
      | some point =>
          by_cases free : point.forced = true
          · refine ⟨_, _, if_pos free, nofun⟩
          · have later : ¬∀ index ∈ indexes, ∃ point, points index = some point ∧
                point.forced = false := by
              intro rest
              refine forced (List.forall_mem_cons.mpr ⟨⟨point, known, ?_⟩, rest⟩)
              exact Bool.eq_false_iff.mpr free
            obtain ⟨status, message, read, failed⟩ := ih later
            refine ⟨status, message, ?_, failed⟩
            simp only [if_neg free, read]
            rfl

theorem publishBinaryEvents_isSome (indexes : List Nat) (payload : BitString) (index : Nat) :
    (publishBinaryEvents points indexes payload index).isSome = (points index).isSome := by
  induction indexes generalizing points payload with
  | nil => rfl
  | cons first indexes ih =>
      cases payload with
      | nil => rfl
      | cons bit payload =>
          rw [publishBinaryEvents, ih, Function.update_apply]
          split
          · next same => rw [same, Option.isSome_map]
          · rfl

/-- A point that is not named is left alone. -/
theorem publishBinaryEvents_other {indexes : List Nat} {index : Nat} (other : index ∉ indexes)
    (payload : BitString) :
    publishBinaryEvents points indexes payload index = points index := by
  induction indexes generalizing points payload with
  | nil => rfl
  | cons first indexes ih =>
      cases payload with
      | nil => rfl
      | cons bit payload =>
          have apart : index ≠ first := fun same => other (same ▸ List.mem_cons_self)
          have notLater : index ∉ indexes := fun inside => other (List.mem_cons_of_mem first inside)
          rw [publishBinaryEvents, ih notLater, Function.update_of_ne apart]

/-- **The points have the bits that were published.** -/
theorem text_publishBinaryEvents {indexes : List Nat} (nodup : indexes.Nodup)
    (configured : ∀ index ∈ indexes, (points index).isSome) {bits : List Bool}
    (length : bits.length = indexes.length) :
    (indexes.map fun index => bitChar ((publishBinaryEvents points indexes (bits.map bitChar)
      index).elim false (·.binary))) = bits.map bitChar := by
  induction indexes generalizing points bits with
  | nil =>
      rw [List.length_eq_zero_iff.mp length]
      rfl
  | cons first indexes ih =>
      cases bits with
      | nil => cases length
      | cons bit bits =>
          obtain ⟨apart, nodup⟩ := List.nodup_cons.mp nodup
          obtain ⟨point, known⟩ := Option.isSome_iff_exists.mp
            (configured first List.mem_cons_self)
          have value : (bitChar bit != '0') = bit := by cases bit <;> rfl
          rw [List.map_cons, List.map_cons, publishBinaryEvents, ih nodup ?_ (Nat.succ.inj length),
            publishBinaryEvents_other apart, Function.update_self, known, value]
          · rfl
          · intro index inside
            have other : index ≠ first := fun same => apart (same ▸ inside)
            rw [Function.update_of_ne other]
            exact configured index (List.mem_cons_of_mem first inside)

end Texts

/-! ## Positions that can be shown -/

/-- A coding holds the positions that can be shown in valid texts of a number of bits. -/
structure Coding.Holds (coding : Coding) (size : Nat) (Valid : BitString → Prop)
    (Shown : Nat → Prop) : Prop where
  shown : ∀ {bits : List Bool}, bits.length = size → Valid (bits.map bitChar) →
    Shown (coding.decode (bits.map bitChar))
  written : ∀ {n : Nat} {text : BitString}, coding.encode n size = some text →
    (∃ bits : List Bool, bits.length = size ∧ text = bits.map bitChar) ∧ Valid text
  read : ∀ {n : Nat}, Shown n → ∃ text, coding.encode n size = some text ∧ coding.decode text = n
  range : ∀ {n : Nat}, Shown n → n < 2 ^ 32 ∨ 2 ^ 64 - 2 ^ 31 ≤ n ∧ n < 2 ^ 64

/-- The positions that points show in binary: the first of 32 points is a sign. -/
def ShownInBinary (size n : Nat) : Prop :=
  n < 2 ^ min size 31 ∨ size = 32 ∧ 2 ^ 64 - 2 ^ 31 ≤ n ∧ n < 2 ^ 64

theorem binaryCoding_holds {size : Nat} (short : size ≤ 32) :
    binaryCoding.Holds size (fun _ => True) (ShownInBinary size) where
  shown {bits} length _ := by
    change ShownInBinary size (toDecimal (bits.map bitChar))
    have below := BitStrings.valueOf_lt bits
    rw [length] at below
    by_cases sign : size = 32
    · subst sign
      rw [toDecimal_of_eq length]
      split
      · next small => exact .inl small
      · exact .inr ⟨rfl, by omega, by omega⟩
    · have fits : size ≤ 31 := by omega
      rw [toDecimal_of_le (length ▸ fits), ShownInBinary, Nat.min_eq_left fits]
      exact .inl below
  written {n text} written := by
    cases written
    exact ⟨⟨_, BitStrings.length_bitsOf size n, toBinary_eq n size⟩, trivial⟩
  read {n} shown := by
    refine ⟨toBinary n size, rfl, ?_⟩
    change toDecimal (toBinary n size) = n
    by_cases sign : size = 32
    · subst sign
      rw [toBinary_eq, toDecimal_of_eq (BitStrings.length_bitsOf 32 n), BitStrings.valueOf_bitsOf]
      rcases shown with small | ⟨-, low, high⟩
      · have within : n < 2 ^ 31 := small
        rw [Nat.mod_eq_of_lt (by omega), if_pos within]
      · rw [if_neg (by omega)]
        omega
    · have fits : size ≤ 31 := by omega
      rw [toDecimal_toBinary fits]
      rcases shown with small | ⟨full, -⟩
      · rw [Nat.min_eq_left fits] at small
        exact Nat.mod_eq_of_lt small
      · exact absurd full sign
  range {n} shown := by
    rcases shown with small | ⟨-, high⟩
    · have bound : 2 ^ min size 31 ≤ 2 ^ 31 :=
        Nat.pow_le_pow_right (by decide) (Nat.min_le_right size 31)
      exact .inl (by omega)
    · exact .inr high

theorem bcdCoding_holds {size : Nat} (short : size ≤ 32) :
    bcdCoding.Holds size DigitsValid (· < bcdCapacity size) where
  shown length valid := by
    rw [← length]
    exact bcdEncodedToDecimal_lt (length ▸ short) valid
  written := decimalToBcdEncodedString_valid
  read := decimalToBcdEncodedString_of_lt short
  range fits := .inl (Nat.lt_trans fits (bcdCapacity_le short))

/-! ## One control -/

namespace PositionFeedback

section OneControl

variable {feedback : PositionFeedback} {coding : Coding} {step : Nat} {Valid : BitString → Prop}
  {Shown : Nat → Prop} {points : Points} {functionCode : ControlCode}

/-- The points that hold a position: they are configured, and show one within the limits. -/
structure Held (feedback : PositionFeedback) (coding : Coding) (Valid : BitString → Prop)
    (points : Points) : Prop where
  configured : ∀ index ∈ feedback.indexes, (points index).isSome
  valid : Valid (feedback.text points)
  within : feedback.InLimits coding points

theorem text_eq (points : Points) :
    feedback.text points =
      (feedback.indexes.map fun index => (points index).elim false (·.binary)).map bitChar := by
  rw [List.map_map]
  rfl

theorem Held.shown (held : feedback.Held coding Valid points)
    (holds : coding.Holds feedback.indexes.length Valid Shown) :
    Shown (feedback.position coding points) := by
  have valid := held.valid
  rw [text_eq] at valid
  rw [position, text_eq]
  exact holds.shown (List.length_map _) valid

/-- A text that is written is what the points show then. -/
theorem text_publish (nodup : feedback.indexes.Nodup)
    (configured : ∀ index ∈ feedback.indexes, (points index).isSome)
    (holds : coding.Holds feedback.indexes.length Valid Shown) {n : Nat} {binary : BitString}
    (written : coding.encode n feedback.indexes.length = some binary) :
    feedback.text (publishBinaryEvents points feedback.indexes binary) = binary := by
  obtain ⟨⟨bits, length, rfl⟩, -⟩ := holds.written written
  exact text_publishBinaryEvents nodup configured length

/-- A position is published as it is to be exactly when it can be shown. -/
theorem publishPosition_iff (nodup : feedback.indexes.Nodup)
    (configured : ∀ index ∈ feedback.indexes, (points index).isSome)
    (holds : coding.Holds feedback.indexes.length Valid Shown) {target : ℤ}
    (limits : ∀ n : Nat, Shown n → (n : ℤ) = target →
      feedback.lowerLimit ≤ n ∧ n ≤ feedback.raiseLimit) :
    (∃ handled, feedback.publishPosition coding points target = some handled ∧
      if handled.status = .SUCCESS then
        (feedback.position coding handled.points : ℤ) = target ∧
          feedback.InLimits coding handled.points
      else handled.points = points) ↔
      ∃ n, Shown n ∧ (n : ℤ) = target := by
  constructor
  · rintro ⟨handled, published, moved⟩
    obtain ⟨binary, written, same⟩ := Option.bind_eq_some_iff.mp published
    obtain rfl := Option.some.inj same
    obtain ⟨⟨bits, length, rfl⟩, valid⟩ := holds.written written
    refine ⟨_, holds.shown length valid, ?_⟩
    rw [if_pos rfl] at moved
    have reached := moved.1
    rwa [position, text_publish nodup configured holds written] at reached
  · rintro ⟨n, shown, rfl⟩
    obtain ⟨binary, written, read⟩ := holds.read shown
    have fits : n < 2 ^ 64 := by
      rcases holds.range shown with small | ⟨-, high⟩
      · omega
      · exact high
    have same : ((n : ℤ) % 2 ^ 64).toNat = n := by omega
    have reached : feedback.position coding
        (publishBinaryEvents points feedback.indexes binary) = n := by
      rw [position, text_publish nodup configured holds written, read]
    refine ⟨_, by rw [publishPosition, same, written]; rfl, ?_⟩
    rw [if_pos rfl]
    refine ⟨congrArg Nat.cast reached, ?_⟩
    rw [InLimits, reached]
    exact limits n shown rfl

/-- `int` of a natural number. -/
theorem toInt_natCast (n : Nat) : toInt (n : ℚ) = if n < 2 ^ 31 then some (n : ℤ) else none := by
  have whole : (if (0 : ℚ) ≤ (n : ℚ) then ⌊(n : ℚ)⌋ else ⌈(n : ℚ)⌉) = (n : ℤ) := by
    rw [if_pos (Nat.cast_nonneg n), Int.floor_natCast]
  rw [toInt, whole]
  exact if_congr (by omega) rfl rfl

/-- The double of a number of 32 bits. -/
theorem roundDouble_limit {n : Nat} (small : n < 2 ^ 32) : roundDouble (n : ℚ) = n :=
  roundDouble_natCast (Nat.lt_trans small (by decide))

/-- A move up that is allowed, to a position that is shown, stays within the limits. -/
theorem raise_within (isStep : feedback.tapStep = step) {isBinary : Nat → Bool}
    (conf : feedback.Configured isBinary) {position n : Nat}
    (within : feedback.lowerLimit ≤ position ∧ position ≤ feedback.raiseLimit)
    (may : feedback.MayRaise position) (small : step < 2 ^ 31)
    (range : n < 2 ^ 32 ∨ 2 ^ 64 - 2 ^ 31 ≤ n ∧ n < 2 ^ 64) (moved : (n : ℤ) = position + step) :
    feedback.lowerLimit ≤ n ∧ n ≤ feedback.raiseLimit := by
  obtain rfl : n = position + step := by exact_mod_cast moved
  refine ⟨by omega, ?_⟩
  rcases conf.raise with limit | limit
  · have below : position < 2 ^ 32 := Nat.lt_of_le_of_lt within.2 limit
    have sum : (position : ℚ) + step = ((position + step : Nat) : ℚ) := by push_cast; rfl
    rw [MayRaise, isStep, roundDouble_limit below, roundDouble_limit limit, sum,
      roundDouble_natCast (by omega)] at may
    exact_mod_cast may
  · rw [limit, SizeMax]
    omega

/-- A move down that is allowed, to a position that is shown, stays within the limits. -/
theorem lower_within (isStep : feedback.tapStep = step) {isBinary : Nat → Bool}
    (conf : feedback.Configured isBinary) {position n : Nat}
    (within : feedback.lowerLimit ≤ position ∧ position ≤ feedback.raiseLimit)
    (may : feedback.MayLower position) (small : step < 2 ^ 31)
    (range : position < 2 ^ 32 ∨ 2 ^ 64 - 2 ^ 31 ≤ position ∧ position < 2 ^ 64)
    (moved : (n : ℤ) = position - step) :
    feedback.lowerLimit ≤ n ∧ n ≤ feedback.raiseLimit := by
  have limit := conf.lower
  refine ⟨?_, by omega⟩
  rcases range with below | ⟨high, -⟩
  · have difference : (position : ℚ) - step = ((position - step : ℤ) : ℚ) := by push_cast; rfl
    rw [MayLower, isStep, roundDouble_limit below, roundDouble_limit limit, difference,
      roundDouble_intCast (by omega)] at may
    have order : (feedback.lowerLimit : ℤ) ≤ position - step := by exact_mod_cast may
    omega
  · omega

/-- A move that passes its test is made exactly when it is by an `int`, to a position that can be
shown. -/
theorem move_iff (isStep : feedback.tapStep = step) (nodup : feedback.indexes.Nodup)
    (configured : ∀ index ∈ feedback.indexes, (points index).isSome)
    (holds : coding.Holds feedback.indexes.length Valid Shown) (target : ℤ → ℤ)
    (limits : step < 2 ^ 31 → ∀ n : Nat, Shown n → (n : ℤ) = target step →
      feedback.lowerLimit ≤ n ∧ n ≤ feedback.raiseLimit) :
    (∃ handled, ((toInt feedback.tapStep).bind fun whole =>
        feedback.publishPosition coding points (target whole)) = some handled ∧
      if handled.status = .SUCCESS then
        (feedback.position coding handled.points : ℤ) = target step ∧
          feedback.InLimits coding handled.points
      else handled.points = points) ↔
      step < 2 ^ 31 ∧ ∃ n, Shown n ∧ (n : ℤ) = target step := by
  rw [isStep, toInt_natCast]
  by_cases small : step < 2 ^ 31
  · rw [if_pos small, Option.bind_some, and_iff_right small]
    exact publishPosition_iff nodup configured holds (limits small)
  · rw [if_neg small, Option.bind_none]
    refine iff_of_false ?_ fun move => small move.1
    rintro ⟨handled, nothing, -⟩
    cases nothing

/-- A control whose test refuses it leaves the points alone. -/
theorem refused {status : CommandStatus} (failed : status ≠ .SUCCESS) (message : String)
    {moved : Handled → Prop} :
    ∃ handled : Handled, some { status, message, points } = some handled ∧
      if handled.status = .SUCCESS then moved handled else handled.points = points :=
  ⟨_, rfl, by rw [if_neg failed]⟩

/-- **A control moves exactly** when the move that it is allowed leads to a position that can be
shown. -/
theorem movesExactly_iff (isStep : feedback.tapStep = step) {isBinary : Nat → Bool}
    (conf : feedback.Configured isBinary) (nodup : feedback.indexes.Nodup)
    (holds : coding.Holds feedback.indexes.length Valid Shown)
    (held : feedback.Held coding Valid points) :
    feedback.MovesExactly coding step (feedback.handle coding) points functionCode ↔
      feedback.LeadsToShown coding step Shown points functionCode := by
  have shown := held.shown holds
  have outOfRange : CommandStatus.OUT_OF_RANGE ≠ .SUCCESS := nofun
  have notSupported : CommandStatus.NOT_SUPPORTED ≠ .SUCCESS := nofun
  rw [MovesExactly, LeadsToShown, Allowed]
  by_cases unforced : feedback.Unforced points
  · have read : readBinaries coding.unsupported points feedback.indexes =
        .ok (feedback.text points) := readBinaries_of_unforced coding.unsupported unforced
    rw [and_iff_right unforced, handle, read, target]
    cases acts : feedback.action functionCode with
    | RAISE =>
        by_cases may : feedback.MayRaise (feedback.position coding points)
        · have test : feedback.MayRaise (coding.decode (feedback.text points)) := may
          rw [forall_prop_of_true may]
          dsimp only
          rw [if_pos test]
          exact move_iff isStep nodup held.configured holds
            (fun whole => feedback.position coding points + whole)
            fun small n reached moved =>
              raise_within isStep conf held.within may small (holds.range reached) moved
        · have test : ¬feedback.MayRaise (coding.decode (feedback.text points)) := may
          refine iff_of_true ?_ fun allowed => absurd allowed may
          dsimp only
          rw [if_neg test]
          exact refused outOfRange _
    | LOWER =>
        by_cases may : feedback.MayLower (feedback.position coding points)
        · have test : feedback.MayLower (coding.decode (feedback.text points)) := may
          rw [forall_prop_of_true may]
          dsimp only
          rw [if_pos test]
          exact move_iff isStep nodup held.configured holds
            (fun whole => feedback.position coding points - whole)
            fun small n reached moved =>
              lower_within isStep conf held.within may small (holds.range shown) moved
        · have test : ¬feedback.MayLower (coding.decode (feedback.text points)) := may
          refine iff_of_true ?_ fun allowed => absurd allowed may
          dsimp only
          rw [if_neg test]
          exact refused outOfRange _
    | UNDEFINED =>
        dsimp only
        exact iff_of_true (refused notSupported _) False.elim
  · obtain ⟨status, message, read, failed⟩ :=
      readBinaries_of_not_unforced coding.unsupported unforced
    refine iff_of_true ?_ fun allowed => absurd allowed.1 unforced
    rw [handle, read]
    exact refused failed message

/-- A control leaves the points alone, or publishes a text that is written for them. -/
theorem handle_cases {handled : Handled}
    (result : feedback.handle coding functionCode points = some handled) :
    handled.points = points ∨ ∃ n binary,
      coding.encode n feedback.indexes.length = some binary ∧
        handled.points = publishBinaryEvents points feedback.indexes binary := by
  have published : ∀ payload : ℤ, feedback.publishPosition coding points payload = some handled →
      ∃ n binary, coding.encode n feedback.indexes.length = some binary ∧
        handled.points = publishBinaryEvents points feedback.indexes binary := by
    intro payload result
    obtain ⟨binary, written, same⟩ := Option.bind_eq_some_iff.mp result
    cases same
    exact ⟨_, binary, written, rfl⟩
  rw [handle] at result
  split at result
  · cases result
    exact .inl rfl
  · cases acts : feedback.action functionCode with
    | UNDEFINED =>
        simp only [acts] at result
        cases result
        exact .inl rfl
    | RAISE | LOWER =>
        simp only [acts] at result
        split at result
        · obtain ⟨whole, -, result⟩ := Option.bind_eq_some_iff.mp result
          exact .inr (published _ result)
        · cases result
          exact .inl rfl

/-- The points hold a position after a control that moves exactly. -/
theorem Held.afterControl (nodup : feedback.indexes.Nodup)
    (holds : coding.Holds feedback.indexes.length Valid Shown)
    (held : feedback.Held coding Valid points)
    (moves : feedback.MovesExactly coding step (feedback.handle coding) points functionCode) :
    feedback.Held coding Valid (controlStep (feedback.handle coding) points functionCode).1 := by
  obtain ⟨handled, result, moved⟩ := moves
  rw [controlStep, result]
  change feedback.Held coding Valid handled.points
  have within : feedback.InLimits coding handled.points := by
    split at moved
    · exact moved.2
    · rw [moved]
      exact held.within
  rcases handle_cases result with same | ⟨n, binary, written, same⟩
  · rwa [same]
  · refine ⟨fun index inside => ?_, ?_, within⟩
    · rw [same, publishBinaryEvents_isSome]
      exact held.configured index inside
    · rw [same, text_publish nodup held.configured holds written]
      exact (holds.written written).2

end OneControl

end PositionFeedback

/-! ## Every sequence of controls -/

namespace FeedbackType

/-- How points hold a position. -/
def coding : FeedbackType → Coding
  | .BCD => bcdCoding
  | _ => binaryCoding

/-- The texts of bits that are positions. -/
def Valid : FeedbackType → BitString → Prop
  | .BCD => DigitsValid
  | _ => fun _ => True

/-- The positions that so many points can show. -/
def Shown (size : Nat) : FeedbackType → Nat → Prop
  | .BCD => (· < bcdCapacity size)
  | _ => ShownInBinary size

theorem coding_holds (type : FeedbackType) {size : Nat} (short : size ≤ 32) :
    type.coding.Holds size type.Valid (type.Shown size) := by
  cases type with
  | BCD => exact bcdCoding_holds short
  | ANALOG | BINARY | UNDEFINED => exact binaryCoding_holds short

end FeedbackType

/-- A position in binary points is handled by its coding. -/
theorem handlePositionFeedback_eq
    (analog : PositionFeedback → ControlCode → Points → Option Handled)
    {feedback : PositionFeedback} (kind : feedback.type = .BINARY ∨ feedback.type = .BCD) :
    handlePositionFeedback analog feedback = feedback.handle feedback.type.coding := by
  funext command points
  rcases kind with binary | bcd
  · rw [handlePositionFeedback, binary]
    rfl
  · rw [handlePositionFeedback, bcd]
    rfl

/-- **Every control of a sequence moves the position exactly** when every move that its test
allows, as the controls come, leads to a position that the points can show. -/
theorem controls_moveExactly_iff
    (analog : PositionFeedback → ControlCode → Points → Option Handled)
    {isAnalog : Nat → Bool} {feedbackPosition : FeedbackPosition} {feedback : PositionFeedback}
    {points : Points} {step : Nat}
    (accepted : processFeedbackPosition (fun index => (points index).isSome) isAnalog
      feedbackPosition = some (some feedback))
    (kind : feedback.type = .BINARY ∨ feedback.type = .BCD)
    (nodup : feedback.indexes.Nodup) (short : feedback.indexes.length ≤ 32)
    (isStep : feedback.tapStep = step) (valid : feedback.type.Valid (feedback.text points))
    (within : feedback.InLimits feedback.type.coding points) (controls : List ControlCode) :
    Guarded (controlStep (handlePositionFeedback analog feedback))
        (feedback.MovesExactly feedback.type.coding step (handlePositionFeedback analog feedback))
        points controls ↔
      Guarded (controlStep (handlePositionFeedback analog feedback))
        (feedback.LeadsToShown feedback.type.coding step
          (feedback.type.Shown feedback.indexes.length))
        points controls := by
  have binary : feedback.type ≠ .ANALOG := by
    intro analog
    rcases kind with other | other <;> cases analog.symm.trans other
  have conf := configured_of_processFeedbackPosition accepted binary
  have holds := feedback.type.coding_holds short
  have start : feedback.Held feedback.type.coding feedback.type.Valid points :=
    ⟨conf.points, valid, within⟩
  rw [handlePositionFeedback_eq analog kind]
  constructor
  · refine Guarded.of_invariant (feedback.Held feedback.type.coding feedback.type.Valid)
      (fun points code held moves => held.afterControl nodup holds moves)
      (fun points code held moves => ?_) start
    exact (PositionFeedback.movesExactly_iff isStep conf nodup holds held).mp moves
  · refine Guarded.of_invariant (feedback.Held feedback.type.coding feedback.type.Valid)
      (fun points code held leads => ?_) (fun points code held leads => ?_) start
    · exact held.afterControl nodup holds
        ((PositionFeedback.movesExactly_iff isStep conf nodup holds held).mpr leads)
    · exact (PositionFeedback.movesExactly_iff isStep conf nodup holds held).mpr leads

/-- Four points with a raise limit of 20. -/
def wideFeedbackPosition : FeedbackPosition where
  type := some ['B', 'i', 'n', 'a', 'r', 'y']
  indexes := [11, 12, 13, 14]
  onAction := some ['R', 'A', 'I', 'S', 'E']
  raiseLimit := some 20

def wideFeedback : PositionFeedback where
  type := .BINARY
  onAction := .RAISE
  offAction := .UNDEFINED
  indexes := [11, 12, 13, 14]
  lowerLimit := 0
  raiseLimit := 20
  tapStep := 1

/-- Points 11 to 14 with these bits. -/
def fourPoints (first second third fourth : Bool) : Points
  | 11 => some { binary := first }
  | 12 => some { binary := second }
  | 13 => some { binary := third }
  | 14 => some { binary := fourth }
  | _ => none

theorem wideFeedback_mayRaise : wideFeedback.MayRaise 15 := by
  have one : (1 : ℚ) = (1 : ℕ) := Nat.cast_one.symm
  have sum : ((15 : ℕ) : ℚ) + (1 : ℕ) = (16 : ℕ) := (Nat.cast_add 15 1).symm
  rw [PositionFeedback.MayRaise, wideFeedback]
  dsimp only
  rw [one, roundDouble_natCast (by decide), sum, roundDouble_natCast (by decide),
    roundDouble_natCast (by decide)]
  exact Nat.cast_le.mpr (by decide)

theorem controls_moveExactly_once :
    Guarded (controlStep (handlePositionFeedback (fun _ _ _ => none) wideFeedback))
      (wideFeedback.MovesExactly binaryCoding 1
        (handlePositionFeedback (fun _ _ _ => none) wideFeedback))
      (fourPoints false false true true) [.PULSE_ON] := by
  have accepted : processFeedbackPosition
      (fun index => (fourPoints false false true true index).isSome) (fun _ => false)
      wideFeedbackPosition = some (some wideFeedback) := rfl
  refine (controls_moveExactly_iff (fun _ _ _ => none) accepted (.inl rfl) (by decide)
    (by decide) Nat.cast_one.symm trivial ⟨by decide, by decide⟩ [.PULSE_ON]).mpr ⟨?_, trivial⟩
  intro allowed
  exact ⟨by decide, 4, .inl (by decide), by decide⟩

/-- Four points are raised from 15 to 0. -/
theorem raise_wraps :
    handlePositionFeedback (fun _ _ _ => none) wideFeedback .PULSE_ON
        (fourPoints true true true true) =
      some
        { status := .SUCCESS
          message := "the event processing for this binary control position is a success"
          points := publishBinaryEvents (fourPoints true true true true) [11, 12, 13, 14]
            ['0', '0', '0', '0']
          published := [(11, false), (12, false), (13, false), (14, false)] } := by
  have step : toInt wideFeedback.tapStep = some 1 :=
    (congrArg toInt Nat.cast_one.symm).trans (PositionFeedback.toInt_natCast 1)
  have read : readBinaries binaryCoding.unsupported (fourPoints true true true true)
      wideFeedback.indexes = .ok ['1', '1', '1', '1'] := rfl
  have decoded : binaryCoding.decode ['1', '1', '1', '1'] = 15 := by decide
  have raises : wideFeedback.action .PULSE_ON = .RAISE := rfl
  rw [handlePositionFeedback_eq _ (.inl rfl)]
  change wideFeedback.handle binaryCoding _ _ = _
  rw [PositionFeedback.handle, read]
  dsimp only
  rw [raises, decoded]
  dsimp only
  rw [if_pos wideFeedback_mayRaise, step]
  rfl

/-- **A raise within the limits** of four points that show 15 does not move them exactly. -/
theorem raise_past_points :
    processFeedbackPosition (fun index => (fourPoints true true true true index).isSome)
        (fun _ => false) wideFeedbackPosition = some (some wideFeedback) ∧
      wideFeedback.InLimits binaryCoding (fourPoints true true true true) ∧
      ¬Guarded (controlStep (handlePositionFeedback (fun _ _ _ => none) wideFeedback))
        (wideFeedback.MovesExactly binaryCoding 1
          (handlePositionFeedback (fun _ _ _ => none) wideFeedback))
        (fourPoints true true true true) [.PULSE_ON] := by
  refine ⟨rfl, ⟨by decide, by decide⟩, fun moves => ?_⟩
  obtain ⟨handled, result, moved⟩ := moves.1
  obtain rfl := Option.some.inj (result.symm.trans raise_wraps)
  rw [if_pos rfl] at moved
  exact absurd moved.1 (by decide)

end OpenDataCon.SimPort

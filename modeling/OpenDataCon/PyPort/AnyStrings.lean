import OpenDataCon.PyPort.ControlStrings

/-!
# Events from any texts

From any texts, what is created should have a payload, with the number that was written
if it is a number. It does unless the payload is not read, or is a number of 16 or of 8
bits that was cut (`honest_iff`).
-/

set_option autoImplicit false

namespace OpenDataCon.PyPort

open Connectors (EventType)
open Events
open Exceptions
open FileTransfer (Bytes ascii)

/-! ## Numbers that are written -/

section Honest

variable {D F : Type}

/-- The numbers of a payload of integers are the numbers in the text. -/
def Written (text : Bytes) : Payload D F → Prop
  | .AO16 value _ => integerAt text = some value.toInt
  | .AO32 value _ => integerAt text = some value.toInt
  | .ControlRelayOutputBlock control =>
    ∃ code count onTime offTime, Sections text code count onTime offTime ∧
      unsignedAt (getNumber count) = some control.count.toNat ∧
      unsignedAt (getNumber onTime) = some control.onTimeMS.toNat ∧
      unsignedAt (getNumber offTime) = some control.offTimeMS.toNat
  | _ => True

variable [FloatTexts D F]

/-- The texts that are read as payloads of a type, with their numbers. -/
def Readable (D F : Type) [FloatTexts D F] (type : EventType) (text : Bytes) : Prop :=
  match type with
  | .Analog => ∃ value : D, FloatTexts.stod F text = .ok value
  | .AnalogOutputDouble64 => ∃ value : D, FloatTexts.stod F text = .ok value
  | .AnalogOutputFloat32 => ∃ value : F, FloatTexts.stof D text = .ok value
  | .AnalogOutputInt16 => ∃ value, integerAt text = some value ∧ -2 ^ 15 ≤ value ∧ value < 2 ^ 15
  | .AnalogOutputInt32 => ∃ value, integerAt text = some value ∧ -2 ^ 31 ≤ value ∧ value < 2 ^ 31
  | .ControlRelayOutputBlock =>
    ∃ code count onTime offTime, Sections text code count onTime offTime ∧
      NumberIn "Count" count (2 ^ 8) ∧ NumberIn "ON" onTime (2 ^ 31) ∧
      NumberIn "OFF" offTime (2 ^ 31)
  | _ => True

theorem toInt_ofInt_16 {value : Int} :
    (BitVec.ofInt 16 value).toInt = value ↔ -2 ^ 15 ≤ value ∧ value < 2 ^ 15 := by
  rw [BitVec.toInt_ofInt, Int.bmod_def]
  omega

theorem toInt_ofInt_32 {value : Int} :
    (BitVec.ofInt 32 value).toInt = value ↔ -2 ^ 31 ≤ value ∧ value < 2 ^ 31 := by
  rw [BitVec.toInt_ofInt, Int.bmod_def]
  omega

theorem toNat_ofInt_natCast (w value : Nat) :
    (BitVec.ofInt w (value : Int)).toNat = value ↔ value < 2 ^ w := by
  rw [BitVec.ofInt_natCast, BitVec.toNat_ofNat]
  exact Nat.mod_eq_iff_lt (Nat.ne_of_gt (Nat.two_pow_pos w))

/-- An integer read of a text is the one written when it fits. -/
theorem written_integer_iff {text : Bytes} {w : Nat} {low high : Int} (within : -2 ^ 31 ≤ low)
    (below : high ≤ 2 ^ 31)
    (fits : ∀ value : Int, (BitVec.ofInt w value).toInt = value ↔ low ≤ value ∧ value < high) :
    (∃ value, stoi text = .ok value ∧ integerAt text = some (BitVec.ofInt w value).toInt) ↔
      ∃ value, integerAt text = some value ∧ low ≤ value ∧ value < high := by
  constructor
  · rintro ⟨value, read, written⟩
    obtain ⟨found, -⟩ := stoi_eq_ok.mp read
    have same : (BitVec.ofInt w value).toInt = value :=
      Option.some.inj (written.symm.trans found)
    exact ⟨value, found, (fits value).mp same⟩
  · rintro ⟨value, found, bounds⟩
    refine ⟨value, stoi_eq_ok.mpr ⟨found, by omega, by omega⟩, ?_⟩
    rw [(fits value).mpr bounds]
    exact found

theorem written_control_iff {text : Bytes} :
    (∃ control, controlFromString text = .ok control ∧
      Written text (.ControlRelayOutputBlock control : Payload D F)) ↔
      Readable D F .ControlRelayOutputBlock text := by
  constructor
  · rintro ⟨control, read, code, count, onTime, offTime, sections, isCount, isOn, isOff⟩
    obtain ⟨first, parts⟩ := sections.split
    obtain ⟨_, _, _, _, ⟨⟨_, again⟩, -⟩, c, o, f, counted, on, off, rfl⟩ :=
      controlFromString_eq_ok.mp read
    cases parts.symm.trans again
    obtain ⟨countMark, -⟩ := sectionNumber_eq_ok.mp counted
    obtain ⟨onMark, o, onRead, onSmall, rfl⟩ := sectionNumber_eq_ok.mp on
    obtain ⟨offMark, f, offRead, offSmall, rfl⟩ := sectionNumber_eq_ok.mp off
    exact ⟨code, count, onTime, offTime, sections,
      ⟨countMark, _, isCount, BitVec.isLt _⟩, ⟨onMark, o, onRead, onSmall⟩,
      ⟨offMark, f, offRead, offSmall⟩⟩
  · rintro ⟨code, count, onTime, offTime, sections, ⟨countMark, c, countRead, countSmall⟩,
      ⟨onMark, o, onRead, onSmall⟩, ⟨offMark, f, offRead, offSmall⟩⟩
    refine ⟨_, controlFromString_eq_ok.mpr ⟨code, count, onTime, offTime, sections, c, o, f,
      sectionNumber_eq_ok.mpr ⟨countMark, c, countRead, by omega, rfl⟩,
      sectionNumber_eq_ok.mpr ⟨onMark, o, onRead, onSmall, rfl⟩,
      sectionNumber_eq_ok.mpr ⟨offMark, f, offRead, offSmall, rfl⟩, rfl⟩,
      code, count, onTime, offTime, sections, ?_, ?_, ?_⟩
    · rw [(toNat_ofInt_natCast 8 c).mpr countSmall]
      exact countRead
    · rw [(toNat_ofInt_natCast 32 o).mpr (by omega)]
      exact onRead
    · rw [(toNat_ofInt_natCast 32 f).mpr (by omega)]
      exact offRead

/-- The payload that is read has the type that events of this type carry. -/
theorem type_of_payloadFromString {type : EventType} {text : Bytes}
    {result : Except Thrown (Payload D F)} {payload : Payload D F}
    (tried : payloadFromString type text = some result) (read : result = .ok payload) :
    EventTypePayload type = payload.type := by
  subst read
  have mapped : ∀ {α : Type} {found : Except Thrown α} {make : α → Payload D F}
      {kind : PayloadType}, (∀ value, (make value).type = kind) →
      found.map make = .ok payload → kind = payload.type := by
    intro α found make kind typed made
    obtain ⟨value, -, rfl⟩ := map_eq_ok_iff.mp made
    exact (typed value).symm
  cases type with
  | Binary => cases tried; rfl
  | OctetString => cases tried; rfl
  | Analog => exact mapped (fun _ => rfl) (Option.some.inj tried)
  | ControlRelayOutputBlock => exact mapped (fun _ => rfl) (Option.some.inj tried)
  | AnalogOutputInt16 => exact mapped (fun _ => rfl) (Option.some.inj tried)
  | AnalogOutputInt32 => exact mapped (fun _ => rfl) (Option.some.inj tried)
  | AnalogOutputFloat32 => exact mapped (fun _ => rfl) (Option.some.inj tried)
  | AnalogOutputDouble64 => exact mapped (fun _ => rfl) (Option.some.inj tried)
  | _ => cases tried

/-- **A text is read with its numbers** when it is readable. -/
theorem written_iff {type : EventType} {text : Bytes}
    {result : Except Thrown (Payload D F)} (tried : payloadFromString type text = some result) :
    (∃ payload, result = .ok payload ∧ Written text payload) ↔ Readable D F type text := by
  have mapped : ∀ {α : Type} {read : Except Thrown α} {make : α → Payload D F},
      (∃ payload, read.map make = .ok payload ∧ Written text payload) ↔
        ∃ value, read = .ok value ∧ Written text (make value) := by
    intro α read make
    simp only [map_eq_ok_iff]
    constructor
    · rintro ⟨_, ⟨value, found, rfl⟩, written⟩
      exact ⟨value, found, written⟩
    · rintro ⟨value, found, written⟩
      exact ⟨make value, ⟨value, found, rfl⟩, written⟩
  cases type with
  | Binary => cases tried; exact ⟨fun _ => trivial, fun _ => ⟨_, rfl, trivial⟩⟩
  | OctetString => cases tried; exact ⟨fun _ => trivial, fun _ => ⟨_, rfl, trivial⟩⟩
  | Analog => cases tried; exact mapped.trans (by simp [Written, Readable])
  | ControlRelayOutputBlock => cases tried; exact mapped.trans written_control_iff
  | AnalogOutputInt16 =>
      cases tried
      exact mapped.trans (written_integer_iff (by decide) (by decide) fun _ => toInt_ofInt_16)
  | AnalogOutputInt32 =>
      cases tried
      exact mapped.trans (written_integer_iff (by decide) (by decide) fun _ => toInt_ofInt_32)
  | AnalogOutputFloat32 => cases tried; exact mapped.trans (by simp [Written, Readable])
  | AnalogOutputDouble64 => cases tried; exact mapped.trans (by simp [Written, Readable])
  | _ => cases tried

/-! ## Every four texts -/

/-- An event has a payload with the numbers of a text. -/
def Delivers (text : Bytes) (event : EventInfo D F) : Prop :=
  ∃ payload, event.payload = some payload ∧ Written text payload

/-- What is created of texts has a payload with the numbers that were written. -/
def Honest (D F : Type) [FloatTexts D F] (EventTypeStr QualityStr PayloadStr SourcePort : Bytes) :
    Prop :=
  ∀ now ODCIndex, ∀ event ∈ (createEventFromStrParams now EventTypeStr ODCIndex QualityStr
    PayloadStr SourcePort : Option (EventInfo D F)), Delivers PayloadStr event

omit [FloatTexts D F] in
theorem delivers_withPayload {start : EventInfo D F} {text : Bytes}
    {result : Except Thrown (Payload D F)} (bare : start.payload = none)
    (matching : ∀ payload, result = .ok payload → payloadType start.type = some payload.type) :
    Delivers text (withPayload start result) ↔
      ∃ payload, result = .ok payload ∧ Written text payload := by
  cases result with
  | error thrown =>
      refine iff_of_false ?_ ?_
      · rintro ⟨payload, held, -⟩
        rw [withPayload_error, bare] at held
        cases held
      · rintro ⟨payload, failed, -⟩
        cases failed
  | ok payload =>
      obtain ⟨event, made, -, -, -, held⟩ := withPayload_ok (matching payload rfl)
      rw [made]
      constructor
      · rintro ⟨other, holds, written⟩
        cases held.symm.trans holds
        exact ⟨payload, rfl, written⟩
      · rintro ⟨_, same, written⟩
        cases same
        exact ⟨payload, held, written⟩

theorem named_small {type : BitVec 8} {name : EventType} (known : named type = some name) :
    ¬ AfterRange.toNat ≤ type.toNat := by
  rw [← number_of_named known]
  cases name <;> decide

/-- What is created of texts that name a type and a flag. -/
theorem create_of_named {EventTypeStr QualityStr PayloadStr SourcePort : Bytes}
    {name : EventType} (known : named (eventTypeFromString EventTypeStr) = some name)
    (flagged : qualityFlagsFromString QualityStr ≠ Connectors.QualityFlags.NONE)
    (data : name ≠ .ConnectState) (now ODCIndex : BitVec 64) :
    (createEventFromStrParams now EventTypeStr ODCIndex QualityStr PayloadStr SourcePort :
      Option (EventInfo D F)) =
    (payloadFromString name PayloadStr).map (withPayload {
      type := eventTypeFromString EventTypeStr
      index := ODCIndex
      sourcePort := SourcePort
      quality := qualityFlagsFromString QualityStr
      timestamp := now }) := by
  unfold createEventFromStrParams
  simp only [if_neg (named_small known), if_neg flagged, known]

/-- And of a connection state. -/
theorem create_of_state {EventTypeStr QualityStr PayloadStr SourcePort : Bytes}
    (known : named (eventTypeFromString EventTypeStr) = some .ConnectState)
    (flagged : qualityFlagsFromString QualityStr ≠ Connectors.QualityFlags.NONE)
    (now ODCIndex : BitVec 64) :
    (createEventFromStrParams now EventTypeStr ODCIndex QualityStr PayloadStr SourcePort :
      Option (EventInfo D F)) =
    if connectStateFromString PayloadStr = 4#32 then none
    else some (withPayload {
      type := eventTypeFromString EventTypeStr, sourcePort := SourcePort, timestamp := now }
      (.ok (.ConnectState (connectStateFromString PayloadStr)))) := by
  unfold createEventFromStrParams
  simp only [if_neg (named_small known), if_neg flagged, known]

/-- What makes the texts of a type and a quality matter. -/
theorem create_eq_none {EventTypeStr QualityStr PayloadStr SourcePort : Bytes}
    {now ODCIndex : BitVec 64}
    (nothing : named (eventTypeFromString EventTypeStr) = none ∨
      qualityFlagsFromString QualityStr = Connectors.QualityFlags.NONE) :
    (createEventFromStrParams now EventTypeStr ODCIndex QualityStr PayloadStr SourcePort :
      Option (EventInfo D F)) = none := by
  unfold createEventFromStrParams
  rcases nothing with unnamed | unflagged
  · simp only [unnamed]
    split
    · rfl
    · split <;> rfl
  · simp only [unflagged, if_true]
    split <;> rfl

/-- **What is created of any texts is honest exactly when its payload is readable.** -/
theorem honest_iff (EventTypeStr QualityStr PayloadStr SourcePort : Bytes) :
    Honest D F EventTypeStr QualityStr PayloadStr SourcePort ↔
      (qualityFlagsFromString QualityStr ≠ Connectors.QualityFlags.NONE →
        ∀ type ∈ named (eventTypeFromString EventTypeStr), Readable D F type PayloadStr) := by
  by_cases flagged : qualityFlagsFromString QualityStr = Connectors.QualityFlags.NONE
  · refine iff_of_true ?_ fun some_flag => absurd flagged some_flag
    intro now ODCIndex event created
    rw [create_eq_none (.inr flagged)] at created
    cases created
  cases known : named (eventTypeFromString EventTypeStr) with
  | none =>
      refine iff_of_true ?_ fun _ type member => nomatch member
      intro now ODCIndex event created
      rw [create_eq_none (.inl known)] at created
      cases created
  | some name =>
      have type_known : payloadType (eventTypeFromString EventTypeStr) =
          some (EventTypePayload name) := by
        rw [payloadType, known]
        rfl
      have readable : (qualityFlagsFromString QualityStr ≠ Connectors.QualityFlags.NONE →
          ∀ type ∈ some name, Readable D F type PayloadStr) ↔ Readable D F name PayloadStr := by
        simp [flagged]
      rw [readable]
      by_cases state : name = .ConnectState
      · subst state
        refine iff_of_true ?_ trivial
        intro now ODCIndex event created
        rw [create_of_state known flagged] at created
        split at created
        · cases created
        · cases created
          refine (delivers_withPayload rfl ?_).mpr ⟨_, rfl, trivial⟩
          rintro payload ⟨⟩
          exact type_known
      · unfold Honest
        simp only [create_of_named known flagged state]
        cases tried : (payloadFromString name PayloadStr :
            Option (Except Thrown (Payload D F))) with
        | none =>
            refine iff_of_true (fun now ODCIndex event created => nomatch created) ?_
            cases name <;> trivial
        | some result =>
            rw [← written_iff tried]
            simp only [Option.map_some, Option.mem_some_iff, forall_eq']
            constructor
            · intro delivers
              refine (delivers_withPayload rfl ?_).mp (delivers 0 0)
              intro payload read
              exact type_known.trans (congrArg some (type_of_payloadFromString tried read))
            · intro written now ODCIndex
              refine (delivers_withPayload rfl ?_).mpr written
              intro payload read
              exact type_known.trans (congrArg some (type_of_payloadFromString tried read))

end Honest

end OpenDataCon.PyPort

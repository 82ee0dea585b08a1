import OpenDataCon.PyPort.EventParams

/-!
# Controls as texts

The text of a control has five sections, three of them with a mark and a number
(`controlFromString_eq_ok`). What a control is written as is read back when its code has a
name and its times fit into an `int` (`controlFromString_toString_iff`).
-/

set_option autoImplicit false

namespace OpenDataCon.PyPort

open Events
open Exceptions
open FileTransfer (Bytes ascii isDigit toDecimal)
open Separators

/-! ## Numbers in sections -/

theorem integerAt_getNumber (part : Bytes) :
    integerAt (getNumber part) =
      (unsignedAt (getNumber part)).map fun value : Nat => (value : Int) :=
  integerAt_digits fun _ member => (List.mem_filter.mp member).2

/-- A section has the mark and a number below a bound. -/
def NumberIn (mark : String) (part : Bytes) (bound : Nat) : Prop :=
  ascii mark <:+: part ∧ ∃ value, unsignedAt (getNumber part) = some value ∧ value < bound

theorem sectionNumber_eq_ok {mark : String} {part : Bytes} {value : Int} :
    sectionNumber mark part = .ok value ↔
      ascii mark <:+: part ∧ ∃ number : Nat, unsignedAt (getNumber part) = some number ∧
        number < 2 ^ 31 ∧ value = number := by
  unfold sectionNumber
  by_cases marked : ascii mark <:+: part
  · rw [if_pos marked, stoi_eq_ok, integerAt_getNumber]
    cases read : unsignedAt (getNumber part) with
    | none => simp
    | some number =>
        simp only [Option.map_some, Option.some.injEq]
        constructor
        · rintro ⟨rfl, -, high⟩
          exact ⟨marked, number, rfl, by omega, rfl⟩
        · rintro ⟨-, _, rfl, high, rfl⟩
          exact ⟨rfl, by omega, by omega⟩
  · rw [if_neg marked]
    exact ⟨fun failed => (nomatch failed), fun held => absurd held.1 marked⟩

/-- The sections of the text of a control. -/
structure Sections (PayloadStr code count onTime offTime : Bytes) : Prop where
  split : ∃ first, split PayloadStr bar = [first, code, count, onTime, offTime]
  known : controlCodeFromString code ≠ 15#8

/-- **What is read as a control**: the sections and the numbers in them. -/
theorem controlFromString_eq_ok {text : Bytes} {control : ControlRelayOutputBlock} :
    controlFromString text = .ok control ↔
      ∃ code count onTime offTime, Sections text code count onTime offTime ∧
        ∃ c o f, sectionNumber "Count" count = .ok c ∧ sectionNumber "ON" onTime = .ok o ∧
          sectionNumber "OFF" offTime = .ok f ∧
          control = {
            functionCode := controlCodeFromString code
            count := BitVec.ofInt 8 c
            onTimeMS := BitVec.ofInt 32 o
            offTimeMS := BitVec.ofInt 32 f } := by
  unfold controlFromString
  split
  · next first code count onTime offTime parts =>
    by_cases unknown : controlCodeFromString code = 15#8
    · rw [if_pos unknown]
      constructor
      · exact fun failed => nomatch failed
      · rintro ⟨_, _, _, _, ⟨⟨_, same⟩, known⟩, -⟩
        cases parts.symm.trans same
        exact absurd unknown known
    · rw [if_neg unknown]
      simp only [bind_eq_ok_iff]
      constructor
      · rintro ⟨c, counted, o, on, f, off, made⟩
        exact ⟨code, count, onTime, offTime, ⟨⟨first, parts⟩, unknown⟩, c, o, f, counted, on, off,
          (Except.ok.inj made).symm⟩
      · rintro ⟨_, _, _, _, ⟨⟨_, same⟩, -⟩, c, o, f, counted, on, off, rfl⟩
        cases parts.symm.trans same
        exact ⟨c, counted, o, on, f, off, rfl⟩
  · next other =>
    constructor
    · exact fun failed => nomatch failed
    · rintro ⟨_, _, _, _, ⟨⟨first, same⟩, -⟩, -⟩
      exact absurd same (other _ _ _ _ _)

/-! ## The text of a control -/

/-- The digits around which there are no others. -/
theorem getNumber_around {before after : Bytes} (clean : before.all (fun byte => !isDigit byte))
    (end_clean : after.all (fun byte => !isDigit byte)) (n : Nat) :
    getNumber (before ++ toDecimal n ++ after) = toDecimal n := by
  have none : ∀ {text : Bytes}, text.all (fun byte => !isDigit byte) →
      text.filter isDigit = [] := by
    intro text clean
    refine List.filter_eq_nil_iff.mpr fun byte member digit => ?_
    have other := List.all_eq_true.mp clean byte member
    rw [digit] at other
    cases other
  have all : (toDecimal n).filter isDigit = toDecimal n :=
    List.filter_eq_self.mpr fun byte member => isDigit_of_mem_toDecimal member
  rw [getNumber, List.filter_append, List.filter_append, none clean, none end_clean, all,
    List.nil_append, List.append_nil]

theorem bar_not_in_decimal (n : Nat) : bar ∉ toDecimal n := by
  intro member
  exact absurd (isDigit_of_mem_toDecimal member) (by decide)

/-- A section with a number is read when the number fits into an `int`. -/
theorem sectionNumber_of_decimal {mark : String} {before after : Bytes}
    (marked : ascii mark <:+: before) (clean : before.all (fun byte => !isDigit byte))
    (end_clean : after.all (fun byte => !isDigit byte)) {n : Nat} {value : Int} :
    sectionNumber mark (before ++ toDecimal n ++ after) = .ok value ↔ n < 2 ^ 31 ∧ value = n := by
  have inside : ascii mark <:+: before ++ toDecimal n ++ after := by
    rw [List.append_assoc]
    exact marked.trans (List.prefix_append before _).isInfix
  rw [sectionNumber_eq_ok, getNumber_around clean end_clean, unsignedAt_toDecimal]
  constructor
  · rintro ⟨-, _, same, small, rfl⟩
    cases same
    exact ⟨small, rfl⟩
  · rintro ⟨small, rfl⟩
    exact ⟨inside, n, rfl, small, rfl⟩

/-- The sections of a control. -/
theorem split_controlToString (control : ControlRelayOutputBlock) :
    split (controlToString control) bar =
      [[], controlCodeToString control.functionCode,
        ascii "Count " ++ toDecimal control.count.toNat ++ [],
        ascii "ON " ++ toDecimal control.onTimeMS.toNat ++ ascii "ms",
        ascii "OFF " ++ toDecimal control.offTimeMS.toNat ++ ascii "ms"] := by
  have laid : controlToString control =
      [] ++ bar :: (controlCodeToString control.functionCode ++ bar ::
        ((ascii "Count " ++ toDecimal control.count.toNat ++ []) ++ bar ::
        ((ascii "ON " ++ toDecimal control.onTimeMS.toNat ++ ascii "ms") ++ bar ::
        ((ascii "OFF " ++ toDecimal control.offTimeMS.toNat ++ ascii "ms") ++ bar :: [])))) := by
    have count : ascii "|Count " = bar :: ascii "Count " := by decide
    have on : ascii "|ON " = bar :: ascii "ON " := by decide
    have off : ascii "ms|OFF " = ascii "ms" ++ bar :: ascii "OFF " := by decide
    have last : ascii "ms|" = ascii "ms" ++ [bar] := by decide
    have first : ascii "|" = [bar] := by decide
    rw [controlToString, count, on, off, last, first]
    simp only [List.append_assoc, List.cons_append, List.nil_append, List.append_nil]
  have clean : ∀ {before after : Bytes} (n : Nat), bar ∉ before → bar ∉ after →
      bar ∉ before ++ toDecimal n ++ after := by
    intro before after n start ends member
    rcases List.mem_append.mp member with member | member
    · rcases List.mem_append.mp member with member | member
      · exact start member
      · exact bar_not_in_decimal n member
    · exact ends member
  rw [laid, split, pieces_append List.not_mem_nil, pieces_append (bar_not_in_controlCode _),
    pieces_append (clean _ (by decide) (by decide)),
    pieces_append (clean _ (by decide) (by decide)),
    pieces_append (clean _ (by decide) (by decide)), pieces_nil]

/-- The controls that come through: those with a code that is read, with times that fit
into an `int`, and with the status of success, which is not written. -/
def ControlComesThrough (control : ControlRelayOutputBlock) : Prop :=
  control.functionCode ∈ controlCodes ∧ control.onTimeMS.toNat < 2 ^ 31 ∧
    control.offTimeMS.toNat < 2 ^ 31 ∧ control.status = 0#8

/-- **A control is read back from its text** exactly when it comes through. -/
theorem controlFromString_toString_iff (control : ControlRelayOutputBlock) :
    controlFromString (controlToString control) = .ok control ↔ ControlComesThrough control := by
  have parts := split_controlToString control
  have counted : ∀ value : Int, sectionNumber "Count"
      (ascii "Count " ++ toDecimal control.count.toNat ++ []) = .ok value ↔
        control.count.toNat < 2 ^ 31 ∧ value = control.count.toNat :=
    fun _ => sectionNumber_of_decimal (by decide) (by decide) (by decide)
  have on : ∀ value : Int, sectionNumber "ON"
      (ascii "ON " ++ toDecimal control.onTimeMS.toNat ++ ascii "ms") = .ok value ↔
        control.onTimeMS.toNat < 2 ^ 31 ∧ value = control.onTimeMS.toNat :=
    fun _ => sectionNumber_of_decimal (by decide) (by decide) (by decide)
  have off : ∀ value : Int, sectionNumber "OFF"
      (ascii "OFF " ++ toDecimal control.offTimeMS.toNat ++ ascii "ms") = .ok value ↔
        control.offTimeMS.toNat < 2 ^ 31 ∧ value = control.offTimeMS.toNat :=
    fun _ => sectionNumber_of_decimal (by decide) (by decide) (by decide)
  rw [controlFromString_eq_ok]
  constructor
  · rintro ⟨_, _, _, _, ⟨⟨_, same⟩, known⟩, c, o, f, countRead, onRead, offRead, made⟩
    cases parts.symm.trans same
    obtain ⟨onSmall, -⟩ := (on o).mp onRead
    obtain ⟨offSmall, -⟩ := (off f).mp offRead
    refine ⟨?_, onSmall, offSmall, ?_⟩
    · by_contra unread
      exact known (controlCodeFromString_of_unread unread)
    · rw [made]
  · rintro ⟨read, onSmall, offSmall, success⟩
    have codeRead := controlCodeFromString_toString read
    refine ⟨_, _, _, _, ⟨⟨_, parts⟩, ?_⟩, control.count.toNat, control.onTimeMS.toNat,
      control.offTimeMS.toNat, (counted _).mpr ⟨by omega, rfl⟩, (on _).mpr ⟨onSmall, rfl⟩,
      (off _).mpr ⟨offSmall, rfl⟩, ?_⟩
    · rw [codeRead]
      rintro undefined
      rw [undefined] at read
      exact absurd read (by decide)
    · rw [codeRead]
      cases control
      cases success
      simp

end OpenDataCon.PyPort

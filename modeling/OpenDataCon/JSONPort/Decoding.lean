import OpenDataCon.JSON.Leaves
import OpenDataCon.JSONPort.ControlDirection

/-!
# When the points of a JSON port decode a value

A path can be followed when each value that it leads on from is an object or null
(`traversePath_returns_iff`). Analog and binary points decode any value; octet strings
take no arrays and objects (`octetStringData_returns_iff`), controls need their numbers
(`controlCommand_returns_iff`), and analog controls take no number that is negative or
too large and, with a logger, no array or object (`analogControlValue_returns_iff`).
-/

set_option autoImplicit false

namespace OpenDataCon.JSONPort

open Connectors Exceptions JSON Outcome
open FileTransfer (Bytes ascii stoul)
open MD3Port (ControlCode ControlRelayOutputBlock)

variable {D : Type}

/-! ## Paths -/

/-- Each value that a path leads on from has members, and each node is a text. -/
def Leads : Value D → List (Value D) → Prop
  | _, [] => True
  | val, node :: nodes =>
    node.isString = true ∧ (val.isNull = true ∨ val.isObject = true) ∧
      ∀ key next, node.asCString = .ok key → val.member key = .ok next → next.isNull = false →
        Leads next nodes

theorem asCString_returns_iff {node : Value D} :
    (∃ key, node.asCString = .ok key) ↔ node.isString = true := by
  cases node with
  | string text => exact ⟨fun _ => rfl, fun _ => ⟨_, rfl⟩⟩
  | null | int | uint | real | boolean | array | object =>
      exact ⟨fun ⟨_, read⟩ => (nomatch read), nofun⟩

theorem member_returns_iff {val : Value D} {key : Bytes} :
    (∃ next, val.member key = .ok next) ↔ val.isNull = true ∨ val.isObject = true := by
  cases val with
  | null => exact ⟨fun _ => .inl rfl, fun _ => ⟨_, rfl⟩⟩
  | object members => exact ⟨fun _ => .inr rfl, fun _ => ⟨_, rfl⟩⟩
  | int | uint | real | boolean | array | string =>
      exact ⟨fun ⟨_, found⟩ => (nomatch found), fun kinds => kinds.elim nofun nofun⟩

theorem walk_cons_ok {val node next : Value D} {nodes : List (Value D)} {key : Bytes}
    (read : node.asCString = .ok key) (found : val.member key = .ok next) :
    walk val (node :: nodes) = if next.isNull then .ok next else walk next nodes := by
  rw [walk, read]
  show (val.member key >>= _) = _
  rw [found]
  rfl

theorem walk_returns_iff {val : Value D} {nodes : List (Value D)} :
    (∃ found, walk val nodes = .ok found) ↔ Leads val nodes := by
  induction nodes generalizing val with
  | nil => exact ⟨fun _ => trivial, fun _ => ⟨val, rfl⟩⟩
  | cons node nodes ih =>
      cases read : node.asCString with
      | error thrown =>
          have other : ¬node.isString = true := by
            intro text
            obtain ⟨key, found⟩ := asCString_returns_iff.mpr text
            rw [read] at found
            contradiction
          refine ⟨?_, fun leads => absurd leads.1 other⟩
          rintro ⟨found, walked⟩
          rw [walk, read] at walked
          contradiction
      | ok key =>
          have text : node.isString = true := asCString_returns_iff.mp ⟨key, read⟩
          cases found : val.member key with
          | error thrown =>
              have other : ¬(val.isNull = true ∨ val.isObject = true) := by
                intro kinds
                obtain ⟨next, given⟩ : ∃ next, val.member key = .ok next :=
                  member_returns_iff.mpr kinds
                rw [found] at given
                contradiction
              refine ⟨?_, fun leads => absurd leads.2.1 other⟩
              rintro ⟨reached, walked⟩
              rw [walk, read] at walked
              change (val.member key >>= _) = _ at walked
              rw [found] at walked
              contradiction
          | ok next =>
              have kinds := member_returns_iff.mp ⟨next, found⟩
              rw [walk_cons_ok read found, Leads, read]
              by_cases null : next.isNull = true
              · rw [if_pos null]
                refine ⟨fun _ => ⟨text, kinds, ?_⟩, fun _ => ⟨next, rfl⟩⟩
                rintro key' next' ⟨⟩ found' notNull
                rw [found] at found'
                cases found'
                rw [null] at notNull
                contradiction
              · rw [if_neg null, ih]
                constructor
                · intro leads
                  refine ⟨text, kinds, ?_⟩
                  rintro key' next' ⟨⟩ found' -
                  rw [found] at found'
                  cases found'
                  exact leads
                · exact fun leads => leads.2.2 key next rfl found (Bool.eq_false_iff.mpr null)

/-- A path that can be followed from a value. -/
def PathFits (JSONRoot nodes : Value D) : Prop :=
  ∃ items, nodes.elements = .ok items ∧ Leads JSONRoot items

/-- **When a path can be followed.** -/
theorem traversePath_returns_iff {JSONRoot nodes : Value D} :
    (∃ val, traversePath JSONRoot nodes = .ok val) ↔ PathFits JSONRoot nodes := by
  rw [PathFits, traversePath]
  cases given : nodes.elements with
  | error thrown => exact ⟨fun ⟨_, read⟩ => (nomatch read), fun ⟨_, read, _⟩ => nomatch read⟩
  | ok items =>
      show (∃ val, walk JSONRoot items = .ok val) ↔ _
      rw [walk_returns_iff]
      constructor
      · exact fun leads => ⟨items, rfl, leads⟩
      · rintro ⟨items', ⟨⟩, leads⟩
        exact leads

/-- The value that the path of a point leads to, if there is one. -/
def AtPath (JSONRoot : Value D) (point : Point D) (val : Value D) : Prop :=
  ∃ nodes, point.lookup (ascii "JSONPath") = some nodes ∧
    traversePath JSONRoot nodes = .ok val ∧ val.isNull = false

/-- The path of a point, if it has one, can be followed. -/
def PointLeads (JSONRoot : Value D) (point : Point D) : Prop :=
  ∀ nodes, point.lookup (ascii "JSONPath") = some nodes → PathFits JSONRoot nodes

theorem AtPath.unique {JSONRoot val other : Value D} {point : Point D}
    (first : AtPath JSONRoot point val) (second : AtPath JSONRoot point other) : val = other := by
  obtain ⟨nodes, path, leads, -⟩ := first
  obtain ⟨nodes', path', leads', -⟩ := second
  obtain rfl := Option.some.inj (path.symm.trans path')
  exact Except.ok.inj (leads.symm.trans leads')

theorem AtPath.eq {α : Type} {JSONRoot val : Value D} {point : Point D}
    (at_path : AtPath JSONRoot point val) (missing : α) (decode : Value D → Except Thrown α) :
    atPath JSONRoot point missing decode = decode val := by
  obtain ⟨nodes, path, leads, found⟩ := at_path
  exact atPath_eq path leads found missing decode

/-- Without a value, there is nothing to decode. -/
theorem atPath_missing {α : Type} {JSONRoot : Value D} {point : Point D}
    (leads : PointLeads JSONRoot point) (none : ∀ val, ¬AtPath JSONRoot point val) (missing : α)
    (decode : Value D → Except Thrown α) :
    atPath JSONRoot point missing decode = .ok missing := by
  rw [atPath]
  cases path : point.lookup (ascii "JSONPath") with
  | none => rfl
  | some nodes =>
      obtain ⟨val, found⟩ := traversePath_returns_iff.mpr (leads nodes path)
      have null : val.isNull = true := by
        by_contra notNull
        exact none val ⟨nodes, path, found, Bool.eq_false_iff.mpr notNull⟩
      show (traversePath JSONRoot nodes >>= _) = _
      rw [found]
      exact if_pos null

/-- **When a point raises no exception**: its path can be followed, and it decodes the value
at its end. -/
theorem atPath_returns_iff {α : Type} {JSONRoot : Value D} {point : Point D} {missing : α}
    {decode : Value D → Except Thrown α} :
    (∃ result, atPath JSONRoot point missing decode = .ok result) ↔
      PointLeads JSONRoot point ∧
        ∀ val, AtPath JSONRoot point val → ∃ result, decode val = .ok result := by
  constructor
  · rintro ⟨result, returns⟩
    constructor
    · intro nodes path
      rw [atPath, path] at returns
      change (traversePath JSONRoot nodes >>= _) = _ at returns
      refine traversePath_returns_iff.mp ?_
      cases walked : traversePath JSONRoot nodes with
      | ok val => exact ⟨val, rfl⟩
      | error thrown =>
          rw [walked] at returns
          contradiction
    · intro val at_path
      exact ⟨result, (at_path.eq missing decode).symm.trans returns⟩
  · rintro ⟨leads, decodes⟩
    by_cases found : ∃ val, AtPath JSONRoot point val
    · obtain ⟨val, at_path⟩ := found
      obtain ⟨result, decoded⟩ := decodes val at_path
      exact ⟨result, (at_path.eq missing decode).trans decoded⟩
    · exact ⟨missing, atPath_missing leads (fun val at_path => found ⟨val, at_path⟩) _ _⟩

/-- A result comes from the value at the path, or there is none. -/
theorem atPath_cases {α : Type} {JSONRoot : Value D} {point : Point D} {missing result : α}
    {decode : Value D → Except Thrown α}
    (returns : atPath JSONRoot point missing decode = .ok result) :
    result = missing ∨ ∃ val, AtPath JSONRoot point val ∧ decode val = .ok result := by
  by_cases found : ∃ val, AtPath JSONRoot point val
  · obtain ⟨val, at_path⟩ := found
    exact .inr ⟨val, at_path, (at_path.eq missing decode).symm.trans returns⟩
  · have leads := (atPath_returns_iff.mp ⟨result, returns⟩).1
    rw [atPath_missing leads fun val at_path => found ⟨val, at_path⟩] at returns
    exact .inl (Except.ok.inj returns).symm

/-! ## Decoders -/

variable [Doubles D]

theorem asString_returns_iff {val : Value D} :
    (∃ text, val.asString = .ok text) ↔ val.isLeaf = true := by
  cases val with
  | null | int | uint | real | boolean | string => exact ⟨fun _ => rfl, fun _ => ⟨_, rfl⟩⟩
  | array | object => exact ⟨fun ⟨_, read⟩ => (nomatch read), nofun⟩

theorem asDouble_returns {val : Value D} (number : val.isNumeric = true) :
    ∃ value, val.asDouble = .ok value := by
  cases val with
  | int | uint | real => exact ⟨_, rfl⟩
  | null | boolean | string | array | object => contradiction

theorem asBool_returns {val : Value D} (kinds : (val.isNumeric || val.isBool) = true) :
    ∃ value, val.asBool = .ok value := by
  cases val with
  | int | uint | real | boolean => exact ⟨_, rfl⟩
  | null | string | array | object => contradiction

/-- An analog point decodes any value. -/
theorem analogValue_returns (val : Value D) : ∃ result, analogValue val = .ok result := by
  unfold analogValue
  by_cases number : val.isNumeric = true
  · obtain ⟨value, read⟩ := asDouble_returns number
    rw [if_pos number, read]
    exact ⟨_, rfl⟩
  · rw [if_neg number]
    cases val with
    | string text =>
        dsimp only
        cases Doubles.ofText (D := D) text with
        | ok value => exact ⟨_, rfl⟩
        | error thrown => exact ⟨_, rfl⟩
    | null | int | uint | real | boolean | array | object => exact ⟨_, rfl⟩

/-- **When an octet string is decoded**: neither its value nor its format is an array or an
object. -/
theorem octetStringData_returns_iff {point : Point D} {val : Value D} :
    (∃ data, octetStringData point val = .ok data) ↔
      (∀ format, point.lookup (ascii "Format") = some format → format.isLeaf = true) ∧
        val.isLeaf = true := by
  have formatted : (∃ format, getOctetStringFormat point = .ok format) ↔
      ∀ format, point.lookup (ascii "Format") = some format → format.isLeaf = true := by
    rw [getOctetStringFormat]
    cases given : point.lookup (ascii "Format") with
    | none =>
        refine ⟨?_, fun _ => ⟨_, rfl⟩⟩
        rintro - format ⟨⟩
    | some format =>
        cases read : format.asString with
        | ok text =>
            refine ⟨?_, fun _ => ⟨if text = ascii "Hex" then .Hex else .Raw, ?_⟩⟩
            · rintro - other ⟨⟩
              exact asString_returns_iff.mp ⟨text, read⟩
            · simp only [read]
              rfl
        | error thrown =>
            constructor
            · rintro ⟨result, returns⟩
              simp only [read] at returns
              cases returns
            · intro leaf
              obtain ⟨text, other⟩ := asString_returns_iff.mpr (leaf format rfl)
              rw [read] at other
              contradiction
  rw [← formatted, ← asString_returns_iff, octetStringData]
  cases format : getOctetStringFormat point with
  | error thrown =>
      constructor
      · rintro ⟨data, ⟨⟩⟩
      · rintro ⟨⟨method, ⟨⟩⟩, -⟩
  | ok method =>
      cases read : val.asString with
      | error thrown =>
          constructor
          · rintro ⟨data, ⟨⟩⟩
          · rintro ⟨-, text, ⟨⟩⟩
      | ok text =>
          refine ⟨fun _ => ⟨⟨method, rfl⟩, text, rfl⟩, fun _ => ?_⟩
          cases method with
          | Raw => exact ⟨text, rfl⟩
          | Hex =>
              dsimp only [bind, Except.bind]
              cases hex2buf text with
              | ok data => exact ⟨_, rfl⟩
              | error e => exact ⟨_, rfl⟩

section Equality

variable [DecidableEq D] {point : Point D} {val : Value D}

/-- A binary point decodes any value. -/
theorem binaryValue_returns (point : Point D) (val : Value D) :
    ∃ result, binaryValue point val = .ok result := by
  unfold binaryValue
  cases point.lookup (ascii "TrueVal") with
  | some trueVal =>
      cases point.lookup (ascii "FalseVal") with
      | some falseVal => exact ⟨_, rfl⟩
      | none => exact ⟨_, rfl⟩
  | none =>
      cases point.lookup (ascii "FalseVal") with
      | some falseVal => exact ⟨_, rfl⟩
      | none =>
          dsimp only
          by_cases kinds : (val.isNumeric || val.isBool) = true
          · obtain ⟨value, read⟩ := asBool_returns kinds
            rw [if_pos kinds, read]
            exact ⟨_, rfl⟩
          · rw [if_neg kinds]
            cases val with
            | null | int | uint | real | boolean | string | array | object => exact ⟨_, rfl⟩

/-- The check of a control raises nothing but its own error. -/
theorem checkVal_cases (point : Point D) (val : Value D) (truename falsename : String) :
    (∃ direction, checkVal point val truename falsename = .ok direction) ∨
      checkVal point val truename falsename =
        .error (.runtimeError "Unexpected control value") := by
  unfold checkVal
  cases point.lookup (ascii truename) with
  | some trueVal =>
      cases point.lookup (ascii falsename) with
      | some falseVal =>
          dsimp only
          by_cases other : val ≠ trueVal ∧ val ≠ falseVal
          · exact .inr (if_pos other)
          · exact .inl ⟨_, if_neg other⟩
      | none => exact .inl ⟨_, rfl⟩
  | none =>
      cases point.lookup (ascii falsename) with
      | some falseVal => exact .inl ⟨_, rfl⟩
      | none =>
          dsimp only
          by_cases kinds : (val.isNumeric || val.isBool) = true
          · rw [if_pos kinds]
            exact .inl (asBool_returns kinds)
          · rw [if_neg kinds]
            cases val with
            | string text =>
                dsimp only
                by_cases unknown : text ∉ onWords ∧ text ∉ offWords
                · exact .inr (if_pos unknown)
                · exact .inl ⟨_, if_neg unknown⟩
            | null | int | uint | real | boolean | array | object => exact .inl ⟨_, rfl⟩

theorem directionCode_returns (truename falsename : String) (trueCode falseCode : ControlCode) :
    ∃ code, directionCode point val truename falsename trueCode falseCode = .ok code := by
  rcases checkVal_cases point val truename falsename with ⟨direction, checked⟩ | unexpected
  · exact ⟨_, directionCode_ok checked⟩
  · exact ⟨none, directionCode_unexpected unexpected⟩

theorem functionCode_returns : ∃ code, functionCode point val = .ok code := by
  rw [functionCode]
  cases point.lookup (ascii "ControlMode") with
  | none => exact ⟨_, rfl⟩
  | some mode =>
      cases mode with
      | string cm =>
          dsimp only
          by_cases latch : cm = ascii "LATCH"
          · rw [if_pos latch]
            exact directionCode_returns _ _ _ _
          · rw [if_neg latch]
            by_cases trip : cm = ascii "TRIPCLOSE"
            · rw [if_pos trip]
              exact directionCode_returns _ _ _ _
            · rw [if_neg trip]
              by_cases pulse : cm = ascii "PULSE"
              · exact ⟨_, if_pos pulse⟩
              · exact ⟨_, if_neg pulse⟩
      | null | int | uint | real | boolean | array | object => exact ⟨_, rfl⟩

/-- **When a control is decoded**: its numbers can be read, or there is none to send. -/
theorem controlCommand_returns_iff :
    (∃ command, controlCommand point val = .ok command) ↔
      ∀ code, functionCode point val = .ok (some code) → NumbersFit point := by
  obtain ⟨chosen, directed⟩ : ∃ code, functionCode point val = .ok code := functionCode_returns
  cases chosen with
  | none =>
      refine ⟨fun _ code other => ?_, fun _ => ⟨none, controlCommand_none directed⟩⟩
      rw [directed] at other
      exact nomatch other
  | some code =>
      constructor
      · rintro ⟨command, returns⟩ - -
        by_contra unfit
        obtain ⟨thrown, fails⟩ := controlCommand_error directed unfit
        rw [returns] at fails
        contradiction
      · intro fits
        obtain ⟨command, sent, -⟩ := controlCommand_ok directed (fits code directed)
        exact ⟨some command, sent⟩

end Equality

/-- Once its text is in the log, it does not matter. -/
theorem analogControlValue_logged {logging : Bool} {val : Value D}
    (logged : logging = true → val.isLeaf = true) :
    analogControlValue logging val = analogControlValue false val := by
  cases logging with
  | false => rfl
  | true =>
      obtain ⟨text, read⟩ := asString_returns_iff.mpr (logged rfl)
      show (val.asString >>= fun _ => _) = _
      rw [read]
      rfl

theorem analogControlValue_unlogged {val : Value D} (nested : ¬val.isLeaf = true) :
    ∃ thrown, analogControlValue true val = .error thrown := by
  cases read : val.asString with
  | ok text => exact absurd (asString_returns_iff.mp ⟨text, read⟩) nested
  | error thrown =>
      refine ⟨thrown, ?_⟩
      show (val.asString >>= fun _ => _) = _
      rw [read]
      rfl

/-- What an analog control asks for. -/
theorem analogControlValue_number {val : Value D} (number : val.isNumeric = true) :
    analogControlValue false val =
      val.asUInt.map fun number => some (BitVec.ofInt 16 number) := by
  have asked : analogControlValue false val =
      val.asUInt >>= fun number => pure (some (BitVec.ofInt 16 number)) := by
    cases val with
    | int | uint | real => rfl
    | null | boolean | string | array | object => contradiction
  rw [asked]
  cases val.asUInt with
  | ok value => rfl
  | error thrown => rfl

/-- **When an analog control is decoded.** -/
theorem analogControlValue_returns_iff {logging : Bool} {val : Value D} :
    (∃ value, analogControlValue logging val = .ok value) ↔
      (logging = true → val.isLeaf = true) ∧
        (val.isNumeric = true → ∃ number, val.asUInt = .ok number) := by
  by_cases logged : logging = true → val.isLeaf = true
  · rw [analogControlValue_logged logged, and_iff_right logged]
    by_cases number : val.isNumeric = true
    · rw [analogControlValue_number number]
      cases val.asUInt with
      | ok value => exact ⟨fun _ _ => ⟨value, rfl⟩, fun _ => ⟨_, rfl⟩⟩
      | error thrown =>
          exact ⟨fun ⟨_, read⟩ => (nomatch read), fun read => (nomatch read number)⟩
    · refine ⟨fun _ isNumber => absurd isNumber number, fun _ => ?_⟩
      cases val with
      | int | uint | real => exact absurd rfl number
      | null | boolean | string | array | object => exact ⟨_, rfl⟩
  · refine ⟨?_, fun fits => absurd fits.1 logged⟩
    rintro ⟨value, returns⟩
    have on : logging = true := by
      by_contra off
      exact logged fun isOn => absurd isOn off
    obtain ⟨thrown, fails⟩ := analogControlValue_unlogged fun leaf => logged fun _ => leaf
    rw [on, fails] at returns
    exact nomatch returns

end OpenDataCon.JSONPort

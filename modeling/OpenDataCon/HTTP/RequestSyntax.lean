import Mathlib.Data.List.ModifyLast
import OpenDataCon.HTTP.RequestParser

/-!
# The syntax of a request's header section

A header section is a request line, header lines, and an empty line; a line that
begins with space continues the value of the header before it. The parser comes to
the end of the headers after exactly the header sections, with the request that they
state (`parse_isHead`, `isHead_of_parse`).
-/

set_option autoImplicit false

namespace OpenDataCon.HTTP

open Exceptions
open FileTransfer (Bytes ascii isDigit)
open RequestParser

/-! ## Syntax -/

/-- The end of a line. -/
def CRLF : Bytes := [0x0D, 0x0A]

/-- A decimal number. -/
def IsDecimal (text : Bytes) : Prop := text ≠ [] ∧ ∀ byte ∈ text, isDigit byte = true

def decimalValue (text : Bytes) : Nat :=
  text.foldl (fun value digit => value * 10 + (digit.toNat - 0x30)) 0

/-- The name of a method or a header. -/
def IsName (text : Bytes) : Prop := text ≠ [] ∧ ∀ byte ∈ text, isToken byte = true

/-- A text without control characters. -/
def IsText (text : Bytes) : Prop := ∀ byte ∈ text, isCtl byte = false

/-- A request line, with what it states. -/
inductive RequestLine : Bytes → Request → Prop where
  | mk {method uri major minor : Bytes} (named : IsName method) (text : IsText uri)
      (unspaced : 0x20 ∉ uri) (majorDigits : IsDecimal major) (minorDigits : IsDecimal minor) :
      RequestLine
        (method ++ [0x20] ++ uri ++ [0x20] ++ ascii "HTTP/" ++ major ++ [0x2E] ++ minor ++ CRLF)
        { method, uri
          httpVersionMajor := decimalValue major
          httpVersionMinor := decimalValue minor }

/-- Header lines, with the headers that they state. -/
inductive HeaderLines : Bytes → List Header → Prop where
  | none : HeaderLines [] []
  | header {lines name value : Bytes} {headers : List Header} (before : HeaderLines lines headers)
      (named : IsName name) (text : IsText value) :
      HeaderLines (lines ++ name ++ [0x3A, 0x20] ++ value ++ CRLF) (headers ++ [⟨name, value⟩])
  | continued {lines space value : Bytes} {headers : List Header} {last : Header}
      (before : HeaderLines lines (headers ++ [last])) (some_space : space ≠ [])
      (spaces : ∀ byte ∈ space, byte = 0x20 ∨ byte = 0x09) (text : IsText value)
      (begins : value.head? ≠ some 0x20) :
      HeaderLines (lines ++ space ++ value ++ CRLF) (headers ++ [⟨last.name, last.value ++ value⟩])

/-- A header section, with the request that it states. -/
def IsHead (head : Bytes) (req : Request) : Prop :=
  ∃ line lines start headers, RequestLine line start ∧ HeaderLines lines headers ∧
    head = line ++ lines ++ CRLF ∧ req = { start with headers }

theorem decimalValue_concat (text : Bytes) (digit : UInt8) :
    decimalValue (text ++ [digit]) = decimalValue text * 10 + (digit.toNat - 0x30) := by
  rw [decimalValue, List.foldl_append]
  rfl

/-- A request line states no headers. -/
theorem requestLine_headers {line : Bytes} {start : Request} (written : RequestLine line start) :
    start.headers = [] := by
  cases written
  rfl

/-! ## The parser reads header sections -/

section Complete

/-- The parser takes some bytes without a result. -/
def Goes (p : RequestParser) (bytes : Bytes) (reached : RequestParser) : Prop :=
  p.parse bytes = .ok (.indeterminate, reached, [])

variable {p q reached : RequestParser} {byte : UInt8} {count : Nat} {req : Request}

theorem Goes.append {first second : Bytes} (begins : Goes p first q)
    (ends : Goes q second reached) : Goes p (first ++ second) reached :=
  (parse_pending second begins).trans ends

theorem Goes.single (step : p.consume byte = .ok (.indeterminate, q)) : Goes p [byte] q := by
  rw [Goes, parse, step]
  rfl

/-- A part that is read byte by byte: `reached` is the parser after what was read of it. -/
theorem Goes.part {reached : Bytes → RequestParser} {valid : UInt8 → Prop}
    (step : ∀ read byte, valid byte →
      (reached read).consume byte = .ok (.indeterminate, reached (read ++ [byte])))
    {part : Bytes} (all : ∀ byte ∈ part, valid byte) (read : Bytes) :
    Goes (reached read) part (reached (read ++ part)) := by
  induction part generalizing read with
  | nil =>
      rw [List.append_nil]
      rfl
  | cons byte part ih =>
      have later := ih (fun other inside => all other (List.mem_cons_of_mem byte inside))
        (read ++ [byte])
      rw [List.append_assoc] at later
      exact (Goes.single (step read byte (all byte List.mem_cons_self))).append later

/-- A token is no delimiter. -/
theorem token_ne (token : isToken byte = true) : byte ≠ 0x20 ∧ byte ≠ 0x3A ∧ byte ≠ 0x0D ∧
    byte ≠ 0x09 := by
  refine ⟨?_, ?_, ?_, ?_⟩ <;>
  · rintro rfl
    exact absurd token (by decide)

/-- The end of a line is a control character. -/
theorem text_ne (text : isCtl byte = false) : byte ≠ 0x0D ∧ byte ≠ 0x09 := by
  refine ⟨?_, ?_⟩ <;>
  · rintro rfl
    exact absurd text (by decide)

theorem digit_ne (digit : isDigit byte = true) : byte ≠ 0x2E ∧ byte ≠ 0x0D := by
  refine ⟨?_, ?_⟩ <;>
  · rintro rfl
    exact absurd digit (by decide)

/-- The method, with the space after it. -/
theorem goes_method {method : Bytes} (named : IsName method) :
    Goes {} (method ++ [0x20]) ⟨.uri, 0, { method }⟩ := by
  obtain ⟨some_name, tokens⟩ := named
  cases method with
  | nil => exact absurd rfl some_name
  | cons first rest =>
      have begun : Goes {} [first] ⟨.method, 0, { method := [first] }⟩ :=
        .single (by simp [consume, tokens first List.mem_cons_self, goto])
      have named : Goes ⟨.method, 0, { method := [first] }⟩ rest
          ⟨.method, 0, { method := first :: rest }⟩ := by
        refine @Goes.part (fun read => ⟨.method, 0, { method := read }⟩)
          (fun byte => isToken byte = true) ?_ rest
          (fun byte inside => tokens byte (List.mem_cons_of_mem first inside)) [first]
        intro read byte token
        simp [consume, token, (token_ne token).1, goto]
      exact (begun.append named).append (.single rfl)

/-- The address, with the space after it. -/
theorem goes_uri {uri : Bytes} (text : IsText uri) (unspaced : 0x20 ∉ uri) (method : Bytes) :
    Goes ⟨.uri, 0, { method }⟩ (uri ++ [0x20]) ⟨.httpVersionH, 0, { method, uri }⟩ := by
  have address : Goes ⟨.uri, 0, { method }⟩ uri ⟨.uri, 0, { method, uri }⟩ := by
    refine @Goes.part (fun read => ⟨.uri, 0, { method, uri := read }⟩)
      (fun byte => isCtl byte = false ∧ byte ≠ 0x20) ?_ uri
      (fun byte inside => ⟨text byte inside, fun same => unspaced (same ▸ inside)⟩) []
    rintro read byte ⟨character, other⟩
    simp [consume, character, other, goto]
  exact address.append (.single rfl)

/-- The major version, with the point after it. -/
theorem goes_major {major : Bytes} (decimal : IsDecimal major) (req : Request)
    (cleared : req.httpVersionMajor = 0) :
    Goes ⟨.httpVersionMajorStart, 0, req⟩ (major ++ [0x2E])
      ⟨.httpVersionMinorStart, 0, { req with httpVersionMajor := decimalValue major }⟩ := by
  obtain ⟨some_digit, digits⟩ := decimal
  cases major with
  | nil => exact absurd rfl some_digit
  | cons first rest =>
      have begun : Goes ⟨.httpVersionMajorStart, 0, req⟩ [first]
          ⟨.httpVersionMajor, 0, { req with httpVersionMajor := decimalValue [first] }⟩ :=
        .single (by simp [consume, digits first List.mem_cons_self, goto, pushMajor, decimalValue,
          cleared])
      have numbered : Goes
          ⟨.httpVersionMajor, 0, { req with httpVersionMajor := decimalValue [first] }⟩ rest
          ⟨.httpVersionMajor, 0, { req with httpVersionMajor := decimalValue (first :: rest) }⟩ := by
        refine @Goes.part
          (fun read => ⟨.httpVersionMajor, 0, { req with httpVersionMajor := decimalValue read }⟩)
          (fun byte => isDigit byte = true) ?_ rest
          (fun byte inside => digits byte (List.mem_cons_of_mem first inside)) [first]
        intro read byte digit
        simp [consume, digit, (digit_ne digit).1, goto, pushMajor, decimalValue_concat]
      exact (begun.append numbered).append (.single rfl)

/-- The minor version, with the end of the line. -/
theorem goes_minor {minor : Bytes} (decimal : IsDecimal minor) (req : Request)
    (cleared : req.httpVersionMinor = 0) :
    Goes ⟨.httpVersionMinorStart, 0, req⟩ (minor ++ CRLF)
      ⟨.headerLineStart, 0, { req with httpVersionMinor := decimalValue minor }⟩ := by
  obtain ⟨some_digit, digits⟩ := decimal
  cases minor with
  | nil => exact absurd rfl some_digit
  | cons first rest =>
      have begun : Goes ⟨.httpVersionMinorStart, 0, req⟩ [first]
          ⟨.httpVersionMinor, 0, { req with httpVersionMinor := decimalValue [first] }⟩ :=
        .single (by simp [consume, digits first List.mem_cons_self, goto, pushMinor, decimalValue,
          cleared])
      have numbered : Goes
          ⟨.httpVersionMinor, 0, { req with httpVersionMinor := decimalValue [first] }⟩ rest
          ⟨.httpVersionMinor, 0, { req with httpVersionMinor := decimalValue (first :: rest) }⟩ := by
        refine @Goes.part
          (fun read => ⟨.httpVersionMinor, 0, { req with httpVersionMinor := decimalValue read }⟩)
          (fun byte => isDigit byte = true) ?_ rest
          (fun byte inside => digits byte (List.mem_cons_of_mem first inside)) [first]
        intro read byte digit
        simp [consume, digit, (digit_ne digit).2, goto, pushMinor, decimalValue_concat]
      exact (begun.append numbered).append rfl

/-- **A request line is read.** -/
theorem goes_requestLine {line : Bytes} {start : Request} (written : RequestLine line start) :
    Goes {} line ⟨.headerLineStart, 0, start⟩ := by
  cases written with
  | @mk method uri major minor named text unspaced majorDigits minorDigits =>
      have version : Goes ⟨.httpVersionH, 0, { method, uri }⟩ (ascii "HTTP/")
          ⟨.httpVersionMajorStart, 0, { method, uri }⟩ := rfl
      have whole := ((((goes_method named).append (goes_uri text unspaced method)).append
        version).append (goes_major majorDigits _ rfl)).append (goes_minor minorDigits _ rfl)
      simpa only [List.append_assoc] using whole

/-- The values of a header, before the end of its line. -/
theorem goes_value {value : Bytes} (text : IsText value) (req : Request) (headers : List Header)
    (last : Header) :
    Goes ⟨.headerValue, 0, { req with headers := headers ++ [last] }⟩ value
      ⟨.headerValue, 0,
        { req with headers := headers ++ [⟨last.name, last.value ++ value⟩] }⟩ := by
  have part := @Goes.part
    (fun read => ⟨.headerValue, 0,
      { req with headers := headers ++ [⟨last.name, last.value ++ read⟩] }⟩)
    (fun byte => isCtl byte = false) (fun read byte character => by
      simp [consume, character, (text_ne character).1, goto, pushValue, List.modifyLast_concat])
    value text []
  rw [List.append_nil] at part
  exact part

/-- The name of a new header, with the colon and the space after it. -/
theorem goes_name {name : Bytes} (named : IsName name) (req : Request) (headers : List Header) :
    Goes ⟨.headerLineStart, 0, { req with headers }⟩ (name ++ [0x3A, 0x20])
      ⟨.headerValue, 0, { req with headers := headers ++ [⟨name, []⟩] }⟩ := by
  obtain ⟨some_name, tokens⟩ := named
  cases name with
  | nil => exact absurd rfl some_name
  | cons first rest =>
      have token := tokens first List.mem_cons_self
      obtain ⟨no_space, -, no_return, no_tab⟩ := token_ne token
      have begun : Goes ⟨.headerLineStart, 0, { req with headers }⟩ [first]
          ⟨.headerName, 0, { req with headers := headers ++ [⟨[first], []⟩] }⟩ :=
        .single (by simp [consume, token, no_space, no_return, no_tab, goto, startHeader])
      have named : Goes ⟨.headerName, 0, { req with headers := headers ++ [⟨[first], []⟩] }⟩ rest
          ⟨.headerName, 0, { req with headers := headers ++ [⟨first :: rest, []⟩] }⟩ := by
        refine @Goes.part
          (fun read => ⟨.headerName, 0, { req with headers := headers ++ [⟨read, []⟩] }⟩)
          (fun byte => isToken byte = true) ?_ rest
          (fun byte inside => tokens byte (List.mem_cons_of_mem first inside)) [first]
        intro read byte token
        simp [consume, token, (token_ne token).2.1, goto, pushName, List.modifyLast_concat]
      exact (begun.append named).append rfl

/-- The space that a continuation begins with. -/
theorem goes_space {space : Bytes} (some_space : space ≠ [])
    (spaces : ∀ byte ∈ space, byte = 0x20 ∨ byte = 0x09) (req : Request) (given : req.headers ≠ []) :
    Goes ⟨.headerLineStart, 0, req⟩ space ⟨.headerLws, 0, req⟩ := by
  have is_blank : ∀ byte : UInt8, byte = 0x20 ∨ byte = 0x09 → byte ≠ 0x0D := by
    rintro byte (rfl | rfl) <;> decide
  cases space with
  | nil => exact absurd rfl some_space
  | cons first rest =>
      have blank := spaces first List.mem_cons_self
      have begun : Goes ⟨.headerLineStart, 0, req⟩ [first] ⟨.headerLws, 0, req⟩ :=
        .single (by simp [consume, is_blank first blank, blank, given, goto])
      have part : Goes ⟨.headerLws, 0, req⟩ rest ⟨.headerLws, 0, req⟩ := by
        refine @Goes.part (fun _ => ⟨.headerLws, 0, req⟩) (fun byte => byte = 0x20 ∨ byte = 0x09) ?_
          rest (fun byte inside => spaces byte (List.mem_cons_of_mem first inside)) [first]
        intro read byte blank
        simp [consume, is_blank byte blank, blank, goto]
      exact begun.append part

/-- The end of a header line. -/
theorem goes_lineEnd (state : State) (req : Request)
    (line : state = .headerValue ∨ state = .headerLws) :
    Goes ⟨state, 0, req⟩ CRLF ⟨.headerLineStart, 0, req⟩ := by
  rcases line with rfl | rfl
  · rfl
  · rfl

/-- **Header lines are read.** -/
theorem goes_headerLines {lines : Bytes} {headers : List Header} (written : HeaderLines lines headers)
    (req : Request) (fresh : req.headers = []) :
    Goes ⟨.headerLineStart, 0, req⟩ lines ⟨.headerLineStart, 0, { req with headers }⟩ := by
  induction written with
  | none =>
      rw [← fresh]
      rfl
  | @header lines name value headers before named text ih =>
      have name := goes_name named { req with headers } headers
      have whole := ((ih.append name).append (goes_value text req headers ⟨_, []⟩)).append
        (goes_lineEnd .headerValue _ (.inl rfl))
      simpa only [List.append_assoc, List.nil_append] using whole
  | @continued lines space value headers last before some_space spaces text begins ih =>
      have blank := goes_space some_space spaces { req with headers := headers ++ [last] }
        (List.append_ne_nil_of_right_ne_nil _ (List.cons_ne_nil _ _))
      cases value with
      | nil =>
          have whole := (ih.append blank).append (goes_lineEnd .headerLws _ (.inr rfl))
          simpa only [List.append_nil] using whole
      | cons first rest =>
          have character := text first List.mem_cons_self
          have begun : Goes ⟨.headerLws, 0, { req with headers := headers ++ [last] }⟩ [first]
              ⟨.headerValue, 0,
                { req with headers := headers ++ [⟨last.name, last.value ++ [first]⟩] }⟩ := by
            have other : first ≠ 0x20 := fun same => begins (congrArg some same)
            refine .single ?_
            simp [consume, character, (text_ne character).1, (text_ne character).2, other, goto,
              pushValue, List.modifyLast_concat]
          have value := goes_value (fun byte inside => text byte (List.mem_cons_of_mem first inside))
            req headers ⟨last.name, last.value ++ [first]⟩
          have whole := (((ih.append blank).append begun).append value).append
            (goes_lineEnd .headerValue _ (.inl rfl))
          simpa only [List.append_assoc, List.singleton_append] using whole

/-- **A header section is read**: the parser waits for its last byte. -/
theorem parse_isHead {head : Bytes} {req : Request} (written : IsHead head req) :
    ∃ before, head = before ++ [0x0A] ∧ Goes {} before ⟨.expectingNewline3, 0, req⟩ := by
  obtain ⟨line, lines, start, headers, first, rest, rfl, rfl⟩ := written
  refine ⟨line ++ lines ++ [0x0D], by rw [CRLF, List.append_assoc (line ++ lines)]; rfl, ?_⟩
  exact ((goes_requestLine first).append
    (goes_headerLines rest start (requestLine_headers first))).append (.single rfl)

end Complete

/-! ## The parser reads nothing else -/

section Sound

/-- A method and an address, with what follows them. -/
def Addressed (bytes : Bytes) (req : Request) (rest : Bytes) : Prop :=
  ∃ method uri, IsName method ∧ IsText uri ∧ 0x20 ∉ uri ∧
    bytes = method ++ [0x20] ++ uri ++ [0x20] ++ rest ∧ req = { method, uri }

/-- The same with a major version. -/
def Numbered (bytes : Bytes) (req : Request) (rest : Bytes) : Prop :=
  ∃ method uri major, IsName method ∧ IsText uri ∧ 0x20 ∉ uri ∧ IsDecimal major ∧
    bytes = method ++ [0x20] ++ uri ++ [0x20] ++ ascii "HTTP/" ++ major ++ rest ∧
    req = { method, uri, httpVersionMajor := decimalValue major }

/-- A request line and header lines. -/
def Lines (bytes : Bytes) (req : Request) : Prop :=
  ∃ line lines start headers, RequestLine line start ∧ HeaderLines lines headers ∧
    bytes = line ++ lines ∧ req = { start with headers }

/-- Lines, and the name of another header. -/
def Named (bytes : Bytes) (req : Request) (rest : Bytes) : Prop :=
  ∃ line lines start headers name, RequestLine line start ∧ HeaderLines lines headers ∧
    IsName name ∧ bytes = line ++ lines ++ name ++ rest ∧
    req = { start with headers := headers ++ [⟨name, []⟩] }

/-- Lines, the last of which goes on with any text that the condition allows. -/
def Open (allows : Bytes → Prop) (bytes : Bytes) (req : Request) : Prop :=
  ∃ line lines start headers last, RequestLine line start ∧ bytes = line ++ lines ∧
    req = { start with headers := headers ++ [last] } ∧
    ∀ more, IsText more → allows more →
      HeaderLines (lines ++ more ++ CRLF) (headers ++ [⟨last.name, last.value ++ more⟩])

/-- Lines, and the space that a continuation begins with. -/
def Continued (bytes : Bytes) (req : Request) : Prop :=
  ∃ line lines space start headers last, RequestLine line start ∧
    HeaderLines lines (headers ++ [last]) ∧ space ≠ [] ∧
    (∀ byte ∈ space, byte = 0x20 ∨ byte = 0x09) ∧ bytes = line ++ lines ++ space ∧
    req = { start with headers := headers ++ [last] }

/-- What was read in each state, by the request that it became. -/
def Shape (bytes : Bytes) (req : Request) : State → Prop
  | .methodStart => bytes = [] ∧ req = {}
  | .method => IsName bytes ∧ req = { method := bytes }
  | .uri => ∃ method uri, IsName method ∧ IsText uri ∧ 0x20 ∉ uri ∧
      bytes = method ++ [0x20] ++ uri ∧ req = { method, uri }
  | .httpVersionH => Addressed bytes req []
  | .httpVersionT1 => Addressed bytes req (ascii "H")
  | .httpVersionT2 => Addressed bytes req (ascii "HT")
  | .httpVersionP => Addressed bytes req (ascii "HTT")
  | .httpVersionSlash => Addressed bytes req (ascii "HTTP")
  | .httpVersionMajorStart => Addressed bytes req (ascii "HTTP/")
  | .httpVersionMajor => Numbered bytes req []
  | .httpVersionMinorStart => Numbered bytes req [0x2E]
  | .httpVersionMinor => ∃ method uri major minor, IsName method ∧ IsText uri ∧ 0x20 ∉ uri ∧
      IsDecimal major ∧ IsDecimal minor ∧
      bytes = method ++ [0x20] ++ uri ++ [0x20] ++ ascii "HTTP/" ++ major ++ [0x2E] ++ minor ∧
      req = { method, uri
              httpVersionMajor := decimalValue major
              httpVersionMinor := decimalValue minor }
  | .expectingNewline1 => RequestLine (bytes ++ [0x0A]) req
  | .headerLineStart => Lines bytes req
  | .headerLws => Continued bytes req
  | .headerName => Named bytes req []
  | .spaceBeforeHeaderValue => Named bytes req [0x3A]
  | .headerValue => Open (fun _ => True) bytes req
  | .expectingNewline2 => Lines (bytes ++ [0x0A]) req
  | .expectingNewline3 => IsHead (bytes ++ [0x0A]) req
  | .content => True

variable {p next : RequestParser} {bytes : Bytes} {input : UInt8}

theorem IsText.cons {text : Bytes} (text_ : IsText text) (character : isCtl input = false) :
    IsText (input :: text) := by
  intro byte inside
  rcases List.mem_cons.mp inside with rfl | later
  · exact character
  · exact text_ byte later

theorem IsText.concat {text : Bytes} (text_ : IsText text) (character : isCtl input = false) :
    IsText (text ++ [input]) := by
  intro byte inside
  rcases List.mem_append.mp inside with before | last
  · exact text_ byte before
  · exact List.mem_singleton.mp last ▸ character

theorem IsName.concat {name : Bytes} (named : IsName name) (token : isToken input = true) :
    IsName (name ++ [input]) := by
  refine ⟨List.append_ne_nil_of_left_ne_nil named.1 _, ?_⟩
  intro byte inside
  rcases List.mem_append.mp inside with before | last
  · exact named.2 byte before
  · exact List.mem_singleton.mp last ▸ token

theorem IsDecimal.concat {number : Bytes} (decimal : IsDecimal number)
    (digit : isDigit input = true) : IsDecimal (number ++ [input]) := by
  refine ⟨List.append_ne_nil_of_left_ne_nil decimal.1 _, ?_⟩
  intro byte inside
  rcases List.mem_append.mp inside with before | last
  · exact decimal.2 byte before
  · exact List.mem_singleton.mp last ▸ digit

theorem isName_singleton (token : isToken input = true) : IsName [input] :=
  ⟨List.cons_ne_nil _ _, fun _ inside => List.mem_singleton.mp inside ▸ token⟩

theorem isDecimal_singleton (digit : isDigit input = true) : IsDecimal [input] :=
  ⟨List.cons_ne_nil _ _, fun _ inside => List.mem_singleton.mp inside ▸ digit⟩

/-- One more byte of the literal before the version. -/
theorem Addressed.concat {req : Request} {rest : Bytes} (addressed : Addressed bytes req rest) :
    Addressed (bytes ++ [input]) req (rest ++ [input]) := by
  obtain ⟨method, uri, named, text, unspaced, rfl, rfl⟩ := addressed
  exact ⟨method, uri, named, text, unspaced, by simp only [List.append_assoc], rfl⟩

/-- One more byte of an open line. -/
theorem Open.push {allows : Bytes → Prop} {req : Request} {state : State} {count : Nat}
    (open_ : Open allows bytes req) (character : isCtl input = false)
    (allowed : ∀ more, allows (input :: more)) :
    Open (fun _ => True) (bytes ++ [input])
      (pushValue ⟨state, count, req⟩ input).req := by
  obtain ⟨line, lines, start, headers, last, first, rfl, rfl, ends⟩ := open_
  refine ⟨line, lines ++ [input], start, headers, ⟨last.name, last.value ++ [input]⟩, first,
    List.append_assoc _ _ _, ?_, ?_⟩
  · simp [pushValue, List.modifyLast_concat]
  · intro more text _
    have ended := ends (input :: more) (text.cons character) (allowed more)
    simpa only [List.append_assoc, List.singleton_append] using ended

/-- A continuation goes on with a text that does not begin with space. -/
theorem Continued.toOpen {req : Request} (continued : Continued bytes req) :
    Open (fun more => more.head? ≠ some 0x20) bytes req := by
  obtain ⟨line, lines, space, start, headers, last, first, before, some_space, spaces, rfl, rfl⟩ :=
    continued
  refine ⟨line, lines ++ space, start, headers, last, first, List.append_assoc _ _ _, rfl, ?_⟩
  intro more text begins
  exact .continued before some_space spaces text begins

/-- An open line is ended. -/
theorem Open.close {allows : Bytes → Prop} {req : Request} (open_ : Open allows bytes req)
    (allowed : allows []) : Lines (bytes ++ [0x0D] ++ [0x0A]) req := by
  obtain ⟨line, lines, start, headers, last, first, rfl, rfl, ends⟩ := open_
  have ended := ends [] (fun _ inside => absurd inside List.not_mem_nil) allowed
  rw [List.append_nil, List.append_nil] at ended
  exact ⟨line, lines ++ CRLF, start, headers ++ [last], first, ended,
    by rw [List.append_assoc, List.append_assoc]; rfl, rfl⟩

/-- Where a byte has to be there. -/
theorem expect_cases {byte : UInt8} {state : State}
    (step : p.expect input byte state = .ok (.indeterminate, next)) :
    input = byte ∧ { p with state } = next := by
  unfold expect at step
  split at step
  · next same =>
      cases step
      exact ⟨same, rfl⟩
  · cases step

/-- **A byte that is taken keeps the shape.** -/
theorem Shape.step (shape : Shape bytes p.req p.state)
    (step : p.consume input = .ok (.indeterminate, next)) (head : next.state ≠ .content) :
    Shape (bytes ++ [input]) next.req next.state := by
  obtain ⟨state, count, req⟩ := p
  unfold consume at step
  cases state with
  | methodStart =>
      obtain ⟨rfl, rfl⟩ := shape
      dsimp only at step
      split at step
      · cases step
      · next token =>
          cases step
          exact ⟨isName_singleton (by simpa using token), rfl⟩
  | method =>
      obtain ⟨named, rfl⟩ := shape
      dsimp only at step
      split at step
      · next space =>
          cases step
          exact ⟨bytes, [], named, fun _ inside => absurd inside List.not_mem_nil,
            List.not_mem_nil, by rw [space, List.append_nil], rfl⟩
      · split at step
        · cases step
        · next token =>
            cases step
            exact ⟨named.concat (by simpa using token), rfl⟩
  | uri =>
      obtain ⟨method, uri, named, text, unspaced, rfl, rfl⟩ := shape
      dsimp only at step
      split at step
      · next space =>
          cases step
          exact ⟨method, uri, named, text, unspaced, by rw [space, List.append_nil], rfl⟩
      · next other =>
          split at step
          · cases step
          · next character =>
              cases step
              refine ⟨method, uri ++ [input], named, text.concat (by simpa using character), ?_,
                List.append_assoc _ _ _, rfl⟩
              intro inside
              rcases List.mem_append.mp inside with before | last
              · exact unspaced before
              · exact other (List.mem_singleton.mp last).symm
  | httpVersionH =>
      obtain ⟨rfl, rfl⟩ := expect_cases step
      exact Addressed.concat shape
  | httpVersionT1 =>
      obtain ⟨rfl, rfl⟩ := expect_cases step
      exact Addressed.concat shape
  | httpVersionT2 =>
      obtain ⟨rfl, rfl⟩ := expect_cases step
      exact Addressed.concat shape
  | httpVersionP =>
      obtain ⟨rfl, rfl⟩ := expect_cases step
      exact Addressed.concat shape
  | httpVersionSlash =>
      dsimp only at step
      split at step
      · next slash =>
          cases step
          obtain ⟨method, uri, named, text, unspaced, rfl, rfl⟩ := shape
          exact ⟨method, uri, named, text, unspaced, by rw [slash, List.append_assoc]; rfl, rfl⟩
      · cases step
  | httpVersionMajorStart =>
      obtain ⟨method, uri, named, text, unspaced, rfl, rfl⟩ := shape
      dsimp only at step
      split at step
      · next digit =>
          cases step
          refine ⟨method, uri, [input], named, text, unspaced, isDecimal_singleton digit, ?_, ?_⟩
          · simp only [List.append_assoc, List.append_nil]
          · simp [pushMajor, decimalValue]
      · cases step
  | httpVersionMajor =>
      obtain ⟨method, uri, major, named, text, unspaced, decimal, rfl, rfl⟩ := shape
      dsimp only at step
      split at step
      · next point =>
          cases step
          exact ⟨method, uri, major, named, text, unspaced, decimal,
            by rw [point, List.append_nil], rfl⟩
      · split at step
        · next digit =>
            cases step
            refine ⟨method, uri, major ++ [input], named, text, unspaced, decimal.concat digit,
              ?_, ?_⟩
            · simp only [List.append_assoc, List.append_nil]
            · rw [decimalValue_concat]
              rfl
        · cases step
  | httpVersionMinorStart =>
      obtain ⟨method, uri, major, named, text, unspaced, decimal, rfl, rfl⟩ := shape
      dsimp only at step
      split at step
      · next digit =>
          cases step
          refine ⟨method, uri, major, [input], named, text, unspaced, decimal,
            isDecimal_singleton digit, rfl, ?_⟩
          simp [pushMinor, decimalValue]
      · cases step
  | httpVersionMinor =>
      obtain ⟨method, uri, major, minor, named, text, unspaced, decimal, decimal', rfl, rfl⟩ := shape
      dsimp only at step
      split at step
      · next ended =>
          cases step
          have line := RequestLine.mk named text unspaced decimal decimal'
          rw [ended]
          simpa only [Shape, CRLF, List.append_assoc, List.singleton_append] using line
      · split at step
        · next digit =>
            cases step
            refine ⟨method, uri, major, minor ++ [input], named, text, unspaced, decimal,
              decimal'.concat digit, List.append_assoc _ _ _, ?_⟩
            rw [decimalValue_concat]
            rfl
        · cases step
  | expectingNewline1 =>
      obtain ⟨rfl, rfl⟩ := expect_cases step
      refine ⟨_, [], req, [], shape, .none, (List.append_nil _).symm, ?_⟩
      rw [← requestLine_headers shape]
  | headerLineStart =>
      obtain ⟨line, lines, start, headers, first, before, rfl, rfl⟩ := shape
      dsimp only at step
      split at step
      · next ended =>
          cases step
          refine ⟨line, lines, start, headers, first, before, ?_, rfl⟩
          rw [ended, CRLF, List.append_assoc (line ++ lines)]
          rfl
      · split at step
        · next blank =>
            cases step
            obtain ⟨earlier, last, rfl⟩ := (List.eq_nil_or_concat' headers).resolve_left blank.1
            exact ⟨line, lines, [input], start, earlier, last, first, before,
              List.cons_ne_nil _ _, fun _ inside => List.mem_singleton.mp inside ▸ blank.2, rfl,
              rfl⟩
        · split at step
          · cases step
          · next token =>
              cases step
              exact ⟨line, lines, start, headers, [input], first, before,
                isName_singleton (by simpa using token), (List.append_nil _).symm, rfl⟩
  | headerLws =>
      dsimp only at step
      split at step
      · next ended =>
          cases step
          rw [ended]
          exact shape.toOpen.close (by decide)
      · split at step
        · next blank =>
            cases step
            obtain ⟨line, lines, space, start, headers, last, first, before, some_space, spaces, rfl,
              rfl⟩ := shape
            refine ⟨line, lines, space ++ [input], start, headers, last, first, before,
              List.append_ne_nil_of_left_ne_nil some_space _, ?_, List.append_assoc _ _ _, rfl⟩
            intro byte inside
            rcases List.mem_append.mp inside with earlier | new
            · exact spaces byte earlier
            · exact List.mem_singleton.mp new ▸ blank
        · next blank =>
            split at step
            · cases step
            · next character =>
                cases step
                refine shape.toOpen.push (by simpa using character) ?_
                rintro more same
                exact blank (.inl (Option.some.inj same))
  | headerName =>
      obtain ⟨line, lines, start, headers, name, first, before, named, rfl, rfl⟩ := shape
      dsimp only at step
      split at step
      · next colon =>
          cases step
          exact ⟨line, lines, start, headers, name, first, before, named,
            by rw [colon, List.append_nil], rfl⟩
      · split at step
        · cases step
        · next token =>
            cases step
            refine ⟨line, lines, start, headers, name ++ [input], first, before,
              named.concat (by simpa using token), by simp only [List.append_assoc, List.append_nil],
              ?_⟩
            simp [pushName, List.modifyLast_concat]
  | spaceBeforeHeaderValue =>
      obtain ⟨rfl, rfl⟩ := expect_cases step
      obtain ⟨line, lines, start, headers, name, first, before, named, rfl, rfl⟩ := shape
      refine ⟨line, lines ++ name ++ [0x3A, 0x20], start, headers, ⟨name, []⟩, first,
        by simp only [List.append_assoc]; rfl, rfl, ?_⟩
      intro more text _
      exact .header before named text
  | headerValue =>
      dsimp only at step
      split at step
      · next ended =>
          cases step
          rw [ended]
          exact shape.close trivial
      · split at step
        · cases step
        · next character =>
            cases step
            exact shape.push (by simpa using character) fun _ => trivial
  | expectingNewline2 =>
      obtain ⟨rfl, rfl⟩ := expect_cases step
      exact shape
  | expectingNewline3 =>
      dsimp only at step
      split at step
      · cases read : readLength req.headers with
        | error exception =>
            rw [read] at step
            cases step
        | ok contentlength =>
            rw [read] at step
            dsimp only [bind, Except.bind] at step
            split at step
            · cases step
            · cases step
              exact absurd rfl head
      · cases step
  | content =>
      have same := (Prod.mk.inj (Except.ok.inj step)).2
      exact absurd (same ▸ rfl) head

/-- The content does not end before the last byte of it. -/
theorem parse_stays {more rest : Bytes} {ended : RequestParser} (content : p.state = .content)
    (read : p.parse more = .ok (.indeterminate, ended, rest)) : ended.state = .content := by
  induction more generalizing p with
  | nil =>
      cases read
      exact content
  | cons input more ih =>
      rw [parse, consume_content content] at read
      by_cases last : p.charcounter + 1 < p.req.contentlength
      · rw [if_pos last] at read
        exact @ih { p with
          charcounter := p.charcounter + 1, req.content := p.req.content ++ [input] } content read
      · rw [if_neg last] at read
        cases read

/-- **What was read has the shape of the parser's state.** -/
theorem Shape.run {more : Bytes} {ended : RequestParser} (shape : Shape bytes p.req p.state)
    (read : p.parse more = .ok (.indeterminate, ended, [])) (head : ended.state ≠ .content) :
    Shape (bytes ++ more) ended.req ended.state := by
  induction more generalizing p bytes with
  | nil =>
      cases read
      rwa [List.append_nil]
  | cons input more ih =>
      rw [parse] at read
      cases step : p.consume input with
      | error exception =>
          rw [step] at read
          cases read
      | ok outcome =>
          obtain ⟨result, next⟩ := outcome
          rw [step] at read
          cases result with
          | good => cases read
          | bad => cases read
          | indeterminate =>
              have inside : next.state ≠ .content := fun content => head (parse_stays content read)
              have later := ih (shape.step step inside) read
              rwa [List.append_assoc] at later

/-- **The parser comes to the end of the headers after header sections only.** -/
theorem isHead_of_parse {before : Bytes} {ended : RequestParser}
    (read : parse {} before = .ok (.indeterminate, ended, []))
    (newline : ended.state = .expectingNewline3) : IsHead (before ++ [0x0A]) ended.req := by
  have start : Shape [] ({} : RequestParser).req ({} : RequestParser).state := ⟨rfl, rfl⟩
  have shape := start.run read (by rw [newline]; decide)
  rw [newline] at shape
  exact shape

end Sound

end OpenDataCon.HTTP

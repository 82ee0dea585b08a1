import Mathlib.Data.Bool.AllAny
import OpenDataCon.HTTP.RequestSyntax

/-!
# The content of a request

At the end of the headers the values of the `Content-Length` headers are converted
with `stoul`. The conversion throws for a value without a number and for one that is
too large, and it allows space, a sign, and anything after the number. A request is
read as it should be exactly when every `Content-Length` value of its header section
is a decimal number below `2 ^ 64` (`readsBody_iff`).
-/

set_option autoImplicit false

namespace OpenDataCon.HTTP

open Exceptions
open FileTransfer (Bytes ascii isDigit)
open RequestParser

/-! ## Content lengths -/

/-- The values of the `Content-Length` headers. -/
def contentLengths (headers : List Header) : List Bytes :=
  (headers.filter fun h => h.name = ascii "Content-Length").map Header.value

/-- The length that the last of them gives. -/
def lastLength (headers : List Header) : Nat :=
  (contentLengths headers).getLast?.elim 0 decimalValue

/-- What `stoul` makes of a decimal number. -/
theorem stoul_decimal {text : Bytes} (decimal : IsDecimal text) :
    FileTransfer.stoul text = if decimalValue text < 2 ^ 64 then some (decimalValue text) else none := by
  obtain ⟨some_digit, digits⟩ := decimal
  cases text with
  | nil => exact absurd rfl some_digit
  | cons first rest =>
      have number := digits first List.mem_cons_self
      simp only [isDigit, Bool.and_eq_true, decide_eq_true_eq] at number
      have no_space : FileTransfer.isSpace first = false := by
        simp only [FileTransfer.isSpace, Bool.or_eq_false_iff, beq_eq_false_iff_ne,
          Bool.and_eq_false_iff, decide_eq_false_iff_not]
        omega
      have whole : FileTransfer.digitsValue (first :: rest) =
          if decimalValue (first :: rest) < 2 ^ 64 then some (decimalValue (first :: rest))
          else none := by
        rw [FileTransfer.digitsValue, List.takeWhile_eq_self_iff.mpr digits]
        rfl
      rw [FileTransfer.stoul, List.dropWhile_cons_of_neg (by rw [no_space]; decide)]
      split
      · next sign => cases sign; exact absurd number (by decide)
      · next sign => cases sign; exact absurd number (by decide)
      · exact whole

/-- **Decimal numbers of 64 bits are read**, the last one in the end. -/
theorem readLength_decimal {headers : List Header}
    (decimal : ∀ value ∈ contentLengths headers, IsDecimal value ∧ decimalValue value < 2 ^ 64) :
    readLength headers = .ok (lastLength headers) := by
  have passes : ∀ h ∈ headers, ∀ length : Nat,
      (if h.name = ascii "Content-Length" then stoul h.value else .ok length) =
        .ok (if h.name = ascii "Content-Length" then decimalValue h.value else length) := by
    intro h member length
    by_cases named : h.name = ascii "Content-Length"
    · have inside : h.value ∈ contentLengths headers :=
        List.mem_map_of_mem (List.mem_filter.mpr ⟨member, decide_eq_true named⟩)
      rw [if_pos named, if_pos named, stoul, stoul_decimal (decimal h.value inside).1,
        if_pos (decimal h.value inside).2]
    · rw [if_neg named, if_neg named]
  rw [readLength, foldlM_ok passes]
  clear decimal passes
  induction headers using List.reverseRecOn with
  | nil => rfl
  | append_singleton headers h ih =>
      rw [List.foldl_append, List.foldl_cons, List.foldl_nil]
      by_cases named : h.name = ascii "Content-Length"
      · simp [lastLength, contentLengths, named]
      · have same : contentLengths (headers ++ [h]) = contentLengths headers := by
          simp [contentLengths, named]
        rw [if_neg named, lastLength, same]
        exact ih

/-- **A number that does not fit makes the loop throw.** -/
theorem readLength_throws {headers : List Header} {value : Bytes}
    (member : value ∈ contentLengths headers) (decimal : IsDecimal value)
    (large : ¬decimalValue value < 2 ^ 64) :
    ∃ exception, readLength headers = .error exception := by
  obtain ⟨h, inside, rfl⟩ := List.mem_map.mp member
  obtain ⟨among, named⟩ := List.mem_filter.mp inside
  have fails : stoul h.value = .error
      (if hasNumber h.value then .outOfRange "stoul" else .invalidArgument "stoul") := by
    rw [stoul, stoul_decimal decimal, if_neg large]
  refine foldlM_error among ?_ 0
  intro reached
  rw [if_pos (of_decide_eq_true named)]
  exact ⟨_, fails⟩

/-! ## When the content is read as it should be -/

/-- What is expected of the bytes of a request: nothing is thrown, the content of a good request is
what follows the headers, as long as the last `Content-Length` says, and a `Content-Length` that is
no decimal number is rejected. -/
structure ReadsBody (bytes : Bytes) : Prop where
  silent : ∃ outcome, parse {} bytes = .ok outcome
  exact : ∀ reached rest, parse {} bytes = .ok (.good, reached, rest) →
    ∃ head req, IsHead head req ∧ bytes = head ++ reached.req.content ++ rest ∧
      reached.req.content.length = lastLength req.headers
  checked : ∀ head rest req, bytes = head ++ rest → IsHead head req →
    (∃ value ∈ contentLengths req.headers, ¬IsDecimal value) →
    ∃ reached left, parse {} bytes = .ok (.bad, reached, left)

section Bodies

variable {bytes before rest : Bytes} {ended : RequestParser}

/-- What is parsed after the headers. -/
theorem parse_ended (newline : ended.state = .expectingNewline3) (rest : Bytes) :
    ended.parse (0x0A :: rest) = (readLength ended.req.headers).bind fun contentlength =>
      if contentlength = 0 then
        .ok (.good, { ended with charcounter := 0, req.contentlength := 0 }, rest)
      else (ended.enter contentlength).parse rest := by
  rw [parse, consume_newline newline]
  cases readLength ended.req.headers with
  | error exception => rfl
  | ok contentlength =>
      by_cases empty : contentlength = 0
      · rw [Except.bind, Except.bind, if_pos empty, if_pos empty]
        rfl
      · rw [Except.bind, Except.bind, if_neg empty, if_neg empty]
        rfl

/-- What is parsed from the beginning of the content. -/
theorem parse_enter {contentlength : Nat} (some_content : contentlength ≠ 0) (rest : Bytes) :
    (ended.enter contentlength).parse rest =
      if rest.length < contentlength then
        .ok (.indeterminate, (ended.enter contentlength).receive rest, [])
      else .ok (.good, (ended.enter contentlength).receive (rest.take contentlength),
        rest.drop contentlength) :=
  parse_content rfl (Nat.pos_of_ne_zero some_content)

/-- After the headers nothing is rejected. -/
theorem parse_ended_ne_bad (newline : ended.state = .expectingNewline3) (rest : Bytes)
    {reached : RequestParser} {left : Bytes} :
    ended.parse (0x0A :: rest) ≠ .ok (.bad, reached, left) := by
  rw [parse_ended newline]
  cases readLength ended.req.headers with
  | error exception => exact fun same => nomatch same
  | ok contentlength =>
      rw [Except.bind]
      split
      · exact fun same => nomatch same
      · next some_content =>
          rw [parse_enter some_content]
          split
          · exact fun same => nomatch same
          · exact fun same => nomatch same

/-- The parser starts in the header section. -/
theorem heading_start : Heading {} := ⟨by decide, rfl, rfl⟩

/-- What is parsed of a header section and what follows it. -/
theorem parse_head {head : Bytes} {req : Request} (written : IsHead head req) (rest : Bytes) :
    parse {} (head ++ rest) = parse ⟨.expectingNewline3, 0, req⟩ (0x0A :: rest) := by
  obtain ⟨before, rfl, goes⟩ := parse_isHead written
  rw [List.append_assoc, List.singleton_append, parse_pending _ goes]

/-- **A request is read as it should be exactly when every `Content-Length` is a decimal number of
64 bits.** -/
theorem readsBody_iff (bytes : Bytes) :
    ReadsBody bytes ↔ ∀ head rest req, bytes = head ++ rest → IsHead head req →
      ∀ value ∈ contentLengths req.headers, IsDecimal value ∧ decimalValue value < 2 ^ 64 := by
  constructor
  · rintro reads head rest req rfl written value member
    have parsed := parse_head written rest
    have decimal : IsDecimal value := by
      by_contra other
      obtain ⟨reached, left, rejected⟩ :=
        reads.checked head rest req rfl written ⟨value, member, other⟩
      exact parse_ended_ne_bad rfl rest (parsed.symm.trans rejected)
    refine ⟨decimal, ?_⟩
    by_contra large
    obtain ⟨exception, throws⟩ := readLength_throws member decimal large
    obtain ⟨outcome, silent⟩ := reads.silent
    rw [parsed, parse_ended rfl, throws] at silent
    cases silent
  · intro decimal
    have checked : ∀ head rest req, bytes = head ++ rest → IsHead head req →
        (∃ value ∈ contentLengths req.headers, ¬IsDecimal value) →
        ∃ reached left, parse {} bytes = .ok (.bad, reached, left) := by
      rintro head rest req whole written ⟨value, member, other⟩
      exact absurd (decimal head rest req whole written value member).1 other
    rcases @parse_heading {} bytes heading_start with
      ⟨reached, pending, -⟩ | ⟨reached, left, rejected⟩ |
      ⟨before, rest, ended, rfl, read, heading, newline⟩
    · refine ⟨⟨_, pending⟩, ?_, checked⟩
      intro other rest good
      cases pending.symm.trans good
    · refine ⟨⟨_, rejected⟩, ?_, checked⟩
      intro other rest good
      cases rejected.symm.trans good
    · have written := isHead_of_parse read newline
      have whole : before ++ 0x0A :: rest = before ++ [0x0A] ++ rest := by
        rw [List.append_assoc, List.singleton_append]
      have length := readLength_decimal (decimal _ rest _ whole written)
      have parsed := parse_pending (0x0A :: rest) read
      rw [parse_ended newline, length, Except.bind] at parsed
      by_cases empty : lastLength ended.req.headers = 0
      · rw [if_pos empty] at parsed
        refine ⟨⟨_, parsed⟩, ?_, checked⟩
        intro reached left good
        cases parsed.symm.trans good
        refine ⟨_, _, written, ?_, ?_⟩
        · rw [heading.content, List.append_nil]
          exact whole
        · rw [heading.content, empty]
          rfl
      · rw [if_neg empty, parse_enter empty] at parsed
        by_cases short : rest.length < lastLength ended.req.headers
        · rw [if_pos short] at parsed
          refine ⟨⟨_, parsed⟩, ?_, checked⟩
          intro reached left good
          cases parsed.symm.trans good
        · rw [if_neg short] at parsed
          refine ⟨⟨_, parsed⟩, ?_, checked⟩
          intro reached left good
          cases parsed.symm.trans good
          have content : ((ended.enter (lastLength ended.req.headers)).receive
              (rest.take (lastLength ended.req.headers))).req.content =
                rest.take (lastLength ended.req.headers) := by
            change ended.req.content ++ _ = _
            rw [heading.content, List.nil_append]
          refine ⟨_, _, written, ?_, ?_⟩
          · rw [content, List.append_assoc, List.take_append_drop]
            exact whole
          · rw [content, List.length_take]
            omega

end Bodies

/-! ## Requests with a length -/

/-- The header section of a request with a `Content-Length` header. -/
def postHead (length : Bytes) : Bytes :=
  ascii "POST" ++ [0x20] ++ ascii "/" ++ [0x20] ++ ascii "HTTP/" ++ ascii "1" ++ [0x2E] ++
    ascii "0" ++ CRLF ++ ([] ++ ascii "Content-Length" ++ [0x3A, 0x20] ++ length ++ CRLF) ++ CRLF

def postRequest (length : Bytes) : Request :=
  { method := ascii "POST"
    uri := ascii "/"
    httpVersionMajor := 1
    headers := [⟨ascii "Content-Length", length⟩] }

theorem isHead_post {length : Bytes} (text : IsText length) :
    IsHead (postHead length) (postRequest length) := by
  have line := @RequestLine.mk (ascii "POST") (ascii "/") (ascii "1") (ascii "0")
    ⟨by decide, List.all_iff_forall_prop.mp (by decide)⟩ (List.all_iff_forall_prop.mp (by decide))
    (by decide) ⟨by decide, List.all_iff_forall_prop.mp (by decide)⟩
    ⟨by decide, List.all_iff_forall_prop.mp (by decide)⟩
  have header := @HeaderLines.header [] (ascii "Content-Length") length [] .none
    ⟨by decide, List.all_iff_forall_prop.mp (by decide)⟩ text
  exact ⟨_, _, _, _, line, header, rfl, rfl⟩

/-- A value without a number throws, and a number with something after it is accepted. -/
theorem readsBody_post :
    (parse {} (postHead (ascii "x") ++ ascii "ab") = .error (.invalidArgument "stoul") ∧
        ¬ReadsBody (postHead (ascii "x") ++ ascii "ab")) ∧
      (∃ reached, parse {} (postHead (ascii "2x") ++ ascii "ab") = .ok (.good, reached, [])) ∧
        ¬ReadsBody (postHead (ascii "2x") ++ ascii "ab") := by
  have noNumber : IsHead (postHead (ascii "x")) (postRequest (ascii "x")) :=
    isHead_post (List.all_iff_forall_prop.mp (by decide))
  have trailing : IsHead (postHead (ascii "2x")) (postRequest (ascii "2x")) :=
    isHead_post (List.all_iff_forall_prop.mp (by decide))
  have throws : parse {} (postHead (ascii "x") ++ ascii "ab") =
      .error (.invalidArgument "stoul") := by
    rw [parse_head noNumber, parse_ended rfl]
    rfl
  have length : readLength (postRequest (ascii "2x")).headers = .ok 2 := by decide
  have accepts : ∃ reached, parse {} (postHead (ascii "2x") ++ ascii "ab") =
      .ok (.good, reached, []) := by
    rw [parse_head trailing, parse_ended rfl, length]
    exact ⟨_, rfl⟩
  refine ⟨⟨throws, ?_⟩, accepts, ?_⟩
  · intro reads
    obtain ⟨outcome, silent⟩ := reads.silent
    cases throws.symm.trans silent
  · intro reads
    obtain ⟨reached, left, rejected⟩ := reads.checked _ _ _ rfl trailing
      ⟨ascii "2x", by decide, fun decimal => absurd (decimal.2 0x78) (by decide)⟩
    obtain ⟨other, good⟩ := accepts
    cases good.symm.trans rejected

end OpenDataCon.HTTP

import Mathlib.Data.Bool.AllAny
import OpenDataCon.EventJSON.Base64
import OpenDataCon.JSON.Values

/-!
# Octet strings in JSON

An octet string payload that is a data URI in base64 is decoded; any other text is the
payload itself. A regular expression recognises the data URIs (`matchDataUri_iff`). It
knows no `+` and asks for padding, so the data URI of an octet string is read back
exactly when its length is no multiple of three and no six bits of it have the value 62
(`octetString_dataUri_iff`).
-/

set_option autoImplicit false

namespace OpenDataCon.EventJSON

open Exceptions
open FileTransfer (Bytes ascii)
open JSON (Value)

/-! ## The regular expression -/

/-- `[a-zA-Z0-9=/]`. -/
def isBodyChar (byte : UInt8) : Bool :=
  (0x61 ≤ byte.toNat && byte.toNat ≤ 0x7A) || (0x41 ≤ byte.toNat && byte.toNat ≤ 0x5A) ||
    (0x30 ≤ byte.toNat && byte.toNat ≤ 0x39) || byte == 0x3D || byte == 0x2F

/-- `data:([^;]+;)?base64,([a-zA-Z0-9=/]*[=]{1,2})`, with the second group. -/
def IsDataUri (text b64 : Bytes) : Prop :=
  ∃ media, (media = [] ∨ ∃ type, type ≠ [] ∧ 0x3B ∉ type ∧ media = type ++ [0x3B]) ∧
    text = ascii "data:" ++ media ++ ascii "base64," ++ b64 ∧
    ∃ body pad, (∀ byte ∈ body, isBodyChar byte = true) ∧ (pad = [0x3D] ∨ pad = [0x3D, 0x3D]) ∧
      b64 = body ++ pad

/-- What follows a prefix. -/
def afterPrefix (start text : Bytes) : Option Bytes :=
  if start <+: text then some (text.drop start.length) else none

/-- A media type at the beginning, with its `;`. -/
def mediaType (text : Bytes) : Bytes :=
  let type := text.takeWhile (· ≠ 0x3B)
  if type ≠ [] ∧ 0x3B ∈ text then type ++ [0x3B] else []

def matchBody (text : Bytes) : Bool := text.all isBodyChar && text.getLast? == some 0x3D

/-- `regex_match`, with the second group. -/
def matchDataUri (text : Bytes) : Option Bytes :=
  (afterPrefix (ascii "data:") text).bind fun rest =>
    (afterPrefix (ascii "base64,") (rest.drop (mediaType rest).length)).filter matchBody

theorem afterPrefix_eq_some {start text rest : Bytes} :
    afterPrefix start text = some rest ↔ text = start ++ rest := by
  unfold afterPrefix
  constructor
  · intro result
    split at result
    · next begins =>
        obtain ⟨tail, rfl⟩ := begins
        rw [List.drop_left, Option.some_inj] at result
        rw [result]
    · cases result
  · rintro rfl
    rw [if_pos (List.prefix_append start rest), List.drop_left]

theorem matchBody_iff {text : Bytes} :
    matchBody text = true ↔ ∃ body pad, (∀ byte ∈ body, isBodyChar byte = true) ∧
      (pad = [0x3D] ∨ pad = [0x3D, 0x3D]) ∧ text = body ++ pad := by
  rw [matchBody, Bool.and_eq_true, List.all_eq_true, beq_iff_eq]
  constructor
  · rintro ⟨all, last⟩
    obtain ⟨body, rfl⟩ := List.getLast?_eq_some_iff.mp last
    exact ⟨body, [0x3D], fun byte inside => all byte (List.mem_append_left _ inside), .inl rfl, rfl⟩
  · rintro ⟨body, pad, all, form, rfl⟩
    have padding : (∀ byte ∈ pad, isBodyChar byte = true) ∧ pad.getLast? = some 0x3D := by
      rcases form with rfl | rfl
      · exact ⟨List.all_iff_forall_prop.mp (by decide), rfl⟩
      · exact ⟨List.all_iff_forall_prop.mp (by decide), rfl⟩
    refine ⟨?_, ?_⟩
    · intro byte inside
      exact (List.mem_append.mp inside).elim (all byte) (padding.1 byte)
    · rw [List.getLast?_append, padding.2, Option.some_or]

/-- What stands before the first `;`. -/
theorem takeWhile_semicolon {before : Bytes} (apart : 0x3B ∉ before) (after : Bytes) :
    (before ++ 0x3B :: after).takeWhile (fun byte => byte ≠ 0x3B) = before := by
  rw [List.takeWhile_append_of_pos, List.takeWhile_cons_of_neg (by simp), List.append_nil]
  intro byte inside
  exact decide_eq_true fun same => apart (same ▸ inside)

/-- What the media type is, if there is one. -/
theorem mediaType_spec (text : Bytes) :
    (mediaType text = [] ∨
      ∃ type, type ≠ [] ∧ 0x3B ∉ type ∧ mediaType text = type ++ [0x3B]) ∧
    mediaType text <+: text := by
  unfold mediaType
  dsimp only
  split
  · next given =>
      obtain ⟨before, after, rfl, apart⟩ := List.eq_append_cons_of_mem given.2
      rw [takeWhile_semicolon apart] at given ⊢
      exact ⟨.inr ⟨before, given.1, apart, rfl⟩, after,
        by rw [List.append_assoc, List.singleton_append]⟩
  · exact ⟨.inl rfl, List.nil_prefix⟩

/-- A media type before a text without `;` is found. -/
theorem mediaType_append {media rest : Bytes}
    (form : media = [] ∨ ∃ type, type ≠ [] ∧ 0x3B ∉ type ∧ media = type ++ [0x3B])
    (clean : 0x3B ∉ rest) : mediaType (media ++ rest) = media := by
  unfold mediaType
  rcases form with rfl | ⟨type, some_type, apart, rfl⟩
  · rw [List.nil_append]
    exact if_neg fun given => clean given.2
  · rw [List.append_assoc, List.singleton_append, takeWhile_semicolon apart]
    exact if_pos ⟨some_type, by simp⟩

/-- **The regular expression matches the data URIs.** -/
theorem matchDataUri_iff {text b64 : Bytes} :
    matchDataUri text = some b64 ↔ IsDataUri text b64 := by
  rw [matchDataUri, Option.bind_eq_some_iff]
  constructor
  · rintro ⟨rest, begins, found⟩
    rw [Option.filter_eq_some_iff, afterPrefix_eq_some] at found
    obtain ⟨follows, body⟩ := found
    obtain ⟨form, before⟩ := mediaType_spec rest
    refine ⟨mediaType rest, form, ?_, matchBody_iff.mp body⟩
    rw [afterPrefix_eq_some.mp begins, List.append_assoc, List.append_assoc, ← follows,
      List.prefix_iff_eq_append.mp before]
  · rintro ⟨media, form, rfl, body⟩
    have clean : (0x3B : UInt8) ∉ ascii "base64," ++ b64 := by
      intro inside
      rcases List.mem_append.mp inside with inScheme | inBody
      · exact absurd inScheme (by decide)
      · have all := (Bool.and_eq_true_iff.mp (matchBody_iff.mpr body)).1
        exact absurd (List.all_eq_true.mp all _ inBody) (by decide)
    refine ⟨media ++ (ascii "base64," ++ b64), ?_, ?_⟩
    · rw [afterPrefix_eq_some, List.append_assoc, List.append_assoc]
    · rw [mediaType_append form clean, List.drop_left, Option.filter_eq_some_iff,
        afterPrefix_eq_some]
      exact ⟨rfl, matchBody_iff.mpr body⟩

/-! ## Payloads -/

section Payloads

variable {D : Type}

/-- `PayloadFromJson<OctetStringBuffer>`. -/
def octetStringFromJson : Value D → Except Thrown Bytes
  | .string text =>
    match matchDataUri text with
    | some b64 => .ok (b64decode b64)
    | none => .ok text
  | _ => .error (.invalidArgument "Payload is not a string.")

end Payloads

/-! ## Octet strings as data URIs -/

/-- The values of six bits that a byte string is written as, the last one filled up with zeros. -/
def sextets : Bytes → List Nat
  | first :: second :: third :: rest =>
    first.toNat / 4 :: (first.toNat % 4 * 16 + second.toNat / 16) ::
      (second.toNat % 16 * 4 + third.toNat / 64) :: third.toNat % 64 :: sextets rest
  | [first, second] =>
    [first.toNat / 4, first.toNat % 4 * 16 + second.toNat / 16, second.toNat % 16 * 4]
  | [first] => [first.toNat / 4, first.toNat % 4 * 16]
  | [] => []

theorem sextets_lt (data : Bytes) : ∀ value ∈ sextets data, value < 64 := by
  fun_induction sextets data with
  | case1 first second third rest ih =>
      have high := first.toNat_lt
      have middle := second.toNat_lt
      have low := third.toNat_lt
      intro value inside
      simp only [List.mem_cons] at inside
      rcases inside with rfl | rfl | rfl | rfl | inside
      · omega
      · omega
      · omega
      · omega
      · exact ih value inside
  | case2 first second =>
      have high := first.toNat_lt
      have low := second.toNat_lt
      intro value inside
      simp only [List.mem_cons, List.not_mem_nil, or_false] at inside
      omega
  | case3 first =>
      have small := first.toNat_lt
      intro value inside
      simp only [List.mem_cons, List.not_mem_nil, or_false] at inside
      omega
  | case4 => exact fun value inside => absurd inside List.not_mem_nil

/-- **The text is the characters of these values, and the padding.** -/
theorem b64encode_eq (data : Bytes) : b64encode data =
    (sextets data).map char64 ++ List.replicate ((3 - data.length % 3) % 3) 0x3D := by
  fun_induction sextets data with
  | case1 first second third rest ih =>
      have length : (first :: second :: third :: rest).length % 3 = rest.length % 3 := by
        simp only [List.length_cons]
        omega
      have middle := second.toNat_lt
      have low := third.toNat_lt
      have v₀ : (first.toNat * 65536 + second.toNat * 256 + third.toNat) / 2 ^ 18 =
          first.toNat / 4 := by omega
      have v₁ : (first.toNat * 65536 + second.toNat * 256 + third.toNat) / 2 ^ 12 % 64 =
          first.toNat % 4 * 16 + second.toNat / 16 := by omega
      have v₂ : (first.toNat * 65536 + second.toNat * 256 + third.toNat) / 2 ^ 6 % 64 =
          second.toNat % 16 * 4 + third.toNat / 64 := by omega
      have v₃ : (first.toNat * 65536 + second.toNat * 256 + third.toNat) % 64 =
          third.toNat % 64 := by omega
      rw [b64encode, length, join_bytes middle low, ih]
      simp only [and_low_six, Nat.shiftRight_eq_div_pow, List.map_cons, List.cons_append, v₀, v₁,
        v₂, v₃]
  | case2 first second =>
      have high := first.toNat_lt
      have low := second.toNat_lt
      have joined : first.toNat <<< 8 ||| second.toNat = first.toNat * 256 + second.toNat := by
        rw [Nat.shiftLeft_eq]
        exact BitStrings.or_eq_add 8 (by omega) (by omega)
      have v₀ : (first.toNat * 256 + second.toNat) / 2 ^ 10 % 64 = first.toNat / 4 := by omega
      have v₁ : (first.toNat * 256 + second.toNat) / 2 ^ 4 % 64 =
          first.toNat % 4 * 16 + second.toNat / 16 := by omega
      have v₂ : (first.toNat * 256 + second.toNat) * 2 ^ 2 % 64 = second.toNat % 16 * 4 := by
        omega
      rw [b64encode, joined]
      simp only [and_low_six, Nat.shiftRight_eq_div_pow, Nat.shiftLeft_eq, v₀, v₁, v₂]
      rfl
  | case3 first =>
      have v₁ : first.toNat * 2 ^ 4 % 64 = first.toNat % 4 * 16 := by omega
      rw [b64encode]
      simp only [and_low_six, Nat.shiftRight_eq_div_pow, Nat.shiftLeft_eq, v₁]
      rfl
  | case4 => rfl

theorem length_le_b64encode (data : Bytes) : data.length ≤ (b64encode data).length := by
  fun_induction b64encode data with
  | case1 first second third rest n ih =>
      simp only [List.length_cons]
      omega
  | case2 first second n => simp
  | case3 first => simp
  | case4 => simp

/-- Which characters of the alphabet the regular expression knows. -/
theorem isBodyChar_char64 : ∀ value < 64,
    (isBodyChar (char64 value) = true ↔ value ≠ 62) ∧ char64 value ≠ 0x3B := by
  decide +kernel

/-- No text of the encoder has a `;`. -/
theorem semicolon_notMem_b64encode (data : Bytes) : 0x3B ∉ b64encode data := by
  rw [b64encode_eq]
  intro inside
  rcases List.mem_append.mp inside with inText | inPad
  · obtain ⟨value, member, same⟩ := List.mem_map.mp inText
    exact (isBodyChar_char64 value (sextets_lt data value member)).2 same
  · exact absurd (List.eq_of_mem_replicate inPad) (by decide)

/-- **The regular expression knows a text of the encoder** when it has padding and no `+`. -/
theorem matchBody_b64encode (data : Bytes) :
    matchBody (b64encode data) = true ↔ data.length % 3 ≠ 0 ∧ 62 ∉ sextets data := by
  have all : (b64encode data).all isBodyChar = true ↔ 62 ∉ sextets data := by
    rw [b64encode_eq, List.all_append, List.all_map, Bool.and_eq_true, List.all_eq_true,
      List.all_eq_true]
    constructor
    · rintro ⟨known, -⟩ inside
      exact (isBodyChar_char64 62 (by decide)).1.mp (known 62 inside) rfl
    · intro apart
      refine ⟨?_, ?_⟩
      · intro value member
        refine (isBodyChar_char64 value (sextets_lt data value member)).1.mpr ?_
        rintro rfl
        exact apart member
      · intro byte inside
        rw [List.eq_of_mem_replicate inside]
        rfl
  have last : (b64encode data).getLast? = some 0x3D ↔ data.length % 3 ≠ 0 := by
    rw [b64encode_eq, List.getLast?_append]
    by_cases aligned : data.length % 3 = 0
    · rw [aligned]
      constructor
      · intro padded
        obtain ⟨value, member, same⟩ := List.mem_map.mp (List.mem_of_getLast? padded)
        exact absurd same (char64_ne_pad (sextets_lt data value member))
      · exact fun other => absurd rfl other
    · have some_pad : (3 - data.length % 3) % 3 = (3 - data.length % 3) % 3 - 1 + 1 := by omega
      rw [some_pad, List.replicate_succ', List.getLast?_concat, Option.some_or]
      exact iff_of_true rfl aligned
  rw [matchBody, Bool.and_eq_true, all, beq_iff_eq, last, and_comm]

section RoundTrip

variable {D : Type}

/-- The data URI of an octet string. -/
def dataUri (media data : Bytes) : Bytes :=
  ascii "data:" ++ media ++ ascii "base64," ++ b64encode data

/-- **The data URI of an octet string is read back** exactly when its text has padding and no six
bits of the value 62. -/
theorem octetString_dataUri_iff {media : Bytes}
    (form : media = [] ∨ ∃ type, type ≠ [] ∧ 0x3B ∉ type ∧ media = type ++ [0x3B])
    (data : Bytes) :
    b64decode (b64encode data) = data ∧
        octetStringFromJson (.string (dataUri media data) : Value D) = .ok data ↔
      data.length % 3 ≠ 0 ∧ 62 ∉ sextets data := by
  rw [and_iff_right (b64decode_b64encode data), ← matchBody_b64encode]
  have clean : (0x3B : UInt8) ∉ ascii "base64," ++ b64encode data := by
    intro inside
    rcases List.mem_append.mp inside with inScheme | inText
    · exact absurd inScheme (by decide)
    · exact semicolon_notMem_b64encode data inText
  have begins : afterPrefix (ascii "data:") (dataUri media data) =
      some (media ++ (ascii "base64," ++ b64encode data)) := by
    rw [afterPrefix_eq_some, dataUri, List.append_assoc, List.append_assoc]
  have found : matchDataUri (dataUri media data) = (some (b64encode data)).filter matchBody := by
    rw [matchDataUri, begins, Option.bind_some, mediaType_append form clean, List.drop_left,
      afterPrefix_eq_some.mpr rfl]
  cases known : matchBody (b64encode data) with
  | true =>
      rw [octetStringFromJson, found, Option.filter_some, known]
      simp only [if_true, b64decode_b64encode]
  | false =>
      rw [octetStringFromJson, found, Option.filter_some, known]
      simp only [Bool.false_eq_true, if_false, iff_false]
      intro same
      have length := congrArg List.length (Except.ok.inj same)
      have enough := length_le_b64encode data
      have scheme : (ascii "data:").length = 5 := rfl
      rw [dataUri, List.length_append, List.length_append, List.length_append, scheme] at length
      omega

end RoundTrip

theorem octetString_dataUri_hello :
    b64decode (b64encode (ascii "hello")) = ascii "hello" ∧
      octetStringFromJson (.string (dataUri (ascii "text/plain;") (ascii "hello")) : Value ℚ) =
        .ok (ascii "hello") :=
  (octetString_dataUri_iff (.inr ⟨ascii "text/plain", by decide, by decide, by decide⟩) _).mpr
    ⟨by decide, by decide⟩

/-- An octet string of three bytes comes back as the text of its data URI, and so does one with a
`+` in its text. -/
theorem octetString_dataUri_lost :
    octetStringFromJson (.string (dataUri [] (ascii "abc")) : Value ℚ) =
        .ok (ascii "data:base64,YWJj") ∧
      octetStringFromJson (.string (dataUri [] (ascii "abc")) : Value ℚ) ≠ .ok (ascii "abc") ∧
      octetStringFromJson (.string (dataUri [] [0xF8]) : Value ℚ) =
        .ok (ascii "data:base64,+A==") ∧
      octetStringFromJson (.string (dataUri [] [0xF8]) : Value ℚ) ≠ .ok [0xF8] := by
  decide

end OpenDataCon.EventJSON

import OpenDataCon.FileTransfer.Events

/-!
# Decoding of a request's address

The server decodes the whole address in one loop: two hexadecimal digits after a `%`
are a byte, a `+` is a space, and the first `?` ends the path. What was
percent-encoded comes out as it was, in the path and after it (`read_encoded`), and
there is a percent-encoding of every byte string (`encoded_percentEncode`).
-/

set_option autoImplicit false

namespace OpenDataCon.HTTP

open FileTransfer (Bytes ascii isSpace)

/-! ## Hexadecimal numbers -/

def hexDigit (byte : UInt8) : Option Nat :=
  if 0x30 ≤ byte.toNat ∧ byte.toNat ≤ 0x39 then some (byte.toNat - 0x30)
  else if 0x41 ≤ byte.toNat ∧ byte.toNat ≤ 0x46 then some (byte.toNat - 0x37)
  else if 0x61 ≤ byte.toNat ∧ byte.toNat ≤ 0x66 then some (byte.toNat - 0x57)
  else none

/-- `is >> std::hex >> value` on two characters: leading space and a sign are allowed, what
follows the first digit need not be one, but `0x` waits for a digit. -/
def readHex (first second : UInt8) : Option Int :=
  if isSpace first ∨ first = 0x2B then (hexDigit second).map Nat.cast
  else if first = 0x2D then (hexDigit second).map fun value => -(value : Int)
  else
    match hexDigit first, hexDigit second with
    | some high, some low => some ((16 * high + low : Nat) : Int)
    | some high, none =>
      if high = 0 ∧ (second = 0x78 ∨ second = 0x58) then none else some (high : Int)
    | none, _ => none

theorem readHex_digits {first second : UInt8} {high low : Nat}
    (highDigit : hexDigit first = some high) (lowDigit : hexDigit second = some low) :
    readHex first second = some ((16 * high + low : Nat) : Int) := by
  have no_space : ¬(isSpace first = true ∨ first = 0x2B) := by
    rintro (space | rfl)
    · simp only [isSpace, Bool.or_eq_true, Bool.and_eq_true, beq_iff_eq, decide_eq_true_eq] at space
      unfold hexDigit at highDigit
      split_ifs at highDigit <;> omega
    · cases highDigit
  have no_sign : first ≠ 0x2D := by
    rintro rfl
    cases highDigit
  rw [readHex, if_neg no_space, if_neg no_sign, highDigit, lowDigit]

/-! ## The loop -/

/-- The two strings that are filled, and which of them the output goes to. -/
structure Decoding where
  inquery : Bool := false
  out : Bytes := []
  params : Bytes := []
deriving DecidableEq

/-- Where the output pointer points, the bytes are appended. -/
def Decoding.put (decoding : Decoding) (bytes : Bytes) : Decoding :=
  if decoding.inquery then { decoding with params := decoding.params ++ bytes }
  else { decoding with out := decoding.out ++ bytes }

def Decoding.read : Decoding → Bytes → Option Decoding
  | decoding, [] => some decoding
  | decoding, byte :: rest =>
    if byte = 0x25 then
      match rest with
      | first :: second :: rest =>
        match readHex first second with
        | some value => (decoding.put [UInt8.ofInt value]).read rest
        | none => none
      | _ => none
    else if byte = 0x2B then (decoding.put [0x20]).read rest
    else if byte = 0x3F ∧ decoding.inquery = false then
      { decoding with inquery := true }.read rest
    else (decoding.put [byte]).read rest

/-- `url_decode`: the path and what follows its `?`, or nothing for a `%` without a number. -/
def urlDecode (input : Bytes) : Option (Bytes × Bytes) :=
  (Decoding.read {} input).map fun decoding => (decoding.out, decoding.params)

@[simp] theorem put_nil (decoding : Decoding) : decoding.put [] = decoding := by
  unfold Decoding.put
  split <;> simp only [List.append_nil]

theorem put_put (decoding : Decoding) (first second : Bytes) :
    (decoding.put first).put second = decoding.put (first ++ second) := by
  unfold Decoding.put
  split <;> simp_all [List.append_assoc]

@[simp] theorem put_inquery (decoding : Decoding) (bytes : Bytes) :
    (decoding.put bytes).inquery = decoding.inquery := by
  unfold Decoding.put
  split <;> rfl

theorem read_escape {decoding : Decoding} {first second : UInt8} (rest : Bytes) :
    decoding.read (0x25 :: first :: second :: rest) =
      (readHex first second).bind fun value => (decoding.put [UInt8.ofInt value]).read rest := by
  rw [Decoding.read.eq_def]
  cases hex : readHex first second with
  | none => simp [hex]
  | some value => simp [hex]

theorem read_plus {decoding : Decoding} (rest : Bytes) :
    decoding.read (0x2B :: rest) = (decoding.put [0x20]).read rest := by
  rw [Decoding.read.eq_def]
  rfl

/-- The first `?` ends the path. -/
theorem read_query {decoding : Decoding} (path : decoding.inquery = false) (rest : Bytes) :
    decoding.read (0x3F :: rest) = { decoding with inquery := true }.read rest := by
  rw [Decoding.read.eq_def]
  simp only [path, and_self, if_true]
  rfl

/-- What a byte does that has no meaning of its own. -/
theorem read_literal {decoding : Decoding} {byte : UInt8} (rest : Bytes) (percent : byte ≠ 0x25)
    (plus : byte ≠ 0x2B) (query : ¬(byte = 0x3F ∧ decoding.inquery = false)) :
    decoding.read (byte :: rest) = (decoding.put [byte]).read rest := by
  rw [Decoding.read.eq_def]
  simp only [if_neg percent, if_neg plus, if_neg query]

/-- **What follows is read where the text before it ends.** -/
theorem read_append (text rest : Bytes) (decoding reached : Decoding)
    (result : decoding.read text = some reached) :
    decoding.read (text ++ rest) = reached.read rest := by
  fun_induction Decoding.read decoding text generalizing reached with
  | case1 decoding =>
      cases result
      rfl
  | case2 decoding first second later value hex ih =>
      rw [List.cons_append, List.cons_append, List.cons_append, read_escape, hex]
      exact ih reached result
  | case3 decoding first second later hex => cases result
  | case4 => cases result
  | case5 decoding later percent ih =>
      rw [List.cons_append, read_plus]
      exact ih reached result
  | case6 decoding byte later percent plus query ih =>
      rw [List.cons_append, query.1, read_query query.2]
      exact ih reached result
  | case7 decoding byte later percent plus query ih =>
      rw [List.cons_append, read_literal _ percent plus query]
      exact ih reached result

/-- Without a `?` the path does not end. -/
theorem read_inquery {text : Bytes} (alone : 0x3F ∉ text) {decoding reached : Decoding}
    (result : decoding.read text = some reached) : reached.inquery = decoding.inquery := by
  fun_induction Decoding.read decoding text with
  | case1 decoding =>
      cases result
      rfl
  | case2 decoding first second later value hex ih =>
      rw [ih (fun inside => alone (by simp [inside])) result, put_inquery]
  | case3 decoding first second later hex => cases result
  | case4 => cases result
  | case5 decoding later percent ih =>
      rw [ih (fun inside => alone (List.mem_cons_of_mem _ inside)) result, put_inquery]
  | case6 decoding byte later percent plus query ih =>
      exact absurd List.mem_cons_self (query.1 ▸ alone)
  | case7 decoding byte later percent plus query ih =>
      rw [ih (fun inside => alone (List.mem_cons_of_mem _ inside)) result, put_inquery]

/-! ## Percent-encoding -/

/-- The bytes with a meaning in an address. -/
def reserved : Bytes := ascii "%+&=?"

/-- A text is a percent-encoding of bytes: each of them is written in hexadecimal, or as it
is when it has no meaning of its own. -/
inductive Encoded : Bytes → Bytes → Prop where
  | nil : Encoded [] []
  | escaped {first second : UInt8} {high low : Nat} {text bytes : Bytes}
      (highDigit : hexDigit first = some high) (lowDigit : hexDigit second = some low)
      (rest : Encoded text bytes) :
      Encoded (0x25 :: first :: second :: text) (UInt8.ofNat (16 * high + low) :: bytes)
  | literal {byte : UInt8} {text bytes : Bytes} (free : byte ∉ reserved)
      (rest : Encoded text bytes) : Encoded (byte :: text) (byte :: bytes)

/-- **Percent-encoded bytes come out as they were.** -/
theorem read_encoded {text bytes : Bytes} (encoded : Encoded text bytes) (decoding : Decoding)
    (rest : Bytes) : decoding.read (text ++ rest) = (decoding.put bytes).read rest := by
  induction encoded generalizing decoding with
  | nil => rw [List.nil_append, put_nil]
  | @escaped first second high low text bytes highDigit lowDigit _ ih =>
      have number : UInt8.ofInt ((16 * high + low : Nat) : Int) = UInt8.ofNat (16 * high + low) := by
        apply UInt8.toNat_inj.mp
        rw [UInt8.ofInt, UInt8.toNat_ofNat', UInt8.toNat_ofNat']
        omega
      rw [List.cons_append, List.cons_append, List.cons_append, read_escape,
        readHex_digits highDigit lowDigit, Option.bind_some, ih, put_put, number]
      rfl
  | @literal byte text bytes free _ ih =>
      have percent : byte ≠ 0x25 := fun same => free (same ▸ by decide)
      have plus : byte ≠ 0x2B := fun same => free (same ▸ by decide)
      have query : byte ≠ 0x3F := fun same => free (same ▸ by decide)
      rw [List.cons_append, read_literal _ percent plus fun mark => query mark.1, ih, put_put]
      rfl

/-- A percent-encoded path is decoded as a whole. -/
theorem urlDecode_encoded {text bytes : Bytes} (encoded : Encoded text bytes) :
    urlDecode text = some (bytes, []) := by
  have whole := read_encoded encoded {} []
  rw [List.append_nil, Decoding.read] at whole
  rw [urlDecode, whole]
  rfl

/-- Without reserved bytes, a text may stay as it is. -/
theorem encoded_self {text : Bytes} (free : ∀ byte ∈ text, byte ∉ reserved) :
    Encoded text text := by
  induction text with
  | nil => exact .nil
  | cons byte text ih =>
      exact .literal (free byte List.mem_cons_self)
        (ih fun other inside => free other (List.mem_cons_of_mem byte inside))

/-- The digit of a number below 16. -/
def hexChar (value : Nat) : UInt8 := UInt8.ofNat (if value < 10 then 0x30 + value else 0x37 + value)

/-- Every byte in hexadecimal. -/
def percentEncode (bytes : Bytes) : Bytes :=
  bytes.flatMap fun byte => [0x25, hexChar (byte.toNat / 16), hexChar (byte.toNat % 16)]

theorem hexDigit_hexChar {value : Nat} (small : value < 16) :
    hexDigit (hexChar value) = some value := by
  interval_cases value <;> rfl

theorem encoded_percentEncode (bytes : Bytes) : Encoded (percentEncode bytes) bytes := by
  induction bytes with
  | nil => exact .nil
  | cons byte bytes ih =>
      have high : hexDigit (hexChar (byte.toNat / 16)) = some (byte.toNat / 16) :=
        hexDigit_hexChar (by have := byte.toNat_lt; omega)
      have low : hexDigit (hexChar (byte.toNat % 16)) = some (byte.toNat % 16) :=
        hexDigit_hexChar (by omega)
      have whole : UInt8.ofNat (16 * (byte.toNat / 16) + byte.toNat % 16) = byte := by
        rw [Nat.div_add_mod]
        exact UInt8.ofNat_toNat
      have encoded := Encoded.escaped high low ih
      rwa [whole] at encoded

end OpenDataCon.HTTP

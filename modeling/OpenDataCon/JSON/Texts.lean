import Mathlib.Algebra.BigOperators.Group.List.Basic
import Mathlib.Data.Bool.AllAny
import OpenDataCon.FileTransfer.Events

/-!
# JSON texts

The grammar of JSON as byte sequences, with a bound on how deep a text nests. Braces
stand in a text in two roles: outside strings they open and close objects, inside
strings they are contents. The first kind is nested properly in every text
(`Derives.level`), and within an object it stays open until the end
(`isObject_depth`); the second kind is free.
-/

set_option autoImplicit false

namespace OpenDataCon.JSON

open FileTransfer (Bytes ascii isDigit)

/-! ## Grammar -/

def isWhitespace (byte : UInt8) : Bool :=
  byte = 0x20 || byte = 0x09 || byte = 0x0A || byte = 0x0D

def isHex (byte : UInt8) : Bool :=
  isDigit byte || (0x41 ≤ byte.toNat && byte.toNat ≤ 0x46) ||
    (0x61 ≤ byte.toNat && byte.toNat ≤ 0x66)

def IsSpace (text : Bytes) : Prop := ∀ byte ∈ text, isWhitespace byte = true

/-- What stands between the quotation marks of a string. -/
inductive Characters : Bytes → Prop where
  | none : Characters []
  | plain {byte : UInt8} {text : Bytes} (printable : 0x20 ≤ byte.toNat) (mark : byte ≠ 0x22)
      (slash : byte ≠ 0x5C) (rest : Characters text) : Characters (byte :: text)
  | escape {byte : UInt8} {text : Bytes} (escaped : byte ∈ ascii "\"\\/bfnrt")
      (rest : Characters text) : Characters (0x5C :: byte :: text)
  | unicode {digits text : Bytes} (four : digits.length = 4)
      (hex : ∀ byte ∈ digits, isHex byte = true) (rest : Characters text) :
      Characters (0x5C :: 0x75 :: (digits ++ text))

def IsString (text : Bytes) : Prop := ∃ inner, Characters inner ∧ text = 0x22 :: (inner ++ [0x22])

def IsDigits (text : Bytes) : Prop := text ≠ [] ∧ ∀ byte ∈ text, isDigit byte = true

def IsNumber (text : Bytes) : Prop :=
  ∃ sign whole fraction exponent, text = sign ++ whole ++ fraction ++ exponent ∧
    (sign = [] ∨ sign = ascii "-") ∧
    (whole = ascii "0" ∨ IsDigits whole ∧ whole.head? ≠ some 0x30) ∧
    (fraction = [] ∨ ∃ digits, IsDigits digits ∧ fraction = 0x2E :: digits) ∧
    (exponent = [] ∨ ∃ letter mark digits, letter ∈ ascii "eE" ∧ IsDigits digits ∧
      (mark = [] ∨ mark = ascii "+" ∨ mark = ascii "-") ∧ exponent = letter :: (mark ++ digits))

/-- A text without structure. -/
def IsScalar (text : Bytes) : Prop :=
  text = ascii "null" ∨ text = ascii "true" ∨ text = ascii "false" ∨ IsNumber text

inductive Nonterminal where
  | value | object | array | element | elements | member | members

/-- The texts of each nonterminal that nest values to a depth of at most `n`. -/
inductive Derives : Nonterminal → Nat → Bytes → Prop where
  | scalar {n : Nat} {text : Bytes} (written : IsScalar text) : Derives .value (n + 1) text
  | string {n : Nat} {text : Bytes} (written : IsString text) : Derives .value (n + 1) text
  | object {n : Nat} {text : Bytes} (written : Derives .object n text) : Derives .value n text
  | array {n : Nat} {text : Bytes} (written : Derives .array n text) : Derives .value n text
  | noMembers {n : Nat} {space : Bytes} (spaces : IsSpace space) :
      Derives .object (n + 1) (0x7B :: (space ++ [0x7D]))
  | ofMembers {n : Nat} {inner : Bytes} (written : Derives .members n inner) :
      Derives .object (n + 1) (0x7B :: (inner ++ [0x7D]))
  | noElements {n : Nat} {space : Bytes} (spaces : IsSpace space) :
      Derives .array (n + 1) (0x5B :: (space ++ [0x5D]))
  | ofElements {n : Nat} {inner : Bytes} (written : Derives .elements n inner) :
      Derives .array (n + 1) (0x5B :: (inner ++ [0x5D]))
  | element {n : Nat} {before text after : Bytes} (spaces : IsSpace before)
      (written : Derives .value n text) (later : IsSpace after) :
      Derives .element n (before ++ text ++ after)
  | lastElement {n : Nat} {text : Bytes} (written : Derives .element n text) :
      Derives .elements n text
  | moreElements {n : Nat} {first later : Bytes} (written : Derives .element n first)
      (rest : Derives .elements n later) : Derives .elements n (first ++ 0x2C :: later)
  | member {n : Nat} {before name after text : Bytes} (spaces : IsSpace before)
      (named : IsString name) (later : IsSpace after) (written : Derives .element n text) :
      Derives .member n (before ++ name ++ after ++ 0x3A :: text)
  | lastMember {n : Nat} {text : Bytes} (written : Derives .member n text) :
      Derives .members n text
  | moreMembers {n : Nat} {first later : Bytes} (written : Derives .member n first)
      (rest : Derives .members n later) : Derives .members n (first ++ 0x2C :: later)

/-- The text of a JSON object. -/
def IsObject (text : Bytes) : Prop := ∃ n, Derives .object n text

/-! ## Braces outside and inside strings -/

/-- Where a byte of a text stands. -/
inductive Place where
  | outside | inString | escaped
deriving DecidableEq, Repr

def Place.next : Place → UInt8 → Place
  | .outside, byte => if byte = 0x22 then .inString else .outside
  | .inString, byte =>
      if byte = 0x22 then .outside else if byte = 0x5C then .escaped else .inString
  | .escaped, _ => .inString

def Place.after (place : Place) (text : Bytes) : Place := text.foldl Place.next place

def brace (byte : UInt8) : Int := if byte = 0x7B then 1 else if byte = 0x7D then -1 else 0

/-- How many more opening braces than closing ones a text has. -/
def braces (text : Bytes) : Int := (text.map brace).sum

/-- The objects that are open after a text: only braces outside strings count. -/
def depth : Place → Bytes → Int
  | _, [] => 0
  | place, byte :: rest =>
      (if place = .outside then brace byte else 0) + depth (place.next byte) rest

/-- How many more opening braces than closing ones stand inside strings. -/
def quotedBraces : Place → Bytes → Int
  | _, [] => 0
  | place, byte :: rest =>
      (if place = .outside then 0 else brace byte) + quotedBraces (place.next byte) rest

@[simp] theorem braces_nil : braces [] = 0 := rfl

@[simp] theorem braces_cons (byte : UInt8) (text : Bytes) :
    braces (byte :: text) = brace byte + braces text := by
  simp [braces]

theorem braces_append (first second : Bytes) :
    braces (first ++ second) = braces first + braces second := by
  simp [braces]

/-- A brace of a text is outside strings or inside. -/
theorem depth_add_quotedBraces (place : Place) (text : Bytes) :
    depth place text + quotedBraces place text = braces text := by
  induction text generalizing place with
  | nil => rfl
  | cons byte rest ih =>
      rw [depth, quotedBraces, braces_cons, ← ih (place.next byte)]
      by_cases outside : place = .outside
      · rw [if_pos outside, if_pos outside]
        omega
      · rw [if_neg outside, if_neg outside]
        omega

theorem depth_append (place : Place) (first second : Bytes) :
    depth place (first ++ second) = depth place first + depth (place.after first) second := by
  induction first generalizing place with
  | nil => exact (Int.zero_add _).symm
  | cons byte first ih =>
      rw [List.cons_append, depth, depth, ih, ← Int.add_assoc]
      rfl

theorem after_append (place : Place) (first second : Bytes) :
    place.after (first ++ second) = (place.after first).after second :=
  List.foldl_append

/-! ## Objects are nested properly -/

/-- A text that ends outside strings with as many objects open as before, and closes
none that was open before. -/
structure Level (text : Bytes) : Prop where
  place : Place.outside.after text = .outside
  depth : depth .outside text = 0
  above : ∀ begun, begun <+: text → 0 ≤ JSON.depth .outside begun

/-- What begins a text of two parts begins the first, or is the first with what begins
the second. -/
theorem prefix_append_cases {begun first second : Bytes} (begins : begun <+: first ++ second) :
    begun <+: first ∨ ∃ more, more <+: second ∧ begun = first ++ more := by
  obtain ⟨rest, whole⟩ := begins
  rcases List.append_eq_append_iff.mp whole with ⟨gap, split, -⟩ | ⟨more, split, ends⟩
  · exact .inl ⟨gap, split.symm⟩
  · exact .inr ⟨more, ⟨rest, ends.symm⟩, split⟩

theorem Level.append {first second : Bytes} (one : Level first) (two : Level second) :
    Level (first ++ second) where
  place := by rw [after_append, one.place, two.place]
  depth := by rw [depth_append, one.place, one.depth, two.depth, Int.add_zero]
  above := by
    intro begun begins
    rcases prefix_append_cases begins with inFirst | ⟨more, inSecond, rfl⟩
    · exact one.above begun inFirst
    · rw [depth_append, one.place, one.depth, Int.zero_add]
      exact two.above more inSecond

/-- Neither a quotation mark nor a brace. -/
def isPlain (byte : UInt8) : Bool := byte ≠ 0x22 && byte ≠ 0x7B && byte ≠ 0x7D

theorem level_nil : Level [] where
  place := rfl
  depth := rfl
  above := by
    intro begun begins
    rw [List.prefix_nil.mp begins]
    exact Int.le_refl 0

theorem level_byte {byte : UInt8} (plain : isPlain byte = true) : Level [byte] := by
  simp only [isPlain, ne_eq, decide_not, Bool.and_eq_true, Bool.not_eq_true',
    decide_eq_false_iff_not] at plain
  obtain ⟨⟨mark, opening⟩, closing⟩ := plain
  have none : depth .outside [byte] = 0 := by
    simp [depth, brace, opening, closing]
  refine ⟨if_neg mark, none, ?_⟩
  intro begun begins
  rcases List.prefix_cons_iff.mp begins with empty | ⟨more, whole, ends⟩
  · rw [empty]
    exact Int.le_refl 0
  · rw [whole, List.prefix_nil.mp ends, none]

theorem level_plain {text : Bytes} (plain : ∀ byte ∈ text, isPlain byte = true) : Level text := by
  induction text with
  | nil => exact level_nil
  | cons byte text ih =>
      exact (level_byte (plain byte List.mem_cons_self)).append
        (ih fun other inside => plain other (List.mem_cons_of_mem byte inside))

/-- A text that is read inside a string to its end. -/
structure Quoted (text : Bytes) : Prop where
  place : Place.inString.after text = .inString
  depth : ∀ begun, begun <+: text → JSON.depth .inString begun = 0

theorem quoted_nil : Quoted [] where
  place := rfl
  depth := by
    intro begun begins
    rw [List.prefix_nil.mp begins]
    rfl

theorem Quoted.cons {byte : UInt8} {text : Bytes} (mark : byte ≠ 0x22) (slash : byte ≠ 0x5C)
    (rest : Quoted text) : Quoted (byte :: text) := by
  have next : Place.inString.next byte = .inString := by
    rw [Place.next, if_neg mark, if_neg slash]
  refine ⟨?_, ?_⟩
  · rw [Place.after, List.foldl_cons, next]
    exact rest.place
  · intro begun begins
    rcases List.prefix_cons_iff.mp begins with empty | ⟨more, whole, ends⟩
    · rw [empty]
      rfl
    · rw [whole, JSON.depth, next, rest.depth more ends]
      rfl

theorem Quoted.escape {byte : UInt8} {text : Bytes} (rest : Quoted text) :
    Quoted (0x5C :: byte :: text) := by
  refine ⟨rest.place, ?_⟩
  intro begun begins
  rcases List.prefix_cons_iff.mp begins with empty | ⟨more, whole, ends⟩
  · rw [empty]
    rfl
  · rcases List.prefix_cons_iff.mp ends with empty | ⟨later, next, ends⟩
    · rw [whole, empty]
      rfl
    · rw [whole, next]
      exact (Int.zero_add _).trans ((Int.zero_add _).trans (rest.depth later ends))

theorem hex_ne {byte : UInt8} (hex : isHex byte = true) : byte ≠ 0x22 ∧ byte ≠ 0x5C := by
  constructor <;> rintro rfl <;> exact absurd hex (by decide)

theorem Quoted.append_hex {digits text : Bytes} (hex : ∀ byte ∈ digits, isHex byte = true)
    (rest : Quoted text) : Quoted (digits ++ text) := by
  induction digits with
  | nil => exact rest
  | cons digit digits ih =>
      obtain ⟨mark, slash⟩ := hex_ne (hex digit List.mem_cons_self)
      exact (ih fun other inside => hex other (List.mem_cons_of_mem digit inside)).cons mark slash

theorem Characters.quoted {text : Bytes} (written : Characters text) : Quoted text := by
  induction written with
  | none => exact quoted_nil
  | plain printable mark slash rest ih => exact ih.cons mark slash
  | escape escaped rest ih => exact ih.escape
  | unicode four hex rest ih => exact (ih.append_hex hex).escape

/-- Whatever a string contains, the objects around it stay open. -/
theorem level_string {text : Bytes} (written : IsString text) : Level text := by
  obtain ⟨inner, characters, rfl⟩ := written
  have quoted := characters.quoted
  have whole : depth .outside (0x22 :: (inner ++ [0x22])) = 0 := by
    rw [depth, show Place.outside.next 0x22 = .inString from rfl, depth_append, quoted.place,
      quoted.depth inner List.prefix_rfl]
    rfl
  refine ⟨?_, whole, ?_⟩
  · show Place.inString.after (inner ++ [0x22]) = .outside
    rw [after_append, quoted.place]
    rfl
  · intro begun begins
    rcases List.prefix_cons_iff.mp begins with empty | ⟨more, start, ends⟩
    · rw [empty]
      exact Int.le_refl 0
    · rcases List.prefix_concat_iff.mp ends with all | inside
      · rw [start, all, whole]
      · rw [start, depth, show Place.outside.next 0x22 = .inString from rfl,
          quoted.depth more inside]
        exact Int.le_refl 0

/-! ### Objects -/

/-- Within braces an object is open until the end. -/
theorem Level.within {inner begun : Bytes} (level : Level inner)
    (begins : begun <+: 0x7B :: (inner ++ [0x7D])) (some_byte : begun ≠ [])
    (part : begun ≠ 0x7B :: (inner ++ [0x7D])) : 0 < JSON.depth .outside begun := by
  rcases List.prefix_cons_iff.mp begins with empty | ⟨more, start, ends⟩
  · exact absurd empty some_byte
  · rcases List.prefix_concat_iff.mp ends with all | inside
    · exact absurd (start.trans (by rw [all])) part
    · have above := level.above more inside
      rw [start, JSON.depth, show Place.outside.next 0x7B = .outside from rfl, if_pos rfl,
        show brace 0x7B = 1 from rfl]
      omega

theorem Level.braced {inner : Bytes} (level : Level inner) :
    Level (0x7B :: (inner ++ [0x7D])) := by
  have whole : JSON.depth .outside (0x7B :: (inner ++ [0x7D])) = 0 := by
    rw [JSON.depth, show Place.outside.next 0x7B = .outside from rfl, depth_append, level.place,
      level.depth]
    rfl
  refine ⟨?_, whole, ?_⟩
  · show Place.outside.after (inner ++ [0x7D]) = .outside
    rw [after_append, level.place]
    rfl
  · intro begun begins
    by_cases empty : begun = []
    · rw [empty]
      exact Int.le_refl 0
    · by_cases all : begun = 0x7B :: (inner ++ [0x7D])
      · rw [all, whole]
      · exact (level.within begins empty all).le

theorem plain_of_space {text : Bytes} (spaces : IsSpace text) :
    ∀ byte ∈ text, isPlain byte = true := by
  intro byte inside
  have white := spaces byte inside
  simp only [isWhitespace, Bool.or_eq_true, decide_eq_true_eq] at white
  rcases white with ((rfl | rfl) | rfl) | rfl <;> rfl

theorem level_space {text : Bytes} (spaces : IsSpace text) : Level text :=
  level_plain (plain_of_space spaces)

theorem plain_of_digits {text : Bytes} (digits : IsDigits text) :
    ∀ byte ∈ text, isPlain byte = true := by
  intro byte inside
  have digit := digits.2 byte inside
  simp only [isPlain, ne_eq, decide_not, Bool.and_eq_true, Bool.not_eq_true',
    decide_eq_false_iff_not]
  refine ⟨⟨?_, ?_⟩, ?_⟩ <;> rintro rfl <;> exact absurd digit (by decide)

theorem level_number {text : Bytes} (written : IsNumber text) : Level text := by
  obtain ⟨sign, whole, fraction, exponent, rfl, signed, wholeDigits, fractionDigits,
    exponentDigits⟩ := written
  have level_sign : Level sign := by
    rcases signed with rfl | rfl
    · exact level_nil
    · exact level_plain (List.all_iff_forall_prop.mp (by decide))
  have level_whole : Level whole := by
    rcases wholeDigits with rfl | ⟨digits, -⟩
    · exact level_plain (List.all_iff_forall_prop.mp (by decide))
    · exact level_plain (plain_of_digits digits)
  have level_fraction : Level fraction := by
    rcases fractionDigits with rfl | ⟨digits, written, rfl⟩
    · exact level_nil
    · exact (level_byte rfl).append (level_plain (plain_of_digits written))
  have level_exponent : Level exponent := by
    rcases exponentDigits with rfl | ⟨letter, mark, digits, lettered, written, marked, rfl⟩
    · exact level_nil
    · have level_letter : Level [letter] := by
        rcases List.mem_cons.mp lettered with rfl | other
        · exact level_byte rfl
        · rw [List.mem_singleton.mp other]
          exact level_byte rfl
      have level_mark : Level mark := by
        rcases marked with rfl | rfl | rfl
        · exact level_nil
        · exact level_plain (List.all_iff_forall_prop.mp (by decide))
        · exact level_plain (List.all_iff_forall_prop.mp (by decide))
      exact level_letter.append (level_mark.append (level_plain (plain_of_digits written)))
  exact ((level_sign.append level_whole).append level_fraction).append level_exponent

theorem level_scalar {text : Bytes} (written : IsScalar text) : Level text := by
  rcases written with rfl | rfl | rfl | number
  · exact level_plain (List.all_iff_forall_prop.mp (by decide))
  · exact level_plain (List.all_iff_forall_prop.mp (by decide))
  · exact level_plain (List.all_iff_forall_prop.mp (by decide))
  · exact level_number number

/-- **The braces outside strings are nested properly in every text.** -/
theorem Derives.level {symbol : Nonterminal} {n : Nat} {text : Bytes}
    (written : Derives symbol n text) : Level text := by
  induction written with
  | scalar written => exact level_scalar written
  | string written => exact level_string written
  | object written ih => exact ih
  | array written ih => exact ih
  | noMembers spaces => exact (level_space spaces).braced
  | ofMembers written ih => exact ih.braced
  | noElements spaces =>
      exact (level_byte rfl).append ((level_space spaces).append (level_byte rfl))
  | ofElements written ih => exact (level_byte rfl).append (ih.append (level_byte rfl))
  | element spaces written later ih =>
      exact ((level_space spaces).append ih).append (level_space later)
  | lastElement written ih => exact ih
  | moreElements written rest first later => exact first.append ((level_byte rfl).append later)
  | member spaces named later written ih =>
      exact (((level_space spaces).append (level_string named)).append
        (level_space later)).append ((level_byte rfl).append ih)
  | lastMember written ih => exact ih
  | moreMembers written rest first later => exact first.append ((level_byte rfl).append later)

/-- **The braces outside strings keep an object open until its end.** -/
theorem isObject_depth {text : Bytes} (written : IsObject text) :
    depth .outside text = 0 ∧
      ∀ begun, begun <+: text → begun ≠ [] → begun ≠ text → 0 < depth .outside begun := by
  obtain ⟨n, derived⟩ := written
  refine ⟨derived.level.depth, ?_⟩
  intro begun begins some_byte part
  cases derived with
  | noMembers spaces => exact (level_space spaces).within begins some_byte part
  | ofMembers written => exact written.level.within begins some_byte part

theorem isObject_head {text : Bytes} (written : IsObject text) : text.head? = some 0x7B := by
  obtain ⟨n, derived⟩ := written
  cases derived with
  | noMembers spaces => rfl
  | ofMembers written => rfl

/-! ### Short texts -/

/-- A character that needs no escape. -/
def isUnescaped (byte : UInt8) : Bool := 0x20 ≤ byte.toNat && byte ≠ 0x22 && byte ≠ 0x5C

theorem isString_plain {text : Bytes} (plain : text.all isUnescaped = true) :
    IsString (0x22 :: (text ++ [0x22])) := by
  refine ⟨text, ?_, rfl⟩
  induction text with
  | nil => exact .none
  | cons byte text ih =>
      simp only [List.all_cons, isUnescaped, ne_eq, decide_not, Bool.and_eq_true,
        decide_eq_true_eq, Bool.not_eq_true', decide_eq_false_iff_not] at plain
      obtain ⟨⟨⟨printable, mark⟩, slash⟩, rest⟩ := plain
      exact .plain printable mark slash (ih rest)

/-- An object with one member. -/
theorem isObject_member {n : Nat} {name text : Bytes} (named : IsString name)
    (written : Derives .value n text) : IsObject (0x7B :: (name ++ 0x3A :: text ++ [0x7D])) := by
  have none : IsSpace [] := fun _ inside => absurd inside List.not_mem_nil
  have element : Derives .element n text := by
    have written := Derives.element none written none
    rwa [List.nil_append, List.append_nil] at written
  have member : Derives .member n (name ++ 0x3A :: text) := by
    have written := Derives.member none named none element
    rwa [List.nil_append, List.append_nil] at written
  exact ⟨n + 1, .ofMembers (.lastMember member)⟩

end OpenDataCon.JSON

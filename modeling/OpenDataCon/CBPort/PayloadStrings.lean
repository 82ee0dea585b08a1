import OpenDataCon.CBPort.PointConf

/-!
# Payload locations as texts

`ParsePayloadString` reads the packet and the section of a point from a text such as
"2A" or "15B". It looks at the first two characters, at the third one only after a number
of two digits, and at no more: any text that begins with the name of a location is
accepted (`scanPayloadString_accepts_iff`). So a text is read as its whole content
demands when nothing follows the name of a location, and nothing but its own characters is
looked at when it is not a number of two digits alone (`payloadString_readExactly_iff`).
-/

set_option autoImplicit false

namespace OpenDataCon.CBPort

/-! ## The scanner -/

/-- Whether a text of `size` characters is accepted, and the location that is left in the
parameter; nothing when a character is read that is not among `chars`. -/
def scanPayloadString (size : Nat) (chars : List Char) : Option (Bool × PayloadLocationType) :=
  if size < 2 then some (false, {})
  else do
    let first ← chars[0]?
    if '1' ≤ first ∧ first ≤ '9' then
      let packet := first.toNat - '0'.toNat
      let second ← chars[1]?
      if '0' ≤ second ∧ second ≤ '6' ∧ first = '1' then
        let packet := second.toNat - '0'.toNat + 10
        let third ← chars[2]?
        if third = 'A' then some (true, ⟨packet, .PositionA⟩)
        else if third = 'B' then some (true, ⟨packet, .PositionB⟩)
        else some (false, ⟨packet, .Error⟩)
      -- the section A of the first packet holds the station, the group and the function
      else if second = 'A' then some (decide (packet ≠ 1), ⟨packet, .PositionA⟩)
      else if second = 'B' then some (true, ⟨packet, .PositionB⟩)
      else some (false, ⟨packet, .Error⟩)
    else some (false, {})

/-- What can be read of a string: its characters and the zero after them. -/
def withZero (pl : List Char) : List Char := pl ++ ['\x00']

/-- A text is accepted, with a location. -/
def AcceptsText (pl : List Char) (location : PayloadLocationType) : Prop :=
  scanPayloadString pl.length (withZero pl) = some (true, location)

/-- No character outside a text is read. -/
def ReadsInside (pl : List Char) : Prop := (scanPayloadString pl.length pl).isSome

instance (pl : List Char) (location : PayloadLocationType) : Decidable (AcceptsText pl location) :=
  inferInstanceAs (Decidable (_ = _))

instance (pl : List Char) : Decidable (ReadsInside pl) := inferInstanceAs (Decidable (_ = true))

/-! ## Names of locations -/

def PayloadABType.letters : PayloadABType → List Char
  | .PositionA => ['A']
  | .PositionB => ['B']
  | .Error => ['E', 'r', 'r', 'o', 'r']

namespace PayloadLocationType

/-- The text of a location, as `to_string` writes it. -/
def toChars (location : PayloadLocationType) : List Char :=
  Nat.toDigits 10 location.packet ++ location.position.letters

/-- The locations that a point can have: a section of one of sixteen packets, without the
section that the address takes. -/
structure Nameable (location : PayloadLocationType) : Prop where
  low : 1 ≤ location.packet
  high : location.packet ≤ 16
  placed : location.position = .PositionA ∨ location.position = .PositionB
  free : ¬(location.packet = 1 ∧ location.position = .PositionA)

end PayloadLocationType

/-! ## Digits -/

theorem digitChar_le_iff {m n : Nat} (first : m < 10) (second : n < 10) :
    Nat.digitChar m ≤ Nat.digitChar n ↔ m ≤ n := by
  have order : ∀ a b : Char, a ≤ b ↔ a.toNat ≤ b.toNat := by
    intro a b
    rw [Char.le_def, UInt32.le_iff_toNat_le]
    rfl
  rw [order, Nat.toNat_digitChar_of_lt_ten first, Nat.toNat_digitChar_of_lt_ten second]
  exact Nat.add_le_add_iff_left

theorem digitChar_value {n : Nat} (digit : n < 10) :
    (Nat.digitChar n).toNat - '0'.toNat = n := by
  rw [Nat.toNat_digitChar_of_lt_ten digit]
  exact Nat.add_sub_cancel_left 48 n

theorem digitChar_of_between {letter : Char} (low : '0' ≤ letter) (high : letter ≤ '9') :
    ∃ n < 10, letter = Nat.digitChar n := by
  have least : 48 ≤ letter.toNat := UInt32.le_iff_toNat_le.mp (Char.le_def.mp low)
  have most : letter.toNat ≤ 57 := UInt32.le_iff_toNat_le.mp (Char.le_def.mp high)
  have small : letter.toNat - 48 < 10 := by omega
  refine ⟨letter.toNat - 48, small, Char.toNat_inj.mp ?_⟩
  rw [Nat.toNat_digitChar_of_lt_ten small]
  omega

theorem digit_of_starts {letter : Char} (starts : '1' ≤ letter ∧ letter ≤ '9') :
    ∃ digit, 1 ≤ digit ∧ digit < 10 ∧ letter = Nat.digitChar digit := by
  obtain ⟨digit, high, rfl⟩ :=
    digitChar_of_between (Char.le_trans (by decide) starts.1) starts.2
  exact ⟨digit, (@digitChar_le_iff 1 digit (by decide) high).mp starts.1, high, rfl⟩

theorem digitChar_eq_one {digit : Nat} (high : digit < 10) :
    Nat.digitChar digit = '1' ↔ digit = 1 := by
  constructor
  · intro same
    have value := digitChar_value high
    rw [same] at value
    exact value.symm
  · rintro rfl
    rfl

/-- A number of one digit. -/
theorem toChars_small {packet : Nat} (position : PayloadABType) (small : packet < 10) :
    PayloadLocationType.toChars ⟨packet, position⟩ =
      Nat.digitChar packet :: position.letters := by
  rw [PayloadLocationType.toChars, Nat.toDigits_of_lt_base small]
  rfl

/-- A number of two digits that begins with one. -/
theorem toDigits_teen {unit : Nat} (digit : unit < 10) :
    Nat.toDigits 10 (unit + 10) = ['1', Nat.digitChar unit] := by
  have parts := @Nat.toDigits_append_toDigits 10 1 unit (by decide) (by decide) digit
  rw [Nat.toDigits_of_lt_base digit, Nat.add_comm] at parts
  exact parts.symm

theorem toChars_teen {unit : Nat} (position : PayloadABType) (digit : unit < 10) :
    PayloadLocationType.toChars ⟨unit + 10, position⟩ =
      '1' :: Nat.digitChar unit :: position.letters := by
  rw [PayloadLocationType.toChars, toDigits_teen digit]
  rfl

/-! ## What a scan does -/

/-- What is left by a scan after a number of two digits. -/
def scanThird (packet : Nat) (third : Char) : Bool × PayloadLocationType :=
  if third = 'A' then (true, ⟨packet, .PositionA⟩)
  else if third = 'B' then (true, ⟨packet, .PositionB⟩)
  else (false, ⟨packet, .Error⟩)

/-- A scan of a text that begins with a digit other than zero. -/
theorem scan_digit {digit size : Nat} (wide : 2 ≤ size) (low : 1 ≤ digit) (high : digit < 10)
    (second : Char) (rest : List Char) :
    scanPayloadString size (Nat.digitChar digit :: second :: rest) =
      if '0' ≤ second ∧ second ≤ '6' ∧ digit = 1 then
        rest.head?.map (scanThird (second.toNat - '0'.toNat + 10))
      else if second = 'A' then some (decide (digit ≠ 1), ⟨digit, .PositionA⟩)
      else if second = 'B' then some (true, ⟨digit, .PositionB⟩)
      else some (false, ⟨digit, .Error⟩) := by
  have first : '1' ≤ Nat.digitChar digit ∧ Nat.digitChar digit ≤ '9' :=
    ⟨(digitChar_le_iff (by decide) high).mpr low,
      (digitChar_le_iff high (by decide)).mpr (Nat.le_of_lt_succ high)⟩
  have third : ∀ packet, (rest[0]?.bind fun third =>
      if third = 'A' then some (true, (⟨packet, .PositionA⟩ : PayloadLocationType))
      else if third = 'B' then some (true, ⟨packet, .PositionB⟩)
      else some (false, ⟨packet, .Error⟩)) = rest.head?.map (scanThird packet) := by
    intro packet
    rw [List.head?_eq_getElem?, Option.map_eq_bind]
    congr
    funext third
    simp only [Function.comp_apply, scanThird, apply_ite some]
  rw [scanPayloadString, if_neg (Nat.not_lt.mpr wide)]
  simp only [List.getElem?_cons_zero, List.getElem?_cons_succ, Option.bind_eq_bind,
    Option.bind_some, if_pos first, digitChar_eq_one high,
    digitChar_value high, third]

/-- A scan of a text that does not begin so. -/
theorem scan_other {size : Nat} {first : Char} (other : ¬('1' ≤ first ∧ first ≤ '9'))
    (rest : List Char) : scanPayloadString size (first :: rest) = some (false, {}) := by
  by_cases short : size < 2
  · rw [scanPayloadString, if_pos short]
  · rw [scanPayloadString, if_neg short]
    simp only [List.getElem?_cons_zero, Option.bind_eq_bind, Option.bind_some, if_neg other]

theorem scanThird_eq_accepted {packet : Nat} {third : Char} {location : PayloadLocationType} :
    scanThird packet third = (true, location) ↔
      ∃ position, (position = .PositionA ∨ position = .PositionB) ∧
        position.letters = [third] ∧ location = ⟨packet, position⟩ := by
  constructor
  · intro accepted
    rw [scanThird] at accepted
    split at accepted
    · next letter => exact ⟨.PositionA, .inl rfl, by rw [letter]; rfl, (Prod.mk.inj accepted).2.symm⟩
    · split at accepted
      · next letter => exact ⟨.PositionB, .inr rfl, by rw [letter]; rfl, (Prod.mk.inj accepted).2.symm⟩
      · cases accepted
  · rintro ⟨position, rfl | rfl, letters, rfl⟩
    · cases letters
      rfl
    · cases letters
      rfl

/-! ## Which texts are accepted -/

theorem nameable_of_accepts {pl : List Char} {location : PayloadLocationType}
    (accepted : AcceptsText pl location) : location.Nameable ∧ location.toChars <+: pl := by
  match pl with
  | [] => cases accepted
  | [first] => cases accepted
  | first :: second :: rest =>
      have wide : 2 ≤ (first :: second :: rest).length := Nat.le_add_left 2 rest.length
      rw [AcceptsText, withZero, List.cons_append, List.cons_append] at accepted
      by_cases starts : '1' ≤ first ∧ first ≤ '9'
      · obtain ⟨digit, low, high, rfl⟩ := digit_of_starts starts
        rw [scan_digit wide low high] at accepted
        split at accepted
        · next teen =>
            obtain ⟨unit, small, rfl⟩ :=
              digitChar_of_between teen.1 (Char.le_trans teen.2.1 (by decide))
            have last : unit ≤ 6 := (digitChar_le_iff small (by decide)).mp teen.2.1
            obtain ⟨third, next, accepted⟩ := Option.map_eq_some_iff.mp accepted
            obtain ⟨position, placed, letters, rfl⟩ := scanThird_eq_accepted.mp accepted
            rw [digitChar_value small] at *
            have most : unit + 10 ≤ 16 := Nat.add_le_add_right last 10
            refine ⟨⟨Nat.le_add_left 1 (unit + 9), most, placed, fun taken => ?_⟩, ?_⟩
            · have impossible : unit + 10 = 1 := taken.1
              omega
            · cases rest with
              | nil =>
                  rcases placed with rfl | rfl
                  · cases letters.trans (congrArg (fun c => [c]) (Option.some.inj next)).symm
                  · cases letters.trans (congrArg (fun c => [c]) (Option.some.inj next)).symm
              | cons other rest =>
                  rw [toChars_teen position small, letters, teen.2.2, ← Option.some.inj next]
                  exact ⟨rest, rfl⟩
        · have most : digit ≤ 16 := by omega
          split at accepted
          · next letter =>
              obtain ⟨free, same⟩ := Prod.mk.inj (Option.some.inj accepted)
              obtain rfl := same
              refine ⟨⟨low, most, .inl rfl, fun taken => of_decide_eq_true free taken.1⟩, ?_⟩
              rw [toChars_small _ high, letter]
              exact ⟨rest, rfl⟩
          · split at accepted
            · next letter =>
                obtain ⟨-, same⟩ := Prod.mk.inj (Option.some.inj accepted)
                obtain rfl := same
                refine ⟨⟨low, most, .inr rfl, fun taken => nomatch taken.2⟩, ?_⟩
                rw [toChars_small _ high, letter]
                exact ⟨rest, rfl⟩
            · cases accepted
      · rw [scan_other starts] at accepted
        cases accepted

theorem accepts_of_nameable {pl : List Char} {location : PayloadLocationType}
    (nameable : location.Nameable) (begins : location.toChars <+: pl) :
    AcceptsText pl location := by
  obtain ⟨packet, position⟩ := location
  have low : 1 ≤ packet := nameable.low
  have high : packet ≤ 16 := nameable.high
  have placed : position = .PositionA ∨ position = .PositionB := nameable.placed
  have free : ¬(packet = 1 ∧ position = .PositionA) := nameable.free
  obtain ⟨rest, rfl⟩ := begins
  by_cases small : packet < 10
  · rw [toChars_small position small, AcceptsText, withZero]
    rcases placed with rfl | rfl
    · have notOne : packet ≠ 1 := fun one => free ⟨one, rfl⟩
      refine (scan_digit (Nat.le_add_left 2 _) low small 'A' _).trans ?_
      rw [if_neg (fun teen => absurd teen.2.1 (by decide)), if_pos rfl, decide_eq_true notOne]
    · refine (scan_digit (Nat.le_add_left 2 _) low small 'B' _).trans ?_
      rw [if_neg (fun teen => absurd teen.2.1 (by decide)), if_neg (by decide), if_pos rfl]
  · obtain ⟨unit, rfl⟩ : ∃ unit, packet = unit + 10 := ⟨packet - 10, by omega⟩
    have digit : unit < 10 := by omega
    have sixteen : unit ≤ 6 := Nat.le_of_add_le_add_right high
    have low : '0' ≤ Nat.digitChar unit :=
      (@digitChar_le_iff 0 unit (by decide) digit).mpr (Nat.zero_le unit)
    have last : Nat.digitChar unit ≤ '6' := (@digitChar_le_iff unit 6 digit (by decide)).mpr sixteen
    rw [toChars_teen position digit, AcceptsText, withZero]
    refine (@scan_digit 1 _ (Nat.le_add_left 2 _) (by decide) (by decide) _ _).trans ?_
    rw [if_pos ⟨low, last, rfl⟩, digitChar_value digit]
    rcases placed with rfl | rfl
    · rfl
    · rfl

/-- **The texts that are accepted are those that begin with the name of a location**, and
this is the location that they are read as. -/
theorem scanPayloadString_accepts_iff {pl : List Char} {location : PayloadLocationType} :
    AcceptsText pl location ↔ location.Nameable ∧ location.toChars <+: pl :=
  ⟨nameable_of_accepts, fun named => accepts_of_nameable named.1 named.2⟩

/-- The configuration reads a location as the scanner does. -/
theorem parsePayloadString_eq_some_iff {pl : List Char} {location : PayloadLocationType} :
    parsePayloadString pl = some location ↔ AcceptsText pl location := by
  match pl with
  | [] => exact iff_of_false nofun nofun
  | [first] => exact iff_of_false nofun nofun
  | first :: second :: rest =>
      have wide : 2 ≤ (first :: second :: rest).length := Nat.le_add_left 2 rest.length
      by_cases starts : '1' ≤ first ∧ first ≤ '9'
      · obtain ⟨digit, low, high, rfl⟩ := digit_of_starts starts
        have third : scanThird (second.toNat - '0'.toNat + 10) <$>
            (rest ++ ['\x00']).head? = some (true, location) ↔
            (if rest.head? = some 'A' then
                some (⟨second.toNat - '0'.toNat + 10, .PositionA⟩ : PayloadLocationType)
              else if rest.head? = some 'B' then
                some ⟨second.toNat - '0'.toNat + 10, .PositionB⟩
              else none) = some location := by
          cases rest with
          | nil => exact iff_of_false nofun nofun
          | cons other rest =>
              simp only [List.cons_append, List.head?_cons, Option.map_eq_map, Option.map_some,
                Option.some_inj, scanThird]
              split
              · simp
              · split
                · simp
                · simp
        rw [AcceptsText, withZero, List.cons_append, List.cons_append, scan_digit wide low high]
        simp only [parsePayloadString, if_pos starts, digitChar_eq_one high, digitChar_value high]
        split
        · exact third.symm
        · split
          · by_cases one : digit = 1
            · simp [one]
            · simp [one]
          · split
            · simp
            · simp
      · rw [AcceptsText, withZero, List.cons_append, scan_other starts]
        refine iff_of_false ?_ nofun
        simp only [parsePayloadString, if_neg starts]
        exact nofun

/-! ## What is read -/

theorem alone_iff {pl : List Char} :
    (∃ n, 10 ≤ n ∧ n ≤ 16 ∧ pl = Nat.toDigits 10 n) ↔
      ∃ unit, unit ≤ 6 ∧ pl = ['1', Nat.digitChar unit] := by
  constructor
  · rintro ⟨n, low, high, rfl⟩
    obtain ⟨unit, rfl⟩ : ∃ unit, n = unit + 10 := ⟨n - 10, by omega⟩
    exact ⟨unit, by omega, toDigits_teen (by omega)⟩
  · rintro ⟨unit, small, rfl⟩
    exact ⟨unit + 10, by omega, by omega, (toDigits_teen (by omega)).symm⟩

/-- The character after the last one is looked at in a number of two digits alone. -/
theorem readsInside_iff {pl : List Char} :
    ReadsInside pl ↔ ¬∃ n, 10 ≤ n ∧ n ≤ 16 ∧ pl = Nat.toDigits 10 n := by
  rw [alone_iff]
  match pl with
  | [] => exact iff_of_true rfl (fun ⟨_, _, same⟩ => nomatch same)
  | [first] => exact iff_of_true rfl (fun ⟨_, _, same⟩ => nomatch same)
  | first :: second :: rest =>
      have wide : 2 ≤ (first :: second :: rest).length := Nat.le_add_left 2 rest.length
      rw [ReadsInside]
      by_cases starts : '1' ≤ first ∧ first ≤ '9'
      · obtain ⟨digit, low, high, rfl⟩ := digit_of_starts starts
        rw [scan_digit wide low high]
        by_cases teen : '0' ≤ second ∧ second ≤ '6' ∧ digit = 1
        · obtain ⟨unit, small, rfl⟩ :=
            digitChar_of_between teen.1 (Char.le_trans teen.2.1 (by decide))
          have last : unit ≤ 6 := (@digitChar_le_iff unit 6 small (by decide)).mp teen.2.1
          rw [if_pos teen]
          cases rest with
          | nil => exact iff_of_false nofun (fun apart => apart ⟨unit, last, by rw [teen.2.2]; rfl⟩)
          | cons other rest =>
              refine iff_of_true rfl ?_
              rintro ⟨unit, -, same⟩
              cases congrArg List.length same
        · rw [if_neg teen]
          refine iff_of_true ?_ ?_
          · split
            · rfl
            · split <;> rfl
          · rintro ⟨unit, small, same⟩
            obtain ⟨one, two, -⟩ : Nat.digitChar digit = '1' ∧ second = Nat.digitChar unit ∧
              rest = [] := by simpa using same
            refine teen ⟨?_, ?_, (digitChar_eq_one high).mp one⟩
            · rw [two]
              exact (@digitChar_le_iff 0 unit (by decide) (by omega)).mpr (Nat.zero_le unit)
            · rw [two]
              exact (@digitChar_le_iff unit 6 (by omega) (by decide)).mpr small
      · rw [scan_other starts]
        refine iff_of_true rfl ?_
        rintro ⟨unit, small, same⟩
        rw [(List.cons.inj same).1] at starts
        exact starts (by decide)

/-- No scan goes beyond the zero after a text. -/
theorem scan_withZero_isSome (pl : List Char) :
    (scanPayloadString pl.length (withZero pl)).isSome := by
  match pl with
  | [] => rfl
  | [first] => rfl
  | first :: second :: rest =>
      have wide : 2 ≤ (first :: second :: rest).length := Nat.le_add_left 2 rest.length
      rw [withZero, List.cons_append, List.cons_append]
      by_cases starts : '1' ≤ first ∧ first ≤ '9'
      · obtain ⟨digit, low, high, rfl⟩ := digit_of_starts starts
        rw [scan_digit wide low high]
        split
        · cases rest with
          | nil => rfl
          | cons other rest => rfl
        · split
          · rfl
          · split <;> rfl
      · rw [scan_other starts]
        rfl

/-! ## Exact reading -/

/-- A text is read as its whole content demands. -/
structure ReadExactly (pl : List Char) : Prop where
  accepted : (∃ location, AcceptsText pl location) ↔
    ∃ location : PayloadLocationType, location.Nameable ∧ pl = location.toChars
  named : ∀ location, AcceptsText pl location → location.Nameable ∧ location.toChars = pl
  inside : ReadsInside pl

/-- **When a text is read exactly**: when it is not the name of a location with something
after it, and not a number from 10 to 16 alone. -/
theorem payloadString_readExactly_iff (pl : List Char) :
    ReadExactly pl ↔
      (¬∃ (location : PayloadLocationType) (rest : List Char),
        location.Nameable ∧ rest ≠ [] ∧ pl = location.toChars ++ rest) ∧
      ¬∃ n, 10 ≤ n ∧ n ≤ 16 ∧ pl = Nat.toDigits 10 n := by
  constructor
  · intro exactly
    refine ⟨?_, readsInside_iff.mp exactly.inside⟩
    rintro ⟨location, rest, nameable, something, rfl⟩
    have accepted : AcceptsText (location.toChars ++ rest) location :=
      accepts_of_nameable nameable (List.prefix_append _ _)
    exact something (List.self_eq_append_right.mp (exactly.named location accepted).2)
  · rintro ⟨nothingAfter, notAlone⟩
    have named : ∀ location, AcceptsText pl location →
        location.Nameable ∧ location.toChars = pl := by
      intro location accepted
      obtain ⟨nameable, rest, rfl⟩ := nameable_of_accepts accepted
      cases rest with
      | nil => exact ⟨nameable, (List.append_nil _).symm⟩
      | cons letter rest =>
          exact absurd ⟨location, letter :: rest, nameable, List.cons_ne_nil letter rest, rfl⟩
            nothingAfter
    refine ⟨⟨?_, ?_⟩, named, readsInside_iff.mpr notAlone⟩
    · rintro ⟨location, accepted⟩
      exact ⟨location, (named location accepted).1, (named location accepted).2.symm⟩
    · rintro ⟨location, nameable, rfl⟩
      exact ⟨location, accepts_of_nameable nameable List.prefix_rfl⟩

/-- What follows the name of a location is not looked at, and after "12" the zero is. -/
theorem payloadString_trailing :
    (AcceptsText ['2', 'A', 'x'] ⟨2, .PositionA⟩ ∧ ¬ReadExactly ['2', 'A', 'x']) ∧
      ¬ReadExactly ['1', '2'] := by
  have accepted : AcceptsText ['2', 'A', 'x'] ⟨2, .PositionA⟩ := by decide
  refine ⟨⟨accepted, fun exactly => ?_⟩, fun exactly => absurd exactly.inside (by decide)⟩
  have whole := (exactly.named _ accepted).2
  exact absurd whole (by decide)

end OpenDataCon.CBPort

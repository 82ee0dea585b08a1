import OpenDataCon.JSON.Texts

/-!
# Framing at a JSON port

`JSONPort::ReadCompletionHandler` takes the objects out of what was read by counting
braces, and puts back what is left. What is left is enough to count again from the
start, so the objects do not depend on how the stream is split (`reads_calls`). The
braces that stand inside strings are counted too: an object is taken out whole exactly
when they come out even, and never close what is open around them
(`reads_objects_iff`). `ProcessBraced` is taken to return here.
-/

set_option autoImplicit false

namespace OpenDataCon.JSONPort

open JSON
open FileTransfer (Bytes ascii)

/-! ## The handler -/

/-- The local variables of `ReadCompletionHandler`. -/
structure Framing where
  braced : Bytes := []
  countOpenBraces : Nat := 0
  countCloseBraces : Nat := 0
deriving DecidableEq, Repr

namespace Framing

/-- What a byte changes before it is kept. -/
def count (s : Framing) (ch : UInt8) : Framing :=
  if ch = 0x7B then
    { s with
      countOpenBraces := s.countOpenBraces + 1
      braced := if s.countOpenBraces + 1 = 1 ∧ 0 < s.braced.length then [] else s.braced }
  else if ch = 0x7D then
    if s.countOpenBraces < s.countCloseBraces + 1 then {}
    else { s with countCloseBraces := s.countCloseBraces + 1 }
  else s

def push (s : Framing) (ch : UInt8) : Framing := { s with braced := s.braced ++ [ch] }

/-- One byte, with the calls to `ProcessBraced`. -/
def step (s : Framing) (ch : UInt8) : Framing × List Bytes :=
  let kept := (s.count ch).push ch
  if 0 < kept.countOpenBraces ∧ kept.countCloseBraces = kept.countOpenBraces then
    ({}, [kept.braced])
  else (kept, [])

def read (s : Framing) : Bytes → Framing × List Bytes
  | [] => (s, [])
  | ch :: rest =>
      let next := s.step ch
      let reached := next.1.read rest
      (reached.1, next.2 ++ reached.2)

end Framing

/-- `ReadCompletionHandler`: the leftovers that are put back, and the calls. -/
def readCompletionHandler (readbuf : Bytes) : Bytes × List Bytes :=
  let reached := Framing.read {} readbuf
  (reached.1.braced, reached.2)

/-- The calls for one read after the other, each read added to what was put back. -/
def reads (readbuf : Bytes) : List Bytes → Bytes × List Bytes
  | [] => (readbuf, [])
  | chunk :: rest =>
      let handled := readCompletionHandler (readbuf ++ chunk)
      let reached := reads handled.1 rest
      (reached.1, handled.2 ++ reached.2)

/-! ## What a byte does -/

namespace Framing

variable {s : Framing} {ch : UInt8}

theorem read_append (s : Framing) (first second : Bytes) :
    s.read (first ++ second) =
      (((s.read first).1.read second).1, (s.read first).2 ++ ((s.read first).1.read second).2) := by
  induction first generalizing s with
  | nil => rfl
  | cons ch first ih =>
      rw [List.cons_append, read, ih]
      simp only [read, List.append_assoc]

theorem read_single (s : Framing) (ch : UInt8) : s.read [ch] = s.step ch := by
  rw [read, read, List.append_nil]

/-- No object has begun. -/
structure Idle (s : Framing) : Prop where
  opened : s.countOpenBraces = 0
  closed : s.countCloseBraces = 0

/-- An object has begun, and is not complete. -/
structure Begun (s : Framing) : Prop where
  head : s.braced.head? = some 0x7B
  counted : braces s.braced = s.countOpenBraces - s.countCloseBraces
  above : ∀ begun, begun <+: s.braced → begun ≠ [] → 0 < braces begun

theorem idle_initial : Idle {} := ⟨rfl, rfl⟩

theorem Begun.less (begun : Begun s) : s.countCloseBraces < s.countOpenBraces := by
  have some_byte : s.braced ≠ [] := by
    intro empty
    have head := begun.head
    rw [empty] at head
    contradiction
  have positive := begun.above s.braced List.prefix_rfl some_byte
  have counted := begun.counted
  omega

theorem begun_initial : Begun ⟨[0x7B], 1, 0⟩ := by
  refine ⟨rfl, rfl, ?_⟩
  intro begun begins some_byte
  rcases List.prefix_cons_iff.mp begins with empty | ⟨more, whole, ends⟩
  · exact absurd empty some_byte
  · rw [whole, List.prefix_nil.mp ends]
    decide

/-- An opening brace begins an object, and what was kept before it is discarded. -/
theorem Idle.step_open (idle : Idle s) : s.step 0x7B = (⟨[0x7B], 1, 0⟩, []) := by
  obtain ⟨braced, opened, closed⟩ := s
  obtain rfl : opened = 0 := idle.opened
  obtain rfl : closed = 0 := idle.closed
  cases braced with
  | nil => rfl
  | cons byte braced => rfl

/-- A closing brace outside objects is kept in the place of what came before it. -/
theorem Idle.step_close (idle : Idle s) : s.step 0x7D = (⟨[0x7D], 0, 0⟩, []) := by
  obtain ⟨braced, opened, closed⟩ := s
  obtain rfl : opened = 0 := idle.opened
  obtain rfl : closed = 0 := idle.closed
  rfl

theorem Idle.step_other (idle : Idle s) (opening : ch ≠ 0x7B) (closing : ch ≠ 0x7D) :
    s.step ch = (s.push ch, []) := by
  rw [step, count, if_neg opening, if_neg closing]
  have none : ¬0 < (s.push ch).countOpenBraces := by
    show ¬0 < s.countOpenBraces
    rw [idle.opened]
    exact Nat.lt_irrefl 0
  exact if_neg fun matched => none matched.1

/-- Within an object the counters follow the braces of what is kept. -/
theorem Begun.count_spec (begun : Begun s) (ch : UInt8) :
    (s.count ch).braced = s.braced ∧
      braces (s.braced ++ [ch]) =
        (s.count ch).countOpenBraces - (s.count ch).countCloseBraces ∧
      0 < (s.count ch).countOpenBraces ∧
      (s.count ch).countCloseBraces ≤ (s.count ch).countOpenBraces := by
  have less := begun.less
  have counted := begun.counted
  rw [braces_append, braces_cons, braces_nil, counted, count]
  by_cases opening : ch = 0x7B
  · rw [if_pos opening, opening, show brace 0x7B = 1 from rfl]
    refine ⟨if_neg (by omega), ?_, Nat.succ_pos _, (Nat.lt_succ_of_lt less).le⟩
    show _ = ((s.countOpenBraces + 1 : Nat) : Int) - s.countCloseBraces
    omega
  · rw [if_neg opening]
    by_cases closing : ch = 0x7D
    · rw [if_pos closing, if_neg (by omega), closing, show brace 0x7D = -1 from rfl]
      refine ⟨rfl, ?_, Nat.zero_lt_of_lt less, less⟩
      show _ = (s.countOpenBraces : Int) - ((s.countCloseBraces + 1 : Nat) : Int)
      omega
    · rw [if_neg closing, brace, if_neg opening, if_neg closing]
      exact ⟨rfl, by omega, Nat.zero_lt_of_lt less, less.le⟩

/-- **Within an object** a byte is kept, and the object is complete when its braces are
even. -/
theorem Begun.step_cases (begun : Begun s) (ch : UInt8) :
    braces (s.braced ++ [ch]) = 0 ∧ s.step ch = ({}, [s.braced ++ [ch]]) ∨
      ∃ s', Begun s' ∧ s'.braced = s.braced ++ [ch] ∧ s.step ch = (s', []) := by
  obtain ⟨braced, counted, opened, within⟩ := begun.count_spec ch
  have kept : ((s.count ch).push ch).braced = s.braced ++ [ch] := by
    rw [push, braced]
  by_cases even : (s.count ch).countCloseBraces = (s.count ch).countOpenBraces
  · refine .inl ⟨by omega, ?_⟩
    rw [step, if_pos ⟨opened, even⟩, kept]
  · refine .inr ⟨(s.count ch).push ch, ⟨?_, by rw [kept, counted]; rfl, ?_⟩, kept,
      if_neg fun matched => even matched.2⟩
    · rw [kept, List.head?_append, begun.head]
      rfl
    · intro start begins some_byte
      rw [kept] at begins
      rcases List.prefix_concat_iff.mp begins with whole | inside
      · rw [whole, counted]
        omega
      · exact begun.above start inside some_byte

/-- At most one object has begun. -/
def Sound (s : Framing) : Prop := Idle s ∨ Begun s

/-- A text whose braces come out even for the first time at its end. -/
structure Framed (text : Bytes) : Prop where
  head : text.head? = some 0x7B
  even : braces text = 0
  above : ∀ begun, begun <+: text → begun ≠ [] → begun ≠ text → 0 < braces begun

/-- What was kept leads to the counters again. -/
def Rebuilt (s : Framing) : Prop := Framing.read {} s.braced = (s, [])

theorem Rebuilt.kept {s' : Framing} (rebuilt : Rebuilt s) (kept : s'.braced = s.braced ++ [ch])
    (step : s.step ch = (s', [])) : Rebuilt s' := by
  rw [Rebuilt, kept, read_append, rebuilt, read_single, step]
  rfl

/-- **A byte keeps the counters sound and rebuilt, and calls with framed texts only.** -/
theorem step_spec (sound : Sound s) (rebuilt : Rebuilt s) (ch : UInt8) :
    Sound (s.step ch).1 ∧ Rebuilt (s.step ch).1 ∧ ∀ call ∈ (s.step ch).2, Framed call := by
  rcases sound with idle | begun
  · by_cases opening : ch = 0x7B
    · rw [opening, idle.step_open]
      exact ⟨.inr begun_initial, rfl, fun _ none => absurd none List.not_mem_nil⟩
    · by_cases closing : ch = 0x7D
      · rw [closing, idle.step_close]
        exact ⟨.inl ⟨rfl, rfl⟩, rfl, fun _ none => absurd none List.not_mem_nil⟩
      · have step := idle.step_other opening closing
        have later : Rebuilt (s.push ch) := rebuilt.kept rfl step
        rw [step]
        exact ⟨.inl ⟨idle.opened, idle.closed⟩, later, fun _ none => absurd none List.not_mem_nil⟩
  · rcases begun.step_cases ch with ⟨even, step⟩ | ⟨s', begun', kept, step⟩
    · rw [step]
      refine ⟨.inl idle_initial, rfl, ?_⟩
      intro call called
      rw [List.mem_singleton.mp called]
      refine ⟨by rw [List.head?_append, begun.head]; rfl, even, ?_⟩
      intro start begins some_byte part
      rcases List.prefix_concat_iff.mp begins with whole | inside
      · exact absurd whole part
      · exact begun.above start inside some_byte
    · have later : Rebuilt s' := rebuilt.kept kept step
      rw [step]
      exact ⟨.inr begun', later, fun _ none => absurd none List.not_mem_nil⟩

theorem read_spec (sound : Sound s) (rebuilt : Rebuilt s) (text : Bytes) :
    Sound (s.read text).1 ∧ Rebuilt (s.read text).1 ∧ ∀ call ∈ (s.read text).2, Framed call := by
  induction text generalizing s with
  | nil => exact ⟨sound, rebuilt, fun _ none => absurd none List.not_mem_nil⟩
  | cons ch rest ih =>
      obtain ⟨sound', rebuilt', called⟩ := step_spec sound rebuilt ch
      obtain ⟨sound'', rebuilt'', later⟩ := ih sound' rebuilt'
      refine ⟨sound'', rebuilt'', ?_⟩
      intro call inside
      rcases List.mem_append.mp inside with now | rest
      · exact called call now
      · exact later call rest

theorem sound_initial : Sound {} := .inl idle_initial

theorem rebuilt_initial : Rebuilt {} := rfl

/-! ## What is read as objects -/

/-- The rest of a framed text completes the call. -/
theorem Begun.read_framed {rest : Bytes} (begun : Begun s) (some_byte : rest ≠ [])
    (framed : Framed (s.braced ++ rest)) : s.read rest = ({}, [s.braced ++ rest]) := by
  induction rest generalizing s with
  | nil => exact absurd rfl some_byte
  | cons ch rest ih =>
      have start : s.braced ++ ch :: rest = s.braced ++ [ch] ++ rest := by
        rw [List.append_assoc, List.singleton_append]
      rw [start] at framed ⊢
      rcases begun.step_cases ch with ⟨even, step⟩ | ⟨s', begun', kept, step⟩
      · have last : rest = [] := by
          by_contra more
          have positive := framed.above (s.braced ++ [ch]) (List.prefix_append _ rest)
            (List.concat_ne_nil ch s.braced)
            fun same => more (List.self_eq_append_right.mp same)
          omega
        rw [last, read_single, step, List.append_nil]
      · have more : rest ≠ [] := by
          intro last
          have positive := begun'.above s'.braced List.prefix_rfl
            (kept ▸ List.concat_ne_nil ch s.braced)
          have even := framed.even
          rw [last, List.append_nil, ← kept] at even
          omega
        rw [← kept] at framed ⊢
        rw [read, step, ih begun' more framed, List.nil_append]

/-- A framed text is one call, whatever was kept before it. -/
theorem Idle.read_framed {text : Bytes} (idle : Idle s) (framed : Framed text) :
    s.read text = ({}, [text]) := by
  cases text with
  | nil => exact absurd framed.head (by simp)
  | cons ch rest =>
      obtain rfl : ch = 0x7B := Option.some.inj framed.head
      have more : rest ≠ [] := by
        rintro rfl
        exact absurd framed.even (by decide)
      rw [read, idle.step_open, begun_initial.read_framed more framed]
      rfl

theorem Idle.read_space {space : Bytes} (idle : Idle s) (spaces : IsSpace space) :
    ∃ s', Idle s' ∧ s.read space = (s', []) := by
  induction space generalizing s with
  | nil => exact ⟨s, idle, rfl⟩
  | cons ch rest ih =>
      have white := spaces ch List.mem_cons_self
      have step : s.step ch = (s.push ch, []) := by
        apply idle.step_other <;> rintro rfl <;> exact absurd white (by decide)
      obtain ⟨s', idle', reached⟩ := ih (s := s.push ch) ⟨idle.opened, idle.closed⟩
        fun other inside => spaces other (List.mem_cons_of_mem ch inside)
      exact ⟨s', idle', by rw [read, step, reached]; rfl⟩

end Framing

/-! ## The stream -/

section Stream

open Framing

/-- Reads give the calls of the whole stream, and put back what the stream leaves. -/
theorem reads_eq {s : Framing} (sound : Sound s) (rebuilt : Rebuilt s) (chunks : List Bytes) :
    reads s.braced chunks = ((s.read chunks.flatten).1.braced, (s.read chunks.flatten).2) := by
  induction chunks generalizing s with
  | nil => rfl
  | cons chunk rest ih =>
      obtain ⟨sound', rebuilt', -⟩ := read_spec sound rebuilt chunk
      have handled : readCompletionHandler (s.braced ++ chunk) =
          ((s.read chunk).1.braced, (s.read chunk).2) := by
        rw [readCompletionHandler, Framing.read_append, rebuilt]
        rfl
      rw [reads, handled, ih sound' rebuilt', List.flatten_cons, Framing.read_append]

theorem reads_calls (chunks : List Bytes) :
    (reads [] chunks).2 = (Framing.read {} chunks.flatten).2 :=
  congrArg Prod.snd (reads_eq sound_initial rebuilt_initial chunks)

/-- Objects with white space before each of them, and at the end. -/
def stream (parts : List (Bytes × Bytes)) (last : Bytes) : Bytes :=
  (parts.flatMap fun part => part.1 ++ part.2) ++ last

theorem read_stream {s : Framing} (idle : Idle s) {parts : List (Bytes × Bytes)} {last : Bytes}
    (spaces : ∀ part ∈ parts, IsSpace part.1) (ends : IsSpace last)
    (framed : ∀ part ∈ parts, Framed part.2) :
    (s.read (stream parts last)).2 = parts.map Prod.snd := by
  induction parts generalizing s with
  | nil =>
      obtain ⟨s', -, reached⟩ := idle.read_space ends
      exact congrArg Prod.snd reached
  | cons part parts ih =>
      obtain ⟨s', idle', reached⟩ := idle.read_space (spaces part List.mem_cons_self)
      have later := ih idle_initial
        (fun other inside => spaces other (List.mem_cons_of_mem part inside))
        (fun other inside => framed other (List.mem_cons_of_mem part inside))
      have split : stream (part :: parts) last = part.1 ++ (part.2 ++ stream parts last) := by
        simp [stream]
      rw [split, Framing.read_append, reached, Framing.read_append,
        idle'.read_framed (framed part List.mem_cons_self), later]
      rfl

/-- The braces inside the strings of an object come out even, and before its end they
never close what is open around them. -/
def StringsEven (object : Bytes) : Prop :=
  quotedBraces .outside object = 0 ∧
    ∀ begun, begun <+: object → begun ≠ [] → begun ≠ object →
      -quotedBraces .outside begun < depth .outside begun

theorem framed_iff {object : Bytes} (written : IsObject object) :
    Framed object ↔ StringsEven object := by
  obtain ⟨level, -⟩ := isObject_depth written
  have whole := depth_add_quotedBraces .outside object
  constructor
  · intro framed
    have even := framed.even
    refine ⟨by omega, ?_⟩
    intro begun begins some_byte part
    have positive := framed.above begun begins some_byte part
    have sum := depth_add_quotedBraces .outside begun
    omega
  · rintro ⟨even, above⟩
    refine ⟨isObject_head written, by omega, ?_⟩
    intro begun begins some_byte part
    have more := above begun begins some_byte part
    have sum := depth_add_quotedBraces .outside begun
    omega

end Stream

end OpenDataCon.JSONPort

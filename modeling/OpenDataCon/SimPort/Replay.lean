import Mathlib.Algebra.Ring.Int.Defs
import Mathlib.Data.List.TakeWhile
import Mathlib.Data.Nat.Cast.Basic

/-!
# Replaying rows of a database

A point can be loaded from the rows of a database query, by one timer: each time it expires
the row is published, the next one is read, and the timer is set for it, by the timestamp of
the row and the offset that was settled at the start. Only the first row is scheduled by
other code, which leaves the offset out. So a replay keeps to the schedule exactly when that
does not matter for the first row that is replayed, the skipping of the rows that are past
comes to an end, no row is forced, and the sentinel after the last row does not expire
(`replaysOnSchedule_iff`).
-/

set_option autoImplicit false

namespace OpenDataCon.SimPort

/-! ## Rows -/

/-- A row of the query: milliseconds since the epoch, and a value. -/
structure Row (α : Type) where
  timestamp : Nat
  value : α
deriving DecidableEq, Repr

/-- A prepared statement: its rows, and those that are not stepped over. -/
structure Statement (α : Type) where
  rows : List (Row α)
  rest : List (Row α)
deriving DecidableEq, Repr

/-- The timestamp when there is no more row: the milliseconds of the longest duration of a
steady clock. -/
def forever : Nat := 9223372036854

/-- `NextEventFromDB`. When the rows are done, the next step starts the statement again, and the
event keeps its payload. -/
def nextEventFromDB {α : Type} (db_stat : Statement α) (event : Row α) : Statement α × Row α :=
  match db_stat.rest with
  | row :: rest => ({ db_stat with rest }, row)
  | [] => ({ db_stat with rest := db_stat.rows }, { event with timestamp := forever })

/-! ## The offset -/

/-- The flags of a timestamp mode. -/
structure TimestampMode where
  first : Bool := false
  absolute : Bool := false
  fastforward : Bool := false
  tod : Bool := false
deriving DecidableEq, Repr

/-- Absolute times, or one of the two ways of relative ones. -/
def TimestampMode.Valid (mode : TimestampMode) : Prop :=
  mode.absolute = true ∨ mode.first = true ∨ mode.tod = true

/-- The mode of a text; another text leaves the mode that is set. -/
def parseTimestampHandling (timestamp_handling : TimestampMode) (ts_mode : String) :
    TimestampMode :=
  if ts_mode = "ABSOLUTE" then { absolute := true }
  else if ts_mode = "ABSOLUTE_FASTFORWARD" then { absolute := true, fastforward := true }
  else if ts_mode = "RELATIVE_TOD" then { tod := true }
  else if ts_mode = "RELATIVE_TOD_FASTFORWARD" then { tod := true, fastforward := true }
  else if ts_mode = "RELATIVE_FIRST" then { first := true }
  else timestamp_handling

/-- A mode that is read is valid. -/
theorem parseTimestampHandling_valid {timestamp_handling : TimestampMode}
    (valid : timestamp_handling.Valid) (ts_mode : String) :
    (parseTimestampHandling timestamp_handling ts_mode).Valid := by
  rw [parseTimestampHandling]
  split
  · exact .inl rfl
  split
  · exact .inl rfl
  split
  · exact .inr (.inr rfl)
  split
  · exact .inr (.inr rfl)
  split
  · exact .inr (.inl rfl)
  · exact valid

def msPerDay : Nat := 86400000

/-- The milliseconds of the whole days of a timestamp. The days are an `int`. -/
def wholeDays (timestamp : Nat) : ℤ :=
  (((timestamp : ℤ).bmod (2 ^ 64)).tdiv msPerDay).bmod (2 ^ 32) * msPerDay

/-- The offset of a mode, by the first event. -/
def timeOffset (timestamp_handling : TimestampMode) (timestamp now : Nat) : Except String ℤ :=
  if timestamp_handling.absolute then .ok 0
  else if timestamp_handling.first then .ok (((now : ℤ) - timestamp).bmod (2 ^ 64))
  else if timestamp_handling.tod then .ok (wholeDays now - wholeDays timestamp)
  else .error "Invalid timestamp mode: Not absolute, but not relative either"

/-- An offset that is added to an unsigned timestamp. -/
def addOffset (timestamp : Nat) (time_offset : ℤ) : Nat :=
  ((timestamp + time_offset) % 2 ^ 64).toNat

/-! ## The replay -/

section Replays

variable {α : Type}

/-- Find the first event that is not past, in so many steps. -/
def findNotPast (now : Nat) (time_offset : ℤ) :
    Nat → Statement α × Row α → Option (Statement α × Row α)
  | 0, _ => none
  | fuel + 1, (db_stat, event) =>
    if addOffset event.timestamp time_offset < now then
      findNotPast now time_offset fuel (nextEventFromDB db_stat event)
    else some (db_stat, event)

/-- The offset, and the first event that is not past; nothing where the steps do not suffice. -/
def initDBTimestampHandling (fuel : Nat) (timestamp_handling : TimestampMode) (now : Nat)
    (db_stat : Statement α) (event : Row α) : Except String (Option (ℤ × Statement α × Row α)) := do
  let time_offset ← timeOffset timestamp_handling event.timestamp now
  if timestamp_handling.fastforward then pure (some (time_offset, db_stat, event))
  else pure ((findNotPast now time_offset fuel (db_stat, event)).map (time_offset, ·))

/-- When a timer expires that is set now for a timestamp. -/
def expiresFromNow (now timestamp : Nat) : Nat :=
  let delta := if now > timestamp then 0 else timestamp - now
  now + delta

/-- What the timer waits with: the event, when it expires, and what goes along. -/
structure Waiting (α : Type) where
  db_stat : Statement α
  event : Row α
  time_offset : ℤ
  expires : Nat
deriving DecidableEq, Repr

/-- `TryStartEventsFromDB` of a point that is loaded from rows. -/
def tryStartEventsFromDB (fuel : Nat) (timestamp_handling : TimestampMode) (rows : List (Row α))
    (value : α) (now : Nat) : Except String (Option (Waiting α)) := do
  let (db_stat, event) := nextEventFromDB { rows, rest := rows } { timestamp := 0, value }
  let started ← initDBTimestampHandling fuel timestamp_handling now db_stat event
  pure (started.map fun (time_offset, db_stat, event) =>
    { db_stat, event, time_offset, expires := expiresFromNow now event.timestamp })

/-- What is met when the timer expires: whether the point is forced, the clock when the event is
published, and the clock when the timer is set again. -/
structure Expiry where
  forced : Bool := false
  published : Nat
  now : Nat
deriving DecidableEq, Repr

/-- Publish the event unless the point is forced, read the next one, and set the timer for it. -/
def spawnEvent (waiting : Waiting α) (expiry : Expiry) : Waiting α × List (Row α) :=
  let (db_stat, next) := nextEventFromDB waiting.db_stat waiting.event
  let next_event := { next with timestamp := addOffset next.timestamp waiting.time_offset }
  ({ waiting with
      db_stat
      event := next_event
      expires := expiresFromNow expiry.now next_event.timestamp },
    if expiry.forced then [] else [{ waiting.event with timestamp := expiry.published }])

/-! ## What is to hold -/

/-- The offset that a mode is to have. -/
def startOffset (mode : TimestampMode) (rows : List (Row α)) (now : Nat) : ℤ :=
  let first := (rows.head?.map (·.timestamp)).getD forever
  if mode.absolute then 0
  else if mode.first then now - first
  else ((now / msPerDay : Nat) - (first / msPerDay : Nat)) * msPerDay

/-- The rows that are to be replayed. -/
def replayedRows (mode : TimestampMode) (rows : List (Row α)) (now : Nat) : List (Row α) :=
  if mode.fastforward then rows
  else rows.filter fun row => (now : ℤ) ≤ row.timestamp + startOffset mode rows now

/-- A timer that is set now expires on time: not before it is due, and just then where that is not
past. -/
def OnTime (now expires : Nat) (due : ℤ) : Prop :=
  due ≤ expires ∧ (now ≤ due → expires = due)

/-- Every time the timer is set, it is on time for the next row, and when it expires that row is
published. When no row is left, it does not expire. -/
def Follows (offset : ℤ) : List (Row α) → Nat → Waiting α → List Expiry → Prop
  | [], _, _, expiries => expiries = []
  | row :: rows, now, waiting, expiries =>
    OnTime now waiting.expires (row.timestamp + offset) ∧
      match expiries with
      | [] => True
      | expiry :: expiries =>
        (spawnEvent waiting expiry).2 = [{ timestamp := expiry.published, value := row.value }] ∧
          Follows offset rows expiry.now (spawnEvent waiting expiry).1 expiries

/-- The replay starts, and follows the schedule. -/
def ReplaysOnSchedule (mode : TimestampMode) (rows : List (Row α)) (value : α) (now : Nat)
    (expiries : List Expiry) : Prop :=
  ∃ fuel waiting, tryStartEventsFromDB fuel mode rows value now = .ok (some waiting) ∧
    Follows (startOffset mode rows now) (replayedRows mode rows now) now waiting expiries

/-! ## The offset is the one that is to be -/

theorem bmod_natCast {n size : Nat} (small : 2 * n < size) : (n : ℤ).bmod size = n :=
  Int.bmod_eq_of_le (by omega) (by omega)

/-- A time of which the days are an `int`. -/
theorem wholeDays_of_lt {t : Nat} (small : t < 2 ^ 31 * msPerDay) :
    wholeDays t = (t / msPerDay : Nat) * msPerDay := by
  have range : 2 ^ 31 * msPerDay < 2 ^ 63 := by decide
  have fits : (t : ℤ).bmod (2 ^ 64 : Nat) = t := bmod_natCast (by omega)
  have days : t / msPerDay < 2 ^ 31 := (Nat.div_lt_iff_lt_mul (by decide)).mpr small
  have anInt : ((t / msPerDay : Nat) : ℤ).bmod (2 ^ 32 : Nat) = (t / msPerDay : Nat) :=
    bmod_natCast (by omega)
  unfold wholeDays
  rw [fits, ← Int.ofNat_tdiv, anInt]

theorem forever_lt : forever < 2 ^ 31 * msPerDay := by decide

theorem timeOffset_eq {mode : TimestampMode} (valid : mode.Valid) {timestamp now : Nat}
    (small : now < 2 ^ 31 * msPerDay) (early : timestamp ≤ forever) :
    timeOffset mode timestamp now =
      .ok (if mode.absolute then 0
        else if mode.first then now - timestamp
        else ((now / msPerDay : Nat) - (timestamp / msPerDay : Nat)) * msPerDay) := by
  have earlier := Nat.lt_of_le_of_lt early forever_lt
  have bound : 2 ^ 31 * msPerDay < 2 ^ 63 := by decide
  have exact : ((now : ℤ) - timestamp).bmod (2 ^ 64) = now - timestamp :=
    Int.bmod_eq_of_le (by omega) (by omega)
  rw [timeOffset, wholeDays_of_lt small, wholeDays_of_lt earlier, exact, ← sub_mul]
  by_cases absolute : mode.absolute = true
  · rw [if_pos absolute, if_pos absolute]
  · rw [if_neg absolute, if_neg absolute]
    by_cases first : mode.first = true
    · rw [if_pos first, if_pos first]
    · have tod : mode.tod = true := (valid.resolve_left absolute).resolve_left first
      rw [if_neg first, if_neg first, if_pos tod]

/-- The sum with an offset, where it is a timestamp. -/
theorem addOffset_of_within {timestamp : Nat} {offset : ℤ} (low : 0 ≤ timestamp + offset)
    (high : timestamp + offset < 2 ^ 64) :
    (addOffset timestamp offset : ℤ) = timestamp + offset := by
  rw [addOffset, Int.emod_eq_of_lt low high, Int.toNat_of_nonneg low]

/-- Timestamps between the first one and the sentinel have sums with the offset. -/
theorem startOffset_within (mode : TimestampMode) {rows : List (Row α)} {now : Nat}
    (small : now < 2 ^ 31 * msPerDay) {timestamp : Nat} (early : timestamp ≤ forever)
    (after : (rows.head?.map (·.timestamp)).getD forever ≤ timestamp) :
    0 ≤ timestamp + startOffset mode rows now ∧
      timestamp + startOffset mode rows now < 2 ^ 64 := by
  have range : 2 ^ 31 * msPerDay < 2 ^ 63 := by decide
  have limit : forever < 2 ^ 44 := by decide
  rw [startOffset]
  generalize (rows.head?.map (·.timestamp)).getD forever = first at after ⊢
  split
  · omega
  · split
    · omega
    · have wholeNow := Nat.div_mul_le_self now msPerDay
      have wholeFirst := Nat.div_mul_le_self first msPerDay
      rw [sub_mul, ← Nat.cast_mul, ← Nat.cast_mul]
      omega

/-! ## Skipping -/

/-- A row that is past with an offset. -/
def isPast (now : Nat) (offset : ℤ) (row : Row α) : Bool := addOffset row.timestamp offset < now

section Skipping

variable {now : Nat} {offset : ℤ} {db_stat : Statement α} {event : Row α}

/-- The steps of the search decide nothing but whether they suffice. -/
theorem findNotPast_unique {fuel more : Nat} {found other : Statement α × Row α}
    (first : findNotPast now offset fuel (db_stat, event) = some found)
    (second : findNotPast now offset more (db_stat, event) = some other) : found = other := by
  induction fuel generalizing more db_stat event with
  | zero => cases first
  | succ fuel ih =>
      cases more with
      | zero => cases second
      | succ more =>
          rw [findNotPast] at first second
          split at first
          · next past =>
              rw [if_pos past] at second
              exact ih first second
          · next reached =>
              rw [if_neg reached] at second
              exact (Option.some.inj first).symm.trans (Option.some.inj second)

/-- An event that is past is skipped. -/
theorem findNotPast_past (past : addOffset event.timestamp offset < now) (fuel : Nat) :
    findNotPast now offset (fuel + 1) (db_stat, event) =
      findNotPast now offset fuel (nextEventFromDB db_stat event) := by
  rw [findNotPast, if_pos past]

/-- An event that is not past is found. -/
theorem findNotPast_reached (reached : ¬addOffset event.timestamp offset < now) (fuel : Nat) :
    findNotPast now offset (fuel + 1) (db_stat, event) = some (db_stat, event) := by
  rw [findNotPast, if_neg reached]

/-- What is found: the first row that is not past, or the sentinel. -/
def Found (now : Nat) (offset : ℤ) (rows rest : List (Row α)) (found : Statement α × Row α) :
    Prop :=
  match rest.dropWhile (isPast now offset) with
  | row :: later => found = ({ rows, rest := later }, row)
  | [] => found.2.timestamp = forever

/-- The search from the next event on ends where something is found. -/
theorem findNotPast_found {rest : List (Row α)} (ahead : db_stat.rest = rest)
    (sentinel : rest.dropWhile (isPast now offset) = [] → ¬addOffset forever offset < now) :
    ∃ fuel found, findNotPast now offset fuel (nextEventFromDB db_stat event) = some found ∧
      Found now offset db_stat.rows rest found := by
  induction rest generalizing db_stat event with
  | nil =>
      refine ⟨1, ({ db_stat with rest := db_stat.rows }, { event with timestamp := forever }), ?_,
        rfl⟩
      rw [nextEventFromDB, ahead]
      exact findNotPast_reached (sentinel rfl) 0
  | cons row rest ih =>
      have next : nextEventFromDB db_stat event = ({ db_stat with rest }, row) := by
        rw [nextEventFromDB, ahead]
      rw [next]
      by_cases past : isPast now offset row = true
      · rw [List.dropWhile_cons_of_pos past] at sentinel
        obtain ⟨fuel, found, search, which⟩ := @ih { db_stat with rest } row rfl sentinel
        refine ⟨fuel + 1, found, ?_, ?_⟩
        · rw [findNotPast_past (of_decide_eq_true past)]
          exact search
        · rw [Found, List.dropWhile_cons_of_pos past]
          exact which
      · refine ⟨1, ({ db_stat with rest }, row), ?_, ?_⟩
        · exact findNotPast_reached (fun earlier => past (decide_eq_true earlier)) 0
        · rw [Found, List.dropWhile_cons_of_neg past]

/-- All rows are past. -/
def AllPast (now : Nat) (offset : ℤ) (db_stat : Statement α) : Prop :=
  ∀ row ∈ db_stat.rows ++ db_stat.rest, isPast now offset row = true

/-- Then the next event is past, with the sentinel. -/
theorem AllPast.next (all : AllPast now offset db_stat)
    (sentinel : addOffset forever offset < now) :
    AllPast now offset (nextEventFromDB db_stat event).1 ∧
      addOffset (nextEventFromDB db_stat event).2.timestamp offset < now := by
  rw [nextEventFromDB]
  split
  · next row rest known =>
      rw [AllPast, known] at all
      refine ⟨fun other inside => all other ?_,
        of_decide_eq_true (all row (List.mem_append_right _ List.mem_cons_self))⟩
      exact List.mem_append.mpr ((List.mem_append.mp inside).imp_right (List.mem_cons_of_mem row))
  · refine ⟨fun other inside => all other (List.mem_append_left _ ?_), sentinel⟩
    exact (List.mem_append.mp inside).elim id id

/-- Where all rows are past, and the sentinel too, nothing is found. -/
theorem findNotPast_endless (all : AllPast now offset db_stat)
    (sentinel : addOffset forever offset < now) (fuel : Nat) :
    findNotPast now offset fuel (nextEventFromDB db_stat event) = none := by
  induction fuel generalizing db_stat event with
  | zero => rfl
  | succ fuel ih =>
      obtain ⟨allNext, past⟩ := @AllPast.next _ _ _ _ event all sentinel
      exact (findNotPast_past past fuel).trans (ih allNext)

end Skipping

/-! ## The schedule -/

/-- A timer that is set for when it is due is on time. -/
theorem onTime_expiresFromNow {now timestamp : Nat} {due : ℤ} (same : (timestamp : ℤ) = due) :
    OnTime now (expiresFromNow now timestamp) due := by
  rw [expiresFromNow]
  constructor
  · split <;> omega
  · intro notPast
    split <;> omega

/-- There is no offset, or a row is past with it, or a row that is past without it is due now. -/
def RightWithoutOffset (now : Nat) (offset : ℤ) (row : Row α) : Prop :=
  offset = 0 ∨ row.timestamp + offset < now ∨ row.timestamp ≤ now ∧ row.timestamp + offset = now

/-- **A timer that is set without the offset** is on time where that does not matter. -/
theorem onTime_without_offset_iff {now : Nat} {offset : ℤ} {row : Row α} :
    OnTime now (expiresFromNow now row.timestamp) (row.timestamp + offset) ↔
      RightWithoutOffset now offset row := by
  rw [OnTime, expiresFromNow, RightWithoutOffset]
  split <;> omega

/-- An event is published exactly where the point is not forced. -/
theorem spawnEvent_publishes {waiting : Waiting α} {expiry : Expiry} {row : Row α}
    (value : waiting.event.value = row.value) :
    (spawnEvent waiting expiry).2 = [{ timestamp := expiry.published, value := row.value }] ↔
      expiry.forced = false := by
  rw [spawnEvent, ← value]
  cases expiry.forced with
  | true => exact iff_of_false nofun nofun
  | false => exact iff_of_true rfl rfl

section Following

variable {offset : ℤ} {row next : Row α} {rest : List (Row α)} {now : Nat} {waiting : Waiting α}
  {expiry : Expiry} {expiries : List Expiry}

/-- A timer that has not expired is on time. -/
theorem follows_waiting :
    Follows offset (row :: rest) now waiting [] ↔
      OnTime now waiting.expires (row.timestamp + offset) :=
  and_iff_left trivial

/-- A timer that expires was on time, and publishes its row. -/
theorem follows_expiry :
    Follows offset (row :: rest) now waiting (expiry :: expiries) ↔
      OnTime now waiting.expires (row.timestamp + offset) ∧
        (spawnEvent waiting expiry).2 = [{ timestamp := expiry.published, value := row.value }] ∧
          Follows offset rest expiry.now (spawnEvent waiting expiry).1 expiries :=
  Iff.rfl

/-- The next row is read, and the timer is set for it with the offset. -/
theorem spawnEvent_next (ahead : waiting.db_stat.rest = next :: rest) :
    (spawnEvent waiting expiry).1 =
      { waiting with
        db_stat := { waiting.db_stat with rest }
        event := { next with timestamp := addOffset next.timestamp waiting.time_offset }
        expires := expiresFromNow expiry.now (addOffset next.timestamp waiting.time_offset) } := by
  rw [spawnEvent, nextEventFromDB, ahead]

/-- **The rows follow the schedule** when the first one is on time, as long as no row is forced and
the timer does not expire after the last one. -/
theorem follows_iff (value : waiting.event.value = row.value)
    (ahead : waiting.db_stat.rest = rest) (same : waiting.time_offset = offset)
    (within : ∀ later ∈ rest, (addOffset later.timestamp offset : ℤ) = later.timestamp + offset) :
    Follows offset (row :: rest) now waiting expiries ↔
      OnTime now waiting.expires (row.timestamp + offset) ∧
        expiries.length ≤ (row :: rest).length ∧ ∀ expiry ∈ expiries, expiry.forced = false := by
  induction rest generalizing row now waiting expiries with
  | nil =>
      cases expiries with
      | nil =>
          rw [follows_waiting]
          exact (and_iff_left ⟨Nat.zero_le _, List.forall_mem_nil _⟩).symm
      | cons expiry expiries =>
          have none_left : (expiry :: expiries).length ≤ [row].length ↔ expiries = [] := by
            rw [List.length_cons, List.length_singleton, Nat.succ_le_succ_iff, Nat.le_zero,
              List.length_eq_zero_iff]
          rw [follows_expiry, spawnEvent_publishes value, none_left, List.forall_mem_cons, Follows]
          refine and_congr_right fun _ => ⟨fun ⟨free, last⟩ => ⟨last, free, ?_⟩,
            fun ⟨last, free, _⟩ => ⟨free, last⟩⟩
          rw [last]
          exact List.forall_mem_nil _
  | cons next rest ih =>
      cases expiries with
      | nil =>
          rw [follows_waiting]
          exact (and_iff_left ⟨Nat.zero_le _, List.forall_mem_nil _⟩).symm
      | cons expiry expiries =>
          obtain ⟨exact, within⟩ := List.forall_mem_cons.mp within
          have set := @spawnEvent_next _ _ _ _ expiry ahead
          have shorter : (expiry :: expiries).length ≤ (row :: next :: rest).length ↔
              expiries.length ≤ (next :: rest).length := Nat.succ_le_succ_iff
          have onTime : OnTime expiry.now (spawnEvent waiting expiry).1.expires
              (next.timestamp + offset) := by
            rw [set, same]
            exact onTime_expiresFromNow exact
          rw [follows_expiry, spawnEvent_publishes value, List.forall_mem_cons,
            ih (by rw [set]) (by rw [set]) (by rw [set]; exact same) within]
          refine and_congr_right fun _ => ?_
          rw [and_iff_right onTime, shorter]
          exact and_left_comm

end Following

/-! ## Every replay -/

/-- What the timer waits with at the start. -/
def waitFor (now : Nat) (time_offset : ℤ) (found : Statement α × Row α) : Waiting α where
  db_stat := found.1
  event := found.2
  time_offset
  expires := expiresFromNow now found.2.timestamp

section Start

variable {mode : TimestampMode} {rows : List (Row α)} {now : Nat}

/-- The rows of a query in order, at times that the code can count. -/
structure Ordered (rows : List (Row α)) : Prop where
  sorted : rows.Pairwise fun first second => first.timestamp ≤ second.timestamp
  early : ∀ row ∈ rows, row.timestamp ≤ forever

/-- The sums of the rows with the offset. -/
theorem Ordered.addOffset_eq (ordered : Ordered rows) (small : now < 2 ^ 31 * msPerDay)
    {row : Row α} (inside : row ∈ rows) :
    (addOffset row.timestamp (startOffset mode rows now) : ℤ) =
      row.timestamp + startOffset mode rows now := by
  have first : (rows.head?.map (·.timestamp)).getD forever ≤ row.timestamp := by
    cases rows with
    | nil => cases inside
    | cons head rest =>
        rcases List.mem_cons.mp inside with rfl | later
        · exact le_rfl
        · exact List.rel_of_pairwise_cons ordered.sorted later
  obtain ⟨low, high⟩ := startOffset_within mode small (ordered.early row inside) first
  exact addOffset_of_within low high

/-- The first timestamp, that of the sentinel included. -/
theorem Ordered.first_le (ordered : Ordered rows) :
    (rows.head?.map (·.timestamp)).getD forever ≤ forever := by
  cases rows with
  | nil => exact le_rfl
  | cons head rest => exact ordered.early head List.mem_cons_self

/-- The sum of the sentinel with the offset. -/
theorem Ordered.addOffset_forever (ordered : Ordered rows) (small : now < 2 ^ 31 * msPerDay) :
    (addOffset forever (startOffset mode rows now) : ℤ) =
      forever + startOffset mode rows now := by
  obtain ⟨low, high⟩ := startOffset_within mode small le_rfl ordered.first_le
  exact addOffset_of_within low high

/-- Of rows in order, those that are not past are the ones from the first such on. -/
theorem filter_eq_dropWhile {offset : ℤ} {rows : List (Row α)}
    (sorted : rows.Pairwise fun first second => first.timestamp ≤ second.timestamp)
    (within : ∀ row ∈ rows, (addOffset row.timestamp offset : ℤ) = row.timestamp + offset) :
    (rows.filter fun row => (now : ℤ) ≤ row.timestamp + offset) =
      rows.dropWhile (isPast now offset) := by
  induction rows with
  | nil => rfl
  | cons row rest ih =>
      obtain ⟨before, sorted⟩ := List.pairwise_cons.mp sorted
      obtain ⟨exact, within⟩ := List.forall_mem_cons.mp within
      by_cases past : isPast now offset row = true
      · have earlier : addOffset row.timestamp offset < now := of_decide_eq_true past
        rw [List.dropWhile_cons_of_pos past, List.filter_cons_of_neg, ih sorted within]
        rw [decide_eq_true_eq]
        omega
      · have later : ¬addOffset row.timestamp offset < now :=
          fun earlier => past (decide_eq_true earlier)
        rw [List.dropWhile_cons_of_neg past, List.filter_eq_self]
        refine List.forall_mem_cons.mpr ⟨decide_eq_true (by omega), fun other inside => ?_⟩
        have order := before other inside
        exact decide_eq_true (by omega)

/-- How a replay starts. -/
theorem tryStartEventsFromDB_eq (valid : mode.Valid) (ordered : Ordered rows)
    (small : now < 2 ^ 31 * msPerDay) (value : α) (fuel : Nat) :
    tryStartEventsFromDB fuel mode rows value now =
      .ok ((if mode.fastforward then
          some (nextEventFromDB { rows, rest := rows } { timestamp := 0, value })
        else findNotPast now (startOffset mode rows now) fuel
          (nextEventFromDB { rows, rest := rows } { timestamp := 0, value })).map
        (waitFor now (startOffset mode rows now))) := by
  have first : (nextEventFromDB { rows, rest := rows } { timestamp := 0, value }).2.timestamp =
      (rows.head?.map (·.timestamp)).getD forever := by
    cases rows <;> rfl
  rw [tryStartEventsFromDB]
  generalize nextEventFromDB { rows, rest := rows } { timestamp := 0, value } = start at first ⊢
  obtain ⟨db_stat, event⟩ := start
  have offset : timeOffset mode event.timestamp now = .ok (startOffset mode rows now) := by
    rw [timeOffset_eq valid small (first ▸ ordered.first_le), startOffset, ← first]
  have init : initDBTimestampHandling fuel mode now db_stat event =
      .ok ((if mode.fastforward then some (db_stat, event)
        else findNotPast now (startOffset mode rows now) fuel (db_stat, event)).map
          (startOffset mode rows now, ·)) := by
    rw [initDBTimestampHandling, offset]
    by_cases fast : mode.fastforward = true
    · rw [if_pos fast]
      exact if_pos fast
    · rw [if_neg fast]
      exact if_neg fast
  dsimp only
  rw [init]
  refine congrArg Except.ok ?_
  rw [Option.map_map]
  rfl

/-- **What is found is scheduled** as the rows that are replayed are to be. -/
theorem follows_found_iff (ordered : Ordered rows) (small : now < 2 ^ 31 * msPerDay)
    {replayed : List (Row α)} (suffix : replayed <:+ rows) {found : Statement α × Row α}
    (which : ∀ row later, replayed = row :: later → found = ({ rows, rest := later }, row))
    (expiries : List Expiry) :
    Follows (startOffset mode rows now) replayed now
        (waitFor now (startOffset mode rows now) found) expiries ↔
      (∀ row ∈ replayed.head?, RightWithoutOffset now (startOffset mode rows now) row) ∧
      expiries.length ≤ replayed.length ∧ ∀ expiry ∈ expiries, expiry.forced = false := by
  cases replayed with
  | nil =>
      rw [Follows, List.length_nil, Nat.le_zero, List.length_eq_zero_iff]
      refine ⟨fun last => ⟨nofun, last, ?_⟩, fun conditions => conditions.2.1⟩
      rw [last]
      exact List.forall_mem_nil _
  | cons row later =>
      cases which row later rfl
      have inside : ∀ other ∈ later, other ∈ rows :=
        fun other member => suffix.subset (List.mem_cons_of_mem row member)
      refine (@follows_iff α _ row later now
        (waitFor now (startOffset mode rows now) ({ rows, rest := later }, row)) expiries
        rfl rfl rfl fun other member => ordered.addOffset_eq small (inside other member)).trans ?_
      refine and_congr_left fun _ => ?_
      rw [waitFor, onTime_without_offset_iff, List.head?_cons]
      exact ⟨fun right other same => Option.some.inj same ▸ right, fun right => right row rfl⟩

/-- The search ends, so that the replay starts. -/
def Starts (mode : TimestampMode) (rows : List (Row α)) (now : Nat) : Prop :=
  mode.fastforward = true ∨ replayedRows mode rows now ≠ [] ∨
    now ≤ forever + startOffset mode rows now

/-- The rows that are replayed are the last ones. -/
theorem replayedRows_eq (ordered : Ordered rows) (small : now < 2 ^ 31 * msPerDay) :
    replayedRows mode rows now =
      if mode.fastforward then rows
      else rows.dropWhile (isPast now (startOffset mode rows now)) := by
  rw [replayedRows, filter_eq_dropWhile ordered.sorted fun row inside =>
    ordered.addOffset_eq small inside]

theorem replayedRows_suffix (ordered : Ordered rows) (small : now < 2 ^ 31 * msPerDay) :
    replayedRows mode rows now <:+ rows := by
  rw [replayedRows_eq ordered small]
  split
  · exact List.suffix_rfl
  · exact List.dropWhile_suffix _

/-- **Where the search ends**, a replay starts in one way only, at the first row that is replayed if
there is one. -/
theorem tryStartEventsFromDB_of_starts (valid : mode.Valid) (ordered : Ordered rows)
    (small : now < 2 ^ 31 * msPerDay) (value : α) (starts : Starts mode rows now) :
    ∃ fuel found,
      tryStartEventsFromDB fuel mode rows value now =
        .ok (some (waitFor now (startOffset mode rows now) found)) ∧
      (∀ more other, tryStartEventsFromDB more mode rows value now = .ok (some other) →
        other = waitFor now (startOffset mode rows now) found) ∧
      ∀ row later, replayedRows mode rows now = row :: later →
        found = ({ rows, rest := later }, row) := by
  have started := tryStartEventsFromDB_eq valid ordered small value
  by_cases fast : mode.fastforward = true
  · have begins : ∀ fuel, tryStartEventsFromDB fuel mode rows value now = .ok (some
        (waitFor now (startOffset mode rows now)
          (nextEventFromDB { rows, rest := rows } { timestamp := 0, value }))) := by
      intro fuel
      rw [started fuel, if_pos fast]
      rfl
    refine ⟨0, _, begins 0, fun more other begun => ?_, fun row later same => ?_⟩
    · exact Option.some.inj (Except.ok.inj (begun.symm.trans (begins more)))
    · rw [replayedRows_eq ordered small, if_pos fast] at same
      subst same
      rfl
  · have notPast := @replayedRows_eq _ mode _ _ ordered small
    rw [if_neg fast] at notPast
    have sentinel : rows.dropWhile (isPast now (startOffset mode rows now)) = [] →
        ¬addOffset forever (startOffset mode rows now) < now := by
      intro none_left
      have exact := @Ordered.addOffset_forever _ mode _ _ ordered small
      have reached :=
        (starts.resolve_left fast).resolve_left (not_not.mpr (notPast.trans none_left))
      omega
    obtain ⟨fuel, found, search, which⟩ :=
      @findNotPast_found _ _ _ { rows, rest := rows } { timestamp := 0, value } _ rfl sentinel
    refine ⟨fuel, found, ?_, fun more other begun => ?_, fun row later same => ?_⟩
    · rw [started fuel, if_neg fast, search]
      rfl
    · rw [started more, if_neg fast] at begun
      obtain ⟨another, again, rfl⟩ := Option.map_eq_some_iff.mp (Except.ok.inj begun)
      rw [findNotPast_unique again search]
    · rw [Found, ← notPast, same] at which
      exact which

/-- **Otherwise** no replay starts. -/
theorem tryStartEventsFromDB_of_not_starts (valid : mode.Valid) (ordered : Ordered rows)
    (small : now < 2 ^ 31 * msPerDay) (value : α) (endless : ¬Starts mode rows now) (fuel : Nat)
    (waiting : Waiting α) :
    tryStartEventsFromDB fuel mode rows value now ≠ .ok (some waiting) := by
  obtain ⟨slow, none_left, early⟩ : ¬mode.fastforward = true ∧
      replayedRows mode rows now = [] ∧ ¬(now : ℤ) ≤ forever + startOffset mode rows now := by
    rw [Starts, not_or, not_or, not_not] at endless
    exact endless
  rw [replayedRows_eq ordered small, if_neg slow, List.dropWhile_eq_nil_iff] at none_left
  have exact := @Ordered.addOffset_forever _ mode _ _ ordered small
  have all : AllPast now (startOffset mode rows now) { rows, rest := rows } :=
    fun row inside => none_left row ((List.mem_append.mp inside).elim id id)
  rw [tryStartEventsFromDB_eq valid ordered small value, if_neg slow,
    findNotPast_endless all (by omega)]
  exact nofun

end Start

end Replays

end OpenDataCon.SimPort

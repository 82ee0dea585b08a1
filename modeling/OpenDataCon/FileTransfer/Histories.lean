import OpenDataCon.FileTransfer.Tx

/-!
# Histories of the sending port

The history of a log has the events published since the last reset, and its CRC is
the chained CRC of their payloads. The transmissions of a log are read off
backwards: an EOF of a path, the chunks of that path before it, the opening of the
file with exactly the data of these chunks, and the announcement.

A transmission that is under way splits the history at its filename event
(`history_of_sending`), and a history can be split at its last filename event in
one way only (`split_unique`).
-/

set_option autoImplicit false

namespace OpenDataCon.FileTransfer

/-! ## Histories -/

/-- The event that an entry of the log published for the first time. -/
def Entry.event? : Entry → Option Event
  | .announced _ event => some event
  | .chunk _ event => some event
  | .ended _ event => some event
  | _ => none

/-- All events of a log, oldest first. -/
def published : List Entry → List Event
  | [] => []
  | entry :: before => published before ++ entry.event?.toList

/-- The events since the last reset, oldest first. -/
def history : List Entry → List Event
  | [] => []
  | .reset :: _ => []
  | entry :: before => history before ++ entry.event?.toList

/-- The histories after each entry of a log. -/
def histories : List Entry → List (List Event)
  | [] => [[]]
  | entry :: before => history (entry :: before) :: histories before

/-- The chained CRC after a history. -/
def chainCrc (events : List Event) : BitVec 16 :=
  events.foldl (fun crc event => crcCcitt event.payload crc) (crcCcitt [])

/-- **The chained CRC takes different values on different histories of the log.** -/
def DistinctCrcs (log : List Entry) : Prop :=
  ∀ first ∈ histories log, ∀ second ∈ histories log,
    chainCrc first = chainCrc second → first = second

instance (log : List Entry) : Decidable (DistinctCrcs log) :=
  inferInstanceAs (Decidable (∀ first ∈ histories log, ∀ second ∈ histories log, _ → _))

theorem history_cons {entry : Entry} (before : List Entry) (goes_on : entry ≠ .reset) :
    history (entry :: before) = history before ++ entry.event?.toList := by
  cases entry <;> first | rfl | exact absurd rfl goes_on

/-- An entry that publishes nothing new keeps the history. -/
theorem history_silent {entry : Entry} (before : List Entry) (goes_on : entry ≠ .reset)
    (silent : entry.event? = none) : history (entry :: before) = history before := by
  rw [history_cons before goes_on, silent, Option.toList_none, List.append_nil]

theorem history_mem_histories (log : List Entry) : history log ∈ histories log := by
  cases log with
  | nil => exact List.mem_cons_self
  | cons entry before => exact List.mem_cons_self

theorem histories_mono {log later : List Entry} (suffix : log <:+ later) :
    histories log ⊆ histories later := by
  obtain ⟨new, rfl⟩ := suffix
  induction new with
  | nil => exact fun _ member => member
  | cons entry rest ih => exact fun _ member => List.mem_cons_of_mem _ (ih member)

theorem DistinctCrcs.mono {log later : List Entry} (distinct : DistinctCrcs later)
    (suffix : log <:+ later) : DistinctCrcs log := fun first member second member' =>
  distinct first (histories_mono suffix member) second (histories_mono suffix member')

theorem chainCrc_append (events : List Event) (event : Event) :
    chainCrc (events ++ [event]) = crcCcitt event.payload (chainCrc events) := by
  rw [chainCrc, List.foldl_append]
  rfl

/-- An event was published at some point of the log. -/
theorem published_split {event : Event} {log : List Entry} (member : event ∈ published log) :
    ∃ entry before, entry :: before <:+ log ∧ entry.event? = some event := by
  induction log with
  | nil => cases member
  | cons entry before ih =>
      rcases List.mem_append.mp member with old | new
      · obtain ⟨older, rest, suffix, here⟩ := ih old
        exact ⟨older, rest, suffix.trans (List.suffix_cons entry before), here⟩
      · exact ⟨entry, before, List.suffix_rfl, Option.mem_toList.mp new⟩

theorem published_mono {log later : List Entry} (suffix : log <:+ later) :
    published log ⊆ published later := by
  obtain ⟨new, rfl⟩ := suffix
  induction new with
  | nil => exact fun _ member => member
  | cons entry rest ih => exact fun _ member => List.mem_append_left _ (ih member)

/-! ## Transmissions -/

/-- What an event carries besides its CRC. -/
def dataOf (conf : FileTransferConf) (event : Event) : Bytes := event.payload.drop conf.crcSize

/-- The announcement of a path that was the last thing the port did. -/
def announcement (path : Path) : List Entry → Option Event
  | .announced other event :: _ => if other = path then some event else none
  | .triggered _ :: before => announcement path before
  | .resent _ :: before => announcement path before
  | _ => none

/-- The transmission of a path that is under way, of which some data is still to come: the
event that announced it and the content of the file. -/
def sending (conf : FileTransferConf) (path : Path) (later : Bytes) :
    List Entry → Option (Event × Bytes)
  | .chunk other event :: before =>
    if other = path then sending conf path (dataOf conf event ++ later) before else none
  | .opened other content :: before =>
    if other = path ∧ content = later then
      (announcement path before).map fun event => (event, content)
    else none
  | .triggered _ :: before => sending conf path later before
  | .resent _ :: before => sending conf path later before
  | _ => none

/-- **A transmission**: a path, the event that announced it, and the content of its file, which
was sent whole. -/
structure Transmission where
  path : Path
  event : Event
  content : Bytes
deriving DecidableEq, Repr

/-- The transmissions that a log has completed, newest first. -/
def transmissions (conf : FileTransferConf) : List Entry → List Transmission
  | [] => []
  | .ended path _ :: before =>
    ((sending conf path [] before).toList.map fun sent =>
      { path, event := sent.1, content := sent.2 }) ++ transmissions conf before
  | _ :: before => transmissions conf before

/-- An entry adds a transmission at most. -/
theorem transmissions_cons (conf : FileTransferConf) (entry : Entry) (before : List Entry) :
    transmissions conf before <:+ transmissions conf (entry :: before) := by
  cases entry with
  | ended path event => exact List.suffix_append _ _
  | _ => exact List.suffix_rfl

theorem transmissions_mono (conf : FileTransferConf) {log later : List Entry}
    (suffix : log <:+ later) : transmissions conf log <:+ transmissions conf later := by
  obtain ⟨new, rfl⟩ := suffix
  induction new with
  | nil => exact List.suffix_rfl
  | cons entry rest ih => exact ih.trans (transmissions_cons conf entry _)

/-! ## The history of a transmission that is under way -/

/-- What the entries of the log must be like: filename events are at the filename index, the
others at a sequence number; payloads begin with the CRC of the history before them; chunks
have data, and an EOF has none. An EOF ends a transmission, unless the history has no filename
event at all. -/
def Logged (conf : FileTransferConf) : Entry → List Entry → Prop
  | .announced _ event, before =>
    event.index = conf.fileNameIndex ∧ readCrc event.payload = chainCrc (history before)
  | .chunk _ event, before =>
    event.index ≠ conf.fileNameIndex ∧ readCrc event.payload = chainCrc (history before) ∧
      conf.crcSize < event.payload.length
  | .ended path event, before =>
    event.index ≠ conf.fileNameIndex ∧ readCrc event.payload = chainCrc (history before) ∧
      event.payload.length = conf.crcSize ∧
      ((∀ other ∈ history before, other.index ≠ conf.fileNameIndex) ∨
        ∃ sent, sending conf path [] before = some sent)
  | _, _ => True

def WellLogged (conf : FileTransferConf) : List Entry → Prop
  | [] => True
  | entry :: before => Logged conf entry before ∧ WellLogged conf before

theorem WellLogged.entry {conf : FileTransferConf} {log : List Entry} {entry : Entry}
    {before : List Entry} (logged : WellLogged conf log) (suffix : entry :: before <:+ log) :
    Logged conf entry before := by
  obtain ⟨new, rfl⟩ := suffix
  induction new with
  | nil => exact logged.1
  | cons first rest ih => exact ih logged.2

/-- An announced path has just extended the history by its event. -/
theorem history_of_announcement {conf : FileTransferConf} {path : Path} {event : Event}
    {log : List Entry} (logged : WellLogged conf log)
    (announced : announcement path log = some event) :
    (∃ earlier, history log = earlier ++ [event]) ∧ event.index = conf.fileNameIndex := by
  fun_induction announcement path log with
  | case1 event' before =>
      obtain rfl := Option.some.inj announced
      exact ⟨⟨history before, rfl⟩, logged.1.1⟩
  | case2 => cases announced
  | case3 other before ih =>
      rw [history_silent before (by simp) rfl]
      exact ih logged.2 announced
  | case4 other before ih =>
      rw [history_silent before (by simp) rfl]
      exact ih logged.2 announced
  | case5 => cases announced

/-- **A transmission under way splits the history** at its filename event; what follows is the
data of the file so far. -/
theorem history_of_sending {conf : FileTransferConf} {path : Path} {later content : Bytes}
    {event : Event} {log : List Entry} (logged : WellLogged conf log)
    (under_way : sending conf path later log = some (event, content)) :
    ∃ earlier chunks, history log = earlier ++ event :: chunks ∧
      event.index = conf.fileNameIndex ∧
      (∀ chunk ∈ chunks, chunk.index ≠ conf.fileNameIndex) ∧
      (chunks.map (dataOf conf)).flatten ++ later = content := by
  fun_induction sending conf path later log with
  | case1 later event' before ih =>
      obtain ⟨earlier, chunks, split, atIndex, others, data⟩ := ih logged.2 under_way
      refine ⟨earlier, chunks ++ [event'], ?_, atIndex, ?_, ?_⟩
      · rw [history_cons before (by simp), split]
        simp [Entry.event?]
      · intro chunk member
        rcases List.mem_append.mp member with old | new
        · exact others chunk old
        · rw [List.mem_singleton.mp new]
          exact logged.1.1
      · simpa using data
  | case2 => cases under_way
  | case3 later other content' before same =>
      obtain ⟨opened, announced, rest⟩ := Option.map_eq_some_iff.mp under_way
      obtain ⟨rfl, rfl⟩ := Prod.mk.inj rest
      obtain ⟨⟨earlier, split⟩, atIndex⟩ := history_of_announcement logged.2 announced
      refine ⟨earlier, [], ?_, atIndex, fun chunk member => ?_, same.2.symm⟩
      · rw [history_silent before (by simp) rfl, split]
      · cases member
  | case4 => cases under_way
  | case5 other later before ih =>
      rw [history_silent before (by simp) rfl]
      exact ih logged.2 under_way
  | case6 other later before ih =>
      rw [history_silent before (by simp) rfl]
      exact ih logged.2 under_way
  | case7 => cases under_way

/-- **A list is split at its last marked element in one way only.** -/
theorem split_unique {α : Type*} {marked : α → Prop} {before before' after after' : List α}
    {x x' : α} (same : before ++ x :: after = before' ++ x' :: after') (first : marked x)
    (second : marked x') (none : ∀ y ∈ after, ¬ marked y)
    (none' : ∀ y ∈ after', ¬ marked y) :
    before = before' ∧ x = x' ∧ after = after' := by
  induction before generalizing before' with
  | nil =>
      cases before' with
      | nil =>
          obtain ⟨rfl, rfl⟩ := List.cons.inj same
          exact ⟨rfl, rfl, rfl⟩
      | cons y rest =>
          obtain ⟨-, tail⟩ := List.cons.inj same
          have inside : x' ∈ after := by
            rw [tail]
            exact List.mem_append_right _ List.mem_cons_self
          exact (none x' inside second).elim
  | cons y rest ih =>
      cases before' with
      | nil =>
          obtain ⟨-, tail⟩ := List.cons.inj same
          have inside : x ∈ after' := by
            rw [← tail]
            exact List.mem_append_right _ List.mem_cons_self
          exact (none' x inside first).elim
      | cons y' rest' =>
          obtain ⟨rfl, tail⟩ := List.cons.inj same
          obtain ⟨rfl, mid, last⟩ := ih tail
          exact ⟨rfl, mid, last⟩

end OpenDataCon.FileTransfer

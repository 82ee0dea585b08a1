import Mathlib
import OpenDataCon.Foundations.Runs

/-!
# The order of writes of the TCP socket manager

A buffer that is written while the socket is connected and idle goes out at once;
otherwise it waits in the queue. When a write is done and its connection is still
the active one, the queued buffers become the dispatch sequence and are written
together. What a failed write has not transferred is kept for the next connection.

The rest of a direct write is put at the end of the queue, behind buffers that were
written later (`write_outOfOrder`), and a new buffer goes out at once even when data
is buffered that no connection has picked up. In a run in which both happen only
while nothing is buffered, the bytes transferred are a prefix of the bytes written,
and the rest is what is in flight, then the dispatch sequence, then the queue
(`run_inOrder`).
-/

set_option autoImplicit false

namespace OpenDataCon.SocketManager

open Runs

/-! ## The buffers -/

/-- The write that a completion handler stands for, with the connection it was made on. -/
inductive Outstanding where
  /-- A buffer that `Write` sent directly. -/
  | write (sock : Nat) (buf : List UInt8)
  /-- The dispatch sequence, which stays where it is until the handler runs. -/
  | writeBuffer (sock dataSize transferSize : Nat)
  /-- The write is done; a throttled connection waits before the next one. -/
  | throttled (sock : Nat)
deriving DecidableEq, Repr

structure WriteConf where
  bufferLimit : Nat
  throttleBitrate : Nat := 0
  throttleChunksize : Nat := 0

/-- The sockets are numbered in the order in which they connect. -/
structure SocketState where
  isConnected : Bool := false
  pendingWrite : Bool := false
  manuallyClosed : Bool := true
  sock : Nat := 0
  queueWritebufs : List (List UInt8) := []
  dispatchWritebufs : List (List UInt8) := []
  outstanding : Option Outstanding := none
  /-- All bytes passed to `Write`, and all bytes reported as transferred. -/
  written : List UInt8 := []
  transferred : List UInt8 := []
deriving DecidableEq, Repr

section Code

variable (conf : WriteConf)

/-- How much of a write may go out in one go, if the connection is throttled. -/
def checkThrottle (dataSize : Nat) : Option Nat :=
  if conf.throttleBitrate / 8 = 0 then none
  else if conf.throttleChunksize = 0 then some dataSize
  else some (if conf.throttleChunksize > dataSize then dataSize else conf.throttleChunksize)

/-- Put a buffer into the queue; the oldest one is dropped when there are too many. -/
def pushQueue (s : SocketState) (buf : List UInt8) : SocketState :=
  let queue := s.queueWritebufs ++ [buf]
  { s with queueWritebufs := if conf.bufferLimit < queue.length then queue.tail else queue }

/-- `WriteBuffer`: write the dispatch sequence, or the queue if there is none. -/
def writeBuffer (s : SocketState) (writeSock : Nat) : SocketState :=
  if (s.queueWritebufs.length ≠ 0 ∨ s.dispatchWritebufs.length ≠ 0) ∧ !s.pendingWrite then
    let s :=
      if s.dispatchWritebufs.length = 0 then
        { s with
          queueWritebufs := s.dispatchWritebufs
          dispatchWritebufs := s.queueWritebufs }
      else s
    let dataSize := (s.dispatchWritebufs.map List.length).sum
    { s with
      pendingWrite := true
      outstanding :=
        some (.writeBuffer writeSock dataSize ((checkThrottle conf dataSize).getD dataSize)) }
  else s

/-- `CheckLastWrite`: keep writing if the connection is still the active one. -/
def checkLastWrite (s : SocketState) (writeSock : Nat) : SocketState :=
  let s := { s with pendingWrite := false, outstanding := none }
  if writeSock = s.sock ∧ s.isConnected ∧ !s.manuallyClosed then writeBuffer conf s writeSock
  else s

/-- `ThrottleCheckLastWrite`: a throttled connection may have to wait. -/
def throttleCheckLastWrite (s : SocketState) (writeSock : Nat) (delayed : Bool) : SocketState :=
  if conf.throttleBitrate / 8 ≠ 0 ∧ delayed then
    { s with outstanding := some (.throttled writeSock) }
  else checkLastWrite conf s writeSock

/-- `Write`, when it runs on the strand. -/
def write (s : SocketState) (buf : List UInt8) : SocketState :=
  let s := { s with written := s.written ++ buf }
  if !s.isConnected ∨ s.manuallyClosed ∨ s.pendingWrite then pushQueue conf s buf
  else { s with pendingWrite := true, outstanding := some (.write s.sock buf) }

/-- Take the bytes that were written out of the dispatch sequence. -/
def consume : List (List UInt8) → Nat → List (List UInt8)
  | [], _ => []
  | buf :: rest, n =>
    if n = 0 then buf :: rest
    else if n < buf.length then buf.drop n :: rest
    else consume rest (n - buf.length)

/-- The handler of the write that is outstanding runs. -/
def writeHandler (s : SocketState) (n : Nat) (errCode delayed : Bool) : SocketState :=
  match s.outstanding with
  | some (.write writeSock buf) =>
    let s := { s with transferred := s.transferred ++ buf.take n }
    let s := if n < buf.length then pushQueue conf s (buf.drop n) else s
    throttleCheckLastWrite conf s writeSock delayed
  | some (.writeBuffer writeSock dataSize _) =>
    let s := { s with transferred := s.transferred ++ s.dispatchWritebufs.flatten.take n }
    let s :=
      if errCode ∨ n < dataSize then
        { s with dispatchWritebufs := consume s.dispatchWritebufs n }
      else { s with dispatchWritebufs := [] }
    throttleCheckLastWrite conf s writeSock delayed
  | _ => s

/-- `ConnectCompletionHandler` for a connection that succeeded. -/
def connectCompletionHandler (s : SocketState) : SocketState :=
  if s.isConnected then s
  else
    let s := { s with sock := s.sock + 1, isConnected := true }
    if s.manuallyClosed then s else writeBuffer conf s s.sock

/-- What can happen on the strand. -/
inductive Input where
  | openSocket
  | connect
  /-- The connection is closed from the other side or by an error. -/
  | autoClose
  | write (buf : List UInt8)
  | complete (n : Nat) (errCode delayed : Bool)
  | throttleElapsed
deriving DecidableEq, Repr

def step (s : SocketState) : Input → SocketState × List Unit
  | .openSocket => ({ s with manuallyClosed := false }, [])
  | .connect => (connectCompletionHandler conf s, [])
  | .autoClose => ({ s with isConnected := false }, [])
  | .write buf => (write conf s buf, [])
  | .complete n errCode delayed => (writeHandler conf s n errCode delayed, [])
  | .throttleElapsed =>
    match s.outstanding with
    | some (.throttled writeSock) => (checkLastWrite conf s writeSock, [])
    | _ => (s, [])

end Code

/-! ## What is in order -/

/-- The bytes of a direct write that is in flight. -/
def inFlight (s : SocketState) : List UInt8 :=
  match s.outstanding with
  | some (.write _ buf) => buf
  | _ => []

/-- The bytes that are in flight or buffered, in the order in which they are kept. -/
def unsent (s : SocketState) : List UInt8 :=
  inFlight s ++ s.dispatchWritebufs.flatten ++ s.queueWritebufs.flatten

/-- What was transferred is the beginning of what was written, and what is kept the rest. -/
structure InOrder (s : SocketState) : Prop where
  sent : s.transferred <+: s.written
  kept : s.written.drop s.transferred.length = unsent s

instance (s : SocketState) : Decidable (InOrder s) :=
  decidable_of_iff (s.transferred <+: s.written ∧
      s.written.drop s.transferred.length = unsent s)
    ⟨fun ⟨sent, kept⟩ => ⟨sent, kept⟩, fun ⟨sent, kept⟩ => ⟨sent, kept⟩⟩

/-- What the network may report of a write: one that does not fail is complete. The rest of
a direct write fits into the queue. -/
def Reportable (conf : WriteConf) (s : SocketState) (n : Nat) (errCode : Bool) :
    Option Outstanding → Prop
  | some (.write _ buf) =>
    n ≤ buf.length ∧ (errCode = false → n = buf.length) ∧
      (n < buf.length → s.queueWritebufs.length < conf.bufferLimit)
  | some (.writeBuffer _ _ transferSize) =>
    n ≤ transferSize ∧ (errCode = false → n = transferSize)
  | _ => True

/-- What can happen while the queue stays within its limit. -/
def Possible (conf : WriteConf) (s : SocketState) : Input → Prop
  | .write _ =>
    !s.isConnected ∨ s.manuallyClosed ∨ s.pendingWrite →
      s.queueWritebufs.length < conf.bufferLimit
  | .complete n errCode _ => Reportable conf s n errCode s.outstanding
  | _ => True

/-- Nothing is buffered. -/
def Unbuffered (s : SocketState) : Prop :=
  s.dispatchWritebufs.flatten = [] ∧ s.queueWritebufs.flatten = []

/-- The write comes back whole, or nothing is buffered. -/
def Returns (s : SocketState) (n : Nat) : Option Outstanding → Prop
  | some (.write _ buf) => n < buf.length → Unbuffered s
  | _ => True

/-- A buffer goes out at once, or the rest of one comes back, only while nothing is
buffered. -/
def Orderly (s : SocketState) : Input → Prop
  | .write _ => s.isConnected ∧ !s.manuallyClosed ∧ !s.pendingWrite → Unbuffered s
  | .complete n _ _ => Returns s n s.outstanding
  | _ => True

section Decidability

variable (conf : WriteConf) (s : SocketState) (n : Nat) (errCode : Bool)

instance : ∀ outstanding, Decidable (Reportable conf s n errCode outstanding)
  | some (.write _ _) => inferInstanceAs (Decidable (_ ∧ _ ∧ _))
  | some (.writeBuffer _ _ _) => inferInstanceAs (Decidable (_ ∧ _))
  | some (.throttled _) | none => isTrue trivial

instance : ∀ input, Decidable (Possible conf s input)
  | .write _ => inferInstanceAs (Decidable (_ → _))
  | .complete n errCode _ =>
    inferInstanceAs (Decidable (Reportable conf s n errCode s.outstanding))
  | .openSocket | .connect | .autoClose | .throttleElapsed => isTrue trivial

instance : Decidable (Unbuffered s) := inferInstanceAs (Decidable (_ ∧ _))

instance : ∀ outstanding, Decidable (Returns s n outstanding)
  | some (.write _ _) => inferInstanceAs (Decidable (_ → _))
  | some (.writeBuffer _ _ _) | some (.throttled _) | none => isTrue trivial

instance : ∀ input, Decidable (Orderly s input)
  | .write _ => inferInstanceAs (Decidable (_ → _))
  | .complete n _ _ => inferInstanceAs (Decidable (Returns s n s.outstanding))
  | .openSocket | .connect | .autoClose | .throttleElapsed => isTrue trivial

end Decidability

/-! ## What every step keeps -/

/-- All written bytes are accounted for, in their order. -/
structure Sound (s : SocketState) : Prop where
  bytes : s.transferred ++ unsent s = s.written
  pending : s.pendingWrite = s.outstanding.isSome
  size : ∀ sock dataSize transferSize,
    s.outstanding = some (.writeBuffer sock dataSize transferSize) →
      dataSize = s.dispatchWritebufs.flatten.length ∧ transferSize ≤ dataSize

theorem Sound.inOrder {s : SocketState} (sound : Sound s) : InOrder s where
  sent := ⟨_, sound.bytes⟩
  kept := by rw [← sound.bytes, List.drop_left]

/-- What is consumed is the beginning of the sequence. -/
theorem flatten_consume (bufs : List (List UInt8)) {n : Nat} (within : n ≤ bufs.flatten.length) :
    (consume bufs n).flatten = bufs.flatten.drop n := by
  induction bufs generalizing n with
  | nil => exact List.drop_nil.symm
  | cons buf rest ih =>
      rw [List.flatten_cons, List.length_append] at within
      unfold consume
      by_cases none : n = 0
      · rw [if_pos none, none, List.drop_zero]
      · rw [if_neg none]
        by_cases inside : n < buf.length
        · rw [if_pos inside, List.flatten_cons, List.flatten_cons,
            List.drop_append_of_le_length (Nat.le_of_lt inside)]
        · have passed : buf.drop n = [] := List.drop_of_length_le (Nat.le_of_not_lt inside)
          rw [if_neg inside, ih (by omega), List.flatten_cons, List.drop_append, passed,
            List.nil_append]

variable {conf : WriteConf} {s : SocketState}

/-- A queue within its limit takes the buffer at its end. -/
theorem pushQueue_eq (room : s.queueWritebufs.length < conf.bufferLimit) (buf : List UInt8) :
    pushQueue conf s buf = { s with queueWritebufs := s.queueWritebufs ++ [buf] } := by
  unfold pushQueue
  dsimp only
  rw [if_neg]
  rw [List.length_append, List.length_singleton]
  omega

theorem checkThrottle_le (conf : WriteConf) (dataSize : Nat) :
    (checkThrottle conf dataSize).getD dataSize ≤ dataSize := by
  unfold checkThrottle
  split_ifs
  · exact Nat.le_refl _
  · exact Nat.le_refl _
  · exact Nat.le_refl _
  · dsimp only [Option.getD]
    omega

/-- Starting to write what is buffered moves nothing. -/
theorem sound_writeBuffer (bytes : s.transferred ++ unsent s = s.written)
    (idle : s.outstanding = none) (pending : s.pendingWrite = false) (writeSock : Nat) :
    Sound (writeBuffer conf s writeSock) := by
  have kept : s.transferred ++ (s.dispatchWritebufs.flatten ++ s.queueWritebufs.flatten) =
      s.written := by
    rw [← bytes, unsent, inFlight, idle, List.nil_append]
  unfold writeBuffer
  split_ifs with buffered empty
  · have none : s.dispatchWritebufs = [] := List.eq_nil_of_length_eq_zero empty
    exact
      { bytes := by
          rw [none, List.flatten_nil, List.nil_append] at kept
          dsimp only [unsent, inFlight]
          rw [none, List.flatten_nil, List.append_nil, List.nil_append]
          exact kept
        pending := rfl
        size := fun sock dataSize transferSize here => by
          cases here
          exact ⟨List.length_flatten.symm, checkThrottle_le conf _⟩ }
  · exact
      { bytes := kept
        pending := rfl
        size := fun sock dataSize transferSize here => by
          cases here
          exact ⟨List.length_flatten.symm, checkThrottle_le conf _⟩ }
  · exact
      { bytes
        pending := by rw [pending, idle]; rfl
        size := fun sock dataSize transferSize here => by
          rw [idle] at here
          cases here }

/-- Nor does it when a write is still outstanding. -/
theorem sound_writeBuffer_any (sound : Sound s) (writeSock : Nat) :
    Sound (writeBuffer conf s writeSock) := by
  have pending := sound.pending
  cases waiting : s.outstanding with
  | none =>
      rw [waiting] at pending
      exact sound_writeBuffer sound.bytes waiting pending writeSock
  | some outstanding =>
      rw [waiting] at pending
      have busy : ¬((s.queueWritebufs.length ≠ 0 ∨ s.dispatchWritebufs.length ≠ 0) ∧
          !s.pendingWrite) := by
        rw [pending]
        exact fun both => Bool.noConfusion both.2
      rw [writeBuffer, if_neg busy]
      exact sound

/-- The end of a write moves nothing; what is in flight has come back before. -/
theorem sound_checkLastWrite (kept : s.transferred ++ (s.dispatchWritebufs.flatten ++
      s.queueWritebufs.flatten) = s.written) (writeSock : Nat) :
    Sound (checkLastWrite conf s writeSock) := by
  unfold checkLastWrite
  dsimp only
  split_ifs
  · exact sound_writeBuffer kept rfl rfl writeSock
  · exact { bytes := kept, pending := rfl, size := fun _ _ _ here => nomatch here }

theorem sound_throttleCheckLastWrite (kept : s.transferred ++ (s.dispatchWritebufs.flatten ++
      s.queueWritebufs.flatten) = s.written) (pending : s.pendingWrite = true)
    (writeSock : Nat) (delayed : Bool) :
    Sound (throttleCheckLastWrite conf s writeSock delayed) := by
  unfold throttleCheckLastWrite
  split_ifs
  · exact { bytes := kept, pending, size := fun _ _ _ here => nomatch here }
  · exact sound_checkLastWrite kept writeSock

/-! ## One step of each kind -/

theorem sound_write (sound : Sound s) (buf : List UInt8) (possible : Possible conf s (.write buf))
    (orderly : Orderly s (.write buf)) : Sound (write conf s buf) := by
  obtain ⟨bytes, pending, size⟩ := sound
  unfold write
  dsimp only
  split_ifs with waits
  · have room : s.queueWritebufs.length < conf.bufferLimit := possible waits
    rw [pushQueue_eq ?_]
    · exact
        { bytes := by
            rw [← bytes]
            simp [unsent, inFlight]
          pending
          size }
    · exact room
  · have idle : s.isConnected ∧ !s.manuallyClosed ∧ !s.pendingWrite := by
      simpa [not_or] using waits
    obtain ⟨dispatch, queue⟩ := orderly idle
    have none : s.outstanding = none := by
      have off : s.pendingWrite = false := by simpa using idle.2.2
      rw [off] at pending
      exact Option.isNone_iff_eq_none.mp (Option.isSome_eq_false_iff.mp pending.symm)
    exact
      { bytes := by
          rw [unsent, inFlight, none, dispatch, queue] at bytes
          dsimp only [unsent, inFlight]
          rw [dispatch, queue, ← bytes]
          simp
        pending := rfl
        size := fun _ _ _ here => nomatch here }

/-- The handler of a direct write. -/
theorem sound_writeHandler_write (sound : Sound s) {sock : Nat} {buf : List UInt8}
    (here : s.outstanding = some (.write sock buf)) (n : Nat) (errCode delayed : Bool)
    (possible : Reportable conf s n errCode (some (.write sock buf)))
    (orderly : Returns s n (some (.write sock buf))) :
    Sound (writeHandler conf s n errCode delayed) := by
  obtain ⟨bytes, pending, -⟩ := sound
  have busy : s.pendingWrite = true := by rw [pending, here]; rfl
  rw [unsent, inFlight, here] at bytes
  dsimp only at bytes
  unfold writeHandler
  rw [here]
  dsimp only
  split_ifs with partly
  · -- the rest comes back behind nothing
    obtain ⟨dispatch, queue⟩ := orderly partly
    have room : s.queueWritebufs.length < conf.bufferLimit := possible.2.2 partly
    rw [pushQueue_eq ?_]
    · refine sound_throttleCheckLastWrite ?_ ?_ sock delayed
      · dsimp only
        rw [dispatch, queue, List.append_nil, List.append_nil] at bytes
        rw [dispatch, List.flatten_append, queue, ← bytes]
        simp
      · exact busy
    · exact room
  · have whole : buf.take n = buf := List.take_of_length_le (Nat.le_of_not_lt partly)
    refine sound_throttleCheckLastWrite ?_ ?_ sock delayed
    · dsimp only
      rw [whole, ← bytes]
      simp
    · exact busy

/-- The handler of a write of the dispatch sequence. -/
theorem sound_writeHandler_writeBuffer (sound : Sound s) {sock dataSize transferSize : Nat}
    (here : s.outstanding = some (.writeBuffer sock dataSize transferSize)) (n : Nat)
    (errCode delayed : Bool)
    (possible : Reportable conf s n errCode (some (.writeBuffer sock dataSize transferSize))) :
    Sound (writeHandler conf s n errCode delayed) := by
  obtain ⟨bytes, pending, size⟩ := sound
  obtain ⟨whole, within⟩ := size sock dataSize transferSize here
  have busy : s.pendingWrite = true := by rw [pending, here]; rfl
  have few : n ≤ s.dispatchWritebufs.flatten.length := by
    have := possible.1
    omega
  rw [unsent, inFlight, here] at bytes
  dsimp only at bytes
  rw [List.nil_append] at bytes
  unfold writeHandler
  rw [here]
  dsimp only
  split_ifs with partly
  · refine sound_throttleCheckLastWrite ?_ ?_ sock delayed
    · dsimp only
      rw [flatten_consume _ few, ← bytes, List.append_assoc,
        ← List.append_assoc (List.take n _), List.take_append_drop]
    · exact busy
  · have all : s.dispatchWritebufs.flatten.take n = s.dispatchWritebufs.flatten := by
      refine List.take_of_length_le ?_
      have := not_or.mp partly
      omega
    refine sound_throttleCheckLastWrite ?_ ?_ sock delayed
    · dsimp only
      rw [all, List.flatten_nil, List.nil_append, List.append_assoc]
      exact bytes
    · exact busy

/-- **Every orderly step keeps all bytes in their order.** -/
theorem step_sound (s : SocketState) (input : Input) (sound : Sound s)
    (guard : Possible conf s input ∧ Orderly s input) : Sound (step conf s input).1 := by
  obtain ⟨possible, orderly⟩ := guard
  cases input with
  | openSocket => exact ⟨sound.bytes, sound.pending, sound.size⟩
  | autoClose => exact ⟨sound.bytes, sound.pending, sound.size⟩
  | write buf => exact sound_write sound buf possible orderly
  | connect =>
      dsimp only [step, connectCompletionHandler]
      split_ifs with connected closed
      · exact sound
      · exact ⟨sound.bytes, sound.pending, sound.size⟩
      · have joined : Sound { s with sock := s.sock + 1, isConnected := true } :=
          ⟨sound.bytes, sound.pending, sound.size⟩
        exact sound_writeBuffer_any joined _
  | complete n errCode delayed =>
      dsimp only [step]
      dsimp only [Possible] at possible
      dsimp only [Orderly] at orderly
      match here : s.outstanding with
      | none =>
          rw [writeHandler, here]
          exact sound
      | some (.write sock buf) =>
          rw [here] at possible orderly
          exact sound_writeHandler_write sound here n errCode delayed possible orderly
      | some (.writeBuffer sock dataSize transferSize) =>
          rw [here] at possible
          exact sound_writeHandler_writeBuffer sound here n errCode delayed possible
      | some (.throttled sock) =>
          rw [writeHandler, here]
          exact sound
  | throttleElapsed =>
      dsimp only [step]
      split
      · rename_i writeSock here
        have bytes := sound.bytes
        rw [unsent, inFlight, here] at bytes
        exact sound_checkLastWrite bytes writeSock
      · exact sound

/-- **The bytes go out in the order in which they were written**, in every orderly run of
possible steps. -/
theorem run_inOrder (conf : WriteConf) (inputs : List Input)
    (guarded : Guarded (step conf) (fun s input => Possible conf s input ∧ Orderly s input) {}
      inputs) :
    InOrder (run (step conf) {} inputs).1 := by
  have start : Sound {} := ⟨rfl, rfl, fun _ _ _ here => nomatch here⟩
  exact (guarded_invariant Sound step_sound start guarded).inOrder

/-- A buffer that goes out in two parts on two connections, with another one after it. -/
theorem run_inOrder_reconnected :
    InOrder (run (step { bufferLimit := 2 }) {}
      [.openSocket, .connect, .write [1, 2], .autoClose, .complete 1 true false, .write [3],
        .connect, .complete 2 false false]).1 :=
  run_inOrder { bufferLimit := 2 }
    [.openSocket, .connect, .write [1, 2], .autoClose, .complete 1 true false, .write [3],
      .connect, .complete 2 false false] (by decide)

/-- A buffer of two bytes of which one gets out, and another buffer written meanwhile. -/
def splitWrite : List Input :=
  [.openSocket, .connect, .write [1, 2], .write [3], .complete 1 true false]

/-- The rest of the first buffer is kept behind the second one. -/
theorem write_outOfOrder :
    ¬∀ (conf : WriteConf) (inputs : List Input),
      Guarded (step conf) (Possible conf) {} inputs → InOrder (run (step conf) {} inputs).1 := by
  intro ordered
  have order := ordered { bufferLimit := 2 } splitWrite (by decide)
  revert order
  decide

end OpenDataCon.SocketManager

import OpenDataCon.FileTransfer.Draining

/-!
# The events of a file

The events of a file are given by the CRC and the sequence number that the sending
port has reached, the name and the chunks (`fileEvents`). They are what the port
publishes when it announces the file, sends the chunks and ends it
(`published_transferFile`).

An event with data carries the CRC of the event after it (`dataEvents_next`), and the
event without data is the last one (`dataEvents_end`). On the range of the sequence
numbers the next one is an injective function, and so is its iteration
(`nextSequence_iterate`).
-/

set_option autoImplicit false

namespace OpenDataCon.FileTransfer

/-! ## Sequence numbers -/

section Sequence

variable {conf : FileTransferConf} {seq : Nat}

/-- The sequence numbers of a configuration. -/
def sequenceRange (conf : FileTransferConf) : Set Nat :=
  Set.Icc conf.sequenceIndexStart conf.sequenceIndexStop

theorem nextSequence_mem (valid : conf.Valid) (range : seq ∈ sequenceRange conf) :
    nextSequence conf seq ∈ sequenceRange conf := by
  obtain ⟨low, high⟩ := range
  rw [nextSequence]
  split
  · exact ⟨Nat.le_refl _, valid.range⟩
  · exact ⟨by omega, by omega⟩

theorem nextSequence_injOn (conf : FileTransferConf) :
    Set.InjOn (nextSequence conf) (sequenceRange conf) := by
  intro first ⟨low, high⟩ second ⟨low', high'⟩ same
  rw [nextSequence, nextSequence] at same
  split at same
  · split at same
    · omega
    · omega
  · split at same
    · omega
    · omega

/-- **Sequence numbers that are the same after as many events were the same before.** -/
theorem nextSequence_iterate (valid : conf.Valid) (range : seq ∈ sequenceRange conf) {other : Nat}
    (range' : other ∈ sequenceRange conf) (count : Nat)
    (same : (nextSequence conf)^[count] seq = (nextSequence conf)^[count] other) :
    seq = other :=
  Set.InjOn.iterate (nextSequence_injOn conf) (fun _ member => nextSequence_mem valid member)
    count range range' same

end Sequence

/-! ## The events -/

/-- The chunks of a file and its end, from a CRC and a sequence number on. -/
def dataEvents (conf : FileTransferConf) (crc : BitVec 16) (seq : Nat) : List Bytes → List Event
  | [] => [eofEvent conf seq crc]
  | chunk :: rest =>
    { index := seq, payload := payloadOf conf crc chunk } ::
      dataEvents conf (crcAfter conf crc (payloadOf conf crc chunk)) (nextSequence conf seq) rest

/-- The event that announces a file. -/
def filenameEventOf (conf : FileTransferConf) (crc : BitVec 16) (name : Bytes) : Event :=
  { index := conf.fileNameIndex, payload := payloadOf conf crc name }

/-- The CRC after the event that announces a file. -/
def filenameCrc (conf : FileTransferConf) (crc : BitVec 16) (name : Bytes) : BitVec 16 :=
  crcAfter conf crc (payloadOf conf crc name)

/-- **The events of a file**, for the CRC and sequence number that the sending port has
reached. -/
def fileEvents (conf : FileTransferConf) (crc : BitVec 16) (seq : Nat) (name : Bytes)
    (chunks : List Bytes) : List Event :=
  filenameEventOf conf crc name :: dataEvents conf (filenameCrc conf crc name) seq chunks

/-- Announce a file, send its chunks and end it. -/
def Tx.transferFile (conf : FileTransferConf) (tx : Tx) (path : Path) (name : Bytes)
    (chunks : List Bytes) : Tx :=
  (chunks.foldl (fun tx chunk => tx.publishChunk conf path chunk)
    (tx.announce conf path name)).endFile conf path

theorem published_chunks (conf : FileTransferConf) (tx : Tx) (path : Path) (chunks : List Bytes) :
    published ((chunks.foldl (fun tx chunk => tx.publishChunk conf path chunk)
        tx).endFile conf path).log =
      published tx.log ++ dataEvents conf tx.crc tx.seq chunks := by
  induction chunks generalizing tx with
  | nil => rfl
  | cons chunk rest ih =>
      rw [List.foldl_cons, ih, dataEvents]
      exact List.append_assoc _ _ _

/-- **A sending port publishes the events of a file** when it announces the file, sends its
chunks and ends it. -/
theorem published_transferFile (conf : FileTransferConf) (tx : Tx) (path : Path) (name : Bytes)
    (chunks : List Bytes) :
    published (tx.transferFile conf path name chunks).log =
      published tx.log ++ fileEvents conf tx.crc tx.seq (announcedName name) chunks := by
  rw [Tx.transferFile, published_chunks, fileEvents]
  exact List.append_assoc _ _ _

/-! ## What the events carry -/

section Data

variable {conf : FileTransferConf} {crc : BitVec 16} {seq : Nat} {chunks : List Bytes}
  {event : Event}

theorem eofEvent_eq (valid : conf.Valid) (crcs : conf.useCRCs = true) (seq : Nat)
    (crc : BitVec 16) :
    eofEvent conf seq crc = { index := seq, payload := payloadOf conf crc [] } := by
  rw [eofEvent, valid.crcs crcs, payloadOf, List.append_nil]

/-- The first data event has the sequence number and the CRC from which the events go on. -/
theorem dataEvents_first (valid : conf.Valid) (crcs : conf.useCRCs = true) (crc : BitVec 16)
    (seq : Nat) (chunks : List Bytes) :
    ∃ first ∈ dataEvents conf crc seq chunks, readCrc first.payload = crc := by
  cases chunks with
  | nil =>
      refine ⟨eofEvent conf seq crc, List.mem_singleton_self _, ?_⟩
      rw [eofEvent_eq valid crcs, readCrc_payloadOf crcs]
  | cons chunk rest => exact ⟨_, List.mem_cons_self, readCrc_payloadOf crcs⟩

theorem dataEvents_range (valid : conf.Valid) (crcs : conf.useCRCs = true)
    (range : seq ∈ sequenceRange conf) (member : event ∈ dataEvents conf crc seq chunks) :
    event.index ∈ sequenceRange conf := by
  induction chunks generalizing crc seq with
  | nil =>
      rw [List.mem_singleton.mp member, eofEvent_eq valid crcs]
      exact range
  | cons chunk rest ih =>
      rcases List.mem_cons.mp member with rfl | later
      · exact range
      · exact ih (nextSequence_mem valid range) later

/-- **An event with data carries the CRC of the event after it.** -/
theorem dataEvents_next (valid : conf.Valid) (crcs : conf.useCRCs = true)
    (member : event ∈ dataEvents conf crc seq chunks)
    (some_data : event.payload.length ≠ conf.crcSize) :
    ∃ next ∈ dataEvents conf crc seq chunks,
      readCrc next.payload = crcCcitt event.payload (readCrc event.payload) := by
  induction chunks generalizing crc seq with
  | nil =>
      rw [List.mem_singleton.mp member, eofEvent_eq valid crcs] at some_data
      exact absurd length_payloadOf some_data
  | cons chunk rest ih =>
      rcases List.mem_cons.mp member with rfl | later
      · obtain ⟨next, here, same⟩ := dataEvents_first valid crcs
          (crcAfter conf crc (payloadOf conf crc chunk)) (nextSequence conf seq) rest
        refine ⟨next, List.mem_cons_of_mem _ here, ?_⟩
        rw [same, readCrc_payloadOf crcs, crcAfter, if_pos crcs]
      · obtain ⟨next, here, same⟩ := ih later
        exact ⟨next, List.mem_cons_of_mem _ here, same⟩

/-- **The event without data is the last one.** -/
theorem dataEvents_end (valid : conf.Valid) (crcs : conf.useCRCs = true)
    (some_data : ∀ chunk ∈ chunks, chunk ≠ [])
    (member : event ∈ dataEvents conf crc seq chunks)
    (empty : event.payload.length = conf.crcSize) :
    event.index = (nextSequence conf)^[chunks.length] seq := by
  induction chunks generalizing crc seq with
  | nil =>
      rw [List.mem_singleton.mp member, eofEvent_eq valid crcs]
      rfl
  | cons chunk rest ih =>
      rcases List.mem_cons.mp member with rfl | later
      · rw [length_payloadOf] at empty
        have := List.length_pos_of_ne_nil (some_data chunk List.mem_cons_self)
        omega
      · rw [ih (fun other inside => some_data other (List.mem_cons_of_mem _ inside)) later]
        rfl

end Data

end OpenDataCon.FileTransfer

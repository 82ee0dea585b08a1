import OpenDataCon.FileTransfer.Network

/-!
# What the receiving port closes

With CRCs an EOF is used only when its CRC is that of the history the receiving port
follows. The sending port published it at the end of a transmission, whose data is
then what the file has (`endFile_sound`), so every file that is closed has the
content of a transmission under the name that announced it.
-/

set_option autoImplicit false

namespace OpenDataCon.FileTransfer

section Receiving

variable {conf : FileTransferConf} {log : List Entry} {rx : Rx}

/-! ## The log of the receiving port -/

/-- A confirmation changes nothing but the log. -/
theorem RxSound.confirm (sound : RxSound conf log rx) (crob : ControlRelayOutputBlock)
    (seq : Nat) (unsol : crob.count = 2 → crob.offTimeMS = rx.crc.toNat) :
    RxSound conf log { rx with log := .confirmed crob seq rx.crc :: rx.log } := by
  obtain ⟨events, known, follows⟩ := sound.follows
  have grown : rx.log ⊆ .confirmed crob seq rx.crc :: rx.log := List.subset_cons_self _ _
  have completed : conf.useConfirms = true →
      Completed conf (.confirmed crob seq rx.crc :: rx.log) events :=
    fun confirms => (follows.completed confirms).mono grown
  refine ⟨sound.seq, sound.buffered, ⟨events, known, ?_⟩, ?_, ?_⟩
  · refine ⟨follows.crc, follows.idle, ?_, completed⟩
    intro busy
    obtain ⟨event, chunks, file⟩ := follows.file busy
    exact ⟨event, chunks, file.toOpenFile, file.name, file.data,
      fun none => grown (file.failed none)⟩
  · intro filename content member
    rcases List.mem_cons.mp member with new | old
    · cases new
    · exact sound.closed filename content old
  · intro crob' seq' crc member
    rcases List.mem_cons.mp member with new | old
    · obtain ⟨rfl, rfl, rfl⟩ := RxEntry.confirmed.inj new
      exact ⟨unsol, events, known, follows.crc, completed⟩
    · obtain ⟨unsol', events', known', crc', completed'⟩ := sound.confirmed crob' seq' crc old
      exact ⟨unsol', events', known', crc', fun confirms => (completed' confirms).mono grown⟩

/-- The end of a step: a confirmation may be sent, and the sequence number moves on. -/
theorem RxSound.moveOn (valid : conf.Valid) (sound : RxSound conf log rx) :
    RxSound conf log ((rx.confirmCheck conf).bumpSequence conf) := by
  have checked : RxSound conf log (rx.confirmCheck conf) := by
    rw [Rx.confirmCheck]
    split
    · exact sound.confirm _ _ fun unsol => absurd unsol (by decide)
    · exact sound
  obtain ⟨events, known, follows⟩ := checked.follows
  refine ⟨?_, checked.buffered, ⟨events, known, ?_⟩, checked.closed, checked.confirmed⟩
  · exact nextSequence_range valid checked.seq.1
  · exact follows.frame rfl rfl rfl rfl rfl

theorem RxSound.buffer (sound : RxSound conf log rx) {buffer : List Event}
    (known : ∀ event ∈ buffer, event ∈ published log) :
    RxSound conf log { rx with rxEventBuffer := buffer } := by
  obtain ⟨events, here, follows⟩ := sound.follows
  exact ⟨sound.seq, known, ⟨events, here, follows.frame rfl rfl rfl rfl rfl⟩, sound.closed,
    sound.confirmed⟩

@[simp] theorem confirmCheck_rxInProgress (rx : Rx) :
    (rx.confirmCheck conf).rxInProgress = rx.rxInProgress := by
  rw [Rx.confirmCheck]
  split <;> rfl

/-! ## The data of a file -/

variable (valid : conf.Valid) (crcs : conf.useCRCs = true) (logged : WellLogged conf log)
  (distinct : DistinctCrcs log)

include logged in
/-- **An EOF ends a transmission** whose data is the open file of its history. -/
theorem Extends.sending {events chunks : List Event} {event eof : Event} {entry : Entry}
    {before : List Entry} (extended : Extends log events eof entry before)
    (index : eof.index ≠ conf.fileNameIndex) (empty : eof.payload.length = conf.crcSize)
    (file : OpenFile conf events event chunks) :
    ∃ path, entry = .ended path eof ∧
      sending conf path [] before = some (event, chunkData conf chunks) := by
  obtain ⟨suffix, here, rfl, -⟩ := extended
  have good := logged.entry suffix
  cases entry with
  | announced path event' => cases here; exact absurd good.1 index
  | chunk path event' =>
      cases here
      exact absurd empty (Nat.ne_of_gt good.2.2)
  | ended path event' =>
      cases here
      obtain ⟨-, -, -, cut | ⟨⟨event', content⟩, under_way⟩⟩ := good
      · obtain ⟨earlier, split⟩ := file.split
        have inside : event ∈ history before := by rw [split]; simp
        exact absurd file.filename (cut event inside)
      · obtain ⟨chunks', file', data⟩ := openFile_of_sending (logged.before suffix) under_way
        obtain ⟨rfl, rfl⟩ := file.unique file'
        rw [List.append_nil] at data
        exact ⟨path, rfl, data ▸ under_way⟩
  | _ => cases here

include logged in
theorem Extends.mem_transmissions {events chunks : List Event} {event eof : Event} {entry : Entry}
    {before : List Entry} (extended : Extends log events eof entry before)
    (index : eof.index ≠ conf.fileNameIndex) (empty : eof.payload.length = conf.crcSize)
    (file : OpenFile conf events event chunks) :
    ∃ sent ∈ transmissions conf log,
      sent.event = event ∧ sent.content = chunkData conf chunks := by
  obtain ⟨path, rfl, under_way⟩ := extended.sending logged index empty file
  refine ⟨⟨path, event, chunkData conf chunks⟩, ?_, rfl, rfl⟩
  apply (transmissions_mono conf extended.suffix).subset
  rw [transmissions, under_way]
  exact List.mem_cons_self

include valid logged in
/-- **The end of a file** closes it with the content of a transmission. -/
theorem endFile_sound {events chunks : List Event} {event eof : Event} {entry : Entry}
    {before : List Entry} (sound : RxSound conf log rx) (follows : Follows conf rx events)
    (extended : Extends log events eof entry before) (index : eof.index ≠ conf.fileNameIndex)
    (empty : eof.payload.length = conf.crcSize) (file : WritesFile conf rx events event chunks)
    {crc : BitVec 16} (next : crc = chainCrc (events ++ [eof])) :
    RxSound conf log (Rx.endFile conf { rx with crc := crc }) := by
  obtain ⟨sent, done, sameEvent, sameContent⟩ :=
    extended.mem_transmissions logged index empty file.toOpenFile
  have grown : rx.log ⊆ rx.fout.toList.map (RxEntry.closed rx.filename) ++ rx.log :=
    List.subset_append_right _ _
  have written : .closed (writtenName conf event) (chunkData conf chunks) ∈
        rx.fout.toList.map (RxEntry.closed rx.filename) ++ rx.log ∨
      .blocked (writtenName conf event) ∈
        rx.fout.toList.map (RxEntry.closed rx.filename) ++ rx.log := by
    cases out : rx.fout with
    | none => exact .inr (file.name ▸ file.failed out)
    | some bytes =>
        left
        rw [← file.name, ← file.data bytes out]
        exact List.mem_cons_self
  apply RxSound.moveOn valid
  refine ⟨sound.seq, sound.buffered, ⟨_, extended.known, next, fun _ => rfl, ?_, ?_⟩, ?_, ?_⟩
  · intro busy
    cases busy
  · intro confirms
    exact ((follows.completed confirms).mono grown).append_eof file.toOpenFile written
  · intro filename content member
    rcases List.mem_append.mp member with new | old
    · obtain ⟨bytes, out, same⟩ := List.mem_map.mp new
      obtain ⟨rfl, rfl⟩ := RxEntry.closed.inj same
      refine ⟨sent, done, ?_, ?_⟩
      · rw [sameEvent]
        exact file.name
      · rw [sameContent]
        exact file.data bytes (Option.mem_toList.mp out)
    · exact sound.closed filename content old
  · intro crob seq crc' member
    rcases List.mem_append.mp member with new | old
    · obtain ⟨bytes, -, same⟩ := List.mem_map.mp new
      cases same
    · obtain ⟨unsol, events', known', crc'', completed⟩ := sound.confirmed crob seq crc' old
      exact ⟨unsol, events', known', crc'', fun confirms => (completed confirms).mono grown⟩

include valid in
/-- **A chunk** is added to the open file. -/
theorem writeChunk_sound {events chunks : List Event} {event chunk : Event} {entry : Entry}
    {before : List Entry} (sound : RxSound conf log rx) (follows : Follows conf rx events)
    (extended : Extends log events chunk entry before) (index : chunk.index ≠ conf.fileNameIndex)
    (some_data : chunk.payload.length ≠ conf.crcSize)
    (file : WritesFile conf rx events event chunks) (busy : rx.rxInProgress = true)
    {crc : BitVec 16} (next : crc = chainCrc (events ++ [chunk])) :
    RxSound conf log
      (Rx.writeChunk conf { rx with crc := crc } (chunk.payload.drop conf.crcSize)) := by
  apply RxSound.moveOn valid
  refine ⟨sound.seq, sound.buffered, ⟨_, extended.known, next, ?_, ?_, ?_⟩, sound.closed,
    sound.confirmed⟩
  · intro idle
    exact absurd (busy.symm.trans idle) (by decide)
  · intro _
    refine ⟨event, chunks ++ [chunk], file.toOpenFile.append index, file.name, ?_, ?_⟩
    · intro bytes out
      obtain ⟨written, out', rfl⟩ := Option.map_eq_some_iff.mp out
      rw [file.data written out']
      simp [chunkData, dataOf]
    · intro none
      exact file.failed (Option.map_eq_none_iff.mp none)
  · intro confirms
    exact (follows.completed confirms).append (.inr some_data)

include valid crcs logged distinct in
/-- An event at the current sequence number is used, or dropped. -/
theorem sequenceData_sound {event : Event} (sound : RxSound conf log rx)
    (busy : rx.rxInProgress = true) (member : event ∈ published log)
    (index : event.index = rx.seq) :
    RxSound conf log (rx.sequenceData conf event).1 ∧
      ((rx.sequenceData conf event).2 = .processRxBuffer →
        (rx.sequenceData conf event).1.rxInProgress = true) := by
  have other : event.index ≠ conf.fileNameIndex :=
    fun same => valid.filename (same ▸ index ▸ sound.seq)
  obtain ⟨events, known, follows⟩ := sound.follows
  obtain ⟨announced, chunks, file⟩ := follows.file busy
  rw [Rx.sequenceData]
  by_cases short : event.payload.length < conf.crcSize
  · rw [if_pos short]
    exact ⟨sound, fun _ => busy⟩
  rw [if_neg short]
  by_cases wrong : conf.useCRCs = true ∧ readCrc event.payload ≠ rx.crc
  · rw [if_pos wrong]
    exact ⟨sound, fun _ => busy⟩
  have same : readCrc event.payload = rx.crc :=
    not_not.mp fun different => wrong ⟨crcs, different⟩
  obtain ⟨entry, before, extended⟩ :=
    extends_history logged distinct known member (same.trans follows.crc)
  have next : crcCcitt event.payload (readCrc event.payload) = chainCrc (events ++ [event]) := by
    rw [chainCrc_append, same, follows.crc]
  rw [if_neg wrong, if_pos crcs]
  by_cases empty : event.payload.length = conf.crcSize
  · dsimp only
    rw [if_pos empty]
    refine ⟨endFile_sound valid logged sound follows extended other empty file next, ?_⟩
    intro again
    cases again
  · dsimp only
    rw [if_neg empty]
    refine ⟨writeChunk_sound valid sound follows extended other empty file busy next, ?_⟩
    intro _
    exact (confirmCheck_rxInProgress _).trans busy

/-! ## Filenames -/

/-- A task to process the buffer is given only while a file is received. -/
def TaskSound (next : Rx × Option Task) : Prop :=
  next.2 = some .processRxBuffer → next.1.rxInProgress = true

/-- An entry that tells of no closed file and no confirmation. -/
theorem RxSound.newFile {later : Rx} {events : List Event} {event : Event} {entry : RxEntry}
    (sound : RxSound conf log rx) (known : events ∈ histories log)
    (crc : later.crc = chainCrc events) (completed : conf.useConfirms = true →
      Completed conf rx.log events) (file : OpenFile conf events event [])
    (seq : conf.sequenceIndexStart ≤ later.seq ∧ later.seq ≤ conf.sequenceIndexStop)
    (busy : later.rxInProgress = true) (name : later.filename = writtenName conf event)
    (buffer : later.rxEventBuffer = rx.rxEventBuffer) (entries : later.log = entry :: rx.log)
    (new : (entry = .opened later.filename ∧ later.fout = some []) ∨
      (entry = .blocked later.filename ∧ later.fout = none)) : RxSound conf log later := by
  have grown : rx.log ⊆ later.log := by
    rw [entries]
    exact List.subset_cons_self _ _
  have old : ∀ other, (∀ filename, other ≠ .opened filename) →
      (∀ filename, other ≠ .blocked filename) → other ∈ later.log → other ∈ rx.log := by
    intro other notOpened notBlocked member
    rw [entries] at member
    rcases List.mem_cons.mp member with rfl | inside
    · rcases new with ⟨rfl, -⟩ | ⟨rfl, -⟩
      · exact absurd rfl (notOpened _)
      · exact absurd rfl (notBlocked _)
    · exact inside
  refine ⟨seq, ?_, ⟨events, known, crc, ?_, ?_, ?_⟩, ?_, ?_⟩
  · rw [buffer]
    exact sound.buffered
  · intro idle
    exact absurd (busy.symm.trans idle) (by decide)
  · intro _
    refine ⟨event, [], file, name, ?_, ?_⟩
    · intro bytes out
      rcases new with ⟨-, fout⟩ | ⟨-, fout⟩
      · exact (Option.some.inj (fout.symm.trans out)).symm
      · rw [fout] at out
        cases out
    · intro none
      rcases new with ⟨-, fout⟩ | ⟨blocked, -⟩
      · rw [fout] at none
        cases none
      · rw [entries, blocked]
        exact List.mem_cons_self
  · intro confirms
    exact (completed confirms).mono grown
  · intro filename content member
    exact sound.closed filename content (old _ (by simp) (by simp) member)
  · intro crob seq' crc' member
    obtain ⟨unsol, events', known', crc'', completed'⟩ :=
      sound.confirmed crob seq' crc' (old _ (by simp) (by simp) member)
    exact ⟨unsol, events', known', crc'', fun confirms => (completed' confirms).mono grown⟩

include valid crcs logged distinct in
/-- **A filename that is taken** begins a file of a history. -/
theorem startFile_sound {blocked : List Bytes} {event : Event} (sound : RxSound conf log rx)
    (idle : rx.rxInProgress = false) (member : event ∈ published log)
    (index : event.index = conf.fileNameIndex)
    (same : conf.useConfirms = true → readCrc event.payload = rx.crc) :
    RxSound conf log (rx.startFile conf blocked event).1 ∧
      TaskSound (rx.startFile conf blocked event) := by
  obtain ⟨events, known, follows⟩ := sound.follows
  obtain ⟨entry, before, suffix, here⟩ := published_split member
  obtain ⟨crc, extended⟩ := logged.readCrc suffix here
  have before_known : history before ∈ histories log :=
    histories_mono ((List.suffix_cons entry before).trans suffix) (history_mem_histories before)
  have now_known : history before ++ [event] ∈ histories log :=
    extended ▸ histories_mono suffix (history_mem_histories _)
  have next : crcCcitt event.payload (readCrc event.payload) =
      chainCrc (history before ++ [event]) := by
    rw [chainCrc_append, crc]
  -- Without confirms the port may jump to another history, of which nothing is promised.
  have completed : conf.useConfirms = true →
      Completed conf rx.log (history before ++ [event]) := by
    intro confirms
    have back : history before = events :=
      distinct _ before_known _ known (crc.symm.trans ((same confirms).trans follows.crc))
    rw [back]
    exact (follows.completed confirms).append (.inl index)
  have file : OpenFile conf (history before ++ [event]) event [] :=
    ⟨⟨history before, rfl⟩, index, fun chunk member => by cases member⟩
  have range : conf.sequenceIndexStart ≤ (rx.syncFilename conf event).seq ∧
      (rx.syncFilename conf event).seq ≤ conf.sequenceIndexStop := by
    rw [Rx.syncFilename, if_pos crcs]
    dsimp only
    split
    · exact ⟨Nat.le_refl _, valid.range⟩
    · exact sound.seq
  have synced : (rx.syncFilename conf event).crc = chainCrc (history before ++ [event]) := by
    rw [Rx.syncFilename, if_pos crcs]
    exact next
  have others : (rx.syncFilename conf event).log = rx.log ∧
      (rx.syncFilename conf event).fout = rx.fout ∧
      (rx.syncFilename conf event).rxEventBuffer = rx.rxEventBuffer := by
    rw [Rx.syncFilename, if_pos crcs]
    exact ⟨rfl, rfl, rfl⟩
  have closed : (rx.syncFilename conf event).fout = none := others.2.1.trans (follows.idle idle)
  rw [Rx.startFile]
  dsimp only
  split
  · refine ⟨?_, fun _ => rfl⟩
    exact sound.newFile now_known synced completed file range rfl rfl others.2.2
      (congrArg _ others.1) (.inr ⟨rfl, closed⟩)
  · refine ⟨?_, fun _ => rfl⟩
    exact sound.newFile now_known synced completed file range rfl rfl others.2.2
      (congrArg _ others.1) (.inl ⟨rfl, rfl⟩)

include valid crcs logged distinct in
theorem rxEvent_sound {blocked : List Bytes} {event : Event} (sound : RxSound conf log rx)
    (member : event ∈ published log) :
    RxSound conf log (rx.rxEvent conf blocked event).1 ∧
      TaskSound (rx.rxEvent conf blocked event) := by
  have pushed : RxSound conf log { rx with rxEventBuffer := rx.rxEventBuffer ++ [event] } := by
    apply sound.buffer
    intro other inside
    rcases List.mem_append.mp inside with old | new
    · exact sound.buffered other old
    · rw [List.mem_singleton.mp new]
      exact member
  have effective : effectiveEvent conf event = some event := by
    rw [effectiveEvent, valid.crcs crcs]
    rfl
  rw [Rx.rxEvent, effective]
  dsimp only
  split
  · next index =>
    rw [Rx.filenameEvent]
    split
    · exact ⟨pushed, fun again => by cases again⟩
    · next idle =>
      split
      · exact ⟨sound, fun again => by cases again⟩
      · next wrong =>
        refine startFile_sound valid crcs logged distinct sound ?_ member index ?_
        · simpa using idle
        intro confirms
        by_contra different
        exact wrong ⟨crcs, .inr confirms, different⟩
  · split
    · rw [Rx.sequenceEvent]
      refine ⟨pushed, ?_⟩
      intro again
      dsimp only at again
      split at again
      · next busy => exact busy
      · cases again
    · exact ⟨sound, fun again => by cases again⟩

/-! ## Rounds and steps -/

include valid crcs logged distinct in
theorem round_sound {blocked : List Bytes} {task : Task} {next : Rx × Option Task}
    (sound : RxSound conf log rx) (task_sound : TaskSound (rx, some task))
    (round : rx.round conf blocked task = some next) :
    RxSound conf log next.1 ∧ TaskSound next := by
  cases task with
  | processRxBuffer =>
      obtain ⟨⟨event, rest⟩, popped, rfl⟩ := Option.map_eq_some_iff.mp round
      obtain ⟨index, member, sub⟩ := Resequencing.pop_mem popped
      have shrunk : RxSound conf log { rx with rxEventBuffer := rest } :=
        sound.buffer fun other inside => sound.buffered other (sub inside)
      obtain ⟨used, again⟩ := sequenceData_sound valid crcs logged distinct shrunk
        (task_sound rfl) (sound.buffered event member) index
      exact ⟨used, fun same => again (Option.some.inj same)⟩
  | processQdFilenames =>
      obtain ⟨⟨event, rest⟩, popped, rfl⟩ := Option.map_eq_some_iff.mp round
      obtain ⟨index, member, sub⟩ := Resequencing.pop_mem popped
      have shrunk : RxSound conf log { rx with rxEventBuffer := rest } :=
        sound.buffer fun other inside => sound.buffered other (sub inside)
      exact rxEvent_sound valid crcs logged distinct shrunk (sound.buffered event member)

include valid crcs logged distinct in
theorem process_sound {blocked : List Bytes} (fuel : Nat) {next : Rx × Option Task}
    (sound : RxSound conf log next.1) (task_sound : TaskSound next) :
    RxSound conf log (Rx.process conf blocked fuel next) := by
  fun_induction Rx.process conf blocked fuel next with
  | case1 => exact sound
  | case2 => exact sound
  | case3 fuel rx task none => exact sound
  | case4 fuel rx task next here ih =>
      obtain ⟨later, again⟩ := round_sound valid crcs logged distinct sound task_sound here
      exact ih later again

omit valid crcs logged distinct

/-- What the receiving port knows of a log holds of a longer log. -/
theorem RxSound.mono {later : List Entry} (sound : RxSound conf log rx) (grown : log <:+ later) :
    RxSound conf later rx where
  seq := sound.seq
  buffered event member := published_mono grown (sound.buffered event member)
  follows := by
    obtain ⟨events, known, follows⟩ := sound.follows
    exact ⟨events, histories_mono grown known, follows⟩
  closed filename content member := by
    obtain ⟨sent, done, same⟩ := sound.closed filename content member
    exact ⟨sent, (transmissions_mono conf grown).subset done, same⟩
  confirmed crob seq crc member := by
    obtain ⟨unsol, events, known, same⟩ := sound.confirmed crob seq crc member
    exact ⟨unsol, events, histories_mono grown known, same⟩

theorem nil_mem_histories (log : List Entry) : [] ∈ histories log := by
  induction log with
  | nil => exact List.mem_cons_self
  | cons entry before ih => exact List.mem_cons_of_mem _ ih

/-- A port that receives no file any more follows any history that its CRC stands for. -/
theorem RxSound.giveUp {later : Rx} {events : List Event} (sound : RxSound conf log rx)
    (known : events ∈ histories log) (crc : later.crc = chainCrc events)
    (completed : conf.useConfirms = true → Completed conf rx.log events)
    (seq : conf.sequenceIndexStart ≤ later.seq ∧ later.seq ≤ conf.sequenceIndexStop)
    (idle : later.rxInProgress = false) (fout : later.fout = none)
    (buffer : later.rxEventBuffer = rx.rxEventBuffer)
    (entries : later.log = rx.log ∨ later.log = .aborted rx.filename :: rx.log) :
    RxSound conf log later := by
  have grown : rx.log ⊆ later.log := by
    rcases entries with same | aborted
    · rw [same]
      exact List.Subset.refl _
    · rw [aborted]
      exact List.subset_cons_self _ _
  have old : ∀ other, other ≠ .aborted rx.filename → other ∈ later.log → other ∈ rx.log := by
    intro other notAborted member
    rcases entries with same | aborted
    · exact same ▸ member
    · rw [aborted] at member
      exact (List.mem_cons.mp member).resolve_left notAborted
  refine ⟨seq, ?_, ⟨events, known, crc, fun _ => fout, ?_, ?_⟩, ?_, ?_⟩
  · rw [buffer]
    exact sound.buffered
  · intro busy
    exact absurd (idle.symm.trans busy) (by decide)
  · intro confirms
    exact (completed confirms).mono grown
  · intro filename content member
    exact sound.closed filename content (old _ (by simp) member)
  · intro crob seq' crc' member
    obtain ⟨unsol, events', known', crc'', completed'⟩ :=
      sound.confirmed crob seq' crc' (old _ (by simp) member)
    exact ⟨unsol, events', known', crc'', fun confirms => (completed' confirms).mono grown⟩

include valid in
/-- **A reset** gives up the file, and with confirms the history. -/
theorem RxSound.resetTransfer (sound : RxSound conf log rx) :
    RxSound conf log (rx.resetTransfer conf) := by
  obtain ⟨events, known, follows⟩ := sound.follows
  have start := And.intro (Nat.le_refl conf.sequenceIndexStart) valid.range
  rw [Rx.resetTransfer]
  split
  · exact sound
  · dsimp only
    by_cases confirms : conf.useConfirms = true
    · have none_done : conf.useConfirms = true → Completed conf rx.log [] :=
        fun _ => completed_nil rx.log
      rw [if_pos confirms]
      split
      · exact sound.giveUp (nil_mem_histories log) rfl none_done start rfl rfl rfl (.inr rfl)
      · next idle =>
        have idle : rx.rxInProgress = false := by simpa using idle
        exact sound.giveUp (nil_mem_histories log) rfl none_done start idle (follows.idle idle) rfl
          (.inl rfl)
    · rw [if_neg confirms]
      split
      · exact sound.giveUp known follows.crc follows.completed sound.seq rfl rfl rfl (.inr rfl)
      · next idle =>
        have idle : rx.rxInProgress = false := by simpa using idle
        exact sound.giveUp known follows.crc follows.completed sound.seq idle (follows.idle idle) rfl
          (.inl rfl)

include crcs in
theorem RxSound.sendConfirm (sound : RxSound conf log rx) (status : CommandStatus) :
    RxSound conf log (rx.sendConfirm conf status) := by
  refine sound.confirm _ _ fun _ => ?_
  dsimp only
  rw [if_pos crcs]

include valid crcs in
theorem RxSound.transferTimeout (sound : RxSound conf log rx) :
    RxSound conf log (rx.transferTimeout conf) := by
  apply RxSound.buffer ?_ (fun event member => by cases member)
  split
  · split
    · exact sound.sendConfirm crcs .timeout
    · exact sound.resetTransfer valid
  · split
    · exact sound.sendConfirm crcs .success
    · exact sound

include valid crcs logged distinct in
/-- **The receiving port follows the sending port** in every step. -/
theorem rxStep_sound (input : RxInput) (sound : RxSound conf log rx)
    (known : ∀ event blocked, input = .event event blocked → event ∈ published log) :
    RxSound conf log (rxStep conf rx input) := by
  cases input with
  | enable =>
      obtain ⟨events, here, follows⟩ := sound.follows
      exact ⟨sound.seq, sound.buffered, ⟨events, here, follows.frame rfl rfl rfl rfl rfl⟩,
        sound.closed, sound.confirmed⟩
  | disable =>
      have reset := sound.resetTransfer valid
      obtain ⟨events, here, follows⟩ := reset.follows
      exact ⟨reset.seq, reset.buffered, ⟨events, here, follows.frame rfl rfl rfl rfl rfl⟩,
        reset.closed, reset.confirmed⟩
  | event event blocked =>
      rw [rxStep]
      split
      · obtain ⟨received, task⟩ :=
          rxEvent_sound valid crcs logged distinct sound (known event blocked rfl)
        exact process_sound valid crcs logged distinct _ received task
      · exact sound
  | transferTimeout =>
      rw [rxStep]
      split
      · exact sound.transferTimeout valid crcs
      · exact sound
  | idleTimeout => exact sound.resetTransfer valid

end Receiving

end OpenDataCon.FileTransfer

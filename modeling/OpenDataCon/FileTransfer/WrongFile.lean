import OpenDataCon.FileTransfer.Receiver

/-!
# Only transmitted files are closed

While the confirmation of an EOF is awaited, a trigger starts another transmission,
and an idle reset then runs the stale action, which makes the port ready once more: a
third transmission is announced, and the chunks of the second one continue its CRC
chain. The receiving port closes the file of the third with the bytes of the second
(`closes_foreignBytes`).

When a transmission starts only while nothing of an earlier one is outstanding, every
file that is closed has the content of a transmission under the name that announced
it, whatever is lost, duplicated and reordered (`run_closesTransmitted`).
-/

set_option autoImplicit false

namespace OpenDataCon.FileTransfer

open Runs

/-- **Every file that was closed is a transmission**: it has the name that announced the
transmission and its content. -/
structure ClosesTransmitted (conf : FileTransferConf) (net : Net) : Prop where
  transmitted : ∀ filename content, .closed filename content ∈ net.rx.log →
    ∃ sent ∈ transmissions conf net.tx.log,
      filename = writtenName conf sent.event ∧ content = sent.content

section Runs

variable {conf : FileTransferConf} (valid : conf.Valid) (crcs : conf.useCRCs = true)

/-- Both ports are sound, the receiving one while the CRCs of the histories differ. -/
structure NetSound (conf : FileTransferConf) (net : Net) : Prop where
  tx : TxSound conf net.tx
  rx : DistinctCrcs net.tx.log → RxSound conf net.tx.log net.rx

include valid in
theorem build_netSound : NetSound conf (Net.build conf) where
  tx := build_sound valid
  rx _ :=
    { seq := ⟨Nat.le_refl _, valid.range⟩
      buffered := fun _ member => by cases member
      follows := ⟨[], List.mem_cons_self, rfl, fun _ => rfl,
        fun busy => absurd busy Bool.false_ne_true, fun _ => completed_nil []⟩
      closed := fun _ _ member => by cases member
      confirmed := fun _ _ _ member => by cases member }

include valid crcs in
/-- A step of the sending port. -/
theorem NetSound.tx_step {net : Net} (sound : NetSound conf net) (input : TxInput)
    (exclusive : Exclusive net.tx input) :
    NetSound conf { net with tx := (txStep conf net.tx input).1 } where
  tx := txStep_sound valid crcs net.tx input sound.tx exclusive
  rx distinct := by
    have grown := log_txStep conf net.tx input
    exact (sound.rx (distinct.mono grown)).mono grown

include valid crcs in
/-- A step of the receiving port. -/
theorem NetSound.rx_step {net : Net} (sound : NetSound conf net) (input : RxInput)
    (known : ∀ event blocked, input = .event event blocked → event ∈ published net.tx.log) :
    NetSound conf { net with rx := rxStep conf net.rx input } where
  tx := sound.tx
  rx distinct :=
    rxStep_sound valid crcs sound.tx.logged distinct input (sound.rx distinct) known

include valid crcs in
/-- **Every step keeps both ports sound** while transmissions exclude each other. -/
theorem netStep_sound (net : Net) (input : NetInput) (sound : NetSound conf net)
    (exclusive : NetExclusive net input) : NetSound conf (netStep conf net input).1 := by
  cases input with
  | tx input =>
      have stepped := sound.tx_step valid crcs input exclusive
      cases input with
      | confirm crob pick => exact sound
      | _ => exact stepped
  | deliver i blocked =>
      rw [netStep]
      split
      · next event here =>
        apply sound.rx_step valid crcs
        rintro event' blocked' same
        cases same
        exact List.mem_of_getElem? here
      · exact sound
  | rxEnable => exact sound.rx_step valid crcs .enable (by simp)
  | rxDisable => exact sound.rx_step valid crcs .disable (by simp)
  | transferTimeout => exact sound.rx_step valid crcs .transferTimeout (by simp)
  | rxIdleTimeout => exact sound.rx_step valid crcs .idleTimeout (by simp)
  | confirm i pick =>
      rw [netStep]
      split
      · exact sound.tx_step valid crcs _ trivial
      · exact sound

include valid crcs in
theorem run_netSound {inputs : List NetInput}
    (exclusive : Guarded (netStep conf) NetExclusive (Net.build conf) inputs) :
    NetSound conf (run (netStep conf) (Net.build conf) inputs).1 :=
  guarded_invariant (NetSound conf) (netStep_sound valid crcs) (build_netSound valid) exclusive

include valid crcs in
/-- **Only transmitted files are closed.** In every run in which a transmission starts only
while nothing of an earlier one is outstanding, and the CRCs of different histories differ, every
file that the receiving port closes has the content of a transmission under its name. -/
theorem run_closesTransmitted (inputs : List NetInput)
    (exclusive : Guarded (netStep conf) NetExclusive (Net.build conf) inputs)
    (distinct : DistinctCrcs (run (netStep conf) (Net.build conf) inputs).1.tx.log) :
    ClosesTransmitted conf (run (netStep conf) (Net.build conf) inputs).1 where
  transmitted := ((run_netSound valid crcs exclusive).rx distinct).closed

end Runs

/-- A pair of ports with CRCs and confirms, and two sequence numbers. -/
def pairConf : FileTransferConf := { sequenceIndexStop := 1, fileNameIndex := 100 }

theorem pairConf_valid : pairConf.Valid where
  range := by decide
  filename := by decide
  eof := by simp [pairConf]
  crcs _ := rfl

/-- A file is sent and confirmed, and another one is sent; events arrive twice and out of
order. -/
def repeatedInputs : List NetInput :=
  [.rxEnable, .tx (.enable 0), .tx (.trigger [1] [0x41]), .tx (.handler 0 (some [7]) 0),
    .deliver 1 [], .deliver 0 [], .deliver 2 [], .deliver 2 [], .deliver 1 [], .confirm 0 0,
    .tx (.trigger [2] [0x42]), .tx (.handler 0 (some [8]) 0), .deliver 3 [], .deliver 5 [],
    .deliver 4 []]

theorem run_closesTransmitted_repeated :
    (run (netStep pairConf) (Net.build pairConf) repeatedInputs).1.rx.log.filter
        (fun entry => entry matches .closed _ _) = [.closed [0x42] [8], .closed [0x41] [7]] ∧
      ClosesTransmitted pairConf (run (netStep pairConf) (Net.build pairConf) repeatedInputs).1 :=
  ⟨by decide +kernel, run_closesTransmitted pairConf_valid rfl repeatedInputs (by decide +kernel)
    (by decide +kernel)⟩

/-- The first file waits for the confirmation of its EOF when the second one is announced. The
idle reset queues the first one again and makes the port ready, so that it is announced before the
callback of the second one runs. Only the last three events arrive. -/
def staleInputs : List NetInput :=
  [.rxEnable, .tx (.enable 0), .tx (.trigger [1] [0x41]), .tx (.handler 0 (some [7]) 0),
    .tx (.trigger [2] [0x42]), .tx (.idleTimeout 1), .tx (.handler 1 none 0),
    .tx (.handler 0 (some [8]) 0), .deliver 4 [], .deliver 5 [], .deliver 6 []]

theorem ClosesTransmitted.closed {conf : FileTransferConf} {net : Net}
    (kept : ClosesTransmitted conf net) {filename content : Bytes}
    (closed : .closed filename content ∈ net.rx.log) :
    content ∈ (transmissions conf net.tx.log).map Transmission.content := by
  obtain ⟨sent, member, -, same⟩ := kept.transmitted filename content closed
  exact List.mem_map.mpr ⟨sent, member, same.symm⟩

/-- **A file is closed with the bytes of another one**, although all histories have different
CRCs. -/
theorem closes_foreignBytes :
    DistinctCrcs (run (netStep pairConf) (Net.build pairConf) staleInputs).1.tx.log ∧
      ¬ ClosesTransmitted pairConf (run (netStep pairConf) (Net.build pairConf) staleInputs).1 := by
  refine ⟨by decide +kernel, fun kept => ?_⟩
  have closed : .closed [0x41] [8] ∈
      (run (netStep pairConf) (Net.build pairConf) staleInputs).1.rx.log := by decide +kernel
  exact absurd (kept.closed closed) (by decide +kernel)

end OpenDataCon.FileTransfer

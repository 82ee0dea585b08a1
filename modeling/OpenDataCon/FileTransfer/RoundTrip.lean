import OpenDataCon.FileTransfer.Draining

/-!
# Every queued file arrives

All files are queued at a sending port and sent to a receiving port of the same
configuration without confirms. Nothing is lost on the way and nothing arrives twice,
and events keep their order only among those of one effective index. Then the
receiving port writes and closes each file once under its name, with its bytes, and
nothing else (`run_wrote`).

An empty name is announced as `StartFileTransmission`, and when the EOF index is the
filename index no filename arrives at all (`not_wrote`).
-/

set_option autoImplicit false

namespace OpenDataCon.FileTransfer

open Resequencing Runs

/-! ## The claim of a round trip -/

/-- The port has written and closed these files, and nothing else. -/
structure Wrote (files : List (Bytes × Bytes)) (rx : Rx) : Prop where
  closed : (closings rx.log).Perm files
  opened : (openings rx.log).Perm (files.map Prod.fst)
  finished : rx.fout = none

/-- The port is enabled and receives the events. -/
def received (conf : FileTransferConf) (delivered : List Event) : Rx :=
  delivered.foldl (fun rx event => rxStep conf rx (.event event [])) (Rx.started conf)

/-- Events are reordered within the effective indices. -/
def DeliveredAs (conf : FileTransferConf) (sent delivered : List Event) : Prop :=
  Reordered (fun event => (effectiveEvent conf event).map Event.index) sent delivered

/-- A run that sends the files: different paths, names without a zero byte, each file triggered
once, and no handler left in the end. -/
structure SendsAll (conf : FileTransferConf) (files : List File) (inputs : List TxInput) :
    Prop where
  paths : (files.map File.path).Nodup
  nulFree : ∀ file ∈ files, 0 ∉ file.name
  sends : Guarded (txStep conf) (Sends files) (Tx.build conf) inputs
  triggered : ∀ file ∈ files,
    .triggered file.path ∈ (run (txStep conf) (Tx.build conf) inputs).1.log
  finished : (run (txStep conf) (Tx.build conf) inputs).1.handlers = []

/-- **Every queued file arrives.** In every run that sends all files, and for every delivery that
reorders the events within the effective indices, the receiving port writes and closes each file
once, under its name, with its bytes, and nothing else. The EOF index is none or differs from the
filename index; the sequence numbers are 32-bit numbers of the configuration. -/
theorem run_wrote {conf : FileTransferConf} (valid : conf.Valid)
    (confirms : conf.useConfirms = false) (bound : conf.sequenceIndexStop < 2 ^ 32)
    (apart : conf.sequenceIndexEOF ≠ some conf.fileNameIndex) {files : List File}
    {inputs : List TxInput} (all : SendsAll conf files inputs) {delivered : List Event}
    (delivery : DeliveredAs conf
      (published (run (txStep conf) (Tx.build conf) inputs).1.log) delivered) :
    Wrote (files.map (written conf)) (received conf delivered) := by
  have drains := run_drains valid confirms apart bound all.nulFree all.paths all.sends
  obtain ⟨done, perm, closed, opened, finished⟩ :=
    drains.finished all.paths all.triggered all.finished
  have lockstep : Accepted conf (Rx.started conf)
        (meant conf (run (txStep conf) (Tx.build conf) inputs).1.log) ∧
      ∀ event ∈ meant conf (run (txStep conf) (Tx.build conf) inputs).1.log, Used conf event := by
    rcases drains with same | ⟨_, _, _, transfers, _⟩
    · rw [same]
      exact ⟨trivial, fun _ member => (List.not_mem_nil member).elim⟩
    · exact ⟨transfers.accepted, transfers.used⟩
  obtain ⟨same, -⟩ := receives_inOrder confirms valid apart (started_ready valid) rfl lockstep.1
    lockstep.2 delivery.filterMap
  have log : (received conf delivered).log =
      (mirror conf (run (txStep conf) (Tx.build conf) inputs).1.log).log := by
    have logs := congrArg Rx.log same
    exact logs
  have fout : (received conf delivered).fout =
      (mirror conf (run (txStep conf) (Tx.build conf) inputs).1.log).fout := by
    have files := congrArg Rx.fout same
    exact files
  refine ⟨?_, ?_, fout.trans finished⟩
  · rw [log, closed]
    exact perm.map _
  · rw [log, opened, List.map_map]
    exact perm.map _

/-! ## Examples of runs -/

/-- Two sequence numbers and an EOF index. -/
def roundConf : FileTransferConf :=
  { sequenceIndexStart := 5, sequenceIndexStop := 6, sequenceIndexEOF := some 9,
    fileNameIndex := 1, useCRCs := false, useConfirms := false }

theorem roundConf_valid : roundConf.Valid where
  range := by decide
  filename := by decide
  eof := by
    intro index same
    obtain rfl := Option.some.inj same
    decide
  crcs := by decide

def twoFiles : List File :=
  [{ path := [1], name := [0x61], content := [7] }, { path := [2], name := [0x62], content := [] }]

/-- The second file is triggered while the first one is sent. -/
def twoInputs : List TxInput :=
  [.enable 0, .trigger [1] [0x61], .trigger [2] [0x62], .handler 0 (some [7]) 0,
    .handler 0 none 0, .handler 0 (some []) 0]

theorem twoInputs_sendsAll : SendsAll roundConf twoFiles twoInputs where
  paths := by decide
  nulFree := by decide
  sends := by decide +kernel
  triggered := by decide +kernel
  finished := by decide +kernel

/-- The EOF of the first file and the second filename arrive early. -/
def twoDelivered : List Event :=
  [{ index := 9, payload := [0x36] }, { index := 1, payload := [0x61] },
    { index := 1, payload := [0x62] }, { index := 5, payload := [7] },
    { index := 9, payload := [0x35] }]

theorem run_wrote_two :
    Wrote (twoFiles.map (written roundConf)) (received roundConf twoDelivered) :=
  run_wrote roundConf_valid rfl (by decide) (by decide) twoInputs_sendsAll
    (Reordered.of_classes (by decide +kernel))

/-- A file without a name. -/
def unnamedFiles : List File := [{ path := [1], name := [], content := [7] }]

def unnamedInputs : List TxInput :=
  [.enable 0, .trigger [1] [], .handler 0 (some [7]) 0]

/-- The EOF index is the filename index. -/
def clashConf : FileTransferConf := { roundConf with sequenceIndexEOF := some 1 }

theorem clashConf_valid : clashConf.Valid where
  range := by decide
  filename := by decide
  eof := by
    intro index same
    obtain rfl := Option.some.inj same
    decide
  crcs := by decide

def oneFile : List File := [{ path := [1], name := [0x61], content := [7] }]

def oneInputs : List TxInput := [.enable 0, .trigger [1] [0x61], .handler 0 (some [7]) 0]

/-- **A file is not always written under its name**, although its events arrive in order: not when
its name is empty, and not when the EOF index is the filename index. -/
theorem not_wrote :
    (SendsAll roundConf unnamedFiles unnamedInputs ∧
      ¬ Wrote (unnamedFiles.map fun file =>
          (templatedName roundConf.filenameInfo file.name, file.content))
        (received roundConf
          (published (run (txStep roundConf) (Tx.build roundConf) unnamedInputs).1.log))) ∧
    (clashConf.Valid ∧ SendsAll clashConf oneFile oneInputs ∧
      ¬ Wrote (oneFile.map fun file =>
          (templatedName clashConf.filenameInfo file.name, file.content))
        (received clashConf
          (published (run (txStep clashConf) (Tx.build clashConf) oneInputs).1.log))) := by
  refine ⟨⟨⟨by decide, by decide, by decide +kernel, by decide +kernel, by decide +kernel⟩,
    fun wrote => ?_⟩, ⟨clashConf_valid, ⟨by decide, by decide, by decide +kernel, by decide +kernel,
    by decide +kernel⟩, fun wrote => ?_⟩⟩
  · exact absurd wrote.closed (by decide +kernel)
  · exact absurd wrote.closed (by decide +kernel)

end OpenDataCon.FileTransfer

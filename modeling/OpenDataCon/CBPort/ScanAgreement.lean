import OpenDataCon.CBPort.MasterScan
import OpenDataCon.CBPort.OutstationScan

/-!
# Scan agreement

The outstation answers the scan of a group with the values of its points, and
the master reads them into its own table. Both load their tables from the same
additions.

An analog value of twelve bits, a counter and a binary value come across. A
six-bit analog value is stored as it was sent, but the event that is published
for it carries the whole word of its place. The bits of the status byte replace
what points have there. The agreement therefore holds when the group has no
six-bit analog point and the points at the place of the status byte have what
the flags put there, and then only (`scanAgrees_iff`).
-/

set_option autoImplicit false

namespace OpenDataCon.CBPort

open Runs PointTable MasterScan CBOutstation

/-! ## The exchange -/

/-- The master reads what the outstation sends for a scan. -/
def scanExchange (conf : CBOutstationConf) (outstation : CBOutstation) (master : PointTable)
    (header : CBBlockData) (now : Nat) : PointTable × List PublishedEvent :=
  run (fun table message => processScanRequestReturn conf.isBakerDevice table message now) master
    (sentMessages (outstation.scanRequest conf header).2)

/-- A value is new to the holder of a point when it differs or was never set. -/
def isNews (held : Option CBBinaryPoint) (value : Bool) : Bool :=
  match held with
  | some point => point.binary != value || !point.hasBeenSet
  | none => false

/-- After a scan of the group, the master has stored and published the values of
the outstation: analogs and counters always, binaries when they are new. -/
structure ScanAgrees (conf : CBOutstationConf) (outstation : CBOutstation) (master : PointTable)
    (header : CBBlockData) (now : Nat) : Prop where
  analog : ∀ index point, outstation.pointTable.analog.odcPointMap index = some point →
    point.group = header.getGroup →
    ((scanExchange conf outstation master header now).1.analog.odcPointMap index).map
        (·.analog) = some point.analog ∧
      (scanExchange conf outstation master header now).2.filter (isAbout (.analog, index)) =
        [.Analog index (BitVec.ofNat 16 point.analog) now]
  counter : ∀ index point, outstation.pointTable.counter.odcPointMap index = some point →
    point.group = header.getGroup →
    ((scanExchange conf outstation master header now).1.counter.odcPointMap index).map
        (·.analog) = some point.analog ∧
      (scanExchange conf outstation master header now).2.filter (isAbout (.counter, index)) =
        [.Counter index (BitVec.ofNat 16 point.analog) now]
  binary : ∀ index point, outstation.pointTable.binary.odcPointMap index = some point →
    point.group = header.getGroup →
    ((scanExchange conf outstation master header now).1.binary.odcPointMap index).map
        (·.binary) = some point.binary ∧
      (scanExchange conf outstation master header now).2.filter (isAbout (.binary, index)) =
        if isNews (master.binary.odcPointMap index) point.binary then
          [.Binary index point.binary now]
        else []

/-! ## The conditions -/

/-- The values fit in their places: six bits, or twelve. -/
structure ValuesFit (table : PointTable) : Prop where
  analog : ∀ index point, table.analog.odcPointMap index = some point → point.analog < 4096
  sixBit : ∀ index point, table.analog.odcPointMap index = some point →
    point.pointType = .ANA6 → point.analog ≤ 63
  counter : ∀ index point, table.counter.odcPointMap index = some point → point.analog < 4096

/-- The group has no six-bit analog point. -/
def NoSixBit (table : PointTable) (group : Nat) : Prop :=
  ∀ index point, table.analog.odcPointMap index = some point → point.group = group →
    point.pointType ≠ .ANA6

/-- The points at the place of the status byte have on its bits what the flags put there. -/
structure StatusAgrees (isBakerDevice : Bool) (outstation : CBOutstation) (group : Nat) :
    Prop where
  analog : ∀ index point, outstation.pointTable.analog.odcPointMap index = some point →
    point.group = group →
    outstation.pointTable.isStatusByteLocation group point.payloadLocation = true →
    ∀ bit ∈ statusBits, (BitVec.ofNat 16 point.analog).getLsbD bit = statusFlag outstation bit
  counter : ∀ index point, outstation.pointTable.counter.odcPointMap index = some point →
    point.group = group →
    outstation.pointTable.isStatusByteLocation group point.payloadLocation = true →
    ∀ bit ∈ statusBits, (BitVec.ofNat 16 point.analog).getLsbD bit = statusFlag outstation bit
  binary : ∀ index point, outstation.pointTable.binary.odcPointMap index = some point →
    point.group = group →
    outstation.pointTable.isStatusByteLocation group point.payloadLocation = true →
    valueBit isBakerDevice point ∈ statusBits →
    wireValue point = statusFlag outstation (valueBit isBakerDevice point)

/-- Both ends loaded the additions of a script, and the values fit. -/
structure ScanLink (calls : List PointCall) (outstation : CBOutstation) (master : PointTable) :
    Prop where
  script : ScanScript calls
  accepted : (({} : PointTable).load calls).2 = true
  atOutstation : LoadedFrom calls outstation.pointTable
  atMaster : LoadedFrom calls master
  values : ValuesFit outstation.pointTable

variable {calls : List PointCall} {conf : CBOutstationConf} {outstation : CBOutstation}
  {master : PointTable} {header : CBBlockData} {now : Nat}

theorem ScanLink.loaded (link : ScanLink calls outstation master) :
    Laid calls (({} : PointTable).load calls).1 :=
  load_laid link.script ⟨rfl, rfl, rfl, rfl⟩ link.accepted

theorem ScanLink.laidOutstation (link : ScanLink calls outstation master) :
    Laid calls outstation.pointTable := link.loaded.sameLayout link.atOutstation

theorem ScanLink.laidMaster (link : ScanLink calls outstation master) : Laid calls master :=
  link.loaded.sameLayout link.atMaster

/-! ## The sections that are exchanged -/

/-- What the master does with the answer to a scan. -/
theorem scanExchange_eq (conf : CBOutstationConf) (outstation : CBOutstation)
    (master : PointTable) (header : CBBlockData) (now : Nat) :
    scanExchange conf outstation master header now =
      run (proccessScanPayload conf.isBakerDevice header.getGroup now) master
        ((scanLocations (scannedPackets outstation.pointTable header.getGroup)).zip
          ((outstation.buildScanRequestResponseData conf header.getGroup).2.map
            (· &&& 0xFFF#16))) := by
  have sent : sentMessages (outstation.scanRequest conf header).2 =
      [scanResponse header (outstation.buildScanRequestResponseData conf header.getGroup).2] := rfl
  have sections := scanSections_scanResponse header
    (outstation.buildScanRequestResponseData conf header.getGroup).2
    (length_buildScanRequestResponseData conf outstation header.getGroup)
  have group : header.getGroup % 16 = header.getGroup := Nat.mod_eq_of_lt header.getGroup_lt
  rw [scanExchange, sent, run_singleton, ← sections]
  simp only [processScanRequestReturn, scanResponse, CBBlockData.getGroup_addressBlock, group]

/-- **What the master does for a point of the group** is decided by the word of
its place in the answer of the outstation. -/
theorem scanExchange_own (conf : CBOutstationConf) (now : Nat) (link : ScanLink calls outstation master) {key : PointKey}
    {payloadLocation : PayloadLocationType}
    (own : placeOf key outstation.pointTable = some (header.getGroup, payloadLocation)) :
    ∃ word, WordAt conf outstation header.getGroup payloadLocation word ∧
      ∃ here, SameLayout master here ∧ pointAt key here = pointAt key master ∧
        pointAt key (scanExchange conf outstation master header now).1 =
          pointAt key (receive conf.isBakerDevice (word &&& 0xFFF#16) now here key).1 ∧
        (scanExchange conf outstation master header now).2.filter (isAbout key) =
          (receive conf.isBakerDevice (word &&& 0xFFF#16) now here key).2.filter
            (isAbout key) := by
  have laid := link.laidOutstation
  obtain ⟨call, member, used⟩ := use_of_placeOf laid own
  obtain ⟨last, known, covers⟩ := laid.packets.covered call member _ _ _ used
  have packets : scannedPackets outstation.pointTable header.getGroup = last := by
    simp [scannedPackets, getMaxPayload, known]
  have onWire : scannedPackets outstation.pointTable header.getGroup ≤ 16 :=
    packets ▸ laid.packets.onWire _ last known
  have inScan := (link.script.wellFormed call member).inScan used
  obtain ⟨word, at_, paired⟩ := wordAt_buildScanRequestResponseData conf outstation header.getGroup
    (mem_scanLocations inScan (packets ▸ covers))
  refine ⟨word, at_, ?_⟩
  have places : (((scanLocations (scannedPackets outstation.pointTable header.getGroup)).zip
      ((outstation.buildScanRequestResponseData conf header.getGroup).2.map
        (· &&& 0xFFF#16))).map Prod.fst) =
      scanLocations (scannedPackets outstation.pointTable header.getGroup) := by
    apply List.map_fst_zip
    rw [List.length_map, length_buildScanRequestResponseData]
  have ownMaster : placeOf key master = some (header.getGroup, payloadLocation) := by
    rw [placeOf_sameLayout link.atMaster, ← placeOf_sameLayout link.atOutstation, own]
  rw [scanExchange_eq]
  refine scan_own link.script link.laidMaster header.getGroup_lt (fun payload among => ?_) ?_
    (payloadLocation, word &&& 0xFFF#16) ?_ ownMaster
  · exact scanLocations_inScan onWire (places ▸ List.mem_map_of_mem among)
  · rw [places]
    exact nodup_scanLocations _
  · rw [List.zip_map_right]
    exact List.mem_map.mpr ⟨_, paired, rfl⟩

/-! ## What the master stores and publishes -/

/-- Tables of one layout have the same points. -/
theorem analog_counterpart {first second : PointMaps CBAnalogCounterPoint}
    (same : SameKind CBAnalogCounterPoint.resetAnalog first second) {index : Nat}
    {point : CBAnalogCounterPoint} (there : first.odcPointMap index = some point) :
    ∃ found, second.odcPointMap index = some found ∧ found.index = point.index ∧
      found.pointType = point.pointType ∧ found.channel = point.channel := by
  obtain ⟨found, held, stripped⟩ := same.symm.counterpart there
  simp only [CBAnalogCounterPoint.resetAnalog, CBAnalogCounterPoint.mk.injEq] at stripped
  exact ⟨found, held, by simp [stripped]⟩

theorem binary_counterpart {first second : PointMaps CBBinaryPoint}
    (same : SameKind CBBinaryPoint.resetBinary first second) {index : Nat}
    {point : CBBinaryPoint} (there : first.odcPointMap index = some point) :
    ∃ found, second.odcPointMap index = some found ∧ found.index = point.index ∧
      found.pointType = point.pointType ∧ found.channel = point.channel := by
  obtain ⟨found, held, stripped⟩ := same.symm.counterpart there
  simp only [CBBinaryPoint.resetBinary, CBBinaryPoint.mk.injEq] at stripped
  exact ⟨found, held, by simp [stripped]⟩

/-- An analog point stores its value in the word, and publishes the word. -/
theorem scanExchange_analog (conf : CBOutstationConf) (now : Nat) (link : ScanLink calls outstation master) {index : Nat}
    {point : CBAnalogCounterPoint}
    (there : outstation.pointTable.analog.odcPointMap index = some point)
    (inGroup : point.group = header.getGroup) :
    ∃ word, WordAt conf outstation header.getGroup point.payloadLocation word ∧
      ((scanExchange conf outstation master header now).1.analog.odcPointMap index).map
          (·.analog) = some (analogValue point (word &&& 0xFFF#16)).toNat ∧
      (scanExchange conf outstation master header now).2.filter (isAbout (.analog, index)) =
        [.Analog index (word &&& 0xFFF#16) now] := by
  obtain ⟨word, atPlace, here, same, -, stored, events⟩ := scanExchange_own conf now
    link (placeOf_analog.mpr ⟨point, there, inGroup, rfl⟩)
  have layout := (link.atOutstation.analog.symm.trans link.atMaster.analog).trans same.analog
  obtain ⟨held, found, named, type, channel⟩ := analog_counterpart layout there
  have own := link.laidOutstation.analog.own index point there
  refine ⟨word, atPlace, ?_, ?_⟩
  · have value := congrArg (Option.map (Sum.elim (·.analog) fun _ => 0)) stored
    simpa [pointAt, receive, receiveAnalog, PointMaps.modify_odcPointMap, found,
      CBAnalogCounterPoint.setAnalog, analogValue, type, channel, Option.map_map,
      Function.comp_def] using value
  · rw [events]
    simp [receive, receiveAnalog, found, named, own, isAbout, eventKey]

theorem scanExchange_counter (conf : CBOutstationConf) (now : Nat) (link : ScanLink calls outstation master) {index : Nat}
    {point : CBAnalogCounterPoint}
    (there : outstation.pointTable.counter.odcPointMap index = some point)
    (inGroup : point.group = header.getGroup) :
    ∃ word, WordAt conf outstation header.getGroup point.payloadLocation word ∧
      ((scanExchange conf outstation master header now).1.counter.odcPointMap index).map
          (·.analog) = some (word &&& 0xFFF#16).toNat ∧
      (scanExchange conf outstation master header now).2.filter (isAbout (.counter, index)) =
        [.Counter index (word &&& 0xFFF#16) now] := by
  obtain ⟨word, atPlace, here, same, -, stored, events⟩ := scanExchange_own conf now
    link (placeOf_counter.mpr ⟨point, there, inGroup, rfl⟩)
  have layout := (link.atOutstation.counter.symm.trans link.atMaster.counter).trans same.counter
  obtain ⟨held, found, named, -, -⟩ := analog_counterpart layout there
  have own := link.laidOutstation.counter.own index point there
  refine ⟨word, atPlace, ?_, ?_⟩
  · have value := congrArg (Option.map (Sum.elim (·.analog) fun _ => 0)) stored
    simpa [pointAt, receive, receiveCounter, PointMaps.modify_odcPointMap, found,
      CBAnalogCounterPoint.setAnalog, Option.map_map, Function.comp_def] using value
  · rw [events]
    simp [receive, receiveCounter, found, named, own, isAbout, eventKey]

/-- The bit of a binary value is where the outstation puts it. -/
theorem binaryValue_eq {isBakerDevice : Bool} {point : CBBinaryPoint}
    (input : InputChannel point.pointType point.channel) (data : BitVec 16) :
    binaryValue isBakerDevice point data =
      some (if point.pointType = .MCA then !data.getLsbD (valueBit isBakerDevice point)
        else data.getLsbD (valueBit isBakerDevice point)) := by
  rcases input with ⟨type, -, -⟩ | ⟨dual, -, -⟩
  · simp only [binaryValue, valueBit, type, isDualBit]
    cases isBakerDevice <;> rfl
  · cases type : point.pointType with
    | DIG => simp [isDualBit, type] at dual
    | BINCONTROL => simp [isDualBit, type] at dual
    | MCA | MCB | MCC =>
        simp only [binaryValue, valueBit, type, isDualBit]
        cases isBakerDevice <;> rfl

/-- A binary point stores the value that its bit stands for, and publishes it
when it is new. -/
theorem scanExchange_binary (conf : CBOutstationConf) (now : Nat) (link : ScanLink calls outstation master) {index : Nat}
    {point : CBBinaryPoint}
    (there : outstation.pointTable.binary.odcPointMap index = some point)
    (inGroup : point.group = header.getGroup) :
    ∃ word, WordAt conf outstation header.getGroup point.payloadLocation word ∧
      ∃ value, binaryValue conf.isBakerDevice point (word &&& 0xFFF#16) = some value ∧
        ((scanExchange conf outstation master header now).1.binary.odcPointMap index).map
            (·.binary) = some value ∧
        (scanExchange conf outstation master header now).2.filter (isAbout (.binary, index)) =
          if isNews (master.binary.odcPointMap index) value then [.Binary index value now]
          else [] := by
  obtain ⟨word, atPlace, here, same, view, stored, events⟩ := scanExchange_own conf now
    link (placeOf_binary.mpr ⟨point, there, inGroup, rfl⟩)
  have layout := (link.atOutstation.binary.symm.trans link.atMaster.binary).trans same.binary
  obtain ⟨held, found, named, type, channel⟩ := binary_counterpart layout there
  have own := link.laidOutstation.binary.own index point there
  have input : InputChannel point.pointType point.channel :=
    (link.script.wellFormed _ (link.laidOutstation.binary.added index point there)).2.2
  have master : master.binary.odcPointMap index = some held := by
    simp only [pointAt, found, Option.map_some] at view
    obtain ⟨other, before, same⟩ := Option.map_eq_some_iff.mp view.symm
    rw [before, Sum.inr.inj same]
  refine ⟨word, atPlace, _, binaryValue_eq input _, ?_⟩
  have read : receiveBinary conf.isBakerDevice (word &&& 0xFFF#16) now here index =
      sendBinaryEvent here index
        (if point.pointType = .MCA then
          !(word &&& 0xFFF#16).getLsbD (valueBit conf.isBakerDevice point)
        else (word &&& 0xFFF#16).getLsbD (valueBit conf.isBakerDevice point)) now := by
    have sameValue : binaryValue conf.isBakerDevice held (word &&& 0xFFF#16) =
        binaryValue conf.isBakerDevice point (word &&& 0xFFF#16) := by
      simp only [binaryValue, type, channel]
    rw [receiveBinary_eq, found, Option.getD_some, sameValue, binaryValue_eq input]
  generalize (if point.pointType = .MCA then
      !(word &&& 0xFFF#16).getLsbD (valueBit conf.isBakerDevice point)
    else (word &&& 0xFFF#16).getLsbD (valueBit conf.isBakerDevice point)) = value at read ⊢
  have value' := congrArg (Option.map (Sum.elim (fun _ => true) (·.binary))) stored
  simp only [receive, read, sendBinaryEvent, found, Option.getD_some] at value' events
  rw [events, master]
  by_cases news : held.binary ≠ value ∨ held.hasBeenSet = false
  · rw [if_pos news] at value' ⊢
    constructor
    · simpa [pointAt, PointMaps.modify_odcPointMap, found, Option.map_map, Function.comp_def]
        using value'
    · have isNew : isNews (some held) value = true := by simpa [isNews] using news
      simp [isNew, named, own, isAbout, eventKey]
  · rw [if_neg news] at value' ⊢
    obtain ⟨stays, set⟩ := not_or.mp news
    constructor
    · simpa [pointAt, found, Option.map_map, Function.comp_def, not_not.mp stays] using value'
    · have isOld : isNews (some held) value = false := by
        simpa [isNews] using And.intro (not_not.mp stays) set
      simp [isOld]

/-! ## What the outstation puts into a word -/

section Words

variable {start table : PointTable} {index : Nat} {isBakerDevice : Bool}

/-- An analog point on the first channel that has its place for itself. -/
theorem matchingAnalogPoints_alone (script : ScanScript calls) (laid : Laid calls start)
    {point : CBAnalogCounterPoint} (there : start.analog.odcPointMap index = some point)
    (first : point.channel = 1)
    (alone : ∀ other found, start.analog.odcPointMap other = some found →
      found.group = point.group → found.payloadLocation = point.payloadLocation →
      found.channel ≠ 2) :
    start.matchingAnalogPoints point.group point.payloadLocation = [index] := by
  obtain ⟨groupSmall, inScan, -⟩ := script.wellFormed _ (laid.analog.added index point there)
  have placed := laid.analog.indexed.placed index point there
  rw [CBAnalogCounterPoint.place, first] at placed
  have second : start.analog.cbPointMap (getCBPointMapIndex point.group 2 point.payloadLocation) =
      none := by
    cases held : start.analog.cbPointMap
      (getCBPointMapIndex point.group 2 point.payloadLocation) with
    | none => rfl
    | some other =>
        obtain ⟨found, here, -⟩ := laid.analog.indexed.found _ other held
        obtain ⟨groupSmall', inScan', type⟩ :=
          script.wellFormed _ (laid.analog.added other found here)
        obtain ⟨group, channel, place⟩ := laid.analog.at_place here held rfl groupSmall
          (by decide) inScan.toOnWire groupSmall' (by omega) inScan'.toOnWire
        exact absurd channel (alone other found here group place)
  simp [matchingAnalogPoints, List.range_succ, placed, second]

theorem readPoints_analog (same : SameReadings start table) {group : Nat}
    {payloadLocation : PayloadLocationType} {point : CBAnalogCounterPoint}
    (there : start.analog.odcPointMap index = some point)
    (alone : start.matchingAnalogPoints group payloadLocation = [index]) :
    (readPoints isBakerDevice table group payloadLocation).2 = analogPayload point := by
  have matching : table.matchingAnalogPoints group payloadLocation = [index] := by
    rw [← alone]
    simp only [matchingAnalogPoints, same.analog]
  simp [readPoints, matching, same.analog, there]

/-- At the place of another kind of point there are no analog points. -/
theorem matchingAnalogPoints_nil (script : ScanScript calls) (laid : Laid calls start)
    {key : PointKey} {group : Nat} {payloadLocation : PayloadLocationType}
    (here : placeOf key start = some (group, payloadLocation)) (groupSmall : group < 16)
    (inScan : payloadLocation.InScan) (other : key.1 ≠ .analog) :
    start.matchingAnalogPoints group payloadLocation = [] := by
  refine List.eq_nil_iff_forall_not_mem.mpr fun found member => other ?_
  have there := placeOf_analog.mpr
    ((mem_matchingAnalogPoints script laid groupSmall inScan).mp member)
  exact sameUse script laid here there

theorem readPoints_counter (isBakerDevice : Bool) (script : ScanScript calls) (laid : Laid calls start)
    (same : SameReadings start table) {point : CBAnalogCounterPoint}
    (there : start.counter.odcPointMap index = some point) :
    (readPoints isBakerDevice table point.group point.payloadLocation).2 =
      BitVec.ofNat 16 point.analog := by
  obtain ⟨groupSmall, inScan, -⟩ := script.wellFormed _ (laid.counter.added index point there)
  have here : placeOf (.counter, index) start = some (point.group, point.payloadLocation) :=
    placeOf_counter.mpr ⟨point, there, rfl, rfl⟩
  have noAnalogs : table.matchingAnalogPoints point.group point.payloadLocation = [] := by
    rw [← matchingAnalogPoints_nil script laid here groupSmall inScan nofun]
    simp only [matchingAnalogPoints, same.analog]
  have counter : table.matchingCounterPoint point.group point.payloadLocation = some index := by
    rw [← (matchingCounterPoint_eq_some script laid groupSmall inScan).mpr
      ⟨point, there, rfl, rfl⟩]
    simp only [matchingCounterPoint, same.counter]
  simp [readPoints, noAnalogs, counter, same.counter, there]

theorem readPoints_binary (isBakerDevice : Bool) (script : ScanScript calls) (laid : Laid calls start)
    (same : SameReadings start table) {point : CBBinaryPoint}
    (there : start.binary.odcPointMap index = some point) :
    (readPoints isBakerDevice table point.group point.payloadLocation).2.getLsbD
        (valueBit isBakerDevice point) = wireValue point := by
  obtain ⟨groupSmall, inScan, input⟩ :=
    script.wellFormed _ (laid.binary.added index point there)
  have here : placeOf (.binary, index) start = some (point.group, point.payloadLocation) :=
    placeOf_binary.mpr ⟨point, there, rfl, rfl⟩
  have noAnalogs : table.matchingAnalogPoints point.group point.payloadLocation = [] := by
    rw [← matchingAnalogPoints_nil script laid here groupSmall inScan (by simp)]
    simp only [matchingAnalogPoints, same.analog]
  have noCounter : table.matchingCounterPoint point.group point.payloadLocation = none := by
    have before : start.matchingCounterPoint point.group point.payloadLocation = none := by
      cases held : start.matchingCounterPoint point.group point.payloadLocation with
      | none => rfl
      | some other =>
          have found := placeOf_counter.mpr
            ((matchingCounterPoint_eq_some script laid groupSmall inScan).mp held)
          exact absurd (sameUse script laid here found) (by simp)
    rw [← before]
    simp only [matchingCounterPoint, same.counter]
  have points : table.matchingBinaryPoints point.group point.payloadLocation =
      start.matchingBinaryPoints point.group point.payloadLocation := by
    simp only [matchingBinaryPoints, same.binary.places]
  have mine : index ∈ start.matchingBinaryPoints point.group point.payloadLocation :=
    (mem_matchingBinaryPoints script laid groupSmall inScan).mpr ⟨point, there, rfl, rfl⟩
  simp only [readPoints, noAnalogs, noCounter, points, ne_eq, not_true_eq_false, if_false]
  rw [getLsbD_foldl_readBinaryPoint there _ (fun other member => ?_) same]
  · simp [mine]
  · obtain ⟨found, held, group, place⟩ :=
      (mem_matchingBinaryPoints script laid groupSmall inScan).mp member
    have inputFound := (script.wellFormed _ (laid.binary.added other found held)).2.2
    refine ⟨found, held, inputFound, fun distinct => valueBit_apart input inputFound ?_⟩
    exact laid.bits.apart index point other found there held (Ne.symm distinct) group.symm
      place.symm

end Words

/-! ## Six-bit analog points -/

/-- The value that an event carries is stored as another one, on the lower half. -/
theorem sixBit_lower {data : BitVec 16} {value : Nat} (small : value ≤ 63)
    (carried : data = BitVec.ofNat 16 value) : (63#16 - (data &&& 0x3F#16)).toNat ≠ value := by
  subst carried
  have field : (BitVec.ofNat 16 value &&& 0x3F#16).toNat = value := by
    rw [BitVec.toNat_and, BitVec.toNat_ofNat, BitVec.toNat_ofNat, Nat.mod_eq_of_lt (by omega)]
    exact (Nat.and_two_pow_sub_one_eq_mod value 6).trans (Nat.mod_eq_of_lt (by omega))
  rw [BitVec.toNat_sub, field]
  simp only [BitVec.toNat_ofNat]
  omega

/-- On the upper half, only the largest value is stored as it is carried. -/
theorem sixBit_upper {data : BitVec 16} {value : Nat} (small : value ≤ 63)
    (carried : data = BitVec.ofNat 16 value)
    (stored : (63#16 - ((data >>> 6) &&& 0x3F#16)).toNat = value) : value = 63 := by
  subst carried
  have field : ((BitVec.ofNat 16 value >>> 6) &&& 0x3F#16).toNat = 0 := by
    rw [BitVec.toNat_and, BitVec.toNat_ushiftRight, BitVec.toNat_ofNat,
      Nat.mod_eq_of_lt (by omega), Nat.shiftRight_eq_div_pow, Nat.div_eq_of_lt (by omega),
      Nat.zero_and]
  rw [BitVec.toNat_sub, field] at stored
  simp only [BitVec.toNat_ofNat] at stored
  omega

/-- What agreement says of an analog point: the word is its value, and is read as its value. -/
theorem ScanAgrees.analogWord (link : ScanLink calls outstation master)
    (agrees : ScanAgrees conf outstation master header now) {index : Nat}
    {point : CBAnalogCounterPoint}
    (there : outstation.pointTable.analog.odcPointMap index = some point)
    (inGroup : point.group = header.getGroup) :
    ∃ word, WordAt conf outstation header.getGroup point.payloadLocation word ∧
      (word &&& 0xFFF#16) = BitVec.ofNat 16 point.analog ∧
      (analogValue point (word &&& 0xFFF#16)).toNat = point.analog := by
  obtain ⟨word, atPlace, stored, events⟩ :=
    scanExchange_analog conf now link there inGroup
  obtain ⟨value, published⟩ := agrees.analog index point there inGroup
  rw [stored] at value
  rw [events] at published
  simp only [List.cons.injEq, PublishedEvent.Analog.injEq, and_true, true_and] at published
  exact ⟨word, atPlace, published, Option.some.inj value⟩

/-- **A group with a six-bit analog point does not agree.** -/
theorem ScanAgrees.noSixBit (link : ScanLink calls outstation master)
    (agrees : ScanAgrees conf outstation master header now) :
    NoSixBit outstation.pointTable header.getGroup := by
  have script := link.script
  have laid := link.laidOutstation
  have lower (index : Nat) (point : CBAnalogCounterPoint)
      (there : outstation.pointTable.analog.odcPointMap index = some point)
      (inGroup : point.group = header.getGroup) (sixBit : point.pointType = .ANA6) :
      point.channel = 1 := by
    by_contra second
    obtain ⟨word, -, carried, stored⟩ := agrees.analogWord link there inGroup
    rw [analogValue, if_pos sixBit, if_neg second] at stored
    exact sixBit_lower (link.values.sixBit index point there sixBit) carried stored
  intro index point there inGroup sixBit
  have first := lower index point there inGroup sixBit
  obtain ⟨word, ⟨table, same, bits⟩, carried, stored⟩ := agrees.analogWord link there inGroup
  rw [analogValue, if_pos sixBit, if_pos first] at stored
  have largest := sixBit_upper (link.values.sixBit index point there sixBit) carried stored
  -- the point on the second channel would be a six-bit one as well
  have alone := matchingAnalogPoints_alone script laid there first
    fun other found held group _ second => by
      obtain ⟨-, -, type⟩ := script.wellFormed _ (laid.analog.added other found held)
      have sixBit : found.pointType = .ANA6 := by
        rcases type with ⟨-, one⟩ | ⟨type, -⟩
        · rw [second] at one
          cases one
        · exact type
      have one := lower other found held (group.trans inGroup) sixBit
      rw [second] at one
      cases one
  rw [inGroup] at alone
  have carriedBit : (word &&& 0xFFF#16).getLsbD 2 = true := by
    rw [carried, largest]
    decide
  have sentBit := bits 2 (by decide)
  have notStatus : 2 ∉ statusBits := by decide
  rw [if_neg (fun both => notStatus both.2), readPoints_analog same there alone, analogPayload, if_pos sixBit,
    if_pos first, BitVec.getLsbD_shiftLeft] at sentBit
  rw [BitVec.getLsbD_and, sentBit] at carriedBit
  simp at carriedBit

/-! ## The agreement -/

/-- A word with a status byte is a value when the value has the flags on its bits. -/
theorem masked_eq_iff {word value : BitVec 16} {status : Bool} {flag : Nat → Bool}
    (bits : ∀ i < 16, word.getLsbD i =
      if status = true ∧ i ∈ statusBits then flag i else value.getLsbD i)
    (small : value.toNat < 4096) :
    (word &&& 0xFFF#16) = value ↔
      (status = true → ∀ bit ∈ statusBits, value.getLsbD bit = flag bit) := by
  have masked (i : Nat) (inWord : i < 12) : (word &&& 0xFFF#16).getLsbD i =
      if status = true ∧ i ∈ statusBits then flag i else value.getLsbD i := by
    rw [CBBlockData.getLsbD_and_section word inWord, bits i (by omega)]
  have inSection : ∀ bit ∈ statusBits, bit < 12 := by decide
  constructor
  · intro same told bit member
    have here := masked bit (inSection bit member)
    rwa [same, if_pos ⟨told, member⟩] at here
  · intro flags
    refine (CBBlockData.section_ext (fun i inWord => ?_) fun i outside => ?_).symm
    · rw [bits i (by omega)]
      split
      · next status => exact flags status.1 i status.2
      · rfl
    · have above : 2 ^ 12 ≤ 2 ^ i := Nat.pow_le_pow_right (by decide) outside
      rw [← BitVec.testBit_toNat]
      exact Nat.testBit_lt_two_pow (by omega)

theorem ofNat_toNat_of_fits {value : Nat} (small : value < 4096) :
    (BitVec.ofNat 16 value).toNat = value := by
  rw [BitVec.toNat_ofNat, Nat.mod_eq_of_lt (by omega)]

/-- An analog point of twelve bits agrees when the flags agree with it. -/
theorem analog_agrees_iff (link : ScanLink calls outstation master)
    (noSixBit : NoSixBit outstation.pointTable header.getGroup) {index : Nat}
    {point : CBAnalogCounterPoint}
    (there : outstation.pointTable.analog.odcPointMap index = some point)
    (inGroup : point.group = header.getGroup) :
    (((scanExchange conf outstation master header now).1.analog.odcPointMap index).map
          (·.analog) = some point.analog ∧
        (scanExchange conf outstation master header now).2.filter (isAbout (.analog, index)) =
          [.Analog index (BitVec.ofNat 16 point.analog) now]) ↔
      (outstation.pointTable.isStatusByteLocation header.getGroup point.payloadLocation = true →
        ∀ bit ∈ statusBits,
          (BitVec.ofNat 16 point.analog).getLsbD bit = statusFlag outstation bit) := by
  have script := link.script
  have laid := link.laidOutstation
  have twelve := noSixBit index point there inGroup
  have fits := link.values.analog index point there
  obtain ⟨-, -, type⟩ := script.wellFormed _ (laid.analog.added index point there)
  obtain ⟨word, ⟨table, same, bits⟩, stored, events⟩ :=
    scanExchange_analog conf now link there inGroup
  have alone := matchingAnalogPoints_alone script laid there
    (type.resolve_right fun sixBit => twelve sixBit.1).2
    fun other found held group _ second => by
      obtain ⟨-, -, type'⟩ := script.wellFormed _ (laid.analog.added other found held)
      rcases type' with ⟨-, one⟩ | ⟨sixBit, -⟩
      · rw [second] at one
        cases one
      · exact noSixBit other found held (group.trans inGroup) sixBit
  rw [inGroup] at alone
  rw [readPoints_analog same there alone, analogPayload, if_neg twelve] at bits
  have value : analogValue point (word &&& 0xFFF#16) = word &&& 0xFFF#16 := if_neg twelve
  rw [← masked_eq_iff bits (by rwa [ofNat_toNat_of_fits fits]), stored, events, value]
  constructor
  · rintro ⟨-, published⟩
    simpa using published
  · intro carried
    rw [carried, ofNat_toNat_of_fits fits]
    exact ⟨rfl, rfl⟩

/-- A counter agrees when the flags agree with it. -/
theorem counter_agrees_iff (link : ScanLink calls outstation master) {index : Nat}
    {point : CBAnalogCounterPoint}
    (there : outstation.pointTable.counter.odcPointMap index = some point)
    (inGroup : point.group = header.getGroup) :
    (((scanExchange conf outstation master header now).1.counter.odcPointMap index).map
          (·.analog) = some point.analog ∧
        (scanExchange conf outstation master header now).2.filter (isAbout (.counter, index)) =
          [.Counter index (BitVec.ofNat 16 point.analog) now]) ↔
      (outstation.pointTable.isStatusByteLocation header.getGroup point.payloadLocation = true →
        ∀ bit ∈ statusBits,
          (BitVec.ofNat 16 point.analog).getLsbD bit = statusFlag outstation bit) := by
  have fits := link.values.counter index point there
  obtain ⟨word, ⟨table, same, bits⟩, stored, events⟩ :=
    scanExchange_counter conf now link there inGroup
  have read := readPoints_counter conf.isBakerDevice link.script
    link.laidOutstation same there
  rw [inGroup] at read
  rw [read] at bits
  rw [← masked_eq_iff bits (by rwa [ofNat_toNat_of_fits fits]), stored, events]
  constructor
  · rintro ⟨-, published⟩
    simpa using published
  · intro carried
    rw [carried, ofNat_toNat_of_fits fits]
    exact ⟨rfl, rfl⟩

/-- A binary point agrees when the flag at its bit does. -/
theorem binary_agrees_iff (link : ScanLink calls outstation master) {index : Nat}
    {point : CBBinaryPoint}
    (there : outstation.pointTable.binary.odcPointMap index = some point)
    (inGroup : point.group = header.getGroup) :
    (((scanExchange conf outstation master header now).1.binary.odcPointMap index).map
          (·.binary) = some point.binary ∧
        (scanExchange conf outstation master header now).2.filter (isAbout (.binary, index)) =
          if isNews (master.binary.odcPointMap index) point.binary then
            [.Binary index point.binary now]
          else []) ↔
      (outstation.pointTable.isStatusByteLocation header.getGroup point.payloadLocation = true →
        valueBit conf.isBakerDevice point ∈ statusBits →
        wireValue point = statusFlag outstation (valueBit conf.isBakerDevice point)) := by
  have input : InputChannel point.pointType point.channel :=
    (link.script.wellFormed _ (link.laidOutstation.binary.added index point there)).2.2
  obtain ⟨word, ⟨table, same, bits⟩, value, read, stored, events⟩ :=
    scanExchange_binary conf now link there inGroup
  have inSection := valueBit_lt conf.isBakerDevice input
  have sent := readPoints_binary conf.isBakerDevice link.script
    link.laidOutstation same there
  rw [inGroup] at sent
  have bit : (word &&& 0xFFF#16).getLsbD (valueBit conf.isBakerDevice point) =
      if outstation.pointTable.isStatusByteLocation header.getGroup point.payloadLocation = true ∧
          valueBit conf.isBakerDevice point ∈ statusBits then
        statusFlag outstation (valueBit conf.isBakerDevice point)
      else wireValue point := by
    rw [CBBlockData.getLsbD_and_section word inSection, bits _ (by omega), sent]
  have decoded : value = point.binary ↔
      (word &&& 0xFFF#16).getLsbD (valueBit conf.isBakerDevice point) = wireValue point := by
    rw [binaryValue_eq input, Option.some.injEq] at read
    rw [← read, wireValue]
    split
    · exact Bool.not_eq_eq_eq_not
    · exact Iff.rfl
  have agree : (word &&& 0xFFF#16).getLsbD (valueBit conf.isBakerDevice point) =
        wireValue point ↔
      (outstation.pointTable.isStatusByteLocation header.getGroup point.payloadLocation = true →
        valueBit conf.isBakerDevice point ∈ statusBits →
        wireValue point = statusFlag outstation (valueBit conf.isBakerDevice point)) := by
    rw [bit]
    split
    · next status => exact ⟨fun same _ _ => same.symm, fun flags => (flags status.1 status.2).symm⟩
    · next other => exact ⟨fun _ told member => absurd ⟨told, member⟩ other, fun _ => rfl⟩
  rw [← agree, ← decoded, stored, events]
  constructor
  · rintro ⟨same, -⟩
    exact Option.some.inj same
  · rintro rfl
    exact ⟨rfl, rfl⟩

/-- **The scan agrees** when the group has no six-bit analog point and the points
at the place of the status byte have what the flags put there, and then only. -/
theorem scanAgrees_iff (conf : CBOutstationConf) (header : CBBlockData) (now : Nat)
    (link : ScanLink calls outstation master) :
    ScanAgrees conf outstation master header now ↔
      NoSixBit outstation.pointTable header.getGroup ∧
        StatusAgrees conf.isBakerDevice outstation header.getGroup := by
  constructor
  · intro agrees
    have noSixBit := agrees.noSixBit link
    exact ⟨noSixBit,
      fun index point there inGroup => (analog_agrees_iff link noSixBit there inGroup).mp
        (agrees.analog index point there inGroup),
      fun index point there inGroup => (counter_agrees_iff link there inGroup).mp
        (agrees.counter index point there inGroup),
      fun index point there inGroup => (binary_agrees_iff link there inGroup).mp
        (agrees.binary index point there inGroup)⟩
  · rintro ⟨noSixBit, status⟩
    exact ⟨fun index point there inGroup => (analog_agrees_iff link noSixBit there inGroup).mpr
        (status.analog index point there inGroup),
      fun index point there inGroup => (counter_agrees_iff link there inGroup).mpr
        (status.counter index point there inGroup),
      fun index point there inGroup => (binary_agrees_iff link there inGroup).mpr
        (status.binary index point there inGroup)⟩

/-- A group with one point of each kind, and two of them in one word. -/
def mixedScript : List PointCall :=
  [.analog 0 1 1 ⟨1, .PositionB⟩ .ANA, .counter 0 1 1 ⟨2, .PositionA⟩ .ACC12,
    .binary 0 1 1 ⟨2, .PositionB⟩ .MCA false 0, .binary 1 1 7 ⟨2, .PositionB⟩ .DIG false 0]

def mixedStation : CBOutstation :=
  let loaded := (({} : PointTable).load mixedScript).1
  { pointTable :=
      { loaded with
        analog := loaded.analog.modify 0 (·.setAnalog 1234 5)
        counter := loaded.counter.modify 0 (·.setAnalog 77 5)
        binary := loaded.binary.modify 1 (·.setBinary false 5) } }

theorem mixedLink :
    ScanLink mixedScript mixedStation (({} : PointTable).load mixedScript).1 where
  script := ⟨by decide, by decide, by decide⟩
  accepted := by decide +kernel
  atOutstation :=
    { SameLayout.refl _ with
      analog := (SameLayout.refl _).analog.modify 0 fun _ => rfl
      counter := (SameLayout.refl _).counter.modify 0 fun _ => rfl
      binary := (SameLayout.refl _).binary.modify 1 fun _ => rfl }
  atMaster := SameLayout.refl _
  values := by
    constructor
    · intro index point there
      match index with
      | 0 => cases there; decide
      | index + 1 => cases there
    · intro index point there sixBit
      match index with
      | 0 => cases there; cases sixBit
      | index + 1 => cases there
    · intro index point there
      match index with
      | 0 => cases there; decide
      | index + 1 => cases there

/-- The scan of the group comes across. -/
theorem scanAgrees_iff_mixed :
    ScanAgrees {} mixedStation (({} : PointTable).load mixedScript).1
      (.addressBlock 1 1 FUNC_SCAN_DATA 0#16 true) 7 := by
  refine (scanAgrees_iff {} _ 7 mixedLink).mpr ⟨fun index point there _ => ?_, ?_⟩
  · match index with
    | 0 => cases there; decide
    | index + 1 => cases there
  · constructor <;> intro index point _ _ status <;> simp at status <;> cases status

/-- A group with one six-bit analog point, of value 20. -/
def sixBitScript : List PointCall := [.analog 0 1 1 ⟨1, .PositionB⟩ .ANA6]

def sixBitStation : CBOutstation :=
  let loaded := (({} : PointTable).load sixBitScript).1
  { pointTable := { loaded with analog := loaded.analog.modify 0 (·.setAnalog 20 5) } }

theorem sixBitLink :
    ScanLink sixBitScript sixBitStation (({} : PointTable).load sixBitScript).1 where
  script := ⟨by decide, by decide, by decide⟩
  accepted := by decide +kernel
  atOutstation :=
    { SameLayout.refl _ with analog := (SameLayout.refl _).analog.modify 0 fun _ => rfl }
  atMaster := SameLayout.refl _
  values := by
    constructor
    · intro index point there
      match index with
      | 0 => cases there; decide
      | index + 1 => cases there
    · intro index point there _
      match index with
      | 0 => cases there; decide
      | index + 1 => cases there
    · intro index point there
      cases there

/-- The event of the six-bit point carries 2752, the word with the inverted value
on its upper half. -/
theorem scanAgrees_sixBit :
    ScanLink sixBitScript sixBitStation (({} : PointTable).load sixBitScript).1 ∧
      ¬ ScanAgrees {} sixBitStation (({} : PointTable).load sixBitScript).1
        (.addressBlock 1 1 FUNC_SCAN_DATA 0#16 true) 7 := by
  refine ⟨sixBitLink, fun agrees => ?_⟩
  have published := (agrees.analog 0 _ rfl (by decide)).2
  have event : (scanExchange {} sixBitStation (({} : PointTable).load sixBitScript).1
      (.addressBlock 1 1 FUNC_SCAN_DATA 0#16 true) 7).2.filter (isAbout (.analog, 0)) =
      [.Analog 0 2752#16 7] := by decide +kernel
  rw [event] at published
  exact absurd published (by decide)

end OpenDataCon.CBPort

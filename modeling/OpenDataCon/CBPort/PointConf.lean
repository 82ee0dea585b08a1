import OpenDataCon.CBPort.PointTable

/-!
# Loading binary points

An entry of the configuration is a point, or a range of points on consecutive
channels. The loader reads its members, refuses the entry when one is missing or
out of range, and otherwise makes one addition for every index of the range,
each with the next channel and the next SOE index.

A number of the configuration that does not fit its type stops the loading, and
so does a range that ends at the largest index, which is never left. What comes
of both is `none`.
-/

set_option autoImplicit false

namespace OpenDataCon.CBPort

inductive PointType where
  | Binary | Analog | Counter | BinaryControl | AnalogControl
deriving DecidableEq, Repr

/-- An unsigned number of the configuration. Larger numbers are refused by an exception. -/
def asUInt (value : Nat) : Option Nat := if value < 2 ^ 32 then some value else none

/-- The packet and the section named by a text such as "2A" or "15B". The
section A of the first packet is taken by the address. -/
def parsePayloadString (pl : List Char) : Option PayloadLocationType :=
  match pl with
  | first :: second :: rest =>
    if '1' ≤ first ∧ first ≤ '9' then
      if '0' ≤ second ∧ second ≤ '6' ∧ first = '1' then
        if rest.head? = some 'A' then some ⟨second.toNat - '0'.toNat + 10, .PositionA⟩
        else if rest.head? = some 'B' then some ⟨second.toNat - '0'.toNat + 10, .PositionB⟩
        else none
      else if second = 'A' then
        if first.toNat - '0'.toNat = 1 then none else some ⟨first.toNat - '0'.toNat, .PositionA⟩
      else if second = 'B' then some ⟨first.toNat - '0'.toNat, .PositionB⟩
      else none
    else none
  | _ => none

/-- The members of an entry; a member that is missing is `none`. -/
structure BinaryPointEntry where
  index : Option Nat := none
  rangeStart : Option Nat := none
  rangeStop : Option Nat := none
  payloadLocation : Option (List Char) := none
  group : Option Nat := none
  channel : Option Nat := none
  type : Option (List Char) := none
  soe : Option (Option Nat) := none
deriving DecidableEq, Repr

/-- What was read of an entry. -/
structure BinaryPointRange where
  start : Nat
  stop : Nat
  group : Nat
  channel : Nat
  payloadLocation : PayloadLocationType
  pointType : BinaryPointType
  isSOE : Bool
  soeIndex : Nat
deriving DecidableEq, Repr

/-- The first and the last index, and whether they are missing. -/
def BinaryPointEntry.readRange (entry : BinaryPointEntry) : Option (Nat × Nat × Bool) :=
  match entry.index with
  | some index => do
    let index ← asUInt index
    pure (index, index, false)
  | none =>
    match entry.rangeStart, entry.rangeStop with
    | some start, some stop => do pure (← asUInt start, ← asUInt stop, false)
    | _, _ => pure (1, 0, true)

/-- A control is always in the first packet. -/
def BinaryPointEntry.readPayloadLocation (entry : BinaryPointEntry) (ptype : PointType) :
    PayloadLocationType × Bool :=
  if ptype = .Binary then
    match entry.payloadLocation with
    | some text =>
      match parsePayloadString text with
      | some payloadLocation => (payloadLocation, false)
      | none => ({}, true)
    | none => ({}, true)
  else (⟨1, .PositionB⟩, false)

/-- A number that must be there. -/
def readNumber (member : Option Nat) : Option (Nat × Bool) :=
  match member with
  | some value => do pure (← asUInt value, false)
  | none => pure (0, true)

def BinaryPointEntry.readType (entry : BinaryPointEntry) : BinaryPointType × Bool :=
  if entry.type = some ['D', 'I', 'G'] then (.DIG, false)
  else if entry.type = some ['M', 'C', 'A'] then (.MCA, false)
  else if entry.type = some ['M', 'C', 'B'] then (.MCB, false)
  else if entry.type = some ['M', 'C', 'C'] then (.MCC, false)
  else if entry.type = some ['C', 'O', 'N', 'T', 'R', 'O', 'L'] then (.BINCONTROL, false)
  else (.DIG, true)

/-- The SOE index is kept in eight bits before it is tested. -/
def BinaryPointEntry.readSOE (entry : BinaryPointEntry) (pointType : BinaryPointType) :
    Option (Bool × Nat × Bool) :=
  if pointType = .BINCONTROL then pure (false, 0, false)
  else
    match entry.soe with
    | none => pure (false, 0, false)
    | some none => pure (false, 0, true)
    | some (some index) => do
      let soeIndex := (← asUInt index) % 2 ^ 8
      pure (true, soeIndex, decide (soeIndex > 120))

/-- Read an entry; `some none` is an entry that is refused. -/
def BinaryPointEntry.read (entry : BinaryPointEntry) (ptype : PointType) :
    Option (Option BinaryPointRange) := do
  let (start, stop, rangeError) ← entry.readRange
  let (payloadLocation, locationError) := entry.readPayloadLocation ptype
  let (group, groupError) ← readNumber entry.group
  let (channel, channelError) ← readNumber entry.channel
  let (pointType, typeError) := entry.readType
  let (isSOE, soeIndex, soeError) ← entry.readSOE pointType
  -- the payload location of an input overwrites the error of the range, which is then empty
  let placeError := if ptype = .Binary then locationError else rangeError
  if placeError || groupError || channelError || typeError || soeError then pure none
  else
    pure (some { start, stop, group, channel, payloadLocation, pointType, isSOE, soeIndex })

/-- The addition for one index of a range, when it passes the checks of its type. -/
def pointCall (ptype : PointType) (range : BinaryPointRange) (index currentchannel soeIndex : Nat) :
    Option PointTable.PointCall :=
  match ptype with
  | .Binary =>
    if range.pointType = .DIG ∧ (currentchannel < 1 ∨ currentchannel > 12) then none
    else if PointTable.isDualBit range.pointType ∧ (currentchannel < 1 ∨ currentchannel > 6) then
      none
    else if range.pointType = .BINCONTROL then none
    else
      some (.binary index (range.group % 2 ^ 8) currentchannel range.payloadLocation
        range.pointType range.isSOE soeIndex)
  | .BinaryControl =>
    if range.pointType ≠ .BINCONTROL then none
    else if currentchannel < 1 ∨ currentchannel > 12 then none
    else some (.binaryControl index (range.group % 2 ^ 8) currentchannel range.pointType)
  | _ => none

/-- The additions of an entry. The channel and the SOE index are eight bits. -/
def binaryEntryCalls (ptype : PointType) (entry : BinaryPointEntry) :
    Option (List PointTable.PointCall) := do
  match ← entry.read ptype with
  | none => pure []
  | some range =>
    -- no index is above the largest one, so the loop is not left
    if range.start ≤ range.stop ∧ range.stop = 2 ^ 32 - 1 then none
    else
      pure ((List.range (range.stop + 1 - range.start)).filterMap fun i =>
        pointCall ptype range (range.start + i) ((range.channel + i) % 2 ^ 8)
          ((range.soeIndex + i) % 2 ^ 8))

/-- The additions of some entries. -/
def binaryPointCalls (ptype : PointType) :
    List BinaryPointEntry → Option (List PointTable.PointCall)
  | [] => pure []
  | entry :: rest => do pure ((← binaryEntryCalls ptype entry) ++ (← binaryPointCalls ptype rest))

/-- Load the entries; the result tells whether every addition was accepted. -/
def processBinaryPoints (ptype : PointType) (entries : List BinaryPointEntry)
    (table : PointTable) : Option (PointTable × Bool) :=
  (binaryPointCalls ptype entries).map table.load

end OpenDataCon.CBPort

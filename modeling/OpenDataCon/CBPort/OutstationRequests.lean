import OpenDataCon.CBPort.Outstation

/-!
# Requests to the outstation

The dispatch of a message by its function (`processCBMessage`), the requests
that concern the station itself and its event queue, and the data that other
ports give to the outstation (`event`). `OutstationAction` is what happens on
the strand of an outstation.
-/

set_option autoImplicit false

namespace OpenDataCon.CBPort

open Runs

/-! ## Times of day on the wire -/

/-- The time of day in the three words of a time update. -/
def decodeTimePayload (p1B p2A p2B : BitVec 16) : HMSMSEC where
  hour := ((p1B.toNat &&& 0x07) <<< 2) ||| ((p2A.toNat >>> 10) &&& 0x03)
  min := (p2A.toNat >>> 4) &&& 0x03F
  sec := ((p2A.toNat &&& 0x0F) <<< 2) ||| ((p2B.toNat >>> 10) &&& 0x03)
  msec := p2B.toNat &&& 0x03FF

/-- The three words of a time of day; the first one also holds the number of blocks. -/
def packageTimePayload (time : HMSMSEC) : BitVec 16 × BitVec 16 × BitVec 16 :=
  (BitVec.ofNat 16 (((time.hour >>> 2) &&& 0x07) ||| 0x20),
    BitVec.ofNat 16 (shiftLeftResult16Bits (time.hour &&& 0x03) 10 |||
      shiftLeftResult16Bits (time.min &&& 0x3F) 4 ||| ((time.sec >>> 2) &&& 0x0F)),
    BitVec.ofNat 16 (shiftLeftResult16Bits (time.sec &&& 0x03) 10 ||| (time.msec &&& 0x3FF)))

/-- The time of day of a number of milliseconds. -/
def toHhmmssmm (time : Nat) : HMSMSEC where
  hour := time / 1000 / 60 / 60 % 24
  min := time / 1000 / 60 % 60
  sec := time / 1000 % 60
  msec := time % 1000

/-- The minutes of a time of day, rounded. -/
def roundedMinutes (time : HMSMSEC) : Int :=
  (time.hour : Int) * 60 + time.min + if time.sec > 30 then 1 else 0

/-- A difference in minutes, taken to the nearer half of the day. -/
def nearerDay (minutes : Int) : Int :=
  let minutes := if minutes > 720 then minutes - 1440 else minutes
  if minutes < -720 then minutes + 1440 else minutes

namespace CBOutstation

/-! ## Station requests -/

/-- Take the offset of the master's clock, and answer with the time it sent. -/
def processUpdateTimeRequest (outstation : CBOutstation) (header second : CBBlockData)
    (now : Nat) : CBOutstation × List OutstationOutput :=
  let clock := toHhmmssmm now
  let sent := decodeTimePayload header.getB second.getA second.getB
  let offset := nearerDay (roundedMinutes sent - roundedMinutes clock)
  let outstation :=
    { outstation with clock := { outstation.clock with soeTimeOffsetMinutes := offset } }
  let setMilliSecs : Int :=
    ((((sent.hour : Int) * 60 + sent.min) * 60 + sent.sec) * 1000 + sent.msec +
      outstation.clock.systemClockOffsetMilliSeconds) % 2 ^ 64
  let (p1B, p2A, p2B) := packageTimePayload (toHhmmssmm setMilliSecs.toNat)
  outstation.sendCBMessage [header.setB p1B, (second.setA p2A).setB p2B]

def remoteStatusWordResponse (outstation : CBOutstation) (header : CBBlockData) :
    CBOutstation × List OutstationOutput :=
  let (outstation, payload) := outstation.getStatusPayload 0#16
  outstation.sendCBMessage [answerBlock header payload]

/-- The group of the header tells what is requested. -/
def funcMasterStationRequest (outstation : CBOutstation) (header : CBBlockData)
    (completeCBMessage : CBMessage) (now : Nat) : CBOutstation × List OutstationOutput :=
  match header.getGroup with
  | 1 | 2 | 3 | 4 | 10 => outstation.echoReceivedHeaderToMaster header
  | 5 =>
    let dataIndex := header.getB >>> 8
    let numberOfBlocksInMessage := (header.getB >>> 4) &&& 0x00F#16
    match completeCBMessage with
    | [_, second] =>
      if dataIndex = 0#16 ∧ numberOfBlocksInMessage = 2#16 then
        outstation.processUpdateTimeRequest header second now
      else (outstation, [])
    | _ => (outstation, [])
  | 8 => outstation.remoteStatusWordResponse header
  | 11 => outstation.sendCBMessage outstation.lastSentCBMessage
  | _ => (outstation, [])

/-! ## Events -/

def funcReSendSOEResponse (outstation : CBOutstation) : CBOutstation × List OutstationOutput :=
  outstation.sendCBMessage outstation.lastSentSOEMessage

/-- The answer to an event poll: the events that fit are popped and sent. An
empty queue is answered with the header as it came. -/
def funcSendSOEResponse (outstation : CBOutstation) (header : CBBlockData) :
    CBOutstation × List OutstationOutput :=
  let table := outstation.pointTable
  let packed := buildPackedEventBitArray outstation.clock table.soe.binaryTimeTaggedEventQueue
  let response :=
    if table.soe.timeTaggedDataAvailable then
      convertPayloadWordsToCBMessage header
        (convertBitArrayToPayloadWords packed.bitArray.length packed.bitArray)
    else [header]
  let remaining := if table.soe.timeTaggedDataAvailable then packed.remaining else []
  sendCBMessage
    { outstation with
      pointTable :=
        { table with soe := { table.soe with binaryTimeTaggedEventQueue := remaining } }
      lastSentSOEMessage := response }
    response

/-! ## Dispatch -/

/-- Act on a message by the function of its header. -/
def processCBMessage (conf : CBOutstationConf) (outstation : CBOutstation)
    (completeCBMessage : CBMessage) (now : Nat) : CBOutstation × List OutstationOutput :=
  if !outstation.enabled then (outstation, [])
  else
    match completeCBMessage with
    | [] => (outstation, [])
    | header :: _ =>
      let code := header.getFunctionCode
      if code = FUNC_SCAN_DATA then outstation.scanRequest conf header
      else if code = FUNC_EXECUTE_COMMAND then outstation.executeCommand conf header now
      else if code = FUNC_TRIP then outstation.funcTripClose conf header .Trip now
      else if code = FUNC_SETPOINT_A then outstation.funcSetAB header .SetA now
      else if code = FUNC_CLOSE then outstation.funcTripClose conf header .Close now
      else if code = FUNC_SETPOINT_B then outstation.funcSetAB header .SetB now
      else if code = FUNC_MASTER_STATION_REQUEST then
        outstation.funcMasterStationRequest header completeCBMessage now
      else if code = FUNC_SEND_NEW_SOE then outstation.funcSendSOEResponse header
      else if code = FUNC_REPEAT_SOE then outstation.funcReSendSOEResponse
      -- the other functions are not implemented, or unknown
      else (outstation, [])

/-- A value that another port gives to the outstation. -/
inductive PointEvent where
  | Analog (index meas : Nat)
  | Counter (index meas : Nat)
  | Binary (index : Nat) (meas : Bool) (timestamp : Nat)
  | AnalogQuality (index : Nat) (online : Bool)
  | CounterQuality (index : Nat) (online : Bool)
deriving DecidableEq, Repr

/-- Store a value. Points that are not known are passed over, and a bad quality
stores the value of a missing point. -/
def event (conf : CBOutstationConf) (outstation : CBOutstation) (pointEvent : PointEvent)
    (now : Nat) : CBOutstation :=
  if !outstation.enabled then outstation
  else
    let table := outstation.pointTable
    match pointEvent with
    | .Analog index meas =>
      { outstation with pointTable := (table.setAnalogValueUsingODCIndex index meas now).1 }
    | .Counter index meas =>
      { outstation with pointTable := (table.setCounterValueUsingODCIndex index meas now).1 }
    | .Binary index meas timestamp =>
      let apart := ((now / 1000 : Nat) : Int) - ((timestamp / 1000 : Nat) : Int)
      -- the time is replaced when it is near the current time
      let eventtime :=
        if conf.overrideOldTimeStamps && decide (apart.natAbs < 60 * 30) then now else timestamp
      { outstation with
        pointTable := (table.setBinaryValueUsingODCIndex index meas eventtime now).1 }
    | .AnalogQuality index online =>
      if online then outstation
      else { outstation with pointTable := (table.setAnalogValueUsingODCIndex index 0 now).1 }
    | .CounterQuality index online =>
      if online then outstation
      else { outstation with pointTable := (table.setCounterValueUsingODCIndex index 0 now).1 }

/-- What happens on the strand of an outstation, and what its operator does. -/
inductive OutstationAction where
  | message (completeCBMessage : CBMessage) (now : Nat)
  | event (pointEvent : PointEvent) (now : Nat)
  | executeResult (header : CBBlockData) (status : ControlStatus)
  | setEnabled (enabled : Bool)
  | failControl (active : Bool)
  | setRTUReStartFlag (active : Bool)
  | setRTUControlIsolateFlag (active : Bool)
  | adjustTimeOffsetMilliSeconds (millisecondoffset : Int)

def step (conf : CBOutstationConf) (outstation : CBOutstation) :
    OutstationAction → CBOutstation × List OutstationOutput
  | .message completeCBMessage now => outstation.processCBMessage conf completeCBMessage now
  | .event pointEvent now => (outstation.event conf pointEvent now, [])
  | .executeResult header status => outstation.executeCallback header status
  | .setEnabled enabled => ({ outstation with enabled := enabled }, [])
  | .failControl active => ({ outstation with failControlResponse := active }, [])
  | .setRTUReStartFlag active =>
    ({ outstation with systemFlags := { outstation.systemFlags with startUp := active } }, [])
  | .setRTUControlIsolateFlag active =>
    ({ outstation with
        systemFlags := { outstation.systemFlags with controlIsolate := active } }, [])
  | .adjustTimeOffsetMilliSeconds millisecondoffset =>
    ({ outstation with
        clock :=
          { outstation.clock with systemClockOffsetMilliSeconds := millisecondoffset } }, [])

end CBOutstation

end OpenDataCon.CBPort

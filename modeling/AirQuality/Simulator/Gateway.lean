import AirQuality.Codec.Base64
import AirQuality.Ingestion.Envelope
import AirQuality.Lib.Base64
import AirQuality.Lib.Machine
import AirQuality.Lib.Word

/-!
# The gateway of the simulator

`services/simulator/src/gateway.ts`, a Semtech UDP packet forwarder: what it sends, the waits for a downlink with their timeouts, and
the handler of the downlinks that nobody waits for. The text of JSON is a parameter. A wait is named by its number.
-/

namespace AirQuality

/-- `PROTO_VERSION` -/
def protoVersion : UInt8 := 0x02

/-- `PUSH_DATA` -/
def pushData : UInt8 := 0x00

/-- `PULL_DATA` -/
def pullData : UInt8 := 0x02

/-- `PULL_RESP` -/
def pullResp : UInt8 := 0x03

/-- `TX_ACK` -/
def txAck : UInt8 := 0x05

/-- An entry of `rxpk`, but for the fields that are always the same. -/
structure Rxpk where
  tmst : Nat
  time : String
  rssi : ℤ
  lsnr : ℚ
  size : Nat
  data : String
deriving DecidableEq

/-- `JSON.stringify` of a PUSH_DATA, `JSON.parse` of a datagram's text, and `Buffer.from` of an object or of an array that has other
entries than numbers; `none` if they throw. -/
structure DatagramText where
  stringify : Rxpk → List UInt8
  parse : List UInt8 → Option Json
  bufferFromObject : Json → Option (List UInt8)

/-- What the radio says of an uplink: the time and how well it was heard, rounded. -/
structure Heard where
  now : Nat
  time : String
  rssi : ℤ
  lsnr : ℚ
deriving DecidableEq

/-- The `rxpk` of an uplink. -/
def rxpk (heard : Heard) (phyPayload : List UInt8) : Rxpk where
  tmst := heard.now * 1000 % 2 ^ 32
  time := heard.time
  rssi := heard.rssi
  lsnr := heard.lsnr
  size := phyPayload.length
  data := String.ofList (Base64.encode Base64.standard phyPayload)

/-- The last eight bytes of a buffer of twelve zeros, once `euiBytes` is copied to its byte 4. -/
def euiField (euiBytes : List UInt8) : List UInt8 := (euiBytes ++ List.replicate 8 0).take 8

/-- `header` -/
def header (euiBytes : List UInt8) (token : UInt16) (packetType : UInt8) : List UInt8 :=
  protoVersion :: Word.high token :: Word.low token :: packetType :: euiField euiBytes

/-- The acknowledgement of a PULL_RESP. -/
def ackOf (euiBytes msg : List UInt8) : List UInt8 :=
  protoVersion :: msg.getD 1 0 :: msg.getD 2 0 :: txAck :: euiField euiBytes

/-- `json.txpk?.data`; `none` is undefined, or that `json` is null. -/
def txpkData : Json → Option Json
  | .object fields =>
    match field fields "txpk" with
    | some (.object txpk) => field txpk "data"
    | _ => none
  | _ => none

/-- An entry of an array that is a number, as a typed array stores it. -/
def octetOf : Json → Option UInt8
  | .number v => some v.toUint8
  | _ => none

/-- `Buffer.from(data, 'base64')`, of a value that the text of a datagram can give; `none` if it throws. -/
def DatagramText.bufferFrom (text : DatagramText) : Json → Option (List UInt8)
  | .string data => some (bufferFromBase64 data)
  | .array items =>
    match items.mapM octetOf with
    | some octets => some octets
    | none => text.bufferFromObject (.array items)
  | .object fields => text.bufferFromObject (.object fields)
  | .null | .bool _ | .number _ => none

/-- The PHYPayload of a PULL_RESP; `none` if it has none, or is malformed. No text is no data. -/
def pullRespData (text : DatagramText) (msg : List UInt8) : Option (List UInt8) :=
  match (text.parse (msg.drop 4)).bind txpkData with
  | none | some (.string "") => none
  | some data => text.bufferFrom data

/-- `SemtechGateway`, with the timeouts that are pending. -/
structure SemtechGateway where
  downlinkWaiters : List Nat
  dataDownlinkHandler : Bool
  timers : List Nat
  waits : Nat
deriving DecidableEq

inductive GatewayEvent where
  /-- `sendPullData`, from `start` or its interval. -/
  | sendPullData (token : UInt16)
  | uplink (token : UInt16) (heard : Heard) (phyPayload : List UInt8)
  | onDataDownlink
  | waitForDownlink
  | timeout (wait : Nat)
  | onMessage (msg : List UInt8)
deriving DecidableEq

inductive GatewayEffect where
  | send (datagram : List UInt8)
  | resolve (wait : Nat) (phy : List UInt8)
  | reject (wait : Nat)
  /-- `dataDownlinkHandler?.(phy)`, and whether there is a handler. -/
  | handle (heard : Bool) (phy : List UInt8)
deriving DecidableEq

def SemtechGateway.init : SemtechGateway := ⟨[], false, [], 0⟩

section

variable (text : DatagramText) (euiBytes : List UInt8)

/-- The `try` of `onMessage`. -/
def SemtechGateway.downlink (s : SemtechGateway) (msg : List UInt8) : SemtechGateway × List GatewayEffect :=
  match pullRespData text msg with
  | none => (s, [])
  | some phy =>
    match s.downlinkWaiters with
    | waiter :: downlinkWaiters =>
      ({ s with downlinkWaiters, timers := s.timers.filter (fun timer => decide (timer ≠ waiter)) }, [.resolve waiter phy])
    | [] => (s, [.handle s.dataDownlinkHandler phy])

def SemtechGateway.onMessage (s : SemtechGateway) (msg : List UInt8) : SemtechGateway × List GatewayEffect :=
  if msg.length < 4 then (s, [])
  else if msg.getD 3 0 = pullResp then ((s.downlink text msg).1, (s.downlink text msg).2 ++ [.send (ackOf euiBytes msg)])
  else (s, [])

/-- The callback of the timeout of a wait. -/
def SemtechGateway.timeout (s : SemtechGateway) (wait : Nat) : SemtechGateway × List GatewayEffect :=
  if wait ∈ s.timers then
    ({ s with
      timers := s.timers.filter (fun timer => decide (timer ≠ wait))
      downlinkWaiters := s.downlinkWaiters.filter (fun waiter => decide (waiter ≠ wait)) }, [.reject wait])
  else (s, [])

def SemtechGateway.step (s : SemtechGateway) : GatewayEvent → SemtechGateway × List GatewayEffect
  | .sendPullData token => (s, [.send (header euiBytes token pullData)])
  | .uplink token heard phyPayload =>
    (s, [.send (header euiBytes token pushData ++ text.stringify (rxpk heard phyPayload))])
  | .onDataDownlink => ({ s with dataDownlinkHandler := true }, [])
  | .waitForDownlink =>
    ({ s with
      downlinkWaiters := s.downlinkWaiters ++ [s.waits]
      timers := s.timers ++ [s.waits]
      waits := s.waits + 1 }, [])
  | .timeout wait => s.timeout wait
  | .onMessage msg => s.onMessage text euiBytes msg

/-- The gateway as a machine. -/
def gatewayMachine : Machine SemtechGateway GatewayEvent (List GatewayEffect) := ⟨SemtechGateway.step text euiBytes⟩

end

end AirQuality

import AirQuality.Firmware.Base64
import AirQuality.Ingestion.Service
import AirQuality.Theorems.Reading
import AirQuality.Theorems.Node

/-!
# The fleet: nodes, network server and ingestion

The nodes of a deployment, the network server between them and the server, and the ingestion service, as one machine. A node wakes
and sends a frame; the network server publishes a frame it received, as often and as late as it likes, or never; it hands a node
commands of its downlink queue, which holds what `enqueueDownlink` was called with. The ingestion service restarts, and its
latest-value entries expire. Of the network server, which is not part of the repository, this is all that is relied on: it invents
no uplink, and no downlink on the config port.
-/

namespace AirQuality

/-- A config downlink in the queue of a device: the command `enqueueDownlink` was called for, and its bytes. -/
structure QueueItem where
  devEui : String
  command : DownlinkCommand
  data : List UInt8

/-- A frame that a node has sent. -/
structure SentFrame where
  devEui : String
  frame : Frame
deriving DecidableEq

/-- What comes of the uplink of a wake. -/
inductive RadioOutcome where
  | failed
  | quiet
  /-- The network server answers with the command at a position of its queue, if that is one of the device. -/
  | command (i : Nat)
  /-- It answers with something else, on another port. -/
  | other (fport : {p : UInt8 // p ≠ aqDownlinkFport}) (data : List UInt8)

/-- A wake of a node: its sensors, its battery, the NVS driver and the radio. -/
structure Wake where
  pm : PmRead
  env : EnvRead
  battery : UInt16
  load : NvsCall
  save : NvsCall
  radio : RadioOutcome

/-- The nodes by their DevEUI, the queue and the uplinks of the network server, and the service. -/
structure Fleet where
  node : String → Node
  queue : List QueueItem
  sent : List SentFrame
  service : Service

inductive FleetEvent where
  /-- `enqueueDownlink`, with the bytes `encodeDownlink` makes of a command. -/
  | enqueue (devEui : String) (command : DownlinkCommand)
  | wake (devEui : String) (w : Wake)
  | powerCut (devEui : String)
  /-- The network server publishes the frame at a position among those sent, and ingestion receives it at the time `now`. -/
  | uplink (i : Nat) (time : Option String) (rxInfo : Option (List RxInfo)) (now : ℤ)
  /-- Ingestion receives a message that is not an uplink. -/
  | noise (now : ℤ)
  /-- The call that an execution of ingestion awaits returns. -/
  | resolve (i : Nat)
  /-- The call that an execution of ingestion awaits fails. -/
  | reject (i : Nat) (applied : Bool)
  /-- The ingestion service restarts: its executions and its counters are lost. -/
  | restart
  /-- The latest-value entry of a device expires. -/
  | expire (devEui : String)

/-- A fleet that is switched on: nothing is queued, sent or stored. -/
def Fleet.start (flash : String → Flash) : Fleet where
  node := fun devEui => Node.powerUp (flash devEui)
  queue := []
  sent := []
  service := Service.start []

/-- The queued command of the device at a position. -/
def Fleet.queued (f : Fleet) (devEui : String) (i : Nat) : Option QueueItem :=
  f.queue[i]?.filter (fun item => decide (item.devEui = devEui))

/-- What `lorawan_send` gives back in a wake of the device. -/
def Fleet.radio (f : Fleet) (devEui : String) : RadioOutcome → LorawanResult
  | .failed => .failed
  | .quiet => .sent none
  | .command i => .sent ((f.queued devEui i).map (fun item => ⟨aqDownlinkFport, item.data⟩))
  | .other fport data => .sent (some ⟨fport, data⟩)

/-- What the outside world answers the device in a wake. -/
def Fleet.wakeInput (f : Fleet) (devEui : String) (w : Wake) : WakeInput where
  hal := sensorHal w.pm w.env w.battery
  load := w.load
  radio := f.radio devEui w.radio
  save := w.save

/-- `application/+/device/+/event/up` for a frame: the network server writes the payload in base64. -/
def SentFrame.uplink (s : SentFrame) (time : Option String) (rxInfo : Option (List RxInfo)) : ChirpStackUplink where
  devEui := s.devEui
  fPort := some s.frame.fport.toNat
  data := String.ofList (Base64.encode Base64.standard s.frame.payload)
  time := time
  rxInfo := rxInfo

/-- The service when it has come up again: the stores are as they were. -/
def Service.restart (s : Service) : Service := { s with readingsIngested := [], readingsDropped := [], execs := [] }

/-- The service when an entry has expired. -/
def Service.expire (s : Service) (devEui : String) : Service := { s with latest := Function.update s.latest devEui none }

section

variable (dateParse : String → Option ℤ)

def Fleet.step (f : Fleet) : FleetEvent → Fleet
  | .enqueue devEui command =>
    match encodeDownlink command with
    | .ok data => { f with queue := f.queue ++ [⟨devEui, command, data⟩] }
    | .error _ => f
  | .wake devEui w =>
    let (n, record) := appMain (f.node devEui) (f.wakeInput devEui w)
    { f with node := Function.update f.node devEui n, sent := f.sent ++ [⟨devEui, record.frame⟩] }
  | .powerCut devEui => { f with node := Function.update f.node devEui (Node.powerUp (f.node devEui).flash) }
  | .uplink i time rxInfo now =>
    match f.sent[i]? with
    | some s => { f with service := f.service.deliver dateParse (some (s.uplink time rxInfo)) now }
    | none => f
  | .noise now => { f with service := f.service.deliver dateParse none now }
  | .resolve i => { f with service := f.service.resolve i }
  | .reject i applied => { f with service := f.service.reject i applied }
  | .restart => { f with service := f.service.restart }
  | .expire devEui => { f with service := f.service.expire devEui }

/-- The fleet as a machine. -/
def fleetMachine : Machine Fleet FleetEvent Unit := ⟨fun f e => (f.step dateParse e, ())⟩

/-- The fleet after a run of events, from being switched on with some contents of the flashes. -/
def fleetRun (flash : String → Flash) (es : List FleetEvent) : Fleet := (fleetMachine dateParse).run (Fleet.start flash) es

theorem fleetRun_snoc (flash : String → Flash) (es : List FleetEvent) (e : FleetEvent) :
    fleetRun dateParse flash (es ++ [e]) = (fleetRun dateParse flash es).step dateParse e :=
  (fleetMachine dateParse).run_snoc _ es e

/-- A wake changes its own node only. -/
theorem step_wake_node (f : Fleet) (devEui : String) (w : Wake) (d : String) :
    (f.step dateParse (.wake devEui w)).node d =
      if d = devEui then (appMain (f.node devEui) (f.wakeInput devEui w)).1 else f.node d := by
  simp only [Fleet.step, Function.update_apply]

/-- A power cut changes its own node only. -/
theorem step_powerCut_node (f : Fleet) (devEui d : String) :
    (f.step dateParse (.powerCut devEui)).node d = if d = devEui then Node.powerUp (f.node devEui).flash else f.node d := by
  simp only [Fleet.step, Function.update_apply]

end

end AirQuality

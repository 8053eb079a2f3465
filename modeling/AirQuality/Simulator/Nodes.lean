import AirQuality.Lib.Chain
import AirQuality.Lib.Machine
import AirQuality.Simulator.Join

/-!
# The simulated nodes

`services/simulator/src/index.ts` once the devices have joined: `serial` and `schedule`, the wakes they bring about and the config
downlinks that come in between. A call of the firmware goes on until an event says that it has ended, with the sleep it answered or
in an error; the order of the events is arbitrary.
-/

namespace AirQuality

/-- What is submitted through `serial`: a wake, or a config downlink. -/
inductive NodeTask where
  | wake
  | downlink (data : List UInt8)
deriving DecidableEq

/-- A pending timeout of `schedule`: the device it will wake, and the sleep it stands for. -/
structure WakeTimer where
  id : Nat
  devEui : List UInt8
  sleepS : Nat
deriving DecidableEq

/-- The variables of `main` that the nodes share, and the timeouts that are pending. -/
structure Nodes where
  /-- `queues`, and the tasks submitted. -/
  chain : Chain.State (List UInt8) NodeTask
  /-- `timers`: the last timeout set for a device. -/
  timers : List UInt8 → Option Nat
  pending : List WakeTimer
  nextTimer : Nat
  fCnt : List UInt8 → Nat
  booted : List (List UInt8)

/-- What a task asks of the firmware. -/
inductive FirmwareCall where
  /-- `wakeFirmware`: whether it is a boot, and the counter. -/
  | wake (devEui : List UInt8) (boot : Bool) (fCnt : Nat)
  /-- `deliverDownlink` -/
  | downlink (devEui : List UInt8) (fPort : UInt8) (data : List UInt8)
deriving DecidableEq

inductive NodesEvent where
  /-- A downlink comes in, as `lora-packet` takes it apart; `data` is `none` if `decryptDownlink` throws. -/
  | downlink (devAddr : List UInt8) (fPort : Option UInt8) (data : Option (List UInt8))
  /-- A pending timeout fires. -/
  | fire (id : Nat)
  /-- The `then` of task `i` reacts to its promise. -/
  | start (i : Nat)
  /-- The firmware call of task `i` ends: with the sleep it answered, or in an error. -/
  | finish (i : Nat) (sleepS : Option Nat)

/-- `DOWNLINK_FPORT` -/
def downlinkFport : UInt8 := 10

/-- `DEFAULT_INTERVAL_S` -/
def defaultIntervalS : Nat := 300

/-- `clearTimeout(timers.get(devEui))` -/
def Nodes.clearTimer (s : Nodes) (devEui : List UInt8) : Nodes :=
  { s with pending := s.pending.filter fun t => decide (some t.id ≠ s.timers devEui) }

/-- `schedule` -/
def Nodes.schedule (s : Nodes) (devEui : List UInt8) (sleepS : Nat) : Nodes :=
  { s.clearTimer devEui with
    pending := (s.clearTimer devEui).pending ++ [{ id := s.nextTimer, devEui, sleepS }]
    timers := Function.update s.timers devEui (some s.nextTimer)
    nextTimer := s.nextTimer + 1 }

/-- `serial` -/
def Nodes.serial (s : Nodes) (devEui : List UInt8) (task : NodeTask) : Nodes :=
  { s with chain := s.chain.submit devEui task }

/-- `wake` -/
def Nodes.wake (s : Nodes) (devEui : List UInt8) : Nodes := s.serial devEui .wake

/-- The part of a task before its firmware call. -/
def Nodes.begin (s : Nodes) (devEui : List UInt8) : NodeTask → Nodes × FirmwareCall
  | .wake =>
    let fc := s.fCnt devEui + 1
    let boot := decide (devEui ∉ s.booted)
    ({ s with fCnt := Function.update s.fCnt devEui fc, booted := if boot then devEui :: s.booted else s.booted },
      .wake devEui boot fc)
  | .downlink data => (s, .downlink devEui downlinkFport data)

/-- The part of a task behind its firmware call: a wake always schedules the next, a downlink only if the call went well. -/
def Nodes.conclude (s : Nodes) (i : Nat) (devEui : List UInt8) (sleepS : Option Nat) : NodeTask → Nodes
  | .wake => { s with chain := s.chain.settle i true }.schedule devEui (sleepS.getD defaultIntervalS)
  | .downlink _ =>
    match sleepS with
    | some sleepS => { s with chain := s.chain.settle i true }.schedule devEui sleepS
    | none => { s with chain := s.chain.settle i false }

/-- The nodes, once the sessions are there. Each step gives the firmware call it makes, if it makes one. -/
def nodesMachine (sessions : List DeviceSession) : Machine Nodes NodesEvent (Option FirmwareCall) where
  step s
    | .downlink devAddr fPort data =>
      match sessions.find? fun session => session.devAddr = devAddr with
      | none => (s, none)
      | some session =>
        if fPort ≠ some downlinkFport then (s, none)
        else
          match data with
          | none => (s, none)
          | some data => (s.serial session.devEui (.downlink data), none)
    | .fire id =>
      match s.pending.find? fun t => t.id = id with
      | none => (s, none)
      | some timer => ({ s with pending := s.pending.filter fun t => decide (t.id ≠ id) }.wake timer.devEui, none)
    | .start i =>
      match s.chain.tasks[i]? with
      | none => (s, none)
      | some t =>
        let s' := { s with chain := s.chain.react i }
        if t.status = .waiting ∧ s.chain.outcome t.after = .fulfilled then
          ((s'.begin t.key t.what).1, some (s'.begin t.key t.what).2)
        else (s', none)
    | .finish i sleepS =>
      match s.chain.tasks[i]? with
      | none => (s, none)
      | some t => if t.status = .running then (s.conclude i t.key sleepS t.what, none) else (s, none)

/-- Before the first wake. -/
def Nodes.idle : Nodes :=
  { chain := Chain.State.empty, timers := fun _ => none, pending := [], nextTimer := 0, fCnt := fun _ => 0, booted := [] }

/-- `sessions.map((session) => wake(session))`: every node is powered on. -/
def Nodes.start (sessions : List DeviceSession) : Nodes :=
  sessions.foldl (fun s session => s.wake session.devEui) Nodes.idle

/-! ## What `schedule`, `begin` and `serial` leave alone -/

section

variable (s : Nodes) (devEui : List UInt8)

@[simp] theorem schedule_chain (sleepS : Nat) : (s.schedule devEui sleepS).chain = s.chain := rfl

@[simp] theorem schedule_nextTimer (sleepS : Nat) : (s.schedule devEui sleepS).nextTimer = s.nextTimer + 1 := rfl

@[simp] theorem schedule_timers_self (sleepS : Nat) : (s.schedule devEui sleepS).timers devEui = some s.nextTimer :=
  Function.update_self _ _ _

theorem schedule_timers_of_ne (sleepS : Nat) {devEui' : List UInt8} (h : devEui' ≠ devEui) :
    (s.schedule devEui sleepS).timers devEui' = s.timers devEui' :=
  Function.update_of_ne h _ _

theorem begin_same (task : NodeTask) :
    (s.begin devEui task).1.chain = s.chain ∧ (s.begin devEui task).1.timers = s.timers ∧
      (s.begin devEui task).1.pending = s.pending ∧ (s.begin devEui task).1.nextTimer = s.nextTimer := by
  cases task with
  | wake => exact ⟨rfl, rfl, rfl, rfl⟩
  | downlink data => exact ⟨rfl, rfl, rfl, rfl⟩

end

end AirQuality

import AirQuality.Dashboard.Page
import AirQuality.Dashboard.Requests
import AirQuality.System.Fleet

/-!
# The fleet and a page that watches it

What `Fleet` leaves open: the API over the stores of ingestion, and one page of the dashboard. An event that ingestion publishes
reaches the page if its socket is connected, or is lost on the way; a request of the page is answered with what the API reads at some
moment while it waits, or fails. The registry may change to anything at any time.
-/

namespace AirQuality

open Dashboard

/-- A request of the page that waits: `getLatest` for a caller or `getReadings` for an open history, and the answer once the API has
made it. -/
inductive PageRequest where
  | latest (caller : LatestCaller) (answer : Option (List ReadingResponse))
  | readings (sensorId : String) (hours : Nat) (answer : Option (List ReadingRow))

/-- The API has made the answer. -/
def PageRequest.ready : PageRequest → Bool
  | .latest _ answer => answer.isSome
  | .readings _ _ answer => answer.isSome

/-- The deployment: the fleet, the table `sensors`, and a page with what the socket has delivered to it and its requests. -/
structure World where
  fleet : Fleet
  sensors : List AirQuality.SensorRow
  connected : Bool
  queue : List ReadingResponse
  requests : List PageRequest
  store : AirStore

inductive WorldEvent where
  /-- A step of the fleet; what it publishes is relayed to a connected page, or lost. -/
  | fleet (e : FleetEvent) (relayed : Bool)
  /-- The registry changes. -/
  | register (sensors : List AirQuality.SensorRow)
  /-- A view calls `start`, or `retry`. -/
  | start
  | retry
  /-- The socket connects, or it disconnects or fails to connect. -/
  | socket (connected : Bool)
  /-- The page handles the first event of the socket. -/
  | onReading
  | pollDelay
  | pollTimer
  | onVisible
  /-- A view calls `loadReadings`. -/
  | loadReadings (sensorId : String) (hours : Nat)
  /-- The API reads what the request at a position asks for. -/
  | read (k : Nat) (now : ℤ)
  /-- The answer of the request at a position comes. -/
  | answered (k : Nat)
  /-- The request at a position fails. -/
  | failed (k : Nat)

/-- The page before anything is measured. -/
def World.start (flash : String → Flash) : World where
  fleet := Fleet.start flash
  sensors := []
  connected := false
  queue := []
  requests := []
  store := AirStore.init

/-- A request is made. -/
def World.ask (w : World) (r : PageRequest) : World := { w with requests := w.requests ++ [r] }

section

variable (unicodeLower : String → String) (dateParse : String → Option ℤ) (toISOString : ℤ → String)

/-- The events that ingestion has published since, as the gateway of the API emits them. -/
def World.emitted (w : World) (f : Fleet) : List ReadingResponse :=
  (f.service.published.drop w.fleet.service.published.length).filterMap (fun p =>
    relay (some (.readingCreated (p.response toISOString))))

/-- What the API answers. -/
def World.read (w : World) (now : ℤ) : PageRequest → PageRequest
  | .latest caller none =>
    .latest caller (some (latestResponses w.sensors (fun d =>
      (w.fleet.service.latest d).map (ReadingPayload.response toISOString))))
  | .readings sensorId hours none =>
    .readings sensorId hours (some (sensorReadings toISOString w.fleet.service.readings sensorId (some hours) now))
  | r => r

/-- What the page does with an answer. -/
def World.answer (w : World) : PageRequest → World
  | .latest caller (some answer) =>
    { w with store := w.store.answered caller ((answer.map responseObject).filterMap (toReading unicodeLower dateParse)) }
  | .readings sensorId hours (some answer) =>
    { w with store := w.store.loadReadings sensorId hours (getReadings unicodeLower dateParse answer) }
  | _ => w

/-- What the page does when a request fails. -/
def World.fail (w : World) : PageRequest → World
  | .latest .poll _ => { w with store := w.store.pollFailed }
  | _ => w

def World.step (w : World) : WorldEvent → World
  | .fleet e relayed =>
    let f := w.fleet.step dateParse e
    { w with fleet := f, queue := if w.connected && relayed then w.queue ++ w.emitted toISOString f else w.queue }
  | .register sensors => { w with sensors }
  | .start =>
    if w.store.starting then w else { w with store := { w.store with starting := true } }.ask (.latest .load none)
  | .retry => { w with store := { w.store with starting := true } }.ask (.latest .load none)
  | .socket connected =>
    if w.store.stopRealtime then
      let (store, sync) := w.store.onConnection connected
      let w := { w with store, connected }
      if sync then w.ask (.latest .syncLatest none) else w
    else w
  | .onReading =>
    match w.queue with
    | r :: queue =>
      match toReading unicodeLower dateParse (responseObject r) with
      | some reading => { w with queue, store := w.store.applyReading reading true }
      | none => { w with queue }
    | [] => w
  | .pollDelay => if w.store.pollDelay then { w with store := w.store.pollDelayFired }.ask (.latest .poll none) else w
  | .pollTimer => if w.store.pollTimer then w.ask (.latest .poll none) else w
  | .onVisible => if w.store.ready then w.ask (.latest .syncLatest none) else w
  | .loadReadings sensorId hours => w.ask (.readings sensorId hours none)
  | .read k now => { w with requests := w.requests.modify k (w.read toISOString now) }
  | .answered k =>
    match w.requests[k]? with
    | some r => if r.ready then { w.answer unicodeLower dateParse r with requests := w.requests.eraseIdx k } else w
    | none => w
  | .failed k =>
    match w.requests[k]? with
    | some r => { w.fail r with requests := w.requests.eraseIdx k }
    | none => w

/-- The deployment as a machine. -/
def worldMachine : Machine World WorldEvent Unit := ⟨fun w e => (w.step unicodeLower dateParse toISOString e, ())⟩

/-- The deployment after a run of events. -/
def worldRun (flash : String → Flash) (es : List WorldEvent) : World :=
  (worldMachine unicodeLower dateParse toISOString).run (World.start flash) es

end

/-- The event of the fleet, if it is one. -/
def WorldEvent.fleetEvent : WorldEvent → Option FleetEvent
  | .fleet e _ => some e
  | _ => none

/-- The events of the fleet in a run. -/
def fleetEvents (es : List WorldEvent) : List FleetEvent := es.filterMap WorldEvent.fleetEvent

end AirQuality

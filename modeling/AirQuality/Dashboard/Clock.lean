import AirQuality.Dashboard.Stats
import AirQuality.Lib.ClockSync

/-!
# The clock of the page

`serverNow`, `now` and `syncClock` of the store: the page decides which sensors are online on the server's time, which it works out
from the answers of `GET /overview`. Two clocks run, the server's and the device's, and neither knows the other. The device's may be
wrong by any amount, and may drift or be set. Questions for the time overlap and answer in any order; readings come meanwhile.
-/

namespace AirQuality.Dashboard

/-- A call of `syncClock` on its way: `sent` of the source, the server's time at that moment, and the time the server has answered
with, once it has. -/
structure ClockSync where
  sent : ℤ
  sentAt : ℤ
  stamp : Option ℤ
deriving DecidableEq

/-- `Date.now()` on the server and on the device, the variables of the store that have to do with them, and the calls of `syncClock`
that are on their way. The page reads neither `trips`, the round trips that have been answered, newest first, nor `shownAt`, the
server's time when `now` was last set since the first of them. -/
structure ClockPage where
  server : ℤ
  device : ℤ
  clockOffset : ℚ
  now : ℚ
  sensors : List Sensor
  store : AirStore
  syncs : List ClockSync
  trips : List (RoundTrip ℚ)
  shownAt : Option ℤ

inductive ClockEvent where
  /-- Time passes: the server's clock goes on, and the device's goes on or is set. -/
  | pass (server : ℕ) (device : ℤ)
  /-- The load or the periodic refresh calls `syncClock`. -/
  | syncClock
  /-- The server takes its time for the call at a position. -/
  | stamp (k : ℕ)
  /-- The answer of the call at a position comes. -/
  | answer (k : ℕ)
  /-- The call at a position fails. -/
  | fail (k : ℕ)
  /-- The interval of the clock fires, or the page becomes visible. -/
  | clock
  /-- `getSensors` answers. -/
  | sensors (sensors : List Sensor)
  /-- The answer of `getLatest` in the load, a resync or a poll. -/
  | latest (readings : List Reading)
  /-- The socket gives a reading to `onReading`. -/
  | live (reading : Reading)
deriving DecidableEq

namespace ClockPage

def start (server device : ℤ) : ClockPage where
  server := server
  device := device
  clockOffset := 0
  now := device
  sensors := []
  store := AirStore.init
  syncs := []
  trips := []
  shownAt := none

def serverNow (p : ClockPage) : ℚ := p.device + p.clockOffset

/-- How far the device's clock is ahead of the server's. -/
def skew (p : ClockPage) : ℚ := p.device - p.server

def rows (p : ClockPage) : List SensorRow := Dashboard.rows p.sensors p.store.latest p.now

/-- `now.value = serverNow()` -/
def setNow (p : ClockPage) : ClockPage :=
  { p with
    now := p.serverNow
    shownAt := if p.trips.isEmpty then none else some p.server }

/-- `applyReading` on a live reading: what is not newer leaves the clock as it is. -/
def applyLive (p : ClockPage) (reading : Reading) : ClockPage :=
  if p.store.Has reading then p
  else
    { p with
      store := p.store.applyReading reading true
      now := max p.now p.serverNow
      shownAt := p.shownAt.map (fun _ => p.server) }

/-- The end of `syncClock`, once the answer has come. -/
def synced (p : ClockPage) (sent sentAt stamp : ℤ) : ClockPage :=
  { p with
    clockOffset := stamp - (sent + p.device) / 2
    trips := ⟨sent, sentAt, stamp, p.device, p.server⟩ :: p.trips }

def step (p : ClockPage) : ClockEvent → ClockPage
  | .pass server device => { p with server := p.server + server, device := p.device + device }
  | .syncClock => { p with syncs := p.syncs ++ [⟨p.device, p.server, none⟩] }
  | .stamp k =>
    match p.syncs[k]? with
    | some ⟨sent, sentAt, none⟩ => { p with syncs := p.syncs.set k ⟨sent, sentAt, some p.server⟩ }
    | _ => p
  | .answer k =>
    match p.syncs[k]? with
    | some ⟨sent, sentAt, some stamp⟩ => { p.synced sent sentAt stamp with syncs := p.syncs.eraseIdx k }
    | _ => p
  | .fail k => { p with syncs := p.syncs.eraseIdx k }
  | .clock => p.setNow
  | .sensors sensors => { p with sensors }
  | .latest readings => { p with store := p.store.applyAll readings }.setNow
  | .live reading => p.applyLive reading

end ClockPage

def clockMachine : Machine ClockPage ClockEvent Unit := ⟨fun p e => (p.step e, ())⟩

end AirQuality.Dashboard

import AirQuality.Dashboard.Store

/-!
# The page and what reaches it

The store among the things that call it. `historyMachine` is a page with raw histories: readings that are live or polled, requests
of a raw history and their answers, in any order. `liveMachine` is a page with the server: new readings, the initial load, the
socket, the timers and the requests of the latest readings, whose answers are what the server has at some moment while they are
in flight.
-/

namespace AirQuality

/-! ## Raw histories -/

/-- The store, and the requests of `loadReadings` that wait for an answer. -/
structure HistoryPage where
  store : AirStore
  asked : List (String × Nat)

inductive HistoryEvent where
  /-- The socket gives a reading to `onReading`. -/
  | live (reading : Reading)
  /-- A poll, a resync or the initial load applies a reading. -/
  | polled (reading : Reading)
  /-- A view calls `loadReadings`. -/
  | loadReadings (sensorId : String) (hours : Nat)
  /-- The answer of the request at a position among those that wait. -/
  | answer (k : Nat) (readings : List Reading)
deriving DecidableEq

def HistoryPage.init : HistoryPage := ⟨AirStore.init, []⟩

def HistoryPage.step (p : HistoryPage) : HistoryEvent → HistoryPage
  | .live reading => { p with store := p.store.applyReading reading true }
  | .polled reading => { p with store := p.store.applyReading reading false }
  | .loadReadings sensorId hours => { p with asked := p.asked ++ [(sensorId, hours)] }
  | .answer k readings =>
    match p.asked[k]? with
    | some (sensorId, hours) =>
      { store := p.store.loadReadings sensorId hours readings, asked := p.asked.eraseIdx k }
    | none => p

def historyMachine : Machine HistoryPage HistoryEvent Unit := ⟨fun p e => (p.step e, ())⟩

/-! ## The live channel -/

/-- What a request of the latest readings was made for. -/
inductive LatestCaller where
  | load | syncLatest | poll
deriving DecidableEq, Repr

/-- A request of the latest readings: once the server has read them for it, the readings it answers with. -/
structure LatestRequest where
  caller : LatestCaller
  snapshot : Option (List Reading)
deriving DecidableEq, Repr

/-- The page and the server. The server has the newest reading of each sensor, and `changed` says whether one has come since it
last answered a request; `queue` is what the socket has delivered and the page has not handled. -/
structure LiveWorld where
  server : List Reading
  changed : Bool
  connected : Bool
  queue : List Reading
  requests : List LatestRequest
  store : AirStore

inductive LiveEvent where
  /-- The server gets a reading, and sends it if the socket is connected. -/
  | newReading (reading : Reading)
  /-- A view calls `start`. -/
  | start
  /-- The socket connects, or it disconnects or fails to connect. -/
  | socket (connected : Bool)
  /-- The page handles the first reading of the queue. -/
  | onReading
  /-- The timer `pollDelay` fires. -/
  | pollDelay
  /-- The timer `pollTimer` fires. -/
  | pollTimer
  /-- The page becomes visible. -/
  | onVisible
  /-- The server reads the latest readings for the request at a position. -/
  | snapshot (k : Nat)
  /-- The answer of the request at a position comes. -/
  | answer (k : Nat)
deriving DecidableEq

/-- A page that has not started, and a server with readings. -/
def LiveWorld.init (server : List Reading) : LiveWorld where
  server := server
  changed := !server.isEmpty
  connected := false
  queue := []
  requests := []
  store := AirStore.init

/-- Call `getLatest`. -/
def LiveWorld.ask (w : LiveWorld) (caller : LatestCaller) : LiveWorld :=
  { w with requests := w.requests ++ [⟨caller, none⟩] }

/-- What runs when the answer of a request has come. -/
def AirStore.answered (st : AirStore) (caller : LatestCaller) (readings : List Reading) : AirStore :=
  match caller with
  | .load => st.loaded readings
  | .syncLatest => st.applyAll readings
  | .poll => (st.applyAll readings).pollDone

/-- The server has a reading that is as new. -/
def LiveWorld.knows (w : LiveWorld) (reading : Reading) : Bool :=
  w.server.any (fun r => decide (r.sensorId = reading.sensorId ∧ reading.time ≤ r.time))

def LiveWorld.step (w : LiveWorld) : LiveEvent → LiveWorld
  | .newReading reading =>
    { w with
      server := Table.upsert Reading.sensorId (Newest.newer Reading.time) w.server reading
      changed := w.changed || !w.knows reading
      queue := if w.connected then w.queue ++ [reading] else w.queue }
  | .start => if w.store.starting then w else { w with store := { w.store with starting := true } }.ask .load
  | .socket connected =>
    if w.store.stopRealtime then
      let (store, sync) := w.store.onConnection connected
      let w := { w with store, connected }
      if sync then w.ask .syncLatest else w
    else w
  | .onReading =>
    match w.queue with
    | reading :: queue => { w with queue, store := w.store.applyReading reading true }
    | [] => w
  | .pollDelay => if w.store.pollDelay then { w with store := w.store.pollDelayFired }.ask .poll else w
  | .pollTimer => if w.store.pollTimer then w.ask .poll else w
  | .onVisible => if w.store.ready then w.ask .syncLatest else w
  | .snapshot k =>
    match w.requests[k]? with
    | some ⟨caller, none⟩ => { w with changed := false, requests := w.requests.set k ⟨caller, some w.server⟩ }
    | _ => w
  | .answer k =>
    match w.requests[k]? with
    | some ⟨caller, some readings⟩ =>
      { w with store := w.store.answered caller readings, requests := w.requests.eraseIdx k }
    | _ => w

def liveMachine : Machine LiveWorld LiveEvent Unit := ⟨fun w e => (w.step e, ())⟩

/-! ## The connection -/

/-- The events of the socket that `subscribe` listens to, but for readings. -/
inductive SocketEvent where
  | connect | disconnect | connectError
deriving DecidableEq, Repr

/-- What `subscribe` calls `onConnection` with. -/
def SocketEvent.connected : SocketEvent → Bool
  | .connect => true
  | .disconnect | .connectError => false

/-- The store, and how many polls wait for an answer. -/
structure ConnectionPage where
  store : AirStore
  polls : Nat

inductive ConnectionEvent where
  | socket (e : SocketEvent)
  /-- The timer `pollDelay` fires. -/
  | pollDelay
  /-- The timer `pollTimer` fires. -/
  | pollTimer
  /-- A poll answers, however long ago it was made. -/
  | polled (readings : List Reading)
  /-- A poll fails. -/
  | pollFailed
deriving DecidableEq

/-- A page whose initial load has answered. -/
def ConnectionPage.start (readings : List Reading) : ConnectionPage := ⟨AirStore.init.loaded readings, 0⟩

def ConnectionPage.step (w : ConnectionPage) : ConnectionEvent → ConnectionPage
  | .socket e => { w with store := (w.store.onConnection e.connected).1 }
  | .pollDelay => if w.store.pollDelay then ⟨w.store.pollDelayFired, w.polls + 1⟩ else w
  | .pollTimer => if w.store.pollTimer then { w with polls := w.polls + 1 } else w
  | .polled readings => if w.polls = 0 then w else ⟨w.store.answered .poll readings, w.polls - 1⟩
  | .pollFailed => if w.polls = 0 then w else ⟨w.store.pollFailed, w.polls - 1⟩

def connectionMachine : Machine ConnectionPage ConnectionEvent Unit := ⟨fun w e => (w.step e, ())⟩

/-! ## The live picture -/

/-- A way in which readings reach `applyReading`. -/
inductive Delivery where
  /-- The socket gives a reading to `onReading`. -/
  | live (reading : Reading)
  /-- The readings of the initial load, a resync or a poll. -/
  | latest (caller : LatestCaller) (readings : List Reading)
deriving DecidableEq

def Delivery.readings : Delivery → List Reading
  | .live reading => [reading]
  | .latest _ readings => readings

def AirStore.deliver (st : AirStore) : Delivery → AirStore
  | .live reading => st.applyReading reading true
  | .latest caller readings => st.answered caller readings

def pictureMachine : Machine AirStore Delivery Unit := ⟨fun st e => (st.deliver e, ())⟩

/-! ## What an answer does -/

/-- Whatever a request was for, its answer is applied to the latest readings. -/
theorem answered_latest (st : AirStore) (caller : LatestCaller) (readings : List Reading) :
    (st.answered caller readings).latest = (st.applyAll readings).latest := by
  cases caller with
  | load => rfl
  | syncLatest => rfl
  | poll =>
    simp only [AirStore.answered, AirStore.pollDone]
    split <;> rfl

end AirQuality

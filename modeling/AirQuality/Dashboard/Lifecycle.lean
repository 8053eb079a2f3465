import AirQuality.Dashboard.Store
import AirQuality.Lib.Handles

/-!
# The store and what it holds of the browser

`useAirStore` once more, with the handles it keeps: the subscription of the live channel, the timers, the timeouts and the listener
for `visibilitychange`, and with the loads and requests that are on their way. A load that was made before `stop` goes on after it.
The clock, and the series that the periodic refresh reads again, are left out.
-/

namespace AirQuality

/-- What an interval of the store was set for. -/
inductive IntervalKind where
  | clock | refresh | poll
deriving DecidableEq

/-- What a timeout of the store was set for. -/
inductive TimeoutKind where
  | startPolling | refreshSensors
deriving DecidableEq

/-- The handles that are alive in the browser; `listening` says whether `onVisible` is registered. -/
structure Browser where
  intervals : Handles IntervalKind
  timeouts : Handles TimeoutKind
  sockets : Handles Unit
  listening : Bool

/-- The variables of the store. Of the service the model has whether it has been created. -/
structure PageStore where
  sensors : List String
  latest : String → Option Reading
  rawHistory : String → Option RawHistory
  connection : ConnectionState
  ready : Bool
  error : Option String
  service : Bool
  starting : Bool
  stopRealtime : Option ℕ
  pollTimer : Option ℕ
  pollDelay : Option ℕ
  refreshQueued : Option ℕ
  unknownDevices : List String
  timers : List ℕ

/-- A call of `load`: it waits for the service to be created, or for the first answers. -/
inductive LoadPhase where
  | creating | fetching
deriving DecidableEq

/-- A request on its way. -/
inductive StoreCall where
  | refreshSensors | syncLatest | poll
deriving DecidableEq

/-- The store, the browser, and what is on its way. -/
structure StorePage where
  store : PageStore
  browser : Browser
  loads : List LoadPhase
  calls : List StoreCall

def StorePage.init : StorePage where
  store :=
    { sensors := []
      latest := fun _ => none
      rawHistory := fun _ => none
      connection := .connecting
      ready := false
      error := none
      service := false
      starting := false
      stopRealtime := none
      pollTimer := none
      pollDelay := none
      refreshQueued := none
      unknownDevices := []
      timers := [] }
  browser := ⟨.empty, .empty, .empty, false⟩
  loads := []
  calls := []

/-- The live picture of the store: of the handles, whether they are set. -/
def PageStore.air (st : PageStore) : AirStore where
  latest := st.latest
  rawHistory := st.rawHistory
  connection := st.connection
  ready := st.ready
  starting := st.starting
  stopRealtime := st.stopRealtime.isSome
  pollTimer := st.pollTimer.isSome
  pollDelay := st.pollDelay.isSome

namespace StorePage

/-! ## Requests -/

def ask (w : StorePage) (c : StoreCall) : StorePage := { w with calls := w.calls ++ [c] }

def refreshSensors (w : StorePage) : StorePage := if w.store.service = true then w.ask .refreshSensors else w

def syncLatest (w : StorePage) : StorePage := if w.store.service = true then w.ask .syncLatest else w

/-- `poll`: what follows a `syncLatest` follows at once if there is no service. -/
def poll (w : StorePage) : StorePage :=
  if w.store.service = true then w.ask .poll
  else if w.store.connection ≠ .live then { w with store := { w.store with connection := .polling } }
  else w

/-! ## Applying data -/

/-- The end of `applyReading` on a device that is not in the list: it is looked for once. -/
def askAbout (w : StorePage) (sensorId : String) : StorePage :=
  let w := { w with store := { w.store with unknownDevices := w.store.unknownDevices ++ [sensorId] } }
  match w.store.refreshQueued with
  | some _ => w
  | none =>
    { w with
      browser := { w.browser with timeouts := w.browser.timeouts.acquire .refreshSensors }
      store := { w.store with refreshQueued := some w.browser.timeouts.next } }

def applyReading (w : StorePage) (reading : Reading) (live : Bool) : StorePage :=
  if w.store.air.Has reading then w
  else
    let air := w.store.air.applyReading reading live
    let w := { w with store := { w.store with latest := air.latest, rawHistory := air.rawHistory } }
    if live = true ∧ reading.sensorId ∉ w.store.sensors ∧ reading.sensorId ∉ w.store.unknownDevices then w.askAbout reading.sensorId
    else w

/-- `for (const reading of readings) applyReading(reading, false)` -/
def applyAll (w : StorePage) (readings : List Reading) : StorePage := readings.foldl (fun w reading => w.applyReading reading false) w

/-! ## The connection -/

/-- `if (pollDelay) clearTimeout(pollDelay)` -/
def clearPollDelay (w : StorePage) : StorePage :=
  match w.store.pollDelay with
  | some id =>
    { w with
      browser := { w.browser with timeouts := w.browser.timeouts.release id }
      store := { w.store with pollDelay := none } }
  | none => w

/-- `if (pollTimer) clearInterval(pollTimer)` -/
def clearPollTimer (w : StorePage) : StorePage :=
  match w.store.pollTimer with
  | some id =>
    { w with
      browser := { w.browser with intervals := w.browser.intervals.release id }
      store := { w.store with pollTimer := none } }
  | none => w

def stopPolling (w : StorePage) : StorePage := w.clearPollDelay.clearPollTimer

/-- `connection.value = …` -/
def setConnection (w : StorePage) (c : ConnectionState) : StorePage := { w with store := { w.store with connection := c } }

/-- `pollDelay = setTimeout(…)` -/
def setPollDelay (w : StorePage) : StorePage :=
  { w with
    browser := { w.browser with timeouts := w.browser.timeouts.acquire .startPolling }
    store := { w.store with pollDelay := some w.browser.timeouts.next } }

def onConnection (w : StorePage) (connected : Bool) : StorePage :=
  if connected = true then
    let wasDown := decide (w.store.connection ≠ .connecting)
    let w := w.stopPolling.setConnection .live
    if wasDown = true then w.syncLatest else w
  else
    let w :=
      if w.store.connection = .live ∨ w.store.connection = .connecting then w.setConnection .reconnecting else w
    if w.store.pollDelay.isSome ∨ w.store.pollTimer.isSome then w else w.setPollDelay

/-- `pollTimer = setInterval(poll, …)` -/
def setPollTimer (w : StorePage) : StorePage :=
  { w with
    browser := { w.browser with intervals := w.browser.intervals.acquire .poll }
    store := { w.store with pollTimer := some w.browser.intervals.next } }

/-- The callback of `pollDelay`. -/
def startPolling (w : StorePage) : StorePage := { w with store := { w.store with pollDelay := none } }.poll.setPollTimer

/-- `onVisible`, once the page is visible. -/
def onVisible (w : StorePage) : StorePage := if w.store.ready = true then w.syncLatest else w

/-! ## The lifecycle -/

/-- `load`, up to its first `await`. -/
def load (w : StorePage) : StorePage :=
  { w with
    store := { w.store with error := none }
    loads := w.loads ++ [if w.store.service = true then .fetching else .creating] }

/-- `stopRealtime ??= service.subscribe(…)` -/
def subscribe (w : StorePage) : StorePage :=
  match w.store.stopRealtime with
  | some _ => w
  | none =>
    { w with
      browser := { w.browser with sockets := w.browser.sockets.acquire () }
      store := { w.store with stopRealtime := some w.browser.sockets.next } }

/-- `if (timers.length === 0) { … }` -/
def setTimers (w : StorePage) : StorePage :=
  match w.store.timers with
  | [] =>
    let intervals := w.browser.intervals.acquire .clock
    { w with
      browser := { w.browser with intervals := intervals.acquire .refresh, listening := true }
      store := { w.store with timers := [w.browser.intervals.next, intervals.next] } }
  | _ => w

/-- `load` once its answers have come. -/
def loaded (w : StorePage) (sensors : List String) (readings : List Reading) : StorePage :=
  let w := { w with store := { w.store with sensors } }
  let w := w.applyAll readings
  let w := { w with store := { w.store with ready := true } }
  w.subscribe.setTimers

def start (w : StorePage) : StorePage :=
  if w.store.starting = true then w
  else
    let w := w.load
    { w with store := { w.store with starting := true } }

def retry (w : StorePage) : StorePage :=
  let w := w.load
  { w with store := { w.store with starting := true } }

/-- `stopRealtime?.()` -/
def unsubscribe (w : StorePage) : StorePage :=
  match w.store.stopRealtime with
  | some id =>
    { w with
      browser := { w.browser with sockets := w.browser.sockets.release id }
      store := { w.store with stopRealtime := none } }
  | none => w

/-- `for (const timer of timers.splice(0)) clearInterval(timer)` -/
def clearTimers (w : StorePage) : StorePage :=
  { w with
    browser := { w.browser with intervals := w.store.timers.foldl Handles.release w.browser.intervals }
    store := { w.store with timers := [] } }

def stop (w : StorePage) : StorePage :=
  let w := w.unsubscribe.stopPolling.clearTimers
  { w with
    browser := { w.browser with listening := false }
    store := { w.store with starting := false } }

end StorePage

/-! ## The page as a machine -/

inductive StoreEvent where
  | start
  | retry
  | stop
  /-- The service of load `k` has been created. -/
  | loadCreated (k : Nat)
  /-- The answers of load `k` come, or something of it fails. -/
  | loadAnswered (k : Nat) (sensors : List String) (readings : List Reading)
  | loadFailed (k : Nat) (message : String)
  /-- A subscription gives a reading, or it connects or disconnects. -/
  | onReading (id : ℕ) (reading : Reading)
  | onConnection (id : ℕ) (connected : Bool)
  /-- An interval or a timeout fires. -/
  | interval (id : ℕ)
  | timeout (id : ℕ)
  /-- The page becomes visible. -/
  | visible
  /-- The answer of request `k` comes, or it fails. -/
  | sensorsAnswered (k : Nat) (sensors : List String)
  | latestAnswered (k : Nat) (readings : List Reading)
  | callFailed (k : Nat)

namespace StorePage

/-- What an interval runs. -/
def intervalFired (w : StorePage) : IntervalKind → StorePage
  | .clock => w
  | .refresh => { w with store := { w.store with unknownDevices := [] } }.refreshSensors
  | .poll => w.poll

/-- What a timeout runs. -/
def timeoutFired (w : StorePage) : TimeoutKind → StorePage
  | .startPolling => w.startPolling
  | .refreshSensors => { w with store := { w.store with refreshQueued := none } }.refreshSensors

/-- What an answer of the latest readings leads to. -/
def latestAnswered (w : StorePage) (c : StoreCall) (readings : List Reading) : StorePage :=
  let w := w.applyAll readings
  if c = .poll ∧ w.store.connection ≠ .live then w.setConnection .polling else w

/-- What a failed request leads to. -/
def callFailed (w : StorePage) (c : StoreCall) : StorePage :=
  if c = .poll ∧ w.store.connection ≠ .live then w.setConnection .reconnecting else w

/-- A step: only what is alive, or on its way, can happen. -/
def step (w : StorePage) : StoreEvent → StorePage
  | .start => w.start
  | .retry => w.retry
  | .stop => w.stop
  | .loadCreated k =>
    if w.loads[k]? = some .creating then { w with store := { w.store with service := true }, loads := w.loads.set k .fetching }
    else w
  | .loadAnswered k sensors readings =>
    if w.loads[k]? = some .fetching then { w with loads := w.loads.eraseIdx k }.loaded sensors readings else w
  | .loadFailed k message =>
    if k < w.loads.length then { w with store := { w.store with error := some message }, loads := w.loads.eraseIdx k } else w
  | .onReading id reading => if (w.browser.sockets.purpose id).isSome then w.applyReading reading true else w
  | .onConnection id connected => if (w.browser.sockets.purpose id).isSome then w.onConnection connected else w
  | .interval id =>
    match w.browser.intervals.purpose id with
    | some kind => w.intervalFired kind
    | none => w
  | .timeout id =>
    match w.browser.timeouts.purpose id with
    | some kind => { w with browser := { w.browser with timeouts := w.browser.timeouts.release id } }.timeoutFired kind
    | none => w
  | .visible => if w.browser.listening = true then w.onVisible else w
  | .sensorsAnswered k sensors =>
    if w.calls[k]? = some .refreshSensors then { w with store := { w.store with sensors }, calls := w.calls.eraseIdx k } else w
  | .latestAnswered k readings =>
    match w.calls[k]? with
    | some .syncLatest => { w with calls := w.calls.eraseIdx k }.latestAnswered .syncLatest readings
    | some .poll => { w with calls := w.calls.eraseIdx k }.latestAnswered .poll readings
    | _ => w
  | .callFailed k =>
    match w.calls[k]? with
    | some c => { w with calls := w.calls.eraseIdx k }.callFailed c
    | none => w

/-- What fires in a step. -/
def fired (w : StorePage) : StoreEvent → Option (IntervalKind ⊕ TimeoutKind)
  | .interval id => (w.browser.intervals.purpose id).map Sum.inl
  | .timeout id => (w.browser.timeouts.purpose id).map Sum.inr
  | _ => none

end StorePage

/-- The page as a machine; a step gives what has fired in it. -/
def storeMachine : Machine StorePage StoreEvent (Option (IntervalKind ⊕ TimeoutKind)) := ⟨fun w e => (w.step e, w.fired e)⟩

end AirQuality

import AirQuality.Lib.Machine
import AirQuality.Lib.Word

/-!
# The joins of the simulator

`services/simulator/src/index.ts` and `gateway.ts`, up to the point where every device has joined: `joinDevice` sends Join Requests
and waits, `main` joins one device after the other, and the gateway hands a downlink to the first that waits. A hex string is the
bytes it spells, and what `lora-packet` computes is a parameter. Between two events of the outside everything that was resolved or
rejected runs to its next wait.
-/

namespace AirQuality

/-- `DeviceCredentials` -/
structure DeviceCredentials where
  devEui : List UInt8
  joinEui : List UInt8
  appKey : List UInt8
deriving DecidableEq

/-- `DeviceSession` -/
structure DeviceSession where
  devEui : List UInt8
  devAddr : List UInt8
  nwkSKey : List UInt8
  appSKey : List UInt8
deriving DecidableEq

/-- The fields of a Join Request; its MIC is left out. -/
structure JoinRequest where
  appEui : List UInt8
  devEui : List UInt8
  devNonce : UInt16
deriving DecidableEq

/-- `buildJoinRequest` -/
def buildJoinRequest (cred : DeviceCredentials) (devNonce : UInt16) : JoinRequest :=
  { appEui := cred.joinEui, devEui := cred.devEui, devNonce }

/-- The buffers of a Join Accept. -/
structure JoinAccept where
  netId : List UInt8
  appNonce : List UInt8
  devAddr : List UInt8

/-- What the simulator uses of `lora-packet`. -/
structure LoraPacket where
  /-- `fromWire(decryptJoinAccept(fromWire(phy), appKey))`, or `none` if one of them throws. The MIC is not checked. -/
  openJoinAccept : (appKey phy : List UInt8) → Option JoinAccept
  /-- `generateSessionKeys10`: NwkSKey and AppSKey. -/
  generateSessionKeys10 : (appKey netId appNonce : List UInt8) → (devNonce : UInt16) → List UInt8 × List UInt8
  /-- Two devNonces never give the same keys. -/
  keys_injective : ∀ appKey netId appNonce devNonce devNonce',
    generateSessionKeys10 appKey netId appNonce devNonce = generateSessionKeys10 appKey netId appNonce devNonce' →
      devNonce = devNonce'

/-- `deriveSession`: `none` if it throws. -/
def deriveSession (lib : LoraPacket) (cred : DeviceCredentials) (devNonce : UInt16) (joinAcceptPhy : List UInt8) :
    Option DeviceSession :=
  (lib.openJoinAccept cred.appKey joinAcceptPhy).map fun b =>
    let keys := lib.generateSessionKeys10 cred.appKey b.netId b.appNonce devNonce
    { devEui := cred.devEui, devAddr := b.devAddr, nwkSKey := keys.1, appSKey := keys.2 }

/-- A waiter of the gateway: the call of `joinDevice` that awaits it, by its device, its attempt and the `devNonce` of that. -/
structure JoinWaiter where
  cred : DeviceCredentials
  attempt : Nat
  devNonce : UInt16
deriving DecidableEq

/-- The state of the joins. -/
structure JoinState where
  /-- The Join Requests sent, in order. -/
  requests : List JoinRequest
  /-- `downlinkWaiters` of the gateway. -/
  downlinkWaiters : List JoinWaiter
  /-- The devices `main` has not come to. -/
  creds : List DeviceCredentials
  sessions : List DeviceSession
  /-- `joinDevice` has thrown, and `main` with it. -/
  failed : Bool
deriving DecidableEq

/-- A Join Accept on its way: its bytes, and the number of the Join Request it answers. -/
structure AcceptDownlink where
  phy : List UInt8
  answers : Nat
deriving DecidableEq

inductive JoinEvent where
  /-- A PULL_RESP arrives with a Join Accept. -/
  | pullResp (accept : AcceptDownlink)
  /-- The 8 s timer of waiter `i` fires. -/
  | expire (i : Nat)
deriving DecidableEq

/-- A session `joinDevice` returned, with what it was derived from. -/
structure JoinedSession where
  session : DeviceSession
  cred : DeviceCredentials
  devNonce : UInt16
  accept : AcceptDownlink
deriving DecidableEq

section

variable (lib : LoraPacket) (newDevNonce : Nat → UInt16)

/-- One pass of the loop of `joinDevice`, up to its wait; `newDevNonce k` is the nonce drawn for Join Request `k`. -/
def JoinState.tryJoin (s : JoinState) (cred : DeviceCredentials) (attempt : Nat) : JoinState :=
  let devNonce := newDevNonce s.requests.length
  { s with
    requests := s.requests ++ [buildJoinRequest cred devNonce]
    downlinkWaiters := s.downlinkWaiters ++ [{ cred, attempt, devNonce }] }

/-- The loop of `main`: the next device joins, if there is one. -/
def JoinState.joinNext (s : JoinState) : JoinState :=
  match s.creds with
  | [] => s
  | cred :: creds => { s with creds }.tryJoin newDevNonce cred 1

/-- The `catch` of `joinDevice`: it tries five times, then throws. -/
def JoinState.retry (s : JoinState) (w : JoinWaiter) : JoinState :=
  if w.attempt < 5 then s.tryJoin newDevNonce w.cred (w.attempt + 1) else { s with failed := true }

/-- When the joins start. -/
def JoinState.start (creds : List DeviceCredentials) : JoinState :=
  JoinState.joinNext newDevNonce { requests := [], downlinkWaiters := [], creds, sessions := [], failed := false }

/-- The simulator while its devices join. A Join Accept answers a Join Request that was sent; one that finds nobody waiting goes to
the handler of data downlinks, which is not set yet. -/
def joinMachine : Machine JoinState JoinEvent (Option JoinedSession) where
  step s
    | .pullResp accept =>
      if s.requests.length ≤ accept.answers then (s, none)
      else
        match s.downlinkWaiters with
        | [] => (s, none)
        | w :: ws =>
          let s := { s with downlinkWaiters := ws }
          match deriveSession lib w.cred w.devNonce accept.phy with
          | none => (s.retry newDevNonce w, none)
          | some session =>
            ({ s with sessions := s.sessions ++ [session] }.joinNext newDevNonce,
              some { session, cred := w.cred, devNonce := w.devNonce, accept })
    | .expire i =>
      match s.downlinkWaiters[i]? with
      | none => (s, none)
      | some w => ({ s with downlinkWaiters := s.downlinkWaiters.eraseIdx i }.retry newDevNonce w, none)

end

end AirQuality

import AirQuality.Api.Registry
import AirQuality.Lib.Machine
import AirQuality.Lib.Program

/-!
# Provisioning

`services/simulator/src/chirpstack.ts` and the part of `index.ts` before the joins: `provision` asks ChirpStack for what is there and
creates what is not, `provisionWithRetry` tries again where a request fails, and `saveCreds` writes the root keys to the volume that
`loadCreds` reads them from when the simulator starts anew. The file is emptied before it is written, so a save that is cut off
leaves nothing that can be read. What ChirpStack answers is arbitrary; of its state only the key of each device counts.
-/

namespace AirQuality

/-- `Omit<DeviceCredentials, 'devEui'>` -/
structure RootKeys where
  joinEui : String
  appKey : String
deriving DecidableEq

/-- `CredStore` -/
abbrev CredStore := String → Option RootKeys

/-- `JOIN_EUI` -/
def joinEUI : String := "0102030405060708"

/-- The requests of `provision`: `login`, and those that `rest` makes. -/
inductive ChirpCall where
  | login
  | tenants
  | applications (tenantId : String)
  | postApplication (tenantId : String)
  | deviceProfiles (tenantId : String)
  | postDeviceProfile (tenantId : String)
  | postGateway (gatewayId tenantId : String)
  | postDevice (devEui name : String) (applicationId deviceProfileId : Option String) (joinEui : String)
  | postKeys (devEui nwkKey : String)
deriving DecidableEq

/-- An answer, as far as `provision` reads it: the ids and names of `result`, and `id`. -/
structure ChirpReply where
  result : Option (List (String × String))
  id : Option String
deriving DecidableEq

/-- A program that calls ChirpStack and draws keys. -/
abbrev Chirp := Program ChirpCall ChirpReply String

/-- `genCreds`; a draw is `crypto.randomBytes(16).toString('hex')`. -/
def genCreds : Chirp RootKeys := do
  let appKey ← Program.sample
  pure { joinEui := joinEUI, appKey }

/-- `opts.existingCreds[f.deviceId] ?? genCreds()` -/
def credsOf (existing : CredStore) (deviceId : String) : Chirp RootKeys :=
  match existing deviceId with
  | some creds => pure creds
  | none => genCreds

/-- A truthy id. -/
def truthy (id : Option String) : Option String := id.filter (fun s => decide (s ≠ ""))

/-- `r.result?.find((x) => x.name === name)?.id` -/
def ChirpReply.find (r : ChirpReply) (name : String) : Option String :=
  ((r.result.getD []).find? (fun p => decide (p.2 = name))).map Prod.fst

/-- The id of what is there, or of what is created. -/
def findOrCreate (list create : ChirpCall) (name : String) : Chirp (Option String) := do
  let r ← Program.perform list
  match truthy (r.find name) with
  | some id => pure (some id)
  | none =>
    let created ← Program.perform create
    pure created.id

/-- The loop of `provision` over the fixtures, with the `devices` it has pushed. -/
def provisionDevices (existing : CredStore) (applicationId deviceProfileId : Option String) :
    List (String × String) → List (String × RootKeys) → Chirp (List (String × RootKeys))
  | [], devices => pure devices
  | (deviceId, name) :: fixtures, devices => do
    let creds ← credsOf existing deviceId
    let _ ← Program.perform (.postDevice deviceId name applicationId deviceProfileId creds.joinEui)
    let _ ← Program.perform (.postKeys deviceId creds.appKey)
    provisionDevices existing applicationId deviceProfileId fixtures (devices ++ [(deviceId, creds)])

/-- `provision`, of a gateway and fixtures. -/
def provision (gatewayEui : String) (fixtures : List (String × String)) (existing : CredStore) : Chirp (List (String × RootKeys)) := do
  let _ ← Program.perform .login
  let tenants ← Program.perform .tenants
  match truthy ((tenants.result.getD []).head?.map Prod.fst) with
  | none => Program.throw
  | some tenantId =>
    let applicationId ← findOrCreate (.applications tenantId) (.postApplication tenantId) "Air Quality"
    let deviceProfileId ← findOrCreate (.deviceProfiles tenantId) (.postDeviceProfile tenantId) "AQ Node OTAA"
    let _ ← Program.perform (.postGateway gatewayEui tenantId)
    provisionDevices existing applicationId deviceProfileId fixtures []

/-- `fixtures` of `provisionWithRetry` -/
def provisionFixtures : List (String × String) := sensorFixtures.map (fun f => (f.deviceId, f.name))

/-- `Object.fromEntries(devices.map(…))` -/
def credStore (devices : List (String × RootKeys)) : CredStore :=
  devices.foldl (fun store d => Function.update store d.1 (some d.2)) (fun _ => none)

/-- `loadCreds`, of what `devices.json` holds; where the file is not read the `catch` gives `{}`. -/
def loadCreds (disk : CredStore) (readable : Bool) : CredStore := if readable = true then disk else fun _ => none

/-- What the simulator relies on of ChirpStack: a device has at most one key, and the first that is posted stays. -/
structure ChirpStack where
  State : Type
  empty : State
  /-- What a request does when it is carried out. -/
  handle : State → ChirpCall → State
  key : State → String → Option String
  key_empty : ∀ devEui, key empty devEui = none
  key_postKeys : ∀ s devEui nwkKey devEui', key (handle s (.postKeys devEui nwkKey)) devEui' =
    if devEui' = devEui then some ((key s devEui).getD nwkKey) else key s devEui'
  key_other : ∀ s c devEui', (∀ devEui nwkKey, c ≠ .postKeys devEui nwkKey) → key (handle s c) devEui' = key s devEui'

/-- The keys that are drawn, one after the other: no two are the same. -/
abbrev KeySource := { source : Nat → String // Function.Injective source }

/-- What the simulator is at. -/
inductive ProvisionPhase where
  | off
  /-- An attempt of `provisionWithRetry`, with what `loadCreds` read and the program as far as it has come. -/
  | provisioning (existing : CredStore) (attempt : Nat) (program : Chirp (List (String × RootKeys)))
  /-- `saveCreds` comes next; what `loadCreds` read is kept for the reader only. -/
  | saving (existing : CredStore) (devices : List (String × RootKeys))
  | running

/-- ChirpStack, the volume and the simulator. -/
structure Provisioning (cs : ChirpStack) where
  server : cs.State
  /-- What `devices.json` holds: nothing, where there is no such file or a part of one. -/
  disk : CredStore
  drawn : Nat
  phase : ProvisionPhase

inductive ProvisionEvent where
  /-- The simulator starts, and the file that is there is read, or is not. -/
  | boot (readable : Bool)
  /-- The request that is awaited is carried out and answered; or its answer is lost; or it is not carried out. -/
  | answered (reply : ChirpReply)
  | lost
  | failed
  | save
  /-- `saveCreds` fails, or is stopped, with the file emptied and not all of it written. -/
  | cutOff
  /-- The simulator ends, wherever it is, and the file stays as it is. -/
  | crash

section

variable {cs : ChirpStack} (keys : KeySource) (gatewayEui : String)

/-- A program goes on to its next request, or ends. -/
def Provisioning.settle (s : Provisioning cs) (existing : CredStore) (attempt : Nat) (p : Chirp (List (String × RootKeys))) :
    Provisioning cs :=
  let p' := p.advance keys.1 s.drawn
  { s with
    drawn := p'.2
    phase :=
      match p'.1 with
      | .done devices => .saving existing devices
      | program => .provisioning existing attempt program }

/-- An attempt begins. -/
def Provisioning.start (s : Provisioning cs) (existing : CredStore) (attempt : Nat) : Provisioning cs :=
  s.settle keys existing attempt (provision gatewayEui provisionFixtures existing)

/-- The `catch` of `provisionWithRetry`: after the thirtieth attempt the simulator exits. -/
def Provisioning.retry (s : Provisioning cs) (existing : CredStore) (attempt : Nat) : Provisioning cs :=
  if 30 ≤ attempt then { s with phase := .off } else s.start keys gatewayEui existing (attempt + 1)

/-- A request has been answered: the program goes on, or it throws. -/
def Provisioning.resume (s : Provisioning cs) (existing : CredStore) (attempt : Nat) (p : Chirp (List (String × RootKeys))) :
    Provisioning cs :=
  match p.advance keys.1 s.drawn with
  | (.throw, drawn) => { s with drawn }.retry keys gatewayEui existing attempt
  | _ => s.settle keys existing attempt p

def Provisioning.step (s : Provisioning cs) : ProvisionEvent → Provisioning cs
  | .boot readable =>
    match s.phase with
    | .off => s.start keys gatewayEui (loadCreds s.disk readable) 1
    | _ => s
  | .answered reply =>
    match s.phase with
    | .provisioning existing attempt (.call c k) =>
      { s with server := cs.handle s.server c }.resume keys gatewayEui existing attempt (k reply)
    | _ => s
  | .lost =>
    match s.phase with
    | .provisioning existing attempt (.call c _) =>
      { s with server := cs.handle s.server c }.retry keys gatewayEui existing attempt
    | _ => s
  | .failed =>
    match s.phase with
    | .provisioning existing attempt (.call _ _) => s.retry keys gatewayEui existing attempt
    | _ => s
  | .save =>
    match s.phase with
    | .saving _ devices => { s with disk := credStore devices, phase := .running }
    | _ => s
  | .cutOff =>
    match s.phase with
    | .saving _ _ => { s with disk := fun _ => none, phase := .off }
    | _ => s
  | .crash => { s with phase := .off }

/-- Whether an attempt ends in this step without its keys being saved. -/
def Provisioning.abandons (s : Provisioning cs) : ProvisionEvent → Bool
  | .answered reply =>
    match s.phase with
    | .provisioning _ _ (.call _ k) =>
      match (k reply).advance keys.1 s.drawn with
      | (.throw, _) => true
      | _ => false
    | _ => false
  | .lost | .failed =>
    match s.phase with
    | .provisioning _ _ (.call _ _) => true
    | _ => false
  | .cutOff =>
    match s.phase with
    | .saving _ _ => true
    | _ => false
  | .crash =>
    match s.phase with
    | .provisioning _ _ _ | .saving _ _ => true
    | _ => false
  | .boot _ | .save => false

/-- ChirpStack without devices, and an empty volume. -/
def Provisioning.init (cs : ChirpStack) : Provisioning cs := ⟨cs.empty, fun _ => none, 0, .off⟩

/-- Provisioning as a machine; a step gives whether it abandons an attempt. -/
def provisionMachine (cs : ChirpStack) : Machine (Provisioning cs) ProvisionEvent Bool :=
  ⟨fun s e => (s.step keys gatewayEui e, s.abandons keys e)⟩

end

end AirQuality

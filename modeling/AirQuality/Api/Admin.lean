import AirQuality.Api.Sensors
import AirQuality.Ingestion.Envelope

/-!
# The administrative endpoints

`apps/api/src/auth/admin-api-key.guard.ts` and the bodies of `packages/contracts/src/sensor.ts` (`CreateSensorSchema`,
`UpdateSensorSchema`), in front of the requests of the registry. A request passes the guard, then its body is parsed, and only then
does it reach the service. Which texts `z.iso.datetime()` accepts, and as which times, is a parameter.
-/

namespace AirQuality

/-! ## The guard -/

/-- A header, as Node has it. -/
inductive HeaderValue where
  | one (s : String)
  | many (ss : List String)

/-- The headers the guard reads. -/
structure Headers where
  xApiKey : Option HeaderValue
  authorization : Option HeaderValue

/-- `ADMIN_API_KEY` and `NODE_ENV`. -/
structure AdminConfig where
  adminApiKey : Option String
  nodeEnv : Option String

/-- The `UnauthorizedException`s of the guard. -/
inductive Unauthorized where
  | notConfigured
  | missing
  | invalid
deriving DecidableEq

def Unauthorized.message : Unauthorized → String
  | .notConfigured => "Admin API key is not configured on the server"
  | .missing => "Missing admin API key (provide via X-API-Key header)"
  | .invalid => "Invalid admin API key"

/-- The token of a `Bearer` header, if there is one. -/
def bearerToken (header : String) : Option String :=
  if "Bearer ".toList.isPrefixOf header.toList = true then
    let token := trim (String.ofList (header.toList.drop 7))
    if token ≠ "" then some token else none
  else none

/-- The key of the `Authorization` header. -/
def authorizationKey : Option HeaderValue → Option String
  | some (.one header) => bearerToken header
  | _ => none

def extractApiKey (headers : Headers) : Option String :=
  match headers.xApiKey with
  | some (.one key) => if trim key ≠ "" then some (trim key) else authorizationKey headers.authorization
  | _ => authorizationKey headers.authorization

/-- `timingSafeEqual`, of the bytes of two texts. -/
def timingSafeEqual (a b : String) : Bool :=
  a.toByteArray.size == b.toByteArray.size && a.toByteArray.data == b.toByteArray.data

def canActivate (config : AdminConfig) (headers : Headers) : Except Unauthorized Unit :=
  let configuredKey := (config.adminApiKey.map trim).getD ""
  let isProd := config.nodeEnv == some "production"
  if configuredKey = "" ∨ (isProd = true ∧ configuredKey = "dev-admin-key") then .error .notConfigured
  else
    match extractApiKey headers with
    | none => .error .missing
    | some providedKey => if timingSafeEqual providedKey configuredKey = true then .ok () else .error .invalid

/-! ## The bodies -/

/-- `length` of a text: its UTF-16 code units. -/
def jsLength (s : String) : Nat := (s.toList.map (fun c => if c.toNat < 65536 then 1 else 2)).sum

/-- `z.string().trim().min(min).max(max)` -/
def zTrimmed (min max : Nat) (json : Json) : Option String :=
  ((zString json).map trim).filter (fun s => decide (min ≤ jsLength s ∧ jsLength s ≤ max))

/-- `z.number().min(lo).max(hi)` -/
def zRange (lo hi : ℚ) (json : Json) : Option ℚ := (zNumber json).filter (fun q => decide (lo ≤ q ∧ q ≤ hi))

/-- `schema.nullable()` -/
def nullable {α : Type} (schema : Json → Option α) : Json → Option (Option α)
  | .null => some none
  | json => (schema json).map some

/-- `[0-9a-fA-F]` -/
def isHex (c : Char) : Bool := isLowerHex c || decide ('A'.toNat ≤ c.toNat ∧ c.toNat ≤ 'F'.toNat)

/-- In lower case, a hexadecimal digit is one of those. -/
theorem isLowerHex_toLower {c : Char} (h : isHex c = true) : isLowerHex c.toLower = true := by
  have hchar : ∀ n : Fin 128, isHex (Char.ofNat n) = true → isLowerHex (Char.ofNat n).toLower = true := by decide
  have hlt : c.toNat < 128 := by
    simp only [isHex, isLowerHex, Bool.or_eq_true, decide_eq_true_eq] at h
    have h9 : '9'.toNat = 57 := rfl
    have hf : 'f'.toNat = 102 := rfl
    have hF : 'F'.toNat = 70 := rfl
    omega
  have hc := hchar ⟨c.toNat, hlt⟩
  rw [Char.ofNat_toNat] at hc
  exact hc h

theorem asciiLower_hex {s : String} (hlength : s.toList.length = 16) (hhex : s.toList.all isHex = true) :
    (asciiLower s).toList.length = 16 ∧ ∀ c ∈ (asciiLower s).toList, isLowerHex c = true := by
  rw [asciiLower, String.toList_ofList]
  refine ⟨by rw [List.length_map, hlength], ?_⟩
  intro c hc
  obtain ⟨d, hd, rfl⟩ := List.mem_map.1 hc
  exact isLowerHex_toLower (List.all_eq_true.1 hhex d hd)

/-- The `deviceId` of `CreateSensorSchema`: trimmed, 16 hexadecimal digits, then in lower case. -/
def devEuiSchema (json : Json) : Option DevEui :=
  (zString json).bind fun text =>
    if h : (trim text).toList.length = 16 ∧ (trim text).toList.all isHex = true then
      some ⟨asciiLower (trim text), asciiLower_hex h.1 h.2⟩
    else none

section

variable (isoTime : String → Option ℤ)

/-- `z.iso.datetime()`, as the time that `new Date` makes of it. -/
def zIsoDatetime (json : Json) : Option ℤ := (zString json).bind isoTime

/-- `CreateSensorSchema` -/
def createSensorSchema (json : Json) : Option CreateSensorDto := do
  let fields ← zObject json
  let deviceId ← required devEuiSchema (field fields "deviceId")
  let name ← required (zTrimmed 1 100) (field fields "name")
  let description ← optional (zTrimmed 0 500) (field fields "description")
  let latitude ← required (zRange (-90) 90) (field fields "latitude")
  let longitude ← required (zRange (-180) 180) (field fields "longitude")
  let neighborhood ← optional (zTrimmed 1 100) (field fields "neighborhood")
  let status ← optional sensorStatusSchema (field fields "status")
  let installedAt ← optional (zIsoDatetime isoTime) (field fields "installedAt")
  let isSimulated ← optional zBoolean (field fields "isSimulated")
  some
    { deviceId, name, description, latitude, longitude, neighborhood, status := some (status.getD .active), installedAt,
      isSimulated := some (isSimulated.getD false) }

/-- `UpdateSensorSchema` -/
def updateSensorSchema (json : Json) : Option UpdateSensorDto := do
  let fields ← zObject json
  let name ← optional (zTrimmed 1 100) (field fields "name")
  let description ← optional (nullable (zTrimmed 0 500)) (field fields "description")
  let latitude ← optional (zRange (-90) 90) (field fields "latitude")
  let longitude ← optional (zRange (-180) 180) (field fields "longitude")
  let neighborhood ← optional (nullable (zTrimmed 1 100)) (field fields "neighborhood")
  let status ← optional sensorStatusSchema (field fields "status")
  let installedAt ← optional (nullable (zIsoDatetime isoTime)) (field fields "installedAt")
  let isSimulated ← optional zBoolean (field fields "isSimulated")
  some { name, description, latitude, longitude, neighborhood, status, installedAt, isSimulated }

/-! ## The requests -/

/-- The requests of the controller that write. -/
inductive AdminCall where
  | create (body : Json)
  | update (deviceId : String) (body : Json)
  | retire (deviceId : String)

/-- What a request is refused with before it reaches the service. -/
inductive HttpError where
  | unauthorized (e : Unauthorized)
  | badRequest
deriving DecidableEq

/-- The body of a request, parsed. -/
def AdminCall.parse : AdminCall → Option RegistryCall
  | .create body => (createSensorSchema isoTime body).map .create
  | .update deviceId body => (updateSensorSchema isoTime body).map (.update deviceId)
  | .retire deviceId => some (.retire deviceId)

/-- What becomes of a request: the guard runs before the body is parsed. -/
def AdminCall.handle (config : AdminConfig) (headers : Headers) (call : AdminCall) : Except HttpError RegistryCall :=
  match canActivate config headers with
  | .error e => .error (.unauthorized e)
  | .ok () =>
    match call.parse isoTime with
    | some c => .ok c
    | none => .error .badRequest

/-- What happens to the API: a request, a run of the seed, or the statement that request `i` of the registry awaits returns or
fails. -/
inductive ApiEvent where
  | request (headers : Headers) (call : AdminCall)
  | seed
  | resolve (i : Nat) (env : Env)
  | reject (i : Nat) (env : Env) (applied : Bool)

/-- The step of the registry that an event is, if it gets that far. -/
def ApiEvent.action (config : AdminConfig) : ApiEvent → Except HttpError RegistryAction
  | .request headers call => (call.handle isoTime config headers).map .arrive
  | .seed => .ok (.arrive .seed)
  | .resolve i env => .ok (.resolve i env)
  | .reject i env applied => .ok (.reject i env applied)

/-- The API over the registry: a request that is refused gives its error and changes nothing. -/
def apiMachine (unicodeLower : String → String) (config : AdminConfig) : Machine Registry ApiEvent (Option HttpError) where
  step s e :=
    match e.action isoTime config with
    | .ok a => (((registryMachine unicodeLower).step s a).1, none)
    | .error err => (s, some err)

end

end AirQuality

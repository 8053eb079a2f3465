import AirQuality.Codec.Text
import AirQuality.Lib.Machine
import AirQuality.Lib.Table
import Mathlib.Data.Rat.Defs

/-!
# The sensor registry

The table `sensors`: what the migration (`packages/db/migrations/relational`), the seed (`packages/db/src/seed.ts`) and the requests
of `apps/api/src/sensors/sensors.service.ts` do to it, statement by statement. A request runs to its next `await` at once, and
goes on when the statement it awaits has returned; between two statements of one request those of others may come in any order.
-/

namespace AirQuality

/-- `SENSOR_STATUSES` -/
inductive SensorStatus where
  | active
  | maintenance
  | retired
deriving DecidableEq

/-- A row of `sensors`. Its key is `device_id`. -/
structure SensorRow where
  id : String
  deviceId : String
  name : String
  description : Option String
  latitude : ℚ
  longitude : ℚ
  neighborhood : Option String
  status : SensorStatus
  isActive : Bool
  installedAt : Option ℤ
  isSimulated : Bool
  lastSeenAt : Option ℤ
  batteryMv : Option ℤ
  createdAt : ℤ
  updatedAt : ℤ
deriving DecidableEq

/-! ## The migration and the seed -/

/-- A row of `sensors` before migration 0001. -/
structure LegacyRow where
  id : String
  deviceId : String
  name : String
  description : Option String
  latitude : ℚ
  longitude : ℚ
  neighborhood : Option String
  isActive : Bool
  lastSeenAt : Option ℤ
  batteryMv : Option ℤ
  createdAt : ℤ
  updatedAt : ℤ
deriving DecidableEq

/-- Migration 0001, row by row: `status` is backfilled from `is_active`, and every row counts as simulated. -/
def LegacyRow.migrate (r : LegacyRow) : SensorRow where
  id := r.id
  deviceId := r.deviceId
  name := r.name
  description := r.description
  latitude := r.latitude
  longitude := r.longitude
  neighborhood := r.neighborhood
  status := if r.isActive = true then .active else .retired
  isActive := r.isActive
  installedAt := none
  isSimulated := true
  lastSeenAt := r.lastSeenAt
  batteryMv := r.batteryMv
  createdAt := r.createdAt
  updatedAt := r.updatedAt

/-- A table before migration 0001 whose DevEUIs are lower-case, and distinct as the unique constraint has them. -/
abbrev LegacyTable :=
  { rows : List LegacyRow // (rows.map LegacyRow.deviceId).Nodup ∧ ∀ r ∈ rows, LowerCase r.deviceId }

/-- An entry of `SENSOR_FIXTURES`, as far as the seed reads it. -/
structure SensorFixture where
  deviceId : String
  name : String
  latitude : ℚ
  longitude : ℚ
  neighborhood : String

/-- `SENSOR_FIXTURES` -/
def sensorFixtures : List SensorFixture :=
  [⟨"70b3d57ed0060001", "El Mina Corniche", 344516 / 10000, 358206 / 10000, "El Mina"⟩,
    ⟨"70b3d57ed0060002", "Tell Downtown", 344367 / 10000, 358497 / 10000, "Tell"⟩,
    ⟨"70b3d57ed0060003", "Abou Samra Heights", 344262 / 10000, 358492 / 10000, "Abou Samra"⟩,
    ⟨"70b3d57ed0060004", "Zahrieh Square", 3444 / 100, 35843 / 1000, "Zahrieh"⟩,
    ⟨"70b3d57ed0060005", "Qobbeh Market", 34445 / 1000, 3586 / 100, "Qobbeh"⟩,
    ⟨"70b3d57ed0060006", "Bab al-Tabbaneh", 34448 / 1000, 35852 / 1000, "Bab al-Tabbaneh"⟩]

/-- What the database and the clock supply while a statement runs: a random id for each row inserted, by its DevEUI, and the
time. -/
structure Env where
  uuid : String → String
  now : ℤ

/-- The row the seed inserts for a fixture. -/
def SensorFixture.row (env : Env) (f : SensorFixture) : SensorRow where
  id := env.uuid f.deviceId
  deviceId := f.deviceId
  name := f.name
  description := none
  latitude := f.latitude
  longitude := f.longitude
  neighborhood := some f.neighborhood
  status := .active
  isActive := true
  installedAt := none
  isSimulated := true
  lastSeenAt := none
  batteryMv := none
  createdAt := env.now
  updatedAt := env.now

/-- `onConflictDoUpdate` of the seed: what it sets on the row that is there, given the one it would insert (`excluded`). -/
def seedConflict (env : Env) (excluded r : SensorRow) : SensorRow :=
  { r with
    name := excluded.name
    latitude := excluded.latitude
    longitude := excluded.longitude
    neighborhood := excluded.neighborhood
    isSimulated := excluded.isSimulated
    updatedAt := env.now }

/-- The statement of the seed. -/
@[irreducible] def seedRows (env : Env) (rows : List SensorRow) : List SensorRow :=
  (sensorFixtures.map (SensorFixture.row env)).foldl (Table.upsert SensorRow.deviceId (seedConflict env)) rows

/-! ## Requests -/

/-- `CreateSensorDto`: a body that `CreateSensorSchema` has parsed. -/
structure CreateSensorDto where
  deviceId : DevEui
  name : String
  description : Option String
  latitude : ℚ
  longitude : ℚ
  neighborhood : Option String
  status : Option SensorStatus
  installedAt : Option ℤ
  isSimulated : Option Bool
deriving DecidableEq

/-- `UpdateSensorDto`: a body that `UpdateSensorSchema` has parsed. A field is absent, or for a nullable one null. -/
structure UpdateSensorDto where
  name : Option String
  description : Option (Option String)
  latitude : Option ℚ
  longitude : Option ℚ
  neighborhood : Option (Option String)
  status : Option SensorStatus
  installedAt : Option (Option ℤ)
  isSimulated : Option Bool
deriving DecidableEq

/-- An empty body. -/
def UpdateSensorDto.empty : UpdateSensorDto := ⟨none, none, none, none, none, none, none, none⟩

/-- The row `create` inserts. -/
def createRow (env : Env) (deviceId : String) (dto : CreateSensorDto) : SensorRow :=
  let status := dto.status.getD .active
  { id := env.uuid deviceId
    deviceId
    name := dto.name
    description := dto.description
    latitude := dto.latitude
    longitude := dto.longitude
    neighborhood := dto.neighborhood
    status
    isActive := status == .active
    installedAt := dto.installedAt
    isSimulated := dto.isSimulated.getD false
    lastSeenAt := none
    batteryMv := none
    createdAt := env.now
    updatedAt := env.now }

/-- `updateValues`: the columns `update` sets. -/
structure UpdateValues where
  name : Option String
  description : Option (Option String)
  latitude : Option ℚ
  longitude : Option ℚ
  neighborhood : Option (Option String)
  status : Option SensorStatus
  isActive : Option Bool
  installedAt : Option (Option ℤ)
  isSimulated : Option Bool
  updatedAt : ℤ
deriving DecidableEq

/-- What `update` makes of its body. -/
def updateValues (now : ℤ) (dto : UpdateSensorDto) : UpdateValues where
  name := dto.name
  description := dto.description
  latitude := dto.latitude
  longitude := dto.longitude
  neighborhood := dto.neighborhood
  status := dto.status
  isActive := dto.status.map (· == .active)
  installedAt := dto.installedAt
  isSimulated := dto.isSimulated
  updatedAt := now

/-- `.set(updateValues)`: the columns that are there are set. -/
def UpdateValues.set (v : UpdateValues) (r : SensorRow) : SensorRow :=
  { r with
    name := v.name.getD r.name
    description := v.description.getD r.description
    latitude := v.latitude.getD r.latitude
    longitude := v.longitude.getD r.longitude
    neighborhood := v.neighborhood.getD r.neighborhood
    status := v.status.getD r.status
    isActive := v.isActive.getD r.isActive
    installedAt := v.installedAt.getD r.installedAt
    isSimulated := v.isSimulated.getD r.isSimulated
    updatedAt := v.updatedAt }

/-- How a request ends. -/
inductive Outcome where
  | created (r : SensorRow)
  | updated (r : SensorRow)
  | seeded
  | notFound
  | conflict
  /-- A statement of it failed. -/
  | failed
deriving DecidableEq

/-- A request: the statement it awaits, or how it ended. -/
inductive Request where
  /-- `create` awaits its INSERT. -/
  | inserting (dto : CreateSensorDto)
  /-- `update` awaits its SELECT. -/
  | selecting (deviceId : String) (dto : UpdateSensorDto)
  /-- `update` awaits its UPDATE of the row with this key. -/
  | updating (normalized : String) (dto : UpdateSensorDto) (values : UpdateValues)
  /-- The seed awaits its INSERT. -/
  | seeding
  | ended (o : Outcome)
deriving DecidableEq

/-- The requests as they arrive. -/
inductive RegistryCall where
  | create (dto : CreateSensorDto)
  | update (deviceId : String) (dto : UpdateSensorDto)
  | retire (deviceId : String)
  | seed

/-- The synchronous part of a request. `retire` is an update of the status. -/
def RegistryCall.request : RegistryCall → Request
  | .create dto => .inserting dto
  | .update deviceId dto => .selecting deviceId dto
  | .retire deviceId => .selecting deviceId { UpdateSensorDto.empty with status := some .retired }
  | .seed => .seeding

/-- The table, and the requests in the order they arrived. -/
structure Registry where
  rows : List SensorRow
  requests : List Request

/-- The DevEUIs of the table. -/
abbrev deviceIds (rows : List SensorRow) : List String := rows.map SensorRow.deviceId

/-- The table after the migration and the first seed, before any request. -/
def Registry.start (env : Env) (t : LegacyTable) : Registry where
  rows := seedRows env (t.1.map LegacyRow.migrate)
  requests := []

/-- A step: a request arrives, or the statement request `i` awaits returns or fails, having been applied or not. -/
inductive RegistryAction where
  | arrive (c : RegistryCall)
  | resolve (i : Nat) (env : Env)
  | reject (i : Nat) (env : Env) (applied : Bool)

section

variable (unicodeLower : String → String)

/-- `deviceId.trim().toLowerCase()` -/
def normalized (deviceId : String) : String := toLowerCase unicodeLower (trim deviceId)

/-- What the statement a request awaits does to the table. -/
def Request.effect (env : Env) (rows : List SensorRow) : Request → List SensorRow
  | .inserting dto => Table.insertNew SensorRow.deviceId rows (createRow env (normalized unicodeLower dto.deviceId) dto)
  | .updating deviceId _ values => Table.updateWhere SensorRow.deviceId deviceId values.set rows
  | .seeding => seedRows env rows
  | _ => rows

/-- Where a request goes on once its statement has returned, from what the statement found. -/
def Request.next (env : Env) (rows : List SensorRow) : Request → Request
  | .inserting dto =>
    let row := createRow env (normalized unicodeLower dto.deviceId) dto
    if row.deviceId ∈ deviceIds rows then .ended .conflict else .ended (.created row)
  | .selecting deviceId dto =>
    if normalized unicodeLower deviceId ∈ deviceIds rows then
      .updating (normalized unicodeLower deviceId) dto (updateValues env.now dto)
    else .ended .notFound
  | .updating deviceId _ values =>
    match rows.find? (fun r => r.deviceId = deviceId) with
    | some r => .ended (.updated (values.set r))
    | none => .ended .failed -- no row to make a response of
  | .seeding => .ended .seeded
  | .ended o => .ended o

/-- The request awaits a statement. -/
def Request.awaits : Request → Bool
  | .ended _ => false
  | _ => true

/-- The registry as a machine. -/
def registryMachine : Machine Registry RegistryAction Unit where
  step s
    | .arrive c => ({ s with requests := s.requests ++ [c.request] }, ())
    | .resolve i env =>
      match s.requests[i]? with
      | some r =>
        ({ rows := r.effect unicodeLower env s.rows, requests := s.requests.set i (r.next unicodeLower env s.rows) }, ())
      | none => (s, ())
    | .reject i env applied =>
      match s.requests[i]? with
      | some r =>
        if r.awaits = true then
          ({ rows := if applied = true then r.effect unicodeLower env s.rows else s.rows
             requests := s.requests.set i (.ended .failed) }, ())
        else (s, ())
      | none => (s, ())

end

/-! ## Reads -/

/-- `findActiveDeviceIds`: the DevEUIs that `GET /sensors/latest` looks up. -/
def findActiveDeviceIds (rows : List SensorRow) : List String := deviceIds (rows.filter (fun r => r.status == .active))

/-- The DevEUIs that `GET /overview` and `GET /overview/history` look up. -/
def overviewDeviceIds (rows : List SensorRow) : List String := deviceIds (rows.filter (fun r => r.isActive))

end AirQuality

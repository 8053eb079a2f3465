import AirQuality.Api.Admin
import AirQuality.Lib.History
import AirQuality.Theorems.Registry

/-!
# Who writes the registry, and what

The table `sensors` behind the guard and the schemas: every row that the requests have made satisfies the contract, and every device
in it was there from the start or was registered by a request that presented the key.
-/

namespace AirQuality

open History

/-! ## The guard -/

theorem timingSafeEqual_iff (a b : String) : timingSafeEqual a b = true ↔ a = b := by
  unfold timingSafeEqual
  constructor
  · intro h
    rw [Bool.and_eq_true] at h
    exact String.toByteArray_inj.1 (ByteArray.ext (eq_of_beq h.2))
  · rintro rfl
    simp

/-- The server has a key that it accepts: set, not blank, and not the one of the development setup in production. -/
def AdminConfig.Accepts (config : AdminConfig) (key : String) : Prop :=
  config.adminApiKey.map trim = some key ∧ key ≠ "" ∧ ¬(config.nodeEnv = some "production" ∧ key = "dev-admin-key")

/-- The guard lets a request pass exactly if the key it presents is the one the server accepts. -/
theorem canActivate_iff (config : AdminConfig) (headers : Headers) :
    canActivate config headers = .ok () ↔ ∃ key, config.Accepts key ∧ extractApiKey headers = some key := by
  unfold canActivate AdminConfig.Accepts
  cases hkey : config.adminApiKey.map trim with
  | none => simp
  | some key =>
    simp only [Option.getD_some, beq_iff_eq, Option.some.injEq]
    split_ifs with hbad
    · constructor
      · intro h
        cases h
      · rintro ⟨k, ⟨rfl, hne, hprod⟩, -⟩
        rcases hbad with hbad | hbad
        · exact absurd hbad hne
        · exact absurd hbad hprod
    · rw [not_or] at hbad
      cases hprovided : extractApiKey headers with
      | none => simp
      | some provided =>
        have hequal := timingSafeEqual_iff provided key
        by_cases heq : provided = key
        · subst heq
          simp [hequal.2 rfl, hbad]
        · simp [mt hequal.1 heq, heq]

/-! ## What the schemas accept -/

/-- A text is trimmed, and its length lies between two bounds. -/
def TextOk (min max : Nat) (s : String) : Prop := trim s = s ∧ min ≤ jsLength s ∧ jsLength s ≤ max

/-- The columns that the contract limits. -/
structure RowFormed (r : SensorRow) : Prop where
  deviceId : r.deviceId.toList.length = 16 ∧ ∀ c ∈ r.deviceId.toList, isLowerHex c = true
  name : TextOk 1 100 r.name
  description : ∀ s ∈ r.description, TextOk 0 500 s
  latitude : -90 ≤ r.latitude ∧ r.latitude ≤ 90
  longitude : -180 ≤ r.longitude ∧ r.longitude ≤ 180
  neighborhood : ∀ s ∈ r.neighborhood, TextOk 1 100 s
  active : r.isActive = (r.status == .active)

/-- What `CreateSensorSchema` lets through. -/
structure CreateSensorDto.Formed (dto : CreateSensorDto) : Prop where
  name : TextOk 1 100 dto.name
  description : ∀ s ∈ dto.description, TextOk 0 500 s
  latitude : -90 ≤ dto.latitude ∧ dto.latitude ≤ 90
  longitude : -180 ≤ dto.longitude ∧ dto.longitude ≤ 180
  neighborhood : ∀ s ∈ dto.neighborhood, TextOk 1 100 s

/-- What `UpdateSensorSchema` lets through. -/
structure UpdateSensorDto.Formed (dto : UpdateSensorDto) : Prop where
  name : ∀ s ∈ dto.name, TextOk 1 100 s
  description : ∀ v ∈ dto.description, ∀ s ∈ v, TextOk 0 500 s
  latitude : ∀ q ∈ dto.latitude, -90 ≤ q ∧ q ≤ 90
  longitude : ∀ q ∈ dto.longitude, -180 ≤ q ∧ q ≤ 180
  neighborhood : ∀ v ∈ dto.neighborhood, ∀ s ∈ v, TextOk 1 100 s

theorem textOk_of_zTrimmed {min max : Nat} {json : Json} {s : String} (h : zTrimmed min max json = some s) :
    TextOk min max s := by
  obtain ⟨hs, hlength⟩ := Option.filter_eq_some_iff.1 h
  obtain ⟨text, -, rfl⟩ := Option.map_eq_some_iff.1 hs
  exact ⟨trim_trim text, of_decide_eq_true hlength⟩

theorem range_of_zRange {lo hi : ℚ} {json : Json} {q : ℚ} (h : zRange lo hi json = some q) : lo ≤ q ∧ q ≤ hi :=
  of_decide_eq_true (Option.filter_eq_some_iff.1 h).2

/-- What a schema ensures of a value, `.optional()` ensures of one that is there. -/
theorem forall_of_optional {α : Type} {schema : Json → Option α} {P : α → Prop} (hP : ∀ json a, schema json = some a → P a)
    {value : Option Json} {v : Option α} (h : optional schema value = some v) : ∀ a ∈ v, P a := by
  intro a ha
  cases value with
  | none =>
    obtain rfl := Option.some.inj h
    cases ha
  | some json =>
    obtain ⟨b, hb, rfl⟩ := Option.map_eq_some_iff.1 h
    obtain rfl := Option.some.inj ha
    exact hP json _ hb

/-- What a schema ensures of a value, `.nullable()` ensures of one that is not null. -/
theorem forall_of_nullable {α : Type} {schema : Json → Option α} {P : α → Prop} (hP : ∀ json a, schema json = some a → P a)
    (json : Json) (v : Option α) (h : nullable schema json = some v) : ∀ a ∈ v, P a := by
  intro a ha
  rcases eq_or_ne json .null with rfl | hjson
  · obtain rfl := Option.some.inj h
    cases ha
  · have hmap : nullable schema json = (schema json).map some := by
      cases json with
      | null => exact absurd rfl hjson
      | _ => rfl
    rw [hmap] at h
    obtain ⟨b, hb, rfl⟩ := Option.map_eq_some_iff.1 h
    obtain rfl := Option.some.inj ha
    exact hP json _ hb

variable {isoTime : String → Option ℤ}

theorem createSensorSchema_formed {body : Json} {dto : CreateSensorDto} (h : createSensorSchema isoTime body = some dto) :
    dto.Formed := by
  simp only [createSensorSchema, Option.bind_eq_bind, Option.bind_eq_some_iff, required] at h
  obtain ⟨fields, -, deviceId, -, name, ⟨jname, -, hname⟩, description, hdescription, latitude, ⟨jlat, -, hlatitude⟩, longitude,
    ⟨jlon, -, hlongitude⟩, neighborhood, hneighborhood, status, -, installedAt, -, isSimulated, -, hdto⟩ := h
  obtain rfl := Option.some.inj hdto
  refine ⟨textOk_of_zTrimmed hname, ?_, range_of_zRange hlatitude, range_of_zRange hlongitude, ?_⟩
  · exact forall_of_optional (fun _ _ => textOk_of_zTrimmed) hdescription
  · exact forall_of_optional (fun _ _ => textOk_of_zTrimmed) hneighborhood

theorem updateSensorSchema_formed {body : Json} {dto : UpdateSensorDto} (h : updateSensorSchema isoTime body = some dto) :
    dto.Formed := by
  simp only [updateSensorSchema, Option.bind_eq_bind, Option.bind_eq_some_iff] at h
  obtain ⟨fields, -, name, hname, description, hdescription, latitude, hlatitude, longitude, hlongitude, neighborhood,
    hneighborhood, status, -, installedAt, -, isSimulated, -, hdto⟩ := h
  obtain rfl := Option.some.inj hdto
  refine ⟨?_, ?_, ?_, ?_, ?_⟩
  · exact forall_of_optional (fun _ _ => textOk_of_zTrimmed) hname
  · exact forall_of_optional (forall_of_nullable (fun _ _ => textOk_of_zTrimmed)) hdescription
  · exact forall_of_optional (fun _ _ => range_of_zRange) hlatitude
  · exact forall_of_optional (fun _ _ => range_of_zRange) hlongitude
  · exact forall_of_optional (forall_of_nullable (fun _ _ => textOk_of_zTrimmed)) hneighborhood

/-! ## Who asked -/

/-- The device a request writes. -/
def RegistryCall.device (unicodeLower : String → String) : RegistryCall → Option String
  | .create dto => some dto.deviceId.1
  | .update deviceId _ | .retire deviceId => some (normalized unicodeLower deviceId)
  | .seed => none

/-- The event is a request that presents the key, and whose body is the one of a call. -/
def Admitted (isoTime : String → Option ℤ) (config : AdminConfig) (c : RegistryCall) (e : ApiEvent) : Prop :=
  ∃ headers call key, e = .request headers call ∧ config.Accepts key ∧ extractApiKey headers = some key ∧
    call.parse isoTime = some c

/-- A request with the key writes the device. -/
def Writes (isoTime : String → Option ℤ) (unicodeLower : String → String) (config : AdminConfig) (deviceId : String)
    (_ : List ApiEvent) (e : ApiEvent) : Prop :=
  ∃ c, Admitted isoTime config c e ∧ c.device unicodeLower = some deviceId

/-- A request with the key registers the device. -/
def Registers (isoTime : String → Option ℤ) (config : AdminConfig) (deviceId : String) (_ : List ApiEvent) (e : ApiEvent) : Prop :=
  ∃ dto, Admitted isoTime config (.create dto) e ∧ dto.deviceId.1 = deviceId

theorem action_request_ok {config : AdminConfig} {headers : Headers} {call : AdminCall} {a : RegistryAction}
    (h : (ApiEvent.request headers call).action isoTime config = .ok a) :
    ∃ c, a = .arrive c ∧ Admitted isoTime config c (.request headers call) := by
  unfold ApiEvent.action AdminCall.handle at h
  cases hguard : canActivate config headers with
  | error e => simp [hguard, Except.map] at h
  | ok u =>
    cases hparse : call.parse isoTime with
    | none => simp [hguard, hparse, Except.map] at h
    | some c =>
      simp only [hguard, hparse, Except.map, Except.ok.injEq] at h
      obtain ⟨key, hkey, hpresented⟩ := (canActivate_iff config headers).1 hguard
      exact ⟨c, h.symm, headers, call, key, rfl, hkey, hpresented, hparse⟩

/-- A request is refused, or what happens is a step of the registry. -/
theorem api_cases (unicodeLower : String → String) (config : AdminConfig) (s : Registry) (e : ApiEvent) :
    ((apiMachine isoTime unicodeLower config).step s e).1 = s ∨
      ∃ a, e.action isoTime config = .ok a ∧
        ((apiMachine isoTime unicodeLower config).step s e).1 = ((registryMachine unicodeLower).step s a).1 := by
  cases ha : e.action isoTime config with
  | error err => exact Or.inl (by simp [apiMachine, ha])
  | ok a => exact Or.inr ⟨a, rfl, by simp [apiMachine, ha]⟩

/-! ## What a statement makes of a row -/

/-- The DevEUIs of the fixtures. -/
abbrev fixtureIds : List String := sensorFixtures.map SensorFixture.deviceId

theorem fixture_formed (env : Env) : ∀ f ∈ sensorFixtures, RowFormed (f.row env) := by
  have hid : ∀ f ∈ sensorFixtures, f.deviceId.toList.length = 16 ∧ f.deviceId.toList.all isLowerHex = true := by decide +kernel
  have hname : ∀ f ∈ sensorFixtures, trim f.name = f.name ∧ 1 ≤ jsLength f.name ∧ jsLength f.name ≤ 100 := by decide +kernel
  have hplace : ∀ f ∈ sensorFixtures,
      trim f.neighborhood = f.neighborhood ∧ 1 ≤ jsLength f.neighborhood ∧ jsLength f.neighborhood ≤ 100 := by decide +kernel
  have hlatitude : ∀ f ∈ sensorFixtures, -90 ≤ f.latitude ∧ f.latitude ≤ 90 := by decide +kernel
  have hlongitude : ∀ f ∈ sensorFixtures, -180 ≤ f.longitude ∧ f.longitude ≤ 180 := by decide +kernel
  intro f hf
  refine ⟨⟨(hid f hf).1, List.all_eq_true.1 (hid f hf).2⟩, hname f hf, ?_, hlatitude f hf, hlongitude f hf, ?_, rfl⟩
  · intro s hs
    cases hs
  · intro s hs
    obtain rfl := Option.some.inj hs
    exact hplace f hf

theorem seedConflict_formed {env : Env} {f : SensorFixture} (hf : f ∈ sensorFixtures) {r : SensorRow} (h : RowFormed r) :
    RowFormed (seedConflict env (f.row env) r) := by
  have hfixture := fixture_formed env f hf
  exact
    { h with
      name := hfixture.name
      latitude := hfixture.latitude
      longitude := hfixture.longitude
      neighborhood := hfixture.neighborhood }

theorem createRow_formed (env : Env) (deviceId : DevEui) {dto : CreateSensorDto} (h : dto.Formed) :
    RowFormed (createRow env deviceId.1 dto) where
  deviceId := deviceId.2
  name := h.name
  description := h.description
  latitude := h.latitude
  longitude := h.longitude
  neighborhood := h.neighborhood
  active := rfl

/-- What holds of a value that is set and of the one that is there holds of the one that results. -/
theorem getD_of_forall {α : Type} {P : α → Prop} {v : Option α} {a : α} (hv : ∀ b ∈ v, P b) (ha : P a) : P (v.getD a) := by
  cases v with
  | none => exact ha
  | some b => exact hv b rfl

theorem set_formed (now : ℤ) {dto : UpdateSensorDto} (hdto : dto.Formed) {r : SensorRow} (h : RowFormed r)
    (hactive : ((updateValues now dto).set r).isActive = (((updateValues now dto).set r).status == .active)) :
    RowFormed ((updateValues now dto).set r) where
  deviceId := h.deviceId
  name := getD_of_forall hdto.name h.name
  description := getD_of_forall (P := fun v => ∀ s ∈ v, TextOk 0 500 s) hdto.description h.description
  latitude := getD_of_forall (P := fun q => -90 ≤ q ∧ q ≤ 90) hdto.latitude h.latitude
  longitude := getD_of_forall (P := fun q => -180 ≤ q ∧ q ≤ 180) hdto.longitude h.longitude
  neighborhood := getD_of_forall (P := fun v => ∀ s ∈ v, TextOk 1 100 s) hdto.neighborhood h.neighborhood
  active := hactive

/-! ## Every row is accounted for -/

section

variable (isoTime : String → Option ℤ) (unicodeLower : String → String) (config : AdminConfig) (old : List SensorRow)

/-- Where a row comes from, after the events of a run, starting from an old table. -/
structure RowAccounted (es : List ApiEvent) (r : SensorRow) : Prop where
  content : r ∈ old ∨ r.deviceId ∈ fixtureIds ∨ Once (Writes isoTime unicodeLower config r.deviceId) es
  origin : r.deviceId ∈ deviceIds old ∨ r.deviceId ∈ fixtureIds ∨ Once (Registers isoTime config r.deviceId) es
  formed : r.deviceId ∉ deviceIds old → RowFormed r

/-- A pending request is one that was admitted. -/
def Request.Accounted (es : List ApiEvent) : Request → Prop
  | .inserting dto => dto.Formed ∧ Once (Registers isoTime config dto.deviceId.1) es
  | .selecting deviceId dto => dto.Formed ∧ Once (Writes isoTime unicodeLower config (normalized unicodeLower deviceId)) es
  | .updating deviceId dto _ => dto.Formed ∧ Once (Writes isoTime unicodeLower config deviceId) es
  | _ => True

variable {isoTime unicodeLower config old}

theorem RowAccounted.append {es : List ApiEvent} {r : SensorRow} (h : RowAccounted isoTime unicodeLower config old es r)
    (e : ApiEvent) : RowAccounted isoTime unicodeLower config old (es ++ [e]) r :=
  ⟨h.content.imp_right (Or.imp_right (·.append [e])), h.origin.imp_right (Or.imp_right (·.append [e])), h.formed⟩

theorem Request.Accounted.append {es : List ApiEvent} {q : Request} (h : q.Accounted isoTime unicodeLower config es)
    (e : ApiEvent) : q.Accounted isoTime unicodeLower config (es ++ [e]) := by
  cases q with
  | inserting dto => exact ⟨h.1, h.2.append [e]⟩
  | selecting deviceId dto => exact ⟨h.1, h.2.append [e]⟩
  | updating deviceId dto values => exact ⟨h.1, h.2.append [e]⟩
  | seeding => trivial
  | ended o => trivial

theorem writes_of_registers {deviceId : String} {before : List ApiEvent} {e : ApiEvent}
    (h : Registers isoTime config deviceId before e) : Writes isoTime unicodeLower config deviceId before e := by
  obtain ⟨dto, hadmitted, rfl⟩ := h
  exact ⟨.create dto, hadmitted, rfl⟩

/-- A row the seed inserts or changes is a fixture's. -/
theorem seedRows_accounted (env : Env) {es : List ApiEvent} {rows : List SensorRow}
    (h : ∀ r ∈ rows, RowAccounted isoTime unicodeLower config old es r) :
    ∀ r ∈ seedRows env rows, RowAccounted isoTime unicodeLower config old es r := by
  unfold seedRows
  have hmore : ∀ r ∈ sensorFixtures.map (SensorFixture.row env), ∃ f ∈ sensorFixtures, f.row env = r := by
    intro r hr
    exact List.mem_map.1 hr
  generalize sensorFixtures.map (SensorFixture.row env) = more at hmore
  induction more generalizing rows with
  | nil => exact h
  | cons row more ih =>
    refine ih ?_ (fun r hr => hmore r (List.mem_cons_of_mem _ hr))
    obtain ⟨f, hf, rfl⟩ := hmore row List.mem_cons_self
    have hfixture : f.deviceId ∈ fixtureIds := List.mem_map_of_mem hf
    refine Table.forall_upsert_of_key h ?_ ?_
    · exact ⟨Or.inr (Or.inl hfixture), Or.inr (Or.inl hfixture), fun _ => fixture_formed env f hf⟩
    · intro r hr hkey
      have hkey' : (seedConflict env (f.row env) r).deviceId ∈ fixtureIds := hkey ▸ hfixture
      exact ⟨Or.inr (Or.inl hkey'), Or.inr (Or.inl hkey'), fun hold => seedConflict_formed hf (hr.formed hold)⟩

/-- No statement of an admitted request leaves a row that is not accounted for. -/
theorem effect_accounted (env : Env) {es : List ApiEvent} {rows : List SensorRow} (hok : RowsOk rows)
    (h : ∀ r ∈ rows, RowAccounted isoTime unicodeLower config old es r) {q : Request} (hq : q.Ok rows)
    (hadmitted : q.Accounted isoTime unicodeLower config es) :
    ∀ r ∈ q.effect unicodeLower env rows, RowAccounted isoTime unicodeLower config old es r := by
  cases q with
  | inserting dto =>
    obtain ⟨hdto, honce⟩ := hadmitted
    intro r hr
    change r ∈ Table.insertNew SensorRow.deviceId rows (createRow env (normalized unicodeLower dto.deviceId.1) dto) at hr
    rw [normalized_devEui] at hr
    unfold Table.insertNew at hr
    split_ifs at hr
    · exact h r hr
    · rcases List.mem_append.1 hr with hr | hr
      · exact h r hr
      · obtain rfl := List.mem_singleton.1 hr
        refine ⟨Or.inr (Or.inr ?_), Or.inr (Or.inr honce), fun _ => createRow_formed env dto.deviceId hdto⟩
        exact honce.mono (fun before e => writes_of_registers)
  | selecting deviceId dto => exact h
  | updating deviceId dto values =>
    obtain ⟨hdto, honce⟩ := hadmitted
    obtain ⟨-, now, rfl⟩ := hq
    have hactive : ∀ r ∈ rows, ((updateValues now dto).set r).isActive = (((updateValues now dto).set r).status == .active) :=
      fun r hr => (set_ok now dto (hok.all r hr)).active
    intro r hr
    obtain ⟨a, ha, rfl⟩ := List.mem_map.1 hr
    split_ifs with hkey
    · have hrow := h a ha
      refine ⟨Or.inr (Or.inr ?_), hrow.origin, fun hold => set_formed now hdto (hrow.formed hold) (hactive a ha)⟩
      rw [set_deviceId, hkey]
      exact honce
    · exact h a ha
  | seeding => exact seedRows_accounted env h
  | ended o => exact h

/-! ## Every run -/

variable (isoTime unicodeLower config old)

/-- The registry after the events of a run: the rows and the requests in flight are accounted for. -/
structure ApiInv (es : List ApiEvent) (s : Registry) : Prop where
  registry : RegistryInv s
  rows : ∀ r ∈ s.rows, RowAccounted isoTime unicodeLower config old es r
  requests : ∀ q ∈ s.requests, q.Accounted isoTime unicodeLower config es

variable {isoTime unicodeLower config old}

theorem request_accounted {es : List ApiEvent} {e : ApiEvent} {c : RegistryCall} (h : Admitted isoTime config c e) :
    c.request.Accounted isoTime unicodeLower config (es ++ [e]) := by
  have hparse := h
  obtain ⟨headers, call, key, -, -, -, hparse⟩ := hparse
  cases c with
  | create dto =>
    refine ⟨?_, once_last ⟨dto, h, rfl⟩⟩
    cases call with
    | create body =>
      obtain ⟨dto', hdto, heq⟩ := Option.map_eq_some_iff.1 hparse
      obtain rfl := RegistryCall.create.inj heq
      exact createSensorSchema_formed hdto
    | update deviceId body =>
      obtain ⟨dto', -, heq⟩ := Option.map_eq_some_iff.1 hparse
      cases heq
    | retire deviceId => cases hparse
  | update deviceId dto =>
    refine ⟨?_, once_last ⟨.update deviceId dto, h, rfl⟩⟩
    cases call with
    | create body =>
      obtain ⟨dto', -, heq⟩ := Option.map_eq_some_iff.1 hparse
      cases heq
    | update deviceId' body =>
      obtain ⟨dto', hdto, heq⟩ := Option.map_eq_some_iff.1 hparse
      obtain ⟨-, rfl⟩ := RegistryCall.update.inj heq
      exact updateSensorSchema_formed hdto
    | retire deviceId' => cases hparse
  | retire deviceId =>
    refine ⟨?_, once_last ⟨.retire deviceId, h, rfl⟩⟩
    constructor <;> (intro v hv; cases hv)
  | seed => trivial

/-- An update awaits its UPDATE of the row that its request named. -/
theorem next_accounted (env : Env) (rows : List SensorRow) {es : List ApiEvent} {q : Request}
    (h : q.Accounted isoTime unicodeLower config es) :
    (q.next unicodeLower env rows).Accounted isoTime unicodeLower config es := by
  cases q with
  | inserting dto =>
    dsimp only [Request.next]
    split_ifs <;> trivial
  | selecting deviceId dto =>
    dsimp only [Request.next]
    split_ifs
    · exact h
    · trivial
  | updating deviceId dto values =>
    dsimp only [Request.next]
    split <;> trivial
  | seeding => trivial
  | ended o => trivial

theorem registry_step_accounted {es : List ApiEvent} {e : ApiEvent} {s : Registry}
    (h : ApiInv isoTime unicodeLower config old es s) {a : RegistryAction} (ha : e.action isoTime config = .ok a) :
    ApiInv isoTime unicodeLower config old (es ++ [e]) ((registryMachine unicodeLower).step s a).1 := by
  refine ⟨registryInv_step unicodeLower h.registry a, ?_, ?_⟩
  · intro r hr
    refine RowAccounted.append ?_ e
    rcases rows_step unicodeLower s a with hrows | ⟨q, hq, env, hrows⟩
    · rw [hrows] at hr
      exact h.rows r hr
    · rw [hrows] at hr
      exact effect_accounted env h.registry.rows h.rows (h.registry.requests q hq) (h.requests q hq) r hr
  · intro q hq
    rcases registry_cases unicodeLower s a with ⟨c, rfl, hstep⟩ | ⟨i, env, q', -, hq', hstep⟩ |
      ⟨i, env, applied, q', -, hq', -, hstep⟩ | hstep
    · rw [hstep] at hq
      rcases List.mem_append.1 hq with hq | hq
      · exact (h.requests q hq).append e
      · obtain rfl := List.mem_singleton.1 hq
        cases e with
        | request headers call =>
          obtain ⟨c', hc', hadmitted⟩ := action_request_ok ha
          obtain rfl := RegistryAction.arrive.inj hc'
          exact request_accounted hadmitted
        | seed =>
          obtain rfl := RegistryAction.arrive.inj (Except.ok.inj ha)
          trivial
        | resolve i env => cases ha
        | reject i env applied => cases ha
    · rw [hstep] at hq
      refine Request.Accounted.append ?_ e
      rcases List.mem_or_eq_of_mem_set hq with hq | rfl
      · exact h.requests q hq
      · exact next_accounted env s.rows (h.requests q' (List.mem_of_getElem? hq'))
    · rw [hstep] at hq
      refine Request.Accounted.append ?_ e
      rcases List.mem_or_eq_of_mem_set hq with hq | rfl
      · exact h.requests q hq
      · trivial
    · rw [hstep] at hq
      exact (h.requests q hq).append e

end

/-- The registry behind the guard, the schemas and every interleaving of requests, seeds, returning and failing statements:
1. the DevEUIs are distinct;
2. the row of a device that is not a fixture's is as migration 0001 left it, unless a request that presented the accepted key wrote
   that device;
3. every device was there before, is a fixture's, or was registered by a request that presented the accepted key;
4. every row that was not there before satisfies the contract, whatever has been made of it since. -/
theorem registry_authorised (isoTime : String → Option ℤ) (unicodeLower : String → String) (config : AdminConfig) (env : Env)
    (t : LegacyTable) (es : List ApiEvent) :
    let rows := ((apiMachine isoTime unicodeLower config).run (Registry.start env t) es).rows
    let old := t.1.map LegacyRow.migrate
    (deviceIds rows).Nodup ∧
    ∀ r ∈ rows,
      (r.deviceId ∉ fixtureIds → r ∉ old → Once (Writes isoTime unicodeLower config r.deviceId) es) ∧
      (r.deviceId ∈ deviceIds old ∨ r.deviceId ∈ fixtureIds ∨ Once (Registers isoTime config r.deviceId) es) ∧
      (r.deviceId ∉ deviceIds old → RowFormed r) := by
  intro rows old
  have hstart : ApiInv isoTime unicodeLower config old [] (Registry.start env t) := by
    refine ⟨start_inv env t, ?_, fun q hq => (List.not_mem_nil hq).elim⟩
    refine seedRows_accounted env ?_
    intro r hr
    have hdevice : r.deviceId ∈ deviceIds old := List.mem_map_of_mem hr
    exact ⟨Or.inl hr, Or.inl hdevice, fun hnew => absurd hdevice hnew⟩
  have hstep : ∀ es e, ApiInv isoTime unicodeLower config old es ((apiMachine isoTime unicodeLower config).run (Registry.start env t) es) →
      ApiInv isoTime unicodeLower config old (es ++ [e])
        ((apiMachine isoTime unicodeLower config).step ((apiMachine isoTime unicodeLower config).run (Registry.start env t) es) e).1 := by
    intro es e h
    rcases api_cases unicodeLower config ((apiMachine isoTime unicodeLower config).run (Registry.start env t) es) e with
      hrefused | ⟨a, ha, hstep⟩
    · rw [hrefused]
      exact ⟨h.registry, fun r hr => (h.rows r hr).append e, fun q hq => (h.requests q hq).append e⟩
    · rw [hstep]
      exact registry_step_accounted h ha
  have hinv := (apiMachine isoTime unicodeLower config).run_history hstart hstep es
  refine ⟨hinv.registry.rows.keys, ?_⟩
  intro r hr
  obtain ⟨hcontent, horigin, hformed⟩ := hinv.rows r hr
  refine ⟨?_, horigin, hformed⟩
  intro hfixture hold
  rcases hcontent with hcontent | hcontent | hcontent
  · exact absurd hcontent hold
  · exact absurd hcontent hfixture
  · exact hcontent

end AirQuality

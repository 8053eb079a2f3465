import AirQuality.Api.Registry
import AirQuality.Lib.History

/-!
# The registry keeps its two columns together

`status` and `is_active` are written by the migration, the seed, `create` and `update`, and read by different endpoints. Over every
interleaving of requests they agree on every row, so the endpoints range over the same devices.
-/

namespace AirQuality

variable (unicodeLower : String → String)

/-! ## What a step can do -/

/-- The request a step is about, if it is about one that has arrived before. -/
def RegistryAction.request : RegistryAction → Option Nat
  | .arrive _ => none
  | .resolve i _ | .reject i _ _ => some i

/-- A request arrives, or the statement of one returns, or it fails, or nothing happens because none is awaited. -/
theorem registry_cases (s : Registry) (a : RegistryAction) :
    (∃ c, a = .arrive c ∧ ((registryMachine unicodeLower).step s a).1 = { s with requests := s.requests ++ [c.request] }) ∨
    (∃ i env r, a = .resolve i env ∧ s.requests[i]? = some r ∧ ((registryMachine unicodeLower).step s a).1 =
      { rows := r.effect unicodeLower env s.rows, requests := s.requests.set i (r.next unicodeLower env s.rows) }) ∨
    (∃ i env applied r, a = .reject i env applied ∧ s.requests[i]? = some r ∧ r.awaits = true ∧
      ((registryMachine unicodeLower).step s a).1 =
        { rows := if applied = true then r.effect unicodeLower env s.rows else s.rows
          requests := s.requests.set i (.ended .failed) }) ∨
    ((registryMachine unicodeLower).step s a).1 = s := by
  cases a with
  | arrive c => exact Or.inl ⟨c, rfl, rfl⟩
  | resolve i env =>
    cases hr : s.requests[i]? with
    | none => exact Or.inr (Or.inr (Or.inr (by simp [registryMachine, hr])))
    | some r => exact Or.inr (Or.inl ⟨i, env, r, rfl, hr, by simp [registryMachine, hr]⟩)
  | reject i env applied =>
    cases hr : s.requests[i]? with
    | none => exact Or.inr (Or.inr (Or.inr (by simp [registryMachine, hr])))
    | some r =>
      cases haw : r.awaits with
      | true => exact Or.inr (Or.inr (Or.inl ⟨i, env, applied, r, rfl, hr, haw, by simp [registryMachine, hr, haw]⟩))
      | false => exact Or.inr (Or.inr (Or.inr (by simp [registryMachine, hr, haw])))

/-- The table after a step is what the statement of a request makes of it, or as it was. -/
theorem rows_step (s : Registry) (a : RegistryAction) :
    ((registryMachine unicodeLower).step s a).1.rows = s.rows ∨
      ∃ r ∈ s.requests, ∃ env, ((registryMachine unicodeLower).step s a).1.rows = r.effect unicodeLower env s.rows := by
  rcases registry_cases unicodeLower s a with ⟨c, -, hstep⟩ | ⟨i, env, r, -, hr, hstep⟩ |
    ⟨i, env, applied, r, -, hr, -, hstep⟩ | hstep
  · rw [hstep]
    exact Or.inl rfl
  · rw [hstep]
    exact Or.inr ⟨r, List.mem_of_getElem? hr, env, rfl⟩
  · rw [hstep]
    cases applied with
    | false => exact Or.inl rfl
    | true => exact Or.inr ⟨r, List.mem_of_getElem? hr, env, rfl⟩
  · rw [hstep]
    exact Or.inl rfl

/-! ## The rows -/

/-- A row whose two columns agree, with a lower-case DevEUI. -/
structure RowOk (r : SensorRow) : Prop where
  active : r.isActive = (r.status == .active)
  lower : LowerCase r.deviceId

/-- Rows that are well formed, with distinct DevEUIs. -/
structure RowsOk (rows : List SensorRow) : Prop where
  all : ∀ r ∈ rows, RowOk r
  keys : (deviceIds rows).Nodup

/-- What never changes about a row. -/
def SensorRow.identity (r : SensorRow) : String × String × ℤ := (r.id, r.deviceId, r.createdAt)

theorem migrate_ok {r : LegacyRow} (h : LowerCase r.deviceId) : RowOk r.migrate := by
  refine ⟨?_, h⟩
  cases hactive : r.isActive with
  | true => simp [LegacyRow.migrate, hactive]
  | false => simp [LegacyRow.migrate, hactive]

theorem fixture_lowerCase : ∀ f ∈ sensorFixtures, LowerCase f.deviceId := by
  have hall : (sensorFixtures.all fun f => f.deviceId.toList.all fun c => !c.isUpper) = true := by decide +kernel
  intro f hf c hc
  simpa using List.all_eq_true.1 (List.all_eq_true.1 hall f hf) c hc

theorem seedConflict_identity (env : Env) (excluded r : SensorRow) :
    (seedConflict env excluded r).identity = r.identity := rfl

theorem seedConflict_deviceId (env : Env) (excluded r : SensorRow) :
    (seedConflict env excluded r).deviceId = r.deviceId := rfl

theorem set_identity (values : UpdateValues) (r : SensorRow) : (values.set r).identity = r.identity := rfl

theorem set_deviceId (values : UpdateValues) (r : SensorRow) : (values.set r).deviceId = r.deviceId := rfl

theorem seedConflict_ok (env : Env) (excluded : SensorRow) {r : SensorRow} (h : RowOk r) :
    RowOk (seedConflict env excluded r) := ⟨h.active, h.lower⟩

theorem set_ok (now : ℤ) (dto : UpdateSensorDto) {r : SensorRow} (h : RowOk r) : RowOk ((updateValues now dto).set r) := by
  refine ⟨?_, h.lower⟩
  cases hstatus : dto.status with
  | none => simpa [UpdateValues.set, updateValues, hstatus] using h.active
  | some status => simp [UpdateValues.set, updateValues, hstatus]

/-- Upserting well-formed rows keeps a table well formed, and takes no row away. -/
theorem foldl_upsert_ok (env : Env) (more : List SensorRow) (hmore : ∀ r ∈ more, RowOk r) {rows : List SensorRow}
    (h : RowsOk rows) : RowsOk (more.foldl (Table.upsert SensorRow.deviceId (seedConflict env)) rows) := by
  induction more generalizing rows with
  | nil => exact h
  | cons r more ih =>
    refine ih (fun x hx => hmore x (List.mem_cons_of_mem _ hx)) ⟨?_, ?_⟩
    · exact Table.forall_upsert h.all (hmore r List.mem_cons_self) (fun x hx => seedConflict_ok env r hx)
    · exact Table.nodup_upsert (seedConflict_deviceId env) h.keys r

theorem foldl_upsert_kept (env : Env) (more rows : List SensorRow) :
    Table.Kept SensorRow.identity rows (more.foldl (Table.upsert SensorRow.deviceId (seedConflict env)) rows) := by
  induction more generalizing rows with
  | nil => exact Table.Kept.refl _ _
  | cons r more ih => exact (Table.kept_upsert (seedConflict_identity env) rows r).trans (ih _)

theorem seedRows_ok (env : Env) {rows : List SensorRow} (h : RowsOk rows) : RowsOk (seedRows env rows) := by
  unfold seedRows
  refine foldl_upsert_ok env _ ?_ h
  intro r hr
  obtain ⟨f, hf, rfl⟩ := List.mem_map.1 hr
  exact ⟨rfl, fixture_lowerCase f hf⟩

theorem seedRows_kept (env : Env) (rows : List SensorRow) : Table.Kept SensorRow.identity rows (seedRows env rows) := by
  unfold seedRows
  exact foldl_upsert_kept env _ rows

/-! ## One statement -/

/-- The values an update awaits to set are those of its body, and its row is there. -/
def Request.Ok (rows : List SensorRow) : Request → Prop
  | .updating deviceId dto values => deviceId ∈ deviceIds rows ∧ ∃ now, values = updateValues now dto
  | _ => True

theorem createRow_ok (env : Env) {deviceId : String} (h : LowerCase deviceId) (dto : CreateSensorDto) :
    RowOk (createRow env deviceId dto) := ⟨rfl, h⟩

/-- A DevEUI that `CreateSensorSchema` has parsed is normalised already. -/
theorem normalized_devEui (d : DevEui) : normalized unicodeLower d.1 = d.1 := by
  rw [normalized, trim_devEui, toLowerCase_devEui]

theorem normalized_lowerCase (d : DevEui) : LowerCase (normalized unicodeLower d.1) := by
  rw [normalized_devEui]
  exact devEui_lowerCase d

theorem insertNew_ok {rows : List SensorRow} (h : RowsOk rows) {row : SensorRow} (hrow : RowOk row) :
    RowsOk (Table.insertNew SensorRow.deviceId rows row) := by
  refine ⟨?_, Table.nodup_insertNew h.keys row⟩
  intro r hr
  unfold Table.insertNew at hr
  split_ifs at hr
  · exact h.all r hr
  · rcases List.mem_append.1 hr with hr | hr
    · exact h.all r hr
    · rw [List.mem_singleton.1 hr]
      exact hrow

theorem updateWhere_ok {rows : List SensorRow} (h : RowsOk rows) (deviceId : String) (now : ℤ) (dto : UpdateSensorDto) :
    RowsOk (Table.updateWhere SensorRow.deviceId deviceId (updateValues now dto).set rows) := by
  refine ⟨Table.forall_updateWhere h.all (fun x hx => set_ok now dto hx) deviceId, ?_⟩
  have hkeys : deviceIds (Table.updateWhere SensorRow.deviceId deviceId (updateValues now dto).set rows) = deviceIds rows :=
    Table.map_updateWhere (set_deviceId _) rows
  rw [hkeys]
  exact h.keys

/-- No statement breaks a row. -/
theorem effect_ok {rows : List SensorRow} (h : RowsOk rows) {r : Request} (hr : r.Ok rows) (env : Env) :
    RowsOk (r.effect unicodeLower env rows) := by
  cases r with
  | inserting dto => exact insertNew_ok h (createRow_ok env (normalized_lowerCase unicodeLower dto.deviceId) dto)
  | updating deviceId dto values =>
    obtain ⟨-, now, rfl⟩ := hr
    exact updateWhere_ok h deviceId now dto
  | seeding => exact seedRows_ok env h
  | selecting deviceId dto => exact h
  | ended o => exact h

theorem kept_insertNew (rows : List SensorRow) (row : SensorRow) :
    Table.Kept SensorRow.identity rows (Table.insertNew SensorRow.deviceId rows row) := by
  unfold Table.insertNew
  split_ifs
  · exact Table.Kept.refl _ _
  · exact Table.kept_append _ _ _

/-- No statement takes a row away. -/
theorem effect_kept (r : Request) (env : Env) (rows : List SensorRow) :
    Table.Kept SensorRow.identity rows (r.effect unicodeLower env rows) := by
  cases r with
  | inserting dto => exact kept_insertNew rows _
  | updating deviceId dto values => exact Table.kept_updateWhere (set_identity values) deviceId rows
  | seeding => exact seedRows_kept env rows
  | selecting deviceId dto => exact Table.Kept.refl _ _
  | ended o => exact Table.Kept.refl _ _

theorem rows_step_kept (s : Registry) (a : RegistryAction) :
    Table.Kept SensorRow.identity s.rows ((registryMachine unicodeLower).step s a).1.rows := by
  rcases rows_step unicodeLower s a with hrows | ⟨r, -, env, hrows⟩
  · rw [hrows]
    exact Table.Kept.refl _ _
  · rw [hrows]
    exact effect_kept unicodeLower r env s.rows

theorem mem_deviceIds_of_kept {rows rows' : List SensorRow} (h : Table.Kept SensorRow.identity rows rows') {deviceId : String}
    (hmem : deviceId ∈ deviceIds rows) : deviceId ∈ deviceIds rows' := by
  obtain ⟨r, hr, rfl⟩ := List.mem_map.1 hmem
  obtain ⟨r', hr', hidentity⟩ := List.mem_map.1 (h.subset (List.mem_map_of_mem hr))
  exact List.mem_map.2 ⟨r', hr', congrArg (fun x => x.2.1) hidentity⟩

/-! ## Every reachable state -/

/-- The rows are well formed, and so are the requests in flight. -/
structure RegistryInv (s : Registry) : Prop where
  rows : RowsOk s.rows
  requests : ∀ r ∈ s.requests, r.Ok s.rows

theorem Request.Ok.kept {rows rows' : List SensorRow} (h : Table.Kept SensorRow.identity rows rows') {r : Request}
    (hr : r.Ok rows) : r.Ok rows' := by
  cases r with
  | updating deviceId dto values => exact ⟨mem_deviceIds_of_kept h hr.1, hr.2⟩
  | _ => trivial

theorem request_ok (c : RegistryCall) (rows : List SensorRow) : c.request.Ok rows := by
  cases c <;> trivial

/-- An update goes on to its UPDATE only if its SELECT has found the row. -/
theorem next_ok (r : Request) (env : Env) (rows : List SensorRow) : (r.next unicodeLower env rows).Ok rows := by
  cases r with
  | inserting dto =>
    dsimp only [Request.next]
    split_ifs <;> trivial
  | selecting deviceId dto =>
    dsimp only [Request.next]
    split_ifs with hmem
    · exact ⟨hmem, env.now, rfl⟩
    · trivial
  | updating deviceId dto values =>
    dsimp only [Request.next]
    split <;> trivial
  | seeding => trivial
  | ended o => trivial

theorem registryInv_step {s : Registry} (h : RegistryInv s) (a : RegistryAction) :
    RegistryInv ((registryMachine unicodeLower).step s a).1 := by
  have hkept := rows_step_kept unicodeLower s a
  refine ⟨?_, ?_⟩
  · rcases rows_step unicodeLower s a with hrows | ⟨r, hr, env, hrows⟩
    · rw [hrows]
      exact h.rows
    · rw [hrows]
      exact effect_ok unicodeLower h.rows (h.requests r hr) env
  · intro r hr
    rcases registry_cases unicodeLower s a with ⟨c, -, hstep⟩ | ⟨i, env, q, -, hq, hstep⟩ |
      ⟨i, env, applied, q, -, hq, -, hstep⟩ | hstep
    · rw [hstep] at hr
      rcases List.mem_append.1 hr with hr | hr
      · exact (h.requests r hr).kept hkept
      · rw [List.mem_singleton.1 hr]
        exact request_ok c _
    · rw [hstep] at hr
      rcases List.mem_or_eq_of_mem_set hr with hr | rfl
      · exact (h.requests r hr).kept hkept
      · exact (next_ok unicodeLower q env s.rows).kept hkept
    · rw [hstep] at hr
      rcases List.mem_or_eq_of_mem_set hr with hr | rfl
      · exact (h.requests r hr).kept hkept
      · trivial
    · rw [hstep] at hr
      exact (h.requests r hr).kept hkept

/-- The registry after a run of steps, from the migrated and seeded table. -/
def registryAfter (env : Env) (t : LegacyTable) (as : List RegistryAction) : Registry :=
  (registryMachine unicodeLower).run (Registry.start env t) as

theorem start_inv (env : Env) (t : LegacyTable) : RegistryInv (Registry.start env t) := by
  have hkeys : deviceIds (t.1.map LegacyRow.migrate) = t.1.map LegacyRow.deviceId := List.map_map
  have hmigrated : RowsOk (t.1.map LegacyRow.migrate) := by
    refine ⟨?_, ?_⟩
    · intro r hr
      obtain ⟨l, hl, rfl⟩ := List.mem_map.1 hr
      exact migrate_ok (t.2.2 l hl)
    · rw [hkeys]
      exact t.2.1
  refine ⟨seedRows_ok env hmigrated, ?_⟩
  intro r hr
  cases hr

theorem registryAfter_inv (env : Env) (t : LegacyTable) (as : List RegistryAction) :
    RegistryInv (registryAfter unicodeLower env t as) := by
  have hstep : ∀ s a, RegistryInv s → RegistryInv ((registryMachine unicodeLower).step s a).1 := by
    intro s a hs
    exact registryInv_step unicodeLower hs a
  exact (registryMachine unicodeLower).run_inv hstep (start_inv env t) as

/-- A run takes no row away. -/
theorem run_kept (s : Registry) (as : List RegistryAction) :
    Table.Kept SensorRow.identity s.rows ((registryMachine unicodeLower).run s as).rows := by
  have hstep : ∀ s' a, Table.Kept SensorRow.identity s.rows s'.rows →
      Table.Kept SensorRow.identity s.rows ((registryMachine unicodeLower).step s' a).1.rows := by
    intro s' a hs'
    exact hs'.trans (rows_step_kept unicodeLower s' a)
  exact (registryMachine unicodeLower).run_inv hstep (Table.Kept.refl _ _) as

/-! ## Refused requests -/

/-- The request was refused. -/
def Outcome.Refused (o : Outcome) : Prop := o = .notFound ∨ o = .conflict

/-- A statement that changes the table ends its request, and not in a refusal. -/
theorem next_of_changed {r : Request} {env : Env} {rows : List SensorRow} (h : r.effect unicodeLower env rows ≠ rows) :
    ∃ o, r.next unicodeLower env rows = .ended o ∧ ¬o.Refused := by
  unfold Outcome.Refused
  cases r with
  | inserting dto =>
    have hmem : (createRow env (normalized unicodeLower dto.deviceId) dto).deviceId ∉ deviceIds rows := by
      intro hmem
      exact h (Table.insertNew_of_mem hmem)
    exact ⟨_, if_neg hmem, by simp⟩
  | selecting deviceId dto => exact absurd rfl h
  | updating deviceId dto values =>
    dsimp only [Request.next]
    split
    · exact ⟨_, rfl, by simp⟩
    · exact ⟨_, rfl, by simp⟩
  | seeding => exact ⟨_, rfl, by simp⟩
  | ended o => exact absurd rfl h

/-- A step that changes the table ends the request it is about, and not in a refusal. -/
theorem step_changed {s : Registry} {a : RegistryAction} (h : ((registryMachine unicodeLower).step s a).1.rows ≠ s.rows) :
    ∃ i o, a.request = some i ∧ ((registryMachine unicodeLower).step s a).1.requests[i]? = some (.ended o) ∧ ¬o.Refused := by
  rcases registry_cases unicodeLower s a with ⟨c, -, hstep⟩ | ⟨i, env, r, rfl, hr, hstep⟩ |
    ⟨i, env, applied, r, rfl, hr, -, hstep⟩ | hstep
  · rw [hstep] at h
    exact absurd rfl h
  · rw [hstep] at h ⊢
    obtain ⟨o, ho, hrefused⟩ := next_of_changed unicodeLower h
    refine ⟨i, o, rfl, ?_, hrefused⟩
    rw [← ho]
    exact List.getElem?_set_self (List.getElem?_eq_some_iff.1 hr).1
  · rw [hstep]
    refine ⟨i, .failed, rfl, List.getElem?_set_self (List.getElem?_eq_some_iff.1 hr).1, ?_⟩
    simp [Outcome.Refused]
  · rw [hstep] at h
    exact absurd rfl h

/-- A request that has ended stays as it ended. -/
theorem step_request_ended {s : Registry} {i : Nat} {o : Outcome} (h : s.requests[i]? = some (.ended o))
    (a : RegistryAction) : ((registryMachine unicodeLower).step s a).1.requests[i]? = some (.ended o) := by
  rcases registry_cases unicodeLower s a with ⟨c, -, hstep⟩ | ⟨j, env, r, -, hr, hstep⟩ |
    ⟨j, env, applied, r, -, hr, haw, hstep⟩ | hstep
  · rw [hstep]
    exact (List.getElem?_append_left (List.getElem?_eq_some_iff.1 h).1).trans h
  · rw [hstep]
    by_cases hij : j = i
    · subst hij
      obtain rfl := Option.some.inj (hr.symm.trans h)
      exact List.getElem?_set_self (List.getElem?_eq_some_iff.1 h).1
    · exact (List.getElem?_set_ne hij).trans h
  · rw [hstep]
    have hij : j ≠ i := by
      intro hij
      subst hij
      obtain rfl := Option.some.inj (hr.symm.trans h)
      cases haw
    exact (List.getElem?_set_ne hij).trans h
  · rw [hstep]
    exact h

theorem run_request_ended {s : Registry} {i : Nat} {o : Outcome} (h : s.requests[i]? = some (.ended o))
    (as : List RegistryAction) : ((registryMachine unicodeLower).run s as).requests[i]? = some (.ended o) := by
  have hstep : ∀ s' a, s'.requests[i]? = some (.ended o) →
      ((registryMachine unicodeLower).step s' a).1.requests[i]? = some (.ended o) := by
    intro s' a hs'
    exact step_request_ended unicodeLower hs' a
  exact (registryMachine unicodeLower).run_inv hstep h as

/-! ## Updates -/

/-- What an update with a body makes of a row: a field supplied is set, null clearing it, and any other is as it was. -/
structure UpdatedBy (dto : UpdateSensorDto) (r r' : SensorRow) : Prop where
  identity : r'.identity = r.identity
  name : r'.name = dto.name.getD r.name
  description : r'.description = dto.description.getD r.description
  latitude : r'.latitude = dto.latitude.getD r.latitude
  longitude : r'.longitude = dto.longitude.getD r.longitude
  neighborhood : r'.neighborhood = dto.neighborhood.getD r.neighborhood
  status : r'.status = dto.status.getD r.status
  isActive : r'.status = r.status → r'.isActive = r.isActive
  installedAt : r'.installedAt = dto.installedAt.getD r.installedAt
  isSimulated : r'.isSimulated = dto.isSimulated.getD r.isSimulated
  lastSeenAt : r'.lastSeenAt = r.lastSeenAt
  batteryMv : r'.batteryMv = r.batteryMv

theorem set_updatedBy (now : ℤ) (dto : UpdateSensorDto) {r : SensorRow} (h : RowOk r) :
    UpdatedBy dto r ((updateValues now dto).set r) where
  identity := rfl
  name := rfl
  description := rfl
  latitude := rfl
  longitude := rfl
  neighborhood := rfl
  status := rfl
  isActive := by
    intro hstatus
    rw [(set_ok now dto h).active, hstatus, h.active]
  installedAt := rfl
  isSimulated := rfl
  lastSeenAt := rfl
  batteryMv := rfl

/-- The row with a DevEUI, once it is there. -/
theorem exists_row {rows : List SensorRow} {deviceId : String} (h : deviceId ∈ deviceIds rows) :
    ∃ (r : SensorRow) (j : Nat), rows.find? (fun r => r.deviceId = deviceId) = some r ∧ rows[j]? = some r ∧ r.deviceId = deviceId := by
  cases hfind : rows.find? (fun r => r.deviceId = deviceId) with
  | none =>
    obtain ⟨r, hr, hdevice⟩ := List.mem_map.1 h
    exact absurd (decide_eq_true hdevice) (List.find?_eq_none.1 hfind r hr)
  | some r =>
    obtain ⟨j, hj⟩ := List.getElem?_of_mem (List.mem_of_find?_eq_some hfind)
    have hdevice := List.find?_some hfind
    simp only [decide_eq_true_eq] at hdevice
    exact ⟨r, j, rfl, hj, hdevice⟩

/-- The UPDATE of a request finds its row, changes that row as its body says and no other, and answers with it. -/
theorem update_step {s : Registry} (h : RegistryInv s) {i : Nat} {deviceId : String} {dto : UpdateSensorDto}
    {values : UpdateValues} (hr : s.requests[i]? = some (.updating deviceId dto values)) (env : Env) :
    ∃ (j : Nat) (r r' : SensorRow), s.rows[j]? = some r ∧ r.deviceId = deviceId ∧ UpdatedBy dto r r' ∧
      ((registryMachine unicodeLower).step s (.resolve i env)).1.rows[j]? = some r' ∧
      (∀ l : Nat, l ≠ j → ((registryMachine unicodeLower).step s (.resolve i env)).1.rows[l]? = s.rows[l]?) ∧
      ((registryMachine unicodeLower).step s (.resolve i env)).1.requests[i]? = some (.ended (.updated r')) := by
  obtain ⟨hmem, now, rfl⟩ := h.requests _ (List.mem_of_getElem? hr)
  obtain ⟨r, j, hfind, hj, rfl⟩ := exists_row hmem
  have hstep : ((registryMachine unicodeLower).step s (.resolve i env)).1 =
      { rows := Table.updateWhere SensorRow.deviceId r.deviceId (updateValues now dto).set s.rows
        requests := s.requests.set i (.ended (.updated ((updateValues now dto).set r))) } := by
    simp [registryMachine, hr, Request.effect, Request.next, hfind]
  obtain ⟨hrow, hothers⟩ := Table.updateWhere_single h.rows.keys hj (updateValues now dto).set
  refine ⟨j, r, _, hj, rfl, set_updatedBy now dto (h.rows.all r (List.mem_of_getElem? hj)), ?_, ?_, ?_⟩
  · rw [hstep]
    exact hrow
  · rw [hstep]
    exact hothers
  · rw [hstep]
    exact List.getElem?_set_self (List.getElem?_eq_some_iff.1 hr).1

/-! ## The registry -/

/-- The two ways to ask for the active devices give the same ones. -/
theorem activeDeviceIds_eq {rows : List SensorRow} (h : RowsOk rows) : findActiveDeviceIds rows = overviewDeviceIds rows := by
  unfold findActiveDeviceIds overviewDeviceIds
  congr 1
  refine List.filter_congr ?_
  intro r hr
  exact (h.all r hr).active.symm

theorem registryAfter_snoc (env : Env) (t : LegacyTable) (as : List RegistryAction) (a : RegistryAction) :
    registryAfter unicodeLower env t (as ++ [a]) =
      ((registryMachine unicodeLower).step (registryAfter unicodeLower env t as) a).1 :=
  (registryMachine unicodeLower).run_snoc _ as a

theorem registryAfter_take_succ (env : Env) (t : LegacyTable) {as : List RegistryAction} {k : Nat} {a : RegistryAction}
    (h : as[k]? = some a) :
    registryAfter unicodeLower env t (as.take (k + 1)) =
      ((registryMachine unicodeLower).step (registryAfter unicodeLower env t (as.take k)) a).1 := by
  rw [List.take_add_one, h, Option.toList_some, registryAfter_snoc]

/-- A request that ends in a refusal leaves the table as it was, at each of its steps. -/
theorem refused_unchanged (env : Env) (t : LegacyTable) {as : List RegistryAction} {i : Nat} {o : Outcome}
    (hended : (registryAfter unicodeLower env t as).requests[i]? = some (.ended o)) (hrefused : o.Refused) {k : Nat}
    {a : RegistryAction} (ha : as[k]? = some a) (hi : a.request = some i) :
    (registryAfter unicodeLower env t (as.take (k + 1))).rows = (registryAfter unicodeLower env t (as.take k)).rows := by
  by_contra hne
  rw [registryAfter_take_succ unicodeLower env t ha] at hne
  obtain ⟨j, o', hj, ho', hrefused'⟩ := step_changed unicodeLower hne
  rw [← registryAfter_take_succ unicodeLower env t ha] at ho'
  obtain rfl := Option.some.inj (hi.symm.trans hj)
  -- the request had ended otherwise at this step, and stays so
  have hlater := run_request_ended unicodeLower ho' (as.drop (k + 1))
  rw [registryAfter, ← Machine.run_append, List.take_append_drop] at hlater
  rw [registryAfter, hlater] at hended
  obtain rfl := Request.ended.inj (Option.some.inj hended)
  exact hrefused' hrefused

/-! ## The life of an update -/

/-- The call that arrives. The requests are numbered in this order. -/
def RegistryAction.call? : RegistryAction → Option RegistryCall
  | .arrive c => some c
  | _ => none

/-- The device and the body of an update; a retirement is an update of the status. -/
def RegistryCall.body? : RegistryCall → Option (String × UpdateSensorDto)
  | .update deviceId dto => some (deviceId, dto)
  | .retire deviceId => some (deviceId, { UpdateSensorDto.empty with status := some .retired })
  | _ => none

section

variable (env : Env) (t : LegacyTable)

/-- A step after a run leaves the table as it was. -/
def RowsUnchanged (before : List RegistryAction) (a : RegistryAction) : Prop :=
  (registryAfter unicodeLower env t (before ++ [a])).rows = (registryAfter unicodeLower env t before).rows

/-- No step of a run that is about the request changes the table. -/
def RowsUntouched (as : List RegistryAction) (i : Nat) : Prop :=
  ∀ before a after, as = before ++ a :: after → a.request = some i → RowsUnchanged unicodeLower env t before a

/-- A step after a run changes the row of the device as the body says, to `r'`, and no other row. -/
def RowUpdated (deviceId : String) (dto : UpdateSensorDto) (r' : SensorRow) (before : List RegistryAction) (a : RegistryAction) :
    Prop :=
  ∃ (j : Nat) (r : SensorRow), (registryAfter unicodeLower env t before).rows[j]? = some r ∧
    r.deviceId = normalized unicodeLower deviceId ∧ UpdatedBy dto r r' ∧
    (registryAfter unicodeLower env t (before ++ [a])).rows[j]? = some r' ∧
    ∀ l : Nat, l ≠ j → (registryAfter unicodeLower env t (before ++ [a])).rows[l]? = (registryAfter unicodeLower env t before).rows[l]?

/-- What has become of request `i` of a run, which arrived as an update of a device with a body: it awaits one of its statements and
has not touched the table; or it has changed the row of the device as its body says, at one step, and did nothing to the table at its
other steps; or it found no such row; or a statement of it failed. -/
def UpdateFate (as : List RegistryAction) (i : Nat) (deviceId : String) (dto : UpdateSensorDto) : Request → Prop
  | .selecting deviceId' dto' => deviceId' = deviceId ∧ dto' = dto ∧ RowsUntouched unicodeLower env t as i
  | .updating key dto' _ => key = normalized unicodeLower deviceId ∧ dto' = dto ∧ RowsUntouched unicodeLower env t as i
  | .ended (.updated r') => ∃ before env' after, as = before ++ .resolve i env' :: after ∧
      RowUpdated unicodeLower env t deviceId dto r' before (.resolve i env') ∧
      ∀ before' a after', as = before' ++ a :: after' → a.request = some i → before' ≠ before →
        RowsUnchanged unicodeLower env t before' a
  | .ended .notFound => RowsUntouched unicodeLower env t as i ∧ History.Once (fun before a => (∃ env', a = .resolve i env') ∧
      normalized unicodeLower deviceId ∉ deviceIds (registryAfter unicodeLower env t before).rows) as
  | .ended .failed => History.Once (fun _ a => ∃ env' applied, a = .reject i env' applied) as
  | _ => False

variable {env t}

theorem RowsUntouched.snoc {as : List RegistryAction} {i : Nat} (h : RowsUntouched unicodeLower env t as i) {a : RegistryAction}
    (ha : a.request = some i → RowsUnchanged unicodeLower env t as a) : RowsUntouched unicodeLower env t (as ++ [a]) i := by
  intro before b after hsplit hb
  rcases History.snoc_split hsplit with ⟨rfl, rfl⟩ | ⟨after, hsplit⟩
  · exact ha hb
  · exact h before b after hsplit hb

/-- A step that does nothing to the table for the request leaves its fate as it was. -/
theorem UpdateFate.snoc {as : List RegistryAction} {i : Nat} {deviceId : String} {dto : UpdateSensorDto} {q : Request}
    (h : UpdateFate unicodeLower env t as i deviceId dto q) {a : RegistryAction}
    (ha : a.request = some i → RowsUnchanged unicodeLower env t as a) :
    UpdateFate unicodeLower env t (as ++ [a]) i deviceId dto q := by
  cases q with
  | inserting dto => exact h
  | selecting deviceId' dto' => exact ⟨h.1, h.2.1, h.2.2.snoc unicodeLower ha⟩
  | updating key dto' values => exact ⟨h.1, h.2.1, h.2.2.snoc unicodeLower ha⟩
  | seeding => exact h
  | ended o =>
    cases o with
    | updated r' =>
      obtain ⟨before, env', after, rfl, hrow, hothers⟩ := h
      refine ⟨before, env', after ++ [a], by rw [List.append_assoc, List.cons_append], hrow, ?_⟩
      intro before' b after' hsplit hb hne
      rcases History.snoc_split hsplit with ⟨rfl, rfl⟩ | ⟨after', hsplit⟩
      · exact ha hb
      · exact hothers before' b after' hsplit hb hne
    | notFound => exact ⟨h.1.snoc unicodeLower ha, h.2.append [a]⟩
    | failed => exact h.append [a]
    | _ => exact h

/-- A request that has ended does nothing to the table. -/
theorem unchanged_of_ended {as : List RegistryAction} {i : Nat} {o : Outcome}
    (h : (registryAfter unicodeLower env t as).requests[i]? = some (.ended o)) {a : RegistryAction} (ha : a.request = some i) :
    RowsUnchanged unicodeLower env t as a := by
  unfold RowsUnchanged
  rw [registryAfter_snoc]
  cases a with
  | arrive c => cases ha
  | resolve j env' =>
    obtain rfl := Option.some.inj ha
    simp [registryMachine, h, Request.effect]
  | reject j env' applied =>
    obtain rfl := Option.some.inj ha
    simp [registryMachine, h, Request.awaits]

/-- A statement of an update returns. -/
theorem updateFate_resolve {as : List RegistryAction} {i : Nat} {deviceId : String} {dto : UpdateSensorDto} {q : Request}
    (hq : (registryAfter unicodeLower env t as).requests[i]? = some q) (h : UpdateFate unicodeLower env t as i deviceId dto q)
    (env' : Env) :
    ∃ q', (registryAfter unicodeLower env t (as ++ [.resolve i env'])).requests[i]? = some q' ∧
      UpdateFate unicodeLower env t (as ++ [.resolve i env']) i deviceId dto q' := by
  have hnext : (registryAfter unicodeLower env t (as ++ [.resolve i env'])).requests[i]? =
      some (q.next unicodeLower env' (registryAfter unicodeLower env t as).rows) := by
    rw [registryAfter_snoc]
    simp only [registryMachine, hq]
    exact List.getElem?_set_self (List.getElem?_eq_some_iff.1 hq).1
  cases q with
  | inserting dto' => exact h.elim
  | seeding => exact h.elim
  | ended o => exact ⟨_, hnext, h.snoc unicodeLower (unchanged_of_ended unicodeLower hq)⟩
  | selecting deviceId' dto' =>
    obtain ⟨rfl, rfl, huntouched⟩ := h
    have hsame : RowsUnchanged unicodeLower env t as (.resolve i env') := by
      unfold RowsUnchanged
      rw [registryAfter_snoc]
      simp [registryMachine, hq, Request.effect]
    refine ⟨_, hnext, ?_⟩
    unfold Request.next
    dsimp only
    split_ifs with hmem
    · exact ⟨rfl, rfl, huntouched.snoc unicodeLower (fun _ => hsame)⟩
    · exact ⟨huntouched.snoc unicodeLower (fun _ => hsame), History.once_last ⟨⟨env', rfl⟩, hmem⟩⟩
  | updating key dto' values =>
    obtain ⟨rfl, rfl, huntouched⟩ := h
    obtain ⟨j, r, r', hr, hdevice, hupdated, hr', hothers, hended⟩ :=
      update_step unicodeLower (registryAfter_inv unicodeLower env t as) hq env'
    rw [← registryAfter_snoc] at hr' hothers hended
    refine ⟨_, hended, as, env', [], rfl, ⟨j, r, hr, hdevice, hupdated, hr', hothers⟩, ?_⟩
    intro before a after hsplit ha hne
    rcases History.snoc_split hsplit with ⟨hlast, -⟩ | ⟨after, hsplit⟩
    · exact absurd hlast hne
    · exact huntouched before a after hsplit ha

/-- A statement of an update fails. -/
theorem updateFate_reject {as : List RegistryAction} {i : Nat} {deviceId : String} {dto : UpdateSensorDto} {q : Request}
    (hq : (registryAfter unicodeLower env t as).requests[i]? = some q) (h : UpdateFate unicodeLower env t as i deviceId dto q)
    (env' : Env) (applied : Bool) :
    ∃ q', (registryAfter unicodeLower env t (as ++ [.reject i env' applied])).requests[i]? = some q' ∧
      UpdateFate unicodeLower env t (as ++ [.reject i env' applied]) i deviceId dto q' := by
  cases haw : q.awaits with
  | true =>
    refine ⟨.ended .failed, ?_, History.once_last ⟨env', applied, rfl⟩⟩
    rw [registryAfter_snoc]
    simp only [registryMachine, hq, haw, if_true]
    exact List.getElem?_set_self (List.getElem?_eq_some_iff.1 hq).1
  | false =>
    cases q with
    | ended o =>
      refine ⟨_, ?_, h.snoc unicodeLower (unchanged_of_ended unicodeLower hq)⟩
      rw [registryAfter_snoc]
      exact step_request_ended unicodeLower hq _
    | _ => cases haw

/-- What has become of a request that is about another one, or of none, is as it was. -/
theorem requests_other {as : List RegistryAction} {i : Nat} {q : Request}
    (hq : (registryAfter unicodeLower env t as).requests[i]? = some q) {a : RegistryAction} (ha : a.request ≠ some i) :
    (registryAfter unicodeLower env t (as ++ [a])).requests[i]? = some q := by
  rw [registryAfter_snoc]
  rcases registry_cases unicodeLower (registryAfter unicodeLower env t as) a with ⟨c, rfl, hstep⟩ | ⟨j, env', r, rfl, -, hstep⟩ |
    ⟨j, env', applied, r, rfl, -, -, hstep⟩ | hstep
  · rw [hstep]
    exact (List.getElem?_append_left (List.getElem?_eq_some_iff.1 hq).1).trans hq
  · rw [hstep]
    exact (List.getElem?_set_ne (fun hij => ha (congrArg some hij))).trans hq
  · rw [hstep]
    exact (List.getElem?_set_ne (fun hij => ha (congrArg some hij))).trans hq
  · rw [hstep]
    exact hq

theorem updateFate_snoc {as : List RegistryAction} {i : Nat} {deviceId : String} {dto : UpdateSensorDto}
    (h : ∃ q, (registryAfter unicodeLower env t as).requests[i]? = some q ∧ UpdateFate unicodeLower env t as i deviceId dto q)
    (a : RegistryAction) :
    ∃ q, (registryAfter unicodeLower env t (as ++ [a])).requests[i]? = some q ∧
      UpdateFate unicodeLower env t (as ++ [a]) i deviceId dto q := by
  obtain ⟨q, hq, hfate⟩ := h
  by_cases ha : a.request = some i
  · cases a with
    | arrive c => cases ha
    | resolve j env' =>
      obtain rfl := Option.some.inj ha
      exact updateFate_resolve unicodeLower hq hfate env'
    | reject j env' applied =>
      obtain rfl := Option.some.inj ha
      exact updateFate_reject unicodeLower hq hfate env' applied
  · exact ⟨q, requests_other unicodeLower hq ha, hfate.snoc unicodeLower (fun hi => absurd hi ha)⟩

/-- There are as many requests as calls have arrived. -/
theorem length_requests (as : List RegistryAction) :
    (registryAfter unicodeLower env t as).requests.length = (as.filterMap RegistryAction.call?).length := by
  induction as using List.reverseRecOn with
  | nil => rfl
  | append_singleton as a ih =>
    rw [registryAfter_snoc, List.filterMap_append, List.length_append, ← ih]
    rcases registry_cases unicodeLower (registryAfter unicodeLower env t as) a with ⟨c, rfl, hstep⟩ |
      ⟨j, env', r, rfl, -, hstep⟩ | ⟨j, env', applied, r, rfl, -, -, hstep⟩ | hstep
    · rw [hstep]
      exact List.length_append
    · rw [hstep]
      exact List.length_set
    · rw [hstep]
      exact List.length_set
    · cases a with
      | arrive c => exact List.length_append
      | _ =>
        rw [hstep]
        rfl

/-- A request that has not arrived does nothing to the table. -/
theorem unchanged_of_none {as : List RegistryAction} {i : Nat} (h : (registryAfter unicodeLower env t as).requests[i]? = none)
    {a : RegistryAction} (ha : a.request = some i) : RowsUnchanged unicodeLower env t as a := by
  unfold RowsUnchanged
  rw [registryAfter_snoc]
  cases a with
  | arrive c => cases ha
  | resolve j env' =>
    obtain rfl := Option.some.inj ha
    simp [registryMachine, h]
  | reject j env' applied =>
    obtain rfl := Option.some.inj ha
    simp [registryMachine, h]

/-- Nothing is done for a request before it arrives. -/
theorem untouched_arrive (as : List RegistryAction) (c : RegistryCall) :
    RowsUntouched unicodeLower env t (as ++ [.arrive c]) (as.filterMap RegistryAction.call?).length := by
  intro before a after hsplit ha
  rcases History.snoc_split hsplit with ⟨-, rfl⟩ | ⟨after, rfl⟩
  · cases ha
  · refine unchanged_of_none unicodeLower ?_ ha
    rw [List.getElem?_eq_none_iff, length_requests, List.filterMap_append, List.length_append]
    exact Nat.le_add_right _ _

/-- Step by step, every request that arrived as an update has one of the fates of one. -/
theorem updateFate_run (as : List RegistryAction) {i : Nat} {c : RegistryCall} (hc : (as.filterMap RegistryAction.call?)[i]? = some c)
    {deviceId : String} {dto : UpdateSensorDto} (hbody : c.body? = some (deviceId, dto)) :
    ∃ q, (registryAfter unicodeLower env t as).requests[i]? = some q ∧ UpdateFate unicodeLower env t as i deviceId dto q := by
  induction as using List.reverseRecOn with
  | nil => cases hc
  | append_singleton as a ih =>
    by_cases hold : i < (as.filterMap RegistryAction.call?).length
    · refine updateFate_snoc unicodeLower (ih ?_) a
      rw [List.filterMap_append, List.getElem?_append_left hold] at hc
      exact hc
    · -- the call arrives with this step
      rw [List.filterMap_append, List.getElem?_append_right (Nat.le_of_not_lt hold)] at hc
      cases a with
      | resolve j env' => cases hc
      | reject j env' applied => cases hc
      | arrive c' =>
        have hlast : i = (as.filterMap RegistryAction.call?).length := by
          have hbound := (List.getElem?_eq_some_iff.1 hc).1
          simp only [RegistryAction.call?, List.filterMap_cons, List.filterMap_nil, List.length_cons, List.length_nil] at hbound
          omega
        subst hlast
        rw [Nat.sub_self] at hc
        obtain rfl : c' = c := Option.some.inj hc
        have hlength : (registryAfter unicodeLower env t as).requests.length = (as.filterMap RegistryAction.call?).length :=
          length_requests unicodeLower as
        have huntouched : RowsUntouched unicodeLower env t (as ++ [.arrive c']) (as.filterMap RegistryAction.call?).length :=
          untouched_arrive unicodeLower as c'
        refine ⟨c'.request, ?_, ?_⟩
        · rw [registryAfter_snoc, ← hlength]
          exact List.getElem?_concat_length
        · cases c' with
          | create dto' => cases hbody
          | seed => cases hbody
          | update deviceId' dto' =>
            obtain ⟨rfl, rfl⟩ := Prod.mk.inj (Option.some.inj hbody)
            exact ⟨rfl, rfl, huntouched⟩
          | retire deviceId' =>
            obtain ⟨rfl, rfl⟩ := Prod.mk.inj (Option.some.inj hbody)
            exact ⟨rfl, rfl, huntouched⟩

end

/-- The registry invariant. From the table that migration 0001 makes of any table with distinct lower-case DevEUIs, seeded, after
every sequence of steps of creates, updates, retirements and seeds, in any interleaving, with failing statements:
1. `is_active` is true exactly on the rows whose status is "active", and the DevEUIs are lower-case and distinct;
2. no later step takes a row away, or changes its id, DevEUI or time of creation;
3. a request that ended in NotFound or Conflict left the table as it was, at each of its steps;
4. an UPDATE that returns changed one row, in the fields its body supplied and in `updated_at`, and `is_active` only together with
   the status;
5. a request that arrived as an update of a device with a body, and ended in success, changed the row of that device by that body
   at one step, changed no other row there and nothing at its other steps (`UpdateFate`, which says what else can become of it);
6. `GET /sensors/latest` and `GET /overview` range over the same devices. -/
theorem registry_invariant (env : Env) (t : LegacyTable) (as : List RegistryAction) :
    ((∀ r ∈ (registryAfter unicodeLower env t as).rows, r.isActive = true ↔ r.status = .active) ∧
      (∀ r ∈ (registryAfter unicodeLower env t as).rows, LowerCase r.deviceId) ∧
      (deviceIds (registryAfter unicodeLower env t as).rows).Nodup) ∧
    (∀ bs, Table.Kept SensorRow.identity (registryAfter unicodeLower env t as).rows
      (registryAfter unicodeLower env t (as ++ bs)).rows) ∧
    (∀ i o, (registryAfter unicodeLower env t as).requests[i]? = some (.ended o) → o = .notFound ∨ o = .conflict →
      ∀ k a, as[k]? = some a → a.request = some i →
        (registryAfter unicodeLower env t (as.take (k + 1))).rows = (registryAfter unicodeLower env t (as.take k)).rows) ∧
    (∀ i env' deviceId dto values,
      (registryAfter unicodeLower env t as).requests[i]? = some (.updating deviceId dto values) →
      ∃ (j : Nat) (r r' : SensorRow), (registryAfter unicodeLower env t as).rows[j]? = some r ∧ r.deviceId = deviceId ∧
        UpdatedBy dto r r' ∧
        (registryAfter unicodeLower env t (as ++ [.resolve i env'])).rows[j]? = some r' ∧
        (∀ l : Nat, l ≠ j → (registryAfter unicodeLower env t (as ++ [.resolve i env'])).rows[l]? =
          (registryAfter unicodeLower env t as).rows[l]?) ∧
        (registryAfter unicodeLower env t (as ++ [.resolve i env'])).requests[i]? = some (.ended (.updated r'))) ∧
    (∀ i c deviceId dto, (as.filterMap RegistryAction.call?)[i]? = some c → c.body? = some (deviceId, dto) →
      ∃ q, (registryAfter unicodeLower env t as).requests[i]? = some q ∧ UpdateFate unicodeLower env t as i deviceId dto q) ∧
    findActiveDeviceIds (registryAfter unicodeLower env t as).rows =
      overviewDeviceIds (registryAfter unicodeLower env t as).rows := by
  have hinv := registryAfter_inv unicodeLower env t as
  refine ⟨⟨?_, fun r hr => (hinv.rows.all r hr).lower, hinv.rows.keys⟩, ?_, ?_, ?_, ?_, activeDeviceIds_eq hinv.rows⟩
  · intro r hr
    rw [(hinv.rows.all r hr).active]
    exact beq_iff_eq
  · intro bs
    rw [registryAfter, registryAfter, Machine.run_append]
    exact run_kept unicodeLower _ bs
  · intro i o hended hrefused k a ha hi
    exact refused_unchanged unicodeLower env t hended hrefused ha hi
  · intro i env' deviceId dto values hr
    rw [registryAfter_snoc]
    exact update_step unicodeLower hinv hr env'
  · intro i c deviceId dto hc hbody
    exact updateFate_run unicodeLower as hc hbody

end AirQuality

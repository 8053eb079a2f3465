import AirQuality.Ingestion.Schedule
import AirQuality.Lib.Register

/-!
# The cache entries as registers

`sensor:latest` and `sensor:config` of a device are written in the same way: the call some execution awaits SETs what its own
message said. A `CacheEntry` is what the two have in common, and `CacheEntry.refines_register` says that over any schedule it is
a register that keeps its last write.
-/

namespace AirQuality

/-- A cache entry: how it is read, what the effect of an awaited call writes to it, and which executions have written a value and
gone on. -/
structure CacheEntry (α : Type) where
  get : Service → Option α
  write : Exec → Option α
  Wrote : α → Exec → Prop
  get_start : ∀ rows, get (Service.start rows) = none
  get_effect : ∀ s e, get (s.effect e) = (write e).or (get s)
  get_count : ∀ s e, get (Service.count s e) = get s
  get_execs : ∀ s execs dropped, get { s with execs := execs, readingsDropped := dropped } = get s
  write_idle : ∀ e, e.awaits = false → write e = none
  wrote_next : ∀ v e, e.awaits = true → (Wrote v e.next ↔ Wrote v e ∨ write e = some v)
  not_wrote_exec : ∀ v (handled : Handled), ¬Wrote v handled.exec
  not_wrote_error : ∀ v, ¬Wrote v (.dropped .error)

/-- The latest reading of a device. -/
def latestEntry (device : String) : CacheEntry ReadingPayload where
  get := fun s => s.latest device
  write := Exec.latestWrite device
  Wrote := fun v e => v.reading.deviceId = device ∧ (e = .publishing v ∨ e = .ingested v)
  get_start := fun _ => rfl
  get_effect := fun s e => effect_latest s e device
  get_count := fun s e => by rw [count_latest]
  get_execs := fun _ _ _ => rfl
  write_idle := fun _ h => latestWrite_of_not_awaits h device
  wrote_next := by
    intro v e haw
    cases e with
    | caching p =>
      simp only [Exec.next, Exec.latestWrite]
      constructor
      · rintro ⟨hdevice, h | h⟩
        · cases h
          exact Or.inr (if_pos hdevice)
        · cases h
      · rintro (⟨-, h | h⟩ | h)
        · cases h
        · cases h
        · split_ifs at h with hdevice
          obtain rfl := Option.some.inj h
          exact ⟨hdevice, Or.inl rfl⟩
    | publishing p => simp [Exec.next, Exec.latestWrite]
    | persisting p => simp [Exec.next, Exec.latestWrite]
    | reporting c => simp [Exec.next, Exec.latestWrite]
    | _ => cases haw
  not_wrote_exec := by
    intro v handled hwrote
    obtain ⟨-, h | h⟩ := hwrote
    · cases handled <;> cases h
    · cases handled <;> cases h
  not_wrote_error := by
    intro v hwrote
    obtain ⟨-, h | h⟩ := hwrote
    · cases h
    · cases h

/-- The config of a device. -/
def configEntry (device : String) : CacheEntry DeviceConfig where
  get := fun s => s.config device
  write := Exec.configWrite device
  Wrote := fun c e => c.deviceId = device ∧ e = .reported c
  get_start := fun _ => rfl
  get_effect := fun s e => effect_config s e device
  get_count := fun s e => by rw [count_config]
  get_execs := fun _ _ _ => rfl
  write_idle := fun _ h => configWrite_of_not_awaits h device
  wrote_next := by
    intro c e haw
    cases e with
    | reporting d =>
      simp only [Exec.next, Exec.configWrite]
      constructor
      · rintro ⟨hdevice, h⟩
        cases h
        exact Or.inr (if_pos hdevice)
      · rintro (⟨-, h⟩ | h)
        · cases h
        · split_ifs at h with hdevice
          obtain rfl := Option.some.inj h
          exact ⟨hdevice, rfl⟩
    | publishing p => simp [Exec.next, Exec.configWrite]
    | persisting p => simp [Exec.next, Exec.configWrite]
    | caching p => simp [Exec.next, Exec.configWrite]
    | _ => cases haw
  not_wrote_exec := by
    intro c handled hwrote
    obtain ⟨-, h⟩ := hwrote
    cases handled <;> cases h
  not_wrote_error := by
    intro c hwrote
    obtain ⟨-, h⟩ := hwrote
    cases h

namespace CacheEntry

variable {α : Type} (c : CacheEntry α) (dateParse : String → Option ℤ) (rows : List ReadingPayload)

/-- What a step writes to the entry. -/
def stepWrite (s : Service) (a : Action) : Option α := (s.effective a).bind c.write

/-- What a schedule writes to the entry, step by step. -/
def writes (as : List Action) : List (Option α) := (ingestion dateParse).inputs c.stepWrite (Service.start rows) as

/-- A step overwrites the entry with what the effect of its call writes. -/
theorem get_step (s : Service) (a : Action) :
    c.get ((ingestion dateParse).step s a).1 = (c.stepWrite s a).or (c.get s) := by
  unfold stepWrite
  rcases ingestion_cases dateParse s a with ⟨uplink, now, rfl, hstep⟩ | ⟨i, e, rfl, he, haw, hstep⟩ |
    ⟨i, e, applied, rfl, he, haw, hstep⟩ | ⟨hidle, hstep⟩
  · rw [hstep]
    exact c.get_execs s _ _
  · rw [hstep, Service.effective, he, Option.bind_some, ← c.get_effect]
    exact (c.get_execs ((s.effect e).count e) _ ((s.effect e).count e).readingsDropped).trans (c.get_count (s.effect e) e)
  · rw [hstep, Service.effective, he]
    cases applied with
    | false => exact c.get_execs s _ _
    | true => exact (c.get_execs (s.effect e) _ _).trans (c.get_effect s e)
  · rw [hstep]
    cases he : s.effective a with
    | none => rfl
    | some e => rw [Option.bind_some, c.write_idle e (hidle e he), Option.none_or]

/-- The entry is a register that keeps its last write. -/
theorem refines_register :
    (ingestion dateParse).Refines Register.machine c.stepWrite id (fun s stored => c.get s = stored) := by
  intro s stored a h
  subst h
  exact ⟨c.get_step dateParse s a, rfl⟩

theorem get_serviceAfter (as : List Action) :
    c.get (serviceAfter dateParse rows as) = Register.machine.run none (c.writes dateParse rows as) :=
  (c.refines_register dateParse).run (c.get_start rows) as

theorem get_serviceAt (as : List Action) (k : Nat) :
    c.get (serviceAt dateParse rows as k) = Register.machine.run none ((c.writes dateParse rows as).take k) := by
  rw [writes, Machine.inputs_take]
  exact c.get_serviceAfter dateParse rows (as.take k)

theorem writes_snoc (as : List Action) (a : Action) :
    c.writes dateParse rows (as ++ [a]) =
      c.writes dateParse rows as ++ [c.stepWrite (serviceAfter dateParse rows as) a] :=
  (ingestion dateParse).inputs_snoc _ _ as a

/-- What is written at step `k` is what the execution whose call takes effect there writes. -/
theorem writes_getElem?_iff (as : List Action) (k : Nat) (v : α) :
    (c.writes dateParse rows as)[k]? = some (some v) ↔
      ∃ e, c.write e = some v ∧ ∃ a, as[k]? = some a ∧ (serviceAt dateParse rows as k).effective a = some e := by
  rw [writes, Machine.inputs_getElem?, Option.map_eq_some_iff]
  constructor
  · rintro ⟨a, ha, h⟩
    obtain ⟨e, he, hv⟩ := Option.bind_eq_some_iff.1 h
    exact ⟨e, hv, a, ha, he⟩
  · rintro ⟨e, hv, a, ha, he⟩
    exact ⟨a, ha, Option.bind_eq_some_iff.2 ⟨e, he, hv⟩⟩

/-- What an execution has written was written over the schedule. -/
theorem mem_written {as : List Action} {v : α} {e : Exec} (h : e ∈ (serviceAfter dateParse rows as).execs)
    (hwrote : c.Wrote v e) : v ∈ Register.written (c.writes dateParse rows as) := by
  induction as using List.reverseRecOn generalizing e with
  | nil => cases h
  | append_singleton as a ih =>
    rw [serviceAfter_snoc] at h
    rw [writes_snoc, Register.written_snoc]
    rcases mem_execs_step h with h | ⟨handled, rfl⟩ | ⟨i, f, rfl, hf, haw, rfl⟩ | rfl
    · exact List.mem_append_left _ (ih h hwrote)
    · exact absurd hwrote (c.not_wrote_exec v handled)
    · rcases (c.wrote_next v f haw).1 hwrote with hf' | hwrite
      · exact List.mem_append_left _ (ih (List.mem_of_getElem? hf) hf')
      · -- it is written in this very step
        refine List.mem_append_right _ ?_
        simp [stepWrite, Service.effective, hf, hwrite]
    · exact absurd hwrote (c.not_wrote_error v)

/-- The value of the entry has been written by an execution that went on, unless some execution has failed. -/
def Owned (s : Service) : Prop :=
  ∀ v, c.get s = some v → (∃ e ∈ s.execs, c.Wrote v e) ∨ .dropped .error ∈ s.execs

/-- A step keeps the owner of the value, or its call, taking effect, makes a new one. -/
theorem owned_step {s : Service} (hs : c.Owned s) (a : Action) : c.Owned ((ingestion dateParse).step s a).1 := by
  intro v hv
  rw [c.get_step] at hv
  cases hw : c.stepWrite s a with
  | some w =>
    rw [hw, Option.some_or] at hv
    obtain rfl := Option.some.inj hv
    obtain ⟨e, he, hwrite⟩ := Option.bind_eq_some_iff.1 hw
    have haw : e.awaits = true := by
      by_contra hne
      rw [c.write_idle e (Bool.eq_false_iff.2 hne)] at hwrite
      cases hwrite
    exact (effective_step_execs he haw).imp (fun h => ⟨_, h, (c.wrote_next _ e haw).2 (Or.inr hwrite)⟩) id
  | none =>
    rw [hw, Option.none_or] at hv
    rcases hs v hv with ⟨e, he, hwrote⟩ | herror
    · rcases mem_step_execs he with h | ⟨haw, h | h⟩
      · exact Or.inl ⟨e, h, hwrote⟩
      · exact Or.inl ⟨_, h, (c.wrote_next v e haw).2 (Or.inl hwrote)⟩
      · exact Or.inr h
    · rcases mem_step_execs herror with h | ⟨haw, -⟩
      · exact Or.inr h
      · cases haw

theorem serviceAfter_owned (as : List Action) : c.Owned (serviceAfter dateParse rows as) := by
  have hstart : c.Owned (Service.start rows) := by
    intro v hv
    rw [c.get_start] at hv
    cases hv
  have hstep : ∀ s a, c.Owned s → c.Owned ((ingestion dateParse).step s a).1 := by
    intro s a hs
    exact c.owned_step dateParse hs a
  exact (ingestion dateParse).run_inv hstep hstart as

end CacheEntry

end AirQuality

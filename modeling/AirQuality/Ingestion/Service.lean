import AirQuality.Ingestion.Uplink
import AirQuality.Lib.Machine
import AirQuality.Lib.Table
import Mathlib.Logic.Function.Basic

/-!
# The ingestion service over interleaved messages

Each MQTT message starts an execution of `handleUplink` that nobody awaits. An execution runs to its next `await` at once, and
goes on when the call it awaits has returned; between two steps of one execution those of others may come in any order. A call
takes effect and returns in one step, or fails, and a call that failed may have taken effect all the same. The latest-value
entries are taken not to expire.
-/

namespace AirQuality

/-- An execution of `handleUplink`: the call it awaits, or how it ended. -/
inductive Exec where
  /-- Awaits the insert into `readings`. -/
  | persisting (p : ReadingPayload)
  /-- Awaits the SET of `sensor:latest`. -/
  | caching (p : ReadingPayload)
  /-- Awaits the PUBLISH. -/
  | publishing (p : ReadingPayload)
  /-- Counted in `readings_ingested`. -/
  | ingested (p : ReadingPayload)
  /-- Awaits the SET of `sensor:config`. -/
  | reporting (c : DeviceConfig)
  | reported (c : DeviceConfig)
  | ignored
  /-- Counted in `readings_dropped`. -/
  | dropped (reason : DropReason)
deriving DecidableEq

/-- The execution has a call in flight. -/
def Exec.awaits : Exec → Bool
  | .persisting _ | .caching _ | .publishing _ | .reporting _ => true
  | .ingested _ | .reported _ | .ignored | .dropped _ => false

/-- Where an execution goes on once the call it awaits has returned. -/
def Exec.next : Exec → Exec
  | .persisting p => .caching p
  | .caching p => .publishing p
  | .publishing p => .ingested p
  | .reporting c => .reported c
  | e => e

/-- Where the synchronous part of `handleUplink` leaves an execution. -/
def Handled.exec : Handled → Exec
  | .reading p => .persisting p
  | .config c => .reporting c
  | .ignored => .ignored
  | .dropped reason => .dropped reason

/-- The service, its two counters, and the stores it writes to. -/
structure Service where
  /-- The table `readings`. -/
  readings : List ReadingPayload
  /-- `sensor:latest:<device>` -/
  latest : String → Option ReadingPayload
  /-- `sensor:config:<device>` -/
  config : String → Option DeviceConfig
  /-- The events published on `readings`. -/
  published : List ReadingPayload
  /-- `readings_ingested`, by category. -/
  readingsIngested : List AqiCategory
  /-- `readings_dropped`, by reason. -/
  readingsDropped : List DropReason
  /-- The executions, in the order of their messages. -/
  execs : List Exec

/-- Before any message: no execution, empty caches. -/
def Service.start (rows : List ReadingPayload) : Service where
  readings := rows
  latest := fun _ => none
  config := fun _ => none
  published := []
  readingsIngested := []
  readingsDropped := []
  execs := []

/-- `insert … onConflictDoNothing`: a row whose `(sensor_id, time)` is there is not inserted. -/
def insertReading (rows : List ReadingPayload) (p : ReadingPayload) : List ReadingPayload :=
  if p.id ∈ rows.map ReadingPayload.id then rows else rows ++ [p]

/-- The effect of the call an execution awaits. -/
def Service.effect (s : Service) : Exec → Service
  | .persisting p => { s with readings := insertReading s.readings p }
  | .caching p => { s with latest := Function.update s.latest p.reading.deviceId (some p) }
  | .publishing p => { s with published := s.published ++ [p] }
  | .reporting c => { s with config := Function.update s.config c.deviceId (some c) }
  | _ => s

/-- What the code does to the counters when the awaited call returns. -/
def Service.count (s : Service) : Exec → Service
  | .publishing p => { s with readingsIngested := s.readingsIngested ++ [p.aqiCategory] }
  | _ => s

/-- A step: a message arrives, or the call execution `i` awaits returns or fails. -/
inductive Action where
  /-- A message, `none` if it is not an uplink, at the current time. -/
  | deliver (uplink : Option ChirpStackUplink) (now : ℤ)
  | resolve (i : Nat)
  | reject (i : Nat) (applied : Bool)

section

variable (dateParse : String → Option ℤ)

/-- A message arrives: its execution runs to its first `await`. -/
def Service.deliver (s : Service) (uplink : Option ChirpStackUplink) (now : ℤ) : Service :=
  let handled := handleUplink dateParse now uplink
  let dropped := match handled with
    | .dropped reason => [reason]
    | _ => []
  { s with execs := s.execs ++ [handled.exec], readingsDropped := s.readingsDropped ++ dropped }

/-- The call execution `i` awaits takes effect and returns, and the execution runs to its next `await`. -/
def Service.resolve (s : Service) (i : Nat) : Service :=
  match s.execs[i]? with
  | some e =>
    if e.awaits = true then { ((s.effect e).count e) with execs := s.execs.set i e.next } else s
  | none => s

/-- The call execution `i` awaits fails, its effect applied or not, and the execution ends in the `catch`. -/
def Service.reject (s : Service) (i : Nat) (applied : Bool) : Service :=
  match s.execs[i]? with
  | some e =>
    if e.awaits = true then
      { (if applied = true then s.effect e else s) with
        execs := s.execs.set i (.dropped .error)
        readingsDropped := s.readingsDropped ++ [.error] }
    else s
  | none => s

/-- The service as a machine. -/
def ingestion : Machine Service Action Unit where
  step s
    | .deliver uplink now => (s.deliver dateParse uplink now, ())
    | .resolve i => (s.resolve i, ())
    | .reject i applied => (s.reject i applied, ())

end

/-- The execution whose awaited call takes effect in a step, if there is one. -/
def Service.effective (s : Service) : Action → Option Exec
  | .deliver _ _ => none
  | .resolve i => s.execs[i]?
  | .reject i applied => if applied = true then s.execs[i]? else none

/-- The reading the awaited call of an execution caches as the latest of a device. -/
def Exec.latestWrite (device : String) : Exec → Option ReadingPayload
  | .caching p => if p.reading.deviceId = device then some p else none
  | _ => none

/-- The config the awaited call of an execution caches for a device. -/
def Exec.configWrite (device : String) : Exec → Option DeviceConfig
  | .reporting c => if c.deviceId = device then some c else none
  | _ => none

/-- The reading the awaited call of an execution inserts. -/
def Exec.inserts : Exec → Option ReadingPayload
  | .persisting p => some p
  | _ => none

/-- The reading the awaited call of an execution publishes. -/
def Exec.publishes : Exec → Option ReadingPayload
  | .publishing p => some p
  | _ => none

/-! ## What a step can do -/

@[simp] theorem count_latest (s : Service) (e : Exec) : (s.count e).latest = s.latest := by cases e <;> rfl

@[simp] theorem count_readings (s : Service) (e : Exec) : (s.count e).readings = s.readings := by cases e <;> rfl

@[simp] theorem count_published (s : Service) (e : Exec) : (s.count e).published = s.published := by cases e <;> rfl

@[simp] theorem count_config (s : Service) (e : Exec) : (s.count e).config = s.config := by cases e <;> rfl

/-- A step delivers a message, or the call of an execution returns, or it fails, or nothing happens because no such call is in
flight. -/
theorem ingestion_cases (dateParse : String → Option ℤ) (s : Service) (a : Action) :
    (∃ uplink now, a = .deliver uplink now ∧ ((ingestion dateParse).step s a).1 = s.deliver dateParse uplink now) ∨
    (∃ i e, a = .resolve i ∧ s.execs[i]? = some e ∧ e.awaits = true ∧
      ((ingestion dateParse).step s a).1 = { ((s.effect e).count e) with execs := s.execs.set i e.next }) ∨
    (∃ i e applied, a = .reject i applied ∧ s.execs[i]? = some e ∧ e.awaits = true ∧
      ((ingestion dateParse).step s a).1 =
        { (if applied = true then s.effect e else s) with
          execs := s.execs.set i (.dropped .error)
          readingsDropped := s.readingsDropped ++ [.error] }) ∨
    ((∀ e, s.effective a = some e → e.awaits = false) ∧ ((ingestion dateParse).step s a).1 = s) := by
  cases a with
  | deliver uplink now => exact Or.inl ⟨uplink, now, rfl, rfl⟩
  | resolve i =>
    refine Or.inr ?_
    cases he : s.execs[i]? with
    | none => exact Or.inr (Or.inr ⟨by simp [Service.effective, he], by simp [ingestion, Service.resolve, he]⟩)
    | some e =>
      cases haw : e.awaits with
      | true => exact Or.inl ⟨i, e, rfl, he, haw, by simp [ingestion, Service.resolve, he, haw]⟩
      | false =>
        exact Or.inr (Or.inr ⟨by simp [Service.effective, he, haw], by simp [ingestion, Service.resolve, he, haw]⟩)
  | reject i applied =>
    refine Or.inr (Or.inr ?_)
    cases he : s.execs[i]? with
    | none => exact Or.inr ⟨by simp [Service.effective, he], by simp [ingestion, Service.reject, he]⟩
    | some e =>
      cases haw : e.awaits with
      | true => exact Or.inl ⟨i, e, applied, rfl, he, haw, by simp [ingestion, Service.reject, he, haw]⟩
      | false =>
        exact Or.inr ⟨by simp [Service.effective, he, haw], by simp [ingestion, Service.reject, he, haw]⟩

/-- An execution present after a step was there before, is that of the message delivered, is where an awaited call returned to,
or ended in an error. -/
theorem mem_execs_step {dateParse : String → Option ℤ} {s : Service} {a : Action} {e : Exec}
    (h : e ∈ ((ingestion dateParse).step s a).1.execs) :
    e ∈ s.execs ∨ (∃ handled : Handled, e = handled.exec) ∨
      (∃ i f, a = .resolve i ∧ s.execs[i]? = some f ∧ f.awaits = true ∧ e = f.next) ∨ e = .dropped .error := by
  rcases ingestion_cases dateParse s a with ⟨uplink, now, -, hstep⟩ | ⟨i, f, ha, hf, haw, hstep⟩ |
    ⟨i, f, applied, -, -, -, hstep⟩ | ⟨-, hstep⟩
  · rw [hstep] at h
    rcases List.mem_append.1 h with h | h
    · exact Or.inl h
    · exact Or.inr (Or.inl ⟨_, List.mem_singleton.1 h⟩)
  · rw [hstep] at h
    rcases List.mem_or_eq_of_mem_set h with h | h
    · exact Or.inl h
    · exact Or.inr (Or.inr (Or.inl ⟨i, f, ha, hf, haw, h⟩))
  · rw [hstep] at h
    rcases List.mem_or_eq_of_mem_set h with h | h
    · exact Or.inl h
    · exact Or.inr (Or.inr (Or.inr h))
  · rw [hstep] at h
    exact Or.inl h

theorem mem_set_self {l : List Exec} {i : Nat} {e x : Exec} (hi : l[i]? = some e) : x ∈ l.set i x := by
  obtain ⟨hlt, -⟩ := List.getElem?_eq_some_iff.1 hi
  exact List.mem_set hlt x

/-- An execution stays as it is, or goes on with its awaited call returned, or ends in an error. -/
theorem mem_step_execs {dateParse : String → Option ℤ} {s : Service} {a : Action} {f : Exec} (h : f ∈ s.execs) :
    f ∈ ((ingestion dateParse).step s a).1.execs ∨
      (f.awaits = true ∧ (f.next ∈ ((ingestion dateParse).step s a).1.execs ∨
        .dropped .error ∈ ((ingestion dateParse).step s a).1.execs)) := by
  rcases ingestion_cases dateParse s a with ⟨uplink, now, -, hstep⟩ | ⟨i, e, -, he, haw, hstep⟩ |
    ⟨i, e, applied, -, he, haw, hstep⟩ | ⟨-, hstep⟩
  · rw [hstep]
    exact Or.inl (List.mem_append_left _ h)
  · rw [hstep]
    by_cases hfe : f = e
    · subst hfe
      exact Or.inr ⟨haw, Or.inl (mem_set_self he)⟩
    · exact Or.inl (Table.mem_set_of_ne h (by simpa [he] using Ne.symm hfe) _)
  · rw [hstep]
    by_cases hfe : f = e
    · subst hfe
      exact Or.inr ⟨haw, Or.inr (mem_set_self he)⟩
    · exact Or.inl (Table.mem_set_of_ne h (by simpa [he] using Ne.symm hfe) _)
  · rw [hstep]
    exact Or.inl h

/-- An execution whose awaited call takes effect goes on, or ends in an error. -/
theorem effective_step_execs {dateParse : String → Option ℤ} {s : Service} {a : Action} {e : Exec}
    (h : s.effective a = some e) (haw : e.awaits = true) :
    e.next ∈ ((ingestion dateParse).step s a).1.execs ∨ .dropped .error ∈ ((ingestion dateParse).step s a).1.execs := by
  rcases ingestion_cases dateParse s a with ⟨uplink, now, rfl, -⟩ | ⟨i, f, rfl, hf, -, hstep⟩ |
    ⟨i, f, applied, rfl, hf, -, hstep⟩ | ⟨hnone, -⟩
  · cases h
  · rw [Service.effective, hf] at h
    obtain rfl := Option.some.inj h
    rw [hstep]
    exact Or.inl (mem_set_self hf)
  · rw [hstep]
    exact Or.inr (mem_set_self hf)
  · rw [hnone e h] at haw
    cases haw

/-- An execution that awaits nothing stays as it ended. -/
theorem step_ended {dateParse : String → Option ℤ} {s : Service} {i : Nat} {e : Exec} (he : s.execs[i]? = some e)
    (h : e.awaits = false) (a : Action) : ((ingestion dateParse).step s a).1.execs[i]? = some e := by
  have hother : ∀ j f, s.execs[j]? = some f → f.awaits = true → i ≠ j := by
    rintro j f hf haw rfl
    rw [he] at hf
    obtain rfl := Option.some.inj hf
    rw [h] at haw
    cases haw
  rcases ingestion_cases dateParse s a with ⟨uplink, now, -, hstep⟩ | ⟨j, f, -, hf, haw, hstep⟩ |
    ⟨j, f, applied, -, hf, haw, hstep⟩ | ⟨-, hstep⟩
  · rw [hstep]
    exact (List.getElem?_append_left (List.getElem?_eq_some_iff.1 he).1).trans he
  · rw [hstep]
    exact (List.getElem?_set_ne (hother j f hf haw).symm).trans he
  · rw [hstep]
    exact (List.getElem?_set_ne (hother j f hf haw).symm).trans he
  · rw [hstep]
    exact he

/-! ## What a step does to the caches -/

theorem effect_latest (s : Service) (e : Exec) (device : String) :
    (s.effect e).latest device = (e.latestWrite device).or (s.latest device) := by
  cases e with
  | caching p =>
    by_cases h : p.reading.deviceId = device
    · subst h
      simp [Service.effect, Exec.latestWrite]
    · simp [Service.effect, Exec.latestWrite, h, Function.update_of_ne (Ne.symm h)]
  | _ => rfl

theorem effect_config (s : Service) (e : Exec) (device : String) :
    (s.effect e).config device = (e.configWrite device).or (s.config device) := by
  cases e with
  | reporting c =>
    by_cases h : c.deviceId = device
    · subst h
      simp [Service.effect, Exec.configWrite]
    · simp [Service.effect, Exec.configWrite, h, Function.update_of_ne (Ne.symm h)]
  | _ => rfl

theorem latestWrite_of_not_awaits {e : Exec} (h : e.awaits = false) (device : String) : e.latestWrite device = none := by
  cases e <;> first | rfl | cases h

theorem configWrite_of_not_awaits {e : Exec} (h : e.awaits = false) (device : String) : e.configWrite device = none := by
  cases e <;> first | rfl | cases h

/-! ## What a step does to the rows and the channel -/

theorem effect_readings (s : Service) (e : Exec) :
    (s.effect e).readings = e.inserts.elim s.readings (insertReading s.readings) := by
  cases e <;> rfl

theorem effect_published (s : Service) (e : Exec) : (s.effect e).published = s.published ++ e.publishes.toList := by
  cases e with
  | publishing p => rfl
  | _ => exact (List.append_nil _).symm

theorem inserts_of_not_awaits {e : Exec} (h : e.awaits = false) : e.inserts = none := by
  cases e <;> first | rfl | cases h

theorem publishes_of_not_awaits {e : Exec} (h : e.awaits = false) : e.publishes = none := by
  cases e <;> first | rfl | cases h

/-- A step inserts what the call that takes effect inserts. -/
theorem step_readings (dateParse : String → Option ℤ) (s : Service) (a : Action) :
    ((ingestion dateParse).step s a).1.readings =
      ((s.effective a).bind Exec.inserts).elim s.readings (insertReading s.readings) := by
  rcases ingestion_cases dateParse s a with ⟨uplink, now, rfl, hstep⟩ | ⟨i, e, rfl, he, haw, hstep⟩ |
    ⟨i, e, applied, rfl, he, haw, hstep⟩ | ⟨hidle, hstep⟩
  · rw [hstep]
    rfl
  · rw [hstep, Service.effective, he, Option.bind_some, ← effect_readings]
    exact count_readings _ e
  · rw [hstep, Service.effective, he]
    cases applied with
    | false => rfl
    | true => exact effect_readings s e
  · rw [hstep]
    cases he : s.effective a with
    | none => rfl
    | some e => rw [Option.bind_some, inserts_of_not_awaits (hidle e he), Option.elim_none]

/-- A step publishes what the call that takes effect publishes. -/
theorem step_published (dateParse : String → Option ℤ) (s : Service) (a : Action) :
    ((ingestion dateParse).step s a).1.published = s.published ++ ((s.effective a).bind Exec.publishes).toList := by
  rcases ingestion_cases dateParse s a with ⟨uplink, now, rfl, hstep⟩ | ⟨i, e, rfl, he, haw, hstep⟩ |
    ⟨i, e, applied, rfl, he, haw, hstep⟩ | ⟨hidle, hstep⟩
  · rw [hstep]
    exact (List.append_nil _).symm
  · rw [hstep, Service.effective, he, Option.bind_some, ← effect_published]
    exact count_published _ e
  · rw [hstep, Service.effective, he]
    cases applied with
    | false => exact (List.append_nil _).symm
    | true => exact effect_published s e
  · rw [hstep]
    cases he : s.effective a with
    | none => exact (List.append_nil _).symm
    | some e => rw [Option.bind_some, publishes_of_not_awaits (hidle e he), Option.toList_none, List.append_nil]

/-- The execution whose call takes effect is one of the service. -/
theorem mem_execs_of_effective {s : Service} {a : Action} {e : Exec} (h : s.effective a = some e) : e ∈ s.execs := by
  cases a with
  | deliver uplink now => cases h
  | resolve i => exact List.mem_of_getElem? h
  | reject i applied =>
    cases applied with
    | false => cases h
    | true => exact List.mem_of_getElem? h

/-! ## Inserting a row -/

/-- The keys of rows. -/
abbrev readingKeys (rows : List ReadingPayload) : List (String × ℤ) := rows.map ReadingPayload.id

theorem insertReading_eq (rows : List ReadingPayload) (p : ReadingPayload) :
    insertReading rows p = Table.insertNew ReadingPayload.id rows p := by
  unfold insertReading Table.insertNew
  split_ifs
  · rfl
  · rfl

theorem insertReading_of_mem {rows : List ReadingPayload} {p : ReadingPayload} (h : p.id ∈ readingKeys rows) :
    insertReading rows p = rows := if_pos h

/-- No step takes a row away. -/
theorem readingKeys_step {dateParse : String → Option ℤ} {s : Service} {key : String × ℤ} (h : key ∈ readingKeys s.readings)
    (a : Action) : key ∈ readingKeys ((ingestion dateParse).step s a).1.readings := by
  rw [step_readings]
  cases (s.effective a).bind Exec.inserts with
  | none => exact h
  | some p =>
    rw [Option.elim_some, insertReading_eq]
    exact Table.mem_insertNew_iff.2 (Or.inl h)

end AirQuality

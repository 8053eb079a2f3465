import AirQuality.Ingestion.Service

/-!
# What the stores of ingestion hold

The readings and the configs in the stores and the executions of the service came with a message. `Service.Holds` is what is known
of all of them; a step keeps it if what it delivers has it.
-/

namespace AirQuality

variable {P P' : ReadingPayload → Prop} {Q Q' : DeviceConfig → Prop}

/-- What an execution works on has `P` if it is a reading, `Q` if it is a config. -/
def Exec.Carries (P : ReadingPayload → Prop) (Q : DeviceConfig → Prop) : Exec → Prop
  | .persisting p | .caching p | .publishing p | .ingested p => P p
  | .reporting c | .reported c => Q c
  | .ignored | .dropped _ => True

/-- Every reading of the service has `P` and every config has `Q`, and the entries are under their own devices. -/
structure Service.Holds (P : ReadingPayload → Prop) (Q : DeviceConfig → Prop) (s : Service) : Prop where
  execs : ∀ e ∈ s.execs, e.Carries P Q
  readings : ∀ p ∈ s.readings, P p
  latest : ∀ device, ∀ p ∈ s.latest device, p.reading.deviceId = device ∧ P p
  config : ∀ device, ∀ c ∈ s.config device, c.deviceId = device ∧ Q c
  published : ∀ p ∈ s.published, P p

theorem holds_start : (Service.start []).Holds P Q where
  execs := by
    intro e he
    cases he
  readings := by
    intro p hp
    cases hp
  latest := by
    intro device p hp
    cases hp
  config := by
    intro device c hc
    cases hc
  published := by
    intro p hp
    cases hp

theorem Exec.Carries.mono {e : Exec} (h : e.Carries P Q) (hP : ∀ p, P p → P' p) (hQ : ∀ c, Q c → Q' c) :
    e.Carries P' Q' := by
  cases e with
  | persisting p => exact hP p h
  | caching p => exact hP p h
  | publishing p => exact hP p h
  | ingested p => exact hP p h
  | reporting c => exact hQ c h
  | reported c => exact hQ c h
  | ignored => trivial
  | dropped reason => trivial

theorem Service.Holds.mono {s : Service} (h : s.Holds P Q) (hP : ∀ p, P p → P' p) (hQ : ∀ c, Q c → Q' c) :
    s.Holds P' Q' where
  execs := fun e he => (h.execs e he).mono hP hQ
  readings := fun p hp => hP p (h.readings p hp)
  latest := fun device p hp => ⟨(h.latest device p hp).1, hP p (h.latest device p hp).2⟩
  config := fun device c hc => ⟨(h.config device c hc).1, hQ c (h.config device c hc).2⟩
  published := fun p hp => hP p (h.published p hp)

/-- An execution that goes on works on what it worked on. -/
theorem carries_next {e : Exec} (h : e.Carries P Q) : e.next.Carries P Q := by
  cases e <;> exact h

/-! ## Steps -/

/-- The effect of an awaited call stores what its execution works on. -/
theorem holds_effect {s : Service} (h : s.Holds P Q) {e : Exec} (he : e.Carries P Q) : (s.effect e).Holds P Q := by
  cases e with
  | persisting p =>
    refine ⟨h.execs, fun q hq => ?_, h.latest, h.config, h.published⟩
    change q ∈ insertReading s.readings p at hq
    unfold insertReading at hq
    split_ifs at hq
    · exact h.readings q hq
    · rcases List.mem_append.1 hq with hq | hq
      · exact h.readings q hq
      · rw [List.mem_singleton.1 hq]
        exact he
  | caching p =>
    refine ⟨h.execs, h.readings, fun device q hq => ?_, h.config, h.published⟩
    change Function.update s.latest p.reading.deviceId (some p) device = some q at hq
    by_cases hdevice : device = p.reading.deviceId
    · subst hdevice
      rw [Function.update_self] at hq
      obtain rfl := Option.some.inj hq
      exact ⟨rfl, he⟩
    · rw [Function.update_of_ne hdevice] at hq
      exact h.latest device q hq
  | publishing p =>
    refine ⟨h.execs, h.readings, h.latest, h.config, fun q hq => ?_⟩
    rcases List.mem_append.1 hq with hq | hq
    · exact h.published q hq
    · rw [List.mem_singleton.1 hq]
      exact he
  | reporting c =>
    refine ⟨h.execs, h.readings, h.latest, fun device d hd => ?_, h.published⟩
    change Function.update s.config c.deviceId (some c) device = some d at hd
    by_cases hdevice : device = c.deviceId
    · subst hdevice
      rw [Function.update_self] at hd
      obtain rfl := Option.some.inj hd
      exact ⟨rfl, he⟩
    · rw [Function.update_of_ne hdevice] at hd
      exact h.config device d hd
  | _ => exact h

/-- The executions and the counters may change, as long as the executions carry what they should. -/
theorem holds_with_execs {s : Service} (h : s.Holds P Q) {execs : List Exec} (hexecs : ∀ e ∈ execs, e.Carries P Q)
    (ingested : List AqiCategory) (dropped : List DropReason) :
    { s with execs := execs, readingsIngested := ingested, readingsDropped := dropped }.Holds P Q :=
  ⟨hexecs, h.readings, h.latest, h.config, h.published⟩

/-- A step keeps what holds of the readings and the configs, if what a message brings has it. -/
theorem holds_step {dateParse : String → Option ℤ} {s : Service} (h : s.Holds P Q) {a : Action}
    (hdeliver : ∀ uplink now, a = .deliver uplink now → (handleUplink dateParse now uplink).exec.Carries P Q) :
    ((ingestion dateParse).step s a).1.Holds P Q := by
  have hset : ∀ {i : Nat} {e : Exec}, e.Carries P Q → ∀ f ∈ s.execs.set i e, f.Carries P Q := by
    intro i e he f hf
    rcases List.mem_or_eq_of_mem_set hf with hf | rfl
    · exact h.execs f hf
    · exact he
  rcases ingestion_cases dateParse s a with ⟨uplink, now, rfl, hstep⟩ | ⟨i, e, rfl, he, haw, hstep⟩ |
    ⟨i, e, applied, rfl, he, haw, hstep⟩ | ⟨-, hstep⟩
  · rw [hstep]
    refine holds_with_execs h (fun e he => ?_) s.readingsIngested _
    rcases List.mem_append.1 he with he | he
    · exact h.execs e he
    · rw [List.mem_singleton.1 he]
      exact hdeliver uplink now rfl
  · have hcarries := h.execs e (List.mem_of_getElem? he)
    rw [hstep]
    have heffect := holds_effect h hcarries
    refine ⟨hset (carries_next hcarries), ?_, ?_, ?_, ?_⟩
    · simpa using heffect.readings
    · simpa using heffect.latest
    · simpa using heffect.config
    · simpa using heffect.published
  · have hcarries := h.execs e (List.mem_of_getElem? he)
    have herror : ∀ f ∈ s.execs.set i (.dropped .error), f.Carries P Q :=
      hset (show Exec.Carries P Q (.dropped .error) from trivial)
    rw [hstep]
    cases applied with
    | false => exact holds_with_execs h herror s.readingsIngested _
    | true => exact holds_with_execs (holds_effect h hcarries) herror (s.effect e).readingsIngested _
  · rw [hstep]
    exact h

end AirQuality

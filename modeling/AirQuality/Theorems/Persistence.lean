import AirQuality.Ingestion.Cache

/-!
# Nothing is shown that was not stored

The insert into `readings` is the first call of an execution, and an execution goes on to the SET and the PUBLISH only if the
insert has returned. So every reading shown has its row, over every schedule; and since a row is found by its key, an uplink that
carries its own time adds no second row when it comes again.
-/

namespace AirQuality

/-- What `readings` can hold: the primary key tells rows apart. -/
abbrev ReadingsTable := { rows : List ReadingPayload // (readingKeys rows).Nodup }

/-- The reading of an execution whose insert has returned. -/
def Exec.persisted : Exec → Option ReadingPayload
  | .caching p | .publishing p | .ingested p => some p
  | _ => none

/-- Every reading shown, or about to be, has its row, and no two rows have the same key. -/
structure ShownStored (s : Service) : Prop where
  keys : (readingKeys s.readings).Nodup
  execs : ∀ e ∈ s.execs, ∀ p ∈ e.persisted, p.id ∈ readingKeys s.readings
  latest : ∀ device, ∀ p ∈ s.latest device, p.id ∈ readingKeys s.readings
  published : ∀ p ∈ s.published, p.id ∈ readingKeys s.readings

/-! ## One step -/

theorem persisted_handled (handled : Handled) : handled.exec.persisted = none := by cases handled <;> rfl

/-- Only the insert, returning, makes a reading count as persisted. -/
theorem persisted_next (e : Exec) : e.next.persisted = e.inserts.or e.persisted := by cases e <;> rfl

theorem persisted_of_latestWrite {e : Exec} {device : String} {p : ReadingPayload} (h : e.latestWrite device = some p) :
    e.persisted = some p := by
  cases e with
  | caching q =>
    rw [Exec.latestWrite] at h
    split_ifs at h
    exact h
  | _ => cases h

theorem persisted_of_publishes {e : Exec} {p : ReadingPayload} (h : e.publishes = some p) : e.persisted = some p := by
  cases e with
  | publishing q => exact h
  | _ => cases h

/-- A row that a step inserts is there. -/
theorem readingKeys_of_inserts {dateParse : String → Option ℤ} {s : Service} {a : Action} {e : Exec} {p : ReadingPayload}
    (he : s.effective a = some e) (hp : e.inserts = some p) :
    p.id ∈ readingKeys ((ingestion dateParse).step s a).1.readings := by
  rw [step_readings, he, Option.bind_some, hp, Option.elim_some, insertReading_eq]
  exact Table.mem_insertNew_iff.2 (Or.inr rfl)

theorem shownStored_step {dateParse : String → Option ℤ} {s : Service} (h : ShownStored s) (a : Action) :
    ShownStored ((ingestion dateParse).step s a).1 where
  keys := by
    rw [step_readings]
    cases (s.effective a).bind Exec.inserts with
    | none => exact h.keys
    | some p =>
      rw [Option.elim_some, insertReading_eq]
      exact Table.nodup_insertNew h.keys p
  execs := by
    intro e he p hp
    rcases mem_execs_step he with hold | ⟨handled, rfl⟩ | ⟨i, f, rfl, hf, -, rfl⟩ | rfl
    · exact readingKeys_step (h.execs e hold p hp) a
    · rw [persisted_handled] at hp
      cases hp
    · rw [persisted_next] at hp
      cases hinserts : f.inserts with
      | some q =>
        rw [hinserts] at hp
        obtain rfl := Option.some.inj hp
        exact readingKeys_of_inserts hf hinserts
      | none =>
        rw [hinserts, Option.none_or] at hp
        exact readingKeys_step (h.execs f (List.mem_of_getElem? hf) p hp) _
    · cases hp
  latest := by
    intro device p hp
    have hget : some p = ((latestEntry device).stepWrite s a).or (s.latest device) :=
      (Option.mem_def.1 hp).symm.trans ((latestEntry device).get_step dateParse s a)
    rcases Option.or_eq_some_iff.1 hget.symm with hwrite | ⟨-, hold⟩
    · obtain ⟨e, he, hwrite⟩ := Option.bind_eq_some_iff.1 hwrite
      exact readingKeys_step (h.execs e (mem_execs_of_effective he) p (persisted_of_latestWrite hwrite)) a
    · exact readingKeys_step (h.latest device p hold) a
  published := by
    intro p hp
    rw [step_published] at hp
    rcases List.mem_append.1 hp with hold | hnew
    · exact readingKeys_step (h.published p hold) a
    · rw [Option.mem_toList, Option.bind_eq_some_iff] at hnew
      obtain ⟨e, he, hpublishes⟩ := hnew
      exact readingKeys_step (h.execs e (mem_execs_of_effective he) p (persisted_of_publishes hpublishes)) a

theorem serviceAfter_shownStored (dateParse : String → Option ℤ) (rows : ReadingsTable) (as : List Action) :
    ShownStored (serviceAfter dateParse rows as) := by
  have hstart : ShownStored (Service.start rows) := by
    refine ⟨rows.2, ?_, ?_, ?_⟩
    · intro e he
      cases he
    · intro device p hp
      cases hp
    · intro p hp
      cases hp
  have hstep : ∀ s a, ShownStored s → ShownStored ((ingestion dateParse).step s a).1 := by
    intro s a hs
    exact shownStored_step hs a
  exact (ingestion dateParse).run_inv hstep hstart as

/-! ## An uplink that comes again -/

/-- The uplink carries a time that parses. -/
def ChirpStackUplink.ValidTime (dateParse : String → Option ℤ) (uplink : ChirpStackUplink) : Prop :=
  ∃ time timestamp, uplink.time = some time ∧ time ≠ "" ∧ dateParse time = some timestamp

/-- What becomes of an uplink with a valid time does not depend on when it is handled. -/
theorem handleUplink_now {dateParse : String → Option ℤ} {uplink : ChirpStackUplink} (h : uplink.ValidTime dateParse)
    (now now' : ℤ) : handleUplink dateParse now (some uplink) = handleUplink dateParse now' (some uplink) := by
  obtain ⟨time, timestamp, htime, hne, hparse⟩ := h
  have huplinkTime : ∀ now, uplinkTime dateParse now uplink.time = timestamp := by
    intro now
    simp [uplinkTime, htime, hne, hparse]
  simp only [handleUplink, handleTelemetry, handleConfigReport, readingOf, huplinkTime]

/-- The insert of execution `i`, if that is what it awaits, would find its row. -/
def InsertIdle (i : Nat) (s : Service) : Prop :=
  i < s.execs.length ∧ ∀ p, s.execs[i]? = some (.persisting p) → p.id ∈ readingKeys s.readings

theorem insertIdle_step {dateParse : String → Option ℤ} {i : Nat} {s : Service} (h : InsertIdle i s) (a : Action) :
    InsertIdle i ((ingestion dateParse).step s a).1 := by
  obtain ⟨hlt, hinsert⟩ := h
  refine ⟨?_, ?_⟩
  · rw [step_execs_length]
    exact Nat.lt_add_right _ hlt
  · intro p hp
    refine readingKeys_step (hinsert p ?_) a
    rcases step_execs dateParse s a with ⟨handled, -, -, hstep⟩ | ⟨j, returned, -, -, hstep⟩
    · rwa [hstep, List.getElem?_append_left hlt] at hp
    · rw [hstep, List.getElem?_modify] at hp
      obtain ⟨e, he, hafter⟩ := Option.map_eq_some_iff.1 hp
      by_cases hij : j = i
      · -- the execution has moved on, and no call leads back to the insert
        rw [if_pos hij] at hafter
        exact absurd hafter (after_ne_persisting e returned p)
      · rw [if_neg hij] at hafter
        rw [he, ← hafter]

/-- A step of such an execution leaves the rows as they are. -/
theorem readings_step_of_insertIdle {dateParse : String → Option ℤ} {i : Nat} {s : Service} (h : InsertIdle i s) {a : Action}
    (ha : a = .resolve i ∨ ∃ applied, a = .reject i applied) :
    ((ingestion dateParse).step s a).1.readings = s.readings := by
  rw [step_readings]
  cases hinserts : (s.effective a).bind Exec.inserts with
  | none => rfl
  | some p =>
    obtain ⟨e, he, hinsert⟩ := Option.bind_eq_some_iff.1 hinserts
    have hexec : s.execs[i]? = some e := by
      rcases ha with rfl | ⟨applied, rfl⟩
      · exact he
      · cases applied with
        | false => cases he
        | true => exact he
    cases e with
    | persisting q =>
      obtain rfl := Option.some.inj hinsert
      exact insertReading_of_mem (h.2 q hexec)
    | _ => cases hinsert

/-- An uplink whose reading is stored already is delivered with an insert that would find its row. -/
theorem insertIdle_deliver {dateParse : String → Option ℤ} {s : Service} {uplink : ChirpStackUplink}
    (h : uplink.ValidTime dateParse) {now : ℤ} {p : ReadingPayload}
    (hp : handleUplink dateParse now (some uplink) = .reading p) (now' : ℤ) (hmem : p.id ∈ readingKeys s.readings) :
    InsertIdle s.execs.length (s.deliver dateParse (some uplink) now') := by
  have hexecs : (s.deliver dateParse (some uplink) now').execs = s.execs ++ [.persisting p] := by
    rw [Service.deliver, handleUplink_now h now' now, hp]
    rfl
  refine ⟨by rw [hexecs, List.length_append]; exact Nat.lt_succ_self _, ?_⟩
  intro q hq
  rw [hexecs, List.getElem?_concat_length] at hq
  obtain rfl := Exec.persisting.inj (Option.some.inj hq)
  exact hmem

/-- Nothing is shown that was not stored. Over every schedule of messages, returns and failures, from any rows and empty caches:
1. every reading in a latest-value entry or in a published event has a row with its sensor and time;
2. no two rows have the same sensor and time;
3. an uplink with a valid time, delivered again in any state in which its reading has been stored, leaves the rows as they are,
   at its arrival and at every later step of its execution, whatever comes in between. -/
theorem shown_is_stored (dateParse : String → Option ℤ) (rows : ReadingsTable) (as : List Action) :
    (∀ device, ∀ p ∈ (serviceAfter dateParse rows as).latest device,
      p.id ∈ readingKeys (serviceAfter dateParse rows as).readings) ∧
    (∀ p ∈ (serviceAfter dateParse rows as).published, p.id ∈ readingKeys (serviceAfter dateParse rows as).readings) ∧
    (readingKeys (serviceAfter dateParse rows as).readings).Nodup ∧
    (∀ (s : Service) (uplink : ChirpStackUplink) (now now' : ℤ) (p : ReadingPayload), uplink.ValidTime dateParse →
      handleUplink dateParse now (some uplink) = .reading p → p.id ∈ readingKeys s.readings →
      (s.deliver dateParse (some uplink) now').readings = s.readings ∧
      ∀ bs a, a = .resolve s.execs.length ∨ (∃ applied, a = .reject s.execs.length applied) →
        ((ingestion dateParse).step ((ingestion dateParse).run (s.deliver dateParse (some uplink) now') bs) a).1.readings =
          ((ingestion dateParse).run (s.deliver dateParse (some uplink) now') bs).readings) := by
  have hinv := serviceAfter_shownStored dateParse rows as
  refine ⟨hinv.latest, hinv.published, hinv.keys, ?_⟩
  intro s uplink now now' p hvalid hp hmem
  refine ⟨rfl, ?_⟩
  intro bs a ha
  have hstep : ∀ t b, InsertIdle s.execs.length t → InsertIdle s.execs.length ((ingestion dateParse).step t b).1 := by
    intro t b ht
    exact insertIdle_step ht b
  have hidle := (ingestion dateParse).run_inv hstep (insertIdle_deliver hvalid hp now' hmem) bs
  exact readings_step_of_insertIdle hidle ha

end AirQuality

import AirQuality.Ingestion.Service
import Mathlib.Logic.Basic

/-!
# What a dropped uplink leaves behind

One execution of `handleUplink`, run from the arrival of its message to its end in any state of the service, with at most one
failing call. It counts its uplink once; but the `catch` takes nothing back, so an uplink counted as dropped leaves behind what
the calls before the failing one have written.
-/

namespace AirQuality

/-- The three calls of an execution that ingests a reading, in order. -/
inductive Call where
  | insert
  | set
  | publish
deriving DecidableEq

/-- A call that fails, having taken effect or not. -/
structure Fault where
  call : Call
  applied : Bool
deriving DecidableEq

/-- The steps of execution `i` after its message has arrived, if `fault` is the call that fails. -/
def callsOf (i : Nat) : Option Fault → List Action
  | none => [.resolve i, .resolve i, .resolve i]
  | some ⟨.insert, applied⟩ => [.reject i applied]
  | some ⟨.set, applied⟩ => [.resolve i, .reject i applied]
  | some ⟨.publish, applied⟩ => [.resolve i, .resolve i, .reject i applied]

/-- The call takes effect, if `fault` is the call that fails. -/
def took : Option Fault → Call → Bool
  | none, _ => true
  | some ⟨.insert, applied⟩, .insert => applied
  | some ⟨.insert, _⟩, _ => false
  | some ⟨.set, _⟩, .insert => true
  | some ⟨.set, applied⟩, .set => applied
  | some ⟨.set, _⟩, .publish => false
  | some ⟨.publish, applied⟩, .publish => applied
  | some ⟨.publish, _⟩, _ => true

/-- What the call would do is done already. -/
def InPlace (s : Service) (p : ReadingPayload) : Call → Prop
  | .insert => p.id ∈ readingKeys s.readings
  | .set => s.latest p.reading.deviceId = some p
  | .publish => False

section

variable (dateParse : String → Option ℤ)

/-- The service after an uplink has been handled, from its arrival to the end of its execution. -/
def Service.handle (s : Service) (uplink : ChirpStackUplink) (now : ℤ) (fault : Option Fault) : Service :=
  (ingestion dateParse).run (s.deliver dateParse (some uplink) now) (callsOf s.execs.length fault)

/-- Between `s` and `s'` the uplink was ingested: its reading has its row, is the latest value and was published, and
`readings_ingested` rose by one. -/
def Ingested (uplink : ChirpStackUplink) (now : ℤ) (s s' : Service) : Prop :=
  ∃ p, handleUplink dateParse now (some uplink) = .reading p ∧ p.id ∈ readingKeys s'.readings ∧
    s'.latest p.reading.deviceId = some p ∧ s'.published = s.published ++ [p] ∧
    s'.readingsIngested = s.readingsIngested ++ [p.aqiCategory]

/-- Between `s` and `s'` an uplink was dropped: `readings_dropped` rose by one, and the rows, the latest values and the channel are
as they were. -/
def Dropped (s s' : Service) : Prop :=
  (∃ reason, s'.readingsDropped = s.readingsDropped ++ [reason]) ∧ s'.readings = s.readings ∧ s'.latest = s.latest ∧
    s'.published = s.published

/-- Between `s` and `s'` exactly one of the two counters rose, by one. -/
def CountedOnce (s s' : Service) : Prop :=
  (s'.readingsIngested.length = s.readingsIngested.length + 1 ∧ s'.readingsDropped = s.readingsDropped) ∨
    (s'.readingsDropped.length = s.readingsDropped.length + 1 ∧ s'.readingsIngested = s.readingsIngested)

/-- Dropped means dropped: the uplink was either ingested or dropped, and counted once. -/
def DroppedMeansDropped (uplink : ChirpStackUplink) (now : ℤ) (s s' : Service) : Prop :=
  Xor (Ingested dateParse uplink now s s') (Dropped s s') ∧ CountedOnce s s'

end

/-! ## The steps of one execution -/

/-- The stores, the counters and the execution after an uplink that carries a reading has been handled. -/
theorem handle_reading {dateParse : String → Option ℤ} {uplink : ChirpStackUplink} {now : ℤ} {p : ReadingPayload}
    (hp : handleUplink dateParse now (some uplink) = .reading p) (s : Service) (fault : Option Fault) :
    s.handle dateParse uplink now fault =
      { s with
        readings := if took fault .insert = true then insertReading s.readings p else s.readings
        latest := if took fault .set = true then Function.update s.latest p.reading.deviceId (some p) else s.latest
        published := s.published ++ if took fault .publish = true then [p] else []
        readingsIngested := s.readingsIngested ++ if fault = none then [p.aqiCategory] else []
        readingsDropped := s.readingsDropped ++ if fault = none then [] else [.error]
        execs := s.execs ++ [if fault = none then .ingested p else .dropped .error] } := by
  have hdeliver : s.deliver dateParse (some uplink) now = { s with execs := s.execs ++ [.persisting p] } := by
    simp [Service.deliver, hp, Handled.exec]
  unfold Service.handle
  rw [hdeliver]
  rcases fault with _ | ⟨_ | _ | _, applied⟩
  · simp [callsOf, took, ingestion, Service.resolve, Exec.awaits, Exec.next, Service.effect, Service.count]
  · cases applied <;> simp [callsOf, took, ingestion, Service.reject, Exec.awaits, Service.effect]
  · cases applied <;>
      simp [callsOf, took, ingestion, Service.resolve, Service.reject, Exec.awaits, Exec.next, Service.effect, Service.count]
  · cases applied <;>
      simp [callsOf, took, ingestion, Service.resolve, Service.reject, Exec.awaits, Exec.next, Service.effect, Service.count]

/-- An uplink that is dropped before its first call leaves everything else as it was. -/
theorem handle_dropped {dateParse : String → Option ℤ} {uplink : ChirpStackUplink} {now : ℤ} {reason : DropReason}
    (h : handleUplink dateParse now (some uplink) = .dropped reason) (s : Service) (fault : Option Fault) :
    s.handle dateParse uplink now fault =
      { s with execs := s.execs ++ [.dropped reason], readingsDropped := s.readingsDropped ++ [reason] } := by
  have hdeliver : s.deliver dateParse (some uplink) now =
      { s with execs := s.execs ++ [.dropped reason], readingsDropped := s.readingsDropped ++ [reason] } := by
    simp [Service.deliver, h, Handled.exec]
  unfold Service.handle
  rw [hdeliver]
  rcases fault with _ | ⟨_ | _ | _, applied⟩
  · simp [callsOf, ingestion, Service.resolve, Exec.awaits]
  · simp [callsOf, ingestion, Service.reject, Exec.awaits]
  · simp [callsOf, ingestion, Service.resolve, Service.reject, Exec.awaits]
  · simp [callsOf, ingestion, Service.resolve, Service.reject, Exec.awaits]

/-- A telemetry uplink is inserted or dropped. -/
theorem telemetry_cases (dateParse : String → Option ℤ) {uplink : ChirpStackUplink} (hport : uplink.fPort = some 2) (now : ℤ) :
    (∃ p, handleUplink dateParse now (some uplink) = .reading p) ∨
      ∃ reason, handleUplink dateParse now (some uplink) = .dropped reason := by
  rw [handleUplink_telemetry dateParse now hport, handleTelemetry]
  cases decodeUplink (bufferFromBase64 uplink.data) with
  | error e => exact Or.inr ⟨_, rfl⟩
  | ok decoded =>
    dsimp only
    split_ifs
    · exact Or.inr ⟨_, rfl⟩
    · exact Or.inr ⟨_, rfl⟩
    · exact Or.inl ⟨_, rfl⟩
    · exact Or.inr ⟨_, rfl⟩

/-! ## When dropped means dropped -/

/-- After a failing call the stores are as they were exactly if every call that took effect was done already. -/
theorem stores_unchanged_iff (s : Service) (p : ReadingPayload) (fault : Option Fault) :
    ((if took fault .insert = true then insertReading s.readings p else s.readings) = s.readings ∧
      (if took fault .set = true then Function.update s.latest p.reading.deviceId (some p) else s.latest) = s.latest ∧
      (s.published ++ if took fault .publish = true then [p] else []) = s.published) ↔
    ∀ call, took fault call = true → InPlace s p call := by
  have hcalls : (∀ call, took fault call = true → InPlace s p call) ↔
      (took fault .insert = true → InPlace s p .insert) ∧ (took fault .set = true → InPlace s p .set) ∧
        (took fault .publish = true → InPlace s p .publish) := by
    constructor
    · intro h
      exact ⟨h _, h _, h _⟩
    · intro h call
      obtain ⟨h₁, h₂, h₃⟩ := h
      cases call with
      | insert => exact h₁
      | set => exact h₂
      | publish => exact h₃
  rw [hcalls]
  refine and_congr ?_ (and_congr ?_ ?_)
  · cases took fault .insert with
    | true =>
      simp only [if_true, true_imp_iff, InPlace, insertReading_eq]
      exact Table.insertNew_eq_self_iff
    | false => simp
  · cases took fault .set with
    | true =>
      simp only [if_true, true_imp_iff, InPlace, Function.update_eq_self_iff]
      exact eq_comm
    | false => simp
  · cases took fault .publish with
    | true => simp [InPlace]
    | false => simp

/-- When dropped means dropped. For every telemetry uplink, handled in any state of the service, with no call failing or any one
call failing, applied or not: the execution ends, it is counted once, and it has exactly one of the two outcomes if and only if
no call fails, or every call of it that took effect was done already: the insert found its row, the SET the entry it writes, and
nothing was published. -/
theorem dropped_means_dropped_iff (dateParse : String → Option ℤ) (s : Service) (uplink : ChirpStackUplink) (now : ℤ)
    (fault : Option Fault) (hport : uplink.fPort = some 2) :
    (∃ e, (s.handle dateParse uplink now fault).execs[s.execs.length]? = some e ∧ e.awaits = false) ∧
    CountedOnce s (s.handle dateParse uplink now fault) ∧
    (DroppedMeansDropped dateParse uplink now s (s.handle dateParse uplink now fault) ↔
      ∀ p, handleUplink dateParse now (some uplink) = .reading p → fault ≠ none →
        ∀ call, took fault call = true → InPlace s p call) := by
  rcases telemetry_cases dateParse hport now with ⟨p, hp⟩ | ⟨reason, hreason⟩
  · have hreading : ∀ q, handleUplink dateParse now (some uplink) = .reading q ↔ q = p := by
      intro q
      rw [hp, Handled.reading.injEq, eq_comm]
    unfold DroppedMeansDropped Ingested Dropped CountedOnce
    simp only [hreading, handle_reading hp, forall_eq, exists_eq_left]
    cases fault with
    | none =>
      have hrow : p.id ∈ readingKeys (insertReading s.readings p) := by
        rw [insertReading_eq]
        exact Table.mem_insertNew_iff.2 (Or.inr rfl)
      simp [took, Xor, Exec.awaits, hrow]
    | some f =>
      rw [← stores_unchanged_iff]
      simp [Xor, Exec.awaits]
  · have hreading : ∀ q, ¬handleUplink dateParse now (some uplink) = .reading q := by
      intro q
      rw [hreason]
      exact nofun
    unfold DroppedMeansDropped Ingested Dropped CountedOnce
    simp only [hreading, handle_dropped hreason]
    simp [Xor, Exec.awaits]

/-- If the insert fails without effect, the uplink is dropped and nothing is left behind. -/
theorem dropped_means_dropped_iff_insert :
    DroppedMeansDropped (fun _ => none) .sample 0 (Service.start [])
      ((Service.start []).handle (fun _ => none) .sample 0 (some ⟨.insert, false⟩)) := by
  refine (dropped_means_dropped_iff (fun _ => none) (Service.start []) .sample 0 (some ⟨.insert, false⟩) rfl).2.2.2 ?_
  intro p _ _ call htook
  cases call with
  | _ => cases htook

/-- Dropped does not mean dropped: the insert takes effect, the SET fails, and the uplink is counted as dropped with its row in
`readings`. -/
theorem dropped_means_dropped_false :
    ¬∀ (dateParse : String → Option ℤ) (s : Service) (uplink : ChirpStackUplink) (now : ℤ) (fault : Option Fault),
      uplink.fPort = some 2 → DroppedMeansDropped dateParse uplink now s (s.handle dateParse uplink now fault) := by
  intro h
  have hrow : ((Service.start []).handle (fun _ => none) .sample 0 (some ⟨.set, false⟩)).readings ≠ [] := by decide +kernel
  have hcount : ((Service.start []).handle (fun _ => none) .sample 0 (some ⟨.set, false⟩)).readingsIngested = [] := by
    decide +kernel
  obtain ⟨⟨⟨p, -, -, -, -, hingested⟩, -⟩ | ⟨⟨-, hreadings, -⟩, -⟩, -⟩ :=
    h (fun _ => none) (Service.start []) .sample 0 (some ⟨.set, false⟩) rfl
  · rw [hcount] at hingested
    cases hingested
  · exact hrow hreadings

end AirQuality

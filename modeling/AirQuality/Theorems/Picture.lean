import AirQuality.Dashboard.Page
import AirQuality.Dashboard.Stats

/-!
# The live picture does not depend on the order of arrival

The latest readings after any deliveries, live or in batches, in any order and with any duplicates: what they are is settled by
which readings came, and so is everything that is computed from them.
-/

namespace AirQuality

open Dashboard

/-- The readings that came, in the order they came. -/
def delivered (es : List Delivery) : List Reading := es.flatMap Delivery.readings

/-- No two readings of a sensor have the same time. -/
def TimesDistinct (readings : List Reading) : Prop :=
  ∀ a ∈ readings, ∀ b ∈ readings, a.sensorId = b.sensorId → a.time = b.time → a = b

/-! ## What a delivery does to the latest readings -/

/-- A delivery takes its readings in one after another, keeping the newer. -/
theorem deliver_latest (st : AirStore) (e : Delivery) :
    (st.deliver e).latest = e.readings.foldl (Newest.put Reading.sensorId Reading.time) st.latest := by
  cases e with
  | live reading => rw [AirStore.deliver, applyReading_eq]; rfl
  | latest caller readings => rw [AirStore.deliver, answered_latest, applyAll_eq]; rfl

/-- A run takes in what it was delivered. -/
theorem run_latest (st : AirStore) (es : List Delivery) :
    (pictureMachine.run st es).latest = (delivered es).foldl (Newest.put Reading.sensorId Reading.time) st.latest := by
  induction es generalizing st with
  | nil => rfl
  | cons e es ih =>
    have hstep := ih (st.deliver e)
    rw [deliver_latest, ← List.foldl_append] at hstep
    exact hstep

/-! ## The picture -/

/-- Order of arrival does not matter. For any two sequences of deliveries of the same readings, whose times are distinct per
sensor:
1. the latest readings are the same, and of each sensor that of the greatest time;
2. so the rows, the summary of the city and those of the neighbourhoods are the same at the same time and of the same sensors.

And a reading that is applied, and a delivery of any run, never set the time of a latest reading back. -/
theorem picture_order_independent :
    (∀ es es' : List Delivery, TimesDistinct (delivered es) → (∀ r, r ∈ delivered es ↔ r ∈ delivered es') →
      (pictureMachine.run AirStore.init es).latest = (pictureMachine.run AirStore.init es').latest ∧
      (∀ sensorId r, (pictureMachine.run AirStore.init es).latest sensorId = some r ↔
        r ∈ delivered es ∧ r.sensorId = sensorId ∧ ∀ b ∈ delivered es, b.sensorId = sensorId → b.time ≤ r.time) ∧
      ∀ (sensors : List Sensor) (now : ℚ),
        rows sensors (pictureMachine.run AirStore.init es).latest now =
          rows sensors (pictureMachine.run AirStore.init es').latest now ∧
        summarise (rows sensors (pictureMachine.run AirStore.init es).latest now) =
          summarise (rows sensors (pictureMachine.run AirStore.init es').latest now) ∧
        groupByNeighborhood (rows sensors (pictureMachine.run AirStore.init es).latest now) =
          groupByNeighborhood (rows sensors (pictureMachine.run AirStore.init es').latest now)) ∧
    (∀ (st : AirStore) (reading : Reading) (live : Bool) (sensorId : String) (c : Reading), st.latest sensorId = some c →
      ∃ c', (st.applyReading reading live).latest sensorId = some c' ∧ c.time ≤ c'.time) ∧
    ∀ (es : List Delivery) (e : Delivery) (sensorId : String) (c : Reading),
      (pictureMachine.run AirStore.init es).latest sensorId = some c →
      ∃ c', (pictureMachine.run AirStore.init (es ++ [e])).latest sensorId = some c' ∧ c.time ≤ c'.time := by
  refine ⟨fun es es' hdistinct hsame => ?_, fun st reading live sensorId c hc => ?_, fun es e sensorId c hc => ?_⟩
  · have hlatest : (pictureMachine.run AirStore.init es).latest = (pictureMachine.run AirStore.init es').latest := by
      rw [run_latest, run_latest]
      exact Newest.foldl_put_congr hdistinct hsame
    refine ⟨hlatest, fun sensorId r => ?_, fun sensors now => ?_⟩
    · rw [run_latest]
      exact Newest.foldl_put_eq_some_iff hdistinct
    · rw [hlatest]
      exact ⟨rfl, rfl, rfl⟩
  · rw [applyReading_eq]
    exact Newest.put_time_le hc reading
  · rw [run_latest, delivered, List.flatMap_append, List.foldl_append]
    rw [run_latest] at hc
    exact Newest.foldl_put_time_le hc _

/-- Three readings, live or polled, in two orders and one of them twice. -/
theorem picture_order_independent_shuffled :
    (pictureMachine.run AirStore.init
      [.latest .load [readingAt "a" 1], .live (readingAt "a" 3), .latest .poll [readingAt "a" 2]]).latest =
    (pictureMachine.run AirStore.init
      [.live (readingAt "a" 3), .live (readingAt "a" 1), .latest .syncLatest [readingAt "a" 2, readingAt "a" 3]]).latest :=
  (picture_order_independent.1 _ _ (by unfold TimesDistinct; decide +kernel)
    (fun r => by simp only [delivered, Delivery.readings, List.flatMap_cons, List.flatMap_nil]; grind)).1

end AirQuality

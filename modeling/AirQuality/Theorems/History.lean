import AirQuality.Dashboard.Page

/-!
# Open raw histories

An open history is in order of time as long as every live reading put on it is newer than its last. The store compares a live
reading with the latest one of its sensor and not with the history, so one that an answer of the server had already brought is put
on a second time (`raw_history_series_false`). `raw_history_series_iff` says exactly when every history stays in order.
-/

namespace AirQuality

/-- The readings of every open history strictly increase in time. -/
def AirStore.HistoriesInOrder (st : AirStore) : Prop :=
  ∀ sensorId history, st.rawHistory sensorId = some history → Series Reading.time history.readings

/-- The answers of the server strictly increase in time. -/
def HistoryEvent.AnswerInOrder : HistoryEvent → Prop
  | .answer _ readings => Series Reading.time readings
  | _ => True

/-- A live reading that the store does not have yet is newer than the last of the history of its sensor, if that is open. -/
def HistoryEvent.LiveInOrder (p : HistoryPage) : HistoryEvent → Prop
  | .live reading => ¬ p.store.Has reading → ∀ history, p.store.rawHistory reading.sensorId = some history →
      NewerThanLast Reading.time history.readings reading
  | _ => True

theorem historiesInOrder_init : AirStore.init.HistoriesInOrder := by
  intro sensorId history h
  cases h

/-- A history a live reading is put on stays in order exactly if the reading is newer than its last. -/
theorem series_push_iff {history : RawHistory} (h : Series Reading.time history.readings) (reading : Reading) :
    Series Reading.time (history.push reading).readings ↔ NewerThanLast Reading.time history.readings reading := by
  refine series_concat_dropWhile_iff h ?_
  unfold hour
  omega

/-- A reading that is not live leaves the histories as they are. -/
theorem historiesInOrder_polled {st : AirStore} (h : st.HistoriesInOrder) (reading : Reading) :
    (st.applyReading reading false).HistoriesInOrder := by
  intro sensorId history hh
  rw [applyReading_rawHistory, if_neg (fun hc => Bool.false_ne_true hc.1)] at hh
  exact h sensorId history hh

/-- A live reading keeps the histories in order exactly if the store has it or it is newer than the last of its history. -/
theorem historiesInOrder_live_iff {st : AirStore} (h : st.HistoriesInOrder) (reading : Reading) :
    (st.applyReading reading true).HistoriesInOrder ↔
      (¬ st.Has reading → ∀ history, st.rawHistory reading.sensorId = some history →
        NewerThanLast Reading.time history.readings reading) := by
  constructor
  · intro hin hnew history hopen
    have hpush := hin reading.sensorId (history.push reading) (by
      rw [applyReading_rawHistory, if_pos ⟨rfl, hnew, rfl⟩, hopen, Option.map_some])
    exact (series_push_iff (h _ _ hopen) reading).1 hpush
  · intro hnew sensorId history' hh
    rw [applyReading_rawHistory] at hh
    split at hh
    · rename_i hc
      obtain ⟨-, hhas, rfl⟩ := hc
      obtain ⟨history, hopen, rfl⟩ := Option.map_eq_some_iff.1 hh
      exact (series_push_iff (h _ _ hopen) reading).2 (hnew hhas history hopen)
    · exact h sensorId history' hh

/-- An answer in order, with what arrived after its last reading, is in order. -/
theorem historiesInOrder_loadReadings {st : AirStore} (h : st.HistoriesInOrder) (sensorId : String) (hours : Nat)
    {readings : List Reading} (hr : Series Reading.time readings) :
    (st.loadReadings sensorId hours readings).HistoriesInOrder := by
  intro s history hh
  unfold AirStore.loadReadings at hh
  by_cases hs : s = sensorId
  · subst hs
    simp only [Function.update_self, Option.some.injEq] at hh
    subst hh
    have hlast : ∀ b, readings.getLast? = some b → b.time ≤ (readings.getLast?.map (·.time)).getD 0 := by
      intro b hb
      rw [hb]
      exact le_refl b.time
    cases hopen : st.rawHistory s with
    | none => simpa using hr
    | some old => exact hr.append_filter (h s old hopen) hlast
  · simp only [Function.update_of_ne hs] at hh
    exact h s history hh

/-- A step keeps the histories in order exactly if it is not a live reading out of order. -/
theorem historiesInOrder_step_iff (p : HistoryPage) (e : HistoryEvent) (he : e.AnswerInOrder)
    (h : p.store.HistoriesInOrder) : (p.step e).store.HistoriesInOrder ↔ e.LiveInOrder p := by
  cases e with
  | live reading => exact historiesInOrder_live_iff h reading
  | polled reading => exact iff_of_true (historiesInOrder_polled h reading) trivial
  | loadReadings sensorId hours => exact iff_of_true h trivial
  | answer k readings =>
    refine iff_of_true ?_ trivial
    simp only [HistoryPage.step]
    split
    · exact historiesInOrder_loadReadings h _ _ he
    · exact h

/-- With answers in order, every history is in order in every state a run reaches exactly if every live reading the store takes in
while the history of its sensor is open is newer than the last of that history. -/
theorem raw_history_series_iff (es : List HistoryEvent) (hes : ∀ e ∈ es, e.AnswerInOrder) :
    (∀ k, (historyMachine.run HistoryPage.init (es.take k)).store.HistoriesInOrder) ↔
      historyMachine.Along (fun p e => e.LiveInOrder p) HistoryPage.init es :=
  historyMachine.inv_take_iff_along historiesInOrder_step_iff historiesInOrder_init hes

/-- A history is opened, and a reading after it is live. -/
theorem raw_history_series_iff_appends :
    (historyMachine.run HistoryPage.init
      [.loadReadings "a" 24, .answer 0 [readingAt "a" 1000], .live (readingAt "a" 2000)]).store.HistoriesInOrder := by
  have hes : ∀ e ∈ [HistoryEvent.loadReadings "a" 24, .answer 0 [readingAt "a" 1000], .live (readingAt "a" 2000)],
      e.AnswerInOrder := by
    simp [HistoryEvent.AnswerInOrder, Series]
  refine (raw_history_series_iff _ hes).2 ⟨trivial, trivial, ?_, trivial⟩ 3
  intro _ history hopen
  obtain rfl : ⟨24, [readingAt "a" 1000]⟩ = history := Option.some.inj hopen
  decide

/-- The answer already has the reading that the socket then gives: the history has it twice. -/
theorem raw_history_series_false :
    ¬ ∀ es : List HistoryEvent, (∀ e ∈ es, e.AnswerInOrder) →
      (historyMachine.run HistoryPage.init es).store.HistoriesInOrder := by
  intro h
  have hin := h [.polled (readingAt "a" 500), .loadReadings "a" 24, .answer 0 [readingAt "a" 500, readingAt "a" 1000],
    .live (readingAt "a" 1000)] (by simp [HistoryEvent.AnswerInOrder, Series, readingAt]) "a"
    ⟨24, [readingAt "a" 500, readingAt "a" 1000, readingAt "a" 1000]⟩ rfl
  revert hin
  decide

end AirQuality

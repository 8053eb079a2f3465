import AirQuality.Dashboard.MapLimit
import AirQuality.Lib.Table
import Mathlib.Data.List.Nodup
import Mathlib.Data.List.Perm.Subperm

/-!
# The bounded parallel map on every schedule

What `mapLimit` keeps whatever the order in which its tasks settle and its workers go on, and what it has come to once nothing is
left to happen.
-/

namespace AirQuality.Dashboard

variable {α β ε : Type}

namespace MapLimit

/-- The calls whose task has not completed. -/
def inFlight (s : MapLimit α β ε) : List (TaskCall α β ε) := s.calls.filter fun c => c.promise.isNone

/-- Every task has completed, and every worker has gone on. -/
def AtRest (items : List α) (s : MapLimit α β ε) : Prop :=
  s.inFlight = [] ∧ ∀ k, ((mapLimitMachine items).step s (.resume k)).2 = false

/-- A call is awaited, or its value has been put in its place, or a worker threw its reason. -/
def Accounted (results : List (Option β)) (workers : List (Worker ε)) (i : Nat) (c : TaskCall α β ε) : Prop :=
  .awaiting i i ∈ workers ∨ (∃ v, c.promise = some (.ok v) ∧ results[i]? = some (some v)) ∨
    ∃ e, c.promise = some (.error e) ∧ .threw e ∈ workers

/-- What holds of the calls and the workers between two events: call `i` was made for item `i`. -/
structure Inv (items : List α) (s : MapLimit α β ε) : Prop where
  results_length : s.results.length = items.length
  next_eq : s.next = s.calls.length
  call : ∀ i c, s.calls[i]? = some c → c.index = i ∧ items[i]? = some c.item ∧ Accounted s.results s.workers i c
  awaiting : ∀ index call, .awaiting index call ∈ s.workers → index = call ∧ call < s.calls.length
  threw : ∀ e, .threw e ∈ s.workers → ∃ c ∈ s.calls, c.promise = some (.error e)
  returned : .returned ∈ s.workers → items.length ≤ s.calls.length

/-- What the promise says of the workers. -/
def PromiseSpec (s : MapLimit α β ε) : Prop :=
  match s.promise with
  | none => (∀ e, .threw e ∉ s.workers) ∧ ∃ w ∈ s.workers, w ≠ .returned
  | some (.error e) => .threw e ∈ s.workers
  | some (.ok r) => (∀ w ∈ s.workers, w = .returned) ∧ r = s.results

/-- The events still to come, if all tasks succeed. -/
def remaining (items : List α) (s : MapLimit α β ε) : Nat :=
  2 * (items.length - s.calls.length) + s.inFlight.length + s.workers.countP Worker.isAwaiting

/-! ## The loop of a worker -/

theorem loop_cases (items : List α) (s : MapLimit α β ε) :
    (∃ item, items[s.next]? = some item ∧ s.loop items =
      ({ s with next := s.next + 1, calls := s.calls ++ [{ index := s.next, item, promise := none }] },
        .awaiting s.next s.calls.length)) ∨
    items.length ≤ s.next ∧ s.loop items = (s, .returned) := by
  unfold loop
  cases h : items[s.next]? with
  | some item => exact .inl ⟨item, rfl, rfl⟩
  | none => exact .inr ⟨List.getElem?_eq_none_iff.1 h, rfl⟩

theorem Accounted.mono {results : List (Option β)} {ws ws' : List (Worker ε)} {i : Nat} {c : TaskCall α β ε}
    (h : Accounted results ws i c) (hws : ∀ w ∈ ws, w ∈ ws') : Accounted results ws' i c :=
  h.imp (hws _) (Or.imp id fun ⟨e, he, hmem⟩ => ⟨e, he, hws _ hmem⟩)

/-- A worker that goes on in its loop keeps what holds of the calls: `ws` are the workers behind it. -/
theorem Inv.loop {items : List α} {s : MapLimit α β ε} (h : Inv items s) {ws : List (Worker ε)}
    (hmem : ∀ w ∈ ws, w ∈ s.workers ∨ w = (s.loop items).2) (hself : (s.loop items).2 ∈ ws)
    (hcalls : ∀ i c, s.calls[i]? = some c → Accounted s.results ws i c) :
    Inv items { (s.loop items).1 with workers := ws } := by
  rcases s.loop_cases items with ⟨item, hitem, heq⟩ | ⟨hlast, heq⟩
  · rw [heq] at hmem hself ⊢
    refine ⟨h.results_length, by simp [h.next_eq], fun i c hc => ?_, fun index call hw => ?_, fun e hw => ?_, fun hw => ?_⟩
    · rcases Nat.lt_or_ge i s.calls.length with hi | hi
      · rw [List.getElem?_append_left hi] at hc
        exact ⟨(h.call i c hc).1, (h.call i c hc).2.1, hcalls i c hc⟩
      · obtain ⟨rfl, rfl⟩ : i = s.calls.length ∧ c = { index := s.next, item, promise := none } := by
          rw [List.getElem?_append_right hi, List.getElem?_singleton] at hc
          split_ifs at hc with hzero
          exact ⟨by omega, (Option.some.inj hc).symm⟩
        exact ⟨h.next_eq, h.next_eq ▸ hitem, .inl (by rw [h.next_eq] at hself; exact hself)⟩
    · rcases hmem _ hw with hw | hw
      · obtain ⟨heq', hlt⟩ := h.awaiting _ _ hw
        exact ⟨heq', by simp; omega⟩
      · obtain ⟨rfl, rfl⟩ := Worker.awaiting.inj hw
        exact ⟨h.next_eq, by simp⟩
    · obtain ⟨c, hc, he⟩ := h.threw e ((hmem _ hw).resolve_right (by simp))
      exact ⟨c, List.mem_append_left _ hc, he⟩
    · have hle := h.returned ((hmem _ hw).resolve_right (by simp))
      exact hle.trans (by simp)
  · rw [heq] at hmem hself ⊢
    refine ⟨h.results_length, h.next_eq, fun i c hc => ⟨(h.call i c hc).1, (h.call i c hc).2.1, hcalls i c hc⟩,
      fun index call hw => h.awaiting _ _ ((hmem _ hw).resolve_right (by simp)),
      fun e hw => h.threw e ((hmem _ hw).resolve_right (by simp)), fun _ => h.next_eq ▸ hlast⟩

/-! ## What the steps keep -/

theorem Inv.init (items : List α) : Inv items (init items : MapLimit α β ε) := by
  constructor <;> simp [MapLimit.init]

theorem Inv.awaitAll {items : List α} {s : MapLimit α β ε} (h : Inv items s) : Inv items s.awaitAll := by
  unfold MapLimit.awaitAll
  repeat' split
  all_goals exact ⟨h.1, h.2, h.3, h.4, h.5, h.6⟩

theorem Inv.spawn {items : List α} {s : MapLimit α β ε} (h : Inv items s) : Inv items (s.spawn items) :=
  h.loop (fun w hw => by simpa using hw) (by simp)
    (fun i c hc => (h.call i c hc).2.2.mono fun w hw => List.mem_append_left _ hw)

theorem Inv.start (items : List α) (limit : ℤ) : Inv items (start items limit : MapLimit α β ε) := by
  refine Inv.awaitAll ?_
  generalize (min limit items.length).toNat = w
  induction w with
  | zero => exact Inv.init items
  | succ w ih =>
    rw [Function.iterate_succ_apply']
    exact ih.spawn

/-- When worker `k` goes on, its call is accounted for otherwise, and the others as before. -/
theorem Accounted.set {results results' : List (Option β)} {ws : List (Worker ε)} {k index : Nat} (w : Worker ε)
    (hk : ws[k]? = some (.awaiting index index)) (hresults : ∀ i ≠ index, results'[i]? = results[i]?) {i : Nat}
    {c : TaskCall α β ε} (h : Accounted results ws i c) (hindex : i = index → Accounted results' (ws.set k w) i c) :
    Accounted results' (ws.set k w) i c := by
  by_cases hi : i = index
  · exact hindex hi
  · rcases h with hmem | ⟨v, hv, hres⟩ | ⟨e, he, hmem⟩
    · refine .inl (Table.mem_set_of_ne hmem ?_ _)
      rw [hk]
      simpa using Ne.symm hi
    · exact .inr (.inl ⟨v, hv, by rw [hresults i hi, hres]⟩)
    · exact .inr (.inr ⟨e, he, Table.mem_set_of_ne hmem (by simp [hk]) _⟩)

theorem Inv.proceed {items : List α} {s : MapLimit α β ε} (h : Inv items s) {k index : Nat} {value : β} {c : TaskCall α β ε}
    (hk : s.workers[k]? = some (.awaiting index index)) (hc : s.calls[index]? = some c) (hvalue : c.promise = some (.ok value)) :
    Inv items (s.proceed items k index value) := by
  have hother : ∀ i ≠ index, (s.results.set index (some value))[i]? = s.results[i]? :=
    fun i hi => List.getElem?_set_ne (Ne.symm hi)
  have hput : (s.results.set index (some value))[index]? = some (some value) := by
    refine List.getElem?_set_self ?_
    rw [h.results_length]
    exact (List.getElem?_eq_some_iff.1 (h.call index c hc).2.1).1
  have hwritten : Inv items { s with results := s.results.set index (some value) } := by
    refine ⟨by simpa using h.results_length, h.next_eq, fun i d hd => ?_, h.awaiting, h.threw, h.returned⟩
    obtain ⟨hindex, hitem, hacc⟩ := h.call i d hd
    refine ⟨hindex, hitem, ?_⟩
    by_cases hi : i = index
    · subst hi
      exact .inl (List.mem_of_getElem? hk)
    · exact hacc.imp id (Or.imp (fun ⟨v, hv, hres⟩ => ⟨v, hv, (hother i hi).trans hres⟩) id)
  have hlt : k < s.workers.length := (List.getElem?_eq_some_iff.1 hk).1
  refine hwritten.loop (fun w hw => List.mem_or_eq_of_mem_set hw) (List.mem_set hlt _) fun i d hd => ?_
  refine (h.call i d hd).2.2.set _ hk hother fun hi => ?_
  obtain rfl := Option.some.inj (hc.symm.trans (hi ▸ hd))
  exact .inr (.inl ⟨value, hvalue, by rw [hi, hput]⟩)

theorem Inv.fail {items : List α} {s : MapLimit α β ε} (h : Inv items s) {k index : Nat} {reason : ε} {c : TaskCall α β ε}
    (hk : s.workers[k]? = some (.awaiting index index)) (hc : s.calls[index]? = some c)
    (hreason : c.promise = some (.error reason)) : Inv items (s.fail k reason) := by
  have hlt : k < s.workers.length := (List.getElem?_eq_some_iff.1 hk).1
  refine ⟨h.results_length, h.next_eq, fun i d hd => ?_, fun i call hw => ?_, fun e hw => ?_, fun hw => ?_⟩
  · obtain ⟨hindex, hitem, hacc⟩ := h.call i d hd
    refine ⟨hindex, hitem, hacc.set _ hk (fun i _ => rfl) fun hi => ?_⟩
    obtain rfl := Option.some.inj (hc.symm.trans (hi ▸ hd))
    exact .inr (.inr ⟨reason, hreason, List.mem_set hlt _⟩)
  · exact h.awaiting i call ((List.mem_or_eq_of_mem_set hw).resolve_right (by simp))
  · rcases List.mem_or_eq_of_mem_set hw with hw | hw
    · exact h.threw e hw
    · obtain rfl := Worker.threw.inj hw
      exact ⟨c, List.mem_of_getElem? hc, hreason⟩
  · exact h.returned ((List.mem_or_eq_of_mem_set hw).resolve_right (by simp))

/-- A promise that settles is that of a call whose worker awaits it. -/
theorem Inv.settle {items : List α} {s : MapLimit α β ε} (h : Inv items s) {call index : Nat} {item : α} (outcome : Except ε β)
    (hc : s.calls[call]? = some { index, item, promise := none }) :
    Inv items { s with calls := s.calls.set call { index, item, promise := some outcome } } := by
  obtain ⟨hindex, hitem, hacc⟩ := h.call call _ hc
  have hawaited : .awaiting call call ∈ s.workers := by
    rcases hacc with hw | ⟨v, hv, -⟩ | ⟨e, he, -⟩
    · exact hw
    · cases hv
    · cases he
  refine ⟨h.results_length, by simpa using h.next_eq, fun i c hi => ?_, by simpa using h.awaiting, fun e hw => ?_,
    by simpa using h.returned⟩
  · by_cases heq : call = i
    · subst heq
      rw [List.getElem?_set_self (List.getElem?_eq_some_iff.1 hc).1] at hi
      obtain rfl := Option.some.inj hi
      exact ⟨hindex, hitem, .inl hawaited⟩
    · rw [List.getElem?_set_ne heq] at hi
      exact h.call i c hi
  · obtain ⟨c, hmem, he⟩ := h.threw e hw
    obtain ⟨i, hi⟩ := List.getElem?_of_mem hmem
    have hne : call ≠ i := by
      rintro rfl
      obtain rfl := Option.some.inj (hc.symm.trans hi)
      cases he
    exact ⟨c, List.mem_of_getElem? (by rw [List.getElem?_set_ne hne, hi]), he⟩

/-! ## One event -/

/-- What an event can do: a call in flight settles, or a worker goes on from a call that has settled. -/
theorem step_cases {items : List α} {s : MapLimit α β ε} (h : Inv items s) (event : MapLimitEvent β ε) :
    (mapLimitMachine items).step s event = (s, false) ∨
    (∃ call index item outcome, s.calls[call]? = some { index, item, promise := none } ∧
      (mapLimitMachine items).step s event =
        ({ s with calls := s.calls.set call { index, item, promise := some outcome } }, true)) ∨
    (∃ k index c value, s.workers[k]? = some (.awaiting index index) ∧ s.calls[index]? = some c ∧
      c.promise = some (.ok value) ∧ (mapLimitMachine items).step s event = ((s.proceed items k index value).awaitAll, true)) ∨
    ∃ k index c reason, s.workers[k]? = some (.awaiting index index) ∧ s.calls[index]? = some c ∧
      c.promise = some (.error reason) ∧ (mapLimitMachine items).step s event = ((s.fail k reason).awaitAll, true) := by
  cases event with
  | settle call outcome =>
    cases hc : s.calls[call]? with
    | none => exact .inl (by simp [mapLimitMachine, hc])
    | some c =>
      obtain ⟨index, item, promise⟩ := c
      cases promise with
      | none => exact .inr (.inl ⟨call, index, item, outcome, hc, by simp [mapLimitMachine, hc]⟩)
      | some promise => exact .inl (by simp [mapLimitMachine, hc])
  | resume k =>
    cases hk : s.workers[k]? with
    | none => exact .inl (by simp [mapLimitMachine, hk])
    | some w =>
      cases w with
      | awaiting index call =>
        obtain ⟨rfl, hlt⟩ := h.awaiting index call (List.mem_of_getElem? hk)
        obtain ⟨c, hc⟩ : ∃ c, s.calls[index]? = some c := ⟨_, List.getElem?_eq_getElem hlt⟩
        obtain ⟨j, item, promise⟩ := c
        cases promise with
        | none => exact .inl (by simp [mapLimitMachine, hk, hc])
        | some promise =>
          cases promise with
          | ok value => exact .inr (.inr (.inl ⟨k, index, _, value, hk, hc, rfl, by simp [mapLimitMachine, hk, hc]⟩))
          | error reason => exact .inr (.inr (.inr ⟨k, index, _, reason, hk, hc, rfl, by simp [mapLimitMachine, hk, hc]⟩))
      | returned => exact .inl (by simp [mapLimitMachine, hk])
      | threw e => exact .inl (by simp [mapLimitMachine, hk])

theorem Inv.step {items : List α} {s : MapLimit α β ε} (h : Inv items s) (event : MapLimitEvent β ε) :
    Inv items ((mapLimitMachine items).step s event).1 := by
  obtain heq | ⟨call, index, item, outcome, hc, heq⟩ | ⟨k, index, c, value, hk, hc, hv, heq⟩ |
    ⟨k, index, c, reason, hk, hc, hr, heq⟩ := step_cases h event <;> rw [heq]
  · exact h
  · exact h.settle outcome hc
  · exact (h.proceed hk hc hv).awaitAll
  · exact (h.fail hk hc hr).awaitAll

/-! ## The promise -/

theorem findSome?_reason?_eq_none {ws : List (Worker ε)} : ws.findSome? Worker.reason? = none ↔ ∀ e, .threw e ∉ ws := by
  rw [List.findSome?_eq_none_iff]
  constructor
  · intro h e hw
    cases h _ hw
  · intro h w hw
    cases w with
    | threw e => exact absurd hw (h e)
    | _ => rfl

theorem all_isReturned_iff {ws : List (Worker ε)} : ws.all Worker.isReturned = true ↔ ∀ w ∈ ws, w = .returned := by
  rw [List.all_eq_true]
  refine forall₂_congr fun w _ => ?_
  cases w <;> simp [Worker.isReturned]

/-- Once it has looked at the workers, the promise says what they came to. -/
theorem PromiseSpec.awaitAll {s : MapLimit α β ε} (h : s.promise ≠ none → s.PromiseSpec) : s.awaitAll.PromiseSpec := by
  unfold MapLimit.awaitAll
  cases hp : s.promise with
  | some p => exact h (by simp [hp])
  | none =>
    cases hthrew : s.workers.findSome? Worker.reason? with
    | some reason =>
      obtain ⟨w, hw, hreason⟩ := List.exists_of_findSome?_eq_some hthrew
      cases w <;> cases hreason
      exact hw
    | none =>
      by_cases hall : s.workers.all Worker.isReturned = true
      · dsimp only
        rw [if_pos hall]
        exact ⟨all_isReturned_iff.1 hall, rfl⟩
      · dsimp only
        rw [if_neg hall]
        rw [all_isReturned_iff] at hall
        push Not at hall
        unfold PromiseSpec
        rw [hp]
        exact ⟨findSome?_reason?_eq_none.1 hthrew, hall⟩

/-- A worker that goes on leaves a promise that is settled as it is. -/
theorem PromiseSpec.set {s s' : MapLimit α β ε} (h : s.PromiseSpec) {k index : Nat} {w : Worker ε}
    (hk : s.workers[k]? = some (.awaiting index index)) (hworkers : s'.workers = s.workers.set k w)
    (hpromise : s'.promise = s.promise) (hsettled : s'.promise ≠ none) : s'.PromiseSpec := by
  unfold PromiseSpec at h ⊢
  rw [hpromise] at hsettled ⊢
  cases hp : s.promise with
  | none => exact absurd hp hsettled
  | some p =>
    rw [hp] at h
    cases p with
    | ok r => cases h.1 _ (List.mem_of_getElem? hk)
    | error e =>
      dsimp only at h ⊢
      rw [hworkers]
      exact Table.mem_set_of_ne h (by simp [hk]) _

theorem PromiseSpec.step {items : List α} {s : MapLimit α β ε} (hinv : Inv items s) (h : s.PromiseSpec)
    (event : MapLimitEvent β ε) : ((mapLimitMachine items).step s event).1.PromiseSpec := by
  obtain heq | ⟨call, index, item, outcome, hc, heq⟩ | ⟨k, index, c, value, hk, hc, hv, heq⟩ |
    ⟨k, index, c, reason, hk, hc, hr, heq⟩ := step_cases hinv event <;> rw [heq]
  · exact h
  · exact h
  · refine PromiseSpec.awaitAll (h.set hk rfl ?_)
    rcases loop_cases items { s with results := s.results.set index (some value) } with ⟨item, -, hloop⟩ | ⟨-, hloop⟩
    · simp only [MapLimit.proceed, hloop]
    · simp only [MapLimit.proceed, hloop]
  · exact PromiseSpec.awaitAll (h.set hk rfl rfl)

/-! ## A whole run -/

theorem spawn_promise (items : List α) (s : MapLimit α β ε) : (s.spawn items).promise = s.promise := by
  rcases s.loop_cases items with ⟨item, -, heq⟩ | ⟨-, heq⟩ <;> simp only [spawn, heq]

theorem spawn_workers_length (items : List α) (s : MapLimit α β ε) : (s.spawn items).workers.length = s.workers.length + 1 :=
  List.length_append

/-- Before its `await`, `mapLimit` has called the workers the limit and the items allow, and given no outcome. -/
theorem iterate_spawn (items : List α) (w : Nat) :
    Inv items ((spawn items)^[w] (MapLimit.init items : MapLimit α β ε)) ∧
      ((spawn items)^[w] (MapLimit.init items : MapLimit α β ε)).promise = none ∧
      ((spawn items)^[w] (MapLimit.init items : MapLimit α β ε)).workers.length = w := by
  induction w with
  | zero => exact ⟨Inv.init items, rfl, rfl⟩
  | succ w ih =>
    rw [Function.iterate_succ_apply']
    exact ⟨ih.1.spawn, (spawn_promise items _).trans ih.2.1, by rw [spawn_workers_length, ih.2.2]⟩

/-- Both invariants, and how many workers there are. -/
structure Sound (items : List α) (limit : ℤ) (s : MapLimit α β ε) : Prop where
  inv : Inv items s
  promise : s.PromiseSpec
  workers : s.workers.length = (min limit items.length).toNat

theorem awaitAll_workers (s : MapLimit α β ε) : s.awaitAll.workers = s.workers := by
  unfold awaitAll
  repeat' split
  all_goals rfl

theorem Sound.start (items : List α) (limit : ℤ) : Sound items limit (start items limit : MapLimit α β ε) := by
  obtain ⟨hinv, hpromise, hworkers⟩ := iterate_spawn (β := β) (ε := ε) items (min limit items.length).toNat
  exact ⟨hinv.awaitAll, PromiseSpec.awaitAll fun hp => absurd hpromise hp, by rw [MapLimit.start, awaitAll_workers, hworkers]⟩

theorem step_workers_length {items : List α} {s : MapLimit α β ε} (h : Inv items s) (event : MapLimitEvent β ε) :
    ((mapLimitMachine items).step s event).1.workers.length = s.workers.length := by
  obtain heq | ⟨call, index, item, outcome, hc, heq⟩ | ⟨k, index, c, value, hk, hc, hv, heq⟩ |
    ⟨k, index, c, reason, hk, hc, hr, heq⟩ := step_cases h event <;> rw [heq]
  · rw [awaitAll_workers]
    exact List.length_set
  · rw [awaitAll_workers]
    exact List.length_set

/-- What `mapLimit` keeps on every schedule. -/
theorem Sound.run (items : List α) (limit : ℤ) (events : List (MapLimitEvent β ε)) :
    Sound items limit ((mapLimitMachine items).run (MapLimit.start items limit) events) :=
  (mapLimitMachine items).run_inv
    (fun _ event h => ⟨h.inv.step event, h.promise.step h.inv event, (step_workers_length h.inv event).trans h.workers⟩)
    (Sound.start items limit) events

/-! ## What follows -/

/-- The calls are made in the order of the items. -/
theorem Inv.calls_index {items : List α} {s : MapLimit α β ε} (h : Inv items s) :
    s.calls.map TaskCall.index = List.range s.calls.length := by
  refine List.ext_getElem? fun i => ?_
  rw [List.getElem?_map]
  cases hc : s.calls[i]? with
  | none => simpa using hc
  | some c => simp [(h.call i c hc).1, (List.getElem?_eq_some_iff.1 hc).1]

theorem Inv.of_mem {items : List α} {s : MapLimit α β ε} (h : Inv items s) {c : TaskCall α β ε} (hc : c ∈ s.calls) :
    items[c.index]? = some c.item ∧ Accounted s.results s.workers c.index c := by
  obtain ⟨i, hi⟩ := List.getElem?_of_mem hc
  obtain ⟨rfl, h⟩ := h.call i c hi
  exact h

theorem Inv.calls_length_le {items : List α} {s : MapLimit α β ε} (h : Inv items s) : s.calls.length ≤ items.length := by
  by_contra hlt
  obtain ⟨c, hc⟩ : ∃ c, s.calls[items.length]? = some c := ⟨_, List.getElem?_eq_getElem (by omega)⟩
  have hitem := (h.call _ c hc).2.1
  rw [List.getElem?_eq_none (le_refl _)] at hitem
  cases hitem

/-- No more calls are in flight than there are workers: each is awaited by one. -/
theorem Inv.inFlight_le {items : List α} {s : MapLimit α β ε} (h : Inv items s) : s.inFlight.length ≤ s.workers.length := by
  have hindices : (s.inFlight.map TaskCall.index).Nodup := by
    refine List.Nodup.sublist (List.filter_sublist.map _) ?_
    rw [h.calls_index]
    exact List.nodup_range
  have hnodup : (s.inFlight.map fun c => (.awaiting c.index c.index : Worker ε)).Nodup := by
    have hinj : Function.Injective fun i : Nat => (.awaiting i i : Worker ε) := fun i j hij => (Worker.awaiting.inj hij).1
    have hmap := List.Nodup.map hinj hindices
    rwa [List.map_map] at hmap
  have hsub : (s.inFlight.map fun c => (.awaiting c.index c.index : Worker ε)) ⊆ s.workers := by
    intro w hw
    obtain ⟨c, hc, rfl⟩ := List.mem_map.1 hw
    obtain ⟨hmem, hpending⟩ := List.mem_filter.1 hc
    rcases (h.of_mem hmem).2 with hw | ⟨v, hv, -⟩ | ⟨e, he, -⟩
    · exact hw
    · simp [hv] at hpending
    · simp [he] at hpending
  simpa using (hnodup.subperm hsub).length_le

/-- Once every task has completed and every worker gone on, no worker awaits anything. -/
theorem AtRest.not_awaiting {items : List α} {s : MapLimit α β ε} (hrest : s.AtRest items) (h : Inv items s) (index call : Nat) :
    .awaiting index call ∉ s.workers := by
  intro hw
  obtain ⟨k, hk⟩ := List.getElem?_of_mem hw
  obtain ⟨rfl, hlt⟩ := h.awaiting index call hw
  obtain ⟨⟨j, item, promise⟩, hc⟩ : ∃ c, s.calls[index]? = some c := ⟨_, List.getElem?_eq_getElem hlt⟩
  have hstep := hrest.2 k
  cases promise with
  | none =>
    have hpending : { index := j, item, promise := none } ∈ s.inFlight :=
      List.mem_filter.2 ⟨List.mem_of_getElem? hc, rfl⟩
    rw [hrest.1] at hpending
    cases hpending
  | some promise => cases promise <;> simp [mapLimitMachine, hk, hc] at hstep

/-- `mapLimit` resolves only once the task has been called for every item and has succeeded, and with the values in order. -/
theorem Sound.resolved {items : List α} {limit : ℤ} (hlimit : 1 ≤ limit) {s : MapLimit α β ε} (h : Sound items limit s)
    {r : List (Option β)} (hr : s.promise = some (.ok r)) :
    s.calls.map TaskCall.index = List.range items.length ∧ r.length = items.length ∧
      ∀ c ∈ s.calls, ∃ v, c.promise = some (.ok v) ∧ r[c.index]? = some (some v) := by
  have hspec := h.promise
  rw [PromiseSpec, hr] at hspec
  obtain ⟨hreturned, rfl⟩ := hspec
  have hlength : s.calls.length = items.length := by
    refine le_antisymm h.inv.calls_length_le ?_
    cases hworkers : s.workers with
    | nil =>
      have hw := h.workers
      rw [hworkers, List.length_nil] at hw
      omega
    | cons w ws =>
      have hmem : w ∈ s.workers := by simp [hworkers]
      exact h.inv.returned (hreturned w hmem ▸ hmem)
  refine ⟨by rw [h.inv.calls_index, hlength], h.inv.results_length, fun c hc => ?_⟩
  rcases (h.inv.of_mem hc).2 with hw | ⟨v, hv, hres⟩ | ⟨e, he, hw⟩
  · cases hreturned _ hw
  · exact ⟨v, hv, hres⟩
  · cases hreturned _ hw

theorem countP_set_of_pos {γ : Type} {p : γ → Bool} {l : List γ} {k : Nat} {a b : γ} (hk : l[k]? = some a) (ha : p a = true) :
    (l.set k b).countP p + 1 = l.countP p + if p b then 1 else 0 := by
  obtain ⟨hlt, rfl⟩ := List.getElem?_eq_some_iff.1 hk
  have hpos : 0 < l.countP p := List.countP_pos_iff.2 ⟨_, List.getElem_mem hlt, ha⟩
  rw [List.countP_set hlt, if_pos ha]
  omega

theorem inFlight_length (s : MapLimit α β ε) : s.inFlight.length = s.calls.countP fun c => c.promise.isNone :=
  List.countP_eq_length_filter.symm

theorem remaining_awaitAll (items : List α) (s : MapLimit α β ε) : remaining items s.awaitAll = remaining items s := by
  unfold awaitAll
  repeat' split
  all_goals rfl

/-- Each event that happens leaves one less to come, at least. -/
theorem remaining_step {items : List α} {s : MapLimit α β ε} (h : Inv items s) {event : MapLimitEvent β ε}
    (hhappens : ((mapLimitMachine items).step s event).2 = true) :
    remaining items ((mapLimitMachine items).step s event).1 < remaining items s := by
  obtain heq | ⟨call, index, item, outcome, hc, heq⟩ | ⟨k, index, c, value, hk, hc, hv, heq⟩ |
    ⟨k, index, c, reason, hk, hc, hr, heq⟩ := step_cases h event
  · rw [heq] at hhappens
    cases hhappens
  · rw [heq]
    have hcount := countP_set_of_pos (p := fun c : TaskCall α β ε => c.promise.isNone)
      (b := { index, item, promise := some outcome }) hc rfl
    simp only [remaining, inFlight_length, List.length_set]
    simp only [Option.isNone_some, Bool.false_eq_true, if_false] at hcount
    omega
  · have hcount (w : Worker ε) := countP_set_of_pos (b := w) hk (p := Worker.isAwaiting) rfl
    rw [heq, remaining_awaitAll]
    rcases loop_cases items { s with results := s.results.set index (some value) } with ⟨item, hitem, hloop⟩ | ⟨-, hloop⟩
    · -- one call fewer to make, one more in flight
      have hlt : s.calls.length < items.length := h.next_eq ▸ (List.getElem?_eq_some_iff.1 hitem).1
      have hw := hcount (.awaiting s.next s.calls.length)
      simp only [remaining, MapLimit.proceed, hloop, inFlight_length, List.length_append, List.length_singleton,
        List.countP_append, List.countP_singleton, Option.isNone_none, if_true]
      simp only [Worker.isAwaiting, if_true] at hw
      omega
    · have hw := hcount .returned
      simp only [remaining, MapLimit.proceed, hloop, inFlight_length]
      simp only [Worker.isAwaiting, Bool.false_eq_true, if_false] at hw
      omega
  · rw [heq, remaining_awaitAll]
    have hcount := countP_set_of_pos (b := (.threw reason : Worker ε)) hk (p := Worker.isAwaiting) rfl
    simp only [remaining, MapLimit.fail, inFlight_length]
    simp only [Worker.isAwaiting, Bool.false_eq_true, if_false] at hcount
    omega

theorem remaining_spawn {items : List α} {s : MapLimit α β ε} (h : Inv items s) :
    remaining items (s.spawn items) = remaining items s := by
  rcases s.loop_cases items with ⟨item, hitem, hloop⟩ | ⟨-, hloop⟩
  · have hlt : s.calls.length < items.length := h.next_eq ▸ (List.getElem?_eq_some_iff.1 hitem).1
    simp only [remaining, spawn, hloop, inFlight_length, List.length_append, List.length_singleton, List.countP_append,
      List.countP_singleton, Option.isNone_none, Worker.isAwaiting, if_true]
    omega
  · simp [remaining, spawn, hloop, inFlight_length, Worker.isAwaiting]

/-- At the start, every task is still to complete, and its worker to go on. -/
theorem remaining_start (items : List α) (limit : ℤ) :
    remaining items (MapLimit.start items limit : MapLimit α β ε) = 2 * items.length := by
  rw [MapLimit.start, remaining_awaitAll]
  generalize (min limit items.length).toNat = w
  induction w with
  | zero => simp [remaining, MapLimit.init, inFlight]
  | succ w ih =>
    rw [Function.iterate_succ_apply', remaining_spawn (iterate_spawn items w).1, ih]

/-- What `mapLimit` promises of a state: at most `limit` tasks in flight, and no item started twice. It resolves only with the
results in order, after every item's task has been started once and has succeeded, and rejects only for a task that did. Once
every task has completed and every worker gone on, it is settled, by a rejection if there was one. -/
structure Kept (items : List α) (limit : ℤ) (s : MapLimit α β ε) : Prop where
  in_flight : (s.inFlight.length : ℤ) ≤ limit
  once : (s.calls.map TaskCall.index).Nodup
  item : ∀ c ∈ s.calls, items[c.index]? = some c.item
  resolved : ∀ r, s.promise = some (.ok r) → s.calls.map TaskCall.index = List.range items.length ∧
    r.length = items.length ∧ ∀ c ∈ s.calls, ∃ v, c.promise = some (.ok v) ∧ r[c.index]? = some (some v)
  rejected : ∀ e, s.promise = some (.error e) → ∃ c ∈ s.calls, c.promise = some (.error e)
  settled : s.AtRest items → s.promise ≠ none
  rejects : s.AtRest items → (∃ c ∈ s.calls, ∃ e, c.promise = some (.error e)) → ∃ e, s.promise = some (.error e)

theorem Sound.kept {items : List α} {limit : ℤ} (hlimit : 1 ≤ limit) {s : MapLimit α β ε} (h : Sound items limit s) :
    Kept items limit s where
  in_flight := by
    have hle := h.inv.inFlight_le
    rw [h.workers] at hle
    omega
  once := by
    rw [h.inv.calls_index]
    exact List.nodup_range
  item := fun c hc => (h.inv.of_mem hc).1
  resolved := fun r hr => h.resolved hlimit hr
  rejected := by
    intro e he
    have hspec := h.promise
    rw [PromiseSpec, he] at hspec
    exact h.inv.threw e hspec
  settled := by
    intro hrest hnone
    have hspec := h.promise
    rw [PromiseSpec, hnone] at hspec
    obtain ⟨hthrew, w, hw, hne⟩ := hspec
    cases w with
    | awaiting index call => exact hrest.not_awaiting h.inv index call hw
    | returned => exact hne rfl
    | threw e => exact hthrew e hw
  rejects := by
    rintro hrest ⟨c, hc, e, he⟩
    rcases (h.inv.of_mem hc).2 with hw | ⟨v, hv, -⟩ | ⟨e', -, hw⟩
    · exact absurd hw (hrest.not_awaiting h.inv c.index c.index)
    · rw [he] at hv
      cases hv
    · -- a worker threw, so not all have returned, and some has not gone on if the promise is pending
      have hspec := h.promise
      unfold PromiseSpec at hspec
      split at hspec
      · exact absurd hw (hspec.1 e')
      · exact ⟨_, ‹_›⟩
      · cases hspec.1 _ hw

end MapLimit

/-- On every schedule `mapLimit` keeps what it promises, and no schedule has more than two events an item. -/
theorem map_limit_bounded_parallel (items : List α) (limit : ℤ) (hlimit : 1 ≤ limit) (events : List (MapLimitEvent β ε)) :
    MapLimit.Kept items limit ((mapLimitMachine items).run (MapLimit.start items limit) events) ∧
      ((∀ happened ∈ (mapLimitMachine items).outputs (MapLimit.start items limit) events, happened = true) →
        events.length ≤ 2 * items.length) := by
  refine ⟨(MapLimit.Sound.run items limit events).kept hlimit, fun hhappened => ?_⟩
  have hstep (s : MapLimit α β ε) (event : MapLimitEvent β ε) (hinv : MapLimit.Inv items s)
      (hhappens : ((mapLimitMachine items).step s event).2 = true) :
      MapLimit.Inv items ((mapLimitMachine items).step s event).1 ∧
        MapLimit.remaining items ((mapLimitMachine items).step s event).1 < MapLimit.remaining items s :=
    ⟨hinv.step event, MapLimit.remaining_step hinv hhappens⟩
  have hbound := (mapLimitMachine items).measure_add_length_le (MapLimit.remaining items) hstep
    (MapLimit.Sound.start items limit).inv (((mapLimitMachine items).along_outputs_iff (· = true) _ _).2 hhappened)
  rw [MapLimit.remaining_start] at hbound
  omega

/-- Three items and two workers: the second task is the fastest, and the last worker to go on is the first. -/
theorem map_limit_bounded_parallel_three :
    MapLimit.Kept [1, 2, 3] 2 ((mapLimitMachine (β := Nat) (ε := String) [1, 2, 3]).run (MapLimit.start [1, 2, 3] 2)
      [.settle 1 (.ok 20), .resume 1, .settle 0 (.ok 10), .settle 2 (.ok 30), .resume 1, .resume 0]) :=
  (map_limit_bounded_parallel [1, 2, 3] 2 (by decide) _).1

end AirQuality.Dashboard

import AirQuality.Simulator.Nodes
import Mathlib.Data.List.Nodup

/-!
# A simulated node does one thing at a time

What holds in every state that downlinks, timeouts and firmware calls can bring the nodes into, in any order. The tasks are a chain
of promises for each device (`Chain.Linked`); `TimersOk` says that a device's pending timeout is the one its entry of `timers`
names, and `Awake` that its next wake is never lost.
-/

namespace AirQuality

/-! ## Timeouts -/

/-- A pending timeout is the last one set for its device and for no other, and no two are for one device. -/
structure TimersOk (s : Nodes) : Prop where
  known : ∀ t ∈ s.pending, s.timers t.devEui = some t.id
  owner : ∀ t ∈ s.pending, ∀ devEui, s.timers devEui = some t.id → t.devEui = devEui
  bounded : ∀ devEui id, s.timers devEui = some id → id < s.nextTimer
  single : (s.pending.map WakeTimer.devEui).Nodup

/-- Clearing the timeout of a device removes its pending one and no other. -/
theorem TimersOk.clearTimer_pending {s : Nodes} (h : TimersOk s) (devEui : List UInt8) :
    (s.clearTimer devEui).pending = s.pending.filter fun t => decide (t.devEui ≠ devEui) := by
  refine List.filter_congr fun t ht => ?_
  have hiff : some t.id ≠ s.timers devEui ↔ t.devEui ≠ devEui := by
    refine not_congr ⟨fun heq => h.owner t ht devEui heq.symm, ?_⟩
    rintro rfl
    exact (h.known t ht).symm
  exact decide_eq_decide.2 hiff

theorem schedule_mem {s : Nodes} (h : TimersOk s) (devEui : List UInt8) (sleepS : Nat) (t : WakeTimer) :
    t ∈ (s.schedule devEui sleepS).pending ↔
      (t ∈ s.pending ∧ t.devEui ≠ devEui) ∨ t = { id := s.nextTimer, devEui, sleepS } := by
  simp only [Nodes.schedule, h.clearTimer_pending, List.mem_append, List.mem_filter, decide_eq_true_eq, List.mem_singleton]

/-- Fewer pending timeouts are as well. -/
theorem TimersOk.sublist {s : Nodes} (h : TimersOk s) {pending : List WakeTimer} (hsub : pending.Sublist s.pending) :
    TimersOk { s with pending } where
  known t ht := h.known t (hsub.subset ht)
  owner t ht := h.owner t (hsub.subset ht)
  bounded := h.bounded
  single := h.single.sublist (hsub.map _)

theorem TimersOk.schedule {s : Nodes} (h : TimersOk s) (devEui : List UInt8) (sleepS : Nat) :
    TimersOk (s.schedule devEui sleepS) where
  known t ht := by
    rcases (schedule_mem h devEui sleepS t).1 ht with ⟨ht, hne⟩ | rfl
    · rw [schedule_timers_of_ne s devEui sleepS hne]
      exact h.known t ht
    · exact schedule_timers_self s devEui sleepS
  owner t ht devEui' h' := by
    by_cases hdev : devEui' = devEui
    · subst hdev
      rw [schedule_timers_self] at h'
      rcases (schedule_mem h devEui' sleepS t).1 ht with ⟨ht, -⟩ | rfl
      · have hlt := h.bounded t.devEui t.id (h.known t ht)
        exact absurd (Option.some.inj h') (by omega)
      · rfl
    · rw [schedule_timers_of_ne s devEui sleepS hdev] at h'
      rcases (schedule_mem h devEui sleepS t).1 ht with ⟨ht, -⟩ | rfl
      · exact h.owner t ht devEui' h'
      · exact absurd (h.bounded devEui' s.nextTimer h') (Nat.lt_irrefl _)
  bounded devEui' id h' := by
    rw [schedule_nextTimer]
    by_cases hdev : devEui' = devEui
    · subst hdev
      rw [schedule_timers_self] at h'
      rw [← Option.some.inj h']
      exact Nat.lt_succ_self _
    · rw [schedule_timers_of_ne s devEui sleepS hdev] at h'
      exact Nat.lt_succ_of_lt (h.bounded devEui' id h')
  single := by
    have hrest : ((s.clearTimer devEui).pending.map WakeTimer.devEui).Nodup :=
      h.single.sublist (List.filter_sublist.map _)
    rw [Nodes.schedule, List.map_append, List.map_singleton, List.nodup_append]
    refine ⟨hrest, List.nodup_singleton _, ?_⟩
    rintro dev hdev _ hself rfl
    rw [h.clearTimer_pending, List.mem_map] at hdev
    obtain ⟨t, ht, heq⟩ := hdev
    rw [List.mem_filter, decide_eq_true_eq] at ht
    exact ht.2 (heq.trans (List.mem_singleton.1 hself))

/-- At most one timeout is pending for a device. -/
theorem TimersOk.length_le_one {s : Nodes} (h : TimersOk s) (devEui : List UInt8) :
    (s.pending.filter fun t => decide (t.devEui = devEui)).length ≤ 1 := by
  have hcount : (s.pending.map WakeTimer.devEui).count devEui ≤ 1 := List.nodup_iff_count_le_one.1 h.single devEui
  rw [List.count, List.countP_map, List.countP_eq_length_filter] at hcount
  refine le_trans (le_of_eq ?_) hcount
  congr 1
  refine List.filter_congr fun t _ => ?_
  simp [beq_eq_decide]

/-- What is known of the timeouts does not depend on the tasks. -/
theorem TimersOk.congr {s s' : Nodes} (h : TimersOk s) (htimers : s'.timers = s.timers) (hpending : s'.pending = s.pending)
    (hnext : s'.nextTimer = s.nextTimer) : TimersOk s' where
  known := by rw [htimers, hpending]; exact h.known
  owner := by rw [htimers, hpending]; exact h.owner
  bounded := by rw [htimers, hnext]; exact h.bounded
  single := by rw [hpending]; exact h.single

/-! ## The next wake -/

/-- A wake of the device is pending, queued or running. -/
def WakeAhead (s : Nodes) (devEui : List UInt8) : Prop :=
  (∃ t ∈ s.pending, t.devEui = devEui) ∨
    ∃ (i : Nat) (t : Chain.Task (List UInt8) NodeTask), s.chain.tasks[i]? = some t ∧ t.key = devEui ∧ t.what = .wake ∧
      ¬t.status.Settled

/-- A device that has woken once has a wake ahead. -/
def Awake (s : Nodes) : Prop :=
  ∀ (i : Nat) (t : Chain.Task (List UInt8) NodeTask), s.chain.tasks[i]? = some t → t.what = .wake → WakeAhead s t.key

/-- What holds of the nodes in every state. -/
structure NodesInv (s : Nodes) : Prop where
  linked : Chain.Linked s.chain
  timers : TimersOk s
  awake : Awake s

/-- A task that was there before `serial`, seen after it. -/
theorem serial_getElem? {s : Nodes} {i : Nat} {t : Chain.Task (List UInt8) NodeTask} (h : s.chain.tasks[i]? = some t)
    (devEui : List UInt8) (task : NodeTask) : (s.serial devEui task).chain.tasks[i]? = some t := by
  rw [Nodes.serial, Chain.State.submit, List.getElem?_append_left (List.getElem?_eq_some_iff.1 h).1]
  exact h

/-- The task that `serial` submits waits. -/
theorem serial_last (s : Nodes) (devEui : List UInt8) (task : NodeTask) :
    ∃ t, (s.serial devEui task).chain.tasks[s.chain.tasks.length]? = some t ∧ t.key = devEui ∧ t.what = task ∧
      ¬t.status.Settled :=
  ⟨_, List.getElem?_concat_length, rfl, rfl, Chain.Status.not_settled_waiting⟩

theorem WakeAhead.serial {s : Nodes} {devEui : List UInt8} (h : WakeAhead s devEui) (devEui' : List UInt8) (task : NodeTask) :
    WakeAhead (s.serial devEui' task) devEui := by
  rcases h with hpending | ⟨i, t, ht, hrest⟩
  · exact .inl hpending
  · exact .inr ⟨i, t, serial_getElem? ht devEui' task, hrest⟩

theorem NodesInv.serial {s : Nodes} (h : NodesInv s) (devEui : List UInt8) (task : NodeTask) :
    NodesInv (s.serial devEui task) where
  linked := h.linked.submit devEui task
  timers := h.timers.congr rfl rfl rfl
  awake i t ht hwake := by
    rcases Chain.submit_getElem? ht with ⟨-, ht⟩ | ⟨-, rfl⟩
    · exact (h.awake i t ht hwake).serial devEui task
    · obtain ⟨u, hu, hkey, hwhat, hopen⟩ := serial_last s devEui task
      exact .inr ⟨_, u, hu, hkey, hwhat.trans hwake, hopen⟩

/-- A timeout fires: the wake it brings about is queued in its place. -/
theorem NodesInv.fire {s : Nodes} (h : NodesInv s) {id : Nat} {timer : WakeTimer} (htimer : timer ∈ s.pending)
    (hid : timer.id = id) :
    NodesInv ({ s with pending := s.pending.filter fun t => decide (t.id ≠ id) }.wake timer.devEui) where
  linked := h.linked.submit timer.devEui .wake
  timers := (h.timers.sublist List.filter_sublist).congr rfl rfl rfl
  awake i t ht hwake := by
    have hnew : WakeAhead ({ s with pending := s.pending.filter fun t => decide (t.id ≠ id) }.wake timer.devEui)
        timer.devEui := by
      obtain ⟨u, hu, hkey, hwhat, hopen⟩ :=
        serial_last { s with pending := s.pending.filter fun t => decide (t.id ≠ id) } timer.devEui .wake
      exact .inr ⟨_, u, hu, hkey, hwhat, hopen⟩
    rcases Chain.submit_getElem? ht with ⟨-, ht⟩ | ⟨-, rfl⟩
    · rcases h.awake i t ht hwake with ⟨t', ht', hdev⟩ | ⟨j, u, hu, hrest⟩
      · by_cases heq : t'.id = id
        · -- the timeout that fires is the one of this device
          have howner := h.timers.owner timer htimer t'.devEui (by rw [h.timers.known t' ht', heq, hid])
          rw [← hdev, ← howner]
          exact hnew
        · exact .inl ⟨t', List.mem_filter.2 ⟨ht', decide_eq_true heq⟩, hdev⟩
      · exact .inr ⟨j, u, serial_getElem? hu timer.devEui .wake, hrest⟩
    · exact hnew

/-- A task of the state in which task `i` got a status. -/
theorem setStatus_task {s : Chain.State (List UInt8) NodeTask} {i j : Nat} {status : Chain.Status}
    {u : Chain.Task (List UInt8) NodeTask} (h : (s.setStatus i status).tasks[j]? = some u) :
    ∃ t, s.tasks[j]? = some t ∧ u.key = t.key ∧ u.what = t.what := by
  rw [Chain.setStatus_getElem?, Option.map_eq_some_iff] at h
  obtain ⟨t, ht, rfl⟩ := h
  refine ⟨t, ht, ?_⟩
  split_ifs
  · exact ⟨rfl, rfl⟩
  · exact ⟨rfl, rfl⟩

/-- The function of a task is called: the wake that was queued is running. -/
theorem NodesInv.begin {s : Nodes} (h : NodesInv s) {i : Nat} {t : Chain.Task (List UInt8) NodeTask}
    (ht : s.chain.tasks[i]? = some t) (hw : t.status = .waiting) (hready : s.chain.outcome t.after = .fulfilled)
    (devEui : List UInt8) (task : NodeTask) :
    NodesInv ({ s with chain := s.chain.setStatus i .running }.begin devEui task).1 := by
  obtain ⟨hchain, htimers, hpending, hnext⟩ := begin_same { s with chain := s.chain.setStatus i .running } devEui task
  refine ⟨?_, h.timers.congr htimers hpending hnext, ?_⟩
  · rw [hchain]
    exact h.linked.setStatus ht (by rw [hw]; exact Chain.Status.not_settled_waiting) hready
  · intro j u hu hwake
    rw [hchain] at hu
    obtain ⟨v, hv, hkey, hwhat⟩ := setStatus_task hu
    rw [hkey]
    rw [WakeAhead, hchain, hpending]
    rcases h.awake j v hv (hwhat ▸ hwake) with hp | ⟨k, w, hw', hwk, hww, hopen⟩
    · exact .inl hp
    · refine .inr ⟨k, if i = k then { w with status := .running } else w, ?_, ?_⟩
      · simp only [Chain.setStatus_getElem?, hw', Option.map_some]
      · split_ifs
        · exact ⟨hwk, hww, Chain.Status.not_settled_running⟩
        · exact ⟨hwk, hww, hopen⟩

/-- The function of a task ends, and either schedules the next wake of its device or is not a wake. -/
theorem NodesInv.settle {s : Nodes} (h : NodesInv s) {i : Nat} {t : Chain.Task (List UInt8) NodeTask}
    (ht : s.chain.tasks[i]? = some t) (hr : t.status = .running) (status : Chain.Status) :
    (∀ sleepS, NodesInv ({ s with chain := s.chain.setStatus i status }.schedule t.key sleepS)) ∧
      (t.what ≠ .wake → NodesInv { s with chain := s.chain.setStatus i status }) := by
  have hlinked : Chain.Linked (s.chain.setStatus i status) :=
    h.linked.setStatus ht (by rw [hr]; exact Chain.Status.not_settled_running) (h.linked.started i t ht (by rw [hr]; decide))
  have htimers : TimersOk { s with chain := s.chain.setStatus i status } := h.timers.congr rfl rfl rfl
  have hother {j : Nat} {u : Chain.Task (List UInt8) NodeTask} (hu : s.chain.tasks[j]? = some u) (hne : u ≠ t) :
      (s.chain.setStatus i status).tasks[j]? = some u := by
    have hij : i ≠ j := by
      rintro rfl
      exact hne (Option.some.inj (hu.symm.trans ht))
    rw [Chain.setStatus_getElem?, hu, Option.map_some, if_neg hij]
  constructor
  · intro sleepS
    refine ⟨hlinked, htimers.schedule t.key sleepS, fun j u hu hwake => ?_⟩
    obtain ⟨v, hv, hkey, hwhat⟩ := setStatus_task hu
    rw [hkey]
    by_cases hself : v.key = t.key
    · exact .inl ⟨_, (schedule_mem htimers t.key sleepS _).2 (.inr rfl), hself.symm⟩
    · rcases h.awake j v hv (hwhat ▸ hwake) with ⟨t', ht', hdev⟩ | ⟨k, w, hw, hwk, hrest⟩
      · exact .inl ⟨t', (schedule_mem htimers t.key sleepS t').2 (.inl ⟨ht', by rw [hdev]; exact hself⟩), hdev⟩
      · refine .inr ⟨k, w, hother hw ?_, hwk, hrest⟩
        rintro rfl
        exact hself hwk.symm
  · intro hnot
    refine ⟨hlinked, htimers, fun j u hu hwake => ?_⟩
    obtain ⟨v, hv, hkey, hwhat⟩ := setStatus_task hu
    rw [hkey]
    rcases h.awake j v hv (hwhat ▸ hwake) with hp | ⟨k, w, hw, hwk, hww, hopen⟩
    · exact .inl hp
    · refine .inr ⟨k, w, hother hw ?_, hwk, hww, hopen⟩
      rintro rfl
      exact hnot hww

/-! ## The steps -/

/-- A task starts: nothing happens, or its function is called, because it waited and its promise is fulfilled. -/
theorem nodes_start_cases (sessions : List DeviceSession) {s : Nodes} (h : Chain.Linked s.chain) (i : Nat) :
    (nodesMachine sessions).step s (.start i) = (s, none) ∨
      ∃ t, s.chain.tasks[i]? = some t ∧ t.status = .waiting ∧ s.chain.outcome t.after = .fulfilled ∧
        (nodesMachine sessions).step s (.start i) =
          (({ s with chain := s.chain.setStatus i .running }.begin t.key t.what).1,
            some ({ s with chain := s.chain.setStatus i .running }.begin t.key t.what).2) := by
  cases ht : s.chain.tasks[i]? with
  | none => exact .inl (by simp only [nodesMachine, ht])
  | some t =>
    by_cases hready : t.status = .waiting ∧ s.chain.outcome t.after = .fulfilled
    · refine .inr ⟨t, rfl, hready.1, hready.2, ?_⟩
      simp only [nodesMachine, ht, if_pos hready, Chain.react_ready ht hready.1 hready.2]
    · have hsame : s.chain.react i = s.chain := by
        refine (h.react_cases i).resolve_right ?_
        rintro ⟨u, hu, hw, ho, -⟩
        obtain rfl : t = u := Option.some.inj (ht.symm.trans hu)
        exact hready ⟨hw, ho⟩
      exact .inl (by simp only [nodesMachine, ht, if_neg hready, hsame])

/-- A firmware call ends: the task is settled and the next wake scheduled, or it is a downlink whose call failed. -/
theorem nodes_finish_cases (sessions : List DeviceSession) (s : Nodes) (i : Nat) (sleepS : Option Nat) :
    (nodesMachine sessions).step s (.finish i sleepS) = (s, none) ∨
      ∃ t, s.chain.tasks[i]? = some t ∧ t.status = .running ∧
        ((∃ sleep, (nodesMachine sessions).step s (.finish i sleepS) =
          ({ s with chain := s.chain.setStatus i .done }.schedule t.key sleep, none)) ∨
        (t.what ≠ .wake ∧ (nodesMachine sessions).step s (.finish i sleepS) =
          ({ s with chain := s.chain.setStatus i .failed }, none))) := by
  cases ht : s.chain.tasks[i]? with
  | none => exact .inl (by simp only [nodesMachine, ht])
  | some t =>
    by_cases hr : t.status = .running
    swap
    · exact .inl (by simp only [nodesMachine, ht, if_neg hr])
    refine .inr ⟨t, rfl, hr, ?_⟩
    have hsettle (ok : Bool) := Chain.settle_running ht hr ok
    cases hwhat : t.what with
    | wake =>
      refine .inl ⟨sleepS.getD defaultIntervalS, ?_⟩
      simp only [nodesMachine, ht, if_pos hr, hwhat, Nodes.conclude, hsettle, if_true]
    | downlink data =>
      cases sleepS with
      | some sleep =>
        refine .inl ⟨sleep, ?_⟩
        simp only [nodesMachine, ht, if_pos hr, hwhat, Nodes.conclude, hsettle, if_true]
      | none =>
        refine .inr ⟨NodeTask.noConfusion, ?_⟩
        simp only [nodesMachine, ht, if_pos hr, hwhat, Nodes.conclude, hsettle, Bool.false_eq_true, if_false]

/-- A downlink is submitted for the device it is addressed to, or it is nothing for the nodes. -/
theorem nodes_downlink_cases (sessions : List DeviceSession) (s : Nodes) (devAddr : List UInt8) (fPort : Option UInt8)
    (data : Option (List UInt8)) :
    (nodesMachine sessions).step s (.downlink devAddr fPort data) = (s, none) ∨
      ∃ devEui data', (nodesMachine sessions).step s (.downlink devAddr fPort data) =
        (s.serial devEui (.downlink data'), none) := by
  simp only [nodesMachine]
  cases sessions.find? fun session => session.devAddr = devAddr with
  | none => exact .inl rfl
  | some session =>
    by_cases hport : fPort = some downlinkFport
    · simp only [hport, ne_eq, not_true_eq_false, if_false]
      cases data with
      | none => exact .inl rfl
      | some data => exact .inr ⟨session.devEui, data, rfl⟩
    · exact .inl (by simp only [ne_eq, hport, not_false_eq_true, if_true])

/-- A timeout that is pending fires. -/
theorem nodes_fire_cases (sessions : List DeviceSession) (s : Nodes) (id : Nat) :
    (nodesMachine sessions).step s (.fire id) = (s, none) ∨
      ∃ timer ∈ s.pending, timer.id = id ∧ (nodesMachine sessions).step s (.fire id) =
        ({ s with pending := s.pending.filter fun t => decide (t.id ≠ id) }.wake timer.devEui, none) := by
  simp only [nodesMachine]
  cases htimer : s.pending.find? fun t => t.id = id with
  | none => exact .inl rfl
  | some timer =>
    exact .inr ⟨timer, List.mem_of_find?_eq_some htimer, by simpa using List.find?_some htimer, rfl⟩

/-! ## Every run -/

theorem idle_inv : NodesInv Nodes.idle where
  linked := Chain.linked_empty
  timers :=
    { known := by simp [Nodes.idle]
      owner := by simp [Nodes.idle]
      bounded := by simp [Nodes.idle]
      single := List.nodup_nil }
  awake i t ht := by simp [Nodes.idle, Chain.State.empty] at ht

theorem nodesStart_inv (sessions : List DeviceSession) : NodesInv (Nodes.start sessions) := by
  have hfold : ∀ (s : Nodes), NodesInv s → NodesInv (sessions.foldl (fun s session => s.wake session.devEui) s) := by
    induction sessions with
    | nil => exact fun s h => h
    | cons session sessions ih => exact fun s h => ih _ (h.serial session.devEui .wake)
  exact hfold _ idle_inv

theorem nodesMachine_inv {sessions : List DeviceSession} (s : Nodes) (e : NodesEvent) (h : NodesInv s) :
    NodesInv ((nodesMachine sessions).step s e).1 := by
  cases e with
  | downlink devAddr fPort data =>
    rcases nodes_downlink_cases sessions s devAddr fPort data with hsame | ⟨devEui, data', hstep⟩
    · rw [hsame]
      exact h
    · rw [hstep]
      exact h.serial devEui (.downlink data')
  | fire id =>
    rcases nodes_fire_cases sessions s id with hsame | ⟨timer, htimer, hid, hstep⟩
    · rw [hsame]
      exact h
    · rw [hstep]
      exact h.fire htimer hid
  | start i =>
    rcases nodes_start_cases sessions h.linked i with hsame | ⟨t, ht, hw, hready, hstep⟩
    · rw [hsame]
      exact h
    · rw [hstep]
      exact h.begin ht hw hready t.key t.what
  | finish i sleepS =>
    rcases nodes_finish_cases sessions s i sleepS with hsame | ⟨t, ht, hr, ⟨sleep, hstep⟩ | ⟨hnot, hstep⟩⟩
    · rw [hsame]
      exact h
    · rw [hstep]
      exact (h.settle ht hr .done).1 sleep
    · rw [hstep]
      exact (h.settle ht hr .failed).2 hnot

/-- Every state the nodes reach, whatever happens in whatever order. -/
theorem nodesRun_inv (sessions : List DeviceSession) (es : List NodesEvent) :
    NodesInv ((nodesMachine sessions).run (Nodes.start sessions) es) :=
  (nodesMachine sessions).run_inv nodesMachine_inv (nodesStart_inv sessions) es

/-- How a task moves on: it waits, then runs, then is settled, and stays what it is. -/
def Moves (t t' : Chain.Task (List UInt8) NodeTask) : Prop :=
  t'.key = t.key ∧ t'.what = t.what ∧
    (t'.status = t.status ∨ (t.status = .waiting ∧ t'.status = .running) ∨ (t.status = .running ∧ t'.status.Settled))

theorem moves_refl (t : Chain.Task (List UInt8) NodeTask) : Moves t t := ⟨rfl, rfl, .inl rfl⟩

/-- A new status of task `i` moves it on, and leaves the others. -/
theorem moves_setStatus {s : Chain.State (List UInt8) NodeTask} {i j : Nat} {status : Chain.Status}
    {t u : Chain.Task (List UInt8) NodeTask} (ht : s.tasks[i]? = some t) (hu : s.tasks[j]? = some u)
    (h : (t.status = .waiting ∧ status = .running) ∨ (t.status = .running ∧ status.Settled)) :
    ∃ u', (s.setStatus i status).tasks[j]? = some u' ∧ Moves u u' := by
  rw [Chain.setStatus_getElem?, hu, Option.map_some]
  refine ⟨_, rfl, ?_⟩
  by_cases hij : i = j
  · subst hij
    obtain rfl : t = u := Option.some.inj (ht.symm.trans hu)
    rw [if_pos rfl]
    exact ⟨rfl, rfl, .inr h⟩
  · rw [if_neg hij]
    exact moves_refl u

/-- A step moves every task on or leaves it as it is. -/
theorem nodes_moves (sessions : List DeviceSession) {s : Nodes} (h : Chain.Linked s.chain) (e : NodesEvent) {j : Nat}
    {u : Chain.Task (List UInt8) NodeTask} (hu : s.chain.tasks[j]? = some u) :
    ∃ u', ((nodesMachine sessions).step s e).1.chain.tasks[j]? = some u' ∧ Moves u u' := by
  cases e with
  | downlink devAddr fPort data =>
    rcases nodes_downlink_cases sessions s devAddr fPort data with hsame | ⟨devEui, data', hstep⟩
    · rw [hsame]
      exact ⟨u, hu, moves_refl u⟩
    · rw [hstep]
      exact ⟨u, serial_getElem? hu devEui _, moves_refl u⟩
  | fire id =>
    rcases nodes_fire_cases sessions s id with hsame | ⟨timer, -, -, hstep⟩
    · rw [hsame]
      exact ⟨u, hu, moves_refl u⟩
    · rw [hstep]
      exact ⟨u, serial_getElem? hu timer.devEui .wake, moves_refl u⟩
  | start i =>
    rcases nodes_start_cases sessions h i with hsame | ⟨t, ht, hw, -, hstep⟩
    · rw [hsame]
      exact ⟨u, hu, moves_refl u⟩
    · rw [hstep, (begin_same _ t.key t.what).1]
      exact moves_setStatus ht hu (.inl ⟨hw, rfl⟩)
  | finish i sleepS =>
    rcases nodes_finish_cases sessions s i sleepS with hsame | ⟨t, ht, hr, ⟨sleep, hstep⟩ | ⟨-, hstep⟩⟩
    · rw [hsame]
      exact ⟨u, hu, moves_refl u⟩
    · rw [hstep, schedule_chain]
      exact moves_setStatus ht hu (.inr ⟨hr, .inl rfl⟩)
    · rw [hstep]
      exact moves_setStatus ht hu (.inr ⟨hr, .inr rfl⟩)

/-- A task is started exactly when all earlier tasks of its device are settled. -/
theorem nodes_start_iff (sessions : List DeviceSession) {s : Nodes} (h : Chain.Linked s.chain) {j : Nat}
    {u : Chain.Task (List UInt8) NodeTask} (hu : s.chain.tasks[j]? = some u) (hw : u.status = .waiting) :
    ((nodesMachine sessions).step s (.start j)).1.chain.tasks[j]? = some { u with status := .running } ↔
      ∀ i t, i < j → s.chain.tasks[i]? = some t → t.key = u.key → t.status.Settled := by
  rw [← h.react_running_iff hu hw]
  have hchain : ((nodesMachine sessions).step s (.start j)).1.chain = s.chain.react j := by
    simp only [nodesMachine, hu]
    split_ifs
    · exact (begin_same _ u.key u.what).1
    · rfl
  rw [hchain]

/-- A simulated node does one thing at a time. -/
structure OneAtATime (sessions : List DeviceSession) (s : Nodes) : Prop where
  /-- Tasks of a device run in the order they were submitted: none has started before all earlier ones are settled. -/
  order : ∀ (i j : Nat) (t u : Chain.Task (List UInt8) NodeTask), s.chain.tasks[i]? = some t → s.chain.tasks[j]? = some u →
    i < j → t.key = u.key → u.status ≠ .waiting → t.status.Settled
  /-- A waiting task can start as soon as the earlier ones of its device are settled, failed or not, whatever other devices do. -/
  ready : ∀ (j : Nat) (u : Chain.Task (List UInt8) NodeTask), s.chain.tasks[j]? = some u → u.status = .waiting →
    (((nodesMachine sessions).step s (.start j)).1.chain.tasks[j]? = some { u with status := .running } ↔
      ∀ i t, i < j → s.chain.tasks[i]? = some t → t.key = u.key → t.status.Settled)
  /-- A task that was submitted waits, then runs, then is settled. -/
  moves : ∀ (e : NodesEvent) (j : Nat) (u : Chain.Task (List UInt8) NodeTask), s.chain.tasks[j]? = some u →
    ∃ u', ((nodesMachine sessions).step s e).1.chain.tasks[j]? = some u' ∧ Moves u u'
  /-- At most one timeout of a device is pending. -/
  timer : ∀ devEui, (s.pending.filter fun t => decide (t.devEui = devEui)).length ≤ 1
  /-- A device that has woken once has a wake pending, queued or running. -/
  awake : ∀ (i : Nat) (t : Chain.Task (List UInt8) NodeTask), s.chain.tasks[i]? = some t → t.what = .wake →
    (∃ timer ∈ s.pending, timer.devEui = t.key) ∨
      ∃ (j : Nat) (u : Chain.Task (List UInt8) NodeTask), s.chain.tasks[j]? = some u ∧ u.key = t.key ∧ u.what = .wake ∧
        (u.status = .waiting ∨ u.status = .running)

/-- For any devices, and downlinks, timeouts, starts and ends of firmware calls in any order, every node does one thing at a
time. -/
theorem one_thing_at_a_time (sessions : List DeviceSession) (es : List NodesEvent) :
    OneAtATime sessions ((nodesMachine sessions).run (Nodes.start sessions) es) := by
  have h := nodesRun_inv sessions es
  exact
    { order := fun i j t u ht hu hij hkey hstarted => h.linked.settled_before ht hu hij hkey hstarted
      ready := fun j u hu hw => nodes_start_iff sessions h.linked hu hw
      moves := fun e j u hu => nodes_moves sessions h.linked e hu
      timer := h.timers.length_le_one
      awake := fun i t ht hwake => by
        refine (h.awake i t ht hwake).imp_right ?_
        rintro ⟨j, u, hu, hkey, hwhat, hopen⟩
        exact ⟨j, u, hu, hkey, hwhat, Chain.Status.not_settled_iff.1 hopen⟩ }

end AirQuality

import AirQuality.Ingestion.Service
import Mathlib.Data.List.Induction

/-!
# What a schedule makes of its messages

A schedule fixes which messages arrive and how the calls of each execution end. How far execution `i` has come is decided by
these two alone: the part of `handleUplink` before its first `await`, moved on by the calls of `i` that have returned or failed
since message `i` arrived (`execs_getElem?`). What other executions do, and the stores, have no part in it.
-/

namespace AirQuality

/-- How a call of execution `i` ends in a step, if one does: `true` if it returns, `false` if it fails. -/
def Action.ends (i : Nat) : Action → Option Bool
  | .deliver _ _ => none
  | .resolve j => if j = i then some true else none
  | .reject j _ => if j = i then some false else none

/-- How the calls of execution `i` end over a schedule, in order, if `n` messages have arrived before it. Nothing counts before
message `i` has arrived. -/
def endsFrom (i : Nat) : Nat → List Action → List Bool
  | _, [] => []
  | n, .deliver _ _ :: as => endsFrom i (n + 1) as
  | n, a :: as => (if i < n then (a.ends i).toList else []) ++ endsFrom i n as

/-- How the calls of execution `i` end over a schedule. -/
def ends (i : Nat) (as : List Action) : List Bool := endsFrom i 0 as

/-- Where an execution goes on once the call it awaits, if it awaits one, has ended. -/
def Exec.after (e : Exec) : Bool → Exec
  | true => e.next
  | false => if e.awaits = true then .dropped .error else e

variable (dateParse : String → Option ℤ) (rows : List ReadingPayload)

/-- The message of a step, as the part of `handleUplink` before its first `await` leaves it. -/
def Action.handled : Action → Option Handled
  | .deliver uplink now => some (handleUplink dateParse now uplink)
  | _ => none

/-- The messages of a schedule, in the order they arrive. -/
def messages (as : List Action) : List Handled := as.filterMap (Action.handled dateParse)

/-- The service after a schedule. -/
def serviceAfter (as : List Action) : Service := (ingestion dateParse).run (Service.start rows) as

/-- The service before step `k` of a schedule. -/
def serviceAt (as : List Action) (k : Nat) : Service := serviceAfter dateParse rows (as.take k)

/-! ## One more step -/

theorem serviceAfter_snoc (as : List Action) (a : Action) :
    serviceAfter dateParse rows (as ++ [a]) = ((ingestion dateParse).step (serviceAfter dateParse rows as) a).1 :=
  (ingestion dateParse).run_snoc _ as a

theorem messages_snoc (as : List Action) (a : Action) :
    messages dateParse (as ++ [a]) = messages dateParse as ++ (a.handled dateParse).toList := by
  rw [messages, List.filterMap_append]
  cases h : a.handled dateParse <;> simp [h, messages]

theorem endsFrom_snoc (i n : Nat) (as : List Action) (a : Action) :
    endsFrom i n (as ++ [a]) =
      endsFrom i n as ++ if i < n + (messages dateParse as).length then (a.ends i).toList else [] := by
  induction as generalizing n with
  | nil => cases a <;> simp [endsFrom, messages, Action.ends]
  | cons b as ih =>
    cases b with
    | deliver uplink now =>
      have hmessages : (messages dateParse (.deliver uplink now :: as)).length = (messages dateParse as).length + 1 := rfl
      rw [List.cons_append, endsFrom, endsFrom, ih, hmessages, Nat.add_assoc, Nat.add_comm 1]
    | resolve j =>
      have hmessages : messages dateParse (.resolve j :: as) = messages dateParse as := rfl
      simp [endsFrom, ih, hmessages]
    | reject j applied =>
      have hmessages : messages dateParse (.reject j applied :: as) = messages dateParse as := rfl
      simp [endsFrom, ih, hmessages]

/-- A step ends a call of execution `i` only once message `i` has arrived. -/
theorem ends_snoc (i : Nat) (as : List Action) (a : Action) :
    ends i (as ++ [a]) = ends i as ++ if i < (messages dateParse as).length then (a.ends i).toList else [] := by
  rw [ends, endsFrom_snoc dateParse, Nat.zero_add]
  rfl

theorem ends_eq_nil {i : Nat} {as : List Action} (h : (messages dateParse as).length ≤ i) : ends i as = [] := by
  induction as using List.reverseRecOn with
  | nil => rfl
  | append_singleton as a ih =>
    rw [messages_snoc, List.length_append] at h
    have hle : (messages dateParse as).length ≤ i := Nat.le_of_add_right_le h
    rw [ends_snoc dateParse, ih hle, if_neg (Nat.not_lt.2 hle)]
    rfl

/-! ## What a step does to the executions -/

theorem after_of_not_awaits {e : Exec} (h : e.awaits = false) (returned : Bool) : e.after returned = e := by
  cases returned with
  | true => cases e <;> first | rfl | cases h
  | false => simp [Exec.after, h]

theorem modify_of_getElem? {l : List Exec} {j : Nat} {e : Exec} (he : l[j]? = some e) (f : Exec → Exec) :
    l.modify j f = l.set j (f e) := by
  refine List.ext_getElem? fun i => ?_
  rw [List.getElem?_modify, List.getElem?_set]
  by_cases hij : j = i
  · subst hij
    rw [he, if_pos rfl, if_pos (List.getElem?_eq_some_iff.1 he).1]
    exact congrArg some (if_pos rfl)
  · simp [hij]

/-- If an execution awaits no call, ending one of its calls changes nothing. -/
theorem modify_after_of_idle {l : List Exec} {j : Nat} (h : ∀ e, l[j]? = some e → e.awaits = false) (returned : Bool) :
    l.modify j (Exec.after · returned) = l := by
  cases he : l[j]? with
  | none => exact List.modify_eq_self (List.getElem?_eq_none_iff.1 he)
  | some e =>
    rw [modify_of_getElem? he, after_of_not_awaits (h e he)]
    obtain ⟨hj, rfl⟩ := List.getElem?_eq_some_iff.1 he
    exact List.set_getElem_self hj

theorem resolve_execs (s : Service) (j : Nat) : (s.resolve j).execs = s.execs.modify j (Exec.after · true) := by
  unfold Service.resolve
  cases he : s.execs[j]? with
  | none => exact (modify_after_of_idle (by simp [he]) true).symm
  | some e =>
    dsimp only
    split_ifs with haw
    · exact (modify_of_getElem? he (Exec.after · true)).symm
    · refine (modify_after_of_idle (fun f hf => ?_) true).symm
      obtain rfl := Option.some.inj (he.symm.trans hf)
      simpa using haw

theorem reject_execs (s : Service) (j : Nat) (applied : Bool) :
    (s.reject j applied).execs = s.execs.modify j (Exec.after · false) := by
  unfold Service.reject
  cases he : s.execs[j]? with
  | none => exact (modify_after_of_idle (by simp [he]) false).symm
  | some e =>
    dsimp only
    split_ifs with haw
    · rw [modify_of_getElem? he, Exec.after, if_pos haw]
    · rw [modify_of_getElem? he, Exec.after, if_pos haw]
    · refine (modify_after_of_idle (fun f hf => ?_) false).symm
      obtain rfl := Option.some.inj (he.symm.trans hf)
      simpa using haw

/-- A step adds the execution of the message it delivers, or moves on the execution it ends a call of. -/
theorem step_execs (s : Service) (a : Action) :
    (∃ handled, a.handled dateParse = some handled ∧ (∀ i, a.ends i = none) ∧
      ((ingestion dateParse).step s a).1.execs = s.execs ++ [handled.exec]) ∨
    (∃ j returned, a.handled dateParse = none ∧ (∀ i, a.ends i = if j = i then some returned else none) ∧
      ((ingestion dateParse).step s a).1.execs = s.execs.modify j (Exec.after · returned)) := by
  cases a with
  | deliver uplink now => exact Or.inl ⟨_, rfl, fun _ => rfl, rfl⟩
  | resolve j => exact Or.inr ⟨j, true, rfl, fun _ => rfl, resolve_execs s j⟩
  | reject j applied => exact Or.inr ⟨j, false, rfl, fun _ => rfl, reject_execs s j applied⟩

theorem step_execs_length (s : Service) (a : Action) :
    ((ingestion dateParse).step s a).1.execs.length = s.execs.length + (a.handled dateParse).toList.length := by
  rcases step_execs dateParse s a with ⟨handled, hhandled, -, hstep⟩ | ⟨j, returned, hhandled, -, hstep⟩
  · simp [hstep, hhandled]
  · simp [hstep, hhandled]

/-! ## Whole schedules -/

/-- Each message has its execution. -/
theorem execs_length (as : List Action) : (serviceAfter dateParse rows as).execs.length = (messages dateParse as).length := by
  induction as using List.reverseRecOn with
  | nil => rfl
  | append_singleton as a ih => rw [serviceAfter_snoc, step_execs_length, messages_snoc, List.length_append, ih]

/-- How far execution `i` has come: its calls have ended as the schedule says. -/
theorem execs_getElem? (as : List Action) (i : Nat) :
    (serviceAfter dateParse rows as).execs[i]? =
      (messages dateParse as)[i]?.map (fun handled => (ends i as).foldl Exec.after handled.exec) := by
  induction as using List.reverseRecOn with
  | nil => rfl
  | append_singleton as a ih =>
    have hlength := execs_length dateParse rows as
    rw [serviceAfter_snoc, messages_snoc, ends_snoc dateParse]
    rcases step_execs dateParse (serviceAfter dateParse rows as) a with ⟨handled, hhandled, hends, hstep⟩ |
      ⟨j, returned, hhandled, hends, hstep⟩
    · rw [hstep, hhandled, hends, Option.toList_none, ite_self, List.append_nil]
      rcases Nat.lt_or_ge i (messages dateParse as).length with hi | hi
      · rw [List.getElem?_append_left (by rwa [hlength]), Option.toList_some, List.getElem?_append_left hi, ih]
      · -- a new execution, of which no call has ended
        rw [List.getElem?_append_right (by rwa [hlength]), Option.toList_some, List.getElem?_append_right hi, hlength,
          ends_eq_nil dateParse hi]
        cases i - (messages dateParse as).length <;> rfl
    · rw [hstep, List.getElem?_modify, ih, hhandled, hends, Option.toList_none, List.append_nil]
      cases hmessage : (messages dateParse as)[i]? with
      | none => rfl
      | some handled =>
        rw [if_pos (List.getElem?_eq_some_iff.1 hmessage).1]
        by_cases hij : j = i
        · simp [hij]
        · simp [hij]

/-! ## The calls of an execution -/

/-- No call leads back to the insert. -/
theorem after_ne_persisting (e : Exec) (returned : Bool) (p : ReadingPayload) : e.after returned ≠ .persisting p := by
  cases returned <;> cases e <;> simp [Exec.after, Exec.next, Exec.awaits]

/-- No call leads to the SET of a config. -/
theorem after_ne_reporting (e : Exec) (returned : Bool) (c : DeviceConfig) : e.after returned ≠ .reporting c := by
  cases returned <;> cases e <;> simp [Exec.after, Exec.next, Exec.awaits]

/-- Only the insert leads to the SET of a reading, if it returns. -/
theorem after_eq_caching_iff (e : Exec) (returned : Bool) (p : ReadingPayload) :
    e.after returned = .caching p ↔ e = .persisting p ∧ returned = true := by
  cases returned <;> cases e <;> simp [Exec.after, Exec.next, Exec.awaits]

theorem foldl_after_eq_persisting_iff {handled : Handled} {returned : List Bool} {p : ReadingPayload} :
    returned.foldl Exec.after handled.exec = .persisting p ↔ handled = .reading p ∧ returned = [] := by
  rcases List.eq_nil_or_concat returned with rfl | ⟨init, last, rfl⟩
  · cases handled <;> simp [Handled.exec]
  · rw [List.concat_eq_append, List.foldl_append]
    exact iff_of_false (after_ne_persisting _ last p) (by simp)

/-- An execution awaits the SET of a reading if its insert has returned, and nothing else has ended. -/
theorem foldl_after_eq_caching_iff {handled : Handled} {returned : List Bool} {p : ReadingPayload} :
    returned.foldl Exec.after handled.exec = .caching p ↔ handled = .reading p ∧ returned = [true] := by
  rcases List.eq_nil_or_concat returned with rfl | ⟨init, last, rfl⟩
  · cases handled <;> simp [Handled.exec]
  · rw [List.concat_eq_append, List.foldl_append]
    refine (after_eq_caching_iff _ last p).trans ?_
    rw [foldl_after_eq_persisting_iff, and_assoc]
    refine and_congr_right fun _ => ?_
    constructor
    · rintro ⟨rfl, rfl⟩
      rfl
    · intro h
      cases init with
      | nil => exact ⟨rfl, (List.cons.inj h).1⟩
      | cons b init => simp at h

/-- An execution awaits the SET of a config as long as no call of it has ended. -/
theorem foldl_after_eq_reporting_iff {handled : Handled} {returned : List Bool} {c : DeviceConfig} :
    returned.foldl Exec.after handled.exec = .reporting c ↔ handled = .config c ∧ returned = [] := by
  rcases List.eq_nil_or_concat returned with rfl | ⟨init, last, rfl⟩
  · cases handled <;> simp [Handled.exec]
  · rw [List.concat_eq_append, List.foldl_append]
    exact iff_of_false (after_ne_reporting _ last c) (by simp)

/-! ## When a SET takes effect -/

/-- A call of execution `i` takes effect at step `k` of a schedule: it returns, or fails having been applied. -/
def EffectAt (as : List Action) (k i : Nat) : Prop := as[k]? = some (.resolve i) ∨ as[k]? = some (.reject i true)

/-- The SET of a reading takes effect at step `k` of a schedule: of the calls of its execution one has ended, the insert, which
has returned, and the next takes effect at this step. -/
def ReadingSetAt (as : List Action) (k : Nat) (p : ReadingPayload) : Prop :=
  ∃ i, (messages dateParse (as.take k))[i]? = some (.reading p) ∧ ends i (as.take k) = [true] ∧ EffectAt as k i

/-- The SET of a config takes effect at step `k` of a schedule: the first call of its execution takes effect at this step. -/
def ConfigSetAt (as : List Action) (k : Nat) (c : DeviceConfig) : Prop :=
  ∃ i, (messages dateParse (as.take k))[i]? = some (.config c) ∧ ends i (as.take k) = [] ∧ EffectAt as k i

/-- The execution whose call takes effect at step `k`, as the messages and the calls before it leave it. -/
theorem effective_iff (as : List Action) (k : Nat) (e : Exec) :
    (∃ a, as[k]? = some a ∧ (serviceAt dateParse rows as k).effective a = some e) ↔
      ∃ i handled, (messages dateParse (as.take k))[i]? = some handled ∧
        (ends i (as.take k)).foldl Exec.after handled.exec = e ∧ EffectAt as k i := by
  have hexec : ∀ i, (serviceAt dateParse rows as k).execs[i]? = some e ↔
      ∃ handled, (messages dateParse (as.take k))[i]? = some handled ∧
        (ends i (as.take k)).foldl Exec.after handled.exec = e := by
    intro i
    rw [serviceAt, execs_getElem?, Option.map_eq_some_iff]
  constructor
  · rintro ⟨a, ha, he⟩
    cases a with
    | deliver uplink now => cases he
    | resolve i =>
      obtain ⟨handled, hmessage, hends⟩ := (hexec i).1 he
      exact ⟨i, handled, hmessage, hends, Or.inl ha⟩
    | reject i applied =>
      cases applied with
      | false => cases he
      | true =>
        obtain ⟨handled, hmessage, hends⟩ := (hexec i).1 he
        exact ⟨i, handled, hmessage, hends, Or.inr ha⟩
  · rintro ⟨i, handled, hmessage, hends, ha | ha⟩
    · exact ⟨_, ha, (hexec i).2 ⟨handled, hmessage, hends⟩⟩
    · exact ⟨_, ha, (hexec i).2 ⟨handled, hmessage, hends⟩⟩

theorem readingSetAt_iff (as : List Action) (k : Nat) (p : ReadingPayload) :
    ReadingSetAt dateParse as k p ↔
      ∃ a, as[k]? = some a ∧ (serviceAt dateParse rows as k).effective a = some (.caching p) := by
  rw [effective_iff]
  simp only [foldl_after_eq_caching_iff]
  constructor
  · rintro ⟨i, hmessage, hends, heffect⟩
    exact ⟨i, _, hmessage, ⟨rfl, hends⟩, heffect⟩
  · rintro ⟨i, handled, hmessage, ⟨rfl, hends⟩, heffect⟩
    exact ⟨i, hmessage, hends, heffect⟩

theorem configSetAt_iff (as : List Action) (k : Nat) (c : DeviceConfig) :
    ConfigSetAt dateParse as k c ↔
      ∃ a, as[k]? = some a ∧ (serviceAt dateParse rows as k).effective a = some (.reporting c) := by
  rw [effective_iff]
  simp only [foldl_after_eq_reporting_iff]
  constructor
  · rintro ⟨i, hmessage, hends, heffect⟩
    exact ⟨i, _, hmessage, ⟨rfl, hends⟩, heffect⟩
  · rintro ⟨i, handled, hmessage, ⟨rfl, hends⟩, heffect⟩
    exact ⟨i, hmessage, hends, heffect⟩

end AirQuality

import AirQuality.Lib.Machine

/-!
# Acknowledging in the next transmission

What it means for a sleeping device to acknowledge its commands. At each wake it sends one message, either its ordinary one or a
report, and may receive a command afterwards. The report answers what happened in the wake before: a command, or the start of
the device. Nothing is owed across a power cut, after which the device starts anew.
-/

namespace Acknowledge

/-- A wake, after whose message a command may come in, or a loss of power. -/
inductive Input where
  | wake (commanded : Bool)
  | powerCut
deriving DecidableEq

/-- The message of a wake. -/
inductive Sent where
  | ordinary
  | report
deriving DecidableEq

/-- The device: `none` until it starts, then whether a report is owed. -/
def machine : Machine (Option Bool) Input (Option Sent) where
  step
    | none, .wake _ => (some true, some .ordinary)
    | some owed, .wake commanded => (some commanded, some (if owed = true then .report else .ordinary))
    | _, .powerCut => (none, none)

/-- The message sent at step `k` of a run, `none` if there is no such step or the step is a power cut. -/
def sentAt (is : List Input) (k : Nat) : Option Sent := ((machine.outputs none is)[k]?).join

/-- At step `k` of a run the device starts: it is the first step, or the power was cut just before. -/
def StartsAt {α : Type*} (cut : α) (is : List α) (k : Nat) : Prop := k = 0 ∨ is[k - 1]? = some cut

/-- A step between `i` and `j` would neither cut the power nor bring another command: what step `j` sends answers step `i`. -/
def Answers (is : List Input) (i j : Nat) : Prop := i < j ∧ ∀ k, i < k → k < j → is[k]? = some (.wake false)

/-! ## Step by step -/

theorem run_take_succ {is : List Input} {k : Nat} {i : Input} (h : is[k]? = some i) :
    machine.run none (is.take (k + 1)) = (machine.step (machine.run none (is.take k)) i).1 := by
  rw [List.take_add_one, h, Option.toList_some, Machine.run_snoc]

/-- The device is off before step `k` exactly if it starts there. -/
theorem run_take_eq_none_iff {is : List Input} {k : Nat} (hk : k ≤ is.length) :
    machine.run none (is.take k) = none ↔ StartsAt .powerCut is k := by
  cases k with
  | zero => exact iff_of_true rfl (Or.inl rfl)
  | succ k =>
    obtain ⟨i, hi⟩ : ∃ i, is[k]? = some i := ⟨is[k], List.getElem?_eq_getElem hk⟩
    have hstart : StartsAt .powerCut is (k + 1) ↔ i = .powerCut := by simp [StartsAt, hi]
    rw [run_take_succ hi, hstart]
    cases i with
    | powerCut => cases machine.run none (is.take k) <;> simp [machine]
    | wake commanded => cases machine.run none (is.take k) <;> simp [machine]

/-- After a wake, a report is owed exactly if the device started in it or received a command. -/
theorem run_take_wake {is : List Input} {k : Nat} {commanded : Bool} (h : is[k]? = some (.wake commanded)) :
    ∃ owed, machine.run none (is.take (k + 1)) = some owed ∧
      (owed = true ↔ StartsAt .powerCut is k ∨ commanded = true) := by
  have hk : k ≤ is.length := Nat.le_of_lt (List.getElem?_eq_some_iff.1 h).1
  rw [run_take_succ h, ← run_take_eq_none_iff hk]
  cases machine.run none (is.take k) with
  | none => exact ⟨true, rfl, by simp⟩
  | some owed => exact ⟨commanded, rfl, by simp⟩

theorem sentAt_eq {is : List Input} {k : Nat} {i : Input} (h : is[k]? = some i) :
    sentAt is k = (machine.step (machine.run none (is.take k)) i).2 := by
  simp [sentAt, Machine.outputs_getElem?, h]

/-! ## Whole runs -/

/-- The device starts with its ordinary message. -/
theorem sentAt_start {is : List Input} {k : Nat} {commanded : Bool} (h : is[k]? = some (.wake commanded))
    (hstart : StartsAt .powerCut is k) : sentAt is k = some .ordinary := by
  have hk : k ≤ is.length := Nat.le_of_lt (List.getElem?_eq_some_iff.1 h).1
  rw [sentAt_eq h, (run_take_eq_none_iff hk).2 hstart]
  rfl

/-- A wake that follows a wake sends a report exactly if the device started in that wake or received a command there. -/
theorem sentAt_succ {is : List Input} {k : Nat} {c c' : Bool} (h : is[k]? = some (.wake c))
    (h' : is[k + 1]? = some (.wake c')) :
    (sentAt is (k + 1) = some .report ↔ StartsAt .powerCut is k ∨ c = true) ∧
      (sentAt is (k + 1) = some .report ∨ sentAt is (k + 1) = some .ordinary) := by
  obtain ⟨owed, hrun, howed⟩ := run_take_wake h
  rw [sentAt_eq h', hrun, ← howed]
  cases owed
  · exact ⟨by simp [machine], Or.inr rfl⟩
  · exact ⟨by simp [machine], Or.inl rfl⟩

/-- Only a wake sends a report. -/
theorem wake_of_report {is : List Input} {k : Nat} (h : sentAt is k = some .report) : ∃ c, is[k]? = some (.wake c) := by
  cases hi : is[k]? with
  | none =>
    rw [sentAt, Machine.outputs_getElem?, hi] at h
    cases h
  | some i =>
    cases i with
    | wake c => exact ⟨c, rfl⟩
    | powerCut =>
      rw [sentAt_eq hi] at h
      cases hrun : machine.run none (is.take k) <;> rw [hrun] at h <;> cases h

/-- A command is answered by one report, the message of the next wake, and by none if there is no next wake. -/
theorem answering_report_iff {is : List Input} {i : Nat} (h : is[i]? = some (.wake true)) (j : Nat) :
    Answers is i j ∧ sentAt is j = some .report ↔ j = i + 1 ∧ ∃ c, is[i + 1]? = some (.wake c) := by
  constructor
  · rintro ⟨⟨hij, hbetween⟩, hreport⟩
    obtain ⟨c, hj⟩ := wake_of_report hreport
    by_cases hnext : j = i + 1
    · subst hnext
      exact ⟨rfl, c, hj⟩
    · -- the wake before `j` lies strictly between: it brought no command, and the device did not start in it
      obtain ⟨k, rfl⟩ : ∃ k, j = k + 1 := ⟨j - 1, by omega⟩
      have hk := hbetween k (by omega) (by omega)
      rcases (sentAt_succ hk hj).1.1 hreport with (hzero | hcut) | hcommand
      · omega
      · rcases Nat.lt_or_ge i (k - 1) with hlt | hge
        · rw [hbetween (k - 1) hlt (by omega)] at hcut
          cases hcut
        · rw [show k - 1 = i by omega, h] at hcut
          cases hcut
      · cases hcommand
  · rintro ⟨rfl, c, hc⟩
    refine ⟨⟨Nat.lt_succ_self i, fun k hik hki => ?_⟩, (sentAt_succ h hc).1.2 (Or.inr rfl)⟩
    omega

end Acknowledge

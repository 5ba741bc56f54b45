import Mathlib.Data.Int.LeastGreatest
import Mathlib.Order.Bounds.Basic
import Mathlib.Tactic.Common

namespace Clocks

/-! Clocks that go forward with time, but are now and then put forward or back. Instants and readings are
counted in the same unit. -/

/-- What a clock would show at an instant had it only gone on. -/
def due (clock : Int → Int) (t : Int) : Int := clock (t - 1) + 1

def Changes (clock : Int → Int) (t : Int) : Prop := clock t ≠ due clock t

/-- Put forward at an instant, the clock leaves these readings out. -/
def Skips (clock : Int → Int) (t reading : Int) : Prop := due clock t ≤ reading ∧ reading < clock t

/-- The instant a reading stands for: the first that shows it or, if it is left out, the one at which it is. -/
def StandsFor (clock : Int → Int) (reading t : Int) : Prop :=
  IsLeast {u | clock u = reading} t ∨ Skips clock t reading

/-- No reading is touched by two changes, in whichever direction they go, and the clock is never
further than a bound from the time. -/
structure Regular (clock : Int → Int) : Prop where
  apart : ∀ {s t}, s < t → Changes clock s → Changes clock t →
    max (due clock s) (clock s) ≤ min (due clock t) (clock t)
  bounded : ∃ bound, ∀ t, t - bound ≤ clock t ∧ clock t ≤ t + bound

variable {clock : Int → Int}

theorem Skips.changes {t reading : Int} (skipped : Skips clock t reading) : Changes clock t := by
  unfold Skips at skipped
  unfold Changes
  omega

theorem due_succ (t : Int) : due clock (t + 1) = clock t + 1 := by rw [due, Int.add_sub_cancel]

/-- A clock that is not changed goes forward with time. -/
theorem goes_on {s t : Int} (after : s ≤ t) (still : ∀ u, s < u → u ≤ t → ¬ Changes clock u) :
    clock t = clock s + (t - s) := by
  induction t, after using Int.leInduction with
  | base => omega
  | succ t after ih =>
    have before := ih fun u later within => still u later (by omega)
    have last : clock (t + 1) = due clock (t + 1) := not_not.mp (still (t + 1) (by omega) le_rfl)
    rw [last, due_succ, before]
    omega

namespace Regular
variable (regular : Regular clock) {t : Int}
include regular

/-- Until it is changed, a clock has only shown what comes before the reading then due. -/
theorem lt_due (changed : Changes clock t) {u : Int} (before : u < t) : clock u < due clock t := by
  -- the first change after `u` is this one, or one whose readings all come before those of this one
  obtain ⟨first, ⟨later, changes⟩, least⟩ := Int.exists_least_of_bdd (P := fun c => u < c ∧ Changes clock c)
    ⟨u, fun c change => change.1.le⟩ ⟨t, before, changed⟩
  have run := goes_on (by omega : u ≤ first - 1) fun c after within change => by
    have minimal := least c ⟨after, change⟩
    omega
  have there : clock u < due clock first := by
    unfold due
    omega
  rcases (least t ⟨before, changed⟩).eq_or_lt with same | earlier
  · rwa [same] at there
  · have apart := regular.apart earlier changes changed
    omega

/-- Once changed, it only shows what it then shows or what comes after. -/
theorem le_of_changes (changed : Changes clock t) {u : Int} (after : t ≤ u) : clock t ≤ clock u := by
  obtain ⟨last, ⟨earlier, changes⟩, greatest⟩ := Int.exists_greatest_of_bdd (P := fun c => c ≤ u ∧ Changes clock c)
    ⟨u, fun c change => change.1⟩ ⟨t, after, changed⟩
  have run := goes_on earlier fun c later within change => by
    have maximal := greatest c ⟨within, change⟩
    omega
  rcases (greatest t ⟨after, changed⟩).eq_or_lt with same | later
  · rw [← same] at run
    omega
  · have apart := regular.apart later changed changes
    omega

theorem not_shown {reading : Int} (skipped : Skips clock t reading) (u : Int) : clock u ≠ reading := by
  unfold Skips at skipped
  have changed := Skips.changes skipped
  rcases lt_or_ge u t with before | after
  · have early := regular.lt_due changed before
    omega
  · have late := regular.le_of_changes changed after
    omega

theorem isLeast_of_skips {reading : Int} (skipped : Skips clock t reading) : IsLeast {u | clock u = clock t} t := by
  refine ⟨rfl, fun u (shows : clock u = clock t) => ?_⟩
  by_contra before
  have early := regular.lt_due skipped.changes (not_le.mp before)
  unfold Skips at skipped
  omega

/-- What no instant shows is left out at one. -/
theorem exists_skips {reading : Int} (missing : ∀ u, clock u ≠ reading) : ∃ t, Skips clock t reading := by
  obtain ⟨bound, near⟩ := regular.bounded
  have some_ : ∃ u, clock u < reading := ⟨reading - bound - 1, by have := near (reading - bound - 1); omega⟩
  obtain ⟨last, before, greatest⟩ := Int.exists_greatest_of_bdd (P := fun u => clock u < reading)
    ⟨reading + bound, fun u early => by have := near u; omega⟩ some_
  have next : ¬ clock (last + 1) < reading := fun early => by
    have maximal := greatest (last + 1) early
    omega
  have differs := missing (last + 1)
  have dueThen : due clock (last + 1) = clock last + 1 := due_succ last
  exact ⟨last + 1, by unfold Skips; omega⟩

/-- Each reading stands for an instant. -/
theorem exists_standsFor (reading : Int) : ∃ t, StandsFor clock reading t := by
  by_cases shown : ∃ u, clock u = reading
  · obtain ⟨bound, near⟩ := regular.bounded
    obtain ⟨first, shows, least⟩ := Int.exists_least_of_bdd (P := fun u => clock u = reading)
      ⟨reading - bound, fun u shows => by have := near u; omega⟩ shown
    exact ⟨first, .inl ⟨shows, least⟩⟩
  · obtain ⟨t, skipped⟩ := regular.exists_skips (not_exists.mp shown)
    exact ⟨t, .inr skipped⟩

/-- The first instant to show a reading comes no later than any that shows a later one. -/
theorem first_le {reading later u : Int} (first : IsLeast {v | clock v = reading} t) (shows : clock u = later)
    (le : reading ≤ later) : t ≤ u := by
  obtain ⟨bound, near⟩ := regular.bounded
  by_contra before
  -- the last instant until `u` that has not come past the reading shows it, or the next one skips it,
  -- and then it is not shown at `t`
  obtain ⟨last, ⟨until_, behind⟩, greatest⟩ := Int.exists_greatest_of_bdd (P := fun v => v ≤ u ∧ clock v ≤ reading)
    ⟨u, fun v there => there.1⟩
    ⟨min u (reading - bound), by omega, by have := near (min u (reading - bound)); omega⟩
  have notYet : clock last ≠ reading := fun there => by
    have least := first.2 there
    omega
  have reached : clock t = reading := first.1
  have short : last < u := by
    refine lt_of_le_of_ne until_ fun same => ?_
    rw [same] at behind notYet
    omega
  have past : reading < clock (last + 1) := by
    by_contra still
    have maximal := greatest (last + 1) ⟨by omega, by omega⟩
    omega
  have dueThen : due clock (last + 1) = clock last + 1 := due_succ last
  have changed : Changes clock (last + 1) := by
    unfold Changes
    omega
  have late := regular.le_of_changes changed (by omega : last + 1 ≤ t)
  omega

theorem standsFor_le {reading later u : Int} (first : StandsFor clock reading t) (second : StandsFor clock later u)
    (le : reading ≤ later) : t ≤ u := by
  rcases first with first | skipped
  · rcases second with shown | skippedToo
    · exact regular.first_le first shown.1 le
    · -- what is left out comes after all that was shown before
      by_contra before
      have late := regular.le_of_changes skippedToo.changes (by omega : u ≤ t)
      have reached : clock t = reading := first.1
      unfold Skips at skippedToo
      omega
  · have changed := skipped.changes
    by_contra before
    rcases second with shown | skippedToo
    · have early := regular.lt_due changed (by omega : u < t)
      have reached : clock u = later := shown.1
      unfold Skips at skipped
      omega
    · have apart := regular.apart (by omega : u < t) skippedToo.changes changed
      unfold Skips at skipped skippedToo
      omega

theorem standsFor_unique {reading u : Int} (first : StandsFor clock reading t) (second : StandsFor clock reading u) :
    t = u :=
  le_antisymm (regular.standsFor_le first second le_rfl) (regular.standsFor_le second first le_rfl)

end Regular

end Clocks

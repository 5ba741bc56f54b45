import CoopSpaces.Lib.Clocks
import CoopSpaces.Server.CalendarFeed

namespace CoopSpaces

open Clocks (Skips StandsFor Regular)

/-- A zone that puts its clock forward and back, by any length, where no two changes touch the same wall clock. -/
structure ZoneClock extends Tz where
  regular : Regular localTime

namespace Chrono
variable (chrono : Chrono)

def Has (t : Int) : Prop := chrono.minUtc ≤ t ∧ t ≤ chrono.maxUtc

instance (t : Int) : Decidable (chrono.Has t) := inferInstanceAs (Decidable (_ ∧ _))

/-- The wall clocks range over the same years as the instants. -/
def NaiveDateTime := {naive : Int // chrono.Has naive}

theorem add_eq (t duration : Int) :
    chrono.add t duration = if chrono.Has (t + duration) then some (t + duration) else none :=
  rfl

end Chrono

/-- A zone shows the wall clock, and only at instants that the library has. -/
def ZoneClock.Finds (zone : ZoneClock) (chrono : Chrono) (naive : Int) : Prop :=
  (∃ u, zone.localTime u = naive) ∧ ∀ u, zone.localTime u = naive → chrono.Has u

/-- How the library reads the wall clocks of a zone: as the first of the instants, if it has them all. -/
structure LocalDateTimes (chrono : Chrono) (zone : ZoneClock) where
  earliest : Int → Option Int
  reads : ∀ {naive t}, earliest naive = some t → IsLeast {u | zone.localTime u = naive} t
  finds : ∀ {naive}, (earliest naive).isSome ↔ zone.Finds chrono naive

namespace LocalDateTimes
variable {chrono : Chrono} {zone : ZoneClock} (library : LocalDateTimes chrono zone)

/-- The first wall clock found so many hours further on, or else the wall clock itself as one of
UTC. Nothing if a sum panics. -/
def walkForward (naive : Int) : List Int → Option Int
  | [] => some naive
  | hours :: rest =>
    match chrono.add naive (hours * HOUR) with
    | none => none
    | some shifted =>
      match library.earliest shifted with
      | some t => some t
      | none => walkForward naive rest

/-- A wall clock in a zone, as an instant. -/
def toUtc (naive : Int) : Option Int :=
  match library.earliest naive with
  | some t => some t
  | none => library.walkForward naive [1, 2, 3]

theorem not_found_iff {naive : Int} : library.earliest naive = none ↔ ¬ zone.Finds chrono naive := by
  rw [← library.finds, Bool.not_eq_true, Option.isSome_eq_false_iff, Option.isNone_iff_eq_none]

theorem walkForward_cons (naive hours : Int) (rest : List Int) :
    library.walkForward naive (hours :: rest) =
      if chrono.Has (naive + hours * HOUR) then
        (library.earliest (naive + hours * HOUR)).or (library.walkForward naive rest)
      else none := by
  rw [walkForward, Chrono.add_eq]
  split <;> rename_i sum
  · rw [if_neg]
    intro has
    rw [if_pos has] at sum
    cases sum
  · split at sum
    · cases sum
      rw [if_pos ‹_›]
      cases library.earliest (naive + hours * HOUR) <;> rfl
    · cases sum

theorem walkForward_append (naive : Int) (passed rest : List Int)
    (missed : ∀ hours ∈ passed, chrono.Has (naive + hours * HOUR) ∧ library.earliest (naive + hours * HOUR) = none) :
    library.walkForward naive (passed ++ rest) = library.walkForward naive rest := by
  induction passed with
  | nil => rfl
  | cons hours passed ih =>
    obtain ⟨has, none_⟩ := missed hours List.mem_cons_self
    rw [List.cons_append, walkForward_cons, if_pos has, none_, Option.none_or]
    exact ih fun later there => missed later (List.mem_cons_of_mem _ there)

/-- It ends with a wall clock that it finds, or with the one it began with. -/
theorem walkForward_ends {naive t : Int} {steps : List Int} (ends : library.walkForward naive steps = some t) :
    (∃ hours ∈ steps, chrono.Has (naive + hours * HOUR) ∧ library.earliest (naive + hours * HOUR) = some t) ∨
      t = naive ∧
        ∀ hours ∈ steps, chrono.Has (naive + hours * HOUR) ∧ library.earliest (naive + hours * HOUR) = none := by
  induction steps with
  | nil =>
    cases ends
    exact .inr ⟨rfl, by simp⟩
  | cons hours rest ih =>
    rw [walkForward_cons] at ends
    split at ends
    · rename_i has
      rcases found : library.earliest (naive + hours * HOUR) with _ | u
      · rw [found, Option.none_or] at ends
        rcases ih ends with ⟨later, there, fits⟩ | ⟨same, missed⟩
        · exact .inl ⟨later, List.mem_cons_of_mem _ there, fits⟩
        · exact .inr ⟨same, List.forall_mem_cons.mpr ⟨⟨has, found⟩, missed⟩⟩
      · rw [found, Option.some_or] at ends
        cases ends
        exact .inl ⟨hours, List.mem_cons_self, has, found⟩
    · cases ends

/-- What is asked of the instants that a set of wall clocks stands for. -/
structure Faithful (wallClocks : Set chrono.NaiveDateTime) : Prop where
  total : ∀ naive ∈ wallClocks, ∃ t, library.toUtc naive.1 = some t
  first : ∀ naive ∈ wallClocks, ∀ t, library.toUtc naive.1 = some t → (∃ u, zone.localTime u = naive.1) →
    IsLeast {u | zone.localTime u = naive.1} t
  begins : ∀ naive ∈ wallClocks, ∀ t, library.toUtc naive.1 = some t →
    ∀ gap, Skips zone.localTime gap naive.1 → t = gap
  inOrder : ∀ earlier ∈ wallClocks, ∀ later ∈ wallClocks, earlier.1 ≤ later.1 → ∀ t u,
    library.toUtc earlier.1 = some t → library.toUtc later.1 = some u → t ≤ u

end LocalDateTimes

/-- The wall clocks that are read right. -/
inductive ZoneClock.Lands (zone : ZoneClock) (chrono : Chrono) (naive : Int) : Prop where
  | found (finds : zone.Finds chrono naive)
  /-- Its gap ends after one, two or three hours to the nanosecond. -/
  | atGapEnd {gap hours : Int} (step : hours ∈ [1, 2, 3]) (skipped : Skips zone.localTime gap naive)
      (whole : zone.localTime gap = naive + hours * HOUR) (has : chrono.Has (zone.localTime gap))
      (finds : zone.Finds chrono (zone.localTime gap))
  /-- Nothing is found in three hours, and as a wall clock of UTC it names the same instant. -/
  | asUtc (has : ∀ hours ∈ [1, 2, 3], chrono.Has (naive + hours * HOUR))
      (missed : ∀ hours ∈ [0, 1, 2, 3], ¬ zone.Finds chrono (naive + hours * HOUR))
      (same : StandsFor zone.localTime naive naive)

namespace LocalDateTimes
variable {chrono : Chrono} {zone : ZoneClock} (library : LocalDateTimes chrono zone)

theorem step_cases {hours : Int} (step : hours ∈ [1, 2, 3]) : hours = 1 ∨ hours = 2 ∨ hours = 3 := by
  simpa using step

theorem missed_in_gap {gap naive : Int} (skipped : Skips zone.localTime gap naive) : library.earliest naive = none :=
  library.not_found_iff.mpr fun finds => finds.1.elim fun u shows => zone.regular.not_shown skipped u shows

/-- A skipped wall clock is read as the first of the walk that is past its gap, if that is found. -/
theorem toUtc_of_step {gap naive hours t : Int} (own : chrono.Has naive) (skipped : Skips zone.localTime gap naive)
    (step : hours ∈ [1, 2, 3]) (short : naive + (hours - 1) * HOUR < zone.localTime gap)
    (has : chrono.Has (naive + hours * HOUR)) (read : library.earliest (naive + hours * HOUR) = some t) :
    library.toUtc naive = some t := by
  have steps : ∃ passed rest, [1, 2, 3] = passed ++ hours :: rest ∧
      ∀ before ∈ passed, 0 < before ∧ before < hours := by
    rcases step_cases step with rfl | rfl | rfl
    · exact ⟨[], [2, 3], rfl, by simp⟩
    · exact ⟨[1], [3], rfl, by simp⟩
    · exact ⟨[1, 2], [], rfl, by simp⟩
  obtain ⟨passed, rest, split, early⟩ := steps
  -- until the gap ends, each wall clock on the way is skipped too
  have missed : ∀ before ∈ passed,
      chrono.Has (naive + before * HOUR) ∧ library.earliest (naive + before * HOUR) = none := by
    intro before there
    have bounds := early before there
    have within : naive ≤ naive + before * HOUR ∧ naive + before * HOUR < zone.localTime gap ∧
        naive + before * HOUR ≤ naive + hours * HOUR := by
      unfold HOUR at *
      omega
    have skippedToo : Skips zone.localTime gap (naive + before * HOUR) := ⟨skipped.1.trans within.1, within.2.1⟩
    exact ⟨⟨own.1.trans within.1, within.2.2.trans has.2⟩, library.missed_in_gap skippedToo⟩
  rw [toUtc, library.missed_in_gap skipped, split, library.walkForward_append _ _ _ missed, walkForward_cons,
    if_pos has, read, Option.some_or]

theorem standsFor_of_lands (naive : chrono.NaiveDateTime) (lands : zone.Lands chrono naive.1) :
    ∃ t, library.toUtc naive.1 = some t ∧ StandsFor zone.localTime naive.1 t := by
  cases lands with
  | found finds =>
    obtain ⟨t, read⟩ := Option.isSome_iff_exists.mp (library.finds.mpr finds)
    exact ⟨t, by rw [toUtc, read], .inl (library.reads read)⟩
  | @atGapEnd gap hours step skipped whole has finds =>
    obtain ⟨t, read⟩ := Option.isSome_iff_exists.mp (library.finds.mpr finds)
    obtain rfl : gap = t := (zone.regular.isLeast_of_skips skipped).unique (library.reads read)
    have short : naive.1 + (hours - 1) * HOUR < zone.localTime gap := by
      unfold HOUR at *
      omega
    rw [whole] at has read
    exact ⟨gap, library.toUtc_of_step naive.2 skipped step short has read, .inr skipped⟩
  | asUtc has missed same =>
    have none_ := library.not_found_iff.mpr (missed 0 (by simp))
    rw [Int.zero_mul, Int.add_zero] at none_
    refine ⟨naive.1, ?_, same⟩
    have passed := library.walkForward_append naive.1 [1, 2, 3] [] fun hours there =>
      ⟨has hours there, library.not_found_iff.mpr (missed hours (List.mem_cons_of_mem _ there))⟩
    rw [toUtc, none_]
    exact passed

theorem lands_of_standsFor {naive t : Int} (read : library.toUtc naive = some t)
    (stands : StandsFor zone.localTime naive t) : zone.Lands chrono naive := by
  rcases found : library.earliest naive with _ | u
  · rw [toUtc, found] at read
    rcases library.walkForward_ends read with ⟨hours, step, has, found'⟩ | ⟨rfl, missed⟩
    · have later := library.reads found'
      have whole : zone.localTime t = naive + hours * HOUR := later.1
      rcases stands with shown | skipped
      · -- an instant that shows it does not show one some hours on
        have same : zone.localTime t = naive := shown.1
        have hours_ := step_cases step
        unfold HOUR at whole
        omega
      · refine .atGapEnd step skipped whole (whole ▸ has) (whole ▸ library.finds.mp ?_)
        rw [found']
        rfl
    · refine .asUtc (fun hours there => (missed hours there).1) (fun hours there => ?_) stands
      rcases List.mem_cons.mp there with rfl | there
      · rw [Int.zero_mul, Int.add_zero]
        exact library.not_found_iff.mp found
      · exact library.not_found_iff.mp (missed hours there).2
  · refine .found (library.finds.mp ?_)
    rw [found]
    rfl

/-- Wall clocks are read as asked exactly when each is found, or its gap ends whole hours later, or it
falls through the walk and names its instant as one of UTC. -/
theorem faithful_iff (wallClocks : Set chrono.NaiveDateTime) :
    library.Faithful wallClocks ↔ ∀ naive ∈ wallClocks, zone.Lands chrono naive.1 := by
  constructor
  · intro faithful naive there
    obtain ⟨t, read⟩ := faithful.total naive there
    obtain ⟨u, stands⟩ := zone.regular.exists_standsFor naive.1
    refine library.lands_of_standsFor read ?_
    rcases stands with shown | skipped
    · exact .inl (faithful.first naive there t read ⟨u, shown.1⟩)
    · rw [faithful.begins naive there t read u skipped]
      exact .inr skipped
  · intro lands
    have stands : ∀ naive ∈ wallClocks, ∀ t, library.toUtc naive.1 = some t → StandsFor zone.localTime naive.1 t := by
      intro naive there t read
      obtain ⟨u, own, stands⟩ := library.standsFor_of_lands naive (lands naive there)
      obtain rfl := Option.some.inj (read.symm.trans own)
      exact stands
    refine ⟨fun naive there => ?_, fun naive there t read shown => ?_, fun naive there t read gap skipped => ?_,
      fun earlier there later there' le t u read read' => ?_⟩
    · obtain ⟨t, read, _⟩ := library.standsFor_of_lands naive (lands naive there)
      exact ⟨t, read⟩
    · rcases stands naive there t read with first | skipped
      · exact first
      · obtain ⟨u, shows⟩ := shown
        exact absurd shows (zone.regular.not_shown skipped u)
    · exact zone.regular.standsFor_unique (stands naive there t read) (.inr skipped)
    · exact zone.regular.standsFor_le (stands earlier there t read) (stands later there' u read') le

/-- In a gap of up to three hours, with no other change in the hour after it, a wall clock is read
late by itself less the gap's end, modulo an hour. -/
theorem toUtc_in_gap {gap : Int} (naive : chrono.NaiveDateTime) (skipped : Skips zone.localTime gap naive.1)
    (short : zone.localTime gap - Clocks.due zone.localTime gap ≤ 3 * HOUR)
    (still : ∀ u, gap < u → u < gap + HOUR → ¬ Clocks.Changes zone.localTime u)
    (last : zone.localTime gap + HOUR ≤ chrono.maxUtc)
    (has : ∀ u, zone.localTime gap ≤ zone.localTime u → zone.localTime u < zone.localTime gap + HOUR → chrono.Has u) :
    library.toUtc naive.1 = some (gap + (naive.1 - zone.localTime gap) % HOUR) := by
  obtain ⟨after, before⟩ := skipped
  obtain ⟨late, lateEq⟩ : ∃ late, late = (naive.1 - zone.localTime gap) % HOUR := ⟨_, rfl⟩
  obtain ⟨hours, hoursEq⟩ : ∃ hours, hours = -((naive.1 - zone.localTime gap) / HOUR) := ⟨_, rfl⟩
  have own := naive.2
  have landed : naive.1 + hours * HOUR = zone.localTime gap + late ∧ 0 ≤ late ∧ late < HOUR ∧
      naive.1 + (hours - 1) * HOUR < zone.localTime gap ∧ 1 ≤ hours ∧ hours ≤ 3 := by
    unfold HOUR at *
    omega
  obtain ⟨lands, lower, upper, first, least, most⟩ := landed
  have shows : ∀ u, gap ≤ u → u < gap + HOUR → zone.localTime u = zone.localTime gap + (u - gap) :=
    fun u later within => Clocks.goes_on later fun v from_ to_ => still v from_ (by omega)
  have shown := shows (gap + late) (by omega) (by omega)
  have leastShown : IsLeast {u | zone.localTime u = zone.localTime gap + late} (gap + late) := by
    refine ⟨by show zone.localTime (gap + late) = _; omega, fun u (same : zone.localTime u = _) => ?_⟩
    by_contra early
    rcases lt_or_ge u gap with precedes | follows
    · have behind := zone.regular.lt_due (Clocks.Skips.changes ⟨after, before⟩) precedes
      omega
    · have there := shows u follows (by omega)
      omega
  have finds : zone.Finds chrono (zone.localTime gap + late) :=
    ⟨⟨gap + late, leastShown.1⟩, fun u same => has u (by omega) (by omega)⟩
  obtain ⟨t, read⟩ := Option.isSome_iff_exists.mp (library.finds.mpr finds)
  obtain rfl := leastShown.unique (library.reads read)
  rw [← lateEq]
  refine library.toUtc_of_step own ⟨after, before⟩ ?_ first ?_ (lands ▸ read)
  · have cases_ : hours = 1 ∨ hours = 2 ∨ hours = 3 := by omega
    simpa using cases_
  · unfold Chrono.Has at own ⊢
    omega

theorem earliest_eq {naive : Int} (has : ∀ u, zone.localTime u = naive → chrono.Has u) :
    library.earliest naive = zone.earliest naive := by
  rcases read : zone.earliest naive with _ | t
  · have missing := zone.skips naive read
    exact library.not_found_iff.mpr fun finds => finds.1.elim missing
  · have first := zone.reads naive t read
    obtain ⟨u, found⟩ := Option.isSome_iff_exists.mp (library.finds.mpr ⟨⟨t, first.1⟩, has⟩)
    have least : IsLeast {v | zone.localTime v = naive} t := ⟨first.1, fun v shows => first.2 v shows⟩
    rw [found, (library.reads found).unique least]

theorem walkForward_eq {naive : Int} {steps : List Int} (sums : ∀ hours ∈ steps, chrono.Has (naive + hours * HOUR))
    (same : ∀ hours ∈ steps, library.earliest (naive + hours * HOUR) = zone.earliest (naive + hours * HOUR)) :
    library.walkForward naive steps =
      some ((steps.findSome? fun hours => zone.earliest (naive + hours * HOUR)).getD naive) := by
  induction steps with
  | nil => rfl
  | cons hours rest ih =>
    obtain ⟨sum, sums⟩ := List.forall_mem_cons.mp sums
    obtain ⟨one, same⟩ := List.forall_mem_cons.mp same
    rw [walkForward_cons, if_pos sum, one, ih sums same, List.findSome?_cons]
    cases zone.earliest (naive + hours * HOUR) <;> rfl

theorem toUtc_eq (naive : Int) (sums : ∀ hours ∈ [1, 2, 3], chrono.Has (naive + hours * HOUR))
    (has : ∀ u, naive ≤ zone.localTime u → zone.localTime u ≤ naive + 3 * HOUR → chrono.Has u) :
    library.toUtc naive = some (CalendarFeed.toUtc naive zone.toTz) := by
  have same : ∀ hours, 0 ≤ hours → hours ≤ 3 →
      library.earliest (naive + hours * HOUR) = zone.earliest (naive + hours * HOUR) := by
    intro hours least most
    unfold HOUR at *
    exact library.earliest_eq fun u shows => has u (by omega) (by omega)
  have own := same 0 (by decide) (by decide)
  have walk := library.walkForward_eq sums fun hours there => by
    have hours_ := step_cases there
    exact same hours (by omega) (by omega)
  rw [Int.zero_mul, Int.add_zero] at own
  rw [toUtc, CalendarFeed.toUtc, own, walk]
  cases zone.earliest naive <;> rfl

end LocalDateTimes

theorem changing_changes {at_ before after t : Int}
    (changed : Clocks.Changes (Tz.changing at_ before after).localTime t) :
    t = at_ := by
  simp only [Clocks.Changes, Clocks.due, Tz.changing] at changed
  split at changed <;> split at changed <;> omega

/-- A zone that changes its offset once. -/
def ZoneClock.changing (at_ before after : Int) : ZoneClock where
  toTz := Tz.changing at_ before after
  regular := by
    refine ⟨fun order first second => ?_, before.natAbs + after.natAbs, fun t => ?_⟩
    · rw [changing_changes first, changing_changes second] at order
      exact absurd order (lt_irrefl _)
    · simp only [Tz.changing]
      split <;> omega

/-- What the library makes of a clock that is only put forward, where no wall clock is shown twice. -/
def forwardDateTimes (chrono : Chrono) (at_ before after : Int) (forward : before ≤ after) :
    LocalDateTimes chrono (ZoneClock.changing at_ before after) where
  earliest naive := ((Tz.changing at_ before after).earliest naive).filter fun t => decide (chrono.Has t)
  reads := by
    intro naive t read
    have first := (Tz.changing at_ before after).reads naive t (Option.filter_eq_some_iff.mp read).1
    exact ⟨first.1, fun u shows => first.2 u shows⟩
  finds := by
    intro naive
    constructor
    · intro found
      obtain ⟨t, read⟩ := Option.isSome_iff_exists.mp found
      obtain ⟨read, has⟩ := Option.filter_eq_some_iff.mp read
      have shows := ((Tz.changing at_ before after).reads naive t read).1
      refine ⟨⟨t, shows⟩, fun u same => ?_⟩
      have only : u = t := by
        rw [← shows] at same
        simp only [ZoneClock.changing, Tz.changing] at same
        split at same <;> split at same <;> omega
      rw [only]
      exact of_decide_eq_true has
    · rintro ⟨⟨u, shows⟩, has⟩
      rcases read : (Tz.changing at_ before after).earliest naive with _ | t
      · exact absurd shows ((Tz.changing at_ before after).skips naive read u)
      · have first := ((Tz.changing at_ before after).reads naive t read).1
        rw [Option.filter_some, decide_eq_true (has t first)]
        rfl

/-- New York around 8 March 2026, when its clocks went forward at 07:00 UTC. -/
def springForward : LocalDateTimes fewDates (ZoneClock.changing (20520 * DAY + 7 * HOUR) (-5 * HOUR) (-4 * HOUR)) :=
  forwardDateTimes fewDates _ _ _ (by decide)

/-- A quarter past two is read a quarter of an hour late. -/
theorem toUtc_in_gap_springForward : springForward.toUtc (20520 * DAY + 2 * HOUR + HOUR / 4) =
    some (20520 * DAY + 7 * HOUR + HOUR / 4) := by
  have late : (20520 * DAY + 2 * HOUR + HOUR / 4 - (20520 * DAY + 3 * HOUR)) % HOUR = HOUR / 4 := by decide +kernel
  rw [← late]
  have skipped : Skips (ZoneClock.changing (20520 * DAY + 7 * HOUR) (-5 * HOUR) (-4 * HOUR)).localTime
      (20520 * DAY + 7 * HOUR) (20520 * DAY + 2 * HOUR + HOUR / 4) := by
    unfold Skips
    decide +kernel
  refine springForward.toUtc_in_gap ⟨20520 * DAY + 2 * HOUR + HOUR / 4, by decide⟩ skipped
    (by decide +kernel) (fun u later within changes => ?_) (by decide +kernel) fun u least most => ?_
  · have same := changing_changes changes
    omega
  · have bounds : u - 5 * HOUR ≤ (ZoneClock.changing (20520 * DAY + 7 * HOUR) (-5 * HOUR) (-4 * HOUR)).localTime u ∧
        (ZoneClock.changing (20520 * DAY + 7 * HOUR) (-5 * HOUR) (-4 * HOUR)).localTime u ≤ u - 4 * HOUR := by
      simp only [ZoneClock.changing, Tz.changing]
      unfold HOUR
      split <;> omega
    have ends : (ZoneClock.changing (20520 * DAY + 7 * HOUR) (-5 * HOUR) (-4 * HOUR)).localTime
        (20520 * DAY + 7 * HOUR) = 20520 * DAY + 3 * HOUR := by decide
    rw [ends] at least most
    simp only [Chrono.Has, fewDates]
    unfold DAY HOUR at *
    omega

/-- Half past two, which was skipped, is read as half past three and so comes after three o'clock, and in the last
hours of the last year there is nothing to read. -/
theorem springForward_not_faithful :
    springForward.toUtc (20520 * DAY + 2 * HOUR + HOUR / 2) = some (20520 * DAY + 7 * HOUR + HOUR / 2) ∧
      springForward.toUtc (20520 * DAY + 3 * HOUR) = some (20520 * DAY + 7 * HOUR) ∧
      springForward.toUtc (95026237 * DAY - HOUR / 2) = none ∧
      ¬ springForward.Faithful Set.univ := by
  have late : springForward.toUtc (20520 * DAY + 2 * HOUR + HOUR / 2) = some (20520 * DAY + 7 * HOUR + HOUR / 2) := by
    decide +kernel
  refine ⟨late, by decide +kernel, by decide +kernel, fun faithful => ?_⟩
  have skipped : Skips (ZoneClock.changing (20520 * DAY + 7 * HOUR) (-5 * HOUR) (-4 * HOUR)).localTime
      (20520 * DAY + 7 * HOUR) (20520 * DAY + 2 * HOUR + HOUR / 2) := by
    unfold Skips
    decide +kernel
  have begins := faithful.begins ⟨20520 * DAY + 2 * HOUR + HOUR / 2, by decide⟩ trivial _ late _ skipped
  exact absurd begins (by decide)

end CoopSpaces

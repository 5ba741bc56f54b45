import CoopSpaces.Server.DoorSnapshots

namespace CoopSpaces

section Windows
variable {Json : Type} {zone : SiteZone Json} {intervals : List ScheduleInterval} {ts : Int}

/-- A time of day that an interval of the weekday holds, its end excluded. -/
def Covers (intervals : List ScheduleInterval) (dow : DayOfWeek) (time : Int) : Prop :=
  ∃ iv ∈ intervals, iv.day = dow ∧ iv.start ≤ time ∧ time < iv.end_

/-- The time of day at which the run of touching intervals around an instant ends. -/
def RunEnds (zone : SiteZone Json) (intervals : List ScheduleInterval) (ts end_ : Int) : Prop :=
  (zone.site.localTime ts).2 < end_ ∧
    (∀ time, (zone.site.localTime ts).2 ≤ time → time < end_ → Covers intervals (zone.site.localTime ts).1 time) ∧
      ¬ Covers intervals (zone.site.localTime ts).1 end_

theorem matchesAt_iff : matchesAt zone.site intervals ts = true ↔
    Covers intervals (zone.site.localTime ts).1 (zone.site.localTime ts).2 := by
  simp only [matchesAt, Covers, List.any_eq_true, Bool.and_eq_true, decide_eq_true_eq, and_assoc]

theorem RunEnds.matches {end_ : Int} (ends : RunEnds zone intervals ts end_) :
    matchesAt zone.site intervals ts = true :=
  matchesAt_iff.mpr (ends.2.1 _ le_rfl ends.1)

theorem RunEnds.unique {first second : Int} (ends : RunEnds zone intervals ts first)
    (ends' : RunEnds zone intervals ts second) :
    first = second := by
  rcases lt_trichotomy first second with before | same | after
  · exact absurd (ends'.2.1 first ends.1.le before) ends.2.2
  · exact same
  · exact absurd (ends.2.1 second ends'.1.le after) ends'.2.2

/-- Extending an end leaves no time uncovered on the way. -/
theorem covers_extendEnd {day : List ScheduleInterval} {dow : DayOfWeek} {time : Int}
    (ofDay : ∀ iv ∈ day, iv ∈ intervals ∧ iv.day = dow)
    (fuel : Nat) {end_ : Int} (covered : ∀ x, time ≤ x → x < end_ → Covers intervals dow x) :
    end_ ≤ extendEnd day fuel end_ ∧ ∀ x, time ≤ x → x < extendEnd day fuel end_ → Covers intervals dow x := by
  induction fuel generalizing end_ with
  | zero => exact ⟨le_rfl, covered⟩
  | succ fuel ih =>
    rcases found : day.find? (fun iv => decide (iv.start ≤ end_) && decide (end_ < iv.end_)) with _ | next
    · have stays : extendEnd day (fuel + 1) end_ = end_ := by rw [extendEnd, found]
      rw [stays]
      exact ⟨le_rfl, covered⟩
    · have goes : extendEnd day (fuel + 1) end_ = extendEnd day fuel next.end_ := by rw [extendEnd, found]
      have touches := List.find?_some found
      rw [Bool.and_eq_true, decide_eq_true_eq, decide_eq_true_eq] at touches
      obtain ⟨listed, onDay⟩ := ofDay next (List.mem_of_find?_eq_some found)
      have further : ∀ x, time ≤ x → x < next.end_ → Covers intervals dow x := by
        intro x after before
        rcases lt_or_ge x end_ with old | new
        · exact covered x after old
        · exact ⟨next, listed, onDay, touches.1.trans new, before⟩
      obtain ⟨later, whole⟩ := ih further
      rw [goes]
      exact ⟨touches.2.le.trans later, whole⟩

/-- The instant a wall clock reads for an end, or a minute before it where the clock skips it. -/
def SiteZone.closing (zone : SiteZone Json) (naiveEnd : Int) : Option Int :=
  match zone.tz.earliest naiveEnd with
  | some t => some t
  | none => zone.single (naiveEnd - MINUTE)

/-- Outside all windows there is no end; inside, it is where the run around the instant ends. -/
theorem activeUntil_cases (zone : SiteZone Json) (intervals : List ScheduleInterval) (ts : Int) :
    matchesAt zone.site intervals ts = false ∧ activeUntil zone intervals ts = none ∨
      ∃ end_, RunEnds zone intervals ts end_ ∧
        activeUntil zone intervals ts = zone.closing (midnight (zone.tz.date ts) + end_) := by
  let dow := (zone.site.localTime ts).1
  let time := (zone.site.localTime ts).2
  let day := (intervals.filter fun iv => iv.day = dow).insertionSort fun a b => a.start ≤ b.start
  have mem : ∀ iv, iv ∈ day ↔ iv ∈ intervals ∧ iv.day = dow := by
    intro iv
    rw [List.mem_insertionSort, List.mem_filter, decide_eq_true_eq]
  have whole : activeUntil zone intervals ts =
      (day.find? fun iv => decide (iv.start ≤ time) && decide (time < iv.end_)).bind fun iv =>
        zone.closing (midnight (zone.tz.date ts) + extendEnd day day.length iv.end_) := rfl
  rcases found : day.find? (fun iv => decide (iv.start ≤ time) && decide (time < iv.end_)) with _ | first
  · refine .inl ⟨?_, by rw [whole, found]; rfl⟩
    rw [Bool.eq_false_iff]
    intro inside
    obtain ⟨iv, listed, onDay, begun, unended⟩ := matchesAt_iff.mp inside
    refine List.find?_eq_none.mp found iv ((mem iv).mpr ⟨listed, onDay⟩) ?_
    rw [Bool.and_eq_true, decide_eq_true_eq, decide_eq_true_eq]
    exact ⟨begun, unended⟩
  · have inside := List.find?_some found
    rw [Bool.and_eq_true, decide_eq_true_eq, decide_eq_true_eq] at inside
    obtain ⟨listed, onDay⟩ := (mem first).mp (List.mem_of_find?_eq_some found)
    obtain ⟨later, covered⟩ := covers_extendEnd (fun iv => (mem iv).mp) day.length
      fun x after before => ⟨first, listed, onDay, inside.1.trans after, before⟩
    refine .inr ⟨extendEnd day day.length first.end_, ⟨lt_of_lt_of_le inside.2 later, covered, ?_⟩,
      by rw [whole, found]; rfl⟩
    rintro ⟨iv, listed', onDay', touches, extends_⟩
    have enough : (day.filter fun iv => first.end_ < iv.end_).length ≤ day.length := List.length_filter_le _ day
    refine List.find?_eq_none.mp (find_extendEnd enough) iv ((mem iv).mpr ⟨listed', onDay'⟩) ?_
    rw [Bool.and_eq_true, decide_eq_true_eq, decide_eq_true_eq]
    exact ⟨touches, extends_⟩

/-- The instants from this one on at which the wall clock has come to a reading of this date. -/
def Reached (zone : SiteZone Json) (ts end_ : Int) : Set Int :=
  {u | ts ≤ u ∧ midnight (zone.tz.date ts) + end_ ≤ zone.tz.localTime u}

/-- An instant is the end of the window around another: all instants between are in a window, and it is
the first at which the wall clock has come to the end of the run. -/
structure ClosesAt (zone : SiteZone Json) (intervals : List ScheduleInterval) (ts e : Int) : Prop where
  starts : matchesAt zone.site intervals ts = true
  later : ts < e
  open_ : ∀ t, ts ≤ t → t < e → matchesAt zone.site intervals t = true
  ends : ∃ end_, RunEnds zone intervals ts end_ ∧ IsLeast (Reached zone ts end_) e

/-- The wall clock reads the run's end for the first time at an instant still to come, and until then stays before
it and in the windows; or it never reads it, nor any one minute before, and leaves the windows before it passes it. -/
def Straight (zone : SiteZone Json) (intervals : List ScheduleInterval) (ts : Int) : Prop :=
  ∀ end_, RunEnds zone intervals ts end_ →
    (∃ e, zone.tz.earliest (midnight (zone.tz.date ts) + end_) = some e ∧ ts < e ∧ ∀ t, ts ≤ t → t < e →
      zone.tz.localTime t < midnight (zone.tz.date ts) + end_ ∧ matchesAt zone.site intervals t = true) ∨
    zone.tz.earliest (midnight (zone.tz.date ts) + end_) = none ∧
      zone.single (midnight (zone.tz.date ts) + end_ - MINUTE) = none ∧
        ∀ e, IsLeast (Reached zone ts end_) e → ∃ t, ts ≤ t ∧ t < e ∧ matchesAt zone.site intervals t = false

theorem lt_of_isLeast_reached {end_ e : Int} (runs : RunEnds zone intervals ts end_)
    (least : IsLeast (Reached zone ts end_) e) :
    ts < e := by
  refine lt_of_le_of_ne least.1.1 ?_
  rintro rfl
  have before : zone.tz.localTime ts - midnight (zone.tz.date ts) < end_ := runs.1
  have reached := least.1.2
  omega

theorem closesAt_iff {end_ e : Int} (runs : RunEnds zone intervals ts end_) : ClosesAt zone intervals ts e ↔
    IsLeast (Reached zone ts end_) e ∧ ∀ t, ts ≤ t → t < e → matchesAt zone.site intervals t = true := by
  constructor
  · rintro ⟨-, -, open_, other, runs', least⟩
    rw [runs.unique runs']
    exact ⟨least, open_⟩
  · rintro ⟨least, open_⟩
    exact ⟨runs.matches, lt_of_isLeast_reached runs least, open_, end_, runs, least⟩

/-- Where the wall clock skips the run's end the window has no end of its own, unless the clock reads a minute
before it. -/
theorem skipped_end_iff {end_ : Int} (reads : ∀ naive t, zone.single naive = some t → zone.tz.localTime t = naive)
    (runs : RunEnds zone intervals ts end_) :
    (∀ e, zone.single (midnight (zone.tz.date ts) + end_ - MINUTE) = some e ↔ ClosesAt zone intervals ts e) ↔
      zone.single (midnight (zone.tz.date ts) + end_ - MINUTE) = none ∧
        ∀ e, IsLeast (Reached zone ts end_) e → ∃ t, ts ≤ t ∧ t < e ∧ matchesAt zone.site intervals t = false := by
  constructor
  · intro same
    have unread : zone.single (midnight (zone.tz.date ts) + end_ - MINUTE) = none := by
      rw [Option.eq_none_iff_forall_ne_some]
      intro early found
      have reached := ((closesAt_iff runs).mp ((same early).mp found)).1.1.2
      rw [reads _ early found] at reached
      have positive : 0 < MINUTE := by decide
      omega
    refine ⟨unread, fun e least => ?_⟩
    by_contra inside
    push Not at inside
    have open_ : ∀ t, ts ≤ t → t < e → matchesAt zone.site intervals t = true := fun t after before =>
      Bool.not_eq_false _ ▸ inside t after before
    have found := (same e).mpr ((closesAt_iff runs).mpr ⟨least, open_⟩)
    rw [unread] at found
    cases found
  · rintro ⟨unread, leaves⟩ e
    rw [unread]
    refine iff_of_false nofun fun closes => ?_
    obtain ⟨least, open_⟩ := (closesAt_iff runs).mp closes
    obtain ⟨t, after, before, outside⟩ := leaves e least
    rw [open_ t after before] at outside
    cases outside

/-- Where the wall clock reads the run's end, the window ends there when it is to come and all before it is in the
windows. -/
theorem read_end_iff {end_ first : Int} (runs : RunEnds zone intervals ts end_)
    (read : zone.tz.earliest (midnight (zone.tz.date ts) + end_) = some first) :
    (∀ e, some first = some e ↔ ClosesAt zone intervals ts e) ↔ ts < first ∧ ∀ t, ts ≤ t → t < first →
      zone.tz.localTime t < midnight (zone.tz.date ts) + end_ ∧ matchesAt zone.site intervals t = true := by
  constructor
  · intro same
    obtain ⟨least, open_⟩ := (closesAt_iff runs).mp ((same first).mp rfl)
    refine ⟨lt_of_isLeast_reached runs least, fun t after before => ⟨?_, open_ t after before⟩⟩
    by_contra reached
    exact absurd (least.2 ⟨after, not_lt.mp reached⟩) (not_le.mpr before)
  · rintro ⟨later, straight⟩ e
    have least : IsLeast (Reached zone ts end_) first := by
      refine ⟨⟨later.le, (zone.tz.reads _ _ read).1.ge⟩, fun u reached => ?_⟩
      by_contra before
      exact absurd reached.2 (not_le.mpr (straight u reached.1 (not_le.mp before)).1)
    constructor
    · intro reported
      obtain rfl := Option.some.inj reported
      exact (closesAt_iff runs).mpr ⟨least, fun t after before => (straight t after before).2⟩
    · intro closes
      rw [least.unique ((closesAt_iff runs).mp closes).1]

/-- The end reported is the window's end exactly where the wall clock goes straight to it. -/
theorem active_until_iff (zone : SiteZone Json) (reads : ∀ naive t, zone.single naive = some t →
    zone.tz.localTime t = naive)
    (intervals : List ScheduleInterval) (ts : Int) :
    (∀ e, activeUntil zone intervals ts = some e ↔ ClosesAt zone intervals ts e) ↔ Straight zone intervals ts := by
  rcases activeUntil_cases zone intervals ts with ⟨outside, none_⟩ | ⟨end_, runs, closing⟩
  · have straight : Straight zone intervals ts := by
      intro end_ runs
      rw [runs.matches] at outside
      cases outside
    refine iff_of_true (fun e => ?_) straight
    rw [none_]
    refine iff_of_false nofun fun closes => ?_
    have inside := closes.starts
    rw [outside] at inside
    cases inside
  · rw [closing, SiteZone.closing]
    rcases read : zone.tz.earliest (midnight (zone.tz.date ts) + end_) with _ | first
    · refine (skipped_end_iff reads runs).trans ⟨fun skipped other runs' => ?_, fun straight => ?_⟩
      · rw [← runs.unique runs']
        exact .inr ⟨read, skipped⟩
      · rcases straight end_ runs with ⟨e, there, -⟩ | ⟨-, skipped⟩
        · rw [read] at there
          cases there
        · exact skipped
    · refine (read_end_iff runs read).trans ⟨fun ahead other runs' => ?_, fun straight => ?_⟩
      · rw [← runs.unique runs']
        exact .inl ⟨first, read, ahead⟩
      · rcases straight end_ runs with ⟨e, there, ahead⟩ | ⟨none_, -⟩
        · obtain rfl := Option.some.inj (read.symm.trans there)
          exact ahead
        · rw [read] at none_
          cases none_

end Windows

section Clocks
open DoorService (utcZone)

/-- Two windows that touch, on the first Thursday there is. -/
def thursday : List ScheduleInterval := [⟨.thu, 12 * HOUR, 17 * HOUR⟩, ⟨.thu, 9 * HOUR, 12 * HOUR⟩]

theorem thursday_covers {time : Int} : Covers thursday .thu time ↔ 9 * HOUR ≤ time ∧ time < 17 * HOUR := by
  simp only [Covers, thursday, List.mem_cons, List.not_mem_nil, or_false, exists_eq_or_imp, exists_eq_left, true_and]
  unfold HOUR
  omega

theorem active_until_iff_thursday : ClosesAt utcZone thursday (10 * HOUR) (17 * HOUR) := by
  refine ((active_until_iff utcZone (fun naive t same => (Option.some.inj same).symm) thursday
    (10 * HOUR)).mpr ?_ _).mp (by decide +kernel)
  have now_ : utcZone.site.localTime (10 * HOUR) = (.thu, 10 * HOUR) := by decide
  have runs : RunEnds utcZone thursday (10 * HOUR) (17 * HOUR) := by
    rw [RunEnds, now_]
    refine ⟨by decide, fun time after before => thursday_covers.mpr ⟨le_trans (by decide) after, before⟩,
      fun covered => ?_⟩
    exact absurd (thursday_covers.mp covered).2 (lt_irrefl _)
  intro end_ runs'
  rw [← runs.unique runs']
  refine .inl ⟨17 * HOUR, by decide, by decide, fun t after before => ⟨?_, ?_⟩⟩
  · show t < midnight ((10 * HOUR) / DAY) + 17 * HOUR
    have start : midnight ((10 * HOUR) / DAY) = 0 := by decide
    omega
  · have today : t / DAY = 0 := by
      unfold HOUR at after before
      unfold DAY HOUR
      omega
    have clock : utcZone.site.localTime t = (.thu, t) := by
      show (DayOfWeek.fromDate (t / DAY), t - midnight (t / DAY)) = _
      rw [today]
      simp [DayOfWeek.fromDate, midnight]
    rw [matchesAt_iff, clock]
    exact thursday_covers.mpr ⟨le_trans (by decide) after, before⟩

/-- A zone that changes its offset once, and the wall clocks it reads at one instant only. -/
def changingZone (at_ before after : Int) : SiteZone Unit where
  tz := .changing at_ before after
  single naive :=
    if naive - before < at_ then if at_ ≤ naive - after then none else some (naive - before)
    else if at_ ≤ naive - after then some (naive - after) else none
  parseIntervals := fun _ => none

/-- The second time it is a quarter past one in New York on 1 November 2026, a window to half past one has ended, as
reported, three quarters of an hour before. Half a minute before clocks go forward on 8 March, one to two o'clock
has ended half a minute before. -/
theorem windows_end_in_the_past :
    (¬ ∀ e, activeUntil (changingZone (20758 * DAY + 6 * HOUR) (-4 * HOUR) (-5 * HOUR))
      [⟨.sun, 30 * MINUTE, 90 * MINUTE⟩]
          (20758 * DAY + 375 * MINUTE) = some e ↔
        ClosesAt (changingZone (20758 * DAY + 6 * HOUR) (-4 * HOUR) (-5 * HOUR)) [⟨.sun, 30 * MINUTE, 90 * MINUTE⟩]
          (20758 * DAY + 375 * MINUTE) e) ∧
      ¬ ∀ e, activeUntil (changingZone (20520 * DAY + 7 * HOUR) (-5 * HOUR) (-4 * HOUR)) [⟨.sun, HOUR, 2 * HOUR⟩]
            (20520 * DAY + 7 * HOUR - MINUTE / 2) = some e ↔
          ClosesAt (changingZone (20520 * DAY + 7 * HOUR) (-5 * HOUR) (-4 * HOUR)) [⟨.sun, HOUR, 2 * HOUR⟩]
            (20520 * DAY + 7 * HOUR - MINUTE / 2) e := by
  constructor
  · intro same
    have reported : activeUntil (changingZone (20758 * DAY + 6 * HOUR) (-4 * HOUR) (-5 * HOUR))
      [⟨.sun, 30 * MINUTE, 90 * MINUTE⟩]
        (20758 * DAY + 375 * MINUTE) = some (20758 * DAY + 330 * MINUTE) := by decide +kernel
    have later := ((same _).mp reported).later
    revert later
    decide +kernel
  · intro same
    have reported : activeUntil (changingZone (20520 * DAY + 7 * HOUR) (-5 * HOUR) (-4 * HOUR))
      [⟨.sun, HOUR, 2 * HOUR⟩]
        (20520 * DAY + 7 * HOUR - MINUTE / 2) = some (20520 * DAY + 7 * HOUR - MINUTE) := by decide +kernel
    have later := ((same _).mp reported).later
    revert later
    decide +kernel

end Clocks

end CoopSpaces

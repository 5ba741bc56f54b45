import Mathlib.Order.Bounds.Basic
import Mathlib.Tactic.Common

namespace CoopSpaces

/-- Durations and instants are counted in nanoseconds. -/
def HOUR : Int := 3600000000000

def DAY : Int := 24 * HOUR

/-- Local midnight on a date, as a wall clock; dates are counted in days from the epoch. -/
def midnight (date : Int) : Int := date * DAY

/-- A time zone: the wall clock at each instant, and the first instant at which a wall clock is
read. A clock put forward skips some, a clock put back shows some twice. -/
structure Tz where
  localTime : Int → Int
  earliest : Int → Option Int
  reads : ∀ naive t, earliest naive = some t → localTime t = naive ∧ ∀ u, localTime u = naive → t ≤ u
  skips : ∀ naive, earliest naive = none → ∀ u, localTime u ≠ naive

namespace Tz

def date (tz : Tz) (t : Int) : Int := tz.localTime t / DAY

/-- The first instant of a date. -/
def Begins (tz : Tz) (date : Int) (t : Int) : Prop := IsLeast {u | tz.date u = date} t

end Tz

/-- What the library reads as a date, and the instants it has. -/
structure Chrono where
  parseFromStr : String → Option Int
  minUtc : Int
  maxUtc : Int

/-- An instant so much later, if there is one. Otherwise the sum panics. -/
def Chrono.add (chrono : Chrono) (t duration : Int) : Option Int :=
  if chrono.minUtc ≤ t + duration ∧ t + duration ≤ chrono.maxUtc then some (t + duration) else none

/-- Why a window could not be read. -/
inductive WindowError where
  | unparseable
  | inverted
deriving DecidableEq

def WindowError.message : WindowError → String
  | .unparseable => "dates must be YYYY-MM-DD"
  | .inverted => "`to` must be after `from`"

/-- Local midnight on a date, or one o'clock UTC where it is skipped. -/
def startOfDate (tz : Tz) (date : Int) : Int :=
  match tz.earliest (midnight date) with
  | some t => t
  | none => midnight date + HOUR

def startOfDay (chrono : Chrono) (text : String) (tz : Tz) : Except WindowError Int :=
  match chrono.parseFromStr text with
  | none => .error .unparseable
  | some date => .ok (startOfDate tz date)

/-- The window of a query's dates, none if it has none, and nothing at all if a sum panics. -/
def bounds (chrono : Chrono) (from_ to_ : Option String) (tz : Tz) (lookaheadDays now : Int) :
    Option (Except WindowError (Option (Int × Int))) :=
  if from_.isNone && to_.isNone then some (.ok none)
  else
    match from_.elim (.ok now) (startOfDay chrono · tz) with
    | .error error => some (.error error)
    | .ok start =>
      match to_ with
      | some text =>
        match startOfDay chrono text tz with
        | .error error => some (.error error)
        | .ok last => (chrono.add last DAY).map (finish start)
      | none => (chrono.add now (lookaheadDays * DAY)).map (finish start)
where
  finish (start end_ : Int) : Except WindowError (Option (Int × Int)) :=
    if end_ ≤ start then .error .inverted else .ok (some (start, end_))

section Bounds
variable {chrono : Chrono} {tz : Tz} {fromText toText : String} {from_ to_ lookaheadDays now start end_ : Int}

theorem bounds_eq (parsedFrom : chrono.parseFromStr fromText = some from_)
    (parsedTo : chrono.parseFromStr toText = some to_)
    (succeeds : bounds chrono (some fromText) (some toText) tz lookaheadDays now = some (.ok (some (start, end_)))) :
    start = startOfDate tz from_ ∧ end_ = startOfDate tz to_ + DAY := by
  have first : startOfDay chrono fromText tz = .ok (startOfDate tz from_) := by rw [startOfDay, parsedFrom]
  have last : startOfDay chrono toText tz = .ok (startOfDate tz to_) := by rw [startOfDay, parsedTo]
  simp only [bounds, Option.isNone_some, Bool.and_self, Bool.false_eq_true, if_false, Option.elim_some, first,
    last, Chrono.add] at succeeds
  split at succeeds
  · simp only [Option.map_some, bounds.finish, Option.some.injEq] at succeeds
    split at succeeds
    · cases succeeds
    · cases succeeds
      exact ⟨rfl, rfl⟩
  · cases succeeds

/-- The first date begins as it is read: at its local midnight, or at one o'clock UTC where it has none. -/
def Tz.Opens (tz : Tz) (date : Int) : Prop :=
  (∃ t, tz.earliest (midnight date) = some t ∧ ∀ u, tz.date u = date → t ≤ u) ∨
    tz.earliest (midnight date) = none ∧ tz.Begins date (midnight date + HOUR)

/-- The day after the last date begins 24 hours after that one is read to. -/
def Tz.Closes (tz : Tz) (date : Int) : Prop :=
  (∃ t, tz.earliest (midnight date) = some t ∧ tz.Begins (date + 1) (t + DAY)) ∨
    tz.earliest (midnight date) = none ∧ tz.Begins (date + 1) (midnight date + HOUR + DAY)

theorem date_of_midnight {date t : Int} (midnight_ : tz.localTime t = midnight date) : tz.date t = date := by
  rw [Tz.date, midnight_, midnight]
  exact Int.mul_ediv_cancel date (by decide)

theorem begins_startOfDate_iff {date : Int} : tz.Begins date (startOfDate tz date) ↔ tz.Opens date := by
  unfold startOfDate Tz.Opens
  rcases read : tz.earliest (midnight date) with _ | t
  · exact ⟨fun begins => .inr ⟨rfl, begins⟩, fun opens => opens.elim nofun And.right⟩
  · have reads := tz.reads _ _ read
    constructor
    · intro begins
      exact .inl ⟨t, rfl, fun u on => begins.2 on⟩
    · rintro (⟨t', same, first⟩ | ⟨none_, _⟩)
      · obtain rfl := Option.some.inj same
        exact ⟨date_of_midnight reads.1, first⟩
      · cases none_

theorem begins_day_after_iff {date : Int} : tz.Begins (date + 1) (startOfDate tz date + DAY) ↔ tz.Closes date := by
  unfold startOfDate Tz.Closes
  rcases read : tz.earliest (midnight date) with _ | t
  · exact ⟨fun begins => .inr ⟨rfl, begins⟩, fun closes => closes.elim nofun And.right⟩
  · refine ⟨fun begins => .inl ⟨t, rfl, begins⟩, ?_⟩
    rintro (⟨t', same, begins⟩ | ⟨none_, _⟩)
    · obtain rfl := Option.some.inj same
      exact begins
    · cases none_

/-- The window of two dates is whole local days exactly when the first begins as it is read, and
the day after the last begins 24 hours after that is. -/
theorem bounds_whole_days_iff (parsedFrom : chrono.parseFromStr fromText = some from_)
    (parsedTo : chrono.parseFromStr toText = some to_)
    (succeeds : bounds chrono (some fromText) (some toText) tz lookaheadDays now = some (.ok (some (start, end_)))) :
    tz.Begins from_ start ∧ tz.Begins (to_ + 1) end_ ↔ tz.Opens from_ ∧ tz.Closes to_ := by
  obtain ⟨rfl, rfl⟩ := bounds_eq parsedFrom parsedTo succeeds
  rw [begins_startOfDate_iff, begins_day_after_iff]

end Bounds

/-- A zone that changes its offset once. -/
def Tz.changing (at_ before after : Int) : Tz where
  localTime t := if t < at_ then t + before else t + after
  earliest naive :=
    if naive - before < at_ then some (naive - before) else if at_ ≤ naive - after then some (naive - after) else none
  reads naive t read := by
    split at read
    · cases read
      refine ⟨by rw [if_pos (by omega)]; omega, fun u same => ?_⟩
      split at same <;> omega
    · split at read
      · cases read
        refine ⟨by rw [if_neg (by omega)]; omega, fun u same => ?_⟩
        split at same <;> omega
      · cases read
  skips naive none_ u same := by
    split at none_
    · cases none_
    · split at none_
      · cases none_
      · split at same <;> omega

theorem changing_begins {at_ before after date : Int} (early : midnight date - before < at_) :
    (Tz.changing at_ before after).Begins date (midnight date - before) := by
  constructor
  · refine date_of_midnight ?_
    show (if midnight date - before < at_ then midnight date - before + before else _) = midnight date
    rw [if_pos early]
    omega
  · intro u (on : (if u < at_ then u + before else u + after) / DAY = date)
    by_cases still : u < at_
    · rw [if_pos still] at on
      have there := Int.ediv_mul_le (u + before) (by decide : DAY ≠ 0)
      rw [on] at there
      unfold midnight
      omega
    · omega

/-- New York around 1 November 2026, when its clocks went back at 06:00 UTC. -/
def newYork : Tz := .changing (20758 * DAY + 6 * HOUR) (-4 * HOUR) (-5 * HOUR)

def fewDates : Chrono where
  parseFromStr text :=
    if text = "2026-10-06" then some 20732
    else if text = "2026-11-01" then some 20758
    else none
  minUtc := -96465293 * DAY
  maxUtc := 95026237 * DAY - 1

/-- On 6 October the day is as long as any. -/
theorem october_day_is_whole : newYork.Begins 20732 (20732 * DAY + 4 * HOUR) ∧
    newYork.Begins 20733 (20733 * DAY + 4 * HOUR) := by
  have window : bounds fewDates (some "2026-10-06") (some "2026-10-06") newYork 30 0 =
      some (.ok (some (20732 * DAY + 4 * HOUR, 20733 * DAY + 4 * HOUR))) := by decide +kernel
  have read : newYork.earliest (midnight 20732) = some (20732 * DAY + 4 * HOUR) := by decide +kernel
  have opens : newYork.Begins 20732 (20732 * DAY + 4 * HOUR) := changing_begins (by decide)
  have closes : newYork.Begins (20732 + 1) (20732 * DAY + 4 * HOUR + DAY) := changing_begins (by decide)
  have parsed : fewDates.parseFromStr "2026-10-06" = some 20732 := by decide +kernel
  have whole := bounds_whole_days_iff parsed parsed window
  exact whole.mpr ⟨.inl ⟨_, read, fun u on => opens.2 on⟩, .inl ⟨_, read, closes⟩⟩

/-- 1 November has 25 hours, and the window leaves the last one out. -/
theorem fall_back_day_cut_short :
    bounds fewDates (some "2026-11-01") (some "2026-11-01") newYork 30 0 =
        some (.ok (some (20758 * DAY + 4 * HOUR, 20759 * DAY + 4 * HOUR))) ∧
      ¬ (newYork.Begins 20758 (20758 * DAY + 4 * HOUR) ∧ newYork.Begins 20759 (20759 * DAY + 4 * HOUR)) := by
  refine ⟨by decide +kernel, fun whole => ?_⟩
  have early : newYork.date (20759 * DAY + 4 * HOUR) = 20758 := by decide +kernel
  have begins : newYork.date (20759 * DAY + 4 * HOUR) = 20759 := whole.2.1
  omega

end CoopSpaces

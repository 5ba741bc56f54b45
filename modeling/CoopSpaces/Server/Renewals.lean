import CoopSpaces.Lib.Calendar
import CoopSpaces.Server.Dues
import Mathlib.Data.List.Chain

namespace CoopSpaces

inductive MembershipPeriod
  | monthly
  | quarterly
  | yearly
  deriving DecidableEq

def MembershipPeriod.months : MembershipPeriod → Int
  | .monthly => 1
  | .quarterly => 3
  | .yearly => 12

/-- A date in microseconds falls in the years chrono has. -/
def Representable (date : Int) : Prop :=
  daysToMicros (Calendar.yearStart (-262143)) ≤ date ∧ date < daysToMicros (Calendar.yearStart 262143)

instance (date : Int) : Decidable (Representable date) := inferInstanceAs (Decidable (_ ∧ _))

def dayOf (date : Int) : Int := date / 86400000000

def timeOfDay (date : Int) : Int := date % 86400000000

/-- What the renewals of a pass add to. -/
structure MembershipCycleOutcome where
  duesCharged : Nat
  lapsed : Nat
  deriving DecidableEq

inductive RenewalEnd
  | ok
  | failed (e : DbError)
  | panicked
  deriving DecidableEq

abbrev RenewalRoutine (Uuid : Type) :=
  Routine (BillingTables Uuid) (BillingWrite Uuid) (Except DbError Nat) (MembershipCycleOutcome × RenewalEnd)

namespace Renewal

def checkedAddMonths (months date : Int) : Option Int :=
  let moved := daysToMicros (Calendar.addMonths months (dayOf date)) + timeOfDay date
  if Representable moved then some moved else none

/-- A date and a duration of days; `none` where the duration or the sum panics. -/
def addDays (date days : Int) : Option Int :=
  if |days * 86400| ≤ 9223372036854775 ∧ Representable (date + daysToMicros days) then some (date + daysToMicros days)
  else none

/-- Advance an anniversary by one dues period. A day the month does not have rolls to the first
of the next. -/
def advancePeriod (period : MembershipPeriod) (date : Int) : Option Int :=
  let advanced := (checkedAddMonths period.months date).getD date
  if Calendar.dayOfMonth (dayOf advanced) ≠ Calendar.dayOfMonth (dayOf date) then addDays advanced 1
  else some advanced

def duesDue (nextDue now graceDays : Int) : Option Bool :=
  (addDays nextDue graceDays).map fun last => decide (last ≤ now)

section
variable {Uuid : Type} [DecidableEq Uuid]

def andThen (outcome : MembershipCycleOutcome) (change : BillingWrite Uuid) (next : RenewalRoutine Uuid) :
    RenewalRoutine Uuid :=
  .write change fun reply =>
    match reply with
    | .ok _ => next
    | .error e => .done (outcome, .failed e)

/-- A turn of the loop; the rest of it goes on from the anniversary the turn leaves. -/
def renewalTurn (period : MembershipPeriod) (now : Int) (userId : Uuid) (due : Rat) (grace : Int)
    (rest : MembershipCycleOutcome → Option Int → RenewalRoutine Uuid) (outcome : MembershipCycleOutcome)
    (nextDue : Int) :
    RenewalRoutine Uuid :=
  match duesDue nextDue now grace with
  | none => .done (outcome, .panicked)
  | some false => .done (outcome, .ok)
  | some true => .read fun s =>
    if due ≤ s.userBalance userId then
      andThen outcome (.insertLedgerEntry (BillingRequest.duesEntry userId due))
        (match advancePeriod period nextDue with
        | none => .done (outcome, .panicked)
        | some next =>
          andThen outcome (.setMembershipNextDue userId (some next))
            (let outcome := { outcome with duesCharged := outcome.duesCharged + 1 }
            andThen outcome (.applyRole userId true) (rest outcome (some next))))
    else
      -- Cannot cover: end the membership (no debt), downgrade.
      andThen outcome (.setMembershipNextDue userId none)
        (andThen outcome (.applyRole userId false) (rest { outcome with lapsed := outcome.lapsed + 1 } none))

/-- The loop, with as many turns left as its guard allows. -/
def renewals (period : MembershipPeriod) (now : Int) (userId : Uuid) (due : Rat) (grace : Int) :
    Nat → MembershipCycleOutcome → Option Int → RenewalRoutine Uuid
  | 0, outcome, _ => .done (outcome, .ok)
  | _ + 1, outcome, none => .done (outcome, .ok)
  | turns + 1, outcome, some nextDue =>
    renewalTurn period now userId due grace (renewals period now userId due grace turns) outcome nextDue

/-- Deduct every period now due for one enrolled user, or lapse them. -/
def settleRenewal (period : MembershipPeriod) (now : Int) (userId : Uuid) (outcome : MembershipCycleOutcome) :
    RenewalRoutine Uuid :=
  .read fun s =>
    let due := s.config.dueAmount
    let grace := s.config.graceDays
    .read fun s =>
      match s.users userId with
      | none => .done (outcome, .ok)
      | some user => renewals period now userId due grace 1200 outcome user.membershipNextDueAt

end

/-- A date lies one period after another: on the same day of the month, or the first of the month
after where the month has no such day, at the same time of day, and four weeks later at the least. -/
structure OnePeriodLater (period : MembershipPeriod) (date next : Int) : Prop where
  later : date + daysToMicros 28 ≤ next
  timeOfDay : timeOfDay next = timeOfDay date
  day : Calendar.monthOf (dayOf next) = Calendar.monthOf (dayOf date) + period.months ∧
      Calendar.dayOfMonth (dayOf next) = Calendar.dayOfMonth (dayOf date) ∨
    Calendar.monthLength (Calendar.monthOf (dayOf date) + period.months) ≤ Calendar.dayOfMonth (dayOf date) ∧
      Calendar.monthOf (dayOf next) = Calendar.monthOf (dayOf date) + period.months + 1 ∧
      Calendar.dayOfMonth (dayOf next) = 0

/-- A period's statements: the dues, the next anniversary, and the role. -/
def periodWrites {Uuid : Type} (userId : Uuid) (due : Rat) (next : Int) : List (BillingWrite Uuid) :=
  [.insertLedgerEntry (BillingRequest.duesEntry userId due), .setMembershipNextDue userId (some next),
    .applyRole userId true]

def lapseWrites {Uuid : Type} (userId : Uuid) : List (BillingWrite Uuid) :=
  [.setMembershipNextDue userId none, .applyRole userId false]

variable {Uuid : Type} [DecidableEq Uuid] (rules : BillingRules Uuid) (period : MembershipPeriod) (now : Int)
  (userId : Uuid) (due : Rat) (grace : Int)

/-- The routine ends, having charged a period for each of the dates and then lapsed the member or not. -/
structure CatchesUp (turns : Nat) (routine : RenewalRoutine Uuid) (s : BillingTables Uuid)
    (outcome : MembershipCycleOutcome) (nextDue : Int) (dates : List Int) (lapsed : Bool) : Prop where
  answer : (routine.solo (BillingTables.perform rules) s).2 =
    (⟨outcome.duesCharged + dates.length, outcome.lapsed + lapsed.toNat⟩, .ok)
  writes : (routine.soloWrites (BillingTables.perform rules) s).map Prod.snd =
    dates.flatMap (periodWrites userId due) ++ if lapsed then lapseWrites userId else []
  forward : (nextDue :: dates).IsChain (OnePeriodLater period)
  cap : dates.length + lapsed.toNat ≤ turns
  caughtUp : lapsed = true ∨ now < dates.getLastD nextDue + daysToMicros grace ∨ dates.length = turns
  user : (routine.solo (BillingTables.perform rules) s).1.users userId =
    some ⟨if lapsed then none else some (dates.getLastD nextDue)⟩
  balance : (routine.solo (BillingTables.perform rules) s).1.userBalance userId =
    s.userBalance userId - dates.length * due
  short : lapsed = true → (routine.solo (BillingTables.perform rules) s).1.userBalance userId < due

/-- The anniversary one period on, wherever it falls. -/
def anniversary (date : Int) : Int :=
  daysToMicros (Calendar.anniversary period.months (dayOf date)) + timeOfDay date

/-- The anniversaries the loop comes to stay within the years there are, and so do the ends of
their grace. -/
def InRange (turns : Nat) (balance : Rat) (nextDue : Int) : Prop :=
  ∀ k, (∀ j < k, j < turns ∧ (anniversary period)^[j] nextDue + daysToMicros grace ≤ now ∧ (j + 1) * due ≤ balance) →
    Representable ((anniversary period)^[k] nextDue) ∧
      (k < turns → Representable ((anniversary period)^[k] nextDue + daysToMicros grace))

section
variable {period now userId due grace} {date : Int}

omit period in
theorem dayOf_daysToMicros (day : Int) (date : Int) :
    dayOf (daysToMicros day + timeOfDay date) = day ∧
      timeOfDay (daysToMicros day + timeOfDay date) = timeOfDay date := by
  simp only [dayOf, timeOfDay, daysToMicros]
  omega

theorem representable_iff (day : Int) (date : Int) : Representable (daysToMicros day + timeOfDay date) ↔
    Calendar.yearStart (-262143) ≤ day ∧ day < Calendar.yearStart 262143 := by
  simp only [Representable, timeOfDay, daysToMicros]
  omega

theorem dayOf_add_timeOfDay (date : Int) : daysToMicros (dayOf date) + timeOfDay date = date := by
  simp only [dayOf, timeOfDay, daysToMicros]
  omega

theorem anniversary_onePeriodLater (period : MembershipPeriod) (date : Int) :
    OnePeriodLater period date (anniversary period date) := by
  have forward : 0 < period.months := by cases period <;> decide
  obtain ⟨day, time⟩ := dayOf_daysToMicros (Calendar.anniversary period.months (dayOf date)) date
  refine ⟨?_, time, ?_⟩
  · have later := Calendar.anniversary_later forward (dayOf date)
    have split := dayOf_add_timeOfDay date
    simp only [anniversary, daysToMicros] at split ⊢
    omega
  · rw [anniversary, day]
    exact Calendar.anniversary_spec period.months (dayOf date)

theorem representable_roll {day months : Int}
    (short : Calendar.monthLength (Calendar.monthOf day + months) ≤ Calendar.dayOfMonth day)
    (inside : Calendar.addMonths months day < Calendar.yearStart 262143) :
    Calendar.anniversary months day < Calendar.yearStart 262143 := by
  have rolled := (Calendar.addMonths_of_short short).1
  have first : Calendar.anniversary months day = Calendar.monthStart (Calendar.monthOf day + months + 1) := by
    simp only [Calendar.anniversary, if_neg (Int.not_lt.mpr short)]
  rw [← Calendar.monthStart_year] at inside ⊢
  have most : Calendar.monthStart (Calendar.monthOf day + months + 1) ≤ Calendar.monthStart (12 * 262143) := by omega
  have most := Calendar.monthStart_le_iff.mp most
  rw [first]
  refine Calendar.monthStart_lt_iff.mpr (lt_of_le_of_ne most fun last => ?_)
  have december := Calendar.monthLength_december (m := Calendar.monthOf day + months) (by omega)
  have inside := (Calendar.dayOfMonth_bounds day).2
  have length := (Calendar.monthLength_bounds (Calendar.monthOf day)).2
  omega

theorem advancePeriod_of_none (fails : checkedAddMonths period.months date = none) :
    advancePeriod period date = some date := by
  simp only [advancePeriod, fails, Option.getD_none, ne_eq, not_true, if_false]

theorem advancePeriod_of_fits
    (fits : Calendar.dayOfMonth (dayOf date) < Calendar.monthLength (Calendar.monthOf (dayOf date) + period.months)) :
    advancePeriod period date =
      some (if Representable (anniversary period date) then anniversary period date else date) := by
  obtain ⟨same, sameDay⟩ := Calendar.addMonths_of_fits fits
  by_cases inside : Representable (anniversary period date)
  · have moved : checkedAddMonths period.months date = some (anniversary period date) := by
      simp only [checkedAddMonths, same]
      exact if_pos inside
    have day : dayOf (anniversary period date) = Calendar.anniversary period.months (dayOf date) :=
      (dayOf_daysToMicros _ date).1
    rw [same] at sameDay
    simp only [advancePeriod, moved, Option.getD_some, day, sameDay, ne_eq, not_true, if_false, if_pos inside]
  · have moved : checkedAddMonths period.months date = none := by
      simp only [checkedAddMonths, same]
      exact if_neg inside
    rw [advancePeriod_of_none moved, if_neg inside]

theorem advancePeriod_of_short (stored : Representable date)
    (short : Calendar.monthLength (Calendar.monthOf (dayOf date) + period.months) ≤
      Calendar.dayOfMonth (dayOf date)) :
    advancePeriod period date =
      some (if Representable (anniversary period date) then anniversary period date else date) := by
  have forward : 0 < period.months := by cases period <;> decide
  have later := Calendar.anniversary_later forward (dayOf date)
  obtain ⟨rolled, otherDay⟩ := Calendar.addMonths_of_short short
  have least : Calendar.yearStart (-262143) ≤ dayOf date := by
    rw [← dayOf_add_timeOfDay date, representable_iff] at stored
    exact stored.1
  by_cases inside : Representable (anniversary period date)
  · have whole := (representable_iff _ _).mp inside
    have moved : Representable (daysToMicros (Calendar.addMonths period.months (dayOf date)) + timeOfDay date) := by
      rw [representable_iff]
      omega
    have next : daysToMicros (Calendar.addMonths period.months (dayOf date)) + timeOfDay date + daysToMicros 1 =
        anniversary period date := by
      simp only [anniversary, daysToMicros]
      omega
    have oneDay : |(1 : Int) * 86400| ≤ 9223372036854775 := by decide
    simp only [advancePeriod, checkedAddMonths, if_pos moved, Option.getD_some, (dayOf_daysToMicros _ date).1,
      ne_eq, otherDay, not_false_iff, if_true, addDays, next, and_self, oneDay, inside]
  · have moved : checkedAddMonths period.months date = none := by
      refine if_neg fun moved => inside ?_
      have whole := (representable_iff _ _).mp moved
      exact (representable_iff _ _).mpr ⟨by omega, representable_roll short whole.2⟩
    rw [advancePeriod_of_none moved, if_neg inside]

theorem advancePeriod_eq (period : MembershipPeriod) (stored : Representable date) :
    advancePeriod period date =
      some (if Representable (anniversary period date) then anniversary period date else date) := by
  by_cases fits : Calendar.dayOfMonth (dayOf date) <
      Calendar.monthLength (Calendar.monthOf (dayOf date) + period.months)
  · exact advancePeriod_of_fits fits
  · exact advancePeriod_of_short stored (Int.not_lt.mp fits)

theorem duesDue_eq (now grace : Int) (stored : Representable date) :
    duesDue date now grace =
      if Representable (date + daysToMicros grace) then some (decide (date + daysToMicros grace ≤ now))
      else none := by
  have first : Calendar.yearStart (-262143) = -96465292 := by decide
  have last : Calendar.yearStart 262143 = 95026237 := by decide
  by_cases inside : Representable (date + daysToMicros grace)
  · have fits : |grace * 86400| ≤ 9223372036854775 := by
      simp only [Representable, daysToMicros, first, last] at stored inside
      rw [abs_le]
      omega
    simp only [duesDue, addDays, fits, inside, and_self, if_true, Option.map_some]
  · simp only [duesDue, addDays, inside, and_false, if_false, Option.map_none]

theorem inRange_zero {balance : Rat} : InRange period now due grace 0 balance date ↔ Representable date := by
  constructor
  · intro range
    exact (range 0 (by simp)).1
  · rintro stored k before
    cases k with
    | zero => exact ⟨stored, by simp⟩
    | succ k => exact absurd (before 0 (Nat.zero_lt_succ k)).1 (Nat.lt_irrefl 0)

variable {turns : Nat}

/-- A turn of the loop. -/
theorem inRange_succ {balance : Rat} : InRange period now due grace (turns + 1) balance date ↔
    Representable date ∧ Representable (date + daysToMicros grace) ∧
      (date + daysToMicros grace ≤ now → due ≤ balance →
        InRange period now due grace turns (balance - due) (anniversary period date)) := by
  constructor
  · intro range
    obtain ⟨stored, ends⟩ := range 0 (by simp)
    refine ⟨stored, ends (Nat.zero_lt_succ turns), fun late covers k before => ?_⟩
    obtain ⟨inside, ends⟩ := range (k + 1) (by
      intro j earlier
      cases j with
      | zero => exact ⟨Nat.zero_lt_succ turns, late, by simpa using covers⟩
      | succ j =>
        obtain ⟨more, late, covers⟩ := before j (Nat.lt_of_succ_lt_succ earlier)
        refine ⟨Nat.succ_lt_succ more, late, ?_⟩
        rw [Nat.cast_succ, add_mul _ (1 : Rat), one_mul]
        linarith)
    exact ⟨inside, fun more => ends (Nat.succ_lt_succ more)⟩
  · rintro ⟨stored, ends, rest⟩ k before
    cases k with
    | zero => exact ⟨stored, fun _ => ends⟩
    | succ k =>
      obtain ⟨-, late, covers⟩ := before 0 (Nat.zero_lt_succ k)
      obtain ⟨inside, ends⟩ := rest late (by simpa using covers) k (by
        intro j earlier
        obtain ⟨more, late, covers⟩ := before (j + 1) (Nat.succ_lt_succ earlier)
        refine ⟨Nat.lt_of_succ_lt_succ more, late, ?_⟩
        rw [Nat.cast_succ, add_mul _ (1 : Rat), one_mul] at covers
        linarith)
      exact ⟨inside, fun more => ends (Nat.lt_of_succ_lt_succ more)⟩

variable {rules} {s : BillingTables Uuid} {outcome : MembershipCycleOutcome} {nextDue : Int}

/-- The tables once a period has been charged. -/
def charged (rules : BillingRules Uuid) (s : BillingTables Uuid) (userId : Uuid) (due : Rat) (next : Int) :
    BillingTables Uuid :=
  { s with
    ledger := s.ledger ++ [BillingRequest.duesEntry userId due]
    users := s.users.insert userId ⟨some next⟩
    memberAccess := rules.applyRole s.memberAccess userId true }

def ended (rules : BillingRules Uuid) (s : BillingTables Uuid) (userId : Uuid) : BillingTables Uuid :=
  { s with
    users := s.users.insert userId ⟨none⟩
    memberAccess := rules.applyRole s.memberAccess userId false }

theorem userBalance_charged (next : Int) :
    (charged rules s userId due next).userBalance userId = s.userBalance userId - due := by
  simp only [charged, BillingTables.userBalance, BillingRequest.duesEntry, List.map_append, List.map_cons,
    List.map_nil, List.sum_append, List.sum_singleton, if_true, sub_eq_add_neg]

theorem users_charged (next : Int) : (charged rules s userId due next).users userId = some ⟨some next⟩ := by
  simp [charged]

theorem solo_andThen {change : BillingWrite Uuid} {next : RenewalRoutine Uuid} {t : BillingTables Uuid} {n : Nat}
    (lands : s.perform rules change = (t, .ok n)) :
    (andThen outcome change next).solo (BillingTables.perform rules) s = next.solo (BillingTables.perform rules) t ∧
      (andThen outcome change next).soloWrites (BillingTables.perform rules) s =
        (s, change) :: next.soloWrites (BillingTables.perform rules) t := by
  simp only [andThen, Routine.solo, Routine.soloWrites, lands, and_self]

/-- A period's statements, and what comes after them. -/
theorem solo_charge (rules : BillingRules Uuid) {row : MemberRow} (enrolled : s.users userId = some row)
    (outcome outcome' : MembershipCycleOutcome) (next : Int) (rest : RenewalRoutine Uuid) :
    let routine := andThen outcome (.insertLedgerEntry (BillingRequest.duesEntry userId due))
      (andThen outcome (.setMembershipNextDue userId (some next)) (andThen outcome' (.applyRole userId true) rest))
    routine.solo (BillingTables.perform rules) s =
        rest.solo (BillingTables.perform rules) (charged rules s userId due next) ∧
      (routine.soloWrites (BillingTables.perform rules) s).map Prod.snd = periodWrites userId due next ++
        (rest.soloWrites (BillingTables.perform rules) (charged rules s userId due next)).map Prod.snd := by
  intro routine
  have posts : s.perform rules (.insertLedgerEntry (BillingRequest.duesEntry userId due)) =
      ({ s with ledger := s.ledger ++ [BillingRequest.duesEntry userId due] }, .ok s.ledger.length) := by
    simp [BillingTables.perform, BillingRequest.duesEntry, enrolled]
  have dates : { s with ledger := s.ledger ++ [BillingRequest.duesEntry userId due] }.perform rules
      (.setMembershipNextDue userId (some next)) =
        ({ s with
          ledger := s.ledger ++ [BillingRequest.duesEntry userId due]
          users := s.users.insert userId ⟨some next⟩ }, .ok 1) := by
    simp [BillingTables.perform, enrolled]
  have grants : { s with
      ledger := s.ledger ++ [BillingRequest.duesEntry userId due]
      users := s.users.insert userId ⟨some next⟩ }.perform rules (.applyRole userId true) =
        (charged rules s userId due next, .ok 1) := rfl
  constructor
  · exact (solo_andThen posts).1.trans ((solo_andThen dates).1.trans (solo_andThen grants).1)
  · simp only [routine, (solo_andThen posts).2, (solo_andThen dates).2, (solo_andThen grants).2, List.map_cons,
      periodWrites, List.cons_append, List.nil_append]

theorem solo_lapse (rules : BillingRules Uuid) {row : MemberRow} (enrolled : s.users userId = some row)
    (outcome : MembershipCycleOutcome) (rest : RenewalRoutine Uuid) :
    let routine := andThen outcome (.setMembershipNextDue userId none)
      (andThen outcome (.applyRole userId false) rest)
    routine.solo (BillingTables.perform rules) s = rest.solo (BillingTables.perform rules) (ended rules s userId) ∧
      (routine.soloWrites (BillingTables.perform rules) s).map Prod.snd = lapseWrites userId ++
        (rest.soloWrites (BillingTables.perform rules) (ended rules s userId)).map Prod.snd := by
  intro routine
  have ends : s.perform rules (.setMembershipNextDue userId none) =
      ({ s with users := s.users.insert userId ⟨none⟩ }, .ok 1) := by
    simp [BillingTables.perform, enrolled]
  have revokes : { s with users := s.users.insert userId ⟨none⟩ }.perform rules (.applyRole userId false) =
      (ended rules s userId, .ok 1) := rfl
  constructor
  · exact (solo_andThen ends).1.trans (solo_andThen revokes).1
  · simp only [routine, (solo_andThen ends).2, (solo_andThen revokes).2, List.map_cons, lapseWrites, List.cons_append,
      List.nil_append]

theorem renewals_none (turns : Nat) :
    renewals period now userId due grace turns outcome none = .done (outcome, .ok) := by
  cases turns <;> rfl

theorem renewals_panics (found : duesDue nextDue now grace = none) :
    renewals period now userId due grace (turns + 1) outcome (some nextDue) = .done (outcome, .panicked) := by
  rw [renewals, renewalTurn, found]

theorem renewals_early (found : duesDue nextDue now grace = some false) :
    renewals period now userId due grace (turns + 1) outcome (some nextDue) = .done (outcome, .ok) := by
  rw [renewals, renewalTurn, found]

theorem renewals_due {next : Int} (found : duesDue nextDue now grace = some true)
    (advances : advancePeriod period nextDue = some next) :
    renewals period now userId due grace (turns + 1) outcome (some nextDue) = .read fun s =>
      if due ≤ s.userBalance userId then
        let outcome' := { outcome with duesCharged := outcome.duesCharged + 1 }
        andThen outcome (.insertLedgerEntry (BillingRequest.duesEntry userId due))
          (andThen outcome (.setMembershipNextDue userId (some next))
            (andThen outcome' (.applyRole userId true)
              (renewals period now userId due grace turns outcome' (some next))))
      else
        andThen outcome (.setMembershipNextDue userId none)
          (andThen outcome (.applyRole userId false)
            (renewals period now userId due grace turns { outcome with lapsed := outcome.lapsed + 1 } none)) := by
  rw [renewals, renewalTurn, found]
  simp only [advances]

theorem catchesUp_read_iff {next : BillingTables Uuid → RenewalRoutine Uuid} {dates : List Int} {lapsed : Bool} :
    CatchesUp rules period now userId due grace turns (.read next) s outcome nextDue dates lapsed ↔
      CatchesUp rules period now userId due grace turns (next s) s outcome nextDue dates lapsed := by
  constructor <;> rintro ⟨answer, writes, forward, cap, caughtUp, user, balance, short⟩
  · exact ⟨answer, writes, forward, cap, caughtUp, user, balance, short⟩
  · exact ⟨answer, writes, forward, cap, caughtUp, user, balance, short⟩

theorem catchesUp_done (enrolled : s.users userId = some ⟨some nextDue⟩)
    (still : now < nextDue + daysToMicros grace ∨ turns = 0) :
    CatchesUp rules period now userId due grace turns (.done (outcome, .ok)) s outcome nextDue [] false where
  answer := rfl
  writes := rfl
  forward := List.isChain_singleton nextDue
  cap := Nat.zero_le turns
  caughtUp := by
    rcases still with early | spent
    · exact .inr (.inl early)
    · exact .inr (.inr spent.symm)
  user := enrolled
  balance := by simp [Routine.solo]
  short := by simp

theorem catchesUp_lapse (enrolled : s.users userId = some ⟨some nextDue⟩) (short : s.userBalance userId < due) :
    CatchesUp rules period now userId due grace (turns + 1)
      (andThen outcome (.setMembershipNextDue userId none) (andThen outcome (.applyRole userId false)
        (renewals period now userId due grace turns { outcome with lapsed := outcome.lapsed + 1 } none)))
      s outcome nextDue [] true := by
  obtain ⟨runs, writes⟩ := solo_lapse rules enrolled outcome
    (renewals period now userId due grace turns { outcome with lapsed := outcome.lapsed + 1 } none)
  simp only [renewals_none] at runs writes ⊢
  refine ⟨?_, ?_, List.isChain_singleton nextDue, by simp, .inl rfl, ?_, ?_, ?_⟩
  · rw [runs]
    rfl
  · rw [writes]
    rfl
  · rw [runs]
    simp [Routine.solo, ended]
  · rw [runs]
    simp [Routine.solo, ended, BillingTables.userBalance]
  · intro _
    rw [runs]
    exact short

/-- A turn that charges a period catches up when the date moves on by it and the rest does. -/
theorem catchesUp_charge_iff {row : MemberRow} (enrolled : s.users userId = some row) (next : Int) :
    let outcome' := { outcome with duesCharged := outcome.duesCharged + 1 }
    let rest := renewals period now userId due grace turns outcome' (some next)
    let routine := andThen outcome (.insertLedgerEntry (BillingRequest.duesEntry userId due))
      (andThen outcome (.setMembershipNextDue userId (some next)) (andThen outcome' (.applyRole userId true) rest))
    (∃ dates lapsed, CatchesUp rules period now userId due grace (turns + 1) routine s outcome nextDue dates lapsed) ↔
      OnePeriodLater period nextDue next ∧ ∃ dates lapsed,
        CatchesUp rules period now userId due grace turns rest
          (charged rules s userId due next) outcome' next dates lapsed := by
  intro outcome' rest routine
  obtain ⟨runs, writes⟩ := solo_charge rules enrolled outcome outcome' next rest
  constructor
  · rintro ⟨dates, lapsed, up⟩
    have made := up.writes
    rw [writes] at made
    cases dates with
    | nil => cases lapsed <;> simp [periodWrites, lapseWrites] at made
    | cons first dates =>
      obtain ⟨rfl, left⟩ : next = first ∧
          (rest.soloWrites (BillingTables.perform rules) (charged rules s userId due next)).map Prod.snd =
            dates.flatMap (periodWrites userId due) ++ if lapsed then lapseWrites userId else [] := by
        simpa [periodWrites] using made
      obtain ⟨step, forward⟩ := List.isChain_cons_cons.mp up.forward
      refine ⟨step, dates, lapsed, ?_, left, forward, ?_, ?_, ?_, ?_, ?_⟩
      · have answer := up.answer
        rw [runs] at answer
        rw [answer]
        simp only [outcome', List.length_cons]
        congr 2
        omega
      · have cap := up.cap
        simp only [List.length_cons] at cap
        omega
      · simpa only [List.getLastD_cons, List.length_cons, Nat.add_right_cancel_iff] using up.caughtUp
      · have user := up.user
        rw [runs] at user
        simpa only [List.getLastD_cons] using user
      · have balance := up.balance
        rw [runs] at balance
        rw [balance, userBalance_charged]
        simp only [List.length_cons, Nat.cast_succ]
        ring
      · intro lapse
        have short := up.short lapse
        rwa [runs] at short
  · rintro ⟨step, dates, lapsed, up⟩
    refine ⟨next :: dates, lapsed, ?_, ?_, List.isChain_cons_cons.mpr ⟨step, up.forward⟩, ?_, ?_, ?_, ?_, ?_⟩
    · rw [runs, up.answer]
      simp only [outcome', List.length_cons]
      congr 2
      omega
    · rw [writes, up.writes, List.flatMap_cons, List.append_assoc]
    · have cap := up.cap
      simp only [List.length_cons]
      omega
    · simpa only [List.getLastD_cons, List.length_cons, Nat.add_right_cancel_iff] using up.caughtUp
    · rw [runs, up.user, List.getLastD_cons]
    · rw [runs, up.balance, userBalance_charged]
      simp only [List.length_cons, Nat.cast_succ]
      ring
    · intro lapse
      rw [runs]
      exact up.short lapse

theorem renewals_catchesUp_iff (turns : Nat) (enrolled : s.users userId = some ⟨some nextDue⟩)
    (stored : Representable nextDue) :
    (∃ dates lapsed, CatchesUp rules period now userId due grace turns
        (renewals period now userId due grace turns outcome (some nextDue)) s outcome nextDue dates lapsed) ↔
      InRange period now due grace turns (s.userBalance userId) nextDue := by
  induction turns generalizing s outcome nextDue with
  | zero =>
    rw [inRange_zero]
    exact iff_of_true ⟨[], false, catchesUp_done enrolled (.inr rfl)⟩ stored
  | succ turns ih =>
    rw [inRange_succ]
    have found := duesDue_eq now grace stored
    by_cases ends : Representable (nextDue + daysToMicros grace)
    · rw [if_pos ends] at found
      by_cases late : nextDue + daysToMicros grace ≤ now
      · have overdue : decide (nextDue + daysToMicros grace ≤ now) = true := decide_eq_true late
        rw [overdue] at found
        rw [renewals_due found (advancePeriod_eq period stored)]
        by_cases covers : due ≤ s.userBalance userId
        · simp only [catchesUp_read_iff, if_pos covers]
          refine (catchesUp_charge_iff enrolled _).trans ?_
          by_cases inside : Representable (anniversary period nextDue)
          · simp only [if_pos inside]
            rw [ih (users_charged _) inside, userBalance_charged]
            constructor
            · rintro ⟨-, range⟩
              exact ⟨stored, ends, fun _ _ => range⟩
            · rintro ⟨-, -, range⟩
              exact ⟨anniversary_onePeriodLater period nextDue, range late covers⟩
          · simp only [if_neg inside]
            refine iff_of_false ?_ fun range => inside (range.2.2 late covers 0 (by simp)).1
            rintro ⟨stands, -⟩
            have later := stands.later
            simp only [daysToMicros] at later
            omega
        · refine iff_of_true ⟨[], true, ?_⟩ ⟨stored, ends, fun _ enough => absurd enough covers⟩
          rw [catchesUp_read_iff, if_neg covers]
          exact catchesUp_lapse enrolled (not_le.mp covers)
      · have early : decide (nextDue + daysToMicros grace ≤ now) = false := decide_eq_false late
        rw [early] at found
        refine iff_of_true ⟨[], false, ?_⟩ ⟨stored, ends, fun due => absurd due late⟩
        rw [renewals_early found]
        exact catchesUp_done enrolled (.inl (Int.not_le.mp late))
    · rw [if_neg ends] at found
      refine iff_of_false ?_ fun range => ends range.2.1
      rintro ⟨dates, lapsed, up⟩
      have answer := up.answer
      rw [renewals_panics found] at answer
      simp [Routine.solo] at answer

/-- The answer of the billing request, which leaves out what a pass counts. -/
def answered : MembershipCycleOutcome × RenewalEnd → BillingRoutine Uuid
  | (_, .failed e) => .done (.failed e)
  | (_, _) => .done .done

omit [DecidableEq Uuid] in
theorem andThen_bind {change : BillingWrite Uuid} {next : RenewalRoutine Uuid} :
    (andThen outcome change next).bind answered = BillingRequest.andThen change (next.bind answered) := by
  simp only [andThen, BillingRequest.andThen, Routine.bind]
  congr 1
  funext reply
  cases reply <;> rfl

/-- While the anniversaries are dates, the loop is the one the billing requests run. -/
theorem renewals_bind (advances : rules.advancePeriod = anniversary period)
    (inside : ∀ k ≤ turns, Representable ((anniversary period)^[k] nextDue) ∧
      Representable ((anniversary period)^[k] nextDue + daysToMicros grace)) :
    (renewals period now userId due grace turns outcome (some nextDue)).bind answered =
      BillingRequest.renewals rules now userId due grace turns (some nextDue) := by
  induction turns generalizing outcome nextDue with
  | zero => rfl
  | succ turns ih =>
    obtain ⟨stored, ends⟩ : Representable nextDue ∧ Representable (nextDue + daysToMicros grace) :=
      inside 0 (Nat.zero_le _)
    have next : Representable (anniversary period nextDue) := (inside 1 (by omega)).1
    have found := duesDue_eq now grace stored
    have step := advancePeriod_eq period stored
    rw [if_pos ends] at found
    rw [if_pos next] at step
    rw [BillingRequest.renewals, BillingRequest.duesDue]
    by_cases late : nextDue + daysToMicros grace ≤ now
    · rw [decide_eq_true late] at found ⊢
      rw [renewals_due found step]
      simp only [Routine.bind, Bool.not_true, Bool.false_eq_true, if_false, advances]
      congr 1
      funext s
      split
      · simp only [andThen_bind]
        rw [ih fun k less => inside (k + 1) (Nat.succ_le_succ less)]
      · simp only [andThen_bind, renewals_none]
        cases turns <;> rfl
    · rw [decide_eq_false late] at found ⊢
      rw [renewals_early found]
      rfl

end

end Renewal

variable {Uuid : Type} [DecidableEq Uuid]

/-- A renewal catches up exactly when the anniversaries it comes to, and the ends of their grace,
are dates. -/
theorem settleRenewal_catchesUp_iff (rules : BillingRules Uuid) (period : MembershipPeriod) (now : Int)
    (userId : Uuid)
    (outcome : MembershipCycleOutcome) (s : BillingTables Uuid) (nextDue : Int)
    (enrolled : s.users userId = some ⟨some nextDue⟩) (stored : Representable nextDue) :
    (∃ dates lapsed, Renewal.CatchesUp rules period now userId s.config.dueAmount s.config.graceDays 1200
        (Renewal.settleRenewal period now userId outcome) s outcome nextDue dates lapsed) ↔
      Renewal.InRange period now s.config.dueAmount s.config.graceDays 1200 (s.userBalance userId) nextDue := by
  simp only [Renewal.settleRenewal, Renewal.catchesUp_read_iff, enrolled]
  exact Renewal.renewals_catchesUp_iff 1200 enrolled stored

/-- A member whose dues of twenty fall due on the last day of January 1970, with fifty in hand. -/
def endOfJanuary (graceDays : Int) : BillingTables Nat :=
  { enrolled 50 with
    config := { twoTools.config with graceDays }
    users := Table.empty.insert 2 ⟨some (daysToMicros 30)⟩ }

theorem endOfJanuary_catchesUp : ∃ dates lapsed,
    Renewal.CatchesUp plainRules .monthly (daysToMicros 100) 2 20 3 1200
      (Renewal.settleRenewal .monthly (daysToMicros 100) 2 ⟨0, 0⟩) (endOfJanuary 3) ⟨0, 0⟩
        (daysToMicros 30) dates lapsed := by
  refine (settleRenewal_catchesUp_iff plainRules .monthly (daysToMicros 100) 2 ⟨0, 0⟩ (endOfJanuary 3)
    (daysToMicros 30) rfl
    (by decide +kernel)).mpr ?_
  refine Renewal.inRange_succ.mpr ⟨by decide +kernel, by decide +kernel, fun _ _ => ?_⟩
  refine Renewal.inRange_succ.mpr ⟨by decide +kernel, by decide +kernel, fun _ _ => ?_⟩
  refine Renewal.inRange_succ.mpr ⟨by decide +kernel, by decide +kernel, fun _ covers => ?_⟩
  exact absurd covers (by decide +kernel)

/-- With a hundred million days of grace no end of it is a date. -/
theorem endOfJanuary_panics : ¬ ∃ dates lapsed,
    Renewal.CatchesUp plainRules .monthly (daysToMicros 100) 2 20 100000000 1200
      (Renewal.settleRenewal .monthly (daysToMicros 100) 2 ⟨0, 0⟩) (endOfJanuary 100000000) ⟨0, 0⟩ (daysToMicros 30)
      dates lapsed := by
  rintro ⟨dates, lapsed, up⟩
  have panics : ((Renewal.settleRenewal .monthly (daysToMicros 100) 2 ⟨0, 0⟩).solo (BillingTables.perform plainRules)
      (endOfJanuary 100000000)).2 = (⟨0, 0⟩, .panicked) := by decide +kernel
  have answer := panics.symm.trans up.answer
  simp at answer

end CoopSpaces

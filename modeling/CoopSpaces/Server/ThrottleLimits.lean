import CoopSpaces.Lib.Windows
import CoopSpaces.Server.AddressClaims
import CoopSpaces.Server.Throttle

namespace CoopSpaces

namespace ThrottleCall

def records (identifier : String) : ThrottleCall → Bool
  | .recordFailedAttempt other _ _ => other = identifier
  | .recordSuccessfulAttempt other => other = identifier
  | _ => false

/-- A call made for the identifier, or the time that goes by for all. -/
def concerns (identifier : String) : ThrottleCall → Bool
  | .checkAttempt other _ _ => other = identifier
  | .recordFailedAttempt other _ _ => other = identifier
  | .recordSuccessfulAttempt other => other = identifier
  | .elapse _ => true

end ThrottleCall

namespace RegistrationThrottleService

/-- The service that only these calls have been made to. -/
def after (start : RegistrationThrottleService) (calls : List ThrottleCall) : RegistrationThrottleService :=
  calls.foldl (fun s call => (s.perform call).1) start

theorem after_append (start : RegistrationThrottleService) (front back : List ThrottleCall) :
    start.after (front ++ back) = (start.after front).after back := List.foldl_append ..

/-- A purge by this lockout would drop the identifier's counter. -/
def Drops (s : RegistrationThrottleService) (identifier : String) (lockoutSeconds : UInt32) : Prop :=
  ∃ entry, s.attempts identifier = some entry ∧ entry.kept s.now lockoutSeconds = false

end RegistrationThrottleService

abbrev ThrottlePool (Uuid : Type) :=
  Service.Pool RegistrationThrottleService ThrottleCall (Except UInt32 Unit) (Except UInt32 Unit)
    (ThrottleRequest Uuid)

abbrev ThrottleEvent (Uuid : Type) := Service.Event (ThrottleRequest Uuid)

namespace ThrottleRoutine

def awaits (identifier : String) (routine : ThrottleRoutine) : Bool :=
  routine.pending.any fun call => call.records identifier

def fails (routine : ThrottleRoutine) : Bool :=
  match routine with
  | .write (.recordFailedAttempt _ _ _) _ => true
  | _ => false

end ThrottleRoutine

section Law
variable {Uuid : Type} [IdText Uuid] (toLowercase : String → String) (identifier : String)

/-- How many attempts for the identifier have been let through and are not recorded yet. -/
def inFlight (pool : ThrottlePool Uuid) : Nat :=
  pool.tasks.countP fun task => ThrottleRoutine.awaits identifier task.2

/-- An attempt let through that will fail is counted as it is let through. A success clears the count. -/
def attemptMarks (pool : ThrottlePool Uuid) : ThrottleEvent Uuid → List TallyMark
  | .arrive _ => []
  | .step index =>
    match pool.tasks[index]? with
    | some (_, .write (.checkAttempt other maxAttempts lockoutSeconds) next) =>
      if other = identifier ∧ (pool.state.checkAttempt other maxAttempts lockoutSeconds).2 = .ok () ∧
          ThrottleRoutine.fails (next (.ok ())) = true then [.counted pool.state.now] else []
    | some (_, .write (.recordSuccessfulAttempt other) _) => if other = identifier then [.cleared] else []
    | _ => []

/-- The identifier's calls come with one maximum and one lockout, and of attempts that were checked.
None is checked while another is in flight, and no purge by others drops its counter then, or
before its own lockout would. -/
def FairlyThrottled (maxAttempts lockoutSeconds : UInt32) (pool : ThrottlePool Uuid) : ThrottleEvent Uuid → Prop
  | .arrive request => ∀ attempt, request.attempt toLowercase = some attempt → attempt.identifier = identifier →
    attempt.checked = true ∧ attempt.maxAttempts = maxAttempts ∧ attempt.lockoutSeconds = lockoutSeconds
  | .step index => ∀ request other otherMax otherLockout next,
    pool.tasks[index]? = some (request, .write (.checkAttempt other otherMax otherLockout) next) →
      (other = identifier → inFlight identifier pool = 0) ∧
      (other ≠ identifier → pool.state.Drops identifier otherLockout →
        inFlight identifier pool = 0 ∧ pool.state.Drops identifier lockoutSeconds)

end Law

/-! One counter. -/

theorem fromSecs_double (seconds : Nat) : fromSecs (seconds * 2) = 2 * fromSecs seconds := by
  unfold fromSecs
  rw [Nat.mul_right_comm, Nat.mul_comm]

theorem ThrottleEntry.kept_mono {entry : ThrottleEntry} {now later : Nat} {lockoutSeconds : UInt32}
    (past : now ≤ later)
    (dropped : entry.kept now lockoutSeconds = false) : entry.kept later lockoutSeconds = false := by
  unfold ThrottleEntry.kept at dropped ⊢
  split at dropped
  · rw [decide_eq_false_iff_not] at dropped ⊢
    omega
  · rw [decide_eq_false_iff_not] at dropped ⊢
    omega

/-- The counter accounts for the failures since the last success: it has counted all those less than a
lockout old but the one in flight, and a lock outlasts them all. -/
structure Settled (maxAttempts lockoutSeconds : UInt32) (now : Nat) (entry : Option ThrottleEntry)
    (instants : List Nat)
    (flying : Nat) : Prop where
  past : ∀ instant ∈ instants, instant ≤ now
  absent : entry = none → recent (fromSecs lockoutSeconds.toNat) now instants ≤ flying
  counting : ∀ e, entry = some e → e.lockedUntil = none → e.attempts < maxAttempts ∧
    recent (fromSecs lockoutSeconds.toNat) now instants ≤ e.attempts.toNat + flying ∧
    (flying = 0 → ∀ instant ∈ instants, instant ≤ e.lastAttempt)
  locked : ∀ e lockedUntil, entry = some e → e.lockedUntil = some lockedUntil → flying = 0 ∧
    ∀ instant ∈ instants, instant + fromSecs lockoutSeconds.toNat ≤ lockedUntil

namespace Settled
variable {maxAttempts lockoutSeconds : UInt32} {now later : Nat} {entry : Option ThrottleEntry}
    {instants : List Nat} {flying : Nat}

theorem start (now : Nat) : Settled maxAttempts lockoutSeconds now none [] 0 where
  past := by simp
  absent := fun _ => Nat.le_refl 0
  counting := by simp
  locked := by simp

theorem elapse (settled : Settled maxAttempts lockoutSeconds now entry instants flying) (gone : now ≤ later) :
    Settled maxAttempts lockoutSeconds later entry instants flying where
  past instant member := (settled.past instant member).trans gone
  absent none_ := (recent_mono gone).trans (settled.absent none_)
  counting e some_ unlocked := by
    obtain ⟨below, counted, last⟩ := settled.counting e some_ unlocked
    exact ⟨below, (recent_mono gone).trans counted, last⟩
  locked := settled.locked

theorem purge {e : ThrottleEntry} (settled : Settled maxAttempts lockoutSeconds now (some e) instants 0)
    (dropped : e.kept now lockoutSeconds = false) : Settled maxAttempts lockoutSeconds now none instants 0 := by
  have old : ∀ instant ∈ instants, instant + fromSecs lockoutSeconds.toNat ≤ now := by
    intro instant member
    have before := settled.past instant member
    unfold ThrottleEntry.kept at dropped
    split at dropped
    · next unlocked =>
      have last := (settled.counting e rfl unlocked).2.2 rfl instant member
      rw [decide_eq_false_iff_not, fromSecs_double] at dropped
      omega
    · next lockedUntil locked =>
      have expires := (settled.locked e lockedUntil rfl locked).2 instant member
      rw [decide_eq_false_iff_not] at dropped
      omega
  refine ⟨settled.past, fun _ => ?_, by simp, by simp⟩
  rw [recent_eq_zero old]

theorem filter (settled : Settled maxAttempts lockoutSeconds now entry instants 0) :
    Settled maxAttempts lockoutSeconds now (entry.filter fun e => e.kept now lockoutSeconds) instants 0 := by
  cases entry with
  | none => exact settled
  | some e =>
    rw [Option.filter_some]
    rcases held : e.kept now lockoutSeconds with _ | _
    · exact settled.purge held
    · exact settled

theorem purgeBy (settled : Settled maxAttempts lockoutSeconds now entry instants flying) (otherLockout : UInt32)
    (fair : ∀ e, entry = some e → e.kept now otherLockout = false → flying = 0 ∧ e.kept now lockoutSeconds = false) :
    Settled maxAttempts lockoutSeconds now (entry.filter fun e => e.kept now otherLockout) instants flying := by
  cases entry with
  | none => exact settled
  | some e =>
    rw [Option.filter_some]
    rcases kept : e.kept now otherLockout with _ | _
    · obtain ⟨rfl, dropped⟩ := fair e rfl kept
      exact settled.purge dropped
    · exact settled

section
variable (settled : Settled maxAttempts lockoutSeconds now entry instants 0)
include settled

theorem room (unlocked : ∀ e, entry = some e → e.lockedUntil = none) :
    recent (fromSecs lockoutSeconds.toNat) now instants < max 1 maxAttempts.toNat := by
  cases entry with
  | none =>
    have none_ := settled.absent rfl
    omega
  | some e =>
    obtain ⟨below, counted, -⟩ := settled.counting e rfl (unlocked e rfl)
    rw [UInt32.lt_iff_toNat_lt] at below
    omega

theorem letThrough (unlocked : ∀ e, entry = some e → e.lockedUntil = none) :
    Settled maxAttempts lockoutSeconds now entry (instants ++ [now]) 1 where
  past instant member := by
    rcases List.mem_append.mp member with old | new
    · exact settled.past instant old
    · exact (List.mem_singleton.mp new).le
  absent none_ := by
    have before := settled.absent none_
    have added := @recent_snoc_le (fromSecs lockoutSeconds.toNat) now instants now
    omega
  counting e some_ open_ := by
    obtain ⟨below, counted, -⟩ := settled.counting e some_ open_
    have added := @recent_snoc_le (fromSecs lockoutSeconds.toNat) now instants now
    exact ⟨below, by omega, fun closed => by omega⟩
  locked e lockedUntil some_ locked := by
    rw [unlocked e some_] at locked
    cases locked

theorem fly (unlocked : ∀ e, entry = some e → e.lockedUntil = none) :
    Settled maxAttempts lockoutSeconds now entry instants 1 where
  past := settled.past
  absent none_ := (settled.absent none_).trans (Nat.zero_le 1)
  counting e some_ open_ := by
    obtain ⟨below, counted, -⟩ := settled.counting e some_ open_
    exact ⟨below, by omega, fun closed => by omega⟩
  locked e lockedUntil some_ locked := by
    rw [unlocked e some_] at locked
    cases locked

end

/-- The failure in flight is recorded, and locks the counter when it was the last one. -/
theorem fail (settled : Settled maxAttempts lockoutSeconds now entry instants 1) {attempts : UInt32}
    (counts : attempts = (entry.getD ⟨0, now, none⟩).attempts + 1) :
    Settled maxAttempts lockoutSeconds now (some ⟨attempts, now,
      if maxAttempts ≤ attempts then some (now + fromSecs lockoutSeconds.toNat)
        else (entry.getD ⟨0, now, none⟩).lockedUntil⟩)
      instants 0 := by
  have unlocked : ∀ e, entry = some e → e.lockedUntil = none := by
    intro e some_
    rcases locked : e.lockedUntil with _ | lockedUntil
    · rfl
    · have grounded := (settled.locked e lockedUntil some_ locked).1
      cases grounded
  have before : (entry.getD ⟨0, now, none⟩).lockedUntil = none := by
    cases entry with
    | none => rfl
    | some e => exact unlocked e rfl
  rw [before]
  constructor
  · exact settled.past
  · intro none_
    cases none_
  · intro e some_ open_
    obtain rfl := Option.some.inj some_
    split at open_
    · cases open_
    · next below =>
      rw [UInt32.not_le] at below
      have counted : recent (fromSecs lockoutSeconds.toNat) now instants ≤ attempts.toNat := by
        cases entry with
        | none =>
          have one : attempts.toNat = 1 := by rw [counts]; rfl
          exact one ▸ settled.absent rfl
        | some e =>
          obtain ⟨room, counted, -⟩ := settled.counting e rfl (unlocked e rfl)
          have added : attempts.toNat = (e.attempts.toNat + 1) % 2 ^ 32 := by
            rw [counts, Option.getD_some, UInt32.toNat_add]
            rfl
          have small : e.attempts.toNat < maxAttempts.toNat := UInt32.lt_iff_toNat_lt.mp room
          have limit : maxAttempts.toNat < 2 ^ 32 := maxAttempts.toNat_lt
          omega
      exact ⟨below, counted, fun _ => settled.past⟩
  · intro e lockedUntil some_ locked
    obtain rfl := Option.some.inj some_
    split at locked
    · obtain rfl := Option.some.inj locked
      exact ⟨rfl, fun instant member => Nat.add_le_add_right (settled.past instant member) _⟩
    · cases locked

end Settled

namespace RegistrationThrottleService
variable {s t : RegistrationThrottleService} {identifier other : String} {maxAttempts lockoutSeconds : UInt32}

/-- What is left of an identifier's counter by a purge. -/
def left (s : RegistrationThrottleService) (identifier : String) (lockoutSeconds : UInt32) : Option ThrottleEntry :=
  (s.attempts identifier).filter fun entry => entry.kept s.now lockoutSeconds

theorem checkAttempt_now (s : RegistrationThrottleService) (identifier : String)
    (maxAttempts lockoutSeconds : UInt32) :
    (s.checkAttempt identifier maxAttempts lockoutSeconds).1.now = s.now := by
  simp only [checkAttempt]
  split
  · rfl
  · split
    · rfl
    · split
      · rfl
      · rfl

theorem checkAttempt_other (apart : other ≠ identifier) (maxAttempts lockoutSeconds : UInt32) :
    (s.checkAttempt other maxAttempts lockoutSeconds).1.attempts identifier = s.left identifier lockoutSeconds := by
  simp only [checkAttempt]
  split
  · rfl
  · split
    · rfl
    · split
      · exact Table.insert_of_ne _ _ apart.symm
      · rfl

theorem checkAttempt_gone (gone : s.left identifier lockoutSeconds = none) (maxAttempts : UInt32) :
    s.checkAttempt identifier maxAttempts lockoutSeconds = (s.cleanupOldEntries lockoutSeconds, .ok ()) := by
  have found : (s.cleanupOldEntries lockoutSeconds).attempts identifier = none := gone
  simp only [checkAttempt, found]

theorem checkAttempt_locked {e : ThrottleEntry} {lockedUntil : Nat}
    (there : s.left identifier lockoutSeconds = some e)
    (locked : e.lockedUntil = some lockedUntil) (maxAttempts : UInt32) :
    s.checkAttempt identifier maxAttempts lockoutSeconds =
      (s.cleanupOldEntries lockoutSeconds, .error (s.remaining lockedUntil)) := by
  have found : (s.cleanupOldEntries lockoutSeconds).attempts identifier = some e := there
  have kept : e.kept s.now lockoutSeconds = true := (Option.filter_eq_some_iff.mp there).2
  have ahead : decide ((s.cleanupOldEntries lockoutSeconds).now < lockedUntil) = true := by
    rw [ThrottleEntry.kept, locked] at kept
    exact kept
  simp only [checkAttempt, found, locked, Option.filter_some, ahead, if_true]
  rfl

theorem checkAttempt_unlocked {e : ThrottleEntry} (there : s.left identifier lockoutSeconds = some e)
    (unlocked : e.lockedUntil = none)
    (maxAttempts : UInt32) :
    s.checkAttempt identifier maxAttempts lockoutSeconds =
      if maxAttempts ≤ e.attempts ∧ s.now < e.lastAttempt + fromSecs lockoutSeconds.toNat then
        ({ s.cleanupOldEntries lockoutSeconds with
            attempts := (s.cleanupOldEntries lockoutSeconds).attempts.insert identifier
              { e with lockedUntil := some (e.lastAttempt + fromSecs lockoutSeconds.toNat) } },
          .error (s.remaining (e.lastAttempt + fromSecs lockoutSeconds.toNat)))
      else (s.cleanupOldEntries lockoutSeconds, .ok ()) := by
  have found : (s.cleanupOldEntries lockoutSeconds).attempts identifier = some e := there
  simp only [checkAttempt, found, unlocked, Option.filter_none]
  rfl

/-- The answer, and the counter after it, come from what its own purge leaves of the counter. -/
theorem checkAttempt_congr (now : s.now = t.now)
    (same : s.left identifier lockoutSeconds = t.left identifier lockoutSeconds)
    (maxAttempts : UInt32) :
    (s.checkAttempt identifier maxAttempts lockoutSeconds).2 =
      (t.checkAttempt identifier maxAttempts lockoutSeconds).2 ∧
        (s.checkAttempt identifier maxAttempts lockoutSeconds).1.attempts identifier =
        (t.checkAttempt identifier maxAttempts lockoutSeconds).1.attempts identifier := by
  rcases there : t.left identifier lockoutSeconds with _ | e
  · rw [checkAttempt_gone (same.trans there), checkAttempt_gone there]
    exact ⟨rfl, same⟩
  · rcases locked : e.lockedUntil with _ | lockedUntil
    · rw [checkAttempt_unlocked (same.trans there) locked, checkAttempt_unlocked there locked, now]
      split
      · refine ⟨?_, ?_⟩
        · simp only [remaining, now]
        · simp only [Table.insert_self]
      · exact ⟨rfl, same⟩
    · rw [checkAttempt_locked (same.trans there) locked, checkAttempt_locked there locked]
      refine ⟨?_, same⟩
      simp only [remaining, now]

/-- A check by the identifier's own rule leaves the counter settled, and lets an attempt through only if
the counter is not locked then. -/
theorem checkAttempt_settled {instants : List Nat}
    (settled : Settled maxAttempts lockoutSeconds s.now (s.attempts identifier) instants 0) :
    Settled maxAttempts lockoutSeconds s.now
      ((s.checkAttempt identifier maxAttempts lockoutSeconds).1.attempts identifier) instants 0 ∧
      ((s.checkAttempt identifier maxAttempts lockoutSeconds).2 = .ok () →
        ∀ e, (s.checkAttempt identifier maxAttempts lockoutSeconds).1.attempts identifier = some e →
          e.lockedUntil = none) := by
  have purged : Settled maxAttempts lockoutSeconds s.now (s.left identifier lockoutSeconds) instants 0 :=
    settled.filter
  rcases there : s.left identifier lockoutSeconds with _ | e
  · rw [checkAttempt_gone there]
    refine ⟨purged, fun _ e found => ?_⟩
    cases there.symm.trans found
  · rcases locked : e.lockedUntil with _ | lockedUntil
    · have below := (purged.counting e there locked).1
      rw [checkAttempt_unlocked there locked, if_neg fun reached => UInt32.not_le.mpr below reached.1]
      refine ⟨purged, fun _ other found => ?_⟩
      obtain rfl := Option.some.inj (there.symm.trans found)
      exact locked
    · rw [checkAttempt_locked there locked]
      exact ⟨purged, fun allowed => by cases allowed⟩

theorem recordFailedAttempt_self (s : RegistrationThrottleService) (identifier : String)
    (maxAttempts lockoutSeconds : UInt32) :
    (s.recordFailedAttempt identifier maxAttempts lockoutSeconds).attempts identifier =
      some ⟨((s.attempts identifier).getD ⟨0, s.now, none⟩).attempts + 1, s.now,
        if maxAttempts ≤ ((s.attempts identifier).getD ⟨0, s.now, none⟩).attempts + 1 then
          some (s.now + fromSecs lockoutSeconds.toNat)
        else ((s.attempts identifier).getD ⟨0, s.now, none⟩).lockedUntil⟩ := Table.insert_self _ _ _

theorem recordFailedAttempt_other (apart : other ≠ identifier) (maxAttempts lockoutSeconds : UInt32) :
    (s.recordFailedAttempt other maxAttempts lockoutSeconds).attempts identifier = s.attempts identifier :=
  Table.insert_of_ne _ _ apart.symm

theorem recordSuccessfulAttempt_other (apart : other ≠ identifier) :
    (s.recordSuccessfulAttempt other).attempts identifier = s.attempts identifier := Table.erase_of_ne _ apart.symm

end RegistrationThrottleService

/-- The identifier's counter in the service and in one that hears its own calls only: the same, or spent in
the one and purged from the other, with nothing in flight. -/
def Agrees (lockoutSeconds : UInt32) (now : Nat) (entry own : Option ThrottleEntry) (flying : Nat) : Prop :=
  entry = own ∨ (flying = 0 ∧ entry = none ∧ ∃ e, own = some e ∧ e.kept now lockoutSeconds = false)

namespace Agrees
variable {lockoutSeconds : UInt32} {now later flying : Nat} {entry own : Option ThrottleEntry}

section
variable (agrees : Agrees lockoutSeconds now entry own flying)
include agrees

theorem elapse (gone : now ≤ later) : Agrees lockoutSeconds later entry own flying := by
  rcases agrees with same | ⟨grounded, purged, e, spent, dropped⟩
  · exact .inl same
  · exact .inr ⟨grounded, purged, e, spent, ThrottleEntry.kept_mono gone dropped⟩

theorem filter :
    (entry.filter fun e => e.kept now lockoutSeconds) = own.filter fun e => e.kept now lockoutSeconds := by
  rcases agrees with same | ⟨_, purged, e, spent, dropped⟩
  · rw [same]
  · rw [purged, spent, Option.filter_some, dropped]
    rfl

theorem purge (otherLockout : UInt32)
    (fair : ∀ e, entry = some e → e.kept now otherLockout = false → flying = 0 ∧ e.kept now lockoutSeconds = false) :
    Agrees lockoutSeconds now (entry.filter fun e => e.kept now otherLockout) own flying := by
  rcases agrees with same | ⟨grounded, purged, spent⟩
  · cases entry with
    | none => exact .inl same
    | some e =>
      rw [Option.filter_some]
      rcases kept : e.kept now otherLockout with _ | _
      · obtain ⟨grounded, dropped⟩ := fair e rfl kept
        exact .inr ⟨grounded, rfl, e, same.symm, dropped⟩
      · exact .inl same
  · rw [purged]
    exact .inr ⟨grounded, rfl, spent⟩

end

end Agrees

/-! The attempts being made. -/

/-- Where the routine of a request can stand, if the identifier's calls follow its rule. -/
inductive AttemptStage (identifier : String) (maxAttempts lockoutSeconds : UInt32) : ThrottleRoutine → Prop
  | done (answer : Except UInt32 Unit) : AttemptStage identifier maxAttempts lockoutSeconds (.done answer)
  | elapsing (nanos : Nat) : AttemptStage identifier maxAttempts lockoutSeconds (.write (.elapse nanos) fun _ =>
    .done (.ok ()))
  | checking (attempt : ThrottledAttempt)
      (ruled : attempt.identifier = identifier → attempt.maxAttempts = maxAttempts ∧
        attempt.lockoutSeconds = lockoutSeconds) :
      AttemptStage identifier maxAttempts lockoutSeconds
        (.write (.checkAttempt attempt.identifier attempt.maxAttempts attempt.lockoutSeconds) attempt.checkedBy)
  | failing (other : String) (otherMax otherLockout : UInt32)
      (ruled : other = identifier → otherMax = maxAttempts ∧ otherLockout = lockoutSeconds) :
      AttemptStage identifier maxAttempts lockoutSeconds
        (.write (.recordFailedAttempt other otherMax otherLockout) fun _ => .done (.ok ()))
  | succeeding (other : String) :
      AttemptStage identifier maxAttempts lockoutSeconds
        (.write (.recordSuccessfulAttempt other) fun _ => .done (.ok ()))

section Stages
variable {identifier : String} {maxAttempts lockoutSeconds : UInt32} {attempt : ThrottledAttempt}

theorem staged_record
    (ruled : attempt.identifier = identifier → attempt.maxAttempts = maxAttempts ∧
      attempt.lockoutSeconds = lockoutSeconds) :
    AttemptStage identifier maxAttempts lockoutSeconds attempt.record := by
  unfold ThrottledAttempt.record
  split
  · exact .done _
  · exact .succeeding _
  · exact .failing _ _ _ ruled

theorem awaits_record (apart : attempt.identifier ≠ identifier) :
    ThrottleRoutine.awaits identifier attempt.record = false := by
  unfold ThrottledAttempt.record
  split
  · rfl
  · exact decide_eq_false apart
  · exact decide_eq_false apart

theorem awaits_record_self (named : attempt.identifier = identifier) :
    ThrottleRoutine.awaits identifier attempt.record = attempt.outcome.isSome := by
  unfold ThrottledAttempt.record
  split
  · next nothing => rw [nothing]; rfl
  · next success => rw [success]; exact decide_eq_true named
  · next failure => rw [failure]; exact decide_eq_true named

theorem fails_record : ThrottleRoutine.fails attempt.record = true ↔ attempt.outcome = some false := by
  unfold ThrottledAttempt.record
  split
  · next nothing => simp [nothing, ThrottleRoutine.fails]
  · next success => simp [success, ThrottleRoutine.fails]
  · next failure => simp [failure, ThrottleRoutine.fails]

variable {Uuid : Type} [IdText Uuid] {toLowercase : String → String}

theorem staged_routine {request : ThrottleRequest Uuid}
    (ruled : ∀ attempt, request.attempt toLowercase = some attempt → attempt.identifier = identifier →
      attempt.checked = true ∧ attempt.maxAttempts = maxAttempts ∧ attempt.lockoutSeconds = lockoutSeconds) :
    AttemptStage identifier maxAttempts lockoutSeconds (request.routine toLowercase) ∧
      ThrottleRoutine.awaits identifier (request.routine toLowercase) = false := by
  unfold ThrottleRequest.routine
  split
  · exact ⟨.elapsing _, rfl⟩
  · next attempt _ given =>
    unfold ThrottledAttempt.routine
    split
    · exact ⟨.checking attempt fun same => (ruled attempt given same).2, rfl⟩
    · next unchecked =>
      have apart : attempt.identifier ≠ identifier := fun same => unchecked (ruled attempt given same).1
      exact ⟨staged_record fun same => absurd same apart, awaits_record apart⟩
  · exact ⟨.done _, rfl⟩

end Stages

section InFlight
variable {Uuid : Type} {pool after : ThrottlePool Uuid} {index : Nat} {request : ThrottleRequest Uuid}
  {routine next : ThrottleRoutine}

theorem inFlight_set (identifier : String) (found : pool.tasks[index]? = some (request, routine))
    (tasks : after.tasks = pool.tasks.set index (request, next)) :
    inFlight identifier after + (ThrottleRoutine.awaits identifier routine).toNat =
      inFlight identifier pool + (ThrottleRoutine.awaits identifier next).toNat := by
  obtain ⟨bound, here⟩ := List.getElem?_eq_some_iff.mp found
  have member : (request, routine) ∈ pool.tasks := List.mem_of_getElem? found
  have counted : (ThrottleRoutine.awaits identifier routine).toNat ≤ inFlight identifier pool := by
    rcases waits : ThrottleRoutine.awaits identifier routine with _ | _
    · exact Nat.zero_le _
    · exact List.countP_pos_iff.mpr ⟨_, member, waits⟩
  unfold inFlight at counted ⊢
  rw [tasks, List.countP_set bound, here]
  dsimp only at counted ⊢
  generalize ThrottleRoutine.awaits identifier routine = was at counted ⊢
  generalize ThrottleRoutine.awaits identifier next = is
  cases was
  all_goals cases is
  all_goals simp only [Bool.toNat_true, Bool.toNat_false, Bool.false_eq_true, if_true, if_false] at counted ⊢
  all_goals omega

theorem staged_set {identifier : String} {maxAttempts lockoutSeconds : UInt32}
    (staged : ∀ task ∈ pool.tasks, AttemptStage identifier maxAttempts lockoutSeconds task.2)
    (here : AttemptStage identifier maxAttempts lockoutSeconds next)
    (tasks : after.tasks = pool.tasks.set index (request, next)) :
    ∀ task ∈ after.tasks, AttemptStage identifier maxAttempts lockoutSeconds task.2 := by
  intro task member
  rw [tasks] at member
  rcases List.mem_or_eq_of_mem_set member with old | rfl
  · exact staged task old
  · exact here

end InFlight

/-- What is true of the identifier all along an orderly run, with its marks so far and the service that
heard its own calls only. -/
structure Counted {Uuid : Type} (identifier : String) (maxAttempts lockoutSeconds : UInt32) (pool : ThrottlePool Uuid)
    (marks : List TallyMark) (own : RegistrationThrottleService) : Prop where
  staged : ∀ task ∈ pool.tasks, AttemptStage identifier maxAttempts lockoutSeconds task.2
  alone : inFlight identifier pool ≤ 1
  settled : Settled maxAttempts lockoutSeconds pool.state.now (pool.state.attempts identifier)
    (TallyMark.sinceCleared marks)
    (inFlight identifier pool)
  bounded : AtMost (max 1 maxAttempts.toNat) (fromSecs lockoutSeconds.toNat) marks
  clock : pool.state.now = own.now
  agrees : Agrees lockoutSeconds pool.state.now (pool.state.attempts identifier) (own.attempts identifier)
    (inFlight identifier pool)

namespace Counted
variable {Uuid : Type} {pool after : ThrottlePool Uuid} {identifier other : String}
    {maxAttempts lockoutSeconds : UInt32}
  {marks : List TallyMark} {own : RegistrationThrottleService} {index : Nat} {request : ThrottleRequest Uuid}
  {routine next : ThrottleRoutine}

section
variable (counted : Counted identifier maxAttempts lockoutSeconds pool marks own)
include counted

theorem left_eq : pool.state.left identifier lockoutSeconds = own.left identifier lockoutSeconds := by
  have same := counted.agrees.filter
  unfold RegistrationThrottleService.left
  rw [← counted.clock]
  exact same

/-- A step that touches neither the counter nor the clock, nor what is in flight. -/
theorem aside (found : pool.tasks[index]? = some (request, routine))
    (tasks : after.tasks = pool.tasks.set index (request, next))
    (staged : AttemptStage identifier maxAttempts lockoutSeconds next)
    (awaits : ThrottleRoutine.awaits identifier routine = ThrottleRoutine.awaits identifier next)
    (now : after.state.now = pool.state.now)
    (entry : after.state.attempts identifier = pool.state.attempts identifier) :
    Counted identifier maxAttempts lockoutSeconds after marks own := by
  have flying : inFlight identifier after = inFlight identifier pool := by
    have moved := inFlight_set identifier found tasks
    rw [awaits] at moved
    omega
  refine ⟨staged_set counted.staged staged tasks, ?_, ?_, counted.bounded, ?_, ?_⟩
  · rw [flying]
    exact counted.alone
  · rw [flying, now, entry]
    exact counted.settled
  · rw [now]
    exact counted.clock
  · rw [flying, now, entry]
    exact counted.agrees

theorem elapsed {nanos : Nat}
    (found : pool.tasks[index]? = some (request, .write (.elapse nanos) fun _ => .done (.ok ())))
    (tasks : after.tasks = pool.tasks.set index (request, .done (.ok ())))
    (state : after.state = { pool.state with now := pool.state.now + nanos }) :
    Counted identifier maxAttempts lockoutSeconds after marks { own with now := own.now + nanos } := by
  have flying : inFlight identifier after = inFlight identifier pool := inFlight_set identifier found tasks
  refine ⟨staged_set counted.staged (.done _) tasks, ?_, ?_, counted.bounded, ?_, ?_⟩
  · rw [flying]
    exact counted.alone
  · rw [flying, state]
    exact counted.settled.elapse (Nat.le_add_right ..)
  · rw [state]
    exact congrArg (· + nanos) counted.clock
  · rw [flying, state]
    exact counted.agrees.elapse (Nat.le_add_right ..)

theorem purged (state : after.state = (pool.state.checkAttempt identifier maxAttempts lockoutSeconds).1)
    (staged : ∀ task ∈ after.tasks, AttemptStage identifier maxAttempts lockoutSeconds task.2)
    (alone : inFlight identifier after ≤ 1) {more : List TallyMark}
    (settled : Settled maxAttempts lockoutSeconds pool.state.now (after.state.attempts identifier)
      (TallyMark.sinceCleared (marks ++ more)) (inFlight identifier after))
    (bounded : AtMost (max 1 maxAttempts.toNat) (fromSecs lockoutSeconds.toNat) (marks ++ more)) :
    Counted identifier maxAttempts lockoutSeconds after (marks ++ more)
      (own.checkAttempt identifier maxAttempts lockoutSeconds).1 := by
  have sameNow : after.state.now = pool.state.now := by rw [state, RegistrationThrottleService.checkAttempt_now]
  refine ⟨staged, alone, ?_, bounded, ?_, .inl ?_⟩
  · rw [sameNow]
    exact settled
  · rw [sameNow, RegistrationThrottleService.checkAttempt_now, counted.clock]
  · rw [state]
    exact (RegistrationThrottleService.checkAttempt_congr counted.clock counted.left_eq maxAttempts).2

/-- The identifier's own check: the attempt is refused, or goes on and is the one in flight. -/
theorem checked {attempt : ThrottledAttempt} (named : attempt.identifier = identifier)
    (ruled : attempt.maxAttempts = maxAttempts ∧ attempt.lockoutSeconds = lockoutSeconds)
    (found : pool.tasks[index]? = some (request,
      .write (.checkAttempt attempt.identifier attempt.maxAttempts attempt.lockoutSeconds) attempt.checkedBy))
    (grounded : inFlight identifier pool = 0)
    (tasks : after.tasks = pool.tasks.set index
      (request, attempt.checkedBy (pool.state.checkAttempt identifier maxAttempts lockoutSeconds).2))
    (state : after.state = (pool.state.checkAttempt identifier maxAttempts lockoutSeconds).1) :
    Counted identifier maxAttempts lockoutSeconds after
      (marks ++ if (pool.state.checkAttempt identifier maxAttempts lockoutSeconds).2 = .ok () ∧
        ThrottleRoutine.fails attempt.record = true then [.counted pool.state.now] else [])
      (own.checkAttempt identifier maxAttempts lockoutSeconds).1 := by
  have settled := counted.settled
  rw [grounded] at settled
  obtain ⟨left, unlocked⟩ := RegistrationThrottleService.checkAttempt_settled settled
  rw [← state] at left unlocked
  have stagedRecord : AttemptStage identifier maxAttempts lockoutSeconds attempt.record :=
    staged_record fun _ => ruled
  have moved := inFlight_set identifier found tasks
  have quiet : ThrottleRoutine.awaits identifier
      (.write (.checkAttempt attempt.identifier attempt.maxAttempts attempt.lockoutSeconds)
        attempt.checkedBy) = false := rfl
  rw [grounded, quiet, Bool.toNat_false, Nat.add_zero, Nat.zero_add] at moved
  rcases answer : (pool.state.checkAttempt identifier maxAttempts lockoutSeconds).2 with remaining | _
  · rw [answer] at tasks moved
    have flying : inFlight identifier after = 0 := moved
    rw [if_neg (by simp)]
    refine counted.purged state (staged_set counted.staged (.done _) tasks) (by omega) ?_ ?_
    · rw [flying, List.append_nil]
      exact left
    · rw [List.append_nil]
      exact counted.bounded
  · rw [answer] at tasks moved
    have opened := unlocked answer
    have flying : inFlight identifier after = attempt.outcome.isSome.toNat := by
      rw [moved, ThrottledAttempt.checkedBy, awaits_record_self named]
    have alone : inFlight identifier after ≤ 1 := flying ▸ Bool.toNat_le _
    simp only [fails_record, true_and]
    split
    · next failing =>
      refine counted.purged state (staged_set counted.staged stagedRecord tasks)
        alone ?_ (counted.bounded.snoc_counted (left.room opened))
      rw [flying, failing, TallyMark.sinceCleared_counted]
      exact left.letThrough opened
    · next unfailing =>
      refine counted.purged state (staged_set counted.staged stagedRecord tasks) alone ?_ ?_
      · rw [flying, List.append_nil]
        rcases attempt.outcome with _ | _
        · exact left
        · exact left.fly opened
      · rw [List.append_nil]
        exact counted.bounded

/-- A check for another, whose purge is fair to the identifier. -/
theorem checkedOther {attempt : ThrottledAttempt} (apart : attempt.identifier ≠ identifier)
    (found : pool.tasks[index]? = some (request,
      .write (.checkAttempt attempt.identifier attempt.maxAttempts attempt.lockoutSeconds) attempt.checkedBy))
    (fair : pool.state.Drops identifier attempt.lockoutSeconds → inFlight identifier pool = 0 ∧
      pool.state.Drops identifier lockoutSeconds)
    (tasks : after.tasks = pool.tasks.set index
      (request,
        attempt.checkedBy (pool.state.checkAttempt attempt.identifier attempt.maxAttempts attempt.lockoutSeconds).2))
    (state : after.state = (pool.state.checkAttempt attempt.identifier attempt.maxAttempts
      attempt.lockoutSeconds).1) :
    Counted identifier maxAttempts lockoutSeconds after marks own := by
  have sameNow : after.state.now = pool.state.now := by rw [state, RegistrationThrottleService.checkAttempt_now]
  have entry : after.state.attempts identifier =
      (pool.state.attempts identifier).filter fun e => e.kept pool.state.now attempt.lockoutSeconds := by
    rw [state]
    exact RegistrationThrottleService.checkAttempt_other apart _ _
  have next : ∀ answer, AttemptStage identifier maxAttempts lockoutSeconds (attempt.checkedBy answer) ∧
      ThrottleRoutine.awaits identifier (attempt.checkedBy answer) = false := by
    intro answer
    cases answer with
    | error remaining => exact ⟨.done _, rfl⟩
    | ok _ => exact ⟨staged_record fun same => absurd same apart, awaits_record apart⟩
  obtain ⟨staged, unawaited⟩ :=
    next (pool.state.checkAttempt attempt.identifier attempt.maxAttempts attempt.lockoutSeconds).2
  have flying : inFlight identifier after = inFlight identifier pool := by
    have moved := inFlight_set identifier found tasks
    rw [unawaited] at moved
    exact moved
  have spent : ∀ e, pool.state.attempts identifier = some e → e.kept pool.state.now attempt.lockoutSeconds = false →
      inFlight identifier pool = 0 ∧ e.kept pool.state.now lockoutSeconds = false := by
    intro e there dropped
    obtain ⟨grounded, e', there', dropped'⟩ := fair ⟨e, there, dropped⟩
    obtain rfl := Option.some.inj (there.symm.trans there')
    exact ⟨grounded, dropped'⟩
  refine ⟨staged_set counted.staged staged tasks, ?_, ?_, counted.bounded, ?_, ?_⟩
  · rw [flying]
    exact counted.alone
  · rw [flying, sameNow, entry]
    exact counted.settled.purgeBy attempt.lockoutSeconds spent
  · rw [sameNow]
    exact counted.clock
  · rw [flying, sameNow, entry]
    exact counted.agrees.purge attempt.lockoutSeconds spent

/-- The failure in flight is recorded. -/
theorem failed
    (found : pool.tasks[index]? =
      some (request, .write (.recordFailedAttempt identifier maxAttempts lockoutSeconds) fun _ => .done (.ok ())))
    (tasks : after.tasks = pool.tasks.set index (request, .done (.ok ())))
    (state : after.state = pool.state.recordFailedAttempt identifier maxAttempts lockoutSeconds) :
    Counted identifier maxAttempts lockoutSeconds after marks
      (own.recordFailedAttempt identifier maxAttempts lockoutSeconds) := by
  have moved := inFlight_set identifier found tasks
  have waited : ThrottleRoutine.awaits identifier
      (.write (.recordFailedAttempt identifier maxAttempts lockoutSeconds) fun _ => .done (.ok ())) = true :=
        decide_eq_true rfl
  have over_ : ThrottleRoutine.awaits identifier (.done (.ok ())) = false := rfl
  rw [waited, over_, Bool.toNat_true, Bool.toNat_false] at moved
  have alone := counted.alone
  have flew : inFlight identifier pool = 1 := by omega
  have flying : inFlight identifier after = 0 := by omega
  have settled := counted.settled
  rw [flew] at settled
  have sameEntry : pool.state.attempts identifier = own.attempts identifier := by
    rcases counted.agrees with same | ⟨grounded, _⟩
    · exact same
    · omega
  refine ⟨staged_set counted.staged (.done _) tasks, by omega, ?_, counted.bounded, ?_, ?_⟩
  · rw [flying, state, RegistrationThrottleService.recordFailedAttempt_self]
    exact settled.fail rfl
  · rw [state]
    exact counted.clock
  · rw [flying, state, RegistrationThrottleService.recordFailedAttempt_self,
      RegistrationThrottleService.recordFailedAttempt_self, sameEntry, counted.clock]
    exact .inl rfl

/-- The success in flight is recorded, and clears the counter. -/
theorem succeeded
    (found : pool.tasks[index]? =
      some (request, .write (.recordSuccessfulAttempt identifier) fun _ => .done (.ok ())))
    (tasks : after.tasks = pool.tasks.set index (request, .done (.ok ())))
    (state : after.state = pool.state.recordSuccessfulAttempt identifier) :
    Counted identifier maxAttempts lockoutSeconds after (marks ++ [.cleared])
      (own.recordSuccessfulAttempt identifier) := by
  have moved := inFlight_set identifier found tasks
  have waited : ThrottleRoutine.awaits identifier
      (.write (.recordSuccessfulAttempt identifier) fun _ => .done (.ok ())) = true :=
    decide_eq_true rfl
  have over_ : ThrottleRoutine.awaits identifier (.done (.ok ())) = false := rfl
  rw [waited, over_, Bool.toNat_true, Bool.toNat_false] at moved
  have alone := counted.alone
  have flying : inFlight identifier after = 0 := by omega
  have erased : ∀ s : RegistrationThrottleService,
      (s.recordSuccessfulAttempt identifier).attempts identifier = none :=
    fun s => Table.erase_self _ _
  refine ⟨staged_set counted.staged (.done _) tasks, by omega, ?_, counted.bounded.snoc_cleared, ?_, ?_⟩
  · rw [flying, state, erased, TallyMark.sinceCleared_cleared]
    exact .start _
  · rw [state]
    exact counted.clock
  · rw [flying, state, erased, erased]
    exact .inl rfl

end

end Counted

section Runs
variable {Uuid : Type} [IdText Uuid] {toLowercase : String → String} {identifier : String}
    {maxAttempts lockoutSeconds : UInt32}
  {pool : ThrottlePool Uuid} {marks : List TallyMark} {own : RegistrationThrottleService}

/-- The identifier's own calls of a step. -/
def ownCalls (toLowercase : String → String) (identifier : String) (pool : ThrottlePool Uuid)
    (event : ThrottleEvent Uuid) :
    List ThrottleCall :=
  (((throttleService toLowercase).landing pool event).map (·.2.2)).filter fun call => call.concerns identifier

variable {request : ThrottleRequest Uuid}

theorem ownCalls_write {index : Nat} {call : ThrottleCall} {rest : Except UInt32 Unit → ThrottleRoutine}
    (found : pool.tasks[index]? = some (request, .write call rest)) :
    ownCalls toLowercase identifier pool (.step index) = [call].filter fun call => call.concerns identifier := by
  rw [ownCalls, (throttleService toLowercase).landing_step found]
  rfl

section
variable (counted : Counted identifier maxAttempts lockoutSeconds pool marks own)
include counted

theorem Counted.arrive
    (orderly : FairlyThrottled toLowercase identifier maxAttempts lockoutSeconds pool (.arrive request)) :
    Counted identifier maxAttempts lockoutSeconds
      ((throttleService toLowercase).step pool (.arrive request)).1 marks own := by
  obtain ⟨staged, unawaited⟩ := staged_routine orderly
  have tasks := (throttleService toLowercase).tasks_arrive pool request
  have state : ((throttleService toLowercase).step pool (.arrive request)).1.state = pool.state := rfl
  have flying : inFlight identifier ((throttleService toLowercase).step pool (.arrive request)).1 =
      inFlight identifier pool := by
    have alone : ThrottleRoutine.awaits identifier ((throttleService toLowercase).serve request) = false := unawaited
    rw [inFlight, tasks, List.countP_append, List.countP_singleton, alone]
    rfl
  refine ⟨(throttleService toLowercase).all_tasks_arrive counted.staged staged, ?_, ?_, counted.bounded, ?_, ?_⟩
  · rw [flying]
    exact counted.alone
  · rw [flying, state]
    exact counted.settled
  · rw [state]
    exact counted.clock
  · rw [flying, state]
    exact counted.agrees

theorem Counted.step_checking {index : Nat} {attempt : ThrottledAttempt}
    (ruled : attempt.identifier = identifier → attempt.maxAttempts = maxAttempts ∧
      attempt.lockoutSeconds = lockoutSeconds)
    (found : pool.tasks[index]? = some (request,
      .write (.checkAttempt attempt.identifier attempt.maxAttempts attempt.lockoutSeconds) attempt.checkedBy))
    (orderly : FairlyThrottled toLowercase identifier maxAttempts lockoutSeconds pool (.step index)) :
    Counted identifier maxAttempts lockoutSeconds ((throttleService toLowercase).step pool (.step index)).1
      (marks ++ attemptMarks identifier pool (.step index))
        (own.after (ownCalls toLowercase identifier pool (.step index))) := by
  obtain ⟨state, tasks⟩ := (throttleService toLowercase).tasks_step found
  obtain ⟨mine, others⟩ := orderly _ _ _ _ _ found
  by_cases named : attempt.identifier = identifier
  · obtain ⟨sameMax, sameLockout⟩ := ruled named
    have heard : ownCalls toLowercase identifier pool (.step index) =
        [.checkAttempt attempt.identifier attempt.maxAttempts attempt.lockoutSeconds] := by
      rw [ownCalls_write found]
      exact List.filter_cons_of_pos (decide_eq_true named)
    have marked : attemptMarks identifier pool (.step index) =
        if (pool.state.checkAttempt identifier maxAttempts lockoutSeconds).2 = .ok () ∧
          ThrottleRoutine.fails attempt.record = true then [.counted pool.state.now] else [] := by
      simp only [attemptMarks, found, named, sameMax, sameLockout, true_and]
      rfl
    rw [heard, marked, named, sameMax, sameLockout]
    refine counted.checked named ⟨sameMax, sameLockout⟩ found (mine named) ?_ ?_
    · rw [← named, ← sameMax, ← sameLockout]
      exact tasks
    · rw [← named, ← sameMax, ← sameLockout]
      exact state
  · have unheard : ownCalls toLowercase identifier pool (.step index) = [] := by
      rw [ownCalls_write found]
      exact List.filter_cons_of_neg (by simpa [ThrottleCall.concerns] using named)
    have unmarked : attemptMarks identifier pool (.step index) = [] := by
      simp only [attemptMarks, found, named, false_and, if_false]
    rw [unheard, unmarked, List.append_nil]
    exact counted.checkedOther named found (others named) tasks state

theorem Counted.step_failing {index : Nat} {other : String} {otherMax otherLockout : UInt32}
    (ruled : other = identifier → otherMax = maxAttempts ∧ otherLockout = lockoutSeconds)
    (found : pool.tasks[index]? =
      some (request, .write (.recordFailedAttempt other otherMax otherLockout) fun _ => .done (.ok ()))) :
    Counted identifier maxAttempts lockoutSeconds ((throttleService toLowercase).step pool (.step index)).1
      (marks ++ attemptMarks identifier pool (.step index))
        (own.after (ownCalls toLowercase identifier pool (.step index))) := by
  obtain ⟨state, tasks⟩ := (throttleService toLowercase).tasks_step found
  have unmarked : attemptMarks identifier pool (.step index) = [] := by
    simp only [attemptMarks, found]
  rw [unmarked, List.append_nil]
  by_cases named : other = identifier
  · obtain ⟨rfl, rfl⟩ := ruled named
    subst named
    have heard : ownCalls toLowercase other pool (.step index) =
        [.recordFailedAttempt other otherMax otherLockout] := by
      rw [ownCalls_write found]
      exact List.filter_cons_of_pos (decide_eq_true rfl)
    rw [heard]
    exact counted.failed found tasks state
  · have unheard : ownCalls toLowercase identifier pool (.step index) = [] := by
      rw [ownCalls_write found]
      exact List.filter_cons_of_neg (by simpa [ThrottleCall.concerns] using named)
    rw [unheard]
    refine counted.aside found tasks (.done _) (decide_eq_false named) (by rw [state]; rfl) ?_
    rw [state]
    exact RegistrationThrottleService.recordFailedAttempt_other named _ _

theorem Counted.step_succeeding {index : Nat} {other : String}
    (found : pool.tasks[index]? = some (request, .write (.recordSuccessfulAttempt other) fun _ => .done (.ok ()))) :
    Counted identifier maxAttempts lockoutSeconds ((throttleService toLowercase).step pool (.step index)).1
      (marks ++ attemptMarks identifier pool (.step index))
        (own.after (ownCalls toLowercase identifier pool (.step index))) := by
  obtain ⟨state, tasks⟩ := (throttleService toLowercase).tasks_step found
  by_cases named : other = identifier
  · subst named
    have heard : ownCalls toLowercase other pool (.step index) = [.recordSuccessfulAttempt other] := by
      rw [ownCalls_write found]
      exact List.filter_cons_of_pos (decide_eq_true rfl)
    have marked : attemptMarks other pool (.step index) = [.cleared] := by
      simp only [attemptMarks, found, if_true]
    rw [heard, marked]
    exact counted.succeeded found tasks state
  · have unheard : ownCalls toLowercase identifier pool (.step index) = [] := by
      rw [ownCalls_write found]
      exact List.filter_cons_of_neg (by simpa [ThrottleCall.concerns] using named)
    have unmarked : attemptMarks identifier pool (.step index) = [] := by
      simp only [attemptMarks, found, named, if_false]
    rw [unheard, unmarked, List.append_nil]
    refine counted.aside found tasks (.done _) (decide_eq_false named) (by rw [state]; rfl) ?_
    rw [state]
    exact RegistrationThrottleService.recordSuccessfulAttempt_other named

theorem Counted.step {event : ThrottleEvent Uuid}
    (orderly : FairlyThrottled toLowercase identifier maxAttempts lockoutSeconds pool event) :
    Counted identifier maxAttempts lockoutSeconds ((throttleService toLowercase).step pool event).1
      (marks ++ attemptMarks identifier pool event) (own.after (ownCalls toLowercase identifier pool event)) := by
  cases event with
  | arrive request =>
    have quiet : attemptMarks identifier pool (.arrive request) = [] := rfl
    rw [quiet, List.append_nil]
    exact counted.arrive orderly
  | step index =>
    rcases found : pool.tasks[index]? with _ | ⟨request, routine⟩
    · have still := (throttleService toLowercase).step_of_none found
      have quiet : ownCalls toLowercase identifier pool (.step index) = [] := by
        simp only [ownCalls, Service.landing, still, Option.map_none, Option.toList_none, List.map_nil,
          List.filter_nil]
      simp only [attemptMarks, found, still, quiet, List.append_nil]
      exact counted
    · obtain ⟨state, tasks⟩ := (throttleService toLowercase).tasks_step found
      have staged := counted.staged _ (List.mem_of_getElem? found)
      cases staged with
      | done answer =>
        have quiet : ownCalls toLowercase identifier pool (.step index) = [] := by
          rw [ownCalls, (throttleService toLowercase).landing_step found]
          rfl
        simp only [attemptMarks, found, quiet, List.append_nil]
        exact counted.aside found tasks (.done answer) rfl (congrArg _ state) (congrFun (congrArg _ state) identifier)
      | elapsing nanos =>
        have heard : ownCalls toLowercase identifier pool (.step index) = [.elapse nanos] := by
          rw [ownCalls_write found]
          rfl
        simp only [attemptMarks, found, heard, List.append_nil]
        exact counted.elapsed found tasks state
      | checking attempt ruled => exact counted.step_checking ruled found orderly
      | failing other otherMax otherLockout ruled => exact counted.step_failing ruled found
      | succeeding other => exact counted.step_succeeding found

end

/-- In a run that is orderly for an identifier, whatever the others do: its checks are answered as its own
calls alone would have them, and no lockout period without a success lets through more attempts that
fail than the maximum (one, should the maximum be none). -/
theorem throttled_per_identifier (toLowercase : String → String) (now : Nat) (identifier : String)
    (maxAttempts lockoutSeconds : UInt32)
    (events : List (ThrottleEvent Uuid))
    (orderly : EveryStep (fun past event => FairlyThrottled toLowercase identifier maxAttempts lockoutSeconds
      (((throttleService toLowercase).machine (.new now)).run past) event) events)
    (past : List (ThrottleEvent Uuid)) (front : past <+: events) :
    ((((throttleService toLowercase).machine (.new now)).run past).state.checkAttempt identifier maxAttempts
      lockoutSeconds).2 =
        (((RegistrationThrottleService.new now).after (((throttleService toLowercase).machine (.new now)).history
          (ownCalls toLowercase identifier) past)).checkAttempt identifier maxAttempts lockoutSeconds).2 ∧
      AtMost (max 1 maxAttempts.toNat) (fromSecs lockoutSeconds.toNat)
        (((throttleService toLowercase).machine (.new now)).history (attemptMarks identifier) past) := by
  let machine := (@throttleService Uuid _ toLowercase).machine (.new now)
  have counted := machine.run_keeps_past (fun past pool => Counted identifier maxAttempts lockoutSeconds pool
    (machine.history (attemptMarks identifier) past)
    ((RegistrationThrottleService.new now).after (machine.history (ownCalls toLowercase identifier) past)))
      ?_ ?_ orderly front
  · exact ⟨(RegistrationThrottleService.checkAttempt_congr counted.clock counted.left_eq maxAttempts).1,
      counted.bounded⟩
  · refine ⟨fun task member => ?_, Nat.zero_le 1, .start now, .nil, rfl, .inl rfl⟩
    cases member
  · intro past event before here
    rw [Machine.history_snoc, Machine.history_snoc, RegistrationThrottleService.after_append]
    exact before.step here

end Runs

def mailingConfig : ThrottleConfig where
  registration := openRules
  throttleAttempts := 3
  throttleSeconds := 180
  loginThrottleEnabled := true
  loginThrottleAttempts := 2
  loginThrottleSeconds := 60
  passwordResetEnabled := true
  emailEnabled := true

def adasReset : ThrottleRequest HexId := .passwordResetRequest mailingConfig "ada@space"

def throttleMachine := (@throttleService HexId _ id).machine (.new 0)

/-- Two resets are asked for, a minute later somebody checks in at a door, and a third is asked for. -/
def resetsAroundCheckin : List (ThrottleEvent HexId) :=
  [.arrive adasReset, .step 0, .step 0, .arrive adasReset, .step 1, .step 1, .arrive (.elapse (fromSecs 61)), .step 2,
    .arrive (.doorCheckin ada ada), .step 3, .step 3, .arrive adasReset, .step 4, .step 4]

/-- Four resets at a time. -/
def resetsTogether : List (ThrottleEvent HexId) :=
  List.replicate 4 (Service.Event.arrive adasReset) ++
    [Service.Event.step 0, .step 1, .step 2, .step 3, .step 0, .step 1, .step 2, .step 3]

/-- A login that fails, one that does not, and two more that fail. -/
def loginsAroundSuccess : List (ThrottleEvent HexId) :=
  [.arrive (.login mailingConfig "ada" "guess" false), .step 0, .step 0,
    .arrive (.login mailingConfig "ada" "passwords" true), .step 1, .step 1,
      .arrive (.login mailingConfig "ada" "guess" false), .step 2, .step 2,
      .arrive (.login mailingConfig "ada" "guess" false), .step 3, .step 3]

/-- The attempts let through that fail, from the start for a lockout. -/
def failuresWithin (identifier : String) (lockoutSeconds : UInt32) (past : List (ThrottleEvent HexId)) : Nat :=
  ((throttleMachine.history (attemptMarks identifier) past).filterMap TallyMark.instant).countP
    fun instant => instant < fromSecs lockoutSeconds.toNat

/-- The check-in drops the counter of the resets, which their own calls would have locked. Resets asked for
together are all let through, and a success starts the count again. -/
theorem throttles_leak :
    (((throttleMachine.run resetsAroundCheckin).state.checkAttempt "password-reset:ada@space" 3 900).2 = .ok () ∧
      (((RegistrationThrottleService.new 0).after (throttleMachine.history (ownCalls id "password-reset:ada@space")
        resetsAroundCheckin)).checkAttempt "password-reset:ada@space" 3 900).2 = .error 900) ∧
      failuresWithin "password-reset:ada@space" 900 resetsTogether = 4 ∧
      failuresWithin "login:ada" 60 loginsAroundSuccess = 3 := by
  decide +kernel

def adasAttempt : ThrottledAttempt := ⟨"password-reset:ada@space", 3, 900, true, some false⟩

def oneReset : List (ThrottleEvent HexId) := [.arrive adasReset, .step 0, .step 0]

theorem throttled_per_identifier_reset :
    ((throttleMachine.run oneReset).state.checkAttempt "password-reset:ada@space" 3 900).2 =
        (((RegistrationThrottleService.new 0).after
          (throttleMachine.history (ownCalls id "password-reset:ada@space") oneReset)).checkAttempt
          "password-reset:ada@space" 3 900).2 ∧
      AtMost 3 (fromSecs 900) (throttleMachine.history (attemptMarks "password-reset:ada@space") oneReset) := by
  refine throttled_per_identifier id 0 "password-reset:ada@space" 3 900
    oneReset (EveryStep.of_getElem fun n bound => ?_) oneReset
    List.prefix_rfl
  have three : n < 3 := bound
  rcases (by omega : n = 0 ∨ n = 1 ∨ n = 2) with rfl | rfl | rfl
  · intro attempt given named
    obtain rfl := Option.some.inj given
    exact ⟨rfl, rfl, rfl⟩
  · intro request other otherMax otherLockout next found
    have shape : (throttleMachine.run (oneReset.take 1)).tasks[0]? = some (adasReset,
        .write (.checkAttempt adasAttempt.identifier adasAttempt.maxAttempts adasAttempt.lockoutSeconds)
          adasAttempt.checkedBy) := rfl
    have routine := (Prod.mk.inj (Option.some.inj (shape.symm.trans found))).2
    have named := (ThrottleCall.checkAttempt.inj (Routine.write.inj routine).1).1
    exact ⟨fun _ => by decide +kernel, fun apart => absurd named.symm apart⟩
  · intro request other otherMax otherLockout next found
    have shape : (throttleMachine.run (oneReset.take 2)).tasks[0]? = some (adasReset,
        .write (.recordFailedAttempt adasAttempt.identifier adasAttempt.maxAttempts adasAttempt.lockoutSeconds)
          fun _ => .done (.ok ())) := rfl
    have routine := (Prod.mk.inj (Option.some.inj (shape.symm.trans found))).2
    cases (Routine.write.inj routine).1

end CoopSpaces

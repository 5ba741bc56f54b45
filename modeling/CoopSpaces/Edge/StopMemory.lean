import CoopSpaces.Edge.Reconcile
import CoopSpaces.Edge.Tick
import CoopSpaces.Lib.Since

namespace CoopSpaces

/-- An answer of the server, as a reconcile takes it. Its names are resolved in
`base`: a wiring snapshot's in the wiring it brings. -/
structure Answer where
  base : ModuleState
  inUse : List String
  tracked : List String
  now : Int
  asOf : Int

inductive SessionNote
  | opened (key : String)
  | closed (key : String) (at_ : Int)
  | reconciled (now grace : Int)

namespace ModuleState

/-- The answer a call applies: a sync of the allow-list, or the rooms of a wiring snapshot. -/
def answer (s : ModuleState) : Call → Option Answer
  | .reconcileSessions inUse tracked now asOf => some ⟨s, inUse, tracked, now, asOf⟩
  | .applyState payload requestedAt now =>
    some ⟨{ s with snapshot := some payload }, rooms payload true, rooms payload false, now, requestedAt.getD now⟩
  | _ => none

def sessionNotes (s : ModuleState) : Call → List SessionNote
  | .openSession resource _ _ => [.opened (s.toolKey resource)]
  | .closeSession resource now => [.closed (s.toolKey resource) now]
  | .reconcileSessions _ _ now _ => [.reconciled now s.localSessionGrace]
  | .applyState _ _ now => [.reconciled now s.localSessionGrace]
  | _ => []

/-- A call applies an answer: it reconciles, from this state's own sessions. -/
structure Applies (s : ModuleState) (call : Call) (a : Answer) : Prop where
  notes : s.sessionNotes call = [.reconciled a.now s.localSessionGrace]
  stops : a.base.localStops = s.localStops
  sessions : a.base.localSessions = s.localSessions
  synced : a.base.syncedInUse = s.syncedInUse
  grace : a.base.localSessionGrace = s.localSessionGrace
  does : s.call call = a.base.reconcileTracked a.inUse a.tracked a.now a.asOf

theorem applies_of_answer {s : ModuleState} {call : Call} {a : Answer} (answer : s.answer call = some a) :
    s.Applies call a := by
  cases call with
  | reconcileSessions inUse tracked now asOf =>
    obtain rfl := Option.some.inj answer
    exact ⟨rfl, rfl, rfl, rfl, rfl, rfl⟩
  | applyState payload requestedAt now =>
    obtain rfl := Option.some.inj answer
    exact ⟨rfl, rfl, rfl, rfl, rfl, rfl⟩
  | _ => cases answer

/-- What a call can be to the sessions: a start, a stop, an answer, or nothing. -/
theorem call_sessions (s : ModuleState) (call : Call) :
    (∃ resource now endsAt, call = .openSession resource now endsAt) ∨
    (∃ resource now, call = .closeSession resource now) ∨
    (∃ a, s.Applies call a) ∨
    (s.sessionNotes call = [] ∧ (s.call call).localStops = s.localStops ∧
      (s.call call).localSessions = s.localSessions) := by
  cases call with
  | openSession resource now endsAt => exact .inl ⟨resource, now, endsAt, rfl⟩
  | closeSession resource now => exact .inr (.inl ⟨resource, now, rfl⟩)
  | reconcileSessions inUse tracked now asOf => exact .inr (.inr (.inl ⟨_, applies_of_answer rfl⟩))
  | applyState payload requestedAt now => exact .inr (.inr (.inl ⟨_, applies_of_answer rfl⟩))
  | renew tool now ttl timeout =>
    have same := s.renew_sameInputs tool now ttl timeout
    exact .inr (.inr (.inr ⟨rfl, same.localStops, same.localSessions⟩))
  | tick now ttl timeout =>
    have same := s.tick_renewed now ttl timeout
    exact .inr (.inr (.inr ⟨rfl, same.localStops, same.localSessions⟩))
  | observe toolId condition asserted now =>
    obtain ⟨_, same⟩ := s.observe_eq toolId condition asserted now
    have stays : s.call (.observe toolId condition asserted now) = _ := same
    exact .inr (.inr (.inr ⟨rfl, by rw [stays], by rw [stays]⟩))
  | _ => exact .inr (.inr (.inr ⟨rfl, rfl, rfl⟩))

end ModuleState

def sessionLog (past : List Call) : List SessionNote := engine.history ModuleState.sessionNotes past

/-- Nothing this edge did to the resource itself since. -/
def SessionNote.Leaves (key : String) : SessionNote → Prop
  | .opened other => other ≠ key
  | .closed other _ => other ≠ key
  | .reconciled _ _ => True

/-- And no reconcile came as late as the grace after the stop. -/
def SessionNote.Keeps (key : String) (at_ : Int) : SessionNote → Prop
  | .opened other => other ≠ key
  | .closed other _ => other ≠ key
  | .reconciled now grace => now - at_ < grace

/-- The last this edge did to a resource was to stop it, then. -/
def Stopped (log : List SessionNote) (key : String) (at_ : Int) : Prop :=
  Since (fun _ note => note = .closed key at_) (SessionNote.Leaves key) log

/-- The stop is the last thing, and every reconcile since was within its grace. -/
def Remembered (log : List SessionNote) (key : String) (at_ : Int) : Prop :=
  Since (fun _ note => note = .closed key at_) (SessionNote.Keeps key at_) log

theorem sessionLog_snoc (past : List Call) (call : Call) :
    sessionLog (past ++ [call]) = sessionLog past ++ (engine.run past).sessionNotes call :=
  engine.history_snoc ModuleState.sessionNotes past call

/-- The stops this edge holds are the stops its run remembers. -/
theorem localStops_iff (past : List Call) (key : String) (at_ : Int) :
    (engine.run past).localStops key = some at_ ↔ Remembered (sessionLog past) key at_ := by
  refine engine.run_invariant (fun past s => ∀ key at_, s.localStops key = some at_ ↔
    Remembered (sessionLog past) key at_) ?_ ?_ past key at_
  · intro key at_
    exact iff_of_false (by simp [engine, ModuleState.new]) Since.not_nil
  · intro past call inv key at_
    have held := inv key at_
    rw [sessionLog_snoc]
    obtain ⟨resource, now, endsAt, rfl⟩ | ⟨resource, now, rfl⟩ | ⟨a, applies⟩ | ⟨notes, stops, -⟩ :=
      (engine.run past).call_sessions call
    · have erased := Table.erase_eq_some (t := (engine.run past).localStops) (k := (engine.run past).toolKey resource)
        (j := key) (w := at_)
      rw [Remembered, ModuleState.sessionNotes, Since.snoc_iff]
      refine erased.trans ?_
      rw [held, Remembered]
      simp only [reduceCtorEq, false_or, SessionNote.Keeps, ne_comm, and_comm]
    · have inserted := Table.insert_eq_some (t := (engine.run past).localStops)
        (k := (engine.run past).toolKey resource) (v := now) (j := key) (w := at_)
      rw [Remembered, ModuleState.sessionNotes, Since.snoc_iff]
      refine inserted.trans ?_
      rw [held, Remembered]
      simp only [SessionNote.closed.injEq, SessionNote.Keeps, ne_comm, and_comm, eq_comm]
    · have after : ((engine.run past).call call).localStops key = a.base.recentStops a.now key := by
        rw [applies.does]
        rfl
      rw [Remembered, applies.notes, Since.snoc_iff]
      refine (iff_of_eq (congrArg (· = some at_) after)).trans ?_
      rw [ModuleState.recentStops, Table.retain_eq_some, applies.stops, held, Remembered, applies.grace]
      simp only [reduceCtorEq, false_or, SessionNote.Keeps, decide_eq_true_eq]
    · rw [notes, List.append_nil, ← held]
      exact iff_of_eq (congrArg (· = some at_) (congrFun stops key))

/-- While its stop is the last word, a resource has no session of this edge's own. -/
theorem localSessions_of_stopped {past : List Call} {key : String} {at_ : Int}
    (stopped : Stopped (sessionLog past) key at_) : (engine.run past).localSessions key = none := by
  refine engine.run_invariant (fun past s => ∀ key at_, Stopped (sessionLog past) key at_ →
    s.localSessions key = none) ?_ ?_ past key at_ stopped
  · exact fun key at_ stopped => absurd stopped Since.not_nil
  · intro past call inv key at_ stopped
    rw [sessionLog_snoc] at stopped
    obtain ⟨resource, now, endsAt, rfl⟩ | ⟨resource, now, rfl⟩ | ⟨a, applies⟩ | ⟨notes, -, sessions⟩ :=
      (engine.run past).call_sessions call
    · rcases Since.snoc_iff.mp stopped with closes | ⟨before, leaves⟩
      · cases closes
      · exact (Table.insert_of_ne _ _ (Ne.symm leaves)).trans (inv key at_ before)
    · rcases Since.snoc_iff.mp stopped with closes | ⟨before, leaves⟩
      · obtain ⟨same, -⟩ := SessionNote.closed.inj closes
        exact same ▸ Table.erase_self _ _
      · exact (Table.erase_of_ne _ (Ne.symm leaves)).trans (inv key at_ before)
    · rw [applies.notes] at stopped
      rcases Since.snoc_iff.mp stopped with closes | ⟨before, -⟩
      · cases closes
      · show ((engine.run past).call call).localSessions key = none
        by_contra some_
        obtain ⟨session, found⟩ := Option.ne_none_iff_exists'.mp some_
        rw [applies.does] at found
        have was := (ModuleState.reconcileTracked_localSessions.mp found).1
        rw [applies.sessions, inv key at_ before] at was
        cases was
    · rw [notes, List.append_nil] at stopped
      exact (congrFun sessions key).trans (inv key at_ stopped)

theorem Remembered.stopped {log : List SessionNote} {key : String} {at_ other : Int}
    (remembered : Remembered log key other)
    (stopped : Stopped log key at_) : other = at_ := by
  have both := Since.same (by rintro _ _ rfl keeps; exact keeps rfl) (by rintro _ _ rfl leaves; exact leaves rfl)
    remembered stopped
  obtain ⟨note, -, -, one, other_⟩ := both.exists_mem
  exact (SessionNote.closed.inj (one.symm.trans other_)).2

/-- An answer asked for before a stop does not bring the resource back into use
while the stop is this edge's last word on it. -/
def StaysStopped (past : List Call) (call : Call) : Prop :=
  ∀ a key at_, (engine.run past).answer call = some a → Stopped (sessionLog past) key at_ → a.asOf < at_ →
    ∀ t, (engine.run past).inUse key t = false → (engine.run (past ++ [call])).inUse key t = false

/-- Where such an answer says a resource is in use that is not, the stop is still
remembered: every reconcile since, this one included, came within its grace. -/
def StillRemembered (past : List Call) (call : Call) : Prop :=
  ∀ a key at_, (engine.run past).answer call = some a → Stopped (sessionLog past) key at_ → a.asOf < at_ →
    key ∉ (engine.run past).syncedInUse → a.base.Names a.inUse key →
      Remembered (sessionLog past) key at_ ∧ a.now - at_ < (engine.run past).localSessionGrace

namespace ModuleState
variable {s : ModuleState} {key : String}

theorem inUse_eq_false (unopened : s.localSessions key = none) {now : Int} :
    s.inUse key now = false ↔ key ∉ s.syncedInUse := by
  rw [← Bool.not_eq_true, inUse_iff, unopened]
  simp

end ModuleState

theorem stoppedSince_iff {past : List Call} {call : Call} {a : Answer} {key : String} {at_ : Int}
    (applies : (engine.run past).Applies call a) (stopped : Stopped (sessionLog past) key at_)
    (before : a.asOf < at_) :
    a.base.StoppedSince key a.now a.asOf ↔
      Remembered (sessionLog past) key at_ ∧ a.now - at_ < (engine.run past).localSessionGrace := by
  rw [ModuleState.StoppedSince, applies.stops, applies.grace]
  constructor
  · rintro ⟨other, held, recent, -⟩
    have remembered := (localStops_iff past key other).mp held
    obtain rfl := remembered.stopped stopped
    exact ⟨remembered, recent⟩
  · rintro ⟨remembered, recent⟩
    exact ⟨at_, (localStops_iff past key at_).mpr remembered, recent, before⟩

theorem inUse_after {past : List Call} {call : Call} {a : Answer} {key : String} {at_ : Int}
    (applies : (engine.run past).Applies call a) (stopped : Stopped (sessionLog past) key at_) (before : a.asOf < at_)
    (idle : key ∉ (engine.run past).syncedInUse) (t : Int) :
    (engine.run (past ++ [call])).inUse key t = true ↔ a.base.Names a.inUse key ∧
      ¬ (Remembered (sessionLog past) key at_ ∧ a.now - at_ < (engine.run past).localSessionGrace) := by
  have after : engine.run (past ++ [call]) = a.base.reconcileTracked a.inUse a.tracked a.now a.asOf :=
    (engine.run_snoc past call).trans applies.does
  have still : Stopped (sessionLog (past ++ [call])) key at_ := by
    rw [sessionLog_snoc, applies.notes]
    exact stopped.later trivial
  have unopened := localSessions_of_stopped still
  have fresh : key ∉ a.base.syncedInUse := applies.synced ▸ idle
  rw [← stoppedSince_iff applies stopped before, ← Bool.not_eq_false, ModuleState.inUse_eq_false unopened,
    Decidable.not_not, after, ModuleState.reconcileTracked_syncedInUse]
  simp only [fresh, false_and, or_false]

theorem staysStopped_iff (past : List Call) (call : Call) : StaysStopped past call ↔ StillRemembered past call := by
  constructor
  · intro stays a key at_ answer stopped before idle claimed
    have applies := ModuleState.applies_of_answer answer
    have unused : (engine.run past).inUse key 0 = false :=
      (ModuleState.inUse_eq_false (localSessions_of_stopped stopped)).mpr idle
    have quiet := stays a key at_ answer stopped before 0 unused
    by_contra forgotten
    have used := (inUse_after applies stopped before idle 0).mpr ⟨claimed, forgotten⟩
    rw [quiet] at used
    cases used
  · intro remembered a key at_ answer stopped before t unused
    have applies := ModuleState.applies_of_answer answer
    have idle := (ModuleState.inUse_eq_false (localSessions_of_stopped stopped)).mp unused
    by_contra used
    rw [Bool.not_eq_false] at used
    obtain ⟨claimed, forgotten⟩ := (inUse_after applies stopped before idle t).mp used
    exact forgotten (remembered a key at_ answer stopped before idle claimed)

/-- A stopped session stays stopped through a run exactly when no answer asked for
before the stop is applied, saying in use, after the stop was forgotten. -/
theorem stopped_stays_stopped_iff (calls : List Call) :
    EveryStep StaysStopped calls ↔ EveryStep StillRemembered calls := EveryStep.congr staysStopped_iff

def signedOn : List Call := [.openSession "lathe" 0 none, .closeSession "lathe" (seconds 10)]

/-- Asked for a second before the stop, answered thirty-one seconds after it. -/
def lateAnswer : Call := .reconcileSessions ["lathe"] ["lathe"] (seconds 41) (seconds 9)

/-- The member signed off at ten seconds; the late answer puts the lathe back in use. -/
theorem stopped_stays_stopped_late : ¬ EveryStep StaysStopped (signedOn ++ [lateAnswer]) := by
  intro every
  have stays := every signedOn lateAnswer [] rfl
  have stopped : Stopped (sessionLog signedOn) "lathe" (seconds 10) :=
    ⟨[.opened "lathe"], .closed "lathe" (seconds 10), [], rfl, rfl, by simp⟩
  have quiet := stays _ "lathe" (seconds 10) rfl stopped (by decide) (seconds 41) (by decide)
  have used : (engine.run (signedOn ++ [lateAnswer])).inUse "lathe" (seconds 41) = true := by decide
  rw [quiet] at used
  cases used

end CoopSpaces

import CoopSpaces.Cmi5.Statement
import CoopSpaces.Cmi5.Structure
import CoopSpaces.Server.Accounts

namespace CoopSpaces.Cmi5

/-- The server-side truth about a launched session. -/
structure SessionExpectation (Uuid Float : Type) where
  actorHomePage : String
  actorAccountName : String
  registration : Uuid
  activityId : String
  masteryScore : Option Float

inductive Violation (Float : Type) where
  | notAnAccountActor
  | actorMismatch
  | registrationMismatch
  | activityMismatch
  | missingCmi5Category
  | unknownVerb (verb : String)
  | missingResult
  | notPassedSuccess
  | notFailedSuccess
  | notCompleted
  | belowMasteryScore (scaled : Option Float) (required : Float)
  | notInitialized
  | alreadyInitialized
  | afterTerminated
  | bothPassedAndFailed
deriving DecidableEq

/-- What comes back of a statement that did not go through: none was taken, or one was refused. -/
inductive DieselError where
  | failed
  | refused (error : DbError)
deriving DecidableEq

/-- What can go wrong with a package or a statement. -/
inductive Cmi5Error (Float : Type) where
  | tooLarge (size max : Nat)
  | zip (message : String)
  | noManifest
  | manifest (error : ManifestError)
  | nonConformant (issues : String)
  | zipSlip (name : String)
  | io (message : String)
  | pool (message : String)
  | db (error : DieselError)
  | auNotFound
  | stepNotFound
  | badStatement (message : String)
  | rejected (violation : Violation Float)
deriving DecidableEq

/-- The verbs content may issue. -/
def isAuVerb (verb : String) : Bool :=
  verb ∈ [verbs.INITIALIZED, verbs.COMPLETED, verbs.PASSED, verbs.FAILED, verbs.TERMINATED]

section Validate
variable {Uuid Float : Type} [DecidableEq Uuid] [LT Float] [DecidableLT Float]

/-- What a verb asks of its result. -/
def checkResult (stmt : Statement Uuid Float) (masteryScore : Option Float) : Except (Violation Float) Unit :=
  if stmt.verbId = verbs.PASSED then
    match stmt.result with
    | none => .error .missingResult
    | some result =>
      if result.success ≠ some true then .error .notPassedSuccess
      else
        match masteryScore with
        | none => .ok ()
        | some required =>
          let scaled := result.score.bind Score.scaled
          if (scaled.map fun v => decide (v < required)).getD true
            then .error (.belowMasteryScore scaled required) else .ok ()
  else if stmt.verbId = verbs.FAILED then
    match stmt.result with
    | none => .error .missingResult
    | some result => if result.success ≠ some false then .error .notFailedSuccess else .ok ()
  else if stmt.verbId = verbs.COMPLETED then
    match stmt.result with
    | none => .error .missingResult
    | some result => if result.completion ≠ some true then .error .notCompleted else .ok ()
  else .ok ()

/-- Identity and binding are checked before the result. -/
def validateCmi5Statement (stmt : Statement Uuid Float) (expect : SessionExpectation Uuid Float) :
    Except (Violation Float) Unit :=
  match stmt.actor.account with
  | none => .error .notAnAccountActor
  | some account =>
    if account.homePage ≠ expect.actorHomePage ∨ account.name ≠ expect.actorAccountName then .error .actorMismatch
    else if stmt.registration ≠ some expect.registration then .error .registrationMismatch
    else if stmt.objectActivityId ≠ expect.activityId then .error .activityMismatch
    else if !stmt.hasCategory categories.CMI5 then .error .missingCmi5Category
    else if !isAuVerb stmt.verbId then .error (.unknownVerb stmt.verbId)
    else checkResult stmt expect.masteryScore

end Validate

/-- The outcomes seen so far that count toward `moveOn`. -/
structure SessionOutcome where
  passed : Bool
  completed : Bool
  failed : Bool
deriving DecidableEq

/-- The sequence machine of a session. -/
structure SessionState where
  initialized : Bool
  terminated : Bool
  outcome : SessionOutcome
deriving DecidableEq

namespace SessionState
variable {Uuid Float : Type}

def new : SessionState := ⟨false, false, ⟨false, false, false⟩⟩

def apply (m : SessionState) (stmt : Statement Uuid Float) : Except (Violation Float) SessionState :=
  if m.terminated then .error .afterTerminated
  else if stmt.verbId = verbs.INITIALIZED then
    if m.initialized then .error .alreadyInitialized else .ok { m with initialized := true }
  else if stmt.verbId = verbs.PASSED then
    if !m.initialized then .error .notInitialized
    else if stmt.isMoveon then
      if m.outcome.failed then .error .bothPassedAndFailed
        else .ok { m with outcome := { m.outcome with passed := true } }
    else .ok m
  else if stmt.verbId = verbs.FAILED then
    if !m.initialized then .error .notInitialized
    else if stmt.isMoveon then
      if m.outcome.passed then .error .bothPassedAndFailed
        else .ok { m with outcome := { m.outcome with failed := true } }
    else .ok m
  else if stmt.verbId = verbs.COMPLETED then
    if !m.initialized then .error .notInitialized
    else if stmt.isMoveon then .ok { m with outcome := { m.outcome with completed := true } } else .ok m
  else if stmt.verbId = verbs.TERMINATED then
    if !m.initialized then .error .notInitialized else .ok { m with terminated := true }
  else .error (.unknownVerb stmt.verbId)

end SessionState

/-- What a statement adds to the outcome of its session. -/
def Statement.counts {Uuid Float : Type} (stmt : Statement Uuid Float) : SessionOutcome where
  passed := stmt.isMoveon && stmt.verbId == verbs.PASSED
  completed := stmt.isMoveon && stmt.verbId == verbs.COMPLETED
  failed := stmt.isMoveon && stmt.verbId == verbs.FAILED

def SessionOutcome.join (a b : SessionOutcome) : SessionOutcome :=
  ⟨a.passed || b.passed, a.completed || b.completed, a.failed || b.failed⟩

namespace SessionState
variable {Uuid Float : Type} {m m' : SessionState} {stmt : Statement Uuid Float}

/-- What the machine asks of the next statement. -/
structure Admits (m : SessionState) (stmt : Statement Uuid Float) : Prop where
  running : m.terminated = false
  auVerb : isAuVerb stmt.verbId = true
  first : stmt.verbId = verbs.INITIALIZED ↔ m.initialized = false
  passed : stmt.counts.passed = true → m.outcome.failed = false
  failed : stmt.counts.failed = true → m.outcome.passed = false

/-- Where the machine is once it has taken a statement. -/
def after (m : SessionState) (stmt : Statement Uuid Float) : SessionState where
  initialized := m.initialized || stmt.verbId == verbs.INITIALIZED
  terminated := m.terminated || stmt.verbId == verbs.TERMINATED
  outcome := m.outcome.join stmt.counts

theorem isAuVerb_iff {verb : String} : isAuVerb verb = true ↔ verb = verbs.INITIALIZED ∨ verb = verbs.COMPLETED ∨
    verb = verbs.PASSED ∨ verb = verbs.FAILED ∨ verb = verbs.TERMINATED := by
  simp only [isAuVerb, List.mem_cons, List.not_mem_nil, or_false, decide_eq_true_eq]

theorem admits_iff : m.Admits stmt ↔ m.terminated = false ∧ isAuVerb stmt.verbId = true ∧
    (stmt.verbId = verbs.INITIALIZED ↔ m.initialized = false) ∧
      (stmt.counts.passed = true → m.outcome.failed = false) ∧
        (stmt.counts.failed = true → m.outcome.passed = false) :=
  ⟨fun admits => ⟨admits.running, admits.auVerb, admits.first, admits.passed, admits.failed⟩,
    fun ⟨running, auVerb, first, passed, failed⟩ => ⟨running, auVerb, first, passed, failed⟩⟩

/-- A statement is taken exactly if the machine admits it. -/
theorem apply_eq_ok_iff : m.apply stmt = .ok m' ↔ m.Admits stmt ∧ m' = m.after stmt := by
  rw [admits_iff]
  by_cases au : isAuVerb stmt.verbId = true
  · -- each verb has its own arm, with nothing left to ask but the flags
    obtain ⟨initialized, terminated, passed, completed, failed⟩ := m
    rcases isAuVerb_iff.mp au with verb | verb | verb | verb | verb
    all_goals
      simp only [au, true_and]
      simp only [apply, after, Statement.counts, SessionOutcome.join, verb, verbs.INITIALIZED,
        verbs.COMPLETED, verbs.PASSED, verbs.FAILED, verbs.TERMINATED, String.reduceEq, if_true, if_false,
          String.reduceBEq, Bool.and_false, Bool.or_false, Bool.or_true, Bool.false_eq_true, false_implies, true_iff]
      cases terminated <;> cases initialized <;> cases stmt.isMoveon <;> cases passed <;> cases failed <;>
        simp [@eq_comm _ m']
  · have refused : ∀ other : SessionState, m.apply stmt ≠ .ok other := by
      intro other
      have verbs_ := (not_congr isAuVerb_iff).mp au
      simp only [not_or] at verbs_
      unfold apply
      split
      · exact fun taken => nomatch taken
      · simp only [verbs_.1, verbs_.2.1, verbs_.2.2.1, verbs_.2.2.2.1, verbs_.2.2.2.2, if_false]
        exact fun taken => nomatch taken
    exact ⟨fun taken => absurd taken (refused m'), fun admits => absurd admits.1.2.1 au⟩

end SessionState

/-- An AU with no criterion never satisfies. -/
def evaluateMoveOn (moveOn : MoveOn) (outcome : SessionOutcome) : Bool :=
  match moveOn with
  | .passed => outcome.passed
  | .completed => outcome.completed
  | .completedAndPassed => outcome.completed && outcome.passed
  | .completedOrPassed => outcome.completed || outcome.passed
  | .notApplicable => false

end CoopSpaces.Cmi5

import CoopSpaces.Cmi5.CourseTables
import CoopSpaces.Lib.Routine
import CoopSpaces.Server.Training

namespace CoopSpaces.Cmi5

/-- What libraries tell: a statement read from its JSON, and a scaled score in per cent,
rounded and clamped. -/
structure Lrs (Uuid Float Json : Type) where
  fromValue : Json → Except String (Statement Uuid Float)
  percent : Float → Int

structure Cmi5StatementRow (Uuid Json : Type) where
  registrationId : Uuid
  statementId : Uuid
  verbIri : String
  stored : Int
  statement : Json
deriving DecidableEq

structure Cmi5Registration (Uuid : Type) where
  userId : Uuid
  auId : Uuid
  launchMode : String
  satisfiedAt : Option Int
  completedAt : Option Int
  passedAt : Option Int
  updatedAt : Int
deriving DecidableEq

def Cmi5Registration.satisfied {Uuid : Type} (registration : Cmi5Registration Uuid) (now : Int)
    (outcome : SessionOutcome) :
    Cmi5Registration Uuid :=
  { registration with
    satisfiedAt := some now
    passedAt := if outcome.passed then some now else none
    completedAt := if outcome.completed then some now else none
    updatedAt := now }

/-- A session as the server has it, from the registration and its AU. -/
structure Cmi5SessionContext (Uuid : Type) where
  registrationId : Uuid
  userId : Uuid
  auId : Uuid
  activityId : String
  launchMode : String
deriving DecidableEq

structure GrantInfo (Uuid : Type) where
  userId : Uuid
  auId : Uuid
  registrationId : Uuid
  trainingStepId : Uuid
  toolId : Uuid
  score : Option Int
deriving DecidableEq

/-- The tables statements are recorded in, and, for the account of it, the registrations
for which a completion was written, in order. -/
structure StatementStore (Uuid Float Json : Type) where
  units : Table Uuid (Cmi5AssignableUnit Uuid Float)
  registrations : Table Uuid (Cmi5Registration Uuid)
  statements : List (Cmi5StatementRow Uuid Json)
  training : TrainingTables Uuid
  grants : List Uuid

/-- A statement on its way to be recorded, with what is read off the clock and drawn for
it, and the order the database gives to its registration's earlier ones, by when they were
stored. -/
structure Post (Uuid Json : Type) where
  session : Cmi5SessionContext Uuid
  siteUrl : String
  statementIdHint : Option Uuid
  raw : Json
  newV4 : Uuid
  stored : Int
  now : Int
  clock : Readings
  ordered : List (Cmi5StatementRow Uuid Json) → List (Cmi5StatementRow Uuid Json)
  isOrdered : ∀ rows, OrderedBy (·.stored) rows (ordered rows)

/-- A change of the tables. That of a new statement names the rows its call had replayed. -/
inductive StatementChange (Uuid Json : Type) where
  | storeStatement (row : Cmi5StatementRow Uuid Json) (replayed : List (Cmi5StatementRow Uuid Json))
  | completeStep (registrationId userId stepId : Uuid) (clock : Readings) (notes : Option String)
  | markSatisfied (registrationId : Uuid) (now : Int) (outcome : SessionOutcome)

namespace StatementStore
variable {Uuid Float Json : Type} [DecidableEq Uuid]

def rowsOf (s : StatementStore Uuid Float Json) (registrationId : Uuid) : List (Cmi5StatementRow Uuid Json) :=
  s.statements.filter fun row => row.registrationId = registrationId

def resolveSession (s : StatementStore Uuid Float Json) (registrationId : Uuid) :
    Option (Cmi5SessionContext Uuid) := do
  let registration ← s.registrations registrationId
  let au ← s.units registration.auId
  some ⟨registrationId, registration.userId, registration.auId, au.auIri, registration.launchMode⟩

def perform (s : StatementStore Uuid Float Json) : StatementChange Uuid Json →
    StatementStore Uuid Float Json × Except DbError Unit
  | .storeStatement row _ =>
    if row.statementId ∈ s.statements.map (·.statementId) then (s, .error .uniqueViolation)
    else if (s.registrations row.registrationId).isNone then (s, .error .foreignKeyViolation)
    else ({ s with statements := s.statements ++ [row] }, .ok ())
  | .completeStep registrationId userId stepId clock notes =>
    match s.training.recordStepCompletion clock userId stepId userId "completed" notes with
    | .ok training => ({ s with training, grants := s.grants ++ [registrationId] }, .ok ())
    | .error error => (s, .error error)
  | .markSatisfied registrationId now outcome =>
    match s.registrations registrationId with
    | some registration =>
      ({ s with registrations := s.registrations.insert registrationId (registration.satisfied now outcome) }, .ok ())
    | none => (s, .ok ())

end StatementStore

section Record
variable {Uuid Float Json : Type}

abbrev StatementRoutine (Uuid Float Json : Type) : Type :=
  Routine (StatementStore Uuid Float Json) (StatementChange Uuid Json) (Except DbError Unit)
    (Except (Cmi5Error Float) (Option (GrantInfo Uuid)))

namespace Lrs
variable (lrs : Lrs Uuid Float Json)

/-- One earlier statement replayed: one that does not read, or is refused, is passed over. -/
def replayRow (m : SessionState) (row : Cmi5StatementRow Uuid Json) : SessionState :=
  match lrs.fromValue row.statement with
  | .ok stmt =>
    match m.apply stmt with
    | .ok m => m
    | .error _ => m
  | .error _ => m

def replay (rows : List (Cmi5StatementRow Uuid Json)) : SessionState := rows.foldl lrs.replayRow .new

def statementScore (stmt : Statement Uuid Float) : Option Int :=
  ((stmt.result.bind XResult.score).bind Score.scaled).map lrs.percent

end Lrs

variable (lrs : Lrs Uuid Float Json) (post : Post Uuid Json)

/-- The registration marked, the last change of a call that grants. -/
def markingSatisfied (stepId toolId : Uuid) (stmt : Statement Uuid Float) (outcome : SessionOutcome) :
    StatementRoutine Uuid Float Json :=
  .write (.markSatisfied post.session.registrationId post.now outcome) fun
    | .error error => .done (.error (.db (.refused error)))
    | .ok () => .done (.ok (some
        { userId := post.session.userId
          auId := post.session.auId
          registrationId := post.session.registrationId
          trainingStepId := stepId
          toolId
          score := lrs.statementScore stmt }))

/-- The grant, through the shared completion path: the learner is subject and instructor. -/
def grantStep (au : Cmi5AssignableUnit Uuid Float) (stepId toolId : Uuid) (stmt : Statement Uuid Float)
    (outcome : SessionOutcome) :
    StatementRoutine Uuid Float Json :=
  .write (.completeStep post.session.registrationId post.session.userId stepId post.clock
      (some ("Completed via cmi5 module " ++ au.auIri))) fun
    | .error error => .done (.error (.db (.refused error)))
    | .ok () => markingSatisfied lrs post stepId toolId stmt outcome

variable [DecidableEq Uuid]

/-- The registration is read, and the step with it, which no call changes. -/
def readRegistration (au : Cmi5AssignableUnit Uuid Float) (stepId : Uuid) (stmt : Statement Uuid Float)
    (outcome : SessionOutcome) :
    StatementRoutine Uuid Float Json :=
  .read fun s =>
    match s.registrations post.session.registrationId with
    | none => .done (.error (.db (.refused .notFound)))
    | some registration =>
      if registration.satisfiedAt.isSome then .done (.ok none)
      else
        match s.training.getTrainingStepById stepId with
        | none => .done (.error .stepNotFound)
        | some step => grantStep lrs post au stepId step.toolId stmt outcome

/-- What is left to do for a stored statement: grant on satisfaction. -/
def credit (au : Cmi5AssignableUnit Uuid Float) (stmt : Statement Uuid Float) (outcome : SessionOutcome) :
    StatementRoutine Uuid Float Json :=
  match MoveOn.parse au.moveOn with
  | .error error => .done (.error (.manifest error))
  | .ok moveOn =>
    if post.session.launchMode ≠ "Normal" ∨ evaluateMoveOn moveOn outcome = false then .done (.ok none)
    else
      match au.trainingStepId with
      | none => .done (.ok none)
      | some stepId => readRegistration lrs post au stepId stmt outcome

/-- The id of a statement: the one asked for, its own, or a new one. -/
def Post.statementId (stmt : Statement Uuid Float) : Uuid := (post.statementIdHint.or stmt.id).getD post.newV4

def Post.row (stmt : Statement Uuid Float) : Cmi5StatementRow Uuid Json where
  registrationId := post.session.registrationId
  statementId := post.statementId stmt
  verbIri := stmt.verbId
  stored := post.stored
  statement := post.raw

def storeStatement (au : Cmi5AssignableUnit Uuid Float) (stmt : Statement Uuid Float)
    (prior : List (Cmi5StatementRow Uuid Json)) (machine : SessionState) : StatementRoutine Uuid Float Json :=
  .write (.storeStatement (post.row stmt) prior) fun
    | .error error => .done (.error (.db (.refused error)))
    | .ok () => credit lrs post au stmt machine.outcome

/-- The earlier statements are replayed, and this one is applied. -/
def replayPrior (au : Cmi5AssignableUnit Uuid Float) (stmt : Statement Uuid Float) :
    StatementRoutine Uuid Float Json :=
  .read fun s =>
    let prior := post.ordered (s.rowsOf post.session.registrationId)
    match (lrs.replay prior).apply stmt with
    | .error violation => .done (.error (.rejected violation))
    | .ok machine => storeStatement lrs post au stmt prior machine

variable [IdText Uuid] [LT Float] [DecidableLT Float]

def Post.expectation (au : Cmi5AssignableUnit Uuid Float) : SessionExpectation Uuid Float where
  actorHomePage := post.siteUrl
  actorAccountName := IdText.toText post.session.userId
  registration := post.session.registrationId
  activityId := post.session.activityId
  masteryScore := au.masteryScore

/-- Records one statement, and grants the mapped step if it satisfies the AU. -/
def recordStatement : StatementRoutine Uuid Float Json :=
  match lrs.fromValue post.raw with
  | .error message => .done (.error (.badStatement message))
  | .ok stmt =>
    .read fun s =>
      match s.units post.session.auId with
      | none => .done (.error .auNotFound)
      | some au =>
        match validateCmi5Statement stmt (post.expectation au) with
        | .error violation => .done (.error (.rejected violation))
        | .ok () =>
          if post.statementId stmt ∈ s.statements.map (·.statementId) then .done (.ok none)
          else replayPrior lrs post au stmt

/-- Any number of statements are recorded together. -/
def statementService : Service (StatementStore Uuid Float Json) (StatementChange Uuid Json) (Except DbError Unit)
    (Except (Cmi5Error Float) (Option (GrantInfo Uuid))) (Post Uuid Json) where
  perform := StatementStore.perform
  serve post := recordStatement lrs post

end Record

end CoopSpaces.Cmi5

import CoopSpaces.Server.Accounts

namespace CoopSpaces

inductive TrainingStatus
  | notStarted
  | inProgress
  | completed
  | failed
  | expired
  deriving DecidableEq

/-- `Duration::days`, in the microseconds the database keeps. -/
def daysToMicros (days : Int) : Int := days * 86400000000

/-- A step's row, under its id. -/
structure TrainingStep (Uuid : Type) where
  toolId : Uuid
  stepNumber : Int
  trainingMaterialsUrl : Option String
  requiresAssessment : Bool
  expiresAfterDays : Option Int
  selfAttestable : Bool
  deriving DecidableEq

/-- A member's row for one step. -/
structure UserTrainingProgress (Uuid : Type) where
  status : TrainingStatus
  instructorId : Option Uuid
  startedAt : Option Int
  completedAt : Option Int
  expiresAt : Option Int
  assessmentScore : Option Int
  notes : Option String
  acknowledgedMaterialsUrl : Option String
  deriving DecidableEq

/-- The clock as one call reads it: for the expiry, for the completion, for the start. -/
structure Readings where
  expiry : Int
  completion : Int
  start : Int
  deriving DecidableEq

/-- The tables behind a member's training. A step has one row for a member. -/
structure TrainingTables (Uuid : Type) where
  users : List Uuid
  tools : List Uuid
  steps : AList fun _ : Uuid => TrainingStep Uuid
  progress : Table (Uuid × Uuid) (UserTrainingProgress Uuid)

/-- A changeset. A column it does not name stays as it is. -/
structure UpdateUserTrainingProgress (Uuid : Type) where
  status : Option TrainingStatus
  instructorId : Option Uuid
  startedAt : Option Int
  completedAt : Option Int
  expiresAt : Option Int
  assessmentScore : Option Int
  notes : Option String
  deriving DecidableEq

structure CompleteTrainingRequest (Uuid : Type) where
  trainingStepId : Uuid
  assessmentScore : Option Int
  passed : Bool
  notes : Option String
  deriving DecidableEq

structure StartTrainingRequest (Uuid : Type) where
  trainingStepId : Uuid
  instructorId : Option Uuid
  notes : Option String
  deriving DecidableEq

structure UpdateProgressRequest where
  status : TrainingStatus
  assessmentScore : Option Int
  notes : Option String
  deriving DecidableEq

namespace TrainingStep
variable {Uuid : Type}

def calculateExpiryDate (step : TrainingStep Uuid) (now : Int) : Option Int :=
  step.expiresAfterDays.map fun days => now + daysToMicros days

end TrainingStep

namespace UserTrainingProgress
variable {Uuid : Type}

/-- `valid_assessment_score` and `logical_dates`. -/
def Valid (row : UserTrainingProgress Uuid) : Prop :=
  row.assessmentScore.all (fun score => decide (0 ≤ score ∧ score ≤ 100)) = true ∧
    row.startedAt.all (fun started => row.completedAt.all fun completed => decide (started ≤ completed)) = true

instance (row : UserTrainingProgress Uuid) : Decidable row.Valid := inferInstanceAs (Decidable (_ ∧ _))

/-- The dates of an earlier completion stay. -/
def begunAgain (row : UserTrainingProgress Uuid) (now : Int) (instructorId : Option Uuid) :
    UserTrainingProgress Uuid :=
  { row with status := .inProgress, instructorId, startedAt := some now }

/-- What the row says of when it was completed, and until when that counts. -/
def stamp (row : UserTrainingProgress Uuid) : Option Int × Option Int := (row.completedAt, row.expiresAt)

/-- Completed at that instant, and good for that many days from it. -/
structure Expires (row : UserTrainingProgress Uuid) (days t : Int) : Prop where
  completed : row.completedAt = some t
  expiry : row.expiresAt = some (t + daysToMicros days)

theorem expires_iff {row : UserTrainingProgress Uuid} {days t : Int} :
    row.Expires days t ↔ row.stamp = (some t, some (t + daysToMicros days)) :=
  ⟨fun expires => Prod.ext expires.completed expires.expiry,
    fun same => ⟨congrArg Prod.fst same, congrArg Prod.snd same⟩⟩

end UserTrainingProgress

def UpdateUserTrainingProgress.set {Uuid : Type} (changes : UpdateUserTrainingProgress Uuid)
    (row : UserTrainingProgress Uuid) : UserTrainingProgress Uuid where
  status := changes.status.getD row.status
  instructorId := changes.instructorId.or row.instructorId
  startedAt := changes.startedAt.or row.startedAt
  completedAt := changes.completedAt.or row.completedAt
  expiresAt := changes.expiresAt.or row.expiresAt
  assessmentScore := changes.assessmentScore.or row.assessmentScore
  notes := changes.notes.or row.notes
  acknowledgedMaterialsUrl := row.acknowledgedMaterialsUrl

namespace TrainingTables
variable {Uuid : Type} [DecidableEq Uuid]

def getTrainingStepById (db : TrainingTables Uuid) (stepId : Uuid) : Option (TrainingStep Uuid) :=
  db.steps.lookup stepId

/-- Every row written is one the table's checks admit. -/
def writeRow (db : TrainingTables Uuid) (key : Uuid × Uuid) (row : UserTrainingProgress Uuid) :
    Except DbError (TrainingTables Uuid) :=
  if row.Valid then .ok { db with progress := db.progress.insert key row } else .error .checkViolation

def updateRow (db : TrainingTables Uuid) (key : Uuid × Uuid)
    (change : UserTrainingProgress Uuid → UserTrainingProgress Uuid) : Except DbError (TrainingTables Uuid) :=
  match db.progress key with
  | none => .error .notFound
  | some row => db.writeRow key (change row)

/-- The status word of the sign-off flows. -/
def trainingStatus (completionStatus : String) : TrainingStatus :=
  if completionStatus = "completed" then .completed
  else if completionStatus = "partial" then .inProgress
  else if completionStatus = "failed" then .failed
  else .inProgress

/-- Records a training completion by upserting the user's row for a step. -/
def recordStepCompletion (db : TrainingTables Uuid) (clock : Readings)
    (traineeUserId trainingStepId instructorId : Uuid)
    (completionStatus : String) (notes : Option String) : Except DbError (TrainingTables Uuid) :=
  let status := trainingStatus completionStatus
  let expiresAt :=
    if status = .completed then
      (db.getTrainingStepById trainingStepId).bind fun step => step.calculateExpiryDate clock.expiry
    else none
  let completedAt := if status = .completed then some clock.completion else none
  let key := (traineeUserId, trainingStepId)
  match db.progress key with
  | some row =>
    if instructorId ∉ db.users then .error .foreignKeyViolation
    else db.writeRow key { row with status, instructorId := some instructorId, completedAt, expiresAt, notes }
  | none =>
    if traineeUserId ∉ db.users ∨ instructorId ∉ db.users ∨ (db.getTrainingStepById trainingStepId).isNone then
      .error .foreignKeyViolation
    else
      -- The new row names neither the completion nor the expiry.
      db.writeRow key ⟨status, some instructorId, some clock.start, none, none, none, notes, none⟩

/-- The update of a completion, with the step as it was loaded for it. -/
def completeRow (db : TrainingTables Uuid) (clock : Readings) (userId : Uuid) (request : CompleteTrainingRequest Uuid)
    (step : Option (TrainingStep Uuid)) : Except DbError (TrainingTables Uuid) :=
  let status : TrainingStatus := if request.passed then .completed else .failed
  let expiresAt := if request.passed then step.bind fun s => s.calculateExpiryDate clock.expiry else none
  let acknowledgedMaterialsUrl := step.bind fun s => s.trainingMaterialsUrl
  db.updateRow (userId, request.trainingStepId) fun row =>
    { row with
      status, completedAt := some clock.completion, expiresAt, assessmentScore := request.assessmentScore,
      notes := request.notes, acknowledgedMaterialsUrl }

/-- Complete a training session. -/
def completeTrainingSession (db : TrainingTables Uuid) (clock : Readings) (userId : Uuid)
    (request : CompleteTrainingRequest Uuid) : Except DbError (TrainingTables Uuid) :=
  db.completeRow clock userId request (db.getTrainingStepById request.trainingStepId)

/-- Start a training session: a new row, or the one there begun again. -/
def startTrainingSession (db : TrainingTables Uuid) (now : Int) (userId : Uuid)
    (request : StartTrainingRequest Uuid) :
    Except DbError (TrainingTables Uuid) :=
  let key := (userId, request.trainingStepId)
  if request.instructorId.any fun instructor => instructor ∉ db.users then .error .foreignKeyViolation
  else match db.progress key with
    | some row => db.writeRow key (row.begunAgain now request.instructorId)
    | none =>
      if userId ∉ db.users ∨ (db.getTrainingStepById request.trainingStepId).isNone then .error .foreignKeyViolation
      else db.writeRow key ⟨.inProgress, request.instructorId, some now, none, none, none, request.notes, none⟩

def updateUserTrainingProgress (db : TrainingTables Uuid) (userId stepId : Uuid)
    (changes : UpdateUserTrainingProgress Uuid) : Except DbError (TrainingTables Uuid) :=
  db.updateRow (userId, stepId) changes.set

/-- The staff endpoint, past its gate. -/
def updateTrainingProgress (db : TrainingTables Uuid) (targetUserId stepId : Uuid) (payload : UpdateProgressRequest) :
    Except DbError (TrainingTables Uuid) :=
  db.updateUserTrainingProgress targetUserId stepId
    ⟨some payload.status, none, none, none, none, payload.assessmentScore, payload.notes⟩

/-- A step counts while the member's row for it is completed and not past its expiry. -/
def stepDone (db : TrainingTables Uuid) (now : Int) (userId stepId : Uuid) : Bool :=
  match db.progress (userId, stepId) with
  | some row => row.status = .completed && row.expiresAt.all fun expiry => !decide (expiry < now)
  | none => false

/-- Whether a user has completed all required training steps for a tool. -/
def userHasCompletedAllTrainingSteps (db : TrainingTables Uuid) (now : Int) (userId toolId : Uuid) : Bool :=
  let allSteps := (db.steps.entries.filter fun step => step.2.toolId = toolId).map (·.1)
  allSteps.isEmpty || allSteps.all (db.stepDone now userId)

/-- Every other step of the same tool counts at that time. -/
def OthersDone (db : TrainingTables Uuid) (now : Int) (userId stepId toolId : Uuid) : Prop :=
  ∀ other ∈ db.steps.entries, other.2.toolId = toolId → other.1 ≠ stepId → db.stepDone now userId other.1 = true

theorem writeRow_eq_ok {db after : TrainingTables Uuid} {key : Uuid × Uuid} {row : UserTrainingProgress Uuid}
    (wrote : db.writeRow key row = .ok after) : after = { db with progress := db.progress.insert key row } := by
  unfold writeRow at wrote
  split at wrote
  · exact (Except.ok.inj wrote).symm
  · cases wrote

theorem row_of_wrote {db after : TrainingTables Uuid} {key : Uuid × Uuid} {row found : UserTrainingProgress Uuid}
    (wrote : db.writeRow key row = .ok after) (left : after.progress key = some found) : found = row := by
  have whole := writeRow_eq_ok wrote
  subst whole
  have here := Table.insert_self db.progress key row
  exact Option.some.inj (left.symm.trans here)

/-- With every other step counting, the tool's training is complete just while this step counts. -/
theorem userHasCompletedAll_iff_stepDone {db : TrainingTables Uuid} {now : Int} {userId stepId : Uuid}
    {step : TrainingStep Uuid} (known : db.getTrainingStepById stepId = some step)
    (others : db.OthersDone now userId stepId step.toolId) :
    db.userHasCompletedAllTrainingSteps now userId step.toolId = true ↔ db.stepDone now userId stepId = true := by
  have entry : ⟨stepId, step⟩ ∈ db.steps.entries := AList.mem_lookup_iff.mp known
  have mine : stepId ∈ (db.steps.entries.filter fun s => s.2.toolId = step.toolId).map (·.1) :=
    List.mem_map.mpr ⟨_, List.mem_filter.mpr ⟨entry, decide_eq_true rfl⟩, rfl⟩
  have some_ : ((db.steps.entries.filter fun s => s.2.toolId = step.toolId).map (·.1)).isEmpty = false := by
    rw [List.isEmpty_eq_false_iff]
    exact List.ne_nil_of_mem mine
  unfold userHasCompletedAllTrainingSteps
  dsimp only
  rw [some_, Bool.false_or, List.all_eq_true]
  constructor
  · intro all
    exact all stepId mine
  · intro done id listed
    obtain ⟨other, member, rfl⟩ := List.mem_map.mp listed
    obtain ⟨inSteps, sameTool⟩ := List.mem_filter.mp member
    by_cases same : other.1 = stepId
    · rw [same]
      exact done
    · exact others other inSteps (of_decide_eq_true sameTool) same

end TrainingTables

/-- The ways a member's row for a step comes to say completed. -/
inductive CompletionPath (Uuid : Type)
  | recordStepCompletion (instructorId : Uuid) (completionStatus : String) (notes : Option String)
  | completeTrainingSession (assessmentScore : Option Int) (passed : Bool) (notes : Option String)
  | updateTrainingProgress (payload : UpdateProgressRequest)

namespace CompletionPath
variable {Uuid : Type} [DecidableEq Uuid]

def run (path : CompletionPath Uuid) (db : TrainingTables Uuid) (clock : Readings) (user step : Uuid) :
    Except DbError (TrainingTables Uuid) :=
  match path with
  | .recordStepCompletion instructorId completionStatus notes =>
    db.recordStepCompletion clock user step instructorId completionStatus notes
  | .completeTrainingSession assessmentScore passed notes =>
    db.completeTrainingSession clock user ⟨step, assessmentScore, passed, notes⟩
  | .updateTrainingProgress payload => db.updateTrainingProgress user step payload

/-- The path that leaves the row's dates alone. -/
def KeepsDates : CompletionPath Uuid → Prop
  | .updateTrainingProgress _ => True
  | _ => False

/-- When a completion by this path expires as it should: on a row that is there already, with
both dates read off the clock at one instant; by the staff endpoint, if the row had these
dates before. -/
def LeavesExpiry (path : CompletionPath Uuid) (prior : Option (UserTrainingProgress Uuid)) (clock : Readings)
    (days t : Int) : Prop :=
  match path with
  | .recordStepCompletion .. | .completeTrainingSession .. =>
    prior.isSome = true ∧ clock.completion = t ∧ clock.expiry = t
  | .updateTrainingProgress _ => ∃ row, prior = some row ∧ row.Expires days t

/-- The dates a row is left with: those of this call, those it had, or none. -/
inductive Dated (db : TrainingTables Uuid) (clock : Readings) (user stepId : Uuid) (days : Int) :
    CompletionPath Uuid → Option Int × Option Int → Prop
  | stamped {path : CompletionPath Uuid} (row : UserTrainingProgress Uuid)
    (prior : db.progress (user, stepId) = some row)
      (stamps : ¬ path.KeepsDates) :
      Dated db clock user stepId days path (some clock.completion, some (clock.expiry + daysToMicros days))
  | undated (instructorId : Uuid) (completionStatus : String) (notes : Option String)
      (prior : db.progress (user, stepId) = none) :
      Dated db clock user stepId days (.recordStepCompletion instructorId completionStatus notes) (none, none)
  | kept (payload : UpdateProgressRequest) (row : UserTrainingProgress Uuid)
      (prior : db.progress (user, stepId) = some row) :
      Dated db clock user stepId days (.updateTrainingProgress payload) row.stamp

variable {db after after' : TrainingTables Uuid} {clock : Readings} {user stepId : Uuid} {step : TrainingStep Uuid}
  {days : Int} {path other : CompletionPath Uuid} {row row' : UserTrainingProgress Uuid}

theorem updateRow_eq_ok {key : Uuid × Uuid} {change : UserTrainingProgress Uuid → UserTrainingProgress Uuid}
    (ran : db.updateRow key change = .ok after) (left : after.progress key = some row) :
    ∃ prior, db.progress key = some prior ∧ row = change prior := by
  unfold TrainingTables.updateRow at ran
  split at ran
  · cases ran
  · rename_i prior found
    exact ⟨prior, found, TrainingTables.row_of_wrote ran left⟩

/-- What each path leaves behind, row and dates, when it leaves the row completed. -/
theorem dated_of_completed (known : db.getTrainingStepById stepId = some step)
    (interval : step.expiresAfterDays = some days) (ran : path.run db clock user stepId = .ok after)
    (left : after.progress (user, stepId) = some row) (completed : row.status = .completed) :
    Dated db clock user stepId days path row.stamp := by
  have expiry : step.calculateExpiryDate clock.expiry = some (clock.expiry + daysToMicros days) := by
    unfold TrainingStep.calculateExpiryDate
    rw [interval]
    rfl
  cases path with
  | recordStepCompletion instructorId completionStatus notes =>
    have ran : db.recordStepCompletion clock user stepId instructorId completionStatus notes = .ok after := ran
    unfold TrainingTables.recordStepCompletion at ran
    dsimp only at ran
    split at ran
    · rename_i prior found
      split at ran
      · cases ran
      · obtain rfl := TrainingTables.row_of_wrote ran left
        have word : TrainingTables.trainingStatus completionStatus = .completed := completed
        have stamped : Dated db clock user stepId days (.recordStepCompletion instructorId completionStatus notes)
            (some clock.completion, some (clock.expiry + daysToMicros days)) := .stamped prior found id
        simpa [UserTrainingProgress.stamp, word, known, expiry] using stamped
    · rename_i found
      split at ran
      · cases ran
      · obtain rfl := TrainingTables.row_of_wrote ran left
        exact .undated instructorId completionStatus notes found
  | completeTrainingSession assessmentScore passed notes =>
    obtain ⟨prior, found, rfl⟩ := updateRow_eq_ok ran left
    have word : passed = true := by
      cases passed with
      | true => rfl
      | false => cases completed
    have stamped : Dated db clock user stepId days (.completeTrainingSession assessmentScore passed notes)
        (some clock.completion, some (clock.expiry + daysToMicros days)) := .stamped prior found id
    simpa [UserTrainingProgress.stamp, word, known, expiry] using stamped
  | updateTrainingProgress payload =>
    obtain ⟨prior, found, rfl⟩ := updateRow_eq_ok ran left
    exact .kept payload prior found

theorem steps_of_run (ran : path.run db clock user stepId = .ok after) : after.steps = db.steps := by
  have updated : ∀ {key change}, db.updateRow key change = .ok after → after.steps = db.steps := by
    intro key change ran
    unfold TrainingTables.updateRow at ran
    split at ran
    · cases ran
    · rw [TrainingTables.writeRow_eq_ok ran]
  cases path with
  | recordStepCompletion instructorId completionStatus notes =>
    have ran : db.recordStepCompletion clock user stepId instructorId completionStatus notes = .ok after := ran
    unfold TrainingTables.recordStepCompletion at ran
    dsimp only at ran
    split at ran <;> split at ran
    · cases ran
    · rw [TrainingTables.writeRow_eq_ok ran]
    · cases ran
    · rw [TrainingTables.writeRow_eq_ok ran]
  | completeTrainingSession assessmentScore passed notes => exact updated ran
  | updateTrainingProgress payload => exact updated ran

omit [DecidableEq Uuid] in
theorem Dated.expires_iff (dated : Dated db clock user stepId days path row.stamp) (t : Int) :
    row.Expires days t ↔ path.LeavesExpiry (db.progress (user, stepId)) clock days t := by
  rw [UserTrainingProgress.expires_iff]
  generalize row.stamp = stamp at dated
  cases dated with
  | stamped prior found stamps =>
    have dates : (some clock.completion, some (clock.expiry + daysToMicros days)) =
      (some t, some (t + daysToMicros days)) ↔
        clock.completion = t ∧ clock.expiry = t := by
      simp only [Prod.mk.injEq, Option.some.injEq]
      omega
    rw [dates, found]
    cases path with
    | recordStepCompletion => exact ⟨fun same => ⟨rfl, same⟩, fun leaves => leaves.2⟩
    | completeTrainingSession => exact ⟨fun same => ⟨rfl, same⟩, fun leaves => leaves.2⟩
    | updateTrainingProgress payload => exact absurd trivial stamps
  | undated instructorId completionStatus notes fresh =>
    rw [fresh]
    constructor
    · intro same
      cases same
    · intro leaves
      cases leaves.1
  | kept payload prior found =>
    rw [found, ← UserTrainingProgress.expires_iff]
    constructor
    · intro expires
      exact ⟨prior, rfl, expires⟩
    · rintro ⟨other, same, expires⟩
      obtain rfl := Option.some.inj same
      exact expires

omit [DecidableEq Uuid] in
/-- Two paths agree on the dates unless just one of them leaves alone dates that were not those of this call. -/
theorem Dated.agree_iff (dated : Dated db clock user stepId days path row.stamp)
    (dated' : Dated db clock user stepId days other row'.stamp) :
    row.stamp = row'.stamp ↔ (path.KeepsDates ↔ other.KeepsDates) ∨
      ∃ prior, db.progress (user, stepId) = some prior ∧
        prior.stamp = (some clock.completion, some (clock.expiry + daysToMicros days)) := by
  generalize row.stamp = stamp at dated
  generalize row'.stamp = stamp' at dated'
  cases dated with
  | stamped prior found stamps =>
    cases dated' with
    | stamped _ _ stamps' => exact ⟨fun _ => .inl (iff_of_false stamps stamps'), fun _ => rfl⟩
    | undated _ _ _ fresh => cases found.symm.trans fresh
    | kept payload prior' found' =>
      obtain rfl := Option.some.inj (found.symm.trans found')
      constructor
      · intro same
        exact .inr ⟨prior, found, same.symm⟩
      · rintro (both | ⟨row, here, same⟩)
        · exact absurd (both.mpr trivial) stamps
        · obtain rfl := Option.some.inj (found.symm.trans here)
          exact same.symm
  | undated _ _ _ fresh =>
    cases dated' with
    | stamped prior found _ => cases found.symm.trans fresh
    | undated => exact ⟨fun _ => .inl Iff.rfl, fun _ => rfl⟩
    | kept _ prior found => cases found.symm.trans fresh
  | kept payload prior found =>
    cases dated' with
    | stamped _ _ stamps =>
      constructor
      · intro same
        exact .inr ⟨prior, found, same⟩
      · rintro (both | ⟨row, here, same⟩)
        · exact absurd (both.mp trivial) stamps
        · obtain rfl := Option.some.inj (found.symm.trans here)
          exact same
    | undated _ _ _ fresh => cases found.symm.trans fresh
    | kept _ prior' found' =>
      obtain rfl := Option.some.inj (found.symm.trans found')
      exact ⟨fun _ => .inl Iff.rfl, fun _ => rfl⟩

/-- A completion of a step with a retraining interval is dated by the call, and expires an
interval later, exactly when it goes through a path that stamps a row already there; then the
tool is open to the member until that time and closed after it, and such paths agree. -/
theorem completion_expires_iff (known : db.getTrainingStepById stepId = some step)
    (interval : step.expiresAfterDays = some days) (ran : path.run db clock user stepId = .ok after)
    (left : after.progress (user, stepId) = some row) (completed : row.status = .completed) :
    (∀ t, row.Expires days t ↔ path.LeavesExpiry (db.progress (user, stepId)) clock days t) ∧
    (∀ t, row.Expires days t → ∀ now, after.OthersDone now user stepId step.toolId →
      (after.userHasCompletedAllTrainingSteps now user step.toolId = true ↔ now ≤ t + daysToMicros days)) ∧
    (∀ (other : CompletionPath Uuid) after' row', other.run db clock user stepId = .ok after' →
      after'.progress (user, stepId) = some row' → row'.status = .completed →
      (row.stamp = row'.stamp ↔ (path.KeepsDates ↔ other.KeepsDates) ∨
        ∃ prior, db.progress (user, stepId) = some prior ∧
          prior.stamp = (some clock.completion, some (clock.expiry + daysToMicros days)))) := by
  have dated : Dated db clock user stepId days path row.stamp := dated_of_completed known interval ran left completed
  refine ⟨dated.expires_iff, ?_, ?_⟩
  · intro t expires now others
    have still : after.getTrainingStepById stepId = some step := by
      unfold TrainingTables.getTrainingStepById
      rw [steps_of_run ran]
      exact known
    rw [TrainingTables.userHasCompletedAll_iff_stepDone still others]
    unfold TrainingTables.stepDone
    rw [left]
    simp [completed, expires.expiry]
  · intro other after' row' ran' left' completed'
    exact dated.agree_iff (dated_of_completed known interval ran' left' completed')

section
/-- A laser to be retrained on each year, a member who has not begun, and their instructor. -/
def laserStep : TrainingStep Nat := ⟨7, 1, none, true, some 365, false⟩

def unbegun : TrainingTables Nat := ⟨[2, 3], [7], .singleton 1 laserStep, .empty⟩

def lapsed : TrainingTables Nat :=
  { unbegun with progress := Table.empty.insert (2, 1) ⟨.expired, some 3, some 0, some 5, some 9, none, none, none⟩ }

def renewedRow : UserTrainingProgress Nat :=
  ⟨.completed, some 3, some 0, some 40, some 31536000000040, none, none, none⟩

theorem lapsed_renewed : renewedRow.Expires 365 40 := by
  have ran : (CompletionPath.recordStepCompletion 3 "completed" none).run lapsed ⟨40, 40, 40⟩ 2 1 =
    .ok { lapsed with progress := lapsed.progress.insert (2, 1) renewedRow } := rfl
  have left : (lapsed.progress.insert (2, 1) renewedRow) (2, 1) = some renewedRow := rfl
  have yearly : laserStep.expiresAfterDays = some 365 := rfl
  have all := completion_expires_iff rfl yearly ran left rfl
  exact (all.1 40).mpr ⟨rfl, rfl, rfl⟩

/-- The first grant of a course leaves its row completed with no date on it. -/
def firstGrant : TrainingTables Nat :=
  { unbegun with
    progress := Table.empty.insert (2, 1) ⟨.completed, some 3, some 40, none, none, none, none, none⟩ }

theorem first_grant_never_expires :
    unbegun.recordStepCompletion ⟨40, 40, 40⟩ 2 1 3 "completed" none = .ok firstGrant ∧
      laserStep.expiresAfterDays = some 365 ∧
      (firstGrant.progress (2, 1)).map (fun row => (row.status, row.stamp)) = some (.completed, none, none) ∧
      ∀ now, firstGrant.userHasCompletedAllTrainingSteps now 2 laserStep.toolId = true := by
  refine ⟨rfl, rfl, rfl, ?_⟩
  intro now
  rfl

end

end CompletionPath

end CoopSpaces

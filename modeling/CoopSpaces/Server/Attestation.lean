import CoopSpaces.Lib.Races
import CoopSpaces.Server.Handler
import CoopSpaces.Server.Training

namespace CoopSpaces

structure CreateTrainingStepRequest (Uuid : Type) where
  toolId : Uuid
  stepNumber : Int
  trainingMaterialsUrl : Option String
  requiresAssessment : Option Bool
  expiresAfterDays : Option Int
  selfAttestable : Option Bool
  deriving DecidableEq

/-- What an edit of a step names. What it leaves out stays as it is. -/
structure UpdateTrainingStep where
  trainingMaterialsUrl : Option String
  requiresAssessment : Option Bool
  expiresAfterDays : Option Int
  selfAttestable : Option Bool
  deriving DecidableEq

/-- Refuse a step that is both self-attestable and assessed. -/
def rejectSelfAttestableAssessment (selfAttestable requiresAssessment : Option Bool) : Except ApiError Unit :=
  if selfAttestable = some true ∧ requiresAssessment = some true then
    .error (.badRequest ("A training step cannot be self-service and require an assessment. " ++
      "Self-service records that the trainee read something; an assessment " ++
      "records that somebody else judged them competent."))
  else .ok ()

theorem rejectSelfAttestableAssessment_eq_ok {selfAttestable requiresAssessment : Option Bool} :
    rejectSelfAttestableAssessment selfAttestable requiresAssessment = .ok () ↔
      ¬(selfAttestable = some true ∧ requiresAssessment = some true) := by
  unfold rejectSelfAttestableAssessment
  split
  · rename_i both
    constructor
    · intro refused
      cases refused
    · intro neither
      exact absurd both neither
  · rename_i neither
    exact ⟨fun _ => neither, fun _ => rfl⟩

namespace TrainingStep
variable {Uuid : Type}

/-- A step no member may record for themselves while it wants a judgement by somebody else. -/
def Exclusive (step : TrainingStep Uuid) : Prop := ¬(step.selfAttestable = true ∧ step.requiresAssessment = true)

end TrainingStep

namespace UpdateTrainingStep
variable {Uuid : Type}

def set (changes : UpdateTrainingStep) (step : TrainingStep Uuid) : TrainingStep Uuid where
  toolId := step.toolId
  stepNumber := step.stepNumber
  trainingMaterialsUrl := changes.trainingMaterialsUrl.or step.trainingMaterialsUrl
  requiresAssessment := changes.requiresAssessment.getD step.requiresAssessment
  expiresAfterDays := changes.expiresAfterDays.or step.expiresAfterDays
  selfAttestable := changes.selfAttestable.getD step.selfAttestable

/-- The handler's check, against the row as it will be. -/
def check (payload : UpdateTrainingStep) (existing : TrainingStep Uuid) : Except ApiError Unit :=
  rejectSelfAttestableAssessment (some (payload.selfAttestable.getD existing.selfAttestable))
    (some (payload.requiresAssessment.getD existing.requiresAssessment))

theorem check_eq_ok {payload : UpdateTrainingStep} {existing : TrainingStep Uuid} :
    payload.check existing = .ok () ↔ (payload.set existing).Exclusive := by
  unfold check
  rw [rejectSelfAttestableAssessment_eq_ok]
  simp only [Option.some.injEq, TrainingStep.Exclusive, set]

end UpdateTrainingStep

/-- The statements that change a training table, each run as one. -/
inductive TrainingWrite (Uuid : Type)
  | createStep (id : Uuid) (step : CreateTrainingStepRequest Uuid)
  | updateStep (stepId : Uuid) (changes : UpdateTrainingStep)
  | complete (clock : Readings) (userId : Uuid) (request : CompleteTrainingRequest Uuid)
    (step : Option (TrainingStep Uuid))

namespace TrainingTables
variable {Uuid : Type} [DecidableEq Uuid]

/-- The insert of a step. A flag it leaves out takes the column's default. -/
def createTrainingStep (db : TrainingTables Uuid) (id : Uuid) (step : CreateTrainingStepRequest Uuid) :
    Except DbError (TrainingTables Uuid) :=
  if step.stepNumber ≤ 0 then .error .checkViolation
  else if (db.steps.lookup id).isSome ∨
      db.steps.entries.any fun other => other.2.toolId = step.toolId && other.2.stepNumber = step.stepNumber then
    .error .uniqueViolation
  else if step.toolId ∉ db.tools then .error .foreignKeyViolation
  else
    .ok { db with
      steps := db.steps.insert id
        ⟨step.toolId, step.stepNumber, step.trainingMaterialsUrl, step.requiresAssessment.getD false,
          step.expiresAfterDays, step.selfAttestable.getD false⟩ }

def updateTrainingStep (db : TrainingTables Uuid) (stepId : Uuid) (changes : UpdateTrainingStep) :
    Except DbError (TrainingTables Uuid) :=
  match db.getTrainingStepById stepId with
  | none => .error .notFound
  | some step => .ok { db with steps := db.steps.insert stepId (changes.set step) }

def attempt (db : TrainingTables Uuid) : TrainingWrite Uuid → Except DbError (TrainingTables Uuid)
  | .createStep id step => db.createTrainingStep id step
  | .updateStep stepId changes => db.updateTrainingStep stepId changes
  | .complete clock userId request step => db.completeRow clock userId request step

/-- A statement that is refused changes nothing. -/
def perform (db : TrainingTables Uuid) (change : TrainingWrite Uuid) : TrainingTables Uuid × Except DbError Unit :=
  match db.attempt change with
  | .ok after => (after, .ok ())
  | .error e => (db, .error e)

/-- No step is both self-attestable and assessed. -/
def Exclusive (db : TrainingTables Uuid) : Prop := ∀ id step, db.getTrainingStepById id = some step → step.Exclusive

end TrainingTables

inductive TrainingRequest (Uuid : Type)
  | createTrainingStep (id : Uuid) (payload : CreateTrainingStepRequest Uuid)
  | updateTrainingStep (stepId : Uuid) (payload : UpdateTrainingStep)
  | completeTrainingSession (caller target : Uuid) (payload : CompleteTrainingRequest Uuid) (clock : Readings)

/-- Who holds `training.certify`, and who is a certified instructor of which step. -/
structure TrainingAuthority (Uuid : Type) where
  certifies : Uuid → Bool
  instructs : Uuid → Uuid → Bool

namespace TrainingAuthority
variable {Uuid : Type} [DecidableEq Uuid] (authority : TrainingAuthority Uuid)

def covers (caller stepId : Uuid) : Bool := authority.certifies caller || authority.instructs caller stepId

/-- The three gates of a completion, and what an attestation may not carry. -/
def mayComplete (caller target : Uuid) (payload : CompleteTrainingRequest Uuid) (step : TrainingStep Uuid) :
    Except ApiError Unit :=
  let isSelfAttestation := step.selfAttestable && decide (caller = target)
  if !(authority.covers caller payload.trainingStepId || isSelfAttestation) then
    .error (.forbidden "Cannot complete training session")
  else if isSelfAttestation && payload.assessmentScore.isSome then
    .error (.badRequest "A self-service confirmation cannot carry an assessment score")
  else if isSelfAttestation && !payload.passed then
    .error (.badRequest "A self-service confirmation cannot be recorded as not passed")
  else .ok ()

end TrainingAuthority

abbrev TrainingRoutine (Uuid : Type) :=
  Routine (TrainingTables Uuid) (TrainingWrite Uuid) (Except DbError Unit) (Except ApiError Unit)

namespace TrainingRequest
variable {Uuid : Type} [DecidableEq Uuid] (authority : TrainingAuthority Uuid)

def answer (reply : Except DbError Unit) : TrainingRoutine Uuid := .done (reply.mapError .ofDb)

def createStep (id : Uuid) (payload : CreateTrainingStepRequest Uuid) : TrainingRoutine Uuid :=
  match rejectSelfAttestableAssessment payload.selfAttestable payload.requiresAssessment with
  | .error e => .done (.error e)
  | .ok () => .write (.createStep id payload) answer

def updateStep (stepId : Uuid) (payload : UpdateTrainingStep) : TrainingRoutine Uuid :=
  .read fun db =>
    match db.getTrainingStepById stepId with
    | none => .done (.error (.notFound "Training step not found"))
    | some existing =>
      match payload.check existing with
      | .error e => .done (.error e)
      | .ok () => .write (.updateStep stepId payload) answer

def completeSession (caller target : Uuid) (payload : CompleteTrainingRequest Uuid) (clock : Readings) :
    TrainingRoutine Uuid :=
  .read fun db =>
    match db.getTrainingStepById payload.trainingStepId with
    | none => .done (.error (.notFound "Training step not found"))
    | some step =>
      match authority.mayComplete caller target payload step with
      | .error e => .done (.error e)
      -- The same row is loaded again for the expiry and the acknowledged URL.
      | .ok () => .read fun db =>
          .write (.complete clock target payload (db.getTrainingStepById payload.trainingStepId)) answer

def serve : TrainingRequest Uuid → TrainingRoutine Uuid
  | .createTrainingStep id payload => createStep id payload
  | .updateTrainingStep stepId payload => updateStep stepId payload
  | .completeTrainingSession caller target payload clock => completeSession authority caller target payload clock

/-- The changes a request may make. -/
def Allowed : TrainingRequest Uuid → TrainingWrite Uuid → Prop
  | .createTrainingStep id payload, change =>
    change = .createStep id payload ∧
      rejectSelfAttestableAssessment payload.selfAttestable payload.requiresAssessment = .ok ()
  | .updateTrainingStep stepId payload, change => change = .updateStep stepId payload
  | .completeTrainingSession _ target payload clock, change => ∃ step, change = .complete clock target payload step

theorem serve_meets (request : TrainingRequest Uuid) :
    (request.serve authority).Meets (fun _ => True) request.Allowed fun _ => True := by
  cases request with
  | createTrainingStep id payload =>
    have shape : (createStep id payload).Meets (fun _ => True) (Allowed (.createTrainingStep id payload))
        fun _ => True := by
      unfold createStep
      split
      · trivial
      · rename_i passes
        exact ⟨⟨rfl, passes⟩, fun _ => trivial⟩
    exact shape
  | updateTrainingStep stepId payload =>
    intro db _
    dsimp only
    split
    · trivial
    · split
      · trivial
      · exact ⟨rfl, fun _ => trivial⟩
  | completeTrainingSession caller target payload clock =>
    intro db _
    dsimp only
    split
    · trivial
    · split
      · trivial
      · exact fun _ _ => ⟨⟨_, rfl⟩, fun _ => trivial⟩

end TrainingRequest

namespace TrainingTables
variable {Uuid : Type} [DecidableEq Uuid] {db after : TrainingTables Uuid}

theorem exclusive_insert (exclusive : db.Exclusive) (id : Uuid) (step : TrainingStep Uuid) :
    ({ db with steps := db.steps.insert id step } : TrainingTables Uuid).Exclusive ↔ step.Exclusive := by
  constructor
  · intro all
    exact all id step (AList.lookup_insert db.steps)
  · intro here other found there
    by_cases same : other = id
    · subst same
      obtain rfl := Option.some.inj ((AList.lookup_insert db.steps).symm.trans there)
      exact here
    · exact exclusive other found ((AList.lookup_insert_ne same).symm.trans there)

theorem completeRow_steps {clock : Readings} {userId : Uuid} {request : CompleteTrainingRequest Uuid}
    {step : Option (TrainingStep Uuid)} (ran : db.completeRow clock userId request step = .ok after) :
    after.steps = db.steps := by
  unfold completeRow updateRow at ran
  dsimp only at ran
  split at ran
  · cases ran
  · rw [writeRow_eq_ok ran]

theorem exclusive_congr (same : after.steps = db.steps) : after.Exclusive ↔ db.Exclusive := by
  unfold Exclusive getTrainingStepById
  rw [same]

/-- A step is created exclusive if its request passed the check: an omitted flag is off. -/
theorem exclusive_of_createTrainingStep (exclusive : db.Exclusive) {id : Uuid} {step : CreateTrainingStepRequest Uuid}
    (passes : rejectSelfAttestableAssessment step.selfAttestable step.requiresAssessment = .ok ())
    (ran : db.createTrainingStep id step = .ok after) : after.Exclusive := by
  unfold createTrainingStep at ran
  split at ran
  · cases ran
  · split at ran
    · cases ran
    · split at ran
      · cases ran
      · obtain rfl := Except.ok.inj ran
        have neither := rejectSelfAttestableAssessment_eq_ok.mp passes
        refine (exclusive_insert exclusive _ _).mpr ?_
        rintro ⟨attests, assessed⟩
        refine neither ⟨?_, ?_⟩
        · cases flag : step.selfAttestable with
          | none => simp [flag] at attests
          | some value => simpa [flag] using attests
        · cases flag : step.requiresAssessment with
          | none => simp [flag] at assessed
          | some value => simpa [flag] using assessed

end TrainingTables

section Service
variable {Uuid : Type} [DecidableEq Uuid] (authority : TrainingAuthority Uuid)

/-- The step editor and the completions, over the training tables. -/
def trainingService :
    Service (TrainingTables Uuid) (TrainingWrite Uuid) (Except DbError Unit) (Except ApiError Unit)
      (TrainingRequest Uuid) where
  perform := TrainingTables.perform
  serve := TrainingRequest.serve authority

abbrev TrainingPool (Uuid : Type) :=
  Service.Pool (TrainingTables Uuid) (TrainingWrite Uuid) (Except DbError Unit) (Except ApiError Unit)
    (TrainingRequest Uuid)

/-- The row of the step that an edit changes, or that a completion is of, is the same. -/
def TrainingWrite.SameStep (change : TrainingWrite Uuid) (t db : TrainingTables Uuid) : Prop :=
  match change with
  | .createStep _ _ => True
  | .updateStep stepId _ => t.getTrainingStepById stepId = db.getTrainingStepById stepId
  | .complete _ _ request _ =>
    t.getTrainingStepById request.trainingStepId = db.getTrainingStepById request.trainingStepId

instance (change : TrainingWrite Uuid) (t db : TrainingTables Uuid) : Decidable (change.SameStep t db) :=
  match change with
  | .createStep _ _ => .isTrue trivial
  | .updateStep _ _ => inferInstanceAs (Decidable (_ = _))
  | .complete _ _ _ _ => inferInstanceAs (Decidable (_ = _))

/-- The step is where a change lands as its request has found it each time. -/
def TrainingWrite.Undisturbed (change : TrainingWrite Uuid)
    (trail : Routine.Trail (TrainingTables Uuid) (TrainingWrite Uuid)) (db : TrainingTables Uuid) : Prop :=
  ∀ t ∈ Routine.Trail.found trail, change.SameStep t db

instance (trail : Routine.Trail (TrainingTables Uuid) (TrainingWrite Uuid)) (db : TrainingTables Uuid)
    (change : TrainingWrite Uuid) : Decidable (change.Undisturbed trail db) :=
  inferInstanceAs (Decidable (∀ t ∈ _, change.SameStep t db))

/-- An edit passes its check against the step as it is when the edit lands. -/
def TrainingRequest.EditStands (db : TrainingTables Uuid) : TrainingRequest Uuid → Prop
  | .updateTrainingStep stepId payload =>
    ∀ step, db.getTrainingStepById stepId = some step → payload.check step = .ok ()
  | _ => True

/-- A completion without authority over the step lands while the step is self-attestable. -/
def TrainingRequest.AttestationStands (db : TrainingTables Uuid) : TrainingRequest Uuid → Prop
  | .completeTrainingSession caller _ payload _ =>
    authority.covers caller payload.trainingStepId = false →
      ∀ step, db.getTrainingStepById payload.trainingStepId = some step → step.selfAttestable = true
  | _ => True

theorem selfAttestable_of_mayComplete {authority : TrainingAuthority Uuid} {caller target : Uuid}
    {payload : CompleteTrainingRequest Uuid} {step : TrainingStep Uuid}
    (passes : authority.mayComplete caller target payload step = .ok ())
    (without : authority.covers caller payload.trainingStepId = false) : step.selfAttestable = true := by
  by_contra unattested
  simp [TrainingAuthority.mayComplete, without, unattested] at passes

/-- What a request has checked still stands where its change lands, if the step is as it has found it. -/
theorem TrainingRequest.serve_minds (request : TrainingRequest Uuid) :
    (request.serve authority).Minds TrainingTables.perform (fun _ => True) (fun trail db change =>
      change.Undisturbed trail db → request.EditStands db ∧ request.AttestationStands authority db) [] := by
  cases request with
  | createTrainingStep id payload =>
    show (createStep id payload).Minds _ _ _ _
    unfold createStep
    split
    · trivial
    · exact fun db _ => ⟨fun _ => ⟨trivial, trivial⟩, trivial⟩
  | updateTrainingStep stepId payload =>
    intro t _
    dsimp only
    split
    · trivial
    next existing found =>
      split
      · trivial
      next passes =>
        refine fun db _ => ⟨fun same => ⟨fun step there => ?_, trivial⟩, trivial⟩
        have asFound : t.getTrainingStepById stepId = db.getTrainingStepById stepId :=
          same t (List.mem_singleton_self _)
        obtain rfl := Option.some.inj (found.symm.trans (asFound.trans there))
        exact passes
  | completeTrainingSession caller target payload clock =>
    intro t _
    dsimp only
    split
    · trivial
    next existing found =>
      split
      · trivial
      next passes =>
        refine fun again _ db _ => ⟨fun same => ⟨trivial, fun without step there => ?_⟩, trivial⟩
        have asFound : t.getTrainingStepById payload.trainingStepId = db.getTrainingStepById payload.trainingStepId :=
          same t (List.mem_cons_self ..)
        obtain rfl := Option.some.inj (found.symm.trans (asFound.trans there))
        exact selfAttestable_of_mayComplete passes without

def EditStands (pool : TrainingPool Uuid) (event : Service.Event (TrainingRequest Uuid)) : Prop :=
  ∀ performed, ((trainingService authority).step pool event).2 = some performed →
    performed.request.EditStands pool.state

/-- A member without authority over a step that requires an assessment at that moment has
their own completion of it written. -/
def SelfCertifies (pool : TrainingPool Uuid) (event : Service.Event (TrainingRequest Uuid)) : Prop :=
  ∃ performed caller payload clock step, ((trainingService authority).step pool event).2 = some performed ∧
    performed.request = .completeTrainingSession caller caller payload clock ∧
    authority.covers caller payload.trainingStepId = false ∧
    pool.state.getTrainingStepById payload.trainingStepId = some step ∧ step.requiresAssessment = true ∧
    (((trainingService authority).step pool event).1.state.progress (caller, payload.trainingStepId)).any
      (fun row => row.status = .completed) = true

/-- Exclusive tables stay so at a step exactly when the edit that lands at it passes its check there. -/
theorem exclusive_step_iff {pool : TrainingPool Uuid} (exclusive : pool.state.Exclusive)
    (confined : Service.Confined TrainingRequest.Allowed pool) (event : Service.Event (TrainingRequest Uuid)) :
    ((trainingService authority).step pool event).1.state.Exclusive ↔ EditStands authority pool event := by
  rcases Service.step_state (trainingService authority) pool event with ⟨silent, same⟩ | ⟨performed, made, state⟩
  · rw [same]
    refine iff_of_true exclusive ?_
    intro performed made
    cases silent.symm.trans made
  · have allowed := confined.allowed_of_performed made
    have stands : EditStands authority pool event ↔ performed.request.EditStands pool.state := by
      constructor
      · intro all
        exact all performed made
      · intro here other also
        obtain rfl := Option.some.inj (made.symm.trans also)
        exact here
    rw [stands, state]
    change (pool.state.perform performed.change).1.Exclusive ↔ _
    unfold TrainingTables.perform
    generalize performed.request = request at allowed
    generalize performed.change = change at allowed
    cases request with
    | createTrainingStep id payload =>
      obtain ⟨rfl, passes⟩ := allowed
      refine iff_of_true ?_ trivial
      split
      · rename_i after ran
        exact TrainingTables.exclusive_of_createTrainingStep exclusive passes ran
      · exact exclusive
    | updateTrainingStep stepId payload =>
      obtain rfl := allowed
      cases found : pool.state.getTrainingStepById stepId with
      | none =>
        have refused : pool.state.attempt (.updateStep stepId payload) = .error .notFound := by
          simp only [TrainingTables.attempt, TrainingTables.updateTrainingStep, found]
        rw [refused]
        refine iff_of_true exclusive ?_
        intro step there
        cases found.symm.trans there
      | some step =>
        have wrote : pool.state.attempt (.updateStep stepId payload) =
            .ok { pool.state with steps := pool.state.steps.insert stepId (payload.set step) } := by
          simp only [TrainingTables.attempt, TrainingTables.updateTrainingStep, found]
        rw [wrote]
        refine (TrainingTables.exclusive_insert exclusive stepId (payload.set step)).trans ?_
        rw [← UpdateTrainingStep.check_eq_ok]
        constructor
        · intro passes other there
          obtain rfl := Option.some.inj (found.symm.trans there)
          exact passes
        · intro all
          exact all step found
    | completeTrainingSession caller target payload clock =>
      obtain ⟨step, rfl⟩ := allowed
      refine iff_of_true ?_ trivial
      split
      · rename_i after ran
        exact (TrainingTables.exclusive_congr (TrainingTables.completeRow_steps ran)).mpr exclusive
      · exact exclusive

/-- While no step's row changes between what a request finds of it and the change it makes, no step is ever both
self-attestable and assessed, and nobody certifies themselves. -/
theorem nobody_self_certifies {db : TrainingTables Uuid} (start : db.Exclusive)
    (schedule : List (Service.Event (TrainingRequest Uuid)))
    (inTurn : EveryStep ((trainingService authority).InTurn (fun _ trail db change => change.Undisturbed trail db) db)
      schedule) :
    let m := (trainingService authority).machine db
    (∀ past, past <+: schedule → (m.run past).state.Exclusive) ∧
      EveryStep (fun past event => ¬ SelfCertifies authority (m.run past) event) schedule := by
  intro m
  have confined := Service.confined_run (trainingService authority) (TrainingRequest.serve_meets authority) db
  have stands := Service.good_of_inTurn (fun request db _ => request.EditStands db ∧
    request.AttestationStands authority db) (fun _ _ => trivial) (TrainingRequest.serve_minds authority) inTurn
  have edits : EveryStep (fun past event => EditStands authority (m.run past) event) schedule :=
    fun past event later split performed made => (stands past event later split performed made).1
  have always : ∀ past, past <+: schedule → (m.run past).state.Exclusive := by
    refine (Machine.run_always_iff m (fun pool => pool.state.Exclusive)
      (EditStands authority) start ?_ schedule).mpr edits
    intro past event exclusive
    exact exclusive_step_iff authority exclusive (confined past) event
  refine ⟨always, ?_⟩
  rintro past event later split ⟨performed, caller, payload, clock, step, made, asked, without, found, assessed, -⟩
  have attests := (stands past event later split performed made).2
  rw [asked] at attests
  exact always past ⟨event :: later, split.symm⟩ payload.trainingStepId step found
    ⟨attests without step found, assessed⟩

section
/-- One step, neither self-attestable nor assessed, and a member who has begun it. -/
def plainStep : TrainingTables Nat :=
  ⟨[2], [7], .singleton 1 ⟨7, 1, none, false, none, false⟩,
    Table.empty.insert (2, 1) ⟨.inProgress, none, some 0, none, none, none, none, none⟩⟩

def noAuthority : TrainingAuthority Nat := ⟨fun _ => false, fun _ _ => false⟩

theorem plainStep_exclusive : plainStep.Exclusive := by
  intro id step found
  have member : (⟨id, step⟩ : Sigma fun _ : Nat => TrainingStep Nat) ∈ plainStep.steps.entries :=
    AList.mem_lookup_iff.mp found
  obtain ⟨rfl, rfl⟩ := Sigma.mk.inj (List.mem_singleton.mp member)
  rintro ⟨attests, -⟩
  cases attests

/-- Two edits of one flag each, both checked before either is written. -/
def crossedEdits : List (Service.Event (TrainingRequest Nat)) :=
  [.arrive (.updateTrainingStep 1 ⟨none, none, none, some true⟩),
    .arrive (.updateTrainingStep 1 ⟨none, some true, none, none⟩), .step 0, .step 1, .step 0, .step 1]

theorem crossedEdits_not_exclusive :
    ¬(((trainingService noAuthority).machine plainStep).run crossedEdits).state.Exclusive := by
  intro exclusive
  have both : (((trainingService noAuthority).machine plainStep).run crossedEdits).state.getTrainingStepById 1 =
    some ⟨7, 1, none, true, none, true⟩ := rfl
  exact exclusive 1 _ both ⟨rfl, rfl⟩

/-- The member then completes the step for themselves. -/
def attesting : List (Service.Event (TrainingRequest Nat)) :=
  [.arrive (.completeTrainingSession 2 2 ⟨1, none, true, none⟩ ⟨40, 40, 40⟩), .step 2, .step 2]

/-- The same two edits, one after the other, and then the member: the second edit is refused, and the step may be
attested. -/
theorem edits_in_turn_certify_nobody :
    let m := (trainingService noAuthority).machine plainStep
    let inTurn := [.arrive (.updateTrainingStep 1 ⟨none, none, none, some true⟩), .step 0, .step 0,
      .arrive (.updateTrainingStep 1 ⟨none, some true, none, none⟩), .step 1, .step 1] ++ attesting ++ [.step 2]
    (∀ past, past <+: inTurn → (m.run past).state.Exclusive) ∧
      EveryStep (fun past event => ¬ SelfCertifies noAuthority (m.run past) event) inTurn :=
  nobody_self_certifies noAuthority plainStep_exclusive _ (EveryStep.of_getElem (by decide))

theorem crossed_edits_self_certified :
    let m := (trainingService noAuthority).machine plainStep
    plainStep.Exclusive ∧ ¬(m.run crossedEdits).state.Exclusive ∧
      SelfCertifies noAuthority (m.run (crossedEdits ++ attesting)) (.step 2) :=
  ⟨plainStep_exclusive, crossedEdits_not_exclusive, _, 2, ⟨1, none, true, none⟩, ⟨40, 40, 40⟩,
    ⟨7, 1, none, true, none, true⟩, rfl, rfl, rfl, rfl, rfl, rfl⟩

end

end Service

end CoopSpaces

import CoopSpaces.Cmi5.Accepted

namespace CoopSpaces.Cmi5

section Grants
variable {Uuid Float Json : Type} [DecidableEq Uuid] [IdText Uuid] [LT Float] [DecidableLT Float]

/-- The statements stored for a registration satisfy its AU, on a Normal launch of an AU
that a step is mapped to. -/
def StatementStore.Earned (lrs : Lrs Uuid Float Json) (s : StatementStore Uuid Float Json) (r : Uuid) : Prop :=
  ∃ session au moveOn, s.resolveSession r = some session ∧ session.launchMode = "Normal" ∧
    s.units session.auId = some au ∧ au.trainingStepId.isSome = true ∧ MoveOn.parse au.moveOn = .ok moveOn ∧
      evaluateMoveOn moveOn (lrs.outcomeOf (s.rowsOf r)) = true

def StatementStore.satisfied (s : StatementStore Uuid Float Json) (r : Uuid) : Bool :=
  (s.registrations r).any fun registration => registration.satisfiedAt.isSome

/-- A registration as its launch leaves it. The step an AU is mapped to exists. -/
structure Launched (lrs : Lrs Uuid Float Json) (s : StatementStore Uuid Float Json) (r : Uuid) : Prop where
  session : ∃ session, s.resolveSession r = some session
  unsatisfied : s.satisfied r = false
  ungranted : s.grants.count r = 0
  issued : ∀ row ∈ s.rowsOf r, lrs.IssuedByLms row
  mapped : ∀ au stepId, (∃ id, s.units id = some au) → au.trainingStepId = some stepId →
    (s.training.getTrainingStepById stepId).isSome = true

abbrev StatementPool (Uuid Float Json : Type) : Type :=
  Service.Pool (StatementStore Uuid Float Json) (StatementChange Uuid Json) (Except DbError Unit)
    (Except (Cmi5Error Float) (Option (GrantInfo Uuid))) (Post Uuid Json)

/-- The routine's next change is the completion of a step for the registration. -/
def grantsFor (r : Uuid) (routine : StatementRoutine Uuid Float Json) : Bool :=
  match routine.pending with
  | some (.completeStep registrationId ..) => registrationId = r
  | _ => false

def marksFor (r : Uuid) (routine : StatementRoutine Uuid Float Json) : Bool :=
  match routine.pending with
  | some (.markSatisfied registrationId ..) => registrationId = r
  | _ => false

/-- The call was one on the registration, and returned a grant. -/
def returnedGrant (r : Uuid) (task : Post Uuid Json × StatementRoutine Uuid Float Json) : Bool :=
  decide (task.1.session.registrationId = r) &&
    match task.2.answered with
    | some (.ok (some _)) => true
    | _ => false

/-- A change lands as its call expects: a statement where its call's replay and the statements
stored, in the order they were accepted, come to the same; a completion on a member and a
row that admit it. -/
def StatementChange.Lands (lrs : Lrs Uuid Float Json) (r : Uuid) (s : StatementStore Uuid Float Json) :
    StatementChange Uuid Json → Prop
  | .storeStatement row replayed => row.registrationId = r → lrs.replay replayed = lrs.replay (s.rowsOf r)
  | .completeStep registrationId userId stepId clock notes =>
    registrationId = r → (s.training.recordStepCompletion clock userId stepId userId "completed" notes).isOk = true
  | .markSatisfied .. => True

variable {lrs : Lrs Uuid Float Json} {r : Uuid}

instance (s : StatementStore Uuid Float Json) (change : StatementChange Uuid Json) :
    Decidable (change.Lands lrs r s) :=
  match change with
  | .storeStatement .. => inferInstanceAs (Decidable (_ → _))
  | .completeStep .. => inferInstanceAs (Decidable (_ → _))
  | .markSatisfied .. => .isTrue trivial

/-- No call finds the registration unsatisfied while another that found it so is still to
record that it is. -/
def FindsAlone (r : Uuid) (pool : StatementPool Uuid Float Json) : Service.Event (Post Uuid Json) → Prop
  | .arrive _ => True
  | .step index =>
    ∀ task ∈ pool.tasks[index]?, task.2.pending.isNone = true →
      grantsFor r (task.2.advance StatementStore.perform pool.state).2 = true →
        ∀ other ∈ pool.tasks, grantsFor r other.2 = false ∧ marksFor r other.2 = false

instance (pool : StatementPool Uuid Float Json) (event : Service.Event (Post Uuid Json)) :
    Decidable (FindsAlone r pool event) :=
  match event with
  | .arrive _ => .isTrue trivial
  | .step _ => inferInstanceAs (Decidable (∀ task ∈ _, _))

/-- Where a call on a statement can be, on its way through its reads and changes. -/
inductive Phase (lrs : Lrs Uuid Float Json) (units : Table Uuid (Cmi5AssignableUnit Uuid Float))
    (post : Post Uuid Json) :
    StatementRoutine Uuid Float Json → Prop
  | begun : Phase lrs units post (recordStatement lrs post)
  | replaying (au : Cmi5AssignableUnit Uuid Float) (stmt : Statement Uuid Float)
    (reads : lrs.fromValue post.raw = .ok stmt)
      (known : units post.session.auId = some au) : Phase lrs units post (replayPrior lrs post au stmt)
  | storing (au : Cmi5AssignableUnit Uuid Float) (stmt : Statement Uuid Float)
    (prior : List (Cmi5StatementRow Uuid Json))
      (machine : SessionState) (reads : lrs.fromValue post.raw = .ok stmt) (known : units post.session.auId = some au)
      (applied : (lrs.replay prior).apply stmt = .ok machine) :
      Phase lrs units post (storeStatement lrs post au stmt prior machine)
  | crediting (au : Cmi5AssignableUnit Uuid Float) (stepId : Uuid) (stmt : Statement Uuid Float)
    (outcome : SessionOutcome)
      (known : units post.session.auId = some au) (mapped : au.trainingStepId = some stepId) :
      Phase lrs units post (readRegistration lrs post au stepId stmt outcome)
  | granting (au : Cmi5AssignableUnit Uuid Float) (stepId toolId : Uuid) (stmt : Statement Uuid Float)
    (outcome : SessionOutcome) :
      Phase lrs units post (grantStep lrs post au stepId toolId stmt outcome)
  | marking (stepId toolId : Uuid) (stmt : Statement Uuid Float) (outcome : SessionOutcome) :
      Phase lrs units post (markingSatisfied lrs post stepId toolId stmt outcome)
  | answered (answer : Except (Cmi5Error Float) (Option (GrantInfo Uuid))) : Phase lrs units post (.done answer)

/-- The call is about to read whether the registration is satisfied. -/
def Crediting (lrs : Lrs Uuid Float Json) (units : Table Uuid (Cmi5AssignableUnit Uuid Float)) (r : Uuid)
    (task : Post Uuid Json × StatementRoutine Uuid Float Json) : Prop :=
  task.1.session.registrationId = r ∧ ∃ au stepId stmt outcome,
    task.2 = readRegistration lrs task.1 au stepId stmt outcome ∧ units task.1.session.auId = some au ∧
      au.trainingStepId = some stepId

variable {units : Table Uuid (Cmi5AssignableUnit Uuid Float)} {post : Post Uuid Json}
  {s t : StatementStore Uuid Float Json} {au : Cmi5AssignableUnit Uuid Float} {stmt : Statement Uuid Float}
  {routine : StatementRoutine Uuid Float Json}

omit [IdText Uuid] [LT Float] [DecidableLT Float] in
/-- What a stored statement leaves to do: nothing, or to read the registration if its
outcome satisfies the AU. -/
theorem credit_cases (lrs : Lrs Uuid Float Json) (post : Post Uuid Json) (au : Cmi5AssignableUnit Uuid Float)
    (stmt : Statement Uuid Float) (outcome : SessionOutcome) :
    (∃ answer, credit lrs post au stmt outcome = .done answer ∧ (∀ info, answer ≠ .ok (some info)) ∧
        ∀ moveOn, post.session.launchMode = "Normal" → au.trainingStepId.isSome = true →
          MoveOn.parse au.moveOn = .ok moveOn → evaluateMoveOn moveOn outcome = false) ∨
      ∃ stepId moveOn, credit lrs post au stmt outcome = readRegistration lrs post au stepId stmt outcome ∧
        au.trainingStepId = some stepId ∧ post.session.launchMode = "Normal" ∧ MoveOn.parse au.moveOn = .ok moveOn ∧
          evaluateMoveOn moveOn outcome = true := by
  unfold credit
  rcases parsed : MoveOn.parse au.moveOn with failure | moveOn
  · exact .inl ⟨_, rfl, fun _ given => (nomatch given), fun moveOn _ _ other => nomatch other⟩
  · dsimp only
    split
    · rename_i short
      refine .inl ⟨_, rfl, fun _ given => (nomatch given), fun moveOn' normal _ same => ?_⟩
      obtain rfl := Except.ok.inj same
      exact short.resolve_left fun other => other normal
    · rename_i long
      rcases mapped : au.trainingStepId with _ | stepId
      · exact .inl ⟨_, rfl, fun _ given => (nomatch given), fun _ _ none_ _ => nomatch none_⟩
      · have normal : post.session.launchMode = "Normal" := not_not.mp fun other => long (.inl other)
        have satisfies : evaluateMoveOn moveOn outcome = true := by
          rw [← Bool.not_eq_false]
          exact fun other => long (.inr other)
        exact .inr ⟨stepId, moveOn, rfl, rfl, normal, rfl, satisfies⟩

omit [IdText Uuid] [LT Float] [DecidableLT Float] in
theorem perform_storeStatement (s : StatementStore Uuid Float Json) (row : Cmi5StatementRow Uuid Json)
    (replayed : List (Cmi5StatementRow Uuid Json)) :
    (∃ error, s.perform (.storeStatement row replayed) = (s, .error error)) ∨
      s.perform (.storeStatement row replayed) = ({ s with statements := s.statements ++ [row] }, .ok ()) := by
  unfold StatementStore.perform
  dsimp only
  split
  · exact .inl ⟨_, rfl⟩
  · split
    · exact .inl ⟨_, rfl⟩
    · exact .inr rfl

omit [IdText Uuid] [LT Float] [DecidableLT Float] in
theorem recordStepCompletion_steps {db after : TrainingTables Uuid} {clock : Readings} {user step instructor : Uuid}
    {status : String} {notes : Option String}
    (ran : db.recordStepCompletion clock user step instructor status notes = .ok after) :
    after.steps = db.steps := by
  unfold TrainingTables.recordStepCompletion at ran
  dsimp only at ran
  split at ran <;> split at ran
  · cases ran
  · rw [TrainingTables.writeRow_eq_ok ran]
  · cases ran
  · rw [TrainingTables.writeRow_eq_ok ran]

omit [IdText Uuid] [LT Float] [DecidableLT Float] in
theorem perform_completeStep (s : StatementStore Uuid Float Json) (registrationId userId stepId : Uuid)
    (clock : Readings)
    (notes : Option String) :
    (∃ error, s.training.recordStepCompletion clock userId stepId userId "completed" notes = .error error ∧
        s.perform (.completeStep registrationId userId stepId clock notes) = (s, .error error)) ∨
      ∃ training, training.steps = s.training.steps ∧
        s.perform (.completeStep registrationId userId stepId clock notes) =
        ({ s with training, grants := s.grants ++ [registrationId] }, .ok ()) := by
  unfold StatementStore.perform
  dsimp only
  rcases ran : s.training.recordStepCompletion clock userId stepId userId "completed" notes with error | training
  · exact .inl ⟨error, rfl, rfl⟩
  · exact .inr ⟨training, recordStepCompletion_steps ran, rfl⟩

omit [IdText Uuid] [LT Float] [DecidableLT Float] in
theorem perform_markSatisfied (s : StatementStore Uuid Float Json) (registrationId : Uuid) (now : Int)
    (outcome : SessionOutcome) :
    (s.registrations registrationId = none ∧ s.perform (.markSatisfied registrationId now outcome) = (s, .ok ())) ∨
      ∃ registration, s.registrations registrationId = some registration ∧
        s.perform (.markSatisfied registrationId now outcome) =
          ({ s with registrations := s.registrations.insert registrationId (registration.satisfied now outcome) },
            .ok ()) := by
  unfold StatementStore.perform
  dsimp only
  rcases found : s.registrations registrationId with _ | registration
  · exact .inl ⟨rfl, rfl⟩
  · exact .inr ⟨registration, rfl, rfl⟩

/-- The tables look the same to the calls on one registration. -/
structure SameFor (r : Uuid) (s t : StatementStore Uuid Float Json) : Prop where
  units : t.units = s.units
  steps : t.training.steps = s.training.steps
  rows : t.rowsOf r = s.rowsOf r
  registration : t.registrations r = s.registrations r
  grants : t.grants.count r = s.grants.count r

/-- The registration a change is made for. -/
def StatementChange.registrationId : StatementChange Uuid Json → Uuid
  | .storeStatement row _ => row.registrationId
  | .completeStep registrationId .. => registrationId
  | .markSatisfied registrationId .. => registrationId

namespace SameFor

omit [IdText Uuid] [LT Float] [DecidableLT Float]

theorem refl (r : Uuid) (s : StatementStore Uuid Float Json) : SameFor r s s := ⟨rfl, rfl, rfl, rfl, rfl⟩

/-- A change for one registration is none for another. -/
theorem perform (s : StatementStore Uuid Float Json) {change : StatementChange Uuid Json}
    (other : change.registrationId ≠ r) :
    SameFor r s (s.perform change).1 := by
  cases change with
  | storeStatement row replayed =>
    rcases perform_storeStatement s row replayed with ⟨error, made⟩ | made
    · rw [made]
      exact .refl r s
    · rw [made]
      have apart : row.registrationId ≠ r := other
      exact ⟨rfl, rfl, by simp [StatementStore.rowsOf, List.filter_append, apart], rfl, rfl⟩
  | completeStep registrationId userId stepId clock notes =>
    rcases perform_completeStep s registrationId userId stepId clock notes
      with ⟨error, -, made⟩ | ⟨training, steps, made⟩
    · rw [made]
      exact .refl r s
    · rw [made]
      have apart : registrationId ≠ r := other
      exact ⟨rfl, steps, rfl, rfl, by simp [List.count_append, apart]⟩
  | markSatisfied registrationId now outcome =>
    rcases perform_markSatisfied s registrationId now outcome with ⟨-, made⟩ | ⟨registration, -, made⟩
    · rw [made]
      exact .refl r s
    · rw [made]
      exact ⟨rfl, rfl, rfl, Table.insert_of_ne _ _ (Ne.symm other), rfl⟩

theorem resolveSession (same : SameFor r s t) : t.resolveSession r = s.resolveSession r := by
  unfold StatementStore.resolveSession
  rw [same.registration, same.units]

theorem satisfied (same : SameFor r s t) : t.satisfied r = s.satisfied r := by
  unfold StatementStore.satisfied
  rw [same.registration]

theorem earned (same : SameFor r s t) : t.Earned lrs r ↔ s.Earned lrs r := by
  unfold StatementStore.Earned
  rw [same.resolveSession, same.units, same.rows]

end SameFor

/-- A step of a call keeps it on its way. -/
theorem Phase.advance (phase : Phase lrs units post routine) (known : s.units = units) :
    Phase lrs units post (routine.advance StatementStore.perform s).2 := by
  cases phase with
  | begun =>
    unfold recordStatement
    rcases reads : lrs.fromValue post.raw with message | stmt
    · exact .answered _
    · dsimp only [Routine.advance]
      rcases there : s.units post.session.auId with _ | au
      · exact .answered _
      · dsimp only
        split
        · exact .answered _
        · split
          · exact .answered _
          · exact .replaying au stmt reads (known ▸ there)
  | replaying au stmt reads there =>
    dsimp only [replayPrior, Routine.advance]
    rcases applied : (lrs.replay (post.ordered (s.rowsOf post.session.registrationId))).apply stmt
      with violation | machine
    · exact .answered _
    · exact .storing au stmt _ machine reads there applied
  | storing au stmt prior machine reads there applied =>
    dsimp only [storeStatement, Routine.advance]
    rcases (s.perform (.storeStatement (post.row stmt) prior)).2 with error | _
    · exact .answered _
    · rcases credit_cases lrs post au stmt machine.outcome with ⟨answer, ends, -, -⟩ | ⟨stepId, _, goesOn, mapped, -⟩
      · dsimp only
        rw [ends]
        exact .answered _
      · dsimp only
        rw [goesOn]
        exact .crediting au stepId stmt machine.outcome there mapped
  | crediting au stepId stmt outcome there mapped =>
    dsimp only [readRegistration, Routine.advance]
    split
    · exact .answered _
    · split
      · exact .answered _
      · split
        · exact .answered _
        · exact .granting ..
  | granting au stepId toolId stmt outcome =>
    dsimp only [grantStep, Routine.advance]
    split
    · exact .answered _
    · exact .marking ..
  | marking stepId toolId stmt outcome =>
    dsimp only [markingSatisfied, Routine.advance]
    split
    · exact .answered _
    · exact .answered _
  | answered answer => exact .answered answer

omit [IdText Uuid] [LT Float] [DecidableLT Float] in
/-- No change of these moves a unit, a step, or whose registration one is. -/
theorem perform_keeps (s : StatementStore Uuid Float Json) (change : StatementChange Uuid Json) (r : Uuid) :
    (s.perform change).1.units = s.units ∧ (s.perform change).1.training.steps = s.training.steps ∧
      (s.perform change).1.resolveSession r = s.resolveSession r := by
  cases change with
  | storeStatement row replayed =>
    rcases perform_storeStatement s row replayed with ⟨error, made⟩ | made
    · rw [made]
      exact ⟨rfl, rfl, rfl⟩
    · rw [made]
      exact ⟨rfl, rfl, rfl⟩
  | completeStep registrationId userId stepId clock notes =>
    rcases perform_completeStep s registrationId userId stepId clock notes
      with ⟨error, -, made⟩ | ⟨training, steps, made⟩
    · rw [made]
      exact ⟨rfl, rfl, rfl⟩
    · rw [made]
      exact ⟨rfl, steps, rfl⟩
  | markSatisfied registrationId now outcome =>
    rcases perform_markSatisfied s registrationId now outcome with ⟨-, made⟩ | ⟨registration, found, made⟩
    · rw [made]
      exact ⟨rfl, rfl, rfl⟩
    · rw [made]
      refine ⟨rfl, rfl, ?_⟩
      simp only [StatementStore.resolveSession]
      by_cases here : r = registrationId
      · subst here
        rw [Table.insert_self, found]
        rfl
      · rw [Table.insert_of_ne _ _ here]

/-- The call makes no change for the registration next, and has returned no grant for it. -/
structure Idle (r : Uuid) (post : Post Uuid Json) (routine : StatementRoutine Uuid Float Json) : Prop where
  grants : grantsFor r routine = false
  marks : marksFor r routine = false
  returned : returnedGrant r (post, routine) = false

omit [IdText Uuid] [LT Float] [DecidableLT Float] in
theorem idle_read (next : StatementStore Uuid Float Json → StatementRoutine Uuid Float Json) :
    Idle r post (.read next) :=
  ⟨rfl, rfl, Bool.and_false _⟩

omit [IdText Uuid] [LT Float] [DecidableLT Float] in
theorem idle_done {answer : Except (Cmi5Error Float) (Option (GrantInfo Uuid))}
    (none_ : ∀ info, answer ≠ .ok (some info)) :
    Idle r post (.done answer : StatementRoutine Uuid Float Json) := by
  refine ⟨rfl, rfl, ?_⟩
  rcases answer with error | _ | info
  · exact Bool.and_false _
  · exact Bool.and_false _
  · exact absurd rfl (none_ info)

theorem idle_recordStatement (lrs : Lrs Uuid Float Json) (post : Post Uuid Json) (r : Uuid) :
    Idle r post (recordStatement lrs post) := by
  unfold recordStatement
  rcases lrs.fromValue post.raw with message | stmt
  · exact idle_done fun _ given => nomatch given
  · exact idle_read _

theorem Phase.idle_of_ne (phase : Phase lrs units post routine) (other : post.session.registrationId ≠ r) :
    Idle r post routine := by
  have elsewhere : decide (post.session.registrationId = r) = false := decide_eq_false other
  cases phase with
  | begun => exact idle_recordStatement lrs post r
  | replaying au stmt reads known => exact idle_read _
  | storing au stmt prior machine reads known applied => exact ⟨rfl, rfl, Bool.and_false _⟩
  | crediting au stepId stmt outcome known mapped => exact idle_read _
  | granting au stepId toolId stmt outcome => exact ⟨elsewhere, rfl, Bool.and_false _⟩
  | marking stepId toolId stmt outcome => exact ⟨rfl, elsewhere, Bool.and_false _⟩
  | answered answer =>
    refine ⟨rfl, rfl, ?_⟩
    rw [returnedGrant, elsewhere]
    exact Bool.false_and _

theorem Phase.pending_registrationId (phase : Phase lrs units post routine) {change : StatementChange Uuid Json}
    (next : routine.pending = some change) : change.registrationId = post.session.registrationId := by
  cases phase with
  | begun =>
    unfold recordStatement at next
    split at next
    · cases next
    · cases next
  | replaying au stmt reads known => cases next
  | storing au stmt prior machine reads known applied => rw [← Option.some.inj next]; rfl
  | crediting au stepId stmt outcome known mapped => cases next
  | granting au stepId toolId stmt outcome => rw [← Option.some.inj next]; rfl
  | marking stepId toolId stmt outcome => rw [← Option.some.inj next]; rfl
  | answered answer => cases next

theorem Phase.sameFor_of_ne (phase : Phase lrs units post routine) (other : post.session.registrationId ≠ r) :
    SameFor r s (routine.advance StatementStore.perform s).1 := by
  cases shape : routine with
  | done answer => exact .refl r s
  | read next => exact .refl r s
  | write change next =>
    have own : change.registrationId = post.session.registrationId := phase.pending_registrationId (shape ▸ rfl)
    exact .perform s (own ▸ other)

/-- The calls are on their way, and those on the registration are of its session. -/
structure Underway (lrs : Lrs Uuid Float Json) (start : StatementStore Uuid Float Json) (r : Uuid)
    (pool : StatementPool Uuid Float Json) : Prop where
  tasks : ∀ task ∈ pool.tasks, Phase lrs start.units task.1 task.2 ∧
    (task.1.session.registrationId = r → start.resolveSession r = some task.1.session)
  units : pool.state.units = start.units
  steps : pool.state.training.steps = start.training.steps
  session : pool.state.resolveSession r = start.resolveSession r

variable {start : StatementStore Uuid Float Json} {pool : StatementPool Uuid Float Json}

theorem Underway.step (underway : Underway lrs start r pool) (event : Service.Event (Post Uuid Json))
    (authentic : ∀ post, event = .arrive post → post.session.registrationId = r →
      start.resolveSession r = some post.session) :
    Underway lrs start r ((statementService lrs).step pool event).1 := by
  cases event with
  | arrive post =>
    refine ⟨(statementService lrs).all_tasks_arrive underway.tasks ⟨.begun, authentic post rfl⟩, ?_, ?_, ?_⟩
    · exact underway.units
    · exact underway.steps
    · exact underway.session
  | step index =>
    rcases found : pool.tasks[index]? with _ | ⟨post, routine⟩
    · rw [(statementService lrs).step_of_none found]
      exact underway
    · obtain ⟨phase, own⟩ := underway.tasks _ (List.mem_of_getElem? found)
      obtain ⟨state, -⟩ := (statementService lrs).tasks_step found
      have kept : (routine.advance StatementStore.perform pool.state).1.units = pool.state.units ∧
          (routine.advance StatementStore.perform pool.state).1.training.steps = pool.state.training.steps ∧
          (routine.advance StatementStore.perform pool.state).1.resolveSession r = pool.state.resolveSession r := by
        cases routine with
        | done answer => exact ⟨rfl, rfl, rfl⟩
        | read next => exact ⟨rfl, rfl, rfl⟩
        | write change next => exact perform_keeps pool.state change r
      refine ⟨(statementService lrs).all_tasks_step found underway.tasks ⟨phase.advance underway.units, own⟩,
        ?_, ?_, ?_⟩
      · rw [state]
        exact kept.1.trans underway.units
      · rw [state]
        exact kept.2.1.trans underway.steps
      · rw [state]
        exact kept.2.2.trans underway.session

/-- What every step of the kind keeps of calls under way is kept in every state of a run. -/
theorem Underway.run (Good : StatementPool Uuid Float Json → Prop)
    {law : StatementPool Uuid Float Json → Service.Event (Post Uuid Json) → Prop}
    {schedule : List (Service.Event (Post Uuid Json))}
    (authentic : ∀ post, .arrive post ∈ schedule → post.session.registrationId = r →
      start.resolveSession r = some post.session)
    (every : EveryStep (fun past event => law (((statementService lrs).machine start).run past) event) schedule)
    (atStart : Good ⟨start, []⟩) (kept : ∀ {pool event}, Underway lrs start r pool → Good pool → law pool event →
      Good ((statementService lrs).step pool event).1)
    {past : List (Service.Event (Post Uuid Json))} (front : past <+: schedule) :
    Underway lrs start r (((statementService lrs).machine start).run past) ∧
      Good (((statementService lrs).machine start).run past) := by
  have steps : EveryStep (fun past event => law (((statementService lrs).machine start).run past) event ∧
      ∀ post, event = .arrive post → post.session.registrationId = r →
        start.resolveSession r = some post.session) schedule := by
    rintro past event later rfl
    refine ⟨every past event later rfl, ?_⟩
    rintro post rfl
    exact authentic post (List.mem_append_right _ (List.mem_cons_self ..))
  have nobody : Underway lrs start r ⟨start, []⟩ := by
    refine ⟨?_, rfl, rfl, rfl⟩
    intro task member
    cases member
  exact Machine.run_keeps_past ((statementService lrs).machine start)
    (fun _ pool => Underway lrs start r pool ∧ Good pool)
    ⟨nobody, atStart⟩ (fun past event ⟨underway, good⟩ ⟨law, asked⟩ =>
      ⟨underway.step event asked, kept underway good law⟩) steps front

/-- The account of a registration: each completion written is marked or about to be, there is
one at most on its way or marked, and what is earned has not been lost sight of. -/
structure Accounted (lrs : Lrs Uuid Float Json) (launched : List (Cmi5StatementRow Uuid Json))
    (units : Table Uuid (Cmi5AssignableUnit Uuid Float)) (r : Uuid) (s : StatementStore Uuid Float Json)
    (tasks : List (Post Uuid Json × StatementRoutine Uuid Float Json)) : Prop where
  accepted : ∃ m, AcceptedInOrder lrs launched (s.rowsOf r) m
  written : s.grants.count r = tasks.countP (fun task => marksFor r task.2) + (s.satisfied r).toNat
  alone : tasks.countP (fun task => grantsFor r task.2) + tasks.countP (fun task => marksFor r task.2) +
    (s.satisfied r).toNat ≤ 1
  returned : tasks.countP (returnedGrant r) ≤ (s.satisfied r).toNat
  owed : s.Earned lrs r → 1 ≤ tasks.countP (fun task => grantsFor r task.2) +
    tasks.countP (fun task => marksFor r task.2) +
    (s.satisfied r).toNat ∨ ∃ task ∈ tasks, Crediting lrs units r task

/-- A call on the registration is about to store its statement, and what it has replayed is what was accepted. -/
structure Stores (lrs : Lrs Uuid Float Json) (units : Table Uuid (Cmi5AssignableUnit Uuid Float)) (r : Uuid)
    (s : StatementStore Uuid Float Json) (post : Post Uuid Json) (au : Cmi5AssignableUnit Uuid Float)
    (stmt : Statement Uuid Float) (prior : List (Cmi5StatementRow Uuid Json)) (machine : SessionState) : Prop where
  here : post.session.registrationId = r
  session : s.resolveSession r = some post.session
  known : units post.session.auId = some au
  same : s.units = units
  reads : lrs.fromValue post.raw = .ok stmt
  applied : (lrs.replay prior).apply stmt = .ok machine
  lands : lrs.replay prior = lrs.replay (s.rowsOf r)

section Stores
omit [IdText Uuid] [LT Float] [DecidableLT Float]

variable {launched prior : List (Cmi5StatementRow Uuid Json)} {m machine : SessionState}

theorem Stores.rows (stores : Stores lrs units r s post au stmt prior machine) :
    { s with statements := s.statements ++ [post.row stmt] }.rowsOf r = s.rowsOf r ++ [post.row stmt] := by
  simp [StatementStore.rowsOf, List.filter_append, Post.row, stores.here]

theorem Stores.next (stores : Stores lrs units r s post au stmt prior machine)
    (accepted : AcceptedInOrder lrs launched (s.rowsOf r) m) (issued : ∀ row ∈ launched, lrs.IssuedByLms row) :
    m.after stmt = machine ∧ AcceptedInOrder lrs launched (s.rowsOf r ++ [post.row stmt]) (m.after stmt) := by
  have applied := stores.applied
  rw [stores.lands, accepted.replay issued] at applied
  obtain ⟨admits, same⟩ := SessionState.apply_eq_ok_iff.mp applied
  exact ⟨same.symm, .next accepted stores.reads admits⟩

theorem Stores.crediting (stores : Stores lrs units r s post au stmt prior machine)
    (next : AcceptedInOrder lrs launched (s.rowsOf r ++ [post.row stmt]) m)
    (issued : ∀ row ∈ launched, lrs.IssuedByLms row)
    (earned : { s with statements := s.statements ++ [post.row stmt] }.Earned lrs r) :
    Crediting lrs units r (post, credit lrs post au stmt m.outcome) := by
  obtain ⟨session, au', moveOn, found, normal, unit, mapped, parses, satisfies⟩ := earned
  obtain rfl : session = post.session := Option.some.inj (found.symm.trans stores.session)
  obtain rfl : au' = au := Option.some.inj (unit.symm.trans ((congrFun stores.same _).trans stores.known))
  rcases credit_cases lrs post au' stmt m.outcome with ⟨answer, -, -, short⟩ | ⟨stepId, _, goesOn, mapped', -⟩
  · rw [stores.rows, next.outcome issued, short moveOn normal mapped parses] at satisfies
    cases satisfies
  · exact ⟨stores.here, au', stepId, stmt, _, goesOn, stores.known, mapped'⟩

end Stores

omit [IdText Uuid] [LT Float] [DecidableLT Float] in
theorem Launched.unearned (launched : Launched lrs s r) : ¬ s.Earned lrs r := by
  rintro ⟨session, au, moveOn, -, -, -, -, -, satisfies⟩
  rw [AcceptedInOrder.start.outcome launched.issued] at satisfies
  cases moveOn <;> cases satisfies

namespace Accounted
variable {launched : List (Cmi5StatementRow Uuid Json)}
    {front back : List (Post Uuid Json × StatementRoutine Uuid Float Json)}
  {task moved : Post Uuid Json × StatementRoutine Uuid Float Json} {prior : List (Cmi5StatementRow Uuid Json)}
  {machine : SessionState} {stepId toolId : Uuid} {outcome : SessionOutcome}

omit [IdText Uuid] [LT Float] [DecidableLT Float]

/-- A call that has not come upon the registration, and makes no change for it. -/
theorem quiet (accounted : Accounted lrs launched units r s (front ++ (post, routine) :: back)) (same : SameFor r s t)
    (before : Idle r post routine) {next : StatementRoutine Uuid Float Json} (after : Idle r post next)
    (apart : ¬ Crediting lrs units r (post, routine)) :
    Accounted lrs launched units r t (front ++ (post, next) :: back) := by
  have grants := after.grants.trans before.grants.symm
  have marks := after.marks.trans before.marks.symm
  have returns := after.returned.trans before.returned.symm
  obtain ⟨accepted, written, alone, returned, owed⟩ := accounted
  simp only [List.countP_append, List.countP_cons] at written alone returned owed
  refine ⟨?_, ?_, ?_, ?_, fun earned => ?_⟩
  · rw [same.rows]
    exact accepted
  · simpa only [List.countP_append, List.countP_cons, same.grants, same.satisfied, marks] using written
  · simpa only [List.countP_append, List.countP_cons, same.satisfied, grants, marks] using alone
  · simpa only [List.countP_append, List.countP_cons, same.satisfied, returns] using returned
  · simp only [List.countP_append, List.countP_cons, same.satisfied, grants, marks]
    rcases owed (same.earned.mp earned) with some_ | ⟨other, member, crediting⟩
    · exact .inl some_
    · refine .inr ⟨other, ?_, crediting⟩
      rcases List.mem_append.mp member with before | here
      · exact List.mem_append_left _ before
      · rcases List.mem_cons.mp here with rfl | behind
        · exact absurd crediting apart
        · exact List.mem_append_right _ (List.mem_cons_of_mem _ behind)

/-- A statement is stored, and its call goes on to what it earns. -/
theorem store (accounted : Accounted lrs launched units r s
    (front ++ (post, storeStatement lrs post au stmt prior machine) :: back))
    (issued : ∀ row ∈ launched, lrs.IssuedByLms row) (stores : Stores lrs units r s post au stmt prior machine) :
    Accounted lrs launched units r { s with statements := s.statements ++ [post.row stmt] }
      (front ++ (post, credit lrs post au stmt machine.outcome) :: back) := by
  obtain ⟨⟨m, accepted⟩, written, alone, returned, owed⟩ := accounted
  simp only [List.countP_append, List.countP_cons] at written alone returned owed
  obtain ⟨rfl, next⟩ := stores.next accepted issued
  have idle : ∀ routine : StatementRoutine Uuid Float Json, routine = credit lrs post au stmt (m.after stmt).outcome →
      grantsFor r routine = false ∧ marksFor r routine = false ∧ returnedGrant r (post, routine) = false := by
    rintro routine rfl
    rcases credit_cases lrs post au stmt (m.after stmt).outcome with ⟨answer, ends, none_, -⟩ | ⟨stepId, _, goesOn, -⟩
    · rw [ends]
      refine ⟨rfl, rfl, ?_⟩
      rcases answer with error | _ | info
      · exact Bool.and_false _
      · exact Bool.and_false _
      · exact absurd rfl (none_ info)
    · rw [goesOn]
      exact ⟨rfl, rfl, Bool.and_false _⟩
  obtain ⟨grants, marks, returns⟩ := idle _ rfl
  have before : grantsFor r (storeStatement lrs post au stmt prior (m.after stmt)) = false ∧
      marksFor r (storeStatement lrs post au stmt prior (m.after stmt)) = false ∧
      returnedGrant r (post, storeStatement lrs post au stmt prior (m.after stmt)) = false :=
        ⟨rfl, rfl, Bool.and_false _⟩
  have kept : StatementStore.satisfied { s with statements := s.statements ++ [post.row stmt] } r =
    s.satisfied r := rfl
  refine ⟨⟨_, stores.rows ▸ next⟩, ?_, ?_, ?_, fun earned => ?_⟩
  · simpa only [List.countP_append, List.countP_cons, marks, before.2.1, kept] using written
  · simpa only [List.countP_append, List.countP_cons, grants, marks, before.1, before.2.1, kept] using alone
  · simpa only [List.countP_append, List.countP_cons, returns, before.2.2, kept] using returned
  · -- what the call finds earned it goes on to credit
    exact .inr ⟨_, List.mem_append_right _ (List.mem_cons_self ..), stores.crediting next issued earned⟩

/-- The registration is read. -/
theorem read (accounted : Accounted lrs launched units r s (front ++ task :: back))
    (crediting : Crediting lrs units r task)
    (session : s.resolveSession r = some task.1.session)
    (mapped : ∀ stepId, (∃ au, units task.1.session.auId = some au ∧ au.trainingStepId = some stepId) →
      (s.training.getTrainingStepById stepId).isSome = true)
    (alone : grantsFor r (task.2.advance StatementStore.perform s).2 = true →
      (∀ other ∈ front ++ task :: back, grantsFor r other.2 = false ∧ marksFor r other.2 = false)) :
    (task.2.advance StatementStore.perform s).1 = s ∧
      Accounted lrs launched units r s (front ++ (task.1, (task.2.advance StatementStore.perform s).2) :: back) := by
  obtain ⟨post, routine⟩ := task
  obtain ⟨here, au, stepId, stmt, outcome, same, known, step⟩ := crediting
  dsimp only at here same known session mapped alone ⊢
  subst same
  refine ⟨rfl, ?_⟩
  obtain ⟨accepted, written, single, returned, owed⟩ := accounted
  have before : grantsFor r (readRegistration lrs post au stepId stmt outcome) = false ∧
      marksFor r (readRegistration lrs post au stepId stmt outcome) = false ∧
      returnedGrant r (post, readRegistration lrs post au stepId stmt outcome) = false := ⟨rfl, rfl, Bool.and_false _⟩
  obtain ⟨there, found⟩ := Option.isSome_iff_exists.mp (mapped stepId ⟨au, known, step⟩)
  rcases registered : s.registrations r with _ | registration
  · rw [StatementStore.resolveSession, registered] at session
    cases session
  have satisfied : s.satisfied r = registration.satisfiedAt.isSome := by
    rw [StatementStore.satisfied, registered]; rfl
  have next : ((readRegistration lrs post au stepId stmt outcome).advance StatementStore.perform s).2 =
      if registration.satisfiedAt.isSome then .done (.ok none)
        else grantStep lrs post au stepId there.toolId stmt outcome := by
    simp only [readRegistration, Routine.advance, here, registered, found]
  rw [next] at alone ⊢
  simp only [List.countP_append, List.countP_cons, before] at written single returned
  by_cases already : registration.satisfiedAt.isSome = true
  · rw [if_pos already]
    have idle : grantsFor r (.done (.ok none) : StatementRoutine Uuid Float Json) = false ∧
        marksFor r (.done (.ok none) : StatementRoutine Uuid Float Json) = false ∧
        returnedGrant r (post, (.done (.ok none) : StatementRoutine Uuid Float Json)) = false :=
          ⟨rfl, rfl, Bool.and_false _⟩
    refine ⟨accepted, ?_, ?_, ?_, fun _ => .inl ?_⟩
    · simpa only [List.countP_append, List.countP_cons, idle] using written
    · simpa only [List.countP_append, List.countP_cons, idle] using single
    · simpa only [List.countP_append, List.countP_cons, idle] using returned
    · rw [satisfied, already]
      exact Nat.le_add_left 1 _
  · rw [if_neg already] at alone ⊢
    have granting : grantsFor r (grantStep lrs post au stepId there.toolId stmt outcome) = true := decide_eq_true here
    have other : marksFor r (grantStep lrs post au stepId there.toolId stmt outcome) = false ∧
        returnedGrant r (post, grantStep lrs post au stepId there.toolId stmt outcome) = false :=
          ⟨rfl, Bool.and_false _⟩
    have nobody := alone granting
    have grantsBefore : (front ++ (post, readRegistration lrs post au stepId stmt outcome) :: back).countP
        (fun task => grantsFor r task.2) = 0 :=
      List.countP_eq_zero.mpr fun task member => by rw [(nobody task member).1]; exact Bool.false_ne_true
    have marksBefore : (front ++ (post, readRegistration lrs post au stepId stmt outcome) :: back).countP
        (fun task => marksFor r task.2) = 0 :=
      List.countP_eq_zero.mpr fun task member => by rw [(nobody task member).2]; exact Bool.false_ne_true
    simp only [List.countP_append, List.countP_cons, before] at grantsBefore marksBefore
    have unsatisfied : s.satisfied r = false := by rw [satisfied, Bool.eq_false_iff]; exact already
    rw [unsatisfied] at written single returned
    refine ⟨accepted, ?_, ?_, ?_, fun _ => .inl ?_⟩
    · simpa only [List.countP_append, List.countP_cons, other, unsatisfied] using written
    · simp only [List.countP_append, List.countP_cons, other, granting, unsatisfied, if_true, Bool.toNat_false]
      simp only [Bool.false_eq_true, if_false] at grantsBefore marksBefore ⊢
      omega
    · simpa only [List.countP_append, List.countP_cons, other, unsatisfied] using returned
    · simp only [List.countP_append, List.countP_cons, granting, if_true]
      omega

/-- The completion is written. -/
theorem grant (accounted : Accounted lrs launched units r s
    (front ++ (post, grantStep lrs post au stepId toolId stmt outcome) :: back))
    (here : post.session.registrationId = r) {training : TrainingTables Uuid} :
    Accounted lrs launched units r { s with training, grants := s.grants ++ [post.session.registrationId] }
      (front ++ (post, markingSatisfied lrs post stepId toolId stmt outcome) :: back) := by
  obtain ⟨accepted, written, single, returned, owed⟩ := accounted
  have before : grantsFor r (grantStep lrs post au stepId toolId stmt outcome) = true ∧
      marksFor r (grantStep lrs post au stepId toolId stmt outcome) = false ∧
      returnedGrant r (post, grantStep lrs post au stepId toolId stmt outcome) = false :=
    ⟨decide_eq_true here, rfl, Bool.and_false _⟩
  have after : grantsFor r (markingSatisfied lrs post stepId toolId stmt outcome) = false ∧
      marksFor r (markingSatisfied lrs post stepId toolId stmt outcome) = true ∧
      returnedGrant r (post, markingSatisfied lrs post stepId toolId stmt outcome) = false :=
    ⟨rfl, decide_eq_true here, Bool.and_false _⟩
  have same : StatementStore.satisfied
    { s with training, grants := s.grants ++ [post.session.registrationId] } r = s.satisfied r := rfl
  simp only [List.countP_append, List.countP_cons, before, if_true, Bool.false_eq_true, if_false]
    at written single returned
  subst here
  refine ⟨accepted, ?_, ?_, ?_, fun _ => .inl ?_⟩
  · simp only [List.countP_append, List.countP_cons, after, same, List.count_append, List.count_singleton_self,
      if_true]
    omega
  · simp only [List.countP_append, List.countP_cons, after, same, if_true, Bool.false_eq_true, if_false]
    omega
  · simpa only [List.countP_append, List.countP_cons, after, same, Bool.false_eq_true, if_false] using returned
  · simp only [List.countP_append, List.countP_cons, after, if_true]
    omega

/-- The registration is marked, and its call returns the grant. -/
theorem mark (accounted : Accounted lrs launched units r s
    (front ++ (post, markingSatisfied lrs post stepId toolId stmt outcome) :: back))
    (here : post.session.registrationId = r) {registration : Cmi5Registration Uuid}
    {info : GrantInfo Uuid} {now : Int} :
    Accounted lrs launched units r
      { s with registrations := s.registrations.insert r (registration.satisfied now outcome) }
      (front ++ (post, .done (.ok (some info))) :: back) := by
  obtain ⟨accepted, written, single, returned, owed⟩ := accounted
  have before : grantsFor r (markingSatisfied lrs post stepId toolId stmt outcome) = false ∧
      marksFor r (markingSatisfied lrs post stepId toolId stmt outcome) = true ∧
      returnedGrant r (post, markingSatisfied lrs post stepId toolId stmt outcome) = false :=
    ⟨rfl, decide_eq_true here, Bool.and_false _⟩
  have after : grantsFor r (.done (.ok (some info)) : StatementRoutine Uuid Float Json) = false ∧
      marksFor r (.done (.ok (some info)) : StatementRoutine Uuid Float Json) = false ∧
      returnedGrant r (post, (.done (.ok (some info)) : StatementRoutine Uuid Float Json)) = true :=
    ⟨rfl, rfl, (Bool.and_true _).trans (decide_eq_true here)⟩
  have satisfied : StatementStore.satisfied
      { s with registrations := s.registrations.insert r (registration.satisfied now outcome) } r = true := by
    simp only [StatementStore.satisfied, Table.insert_self, Option.any_some, Cmi5Registration.satisfied,
      Option.isSome_some]
  simp only [List.countP_append, List.countP_cons, before, if_true, Bool.false_eq_true, if_false]
    at written single returned
  refine ⟨accepted, ?_, ?_, ?_, fun _ => .inl ?_⟩
  · simp only [List.countP_append, List.countP_cons, after, satisfied, Bool.toNat_true, Bool.false_eq_true, if_false]
    omega
  · simp only [List.countP_append, List.countP_cons, after, satisfied, Bool.toNat_true, Bool.false_eq_true, if_false]
    omega
  · simp only [List.countP_append, List.countP_cons, after, satisfied, Bool.toNat_true, if_true]
    omega
  · rw [satisfied]
    exact Nat.le_add_left 1 _

theorem start_ (launched : Launched lrs s r) : Accounted lrs (s.rowsOf r) units r s [] := by
  refine ⟨⟨_, .start⟩, ?_, ?_, ?_, fun earned => absurd earned launched.unearned⟩
  · rw [launched.ungranted, launched.unsatisfied]
    rfl
  · rw [launched.unsatisfied]
    exact Nat.zero_le _
  · exact Nat.zero_le _

end Accounted

/-- A step under which the calls on a registration do not come in each other's way. -/
structure Orderly (lrs : Lrs Uuid Float Json) (r : Uuid) (pool : StatementPool Uuid Float Json)
    (event : Service.Event (Post Uuid Json)) : Prop where
  lands : ∀ entry ∈ (statementService lrs).landing pool event, entry.2.2.Lands lrs r entry.2.1
  alone : FindsAlone r pool event

instance (pool : StatementPool Uuid Float Json) (event : Service.Event (Post Uuid Json)) :
    Decidable (Orderly lrs r pool event) :=
  decidable_of_iff (_ ∧ _) ⟨fun ⟨lands, alone⟩ => ⟨lands, alone⟩, fun orderly => ⟨orderly.lands, orderly.alone⟩⟩

variable {launched : List (Cmi5StatementRow Uuid Json)}

theorem Accounted.arrive {tasks : List (Post Uuid Json × StatementRoutine Uuid Float Json)}
    (accounted : Accounted lrs launched units r s tasks) (post : Post Uuid Json) :
    Accounted lrs launched units r s (tasks ++ [(post, recordStatement lrs post)]) := by
  obtain ⟨accepted, written, single, returned, owed⟩ := accounted
  obtain ⟨grants, marks, returns⟩ := idle_recordStatement lrs post r
  refine ⟨accepted, ?_, ?_, ?_, fun earned => ?_⟩
  · simpa [List.countP_append, grants, marks, returns] using written
  · simpa [List.countP_append, grants, marks, returns] using single
  · simpa [List.countP_append, grants, marks, returns] using returned
  · rcases owed earned with some_ | ⟨task, member, crediting⟩
    · exact .inl (by simpa [List.countP_append, grants, marks, returns] using some_)
    · exact .inr ⟨task, List.mem_append_left _ member, crediting⟩

/-- A call reads what is stored of its statement, its unit and its course, and answers or goes on. -/
theorem Accounted.begun
    (accounted : Accounted lrs launched units r s (front ++ (post, recordStatement lrs post) :: back))
    (apart : ¬ Crediting lrs units r (post, recordStatement lrs post)) :
    Accounted lrs launched units r ((recordStatement lrs post).advance StatementStore.perform s).1
      (front ++ (post, ((recordStatement lrs post).advance StatementStore.perform s).2) :: back) := by
  have after : Idle r post ((recordStatement lrs post).advance StatementStore.perform s).2 := by
    unfold recordStatement
    rcases lrs.fromValue post.raw with message | stmt
    · exact idle_done fun _ given => nomatch given
    · dsimp only [Routine.advance]
      split
      · exact idle_done fun _ given => nomatch given
      · split
        · exact idle_done fun _ given => nomatch given
        · split
          · exact idle_done fun _ given => nomatch given
          · exact idle_read _
  have unchanged : ((recordStatement lrs post).advance StatementStore.perform s).1 = s := by
    unfold recordStatement
    rcases lrs.fromValue post.raw with message | stmt
    · rfl
    · rfl
  rw [unchanged]
  exact accounted.quiet (.refl r _) (idle_recordStatement lrs post r) after apart

omit [IdText Uuid] [LT Float] [DecidableLT Float] in
theorem Accounted.storing {prior : List (Cmi5StatementRow Uuid Json)} {machine : SessionState}
    (accounted : Accounted lrs launched units r s
      (front ++ (post, storeStatement lrs post au stmt prior machine) :: back))
    (apart : ¬ Crediting lrs units r (post, storeStatement lrs post au stmt prior machine))
    (issued : ∀ row ∈ launched, lrs.IssuedByLms row) (stores : Stores lrs units r s post au stmt prior machine) :
    Accounted lrs launched units r
      ((storeStatement lrs post au stmt prior machine).advance StatementStore.perform s).1
      (front ++ (post, ((storeStatement lrs post au stmt prior machine).advance StatementStore.perform s).2) ::
        back) := by
  dsimp only [storeStatement, Routine.advance] at accounted apart ⊢
  rcases perform_storeStatement s (post.row stmt) prior with ⟨error, made⟩ | made
  · rw [made]
    exact accounted.quiet (.refl r _) ⟨rfl, rfl, Bool.and_false _⟩ (idle_done fun _ given => nomatch given) apart
  · rw [made]
    exact accounted.store issued stores

omit [IdText Uuid] [LT Float] [DecidableLT Float] in
/-- The completion is written, which is admitted. -/
theorem Accounted.granting {stepId toolId : Uuid} {outcome : SessionOutcome}
    (accounted : Accounted lrs launched units r s
      (front ++ (post, grantStep lrs post au stepId toolId stmt outcome) :: back))
    (here : post.session.registrationId = r)
    (admitted : (StatementChange.completeStep post.session.registrationId post.session.userId stepId post.clock
      (some ("Completed via cmi5 module " ++ au.auIri))).Lands lrs r s) :
    Accounted lrs launched units r
      ((grantStep lrs post au stepId toolId stmt outcome).advance StatementStore.perform s).1
      (front ++ (post, ((grantStep lrs post au stepId toolId stmt outcome).advance StatementStore.perform s).2) ::
        back) := by
  have lands := admitted here
  rcases perform_completeStep s post.session.registrationId post.session.userId stepId post.clock
    (some ("Completed via cmi5 module " ++ au.auIri)) with ⟨error, refused, -⟩ | ⟨training, -, made⟩
  · rw [refused] at lands
    cases lands
  · dsimp only [grantStep, Routine.advance]
    rw [made]
    exact accounted.grant here

omit [IdText Uuid] [LT Float] [DecidableLT Float] in
theorem Accounted.marking {stepId toolId : Uuid} {outcome : SessionOutcome}
    (accounted : Accounted lrs launched units r s
      (front ++ (post, markingSatisfied lrs post stepId toolId stmt outcome) :: back))
    (here : post.session.registrationId = r) (session : s.resolveSession r = some post.session) :
    Accounted lrs launched units r
      ((markingSatisfied lrs post stepId toolId stmt outcome).advance StatementStore.perform s).1
      (front ++ (post, ((markingSatisfied lrs post stepId toolId stmt outcome).advance StatementStore.perform s).2) ::
        back) := by
  rcases perform_markSatisfied s post.session.registrationId post.now outcome
    with ⟨none_, -⟩ | ⟨registration, -, made⟩
  · rw [StatementStore.resolveSession, ← here, none_] at session
    cases session
  · dsimp only [markingSatisfied, Routine.advance]
    rw [made]
    subst here
    exact accounted.mark rfl

/-- An orderly step keeps the account. -/
theorem Accounted.step (underway : Underway lrs start r pool)
    (accounted : Accounted lrs launched start.units r pool.state pool.tasks)
    (issued : ∀ row ∈ launched, lrs.IssuedByLms row)
    (mapped : ∀ au stepId, (∃ id, start.units id = some au) → au.trainingStepId = some stepId →
      (start.training.getTrainingStepById stepId).isSome = true)
    {event : Service.Event (Post Uuid Json)} (orderly : Orderly lrs r pool event) :
    Accounted lrs launched start.units r ((statementService lrs).step pool event).1.state
      ((statementService lrs).step pool event).1.tasks := by
  cases event with
  | arrive post =>
    rw [(statementService lrs).tasks_arrive]
    exact accounted.arrive post
  | step index =>
    rcases found : pool.tasks[index]? with _ | ⟨post, routine⟩
    · rw [(statementService lrs).step_of_none found]
      exact accounted
    obtain ⟨phase, own⟩ : Phase lrs start.units post routine ∧ (post.session.registrationId = r → _) :=
      underway.tasks _ (List.mem_of_getElem? found)
    obtain ⟨state, -⟩ := (statementService lrs).tasks_step found
    obtain ⟨front, back, split, around⟩ := (statementService lrs).tasks_step_around found
    have landing := (statementService lrs).landing_step found
    have finds := orderly.alone (post, routine) found
    rw [state, around]
    rw [split] at accounted finds
    change Accounted lrs launched start.units r (routine.advance StatementStore.perform pool.state).1
      (front ++ (post, (routine.advance StatementStore.perform pool.state).2) :: back)
    have session : post.session.registrationId = r → pool.state.resolveSession r = some post.session :=
      fun here => underway.session.trans (own here)
    by_cases crediting : Crediting lrs start.units r (post, routine)
    · have pending : routine.pending.isNone = true := by
        obtain ⟨-, au, stepId, stmt, outcome, same, -⟩ := crediting
        dsimp only at same
        rw [same]
        rfl
      have steps : ∀ stepId, (∃ au, start.units post.session.auId = some au ∧ au.trainingStepId = some stepId) →
          (pool.state.training.getTrainingStepById stepId).isSome = true := by
        rintro stepId ⟨au, known, step⟩
        unfold TrainingTables.getTrainingStepById
        rw [underway.steps]
        exact mapped au stepId ⟨_, known⟩ step
      obtain ⟨unchanged, after⟩ := accounted.read crediting (session crediting.1) steps (finds pending)
      dsimp only at unchanged after
      rw [unchanged]
      exact after
    by_cases here : post.session.registrationId = r
    case neg =>
      exact accounted.quiet (phase.sameFor_of_ne here) (phase.idle_of_ne here)
        ((phase.advance underway.units).idle_of_ne here) crediting
    cases phase with
    | begun => exact accounted.begun crediting
    | replaying au stmt reads there =>
      refine accounted.quiet (.refl r _) (idle_read _) ?_ crediting
      dsimp only [replayPrior, Routine.advance]
      split
      · exact idle_done fun _ given => nomatch given
      · exact ⟨rfl, rfl, Bool.and_false _⟩
    | storing au stmt prior machine reads there applied =>
      have lands : lrs.replay prior = lrs.replay (pool.state.rowsOf r) :=
        orderly.lands (index, pool.state, .storeStatement (post.row stmt) prior)
          (landing ▸ List.mem_singleton_self _) here
      exact accounted.storing crediting issued ⟨here, session here, there, underway.units, reads, applied, lands⟩
    | crediting au stepId stmt outcome there step =>
      exact absurd ⟨here, au, stepId, stmt, outcome, rfl, there, step⟩ crediting
    | granting au stepId toolId stmt outcome =>
      exact accounted.granting here (orderly.lands (index, pool.state, _) (landing ▸ List.mem_singleton_self _))
    | marking stepId toolId stmt outcome => exact accounted.marking here (session here)
    | answered answer => exact accounted

/-- What a registration comes to: one grant at most is returned, its statements are in order,
and what they earn is granted once all its calls are answered. -/
structure GrantedOnce (lrs : Lrs Uuid Float Json) (r : Uuid) (pool : StatementPool Uuid Float Json) : Prop where
  returned : pool.tasks.countP (returnedGrant r) ≤ 1
  oneWay : ¬ ((lrs.outcomeOf (pool.state.rowsOf r)).passed = true ∧
    (lrs.outcomeOf (pool.state.rowsOf r)).failed = true)
  initialized : (pool.state.rowsOf r).countP (lrs.hasVerb verbs.INITIALIZED) ≤ 1
  terminated : ∀ front row back, pool.state.rowsOf r = front ++ row :: back →
    lrs.hasVerb verbs.TERMINATED row = true → back = []
  granted : (∀ task ∈ pool.tasks, task.1.session.registrationId = r → task.2.answered.isSome = true) →
    pool.state.Earned lrs r → pool.state.grants.count r = 1

theorem Accounted.grantedOnce (underway : Underway lrs start r pool)
    (accounted : Accounted lrs launched units r pool.state pool.tasks)
    (issued : ∀ row ∈ launched, lrs.IssuedByLms row) : GrantedOnce lrs r pool := by
  obtain ⟨⟨m, accepted⟩, written, single, returned, owed⟩ := accounted
  have atMost := Bool.toNat_le (pool.state.satisfied r)
  refine ⟨returned.trans atMost, ?_, ?_,
    fun front row back split ends => accepted.last_terminated issued split ends, ?_⟩
  · rw [accepted.outcome issued]
    rintro ⟨passed, failed⟩
    rw [accepted.not_both passed] at failed
    cases failed
  · rw [accepted.initialized_once issued]
    split
    · exact Nat.le_refl 1
    · exact Nat.zero_le 1
  · intro rest earned
    -- at rest nothing is on its way
    have idle : ∀ task ∈ pool.tasks, grantsFor r task.2 = false ∧ marksFor r task.2 = false ∧
        ¬ Crediting lrs units r task := by
      rintro ⟨post, routine⟩ member
      by_cases here : post.session.registrationId = r
      · have ended : routine.answered.isSome = true := rest _ member here
        cases routine with
        | done answer =>
          refine ⟨rfl, rfl, ?_⟩
          rintro ⟨-, au, stepId, stmt, outcome, same, -⟩
          cases same
        | read next => cases ended
        | write change next => cases ended
      · have away := (underway.tasks _ member).1.idle_of_ne here
        exact ⟨away.grants, away.marks, fun crediting => here crediting.1⟩
    have grants : pool.tasks.countP (fun task => grantsFor r task.2) = 0 :=
      List.countP_eq_zero.mpr fun task member => by rw [(idle task member).1]; exact Bool.false_ne_true
    have marks : pool.tasks.countP (fun task => marksFor r task.2) = 0 :=
      List.countP_eq_zero.mpr fun task member => by rw [(idle task member).2.1]; exact Bool.false_ne_true
    rcases owed earned with some_ | ⟨task, member, crediting⟩
    · rw [grants, marks] at some_
      rw [marks] at written
      omega
    · exact absurd crediting (idle task member).2.2

/-- As long as no step lets two calls on a registration come in each other's way, whatever
the order they run in, its course grants once and never both ways. -/
theorem statements_grant_once (lrs : Lrs Uuid Float Json) {start : StatementStore Uuid Float Json} {r : Uuid}
    (launched : Launched lrs start r) {schedule : List (Service.Event (Post Uuid Json))}
    (authentic : ∀ post, .arrive post ∈ schedule → post.session.registrationId = r →
      start.resolveSession r = some post.session)
    (every : EveryStep (fun past event => Orderly lrs r
      (((statementService lrs).machine start).run past) event) schedule)
    {past : List (Service.Event (Post Uuid Json))} (front : past <+: schedule) :
    GrantedOnce lrs r (((statementService lrs).machine start).run past) := by
  have atStart : Accounted lrs (start.rowsOf r) start.units r start [] := .start_ launched
  obtain ⟨underway, accounted⟩ :=
    Underway.run (fun pool => Accounted lrs (start.rowsOf r) start.units r pool.state pool.tasks)
    authentic every atStart (fun underway accounted orderly =>
      accounted.step underway launched.issued launched.mapped orderly) front
  exact accounted.grantedOnce underway launched.issued

end Grants

section Course

/-- An AU that a step of a tool's training is mapped to, satisfied by passing it. -/
def safetyUnit : Cmi5AssignableUnit HexId Int where
  courseId := .repeating 6
  blockId := none
  auIri := "http://example.com/au/1"
  title := none
  launchUrl := "index.html"
  launchParameters := none
  launchMethod := none
  moveOn := "Passed"
  masteryScore := none
  position := 0
  trainingStepId := some (.repeating 1)
  id := .repeating 4

/-- The AU launched by the one member there is. -/
def safetyLaunched : StatementStore HexId Int (Statement HexId Int) where
  units := Table.empty.insert (.repeating 4) safetyUnit
  registrations := Table.empty.insert (.repeating 5)
    { userId := .repeating 3, auId := .repeating 4, launchMode := "Normal", satisfiedAt := none, completedAt := none
      passedAt := none, updatedAt := 0 }
  statements := []
  training :=
    { users := [.repeating 3]
      tools := [.repeating 2]
      steps := (∅ : AList fun _ : HexId => TrainingStep HexId).insert (.repeating 1)
        { toolId := .repeating 2, stepNumber := 1, trainingMaterialsUrl := none, requiresAssessment := false
          expiresAfterDays := none, selfAttestable := false }
      progress := Table.empty }
  grants := []

def asSent : Lrs HexId Int (Statement HexId Int) := ⟨.ok, id⟩

/-- What the learner's content sends on that session. -/
def safetyStatement (id : Nat) (verb : String) (success : Option Bool) : Statement HexId Int where
  id := some (.repeating id)
  actor :=
    { objectType := some "Agent", name := none, mbox := none
      account := some ⟨"https://space.example", IdText.toText (HexId.repeating 3)⟩ }
  verb := ⟨verb⟩
  object := ⟨"http://example.com/au/1"⟩
  result := success.map fun success => ⟨none, some success, none⟩
  context := some ⟨some (.repeating 5), some ⟨some [⟨categories.CMI5⟩, ⟨categories.MOVEON⟩]⟩⟩

def safetyPost (stored : Int) (stmt : Statement HexId Int) : Post HexId (Statement HexId Int) where
  session := ⟨.repeating 5, .repeating 3, .repeating 4, "http://example.com/au/1", "Normal"⟩
  siteUrl := "https://space.example"
  statementIdHint := none
  raw := stmt
  newV4 := .repeating 15
  stored
  now := stored
  clock := ⟨stored, stored, stored⟩
  ordered rows := rows.insertionSort fun a b => a.stored ≤ b.stored
  isOrdered rows := .insertionSort _ rows

def initializedPost : Post HexId (Statement HexId Int) := safetyPost 1 (safetyStatement 7 verbs.INITIALIZED none)
def passedPost : Post HexId (Statement HexId Int) := safetyPost 2 (safetyStatement 8 verbs.PASSED (some true))
def failedPost : Post HexId (Statement HexId Int) := safetyPost 3 (safetyStatement 9 verbs.FAILED (some false))

/-- One post, sent twice, after the one that starts the session. -/
def passedTwice : List (Service.Event (Post HexId (Statement HexId Int))) :=
  [.arrive initializedPost, .step 0, .step 0, .step 0, .arrive passedPost, .arrive passedPost, .step 1,
    .step 1, .step 1, .step 1, .step 2, .step 1, .step 1]

/-- Two posts, of which each replays before the other is stored. -/
def passedAndFailed : List (Service.Event (Post HexId (Statement HexId Int))) :=
  [.arrive initializedPost, .step 0, .step 0, .step 0, .arrive passedPost, .arrive failedPost, .step 1,
    .step 1, .step 2, .step 2, .step 1, .step 2]

theorem launched_safetyLaunched : Launched asSent safetyLaunched (.repeating 5) where
  session := ⟨_, rfl⟩
  unsatisfied := rfl
  ungranted := rfl
  issued row there := nomatch there
  mapped au stepId := by
    rintro ⟨id, there⟩ mapped
    have own : au = safetyUnit := by
      rcases Table.insert_eq_some.mp there with ⟨-, same⟩ | ⟨-, none_⟩
      · exact same
      · cases none_
    subst own
    obtain rfl := Option.some.inj mapped
    decide +kernel

theorem statements_grant_once_passed_twice :
    GrantedOnce asSent (.repeating 5) (((statementService asSent).machine safetyLaunched).run passedTwice) := by
  have orderly : ∀ n (bound : n < passedTwice.length),
      Orderly asSent (.repeating 5)
        (((statementService asSent).machine safetyLaunched).run (passedTwice.take n)) passedTwice[n] := by
    decide +kernel
  refine statements_grant_once asSent launched_safetyLaunched ?_ (EveryStep.of_getElem orderly) List.prefix_rfl
  intro post there _
  have all : ∀ event ∈ passedTwice, ∀ post, event = .arrive post →
      safetyLaunched.resolveSession (.repeating 5) = some post.session := by
    intro event member post same
    subst same
    simp only [passedTwice, List.mem_cons, Service.Event.arrive.injEq, List.not_mem_nil, or_false,
      reduceCtorEq, false_or] at member
    rcases member with rfl | rfl | rfl
    · rfl
    · rfl
    · rfl
  exact all _ there post rfl

/-- Posted at once, a pass and a fail are both accepted. -/
theorem passed_and_failed_accepted :
    ¬ GrantedOnce asSent (.repeating 5) (((statementService asSent).machine safetyLaunched).run passedAndFailed) := by
  intro once
  have both : (asSent.outcomeOf
    ((((statementService asSent).machine safetyLaunched).run passedAndFailed).state.rowsOf (.repeating 5))) =
      ⟨true, false, true⟩ := by decide +kernel
  refine once.oneWay ?_
  rw [both]
  exact ⟨rfl, rfl⟩

end Course

end CoopSpaces.Cmi5

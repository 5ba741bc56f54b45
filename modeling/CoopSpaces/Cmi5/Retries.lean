import CoopSpaces.Cmi5.GrantOnce

namespace CoopSpaces.Cmi5

section Retries
variable {Uuid Float Json : Type} [DecidableEq Uuid] [IdText Uuid] [LT Float] [DecidableLT Float]
  {lrs : Lrs Uuid Float Json} {launched : List (Cmi5StatementRow Uuid Json)}
  {units : Table Uuid (Cmi5AssignableUnit Uuid Float)}
  {post : Post Uuid Json} {r : Uuid} {s t start : StatementStore Uuid Float Json} {au : Cmi5AssignableUnit Uuid Float}
  {stmt : Statement Uuid Float} {routine : StatementRoutine Uuid Float Json} {pool : StatementPool Uuid Float Json}

/-- The statement is stored, under the registration it was posted on. -/
def Filed (lrs : Lrs Uuid Float Json) (s : StatementStore Uuid Float Json) (post : Post Uuid Json) : Prop :=
  ∃ stmt, lrs.fromValue post.raw = .ok stmt ∧
    post.statementId stmt ∈ (s.rowsOf post.session.registrationId).map (·.statementId)

/-- The call stands between its stored statement and the completion that it earned: it goes on
from there, or has failed. -/
def Midway (lrs : Lrs Uuid Float Json) (units : Table Uuid (Cmi5AssignableUnit Uuid Float)) (r : Uuid)
    (task : Post Uuid Json × StatementRoutine Uuid Float Json) : Prop :=
  Crediting lrs units r task ∨ grantsFor r task.2 = true

/-- Where a call stands, and what is in the tables by then. -/
inductive Standing (lrs : Lrs Uuid Float Json) (units : Table Uuid (Cmi5AssignableUnit Uuid Float))
    (s : StatementStore Uuid Float Json)
    (post : Post Uuid Json) : StatementRoutine Uuid Float Json → Prop
  | begun : Standing lrs units s post (recordStatement lrs post)
  | replaying (au : Cmi5AssignableUnit Uuid Float) (stmt : Statement Uuid Float)
    (reads : lrs.fromValue post.raw = .ok stmt)
      (known : units post.session.auId = some au) : Standing lrs units s post (replayPrior lrs post au stmt)
  | storing (au : Cmi5AssignableUnit Uuid Float) (stmt : Statement Uuid Float)
    (prior : List (Cmi5StatementRow Uuid Json))
      (machine : SessionState) (reads : lrs.fromValue post.raw = .ok stmt) (known : units post.session.auId = some au)
      (applied : (lrs.replay prior).apply stmt = .ok machine) :
      Standing lrs units s post (storeStatement lrs post au stmt prior machine)
  | crediting (au : Cmi5AssignableUnit Uuid Float) (stepId : Uuid) (stmt : Statement Uuid Float)
    (outcome : SessionOutcome)
      (known : units post.session.auId = some au) (mapped : au.trainingStepId = some stepId)
        (filed : Filed lrs s post)
      (earned : s.Earned lrs post.session.registrationId) :
      Standing lrs units s post (readRegistration lrs post au stepId stmt outcome)
  | granting (au : Cmi5AssignableUnit Uuid Float) (stepId toolId : Uuid) (stmt : Statement Uuid Float)
    (outcome : SessionOutcome)
      (filed : Filed lrs s post) (earned : s.Earned lrs post.session.registrationId) :
      Standing lrs units s post (grantStep lrs post au stepId toolId stmt outcome)
  | marking (stepId toolId : Uuid) (stmt : Statement Uuid Float) (outcome : SessionOutcome) (filed : Filed lrs s post)
      (granted : post.session.registrationId ∈ s.grants) :
      Standing lrs units s post (markingSatisfied lrs post stepId toolId stmt outcome)
  | refused (failure : Cmi5Error Float) : Standing lrs units s post (.done (.error failure))
  | accepted (grant : Option (GrantInfo Uuid)) (filed : Filed lrs s post) :
    Standing lrs units s post (.done (.ok grant))

/-- What the tables of a registration only gain by the calls. -/
structure Grown (r : Uuid) (s t : StatementStore Uuid Float Json) : Prop where
  units : t.units = s.units
  session : t.resolveSession r = s.resolveSession r
  rows : ∃ more, t.rowsOf r = s.rowsOf r ++ more
  grants : r ∈ s.grants → r ∈ t.grants

section Grown
omit [IdText Uuid] [LT Float] [DecidableLT Float]

theorem Grown.refl (r : Uuid) (s : StatementStore Uuid Float Json) : Grown r s s :=
  ⟨rfl, rfl, ⟨[], (List.append_nil _).symm⟩, id⟩

theorem Grown.perform (s : StatementStore Uuid Float Json) (change : StatementChange Uuid Json) (r : Uuid) :
    Grown r s (s.perform change).1 := by
  obtain ⟨units, -, session⟩ := perform_keeps s change r
  refine ⟨units, session, ?_, ?_⟩
  · cases change with
    | storeStatement row replayed =>
      rcases perform_storeStatement s row replayed with ⟨error, made⟩ | made
      · rw [made]
        exact ⟨[], (List.append_nil _).symm⟩
      · rw [made]
        exact ⟨_, List.filter_append ..⟩
    | completeStep registrationId userId stepId clock notes =>
      rcases perform_completeStep s registrationId userId stepId clock notes
        with ⟨error, -, made⟩ | ⟨training, -, made⟩
      · rw [made]
        exact ⟨[], (List.append_nil _).symm⟩
      · rw [made]
        exact ⟨[], (List.append_nil _).symm⟩
    | markSatisfied registrationId now outcome =>
      rcases perform_markSatisfied s registrationId now outcome with ⟨-, made⟩ | ⟨registration, -, made⟩
      · rw [made]
        exact ⟨[], (List.append_nil _).symm⟩
      · rw [made]
        exact ⟨[], (List.append_nil _).symm⟩
  · cases change with
    | storeStatement row replayed =>
      rcases perform_storeStatement s row replayed with ⟨error, made⟩ | made
      · rw [made]
        exact id
      · rw [made]
        exact id
    | completeStep registrationId userId stepId clock notes =>
      rcases perform_completeStep s registrationId userId stepId clock notes
        with ⟨error, -, made⟩ | ⟨training, -, made⟩
      · rw [made]
        exact id
      · rw [made]
        exact List.mem_append_left _
    | markSatisfied registrationId now outcome =>
      rcases perform_markSatisfied s registrationId now outcome with ⟨-, made⟩ | ⟨registration, -, made⟩
      · rw [made]
        exact id
      · rw [made]
        exact id

theorem Grown.advance (routine : StatementRoutine Uuid Float Json) (s : StatementStore Uuid Float Json) (r : Uuid) :
    Grown r s (routine.advance StatementStore.perform s).1 := by
  cases routine with
  | done answer => exact .refl r s
  | read next => exact .refl r s
  | write change next => exact .perform s change r

theorem evaluateMoveOn_join (moveOn : MoveOn) {before : SessionOutcome}
    (satisfies : evaluateMoveOn moveOn before = true)
    (more : SessionOutcome) : evaluateMoveOn moveOn (before.join more) = true := by
  cases moveOn <;> simp only [evaluateMoveOn, SessionOutcome.join, Bool.or_eq_true, Bool.and_eq_true]
    at satisfies ⊢ <;> tauto

theorem Grown.earned (grown : Grown r s t) (earned : s.Earned lrs r) : t.Earned lrs r := by
  obtain ⟨session, au, moveOn, found, normal, unit, mapped, parses, satisfies⟩ := earned
  refine ⟨session, au, moveOn, grown.session.trans found, normal, (congrFun grown.units _).trans unit, mapped,
    parses, ?_⟩
  obtain ⟨more, rows⟩ := grown.rows
  have join : lrs.outcomeOf (s.rowsOf r ++ more) = (lrs.outcomeOf (s.rowsOf r)).join (lrs.outcomeOf more) := by
    simp only [Lrs.outcomeOf, SessionOutcome.join, List.any_append]
  rw [rows, join]
  exact evaluateMoveOn_join moveOn satisfies _

theorem Grown.filed (grown : Grown post.session.registrationId s t) (filed : Filed lrs s post) :
    Filed lrs t post := by
  obtain ⟨stmt, reads, there⟩ := filed
  obtain ⟨more, rows⟩ := grown.rows
  refine ⟨stmt, reads, ?_⟩
  rw [rows, List.map_append]
  exact List.mem_append_left _ there

end Grown

theorem Standing.grow (standing : Standing lrs units s post routine) (grown : Grown post.session.registrationId s t) :
    Standing lrs units t post routine := by
  cases standing with
  | begun => exact .begun
  | replaying au stmt reads known => exact .replaying au stmt reads known
  | storing au stmt prior machine reads known applied => exact .storing au stmt prior machine reads known applied
  | crediting au stepId stmt outcome known mapped filed earned =>
    exact .crediting au stepId stmt outcome known mapped (grown.filed filed) (grown.earned earned)
  | granting au stepId toolId stmt outcome filed earned =>
    exact .granting au stepId toolId stmt outcome (grown.filed filed) (grown.earned earned)
  | marking stepId toolId stmt outcome filed granted =>
    exact .marking stepId toolId stmt outcome (grown.filed filed) (grown.grants granted)
  | refused failure => exact .refused failure
  | accepted grant filed => exact .accepted grant (grown.filed filed)

/-- A step under which a call on the registration sees its statements as they were accepted,
its completion is admitted, and the id of its statement is not in use elsewhere. -/
structure Undisturbed (lrs : Lrs Uuid Float Json) (r : Uuid) (pool : StatementPool Uuid Float Json)
    (event : Service.Event (Post Uuid Json)) : Prop where
  lands : ∀ entry ∈ (statementService lrs).landing pool event, entry.2.2.Lands lrs r entry.2.1
  ownId : ∀ index, event = .step index → ∀ task ∈ pool.tasks[index]?, task.1.session.registrationId = r →
    task.2 = recordStatement lrs task.1 → ∀ stmt, lrs.fromValue task.1.raw = .ok stmt →
      ∀ row ∈ pool.state.statements, row.statementId = task.1.statementId stmt → row.registrationId = r

/-- What a registration's statements earned is granted, or a call stands before granting it. -/
structure Owed (lrs : Lrs Uuid Float Json) (launched : List (Cmi5StatementRow Uuid Json))
    (units : Table Uuid (Cmi5AssignableUnit Uuid Float)) (r : Uuid) (s : StatementStore Uuid Float Json)
    (tasks : List (Post Uuid Json × StatementRoutine Uuid Float Json)) : Prop where
  accepted : ∃ m, AcceptedInOrder lrs launched (s.rowsOf r) m
  standing : ∀ task ∈ tasks, task.1.session.registrationId = r → Standing lrs units s task.1 task.2
  satisfied : s.satisfied r = true → r ∈ s.grants
  granted : r ∈ s.grants → s.Earned lrs r
  owed : s.Earned lrs r → r ∈ s.grants ∨ ∃ task ∈ tasks, Midway lrs units r task

variable {front back : List (Post Uuid Json × StatementRoutine Uuid Float Json)}
    {next : StatementRoutine Uuid Float Json}

/-- What is to be shown of the call that moves. -/
theorem Owed.around (owed : Owed lrs launched units r s (front ++ (post, routine) :: back)) (grown : Grown r s t)
    (accepted : ∃ m, AcceptedInOrder lrs launched (t.rowsOf r) m)
    (standing : post.session.registrationId = r → Standing lrs units t post next)
    (satisfied : t.satisfied r = true → r ∈ t.grants)
    (granted : r ∈ t.grants → t.Earned lrs r)
    (pays : t.Earned lrs r → s.Earned lrs r ∧ ¬ Midway lrs units r (post, routine) ∨ r ∈ t.grants ∨
      Midway lrs units r (post, next)) :
    Owed lrs launched units r t (front ++ (post, next) :: back) := by
  have others : ∀ task ∈ front ++ (post, next) :: back, task = (post, next) ∨
      task ∈ front ++ (post, routine) :: back := by
    intro task member
    rcases List.mem_append.mp member with before | here
    · exact .inr (List.mem_append_left _ before)
    · rcases List.mem_cons.mp here with same | behind
      · exact .inl same
      · exact .inr (List.mem_append_right _ (List.mem_cons_of_mem _ behind))
  refine ⟨accepted, fun task member own => ?_, satisfied, granted, fun earned => ?_⟩
  · rcases others task member with rfl | old
    · exact standing own
    · have grown' : Grown task.1.session.registrationId s t := by rw [own]; exact grown
      exact (owed.standing task old own).grow grown'
  · rcases pays earned with ⟨before, apart⟩ | given | midway
    · rcases owed.owed before with given | ⟨task, member, midway⟩
      · exact .inl (grown.grants given)
      · refine .inr ⟨task, ?_, midway⟩
        rcases List.mem_append.mp member with inFront | here
        · exact List.mem_append_left _ inFront
        · rcases List.mem_cons.mp here with rfl | behind
          · exact absurd midway apart
          · exact List.mem_append_right _ (List.mem_cons_of_mem _ behind)
    · exact .inl given
    · exact .inr ⟨_, List.mem_append_right _ (List.mem_cons_self ..), midway⟩

/-- The first step of a call answers, or goes on to the replay. -/
theorem Standing.begin (lrs : Lrs Uuid Float Json) (post : Post Uuid Json) (known : s.units = units)
    (ownId : ∀ stmt, lrs.fromValue post.raw = .ok stmt →
      ∀ row ∈ s.statements, row.statementId = post.statementId stmt →
        row.registrationId = post.session.registrationId) :
    ((recordStatement lrs post).advance StatementStore.perform s).1 = s ∧
      Standing lrs units s post ((recordStatement lrs post).advance StatementStore.perform s).2 := by
  unfold recordStatement
  rcases reads : lrs.fromValue post.raw with message | stmt
  · exact ⟨rfl, .refused _⟩
  · refine ⟨rfl, ?_⟩
    dsimp only [Routine.advance]
    rcases there : s.units post.session.auId with _ | au
    · exact .refused _
    · dsimp only
      split
      · exact .refused _
      · split
        · rename_i stored
          obtain ⟨row, member, same⟩ := List.mem_map.mp stored
          refine .accepted none ⟨stmt, reads, List.mem_map.mpr ⟨row, ?_, same⟩⟩
          exact List.mem_filter.mpr ⟨member, decide_eq_true (ownId stmt reads row member same)⟩
        · exact .replaying au stmt reads (known ▸ there)

/-- A statement stored where its call replayed what was accepted. -/
theorem Owed.store {prior : List (Cmi5StatementRow Uuid Json)} {machine : SessionState}
    (owed : Owed lrs launched units r s (front ++ (post, storeStatement lrs post au stmt prior machine) :: back))
    (issued : ∀ row ∈ launched, lrs.IssuedByLms row) (stores : Stores lrs units r s post au stmt prior machine) :
    Owed lrs launched units r { s with statements := s.statements ++ [post.row stmt] }
      (front ++ (post, credit lrs post au stmt machine.outcome) :: back) := by
  obtain ⟨m, accepted⟩ := owed.accepted
  obtain ⟨rfl, next⟩ := stores.next accepted issued
  have grown : Grown r s { s with statements := s.statements ++ [post.row stmt] } := ⟨rfl, rfl, ⟨_, stores.rows⟩, id⟩
  have filed : Filed lrs { s with statements := s.statements ++ [post.row stmt] } post := by
    refine ⟨stmt, stores.reads, ?_⟩
    rw [stores.here, stores.rows, List.map_append]
    exact List.mem_append_right _ (List.mem_singleton_self _)
  -- what is earned now the call goes on to credit
  refine owed.around grown ⟨_, stores.rows ▸ next⟩ (fun _ => ?_) owed.satisfied
    (fun given => grown.earned (owed.granted given)) fun earned =>
      .inr (.inr (.inl (stores.crediting next issued earned)))
  · rcases credit_cases lrs post au stmt (m.after stmt).outcome with
      ⟨answer, ends, none_, -⟩ | ⟨stepId, moveOn, goesOn, mapped, normal, parses, satisfies⟩
    · rw [ends]
      rcases answer with failure | grant
      · exact .refused failure
      · exact .accepted grant filed
    · rw [goesOn]
      refine .crediting au stepId stmt _ stores.known mapped filed ?_
      rw [stores.here]
      refine ⟨post.session, au, moveOn, stores.session, normal, (congrFun stores.same _).trans stores.known,
        mapped ▸ rfl, parses, ?_⟩
      rw [stores.rows, next.outcome issued]
      exact satisfies

/-- A step that changes nothing. If it is the one that reads the registration, that is granted,
or the completion is next. -/
theorem Owed.quiet (owed : Owed lrs launched units r s (front ++ (post, routine) :: back))
    (session : post.session.registrationId = r → s.resolveSession r = some post.session)
    (mapped : ∀ au stepId, units post.session.auId = some au → au.trainingStepId = some stepId →
      (s.training.getTrainingStepById stepId).isSome = true)
    (grants : grantsFor r routine = false) (goesOn : routine.advance StatementStore.perform s = (s, next))
    (standing : post.session.registrationId = r → Standing lrs units s post next) :
    Owed lrs launched units r s (front ++ (post, next) :: back) := by
  refine owed.around (.refl r s) owed.accepted standing owed.satisfied owed.granted fun earned => ?_
  by_cases crediting : Crediting lrs units r (post, routine)
  · obtain ⟨here, au, stepId, stmt, outcome, same, known, step⟩ := crediting
    dsimp only at here same known
    subst same
    obtain ⟨there, found⟩ := Option.isSome_iff_exists.mp (mapped au stepId known step)
    rcases registered : s.registrations r with _ | registration
    · have none_ := session here
      rw [StatementStore.resolveSession, registered] at none_
      cases none_
    have recorded : s.satisfied r = registration.satisfiedAt.isSome := by
      rw [StatementStore.satisfied, registered]; rfl
    by_cases satisfied : registration.satisfiedAt.isSome = true
    · exact .inr (.inl (owed.satisfied (recorded.trans satisfied)))
    · refine .inr (.inr (.inr ?_))
      rw [← (Prod.mk.inj goesOn).2]
      simp only [here, registered, found, if_neg satisfied]
      exact decide_eq_true here
  · refine .inl ⟨earned, ?_⟩
    rintro (other | granting)
    · exact crediting other
    · rw [grants] at granting
      cases granting

theorem Owed.arrive {tasks : List (Post Uuid Json × StatementRoutine Uuid Float Json)}
    (owed : Owed lrs launched units r s tasks) (post : Post Uuid Json) :
    Owed lrs launched units r s (tasks ++ [(post, recordStatement lrs post)]) := by
  refine ⟨owed.accepted, fun task member own => ?_, owed.satisfied, owed.granted, fun earned => ?_⟩
  · rcases List.mem_append.mp member with old | new
    · exact owed.standing task old own
    · rw [List.mem_singleton.mp new]
      exact .begun
  · rcases owed.owed earned with given | ⟨task, member, midway⟩
    · exact .inl given
    · exact .inr ⟨task, List.mem_append_left _ member, midway⟩

/-- A call on another registration goes on. -/
theorem Owed.elsewhere (owed : Owed lrs launched units r s (front ++ (post, routine) :: back))
    (phase : Phase lrs units post routine) (elsewhere : post.session.registrationId ≠ r) :
    Owed lrs launched units r (routine.advance StatementStore.perform s).1
      (front ++ (post, (routine.advance StatementStore.perform s).2) :: back) := by
  have same : SameFor r s (routine.advance StatementStore.perform s).1 := phase.sameFor_of_ne elsewhere
  have apart : ¬ Midway lrs units r (post, routine) := by
    rintro (crediting | granting)
    · exact elsewhere crediting.1
    · rw [(phase.idle_of_ne elsewhere).grants] at granting
      cases granting
  have given : r ∈ (routine.advance StatementStore.perform s).1.grants ↔ r ∈ s.grants := by
    rw [← List.count_pos_iff, same.grants, List.count_pos_iff]
  refine owed.around (.advance routine s r) ?_ (fun own => absurd own elsewhere) (fun satisfied => ?_)
    (fun granted => ?_) fun earned => .inl ⟨same.earned.mp earned, apart⟩
  · rw [same.rows]
    exact owed.accepted
  · exact given.mpr (owed.satisfied (same.satisfied ▸ satisfied))
  · exact same.earned.mpr (owed.granted (given.mp granted))

/-- A statement is stored, or is refused and nothing changes. -/
theorem Owed.storing {prior : List (Cmi5StatementRow Uuid Json)} {machine : SessionState}
    (owed : Owed lrs launched units r s (front ++ (post, storeStatement lrs post au stmt prior machine) :: back))
    (issued : ∀ row ∈ launched, lrs.IssuedByLms row) (stores : Stores lrs units r s post au stmt prior machine)
    (mapped : ∀ au stepId, units post.session.auId = some au → au.trainingStepId = some stepId →
      (s.training.getTrainingStepById stepId).isSome = true) :
    Owed lrs launched units r ((storeStatement lrs post au stmt prior machine).advance StatementStore.perform s).1
      (front ++ (post, ((storeStatement lrs post au stmt prior machine).advance StatementStore.perform s).2) ::
        back) := by
  rcases perform_storeStatement s (post.row stmt) prior with ⟨error, made⟩ | made
  · have goesOn : (storeStatement lrs post au stmt prior machine).advance StatementStore.perform s =
        (s, .done (.error (.db (.refused error)))) := by simp only [storeStatement, Routine.advance, made]
    rw [goesOn]
    exact owed.quiet (fun _ => stores.session) mapped rfl goesOn fun _ => .refused _
  · have goesOn : (storeStatement lrs post au stmt prior machine).advance StatementStore.perform s =
        ({ s with statements := s.statements ++ [post.row stmt] }, credit lrs post au stmt machine.outcome) := by
      simp only [storeStatement, Routine.advance, made]
    rw [goesOn]
    exact owed.store issued stores

/-- The completion is written, which is admitted. -/
theorem Owed.granting {stepId toolId : Uuid} {outcome : SessionOutcome}
    (owed : Owed lrs launched units r s (front ++ (post, grantStep lrs post au stepId toolId stmt outcome) :: back))
    (here : post.session.registrationId = r) (filed : Filed lrs s post)
    (earned : s.Earned lrs post.session.registrationId)
    (admitted : (StatementChange.completeStep post.session.registrationId post.session.userId stepId post.clock
      (some ("Completed via cmi5 module " ++ au.auIri))).Lands lrs r s) :
    Owed lrs launched units r ((grantStep lrs post au stepId toolId stmt outcome).advance StatementStore.perform s).1
      (front ++ (post, ((grantStep lrs post au stepId toolId stmt outcome).advance StatementStore.perform s).2) ::
        back) := by
  have lands := admitted here
  rcases perform_completeStep s post.session.registrationId post.session.userId stepId post.clock
    (some ("Completed via cmi5 module " ++ au.auIri)) with ⟨error, refused, -⟩ | ⟨training, -, made⟩
  · rw [refused] at lands
    cases lands
  · have goesOn : (grantStep lrs post au stepId toolId stmt outcome).advance StatementStore.perform s =
        ({ s with training, grants := s.grants ++ [post.session.registrationId] },
          markingSatisfied lrs post stepId toolId stmt outcome) := by simp only [grantStep, Routine.advance, made]
    have grown := Grown.advance (grantStep lrs post au stepId toolId stmt outcome) s r
    rw [goesOn] at grown ⊢
    subst here
    have given : post.session.registrationId ∈ s.grants ++ [post.session.registrationId] :=
      List.mem_append_right _ (List.mem_singleton_self _)
    exact owed.around grown owed.accepted (fun _ => .marking _ _ _ _ (grown.filed filed) given) (fun _ => given)
      (fun _ => grown.earned earned) fun _ => .inr (.inl given)

/-- The registration is marked. -/
theorem Owed.marking {stepId toolId : Uuid} {outcome : SessionOutcome}
    (owed : Owed lrs launched units r s
      (front ++ (post, markingSatisfied lrs post stepId toolId stmt outcome) :: back))
    (here : post.session.registrationId = r) (session : s.resolveSession r = some post.session)
    (filed : Filed lrs s post) (granted : post.session.registrationId ∈ s.grants) :
    Owed lrs launched units r
      ((markingSatisfied lrs post stepId toolId stmt outcome).advance StatementStore.perform s).1
      (front ++ (post, ((markingSatisfied lrs post stepId toolId stmt outcome).advance StatementStore.perform s).2) ::
        back) := by
  subst here
  rcases perform_markSatisfied s post.session.registrationId post.now outcome
    with ⟨none_, -⟩ | ⟨registration, -, made⟩
  · rw [StatementStore.resolveSession, none_] at session
    cases session
  · have grown := Grown.advance (markingSatisfied lrs post stepId toolId stmt outcome) s post.session.registrationId
    dsimp only [markingSatisfied, Routine.advance] at grown ⊢
    rw [made] at grown ⊢
    exact owed.around grown owed.accepted (fun _ => .accepted _ (grown.filed filed)) (fun _ => granted)
      (fun _ => grown.earned (owed.granted granted)) fun _ => .inr (.inl granted)

/-- An undisturbed step keeps what is owed. -/
theorem Owed.step (underway : Underway lrs start r pool)
    (owed : Owed lrs launched start.units r pool.state pool.tasks)
    (issued : ∀ row ∈ launched, lrs.IssuedByLms row)
    (mapped : ∀ au stepId, (∃ id, start.units id = some au) → au.trainingStepId = some stepId →
      (start.training.getTrainingStepById stepId).isSome = true)
    {event : Service.Event (Post Uuid Json)} (undisturbed : Undisturbed lrs r pool event) :
    Owed lrs launched start.units r ((statementService lrs).step pool event).1.state
      ((statementService lrs).step pool event).1.tasks := by
  cases event with
  | arrive post =>
    rw [(statementService lrs).tasks_arrive]
    exact owed.arrive post
  | step index =>
    rcases found : pool.tasks[index]? with _ | ⟨post, routine⟩
    · rw [(statementService lrs).step_of_none found]
      exact owed
    obtain ⟨phase, own⟩ : Phase lrs start.units post routine ∧ (post.session.registrationId = r → _) :=
      underway.tasks _ (List.mem_of_getElem? found)
    obtain ⟨state, -⟩ := (statementService lrs).tasks_step found
    obtain ⟨front, back, split, around⟩ := (statementService lrs).tasks_step_around found
    have landing := (statementService lrs).landing_step found
    have asks := undisturbed.ownId index rfl (post, routine) found
    rw [state, around]
    rw [split] at owed
    change Owed lrs launched start.units r (routine.advance StatementStore.perform pool.state).1
      (front ++ (post, (routine.advance StatementStore.perform pool.state).2) :: back)
    by_cases here : post.session.registrationId = r
    case neg => exact owed.elsewhere phase here
    have session : pool.state.resolveSession r = some post.session := underway.session.trans (own here)
    have standing : Standing lrs start.units pool.state post routine :=
      owed.standing (post, routine) (List.mem_append_right _ (List.mem_cons_self ..)) here
    have steps : ∀ au stepId, start.units post.session.auId = some au → au.trainingStepId = some stepId →
        (pool.state.training.getTrainingStepById stepId).isSome = true := by
      intro au stepId known step
      unfold TrainingTables.getTrainingStepById
      rw [underway.steps]
      exact mapped au stepId ⟨_, known⟩ step
    cases standing with
    | begun =>
      obtain ⟨unchanged, standing⟩ := Standing.begin lrs post underway.units fun stmt reads row member same =>
        (asks here rfl stmt reads row member same).trans here.symm
      rw [unchanged]
      exact owed.quiet (fun _ => session) steps (idle_recordStatement lrs post r).grants
        (Prod.ext unchanged rfl) fun _ => standing
    | replaying au stmt reads known =>
      refine owed.quiet (fun _ => session) steps rfl rfl fun _ => ?_
      dsimp only [replayPrior, Routine.advance]
      rcases applied : (lrs.replay (post.ordered (pool.state.rowsOf post.session.registrationId))).apply stmt
        with violation | machine
      · exact .refused _
      · exact .storing au stmt _ machine reads known applied
    | storing au stmt prior machine reads known applied =>
      have lands : lrs.replay prior = lrs.replay (pool.state.rowsOf r) :=
        undisturbed.lands (index, pool.state, .storeStatement (post.row stmt) prior)
          (landing ▸ List.mem_singleton_self _) here
      exact owed.storing issued ⟨here, session, known, underway.units, reads, applied, lands⟩ steps
    | crediting au stepId stmt outcome known step filed earned =>
      refine owed.quiet (fun _ => session) steps rfl rfl fun _ => ?_
      dsimp only [readRegistration, Routine.advance]
      split
      · exact .refused _
      · split
        · exact .accepted none filed
        · split
          · exact .refused _
          · exact .granting _ _ _ _ _ filed earned
    | granting au stepId toolId stmt outcome filed earned =>
      exact owed.granting here filed earned
        (undisturbed.lands (index, pool.state, _) (landing ▸ List.mem_singleton_self _))
    | marking stepId toolId stmt outcome filed granted =>
      exact owed.marking here session filed granted
    | refused failure =>
      exact owed.quiet (fun _ => session) steps rfl rfl fun _ => .refused failure
    | accepted grant filed =>
      exact owed.quiet (fun _ => session) steps rfl rfl fun _ => .accepted grant filed

/-- What comes of sending statements again, as the tables and the calls stand: the registration
is granted exactly if its statements earned that, and what was answered is stored. -/
structure RetriesEarn (lrs : Lrs Uuid Float Json) (units : Table Uuid (Cmi5AssignableUnit Uuid Float)) (r : Uuid)
    (pool : StatementPool Uuid Float Json) : Prop where
  exactly : (r ∈ pool.state.grants ↔ pool.state.Earned lrs r) ↔
    ∀ task ∈ pool.tasks, Midway lrs units r task → r ∈ pool.state.grants
  stored : ∀ task ∈ pool.tasks, task.1.session.registrationId = r → ∀ grant, task.2.answered = some (.ok grant) →
    Filed lrs pool.state task.1

/-- The call that is about to read its registration is told from those that read other rows by
what it answers if there is none. -/
theorem Standing.earned_of_crediting (standing : Standing lrs units s post routine)
    (crediting : Crediting lrs units r (post, routine)) :
    s.Earned lrs r := by
  obtain ⟨here, au, stepId, stmt, outcome, same, -⟩ := crediting
  dsimp only at here same
  subst here
  have unknown := congrArg (fun routine =>
    (routine.advance StatementStore.perform { s with registrations := Table.empty }).2) same
  simp only [readRegistration, Routine.advance, Table.empty_apply] at unknown
  cases standing with
  | begun =>
    unfold recordStatement at unknown
    rcases reads : lrs.fromValue post.raw with message | stmt
    · rw [reads] at unknown
      cases unknown
    · rw [reads] at unknown
      dsimp only at unknown
      split at unknown
      · cases unknown
      · split at unknown
        · cases unknown
        · split at unknown
          · cases unknown
          · cases unknown
  | replaying au stmt reads known =>
    dsimp only [replayPrior] at unknown
    split at unknown
    · cases unknown
    · cases unknown
  | storing au stmt prior machine reads known applied => cases same
  | crediting au stepId stmt outcome known mapped filed earned => exact earned
  | granting au stepId toolId stmt outcome filed earned => exact earned
  | marking stepId toolId stmt outcome filed granted => cases same
  | refused failure => cases same
  | accepted grant filed => cases same

theorem Standing.filed_of_answered {grant : Option (GrantInfo Uuid)} (standing : Standing lrs units s post routine)
    (answered : routine.answered = some (.ok grant)) : Filed lrs s post := by
  cases standing with
  | begun =>
    unfold recordStatement at answered
    rcases reads : lrs.fromValue post.raw with message | stmt
    · rw [reads] at answered
      cases answered
    · rw [reads] at answered
      cases answered
  | replaying au stmt reads known => cases answered
  | storing au stmt prior machine reads known applied => cases answered
  | crediting au stepId stmt outcome known mapped filed earned => exact filed
  | granting au stepId toolId stmt outcome filed earned => exact filed
  | marking stepId toolId stmt outcome filed granted => exact filed
  | refused failure => cases answered
  | accepted grant filed => exact filed

theorem Standing.earned_of_granting (standing : Standing lrs units s post routine)
    (granting : grantsFor r routine = true) :
    s.Earned lrs r := by
  cases standing with
  | begun =>
    rw [(idle_recordStatement lrs post r).grants] at granting
    cases granting
  | replaying au stmt reads known => cases granting
  | storing au stmt prior machine reads known applied => cases granting
  | crediting au stepId stmt outcome known mapped filed earned => cases granting
  | granting au stepId toolId stmt outcome filed earned =>
    obtain rfl : post.session.registrationId = r := of_decide_eq_true granting
    exact earned
  | marking stepId toolId stmt outcome filed granted => cases granting
  | refused failure => cases granting
  | accepted grant filed => cases granting

theorem Owed.retriesEarn (underway : Underway lrs start r pool)
    (owed : Owed lrs launched start.units r pool.state pool.tasks) : RetriesEarn lrs start.units r pool := by
  refine ⟨⟨fun exactly task member midway => exactly.mpr ?_, fun given => ⟨owed.granted, fun earned => ?_⟩⟩, ?_⟩
  · rcases midway with crediting | granting
    · exact (owed.standing task member crediting.1).earned_of_crediting crediting
    · have here : task.1.session.registrationId = r := by
        by_contra other
        rw [((underway.tasks task member).1.idle_of_ne other).grants] at granting
        cases granting
      exact (owed.standing task member here).earned_of_granting granting
  · rcases owed.owed earned with granted | ⟨task, member, midway⟩
    · exact granted
    · exact given task member midway
  · exact fun task member here grant answered => (owed.standing task member here).filed_of_answered answered

/-- Whatever order calls run in and wherever they stop, as long as no step disturbs those on a
registration: it is granted exactly if its statements earned that, unless a call has stopped
between its statement and the completion. -/
theorem retries_earn (lrs : Lrs Uuid Float Json) {start : StatementStore Uuid Float Json} {r : Uuid}
    (launched : Launched lrs start r) {schedule : List (Service.Event (Post Uuid Json))}
    (authentic : ∀ post, .arrive post ∈ schedule → post.session.registrationId = r →
      start.resolveSession r = some post.session)
    (every : EveryStep (fun past event => Undisturbed lrs r
      (((statementService lrs).machine start).run past) event) schedule)
    {past : List (Service.Event (Post Uuid Json))} (front : past <+: schedule) :
    RetriesEarn lrs start.units r (((statementService lrs).machine start).run past) := by
  have ungranted : r ∉ start.grants := List.count_eq_zero.mp launched.ungranted
  have nothing : Owed lrs (start.rowsOf r) start.units r start [] := by
    refine ⟨⟨_, .start⟩, fun task member => (nomatch member), fun satisfied => ?_,
      fun given => absurd given ungranted, fun earned => absurd earned launched.unearned⟩
    rw [launched.unsatisfied] at satisfied
    cases satisfied
  obtain ⟨underway, owed⟩ := Underway.run (fun pool => Owed lrs (start.rowsOf r) start.units r pool.state pool.tasks)
    authentic every nothing (fun underway owed undisturbed =>
      owed.step underway launched.issued launched.mapped undisturbed) front
  exact owed.retriesEarn underway

end Retries

section Course

def stepsOf (index steps : Nat) : List (Service.Event (Post HexId (Statement HexId Int))) :=
  List.replicate steps (.step index)

/-- The pass is granted in full, and sent again. -/
def passedThenRetried : List (Service.Event (Post HexId (Statement HexId Int))) :=
  .arrive initializedPost :: stepsOf 0 3 ++ .arrive passedPost :: stepsOf 1 6 ++ .arrive passedPost :: stepsOf 2 1

/-- The call with the pass stops once that is stored. -/
def stoppedThenRetried : List (Service.Event (Post HexId (Statement HexId Int))) :=
  .arrive initializedPost :: stepsOf 0 3 ++ .arrive passedPost :: stepsOf 1 3 ++ .arrive passedPost :: stepsOf 2 1

/-- The same unit, launched a second time. -/
def twiceLaunched : StatementStore HexId Int (Statement HexId Int) :=
  { safetyLaunched with
    registrations := safetyLaunched.registrations.insert (.repeating 10)
      { userId := .repeating 3, auId := .repeating 4, launchMode := "Normal", satisfiedAt := none, completedAt := none
        passedAt := none, updatedAt := 0 } }

/-- On the second launch, a statement with the id of one from the first. -/
def initializedElsewhere : Post HexId (Statement HexId Int) :=
  { initializedPost with
    session := ⟨.repeating 10, .repeating 3, .repeating 4, "http://example.com/au/1", "Normal"⟩
    raw := { initializedPost.raw with context := some ⟨some (.repeating 10), some ⟨some [⟨categories.CMI5⟩]⟩⟩ } }

def sameIdTwice : List (Service.Event (Post HexId (Statement HexId Int))) :=
  .arrive initializedPost :: stepsOf 0 3 ++ .arrive initializedElsewhere :: stepsOf 1 1

theorem retries_earn_passed :
    RetriesEarn asSent safetyLaunched.units (.repeating 5)
      (((statementService asSent).machine safetyLaunched).run passedThenRetried) := by
  have steps : ∀ n (bound : n < passedThenRetried.length),
      let pool := ((statementService asSent).machine safetyLaunched).run (passedThenRetried.take n)
      (∀ entry ∈ (statementService asSent).landing pool passedThenRetried[n],
        entry.2.2.Lands asSent (.repeating 5) entry.2.1) ∧
        ∀ row ∈ pool.state.statements, row.registrationId = .repeating 5 := by
    decide +kernel
  refine retries_earn asSent launched_safetyLaunched ?_ (EveryStep.of_getElem fun n bound => ?_) List.prefix_rfl
  · intro post there _
    have arrivals : ∀ event ∈ passedThenRetried, ∀ post, event = .arrive post → post = initializedPost ∨
        post = passedPost := by
      intro event member post same
      subst same
      simpa [passedThenRetried, stepsOf, List.replicate] using member
    rcases arrivals _ there post rfl with rfl | rfl
    · rfl
    · rfl
  · obtain ⟨lands, own⟩ := steps n bound
    exact ⟨lands, fun _ _ _ _ _ _ _ _ row member _ => own row member⟩

/-- Sent again, the statement is accepted without the grant it earned; and one is accepted, and
not stored, whose id another registration has used. -/
theorem retry_loses_grant :
    let stopped := ((statementService asSent).machine safetyLaunched).run stoppedThenRetried
    let twice := ((statementService asSent).machine twiceLaunched).run sameIdTwice
    (∃ task ∈ stopped.tasks, task.2.answered = some (.ok none) ∧ Filed asSent stopped.state task.1 ∧
        ¬ (.repeating 5 ∈ stopped.state.grants ↔ stopped.state.Earned asSent (.repeating 5))) ∧
      ∃ task ∈ twice.tasks, task.2.answered = some (.ok none) ∧ ¬ Filed asSent twice.state task.1 := by
  intro stopped twice
  have retried : stopped.tasks[2]?.map (fun task => (task.1.session.registrationId, task.1.statementId task.1.raw)) =
      some (.repeating 5, .repeating 8) := by decide +kernel
  have nothing : stopped.tasks[2]?.bind (fun task => task.2.answered) = some (.ok none) := by decide +kernel
  have elsewhere : twice.tasks[1]?.map (fun task => task.1.session.registrationId) = some (.repeating 10) :=
    by decide +kernel
  have nothing' : twice.tasks[1]?.bind (fun task => task.2.answered) = some (.ok none) := by decide +kernel
  obtain ⟨task, found, same⟩ := Option.map_eq_some_iff.mp retried
  obtain ⟨registration, id⟩ := Prod.mk.inj same
  obtain ⟨other, found', registration'⟩ := Option.map_eq_some_iff.mp elsewhere
  rw [found] at nothing
  rw [found'] at nothing'
  refine ⟨⟨task, List.mem_of_getElem? found, nothing, ⟨task.1.raw, rfl, ?_⟩, fun exactly => ?_⟩,
    other, List.mem_of_getElem? found', nothing', ?_⟩
  · rw [registration, id]
    decide +kernel
  · have earned : stopped.state.Earned asSent (.repeating 5) :=
      ⟨_, safetyUnit, .passed, rfl, rfl, rfl, rfl, rfl, by decide +kernel⟩
    have none_ : stopped.state.grants = [] := by decide +kernel
    have given := exactly.mpr earned
    rw [none_] at given
    cases given
  · rintro ⟨stmt, -, there⟩
    have none_ : twice.state.rowsOf (.repeating 10) = [] := by decide +kernel
    rw [registration', none_] at there
    cases there

end Course

end CoopSpaces.Cmi5

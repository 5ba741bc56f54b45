import CoopSpaces.Cmi5.Validation

namespace CoopSpaces.Cmi5

namespace SessionState
variable {Uuid Float : Type}

/-- The machine as the code runs it: the state is written in place, and what was written before an
error would stay. -/
def applyInPlace (m : SessionState) (stmt : Statement Uuid Float) : SessionState × Except (Violation Float) Unit :=
  if m.terminated then (m, .error .afterTerminated)
  else
    let counts := stmt.isMoveon
    if stmt.verbId = verbs.INITIALIZED then
      if m.initialized then (m, .error .alreadyInitialized)
      else
        let m := { m with initialized := true }
        (m, .ok ())
    else if stmt.verbId = verbs.PASSED then
      if !m.initialized then (m, .error .notInitialized)
      else if counts then
        if m.outcome.failed then (m, .error .bothPassedAndFailed)
        else
          let m := { m with outcome := { m.outcome with passed := true } }
          (m, .ok ())
      else (m, .ok ())
    else if stmt.verbId = verbs.FAILED then
      if !m.initialized then (m, .error .notInitialized)
      else if counts then
        if m.outcome.passed then (m, .error .bothPassedAndFailed)
        else
          let m := { m with outcome := { m.outcome with failed := true } }
          (m, .ok ())
      else (m, .ok ())
    else if stmt.verbId = verbs.COMPLETED then
      if !m.initialized then (m, .error .notInitialized)
      else if counts then
        let m := { m with outcome := { m.outcome with completed := true } }
        (m, .ok ())
      else (m, .ok ())
    else if stmt.verbId = verbs.TERMINATED then
      if !m.initialized then (m, .error .notInitialized)
      else
        let m := { m with terminated := true }
        (m, .ok ())
    else (m, .error (.unknownVerb stmt.verbId))

/-- A state that a refusal leaves alone. -/
def settled (m : SessionState) :
    Except (Violation Float) SessionState → SessionState × Except (Violation Float) Unit
  | .ok taken => (taken, .ok ())
  | .error violation => (m, .error violation)

theorem applyInPlace_eq (m : SessionState) (stmt : Statement Uuid Float) :
    m.applyInPlace stmt = m.settled (m.apply stmt) := by
  simp only [apply, apply_ite m.settled]
  rfl

end SessionState

section
variable (Uuid Float : Type)

/-- A session's machine, to which statements come in some order. -/
def session : Machine SessionState (Statement Uuid Float) (Except (Violation Float) Unit) where
  start := .new
  step m stmt := m.applyInPlace stmt

end

section
variable {Uuid Float : Type}

/-- The statements that the machine took, in their order. -/
def accepted (stmts : List (Statement Uuid Float)) : List (Statement Uuid Float) :=
  (session Uuid Float).history (fun m stmt =>
    match (m.applyInPlace stmt).2 with
    | .ok _ => [stmt]
    | .error _ => []) stmts

/-- What the statements of a list add up to, by their verbs. -/
def outcomeOf (stmts : List (Statement Uuid Float)) : SessionOutcome where
  passed := stmts.any (·.verbId == verbs.PASSED)
  completed := stmts.any (·.verbId == verbs.COMPLETED)
  failed := stmts.any (·.verbId == verbs.FAILED)

/-- A legal session: it begins with its one `initialized`, ends with `terminated` if it has it, and
of the statements that move the learner on none passes where another fails. -/
structure LegalSession (stmts : List (Statement Uuid Float)) : Prop where
  auVerbs : ∀ stmt ∈ stmts, isAuVerb stmt.verbId = true
  initialized : ∀ first rest, stmts = first :: rest →
    first.verbId = verbs.INITIALIZED ∧ ∀ later ∈ rest, later.verbId ≠ verbs.INITIALIZED
  terminated : ∀ front last rest, stmts = front ++ last :: rest → last.verbId = verbs.TERMINATED → rest = []
  verdict : ¬ ((∃ stmt ∈ stmts, stmt.isMoveon = true ∧ stmt.verbId = verbs.PASSED) ∧
    ∃ stmt ∈ stmts, stmt.isMoveon = true ∧ stmt.verbId = verbs.FAILED)

def SessionOutcome.le (a b : SessionOutcome) : Prop :=
  (a.passed = true → b.passed = true) ∧ (a.completed = true → b.completed = true) ∧
    (a.failed = true → b.failed = true)

end

namespace SessionState
variable {Uuid Float : Type} {stmts past : List (Statement Uuid Float)} {stmt : Statement Uuid Float}

/-- Where a list of statements that are all taken leads. -/
def reached (stmts : List (Statement Uuid Float)) : SessionState where
  initialized := stmts.any (·.verbId == verbs.INITIALIZED)
  terminated := stmts.any (·.verbId == verbs.TERMINATED)
  outcome := outcomeOf (stmts.filter (·.isMoveon))

theorem reached_snoc (past : List (Statement Uuid Float)) (stmt : Statement Uuid Float) :
    reached (past ++ [stmt]) = (reached past).after stmt := by
  unfold reached after outcomeOf SessionOutcome.join Statement.counts
  cases moves : stmt.isMoveon <;> simp [moves]

theorem mem_outcome_passed : (reached stmts).outcome.passed = true ↔
    ∃ stmt ∈ stmts, stmt.isMoveon = true ∧ stmt.verbId = verbs.PASSED := by
  simp [reached, outcomeOf]

theorem mem_outcome_failed : (reached stmts).outcome.failed = true ↔
    ∃ stmt ∈ stmts, stmt.isMoveon = true ∧ stmt.verbId = verbs.FAILED := by
  simp [reached, outcomeOf]

theorem counts_passed : stmt.counts.passed = true ↔ stmt.isMoveon = true ∧ stmt.verbId = verbs.PASSED := by
  simp [Statement.counts]

theorem counts_failed : stmt.counts.failed = true ↔ stmt.isMoveon = true ∧ stmt.verbId = verbs.FAILED := by
  simp [Statement.counts]

theorem reached_terminated : (reached stmts).terminated = true ↔ ∃ stmt ∈ stmts, stmt.verbId = verbs.TERMINATED := by
  simp [reached]

theorem reached_initialized (legal : LegalSession stmts) : (reached stmts).initialized = true ↔ stmts ≠ [] := by
  cases stmts with
  | nil => simp [reached]
  | cons first rest => simp [reached, (legal.initialized first rest rfl).1]

theorem admits_of_legalSession (legal : LegalSession past)
    (longer : LegalSession (past ++ [stmt])) : (reached past).Admits stmt where
  running := by
    rw [← Bool.not_eq_true, reached_terminated]
    rintro ⟨last, there, terminates⟩
    obtain ⟨front, rest, rfl⟩ := List.append_of_mem there
    have none_ := longer.terminated front last (rest ++ [stmt]) (by simp) terminates
    simp at none_
  auVerb := longer.auVerbs stmt (by simp)
  first := by
    rw [← Bool.not_eq_true, reached_initialized legal, not_not]
    constructor
    · intro initializes
      cases past with
      | nil => rfl
      | cons first rest =>
        have once := (longer.initialized first (rest ++ [stmt]) rfl).2 stmt (by simp)
        exact absurd initializes once
    · rintro rfl
      exact (longer.initialized stmt [] rfl).1
  passed := by
    intro passes
    rw [← Bool.not_eq_true, mem_outcome_failed]
    rintro ⟨other, there, fails⟩
    exact longer.verdict ⟨⟨stmt, by simp, counts_passed.mp passes⟩, other, by simp [there], fails⟩
  failed := by
    intro fails
    rw [← Bool.not_eq_true, mem_outcome_passed]
    rintro ⟨other, there, passes⟩
    exact longer.verdict ⟨⟨other, by simp [there], passes⟩, stmt, by simp, counts_failed.mp fails⟩

theorem Admits.legalSession (legal : LegalSession past) (admits : (reached past).Admits stmt) :
    LegalSession (past ++ [stmt]) where
  auVerbs := by
    intro other there
    rcases List.mem_append.mp there with there | there
    · exact legal.auVerbs other there
    · obtain rfl := List.mem_singleton.mp there
      exact admits.auVerb
  initialized := by
    intro first rest split
    have begun := reached_initialized legal
    cases past with
    | nil =>
      cases split
      have unbegun : (reached ([] : List (Statement Uuid Float))).initialized = false := rfl
      exact ⟨admits.first.mpr unbegun, by simp⟩
    | cons other more =>
      cases split
      obtain ⟨initializes, once⟩ := legal.initialized first more rfl
      refine ⟨initializes, fun later there => ?_⟩
      rcases List.mem_append.mp there with there | there
      · exact once later there
      · obtain rfl := List.mem_singleton.mp there
        intro again
        have unbegun := admits.first.mp again
        rw [begun.mpr (List.cons_ne_nil first more)] at unbegun
        cases unbegun
  terminated := by
    intro front last rest split terminates
    rcases List.eq_nil_or_concat rest with rfl | ⟨more, final, rfl⟩
    · rfl
    · rw [List.concat_eq_append, ← List.cons_append, ← List.append_assoc] at split
      obtain ⟨rfl, -⟩ := List.append_inj' split rfl
      have there : last ∈ front ++ last :: more := List.mem_append_right front (List.mem_cons_self ..)
      have ended := reached_terminated.mpr ⟨last, there, terminates⟩
      rw [admits.running] at ended
      cases ended
  verdict := by
    rintro ⟨⟨p, inP, passes⟩, f, inF, fails⟩
    rcases List.mem_append.mp inP with pBefore | pLast <;> rcases List.mem_append.mp inF with fBefore | fLast
    · exact legal.verdict ⟨⟨p, pBefore, passes⟩, f, fBefore, fails⟩
    · obtain rfl := List.mem_singleton.mp fLast
      have clear := admits.failed (counts_failed.mpr fails)
      rw [mem_outcome_passed.mpr ⟨p, pBefore, passes⟩] at clear
      cases clear
    · obtain rfl := List.mem_singleton.mp pLast
      have clear := admits.passed (counts_passed.mpr passes)
      rw [mem_outcome_failed.mpr ⟨f, fBefore, fails⟩] at clear
      cases clear
    · obtain rfl := List.mem_singleton.mp pLast
      obtain rfl := List.mem_singleton.mp fLast
      exact absurd (passes.2.symm.trans fails.2) (by decide)

theorem legalSession_snoc_iff (legal : LegalSession past) :
    LegalSession (past ++ [stmt]) ↔ (reached past).Admits stmt :=
  ⟨admits_of_legalSession legal, Admits.legalSession legal⟩

theorem legalSession_nil : LegalSession ([] : List (Statement Uuid Float)) :=
  ⟨by simp, by simp, by simp, by simp⟩

theorem legalSession_front (longer : LegalSession (past ++ [stmt])) : LegalSession past where
  auVerbs other there := longer.auVerbs other (List.mem_append_left _ there)
  initialized := by
    rintro first rest rfl
    obtain ⟨initializes, once⟩ := longer.initialized first (rest ++ [stmt]) rfl
    exact ⟨initializes, fun later there => once later (List.mem_append_left _ there)⟩
  terminated := by
    rintro front last rest rfl terminates
    have none_ := longer.terminated front last (rest ++ [stmt]) (by simp) terminates
    simp at none_
  verdict := by
    rintro ⟨⟨p, inP, passes⟩, f, inF, fails⟩
    exact longer.verdict ⟨⟨p, List.mem_append_left _ inP, passes⟩, f, List.mem_append_left _ inF, fails⟩

theorem ok_iff_admits {m : SessionState} : (m.applyInPlace stmt).2 = .ok () ↔ m.Admits stmt := by
  rw [applyInPlace_eq]
  cases applied : m.apply stmt with
  | ok taken => exact iff_of_true rfl (apply_eq_ok_iff.mp applied).1
  | error violation =>
    refine iff_of_false (fun same => by cases same) fun admits => ?_
    rw [apply_eq_ok_iff.mpr ⟨admits, rfl⟩] at applied
    cases applied

theorem applyInPlace_of_admits {m : SessionState} (admits : m.Admits stmt) :
    m.applyInPlace stmt = (m.after stmt, .ok ()) := by
  rw [applyInPlace_eq, apply_eq_ok_iff.mpr ⟨admits, rfl⟩]
  rfl

theorem applyInPlace_of_error {m : SessionState} {violation : Violation Float}
    (refused : (m.applyInPlace stmt).2 = .error violation) : (m.applyInPlace stmt).1 = m := by
  rw [applyInPlace_eq] at refused ⊢
  cases applied : m.apply stmt with
  | ok taken =>
    rw [applied] at refused
    cases refused
  | error other => rfl

theorem accepted_snoc (past : List (Statement Uuid Float)) (stmt : Statement Uuid Float) :
    accepted (past ++ [stmt]) = accepted past ++
      match (((session Uuid Float).run past).applyInPlace stmt).2 with
      | .ok _ => [stmt]
      | .error _ => [] := (session Uuid Float).history_snoc _ past stmt

theorem run_accepted (stmts : List (Statement Uuid Float)) :
    LegalSession (accepted stmts) ∧ (session Uuid Float).run stmts = reached (accepted stmts) := by
  induction stmts using List.reverseRecOn with
  | nil => exact ⟨legalSession_nil, rfl⟩
  | append_singleton past stmt ih =>
    obtain ⟨legal, here⟩ := ih
    rw [accepted_snoc, Machine.run_snoc]
    show LegalSession _ ∧ (((session Uuid Float).run past).applyInPlace stmt).1 = _
    rw [here]
    cases answered : ((reached (accepted past)).applyInPlace stmt).2 with
    | ok done =>
      have admits := ok_iff_admits.mp answered
      rw [applyInPlace_of_admits admits, reached_snoc]
      exact ⟨admits.legalSession legal, rfl⟩
    | error violation =>
      rw [applyInPlace_of_error answered, List.append_nil]
      exact ⟨legal, rfl⟩

theorem accepted_of_legal {stmts : List (Statement Uuid Float)} (legal : LegalSession stmts) :
    accepted stmts = stmts := by
  induction stmts using List.reverseRecOn with
  | nil => rfl
  | append_singleton past stmt ih =>
    have whole := ih (legalSession_front legal)
    have here := (run_accepted past).2
    rw [whole] at here
    have admits := (legalSession_snoc_iff (legalSession_front legal)).mp legal
    rw [accepted_snoc, whole, here, applyInPlace_of_admits admits]

theorem outcome_le_applyInPlace (m : SessionState) (stmt : Statement Uuid Float) :
    m.outcome.le (m.applyInPlace stmt).1.outcome := by
  cases answered : (m.applyInPlace stmt).2 with
  | ok done =>
    rw [applyInPlace_of_admits (ok_iff_admits.mp answered)]
    refine ⟨?_, ?_, ?_⟩ <;> simp +contextual [after, SessionOutcome.join]
  | error violation =>
    rw [applyInPlace_of_error answered]
    exact ⟨id, id, id⟩

theorem outcome_le_runFrom (stmts : List (Statement Uuid Float)) (m : SessionState) :
    m.outcome.le ((session Uuid Float).runFrom m stmts).outcome := by
  induction stmts generalizing m with
  | nil => exact ⟨id, id, id⟩
  | cons stmt rest ih =>
    obtain ⟨passed, completed, failed⟩ := outcome_le_applyInPlace m stmt
    obtain ⟨passed', completed', failed'⟩ := ih (m.applyInPlace stmt).1
    exact ⟨passed' ∘ passed, completed' ∘ completed, failed' ∘ failed⟩

end SessionState

section Binding
variable {Uuid Float : Type} [DecidableEq Uuid] [LT Float] [DecidableLT Float] {stmt : Statement Uuid Float}
  {expect : SessionExpectation Uuid Float}

/-- The statement is the launched learner's, about the launched unit and registration, and no pass
below the mastery score. -/
structure BoundTo (stmt : Statement Uuid Float) (expect : SessionExpectation Uuid Float) : Prop where
  learner : ∃ account, stmt.actor.account = some account ∧ account.homePage = expect.actorHomePage ∧
    account.name = expect.actorAccountName
  registration : stmt.registration = some expect.registration
  activity : stmt.objectActivityId = expect.activityId
  mastery : stmt.verbId = verbs.PASSED → ∀ required, expect.masteryScore = some required →
    ∃ scaled, ((stmt.result.bind (·.score)).bind (·.scaled)) = some scaled ∧ ¬ scaled < required

omit [DecidableEq Uuid] in
theorem mastery_of_checkResult {required : Float} (checked : checkResult stmt (some required) = .ok ())
    (passes : stmt.verbId = verbs.PASSED) :
    ∃ scaled, ((stmt.result.bind (·.score)).bind (·.scaled)) = some scaled ∧ ¬ scaled < required := by
  rw [checkResult, if_pos passes] at checked
  cases result : stmt.result with
  | none =>
    rw [result] at checked
    cases checked
  | some r =>
    simp only [result] at checked
    split at checked
    · cases checked
    · cases scaled : r.score.bind Score.scaled with
      | none => simp [scaled] at checked
      | some v =>
        refine ⟨v, scaled, fun below => ?_⟩
        simp [scaled, below] at checked

theorem boundTo_of_validated (valid : validateCmi5Statement stmt expect = .ok ()) : BoundTo stmt expect := by
  unfold validateCmi5Statement at valid
  cases account : stmt.actor.account with
  | none =>
    rw [account] at valid
    cases valid
  | some a =>
    simp only [account] at valid
    split at valid
    · cases valid
    · rename_i learner
      obtain ⟨homePage, name⟩ := not_or.mp learner
      split at valid
      · cases valid
      · rename_i registration
        split at valid
        · cases valid
        · rename_i activity
          split at valid
          · cases valid
          · split at valid
            · cases valid
            · refine ⟨⟨a, account, not_not.mp homePage, not_not.mp name⟩, not_not.mp registration,
                not_not.mp activity, ?_⟩
              intro passes required mastery
              rw [mastery] at valid
              exact mastery_of_checkResult valid passes

end Binding

theorem evaluateMoveOn_mono (moveOn : MoveOn) {a b : SessionOutcome} (passed : a.passed = true → b.passed = true)
    (completed : a.completed = true → b.completed = true) (met : evaluateMoveOn moveOn a = true) :
    evaluateMoveOn moveOn b = true := by
  cases moveOn with
  | passed => exact passed met
  | completed => exact completed met
  | completedAndPassed =>
    obtain ⟨c, p⟩ := Bool.and_eq_true_iff.mp met
    exact Bool.and_eq_true_iff.mpr ⟨completed c, passed p⟩
  | completedOrPassed =>
    rcases Bool.or_eq_true_iff.mp met with c | p
    · exact Bool.or_eq_true_iff.mpr (.inl (completed c))
    · exact Bool.or_eq_true_iff.mpr (.inr (passed p))
  | notApplicable => exact met

/-- The machine admits exactly the legal sessions: what it takes is one, what it refuses would not be and changes
nothing, and a legal session is taken as a whole. The outcome is that of the statements taken that move the
learner on; it never has both verdicts, and loses none. A statement that is valid is bound to its session. -/
theorem session_admits_legal {Uuid Float : Type} [DecidableEq Uuid] [LT Float] [DecidableLT Float]
    (stmts : List (Statement Uuid Float)) :
    LegalSession (accepted stmts) ∧
      (∀ stmt, (((session Uuid Float).run stmts).applyInPlace stmt).2 = .ok () ↔
        LegalSession (accepted stmts ++ [stmt])) ∧
      (∀ (stmt : Statement Uuid Float) violation,
        (((session Uuid Float).run stmts).applyInPlace stmt).2 = .error violation →
          (((session Uuid Float).run stmts).applyInPlace stmt).1 = (session Uuid Float).run stmts) ∧
      (LegalSession stmts ↔ accepted stmts = stmts) ∧
      ¬ (((session Uuid Float).run stmts).outcome.passed = true ∧
        ((session Uuid Float).run stmts).outcome.failed = true) ∧
      ((session Uuid Float).run stmts).outcome = outcomeOf ((accepted stmts).filter (·.isMoveon)) ∧
      (∀ past, past <+: stmts → ((session Uuid Float).run past).outcome.le ((session Uuid Float).run stmts).outcome) ∧
      (∀ (moveOn : MoveOn) (a b : SessionOutcome), (a.passed = true → b.passed = true) →
        (a.completed = true → b.completed = true) → evaluateMoveOn moveOn a = true → evaluateMoveOn moveOn b = true) ∧
      ∀ (stmt : Statement Uuid Float) (expect : SessionExpectation Uuid Float),
        validateCmi5Statement stmt expect = .ok () → BoundTo stmt expect := by
  obtain ⟨legal, here⟩ := SessionState.run_accepted stmts
  refine ⟨legal, ?_, ?_, ?_, ?_, ?_, ?_, ?_, ?_⟩
  · intro stmt
    rw [here, SessionState.ok_iff_admits, SessionState.legalSession_snoc_iff legal]
  · intro stmt violation refused
    exact SessionState.applyInPlace_of_error refused
  · constructor
    · exact SessionState.accepted_of_legal
    · intro whole
      rwa [whole] at legal
  · rw [here, SessionState.mem_outcome_passed, SessionState.mem_outcome_failed]
    exact legal.verdict
  · rw [here]
    rfl
  · rintro past ⟨later, rfl⟩
    rw [Machine.run_append]
    exact SessionState.outcome_le_runFrom later _
  · intro moveOn a b passed completed met
    exact evaluateMoveOn_mono moveOn passed completed met
  · intro stmt expect valid
    exact boundTo_of_validated valid

end CoopSpaces.Cmi5

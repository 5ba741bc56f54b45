import CoopSpaces.Cmi5.RecordStatement

namespace CoopSpaces.Cmi5

namespace Lrs
variable {Uuid Float Json : Type} (lrs : Lrs Uuid Float Json)

def hasVerb (verb : String) (row : Cmi5StatementRow Uuid Json) : Bool :=
  match lrs.fromValue row.statement with
  | .ok stmt => stmt.verbId == verb
  | .error _ => false

/-- What a stored statement adds to the outcome. -/
def counted (row : Cmi5StatementRow Uuid Json) : SessionOutcome :=
  match lrs.fromValue row.statement with
  | .ok stmt => stmt.counts
  | .error _ => ⟨false, false, false⟩

/-- The outcome of stored statements, in whatever order they come. -/
def outcomeOf (rows : List (Cmi5StatementRow Uuid Json)) : SessionOutcome where
  passed := rows.any fun row => (lrs.counted row).passed
  completed := rows.any fun row => (lrs.counted row).completed
  failed := rows.any fun row => (lrs.counted row).failed

/-- A statement the LMS issued itself, or one that does not read. -/
def IssuedByLms (row : Cmi5StatementRow Uuid Json) : Prop :=
  ∀ stmt, lrs.fromValue row.statement = .ok stmt → isAuVerb stmt.verbId = false

end Lrs

section Accepted
variable {Uuid Float Json : Type} {lrs : Lrs Uuid Float Json} {launched rows : List (Cmi5StatementRow Uuid Json)}
  {row : Cmi5StatementRow Uuid Json} {stmt : Statement Uuid Float} {m : SessionState}

/-- Rows stored one by one behind those of the launch, each as the machine admits it. -/
inductive AcceptedInOrder (lrs : Lrs Uuid Float Json) (launched : List (Cmi5StatementRow Uuid Json)) :
    List (Cmi5StatementRow Uuid Json) → SessionState → Prop
  | start : AcceptedInOrder lrs launched launched .new
  | next {rows : List (Cmi5StatementRow Uuid Json)} {m : SessionState} {row : Cmi5StatementRow Uuid Json}
      {stmt : Statement Uuid Float} : AcceptedInOrder lrs launched rows m →
        lrs.fromValue row.statement = .ok stmt → m.Admits stmt →
          AcceptedInOrder lrs launched (rows ++ [row]) (m.after stmt)

theorem Lrs.IssuedByLms.silent (issued : lrs.IssuedByLms row) :
    lrs.counted row = ⟨false, false, false⟩ ∧ (∀ verb, isAuVerb verb = true → lrs.hasVerb verb row = false) ∧
      ∀ m, lrs.replayRow m row = m := by
  unfold Lrs.counted Lrs.hasVerb Lrs.replayRow
  rcases reads : lrs.fromValue row.statement with failure | stmt
  · exact ⟨rfl, fun _ _ => rfl, fun _ => rfl⟩
  · have other : isAuVerb stmt.verbId = false := issued stmt reads
    have differs : ∀ verb, isAuVerb verb = true → (stmt.verbId == verb) = false := by
      intro verb au
      refine beq_false_of_ne ?_
      rintro rfl
      rw [other] at au
      cases au
    refine ⟨?_, differs, fun m => ?_⟩
    · simp only [Statement.counts, differs verbs.PASSED (by decide), differs verbs.COMPLETED (by decide),
        differs verbs.FAILED (by decide), Bool.and_false]
    · simp only
      rcases taken : m.apply stmt with refused | m'
      · rfl
      · have au := (SessionState.apply_eq_ok_iff.mp taken).1.auVerb
        rw [other] at au
        cases au

theorem Lrs.replayRow_of_admits (reads : lrs.fromValue row.statement = .ok stmt) (admits : m.Admits stmt) :
    lrs.replayRow m row = m.after stmt := by
  simp only [Lrs.replayRow, reads, SessionState.apply_eq_ok_iff.mpr ⟨admits, rfl⟩]

theorem Lrs.replay_append_singleton (rows : List (Cmi5StatementRow Uuid Json)) (row : Cmi5StatementRow Uuid Json) :
    lrs.replay (rows ++ [row]) = lrs.replayRow (lrs.replay rows) row := List.foldl_append ..

theorem Lrs.outcomeOf_append_singleton (rows : List (Cmi5StatementRow Uuid Json)) (row : Cmi5StatementRow Uuid Json) :
    lrs.outcomeOf (rows ++ [row]) = (lrs.outcomeOf rows).join (lrs.counted row) := by
  simp only [Lrs.outcomeOf, SessionOutcome.join, List.any_append, List.any_cons, List.any_nil, Bool.or_false]

namespace AcceptedInOrder

section
variable (accepted : AcceptedInOrder lrs launched rows m)
include accepted

theorem replay (issued : ∀ row ∈ launched, lrs.IssuedByLms row) : lrs.replay rows = m := by
  induction accepted with
  | start =>
    have silent : ∀ (from_ : List (Cmi5StatementRow Uuid Json)), (∀ row ∈ from_, lrs.IssuedByLms row) →
        from_.foldl lrs.replayRow .new = .new := by
      intro from_ all
      induction from_ with
      | nil => rfl
      | cons row rest ih =>
        rw [List.foldl_cons, (all row (List.mem_cons_self ..)).silent.2.2]
        exact ih fun other there => all other (List.mem_cons_of_mem _ there)
    exact silent launched issued
  | next _ reads admits ih => rw [Lrs.replay_append_singleton, ih, Lrs.replayRow_of_admits reads admits]

theorem outcome (issued : ∀ row ∈ launched, lrs.IssuedByLms row) : lrs.outcomeOf rows = m.outcome := by
  induction accepted with
  | start =>
    have none_ : ∀ pick : SessionOutcome → Bool, pick ⟨false, false, false⟩ = false →
        (launched.any fun row => pick (lrs.counted row)) = false := by
      intro pick zero
      refine List.any_eq_false.mpr fun row there => ?_
      rw [(issued row there).silent.1, zero]
      exact Bool.false_ne_true
    simp only [Lrs.outcomeOf, none_ SessionOutcome.passed rfl, none_ SessionOutcome.completed rfl,
      none_ SessionOutcome.failed rfl]
    rfl
  | next _ reads _ ih => rw [Lrs.outcomeOf_append_singleton, ih, Lrs.counted, reads, SessionState.after]

theorem not_both : m.outcome.passed = true →
    m.outcome.failed = false := by
  induction accepted with
  | start => exact fun passed => nomatch passed
  | @next rows m row stmt _ _ admits ih =>
    simp only [SessionState.after, SessionOutcome.join, Bool.or_eq_true, Bool.or_eq_false_iff]
    have other : stmt.counts.failed = true → stmt.counts.passed = false := by
      simp only [Statement.counts, Bool.and_eq_true, Bool.and_eq_false_iff, beq_iff_eq, beq_eq_false_iff_ne]
      rintro ⟨_, failed⟩
      rw [failed]
      exact .inr (by decide)
    rintro (before | now)
    · refine ⟨ih before, ?_⟩
      by_contra failed
      rw [admits.failed (by simpa using failed)] at before
      cases before
    · refine ⟨admits.passed now, ?_⟩
      by_contra failed
      rw [other (by simpa using failed)] at now
      cases now

theorem initialized_once (issued : ∀ row ∈ launched, lrs.IssuedByLms row) :
    rows.countP (lrs.hasVerb verbs.INITIALIZED) = if m.initialized then 1 else 0 := by
  induction accepted with
  | start =>
    refine List.countP_eq_zero.mpr fun row there => ?_
    rw [(issued row there).silent.2.1 _ (by decide)]
    exact Bool.false_ne_true
  | @next rows m row stmt _ reads admits ih =>
    have here : lrs.hasVerb verbs.INITIALIZED row = (stmt.verbId == verbs.INITIALIZED) := by rw [Lrs.hasVerb, reads]
    rw [List.countP_append, ih, List.countP_singleton, here, SessionState.after]
    by_cases first : stmt.verbId = verbs.INITIALIZED
    · simp only [admits.first.mp first, first, beq_self_eq_true, Bool.or_true, if_true, Bool.false_eq_true, if_false]
    · have before : m.initialized = true := by simpa using (not_congr admits.first).mp first
      simp only [before, beq_false_of_ne first, Bool.true_or, if_true, Bool.false_eq_true, if_false]

theorem terminated (issued : ∀ row ∈ launched, lrs.IssuedByLms row) (there : row ∈ rows)
    (ends : lrs.hasVerb verbs.TERMINATED row = true) : m.terminated = true := by
  induction accepted with
  | start =>
    rw [(issued row there).silent.2.1 _ (by decide)] at ends
    cases ends
  | next _ reads _ ih =>
    rw [SessionState.after, Bool.or_eq_true]
    rcases List.mem_append.mp there with old | new
    · exact .inl (ih old)
    · obtain rfl := List.mem_singleton.mp new
      rw [Lrs.hasVerb, reads] at ends
      exact .inr ends

theorem last_terminated (issued : ∀ row ∈ launched, lrs.IssuedByLms row)
    {front back : List (Cmi5StatementRow Uuid Json)} (split : rows = front ++ row :: back)
    (ends : lrs.hasVerb verbs.TERMINATED row = true) : back = [] := by
  cases accepted with
  | start =>
    have there : row ∈ launched := split ▸ List.mem_append_right _ (List.mem_cons_self ..)
    rw [(issued row there).silent.2.1 _ (by decide)] at ends
    cases ends
  | @next rows m last stmt before reads admits =>
    rcases List.eq_nil_or_concat back with none_ | ⟨back', final, rfl⟩
    · exact none_
    · rw [List.concat_eq_append, ← List.cons_append, ← List.append_assoc] at split
      obtain ⟨rfl, -⟩ := List.append_inj' split rfl
      have ended := before.terminated issued (List.mem_append_right _ (List.mem_cons_self ..)) ends
      rw [admits.running] at ended
      cases ended

end

end AcceptedInOrder

end Accepted

end CoopSpaces.Cmi5

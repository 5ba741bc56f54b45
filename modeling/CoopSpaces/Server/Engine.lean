import CoopSpaces.Server.Rules

namespace CoopSpaces

section
variable {Uuid Json : Type} [DecidableEq Uuid] [IdText Uuid] (site : SiteTime Json) (principal : AccessPrincipal Uuid)
  (policy : AccessPolicy Uuid) (rules : List (AccessRule Uuid)) (schedules : List (Schedule Uuid Json)) (now : Int)
  (graph : RoleGraph Uuid) (action : Action)

/-- One rule's turn in the loop over the rules, which carries what matched an
allow and what matched a deny. No turn ends the loop. -/
def ruleStep (matched : Bool × Bool) (rule : AccessRule Uuid) : Bool × Bool :=
  match rule.inForce site schedules now with
  | none => matched
  | some effect =>
    if !rule.matched principal graph then matched
    else match effect with
      | .allow => (true, matched.2)
      | .deny => (matched.1, true)

def ruleLoop : Bool × Bool := rules.foldl (ruleStep site principal schedules now graph) (false, false)

/-- The decision around the loop, given what the loop matched. -/
def decideMatched (matched : Bool × Bool) : MayDecision :=
  if policy.lockedOut then .deny .lockedOut
  else match policy.unavailable with
    | some reason => .deny (.unavailable reason)
    | none =>
      if action.needsIdentity && !principal.isActive then .deny .inactive
      else if matched.2 then .deny .rule
      else
        let defaultOpen := policy.defaultEffect = .open_ &&
          ruleFires .allow (scheduleStateAt site policy.scheduleId schedules now)
        if !matched.1 && !defaultOpen then .deny .noMatch
        else if policy.trainingOk = some false then .deny .training
        else if policy.meteredOk = some false then .deny .billing
        else .allow

/-- Some rule in force with this effect matches the principal. -/
def Fires (effect : DoorRuleEffect) : Prop :=
  ∃ rule ∈ rules, rule.inForce site schedules now = some effect ∧ rule.matched principal graph = true

/-- What is asked before the rules and after them, and does not depend on them. -/
structure Viable : Prop where
  unlocked : policy.lockedOut = false
  available : policy.unavailable = none
  identified : (action.needsIdentity && !principal.isActive) = false
  trained : policy.trainingOk ≠ some false
  paid : policy.meteredOk ≠ some false

/-- The default that opens without a rule, while the resource's own schedule lets it. -/
def OpensByDefault : Prop :=
  policy.defaultEffect = .open_ ∧ ruleFires .allow (scheduleStateAt site policy.scheduleId schedules now) = true

/-- Each schedule answers as before, or cannot be resolved any more. -/
def Weakened (fewer : List (Schedule Uuid Json)) : Prop :=
  ∀ sid, scheduleStateAt site sid fewer now = scheduleStateAt site sid schedules now ∨
    scheduleStateAt site sid fewer now = .unresolvable

variable {site principal policy rules schedules now graph action}

theorem foldl_ruleStep (matched : Bool × Bool) :
    let after := rules.foldl (ruleStep site principal schedules now graph) matched
    (after.1 = true ↔ matched.1 = true ∨ Fires site principal rules schedules now graph .allow) ∧
      (after.2 = true ↔ matched.2 = true ∨ Fires site principal rules schedules now graph .deny) := by
  induction rules generalizing matched with
  | nil => simp [Fires]
  | cons rule rest ih =>
    simp only [List.foldl_cons, Fires, List.mem_cons, exists_eq_or_imp] at ih ⊢
    refine ⟨(ih _).1.trans ?_, (ih _).2.trans ?_⟩
    all_goals
      rcases force : rule.inForce site schedules now with _ | _ | _
      · simp [ruleStep, force]
      all_goals rcases fits : rule.matched principal graph <;> simp [ruleStep, force, fits]

theorem ruleLoop_iff :
    ((ruleLoop site principal rules schedules now graph).1 = true ↔
      Fires site principal rules schedules now graph .allow) ∧
        ((ruleLoop site principal rules schedules now graph).2 = true ↔
        Fires site principal rules schedules now graph .deny) := by
  have flags : ((ruleLoop site principal rules schedules now graph).1 = true ↔
        false = true ∨ Fires site principal rules schedules now graph .allow) ∧
      ((ruleLoop site principal rules schedules now graph).2 = true ↔
        false = true ∨ Fires site principal rules schedules now graph .deny) := foldl_ruleStep (false, false)
  simpa only [Bool.false_eq_true, false_or] using flags

theorem any_eq_ruleLoop :
    (rules.any fun rule => rule.inForce site schedules now == some .allow && rule.matched principal graph) =
        (ruleLoop site principal rules schedules now graph).1 ∧
      (rules.any fun rule => rule.inForce site schedules now == some .deny && rule.matched principal graph) =
        (ruleLoop site principal rules schedules now graph).2 := by
  have asked : ∀ effect, (rules.any fun rule =>
      rule.inForce site schedules now == some effect && rule.matched principal graph) = true ↔
        Fires site principal rules schedules now graph effect := by
    intro effect
    simp only [List.any_eq_true, Bool.and_eq_true, beq_iff_eq, Fires]
  exact ⟨Bool.eq_iff_iff.mpr ((asked .allow).trans ruleLoop_iff.1.symm),
    Bool.eq_iff_iff.mpr ((asked .deny).trans ruleLoop_iff.2.symm)⟩

theorem may_eq_decideMatched : may site principal policy rules schedules now graph action =
    decideMatched site principal policy schedules now action (ruleLoop site principal rules schedules now graph) := by
  rcases available : policy.unavailable with _ | reason
  all_goals simp only [may, decideMatched, available, any_eq_ruleLoop.1, any_eq_ruleLoop.2]

omit [IdText Uuid] in
theorem decideMatched_eq_allow {matched : Bool × Bool} :
    decideMatched site principal policy schedules now action matched = .allow ↔
      Viable principal policy action ∧ matched.2 ≠ true ∧
        (matched.1 = true ∨ OpensByDefault site policy schedules now) := by
  have opens : OpensByDefault site policy schedules now ↔ (decide (policy.defaultEffect = .open_) &&
      ruleFires .allow (scheduleStateAt site policy.scheduleId schedules now)) = true := by
    simp only [Bool.and_eq_true, decide_eq_true_eq, OpensByDefault]
  rw [opens]
  unfold decideMatched
  rcases locked : policy.lockedOut with _ | _
  · rcases away : policy.unavailable with _ | reason
    · rcases unknown : (action.needsIdentity && !principal.isActive) with _ | _
      · have viable : Viable principal policy action ↔
            policy.trainingOk ≠ some false ∧ policy.meteredOk ≠ some false :=
          ⟨fun met => ⟨met.trained, met.paid⟩, fun met => ⟨locked, away, unknown, met.1, met.2⟩⟩
        rw [viable]
        generalize (decide (policy.defaultEffect = .open_) &&
          ruleFires .allow (scheduleStateAt site policy.scheduleId schedules now)) = defaultOpen
        obtain ⟨allow, deny⟩ := matched
        by_cases untrained : policy.trainingOk = some false
        · cases allow <;> cases deny <;> cases defaultOpen <;> simp [untrained]
        · by_cases unpaid : policy.meteredOk = some false
          all_goals cases allow <;> cases deny <;> cases defaultOpen <;> simp [untrained, unpaid]
      · exact iff_of_false (by simp) fun met => by simp [met.1.identified] at unknown
    · exact iff_of_false (by simp) fun met => by simp [met.1.available] at away
  · exact iff_of_false (by simp) fun met => by simp [met.1.unlocked] at locked

theorem may_eq_allow_iff :
    may site principal policy rules schedules now graph action = .allow ↔
      Viable principal policy action ∧ ¬ Fires site principal rules schedules now graph .deny ∧
        (Fires site principal rules schedules now graph .allow ∨ OpensByDefault site policy schedules now) := by
  rw [may_eq_decideMatched, decideMatched_eq_allow, ne_eq, ruleLoop_iff.1, ruleLoop_iff.2]

theorem fires_insert {front back : List (AccessRule Uuid)} {rule : AccessRule Uuid} {effect : DoorRuleEffect} :
    Fires site principal (front ++ rule :: back) schedules now graph effect ↔
      Fires site principal (front ++ back) schedules now graph effect ∨
        (rule.inForce site schedules now = some effect ∧ rule.matched principal graph = true) := by
  simp only [Fires, List.mem_append, List.mem_cons, or_and_right, exists_or, exists_eq_left, or_comm, or_left_comm]

omit [IdText Uuid] in
theorem inForce_eq_some {rule : AccessRule Uuid} {effect : DoorRuleEffect} :
    rule.inForce site schedules now = some effect ↔ DoorRuleEffect.parse rule.effect = some effect ∧
      ruleFires effect (scheduleStateAt site rule.scheduleId schedules now) = true := by
  simp only [AccessRule.inForce, Option.filter_eq_some_iff]

theorem ruleLoop_perm {reordered : List (AccessRule Uuid)} (same : rules.Perm reordered) :
    ruleLoop site principal rules schedules now graph = ruleLoop site principal reordered schedules now graph := by
  have fires : ∀ effect, Fires site principal rules schedules now graph effect ↔
      Fires site principal reordered schedules now graph effect := by
    intro effect
    simp only [Fires, same.mem_iff]
  refine Prod.ext ?_ ?_
  · exact Bool.eq_iff_iff.mpr (ruleLoop_iff.1.trans ((fires .allow).trans ruleLoop_iff.1.symm))
  · exact Bool.eq_iff_iff.mpr (ruleLoop_iff.2.trans ((fires .deny).trans ruleLoop_iff.2.symm))

namespace Weakened
variable {fewer : List (Schedule Uuid Json)}

omit [IdText Uuid]

theorem allow (weakened : Weakened site schedules now fewer) {sid : Option Uuid}
    (fires : ruleFires .allow (scheduleStateAt site sid fewer now) = true) :
    ruleFires .allow (scheduleStateAt site sid schedules now) = true := by
  rcases weakened sid with same | unresolvable
  · rwa [← same]
  · simp [unresolvable, ruleFires] at fires

theorem deny (weakened : Weakened site schedules now fewer) {sid : Option Uuid}
    (fires : ruleFires .deny (scheduleStateAt site sid schedules now) = true) :
    ruleFires .deny (scheduleStateAt site sid fewer now) = true := by
  rcases weakened sid with same | unresolvable
  · rwa [same]
  · rw [unresolvable]
    rfl

theorem removed (sid : Uuid) : Weakened site schedules now (schedules.filter fun s => s.id ≠ sid) := by
  intro named
  rcases named with _ | other
  · exact .inl rfl
  · by_cases same : other = sid
    · refine .inr ?_
      have absent : ((schedules.filter fun s => s.id ≠ sid).find? fun s => s.id = other) = none := by
        simp [List.find?_eq_none, same]
      simp only [scheduleStateAt, absent]
    · refine .inl ?_
      have kept : ((schedules.filter fun s => s.id ≠ sid).find? fun s => s.id = other) =
          schedules.find? fun s => s.id = other := by
        rw [List.find?_filter]
        congr 1
        funext s
        by_cases it : s.id = other <;> simp [it, same]
      simp only [scheduleStateAt, kept]

/-- One schedule's intervals replaced by what does not parse. -/
def garble (sid : Uuid) (bad : Json) (schedules : List (Schedule Uuid Json)) : List (Schedule Uuid Json) :=
  schedules.map fun s => if s.id = sid then { s with intervals := bad } else s

theorem garbled (sid : Uuid) {bad : Json} (unreadable : site.parseIntervals bad = none) :
    Weakened site schedules now (garble sid bad schedules) := by
  intro named
  rcases named with _ | other
  · exact .inl rfl
  · have searched : (garble sid bad schedules).find? (fun s => s.id = other) =
        (schedules.find? fun s => s.id = other).map fun s => if s.id = sid then { s with intervals := bad }
          else s := by
      rw [garble, List.find?_map]
      congr 2
      funext s
      by_cases it : s.id = sid <;> simp [it]
    rcases found : schedules.find? fun s => s.id = other with _ | sched
    · exact .inl (by simp only [scheduleStateAt, searched, found, Option.map_none])
    · by_cases it : sched.id = sid
      · exact .inr (by simp only [scheduleStateAt, searched, found, Option.map_some, if_pos it, unreadable])
      · exact .inl (by simp only [scheduleStateAt, searched, found, Option.map_some, if_neg it])

end Weakened

theorem may_of_weakened {fewer : List (Schedule Uuid Json)} (weakened : Weakened site schedules now fewer)
    (allowed : may site principal policy rules fewer now graph action = .allow) :
    may site principal policy rules schedules now graph action = .allow := by
  obtain ⟨viable, noDeny, granted⟩ := may_eq_allow_iff.mp allowed
  refine may_eq_allow_iff.mpr ⟨viable, ?_, ?_⟩
  · rintro ⟨rule, member, force, fits⟩
    obtain ⟨reads, fires⟩ := inForce_eq_some.mp force
    exact noDeny ⟨rule, member, inForce_eq_some.mpr ⟨reads, weakened.deny fires⟩, fits⟩
  · rcases granted with ⟨rule, member, force, fits⟩ | ⟨open_, fires⟩
    · obtain ⟨reads, fires⟩ := inForce_eq_some.mp force
      exact .inl ⟨rule, member, inForce_eq_some.mpr ⟨reads, weakened.allow fires⟩, fits⟩
    · exact .inr ⟨open_, weakened.allow fires⟩

/-- The engine is monotone and fails closed: a deny rule added anywhere opens
nothing, an allow rule that fires shuts nothing, a schedule removed or made
unparsable opens nothing, and the order of the rules is nothing to the answer. -/
theorem may_monotone (site : SiteTime Json) (principal : AccessPrincipal Uuid) (policy : AccessPolicy Uuid)
    (schedules : List (Schedule Uuid Json)) (now : Int) (graph : RoleGraph Uuid) (action : Action) :
    let answer rules schedules := may site principal policy rules schedules now graph action
    (∀ front rule back, DoorRuleEffect.parse rule.effect = some .deny →
      answer (front ++ back) schedules ≠ .allow → answer (front ++ rule :: back) schedules ≠ .allow) ∧
    (∀ front rule back, rule.inForce site schedules now = some .allow →
      answer (front ++ back) schedules = .allow → answer (front ++ rule :: back) schedules = .allow) ∧
    (∀ rules sid, answer rules schedules ≠ .allow → answer rules (schedules.filter fun s => s.id ≠ sid) ≠ .allow) ∧
    (∀ rules sid bad, site.parseIntervals bad = none →
      answer rules schedules ≠ .allow → answer rules (Weakened.garble sid bad schedules) ≠ .allow) ∧
    ∀ rules reordered, rules.Perm reordered → answer rules schedules = answer reordered schedules := by
  intro answer
  refine ⟨?_, ?_, ?_, ?_, ?_⟩
  · intro front rule back denies refused allowed
    obtain ⟨viable, noDeny, granted⟩ := may_eq_allow_iff.mp allowed
    refine refused (may_eq_allow_iff.mpr ⟨viable, fun fires => noDeny (fires_insert.mpr (.inl fires)), ?_⟩)
    rcases granted with fires | open_
    · rcases fires_insert.mp fires with before | ⟨force, -⟩
      · exact .inl before
      · rw [(inForce_eq_some.mp force).1] at denies
        cases denies
    · exact .inr open_
  · intro front rule back fires allowed
    obtain ⟨viable, noDeny, granted⟩ := may_eq_allow_iff.mp allowed
    refine may_eq_allow_iff.mpr ⟨viable, ?_, granted.imp_left fun before => fires_insert.mpr (.inl before)⟩
    intro denied
    rcases fires_insert.mp denied with before | ⟨force, -⟩
    · exact noDeny before
    · rw [fires] at force
      cases force
  · exact fun rules sid refused allowed => refused (may_of_weakened (Weakened.removed sid) allowed)
  · exact fun rules sid bad unreadable refused allowed =>
      refused (may_of_weakened (Weakened.garbled sid unreadable) allowed)
  · intro rules reordered same
    simp only [answer, may_eq_decideMatched, ruleLoop_perm same]

end

end CoopSpaces

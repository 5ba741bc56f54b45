import CoopSpaces.Edge.Digest
import CoopSpaces.Server.Rules

namespace CoopSpaces

theorem maxOrZero_congr {values others : List Int} (same : ∀ x, x ∈ values ↔ x ∈ others) :
    values.max?.getD 0 = others.max?.getD 0 := by
  rcases largest : values.max? with _ | x
  · have empty : values = [] := List.max?_eq_none_iff.mp largest
    subst empty
    have none_ : others = [] := List.eq_nil_iff_forall_not_mem.mpr fun x member => by simpa using (same x).mpr member
    rw [none_]
    rfl
  · obtain ⟨member, above⟩ := List.max?_eq_some_iff.mp largest
    have other : others.max? = some x :=
      List.max?_eq_some_iff.mpr ⟨(same x).mp member, fun y there => above y ((same y).mpr there)⟩
    rw [other]

section Levels
variable {Uuid : Type} [DecidableEq Uuid] {graph : RoleGraph Uuid}

theorem RoleGraph.effectiveLevel_congr {roles others : List Uuid} (same : ∀ r, r ∈ roles ↔ r ∈ others) :
    graph.effectiveLevel roles = graph.effectiveLevel others := by
  refine maxOrZero_congr fun x => ?_
  have reached : ∀ r, r ∈ graph.closure roles ↔ r ∈ graph.closure others := by
    intro r
    simp only [RoleGraph.closure, Worklist.mem_closure_nil, Worklist.Reach, same]
  simp only [List.mem_filterMap, reached]

theorem RoleGraph.effectiveLevel_nil : graph.effectiveLevel [] = 0 := by
  simp [RoleGraph.effectiveLevel, RoleGraph.closure, Worklist.closure]

theorem foldl_push_apply {rows : List (Uuid × Uuid)} {t : Table Uuid (List Uuid)} {user : Uuid} :
    (rows.foldl (fun t row => t.insert row.1 ((t row.1).getD [] ++ [row.2])) t) user =
      if rolesForUser rows user = [] then t user else some ((t user).getD [] ++ rolesForUser rows user) := by
  induction rows generalizing t with
  | nil => rfl
  | cons row rest ih =>
    rw [List.foldl_cons, ih]
    by_cases own : row.1 = user
    · have first : rolesForUser (row :: rest) user = row.2 :: rolesForUser rest user := by
        simp [rolesForUser, own]
      subst own
      rw [first]
      by_cases last : rolesForUser rest row.1 = [] <;> simp [last]
    · have skipped : rolesForUser (row :: rest) user = rolesForUser rest user := by
        simp [rolesForUser, own]
      rw [skipped, Table.insert_of_ne _ _ (Ne.symm own)]

/-- The pass over many users and the query for one tell the same level. -/
theorem effectiveLevelsFor_getD {compiled asked : List (Uuid × Uuid)} (rows : compiled.Perm asked) {users : List Uuid}
    {user : Uuid} (listed : user ∈ users) :
    (effectiveLevelsFor graph compiled users user).getD 0 = userEffectiveLevel graph asked user := by
  have own : rolesForUser (compiled.filter fun row => row.1 ∈ users) user = rolesForUser compiled user := by
    simp only [rolesForUser, List.filter_filter]
    congr 1
    refine List.filter_congr fun row _ => ?_
    by_cases same : row.1 = user
    · simp [same, listed]
    · simp [same]
  have sameRoles : ∀ r, r ∈ rolesForUser compiled user ↔ r ∈ rolesForUser asked user :=
    fun r => ((rows.filter _).map _).mem_iff
  rw [userEffectiveLevel, ← RoleGraph.effectiveLevel_congr sameRoles]
  simp only [effectiveLevelsFor, foldl_push_apply, own, Table.empty_apply, Option.getD_none, List.nil_append]
  by_cases none_ : rolesForUser compiled user = []
  · rw [if_pos none_, none_, RoleGraph.effectiveLevel_nil]
    rfl
  · rw [if_neg none_]
    rfl

end Levels

/-- The lists of a compiled door, as the edge consults them: deny, then allow. -/
def CompiledDoor.listsAllow {Uuid : Type} (d : CompiledDoor Uuid) (token : String) : Bool :=
  d.enabled && !decide (token ∈ d.denyCards) && decide (token ∈ d.allowCards)

theorem listsAllow_compileDoor {Uuid : Type} {id : Uuid} {name : String} {enabled : Bool} {pulseMs : Int}
    {hold : Option Int} {lists : Finset String × Finset String} {token : String} :
    (compileDoor id name enabled pulseMs hold lists).listsAllow token = true ↔
      enabled = true ∧ token ∉ lists.2 ∧ token ∈ lists.1 := by
  simp only [CompiledDoor.listsAllow, compileDoor, Finset.mem_sort, Bool.and_eq_true, Bool.not_eq_true',
    decide_eq_false_iff_not, decide_eq_true_eq, and_assoc]

section Agreement
variable {Uuid Json : Type} [DecidableEq Uuid] [IdText Uuid] {site : SiteTime Json}

/-- A user rule that spells a member's id some other way than the canonical one. -/
def AccessRule.Misspells (rule : AccessRule Uuid) (user : Uuid) : Prop :=
  DoorRuleKind.parse rule.kind = some .user ∧ IdText.parseStr rule.value = some user ∧
    rule.value ≠ IdText.toText user

/-- A rule lists a member's only card, shared with nobody, exactly when `may`
matches the member to it, or it spells the member's id another way. -/
theorem mem_tokens_iff {rule : AccessRule Uuid} {cardsByUser : AList fun _ : Uuid => List String}
    {graph : RoleGraph Uuid} {userLevels : Table Uuid Int} {user : Uuid} {digest : String}
    (own : cardsByUser.lookup user = some [digest])
    (unshared : ∀ other held, cardsByUser.lookup other = some held → digest ∈ held → other = user) :
    digest ∈ rule.tokens cardsByUser graph userLevels ↔
      rule.matched ⟨some user, (userLevels user).getD 0, {digest}, true⟩ graph = true ∨ rule.Misspells user := by
  have reached : (∃ other held, cardsByUser.lookup other = some held ∧ digest ∈ held ∧
      rule.Reaches graph userLevels other) ↔ rule.Reaches graph userLevels user := by
    constructor
    · rintro ⟨other, held, holds, shown, reaches⟩
      exact unshared other held holds shown ▸ reaches
    · exact fun reaches => ⟨user, [digest], own, List.mem_singleton_self _, reaches⟩
  rw [AccessRule.mem_tokens, reached]
  unfold AccessRule.Reaches AccessRule.matched AccessRule.Misspells
  rcases DoorRuleKind.parse rule.kind with _ | kind
  · simp
  · cases kind with
    | openAccess => simp
    | card => simp
    | role => rcases graph.levelOfName rule.value with _ | required <;> simp
    | user =>
      simp only [Option.some.injEq, reduceCtorEq, false_and, true_and, or_false, false_or, Option.map_some,
        beq_iff_eq]
      constructor
      · intro read
        by_cases canonical : rule.value = IdText.toText user
        · exact .inl canonical.symm
        · exact .inr ⟨read, canonical⟩
      · rintro (canonical | ⟨read, -⟩)
        · rw [← canonical, IdText.parseStr_toText]
        · exact read

theorem may_door_iff {principal : AccessPrincipal Uuid} {enabled : Bool} {rules : List (AccessRule Uuid)}
    {schedules : List (Schedule Uuid Json)} {now : Int} {graph : RoleGraph Uuid}
    (active : principal.isActive = true) :
    let names effect := ∃ rule ∈ rules, rule.inForce site schedules now = some effect ∧
      rule.matched principal graph = true
    may site principal (doorPolicy enabled) rules schedules now graph .unlock = .allow ↔
      enabled = true ∧ ¬ names .deny ∧ names .allow := by
  intro names
  have fires : ∀ effect, (rules.any fun rule =>
      rule.inForce site schedules now == some effect && rule.matched principal graph) = true ↔ names effect := by
    intro effect
    simp only [List.any_eq_true, Bool.and_eq_true, beq_iff_eq, names]
  cases enabled
  · simp [may, doorPolicy]
  · by_cases denied : names .deny
    · simp [may, doorPolicy, active, (fires .deny).mpr denied, denied]
    · have quiet := Bool.not_eq_true _ ▸ (not_congr (fires .deny)).mpr denied
      by_cases allowed : names .allow
      · simp [may, doorPolicy, active, quiet, (fires .allow).mpr allowed, denied, allowed]
      · have none_ := Bool.not_eq_true _ ▸ (not_congr (fires .allow)).mpr allowed
        simp [may, doorPolicy, active, quiet, none_, allowed]

theorem tipped_iff {allowed denied misallowed misdenied : Prop} :
    (¬ (denied ∨ misdenied) ∧ (allowed ∨ misallowed) ↔ ¬ denied ∧ allowed) ↔
      denied ∨ (misdenied ∧ ¬ allowed) ∨ (¬ misdenied ∧ (misallowed → allowed)) := by
  by_cases deny : denied
  · simp [deny]
  · by_cases allow : allowed
    · simp [deny, allow]
    · by_cases misdeny : misdenied <;> simp [deny, allow, misdeny]

/-- The compiled door and the server's one decision agree on an active member
with one card exactly when no rule in force that spells the member's id another
way tips the balance: the expansion reads the spelling, `may` compares it. -/
theorem offline_door_agrees_iff (rules : List (AccessRule Uuid)) (schedules : List (Schedule Uuid Json)) (now : Int)
    (graph : RoleGraph Uuid) (cardsByUser : AList fun _ : Uuid => List String) {compiled asked : List (Uuid × Uuid)}
    (rows : compiled.Perm asked) (door : Uuid) (name : String) (enabled : Bool) (pulseMs : Int) (hold : Option Int)
    {users : List Uuid} {user : Uuid} {digest : String} (listed : user ∈ users)
    (own : cardsByUser.lookup user = some [digest])
    (unshared : ∀ other held, cardsByUser.lookup other = some held → digest ∈ held → other = user) :
    let principal : AccessPrincipal Uuid := ⟨some user, userEffectiveLevel graph asked user, {digest}, true⟩
    let lists := expandRulesAt site rules cardsByUser schedules now graph (effectiveLevelsFor graph compiled users)
    let inForce effect (names : AccessRule Uuid → Prop) :=
      ∃ rule ∈ rules, rule.inForce site schedules now = some effect ∧ names rule
    let matched effect := inForce effect fun rule => rule.matched principal graph = true
    let misspelled effect := inForce effect fun rule => rule.Misspells user
    (((compileDoor door name enabled pulseMs hold lists).listsAllow digest = true ↔
        may site principal (doorPolicy enabled) rules schedules now graph .unlock = .allow) ↔
      enabled = false ∨ matched .deny ∨ (misspelled .deny ∧ ¬ matched .allow) ∨
        (¬ misspelled .deny ∧ (misspelled .allow → matched .allow))) := by
  intro principal lists inForce matched misspelled
  have level : ((effectiveLevelsFor graph compiled users) user).getD 0 = userEffectiveLevel graph asked user :=
    effectiveLevelsFor_getD rows listed
  have split : ∀ effect, (∃ rule ∈ rules, rule.inForce site schedules now = some effect ∧
      digest ∈ rule.tokens cardsByUser graph (effectiveLevelsFor graph compiled users)) ↔
        matched effect ∨ misspelled effect := by
    intro effect
    simp only [mem_tokens_iff own unshared, level, matched, misspelled, inForce, and_or_left, exists_or, principal]
  have allows : digest ∈ lists.1 ↔ matched .allow ∨ misspelled .allow :=
    (mem_expandRulesAt site).1.trans (split .allow)
  have denies : digest ∈ lists.2 ↔ matched .deny ∨ misspelled .deny :=
    (mem_expandRulesAt site).2.trans (split .deny)
  have asks : may site principal (doorPolicy enabled) rules schedules now graph .unlock = .allow ↔
      enabled = true ∧ ¬ matched .deny ∧ matched .allow := may_door_iff rfl
  rw [listsAllow_compileDoor, asks, allows, denies]
  cases enabled
  · simp only [Bool.false_eq_true, false_and, true_or]
  · simp only [true_and, Bool.true_eq_false, false_or]
    exact tipped_iff

end Agreement

def signedUp : HexId := ⟨List.replicate 32 ⟨10, by decide⟩, by decide⟩

def capitals : AccessRule HexId where
  kind := "user"
  value := "AAAAAAAA-AAAA-AAAA-AAAA-AAAAAAAAAAAA"
  effect := "allow"
  scheduleId := none

def noZone : SiteTime Unit := ⟨fun _ => none, fun _ => (.mon, 0)⟩

def noRoles : RoleGraph HexId := .fromRows [] []

def oneCard : AList fun _ : HexId => List String := AList.insert signedUp ["c0ffee"] ∅

/-- The offline door lets the member in where the server keeps them out. -/
theorem offline_door_disagrees :
    (compileDoor signedUp "Front" true 3000 none
      (expandRulesAt noZone [capitals] oneCard ([] : List (Schedule HexId Unit)) 0
        noRoles (effectiveLevelsFor noRoles [] [signedUp]))).listsAllow "c0ffee" = true ∧
      may noZone ⟨some signedUp, userEffectiveLevel noRoles [] signedUp, {"c0ffee"}, true⟩ (doorPolicy true)
        [capitals]
        ([] : List (Schedule HexId Unit)) 0 noRoles .unlock = .deny .noMatch := by
  rw [listsAllow_compileDoor]
  decide

def turnedAway : AccessRule HexId where
  kind := "card"
  value := "c0ffee"
  effect := "deny"
  scheduleId := none

theorem offline_door_agrees_iff_turned_away :
    (compileDoor signedUp "Front" true 3000 none (expandRulesAt noZone [capitals, turnedAway] oneCard
        ([] : List (Schedule HexId Unit)) 0 noRoles (effectiveLevelsFor noRoles [] [signedUp]))).listsAllow "c0ffee" =
          true ↔
      may noZone ⟨some signedUp, userEffectiveLevel noRoles [] signedUp, {"c0ffee"}, true⟩ (doorPolicy true)
        [capitals, turnedAway] ([] : List (Schedule HexId Unit)) 0 noRoles .unlock = .allow := by
  have own : oneCard.lookup signedUp = some ["c0ffee"] := AList.lookup_insert _
  have unshared : ∀ other held, oneCard.lookup other = some held → "c0ffee" ∈ held → other = signedUp := by
    intro other held found _
    by_contra stranger
    rw [oneCard, AList.lookup_insert_ne stranger] at found
    cases found
  refine (offline_door_agrees_iff [capitals, turnedAway] [] 0 noRoles oneCard
    (.refl []) signedUp "Front" true 3000 none
    (List.mem_singleton_self _) own unshared).mpr (.inr (.inl ⟨turnedAway, ?_, ?_, ?_⟩))
  all_goals decide

end CoopSpaces

import CoopSpaces.Edge.Resources
import CoopSpaces.Lib.Worklist
import Mathlib.Data.Finset.Sort
import Mathlib.Data.List.AList

namespace CoopSpaces

inductive DayOfWeek
  | mon
  | tue
  | wed
  | thu
  | fri
  | sat
  | sun
  deriving DecidableEq

/-- One weekly interval, from one time of day to another, the end excluded. -/
structure ScheduleInterval where
  day : DayOfWeek
  start : Int
  end_ : Int
  deriving DecidableEq

structure Schedule (Uuid Json : Type) where
  id : Uuid
  intervals : Json
  deriving DecidableEq

/-- What libraries tell of a schedule: its stored intervals read back, or not,
and the day and the time of day of an instant in the site's zone. -/
structure SiteTime (Json : Type) where
  parseIntervals : Json → Option (List ScheduleInterval)
  localTime : Int → DayOfWeek × Int

def matchesAt {Json : Type} (site : SiteTime Json) (intervals : List ScheduleInterval) (now : Int) : Bool :=
  intervals.any fun iv =>
    iv.day = (site.localTime now).1 && decide (iv.start ≤ (site.localTime now).2) &&
      decide ((site.localTime now).2 < iv.end_)

inductive ScheduleState
  | active
  | inactive
  | unresolvable
  deriving DecidableEq

def scheduleStateAt {Uuid Json : Type} [DecidableEq Uuid] (site : SiteTime Json) (scheduleId : Option Uuid)
    (schedules : List (Schedule Uuid Json)) (now : Int) : ScheduleState :=
  match scheduleId with
  | none => .active
  | some sid =>
    match schedules.find? fun s => s.id = sid with
    | none => .unresolvable
    | some sched =>
      match site.parseIntervals sched.intervals with
      | none => .unresolvable
      | some intervals => if matchesAt site intervals now then .active else .inactive

inductive DoorRuleKind
  | role
  | user
  | card
  | openAccess
  deriving DecidableEq

def DoorRuleKind.parse (named : String) : Option DoorRuleKind :=
  if named = "role" then some .role
  else if named = "user" then some .user
  else if named = "card" then some .card
  else if named = "open_access" then some .openAccess
  else none

inductive DoorRuleEffect
  | allow
  | deny
  deriving DecidableEq

def DoorRuleEffect.parse (named : String) : Option DoorRuleEffect :=
  if named = "allow" then some .allow else if named = "deny" then some .deny else none

structure AccessRule (Uuid : Type) where
  kind : String
  value : String
  effect : String
  scheduleId : Option Uuid
  deriving DecidableEq

/-- Fail-closed: an unresolvable schedule keeps a deny in force but drops an allow. -/
def ruleFires (effect : DoorRuleEffect) : ScheduleState → Bool
  | .active => true
  | .inactive => false
  | .unresolvable => effect = .deny

structure RoleGraph (Uuid : Type) where
  level : Table Uuid Int
  byName : Table String Uuid
  inherits : List (Uuid × Uuid)

namespace RoleGraph
variable {Uuid : Type} [DecidableEq Uuid]

def fromRows (roleRows : List (Uuid × String × Int)) (edgeRows : List (Uuid × Uuid)) : RoleGraph Uuid where
  level := roleRows.foldl (fun t row => t.insert row.1 row.2.2) .empty
  byName := roleRows.foldl (fun t row => t.insert row.2.1 row.1) .empty
  inherits := edgeRows

def levelOfName (g : RoleGraph Uuid) (name : String) : Option Int := (g.byName name).bind fun id => g.level id

def closure (g : RoleGraph Uuid) (roles : List Uuid) : List Uuid := Worklist.closure g.inherits roles.reverse []

def effectiveLevel (g : RoleGraph Uuid) (roles : List Uuid) : Int :=
  (((g.closure roles).filterMap fun r => g.level r).max?).getD 0

end RoleGraph

section Assignments
variable {Uuid : Type} [DecidableEq Uuid]

def rolesForUser (assignments : List (Uuid × Uuid)) (user : Uuid) : List Uuid :=
  (assignments.filter fun row => row.1 = user).map (·.2)

def userEffectiveLevel (g : RoleGraph Uuid) (assignments : List (Uuid × Uuid)) (user : Uuid) : Int :=
  g.effectiveLevel (rolesForUser assignments user)

/-- The levels of many users in one pass; one with no roles is absent. -/
def effectiveLevelsFor (g : RoleGraph Uuid) (assignments : List (Uuid × Uuid)) (users : List Uuid) : Table Uuid Int :=
  let byUser := (assignments.filter fun row => row.1 ∈ users).foldl
    (fun t row => t.insert row.1 ((t row.1).getD [] ++ [row.2])) Table.empty
  fun user => (byUser user).map g.effectiveLevel

end Assignments

section Rules
variable {Uuid Json : Type} [DecidableEq Uuid] [IdText Uuid] (site : SiteTime Json)

/-- The effect a rule has now, if it reads and its window lets it. -/
def AccessRule.inForce (rule : AccessRule Uuid) (schedules : List (Schedule Uuid Json)) (now : Int) :
    Option DoorRuleEffect :=
  (DoorRuleEffect.parse rule.effect).filter fun effect =>
    ruleFires effect (scheduleStateAt site rule.scheduleId schedules now)

def AccessRule.tokens (rule : AccessRule Uuid) (cardsByUser : AList fun _ : Uuid => List String)
    (graph : RoleGraph Uuid) (userLevels : Table Uuid Int) : List String :=
  match DoorRuleKind.parse rule.kind with
  | none => []
  | some .openAccess => []
  | some .card => [rule.value]
  | some .user => ((IdText.parseStr rule.value).bind cardsByUser.lookup).getD []
  | some .role =>
    match graph.levelOfName rule.value with
    | none => []
    | some required =>
      (cardsByUser.entries.filter fun held => decide (required ≤ (userLevels held.1).getD 0)).flatMap (·.2)

def expandRulesAt (rules : List (AccessRule Uuid)) (cardsByUser : AList fun _ : Uuid => List String)
    (schedules : List (Schedule Uuid Json)) (now : Int) (graph : RoleGraph Uuid) (userLevels : Table Uuid Int) :
    Finset String × Finset String :=
  rules.foldl (fun sets rule =>
    match rule.inForce site schedules now with
    | none => sets
    | some .allow => (sets.1 ∪ (rule.tokens cardsByUser graph userLevels).toFinset, sets.2)
    | some .deny => (sets.1, sets.2 ∪ (rule.tokens cardsByUser graph userLevels).toFinset)) (∅, ∅)

/-- A user rule that reads as the member's id, or a role rule at or below their level. -/
def AccessRule.Reaches (rule : AccessRule Uuid) (graph : RoleGraph Uuid) (userLevels : Table Uuid Int)
    (user : Uuid) : Prop :=
  (DoorRuleKind.parse rule.kind = some .user ∧ IdText.parseStr rule.value = some user) ∨
    (DoorRuleKind.parse rule.kind = some .role ∧
      ∃ required, graph.levelOfName rule.value = some required ∧ required ≤ (userLevels user).getD 0)

/-- A rule's tokens: the one a card rule holds, and the cards of those it reaches. -/
theorem AccessRule.mem_tokens {rule : AccessRule Uuid} {cardsByUser : AList fun _ : Uuid => List String}
    {graph : RoleGraph Uuid} {userLevels : Table Uuid Int} {token : String} :
    token ∈ rule.tokens cardsByUser graph userLevels ↔
      (DoorRuleKind.parse rule.kind = some .card ∧ rule.value = token) ∨
        ∃ user held, cardsByUser.lookup user = some held ∧ token ∈ held ∧ rule.Reaches graph userLevels user := by
  unfold AccessRule.tokens AccessRule.Reaches
  rcases DoorRuleKind.parse rule.kind with _ | kind
  · simp
  · cases kind with
    | openAccess => simp
    | card => simp [eq_comm]
    | user =>
      rcases IdText.parseStr rule.value with _ | named
      · simp
      · rcases holds : cardsByUser.lookup named with _ | held
        · simp only [Option.bind_some, holds, Option.getD_none, List.not_mem_nil, Option.some.injEq, reduceCtorEq,
            false_and, true_and, or_false, false_or, false_iff]
          rintro ⟨user, held, found, -, rfl⟩
          rw [holds] at found
          cases found
        · simp only [Option.bind_some, holds, Option.getD_some, Option.some.injEq, reduceCtorEq, false_and, true_and,
            or_false, false_or]
          constructor
          · exact fun shown => ⟨named, held, holds, shown, rfl⟩
          · rintro ⟨user, other, found, shown, rfl⟩
            rw [holds] at found
            exact Option.some.inj found ▸ shown
    | role =>
      rcases graph.levelOfName rule.value with _ | required
      · simp
      · simp only [List.mem_flatMap, List.mem_filter, decide_eq_true_eq, Option.some.injEq, reduceCtorEq, false_and,
          true_and, false_or, exists_eq_left']
        constructor
        · rintro ⟨⟨user, held⟩, ⟨entry, enough⟩, shown⟩
          exact ⟨user, held, AList.mem_lookup_iff.mpr entry, shown, enough⟩
        · rintro ⟨user, held, holds, shown, enough⟩
          exact ⟨⟨user, held⟩, ⟨AList.mem_lookup_iff.mp holds, enough⟩, shown⟩

theorem mem_foldl_expand (site : SiteTime Json) (rules : List (AccessRule Uuid))
    (cardsByUser : AList fun _ : Uuid => List String) (schedules : List (Schedule Uuid Json)) (now : Int)
    (graph : RoleGraph Uuid) (userLevels : Table Uuid Int) (sets : Finset String × Finset String) (token : String) :
    let expanded := rules.foldl (fun sets rule =>
      match rule.inForce site schedules now with
      | none => sets
      | some .allow => (sets.1 ∪ (rule.tokens cardsByUser graph userLevels).toFinset, sets.2)
      | some .deny => (sets.1, sets.2 ∪ (rule.tokens cardsByUser graph userLevels).toFinset)) sets
    let names effect := ∃ rule ∈ rules, rule.inForce site schedules now = some effect ∧
      token ∈ rule.tokens cardsByUser graph userLevels
    (token ∈ expanded.1 ↔ token ∈ sets.1 ∨ names .allow) ∧ (token ∈ expanded.2 ↔ token ∈ sets.2 ∨ names .deny) := by
  induction rules generalizing sets with
  | nil => simp
  | cons rule rest ih =>
    simp only [List.foldl_cons, List.mem_cons, exists_eq_or_imp] at ih ⊢
    refine ⟨(ih ..).1.trans ?_, (ih ..).2.trans ?_⟩
    all_goals
      rcases rule.inForce site schedules now with _ | _ | _
      all_goals simp [or_assoc]

theorem mem_expandRulesAt (site : SiteTime Json) {rules : List (AccessRule Uuid)}
    {cardsByUser : AList fun _ : Uuid => List String} {schedules : List (Schedule Uuid Json)} {now : Int}
    {graph : RoleGraph Uuid} {userLevels : Table Uuid Int} {token : String} :
    let expanded := expandRulesAt site rules cardsByUser schedules now graph userLevels
    let names effect := ∃ rule ∈ rules, rule.inForce site schedules now = some effect ∧
      token ∈ rule.tokens cardsByUser graph userLevels
    (token ∈ expanded.1 ↔ names .allow) ∧ (token ∈ expanded.2 ↔ names .deny) := by
  have listed := mem_foldl_expand site rules cardsByUser schedules now graph userLevels (∅, ∅) token
  simp only [Finset.notMem_empty, false_or] at listed
  exact listed

inductive Action
  | use
  | unlock
  | unlockRemote
  deriving DecidableEq

def Action.needsIdentity : Action → Bool
  | .use => true
  | .unlock => true
  | .unlockRemote => true

inductive DenyReason
  | lockedOut
  | unavailable (reason : String)
  | inactive
  | rule
  | noMatch
  | training
  | billing
  deriving DecidableEq

inductive MayDecision
  | allow
  | deny (reason : DenyReason)
  deriving DecidableEq

structure AccessPrincipal (Uuid : Type) where
  userId : Option Uuid
  level : Int
  cardDigests : Finset String
  isActive : Bool

inductive DefaultEffect
  | open_
  | restricted
  deriving DecidableEq

structure AccessPolicy (Uuid : Type) where
  lockedOut : Bool
  unavailable : Option String
  defaultEffect : DefaultEffect
  scheduleId : Option Uuid
  trainingOk : Option Bool
  meteredOk : Option Bool

def AccessRule.matched (rule : AccessRule Uuid) (principal : AccessPrincipal Uuid) (graph : RoleGraph Uuid) : Bool :=
  match DoorRuleKind.parse rule.kind with
  | none => false
  | some .card => decide (rule.value ∈ principal.cardDigests)
  | some .user => principal.userId.map IdText.toText == some rule.value
  | some .role => (graph.levelOfName rule.value).any fun required => decide (required ≤ principal.level)
  | some .openAccess => false

def may (principal : AccessPrincipal Uuid) (policy : AccessPolicy Uuid) (rules : List (AccessRule Uuid))
    (schedules : List (Schedule Uuid Json)) (now : Int) (graph : RoleGraph Uuid) (action : Action) : MayDecision :=
  if policy.lockedOut then .deny .lockedOut
  else match policy.unavailable with
    | some reason => .deny (.unavailable reason)
    | none =>
      if action.needsIdentity && !principal.isActive then .deny .inactive
      else
        let fires effect := rules.any fun rule =>
          rule.inForce site schedules now == some effect && rule.matched principal graph
        let matchedAllow := fires .allow
        let matchedDeny := fires .deny
        if matchedDeny then .deny .rule
        else
          let defaultOpen := policy.defaultEffect = .open_ &&
            ruleFires .allow (scheduleStateAt site policy.scheduleId schedules now)
          if !matchedAllow && !defaultOpen then .deny .noMatch
          else if policy.trainingOk = some false then .deny .training
          else if policy.meteredOk = some false then .deny .billing
          else .allow

def doorPolicy (enabled : Bool) : AccessPolicy Uuid where
  lockedOut := false
  unavailable := if enabled then none else some "Door is disabled"
  defaultEffect := .restricted
  scheduleId := none
  trainingOk := none
  meteredOk := none

/-- One door of a compiled snapshot; the strike's profile gives the pulse and
the hold. -/
def compileDoor (id : Uuid) (name : String) (enabled : Bool) (pulseMs : Int) (hold : Option Int)
    (lists : Finset String × Finset String) : CompiledDoor Uuid where
  id := id
  name := name
  enabled := enabled
  unlockDurationMs := pulseMs
  allowCards := lists.1.sort (· ≤ ·)
  denyCards := lists.2.sort (· ≤ ·)
  holdUnlockUntil := hold

end Rules

end CoopSpaces

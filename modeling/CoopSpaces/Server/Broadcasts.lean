import CoopSpaces.Server.LastAdmin
import CoopSpaces.Server.Revocation
import CoopSpaces.Server.SyncTables

namespace CoopSpaces

/-- What a caller asks to have republished. -/
inductive Scope (Uuid : Type)
  | all
  | tool (toolId : Uuid)
  deriving DecidableEq

/-- A change of who has which role, or of what the roles are. -/
inductive RoleChange (Uuid : Type)
  | updateUserRole (userId : Uuid) (role : String)
  | assignUserRole (userId roleId : Uuid)
  | unassignUserRole (userId roleId : Uuid)
  | updateRole (roleId : Uuid) (level : Option Nat)
  | deleteRole (roleId : Uuid)
  | setRolePermissions (roleId : Uuid) (keys : List String)
  | setRoleInheritance (roleId : Uuid) (parents : List Uuid)

inductive TierChange (Uuid : Type)
  | updateTier (tierId : Uuid) (name : Option String) (flatFee ratePerMin : Option (Option Decimal))
    (maxSessionMinutes : Option (Option Int))
  | deleteTier (tierId : Uuid)
  | assignTier (userId toolId tierId : Uuid)
  | clearTier (userId toolId : Uuid)

/-- An address to have as the primary one, with the clock and the collation it is written under. -/
structure NewEmail where
  collation : Collation
  email : String
  staleBefore : Int
  now : Int

/-- What staff and admins do that may take a right away, past each handler's own gate. -/
inductive StaffOperation (Uuid : Type)
  | disableCard (cardId : Uuid)
  | releaseCard (cardId : Uuid)
  | grantWaiver (waiverId userId toolId : Uuid) (expiresAt : Option Int)
  | revokeWaiver (waiverId : Uuid)
  | startTrainingSession (startedAt : Int) (userId : Uuid) (request : StartTrainingRequest Uuid)
  | updateTrainingProgress (userId stepId : Uuid) (payload : UpdateProgressRequest)
  | completeTrainingSession (clock : Readings) (userId : Uuid) (request : CompleteTrainingRequest Uuid)
  | updateUser (userId : Uuid) (updates : UpdateUser) (email : Option NewEmail) (role : Option String)
  | activateUser (userId : Uuid)
  | deactivateUser (userId : Uuid)
  | deleteUser (userId : Uuid)
  | changeRole (change : RoleChange Uuid)
  | changeTier (change : TierChange Uuid)
  | setDoorRules (doorId : Uuid) (rules : List (AccessRule Uuid))

section Effects
variable {Uuid Json : Type} [DecidableEq Uuid]

/-- The graph in memory, read anew. -/
def DatabaseManager.reloaded (accounts : DatabaseManager Uuid) : DatabaseManager Uuid :=
  { accounts with rbacGraph := .fromRows accounts.roles accounts.rolePermissions accounts.roleInheritance }

def DatabaseManager.newPrimary (accounts : DatabaseManager Uuid) (userId : Uuid) :
    Option NewEmail → Except DbError (DatabaseManager Uuid)
  | none => .ok accounts
  | some new => (accounts.replacePrimaryUserEmail new.collation userId new.email new.staleBefore new.now).map (·.1)

def DatabaseManager.newTier (accounts : DatabaseManager Uuid) (userId : Uuid) :
    Option String → Except DbError (DatabaseManager Uuid)
  | none => .ok accounts
  | some name => (accounts.setUserPrimaryRole userId name).map (·.1)

def RoleChange.apply (accounts : DatabaseManager Uuid) : RoleChange Uuid → Except DbError (DatabaseManager Uuid)
  | .updateUserRole userId role => (accounts.setUserPrimaryRole userId role).map (·.1)
  | .assignUserRole userId roleId => (accounts.insertUserRole userId roleId).map (·.1)
  | .unassignUserRole userId roleId =>
    let removed := accounts.unassignUserRole userId roleId
    if removed.2 = 0 then .error .notFound else .ok removed.1
  | .updateRole roleId level => (accounts.updateRole roleId level).map (·.1.reloaded)
  | .deleteRole roleId => .ok (accounts.deleteRole roleId).1.reloaded
  | .setRolePermissions roleId keys => (accounts.setRolePermissions roleId keys).map (·.1.reloaded)
  | .setRoleInheritance roleId parents => (accounts.setRoleInheritance roleId parents).map (·.1.reloaded)

/-- Two tiers of a tool never share a name. -/
def TierChange.apply (s : SyncTables Uuid Json) : TierChange Uuid → Except DbError (SyncTables Uuid Json)
  | .updateTier tierId name flatFee ratePerMin maxSessionMinutes =>
    match s.billing.tiers tierId with
    | none => .error .notFound
    | some tier =>
      if name.any fun given => s.tierNames.any fun row => row.1 ≠ tierId && row.2.1 = tier.toolId &&
        row.2.2 = given then
        .error .uniqueViolation
      else
        .ok { s with
          tierNames := s.tierNames.map fun row => if row.1 = tierId then (row.1, row.2.1, name.getD row.2.2) else row
          billing := s.billing.editCatalog (.setTier tierId
            { tier with
              flatFee := flatFee.getD tier.flatFee
              ratePerMin := ratePerMin.getD tier.ratePerMin
              maxSessionMinutes := maxSessionMinutes.getD tier.maxSessionMinutes }) }
  | .deleteTier tierId =>
    if (s.billing.tiers tierId).isNone then .error .notFound
    else
      .ok { s with
        tierNames := s.tierNames.filter fun row => row.1 ≠ tierId
        billing := s.billing.editCatalog (.deleteTier tierId) }
  | .assignTier userId toolId tierId =>
    -- The tier must be one of this tool's.
    if (s.billing.tiers tierId).all fun tier => tier.toolId ≠ toolId then .error .notFound
    else if (s.billing.users userId).isNone then .error .foreignKeyViolation
    else .ok { s with billing := s.billing.editCatalog (.assignTier userId toolId tierId) }
  | .clearTier userId toolId =>
    if (s.billing.assignments (userId, toolId)).isNone then .error .notFound
    else .ok { s with billing := s.billing.editCatalog (.clearTier userId toolId) }

namespace SyncTables

/-- A live code is one member's: two rows that are not released never share it. -/
def setCardStatus (s : SyncTables Uuid Json) (cardId : Uuid) (status : CardStatus) :
    Except DbError (SyncTables Uuid Json) :=
  match s.cards.find? fun row => row.1 = cardId with
  | none => .error .notFound
  | some held =>
    if status ≠ .released ∧ (s.cards.any fun row => row.1 ≠ cardId && row.2.status ≠ .released &&
      held.2.codeBidx.isSome &&
        row.2.codeBidx = held.2.codeBidx) then .error .uniqueViolation
    else .ok { s with cards := s.cards.map fun row => if row.1 = cardId then (row.1, { row.2 with status }) else row }

/-- One waiver for a member and a tool; granting again updates it in place. -/
def upsertWaiver (s : SyncTables Uuid Json) (waiverId userId toolId : Uuid) (expiresAt : Option Int) :
    Except DbError (SyncTables Uuid Json) :=
  if s.waivers.any fun row => row.2.userId = userId && row.2.toolId = toolId then
    .ok { s with
      waivers := s.waivers.map fun row =>
        if row.2.userId = userId ∧ row.2.toolId = toolId then (row.1, { row.2 with expiresAt }) else row }
  else if (s.accounts.findUserById userId).isNone ∨ toolId ∉ s.tools.map (·.id) then .error .foreignKeyViolation
  else .ok { s with waivers := s.waivers ++ [(waiverId, ⟨userId, toolId, expiresAt⟩)] }

def revokeWaiver (s : SyncTables Uuid Json) (waiverId : Uuid) : Except DbError (SyncTables Uuid Json) :=
  if s.waivers.all fun row => row.1 ≠ waiverId then .error .notFound
  else .ok { s with waivers := s.waivers.filter fun row => row.1 ≠ waiverId }

/-- The tables with what an update made of them, and what the handler asks to have broadcast
once it is in; a refused one leaves them as they are, and asks for nothing. -/
def finish (s : SyncTables Uuid Json) (requests : List (Scope Uuid)) :
    Except DbError (SyncTables Uuid Json) → SyncTables Uuid Json × List (Scope Uuid)
  | .ok s' => (s', requests)
  | .error _ => (s, [])

/-- The row, the address and the tier are written one after another, and what is written stays
when the next is refused. -/
def updateUser (s : SyncTables Uuid Json) (userId : Uuid) (updates : UpdateUser) (email : Option NewEmail)
    (role : Option String) : SyncTables Uuid Json × List (Scope Uuid) :=
  match s.accounts.updateUser userId updates with
  | .error _ => (s, [])
  | .ok (accounts, _) =>
    match accounts.newPrimary userId email with
    | .error _ => ({ s with accounts }, [])
    | .ok accounts =>
      match accounts.newTier userId role with
      | .error _ => ({ s with accounts }, [])
      | .ok accounts => ({ s with accounts }, if updates.isActive.isSome then [.all] else [])

def setActive (s : SyncTables Uuid Json) (userId : Uuid) (isActive : Bool) : Except DbError (SyncTables Uuid Json) :=
  (s.accounts.updateUser userId ⟨none, none, none, some isActive⟩).map fun row => { s with accounts := row.1 }

/-- What is a member's goes with them; a row that is not theirs keeps the account it refers to. -/
def deleteUser (s : SyncTables Uuid Json) (userId : Uuid) : Except DbError (SyncTables Uuid Json) :=
  if s.pinned userId then .error .foreignKeyViolation
  else (s.accounts.deleteUser userId).map fun deleted =>
    { s with
      accounts := deleted.1
      cards := s.cards.filter fun row => row.2.userId ≠ userId
      waivers := s.waivers.filter fun row => row.2.userId ≠ userId
      training := { s.training with
        users := s.training.users.filter fun other => other ≠ userId
        progress := s.training.progress.retain fun key _ => decide (key.1 ≠ userId) } }

end SyncTables

/-- What each handler writes, and then asks for. At most the doors hear of the others. -/
def StaffOperation.perform (s : SyncTables Uuid Json) : StaffOperation Uuid → SyncTables Uuid Json × List (Scope Uuid)
  | .disableCard cardId => s.finish [.all] (s.setCardStatus cardId .disabled)
  | .releaseCard cardId => s.finish [.all] (s.setCardStatus cardId .released)
  | .grantWaiver waiverId userId toolId expiresAt => s.finish [] (s.upsertWaiver waiverId userId toolId expiresAt)
  | .revokeWaiver waiverId => s.finish [] (s.revokeWaiver waiverId)
  | .startTrainingSession startedAt userId request =>
    s.finish [] ((s.training.startTrainingSession startedAt userId request).map fun training => { s with training })
  | .updateTrainingProgress userId stepId payload =>
    s.finish [] ((s.training.updateTrainingProgress userId stepId payload).map fun training => { s with training })
  | .completeTrainingSession clock userId request =>
    s.finish [.all] ((s.training.completeTrainingSession clock userId request).map fun training =>
      { s with training })
  | .updateUser userId updates email role => s.updateUser userId updates email role
  | .activateUser userId => s.finish [] (s.setActive userId true)
  | .deactivateUser userId => s.finish [] (s.setActive userId false)
  | .deleteUser userId => s.finish [] (s.deleteUser userId)
  | .changeRole change => s.finish [] ((change.apply s.accounts).map fun accounts => { s with accounts })
  | .changeTier change => s.finish [] (change.apply s)
  | .setDoorRules doorId rules => s.finish [] (.ok { s with doorRules := Function.update s.doorRules doorId rules })

/-- The devices a request is published to. -/
def Scope.Covers (s : SyncTables Uuid Json) (device : Uuid) : Scope Uuid → Prop
  | .all => device ∈ s.approved
  | .tool toolId => (device, toolId) ∈ s.bindings

/-- Whenever an operation takes a card out of what an approved device's payload lets use a
tool, the device is told. -/
def SyncTables.Pushes [IdText Uuid] (rules : SyncRules Json) (now : Int) (s : SyncTables Uuid Json)
    (done : SyncTables Uuid Json × List (Scope Uuid)) : Prop :=
  ∀ device ∈ s.approved, ∀ toolId digest, s.Authorizes rules now device toolId digest →
    ¬ done.1.Authorizes rules now device toolId digest → ∃ scope ∈ done.2, scope.Covers done.1 device

/-- Nobody's card is taken out when these are the rights left. -/
def SyncTables.KeepsAll (rules : SyncRules Json) (now : Int) (s : SyncTables Uuid Json) (left : Rights Uuid) : Prop :=
  ∀ device ∈ s.approved, ∀ toolId digest, s.Admits rules now (s.rights rules now) device toolId digest →
    s.Admits rules now left device toolId digest

/-- The changeset a request for a member's row makes. -/
def UpdateProgressRequest.changes (payload : UpdateProgressRequest) : UpdateUserTrainingProgress Uuid :=
  ⟨some payload.status, none, none, none, none, payload.assessmentScore, payload.notes⟩

/-- Whether a completion that expires then still counts. -/
def unexpired (now : Int) (expiresAt : Option Int) : Bool := expiresAt.all fun expiry => !decide (expiry < now)

/-- The roles of members with one more given, if it was not. -/
def givenRole (userRoles : List (Uuid × Uuid)) (userId roleId : Uuid) : List (Uuid × Uuid) :=
  if userRoles.any fun row => row = (userId, roleId) then userRoles else userRoles ++ [(userId, roleId)]

/-- The roles of members without the tier of one. -/
def DatabaseManager.untiered (accounts : DatabaseManager Uuid) (userId : Uuid) : List (Uuid × Uuid) :=
  accounts.userRoles.filter fun row => ¬(row.1 = userId ∧ row.2 ∈ accounts.tierIds)

/-- The roles of members with the tier of one set, where it is named. -/
def DatabaseManager.tieredRoles (accounts : DatabaseManager Uuid) (userId : Uuid) : Option String → List (Uuid × Uuid)
  | none => accounts.userRoles
  | some name =>
    match accounts.roles.find? fun role => role.name = name with
    | none => accounts.untiered userId
    | some role => givenRole (accounts.untiered userId) userId role.id

/-- A member can have that address as the primary one: there is one now, and no row holds it but
that one and stale claims. -/
def DatabaseManager.canHave (accounts : DatabaseManager Uuid) (userId : Uuid) : Option NewEmail → Bool
  | none => true
  | some new =>
    decide ((accounts.userEmails.countP fun row => row.userId = userId ∧ row.isPrimary = true) = 1 ∧
      ∀ row ∈ accounts.userEmails, new.collation.lower row.email = new.collation.lower (trim new.email) →
        (row.userId = userId ∧ row.isPrimary = true) ∨
          (new.collation.lower row.email = new.collation.toLowercase (trim new.email) ∧ row.verifiedAt = none ∧
            row.isPrimary = false ∧ row.createdAt < new.staleBefore))

/-- A change of roles that is not made: of a role, a member or an assignment that is not there. -/
def RoleChange.Refused (accounts : DatabaseManager Uuid) : RoleChange Uuid → Prop
  | .updateUserRole userId role => ∃ row, (accounts.roles.find? fun row => row.name = role) = some row ∧
      (userId, row.id) ∉ accounts.untiered userId ∧ accounts.findUserById userId = none
  | .assignUserRole userId roleId => (userId, roleId) ∉ accounts.userRoles ∧
      (accounts.findUserById userId = none ∨ accounts.getRole roleId = none)
  | .unassignUserRole userId roleId => (userId, roleId) ∉ accounts.userRoles
  | .updateRole roleId _ => accounts.getRole roleId = none
  | .deleteRole _ => False
  | .setRolePermissions roleId keys =>
    ¬ ∀ key ∈ keys, (accounts.getRole roleId).isSome ∧ key ∈ accounts.permissions
  | .setRoleInheritance roleId parents => roleId ∈ parents ∨
      ¬ ∀ parent ∈ parents, (accounts.getRole roleId).isSome ∧ (accounts.getRole parent).isSome

/-- The graph in memory after a change of roles: a change of assignments leaves it, any other has
it read anew. -/
def RoleChange.graph (accounts : DatabaseManager Uuid) : RoleChange Uuid → CachedGraph Uuid
  | .updateUserRole .. | .assignUserRole .. | .unassignUserRole .. => accounts.rbacGraph
  | .updateRole roleId level =>
    .fromRows (accounts.roles.map fun role =>
        if role.id = roleId then { role with level := level.getD role.level } else role)
      accounts.rolePermissions accounts.roleInheritance
  | .deleteRole roleId =>
    .fromRows (accounts.roles.filter fun role => role.id ≠ roleId)
      (accounts.rolePermissions.filter fun row => row.1 ≠ roleId)
      (accounts.roleInheritance.filter fun row => row.1 ≠ roleId ∧ row.2 ≠ roleId)
  | .setRolePermissions roleId keys =>
    .fromRows accounts.roles
      ((accounts.rolePermissions.filter fun row => row.1 ≠ roleId) ++ keys.map fun key => (roleId, key))
      accounts.roleInheritance
  | .setRoleInheritance roleId parents =>
    .fromRows accounts.roles accounts.rolePermissions
      ((accounts.roleInheritance.filter fun row => row.1 ≠ roleId) ++ parents.map fun parent => (roleId, parent))

def RoleChange.assignments (accounts : DatabaseManager Uuid) : RoleChange Uuid → List (Uuid × Uuid)
  | .updateUserRole userId role => accounts.tieredRoles userId (some role)
  | .assignUserRole userId roleId => givenRole accounts.userRoles userId roleId
  | .unassignUserRole userId roleId => accounts.userRoles.filter fun row => row ≠ (userId, roleId)
  | .deleteRole roleId => accounts.userRoles.filter fun row => row.2 ≠ roleId
  | .updateRole .. | .setRolePermissions .. | .setRoleInheritance .. => accounts.userRoles

/-- A change of tiers that is not made: of a tier or an assignment that is not there, of a tool's
tier to another's name, or for a member who is not there. -/
def TierChange.Refused (s : SyncTables Uuid Json) : TierChange Uuid → Prop
  | .updateTier tierId name _ _ _ => ∀ tier ∈ s.billing.tiers tierId, ∃ given ∈ name, ∃ row ∈ s.tierNames,
      row.1 ≠ tierId ∧ row.2.1 = tier.toolId ∧ row.2.2 = given
  | .deleteTier tierId => s.billing.tiers tierId = none
  | .assignTier userId toolId tierId =>
    (∀ tier ∈ s.billing.tiers tierId, tier.toolId ≠ toolId) ∨ s.billing.users userId = none
  | .clearTier userId toolId => s.billing.assignments (userId, toolId) = none

/-- The tier a member is on with a tool, after a change of tiers. -/
def TierChange.tierOf (billing : BillingTables Uuid) : TierChange Uuid → Uuid → Uuid →
    Option (Uuid × ToolRateTier Uuid)
  | .updateTier tierId _ flatFee ratePerMin maxSessionMinutes, user, tool =>
    (billing.tierOf user tool).map fun (id, tier) => (id,
      if id = tierId then
        { tier with
          flatFee := flatFee.getD tier.flatFee
          ratePerMin := ratePerMin.getD tier.ratePerMin
          maxSessionMinutes := maxSessionMinutes.getD tier.maxSessionMinutes }
      else tier)
  | .deleteTier tierId, user, tool => (billing.tierOf user tool).filter fun assigned => assigned.1 ≠ tierId
  | .assignTier userId toolId tierId, user, tool =>
    if user = userId ∧ tool = toolId then (billing.tiers tierId).map fun tier => (tierId, tier)
    else billing.tierOf user tool
  | .clearTier userId toolId, user, tool =>
    if user = userId ∧ tool = toolId then none else billing.tierOf user tool

/-- The operations that push whatever they revoke: those that ask for a broadcast, those that
revoke nothing, and any other on a state where each card it could take out is still held by
somebody entitled. -/
def StaffOperation.Spares (rules : SyncRules Json) (now : Int) (s : SyncTables Uuid Json) : StaffOperation Uuid → Prop
  | .disableCard _ | .releaseCard _ | .completeTrainingSession .. | .activateUser _ | .setDoorRules .. => True
  | .grantWaiver _ userId toolId expiresAt =>
    s.KeepsAll rules now { s.rights rules now with
      trained := fun tool user => s.TrainedBy tool
        (if user = userId ∧ tool.id = toolId then expiresAt.all (fun expiry => decide (now < expiry)) = true
          else s.userHasActiveWaiver now user tool.id = true)
        fun stepId => s.training.stepDone now user stepId = true }
  | .revokeWaiver waiverId =>
    s.KeepsAll rules now { s.rights rules now with
      trained := fun tool user => s.TrainedBy tool
        (∃ row ∈ s.waivers, row.1 ≠ waiverId ∧ row.2.inForce now user tool.id = true)
        fun stepId => s.training.stepDone now user stepId = true }
  | .startTrainingSession startedAt userId request =>
    request.instructorId.any (fun instructor => instructor ∉ s.training.users) = true ∨
      -- A row that keeps the date of its completion cannot be begun after it.
      (∃ row, s.training.progress (userId, request.trainingStepId) = some row ∧
        ¬ (row.begunAgain startedAt request.instructorId).Valid) ∨
      s.KeepsAll rules now { s.rights rules now with
        trained := fun tool user => s.TrainedBy tool (s.userHasActiveWaiver now user tool.id = true)
          fun step => ¬ (user = userId ∧ step = request.trainingStepId) ∧ s.training.stepDone now user step = true }
  | .updateTrainingProgress userId stepId payload =>
    -- A score out of bounds is refused, as is any change of a row with its dates the wrong way round.
    (∃ row, s.training.progress (userId, stepId) = some row ∧ ¬ (payload.changes.set row).Valid) ∨
      s.KeepsAll rules now { s.rights rules now with
        trained := fun tool user => s.TrainedBy tool (s.userHasActiveWaiver now user tool.id = true)
          fun step => if user = userId ∧ step = stepId then
              payload.status = .completed ∧ ∃ row, s.training.progress (userId, stepId) = some row ∧
                unexpired now row.expiresAt = true
            else s.training.stepDone now user step = true }
  | .updateUser userId updates email role =>
    s.accounts.findUserById userId = none ∨ s.accounts.NameTaken userId updates ∨
      (updates.isActive.isSome = true ∧ s.accounts.canHave userId email = true) ∨
      s.KeepsAll rules now { s.rights rules now with
        active := fun user => ∃ row, s.accounts.users.lookup user = some row ∧
          (if user = userId then updates.isActive.getD row.isActive else row.isActive) = true
        affords := s.AffordsBy rules s.billing.tierOf s.accounts.rbacGraph
          -- With an address that is refused, the tier is not reached.
          (if s.accounts.canHave userId email then s.accounts.tieredRoles userId role else s.accounts.userRoles) }
  | .deactivateUser userId =>
    s.KeepsAll rules now
      { s.rights rules now with active := fun user => user ≠ userId ∧ (s.rights rules now).active user }
  | .deleteUser userId =>
    s.pinned userId = true ∨
      s.KeepsAll rules now
        { s.rights rules now with active := fun user => user ≠ userId ∧ (s.rights rules now).active user }
  | .changeRole change =>
    change.Refused s.accounts ∨
      s.KeepsAll rules now { s.rights rules now with
        affords := s.AffordsBy rules s.billing.tierOf (change.graph s.accounts) (change.assignments s.accounts) }
  | .changeTier change =>
    change.Refused s ∨
      s.KeepsAll rules now { s.rights rules now with
        affords := s.AffordsBy rules (change.tierOf s.billing) s.accounts.rbacGraph s.accounts.userRoles }

end Effects

section Pushes
variable {Uuid Json : Type} [DecidableEq Uuid] {rules : SyncRules Json} {now : Int} {s s' : SyncTables Uuid Json}

namespace SyncTables

omit [DecidableEq Uuid] in
theorem SameSite.refl (s : SyncTables Uuid Json) : SameSite s s := ⟨rfl, rfl, rfl, rfl, rfl⟩

theorem Admits.mono {r r' : Rights Uuid} {device toolId : Uuid} {digest : List UInt8}
    (admits : s.Admits rules now r device toolId digest) (active : ∀ userId, r.active userId → r'.active userId)
    (holds : r'.holds = r.holds) (trained : r'.trained = r.trained) (affords : r'.affords = r.affords) :
    s.Admits rules now r' device toolId digest := by
  obtain ⟨tool, listed, same, bound, unlocked, opened, userId, isActive, held, enough, money⟩ := admits
  rw [← holds] at held
  rw [← trained] at enough
  rw [← affords] at money
  exact ⟨tool, listed, same, bound, unlocked, opened, userId, active userId isActive, held, enough, money⟩

variable [IdText Uuid]

theorem pushes_of_same {requests : List (Scope Uuid)} : s.Pushes rules now (s, requests) :=
  fun _ _ _ _ before after => absurd before after

theorem pushes_of_all (same : s'.approved = s.approved) : s.Pushes rules now (s', [.all]) := by
  intro device approved toolId digest _ _
  refine ⟨.all, List.mem_singleton_self _, ?_⟩
  show device ∈ s'.approved
  rw [same]
  exact approved

theorem pushes_iff_keepsAll {left : Rights Uuid} (same : SameSite s s')
    (agree : (s'.rights rules now).Agree s.tools left) :
    s.Pushes rules now (s', []) ↔ s.KeepsAll rules now left := by
  refine forall_congr' fun device => forall_congr' fun _ => forall_congr' fun toolId => forall_congr' fun digest => ?_
  rw [authorizes_iff, authorizes_iff, admits_congr same agree]
  constructor
  · intro told before
    by_contra lost
    obtain ⟨scope, listed, -⟩ := told before lost
    cases listed
  · intro keeps before lost
    exact absurd (keeps before) lost

theorem pushes_finish_all {result : Except DbError (SyncTables Uuid Json)}
    (same : ∀ s', result = .ok s' → s'.approved = s.approved) : s.Pushes rules now (s.finish [.all] result) := by
  rcases result with refused | s'
  · exact pushes_of_same
  · exact pushes_of_all (same s' rfl)

theorem pushes_finish_iff {result : Except DbError (SyncTables Uuid Json)} {left : Rights Uuid}
    (refused : ∀ e, result = .error e → (s.rights rules now).Agree s.tools left)
    (ran : ∀ s', result = .ok s' → SameSite s s' ∧ (s'.rights rules now).Agree s.tools left) :
    s.Pushes rules now (s.finish [] result) ↔ s.KeepsAll rules now left := by
  rcases result with e | s'
  · exact pushes_iff_keepsAll (SameSite.refl s) (refused e rfl)
  · obtain ⟨same, agree⟩ := ran s' rfl
    exact pushes_iff_keepsAll same agree

end SyncTables

end Pushes

section Rights
variable {Uuid Json : Type} [DecidableEq Uuid] {rules : SyncRules Json} {now : Int} {s s' : SyncTables Uuid Json}

namespace SyncTables

theorem approved_of_setCardStatus {cardId : Uuid} {status : CardStatus}
    (ran : s.setCardStatus cardId status = .ok s') :
    s'.approved = s.approved := by
  unfold setCardStatus at ran
  split at ran
  · cases ran
  · split at ran
    · cases ran
    · cases ran
      rfl

theorem upsertWaiver_error {waiverId userId toolId : Uuid} {expiresAt : Option Int} {e : DbError}
    (refused : s.upsertWaiver waiverId userId toolId expiresAt = .error e) :
    s.accounts.users.lookup userId = none ∨ toolId ∉ s.tools.map (·.id) := by
  unfold upsertWaiver at refused
  split at refused
  · cases refused
  · split at refused
    · rename_i missing
      exact missing.imp_left Option.isNone_iff_eq_none.mp
    · cases refused

section Waivers
variable {waivers : List (Uuid × TrainingWaiver Uuid)} {userId toolId : Uuid} (expiresAt : Option Int)

theorem inForce_iff {waiver : TrainingWaiver Uuid} {user tool : Uuid} :
    waiver.inForce now user tool = true ↔ (waiver.userId = user ∧ waiver.toolId = tool) ∧
      waiver.expiresAt.all (fun expiry => decide (now < expiry)) = true := by
  simp only [TrainingWaiver.inForce, Bool.and_eq_true, decide_eq_true_eq]

/-- With a waiver of that member for that tool there, it is in force until its new date. -/
theorem any_inForce_updated (held : ∃ row ∈ waivers, row.2.userId = userId ∧ row.2.toolId = toolId)
    (user tool : Uuid) :
    (∃ row ∈ waivers, (if row.2.userId = userId ∧ row.2.toolId = toolId then (row.1, { row.2 with expiresAt })
      else row).2.inForce
        now user tool = true) ↔
      if user = userId ∧ tool = toolId then expiresAt.all (fun expiry => decide (now < expiry)) = true
      else ∃ row ∈ waivers, row.2.inForce now user tool = true := by
  split
  · rename_i here
    obtain ⟨rfl, rfl⟩ := here
    constructor
    · rintro ⟨row, -, inForce⟩
      split at inForce
      · exact (inForce_iff.mp inForce).2
      · rename_i other
        exact absurd (inForce_iff.mp inForce).1 other
    · intro lasts
      obtain ⟨mine, there, isMine⟩ := held
      refine ⟨mine, there, ?_⟩
      rw [if_pos isMine]
      exact inForce_iff.mpr ⟨isMine, lasts⟩
  · rename_i elsewhere
    refine exists_congr fun row => and_congr_right fun _ => ?_
    split
    · rename_i same
      have apart : ¬ (row.2.userId = user ∧ row.2.toolId = tool) := by
        rintro ⟨rfl, rfl⟩
        exact elsewhere same
      exact iff_of_false (fun inForce => apart (inForce_iff.mp inForce).1) fun inForce =>
        apart (inForce_iff.mp inForce).1
    · exact Iff.rfl

theorem any_inForce_added (fresh : ¬ ∃ row ∈ waivers, row.2.userId = userId ∧ row.2.toolId = toolId)
    (user tool : Uuid) :
    ((∃ row ∈ waivers, row.2.inForce now user tool = true) ∨
        TrainingWaiver.inForce ⟨userId, toolId, expiresAt⟩ now user tool = true) ↔
      if user = userId ∧ tool = toolId then expiresAt.all (fun expiry => decide (now < expiry)) = true
      else ∃ row ∈ waivers, row.2.inForce now user tool = true := by
  split
  · rename_i here
    obtain ⟨rfl, rfl⟩ := here
    rw [inForce_iff, and_iff_right ⟨rfl, rfl⟩]
    refine or_iff_right ?_
    rintro ⟨row, there, inForce⟩
    exact fresh ⟨row, there, (inForce_iff.mp inForce).1⟩
  · rename_i elsewhere
    refine or_iff_left fun inForce => elsewhere ?_
    obtain ⟨mine, named⟩ := (inForce_iff.mp inForce).1
    exact ⟨mine.symm, named.symm⟩

end Waivers

/-- The one waiver of that member for that tool is in force until the date given. -/
theorem upsertWaiver_spec {waiverId userId toolId : Uuid} {expiresAt : Option Int} (now : Int)
    (ran : s.upsertWaiver waiverId userId toolId expiresAt = .ok s') : (∃ waivers, s' = { s with waivers }) ∧
      ∀ user tool, s'.userHasActiveWaiver now user tool = true ↔
        if user = userId ∧ tool = toolId then expiresAt.all (fun expiry => decide (now < expiry)) = true
        else s.userHasActiveWaiver now user tool = true := by
  have there : (s.waivers.any fun row => row.2.userId = userId && row.2.toolId = toolId) = true ↔
      ∃ row ∈ s.waivers, row.2.userId = userId ∧ row.2.toolId = toolId := by
    simp only [List.any_eq_true, Bool.and_eq_true, decide_eq_true_eq]
  unfold upsertWaiver at ran
  split at ran
  · rename_i held
    cases ran
    refine ⟨⟨_, rfl⟩, fun user tool => ?_⟩
    simp only [userHasActiveWaiver, List.any_map, List.any_eq_true, Function.comp_apply]
    exact any_inForce_updated expiresAt (there.mp held) user tool
  · rename_i fresh
    split at ran
    · cases ran
    · cases ran
      refine ⟨⟨_, rfl⟩, fun user tool => ?_⟩
      simp only [userHasActiveWaiver, List.any_append, List.any_cons, List.any_nil, Bool.or_false, Bool.or_eq_true,
        List.any_eq_true]
      exact any_inForce_added expiresAt (mt there.mpr fresh) user tool

theorem revokeWaiver_spec {waiverId : Uuid} (now : Int) (ran : s.revokeWaiver waiverId = .ok s') :
    (∃ waivers, s' = { s with waivers }) ∧ ∀ user tool, s'.userHasActiveWaiver now user tool = true ↔
      ∃ row ∈ s.waivers, row.1 ≠ waiverId ∧ row.2.inForce now user tool = true := by
  unfold revokeWaiver at ran
  split at ran
  · cases ran
  · cases ran
    refine ⟨⟨_, rfl⟩, fun user tool => ?_⟩
    simp only [userHasActiveWaiver, List.any_eq_true, List.mem_filter, decide_eq_true_eq, and_assoc]

theorem trained_iff {tool : Tool Uuid} {user : Uuid} {waived : Prop} {done : Uuid → Prop}
    (steps : s'.training.steps = s.training.steps) (waives : s'.userHasActiveWaiver now user tool.id = true ↔ waived)
    (counts : ∀ stepId, s'.training.stepDone now user stepId = true ↔ done stepId) :
    (s'.rights rules now).trained tool user ↔ s.TrainedBy tool waived done := by
  unfold rights TrainedBy toolHasTrainingSteps
  dsimp only
  rw [steps]
  refine or_congr_right (or_congr waives (and_congr_right fun _ => ?_))
  exact forall_congr' fun step => forall_congr' fun _ => imp_congr_right fun _ => counts step.1

theorem trained_congr {tool : Tool Uuid} {user : Uuid} (steps : s'.training.steps = s.training.steps)
    (waives : s'.userHasActiveWaiver now user tool.id = true ↔ s.userHasActiveWaiver now user tool.id = true)
    (counts : ∀ stepId, s'.training.stepDone now user stepId = true ↔ s.training.stepDone now user stepId = true) :
    (s'.rights rules now).trained tool user ↔ (s.rights rules now).trained tool user :=
  trained_iff steps waives counts

theorem agree_trained {waived : Tool Uuid → Uuid → Prop} {done : Uuid → Uuid → Prop} (training : TrainingTables Uuid)
    (waivers : List (Uuid × TrainingWaiver Uuid)) (steps : training.steps = s.training.steps)
    (waives : ∀ user, ∀ tool ∈ s.tools, (s.rights rules now).active user →
      (userHasActiveWaiver { s with waivers } now user tool.id = true ↔ waived tool user))
    (counts : ∀ user stepId, training.stepDone now user stepId = true ↔ done user stepId) :
    (rights rules { s with training, waivers } now).Agree s.tools
      { s.rights rules now with trained := fun tool user => s.TrainedBy tool (waived tool user) (done user) } := by
  refine ⟨fun _ => Iff.rfl, fun _ _ _ => Iff.rfl, ?_, fun _ _ _ => Iff.rfl⟩
  intro user tool listed active
  exact trained_iff steps (waives user tool listed active) (counts user)

theorem agree_active {active : Uuid → Prop} (users : AList fun _ : Uuid => UserRow)
    (isActive : ∀ user, (∃ row, users.lookup user = some row ∧ row.isActive = true) ↔ active user) :
    (rights rules { s with accounts := { s.accounts with users } } now).Agree s.tools
    { s.rights rules now with active := active } :=
  ⟨isActive, fun _ _ _ => Iff.rfl, fun _ _ _ _ => Iff.rfl, fun _ _ _ => Iff.rfl⟩

end SyncTables

theorem TrainingTables.updateTrainingProgress_eq (db : TrainingTables Uuid) (userId stepId : Uuid)
    (payload : UpdateProgressRequest) :
    db.updateTrainingProgress userId stepId payload = db.updateRow (userId, stepId) payload.changes.set := rfl

theorem TrainingTables.stepDone_insert (db : TrainingTables Uuid) (now : Int) (key : Uuid × Uuid)
    (row : UserTrainingProgress Uuid)
    (userId stepId : Uuid) :
    TrainingTables.stepDone { db with progress := db.progress.insert key row } now userId stepId = true ↔
      if userId = key.1 ∧ stepId = key.2 then row.status = .completed ∧ unexpired now row.expiresAt = true
      else db.stepDone now userId stepId = true := by
  unfold TrainingTables.stepDone
  by_cases here : userId = key.1 ∧ stepId = key.2
  · obtain ⟨rfl, rfl⟩ := here
    simp [unexpired]
  · have other : (userId, stepId) ≠ key := fun same => here ⟨congrArg Prod.fst same, congrArg Prod.snd same⟩
    rw [if_neg here]
    dsimp only
    rw [Table.insert_of_ne _ _ other]

namespace DatabaseManager
variable {db after : DatabaseManager Uuid} {userId : Uuid}

theorem updateUser_cases (db : DatabaseManager Uuid) (userId : Uuid) (updates : UpdateUser) :
    (db.findUserById userId = none ∧ db.updateUser userId updates = .error .notFound) ∨
      (db.NameTaken userId updates ∧ db.updateUser userId updates = .error .uniqueViolation) ∨
      ∃ row, db.findUserById userId = some row ∧ ¬ db.NameTaken userId updates ∧
        db.updateUser userId updates = .ok ({ db with users := db.users.insert userId (updates.set row) }, 1) := by
  unfold updateUser
  rcases found : db.findUserById userId with _ | row
  · exact .inl ⟨rfl, rfl⟩
  · right
    by_cases taken : db.NameTaken userId updates
    · exact .inl ⟨taken, if_pos (nameTaken_iff.mpr taken)⟩
    · exact .inr ⟨row, rfl, taken, if_neg fun any => taken (nameTaken_iff.mp any)⟩

theorem active_insert {row : UserRow} (updates : UpdateUser) (found : db.findUserById userId = some row)
    (user : Uuid) :
    (∃ mine, AList.lookup user (db.users.insert userId (updates.set row)) = some mine ∧ mine.isActive = true) ↔
      ∃ mine, db.users.lookup user = some mine ∧
        (if user = userId then updates.isActive.getD mine.isActive else mine.isActive) = true := by
  by_cases same : user = userId
  · subst same
    rw [show db.users.lookup user = some row from found]
    simp [UpdateUser.set]
  · simp only [AList.lookup_insert_ne same, if_neg same]

/-- A new address leaves everybody as active as they were. -/
theorem newPrimary_ok {email : Option NewEmail} (ran : db.newPrimary userId email = .ok after) :
    ∃ users userEmails, after = { db with users, userEmails } ∧
      ∀ user, (users.lookup user).map (·.isActive) = (db.users.lookup user).map (·.isActive) := by
  rcases email with _ | new
  · obtain rfl := Except.ok.inj ran
    exact ⟨_, _, rfl, fun _ => rfl⟩
  · unfold newPrimary replacePrimaryUserEmail at ran
    dsimp only at ran
    rcases found : db.findUserById userId with _ | row
    · rw [found] at ran
      cases ran
    · rw [found] at ran
      dsimp only at ran
      split at ran
      · cases ran
      · split at ran
        · cases ran
        · obtain rfl := Except.ok.inj ran
          refine ⟨_, _, rfl, fun user => ?_⟩
          by_cases same : user = userId
          · subst same
            rw [AList.lookup_insert, show db.users.lookup user = some row from found]
            rfl
          · rw [AList.lookup_insert_ne same]

omit [DecidableEq Uuid] in
theorem length_filter_filter_eq_iff {α : Type} {p q : α → Prop} [DecidablePred p] [DecidablePred q] (rows : List α)
    (apart : ∀ row, q row → ¬ p row) :
    (rows.filter fun row => ¬ p row).length =
      ((rows.filter fun row => ¬ p row).filter fun row => ¬ q row).length + 1 ↔
      (rows.countP fun row => q row) = 1 := by
  have counts := (rows.filter fun row => ¬ p row).length_eq_countP_add_countP fun row => decide (q row)
  have mine : (rows.filter fun row => ¬ p row).countP (fun row => decide (q row)) = rows.countP fun row => q row := by
    rw [List.countP_filter]
    refine List.countP_congr fun row _ => ?_
    simp only [Bool.and_eq_true, decide_eq_true_eq]
    exact and_iff_left_of_imp (apart row)
  simp only [decide_eq_true_eq] at counts
  rw [mine, List.countP_eq_length_filter (p := fun row => decide ¬ q row)] at counts
  omega

/-- Whether an address can be had is not a matter of what else is in the member's row. -/
theorem newPrimary_isOk {users : AList fun _ : Uuid => UserRow} (email : Option NewEmail)
    (there : (users.lookup userId).isSome) :
    (newPrimary { db with users } userId email).isOk = db.canHave userId email := by
  rcases email with _ | new
  · rfl
  · obtain ⟨mine, here⟩ := Option.isSome_iff_exists.mp there
    unfold newPrimary replacePrimaryUserEmail findUserById canHave
    dsimp only
    rw [here]
    dsimp only
    have rows := length_filter_filter_eq_iff db.userEmails
      (p := fun row => new.collation.lower row.email = new.collation.toLowercase (trim new.email) ∧
        row.verifiedAt = none ∧ row.isPrimary = false ∧ row.createdAt < new.staleBefore)
      (q := fun row => row.userId = userId ∧ row.isPrimary = true)
      fun row mine stale => Bool.false_ne_true (stale.2.2.1.symm.trans mine.2)
    by_cases one : (db.userEmails.countP fun row => row.userId = userId ∧ row.isPrimary = true) = 1
    · rw [if_neg (not_not_intro (rows.mpr one))]
      by_cases taken : ∀ row ∈ db.userEmails, new.collation.lower row.email = new.collation.lower (trim new.email) →
          (row.userId = userId ∧ row.isPrimary = true) ∨
            (new.collation.lower row.email = new.collation.toLowercase (trim new.email) ∧ row.verifiedAt = none ∧
              row.isPrimary = false ∧ row.createdAt < new.staleBefore)
      · rw [if_neg, decide_eq_true ⟨one, taken⟩]
        · rfl
        · simp only [List.any_eq_true, List.mem_filter, decide_eq_true_eq]
          rintro ⟨row, ⟨⟨there, fresh⟩, others⟩, same⟩
          exact (taken row there same).elim others fresh
      · rw [if_pos, decide_eq_false fun both => taken both.2]
        · rfl
        · simp only [List.any_eq_true, List.mem_filter, decide_eq_true_eq]
          simp only [not_forall, not_or] at taken
          obtain ⟨row, there, same, others, fresh⟩ := taken
          exact ⟨row, ⟨⟨there, fresh⟩, others⟩, same⟩
    · rw [if_pos (mt rows.mp one), decide_eq_false fun both => one both.1]
      rfl

end DatabaseManager

theorem rolesForUser_others (assignments : List (Uuid × Uuid)) {user userId : Uuid} (other : user ≠ userId) :
    rolesForUser (assignments.filter fun row => row.1 ≠ userId) user = rolesForUser assignments user := by
  unfold rolesForUser
  rw [List.filter_filter]
  refine congrArg _ (List.filter_congr fun row _ => ?_)
  by_cases mine : row.1 = user
  · simp [mine, other]
  · simp [mine]

omit [DecidableEq Uuid] in
theorem map_eq_ok_iff {ε α β : Type} {f : α → β} {x : Except ε α} {b : β} : x.map f = .ok b ↔
    ∃ a, x = .ok a ∧ f a = b := by
  rcases x with e | a
  · exact ⟨nofun, nofun⟩
  · exact ⟨fun ran => ⟨a, rfl, Except.ok.inj ran⟩,
      fun ⟨_, made, same⟩ => congrArg Except.ok (Except.ok.inj made ▸ same)⟩

/-- A role is given to a member who is there. -/
theorem DatabaseManager.insertUserRole_cases (db : DatabaseManager Uuid) (userId roleId : Uuid) :
    (((userId, roleId) ∉ db.userRoles ∧ (db.findUserById userId = none ∨ db.getRole roleId = none)) ∧
        ∃ e, db.insertUserRole userId roleId = .error e) ∨
      (¬ ((userId, roleId) ∉ db.userRoles ∧ (db.findUserById userId = none ∨ db.getRole roleId = none)) ∧
        ∃ n, db.insertUserRole userId roleId =
          .ok ({ db with userRoles := givenRole db.userRoles userId roleId }, n)) := by
  have listed : (db.userRoles.any fun row => row = (userId, roleId)) = true ↔ (userId, roleId) ∈ db.userRoles := by
    simp only [List.any_eq_true, decide_eq_true_eq, exists_eq_right]
  unfold insertUserRole givenRole
  by_cases present : (userId, roleId) ∈ db.userRoles
  · rw [if_pos (listed.mpr present), if_pos (listed.mpr present)]
    exact .inr ⟨fun refused => refused.1 present, 0, rfl⟩
  · rw [if_neg (mt listed.mp present), if_neg (mt listed.mp present)]
    by_cases known : (db.findUserById userId).isSome ∧ (db.getRole roleId).isSome
    · rw [if_pos known]
      refine .inr ⟨fun refused => ?_, 1, rfl⟩
      simp only [Option.isSome_iff_ne_none] at known
      exact refused.2.elim known.1 known.2
    · rw [if_neg known]
      refine .inl ⟨⟨present, ?_⟩, _, rfl⟩
      simpa only [not_and_or, Option.not_isSome_iff_eq_none] using known

/-- A tier is set for a member who is there. -/
theorem DatabaseManager.setUserPrimaryRole_cases (db : DatabaseManager Uuid) (userId : Uuid) (role : String) :
    ((RoleChange.updateUserRole userId role).Refused db ∧ ∃ e, db.setUserPrimaryRole userId role = .error e) ∨
      (¬ (RoleChange.updateUserRole userId role).Refused db ∧ ∃ n, db.setUserPrimaryRole userId role =
        .ok ({ db with userRoles := db.tieredRoles userId (some role) }, n)) := by
  unfold setUserPrimaryRole tieredRoles RoleChange.Refused
  dsimp only
  rcases found : db.roles.find? fun row => row.name = role with _ | row
  · rw [found]
    exact .inr ⟨nofun, 0, rfl⟩
  · have known : db.getRole row.id ≠ none :=
      Option.isSome_iff_ne_none.mp (List.find?_isSome.mpr ⟨row, List.mem_of_find?_eq_some found, decide_eq_true rfl⟩)
    rw [found]
    rcases insertUserRole_cases { db with userRoles := db.untiered userId } userId row.id
      with ⟨⟨fresh, missing⟩, e, refused⟩ | ⟨allowed, n, wrote⟩
    · exact .inl ⟨⟨row, rfl, fresh, missing.resolve_right known⟩, e, refused⟩
    · refine .inr ⟨?_, n, wrote⟩
      rintro ⟨row', named, fresh, missing⟩
      obtain rfl := Option.some.inj named
      exact allowed ⟨fresh, .inl missing⟩

/-- A change of roles is refused, or leaves this graph and these assignments and no other account. -/
theorem RoleChange.apply_cases (change : RoleChange Uuid) (accounts : DatabaseManager Uuid) :
    (change.Refused accounts ∧ ∃ e, change.apply accounts = .error e) ∨
      (¬ change.Refused accounts ∧ ∃ after, change.apply accounts = .ok after ∧ after.users = accounts.users ∧
        after.rbacGraph = change.graph accounts ∧ after.userRoles = change.assignments accounts) := by
  cases change with
  | updateUserRole userId role =>
    rcases accounts.setUserPrimaryRole_cases userId role with ⟨refused, e, failed⟩ | ⟨allowed, n, wrote⟩
    · exact .inl ⟨refused, e, congrArg (Except.map Prod.fst) failed⟩
    · exact .inr ⟨allowed, _, congrArg (Except.map Prod.fst) wrote, rfl, rfl, rfl⟩
  | assignUserRole userId roleId =>
    rcases accounts.insertUserRole_cases userId roleId with ⟨refused, e, failed⟩ | ⟨allowed, n, wrote⟩
    · exact .inl ⟨refused, e, congrArg (Except.map Prod.fst) failed⟩
    · exact .inr ⟨allowed, _, congrArg (Except.map Prod.fst) wrote, rfl, rfl, rfl⟩
  | unassignUserRole userId roleId =>
    have count : (accounts.unassignUserRole userId roleId).2 = 0 ↔ (userId, roleId) ∉ accounts.userRoles := by
      simp only [DatabaseManager.unassignUserRole, List.countP_eq_zero, decide_eq_true_eq]
      exact ⟨fun none_ there => none_ _ there rfl, fun absent row there same => absent (same ▸ there)⟩
    by_cases held : (userId, roleId) ∈ accounts.userRoles
    · exact .inr ⟨not_not_intro held, _, if_neg (mt count.mp (not_not_intro held)), rfl, rfl, rfl⟩
    · exact .inl ⟨held, .notFound, if_pos (count.mpr held)⟩
  | updateRole roleId level =>
    by_cases known : (accounts.getRole roleId).isSome
    · have wrote : accounts.updateRole roleId level = .ok ({ accounts with
          roles := accounts.roles.map fun role =>
            if role.id = roleId then { role with level := level.getD role.level } else role }, 1) := if_pos known
      exact .inr ⟨Option.isSome_iff_ne_none.mp known, _,
        congrArg (Except.map (DatabaseManager.reloaded ∘ Prod.fst)) wrote, rfl, rfl, rfl⟩
    · refine .inl ⟨Option.not_isSome_iff_eq_none.mp known, .notFound, ?_⟩
      rw [apply, DatabaseManager.updateRole, if_neg known]
      rfl
  | deleteRole roleId => exact .inr ⟨id, _, rfl, rfl, rfl, rfl⟩
  | setRolePermissions roleId keys =>
    by_cases known : ∀ key ∈ keys, (accounts.getRole roleId).isSome ∧ key ∈ accounts.permissions
    · have wrote : accounts.setRolePermissions roleId keys = .ok ({ accounts with
          rolePermissions := (accounts.rolePermissions.filter fun row => row.1 ≠ roleId) ++
            keys.map fun key => (roleId, key) }, 1) := if_pos known
      exact .inr ⟨fun refused => refused known, _,
        congrArg (Except.map (DatabaseManager.reloaded ∘ Prod.fst)) wrote, rfl, rfl, rfl⟩
    · refine .inl ⟨known, .foreignKeyViolation, ?_⟩
      rw [apply, DatabaseManager.setRolePermissions, if_neg known]
      rfl
  | setRoleInheritance roleId parents =>
    by_cases itself : roleId ∈ parents
    · refine .inl ⟨.inl itself, .checkViolation, ?_⟩
      rw [apply, DatabaseManager.setRoleInheritance, if_pos itself]
      rfl
    · by_cases known : ∀ parent ∈ parents, (accounts.getRole roleId).isSome ∧ (accounts.getRole parent).isSome
      · have wrote : accounts.setRoleInheritance roleId parents = .ok ({ accounts with
            roleInheritance := (accounts.roleInheritance.filter fun row => row.1 ≠ roleId) ++
              parents.map fun parent => (roleId, parent) }, 1) := (if_neg itself).trans (if_pos known)
        exact .inr ⟨fun refused => refused.elim itself fun unknown => unknown known, _,
          congrArg (Except.map (DatabaseManager.reloaded ∘ Prod.fst)) wrote, rfl, rfl, rfl⟩
      · refine .inl ⟨.inr known, .foreignKeyViolation, ?_⟩
        rw [apply, DatabaseManager.setRoleInheritance, if_neg itself, if_neg known]
        rfl

variable {userId : Uuid}

theorem DatabaseManager.newTier_eq (db : DatabaseManager Uuid) {users : AList fun _ : Uuid => UserRow}
    (userEmails : List (UserEmail Uuid)) (role : Option String) (there : (users.lookup userId).isSome) :
    newTier { db with users, userEmails } userId role =
      .ok { db with users, userEmails, userRoles := db.tieredRoles userId role } := by
  rcases role with _ | name
  · rfl
  · rcases setUserPrimaryRole_cases { db with users, userEmails } userId name with
      ⟨⟨_, _, _, missing⟩, -⟩ | ⟨-, n, wrote⟩
    · obtain ⟨row, found⟩ := Option.isSome_iff_exists.mp there
      exact absurd (found.symm.trans missing) (Option.some_ne_none row)
    · exact congrArg (Except.map Prod.fst) wrote

/-! What each operation leaves members with. -/

variable [IdText Uuid]

theorem pushes_grantWaiver {waiverId toolId : Uuid} {expiresAt : Option Int} :
    s.Pushes rules now (StaffOperation.perform s (.grantWaiver waiverId userId toolId expiresAt)) ↔
      StaffOperation.Spares rules now s (.grantWaiver waiverId userId toolId expiresAt) := by
  refine SyncTables.pushes_finish_iff ?_ ?_
  · intro e refused
    refine SyncTables.agree_trained s.training s.waivers rfl ?_ fun _ _ => Iff.rfl
    intro user tool listed active
    rw [if_neg]
    rintro ⟨rfl, rfl⟩
    obtain ⟨row, found, -⟩ := active
    rcases SyncTables.upsertWaiver_error refused with missing | unknown
    · rw [missing] at found
      cases found
    · exact unknown (List.mem_map_of_mem listed)
  · intro s' ran
    obtain ⟨⟨waivers, rfl⟩, inForce⟩ := SyncTables.upsertWaiver_spec now ran
    refine ⟨⟨rfl, rfl, rfl, rfl, rfl⟩, SyncTables.agree_trained s.training waivers rfl ?_ fun _ _ => Iff.rfl⟩
    intro user tool _ _
    exact inForce user tool.id

theorem pushes_revokeWaiver {waiverId : Uuid} :
    s.Pushes rules now (StaffOperation.perform s (.revokeWaiver waiverId)) ↔
      StaffOperation.Spares rules now s (.revokeWaiver waiverId) := by
  refine SyncTables.pushes_finish_iff ?_ ?_
  · intro e refused
    have absent : ∀ row ∈ s.waivers, row.1 ≠ waiverId := by
      unfold SyncTables.revokeWaiver at refused
      split at refused
      · rename_i all
        intro row there
        exact of_decide_eq_true (List.all_eq_true.mp all row there)
      · cases refused
    refine SyncTables.agree_trained s.training s.waivers rfl ?_ fun _ _ => Iff.rfl
    intro user tool _ _
    rw [SyncTables.userHasActiveWaiver, List.any_eq_true]
    exact exists_congr fun row => and_congr_right fun there => (and_iff_right (absent row there)).symm
  · intro s' ran
    obtain ⟨⟨waivers, rfl⟩, inForce⟩ := SyncTables.revokeWaiver_spec now ran
    refine ⟨⟨rfl, rfl, rfl, rfl, rfl⟩, SyncTables.agree_trained s.training waivers rfl ?_ fun _ _ => Iff.rfl⟩
    intro user tool _ _
    exact inForce user tool.id

theorem pushes_writeRow {key : Uuid × Uuid} {row : UserTrainingProgress Uuid} {done : Uuid → Uuid → Prop}
    (counts : ∀ user step, done user step ↔ if user = key.1 ∧ step = key.2 then
      row.status = .completed ∧ unexpired now row.expiresAt = true else s.training.stepDone now user step = true) :
    s.Pushes rules now (s.finish [] ((s.training.writeRow key row).map fun training => { s with training })) ↔
      ¬ row.Valid ∨ s.KeepsAll rules now { s.rights rules now with
        trained := fun tool user =>
          s.TrainedBy tool (s.userHasActiveWaiver now user tool.id = true) (done user) } := by
  unfold TrainingTables.writeRow
  by_cases valid : row.Valid
  · rw [or_iff_right (not_not_intro valid), if_pos valid]
    refine SyncTables.pushes_iff_keepsAll ⟨rfl, rfl, rfl, rfl, rfl⟩ ?_
    refine SyncTables.agree_trained _ s.waivers rfl (fun _ _ _ _ => Iff.rfl) ?_
    intro user step
    exact (s.training.stepDone_insert now key row user step).trans (counts user step).symm
  · rw [if_neg valid]
    exact iff_of_true SyncTables.pushes_of_same (.inl valid)

theorem pushes_no_row {stepId : Uuid} {done : Uuid → Uuid → Prop}
    (missing : s.training.progress (userId, stepId) = none)
    (counts : ∀ user step, (done user step ↔ ¬ (user = userId ∧ step = stepId) ∧
      s.training.stepDone now user step = true)) :
    s.Pushes rules now (s, []) ↔ s.KeepsAll rules now { s.rights rules now with
      trained := fun tool user => s.TrainedBy tool (s.userHasActiveWaiver now user tool.id = true) (done user) } := by
  refine SyncTables.pushes_iff_keepsAll (SyncTables.SameSite.refl s) ?_
  refine SyncTables.agree_trained s.training s.waivers rfl (fun _ _ _ _ => Iff.rfl) ?_
  intro user step
  rw [counts]
  refine (and_iff_right_of_imp ?_).symm
  rintro did ⟨rfl, rfl⟩
  simp only [TrainingTables.stepDone, missing] at did
  cases did

theorem pushes_updateTrainingProgress {stepId : Uuid} {payload : UpdateProgressRequest} :
    s.Pushes rules now (StaffOperation.perform s (.updateTrainingProgress userId stepId payload)) ↔
      StaffOperation.Spares rules now s (.updateTrainingProgress userId stepId payload) := by
  unfold StaffOperation.perform StaffOperation.Spares
  dsimp only
  rw [TrainingTables.updateTrainingProgress_eq]
  unfold TrainingTables.updateRow
  rcases found : s.training.progress (userId, stepId) with _ | row
  · simp only [reduceCtorEq, false_and, exists_false, and_false, false_or]
    refine pushes_no_row found fun user step => ?_
    split
    · rename_i here
      exact iff_of_false id fun did => did.1 here
    · rename_i elsewhere
      exact (and_iff_right elsewhere).symm
  · simp only [Option.some.injEq, exists_eq_left']
    exact pushes_writeRow fun user step => Iff.rfl

theorem pushes_startTrainingSession {startedAt : Int} {request : StartTrainingRequest Uuid} :
    s.Pushes rules now (StaffOperation.perform s (.startTrainingSession startedAt userId request)) ↔
      StaffOperation.Spares rules now s (.startTrainingSession startedAt userId request) := by
  unfold StaffOperation.perform StaffOperation.Spares TrainingTables.startTrainingSession
  dsimp only
  by_cases unknown : request.instructorId.any (fun instructor => instructor ∉ s.training.users) = true
  · rw [if_pos unknown]
    exact iff_of_true SyncTables.pushes_of_same (.inl unknown)
  · rw [if_neg unknown, or_iff_right unknown]
    rcases found : s.training.progress (userId, request.trainingStepId) with _ | row
    · simp only [reduceCtorEq, false_and, exists_false, false_or]
      split
      · exact pushes_no_row found fun user step => Iff.rfl
      · have valid : UserTrainingProgress.Valid
          (⟨.inProgress, request.instructorId, some startedAt, none, none, none, request.notes,
            none⟩ : UserTrainingProgress Uuid) := ⟨rfl, rfl⟩
        refine (pushes_writeRow fun user step => ?_).trans (or_iff_right (not_not_intro valid))
        split
        · rename_i here
          simp [here]
        · rename_i elsewhere
          exact and_iff_right elsewhere
    · simp only [Option.some.injEq, exists_eq_left']
      refine pushes_writeRow fun user step => ?_
      split
      · rename_i here
        simp [here, UserTrainingProgress.begunAgain]
      · rename_i elsewhere
        exact and_iff_right elsewhere

theorem pushes_updateUser {updates : UpdateUser} {email : Option NewEmail} {role : Option String} :
    s.Pushes rules now (StaffOperation.perform s (.updateUser userId updates email role)) ↔
      StaffOperation.Spares rules now s (.updateUser userId updates email role) := by
  unfold StaffOperation.perform StaffOperation.Spares SyncTables.updateUser
  dsimp only
  rcases s.accounts.updateUser_cases userId updates with
    ⟨missing, refused⟩ | ⟨taken, refused⟩ | ⟨row, found, free, wrote⟩
  · rw [refused]
    exact iff_of_true SyncTables.pushes_of_same (.inl missing)
  · rw [refused]
    exact iff_of_true SyncTables.pushes_of_same (.inr (.inl taken))
  · rw [wrote]
    dsimp only
    have still : (AList.lookup userId (s.accounts.users.insert userId (updates.set row))).isSome := by
      rw [AList.lookup_insert]
      rfl
    have active := DatabaseManager.active_insert updates found
    have replaced := s.accounts.newPrimary_isOk email still
    have here : ¬ s.accounts.findUserById userId = none := by
      rw [found]
      exact Option.some_ne_none row
    rw [or_iff_right here, or_iff_right free]
    rcases primary : DatabaseManager.newPrimary
      { s.accounts with users := s.accounts.users.insert userId (updates.set row) }
      userId email with e | accounts
    · have failed : s.accounts.canHave userId email = false := by
        rw [← replaced, primary]
        rfl
      simp only [failed, Bool.false_eq_true, and_false, false_or, if_false]
      refine SyncTables.pushes_iff_keepsAll ⟨rfl, rfl, rfl, rfl, rfl⟩ ?_
      exact ⟨active, fun _ _ _ => Iff.rfl, fun _ _ _ _ => Iff.rfl, fun _ _ _ => Iff.rfl⟩
    · have had : s.accounts.canHave userId email = true := by
        rw [← replaced, primary]
        rfl
      obtain ⟨users, userEmails, rfl, same⟩ := DatabaseManager.newPrimary_ok primary
      have kept : (users.lookup userId).isSome := by
        rw [← Option.isSome_map, same userId, Option.isSome_map]
        exact still
      dsimp only
      rw [s.accounts.newTier_eq userEmails role kept]
      simp only [had, and_true, if_true]
      by_cases told : updates.isActive.isSome = true
      · rw [if_pos told]
        exact iff_of_true (SyncTables.pushes_of_all rfl) (.inl told)
      · rw [if_neg told, or_iff_right told]
        refine SyncTables.pushes_iff_keepsAll ⟨rfl, rfl, rfl, rfl, rfl⟩ ?_
        refine ⟨fun user => Iff.trans ?_ (active user), fun _ _ _ => Iff.rfl, fun _ _ _ _ => Iff.rfl,
          fun _ _ _ => Iff.rfl⟩
        show (∃ mine, users.lookup user = some mine ∧ mine.isActive = true) ↔ _
        rw [← Option.map_eq_some_iff, same user, Option.map_eq_some_iff]

theorem pushes_activateUser : s.Pushes rules now (StaffOperation.perform s (.activateUser userId)) := by
  unfold StaffOperation.perform SyncTables.setActive
  dsimp only
  rcases s.accounts.updateUser_cases userId ⟨none, none, none, some true⟩ with
    ⟨-, refused⟩ | ⟨-, refused⟩ | ⟨row, found, -, wrote⟩
  · rw [refused]
    exact SyncTables.pushes_of_same
  · rw [refused]
    exact SyncTables.pushes_of_same
  · rw [wrote]
    have active := DatabaseManager.active_insert ⟨none, none, none, some true⟩ found
    refine Iff.mpr (SyncTables.pushes_iff_keepsAll ⟨rfl, rfl, rfl, rfl, rfl⟩ (SyncTables.agree_active _ active)) ?_
    intro device _ toolId digest admits
    refine admits.mono ?_ rfl rfl rfl
    rintro user ⟨mine, mineFound, active⟩
    refine ⟨mine, mineFound, ?_⟩
    split
    · rfl
    · exact active

theorem pushes_deactivateUser :
    s.Pushes rules now (StaffOperation.perform s (.deactivateUser userId)) ↔
      StaffOperation.Spares rules now s (.deactivateUser userId) := by
  unfold StaffOperation.perform StaffOperation.Spares SyncTables.setActive
  dsimp only
  rcases s.accounts.updateUser_cases userId ⟨none, none, none, some false⟩ with
    ⟨missing, refused⟩ | ⟨⟨_, _, _, _, named⟩, -⟩ | ⟨row, found, -, wrote⟩
  · rw [refused]
    refine SyncTables.pushes_iff_keepsAll (SyncTables.SameSite.refl s)
      (SyncTables.agree_active s.accounts.users fun user => ?_)
    refine ⟨fun active => ⟨?_, active⟩, And.right⟩
    rintro rfl
    obtain ⟨row, found, -⟩ := active
    rw [show s.accounts.users.lookup user = none from missing] at found
    cases found
  · cases named
  · rw [wrote]
    refine SyncTables.pushes_iff_keepsAll ⟨rfl, rfl, rfl, rfl, rfl⟩ (SyncTables.agree_active _ fun user => ?_)
    rw [DatabaseManager.active_insert _ found]
    by_cases same : user = userId
    · subst same
      simp
    · simp only [if_neg same]
      exact (and_iff_right same).symm

/-- A member who is deleted takes what was theirs along, and what is others' stays. -/
theorem pushes_deleteUser :
    s.Pushes rules now (StaffOperation.perform s (.deleteUser userId)) ↔
      StaffOperation.Spares rules now s (.deleteUser userId) := by
  unfold StaffOperation.perform StaffOperation.Spares SyncTables.deleteUser DatabaseManager.deleteUser
  dsimp only
  by_cases pinned : s.pinned userId = true
  · rw [if_pos pinned]
    exact iff_of_true SyncTables.pushes_of_same (.inl pinned)
  rw [if_neg pinned, or_iff_right pinned]
  rcases found : s.accounts.findUserById userId with _ | row
  · refine SyncTables.pushes_iff_keepsAll (SyncTables.SameSite.refl s)
      (SyncTables.agree_active s.accounts.users fun user => ?_)
    refine ⟨fun active => ⟨?_, active⟩, And.right⟩
    rintro rfl
    obtain ⟨row, there, -⟩ := active
    rw [show s.accounts.users.lookup user = none from found] at there
    cases there
  · have left : ∀ user, (∃ mine, AList.lookup user (s.accounts.users.erase userId) = some mine ∧
      mine.isActive = true) ↔
        user ≠ userId ∧ (s.rights rules now).active user := by
      intro user
      by_cases same : user = userId
      · subst same
        simp
      · rw [AList.lookup_erase_ne same]
        exact (and_iff_right same).symm
    refine SyncTables.pushes_iff_keepsAll ⟨rfl, rfl, rfl, rfl, rfl⟩ ⟨left, ?_, ?_, ?_⟩
    · intro user digest active
      have other := ((left user).mp active).1
      refine or_congr_left (exists_congr fun card => ?_)
      rw [List.mem_filter, decide_eq_true_eq]
      constructor
      · rintro ⟨⟨there, -⟩, usable, mine, same⟩
        exact ⟨there, usable, mine, same⟩
      · rintro ⟨there, usable, mine, same⟩
        exact ⟨⟨there, fun theirs => other (mine.symm.trans theirs)⟩, usable, mine, same⟩
    · intro user tool _ active
      have other := ((left user).mp active).1
      show _ ↔ (s.rights rules now).trained tool user
      refine SyncTables.trained_congr rfl ?_ fun stepId => ?_
      · unfold SyncTables.userHasActiveWaiver
        simp only [List.any_eq_true, List.mem_filter, decide_eq_true_eq]
        refine exists_congr fun row => and_congr_left fun inForce => and_iff_left ?_
        exact fun theirs => other ((SyncTables.inForce_iff.mp inForce).1.1.symm.trans theirs)
      · have kept : s.training.progress.retain (fun key _ => decide (key.1 ≠ userId)) (user, stepId) =
            s.training.progress (user, stepId) := Table.retain_of_keep fun _ => decide_eq_true other
        unfold TrainingTables.stepDone
        dsimp only
        rw [kept]
    · intro user toolId active
      have other := ((left user).mp active).1
      show SyncTables.AffordsBy .. ↔ SyncTables.AffordsBy ..
      unfold SyncTables.AffordsBy userEffectiveLevel
      dsimp only
      rw [rolesForUser_others _ other]

theorem pushes_changeRole {change : RoleChange Uuid} :
    s.Pushes rules now (StaffOperation.perform s (.changeRole change)) ↔
      StaffOperation.Spares rules now s (.changeRole change) := by
  unfold StaffOperation.perform StaffOperation.Spares
  dsimp only
  rcases change.apply_cases s.accounts with ⟨refused, e, ran⟩ | ⟨allowed, accounts, ran, users, graph, assigned⟩
  · rw [ran]
    exact iff_of_true SyncTables.pushes_of_same (.inl refused)
  · rw [ran, or_iff_right allowed, ← graph, ← assigned]
    refine SyncTables.pushes_iff_keepsAll ⟨rfl, rfl, rfl, rfl, rfl⟩ ?_
    refine ⟨fun user => ?_, fun _ _ _ => Iff.rfl, fun _ _ _ _ => Iff.rfl, fun _ _ _ => Iff.rfl⟩
    show (∃ row, accounts.users.lookup user = some row ∧ row.isActive = true) ↔ _
    rw [users]
    exact Iff.rfl

omit [IdText Uuid] in
theorem BillingTables.availableBalance_deleteTier (billing : BillingTables Uuid) (tierId : Uuid) :
    (billing.editCatalog (.deleteTier tierId)).availableBalance = billing.availableBalance := by
  funext userId
  unfold availableBalance sumOpenToolHolds editCatalog
  dsimp only
  rw [AList.total_mapVal]
  rfl

/-- What tools cost whom is as it was, but for the tiers members are on. -/
structure BillingTables.OnTiers (s s' : BillingTables Uuid)
    (tierOf : Uuid → Uuid → Option (Uuid × ToolRateTier Uuid)) : Prop where
  config : s'.config = s.config
  tools : s'.tools = s.tools
  available : s'.availableBalance = s.availableBalance
  tierOf : s'.tierOf = tierOf

omit [IdText Uuid] in
theorem BillingTables.onTiers_setTier {billing : BillingTables Uuid} {tierId : Uuid} {tier : ToolRateTier Uuid}
    (there : billing.tiers tierId = some tier) (flatFee ratePerMin : Option (Option Decimal))
    (maxSessionMinutes : Option (Option Int)) (name : Option String) :
    billing.OnTiers (billing.editCatalog (.setTier tierId
      { tier with
        flatFee := flatFee.getD tier.flatFee
        ratePerMin := ratePerMin.getD tier.ratePerMin
        maxSessionMinutes := maxSessionMinutes.getD tier.maxSessionMinutes }))
      ((TierChange.updateTier tierId name flatFee ratePerMin maxSessionMinutes).tierOf billing) := by
  refine ⟨rfl, rfl, rfl, ?_⟩
  funext user tool
  unfold TierChange.tierOf BillingTables.tierOf editCatalog
  dsimp only
  rcases billing.assignments (user, tool) with _ | assigned
  · rfl
  · rw [Option.bind_some, Option.bind_some]
    by_cases same : assigned = tierId
    · subst same
      rw [Table.insert_self, there]
      simp
    · rw [Table.insert_of_ne _ _ same]
      rcases billing.tiers assigned with _ | other
      · rfl
      · simp [same]

omit [IdText Uuid] in
theorem BillingTables.onTiers_deleteTier (billing : BillingTables Uuid) (tierId : Uuid) :
    billing.OnTiers (billing.editCatalog (.deleteTier tierId)) ((TierChange.deleteTier tierId).tierOf billing) := by
  refine ⟨rfl, rfl, billing.availableBalance_deleteTier tierId, ?_⟩
  funext user tool
  unfold TierChange.tierOf BillingTables.tierOf editCatalog
  dsimp only
  rw [Table.retain_apply]
  rcases billing.assignments (user, tool) with _ | assigned
  · rfl
  · rw [Option.filter_some, Option.bind_some]
    by_cases same : assigned = tierId
    · subst same
      rw [if_neg (by simp), Option.bind_none]
      rcases billing.tiers assigned with _ | other
      · rfl
      · simp [Option.filter_some]
    · rw [if_pos (decide_eq_true same), Option.bind_some, Table.erase_of_ne _ same]
      rcases billing.tiers assigned with _ | other
      · rfl
      · simp [Option.filter_some, same]

omit [IdText Uuid] in
/-- A change of tiers is refused, or leaves everyone on these and nothing else changed. -/
theorem TierChange.apply_cases (change : TierChange Uuid) (s : SyncTables Uuid Json) :
    (change.Refused s ∧ ∃ e, change.apply s = .error e) ∨
      (¬ change.Refused s ∧ ∃ billing tierNames, change.apply s = .ok { s with billing, tierNames } ∧
        s.billing.OnTiers billing (change.tierOf s.billing)) := by
  cases change with
  | updateTier tierId name flatFee ratePerMin maxSessionMinutes =>
    dsimp only [apply, Refused]
    rcases there : s.billing.tiers tierId with _ | tier
    · exact .inl ⟨nofun, _, rfl⟩
    · have named : (name.any fun given => s.tierNames.any fun row => row.1 ≠ tierId && row.2.1 = tier.toolId &&
          row.2.2 = given) = true ↔ ∃ given ∈ name, ∃ row ∈ s.tierNames,
            row.1 ≠ tierId ∧ row.2.1 = tier.toolId ∧ row.2.2 = given := by
        simp only [Option.any_eq_true, List.any_eq_true, Bool.and_eq_true, decide_eq_true_eq, and_assoc,
          Option.mem_def]
      simp only [Option.mem_some_iff, forall_eq']
      by_cases taken : ∃ given ∈ name, ∃ row ∈ s.tierNames, row.1 ≠ tierId ∧ row.2.1 = tier.toolId ∧ row.2.2 = given
      · exact .inl ⟨taken, _, if_pos (named.mpr taken)⟩
      · exact .inr ⟨taken, _, _, if_neg (mt named.mp taken),
          BillingTables.onTiers_setTier there flatFee ratePerMin maxSessionMinutes name⟩
  | deleteTier tierId =>
    dsimp only [apply, Refused]
    rcases there : s.billing.tiers tierId with _ | tier
    · exact .inl ⟨rfl, _, rfl⟩
    · exact .inr ⟨nofun, _, _, rfl, s.billing.onTiers_deleteTier tierId⟩
  | assignTier userId toolId tierId =>
    dsimp only [apply, Refused]
    have elsewhere : ((s.billing.tiers tierId).all fun tier => decide (tier.toolId ≠ toolId)) = true ↔
        ∀ tier ∈ s.billing.tiers tierId, tier.toolId ≠ toolId := by
      simp only [Option.all_eq_true, decide_eq_true_eq, Option.mem_def]
    by_cases other : ∀ tier ∈ s.billing.tiers tierId, tier.toolId ≠ toolId
    · exact .inl ⟨.inl other, _, if_pos (elsewhere.mpr other)⟩
    · rw [if_neg (mt elsewhere.mp other)]
      rcases known : s.billing.users userId with _ | row
      · exact .inl ⟨.inr rfl, _, rfl⟩
      · refine .inr ⟨fun refused => refused.elim other nofun,
          s.billing.editCatalog (.assignTier userId toolId tierId), s.tierNames, rfl, ?_⟩
        have its : ((s.billing.tiers tierId).any fun tier => tier.toolId = toolId) = true := by
          simp only [not_forall, not_not] at other
          obtain ⟨tier, there, same⟩ := other
          rw [Option.mem_def.mp there]
          exact decide_eq_true same
        have edited : s.billing.editCatalog (.assignTier userId toolId tierId) =
            { s.billing with assignments := s.billing.assignments.insert (userId, toolId) tierId } := if_pos its
        rw [edited]
        refine ⟨rfl, rfl, rfl, ?_⟩
        funext user tool
        unfold tierOf BillingTables.tierOf
        dsimp only
        split
        · rename_i here
          rw [here.1, here.2, Table.insert_self]
          rfl
        · rename_i apart
          rw [Table.insert_of_ne _ _ fun same => apart ⟨congrArg Prod.fst same, congrArg Prod.snd same⟩]
  | clearTier userId toolId =>
    dsimp only [apply, Refused]
    rcases held : s.billing.assignments (userId, toolId) with _ | tierId
    · exact .inl ⟨rfl, _, rfl⟩
    · refine .inr ⟨nofun, _, _, rfl, rfl, rfl, rfl, ?_⟩
      funext user tool
      unfold tierOf BillingTables.tierOf BillingTables.editCatalog
      dsimp only
      split
      · rename_i here
        rw [here.1, here.2, Table.erase_self]
        rfl
      · rename_i apart
        rw [Table.erase_of_ne _ fun same => apart ⟨congrArg Prod.fst same, congrArg Prod.snd same⟩]

theorem pushes_changeTier {change : TierChange Uuid} :
    s.Pushes rules now (StaffOperation.perform s (.changeTier change)) ↔
      StaffOperation.Spares rules now s (.changeTier change) := by
  unfold StaffOperation.perform StaffOperation.Spares
  dsimp only
  rcases change.apply_cases s with ⟨refused, e, ran⟩ | ⟨allowed, billing, tierNames, ran, moved⟩
  · rw [ran]
    exact iff_of_true SyncTables.pushes_of_same (.inl refused)
  · rw [ran, or_iff_right allowed]
    refine SyncTables.pushes_iff_keepsAll ⟨rfl, rfl, rfl, rfl, rfl⟩ ?_
    refine ⟨fun _ => Iff.rfl, fun _ _ _ => Iff.rfl, fun _ _ _ _ => Iff.rfl, fun user tool _ => ?_⟩
    show SyncTables.AffordsBy .. ↔ SyncTables.AffordsBy ..
    unfold SyncTables.AffordsBy
    dsimp only
    rw [moved.config, moved.tools, moved.available, moved.tierOf]

theorem pushes_completeTrainingSession {clock : Readings} {request : CompleteTrainingRequest Uuid} :
    s.Pushes rules now (StaffOperation.perform s (.completeTrainingSession clock userId request)) := by
  refine SyncTables.pushes_finish_all fun s' ran => ?_
  obtain ⟨training, -, rfl⟩ := map_eq_ok_iff.mp ran
  rfl

theorem pushes_setDoorRules {doorId : Uuid} {doorRules : List (AccessRule Uuid)} :
    s.Pushes rules now (StaffOperation.perform s (.setDoorRules doorId doorRules)) :=
  (SyncTables.pushes_iff_keepsAll ⟨rfl, rfl, rfl, rfl, rfl⟩ (Rights.Agree.refl ..)).mpr fun _ _ _ _ admits => admits

/-- A revocation is pushed by exactly the operations that ask for a broadcast, and by the others
on a state where they take no card out. -/
theorem revocation_pushed_iff (rules : SyncRules Json) (now : Int) (s : SyncTables Uuid Json)
    (op : StaffOperation Uuid) :
    s.Pushes rules now (op.perform s) ↔ op.Spares rules now s := by
  cases op with
  | disableCard cardId =>
    exact iff_of_true (SyncTables.pushes_finish_all fun _ => SyncTables.approved_of_setCardStatus) trivial
  | releaseCard cardId =>
    exact iff_of_true (SyncTables.pushes_finish_all fun _ => SyncTables.approved_of_setCardStatus) trivial
  | grantWaiver waiverId userId toolId expiresAt => exact pushes_grantWaiver
  | revokeWaiver waiverId => exact pushes_revokeWaiver
  | startTrainingSession startedAt userId request => exact pushes_startTrainingSession
  | updateTrainingProgress userId stepId payload => exact pushes_updateTrainingProgress
  | completeTrainingSession clock userId request => exact iff_of_true pushes_completeTrainingSession trivial
  | updateUser userId updates email role => exact pushes_updateUser
  | activateUser userId => exact iff_of_true pushes_activateUser trivial
  | deactivateUser userId => exact pushes_deactivateUser
  | deleteUser userId => exact pushes_deleteUser
  | changeRole change => exact pushes_changeRole
  | changeTier change => exact pushes_changeTier
  | setDoorRules doorId doorRules => exact iff_of_true pushes_setDoorRules trivial

end Rights

def unbilled : SyncRules Unit := ⟨noZone, "rfid", some paddedCipher, .exact, false, false⟩

def pressSafety : HexId := .repeating 3

/-- A press with one training step, which the member with the card has completed. -/
def trainedSite : SyncTables HexId Unit where
  accounts :=
    { oneAdmin with users := oneAdmin.users.insert signedUp ⟨"member", "member@space", "", "Member", true, 0⟩ }
  profile _ := .empty
  cards :=
    [(.repeating 4, ⟨signedUp, "A1", some (paddedCipher.blindIndex "A1"), paddedCipher.wireDigest "A1", .active, 0⟩)]
  training :=
    { users := [ada, signedUp]
      tools := [press]
      steps := .singleton pressSafety ⟨press, 1, none, true, none, false⟩
      progress := Table.empty.insert (signedUp, pressSafety) ⟨.completed, some ada, some 0, some 5, none, none,
        none, none⟩ }
  waivers := []
  billing := ⟨⟨.prepaid, false, 0, 60, 20, 3⟩, .empty, fun _ => true, .empty, .empty, .empty, [], ∅⟩
  tierNames := []
  pinned _ := false
  tools := [⟨press, none, "Press", .idle, true, none⟩]
  bindings := [(controller, press)]
  schedules := []
  doorRules _ := []
  lockedOut _ := false
  approved := [controller]

/-- Staff mark the step as failed, and the device goes on letting the member in. -/
theorem failed_training_not_pushed :
    ¬ trainedSite.Pushes unbilled 10
      (StaffOperation.perform trainedSite (.updateTrainingProgress signedUp pressSafety ⟨.failed, none, none⟩)) := by
  intro pushed
  have before : trainedSite.Authorizes unbilled 10 controller press lostDigest := by
    unfold SyncTables.Authorizes
    decide +kernel
  have after : ¬ (StaffOperation.perform trainedSite
      (.updateTrainingProgress signedUp pressSafety ⟨.failed, none, none⟩)).1.Authorizes unbilled 10 controller press
      lostDigest := by
    unfold SyncTables.Authorizes
    decide +kernel
  obtain ⟨scope, listed, -⟩ := pushed controller (List.mem_singleton_self _) press lostDigest before after
  cases listed

end CoopSpaces

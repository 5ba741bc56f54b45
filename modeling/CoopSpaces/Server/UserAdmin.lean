import CoopSpaces.Server.Handler

namespace CoopSpaces

/-- The configuration, and what libraries and the database do with text. -/
structure Platform extends Collation where
  passwordMinLength : Nat
  memberRole : String
  lapsedRole : String
  verify : String → String → Bool
  /-- A password's hash under a salt. -/
  hash : String → String → Option String

/-- What a session's token says of its bearer. -/
structure Claims (Uuid : Type) where
  userId : Uuid
  tokenVersion : Int
  deriving DecidableEq

structure UpdateUserRequest where
  username : Option String
  email : Option String
  fullName : Option String
  password : Option String
  currentPassword : Option String
  isActive : Option Bool
  role : Option String
  deriving DecidableEq

namespace Handler
variable {Uuid α : Type} [DecidableEq Uuid]

def requireUser (userId : Uuid) (missing : String) : Handler Uuid UserRow := do
  match ← read (·.findUserById userId) with
  | some user => pure user
  | none => throw (.notFound missing)

def requireRole (roleId : Uuid) : Handler Uuid (Role Uuid) := do
  match ← read (·.getRole roleId) with
  | some role => pure role
  | none => throw (.notFound "role not found")

def userHasPermission (userId : Uuid) (key : String) : Handler Uuid Bool := do
  let roleIds ← read (·.userRoleIds userId)
  let graph ← read (·.rbacGraph)
  pure (graph.hasPermission roleIds key)

def userEffectiveLevel (userId : Uuid) : Handler Uuid Int := do
  let roleIds ← read (·.userRoleIds userId)
  let graph ← read (·.rbacGraph)
  pure (graph.effectiveLevel roleIds)

/-- The active users whose roles grant `admin.access`, each once. -/
def adminsAmong (graph : PermissionGraph Uuid) (active : List Uuid) (assignments : List (Uuid × Uuid)) : List Uuid :=
  ((assignments.filter fun row => row.1 ∈ active).map (·.1)).dedup.filter fun userId =>
    graph.hasPermission (rolesForUser assignments userId) "admin.access"

def countActiveAdmins : Handler Uuid Nat := do
  let active ← read (·.activeIds)
  let assignments ← read (·.userRoles)
  let graph ← read (·.rbacGraph)
  pure (adminsAmong graph.toPermissionGraph active assignments).length

/-- The caller's row, if the token still stands for an active account. -/
def authUser (token : Claims Uuid) : Handler Uuid UserRow := do
  let user ← requireUser token.userId "User not found"
  require user.isActive (.forbidden "User account is inactive")
  require (token.tokenVersion = user.tokenVersion) (.unauthorized "Invalid authentication token")
  pure user

def adminUser (token : Claims Uuid) : Handler Uuid UserRow := do
  let user ← authUser token
  require (← userHasPermission token.userId "admin.access")
    (.forbidden "Insufficient permissions: administrator access required")
  pure user

section Reads
variable {db : DatabaseManager Uuid} {Inv : DatabaseManager Uuid → Prop} {allowed : Change Uuid → Prop}

theorem meets_requireUser (userId : Uuid) (missing : String) :
    (requireUser userId missing).Meets Inv allowed fun _ => True := by
  refine (meets_anyRead _).bind fun found _ => ?_
  cases found with
  | none => exact meets_throw _
  | some user => exact meets_pure trivial

theorem meets_userHasPermission {userId : Uuid} {key : String} {promised : Bool → Prop}
    (holds : ∀ roles graph, Inv roles → Inv graph →
      promised (graph.rbacGraph.hasPermission (roles.userRoleIds userId) key)) :
    (userHasPermission userId key).Meets Inv allowed promised := by
  have readRoles : (read fun db => db.userRoleIds userId).Meets Inv allowed
      fun roleIds => ∃ roles, Inv roles ∧ roles.userRoleIds userId = roleIds :=
    meets_read fun roles inv => ⟨roles, inv, rfl⟩
  have readGraph : (read fun db => db.rbacGraph).Meets Inv allowed fun graph => ∃ db, Inv db ∧ db.rbacGraph = graph :=
    meets_read fun db inv => ⟨db, inv, rfl⟩
  refine readRoles.bind ?_
  rintro _ ⟨roles, inRoles, rfl⟩
  refine readGraph.bind ?_
  rintro _ ⟨graph, inGraph, rfl⟩
  exact meets_pure (holds roles graph inRoles inGraph)

theorem meets_anyPermission (userId : Uuid) (key : String) :
    (userHasPermission userId key).Meets Inv allowed fun _ => True :=
  meets_userHasPermission fun _ _ _ _ => trivial

theorem meets_userEffectiveLevel (userId : Uuid) : (userEffectiveLevel userId).Meets Inv allowed fun _ => True :=
  (meets_anyRead _).bind fun _ _ => (meets_anyRead _).bind fun _ _ => meets_pure trivial

theorem meets_authUser (token : Claims Uuid) : (authUser token).Meets Inv allowed fun _ => True :=
  (meets_requireUser _ _).bind fun _ _ => (meets_anyRequire _ _).bind fun _ _ =>
    (meets_anyRequire _ _).bind fun _ _ =>
    meets_pure trivial

theorem meets_adminUser (token : Claims Uuid) : (adminUser token).Meets Inv allowed fun _ => True :=
  (meets_authUser token).bind fun _ _ => (meets_anyPermission _ _).bind fun _ _ =>
    (meets_anyRequire _ _).bind fun _ _ =>
    meets_pure trivial

theorem act_requireUser {userId : Uuid} {row : UserRow} (found : db.findUserById userId = some row)
    (missing : String) :
    (requireUser userId missing).act db = .inl (.ok row) := by
  rw [requireUser, act_bind_ok (act_read _), found]
  rfl

theorem act_requireUser_missing {userId : Uuid} (absent : db.findUserById userId = none) (missing : String) :
    (requireUser userId missing).act db = .inl (.error (.notFound missing)) := by
  rw [requireUser, act_bind_ok (act_read _), absent]
  rfl

theorem act_authUser {token : Claims Uuid} {row : UserRow} (found : db.findUserById token.userId = some row)
    (active : row.isActive = true) (current : token.tokenVersion = row.tokenVersion) :
    (authUser token).act db = .inl (.ok row) := by
  have known := act_requireUser found "User not found"
  rw [authUser, act_bind_ok known, active, current, decide_eq_true rfl]
  rfl

theorem act_authUser_inactive (token : Claims Uuid)
    (inactive : ∀ row, db.findUserById token.userId = some row → row.isActive = false) :
    ∃ e, (authUser token).act db = .inl (.error e) := by
  rcases found : db.findUserById token.userId with _ | row
  · have unknown := act_requireUser_missing found "User not found"
    rw [authUser, act_bind, unknown]
    exact ⟨_, rfl⟩
  · have known := act_requireUser found "User not found"
    rw [authUser, act_bind_ok known, inactive row found]
    exact ⟨_, rfl⟩

theorem act_userHasPermission (userId : Uuid) (key : String) :
    (userHasPermission userId key).act db = .inl (.ok (db.rbacGraph.hasPermission (db.userRoleIds userId) key)) := rfl

theorem act_userEffectiveLevel (userId : Uuid) :
    (userEffectiveLevel userId).act db = .inl (.ok (db.rbacGraph.effectiveLevel (db.userRoleIds userId))) := rfl

end Reads

/-! The assignment of roles. -/

def assignUserRole (token : Claims Uuid) (userId roleId : Uuid) : Handler Uuid Unit := do
  let _ ← adminUser token
  let _ ← requireUser userId "user not found"
  let _ ← requireRole roleId
  let _ ← write (.assignUserRole userId roleId)

/-- Refused if it would drop the last administrator's access. -/
def lastAdminProtection (userId roleId : Uuid) : Handler Uuid Unit := do
  if ← userHasPermission userId "admin.access" then
    let held ← read (·.userRoleIds userId)
    let graph ← read (·.rbacGraph)
    if graph.hasPermission (held.filter fun role => role ≠ roleId) "admin.access" then pure ()
    else
      let admins ← countActiveAdmins
      require (1 < admins) (.forbidden "cannot remove the last administrator's admin access")
  else pure ()

def unassignUserRole (token : Claims Uuid) (userId roleId : Uuid) : Handler Uuid Unit := do
  let _ ← adminUser token
  lastAdminProtection userId roleId
  let removed ← write (.unassignUserRole userId roleId)
  require (removed ≠ 0) (.notFound "the user does not hold that role")

def updateUserRole (token : Claims Uuid) (userId : Uuid) (role : String) : Handler Uuid Unit := do
  let _ ← adminUser token
  let _ ← requireUser userId "User not found"
  require (Role.isTier role) (.badRequest ("unknown role: " ++ role))
  let _ ← write (.setUserPrimaryRole userId role)

/-! Accounts. -/

def setActive (isActive : Bool) (token : Claims Uuid) (userId : Uuid) : Handler Uuid Unit := do
  let _ ← adminUser token
  let _ ← requireUser userId "User not found"
  let _ ← write (.updateUser userId ⟨none, none, none, some isActive⟩)

def activateUser (token : Claims Uuid) (userId : Uuid) : Handler Uuid Unit := setActive true token userId

def deactivateUser (token : Claims Uuid) (userId : Uuid) : Handler Uuid Unit := setActive false token userId

def deleteUser (token : Claims Uuid) (userId : Uuid) : Handler Uuid Unit := do
  let _ ← adminUser token
  require (token.userId ≠ userId) (.badRequest "You cannot delete your own account")
  let _ ← requireUser userId "User not found"
  let _ ← write (.deleteUser userId)

/-- Both accounts exist, neither is the actor's, and both rank below it. -/
def mergeParties (actor survivorId absorbedId : Uuid) : Handler Uuid (UserRow × UserRow) := do
  require (survivorId ≠ absorbedId) (.badRequest "an account cannot be merged into itself")
  require (actor ≠ survivorId ∧ actor ≠ absorbedId)
    (.badRequest "you cannot merge your own account; ask another administrator")
  let survivor ← requireUser survivorId "survivor not found"
  let absorbed ← requireUser absorbedId "absorbed user not found"
  let callerLevel ← userEffectiveLevel actor
  require ((← userEffectiveLevel survivorId) < callerLevel)
    (.forbidden "the survivor is at or above your own access level")
  require ((← userEffectiveLevel absorbedId) < callerLevel)
    (.forbidden "the absorbed user is at or above your own access level")
  pure (survivor, absorbed)

def mergeUsers (token : Claims Uuid) (survivorId absorbedId : Uuid) (acknowledged elsewhere : List String) :
    Handler Uuid Unit := do
  let _ ← adminUser token
  let parties ← mergeParties token.userId survivorId absorbedId
  let rbac ← read (·.rbacGraph)
  let _ ← write (.mergeUsers ⟨rbac, survivorId, parties.1, absorbedId, parties.2, acknowledged, elsewhere⟩)

/-! The update of a user by themselves or by a manager. -/

/-- Users can only update their own profile, unless they're staff/admin. -/
def requireOwnOrManager (caller userId : Uuid) : Handler Uuid Unit := do
  if caller ≠ userId then
    require (← userHasPermission caller "users.manage") (.forbidden "You can only update your own profile")

/-- Non-staff users cannot update the active flag or the role. -/
def requireManagerForStatus (caller : Uuid) (payload : UpdateUserRequest) : Handler Uuid Unit := do
  require ((← userHasPermission caller "users.manage") || (payload.isActive.isNone && payload.role.isNone))
    (.forbidden "You cannot modify account status or role")

/-- A requested role must be one of the assignable tier roles, and only admins can grant the admin role. -/
def requireGrantable (caller : Uuid) (role : Option String) : Handler Uuid Unit := do
  match role with
  | none => pure ()
  | some newRole =>
    require (Role.isTier newRole) (.badRequest ("unknown role: " ++ newRole))
    if newRole = Role.admin then
      require (← userHasPermission caller "admin.access") (.forbidden "Only admins can assign admin role")

/-- A manager may act only on users strictly below their own effective level. -/
def requireBelow (caller userId : Uuid) : Handler Uuid Unit := do
  if caller ≠ userId then
    let callerLevel ← userEffectiveLevel caller
    let targetLevel ← userEffectiveLevel userId
    require (targetLevel < callerLevel) (.forbidden "You cannot modify a user at or above your own access level")

/-- A self-service change of a credential requires the current password. -/
def requireCurrentPassword (platform : Platform) (caller userId : Uuid) (existing : UserRow)
    (payload : UpdateUserRequest) : Handler Uuid Unit :=
  if caller = userId ∧ (payload.password.isSome ∨ payload.email.any (· ≠ existing.email)) then
    require (payload.currentPassword.any fun current => platform.verify current existing.passwordHash)
      (.badRequest "Current password is incorrect")
  else pure ()

def hashNewPassword (platform : Platform) (password : Option String) (salt : String) :
    Handler Uuid (Option String) := do
  match password with
  | none => pure none
  | some newPassword =>
    require (platform.passwordMinLength ≤ newPassword.utf8ByteSize) (.badRequest
      ("Password must be at least " ++ toString platform.passwordMinLength ++ " characters long"))
    match platform.hash newPassword salt with
    | some hashed => pure (some hashed)
    | none => throw (.internalServerError "Failed to hash password")

def requireFreeEmail (platform : Platform) (newPrimary : Option String) : Handler Uuid Unit := do
  match newPrimary with
  | none => pure ()
  | some email =>
    require ('@' ∈ email.toList) (.badRequest "Invalid email format")
    require (← read (·.findUserByEmail platform.toCollation email)).isNone (.conflict "Email already exists")

def requireFreeUsername (existing : UserRow) (username : Option String) : Handler Uuid Unit := do
  match username with
  | none => pure ()
  | some name =>
    if name ≠ existing.username then
      require (name ≠ "") (.badRequest "Username cannot be empty")
      require (← read (·.findUserByUsername name)).isNone (.conflict "Username already exists")

def VERIFICATION_TOKEN_TTL_HOURS : Int := 24

/-- In milliseconds. -/
def staleClaimCutoff (now : Int) : Int := now - VERIFICATION_TOKEN_TTL_HOURS * 3600000

def replacePrimaryEmail (userId : Uuid) (newPrimary : Option String) (now : Int) : Handler Uuid Unit := do
  match newPrimary with
  | none => pure ()
  | some email =>
    match ← send (.replacePrimaryUserEmail userId email (staleClaimCutoff now) now) with
    | .failed .uniqueViolation => throw (.conflict "Email already exists")
    | reply =>
      let _ ← ofReply reply
      let _ ← requireUser userId "User not found"

def applyRequestedRole (userId : Uuid) (role : Option String) : Handler Uuid Unit := do
  match role with
  | none => pure ()
  | some newRole =>
    let _ ← write (.setUserPrimaryRole userId newRole)

def updateUser (platform : Platform) (token : Claims Uuid) (userId : Uuid) (payload : UpdateUserRequest)
    (salt : String) (now : Int) : Handler Uuid Unit := do
  let _ ← authUser token
  requireOwnOrManager token.userId userId
  requireManagerForStatus token.userId payload
  requireGrantable token.userId payload.role
  let existing ← requireUser userId "User not found"
  requireBelow token.userId userId
  requireCurrentPassword platform token.userId userId existing payload
  let passwordHash ← hashNewPassword platform payload.password salt
  let newPrimary := payload.email.filter (· ≠ existing.email)
  requireFreeEmail platform newPrimary
  requireFreeUsername existing payload.username
  let _ ← write (.updateUser userId ⟨payload.username, passwordHash, payload.fullName, payload.isActive⟩)
  replacePrimaryEmail userId newPrimary now
  -- The tier role is applied after the row, since it does not live on the users table.
  applyRequestedRole userId payload.role

/-! The dues cycle. -/

/-- The role to write, if any: grants only ever yield the member role, and the last
admin is not demoted. -/
def planRoleTransition (currentLevel : Int) (entitled isLastAdmin : Bool) (memberRole : String) (memberLevel : Int)
    (lapsedRole : String) (lapsedLevel : Int) : Option String :=
  if entitled then if currentLevel < memberLevel then some memberRole else none
  else if isLastAdmin then none
  else if lapsedLevel < currentLevel then some lapsedRole
  else none

def isLastAdmin (userId : Uuid) : Handler Uuid Bool := do
  if ← userHasPermission userId "admin.access" then
    let admins ← countActiveAdmins
    pure (admins ≤ 1)
  else pure false

/-- Apply the role state machine for one user at a known entitlement. -/
def applyRole (platform : Platform) (userId : Uuid) (entitled : Bool) : Handler Uuid Unit := do
  let graph ← read (·.rbacGraph)
  let memberLevel := (graph.levelOfName platform.memberRole).getD 0
  let lapsedLevel := (graph.levelOfName platform.lapsedRole).getD 0
  let currentLevel ← userEffectiveLevel userId
  let last ← isLastAdmin userId
  match planRoleTransition currentLevel entitled last platform.memberRole memberLevel platform.lapsedRole
    lapsedLevel with
  | none => pure ()
  | some newRole =>
    let _ ← write (.setUserPrimaryRole userId newRole)

/-! Roles. -/

/-- The three tables are read one after another, and the graph they make takes the old one's place. -/
def reloadRbac : Handler Uuid Unit := do
  let roleRows ← read (·.roles)
  let permRows ← read (·.rolePermissions)
  let edgeRows ← read (·.roleInheritance)
  let _ ← write (.publishGraph (.fromRows roleRows permRows edgeRows))

def createRole (token : Claims Uuid) (id : Uuid) (name : String) (level : Int) : Handler Uuid Unit := do
  let _ ← adminUser token
  require (trim name ≠ "") (.badRequest "role name must not be empty")
  require (0 ≤ level) (.badRequest "role level must not be negative")
  let _ ← write (.createRole id (trim name) level.toNat)
  reloadRbac

def updateRole (token : Claims Uuid) (roleId : Uuid) (level : Option Int) : Handler Uuid Unit := do
  let _ ← adminUser token
  let existing ← requireRole roleId
  require (!(existing.isSystem && level.isSome)) (.forbidden "the level of a system role cannot be changed")
  require (level.all (0 ≤ ·)) (.badRequest "role level must not be negative")
  let _ ← write (.updateRole roleId (level.map Int.toNat))
  reloadRbac

def deleteRole (token : Claims Uuid) (roleId : Uuid) : Handler Uuid Unit := do
  let _ ← adminUser token
  let existing ← requireRole roleId
  require (!existing.isSystem) (.forbidden "system roles cannot be deleted")
  let _ ← write (.deleteRole roleId)
  reloadRbac

/-- Every key must be in the catalog. -/
def setRolePermissions (token : Claims Uuid) (roleId : Uuid) (permissions : List String) : Handler Uuid Unit := do
  let _ ← adminUser token
  let _ ← requireRole roleId
  let catalog ← read (·.permissions)
  let keys := permissions.dedup.insertionSort (· ≤ ·)
  match keys.find? fun key => key ∉ catalog with
  | some unknown => throw (.badRequest ("unknown permission key: " ++ unknown))
  | none => do
    let _ ← write (.setRolePermissions roleId keys)
    reloadRbac

variable [IdText Uuid] [LE Uuid] [DecidableLE Uuid]

/-- The parents must be known roles, and the graph as it would be after the edit has no cycle. -/
def setRoleInheritance (token : Claims Uuid) (roleId : Uuid) (inherits : List Uuid) : Handler Uuid Unit := do
  let _ ← adminUser token
  let roles ← read (·.roles)
  let edges ← read (·.roleInheritance)
  let validIds := roles.map (·.id)
  require (roleId ∈ validIds) (.notFound "role not found")
  let parents := (inherits.insertionSort (· ≤ ·)).dedup
  require (roleId ∉ parents) (.badRequest "a role cannot inherit from itself")
  match parents.find? fun parent => parent ∉ validIds with
  | some unknown => throw (.badRequest ("unknown role id in inheritance: " ++ IdText.toText unknown))
  | none => do
    let edgeRows := (edges.filter fun row => row.1 ≠ roleId) ++ parents.map fun parent => (roleId, parent)
    let candidate := (CachedGraph.fromRows roles [] edgeRows).toRoleGraph
    require (!candidate.hasCycle (validIds ++ edgeRows.map (·.1)))
      (.badRequest "this inheritance change would create a cycle")
    let _ ← write (.setRoleInheritance roleId parents)
    reloadRbac

end Handler

/-- What an administrator, a member or the dues cycle asks for. Identifiers the database
generates, salts and instants come with it. -/
inductive AdminRequest (Uuid : Type)
  | assignUserRole (token : Claims Uuid) (userId roleId : Uuid)
  | unassignUserRole (token : Claims Uuid) (userId roleId : Uuid)
  | updateUserRole (token : Claims Uuid) (userId : Uuid) (role : String)
  | activateUser (token : Claims Uuid) (userId : Uuid)
  | deactivateUser (token : Claims Uuid) (userId : Uuid)
  | deleteUser (token : Claims Uuid) (userId : Uuid)
  | updateUser (token : Claims Uuid) (userId : Uuid) (payload : UpdateUserRequest) (salt : String) (now : Int)
  | mergeUsers (token : Claims Uuid) (survivorId absorbedId : Uuid) (acknowledged elsewhere : List String)
  | createRole (token : Claims Uuid) (id : Uuid) (name : String) (level : Int)
  | updateRole (token : Claims Uuid) (roleId : Uuid) (level : Option Int)
  | deleteRole (token : Claims Uuid) (roleId : Uuid)
  | setRolePermissions (token : Claims Uuid) (roleId : Uuid) (permissions : List String)
  | setRoleInheritance (token : Claims Uuid) (roleId : Uuid) (inherits : List Uuid)
  | applyRole (userId : Uuid) (entitled : Bool)

variable {Uuid : Type} [DecidableEq Uuid] [IdText Uuid] [LE Uuid] [DecidableLE Uuid]

def AdminRequest.handler (platform : Platform) : AdminRequest Uuid → Handler Uuid Unit
  | .assignUserRole token userId roleId => Handler.assignUserRole token userId roleId
  | .unassignUserRole token userId roleId => Handler.unassignUserRole token userId roleId
  | .updateUserRole token userId role => Handler.updateUserRole token userId role
  | .activateUser token userId => Handler.activateUser token userId
  | .deactivateUser token userId => Handler.deactivateUser token userId
  | .deleteUser token userId => Handler.deleteUser token userId
  | .updateUser token userId payload salt now => Handler.updateUser platform token userId payload salt now
  | .mergeUsers token survivorId absorbedId acknowledged elsewhere =>
    Handler.mergeUsers token survivorId absorbedId acknowledged elsewhere
  | .createRole token id name level => Handler.createRole token id name level
  | .updateRole token roleId level => Handler.updateRole token roleId level
  | .deleteRole token roleId => Handler.deleteRole token roleId
  | .setRolePermissions token roleId permissions => Handler.setRolePermissions token roleId permissions
  | .setRoleInheritance token roleId inherits => Handler.setRoleInheritance token roleId inherits
  | .applyRole userId entitled => Handler.applyRole platform userId entitled

/-- The server's handlers over one database, any number of them running at a time. -/
def adminService (platform : Platform) :
    Service (DatabaseManager Uuid) (Change Uuid) DbReply (Except ApiError Unit) (AdminRequest Uuid) where
  perform := DatabaseManager.perform platform.toCollation
  serve request := (request.handler platform).run

end CoopSpaces

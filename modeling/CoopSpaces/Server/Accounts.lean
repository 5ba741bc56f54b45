import CoopSpaces.Server.Permissions

namespace CoopSpaces

/-- A user's row, less what nobody here computes with. -/
structure UserRow where
  username : String
  email : String
  passwordHash : String
  fullName : String
  isActive : Bool
  tokenVersion : Int
  deriving DecidableEq

/-- The columns a request writes. The address is not one of them. -/
structure UpdateUser where
  username : Option String
  passwordHash : Option String
  fullName : Option String
  isActive : Option Bool
  deriving DecidableEq

structure UserEmail (Uuid : Type) where
  userId : Uuid
  email : String
  isPrimary : Bool
  verifiedAt : Option Int
  createdAt : Int
  deriving DecidableEq

/-- What the database tells of a statement it refused. -/
inductive DbError
  | notFound
  | uniqueViolation
  | foreignKeyViolation
  | checkViolation
  -- Characters that no text column holds, a NUL among them.
  | unrepresentableText
  | unavailable
  deriving DecidableEq

/-- The tables of the accounts and their roles, and the role graph the server keeps in memory. -/
structure DatabaseManager (Uuid : Type) where
  users : AList fun _ : Uuid => UserRow
  userEmails : List (UserEmail Uuid)
  roles : List (Role Uuid)
  permissions : List String
  rolePermissions : List (Uuid × String)
  roleInheritance : List (Uuid × Uuid)
  userRoles : List (Uuid × Uuid)
  rbacGraph : CachedGraph Uuid

/-- The database's collation. -/
structure Collation where
  lower : String → String
  toLowercase : String → String

/-- A merge as it is asked for: the graph and the two rows read for it, the codes
acknowledged, and those its plan raises over tables that are not kept here. -/
structure Merge (Uuid : Type) where
  rbac : CachedGraph Uuid
  survivor : Uuid
  survivorRow : UserRow
  absorbed : Uuid
  absorbedRow : UserRow
  acknowledged : List String
  elsewhere : List String

namespace Role

def guest : String := "guest"
def historical : String := "historical"
def active : String := "active"
def staff : String := "staff"
def admin : String := "admin"

/-- The tier roles a user can hold as their single primary role, lowest to highest. -/
def tiers : List String := [guest, historical, active, staff, admin]

def isTier (name : String) : Bool := name ∈ tiers

end Role

def UpdateUser.set (updates : UpdateUser) (row : UserRow) : UserRow where
  username := updates.username.getD row.username
  email := row.email
  passwordHash := updates.passwordHash.getD row.passwordHash
  fullName := updates.fullName.getD row.fullName
  isActive := updates.isActive.getD row.isActive
  -- A changed password revokes the live sessions.
  tokenVersion := if updates.passwordHash.isSome then row.tokenVersion + 1 else row.tokenVersion

namespace DatabaseManager
variable {Uuid : Type} [DecidableEq Uuid]

def findUserById (db : DatabaseManager Uuid) (userId : Uuid) : Option UserRow := db.users.lookup userId

def activeIds (db : DatabaseManager Uuid) : List Uuid :=
  (db.users.entries.filter fun user => user.2.isActive).map (·.1)

def findUserByUsername (db : DatabaseManager Uuid) (username : String) : Option Uuid :=
  (db.users.entries.find? fun user => user.2.username = username).map (·.1)

def findUserByEmail (db : DatabaseManager Uuid) (collation : Collation) (email : String) : Option Uuid :=
  ((db.userEmails.find? fun row => collation.lower row.email = collation.toLowercase (trim email)).map (·.userId))

def getRole (db : DatabaseManager Uuid) (roleId : Uuid) : Option (Role Uuid) :=
  db.roles.find? fun role => role.id = roleId

def userRoleIds (db : DatabaseManager Uuid) (userId : Uuid) : List Uuid := rolesForUser db.userRoles userId

/-- Insert, doing nothing on a conflict. -/
def insertUserRole (db : DatabaseManager Uuid) (userId roleId : Uuid) : Except DbError (DatabaseManager Uuid × Nat) :=
  if db.userRoles.any fun row => row = (userId, roleId) then .ok (db, 0)
  else if (db.findUserById userId).isSome ∧ (db.getRole roleId).isSome then
    .ok ({ db with userRoles := db.userRoles ++ [(userId, roleId)] }, 1)
  else .error .foreignKeyViolation

def unassignUserRole (db : DatabaseManager Uuid) (userId roleId : Uuid) : DatabaseManager Uuid × Nat :=
  ({ db with userRoles := db.userRoles.filter fun row => row ≠ (userId, roleId) },
    db.userRoles.countP fun row => row = (userId, roleId))

def tierIds (db : DatabaseManager Uuid) : List Uuid := (db.roles.filter fun role => Role.isTier role.name).map (·.id)

/-- Set a user's single tier role, preserving any additional non-tier roles they were granted. -/
def setUserPrimaryRole (db : DatabaseManager Uuid) (userId : Uuid) (roleName : String) :
    Except DbError (DatabaseManager Uuid × Nat) :=
  let cleared := { db with userRoles := db.userRoles.filter fun row => ¬(row.1 = userId ∧ row.2 ∈ db.tierIds) }
  match db.roles.find? fun role => role.name = roleName with
  | none => .ok (cleared, 0)
  | some role => cleared.insertUserRole userId role.id

def updateUser (db : DatabaseManager Uuid) (userId : Uuid) (updates : UpdateUser) :
    Except DbError (DatabaseManager Uuid × Nat) :=
  match db.findUserById userId with
  | none => .error .notFound
  | some row =>
    if updates.username.any fun name => db.users.entries.any fun user => user.1 ≠ userId &&
      user.2.username = name then
      .error .uniqueViolation
    else .ok ({ db with users := db.users.insert userId (updates.set row) }, 1)

/-- The primary address is replaced, an unconfirmed one. Stale claims to it by others go. -/
def replacePrimaryUserEmail (db : DatabaseManager Uuid) (collation : Collation) (userId : Uuid) (newEmail : String)
    (staleBefore now : Int) : Except DbError (DatabaseManager Uuid × Nat) :=
  let needle := collation.toLowercase (trim newEmail)
  let claimed := db.userEmails.filter fun row =>
    ¬(collation.lower row.email = needle ∧ row.verifiedAt = none ∧ row.isPrimary = false ∧
      row.createdAt < staleBefore)
  let others := claimed.filter fun row => ¬(row.userId = userId ∧ row.isPrimary = true)
  match db.findUserById userId with
  | none => .error .notFound
  | some row =>
    if claimed.length ≠ others.length + 1 then .error .notFound
    else if others.any fun other => collation.lower other.email = collation.lower (trim newEmail) then
      .error .uniqueViolation
    else
      .ok ({ db with
        userEmails := others ++ [⟨userId, trim newEmail, true, none, now⟩]
        -- The column of the users table mirrors the primary row.
        users := db.users.insert userId { row with email := trim newEmail } }, 1)

/-- The row goes, and with it what refers to it. -/
def deleteUser (db : DatabaseManager Uuid) (userId : Uuid) : Except DbError (DatabaseManager Uuid × Nat) :=
  match db.findUserById userId with
  | none => .error .notFound
  | some _ =>
    .ok ({ db with
      users := db.users.erase userId
      userEmails := db.userEmails.filter fun row => row.userId ≠ userId
      userRoles := db.userRoles.filter fun row => row.1 ≠ userId }, 1)

def mergeWarningCodes (db : DatabaseManager Uuid) (merge : Merge Uuid) : List String :=
  let survivorRoles := db.userRoleIds merge.survivor
  let before := merge.rbac.effectiveLevel survivorRoles
  let after := merge.rbac.effectiveLevel (survivorRoles ++ db.userRoleIds merge.absorbed)
  merge.elsewhere ++ (if before < after then ["roles_raise_level"] else []) ++ ["absorbed_login_lost"] ++
    (if merge.survivorRow.fullName ≠ merge.absorbedRow.fullName then ["full_name_differs"] else []) ++
    (if !merge.absorbedRow.isActive && merge.survivorRow.isActive then ["absorbed_inactive"] else []) ++
    (if merge.absorbedRow.isActive && !merge.survivorRow.isActive then ["survivor_inactive"] else [])

/-- The roles move to the survivor, and the absorbed row goes. -/
def mergeUsers (db : DatabaseManager Uuid) (merge : Merge Uuid) : Except DbError (DatabaseManager Uuid × Nat) :=
  let survivorRoles := db.userRoleIds merge.survivor
  let moved := (db.userRoleIds merge.absorbed).filter fun role => role ∉ survivorRoles
  match db.findUserById merge.absorbed, db.findUserById merge.survivor with
  | none, _ => .error .notFound
  | some _, none => .error .foreignKeyViolation
  | some _, some row =>
    .ok ({ db with
      userRoles := (db.userRoles ++ moved.map fun role => (merge.survivor, role)).filter fun row =>
        row.1 ≠ merge.absorbed
      userEmails := db.userEmails.map fun row =>
        if row.userId = merge.absorbed then { row with userId := merge.survivor, isPrimary := false } else row
      users := (db.users.insert merge.survivor
        { row with tokenVersion := row.tokenVersion + 1 }).erase merge.absorbed }, 1)

def createRole (db : DatabaseManager Uuid) (id : Uuid) (name : String) (level : Nat) :
    Except DbError (DatabaseManager Uuid × Nat) :=
  if db.roles.any fun role => role.id = id || role.name = name then .error .uniqueViolation
  else .ok ({ db with roles := db.roles ++ [⟨id, name, false, level⟩] }, 1)

def updateRole (db : DatabaseManager Uuid) (roleId : Uuid) (level : Option Nat) :
    Except DbError (DatabaseManager Uuid × Nat) :=
  if (db.getRole roleId).isSome then
    .ok ({ db with
      roles := db.roles.map fun role =>
        if role.id = roleId then { role with level := level.getD role.level } else role }, 1)
  else .error .notFound

/-- The cascades take the role's grants, edges and assignments. -/
def deleteRole (db : DatabaseManager Uuid) (roleId : Uuid) : DatabaseManager Uuid × Nat :=
  ({ db with
    roles := db.roles.filter fun role => role.id ≠ roleId
    rolePermissions := db.rolePermissions.filter fun row => row.1 ≠ roleId
    roleInheritance := db.roleInheritance.filter fun row => row.1 ≠ roleId ∧ row.2 ≠ roleId
    userRoles := db.userRoles.filter fun row => row.2 ≠ roleId },
    db.roles.countP fun role => role.id = roleId)

def setRolePermissions (db : DatabaseManager Uuid) (roleId : Uuid) (keys : List String) :
    Except DbError (DatabaseManager Uuid × Nat) :=
  if ∀ key ∈ keys, (db.getRole roleId).isSome ∧ key ∈ db.permissions then
    .ok ({ db with
      rolePermissions := (db.rolePermissions.filter fun row => row.1 ≠ roleId) ++
        keys.map fun key => (roleId, key) }, 1)
  else .error .foreignKeyViolation

def setRoleInheritance (db : DatabaseManager Uuid) (roleId : Uuid) (parents : List Uuid) :
    Except DbError (DatabaseManager Uuid × Nat) :=
  if roleId ∈ parents then .error .checkViolation
  else if ∀ parent ∈ parents, (db.getRole roleId).isSome ∧ (db.getRole parent).isSome then
    .ok ({ db with
      roleInheritance := (db.roleInheritance.filter fun row => row.1 ≠ roleId) ++
        parents.map fun parent => (roleId, parent) }, 1)
  else .error .foreignKeyViolation

end DatabaseManager

/-- What is written at one time: a statement, a transaction, or the graph in memory. -/
inductive Change (Uuid : Type)
  | assignUserRole (userId roleId : Uuid)
  | unassignUserRole (userId roleId : Uuid)
  | setUserPrimaryRole (userId : Uuid) (roleName : String)
  | updateUser (userId : Uuid) (updates : UpdateUser)
  | replacePrimaryUserEmail (userId : Uuid) (newEmail : String) (staleBefore now : Int)
  | deleteUser (userId : Uuid)
  | mergeUsers (merge : Merge Uuid)
  | createRole (id : Uuid) (name : String) (level : Nat)
  | updateRole (roleId : Uuid) (level : Option Nat)
  | deleteRole (roleId : Uuid)
  | setRolePermissions (roleId : Uuid) (keys : List String)
  | setRoleInheritance (roleId : Uuid) (parents : List Uuid)
  | publishGraph (graph : CachedGraph Uuid)

inductive DbReply
  | rows (n : Nat)
  | unacknowledged (codes : List String)
  | failed (error : DbError)
  deriving DecidableEq

namespace DatabaseManager
variable {Uuid : Type} [DecidableEq Uuid]

/-- A statement that fails leaves the database as it was. -/
def settle (db : DatabaseManager Uuid) : Except DbError (DatabaseManager Uuid × Nat) → DatabaseManager Uuid × DbReply
  | .ok made => (made.1, .rows made.2)
  | .error e => (db, .failed e)

def perform (collation : Collation) (db : DatabaseManager Uuid) : Change Uuid → DatabaseManager Uuid × DbReply
  | .assignUserRole userId roleId => db.settle (db.insertUserRole userId roleId)
  | .unassignUserRole userId roleId => db.settle (.ok (db.unassignUserRole userId roleId))
  | .setUserPrimaryRole userId roleName => db.settle (db.setUserPrimaryRole userId roleName)
  | .updateUser userId updates => db.settle (db.updateUser userId updates)
  | .replacePrimaryUserEmail userId newEmail staleBefore now =>
    db.settle (db.replacePrimaryUserEmail collation userId newEmail staleBefore now)
  | .deleteUser userId => db.settle (db.deleteUser userId)
  | .mergeUsers merge =>
    if (db.mergeWarningCodes merge).toFinset = merge.acknowledged.toFinset then db.settle (db.mergeUsers merge)
    else (db, .unacknowledged (db.mergeWarningCodes merge))
  | .createRole id name level => db.settle (db.createRole id name level)
  | .updateRole roleId level => db.settle (db.updateRole roleId level)
  | .deleteRole roleId => db.settle (.ok (db.deleteRole roleId))
  | .setRolePermissions roleId keys => db.settle (db.setRolePermissions roleId keys)
  | .setRoleInheritance roleId parents => db.settle (db.setRoleInheritance roleId parents)
  | .publishGraph graph => ({ db with rbacGraph := graph }, .rows 1)

/-- The roles a user is left with when their tier becomes the one named. -/
def rolesUnderTier (db : DatabaseManager Uuid) (userId : Uuid) (roleName : String) : List Uuid :=
  ((db.userRoleIds userId).filter fun role => role ∉ db.tierIds) ++
    ((db.roles.find? fun role => role.name = roleName).map (·.id)).toList

variable {db after : DatabaseManager Uuid} {userId roleId : Uuid} {collation : Collation}

theorem mem_userRoleIds : roleId ∈ db.userRoleIds userId ↔ (userId, roleId) ∈ db.userRoles := by
  simp only [userRoleIds, rolesForUser, List.mem_map, List.mem_filter, decide_eq_true_eq]
  constructor
  · rintro ⟨⟨_, _⟩, ⟨row, rfl⟩, rfl⟩
    exact row
  · exact fun row => ⟨(userId, roleId), ⟨row, rfl⟩, rfl⟩

theorem mem_rolesUnderTier {roleName : String} :
    roleId ∈ db.rolesUnderTier userId roleName ↔
      ((userId, roleId) ∈ db.userRoles ∧ roleId ∉ db.tierIds) ∨
        ∃ role, (db.roles.find? fun role => role.name = roleName) = some role ∧ role.id = roleId := by
  simp only [rolesUnderTier, List.mem_append, List.mem_filter, mem_userRoleIds, decide_eq_true_eq, Option.mem_toList,
    Option.map_eq_some_iff]

theorem insertUserRole_spec (db : DatabaseManager Uuid) (userId roleId : Uuid) :
    (∃ n, db.insertUserRole userId roleId = .ok ({ db with userRoles := db.userRoles ++ [(userId, roleId)] }, n)) ∨
      ((userId, roleId) ∈ db.userRoles ∧ db.insertUserRole userId roleId = .ok (db, 0)) ∨
      ((db.findUserById userId = none ∨ db.getRole roleId = none) ∧
        db.insertUserRole userId roleId = .error .foreignKeyViolation) := by
  have listed : (db.userRoles.any fun row => row = (userId, roleId)) = true ↔ (userId, roleId) ∈ db.userRoles := by
    simp only [List.any_eq_true, decide_eq_true_eq, exists_eq_right]
  unfold insertUserRole
  by_cases present : (userId, roleId) ∈ db.userRoles
  · exact .inr (.inl ⟨present, if_pos (listed.mpr present)⟩)
  · rw [if_neg (mt listed.mp present)]
    by_cases known : (db.findUserById userId).isSome ∧ (db.getRole roleId).isSome
    · exact .inl ⟨1, if_pos known⟩
    · refine .inr (.inr ⟨?_, if_neg known⟩)
      simpa only [not_and_or, Option.not_isSome_iff_eq_none] using known

/-- The other accounts keep their roles, and the one whose tier is set has those left to it.
Only for an account that is not there is the change refused. -/
theorem perform_setUserPrimaryRole (db : DatabaseManager Uuid) (collation : Collation) (userId : Uuid)
    (roleName : String) :
    (db.findUserById userId = none ∧ (db.perform collation (.setUserPrimaryRole userId roleName)).1 = db) ∨
      ∃ userRoles, (db.perform collation (.setUserPrimaryRole userId roleName)).1 =
        { db with userRoles := userRoles } ∧
        ∀ other role, (other, role) ∈ userRoles ↔
          if other = userId then role ∈ db.rolesUnderTier userId roleName else (other, role) ∈ db.userRoles := by
  have cleared : ∀ other role,
      (other, role) ∈ (db.userRoles.filter fun row => ¬(row.1 = userId ∧ row.2 ∈ db.tierIds)) ↔
        (other, role) ∈ db.userRoles ∧ ¬(other = userId ∧ role ∈ db.tierIds) := by
    intro other role
    simp only [List.mem_filter, decide_eq_true_eq]
  simp only [mem_rolesUnderTier, perform, setUserPrimaryRole]
  rcases found : db.roles.find? fun role => role.name = roleName with _ | role
  all_goals simp only [found]
  · refine .inr ⟨_, rfl, fun other role => ?_⟩
    rw [cleared]
    by_cases same : other = userId
    · subst same
      simp
    · simp [same]
  · have known : (db.getRole role.id).isSome :=
      List.find?_isSome.mpr ⟨role, List.mem_of_find?_eq_some found, decide_eq_true rfl⟩
    rcases insertUserRole_spec { db with userRoles := db.userRoles.filter fun row =>
        ¬(row.1 = userId ∧ row.2 ∈ db.tierIds) } userId role.id with
      ⟨n, inserted⟩ | ⟨present, kept⟩ | ⟨missing, refused⟩
    · rw [inserted]
      refine .inr ⟨_, rfl, fun other given => ?_⟩
      rw [List.mem_append, cleared, List.mem_singleton]
      by_cases same : other = userId
      · subst same
        simp [eq_comm]
      · simp [same]
    · rw [kept]
      refine .inr ⟨_, rfl, fun other given => ?_⟩
      rw [cleared] at present ⊢
      by_cases same : other = userId
      · subst same
        simp only [true_and, if_true, Option.some.injEq, exists_eq_left']
        constructor
        · exact .inl
        · rintro (stays | rfl)
          · exact stays
          · exact ⟨present.1, fun tier => present.2 ⟨rfl, tier⟩⟩
      · simp [same]
    · rw [refused]
      rcases missing with absent | unknown
      · exact .inl ⟨absent, rfl⟩
      · rw [Option.isSome_iff_ne_none] at known
        exact absurd unknown known

end DatabaseManager

end CoopSpaces

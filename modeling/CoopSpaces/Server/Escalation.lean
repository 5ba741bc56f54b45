import CoopSpaces.Server.LastAdmin

namespace CoopSpaces
namespace DatabaseManager
variable {Uuid : Type} [DecidableEq Uuid]

def levelOf (db : DatabaseManager Uuid) (userId : Uuid) : Int := db.rbacGraph.effectiveLevel (db.userRoleIds userId)

def permissionsOf (db : DatabaseManager Uuid) (userId : Uuid) : List String :=
  db.rbacGraph.effectivePermissions (db.userRoleIds userId)

/-- No account was given a level above the caller's, or a permission the caller did not hold. -/
def NoEscalation (caller : Uuid) (before after : DatabaseManager Uuid) : Prop :=
  ∀ userId, after.levelOf userId ≤ max (before.levelOf userId) (before.levelOf caller) ∧
    ∀ key ∈ after.permissionsOf userId, key ∈ before.permissionsOf userId ∨ key ∈ before.permissionsOf caller

/-- Every tier but the admin's lies within the level and the permissions the caller has. -/
def TiersWithin (db : DatabaseManager Uuid) (caller : Uuid) : Prop :=
  ∀ name ∈ Role.tiers, name ≠ Role.admin → ∀ role ∈ db.roles.find? fun role => role.name = name,
    db.rbacGraph.effectiveLevel [role.id] ≤ db.levelOf caller ∧
      ∀ key ∈ db.rbacGraph.effectivePermissions [role.id], key ∈ db.permissionsOf caller

/-- What the requests of a caller who is no admin leave of the roles: the graph and the role
table are as they were, and whoever has a new role has a tier's, not the admin's. -/
structure Granted (db after : DatabaseManager Uuid) : Prop where
  graph : after.rbacGraph = db.rbacGraph
  roles : after.roles = db.roles
  rows : ∀ userId role, (userId, role) ∈ after.userRoles → (userId, role) ∈ db.userRoles ∨
    ∃ name ∈ Role.tiers, name ≠ Role.admin ∧ ∃ tier ∈ db.roles.find? fun role => role.name = name, tier.id = role

variable {db after : DatabaseManager Uuid} {caller userId : Uuid} {collation : Collation}

omit [DecidableEq Uuid] in
theorem Granted.refl (db : DatabaseManager Uuid) : Granted db db := ⟨rfl, rfl, fun _ _ => .inl⟩

theorem Granted.role_within (granted : Granted db after) (within : db.TiersWithin caller) {role : Uuid}
    (holds : role ∈ after.userRoleIds userId) :
    role ∈ db.userRoleIds userId ∨
      (db.rbacGraph.effectiveLevel [role] ≤ db.levelOf caller ∧
        ∀ key ∈ db.rbacGraph.effectivePermissions [role], key ∈ db.permissionsOf caller) := by
  rcases granted.rows userId role (mem_userRoleIds.mp holds) with old | ⟨name, tier, notAdmin, stored, found, rfl⟩
  · exact .inl (mem_userRoleIds.mpr old)
  · exact .inr (within name tier notAdmin stored found)

theorem Granted.noEscalation (granted : Granted db after) (within : db.TiersWithin caller) :
    NoEscalation caller db after := by
  intro userId
  constructor
  · have least : 0 ≤ max (db.levelOf userId) (db.levelOf caller) :=
      le_max_of_le_left CachedGraph.effectiveLevel_nonneg
    rw [levelOf, granted.graph]
    refine CachedGraph.effectiveLevel_le_of_each least fun role holds => ?_
    rcases granted.role_within within holds with old | ⟨level, -⟩
    · refine le_max_of_le_left (CachedGraph.effectiveLevel_mono fun other same => ?_)
      rwa [List.mem_singleton.mp same]
    · exact le_max_of_le_right level
  · intro key held
    rw [permissionsOf, granted.graph] at held
    obtain ⟨role, holds, through⟩ := PermissionGraph.mem_effectivePermissions_iff_exists.mp held
    rcases granted.role_within within holds with old | ⟨-, keys⟩
    · exact .inl (PermissionGraph.mem_effectivePermissions_iff_exists.mpr ⟨role, old, through⟩)
    · exact .inr (keys key through)

theorem Granted.caller_lacks (granted : Granted db after) (within : db.TiersWithin caller) {key : String}
    (lacks : key ∉ db.permissionsOf caller) : db.rbacGraph.hasPermission (after.userRoleIds caller) key = false := by
  have none_ := (granted.noEscalation within caller).2 key
  rw [permissionsOf, granted.graph, or_self] at none_
  exact decide_eq_false fun held => lacks (none_ held)

/-- The changes `update_user` makes for a caller who is no admin. -/
def ByUpdate : Change Uuid → Prop
  | .updateUser _ _ => True
  | .replacePrimaryUserEmail _ _ _ _ => True
  | .setUserPrimaryRole _ roleName => roleName ∈ Role.tiers ∧ roleName ≠ Role.admin
  | _ => False

theorem updateUser_userRoles (db : DatabaseManager Uuid) (collation : Collation) (userId : Uuid)
    (updates : UpdateUser) :
    let after := (db.perform collation (.updateUser userId updates)).1
    after.userRoles = db.userRoles ∧ after.roles = db.roles ∧ after.rbacGraph = db.rbacGraph := by
  simp only [perform, updateUser]
  rcases db.findUserById userId with _ | row
  · exact ⟨rfl, rfl, rfl⟩
  · simp only []
    split
    all_goals exact ⟨rfl, rfl, rfl⟩

theorem replacePrimaryUserEmail_userRoles (db : DatabaseManager Uuid) (collation : Collation) (userId : Uuid)
    (newEmail : String) (staleBefore now : Int) :
    let after := (db.perform collation (.replacePrimaryUserEmail userId newEmail staleBefore now)).1
    after.userRoles = db.userRoles ∧ after.roles = db.roles ∧ after.rbacGraph = db.rbacGraph := by
  simp only [perform, replacePrimaryUserEmail]
  rcases db.findUserById userId with _ | row
  · exact ⟨rfl, rfl, rfl⟩
  · simp only []
    split
    · exact ⟨rfl, rfl, rfl⟩
    · split
      all_goals exact ⟨rfl, rfl, rfl⟩

theorem Granted.perform (granted : Granted db after) {change : Change Uuid} (by_ : ByUpdate change) :
    Granted db (after.perform collation change).1 := by
  cases change with
  | updateUser userId updates =>
    obtain ⟨rows, roles, graph⟩ := updateUser_userRoles after collation userId updates
    exact ⟨graph.trans granted.graph, roles.trans granted.roles, rows ▸ granted.rows⟩
  | replacePrimaryUserEmail userId newEmail staleBefore now =>
    obtain ⟨rows, roles, graph⟩ := replacePrimaryUserEmail_userRoles after collation userId newEmail staleBefore now
    exact ⟨graph.trans granted.graph, roles.trans granted.roles, rows ▸ granted.rows⟩
  | setUserPrimaryRole userId roleName =>
    rcases perform_setUserPrimaryRole after collation userId roleName
      with ⟨-, same⟩ | ⟨userRoles, same, rows⟩
    · rw [same]
      exact granted
    · rw [same]
      refine ⟨granted.graph, granted.roles, fun other role holds => ?_⟩
      rw [rows] at holds
      split at holds
      · rename_i here
        rcases mem_rolesUnderTier.mp holds with ⟨old, -⟩ | ⟨tier, found, rfl⟩
        · exact granted.rows other role (here ▸ old)
        · exact .inr ⟨roleName, by_.1, by_.2, tier, granted.roles ▸ found, rfl⟩
      · exact granted.rows other role holds
  | assignUserRole | unassignUserRole | deleteUser | mergeUsers | createRole | updateRole | deleteRole
  | setRolePermissions | setRoleInheritance | publishGraph => exact by_.elim

end DatabaseManager

namespace Handler
variable {Uuid α : Type} [DecidableEq Uuid] {db : DatabaseManager Uuid} {caller : Uuid}
  {Inv : DatabaseManager Uuid → Prop} {allowed : Change Uuid → Prop}

open DatabaseManager

/-- The role that is asked for gets past the checks only when it is a tier's, and no admin's. -/
theorem meets_requireGrantable (within : db.TiersWithin caller) (notAdmin : "admin.access" ∉ db.permissionsOf caller)
    (role : Option String) :
    (requireGrantable caller role).Meets (Granted db) allowed fun _ =>
      ∀ name, role = some name → name ∈ Role.tiers ∧ name ≠ Role.admin := by
  cases role with
  | none =>
    refine meets_pure fun name none_ => ?_
    cases none_
  | some newRole =>
    have known : (require (Role.isTier newRole) (.badRequest ("unknown role: " ++ newRole)) : Handler Uuid Unit).Meets
        (Granted db) allowed fun _ => newRole ∈ Role.tiers :=
      meets_require fun tier => of_decide_eq_true tier
    refine known.bind fun _ tier => ?_
    by_cases admin : newRole = Role.admin
    · rw [if_pos admin]
      have lacks : (userHasPermission caller "admin.access").Meets (Granted db) allowed fun held => held = false := by
        refine meets_userHasPermission fun roles graph inRoles inGraph => ?_
        rw [inGraph.graph]
        exact inRoles.caller_lacks within notAdmin
      refine lacks.bind ?_
      rintro _ rfl
      exact meets_throw _
    · rw [if_neg admin]
      refine meets_pure fun name same => ?_
      obtain rfl := Option.some.inj same
      exact ⟨tier, admin⟩

theorem meets_requireOwnOrManager (caller userId : Uuid) :
    (requireOwnOrManager caller userId).Meets Inv allowed fun _ => True := by
  by_cases other : caller ≠ userId
  · rw [requireOwnOrManager, if_pos other]
    exact (meets_anyPermission _ _).bind fun _ _ => meets_anyRequire _ _
  · rw [requireOwnOrManager, if_neg other]
    exact meets_pure trivial

theorem meets_requireManagerForStatus (caller : Uuid) (payload : UpdateUserRequest) :
    (requireManagerForStatus caller payload).Meets Inv allowed fun _ => True :=
  (meets_anyPermission _ _).bind fun _ _ => meets_anyRequire _ _

theorem meets_requireBelow (caller userId : Uuid) : (requireBelow caller userId).Meets Inv allowed fun _ => True := by
  by_cases other : caller ≠ userId
  · rw [requireBelow, if_pos other]
    exact (meets_userEffectiveLevel _).bind fun _ _ => (meets_userEffectiveLevel _).bind fun _ _ =>
      meets_anyRequire _ _
  · rw [requireBelow, if_neg other]
    exact meets_pure trivial

theorem meets_requireCurrentPassword (platform : Platform) (caller userId : Uuid) (existing : UserRow)
    (payload : UpdateUserRequest) :
    (requireCurrentPassword platform caller userId existing payload).Meets Inv allowed fun _ => True := by
  unfold requireCurrentPassword
  split
  · exact meets_anyRequire _ _
  · exact meets_pure trivial

omit [DecidableEq Uuid] in
theorem meets_hashNewPassword (platform : Platform) (password : Option String) (salt : String) :
    (hashNewPassword platform password salt : Handler Uuid _).Meets Inv allowed fun _ => True := by
  cases password with
  | none => exact meets_pure trivial
  | some newPassword =>
    refine (meets_anyRequire _ _).bind fun _ _ => ?_
    cases platform.hash newPassword salt with
    | none => exact meets_throw _
    | some hashed => exact meets_pure trivial

omit [DecidableEq Uuid] in
theorem meets_requireFreeEmail (platform : Platform) (newPrimary : Option String) :
    (requireFreeEmail platform newPrimary : Handler Uuid Unit).Meets Inv allowed fun _ => True := by
  cases newPrimary with
  | none => exact meets_pure trivial
  | some email =>
    exact (meets_anyRequire _ _).bind fun _ _ => (meets_anyRead _).bind fun _ _ => meets_anyRequire _ _

omit [DecidableEq Uuid] in
theorem meets_requireFreeUsername (existing : UserRow) (username : Option String) :
    (requireFreeUsername existing username : Handler Uuid Unit).Meets Inv allowed fun _ => True := by
  cases username with
  | none => exact meets_pure trivial
  | some name =>
    by_cases changed : name ≠ existing.username
    · simp only [requireFreeUsername, if_pos changed]
      exact (meets_anyRequire _ _).bind fun _ _ => (meets_anyRead _).bind fun _ _ => meets_anyRequire _ _
    · simp only [requireFreeUsername, if_neg changed]
      exact meets_pure trivial

theorem meets_replacePrimaryEmail (userId : Uuid) (newPrimary : Option String) (now : Int) :
    (replacePrimaryEmail userId newPrimary now).Meets Inv ByUpdate fun _ => True := by
  cases newPrimary with
  | none => exact meets_pure trivial
  | some email =>
    refine (meets_send trivial).bind fun reply _ => ?_
    split
    · exact meets_throw _
    · exact (meets_ofReply _).bind fun _ _ => (meets_requireUser _ _).bind fun _ _ => meets_pure trivial

omit [DecidableEq Uuid] in
theorem meets_applyRequestedRole (userId : Uuid) {role : Option String}
    (grantable : ∀ name, role = some name → name ∈ Role.tiers ∧ name ≠ Role.admin) :
    (applyRequestedRole userId role).Meets Inv ByUpdate fun _ => True := by
  cases role with
  | none => exact meets_pure trivial
  | some newRole =>
    have granted : ByUpdate (.setUserPrimaryRole userId newRole) := grantable newRole rfl
    exact (meets_write granted).bind fun _ _ => meets_pure trivial

/-- Whatever a caller who is no admin asks of `update_user`, and whatever other such requests
run meanwhile: nobody gets a role but a tier's, and that not the admin's. -/
theorem meets_updateUser (within : db.TiersWithin caller) (notAdmin : "admin.access" ∉ db.permissionsOf caller)
    (platform : Platform) (tokenVersion : Int) (userId : Uuid) (payload : UpdateUserRequest) (salt : String)
    (now : Int) :
    (updateUser platform ⟨caller, tokenVersion⟩ userId payload salt now).Meets (Granted db) ByUpdate fun _ =>
    True := by
  refine (meets_authUser _).bind fun _ _ => ?_
  refine (meets_requireOwnOrManager _ _).bind fun _ _ => ?_
  refine (meets_requireManagerForStatus _ _).bind fun _ _ => ?_
  refine (meets_requireGrantable within notAdmin payload.role).bind fun _ grantable => ?_
  refine (meets_requireUser _ _).bind fun existing _ => ?_
  refine (meets_requireBelow _ _).bind fun _ _ => ?_
  refine (meets_requireCurrentPassword _ _ _ _ _).bind fun _ _ => ?_
  refine (meets_hashNewPassword _ _ _).bind fun passwordHash _ => ?_
  refine (meets_requireFreeEmail _ _).bind fun _ _ => ?_
  refine (meets_requireFreeUsername _ _).bind fun _ _ => ?_
  refine (meets_write trivial).bind fun _ _ => ?_
  refine (meets_replacePrimaryEmail _ _ _).bind fun _ _ => ?_
  exact meets_applyRequestedRole userId grantable

section OwnRole
variable {after : DatabaseManager Uuid} {row : UserRow} {name : String}

/-- What asks for nothing but another role. -/
def onlyRole (name : String) : UpdateUserRequest := ⟨none, none, none, none, none, none, some name⟩

/-- A request for one's own role passes every check that is made on the way to the writes. -/
theorem act_checks_ownRole (platform : Platform) (manages : "users.manage" ∈ db.permissionsOf caller)
    (tier : name ∈ Role.tiers) (notAdmin : name ≠ Role.admin) (row : UserRow) (salt : String) :
    (requireOwnOrManager caller caller).act db = .inl (.ok ()) ∧
      (requireManagerForStatus caller (onlyRole name)).act db = .inl (.ok ()) ∧
      (requireGrantable caller (onlyRole name).role).act db = .inl (.ok ()) ∧
      (requireBelow caller caller).act db = .inl (.ok ()) ∧
      (requireCurrentPassword platform caller caller row (onlyRole name)).act db = .inl (.ok ()) ∧
      (hashNewPassword platform (onlyRole name).password salt : Handler Uuid _).act db = .inl (.ok none) := by
  have held : db.rbacGraph.hasPermission (db.userRoleIds caller) "users.manage" = true := decide_eq_true manages
  have isTier : Role.isTier name = true := decide_eq_true tier
  refine ⟨?_, ?_, ?_, ?_, ?_, rfl⟩
  · rw [requireOwnOrManager, if_neg (not_not.mpr rfl)]
    rfl
  · rw [requireManagerForStatus, act_bind_ok (act_userHasPermission _ _), held]
    rfl
  · simp only [onlyRole, requireGrantable, isTier, if_neg notAdmin]
    rfl
  · rw [requireBelow, if_neg (not_not.mpr rfl)]
    rfl
  · have unasked : ¬(caller = caller ∧
        ((onlyRole name).password.isSome = true ∨ (onlyRole name).email.any (· ≠ row.email) = true)) := by
      rintro ⟨-, asked | asked⟩
      all_goals cases asked
    rw [requireCurrentPassword, if_neg unasked]
    rfl

theorem perform_emptyUpdate (collation : Collation) (found : db.findUserById caller = some row) :
    ∃ mid, db.perform collation (.updateUser caller ⟨none, none, none, none⟩) = (mid, .rows 1) ∧
      (mid.findUserById caller).isSome ∧ mid.userRoles = db.userRoles ∧ mid.roles = db.roles ∧
      mid.rbacGraph = db.rbacGraph := by
  simp only [DatabaseManager.perform, DatabaseManager.updateUser, found]
  refine ⟨_, rfl, ?_, rfl, rfl, rfl⟩
  rw [DatabaseManager.findUserById, AList.lookup_insert]
  rfl

theorem solo_applyRequestedRole {collation : Collation} (userId : Uuid) :
    ((applyRequestedRole userId (some name)).solo collation db).1 =
      (db.perform collation (.setUserPrimaryRole userId name)).1 := by
  rw [applyRequestedRole, solo_bind_readOnly _ fun _ => (meets_pure trivial).readOnly]
  exact solo_write_fst _

/-- A manager's request for another role of their own is a change to that role. -/
theorem solo_ownRole (platform : Platform) (found : db.findUserById caller = some row) (active : row.isActive = true)
    (manages : "users.manage" ∈ db.permissionsOf caller) (tier : name ∈ Role.tiers) (notAdmin : name ≠ Role.admin)
    (salt : String) (now : Int) :
    ∃ mid : DatabaseManager Uuid, (mid.findUserById caller).isSome ∧ mid.userRoles = db.userRoles ∧
      mid.roles = db.roles ∧ mid.rbacGraph = db.rbacGraph ∧
      ((updateUser platform ⟨caller, row.tokenVersion⟩ caller (onlyRole name) salt now).solo
        platform.toCollation db).1 =
        (mid.perform platform.toCollation (.setUserPrimaryRole caller name)).1 := by
  obtain ⟨own, status, grantable, below, password, hashed⟩ :=
    act_checks_ownRole platform manages tier notAdmin row salt
  have auth : (authUser ⟨caller, row.tokenVersion⟩).act db = .inl (.ok row) := act_authUser found active rfl
  have existing := act_requireUser found "User not found"
  obtain ⟨mid, updated, known, rows, roles, graph⟩ := perform_emptyUpdate platform.toCollation found
  refine ⟨mid, known, rows, roles, graph, ?_⟩
  rw [updateUser, solo_bind_ok (solo_of_act auth), solo_bind_ok (solo_of_act own), solo_bind_ok (solo_of_act status),
    solo_bind_ok (solo_of_act grantable), solo_bind_ok (solo_of_act existing), solo_bind_ok (solo_of_act below),
    solo_bind_ok (solo_of_act password), solo_bind_ok (solo_of_act hashed)]
  have freeEmail : (requireFreeEmail platform none : Handler Uuid Unit).act db = .inl (.ok ()) := rfl
  have freeUsername : (requireFreeUsername row none : Handler Uuid Unit).act db = .inl (.ok ()) := rfl
  have sameEmail : (replacePrimaryEmail caller none now).act mid = .inl (.ok ()) := rfl
  simp only [onlyRole, Option.filter_none]
  rw [solo_bind_ok (solo_of_act freeEmail), solo_bind_ok (solo_of_act freeUsername),
    solo_bind_ok (solo_write updated), solo_bind_ok (solo_of_act sameEmail), solo_applyRequestedRole]

end OwnRole

end Handler

/-- A request to `update_user`, with the salt and the instant it is served at. -/
structure UpdateCall (Uuid : Type) where
  tokenVersion : Int
  userId : Uuid
  payload : UpdateUserRequest
  salt : String
  now : Int
  deriving DecidableEq

namespace UpdateCall
variable {Uuid : Type} [DecidableEq Uuid] {db : DatabaseManager Uuid} {caller : Uuid}
open DatabaseManager

def serve (platform : Platform) (caller : Uuid) (db : DatabaseManager Uuid) (call : UpdateCall Uuid) :
    DatabaseManager Uuid :=
  ((Handler.updateUser platform ⟨caller, call.tokenVersion⟩ call.userId call.payload call.salt call.now).solo
    platform.toCollation db).1

def serveAll (platform : Platform) (caller : Uuid) (db : DatabaseManager Uuid) (calls : List (UpdateCall Uuid)) :
    DatabaseManager Uuid :=
  calls.foldl (serve platform caller) db

theorem granted_serve (within : db.TiersWithin caller) (notAdmin : "admin.access" ∉ db.permissionsOf caller)
    (platform : Platform) {after : DatabaseManager Uuid} (granted : Granted db after) (call : UpdateCall Uuid) :
    Granted db (call.serve platform caller after) := by
  have meets := Handler.meets_updateUser within notAdmin platform call.tokenVersion call.userId call.payload call.salt
    call.now
  have keeps : ∀ s change, Granted db s → ByUpdate change → Granted db (s.perform platform.toCollation change).1 :=
    fun _ _ granted by_ => granted.perform by_
  exact (Routine.Meets.solo keeps meets granted).1

theorem granted_serveAll (within : db.TiersWithin caller) (notAdmin : "admin.access" ∉ db.permissionsOf caller)
    (platform : Platform) (calls : List (UpdateCall Uuid)) : Granted db (serveAll platform caller db calls) := by
  have all : ∀ after, Granted db after → Granted db (serveAll platform caller after calls) := by
    induction calls with
    | nil => exact fun after granted => granted
    | cons call rest ih => exact fun after granted => ih _ (granted_serve within notAdmin platform granted call)
  exact all db (Granted.refl db)

/-- Whose account is not active gets nothing done. -/
theorem serveAll_inactive (inactive : ¬db.IsActive caller) (platform : Platform) (calls : List (UpdateCall Uuid)) :
    serveAll platform caller db calls = db := by
  induction calls with
  | nil => rfl
  | cons call rest ih =>
    have off : ∀ row, db.findUserById caller = some row → row.isActive = false := by
      intro row found
      rw [IsActive, found, Option.any_some, Bool.not_eq_true] at inactive
      exact inactive
    let token : Claims Uuid := ⟨caller, call.tokenVersion⟩
    obtain ⟨e, refused⟩ := Handler.act_authUser_inactive token off
    have refusal : call.serve platform caller db = db := by
      have answer : (Handler.updateUser platform ⟨caller, call.tokenVersion⟩ call.userId call.payload call.salt
          call.now).act db = .inl (.error e) := by
        rw [Handler.updateUser, Handler.act_bind, refused]
      rw [serve, Handler.solo_of_act answer]
    rw [serveAll, List.foldl_cons, refusal]
    exact ih

/-- A manager who is no admin can give themselves each tier but the admin's. -/
theorem serve_ownRole (platform : Platform) (active : db.IsActive caller)
    (manages : "users.manage" ∈ db.permissionsOf caller) {role : Role Uuid} {name : String} (tier : name ∈ Role.tiers)
    (notAdmin : name ≠ Role.admin) (stored : (db.roles.find? fun role => role.name = name) = some role) :
    ∃ call, (serve platform caller db call).rbacGraph = db.rbacGraph ∧
      role.id ∈ (serve platform caller db call).userRoleIds caller := by
  obtain ⟨row, found, enabled⟩ := active.row
  obtain ⟨mid, known, rows, roles, graph, served⟩ :=
    Handler.solo_ownRole platform found enabled manages tier notAdmin "" 0
  refine ⟨⟨row.tokenVersion, caller, Handler.onlyRole name, "", 0⟩, ?_⟩
  rw [serve, served]
  rcases perform_setUserPrimaryRole mid platform.toCollation caller name
    with ⟨missing, -⟩ | ⟨userRoles, made, holders⟩
  · rw [missing] at known
    cases known
  · rw [made]
    refine ⟨graph, mem_userRoleIds.mpr ((holders caller role.id).mpr ?_)⟩
    rw [if_pos rfl]
    exact mem_rolesUnderTier.mpr (.inr ⟨role, roles.symm ▸ stored, rfl⟩)

/-- No sequence of requests by a manager who is no admin gives anyone more than the manager had,
exactly when no tier but the admin's is more than that. -/
theorem no_escalation_iff (platform : Platform) (manages : "users.manage" ∈ db.permissionsOf caller)
    (notAdmin : "admin.access" ∉ db.permissionsOf caller) :
    (∀ calls, NoEscalation caller db (serveAll platform caller db calls)) ↔
      (db.IsActive caller → db.TiersWithin caller) := by
  constructor
  · intro safe active name tier notAdminRole role stored
    obtain ⟨call, graph, holds⟩ := serve_ownRole platform active manages tier notAdminRole stored
    have given : ∀ other ∈ [role.id], other ∈ (call.serve platform caller db).userRoleIds caller := by
      intro other same
      rwa [List.mem_singleton.mp same]
    obtain ⟨level, keys⟩ := safe [call] caller
    rw [max_self] at level
    constructor
    · have raised : db.rbacGraph.effectiveLevel [role.id] ≤ (call.serve platform caller db).levelOf caller := by
        rw [levelOf, graph]
        exact CachedGraph.effectiveLevel_mono given
      exact raised.trans level
    · intro key held
      have gained : key ∈ (call.serve platform caller db).permissionsOf caller := by
        rw [permissionsOf, graph]
        exact PermissionGraph.mem_effectivePermissions_of_subset given held
      exact or_self_iff.mp (keys key gained)
  · intro within calls
    by_cases active : db.IsActive caller
    · exact (granted_serveAll (within active) notAdmin platform calls).noEscalation (within active)
    · rw [serveAll_inactive active]
      exact fun userId => ⟨le_max_left _ _, fun key held => .inl held⟩

/-- A space whose desk has a role of its own below the staff's, and manages accounts. -/
def deskRole : Role HexId := ⟨.repeating 3, "desk", false, 2⟩

def staffRole : Role HexId := ⟨.repeating 4, Role.staff, true, 4⟩

def deskPermissions : List (HexId × String) := [(deskRole.id, "users.manage"), (staffRole.id, "staff.access")]

def atDesk : DatabaseManager HexId where
  users := AList.insert ada ⟨"ada", "ada@space", "", "Ada", true, 0⟩ ∅
  userEmails := [⟨ada, "ada@space", true, some 0, 0⟩]
  roles := [deskRole, staffRole]
  permissions := ["users.manage", "staff.access"]
  rolePermissions := deskPermissions
  roleInheritance := []
  userRoles := [(ada, deskRole.id)]
  rbacGraph := .fromRows [deskRole, staffRole] deskPermissions []

/-- The desk's manager asks to be staff, and is. -/
theorem desk_becomes_staff :
    "users.manage" ∈ atDesk.permissionsOf ada ∧ "admin.access" ∉ atDesk.permissionsOf ada ∧
      ¬NoEscalation ada atDesk (serveAll plainPlatform ada atDesk
        [⟨0, ada, Handler.onlyRole Role.staff, "", 0⟩]) := by
  refine ⟨by decide +kernel, by decide +kernel, fun safe => ?_⟩
  have staffLevel : (serveAll plainPlatform ada atDesk [⟨0, ada, Handler.onlyRole Role.staff, "", 0⟩]).levelOf
      ada = 4 := by
    decide +kernel
  have deskLevel : atDesk.levelOf ada = 2 := by decide +kernel
  have level := (safe ada).1
  omega

theorem no_escalation_at_desk :
    (∀ calls, NoEscalation ada atDesk (serveAll plainPlatform ada atDesk calls)) ↔
      (atDesk.IsActive ada → atDesk.TiersWithin ada) :=
  no_escalation_iff plainPlatform (by decide +kernel) (by decide +kernel)

end UpdateCall

section Interleaved
variable {Uuid : Type} [DecidableEq Uuid] [IdText Uuid] [LE Uuid] [DecidableLE Uuid]
open DatabaseManager

/-- Nor do their requests when they run at the same time. -/
theorem no_escalation_interleaved (platform : Platform) {db : DatabaseManager Uuid} {caller : Uuid}
    (notAdmin : "admin.access" ∉ db.permissionsOf caller) (within : db.TiersWithin caller)
    {schedule : List (Service.Event (AdminRequest Uuid))}
    (asked : ∀ request, .arrive request ∈ schedule → ∃ tokenVersion userId payload salt now,
      request = .updateUser ⟨caller, tokenVersion⟩ userId payload salt now) :
    NoEscalation caller db (((adminService platform).machine db).run schedule).state := by
  have keeps : ∀ s change, Granted db s → ByUpdate change → Granted db (s.perform platform.toCollation change).1 :=
    fun _ _ granted by_ => granted.perform by_
  have meets : ∀ request, .arrive request ∈ schedule →
      ((adminService platform).serve request).Meets (Granted db) ByUpdate fun _ => True := by
    intro request arrives
    obtain ⟨tokenVersion, userId, payload, salt, now, rfl⟩ := asked request arrives
    have whole := Handler.meets_updateUser within notAdmin platform tokenVersion userId payload salt now
    exact whole.weaken fun _ _ => trivial
  have granted := Service.always_of_meets (adminService platform) keeps (Granted.refl db) meets
  exact granted.noEscalation within

/-- The staff of this space is below its desk. -/
def deskAboveStaff : DatabaseManager HexId :=
  { UpdateCall.atDesk with
    roles := [UpdateCall.deskRole, { UpdateCall.staffRole with level := 1 }]
    rolePermissions := [(UpdateCall.deskRole.id, "users.manage")]
    rbacGraph := .fromRows [UpdateCall.deskRole, { UpdateCall.staffRole with level := 1 }]
      [(UpdateCall.deskRole.id, "users.manage")] [] }

theorem no_escalation_above_staff : NoEscalation ada deskAboveStaff
    (((adminService plainPlatform).machine deskAboveStaff).run
      [.arrive (.updateUser ⟨ada, 0⟩ ada (Handler.onlyRole Role.staff) "" 0),
        .arrive (.updateUser ⟨ada, 0⟩ ada (Handler.onlyRole Role.active) "" 0), .step 0, .step 1, .step 1,
          .step 0]).state := by
  have within : deskAboveStaff.TiersWithin ada := by
    unfold DatabaseManager.TiersWithin
    decide +kernel
  refine no_escalation_interleaved plainPlatform (by decide +kernel) within fun request there => ?_
  simp only [List.mem_cons, Service.Event.arrive.injEq, reduceCtorEq, List.not_mem_nil, or_false] at there
  rcases there with rfl | rfl
  · exact ⟨_, _, _, _, _, rfl⟩
  · exact ⟨_, _, _, _, _, rfl⟩

end Interleaved

end CoopSpaces

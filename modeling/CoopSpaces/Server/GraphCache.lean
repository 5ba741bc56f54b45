import CoopSpaces.Lib.Races
import CoopSpaces.Server.LastAdmin
import CoopSpaces.Server.RoleCycles

namespace CoopSpaces
namespace DatabaseManager
variable {Uuid : Type} [DecidableEq Uuid] {db after : DatabaseManager Uuid} {collation : Collation}

/-- The graph of the committed rows. -/
def committedGraph (db : DatabaseManager Uuid) : CachedGraph Uuid :=
  .fromRows db.roles db.rolePermissions db.roleInheritance

/-- What the check of an inheritance edit says of it on these rows. -/
def wouldCycle (db : DatabaseManager Uuid) (roleId : Uuid) (parents : List Uuid) : Bool :=
  let edgeRows := (db.roleInheritance.filter fun row => row.1 ≠ roleId) ++ parents.map fun parent => (roleId, parent)
  (CachedGraph.fromRows db.roles [] edgeRows).toRoleGraph.hasCycle (db.roles.map (·.id) ++ edgeRows.map (·.1))

theorem cycles_iff {roles : List (Role Uuid)} {edgeRows : List (Uuid × Uuid)} :
    (CachedGraph.fromRows roles [] edgeRows).toRoleGraph.hasCycle (roles.map (·.id) ++ edgeRows.map (·.1)) = true ↔
      ¬Worklist.Acyclic edgeRows :=
  RoleGraph.hasCycle_iff fun _ edge => List.mem_append_right _ (List.mem_map_of_mem edge)

theorem wouldCycle_iff {roleId : Uuid} {parents : List Uuid} :
    db.wouldCycle roleId parents = true ↔
      ¬Worklist.Acyclic ((db.roleInheritance.filter fun row => row.1 ≠ roleId) ++
        parents.map fun parent => (roleId, parent)) := cycles_iff

/-- The tables the graph is made of, and the graph in memory, are as before. -/
structure SameRoles (db after : DatabaseManager Uuid) : Prop where
  roles : after.roles = db.roles
  rolePermissions : after.rolePermissions = db.rolePermissions
  roleInheritance : after.roleInheritance = db.roleInheritance
  rbacGraph : after.rbacGraph = db.rbacGraph

omit [DecidableEq Uuid] in
theorem SameRoles.refl (db : DatabaseManager Uuid) : SameRoles db db := ⟨rfl, rfl, rfl, rfl⟩

theorem SameRoles.committedGraph (same : SameRoles db after) : after.committedGraph = db.committedGraph := by
  rw [DatabaseManager.committedGraph, same.roles, same.rolePermissions, same.roleInheritance,
    DatabaseManager.committedGraph]

omit [DecidableEq Uuid] in
theorem sameRoles_settle {result : Except DbError (DatabaseManager Uuid × Nat)}
    (same : ∀ made, result = .ok made → SameRoles db made.1) : SameRoles db (db.settle result).1 := by
  cases result with
  | error e => exact SameRoles.refl db
  | ok made => exact same made rfl

variable {made : DatabaseManager Uuid × Nat}

theorem sameRoles_insertUserRole {userId roleId : Uuid} (inserted : db.insertUserRole userId roleId = .ok made) :
    SameRoles db made.1 := by
  unfold insertUserRole at inserted
  split at inserted
  · obtain rfl := Except.ok.inj inserted
    exact SameRoles.refl db
  · split at inserted
    · obtain rfl := Except.ok.inj inserted
      exact ⟨rfl, rfl, rfl, rfl⟩
    · cases inserted

theorem sameRoles_setUserPrimaryRole {userId : Uuid} {roleName : String}
    (set : db.setUserPrimaryRole userId roleName = .ok made) : SameRoles db made.1 := by
  simp only [setUserPrimaryRole] at set
  split at set
  · obtain rfl := Except.ok.inj set
    exact ⟨rfl, rfl, rfl, rfl⟩
  · have same := sameRoles_insertUserRole set
    exact ⟨same.roles, same.rolePermissions, same.roleInheritance, same.rbacGraph⟩

theorem sameRoles_updateUser {userId : Uuid} {updates : UpdateUser}
    (updated : db.updateUser userId updates = .ok made) : SameRoles db made.1 := by
  unfold updateUser at updated
  split at updated
  · cases updated
  · split at updated
    · cases updated
    · obtain rfl := Except.ok.inj updated
      exact ⟨rfl, rfl, rfl, rfl⟩

theorem sameRoles_replacePrimaryUserEmail {userId : Uuid} {newEmail : String} {staleBefore now : Int}
    (replaced : db.replacePrimaryUserEmail collation userId newEmail staleBefore now = .ok made) :
    SameRoles db made.1 := by
  simp only [replacePrimaryUserEmail] at replaced
  split at replaced
  · cases replaced
  · split at replaced
    · cases replaced
    · split at replaced
      · cases replaced
      · obtain rfl := Except.ok.inj replaced
        exact ⟨rfl, rfl, rfl, rfl⟩

theorem sameRoles_deleteUser {userId : Uuid} (deleted : db.deleteUser userId = .ok made) : SameRoles db made.1 := by
  unfold deleteUser at deleted
  split at deleted
  · cases deleted
  · obtain rfl := Except.ok.inj deleted
    exact ⟨rfl, rfl, rfl, rfl⟩

theorem sameRoles_mergeUsers {merge : Merge Uuid} (merged : db.mergeUsers merge = .ok made) :
    SameRoles db made.1 := by
  simp only [mergeUsers] at merged
  split at merged
  · cases merged
  · cases merged
  · obtain rfl := Except.ok.inj merged
    exact ⟨rfl, rfl, rfl, rfl⟩

end DatabaseManager

namespace Change
variable {Uuid : Type}

/-- A write to the tables the graph is made of. -/
def EditsRoles : Change Uuid → Prop
  | .createRole _ _ _ => True
  | .updateRole _ _ => True
  | .deleteRole _ => True
  | .setRolePermissions _ _ => True
  | .setRoleInheritance _ _ => True
  | _ => False

def Republishes (change : Change Uuid) : Prop := ∃ graph, change = .publishGraph graph

/-- A write that neither does. -/
def Quiet : Change Uuid → Prop
  | .createRole _ _ _ | .updateRole _ _ | .deleteRole _ | .setRolePermissions _ _ | .setRoleInheritance _ _
  | .publishGraph _ => False
  | _ => True

/-- Role rows have been written, and the graph in memory has to follow. -/
def Outdates (change : Change Uuid) (reply : DbReply) : Prop := change.EditsRoles ∧ ∃ n, reply = .rows n

end Change

namespace DatabaseManager
variable {Uuid : Type} [DecidableEq Uuid] {db after : DatabaseManager Uuid} {collation : Collation}

omit [DecidableEq Uuid] in
theorem settle_rows_or_same (db : DatabaseManager Uuid) (result : Except DbError (DatabaseManager Uuid × Nat)) :
    (∃ n, (db.settle result).2 = .rows n) ∨ SameRoles db (db.settle result).1 := by
  cases result with
  | error e => exact .inr (SameRoles.refl db)
  | ok made => exact .inl ⟨made.2, rfl⟩

/-- What a change may do: write role rows, publish a graph, or leave both alone. -/
theorem perform_roles (collation : Collation) (db : DatabaseManager Uuid) (change : Change Uuid) :
    change.Outdates (db.perform collation change).2 ∨ change.Republishes ∨
      SameRoles db (db.perform collation change).1 := by
  have edits : change.EditsRoles → ∀ result, db.perform collation change = db.settle result →
      change.Outdates (db.perform collation change).2 ∨ change.Republishes ∨
        SameRoles db (db.perform collation change).1 := by
    intro edits result same
    rw [same]
    rcases settle_rows_or_same db result with rows | kept
    · exact .inl ⟨edits, rows⟩
    · exact .inr (.inr kept)
  cases change with
  | assignUserRole userId roleId => exact .inr (.inr (sameRoles_settle fun made => sameRoles_insertUserRole))
  | unassignUserRole userId roleId => exact .inr (.inr ⟨rfl, rfl, rfl, rfl⟩)
  | setUserPrimaryRole userId roleName =>
    exact .inr (.inr (sameRoles_settle fun made => sameRoles_setUserPrimaryRole))
  | updateUser userId updates => exact .inr (.inr (sameRoles_settle fun made => sameRoles_updateUser))
  | replacePrimaryUserEmail userId newEmail staleBefore now =>
    exact .inr (.inr (sameRoles_settle fun made => sameRoles_replacePrimaryUserEmail))
  | deleteUser userId => exact .inr (.inr (sameRoles_settle fun made => sameRoles_deleteUser))
  | mergeUsers merge =>
    refine .inr (.inr ?_)
    simp only [perform]
    split
    · exact sameRoles_settle fun made => sameRoles_mergeUsers
    · exact SameRoles.refl db
  | createRole id name level => exact edits trivial _ rfl
  | updateRole roleId level => exact edits trivial _ rfl
  | deleteRole roleId => exact edits trivial (.ok (db.deleteRole roleId)) rfl
  | setRolePermissions roleId keys => exact edits trivial _ rfl
  | setRoleInheritance roleId parents => exact edits trivial _ rfl
  | publishGraph graph => exact .inr (.inl ⟨graph, rfl⟩)

/-- An inheritance edit that goes through does so on rows on which its check would let it. -/
def Checked (db : DatabaseManager Uuid) : Change Uuid → Prop
  | .setRoleInheritance roleId parents =>
    (∃ made, db.setRoleInheritance roleId parents = .ok made) → db.wouldCycle roleId parents = false
  | _ => True

theorem setRoleInheritance_ok {roleId : Uuid} {parents : List Uuid} {made : DatabaseManager Uuid × Nat}
    (set : db.setRoleInheritance roleId parents = .ok made) :
    made.1.roleInheritance =
      (db.roleInheritance.filter fun row => row.1 ≠ roleId) ++ parents.map fun parent => (roleId, parent) := by
  unfold setRoleInheritance at set
  split at set
  · cases set
  · split at set
    · obtain rfl := Except.ok.inj set
      rfl
    · cases set

/-- Writes to the role tables leave the graph in memory to the reload. -/
theorem rbacGraph_perform (collation : Collation) (db : DatabaseManager Uuid) {change : Change Uuid}
    (other : ¬change.Republishes) :
    (db.perform collation change).1.rbacGraph = db.rbacGraph := by
  rcases perform_roles collation db change with ⟨edits, -⟩ | publishes | same
  · cases change with
    | createRole id name level =>
      simp only [perform, createRole]
      split
      · rfl
      · rfl
    | updateRole roleId level =>
      simp only [perform, updateRole]
      split
      · rfl
      · rfl
    | deleteRole roleId => rfl
    | setRolePermissions roleId keys =>
      simp only [perform, setRolePermissions]
      split
      · rfl
      · rfl
    | setRoleInheritance roleId parents =>
      simp only [perform, setRoleInheritance]
      split
      · rfl
      · split
        · rfl
        · rfl
    | assignUserRole | unassignUserRole | setUserPrimaryRole | updateUser | replacePrimaryUserEmail |
      deleteUser | mergeUsers
    | publishGraph => exact edits.elim
  · exact absurd publishes other
  · exact same.rbacGraph

/-- The relation stays without a cycle exactly under changes that their check would let through where they land. -/
theorem acyclic_perform_iff (acyclic : Worklist.Acyclic db.roleInheritance) (collation : Collation)
    (change : Change Uuid) :
    Worklist.Acyclic (db.perform collation change).1.roleInheritance ↔ db.Checked change := by
  have unchanged : ∀ {change : Change Uuid}, (db.perform collation change).1.roleInheritance = db.roleInheritance →
      (Worklist.Acyclic (db.perform collation change).1.roleInheritance ↔ True) := by
    intro change same
    rw [same]
    exact iff_true_intro acyclic
  have sameRoles := perform_roles collation db change
  cases change with
  | setRoleInheritance roleId parents =>
    simp only [Checked, perform]
    rcases set : db.setRoleInheritance roleId parents with e | made
    · refine iff_of_true acyclic ?_
      rintro ⟨made, some_⟩
      cases some_
    · have written : (db.settle (.ok made)).1.roleInheritance =
          (db.roleInheritance.filter fun row => row.1 ≠ roleId) ++ parents.map fun parent => (roleId, parent) :=
        setRoleInheritance_ok set
      rw [written, ← not_not (a := Worklist.Acyclic _), ← wouldCycle_iff, Bool.not_eq_true]
      exact ⟨fun free _ => free, fun checked => checked ⟨made, rfl⟩⟩
  | deleteRole roleId =>
    exact iff_of_true (acyclic.mono fun edge member => List.mem_of_mem_filter member) trivial
  | createRole id name level =>
    refine unchanged ?_
    simp only [perform, createRole]
    split
    · rfl
    · rfl
  | updateRole roleId level =>
    refine unchanged ?_
    simp only [perform, updateRole]
    split
    · rfl
    · rfl
  | setRolePermissions roleId keys =>
    refine unchanged ?_
    simp only [perform, setRolePermissions]
    split
    · rfl
    · rfl
  | publishGraph graph => exact unchanged rfl
  | assignUserRole | unassignUserRole | setUserPrimaryRole | updateUser | replacePrimaryUserEmail |
    deleteUser | mergeUsers =>
    rcases sameRoles with ⟨edits, -⟩ | ⟨graph, same⟩ | same
    · exact edits.elim
    · cases same
    · exact unchanged same.roleInheritance

end DatabaseManager

section Undisturbed
variable {Uuid : Type} [DecidableEq Uuid]

/-- Both states have the rows that the graph is made of. -/
def DatabaseManager.SameRows (t s : DatabaseManager Uuid) : Prop :=
  t.roles = s.roles ∧ t.rolePermissions = s.rolePermissions ∧ t.roleInheritance = s.roleInheritance

instance (t s : DatabaseManager Uuid) : Decidable (t.SameRows s) := inferInstanceAs (Decidable (_ ∧ _))

namespace Change
variable (change : Change Uuid) (trail : Routine.Trail (DatabaseManager Uuid) (Change Uuid))
    (s : DatabaseManager Uuid)

/-- Since an inheritance edit has read the edges for its check, nobody has committed others. -/
def EditUndisturbed : Prop :=
  match change with
  | .setRoleInheritance _ _ => ∀ t ∈ Routine.Trail.lastFound trail, t.roleInheritance = s.roleInheritance
  | _ => True

/-- The rows that a reload has found since its own commit are those there are as it publishes. -/
def ReloadUndisturbed : Prop :=
  match change with
  | .publishGraph _ => ∀ t ∈ Routine.Trail.foundSince trail, t.SameRows s
  | _ => True

instance : Decidable (change.EditUndisturbed trail s) := by
  cases change <;> first | exact inferInstanceAs (Decidable (∀ t ∈ _, _)) | exact .isTrue trivial

instance : Decidable (change.ReloadUndisturbed trail s) := by
  cases change <;> first | exact inferInstanceAs (Decidable (∀ t ∈ _, _)) | exact .isTrue trivial

/-- Undisturbed, an inheritance edit lands on rows on which its check would let it, and a graph is published that
is the rows'. -/
def BornOut : Prop :=
  (change.EditUndisturbed trail s → s.Checked change) ∧
    (change.ReloadUndisturbed trail s → ∀ graph, change = .publishGraph graph → graph = s.committedGraph)

variable {change trail s}

theorem bornOut_of_quiet (quiet : change.Quiet) : change.BornOut trail s := by
  cases change with
  | createRole | updateRole | deleteRole | setRolePermissions | setRoleInheritance | publishGraph => cases quiet
  | _ => exact ⟨fun _ => trivial, fun _ graph same => by cases same⟩

theorem bornOut_of_edit (edits : change.EditsRoles) (checked : change.EditUndisturbed trail s → s.Checked change) :
    change.BornOut trail s :=
  ⟨checked, fun _ graph same => by
    subst same
    exact edits.elim⟩

end Change

end Undisturbed

namespace Handler
variable {Uuid α β : Type} [DecidableEq Uuid]

/-- Each of a handler's changes is borne out where it lands. -/
abbrev Minds (trail : Routine.Trail (DatabaseManager Uuid) (Change Uuid)) (h : Handler Uuid α) : Prop :=
  ∀ collation, Routine.Minds (DatabaseManager.perform collation) (fun _ => True)
    (fun trail s change => change.BornOut trail s) trail h.run

/-- Once the handler has written role rows, its next write publishes the graph. -/
abbrev Repays (h : Handler Uuid α) : Prop :=
  Routine.Repays (fun change reply (_ : Unit) => change.Outdates reply) (fun _ change => change.Republishes) h.run

/-- It reloads the graph after its edits, and minds what it has read. -/
structure Reloads (h : Handler Uuid α) : Prop where
  repays : h.Repays
  minds : ∀ trail, h.Minds trail

theorem reloads_pure (a : α) : (pure a : Handler Uuid α).Reloads := ⟨trivial, fun _ _ => trivial⟩

theorem reloads_throw (e : ApiError) : (throw e : Handler Uuid α).Reloads := ⟨trivial, fun _ _ => trivial⟩

theorem reloads_read (f : DatabaseManager Uuid → α) : (read f).Reloads := ⟨fun _ => trivial, fun _ _ _ _ => trivial⟩

theorem reloads_require (ok : Bool) (error : ApiError) : (require ok error : Handler Uuid Unit).Reloads := by
  cases ok with
  | false => exact ⟨trivial, fun _ _ => trivial⟩
  | true => exact ⟨trivial, fun _ _ => trivial⟩

omit [DecidableEq Uuid] in
theorem repays_bind {h : Handler Uuid α} {f : α → Handler Uuid β} (first : Repays h) (rest : ∀ a, Repays (f a)) :
    Repays (h >>= f) := by
  refine Routine.Repays.bind first fun answer => ?_
  cases answer with
  | error e => trivial
  | ok a => exact rest a

theorem Reloads.bind {h : Handler Uuid α} {f : α → Handler Uuid β} (first : h.Reloads) (rest : ∀ a, (f a).Reloads) :
    (h >>= f).Reloads := by
  refine ⟨repays_bind first.repays fun a => (rest a).repays, fun trail collation => Routine.Minds.bind
    (first.minds trail collation) fun more answer => ?_⟩
  cases answer with
  | error e => trivial
  | ok a => exact (rest a).minds (trail ++ more) collation

theorem minds_require {trail : Routine.Trail (DatabaseManager Uuid) (Change Uuid)} {ok : Bool} {error : ApiError}
    {next : Unit → Handler Uuid α} (rest : ok = true → Minds trail (next ())) :
    Minds trail (require ok error >>= next) := by
  cases ok with
  | false => exact fun _ => trivial
  | true => exact rest rfl

theorem reloads_ofReply (reply : DbReply) : (ofReply reply : Handler Uuid Nat).Reloads := by
  cases reply with
  | rows n => exact ⟨trivial, fun _ _ => trivial⟩
  | failed e => exact ⟨trivial, fun _ _ => trivial⟩
  | unacknowledged codes => exact ⟨trivial, fun _ _ => trivial⟩

variable {change : Change Uuid}

theorem reloads_send (quiet : change.Quiet) : (send change).Reloads := by
  refine ⟨fun _ => ⟨trivial, fun _ outdates => ?_⟩, fun _ _ s _ => ⟨Change.bornOut_of_quiet quiet, trivial⟩⟩
  have edits := outdates.1
  cases change <;> first | exact edits.elim | exact quiet.elim

theorem reloads_write (quiet : change.Quiet) : (write change).Reloads :=
  (reloads_send quiet).bind reloads_ofReply

theorem reloads_reloadRbac : (reloadRbac : Handler Uuid Unit).Reloads := by
  refine ⟨fun _ _ _ reply => ⟨?_, fun _ outdates => outdates.1.elim⟩, ?_⟩
  · cases reply <;> trivial
  · intro trail collation first _ second _ third _ s _
    refine ⟨⟨fun _ => trivial, fun same graph published => ?_⟩, ?_⟩
    · simp only [Change.ReloadUndisturbed, Routine.Trail.foundSince_read] at same
      obtain ⟨roles, -, -⟩ := same first (by simp)
      obtain ⟨-, permissions, -⟩ := same second (by simp)
      obtain ⟨-, -, edges⟩ := same third (by simp)
      have read_ : CachedGraph.fromRows first.roles second.rolePermissions third.roleInheritance = graph :=
        Change.publishGraph.inj published
      rw [← read_, roles, permissions, edges]
      rfl
    · cases (s.perform collation _).2 <;> trivial

theorem minds_edit {trail : Routine.Trail (DatabaseManager Uuid) (Change Uuid)}
    (bornOut : ∀ s, change.BornOut trail s) : Minds trail (do let _ ← write change; reloadRbac) := by
  refine fun collation s _ => ⟨bornOut s, ?_⟩
  rcases (s.perform collation change).2 with n | codes | e
  · exact reloads_reloadRbac.minds _ collation
  · trivial
  · trivial

theorem repays_edit (change : Change Uuid) : Repays (do let _ ← write change; reloadRbac) := by
  intro reply
  cases reply with
  | rows n => exact ⟨reloads_reloadRbac.repays, fun _ _ _ _ _ => ⟨_, rfl⟩⟩
  | failed e =>
    refine ⟨trivial, fun _ outdates => ?_⟩
    obtain ⟨-, n, same⟩ := outdates
    cases same
  | unacknowledged codes =>
    refine ⟨trivial, fun _ outdates => ?_⟩
    obtain ⟨-, n, same⟩ := outdates
    cases same

theorem reloads_edit (edits : change.EditsRoles) (checked : ∀ s : DatabaseManager Uuid, s.Checked change) :
    (do let _ ← write change; reloadRbac).Reloads :=
  ⟨repays_edit change, fun _ => minds_edit fun s => Change.bornOut_of_edit edits fun _ => checked s⟩

theorem reloads_requireUser (userId : Uuid) (missing : String) : (requireUser userId missing).Reloads := by
  refine (reloads_read _).bind fun found => ?_
  cases found with
  | none => exact reloads_throw _
  | some user => exact reloads_pure user

theorem reloads_requireRole (roleId : Uuid) : (requireRole roleId).Reloads := by
  refine (reloads_read _).bind fun found => ?_
  cases found with
  | none => exact reloads_throw _
  | some role => exact reloads_pure role

theorem reloads_userHasPermission (userId : Uuid) (key : String) : (userHasPermission userId key).Reloads :=
  (reloads_read _).bind fun _ => (reloads_read _).bind fun _ => reloads_pure _

theorem reloads_userEffectiveLevel (userId : Uuid) : (userEffectiveLevel userId).Reloads :=
  (reloads_read _).bind fun _ => (reloads_read _).bind fun _ => reloads_pure _

theorem reloads_countActiveAdmins : (countActiveAdmins : Handler Uuid Nat).Reloads :=
  (reloads_read _).bind fun _ => (reloads_read _).bind fun _ => (reloads_read _).bind fun _ => reloads_pure _

theorem reloads_authUser (token : Claims Uuid) : (authUser token).Reloads :=
  (reloads_requireUser _ _).bind fun _ => (reloads_require _ _).bind fun _ =>
    (reloads_require _ _).bind fun _ => reloads_pure _

theorem reloads_adminUser (token : Claims Uuid) : (adminUser token).Reloads :=
  (reloads_authUser token).bind fun _ => (reloads_userHasPermission _ _).bind fun _ =>
    (reloads_require _ _).bind fun _ =>
    reloads_pure _

theorem reloads_lastAdminProtection (userId roleId : Uuid) : (lastAdminProtection userId roleId).Reloads := by
  refine (reloads_userHasPermission _ _).bind fun holds => ?_
  split
  · refine (reloads_read _).bind fun held => (reloads_read _).bind fun graph => ?_
    split
    · exact reloads_pure _
    · exact reloads_countActiveAdmins.bind fun _ => reloads_require _ _
  · exact reloads_pure _

theorem reloads_mergeParties (actor survivorId absorbedId : Uuid) :
    (mergeParties actor survivorId absorbedId).Reloads := by
  refine (reloads_require _ _).bind fun _ => (reloads_require _ _).bind fun _ => ?_
  refine (reloads_requireUser _ _).bind fun _ => (reloads_requireUser _ _).bind fun _ => ?_
  refine (reloads_userEffectiveLevel _).bind fun _ => (reloads_userEffectiveLevel _).bind fun _ => ?_
  refine (reloads_require _ _).bind fun _ => (reloads_userEffectiveLevel _).bind fun _ => ?_
  exact (reloads_require _ _).bind fun _ => reloads_pure _

theorem reloads_requireOwnOrManager (caller userId : Uuid) : (requireOwnOrManager caller userId).Reloads := by
  unfold requireOwnOrManager
  split
  · exact (reloads_userHasPermission _ _).bind fun _ => reloads_require _ _
  · exact reloads_pure _

theorem reloads_requireGrantable (caller : Uuid) (role : Option String) : (requireGrantable caller role).Reloads := by
  cases role with
  | none => exact reloads_pure _
  | some newRole =>
    refine (reloads_require _ _).bind fun _ => ?_
    split
    · exact (reloads_userHasPermission _ _).bind fun _ => reloads_require _ _
    · exact reloads_pure _

theorem reloads_requireBelow (caller userId : Uuid) : (requireBelow caller userId).Reloads := by
  unfold requireBelow
  split
  · exact (reloads_userEffectiveLevel _).bind fun _ => (reloads_userEffectiveLevel _).bind fun _ =>
      reloads_require _ _
  · exact reloads_pure _

variable (platform : Platform)

theorem reloads_requireCurrentPassword (caller userId : Uuid) (existing : UserRow) (payload : UpdateUserRequest) :
    (requireCurrentPassword platform caller userId existing payload).Reloads := by
  unfold requireCurrentPassword
  split
  · exact reloads_require _ _
  · exact reloads_pure _

theorem reloads_hashNewPassword (password : Option String) (salt : String) :
    (hashNewPassword platform password salt : Handler Uuid _).Reloads := by
  cases password with
  | none => exact reloads_pure _
  | some newPassword =>
    refine (reloads_require _ _).bind fun _ => ?_
    cases platform.hash newPassword salt with
    | none => exact reloads_throw _
    | some hashed => exact reloads_pure _

theorem reloads_requireFreeEmail (newPrimary : Option String) :
    (requireFreeEmail platform newPrimary : Handler Uuid Unit).Reloads := by
  cases newPrimary with
  | none => exact reloads_pure _
  | some email => exact (reloads_require _ _).bind fun _ => (reloads_read _).bind fun _ => reloads_require _ _

theorem reloads_requireFreeUsername (existing : UserRow) (username : Option String) :
    (requireFreeUsername existing username : Handler Uuid Unit).Reloads := by
  cases username with
  | none => exact reloads_pure _
  | some name =>
    unfold requireFreeUsername
    dsimp only
    split
    · exact (reloads_require _ _).bind fun _ => (reloads_read _).bind fun _ => reloads_require _ _
    · exact reloads_pure _

theorem reloads_replacePrimaryEmail (userId : Uuid) (newPrimary : Option String) (now : Int) :
    (replacePrimaryEmail userId newPrimary now).Reloads := by
  cases newPrimary with
  | none => exact reloads_pure _
  | some email =>
    refine (reloads_send (by trivial)).bind fun reply => ?_
    split
    · exact reloads_throw _
    · exact (reloads_ofReply _).bind fun _ => (reloads_requireUser _ _).bind fun _ => reloads_pure _

theorem reloads_applyRequestedRole (userId : Uuid) (role : Option String) :
    (applyRequestedRole userId role).Reloads := by
  cases role with
  | none => exact reloads_pure _
  | some newRole => exact (reloads_write (by trivial)).bind fun _ => reloads_pure _

theorem reloads_updateUser (token : Claims Uuid) (userId : Uuid) (payload : UpdateUserRequest) (salt : String)
    (now : Int) : (updateUser platform token userId payload salt now).Reloads := by
  refine (reloads_authUser _).bind fun _ => (reloads_requireOwnOrManager _ _).bind fun _ => ?_
  refine Reloads.bind ((reloads_userHasPermission _ _).bind fun _ => reloads_require _ _) fun _ => ?_
  refine (reloads_requireGrantable _ _).bind fun _ => (reloads_requireUser _ _).bind fun existing => ?_
  refine (reloads_requireBelow _ _).bind fun _ => (reloads_requireCurrentPassword _ _ _ _ _).bind fun _ => ?_
  refine (reloads_hashNewPassword _ _ _).bind fun _ => (reloads_requireFreeEmail _ _).bind fun _ => ?_
  refine (reloads_requireFreeUsername _ _).bind fun _ => (reloads_write (by trivial)).bind fun _ => ?_
  exact (reloads_replacePrimaryEmail _ _ _).bind fun _ => reloads_applyRequestedRole _ _

theorem reloads_isLastAdmin (userId : Uuid) : (isLastAdmin userId).Reloads := by
  refine (reloads_userHasPermission _ _).bind fun holds => ?_
  split
  · exact reloads_countActiveAdmins.bind fun _ => reloads_pure _
  · exact reloads_pure _

theorem reloads_applyRole (userId : Uuid) (entitled : Bool) : (applyRole platform userId entitled).Reloads := by
  refine (reloads_read _).bind fun graph => (reloads_userEffectiveLevel _).bind fun _ =>
    (reloads_isLastAdmin _).bind fun last => ?_
  split
  · exact reloads_pure _
  · exact (reloads_write (by trivial)).bind fun _ => reloads_pure _

variable [IdText Uuid] [LE Uuid] [DecidableLE Uuid]

theorem reloads_setRoleInheritance (token : Claims Uuid) (roleId : Uuid) (inherits : List Uuid) :
    (setRoleInheritance token roleId inherits).Reloads := by
  refine (reloads_adminUser _).bind fun _ => (reloads_read _).bind fun roles =>
    ⟨fun t => ?_, fun trail collation t _ => ?_⟩
  · refine repays_bind (reloads_require _ _).repays fun _ => repays_bind (reloads_require _ _).repays fun _ => ?_
    dsimp only
    split
    · trivial
    · exact repays_bind (reloads_require _ _).repays fun _ => repays_edit _
  · refine minds_require (fun _ => minds_require fun _ => ?_) collation
    dsimp only
    split
    · exact fun _ => trivial
    · refine minds_require fun free => minds_edit fun s => Change.bornOut_of_edit trivial fun same _ => ?_
      -- the edges that the check has gone through are those the edit lands on
      have edges : t.roleInheritance = s.roleInheritance := same t (Routine.Trail.lastFound_read t)
      rw [Bool.not_eq_true', ← Bool.not_eq_true, DatabaseManager.cycles_iff, edges] at free
      rw [← Bool.not_eq_true, DatabaseManager.wouldCycle_iff]
      exact free

/-- Every request whose edit goes through reloads the graph before it is answered. -/
theorem reloads_handler (request : AdminRequest Uuid) : (request.handler platform).Reloads := by
  cases request with
  | assignUserRole token userId roleId =>
    exact (reloads_adminUser _).bind fun _ => (reloads_requireUser _ _).bind fun _ =>
      (reloads_requireRole _).bind fun _ =>
      (reloads_write (by trivial)).bind fun _ => reloads_pure _
  | unassignUserRole token userId roleId =>
    exact (reloads_adminUser _).bind fun _ => (reloads_lastAdminProtection _ _).bind fun _ =>
      (reloads_write (by trivial)).bind fun _ =>
      reloads_require _ _
  | updateUserRole token userId role =>
    exact (reloads_adminUser _).bind fun _ => (reloads_requireUser _ _).bind fun _ =>
      (reloads_require _ _).bind fun _ =>
      (reloads_write (by trivial)).bind fun _ => reloads_pure _
  | activateUser token userId =>
    exact (reloads_adminUser _).bind fun _ => (reloads_requireUser _ _).bind fun _ =>
      (reloads_write (by trivial)).bind fun _ =>
      reloads_pure _
  | deactivateUser token userId =>
    exact (reloads_adminUser _).bind fun _ => (reloads_requireUser _ _).bind fun _ =>
      (reloads_write (by trivial)).bind fun _ =>
      reloads_pure _
  | deleteUser token userId =>
    exact (reloads_adminUser _).bind fun _ => (reloads_require _ _).bind fun _ =>
      (reloads_requireUser _ _).bind fun _ =>
      (reloads_write (by trivial)).bind fun _ => reloads_pure _
  | updateUser token userId payload salt now => exact reloads_updateUser platform token userId payload salt now
  | mergeUsers token survivorId absorbedId acknowledged elsewhere =>
    exact (reloads_adminUser _).bind fun _ => (reloads_mergeParties _ _ _).bind fun _ =>
      (reloads_read _).bind fun _ =>
      (reloads_write (by trivial)).bind fun _ => reloads_pure _
  | createRole token id name level =>
    exact (reloads_adminUser _).bind fun _ => (reloads_require _ _).bind fun _ => (reloads_require _ _).bind fun _ =>
      reloads_edit trivial fun _ => trivial
  | updateRole token roleId level =>
    exact (reloads_adminUser _).bind fun _ => (reloads_requireRole _).bind fun _ =>
      (reloads_require _ _).bind fun _ =>
      (reloads_require _ _).bind fun _ => reloads_edit trivial fun _ => trivial
  | deleteRole token roleId =>
    exact (reloads_adminUser _).bind fun _ => (reloads_requireRole _).bind fun _ =>
      (reloads_require _ _).bind fun _ =>
      reloads_edit trivial fun _ => trivial
  | setRolePermissions token roleId permissions =>
    refine (reloads_adminUser _).bind fun _ => (reloads_requireRole _).bind fun _ =>
      (reloads_read _).bind fun catalog => ?_
    dsimp only
    split
    · exact reloads_throw _
    · exact reloads_edit trivial fun _ => trivial
  | setRoleInheritance token roleId inherits => exact reloads_setRoleInheritance token roleId inherits
  | applyRole userId entitled => exact reloads_applyRole platform userId entitled

end Handler

section Runs
variable {Uuid : Type} [DecidableEq Uuid] [IdText Uuid] [LE Uuid] [DecidableLE Uuid] (platform : Platform)
  (start : DatabaseManager Uuid)

abbrev AdminEvent (Uuid : Type) := Service.Event (AdminRequest Uuid)

abbrev AdminPool (Uuid : Type) :=
  Service.Pool (DatabaseManager Uuid) (Change Uuid) DbReply (Except ApiError Unit) (AdminRequest Uuid)

def adminPool (past : List (AdminEvent Uuid)) : AdminPool Uuid := ((adminService platform).machine start).run past

/-- The changes of the run, each with the rows it landed on. -/
def adminLog (past : List (AdminEvent Uuid)) : List (Nat × DatabaseManager Uuid × Change Uuid) :=
  ((adminService platform).machine start).history (adminService platform).landing past

/-- Every request has been answered. -/
def AllReturned (pool : AdminPool Uuid) : Prop := ∀ task ∈ pool.tasks, task.2.answered.isSome = true

instance (pool : AdminPool Uuid) : Decidable (AllReturned pool) :=
  inferInstanceAs (Decidable (∀ task ∈ pool.tasks, _ = true))

omit [DecidableEq Uuid] [IdText Uuid] [LE Uuid] [DecidableLE Uuid] in
/-- The graph published last, with the database it was published over. -/
def lastPublication (log : List (Nat × DatabaseManager Uuid × Change Uuid)) :
    Option (DatabaseManager Uuid × CachedGraph Uuid) :=
  log.foldl (fun last entry =>
    match entry.2.2 with
    | .publishGraph graph => some (entry.2.1, graph)
    | _ => last) none

/-- What the last reload to publish had read is what is committed when it publishes. -/
def LastReloadCurrent (log : List (Nat × DatabaseManager Uuid × Change Uuid)) : Prop :=
  ∀ db graph, lastPublication log = some (db, graph) → graph = db.committedGraph

/-- Every inheritance edit of the step lands on rows on which its check would let it through. -/
def InheritanceChecked (past : List (AdminEvent Uuid)) (event : AdminEvent Uuid) : Prop :=
  ∀ entry ∈ (adminService platform).landing (adminPool platform start past) event, entry.2.1.Checked entry.2.2

/-- No other commits edges between what an inheritance edit checks and its own commit. -/
abbrev EditInTurn (past : List (AdminEvent Uuid)) (event : AdminEvent Uuid) : Prop :=
  (adminService platform).InTurn (fun _ trail s change => change.EditUndisturbed trail s) start past event

/-- No other commits rows of the graph between what a reload reads and its publication. -/
abbrev ReloadInTurn (past : List (AdminEvent Uuid)) (event : AdminEvent Uuid) : Prop :=
  (adminService platform).InTurn (fun _ trail s change => change.ReloadUndisturbed trail s) start past event

def PublishesNone (past later : List (AdminEvent Uuid)) : Prop :=
  EveryStep (fun middle event =>
    ∀ entry ∈ (adminService platform).landing (adminPool platform start (past ++ middle)) event,
    ¬entry.2.2.Republishes) later

/-- The last reload to publish is in turn. -/
def LastReloadInTurn (schedule : List (AdminEvent Uuid)) : Prop :=
  ∀ past event later, schedule = past ++ event :: later → PublishesNone platform start (past ++ [event]) later →
    ReloadInTurn platform start past event

/-- The graph in memory is the one last published, and the rows are those it was published over
or a reload is under way. -/
def Caching (past : List (AdminEvent Uuid)) (pool : AdminPool Uuid) : Prop :=
  ∃ base graph,
    ((lastPublication (adminLog platform start past) = none ∧ base = start ∧ graph = start.rbacGraph) ∨
      lastPublication (adminLog platform start past) = some (base, graph)) ∧
    pool.state.rbacGraph = graph ∧
    Service.Repaid (fun change reply (_ : Unit) => change.Outdates reply) (fun _ change => change.Republishes)
      (fun _ db => db.committedGraph = base.committedGraph) pool

variable {platform start}

omit [DecidableEq Uuid] [IdText Uuid] [LE Uuid] [DecidableLE Uuid] in
theorem lastPublication_snoc_other {log : List (Nat × DatabaseManager Uuid × Change Uuid)} {index : Nat}
    {db : DatabaseManager Uuid} {change : Change Uuid} (other : ¬change.Republishes) :
    lastPublication (log ++ [(index, db, change)]) = lastPublication log := by
  rw [lastPublication, List.foldl_append]
  cases change with
  | publishGraph graph => exact absurd ⟨graph, rfl⟩ other
  | assignUserRole | unassignUserRole | setUserPrimaryRole | updateUser | replacePrimaryUserEmail |
    deleteUser | mergeUsers
  | createRole | updateRole | deleteRole | setRolePermissions | setRoleInheritance => rfl

omit [DecidableEq Uuid] [IdText Uuid] [LE Uuid] [DecidableLE Uuid] in
theorem lastPublication_snoc_publish (log : List (Nat × DatabaseManager Uuid × Change Uuid)) (index : Nat)
    (db : DatabaseManager Uuid) (graph : CachedGraph Uuid) :
    lastPublication (log ++ [(index, db, .publishGraph graph)]) = some (db, graph) := by
  rw [lastPublication, List.foldl_append]
  rfl

omit [IdText Uuid] [LE Uuid] [DecidableLE Uuid] in
theorem committedGraph_kept (s base : DatabaseManager Uuid) (change : Change Uuid) (silent : ¬change.Republishes)
    (settled : ¬change.Outdates (s.perform platform.toCollation change).2)
    (same : s.committedGraph = base.committedGraph) :
    (s.perform platform.toCollation change).1.committedGraph = base.committedGraph := by
  rcases DatabaseManager.perform_roles platform.toCollation s change with outdates | publishes | kept
  · exact absurd outdates settled
  · exact absurd publishes silent
  · rw [kept.committedGraph, same]

theorem Caching.step {past : List (AdminEvent Uuid)}
    (caching : Caching platform start past (adminPool platform start past))
    (event : AdminEvent Uuid) :
    Caching platform start (past ++ [event])
      ((adminService platform).step (adminPool platform start past) event).1 := by
  have log : adminLog platform start (past ++ [event]) =
      adminLog platform start past ++ (adminService platform).landing (adminPool platform start past) event :=
    Machine.history_snoc ..
  obtain ⟨base, graph, last, cached, repaid⟩ := caching
  have serves : ∀ request, ((adminService platform).serve request).Repays
      (fun (change : Change Uuid) reply (_ : Unit) => change.Outdates reply) fun _ change => change.Republishes :=
    fun request => (Handler.reloads_handler platform request).repays
  rcases (adminService platform).landing_cases (adminPool platform start past) event with
    ⟨silent, same⟩ | ⟨index, change, landed, made, -⟩
  · rw [silent, List.append_nil] at log
    refine ⟨base, graph, log ▸ last, same ▸ cached, ?_⟩
    refine repaid.step serves (fun s change _ => committedGraph_kept s base change) event fun entry member => ?_
    rw [silent] at member
    cases member
  · rw [landed] at log
    by_cases publishes : change.Republishes
    · -- from here on the rows are to be those found at this publication
      obtain ⟨published, rfl⟩ := publishes
      have state : ((adminService platform).step (adminPool platform start past) event).1.state =
          { (adminPool platform start past).state with rbacGraph := published } := made
      have underWay : Service.Repaid (fun change reply (_ : Unit) => change.Outdates reply)
        (fun _ change => change.Republishes)
          (fun _ _ => True) (adminPool platform start past) := ⟨repaid.tasks, fun _ => .inl trivial⟩
      have next := underWay.step serves (fun _ _ _ _ _ _ => trivial) event fun _ _ _ _ => trivial
      refine ⟨(adminPool platform start past).state, published, .inr ?_, ?_, next.tasks, fun _ => .inl ?_⟩
      · rw [log]
        exact lastPublication_snoc_publish ..
      · rw [state]
      · rw [state]
        rfl
    · refine ⟨base, graph, ?_, ?_, ?_⟩
      · rw [log, lastPublication_snoc_other publishes]
        exact last
      · rw [made]
        exact (DatabaseManager.rbacGraph_perform _ _ publishes).trans cached
      · refine repaid.step serves (fun s change _ => committedGraph_kept s base change) event fun entry member => ?_
        rw [landed, List.mem_singleton] at member
        subst member
        exact fun _ due => absurd due publishes

variable (platform start) in
theorem caching_run (past : List (AdminEvent Uuid)) :
    Caching platform start past (adminPool platform start past) := by
  refine Machine.run_invariant ((adminService platform).machine start)
    (fun past pool => Caching platform start past pool) ?_ ?_ past
  · refine ⟨start, start.rbacGraph, .inl ⟨rfl, rfl, rfl⟩, rfl, fun task member => ?_, fun _ => .inl rfl⟩
    cases member
  · exact fun past event caching => caching.step event

theorem adminLog_snoc (past : List (AdminEvent Uuid)) (event : AdminEvent Uuid) :
    adminLog platform start (past ++ [event]) =
      adminLog platform start past ++ (adminService platform).landing (adminPool platform start past) event :=
  Machine.history_snoc ..

/-- What was published last, a step has published, and none after it. -/
theorem exists_last_publication {schedule : List (AdminEvent Uuid)} {db : DatabaseManager Uuid}
    {graph : CachedGraph Uuid}
    (last : lastPublication (adminLog platform start schedule) = some (db, graph)) :
    ∃ past event later index, schedule = past ++ event :: later ∧
      PublishesNone platform start (past ++ [event]) later ∧
      (index, db, .publishGraph graph) ∈ (adminService platform).landing (adminPool platform start past) event := by
  induction schedule using List.reverseRecOn with
  | nil => cases last
  | append_singleton front event ih =>
    have before : lastPublication (adminLog platform start front) = some (db, graph) →
        (∀ entry ∈ (adminService platform).landing (adminPool platform start front) event, ¬entry.2.2.Republishes) →
        ∃ past event' later index, front ++ [event] = past ++ event' :: later ∧
          PublishesNone platform start (past ++ [event']) later ∧
            (index, db, .publishGraph graph) ∈ (adminService platform).landing
              (adminPool platform start past) event' := by
      intro earlier silent
      obtain ⟨past, event', later, index, rfl, none_, landed⟩ := ih earlier
      refine ⟨past, event', later ++ [event], index, by simp, EveryStep.snoc_iff.mpr ⟨none_, ?_⟩, landed⟩
      rw [List.append_assoc, List.singleton_append]
      exact silent
    rw [adminLog_snoc] at last
    rcases (adminService platform).landing_cases (adminPool platform start front) event with
      ⟨silent, -⟩ | ⟨index, change, landed, -⟩
    · rw [silent, List.append_nil] at last
      refine before last fun entry member => ?_
      rw [silent] at member
      cases member
    · rw [landed] at last
      by_cases publishes : change.Republishes
      · obtain ⟨published, rfl⟩ := publishes
        rw [lastPublication_snoc_publish] at last
        obtain ⟨rfl, rfl⟩ := Prod.mk.inj (Option.some.inj last)
        refine ⟨front, event, [], index, rfl, EveryStep.nil, ?_⟩
        rw [landed]
        exact List.mem_singleton_self _
      · rw [lastPublication_snoc_other publishes] at last
        refine before last fun entry member => ?_
        rw [landed, List.mem_singleton] at member
        subst member
        exact publishes

/-- Once all have returned, the graph served is that of the committed rows exactly when what the last reload to
publish had read was still committed as it published. -/
theorem served_iff_lastReloadCurrent (right : start.rbacGraph = start.committedGraph)
    {schedule : List (AdminEvent Uuid)}
    (returned : AllReturned (adminPool platform start schedule)) :
    (adminPool platform start schedule).state.rbacGraph = (adminPool platform start schedule).state.committedGraph ↔
      LastReloadCurrent (adminLog platform start schedule) := by
  obtain ⟨base, graph, last, cached, repaid⟩ := caching_run platform start schedule
  have rows := repaid.at_rest returned ()
  rw [cached, rows]
  rcases last with ⟨none_, rfl, rfl⟩ | some_
  · refine iff_of_true right fun db graph some_ => ?_
    rw [none_] at some_
    cases some_
  · constructor
    · rintro current db published found
      rw [some_] at found
      obtain ⟨rfl, rfl⟩ := Prod.mk.inj (Option.some.inj found)
      exact current
    · exact fun current => current base graph some_

theorem acyclic_iff_checked (acyclic : Worklist.Acyclic start.roleInheritance) (schedule : List (AdminEvent Uuid)) :
    (∀ past, past <+: schedule → Worklist.Acyclic (adminPool platform start past).state.roleInheritance) ↔
      EveryStep (InheritanceChecked platform start) schedule := by
  refine Machine.run_always_iff ((adminService platform).machine start)
    (fun pool => Worklist.Acyclic pool.state.roleInheritance)
    (fun pool event => ∀ entry ∈ (adminService platform).landing pool event, entry.2.1.Checked entry.2.2)
      acyclic ?_ schedule
  intro past event here
  generalize ((adminService platform).machine start).run past = pool at here
  show Worklist.Acyclic ((adminService platform).step pool event).1.state.roleInheritance ↔ _
  rcases (adminService platform).landing_cases pool event with ⟨silent, same⟩ | ⟨index, change, landed, made, -⟩
  · rw [silent, same]
    exact iff_of_true here fun entry member => by cases member
  · have written : ((adminService platform).step pool event).1.state =
      (pool.state.perform platform.toCollation change).1 := made
    rw [landed, written, DatabaseManager.acyclic_perform_iff here]
    simp only [List.mem_singleton, forall_eq]

/-- Once all have returned, the graph served is that of the committed rows if no other's commit falls between what the
last reload to publish reads and its publication; and no cycle is ever committed if none falls between an inheritance
edit's check and its own commit. -/
theorem cached_graph_committed (platform : Platform) (start : DatabaseManager Uuid)
    (right : start.rbacGraph = start.committedGraph) (acyclic : Worklist.Acyclic start.roleInheritance)
    (schedule : List (AdminEvent Uuid)) :
    (AllReturned (adminPool platform start schedule) → LastReloadInTurn platform start schedule →
      (adminPool platform start schedule).state.rbacGraph =
        (adminPool platform start schedule).state.committedGraph) ∧
      (EveryStep (EditInTurn platform start) schedule →
        ∀ past, past <+: schedule → Worklist.Acyclic (adminPool platform start past).state.roleInheritance) := by
  have minds := fun request : AdminRequest Uuid =>
    (Handler.reloads_handler platform request).minds [] platform.toCollation
  constructor
  · intro returned lastInTurn
    refine (served_iff_lastReloadCurrent right returned).mpr fun db graph last => ?_
    obtain ⟨past, event, later, index, rfl, none_, landed⟩ := exists_last_publication last
    obtain ⟨performed, made, state, change⟩ := Service.performed_of_landing landed
    have current := Service.good_of_inTurn_step (fun _ s change =>
      ∀ graph, change = .publishGraph graph → graph = DatabaseManager.committedGraph s) (fun _ _ => trivial)
      (fun request => (minds request).weaken fun _ _ _ bornOut => bornOut.2)
        (lastInTurn past event later rfl none_) made
    exact (current graph change).trans (congrArg DatabaseManager.committedGraph state)
  · intro inTurn
    refine (acyclic_iff_checked acyclic schedule).mpr fun past event later split entry landed => ?_
    obtain ⟨performed, made, state, change⟩ := Service.performed_of_landing landed
    have checked := Service.good_of_inTurn (fun _ s change => DatabaseManager.Checked s change) (fun _ _ => trivial)
      (fun request => (minds request).weaken fun _ _ _ bornOut => bornOut.1) inTurn past event later split
        performed made
    exact state ▸ change ▸ checked

end Runs

def laserRole : Role HexId := ⟨.repeating 3, "laser", false, 2⟩

def woodRole : Role HexId := ⟨.repeating 4, "wood", false, 2⟩

/-- A space with an administrator and two roles of its own. -/
def twoRoles : DatabaseManager HexId :=
  { oneAdmin with
    roles := [adminRole, laserRole, woodRole]
    permissions := ["admin.access", "tools.manage", "users.manage"]
    rbacGraph := .fromRows [adminRole, laserRole, woodRole] [(adminRole.id, "admin.access")] [] }

/-- Two edits of permissions: one after the other, and the second from its start to its end before the first
publishes. -/
def grantsInTurn : List (AdminEvent HexId) :=
  [.arrive (.setRolePermissions ⟨ada, 0⟩ laserRole.id ["tools.manage"])] ++ List.replicate 10 (.step 0) ++
    [.arrive (.setRolePermissions ⟨ada, 0⟩ woodRole.id ["users.manage"])] ++ List.replicate 10 (.step 1)

def grantsAcross : List (AdminEvent HexId) :=
  [.arrive (.setRolePermissions ⟨ada, 0⟩ laserRole.id ["tools.manage"]),
    .arrive (.setRolePermissions ⟨ada, 0⟩ woodRole.id ["users.manage"])] ++
    List.replicate 9 (.step 0) ++ List.replicate 10 (.step 1) ++ [.step 0]

/-- Each of two roles is made to inherit the other, and both are checked before either is written. -/
def inheritanceAcross : List (AdminEvent HexId) :=
  [.arrive (.setRoleInheritance ⟨ada, 0⟩ laserRole.id [woodRole.id]),
    .arrive (.setRoleInheritance ⟨ada, 0⟩ woodRole.id [laserRole.id])] ++
    List.replicate 5 (.step 0) ++ List.replicate 5 (.step 1) ++ List.replicate 5 (.step 0) ++
      List.replicate 5 (.step 1)

theorem cached_graph_committed_in_turn :
    (adminPool plainPlatform twoRoles grantsInTurn).state.rbacGraph =
        (adminPool plainPlatform twoRoles grantsInTurn).state.committedGraph ∧
      ∀ past, past <+: grantsInTurn →
        Worklist.Acyclic (adminPool plainPlatform twoRoles past).state.roleInheritance := by
  have noEdges : Worklist.Acyclic twoRoles.roleInheritance := by
    intro node round
    obtain ⟨next, edge, -⟩ := Relation.TransGen.head'_iff.mp round
    cases edge
  have reloads : EveryStep (ReloadInTurn plainPlatform twoRoles) grantsInTurn :=
    EveryStep.of_getElem (by decide +kernel)
  have edits : EveryStep (EditInTurn plainPlatform twoRoles) grantsInTurn := EveryStep.of_getElem (by decide +kernel)
  have committed := cached_graph_committed plainPlatform twoRoles rfl noEdges grantsInTurn
  exact ⟨committed.1 (by decide +kernel) fun past event later split _ => reloads past event later split,
    committed.2 edits⟩

/-- All have returned: in the first run the graph served grants less than the rows, in the second a cycle is
committed. -/
theorem graph_and_rows_part :
    twoRoles.rbacGraph = twoRoles.committedGraph ∧ twoRoles.roleInheritance = [] ∧
      AllReturned (adminPool plainPlatform twoRoles grantsAcross) ∧
      (adminPool plainPlatform twoRoles grantsAcross).state.rbacGraph.hasPermission
        [woodRole.id] "users.manage" = false ∧
          (adminPool plainPlatform twoRoles grantsAcross).state.committedGraph.hasPermission
          [woodRole.id] "users.manage" = true ∧
      (adminPool plainPlatform twoRoles grantsAcross).state.rbacGraph ≠
        (adminPool plainPlatform twoRoles grantsAcross).state.committedGraph ∧
      AllReturned (adminPool plainPlatform twoRoles inheritanceAcross) ∧
      ¬Worklist.Acyclic (adminPool plainPlatform twoRoles inheritanceAcross).state.roleInheritance := by
  have served : (adminPool plainPlatform twoRoles grantsAcross).state.rbacGraph.hasPermission
      [woodRole.id] "users.manage" = false := by
    decide +kernel
  have committed :
      (adminPool plainPlatform twoRoles grantsAcross).state.committedGraph.hasPermission
        [woodRole.id] "users.manage" = true := by
    decide +kernel
  refine ⟨rfl, rfl, by decide +kernel, served, committed, fun same => ?_, by decide +kernel, fun acyclic => ?_⟩
  · rw [same, committed] at served
    cases served
  · have edges : (adminPool plainPlatform twoRoles inheritanceAcross).state.roleInheritance =
        [(laserRole.id, woodRole.id), (woodRole.id, laserRole.id)] := by decide +kernel
    rw [edges] at acyclic
    have there : (laserRole.id, woodRole.id) ∈ [(laserRole.id, woodRole.id), (woodRole.id, laserRole.id)] :=
      List.mem_cons_self ..
    have back : (woodRole.id, laserRole.id) ∈ [(laserRole.id, woodRole.id), (woodRole.id, laserRole.id)] :=
      List.mem_cons_of_mem _ (List.mem_singleton_self _)
    exact acyclic laserRole.id (.tail (.single there) back)

end CoopSpaces

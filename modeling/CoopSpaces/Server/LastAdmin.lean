import CoopSpaces.Server.UserAdmin

namespace CoopSpaces
namespace DatabaseManager
variable {Uuid : Type} [DecidableEq Uuid]

/-- The account is there and not deactivated. -/
def IsActive (db : DatabaseManager Uuid) (userId : Uuid) : Prop := ((db.findUserById userId).any (·.isActive)) = true

/-- What the server's gates ask, of the graph in memory. -/
def GrantsAdmin (db : DatabaseManager Uuid) (roles : List Uuid) : Prop :=
  db.rbacGraph.hasPermission roles "admin.access" = true

def IsAdmin (db : DatabaseManager Uuid) (userId : Uuid) : Prop :=
  db.IsActive userId ∧ db.GrantsAdmin (db.userRoleIds userId)

def HasAdmin (db : DatabaseManager Uuid) : Prop := ∃ userId, db.IsAdmin userId

def OtherAdmin (db : DatabaseManager Uuid) (userId : Uuid) : Prop := ∃ other, other ≠ userId ∧ db.IsAdmin other

instance (db : DatabaseManager Uuid) (userId : Uuid) : Decidable (db.IsActive userId) :=
  inferInstanceAs (Decidable (_ = _))

instance (db : DatabaseManager Uuid) (roles : List Uuid) : Decidable (db.GrantsAdmin roles) :=
  inferInstanceAs (Decidable (_ = _))

instance (db : DatabaseManager Uuid) (userId : Uuid) : Decidable (db.IsAdmin userId) :=
  inferInstanceAs (Decidable (_ ∧ _))

/-- Another account has the username this one is to get, and the row cannot be written. -/
def NameTaken (db : DatabaseManager Uuid) (userId : Uuid) (updates : UpdateUser) : Prop :=
  ∃ other taken, other ≠ userId ∧ db.findUserById other = some taken ∧ updates.username = some taken.username

/-- A change that cannot take the last admin away: it touches no account, role or graph in the way
to one, or there is another admin than the account it touches, or that one keeps what makes it one. -/
def Spares (db : DatabaseManager Uuid) : Change Uuid → Prop
  | .unassignUserRole userId roleId =>
    db.OtherAdmin userId ∨
      (db.IsActive userId ∧ db.GrantsAdmin ((db.userRoleIds userId).filter fun role => role ≠ roleId))
  | .setUserPrimaryRole userId roleName =>
    db.OtherAdmin userId ∨ (db.IsActive userId ∧ db.GrantsAdmin (db.rolesUnderTier userId roleName))
  | .updateUser userId updates =>
    updates.isActive ≠ some false ∨ db.OtherAdmin userId ∨ db.NameTaken userId updates
  | .deleteUser userId => db.OtherAdmin userId
  | .mergeUsers merge =>
    (db.mergeWarningCodes merge).toFinset ≠ merge.acknowledged.toFinset ∨ db.findUserById merge.survivor = none ∨
      (∃ other, other ≠ merge.survivor ∧ other ≠ merge.absorbed ∧ db.IsAdmin other) ∨
      (merge.survivor ≠ merge.absorbed ∧ db.IsActive merge.survivor ∧
        db.GrantsAdmin (db.userRoleIds merge.survivor ++ db.userRoleIds merge.absorbed))
  | .deleteRole roleId =>
    ∃ userId, db.IsActive userId ∧ db.GrantsAdmin ((db.userRoleIds userId).filter fun role => role ≠ roleId)
  | .publishGraph graph =>
    ∃ userId, db.IsActive userId ∧ graph.hasPermission (db.userRoleIds userId) "admin.access" = true
  | .assignUserRole _ _ => True
  | .replacePrimaryUserEmail _ _ _ _ => True
  | .createRole _ _ _ => True
  | .updateRole _ _ => True
  | .setRolePermissions _ _ => True
  | .setRoleInheritance _ _ => True

variable {db after : DatabaseManager Uuid} {userId roleId : Uuid}

theorem grantsAdmin_congr {roles others : List Uuid} (same : ∀ role, role ∈ roles ↔ role ∈ others) :
    db.GrantsAdmin roles ↔ db.GrantsAdmin others := by
  rw [GrantsAdmin, GrantsAdmin, PermissionGraph.hasPermission_congr same]

theorem isAdmin_congr (row : after.IsActive userId ↔ db.IsActive userId)
    (roles : ∀ role, (userId, role) ∈ after.userRoles ↔ (userId, role) ∈ db.userRoles)
    (graph : after.rbacGraph = db.rbacGraph) : after.IsAdmin userId ↔ db.IsAdmin userId := by
  have held : ∀ role, role ∈ after.userRoleIds userId ↔ role ∈ db.userRoleIds userId := by
    intro role
    rw [mem_userRoleIds, mem_userRoleIds]
    exact roles role
  have grants : after.GrantsAdmin (after.userRoleIds userId) ↔ db.GrantsAdmin (db.userRoleIds userId) := by
    rw [grantsAdmin_congr held, GrantsAdmin, GrantsAdmin, graph]
  rw [IsAdmin, IsAdmin, row, grants]

theorem hasAdmin_iff_of_others (others : ∀ other, other ≠ userId → (after.IsAdmin other ↔ db.IsAdmin other)) :
    after.HasAdmin ↔ db.OtherAdmin userId ∨ after.IsAdmin userId := by
  constructor
  · rintro ⟨one, isAdmin⟩
    by_cases same : one = userId
    · exact .inr (same ▸ isAdmin)
    · exact .inl ⟨one, same, (others one same).mp isAdmin⟩
  · rintro (⟨other, different, isAdmin⟩ | isAdmin)
    · exact ⟨other, (others other different).mpr isAdmin⟩
    · exact ⟨userId, isAdmin⟩

theorem HasAdmin.other_or (held : db.HasAdmin) (userId : Uuid) : db.OtherAdmin userId ∨ db.IsAdmin userId :=
  (hasAdmin_iff_of_others fun _ _ => Iff.rfl).mp held

theorem isActive_insert {row : UserRow} {other : Uuid} {db : DatabaseManager Uuid} :
    IsActive { db with users := db.users.insert userId row } other ↔
      if other = userId then row.isActive = true else db.IsActive other := by
  by_cases same : other = userId
  · subst same
    simp only [IsActive, findUserById, AList.lookup_insert, Option.any_some, if_true]
  · simp only [IsActive, findUserById, AList.lookup_insert_ne same, if_neg same]

theorem isActive_erase (db : DatabaseManager Uuid) (userId other : Uuid) :
    IsActive { db with users := db.users.erase userId } other ↔ other ≠ userId ∧ db.IsActive other := by
  by_cases same : other = userId
  · subst same
    simp [IsActive, findUserById]
  · simp only [IsActive, findUserById, AList.lookup_erase_ne same, ne_eq, same, not_false_eq_true, true_and]

theorem not_isActive_of_missing (missing : db.findUserById userId = none) : ¬db.IsActive userId := by
  simp [IsActive, missing]

theorem IsActive.row (active : db.IsActive userId) : ∃ row, db.findUserById userId = some row ∧
    row.isActive = true := by
  rcases found : db.findUserById userId with _ | row
  · exact absurd active (not_isActive_of_missing found)
  · simp only [IsActive, found, Option.any_some] at active
    exact ⟨row, rfl, active⟩

theorem hasAdmin_iff : db.HasAdmin ↔ ∃ user ∈ db.users.entries, db.IsAdmin user.1 := by
  constructor
  · rintro ⟨one, isAdmin⟩
    obtain ⟨row, found, -⟩ := isAdmin.1.row
    exact ⟨⟨one, row⟩, AList.mem_lookup_iff.mp found, isAdmin⟩
  · exact fun ⟨user, _, isAdmin⟩ => ⟨user.1, isAdmin⟩

instance (db : DatabaseManager Uuid) : Decidable db.HasAdmin := decidable_of_iff _ hasAdmin_iff.symm

/-! What each change does to who is an admin. -/

variable {collation : Collation}

theorem hasAdmin_unassign :
    (db.perform collation (.unassignUserRole userId roleId)).1.HasAdmin ↔
      db.Spares (.unassignUserRole userId roleId) := by
  have rows : ∀ other role, (other, role) ∈ (db.unassignUserRole userId roleId).1.userRoles ↔
      (other, role) ∈ db.userRoles ∧ ¬(other = userId ∧ role = roleId) := by
    intro other role
    simp only [unassignUserRole, List.mem_filter, ne_eq, Prod.mk.injEq, decide_eq_true_eq]
  have held : ∀ role, role ∈ (db.unassignUserRole userId roleId).1.userRoleIds userId ↔
      role ∈ (db.userRoleIds userId).filter fun role => role ≠ roleId := by
    intro role
    simp only [mem_userRoleIds, rows, List.mem_filter, decide_eq_true_eq, true_and]
  have others : ∀ other, other ≠ userId →
      ((db.unassignUserRole userId roleId).1.IsAdmin other ↔ db.IsAdmin other) := by
    intro other different
    refine isAdmin_congr Iff.rfl (fun role => ?_) rfl
    simp only [rows, different, false_and, not_false_eq_true, and_true]
  refine (hasAdmin_iff_of_others others).trans (or_congr_right (and_congr Iff.rfl ?_))
  exact grantsAdmin_congr held

theorem hasAdmin_setUserPrimaryRole {roleName : String} (held : db.HasAdmin) :
    (db.perform collation (.setUserPrimaryRole userId roleName)).1.HasAdmin ↔
      db.Spares (.setUserPrimaryRole userId roleName) := by
  rcases perform_setUserPrimaryRole db collation userId roleName with ⟨missing, same⟩ | ⟨userRoles, same, rows⟩
  · rw [same]
    rcases held.other_or userId with other | here
    · exact iff_of_true held (.inl other)
    · exact absurd here.1 (not_isActive_of_missing missing)
  · rw [same]
    have left : ∀ role, role ∈ userRoleIds { db with userRoles := userRoles } userId ↔
        role ∈ db.rolesUnderTier userId roleName := by
      intro role
      rw [mem_userRoleIds, rows, if_pos rfl]
    have others : ∀ other, other ≠ userId →
        (IsAdmin { db with userRoles := userRoles } other ↔ db.IsAdmin other) := by
      intro other different
      refine isAdmin_congr Iff.rfl (fun role => ?_) rfl
      rw [rows, if_neg different]
    refine (hasAdmin_iff_of_others others).trans (or_congr_right (and_congr Iff.rfl ?_))
    exact grantsAdmin_congr left

theorem hasAdmin_assign (held : db.HasAdmin) : (db.perform collation (.assignUserRole userId roleId)).1.HasAdmin := by
  simp only [perform]
  rcases insertUserRole_spec db userId roleId with ⟨n, inserted⟩ | ⟨-, kept⟩ | ⟨-, refused⟩
  · rw [inserted]
    obtain ⟨one, active, grants⟩ := held
    refine ⟨one, active, PermissionGraph.hasPermission_of_subset (fun role member => ?_) grants⟩
    rw [mem_userRoleIds] at member ⊢
    exact List.mem_append_left _ member
  · rw [kept]
    exact held
  · rw [refused]
    exact held

theorem nameTaken_iff {updates : UpdateUser} :
    (updates.username.any fun name => db.users.entries.any fun user => user.1 ≠ userId &&
      user.2.username = name) = true ↔
      db.NameTaken userId updates := by
  simp only [Option.any_eq_true, List.any_eq_true, Bool.and_eq_true, decide_eq_true_eq]
  constructor
  · rintro ⟨_, given, ⟨other, taken⟩, member, different, rfl⟩
    exact ⟨other, taken, different, AList.mem_lookup_iff.mpr member, given⟩
  · rintro ⟨other, taken, different, there, given⟩
    exact ⟨taken.username, given, ⟨other, taken⟩, AList.mem_lookup_iff.mp there, different, rfl⟩

theorem hasAdmin_updateUser {updates : UpdateUser} (held : db.HasAdmin) :
    (db.perform collation (.updateUser userId updates)).1.HasAdmin ↔ db.Spares (.updateUser userId updates) := by
  simp only [perform, updateUser, Spares]
  rcases found : db.findUserById userId with _ | row
  · have other := (held.other_or userId).resolve_right fun here => not_isActive_of_missing found here.1
    exact iff_of_true held (.inr (.inl other))
  · simp only []
    by_cases taken : db.NameTaken userId updates
    · rw [if_pos (nameTaken_iff.mpr taken)]
      exact iff_of_true held (.inr (.inr taken))
    · rw [if_neg fun any => taken (nameTaken_iff.mp any)]
      have others : ∀ other, other ≠ userId →
          (IsAdmin { db with users := db.users.insert userId (updates.set row) } other ↔ db.IsAdmin other) := by
        intro other different
        refine isAdmin_congr ?_ (fun role => Iff.rfl) rfl
        rw [isActive_insert, if_neg different]
      refine (hasAdmin_iff_of_others others).trans ?_
      have here : IsAdmin { db with users := db.users.insert userId (updates.set row) } userId ↔
          (updates.set row).isActive = true ∧ db.GrantsAdmin (db.userRoleIds userId) := by
        rw [IsAdmin, isActive_insert, if_pos rfl]
        exact Iff.rfl
      rw [here]
      constructor
      · rintro (other | ⟨active, -⟩)
        · exact .inr (.inl other)
        · refine .inl fun off => ?_
          rw [UpdateUser.set, off, Option.getD_some] at active
          cases active
      · rintro (on | other | name)
        · refine (held.other_or userId).imp_right fun isAdmin => ⟨?_, isAdmin.2⟩
          obtain ⟨same, again, active⟩ := isAdmin.1.row
          obtain rfl := Option.some.inj (found.symm.trans again)
          rcases flag : updates.isActive with _ | _ | _
          · rw [UpdateUser.set, flag, Option.getD_none]
            exact active
          · exact absurd flag on
          · rw [UpdateUser.set, flag, Option.getD_some]
        · exact .inl other
        · exact absurd name taken

theorem hasAdmin_deleteUser (held : db.HasAdmin) :
    (db.perform collation (.deleteUser userId)).1.HasAdmin ↔ db.Spares (.deleteUser userId) := by
  simp only [perform, deleteUser, Spares]
  rcases found : db.findUserById userId with _ | row
  · have other := (held.other_or userId).resolve_right fun here => not_isActive_of_missing found here.1
    exact iff_of_true held other
  · have others : ∀ other, other ≠ userId →
        (IsAdmin { db with
          users := db.users.erase userId
          userEmails := db.userEmails.filter fun row => row.userId ≠ userId
          userRoles := db.userRoles.filter fun row => row.1 ≠ userId } other ↔ db.IsAdmin other) := by
      intro other different
      refine isAdmin_congr ?_ (fun role => ?_) rfl
      · exact (isActive_erase db userId _).trans (and_iff_right different)
      · simp only [List.mem_filter, different, ne_eq, not_false_eq_true, decide_true, and_true]
    refine (hasAdmin_iff_of_others others).trans (or_iff_left fun gone => ?_)
    exact ((isActive_erase db userId _).mp gone.1).1 rfl

theorem hasAdmin_deleteRole :
    (db.perform collation (.deleteRole roleId)).1.HasAdmin ↔ db.Spares (.deleteRole roleId) := by
  refine exists_congr fun one => and_congr Iff.rfl ?_
  refine grantsAdmin_congr fun role => ?_
  have rows : (db.perform collation (.deleteRole roleId)).1.userRoles =
      db.userRoles.filter fun row => row.2 ≠ roleId := rfl
  simp only [mem_userRoleIds, rows, List.mem_filter, decide_eq_true_eq]

/-- What a merge that goes through leaves: the absorbed account is gone, and the survivor
holds the roles of both. -/
structure MergedInto (merge : Merge Uuid) (db after : DatabaseManager Uuid) : Prop where
  graph : after.rbacGraph = db.rbacGraph
  active : ∀ other, after.IsActive other ↔ other ≠ merge.absorbed ∧ db.IsActive other
  rows : ∀ other role, (other, role) ∈ after.userRoles ↔ other ≠ merge.absorbed ∧
    ((other, role) ∈ db.userRoles ∨ (other = merge.survivor ∧ (merge.absorbed, role) ∈ db.userRoles))

theorem mergeUsers_cases (db : DatabaseManager Uuid) (merge : Merge Uuid) :
    (db.findUserById merge.absorbed = none ∧ db.mergeUsers merge = .error .notFound) ∨
      (db.findUserById merge.survivor = none ∧ db.mergeUsers merge = .error .foreignKeyViolation) ∨
      ∃ after, db.mergeUsers merge = .ok (after, 1) ∧ MergedInto merge db after := by
  unfold mergeUsers
  rcases absorbed : db.findUserById merge.absorbed with _ | gone
  · exact .inl ⟨rfl, rfl⟩
  rcases survivor : db.findUserById merge.survivor with _ | row
  · exact .inr (.inl ⟨rfl, rfl⟩)
  refine .inr (.inr ⟨_, rfl, rfl, fun other => ?_, fun other role => ?_⟩)
  · refine (isActive_erase { db with users := db.users.insert merge.survivor _ } merge.absorbed other).trans ?_
    rw [isActive_insert]
    by_cases same : other = merge.survivor
    · subst same
      simp only [if_true, IsActive, survivor, Option.any_some]
    · simp only [if_neg same]
  · simp only [List.mem_filter, List.mem_append, List.mem_map, Prod.mk.injEq, decide_eq_true_eq, mem_userRoleIds]
    constructor
    · rintro ⟨before | ⟨moved, ⟨fromAbsorbed, -⟩, rfl, rfl⟩, notGone⟩
      · exact ⟨notGone, .inl before⟩
      · exact ⟨notGone, .inr ⟨rfl, fromAbsorbed⟩⟩
    · rintro ⟨notGone, before | ⟨rfl, fromAbsorbed⟩⟩
      · exact ⟨.inl before, notGone⟩
      · by_cases has : (merge.survivor, role) ∈ db.userRoles
        · exact ⟨.inl has, notGone⟩
        · exact ⟨.inr ⟨role, ⟨fromAbsorbed, has⟩, rfl, rfl⟩, notGone⟩

theorem MergedInto.hasAdmin_iff {merge : Merge Uuid} (merged : MergedInto merge db after) :
    after.HasAdmin ↔ (∃ other, other ≠ merge.survivor ∧ other ≠ merge.absorbed ∧ db.IsAdmin other) ∨
      (merge.survivor ≠ merge.absorbed ∧ db.IsActive merge.survivor ∧
        db.GrantsAdmin (db.userRoleIds merge.survivor ++ db.userRoleIds merge.absorbed)) := by
  have others : ∀ other, other ≠ merge.survivor → other ≠ merge.absorbed →
      (after.IsAdmin other ↔ db.IsAdmin other) := by
    intro other notSurvivor notGone
    refine isAdmin_congr ?_ (fun role => ?_) merged.graph
    · rw [merged.active, and_iff_right notGone]
    · rw [merged.rows, and_iff_right notGone, or_iff_left fun moved => notSurvivor moved.1]
  have survives : merge.survivor ≠ merge.absorbed → (after.GrantsAdmin (after.userRoleIds merge.survivor) ↔
      db.GrantsAdmin (db.userRoleIds merge.survivor ++ db.userRoleIds merge.absorbed)) := by
    intro notGone
    have union : ∀ role, role ∈ after.userRoleIds merge.survivor ↔
        role ∈ db.userRoleIds merge.survivor ++ db.userRoleIds merge.absorbed := by
      intro role
      simp only [mem_userRoleIds, merged.rows, List.mem_append, notGone, ne_eq, not_false_eq_true, true_and]
    rw [grantsAdmin_congr union, GrantsAdmin, GrantsAdmin, merged.graph]
  constructor
  · rintro ⟨one, isAdmin⟩
    have stays := (merged.active one).mp isAdmin.1
    by_cases same : one = merge.survivor
    · subst same
      exact .inr ⟨stays.1, stays.2, (survives stays.1).mp isAdmin.2⟩
    · exact .inl ⟨one, same, stays.1, (others one same stays.1).mp isAdmin⟩
  · rintro (⟨one, notSurvivor, notGone, isAdmin⟩ | ⟨notGone, active, grants⟩)
    · exact ⟨one, (others one notSurvivor notGone).mpr isAdmin⟩
    · exact ⟨merge.survivor, (merged.active _).mpr ⟨notGone, active⟩, (survives notGone).mpr grants⟩

theorem hasAdmin_mergeUsers {merge : Merge Uuid} (held : db.HasAdmin) :
    (db.perform collation (.mergeUsers merge)).1.HasAdmin ↔ db.Spares (.mergeUsers merge) := by
  simp only [perform, Spares]
  by_cases agreed : (db.mergeWarningCodes merge).toFinset = merge.acknowledged.toFinset
  swap
  · rw [if_neg agreed]
    exact iff_of_true held (.inl agreed)
  rw [if_pos agreed, or_iff_right (not_not_intro agreed)]
  rcases db.mergeUsers_cases merge with ⟨absorbed, refused⟩ | ⟨survivor, refused⟩ | ⟨after, made, merged⟩
  · -- the admin there was is another account, or the survivor with the roles it had
    rw [refused]
    refine iff_of_true held (.inr ?_)
    obtain ⟨one, isAdmin⟩ := held
    have notGone : one ≠ merge.absorbed := fun same => not_isActive_of_missing absorbed (same ▸ isAdmin.1)
    by_cases same : one = merge.survivor
    · subst same
      refine .inr ⟨notGone, isAdmin.1, PermissionGraph.hasPermission_of_subset (fun role => ?_) isAdmin.2⟩
      exact List.mem_append_left _
    · exact .inl ⟨one, same, notGone, isAdmin⟩
  · rw [refused]
    exact iff_of_true held (.inl survivor)
  · rw [made]
    refine merged.hasAdmin_iff.trans (or_iff_right fun survivor => ?_).symm
    simp only [mergeUsers, survivor] at made
    rcases absorbed : db.findUserById merge.absorbed with _ | gone
    all_goals
      rw [absorbed] at made
      cases made

theorem hasAdmin_elsewhere (rows : ∀ other, after.IsActive other ↔ db.IsActive other)
    (roles : after.userRoles = db.userRoles) (graph : after.rbacGraph = db.rbacGraph) : after.HasAdmin ↔
      db.HasAdmin :=
  exists_congr fun other => isAdmin_congr (rows other) (fun role => by rw [roles]) graph

theorem hasAdmin_replacePrimaryUserEmail {newEmail : String} {staleBefore now : Int} :
    (db.perform collation (.replacePrimaryUserEmail userId newEmail staleBefore now)).1.HasAdmin ↔ db.HasAdmin := by
  simp only [perform, replacePrimaryUserEmail]
  rcases found : db.findUserById userId with _ | row
  · exact Iff.rfl
  · simp only []
    split
    · exact Iff.rfl
    · split
      · exact Iff.rfl
      · refine hasAdmin_elsewhere (fun other => ?_) rfl rfl
        refine isActive_insert.trans ?_
        by_cases same : other = userId
        · subst same
          simp only [if_true, IsActive, found, Option.any_some]
        · rw [if_neg same]

theorem HasAdmin.settle (held : db.HasAdmin) {made : Except DbError (DatabaseManager Uuid × Nat)}
    (same : ∀ after n, made = .ok (after, n) → after.users = db.users ∧ after.userRoles = db.userRoles ∧
      after.rbacGraph = db.rbacGraph) : (db.settle made).1.HasAdmin := by
  cases made with
  | error e => exact held
  | ok result =>
    obtain ⟨users, roles, graph⟩ := same result.1 result.2 rfl
    refine (hasAdmin_elsewhere (fun other => ?_) roles graph).mpr held
    simp only [IsActive, findUserById, users]

/-- Of every change: from a state with an admin, there is one after it exactly when it spares one. -/
theorem hasAdmin_perform_iff (held : db.HasAdmin) (change : Change Uuid) :
    (db.perform collation change).1.HasAdmin ↔ db.Spares change := by
  cases change with
  | assignUserRole userId roleId => exact iff_true_intro (hasAdmin_assign held)
  | unassignUserRole userId roleId => exact hasAdmin_unassign
  | setUserPrimaryRole userId roleName => exact hasAdmin_setUserPrimaryRole held
  | updateUser userId updates => exact hasAdmin_updateUser held
  | replacePrimaryUserEmail userId newEmail staleBefore now =>
    exact iff_true_intro (hasAdmin_replacePrimaryUserEmail.mpr held)
  | deleteUser userId => exact hasAdmin_deleteUser held
  | mergeUsers merge => exact hasAdmin_mergeUsers held
  | deleteRole roleId => exact hasAdmin_deleteRole
  | publishGraph graph => exact Iff.rfl
  | createRole id name level =>
    refine iff_true_intro (held.settle fun after n made => ?_)
    unfold createRole at made
    split at made <;> cases made
    exact ⟨rfl, rfl, rfl⟩
  | updateRole roleId level =>
    refine iff_true_intro (held.settle fun after n made => ?_)
    unfold updateRole at made
    split at made <;> cases made
    exact ⟨rfl, rfl, rfl⟩
  | setRolePermissions roleId keys =>
    refine iff_true_intro (held.settle fun after n made => ?_)
    unfold setRolePermissions at made
    split at made <;> cases made
    exact ⟨rfl, rfl, rfl⟩
  | setRoleInheritance roleId parents =>
    refine iff_true_intro (held.settle fun after n made => ?_)
    unfold setRoleInheritance at made
    split at made
    · cases made
    · split at made <;> cases made
      exact ⟨rfl, rfl, rfl⟩

/-! The two guards. -/

theorem exists_ne_of_length {list : List Uuid} (distinct : list.Nodup) (two : 1 < list.length) (userId : Uuid) :
    ∃ other ∈ list, other ≠ userId := by
  match list, distinct, two with
  | first :: second :: rest, distinct, _ =>
    by_cases same : first = userId
    · have apart : first ≠ second := fun equal => (List.nodup_cons.mp distinct).1 (equal ▸ List.mem_cons_self ..)
      exact ⟨second, by simp, fun equal => apart (same.trans equal.symm)⟩
    · exact ⟨first, List.mem_cons_self .., same⟩

theorem otherAdmin_of_count
    (counted : 1 < (Handler.adminsAmong db.rbacGraph.toPermissionGraph db.activeIds db.userRoles).length)
    (userId : Uuid) : db.OtherAdmin userId := by
  have distinct : (Handler.adminsAmong db.rbacGraph.toPermissionGraph db.activeIds db.userRoles).Nodup :=
    (List.nodup_dedup _).filter _
  obtain ⟨other, member, different⟩ := exists_ne_of_length distinct counted userId
  obtain ⟨listed, grants⟩ := List.mem_filter.mp member
  obtain ⟨row, holds, rfl⟩ := List.mem_map.mp (List.mem_dedup.mp listed)
  have active : row.1 ∈ db.activeIds := of_decide_eq_true (List.mem_filter.mp holds).2
  obtain ⟨user, enabled, same⟩ := List.mem_map.mp active
  obtain ⟨entry, isActive⟩ := List.mem_filter.mp enabled
  refine ⟨row.1, different, ?_, grants⟩
  have found : db.findUserById row.1 = some user.2 := AList.mem_lookup_iff.mpr (same ▸ entry)
  rw [IsActive, found, Option.any_some]
  exact isActive

end DatabaseManager

namespace Handler
variable {Uuid : Type} [DecidableEq Uuid] {db : DatabaseManager Uuid}

theorem act_countActiveAdmins : (countActiveAdmins : Handler Uuid Nat).act db =
    .inl (.ok (adminsAmong db.rbacGraph.toPermissionGraph db.activeIds db.userRoles).length) := rfl

/-- The last admin's protection, at one state: refused where the account is an admin, would be
none without the role, and no other is counted. -/
theorem act_lastAdminProtection (userId roleId : Uuid) :
    (lastAdminProtection userId roleId).act db =
      if db.GrantsAdmin (db.userRoleIds userId) then
        if db.GrantsAdmin ((db.userRoleIds userId).filter fun role => role ≠ roleId) then .inl (.ok ())
        else if 1 < (adminsAmong db.rbacGraph.toPermissionGraph db.activeIds db.userRoles).length then .inl (.ok ())
        else .inl (.error (.forbidden "cannot remove the last administrator's admin access"))
      else .inl (.ok ()) := by
  rw [lastAdminProtection, act_bind_ok (act_userHasPermission userId "admin.access")]
  by_cases isAdmin : db.GrantsAdmin (db.userRoleIds userId)
  · have asked : db.rbacGraph.hasPermission (db.userRoleIds userId) "admin.access" = true := isAdmin
    rw [if_pos asked, if_pos isAdmin, act_bind_ok (act_read _), act_bind_ok (act_read _)]
    by_cases still : db.GrantsAdmin ((db.userRoleIds userId).filter fun role => role ≠ roleId)
    · have left : db.rbacGraph.hasPermission ((db.userRoleIds userId).filter fun role => role ≠ roleId)
          "admin.access" = true := still
      rw [if_pos left, if_pos still, act_pure]
    · have left : ¬db.rbacGraph.hasPermission ((db.userRoleIds userId).filter fun role => role ≠ roleId)
          "admin.access" = true := still
      rw [if_neg left, if_neg still, act_bind_ok act_countActiveAdmins, act_require]
      by_cases more : 1 < (adminsAmong db.rbacGraph.toPermissionGraph db.activeIds db.userRoles).length
      · rw [if_pos (decide_eq_true more), if_pos more]
      · rw [if_neg fun yes => more (of_decide_eq_true yes), if_neg more]
  · have asked : ¬db.rbacGraph.hasPermission (db.userRoleIds userId) "admin.access" = true := isAdmin
    rw [if_neg asked, if_neg isAdmin, act_pure]

theorem unassign_spares {token : Claims Uuid} {userId roleId : Uuid} {change : Change Uuid} (held : db.HasAdmin)
    (acts : (unassignUserRole token userId roleId).act db = .inr change) : db.Spares change := by
  obtain ⟨-, -, rest⟩ := (meets_adminUser token).readOnly.act_bind acts
  rw [act_bind, act_lastAdminProtection] at rest
  by_cases isAdmin : db.GrantsAdmin (db.userRoleIds userId)
  · rw [if_pos isAdmin] at rest
    by_cases still : db.GrantsAdmin ((db.userRoleIds userId).filter fun role => role ≠ roleId)
    · rw [if_pos still] at rest
      cases rest
      refine (held.other_or userId).imp_right fun here => ⟨here.1, still⟩
    · rw [if_neg still] at rest
      by_cases more : 1 < (adminsAmong db.rbacGraph.toPermissionGraph db.activeIds db.userRoles).length
      · rw [if_pos more] at rest
        cases rest
        exact .inl (DatabaseManager.otherAdmin_of_count more userId)
      · rw [if_neg more] at rest
        cases rest
  · rw [if_neg isAdmin] at rest
    cases rest
    exact .inl ((held.other_or userId).resolve_right fun here => isAdmin here.2)

theorem act_isLastAdmin (userId : Uuid) :
    (isLastAdmin userId).act db = .inl (.ok (decide (db.GrantsAdmin (db.userRoleIds userId) ∧
      (adminsAmong db.rbacGraph.toPermissionGraph db.activeIds db.userRoles).length ≤ 1))) := by
  rw [isLastAdmin, act_bind_ok (act_userHasPermission userId "admin.access")]
  by_cases isAdmin : db.GrantsAdmin (db.userRoleIds userId)
  · have asked : db.rbacGraph.hasPermission (db.userRoleIds userId) "admin.access" = true := isAdmin
    rw [if_pos asked, act_bind_ok act_countActiveAdmins, act_pure]
    simp only [isAdmin, true_and]
  · have asked : ¬db.rbacGraph.hasPermission (db.userRoleIds userId) "admin.access" = true := isAdmin
    rw [if_neg asked, act_pure]
    simp only [isAdmin, false_and, decide_false]

theorem demotion_spares {platform : Platform} {userId : Uuid} {change : Change Uuid} (held : db.HasAdmin)
    (acts : (applyRole platform userId false).act db = .inr change) : db.Spares change := by
  rw [applyRole, act_bind_ok (act_read _), act_bind_ok (act_userEffectiveLevel userId),
    act_bind_ok (act_isLastAdmin userId)] at acts
  by_cases last : db.GrantsAdmin (db.userRoleIds userId) ∧
      (adminsAmong db.rbacGraph.toPermissionGraph db.activeIds db.userRoles).length ≤ 1
  · simp only [planRoleTransition, last, Bool.false_eq_true, if_false] at acts
    cases acts
  · have other : db.OtherAdmin userId := by
      by_cases isAdmin : db.GrantsAdmin (db.userRoleIds userId)
      · have more : ¬(adminsAmong db.rbacGraph.toPermissionGraph db.activeIds db.userRoles).length ≤ 1 :=
          fun few => last ⟨isAdmin, few⟩
        exact DatabaseManager.otherAdmin_of_count (by omega) userId
      · exact (held.other_or userId).resolve_right fun here => isAdmin here.2
    simp only [planRoleTransition, last, decide_false, Bool.false_eq_true, if_false] at acts
    split at acts
    · cases acts
    · cases acts
      exact .inl other

end Handler

/-- The requests whose handlers look whether an admin is left before they take a role away. -/
def AdminRequest.Guarded {Uuid : Type} : AdminRequest Uuid → Prop
  | .unassignUserRole _ _ _ => True
  | .applyRole _ entitled => entitled = false
  | _ => False

variable {Uuid : Type} [DecidableEq Uuid] [IdText Uuid] [LE Uuid] [DecidableLE Uuid]

theorem AdminRequest.Guarded.spares {platform : Platform} {request : AdminRequest Uuid} (guarded : request.Guarded)
    {db : DatabaseManager Uuid} (held : db.HasAdmin) {change : Change Uuid}
    (acts : (request.handler platform).act db = .inr change) : db.Spares change := by
  cases request with
  | unassignUserRole token userId roleId => exact Handler.unassign_spares held acts
  | applyRole userId entitled =>
    obtain rfl : entitled = false := guarded
    exact Handler.demotion_spares held acts
  | assignUserRole | updateUserRole | activateUser | deactivateUser | deleteUser | updateUser | mergeUsers |
    createRole
  | updateRole | deleteRole | setRolePermissions | setRoleInheritance => exact guarded.elim

/-- A step that cannot take the last admin away: it writes nothing, or a guarded request that
nobody came in between writes, or its change spares an admin in the state it finds. -/
def Careful (platform : Platform)
    (pool : Service.Pool (DatabaseManager Uuid) (Change Uuid) DbReply (Except ApiError Unit) (AdminRequest Uuid))
    (event : Service.Event (AdminRequest Uuid)) : Prop :=
  ∀ performed, ((adminService platform).step pool event).2 = some performed →
    (performed.request.Guarded ∧ performed.undisturbed = true) ∨ pool.state.Spares performed.change

/-- There is an admin in every state of a run, whatever its handlers and however they
interleave, exactly when every step of it is careful. -/
theorem always_an_admin_iff (platform : Platform) (db : DatabaseManager Uuid) (held : db.HasAdmin)
    (schedule : List (Service.Event (AdminRequest Uuid))) :
    (∀ past, past <+: schedule → (((adminService platform).machine db).run past).state.HasAdmin) ↔
      EveryStep (fun past event => Careful platform (((adminService platform).machine db).run past) event)
        schedule := by
  refine Machine.run_always_iff ((adminService platform).machine db) (fun pool => pool.state.HasAdmin)
    (fun pool event => Careful platform pool event) held ?_ schedule
  intro past event here
  have fresh := Service.fresh_run (adminService platform) db past
  generalize ((adminService platform).machine db).run past = pool at here fresh
  change ((adminService platform).step pool event).1.state.HasAdmin ↔ Careful platform pool event
  rcases Service.step_state (adminService platform) pool event with ⟨silent, same⟩ | ⟨made, wrote, after⟩
  · rw [same]
    refine iff_of_true here fun performed some_ => ?_
    rw [silent] at some_
    cases some_
  · have state : ((adminService platform).step pool event).1.state =
      (pool.state.perform platform.toCollation made.change).1 := after
    rw [state, DatabaseManager.hasAdmin_perform_iff here]
    constructor
    · intro spares performed some_
      obtain rfl := Option.some.inj (wrote.symm.trans some_)
      exact .inr spares
    · intro careful
      rcases careful made wrote with ⟨guarded, quiet⟩ | spares
      · exact guarded.spares here (Service.act_of_performed fresh wrote quiet)
      · exact spares

def ada : HexId := .repeating 1

def adminRole : Role HexId := ⟨.repeating 2, Role.admin, true, 5⟩

/-- A space with one account, its administrator's. -/
def oneAdmin : DatabaseManager HexId where
  users := AList.insert ada ⟨"ada", "ada@space", "", "Ada", true, 0⟩ ∅
  userEmails := [⟨ada, "ada@space", true, some 0, 0⟩]
  roles := [adminRole]
  permissions := ["admin.access"]
  rolePermissions := [(adminRole.id, "admin.access")]
  roleInheritance := []
  userRoles := [(ada, adminRole.id)]
  rbacGraph := .fromRows [adminRole] [(adminRole.id, "admin.access")] []

def plainPlatform : Platform where
  lower := id
  toLowercase := id
  passwordMinLength := 8
  memberRole := Role.active
  lapsedRole := Role.historical
  verify := fun current stored => current = stored
  hash := fun password _ => some password

def ownDeactivation : List (Service.Event (AdminRequest HexId)) :=
  .arrive (.deactivateUser ⟨ada, 0⟩ ada) :: List.replicate 5 (.step 0)

/-- The only admin deactivates their own account, and nobody is one any more. -/
theorem own_deactivation_leaves_none :
    oneAdmin.HasAdmin ∧ ¬(((adminService plainPlatform).machine oneAdmin).run ownDeactivation).state.HasAdmin := by
  decide +kernel

theorem always_an_admin_alone :
    (∀ past, past <+: ownDeactivation → (((adminService plainPlatform).machine oneAdmin).run past).state.HasAdmin) ↔
      EveryStep (fun past event => Careful plainPlatform
        (((adminService plainPlatform).machine oneAdmin).run past) event)
        ownDeactivation :=
  always_an_admin_iff plainPlatform oneAdmin (by decide +kernel) ownDeactivation

end CoopSpaces

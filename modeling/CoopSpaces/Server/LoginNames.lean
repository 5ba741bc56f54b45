import CoopSpaces.Server.AddressClaims

namespace CoopSpaces

inductive AuthError
  | wrongCredentials
  | userInactive
  deriving DecidableEq

namespace DatabaseManager
variable {Uuid : Type} [DecidableEq Uuid]

/-- The password is looked at first, and only then whether the account is active. -/
def loginOf (platform : Platform) (password : String) (userId : Uuid) (row : UserRow) : Except AuthError Uuid :=
  if platform.verify password row.passwordHash then
    if row.isActive then .ok userId else .error .userInactive
  else .error .wrongCredentials

/-- The user is looked for by name first, then by address. -/
def authenticateUser (db : DatabaseManager Uuid) (platform : Platform) (usernameOrEmail password : String) :
    Except AuthError Uuid :=
  let found := (db.findUserByUsername usernameOrEmail).or (db.findUserByEmail platform.toCollation usernameOrEmail)
  match found.bind fun userId => (db.findUserById userId).map fun row => (userId, row) with
  | some (userId, row) => loginOf platform password userId row
  | none => .error .wrongCredentials

/-- The same database with one account only. -/
def only (db : DatabaseManager Uuid) (member : Uuid) : DatabaseManager Uuid :=
  { db with
    users := match db.findUserById member with
      | some row => AList.insert member row ∅
      | none => ∅
    userEmails := db.userEmails.filter fun row => row.userId = member
    userRoles := db.userRoles.filter fun row => row.1 = member }

/-- The two unique indexes: no two accounts have a name in common, and no two rows an address. -/
structure Distinct (collation : Collation) (db : DatabaseManager Uuid) : Prop where
  usernames : ∀ a b rowA rowB, db.findUserById a = some rowA → db.findUserById b = some rowB →
    rowA.username = rowB.username → a = b
  addresses : (db.userEmails.map fun row => collation.lower row.email).Nodup

/-- The text leads to the account: it is its name, or its address and nobody's name. -/
def Names (db : DatabaseManager Uuid) (collation : Collation) (text : String) (userId : Uuid) (row : UserRow) :
    Prop :=
  row.username = text ∨
    (∀ other otherRow, db.findUserById other = some otherRow → otherRow.username ≠ text) ∧
      ∃ address ∈ db.userEmails, address.userId = userId ∧ holds collation text address = true

/-- It is the account's name or one of its addresses, whatever others are called. -/
def Reaches (db : DatabaseManager Uuid) (collation : Collation) (text : String) (userId : Uuid)
    (row : UserRow) : Prop :=
  row.username = text ∨ ∃ address ∈ db.userEmails, address.userId = userId ∧ holds collation text address = true

section Lookup
variable {db : DatabaseManager Uuid} {platform : Platform} {collation : Collation} {text password : String}
    {userId : Uuid} {row : UserRow}

theorem findUserById_of_mem {user : Sigma fun _ : Uuid => UserRow} (listed : user ∈ db.users.entries) :
    db.findUserById user.1 = some user.2 := AList.mem_lookup_iff.mpr listed

theorem mem_of_findUserById (found : db.findUserById userId = some row) :
    (⟨userId, row⟩ : Sigma fun _ : Uuid => UserRow) ∈ db.users.entries := AList.mem_lookup_iff.mp found

theorem findUserByUsername_of_name (distinct : db.Distinct collation) (there : db.findUserById userId = some row)
    (named : row.username = text) : db.findUserByUsername text = some userId := by
  rcases search : db.users.entries.find? fun user => decide (user.2.username = text) with _ | user
  · have missed := List.find?_eq_none.mp search ⟨userId, row⟩ (mem_of_findUserById there)
    exact absurd (decide_eq_true named) missed
  · have sameName := List.find?_some search
    rw [decide_eq_true_eq] at sameName
    have known := findUserById_of_mem (List.mem_of_find?_eq_some search)
    have same : user.1 = userId := distinct.usernames _ _ _ _ known there (sameName.trans named.symm)
    rw [findUserByUsername, search, Option.map_some, same]

theorem findUserByUsername_none (free : ∀ other otherRow, db.findUserById other = some otherRow →
    otherRow.username ≠ text) :
    db.findUserByUsername text = none := by
  rw [findUserByUsername, Option.map_eq_none_iff, List.find?_eq_none]
  intro user listed named
  exact free user.1 user.2 (findUserById_of_mem listed) (of_decide_eq_true named)

theorem findUserByEmail_of_holds (distinct : db.Distinct collation) {address : UserEmail Uuid}
    (listed : address ∈ db.userEmails)
    (held : holds collation text address = true) : db.findUserByEmail collation text = some address.userId := by
  rcases search : db.userEmails.find? fun row =>
    decide (collation.lower row.email = collation.toLowercase (trim text)) with _ | other
  · exact absurd held (List.find?_eq_none.mp search address listed)
  · have heldBy := List.find?_some search
    rw [decide_eq_true_eq] at heldBy
    have sameText : collation.lower other.email = collation.lower address.email :=
      heldBy.trans (of_decide_eq_true held).symm
    have same : other = address :=
      List.inj_on_of_nodup_map distinct.addresses (List.mem_of_find?_eq_some search) listed sameText
    rw [findUserByEmail, search, Option.map_some, same]

omit [DecidableEq Uuid] in
theorem exists_of_findUserByEmail (found : db.findUserByEmail collation text = some userId) :
    ∃ address ∈ db.userEmails, address.userId = userId ∧ holds collation text address = true := by
  obtain ⟨address, search, owned⟩ := Option.map_eq_some_iff.mp found
  exact ⟨address, List.mem_of_find?_eq_some search, owned, List.find?_some search⟩

theorem authenticateUser_of_names (distinct : db.Distinct platform.toCollation)
    (there : db.findUserById userId = some row)
    (named : db.Names platform.toCollation text userId row) :
    db.authenticateUser platform text password = loginOf platform password userId row := by
  have found : (db.findUserByUsername text).or (db.findUserByEmail platform.toCollation text) = some userId := by
    rcases named with byName | ⟨free, address, listed, owned, held⟩
    · rw [findUserByUsername_of_name distinct there byName, Option.some_or]
    · rw [findUserByUsername_none free, Option.none_or, findUserByEmail_of_holds distinct listed held, owned]
  simp only [authenticateUser, found, Option.bind_some, there, Option.map_some]

theorem authenticateUser_of_none (nobody : ∀ other otherRow, db.findUserById other = some otherRow →
    ¬db.Names platform.toCollation text other otherRow) :
    db.authenticateUser platform text password = .error .wrongCredentials := by
  have free : ∀ other otherRow, db.findUserById other = some otherRow → otherRow.username ≠ text :=
    fun other otherRow there named => nobody other otherRow there (.inl named)
  have unfound : ∀ other, db.findUserByEmail platform.toCollation text = some other →
      db.findUserById other = none := by
    intro other found
    rcases there : db.findUserById other with _ | otherRow
    · rfl
    · exact absurd (.inr ⟨free, exists_of_findUserByEmail found⟩) (nobody other otherRow there)
  simp only [authenticateUser, findUserByUsername_none free, Option.none_or]
  rcases found : db.findUserByEmail platform.toCollation text with _ | other
  · rfl
  · simp only [Option.bind_some, unfound other found, Option.map_none]

theorem findUserById_only (there : db.findUserById userId = some row) (other : Uuid) :
    (db.only userId).findUserById other = if other = userId then some row else none := by
  unfold findUserById at there ⊢
  simp only [only, findUserById, there]
  by_cases same : other = userId
  · rw [same, AList.lookup_insert, if_pos rfl]
  · rw [AList.lookup_insert_ne same, if_neg same]
    rfl

theorem Distinct.only (distinct : db.Distinct collation) (there : db.findUserById userId = some row) :
    (db.only userId).Distinct collation := by
  constructor
  · intro a b rowA rowB foundA foundB _
    rw [findUserById_only there] at foundA foundB
    split at foundA
    · split at foundB
      · next sameA sameB => exact sameA.trans sameB.symm
      · cases foundB
    · cases foundA
  · exact distinct.addresses.sublist (List.filter_sublist.map _)

/-- Alone, the account is led to by its name and by each of its addresses. -/
theorem names_only (there : db.findUserById userId = some row) :
    (db.only userId).Names collation text userId row ↔ db.Reaches collation text userId row := by
  have mine : ∀ address : UserEmail Uuid, address ∈ (db.only userId).userEmails ↔ address ∈ db.userEmails ∧
      address.userId = userId := by
    intro address
    simp only [only, List.mem_filter, decide_eq_true_eq]
  constructor
  · rintro (byName | ⟨_, address, listed, owned, held⟩)
    · exact .inl byName
    · exact .inr ⟨address, ((mine address).mp listed).1, owned, held⟩
  · intro reaches
    by_cases byName : row.username = text
    · exact .inl byName
    · rcases reaches with named | ⟨address, listed, owned, held⟩
      · exact absurd named byName
      · refine .inr ⟨fun other otherRow found => ?_, address, (mine address).mpr ⟨listed, owned⟩, owned, held⟩
        rw [findUserById_only there] at found
        split at found
        · obtain rfl := Option.some.inj found
          exact byName
        · cases found

/-- The login of an account that has the database for itself. -/
theorem authenticateUser_only (distinct : db.Distinct platform.toCollation)
    (there : db.findUserById userId = some row) :
    (db.Reaches platform.toCollation text userId row →
      (db.only userId).authenticateUser platform text password = loginOf platform password userId row) ∧
    (¬db.Reaches platform.toCollation text userId row →
      (db.only userId).authenticateUser platform text password = .error .wrongCredentials) := by
  have alone := distinct.only there
  have known : (db.only userId).findUserById userId = some row := by
    rw [findUserById_only there, if_pos rfl]
  constructor
  · intro reaches
    exact authenticateUser_of_names alone known ((names_only there).mpr reaches)
  · intro unreached
    refine authenticateUser_of_none fun other otherRow found named => ?_
    rw [findUserById_only there] at found
    split at found
    · next same =>
      obtain rfl := Option.some.inj found
      subst same
      exact unreached ((names_only there).mp named)
    · cases found

/-- Another account the text leads to does not change what the member's own password comes to: both logins are
refused, and alike. -/
def Harmless (db : DatabaseManager Uuid) (platform : Platform) (text password : String) (member : Uuid)
    (row otherRow : UserRow) : Prop :=
  if platform.verify password otherRow.passwordHash then
    otherRow.isActive = false ∧ row.isActive = false ∧ db.Reaches platform.toCollation text member row
  else ¬db.Reaches platform.toCollation text member row

theorem loginOf_eq_only_iff (distinct : db.Distinct platform.toCollation) (there : db.findUserById userId = some row)
    (own : platform.verify password row.passwordHash = true) {other : Uuid} (apart : other ≠ userId)
    (otherRow : UserRow) :
    loginOf platform password other otherRow = (db.only userId).authenticateUser platform text password ↔
      db.Harmless platform text password userId row otherRow := by
  obtain ⟨reached, unreached⟩ := @authenticateUser_only _ _ db platform text password userId row distinct there
  have mine : loginOf platform password userId row = if row.isActive then .ok userId else .error .userInactive := by
    rw [loginOf, if_pos own]
  by_cases reaches : db.Reaches platform.toCollation text userId row
  · rw [reached reaches, mine, loginOf, Harmless]
    rcases opens : platform.verify password otherRow.passwordHash with _ | _
    · rcases active : row.isActive with _ | _
      all_goals simp [reaches]
    · rcases active : row.isActive with _ | _
      all_goals rcases otherActive : otherRow.isActive with _ | _
      all_goals simp [reaches, apart]
  · rw [unreached reaches, loginOf, Harmless]
    rcases opens : platform.verify password otherRow.passwordHash with _ | _
    · simp [reaches]
    · rcases otherActive : otherRow.isActive with _ | _
      all_goals simp [reaches]

/-- A login with the member's own password comes to the same with the other accounts and without
them exactly when the text leads to none of them, or to one that is refused as the member is. -/
theorem authenticateUser_only_iff (distinct : db.Distinct platform.toCollation)
    (there : db.findUserById userId = some row)
    (own : platform.verify password row.passwordHash = true) :
    db.authenticateUser platform text password = (db.only userId).authenticateUser platform text password ↔
      ∀ other otherRow, other ≠ userId → db.findUserById other = some otherRow →
        db.Names platform.toCollation text other otherRow →
          db.Harmless platform text password userId row otherRow := by
  constructor
  · intro same other otherRow apart found named
    rw [authenticateUser_of_names distinct found named] at same
    exact (loginOf_eq_only_iff distinct there own apart otherRow).mp same
  · intro harmless
    by_cases waylaid : ∃ other otherRow, other ≠ userId ∧ db.findUserById other = some otherRow ∧
        db.Names platform.toCollation text other otherRow
    · obtain ⟨other, otherRow, apart, found, named⟩ := waylaid
      rw [authenticateUser_of_names distinct found named]
      exact (loginOf_eq_only_iff distinct there own apart otherRow).mpr (harmless other otherRow apart found named)
    · have onlyMine : ∀ other otherRow, db.findUserById other = some otherRow →
          db.Names platform.toCollation text other otherRow → other = userId := by
        intro other otherRow found named
        by_contra apart
        exact waylaid ⟨other, otherRow, apart, found, named⟩
      obtain ⟨reached, unreached⟩ := @authenticateUser_only _ _ db platform text password userId row distinct there
      by_cases mine : db.Names platform.toCollation text userId row
      · rw [authenticateUser_of_names distinct there mine, reached (mine.imp id And.right)]
      · have nobody : ∀ other otherRow, db.findUserById other = some otherRow →
            ¬db.Names platform.toCollation text other otherRow := by
          intro other otherRow found named
          have same : other = userId := onlyMine other otherRow found named
          subst same
          obtain rfl := Option.some.inj (found.symm.trans there)
          exact mine named
        have notReached : ¬db.Reaches platform.toCollation text userId row := by
          rintro (byName | address)
          · exact mine (.inl byName)
          · exact mine (.inr ⟨fun other otherRow found named => nobody other otherRow found (.inl named), address⟩)
        rw [authenticateUser_of_none nobody, unreached notReached]

end Lookup

/-! The indexes hold whatever is written. -/

section Writes
variable {db after : DatabaseManager Uuid} {collation : Collation} {userId : Uuid} {row : UserRow}

section
variable (distinct : db.Distinct collation)
include distinct

theorem Distinct.of_names
    (before : ∀ other otherRow, after.findUserById other = some otherRow →
      ∃ old, db.findUserById other = some old ∧ old.username = otherRow.username)
    (addresses : (after.userEmails.map fun row => collation.lower row.email).Nodup) : after.Distinct collation := by
  refine ⟨fun a b rowA rowB foundA foundB same => ?_, addresses⟩
  obtain ⟨oldA, wasA, nameA⟩ := before a rowA foundA
  obtain ⟨oldB, wasB, nameB⟩ := before b rowB foundB
  exact distinct.usernames a b oldA oldB wasA wasB (nameA.trans (same.trans nameB.symm))

/-- One account has come, or changed, under a name that no other has. -/
theorem Distinct.of_insert (users : after.users = db.users.insert userId row)
    (free : ∀ other otherRow, other ≠ userId → db.findUserById other = some otherRow →
      otherRow.username ≠ row.username)
    (addresses : (after.userEmails.map fun row => collation.lower row.email).Nodup) : after.Distinct collation := by
  have looked : ∀ other, after.findUserById other = if other = userId then some row else db.findUserById other := by
    intro other
    unfold findUserById
    rw [users]
    by_cases same : other = userId
    · rw [same, AList.lookup_insert, if_pos rfl]
    · rw [AList.lookup_insert_ne same, if_neg same]
  refine ⟨fun a b rowA rowB foundA foundB same => ?_, addresses⟩
  rw [looked] at foundA foundB
  by_cases isA : a = userId
  · by_cases isB : b = userId
    · exact isA.trans isB.symm
    · rw [if_pos isA] at foundA
      rw [if_neg isB] at foundB
      obtain rfl := Option.some.inj foundA
      exact absurd same.symm (free b rowB isB foundB)
  · rw [if_neg isA] at foundA
    by_cases isB : b = userId
    · rw [if_pos isB] at foundB
      obtain rfl := Option.some.inj foundB
      exact absurd same (free a rowA isA foundA)
    · rw [if_neg isB] at foundB
      exact distinct.usernames a b rowA rowB foundA foundB same

theorem Distinct.of_same (users : after.users = db.users)
    (addresses : (after.userEmails.map fun row => collation.lower row.email).Nodup) : after.Distinct collation := by
  refine distinct.of_names (fun other otherRow found => ⟨otherRow, ?_, rfl⟩) addresses
  unfold findUserById at found ⊢
  rw [← users, found]

theorem Distinct.settle {made : Except DbError (DatabaseManager Uuid × Nat)}
    (kept : ∀ result, made = .ok result → result.1.Distinct collation) : (db.settle made).1.Distinct collation := by
  cases made with
  | error e => exact distinct
  | ok result => exact kept result rfl

end

variable {result : DatabaseManager Uuid × Nat}

section
variable (distinct : db.Distinct collation)
include distinct

theorem Distinct.updateUser (updates : UpdateUser) (made : db.updateUser userId updates = .ok result) :
    result.1.Distinct collation := by
  unfold DatabaseManager.updateUser at made
  split at made
  · cases made
  · next row there =>
    split at made
    · cases made
    · next free =>
      obtain rfl := Except.ok.inj made
      refine distinct.of_insert rfl (fun other otherRow apart found sameName => ?_) distinct.addresses
      cases given : updates.username with
      | none =>
        have kept : (updates.set row).username = row.username := by rw [UpdateUser.set, given, Option.getD_none]
        exact apart (distinct.usernames other userId otherRow row found there (sameName.trans kept))
      | some name =>
        have taken : (updates.set row).username = name := by rw [UpdateUser.set, given, Option.getD_some]
        rw [given, Option.any_some, Bool.not_eq_true, List.any_eq_false] at free
        have other_ := free ⟨other, otherRow⟩ (mem_of_findUserById found)
        rw [Bool.and_eq_true, decide_eq_true_eq, decide_eq_true_eq] at other_
        exact other_ ⟨apart, sameName.trans taken⟩

theorem addresses_snoc {kept : List (UserEmail Uuid)} (some_ : kept.Sublist db.userEmails) {address : UserEmail Uuid}
    (free : ¬(kept.any fun other => collation.lower other.email = collation.lower address.email) = true) :
    ((kept ++ [address]).map fun row => collation.lower row.email).Nodup := by
  rw [Bool.not_eq_true, List.any_eq_false] at free
  have before : (kept.map fun row => collation.lower row.email).Nodup := distinct.addresses.sublist (some_.map _)
  rw [List.map_append, List.map_singleton]
  refine before.append (List.nodup_singleton _) fun text old new => ?_
  obtain ⟨other, listed, rfl⟩ := List.mem_map.mp old
  exact free other listed (decide_eq_true (List.mem_singleton.mp new))

theorem addresses_map {changes : UserEmail Uuid → Prop} [DecidablePred changes]
    {change : UserEmail Uuid → UserEmail Uuid} (keeps : ∀ row, (change row).email = row.email) :
    ((db.userEmails.map fun row => if changes row then change row else row).map fun row =>
      collation.lower row.email).Nodup := by
  have unread : (db.userEmails.map fun row => if changes row then change row else row).map
    (fun row => collation.lower row.email) =
      db.userEmails.map fun row => collation.lower row.email := by
    rw [List.map_map]
    refine List.map_congr_left fun row _ => ?_
    simp only [Function.comp_apply]
    split
    · rw [keeps]
    · rfl
  rw [unread]
  exact distinct.addresses

theorem Distinct.replacePrimaryUserEmail {newEmail : String} {staleBefore now : Int}
    (made : db.replacePrimaryUserEmail collation userId newEmail staleBefore now = .ok result) :
    result.1.Distinct collation := by
  simp only [DatabaseManager.replacePrimaryUserEmail] at made
  split at made
  · cases made
  · next row there =>
    split at made
    · cases made
    · split at made
      · cases made
      · next free =>
        obtain rfl := Except.ok.inj made
        refine distinct.of_insert rfl (fun other otherRow apart found sameName => ?_) ?_
        · exact apart (distinct.usernames other userId otherRow row found there sameName)
        · exact addresses_snoc distinct (List.filter_sublist.trans List.filter_sublist) free

theorem Distinct.deleteUser (made : db.deleteUser userId = .ok result) : result.1.Distinct collation := by
  unfold DatabaseManager.deleteUser at made
  split at made
  · cases made
  · obtain rfl := Except.ok.inj made
    refine distinct.of_names (fun other otherRow found => ⟨otherRow, ?_, rfl⟩)
      (distinct.addresses.sublist (List.filter_sublist.map _))
    unfold findUserById at found ⊢
    by_cases same : other = userId
    · rw [same, AList.lookup_erase] at found
      cases found
    · rwa [AList.lookup_erase_ne same] at found

theorem Distinct.mergeUsers {merge : Merge Uuid} (made : db.mergeUsers merge = .ok result) :
    result.1.Distinct collation := by
  simp only [DatabaseManager.mergeUsers] at made
  split at made
  · cases made
  · cases made
  · next row _ there =>
    obtain rfl := Except.ok.inj made
    refine distinct.of_names (fun other otherRow found => ?_) ?_
    · unfold findUserById at found there ⊢
      by_cases gone : other = merge.absorbed
      · rw [gone, AList.lookup_erase] at found
        cases found
      · rw [AList.lookup_erase_ne gone] at found
        by_cases same : other = merge.survivor
        · rw [same, AList.lookup_insert] at found
          obtain rfl := Option.some.inj found
          exact ⟨row, same ▸ there, rfl⟩
        · rw [AList.lookup_insert_ne same] at found
          exact ⟨otherRow, found, rfl⟩
    · exact addresses_map distinct fun row => rfl

theorem Distinct.addUserEmail {email : String} {staleBefore now : Int}
    (made : db.addUserEmail collation userId email staleBefore now = .ok result) : result.1.Distinct collation := by
  simp only [DatabaseManager.addUserEmail] at made
  split at made
  · cases made
  · next free =>
    split at made
    · cases made
    · obtain rfl := Except.ok.inj made
      exact distinct.of_same rfl (addresses_snoc distinct List.filter_sublist free)

theorem Distinct.removeUserEmail {email : String} (made : db.removeUserEmail userId email = .ok result) :
    result.1.Distinct collation := by
  simp only [DatabaseManager.removeUserEmail] at made
  split at made
  · cases made
  · obtain rfl := Except.ok.inj made
    exact distinct.of_same rfl (distinct.addresses.sublist (List.filter_sublist.map _))

theorem Distinct.setPrimaryUserEmail {email : String} (made : db.setPrimaryUserEmail userId email = .ok result) :
    result.1.Distinct collation := by
  simp only [DatabaseManager.setPrimaryUserEmail] at made
  split at made
  · next target row _ there =>
    split at made
    · cases made
    · split at made
      · obtain rfl := Except.ok.inj made
        refine distinct.of_insert rfl (fun other otherRow apart found sameName => ?_) ?_
        · exact apart (distinct.usernames other userId otherRow row found there sameName)
        · exact addresses_map distinct fun other => rfl
      · cases made
  · cases made

theorem Distinct.createUser {roleName : String} {now : Int}
    (made : db.createUser collation userId row roleName now = .ok result) : result.1.Distinct collation := by
  simp only [DatabaseManager.createUser] at made
  split at made
  · cases made
  · next unused =>
    split at made
    · cases made
    · next free =>
      obtain rfl := Except.ok.inj made
      refine distinct.of_insert rfl (fun other otherRow _ found sameName => ?_)
        (addresses_snoc distinct (List.Sublist.refl _) free)
      rw [Bool.not_eq_true, List.any_eq_false] at unused
      have other_ := unused ⟨other, otherRow⟩ (mem_of_findUserById found)
      simp only [sameName, decide_true, Bool.or_true, Bool.true_or, not_true_eq_false] at other_

theorem Distinct.of_tables (same : after.users = db.users ∧ after.userEmails = db.userEmails) :
    after.Distinct collation := by
  refine distinct.of_same same.1 ?_
  rw [same.2]
  exact distinct.addresses

end

theorem tables_insertUserRole {roleId : Uuid} (made : db.insertUserRole userId roleId = .ok result) :
    result.1.users = db.users ∧ result.1.userEmails = db.userEmails := by
  unfold insertUserRole at made
  split at made
  · obtain rfl := Except.ok.inj made
    exact ⟨rfl, rfl⟩
  · split at made
    · obtain rfl := Except.ok.inj made
      exact ⟨rfl, rfl⟩
    · cases made

theorem tables_setUserPrimaryRole {roleName : String} (made : db.setUserPrimaryRole userId roleName = .ok result) :
    result.1.users = db.users ∧ result.1.userEmails = db.userEmails := by
  simp only [setUserPrimaryRole] at made
  split at made
  · obtain rfl := Except.ok.inj made
    exact ⟨rfl, rfl⟩
  · have kept := tables_insertUserRole made
    exact kept

theorem tables_updateRole {roleId : Uuid} {level : Option Nat} (made : db.updateRole roleId level = .ok result) :
    result.1.users = db.users ∧
      result.1.userEmails = db.userEmails := by
  unfold updateRole at made
  split at made
  · obtain rfl := Except.ok.inj made
    exact ⟨rfl, rfl⟩
  · cases made

theorem tables_createRole {id : Uuid} {name : String} {level : Nat}
    (made : db.createRole id name level = .ok result) :
    result.1.users = db.users ∧
      result.1.userEmails = db.userEmails := by
  unfold createRole at made
  split at made
  · cases made
  · obtain rfl := Except.ok.inj made
    exact ⟨rfl, rfl⟩

theorem tables_setRolePermissions {roleId : Uuid} {keys : List String}
    (made : db.setRolePermissions roleId keys = .ok result) : result.1.users = db.users ∧
      result.1.userEmails = db.userEmails := by
  unfold setRolePermissions at made
  split at made
  · obtain rfl := Except.ok.inj made
    exact ⟨rfl, rfl⟩
  · cases made

theorem tables_setRoleInheritance {roleId : Uuid} {parents : List Uuid}
    (made : db.setRoleInheritance roleId parents = .ok result) : result.1.users = db.users ∧
      result.1.userEmails = db.userEmails := by
  unfold setRoleInheritance at made
  split at made
  · cases made
  · split at made
    · obtain rfl := Except.ok.inj made
      exact ⟨rfl, rfl⟩
    · cases made

theorem Distinct.perform (distinct : db.Distinct collation) (change : Change Uuid) :
    (db.perform collation change).1.Distinct collation := by
  cases change with
  | assignUserRole userId roleId =>
    exact distinct.settle fun result made => distinct.of_tables (tables_insertUserRole made)
  | unassignUserRole userId roleId => exact distinct.of_tables ⟨rfl, rfl⟩
  | setUserPrimaryRole userId roleName =>
    exact distinct.settle fun result made => distinct.of_tables (tables_setUserPrimaryRole made)
  | updateUser userId updates => exact distinct.settle fun result made => distinct.updateUser updates made
  | replacePrimaryUserEmail userId newEmail staleBefore now =>
    exact distinct.settle fun result made => distinct.replacePrimaryUserEmail made
  | deleteUser userId => exact distinct.settle fun result made => distinct.deleteUser made
  | mergeUsers merge =>
    simp only [DatabaseManager.perform]
    split
    · exact distinct.settle fun result made => distinct.mergeUsers made
    · exact distinct
  | createRole id name level => exact distinct.settle fun result made => distinct.of_tables (tables_createRole made)
  | updateRole roleId level => exact distinct.settle fun result made => distinct.of_tables (tables_updateRole made)
  | deleteRole roleId => exact distinct.of_tables ⟨rfl, rfl⟩
  | setRolePermissions roleId keys =>
    exact distinct.settle fun result made => distinct.of_tables (tables_setRolePermissions made)
  | setRoleInheritance roleId parents =>
    exact distinct.settle fun result made => distinct.of_tables (tables_setRoleInheritance made)
  | publishGraph graph => exact distinct.of_tables ⟨rfl, rfl⟩

theorem Distinct.performAccount (distinct : db.Distinct collation) (change : AccountChange Uuid) :
    (db.performAccount collation change).1.Distinct collation := by
  cases change with
  | of change => exact distinct.perform change
  | addUserEmail userId email staleBefore now => exact distinct.settle fun result made => distinct.addUserEmail made
  | removeUserEmail userId email => exact distinct.settle fun result made => distinct.removeUserEmail made
  | setPrimaryUserEmail userId email => exact distinct.settle fun result made => distinct.setPrimaryUserEmail made
  | createUser id row role now => exact distinct.settle fun result made => distinct.createUser made

end Writes

/-- The space before anybody has an account in it. -/
def withoutAccounts (db : DatabaseManager Uuid) : DatabaseManager Uuid :=
  { db with users := ∅, userEmails := [], userRoles := [] }

theorem distinct_withoutAccounts (db : DatabaseManager Uuid) (collation : Collation) :
    db.withoutAccounts.Distinct collation := by
  refine ⟨fun a b rowA rowB foundA _ _ => ?_, List.nodup_nil⟩
  unfold findUserById at foundA
  rw [withoutAccounts, AList.lookup_empty] at foundA
  cases foundA

end DatabaseManager

section Runs
variable {Uuid : Type} [DecidableEq Uuid] [IdText Uuid] [LE Uuid] [DecidableLE Uuid]

theorem distinct_run (platform : Platform) (rules : RegistrationRules) (db : DatabaseManager Uuid)
    (past : List (Service.Event (AccountRequest Uuid))) :
    (((accountService platform rules).machine db.withoutAccounts).run past).state.Distinct platform.toCollation := by
  refine Machine.run_invariant ((accountService platform rules).machine db.withoutAccounts)
    (fun _ pool => pool.state.Distinct platform.toCollation) ?_ ?_ past
  · exact db.distinct_withoutAccounts platform.toCollation
  · intro past event distinct
    generalize ((accountService platform rules).machine db.withoutAccounts).run past = pool at distinct
    rcases Service.step_state (accountService platform rules) pool event with ⟨_, same⟩ | ⟨performed, _, wrote⟩
    · exact same.symm ▸ distinct
    · exact wrote.symm ▸ distinct.performAccount performed.change

/-- In every state that registrations and edits come to, whatever their order: what a member's own
password comes to with a text does not depend on the other accounts, unless the text leads to one of
them first. -/
theorem login_apart_iff (platform : Platform) (rules : RegistrationRules) (db : DatabaseManager Uuid)
    (past : List (Service.Event (AccountRequest Uuid))) (member : Uuid) (row : UserRow) (text password : String)
    (there : (((accountService platform rules).machine db.withoutAccounts).run past).state.findUserById
      member = some row)
    (own : platform.verify password row.passwordHash = true) :
    let reached := (((accountService platform rules).machine db.withoutAccounts).run past).state
    reached.authenticateUser platform text password = (reached.only member).authenticateUser platform text password ↔
      ∀ other otherRow, other ≠ member → reached.findUserById other = some otherRow →
        reached.Names platform.toCollation text other otherRow →
          reached.Harmless platform text password member row otherRow :=
  DatabaseManager.authenticateUser_only_iff (distinct_run platform rules db past) there own

end Runs

/-- Ada registers, and then somebody else does who takes Ada's address for a name. -/
def adaThenEve : List (Service.Event (AccountRequest HexId)) :=
  .arrive (.register ⟨"ada", "ada@space", "passwords", "Ada", none, none, none⟩ ⟨none, none⟩ ada "" 0) ::
    .arrive (.register ⟨"ada@space", "eve@space", "different", "Eve", none, none, none⟩ ⟨none, none⟩ bob "" 0) ::
      (List.replicate 4 (.step 0) ++ List.replicate 4 (.step 1))

def spaceWithEve : DatabaseManager HexId :=
  (((accountService plainPlatform openRules).machine oneAdmin.withoutAccounts).run adaThenEve).state

/-- By her own address and with her own password Ada is refused, as she is not without Eve. -/
theorem name_shadows_address :
    spaceWithEve.findUserById ada = some ⟨"ada", "ada@space", "passwords", "Ada", true, 0⟩ ∧
      ⟨ada, "ada@space", true, none, 0⟩ ∈ spaceWithEve.userEmails ∧
      spaceWithEve.authenticateUser plainPlatform "ada@space" "passwords" = .error .wrongCredentials ∧
      (spaceWithEve.only ada).authenticateUser plainPlatform "ada@space" "passwords" = .ok ada := by
  decide +kernel

theorem login_apart_eve :
    spaceWithEve.authenticateUser plainPlatform "ada@space" "passwords" =
        (spaceWithEve.only ada).authenticateUser plainPlatform "ada@space" "passwords" ↔
      ∀ other otherRow, other ≠ ada → spaceWithEve.findUserById other = some otherRow →
        spaceWithEve.Names plainPlatform.toCollation "ada@space" other otherRow →
          spaceWithEve.Harmless plainPlatform "ada@space" "passwords" ada
            ⟨"ada", "ada@space", "passwords", "Ada", true, 0⟩ otherRow :=
  login_apart_iff plainPlatform openRules oneAdmin adaThenEve ada
    ⟨"ada", "ada@space", "passwords", "Ada", true, 0⟩ "ada@space"
    "passwords" (by decide +kernel) (by decide +kernel)

end CoopSpaces

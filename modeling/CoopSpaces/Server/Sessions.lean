import CoopSpaces.Server.TwoFactorRuns

namespace CoopSpaces

namespace DatabaseManager
variable {Uuid : Type} [DecidableEq Uuid]

/-- Every account there is after was there before, under a version that only grows, and grows with each new
password. -/
def Succeeds (userId : Uuid) (before after : DatabaseManager Uuid) : Prop :=
  ∀ now, after.findUserById userId = some now → ∃ row, before.findUserById userId = some row ∧
    row.tokenVersion ≤ now.tokenVersion ∧ (now.tokenVersion = row.tokenVersion → now.passwordHash = row.passwordHash)

variable {db after : DatabaseManager Uuid} {collation : Collation} {userId : Uuid}

theorem Succeeds.of_same (same : after.users = db.users) : Succeeds userId db after := by
  intro now found
  unfold findUserById at found ⊢
  exact ⟨now, same ▸ found, le_refl _, fun _ => rfl⟩

theorem Succeeds.settle {made : Except DbError (DatabaseManager Uuid × Nat)}
    (kept : ∀ result, made = .ok result → Succeeds userId db result.1) : Succeeds userId db (db.settle made).1 := by
  cases made with
  | error e => exact .of_same rfl
  | ok result => exact kept result rfl

variable {result : DatabaseManager Uuid × Nat} {other : Uuid}

theorem Succeeds.of_insert {row new : UserRow} (stored : db.findUserById other = some row)
    (users : after.users = db.users.insert other new) (grows : row.tokenVersion ≤ new.tokenVersion)
    (same : new.tokenVersion = row.tokenVersion → new.passwordHash = row.passwordHash) :
    Succeeds userId db after := by
  intro now found
  unfold findUserById at found stored ⊢
  rw [users] at found
  by_cases isIt : userId = other
  · subst isIt
    rw [AList.lookup_insert] at found
    obtain rfl := Option.some.inj found
    exact ⟨row, stored, grows, same⟩
  · rw [AList.lookup_insert_ne isIt] at found
    exact ⟨now, found, le_refl _, fun _ => rfl⟩

theorem Succeeds.erase (before : Succeeds userId db after) {less : DatabaseManager Uuid}
    (users : less.users = after.users.erase other) : Succeeds userId db less := by
  intro now found
  refine before now ?_
  unfold findUserById at found ⊢
  rw [users] at found
  by_cases isIt : userId = other
  · subst isIt
    rw [AList.lookup_erase] at found
    cases found
  · rwa [AList.lookup_erase_ne isIt] at found

theorem succeeds_updateUser {updates : UpdateUser} (made : db.updateUser other updates = .ok result) :
    Succeeds userId db result.1 := by
  unfold updateUser at made
  split at made
  next => cases made
  next row stored =>
    split at made
    next => cases made
    next =>
      obtain rfl := Except.ok.inj made
      have version : (updates.set row).tokenVersion =
          if updates.passwordHash.isSome then row.tokenVersion + 1 else row.tokenVersion := rfl
      have hash : (updates.set row).passwordHash = updates.passwordHash.getD row.passwordHash := rfl
      rcases password : updates.passwordHash with _ | new
      · rw [password] at version hash
        exact .of_insert stored rfl (le_of_eq version.symm) fun _ => hash
      · rw [password] at version
        have next_ : (updates.set row).tokenVersion = row.tokenVersion + 1 := version
        refine .of_insert stored rfl (by omega) fun same => ?_
        omega

theorem succeeds_replacePrimaryUserEmail {email : String} {staleBefore now : Int}
    (made : db.replacePrimaryUserEmail collation other email staleBefore now = .ok result) :
    Succeeds userId db result.1 := by
  simp only [replacePrimaryUserEmail] at made
  split at made
  next => cases made
  next row stored =>
    split at made
    next => cases made
    next =>
      split at made
      next => cases made
      next =>
        obtain rfl := Except.ok.inj made
        exact .of_insert stored rfl (le_refl _) fun _ => rfl

theorem succeeds_setPrimaryUserEmail {email : String} (made : db.setPrimaryUserEmail other email = .ok result) :
    Succeeds userId db result.1 := by
  unfold setPrimaryUserEmail at made
  split at made
  next target row listed stored =>
    split at made
    next => cases made
    next =>
      split at made
      next =>
        obtain rfl := Except.ok.inj made
        exact .of_insert stored rfl (le_refl _) fun _ => rfl
      next => cases made
  next => cases made

theorem succeeds_deleteUser (made : db.deleteUser other = .ok result) : Succeeds userId db result.1 := by
  unfold deleteUser at made
  split at made
  next => cases made
  next =>
    obtain rfl := Except.ok.inj made
    have before : Succeeds userId db db := .of_same rfl
    exact before.erase rfl

theorem succeeds_mergeUsers {merge : Merge Uuid} (made : db.mergeUsers merge = .ok result) :
    Succeeds userId db result.1 := by
  simp only [mergeUsers] at made
  split at made
  next => cases made
  next => cases made
  next absorbed survivor gone stored =>
    obtain rfl := Except.ok.inj made
    have before : Succeeds userId db { db with
        users := db.users.insert merge.survivor { survivor with tokenVersion := survivor.tokenVersion + 1 } } := by
      refine .of_insert stored rfl ?_ fun same => ?_
      · show survivor.tokenVersion ≤ survivor.tokenVersion + 1
        omega
      · have next_ : survivor.tokenVersion + 1 = survivor.tokenVersion := same
        omega
    exact before.erase rfl

theorem succeeds_perform (change : Change Uuid) : Succeeds userId db (db.perform collation change).1 := by
  cases change with
  | assignUserRole other roleId => exact .settle fun result made => .of_same (tables_insertUserRole made).1
  | unassignUserRole other roleId => exact .of_same rfl
  | setUserPrimaryRole other roleName => exact .settle fun result made => .of_same (tables_setUserPrimaryRole made).1
  | updateUser other updates => exact .settle fun result made => succeeds_updateUser made
  | replacePrimaryUserEmail other email staleBefore now =>
    exact .settle fun result made => succeeds_replacePrimaryUserEmail made
  | deleteUser other => exact .settle fun result made => succeeds_deleteUser made
  | mergeUsers merge =>
    simp only [DatabaseManager.perform]
    split
    · exact .settle fun result made => succeeds_mergeUsers made
    · exact .of_same rfl
  | createRole id name level => exact .settle fun result made => .of_same (tables_createRole made).1
  | updateRole roleId level => exact .settle fun result made => .of_same (tables_updateRole made).1
  | deleteRole roleId => exact .of_same rfl
  | setRolePermissions roleId keys => exact .settle fun result made => .of_same (tables_setRolePermissions made).1
  | setRoleInheritance roleId parents => exact .settle fun result made => .of_same (tables_setRoleInheritance made).1
  | publishGraph graph => exact .of_same rfl

/-- The one change that brings an account is that which creates it. -/
theorem succeeds_performAccount {change : AccountChange Uuid}
    (other : ∀ row role now, change ≠ .createUser userId row role now) :
    Succeeds userId db (db.performAccount collation change).1 := by
  cases change with
  | of change => exact succeeds_perform change
  | addUserEmail id email staleBefore now =>
    refine .settle fun result made => ?_
    simp only [addUserEmail] at made
    split at made
    next => cases made
    next =>
      split at made
      next => cases made
      next =>
        obtain rfl := Except.ok.inj made
        exact .of_same rfl
  | removeUserEmail id email =>
    refine .settle fun result made => ?_
    simp only [removeUserEmail] at made
    split at made
    next => cases made
    next =>
      obtain rfl := Except.ok.inj made
      exact .of_same rfl
  | setPrimaryUserEmail id email => exact .settle fun result made => succeeds_setPrimaryUserEmail made
  | createUser id row role now =>
    refine .settle fun result made => ?_
    have apart : userId ≠ id := fun same => other row role now (same ▸ rfl)
    unfold createUser at made
    split at made
    next => cases made
    next =>
      split at made
      next => cases made
      next =>
        obtain rfl := Except.ok.inj made
        intro now found
        unfold findUserById at found ⊢
        rw [AList.lookup_insert_ne apart] at found
        exact ⟨now, found, le_refl _, fun _ => rfl⟩

end DatabaseManager

section Runs
variable {Uuid Json Ceremony : Type} [DecidableEq Uuid] {rules : LoginRules Uuid Json Ceremony}
  {start : TwoFactorTables Uuid Json Ceremony} {inputs : List (LoginEvent Uuid Json)}

variable (rules start inputs) in
/-- A session is of an account its request has found active, and lasts while the account's password does: it is
accepted for no other, and not at all once the account is gone, or has had its sessions revoked. -/
structure LastsWithPassword (index : Nat) (claims : Claims Uuid) : Prop where
  unchanged : ∃ s row, (loginService rules).Met start inputs index s ∧ s.db.findUserById claims.userId = some row ∧
    row.isActive = true ∧ row.tokenVersion = claims.tokenVersion ∧
      ∀ now, (((loginService rules).machine start).run inputs).state.db.getUserFromToken claims = .ok now →
        now.passwordHash = row.passwordHash
  revoked : ∀ t, (loginService rules).SeenIn start inputs t →
    (∀ row, t.db.findUserById claims.userId = some row → claims.tokenVersion < row.tokenVersion) →
      ∀ now, (((loginService rules).machine start).run inputs).state.db.getUserFromToken claims ≠ .ok now

theorem issuer_of_admits {seen : TwoFactorTables Uuid Json Ceremony → Prop} {request : TwoFactorRequest Uuid Json}
    {landed : TwoFactorLog Uuid Json Ceremony} {claims : Claims Uuid}
    (admits : Admits rules seen landed request claims) :
    ∃ s row, seen s ∧ s.db.findUserById claims.userId = some row ∧
      row.isActive = true ∧ row.tokenVersion = claims.tokenVersion := by
  cases admits with
  | password there passed stored active alone verified => exact ⟨_, _, there, stored, active, rfl⟩
  | secondFactor took held there stored active proves => exact ⟨_, _, there, stored, active, rfl⟩

theorem asked_of_created {index : Nat} {s : TwoFactorTables Uuid Json Ceremony} {userId : Uuid} {row : UserRow}
    {role : String} {now : Int}
    (landed : (index, s, .account (.createUser userId row role now)) ∈ (loginService rules).landings start inputs) :
    .arrive (.account (.createUser userId row role now)) ∈ inputs := by
  obtain ⟨request, routine, found⟩ := (loginService rules).found_of_landing start landed
  rcases (keeps_run found).loud _ (Service.mem_byIndex landed) with ordinary | ⟨_, _, same, -⟩ | ⟨_, _, same, -⟩
  · cases ordinary with
    | asked => exact Service.arrived_of_found found
  · cases same
  · cases same

theorem succeeds_landed {userId : Uuid}
    (fresh : ∀ row role now, .arrive (.account (.createUser userId row role now)) ∉ inputs)
    {entry : Nat × TwoFactorTables Uuid Json Ceremony × TwoFactorStatement Uuid Json Ceremony}
    (landed : entry ∈ (loginService rules).landings start inputs) :
    DatabaseManager.Succeeds userId entry.2.1.db ((loginService rules).perform entry.2.1 entry.2.2).1.db := by
  obtain ⟨index, s, statement⟩ := entry
  cases statement with
  | account change =>
    refine DatabaseManager.succeeds_performAccount fun row role now same => ?_
    subst same
    exact fresh row role now (asked_of_created landed)
  | replaceUserRecoveryCodes id rows =>
    obtain ⟨codes, same⟩ := @TwoFactorTables.replaceUserRecoveryCodes_eq _ _ _ _ s id rows
    refine .of_same ?_
    show (s.replaceUserRecoveryCodes id rows).1.db.users = s.db.users
    rw [same]
  | markRecoveryCodeUsed id now =>
    obtain ⟨codes, same⟩ := @TwoFactorTables.markRecoveryCodeUsed_eq _ _ _ _ s id now
    refine .of_same ?_
    show (s.markRecoveryCodeUsed id now).1.db.users = s.db.users
    rw [same]
  | _ => exact .of_same rfl

/-- As long as no account is created under an identifier that has been given out: a session that was answered stands
for the password it was got with, and for no later one. -/
theorem session_lasts_with_password (rules : LoginRules Uuid Json Ceremony)
    (start : TwoFactorTables Uuid Json Ceremony)
    (inputs : List (LoginEvent Uuid Json)) {index : Nat} {request : TwoFactorRequest Uuid Json} {claims : Claims Uuid}
    (answered : (((loginService rules).machine start).run inputs).answers[index]? =
      some (request, some (.ok (.session claims))))
    (fresh : ∀ row role now, .arrive (.account (.createUser claims.userId row role now)) ∉ inputs) :
    LastsWithPassword rules start inputs index claims := by
  constructor
  · obtain ⟨s, row, met, stored, active, version⟩ :=
      issuer_of_admits (admits_of_session answered)
    have seen := Service.seen_of_met met
    refine ⟨s, row, met, stored, active, version, fun now accepted => ?_⟩
    have kept := @Service.kept_of_landed _ _ _ _ _ (loginService rules) start inputs
      (fun w => ∀ now, w.db.findUserById claims.userId = some now → row.tokenVersion ≤ now.tokenVersion ∧
        (now.tokenVersion = row.tokenVersion → now.passwordHash = row.passwordHash))
          (fun entry landed before now found => by
          obtain ⟨old, was, grows, same⟩ := succeeds_landed fresh landed now found
          obtain ⟨from_, hash⟩ := before old was
          refine ⟨le_trans from_ grows, fun still => ?_⟩
          have stood : old.tokenVersion = row.tokenVersion := by omega
          rw [same (by omega), hash stood]) s seen (fun now found => by
            obtain rfl := Option.some.inj (stored.symm.trans found)
            exact ⟨le_refl _, fun _ => rfl⟩)
    obtain ⟨found, -, current⟩ := DatabaseManager.active_of_getUserFromToken accepted
    exact (kept now found).2 (current.symm.trans version.symm)
  · intro t seen past now accepted
    have kept := @Service.kept_of_landed _ _ _ _ _ (loginService rules) start inputs
      (fun w => ∀ now, w.db.findUserById claims.userId = some now → claims.tokenVersion < now.tokenVersion)
      (fun entry landed before now found => by
        obtain ⟨old, was, grows, -⟩ := succeeds_landed fresh landed now found
        have from_ := before old was
        omega) t seen past
    obtain ⟨found, -, current⟩ := DatabaseManager.active_of_getUserFromToken accepted
    have less := kept now found
    omega

end Runs

def plainLogins : LoginRules HexId Unit Unit := ⟨plainPlatform, ⟨false, false, false, fun _ _ => none⟩, false, none⟩

/-- One member, whose password is known. -/
def oneLogin : TwoFactorTables HexId Unit Unit where
  db := { oneAdmin with users := AList.insert ada ⟨"ada", "ada@space", "passwords", "Ada", true, 0⟩ ∅ }
  mfa := ⟨[], [], Table.empty.insert ada none, 0⟩
  passkeys := Table.empty
  codes := []
  challenges := Table.empty
  instant := 0

/-- Ada logs in, and has another password after that. -/
def adaChangesPassword : List (LoginEvent HexId Unit) :=
  [.arrive (.login "ada" "passwords" none "" ""), .step 0,
    .arrive (.account (.of (.updateUser ada ⟨none, some "different", none, none⟩))), .step 1]

theorem session_lasts_ada :
    (((loginService plainLogins).machine oneLogin).run (adaChangesPassword.take 2)).state.db.getUserFromToken
    ⟨ada, 0⟩ =
        .ok ⟨"ada", "ada@space", "passwords", "Ada", true, 0⟩ ∧
      LastsWithPassword plainLogins oneLogin adaChangesPassword 0 ⟨ada, 0⟩ :=
  ⟨by decide +kernel, @session_lasts_with_password _ _ _ _ plainLogins oneLogin adaChangesPassword 0
    (.login "ada" "passwords" none "" "") ⟨ada, 0⟩ (by rfl) (by
      intro row role now created
      simp [adaChangesPassword] at created)⟩

end CoopSpaces

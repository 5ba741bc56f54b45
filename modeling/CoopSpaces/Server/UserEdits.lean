import CoopSpaces.Server.Escalation

namespace CoopSpaces

section Database
variable {Uuid : Type} [DecidableEq Uuid]

/-- A database that besides refuses what it does not accept for other reasons. -/
def DatabaseManager.execute (collation : Collation) (refuses : Change Uuid → Option DbError)
    (db : DatabaseManager Uuid) (change : Change Uuid) : DatabaseManager Uuid × DbReply :=
  match refuses change with
  | some e => (db, .failed e)
  | none => db.perform collation change

/-- The texts that a statement brings. -/
def Change.texts (collation : Collation) : Change Uuid → List String
  | .setUserPrimaryRole _ roleName => [roleName]
  | .updateUser _ updates => updates.username.toList ++ updates.passwordHash.toList ++ updates.fullName.toList
  | .replacePrimaryUserEmail _ newEmail _ _ => [collation.toLowercase (trim newEmail), trim newEmail]
  | .createRole _ name _ => [name]
  | .setRolePermissions _ keys => keys
  | _ => []

/-- No text column accepts a NUL inside a string. -/
def refuseNul (collation : Collation) (change : Change Uuid) : Option DbError :=
  if (change.texts collation).any fun text => Char.ofNat 0 ∈ text.toList then some .unrepresentableText else none

end Database

section Edit
variable {Uuid : Type} [DecidableEq Uuid] (platform : Platform) (db : DatabaseManager Uuid) (token : Claims Uuid)
  (userId : Uuid) (payload : UpdateUserRequest) (salt : String)

/-- The address that a request brings for another one. -/
def UpdateUserRequest.newPrimary (payload : UpdateUserRequest) (existing : UserRow) : Option String :=
  payload.email.filter (· ≠ existing.email)

/-- A new password is long enough and has this hash; there is none without. -/
def UpdateUserRequest.Hashes (payload : UpdateUserRequest) (platform : Platform) (salt : String) :
    Option String → Prop :=
  match payload.password with
  | none => (· = none)
  | some password => fun hashed => platform.passwordMinLength ≤ password.utf8ByteSize ∧ hashed.isSome ∧
      platform.hash password salt = hashed

/-- The request passes every check, the row and the new password's hash being these. -/
structure Admitted (existing : UserRow) (hashed : Option String) : Prop where
  caller : ∃ row, db.findUserById token.userId = some row ∧ row.isActive = true ∧
    token.tokenVersion = row.tokenVersion
  ownOrManager : token.userId ≠ userId → "users.manage" ∈ db.permissionsOf token.userId
  status : "users.manage" ∈ db.permissionsOf token.userId ∨ (payload.isActive = none ∧ payload.role = none)
  grantable : ∀ role, payload.role = some role →
    Role.isTier role = true ∧ (role = Role.admin → "admin.access" ∈ db.permissionsOf token.userId)
  found : db.findUserById userId = some existing
  below : token.userId ≠ userId → db.levelOf userId < db.levelOf token.userId
  current : token.userId = userId ∧ (payload.password.isSome ∨ payload.email.any (· ≠ existing.email)) →
    ∃ password, payload.currentPassword = some password ∧ platform.verify password existing.passwordHash = true
  hashes : payload.Hashes platform salt hashed
  freeEmail : ∀ email, payload.newPrimary existing = some email →
    '@' ∈ email.toList ∧ db.findUserByEmail platform.toCollation email = none
  freeUsername : ∀ name, payload.username = some name → name ≠ existing.username →
    name ≠ "" ∧ db.findUserByUsername name = none

def UpdateUserRequest.updates (payload : UpdateUserRequest) (hashed : Option String) : UpdateUser :=
  ⟨payload.username, hashed, payload.fullName, payload.isActive⟩

variable (refuses : Change Uuid → Option DbError) (now : Int)

/-- The database takes the update of the row. -/
structure RowAccepted (hashed : Option String) : Prop where
  accepted : refuses (.updateUser userId (payload.updates hashed)) = none
  unique : ∀ name, payload.username = some name → ∀ other ∈ db.users.entries, other.1 ≠ userId →
    other.2.username ≠ name

/-- The database does not take an address for the user's primary one: beside those that give way
to it there is one of the same letters, or the user has not one primary address. -/
def AddressRefused (email : String) : Prop :=
  refuses (.replacePrimaryUserEmail userId email (Handler.staleClaimCutoff now) now) ≠ none ∨
    (db.userEmails.countP fun row => row.userId = userId ∧ row.isPrimary = true) ≠ 1 ∨
    ∃ other ∈ db.userEmails, platform.lower other.email = platform.lower (trim email) ∧
      ¬(other.userId = userId ∧ other.isPrimary = true) ∧
      ¬(platform.lower other.email = platform.toLowercase (trim email) ∧ other.verifiedAt = none ∧
        other.isPrimary = false ∧ other.createdAt < Handler.staleClaimCutoff now)

/-- The request passes its checks and its row is written, and a statement after it is refused. -/
def Stranded : Prop :=
  ∃ existing hashed, Admitted platform db token userId payload salt existing hashed ∧
    RowAccepted db userId payload refuses hashed ∧
    ((∃ email, payload.newPrimary existing = some email ∧ AddressRefused platform db userId refuses now email) ∨
      ∃ role, payload.role = some role ∧ refuses (.setUserPrimaryRole userId role) ≠ none)

/-- A request that is answered with an error leaves the accounts as they were, and no statement of
it has been carried out (the update of a row would set when it was updated). -/
def RejectedChangesNothing : Prop :=
  let edit := (Handler.updateUser platform token userId payload salt now).run
  let execute := DatabaseManager.execute platform.toCollation refuses
  ∀ e, (edit.solo execute db).2 = .error e →
    (edit.solo execute db).1 = db ∧
      ∀ landed ∈ edit.soloWrites execute db, ∃ why, (execute landed.1 landed.2).2 = .failed why

end Edit

namespace Handler
variable {Uuid α β : Type} {db : DatabaseManager Uuid}

/-- From here two handlers do the same, whatever the database answers. -/
def Alike (db : DatabaseManager Uuid) (h g : Handler Uuid α) : Prop :=
  ∀ perform, h.run.solo perform db = g.run.solo perform db ∧ h.run.soloWrites perform db = g.run.soloWrites perform db

theorem Alike.trans {h g k : Handler Uuid α} (first : Alike db h g) (second : Alike db g k) : Alike db h k :=
  fun perform => ⟨(first perform).1.trans (second perform).1, (first perform).2.trans (second perform).2⟩

theorem alike_bind {h : Handler Uuid α} {answer : Except ApiError α} (first : h.act db = .inl answer)
    (f : α → Handler Uuid β) : Alike db (h >>= f) (ExceptT.bindCont f answer) := by
  intro perform
  have whole := Routine.solo_bind perform h.run (ExceptT.bindCont f) db
  have writes := Routine.soloWrites_bind perform h.run (ExceptT.bindCont f) db
  have answered : h.run.solo perform db = (db, answer) := Routine.solo_of_act perform first
  have silent : h.run.soloWrites perform db = [] := Routine.soloWrites_of_act perform first
  rw [answered] at whole writes
  rw [silent] at writes
  exact ⟨whole, writes⟩

/-- The handler writes nothing here: it comes to the one answer of this kind, or there is none and
it refuses. -/
def Decides (db : DatabaseManager Uuid) (h : Handler Uuid α) (holds : α → Prop) : Prop :=
  (∃ a, h.act db = .inl (.ok a) ∧ ∀ b, holds b ↔ b = a) ∨ (∃ e, h.act db = .inl (.error e)) ∧ ∀ a, ¬ holds a

theorem Decides.follow {h : Handler Uuid α} {holds : α → Prop} (decides : Decides db h holds)
    (f : α → Handler Uuid β) :
    (∃ a, (∀ b, holds b ↔ b = a) ∧ Alike db (h >>= f) (f a)) ∨
      (∃ e, Alike db (h >>= f) (throw e)) ∧ ∀ a, ¬ holds a := by
  rcases decides with ⟨a, answers, one⟩ | ⟨⟨e, refuses⟩, none_⟩
  · exact .inl ⟨a, one, alike_bind answers f⟩
  · exact .inr ⟨⟨e, alike_bind refuses f⟩, none_⟩

theorem Decides.congr {h : Handler Uuid α} {holds other : α → Prop} (decides : Decides db h holds)
    (same : ∀ a, holds a ↔ other a) : Decides db h other := by
  rcases decides with ⟨a, answers, one⟩ | ⟨refuses, none_⟩
  · exact .inl ⟨a, answers, fun b => (same b).symm.trans (one b)⟩
  · exact .inr ⟨refuses, fun a => mt (same a).mpr (none_ a)⟩

theorem decides_pure (a : α) : Decides db (pure a : Handler Uuid α) (· = a) := .inl ⟨a, rfl, fun _ => Iff.rfl⟩

theorem decides_throw (e : ApiError) : Decides db (throw e : Handler Uuid α) fun _ => False :=
  .inr ⟨⟨e, rfl⟩, fun _ => id⟩

variable (db) in
theorem decides_read (f : DatabaseManager Uuid → α) : Decides db (read f) (· = f db) :=
  .inl ⟨f db, rfl, fun _ => Iff.rfl⟩

variable (db) in
theorem decides_require (ok : Bool) (error : ApiError) :
    Decides db (require ok error : Handler Uuid Unit) fun _ => ok = true := by
  cases ok with
  | false => exact .inr ⟨⟨error, rfl⟩, fun _ => Bool.false_ne_true⟩
  | true => exact .inl ⟨(), rfl, fun _ => ⟨fun _ => rfl, fun _ => rfl⟩⟩

theorem Decides.bind {h : Handler Uuid α} {f : α → Handler Uuid β} {holds : α → Prop} {next : α → β → Prop}
    (first : Decides db h holds) (rest : ∀ a, holds a → Decides db (f a) (next a)) :
    Decides db (h >>= f) fun b => ∃ a, holds a ∧ next a b := by
  rcases first with ⟨a, answers, one⟩ | ⟨⟨e, refuses⟩, none_⟩
  · have only : ∀ b, (∃ a', holds a' ∧ next a' b) ↔ next a b := by
      intro b
      constructor
      · rintro ⟨a', ok, further⟩
        exact (one a').mp ok ▸ further
      · exact fun further => ⟨a, (one a).mpr rfl, further⟩
    have later := (rest a ((one a).mpr rfl)).congr fun b => (only b).symm
    rcases later with ⟨b, answers', one'⟩ | ⟨⟨e, refuses⟩, none_⟩
    · exact .inl ⟨b, (act_bind_ok answers f).trans answers', one'⟩
    · exact .inr ⟨⟨e, (act_bind_ok answers f).trans refuses⟩, none_⟩
  · refine .inr ⟨⟨e, by rw [act_bind, refuses]⟩, ?_⟩
    rintro b ⟨a, ok, -⟩
    exact none_ a ok

theorem decides_when {c : Prop} [Decidable c] {h : Handler Uuid Unit} {holds : Prop}
    (decides : c → Decides db h fun _ => holds) : Decides db (if c then h else pure ()) fun _ => c → holds := by
  by_cases asked : c
  · rw [if_pos asked]
    exact (decides asked).congr fun _ => ⟨fun ok _ => ok, fun all => all asked⟩
  · rw [if_neg asked]
    exact (decides_pure ()).congr fun _ => ⟨fun _ there => absurd there asked, fun _ => rfl⟩

theorem decides_given {h : Option β → Handler Uuid Unit} {holds : β → Prop} (nothing : h none = pure ())
    (each : ∀ b, Decides db (h (some b)) fun _ => holds b) (given : Option β) :
    Decides db (h given) fun _ => ∀ b, given = some b → holds b := by
  rcases given with _ | b
  · rw [nothing]
    exact (decides_pure ()).congr fun _ => ⟨fun _ _ same => (Option.some_ne_none _ same.symm).elim, fun _ => rfl⟩
  · refine (each b).congr fun _ => ?_
    constructor
    · intro ok other same
      exact Option.some.inj same ▸ ok
    · exact fun all => all b rfl

section Checks
variable [DecidableEq Uuid] (token : Claims Uuid) (userId : Uuid) (payload : UpdateUserRequest) (platform : Platform)

variable (db) in
theorem decides_requireUser (missing : String) :
    Decides db (requireUser userId missing) fun row => db.findUserById userId = some row := by
  rcases found : db.findUserById userId with _ | row
  · exact .inr ⟨⟨_, act_requireUser_missing found missing⟩, fun _ same => by cases same⟩
  · exact .inl ⟨row, act_requireUser found missing,
      fun b => ⟨fun same => (Option.some.inj same).symm, fun same => by rw [same]⟩⟩

variable (db) in
theorem decides_userHasPermission (key : String) :
    Decides db (userHasPermission userId key) (· = decide (key ∈ db.permissionsOf userId)) :=
  .inl ⟨_, act_userHasPermission userId key, fun _ => Iff.rfl⟩

variable (db) in
theorem decides_userEffectiveLevel : Decides db (userEffectiveLevel userId) (· = db.levelOf userId) :=
  .inl ⟨_, act_userEffectiveLevel userId, fun _ => Iff.rfl⟩

theorem decides_authUser : Decides db (authUser token) fun row => db.findUserById token.userId = some row ∧
    row.isActive = true ∧ token.tokenVersion = row.tokenVersion := by
  have steps := (decides_requireUser db token.userId "User not found").bind fun user _ =>
    (decides_require _ user.isActive (.forbidden "User account is inactive")).bind fun _ _ =>
      (decides_require _ (decide (token.tokenVersion = user.tokenVersion))
        (.unauthorized "Invalid authentication token")).bind
        fun _ _ => decides_pure user
  refine Decides.congr steps fun row => ?_
  constructor
  · rintro ⟨user, found, _, active, _, current, rfl⟩
    exact ⟨found, active, of_decide_eq_true current⟩
  · rintro ⟨found, active, current⟩
    exact ⟨row, found, (), active, (), decide_eq_true current, rfl⟩

theorem decides_requireOwnOrManager : Decides db (requireOwnOrManager token.userId userId) fun _ =>
    token.userId ≠ userId → "users.manage" ∈ db.permissionsOf token.userId := by
  refine decides_when fun _ => ?_
  have steps := (decides_userHasPermission db token.userId "users.manage").bind fun manages _ =>
    decides_require _ manages (.forbidden "You can only update your own profile")
  exact Decides.congr steps fun _ => exists_eq_left.trans decide_eq_true_iff

theorem decides_requireManagerForStatus : Decides db (requireManagerForStatus token.userId payload) fun _ =>
    "users.manage" ∈ db.permissionsOf token.userId ∨ (payload.isActive = none ∧ payload.role = none) := by
  have steps := (decides_userHasPermission db token.userId "users.manage").bind fun manages _ =>
    decides_require _ (manages || (payload.isActive.isNone && payload.role.isNone))
      (.forbidden "You cannot modify account status or role")
  refine Decides.congr steps fun _ => exists_eq_left.trans ?_
  simp only [Bool.or_eq_true, Bool.and_eq_true, Option.isNone_iff_eq_none, decide_eq_true_eq]

theorem decides_requireGrantable (role : Option String) : Decides db (requireGrantable token.userId role) fun _ =>
    ∀ name, role = some name →
      Role.isTier name = true ∧ (name = Role.admin → "admin.access" ∈ db.permissionsOf token.userId) := by
  refine decides_given (h := requireGrantable token.userId) rfl (fun name => ?_) role
  have admin : Decides db (do
      if name = Role.admin then
        require (← userHasPermission token.userId "admin.access") (.forbidden "Only admins can assign admin role"))
      fun _ => name = Role.admin → "admin.access" ∈ db.permissionsOf token.userId := by
    refine decides_when fun _ => ?_
    have steps := (decides_userHasPermission db token.userId "admin.access").bind fun admin _ =>
      decides_require _ admin (.forbidden "Only admins can assign admin role")
    exact Decides.congr steps fun _ => exists_eq_left.trans decide_eq_true_iff
  have steps := (decides_require db (Role.isTier name) (.badRequest ("unknown role: " ++ name))).bind fun _ _ => admin
  refine Decides.congr steps fun _ => ?_
  constructor
  · rintro ⟨_, tier, granted⟩
    exact ⟨tier, granted⟩
  · rintro ⟨tier, granted⟩
    exact ⟨(), tier, granted⟩

theorem decides_requireBelow : Decides db (requireBelow token.userId userId) fun _ =>
    token.userId ≠ userId → db.levelOf userId < db.levelOf token.userId := by
  refine decides_when fun _ => ?_
  have steps := (decides_userEffectiveLevel db token.userId).bind fun callerLevel _ =>
    (decides_userEffectiveLevel db userId).bind fun targetLevel _ =>
      decides_require _ (decide (targetLevel < callerLevel))
        (.forbidden "You cannot modify a user at or above your own access level")
  refine Decides.congr steps fun _ => exists_eq_left.trans (exists_eq_left.trans ?_)
  exact decide_eq_true_iff

theorem decides_requireCurrentPassword (existing : UserRow) :
    Decides db (requireCurrentPassword platform token.userId userId existing payload) fun _ =>
      token.userId = userId ∧ (payload.password.isSome ∨ payload.email.any (· ≠ existing.email)) →
        ∃ password, payload.currentPassword = some password ∧
          platform.verify password existing.passwordHash = true := by
  refine decides_when fun _ => ?_
  refine (decides_require _ _ _).congr fun _ => ?_
  exact Option.any_eq_true _ _

omit [DecidableEq Uuid] in
theorem decides_hashNewPassword (salt : String) :
    Decides db (hashNewPassword platform payload.password salt) (payload.Hashes platform salt) := by
  unfold UpdateUserRequest.Hashes
  rcases payload.password with _ | password
  · exact decides_pure none
  · have long := decides_require db (decide (platform.passwordMinLength ≤ password.utf8ByteSize))
      (.badRequest ("Password must be at least " ++ toString platform.passwordMinLength ++ " characters long"))
    rcases made : platform.hash password salt with _ | hashed
    · have steps := long.bind fun _ _ =>
        decides_throw (α := Option String) (.internalServerError "Failed to hash password")
      simp only [hashNewPassword, made]
      refine Decides.congr steps fun other => ?_
      constructor
      · rintro ⟨_, -, never⟩
        exact never.elim
      · rintro ⟨-, some_, rfl⟩
        cases some_
    · have steps := long.bind fun _ _ => decides_pure (some hashed)
      simp only [hashNewPassword, made]
      refine Decides.congr steps fun other => ?_
      constructor
      · rintro ⟨_, enough, rfl⟩
        exact ⟨of_decide_eq_true enough, rfl, rfl⟩
      · rintro ⟨enough, -, same⟩
        exact ⟨(), decide_eq_true enough, same.symm⟩

omit [DecidableEq Uuid] in
theorem decides_requireFreeEmail (newPrimary : Option String) :
    Decides db (requireFreeEmail platform newPrimary) fun _ => ∀ email, newPrimary = some email →
      '@' ∈ email.toList ∧ db.findUserByEmail platform.toCollation email = none := by
  refine decides_given (h := requireFreeEmail platform) rfl (fun email => ?_) newPrimary
  have steps := (decides_require db (decide ('@' ∈ email.toList)) (.badRequest "Invalid email format")).bind
    fun _ _ => (decides_read db (·.findUserByEmail platform.toCollation email)).bind fun found _ =>
      decides_require _ found.isNone (.conflict "Email already exists")
  refine Decides.congr steps fun _ => ?_
  constructor
  · rintro ⟨_, there, _, rfl, free⟩
    exact ⟨of_decide_eq_true there, Option.isNone_iff_eq_none.mp free⟩
  · rintro ⟨there, free⟩
    exact ⟨(), decide_eq_true there, _, rfl, Option.isNone_iff_eq_none.mpr free⟩

omit [DecidableEq Uuid] in
theorem decides_requireFreeUsername (existing : UserRow) (username : Option String) :
    Decides db (requireFreeUsername existing username) fun _ => ∀ name, username = some name →
      name ≠ existing.username → name ≠ "" ∧ db.findUserByUsername name = none := by
  refine decides_given (h := requireFreeUsername existing) rfl (fun name => ?_) username
  refine decides_when fun _ => ?_
  have steps := (decides_require db (decide (name ≠ "")) (.badRequest "Username cannot be empty")).bind
    fun _ _ => (decides_read db (·.findUserByUsername name)).bind fun found _ =>
      decides_require _ found.isNone (.conflict "Username already exists")
  refine Decides.congr steps fun _ => ?_
  constructor
  · rintro ⟨_, some_, _, rfl, free⟩
    exact ⟨of_decide_eq_true some_, Option.isNone_iff_eq_none.mp free⟩
  · rintro ⟨some_, free⟩
    exact ⟨(), decide_eq_true some_, _, rfl, Option.isNone_iff_eq_none.mpr free⟩

variable (db) in
/-- The request fails one of its checks, or it goes on from the row and the hash it passed them with. -/
theorem updateUser_admitted (salt : String) (now : Int) :
    (∃ existing hashed, Admitted platform db token userId payload salt existing hashed ∧
      Alike db (updateUser platform token userId payload salt now) (do
        let _ ← write (.updateUser userId (payload.updates hashed))
        replacePrimaryEmail userId (payload.newPrimary existing) now
        applyRequestedRole userId payload.role)) ∨
    (∃ e, Alike db (updateUser platform token userId payload salt now) (throw e)) ∧
      ∀ existing hashed, ¬ Admitted platform db token userId payload salt existing hashed := by
  rw [updateUser]
  rcases (decides_authUser token).follow _ with ⟨caller, isCaller, same⟩ | ⟨⟨e, same⟩, none_⟩
  rotate_left
  · refine .inr ⟨⟨e, same⟩, fun existing hashed admitted => ?_⟩
    obtain ⟨row, known⟩ := admitted.caller
    exact none_ row known
  rcases (decides_requireOwnOrManager token userId).follow _ with ⟨_, own, next⟩ | ⟨⟨e, next⟩, none_⟩
  rotate_left
  · exact .inr ⟨⟨e, same.trans next⟩, fun existing hashed admitted => none_ () admitted.ownOrManager⟩
  replace same := same.trans next
  rcases (decides_requireManagerForStatus token payload).follow _ with ⟨_, status, next⟩ | ⟨⟨e, next⟩, none_⟩
  rotate_left
  · exact .inr ⟨⟨e, same.trans next⟩, fun existing hashed admitted => none_ () admitted.status⟩
  replace same := same.trans next
  rcases (decides_requireGrantable token payload.role).follow _ with ⟨_, grantable, next⟩ | ⟨⟨e, next⟩, none_⟩
  rotate_left
  · exact .inr ⟨⟨e, same.trans next⟩, fun existing hashed admitted => none_ () admitted.grantable⟩
  replace same := same.trans next
  rcases (decides_requireUser _ userId "User not found").follow _ with ⟨existing, isFound, next⟩ | ⟨⟨e, next⟩, none_⟩
  rotate_left
  · exact .inr ⟨⟨e, same.trans next⟩, fun existing hashed admitted => none_ existing admitted.found⟩
  replace same := same.trans next
  have found : db.findUserById userId = some existing := (isFound existing).mpr rfl
  -- the checks from here on are about this row
  have theRow : ∀ {other hashed}, Admitted platform db token userId payload salt other hashed → other = existing :=
    fun admitted => (isFound _).mp admitted.found
  rcases (decides_requireBelow token userId).follow _ with ⟨_, below, next⟩ | ⟨⟨e, next⟩, none_⟩
  rotate_left
  · exact .inr ⟨⟨e, same.trans next⟩, fun existing hashed admitted => none_ () admitted.below⟩
  replace same := same.trans next
  rcases (decides_requireCurrentPassword token userId payload platform existing).follow _ with
    ⟨_, current, next⟩ | ⟨⟨e, next⟩, none_⟩
  rotate_left
  · refine .inr ⟨⟨e, same.trans next⟩, fun other hashed admitted => ?_⟩
    obtain rfl := theRow admitted
    exact none_ () admitted.current
  replace same := same.trans next
  rcases (decides_hashNewPassword payload platform salt).follow _ with ⟨hashed, isHash, next⟩ | ⟨⟨e, next⟩, none_⟩
  rotate_left
  · exact .inr ⟨⟨e, same.trans next⟩, fun existing hashed admitted => none_ hashed admitted.hashes⟩
  replace same := same.trans next
  rcases (decides_requireFreeEmail platform (payload.newPrimary existing)).follow _ with
    ⟨_, freeEmail, next⟩ | ⟨⟨e, next⟩, none_⟩
  rotate_left
  · refine .inr ⟨⟨e, same.trans next⟩, fun other hashed admitted => ?_⟩
    obtain rfl := theRow admitted
    exact none_ () admitted.freeEmail
  replace same := same.trans next
  rcases (decides_requireFreeUsername existing payload.username).follow _ with
    ⟨_, freeUsername, next⟩ | ⟨⟨e, next⟩, none_⟩
  rotate_left
  · refine .inr ⟨⟨e, same.trans next⟩, fun other hashed admitted => ?_⟩
    obtain rfl := theRow admitted
    exact none_ () admitted.freeUsername
  refine .inl ⟨existing, hashed, ?_, same.trans next⟩
  exact {
    caller := ⟨caller, (isCaller caller).mpr rfl⟩
    ownOrManager := (own ()).mpr rfl
    status := (status ()).mpr rfl
    grantable := (grantable ()).mpr rfl
    found := found
    below := (below ()).mpr rfl
    current := (current ()).mpr rfl
    hashes := (isHash hashed).mpr rfl
    freeEmail := (freeEmail ()).mpr rfl
    freeUsername := (freeUsername ()).mpr rfl }

end Checks

theorem run_write_bind (change : Change Uuid) (f : Nat → Handler Uuid α) :
    (write change >>= f).run = .write change fun reply => (ofReply reply >>= f).run := rfl

end Handler

section Statements
variable {Uuid : Type} [DecidableEq Uuid] {db : DatabaseManager Uuid} {userId : Uuid} {payload : UpdateUserRequest}
  {platform : Platform} {refuses : Change Uuid → Option DbError} {now : Int} {existing : UserRow}
  {hashed : Option String}
open DatabaseManager

theorem execute_of_refused {collation : Collation} {change : Change Uuid} {e : DbError}
    (refused : refuses change = some e) :
    db.execute collation refuses change = (db, .failed e) := by rw [execute, refused]

theorem execute_of_none {collation : Collation} {change : Change Uuid} (taken : refuses change = none) :
    db.execute collation refuses change = db.perform collation change := by rw [execute, taken]

variable (payload platform refuses hashed) in
/-- The row is written as the request has it, or the statement is refused. -/
theorem execute_updateUser (found : db.findUserById userId = some existing) :
    let change : Change Uuid := .updateUser userId (payload.updates hashed)
    (RowAccepted db userId payload refuses hashed ∧
      db.execute platform.toCollation refuses change =
        ({ db with users := db.users.insert userId ((payload.updates hashed).set existing) }, .rows 1)) ∨
    (¬ RowAccepted db userId payload refuses hashed ∧
      ∃ e, db.execute platform.toCollation refuses change = (db, .failed e)) := by
  intro change
  rcases taken : refuses change with _ | e
  rotate_left
  · refine .inr ⟨fun accepted => ?_, e, execute_of_refused taken⟩
    rw [accepted.accepted] at taken
    cases taken
  rw [execute_of_none taken, perform, DatabaseManager.updateUser, found]
  by_cases clash : ((payload.updates hashed).username.any fun name =>
      db.users.entries.any fun user => user.1 ≠ userId && user.2.username = name) = true
  · refine .inr ⟨fun accepted => ?_, .uniqueViolation, by simp only [if_pos clash]; rfl⟩
    obtain ⟨name, named, held⟩ := (Option.any_eq_true _ _).mp clash
    obtain ⟨other, there, same⟩ := List.any_eq_true.mp held
    rw [Bool.and_eq_true, decide_eq_true_eq, decide_eq_true_eq] at same
    exact accepted.unique name named other there same.1 same.2
  · refine .inl ⟨⟨taken, fun name named other there apart same => clash ?_⟩, by simp only [if_neg clash]; rfl⟩
    refine (Option.any_eq_true _ _).mpr ⟨name, named, List.any_eq_true.mpr ⟨other, there, ?_⟩⟩
    rw [Bool.and_eq_true, decide_eq_true_eq, decide_eq_true_eq]
    exact ⟨apart, same⟩

variable (db userId) in
/-- As many addresses go with the user's primary ones as there are of these. -/
theorem countP_primary (claimed : UserEmail Uuid → Bool) (keeps : ∀ row, row.isPrimary = true → claimed row = true) :
    ((db.userEmails.filter claimed).length = ((db.userEmails.filter claimed).filter fun row =>
        ¬(row.userId = userId ∧ row.isPrimary = true)).length + 1) ↔
      (db.userEmails.countP fun row => row.userId = userId ∧ row.isPrimary = true) = 1 := by
  have whole := List.length_eq_countP_add_countP (l := db.userEmails.filter claimed)
    fun row => decide (row.userId = userId ∧ row.isPrimary = true)
  have own : (db.userEmails.filter claimed).countP (fun row => decide (row.userId = userId ∧ row.isPrimary = true)) =
      db.userEmails.countP fun row => decide (row.userId = userId ∧ row.isPrimary = true) := by
    rw [List.countP_filter]
    refine List.countP_congr fun row _ => ?_
    simp only [Bool.and_eq_true, decide_eq_true_eq]
    exact ⟨fun both => both.1, fun primary => ⟨primary, keeps row primary.2⟩⟩
  have rest :
    ((db.userEmails.filter claimed).filter fun row => ¬(row.userId = userId ∧ row.isPrimary = true)).length =
      (db.userEmails.filter claimed).countP fun row => ¬ decide (row.userId = userId ∧ row.isPrimary = true) =
        true := by
    rw [← List.countP_eq_length_filter]
    refine List.countP_congr fun row _ => ?_
    simp
  rw [own] at whole
  rw [rest]
  omega

variable (platform refuses now) in
/-- The address is taken for the primary one, or the statement is refused. -/
theorem execute_replacePrimaryUserEmail (found : db.findUserById userId = some existing) (email : String) :
    let change : Change Uuid := .replacePrimaryUserEmail userId email (Handler.staleClaimCutoff now) now
    (¬ AddressRefused platform db userId refuses now email ∧
      ∃ after, db.execute platform.toCollation refuses change = (after, .rows 1) ∧
        (after.findUserById userId).isSome) ∨
    (AddressRefused platform db userId refuses now email ∧
      ∃ e, db.execute platform.toCollation refuses change = (db, .failed e)) := by
  intro change
  rcases taken : refuses change with _ | e
  rotate_left
  · refine .inr ⟨.inl ?_, e, execute_of_refused taken⟩
    rw [taken]
    exact Option.some_ne_none e
  have one := countP_primary db userId
    (fun row => decide ¬(platform.lower row.email = platform.toLowercase (trim email) ∧ row.verifiedAt = none ∧
      row.isPrimary = false ∧ row.createdAt < Handler.staleClaimCutoff now)) fun row primary => by
        rw [decide_eq_true_eq, primary]
        rintro ⟨-, -, not_, -⟩
        cases not_
  rw [execute_of_none taken, perform, DatabaseManager.replacePrimaryUserEmail, found]
  by_cases removed : (db.userEmails.countP fun row => row.userId = userId ∧ row.isPrimary = true) = 1
  rotate_left
  · refine .inr ⟨.inr (.inl removed), .notFound, ?_⟩
    simp only [if_pos (mt one.mp removed)]
    rfl
  simp only [if_neg (not_not_intro (one.mpr removed))]
  split
  next held =>
    obtain ⟨other, there, same⟩ := List.any_eq_true.mp held
    rw [List.mem_filter, List.mem_filter, decide_eq_true_eq, decide_eq_true_eq] at there
    exact .inr ⟨.inr (.inr ⟨other, there.1.1, of_decide_eq_true same, there.2, there.1.2⟩), .uniqueViolation, rfl⟩
  next free =>
    refine .inl ⟨?_, _, rfl, ?_⟩
    · rintro (refused | several | ⟨other, there, same, apart, stays⟩)
      · exact refused taken
      · exact several removed
      · refine free (List.any_eq_true.mpr ⟨other, ?_, decide_eq_true same⟩)
        rw [List.mem_filter, List.mem_filter, decide_eq_true_eq, decide_eq_true_eq]
        exact ⟨⟨there, stays⟩, apart⟩
    · rw [findUserById, AList.lookup_insert]
      rfl

variable (platform) in
theorem execute_setUserPrimaryRole (known : (db.findUserById userId).isSome) {roleName : String}
    (taken : refuses (.setUserPrimaryRole userId roleName) = none) :
    ∃ after n, db.execute platform.toCollation refuses (.setUserPrimaryRole userId roleName) = (after, .rows n) := by
  rw [execute_of_none taken]
  simp only [perform, DatabaseManager.setUserPrimaryRole]
  rcases found : db.roles.find? fun role => role.name = roleName with _ | role
  all_goals simp only [found]
  · exact ⟨_, _, rfl⟩
  · have stored : (db.getRole role.id).isSome :=
      List.find?_isSome.mpr ⟨role, List.mem_of_find?_eq_some found, decide_eq_true rfl⟩
    rcases insertUserRole_spec { db with userRoles := db.userRoles.filter fun row =>
        ¬(row.1 = userId ∧ row.2 ∈ db.tierIds) } userId role.id with
      ⟨n, inserted⟩ | ⟨_, kept⟩ | ⟨missing | missing, refused⟩
    · rw [inserted]
      exact ⟨_, n, rfl⟩
    · rw [kept]
      exact ⟨_, 0, rfl⟩
    · have absent : db.findUserById userId = none := missing
      rw [absent] at known
      cases known
    · have absent : db.getRole role.id = none := missing
      rw [absent] at stored
      cases stored

open Handler

variable (platform refuses) in
/-- The role is set, unless the statement is refused. -/
theorem solo_applyRequestedRole_iff (known : (db.findUserById userId).isSome) (role : Option String) :
    (∃ e, ((applyRequestedRole userId role).run.solo (DatabaseManager.execute platform.toCollation refuses) db).2 =
        .error e) ↔
      ∃ name, role = some name ∧ refuses (.setUserPrimaryRole userId name) ≠ none := by
  rcases role with _ | name
  · constructor
    · rintro ⟨e, answer⟩
      cases answer
    · rintro ⟨name, asked, -⟩
      cases asked
  have run : (applyRequestedRole userId (some name)).run = .write (.setUserPrimaryRole userId name) fun reply =>
      (ofReply reply >>= fun _ => pure ()).run := run_write_bind _ _
  rw [run, Routine.solo]
  rcases taken : refuses (.setUserPrimaryRole userId name) with _ | e
  · obtain ⟨after, n, made⟩ := execute_setUserPrimaryRole platform known taken
    simp only [made]
    constructor
    · rintro ⟨e, answer⟩
      cases answer
    · rintro ⟨other, asked, refused⟩
      obtain rfl := Option.some.inj asked
      exact absurd taken refused
  · simp only [execute_of_refused taken]
    exact ⟨fun _ => ⟨name, rfl, by rw [taken]; exact Option.some_ne_none e⟩, fun _ => ⟨_, rfl⟩⟩

variable (platform refuses now) in
/-- After the row the rest of the request is refused exactly if one of its statements is. -/
theorem solo_rest_iff (found : db.findUserById userId = some existing) (newPrimary role : Option String) :
    (∃ e, ((do
        replacePrimaryEmail userId newPrimary now
        applyRequestedRole userId role : Handler Uuid Unit).run.solo
          (DatabaseManager.execute platform.toCollation refuses) db).2 = .error e) ↔
      ((∃ email, newPrimary = some email ∧ AddressRefused platform db userId refuses now email) ∨
        ∃ name, role = some name ∧ refuses (.setUserPrimaryRole userId name) ≠ none) := by
  have known : (db.findUserById userId).isSome := by rw [found]; rfl
  rcases newPrimary with _ | email
  · have kept : Alike db (replacePrimaryEmail userId none now >>= fun _ => applyRequestedRole userId role)
        (applyRequestedRole userId role) :=
      alike_bind (show (replacePrimaryEmail userId none now).act db = .inl (.ok ()) from rfl) _
    rw [(kept _).1, solo_applyRequestedRole_iff platform refuses known]
    constructor
    · exact .inr
    · rintro (⟨email, none_, -⟩ | refused)
      · cases none_
      · exact refused
  · rcases execute_replacePrimaryUserEmail platform refuses now found email with
      ⟨accepted, after, made, known'⟩ | ⟨refused, e, made⟩
    · obtain ⟨row, found'⟩ := Option.isSome_iff_exists.mp known'
      have answered : (do
          let _ ← ofReply (.rows 1)
          let _ ← requireUser userId "User not found" : Handler Uuid Unit).act after = .inl (.ok ()) := by
        rw [act_bind_ok (a := 1) rfl, act_bind_ok (act_requireUser found' _)]
        rfl
      have kept := (alike_bind answered fun _ => applyRequestedRole userId role)
        (DatabaseManager.execute platform.toCollation refuses)
      have role_ := solo_applyRequestedRole_iff platform refuses known' role
      have lands : (do
          replacePrimaryEmail userId (some email) now
          applyRequestedRole userId role : Handler Uuid Unit).run.solo
            (DatabaseManager.execute platform.toCollation refuses) db =
          (applyRequestedRole userId role).run.solo (DatabaseManager.execute platform.toCollation refuses) after :=
        (Routine.solo_of_write rfl made).trans kept.1
      rw [lands]
      refine role_.trans ?_
      constructor
      · exact .inr
      · rintro (⟨other, same, refused⟩ | refused)
        · obtain rfl := Option.some.inj same
          exact absurd refused accepted
        · exact refused
    · have lands : (do
          replacePrimaryEmail userId (some email) now
          applyRequestedRole userId role : Handler Uuid Unit).run.solo
            (DatabaseManager.execute platform.toCollation refuses) db = _ := Routine.solo_of_write rfl made
      rw [lands]
      constructor
      · exact fun _ => .inl ⟨email, rfl, refused⟩
      · intro _
        cases e <;> exact ⟨_, rfl⟩

/-- What a request does once it passes its checks. -/
theorem solo_edit_iff (found : db.findUserById userId = some existing) (newPrimary : Option String) :
    let execute := DatabaseManager.execute platform.toCollation refuses
    let edit : Handler Uuid Unit := do
      let _ ← write (.updateUser userId (payload.updates hashed))
      replacePrimaryEmail userId newPrimary now
      applyRequestedRole userId payload.role
    (∀ e, (edit.run.solo execute db).2 = .error e → (edit.run.solo execute db).1 = db ∧
        ∀ landed ∈ edit.run.soloWrites execute db, ∃ why, (execute landed.1 landed.2).2 = .failed why) ↔
      ¬ (RowAccepted db userId payload refuses hashed ∧
        ((∃ email, newPrimary = some email ∧ AddressRefused platform db userId refuses now email) ∨
          ∃ role, payload.role = some role ∧ refuses (.setUserPrimaryRole userId role) ≠ none)) := by
  intro execute edit
  have run : edit.run = .write (.updateUser userId (payload.updates hashed)) fun reply =>
      (ofReply reply >>= fun _ => do
        replacePrimaryEmail userId newPrimary now
        applyRequestedRole userId payload.role).run := run_write_bind _ _
  rw [run, Routine.solo, Routine.soloWrites]
  rcases execute_updateUser payload platform refuses hashed found
    with ⟨accepted, made⟩ | ⟨refused, e, made⟩
  · have made' : execute db (.updateUser userId (payload.updates hashed)) = _ := made
    have found' : DatabaseManager.findUserById { db with
        users := db.users.insert userId ((payload.updates hashed).set existing) } userId =
        some ((payload.updates hashed).set existing) := AList.lookup_insert _
    have rest := solo_rest_iff platform refuses now found' newPrimary payload.role
    simp only [made']
    constructor
    · rintro unchanged ⟨-, stranded⟩
      obtain ⟨e, answer⟩ := rest.mpr stranded
      obtain ⟨why, failed⟩ := (unchanged e answer).2 _ (List.mem_cons_self ..)
      rw [made'] at failed
      cases failed
    · intro unstranded e answer
      exact absurd ⟨accepted, rest.mp ⟨e, answer⟩⟩ unstranded
  · have made' : execute db (.updateUser userId (payload.updates hashed)) = _ := made
    simp only [made']
    constructor
    · rintro - ⟨accepted, -⟩
      exact refused accepted
    · intro _ _ _
      refine ⟨rfl, fun landed there => ?_⟩
      obtain rfl := List.mem_singleton.mp there
      exact ⟨e, by rw [made']⟩

theorem Admitted.unique {token : Claims Uuid} {salt : String} {existing' : UserRow} {hashed' : Option String}
    (admitted : Admitted platform db token userId payload salt existing hashed)
    (admitted' : Admitted platform db token userId payload salt existing' hashed') :
    existing' = existing ∧ hashed' = hashed := by
  refine ⟨Option.some.inj (admitted'.found.symm.trans admitted.found), ?_⟩
  have here := admitted.hashes
  have there := admitted'.hashes
  unfold UpdateUserRequest.Hashes at here there
  rcases named : payload.password with _ | password
  all_goals rw [named] at here there
  · exact Eq.trans there here.symm
  · exact there.2.2.symm.trans here.2.2

/-- An edit that is answered with an error changes nothing exactly if it is not left half done: it
passes its checks and its row is written, and then its address or its role is refused. -/
theorem rejectedChangesNothing_iff (platform : Platform) (db : DatabaseManager Uuid) (token : Claims Uuid)
    (userId : Uuid) (payload : UpdateUserRequest) (salt : String) (refuses : Change Uuid → Option DbError)
    (now : Int) :
    RejectedChangesNothing platform db token userId payload salt refuses now ↔
      ¬ Stranded platform db token userId payload salt refuses now := by
  rw [RejectedChangesNothing]
  rcases updateUser_admitted db token userId payload platform salt now with
    ⟨existing, hashed, admitted, same⟩ | ⟨⟨e, same⟩, none_⟩
  · obtain ⟨solo, writes⟩ := same (DatabaseManager.execute platform.toCollation refuses)
    rw [solo, writes]
    refine (solo_edit_iff admitted.found _).trans (not_congr ?_)
    constructor
    · rintro ⟨accepted, refused⟩
      exact ⟨existing, hashed, admitted, accepted, refused⟩
    · rintro ⟨existing', hashed', admitted', accepted, refused⟩
      obtain ⟨rfl, rfl⟩ := admitted.unique admitted'
      exact ⟨accepted, refused⟩
  · obtain ⟨solo, writes⟩ := same (DatabaseManager.execute platform.toCollation refuses)
    rw [solo, writes]
    constructor
    · rintro - ⟨existing, hashed, admitted, -⟩
      exact none_ existing hashed admitted
    · intro _ _ _
      exact ⟨rfl, fun landed there => by cases there⟩

end Statements

def newcomer : HexId := .repeating 3

/-- A space whose administrator manages the users, and one other account. -/
def managedSpace : DatabaseManager HexId :=
  { oneAdmin with
    users := oneAdmin.users.insert newcomer ⟨"cy", "cy@space", "", "Cy", true, 0⟩
    userEmails := oneAdmin.userEmails ++ [⟨newcomer, "cy@space", true, some 0, 0⟩]
    rbacGraph := .fromRows [adminRole] [(adminRole.id, "admin.access"), (adminRole.id, "users.manage")] [] }

/-- The account is to be set inactive, under another address, which has a NUL in it. -/
def nulRequest : UpdateUserRequest :=
  ⟨none, some (String.ofList ['c', Char.ofNat 0, '@', 's']), none, none, none, some false, none⟩

/-- The request is refused for its address, and the account is inactive. -/
theorem rejected_edit_deactivates :
    ¬ RejectedChangesNothing plainPlatform managedSpace ⟨ada, 0⟩ newcomer nulRequest ""
      (refuseNul plainPlatform.toCollation) 0 := by
  intro unchanged
  have answer : ((Handler.updateUser plainPlatform ⟨ada, 0⟩ newcomer nulRequest "" 0).run.solo
      (DatabaseManager.execute plainPlatform.toCollation (refuseNul plainPlatform.toCollation)) managedSpace).2 =
      .error (.badRequest "Text contained characters this database cannot store") := by decide +kernel
  have inactive : ((Handler.updateUser plainPlatform ⟨ada, 0⟩ newcomer nulRequest "" 0).run.solo
      (DatabaseManager.execute plainPlatform.toCollation (refuseNul plainPlatform.toCollation))
      managedSpace).1.activeIds = [ada] := by decide +kernel
  rw [(unchanged _ answer).1] at inactive
  exact absurd inactive (by decide +kernel)

end CoopSpaces

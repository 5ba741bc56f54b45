import CoopSpaces.Server.AccountAddresses
import CoopSpaces.Server.LastAdmin

namespace CoopSpaces

/-- A request that would give an account an address. -/
inductive AddressClaim (Uuid : Type)
  | add (token : Claims Uuid) (userId : Uuid) (email : String) (currentPassword : Option String)
  | replace (token : Claims Uuid) (userId : Uuid) (email : String) (payload : UpdateUserRequest) (salt : String)
  | register (payload : RegisterRequest) (verdict : RegistrationVerdict) (id : Uuid) (salt : String)

namespace DatabaseManager
variable {Uuid : Type}

/-- Claims to the address there are, and each has gone stale. -/
def HeldByStale (db : DatabaseManager Uuid) (collation : Collation) (email : String) (staleBefore : Int) : Prop :=
  (∃ row ∈ db.userEmails, holds collation email row = true) ∧
    ∀ row ∈ db.userEmails, holds collation email row = true → stale staleBefore row = true

/-- The address is confirmed, or primary, or its claim is fresh. -/
def HeldLive (db : DatabaseManager Uuid) (collation : Collation) (email : String) (staleBefore : Int) : Prop :=
  ∃ row ∈ db.userEmails, holds collation email row = true ∧ stale staleBefore row = false

theorem findUserByEmail_isNone {db : DatabaseManager Uuid} {collation : Collation} {email : String}
    {row : UserEmail Uuid}
    (listed : row ∈ db.userEmails) (held : holds collation email row = true) :
    (db.findUserByEmail collation email).isNone = false := by
  have found :
      (db.userEmails.find? fun row => collation.lower row.email = collation.toLowercase (trim email)).isSome :=
    List.find?_isSome.mpr ⟨row, listed, held⟩
  rw [findUserByEmail, Option.isNone_map, Option.isNone_eq_false_iff]
  exact found

end DatabaseManager

namespace AddressClaim
variable {Uuid : Type}

def address : AddressClaim Uuid → String
  | .add _ _ email _ => trim email
  | .replace _ _ email _ _ => email
  | .register payload _ _ _ => payload.email

variable [DecidableEq Uuid]

def serve (platform : Platform) (rules : RegistrationRules) (now : Int) : AddressClaim Uuid → AccountHandler Uuid Unit
  | .add token userId email currentPassword =>
    AccountHandler.addUserEmail platform token userId email currentPassword now
  | .replace token userId email payload salt =>
    AccountHandler.updateUser platform token userId { payload with email := some email } salt now
  | .register payload verdict id salt => AccountHandler.register platform rules payload verdict id salt now

/-- Whether the address is held aside, nothing stands in the way of the request. -/
def Proper (platform : Platform) (rules : RegistrationRules) (db : DatabaseManager Uuid) : AddressClaim Uuid → Prop
  | .add token userId email currentPassword => ∃ caller isSelf,
    (Handler.authUser token).act db = .inl (.ok caller) ∧
    (AccountHandler.emailManager token userId).act db = .inl (.ok isSelf) ∧
    (AccountHandler.requireOwnPassword platform isSelf caller currentPassword).act db = .inl (.ok ()) ∧
    '@' ∈ (trim email).toList ∧ (db.findUserById userId).isSome
  | .replace token userId email payload salt => ∃ caller existing passwordHash,
    (Handler.authUser token).act db = .inl (.ok caller) ∧
    (Handler.requireOwnOrManager token.userId userId).act db = .inl (.ok ()) ∧
    (Handler.requireManagerForStatus token.userId payload).act db = .inl (.ok ()) ∧
    (Handler.requireGrantable token.userId payload.role).act db = .inl (.ok ()) ∧
    (Handler.requireUser userId "User not found").act db = .inl (.ok existing) ∧
    (Handler.requireBelow token.userId userId).act db = .inl (.ok ()) ∧
    (Handler.requireCurrentPassword platform token.userId userId existing
      { payload with email := some email }).act db =
      .inl (.ok ()) ∧
    (Handler.hashNewPassword platform payload.password salt).act db = .inl (.ok passwordHash) ∧
    email ≠ existing.email ∧ '@' ∈ email.toList ∧
    (Handler.requireFreeUsername existing payload.username).act db = .inl (.ok ())
  | .register payload verdict _ salt =>
    AccountHandler.registrationChecks rules platform.passwordMinLength payload verdict = .ok () ∧
    db.findUserByUsername payload.username = none ∧ (platform.hash payload.password salt).isSome

/-- A stale claim makes way for the request, and one that is not stops it. -/
structure MeetsClaims (platform : Platform) (rules : RegistrationRules) (db : DatabaseManager Uuid) (now : Int)
    (request : AddressClaim Uuid) : Prop where
  displaces : db.HeldByStale platform.toCollation request.address (Handler.staleClaimCutoff now) →
    ((request.serve platform rules now).solo platform.toCollation db).2 = .ok () ∧
      ∀ row ∈ db.userEmails, DatabaseManager.holds platform.toCollation request.address row = true →
        row ∉ ((request.serve platform rules now).solo platform.toCollation db).1.userEmails
  yields : db.HeldLive platform.toCollation request.address (Handler.staleClaimCutoff now) →
    (request.serve platform rules now).solo platform.toCollation db =
      (db, .error (.api (.conflict "Email already exists")))

variable {platform : Platform} {rules : RegistrationRules} {db : DatabaseManager Uuid} {now : Int}

theorem act_add_held {token : Claims Uuid} {userId : Uuid} {email : String} {currentPassword : Option String}
    (proper : Proper platform rules db (.add token userId email currentPassword))
    (found : (db.findUserByEmail platform.toCollation (trim email)).isNone = false) :
    (AccountHandler.addUserEmail platform token userId email currentPassword now).act db =
      .inl (.error (.api (.conflict "Email already exists"))) := by
  obtain ⟨caller, isSelf, known, manager, password, shaped, _⟩ := proper
  have formed : (AccountHandler.require (decide ('@' ∈ (trim email).toList)) (.badRequest "Invalid email format") :
      AccountHandler Uuid Unit).act db = .inl (.ok ()) := by
    rw [AccountHandler.act_require, decide_eq_true shaped]
    rfl
  have refused : (AccountHandler.require (db.findUserByEmail platform.toCollation (trim email)).isNone
      (.conflict "Email already exists") : AccountHandler Uuid Unit).act db =
      .inl (.error (.api (.conflict "Email already exists"))) := by
    rw [AccountHandler.act_require, found]
    rfl
  rw [AccountHandler.addUserEmail, AccountHandler.act_bind_ok (AccountHandler.act_ofHandler known),
    AccountHandler.act_bind_ok (AccountHandler.act_ofHandler manager),
    AccountHandler.act_bind_ok (AccountHandler.act_ofHandler password), AccountHandler.act_bind_ok formed,
    AccountHandler.act_bind_ok (AccountHandler.act_read _), AccountHandler.act_bind_error refused]

theorem act_replace_held {token : Claims Uuid} {userId : Uuid} {email salt : String} {payload : UpdateUserRequest}
    (proper : Proper platform rules db (.replace token userId email payload salt))
    (found : (db.findUserByEmail platform.toCollation email).isNone = false) :
    (AccountHandler.updateUser platform token userId { payload with email := some email } salt now).act db =
      .inl (.error (.api (.conflict "Email already exists"))) := by
  obtain ⟨caller, existing, passwordHash, known, own, status, grantable, there, below, password, hashed,
      other, shaped, _⟩ :=
    proper
  have primary : (some email).filter (fun email => decide (email ≠ existing.email)) = some email :=
    Option.filter_eq_some_iff.mpr ⟨rfl, decide_eq_true other⟩
  have refused : (Handler.requireFreeEmail platform (some email) : Handler Uuid Unit).act db =
      .inl (.error (.conflict "Email already exists")) := by
    have formed : (Handler.require (decide ('@' ∈ email.toList))
      (.badRequest "Invalid email format") : Handler Uuid Unit).act db =
        .inl (.ok ()) := by
      rw [Handler.act_require, decide_eq_true shaped]
      rfl
    rw [Handler.requireFreeEmail, Handler.act_bind_ok formed, Handler.act_bind_ok (Handler.act_read _),
      Handler.act_require, found]
    rfl
  have whole : (Handler.updateUser platform token userId { payload with email := some email } salt now).act db =
      .inl (.error (.conflict "Email already exists")) := by
    have checked : (Handler.requireManagerForStatus token.userId
      { payload with email := some email } : Handler Uuid Unit).act db =
        .inl (.ok ()) := status
    rw [Handler.updateUser, Handler.act_bind_ok known, Handler.act_bind_ok own, Handler.act_bind_ok checked,
      Handler.act_bind_ok grantable, Handler.act_bind_ok there, Handler.act_bind_ok below,
        Handler.act_bind_ok password, Handler.act_bind_ok hashed]
    simp only [primary]
    rw [Handler.act_bind, refused]
  exact AccountHandler.act_ofHandler whole

theorem act_register_held {payload : RegisterRequest} {verdict : RegistrationVerdict} {id : Uuid} {salt : String}
    (proper : Proper platform rules db (.register payload verdict id salt))
    (found : (db.findUserByEmail platform.toCollation payload.email).isNone = false) :
    (AccountHandler.register platform rules payload verdict id salt now).act db =
      .inl (.error (.api (.conflict "Email already exists"))) := by
  obtain ⟨checks, freeName, _⟩ := proper
  have passed :
    (AccountHandler.check (AccountHandler.registrationChecks rules platform.passwordMinLength payload verdict) :
      AccountHandler Uuid Unit).act db = .inl (.ok ()) := by
    rw [AccountHandler.act_check, checks]
  have named : (AccountHandler.require (db.findUserByUsername payload.username).isNone
    (.conflict "Username already exists") :
      AccountHandler Uuid Unit).act db = .inl (.ok ()) := by
    rw [AccountHandler.act_require, freeName]
    rfl
  have refused : (AccountHandler.require (db.findUserByEmail platform.toCollation payload.email).isNone
      (.conflict "Email already exists") : AccountHandler Uuid Unit).act db =
      .inl (.error (.api (.conflict "Email already exists"))) := by
    rw [AccountHandler.act_require, found]
    rfl
  rw [AccountHandler.register, AccountHandler.act_bind_ok passed,
    AccountHandler.act_bind_ok (AccountHandler.act_read _), AccountHandler.act_bind_ok named,
    AccountHandler.act_bind_ok (AccountHandler.act_read _), AccountHandler.act_bind_error refused]

theorem serve_held {request : AddressClaim Uuid} (proper : request.Proper platform rules db) {row : UserEmail Uuid}
    (listed : row ∈ db.userEmails) (held : DatabaseManager.holds platform.toCollation request.address row = true) :
    (request.serve platform rules now).solo platform.toCollation db =
      (db, .error (.api (.conflict "Email already exists"))) := by
  have found := DatabaseManager.findUserByEmail_isNone listed held
  have refused : (request.serve platform rules now).act db =
      .inl (.error (.api (.conflict "Email already exists"))) := by
    cases request with
    | add token userId email currentPassword => exact act_add_held proper found
    | replace token userId email payload salt => exact act_replace_held proper found
    | register payload verdict id salt => exact act_register_held proper found
  exact AccountHandler.solo_of_act refused

theorem not_meetsClaims {request : AddressClaim Uuid} (proper : request.Proper platform rules db)
    (onlyStale : db.HeldByStale platform.toCollation request.address (Handler.staleClaimCutoff now)) :
    ¬request.MeetsClaims platform rules db now := by
  intro meets
  obtain ⟨row, listed, held⟩ := onlyStale.1
  have taken := (meets.displaces onlyStale).1
  rw [serve_held proper listed held] at taken
  cases taken

/-- What the three do is right as long as it is no stale claim that they meet. -/
theorem meets_claims_iff {request : AddressClaim Uuid} (proper : request.Proper platform rules db) :
    request.MeetsClaims platform rules db now ↔
      ¬db.HeldByStale platform.toCollation request.address (Handler.staleClaimCutoff now) := by
  constructor
  · exact fun meets onlyStale => not_meetsClaims proper onlyStale meets
  · intro notStale
    refine ⟨fun onlyStale => absurd onlyStale notStale, fun live => ?_⟩
    obtain ⟨row, listed, held, _⟩ := live
    exact serve_held proper listed held

end AddressClaim

def bob : HexId := .repeating 3

/-- Somebody once put an address on their account, and has left it unconfirmed. -/
def squattedSpace : DatabaseManager HexId :=
  { oneAdmin with
    users := oneAdmin.users.insert bob ⟨"bob", "bob@space", "", "Bob", true, 0⟩
    userEmails := oneAdmin.userEmails ++ [⟨bob, "bob@space", true, some 0, 0⟩, ⟨bob, "desk@space", false, none, 0⟩] }

def openRules : RegistrationRules where
  allowRegistration := true
  challengeEnabled := false
  phrase := ""
  throttleEnabled := false
  termsOfServiceCheckbox := false
  recaptchaEnabled := false
  setupEnabled := false
  setupAdminEmail := ""

def deskAddition : AddressClaim HexId := .add ⟨ada, 0⟩ ada "desk@space" (some "")

def deskReplacement : AddressClaim HexId :=
  .replace ⟨ada, 0⟩ ada "desk@space" ⟨none, none, none, none, some "", none, none⟩ ""

def deskRegistration : AddressClaim HexId :=
  .register ⟨"cy", "desk@space", "passwords", "Cy", none, none, none⟩ ⟨none, none⟩ (.repeating 4) ""

theorem deskAddition_proper : deskAddition.Proper plainPlatform openRules squattedSpace :=
  ⟨⟨"ada", "ada@space", "", "Ada", true, 0⟩, true, rfl, rfl, rfl, by decide +kernel, rfl⟩

theorem deskReplacement_proper : deskReplacement.Proper plainPlatform openRules squattedSpace := by
  have status : (Handler.requireManagerForStatus ada ⟨none, none, none, none, some "", none, none⟩).act
    squattedSpace =
      .inl (.ok ()) := by
    rw [Handler.requireManagerForStatus, Handler.act_bind_ok (Handler.act_userHasPermission _ _), Handler.act_require]
    simp only [Option.isNone_none, Bool.and_self, Bool.or_true, if_true]
  have password : (Handler.requireCurrentPassword plainPlatform ada ada ⟨"ada", "ada@space", "", "Ada", true, 0⟩
      ⟨none, some "desk@space", none, none, some "", none, none⟩).act squattedSpace = .inl (.ok ()) := by
    rw [Handler.requireCurrentPassword, if_pos ⟨rfl, .inr (by decide +kernel)⟩]
    rfl
  exact ⟨⟨"ada", "ada@space", "", "Ada", true, 0⟩, ⟨"ada", "ada@space", "", "Ada", true, 0⟩, none, rfl, rfl,
    status, rfl, rfl, rfl,
    password, rfl, by decide +kernel, by decide +kernel, rfl⟩

theorem deskRegistration_proper : deskRegistration.Proper plainPlatform openRules squattedSpace :=
  ⟨by decide +kernel, by decide +kernel, rfl⟩

theorem desk_heldByStale :
    squattedSpace.HeldByStale plainPlatform.toCollation "desk@space" (Handler.staleClaimCutoff (2 * 86400000)) := by
  refine ⟨⟨⟨bob, "desk@space", false, none, 0⟩, ?_, ?_⟩, ?_⟩
  all_goals decide +kernel

/-- Two days later none of the three gets the address. -/
theorem stale_claim_stays :
    (deskAddition.Proper plainPlatform openRules squattedSpace ∧
        ¬deskAddition.MeetsClaims plainPlatform openRules squattedSpace (2 * 86400000)) ∧
      (deskReplacement.Proper plainPlatform openRules squattedSpace ∧
        ¬deskReplacement.MeetsClaims plainPlatform openRules squattedSpace (2 * 86400000)) ∧
      deskRegistration.Proper plainPlatform openRules squattedSpace ∧
        ¬deskRegistration.MeetsClaims plainPlatform openRules squattedSpace (2 * 86400000) := by
  have trimmed : trim "desk@space" = "desk@space" := by decide +kernel
  have added : deskAddition.address = "desk@space" := trimmed
  have stale : squattedSpace.HeldByStale plainPlatform.toCollation deskAddition.address
      (Handler.staleClaimCutoff (2 * 86400000)) := by
    rw [added]
    exact desk_heldByStale
  exact ⟨⟨deskAddition_proper, AddressClaim.not_meetsClaims deskAddition_proper stale⟩,
    ⟨deskReplacement_proper, AddressClaim.not_meetsClaims deskReplacement_proper desk_heldByStale⟩,
    deskRegistration_proper, AddressClaim.not_meetsClaims deskRegistration_proper desk_heldByStale⟩

theorem meets_claims_desk :
    deskRegistration.MeetsClaims plainPlatform openRules squattedSpace 0 ↔
      ¬squattedSpace.HeldByStale plainPlatform.toCollation deskRegistration.address (Handler.staleClaimCutoff 0) :=
  AddressClaim.meets_claims_iff deskRegistration_proper

end CoopSpaces

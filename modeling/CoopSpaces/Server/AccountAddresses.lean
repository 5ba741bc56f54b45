import CoopSpaces.Lib.Fallible
import CoopSpaces.Server.UserAdmin

namespace CoopSpaces

/-- What the endpoints of accounts and their addresses write, at one time each. -/
inductive AccountChange (Uuid : Type)
  | of (change : Change Uuid)
  | addUserEmail (userId : Uuid) (email : String) (staleBefore now : Int)
  | removeUserEmail (userId : Uuid) (email : String)
  | setPrimaryUserEmail (userId : Uuid) (email : String)
  | createUser (id : Uuid) (row : UserRow) (role : String) (now : Int)

structure RegistrationRules where
  allowRegistration : Bool
  challengeEnabled : Bool
  phrase : String
  throttleEnabled : Bool
  termsOfServiceCheckbox : Bool
  recaptchaEnabled : Bool
  setupEnabled : Bool
  setupAdminEmail : String

structure RegisterRequest where
  username : String
  email : String
  password : String
  fullName : String
  challengePhrase : Option String
  termsOfServiceAccepted : Option Bool
  recaptchaToken : Option String
  deriving DecidableEq

/-- What the services outside say of a registration: for how long the throttle holds it up, and whether its
captcha was solved, if that could be found out. -/
structure RegistrationVerdict where
  throttled : Option Nat
  recaptcha : Option Bool

namespace DatabaseManager
variable {Uuid : Type} [DecidableEq Uuid]

/-- An address that a lookup for this text finds. -/
def holds (collation : Collation) (email : String) (row : UserEmail Uuid) : Bool :=
  collation.lower row.email = collation.toLowercase (trim email)

/-- A claim that nobody has confirmed in the time there was for it. -/
def stale (staleBefore : Int) (row : UserEmail Uuid) : Bool :=
  row.verifiedAt.isNone && !row.isPrimary && decide (row.createdAt < staleBefore)

/-- A secondary, unconfirmed address is added, once stale claims to it have gone. -/
def addUserEmail (db : DatabaseManager Uuid) (collation : Collation) (userId : Uuid) (email : String)
    (staleBefore now : Int) :
    Except DbError (DatabaseManager Uuid × Nat) :=
  let claimed := db.userEmails.filter fun row => !(holds collation email row && stale staleBefore row)
  if claimed.any fun other => collation.lower other.email = collation.lower (trim email) then .error .uniqueViolation
  else if (db.findUserById userId).isNone then .error .foreignKeyViolation
  else .ok ({ db with userEmails := claimed ++ [⟨userId, trim email, false, none, now⟩] }, 1)

/-- The row a user's address is, which no other row shares. -/
def getUserEmail (db : DatabaseManager Uuid) (userId : Uuid) (email : String) : Option (UserEmail Uuid) :=
  db.userEmails.find? fun row => decide (row.userId = userId) && decide (row.email = email)

/-- The primary is left where it is. -/
def removeUserEmail (db : DatabaseManager Uuid) (userId : Uuid) (email : String) :
    Except DbError (DatabaseManager Uuid × Nat) :=
  let kept := db.userEmails.filter fun row =>
    !(decide (row.userId = userId) && decide (row.email = email) && !row.isPrimary)
  if kept.length = db.userEmails.length then .error .notFound
  else .ok ({ db with userEmails := kept }, db.userEmails.length - kept.length)

/-- A confirmed address becomes the primary one. What is rolled back for another is told as a row not found. -/
def setPrimaryUserEmail (db : DatabaseManager Uuid) (userId : Uuid) (email : String) :
    Except DbError (DatabaseManager Uuid × Nat) :=
  match db.getUserEmail userId email, db.findUserById userId with
  | some target, some row =>
    if target.verifiedAt.isNone then .error .notFound
    else if db.userEmails.any fun other => decide (other.userId = userId) && other.isPrimary then
      .ok ({ db with
        userEmails := db.userEmails.map fun other =>
          if other.userId = userId then { other with isPrimary := decide (other.email = email) } else other
        -- The column of the users table mirrors the primary row.
        users := db.users.insert userId { row with email := email } }, 1)
    else .error .notFound
  | _, _ => .error .notFound

/-- The account, its primary address and its one role. -/
def createUser (db : DatabaseManager Uuid) (collation : Collation) (id : Uuid) (row : UserRow)
    (roleName : String) (now : Int) :
    Except DbError (DatabaseManager Uuid × Nat) :=
  if db.users.entries.any fun user => decide (user.1 = id) || decide (user.2.username = row.username) ||
      decide (collation.lower user.2.email = collation.lower row.email) then .error .uniqueViolation
  else if db.userEmails.any fun other => collation.lower other.email = collation.lower row.email
    then .error .uniqueViolation
  else .ok ({ db with
    users := db.users.insert id row
    userEmails := db.userEmails ++ [⟨id, row.email, true, none, now⟩]
    userRoles := (db.userRoles.filter fun assigned => assigned.1 ≠ id) ++
      ((db.roles.find? fun role => role.name = roleName).map fun role => (id, role.id)).toList }, 1)

def performAccount (collation : Collation) (db : DatabaseManager Uuid) :
    AccountChange Uuid → DatabaseManager Uuid × DbReply
  | .of change => db.perform collation change
  | .addUserEmail userId email staleBefore now => db.settle (db.addUserEmail collation userId email staleBefore now)
  | .removeUserEmail userId email => db.settle (db.removeUserEmail userId email)
  | .setPrimaryUserEmail userId email => db.settle (db.setPrimaryUserEmail userId email)
  | .createUser id row role now => db.settle (db.createUser collation id row role now)

end DatabaseManager

/-- A request of these endpoints being handled. -/
abbrev AccountHandler (Uuid : Type) :=
  ExceptT PublicError (Routine (DatabaseManager Uuid) (AccountChange Uuid) DbReply)

namespace AccountHandler
variable {Uuid α : Type}

def ofHandler (h : Handler Uuid α) : AccountHandler Uuid α :=
  ExceptT.mk ((Routine.lift id AccountChange.of h.run).bind fun answer => .done (answer.mapError .api))

def refuse (error : ApiError) : AccountHandler Uuid α := throw (.api error)

def require (ok : Bool) (error : ApiError) : AccountHandler Uuid Unit := if ok then pure () else refuse error

def read (f : DatabaseManager Uuid → α) : AccountHandler Uuid α := ofHandler (Handler.read f)

def send (change : AccountChange Uuid) : AccountHandler Uuid DbReply :=
  ExceptT.mk (.write change fun reply => .done (.ok reply))

def check (passed : Except PublicError α) : AccountHandler Uuid α := ExceptT.mk (.done passed)

variable [DecidableEq Uuid]

/-- Who may manage a user's addresses, and whether it is the user. -/
def emailManager (token : Claims Uuid) (userId : Uuid) : Handler Uuid Bool := do
  if token.userId = userId then pure true
  else
    Handler.require (← Handler.userHasPermission token.userId "users.manage")
      (.forbidden "You can only manage your own email addresses")
    let callerLevel ← Handler.userEffectiveLevel token.userId
    let targetLevel ← Handler.userEffectiveLevel userId
    Handler.require (targetLevel < callerLevel)
      (.forbidden "You cannot modify a user at or above your own access level")
    pure false

/-- The address of one's own account is a credential. -/
def requireOwnPassword (platform : Platform) (isSelf : Bool) (caller : UserRow)
    (currentPassword : Option String) : Handler Uuid Unit :=
  Handler.require (!isSelf || currentPassword.any fun current => platform.verify current caller.passwordHash)
    (.badRequest "Current password is incorrect")

def addUserEmail (platform : Platform) (token : Claims Uuid) (userId : Uuid) (email : String)
    (currentPassword : Option String) (now : Int) :
    AccountHandler Uuid Unit := do
  let caller ← ofHandler (Handler.authUser token)
  let isSelf ← ofHandler (emailManager token userId)
  ofHandler (requireOwnPassword platform isSelf caller currentPassword)
  let address := trim email
  require ('@' ∈ address.toList) (.badRequest "Invalid email format")
  require (← read (·.findUserByEmail platform.toCollation address)).isNone (.conflict "Email already exists")
  match ← send (.addUserEmail userId address (Handler.staleClaimCutoff now) now) with
  | .failed .uniqueViolation => refuse (.conflict "Email already exists")
  | .failed .foreignKeyViolation => refuse (.notFound "User not found")
  | reply =>
    let _ ← ofHandler (Handler.ofReply reply)

def requireUserEmail (userId : Uuid) (email : String) : AccountHandler Uuid (UserEmail Uuid) := do
  match ← read (·.getUserEmail userId email) with
  | some row => pure row
  | none => refuse (.notFound "Email address not found")

def removeUserEmail (token : Claims Uuid) (userId : Uuid) (email : String) : AccountHandler Uuid Unit := do
  let _ ← ofHandler (Handler.authUser token)
  let _ ← ofHandler (emailManager token userId)
  let row ← requireUserEmail userId email
  require (!row.isPrimary) (.badRequest "The primary address cannot be removed; make another address primary first")
  let reply ← send (.removeUserEmail userId email)
  let _ ← ofHandler (Handler.ofReply reply)

def setPrimaryUserEmail (platform : Platform) (token : Claims Uuid) (userId : Uuid) (email : String)
    (currentPassword : Option String) :
    AccountHandler Uuid Unit := do
  let caller ← ofHandler (Handler.authUser token)
  let isSelf ← ofHandler (emailManager token userId)
  ofHandler (requireOwnPassword platform isSelf caller currentPassword)
  let row ← requireUserEmail userId email
  require (!row.isPrimary) (.badRequest "That address is already the primary")
  require row.verifiedAt.isSome (.badRequest "An address must be confirmed before it can become the primary")
  let reply ← send (.setPrimaryUserEmail userId email)
  let _ ← ofHandler (Handler.ofReply reply)

def updateUser (platform : Platform) (token : Claims Uuid) (userId : Uuid) (payload : UpdateUserRequest)
    (salt : String) (now : Int) :
    AccountHandler Uuid Unit := ofHandler (Handler.updateUser platform token userId payload salt now)

/-- What is asked of a registration before the accounts are looked at. -/
def registrationChecks (rules : RegistrationRules) (passwordMinLength : Nat) (payload : RegisterRequest)
    (verdict : RegistrationVerdict) :
    Except PublicError Unit := do
  demand (rules.allowRegistration = true) (.api (.forbidden "User registration is disabled"))
  demand (rules.challengeEnabled = true → rules.throttleEnabled = true → verdict.throttled = none)
    (.tooManyRequests ("Too many failed registration attempts. Try again in " ++
      toString (verdict.throttled.getD 0) ++ " seconds"))
  demand (rules.challengeEnabled = true → payload.challengePhrase.getD "" = rules.phrase)
    (.api (.badRequest "Invalid registration phrase"))
  demand (rules.termsOfServiceCheckbox = true → payload.termsOfServiceAccepted.getD false = true)
    (.api (.badRequest "You must accept the terms of service to register"))
  demand (rules.recaptchaEnabled = true → payload.recaptchaToken.getD "" ≠ "")
    (.api (.badRequest "reCAPTCHA verification is required"))
  demand (rules.recaptchaEnabled = true → verdict.recaptcha ≠ some false)
    (.api (.badRequest "reCAPTCHA verification failed. Please try again."))
  demand (rules.recaptchaEnabled = true → verdict.recaptcha.isSome = true)
    (.api (.internalServerError "reCAPTCHA verification service unavailable"))
  demand (payload.username ≠ "" ∧ payload.email ≠ "" ∧ payload.password ≠ "")
    (.api (.badRequest "Username, email, and password are required"))
  demand (passwordMinLength ≤ payload.password.utf8ByteSize)
    (.api (.badRequest ("Password must be at least " ++ toString passwordMinLength ++ " characters long")))
  demand ('@' ∈ payload.email.toList) (.api (.badRequest "Invalid email format"))

def shouldGrantAdminRole (platform : Platform) (rules : RegistrationRules) (email : String) : Bool :=
  rules.setupEnabled && platform.toLowercase email = platform.toLowercase rules.setupAdminEmail

def registeredRole (platform : Platform) (rules : RegistrationRules) (email : String) :
    AccountHandler Uuid String := do
  if shouldGrantAdminRole platform rules email then
    let admins ← ofHandler Handler.countActiveAdmins
    pure (if admins = 0 then Role.admin else Role.guest)
  else pure Role.guest

def register (platform : Platform) (rules : RegistrationRules) (payload : RegisterRequest)
    (verdict : RegistrationVerdict) (id : Uuid)
    (salt : String) (now : Int) : AccountHandler Uuid Unit := do
  check (registrationChecks rules platform.passwordMinLength payload verdict)
  require (← read (·.findUserByUsername payload.username)).isNone (.conflict "Username already exists")
  require (← read (·.findUserByEmail platform.toCollation payload.email)).isNone (.conflict "Email already exists")
  match platform.hash payload.password salt with
  | none => refuse (.internalServerError "Failed to hash password")
  | some passwordHash =>
    let role ← registeredRole platform rules payload.email
    let reply ← send (.createUser id ⟨payload.username, payload.email, passwordHash, payload.fullName, true,
      0⟩ role now)
    let _ ← ofHandler (Handler.ofReply reply)

/-- What a handler comes to while the database stays as it is. -/
def act (h : AccountHandler Uuid α) (db : DatabaseManager Uuid) : Except PublicError α ⊕ AccountChange Uuid :=
  Routine.act h.run db

def solo (collation : Collation) (h : AccountHandler Uuid α) (db : DatabaseManager Uuid) :
    DatabaseManager Uuid × Except PublicError α :=
  Routine.solo (DatabaseManager.performAccount collation) h.run db

section Act
variable {β : Type} {db : DatabaseManager Uuid}

omit [DecidableEq Uuid] in
theorem act_bind_ok {h : AccountHandler Uuid α} {a : α} (first : h.act db = .inl (.ok a))
    (f : α → AccountHandler Uuid β) :
    (h >>= f).act db = (f a).act db := by
  have whole := Routine.act_bind h.run (ExceptT.bindCont f) db
  have here : Routine.act h.run db = .inl (.ok a) := first
  rw [here] at whole
  exact whole

omit [DecidableEq Uuid] in
theorem act_bind_error {h : AccountHandler Uuid α} {e : PublicError} (first : h.act db = .inl (.error e))
    (f : α → AccountHandler Uuid β) :
    (h >>= f).act db = .inl (.error e) := by
  have whole := Routine.act_bind h.run (ExceptT.bindCont f) db
  have here : Routine.act h.run db = .inl (.error e) := first
  rw [here] at whole
  exact whole

omit [DecidableEq Uuid] in
theorem act_ofHandler {h : Handler Uuid α} {answer : Except ApiError α} (comes : h.act db = .inl answer) :
    (ofHandler h).act db = .inl (answer.mapError .api) := by
  have whole := Routine.act_bind (Routine.lift id AccountChange.of h.run)
    (fun answer => .done (answer.mapError PublicError.api)) db
  have here : Routine.act h.run db = .inl answer := comes
  have lifted := Routine.act_lift (fun db : DatabaseManager Uuid => db) AccountChange.of h.run db
  rw [here] at lifted
  have same : Routine.act (Routine.lift id AccountChange.of h.run) db = .inl answer := lifted
  rw [same] at whole
  exact whole

omit [DecidableEq Uuid] in
theorem act_read (f : DatabaseManager Uuid → α) : (read f).act db = .inl (.ok (f db)) := rfl

omit [DecidableEq Uuid] in
theorem act_require (ok : Bool) (error : ApiError) :
    (require ok error : AccountHandler Uuid Unit).act db = .inl (if ok then .ok () else .error (.api error)) := by
  cases ok <;> rfl

omit [DecidableEq Uuid] in
theorem act_check (passed : Except PublicError α) : (check passed : AccountHandler Uuid α).act db = .inl passed := rfl

theorem solo_of_act {collation : Collation} {h : AccountHandler Uuid α} {answer : Except PublicError α}
    (answers : h.act db = .inl answer) : h.solo collation db = (db, answer) :=
  Routine.solo_of_act (DatabaseManager.performAccount collation) answers

end Act

end AccountHandler

/-- What a newcomer, a member or staff asks for that may make an account, or change a name or an address. -/
inductive AccountRequest (Uuid : Type)
  | register (payload : RegisterRequest) (verdict : RegistrationVerdict) (id : Uuid) (salt : String) (now : Int)
  | addUserEmail (token : Claims Uuid) (userId : Uuid) (email : String) (currentPassword : Option String) (now : Int)
  | removeUserEmail (token : Claims Uuid) (userId : Uuid) (email : String)
  | setPrimaryUserEmail (token : Claims Uuid) (userId : Uuid) (email : String) (currentPassword : Option String)
  | of (request : AdminRequest Uuid)

section Service
variable {Uuid : Type} [DecidableEq Uuid] [IdText Uuid] [LE Uuid] [DecidableLE Uuid]

def AccountRequest.handler (platform : Platform) (rules : RegistrationRules) :
    AccountRequest Uuid → AccountHandler Uuid Unit
  | .register payload verdict id salt now => AccountHandler.register platform rules payload verdict id salt now
  | .addUserEmail token userId email currentPassword now =>
    AccountHandler.addUserEmail platform token userId email currentPassword now
  | .removeUserEmail token userId email => AccountHandler.removeUserEmail token userId email
  | .setPrimaryUserEmail token userId email currentPassword =>
    AccountHandler.setPrimaryUserEmail platform token userId email currentPassword
  | .of request => AccountHandler.ofHandler (request.handler platform)

/-- These handlers over one database, any number of them running at a time. -/
def accountService (platform : Platform) (rules : RegistrationRules) :
    Service (DatabaseManager Uuid) (AccountChange Uuid) DbReply (Except PublicError Unit) (AccountRequest Uuid) where
  perform := DatabaseManager.performAccount platform.toCollation
  serve request := (request.handler platform rules).run

end Service

end CoopSpaces

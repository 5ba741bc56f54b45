import CoopSpaces.Lib.SingleUse
import CoopSpaces.Server.LoginNames
import CoopSpaces.Server.MfaGate

namespace CoopSpaces

/-- Per-token TTL for pending login and registration ceremonies. -/
def CHALLENGE_TTL : Int := 600000000

namespace methods

def totp : String := "totp"
def webauthn : String := "webauthn"
def recovery : String := "recovery"

end methods

/-- State held between a successful password check and the verification of a second factor. -/
structure LoginChallenge (Uuid Ceremony : Type) where
  userId : Uuid
  methods : List String
  webauthnAuth : Option Ceremony
  deriving DecidableEq

/-- State held while a key is being registered. -/
structure WebauthnRegistration (Uuid Ceremony : Type) where
  userId : Uuid
  label : String
  state : Ceremony
  deriving DecidableEq

inductive ChallengeEntry (Uuid Ceremony : Type)
  | login (challenge : LoginChallenge Uuid Ceremony)
  | register (registration : WebauthnRegistration Uuid Ceremony)
  deriving DecidableEq

structure StoredChallenge (Uuid Ceremony : Type) where
  entry : ChallengeEntry Uuid Ceremony
  expiresAt : Int
  deriving DecidableEq

structure UserMfaRecoveryCode (Uuid : Type) where
  id : Uuid
  userId : Uuid
  codeHash : String
  usedAt : Option Int
  deriving DecidableEq

/-- The accounts, their second factors and the challenges held in memory. A key's passkey is kept under its row's id,
and the challenges go by a clock of their own, that is never set. -/
structure TwoFactorTables (Uuid Json Ceremony : Type) where
  db : DatabaseManager Uuid
  mfa : MfaTables Uuid
  passkeys : Table Uuid Json
  codes : List (UserMfaRecoveryCode Uuid)
  challenges : Table String (StoredChallenge Uuid Ceremony)
  instant : Int

inductive TwoFactorStatement (Uuid Json Ceremony : Type)
  | account (change : AccountChange Uuid)
  | mfa (statement : MfaStatement Uuid)
  | insertUserWebauthn (row : UserMfaWebauthn Uuid) (passkey : Json)
  | replaceUserRecoveryCodes (userId : Uuid) (rows : List (Uuid × String))
  | markRecoveryCodeUsed (id : Uuid) (now : Int)
  | put (token : String) (entry : ChallengeEntry Uuid Ceremony)
  | take (token : String)
  | wait (micros : Nat)

inductive TwoFactorReply (Uuid Ceremony : Type)
  | account (reply : DbReply)
  | rows (reply : Except DbError Nat)
  | taken (entry : Option (ChallengeEntry Uuid Ceremony))

/-- Why a ceremony comes to nothing: what is sent cannot be read, or it is read and refused. -/
inductive CeremonyError
  | unreadable (msg : String)
  | rejected (msg : String)
  deriving DecidableEq

/-- The library of the ceremonies. What it draws at random for one is given to it. -/
structure Webauthn (Uuid Json Ceremony : Type) where
  startPasskeyRegistration : Uuid → String → String → List (List UInt8) → String → Option (Json × Ceremony)
  /-- The key's identifier, and the passkey to be stored. -/
  finishPasskeyRegistration : Json → Ceremony → Except CeremonyError (List UInt8 × Json)
  startPasskeyAuthentication : List Json → String → Option (Json × Ceremony)
  finishPasskeyAuthentication : Json → Ceremony → Except CeremonyError (List UInt8)
  readsPasskey : Json → Bool

structure LoginRules (Uuid Json Ceremony : Type) where
  platform : Platform
  mfa : MfaRules
  requireEmailVerification : Bool
  /-- The ceremonies, unless they are off. -/
  webauthn : Option (Webauthn Uuid Json Ceremony)

/-- What comes in about logins and second factors, with what is made at random for it. The throttle's word on an
attempt comes with it, and so does what the endpoints of accounts write. -/
inductive TwoFactorRequest (Uuid Json : Type)
  | login (usernameOrEmail password : String) (throttled : Option Nat) (challenge seed : String)
  | verifyLogin (challenge method : String) (code : Option String) (response : Option Json) (throttled : Option Nat)
  | totpSetup (token : Claims Uuid) (id : Uuid) (secret : String) (label : Option String)
  | totpConfirm (token : Claims Uuid) (id : Option Uuid) (code : String) (codes : List (String × String × Uuid))
  | totpDisable (token : Claims Uuid) (id : Uuid)
  | webauthnRegisterBegin (token : Claims Uuid) (label challenge seed : String)
  | webauthnRegisterFinish (token : Claims Uuid) (challenge : String) (response : Json) (id : Uuid)
  | webauthnRemove (token : Claims Uuid) (id : Uuid)
  | recoveryRegenerate (token : Claims Uuid) (codes : List (String × String × Uuid))
  | resetUserMfa (token : Claims Uuid) (userId : Uuid)
  | removeUserTotp (token : Claims Uuid) (userId id : Uuid)
  | removeUserWebauthn (token : Claims Uuid) (userId id : Uuid)
  | account (change : AccountChange Uuid)
  | tick (micros : Nat)
  | wait (micros : Nat)

inductive TwoFactorAnswer (Uuid Json : Type)
  | session (claims : Claims Uuid)
  | challenge (token : String) (methods : List String) (webauthnOptions : Option Json)
  | registration (token : String) (options : Json)
  | credential (id : Uuid)
  | recoveryCodes (codes : List String)
  | done
  deriving DecidableEq

/-- The caller's row, if the token still stands for an active account. -/
def DatabaseManager.getUserFromToken {Uuid : Type} [DecidableEq Uuid] (db : DatabaseManager Uuid)
    (token : Claims Uuid) :
    Except ApiError UserRow :=
  match db.findUserById token.userId with
  | none => .error (.notFound "User not found")
  | some row =>
    if !row.isActive then .error (.forbidden "User account is inactive")
    else if token.tokenVersion ≠ row.tokenVersion then .error (.unauthorized "Invalid authentication token")
    else .ok row

/-- Rows of members that are gone go with them; who is new has no factor. -/
def MfaTables.cascade {Uuid : Type} [DecidableEq Uuid] (mfa : MfaTables Uuid) (db : DatabaseManager Uuid) :
    MfaTables Uuid :=
  { mfa with
    totp := mfa.totp.filter fun row => (db.findUserById row.userId).isSome
    webauthn := mfa.webauthn.filter fun row => (db.findUserById row.userId).isSome
    enrolledAt := fun userId => (db.findUserById userId).map fun _ => (mfa.enrolledAt userId).getD none }

namespace TwoFactorTables
variable {Uuid Json Ceremony : Type} [DecidableEq Uuid] (w : TwoFactorTables Uuid Json Ceremony)

/-- The login challenges and registrations that still stand. -/
def pruned : Table String (StoredChallenge Uuid Ceremony) :=
  w.challenges.retain fun _ stored => decide (w.instant < stored.expiresAt)

/-- The column of the users table mirrors the primary address. -/
def emailVerified (userId : Uuid) : Bool :=
  w.db.userEmails.any fun row => row.userId = userId && row.isPrimary && row.verifiedAt.isSome

def listUnusedRecoveryCodes (userId : Uuid) : List (UserMfaRecoveryCode Uuid) :=
  w.codes.filter fun row => row.userId = userId && row.usedAt.isNone

def countUnusedRecoveryCodes (userId : Uuid) : Nat := (w.listUnusedRecoveryCodes userId).length

/-- The old codes go with the new ones' coming. -/
def replaceUserRecoveryCodes (userId : Uuid) (rows : List (Uuid × String)) :
    TwoFactorTables Uuid Json Ceremony × Except DbError Nat :=
  let others := w.codes.filter fun row => row.userId ≠ userId
  if rows = [] then ({ w with codes := others }, .ok 0)
  else if ¬ (others.map (·.id) ++ rows.map (·.1)).Nodup then (w, .error .uniqueViolation)
  else if (w.db.findUserById userId).isNone then (w, .error .foreignKeyViolation)
  else ({ w with codes := others ++ rows.map fun row => ⟨row.1, userId, row.2, none⟩ }, .ok rows.length)

/-- A compare-and-set. -/
def markRecoveryCodeUsed (id : Uuid) (now : Int) : TwoFactorTables Uuid Json Ceremony × Except DbError Nat :=
  if w.codes.any fun row => row.id = id && row.usedAt.isNone then
    ({ w with codes := w.codes.map fun row =>
        if row.id = id ∧ row.usedAt = none then { row with usedAt := some now } else row },
      .ok 1)
  else (w, .error .notFound)

def perform (collation : Collation) :
    TwoFactorStatement Uuid Json Ceremony → TwoFactorTables Uuid Json Ceremony × TwoFactorReply Uuid Ceremony
  | .account change =>
    let made := w.db.performAccount collation change
    ({ w with
      db := made.1
      mfa := w.mfa.cascade made.1
      codes := w.codes.filter fun row => (made.1.findUserById row.userId).isSome }, .account made.2)
  | .mfa statement =>
    let made := w.mfa.perform statement
    -- An account's reset takes its recovery codes too.
    let codes := match statement with
      | .resetUserMfa userId => w.codes.filter fun row => row.userId ≠ userId
      | _ => w.codes
    ({ w with mfa := made.1, codes }, .rows made.2)
  | .insertUserWebauthn row passkey =>
    let made := w.mfa.perform (.insertUserWebauthn row)
    ({ w with mfa := made.1, passkeys := if made.2.isOk then w.passkeys.insert row.id passkey else w.passkeys },
      .rows made.2)
  | .replaceUserRecoveryCodes userId rows =>
    let made := w.replaceUserRecoveryCodes userId rows
    (made.1, .rows made.2)
  | .markRecoveryCodeUsed id now =>
    let made := w.markRecoveryCodeUsed id now
    (made.1, .rows made.2)
  | .put token entry =>
    ({ w with challenges := w.pruned.insert token ⟨entry, w.instant + CHALLENGE_TTL⟩ }, .taken none)
  | .take token =>
    ({ w with challenges := w.pruned.erase token }, .taken ((w.pruned token).map (·.entry)))
  | .wait micros => ({ w with instant := w.instant + micros }, .taken none)

end TwoFactorTables

abbrev TwoFactorRoutine (Uuid Json Ceremony : Type) :=
  Routine (TwoFactorTables Uuid Json Ceremony) (TwoFactorStatement Uuid Json Ceremony) (TwoFactorReply Uuid Ceremony)
    (Except PublicError (TwoFactorAnswer Uuid Json))

abbrev TwoFactorLog (Uuid Json Ceremony : Type) :=
  List (TwoFactorTables Uuid Json Ceremony × TwoFactorStatement Uuid Json Ceremony)

namespace TwoFactorReply
variable {Uuid Ceremony : Type}

def ofRows : TwoFactorReply Uuid Ceremony → Except DbError Nat
  | .rows reply => reply
  | _ => .error .unavailable

def ofAccount : TwoFactorReply Uuid Ceremony → DbReply
  | .account reply => reply
  | _ => .failed .unavailable

def ofTaken : TwoFactorReply Uuid Ceremony → Option (ChallengeEntry Uuid Ceremony)
  | .taken entry => entry
  | _ => none

end TwoFactorReply

namespace TwoFactorRoutine
variable {Uuid Json Ceremony : Type} [DecidableEq Uuid] (rules : LoginRules Uuid Json Ceremony)

def refuse (error : ApiError) : TwoFactorRoutine Uuid Json Ceremony := .done (.error (.api error))

def answer (a : TwoFactorAnswer Uuid Json) : TwoFactorRoutine Uuid Json Ceremony := .done (.ok a)

def requireEnabled (next : TwoFactorRoutine Uuid Json Ceremony) : TwoFactorRoutine Uuid Json Ceremony :=
  if rules.mfa.enabled then next else refuse (.forbidden "MFA is disabled in server configuration")

/-- What the accounts' own code comes to, and what is done after it. -/
def ofHandler {α : Type} (handler : Handler Uuid α) (next : α → TwoFactorRoutine Uuid Json Ceremony) :
    TwoFactorRoutine Uuid Json Ceremony :=
  (Routine.embed (·.db) (fun change => .account (.of change)) TwoFactorReply.ofAccount handler.run).bind fun result =>
    match result with
    | .error e => refuse e
    | .ok a => next a

/-- The same for the second factors' own. -/
def ofMfa {α : Type} (routine : MfaRoutine Uuid (Except ApiError α))
    (next : α → TwoFactorRoutine Uuid Json Ceremony) :
    TwoFactorRoutine Uuid Json Ceremony :=
  (Routine.embed (·.mfa) .mfa TwoFactorReply.ofRows routine).bind fun result =>
    match result with
    | .error e => refuse e
    | .ok a => next a

def send (statement : TwoFactorStatement Uuid Json Ceremony) (next : Nat → TwoFactorRoutine Uuid Json Ceremony) :
    TwoFactorRoutine Uuid Json Ceremony :=
  .write statement fun reply =>
    match reply.ofRows with
    | .error e => refuse (.ofDb e)
    | .ok n => next n

def takeLogin (token : String) (next : Option (LoginChallenge Uuid Ceremony) → TwoFactorRoutine Uuid Json Ceremony) :
    TwoFactorRoutine Uuid Json Ceremony :=
  .write (.take token) fun reply =>
    match reply.ofTaken with
    | some (.login challenge) => next (some challenge)
    | _ => next none

def takeRegistration (token : String)
    (next : Option (WebauthnRegistration Uuid Ceremony) → TwoFactorRoutine Uuid Json Ceremony) :
    TwoFactorRoutine Uuid Json Ceremony :=
  .write (.take token) fun reply =>
    match reply.ofTaken with
    | some (.register registration) => next (some registration)
    | _ => next none

/-- The ceremony of a member's stored keys, where there are any that can be read. -/
def startLogin (w : TwoFactorTables Uuid Json Ceremony) (userId : Uuid) (seed : String) : Option (Json × Ceremony) :=
  rules.webauthn.bind fun library =>
    let passkeys := (w.mfa.listUserWebauthn userId).filterMap fun row =>
      (w.passkeys row.id).filter library.readsPasskey
    if passkeys.isEmpty then none else library.startPasskeyAuthentication passkeys seed

def buildLoginChallenge (userId : Uuid) (token seed : String) : TwoFactorRoutine Uuid Json Ceremony :=
  .read fun w =>
    let hasTotp := (w.mfa.listUserTotp userId).any fun row => row.confirmedAt.isSome
    .read fun w =>
      let started := startLogin rules w userId seed
      .read fun w =>
        let methods := (if hasTotp then [methods.totp] else []) ++
          (if started.isSome then [methods.webauthn] else []) ++
            (if 0 < w.countUnusedRecoveryCodes userId then [methods.recovery] else [])
        if methods.isEmpty then
          refuse (.internalServerError "User is marked MFA-enrolled but has no usable methods")
        else .write (.put token (.login ⟨userId, methods, started.map (·.2)⟩)) fun _ =>
          answer (.challenge token methods (started.map (·.1)))

def ofAuthError : AuthError → ApiError
  | .wrongCredentials => .unauthorized "Invalid credentials"
  | .userInactive => .forbidden "User account is inactive"

def login (usernameOrEmail password : String) (throttled : Option Nat) (token seed : String) :
    TwoFactorRoutine Uuid Json Ceremony :=
  if usernameOrEmail = "" ∨ password = "" then refuse (.badRequest "Username/email and password are required")
  else match throttled with
    | some remaining =>
      .done
        (.error (.tooManyRequests ("Too many login attempts. Try again in " ++ toString remaining ++ " seconds.")))
    | none => .read fun w =>
      match w.db.authenticateUser rules.platform usernameOrEmail password with
      | .error e => refuse (ofAuthError e)
      | .ok userId =>
        if rules.requireEmailVerification ∧ w.emailVerified userId = false then
          refuse (.forbidden ("Your email address has not been confirmed. Check your inbox for the " ++
            "confirmation link, or ask for a new one."))
        else if ((w.mfa.enrolledAt userId).getD none).isSome ∧ rules.mfa.enabled then
          buildLoginChallenge rules userId token seed
        else answer (.session ⟨userId, ((w.db.findUserById userId).map (·.tokenVersion)).getD 0⟩)

def verifyWebauthnPath (challenge : LoginChallenge Uuid Ceremony) (response : Option Json) : Except ApiError Unit :=
  match rules.webauthn with
  | none => .error (.forbidden "WebAuthn disabled")
  | some library =>
    match challenge.webauthnAuth with
    | none => .error (.badRequest "This challenge has no WebAuthn state")
    | some ceremony =>
      match response with
      | none => .error (.badRequest "response is required")
      | some response =>
        match library.finishPasskeyAuthentication response ceremony with
        | .error (.unreadable e) => .error (.badRequest ("Invalid WebAuthn response: " ++ e))
        | .error (.rejected _) => .error (.unauthorized "WebAuthn authentication rejected")
        | .ok _ => .ok ()

/-- The first unused code that fits is spent; when another login spends it first, this one has failed. -/
def verifyRecoveryPath (userId : Uuid) (code : Option String) (next : TwoFactorRoutine Uuid Json Ceremony) :
    TwoFactorRoutine Uuid Json Ceremony :=
  match (code.map trim).filter fun c => c ≠ "" with
  | none => refuse (.badRequest "code is required for recovery")
  | some code => .read fun w =>
    match (w.listUnusedRecoveryCodes userId).find? fun row => rules.platform.verify code row.codeHash with
    | none => refuse (.unauthorized "Invalid recovery code")
    | some row => .read fun w => send (.markRecoveryCodeUsed row.id w.mfa.clock) fun _ => next

def verifyMethod (user : UserRow) (challenge : LoginChallenge Uuid Ceremony) (method : String) (code : Option String)
    (response : Option Json) (next : TwoFactorRoutine Uuid Json Ceremony) : TwoFactorRoutine Uuid Json Ceremony :=
  if method = methods.totp then
    ofMfa (MfaRoutine.verifyTotpPath rules.mfa challenge.userId user.email code) fun _ => next
  else if method = methods.webauthn then
    match verifyWebauthnPath rules challenge response with
    | .error e => refuse e
    | .ok () => next
  else if method = methods.recovery then verifyRecoveryPath rules challenge.userId code next
  else refuse (.badRequest ("Unknown method: " ++ method))

def verifyLogin (token method : String) (code : Option String) (response : Option Json) (throttled : Option Nat) :
    TwoFactorRoutine Uuid Json Ceremony :=
  requireEnabled rules <| takeLogin token fun taken =>
    match taken with
    | none => refuse (.unauthorized "Unknown or expired challenge_token")
    | some challenge => .read fun w =>
      match w.db.findUserById challenge.userId with
      | none => refuse (.unauthorized "User no longer exists")
      | some user =>
        if !user.isActive then refuse (.unauthorized "Account is not active")
        else match throttled with
          | some remaining => .done (.error (.tooManyRequests ("Too many verification attempts. Try again in " ++
              toString remaining ++ " seconds.")))
          | none => verifyMethod rules user challenge method code response <|
            answer (.session ⟨challenge.userId, user.tokenVersion⟩)

/-- Fresh codes in place of the old: their hashes are stored and they are shown this once. -/
def replaceCodes (userId : Uuid) (codes : List (String × String × Uuid)) : TwoFactorRoutine Uuid Json Ceremony :=
  match codes.mapM fun code => (rules.platform.hash code.1 code.2.1).map fun hash => (code.2.2, hash) with
  | none => refuse (.internalServerError "argon2 hash")
  | some rows => send (.replaceUserRecoveryCodes userId rows) fun _ => answer (.recoveryCodes (codes.map (·.1)))

def totpConfirm (token : Claims Uuid) (id : Option Uuid) (code : String) (codes : List (String × String × Uuid)) :
    TwoFactorRoutine Uuid Json Ceremony :=
  ofHandler (Handler.authUser token) fun user => .read fun w =>
    let firstFactor := ((w.mfa.enrolledAt token.userId).getD none).isNone
    ofMfa (MfaRoutine.totpConfirm rules.mfa token.userId user.email id code) fun _ =>
      if firstFactor then replaceCodes rules token.userId codes else answer (.recoveryCodes [])

def webauthnRegisterBegin (token : Claims Uuid) (label challenge seed : String) :
    TwoFactorRoutine Uuid Json Ceremony :=
  ofHandler (Handler.authUser token) fun user => requireEnabled rules <|
    match rules.webauthn with
    | none => refuse (.forbidden "WebAuthn disabled")
    | some library => .read fun w =>
      let exclude := (w.mfa.listUserWebauthn token.userId).map (·.credentialId)
      if trim label = "" then refuse (.badRequest "label is required")
      else match library.startPasskeyRegistration token.userId user.username user.fullName exclude seed with
        | none => refuse (.internalServerError "Could not start passkey registration")
        | some (options, state) => .write (.put challenge (.register ⟨token.userId, trim label, state⟩)) fun _ =>
          answer (.registration challenge options)

def webauthnRegisterFinish (token : Claims Uuid) (challenge : String) (response : Json) (id : Uuid) :
    TwoFactorRoutine Uuid Json Ceremony :=
  ofHandler (Handler.authUser token) fun _ => requireEnabled rules <|
    match rules.webauthn with
    | none => refuse (.forbidden "WebAuthn disabled")
    | some library => takeRegistration challenge fun taken =>
      match taken with
      | none => refuse (.badRequest "Unknown or expired challenge_token")
      | some pending =>
        if pending.userId ≠ token.userId then refuse (.forbidden "challenge_token does not belong to this user")
        else match library.finishPasskeyRegistration response pending.state with
          | .error (.unreadable e) => refuse (.badRequest ("Invalid WebAuthn response: " ++ e))
          | .error (.rejected e) => refuse (.badRequest ("WebAuthn registration rejected: " ++ e))
          | .ok (credentialId, passkey) =>
            send (.insertUserWebauthn ⟨id, token.userId, credentialId⟩ passkey) fun _ =>
            ofMfa (MfaRoutine.recomputeUserMfaEnrolled token.userId) fun _ => answer (.credential id)

def recoveryRegenerate (token : Claims Uuid) (codes : List (String × String × Uuid)) :
    TwoFactorRoutine Uuid Json Ceremony :=
  ofHandler (Handler.authUser token) fun _ => requireEnabled rules <| replaceCodes rules token.userId codes

def serve : TwoFactorRequest Uuid Json → TwoFactorRoutine Uuid Json Ceremony
  | .login usernameOrEmail password throttled challenge seed =>
    login rules usernameOrEmail password throttled challenge seed
  | .verifyLogin challenge method code response throttled =>
    verifyLogin rules challenge method code response throttled
  | .totpSetup token id secret label => ofHandler (Handler.authUser token) fun _ =>
    ofMfa (MfaRoutine.totpSetup rules.mfa token.userId id secret label) fun _ => answer .done
  | .totpConfirm token id code codes => totpConfirm rules token id code codes
  | .totpDisable token id => ofHandler (Handler.authUser token) fun _ =>
    ofMfa (MfaRoutine.totpDisable token.userId id) fun _ => answer .done
  | .webauthnRegisterBegin token label challenge seed => webauthnRegisterBegin rules token label challenge seed
  | .webauthnRegisterFinish token challenge response id => webauthnRegisterFinish rules token challenge response id
  | .webauthnRemove token id => ofHandler (Handler.authUser token) fun _ =>
    ofMfa (MfaRoutine.webauthnRemove token.userId id) fun _ => answer .done
  | .recoveryRegenerate token codes => recoveryRegenerate rules token codes
  | .resetUserMfa token userId => ofHandler (Handler.adminUser token) fun _ =>
    ofMfa (MfaRoutine.resetUserMfa userId) fun _ => answer .done
  | .removeUserTotp token userId id => ofHandler (Handler.adminUser token) fun _ =>
    ofMfa (MfaRoutine.ofUser userId (MfaRoutine.totpDisable userId id)) fun _ => answer .done
  | .removeUserWebauthn token userId id => ofHandler (Handler.adminUser token) fun _ =>
    ofMfa (MfaRoutine.removeUserWebauthn userId id) fun _ => answer .done
  | .account change => .write (.account change) fun _ => answer .done
  | .tick micros => .write (.mfa (.tick micros)) fun _ => answer .done
  | .wait micros => .write (.wait micros) fun _ => answer .done

end TwoFactorRoutine

def loginService {Uuid Json Ceremony : Type} [DecidableEq Uuid] (rules : LoginRules Uuid Json Ceremony) :
    Service (TwoFactorTables Uuid Json Ceremony) (TwoFactorStatement Uuid Json Ceremony)
      (TwoFactorReply Uuid Ceremony)
      (Except PublicError (TwoFactorAnswer Uuid Json)) (TwoFactorRequest Uuid Json) where
  perform := fun w => w.perform rules.platform.toCollation
  serve := TwoFactorRoutine.serve rules

end CoopSpaces

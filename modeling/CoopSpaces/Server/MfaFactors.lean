import CoopSpaces.Lib.Fallible
import CoopSpaces.Server.Handler

namespace CoopSpaces

/-- A member's authenticator app; unconfirmed, it is a setup in progress. -/
structure UserMfaTotp (Uuid : Type) where
  id : Uuid
  userId : Uuid
  secret : String
  confirmedAt : Option Int
  lastUsedStep : Option Int
  deriving DecidableEq

structure UserMfaWebauthn (Uuid : Type) where
  id : Uuid
  userId : Uuid
  credentialId : List UInt8
  deriving DecidableEq

/-- The members' second factors, and under each member's id when it was last seen to have one. The
authenticators are in the order in which they were set up. -/
structure MfaTables (Uuid : Type) where
  totp : List (UserMfaTotp Uuid)
  webauthn : List (UserMfaWebauthn Uuid)
  enrolledAt : Table Uuid (Option Int)
  clock : Int

inductive MfaStatement (Uuid : Type)
  | beginTotpSetup (userId id : Uuid) (secret : String)
  | finalizeTotpConfirmation (userId id : Uuid) (now : Int)
  | updateTotpLastUsedStep (id : Uuid) (step : Int)
  | deleteUserTotp (userId id : Uuid)
  | insertUserWebauthn (row : UserMfaWebauthn Uuid)
  | deleteUserWebauthn (userId id : Uuid)
  | setUserMfaEnrolled (userId : Uuid) (when_ : Option Int)
  | resetUserMfa (userId : Uuid)
  | tick (micros : Nat)

structure MfaRules where
  enabled : Bool
  allowTotp : Bool
  allowWebauthn : Bool
  /-- The codes that an authenticator with this secret shows for an account, by its time step, if the secret reads. -/
  totp : String → String → Option (Int → String)

abbrev MfaRoutine (Uuid : Type) := Routine (MfaTables Uuid) (MfaStatement Uuid) (Except DbError Nat)

namespace MfaRules
variable (rules : MfaRules)

/-- The step whose code this is, of the present one and its two neighbours. -/
def verifyTotpStep (secret account code : String) (micros : Int) : Option Int :=
  (rules.totp secret account).bind fun generate =>
    let now := micros / 1000000
    if now < 0 then none
    else [-1, 0, 1].findSome? fun delta : Int =>
      let time := now + delta * 30
      if time < 0 then none
      else if generate (time / 30) = code then some (time / 30)
      else none

def verifyTotp (secret account code : String) (micros : Int) : Bool :=
  (rules.verifyTotpStep secret account code micros).isSome

end MfaRules

namespace MfaTables
variable {Uuid : Type} [DecidableEq Uuid] (w : MfaTables Uuid)

/-- A member's authenticators, the confirmed ones first. -/
def listUserTotp (userId : Uuid) : List (UserMfaTotp Uuid) :=
  let mine := w.totp.filter fun row => row.userId = userId
  (mine.filter fun row => row.confirmedAt.isSome) ++ mine.filter fun row => !row.confirmedAt.isSome

def listUserWebauthn (userId : Uuid) : List (UserMfaWebauthn Uuid) := w.webauthn.filter fun row => row.userId = userId

def updateTotp (matched : UserMfaTotp Uuid → Bool) (change : UserMfaTotp Uuid → UserMfaTotp Uuid) :
    MfaTables Uuid × Except DbError Nat :=
  if w.totp.any matched then ({ w with totp := w.totp.map fun row => if matched row then change row else row }, .ok 1)
  else (w, .error .notFound)

def perform : MfaStatement Uuid → MfaTables Uuid × Except DbError Nat
  | .beginTotpSetup userId id secret =>
    let rest := w.totp.filter fun row => !(decide (row.userId = userId) && !row.confirmedAt.isSome)
    if rest.any fun row => row.id = id then (w, .error .uniqueViolation)
    else if !(w.enrolledAt userId).isSome then (w, .error .foreignKeyViolation)
    else ({ w with totp := rest ++ [⟨id, userId, secret, none, none⟩] }, .ok 1)
  | .finalizeTotpConfirmation userId id now =>
    w.updateTotp (fun row => row.userId = userId && row.id = id) fun row =>
      { row with confirmedAt := some now, lastUsedStep := none }
  | .updateTotpLastUsedStep id step =>
    w.updateTotp (fun row => row.id = id) fun row => { row with lastUsedStep := some step }
  | .deleteUserTotp userId id =>
    if w.totp.any fun row => row.userId = userId && row.id = id then
      ({ w with totp := w.totp.filter fun row => !(decide (row.userId = userId) && decide (row.id = id)) }, .ok 1)
    else (w, .error .notFound)
  | .insertUserWebauthn row =>
    if w.webauthn.any fun other => other.id = row.id || other.credentialId = row.credentialId
      then (w, .error .uniqueViolation)
    else if !(w.enrolledAt row.userId).isSome then (w, .error .foreignKeyViolation)
    else ({ w with webauthn := w.webauthn ++ [row] }, .ok 1)
  | .deleteUserWebauthn userId id =>
    ({ w with webauthn := w.webauthn.filter fun row => !(decide (row.userId = userId) && decide (row.id = id)) },
      .ok (w.webauthn.countP fun row => row.userId = userId && row.id = id))
  | .setUserMfaEnrolled userId when_ =>
    if (w.enrolledAt userId).isSome then ({ w with enrolledAt := w.enrolledAt.insert userId when_ }, .ok 1)
      else (w, .error .notFound)
  | .resetUserMfa userId =>
    ({ w with totp := w.totp.filter fun row => row.userId ≠ userId
              webauthn := w.webauthn.filter fun row => row.userId ≠ userId
              enrolledAt := if (w.enrolledAt userId).isSome then w.enrolledAt.insert userId none
                else w.enrolledAt }, .ok 1)
  | .tick micros => ({ w with clock := w.clock + micros }, .ok 1)

end MfaTables

namespace MfaRoutine
variable {Uuid : Type} [DecidableEq Uuid] (rules : MfaRules)

/-- A statement, and what is done once it has gone through. -/
def sendMfa {Answer : Type} (statement : MfaStatement Uuid) (next : Nat → MfaRoutine Uuid (Except ApiError Answer)) :
    MfaRoutine Uuid (Except ApiError Answer) :=
  .write statement fun reply =>
    match reply with
    | .error e => .done (.error (.ofDb e))
    | .ok n => next n

/-- Every authenticator is tried, against the mark it had when they were listed. -/
def verifyTotpRows (email code : String) (replayed : Bool) : List (UserMfaTotp Uuid) →
    MfaRoutine Uuid (Except ApiError Unit)
  | [] =>
    .done (.error (.unauthorized (if replayed then "This TOTP code has already been used" else "Invalid TOTP code")))
  | row :: rest => .read fun w =>
    match rules.verifyTotpStep row.secret email code w.clock with
    | none => verifyTotpRows email code replayed rest
    | some step =>
      if row.lastUsedStep.any fun last => step ≤ last then verifyTotpRows email code true rest
      else sendMfa (.updateTotpLastUsedStep row.id step) fun _ => .done (.ok ())

def verifyTotpPath (userId : Uuid) (email : String) (code : Option String) : MfaRoutine Uuid (Except ApiError Unit) :=
  match (code.map trim).filter fun c => c ≠ "" with
  | none => .done (.error (.badRequest "code is required for TOTP"))
  | some code => .read fun w =>
    let confirmed := (w.listUserTotp userId).filter fun row => row.confirmedAt.isSome
    if confirmed.isEmpty then .done (.error (.unauthorized "No confirmed TOTP for user"))
    else verifyTotpRows rules email code false confirmed

end MfaRoutine

end CoopSpaces

import CoopSpaces.Server.AccountAddresses

namespace CoopSpaces

/-- Instants are nanoseconds of the process's clock. -/
structure ThrottleEntry where
  attempts : UInt32
  lastAttempt : Nat
  lockedUntil : Option Nat
  deriving DecidableEq

/-- The counters, and the clock as it stands. -/
structure RegistrationThrottleService where
  attempts : Table String ThrottleEntry
  now : Nat

def NANOS_PER_SEC : Nat := 1000000000

def fromSecs (seconds : Nat) : Nat := seconds * NANOS_PER_SEC

namespace ThrottleEntry

/-- Entries that are not locked are kept for twice the lockout, and locked ones until they expire. -/
def kept (entry : ThrottleEntry) (now : Nat) (lockoutSeconds : UInt32) : Bool :=
  match entry.lockedUntil with
  | none => now - entry.lastAttempt < fromSecs (lockoutSeconds.toNat * 2)
  | some lockedUntil => now < lockedUntil

end ThrottleEntry

namespace RegistrationThrottleService

/-- As the process starts. -/
def new (now : Nat) : RegistrationThrottleService where
  attempts := Table.empty
  now := now

def remaining (s : RegistrationThrottleService) (lockedUntil : Nat) : UInt32 :=
  UInt32.ofNat ((lockedUntil - s.now) / NANOS_PER_SEC)

/-- The whole map is purged, by the lockout of whoever calls. -/
def cleanupOldEntries (s : RegistrationThrottleService) (lockoutSeconds : UInt32) : RegistrationThrottleService :=
  { s with attempts := s.attempts.retain fun _ entry => entry.kept s.now lockoutSeconds }

/-- Nothing if an attempt is allowed, or the seconds for which it is blocked. -/
def checkAttempt (service : RegistrationThrottleService) (identifier : String) (maxAttempts lockoutSeconds : UInt32) :
    RegistrationThrottleService × Except UInt32 Unit :=
  let s := service.cleanupOldEntries lockoutSeconds
  match s.attempts identifier with
  | none => (s, .ok ())
  | some entry =>
    match entry.lockedUntil.filter (s.now < ·) with
    | some lockedUntil => (s, .error (s.remaining lockedUntil))
    | none =>
      let lockedUntil := entry.lastAttempt + fromSecs lockoutSeconds.toNat
      if maxAttempts ≤ entry.attempts ∧ s.now < lockedUntil then
        ({ s with attempts := s.attempts.insert identifier { entry with lockedUntil := some lockedUntil } },
          .error (s.remaining lockedUntil))
      else (s, .ok ())

def recordFailedAttempt (s : RegistrationThrottleService) (identifier : String)
    (maxAttempts lockoutSeconds : UInt32) :
    RegistrationThrottleService :=
  let entry := (s.attempts identifier).getD ⟨0, s.now, none⟩
  let attempts := entry.attempts + 1
  let lockedUntil := if maxAttempts ≤ attempts then some (s.now + fromSecs lockoutSeconds.toNat)
    else entry.lockedUntil
  { s with attempts := s.attempts.insert identifier ⟨attempts, s.now, lockedUntil⟩ }

def recordSuccessfulAttempt (s : RegistrationThrottleService) (identifier : String) : RegistrationThrottleService :=
  { s with attempts := s.attempts.erase identifier }

end RegistrationThrottleService

/-- What is called under the lock, at one instant each, and the time that goes by in between. -/
inductive ThrottleCall
  | checkAttempt (identifier : String) (maxAttempts lockoutSeconds : UInt32)
  | recordFailedAttempt (identifier : String) (maxAttempts lockoutSeconds : UInt32)
  | recordSuccessfulAttempt (identifier : String)
  | elapse (nanos : Nat)

def RegistrationThrottleService.perform (s : RegistrationThrottleService) :
    ThrottleCall → RegistrationThrottleService × Except UInt32 Unit
  | .checkAttempt identifier maxAttempts lockoutSeconds => s.checkAttempt identifier maxAttempts lockoutSeconds
  | .recordFailedAttempt identifier maxAttempts lockoutSeconds =>
    (s.recordFailedAttempt identifier maxAttempts lockoutSeconds, .ok ())
  | .recordSuccessfulAttempt identifier => (s.recordSuccessfulAttempt identifier, .ok ())
  | .elapse nanos => ({ s with now := s.now + nanos }, .ok ())

abbrev ThrottleRoutine := Routine RegistrationThrottleService ThrottleCall (Except UInt32 Unit) (Except UInt32 Unit)

/-- What an endpoint does with the throttle: whether it asks before the attempt, and what it records of it after,
a success, a failure or nothing. -/
structure ThrottledAttempt where
  identifier : String
  maxAttempts : UInt32
  lockoutSeconds : UInt32
  checked : Bool
  outcome : Option Bool
  deriving DecidableEq

namespace ThrottledAttempt

def record (attempt : ThrottledAttempt) : ThrottleRoutine :=
  match attempt.outcome with
  | none => .done (.ok ())
  | some true => .write (.recordSuccessfulAttempt attempt.identifier) fun _ => .done (.ok ())
  | some false =>
    .write (.recordFailedAttempt attempt.identifier attempt.maxAttempts attempt.lockoutSeconds) fun _ =>
      .done (.ok ())

/-- What comes of the check: the attempt that goes on, or the refusal. -/
def checkedBy (attempt : ThrottledAttempt) : Except UInt32 Unit → ThrottleRoutine
  | .ok _ => attempt.record
  | .error remaining => .done (.error remaining)

/-- Between the check and the record the attempt itself is made, with the lock released. -/
def routine (attempt : ThrottledAttempt) : ThrottleRoutine :=
  if attempt.checked then .write (.checkAttempt attempt.identifier attempt.maxAttempts attempt.lockoutSeconds)
    attempt.checkedBy
  else attempt.record

end ThrottledAttempt

/-- The configuration as a handler reads it, as far as the throttle is concerned. -/
structure ThrottleConfig where
  registration : RegistrationRules
  throttleAttempts : UInt32
  throttleSeconds : UInt32
  loginThrottleEnabled : Bool
  loginThrottleAttempts : UInt32
  loginThrottleSeconds : UInt32
  passwordResetEnabled : Bool
  emailEnabled : Bool

def RESET_THROTTLE_ATTEMPTS : UInt32 := 3
def RESET_THROTTLE_SECONDS : UInt32 := 900

def CHECKIN_MAX_ATTEMPTS : UInt32 := 5
def CHECKIN_WINDOW_SECS : UInt32 := 30

namespace ThrottledAttempt
variable (toLowercase : String → String) (config : ThrottleConfig)

def login (usernameOrEmail password : String) (authenticated : Bool) : Option ThrottledAttempt :=
  if usernameOrEmail = "" ∨ password = "" then none
  else if config.loginThrottleEnabled then
    some ⟨"login:" ++ toLowercase (trim usernameOrEmail), config.loginThrottleAttempts,
      config.loginThrottleSeconds, true, some authenticated⟩
  else none

/-- The challenge has been found, and its user too. -/
def verifyLogin {Uuid : Type} [IdText Uuid] (userId : Uuid) (passed : Bool) : Option ThrottledAttempt :=
  if config.loginThrottleEnabled then
    some ⟨"mfa:" ++ IdText.toText userId, config.loginThrottleAttempts, config.loginThrottleSeconds, true,
      some passed⟩
  else none

/-- The attempt is recorded whether or not anybody is found. -/
def passwordResetRequest (email : String) : Option ThrottledAttempt :=
  if config.passwordResetEnabled && config.emailEnabled then
    some ⟨"password-reset:" ++ toLowercase (trim email), RESET_THROTTLE_ATTEMPTS, RESET_THROTTLE_SECONDS,
      true, some false⟩
  else none

def resendVerification (email : String) : Option ThrottledAttempt :=
  if config.emailEnabled then
    some ⟨"email-verify:" ++ toLowercase (trim email), RESET_THROTTLE_ATTEMPTS, RESET_THROTTLE_SECONDS, true,
      some false⟩
  else none

/-- Every check-in counts. -/
def doorCheckin {Uuid : Type} [IdText Uuid] (userId doorId : Uuid) : ThrottledAttempt :=
  ⟨"checkin:" ++ IdText.toText userId ++ ":" ++ IdText.toText doorId, CHECKIN_MAX_ATTEMPTS,
    CHECKIN_WINDOW_SECS, true, some false⟩

/-- What a registration that got past its challenge leaves behind. -/
def registered (challengeEnabled created : Bool) : Option Bool :=
  if challengeEnabled && created then some true else none

/-- What is recorded of a registration: a wrong phrase and a captcha that was not solved are failures. -/
def registrationOutcome (payload : RegisterRequest) (recaptcha : Option Bool) (created : Bool) : Option Bool :=
  let rules := config.registration
  if !rules.throttleEnabled then none
  else if rules.challengeEnabled && payload.challengePhrase.getD "" != rules.phrase then some false
  else if rules.termsOfServiceCheckbox && !payload.termsOfServiceAccepted.getD false then none
  else if rules.recaptchaEnabled then
    if payload.recaptchaToken.getD "" = "" then none
    else match recaptcha with
      | some true => registered rules.challengeEnabled created
      | some false => some false
      | none => none
  else registered rules.challengeEnabled created

/-- The identifier is the address alone, as it was typed but for its case. -/
def register (payload : RegisterRequest) (recaptcha : Option Bool) (created : Bool) : Option ThrottledAttempt :=
  if config.registration.allowRegistration then
    some ⟨toLowercase payload.email, config.throttleAttempts, config.throttleSeconds,
      config.registration.challengeEnabled && config.registration.throttleEnabled,
        registrationOutcome config payload recaptcha created⟩
  else none

end ThrottledAttempt

/-- A request that the service is asked about, with the configuration it finds and what it comes to
otherwise. -/
inductive ThrottleRequest (Uuid : Type)
  | login (config : ThrottleConfig) (usernameOrEmail password : String) (authenticated : Bool)
  | verifyLogin (config : ThrottleConfig) (userId : Uuid) (passed : Bool)
  | passwordResetRequest (config : ThrottleConfig) (email : String)
  | resendVerification (config : ThrottleConfig) (email : String)
  | register (config : ThrottleConfig) (payload : RegisterRequest) (recaptcha : Option Bool) (created : Bool)
  | doorCheckin (userId doorId : Uuid)
  | elapse (nanos : Nat)

section Service
variable {Uuid : Type} [IdText Uuid] (toLowercase : String → String)

def ThrottleRequest.attempt : ThrottleRequest Uuid → Option ThrottledAttempt
  | .login config usernameOrEmail password authenticated =>
    ThrottledAttempt.login toLowercase config usernameOrEmail password authenticated
  | .verifyLogin config userId passed => ThrottledAttempt.verifyLogin config userId passed
  | .passwordResetRequest config email => ThrottledAttempt.passwordResetRequest toLowercase config email
  | .resendVerification config email => ThrottledAttempt.resendVerification toLowercase config email
  | .register config payload recaptcha created =>
    ThrottledAttempt.register toLowercase config payload recaptcha created
  | .doorCheckin userId doorId => some (ThrottledAttempt.doorCheckin userId doorId)
  | .elapse _ => none

def ThrottleRequest.routine (request : ThrottleRequest Uuid) : ThrottleRoutine :=
  match request, request.attempt toLowercase with
  | .elapse nanos, _ => .write (.elapse nanos) fun _ => .done (.ok ())
  | _, some attempt => attempt.routine
  | _, none => .done (.ok ())

/-- The endpoints over the one service, any number of attempts being made at a time. -/
def throttleService : Service RegistrationThrottleService ThrottleCall (Except UInt32 Unit)
    (Except UInt32 Unit) (ThrottleRequest Uuid) where
  perform := RegistrationThrottleService.perform
  serve request := request.routine toLowercase

end Service

end CoopSpaces

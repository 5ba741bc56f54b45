import CoopSpaces.Server.TwoFactor

namespace CoopSpaces

namespace DatabaseManager
variable {Uuid : Type} [DecidableEq Uuid] {db : DatabaseManager Uuid}

theorem active_of_getUserFromToken {token : Claims Uuid} {row : UserRow}
    (authed : db.getUserFromToken token = .ok row) :
    db.findUserById token.userId = some row ∧ row.isActive = true ∧ token.tokenVersion = row.tokenVersion := by
  unfold getUserFromToken at authed
  split at authed
  next => cases authed
  next other found =>
    split at authed
    next => cases authed
    next active =>
      split at authed
      next => cases authed
      next current =>
        obtain rfl := Except.ok.inj authed
        exact ⟨found, by simpa using active, not_not.mp current⟩

/-- Whoever is let in by its password has an active account, and the password is its own. -/
theorem row_of_authenticateUser {platform : Platform} {name password : String} {userId : Uuid}
    (passed : db.authenticateUser platform name password = .ok userId) :
    ∃ row, db.findUserById userId = some row ∧ row.isActive = true ∧
      platform.verify password row.passwordHash = true := by
  unfold authenticateUser at passed
  dsimp only at passed
  split at passed
  next other row found =>
    unfold loginOf at passed
    split at passed
    next verified =>
      split at passed
      next active =>
        obtain rfl := Except.ok.inj passed
        obtain ⟨account, -, there⟩ := Option.bind_eq_some_iff.mp found
        obtain ⟨stored, is, same⟩ := Option.map_eq_some_iff.mp there
        obtain ⟨rfl, rfl⟩ := Prod.mk.inj same
        exact ⟨stored, is, active, verified⟩
      next => cases passed
    next => cases passed
  next => cases passed

/-- The extractor of the other endpoints looks at the same row in the same way. -/
theorem run_authUser (token : Claims Uuid) :
    (Handler.authUser token).run = .read fun db : DatabaseManager Uuid => .done (db.getUserFromToken token) := by
  show Routine.read _ = _
  congr 1
  funext db
  unfold getUserFromToken
  dsimp only [Routine.bind]
  rcases db.findUserById token.userId with _ | row
  · rfl
  · rcases active : row.isActive with _ | _
    · simp only [active, Bool.not_false, if_true]
      show Routine.bind (ExceptT.run (Handler.require row.isActive _)) _ = _
      rw [active]
      rfl
    · simp only [active, Bool.not_true, Bool.false_eq_true, if_false]
      show Routine.bind (ExceptT.run (Handler.require row.isActive _)) _ = _
      rw [active]
      show Routine.bind (ExceptT.run (Handler.require (decide (token.tokenVersion = row.tokenVersion)) _)) _ = _
      by_cases current : token.tokenVersion = row.tokenVersion
      · rw [decide_eq_true current, if_neg (not_not.mpr current)]
        rfl
      · rw [decide_eq_false current, if_pos current]
        rfl

end DatabaseManager

variable {Uuid Json Ceremony : Type} [DecidableEq Uuid]

def MfaStatement.AddsNoKey {Uuid : Type} (statement : MfaStatement Uuid) : Prop :=
  ∀ row, statement ≠ .insertUserWebauthn row

abbrev MfaRoutine.AddsNoKeys {Uuid α : Type} (part : MfaRoutine Uuid α) : Prop :=
  part.Meets (fun _ => True) MfaStatement.AddsNoKey fun _ => True

/-- The challenge that a statement stores. -/
def TwoFactorStatement.putToken : TwoFactorStatement Uuid Json Ceremony → Option String
  | .put token _ => some token
  | _ => none

/-- The token made for the challenge of a request. -/
def TwoFactorRequest.challengeToken : TwoFactorRequest Uuid Json → Option String
  | .login _ _ _ token _ => some token
  | .webauthnRegisterBegin _ _ token _ => some token
  | _ => none

namespace TwoFactorTables
variable (w : TwoFactorTables Uuid Json Ceremony)

/-- The challenge of a token, if it still stands. -/
def findChallenge (token : String) : Option (ChallengeEntry Uuid Ceremony) := (w.pruned token).map (·.entry)

/-- The code that a statement spends, when it is granted. -/
def spendsCode : TwoFactorStatement Uuid Json Ceremony → Option Uuid
  | .markRecoveryCodeUsed id _ => if w.codes.any fun row => row.id = id && row.usedAt.isNone then some id else none
  | _ => none

/-- The account is asked for a second factor when it logs in. -/
def asksSecondFactor (mfa : MfaRules) (userId : Uuid) : Prop :=
  ((w.mfa.enrolledAt userId).getD none).isSome = true ∧ mfa.enabled = true

variable {w}

theorem spends_of_granted {collation : Collation} {id : Uuid} {now : Int} {n : Nat}
    (granted : (w.perform collation (.markRecoveryCodeUsed id now)).2.ofRows = .ok n) :
    w.spendsCode (.markRecoveryCodeUsed id now) = some id := by
  have reply : (w.perform collation (.markRecoveryCodeUsed id now)).2.ofRows =
    (w.markRecoveryCodeUsed id now).2 := rfl
  rw [reply] at granted
  unfold markRecoveryCodeUsed at granted
  split at granted
  next free => exact if_pos free
  next => cases granted

end TwoFactorTables

section Promises
variable (rules : LoginRules Uuid Json Ceremony) (seen : TwoFactorTables Uuid Json Ceremony → Prop)

/-- The identity and the password were those of the account, which was active. -/
def PasswordSeen (name password : String) (userId : Uuid) : Prop :=
  ∃ s, seen s ∧ s.db.authenticateUser rules.platform name password = .ok userId

/-- Whose request stores a challenge, and what it has shown for it. -/
inductive Issues : TwoFactorRequest Uuid Json → String → ChallengeEntry Uuid Ceremony → Prop
  | login {name password token seed : String} {throttled : Option Nat} {userId : Uuid} {methods : List String}
      (passed : PasswordSeen rules seen name password userId) {s : TwoFactorTables Uuid Json Ceremony}
        (there : seen s) :
      Issues (.login name password throttled token seed) token
        (.login ⟨userId, methods, (TwoFactorRoutine.startLogin rules s userId seed).map (·.2)⟩)
  | register {claims : Claims Uuid} {label token seed : String} {row : UserRow} {state : Ceremony}
      {s : TwoFactorTables Uuid Json Ceremony} (there : seen s) (authed : s.db.getUserFromToken claims = .ok row) :
      Issues (.webauthnRegisterBegin claims label token seed) token (.register ⟨claims.userId, trim label, state⟩)

/-- A second factor shown by a request that has made these changes. -/
inductive Proves (landed : TwoFactorLog Uuid Json Ceremony)
    (challenge : LoginChallenge Uuid Ceremony) : String → Option String → Option Json → Prop
  /-- A code of a confirmed authenticator of the member, for a step past the last one that was seen used. -/
  | totp {code email : String} {response : Option Json} {row : UserMfaTotp Uuid} {step : Int}
      {s later t : TwoFactorTables Uuid Json Ceremony} (there : seen s) (stored : row ∈ s.mfa.totp)
      (own : row.userId = challenge.userId) (confirmed : row.confirmedAt.isSome = true) (now : seen later)
      (fits : rules.mfa.verifyTotpStep row.secret email (trim code) later.mfa.clock = some step)
      (unused : ∀ last, row.lastUsedStep = some last → last < step)
      (marked : (t, .mfa (.updateTotpLastUsedStep row.id step)) ∈ landed)
      (granted : (t.mfa.perform (.updateTotpLastUsedStep row.id step)).2.isOk = true) :
      Proves landed challenge methods.totp (some code) response
  | webauthn {code : Option String} {response : Json} {library : Webauthn Uuid Json Ceremony} {ceremony : Ceremony}
      {credentialId : List UInt8} (on_ : rules.webauthn = some library)
        (held : challenge.webauthnAuth = some ceremony)
      (finished : library.finishPasskeyAuthentication response ceremony = .ok credentialId) :
      Proves landed challenge methods.webauthn code (some response)
  /-- A recovery code of the member, spent on this. -/
  | recovery {code : String} {response : Option Json} {row : UserMfaRecoveryCode Uuid} {now : Int}
      {s t : TwoFactorTables Uuid Json Ceremony} (there : seen s) (stored : row ∈ s.codes)
      (own : row.userId = challenge.userId) (fits : rules.platform.verify (trim code) row.codeHash = true)
      (spent : (t, .markRecoveryCodeUsed row.id now) ∈ landed)
      (granted : t.spendsCode (.markRecoveryCodeUsed row.id now) = some row.id) :
      Proves landed challenge methods.recovery (some code) response

/-- What a request has gone through that answers with a session. -/
inductive Admits (landed : TwoFactorLog Uuid Json Ceremony) :
    TwoFactorRequest Uuid Json → Claims Uuid → Prop
  | password {name password token seed : String} {throttled : Option Nat} {userId : Uuid} {row : UserRow}
      {s : TwoFactorTables Uuid Json Ceremony} (there : seen s)
      (passed : s.db.authenticateUser rules.platform name password = .ok userId)
      (stored : s.db.findUserById userId = some row) (active : row.isActive = true)
      (alone : ¬ s.asksSecondFactor rules.mfa userId)
      (verified : rules.requireEmailVerification = true → s.emailVerified userId = true) :
      Admits landed (.login name password throttled token seed) ⟨userId, row.tokenVersion⟩
  | secondFactor {token method : String} {code : Option String} {response : Option Json} {throttled : Option Nat}
      {challenge : LoginChallenge Uuid Ceremony} {row : UserRow} {s later : TwoFactorTables Uuid Json Ceremony}
      (took : (s, .take token) ∈ landed) (held : s.findChallenge token = some (.login challenge)) (there : seen later)
      (stored : later.db.findUserById challenge.userId = some row) (active : row.isActive = true)
      (proves : Proves rules seen landed challenge method code response) :
      Admits landed (.verifyLogin token method code response throttled) ⟨challenge.userId, row.tokenVersion⟩

/-- What a request has gone through that stores a key. -/
inductive Registers (landed : TwoFactorLog Uuid Json Ceremony) :
    TwoFactorRequest Uuid Json → UserMfaWebauthn Uuid → Json → Prop
  | mk {claims : Claims Uuid} {token : String} {response passkey : Json} {id : Uuid} {credentialId : List UInt8}
      {library : Webauthn Uuid Json Ceremony} {registration : WebauthnRegistration Uuid Ceremony}
      {s : TwoFactorTables Uuid Json Ceremony} (took : (s, .take token) ∈ landed)
      (held : s.findChallenge token = some (.register registration)) (own : registration.userId = claims.userId)
      (on_ : rules.webauthn = some library)
      (finished : library.finishPasskeyRegistration response registration.state = .ok (credentialId, passkey)) :
      Registers landed (.webauthnRegisterFinish claims token response id) ⟨id, claims.userId, credentialId⟩ passkey

/-- A statement that stores no challenge and no key, and creates no account unless that is what is asked. -/
inductive Ordinary : TwoFactorRequest Uuid Json → TwoFactorStatement Uuid Json Ceremony → Prop
  | account {request : TwoFactorRequest Uuid Json} (change : Change Uuid) : Ordinary request (.account (.of change))
  | asked (change : AccountChange Uuid) : Ordinary (.account change) (.account change)
  | mfa {request : TwoFactorRequest Uuid Json} {statement : MfaStatement Uuid} (other : statement.AddsNoKey) :
      Ordinary request (.mfa statement)
  | codes {request : TwoFactorRequest Uuid Json} (userId : Uuid) (rows : List (Uuid × String)) :
      Ordinary request (.replaceUserRecoveryCodes userId rows)
  | spend {request : TwoFactorRequest Uuid Json} (id : Uuid) (now : Int) :
    Ordinary request (.markRecoveryCodeUsed id now)
  | take {request : TwoFactorRequest Uuid Json} (token : String) : Ordinary request (.take token)
  | wait {request : TwoFactorRequest Uuid Json} (micros : Nat) : Ordinary request (.wait micros)

/-- What every request keeps to: what it stores and what it answers with it has gone through the checks for. -/
structure Keeps (request : TwoFactorRequest Uuid Json) (landed : TwoFactorLog Uuid Json Ceremony)
    (answer : Option (Except PublicError (TwoFactorAnswer Uuid Json))) : Prop where
  loud : ∀ entry ∈ landed, Ordinary request entry.2 ∨
    (∃ token stored, entry.2 = .put token stored ∧ Issues rules seen request token stored) ∨
    ∃ row passkey, entry.2 = .insertUserWebauthn row passkey ∧ Registers rules landed request row passkey
  puts : List.Sublist (landed.filterMap fun entry => entry.2.putToken) request.challengeToken.toList
  session : ∀ claims, answer = some (.ok (.session claims)) → Admits rules seen landed request claims

end Promises

section Keeping
variable {rules : LoginRules Uuid Json Ceremony} {seen : TwoFactorTables Uuid Json Ceremony → Prop}
  {request : TwoFactorRequest Uuid Json} {landed more : TwoFactorLog Uuid Json Ceremony}
  {answer : Option (Except PublicError (TwoFactorAnswer Uuid Json))}

omit [DecidableEq Uuid] in
theorem Ordinary.putToken_eq {statement : TwoFactorStatement Uuid Json Ceremony}
    (ordinary : Ordinary request statement) :
    statement.putToken = none := by
  cases ordinary with
  | _ => rfl

omit [DecidableEq Uuid] in
theorem Registers.mono {row : UserMfaWebauthn Uuid} {passkey : Json}
    (registers : Registers rules landed request row passkey)
    (within : landed ⊆ more) : Registers rules more request row passkey := by
  cases registers with
  | mk took held own on_ finished => exact .mk (within took) held own on_ finished

section
variable (keeps : Keeps rules seen request landed none)
include keeps

theorem Keeps.append (ordinary : ∀ entry ∈ more, Ordinary request entry.2)
    (noSession : ∀ claims, answer ≠ some (.ok (.session claims))) :
    Keeps rules seen request (landed ++ more) answer := by
  refine ⟨fun entry listed => ?_, ?_, fun claims given => absurd given (noSession claims)⟩
  · rcases List.mem_append.mp listed with old | new
    · rcases keeps.loud entry old with quiet | puts | ⟨row, passkey, same, registers⟩
      · exact .inl quiet
      · exact .inr (.inl puts)
      · exact .inr (.inr ⟨row, passkey, same, registers.mono (List.subset_append_left _ _)⟩)
    · exact .inl (ordinary entry new)
  · have none_ : (more.filterMap fun entry => entry.2.putToken) = [] :=
      List.filterMap_eq_nil_iff.mpr fun entry listed => (ordinary entry listed).putToken_eq
    rw [List.filterMap_append, none_, List.append_nil]
    exact keeps.puts

theorem Keeps.answering (noSession : ∀ claims, answer ≠ some (.ok (.session claims))) :
    Keeps rules seen request landed answer := by
  have same : Keeps rules seen request (landed ++ []) answer :=
    keeps.append (fun entry none_ => by cases none_) noSession
  rwa [List.append_nil] at same

theorem Keeps.append_one {statement : TwoFactorStatement Uuid Json Ceremony} (ordinary : Ordinary request statement)
    (s : TwoFactorTables Uuid Json Ceremony) : Keeps rules seen request (landed ++ [(s, statement)]) none := by
  refine keeps.append (fun entry listed => ?_) fun claims none_ => by cases none_
  rw [List.mem_singleton.mp listed]
  exact ordinary

end

theorem keeps_nil : Keeps rules seen request [] none :=
  ⟨fun entry none_ => (by cases none_), List.nil_sublist _, fun claims none_ => (by cases none_)⟩

namespace TwoFactorRoutine

/-- The promise of a request from where it is. -/
abbrev Sound (rules : LoginRules Uuid Json Ceremony) (seen : TwoFactorTables Uuid Json Ceremony → Prop)
    (request : TwoFactorRequest Uuid Json) (landed : TwoFactorLog Uuid Json Ceremony)
    (routine : TwoFactorRoutine Uuid Json Ceremony) : Prop :=
  routine.Sees (fun w => w.perform rules.platform.toCollation) seen (Keeps rules seen request) landed

variable {next : TwoFactorRoutine Uuid Json Ceremony} {challenge : LoginChallenge Uuid Ceremony}
    {response : Option Json}

section
variable (keeps : Keeps rules seen request landed none)
include keeps

theorem sound_refuse (error : ApiError) : Sound rules seen request landed (refuse error) :=
  keeps.answering fun claims same => by cases same

theorem sound_answer {a : TwoFactorAnswer Uuid Json} (noSession : ∀ claims, a ≠ .session claims) :
    Sound rules seen request landed (TwoFactorRoutine.answer a) :=
  keeps.answering fun claims same => noSession claims (Except.ok.inj (Option.some.inj same))

theorem sound_bind {Answer : Type}
    {part : Routine (TwoFactorTables Uuid Json Ceremony) (TwoFactorStatement Uuid Json Ceremony)
      (TwoFactorReply Uuid Ceremony) Answer}
    {f : Answer → TwoFactorRoutine Uuid Json Ceremony}
    (first : part.Sees (fun w => w.perform rules.platform.toCollation) seen
      (fun now _ => ∃ more, now = landed ++ more ∧ ∀ entry ∈ more, Ordinary request entry.2) landed)
    (rest : ∀ more a, (∀ entry ∈ more, Ordinary request entry.2) →
      Keeps rules seen request (landed ++ more) none → Sound rules seen request (landed ++ more) (f a)) :
    Sound rules seen request landed (part.bind f) := by
  have after : ∀ more, (∀ entry ∈ more, Ordinary request entry.2) → Keeps rules seen request (landed ++ more) none :=
    fun more ordinary => keeps.append ordinary fun claims none_ => by cases none_
  refine Routine.Sees.bind first ?_ ?_
  · rintro _ ⟨more, rfl, ordinary⟩
    exact after more ordinary
  · rintro _ a ⟨more, rfl, ordinary⟩
    exact rest more a ordinary (after more ordinary)

theorem sound_ofHandler {α : Type} {handler : Handler Uuid α} {next : α → TwoFactorRoutine Uuid Json Ceremony}
    (rest : ∀ more a, Keeps rules seen request (landed ++ more) none →
      Sound rules seen request (landed ++ more) (next a)) :
    Sound rules seen request landed (ofHandler handler next) := by
  have meets : handler.run.Meets (fun _ => True) (fun _ => True) fun _ => True :=
    Routine.Meets.of_forall (fun _ => trivial) (fun _ => trivial) _
  refine sound_bind keeps (Routine.sees_embed meets fun more _ wrapped => ⟨more, rfl, fun entry listed => ?_⟩) ?_
  · obtain ⟨change, -, same⟩ := wrapped entry listed
    rw [same]
    exact .account _
  · intro more result _ after
    cases result with
    | error e => exact sound_refuse after e
    | ok a => exact rest more a after

theorem sound_authUser {token : Claims Uuid} {next : UserRow → TwoFactorRoutine Uuid Json Ceremony}
    (rest : ∀ s row, seen s → s.db.getUserFromToken token = .ok row → Sound rules seen request landed (next row)) :
    Sound rules seen request landed (ofHandler (Handler.authUser token) next) := by
  rw [ofHandler, DatabaseManager.run_authUser]
  refine ⟨keeps, fun s there => ?_⟩
  dsimp only [Routine.embed, Routine.bind]
  split
  · exact sound_refuse keeps _
  next row authed => exact rest s row there authed

theorem sound_ofMfa {α : Type} {part : MfaRoutine Uuid (Except ApiError α)}
    {next : α → TwoFactorRoutine Uuid Json Ceremony} (meets : part.AddsNoKeys)
    (rest : ∀ more a, Keeps rules seen request (landed ++ more) none →
      Sound rules seen request (landed ++ more) (next a)) :
    Sound rules seen request landed (ofMfa part next) := by
  refine sound_bind keeps (Routine.sees_embed meets fun more _ wrapped => ⟨more, rfl, fun entry listed => ?_⟩) ?_
  · obtain ⟨statement, other, same⟩ := wrapped entry listed
    rw [same]
    exact .mfa other
  · intro more result _ after
    cases result with
    | error e => exact sound_refuse after e
    | ok a => exact rest more a after

end

omit [DecidableEq Uuid] in
theorem ofMfa_error {α : Type} (error : ApiError) (next : α → TwoFactorRoutine Uuid Json Ceremony) :
    ofMfa (.done (.error error)) next = refuse error := rfl

omit [DecidableEq Uuid] in
theorem ofMfa_read {α : Type} (part : MfaTables Uuid → MfaRoutine Uuid (Except ApiError α))
    (next : α → TwoFactorRoutine Uuid Json Ceremony) :
    ofMfa (.read part) next = .read fun w => ofMfa (part w.mfa) next := rfl

section
variable (keeps : Keeps rules seen request landed none)
include keeps

theorem sound_requireEnabled (rest : rules.mfa.enabled = true → Sound rules seen request landed next) :
    Sound rules seen request landed (requireEnabled rules next) := by
  unfold requireEnabled
  split
  next on_ => exact rest on_
  next => exact sound_refuse keeps _

theorem sound_send {statement : TwoFactorStatement Uuid Json Ceremony}
    {next : Nat → TwoFactorRoutine Uuid Json Ceremony}
    (after : ∀ s, Keeps rules seen request (landed ++ [(s, statement)]) none)
    (rest : ∀ s n, (s.perform rules.platform.toCollation statement).2.ofRows = .ok n →
      Keeps rules seen request (landed ++ [(s, statement)]) none →
        Sound rules seen request (landed ++ [(s, statement)]) (next n)) :
    Sound rules seen request landed (send statement next) := by
  refine ⟨keeps, fun s _ => ?_⟩
  beta_reduce
  split
  · exact sound_refuse (after s) _
  next n reply => exact rest s n reply (after s)

theorem sound_read {next : TwoFactorTables Uuid Json Ceremony → TwoFactorRoutine Uuid Json Ceremony}
    (rest : ∀ s, seen s → Sound rules seen request landed (next s)) : Sound rules seen request landed (.read next) :=
  ⟨keeps, rest⟩

end

theorem sound_ite {condition : Prop} [Decidable condition] {yes no : TwoFactorRoutine Uuid Json Ceremony}
    (holds : condition → Sound rules seen request landed yes)
    (fails : ¬ condition → Sound rules seen request landed no) :
    Sound rules seen request landed (if condition then yes else no) := by
  split
  next is => exact holds is
  next is => exact fails is

theorem sound_replaceCodes (userId : Uuid) (codes : List (String × String × Uuid))
    (keeps : Keeps rules seen request landed none) :
    Sound rules seen request landed (replaceCodes rules userId codes) := by
  unfold replaceCodes
  split
  · exact sound_refuse keeps _
  · refine sound_send keeps (fun s => keeps.append_one (.codes _ _) s) fun s n _ after => ?_
    exact sound_answer after fun claims same => by cases same

theorem sound_buildLoginChallenge {name password token seed : String} {throttled : Option Nat} {userId : Uuid}
    (passed : PasswordSeen rules seen name password userId) :
    Sound rules seen (.login name password throttled token seed) []
      (buildLoginChallenge rules userId token seed) := by
  refine ⟨keeps_nil, fun first _ => ⟨keeps_nil, fun s there => ⟨keeps_nil, fun last _ => ?_⟩⟩⟩
  refine sound_ite (fun _ => sound_refuse keeps_nil _) fun _ => ?_
  · refine ⟨keeps_nil, fun t _ => ⟨fun entry listed => ?_, ?_, fun claims same => ?_⟩⟩
    · rw [List.mem_singleton.mp listed]
      exact .inr (.inl ⟨token, _, rfl, .login passed there⟩)
    · exact List.Sublist.refl _
    · cases Except.ok.inj (Option.some.inj same)

theorem sound_login {name password token seed : String} {throttled : Option Nat} :
    Sound rules seen (.login name password throttled token seed) []
      (login rules name password throttled token seed) := by
  unfold login
  split
  · exact sound_refuse keeps_nil _
  · split
    · exact keeps_nil.answering fun claims same => by cases same
    · refine ⟨keeps_nil, fun s there => ?_⟩
      beta_reduce
      split
      · exact sound_refuse keeps_nil _
      next userId passed =>
        split
        · exact sound_refuse keeps_nil _
        next verified =>
          split
          · exact sound_buildLoginChallenge ⟨s, there, passed⟩
          next alone =>
            obtain ⟨row, stored, active, -⟩ := DatabaseManager.row_of_authenticateUser passed
            refine ⟨fun entry none_ => (by cases none_), List.nil_sublist _, fun claims same => ?_⟩
            obtain rfl := TwoFactorAnswer.session.inj (Except.ok.inj (Option.some.inj same))
            rw [stored]
            refine .password there passed stored active alone fun required => ?_
            simpa [required] using verified

theorem code_given (code : String) :
    ((some code).map trim).filter (fun c => c ≠ "") = if trim code = "" then none else some (trim code) := by
  rw [Option.map_some]
  split
  next empty => exact Option.filter_some_neg (by rw [empty]; rfl)
  next given => exact Option.filter_some_pos (decide_eq_true given)

/-- Each authenticator that is tried is one of those listed. -/
theorem sound_verifyTotpRows {email code : String} {s : TwoFactorTables Uuid Json Ceremony} (there : seen s)
    (keeps : Keeps rules seen request landed none)
    (rest : ∀ more, Keeps rules seen request (landed ++ more) none →
      Proves rules seen (landed ++ more) challenge methods.totp (some code) response →
      Sound rules seen request (landed ++ more) next) (rows : List (UserMfaTotp Uuid)) (replayed : Bool)
    (listed : ∀ row ∈ rows, row ∈ s.mfa.totp ∧ row.userId = challenge.userId ∧ row.confirmedAt.isSome = true) :
    Sound rules seen request landed
      (ofMfa (MfaRoutine.verifyTotpRows rules.mfa email (trim code) replayed rows) fun _ => next) := by
  induction rows generalizing replayed with
  | nil => exact sound_refuse keeps _
  | cons row later ih =>
    have others := fun replayed => ih replayed fun other member => listed other (List.mem_cons_of_mem _ member)
    obtain ⟨stored, own, confirmed⟩ := listed row (List.mem_cons_self ..)
    refine ⟨keeps, fun now clock => ?_⟩
    dsimp only
    rcases fits : rules.mfa.verifyTotpStep row.secret email (trim code) now.mfa.clock with _ | step
    · exact others replayed
    · dsimp only
      by_cases used : (row.lastUsedStep.any fun last => decide (step ≤ last)) = true
      · rw [if_pos used]
        exact others true
      · rw [if_neg used]
        have marks : Ordinary request
            (.mfa (.updateTotpLastUsedStep row.id step) : TwoFactorStatement Uuid Json Ceremony) :=
          .mfa fun row same => by cases same
        refine ⟨keeps, fun t _ => ?_⟩
        have after := keeps.append_one marks t
        have marked : (t, .mfa (.updateTotpLastUsedStep row.id step)) ∈
            landed ++ [(t, (.mfa (.updateTotpLastUsedStep row.id step) : TwoFactorStatement Uuid Json Ceremony))] :=
          List.mem_append_right _ (List.mem_singleton_self _)
        have told : TwoFactorReply.ofRows (t.perform rules.platform.toCollation
            (.mfa (.updateTotpLastUsedStep row.id step))).2 =
              (t.mfa.perform (.updateTotpLastUsedStep row.id step)).2 := rfl
        dsimp only
        rw [told]
        rcases reply : (t.mfa.perform (.updateTotpLastUsedStep row.id step)).2 with e | n
        · exact sound_refuse after _
        · refine rest _ after (.totp there stored own confirmed clock fits (fun last is => ?_) marked
            (by rw [reply]; rfl))
          simp only [is, Option.any_some, decide_eq_true_eq, not_le] at used
          exact used

variable {code : Option String}

section
variable (keeps : Keeps rules seen request landed none)
include keeps

theorem sound_verifyTotpPath {email : String}
    (rest : ∀ more, Keeps rules seen request (landed ++ more) none →
      Proves rules seen (landed ++ more) challenge methods.totp code response →
        Sound rules seen request (landed ++ more) next) :
    Sound rules seen request landed
      (ofMfa (MfaRoutine.verifyTotpPath rules.mfa challenge.userId email code) fun _ => next) := by
  unfold MfaRoutine.verifyTotpPath
  rcases code with _ | code
  · rw [Option.map_none, Option.filter_none, ofMfa_error]
    exact sound_refuse keeps _
  · rcases eq_or_ne (trim code) "" with empty | given
    · rw [code_given, if_pos empty, ofMfa_error]
      exact sound_refuse keeps _
    · rw [code_given, if_neg given]
      dsimp only
      rw [ofMfa_read]
      refine sound_read keeps fun s there => ?_
      split
      · exact sound_refuse keeps _
      · show Sound rules seen request landed (ofMfa (MfaRoutine.verifyTotpRows rules.mfa email (trim code) false
          ((s.mfa.listUserTotp challenge.userId).filter fun row => row.confirmedAt.isSome)) fun _ => next)
        refine sound_verifyTotpRows there keeps rest _ false fun row listed => ?_
        obtain ⟨mine, confirmed⟩ := List.mem_filter.mp listed
        have stored : row ∈ s.mfa.totp ∧ row.userId = challenge.userId := by
          rcases List.mem_append.mp mine with first | second
          · have own := List.mem_filter.mp (List.mem_filter.mp first).1
            exact ⟨own.1, of_decide_eq_true own.2⟩
          · have own := List.mem_filter.mp (List.mem_filter.mp second).1
            exact ⟨own.1, of_decide_eq_true own.2⟩
        exact ⟨stored.1, stored.2, confirmed⟩

theorem sound_verifyRecoveryPath
    (rest : ∀ more, Keeps rules seen request (landed ++ more) none →
      Proves rules seen (landed ++ more) challenge methods.recovery code response →
        Sound rules seen request (landed ++ more) next) :
    Sound rules seen request landed (verifyRecoveryPath rules challenge.userId code next) := by
  unfold verifyRecoveryPath
  rcases code with _ | code
  · rw [Option.map_none, Option.filter_none]
    exact sound_refuse keeps _
  · rcases eq_or_ne (trim code) "" with empty | given
    · rw [code_given, if_pos empty]
      exact sound_refuse keeps _
    · rw [code_given, if_neg given]
      dsimp only
      refine sound_read keeps fun s there => ?_
      split
      · exact sound_refuse keeps _
      next row found =>
        refine sound_read keeps fun now _ => ?_
        refine sound_send keeps (fun t => keeps.append_one (.spend _ _) t) fun t n granted after => ?_
        obtain ⟨stored, own⟩ := List.mem_filter.mp (List.mem_of_find?_eq_some found)
        rw [Bool.and_eq_true, decide_eq_true_eq] at own
        have fits : rules.platform.verify (trim code) row.codeHash = true := by simpa using List.find?_some found
        refine rest _ after (.recovery there stored own.1 fits
          (List.mem_append_right _ (List.mem_singleton_self _)) ?_)
        exact TwoFactorTables.spends_of_granted granted

theorem sound_verifyMethod {user : UserRow} {method : String}
    (rest : ∀ more, Keeps rules seen request (landed ++ more) none →
      Proves rules seen (landed ++ more) challenge method code response →
        Sound rules seen request (landed ++ more) next) :
    Sound rules seen request landed (verifyMethod rules user challenge method code response next) := by
  refine sound_ite (fun isTotp => ?_) fun _ => sound_ite (fun isWebauthn => ?_) fun _ =>
    sound_ite (fun isRecovery => ?_)
    fun _ => sound_refuse keeps _
  · subst isTotp
    exact sound_verifyTotpPath keeps rest
  · subst isWebauthn
    split
    · exact sound_refuse keeps _
    next verified =>
      have proved : Proves rules seen landed challenge methods.webauthn code response := by
        unfold verifyWebauthnPath at verified
        split at verified
        next => cases verified
        next library on_ =>
          split at verified
          next => cases verified
          next ceremony held =>
            split at verified
            next => cases verified
            next response =>
              split at verified
              next => cases verified
              next => cases verified
              next credentialId finished => exact .webauthn on_ held finished
      have here := rest []
      rw [List.append_nil] at here
      exact here keeps proved
  · subst isRecovery
    exact sound_verifyRecoveryPath keeps rest

end

theorem sound_verifyLogin {token method : String} {response : Option Json} {throttled : Option Nat} :
    Sound rules seen (.verifyLogin token method code response throttled) []
      (verifyLogin rules token method code response throttled) := by
  refine sound_requireEnabled keeps_nil fun _ => ⟨keeps_nil, fun s _ => ?_⟩
  have after : Keeps rules seen (.verifyLogin token method code response throttled) ([] ++ [(s, .take token)]) none :=
    keeps_nil.append_one (.take token) s
  beta_reduce
  split
  next challenge held =>
    refine ⟨after, fun later there => ?_⟩
    dsimp only
    split
    · exact sound_refuse after _
    next row stored =>
      refine sound_ite (fun _ => sound_refuse after _) fun active => ?_
      split
      · exact after.answering fun claims same => by cases same
      · refine sound_verifyMethod after fun more keeps proves => ⟨keeps.loud, keeps.puts, fun claims same => ?_⟩
        obtain rfl := TwoFactorAnswer.session.inj (Except.ok.inj (Option.some.inj same))
        exact .secondFactor (List.mem_append_left _ (List.mem_singleton_self _)) held there stored
          (by simpa using active)
          proves
  next => exact sound_refuse after _

theorem sound_webauthnRegisterBegin {claims : Claims Uuid} {label token seed : String} :
    Sound rules seen (.webauthnRegisterBegin claims label token seed) []
      (webauthnRegisterBegin rules claims label token seed) := by
  refine sound_authUser keeps_nil fun s row there authed => sound_requireEnabled keeps_nil fun _ => ?_
  split
  · exact sound_refuse keeps_nil _
  · refine ⟨keeps_nil, fun _ _ => sound_ite (fun _ => sound_refuse keeps_nil _) fun _ => ?_⟩
    split
    · exact sound_refuse keeps_nil _
    · refine ⟨keeps_nil, fun t _ => ⟨fun entry listed => ?_, ?_, fun claims same => ?_⟩⟩
      · rw [List.mem_singleton.mp listed]
        exact .inr (.inl ⟨token, _, rfl, .register there authed⟩)
      · exact List.Sublist.refl _
      · cases Except.ok.inj (Option.some.inj same)

section Parts
variable {userId : Uuid}

omit [DecidableEq Uuid] in
theorem meets_sendMfa {α : Type} {statement : MfaStatement Uuid} {next : Nat → MfaRoutine Uuid (Except ApiError α)}
    (other : statement.AddsNoKey) (rest : ∀ n, (next n).AddsNoKeys) :
    (MfaRoutine.sendMfa statement next).AddsNoKeys := by
  refine ⟨other, fun reply => ?_⟩
  cases reply with
  | error e => trivial
  | ok n => exact rest n

theorem meets_recomputeUserMfaEnrolled (userId : Uuid) : (MfaRoutine.recomputeUserMfaEnrolled userId).AddsNoKeys :=
  fun _ _ _ _ _ _ => meets_sendMfa (fun row same => by cases same) fun _ => trivial

omit [DecidableEq Uuid] in
theorem meets_totpSetup (mfa : MfaRules) (id : Uuid) (secret : String) (label : Option String) :
    (MfaRoutine.totpSetup mfa userId id secret label).AddsNoKeys := by
  unfold MfaRoutine.totpSetup MfaRoutine.requireEnabled
  split
  · split
    · trivial
    · split
      · trivial
      · exact meets_sendMfa (fun row same => by cases same) fun _ => trivial
  · trivial

theorem meets_totpConfirm (mfa : MfaRules) (email : String) (id : Option Uuid) (code : String) :
    (MfaRoutine.totpConfirm mfa userId email id code).AddsNoKeys := by
  unfold MfaRoutine.totpConfirm MfaRoutine.requireEnabled
  split
  · intro w _
    dsimp only
    split
    · trivial
    · intro later _
      dsimp only
      split
      · trivial
      · exact fun _ _ => meets_sendMfa (fun row same => by cases same) fun _ => meets_recomputeUserMfaEnrolled _
  · trivial

theorem meets_totpDisable (id : Uuid) : (MfaRoutine.totpDisable userId id).AddsNoKeys := by
  intro w _
  dsimp only
  split
  · exact meets_sendMfa (fun row same => by cases same) fun _ => meets_recomputeUserMfaEnrolled _
  · trivial

theorem meets_webauthnRemove (id : Uuid) : (MfaRoutine.webauthnRemove userId id).AddsNoKeys := by
  refine meets_sendMfa (fun row same => by cases same) fun deleted => ?_
  split
  · trivial
  · exact meets_recomputeUserMfaEnrolled _

omit [DecidableEq Uuid] in
theorem meets_ofUser {next : MfaRoutine Uuid (Except ApiError MfaAnswer)} (meets : next.AddsNoKeys) :
    (MfaRoutine.ofUser userId next).AddsNoKeys := by
  intro w _
  dsimp only
  split
  · exact meets
  · trivial

theorem meets_removeUserWebauthn (id : Uuid) : (MfaRoutine.removeUserWebauthn userId id).AddsNoKeys := by
  refine meets_ofUser fun w _ => ?_
  dsimp only
  split
  · exact meets_sendMfa (fun row same => by cases same) fun _ => meets_recomputeUserMfaEnrolled _
  · trivial

end Parts

theorem sound_webauthnRegisterFinish {claims : Claims Uuid} {token : String} {response : Json} {id : Uuid} :
    Sound rules seen (.webauthnRegisterFinish claims token response id) []
      (webauthnRegisterFinish rules claims token response id) := by
  refine sound_authUser keeps_nil fun _ _ _ _ => sound_requireEnabled keeps_nil fun _ => ?_
  split
  · exact sound_refuse keeps_nil _
  next library on_ =>
    refine ⟨keeps_nil, fun s _ => ?_⟩
    have after : Keeps rules seen (.webauthnRegisterFinish claims token response id)
        ([] ++ [(s, .take token)]) none :=
      keeps_nil.append_one (.take token) s
    beta_reduce
    split
    next registration held =>
      refine sound_ite (fun _ => sound_refuse after _) fun own => ?_
      split
      · exact sound_refuse after _
      · exact sound_refuse after _
      next credentialId passkey finished =>
        have took : ∀ entry : TwoFactorTables Uuid Json Ceremony × TwoFactorStatement Uuid Json Ceremony,
            (s, .take token) ∈ ([] ++ [(s, .take token)]) ++ [entry] := fun entry => List.mem_cons_self ..
        refine sound_send after (fun t =>
          ⟨fun entry listed => ?_, List.nil_sublist _, fun claims none_ => by cases none_⟩)
          fun t n _ stored => ?_
        · rcases List.mem_append.mp listed with old | new
          · exact .inl (List.mem_singleton.mp old ▸ .take token)
          · rw [List.mem_singleton.mp new]
            exact .inr (.inr ⟨_, _, rfl, .mk (took _) held (not_not.mp own) on_ finished⟩)
        · exact sound_ofMfa stored (meets_recomputeUserMfaEnrolled _) fun more _ keeps =>
            sound_answer keeps fun claims same => by cases same
    next => exact sound_refuse after _

theorem sound_totpConfirm {claims : Claims Uuid} {id : Option Uuid} {code : String}
    {codes : List (String × String × Uuid)} :
    Sound rules seen (.totpConfirm claims id code codes) [] (totpConfirm rules claims id code codes) := by
  refine sound_authUser keeps_nil fun _ _ _ _ => ⟨keeps_nil, fun s _ => ?_⟩
  refine sound_ofMfa keeps_nil (meets_totpConfirm _ _ _ _) fun more _ keeps => sound_ite (fun _ => ?_) fun _ => ?_
  · exact sound_replaceCodes _ _ keeps
  · exact sound_answer keeps fun claims same => by cases same

/-- Every request keeps to what it has to, whoever runs in between. -/
theorem sound_serve (request : TwoFactorRequest Uuid Json) : Sound rules seen request [] (serve rules request) := by
  have done_ : ∀ {request : TwoFactorRequest Uuid Json} (more : TwoFactorLog Uuid Json Ceremony),
      Keeps rules seen request ([] ++ more) none → Sound rules seen request ([] ++ more) (answer .done) :=
    fun more keeps => sound_answer keeps fun claims same => by cases same
  cases request with
  | login name password throttled challenge seed => exact sound_login
  | verifyLogin challenge method code response throttled => exact sound_verifyLogin
  | totpSetup token id secret label =>
    exact sound_authUser keeps_nil fun _ _ _ _ => sound_ofMfa keeps_nil (meets_totpSetup _ _ _ _) fun more _ =>
      done_ more
  | totpConfirm token id code codes => exact sound_totpConfirm
  | totpDisable token id =>
    exact sound_authUser keeps_nil fun _ _ _ _ => sound_ofMfa keeps_nil (meets_totpDisable _) fun more _ => done_ more
  | webauthnRegisterBegin token label challenge seed => exact sound_webauthnRegisterBegin
  | webauthnRegisterFinish token challenge response id => exact sound_webauthnRegisterFinish
  | webauthnRemove token id =>
    exact sound_authUser keeps_nil fun _ _ _ _ => sound_ofMfa keeps_nil (meets_webauthnRemove _) fun more _ =>
      done_ more
  | recoveryRegenerate token codes =>
    exact sound_authUser keeps_nil fun _ _ _ _ => sound_requireEnabled keeps_nil fun _ =>
      sound_replaceCodes _ _ keeps_nil
  | resetUserMfa token userId =>
    refine sound_ofHandler keeps_nil fun more _ keeps => sound_ofMfa keeps (meets_ofUser ?_) fun later _ after =>
      sound_answer after fun claims same => by cases same
    exact meets_sendMfa (fun row same => by cases same) fun _ => trivial
  | removeUserTotp token userId id =>
    exact sound_ofHandler keeps_nil fun more _ keeps => sound_ofMfa keeps (meets_ofUser (meets_totpDisable _))
      fun later _ after => sound_answer after fun claims same => by cases same
  | removeUserWebauthn token userId id =>
    exact sound_ofHandler keeps_nil fun more _ keeps =>
      sound_ofMfa keeps (meets_removeUserWebauthn _) fun later _ after =>
      sound_answer after fun claims same => by cases same
  | account change => exact ⟨keeps_nil, fun s _ => done_ _ (keeps_nil.append_one (.asked change) s)⟩
  | tick micros =>
    have ticks : Ordinary (.tick micros : TwoFactorRequest Uuid Json)
        (.mfa (.tick micros) : TwoFactorStatement Uuid Json Ceremony) := .mfa fun row same => by cases same
    exact ⟨keeps_nil, fun s _ => done_ _ (keeps_nil.append_one ticks s)⟩
  | wait micros => exact ⟨keeps_nil, fun s _ => done_ _ (keeps_nil.append_one (.wait micros) s)⟩

end TwoFactorRoutine

end Keeping

end CoopSpaces

import CoopSpaces.Server.TwoFactorLogins

namespace CoopSpaces

variable {Uuid Json Ceremony : Type} [DecidableEq Uuid]

abbrev LoginEvent (Uuid Json : Type) := Service.Event (TwoFactorRequest Uuid Json)

namespace TwoFactorTables
variable {w : TwoFactorTables Uuid Json Ceremony} {collation : Collation}
  {statement : TwoFactorStatement Uuid Json Ceremony}

def takesChallenge (w : TwoFactorTables Uuid Json Ceremony) : TwoFactorStatement Uuid Json Ceremony → Option String
  | .take token => if (w.findChallenge token).isSome then some token else none
  | _ => none

/-- The codes that a statement stores. -/
def storesCodes (w : TwoFactorTables Uuid Json Ceremony) : TwoFactorStatement Uuid Json Ceremony → List Uuid
  | .replaceUserRecoveryCodes userId rows =>
    if (w.replaceUserRecoveryCodes userId rows).2.isOk then rows.map (·.1) else []
  | _ => []

def unusedCode (w : TwoFactorTables Uuid Json Ceremony) (id : Uuid) : Bool :=
  w.codes.any fun row => row.id = id && row.usedAt.isNone

theorem replaceUserRecoveryCodes_eq (userId : Uuid) (rows : List (Uuid × String)) :
    ∃ codes, (w.replaceUserRecoveryCodes userId rows).1 = { w with codes } := by
  unfold replaceUserRecoveryCodes
  dsimp only
  split
  · exact ⟨_, rfl⟩
  · split
    · exact ⟨_, rfl⟩
    · split
      · exact ⟨_, rfl⟩
      · exact ⟨_, rfl⟩

theorem markRecoveryCodeUsed_eq (id : Uuid) (now : Int) :
    ∃ codes, (w.markRecoveryCodeUsed id now).1 = { w with codes } := by
  unfold markRecoveryCodeUsed
  split
  · exact ⟨_, rfl⟩
  · exact ⟨_, rfl⟩

/-- A challenge is there that was there, or that is being stored. -/
theorem challenges_perform {token : String} {stored : StoredChallenge Uuid Ceremony}
    (there : (w.perform collation statement).1.challenges token = some stored) :
    w.challenges token = some stored ∨
      statement = .put token stored.entry ∧ stored.expiresAt = w.instant + CHALLENGE_TTL := by
  cases statement with
  | put other entry =>
    rcases Table.insert_eq_some.mp there with ⟨rfl, rfl⟩ | ⟨-, kept⟩
    · exact .inr ⟨rfl, rfl⟩
    · exact .inl (Table.retain_eq_some.mp kept).1
  | take other =>
    have there' : w.pruned.erase other token = some stored := there
    rw [Table.erase_apply] at there'
    split at there'
    next => cases there'
    next => exact .inl (Table.retain_eq_some.mp there').1
  | replaceUserRecoveryCodes userId rows =>
    obtain ⟨codes, same⟩ := @replaceUserRecoveryCodes_eq _ _ _ _ w userId rows
    rw [perform, same] at there
    exact .inl there
  | markRecoveryCodeUsed id now =>
    obtain ⟨codes, same⟩ := @markRecoveryCodeUsed_eq _ _ _ _ w id now
    rw [perform, same] at there
    exact .inl there
  | _ => exact .inl there

theorem instant_perform : w.instant ≤ (w.perform collation statement).1.instant := by
  cases statement with
  | wait micros =>
    show w.instant ≤ w.instant + micros
    omega
  | replaceUserRecoveryCodes userId rows =>
    obtain ⟨codes, same⟩ := @replaceUserRecoveryCodes_eq _ _ _ _ w userId rows
    rw [perform, same]
  | markRecoveryCodeUsed id now =>
    obtain ⟨codes, same⟩ := @markRecoveryCodeUsed_eq _ _ _ _ w id now
    rw [perform, same]
  | _ => exact Int.le_refl _

omit [DecidableEq Uuid] in
theorem findChallenge_eq_some {token : String} {entry : ChallengeEntry Uuid Ceremony} :
    w.findChallenge token = some entry ↔
      ∃ stored, w.challenges token = some stored ∧ stored.entry = entry ∧ w.instant < stored.expiresAt := by
  rw [findChallenge, Option.map_eq_some_iff]
  constructor
  · rintro ⟨stored, kept, rfl⟩
    obtain ⟨there, stands⟩ := Table.retain_eq_some.mp kept
    exact ⟨stored, there, rfl, of_decide_eq_true stands⟩
  · rintro ⟨stored, there, rfl, stands⟩
    exact ⟨stored, Table.retain_eq_some.mpr ⟨there, decide_eq_true stands⟩, rfl⟩

/-- A key's row is there that was there, or that is being stored. -/
theorem webauthn_perform {row : UserMfaWebauthn Uuid} (there : row ∈ (w.perform collation statement).1.mfa.webauthn) :
    row ∈ w.mfa.webauthn ∨ (∃ passkey, statement = .insertUserWebauthn row passkey) ∨
      statement = .mfa (.insertUserWebauthn row) := by
  have inserted : ∀ {new : UserMfaWebauthn Uuid}, row ∈ (w.mfa.perform (.insertUserWebauthn new)).1.webauthn →
      row ∈ w.mfa.webauthn ∨ row = new := by
    intro new there
    simp only [MfaTables.perform] at there
    split at there
    next => exact .inl there
    next =>
      split at there
      next => exact .inl there
      next =>
        rcases List.mem_append.mp there with old | isNew
        · exact .inl old
        · exact .inr (List.mem_singleton.mp isNew)
  cases statement with
  | account change => exact .inl (List.mem_filter.mp there).1
  | insertUserWebauthn new passkey =>
    rcases inserted there with old | rfl
    · exact .inl old
    · exact .inr (.inl ⟨passkey, rfl⟩)
  | mfa statement =>
    cases statement with
    | insertUserWebauthn new =>
      rcases inserted there with old | rfl
      · exact .inl old
      · exact .inr (.inr rfl)
    | beginTotpSetup userId id secret =>
      simp only [perform, MfaTables.perform] at there
      split at there
      next => exact .inl there
      next =>
        split at there
        next => exact .inl there
        next => exact .inl there
    | finalizeTotpConfirmation userId id now =>
      simp only [perform, MfaTables.perform, MfaTables.updateTotp] at there
      split at there
      next => exact .inl there
      next => exact .inl there
    | updateTotpLastUsedStep id step =>
      simp only [perform, MfaTables.perform, MfaTables.updateTotp] at there
      split at there
      next => exact .inl there
      next => exact .inl there
    | deleteUserTotp userId id =>
      simp only [perform, MfaTables.perform] at there
      split at there
      next => exact .inl there
      next => exact .inl there
    | deleteUserWebauthn userId id => exact .inl (List.mem_filter.mp there).1
    | setUserMfaEnrolled userId when_ =>
      simp only [perform, MfaTables.perform] at there
      split at there
      next => exact .inl there
      next => exact .inl there
    | resetUserMfa userId => exact .inl (List.mem_filter.mp there).1
    | tick micros => exact .inl there
  | replaceUserRecoveryCodes userId rows =>
    obtain ⟨codes, same⟩ := @replaceUserRecoveryCodes_eq _ _ _ _ w userId rows
    rw [perform, same] at there
    exact .inl there
  | markRecoveryCodeUsed id now =>
    obtain ⟨codes, same⟩ := @markRecoveryCodeUsed_eq _ _ _ _ w id now
    rw [perform, same] at there
    exact .inl there
  | _ => exact .inl there

/-- A code is unused that was unused, or that is being stored. -/
theorem unused_perform {row : UserMfaRecoveryCode Uuid} (there : row ∈ (w.perform collation statement).1.codes)
    (free : row.usedAt = none) : row ∈ w.codes ∨ row.id ∈ w.storesCodes statement := by
  cases statement with
  | account change => exact .inl (List.mem_filter.mp there).1
  | mfa statement =>
    cases statement with
    | resetUserMfa userId => exact .inl (List.mem_filter.mp there).1
    | _ => exact .inl there
  | replaceUserRecoveryCodes userId rows =>
    simp only [perform, replaceUserRecoveryCodes] at there
    split at there
    next => exact .inl (List.mem_filter.mp there).1
    next some_ =>
      split at there
      next => exact .inl there
      next apart =>
        split at there
        next => exact .inl there
        next known =>
          rcases List.mem_append.mp there with old | isNew
          · exact .inl (List.mem_filter.mp old).1
          · obtain ⟨new, listed, rfl⟩ := List.mem_map.mp isNew
            refine .inr ?_
            have granted : (w.replaceUserRecoveryCodes userId rows).2.isOk = true := by
              rw [replaceUserRecoveryCodes]
              simp only [if_neg some_, if_neg apart, if_neg known]
              rfl
            have stores : w.storesCodes (.replaceUserRecoveryCodes userId rows) = rows.map (·.1) := if_pos granted
            exact stores ▸ List.mem_map_of_mem listed
  | markRecoveryCodeUsed id now =>
    simp only [perform, markRecoveryCodeUsed] at there
    split at there
    next =>
      obtain ⟨old, was, same⟩ := List.mem_map.mp there
      split at same
      next =>
        subst same
        cases free
      next => exact .inl (same ▸ was)
    next => exact .inl there
  | _ => exact .inl there

theorem unusedCode_iff {id : Uuid} : w.unusedCode id = true ↔ ∃ row ∈ w.codes, row.id = id ∧ row.usedAt = none := by
  simp only [unusedCode, List.any_eq_true, Bool.and_eq_true, decide_eq_true_eq, Option.isNone_iff_eq_none]

end TwoFactorTables

/-- Challenges are opened by being stored, and taken by being redeemed. -/
def challengeTokens (rules : LoginRules Uuid Json Ceremony) :
    Tokens (loginService rules : Service
      (TwoFactorTables Uuid Json Ceremony) _ _ _ (TwoFactorRequest Uuid Json)).perform
      String where
  isOpen := fun w token => (w.findChallenge token).isSome
  opens := fun _ statement => statement.putToken.toList
  takes := TwoFactorTables.takesChallenge
  taken_open := by
    intro w statement token takes
    cases statement with
    | take other =>
      simp only [TwoFactorTables.takesChallenge] at takes
      split at takes
      next stands => exact Option.some.inj takes ▸ stands
      next => cases takes
    | _ => cases takes
  taken_shut := by
    intro w statement token takes
    cases statement with
    | take other =>
      simp only [TwoFactorTables.takesChallenge] at takes
      split at takes
      next =>
        obtain rfl := Option.some.inj takes
        show ((((w.pruned).erase other).retain _ other).map _).isSome = false
        rw [Table.retain_apply, Table.erase_self]
        rfl
      next => cases takes
    | _ => cases takes
  opened := by
    intro w statement token stands shut
    obtain ⟨entry, found⟩ := Option.isSome_iff_exists.mp stands
    obtain ⟨stored, there, -, still⟩ := TwoFactorTables.findChallenge_eq_some.mp found
    rcases TwoFactorTables.challenges_perform there with old | ⟨rfl, -⟩
    · have later := @TwoFactorTables.instant_perform _ _ _ _ w rules.platform.toCollation statement
      have was : w.findChallenge token = some stored.entry :=
        TwoFactorTables.findChallenge_eq_some.mpr ⟨stored, old, rfl, lt_of_le_of_lt later still⟩
      rw [was] at shut
      cases shut
    · exact List.mem_singleton_self _

/-- Recovery codes are opened by being stored, and taken by being spent. -/
def recoveryTokens (rules : LoginRules Uuid Json Ceremony) :
    Tokens (loginService rules : Service
      (TwoFactorTables Uuid Json Ceremony) _ _ _ (TwoFactorRequest Uuid Json)).perform
      Uuid where
  isOpen := TwoFactorTables.unusedCode
  opens := TwoFactorTables.storesCodes
  takes := TwoFactorTables.spendsCode
  taken_open := by
    intro w statement id takes
    cases statement with
    | markRecoveryCodeUsed other now =>
      simp only [TwoFactorTables.spendsCode] at takes
      split at takes
      next free => exact Option.some.inj takes ▸ free
      next => cases takes
    | _ => cases takes
  taken_shut := by
    intro w statement id takes
    cases statement with
    | markRecoveryCodeUsed other now =>
      simp only [TwoFactorTables.spendsCode] at takes
      split at takes
      next free =>
        obtain rfl := Option.some.inj takes
        by_contra still
        obtain ⟨row, there, isIt, unused⟩ := TwoFactorTables.unusedCode_iff.mp (Bool.not_eq_false _ ▸ still)
        have codes : ((w.perform rules.platform.toCollation (.markRecoveryCodeUsed other now)).1.codes) =
            w.codes.map fun row => if row.id = other ∧ row.usedAt = none then { row with usedAt := some now }
              else row := by
          simp only [TwoFactorTables.perform, TwoFactorTables.markRecoveryCodeUsed, if_pos free]
        have there' : row ∈ _ := codes ▸ there
        obtain ⟨old, -, same⟩ := List.mem_map.mp there'
        split at same
        next =>
          subst same
          cases unused
        next was =>
          subst same
          exact was ⟨isIt, unused⟩
      next => cases takes
    | _ => cases takes
  opened := by
    intro w statement id unused shut
    obtain ⟨row, there, rfl, free⟩ := TwoFactorTables.unusedCode_iff.mp unused
    rcases TwoFactorTables.unused_perform there free with old | stored
    · have was : w.unusedCode row.id = true := TwoFactorTables.unusedCode_iff.mpr ⟨row, old, rfl, free⟩
      rw [was] at shut
      cases shut
    · exact stored

section Runs
variable (rules : LoginRules Uuid Json Ceremony) (start : TwoFactorTables Uuid Json Ceremony)
  (inputs : List (LoginEvent Uuid Json))

/-- Whose the challenge is that stands under the token: it was there from the start, or a request has stored it no
longer ago than it lasts. -/
def Issued (s : TwoFactorTables Uuid Json Ceremony) (token : String) (entry : ChallengeEntry Uuid Ceremony) : Prop :=
  (∃ stored, start.challenges token = some stored ∧ stored.entry = entry) ∨
    ∃ index t request routine, (index, t, .put token entry) ∈ (loginService rules).landings start inputs ∧
      s.instant < t.instant + CHALLENGE_TTL ∧
      (((loginService rules).machine start).run inputs).tasks[index]? = some (request, routine) ∧
      Issues rules ((loginService rules).Met start inputs index) request token entry

/-- A session is answered to a password where that is all there is, and otherwise to a second factor, shown for a
challenge that a password of the same member has got. -/
structure SecondFactorLogins : Prop where
  admitted : ∀ (index : Nat) (request : TwoFactorRequest Uuid Json) (claims : Claims Uuid),
    (((loginService rules).machine start).run inputs).answers[index]? = some (request, some (.ok (.session claims))) →
      Admits rules ((loginService rules).Met start inputs index)
        (Service.byIndex index ((loginService rules).landings start inputs)) request claims
  backed : ∀ (index : Nat) (token method : String) (code : Option String) (response : Option Json)
      (throttled : Option Nat) (claims : Claims Uuid),
    (((loginService rules).machine start).run inputs).answers[index]? =
      some (.verifyLogin token method code response throttled, some (.ok (.session claims))) →
        ∃ s challenge, (index, s, .take token) ∈ (loginService rules).landings start inputs ∧
          challenge.userId = claims.userId ∧ Issued rules start inputs s token (.login challenge) ∧
            Proves rules ((loginService rules).Met start inputs index)
              (Service.byIndex index ((loginService rules).landings start inputs)) challenge method code response

variable {rules start inputs}

theorem keeps_run {index : Nat} {request : TwoFactorRequest Uuid Json} {routine : TwoFactorRoutine Uuid Json Ceremony}
    (found : (((loginService rules).machine start).run inputs).tasks[index]? = some (request, routine)) :
    Keeps rules ((loginService rules).Met start inputs index) request
      (Service.byIndex index ((loginService rules).landings start inputs)) routine.answered :=
  @Service.sees_run _ _ _ _ _ (loginService rules)
    (fun index => Keeps rules ((loginService rules).Met start inputs index))
    start inputs (fun _ request _ => TwoFactorRoutine.sound_serve request) _ _ _ found

theorem issued_of_found {s : TwoFactorTables Uuid Json Ceremony} {token : String}
    {entry : ChallengeEntry Uuid Ceremony} (seen : (loginService rules).SeenIn start inputs s)
    (held : s.findChallenge token = some entry) : Issued rules start inputs s token entry := by
  obtain ⟨stored, there, rfl, stands⟩ := TwoFactorTables.findChallenge_eq_some.mp held
  by_cases before : start.challenges token = some stored
  · exact .inl ⟨stored, before, rfl⟩
  · obtain ⟨⟨index, t, statement⟩, landed, absent, now⟩ :=
      @Service.exists_landing_seen _ _ _ _ _ (loginService rules) start inputs
        (fun w => w.challenges token = some stored)
        s seen before there
    rcases TwoFactorTables.challenges_perform (w := t) now with old | ⟨rfl, expires⟩
    · exact absurd old absent
    · obtain ⟨request, routine, found⟩ := (loginService rules).found_of_landing start landed
      rcases (keeps_run found).loud _ (Service.mem_byIndex landed)
        with ordinary | ⟨_, _, same, issues⟩ | ⟨_, _, same, -⟩
      · cases ordinary
      · obtain ⟨rfl, rfl⟩ := TwoFactorStatement.put.inj same
        exact .inr ⟨index, t, request, routine, landed, expires ▸ stands, found, issues⟩
      · cases same

theorem admits_of_session {index : Nat} {request : TwoFactorRequest Uuid Json} {claims : Claims Uuid}
    (answered : (((loginService rules).machine start).run inputs).answers[index]? =
      some (request, some (.ok (.session claims)))) :
    Admits rules ((loginService rules).Met start inputs index)
      (Service.byIndex index ((loginService rules).landings start inputs)) request claims :=
  (keeps_run (Service.task_of_answers answered)).session claims rfl

/-- Whatever comes in between, and whoever changes the accounts meanwhile: nobody has a session without the password,
and where a second factor is asked for, none without one, shown within ten minutes of the password. -/
theorem second_factor_logins (rules : LoginRules Uuid Json Ceremony) (start : TwoFactorTables Uuid Json Ceremony)
    (inputs : List (LoginEvent Uuid Json)) : SecondFactorLogins rules start inputs := by
  refine ⟨fun index request claims answered => admits_of_session answered,
    fun index token method code response throttled claims answered => ?_⟩
  have admits := admits_of_session answered
  cases admits with
  | @secondFactor _ _ _ _ _ challenge row s later took held there stored active proves =>
    have landed := Service.mem_of_byIndex took
    exact ⟨s, challenge, landed, rfl, issued_of_found (Service.seen_of_landing landed).1 held, proves⟩

/-- The request verifies a login by this token, and is answered with a session. -/
def sessionFor (token : String)
    (entry : TwoFactorRequest Uuid Json × Option (Except PublicError (TwoFactorAnswer Uuid Json))) :
    Bool :=
  match entry with
  | (.verifyLogin other _ _ _ _, some (.ok (.session _))) => other = token
  | _ => false

/-- The tokens made for challenges, by the requests that came in. -/
def tokensMade (inputs : List (LoginEvent Uuid Json)) : List String :=
  (inputs.filterMap Service.Event.asked).flatMap fun request => request.challengeToken.toList

/-- The recovery codes spent in a run, each with the place of the request it was spent on. -/
def spentCodes (rules : LoginRules Uuid Json Ceremony) (start : TwoFactorTables Uuid Json Ceremony)
    (inputs : List (LoginEvent Uuid Json)) : List (Nat × Uuid) := (recoveryTokens rules).taken start inputs

def storedCodes (rules : LoginRules Uuid Json Ceremony) (start : TwoFactorTables Uuid Json Ceremony)
    (inputs : List (LoginEvent Uuid Json)) : List Uuid := (recoveryTokens rules).openings start inputs

variable (rules start inputs) in
/-- A token admits no more sessions than it was made for challenges, and a recovery code is spent no more often than
it was stored; who logs in by one has spent one. -/
structure SpentOnce : Prop where
  sessions : ∀ token, (((loginService rules).machine start).run inputs).answers.countP (sessionFor token) ≤
    (tokensMade inputs).count token + (start.findChallenge token).isSome.toNat
  codes : ∀ id, ((spentCodes rules start inputs).map (·.2)).count id ≤
    (storedCodes rules start inputs).count id + (start.unusedCode id).toNat
  recovered : ∀ (index : Nat) (token : String) (code : Option String) (response : Option Json)
      (throttled : Option Nat) (claims : Claims Uuid),
    (((loginService rules).machine start).run inputs).answers[index]? =
      some (.verifyLogin token methods.recovery code response throttled, some (.ok (.session claims))) →
        ∃ id, (index, id) ∈ spentCodes rules start inputs

theorem count_openings_le (token : String) :
    ((challengeTokens rules).openings start inputs).count token ≤ (tokensMade inputs).count token := by
  have same : (challengeTokens rules).openings start inputs =
      (((loginService rules).landings start inputs).map (·.2)).filterMap fun entry => entry.2.putToken := by
    rw [Tokens.openings, List.filterMap_map, List.filterMap_eq_flatMap_toList]
    rfl
  rw [same]
  refine (loginService rules).count_landings_le start inputs _ (fun request => request.challengeToken.toList) token ?_
  exact fun index request routine found => (keeps_run found).puts.count_le token

/-- A challenge admits one session at most each time it is made, and so does a recovery code. -/
theorem spent_once (rules : LoginRules Uuid Json Ceremony) (start : TwoFactorTables Uuid Json Ceremony)
    (inputs : List (LoginEvent Uuid Json)) : SpentOnce rules start inputs := by
  refine ⟨fun token => ?_, fun id => ?_, fun index token code response throttled claims answered => ?_⟩
  · have sessions : (((loginService rules).machine start).run inputs).answers.countP (sessionFor token) ≤
        (((challengeTokens rules).taken start inputs).map (·.2)).count token := by
      refine Service.countP_le_of_logged fun index entry found isSession => ?_
      rcases entry with ⟨request, _ | e | a⟩
      · cases request <;> cases isSession
      · cases request <;> cases isSession
      · cases request with
        | verifyLogin other method code response throttled =>
          cases a with
          | session claims =>
            obtain rfl : other = token := of_decide_eq_true isSession
            have admits := admits_of_session found
            cases admits with
            | @secondFactor _ _ _ _ _ challenge row s later took held there stored active proves =>
              refine @Tokens.mem_taken _ _ _ _ _ _ _ (challengeTokens rules) start inputs _ _ _ took ?_
              exact if_pos (by rw [held]; rfl)
          | _ => cases isSession
        | _ => cases isSession
    have taken := Tokens.count_taken_le (challengeTokens rules) start inputs token
    have opened := @count_openings_le _ _ _ _ rules start inputs token
    have open_ : (challengeTokens rules).isOpen start token = (start.findChallenge token).isSome := rfl
    rw [open_] at taken
    omega
  · have spent := Tokens.count_taken_le (recoveryTokens rules) start inputs id
    exact Nat.le_of_add_right_le spent
  · generalize isRecovery : methods.recovery = method at answered
    have admits := admits_of_session answered
    cases admits with
    | secondFactor took held there stored active proves =>
      cases proves with
      | totp there stored own confirmed now fits unused marked granted => exact absurd isRecovery (by decide)
      | webauthn on_ held finished => exact absurd isRecovery (by decide)
      | @recovery _ _ row now s t there stored own fits spent granted =>
        exact ⟨row.id, @Tokens.mem_taken _ _ _ _ _ _ _ (recoveryTokens rules) start inputs _ _ _ spent granted⟩

variable (rules start inputs) in
/-- A request of the key's owner has stored it, at the end of a ceremony that its owner began no longer ago than a
challenge lasts. -/
def RegisteredByOwner (row : UserMfaWebauthn Uuid) : Prop :=
  ∃ index claims token response routine s registration library passkey,
    (((loginService rules).machine start).run inputs).tasks[index]? =
        some (.webauthnRegisterFinish claims token response row.id, routine) ∧
      claims.userId = row.userId ∧ (index, s, .take token) ∈ (loginService rules).landings start inputs ∧
      registration.userId = row.userId ∧ Issued rules start inputs s token (.register registration) ∧
      rules.webauthn = some library ∧
      library.finishPasskeyRegistration response registration.state = .ok (row.credentialId, passkey)

variable (rules start inputs) in
/-- A key that can log a member in was there from the start, or the member has registered it. -/
def KeysOfOwners : Prop :=
  ∀ row ∈ (((loginService rules).machine start).run inputs).state.mfa.webauthn,
    row ∈ start.mfa.webauthn ∨ RegisteredByOwner rules start inputs row

/-- Nobody comes by a key in another's name, whatever goes on at the same time. -/
theorem keys_of_owners (rules : LoginRules Uuid Json Ceremony) (start : TwoFactorTables Uuid Json Ceremony)
    (inputs : List (LoginEvent Uuid Json)) : KeysOfOwners rules start inputs := by
  intro row stored
  by_cases before : row ∈ start.mfa.webauthn
  · exact .inl before
  · obtain ⟨⟨index, t, statement⟩, landed, absent, there⟩ :=
      @Service.exists_landing _ _ _ _ _ (loginService rules) start inputs
        (fun w => row ∈ w.mfa.webauthn) before stored
    obtain ⟨request, routine, found⟩ := (loginService rules).found_of_landing start landed
    have loud := (keeps_run found).loud _ (Service.mem_byIndex landed)
    rcases TwoFactorTables.webauthn_perform (w := t) there with old | ⟨passkey, rfl⟩ | rfl
    · exact absurd old absent
    · rcases loud with ordinary | ⟨_, _, same, -⟩ | ⟨_, _, same, registers⟩
      · cases ordinary
      · cases same
      · obtain ⟨rfl, rfl⟩ := TwoFactorStatement.insertUserWebauthn.inj same
        cases registers with
        | @mk claims token response _ id credentialId library registration s took held own on_ finished =>
          have redeemed := Service.mem_of_byIndex took
          exact .inr ⟨index, claims, token, response, routine, s, registration, library, passkey, found, rfl,
            redeemed, own, issued_of_found (Service.seen_of_landing redeemed).1 held, on_, finished⟩
    · rcases loud with ordinary | ⟨_, _, same, -⟩ | ⟨_, _, same, -⟩
      · cases ordinary with
        | mfa other => exact absurd rfl (other row)
      · cases same
      · cases same

end Runs

end CoopSpaces

import CoopSpaces.Lib.Races
import CoopSpaces.Server.MfaFactors

namespace CoopSpaces

inductive MfaAnswer
  | done
  | challenge
  | token
  deriving DecidableEq

/-- What comes in about second factors. A registered key is one whose ceremony has gone through, and a login one
whose password was right. -/
inductive MfaRequest (Uuid : Type)
  | totpSetup (userId id : Uuid) (secret : String) (label : Option String)
  | totpConfirm (userId : Uuid) (email : String) (id : Option Uuid) (code : String)
  | totpDisable (userId id : Uuid)
  | webauthnRegisterFinish (row : UserMfaWebauthn Uuid)
  | webauthnRemove (userId id : Uuid)
  | resetUserMfa (userId : Uuid)
  | removeUserTotp (userId id : Uuid)
  | removeUserWebauthn (userId id : Uuid)
  | verifyLogin (userId : Uuid) (email : String) (code : Option String)
  | login (userId : Uuid)
  | tick (micros : Nat)

namespace MfaRoutine
variable {Uuid : Type} [DecidableEq Uuid] (rules : MfaRules)

def refuse (error : ApiError) : MfaRoutine Uuid (Except ApiError MfaAnswer) := .done (.error error)

def requireEnabled (next : MfaRoutine Uuid (Except ApiError MfaAnswer)) :
    MfaRoutine Uuid (Except ApiError MfaAnswer) :=
  if rules.enabled then next else refuse (.forbidden "MFA is disabled in server configuration")

/-- The two tables are read one after the other, and the flag is written from what was read. -/
def recomputeUserMfaEnrolled (userId : Uuid) : MfaRoutine Uuid (Except ApiError MfaAnswer) :=
  .read fun w =>
    let hasTotp := (w.listUserTotp userId).any fun row => row.confirmedAt.isSome
    .read fun w =>
      let hasWebauthn := !(w.listUserWebauthn userId).isEmpty
      .read fun w =>
        sendMfa (.setUserMfaEnrolled userId (if hasTotp || hasWebauthn then some w.clock else none)) fun _ =>
          .done (.ok .done)

def totpSetup (userId id : Uuid) (secret : String) (label : Option String) :
    MfaRoutine Uuid (Except ApiError MfaAnswer) :=
  requireEnabled rules <|
    if !rules.allowTotp then refuse (.forbidden "TOTP disabled")
    else if 120 < (((label.map trim).filter fun l => l ≠ "").getD "Authenticator app").length then
      refuse (.badRequest "label must be 120 characters or fewer")
    else sendMfa (.beginTotpSetup userId id secret) fun _ => .done (.ok .done)

def totpConfirm (userId : Uuid) (email : String) (id : Option Uuid) (code : String) :
    MfaRoutine Uuid (Except ApiError MfaAnswer) :=
  requireEnabled rules <| .read fun w =>
    let stored := ((w.listUserTotp userId).filter fun row => !row.confirmedAt.isSome).find? fun row =>
      id.all fun wanted => wanted = row.id
    match stored with
    | none => refuse (.badRequest "No TOTP setup in progress")
    | some stored => .read fun w =>
      if !rules.verifyTotp stored.secret email (trim code) w.clock then refuse (.badRequest "Invalid code")
      else .read fun w =>
        sendMfa (.finalizeTotpConfirmation userId stored.id w.clock) fun _ => recomputeUserMfaEnrolled userId

/-- The member's own removal of an authenticator, and staff's. -/
def totpDisable (userId id : Uuid) : MfaRoutine Uuid (Except ApiError MfaAnswer) :=
  .read fun w =>
    if (w.listUserTotp userId).any fun row => row.id = id then
      sendMfa (.deleteUserTotp userId id) fun _ => recomputeUserMfaEnrolled userId
    else refuse (.notFound "No such authenticator")

def webauthnRegisterFinish (row : UserMfaWebauthn Uuid) : MfaRoutine Uuid (Except ApiError MfaAnswer) :=
  requireEnabled rules <|
    if !rules.allowWebauthn then refuse (.forbidden "WebAuthn disabled")
    else sendMfa (.insertUserWebauthn row) fun _ => recomputeUserMfaEnrolled row.userId

def webauthnRemove (userId id : Uuid) : MfaRoutine Uuid (Except ApiError MfaAnswer) :=
  sendMfa (.deleteUserWebauthn userId id) fun deleted =>
    if deleted = 0 then refuse (.notFound "Credential not found") else recomputeUserMfaEnrolled userId

/-- What staff does to an account, which has to be there. -/
def ofUser (userId : Uuid) (next : MfaRoutine Uuid (Except ApiError MfaAnswer)) :
    MfaRoutine Uuid (Except ApiError MfaAnswer) :=
  .read fun w => if (w.enrolledAt userId).isSome then next else refuse (.notFound "User not found")

def resetUserMfa (userId : Uuid) : MfaRoutine Uuid (Except ApiError MfaAnswer) :=
  ofUser userId (sendMfa (.resetUserMfa userId) fun _ => .done (.ok .done))

def removeUserWebauthn (userId id : Uuid) : MfaRoutine Uuid (Except ApiError MfaAnswer) :=
  ofUser userId <| .read fun w =>
    if (w.listUserWebauthn userId).any fun row => row.id = id then
      sendMfa (.deleteUserWebauthn userId id) fun _ => recomputeUserMfaEnrolled userId
    else refuse (.notFound "No such security key")

/-- The password was right; a member that is flagged as having a second factor is asked for it. -/
def login (userId : Uuid) : MfaRoutine Uuid (Except ApiError MfaAnswer) :=
  .read fun w =>
    match w.enrolledAt userId with
    | none => refuse (.unauthorized "Wrong credentials")
    | some enrolled => .done (.ok (if enrolled.isSome && rules.enabled then .challenge else .token))

def serve : MfaRequest Uuid → MfaRoutine Uuid (Except ApiError MfaAnswer)
  | .totpSetup userId id secret label => totpSetup rules userId id secret label
  | .totpConfirm userId email id code => totpConfirm rules userId email id code
  | .totpDisable userId id => totpDisable userId id
  | .webauthnRegisterFinish row => webauthnRegisterFinish rules row
  | .webauthnRemove userId id => webauthnRemove userId id
  | .resetUserMfa userId => resetUserMfa userId
  | .removeUserTotp userId id => ofUser userId (totpDisable userId id)
  | .removeUserWebauthn userId id => removeUserWebauthn userId id
  | .verifyLogin userId email code =>
    requireEnabled rules ((verifyTotpPath rules userId email code).bind fun verified =>
      .done (verified.map fun _ => .token))
  | .login userId => login rules userId
  | .tick micros => .write (.tick micros) fun _ => .done (.ok .done)

end MfaRoutine

def mfaService {Uuid : Type} [DecidableEq Uuid] (rules : MfaRules) :
    Service (MfaTables Uuid) (MfaStatement Uuid) (Except DbError Nat) (Except ApiError MfaAnswer)
      (MfaRequest Uuid) where
  perform := MfaTables.perform
  serve := MfaRoutine.serve rules

/-- Whose factors a statement may add to or take from, other than by wiping them with the flag. -/
def MfaStatement.touches {Uuid : Type} : MfaStatement Uuid → Option Uuid
  | .finalizeTotpConfirmation userId _ _ => some userId
  | .deleteUserTotp userId _ => some userId
  | .insertUserWebauthn row => some row.userId
  | .deleteUserWebauthn userId _ => some userId
  | _ => none

/-- The member has a confirmed factor. -/
def MfaTables.hasFactor {Uuid : Type} [DecidableEq Uuid] (w : MfaTables Uuid) (userId : Uuid) : Bool :=
  (w.totp.any fun row => row.userId = userId && row.confirmedAt.isSome) || w.webauthn.any fun row =>
    row.userId = userId

def MfaTables.hasApp {Uuid : Type} [DecidableEq Uuid] (w : MfaTables Uuid) (userId : Uuid) : Bool :=
  w.totp.any fun row => row.userId = userId && row.confirmedAt.isSome

def MfaTables.hasKey {Uuid : Type} [DecidableEq Uuid] (w : MfaTables Uuid) (userId : Uuid) : Bool :=
  w.webauthn.any fun row => row.userId = userId

/-- Whoever's flag the statement writes has a factor of each kind in both states, or in neither. -/
def MfaStatement.SameFactors {Uuid : Type} [DecidableEq Uuid] (change : MfaStatement Uuid)
    (t s : MfaTables Uuid) : Prop :=
  match change with
  | .setUserMfaEnrolled userId _ => t.hasApp userId = s.hasApp userId ∧ t.hasKey userId = s.hasKey userId
  | _ => True

instance {Uuid : Type} [DecidableEq Uuid] (change : MfaStatement Uuid) (t s : MfaTables Uuid) :
    Decidable (change.SameFactors t s) := by
  cases change <;> first | exact inferInstanceAs (Decidable (_ ∧ _)) | exact .isTrue trivial

/-- The flag of a member, if it is one, says whether it has a factor. -/
def MfaTables.FlagRight {Uuid : Type} [DecidableEq Uuid] (w : MfaTables Uuid) (userId : Uuid) : Prop :=
  ∀ enrolled, w.enrolledAt userId = some enrolled → enrolled.isSome = w.hasFactor userId

namespace MfaTables
variable {Uuid : Type} [DecidableEq Uuid] {w : MfaTables Uuid}

theorem exists_filter_iff {Row : Type} {rows : List Row} {keep : Row → Bool} {ofKind : Row → Prop}
    (kept : ∀ row ∈ rows, ofKind row → keep row = true) : (∃ row ∈ rows.filter keep, ofKind row) ↔
      ∃ row ∈ rows, ofKind row := by
  constructor
  · rintro ⟨row, member, holds⟩
    exact ⟨row, (List.mem_filter.mp member).1, holds⟩
  · rintro ⟨row, member, holds⟩
    exact ⟨row, List.mem_filter.mpr ⟨member, kept row member holds⟩, holds⟩

theorem exists_append_iff {Row : Type} {rows : List Row} {new : Row} {ofKind : Row → Prop} (other : ¬ ofKind new) :
    (∃ row ∈ rows ++ [new], ofKind row) ↔ ∃ row ∈ rows, ofKind row := by
  constructor
  · rintro ⟨row, member, holds⟩
    rcases List.mem_append.mp member with old | isNew
    · exact ⟨row, old, holds⟩
    · exact absurd (List.mem_singleton.mp isNew ▸ holds) other
  · rintro ⟨row, member, holds⟩
    exact ⟨row, List.mem_append_left _ member, holds⟩

theorem hasFactor_congr {after : MfaTables Uuid} {userId : Uuid}
    (totp : (∃ row ∈ after.totp, row.userId = userId ∧ row.confirmedAt.isSome = true) ↔
      ∃ row ∈ w.totp, row.userId = userId ∧ row.confirmedAt.isSome = true)
    (webauthn : (∃ row ∈ after.webauthn, row.userId = userId) ↔ ∃ row ∈ w.webauthn, row.userId = userId) :
    after.hasFactor userId = w.hasFactor userId := by
  rw [Bool.eq_iff_iff]
  simp only [hasFactor, Bool.or_eq_true, List.any_eq_true, Bool.and_eq_true, decide_eq_true_eq]
  rw [totp, webauthn]

theorem hasFactor_updateTotp {matched : UserMfaTotp Uuid → Bool}
    {change : UserMfaTotp Uuid → UserMfaTotp Uuid} {userId : Uuid}
    (same : ∀ row, matched row = true → ((change row).userId = userId ∧ (change row).confirmedAt.isSome = true ↔
      row.userId = userId ∧ row.confirmedAt.isSome = true)) :
    (w.updateTotp matched change).1.hasFactor userId = w.hasFactor userId := by
  unfold updateTotp
  split
  · refine hasFactor_congr ?_ Iff.rfl
    simp only [List.mem_map, exists_exists_and_eq_and]
    refine exists_congr fun row => and_congr_right fun _ => ?_
    split
    next is => exact same row is
    next => exact Iff.rfl
  · rfl

/-- A statement that fails, or removes nothing, leaves the tables as they were; another changes the factors
of whom it touches only. -/
theorem hasFactor_perform {change : MfaStatement Uuid} {userId : Uuid} (wipes : change ≠ .resetUserMfa userId)
    (still : change.touches ≠ some userId ∨ ∀ n, (w.perform change).2 = .ok n → n = 0) :
    (w.perform change).1.hasFactor userId = w.hasFactor userId := by
  have other : ∀ named, change.touches = some named → (∀ n, (w.perform change).2 = .ok n → n ≠ 0) →
      (w.perform change).2.isOk = true → named ≠ userId := by
    rintro named touches some_ ok rfl
    rcases still with untouched | none_
    · exact untouched touches
    · rcases reply : (w.perform change).2 with e | n
      · rw [reply] at ok
        cases ok
      · exact some_ n reply (none_ n reply)
  cases change with
  | beginTotpSetup named id secret =>
    simp only [perform]
    split
    · rfl
    · split
      · rfl
      · refine hasFactor_congr ((exists_append_iff ?_).trans (exists_filter_iff fun row _ holds => ?_)) Iff.rfl
        · rintro ⟨-, confirmed⟩
          cases confirmed
        · simp [holds.2]
  | finalizeTotpConfirmation named id now =>
    simp only [perform] at other ⊢
    by_cases found : (w.totp.any fun row => row.userId = named && row.id = id) = true
    · have different : named ≠ userId := by
        refine other named rfl ?_ ?_
        · simp [updateTotp, found]
        · simp [updateTotp, found, Except.isOk, Except.toBool]
      refine hasFactor_updateTotp fun row is => ?_
      have ofNamed : row.userId = named := by simp_all
      simp [ofNamed, different]
    · simp [updateTotp, found]
  | updateTotpLastUsedStep id step => exact hasFactor_updateTotp fun row _ => Iff.rfl
  | deleteUserTotp named id =>
    simp only [perform] at other ⊢
    split
    next found =>
      have different : named ≠ userId :=
        other named rfl (by simp [found]) (by simp [found, Except.isOk, Except.toBool])
      refine hasFactor_congr (exists_filter_iff fun row _ holds => ?_) Iff.rfl
      simp [holds.1, different.symm]
    next => rfl
  | insertUserWebauthn row =>
    simp only [perform] at other ⊢
    split
    · rfl
    next known =>
      split
      · rfl
      next new =>
        have different : row.userId ≠ userId := by
          rw [if_neg known, if_neg new] at other
          refine other row.userId rfl (fun n one => ?_) rfl
          have isOne : 1 = n := Except.ok.inj one
          omega
        exact hasFactor_congr Iff.rfl (exists_append_iff different)
  | deleteUserWebauthn named id =>
    simp only [perform] at other ⊢
    refine hasFactor_congr Iff.rfl (exists_filter_iff fun row member mine => ?_)
    by_cases is : row.userId = named ∧ row.id = id
    · have counted : (w.webauthn.countP fun row => row.userId = named && row.id = id) ≠ 0 := by
        have positive : 0 < w.webauthn.countP fun row => row.userId = named && row.id = id :=
          List.countP_pos_iff.mpr ⟨row, member, by simp [is]⟩
        omega
      have different := other named rfl (fun n same => Except.ok.inj same ▸ counted) rfl
      exact absurd (is.1.symm.trans mine) different
    · simp only [Bool.not_eq_true', Bool.and_eq_false_iff, decide_eq_false_iff_not]
      exact not_and_or.mp is
  | setUserMfaEnrolled named when_ =>
    simp only [perform]
    split
    · rfl
    · rfl
  | resetUserMfa named =>
    have different : userId ≠ named := fun same => wipes (same ▸ rfl)
    refine hasFactor_congr (exists_filter_iff fun row _ holds => ?_) (exists_filter_iff fun row _ mine => ?_)
    · simp [holds.1, different]
    · simp [mine, different]
  | tick micros => rfl

theorem enrolledAt_perform {change : MfaStatement Uuid} {userId : Uuid}
    (other : ∀ when_, change ≠ .setUserMfaEnrolled userId when_)
    (wipes : change ≠ .resetUserMfa userId) : (w.perform change).1.enrolledAt userId = w.enrolledAt userId := by
  cases change with
  | setUserMfaEnrolled named when_ =>
    have different : userId ≠ named := fun same => other when_ (same ▸ rfl)
    simp only [perform]
    split
    · exact Table.insert_of_ne _ _ different
    · rfl
  | resetUserMfa named =>
    have different : userId ≠ named := fun same => wipes (same ▸ rfl)
    simp only [perform]
    split
    · exact Table.insert_of_ne _ _ different
    · rfl
  | beginTotpSetup named id secret =>
    simp only [perform]
    split
    · rfl
    · split
      · rfl
      · rfl
  | finalizeTotpConfirmation named id now =>
    simp only [perform, updateTotp]
    split
    · rfl
    · rfl
  | updateTotpLastUsedStep id step =>
    simp only [perform, updateTotp]
    split
    · rfl
    · rfl
  | deleteUserTotp named id =>
    simp only [perform]
    split
    · rfl
    · rfl
  | insertUserWebauthn row =>
    simp only [perform]
    split
    · rfl
    · split
      · rfl
      · rfl
  | deleteUserWebauthn named id => rfl
  | tick micros => rfl

end MfaTables

/-- Whose flag is not what it was once a statement has gone through. -/
def MfaStatement.Unsettles {Uuid : Type} (change : MfaStatement Uuid) (reply : Except DbError Nat)
    (userId : Uuid) : Prop :=
  change.touches = some userId ∧ ∃ n, reply = .ok n ∧ n ≠ 0

def MfaStatement.Flags {Uuid : Type} (userId : Uuid) (change : MfaStatement Uuid) : Prop :=
  ∃ when_, change = .setUserMfaEnrolled userId when_

namespace MfaTables
variable {Uuid : Type} [DecidableEq Uuid] {w : MfaTables Uuid}

/-- The flag that is written, if one is, says whether the member has a factor. -/
def bearsOut (w : MfaTables Uuid) : MfaStatement Uuid → Bool
  | .setUserMfaEnrolled userId when_ => when_.isSome == w.hasFactor userId
  | _ => true

theorem flagRight_reset (userId : Uuid) : (w.perform (.resetUserMfa userId)).1.FlagRight userId := by
  intro enrolled flag
  have noFactor : (w.perform (.resetUserMfa userId)).1.hasFactor userId = false := by
    simp +contextual [hasFactor, perform]
  simp only [perform] at flag
  rw [noFactor]
  split at flag
  · rw [Table.insert_self] at flag
    rw [← Option.some.inj flag]
    rfl
  next absent =>
    rw [flag] at absent
    exact absurd rfl absent

/-- A flag stays right under whatever neither writes it nor unsettles it. -/
theorem flagRight_perform {change : MfaStatement Uuid} {userId : Uuid} (other : ¬ change.Flags userId)
    (settled : ¬ change.Unsettles (w.perform change).2 userId) (right : w.FlagRight userId) :
    (w.perform change).1.FlagRight userId := by
  by_cases wipes : change = .resetUserMfa userId
  · subst wipes
    exact flagRight_reset userId
  · have sameFactor : (w.perform change).1.hasFactor userId = w.hasFactor userId := by
      refine hasFactor_perform wipes ?_
      by_cases touches : change.touches = some userId
      · refine .inr fun n made => ?_
        by_contra some_
        exact settled ⟨touches, n, made, some_⟩
      · exact .inl touches
    have sameFlag := @enrolledAt_perform _ _ w change userId (fun when_ same => other ⟨when_, same⟩) wipes
    intro enrolled flag
    rw [sameFlag] at flag
    rw [sameFactor]
    exact right enrolled flag

theorem flagRight_set {userId : Uuid} {when_ : Option Int} (fresh : when_.isSome = w.hasFactor userId) :
    (w.perform (.setUserMfaEnrolled userId when_)).1.FlagRight userId := by
  have sameFactor : (w.perform (.setUserMfaEnrolled userId when_)).1.hasFactor userId = w.hasFactor userId := by
    refine hasFactor_perform (fun same => by cases same) (.inl fun same => by cases same)
  intro enrolled flag
  rw [sameFactor]
  simp only [perform] at flag
  split at flag
  · have here : w.enrolledAt.insert userId when_ userId = some enrolled := flag
    rw [Table.insert_self] at here
    rw [← Option.some.inj here]
    exact fresh
  next absent =>
    rw [flag] at absent
    exact absurd rfl absent

end MfaTables

namespace MfaRoutine
variable {Uuid Answer : Type} [DecidableEq Uuid] {rules : MfaRules}

/-- Whoever's factors it changes, the routine writes a flag next. -/
abbrev Recomputes (routine : MfaRoutine Uuid Answer) : Prop :=
  Routine.Repays MfaStatement.Unsettles MfaStatement.Flags routine

omit [DecidableEq Uuid] in
theorem recomputes_requireEnabled {next : MfaRoutine Uuid (Except ApiError MfaAnswer)}
    (recomputes : Recomputes next) :
    Recomputes (requireEnabled rules next) := by
  unfold requireEnabled
  split
  · exact recomputes
  · trivial

omit [DecidableEq Uuid] in
theorem recomputes_ofUser {userId : Uuid} {next : MfaRoutine Uuid (Except ApiError MfaAnswer)}
    (recomputes : Recomputes next) :
    Recomputes (ofUser userId next) := by
  intro w
  beta_reduce
  split
  · exact recomputes
  · trivial

omit [DecidableEq Uuid] in
theorem recomputes_sendMfa {change : MfaStatement Uuid} {next : Nat → MfaRoutine Uuid (Except ApiError Answer)}
    (none_ : change.touches = none) (recomputes : ∀ n, Recomputes (next n)) : Recomputes (sendMfa change next) := by
  intro reply
  refine ⟨?_, fun userId unsettles => ?_⟩
  · cases reply with
    | error e => trivial
    | ok n => exact recomputes n
  · have touches := none_.symm.trans unsettles.1
    cases touches

theorem recomputes_recompute (userId : Uuid) : Recomputes (recomputeUserMfaEnrolled userId) :=
  fun _ _ _ => recomputes_sendMfa rfl fun _ => trivial

theorem owes_recompute (userId : Uuid) : (recomputeUserMfaEnrolled userId).Owes (MfaStatement.Flags userId) :=
  fun _ _ _ => ⟨_, rfl⟩

/-- A statement that does not, and the recomputation after it. -/
theorem recomputes_touch {change : MfaStatement Uuid} {userId : Uuid}
    {next : Nat → MfaRoutine Uuid (Except ApiError MfaAnswer)}
    (touches : change.touches = some userId)
    (follows : ∀ n, next n = recomputeUserMfaEnrolled userId ∨ n = 0 ∧ Recomputes (next n)) :
    Recomputes (sendMfa change next) := by
  intro reply
  cases reply with
  | error e => exact ⟨trivial, fun _ ⟨_, _, made, _⟩ => by cases made⟩
  | ok n =>
    refine ⟨?_, ?_⟩
    · show Recomputes (next n)
      rcases follows n with same | ⟨-, recomputes⟩
      · rw [same]
        exact recomputes_recompute userId
      · exact recomputes
    · rintro other ⟨touched, _, made, some_⟩
      obtain rfl := Option.some.inj (touches.symm.trans touched)
      obtain rfl := Except.ok.inj made
      show (next n).Owes (MfaStatement.Flags userId)
      rcases follows n with same | ⟨none_, -⟩
      · rw [same]
        exact owes_recompute userId
      · exact absurd none_ some_

theorem recomputes_totpDisable (userId id : Uuid) : Recomputes (totpDisable userId id) := by
  intro w
  beta_reduce
  split
  · exact recomputes_touch rfl fun _ => .inl rfl
  · trivial

omit [DecidableEq Uuid] in
theorem recomputes_verifyTotpRows (email code : String) (replayed : Bool) (rows : List (UserMfaTotp Uuid)) :
    Recomputes (verifyTotpRows rules email code replayed rows) := by
  induction rows generalizing replayed with
  | nil => trivial
  | cons row rest ih =>
    intro w
    beta_reduce
    split
    · exact ih replayed
    · split
      · exact ih true
      · exact recomputes_sendMfa rfl fun _ => trivial

theorem recomputes_verifyTotpPath (userId : Uuid) (email : String) (code : Option String) :
    Recomputes (verifyTotpPath rules userId email code) := by
  unfold verifyTotpPath
  split
  · trivial
  · intro w
    dsimp only
    split
    · trivial
    · exact recomputes_verifyTotpRows email _ false _

theorem recomputes_serve (request : MfaRequest Uuid) : Recomputes (serve rules request) := by
  cases request with
  | totpSetup userId id secret label =>
    refine recomputes_requireEnabled ?_
    split
    · trivial
    · split
      · trivial
      · exact recomputes_sendMfa rfl fun _ => trivial
  | totpConfirm userId email id code =>
    refine recomputes_requireEnabled fun w => ?_
    dsimp only
    split
    · trivial
    · intro w
      beta_reduce
      split
      · trivial
      · exact fun w => recomputes_touch rfl fun _ => .inl rfl
  | totpDisable userId id => exact recomputes_totpDisable userId id
  | webauthnRegisterFinish row =>
    refine recomputes_requireEnabled ?_
    split
    · trivial
    · exact recomputes_touch rfl fun _ => .inl rfl
  | webauthnRemove userId id =>
    refine recomputes_touch rfl fun n => ?_
    split
    next none_ => exact .inr ⟨none_, trivial⟩
    next => exact .inl rfl
  | resetUserMfa userId => exact recomputes_ofUser (recomputes_sendMfa rfl fun _ => trivial)
  | removeUserTotp userId id => exact recomputes_ofUser (recomputes_totpDisable userId id)
  | removeUserWebauthn userId id =>
    refine recomputes_ofUser fun w => ?_
    beta_reduce
    split
    · exact recomputes_touch rfl fun _ => .inl rfl
    · trivial
  | verifyLogin userId email code =>
    exact recomputes_requireEnabled ((recomputes_verifyTotpPath userId email code).bind fun _ => trivial)
  | login userId =>
    intro w
    beta_reduce
    split
    · trivial
    · trivial
  | tick micros =>
    refine fun reply => ⟨trivial, fun userId unsettles => ?_⟩
    have touches := unsettles.1
    cases touches

/-- Each flag the routine writes is one that the tables bear out, if the member's factors have not turned since it
last made a change. -/
abbrev WritesFresh (trail : Routine.Trail (MfaTables Uuid) (MfaStatement Uuid))
    (routine : MfaRoutine Uuid Answer) : Prop :=
  routine.Minds MfaTables.perform (fun _ => True) (fun trail s change =>
    (∀ t ∈ Routine.Trail.foundSince trail, change.SameFactors t s) → s.bearsOut change = true) trail

section WritesFresh
variable {trail : Routine.Trail (MfaTables Uuid) (MfaStatement Uuid)}

theorem fresh_requireEnabled {next : MfaRoutine Uuid (Except ApiError MfaAnswer)} (fresh : WritesFresh trail next) :
    WritesFresh trail (requireEnabled rules next) := by
  unfold requireEnabled
  split
  · exact fresh
  · trivial

theorem fresh_ofUser {userId : Uuid} {next : MfaRoutine Uuid (Except ApiError MfaAnswer)}
    (fresh : ∀ trail, WritesFresh trail next) : WritesFresh trail (ofUser userId next) := by
  intro w _
  beta_reduce
  split
  · exact fresh _
  · trivial

theorem fresh_sendMfa {change : MfaStatement Uuid} {next : Nat → MfaRoutine Uuid (Except ApiError Answer)}
    (flagless : ∀ s : MfaTables Uuid, s.bearsOut change = true) (fresh : ∀ trail n, WritesFresh trail (next n)) :
    WritesFresh trail (sendMfa change next) := by
  refine fun s _ => ⟨fun _ => flagless s, ?_⟩
  rcases (s.perform change).2 with e | n
  · trivial
  · exact fresh _ n

/-- The recomputation writes what it has read. -/
theorem fresh_recompute (userId : Uuid) : WritesFresh trail (recomputeUserMfaEnrolled userId) := by
  intro first _ second _ clock _ s _
  refine ⟨fun same => ?_, ?_⟩
  · simp only [Routine.Trail.foundSince_read] at same
    have apps : first.hasApp userId = s.hasApp userId := (same first (by simp)).1
    have keys : second.hasKey userId = s.hasKey userId := (same second (by simp)).2
    have listedApps : ((first.listUserTotp userId).any fun row => row.confirmedAt.isSome) = first.hasApp userId := by
      rw [Bool.eq_iff_iff]
      simp only [MfaTables.listUserTotp, MfaTables.hasApp, List.any_eq_true, List.mem_append, List.mem_filter,
        Bool.and_eq_true, decide_eq_true_eq, Bool.not_eq_true']
      grind
    have listedKeys : (!(second.listUserWebauthn userId).isEmpty) = second.hasKey userId := by
      rw [Bool.eq_iff_iff]
      simp [MfaTables.listUserWebauthn, MfaTables.hasKey]
    have factor : s.hasFactor userId = (s.hasApp userId || s.hasKey userId) := rfl
    simp only [MfaTables.bearsOut, listedApps, listedKeys, apps, keys, factor, beq_iff_eq]
    rcases s.hasApp userId || s.hasKey userId with _ | _ <;> rfl
  · rcases (s.perform (.setUserMfaEnrolled userId _)).2 with e | n <;> trivial

theorem fresh_totpDisable (userId id : Uuid) : WritesFresh trail (totpDisable userId id) := by
  intro w _
  beta_reduce
  split
  · exact fresh_sendMfa (fun _ => rfl) fun _ _ => fresh_recompute userId
  · trivial

theorem fresh_verifyTotpRows (email code : String) (replayed : Bool) (rows : List (UserMfaTotp Uuid)) :
    WritesFresh trail (verifyTotpRows rules email code replayed rows) := by
  induction rows generalizing replayed trail with
  | nil => trivial
  | cons row rest ih =>
    intro w _
    beta_reduce
    split
    · exact ih replayed
    · split
      · exact ih true
      · exact fresh_sendMfa (fun _ => rfl) fun _ _ => trivial

theorem fresh_verifyTotpPath (userId : Uuid) (email : String) (code : Option String) :
    WritesFresh trail (verifyTotpPath rules userId email code) := by
  unfold verifyTotpPath
  split
  · trivial
  · intro w _
    dsimp only
    split
    · trivial
    · exact fresh_verifyTotpRows email _ false _

theorem fresh_serve (request : MfaRequest Uuid) : WritesFresh [] (serve rules request) := by
  cases request with
  | totpSetup userId id secret label =>
    refine fresh_requireEnabled ?_
    split
    · trivial
    · split
      · trivial
      · exact fresh_sendMfa (fun _ => rfl) fun _ _ => trivial
  | totpConfirm userId email id code =>
    refine fresh_requireEnabled fun w _ => ?_
    dsimp only
    split
    · trivial
    · intro w _
      beta_reduce
      split
      · trivial
      · exact fun w _ => fresh_sendMfa (fun _ => rfl) fun _ _ => fresh_recompute userId
  | totpDisable userId id => exact fresh_totpDisable userId id
  | webauthnRegisterFinish row =>
    refine fresh_requireEnabled ?_
    split
    · trivial
    · exact fresh_sendMfa (fun _ => rfl) fun _ _ => fresh_recompute row.userId
  | webauthnRemove userId id =>
    refine fresh_sendMfa (fun _ => rfl) fun _ n => ?_
    split
    · trivial
    · exact fresh_recompute userId
  | resetUserMfa userId => exact fresh_ofUser fun _ => fresh_sendMfa (fun _ => rfl) fun _ _ => trivial
  | removeUserTotp userId id => exact fresh_ofUser fun _ => fresh_totpDisable userId id
  | removeUserWebauthn userId id =>
    refine fresh_ofUser fun _ w _ => ?_
    beta_reduce
    split
    · exact fresh_sendMfa (fun _ => rfl) fun _ _ => fresh_recompute userId
    · trivial
  | verifyLogin userId email code =>
    exact fresh_requireEnabled ((fresh_verifyTotpPath userId email code).bind fun _ _ => trivial)
  | login userId =>
    intro w _
    beta_reduce
    split
    · trivial
    · trivial
  | tick micros => exact fun s _ => ⟨fun _ => rfl, trivial⟩

end WritesFresh

theorem login_of_flagRight {w : MfaTables Uuid} {userId : Uuid} (enabled : rules.enabled = true)
    (right : w.FlagRight userId)
    (factor : w.hasFactor userId = true) : (login rules userId).act w ≠ .inl (.ok .token) := by
  simp only [login, Routine.act]
  cases flag : w.enrolledAt userId with
  | none => exact fun same => by cases same
  | some enrolled =>
    have set : enrolled.isSome = true := (right enrolled flag).trans factor
    simp only [Routine.act, set, enabled, Bool.and_self, if_true]
    exact fun same => by cases same

end MfaRoutine

section Runs
variable {Uuid : Type} [DecidableEq Uuid] (rules : MfaRules) (start : MfaTables Uuid)

abbrev MfaEvent (Uuid : Type) := Service.Event (MfaRequest Uuid)

abbrev MfaPool (Uuid : Type) :=
  Service.Pool (MfaTables Uuid) (MfaStatement Uuid) (Except DbError Nat) (Except ApiError MfaAnswer) (MfaRequest Uuid)

def mfaPool (past : List (MfaEvent Uuid)) : MfaPool Uuid := ((mfaService rules).machine start).run past

/-- No operation is in flight. -/
def Quiet (pool : MfaPool Uuid) : Prop := ∀ task ∈ pool.tasks, task.2.answered.isSome = true

/-- Between what a recomputation reads and the flag it writes, the member does not come by its first factor of a kind,
nor lose its last one. -/
abbrev FlagInTurn (past : List (MfaEvent Uuid)) (event : MfaEvent Uuid) : Prop :=
  (mfaService rules).InTurn (fun _ trail s change => ∀ t ∈ Routine.Trail.foundSince trail, change.SameFactors t s)
    start
    past event

/-- Where no member's factors turn between a recomputation's reads and the flag it writes, the flags are right
whenever no operation is in flight, and with MFA on no password alone lets in a member that has a factor. -/
theorem mfa_gate_follows (rules : MfaRules) (start : MfaTables Uuid) (right : ∀ userId, start.FlagRight userId)
    (events : List (MfaEvent Uuid)) (inTurn : EveryStep (FlagInTurn rules start) events)
    (past : List (MfaEvent Uuid)) (front : past <+: events) (quiet : Quiet (mfaPool rules start past))
    (userId : Uuid) :
    (mfaPool rules start past).state.FlagRight userId ∧
      (rules.enabled = true → (mfaPool rules start past).state.hasFactor userId = true →
        (MfaRoutine.login rules userId).act (mfaPool rules start past).state ≠ .inl (.ok .token)) := by
  have fresh := Service.good_of_inTurn (fun _ s change => s.bearsOut change = true) (fun _ _ => trivial)
    MfaRoutine.fresh_serve inTurn
  have repaid : Service.Repaid MfaStatement.Unsettles MfaStatement.Flags (fun userId w => w.FlagRight userId)
      (mfaPool rules start past) := by
    refine Machine.run_keeps_past ((mfaService rules).machine start)
      (fun _ pool => Service.Repaid MfaStatement.Unsettles MfaStatement.Flags
        (fun userId w => w.FlagRight userId) pool) ?_ ?_ fresh front
    · refine ⟨fun task member => ?_, fun userId => .inl (right userId)⟩
      cases member
    · intro past event before law
      refine before.step MfaRoutine.recomputes_serve ?_ event ?_
      · exact fun s change userId other settled right => MfaTables.flagRight_perform other settled right
      · rintro entry landed userId ⟨when_, flags⟩
        obtain ⟨performed, made, asked⟩ := Service.performed_of_landing landed
        have current : entry.2.1.bearsOut entry.2.2 = true := asked.1 ▸ asked.2 ▸ law performed made
        show (entry.2.1.perform entry.2.2).1.FlagRight userId
        rw [flags] at current ⊢
        exact MfaTables.flagRight_set (eq_of_beq current)
  have flag := repaid.at_rest quiet userId
  exact ⟨flag, fun enabled factor => MfaRoutine.login_of_flagRight enabled flag factor⟩

def mfaOn : MfaRules := ⟨true, true, true, fun _ _ => none⟩

/-- A member with one authenticator app. -/
def enrolledMember : MfaTables Nat := ⟨[⟨1, 2, "secret", some 0, none⟩], [], Table.empty.insert 2 (some 0), 0⟩

theorem flagRight_enrolledMember (userId : Nat) : enrolledMember.FlagRight userId := by
  intro enrolled flag
  by_cases same : userId = 2
  · subst same
    have isSet : enrolled = some 0 := (Option.some.inj flag).symm
    rw [isSet]
    decide
  · have absent : enrolledMember.enrolledAt userId = none := Table.insert_of_ne _ _ same
    rw [absent] at flag
    cases flag

/-- The app is removed while a key is registered: one after the other, and with the registration in between what the
removal reads of the tables and the flag it writes. -/
def removedThenRegistered : List (MfaEvent Nat) :=
  [.arrive (.totpDisable 2 1), .step 0, .step 0, .step 0, .step 0, .step 0, .step 0,
    .arrive (.webauthnRegisterFinish ⟨3, 2, [7]⟩), .step 1, .step 1, .step 1, .step 1, .step 1]

def removedWhileRegistered : List (MfaEvent Nat) :=
  [.arrive (.totpDisable 2 1), .step 0, .step 0, .step 0, .step 0, .step 0,
    .arrive (.webauthnRegisterFinish ⟨3, 2, [7]⟩), .step 1, .step 1, .step 1, .step 1, .step 1, .step 0]

theorem mfa_gate_follows_removal :
    (mfaPool mfaOn enrolledMember removedThenRegistered).state.hasFactor 2 = true ∧
      (MfaRoutine.login mfaOn 2).act (mfaPool mfaOn enrolledMember removedThenRegistered).state ≠
        .inl (.ok .token) := by
  have inTurn : ∀ n (bound : n < removedThenRegistered.length),
    FlagInTurn mfaOn enrolledMember (removedThenRegistered.take n)
      removedThenRegistered[n] := by
    decide +kernel
  have quiet : Quiet (mfaPool mfaOn enrolledMember removedThenRegistered) := by
    unfold Quiet
    decide +kernel
  have follows := mfa_gate_follows mfaOn enrolledMember flagRight_enrolledMember removedThenRegistered
    (EveryStep.of_getElem inTurn) _
    List.prefix_rfl quiet 2
  have factor : (mfaPool mfaOn enrolledMember removedThenRegistered).state.hasFactor 2 = true := by decide +kernel
  exact ⟨factor, follows.2 rfl factor⟩

/-- In the second everything has been answered, the member has a key, and its password alone is enough. -/
theorem key_is_not_asked_for :
    (∀ userId, enrolledMember.FlagRight userId) ∧ Quiet (mfaPool mfaOn enrolledMember removedWhileRegistered) ∧
      (mfaPool mfaOn enrolledMember removedWhileRegistered).state.hasFactor 2 = true ∧
      (mfaPool mfaOn enrolledMember removedWhileRegistered).state.enrolledAt 2 = some none ∧
      (MfaRoutine.login mfaOn 2).act (mfaPool mfaOn enrolledMember removedWhileRegistered).state =
        .inl (.ok .token) := by
  refine ⟨flagRight_enrolledMember, ?_, by decide +kernel, by decide +kernel, rfl⟩
  unfold Quiet
  decide +kernel

end Runs

end CoopSpaces

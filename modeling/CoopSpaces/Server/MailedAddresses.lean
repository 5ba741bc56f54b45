import CoopSpaces.Server.Handler

namespace CoopSpaces

/-- An address that an account holds. -/
structure HeldEmail (Uuid : Type) where
  id : Uuid
  userId : Uuid
  email : String
  isPrimary : Bool
  verifiedAt : Option Int
  createdAt : Int
  deriving DecidableEq

/-- A confirmation link's row. One that names no address confirms the primary. -/
structure EmailVerificationToken (Uuid : Type) where
  userId : Uuid
  tokenHash : String
  expiresAt : Int
  usedAt : Option Int
  userEmailId : Option Uuid
  deriving DecidableEq

/-- A mail with a confirmation link, and who held which address as it went out. -/
structure VerificationMail (Uuid : Type) where
  address : String
  tokenHash : String
  holders : List (HeldEmail Uuid)
  deriving DecidableEq

structure AddressBook (Uuid : Type) where
  users : List Uuid
  emails : List (HeldEmail Uuid)
  tokens : List (EmailVerificationToken Uuid)
  mailEnabled : Bool
  clock : Int
  sent : List (VerificationMail Uuid)

structure AddressRules where
  hashToken : String → String
  collation : Collation

def verificationTtlMicros : Int := 24 * 60 * 60 * 1000000

/-- What is done with addresses, each by whoever may, with the ids that rows get and the token that a mail would
carry. -/
inductive AddressRequest (Uuid : Type)
  | register (userId emailId : Uuid) (email token : String)
  | addUserEmail (userId emailId : Uuid) (email token : String)
  | updateUser (userId emailId : Uuid) (email token : String)
  | setPrimaryUserEmail (userId emailId : Uuid)
  | removeUserEmail (userId emailId : Uuid)
  | resendVerification (email token : String)
  | resendUserEmail (userId emailId : Uuid) (token : String)
  | verifyEmail (token : String)
  | setMailEnabled (on : Bool)
  | tick (micros : Nat)

namespace AddressBook
variable {Uuid : Type} [DecidableEq Uuid] (rules : AddressRules) (w : AddressBook Uuid)

def findUserEmail (email : String) : Option (HeldEmail Uuid) :=
  w.emails.find? fun row => rules.collation.lower row.email = rules.collation.toLowercase (trim email)

def getUserEmail (userId emailId : Uuid) : Option (HeldEmail Uuid) :=
  w.emails.find? fun row => decide (row.userId = userId) && decide (row.id = emailId)

/-- The table's keys: ids, the addresses' lower case, and one primary for each user. -/
def insertUserEmail (row : HeldEmail Uuid) : Except DbError (AddressBook Uuid) :=
  if w.emails.any fun other => decide (other.id = row.id) ||
      decide (rules.collation.lower other.email = rules.collation.lower row.email) ||
      (row.isPrimary && other.isPrimary && decide (other.userId = row.userId)) then .error .uniqueViolation
  else if row.userId ∉ w.users then .error .foreignKeyViolation
  else .ok { w with emails := w.emails ++ [row] }

/-- Rows go, and with them the tokens that name them. -/
def deleteUserEmails (gone : HeldEmail Uuid → Bool) : AddressBook Uuid :=
  { w with
    emails := w.emails.filter fun row => !gone row
    tokens := w.tokens.filter fun token =>
      !w.emails.any fun row => gone row && decide (token.userEmailId = some row.id) }

/-- A claim that nobody has confirmed in the time there was for it. -/
def evictStale (email : String) (staleBefore : Int) : AddressBook Uuid :=
  w.deleteUserEmails fun row => decide (rules.collation.lower row.email = rules.collation.toLowercase (trim email)) &&
    row.verifiedAt.isNone && !row.isPrimary && decide (row.createdAt < staleBefore)

/-- With the trigger that seeds the primary row. -/
def createUser (userId emailId : Uuid) (email : String) : Except DbError (AddressBook Uuid) :=
  if userId ∈ w.users then .error .uniqueViolation
  else insertUserEmail rules { w with users := w.users ++ [userId] } ⟨emailId, userId, email, true, none, w.clock⟩

def dbAddUserEmail (userId emailId : Uuid) (email : String) (staleBefore : Int) : Except DbError (AddressBook Uuid) :=
  insertUserEmail rules (w.evictStale rules email staleBefore) ⟨emailId, userId, trim email, false, none, w.clock⟩

def replacePrimaryUserEmail (userId emailId : Uuid) (email : String) (staleBefore : Int) :
    Except DbError (AddressBook Uuid) :=
  let evicted := w.evictStale rules email staleBefore
  let removed := fun row : HeldEmail Uuid => decide (row.userId = userId) && row.isPrimary
  if evicted.emails.countP removed ≠ 1 then .error .notFound
  else insertUserEmail rules (evicted.deleteUserEmails removed) ⟨emailId, userId, trim email, true, none, w.clock⟩

/-- An unconfirmed address is refused here too: the transaction rolls back. -/
def dbSetPrimaryUserEmail (userId emailId : Uuid) : Except (Option DbError) (AddressBook Uuid) :=
  match w.getUserEmail userId emailId with
  | none => .error (some .notFound)
  | some target =>
    if target.verifiedAt.isNone then .error none
    else if !w.emails.any fun row => decide (row.userId = userId) && row.isPrimary then .error (some .notFound)
    else .ok { w with emails := w.emails.map fun row =>
      if row.id = emailId then { row with isPrimary := true }
      else if row.userId = userId then { row with isPrimary := false } else row }

/-- The older links for the same address are spent. -/
def createEmailVerificationToken (userId : Uuid) (emailId : Option Uuid) (hash : String) (expiry : Int) :
    Except DbError (AddressBook Uuid) :=
  if w.tokens.any fun token => token.tokenHash = hash then .error .uniqueViolation
  else if userId ∉ w.users ∨
    ¬ (emailId.all fun id => w.emails.any fun row => row.id = id) then .error .foreignKeyViolation
  else .ok { w with tokens := (w.tokens.map fun token =>
    if token.userId = userId ∧ token.userEmailId = emailId ∧ token.usedAt = none then
      { token with usedAt := some w.clock }
    else token) ++
      [⟨userId, hash, expiry, none, emailId⟩] }

def claimEmailVerificationToken (hash : String) : AddressBook Uuid × Option (Uuid × Option Uuid) :=
  match w.tokens.find? fun token => decide (token.tokenHash = hash) && token.usedAt.isNone &&
    decide (w.clock < token.expiresAt) with
  | none => (w, none)
  | some found => ({ w with tokens := w.tokens.map fun token =>
      if token.tokenHash = hash ∧ token.usedAt = none ∧ w.clock < token.expiresAt then
        { token with usedAt := some w.clock }
      else token },
    some (found.userId, found.userEmailId))

/-- The row that a claimed token confirms. -/
def confirms (userId : Uuid) (emailId : Option Uuid) (row : HeldEmail Uuid) : Bool :=
  decide (row.userId = userId) && match emailId with
    | some id => decide (row.id = id)
    | none => row.isPrimary

def markEmailVerified (userId : Uuid) (emailId : Option Uuid) : Except DbError (AddressBook Uuid) :=
  if w.emails.any (confirms userId emailId) then
    .ok { w with emails := w.emails.map fun row =>
      if confirms userId emailId row then { row with verifiedAt := some w.clock } else row }
  else .error .notFound

/-- With the mailer off nothing is done, and a token that cannot be stored is not mailed. -/
def issueVerificationMailFor (userId : Uuid) (emailId : Option Uuid) (address token : String) : AddressBook Uuid :=
  if !w.mailEnabled then w
  else match w.createEmailVerificationToken userId emailId (rules.hashToken token)
    (w.clock + verificationTtlMicros) with
    | .error _ => w
    | .ok after =>
      { after with sent := after.sent ++ [⟨address, rules.hashToken token, after.emails⟩] }

def staleCutoff : Int := w.clock - verificationTtlMicros

abbrev Answered (Uuid : Type) := AddressBook Uuid × Except ApiError Unit

def register (userId emailId : Uuid) (email token : String) : Answered Uuid :=
  if '@' ∉ email.toList then (w, .error (.badRequest "Invalid email format"))
  else if (w.findUserEmail rules email).isSome then (w, .error (.conflict "Email already exists"))
  else match w.createUser rules userId emailId email with
    | .error e => (w, .error (.ofDb e))
    | .ok created => (created.issueVerificationMailFor rules userId none email token, .ok ())

def addUserEmail (userId emailId : Uuid) (email token : String) : Answered Uuid :=
  let address := trim email
  if '@' ∉ address.toList then (w, .error (.badRequest "Invalid email format"))
  else if (w.findUserEmail rules address).isSome then (w, .error (.conflict "Email already exists"))
  else match w.dbAddUserEmail rules userId emailId address w.staleCutoff with
    | .error .uniqueViolation => (w, .error (.conflict "Email already exists"))
    | .error .foreignKeyViolation => (w, .error (.notFound "User not found"))
    | .error e => (w, .error (.ofDb e))
    | .ok added => (added.issueVerificationMailFor rules userId (some emailId) (trim address) token, .ok ())

/-- What an edited profile does to the address, if it is not the one that the account has. -/
def updateUser (userId emailId : Uuid) (email token : String) : Answered Uuid :=
  match w.emails.find? fun row => decide (row.userId = userId) && row.isPrimary with
  | none => (w, .error (.notFound "User not found"))
  | some existing =>
    if email = existing.email then (w, .ok ())
    else if '@' ∉ email.toList then (w, .error (.badRequest "Invalid email format"))
    else if (w.findUserEmail rules email).isSome then (w, .error (.conflict "Email already exists"))
    else match w.replacePrimaryUserEmail rules userId emailId email w.staleCutoff with
      | .error .uniqueViolation => (w, .error (.conflict "Email already exists"))
      | .error e => (w, .error (.ofDb e))
      | .ok replaced => (replaced.issueVerificationMailFor rules userId none (trim email) token, .ok ())

def setPrimaryUserEmail (userId emailId : Uuid) : Answered Uuid :=
  match w.getUserEmail userId emailId with
  | none => (w, .error (.notFound "Email address not found"))
  | some row =>
    if row.isPrimary then (w, .error (.badRequest "That address is already the primary"))
    else if row.verifiedAt.isNone
      then (w, .error (.badRequest "An address must be confirmed before it can become the primary"))
    else match w.dbSetPrimaryUserEmail userId emailId with
      | .error (some e) => (w, .error (.ofDb e))
      | .error none => (w, .error (.internalServerError "Database operation failed"))
      | .ok after => (after, .ok ())

def removeUserEmail (userId emailId : Uuid) : Answered Uuid :=
  match w.getUserEmail userId emailId with
  | none => (w, .error (.notFound "Email address not found"))
  | some row =>
    if row.isPrimary then (w,
      .error (.badRequest "The primary address cannot be removed; make another address primary first"))
    else (w.deleteUserEmails fun row => decide (row.userId = userId) && decide (row.id = emailId) &&
      !row.isPrimary, .ok ())

/-- A link for a primary names no address. -/
def resendFor (row : HeldEmail Uuid) (token : String) : AddressBook Uuid :=
  w.issueVerificationMailFor rules row.userId (if row.isPrimary then none else some row.id) row.email token

def resendVerification (email token : String) : Answered Uuid :=
  if !w.mailEnabled then (w, .error (.forbidden "Email confirmation is not available on this instance"))
  else match w.findUserEmail rules (rules.collation.toLowercase (trim email)) with
    | none => (w, .ok ())
    | some row => (if row.verifiedAt.isNone then w.resendFor rules row token else w, .ok ())

def resendUserEmail (userId emailId : Uuid) (token : String) : Answered Uuid :=
  match w.getUserEmail userId emailId with
  | none => (w, .error (.notFound "Email address not found"))
  | some row =>
    if row.verifiedAt.isSome then (w, .error (.badRequest "That address is already confirmed"))
    else (w.resendFor rules row token, .ok ())

def verifyEmail (token : String) : Answered Uuid :=
  match w.claimEmailVerificationToken (rules.hashToken (trim token)) with
  | (_, none) => (w, .error (.badRequest "This confirmation link is invalid or has expired. Ask for a new one."))
  | (claimed, some (userId, emailId)) =>
    match claimed.markEmailVerified userId emailId with
    | .error e => (claimed, .error (.ofDb e))
    | .ok marked => (marked, .ok ())

def step : AddressRequest Uuid → Answered Uuid
  | .register userId emailId email token => w.register rules userId emailId email token
  | .addUserEmail userId emailId email token => w.addUserEmail rules userId emailId email token
  | .updateUser userId emailId email token => w.updateUser rules userId emailId email token
  | .setPrimaryUserEmail userId emailId => w.setPrimaryUserEmail userId emailId
  | .removeUserEmail userId emailId => w.removeUserEmail userId emailId
  | .resendVerification email token => w.resendVerification rules email token
  | .resendUserEmail userId emailId token => w.resendUserEmail rules userId emailId token
  | .verifyEmail token => w.verifyEmail rules token
  | .setMailEnabled on => ({ w with mailEnabled := on }, .ok ())
  | .tick micros => ({ w with clock := w.clock + micros }, .ok ())

end AddressBook

section Runs
variable {Uuid : Type} [DecidableEq Uuid] (rules : AddressRules)

/-- Before the first account. -/
def emptyBook (mailEnabled : Bool) (clock : Int) : AddressBook Uuid := ⟨[], [], [], mailEnabled, clock, []⟩

def addressMachine (mailEnabled : Bool) (clock : Int) :
    Machine (AddressBook Uuid) (AddressRequest Uuid) (Except ApiError Unit) :=
  ⟨emptyBook mailEnabled clock, fun w request => w.step rules request⟩

/-- The row is confirmed, and was not before. -/
def BecomesVerified (before after : AddressBook Uuid) (row : HeldEmail Uuid) : Prop :=
  row ∈ after.emails ∧ row.verifiedAt.isSome = true ∧ ¬ ∃ old ∈ before.emails, old.id = row.id ∧
    old.verifiedAt.isSome = true

/-- The mail went to the row's own address, while the row held it. -/
def MailedTo (w : AddressBook Uuid) (hash : String) (row : HeldEmail Uuid) : Prop :=
  ∃ mail ∈ w.sent, mail.tokenHash = hash ∧ mail.address = row.email ∧
    ∃ held ∈ mail.holders, held.id = row.id ∧ held.email = row.email

/-- Whatever row a request confirms, it brings a token that was mailed to that row's address. -/
def VerifiesMailed (w : AddressBook Uuid) (request : AddressRequest Uuid) : Prop :=
  ∀ row, BecomesVerified w (w.step rules request).1 row →
    ∃ token, request = .verifyEmail token ∧ MailedTo w (rules.hashToken (trim token)) row

/-- The row is the account's primary, and not confirmed. -/
def HeldEmail.Awaits (row : HeldEmail Uuid) (userId : Uuid) : Prop :=
  row.userId = userId ∧ row.isPrimary = true ∧ row.verifiedAt = none

/-- An unused link that names no address. -/
def EmailVerificationToken.Open (token : EmailVerificationToken Uuid) : Prop :=
  token.userEmailId = none ∧ token.usedAt = none

/-- The account's primary address is replaced, and no mail goes out. -/
def ReplacesUnmailed (w : AddressBook Uuid) (userId : Uuid) (request : AddressRequest Uuid) : Prop :=
  (∃ emailId email token, request = .updateUser userId emailId email token ∧
      ∀ row ∈ w.emails, row.userId = userId → row.isPrimary = true → row.email ≠ email) ∧
    (w.step rules request).2 = .ok () ∧ (w.step rules request).1.sent = w.sent

/-- While the link has stood, no request has replaced the account's primary unmailed. -/
def NotReplaced (mailEnabled : Bool) (clock : Int) (past : List (AddressRequest Uuid)) (userId : Uuid)
    (hash : String) :
    Prop :=
  ∀ before request later, past = before ++ request :: later →
    (∃ stored ∈ ((addressMachine rules mailEnabled clock).run (before ++ [request])).tokens,
        stored.tokenHash = hash ∧ stored.Open) →
      ¬ ReplacesUnmailed rules ((addressMachine rules mailEnabled clock).run before) userId request

/-- A link that names no address is used while the primary is not confirmed only if that has not been replaced
unmailed. -/
def PrimaryAsMailed (mailEnabled : Bool) (clock : Int) (past : List (AddressRequest Uuid)) :
    AddressRequest Uuid → Prop
  | .verifyEmail token =>
    let w := (addressMachine rules mailEnabled clock).run past
    let hash := rules.hashToken (trim token)
    ∀ userId, (w.claimEmailVerificationToken hash).2 = some (userId, none) → (∃ row ∈ w.emails, row.Awaits userId) →
      NotReplaced rules mailEnabled clock past userId hash
  | _ => True

end Runs

namespace AddressBook
variable {Uuid : Type} [DecidableEq Uuid] {rules : AddressRules} {w after : AddressBook Uuid}

/-- The keys of the tables, and what is known of the tokens that name an address. -/
structure Sound (w : AddressBook Uuid) : Prop where
  ids : (w.emails.map (·.id)).Nodup
  onePrimary : ∀ one ∈ w.emails, ∀ other ∈ w.emails, one.isPrimary = true → other.isPrimary = true →
    one.userId = other.userId → one = other
  named : ∀ token ∈ w.tokens, ∀ id, token.userEmailId = some id → ∃ row ∈ w.emails, row.id = id ∧
    MailedTo w token.tokenHash row
  owned : ∀ token ∈ w.tokens, token.userId ∈ w.users

/-- No row becomes verified. -/
def ConfirmsNone (before after : AddressBook Uuid) : Prop :=
  ∀ row ∈ after.emails, row.verifiedAt.isSome = true → ∃ old ∈ before.emails, old.id = row.id ∧
    old.verifiedAt.isSome = true

omit [DecidableEq Uuid] in
theorem ConfirmsNone.trans {last : AddressBook Uuid} (first : ConfirmsNone w after)
    (second : ConfirmsNone after last) : ConfirmsNone w last := by
  intro row member verified
  obtain ⟨middle, between, sameId, already⟩ := second row member verified
  obtain ⟨old, before, again, was⟩ := first middle between already
  exact ⟨old, before, again.trans sameId, was⟩

/-- The link was mailed to the primary that the account has, unless that is confirmed. -/
def AsMailed (w : AddressBook Uuid) (token : EmailVerificationToken Uuid) : Prop :=
  ∀ row ∈ w.emails, row.Awaits token.userId → MailedTo w token.tokenHash row

/-- No mail is lost, and an unused link for a primary is an old one, of an account whose unconfirmed
primary is an old one, or was mailed to the primary. Accounts may be excepted. -/
structure Carries (except : Uuid → Prop) (before after : AddressBook Uuid) : Prop where
  sent : ∀ mail ∈ before.sent, mail ∈ after.sent
  links : ∀ token ∈ after.tokens, token.Open → ¬ except token.userId → AsMailed after token ∨
    token ∈ before.tokens ∧ ∀ row ∈ after.emails, row.Awaits token.userId →
      ∃ old ∈ before.emails, old.Awaits token.userId ∧ old.id = row.id ∧ old.email = row.email

/-- No row becomes verified, and the links are carried on. -/
structure Keeps (except : Uuid → Prop) (before after : AddressBook Uuid) : Prop where
  confirmsNone : ConfirmsNone before after
  carries : Carries except before after

variable {except : Uuid → Prop}

omit [DecidableEq Uuid] in
theorem MailedTo.carried {hash : String} {row old : HeldEmail Uuid} (sent : ∀ mail ∈ w.sent, mail ∈ after.sent)
    (sameId : old.id = row.id) (sameEmail : old.email = row.email) (mailed : MailedTo w hash old) :
    MailedTo after hash row := by
  obtain ⟨mail, listed, sameHash, address, held, holds, heldId, heldEmail⟩ := mailed
  exact ⟨mail, sent mail listed, sameHash, address.trans sameEmail, held, holds, heldId.trans sameId,
    heldEmail.trans sameEmail⟩

omit [DecidableEq Uuid] in
theorem AsMailed.carried {token : EmailVerificationToken Uuid} (asMailed : AsMailed w token)
    (sent : ∀ mail ∈ w.sent, mail ∈ after.sent) (rows : ∀ row ∈ after.emails, row.Awaits token.userId →
      ∃ old ∈ w.emails, old.Awaits token.userId ∧ old.id = row.id ∧ old.email = row.email) :
        AsMailed after token := by
  intro row member awaits
  obtain ⟨old, was, awaited, sameId, sameEmail⟩ := rows row member awaits
  exact MailedTo.carried sent sameId sameEmail (asMailed old was awaited)

omit [DecidableEq Uuid] in
theorem Carries.trans {last : AddressBook Uuid} (first : Carries except w after)
    (second : Carries except after last) :
    Carries except w last := by
  refine ⟨fun mail listed => second.sent mail (first.sent mail listed), ?_⟩
  intro token listed isOpen spared
  rcases second.links token listed isOpen spared with asMailed | ⟨between, rows⟩
  · exact .inl asMailed
  rcases first.links token between isOpen spared with asMailed | ⟨before, olds⟩
  · exact .inl (asMailed.carried second.sent rows)
  · refine .inr ⟨before, fun row member awaits => ?_⟩
    obtain ⟨middle, there, awaited, sameId, sameEmail⟩ := rows row member awaits
    obtain ⟨old, was, waited, oldId, oldEmail⟩ := olds middle there awaited
    exact ⟨old, was, waited, oldId.trans sameId, oldEmail.trans sameEmail⟩

omit [DecidableEq Uuid] in
theorem Carries.of_rows (sent : after.sent = w.sent) (tokens : ∀ token ∈ after.tokens, token.Open → token ∈ w.tokens)
    (rows : ∀ row ∈ after.emails, ∀ userId, row.Awaits userId →
      ∃ old ∈ w.emails, old.Awaits userId ∧ old.id = row.id ∧ old.email = row.email) : Carries except w after where
  sent := fun _ listed => sent.symm ▸ listed
  links := fun token listed isOpen _ => .inr ⟨tokens token listed isOpen, fun row member awaits =>
    rows row member _ awaits⟩

omit [DecidableEq Uuid] in
theorem Keeps.trans {last : AddressBook Uuid} (first : Keeps except w after) (second : Keeps except after last) :
    Keeps except w last :=
  ⟨first.confirmsNone.trans second.confirmsNone, first.carries.trans second.carries⟩

omit [DecidableEq Uuid] in
theorem Keeps.of_same (emails : after.emails = w.emails) (tokens : after.tokens = w.tokens)
    (sent : after.sent = w.sent) :
    Keeps except w after where
  confirmsNone := fun row member verified => ⟨row, emails ▸ member, rfl, verified⟩
  carries := .of_rows sent (fun _ listed _ => tokens ▸ listed)
    fun row member _ awaits => ⟨row, emails ▸ member, awaits, rfl, rfl⟩

omit [DecidableEq Uuid] in
theorem Keeps.refl (w : AddressBook Uuid) : Keeps except w w := .of_same rfl rfl rfl

theorem insertUserEmail_ok {row : HeldEmail Uuid} (made : w.insertUserEmail rules row = .ok after) :
    after = { w with emails := w.emails ++ [row] } ∧ (∀ other ∈ w.emails, other.id ≠ row.id) ∧
      ∀ other ∈ w.emails, row.isPrimary = true → other.isPrimary = true → other.userId ≠ row.userId := by
  unfold insertUserEmail at made
  split at made
  · cases made
  next free =>
    split at made
    · cases made
    · refine ⟨(Except.ok.inj made).symm, fun other member same => free ?_, fun other member one two same => free ?_⟩
      · exact List.any_eq_true.mpr ⟨other, member, by simp [same]⟩
      · exact List.any_eq_true.mpr ⟨other, member, by simp [same, one, two]⟩

/-- A row is put in. If it is a primary, its account has no links yet or is excepted. -/
theorem Sound.insert (sound : w.Sound) {row : HeldEmail Uuid} (unconfirmed : row.verifiedAt = none)
    (unlinked : row.isPrimary = true → ∀ token ∈ w.tokens, token.userId = row.userId → except row.userId)
    (made : w.insertUserEmail rules row = .ok after) : after.Sound ∧ Keeps except w after := by
  obtain ⟨rfl, fresh, only⟩ := insertUserEmail_ok made
  refine ⟨⟨?_, ?_, ?_, sound.owned⟩, ?_, fun mail listed => listed, ?_⟩
  · rw [List.map_append, List.nodup_append]
    refine ⟨sound.ids, List.nodup_singleton _, ?_⟩
    intro one member other isRow same
    obtain ⟨old, listed, rfl⟩ := List.mem_map.mp member
    obtain rfl := List.mem_singleton.mp isRow
    exact fresh old listed same
  · intro one memberOne other memberOther primary alsoPrimary sameUser
    rcases List.mem_append.mp memberOne with oldOne | newOne
    · rcases List.mem_append.mp memberOther with oldOther | newOther
      · exact sound.onePrimary one oldOne other oldOther primary alsoPrimary sameUser
      · obtain rfl := List.mem_singleton.mp newOther
        exact absurd sameUser (only one oldOne alsoPrimary primary)
    · obtain rfl := List.mem_singleton.mp newOne
      rcases List.mem_append.mp memberOther with oldOther | newOther
      · exact absurd sameUser.symm (only other oldOther primary alsoPrimary)
      · exact (List.mem_singleton.mp newOther).symm
  · intro token member id names
    obtain ⟨old, listed, sameId, mailed⟩ := sound.named token member id names
    exact ⟨old, List.mem_append_left _ listed, sameId, mailed⟩
  · intro one member verified
    rcases List.mem_append.mp member with old | new
    · exact ⟨one, old, rfl, verified⟩
    · rw [List.mem_singleton.mp new, unconfirmed] at verified
      cases verified
  · refine fun token listed _ spared => .inr ⟨listed, fun one member awaits => ?_⟩
    rcases List.mem_append.mp member with old | new
    · exact ⟨one, old, awaits, rfl, rfl⟩
    · obtain rfl := List.mem_singleton.mp new
      exact absurd (awaits.1 ▸ unlinked awaits.2.1 token listed awaits.1.symm) spared

theorem Sound.delete (sound : w.Sound) (gone : HeldEmail Uuid → Bool) :
    (w.deleteUserEmails gone).Sound ∧ Keeps except w (w.deleteUserEmails gone) := by
  have kept : ∀ row ∈ (w.deleteUserEmails gone).emails, row ∈ w.emails :=
    fun row member => (List.mem_filter.mp member).1
  refine ⟨⟨?_, ?_, ?_, fun token member => sound.owned token (List.mem_filter.mp member).1⟩,
    fun row member verified => ⟨row, kept row member, rfl, verified⟩,
    .of_rows rfl (fun token member _ => (List.mem_filter.mp member).1)
      fun row member userId awaits => ⟨row, kept row member, awaits, rfl, rfl⟩⟩
  · exact sound.ids.sublist (List.filter_sublist.map _)
  · exact fun one memberOne other memberOther =>
      sound.onePrimary one (kept one memberOne) other (kept other memberOther)
  · intro token member id names
    obtain ⟨listed, stays⟩ := List.mem_filter.mp member
    obtain ⟨row, inTable, sameId, mailed⟩ := sound.named token listed id names
    refine ⟨row, List.mem_filter.mpr ⟨inTable, ?_⟩, sameId, mailed⟩
    by_contra isGone
    simp only [Bool.not_eq_true', Bool.not_eq_false] at isGone
    have wouldGo : (w.emails.any fun row => gone row && decide (token.userEmailId = some row.id)) = true :=
      List.any_eq_true.mpr ⟨row, inTable, by simp [isGone, names, sameId]⟩
    rw [wouldGo] at stays
    cases stays

omit [DecidableEq Uuid] in
/-- Rows that keep their id, their account and their address. -/
theorem Sound.map (sound : w.Sound) {change : HeldEmail Uuid → HeldEmail Uuid}
    (keeps : ∀ row, (change row).id = row.id ∧ (change row).userId = row.userId ∧ (change row).email = row.email)
    (primary : ∀ one ∈ w.emails, ∀ other ∈ w.emails, (change one).isPrimary = true → (change other).isPrimary = true →
      one.userId = other.userId → one = other) : Sound { w with emails := w.emails.map change } := by
  refine ⟨?_, ?_, ?_, sound.owned⟩
  · have same : (w.emails.map change).map (·.id) = w.emails.map (·.id) := by
      rw [List.map_map]
      exact List.map_congr_left fun row _ => (keeps row).1
    rw [same]
    exact sound.ids
  · rintro _ memberOne _ memberOther one other sameUser
    obtain ⟨rowOne, listedOne, rfl⟩ := List.mem_map.mp memberOne
    obtain ⟨rowOther, listedOther, rfl⟩ := List.mem_map.mp memberOther
    rw [(keeps rowOne).2.1, (keeps rowOther).2.1] at sameUser
    rw [primary rowOne listedOne rowOther listedOther one other sameUser]
  · intro token member id names
    obtain ⟨row, listed, sameId, mail, sent, sameHash, address, held, holds, heldId, heldEmail⟩ :=
      sound.named token member id names
    obtain ⟨keepsId, -, keepsEmail⟩ := keeps row
    refine ⟨change row, List.mem_map_of_mem listed, keepsId.trans sameId, mail, sent, sameHash,
      address.trans keepsEmail.symm, held, holds, ?_, ?_⟩
    · exact heldId.trans keepsId.symm
    · exact heldEmail.trans keepsEmail.symm

omit [DecidableEq Uuid] in
/-- Some tokens are spent, and the others stay. -/
theorem Sound.spend (sound : w.Sound) (spent : EmailVerificationToken Uuid → Prop) [DecidablePred spent] (now : Int) :
    Sound
      { w with tokens := w.tokens.map fun token => if spent token then { token with usedAt := some now }
        else token } ∧
      ∀ token ∈ w.tokens.map fun token => if spent token then { token with usedAt := some now } else token,
        token.usedAt = none → token ∈ w.tokens ∧ ¬ spent token := by
  refine ⟨⟨sound.ids, sound.onePrimary, ?_, ?_⟩, ?_⟩
  · rintro _ member id names
    obtain ⟨token, listed, rfl⟩ := List.mem_map.mp member
    split at names
    next isSpent =>
      rw [if_pos isSpent]
      exact sound.named token listed id names
    next isSpent =>
      rw [if_neg isSpent]
      exact sound.named token listed id names
  · rintro _ member
    obtain ⟨token, listed, rfl⟩ := List.mem_map.mp member
    split
    · exact sound.owned token listed
    · exact sound.owned token listed
  · rintro _ member unused
    obtain ⟨token, listed, rfl⟩ := List.mem_map.mp member
    split at unused
    next => cases unused
    next isSpent =>
      rw [if_neg isSpent]
      exact ⟨listed, isSpent⟩

/-- A link that goes to the address it is for: the row it names, or the account's primary. -/
theorem Sound.issue (sound : w.Sound) {userId : Uuid} {emailId : Option Uuid} {address token : String}
    (named : ∀ id, emailId = some id → ∃ row ∈ w.emails, row.id = id ∧ row.email = address)
    (primary : emailId = none → ∀ row ∈ w.emails, row.isPrimary = true → row.userId = userId → row.email = address) :
    let issued := w.issueVerificationMailFor rules userId emailId address token
    issued.Sound ∧ Keeps except w issued ∧ (emailId = none → issued.sent = w.sent ∨
      ∀ token ∈ issued.tokens, token.Open → token.userId = userId → AsMailed issued token) := by
  unfold issueVerificationMailFor
  split
  · exact ⟨sound, .refl w, fun _ => .inl rfl⟩
  · split
    · exact ⟨sound, .refl w, fun _ => .inl rfl⟩
    next stored made =>
      unfold createEmailVerificationToken at made
      split at made
      · cases made
      · split at made
        · cases made
        next known =>
          obtain rfl := Except.ok.inj made
          rw [not_or, not_not] at known
          obtain ⟨spent, unspent⟩ := sound.spend (fun token => token.userId = userId ∧ token.userEmailId = emailId ∧
            token.usedAt = none) w.clock
          generalize w.tokens.map (fun token => if token.userId = userId ∧ token.userEmailId = emailId ∧
            token.usedAt = none then { token with usedAt := some w.clock } else token) = kept at spent unspent
          have linked :
            ∀ one ∈ kept ++ [⟨userId, rules.hashToken token, w.clock + verificationTtlMicros, none, emailId⟩],
              one.Open → (one ∈ w.tokens ∧ (emailId = none → one.userId ≠ userId)) ∨ AsMailed { w with
                tokens := kept ++ [⟨userId, rules.hashToken token, w.clock + verificationTtlMicros, none, emailId⟩],
                sent := w.sent ++ [⟨address, rules.hashToken token, w.emails⟩] } one := by
            intro one member isOpen
            rcases List.mem_append.mp member with old | new
            · obtain ⟨listed, other⟩ := unspent one old isOpen.2
              exact .inl ⟨listed, fun names same => other ⟨same, isOpen.1.trans names.symm, isOpen.2⟩⟩
            · obtain rfl := List.mem_singleton.mp new
              refine .inr fun row inTable awaits => ?_
              exact ⟨_, List.mem_append_right _ (List.mem_singleton_self _), rfl,
                (primary isOpen.1 row inTable awaits.2.1 awaits.1).symm, row, inTable, rfl, rfl⟩
          refine ⟨⟨sound.ids, sound.onePrimary, ?_, ?_⟩, ⟨fun row member verified => ⟨row, member, rfl, verified⟩,
            fun mail listed => List.mem_append_left _ listed, fun one member isOpen _ => ?_⟩,
            fun names => .inr fun one member isOpen same => ?_⟩
          · intro one member id names
            rcases List.mem_append.mp member with old | new
            · obtain ⟨row, inTable, sameId, mail, sent, rest⟩ := spent.named one old id names
              exact ⟨row, inTable, sameId, mail, List.mem_append_left _ sent, rest⟩
            · obtain rfl := List.mem_singleton.mp new
              obtain ⟨row, inTable, sameId, sameAddress⟩ := named id names
              exact ⟨row, inTable, sameId, _, List.mem_append_right _ (List.mem_singleton_self _), rfl,
                sameAddress.symm, row, inTable, rfl, rfl⟩
          · intro one member
            rcases List.mem_append.mp member with old | new
            · exact spent.owned one old
            · obtain rfl := List.mem_singleton.mp new
              exact known.1
          · rcases linked one member isOpen with ⟨listed, -⟩ | asMailed
            · exact .inr ⟨listed, fun row inTable awaits => ⟨row, inTable, awaits, rfl, rfl⟩⟩
            · exact .inl asMailed
          · rcases linked one member isOpen with ⟨-, other⟩ | asMailed
            · exact absurd same (other names)
            · exact asMailed

theorem Sound.issue_inserted (sound : w.Sound) {row : HeldEmail Uuid} (unconfirmed : row.verifiedAt = none)
    (isPrimary : row.isPrimary = true) (unlinked : ∀ token ∈ w.tokens, token.userId = row.userId → except row.userId)
    (made : w.insertUserEmail rules row = .ok after) (token : String) :
    let issued := after.issueVerificationMailFor rules row.userId none row.email token
    issued.Sound ∧ Keeps except w issued ∧ (issued.sent = w.sent ∨
      ∀ token ∈ issued.tokens, token.Open → token.userId = row.userId → AsMailed issued token) := by
  obtain ⟨inserted, keeps⟩ := sound.insert unconfirmed (fun _ => unlinked) made
  have issued := @Sound.issue _ _ rules after except inserted row.userId none row.email token
      (fun id same => by cases same) (by
    intro _ other member otherPrimary sameUser
    have listed : row ∈ after.emails := by
      rw [(insertUserEmail_ok made).1]
      exact List.mem_append_right _ (List.mem_singleton_self row)
    rw [inserted.onePrimary other member row listed otherPrimary isPrimary sameUser])
  have unsent : after.sent = w.sent := by rw [(insertUserEmail_ok made).1]
  exact ⟨issued.1, keeps.trans issued.2.1, unsent ▸ issued.2.2 rfl⟩

theorem Sound.resend (sound : w.Sound) {row : HeldEmail Uuid} (listed : row ∈ w.emails) (token : String) :
    (w.resendFor rules row token).Sound ∧ Keeps except w (w.resendFor rules row token) := by
  have issued := @Sound.issue _ _ rules w except sound row.userId (if row.isPrimary then none else some row.id)
    row.email token (fun id names => by
      split at names
      · cases names
      · obtain rfl := Option.some.inj names
        exact ⟨row, listed, rfl, rfl⟩) (fun names other member isPrimary sameUser => by
      split at names
      next rowPrimary => rw [sound.onePrimary other member row listed isPrimary rowPrimary sameUser]
      next => cases names)
  exact ⟨issued.1, issued.2.1⟩

theorem getUserEmail_some {userId emailId : Uuid} {row : HeldEmail Uuid}
    (found : w.getUserEmail userId emailId = some row) :
    row ∈ w.emails ∧ row.userId = userId ∧ row.id = emailId := by
  unfold getUserEmail at found
  have fits := List.find?_some found
  simp only [Bool.and_eq_true, decide_eq_true_eq] at fits
  exact ⟨List.mem_of_find?_eq_some found, fits⟩

theorem Sound.setPrimary (sound : w.Sound) {userId emailId : Uuid}
    (made : w.dbSetPrimaryUserEmail userId emailId = .ok after) : after.Sound ∧ Keeps except w after := by
  unfold dbSetPrimaryUserEmail at made
  split at made
  · cases made
  next target found =>
    obtain ⟨listed, targetUser, targetId⟩ := getUserEmail_some found
    split at made
    · cases made
    next confirmed =>
      split at made
      · cases made
      · obtain rfl := Except.ok.inj made
        have isTarget : ∀ row ∈ w.emails, row.id = emailId → row = target := fun row member same =>
          List.inj_on_of_nodup_map sound.ids member listed (same.trans targetId.symm)
        refine ⟨sound.map (fun row => ?_)
          fun one memberOne other memberOther onePrimary otherPrimary sameUser => ?_, ?_,
          .of_rows rfl (fun token listed _ => listed) ?_⟩
        · split
          · exact ⟨rfl, rfl, rfl⟩
          · split
            · exact ⟨rfl, rfl, rfl⟩
            · exact ⟨rfl, rfl, rfl⟩
        · -- The account has the promoted row only; the others keep what they had.
          by_cases oneIs : one.id = emailId
          · by_cases otherIs : other.id = emailId
            · rw [isTarget one memberOne oneIs, isTarget other memberOther otherIs]
            · have ofUser : other.userId = userId := by rw [← sameUser, isTarget one memberOne oneIs, targetUser]
              rw [if_neg otherIs, if_pos ofUser] at otherPrimary
              cases otherPrimary
          · by_cases otherIs : other.id = emailId
            · have ofUser : one.userId = userId := by rw [sameUser, isTarget other memberOther otherIs, targetUser]
              rw [if_neg oneIs, if_pos ofUser] at onePrimary
              cases onePrimary
            · rw [if_neg oneIs] at onePrimary
              rw [if_neg otherIs] at otherPrimary
              split at onePrimary
              next => cases onePrimary
              next notOne =>
                rw [if_neg (sameUser ▸ notOne)] at otherPrimary
                exact sound.onePrimary one memberOne other memberOther onePrimary otherPrimary sameUser
        · rintro _ member verified
          obtain ⟨row, listed, rfl⟩ := List.mem_map.mp member
          refine ⟨row, listed, ?_, ?_⟩
          · split
            · rfl
            · split
              · rfl
              · rfl
          · split at verified
            · exact verified
            · split at verified
              · exact verified
              · exact verified
        · rintro _ member user ⟨ofUser, isPrimary, unverified⟩
          obtain ⟨row, listed, rfl⟩ := List.mem_map.mp member
          split at ofUser
          next same =>
            rw [if_pos same, isTarget row listed same] at unverified
            exact absurd unverified (by simpa using confirmed)
          next differs =>
            rw [if_neg differs] at isPrimary unverified ⊢
            split at isPrimary
            next => cases isPrimary
            next other =>
              rw [if_neg other] at ofUser unverified ⊢
              exact ⟨row, listed, ⟨ofUser, isPrimary, unverified⟩, rfl, rfl⟩

theorem Sound.evictStale (sound : w.Sound) (rules : AddressRules) (email : String) (staleBefore : Int) :
    (w.evictStale rules email staleBefore).Sound ∧ Keeps except w (w.evictStale rules email staleBefore) :=
  sound.delete _

theorem Sound.register (sound : w.Sound) (userId emailId : Uuid) (email token : String) :
    (w.register rules userId emailId email token).1.Sound ∧
      Keeps except w (w.register rules userId emailId email token).1 := by
  unfold AddressBook.register
  split
  · exact ⟨sound, .refl w⟩
  · split
    · exact ⟨sound, .refl w⟩
    · split
      · exact ⟨sound, .refl w⟩
      next created made =>
        unfold createUser at made
        split at made
        · cases made
        next unknown =>
          have withUser : Sound { w with users := w.users ++ [userId] } :=
            ⟨sound.ids, sound.onePrimary, sound.named,
              fun token listed => List.mem_append_left _ (sound.owned token listed)⟩
          have begun : Keeps except w { w with users := w.users ++ [userId] } := .of_same rfl rfl rfl
          have unlinked : ∀ token ∈ w.tokens, token.userId ≠ userId :=
            fun token listed same => unknown (same ▸ sound.owned token listed)
          obtain ⟨issued, keeps, -⟩ := @Sound.issue_inserted _ _ rules _ _ except withUser _ rfl rfl
            (fun token listed same => absurd same (unlinked token listed)) made token
          exact ⟨issued, begun.trans keeps⟩

theorem Sound.addUserEmail (sound : w.Sound) (userId emailId : Uuid) (email token : String) :
    (w.addUserEmail rules userId emailId email token).1.Sound ∧
      Keeps except w (w.addUserEmail rules userId emailId email token).1 := by
  simp only [AddressBook.addUserEmail]
  split
  · exact ⟨sound, .refl w⟩
  · split
    · exact ⟨sound, .refl w⟩
    · split
      · exact ⟨sound, .refl w⟩
      · exact ⟨sound, .refl w⟩
      · exact ⟨sound, .refl w⟩
      next added made =>
        obtain ⟨evicted, keepsEvicted⟩ := @Sound.evictStale _ _ _ except sound rules (trim email) w.staleCutoff
        obtain ⟨inserted, keepsInserted⟩ := @Sound.insert _ _ rules _ _ except evicted _ rfl
          (fun isPrimary => by cases isPrimary) made
        have listed := (insertUserEmail_ok made).1
        have issued := @Sound.issue _ _ rules added except inserted userId (some emailId)
            (trim (trim email)) token (by
          intro id names
          obtain rfl := Option.some.inj names
          rw [listed]
          exact ⟨_, List.mem_append_right _ (List.mem_singleton_self _), rfl, rfl⟩) fun names => by cases names
        exact ⟨issued.1, (keepsEvicted.trans keepsInserted).trans issued.2.1⟩

theorem Keeps.of_mailed {userId : Uuid} (keeps : Keeps (· = userId) w after)
    (mailed : ¬ except userId → ∀ token ∈ after.tokens, token.Open → token.userId = userId → AsMailed after token) :
    Keeps except w after := by
  refine ⟨keeps.confirmsNone, keeps.carries.sent, fun token listed isOpen spared => ?_⟩
  by_cases own : token.userId = userId
  · exact .inl (mailed (own ▸ spared) token listed isOpen own)
  · exact keeps.carries.links token listed isOpen own

theorem Sound.updateUser (sound : w.Sound) (userId emailId : Uuid) (email token : String) :
    (w.step rules (.updateUser userId emailId email token)).1.Sound ∧
      Keeps (fun other => ReplacesUnmailed rules w other (.updateUser userId emailId email token)) w
        (w.step rules (.updateUser userId emailId email token)).1 := by
  obtain ⟨answered, there⟩ : ∃ answered, answered = w.step rules (.updateUser userId emailId email token) := ⟨_, rfl⟩
  have unmailed : ∀ other, ReplacesUnmailed rules w other (.updateUser userId emailId email token) ↔
      (∃ emailId' email' token', AddressRequest.updateUser userId emailId email token =
        .updateUser other emailId' email' token' ∧ ∀ row ∈ w.emails, row.userId = other → row.isPrimary = true →
          row.email ≠ email') ∧ answered.2 = .ok () ∧ answered.1.sent = w.sent := fun other => there ▸ Iff.rfl
  simp only [unmailed]
  rw [← there]
  clear unmailed
  simp only [AddressBook.step, AddressBook.updateUser] at there
  split at there
  · subst there
    exact ⟨sound, .refl w⟩
  next existing found =>
    split at there
    · subst there
      exact ⟨sound, .refl w⟩
    next changed =>
      split at there
      · subst there
        exact ⟨sound, .refl w⟩
      · split at there
        · subst there
          exact ⟨sound, .refl w⟩
        · split at there
          · subst there
            exact ⟨sound, .refl w⟩
          · subst there
            exact ⟨sound, .refl w⟩
          next replaced made =>
            subst there
            unfold replacePrimaryUserEmail at made
            dsimp only at made
            split at made
            · cases made
            · obtain ⟨evicted, keepsEvicted⟩ := @Sound.evictStale _ _ _ (· = userId) sound rules email w.staleCutoff
              obtain ⟨removed, keepsRemoved⟩ := @Sound.delete _ _ _ (· = userId) evicted
                fun row => decide (row.userId = userId) && row.isPrimary
              obtain ⟨issued, keeps, mailed⟩ := @Sound.issue_inserted _ _ rules _ _ (· = userId) removed _ rfl rfl
                (fun _ _ _ => rfl) made token
              refine ⟨issued, ((keepsEvicted.trans keepsRemoved).trans keeps).of_mailed fun spared => ?_⟩
              rcases mailed with unsent | asMailed
              · refine absurd ⟨⟨emailId, email, token, rfl, fun row member ofUser isPrimary same => changed ?_⟩,
                  rfl, unsent⟩ spared
                have fits := List.find?_some found
                simp only [Bool.and_eq_true, decide_eq_true_eq] at fits
                rw [← same, sound.onePrimary row member existing (List.mem_of_find?_eq_some found) isPrimary fits.2
                  (ofUser.trans fits.1.symm)]
              · exact asMailed

theorem Sound.setPrimaryUserEmail (sound : w.Sound) (userId emailId : Uuid) :
    (w.setPrimaryUserEmail userId emailId).1.Sound ∧ Keeps except w (w.setPrimaryUserEmail userId emailId).1 := by
  unfold AddressBook.setPrimaryUserEmail
  split
  · exact ⟨sound, .refl w⟩
  · split
    · exact ⟨sound, .refl w⟩
    · split
      · exact ⟨sound, .refl w⟩
      · split
        · exact ⟨sound, .refl w⟩
        · exact ⟨sound, .refl w⟩
        next made => exact sound.setPrimary made

theorem Sound.removeUserEmail (sound : w.Sound) (userId emailId : Uuid) :
    (w.removeUserEmail userId emailId).1.Sound ∧ Keeps except w (w.removeUserEmail userId emailId).1 := by
  unfold AddressBook.removeUserEmail
  split
  · exact ⟨sound, .refl w⟩
  · split
    · exact ⟨sound, .refl w⟩
    · exact sound.delete _

theorem Sound.resendVerification (sound : w.Sound) (email token : String) :
    (w.resendVerification rules email token).1.Sound ∧
      Keeps except w (w.resendVerification rules email token).1 := by
  unfold AddressBook.resendVerification
  split
  · exact ⟨sound, .refl w⟩
  · split
    · exact ⟨sound, .refl w⟩
    next row found =>
      dsimp only
      split
      · exact sound.resend (List.mem_of_find?_eq_some found) token
      · exact ⟨sound, .refl w⟩

theorem Sound.resendUserEmail (sound : w.Sound) (userId emailId : Uuid) (token : String) :
    (w.resendUserEmail rules userId emailId token).1.Sound ∧
      Keeps except w (w.resendUserEmail rules userId emailId token).1 := by
  unfold AddressBook.resendUserEmail
  split
  · exact ⟨sound, .refl w⟩
  next row found =>
    split
    · exact ⟨sound, .refl w⟩
    · exact sound.resend (getUserEmail_some found).1 token

theorem Sound.step (sound : w.Sound) (request : AddressRequest Uuid) (other : ∀ token, request ≠ .verifyEmail token) :
    (w.step rules request).1.Sound ∧
      Keeps (fun userId => ReplacesUnmailed rules w userId request) w (w.step rules request).1 := by
  cases request with
  | register userId emailId email token => exact sound.register userId emailId email token
  | addUserEmail userId emailId email token => exact sound.addUserEmail userId emailId email token
  | updateUser userId emailId email token => exact sound.updateUser userId emailId email token
  | setPrimaryUserEmail userId emailId => exact sound.setPrimaryUserEmail userId emailId
  | removeUserEmail userId emailId => exact sound.removeUserEmail userId emailId
  | resendVerification email token => exact sound.resendVerification email token
  | resendUserEmail userId emailId token => exact sound.resendUserEmail userId emailId token
  | verifyEmail token => exact absurd rfl (other token)
  | setMailEnabled on =>
    exact ⟨⟨sound.ids, sound.onePrimary, sound.named, sound.owned⟩, .of_same rfl rfl rfl⟩
  | tick micros =>
    exact ⟨⟨sound.ids, sound.onePrimary, sound.named, sound.owned⟩, .of_same rfl rfl rfl⟩

omit [DecidableEq Uuid] in
theorem Sound.claim (sound : w.Sound) {hash : String} {userId : Uuid} {emailId : Option Uuid}
    (granted : w.claimEmailVerificationToken hash = (after, some (userId, emailId))) :
    after.Sound ∧ Carries except w after ∧ after.emails = w.emails ∧ after.sent = w.sent ∧ ∃ token ∈ w.tokens,
      token.tokenHash = hash ∧ token.userId = userId ∧ token.userEmailId = emailId ∧ token.usedAt = none := by
  unfold claimEmailVerificationToken at granted
  split at granted
  · cases granted
  next found search =>
    obtain ⟨rfl, rest⟩ := Prod.mk.inj granted
    obtain ⟨rfl, rfl⟩ := Prod.mk.inj (Option.some.inj rest)
    have fits := List.find?_some search
    simp only [Bool.and_eq_true, decide_eq_true_eq, Option.isNone_iff_eq_none] at fits
    obtain ⟨spent, unspent⟩ := sound.spend (fun token => token.tokenHash = hash ∧ token.usedAt = none ∧
      w.clock < token.expiresAt) w.clock
    exact ⟨spent, .of_rows rfl (fun token listed isOpen => (unspent token listed isOpen.2).1)
      (fun row member userId awaits => ⟨row, member, awaits, rfl, rfl⟩), rfl, rfl, found,
      List.mem_of_find?_eq_some search, fits.1.1, rfl, rfl, fits.1.2⟩

theorem Sound.mark (sound : w.Sound) {userId : Uuid} {emailId : Option Uuid}
    (made : w.markEmailVerified userId emailId = .ok after) :
    after.Sound ∧ Carries except w after ∧ ∀ row ∈ after.emails, row.verifiedAt.isSome = true →
      ∃ old ∈ w.emails, old.id = row.id ∧ old.email = row.email ∧
        (old.verifiedAt = none → confirms userId emailId old = true) := by
  have keeps : ∀ row : HeldEmail Uuid, ∀ changed,
      changed = (if confirms userId emailId row = true then { row with verifiedAt := some w.clock } else row) →
      changed.id = row.id ∧ changed.userId = row.userId ∧ changed.email = row.email ∧
        changed.isPrimary = row.isPrimary := by
    rintro row _ rfl
    split
    · exact ⟨rfl, rfl, rfl, rfl⟩
    · exact ⟨rfl, rfl, rfl, rfl⟩
  unfold markEmailVerified at made
  split at made
  · obtain rfl := Except.ok.inj made
    refine ⟨sound.map (fun row => ?_) fun one memberOne other memberOther onePrimary otherPrimary => ?_,
      .of_rows rfl (fun token listed _ => listed) ?_, ?_⟩
    · obtain ⟨sameId, sameUser, sameEmail, -⟩ := keeps row _ rfl
      exact ⟨sameId, sameUser, sameEmail⟩
    · rw [(keeps one _ rfl).2.2.2] at onePrimary
      rw [(keeps other _ rfl).2.2.2] at otherPrimary
      exact sound.onePrimary one memberOne other memberOther onePrimary otherPrimary
    · rintro _ member user awaits
      obtain ⟨row, inTable, rfl⟩ := List.mem_map.mp member
      split at awaits
      next => cases awaits.2.2
      next left =>
        rw [if_neg left]
        exact ⟨row, inTable, awaits, rfl, rfl⟩
    · rintro _ member verified
      obtain ⟨row, inTable, rfl⟩ := List.mem_map.mp member
      obtain ⟨sameId, -, sameEmail, -⟩ := keeps row _ rfl
      refine ⟨row, inTable, sameId.symm, sameEmail.symm, fun unverified => ?_⟩
      by_contra left
      rw [if_neg left, unverified] at verified
      cases verified
  · cases made

/-- A row that a claimed token is for has the address the token was mailed to: the token names the
row, or the primary is the one that it was mailed to. -/
theorem Sound.mailedTo_of_confirms (sound : w.Sound) {token : String} {userId : Uuid} {emailId : Option Uuid}
    (granted : w.claimEmailVerificationToken (rules.hashToken (trim token)) = (after, some (userId, emailId)))
    (asMailed : emailId = none → ∀ link ∈ w.tokens, link.tokenHash = rules.hashToken (trim token) → link.Open →
      link.userId = userId → AsMailed w link) {row : HeldEmail Uuid} (inTable : row ∈ w.emails)
    (unverified : row.verifiedAt = none) (confirmed : confirms userId emailId row = true) :
    MailedTo w (rules.hashToken (trim token)) row := by
  obtain ⟨-, -, -, -, used, listed, sameHash, sameUser, names, unused⟩ :=
    @Sound.claim _ _ _ (fun _ => False) sound _ _ _ granted
  unfold confirms at confirmed
  rw [Bool.and_eq_true, decide_eq_true_eq] at confirmed
  obtain ⟨ofUser, which⟩ := confirmed
  cases emailId with
  | some id =>
    obtain ⟨named, inNames, namedId, mailed⟩ := sound.named used listed id names
    have isRow : named = row :=
      List.inj_on_of_nodup_map sound.ids inNames inTable (namedId.trans (of_decide_eq_true which).symm)
    rw [isRow, sameHash] at mailed
    exact mailed
  | none =>
    have mailed := asMailed rfl used listed sameHash ⟨names, unused⟩ sameUser row inTable
      ⟨ofUser.trans sameUser.symm, which, unverified⟩
    rw [sameHash] at mailed
    exact mailed

theorem Sound.verifyEmail (sound : w.Sound) (token : String) : (w.verifyEmail rules token).1.Sound ∧
    Carries except w (w.verifyEmail rules token).1 ∧
    ((∀ link ∈ w.tokens, (w.claimEmailVerificationToken (rules.hashToken (trim token))).2 = some (link.userId, none) →
        link.tokenHash = rules.hashToken (trim token) → link.Open → AsMailed w link) →
      VerifiesMailed rules w (.verifyEmail token)) := by
  unfold VerifiesMailed
  simp only [AddressBook.step, AddressBook.verifyEmail]
  split
  next =>
    refine ⟨sound, (Keeps.refl w).carries, fun _ row becomes => ?_⟩
    exact absurd ⟨row, becomes.1, rfl, becomes.2.1⟩ becomes.2.2
  next claimed userId emailId granted =>
    obtain ⟨claimedSound, claims, sameEmails, sameSent, -⟩ := @Sound.claim _ _ _ except sound _ _ _ granted
    split
    next failed =>
      refine ⟨claimedSound, claims, fun _ row becomes => ?_⟩
      have member : row ∈ w.emails := sameEmails ▸ becomes.1
      exact absurd ⟨row, member, rfl, becomes.2.1⟩ becomes.2.2
    next marked made =>
      obtain ⟨markedSound, marks, confirmed⟩ := @Sound.mark _ _ _ _ except claimedSound _ _ made
      refine ⟨markedSound, claims.trans marks, fun asMailed row becomes => ⟨token, rfl, ?_⟩⟩
      obtain ⟨member, verified, unlike⟩ := becomes
      obtain ⟨old, inTable, sameId, sameEmail, ofToken⟩ := confirmed row member verified
      rw [sameEmails] at inTable
      -- The row was not confirmed before, so it is one that the token confirms.
      have unverified : old.verifiedAt = none := by
        by_contra was
        exact unlike ⟨old, inTable, sameId, Option.isSome_iff_ne_none.mpr was⟩
      have mailed := sound.mailedTo_of_confirms granted (fun names link listed sameHash isOpen ofUser =>
        asMailed link listed (by rw [granted, names, ofUser]) sameHash isOpen) inTable unverified (ofToken unverified)
      unfold MailedTo at mailed
      rw [sameId, sameEmail] at mailed
      exact mailed

theorem Sound.carries_step (sound : w.Sound) (request : AddressRequest Uuid) : (w.step rules request).1.Sound ∧
    Carries (fun userId => ReplacesUnmailed rules w userId request) w (w.step rules request).1 := by
  by_cases claims : ∃ token, request = .verifyEmail token
  · obtain ⟨token, rfl⟩ := claims
    obtain ⟨stepped, carries, -⟩ := @Sound.verifyEmail _ _ rules _
      (fun userId => ReplacesUnmailed rules w userId (.verifyEmail token)) sound token
    exact ⟨stepped, carries⟩
  · obtain ⟨stepped, keeps⟩ := @Sound.step _ _ rules _ sound request fun token same => claims ⟨token, same⟩
    exact ⟨stepped, keeps.carries⟩

end AddressBook

section Runs
variable {Uuid : Type} [DecidableEq Uuid] {rules : AddressRules}

omit [DecidableEq Uuid] in
theorem AddressBook.sound_emptyBook (mailEnabled : Bool) (clock : Int) :
    (emptyBook mailEnabled clock : AddressBook Uuid).Sound where
  ids := List.nodup_nil
  onePrimary := fun one member => by cases member
  named := fun token member => by cases member
  owned := fun token member => by cases member

/-- An unused link for a primary that has not been replaced unmailed was mailed to it. -/
theorem AddressBook.asMailed_run (mailEnabled : Bool) (clock : Int) (past : List (AddressRequest Uuid)) :
    ((addressMachine rules mailEnabled clock).run past).Sound ∧
      ∀ link ∈ ((addressMachine rules mailEnabled clock).run past).tokens, link.Open →
        NotReplaced rules mailEnabled clock past link.userId link.tokenHash →
          AsMailed ((addressMachine rules mailEnabled clock).run past) link := by
  refine Machine.run_invariant (addressMachine rules mailEnabled clock) (fun past w => w.Sound ∧ ∀ link ∈ w.tokens,
    link.Open → NotReplaced rules mailEnabled clock past link.userId link.tokenHash → AsMailed w link)
    ⟨sound_emptyBook mailEnabled clock, fun link member => by cases member⟩ ?_ past
  rintro past request ⟨sound, asMailed⟩
  obtain ⟨stepped, carries⟩ := @Sound.carries_step _ _ rules _ sound request
  refine ⟨stepped, fun link listed isOpen notReplaced => ?_⟩
  have stands : link ∈ ((addressMachine rules mailEnabled clock).run (past ++ [request])).tokens := by
    rw [Machine.run_snoc]
    exact listed
  have spared := notReplaced past request [] rfl ⟨link, stands, rfl, isOpen⟩
  rcases carries.links link listed isOpen spared with mailed | ⟨was, rows⟩
  · exact mailed
  · refine (asMailed link was isOpen fun before other later split stood => ?_).carried carries.sent rows
    exact notReplaced before other (later ++ [request]) (by rw [split]; simp) stood

/-- However accounts, addresses and links come and go, an address is confirmed only by a link that was mailed to
it, as long as no link that names no address is used once the primary has been replaced and no other link mailed.
-/
theorem verified_only_by_mail (rules : AddressRules) (mailEnabled : Bool) (clock : Int)
    (requests : List (AddressRequest Uuid))
    (asMailed : EveryStep (PrimaryAsMailed rules mailEnabled clock) requests) :
    EveryStep (fun past request => VerifiesMailed rules ((addressMachine rules mailEnabled clock).run past)
      request) requests := by
  intro past request later split
  obtain ⟨sound, standing⟩ := @AddressBook.asMailed_run _ _ rules mailEnabled clock past
  by_cases claims : ∃ token, request = .verifyEmail token
  · obtain ⟨token, rfl⟩ := claims
    refine (@AddressBook.Sound.verifyEmail _ _ rules _ (fun _ => False) sound token).2.2
      fun link listed granted sameHash isOpen row inTable awaits => ?_
    refine standing link listed isOpen ?_ row inTable awaits
    exact sameHash ▸ asMailed past _ later split link.userId granted ⟨row, inTable, awaits⟩
  · intro row becomes
    have keeps := (@AddressBook.Sound.step _ _ rules _ sound request fun token same => claims ⟨token, same⟩).2
    exact absurd (keeps.confirmsNone row becomes.1 becomes.2.1) becomes.2.2

end Runs

def plainAddresses : AddressRules := ⟨id, ⟨id, id⟩⟩

/-- An account is registered, its address replaced, and the link that went to the new one is used. -/
def replacedAndVerified : List (AddressRequest Nat) :=
  [.register 1 10 "old@space" "a", .updateUser 1 11 "new@space" "b", .verifyEmail "b"]

/-- Before the link is used, the mailer is switched off and the address replaced. -/
def replacedUnmailed : List (AddressRequest Nat) :=
  [.register 1 10 "old@space" "a", .setMailEnabled false, .updateUser 1 11 "new@space" "b", .verifyEmail "a"]

theorem verified_only_by_mail_replaced :
    EveryStep (fun past request => VerifiesMailed plainAddresses
      ((addressMachine plainAddresses true 0).run past) request) replacedAndVerified := by
  refine verified_only_by_mail plainAddresses true 0 replacedAndVerified (EveryStep.of_getElem fun n bound => ?_)
  have three : n < 3 := bound
  rcases (by omega : n = 0 ∨ n = 1 ∨ n = 2) with rfl | rfl | rfl
  · trivial
  · trivial
  · rintro userId - - before request later split - ⟨⟨_, _, _, asked, -⟩, -, unsent⟩
    rcases before with _ | ⟨first, _ | ⟨second, rest⟩⟩
    · obtain ⟨rfl, -⟩ := List.cons.inj split
      cases asked
    · obtain ⟨rfl, tail⟩ := List.cons.inj split
      obtain ⟨rfl, -⟩ := List.cons.inj tail
      revert unsent
      decide +kernel
    · have lengths := congrArg List.length split
      simp [replacedAndVerified] at lengths

/-- The new address is confirmed, and the one mail there was went to the old one. -/
theorem replaced_address_is_confirmed :
    let m := addressMachine plainAddresses true 0
    ¬ EveryStep (fun past request => VerifiesMailed plainAddresses (m.run past) request) replacedUnmailed ∧
      (m.run replacedUnmailed).sent.map (·.address) = ["old@space"] ∧
      (m.run replacedUnmailed).emails = [⟨11, 1, "new@space", true, some 0, 0⟩] := by
  refine ⟨fun every => ?_, by decide +kernel, by decide +kernel⟩
  have becomes : BecomesVerified ((addressMachine plainAddresses true 0).run (replacedUnmailed.take 3))
      (((addressMachine plainAddresses true 0).run (replacedUnmailed.take 3)).step plainAddresses
        (.verifyEmail "a")).1
      ⟨11, 1, "new@space", true, some 0, 0⟩ := by
    unfold BecomesVerified
    decide +kernel
  obtain ⟨_, -, mail, sent, -, address, -⟩ := every (replacedUnmailed.take 3) (.verifyEmail "a") [] rfl _ becomes
  have toOld : ∀ mail ∈ ((addressMachine plainAddresses true 0).run (replacedUnmailed.take 3)).sent,
      mail.address = "old@space" := by
    decide +kernel
  have both := (toOld mail sent).symm.trans address
  cases (by decide : "old@space" ≠ "new@space") both

end CoopSpaces

import CoopSpaces.Lib.Since
import CoopSpaces.Server.Handler

namespace CoopSpaces

/-- A reset link's row. The link itself is in the mail and nowhere else. -/
structure PasswordResetToken (Uuid : Type) where
  userId : Uuid
  tokenHash : String
  expiresAt : Int
  usedAt : Option Int
  deriving DecidableEq

structure ResetTables (Uuid : Type) where
  db : DatabaseManager Uuid
  tokens : List (PasswordResetToken Uuid)
  clock : Int

/-- What is written at one time. The transaction that stores a token spends, of the user's tokens, those that its
first statement has found: it does not see one that another transaction stores meanwhile. -/
inductive ResetStatement (Uuid : Type)
  | createPasswordResetToken (row : PasswordResetToken Uuid) (found : List String)
  | claimPasswordResetToken (hash : String)
  | updateUser (userId : Uuid) (updates : UpdateUser)
  | tick (micros : Nat)

structure ResetRules where
  resetAvailable : Bool
  passwordMinLength : Nat
  hashToken : String → String
  collation : Collation

def resetTokenTtlMicros : Int := 60 * 60 * 1000000

/-- A request comes with what the throttle says of it and the token it would mail; a claim with what hashing the new
password comes to. -/
inductive ResetRequest
  | passwordResetRequest (email : String) (throttled : Option Nat) (token : String)
  | passwordResetConsume (token newPassword : String) (passwordHash : Option String)
  | tick (micros : Nat)

abbrev ResetRoutine (Uuid : Type) :=
  Routine (ResetTables Uuid) (ResetStatement Uuid) (Except DbError (Option Uuid)) (Except PublicError Unit)

/-- The address row itself, compared as the index does. -/
def DatabaseManager.findUserEmail {Uuid : Type} (db : DatabaseManager Uuid) (collation : Collation) (email : String) :
    Option (UserEmail Uuid) :=
  db.userEmails.find? fun row => collation.lower row.email = collation.toLowercase (trim email)

def PasswordResetToken.live {Uuid : Type} (row : PasswordResetToken Uuid) (clock : Int) : Bool :=
  row.usedAt.isNone && decide (clock < row.expiresAt)

namespace ResetTables
variable {Uuid : Type} [DecidableEq Uuid] (w : ResetTables Uuid)

/-- Of the unused tokens, those that match are used as of now. -/
def spend (matched : PasswordResetToken Uuid → Bool) : List (PasswordResetToken Uuid) :=
  w.tokens.map fun row => if row.usedAt.isNone && matched row then { row with usedAt := some w.clock } else row

def perform : ResetStatement Uuid → ResetTables Uuid × Except DbError (Option Uuid)
  | .createPasswordResetToken row found =>
    if w.tokens.any fun other => other.tokenHash = row.tokenHash then (w, .error .uniqueViolation)
    else if (w.db.findUserById row.userId).isNone then (w, .error .foreignKeyViolation)
    else
      ({ w with tokens := w.spend (fun other =>
          decide (other.userId = row.userId) && found.contains other.tokenHash) ++ [row] }, .ok none)
  | .claimPasswordResetToken hash =>
    match w.tokens.find? fun row => row.tokenHash = hash && row.live w.clock with
    | none => (w, .ok none)
    | some row =>
      ({ w with tokens := w.spend fun other => decide (other.tokenHash = hash) && other.live w.clock },
      .ok (some row.userId))
  | .updateUser userId updates =>
    match w.db.updateUser userId updates with
    | .error e => (w, .error e)
    | .ok made => ({ w with db := made.1 }, .ok none)
  | .tick micros => ({ w with clock := w.clock + micros }, .ok none)

/-- The tokens that would still let their holder set a password. -/
def liveTokens (userId : Uuid) : List (PasswordResetToken Uuid) :=
  w.tokens.filter fun row => decide (row.userId = userId) && row.live w.clock

end ResetTables

namespace ResetRoutine
variable {Uuid : Type} [DecidableEq Uuid] (rules : ResetRules)

def refuse (error : ApiError) : ResetRoutine Uuid := .done (.error (.api error))

/-- A statement, and what is done with its answer once it has gone through. -/
def sendReset (statement : ResetStatement Uuid) (next : Option Uuid → ResetRoutine Uuid) : ResetRoutine Uuid :=
  .write statement fun reply =>
    match reply with
    | .error e => refuse (.ofDb e)
    | .ok answer => next answer

/-- It answers alike whether or not the address belongs to an account. -/
def passwordResetRequest (email : String) (throttled : Option Nat) (token : String) : ResetRoutine Uuid :=
  if !rules.resetAvailable then refuse (.forbidden "Password reset is not available on this instance")
  else
    let address := rules.collation.toLowercase (trim email)
    match throttled with
    | some seconds =>
      .done (.error (.tooManyRequests s!"Too many password reset requests. Try again in {seconds} seconds"))
    | none => .read fun w =>
      match (w.db.findUserEmail rules.collation address).filter fun row => row.isPrimary || row.verifiedAt.isSome with
      | none => .done (.ok ())
      | some row => .read fun w =>
        if (w.db.findUserById row.userId).isNone then .done (.ok ())
        else .read fun w =>
          let expiresAt := w.clock + resetTokenTtlMicros
          .read fun w =>
            let found := (w.tokens.filter fun old => decide (old.userId = row.userId) &&
              old.usedAt.isNone).map (·.tokenHash)
            sendReset (.createPasswordResetToken ⟨row.userId, rules.hashToken token, expiresAt, none⟩ found)
              fun _ => .done (.ok ())

/-- The token is spent before the password is set, and no session is given for it. -/
def passwordResetConsume (token newPassword : String) (passwordHash : Option String) : ResetRoutine Uuid :=
  if !rules.resetAvailable then refuse (.forbidden "Password reset is not available on this instance")
  else if newPassword.utf8ByteSize < rules.passwordMinLength then
    .done (.error (.validationError s!"Password must be at least {rules.passwordMinLength} characters long"))
  else sendReset (.claimPasswordResetToken (rules.hashToken (trim token))) fun claimed =>
    match claimed with
    | none => refuse (.badRequest "This password reset link is invalid or has expired. Request a new one.")
    | some userId =>
      match passwordHash with
      | none => refuse (.internalServerError "Failed to hash password")
      | some passwordHash =>
        sendReset (.updateUser userId ⟨none, some passwordHash, none, none⟩) fun _ => .done (.ok ())

def serve : ResetRequest → ResetRoutine Uuid
  | .passwordResetRequest email throttled token => passwordResetRequest rules email throttled token
  | .passwordResetConsume token newPassword passwordHash => passwordResetConsume rules token newPassword passwordHash
  | .tick micros => .write (.tick micros) fun _ => .done (.ok ())

end ResetRoutine

def resetService {Uuid : Type} [DecidableEq Uuid] (rules : ResetRules) :
    Service (ResetTables Uuid) (ResetStatement Uuid) (Except DbError (Option Uuid))
      (Except PublicError Unit) ResetRequest where
  perform := ResetTables.perform
  serve := ResetRoutine.serve rules

inductive ResetNote
  | issued (hash : String)
  | reset (hash : String)
  deriving DecidableEq

def ResetNote.IsReset : ResetNote → Prop
  | .issued _ => False
  | .reset _ => True

section Runs
variable {Uuid : Type} [DecidableEq Uuid] (rules : ResetRules) (userId : Uuid)

abbrev ResetEvent := Service.Event ResetRequest

abbrev ResetPool (Uuid : Type) :=
  Service.Pool (ResetTables Uuid) (ResetStatement Uuid) (Except DbError (Option Uuid))
    (Except PublicError Unit) ResetRequest

/-- The token of a claim that has been granted and is about to set the member's password. -/
def heldBy : ResetRequest × ResetRoutine Uuid → Option String
  | (.passwordResetConsume token _ _, .write (.updateUser named _) _) =>
    if named = userId then some (rules.hashToken (trim token)) else none
  | _ => none

def ResetTables.goesThrough (w : ResetTables Uuid) (change : ResetStatement Uuid) : Bool := (w.perform change).2.isOk

/-- What a step of a request does to the member's links: one is issued, or one sets the password. -/
def noteOf (w : ResetTables Uuid) : ResetRequest × ResetRoutine Uuid → List ResetNote
  | (_, .write (.createPasswordResetToken row found) _) =>
    if row.userId = userId && w.goesThrough (.createPasswordResetToken row found) then [.issued row.tokenHash] else []
  | (request, .write (.updateUser named updates) k) =>
    if w.goesThrough (.updateUser named updates)
      then (heldBy rules userId (request, .write (.updateUser named updates) k)).toList.map .reset
    else []
  | _ => []

def watchReset (pool : ResetPool Uuid) : ResetEvent → List ResetNote
  | .arrive _ => []
  | .step index => (pool.tasks[index]?.map (noteOf rules userId pool.state)).getD []

variable (start : ResetTables Uuid)

def resetPool (past : List ResetEvent) : ResetPool Uuid := ((resetService rules).machine start).run past

def resetNotes (past : List ResetEvent) : List ResetNote :=
  ((resetService rules).machine start).history (watchReset rules userId) past

/-- Of a member's links one at most is good at a time; each sets the password once at most; and one that was
issued before the password was last set by another never sets it again. -/
structure OneLinkOneUse (past : List ResetEvent) : Prop where
  live : ((resetPool rules start past).state.liveTokens userId).length ≤ 1
  once : ∀ hash, (resetNotes rules userId start past).count (.reset hash) ≤ 1
  latest : ∀ hash, Parted ResetNote.IsReset (· = .reset hash) (· = .issued hash) (resetNotes rules userId start past)

/-- A token is stored over good ones only if the request has found them all, and a password is set only while the
member has no good token and no other claim about to set it. -/
def inTurnFor (w : ResetTables Uuid) (held : List String) : ResetRequest × ResetRoutine Uuid → Bool
  | (_, .write (.createPasswordResetToken row found) _) =>
    row.userId ≠ userId || (w.liveTokens userId).all fun old => found.contains old.tokenHash
  | (_, .write (.updateUser named _) _) => named ≠ userId || ((w.liveTokens userId).isEmpty && held.length ≤ 1)
  | _ => true

def heldLinks (pool : ResetPool Uuid) : List String := pool.tasks.filterMap (heldBy rules userId)

def stepInTurn (pool : ResetPool Uuid) : ResetEvent → Bool
  | .arrive _ => true
  | .step index => pool.tasks[index]?.all (inTurnFor userId pool.state (heldLinks rules userId pool))

def ResetInTurn (past : List ResetEvent) (event : ResetEvent) : Prop :=
  stepInTurn rules userId (resetPool rules start past) event = true

end Runs

/-- A member's links: the tokens, those that granted claims hold, and what has been done with them. -/
structure LinkBook (Uuid : Type) where
  tables : ResetTables Uuid
  held : List String
  notes : List ResetNote

namespace LinkBook
variable {Uuid : Type} [DecidableEq Uuid]

def Spent (book : LinkBook Uuid) (hash : String) : Prop :=
  ∃ row ∈ book.tables.tokens, row.tokenHash = hash ∧ row.usedAt.isSome = true

def liveHashes (book : LinkBook Uuid) (userId : Uuid) : List String :=
  (book.tables.liveTokens userId).map (·.tokenHash)

/-- A token that is good or held has been issued since the last reset, and a held or used one is not good. -/
structure Kept (userId : Uuid) (book : LinkBook Uuid) : Prop where
  hashes : (book.tables.tokens.map (·.tokenHash)).Nodup
  single : (book.tables.liveTokens userId).length ≤ 1
  heldOnce : book.held.Nodup
  heldSpent : ∀ hash ∈ book.held, book.Spent hash
  resetSpent : ∀ hash, .reset hash ∈ book.notes → book.Spent hash ∧ hash ∉ book.held
  once : ∀ hash, book.notes.count (.reset hash) ≤ 1
  current : ∀ hash, hash ∈ book.liveHashes userId ∨ hash ∈ book.held →
    ¬ Since (fun _ note => note.IsReset) (fun later => ¬ later = .issued hash) book.notes
  latest : ∀ hash, Parted ResetNote.IsReset (· = .reset hash) (· = .issued hash) book.notes

variable {userId : Uuid} {book after : LinkBook Uuid}

/-- The tokens as they may come to be without one being issued: keyed, the used ones still there, and none good
that was not. -/
structure Wanes (userId : Uuid) (book after : LinkBook Uuid) : Prop where
  hashes : (after.tables.tokens.map (·.tokenHash)).Nodup
  live : (after.tables.liveTokens userId).Sublist (book.tables.liveTokens userId)
  spent : ∀ hash, book.Spent hash → after.Spent hash

/-- Nothing of the member's is done; a claim may be given up. -/
theorem Kept.wane (kept : book.Kept userId) (wanes : Wanes userId book after) (held : after.held.Sublist book.held)
    (notes : after.notes = book.notes) : after.Kept userId := by
  refine ⟨wanes.hashes, ?_, kept.heldOnce.sublist held, ?_, ?_, ?_, ?_, ?_⟩
  · exact wanes.live.length_le.trans kept.single
  · exact fun hash member => wanes.spent hash (kept.heldSpent hash (held.subset member))
  · intro hash reset
    rw [notes] at reset
    obtain ⟨spent, free⟩ := kept.resetSpent hash reset
    exact ⟨wanes.spent hash spent, fun member => free (held.subset member)⟩
  · rw [notes]
    exact kept.once
  · intro hash potential
    rw [notes]
    refine kept.current hash ?_
    rcases potential with live | member
    · exact .inl ((wanes.live.map _).subset live)
    · exact .inr (held.subset member)
  · rw [notes]
    exact kept.latest

/-- A token is issued, and is the one good one. -/
theorem Kept.issue (kept : book.Kept userId) {hash : String} (hashes : (after.tables.tokens.map (·.tokenHash)).Nodup)
    (live : ∀ row ∈ after.tables.liveTokens userId, row.tokenHash = hash)
    (single : (after.tables.liveTokens userId).length ≤ 1)
    (spent : ∀ hash, book.Spent hash → after.Spent hash) (held : after.held = book.held)
    (notes : after.notes = book.notes ++ [.issued hash]) : after.Kept userId := by
  have unlike : ∀ other, ResetNote.reset other ≠ .issued hash := fun other same => by cases same
  refine ⟨hashes, single, held ▸ kept.heldOnce, ?_, ?_, ?_, ?_, ?_⟩
  · intro other member
    rw [held] at member
    exact spent other (kept.heldSpent other member)
  · intro other reset
    rw [notes] at reset
    rcases List.mem_append.mp reset with old | new
    · obtain ⟨wasSpent, free⟩ := kept.resetSpent other old
      exact ⟨spent other wasSpent, held ▸ free⟩
    · exact absurd (List.mem_singleton.mp new) (unlike other)
  · intro other
    rw [notes, List.count_append, List.count_singleton, if_neg (by simp)]
    exact kept.once other
  · intro other potential
    rw [notes, Since.snoc_iff]
    rintro (isReset | ⟨since, notIssued⟩)
    · exact isReset
    · rcases potential with isLive | member
      · obtain ⟨row, inLive, rfl⟩ := List.mem_map.mp isLive
        exact notIssued (congrArg ResetNote.issued (live row inLive).symm)
      · rw [held] at member
        exact kept.current other (.inr member) since
  · intro other
    rw [notes]
    exact (kept.latest other).snoc fun isReset => absurd isReset.symm (unlike other)

/-- A good token is claimed: it is used, and held from now on. -/
theorem Kept.claim (kept : book.Kept userId) (wanes : Wanes userId book after) {hash : String}
    {front back : List String}
    (was : hash ∈ book.liveHashes userId) (unspent : ¬ book.Spent hash) (spent : after.Spent hash)
    (before : book.held = front ++ back) (held : after.held = front ++ hash :: back)
    (notes : after.notes = book.notes) :
    after.Kept userId := by
  have fresh : hash ∉ book.held := fun member => unspent (kept.heldSpent hash member)
  have order : after.held.Perm (hash :: book.held) := by
    rw [held, before]
    exact List.perm_middle
  refine ⟨wanes.hashes, ?_, ?_, ?_, ?_, ?_, ?_, ?_⟩
  · exact wanes.live.length_le.trans kept.single
  · exact order.nodup_iff.mpr (List.nodup_cons.mpr ⟨fresh, kept.heldOnce⟩)
  · intro other member
    rcases List.mem_cons.mp (order.subset member) with rfl | old
    · exact spent
    · exact wanes.spent other (kept.heldSpent other old)
  · intro other reset
    rw [notes] at reset
    obtain ⟨wasSpent, free⟩ := kept.resetSpent other reset
    refine ⟨wanes.spent other wasSpent, fun member => ?_⟩
    rcases List.mem_cons.mp (order.subset member) with rfl | old
    · exact unspent wasSpent
    · exact free old
  · rw [notes]
    exact kept.once
  · intro other potential
    rw [notes]
    refine kept.current other ?_
    rcases potential with live | member
    · exact .inl ((wanes.live.map _).subset live)
    · rcases List.mem_cons.mp (order.subset member) with rfl | old
      · exact .inl was
      · exact .inr old
  · rw [notes]
    exact kept.latest

/-- A held token sets the password while no other is good or held. -/
theorem Kept.reset (kept : book.Kept userId) {hash : String} (tables : after.tables.tokens = book.tables.tokens)
    (none_ : after.tables.liveTokens userId = []) (before : book.held = [hash]) (held : after.held = [])
    (notes : after.notes = book.notes ++ [.reset hash]) : after.Kept userId := by
  have spent : ∀ other, after.Spent other ↔ book.Spent other := by
    intro other
    unfold Spent
    rw [tables]
  have isHeld : hash ∈ book.held := by
    rw [before]
    exact List.mem_singleton_self hash
  have unset : .reset hash ∉ book.notes := fun reset => (kept.resetSpent hash reset).2 isHeld
  refine ⟨tables ▸ kept.hashes, ?_, ?_, ?_, ?_, ?_, ?_, ?_⟩
  · rw [none_]
    exact Nat.zero_le 1
  · rw [held]
    exact .nil
  · intro other member
    rw [held] at member
    cases member
  · intro other reset
    rw [notes] at reset
    rw [held]
    refine ⟨(spent other).mpr ?_, List.not_mem_nil⟩
    rcases List.mem_append.mp reset with old | new
    · exact (kept.resetSpent other old).1
    · obtain rfl := ResetNote.reset.inj (List.mem_singleton.mp new)
      exact kept.heldSpent other isHeld
  · intro other
    rw [notes, List.count_append]
    by_cases same : other = hash
    · subst same
      have never : book.notes.count (.reset other) = 0 := List.count_eq_zero.mpr unset
      have one : [ResetNote.reset other].count (.reset other) = 1 := List.count_singleton_self
      omega
    · have unlike : ResetNote.reset other ∉ [ResetNote.reset hash] := fun member =>
        same (ResetNote.reset.inj (List.mem_singleton.mp member))
      have none_ : [ResetNote.reset hash].count (.reset other) = 0 := List.count_eq_zero.mpr unlike
      have before := kept.once other
      omega
  · rintro other (live | member)
    · unfold liveHashes at live
      rw [none_] at live
      cases live
    · rw [held] at member
      cases member
  · intro other
    rw [notes]
    refine (kept.latest other).snoc fun isReset => ?_
    obtain rfl := ResetNote.reset.inj isReset
    exact kept.current hash (.inr isHeld)

end LinkBook

namespace ResetTables
variable {Uuid : Type} [DecidableEq Uuid] {w : ResetTables Uuid} {userId : Uuid}
    {matched : PasswordResetToken Uuid → Bool}

omit [DecidableEq Uuid] in
theorem hashes_spend : (w.spend matched).map (·.tokenHash) = w.tokens.map (·.tokenHash) := by
  unfold spend
  rw [List.map_map]
  refine List.map_congr_left fun row _ => ?_
  simp only [Function.comp_apply]
  split
  · rfl
  · rfl

omit [DecidableEq Uuid] in
theorem spent_spend {row : PasswordResetToken Uuid} (member : row ∈ w.tokens) :
    ∃ same ∈ w.spend matched, same.tokenHash = row.tokenHash ∧
      (row.usedAt.isSome = true ∨ matched row = true → same.usedAt.isSome = true) := by
  refine ⟨_, List.mem_map_of_mem member, ?_⟩
  by_cases spends : (row.usedAt.isNone && matched row) = true
  · rw [if_pos spends]
    exact ⟨rfl, fun _ => rfl⟩
  · rw [if_neg spends]
    refine ⟨rfl, fun used => ?_⟩
    cases shape : row.usedAt with
    | some at_ => rfl
    | none =>
      rw [shape] at used spends
      rcases used with isSome | matches_
      · cases isSome
      · exact absurd matches_ (by simpa using spends)

/-- What is good after a change of the rows, and later, was so before. -/
theorem live_map_sublist {rows : List (PasswordResetToken Uuid)}
    {change : PasswordResetToken Uuid → PasswordResetToken Uuid}
    {clock later : Int} (used : ∀ row, change row = row ∨ (change row).usedAt.isSome = true) (on : clock ≤ later) :
    ((rows.map change).filter fun row => decide (row.userId = userId) && row.live later).Sublist
      (rows.filter fun row => decide (row.userId = userId) && row.live clock) := by
  induction rows with
  | nil => exact .slnil
  | cons row rest ih =>
    rw [List.map_cons, List.filter_cons]
    split
    next good =>
      simp only [PasswordResetToken.live, Bool.and_eq_true, decide_eq_true_eq] at good
      rcases used row with same | isUsed
      · rw [same] at good ⊢
        have before : clock < row.expiresAt := by omega
        rw [List.filter_cons, if_pos (by simp [PasswordResetToken.live, good.1, good.2.1, before])]
        exact ih.cons_cons row
      · rw [Option.isNone_iff_eq_none.mp good.2.1] at isUsed
        cases isUsed
    next =>
      rw [List.filter_cons]
      split
      · exact ih.cons row
      · exact ih

omit [DecidableEq Uuid] in
theorem spend_used (row : PasswordResetToken Uuid) :
    (if row.usedAt.isNone && matched row then { row with usedAt := some w.clock } else row) = row ∨
      (if row.usedAt.isNone && matched row then { row with usedAt := some w.clock } else row).usedAt.isSome =
        true := by
  split
  · exact .inr rfl
  · exact .inl rfl

theorem liveTokens_spend {found : List String} (all : ∀ old ∈ w.liveTokens userId, old.tokenHash ∈ found) :
    liveTokens
      { w with tokens := w.spend fun other => decide (other.userId = userId) && found.contains other.tokenHash }
        userId = [] := by
  refine List.filter_eq_nil_iff.mpr fun same member good => ?_
  obtain ⟨old, listed, rfl⟩ := List.mem_map.mp member
  simp only [Bool.and_eq_true, decide_eq_true_eq, PasswordResetToken.live] at good
  split at good
  next => cases good.2.1
  next unspent =>
    have wasLive : old ∈ w.liveTokens userId := by
      refine List.mem_filter.mpr ⟨listed, ?_⟩
      simp [PasswordResetToken.live, good]
    refine unspent ?_
    simp [good.2.1, good.1, all old wasLive]

end ResetTables

namespace LinkBook
variable {Uuid : Type} [DecidableEq Uuid] {userId : Uuid} {w : ResetTables Uuid} {held : List String}
    {notes : List ResetNote}

theorem wanes_spend {matched : PasswordResetToken Uuid → Bool} {other : List String} {more : List ResetNote}
    (kept : (LinkBook.mk w held notes).Kept userId) :
    Wanes userId ⟨w, held, notes⟩ ⟨{ w with tokens := w.spend matched }, other, more⟩ := by
  refine ⟨?_, ResetTables.live_map_sublist ResetTables.spend_used (Int.le_refl _), ?_⟩
  · show ((w.spend matched).map _).Nodup
    rw [ResetTables.hashes_spend]
    exact kept.hashes
  · rintro hash ⟨row, member, rfl, used⟩
    obtain ⟨same, listed, sameHash, spent⟩ := @ResetTables.spent_spend _ w matched row member
    exact ⟨same, listed, sameHash, spent (.inl used)⟩

/-- A token is stored, or refused. -/
theorem Kept.create (kept : (LinkBook.mk w held notes).Kept userId) {row : PasswordResetToken Uuid}
    {found : List String}
    (turn : row.userId ≠ userId ∨ ∀ old ∈ w.liveTokens userId, old.tokenHash ∈ found) :
    (LinkBook.mk (w.perform (.createPasswordResetToken row found)).1 held
      (notes ++ if row.userId = userId && w.goesThrough (.createPasswordResetToken row found) then
        [.issued row.tokenHash] else [])).Kept
        userId := by
  unfold ResetTables.goesThrough
  simp only [ResetTables.perform]
  split
  · simpa [Except.isOk, Except.toBool] using kept
  next fresh =>
    split
    · simpa [Except.isOk, Except.toBool] using kept
    · have wanes := @wanes_spend _ _ userId w held notes
        (fun other => decide (other.userId = row.userId) && found.contains other.tokenHash)
        held notes kept
      generalize spends : (w.spend fun other => decide (other.userId = row.userId) &&
        found.contains other.tokenHash) = spent at wanes ⊢
      have hashes : ((spent ++ [row]).map (·.tokenHash)).Nodup := by
        rw [List.map_append, List.nodup_append]
        refine ⟨wanes.hashes, List.nodup_singleton _, ?_⟩
        intro one member other isRow same
        rw [← spends, ResetTables.hashes_spend] at member
        obtain ⟨old, listed, rfl⟩ := List.mem_map.mp member
        obtain rfl := List.mem_singleton.mp isRow
        exact fresh (List.any_eq_true.mpr ⟨old, listed, decide_eq_true same⟩)
      have live : ResetTables.liveTokens { w with tokens := spent ++ [row] } userId =
          ResetTables.liveTokens { w with tokens := spent } userId ++
            [row].filter fun row => decide (row.userId = userId) && row.live w.clock := List.filter_append ..
      have stays : ∀ hash, (LinkBook.mk w held notes).Spent hash →
          ∃ row' ∈ spent ++ [row], row'.tokenHash = hash ∧ row'.usedAt.isSome = true := by
        intro hash was
        obtain ⟨old, member, sameHash, used⟩ := wanes.spent hash was
        exact ⟨old, List.mem_append_left _ member, sameHash, used⟩
      by_cases mine : row.userId = userId
      · -- The request has found every good token, so none is left beside the new one.
        subst mine
        have none_ := ResetTables.liveTokens_spend (turn.resolve_left fun other => other rfl)
        rw [spends] at none_
        rw [none_, List.nil_append] at live
        have notesAre :
          (if (decide (row.userId = row.userId) && (Except.ok none : Except DbError (Option Uuid)).isOk) = true then
            [ResetNote.issued row.tokenHash] else []) = [.issued row.tokenHash] := by
          rw [decide_eq_true rfl]
          rfl
        rw [notesAre]
        refine kept.issue hashes ?_ ?_ stays rfl rfl
        · intro one member
          rw [live] at member
          obtain rfl := List.mem_singleton.mp (List.mem_filter.mp member).1
          rfl
        · rw [live]
          exact List.length_filter_le _ _
      · have notesAre :
          (if (decide (row.userId = userId) && (Except.ok none : Except DbError (Option Uuid)).isOk) = true then
            [ResetNote.issued row.tokenHash] else []) = [] := by
          rw [decide_eq_false mine]
          rfl
        rw [notesAre, List.append_nil]
        refine kept.wane ⟨hashes, ?_, stays⟩ (List.Sublist.refl _) rfl
        have notMine : ([row].filter fun row => decide (row.userId = userId) && row.live w.clock) = [] := by
          rw [List.filter_cons_of_neg (by simp [mine])]
          rfl
        show (ResetTables.liveTokens { w with tokens := spent ++ [row] } userId).Sublist _
        rw [live, notMine, List.append_nil]
        exact wanes.live

/-- A claim of a token: refused, or the token is held by the claim from now on, if it goes on to set the password. -/
theorem Kept.grant (kept : (LinkBook.mk w held notes).Kept userId) {hash : String} {front back : List String}
    (split_ : held = front ++ back) :
    (w.perform (.claimPasswordResetToken hash)).2 = .ok none ∧ (w.perform (.claimPasswordResetToken hash)).1 = w ∨
      ∃ named, (w.perform (.claimPasswordResetToken hash)).2 = .ok (some named) ∧
        (LinkBook.mk (w.perform (.claimPasswordResetToken hash)).1 held notes).Kept userId ∧
        (named = userId → (LinkBook.mk (w.perform (.claimPasswordResetToken hash)).1
          (front ++ hash :: back) notes).Kept userId) := by
  simp only [ResetTables.perform]
  split
  next => exact .inl ⟨rfl, rfl⟩
  next row search =>
    have isIt := List.find?_some search
    simp only [Bool.and_eq_true, decide_eq_true_eq] at isIt
    obtain ⟨sameHash, good⟩ := isIt
    have listed := List.mem_of_find?_eq_some search
    refine .inr ⟨row.userId, rfl, kept.wane (wanes_spend kept) (List.Sublist.refl _) rfl, fun mine => ?_⟩
    refine kept.claim (wanes_spend kept) ?_ ?_ ?_ split_ rfl rfl
    · refine List.mem_map.mpr ⟨row, List.mem_filter.mpr ⟨listed, ?_⟩, sameHash⟩
      rw [decide_eq_true mine, good]
      rfl
    · rintro ⟨other, also, otherHash, used⟩
      obtain rfl := List.inj_on_of_nodup_map kept.hashes also listed (otherHash.trans sameHash.symm)
      simp only [PasswordResetToken.live, Bool.and_eq_true, Option.isNone_iff_eq_none] at good
      rw [good.1] at used
      cases used
    · obtain ⟨same, member, hashIs, spent⟩ :=
        @ResetTables.spent_spend _ w (fun other => decide (other.tokenHash = hash) && other.live w.clock)
        row listed
      exact ⟨same, member, hashIs.trans sameHash, spent (.inr (by simp [sameHash, good]))⟩

theorem Kept.tick (kept : (LinkBook.mk w held notes).Kept userId) (micros : Nat) :
    (LinkBook.mk (w.perform (.tick micros)).1 held notes).Kept userId := by
  refine kept.wane ⟨kept.hashes, ?_, fun hash spent => spent⟩ (List.Sublist.refl _) rfl
  have live := @ResetTables.live_map_sublist _ _ userId w.tokens id w.clock (w.clock + micros)
    (fun row => .inl rfl) (by omega)
  rw [List.map_id] at live
  exact live

end LinkBook

namespace ResetRoutine
variable {Uuid : Type}

/-- Nothing but storing tokens, and the passing of time. -/
def Other : ResetStatement Uuid → Prop
  | .createPasswordResetToken _ _ => True
  | .tick _ => True
  | _ => False

/-- A granted claim, about to set a password. -/
def Sets (routine : ResetRoutine Uuid) : Prop :=
  ∃ userId updates next, routine = .write (.updateUser userId updates) next ∧
    ∀ reply, ∃ answer, next reply = .done answer

/-- A claim still to be made, which sets a password only if it is granted. -/
def Claims (hash : String) : ResetRoutine Uuid → Prop
  | .done _ => True
  | .read next => ∀ w, Claims hash (next w)
  | .write change next => change = .claimPasswordResetToken hash ∧ ∀ reply, (∃ answer, next reply = .done answer) ∨
      ∃ userId updates rest, reply = .ok (some userId) ∧ next reply = .write (.updateUser userId updates) rest ∧
        ∀ reply, ∃ answer, rest reply = .done answer

/-- How far a request has come. -/
def Stage (rules : ResetRules) : ResetRequest × ResetRoutine Uuid → Prop
  | (.passwordResetConsume token _ _, routine) => Claims (rules.hashToken (trim token)) routine ∨ Sets routine
  | (_, routine) => routine.Meets (fun _ => True) Other fun _ => True

variable [DecidableEq Uuid] {rules : ResetRules} {userId : Uuid}

theorem heldBy_claims {hash token newPassword : String} {passwordHash : Option String} {routine : ResetRoutine Uuid}
    (claims : Claims hash routine) :
    heldBy rules userId (.passwordResetConsume token newPassword passwordHash, routine) = none := by
  cases routine with
  | done answer => rfl
  | read next => rfl
  | write change next =>
    rw [claims.1]
    rfl

omit [DecidableEq Uuid] in
theorem sendReset_done (statement : ResetStatement Uuid) :
    ∃ rest, sendReset statement (fun _ => .done (.ok ())) = .write statement rest ∧
    ∀ reply, ∃ answer, rest reply = .done answer := by
  refine ⟨_, rfl, fun reply => ?_⟩
  cases reply with
  | error e => exact ⟨_, rfl⟩
  | ok _ => exact ⟨_, rfl⟩

omit [DecidableEq Uuid] in
theorem claims_consume (token newPassword : String) (passwordHash : Option String) :
    Claims (rules.hashToken (trim token))
      (passwordResetConsume rules token newPassword passwordHash : ResetRoutine Uuid) := by
  unfold passwordResetConsume
  split
  · trivial
  · split
    · trivial
    · refine ⟨rfl, fun reply => ?_⟩
      cases reply with
      | error e => exact .inl ⟨_, rfl⟩
      | ok claimed =>
        cases claimed with
        | none => exact .inl ⟨_, rfl⟩
        | some named =>
          cases passwordHash with
          | none => exact .inl ⟨_, rfl⟩
          | some hash =>
            obtain ⟨rest, sets, ends⟩ :=
              sendReset_done (ResetStatement.updateUser named ⟨none, some hash, none, none⟩)
            exact .inr ⟨named, _, rest, rfl, sets, ends⟩

theorem stage_serve (request : ResetRequest) : Stage rules (request, (serve rules request : ResetRoutine Uuid)) := by
  cases request with
  | passwordResetRequest email throttled token =>
    show (passwordResetRequest rules email throttled token : ResetRoutine Uuid).Meets _ _ _
    unfold passwordResetRequest
    split
    · trivial
    · dsimp only
      split
      · trivial
      · intro w _
        dsimp only
        split
        · trivial
        · intro w _
          dsimp only
          split
          · trivial
          · intro w _ w _
            refine ⟨trivial, fun reply => ?_⟩
            cases reply with
            | error e => trivial
            | ok _ => trivial
  | passwordResetConsume token newPassword passwordHash =>
    exact .inl (claims_consume token newPassword passwordHash)
  | tick micros => exact ⟨trivial, fun _ => trivial⟩

end ResetRoutine

namespace LinkBook
variable {Uuid : Type} [DecidableEq Uuid] {rules : ResetRules} {userId : Uuid} {w : ResetTables Uuid}
    {notes : List ResetNote}

open ResetRoutine

/-- The password is set, or the account is gone. -/
theorem Kept.set {token newPassword : String} {passwordHash : Option String} {named : Uuid} {updates : UpdateUser}
    {next : Except DbError (Option Uuid) → ResetRoutine Uuid} {front back : List String}
    {answer : Except PublicError Unit}
    (kept : (LinkBook.mk w (front ++ (heldBy rules userId
      (.passwordResetConsume token newPassword passwordHash, .write (.updateUser named updates) next)).toList ++
        back) notes).Kept userId)
    (turn : inTurnFor userId w (front ++ (heldBy rules userId
      (.passwordResetConsume token newPassword passwordHash, .write (.updateUser named updates) next)).toList ++ back)
      (.passwordResetConsume token newPassword passwordHash, .write (.updateUser named updates) next) = true) :
    (LinkBook.mk (w.perform (.updateUser named updates)).1
      (front ++ (heldBy rules userId (.passwordResetConsume token newPassword passwordHash,
        (.done answer : ResetRoutine Uuid))).toList ++ back)
      (notes ++ noteOf rules userId w (.passwordResetConsume token newPassword passwordHash,
        .write (.updateUser named updates) next))).Kept
        userId := by
  have tokens : (w.perform (.updateUser named updates)).1.tokens = w.tokens ∧
      (w.perform (.updateUser named updates)).1.clock = w.clock := by
    simp only [ResetTables.perform]
    split
    · exact ⟨rfl, rfl⟩
    · exact ⟨rfl, rfl⟩
  have live : (w.perform (.updateUser named updates)).1.liveTokens userId = w.liveTokens userId := by
    unfold ResetTables.liveTokens
    rw [tokens.1, tokens.2]
  have gaveUp : (heldBy rules userId
    (.passwordResetConsume token newPassword passwordHash, (.done answer : ResetRoutine Uuid))) = none := rfl
  rw [gaveUp, Option.toList_none, List.append_nil]
  have wanes : ∀ other more,
      Wanes userId ⟨w, other, more⟩ ⟨(w.perform (.updateUser named updates)).1, front ++ back, more⟩ := by
    intro other more
    refine ⟨?_, ?_, fun hash spent => ?_⟩
    · show ((w.perform (.updateUser named updates)).1.tokens.map _).Nodup
      rw [tokens.1]
      exact kept.hashes
    · show List.Sublist ((w.perform (.updateUser named updates)).1.liveTokens userId) _
      rw [live]
    · show ∃ row ∈ (w.perform (.updateUser named updates)).1.tokens, _
      rw [tokens.1]
      exact spent
  have stillHeld : (front ++ back).Sublist (front ++ (heldBy rules userId
      (.passwordResetConsume token newPassword passwordHash, .write (.updateUser named updates) next)).toList ++
        back) :=
    (List.sublist_append_left _ _).append (List.Sublist.refl back)
  by_cases through : w.goesThrough (.updateUser named updates) = true
  · by_cases mine : named = userId
    · have holds : heldBy rules userId
        (.passwordResetConsume token newPassword passwordHash, .write (.updateUser named updates) next) =
          some (rules.hashToken (trim token)) := if_pos mine
      have noted : noteOf rules userId w
        (.passwordResetConsume token newPassword passwordHash, .write (.updateUser named updates) next) =
          [.reset (rules.hashToken (trim token))] := by
        simp only [noteOf, through, if_true, holds, Option.toList_some, List.map_cons, List.map_nil]
      rw [holds, Option.toList_some] at kept turn
      simp only [inTurnFor, mine, ne_eq, not_true_eq_false, decide_false, Bool.false_or, Bool.and_eq_true,
        decide_eq_true_eq, List.isEmpty_iff, List.length_append, List.length_singleton] at turn
      obtain ⟨noneLive, few⟩ := turn
      have noFront : front = [] := List.length_eq_zero_iff.mp (by omega)
      have noBack : back = [] := List.length_eq_zero_iff.mp (by omega)
      subst noFront
      subst noBack
      rw [noted]
      exact kept.reset tokens.1 (live.trans noneLive) rfl rfl rfl
    · have holds : heldBy rules userId (.passwordResetConsume token newPassword passwordHash,
          .write (.updateUser named updates) next) = none :=
        if_neg mine
      have noted : noteOf rules userId w (.passwordResetConsume token newPassword passwordHash,
          .write (.updateUser named updates) next) = [] := by
        simp only [noteOf, holds, Option.toList_none, List.map_nil, ite_self]
      rw [noted, List.append_nil]
      exact kept.wane (wanes _ _) stillHeld rfl
  · have noted : noteOf rules userId w (.passwordResetConsume token newPassword passwordHash,
        .write (.updateUser named updates) next) = [] := by
      simp only [noteOf, if_neg through]
    rw [noted, List.append_nil]
    exact kept.wane (wanes _ _) stillHeld rfl

/-- A step of a request that claims nothing. -/
theorem Kept.advance_other {request : ResetRequest} {routine : ResetRoutine Uuid}
    (meets : routine.Meets (fun _ => True) Other fun _ => True)
    {front back : List String}
    (kept : (LinkBook.mk w (front ++ (heldBy rules userId (request, routine)).toList ++ back) notes).Kept userId)
    (turn : inTurnFor userId w (front ++ (heldBy rules userId (request, routine)).toList ++ back)
      (request, routine) = true)
    (none_ : ∀ routine : ResetRoutine Uuid, heldBy rules userId (request, routine) = none) :
    (routine.advance ResetTables.perform w).2.Meets (fun _ => True) Other (fun _ => True) ∧
      (LinkBook.mk (routine.advance ResetTables.perform w).1
        (front ++ (heldBy rules userId (request, (routine.advance ResetTables.perform w).2)).toList ++ back)
        (notes ++ noteOf rules userId w (request, routine))).Kept userId := by
  rw [none_, Option.toList_none, List.append_nil] at kept turn ⊢
  cases routine with
  | done answer =>
    refine ⟨trivial, ?_⟩
    simpa [Routine.advance, noteOf] using kept
  | read next =>
    refine ⟨meets w trivial, ?_⟩
    simpa [Routine.advance, noteOf] using kept
  | write change next =>
    refine ⟨meets.2 _, ?_⟩
    simp only [Routine.advance]
    cases change with
    | createPasswordResetToken row found =>
      refine kept.create ?_
      simpa [inTurnFor, List.all_eq_true] using turn
    | tick micros =>
      have noNote : noteOf rules userId w (request, .write (.tick micros) next) = [] := rfl
      rw [noNote, List.append_nil]
      exact kept.tick micros
    | claimPasswordResetToken hash => exact absurd meets.1 id
    | updateUser named updates => exact absurd meets.1 id

/-- One step of a request, whatever the other claims hold. -/
theorem Kept.advance {request : ResetRequest} {routine : ResetRoutine Uuid}
    (stage : Stage rules (request, routine)) {front back : List String}
    (kept : (LinkBook.mk w (front ++ (heldBy rules userId (request, routine)).toList ++ back) notes).Kept userId)
    (turn : inTurnFor userId w (front ++ (heldBy rules userId (request, routine)).toList ++ back)
      (request, routine) = true) :
    Stage rules (request, (routine.advance ResetTables.perform w).2) ∧
      (LinkBook.mk (routine.advance ResetTables.perform w).1
        (front ++ (heldBy rules userId (request, (routine.advance ResetTables.perform w).2)).toList ++ back)
        (notes ++ noteOf rules userId w (request, routine))).Kept userId := by
  cases request with
  | passwordResetConsume token newPassword passwordHash =>
    rcases stage with claims | ⟨named, updates, next, rfl, ends⟩
    · have none_ := @heldBy_claims _ _ rules userId _ token newPassword passwordHash _ claims
      rw [none_, Option.toList_none, List.append_nil] at kept
      cases routine with
      | done answer =>
        refine ⟨.inl claims, ?_⟩
        simpa [Routine.advance, noteOf, heldBy] using kept
      | read next =>
        have later : Claims (rules.hashToken (trim token)) (next w) := claims w
        refine ⟨.inl later, ?_⟩
        have stillNone := @heldBy_claims _ _ rules userId _ token newPassword passwordHash _ later
        simpa [Routine.advance, noteOf, stillNone] using kept
      | write change next =>
        obtain ⟨rfl, replies⟩ := claims
        have noNote : noteOf rules userId w
            (.passwordResetConsume token newPassword passwordHash,
              .write (.claimPasswordResetToken (rules.hashToken (trim token))) next) = [] := rfl
        rw [noNote, List.append_nil]
        simp only [Routine.advance]
        rcases kept.grant rfl with ⟨refused, same⟩ | ⟨named, granted, wane, holds⟩
        · rw [refused, same]
          rcases replies (.ok none) with ⟨answer, ended⟩ | ⟨_, _, _, given, -, -⟩
          · rw [ended]
            refine ⟨.inl trivial, ?_⟩
            simpa [heldBy] using kept
          · cases given
        · rw [granted]
          rcases replies (.ok (some named)) with ⟨answer, ended⟩ | ⟨_, updates, rest, given, sets, ends⟩
          · rw [ended]
            refine ⟨.inl trivial, ?_⟩
            simpa [heldBy] using wane
          · obtain rfl := Option.some.inj (Except.ok.inj given)
            rw [sets]
            refine ⟨.inr ⟨_, _, _, rfl, ends⟩, ?_⟩
            by_cases mine : named = userId
            · simpa [heldBy, mine] using holds mine
            · simpa [heldBy, mine] using wane
    · obtain ⟨answer, ended⟩ := ends (w.perform (.updateUser named updates)).2
      simp only [Routine.advance]
      rw [ended]
      refine ⟨.inl trivial, ?_⟩
      exact kept.set turn
  | passwordResetRequest email throttled token =>
    have meets : routine.Meets (fun _ => True) Other fun _ => True := stage
    exact kept.advance_other meets turn (fun _ => rfl)
  | tick micros =>
    have meets : routine.Meets (fun _ => True) Other fun _ => True := stage
    exact kept.advance_other meets turn (fun _ => rfl)

end LinkBook

section Runs
variable {Uuid : Type} [DecidableEq Uuid] {rules : ResetRules} {userId : Uuid} {start : ResetTables Uuid}

/-- The links of a member in a pool, with every request at some stage of its own. -/
structure LinksUnderWay (rules : ResetRules) (userId : Uuid) (notes : List ResetNote)
    (pool : ResetPool Uuid) : Prop where
  stages : ∀ task ∈ pool.tasks, ResetRoutine.Stage rules task
  kept : (LinkBook.mk pool.state (heldLinks rules userId pool) notes).Kept userId

theorem LinksUnderWay.step {notes : List ResetNote} {pool : ResetPool Uuid}
    (way : LinksUnderWay rules userId notes pool) (event : ResetEvent)
    (turn : stepInTurn rules userId pool event = true) :
    LinksUnderWay rules userId (notes ++ watchReset rules userId pool event)
      ((resetService rules).step pool event).1 := by
  cases event with
  | arrive request =>
    have tasks := (resetService rules).tasks_arrive pool request
    have fresh : ResetRoutine.Stage rules (request, (ResetRoutine.serve rules request : ResetRoutine Uuid)) :=
      ResetRoutine.stage_serve request
    have noNote : watchReset rules userId pool (.arrive request) = [] := rfl
    rw [noNote, List.append_nil]
    refine ⟨(resetService rules).all_tasks_arrive way.stages fresh, ?_⟩
    · have nothing : heldBy rules userId (request, (resetService rules).serve request) = none := by
        cases request with
        | passwordResetConsume token newPassword passwordHash =>
          exact ResetRoutine.heldBy_claims (ResetRoutine.claims_consume token newPassword passwordHash)
        | passwordResetRequest email throttled token => rfl
        | tick micros => rfl
      have same : heldLinks rules userId ((resetService rules).step pool (.arrive request)).1 =
          heldLinks rules userId pool := by
        unfold heldLinks
        rw [tasks, List.filterMap_append, List.filterMap_cons_none nothing, List.filterMap_nil, List.append_nil]
      rw [same]
      exact way.kept
  | step index =>
    rcases found : pool.tasks[index]? with _ | ⟨request, routine⟩
    · have noNote : watchReset rules userId pool (.step index) = [] := by
        simp only [watchReset, found, Option.map_none, Option.getD_none]
      rw [(resetService rules).step_of_none found, noNote, List.append_nil]
      exact way
    · obtain ⟨state, -⟩ := (resetService rules).tasks_step found
      obtain ⟨front, back, split_, newTasks⟩ := (resetService rules).tasks_step_around found
      have noted : watchReset rules userId pool (.step index) = noteOf rules userId pool.state
          (request, routine) := by
        simp only [watchReset, found, Option.map_some, Option.getD_some]
      have held := Service.filterMap_around (@heldBy Uuid _ rules userId) front back
      have stage : ResetRoutine.Stage rules (request, routine) := way.stages _ (List.mem_of_getElem? found)
      have mine : pool.tasks[index]?.all (inTurnFor userId pool.state (heldLinks rules userId pool)) = true := turn
      have kept := way.kept
      rw [found] at mine
      unfold heldLinks at mine kept
      rw [split_, held] at mine kept
      obtain ⟨later, after⟩ := kept.advance stage mine
      refine ⟨(resetService rules).all_tasks_step found way.stages later, ?_⟩
      have newState : ((resetService rules).step pool (.step index)).1.state =
        (routine.advance ResetTables.perform pool.state).1 := state
      have newHeld := held (request, (routine.advance ResetTables.perform pool.state).2)
      unfold heldLinks
      rw [newState, noted]
      exact newTasks ▸ newHeld ▸ after

/-- From tokens under distinct hashes, one at most of them good, a member's links stay so as long as no token is
stored over a good one and no password is set while another link could set it again. -/
theorem one_link_one_use (rules : ResetRules) (userId : Uuid) (start : ResetTables Uuid)
    (hashes : (start.tokens.map (·.tokenHash)).Nodup) (single : (start.liveTokens userId).length ≤ 1)
    (events : List ResetEvent)
    (inTurn : EveryStep (ResetInTurn rules userId start) events) (past : List ResetEvent) (front : past <+: events) :
    OneLinkOneUse rules userId start past := by
  have way : LinksUnderWay rules userId (resetNotes rules userId start past) (resetPool rules start past) := by
    refine Machine.run_keeps_past ((resetService rules).machine start)
      (fun past pool => LinksUnderWay rules userId (resetNotes rules userId start past) pool) ?_ ?_ inTurn front
    · refine ⟨fun task member => ?_, ⟨hashes, single, .nil, ?_, ?_, ?_, ?_, ?_⟩⟩
      · cases member
      · intro hash member
        cases member
      · intro hash member
        cases member
      · exact fun hash => Nat.zero_le 1
      · exact fun hash _ => Since.not_nil
      · exact fun hash => Parted.nil
    · intro past event before law
      have notes : resetNotes rules userId start (past ++ [event]) =
          resetNotes rules userId start past ++ watchReset rules userId (resetPool rules start past) event :=
            Machine.history_snoc _ _ past event
      rw [notes]
      exact before.step event law
  exact ⟨way.kept.single, way.kept.once, way.kept.latest⟩

end Runs

def resetOn : ResetRules := ⟨true, 3, id, ⟨id, id⟩⟩

/-- One member, and no token. -/
def oneMember : ResetTables Nat where
  db := {
    users := AList.insert 2 ⟨"ada", "ada@space", "first", "Ada", true, 0⟩ ∅
    userEmails := [⟨2, "ada@space", true, some 0, 0⟩]
    roles := []
    permissions := []
    rolePermissions := []
    roleInheritance := []
    userRoles := []
    rbacGraph := .fromRows [] [] [] }
  tokens := []
  clock := 0

def askFor (token : String) : ResetEvent := .arrive (.passwordResetRequest "ada@space" none token)

def useOf (token password : String) : ResetEvent := .arrive (.passwordResetConsume token password (some password))

def stepsOf (order : List Nat) : List ResetEvent := order.map .step

/-- Two links, each asked for and used before the next. -/
def linkByLink : List ResetEvent :=
  [askFor "a", useOf "a" "one", askFor "b", useOf "b" "two"] ++ stepsOf [0, 0, 0, 0, 0, 1, 1, 2, 2, 2, 2, 2, 3, 3]

/-- Both requests look for older tokens before either stores its own. -/
def askedAtOnce : List ResetEvent := [askFor "a", askFor "b"] ++ stepsOf [0, 0, 0, 0, 1, 1, 1, 1, 0, 1]

/-- The first link is claimed, a second one asked for and used, and only then does the first set the password. -/
def setLate : List ResetEvent :=
  [askFor "a", useOf "a" "one", askFor "b", useOf "b" "two"] ++ stepsOf [0, 0, 0, 0, 0, 1, 2, 2, 2, 2, 2, 3, 3, 1]

theorem one_link_one_use_link_by_link : OneLinkOneUse resetOn 2 oneMember linkByLink := by
  have inTurn : ∀ n (bound : n < linkByLink.length),
      ResetInTurn resetOn 2 oneMember (linkByLink.take n) linkByLink[n] := by
    unfold ResetInTurn
    decide +kernel
  exact one_link_one_use resetOn 2 oneMember .nil (Nat.zero_le 1) linkByLink
    (EveryStep.of_getElem inTurn) linkByLink List.prefix_rfl

/-- Two links are good at once, or the older one has the last word. -/
theorem two_links_are_good : ¬ OneLinkOneUse resetOn 2 oneMember askedAtOnce ∧
    ¬ OneLinkOneUse resetOn 2 oneMember setLate ∧
    ((resetPool resetOn oneMember setLate).state.db.findUserById 2).map (·.passwordHash) = some "one" := by
  refine ⟨fun use => ?_, fun use => ?_, by decide +kernel⟩
  · have two : ((resetPool resetOn oneMember askedAtOnce).state.liveTokens 2).length = 2 := by decide +kernel
    have one := use.live
    omega
  · have notes : resetNotes resetOn 2 oneMember setLate =
      [.issued "a", .issued "b", .reset "b", .reset "a"] := by decide +kernel
    obtain ⟨note, member, -⟩ :=
      use.latest "a" [.issued "a", .issued "b"] (.reset "b") [] (.reset "a") [] notes trivial rfl
    cases member

end CoopSpaces

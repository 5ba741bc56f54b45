import CoopSpaces.Server.Dues

namespace CoopSpaces

namespace BillingRequest
variable {Uuid : Type}

/-- The next-due date an operation goes on to set, and whose it is. -/
def owes : BillingRoutine Uuid → Option (Uuid × Int)
  | .write (.setMembershipNextDue userId (some next)) _ => some (userId, next)
  | _ => none

/-- What is left of an operation after a change: its member's date to set, if that was a charge
and was taken, and none else. -/
def Pays (change : BillingWrite Uuid) (reply : Except DbError Nat) (rest : BillingRoutine Uuid) : Prop :=
  match change, reply with
  | .insertLedgerEntry entry, .ok _ =>
    if entry.entryType = .duesCharge then ∃ next, owes rest = some (entry.userId, next) else owes rest = none
  | _, _ => owes rest = none

/-- An operation that sets a date right after the dues it charges, and only there. -/
def Dutiful : BillingRoutine Uuid → Prop
  | .done _ => True
  | .read next => ∀ s, owes (next s) = none ∧ Dutiful (next s)
  | .write change next => ∀ reply, Pays change reply (next reply) ∧ Dutiful (next reply)

/-- Neither a charge of dues nor a date that was paid for. -/
def Free : BillingWrite Uuid → Prop
  | .insertLedgerEntry entry => entry.entryType ≠ .duesCharge
  | .setMembershipNextDue _ next => next = none
  | _ => True

theorem owes_of_meets {routine : BillingRoutine Uuid} (meets : routine.Meets (fun _ => True) Free fun _ => True) :
    owes routine = none := by
  cases routine with
  | done answer => rfl
  | read next => rfl
  | write change next =>
    cases change with
    | setMembershipNextDue userId next' =>
      have free : next' = none := meets.1
      rw [free]
      rfl
    | _ => rfl

variable {rest : BillingRoutine Uuid}

theorem pays_of_free {change : BillingWrite Uuid} (free : Free change) (clear : owes rest = none)
    (reply : Except DbError Nat) : Pays change reply rest := by
  cases change with
  | insertLedgerEntry entry =>
    cases reply with
    | ok n =>
      have other : entry.entryType ≠ .duesCharge := free
      show if entry.entryType = .duesCharge then _ else _
      rw [if_neg other]
      exact clear
    | error e => exact clear
  | _ => exact clear

theorem dutiful_of_meets {routine : BillingRoutine Uuid} (meets : routine.Meets (fun _ => True) Free fun _ => True) :
    Dutiful routine := by
  induction routine with
  | done answer => trivial
  | read next ih => exact fun s => ⟨owes_of_meets (meets s trivial), ih s (meets s trivial)⟩
  | write change next ih =>
    exact fun reply => ⟨pays_of_free meets.1 (owes_of_meets (meets.2 reply)) reply, ih reply (meets.2 reply)⟩

theorem dutiful_andThen {change : BillingWrite Uuid} (free : Free change) (clear : owes rest = none)
    (dutiful : Dutiful rest) : Dutiful (andThen change rest) := by
  intro reply
  cases reply with
  | ok n => exact ⟨pays_of_free free clear (.ok n), dutiful⟩
  | error e => exact ⟨pays_of_free free rfl (.error e), trivial⟩

theorem dutiful_charge (userId : Uuid) (due : Rat) (next : Int) (clear : owes rest = none) (dutiful : Dutiful rest) :
    Dutiful (andThen (.insertLedgerEntry (duesEntry userId due))
      (andThen (.setMembershipNextDue userId (some next)) rest)) := by
  intro reply
  cases reply with
  | error e => exact ⟨rfl, trivial⟩
  | ok n =>
    refine ⟨⟨next, rfl⟩, fun reply => ?_⟩
    cases reply with
    | ok n => exact ⟨clear, dutiful⟩
    | error e => exact ⟨rfl, trivial⟩

section Requests
variable [DecidableEq Uuid] (rules : BillingRules Uuid)

theorem owes_renewals (now : Int) (userId : Uuid) (due : Rat) (grace : Int) (turns : Nat) (date : Option Int) :
    owes (renewals rules now userId due grace turns date) = none := by
  cases turns with
  | zero => rfl
  | succ turns =>
    cases date with
    | none => rfl
    | some date =>
      unfold renewals
      split <;> rfl

theorem dutiful_renewals (now : Int) (userId : Uuid) (due : Rat) (grace : Int) (turns : Nat) (date : Option Int) :
    Dutiful (renewals rules now userId due grace turns date) := by
  induction turns generalizing date with
  | zero => trivial
  | succ turns ih =>
    cases date with
    | none => trivial
    | some date =>
      have role : ∀ entitled next, Dutiful (andThen (.applyRole userId entitled)
          (renewals rules now userId due grace turns next)) :=
        fun entitled next => dutiful_andThen trivial (owes_renewals rules now userId due grace turns next) (ih next)
      unfold renewals
      split
      · trivial
      · intro s
        dsimp only
        split
        · exact ⟨rfl, dutiful_charge userId due _ rfl (role true _)⟩
        · exact ⟨rfl, dutiful_andThen rfl rfl (role false none)⟩

theorem dutiful_settleAfterCredit (now : Int) (userId : Uuid) : Dutiful (settleAfterCredit rules now userId) := by
  intro s
  dsimp only
  split
  · exact ⟨rfl, trivial⟩
  · split
    · exact ⟨rfl, trivial⟩
    · refine ⟨rfl, fun s => ⟨rfl, fun s' => ?_⟩⟩
      dsimp only
      split
      · exact ⟨rfl, dutiful_charge userId _ _ rfl (dutiful_andThen trivial rfl trivial)⟩
      · exact ⟨rfl, trivial⟩

/-- A credit that is not posted as a charge. -/
def CreditsOnly : BillingRequest Uuid → Prop
  | .recordCredit _ _ entryType _ _ => entryType ≠ .duesCharge
  | _ => True

theorem dutiful_credit (now : Int) (userId : Uuid) {entryType : LedgerEntryType} (credits : entryType ≠ .duesCharge)
    (amount : Rat) (reference : Option String) : Dutiful (credit rules now userId entryType amount reference) := by
  have post : ∀ (external : Option (LedgerReference Uuid)) (after : Except DbError Nat → BillingRoutine Uuid),
      (∀ n, after (.ok n) = settleAfterCredit rules now userId) → (∀ e, ∃ answer, after (.error e) = .done answer) →
      Dutiful (.write (.insertLedgerEntry ⟨userId, entryType, amount, external⟩) after) := by
    intro external after taken refused reply
    have free :
      Free (BillingWrite.insertLedgerEntry (⟨userId, entryType, amount, external⟩ : LedgerEntry Uuid)) := credits
    cases reply with
    | ok n =>
      rw [taken n]
      exact ⟨pays_of_free free rfl _, dutiful_settleAfterCredit rules now userId⟩
    | error e =>
      obtain ⟨answer, same⟩ := refused e
      rw [same]
      exact ⟨pays_of_free free rfl _, trivial⟩
  cases reference with
  | none => exact post none _ (fun _ => rfl) (by rintro (_ | _) <;> exact ⟨_, rfl⟩)
  | some r =>
    intro s
    dsimp only
    split
    · exact ⟨rfl, trivial⟩
    · exact ⟨rfl, post (some (.external r)) _ (fun _ => rfl) (by rintro (_ | _) <;> exact ⟨_, rfl⟩)⟩

omit [DecidableEq Uuid] in
theorem free_of_allowed {request : BillingRequest Uuid} {change : BillingWrite Uuid}
    (allowed : request.Allowed change)
    (credits : ∀ now userId entryType amount reference, request ≠ .recordCredit now userId entryType amount reference)
    (renews : ∀ now userId, request ≠ .settleRenewal now userId) : Free change := by
  cases request with
  | recordCredit now userId entryType amount reference =>
    exact absurd rfl (credits now userId entryType amount reference)
  | settleRenewal now userId => exact absurd rfl (renews now userId)
  | settleOpenSessionForTool now toolId abandoned =>
    cases change with
    | insertLedgerEntry entry =>
      obtain ⟨usage, -⟩ := allowed
      show entry.entryType ≠ .duesCharge
      rw [usage]
      exact LedgerEntryType.noConfusion
    | settleToolSession id reported charged ledgerEntry status => trivial
    | _ => cases allowed
  | _ =>
    cases change with
    | insertLedgerEntry entry => cases allowed
    | setMembershipNextDue userId next => cases allowed
    | _ => trivial

theorem dutiful_serve {request : BillingRequest Uuid} (credits : request.CreditsOnly) :
    owes (request.serve rules) = none ∧ Dutiful (request.serve rules) := by
  by_cases credited : ∃ now userId entryType amount reference,
    request = .recordCredit now userId entryType amount reference
  · obtain ⟨now, userId, entryType, amount, reference, rfl⟩ := credited
    refine ⟨?_, dutiful_credit rules now userId credits amount reference⟩
    cases reference <;> rfl
  by_cases renewed : ∃ now userId, request = .settleRenewal now userId
  · obtain ⟨now, userId, rfl⟩ := renewed
    refine ⟨rfl, fun s => ⟨rfl, fun s' => ?_⟩⟩
    dsimp only
    split
    · exact ⟨rfl, trivial⟩
    · exact ⟨owes_renewals rules now userId _ _ _ _, dutiful_renewals rules now userId _ _ _ _⟩
  have meets : (request.serve rules).Meets (fun _ => True) Free fun _ => True :=
    (serve_meets rules request).allowing fun change allowed => free_of_allowed allowed
      (fun now userId entryType amount reference same => credited ⟨now, userId, entryType, amount, reference, same⟩)
      (fun now userId same => renewed ⟨now, userId, same⟩)
  exact ⟨owes_of_meets meets, dutiful_of_meets meets⟩

end Requests
end BillingRequest

/-- What happens to a member's dues: a charge, for the period up to a date; the next-due date
moved there; the membership ended. -/
inductive DuesNote
  | charged (next : Int)
  | moved (next : Int)
  | lapsed
  deriving DecidableEq

def DuesNote.isCharge : DuesNote → Bool
  | .charged _ => true
  | _ => false

/-- Whose dues the next statement of an operation is about, and what it does to them, when it is
so answered. -/
def BillingRequest.note {Uuid : Type} (reply : Except DbError Nat) : BillingRoutine Uuid → Option (Uuid × DuesNote)
  | .write (.insertLedgerEntry entry) next =>
    if entry.entryType = .duesCharge then (owes (next reply)).map fun owed => (entry.userId, .charged owed.2)
      else none
  | .write (.setMembershipNextDue userId (some next)) _ => some (userId, .moved next)
  | .write (.setMembershipNextDue userId none) _ => some (userId, .lapsed)
  | _ => none

section Periods
variable {Uuid : Type} [DecidableEq Uuid] (userId : Uuid)

def BillingTables.nextDue (s : BillingTables Uuid) : Option Int := (s.users userId).bind (·.membershipNextDueAt)

def BillingTables.duesCharges (s : BillingTables Uuid) : Nat :=
  s.ledger.countP fun entry => decide (entry.userId = userId) && decide (entry.entryType = .duesCharge)

/-- The date of the member's that an operation goes on to set. -/
def owesFor (routine : BillingRoutine Uuid) : Option Int :=
  (BillingRequest.owes routine).bind fun owed => if owed.1 = userId then some owed.2 else none

/-- What the next statement of an operation does to the member's dues, unless it is refused. -/
def noteFor (rules : BillingRules Uuid) (s : BillingTables Uuid) : BillingRoutine Uuid → Option DuesNote
  | .write change next =>
    if (s.perform rules change).2.isOk then
      (BillingRequest.note (s.perform rules change).2 (.write change next)).bind fun noted =>
        if noted.1 = userId then some noted.2 else none
    else none
  | _ => none

/-- The dates paid up to by operations that have not set them yet: under way, or failed there. -/
def owing (pool : BillingPool Uuid) : List Int := pool.tasks.filterMap fun task => owesFor userId task.2

def watchDues (rules : BillingRules Uuid) (pool : BillingPool Uuid) : Service.Event (BillingRequest Uuid) →
    List DuesNote
  | .arrive _ => []
  | .step index => ((pool.tasks[index]?).bind fun task => noteFor userId rules pool.state task.2).toList

/-- A charge comes in its turn: no operation has one of the member's open, and the date the
operation has read is still the member's. -/
def inTurn (rules : BillingRules Uuid) (pool : BillingPool Uuid) (event : Service.Event (BillingRequest Uuid)) :
    Bool :=
  (watchDues userId rules pool event).all fun note =>
    match note with
    | .charged next =>
      (owing userId pool).isEmpty && (pool.state.nextDue userId).all fun date =>
        decide (next = rules.advancePeriod date)
    | _ => true

end Periods

/-- The member's dues so far, with the next-due date they come to and the date a charge is
open for: each charge is for the period that begins at the date, and the date is moved past that
period before the next charge. -/
inductive Paid (advance : Int → Int) (start : Option Int) : List DuesNote → Option Int → Option Int → Prop
  | nil : Paid advance start [] start none
  | charged {notes : List DuesNote} {date : Option Int} {next : Int} (paid : Paid advance start notes date none)
      (follows : ∀ d, date = some d → next = advance d) :
        Paid advance start (notes ++ [.charged next]) date (some next)
  | moved {notes : List DuesNote} {date : Option Int} {next : Int}
    (paid : Paid advance start notes date (some next)) :
      Paid advance start (notes ++ [.moved next]) (some next) none
  | lapsed {notes : List DuesNote} {date owed : Option Int} (paid : Paid advance start notes date owed) :
      Paid advance start (notes ++ [.lapsed]) none owed

/-- The charges of the membership that has not lapsed since, each by the date it pays up to. -/
def chargesOf (charges : List Int) : DuesNote → List Int
  | .charged next => charges ++ [next]
  | .moved _ => charges
  | .lapsed => []

theorem Paid.increasing {advance : Int → Int} {start : Option Int} {notes : List DuesNote} {date owed : Option Int}
    (paid : Paid advance start notes date owed) (later : ∀ date, date < advance date) :
    (notes.foldl chargesOf []).Pairwise (· < ·) ∧ ∀ charged ∈ notes.foldl chargesOf [], ∃ d,
    owed.or date = some d ∧ charged ≤ d := by
  induction paid with
  | nil => exact ⟨List.Pairwise.nil, fun charged member => by cases member⟩
  | @charged notes date next paid follows ih =>
    obtain ⟨increasing, below⟩ := ih
    rw [List.foldl_append]
    have earlier : ∀ charged ∈ notes.foldl chargesOf [], charged < next := by
      intro charged member
      obtain ⟨d, same, le⟩ := below charged member
      have next_eq := follows d same
      have step := later d
      omega
    refine ⟨?_, fun charged member => ⟨next, rfl, ?_⟩⟩
    · refine List.pairwise_append.mpr ⟨increasing, List.pairwise_singleton _ _, fun charged member other last => ?_⟩
      obtain rfl := List.mem_singleton.mp last
      exact earlier charged member
    · rcases List.mem_append.mp member with old | last
      · have less := earlier charged old
        omega
      · obtain rfl := List.mem_singleton.mp last
        exact le_rfl
  | @moved notes date next paid ih =>
    rw [List.foldl_append]
    exact ⟨ih.1, fun charged member => ih.2 charged member⟩
  | lapsed paid ih =>
    rw [List.foldl_append]
    exact ⟨List.Pairwise.nil, fun charged member => by cases member⟩

section Run
variable {Uuid : Type} [DecidableEq Uuid] {rules : BillingRules Uuid} {s : BillingTables Uuid} {userId : Uuid}

theorem users_updateOpen (id : Uuid) (change : ToolUsageSession Uuid → ToolUsageSession Uuid) :
    (s.updateOpen id change).1.users = s.users ∧ (s.updateOpen id change).1.ledger = s.ledger := by
  unfold BillingTables.updateOpen
  split
  · exact ⟨rfl, rfl⟩
  · split <;> exact ⟨rfl, rfl⟩

/-- A statement about neither the ledger nor a membership leaves both as they are. -/
theorem dues_of_other {change : BillingWrite Uuid} (entry : ∀ e, change ≠ .insertLedgerEntry e)
    (date : ∀ u next, change ≠ .setMembershipNextDue u next) :
    (s.perform rules change).1.users = s.users ∧ (s.perform rules change).1.ledger = s.ledger := by
  cases change with
  | insertToolSession id row =>
    simp only [BillingTables.perform]
    split
    · exact ⟨rfl, rfl⟩
    · split <;> exact ⟨rfl, rfl⟩
  | addReportedSeconds id seconds sensed => exact users_updateOpen id _
  | addReportedActiveSeconds id seconds => exact users_updateOpen id _
  | settleToolSession id reported charged ledgerEntry status => exact users_updateOpen id _
  | insertLedgerEntry e => exact absurd rfl (entry e)
  | setMembershipNextDue u next => exact absurd rfl (date u next)
  | applyRole u entitled => exact ⟨rfl, rfl⟩
  | edit edit =>
    cases edit with
    | assignTier u toolId tierId =>
      simp only [BillingTables.perform, BillingTables.editCatalog]
      split <;> exact ⟨rfl, rfl⟩
    | _ => exact ⟨rfl, rfl⟩

theorem perform_setMembershipNextDue (u : Uuid) (next : Option Int) :
    (s.users u = none ∧ s.perform rules (.setMembershipNextDue u next) = (s, .error .notFound)) ∨
      ((s.users u).isSome = true ∧
        s.perform rules (.setMembershipNextDue u next) = ({ s with users := s.users.insert u ⟨next⟩ }, .ok 1)) := by
  simp only [BillingTables.perform]
  cases there : s.users u with
  | none => exact .inl ⟨rfl, rfl⟩
  | some row => exact .inr ⟨rfl, rfl⟩

theorem isSome_of_posted {entry : LedgerEntry Uuid}
    (posted : (s.perform rules (.insertLedgerEntry entry)).2.isOk = true) :
    (s.users entry.userId).isSome = true := by
  simp only [BillingTables.perform] at posted
  split at posted
  · cases posted
  · split at posted
    · cases posted
    · rename_i there
      rwa [Option.isNone_iff_eq_none, ← ne_eq, Option.ne_none_iff_isSome] at there

/-- The member's dues are accounted for by what was noted of them, but for one charge at most. -/
structure DuesKept (rules : BillingRules Uuid) (userId : Uuid) (start : BillingTables Uuid) (notes : List DuesNote)
    (s : BillingTables Uuid) (owed : Option Int) : Prop where
  paid : Paid rules.advancePeriod (start.nextDue userId) notes (s.nextDue userId) owed
  member : owed.isSome = true → (s.users userId).isSome = true
  count : s.duesCharges userId = start.duesCharges userId + notes.countP DuesNote.isCharge

variable {start s' : BillingTables Uuid} {notes : List DuesNote} {owed : Option Int}

theorem DuesKept.congr (kept : DuesKept rules userId start notes s owed) (users : s'.users = s.users)
    (count : s'.duesCharges userId = s.duesCharges userId) : DuesKept rules userId start notes s' owed := by
  have date : s'.nextDue userId = s.nextDue userId := by
    unfold BillingTables.nextDue
    rw [users]
  exact ⟨date ▸ kept.paid, fun open_ => users ▸ kept.member open_, count.trans kept.count⟩

theorem duesCharges_of_posted (entry : LedgerEntry Uuid) :
    BillingTables.duesCharges userId { s with ledger := s.ledger ++ [entry] } =
      s.duesCharges userId + if entry.userId = userId ∧ entry.entryType = .duesCharge then 1 else 0 := by
  unfold BillingTables.duesCharges
  rw [List.countP_append, List.countP_singleton]
  simp only [Bool.and_eq_true, decide_eq_true_eq]

theorem DuesKept.charged (kept : DuesKept rules userId start notes s none) {entry : LedgerEntry Uuid}
    (mine : entry.userId = userId) (dues : entry.entryType = .duesCharge) (there : (s.users userId).isSome = true)
    {next : Int} (follows : ∀ date, s.nextDue userId = some date → next = rules.advancePeriod date) :
    DuesKept rules userId start (notes ++ [.charged next]) { s with ledger := s.ledger ++ [entry] } (some next) := by
  refine ⟨.charged kept.paid follows, fun _ => there, ?_⟩
  have before := kept.count
  have posted : BillingTables.duesCharges userId { s with ledger := s.ledger ++ [entry] } =
      s.duesCharges userId + if entry.userId = userId ∧ entry.entryType = .duesCharge then 1 else 0 :=
        duesCharges_of_posted entry
  rw [if_pos ⟨mine, dues⟩] at posted
  rw [posted, List.countP_append, List.countP_singleton,
    if_pos (show DuesNote.isCharge (.charged next) = true from rfl)]
  omega

theorem DuesKept.dated {next : Option Int} {note : DuesNote} {after : Option Int} (other : note.isCharge = false)
    (paid : Paid rules.advancePeriod (start.nextDue userId) (notes ++ [note]) next after)
    (count : s.duesCharges userId = start.duesCharges userId + notes.countP DuesNote.isCharge) :
    DuesKept rules userId start (notes ++ [note]) { s with users := s.users.insert userId ⟨next⟩ } after := by
  have date : BillingTables.nextDue userId { s with users := s.users.insert userId ⟨next⟩ } = next := by
    show (s.users.insert userId ⟨next⟩ userId).bind (·.membershipNextDueAt) = next
    rw [Table.insert_self]
    rfl
  refine ⟨date.symm ▸ paid, fun _ => ?_, ?_⟩
  · show (s.users.insert userId ⟨next⟩ userId).isSome = true
    rw [Table.insert_self]
    rfl
  · rw [List.countP_append, List.countP_singleton, other, if_neg Bool.false_ne_true]
    exact count

theorem DuesKept.elsewhere (kept : DuesKept rules userId start notes s owed) {other : Uuid}
    (different : other ≠ userId)
    (next : Option Int) : DuesKept rules userId start notes { s with users := s.users.insert other ⟨next⟩ } owed := by
  have row : s.users.insert other ⟨next⟩ userId = s.users userId := Table.insert_of_ne _ _ different.symm
  have date : BillingTables.nextDue userId { s with users := s.users.insert other ⟨next⟩ } = s.nextDue userId :=
    congrArg (fun row : Option MemberRow => row.bind (·.membershipNextDueAt)) row
  exact ⟨date.symm ▸ kept.paid, fun open_ => (congrArg Option.isSome row).trans (kept.member open_), kept.count⟩

omit [DecidableEq Uuid] in
theorem owes_of_pays {change : BillingWrite Uuid} {reply : Except DbError Nat} {rest : BillingRoutine Uuid}
    (pays : BillingRequest.Pays change reply rest) (other : ∀ entry, change ≠ .insertLedgerEntry entry) :
    BillingRequest.owes rest = none := by
  cases change with
  | insertLedgerEntry entry => exact absurd rfl (other entry)
  | _ => exact pays

variable {front back : List Int} {routine : BillingRoutine Uuid}

theorem owesFor_none (clear : BillingRequest.owes routine = none) : owesFor userId routine = none := by
  unfold owesFor
  rw [clear]
  rfl

/-- A step of one operation, among what the others owe: the dues stay accounted for. -/
def Advances (rules : BillingRules Uuid) (userId : Uuid) (start s : BillingTables Uuid) (notes : List DuesNote)
    (routine : BillingRoutine Uuid) (front back : List Int) : Prop :=
  ∃ owed, DuesKept rules userId start (notes ++ (noteFor userId rules s routine).toList)
      (routine.advance (BillingTables.perform rules) s).1 owed ∧
    front ++ (owesFor userId (routine.advance (BillingTables.perform rules) s).2).toList ++ back = owed.toList

theorem advances_of_silent (kept : DuesKept rules userId start notes s owed)
    (note : noteFor userId rules s routine = none)
    (same : (routine.advance (BillingTables.perform rules) s).1.users = s.users ∧
      (routine.advance (BillingTables.perform rules) s).1.duesCharges userId = s.duesCharges userId)
    (clear : owesFor userId (routine.advance (BillingTables.perform rules) s).2 = none)
    (debts : front ++ back = owed.toList) : Advances rules userId start s notes routine front back := by
  refine ⟨owed, ?_, ?_⟩
  · rw [note, Option.toList_none, List.append_nil]
    exact kept.congr same.1 same.2
  · rw [clear, Option.toList_none, List.append_nil]
    exact debts

theorem advances_of_entry (kept : DuesKept rules userId start notes s owed) {entry : LedgerEntry Uuid}
    {next : Except DbError Nat → BillingRoutine Uuid}
    (pays : ∀ reply, BillingRequest.Pays (.insertLedgerEntry entry) reply (next reply))
    (debts : front ++ back = owed.toList)
    (turn : ∀ date, noteFor userId rules s (.write (.insertLedgerEntry entry) next) = some (.charged date) →
      owed = none ∧ ∀ d, s.nextDue userId = some d → date = rules.advancePeriod d) :
    Advances rules userId start s notes (.write (.insertLedgerEntry entry) next) front back := by
  rcases perform_insertLedgerEntry rules s entry with ⟨e, refused⟩ | posted
  · have note : noteFor userId rules s (.write (.insertLedgerEntry entry) next) = none := by
      simp only [noteFor, refused, Except.isOk, Except.toBool, Bool.false_eq_true, if_false]
    refine advances_of_silent kept note ?_ ?_ debts
    · simp only [Routine.advance, refused, and_self]
    · simp only [Routine.advance, refused]
      exact owesFor_none (pays (.error e))
  · have taken : (s.perform rules (.insertLedgerEntry entry)).2.isOk = true := by
      rw [posted]
      rfl
    have there := isSome_of_posted taken
    have clears := pays (.ok s.ledger.length)
    have moved : (Routine.write (.insertLedgerEntry entry) next).advance (BillingTables.perform rules) s =
        ({ s with ledger := s.ledger ++ [entry] }, next (.ok s.ledger.length)) := by
      simp only [Routine.advance, posted]
    by_cases dues : entry.entryType = .duesCharge
    · obtain ⟨date, sets⟩ : ∃ date, BillingRequest.owes (next (.ok s.ledger.length)) = some (entry.userId, date) := by
        simpa only [BillingRequest.Pays, if_pos dues] using clears
      have note : noteFor userId rules s (.write (.insertLedgerEntry entry) next) =
          if entry.userId = userId then some (.charged date) else none := by
        simp only [noteFor, BillingRequest.note, if_pos dues, posted, sets, Option.map_some, Option.bind_some]
        rfl
      have opens : owesFor userId (next (.ok s.ledger.length)) = if entry.userId = userId then some date
          else none := by
        simp only [owesFor, sets, Option.bind_some]
      by_cases mine : entry.userId = userId
      · rw [if_pos mine] at note opens
        obtain ⟨rfl, follows⟩ := turn date note
        obtain ⟨rfl, rfl⟩ := List.append_eq_nil_iff.mp debts
        refine ⟨some date, ?_, ?_⟩
        · rw [note, moved]
          exact kept.charged mine dues (mine ▸ there) follows
        · rw [moved, opens]
          rfl
      · rw [if_neg mine] at note opens
        refine advances_of_silent kept note ?_ ?_ debts
        · rw [moved, duesCharges_of_posted, if_neg fun both => mine both.1]
          exact ⟨rfl, rfl⟩
        · rw [moved]
          exact opens
    · have note : noteFor userId rules s (.write (.insertLedgerEntry entry) next) = none := by
        simp only [noteFor, taken, if_true, BillingRequest.note, if_neg dues, Option.bind_none]
      refine advances_of_silent kept note ?_ ?_ debts
      · rw [moved, duesCharges_of_posted, if_neg fun both => dues both.2]
        exact ⟨rfl, rfl⟩
      · rw [moved]
        refine owesFor_none ?_
        simpa only [BillingRequest.Pays, if_neg dues] using clears

theorem eq_of_middle {date : Int} (debts : front ++ [date] ++ back = owed.toList) :
    owed = some date ∧ front = [] ∧ back = [] := by
  cases owed with
  | none => simp at debts
  | some d =>
    have lengths := congrArg List.length debts
    simp only [List.length_append, List.length_singleton, Option.toList_some] at lengths
    obtain rfl := List.eq_nil_of_length_eq_zero (by omega : front.length = 0)
    obtain rfl := List.eq_nil_of_length_eq_zero (by omega : back.length = 0)
    simp only [List.nil_append, List.append_nil, Option.toList_some, List.cons.injEq, and_true] at debts
    exact ⟨congrArg some debts.symm, rfl, rfl⟩

theorem advances_of_date (kept : DuesKept rules userId start notes s owed) {user : Uuid} {date : Option Int}
    {next : Except DbError Nat → BillingRoutine Uuid} (pays : ∀ reply, BillingRequest.owes (next reply) = none)
    (debts : front ++ (owesFor userId (.write (.setMembershipNextDue user date) next)).toList ++ back = owed.toList) :
    Advances rules userId start s notes (.write (.setMembershipNextDue user date) next) front back := by
  have elsewhere : user ≠ userId → front ++ back = owed.toList := by
    intro other
    cases date with
    | none => simpa [owesFor, BillingRequest.owes] using debts
    | some d => simpa [owesFor, BillingRequest.owes, other] using debts
  rcases @perform_setMembershipNextDue Uuid _ rules s user date with ⟨absent, refused⟩ | ⟨there, taken⟩
  · have note : noteFor userId rules s (.write (.setMembershipNextDue user date) next) = none := by
      simp only [noteFor, refused, Except.isOk, Except.toBool, Bool.false_eq_true, if_false]
    refine advances_of_silent kept note ?_ (owesFor_none (pays _)) ?_
    · simp only [Routine.advance, refused, and_self]
    · by_cases mine : user = userId
      · subst mine
        cases date with
        | none => simpa [owesFor, BillingRequest.owes] using debts
        | some d =>
          -- whoever has a charge open is a member
          have opened : front ++ [d] ++ back = owed.toList := by simpa [owesFor, BillingRequest.owes] using debts
          obtain ⟨rfl, -, -⟩ := eq_of_middle opened
          have member := kept.member rfl
          rw [absent] at member
          cases member
      · exact elsewhere mine
  · have accepted : (s.perform rules (.setMembershipNextDue user date)).2.isOk = true := by
      rw [taken]
      rfl
    have moved : (Routine.write (.setMembershipNextDue user date) next).advance (BillingTables.perform rules) s =
        ({ s with users := s.users.insert user ⟨date⟩ }, next (.ok 1)) := by
      simp only [Routine.advance, taken]
    by_cases mine : user = userId
    · subst mine
      cases date with
      | none =>
        have note : noteFor user rules s (.write (.setMembershipNextDue user none) next) = some .lapsed := by
          simp only [noteFor, accepted, if_true, BillingRequest.note, Option.bind_some]
        refine ⟨owed, ?_, ?_⟩
        · rw [note, moved]
          exact DuesKept.dated rfl (.lapsed kept.paid) kept.count
        · rw [moved, owesFor_none (pays _)]
          exact debts
      | some d =>
        have opened : front ++ [d] ++ back = owed.toList := by simpa [owesFor, BillingRequest.owes] using debts
        obtain ⟨rfl, rfl, rfl⟩ := eq_of_middle opened
        have note : noteFor user rules s (.write (.setMembershipNextDue user (some d)) next) = some (.moved d) := by
          simp only [noteFor, accepted, if_true, BillingRequest.note, Option.bind_some]
        refine ⟨none, ?_, ?_⟩
        · rw [note, moved]
          exact DuesKept.dated rfl (.moved kept.paid) kept.count
        · rw [moved, owesFor_none (pays _)]
          rfl
    · have note : noteFor userId rules s (.write (.setMembershipNextDue user date) next) = none := by
        cases date with
        | none => simp only [noteFor, accepted, if_true, BillingRequest.note, Option.bind_some, if_neg mine]
        | some d => simp only [noteFor, accepted, if_true, BillingRequest.note, Option.bind_some, if_neg mine]
      refine ⟨owed, ?_, ?_⟩
      · rw [note, moved, Option.toList_none, List.append_nil]
        exact kept.elsewhere mine date
      · rw [moved, owesFor_none (pays _), Option.toList_none, List.append_nil]
        exact elsewhere mine

theorem DuesKept.advance (kept : DuesKept rules userId start notes s owed) (dutiful : BillingRequest.Dutiful routine)
    (debts : front ++ (owesFor userId routine).toList ++ back = owed.toList)
    (turn : ∀ next, noteFor userId rules s routine = some (.charged next) → owed = none ∧
      ∀ date, s.nextDue userId = some date → next = rules.advancePeriod date) :
    BillingRequest.Dutiful (routine.advance (BillingTables.perform rules) s).2 ∧
      Advances rules userId start s notes routine front back := by
  cases routine with
  | done answer =>
    have others : front ++ back = owed.toList := by simpa [owesFor, BillingRequest.owes] using debts
    exact ⟨trivial, advances_of_silent kept rfl ⟨rfl, rfl⟩ rfl others⟩
  | read next =>
    have others : front ++ back = owed.toList := by simpa [owesFor, BillingRequest.owes] using debts
    exact ⟨(dutiful s).2, advances_of_silent kept rfl ⟨rfl, rfl⟩ (owesFor_none (dutiful s).1) others⟩
  | write change next =>
    refine ⟨(dutiful _).2, ?_⟩
    have pays := fun reply => (dutiful reply).1
    by_cases posts : ∃ entry, change = .insertLedgerEntry entry
    · obtain ⟨entry, rfl⟩ := posts
      have others : front ++ back = owed.toList := by simpa [owesFor, BillingRequest.owes] using debts
      exact advances_of_entry kept pays others turn
    by_cases dates : ∃ user date, change = .setMembershipNextDue user date
    · obtain ⟨user, date, rfl⟩ := dates
      exact advances_of_date kept pays debts
    have clear := fun reply => owes_of_pays (pays reply) fun entry same => posts ⟨entry, same⟩
    have quiet : BillingRequest.note (s.perform rules change).2 (.write change next) = none ∧
        owesFor userId (.write change next) = none := by
      cases change with
      | insertLedgerEntry entry => exact absurd ⟨entry, rfl⟩ posts
      | setMembershipNextDue user date => exact absurd ⟨user, date, rfl⟩ dates
      | _ => exact ⟨rfl, rfl⟩
    have note : noteFor userId rules s (.write change next) = none := by
      simp only [noteFor, quiet.1, Option.bind_none, ite_self]
    obtain ⟨users, ledger⟩ := @dues_of_other Uuid _ rules s _ (fun entry same => posts ⟨entry, same⟩)
      (fun user date same => dates ⟨user, date, same⟩)
    rw [quiet.2, Option.toList_none, List.append_nil] at debts
    refine advances_of_silent kept note ⟨users, ?_⟩ (owesFor_none (clear _)) debts
    show BillingTables.duesCharges userId (s.perform rules change).1 = _
    unfold BillingTables.duesCharges
    rw [ledger]

/-- The dues of a member across the operations under way: all dutiful, with one charge open
at most. -/
structure DuesUnderWay (rules : BillingRules Uuid) (userId : Uuid) (start : BillingTables Uuid)
    (notes : List DuesNote)
    (pool : BillingPool Uuid) : Prop where
  dutiful : ∀ task ∈ pool.tasks, BillingRequest.Dutiful task.2
  kept : ∃ owed, DuesKept rules userId start notes pool.state owed ∧ owing userId pool = owed.toList

theorem DuesUnderWay.step {pool : BillingPool Uuid} (way : DuesUnderWay rules userId start notes pool)
    {event : Service.Event (BillingRequest Uuid)} (credits : ∀ request, event = .arrive request → request.CreditsOnly)
    (turn : inTurn userId rules pool event = true) :
    DuesUnderWay rules userId start (notes ++ watchDues userId rules pool event)
      ((billingService rules).step pool event).1 := by
  obtain ⟨owed, kept, debts⟩ := way.kept
  cases event with
  | arrive request =>
    have served := BillingRequest.dutiful_serve rules (credits request rfl)
    have tasks := Service.tasks_arrive (billingService rules) pool request
    refine ⟨Service.all_tasks_arrive (billingService rules) way.dutiful served.2, owed, ?_, ?_⟩
    · rw [show watchDues userId rules pool (.arrive request) = [] from rfl, List.append_nil]
      exact kept
    · have clear : owesFor userId ((billingService rules).serve request) = none := owesFor_none served.1
      unfold owing at debts ⊢
      rw [tasks, List.filterMap_append, debts, List.filterMap_cons, clear, List.filterMap_nil, List.append_nil]
  | step index =>
    rcases found : pool.tasks[index]? with _ | ⟨request, routine⟩
    · have silent : watchDues userId rules pool (.step index) = [] := by
        simp only [watchDues, found, Option.bind_none, Option.toList_none]
      rw [Service.step_of_none (billingService rules) found, silent, List.append_nil]
      exact way
    · obtain ⟨state, -⟩ := Service.tasks_step (billingService rules) found
      obtain ⟨front, back, split, set⟩ := Service.tasks_step_around (billingService rules) found
      have noted : watchDues userId rules pool (.step index) = (noteFor userId rules pool.state routine).toList := by
        simp only [watchDues, found, Option.bind_some]
      have member : (request, routine) ∈ pool.tasks := List.mem_of_getElem? found
      have owing_eq := Service.filterMap_around
        (fun task : BillingRequest Uuid × BillingRoutine Uuid => owesFor userId task.2) front back
      unfold owing at debts
      rw [split, owing_eq] at debts
      have charge : ∀ next, noteFor userId rules pool.state routine = some (.charged next) →
          owed = none ∧ ∀ date, pool.state.nextDue userId = some date → next = rules.advancePeriod date := by
        intro next note
        rw [inTurn, noted, note, Option.toList_some, List.all_cons, List.all_nil, Bool.and_true,
          Bool.and_eq_true] at turn
        refine ⟨?_, fun date same => ?_⟩
        · have nothing := List.isEmpty_iff.mp turn.1
          unfold owing at nothing
          rw [split, owing_eq] at nothing
          rw [nothing] at debts
          cases owed with
          | none => rfl
          | some d => cases debts
        · have follows := turn.2
          rw [same, Option.all_some] at follows
          exact of_decide_eq_true follows
      obtain ⟨dutiful, owed', kept', debts'⟩ := kept.advance (way.dutiful _ member) debts charge
      refine ⟨Service.all_tasks_step (billingService rules) found way.dutiful dutiful, owed', ?_, ?_⟩
      · rw [noted, state]
        exact kept'
      · unfold owing
        rw [set, owing_eq]
        exact debts'

variable (start) in
/-- Renewals and credits in any order, their statements interleaved, each stopped anywhere: when
every charge of a member's dues comes in its turn, each is for the period that begins at the
next-due date, one for a period, and the date is moved past it before the next charge and
before the operation is done; the ledger has gained those charges and no others. -/
theorem dues_charged_once (userId : Uuid) {schedule : List (Service.Event (BillingRequest Uuid))}
    (credits : ∀ request, .arrive request ∈ schedule → request.CreditsOnly)
    (turns : EveryStep (fun past event => inTurn userId rules
      (((billingService rules).machine start).run past) event = true)
      schedule) :
    ∀ past, past <+: schedule →
      let pool := ((billingService rules).machine start).run past
      let notes := ((billingService rules).machine start).history (watchDues userId rules) past
      (∃ owed, Paid rules.advancePeriod (start.nextDue userId) notes (pool.state.nextDue userId) owed ∧
        owing userId pool = owed.toList) ∧
        ((∀ date, date < rules.advancePeriod date) → (notes.foldl chargesOf []).Pairwise (· < ·)) ∧
        pool.state.duesCharges userId = start.duesCharges userId + notes.countP DuesNote.isCharge := by
  intro past front pool notes
  have every : EveryStep (fun past event => (∀ request, event = .arrive request → request.CreditsOnly) ∧
      inTurn userId rules (((billingService rules).machine start).run past) event = true) schedule := by
    intro past event later split
    refine ⟨fun request same => credits request ?_, turns past event later split⟩
    rw [split, same]
    exact List.mem_append_right _ (List.mem_cons_self ..)
  have way : DuesUnderWay rules userId start notes pool := by
    refine Machine.run_keeps_past ((billingService rules).machine start)
      (fun past pool => DuesUnderWay rules userId start
      (((billingService rules).machine start).history (watchDues userId rules) past) pool) ?_ ?_ every front
    · refine ⟨?_, none, ⟨.nil, ?_, rfl⟩, rfl⟩
      · intro task member
        cases member
      · intro open_
        cases open_
    · intro past event way here
      rw [Machine.history_snoc]
      exact way.step here.1 here.2
  obtain ⟨owed, kept, debts⟩ := way.kept
  exact ⟨⟨owed, kept.paid, debts⟩, fun later => (kept.paid.increasing later).1, kept.count⟩

end Run

section
/-- Two passes of the renewal cycle at one time, and the turns their statements take. -/
def renewedTwice (now later : Int) (steps : List Nat) : List (Service.Event (BillingRequest Nat)) :=
  [Service.Event.arrive (BillingRequest.settleRenewal now 2), .arrive (.settleRenewal later 2)] ++
    steps.map Service.Event.step

def monthLater : List Nat := List.replicate 7 0 ++ List.replicate 7 1

theorem dues_charged_once_monthly :
    (((billingService monthlyRules).machine (enrolled 100)).run
      (renewedTwice (daysToMicros 10) (daysToMicros 40) monthLater)).state.duesCharges 2 = 2 := by
  have turns : ∀ n (bound : n < (renewedTwice (daysToMicros 10) (daysToMicros 40) monthLater).length),
      inTurn 2 monthlyRules (((billingService monthlyRules).machine (enrolled 100)).run
        ((renewedTwice (daysToMicros 10) (daysToMicros 40) monthLater).take n))
        (renewedTwice (daysToMicros 10) (daysToMicros 40) monthLater)[n] = true := by
    decide +kernel
  have credits : ∀ request, .arrive request ∈ renewedTwice (daysToMicros 10) (daysToMicros 40) monthLater →
      request.CreditsOnly := by
    intro request member
    simp [renewedTwice] at member
    rcases member with rfl | rfl <;> trivial
  have all := dues_charged_once (enrolled 100) 2 credits (EveryStep.of_getElem turns) _ List.prefix_rfl
  rw [all.2.2]
  decide +kernel

/-- The second pass is the retry of a first that failed once it had charged; or both read
the balance before either charges. -/
theorem dues_charged_twice :
    let m := (billingService monthlyRules).machine (enrolled 100)
    let retried := renewedTwice (daysToMicros 10) (daysToMicros 10) (List.replicate 4 0 ++ List.replicate 6 1)
    let abreast := renewedTwice (daysToMicros 10) (daysToMicros 10)
      (List.replicate 3 0 ++ List.replicate 3 1 ++ List.replicate 3 0 ++ List.replicate 3 1)
    (enrolled 100).nextDue 2 = some 0 ∧ (enrolled 100).duesCharges 2 = 0 ∧
      m.history (watchDues 2 monthlyRules) retried =
        [.charged (daysToMicros 30), .charged (daysToMicros 30), .moved (daysToMicros 30)] ∧
      (m.run retried).state.nextDue 2 = some (daysToMicros 30) ∧ (m.run retried).state.duesCharges 2 = 2 ∧
      m.history (watchDues 2 monthlyRules) abreast =
        [.charged (daysToMicros 30), .moved (daysToMicros 30), .charged (daysToMicros 30), .moved (daysToMicros 30)] ∧
      (m.run abreast).state.nextDue 2 = some (daysToMicros 30) ∧ (m.run abreast).state.duesCharges 2 = 2 := by
  decide +kernel

end

end CoopSpaces

import CoopSpaces.Server.SessionCost

namespace CoopSpaces

namespace BillingTables
variable {Uuid : Type} [DecidableEq Uuid]

/-- An entry in the name of a session that is still open: its settlement is half made. -/
def pending (s : BillingTables Uuid) (entry : LedgerEntry Uuid) : Bool :=
  match entry.externalReference with
  | some (.session id) => (s.sessions.lookup id).any fun row => decide (row.status = .open_)
  | _ => false

/-- What an entry adds to the balance. A debit whose hold still stands is not taken yet. -/
def cleared (s : BillingTables Uuid) (entry : LedgerEntry Uuid) : Rat :=
  if s.pending entry then max entry.amount 0 else entry.amount

def clearedBalance (s : BillingTables Uuid) (userId : Uuid) : Rat :=
  (s.ledger.map fun entry => if entry.userId = userId then s.cleared entry else 0).sum

/-- What no hold has reserved. -/
def uncommitted (s : BillingTables Uuid) (userId : Uuid) : Rat := s.clearedBalance userId - s.sumOpenToolHolds userId

theorem le_cleared (s : BillingTables Uuid) (entry : LedgerEntry Uuid) : entry.amount ≤ s.cleared entry := by
  unfold cleared
  split
  · exact le_max_left _ _
  · exact le_rfl

theorem availableBalance_le (s : BillingTables Uuid) (userId : Uuid) :
    s.availableBalance userId ≤ s.uncommitted userId := by
  have balances : s.userBalance userId ≤ s.clearedBalance userId := by
    refine List.sum_le_sum fun entry _ => ?_
    split
    · exact s.le_cleared entry
    · exact le_rfl
  unfold availableBalance uncommitted
  linarith

theorem availableBalance_eq {s : BillingTables Uuid} {userId : Uuid}
    (settled : ∀ entry ∈ s.ledger, entry.userId = userId → s.pending entry = false) :
    s.availableBalance userId = s.uncommitted userId := by
  have balances : s.userBalance userId = s.clearedBalance userId := by
    refine congrArg List.sum (List.map_congr_left fun entry member => ?_)
    split
    · rename_i mine
      simp only [cleared, settled entry member mine, Bool.false_eq_true, if_false]
    · rfl
  unfold availableBalance uncommitted
  rw [balances]

theorem mem_of_ledgerEntryExists {s : BillingTables Uuid} {reference : LedgerReference Uuid} :
    s.ledgerEntryExistsForReference reference = true ↔
      ∃ entry ∈ s.ledger, entry.externalReference = some reference := by
  simp only [ledgerEntryExistsForReference, List.any_eq_true, decide_eq_true_eq]

/-- The ledger and what stands behind the holds are as they were. -/
structure SameHolds (s s' : BillingTables Uuid) : Prop where
  ledger : s'.ledger = s.ledger
  rows : ∀ id, (s'.sessions.lookup id).map (fun row => (row.userId, row.holdAmount, row.status)) =
    (s.sessions.lookup id).map fun row => (row.userId, row.holdAmount, row.status)
  holds : ∀ userId, s'.sumOpenToolHolds userId = s.sumOpenToolHolds userId

/-- What a statement does to the money: nothing, or one of three things. -/
inductive Moves (s s' : BillingTables Uuid) : BillingWrite Uuid → Prop
  | none {change : BillingWrite Uuid} (same : SameHolds s s') : Moves s s' change
  | opened {id : Uuid} {row : ToolUsageSession Uuid} (absent : s.sessions.lookup id = none)
      (sessions : s'.sessions = s.sessions.insert id row) (ledger : s'.ledger = s.ledger) :
      Moves s s' (.insertToolSession id row)
  | closed {id : Uuid} {row : ToolUsageSession Uuid} {reported : Option Rat} {charged : Rat}
    {ledgerEntry : Option Nat}
      {status : SessionStatus} (found : s.sessions.lookup id = some row) (isOpen : row.status = .open_)
      (sessions : s'.sessions = s.sessions.insert id
        { row with reportedSeconds := reported, chargedAmount := some charged, ledgerEntryId := ledgerEntry, status })
      (ledger : s'.ledger = s.ledger) : Moves s s' (.settleToolSession id reported charged ledgerEntry status)
  | posted {entry : LedgerEntry Uuid} (new : ∀ reference, entry.externalReference = some reference →
      s.ledgerEntryExistsForReference reference = false) (ledger : s'.ledger = s.ledger ++ [entry])
      (sessions : s'.sessions = s.sessions) : Moves s s' (.insertLedgerEntry entry)

section Moves
variable {s s' : BillingTables Uuid}

theorem SameHolds.of_sessions (ledger : s'.ledger = s.ledger) (sessions : s'.sessions = s.sessions) :
    SameHolds s s' := by
  refine ⟨ledger, fun id => by rw [sessions], fun userId => ?_⟩
  unfold sumOpenToolHolds
  rw [sessions]

theorem SameHolds.updateOpen {id : Uuid} {change : ToolUsageSession Uuid → ToolUsageSession Uuid}
    (keeps : ∀ row, (change row).userId = row.userId ∧ (change row).holdAmount = row.holdAmount ∧
      (change row).status = row.status) :
    SameHolds s (s.updateOpen id change).1 := by
  unfold BillingTables.updateOpen
  split
  · exact .of_sessions rfl rfl
  · rename_i row found
    split
    · obtain ⟨user, hold, status⟩ := keeps row
      refine ⟨rfl, fun other => ?_, fun userId => ?_⟩
      · by_cases same : other = id
        · subst same
          rw [AList.lookup_insert, found, Option.map_some, Option.map_some, user, hold, status]
        · rw [AList.lookup_insert_ne same]
      · unfold sumOpenToolHolds
        rw [AList.total_insert_of_some found, user, hold, status]
        exact sub_add_cancel _ _
    · exact .of_sessions rfl rfl

theorem SameHolds.editCatalog (s : BillingTables Uuid) (edit : CatalogEdit Uuid) :
    SameHolds s (s.editCatalog edit) := by
  cases edit with
  | deleteTier tierId =>
    refine ⟨rfl, fun id => ?_, fun userId => ?_⟩
    · simp only [BillingTables.editCatalog, AList.lookup_mapVal, Option.map_map]
      rfl
    · simp only [BillingTables.editCatalog, sumOpenToolHolds, AList.total_mapVal]
  | assignTier userId toolId tierId =>
    simp only [BillingTables.editCatalog]
    split
    · exact .of_sessions rfl rfl
    · exact .of_sessions rfl rfl
  | setTool toolId row => exact .of_sessions rfl rfl
  | setTier tierId row => exact .of_sessions rfl rfl
  | clearTier userId toolId => exact .of_sessions rfl rfl
  | configure config => exact .of_sessions rfl rfl

theorem perform_moves (rules : BillingRules Uuid) (s : BillingTables Uuid) (change : BillingWrite Uuid) :
    Moves s (s.perform rules change).1 change := by
  cases change with
  | insertToolSession id row =>
    simp only [BillingTables.perform]
    split
    · exact .none (.of_sessions rfl rfl)
    · rename_i fresh
      split
      · exact .none (.of_sessions rfl rfl)
      · rw [Bool.or_eq_true, not_or, Bool.not_eq_true, Option.isSome_eq_false_iff, Option.isNone_iff_eq_none] at fresh
        exact .opened fresh.1 rfl rfl
  | addReportedSeconds id seconds sensed =>
    refine .none (.updateOpen fun row => ?_)
    unfold ToolUsageSession.addReported
    split
    · exact ⟨rfl, rfl, rfl⟩
    · exact ⟨rfl, rfl, rfl⟩
  | addReportedActiveSeconds id seconds => exact .none (.updateOpen fun row => ⟨rfl, rfl, rfl⟩)
  | settleToolSession id reported charged ledgerEntry status =>
    simp only [BillingTables.perform, BillingTables.updateOpen]
    split
    · exact .none (.of_sessions rfl rfl)
    · rename_i row found
      split
      · rename_i isOpen
        exact .closed found isOpen rfl rfl
      · exact .none (.of_sessions rfl rfl)
  | insertLedgerEntry entry =>
    simp only [BillingTables.perform]
    split
    · exact .none (.of_sessions rfl rfl)
    · rename_i new
      split
      · exact .none (.of_sessions rfl rfl)
      · refine .posted (fun reference same => ?_) rfl rfl
        rw [same] at new
        exact Bool.not_eq_true _ ▸ new
  | setMembershipNextDue userId next =>
    simp only [BillingTables.perform]
    split
    · exact .none (.of_sessions rfl rfl)
    · exact .none (.of_sessions rfl rfl)
  | applyRole userId entitled => exact .none (.of_sessions rfl rfl)
  | edit edit => exact .none (.editCatalog s edit)

theorem SameHolds.symm (same : SameHolds s s') : SameHolds s' s :=
  ⟨same.ledger.symm, fun id => (same.rows id).symm, fun userId => (same.holds userId).symm⟩

theorem SameHolds.found (same : SameHolds s s') {id : Uuid} {row : ToolUsageSession Uuid}
    (found : s.sessions.lookup id = some row) : ∃ row', s'.sessions.lookup id = some row' ∧ row'.userId = row.userId ∧
      row'.holdAmount = row.holdAmount ∧ row'.status = row.status := by
  have here := same.rows id
  rw [found, Option.map_some] at here
  obtain ⟨row', there, equal⟩ := Option.map_eq_some_iff.mp here
  obtain ⟨user, rest⟩ := Prod.mk.inj equal
  obtain ⟨hold, status⟩ := Prod.mk.inj rest
  exact ⟨row', there, user, hold, status⟩

theorem SameHolds.pending (same : SameHolds s s') (entry : LedgerEntry Uuid) :
    s'.pending entry = s.pending entry := by
  unfold BillingTables.pending
  split
  · rename_i id _
    cases found : s.sessions.lookup id with
    | none =>
      have here := same.rows id
      rw [found, Option.map_none, Option.map_eq_none_iff] at here
      rw [here]
    | some row =>
      obtain ⟨row', there, -, -, status⟩ := same.found found
      rw [there, Option.any_some, Option.any_some, status]
  · rfl

end Moves

/-- A later state still has what was posted and opened; a session closes after its debit is in. -/
structure Later (s t : BillingTables Uuid) : Prop where
  posted : ∀ reference, s.ledgerEntryExistsForReference reference = true →
    t.ledgerEntryExistsForReference reference = true
  session : ∀ id row, s.sessions.lookup id = some row → ∃ row', t.sessions.lookup id = some row' ∧
    row'.userId = row.userId ∧
      (row.status = .open_ → row'.status = .open_ ∨ t.ledgerEntryExistsForReference (.session id) = true)

/-- A debit in a session's name is its member's, and the session waits for it, unless it has one
already; a session is closed after that. -/
def Proper (s : BillingTables Uuid) : BillingWrite Uuid → Prop
  | .insertLedgerEntry entry => ∀ id, entry.externalReference = some (.session id) →
    ∃ row, s.sessions.lookup id = some row ∧ row.userId = entry.userId ∧
      (row.status = .open_ ∨ s.ledgerEntryExistsForReference (.session id) = true)
  | .settleToolSession id _ _ _ status => status ≠ .open_ ∧ s.ledgerEntryExistsForReference (.session id) = true
  | _ => True

section Later
variable {s t u : BillingTables Uuid}

theorem Later.refl (s : BillingTables Uuid) : Later s s :=
  ⟨fun _ posted => posted, fun _ row found => ⟨row, found, rfl, .inl⟩⟩

theorem Later.trans (first : Later s t) (second : Later t u) : Later s u := by
  refine ⟨fun reference posted => second.posted reference (first.posted reference posted), fun id row found => ?_⟩
  obtain ⟨row', there, user, stays⟩ := first.session id row found
  obtain ⟨row'', after, user', stays'⟩ := second.session id row' there
  refine ⟨row'', after, user'.trans user, fun isOpen => ?_⟩
  rcases stays isOpen with still | posted
  · exact stays' still
  · exact .inr (second.posted _ posted)

theorem ledgerEntryExists_congr (ledger : t.ledger = s.ledger) (reference : LedgerReference Uuid) :
    t.ledgerEntryExistsForReference reference = s.ledgerEntryExistsForReference reference := by
  unfold BillingTables.ledgerEntryExistsForReference
  rw [ledger]

theorem Moves.later {change : BillingWrite Uuid} (moves : Moves s t change) (proper : s.Proper change) :
    Later s t := by
  cases moves with
  | none same =>
    refine ⟨fun reference posted => (ledgerEntryExists_congr same.ledger reference).trans posted,
      fun id row found => ?_⟩
    obtain ⟨row', there, user, -, status⟩ := same.found found
    exact ⟨row', there, user, fun isOpen => .inl (status.trans isOpen)⟩
  | @opened other row absent sessions ledger =>
    refine ⟨fun reference posted => (ledgerEntryExists_congr ledger reference).trans posted, fun id row found => ?_⟩
    have different : id ≠ other := by
      rintro rfl
      cases absent.symm.trans found
    refine ⟨row, ?_, rfl, .inl⟩
    rw [sessions, AList.lookup_insert_ne different]
    exact found
  | @closed other old reported charged ledgerEntry status there isOpen sessions ledger =>
    refine ⟨fun reference posted => (ledgerEntryExists_congr ledger reference).trans posted, fun id row found => ?_⟩
    by_cases same : id = other
    · subst same
      obtain rfl := Option.some.inj (found.symm.trans there)
      have posted := (ledgerEntryExists_congr ledger (.session id)).trans proper.2
      refine ⟨{ row with
        reportedSeconds := reported, chargedAmount := some charged, ledgerEntryId := ledgerEntry, status }, ?_, rfl,
        fun _ => .inr posted⟩
      rw [sessions]
      exact AList.lookup_insert s.sessions
    · refine ⟨row, ?_, rfl, .inl⟩
      rw [sessions, AList.lookup_insert_ne same]
      exact found
  | @posted entry new ledger sessions =>
    refine ⟨fun reference there => ?_, fun id row found => ⟨row, by rw [sessions]; exact found, rfl, .inl⟩⟩
    obtain ⟨old, member, same⟩ := mem_of_ledgerEntryExists.mp there
    refine mem_of_ledgerEntryExists.mpr ⟨old, ?_, same⟩
    rw [ledger]
    exact List.mem_append_left _ member

end Later

/-- An entry taken, or refused because its reference is in use: either way the reference is there. -/
theorem exists_of_insertLedgerEntry {rules : BillingRules Uuid} {s : BillingTables Uuid} {entry : LedgerEntry Uuid}
    {reference : LedgerReference Uuid} (named : entry.externalReference = some reference)
    (answered : (s.perform rules (.insertLedgerEntry entry)).2 = .error .uniqueViolation ∨
      ∃ n, (s.perform rules (.insertLedgerEntry entry)).2 = .ok n) :
    (s.perform rules (.insertLedgerEntry entry)).1.ledgerEntryExistsForReference reference = true := by
  simp only [BillingTables.perform, named, Option.any_some] at answered ⊢
  split
  · rename_i there
    exact there
  · rename_i new
    rw [if_neg new] at answered
    split
    · rename_i stranger
      rw [if_pos stranger] at answered
      rcases answered with refused | ⟨n, taken⟩
      · cases refused
      · cases taken
    · exact mem_of_ledgerEntryExists.mpr ⟨entry, List.mem_append_right _ (List.mem_singleton_self entry), named⟩

end BillingTables

namespace BillingRequest
variable {Uuid : Type} [DecidableEq Uuid] (rules : BillingRules Uuid)

/-- A settlement, whoever runs in between. -/
theorem settle_relies (now : Int) (toolId : Uuid) (abandoned : Bool) (s : BillingTables Uuid) :
    (settle rules now toolId abandoned).Relies
    (BillingTables.perform rules) BillingTables.Later BillingTables.Proper s := by
  intro first _
  dsimp only
  split
  · trivial
  · intro second _
    dsimp only
    split
    · trivial
    · rename_i id session found
      obtain ⟨there, -, isOpen⟩ := lookup_of_openToolSession found
      have closes : (if abandoned = true then SessionStatus.abandoned else .settled) ≠ .open_ := by
        cases abandoned with
        | true => exact SessionStatus.noConfusion
        | false => exact SessionStatus.noConfusion
      have closing : ∀ (charge : Rat) (posted : Option Nat) (after : Except DbError Nat →
        BillingRoutine Uuid) (t : BillingTables Uuid), (∀ reply, ∃ answer, after reply = .done answer) →
        t.ledgerEntryExistsForReference (.session id) = true →
          Routine.Relies (BillingTables.perform rules) BillingTables.Later BillingTables.Proper t
            (.write (.settleToolSession id session.reportedSeconds charge posted
              (if abandoned then .abandoned else .settled)) after) := by
        intro charge posted after t once there
        exact Routine.WritesOnce.relies_write once fun u moved => ⟨closes, moved.posted _ there⟩
      intro third later fourth later'
      dsimp only
      split
      · rename_i posted
        exact closing _ _ _ fourth (by rintro (_ | _) <;> exact ⟨_, rfl⟩) posted
      · intro t moved
        obtain ⟨row, here, user, stays⟩ := ((later.trans later').trans moved).session id session there
        refine ⟨fun other same => ?_, ?_⟩
        · obtain rfl := LedgerReference.session.inj (Option.some.inj same)
          exact ⟨row, here, user, stays isOpen⟩
        · cases answer : (t.perform rules (.insertLedgerEntry ⟨session.userId, .toolUsage,
              -settlementCharge rules.decimals third.config now _ session, some (.session id)⟩)).2 with
          | ok n =>
            exact closing _ _ _ _ (by rintro (_ | _) <;> exact ⟨_, rfl⟩)
              (BillingTables.exists_of_insertLedgerEntry rfl (.inr ⟨n, answer⟩))
          | error e =>
            cases e with
            | uniqueViolation =>
              exact closing _ _ _ _ (by rintro (_ | _) <;> exact ⟨_, rfl⟩)
                (BillingTables.exists_of_insertLedgerEntry rfl (.inl answer))
            | notFound => trivial
            | foreignKeyViolation => trivial
            | checkViolation => trivial
            | unrepresentableText => trivial
            | unavailable => trivial

omit [DecidableEq Uuid] in
theorem Allowed.not_session {request : BillingRequest Uuid} {entry : LedgerEntry Uuid}
    (allowed : request.Allowed (.insertLedgerEntry entry))
    (other : ∀ now toolId abandoned, request ≠ .settleOpenSessionForTool now toolId abandoned) (id : Uuid) :
    entry.externalReference ≠ some (.session id) := by
  intro named
  cases request with
  | settleOpenSessionForTool now toolId abandoned => exact other now toolId abandoned rfl
  | recordCredit now userId entryType amount reference =>
    rcases allowed with rfl | ⟨due, rfl⟩
    · obtain ⟨r, -, same⟩ := Option.map_eq_some_iff.mp named
      cases same
    · cases named
  | settleRenewal now userId =>
    obtain ⟨due, rfl⟩ := allowed
    cases named
  | _ => cases allowed

theorem Allowed.proper {request : BillingRequest Uuid} {change : BillingWrite Uuid} (allowed : request.Allowed change)
    (other : ∀ now toolId abandoned, request ≠ .settleOpenSessionForTool now toolId abandoned)
    (s : BillingTables Uuid) :
    s.Proper change := by
  cases change with
  | insertLedgerEntry entry => exact fun id named => absurd named (allowed.not_session other id)
  | settleToolSession id reported charged ledgerEntry status =>
    cases request with
    | settleOpenSessionForTool now toolId abandoned => exact absurd rfl (other now toolId abandoned)
    | _ => cases allowed
  | _ => trivial

theorem serve_relies (request : BillingRequest Uuid) (s : BillingTables Uuid) :
    (request.serve rules).Relies (BillingTables.perform rules) BillingTables.Later BillingTables.Proper s := by
  have meets : (request.serve rules).Meets (fun _ => True) request.Allowed fun _ => True := serve_meets rules request
  by_cases settles : ∃ now toolId abandoned, request = .settleOpenSessionForTool now toolId abandoned
  · obtain ⟨now, toolId, abandoned, rfl⟩ := settles
    exact settle_relies rules now toolId abandoned s
  · refine meets.relies (fun s change allowed => allowed.proper (fun now toolId abandoned same => ?_) s) s
    exact settles ⟨now, toolId, abandoned, same⟩

end BillingRequest

namespace BillingTables
variable {Uuid : Type} [DecidableEq Uuid]

/-- A settlement's debit names its session and is its member's; there is one for a session; and
while a session of the member is open, its hold covers what was debited in its name. -/
structure Accounted (userId : Uuid) (s : BillingTables Uuid) : Prop where
  named : ∀ entry ∈ s.ledger, ∀ id, entry.externalReference = some (.session id) →
    ∃ row, s.sessions.lookup id = some row ∧ row.userId = entry.userId
  once : (s.ledger.filterMap LedgerEntry.externalReference).Nodup
  covered : ∀ id row, s.sessions.lookup id = some row → row.userId = userId → row.status = .open_ →
    ∀ entry ∈ s.ledger, entry.externalReference = some (.session id) → max 0 (-entry.amount) ≤ row.holdAmount

/-- A change that spends no more of the member's than is uncommitted, or than the hold it is
the debit of. -/
def Lawful (userId : Uuid) (s : BillingTables Uuid) : BillingWrite Uuid → Prop
  | .insertToolSession _ row => row.userId = userId → row.status = .open_ → row.holdAmount ≤ s.uncommitted userId
  | .insertLedgerEntry entry => entry.userId = userId →
    match entry.externalReference with
    | some (.session id) => ∀ row, s.sessions.lookup id = some row → max 0 (-entry.amount) ≤ row.holdAmount
    | _ => -entry.amount ≤ s.uncommitted userId
  | _ => True

section Steps
variable {s s' : BillingTables Uuid} {userId : Uuid}

theorem clearedBalance_congr (ledger : s'.ledger = s.ledger)
    (pending : ∀ entry ∈ s.ledger, s'.pending entry = s.pending entry) :
    s'.clearedBalance userId = s.clearedBalance userId := by
  unfold clearedBalance
  rw [ledger]
  refine congrArg List.sum (List.map_congr_left fun entry member => ?_)
  unfold cleared
  rw [pending entry member]

theorem pending_iff {entry : LedgerEntry Uuid} : s.pending entry = true ↔
    ∃ id row, entry.externalReference = some (.session id) ∧ s.sessions.lookup id = some row ∧
      row.status = .open_ := by
  unfold pending
  split
  · rename_i id named
    rw [Option.any_eq_true]
    constructor
    · rintro ⟨row, found, isOpen⟩
      exact ⟨id, row, named, found, of_decide_eq_true isOpen⟩
    · rintro ⟨other, row, named', found, isOpen⟩
      obtain rfl := LedgerReference.session.inj (Option.some.inj (named.symm.trans named'))
      exact ⟨row, found, decide_eq_true isOpen⟩
  · rename_i other
    refine iff_of_false Bool.false_ne_true ?_
    rintro ⟨id, row, named, -, -⟩
    exact other id named

theorem pending_congr {entry : LedgerEntry Uuid} (rows : ∀ id, entry.externalReference = some (.session id) →
    s'.sessions.lookup id = s.sessions.lookup id) : s'.pending entry = s.pending entry := by
  unfold pending
  split
  · rename_i id named
    rw [rows id named]
  · rfl

theorem Accounted.same (accounted : Accounted userId s) (same : SameHolds s s') : Accounted userId s' := by
  refine ⟨?_, ?_, ?_⟩
  · rw [same.ledger]
    intro entry member id named
    obtain ⟨row, found, user⟩ := accounted.named entry member id named
    obtain ⟨row', there, user', -, -⟩ := same.found found
    exact ⟨row', there, user'.trans user⟩
  · rw [same.ledger]
    exact accounted.once
  · rw [same.ledger]
    intro id row' there mine isOpen entry member named
    obtain ⟨row, found, user, hold, status⟩ := same.symm.found there
    have covers := accounted.covered id row found (user.trans mine) (status.trans isOpen) entry member named
    exact covers.trans (le_of_eq hold)

theorem Accounted.session_ne (accounted : Accounted userId s) {id id' : Uuid} (absent : s.sessions.lookup id = none)
    {entry : LedgerEntry Uuid} (member : entry ∈ s.ledger)
    (named : entry.externalReference = some (.session id')) : id' ≠ id := by
  rintro rfl
  obtain ⟨row, found, -⟩ := accounted.named entry member id' named
  cases absent.symm.trans found

theorem Accounted.opened (accounted : Accounted userId s) {id : Uuid} {row : ToolUsageSession Uuid}
    (absent : s.sessions.lookup id = none) (sessions : s'.sessions = s.sessions.insert id row)
    (ledger : s'.ledger = s.ledger) :
    Accounted userId s' ∧
      s'.uncommitted userId = s.uncommitted userId - if row.userId = userId ∧
        row.status = .open_ then row.holdAmount else 0 := by
  have rows : ∀ entry ∈ s.ledger, ∀ id', entry.externalReference = some (.session id') →
      s'.sessions.lookup id' = s.sessions.lookup id' := by
    intro entry member id' named
    rw [sessions, AList.lookup_insert_ne (accounted.session_ne absent member named)]
  refine ⟨⟨?_, ?_, ?_⟩, ?_⟩
  · rw [ledger]
    intro entry member id' named
    obtain ⟨row, found, user⟩ := accounted.named entry member id' named
    exact ⟨row, (rows entry member id' named).trans found, user⟩
  · rw [ledger]
    exact accounted.once
  · rw [ledger]
    intro id' row' found mine isOpen entry member named
    exact accounted.covered id' row' ((rows entry member id' named).symm.trans found) mine isOpen entry member named
  · have balance : s'.clearedBalance userId = s.clearedBalance userId :=
      clearedBalance_congr ledger fun entry member => pending_congr (rows entry member)
    unfold uncommitted sumOpenToolHolds
    rw [balance, sessions, AList.total_insert_of_none absent]
    linarith

/-- A session is closed, and nothing else is written. -/
structure Closes (s s' : BillingTables Uuid) (id : Uuid) (row row' : ToolUsageSession Uuid) : Prop where
  found : s.sessions.lookup id = some row
  isOpen : row.status = .open_
  sessions : s'.sessions = s.sessions.insert id row'
  ledger : s'.ledger = s.ledger
  user : row'.userId = row.userId
  closed : row'.status ≠ .open_

section Closing
variable {id : Uuid} {row row' : ToolUsageSession Uuid}

theorem Closes.here (closes : Closes s s' id row row') : s'.sessions.lookup id = some row' := by
  rw [closes.sessions]
  exact AList.lookup_insert s.sessions

theorem Closes.elsewhere (closes : Closes s s' id row row') {other : Uuid} (different : other ≠ id) :
    s'.sessions.lookup other = s.sessions.lookup other := by
  rw [closes.sessions, AList.lookup_insert_ne different]

theorem Closes.holds (closes : Closes s s' id row row') (userId : Uuid) :
    s'.sumOpenToolHolds userId = s.sumOpenToolHolds userId - if row.userId = userId then row.holdAmount else 0 := by
  unfold sumOpenToolHolds
  rw [closes.sessions, AList.total_insert_of_some closes.found]
  simp only [closes.isOpen, closes.closed, and_true, and_false, if_false, add_zero]

theorem Accounted.of_closes (accounted : Accounted userId s) (closes : Closes s s' id row row') :
    Accounted userId s' := by
  refine ⟨?_, ?_, ?_⟩
  · rw [closes.ledger]
    intro entry member id' named
    obtain ⟨old, there, theirs⟩ := accounted.named entry member id' named
    by_cases same : id' = id
    · subst same
      obtain rfl := Option.some.inj (closes.found.symm.trans there)
      exact ⟨row', closes.here, closes.user.trans theirs⟩
    · exact ⟨old, (closes.elsewhere same).trans there, theirs⟩
  · rw [closes.ledger]
    exact accounted.once
  · rw [closes.ledger]
    intro id' old there mine open' entry member named
    by_cases same : id' = id
    · subst same
      obtain rfl := Option.some.inj (closes.here.symm.trans there)
      exact absurd open' closes.closed
    · exact accounted.covered id' old ((closes.elsewhere same).symm.trans there) mine open' entry member named

/-- The cleared balance with the one debit in a session's name apart from the rest, which closing
the session leaves as it was. -/
theorem clearedBalance_of_closes (accounted : Accounted userId s) (closes : Closes s s' id row row')
    {debit : LedgerEntry Uuid}
    (member : debit ∈ s.ledger) (named : debit.externalReference = some (.session id)) : ∃ rest,
      s.clearedBalance userId = rest + (if debit.userId = userId then s.cleared debit else 0) ∧
      s'.clearedBalance userId = rest + if debit.userId = userId then s'.cleared debit else 0 := by
  obtain ⟨front, back, split⟩ := List.append_of_mem member
  have others : ∀ entry ∈ front ++ back, entry.externalReference ≠ some (.session id) := by
    intro entry among named'
    have once := accounted.once
    rw [split, List.filterMap_append, List.filterMap_cons_some named, List.nodup_middle, ← List.filterMap_append,
      List.nodup_cons] at once
    exact once.1 (List.mem_filterMap.mpr ⟨entry, among, named'⟩)
  have unmoved : ∀ entry ∈ front ++ back, s'.cleared entry = s.cleared entry := by
    intro entry among
    unfold cleared
    rw [pending_congr fun id' named' => closes.elsewhere ?_]
    rintro rfl
    exact others entry among named'
  have sums : ∀ t : BillingTables Uuid, t.ledger = s.ledger → t.clearedBalance userId =
      ((front ++ back).map fun entry => if entry.userId = userId then t.cleared entry else 0).sum +
        if debit.userId = userId then t.cleared debit else 0 := by
    intro t same
    unfold clearedBalance
    rw [same, split]
    simp only [List.map_append, List.map_cons, List.sum_append, List.sum_cons]
    ring
  have rest : ((front ++ back).map fun entry => if entry.userId = userId then s'.cleared entry else 0) =
      (front ++ back).map fun entry => if entry.userId = userId then s.cleared entry else 0 := by
    refine List.map_congr_left fun entry among => ?_
    rw [unmoved entry among]
  exact ⟨_, sums s rfl, by rw [sums s' closes.ledger, rest]⟩

/-- The hold that is let go covers the debit that now counts in full. -/
theorem uncommitted_le_of_closes (accounted : Accounted userId s) (closes : Closes s s' id row row')
    (posted : s.ledgerEntryExistsForReference (.session id) = true) :
    s.uncommitted userId ≤ s'.uncommitted userId := by
  obtain ⟨debit, member, named⟩ := mem_of_ledgerEntryExists.mp posted
  obtain ⟨rest, before, after⟩ := clearedBalance_of_closes accounted closes member named
  obtain ⟨owner, there, theirs⟩ := accounted.named debit member id named
  obtain rfl := Option.some.inj (closes.found.symm.trans there)
  unfold uncommitted
  rw [before, after, closes.holds, ← theirs]
  split
  · rename_i mine
    have covers := accounted.covered id row closes.found mine closes.isOpen debit member named
    have half : s.cleared debit = max debit.amount 0 :=
      if_pos (pending_iff.mpr ⟨id, row, named, closes.found, closes.isOpen⟩)
    have whole := s'.le_cleared debit
    have parts : max debit.amount 0 - max 0 (-debit.amount) = debit.amount := by
      rcases le_total 0 debit.amount with credit | spent
      · rw [max_eq_left credit, max_eq_left (neg_nonpos.mpr credit), sub_zero]
      · rw [max_eq_right spent, max_eq_right (neg_nonneg.mpr spent), zero_sub, neg_neg]
    linarith
  · linarith

end Closing

section Posting
variable {entry : LedgerEntry Uuid}

theorem Accounted.of_posted (accounted : Accounted userId s)
    (new : ∀ reference, entry.externalReference = some reference → s.ledgerEntryExistsForReference reference = false)
    (ledger : s'.ledger = s.ledger ++ [entry]) (sessions : s'.sessions = s.sessions)
    (proper : s.Proper (.insertLedgerEntry entry)) (lawful : s.Lawful userId (.insertLedgerEntry entry)) :
    Accounted userId s' := by
  refine ⟨?_, ?_, ?_⟩
  · rw [ledger, sessions]
    intro other member id named
    rcases List.mem_append.mp member with old | last
    · exact accounted.named other old id named
    · obtain rfl := List.mem_singleton.mp last
      obtain ⟨row, found, user, -⟩ := proper id named
      exact ⟨row, found, user⟩
  · rw [ledger, List.filterMap_append]
    cases named : entry.externalReference with
    | none => simpa only [List.filterMap_cons_none named, List.filterMap_nil, List.append_nil] using accounted.once
    | some reference =>
      rw [List.filterMap_cons_some named, List.filterMap_nil]
      refine List.Nodup.append accounted.once (List.nodup_singleton _) ?_
      intro other there same
      obtain rfl := List.mem_singleton.mp same
      obtain ⟨old, member, named'⟩ := List.mem_filterMap.mp there
      have taken := mem_of_ledgerEntryExists.mpr ⟨old, member, named'⟩
      rw [new other named] at taken
      cases taken
  · rw [ledger, sessions]
    intro id row found mine isOpen other member named
    rcases List.mem_append.mp member with old | last
    · exact accounted.covered id row found mine isOpen other old named
    · obtain rfl := List.mem_singleton.mp last
      obtain ⟨owner, there, theirs, -⟩ := proper id named
      obtain rfl := Option.some.inj (found.symm.trans there)
      have covers := lawful (theirs.symm.trans mine)
      rw [named] at covers
      exact covers row found

/-- A debit in a session's name waits for the session; any other is no more than there is. -/
theorem uncommitted_of_posted (new : ∀ reference, entry.externalReference = some reference →
      s.ledgerEntryExistsForReference reference = false)
    (ledger : s'.ledger = s.ledger ++ [entry]) (sessions : s'.sessions = s.sessions)
    (proper : s.Proper (.insertLedgerEntry entry)) (lawful : s.Lawful userId (.insertLedgerEntry entry))
    (funds : 0 ≤ s.uncommitted userId) : 0 ≤ s'.uncommitted userId := by
  have unpending : ∀ entry, s'.pending entry = s.pending entry := fun entry =>
    pending_congr fun id _ => by rw [sessions]
  have balance : s'.clearedBalance userId = s.clearedBalance userId +
      if entry.userId = userId then s.cleared entry else 0 := by
    unfold clearedBalance
    rw [ledger]
    simp only [List.map_append, List.map_cons, List.map_nil, List.sum_append, List.sum_singleton, cleared, unpending]
  have holds : s'.sumOpenToolHolds userId = s.sumOpenToolHolds userId := by
    unfold sumOpenToolHolds
    rw [sessions]
  have spends : s'.uncommitted userId = s.uncommitted userId + if entry.userId = userId then s.cleared entry
      else 0 := by
    unfold uncommitted
    rw [balance, holds]
    ring
  rw [spends]
  split
  · rename_i mine
    have spent := lawful mine
    by_cases half : s.pending entry = true
    · have none_ : 0 ≤ s.cleared entry := by
        rw [cleared, if_pos half]
        exact le_max_right _ _
      linarith
    · have amount := s.le_cleared entry
      split at spent
      · rename_i id named
        -- its session waits for it, so the debit would be pending
        obtain ⟨row, found, -, waits⟩ := proper id named
        rcases waits with isOpen | taken
        · exact absurd (pending_iff.mpr ⟨id, row, named, found, isOpen⟩) half
        · cases (new _ named).symm.trans taken
      · linarith
  · linarith

end Posting

/-- One statement: what was accounted for stays so, and no more is spent than there is. -/
theorem Accounted.perform (accounted : Accounted userId s) (funds : 0 ≤ s.uncommitted userId)
    (rules : BillingRules Uuid)
    {change : BillingWrite Uuid} (proper : s.Proper change) (lawful : s.Lawful userId change) :
    Accounted userId (s.perform rules change).1 ∧ 0 ≤ (s.perform rules change).1.uncommitted userId := by
  have moves := perform_moves rules s change
  generalize (s.perform rules change).1 = s' at moves
  cases moves with
  | none same =>
    refine ⟨accounted.same same, ?_⟩
    have balance : s'.clearedBalance userId = s.clearedBalance userId :=
      clearedBalance_congr same.ledger fun entry _ => same.pending entry
    unfold uncommitted at funds ⊢
    rw [balance, same.holds]
    exact funds
  | @opened id row absent sessions ledger =>
    obtain ⟨after, spent⟩ := accounted.opened absent sessions ledger
    refine ⟨after, ?_⟩
    rw [spent]
    split
    · rename_i mine
      have within := lawful mine.1 mine.2
      linarith
    · linarith
  | @closed id row reported charged ledgerEntry status found isOpen sessions ledger =>
    have closes : Closes s s' id row
        { row with
          reportedSeconds := reported, chargedAmount := some charged, ledgerEntryId := ledgerEntry, status } :=
      ⟨found, isOpen, sessions, ledger, rfl, proper.1⟩
    exact ⟨accounted.of_closes closes, funds.trans (uncommitted_le_of_closes accounted closes proper.2)⟩
  | posted new ledger sessions =>
    exact ⟨accounted.of_posted new ledger sessions proper lawful,
      uncommitted_of_posted new ledger sessions proper lawful funds⟩

end Steps
end BillingTables

/-- All requests, the statements of each interleaved with those of the others. -/
def billingService {Uuid : Type} [DecidableEq Uuid] (rules : BillingRules Uuid) :
    Service (BillingTables Uuid) (BillingWrite Uuid) (Except DbError Nat) (BillingAnswer Uuid)
      (BillingRequest Uuid) where
  perform := BillingTables.perform rules
  serve := BillingRequest.serve rules

abbrev BillingPool (Uuid : Type) :=
  Service.Pool (BillingTables Uuid) (BillingWrite Uuid) (Except DbError Nat) (BillingAnswer Uuid)
    (BillingRequest Uuid)

section Interleaved
variable {Uuid : Type} [DecidableEq Uuid] {rules : BillingRules Uuid}

/-- Served with nobody in between, an opening holds nothing or no more than is available. -/
theorem hold_le_of_act {s : BillingTables Uuid} {now : Int} {id id' userId toolId : Uuid}
    {row : ToolUsageSession Uuid}
    (acts : (BillingRequest.open_ rules now id userId toolId).act s = .inr (.insertToolSession id' row)) :
    row.holdAmount = 0 ∨ row.holdAmount ≤ s.availableBalance userId := by
  simp only [BillingRequest.open_, Routine.act] at acts
  split at acts
  · cases acts
  · rename_i tool there
    split at acts
    · cases acts
    · simp only [BillingRequest.openLoaded, Routine.act] at acts
      split at acts
      · cases acts
      · simp only [Routine.act] at acts
        split at acts
        · cases acts
        · simp only [Routine.act] at acts
          split at acts
          · cases acts
          · rename_i enough
            simp only [Routine.act] at acts
            cases acts
            dsimp only
            split
            · rename_i held
              rw [held.2, Bool.true_and, Bool.not_eq_true, decide_eq_false_iff_not, not_lt] at enough
              exact .inr enough
            · exact .inl rfl

omit [DecidableEq Uuid] in
theorem openSession_of_allowed {request : BillingRequest Uuid} {id : Uuid} {row : ToolUsageSession Uuid}
    (allowed : request.Allowed (.insertToolSession id row)) :
    ∃ now, request = .openSession now id row.userId row.toolId := by
  cases request with
  | openSession now id' userId toolId =>
    obtain ⟨rfl, rfl, rfl, -⟩ := allowed
    exact ⟨now, rfl⟩
  | _ => cases allowed

/-- A statement of the member's that lands on the state its request was decided on, as far as
that matters: an opening would write the same row if it were served there and then; a debit is
covered by its session's hold; nothing else takes more than is uncommitted. -/
def Orderly (rules : BillingRules Uuid) (userId : Uuid)
    (pool : Service.Pool (BillingTables Uuid) (BillingWrite Uuid) (Except DbError Nat) (BillingAnswer Uuid)
      (BillingRequest Uuid))
    (event : Service.Event (BillingRequest Uuid)) : Prop :=
  ∀ performed, ((billingService rules).step pool event).2 = some performed →
    match performed.change with
    | .insertToolSession _ row =>
      row.userId = userId → (performed.request.serve rules).act pool.state = .inr performed.change
    | change => pool.state.Lawful userId change

variable {event : Service.Event (BillingRequest Uuid)}

theorem performed_proper (start : BillingTables Uuid) (past : List (Service.Event (BillingRequest Uuid)))
    {performed : Service.Performed (BillingWrite Uuid) (BillingRequest Uuid)}
    (made : ((billingService rules).step (((billingService rules).machine start).run past) event).2 =
      some performed) :
    (((billingService rules).machine start).run past).state.Proper performed.change := by
  have guarded := Service.guarded_run (billingService rules) BillingTables.Later.refl
    (fun _ _ _ first second => first.trans second)
    (fun s change proper => (BillingTables.perform_moves rules s change).later proper)
    (BillingRequest.serve_relies rules) start past
  exact guarded.proper_of_performed BillingTables.Later.refl made

theorem performed_lawful (start : BillingTables Uuid) (past : List (Service.Event (BillingRequest Uuid)))
    {userId : Uuid} {performed : Service.Performed (BillingWrite Uuid) (BillingRequest Uuid)}
    (orderly : Orderly rules userId (((billingService rules).machine start).run past) event)
    (funds : 0 ≤ (((billingService rules).machine start).run past).state.uncommitted userId)
    (made : ((billingService rules).step (((billingService rules).machine start).run past) event).2 =
      some performed) :
    (((billingService rules).machine start).run past).state.Lawful userId performed.change := by
  have confined := Service.confined_run (billingService rules) (BillingRequest.serve_meets rules) start past
  have allowed := confined.allowed_of_performed made
  have law := orderly performed made
  obtain ⟨change, request, quiet⟩ := performed
  cases change with
  | insertToolSession id row =>
    intro mine _
    obtain ⟨now, asked⟩ := openSession_of_allowed allowed
    have acts := law mine
    dsimp only at asked acts
    rw [asked] at acts
    rcases hold_le_of_act acts with free | within
    · rw [free]
      exact funds
    · rw [mine] at within
      exact within.trans (BillingTables.availableBalance_le _ userId)
  | _ => exact law

def BillingWrite.opens : BillingWrite Uuid → Bool
  | .insertToolSession .. => true
  | _ => false

theorem orderly_of_undisturbed (start : BillingTables Uuid) (past : List (Service.Event (BillingRequest Uuid)))
    {userId : Uuid}
    (quiet : ∀ performed, ((billingService rules).step (((billingService rules).machine start).run past)
      event).2 = some performed → performed.undisturbed = true ∧ performed.change.opens = true) :
    Orderly rules userId (((billingService rules).machine start).run past) event := by
  intro performed made
  obtain ⟨undisturbed, opening⟩ := quiet performed made
  have alone := Service.act_of_performed (Service.fresh_run (billingService rules) start past) made undisturbed
  cases change : performed.change with
  | insertToolSession id row =>
    rw [change] at alone
    exact fun _ => alone
  | _ =>
    rw [change] at opening
    cases opening

/-- However the requests interleave: a member whose available balance is not negative at the
start keeps it so, as long as each of their openings lands where it would still be let through
and the other statements spend no more than is theirs to spend. While a settlement is half
made its debit is not counted, as its hold is. -/
theorem held_funds_spent_once {start : BillingTables Uuid} {userId : Uuid} (accounted : start.Accounted userId)
    (funds : 0 ≤ start.availableBalance userId) {schedule : List (Service.Event (BillingRequest Uuid))}
    (orderly : EveryStep (fun past event => Orderly rules userId
      (((billingService rules).machine start).run past) event)
      schedule) :
    ∀ past, past <+: schedule →
      let s := (((billingService rules).machine start).run past).state
      0 ≤ s.uncommitted userId ∧
        ((∀ entry ∈ s.ledger, entry.userId = userId → s.pending entry = false) →
          0 ≤ s.availableBalance userId ∧ s.sumOpenToolHolds userId ≤ s.userBalance userId) := by
  intro past front s
  have good : s.Accounted userId ∧ 0 ≤ s.uncommitted userId := by
    refine Machine.run_keeps ((billingService rules).machine start)
      (fun pool => pool.state.Accounted userId ∧ 0 ≤ pool.state.uncommitted userId)
      ⟨accounted, funds.trans (BillingTables.availableBalance_le start userId)⟩ ?_ orderly front
    intro past event good here
    rcases (billingService rules).step_state (((billingService rules).machine start).run past) event
      with ⟨-, same⟩ | ⟨performed, made, after⟩
    · have unmoved : (((billingService rules).machine start).step
        (((billingService rules).machine start).run past) event).1.state =
        (((billingService rules).machine start).run past).state := same
      rw [unmoved]
      exact good
    · have moved : (((billingService rules).machine start).step
        (((billingService rules).machine start).run past) event).1.state =
        (BillingTables.perform rules (((billingService rules).machine start).run past).state
          performed.change).1 := after
      rw [moved]
      exact good.1.perform good.2 rules (performed_proper start past made)
        (performed_lawful start past here good.2 made)
  refine ⟨good.2, fun settled => ?_⟩
  have available : 0 ≤ s.availableBalance userId := (BillingTables.availableBalance_eq settled).symm ▸ good.2
  exact ⟨available, sub_nonneg.mp available⟩

end Interleaved

section
/-- Two tools at ten a session, and a member with ten. -/
def twoTools : BillingTables Nat where
  config := ⟨.prepaid, false, 0, 60, 20, 3⟩
  users := Table.empty.insert 2 ⟨none⟩
  memberAccess _ := true
  tools := (Table.empty.insert 7 ⟨some 10, none, none, "occupancy"⟩).insert 8 ⟨some 10, none, none, "occupancy"⟩
  tiers := Table.empty
  assignments := Table.empty
  ledger := [⟨2, .cashPayment, 10, none⟩]
  sessions := ∅

/-- The member starts both tools; the steps of the two requests follow. -/
def bothStarted (steps : List Nat) : List (Service.Event (BillingRequest Nat)) :=
  [Service.Event.arrive (BillingRequest.openSession 0 1 2 7), .arrive (.openSession 0 3 2 8)] ++
    steps.map Service.Event.step

def oneByOne : List Nat := List.replicate 9 0 ++ List.replicate 9 1

/-- Both pass the gate before either hold is in. -/
def abreast : List Nat := List.replicate 8 0 ++ List.replicate 8 1 ++ [0, 1]

theorem held_funds_spent_once_oneByOne :
    let s := (((billingService plainRules).machine twoTools).run (bothStarted oneByOne)).state
    s.sumOpenToolHolds 2 = 10 ∧ 0 ≤ s.availableBalance 2 := by
  have accounted : twoTools.Accounted 2 := by
    refine ⟨?_, by decide, ?_⟩
    · intro entry member id named
      obtain rfl := List.mem_singleton.mp member
      cases named
    · intro id row found
      cases found
  have quiet : ∀ n (bound : n < (bothStarted oneByOne).length),
      (((billingService plainRules).step
        (((billingService plainRules).machine twoTools).run ((bothStarted oneByOne).take n))
        (bothStarted oneByOne)[n]).2.all fun performed =>
          performed.undisturbed && performed.change.opens) = true := by
    decide +kernel
  have orderly : EveryStep (fun past event => Orderly plainRules 2
    (((billingService plainRules).machine twoTools).run past) event)
      (bothStarted oneByOne) := by
    refine EveryStep.of_getElem fun n bound => orderly_of_undisturbed twoTools _ fun performed made => ?_
    have here := quiet n bound
    rw [made, Option.all_some, Bool.and_eq_true] at here
    exact here
  have all := held_funds_spent_once accounted (by decide +kernel) orderly _ List.prefix_rfl
  refine ⟨by decide +kernel, (all.2 ?_).1⟩
  decide +kernel

theorem held_funds_spent_twice :
    let s := (((billingService plainRules).machine twoTools).run (bothStarted abreast)).state
    twoTools.availableBalance 2 = 10 ∧ s.userBalance 2 = 10 ∧ s.sumOpenToolHolds 2 = 20 ∧
      s.availableBalance 2 = -10 := by
  decide +kernel

end

end CoopSpaces

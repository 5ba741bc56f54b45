import CoopSpaces.Server.Holds

namespace CoopSpaces

/-- The figures usage is added up in. -/
inductive UsageFigure
  | sensed
  | unsensed
  | active
  deriving DecidableEq

namespace ToolUsageSession
variable {Uuid : Type}

def figure (row : ToolUsageSession Uuid) : UsageFigure → Option Rat
  | .sensed => row.reportedSensedSeconds
  | .unsensed => row.reportedUnsensedSeconds
  | .active => row.reportedActiveSeconds

/-- The reported seconds are the sensed ones, or the others where nothing was sensed. -/
def Figured (row : ToolUsageSession Uuid) : Prop :=
  row.reportedSeconds = row.reportedSensedSeconds.or row.reportedUnsensedSeconds

end ToolUsageSession

section Added
variable {Uuid : Type} [DecidableEq Uuid] (id : Uuid) (figure : UsageFigure)

/-- What a statement is to add to a session's figure. -/
def BillingWrite.added : BillingWrite Uuid → Rat
  | .addReportedSeconds other seconds sensed =>
    if other = id ∧ figure = (if sensed then .sensed else .unsensed) then seconds else 0
  | .addReportedActiveSeconds other seconds => if other = id ∧ figure = .active then seconds else 0
  | _ => 0

/-- What the statements of a log are to add to it, all together. -/
def addedBy (log : List (Nat × BillingWrite Uuid)) : Rat := (log.map fun entry => entry.2.added id figure).sum

end Added

namespace BillingTables
variable {Uuid : Type} [DecidableEq Uuid]

/-- The figure of a session, none where there is no session. -/
def usage (s : BillingTables Uuid) (id : Uuid) (figure : UsageFigure) : Rat :=
  ((s.sessions.lookup id).bind fun row => row.figure figure).getD 0

/-- A closed session's charge is debited in its name by the entry its row names. -/
def Linked (s : BillingTables Uuid) (id : Uuid) (row : ToolUsageSession Uuid) : Prop :=
  row.status ≠ .open_ → ∀ charge, row.chargedAmount = some charge → ∃ place entry, row.ledgerEntryId = some place ∧
    s.ledger[place]? = some entry ∧ entry.externalReference = some (.session id) ∧ entry.amount = -charge

/-- There is one debit at most for a session, and every closed one has its own. -/
structure Reconciled (s : BillingTables Uuid) : Prop where
  once : ∀ id, s.ledger.countP (fun entry => decide (entry.externalReference = some (.session id))) ≤ 1
  linked : ∀ id row, s.sessions.lookup id = some row → s.Linked id row
  figured : ∀ id row, s.sessions.lookup id = some row → row.Figured

/-- What stands under a session's id after a statement: what stood there, or what the statement
makes of it while it is open. -/
inductive RowAfter (s : BillingTables Uuid) (id : Uuid) : BillingWrite Uuid → ToolUsageSession Uuid → Prop
  | kept {change : BillingWrite Uuid} {row : ToolUsageSession Uuid} (tierId : Option Uuid)
    (found : s.sessions.lookup id = some row)
      (idle : row.status = .open_ → ∀ figure, change.added id figure = 0) : RowAfter s id change { row with tierId }
  | opened {row : ToolUsageSession Uuid} (absent : s.sessions.lookup id = none) :
    RowAfter s id (.insertToolSession id row) row
  | reported {row : ToolUsageSession Uuid} {seconds : Rat} {sensed : Bool} (found : s.sessions.lookup id = some row)
      (isOpen : row.status = .open_) :
        RowAfter s id (.addReportedSeconds id seconds sensed) (row.addReported seconds sensed)
  | worked {row : ToolUsageSession Uuid} {seconds : Rat} (found : s.sessions.lookup id = some row)
    (isOpen : row.status = .open_) :
      RowAfter s id (.addReportedActiveSeconds id seconds)
        { row with reportedActiveSeconds := some (row.reportedActiveSeconds.getD 0 + seconds) }
  | closed {row : ToolUsageSession Uuid} {reported : Option Rat} {charged : Rat} {ledgerEntry : Option Nat}
    {status : SessionStatus}
      (found : s.sessions.lookup id = some row) (isOpen : row.status = .open_) :
      RowAfter s id (.settleToolSession id reported charged ledgerEntry status)
        { row with reportedSeconds := reported, chargedAmount := some charged, ledgerEntryId := ledgerEntry, status }

section Rows
variable {s : BillingTables Uuid} {id : Uuid} {change : BillingWrite Uuid} {row : ToolUsageSession Uuid}

theorem RowAfter.same (found : s.sessions.lookup id = some row)
    (idle : row.status = .open_ → ∀ figure, change.added id figure = 0) :
    RowAfter s id change row := .kept row.tierId found idle

theorem lookup_updateOpen {other : Uuid} {edit : ToolUsageSession Uuid → ToolUsageSession Uuid}
    (found : (s.updateOpen other edit).1.sessions.lookup id = some row) :
    (s.sessions.lookup id = some row ∧ (row.status = .open_ → id ≠ other)) ∨
      ∃ old, s.sessions.lookup id = some old ∧ old.status = .open_ ∧ id = other ∧ row = edit old := by
  unfold updateOpen at found
  split at found
  · rename_i absent
    refine .inl ⟨found, fun _ same => ?_⟩
    rw [same, absent] at found
    cases found
  · rename_i old there
    split at found
    · rename_i isOpen
      by_cases same : id = other
      · subst same
        rw [AList.lookup_insert] at found
        exact .inr ⟨old, there, isOpen, rfl, (Option.some.inj found).symm⟩
      · rw [AList.lookup_insert_ne same] at found
        exact .inl ⟨found, fun _ => same⟩
    · rename_i closed
      refine .inl ⟨found, fun isOpen same => ?_⟩
      rw [same, there] at found
      obtain rfl := Option.some.inj found
      exact closed isOpen

variable (rules : BillingRules Uuid)

/-- Said once of every statement. -/
theorem rowAfter_perform (found : (s.perform rules change).1.sessions.lookup id = some row) :
    RowAfter s id change row := by
  cases change with
  | insertToolSession other new =>
    simp only [BillingTables.perform] at found
    split at found
    · exact .same found fun _ _ => rfl
    · rename_i fresh
      split at found
      · exact .same found fun _ _ => rfl
      · by_cases same : id = other
        · subst same
          rw [AList.lookup_insert] at found
          obtain rfl := Option.some.inj found
          refine .opened ?_
          rw [Bool.or_eq_true, not_or, Bool.not_eq_true, Option.isSome_eq_false_iff, Option.isNone_iff_eq_none]
            at fresh
          exact fresh.1
        · rw [AList.lookup_insert_ne same] at found
          exact .same found fun _ _ => rfl
  | addReportedSeconds other seconds sensed =>
    rcases lookup_updateOpen found with ⟨there, unmoved⟩ | ⟨old, there, isOpen, rfl, rfl⟩
    · exact .same there fun isOpen figure => if_neg fun both => unmoved isOpen both.1.symm
    · exact .reported there isOpen
  | addReportedActiveSeconds other seconds =>
    rcases lookup_updateOpen found with ⟨there, unmoved⟩ | ⟨old, there, isOpen, rfl, rfl⟩
    · exact .same there fun isOpen figure => if_neg fun both => unmoved isOpen both.1.symm
    · exact .worked there isOpen
  | settleToolSession other reported charged ledgerEntry status =>
    rcases lookup_updateOpen found with ⟨there, -⟩ | ⟨old, there, isOpen, rfl, rfl⟩
    · exact .same there fun _ _ => rfl
    · exact .closed there isOpen
  | insertLedgerEntry entry =>
    rcases perform_insertLedgerEntry rules s entry with ⟨e, refused⟩ | posted
    · rw [refused] at found
      exact .same found fun _ _ => rfl
    · rw [posted] at found
      exact .same found fun _ _ => rfl
  | setMembershipNextDue userId next =>
    simp only [BillingTables.perform] at found
    split at found
    · exact .same found fun _ _ => rfl
    · exact .same found fun _ _ => rfl
  | applyRole userId entitled => exact .same found fun _ _ => rfl
  | edit edit =>
    cases edit with
    | deleteTier tierId =>
      simp only [BillingTables.perform, BillingTables.editCatalog, AList.lookup_mapVal] at found
      obtain ⟨old, there, rfl⟩ := Option.map_eq_some_iff.mp found
      exact .kept _ there fun _ _ => rfl
    | assignTier userId toolId tierId =>
      simp only [BillingTables.perform, BillingTables.editCatalog] at found
      split at found
      · exact .same found fun _ _ => rfl
      · exact .same found fun _ _ => rfl
    | setTool toolId row' => exact .same found fun _ _ => rfl
    | setTier tierId row' => exact .same found fun _ _ => rfl
    | clearTier userId toolId => exact .same found fun _ _ => rfl
    | configure config => exact .same found fun _ _ => rfl

/-- No statement takes a session away. -/
theorem absent_of_perform (absent : (s.perform rules change).1.sessions.lookup id = none) :
    s.sessions.lookup id = none := by
  by_contra present
  obtain ⟨row, found⟩ := Option.ne_none_iff_exists'.mp present
  have inserted : ∀ (other : Uuid) (new : ToolUsageSession Uuid),
    (s.perform rules change).1.sessions = s.sessions.insert other new →
      False := by
    intro other new sessions
    rw [sessions] at absent
    by_cases same : id = other
    · rw [same, AList.lookup_insert] at absent
      cases absent
    · rw [AList.lookup_insert_ne same, found] at absent
      cases absent
  cases perform_moves rules s change with
  | none same =>
    obtain ⟨row', there, -⟩ := same.found found
    cases absent.symm.trans there
  | opened _ sessions _ => exact inserted _ _ sessions
  | closed _ _ sessions _ => exact inserted _ _ sessions
  | posted _ _ sessions =>
    rw [sessions, found] at absent
    cases absent

theorem ledger_perform (s : BillingTables Uuid) (change : BillingWrite Uuid) :
    (s.perform rules change).1.ledger = s.ledger ∨ ∃ entry, (s.perform rules change).1.ledger = s.ledger ++ [entry] ∧
      ∀ reference, entry.externalReference = some reference → s.ledgerEntryExistsForReference reference = false := by
  cases perform_moves rules s change with
  | none same => exact .inl same.ledger
  | opened _ _ ledger => exact .inl ledger
  | closed _ _ _ ledger => exact .inl ledger
  | posted new ledger _ => exact .inr ⟨_, ledger, new⟩

theorem getElem?_perform {place : Nat} {entry : LedgerEntry Uuid} (there : s.ledger[place]? = some entry) :
    (s.perform rules change).1.ledger[place]? = some entry := by
  rcases ledger_perform rules s change with same | ⟨new, longer, -⟩
  · rw [same]
    exact there
  · have inside : place < s.ledger.length := (List.getElem?_eq_some_iff.mp there).1
    rw [longer, List.getElem?_append_left inside]
    exact there

theorem once_perform (once : s.ledger.countP
    (fun entry => decide (entry.externalReference = some (.session id))) ≤ 1) :
    (s.perform rules change).1.ledger.countP
    (fun entry => decide (entry.externalReference = some (.session id))) ≤ 1 := by
  rcases ledger_perform rules s change with same | ⟨new, longer, fresh⟩
  · rw [same]
    exact once
  · rw [longer, List.countP_append, List.countP_singleton]
    split
    · rename_i named
      have none_ := fresh _ (of_decide_eq_true named)
      have zero : s.ledger.countP (fun entry => decide (entry.externalReference = some (.session id))) = 0 := by
        refine List.countP_eq_zero.mpr fun entry member same => ?_
        have there := mem_of_ledgerEntryExists.mpr ⟨entry, member, of_decide_eq_true same⟩
        rw [none_] at there
        cases there
      omega
    · omega

end Rows

/-- A statement that does not lose what was reported: a closing is made by the call that posted
the debit, with the reported seconds as they still are, and a report lands while its session is
open. -/
def Lands (s : BillingTables Uuid) : BillingWrite Uuid → Prop
  | .settleToolSession id reported _ ledgerEntry _ =>
    ∀ row, s.sessions.lookup id = some row → row.status = .open_ → ledgerEntry.isSome = true ∧
      row.reportedSeconds = reported
  | .addReportedSeconds id _ _ => ∃ row, s.sessions.lookup id = some row ∧ row.status = .open_
  | .addReportedActiveSeconds id _ => ∃ row, s.sessions.lookup id = some row ∧ row.status = .open_
  | _ => True

instance (s : BillingTables Uuid) (change : BillingWrite Uuid) : Decidable (s.Lands change) :=
  match change with
  | .settleToolSession id reported _ ledgerEntry _ => inferInstanceAs (Decidable (∀ row ∈ s.sessions.lookup id,
      row.status = .open_ → ledgerEntry.isSome = true ∧ row.reportedSeconds = reported))
  | .addReportedSeconds id _ _ => inferInstanceAs (Decidable (∃ row ∈ s.sessions.lookup id, row.status = .open_))
  | .addReportedActiveSeconds id _ => inferInstanceAs (Decidable (∃ row ∈ s.sessions.lookup id, row.status = .open_))
  | .insertToolSession .. => inferInstanceAs (Decidable True)
  | .insertLedgerEntry .. => inferInstanceAs (Decidable True)
  | .setMembershipNextDue .. => inferInstanceAs (Decidable True)
  | .applyRole .. => inferInstanceAs (Decidable True)
  | .edit .. => inferInstanceAs (Decidable True)

/-- What every call keeps to, whoever runs in between: a session is opened unused, and closed by
the entry the call has posted for it, if that is the one it names. -/
def Settles (s : BillingTables Uuid) : BillingWrite Uuid → Prop
  | .insertToolSession _ row => row.status = .open_ ∧ row.Unused
  | .settleToolSession id _ charged ledgerEntry _ =>
    ∀ place, ledgerEntry = some place → ∃ entry, s.ledger[place]? = some entry ∧
      entry.externalReference = some (.session id) ∧ entry.amount = -charged
  | _ => True

section Steps
variable {s start : BillingTables Uuid} {change : BillingWrite Uuid} {rules : BillingRules Uuid}

theorem Reconciled.perform (reconciled : s.Reconciled) (settles : s.Settles change) (lands : s.Lands change) :
    (s.perform rules change).1.Reconciled := by
  refine ⟨fun id => once_perform rules (reconciled.once id), fun id row' found => ?_, fun id row' found => ?_⟩
  · intro closed charge charged
    cases rowAfter_perform rules found with
    | kept tierId there idle =>
      obtain ⟨place, entry, named, posted, debit⟩ := reconciled.linked id _ there closed charge charged
      exact ⟨place, entry, named, getElem?_perform rules posted, debit⟩
    | opened absent => exact absurd settles.1 closed
    | @reported row seconds sensed there isOpen =>
      have stays : (row.addReported seconds sensed).status = row.status := by
        unfold ToolUsageSession.addReported
        split <;> rfl
      exact absurd (stays.trans isOpen) closed
    | worked there isOpen => exact absurd isOpen closed
    | closed there isOpen =>
      obtain ⟨place, named⟩ := Option.isSome_iff_exists.mp (lands _ there isOpen).1
      obtain ⟨entry, posted, debit⟩ := settles place named
      cases charged
      exact ⟨place, entry, named, getElem?_perform rules posted, debit⟩
  · cases rowAfter_perform rules found with
    | @kept _ row tierId there idle => exact reconciled.figured id row there
    | opened absent =>
      have unused := settles.2
      unfold ToolUsageSession.Figured
      rw [unused.reported, unused.sensed, unused.unsensed]
      rfl
    | @reported row seconds sensed there isOpen =>
      have before : row.Figured := reconciled.figured id row there
      unfold ToolUsageSession.Figured at before ⊢
      unfold ToolUsageSession.addReported
      split
      · rfl
      · dsimp only
        split
        · rename_i silent
          rw [Option.isNone_iff_eq_none.mp silent]
          rfl
        · rename_i spoken
          cases figure : row.reportedSensedSeconds with
          | none => exact absurd (Option.isNone_iff_eq_none.mpr figure) spoken
          | some seconds =>
            rw [before, figure]
            rfl
    | @worked row _ there isOpen => exact reconciled.figured id row there
    | closed there isOpen =>
      have same := (lands _ there isOpen).2
      have before := reconciled.figured id _ there
      unfold ToolUsageSession.Figured at before ⊢
      rw [same] at before
      exact before

/-- Every statement that lands adds what it is to add. -/
theorem usage_perform (settles : s.Settles change) (lands : s.Lands change) (id : Uuid) (figure : UsageFigure) :
    (s.perform rules change).1.usage id figure = s.usage id figure + change.added id figure := by
  have silent : (¬ ∃ row, s.sessions.lookup id = some row ∧ row.status = .open_) → change.added id figure = 0 := by
    intro shut
    cases change with
    | addReportedSeconds other seconds sensed =>
      refine if_neg ?_
      rintro ⟨rfl, -⟩
      exact shut lands
    | addReportedActiveSeconds other seconds =>
      refine if_neg ?_
      rintro ⟨rfl, -⟩
      exact shut lands
    | _ => rfl
  unfold usage
  cases found : (s.perform rules change).1.sessions.lookup id with
  | none =>
    have absent := absent_of_perform rules found
    have nothing : change.added id figure = 0 := by
      refine silent ?_
      rintro ⟨row, there, -⟩
      cases absent.symm.trans there
    rw [absent, nothing, add_zero]
  | some row' =>
    cases rowAfter_perform rules found with
    | @kept _ row tierId there idle =>
      have nothing : change.added id figure = 0 := by
        by_cases isOpen : row.status = .open_
        · exact idle isOpen figure
        · refine silent ?_
          rintro ⟨row', there', open'⟩
          obtain rfl := Option.some.inj (there.symm.trans there')
          exact isOpen open'
      rw [there, nothing, add_zero]
      rfl
    | opened absent =>
      have unused := settles.2
      rw [absent]
      cases figure with
      | sensed => exact (congrArg (fun seconds => Option.getD seconds 0) unused.sensed).trans (add_zero 0).symm
      | unsensed => exact (congrArg (fun seconds => Option.getD seconds 0) unused.unsensed).trans (add_zero 0).symm
      | active => exact (congrArg (fun seconds => Option.getD seconds 0) unused.active).trans (add_zero 0).symm
    | @reported row seconds sensed there isOpen =>
      rw [there]
      cases sensed <;> cases figure <;> simp [BillingWrite.added, ToolUsageSession.addReported,
        ToolUsageSession.figure]
    | @worked row seconds there isOpen =>
      rw [there]
      cases figure <;> simp [BillingWrite.added, ToolUsageSession.figure]
    | @closed row reported charged ledgerEntry status there isOpen =>
      rw [there]
      exact (add_zero _).symm

end Steps

/-- What is posted stays, each entry in its place. -/
def KeepsLedger (s t : BillingTables Uuid) : Prop := ∀ (place : Nat) (entry : LedgerEntry Uuid),
  s.ledger[place]? = some entry → t.ledger[place]? = some entry

end BillingTables

namespace BillingRequest
variable {Uuid : Type} [DecidableEq Uuid] (rules : BillingRules Uuid)

/-- A settlement names the entry it has posted itself, whoever runs in between, or none. -/
theorem settle_settles (now : Int) (toolId : Uuid) (abandoned : Bool) (s : BillingTables Uuid) :
    (settle rules now toolId abandoned).Relies (BillingTables.perform rules) BillingTables.KeepsLedger
    BillingTables.Settles s := by
  intro first _
  dsimp only
  split
  · trivial
  · intro second _
    dsimp only
    split
    · trivial
    · rename_i id session found
      intro third _ fourth _
      dsimp only
      have unnamed : ∀ (charge : Rat) (after : Except DbError Nat → BillingRoutine Uuid) (t : BillingTables Uuid),
          (∀ reply, ∃ answer, after reply = .done answer) →
          Routine.Relies (BillingTables.perform rules) BillingTables.KeepsLedger BillingTables.Settles t
            (.write (.settleToolSession id session.reportedSeconds charge none
              (if abandoned then .abandoned else .settled)) after) :=
        fun charge after t once => Routine.WritesOnce.relies_write once fun u _ place named => nomatch named
      split
      · exact unnamed _ _ _ (by rintro (_ | _) <;> exact ⟨_, rfl⟩)
      · intro t _
        refine ⟨trivial, ?_⟩
        rcases perform_insertLedgerEntry rules t ⟨session.userId, .toolUsage,
            -settlementCharge rules.decimals third.config now _ session, some (.session id)⟩
          with ⟨e, refused⟩ | posted
        · rw [refused]
          cases e with
          | uniqueViolation => exact unnamed _ _ _ (by rintro (_ | _) <;> exact ⟨_, rfl⟩)
          | notFound => trivial
          | foreignKeyViolation => trivial
          | checkViolation => trivial
          | unrepresentableText => trivial
          | unavailable => trivial
        · rw [posted]
          refine Routine.WritesOnce.relies_write (by rintro (_ | _) <;> exact ⟨_, rfl⟩) fun u kept place named => ?_
          obtain rfl := Option.some.inj named
          exact ⟨_, kept t.ledger.length _ List.getElem?_concat_length, rfl, rfl⟩

theorem serve_settles (request : BillingRequest Uuid) (s : BillingTables Uuid) :
    (request.serve rules).Relies (BillingTables.perform rules) BillingTables.KeepsLedger BillingTables.Settles s := by
  have meets : (request.serve rules).Meets (fun _ => True) request.Allowed fun _ => True := serve_meets rules request
  by_cases settles : ∃ now toolId abandoned, request = .settleOpenSessionForTool now toolId abandoned
  · obtain ⟨now, toolId, abandoned, rfl⟩ := settles
    exact settle_settles rules now toolId abandoned s
  · refine meets.relies (fun s change allowed => ?_) s
    cases change with
    | insertToolSession id row =>
      cases request with
      | openSession now id' userId toolId => exact ⟨allowed.2.2.2.1, allowed.2.2.2.2⟩
      | _ => cases allowed
    | settleToolSession id reported charged ledgerEntry status =>
      cases request with
      | settleOpenSessionForTool now toolId abandoned => exact absurd ⟨now, toolId, abandoned, rfl⟩ settles
      | _ => cases allowed
    | _ => trivial

/-- What the answer to a usage report says, told by the statements made for it: one that is
accepted added its seconds, and its active seconds if they are a figure. -/
def Accepts (request : BillingRequest Uuid) (made : List (BillingWrite Uuid)) (answer : BillingAnswer Uuid) : Prop :=
  match request, answer with
  | .recordUsage _ seconds activeSeconds, .recorded true =>
    ∃ id reported, seconds = some reported ∧
      .addReportedSeconds id (thousandths reported) activeSeconds.isSome ∈ made ∧
      ∀ active, (activeSeconds.join.filter fun x => decide (0 ≤ x)) = some active →
        .addReportedActiveSeconds id (thousandths active) ∈ made
  | _, _ => True

theorem serve_accepts (request : BillingRequest Uuid) : (request.serve rules).Ends request.Accepts [] := by
  cases request with
  | recordUsage toolId seconds activeSeconds =>
    have refused : Accepts (.recordUsage toolId seconds activeSeconds) ([] : List (BillingWrite Uuid))
      (.recorded false) := trivial
    show (usage toolId seconds activeSeconds).Ends _ []
    unfold usage
    split
    · exact refused
    · rename_i reported valid
      obtain ⟨given, -⟩ := Option.filter_eq_some_iff.mp valid
      intro s
      dsimp only
      split
      · exact refused
      · rename_i id session found
        rintro (e | n)
        · trivial
        · dsimp only
          split
          · rename_i none_
            refine ⟨id, reported, given, List.mem_singleton_self _, fun active worked => ?_⟩
            rw [none_] at worked
            cases worked
          · rename_i active worked
            rintro (e | n)
            · trivial
            · refine ⟨id, reported, given, List.mem_cons_self .., fun active' worked' => ?_⟩
              obtain rfl := Option.some.inj (worked.symm.trans worked')
              exact List.mem_cons_of_mem _ (List.mem_singleton_self _)
  | _ => exact Routine.Ends.of_forall (fun made answer => trivial) _ _

end BillingRequest

section Run
variable {Uuid : Type} [DecidableEq Uuid] {rules : BillingRules Uuid}

/-- The statement a step makes lands on the session as its call has seen it. -/
def LandsNext (rules : BillingRules Uuid) (pool : BillingPool Uuid)
    (event : Service.Event (BillingRequest Uuid)) : Prop :=
  ∀ performed, ((billingService rules).step pool event).2 = some performed → pool.state.Lands performed.change

theorem performed_settles (start : BillingTables Uuid) (past : List (Service.Event (BillingRequest Uuid)))
    {event : Service.Event (BillingRequest Uuid)}
    {performed : Service.Performed (BillingWrite Uuid) (BillingRequest Uuid)}
    (made : ((billingService rules).step (((billingService rules).machine start).run past) event).2 =
      some performed) :
    (((billingService rules).machine start).run past).state.Settles performed.change := by
  have refl : ∀ s : BillingTables Uuid, s.KeepsLedger s := fun s place entry there => there
  have trans : ∀ s t u : BillingTables Uuid, s.KeepsLedger t → t.KeepsLedger u → s.KeepsLedger u :=
    fun _ _ _ first second place entry there => second place entry (first place entry there)
  have guarded := Service.guarded_run (billingService rules) refl trans
    (fun s change _ place entry there => BillingTables.getElem?_perform rules there)
    (BillingRequest.serve_settles rules) start past
  exact guarded.proper_of_performed refl made

/-- The tables are reconciled, and every session's figures are what they were with what the
statements since were to add. -/
structure Settling (start : BillingTables Uuid) (log : List (Nat × BillingWrite Uuid))
    (s : BillingTables Uuid) : Prop where
  reconciled : s.Reconciled
  totals : ∀ id figure, s.usage id figure = start.usage id figure + addedBy id figure log

theorem Settling.step {start : BillingTables Uuid} {past : List (Service.Event (BillingRequest Uuid))}
    {log : List (Nat × BillingWrite Uuid)} {event : Service.Event (BillingRequest Uuid)}
    (settling : Settling start log (((billingService rules).machine start).run past).state)
    (lands : LandsNext rules (((billingService rules).machine start).run past) event) :
    Settling start (log ++ (billingService rules).watch (((billingService rules).machine start).run past) event)
      ((billingService rules).step (((billingService rules).machine start).run past) event).1.state := by
  have settles : ∀ performed,
    ((billingService rules).step (((billingService rules).machine start).run past) event).2 = some performed →
      (((billingService rules).machine start).run past).state.Settles performed.change :=
        fun _ => performed_settles start past
  generalize ((billingService rules).machine start).run past = pool at settling lands settles ⊢
  cases event with
  | arrive request =>
    have silent : (billingService rules).watch pool (.arrive request) = [] := rfl
    rw [silent, List.append_nil]
    exact settling
  | step index =>
    rcases (billingService rules).step_state pool (.step index) with ⟨silent, same⟩ | ⟨performed, made, after⟩
    · have logged : (billingService rules).watch pool (.step index) = [] := by
        simp only [Service.watch, silent, Option.map_none, Option.toList_none]
      rw [logged, same, List.append_nil]
      exact settling
    · have logged : (billingService rules).watch pool (.step index) = [(index, performed.change)] := by
        simp only [Service.watch, made, Option.map_some, Option.toList_some]
      have proper : pool.state.Settles performed.change := settles performed made
      have lawful : pool.state.Lands performed.change := lands performed made
      rw [logged, after]
      refine ⟨settling.reconciled.perform proper lawful, fun id figure => ?_⟩
      have before := settling.totals id figure
      have adds : (pool.state.perform rules performed.change).1.usage id figure =
          pool.state.usage id figure + performed.change.added id figure :=
            BillingTables.usage_perform proper lawful id figure
      have whole : addedBy id figure (log ++ [(index, performed.change)]) =
          addedBy id figure log + performed.change.added id figure := by
        simp only [addedBy, List.map_append, List.sum_append, List.map_cons, List.map_nil, List.sum_singleton]
      refine adds.trans ?_
      rw [whole, before, add_assoc]

/-- However settlements and reports interleave, and wherever calls stop: as long as every
statement lands on the session as its call has seen it, there is one debit at most for a
session, every closed one's charge is the debit its row names, and every report that is
accepted is in the totals. -/
theorem settlements_reconcile {start : BillingTables Uuid} (reconciled : start.Reconciled)
    {schedule : List (Service.Event (BillingRequest Uuid))}
    (lands : EveryStep (fun past event => LandsNext rules
      (((billingService rules).machine start).run past) event) schedule) :
    ∀ past, past <+: schedule →
      let pool := ((billingService rules).machine start).run past
      let log := ((billingService rules).machine start).history (billingService rules).watch past
      pool.state.Reconciled ∧
      (∀ id figure, pool.state.usage id figure = start.usage id figure + addedBy id figure log) ∧
      ∀ (index : Nat) (toolId : Uuid) (seconds : Option Rat) (activeSeconds : Option (Option Rat)),
        pool.tasks[index]? = some (.recordUsage toolId seconds activeSeconds, .done (.recorded true)) →
          ∃ id reported, seconds = some reported ∧
            (index, .addReportedSeconds id (BillingRequest.thousandths reported) activeSeconds.isSome) ∈ log ∧
            ∀ active, (activeSeconds.join.filter fun x => decide (0 ≤ x)) = some active →
              (index, .addReportedActiveSeconds id (BillingRequest.thousandths active)) ∈ log := by
  intro past front pool log
  have settling : Settling start log pool.state := by
    refine Machine.run_keeps_past ((billingService rules).machine start) (fun past pool =>
      Settling start (((billingService rules).machine start).history (billingService rules).watch past) pool.state)
        ?_ ?_ lands front
    · exact ⟨reconciled, fun id figure => (add_zero _).symm⟩
    · intro past event settling here
      rw [Machine.history_snoc]
      exact settling.step here
  refine ⟨settling.reconciled, settling.totals, fun index toolId seconds activeSeconds accepted => ?_⟩
  have ends := Service.ending_run (billingService rules) (BillingRequest.serve_accepts rules) start accepted
  obtain ⟨id, reported, given, added, worked⟩ := ends
  exact ⟨id, reported, given, Service.mem_of_byIndex added,
    fun active figure => Service.mem_of_byIndex (worked active figure)⟩

end Run

section
/-- The member starts a tool, and it is settled a minute later; the steps of the calls follow. -/
def startedAndSettled (later : List (Service.Event (BillingRequest Nat))) :
    List (Service.Event (BillingRequest Nat)) :=
  .arrive (.openSession 0 1 2 7) :: List.replicate 9 (.step 0) ++
    .arrive (.settleOpenSessionForTool 60000000 7 false) :: later

/-- The call stops once the debit is in, and another settles. -/
def settledAfterCrash : List (Service.Event (BillingRequest Nat)) :=
  startedAndSettled (List.replicate 5 (.step 1) ++
    .arrive (.settleOpenSessionForTool 61000000 7 false) :: List.replicate 5 (.step 2))

/-- A report of a minute comes in while the session is being settled. -/
def reportedWhileSettled : List (Service.Event (BillingRequest Nat)) :=
  startedAndSettled (List.replicate 4 (Service.Event.step 1) ++
    .arrive (.recordUsage 7 (some 60) none) :: List.replicate 2 (Service.Event.step 2) ++
    List.replicate 2 (Service.Event.step 1))

/-- The report comes in first. -/
def reportedThenSettled : List (Service.Event (BillingRequest Nat)) :=
  startedAndSettled (.arrive (.recordUsage 7 (some 60) none) :: List.replicate 2 (.step 2) ++
    List.replicate 6 (.step 1))

theorem twoTools_reconciled : twoTools.Reconciled := by
  refine ⟨fun id => by simp [twoTools], ?_, ?_⟩
  · intro id row found
    cases found
  · intro id row found
    cases found

theorem settlements_reconcile_reported :
    let s := (((billingService plainRules).machine twoTools).run reportedThenSettled).state
    s.Reconciled ∧ s.usage 1 .unsensed = 60 := by
  have steps : ∀ n (bound : n < reportedThenSettled.length), ((billingService plainRules).step
      (((billingService plainRules).machine twoTools).run (reportedThenSettled.take n)) reportedThenSettled[n]).2.all
        (fun performed => decide
          ((((billingService plainRules).machine twoTools).run (reportedThenSettled.take n)).state.Lands
          performed.change)) = true := by
    decide +kernel
  have lands : EveryStep (fun past event => LandsNext plainRules
    (((billingService plainRules).machine twoTools).run past) event)
      reportedThenSettled := by
    refine EveryStep.of_getElem fun n bound performed made => ?_
    have here := steps n bound
    rw [made] at here
    exact of_decide_eq_true here
  have all := settlements_reconcile twoTools_reconciled lands _ List.prefix_rfl
  exact ⟨all.1, by decide +kernel⟩

/-- After a call that stops between the debit and the closing, the session is closed with no
entry named; a report that comes in while a settlement is under way is accepted, and is not in
the seconds of the closed row. -/
theorem settlements_not_reconciled :
    let m := (billingService plainRules).machine twoTools
    ¬ (m.run settledAfterCrash).state.Reconciled ∧ ¬ (m.run reportedWhileSettled).state.Reconciled ∧
      (m.run reportedWhileSettled).tasks[2]?.any (fun task => (task.2.act (m.run reportedWhileSettled).state).elim
        (fun answer => decide (answer = .recorded true)) fun _ => false) = true := by
  have unlinked : ((((billingService plainRules).machine twoTools).run settledAfterCrash).state.sessions.lookup 1).map
      (fun row => (row.status, row.chargedAmount, row.ledgerEntryId)) = some (.settled, some 10, none) := by
        decide +kernel
  have lost : ((((billingService plainRules).machine twoTools).run reportedWhileSettled).state.sessions.lookup 1).map
      (fun row => (row.reportedSeconds, row.reportedSensedSeconds, row.reportedUnsensedSeconds)) =
        some (none, none, some 60) := by
    decide +kernel
  refine ⟨fun reconciled => ?_, fun reconciled => ?_, by decide +kernel⟩
  · obtain ⟨row, found, same⟩ := Option.map_eq_some_iff.mp unlinked
    obtain ⟨status, rest⟩ := Prod.mk.inj same
    obtain ⟨charged, entry⟩ := Prod.mk.inj rest
    obtain ⟨place, _, named, -⟩ := reconciled.linked 1 row found (by rw [status]; decide) 10 charged
    cases entry.symm.trans named
  · obtain ⟨row, found, same⟩ := Option.map_eq_some_iff.mp lost
    obtain ⟨reported, rest⟩ := Prod.mk.inj same
    obtain ⟨sensed, unsensed⟩ := Prod.mk.inj rest
    have figured := reconciled.figured 1 row found
    unfold ToolUsageSession.Figured at figured
    rw [reported, sensed, unsensed] at figured
    cases figured

end

end CoopSpaces

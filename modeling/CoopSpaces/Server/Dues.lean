import CoopSpaces.Server.Holds

namespace CoopSpaces

namespace BillingTables
variable {Uuid : Type} [DecidableEq Uuid] {s s' : BillingTables Uuid} {userId : Uuid}

/-- No settlement of the member's is half made. -/
def Settled (userId : Uuid) (s : BillingTables Uuid) : Prop :=
  ∀ entry ∈ s.ledger, entry.userId = userId → s.pending entry = false

/-- Closing the session in whose name something was pending settles the member. -/
theorem settled_of_closed {id : Uuid} {row : ToolUsageSession Uuid} (closes : row.status ≠ .open_)
    (sessions : s'.sessions = s.sessions.insert id row) (ledger : s'.ledger = s.ledger)
    (only : ∀ entry ∈ s.ledger, entry.userId = userId → s.pending entry = true →
      entry.externalReference = some (.session id)) :
    Settled userId s' := by
  unfold Settled
  rw [ledger]
  intro entry member mine
  rw [← Bool.not_eq_true]
  intro half
  obtain ⟨id', row', named, there, open'⟩ := pending_iff.mp half
  by_cases same : id' = id
  · subst same
    rw [sessions, AList.lookup_insert] at there
    obtain rfl := Option.some.inj there
    exact closes open'
  · rw [sessions, AList.lookup_insert_ne same] at there
    have named' := only entry member mine (pending_iff.mpr ⟨id', row', named, there, open'⟩)
    exact same (LedgerReference.session.inj (Option.some.inj (named.symm.trans named')))

/-- Only a debit in the name of an open session leaves a settlement half made. -/
theorem Settled.moves (settled : Settled userId s) (accounted : s.Accounted userId) {change : BillingWrite Uuid}
    (moves : Moves s s' change) (proper : s.Proper change)
    (other : ∀ entry, change = .insertLedgerEntry entry → ∀ id, entry.externalReference ≠ some (.session id)) :
    Settled userId s' := by
  cases moves with
  | none same =>
    unfold Settled
    rw [same.ledger]
    intro entry member mine
    exact (same.pending entry).trans (settled entry member mine)
  | @opened id row absent sessions ledger =>
    unfold Settled
    rw [ledger]
    intro entry member mine
    have unmoved : s'.pending entry = s.pending entry := by
      refine pending_congr fun id' named => ?_
      rw [sessions, AList.lookup_insert_ne (accounted.session_ne absent member named)]
    exact unmoved.trans (settled entry member mine)
  | @closed id row reported charged ledgerEntry status found isOpen sessions ledger =>
    refine settled_of_closed ?_ sessions ledger fun entry member mine half => ?_
    · exact proper.1
    · cases (settled entry member mine).symm.trans half
  | @posted entry new ledger sessions =>
    unfold Settled
    rw [ledger]
    intro entry' member mine
    have unmoved : s'.pending entry' = s.pending entry' := pending_congr fun id _ => by rw [sessions]
    rw [unmoved]
    rcases List.mem_append.mp member with old | last
    · exact settled entry' old mine
    · obtain rfl := List.mem_singleton.mp last
      rw [← Bool.not_eq_true]
      intro half
      obtain ⟨id, -, named, -, -⟩ := pending_iff.mp half
      exact other entry' rfl id named

end BillingTables

section Sequential
variable {Uuid : Type} [DecidableEq Uuid] {rules : BillingRules Uuid} {s : BillingTables Uuid} {userId : Uuid}

/-- An opening writes its session, and no more. -/
theorem open_writesOnce (rules : BillingRules Uuid) (now : Int) (id user toolId : Uuid) :
    (BillingRequest.open_ rules now id user toolId).WritesOnce := by
  intro s
  dsimp only
  split
  · trivial
  · split
    · trivial
    · intro s
      dsimp only
      split
      · trivial
      · intro s s
        dsimp only
        split
        · trivial
        · intro s s s
          dsimp only
          split
          · trivial
          · intro s reply
            cases reply with
            | ok n => exact ⟨_, rfl⟩
            | error e => exact ⟨_, rfl⟩

/-- Settling alone, the one debit lands on the state that was read: the session's charge. -/
theorem soloWrites_settle {now : Int} {toolId : Uuid} {abandoned : Bool} {t : BillingTables Uuid}
    {entry : LedgerEntry Uuid}
    (member : (t, .insertLedgerEntry entry) ∈
      (BillingRequest.settle rules now toolId abandoned).soloWrites (BillingTables.perform rules) s) :
    t = s ∧ ∃ tool id session, s.tools toolId = some tool ∧ s.openToolSessionForTool toolId = some (id, session) ∧
      entry = ⟨session.userId, .toolUsage, -settlementCharge rules.decimals s.config now tool session,
        some (.session id)⟩ := by
  simp only [BillingRequest.settle, Routine.soloWrites] at member
  split at member
  · cases member
  · rename_i tool live
    simp only [BillingRequest.settleLoaded, Routine.soloWrites] at member
    split at member
    · cases member
    · rename_i id session found
      simp only [Routine.soloWrites] at member
      -- what closes the session posts nothing
      have closes : ∀ (u : BillingTables Uuid) (reported : Option Rat) (charge : Rat) (posted : Option
        Nat) (status : SessionStatus)
          (answer : Except DbError Nat → BillingRoutine Uuid),
          (Routine.write (BillingWrite.settleToolSession id reported charge posted status) answer).WritesOnce →
          (t, .insertLedgerEntry entry) ∉
            (Routine.write (BillingWrite.settleToolSession id reported charge posted status)
            answer).soloWrites (BillingTables.perform rules) u := by
        intro u reported charge posted status answer once among
        rw [once.soloWrites_write, List.mem_singleton] at among
        cases among
      split at member
      · exact absurd member (closes s _ _ _ _ _ fun reply => by cases reply <;> exact ⟨_, rfl⟩)
      · simp only [Routine.soloWrites] at member
        rcases List.mem_cons.mp member with first | later
        · obtain ⟨rfl, debit⟩ := Prod.mk.inj first
          exact ⟨rfl, tool, id, session, live, found, BillingWrite.insertLedgerEntry.inj debit⟩
        · split at later
          · exact absurd later (closes _ _ _ _ _ _ fun reply => by cases reply <;> exact ⟨_, rfl⟩)
          · exact absurd later (closes _ _ _ _ _ _ fun reply => by cases reply <;> exact ⟨_, rfl⟩)
          · cases later

/-- The session that is settled is closed, and with it no debit of the member stands half made. -/
theorem settled_of_settle (settled : BillingTables.Settled userId s) (now : Int) (toolId : Uuid) (abandoned : Bool) :
    BillingTables.Settled userId
      ((BillingRequest.settle rules now toolId abandoned).solo (BillingTables.perform rules) s).1 := by
  rcases live : s.tools toolId with _ | tool
  · simp only [BillingRequest.settle, Routine.solo, live]
    exact settled
  rcases found : s.openToolSessionForTool toolId with _ | ⟨id, session⟩
  · simp only [BillingRequest.settle, BillingRequest.settleLoaded, Routine.solo, live, found]
    exact settled
  obtain ⟨there, -, isOpen⟩ := lookup_of_openToolSession found
  have closing : ∀ (t : BillingTables Uuid) (charge : Rat) (posted : Option Nat), t.sessions = s.sessions →
      (∀ entry ∈ t.ledger, entry.userId = userId → t.pending entry = true →
        entry.externalReference = some (.session id)) →
          BillingTables.Settled userId (t.perform rules (.settleToolSession id session.reportedSeconds charge posted
        (if abandoned = true then .abandoned else .settled))).1 := by
    intro t charge posted same only
    have found' : t.sessions.lookup id = some session := (congrArg (AList.lookup id) same).trans there
    have closed : (t.perform rules (.settleToolSession id session.reportedSeconds charge posted
        (if abandoned = true then .abandoned else .settled))).1 =
        { t with sessions := t.sessions.insert id { session with
            chargedAmount := some charge, ledgerEntryId := posted
            status := if abandoned = true then .abandoned else .settled } } := by
      simp only [BillingTables.perform, BillingTables.updateOpen, found', isOpen, if_true]
    rw [closed]
    refine BillingTables.settled_of_closed ?_ rfl rfl only
    cases abandoned with
    | true => exact SessionStatus.noConfusion
    | false => exact SessionStatus.noConfusion
  have before : ∀ entry ∈ s.ledger, entry.userId = userId → s.pending entry = true →
      entry.externalReference = some (.session id) := by
    intro entry member mine half
    cases (settled entry member mine).symm.trans half
  rw [solo_settle rules now abandoned live]
  rcases solo_settleLoaded rules now abandoned tool found with same | same | same
  · rw [same]
    exact settled
  · rw [same]
    exact closing s _ _ rfl before
  · rw [same]
    refine closing _ _ _ rfl ?_
    intro entry member mine half
    rcases List.mem_append.mp member with old | last
    · exact before entry old mine half
    · rw [List.mem_singleton.mp last]

end Sequential

/-- A request that takes dues of the member only out of what is available where the debit lands,
and settles a session of theirs for no more than its hold. -/
structure SpendsWithin {Uuid : Type} [DecidableEq Uuid] (rules : BillingRules Uuid) (userId : Uuid)
    (s : BillingTables Uuid)
    (request : BillingRequest Uuid) : Prop where
  dues : ∀ landed ∈ (request.serve rules).soloWrites (BillingTables.perform rules) s,
    ∀ due, landed.2 = .insertLedgerEntry (BillingRequest.duesEntry userId due) →
      due ≤ landed.1.availableBalance userId
  credits : ∀ now entryType amount reference, request = .recordCredit now userId entryType amount reference →
    0 ≤ amount
  settles : ∀ now toolId abandoned tool id session, request = .settleOpenSessionForTool now toolId abandoned →
    s.tools toolId = some tool → s.openToolSessionForTool toolId = some (id, session) → session.userId = userId →
    0 ≤ session.holdAmount ∧ settlementCharge rules.decimals s.config now tool session ≤ session.holdAmount

/-- All that was settled is accounted for, and the member has no debt. -/
structure Solvent {Uuid : Type} [DecidableEq Uuid] (userId : Uuid) (s : BillingTables Uuid) : Prop where
  accounted : s.Accounted userId
  settled : BillingTables.Settled userId s
  funds : s.sumOpenToolHolds userId ≤ s.userBalance userId

section Sequential
variable {Uuid : Type} [DecidableEq Uuid] {rules : BillingRules Uuid} {s : BillingTables Uuid} {userId : Uuid}
  {request : BillingRequest Uuid}

theorem lawful_duesEntry {user : Uuid} {due : Rat} (covered : user = userId → due ≤ s.availableBalance userId) :
    s.Lawful userId (.insertLedgerEntry (BillingRequest.duesEntry user due)) := by
  intro mine
  have within := (covered mine).trans (s.availableBalance_le userId)
  show - -due ≤ s.uncommitted userId
  rw [neg_neg]
  exact within

/-- Each statement of a request that spends within its means does. -/
theorem SpendsWithin.lawful (within : SpendsWithin rules userId s request)
    {t : BillingTables Uuid} {change : BillingWrite Uuid}
    (member : (t, change) ∈ (request.serve rules).soloWrites (BillingTables.perform rules) s)
    (funds : 0 ≤ t.uncommitted userId) : t.Lawful userId change := by
  have allowed : request.Allowed change := (BillingRequest.serve_meets rules request).allowed_of_soloWrites member
  cases change with
  | insertToolSession id row =>
    intro mine _
    obtain ⟨now, rfl⟩ := openSession_of_allowed allowed
    obtain ⟨rfl, acts⟩ := (open_writesOnce rules now id row.userId row.toolId).act_of_soloWrites member
    rcases hold_le_of_act acts with free | enough
    · rw [free]
      exact funds
    · rw [mine] at enough
      exact enough.trans (BillingTables.availableBalance_le _ userId)
  | insertLedgerEntry entry =>
    cases request with
    | settleOpenSessionForTool now toolId abandoned =>
      obtain ⟨rfl, tool, id, session, live, found, rfl⟩ := soloWrites_settle member
      intro mine row there
      obtain ⟨lookup, -, -⟩ := lookup_of_openToolSession found
      obtain rfl := Option.some.inj (lookup.symm.trans there)
      obtain ⟨positive, covered⟩ := within.settles now toolId abandoned tool id session rfl live found mine
      refine max_le positive ?_
      rw [neg_neg]
      exact covered
    | recordCredit now user entryType amount reference =>
      rcases allowed with rfl | ⟨due, rfl⟩
      · intro mine
        have credit := within.credits now entryType amount reference (by rw [← mine])
        cases reference with
        | none => exact (neg_nonpos.mpr credit).trans funds
        | some r => exact (neg_nonpos.mpr credit).trans funds
      · refine lawful_duesEntry fun mine => ?_
        exact within.dues _ member due (by rw [mine])
    | settleRenewal now user =>
      obtain ⟨due, rfl⟩ := allowed
      refine lawful_duesEntry fun mine => ?_
      exact within.dues _ member due (by rw [mine])
    | _ => cases allowed
  | _ => trivial

theorem Solvent.step (solvent : Solvent userId s) (within : SpendsWithin rules userId s request) :
    Solvent userId ((request.serve rules).solo (BillingTables.perform rules) s).1 := by
  have funds : 0 ≤ s.uncommitted userId := by
    rw [← BillingTables.availableBalance_eq solvent.settled]
    exact sub_nonneg.mpr solvent.funds
  have allowed : ∀ landed ∈ (request.serve rules).soloWrites (BillingTables.perform rules) s,
      request.Allowed landed.2 :=
    fun landed member => (BillingRequest.serve_meets rules request).allowed_of_soloWrites member
  have proper : ∀ landed ∈ (request.serve rules).soloWrites (BillingTables.perform rules) s,
      landed.1.Proper landed.2 :=
    fun landed member => (BillingRequest.serve_relies rules request s).proper_of_soloWrites
      BillingTables.Later.refl member
  have keeps : ∀ landed ∈ (request.serve rules).soloWrites (BillingTables.perform rules) s,
      landed.1.Accounted userId ∧ 0 ≤ landed.1.uncommitted userId →
      (landed.1.perform rules landed.2).1.Accounted userId ∧
        0 ≤ (landed.1.perform rules landed.2).1.uncommitted userId :=
    fun landed member good =>
      good.1.perform good.2 rules (proper landed member) (within.lawful member good.2)
  have good := Routine.solo_of_soloWrites (fun t => BillingTables.Accounted userId t ∧ 0 ≤ t.uncommitted userId) keeps
    ⟨solvent.accounted, funds⟩
  have settled : BillingTables.Settled userId ((request.serve rules).solo (BillingTables.perform rules) s).1 := by
    by_cases settles : ∃ now toolId abandoned, request = .settleOpenSessionForTool now toolId abandoned
    · obtain ⟨now, toolId, abandoned, rfl⟩ := settles
      exact settled_of_settle solvent.settled now toolId abandoned
    · have all := Routine.solo_of_soloWrites
        (fun t => (BillingTables.Accounted userId t ∧ 0 ≤ t.uncommitted userId) ∧ BillingTables.Settled userId t)
        (fun landed member before => ⟨keeps landed member before.1, before.2.moves before.1.1
          (BillingTables.perform_moves rules landed.1 landed.2) (proper landed member) fun entry posts =>
            BillingRequest.Allowed.not_session (posts ▸ allowed landed member) fun now toolId abandoned same =>
              settles ⟨now, toolId, abandoned, same⟩⟩)
        ⟨⟨solvent.accounted, funds⟩, solvent.settled⟩
      exact all.2
  refine ⟨good.1, settled, ?_⟩
  have available : 0 ≤ BillingTables.availableBalance _ userId :=
    (BillingTables.availableBalance_eq settled).symm ▸ good.2
  exact sub_nonneg.mp available

/-- From a state with no debt, whatever is asked: after every request the member's balance is at
least the sum of their open holds, and so not negative while no hold is, as long as dues are
taken out of what is available and every session settled is covered by its hold. -/
theorem ledger_covers_holds {start : BillingTables Uuid} (solvent : Solvent userId start)
    {requests : List (BillingRequest Uuid)}
    (within : EveryStep (fun past request => SpendsWithin rules userId
      ((billingMachine rules start).run past) request) requests) :
    ∀ past, past <+: requests →
      let s := (billingMachine rules start).run past
      s.sumOpenToolHolds userId ≤ s.userBalance userId ∧
        ((∀ row ∈ s.sessions.entries, row.2.userId = userId → row.2.status = .open_ → 0 ≤ row.2.holdAmount) →
          0 ≤ s.userBalance userId) := by
  intro past front s
  have good : Solvent userId s :=
    Machine.run_keeps (billingMachine rules start) (Solvent userId) solvent
      (fun _ _ before here => before.step here) within front
  refine ⟨good.funds, fun positive => ?_⟩
  have holds : 0 ≤ s.sumOpenToolHolds userId := by
    refine AList.total_nonneg fun row member => ?_
    split
    · rename_i mine
      exact positive row member mine.1 mine.2
    · exact le_rfl
  exact holds.trans good.funds

end Sequential

section
/-- Dues fall due every thirty days. -/
def monthlyRules : BillingRules Nat := { plainRules with advancePeriod := fun date => date + daysToMicros 30 }

/-- The member is enrolled, owes dues of twenty, and has a balance. -/
def enrolled (balance : Rat) : BillingTables Nat :=
  { twoTools with users := Table.empty.insert 2 ⟨some 0⟩, ledger := [⟨2, .cashPayment, balance, none⟩] }

/-- A renewal while a session is open, then the session's end. -/
def renewedInSession : List (BillingRequest Nat) :=
  [.openSession 0 1 2 7, .settleRenewal (daysToMicros 10) 2, .settleOpenSessionForTool (daysToMicros 10) 7 false]

theorem ledger_covers_holds_renewed :
    let s := (billingMachine monthlyRules (enrolled 30)).run renewedInSession
    s.userBalance 2 = 0 ∧ s.sumOpenToolHolds 2 ≤ s.userBalance 2 := by
  have solvent : Solvent 2 (enrolled 30) := by
    refine ⟨⟨?_, by decide, ?_⟩, ?_, by decide +kernel⟩
    · intro entry member id named
      obtain rfl := List.mem_singleton.mp member
      cases named
    · intro id row found
      cases found
    · intro entry member mine
      obtain rfl := List.mem_singleton.mp member
      rfl
  have dues : ∀ n (bound : n < renewedInSession.length),
      ((renewedInSession[n].serve monthlyRules).soloWrites (BillingTables.perform monthlyRules)
        ((billingMachine monthlyRules (enrolled 30)).run (renewedInSession.take n))).all (fun landed =>
          match landed.2 with
          | .insertLedgerEntry entry =>
            entry.entryType ≠ .duesCharge || decide (-entry.amount ≤ landed.1.availableBalance 2)
          | _ => true) = true := by
    decide +kernel
  have settled : ∀ tool id session,
      ((billingMachine monthlyRules (enrolled 30)).run (renewedInSession.take 2)).tools 7 = some tool →
      ((billingMachine monthlyRules (enrolled 30)).run (renewedInSession.take 2)).openToolSessionForTool 7 =
        some (id, session) → 0 ≤ session.holdAmount ∧ settlementCharge monthlyRules.decimals
        ((billingMachine monthlyRules (enrolled 30)).run (renewedInSession.take 2)).config
          (daysToMicros 10) tool session ≤
          session.holdAmount := by
    intro tool id session live found
    have live' : ((billingMachine monthlyRules (enrolled 30)).run (renewedInSession.take 2)).tools 7 =
        some ⟨some 10, none, none, "occupancy"⟩ := by decide +kernel
    have found' :
      ((billingMachine monthlyRules (enrolled 30)).run (renewedInSession.take 2)).openToolSessionForTool 7 =
        some (1, ⟨7, 2, 0, 10, some 10, none, none, none, none, none, none, none, none, .open_⟩) := by decide +kernel
    obtain rfl := Option.some.inj (live.symm.trans live')
    obtain ⟨rfl, rfl⟩ := Prod.mk.inj (Option.some.inj (found.symm.trans found'))
    exact ⟨by decide +kernel, by decide +kernel⟩
  have within : EveryStep (fun past request =>
      SpendsWithin monthlyRules 2 ((billingMachine monthlyRules (enrolled 30)).run past) request)
      renewedInSession := by
    refine EveryStep.of_getElem fun n bound => ⟨fun landed member due debits => ?_, ?_, ?_⟩
    · have here := List.all_eq_true.mp (dues n bound) landed member
      rw [debits] at here
      have covers : - -due ≤ landed.1.availableBalance 2 := of_decide_eq_true here
      rwa [neg_neg] at covers
    · intro now entryType amount reference same
      match n, bound with
      | 0, _ => cases same
      | 1, _ => cases same
      | 2, _ => cases same
    · intro now toolId abandoned tool id session same live found _
      match n, bound with
      | 0, _ => cases same
      | 1, _ => cases same
      | 2, _ =>
        cases same
        exact settled tool id session live found
  have all := ledger_covers_holds solvent within _ List.prefix_rfl
  exact ⟨by decide +kernel, all.1⟩

theorem dues_out_of_hold :
    let m := billingMachine monthlyRules (enrolled 20)
    let renewed := m.run (renewedInSession.take 2)
    let ended := m.run renewedInSession
    (enrolled 20).sumOpenToolHolds 2 ≤ (enrolled 20).userBalance 2 ∧
      renewed.userBalance 2 = 0 ∧ renewed.sumOpenToolHolds 2 = 10 ∧ ended.sumOpenToolHolds 2 = 0 ∧
        ended.userBalance 2 = -10 := by
  decide +kernel

end

end CoopSpaces

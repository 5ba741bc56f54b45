import CoopSpaces.Server.Billing

namespace CoopSpaces

section Rates
variable (decimals : Decimals) {flatFee ratePerMin : Option Decimal} {secs bound : Rat} {cap : Int}

theorem billableSeconds_le (used : 0 ≤ secs) : billableSeconds secs cap ≤ cap * 60 := by
  simp only [billableSeconds]
  split
  · exact le_rfl
  · rename_i within
    rw [if_neg (not_lt.mpr used)]
    exact not_lt.mp within

theorem billableSeconds_none_le (used : 0 ≤ secs) : billableSeconds 0 cap ≤ billableSeconds secs cap := by
  simp only [billableSeconds, lt_self_iff_false, if_false]
  split
  · rename_i negative
    rw [if_pos (lt_of_lt_of_le negative used)]
  · rename_i positive
    split
    · exact not_lt.mp positive
    · rw [if_neg (not_lt.mpr used)]
      exact used

theorem billableSeconds_cap : billableSeconds (max 0 (cap * 60)) cap = cap * 60 := by
  simp only [billableSeconds]
  rcases le_or_gt 0 ((cap : Rat) * 60) with positive | negative
  · rw [max_eq_right positive, if_neg (lt_irrefl _), if_neg (not_lt.mpr positive)]
  · rw [max_eq_left negative.le, if_pos negative]

theorem billableSeconds_zero : billableSeconds 0 cap = ((min cap 0 : Int) : Rat) * 60 := by
  simp only [billableSeconds, lt_self_iff_false, if_false]
  rcases lt_or_ge cap 0 with negative | positive
  · have below : (cap : Rat) < 0 := by exact_mod_cast negative
    rw [if_pos (by linarith), min_eq_left negative.le]
  · have above : (0 : Rat) ≤ cap := by exact_mod_cast positive
    rw [if_neg (by linarith), min_eq_right positive, Int.cast_zero, zero_mul]

theorem div_minutes (rate : Decimal) (more : Nat) (minutes : Int) :
    decimals.div (rate.scale + more) (rate.value * (minutes * 60)) 60 = rate.value * minutes := by
  have quotient := decimals.mul_div (d := 60) (by decide) ((rate.value_written.mul_int minutes).more more)
  rwa [mul_assoc] at quotient

theorem sessionCharge_cap : sessionCharge decimals flatFee ratePerMin (max 0 (cap * 60)) cap =
    maxSessionCost decimals flatFee ratePerMin cap := by
  simp only [sessionCharge, maxSessionCost]
  rw [billableSeconds_cap, div_minutes]

/-- A charge lies below whatever bounds the charge for no time and the charge up to the cap. -/
theorem sessionCharge_le (used : 0 ≤ secs) (none_ : sessionCharge decimals flatFee ratePerMin 0 cap ≤ bound)
    (full : maxSessionCost decimals flatFee ratePerMin cap ≤ bound) :
    sessionCharge decimals flatFee ratePerMin secs cap ≤ bound := by
  have scaled : ∀ {minutes : Int}, (ratePerMin.getD 0).value * billableSeconds secs cap ≤
      (ratePerMin.getD 0).value * (minutes * 60) → sessionCharge decimals flatFee ratePerMin secs cap ≤
        decimals.round ((flatFee.getD 0).value + (ratePerMin.getD 0).value * minutes) 2 := by
    intro minutes le
    have quotients := decimals.div_le_div (d := 60) (by decide) le
      (.inl (rfl : (ratePerMin.getD 0).scale + Decimal.places (billableSeconds secs cap) = _))
    rw [div_minutes] at quotients
    exact decimals.round_le_round 2 (by linarith)
  rcases le_or_gt 0 (ratePerMin.getD 0).value with rising | falling
  · exact (scaled (mul_le_mul_of_nonneg_left (billableSeconds_le used) rising)).trans full
  · have least : ((min cap 0 : Int) : Rat) * 60 ≤ billableSeconds secs cap := by
      rw [← billableSeconds_zero]
      exact billableSeconds_none_le used
    simp only [sessionCharge] at none_
    rw [billableSeconds_zero, div_minutes] at none_
    exact (scaled (mul_le_mul_of_nonpos_left least falling.le)).trans none_

theorem maxSessionCost_le {cap' : Int} (rising : 0 ≤ (ratePerMin.getD 0).value) (shorter : cap ≤ cap') :
    maxSessionCost decimals flatFee ratePerMin cap ≤ maxSessionCost decimals flatFee ratePerMin cap' := by
  have caps : (cap : Rat) ≤ cap' := by exact_mod_cast shorter
  have products := mul_le_mul_of_nonneg_left caps rising
  exact decimals.round_le_round 2 (by linarith)

end Rates

namespace ToolUsageSession
variable {Uuid : Type}

/-- No reported figure is negative. -/
structure Measured (row : ToolUsageSession Uuid) : Prop where
  reported : 0 ≤ row.reportedSeconds.getD 0
  sensed : 0 ≤ row.reportedSensedSeconds.getD 0
  unsensed : 0 ≤ row.reportedUnsensedSeconds.getD 0
  active : 0 ≤ row.reportedActiveSeconds.getD 0

theorem Measured.addReported {row : ToolUsageSession Uuid} (measured : row.Measured) {seconds : Rat}
    (used : 0 ≤ seconds)
    (sensed : Bool) : (row.addReported seconds sensed).Measured := by
  have sensedSum := add_nonneg measured.sensed used
  have unsensedSum := add_nonneg measured.unsensed used
  unfold ToolUsageSession.addReported
  split
  · exact ⟨sensedSum, sensedSum, measured.unsensed, measured.active⟩
  · refine ⟨?_, measured.sensed, unsensedSum, measured.active⟩
    dsimp only
    split
    · exact unsensedSum
    · exact measured.reported

theorem effectiveSeconds_nonneg {row : ToolUsageSession Uuid} (used : 0 ≤ row.reportedSeconds.getD 0)
    (worked : 0 ≤ row.reportedActiveSeconds.getD 0) (now : Int) (tool : BilledTool) :
    0 ≤ effectiveSeconds now tool row := by
  have elapsed : (0 : Rat) ≤ (max ((now - row.startedAt).tdiv 1000000) 0 : Int) := by
    exact_mod_cast le_max_right _ _
  have reported : 0 ≤ effectiveReported tool.usageBasis row.reportedSeconds row.reportedActiveSeconds := by
    unfold effectiveReported
    split
    · cases figure : row.reportedActiveSeconds with
      | none => exact used
      | some seconds =>
        rw [figure] at worked
        exact worked
    · exact used
  simp only [effectiveSeconds]
  split
  · exact elapsed
  · exact reported

/-- What a session keeps from its opening on. It can only lose the mention of its tier. -/
structure Kept (first row : ToolUsageSession Uuid) : Prop where
  toolId : row.toolId = first.toolId
  userId : row.userId = first.userId
  startedAt : row.startedAt = first.startedAt
  holdAmount : row.holdAmount = first.holdAmount
  rateFlatFee : row.rateFlatFee = first.rateFlatFee
  ratePerMin : row.ratePerMin = first.ratePerMin
  tierId : row.tierId = first.tierId ∨ row.tierId = none
  measured : row.status = .open_ → row.Measured

end ToolUsageSession

/-- No statement adds a negative figure to a session, and settling closes it. -/
def BillingWrite.Measures {Uuid : Type} : BillingWrite Uuid → Prop
  | .addReportedSeconds _ seconds _ => 0 ≤ seconds
  | .addReportedActiveSeconds _ seconds => 0 ≤ seconds
  | .settleToolSession _ _ _ _ status => status ≠ .open_
  | _ => True

theorem BillingRequest.Allowed.measures {Uuid : Type} {request : BillingRequest Uuid} {change : BillingWrite Uuid}
    (allowed : request.Allowed change) : change.Measures := by
  cases request <;> cases change <;> trivial

namespace BillingTables
variable {Uuid : Type} [DecidableEq Uuid] {rules : BillingRules Uuid} {s : BillingTables Uuid} {id : Uuid}
  {first : ToolUsageSession Uuid}

/-- The session is there, as it was opened. -/
def Holding (id : Uuid) (first : ToolUsageSession Uuid) (s : BillingTables Uuid) : Prop :=
  ∃ row, s.sessions.lookup id = some row ∧ first.Kept row

theorem Holding.updateOpen (holding : Holding id first s) {other : Uuid}
    {change : ToolUsageSession Uuid → ToolUsageSession Uuid}
    (keeps : ∀ row, row.status = .open_ → first.Kept row → first.Kept (change row)) :
    Holding id first (s.updateOpen other change).1 := by
  obtain ⟨row, found, kept⟩ := holding
  unfold BillingTables.updateOpen
  split
  · exact ⟨row, found, kept⟩
  · rename_i old there
    split
    · rename_i isOpen
      by_cases same : id = other
      · subst same
        obtain rfl := Option.some.inj (found.symm.trans there)
        exact ⟨change row, AList.lookup_insert s.sessions, keeps row isOpen kept⟩
      · exact ⟨row, (AList.lookup_insert_ne same).trans found, kept⟩
    · exact ⟨row, found, kept⟩

theorem Holding.editCatalog (holding : Holding id first s) (edit : CatalogEdit Uuid) :
    Holding id first (s.editCatalog edit) := by
  obtain ⟨row, found, kept⟩ := holding
  cases edit with
  | deleteTier tierId =>
    refine ⟨{ row with tierId := row.tierId.filter fun mine => decide (mine ≠ tierId) }, ?_, ?_⟩
    · have mapped := AList.lookup_mapVal
        (fun _ row => { row with tierId := row.tierId.filter fun mine => decide (mine ≠ tierId) })
        s.sessions id
      rw [found] at mapped
      exact mapped
    · refine ⟨kept.toolId, kept.userId, kept.startedAt, kept.holdAmount, kept.rateFlatFee, kept.ratePerMin, ?_, ?_⟩
      · cases tier : row.tierId with
        | none => exact .inr rfl
        | some mine =>
          have before := kept.tierId
          rw [tier] at before
          dsimp only
          rw [Option.filter_some]
          split
          · exact before
          · exact .inr rfl
      · intro isOpen
        have measured := kept.measured isOpen
        exact ⟨measured.reported, measured.sensed, measured.unsensed, measured.active⟩
  | assignTier userId toolId tierId =>
    have sessions : (s.editCatalog (.assignTier userId toolId tierId)).sessions = s.sessions := by
      simp only [BillingTables.editCatalog]
      split <;> rfl
    exact ⟨row, (congrArg (fun t => AList.lookup id t) sessions).trans found, kept⟩
  | setTool toolId row' => exact ⟨row, found, kept⟩
  | setTier tierId row' => exact ⟨row, found, kept⟩
  | clearTier userId toolId => exact ⟨row, found, kept⟩
  | configure config => exact ⟨row, found, kept⟩

/-- Whatever is written, a session keeps what it was opened with. -/
theorem Holding.perform (holding : Holding id first s) {change : BillingWrite Uuid} (measures : change.Measures) :
    Holding id first (s.perform rules change).1 := by
  cases change with
  | insertToolSession other row =>
    simp only [BillingTables.perform]
    split
    · exact holding
    · rename_i fresh
      split
      · exact holding
      · obtain ⟨mine, found, kept⟩ := holding
        have different : id ≠ other := by
          rintro rfl
          rw [found] at fresh
          exact fresh rfl
        exact ⟨mine, (AList.lookup_insert_ne different).trans found, kept⟩
  | addReportedSeconds other seconds sensed =>
    refine holding.updateOpen fun row isOpen kept => ?_
    have measured := (kept.measured isOpen).addReported measures sensed
    cases sensed
    all_goals
      exact ⟨kept.toolId, kept.userId, kept.startedAt, kept.holdAmount, kept.rateFlatFee, kept.ratePerMin,
        kept.tierId, fun _ => measured⟩
  | addReportedActiveSeconds other seconds =>
    refine holding.updateOpen fun row isOpen kept => ?_
    have measured := kept.measured isOpen
    exact ⟨kept.toolId, kept.userId, kept.startedAt, kept.holdAmount, kept.rateFlatFee, kept.ratePerMin, kept.tierId,
      fun _ => ⟨measured.reported, measured.sensed, measured.unsensed, add_nonneg measured.active measures⟩⟩
  | settleToolSession other reported charged ledgerEntry status =>
    refine holding.updateOpen fun row _ kept => ?_
    exact ⟨kept.toolId, kept.userId, kept.startedAt, kept.holdAmount, kept.rateFlatFee, kept.ratePerMin, kept.tierId,
      fun stays => absurd stays measures⟩
  | insertLedgerEntry entry =>
    simp only [BillingTables.perform]
    split
    · exact holding
    · split <;> exact holding
  | setMembershipNextDue userId next =>
    simp only [BillingTables.perform]
    split <;> exact holding
  | applyRole userId entitled => exact holding
  | edit edit => exact holding.editCatalog edit

end BillingTables

/-- One request after another, each served to its end. -/
def billingMachine {Uuid : Type} [DecidableEq Uuid] (rules : BillingRules Uuid) (start : BillingTables Uuid) :
    Machine (BillingTables Uuid) (BillingRequest Uuid) (BillingAnswer Uuid) where
  start
  step s request := (request.serve rules).solo (BillingTables.perform rules) s

/-- The hold of an opening: the most the session can cost at the rate resolved, if that is
metered and paid in advance. -/
def openingHold {Uuid : Type} (decimals : Decimals) (config : BillingConfig) (eff : EffectiveRate Uuid) : Rat :=
  if config.billingMode = .prepaid ∧ isMetered eff.flatFee eff.ratePerMin = true then
    maxSessionCost decimals eff.flatFee eff.ratePerMin (config.maxMinutes eff.maxSessionMinutes)
  else 0

/-- The row an opening writes. -/
def openingRow {Uuid : Type} (decimals : Decimals) (config : BillingConfig) (now : Int) (userId toolId : Uuid)
    (eff : EffectiveRate Uuid) : ToolUsageSession Uuid :=
  ⟨toolId, userId, now, openingHold decimals config eff, eff.flatFee, eff.ratePerMin, eff.tierId, none, none,
    none, none, none, none, .open_⟩

section Run
variable {Uuid : Type} [DecidableEq Uuid] {rules : BillingRules Uuid} {s s' : BillingTables Uuid} {id : Uuid}
  {first : ToolUsageSession Uuid}

theorem holding_runFrom (start : BillingTables Uuid) (holding : BillingTables.Holding id first s)
    (requests : List (BillingRequest Uuid)) :
    BillingTables.Holding id first ((billingMachine rules start).runFrom s requests) := by
  refine Machine.runFrom_invariant (billingMachine rules start) (BillingTables.Holding id first)
    (fun _ => True) ?_ holding
    fun _ _ => trivial
  intro s request _ holding
  have meets : (request.serve rules).Meets (BillingTables.Holding id first) BillingWrite.Measures fun _ => True :=
    (BillingRequest.serve_meets rules request).allowing fun _ allowed => allowed.measures
  exact (meets.solo (fun s change held measures => held.perform measures) holding).1

theorem openingHold_eq {Uuid : Type} (decimals : Decimals) (config : BillingConfig) (eff : EffectiveRate Uuid) :
    (if config.billingMode = .prepaid ∧ isMetered eff.flatFee eff.ratePerMin = true then
      config.requiredForRate decimals eff.flatFee eff.ratePerMin eff.maxSessionMinutes else 0) =
      openingHold decimals config eff := by
  unfold openingHold
  split
  · rename_i both
    unfold BillingConfig.requiredForRate
    rw [both.1]
  · rfl

theorem lookup_of_insertToolSession {row : ToolUsageSession Uuid} {n : Nat}
    (wrote : s.perform rules (.insertToolSession id row) = (s', .ok n)) : s'.sessions.lookup id = some row := by
  simp only [BillingTables.perform] at wrote
  split at wrote
  · cases wrote
  · split at wrote
    · cases wrote
    · cases wrote
      exact AList.lookup_insert s.sessions

/-- An opening let through writes its row: the hold and the rate resolved there and then. -/
theorem sessions_of_authorized {now : Int} {userId toolId sessionId : Uuid}
    (opened : (BillingRequest.open_ rules now id userId toolId).solo (BillingTables.perform rules) s =
      (s', .authorized sessionId)) :
    sessionId = id ∧ ∃ tool, s.tools toolId = some tool ∧ s'.sessions.lookup id =
      some (openingRow rules.decimals s.config now userId toolId (s.resolveEffectiveBilling userId toolId tool)) := by
  simp only [BillingRequest.open_, Routine.solo] at opened
  split at opened
  · cases opened
  · rename_i tool there
    split at opened
    · cases opened
    · simp only [BillingRequest.openLoaded, Routine.solo] at opened
      split at opened
      · cases opened
      · simp only [Routine.solo] at opened
        split at opened
        · cases opened
        · simp only [Routine.solo] at opened
          split at opened
          · cases opened
          · simp only [Routine.solo] at opened
            -- every gate passed: what is left is the insert and its reply
            suffices both : sessionId = id ∧ s'.sessions.lookup id =
                some (openingRow rules.decimals s.config now userId toolId
                  (s.resolveEffectiveBilling userId toolId tool)) from
              ⟨both.1, tool, there, both.2⟩
            generalize s.resolveEffectiveBilling userId toolId tool = eff at opened ⊢
            rw [openingHold_eq] at opened
            cases wrote : s.perform rules
              (.insertToolSession id (openingRow rules.decimals s.config now userId toolId eff)) with
            | mk after reply =>
              unfold openingRow at wrote
              rw [wrote] at opened
              cases reply with
              | error e => cases opened
              | ok n =>
                obtain ⟨rfl, same⟩ := Prod.mk.inj opened
                cases same
                exact ⟨rfl, lookup_of_insertToolSession wrote⟩

variable {session : ToolUsageSession Uuid}

theorem lookup_of_openToolSession {toolId : Uuid} (found : s.openToolSessionForTool toolId = some (id, session)) :
    s.sessions.lookup id = some session ∧ session.toolId = toolId ∧ session.status = .open_ := by
  obtain ⟨⟨k, row⟩, first, same⟩ := Option.map_eq_some_iff.mp found
  obtain ⟨rfl, rfl⟩ := Prod.mk.inj same
  have holds := List.find?_some first
  rw [Bool.and_eq_true, decide_eq_true_eq, decide_eq_true_eq] at holds
  exact ⟨AList.mem_lookup_iff.mpr (List.mem_of_find?_eq_some first), holds.1, holds.2⟩

theorem ledger_updateOpen (change : ToolUsageSession Uuid → ToolUsageSession Uuid) :
    (s.updateOpen id change).1.ledger = s.ledger := by
  unfold BillingTables.updateOpen
  split
  · rfl
  · split <;> rfl

theorem perform_insertLedgerEntry (rules : BillingRules Uuid) (s : BillingTables Uuid) (entry : LedgerEntry Uuid) :
    (∃ e, s.perform rules (.insertLedgerEntry entry) = (s, .error e)) ∨
      s.perform rules (.insertLedgerEntry entry) =
        ({ s with ledger := s.ledger ++ [entry] }, .ok s.ledger.length) := by
  simp only [BillingTables.perform]
  split
  · exact .inl ⟨_, rfl⟩
  · split
    · exact .inl ⟨_, rfl⟩
    · exact .inr rfl

/-- Settled alone, the session is left as it was, or it is closed: on the state that was read,
or on that state with the charge posted as a debit in the session's name. -/
theorem solo_settleLoaded (rules : BillingRules Uuid) (now : Int) (abandoned : Bool) {toolId : Uuid}
    (tool : BilledTool) (found : s.openToolSessionForTool toolId = some (id, session)) :
    let charge := settlementCharge rules.decimals s.config now tool session
    let debit : LedgerEntry Uuid := ⟨session.userId, .toolUsage, -charge, some (.session id)⟩
    let after :=
      ((BillingRequest.settleLoaded rules now toolId tool abandoned).solo (BillingTables.perform rules) s).1
    let closed (t : BillingTables Uuid) (ledgerEntry : Option Nat) := (t.perform rules
      (.settleToolSession id session.reportedSeconds charge ledgerEntry
        (if abandoned then .abandoned else .settled))).1
    after = s ∨ after = closed s none ∨
      after = closed { s with ledger := s.ledger ++ [debit] } (some s.ledger.length) := by
  simp only [BillingRequest.settleLoaded, Routine.solo, found]
  generalize settlementCharge rules.decimals s.config now tool session = charge
  split
  · exact .inr (.inl (Routine.WritesOnce.solo_write (fun reply => by cases reply <;> exact ⟨_, rfl⟩) _))
  · simp only [Routine.solo]
    rcases perform_insertLedgerEntry rules s ⟨session.userId, .toolUsage, -charge, some (.session id)⟩ with
      ⟨e, refused⟩ | posted
    · rw [refused]
      cases e with
      | uniqueViolation =>
        exact .inr (.inl (Routine.WritesOnce.solo_write (fun reply => by cases reply <;> exact ⟨_, rfl⟩) _))
      | notFound => exact .inl rfl
      | foreignKeyViolation => exact .inl rfl
      | checkViolation => exact .inl rfl
      | unrepresentableText => exact .inl rfl
      | unavailable => exact .inl rfl
    · rw [posted]
      exact .inr (.inr (Routine.WritesOnce.solo_write (fun reply => by cases reply <;> exact ⟨_, rfl⟩) _))

theorem solo_settle (rules : BillingRules Uuid) (now : Int) (abandoned : Bool) {toolId : Uuid} {tool : BilledTool}
    (live : s.tools toolId = some tool) :
    (BillingRequest.settle rules now toolId abandoned).solo (BillingTables.perform rules) s =
      (BillingRequest.settleLoaded rules now toolId tool abandoned).solo (BillingTables.perform rules) s := by
  simp only [BillingRequest.settle, Routine.solo, live]

theorem ledger_of_settle (rules : BillingRules Uuid) (now : Int) (abandoned : Bool) {toolId : Uuid}
    {tool : BilledTool} (live : s.tools toolId = some tool)
    (found : s.openToolSessionForTool toolId = some (id, session)) :
    ((BillingRequest.settle rules now toolId abandoned).solo (BillingTables.perform rules) s).1.ledger = s.ledger ∨
    ((BillingRequest.settle rules now toolId abandoned).solo (BillingTables.perform rules) s).1.ledger =
      s.ledger ++ [⟨session.userId, .toolUsage, -settlementCharge rules.decimals s.config now tool session,
        some (.session id)⟩] := by
  -- closing the session does not touch the ledger
  rw [solo_settle rules now abandoned live]
  rcases solo_settleLoaded rules now abandoned tool found with same | same | same
  · exact .inl (congrArg BillingTables.ledger same)
  · exact .inl ((congrArg BillingTables.ledger same).trans (ledger_updateOpen _))
  · exact .inr ((congrArg BillingTables.ledger same).trans (ledger_updateOpen _))

/-- What the settled session is charged by: something of its rate was captured, and is there
still, or the tool has no rate now. -/
def RateKept {Uuid : Type} (session : ToolUsageSession Uuid) (tool : BilledTool) : Prop :=
  session.ratePerMin.isSome = true ∨ session.rateFlatFee.isSome = true ∨ session.tierId.isSome = true ∨
    (tool.usageFlatFee = none ∧ tool.usageRatePerMin = none)

omit [DecidableEq Uuid] in
theorem chargedRate_eq_iff (session : ToolUsageSession Uuid) (tool : BilledTool) :
    chargedRate session tool = (session.rateFlatFee, session.ratePerMin) ↔ RateKept session tool := by
  unfold chargedRate RateKept
  split
  · rename_i captured
    rw [Bool.or_eq_true, Bool.or_eq_true, or_assoc] at captured
    refine iff_of_true rfl ?_
    rcases captured with rate | flat | tier
    · exact .inl rate
    · exact .inr (.inl flat)
    · exact .inr (.inr (.inl tier))
  · rename_i lost
    rw [Bool.not_eq_true, Bool.or_eq_false_iff, Bool.or_eq_false_iff] at lost
    obtain ⟨⟨noRate, noFlat⟩, noTier⟩ := lost
    simp only [noRate, noFlat, noTier, Bool.false_eq_true, false_or, Prod.mk.injEq]
    rw [Option.isSome_eq_false_iff, Option.isNone_iff_eq_none] at noRate noFlat
    rw [noRate, noFlat]

/-- A session, had it been used otherwise. -/
def ToolUsageSession.used {Uuid : Type} (session : ToolUsageSession Uuid) (reported active : Option Rat) :
    ToolUsageSession Uuid :=
  { session with reportedSeconds := reported, reportedActiveSeconds := active }

/-- However long it was used, settling a session charges no more than its hold. -/
def NeverAbove {Uuid : Type} (decimals : Decimals) (config : BillingConfig) (tool : BilledTool)
    (session : ToolUsageSession Uuid) (bound : Rat) : Prop :=
  ∀ (now : Int) (reported active : Option Rat), 0 ≤ reported.getD 0 → 0 ≤ active.getD 0 →
    settlementCharge decimals config now tool (session.used reported active) ≤ bound

omit [DecidableEq Uuid] in
theorem effectiveSeconds_of_exact (session : ToolUsageSession Uuid) (tool : BilledTool) {n : Int} (positive : 0 ≤ n) :
    effectiveSeconds (session.startedAt + 1000000 * n) tool (session.used (some (n : Rat)) none) = n := by
  have reported : effectiveReported tool.usageBasis (some (n : Rat)) none = n := by
    unfold effectiveReported
    split <;> rfl
  have elapsed : (session.startedAt + 1000000 * n - session.startedAt).tdiv 1000000 = n := by
    rw [add_sub_cancel_left]
    exact Int.mul_tdiv_cancel_left n (by decide)
  simp only [effectiveSeconds, ToolUsageSession.used, reported, elapsed, max_eq_left positive,
    lt_self_iff_false, if_false]

omit [DecidableEq Uuid] in
/-- The charge for no time and the charge up to the cap decide it for all lengths of use. -/
theorem neverAbove_iff {decimals : Decimals} {config : BillingConfig} {tool : BilledTool} {bound : Rat} :
    NeverAbove decimals config tool session bound ↔
      sessionCharge decimals (chargedRate session tool).1 (chargedRate session tool).2 0
          (config.maxMinutes tool.usageMaxSessionMinutes) ≤ bound ∧
        maxSessionCost decimals (chargedRate session tool).1 (chargedRate session tool).2
          (config.maxMinutes tool.usageMaxSessionMinutes) ≤ bound := by
  constructor
  · intro never
    constructor
    · have unused := never session.startedAt none none le_rfl le_rfl
      have none_ : effectiveSeconds session.startedAt tool (session.used none none) = 0 := by
        simp [effectiveSeconds, effectiveReported, ToolUsageSession.used]
      rw [settlementCharge, none_] at unused
      exact unused
    · -- used for exactly as long as the cap allows, and reported so
      obtain ⟨cap, isCap⟩ : ∃ cap, cap = config.maxMinutes tool.usageMaxSessionMinutes := ⟨_, rfl⟩
      have positive : 0 ≤ max 0 (cap * 60) := le_max_left _ _
      have seconds : (0 : Rat) ≤ (max 0 (cap * 60) : Int) := by exact_mod_cast positive
      have full := never (session.startedAt + 1000000 * max 0 (cap * 60))
        (some (max 0 (cap * 60) : Int)) none seconds le_rfl
      have capped := effectiveSeconds_of_exact session tool positive
      have cast : ((max 0 (cap * 60) : Int) : Rat) = max 0 ((cap : Rat) * 60) := by push_cast; rfl
      rw [settlementCharge, ← isCap, capped, cast, sessionCharge_cap] at full
      rw [← isCap]
      exact full
  · rintro ⟨none_, full⟩ now reported active used worked
    have usedRow : 0 ≤ (session.used reported active).reportedSeconds.getD 0 := used
    have workedRow : 0 ≤ (session.used reported active).reportedActiveSeconds.getD 0 := worked
    exact sessionCharge_le decimals (ToolUsageSession.effectiveSeconds_nonneg usedRow workedRow now tool) none_ full

omit [DecidableEq Uuid] in
/-- What an opening's rate comes to under a cap stays within its hold, when it is paid in
advance, the rate is not negative and the cap no longer than that of the opening. -/
theorem maxSessionCost_le_openingHold {decimals : Decimals} {config : BillingConfig}
    {eff : EffectiveRate Uuid} {cap : Int}
    (prepaid : config.billingMode = .prepaid) (rising : 0 ≤ (eff.ratePerMin.getD 0).value)
    (shorter : cap ≤ config.maxMinutes eff.maxSessionMinutes) :
    maxSessionCost decimals eff.flatFee eff.ratePerMin cap ≤ openingHold decimals config eff := by
  unfold openingHold
  by_cases metered : isMetered eff.flatFee eff.ratePerMin = true
  · rw [if_pos ⟨prepaid, metered⟩]
    exact maxSessionCost_le decimals rising shorter
  · rw [if_neg fun both => metered both.2]
    have atMost : ∀ {v : Option Decimal}, isPositive v = false → (v.getD 0).value ≤ 0 := by
      intro v notPositive
      cases v with
      | none => exact Decimal.value_zero.le
      | some x => exact not_lt.mp (of_decide_eq_false notPositive)
    unfold isMetered at metered
    rw [Bool.or_eq_true, not_or, Bool.not_eq_true, Bool.not_eq_true] at metered
    have noRate : (eff.ratePerMin.getD 0).value = 0 := le_antisymm (atMost metered.2) rising
    have free : maxSessionCost decimals eff.flatFee eff.ratePerMin cap ≤ decimals.round 0 2 := by
      unfold maxSessionCost
      rw [noRate, zero_mul, add_zero]
      exact decimals.round_le_round 2 (atMost metered.1)
    rwa [decimals.round_zero] at free

/-- For a session opened in advance of use, whatever is asked and edited until it is settled:
its hold and captured rate are those resolved at its opening; the settlement charges that rate,
and for no length of use more than the hold, exactly when the captured rate was kept and its
cost under the cap as it is then fits the hold; and the debit is that charge. -/
theorem prepaid_session_within_hold {start s s' : BillingTables Uuid} {now : Int} {id userId toolId sessionId : Uuid}
    (opened : (billingMachine rules start).step s (.openSession now id userId toolId) = (s', .authorized sessionId))
    (requests : List (BillingRequest Uuid)) {tool tool' : BilledTool} (there : s.tools toolId = some tool) :
    let later := (billingMachine rules start).runFrom s' requests
    let eff := s.resolveEffectiveBilling userId toolId tool
    let cap := later.config.maxMinutes tool'.usageMaxSessionMinutes
    later.openToolSessionForTool toolId = some (sessionId, session) → later.tools toolId = some tool' →
    session.holdAmount = openingHold rules.decimals s.config eff ∧
    ((chargedRate session tool' = (eff.flatFee, eff.ratePerMin) ∧
        NeverAbove rules.decimals later.config tool' session session.holdAmount) ↔
      RateKept session tool' ∧
        sessionCharge rules.decimals eff.flatFee eff.ratePerMin 0 cap ≤ openingHold rules.decimals s.config eff ∧
        maxSessionCost rules.decimals eff.flatFee eff.ratePerMin cap ≤ openingHold rules.decimals s.config eff) ∧
    (∀ now abandoned entry,
      entry ∈ ((billingMachine rules start).step later (.settleOpenSessionForTool now toolId abandoned)).1.ledger →
      entry ∉ later.ledger →
      -entry.amount = settlementCharge rules.decimals later.config now tool'
        (session.used session.reportedSeconds session.reportedActiveSeconds) ∧
      0 ≤ session.reportedSeconds.getD 0 ∧ 0 ≤ session.reportedActiveSeconds.getD 0) := by
  intro later eff cap found live
  obtain ⟨rfl, tool₀, there₀, row⟩ := sessions_of_authorized opened
  obtain rfl := Option.some.inj (there.symm.trans there₀)
  have fresh : BillingTables.Holding sessionId (openingRow rules.decimals s.config now userId toolId eff) s' :=
    ⟨_, row, rfl, rfl, rfl, rfl, rfl, rfl, .inl rfl, fun _ => ⟨le_rfl, le_rfl, le_rfl, le_rfl⟩⟩
  obtain ⟨row', found', kept⟩ := holding_runFrom start fresh requests
  obtain ⟨lookup, -, isOpen⟩ := lookup_of_openToolSession found
  obtain rfl := Option.some.inj (found'.symm.trans lookup)
  have hold : row'.holdAmount = openingHold rules.decimals s.config eff := kept.holdAmount
  have rates : (row'.rateFlatFee, row'.ratePerMin) = (eff.flatFee, eff.ratePerMin) :=
    Prod.ext kept.rateFlatFee kept.ratePerMin
  have measured := kept.measured isOpen
  refine ⟨hold, ?_, ?_⟩
  · rw [← rates, chargedRate_eq_iff, ← hold]
    refine and_congr_right fun keeps => ?_
    rw [neverAbove_iff, (chargedRate_eq_iff row' tool').mpr keeps, kept.rateFlatFee, kept.ratePerMin]
    exact Iff.rfl
  · intro now' abandoned entry posted new
    refine ⟨?_, measured.reported, measured.active⟩
    rcases ledger_of_settle rules now' abandoned live found with same | more
    · have before : entry ∈ later.ledger := same ▸ posted
      exact absurd before new
    · have after : entry ∈ later.ledger ++ [⟨row'.userId, .toolUsage,
          -settlementCharge rules.decimals later.config now' tool' row', some (.session sessionId)⟩] := more ▸ posted
      rcases List.mem_append.mp after with before | last
      · exact absurd before new
      · rw [List.mem_singleton.mp last, neg_neg]
        rfl

section
def plainRules : BillingRules Nat := ⟨.exact, fun date => date + 1, fun access _ _ => access⟩

/-- A tool at one a minute, up to two hours; a member with ten, on a tier of their own. -/
def shop (tier : ToolRateTier Nat) : BillingTables Nat where
  config := ⟨.prepaid, false, 0, 60, 20, 3⟩
  users := Table.empty.insert 2 ⟨none⟩
  memberAccess _ := true
  tools := Table.empty.insert 7 ⟨none, some 1, some 120, "occupancy"⟩
  tiers := Table.empty.insert 5 tier
  assignments := Table.empty.insert (2, 7) 5
  ledger := [⟨2, .cashPayment, 10, none⟩]
  sessions := ∅

/-- Opened, then used for an hour. -/
def hourLong (tier : ToolRateTier Nat) (edits : List (BillingRequest Nat)) : BillingTables Nat :=
  let m := billingMachine plainRules (shop tier)
  m.runFrom (m.step m.start (BillingRequest.openSession 0 1 2 7)).1
    (edits ++ [BillingRequest.recordUsage 7 (some 3600) none])

/-- A tier at a twentieth of the rate, and the session opened on it. -/
def slowTier : ToolRateTier Nat := ⟨7, none, some 0.05, none⟩

def slowSession : ToolUsageSession Nat :=
  ⟨7, 2, 0, 6, none, some 0.05, some 5, some 3600, none, some 3600, none, none, none, .open_⟩

theorem slow_session_within_hold :
    NeverAbove plainRules.decimals (hourLong slowTier []).config
      ⟨none, some 1, some 120, "occupancy"⟩ slowSession 6 := by
  have answer : ((billingMachine plainRules (shop slowTier)).step (shop slowTier) (.openSession 0 1 2 7)).2 =
      .authorized 1 := by
    decide +kernel
  have found : (hourLong slowTier []).openToolSessionForTool 7 = some (1, slowSession) := by decide +kernel
  have live : (hourLong slowTier []).tools 7 = some ⟨none, some 1, some 120, "occupancy"⟩ := by decide +kernel
  have all := prepaid_session_within_hold (Prod.ext rfl answer) [.recordUsage 7 (some 3600) none] rfl found live
  have covered : maxSessionCost plainRules.decimals none (some 0.05) 120 ≤
      openingHold plainRules.decimals (shop slowTier).config ⟨none, some 0.05, some 120, some (5 : Nat)⟩ :=
    maxSessionCost_le_openingHold rfl (by decide +kernel) le_rfl
  exact (all.2.1.mpr ⟨.inl rfl, by decide +kernel, covered⟩).2

/-- A tier as the tool, but for a cap of ten minutes; and one with nothing set. -/
def shortTier : ToolRateTier Nat := ⟨7, none, some 1, some 10⟩

def blankTier : ToolRateTier Nat := ⟨7, none, none, none⟩

theorem hold_overrun :
    let m := billingMachine plainRules (shop shortTier)
    let short := hourLong shortTier []
    let blank := hourLong blankTier [.edit (.deleteTier 5)]
    let stop : BillingRequest Nat := .settleOpenSessionForTool 3600000000 7 false
    (short.sessions.lookup 1).map (fun row => (row.holdAmount, row.ratePerMin)) = some (10, some 1) ∧
      (m.step short stop).2 = .settled (some 60) ∧ (m.step short stop).1.userBalance 2 = -50 ∧
      (blank.sessions.lookup 1).map (fun row => (row.holdAmount, row.ratePerMin)) = some (0, none) ∧
      (m.step blank stop).2 = .settled (some 60) := by
  decide +kernel

end

end Run

end CoopSpaces

import CoopSpaces.Lib.Decimals
import CoopSpaces.Lib.Routine
import CoopSpaces.Lib.Totals
import CoopSpaces.Server.Training

namespace CoopSpaces

inductive BillingMode
  | prepaid
  | postpaid
  deriving DecidableEq

/-- What the billing code reads of the configuration. -/
structure BillingConfig where
  billingMode : BillingMode
  requireMembership : Bool
  minBalance : Rat
  defaultMaxSessionMinutes : Int
  dueAmount : Rat
  graceDays : Int
  deriving DecidableEq

/-- A tool's billing columns. -/
structure BilledTool where
  usageFlatFee : Option Decimal
  usageRatePerMin : Option Decimal
  usageMaxSessionMinutes : Option Int
  usageBasis : String
  deriving DecidableEq

structure ToolRateTier (Uuid : Type) where
  toolId : Uuid
  flatFee : Option Decimal
  ratePerMin : Option Decimal
  maxSessionMinutes : Option Int
  deriving DecidableEq

/-- The rate resolved for a member on a tool: that of their tier, else the tool's own. -/
structure EffectiveRate (Uuid : Type) where
  flatFee : Option Decimal
  ratePerMin : Option Decimal
  maxSessionMinutes : Option Int
  tierId : Option Uuid
  deriving DecidableEq

/-- A tier has its own rates, and the tool's cap where it sets none. -/
def EffectiveRate.onTier {Uuid : Type} (tool : BilledTool) : Option (Uuid × ToolRateTier Uuid) → EffectiveRate Uuid
  | some (tierId, tier) =>
    ⟨tier.flatFee, tier.ratePerMin, tier.maxSessionMinutes.or tool.usageMaxSessionMinutes, some tierId⟩
  | none => ⟨tool.usageFlatFee, tool.usageRatePerMin, tool.usageMaxSessionMinutes, none⟩

inductive SessionStatus
  | open_
  | settled
  | abandoned
  deriving DecidableEq

/-- The entry a session was settled by is named by its place in the ledger. -/
structure ToolUsageSession (Uuid : Type) where
  toolId : Uuid
  userId : Uuid
  startedAt : Int
  holdAmount : Rat
  rateFlatFee : Option Decimal
  ratePerMin : Option Decimal
  tierId : Option Uuid
  reportedSeconds : Option Rat
  reportedSensedSeconds : Option Rat
  reportedUnsensedSeconds : Option Rat
  reportedActiveSeconds : Option Rat
  chargedAmount : Option Rat
  ledgerEntryId : Option Nat
  status : SessionStatus
  deriving DecidableEq

inductive LedgerEntryType
  | stripePayment
  | cashPayment
  | duesCharge
  | stripeRefund
  | adjustment
  | toolUsage
  deriving DecidableEq

/-- A settlement is referenced by its session, a payment by what its processor calls it. -/
inductive LedgerReference (Uuid : Type)
  | session (id : Uuid)
  | external (reference : String)
  deriving DecidableEq

structure LedgerEntry (Uuid : Type) where
  userId : Uuid
  entryType : LedgerEntryType
  amount : Rat
  externalReference : Option (LedgerReference Uuid)
  deriving DecidableEq

structure MemberRow where
  membershipNextDueAt : Option Int
  deriving DecidableEq

/-- The tables tool billing and the dues share, with the configuration. A member has at most
one tier on a tool. -/
structure BillingTables (Uuid : Type) where
  config : BillingConfig
  users : Table Uuid MemberRow
  memberAccess : Uuid → Bool
  tools : Table Uuid BilledTool
  tiers : Table Uuid (ToolRateTier Uuid)
  assignments : Table (Uuid × Uuid) Uuid
  ledger : List (LedgerEntry Uuid)
  sessions : AList fun _ : Uuid => ToolUsageSession Uuid

/-- What billing takes from elsewhere: decimal arithmetic, the calendar's next anniversary, and
who has `member.access` once the role machine has run for a member. -/
structure BillingRules (Uuid : Type) where
  decimals : Decimals
  advancePeriod : Int → Int
  applyRole : (Uuid → Bool) → Uuid → Bool → Uuid → Bool

section Rates
variable (decimals : Decimals)

def isPositive (v : Option Decimal) : Bool := v.any fun x => decide (0 < x.value)

/-- A tool is metered: it has a flat fee or a per-minute rate set. -/
def isMetered (flatFee ratePerMin : Option Decimal) : Bool := isPositive flatFee || isPositive ratePerMin

/-- The most a session can cost. -/
def maxSessionCost (flatFee ratePerMin : Option Decimal) (maxMinutes : Int) : Rat :=
  decimals.round ((flatFee.getD 0).value + (ratePerMin.getD 0).value * maxMinutes) 2

/-- Which of the two reported durations the charge is computed from. Absence falls back;
zero does not. -/
def effectiveReported (basis : String) (reportedSeconds reportedActiveSeconds : Option Rat) : Rat :=
  if basis = "active" then (reportedActiveSeconds.or reportedSeconds).getD 0 else reportedSeconds.getD 0

/-- The time that bills: never less than none, and no more than the cap. -/
def billableSeconds (effectiveSeconds : Rat) (maxMinutes : Int) : Rat :=
  let maxSecs := (maxMinutes : Rat) * 60
  if maxSecs < effectiveSeconds then maxSecs else if effectiveSeconds < 0 then 0 else effectiveSeconds

/-- A product is written with the places of both factors. -/
def sessionCharge (flatFee ratePerMin : Option Decimal) (effectiveSeconds : Rat) (maxMinutes : Int) : Rat :=
  let rate := ratePerMin.getD 0
  let billable := billableSeconds effectiveSeconds maxMinutes
  let timeCharge := decimals.div (rate.scale + Decimal.places billable) (rate.value * billable) 60
  decimals.round ((flatFee.getD 0).value + timeCharge) 2

/-- The gate of a metered tool: membership when required, and enough available. -/
def meteredAccessOk (isMember requireMembership : Bool) (available required : Rat) : Bool :=
  (!requireMembership || isMember) && decide (required ≤ available)

namespace BillingConfig

/-- The billable-minute cap of a tool: its own, or the default. -/
def maxMinutes (config : BillingConfig) (own : Option Int) : Int := own.getD config.defaultMaxSessionMinutes

/-- What must be available to start at a resolved rate. -/
def requiredForRate (config : BillingConfig) (flatFee ratePerMin : Option Decimal) (cap : Option Int) : Rat :=
  match config.billingMode with
  | .prepaid => maxSessionCost decimals flatFee ratePerMin (config.maxMinutes cap)
  | .postpaid => config.minBalance

/-- Free rates are never gated. -/
def authorizesRate (config : BillingConfig) (flatFee ratePerMin : Option Decimal) (cap : Option Int) (available : Rat)
    (isMember : Bool) : Bool :=
  if !isMetered flatFee ratePerMin then true
  else meteredAccessOk isMember config.requireMembership available
    (config.requiredForRate decimals flatFee ratePerMin cap)

end BillingConfig

/-- The rate charged: the one captured when the session was opened; a session with none of it
falls back to the tool's. -/
def chargedRate {Uuid : Type} (session : ToolUsageSession Uuid) (tool : BilledTool) :
    Option Decimal × Option Decimal :=
  if session.ratePerMin.isSome || session.rateFlatFee.isSome || session.tierId.isSome then
    (session.rateFlatFee, session.ratePerMin)
  else (tool.usageFlatFee, tool.usageRatePerMin)

/-- Reported usage, capped at the time the tool was on. -/
def effectiveSeconds {Uuid : Type} (now : Int) (tool : BilledTool) (session : ToolUsageSession Uuid) : Rat :=
  let reported := effectiveReported tool.usageBasis session.reportedSeconds session.reportedActiveSeconds
  let elapsed : Rat := (max ((now - session.startedAt).tdiv 1000000) 0 : Int)
  if elapsed < reported then elapsed else reported

/-- What settling the session now charges, with the tool and the configuration as they are. -/
def settlementCharge {Uuid : Type} (config : BillingConfig) (now : Int) (tool : BilledTool)
    (session : ToolUsageSession Uuid) : Rat :=
  let rate := chargedRate session tool
  sessionCharge decimals rate.1 rate.2 (effectiveSeconds now tool session)
    (config.maxMinutes tool.usageMaxSessionMinutes)

end Rates

namespace BillingTables
variable {Uuid : Type} [DecidableEq Uuid]

/-- The tier a member is on with a tool. -/
def tierOf (s : BillingTables Uuid) (userId toolId : Uuid) : Option (Uuid × ToolRateTier Uuid) :=
  (s.assignments (userId, toolId)).bind fun tierId => (s.tiers tierId).map fun tier => (tierId, tier)

def resolveEffectiveBilling (s : BillingTables Uuid) (userId toolId : Uuid) (tool : BilledTool) :
    EffectiveRate Uuid :=
  .onTier tool (s.tierOf userId toolId)

/-- A member's current balance: the sum of their ledger amounts. -/
def userBalance (s : BillingTables Uuid) (userId : Uuid) : Rat :=
  (s.ledger.map fun entry => if entry.userId = userId then entry.amount else 0).sum

/-- The sum of the still-open holds of a member. -/
def sumOpenToolHolds (s : BillingTables Uuid) (userId : Uuid) : Rat :=
  s.sessions.total fun _ row => if row.userId = userId ∧ row.status = .open_ then row.holdAmount else 0

/-- Ledger balance minus open holds. -/
def availableBalance (s : BillingTables Uuid) (userId : Uuid) : Rat :=
  s.userBalance userId - s.sumOpenToolHolds userId

def openToolSessionForTool (s : BillingTables Uuid) (toolId : Uuid) : Option (Uuid × ToolUsageSession Uuid) :=
  (s.sessions.entries.find? fun row => row.2.toolId = toolId && row.2.status = .open_).map fun row => (row.1, row.2)

def ledgerEntryExistsForReference (s : BillingTables Uuid) (reference : LedgerReference Uuid) : Bool :=
  s.ledger.any fun entry => entry.externalReference = some reference

end BillingTables

/-- The edits staff make of rates, tiers and the configuration. -/
inductive CatalogEdit (Uuid : Type)
  | setTool (toolId : Uuid) (row : BilledTool)
  | setTier (tierId : Uuid) (row : ToolRateTier Uuid)
  | deleteTier (tierId : Uuid)
  | assignTier (userId toolId tierId : Uuid)
  | clearTier (userId toolId : Uuid)
  | configure (config : BillingConfig)
  deriving DecidableEq

/-- The statements that change a billing table, each run as one. -/
inductive BillingWrite (Uuid : Type)
  | insertToolSession (id : Uuid) (row : ToolUsageSession Uuid)
  | addReportedSeconds (id : Uuid) (seconds : Rat) (sensed : Bool)
  | addReportedActiveSeconds (id : Uuid) (seconds : Rat)
  | settleToolSession (id : Uuid) (reported : Option Rat) (charged : Rat) (ledgerEntry : Option Nat)
    (status : SessionStatus)
  | insertLedgerEntry (entry : LedgerEntry Uuid)
  | setMembershipNextDue (userId : Uuid) (next : Option Int)
  | applyRole (userId : Uuid) (entitled : Bool)
  | edit (edit : CatalogEdit Uuid)

namespace ToolUsageSession
variable {Uuid : Type}

/-- Reports of a device that senses the machine are the session's figure; those of a device
that only switches power count until one has spoken. -/
def addReported (row : ToolUsageSession Uuid) (seconds : Rat) (sensed : Bool) : ToolUsageSession Uuid :=
  if sensed then
    { row with
      reportedSensedSeconds := some (row.reportedSensedSeconds.getD 0 + seconds)
      reportedSeconds := some (row.reportedSensedSeconds.getD 0 + seconds) }
  else
    { row with
      reportedUnsensedSeconds := some (row.reportedUnsensedSeconds.getD 0 + seconds)
      reportedSeconds :=
        if row.reportedSensedSeconds.isNone then some (row.reportedUnsensedSeconds.getD 0 + seconds)
        else row.reportedSeconds }

/-- Nothing has been reported of it. -/
structure Unused (row : ToolUsageSession Uuid) : Prop where
  reported : row.reportedSeconds = none
  sensed : row.reportedSensedSeconds = none
  unsensed : row.reportedUnsensedSeconds = none
  active : row.reportedActiveSeconds = none

end ToolUsageSession

namespace BillingTables
variable {Uuid : Type} [DecidableEq Uuid]

def editCatalog (s : BillingTables Uuid) : CatalogEdit Uuid → BillingTables Uuid
  | .setTool toolId row => { s with tools := s.tools.insert toolId row }
  | .setTier tierId row => { s with tiers := s.tiers.insert tierId row }
  -- Assignments go with their tier; a session only loses its mention of it.
  | .deleteTier tierId =>
    { s with
      tiers := s.tiers.erase tierId
      assignments := s.assignments.retain fun _ assigned => decide (assigned ≠ tierId)
      sessions := s.sessions.mapVal fun _ row =>
        { row with tierId := row.tierId.filter fun mine => decide (mine ≠ tierId) } }
  | .assignTier userId toolId tierId =>
    if (s.tiers tierId).any fun tier => tier.toolId = toolId then
      { s with assignments := s.assignments.insert (userId, toolId) tierId }
    else s
  | .clearTier userId toolId => { s with assignments := s.assignments.erase (userId, toolId) }
  | .configure config => { s with config }

/-- An update of a session that is open still; no other is touched. -/
def updateOpen (s : BillingTables Uuid) (id : Uuid) (change : ToolUsageSession Uuid → ToolUsageSession Uuid) :
    BillingTables Uuid × Except DbError Nat :=
  match s.sessions.lookup id with
  | none => (s, .ok 0)
  | some row =>
    if row.status = .open_ then ({ s with sessions := s.sessions.insert id (change row) }, .ok 1) else (s, .ok 0)

/-- The reply is how many rows were changed, or which entry the ledger has got. -/
def perform (rules : BillingRules Uuid) (s : BillingTables Uuid) :
    BillingWrite Uuid → BillingTables Uuid × Except DbError Nat
  | .insertToolSession id row =>
    -- At most one open session for a tool.
    if (s.sessions.lookup id).isSome || (s.openToolSessionForTool row.toolId).isSome then (s, .error .uniqueViolation)
    else if (s.tools row.toolId).isNone || (s.users row.userId).isNone then (s, .error .foreignKeyViolation)
    else ({ s with sessions := s.sessions.insert id row }, .ok 1)
  | .addReportedSeconds id seconds sensed => s.updateOpen id fun row => row.addReported seconds sensed
  | .addReportedActiveSeconds id seconds =>
    s.updateOpen id fun row => { row with reportedActiveSeconds := some (row.reportedActiveSeconds.getD 0 + seconds) }
  | .settleToolSession id reported charged ledgerEntry status =>
    s.updateOpen id fun row =>
      { row with reportedSeconds := reported, chargedAmount := some charged, ledgerEntryId := ledgerEntry, status }
  | .insertLedgerEntry entry =>
    if entry.externalReference.any s.ledgerEntryExistsForReference then (s, .error .uniqueViolation)
    else if (s.users entry.userId).isNone then (s, .error .foreignKeyViolation)
    else ({ s with ledger := s.ledger ++ [entry] }, .ok s.ledger.length)
  | .setMembershipNextDue userId next =>
    if (s.users userId).isNone then (s, .error .notFound)
    else ({ s with users := s.users.insert userId ⟨next⟩ }, .ok 1)
  | .applyRole userId entitled => ({ s with memberAccess := rules.applyRole s.memberAccess userId entitled }, .ok 1)
  | .edit edit => (s.editCatalog edit, .ok 1)

end BillingTables

/-- Why a metered tool is refused. -/
inductive ActivationDenial
  | toolNotFound
  | openSession
  | membershipRequired
  | insufficientBalance (available required : Rat)
  deriving DecidableEq

inductive BillingAnswer (Uuid : Type)
  | notMetered
  | authorized (sessionId : Uuid)
  | denied (reason : ActivationDenial)
  | recorded (accepted : Bool)
  | settled (charge : Option Rat)
  | credited (posted : Bool)
  | done
  | failed (error : DbError)
  deriving DecidableEq

inductive BillingRequest (Uuid : Type)
  | openSession (now : Int) (id userId toolId : Uuid)
  | recordUsage (toolId : Uuid) (seconds : Option Rat) (activeSeconds : Option (Option Rat))
  | settleOpenSessionForTool (now : Int) (toolId : Uuid) (abandoned : Bool)
  | recordCredit (now : Int) (userId : Uuid) (entryType : LedgerEntryType) (amount : Rat) (reference : Option String)
  | settleRenewal (now : Int) (userId : Uuid)
  | edit (edit : CatalogEdit Uuid)

abbrev BillingRoutine (Uuid : Type) :=
  Routine (BillingTables Uuid) (BillingWrite Uuid) (Except DbError Nat) (BillingAnswer Uuid)

namespace BillingRequest
variable {Uuid : Type} [DecidableEq Uuid] (rules : BillingRules Uuid)

/-- A statement, and what follows if it is not refused. -/
def andThen (change : BillingWrite Uuid) (next : BillingRoutine Uuid) : BillingRoutine Uuid :=
  .write change fun reply =>
    match reply with
    | .ok _ => next
    | .error e => .done (.failed e)

/-- Opening a session on a tool as it was loaded: the money gate and, on pass, the hold. -/
def openLoaded (now : Int) (id userId toolId : Uuid) (tool : BilledTool) : BillingRoutine Uuid :=
  .read fun s =>
    if (s.openToolSessionForTool toolId).isSome then .done (.denied .openSession)
    else .read fun s =>
      let eff := s.resolveEffectiveBilling userId toolId tool
      let metered := isMetered eff.flatFee eff.ratePerMin
      .read fun s =>
        if metered && s.config.requireMembership && !s.memberAccess userId then .done (.denied .membershipRequired)
        else .read fun s =>
          let required := s.config.requiredForRate rules.decimals eff.flatFee eff.ratePerMin eff.maxSessionMinutes
          .read fun s =>
            let balance := s.userBalance userId
            .read fun s =>
              let available := balance - s.sumOpenToolHolds userId
              if metered && decide (available < required)
                then .done (.denied (.insufficientBalance available required))
              else .read fun s =>
                let hold := if s.config.billingMode = .prepaid ∧ metered = true then required else 0
                .write
                  (.insertToolSession id ⟨toolId, userId, now, hold, eff.flatFee, eff.ratePerMin, eff.tierId,
                    none, none, none, none, none, none, .open_⟩)
                  fun reply =>
                    match reply with
                    | .ok _ => .done (.authorized id)
                    | .error e => .done (.failed e)

/-- Activation of a metered tool. -/
def open_ (now : Int) (id userId toolId : Uuid) : BillingRoutine Uuid :=
  .read fun s =>
    match s.tools toolId with
    | none => .done (.denied .toolNotFound)
    | some tool =>
      -- The guard asks only for a tool that is metered by its own columns.
      if !isMetered tool.usageFlatFee tool.usageRatePerMin then .done .notMetered
      else openLoaded rules now id userId toolId tool

/-- A reported figure as it is written down: to the thousandth of a second, a half to the even
digit. -/
def thousandths (seconds : Rat) : Rat := Decimals.roundHalfEven seconds 3

theorem thousandths_nonneg {seconds : Rat} (used : 0 ≤ seconds) : 0 ≤ thousandths seconds := by
  have least := Decimals.roundHalfEven_le 3 used
  rwa [Decimals.roundHalfEven_zero] at least

/-- A usage report against a tool's session. A figure that is no number is `none`. -/
def usage (toolId : Uuid) (seconds : Option Rat) (activeSeconds : Option (Option Rat)) : BillingRoutine Uuid :=
  match seconds.filter fun x => decide (0 ≤ x) with
  | none => .done (.recorded false)
  | some reported =>
    .read fun s =>
      match s.openToolSessionForTool toolId with
      | none => .done (.recorded false)
      | some (id, _) =>
        andThen (.addReportedSeconds id (thousandths reported) activeSeconds.isSome)
          (match activeSeconds.join.filter fun x => decide (0 ≤ x) with
          | none => .done (.recorded true)
          | some active => andThen (.addReportedActiveSeconds id (thousandths active)) (.done (.recorded true)))

/-- The debit is posted first, once for a session; then the session is closed. The tool is as it
was loaded. -/
def settleLoaded (now : Int) (toolId : Uuid) (tool : BilledTool) (abandoned : Bool) : BillingRoutine Uuid :=
  .read fun s =>
    match s.openToolSessionForTool toolId with
    | none => .done (.settled none)
    | some (id, session) =>
      .read fun s =>
        let charge := settlementCharge rules.decimals s.config now tool session
        let close (posted : Option Nat) : BillingRoutine Uuid :=
          .write (.settleToolSession id session.reportedSeconds charge posted
            (if abandoned then .abandoned else .settled))
            fun reply =>
              match reply with
              | .ok n => .done (.settled (if 0 < n ∧ posted.isSome = true then some charge else none))
              | .error e => .done (.failed e)
        .read fun s =>
          if s.ledgerEntryExistsForReference (.session id) then close none
          else .write (.insertLedgerEntry ⟨session.userId, .toolUsage, -charge, some (.session id)⟩) fun reply =>
            match reply with
            | .ok entry => close (some entry)
            -- Lost the race with a concurrent settle: the debit is already in.
            | .error .uniqueViolation => close none
            | .error e => .done (.failed e)

def settle (now : Int) (toolId : Uuid) (abandoned : Bool) : BillingRoutine Uuid :=
  .read fun s =>
    match s.tools toolId with
    | none => .done (.settled none)
    | some tool => settleLoaded rules now toolId tool abandoned

def duesEntry (userId : Uuid) (amount : Rat) : LedgerEntry Uuid := ⟨userId, .duesCharge, -amount, none⟩

/-- After a credit, start a membership if the user is not enrolled and now has enough to cover
a period. -/
def settleAfterCredit (now : Int) (userId : Uuid) : BillingRoutine Uuid :=
  .read fun s =>
    match s.users userId with
    | none => .done (.credited true)
    | some user =>
      if user.membershipNextDueAt.isSome then .done (.credited true)
      else .read fun s =>
        let due := s.config.dueAmount
        .read fun s =>
          if due ≤ s.userBalance userId then
            andThen (.insertLedgerEntry (duesEntry userId due))
              (andThen (.setMembershipNextDue userId (some (rules.advancePeriod now)))
                (andThen (.applyRole userId true) (.done (.credited true))))
          else .done (.credited true)

/-- Post a credit, once for a reference. -/
def credit (now : Int) (userId : Uuid) (entryType : LedgerEntryType) (amount : Rat) (reference : Option String) :
    BillingRoutine Uuid :=
  let post : BillingRoutine Uuid :=
    .write (.insertLedgerEntry ⟨userId, entryType, amount, reference.map .external⟩) fun reply =>
      match reply with
      | .ok _ => settleAfterCredit rules now userId
      | .error .uniqueViolation => .done (.credited false)
      | .error e => .done (.failed e)
  match reference with
  | none => post
  | some r => .read fun s => if s.ledgerEntryExistsForReference (.external r) then .done (.credited false) else post

def duesDue (nextDue now graceDays : Int) : Bool := decide (nextDue + daysToMicros graceDays ≤ now)

/-- The loop of a renewal, with as many turns left as its guard allows. -/
def renewals (now : Int) (userId : Uuid) (due : Rat) (graceDays : Int) : Nat → Option Int → BillingRoutine Uuid
  | 0, _ => .done .done
  | _ + 1, none => .done .done
  | turns + 1, some nextDue =>
    if !duesDue nextDue now graceDays then .done .done
    else .read fun s =>
      if due ≤ s.userBalance userId then
        let next := rules.advancePeriod nextDue
        andThen (.insertLedgerEntry (duesEntry userId due))
          (andThen (.setMembershipNextDue userId (some next))
            (andThen (.applyRole userId true) (renewals now userId due graceDays turns (some next))))
      else
        -- Cannot cover: end the membership, no debt.
        andThen (.setMembershipNextDue userId none)
          (andThen (.applyRole userId false) (renewals now userId due graceDays turns none))

/-- Deduct every period now due for one enrolled user, or lapse them. -/
def renew (now : Int) (userId : Uuid) : BillingRoutine Uuid :=
  .read fun s =>
    let due := s.config.dueAmount
    let grace := s.config.graceDays
    .read fun s =>
      match s.users userId with
      | none => .done .done
      | some user => renewals rules now userId due grace 1200 user.membershipNextDueAt

def serve : BillingRequest Uuid → BillingRoutine Uuid
  | .openSession now id userId toolId => open_ rules now id userId toolId
  | .recordUsage toolId seconds activeSeconds => usage toolId seconds activeSeconds
  | .settleOpenSessionForTool now toolId abandoned => settle rules now toolId abandoned
  | .recordCredit now userId entryType amount reference => credit rules now userId entryType amount reference
  | .settleRenewal now userId => renew rules now userId
  | .edit change => andThen (.edit change) (.done .done)

end BillingRequest

namespace BillingRequest
variable {Uuid : Type} [DecidableEq Uuid] (rules : BillingRules Uuid) {Inv : BillingTables Uuid → Prop}
  {allowed : BillingWrite Uuid → Prop}

omit [DecidableEq Uuid] in
theorem andThen_meets {change : BillingWrite Uuid} {next : BillingRoutine Uuid} (ok : allowed change)
    (rest : next.Meets Inv allowed fun _ => True) : (andThen change next).Meets Inv allowed fun _ => True := by
  refine ⟨ok, fun reply => ?_⟩
  cases reply with
  | error e => trivial
  | ok n => exact rest

/-- A renewal's statements: the dues, and those about the membership. -/
theorem renewals_meets {userId : Uuid} (dues : ∀ amount, allowed (.insertLedgerEntry (duesEntry userId amount)))
    (next : ∀ due, allowed (.setMembershipNextDue userId due))
    (role : ∀ entitled, allowed (.applyRole userId entitled))
    (now : Int) (due : Rat) (grace : Int) (turns : Nat) (nextDue : Option Int) :
    (renewals rules now userId due grace turns nextDue).Meets Inv allowed fun _ => True := by
  induction turns generalizing nextDue with
  | zero => trivial
  | succ turns ih =>
    cases nextDue with
    | none => trivial
    | some date =>
      unfold renewals
      split
      · trivial
      · intro s _
        dsimp only
        split
        · exact andThen_meets (dues _) (andThen_meets (next _) (andThen_meets (role _) (ih _)))
        · exact andThen_meets (next _) (andThen_meets (role _) (ih _))

theorem settleAfterCredit_meets {userId : Uuid}
    (dues : ∀ amount, allowed (.insertLedgerEntry (duesEntry userId amount)))
    (next : ∀ due, allowed (.setMembershipNextDue userId due))
    (role : ∀ entitled, allowed (.applyRole userId entitled))
    (now : Int) : (settleAfterCredit rules now userId).Meets Inv allowed fun _ => True := by
  intro s _
  dsimp only
  split
  · trivial
  · split
    · trivial
    · intro s _ s' _
      dsimp only
      split
      · exact andThen_meets (dues _) (andThen_meets (next _) (andThen_meets (role _) trivial))
      · trivial

/-- The changes a request may make. -/
def Allowed : BillingRequest Uuid → BillingWrite Uuid → Prop
  | .openSession _ id userId toolId, .insertToolSession id' row =>
    id' = id ∧ row.userId = userId ∧ row.toolId = toolId ∧ row.status = .open_ ∧ row.Unused
  | .recordUsage .., .addReportedSeconds _ seconds _ => 0 ≤ seconds
  | .recordUsage .., .addReportedActiveSeconds _ seconds => 0 ≤ seconds
  | .settleOpenSessionForTool .., .insertLedgerEntry entry =>
    entry.entryType = .toolUsage ∧ ∃ id, entry.externalReference = some (.session id)
  | .settleOpenSessionForTool .., .settleToolSession _ _ _ _ status => status ≠ .open_
  | .recordCredit _ userId entryType amount reference, .insertLedgerEntry entry =>
    entry = ⟨userId, entryType, amount, reference.map .external⟩ ∨ ∃ due, entry = duesEntry userId due
  | .recordCredit .., .setMembershipNextDue .. => True
  | .recordCredit .., .applyRole .. => True
  | .settleRenewal _ userId, .insertLedgerEntry entry => ∃ due, entry = duesEntry userId due
  | .settleRenewal .., .setMembershipNextDue .. => True
  | .settleRenewal .., .applyRole .. => True
  | .edit asked, .edit made => made = asked
  | _, _ => False

theorem serve_meets (request : BillingRequest Uuid) :
    (request.serve rules).Meets Inv request.Allowed fun _ => True := by
  cases request with
  | openSession now id userId toolId =>
    intro s _
    dsimp only
    split
    · trivial
    · split
      · trivial
      · intro s _
        dsimp only
        split
        · trivial
        · intro s _ s' _
          dsimp only
          split
          · trivial
          · intro s _ s' _ s'' _
            dsimp only
            split
            · trivial
            · intro s _
              refine ⟨⟨rfl, rfl, rfl, rfl, rfl, rfl, rfl, rfl⟩, fun reply => ?_⟩
              cases reply <;> trivial
  | recordUsage toolId seconds activeSeconds =>
    have shape : (usage toolId seconds activeSeconds).Meets Inv
        (Allowed (.recordUsage toolId seconds activeSeconds)) fun _ => True := by
      unfold usage
      split
      · trivial
      · rename_i reported valid
        have used : 0 ≤ reported := of_decide_eq_true (Option.filter_eq_some_iff.mp valid).2
        intro s _
        dsimp only
        split
        · trivial
        · refine andThen_meets (thousandths_nonneg used) ?_
          split
          · trivial
          · rename_i active valid
            have worked : 0 ≤ active := of_decide_eq_true (Option.filter_eq_some_iff.mp valid).2
            exact andThen_meets (thousandths_nonneg worked) trivial
    exact shape
  | settleOpenSessionForTool now toolId abandoned =>
    intro s _
    dsimp only
    split
    · trivial
    · intro s _
      dsimp only
      split
      · trivial
      · intro s _ s' _
        have closes : (if abandoned = true then SessionStatus.abandoned else .settled) ≠ .open_ := by
          cases abandoned <;> decide
        dsimp only
        split
        · refine ⟨closes, fun reply => ?_⟩
          cases reply <;> trivial
        · refine ⟨⟨rfl, _, rfl⟩, fun reply => ?_⟩
          dsimp only
          split
          · refine ⟨closes, fun reply => ?_⟩
            cases reply <;> trivial
          · refine ⟨closes, fun reply => ?_⟩
            cases reply <;> trivial
          · trivial
  | recordCredit now userId entryType amount reference =>
    have after : (settleAfterCredit rules now userId).Meets Inv
      (Allowed (.recordCredit now userId entryType amount reference))
        fun _ => True := settleAfterCredit_meets rules (fun due => .inr ⟨due, rfl⟩) (fun _ => trivial)
          (fun _ => trivial) now
    have posts : ∀ reply : Except DbError Nat, (match reply with
        | .ok _ => settleAfterCredit rules now userId
        | .error .uniqueViolation => .done (.credited false)
        | .error e =>
          .done (.failed e)).Meets Inv (Allowed (.recordCredit now userId entryType amount reference)) fun _ =>
            True := by
      intro reply
      split
      · exact after
      · trivial
      · trivial
    cases reference with
    | none => exact ⟨.inl rfl, posts⟩
    | some r =>
      intro s _
      dsimp only
      split
      · trivial
      · exact ⟨.inl rfl, posts⟩
  | settleRenewal now userId =>
    intro s _ s' _
    dsimp only
    split
    · trivial
    · exact renewals_meets rules (fun due => ⟨due, rfl⟩) (fun _ => trivial) (fun _ => trivial) now _ _ _ _
  | edit change => exact andThen_meets rfl trivial

end BillingRequest

end CoopSpaces

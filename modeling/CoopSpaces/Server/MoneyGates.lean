import CoopSpaces.Server.Broadcasts
import CoopSpaces.Server.SessionCost

namespace CoopSpaces

/-- What an activation says of the money: nothing, where it does not come to that. -/
def BillingAnswer.moneyVerdict {Uuid : Type} : BillingAnswer Uuid → Option Bool
  | .notMetered => some true
  | .authorized _ => some true
  | .denied .membershipRequired => some false
  | .denied (.insufficientBalance ..) => some false
  | _ => none

namespace SyncTables
variable {Uuid Json : Type} [DecidableEq Uuid] (rules : SyncRules Json) (s : SyncTables Uuid Json)
    (userId toolId : Uuid)

def hasMemberAccess (accounts : DatabaseManager Uuid) (userId : Uuid) : Bool :=
  accounts.rbacGraph.hasPermission (accounts.userRoleIds userId) "member.access"

/-- The billing tables, with the permissions of the accounts. -/
def billed : BillingTables Uuid := { s.billing with memberAccess := hasMemberAccess s.accounts }

/-- The money filter of the offered list. It goes by levels. -/
def offers : Bool := (s.meteredGate rules).all fun gate => gate.authorizesRate userId toolId

/-- The money gate of `can_access_tool`, where training has passed. It goes by the permission. -/
def canAccess : Bool :=
  if rules.toolBilling then
    match s.accounts.findUserById userId with
    | none => false
    | some _ => authorizesRate rules.decimals s.billing (hasMemberAccess s.accounts) userId toolId
  else true

/-- Read-only gate: may this member currently start this metered tool? -/
def meteredAuthorized : Bool :=
  (s.billing.tools toolId).all fun tool =>
    let eff := s.billing.resolveEffectiveBilling userId toolId tool
    if !isMetered eff.flatFee eff.ratePerMin then true
    else meteredAccessOk (hasMemberAccess s.accounts userId) s.billing.config.requireMembership
      (s.billing.availableBalance userId)
      (s.billing.config.requiredForRate rules.decimals eff.flatFee eff.ratePerMin eff.maxSessionMinutes)

/-- An activation takes the arithmetic of the billing rules, and nothing else of them. -/
def arithmetic (rules : SyncRules Json) : BillingRules Uuid := ⟨rules.decimals, id, fun access _ _ => access⟩

/-- The money gate of an activation, and the hold it takes. -/
def activateGate (now : Int) (id : Uuid) : BillingTables Uuid × BillingAnswer Uuid :=
  if rules.toolBilling then
    (BillingRequest.open_ (arithmetic rules) now id userId toolId).solo
      (BillingTables.perform (arithmetic rules)) s.billed
  else (s.billed, .notMetered)

/-- The gates answer alike on money and membership, and an activation at a metered rate opens a
session that is charged at that rate, whatever becomes of the tool's own. -/
structure GatesAgree (now : Int) (id : Uuid) : Prop where
  offers : s.offers rules userId toolId = s.canAccess rules userId toolId
  metered : rules.toolBilling = true → s.meteredAuthorized rules userId toolId = s.canAccess rules userId toolId
  activates : ∀ verdict, (s.activateGate rules userId toolId now id).2.moneyVerdict = some verdict →
    verdict = s.canAccess rules userId toolId
  charges : rules.toolBilling = true → ∀ tool, s.billing.tools toolId = some tool →
    let eff := s.billing.resolveEffectiveBilling userId toolId tool
    isMetered eff.flatFee eff.ratePerMin = true →
      (s.activateGate rules userId toolId now id).2.moneyVerdict = some true →
      ∃ sessionId row, (s.activateGate rules userId toolId now id).2 = .authorized sessionId ∧
        (s.activateGate rules userId toolId now id).1.sessions.lookup sessionId = some row ∧ row.status = .open_ ∧
        row.userId = userId ∧ ∀ tool', chargedRate row tool' = (eff.flatFee, eff.ratePerMin)

end SyncTables

section Opening
variable {Uuid : Type} [DecidableEq Uuid] {rules : BillingRules Uuid} {s : BillingTables Uuid} {userId toolId : Uuid}
  {tool : BilledTool}

/-- An opening of a tool that is metered by its own columns says of the money what the gate says
at the member's rate. -/
theorem moneyVerdict_of_open (live : s.tools toolId = some tool)
    (metered : isMetered tool.usageFlatFee tool.usageRatePerMin = true) {now : Int} {id : Uuid} {verdict : Bool}
    (told : ((BillingRequest.open_ rules now id userId toolId).solo
      (BillingTables.perform rules) s).2.moneyVerdict = some verdict) :
    let eff := s.resolveEffectiveBilling userId toolId tool
    verdict = s.config.authorizesRate rules.decimals eff.flatFee eff.ratePerMin eff.maxSessionMinutes
      (s.availableBalance userId)
      (s.memberAccess userId) := by
  intro eff
  have asked : s.config.authorizesRate rules.decimals eff.flatFee eff.ratePerMin eff.maxSessionMinutes
    (s.availableBalance userId)
      (s.memberAccess userId) =
        (!isMetered eff.flatFee eff.ratePerMin || ((!s.config.requireMembership || s.memberAccess userId) &&
        decide (s.config.requiredForRate rules.decimals eff.flatFee eff.ratePerMin eff.maxSessionMinutes ≤
          s.availableBalance userId))) := by
    unfold BillingConfig.authorizesRate meteredAccessOk
    cases isMetered eff.flatFee eff.ratePerMin <;> rfl
  rw [asked]
  simp only [BillingRequest.open_, BillingRequest.openLoaded, Routine.solo, live, metered, Bool.not_true,
    Bool.false_eq_true, if_false] at told
  split at told
  · cases told
  · simp only [Routine.solo] at told
    split at told
    · rename_i outsider
      cases told
      have stranger : (isMetered eff.flatFee eff.ratePerMin && s.config.requireMembership &&
        !s.memberAccess userId) = true := outsider
      rw [Bool.and_eq_true, Bool.and_eq_true, Bool.not_eq_true'] at stranger
      obtain ⟨⟨priced, required⟩, stranger⟩ := stranger
      rw [priced, required, stranger]
      rfl
    · rename_i insider
      have member : ¬ (isMetered eff.flatFee eff.ratePerMin && s.config.requireMembership &&
        !s.memberAccess userId) = true := insider
      simp only [Routine.solo] at told
      split at told
      · rename_i short
        cases told
        have lacks : (isMetered eff.flatFee eff.ratePerMin && decide (s.availableBalance userId <
            s.config.requiredForRate rules.decimals eff.flatFee eff.ratePerMin eff.maxSessionMinutes)) = true := short
        rw [Bool.and_eq_true, decide_eq_true_eq, ← not_le] at lacks
        rw [lacks.1, decide_eq_false lacks.2, Bool.and_false]
        rfl
      · rename_i enough
        have covers : ¬ (isMetered eff.flatFee eff.ratePerMin && decide (s.availableBalance userId <
            s.config.requiredForRate rules.decimals eff.flatFee eff.ratePerMin eff.maxSessionMinutes)) = true :=
              enough
        have passed : verdict = true := by
          simp only [Routine.solo] at told
          generalize (s.perform rules (BillingWrite.insertToolSession id _)) = wrote at told
          obtain ⟨after, reply⟩ := wrote
          cases reply with
          | error e => cases told
          | ok n => exact (Option.some.inj told).symm
        rw [passed]
        cases priced : isMetered eff.flatFee eff.ratePerMin with
        | false => rfl
        | true =>
          rw [priced, Bool.true_and, decide_eq_true_eq, not_lt] at covers
          rw [priced, Bool.true_and] at member
          rw [decide_eq_true covers]
          revert member
          cases s.config.requireMembership <;> cases s.memberAccess userId <;> decide

/-- Such an opening is let through on the money only by writing its session. -/
theorem authorized_of_moneyVerdict (live : s.tools toolId = some tool)
    (metered : isMetered tool.usageFlatFee tool.usageRatePerMin = true) {now : Int} {id : Uuid}
    (told : ((BillingRequest.open_ rules now id userId toolId).solo
      (BillingTables.perform rules) s).2.moneyVerdict = some true) :
    ∃ sessionId, ((BillingRequest.open_ rules now id userId toolId).solo (BillingTables.perform rules) s).2 =
      .authorized sessionId := by
  have asked : ((BillingRequest.open_ rules now id userId toolId).solo (BillingTables.perform rules) s).2 ≠
      .notMetered := by
    simp only [BillingRequest.open_, BillingRequest.openLoaded, Routine.solo, live, metered, Bool.not_true,
      Bool.false_eq_true, if_false]
    split
    · exact fun same => by cases same
    · simp only [Routine.solo]
      split
      · exact fun same => by cases same
      · simp only [Routine.solo]
        split
        · exact fun same => by cases same
        · simp only [Routine.solo]
          generalize (s.perform rules (BillingWrite.insertToolSession id _)) = wrote
          obtain ⟨after, reply⟩ := wrote
          cases reply with
          | error e => exact fun same => by cases same
          | ok n => exact fun same => by cases same
  generalize ((BillingRequest.open_ rules now id userId toolId).solo (BillingTables.perform rules) s).2 =
    answer at told asked
  cases answer with
  | notMetered => exact absurd rfl asked
  | authorized sessionId => exact ⟨sessionId, rfl⟩
  | denied reason => cases reason <;> cases told
  | recorded accepted => cases told
  | settled charge => cases told
  | credited posted => cases told
  | done => cases told
  | failed error => cases told

end Opening

theorem authorizesRate_agree_iff {decimals : Decimals} {config : BillingConfig} {flatFee ratePerMin : Option Decimal}
    {cap : Option Int} {available : Rat} {isMember other : Bool} (metered : isMetered flatFee ratePerMin = true) :
    config.authorizesRate decimals flatFee ratePerMin cap available isMember =
        config.authorizesRate decimals flatFee ratePerMin cap available other ↔
      isMember = other ∨ config.requireMembership = false ∨
        available < config.requiredForRate decimals flatFee ratePerMin cap := by
  unfold BillingConfig.authorizesRate meteredAccessOk
  rw [metered, ← not_le]
  by_cases covered : config.requiredForRate decimals flatFee ratePerMin cap ≤ available
  · rw [decide_eq_true covered]
    cases config.requireMembership <;> cases isMember <;> cases other <;> simp [covered]
  · rw [decide_eq_false covered]
    simp [covered]

theorem authorizesRate_of_free {decimals : Decimals} {config : BillingConfig} {flatFee ratePerMin : Option Decimal}
    {cap : Option Int} {available : Rat} {isMember : Bool} (free : isMetered flatFee ratePerMin = false) :
    config.authorizesRate decimals flatFee ratePerMin cap available isMember = true := by
  unfold BillingConfig.authorizesRate
  rw [free]
  rfl

namespace SyncTables
variable {Uuid Json : Type} [DecidableEq Uuid] {rules : SyncRules Json} {s : SyncTables Uuid Json}
    {userId toolId : Uuid}
  {tool : BilledTool}

def hasMemberLevel (accounts : DatabaseManager Uuid) (userId : Uuid) : Bool :=
  decide (accounts.activeLevel ≤ CoopSpaces.userEffectiveLevel accounts.rbacGraph.toRoleGraph accounts.userRoles
    userId)

/-- The metered gate at the member's rate, for who counts as a member. -/
def gateAs (s : SyncTables Uuid Json) (rules : SyncRules Json) (userId toolId : Uuid) (tool : BilledTool)
    (isMember : Bool) : Bool :=
  let eff := s.billing.resolveEffectiveBilling userId toolId tool
  s.billing.config.authorizesRate rules.decimals eff.flatFee eff.ratePerMin eff.maxSessionMinutes
    (s.billing.availableBalance userId) isMember

section Gates
variable (member : (s.accounts.users.lookup userId).isSome = true) (live : s.billing.tools toolId = some tool)
include member live

theorem offers_eq (billed : rules.toolBilling = true) :
    s.offers rules userId toolId = s.gateAs rules userId toolId tool (hasMemberLevel s.accounts userId) := by
  obtain ⟨row, found⟩ := Option.isSome_iff_exists.mp member
  have listed : userId ∈ s.accounts.users.entries.map (·.1) :=
    List.mem_map.mpr ⟨⟨userId, row⟩, AList.mem_lookup_iff.mp found, rfl⟩
  have levels := @affords_iff Uuid Json _ rules s userId toolId listed
  rw [Bool.eq_iff_iff]
  unfold offers
  rw [levels]
  simp only [AffordsBy, billed, true_implies, live, Option.mem_some_iff, forall_eq']
  rfl

theorem canAccess_eq (billed : rules.toolBilling = true) :
    s.canAccess rules userId toolId = s.gateAs rules userId toolId tool (hasMemberAccess s.accounts userId) := by
  obtain ⟨row, found⟩ := Option.isSome_iff_exists.mp member
  simp only [canAccess, billed, if_true, DatabaseManager.findUserById, found, authorizesRate, live, Option.all_some]
  rfl

omit member in
theorem meteredAuthorized_eq :
    s.meteredAuthorized rules userId toolId = s.gateAs rules userId toolId tool
      (hasMemberAccess s.accounts userId) := by
  simp only [meteredAuthorized, live, Option.all_some]
  rfl

end Gates

theorem activateGate_unbilled (unbilled : rules.toolBilling = false) (now : Int) (id : Uuid) :
    s.activateGate rules userId toolId now id = (s.billed, .notMetered) := by
  unfold activateGate
  rw [unbilled]
  rfl

theorem activateGate_of_free (live : s.billing.tools toolId = some tool)
    (free : isMetered tool.usageFlatFee tool.usageRatePerMin = false) (now : Int) (id : Uuid) :
    s.activateGate rules userId toolId now id = (s.billed, .notMetered) := by
  have there : s.billed.tools toolId = some tool := live
  unfold activateGate
  split
  · simp only [BillingRequest.open_, Routine.solo, there, free, Bool.not_false, if_true]
  · rfl

theorem activateGate_verdict (live : s.billing.tools toolId = some tool)
    (metered : isMetered tool.usageFlatFee tool.usageRatePerMin = true) (billed : rules.toolBilling = true)
    {now : Int} {id : Uuid}
    {verdict : Bool} (told : (s.activateGate rules userId toolId now id).2.moneyVerdict = some verdict) :
    verdict = s.gateAs rules userId toolId tool (hasMemberAccess s.accounts userId) := by
  have there : s.billed.tools toolId = some tool := live
  unfold activateGate at told
  rw [billed] at told
  have judged := moneyVerdict_of_open there metered told
  exact judged

/-- Let through on such a tool, it opened a session, and the session keeps the member's rate. -/
theorem activateGate_charges (live : s.billing.tools toolId = some tool)
    (metered : isMetered tool.usageFlatFee tool.usageRatePerMin = true) (billed : rules.toolBilling = true)
    {now : Int} {id : Uuid}
    (priced : isMetered (s.billing.resolveEffectiveBilling userId toolId tool).flatFee
      (s.billing.resolveEffectiveBilling userId toolId tool).ratePerMin = true)
    (told : (s.activateGate rules userId toolId now id).2.moneyVerdict = some true) :
    ∃ sessionId row, (s.activateGate rules userId toolId now id).2 = .authorized sessionId ∧
      (s.activateGate rules userId toolId now id).1.sessions.lookup sessionId = some row ∧ row.status = .open_ ∧
      row.userId = userId ∧ ∀ tool',
        chargedRate row tool' = ((s.billing.resolveEffectiveBilling userId toolId tool).flatFee,
        (s.billing.resolveEffectiveBilling userId toolId tool).ratePerMin) := by
  have there : s.billed.tools toolId = some tool := live
  have gate : s.activateGate rules userId toolId now id =
      (BillingRequest.open_ (arithmetic rules) now id userId toolId).solo
        (BillingTables.perform (arithmetic rules)) s.billed := by
    unfold activateGate
    rw [billed]
    rfl
  rw [gate] at told ⊢
  obtain ⟨sessionId, opened⟩ := authorized_of_moneyVerdict there metered told
  obtain ⟨rfl, tool', there', written⟩ := sessions_of_authorized (Prod.ext rfl opened)
  obtain rfl := Option.some.inj (there.symm.trans there')
  refine ⟨sessionId, _, opened, written, rfl, rfl, fun tool' => (chargedRate_eq_iff ..).mpr ?_⟩
  -- a metered rate has a fee or a rate, so the row has captured one of them
  unfold isMetered isPositive at priced
  rcases Bool.or_eq_true_iff.mp priced with fee | rate
  · exact .inr (.inl (Option.isSome_of_any fee))
  · exact .inl (Option.isSome_of_any rate)

/-- Every gate agrees just when what has a rate for the member has one of its own, and who counts
as a member is not in question there. -/
theorem money_gates_agree_iff (rules : SyncRules Json) (s : SyncTables Uuid Json) {userId toolId : Uuid}
    {tool : BilledTool}
    (now : Int) (id : Uuid) (member : (s.accounts.users.lookup userId).isSome = true)
    (live : s.billing.tools toolId = some tool) :
    let eff := s.billing.resolveEffectiveBilling userId toolId tool
    s.GatesAgree rules userId toolId now id ↔
      (rules.toolBilling = true → isMetered eff.flatFee eff.ratePerMin = true →
        isMetered tool.usageFlatFee tool.usageRatePerMin = true ∧
          (hasMemberLevel s.accounts userId = hasMemberAccess s.accounts userId ∨
            s.billing.config.requireMembership = false ∨
            s.billing.availableBalance userId <
              s.billing.config.requiredForRate rules.decimals eff.flatFee eff.ratePerMin eff.maxSessionMinutes)) := by
  intro eff
  constructor
  · intro agree billed priced
    have same := agree.offers
    rw [offers_eq member live billed, canAccess_eq member live billed] at same
    refine ⟨?_, (authorizesRate_agree_iff priced).mp same⟩
    by_contra free
    have none_ : s.activateGate rules userId toolId now id = (s.billed, .notMetered) :=
      activateGate_of_free live (Bool.not_eq_true _ ▸ free) now id
    obtain ⟨sessionId, row, opened, -⟩ := agree.charges billed tool live priced (by rw [none_]; rfl)
    rw [none_] at opened
    cases opened
  · intro law
    cases billed : rules.toolBilling with
    | false =>
      have open_ : s.canAccess rules userId toolId = true := by
        unfold canAccess
        rw [billed]
        rfl
      refine ⟨?_, fun on => absurd (billed.symm.trans on) Bool.false_ne_true, ?_,
        fun on => absurd (billed.symm.trans on) Bool.false_ne_true⟩
      · rw [open_]
        unfold offers meteredGate
        rw [billed]
        rfl
      · intro verdict told
        rw [activateGate_unbilled billed] at told
        rw [open_]
        exact (Option.some.inj told).symm
    | true =>
      have gate := canAccess_eq member live billed
      have sameAs : s.gateAs rules userId toolId tool (hasMemberLevel s.accounts userId) =
          s.gateAs rules userId toolId tool (hasMemberAccess s.accounts userId) := by
        cases priced : isMetered eff.flatFee eff.ratePerMin with
        | false => exact (authorizesRate_of_free priced).trans (authorizesRate_of_free priced).symm
        | true => exact (authorizesRate_agree_iff priced).mpr (law billed priced).2
      refine ⟨?_, fun _ => ?_, fun verdict told => ?_, fun _ tool' live' priced told => ?_⟩
      · rw [offers_eq member live billed, gate, sameAs]
      · rw [meteredAuthorized_eq live, gate]
      · rw [gate]
        cases metered : isMetered tool.usageFlatFee tool.usageRatePerMin with
        | true => exact activateGate_verdict live metered billed told
        | false =>
          have free : isMetered eff.flatFee eff.ratePerMin = false := by
            by_contra priced
            have own := (law billed (Bool.not_eq_false _ ▸ priced)).1
            rw [metered] at own
            cases own
          rw [activateGate_of_free live metered] at told
          exact (Option.some.inj told).symm.trans (authorizesRate_of_free free).symm
      · obtain rfl := Option.some.inj (live.symm.trans live')
        exact activateGate_charges live (law billed priced).1 billed priced told

end SyncTables

def billedSite : SyncRules Unit := { unbilled with toolBilling := true }

/-- The press at its own fee, and a tier of it at another, assigned to the member. The member has
nothing. -/
def tieredPress (own tier : Option Decimal) : SyncTables HexId Unit :=
  { trainedSite with
    billing :=
      { trainedSite.billing with
        users := Table.empty.insert signedUp ⟨none⟩
        tools := Table.empty.insert press ⟨own, none, none, "occupancy"⟩
        tiers := Table.empty.insert pressSafety ⟨press, tier, none, none⟩
        assignments := Table.empty.insert (signedUp, press) pressSafety } }

theorem money_gates_agree_iff_priced :
    let s := tieredPress (some 5) (some 3)
    let eff := s.billing.resolveEffectiveBilling signedUp press ⟨some 5, none, none, "occupancy"⟩
    s.GatesAgree billedSite signedUp press 0 ada ↔
      (billedSite.toolBilling = true → isMetered eff.flatFee eff.ratePerMin = true →
        isMetered (some 5) none = true ∧
          (SyncTables.hasMemberLevel s.accounts signedUp = SyncTables.hasMemberAccess s.accounts signedUp ∨
            s.billing.config.requireMembership = false ∨ s.billing.availableBalance signedUp <
              s.billing.config.requiredForRate billedSite.decimals eff.flatFee eff.ratePerMin
                eff.maxSessionMinutes)) :=
  SyncTables.money_gates_agree_iff billedSite (tieredPress (some 5) (some 3)) 0 ada (by decide) (by decide)

/-- A paid tier of a free tool: nobody who cannot pay is offered it, and all who ask are let on. -/
theorem money_gates_disagree :
    let s := tieredPress none (some 3)
    s.offers billedSite signedUp press = false ∧ s.canAccess billedSite signedUp press = false ∧
      s.meteredAuthorized billedSite signedUp press = false ∧
        (s.activateGate billedSite signedUp press 0 ada).2 = .notMetered ∧
      ¬ s.GatesAgree billedSite signedUp press 0 ada := by
  have refused : (tieredPress none (some 3)).canAccess billedSite signedUp press = false := by decide +kernel
  have activated : ((tieredPress none (some 3)).activateGate billedSite signedUp press 0 ada).2 =
    .notMetered := by decide +kernel
  refine ⟨by decide +kernel, refused, by decide +kernel, activated, fun agree => ?_⟩
  have alike := agree.activates true (congrArg BillingAnswer.moneyVerdict activated)
  rw [refused] at alike
  cases alike

end CoopSpaces

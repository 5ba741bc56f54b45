import CoopSpaces.Server.Coalescer
import CoopSpaces.Server.DeviceScope
import CoopSpaces.Server.RefusedStarts

namespace CoopSpaces

/-- Lists put together from the same pieces but one are the same just when that piece is. -/
theorem flatMap_eq_iff_of_nodup {α β K : Type} [DecidableEq K] {key : α → K} {items : List α} {f g : α → List β}
    {k : K}
    (distinct : (items.map key).Nodup) (others : ∀ x ∈ items, key x ≠ k → f x = g x) :
    items.flatMap f = items.flatMap g ↔ ∀ x ∈ items, key x = k → f x = g x := by
  constructor
  · intro same x member named
    obtain ⟨front, back, rfl⟩ := List.append_of_mem member
    rw [List.map_append, List.map_cons, List.nodup_append, List.nodup_cons] at distinct
    have before : front.flatMap f = front.flatMap g := by
      refine List.flatMap_congr fun y there => others y (List.mem_append_left _ there) fun here => ?_
      exact distinct.2.2 (key y) (List.mem_map_of_mem there) (key x) (List.mem_cons_self ..) (here.trans named.symm)
    have after : back.flatMap f = back.flatMap g := by
      refine List.flatMap_congr fun y there =>
        others y (List.mem_append_right _ (List.mem_cons_of_mem _ there)) fun here => ?_
      exact distinct.2.1.1 (List.mem_map.mpr ⟨y, there, here.trans named.symm⟩)
    rw [List.flatMap_append, List.flatMap_append, List.flatMap_cons, List.flatMap_cons, before, after] at same
    exact List.append_cancel_right (List.append_cancel_left same)
  · intro same
    refine List.flatMap_congr fun x member => ?_
    by_cases named : key x = k
    · exact same x member named
    · exact others x member named

namespace Database
variable {Uuid Json : Type} [DecidableEq Uuid] [IdText Uuid] (db : Database Uuid Json) (site : SiteTime Json)
    (now : Int)
  (device : Uuid) (field : String) (cipher : Option CardCipher)

/-- One member's entries of a payload, with the tools that are shut taken out. -/
def entriesOf (gate : Option (MeteredGate Uuid)) (user : User Uuid) : List (SyncUser Uuid) :=
  (db.syncUsers site now device field gate cipher user).map fun u =>
    { u with authorizedToolIds := u.authorizedToolIds.filter (· ∉ db.closedToolIdsNow site now) }

/-- A tool is listed while it is open and some member with a card may use it. -/
def lists (gate : Option (MeteredGate Uuid)) (t : Tool Uuid) : Bool :=
  decide (t.id ∉ db.closedToolIdsNow site now) && db.users.any fun u => db.identifiers field cipher u ≠ [] &&
    decide (t.id ∈ db.authorizedToolIds site now device gate u.id)

theorem buildSyncPayload_eq (gate : Option (MeteredGate Uuid)) :
    db.buildSyncPayload site now device field gate cipher =
    { deviceId := device
      profileField := field
      users := db.users.flatMap (db.entriesOf site now device field cipher gate)
      tools := ((db.boundTools device).filter (db.lists site now device field cipher gate)).map fun t =>
        ⟨t.id, t.externalId, t.name, t.status, gate.any fun g => g.requiresOnline t.id⟩ } := by
  unfold buildSyncPayload getToolguardSyncData entriesOf lists
  dsimp only
  split
  · rename_i open_
    simp [open_]
  · rw [List.map_flatMap, List.filter_map, List.filter_filter]
    rfl

/-- A tool has been given a status. -/
def retold (toolId : Uuid) (status : ToolStatus) : Database Uuid Json :=
  { db with tools := db.tools.map fun t => if t.id = toolId then { t with status } else t }

variable {db device}

omit [IdText Uuid] in
/-- A device that is not bound to the tool does not see its status. -/
theorem boundTools_retold {toolId : Uuid} {status : ToolStatus} (unbound : (device, toolId) ∉ db.bindings) :
    (db.retold toolId status).boundTools device = db.boundTools device := by
  have others : ∀ t ∈ db.boundTools device, (if t.id = toolId then { t with status } else t) = t := by
    intro t member
    have bound := of_decide_eq_true (List.mem_filter.mp member).2
    refine if_neg fun same => unbound ?_
    rwa [← same]
  have asked :
    (fun t : Tool Uuid => decide ((device, (if t.id = toolId then { t with status } else t).id) ∈ db.bindings)) =
      fun t => decide ((device, t.id) ∈ db.bindings) := by
    funext t
    split
    · rfl
    · rfl
  have filtered : (db.retold toolId status).boundTools device =
      (db.boundTools device).map fun t => if t.id = toolId then { t with status } else t := by
    show (db.tools.map fun t => if t.id = toolId then { t with status } else t).filter
      (fun t => decide ((device, t.id) ∈ db.bindings)) = _
    rw [List.filter_map]
    exact congrArg (fun p => (db.tools.filter p).map _) asked
  rw [filtered]
  exact (List.map_congr_left others).trans (List.map_id _)

omit [IdText Uuid] in
theorem closedToolIdsNow_retold {toolId : Uuid} {status : ToolStatus} :
    (db.retold toolId status).closedToolIdsNow site now = db.closedToolIdsNow site now := by
  have kept : ∀ t : Tool Uuid, isClosed site (Table.index (·.id) db.schedules) now
      (if t.id = toolId then { t with status } else t) = isClosed site (Table.index (·.id) db.schedules) now t := by
    intro t
    split
    · rfl
    · rfl
  have named : ∀ t : Tool Uuid, (if t.id = toolId then { t with status } else t).id = t.id := by
    intro t
    split
    · rfl
    · rfl
  unfold closedToolIdsNow retold
  dsimp only
  rw [List.filter_map, List.map_map]
  split
  · rfl
  · rw [show isClosed site (Table.index (·.id) db.schedules) now ∘
      (fun t => if t.id = toolId then { t with status } else t) = _ from
      funext kept]
    exact List.map_congr_left fun t _ => named t

theorem buildSyncPayload_retold {toolId : Uuid} {status : ToolStatus} (unbound : (device, toolId) ∉ db.bindings)
    (gate : Option (MeteredGate Uuid)) :
    (db.retold toolId status).buildSyncPayload site now device field gate cipher =
      db.buildSyncPayload site now device field gate cipher := by
  have may : ∀ user, (db.retold toolId status).authorizedToolIds site now device gate user =
      db.authorizedToolIds site now device gate user := by
    intro user
    unfold authorizedToolIds
    rw [boundTools_retold unbound]
    rfl
  rw [buildSyncPayload_eq, buildSyncPayload_eq, boundTools_retold unbound]
  unfold entriesOf lists syncUsers
  simp only [may, closedToolIdsNow_retold]
  rfl

variable (db device) in
/-- Two purses of a member open the same of a device's tools the member is trained on: of those that are open now
each, and of all of them any. -/
structure SameOffer (member : Uuid) (pays pays' : Uuid → Bool) : Prop where
  each : ∀ t ∈ db.boundTools device, t.id ∉ db.closedToolIdsNow site now →
    db.userIsAuthorizedForTool site now member t.id t.requiresTraining = true → (pays' t.id = true ↔ pays t.id = true)
  any : (∃ t ∈ db.boundTools device,
      db.userIsAuthorizedForTool site now member t.id t.requiresTraining = true ∧ pays' t.id = true) ↔
    ∃ t ∈ db.boundTools device, db.userIsAuthorizedForTool site now member t.id t.requiresTraining = true ∧
      pays t.id = true

/-- What a gate says of a member's money for a tool. -/
def pays (gate : Option (MeteredGate Uuid)) (member toolId : Uuid) : Bool :=
  gate.all fun g => g.authorizesRate member toolId

theorem mem_authorizedToolIds {gate : Option (MeteredGate Uuid)} {member toolId : Uuid} :
    toolId ∈ db.authorizedToolIds site now device gate member ↔ ∃ t ∈ db.boundTools device, t.id = toolId ∧
      db.userIsAuthorizedForTool site now member t.id t.requiresTraining = true ∧ pays gate member toolId = true := by
  simp only [authorizedToolIds, List.mem_map, List.mem_filter, Bool.and_eq_true]
  constructor
  · rintro ⟨t, ⟨bound, trained, pays_⟩, rfl⟩
    exact ⟨t, bound, rfl, trained, pays_⟩
  · rintro ⟨t, bound, rfl, trained, pays_⟩
    exact ⟨t, ⟨bound, trained, pays_⟩, rfl⟩

theorem authorizedToolIds_ne_nil {gate : Option (MeteredGate Uuid)} {member : Uuid} :
    db.authorizedToolIds site now device gate member ≠ [] ↔ ∃ t ∈ db.boundTools device,
      db.userIsAuthorizedForTool site now member t.id t.requiresTraining = true ∧ pays gate member t.id = true := by
  constructor
  · intro some_
    obtain ⟨toolId, member_⟩ := List.exists_mem_of_ne_nil _ some_
    obtain ⟨t, bound, rfl, trained, pays_⟩ := (mem_authorizedToolIds site now).mp member_
    exact ⟨t, bound, trained, pays_⟩
  · rintro ⟨t, bound, trained, pays_⟩
    exact List.ne_nil_of_mem ((mem_authorizedToolIds site now).mpr ⟨t, bound, rfl, trained, pays_⟩)

theorem sameOffer_iff {gate gate' : Option (MeteredGate Uuid)} {member : Uuid} :
    db.SameOffer site now device member (pays gate member) (pays gate' member) ↔
      (db.authorizedToolIds site now device gate' member ≠ [] ↔
        db.authorizedToolIds site now device gate member ≠ []) ∧
          (db.authorizedToolIds site now device gate' member).filter (· ∉ db.closedToolIdsNow site now) =
          (db.authorizedToolIds site now device gate member).filter (· ∉ db.closedToolIdsNow site now) := by
  constructor
  · intro same
    refine ⟨by rw [authorizedToolIds_ne_nil, authorizedToolIds_ne_nil, same.any], ?_⟩
    unfold authorizedToolIds
    rw [List.filter_map, List.filter_map, List.filter_filter, List.filter_filter]
    refine congrArg (List.map Tool.id) (List.filter_congr fun t bound => ?_)
    rw [Bool.eq_iff_iff]
    simp only [Function.comp_apply, Bool.and_eq_true, decide_eq_true_eq]
    refine and_congr_right fun opened => and_congr_right fun trained => ?_
    exact same.each t bound opened trained
  · rintro ⟨some_, listed⟩
    have each : ∀ toolId, toolId ∉ db.closedToolIdsNow site now →
      (toolId ∈ db.authorizedToolIds site now device gate' member ↔
        toolId ∈ db.authorizedToolIds site now device gate member) := by
      intro toolId opened
      have here : toolId ∈ (db.authorizedToolIds site now device gate' member).filter
        (· ∉ db.closedToolIdsNow site now) ↔
          toolId ∈ (db.authorizedToolIds site now device gate member).filter (· ∉ db.closedToolIdsNow site now) := by
        rw [listed]
      simpa only [List.mem_filter, opened, not_false_eq_true, decide_true, and_true] using here
    constructor
    · intro t bound opened trained
      constructor
      · intro pays_
        obtain ⟨t', -, -, -, pays'⟩ := (mem_authorizedToolIds site now).mp ((each t.id opened).mp
          ((mem_authorizedToolIds site now).mpr ⟨t, bound, rfl, trained, pays_⟩))
        exact pays'
      · intro pays_
        obtain ⟨t', -, -, -, pays'⟩ := (mem_authorizedToolIds site now).mp ((each t.id opened).mpr
          ((mem_authorizedToolIds site now).mpr ⟨t, bound, rfl, trained, pays_⟩))
        exact pays'
    · rw [← authorizedToolIds_ne_nil, ← authorizedToolIds_ne_nil]
      exact some_

theorem entriesOf_eq_iff {gate gate' : Option (MeteredGate Uuid)} {user : User Uuid} :
    db.entriesOf site now device field cipher gate' user = db.entriesOf site now device field cipher gate user ↔
      (db.identifiers field cipher user ≠ [] →
        db.SameOffer site now device user.id (pays gate user.id) (pays gate' user.id)) := by
  rw [sameOffer_iff]
  unfold entriesOf syncUsers
  rcases db.identifiers field cipher user with _ | ⟨digest, rest⟩
  · simp
  · by_cases none' : db.authorizedToolIds site now device gate' user.id = []
    · by_cases none_ : db.authorizedToolIds site now device gate user.id = []
      · simp [none_, none']
      · simp [none_, none']
    · by_cases none_ : db.authorizedToolIds site now device gate user.id = []
      · simp [none_, none']
      · simp only [none_, none', if_false, ne_eq, reduceCtorEq, not_false_eq_true, true_implies, iff_self, true_and]
        constructor
        · intro same
          exact (SyncUser.mk.inj (List.cons.inj same).1).2.2.2
        · intro same
          simp only [List.map_map, Function.comp_def, same]

/-- With gates that differ on one member's money alone, a device's payload is the same just when that member's
money opens the same there, or the member has no card. -/
theorem buildSyncPayload_eq_iff {gate gate' : Option (MeteredGate Uuid)} {member : Uuid}
    (distinct : (db.users.map (·.id)).Nodup)
    (others : ∀ other, other ≠ member → pays gate' other = pays gate other)
    (online : ∀ toolId, (gate'.any fun g => g.requiresOnline toolId) = gate.any fun g => g.requiresOnline toolId) :
    db.buildSyncPayload site now device field gate' cipher = db.buildSyncPayload site now device field gate cipher ↔
      ∀ user ∈ db.users, user.id = member → db.identifiers field cipher user ≠ [] →
        db.SameOffer site now device member (pays gate member) (pays gate' member) := by
  have same : ∀ user ∈ db.users, user.id ≠ member →
      db.entriesOf site now device field cipher gate' user = db.entriesOf site now device field cipher gate user := by
    intro user _ other
    rw [entriesOf_eq_iff, others user.id other]
    exact fun _ => ⟨fun _ _ _ _ => Iff.rfl, Iff.rfl⟩
  have entries : (∀ user ∈ db.users, user.id = member →
      db.entriesOf site now device field cipher gate' user = db.entriesOf site now device field cipher gate user) ↔
        ∀ user ∈ db.users, user.id = member → db.identifiers field cipher user ≠ [] →
          db.SameOffer site now device member (pays gate member) (pays gate' member) := by
    refine forall_congr' fun user => forall_congr' fun _ => forall_congr' fun named => ?_
    rw [entriesOf_eq_iff, named]
  rw [← entries, buildSyncPayload_eq, buildSyncPayload_eq, SyncPayload.mk.injEq,
    flatMap_eq_iff_of_nodup distinct same]
  refine ⟨fun equal => equal.2.2.2, fun equal => ⟨rfl, rfl, ?_, equal⟩⟩
  -- The tools listed follow the entries.
  have lists_ : ∀ t ∈ db.boundTools device,
      db.lists site now device field cipher gate' t = db.lists site now device field cipher gate t := by
    intro t bound
    by_cases opened : t.id ∈ db.closedToolIdsNow site now
    · simp [lists, opened]
    · unfold lists
      refine congrArg _ ?_
      rw [Bool.eq_iff_iff, List.any_eq_true, List.any_eq_true]
      refine exists_congr fun user => and_congr_right fun listed => ?_
      simp only [Bool.and_eq_true, decide_eq_true_eq, mem_authorizedToolIds]
      refine and_congr_right fun carded => exists_congr fun t' => and_congr_right fun bound' =>
        and_congr_right fun named =>
        and_congr_right fun trained => ?_
      by_cases mine : user.id = member
      · have offer := entries.mp equal user listed mine carded
        rw [mine] at trained ⊢
        have here := offer.each t' bound' (by rwa [named]) trained
        rwa [named] at here
      · rw [others user.id mine]
  rw [List.filter_congr lists_]
  simp only [online]

end Database

namespace SyncTables
variable {Uuid Json : Type} [DecidableEq Uuid] (rules : SyncRules Json) (s : SyncTables Uuid Json)

/-- Whether a member who has so much available may start a tool, at their rate. -/
def affordsWith (member : Uuid) (available : Rat) (toolId : Uuid) : Bool :=
  !rules.toolBilling || (s.billing.tools toolId).all fun tool =>
    let eff := s.billing.resolveEffectiveBilling member toolId tool
    let memberLevels := effectiveLevelsFor s.accounts.rbacGraph.toRoleGraph s.accounts.userRoles
      (s.accounts.users.entries.map (·.1))
    s.billing.config.authorizesRate rules.decimals eff.flatFee eff.ratePerMin eff.maxSessionMinutes available
      (decide (s.accounts.activeLevel ≤ (memberLevels member).getD 0))

variable {rules s}

theorem pays_meteredGate {member toolId : Uuid} : Database.pays (s.meteredGate rules) member toolId =
    s.affordsWith rules member (s.billing.availableBalance member) toolId := by
  unfold Database.pays meteredGate affordsWith
  cases rules.toolBilling with
  | false => rfl
  | true => rfl

end SyncTables

namespace BillingTables
variable {Uuid : Type} [DecidableEq Uuid]

/-- What tools cost whom is as it was. -/
structure SamePrices (s s' : BillingTables Uuid) : Prop where
  config : s'.config = s.config
  tools : s'.tools = s.tools
  tiers : s'.tiers = s.tiers
  assignments : s'.assignments = s.assignments

variable {s : BillingTables Uuid}

theorem availableBalance_opened {id member : Uuid} {row : ToolUsageSession Uuid}
    (absent : s.sessions.lookup id = none)
    (isOpen : row.status = .open_) : { s with sessions := s.sessions.insert id row }.availableBalance member =
      s.availableBalance member + if member = row.userId then -row.holdAmount else 0 := by
  unfold availableBalance sumOpenToolHolds userBalance
  rw [AList.total_insert_of_none absent]
  simp only [isOpen, and_true, eq_comm (a := row.userId)]
  split
  · ring
  · ring

theorem availableBalance_closed {id member : Uuid} {row row' : ToolUsageSession Uuid}
    (found : s.sessions.lookup id = some row)
    (isOpen : row.status = .open_) (closed : row'.status ≠ .open_) :
    { s with sessions := s.sessions.insert id row' }.availableBalance member =
      s.availableBalance member + if member = row.userId then row.holdAmount else 0 := by
  unfold availableBalance sumOpenToolHolds userBalance
  rw [AList.total_insert_of_some found]
  simp only [isOpen, closed, and_true, and_false, if_false, eq_comm (a := row.userId)]
  ring

theorem availableBalance_posted {member : Uuid} {entry : LedgerEntry Uuid} :
    { s with ledger := s.ledger ++ [entry] }.availableBalance member =
      s.availableBalance member + if member = entry.userId then entry.amount else 0 := by
  unfold availableBalance userBalance sumOpenToolHolds
  simp only [List.map_append, List.sum_append, List.map_cons, List.map_nil, List.sum_cons, List.sum_nil, add_zero,
    eq_comm (a := entry.userId)]
  ring

theorem perform_insertToolSession (rules : BillingRules Uuid) (s : BillingTables Uuid) (id : Uuid)
    (row : ToolUsageSession Uuid) :
    (∃ e, s.perform rules (.insertToolSession id row) = (s, .error e)) ∨ s.sessions.lookup id = none ∧
      s.perform rules (.insertToolSession id row) = ({ s with sessions := s.sessions.insert id row }, .ok 1) := by
  simp only [perform]
  split
  · exact .inl ⟨_, rfl⟩
  · rename_i fresh
    rw [Bool.or_eq_true, not_or, Bool.not_eq_true, Option.isSome_eq_false_iff, Option.isNone_iff_eq_none] at fresh
    split
    · exact .inl ⟨_, rfl⟩
    · exact .inr ⟨fresh.1, rfl⟩

theorem perform_settleToolSession (rules : BillingRules Uuid) {id : Uuid} {row : ToolUsageSession Uuid}
    (found : s.sessions.lookup id = some row) (isOpen : row.status = .open_) (reported : Option Rat) (charged : Rat)
    (entry : Option Nat) (status : SessionStatus) :
    let closed :=
      { row with reportedSeconds := reported, chargedAmount := some charged, ledgerEntryId := entry, status }
    s.perform rules (.settleToolSession id reported charged entry status) =
      ({ s with sessions := s.sessions.insert id closed }, .ok 1) := by
  simp only [perform, updateOpen, found, isOpen, if_true]

end BillingTables

/-- A change that a handler makes before it asks for the devices bound to a tool. -/
inductive ToolChange (Uuid : Type)
  | activate (card : String) (sessionId : Uuid)
  | deactivate (card : Option String)
  deriving DecidableEq

section Changes
variable {Uuid Json : Type} [LinearOrder Uuid] [IdText Uuid] (rules : WorkshopRules Json)

namespace Workshop
variable (w : Workshop Uuid Json)

/-- The payload a device would be sent, as the tables are. -/
def syncPayload (now : Int) (device : Uuid) : SyncPayload Uuid :=
  { w.site.database now with lockedOut := w.grid.toolIsLockedOut }.buildSyncPayload rules.sync.site now device
    rules.sync.profileField
    (w.site.meteredGate rules.sync) rules.sync.cipher

end Workshop

namespace ToolChange

def handler (tool : LoadedTool Uuid) : ToolChange Uuid → WorkshopRoutine Uuid Json WorkshopAnswer
  | .activate card sessionId => WorkshopRoutine.activateTool rules (some tool) card sessionId
  | .deactivate card => WorkshopRoutine.deactivateTool rules (some tool) card

/-- What the handler answers once it has asked for the broadcast. -/
def published : ToolChange Uuid → WorkshopAnswer
  | .activate .. => .replied (.resourceAuthorized none)
  | .deactivate _ => .replied (.okWithMessage "Tool deactivated")

/-- What an activation holds of a member's money, before the tool is theirs. -/
def hold (w : Workshop Uuid Json) (tool : LoadedTool Uuid) (member : Uuid) : Rat :=
  let eff := w.site.billing.resolveEffectiveBilling member tool.tool.id tool.billed
  if w.site.billing.config.billingMode = .prepaid ∧ isMetered eff.flatFee eff.ratePerMin = true then
    w.site.billing.config.requiredForRate rules.sync.decimals eff.flatFee eff.ratePerMin eff.maxSessionMinutes
  else 0

/-- What a stop gives back of it: the hold, less the charge where that is posted now. -/
def back (w : Workshop Uuid Json) (tool : LoadedTool Uuid) (id : Uuid) (session : ToolUsageSession Uuid) : Rat :=
  if w.site.billing.ledgerEntryExistsForReference (.session id) then session.holdAmount
  else if (w.site.billing.users session.userId).isNone then 0
  else session.holdAmount - settlementCharge rules.sync.decimals w.site.billing.config w.clock tool.billed session

/-- Whose available balance a change moves, and by how much. -/
def moves (w : Workshop Uuid Json) (tool : LoadedTool Uuid) (change : ToolChange Uuid) : Option (Uuid × Rat) :=
  if rules.sync.toolBilling && isMetered tool.billed.usageFlatFee tool.billed.usageRatePerMin then
    match change with
    | .activate card _ =>
      match w.resolveCard rules card with
      | some (.active user _) => some (user.id, -hold rules w tool user.id)
      | _ => none
    | .deactivate _ =>
      (w.site.billing.openToolSessionForTool tool.tool.id).map fun found =>
        (found.2.userId, back rules w tool found.1 found.2)
  else none

end ToolChange

namespace Workshop

/-- Of what payloads are made from, the tool's status has changed and one member's available balance has moved. -/
structure Shifts (w w' : Workshop Uuid Json) (toolId : Uuid) (moved : Option (Uuid × Rat)) : Prop where
  grid : w'.grid = w.grid
  site : ∃ status billing, w'.site = { w.site with
    tools := w.site.tools.map fun t => if t.id = toolId then { t with status } else t
    billing := billing }
  prices : w.site.billing.SamePrices w'.site.billing
  balance : ∀ member, w'.site.billing.availableBalance member =
    w.site.billing.availableBalance member + moved.elim 0 fun m => if member = m.1 then m.2 else 0

variable {rules} {w w' : Workshop Uuid Json}

omit [IdText Uuid] in
/-- Opened alone, a session takes its hold and nothing else, unless the opening is refused. -/
theorem solo_openLoaded {now : Int} {id userId : Uuid} {tool : LoadedTool Uuid} :
    let out := (WorkshopRoutine.billed .plain
      (BillingRequest.openLoaded (SyncTables.arithmetic rules.sync) now id userId tool.tool.id tool.billed) :
        WorkshopRoutine Uuid Json _).solo (Workshop.perform rules) w
    (∃ reason, out.2 = .denied reason) ∨ (∃ e, out.2 = .failed e) ∨ ∃ session : ToolUsageSession Uuid,
      session.userId = userId ∧ session.status = .open_ ∧
        session.holdAmount = ToolChange.hold rules w tool userId ∧ w.site.billing.sessions.lookup id = none ∧
        out = ({ w with site := { w.site with
          billing := { w.site.billing with sessions := w.site.billing.sessions.insert id session } } },
            .authorized id) := by
  simp only [WorkshopRoutine.billed, BillingRequest.openLoaded, Routine.lift, Routine.solo]
  split
  · exact .inl ⟨_, rfl⟩
  · simp only [Routine.lift, Routine.solo]
    split
    · exact .inl ⟨_, rfl⟩
    · simp only [Routine.lift, Routine.solo]
      split
      · exact .inl ⟨_, rfl⟩
      · simp only [Routine.lift, Routine.solo]
        let eff := w.site.billing.resolveEffectiveBilling userId tool.tool.id tool.billed
        let session : ToolUsageSession Uuid :=
          ⟨tool.tool.id, userId, now, ToolChange.hold rules w tool userId, eff.flatFee,
          eff.ratePerMin, eff.tierId, none, none, none, none, none, none, .open_⟩
        generalize same : w.perform rules _ = out
        have made : out = w.billing rules (.insertToolSession id session) := same.symm
        refine .inr ?_
        rcases BillingTables.perform_insertToolSession (SyncTables.arithmetic rules.sync) w.site.billing id
            session with
          ⟨e, refused⟩ | ⟨absent, inserted⟩
        · rw [billing, refused] at made
          rw [made]
          exact .inl ⟨e, rfl⟩
        · rw [billing, inserted] at made
          rw [made]
          exact .inr ⟨session, rfl, rfl, rfl, absent, rfl⟩

omit [IdText Uuid] in
/-- An event is noted, and nothing else changes of what payloads are made from. -/
theorem solo_event {toolId : Uuid} {kind : String} {oldStatus newStatus : Option ToolStatus} {userId : Option Uuid}
    {answer : WorkshopAnswer} :
    let w' := ((WorkshopRoutine.sending .plain (.createToolEvent toolId kind oldStatus newStatus userId)
      (WorkshopRoutine.internal rules "Failed to create tool event") fun _ =>
        .done answer).solo (Workshop.perform rules) w).1
    w'.grid = w.grid ∧ w'.site = w.site := by
  let event : WorkshopWrite Uuid := ⟨.plain, .createToolEvent toolId kind oldStatus newStatus userId⟩
  have kept : (w.perform rules event).1.grid = w.grid ∧ (w.perform rules event).1.site = w.site := by
    refine ⟨?_, site_perform rules w rfl⟩
    simp only [event, Workshop.perform, Workshop.execute]
    split
    · rfl
    · rfl
  show (Routine.solo _ _ (w.perform rules event).1).1.grid = w.grid ∧
    (Routine.solo _ _ (w.perform rules event).1).1.site = w.site
  generalize w.perform rules event = done at kept
  obtain ⟨t, reply⟩ := done
  cases reply with
  | ok n => exact kept
  | error e => exact kept

omit [IdText Uuid] in
theorem solo_start {tool : LoadedTool Uuid} {userId : Uuid}
    (ran : ((WorkshopRoutine.start rules tool userId).solo (Workshop.perform rules) w).2 =
      .replied (.resourceAuthorized none)) :
    let w' := ((WorkshopRoutine.start rules tool userId).solo (Workshop.perform rules) w).1
    w'.grid = w.grid ∧ w'.site = (w.setToolStatus tool.tool.id .inUse).site := by
  by_cases idle : w.statusOf tool.tool.id = some .idle
  · have same : w.perform rules ⟨.plain, .tryActivateTool tool.tool.id⟩ = _ :=
      WorkshopRoutine.perform_tryActivateTool_idle rules idle
    simp only [WorkshopRoutine.start, WorkshopRoutine.sending, Routine.solo, same]
    exact solo_event
  · have same : w.perform rules ⟨.plain, .tryActivateTool tool.tool.id⟩ = _ :=
      WorkshopRoutine.perform_tryActivateTool_taken rules idle
    simp only [WorkshopRoutine.start, WorkshopRoutine.sending, Routine.solo, same] at ran
    cases ran

omit [IdText Uuid] in
/-- Settled alone, a tool's open session gives back to its member what it held, less the charge. -/
theorem solo_settleLoaded {tool : LoadedTool Uuid} :
    let w' :=
      ((WorkshopRoutine.billed .plain
      (BillingRequest.settleLoaded (SyncTables.arithmetic rules.sync) w.clock tool.tool.id
      tool.billed false) : WorkshopRoutine Uuid Json _).solo (Workshop.perform rules) w).1
    w'.grid = w.grid ∧ ∃ billing : BillingTables Uuid, w'.site = { w.site with billing } ∧
      w.site.billing.SamePrices billing ∧
      ∀ member, billing.availableBalance member = w.site.billing.availableBalance member +
        ((w.site.billing.openToolSessionForTool tool.tool.id).map fun found =>
          (found.2.userId, ToolChange.back rules w tool found.1 found.2)).elim 0 fun m => if member = m.1 then m.2
            else 0 := by
  rcases found : w.site.billing.openToolSessionForTool tool.tool.id with _ | ⟨id, session⟩
  · have there : w.site.billed.openToolSessionForTool tool.tool.id = none := found
    simp only [WorkshopRoutine.billed, BillingRequest.settleLoaded, Routine.lift, Routine.solo, there, true_and]
    exact ⟨w.site.billing, rfl, ⟨rfl, rfl, rfl, rfl⟩, fun member => (add_zero _).symm⟩
  · have there : w.site.billed.openToolSessionForTool tool.tool.id = some (id, session) := found
    obtain ⟨stands, -, isOpen⟩ := lookup_of_openToolSession found
    have closes : SessionStatus.settled ≠ .open_ := by decide
    let charge := settlementCharge rules.sync.decimals w.site.billing.config w.clock tool.billed session
    simp only [WorkshopRoutine.billed, BillingRequest.settleLoaded, Routine.lift, Routine.solo, there,
      Option.map_some, Option.elim_some]
    split
    · rename_i posted
      have gives : ToolChange.back rules w tool id session = session.holdAmount := if_pos posted
      rw [gives]
      simp only [Routine.lift, Routine.solo]
      generalize same : w.perform rules _ = out
      have made : out = w.billing rules
        (.settleToolSession id session.reportedSeconds charge none .settled) := same.symm
      have closed := BillingTables.perform_settleToolSession
        (SyncTables.arithmetic rules.sync) stands isOpen session.reportedSeconds
        charge none .settled
      rw [billing, closed] at made
      rw [made]
      refine ⟨rfl, _, rfl, ⟨rfl, rfl, rfl, rfl⟩, fun member => ?_⟩
      exact BillingTables.availableBalance_closed stands isOpen closes
    · rename_i new
      have unposted : w.site.billing.ledgerEntryExistsForReference (.session id) = false := Bool.not_eq_true _ ▸ new
      simp only [Routine.lift, Routine.solo]
      generalize same : w.perform rules _ = out
      have made : out = w.billing rules
        (.insertLedgerEntry ⟨session.userId, .toolUsage, -charge, some (.session id)⟩) := same.symm
      rcases known : w.site.billing.users session.userId with _ | member
      · have gives : ToolChange.back rules w tool id session = 0 := by
          rw [ToolChange.back, unposted, known]
          rfl
        have refused : w.site.billing.perform (SyncTables.arithmetic rules.sync)
            (.insertLedgerEntry ⟨session.userId, .toolUsage, -charge, some (.session id)⟩) =
              (w.site.billing, .error .foreignKeyViolation) := by
          simp only [BillingTables.perform, Option.any_some, unposted, known, Option.isNone_none,
            Bool.false_eq_true, if_false, if_true]
        rw [billing, refused] at made
        rw [made, gives]
        exact ⟨rfl, w.site.billing, rfl, ⟨rfl, rfl, rfl, rfl⟩, fun member => by simp⟩
      · have gives : ToolChange.back rules w tool id session = session.holdAmount - charge := by
          rw [ToolChange.back, unposted, known]
          rfl
        let posted : BillingTables Uuid :=
          { w.site.billing with ledger :=
            w.site.billing.ledger ++ [⟨session.userId, .toolUsage, -charge, some (.session id)⟩] }
        rw [billing, BillingTables.perform_post _ (by rw [Option.any_some, unposted]) (by rw [known]; rfl)] at made
        rw [made, gives]
        simp only [Routine.lift, Routine.solo]
        generalize same' : @Workshop.perform Uuid Json _ rules _ _ = out'
        have made' : out' = { w with site := { w.site with billing := posted } }.billing rules
            (.settleToolSession id session.reportedSeconds charge
              (some w.site.billing.ledger.length) .settled) := same'.symm
        have closed := BillingTables.perform_settleToolSession (s := posted)
          (SyncTables.arithmetic rules.sync) stands isOpen
          session.reportedSeconds charge (some w.site.billing.ledger.length) .settled
        rw [billing, closed] at made'
        rw [made']
        refine ⟨rfl, _, rfl, ⟨rfl, rfl, rfl, rfl⟩, fun member => ?_⟩
        refine (BillingTables.availableBalance_closed (s := posted) stands isOpen closes).trans ?_
        rw [BillingTables.availableBalance_posted]
        dsimp only [Option.elim]
        split
        · ring
        · ring

/-- A start that goes through puts the tool in use and holds what it costs. -/
theorem shifts_activateTool {tool : LoadedTool Uuid} {card : String} {sessionId : Uuid}
    (ran : ((WorkshopRoutine.activateTool rules (some tool) card sessionId).solo (Workshop.perform rules) w).2 =
      .replied (.resourceAuthorized none)) :
    Shifts w ((WorkshopRoutine.activateTool rules (some tool) card sessionId).solo
      (Workshop.perform rules) w).1 tool.tool.id
      (ToolChange.moves rules w tool (.activate card sessionId)) := by
  revert ran
  simp only [WorkshopRoutine.activateTool, Routine.solo]
  rcases resolved : w.resolveCard rules card with _ | ⟨⟨user, held⟩ | ⟨user, held⟩ | _⟩
  · intro ran
    cases ran
  · dsimp only
    split
    · intro ran
      cases ran
    · split
      · intro ran
        cases ran
      · simp only [Routine.solo]
        split
        · intro ran
          cases ran
        · split
          · rename_i bills
            have moved : ToolChange.moves rules w tool (.activate card sessionId) =
                some (user.id, -ToolChange.hold rules w tool user.id) := by
              rw [ToolChange.moves, if_pos bills, resolved]
            simp only [Routine.solo, Routine.solo_bind]
            rcases @solo_openLoaded _ _ _ rules w w.clock sessionId user.id tool with
              ⟨reason, denied⟩ | ⟨e, failed⟩ | ⟨session, theirs, isOpen, held, absent, opened⟩
            · rw [denied]
              intro ran
              cases ran
            · rw [failed]
              intro ran
              cases ran
            · rw [opened, moved]
              intro ran
              obtain ⟨grid, site⟩ := solo_start ran
              refine ⟨grid, ⟨.inUse, _, site⟩, ?_, ?_⟩
              · rw [site]
                exact ⟨rfl, rfl, rfl, rfl⟩
              · intro member
                rw [site, ← held, ← theirs]
                exact BillingTables.availableBalance_opened absent isOpen
          · rename_i free
            have none_ : ToolChange.moves rules w tool (.activate card sessionId) = none := if_neg free
            intro ran
            obtain ⟨grid, site⟩ := solo_start ran
            rw [none_]
            refine ⟨grid, ⟨.inUse, w.site.billing, site⟩, ?_, ?_⟩
            · rw [site]
              exact ⟨rfl, rfl, rfl, rfl⟩
            · intro member
              rw [site]
              exact (add_zero _).symm
  · intro ran
    cases ran
  · intro ran
    cases ran

omit [IdText Uuid] in
/-- A stop that goes through leaves the tool idle and gives back what its session held, less the charge. -/
theorem shifts_stopTool {tool : LoadedTool Uuid} {userId : Option Uuid} {card : Option String}
    (ran : ((WorkshopRoutine.stopTool rules tool userId).solo (Workshop.perform rules) w).2 =
      .replied (.okWithMessage "Tool deactivated")) :
    Shifts w ((WorkshopRoutine.stopTool rules tool userId).solo (Workshop.perform rules) w).1 tool.tool.id
      (ToolChange.moves rules w tool (.deactivate card)) := by
  let idle := w.setToolStatus tool.tool.id .idle
  by_cases there : (w.statusOf tool.tool.id).isSome = true
  · have same : w.perform rules ⟨.plain, .updateToolStatus tool.tool.id .idle⟩ = (idle, .ok 1) := if_pos there
    simp only [WorkshopRoutine.stopTool, WorkshopRoutine.sending, Routine.solo, same, Routine.solo_bind]
    obtain ⟨grid, site⟩ := @solo_event _ _ _ rules
      ((WorkshopRoutine.settleMetered rules tool false).solo (Workshop.perform rules) idle).1
      tool.tool.id "deactivated" (some tool.tool.status) (some .idle) userId
        (.replied (.okWithMessage "Tool deactivated"))
    have settled : ((WorkshopRoutine.settleMetered rules tool false).solo
      (Workshop.perform rules) idle).1.grid = idle.grid ∧
        ∃ billing : BillingTables Uuid,
          ((WorkshopRoutine.settleMetered rules tool false).solo (Workshop.perform rules) idle).1.site =
            { idle.site with billing } ∧ w.site.billing.SamePrices billing ∧
              ∀ member, billing.availableBalance member = w.site.billing.availableBalance member +
              (ToolChange.moves rules w tool (.deactivate card)).elim 0 fun m => if member = m.1 then m.2 else 0 := by
      unfold WorkshopRoutine.settleMetered ToolChange.moves
      split
      · simp only [Routine.solo, Routine.solo_bind]
        exact solo_settleLoaded
      · exact ⟨rfl, w.site.billing, rfl, ⟨rfl, rfl, rfl, rfl⟩, fun member => (add_zero _).symm⟩
    obtain ⟨grid', billing, site', prices, balance⟩ := settled
    have whole := site.trans site'
    refine ⟨grid.trans grid', ⟨.idle, billing, whole⟩, ?_, ?_⟩
    · exact (congrArg (fun site : SyncTables Uuid Json => w.site.billing.SamePrices site.billing) whole).mpr prices
    · intro member
      exact (congrArg (fun site : SyncTables Uuid Json => site.billing.availableBalance member) whole).trans
        (balance member)
  · have refused : w.perform rules ⟨.plain, .updateToolStatus tool.tool.id .idle⟩ = (w, .error .notFound) :=
      if_neg there
    simp only [WorkshopRoutine.stopTool, WorkshopRoutine.sending, Routine.solo, refused] at ran
    cases ran

omit [IdText Uuid] in
theorem solo_signedOnUser {tool : LoadedTool Uuid} :
    ((WorkshopRoutine.signedOnUser tool).solo (Workshop.perform rules) w).1 = w := by
  simp only [WorkshopRoutine.signedOnUser, Routine.solo]
  split
  · rfl
  · split
    · simp only [Routine.solo]
      split
      · rfl
      · rfl
    · rfl

omit [IdText Uuid] in
theorem shifts_deactivateTool {tool : LoadedTool Uuid} {card : Option String}
    (ran : ((WorkshopRoutine.deactivateTool rules (some tool) card).solo (Workshop.perform rules) w).2 =
      .replied (.okWithMessage "Tool deactivated")) :
    Shifts w ((WorkshopRoutine.deactivateTool rules (some tool) card).solo (Workshop.perform rules) w).1 tool.tool.id
      (ToolChange.moves rules w tool (.deactivate card)) := by
  cases card with
  | none =>
    revert ran
    simp only [WorkshopRoutine.deactivateTool, Routine.solo_bind, solo_signedOnUser]
    exact shifts_stopTool
  | some card =>
    revert ran
    simp only [WorkshopRoutine.deactivateTool, Routine.solo]
    rcases w.resolveCard rules card with _ | ⟨⟨user, held⟩ | ⟨user, held⟩ | _⟩
    · intro ran
      cases ran
    · exact shifts_stopTool
    · exact shifts_stopTool
    · intro ran
      cases ran

theorem shifts_of_published {tool : LoadedTool Uuid} {change : ToolChange Uuid}
    (ran : ((change.handler rules tool).solo (Workshop.perform rules) w).2 = change.published) :
    Shifts w ((change.handler rules tool).solo (Workshop.perform rules) w).1 tool.tool.id
      (change.moves rules w tool) := by
  cases change with
  | activate card sessionId => exact shifts_activateTool ran
  | deactivate card => exact shifts_deactivateTool ran

omit [IdText Uuid] in
theorem Shifts.affordsWith {toolId : Uuid} {moved : Option (Uuid × Rat)} (shifts : Shifts w w' toolId moved)
    (member : Uuid)
    (available : Rat) : w'.site.affordsWith rules.sync member available =
      w.site.affordsWith rules.sync member available := by
  obtain ⟨status, billing, site⟩ := shifts.site
  have prices := shifts.prices
  have accounts : w'.site.accounts = w.site.accounts := by rw [site]
  funext toolId
  unfold SyncTables.affordsWith BillingTables.resolveEffectiveBilling BillingTables.tierOf
  rw [prices.config, prices.tools, prices.tiers, prices.assignments, accounts]

omit [IdText Uuid] in
theorem Shifts.pays {toolId : Uuid} {moved : Option (Uuid × Rat)} (shifts : Shifts w w' toolId moved)
    (member : Uuid) :
    Database.pays (w'.site.meteredGate rules.sync) member = w.site.affordsWith rules.sync member
      (w.site.billing.availableBalance member + moved.elim 0 fun m => if member = m.1 then m.2 else 0) := by
  funext toolId
  rw [SyncTables.pays_meteredGate, shifts.affordsWith, shifts.balance]

omit [IdText Uuid] in
theorem pays_syncPayload (member : Uuid) : Database.pays (w.site.meteredGate rules.sync) member =
    w.site.affordsWith rules.sync member (w.site.billing.availableBalance member) :=
  funext fun _ => SyncTables.pays_meteredGate

omit [IdText Uuid] in
theorem Shifts.pays_of_ne {toolId : Uuid} {moved : Option (Uuid × Rat)} (shifts : Shifts w w' toolId moved)
    {member : Uuid}
    (other : ∀ m, moved = some m → member ≠ m.1) :
    Database.pays (w'.site.meteredGate rules.sync) member = Database.pays (w.site.meteredGate rules.sync) member := by
  have still : (moved.elim 0 fun m => if member = m.1 then m.2 else 0) = (0 : Rat) := by
    rcases moved with _ | m
    · rfl
    · exact if_neg (other m rfl)
  rw [shifts.pays, pays_syncPayload, still, add_zero]

omit [IdText Uuid] in
theorem Shifts.requiresOnline {toolId : Uuid} {moved : Option (Uuid × Rat)}
    (shifts : Shifts w w' toolId moved) (other : Uuid) :
    ((w'.site.meteredGate rules.sync).any fun g => g.requiresOnline other) =
      (w.site.meteredGate rules.sync).any fun g => g.requiresOnline other := by
  unfold SyncTables.meteredGate
  rw [shifts.prices.tools]
  split
  · rfl
  · rfl

omit [IdText Uuid] in
theorem nodup_users (now : Int) : ((w.site.database now).users.map (·.id)).Nodup := by
  show ((w.site.accounts.users.entries.map fun user =>
    (⟨user.1, user.2.fullName, user.2.isActive, w.site.profile user.1⟩ : User Uuid)).map (·.id)).Nodup
  rw [List.map_map]
  exact w.site.accounts.users.nodupKeys

theorem Shifts.syncPayload_unbound {toolId : Uuid} {moved : Option (Uuid × Rat)}
    (shifts : Shifts w w' toolId moved) {now : Int}
    {device : Uuid} (unbound : (device, toolId) ∉ w.site.bindings) : w'.syncPayload rules now device =
      { w.site.database now with lockedOut := w.grid.toolIsLockedOut }.buildSyncPayload rules.sync.site now device
        rules.sync.profileField (w'.site.meteredGate rules.sync) rules.sync.cipher := by
  obtain ⟨status, billing, site⟩ := shifts.site
  have told : { w'.site.database now with lockedOut := w'.grid.toolIsLockedOut } =
      { w.site.database now with lockedOut := w.grid.toolIsLockedOut }.retold toolId status := by
    rw [site, shifts.grid]
    rfl
  unfold syncPayload
  rw [told, Database.buildSyncPayload_retold _ _ _ _ unbound]

theorem Shifts.syncPayload_eq_iff {toolId : Uuid} {moved : Option (Uuid × Rat)}
    (shifts : Shifts w w' toolId moved) {now : Int}
    {device : Uuid} (unbound : (device, toolId) ∉ w.site.bindings) :
    w'.syncPayload rules now device = w.syncPayload rules now device ↔
      ∀ member amount, moved = some (member, amount) →
      ∀ user ∈ w.database.users, user.id = member →
        w.database.identifiers rules.sync.profileField rules.sync.cipher user ≠ [] →
        { w.site.database now with lockedOut := w.grid.toolIsLockedOut }.SameOffer rules.sync.site now device member
          (w.site.affordsWith rules.sync member (w.site.billing.availableBalance member))
          (w.site.affordsWith rules.sync member (w.site.billing.availableBalance member + amount)) := by
  have distinct :
      (({ w.site.database now with lockedOut := w.grid.toolIsLockedOut } : Database Uuid Json).users.map
      (·.id)).Nodup :=
    nodup_users now
  rw [shifts.syncPayload_unbound unbound]
  rcases moved with _ | ⟨member, amount⟩
  · refine iff_of_true ?_ (fun _ _ none_ => nomatch none_)
    have unmoved : ∀ other, other ≠ device → Database.pays (w'.site.meteredGate rules.sync) other =
        Database.pays (w.site.meteredGate rules.sync) other := fun other _ => shifts.pays_of_ne nofun
    refine (Database.buildSyncPayload_eq_iff _ _ _ _ distinct unmoved shifts.requiresOnline).mpr ?_
    intro user _ _ _
    rw [@Shifts.pays_of_ne _ _ _ rules _ _ _ _ shifts device nofun]
    exact ⟨fun _ _ _ _ => Iff.rfl, Iff.rfl⟩
  · have unmoved : ∀ other, other ≠ member → Database.pays (w'.site.meteredGate rules.sync) other =
        Database.pays (w.site.meteredGate rules.sync) other := fun other apart =>
      shifts.pays_of_ne fun m same => by rwa [← Option.some.inj same]
    have asked := @Database.buildSyncPayload_eq_iff _ _ _ _ _ rules.sync.site now device
      rules.sync.profileField rules.sync.cipher
      _ _ _ distinct unmoved shifts.requiresOnline
    rw [shifts.pays, pays_syncPayload, Option.elim_some, if_pos rfl] at asked
    refine Iff.trans asked ?_
    constructor
    · intro same _ _ equal
      obtain ⟨rfl, rfl⟩ := Prod.mk.inj (Option.some.inj equal)
      exact same
    · exact fun same => same member amount rfl

end Workshop

namespace ToolChange

/-- The money that a change moves decides of no tool at a device that is not told: the member has no card, or each
open tool the device serves that they are trained on they can pay before and after, or neither, and so for any
tool at all. -/
def Spares (w : Workshop Uuid Json) (tool : LoadedTool Uuid) (change : ToolChange Uuid) (now : Int) : Prop :=
  ∀ member amount, change.moves rules w tool = some (member, amount) → ∀ user ∈ w.database.users, user.id = member →
    w.database.identifiers rules.sync.profileField rules.sync.cipher user ≠ [] → ∀ device,
      device ∉ devicesFor (.tools {tool.tool.id}) w.site.approved w.site.bindings →
        { w.site.database now with lockedOut := w.grid.toolIsLockedOut }.SameOffer rules.sync.site now device member
          (w.site.affordsWith rules.sync member (w.site.billing.availableBalance member))
          (w.site.affordsWith rules.sync member (w.site.billing.availableBalance member + amount))

/-- The devices left out of the broadcast would be sent what they were sent before just when the money moved
decides of nothing there. -/
theorem narrow_broadcast_enough_iff (w : Workshop Uuid Json) (tool : LoadedTool Uuid)
    (change : ToolChange Uuid) (now : Int)
    (ran : ((change.handler rules tool).solo (Workshop.perform rules) w).2 = change.published) :
    (∀ device, device ∉ devicesFor (.tools {tool.tool.id}) w.site.approved w.site.bindings →
      ((change.handler rules tool).solo (Workshop.perform rules) w).1.syncPayload rules now device =
        w.syncPayload rules now device) ↔
      change.Spares rules w tool now := by
  have shifts := Workshop.shifts_of_published ran
  constructor
  · intro same member amount moved user listed mine carded device unbound
    have told := same device unbound
    rw [mem_devicesFor_tool] at unbound
    exact (shifts.syncPayload_eq_iff unbound).mp told member amount moved user listed mine carded
  · intro spares device unbound
    have told : ∀ member amount, change.moves rules w tool = some (member, amount) → _ :=
      fun member amount moved user listed mine
      carded => spares member amount moved user listed mine carded device unbound
    rw [mem_devicesFor_tool] at unbound
    exact (shifts.syncPayload_eq_iff unbound).mpr told

end ToolChange
end Changes

/-- The lathe has a price, half of what Ada has, and she has a card. -/
def pricedLathe : Workshop Nat Unit :=
  { shopFloor with
    site := { shopFloor.site with
      cards := [(20, ⟨2, "A", none, some [1], .active, 0⟩)]
      billing := { shopFloor.site.billing with
        tools := (Table.empty.insert 7 ⟨some 10, none, none, "occupancy"⟩).insert 8 ⟨some 5, none, none,
          "occupancy"⟩ } } }

theorem narrow_broadcast_enough_iff_press :
    (∀ device, device ∉ devicesFor (.tools {7}) shopFloor.site.approved shopFloor.site.bindings →
      (((ToolChange.activate "A" 11).handler shopRules loadedPress).solo
        (Workshop.perform shopRules) shopFloor).1.syncPayload
        shopRules 0 device = shopFloor.syncPayload shopRules 0 device) ↔
      (ToolChange.activate "A" 11).Spares shopRules shopFloor loadedPress 0 :=
  ToolChange.narrow_broadcast_enough_iff shopRules shopFloor loadedPress (.activate "A" 11) 0 (by decide +kernel)

/-- Once Ada has the press, and all her money is held, her card is off the list of the lathe's device, which is
not told. -/
theorem held_money_shuts_lathe :
    (((ToolChange.activate "A" 11).handler shopRules loadedPress).solo (Workshop.perform shopRules) pricedLathe).2 =
        (ToolChange.activate "A" 11 : ToolChange Nat).published ∧
      ¬ ∀ device, device ∉ devicesFor (.tools {7}) pricedLathe.site.approved pricedLathe.site.bindings →
        (((ToolChange.activate "A" 11).handler shopRules loadedPress).solo
          (Workshop.perform shopRules) pricedLathe).1.syncPayload
          shopRules 0 device = pricedLathe.syncPayload shopRules 0 device := by
  refine ⟨by decide +kernel, fun same => ?_⟩
  have told := same 10 (by decide +kernel)
  revert told
  decide +kernel

end CoopSpaces

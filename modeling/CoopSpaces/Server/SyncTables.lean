import CoopSpaces.Server.Billing
import CoopSpaces.Server.DoorAgreement
import CoopSpaces.Server.Sync

namespace CoopSpaces

structure TrainingWaiver (Uuid : Type) where
  userId : Uuid
  toolId : Uuid
  expiresAt : Option Int
  deriving DecidableEq

/-- How a site makes its payloads. -/
structure SyncRules (Json : Type) where
  site : SiteTime Json
  profileField : String
  cipher : Option CardCipher
  decimals : Decimals
  toolBilling : Bool
  onlineSync : Bool

/-- The tables payloads are made from, and the devices that are approved. Cards and waivers
stand under their ids, and a tier's name under its id and its tool's. An account is pinned
by rows of others that refer to it: a tool or a step it created, a session it instructed. -/
structure SyncTables (Uuid Json : Type) where
  accounts : DatabaseManager Uuid
  profile : Uuid → Table String ProfileValue
  cards : List (Uuid × UserCard Uuid)
  training : TrainingTables Uuid
  waivers : List (Uuid × TrainingWaiver Uuid)
  billing : BillingTables Uuid
  tierNames : List (Uuid × Uuid × String)
  pinned : Uuid → Bool
  tools : List (Tool Uuid)
  bindings : List (Uuid × Uuid)
  schedules : List (Schedule Uuid Json)
  doorRules : Uuid → List (AccessRule Uuid)
  lockedOut : Uuid → Bool
  approved : List Uuid

/-- What a payload asks of members: who is active, whose a digest is, who is trained on a tool,
and who can afford it. -/
structure Rights (Uuid : Type) where
  active : Uuid → Prop
  holds : List UInt8 → Uuid → Prop
  trained : Tool Uuid → Uuid → Prop
  affords : Uuid → Uuid → Prop

def TrainingWaiver.inForce {Uuid : Type} [DecidableEq Uuid] (waiver : TrainingWaiver Uuid) (now : Int)
    (userId toolId : Uuid) : Bool :=
  waiver.userId = userId && waiver.toolId = toolId && waiver.expiresAt.all fun expiry => decide (now < expiry)

/-- Membership is a level at or above that of the active tier. -/
def DatabaseManager.activeLevel {Uuid : Type} (accounts : DatabaseManager Uuid) : Int :=
  (accounts.rbacGraph.levelOfName Role.active).getD 32767

namespace SyncTables
variable {Uuid Json : Type} [DecidableEq Uuid] (rules : SyncRules Json) (s : SyncTables Uuid Json) (now : Int)

def toolHasTrainingSteps (toolId : Uuid) : Bool := s.training.steps.entries.any fun step => step.2.toolId = toolId

def userHasActiveWaiver (userId toolId : Uuid) : Bool := s.waivers.any fun row => row.2.inForce now userId toolId

/-- The metered gate, at a member's rate and for who counts as one. -/
def authorizesRate (decimals : Decimals) (billing : BillingTables Uuid) (isMember : Uuid → Bool)
    (userId toolId : Uuid) : Bool :=
  (billing.tools toolId).all fun tool =>
    let eff := billing.resolveEffectiveBilling userId toolId tool
    billing.config.authorizesRate decimals eff.flatFee eff.ratePerMin eff.maxSessionMinutes
      (billing.availableBalance userId)
      (isMember userId)

def meteredGate : Option (MeteredGate Uuid) :=
  if rules.toolBilling then
    let memberLevels := effectiveLevelsFor s.accounts.rbacGraph.toRoleGraph s.accounts.userRoles
      (s.accounts.users.entries.map (·.1))
    some {
      authorizesRate := authorizesRate rules.decimals s.billing fun userId =>
        decide (s.accounts.activeLevel ≤ (memberLevels userId).getD 0)
      requiresOnline := fun toolId =>
        rules.onlineSync && (s.billing.tools toolId).any fun tool =>
          isMetered tool.usageFlatFee tool.usageRatePerMin }
  else none

def database : Database Uuid Json where
  users := s.accounts.users.entries.map fun user => ⟨user.1, user.2.fullName, user.2.isActive, s.profile user.1⟩
  cards := s.cards.map (·.2)
  tools := s.tools
  bindings := s.bindings
  schedules := s.schedules
  graph := s.accounts.rbacGraph.toRoleGraph
  assignments := s.accounts.userRoles
  doorRules := s.doorRules
  lockedOut := s.lockedOut
  trainingSteps := s.toolHasTrainingSteps
  activeWaiver := s.userHasActiveWaiver now
  completedSteps := s.training.userHasCompletedAllTrainingSteps now

/-- Whoever shows this card at the device is let use the tool, by its payload built now. -/
def Authorizes [IdText Uuid] (device toolId : Uuid) (digest : List UInt8) : Prop :=
  ∃ user ∈ ((s.database now).buildSyncPayload rules.site now device rules.profileField
    (s.meteredGate rules) rules.cipher).users,
    user.profileFieldDigest = hexEncode digest ∧ user.isActive = true ∧ toolId ∈ user.authorizedToolIds

/-- A digest of one of the member's cards, or of a legacy value of their profile. -/
def HoldsCard (cards : List (Uuid × UserCard Uuid)) (digest : List UInt8) (userId : Uuid) : Prop :=
  (∃ row ∈ cards, row.2.status = .active ∧ row.2.userId = userId ∧ row.2.codeWireDigest = some digest) ∨
    digest ∈ legacyDigests ⟨userId, "", true, s.profile userId⟩ rules.profileField rules.cipher

/-- Enough training for a tool: none is asked, a waiver, or every step done. -/
def TrainedBy (tool : Tool Uuid) (waived : Prop) (done : Uuid → Prop) : Prop :=
  (s.toolHasTrainingSteps tool.id = false ∧ tool.requiresTraining = false) ∨ waived ∨
    (s.toolHasTrainingSteps tool.id = true ∧ ∀ step ∈ s.training.steps.entries, step.2.toolId = tool.id → done step.1)

/-- Enough money for a tool, where it is billed: on these tiers, with these roles. -/
def AffordsBy (tierOf : Uuid → Uuid → Option (Uuid × ToolRateTier Uuid)) (graph : CachedGraph Uuid)
    (userRoles : List (Uuid × Uuid)) (userId toolId : Uuid) : Prop :=
  rules.toolBilling = true → ∀ tool ∈ s.billing.tools toolId,
    let eff := EffectiveRate.onTier tool (tierOf userId toolId)
    s.billing.config.authorizesRate rules.decimals eff.flatFee eff.ratePerMin eff.maxSessionMinutes
      (s.billing.availableBalance userId) (decide ((graph.levelOfName Role.active).getD 32767 ≤
        CoopSpaces.userEffectiveLevel graph.toRoleGraph userRoles userId)) = true

def rights : Rights Uuid where
  active userId := ∃ row, s.accounts.users.lookup userId = some row ∧ row.isActive = true
  holds := s.HoldsCard rules s.cards
  trained tool userId := s.TrainedBy tool (s.userHasActiveWaiver now userId tool.id = true)
    fun stepId => s.training.stepDone now userId stepId = true
  affords := s.AffordsBy rules s.billing.tierOf s.accounts.rbacGraph s.accounts.userRoles

/-- Somebody with the rights holds the card, and the device serves the tool, which is neither
locked out nor shut. -/
def Admits (rights : Rights Uuid) (device toolId : Uuid) (digest : List UInt8) : Prop :=
  ∃ tool ∈ s.tools, tool.id = toolId ∧ (device, toolId) ∈ s.bindings ∧ s.lockedOut toolId = false ∧
    toolId ∉ (s.database now).closedToolIdsNow rules.site now ∧
    ∃ userId, rights.active userId ∧ rights.holds digest userId ∧ rights.trained tool userId ∧
      rights.affords userId toolId

variable {rules s now}

theorem stepsDone_iff {userId toolId : Uuid} :
    s.training.userHasCompletedAllTrainingSteps now userId toolId = true ↔
      ∀ step ∈ s.training.steps.entries, step.2.toolId = toolId → s.training.stepDone now userId step.1 = true := by
  unfold TrainingTables.userHasCompletedAllTrainingSteps
  dsimp only
  rw [Bool.or_eq_true, List.isEmpty_iff, List.all_eq_true]
  constructor
  · intro complete step member same
    have listed : step.1 ∈ (s.training.steps.entries.filter fun step => step.2.toolId = toolId).map (·.1) :=
      List.mem_map.mpr ⟨step, List.mem_filter.mpr ⟨member, decide_eq_true same⟩, rfl⟩
    rcases complete with none_ | all
    · rw [none_] at listed
      cases listed
    · exact all step.1 listed
  · intro all
    right
    intro stepId listed
    obtain ⟨step, member, rfl⟩ := List.mem_map.mp listed
    obtain ⟨row, same⟩ := List.mem_filter.mp member
    exact all step row (of_decide_eq_true same)

theorem holdsCard_iff {user : User Uuid} (profile : user.profile = s.profile user.id) {digest : List UInt8} :
    Identifies (s.database now).cards rules.profileField rules.cipher digest user ↔
      s.HoldsCard rules s.cards digest user.id := by
  unfold Identifies HoldsCard
  refine or_congr ?_ ?_
  · simp only [database, List.mem_map, exists_exists_and_eq_and]
  · unfold legacyDigests
    rw [profile]

theorem affords_iff {userId toolId : Uuid} (listed : userId ∈ s.accounts.users.entries.map (·.1)) :
    ((s.meteredGate rules).all fun gate => gate.authorizesRate userId toolId) = true ↔
      s.AffordsBy rules s.billing.tierOf s.accounts.rbacGraph s.accounts.userRoles userId toolId := by
  have level : (effectiveLevelsFor s.accounts.rbacGraph.toRoleGraph s.accounts.userRoles
      (s.accounts.users.entries.map (·.1)) userId).getD 0 =
      CoopSpaces.userEffectiveLevel s.accounts.rbacGraph.toRoleGraph s.accounts.userRoles userId :=
    effectiveLevelsFor_getD (List.Perm.refl _) listed
  unfold meteredGate AffordsBy
  cases rules.toolBilling with
  | false => simp
  | true =>
    simp only [if_true, Option.all_some, authorizesRate, level, Option.all_eq_true, true_implies]
    exact Iff.rfl

variable [IdText Uuid]

theorem mem_authorizedToolIds {device userId toolId : Uuid} (listed : userId ∈ s.accounts.users.entries.map (·.1)) :
    toolId ∈ (s.database now).authorizedToolIds rules.site now device (s.meteredGate rules) userId ↔
      ∃ tool ∈ s.tools, tool.id = toolId ∧ (device, toolId) ∈ s.bindings ∧ s.lockedOut toolId = false ∧
        (s.rights rules now).trained tool userId ∧ (s.rights rules now).affords userId toolId := by
  unfold Database.authorizedToolIds
  rw [List.mem_map]
  constructor
  · rintro ⟨tool, member, rfl⟩
    obtain ⟨bound, may⟩ := List.mem_filter.mp member
    obtain ⟨there, binding⟩ := List.mem_filter.mp bound
    rw [Bool.and_eq_true] at may
    obtain ⟨unlocked, trained⟩ := (Database.userIsAuthorizedForTool_iff ..).mp may.1
    refine ⟨tool, there, rfl, of_decide_eq_true binding, unlocked, ?_, (affords_iff listed).mp may.2⟩
    exact trained.imp_right (Or.imp_right (And.imp_right stepsDone_iff.mp))
  · rintro ⟨tool, there, rfl, binding, unlocked, trained, affords⟩
    refine ⟨tool, List.mem_filter.mpr ⟨List.mem_filter.mpr ⟨there, decide_eq_true binding⟩, ?_⟩, rfl⟩
    rw [Bool.and_eq_true]
    refine ⟨(Database.userIsAuthorizedForTool_iff ..).mpr ⟨unlocked, ?_⟩, (affords_iff listed).mpr affords⟩
    exact trained.imp_right (Or.imp_right (And.imp_right stepsDone_iff.mpr))

/-- A payload lets a card use a tool just when somebody with the rights holds it. -/
theorem authorizes_iff {device toolId : Uuid} {digest : List UInt8} :
    s.Authorizes rules now device toolId digest ↔ s.Admits rules now (s.rights rules now) device toolId digest := by
  unfold Authorizes
  simp only [Database.mem_buildSyncPayload_users]
  constructor
  · rintro ⟨entry, ⟨user, member, -, held, identifier, rfl⟩, same, active, listed⟩
    obtain rfl := hexEncode_injective same
    obtain ⟨row, there, rfl⟩ := List.mem_map.mp member
    obtain ⟨may, opened⟩ := List.mem_filter.mp listed
    have known : row.1 ∈ s.accounts.users.entries.map (·.1) := List.mem_map.mpr ⟨row, there, rfl⟩
    obtain ⟨tool, served, here, binding, unlocked, trained, affords⟩ := (mem_authorizedToolIds known).mp may
    refine ⟨tool, served, here, binding, unlocked, of_decide_eq_true opened, row.1,
      ⟨row.2, AList.mem_lookup_iff.mpr there, active⟩, ?_, trained, affords⟩
    exact (holdsCard_iff rfl).mp ((s.database now).mem_identifiers.mp identifier)
  · rintro ⟨tool, served, here, binding, unlocked, opened, userId, ⟨row, found, active⟩, holds, trained, affords⟩
    have there := AList.mem_lookup_iff.mp found
    have known : userId ∈ s.accounts.users.entries.map (·.1) := List.mem_map.mpr ⟨⟨userId, row⟩, there, rfl⟩
    have may := (mem_authorizedToolIds known).mpr ⟨tool, served, here, binding, unlocked, trained, affords⟩
    refine ⟨⟨hexEncode digest, row.fullName, row.isActive, _⟩,
      ⟨⟨userId, row.fullName, row.isActive, s.profile userId⟩, List.mem_map.mpr ⟨⟨userId, row⟩, there, rfl⟩,
        List.ne_nil_of_mem may, digest, ?_, rfl⟩, rfl, active, ?_⟩
    · exact (s.database now).mem_identifiers.mpr ((holdsCard_iff rfl).mpr holds)
    · exact List.mem_filter.mpr ⟨may, decide_eq_true opened⟩

end SyncTables

/-- The same for everyone who is active, on these tools. -/
structure Rights.Agree {Uuid : Type} (tools : List (Tool Uuid)) (r r' : Rights Uuid) : Prop where
  active : ∀ userId, r.active userId ↔ r'.active userId
  holds : ∀ userId digest, r.active userId → (r.holds digest userId ↔ r'.holds digest userId)
  trained : ∀ userId, ∀ tool ∈ tools, r.active userId → (r.trained tool userId ↔ r'.trained tool userId)
  affords : ∀ userId toolId, r.active userId → (r.affords userId toolId ↔ r'.affords userId toolId)

theorem Rights.Agree.refl {Uuid : Type} (tools : List (Tool Uuid)) (r : Rights Uuid) : r.Agree tools r :=
  ⟨fun _ => Iff.rfl, fun _ _ _ => Iff.rfl, fun _ _ _ _ => Iff.rfl, fun _ _ _ => Iff.rfl⟩

namespace SyncTables
variable {Uuid Json : Type} [DecidableEq Uuid] {rules : SyncRules Json} {s s' : SyncTables Uuid Json} {now : Int}

/-- What staff do to members leaves the tools, where they are and their schedules alone. -/
structure SameSite (s s' : SyncTables Uuid Json) : Prop where
  tools : s'.tools = s.tools
  bindings : s'.bindings = s.bindings
  schedules : s'.schedules = s.schedules
  lockedOut : s'.lockedOut = s.lockedOut
  approved : s'.approved = s.approved

theorem SameSite.closed (same : SameSite s s') :
    (s'.database now).closedToolIdsNow rules.site now = (s.database now).closedToolIdsNow rules.site now := by
  unfold Database.closedToolIdsNow database
  simp only [same.tools, same.schedules]

theorem admits_congr (same : SameSite s s') {r r' : Rights Uuid} (agree : r'.Agree s.tools r) {device toolId : Uuid}
    {digest : List UInt8} : s'.Admits rules now r' device toolId digest ↔
      s.Admits rules now r device toolId digest := by
  unfold Admits
  rw [same.tools, same.bindings, same.lockedOut, same.closed]
  refine exists_congr fun tool => and_congr_right fun listed => and_congr_right fun _ => and_congr_right fun _ =>
    and_congr_right fun _ => and_congr_right fun _ => exists_congr fun userId => ?_
  rw [← agree.active userId]
  refine and_congr_right fun active => ?_
  rw [agree.holds userId digest active, agree.trained userId tool listed active, agree.affords userId toolId active]

end SyncTables

end CoopSpaces

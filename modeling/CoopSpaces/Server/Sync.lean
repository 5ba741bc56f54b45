import CoopSpaces.Server.Cards
import CoopSpaces.Server.Rules

namespace CoopSpaces

structure Tool (Uuid : Type) where
  id : Uuid
  externalId : Option String
  name : String
  status : ToolStatus
  requiresTraining : Bool
  scheduleId : Option Uuid
  deriving DecidableEq

/-- What the metered gate answers, at the rate the tier table resolves for a
member: whether they may start a tool, and whether it needs the server. -/
structure MeteredGate (Uuid : Type) where
  authorizesRate : Uuid → Uuid → Bool
  requiresOnline : Uuid → Bool

/-- What the server's tables answer at one instant. A query without an order
answers in any. -/
structure Database (Uuid Json : Type) where
  users : List (User Uuid)
  cards : List (UserCard Uuid)
  tools : List (Tool Uuid)
  bindings : List (Uuid × Uuid)
  schedules : List (Schedule Uuid Json)
  graph : RoleGraph Uuid
  assignments : List (Uuid × Uuid)
  doorRules : Uuid → List (AccessRule Uuid)
  lockedOut : Uuid → Bool
  trainingSteps : Uuid → Bool
  activeWaiver : Uuid → Uuid → Bool
  completedSteps : Uuid → Uuid → Bool

namespace Database

variable {Uuid Json : Type} [DecidableEq Uuid] [IdText Uuid] (db : Database Uuid Json) (site : SiteTime Json)

def userIsAuthorizedForTool (now : Int) (user tool : Uuid) (requiresTraining : Bool) : Bool :=
  let hasSteps := db.trainingSteps tool
  let trainingOk :=
    if !hasSteps && !requiresTraining then true
    else if db.activeWaiver user tool then true
    else hasSteps && db.completedSteps user tool
  let policy : AccessPolicy Uuid := ⟨db.lockedOut tool, none, .open_, none, some trainingOk, none⟩
  let principal : AccessPrincipal Uuid := ⟨some user, 0, ∅, true⟩
  -- No rules and no schedules for a tool decision.
  may site principal policy [] [] now (.fromRows [] []) .use = .allow

def boundTools (device : Uuid) : List (Tool Uuid) :=
  db.tools.filter fun t => (device, t.id) ∈ db.bindings

def identifiers (field : String) (cipher : Option CardCipher) (user : User Uuid) : List (List UInt8) :=
  let active := (db.cards.filter fun c => c.status = .active).filterMap fun c =>
    if c.userId = user.id then c.codeWireDigest else none
  active.foldl pushNew ((legacyDigests user field cipher).foldl pushNew [])

def authorizedToolIds (now : Int) (device : Uuid) (gate : Option (MeteredGate Uuid)) (user : Uuid) : List Uuid :=
  ((db.boundTools device).filter fun t =>
    db.userIsAuthorizedForTool site now user t.id t.requiresTraining &&
      gate.all fun g => g.authorizesRate user t.id).map (·.id)

/-- A member is in a payload for each card they have, while they may use anything it serves. -/
def syncUsers (now : Int) (device : Uuid) (field : String) (gate : Option (MeteredGate Uuid))
    (cipher : Option CardCipher) (user : User Uuid) : List (SyncUser Uuid) :=
  let authorized := db.authorizedToolIds site now device gate user.id
  if authorized = [] then []
  else (db.identifiers field cipher user).map fun digest =>
    ⟨hexEncode digest, user.fullName, user.isActive, authorized⟩

/-- The tools and members of one device's payload; a tool is listed while some
member with a card may use it. -/
def getToolguardSyncData (now : Int) (device : Uuid) (field : String) (gate : Option (MeteredGate Uuid))
    (cipher : Option CardCipher) : SyncPayload Uuid where
  deviceId := device
  profileField := field
  users := db.users.flatMap (db.syncUsers site now device field gate cipher)
  tools := ((db.boundTools device).filter fun t =>
      db.users.any fun u => db.identifiers field cipher u ≠ [] &&
        decide (t.id ∈ db.authorizedToolIds site now device gate u.id)).map fun t =>
    ⟨t.id, t.externalId, t.name, t.status, gate.any fun g => g.requiresOnline t.id⟩

/-- One tool's turn in the walk. A schedule it references that cannot be resolved
locks it; only a tool with no schedule at all is always open. -/
def isClosed (byId : Table Uuid (Schedule Uuid Json)) (now : Int) (t : Tool Uuid) : Bool :=
  match t.scheduleId with
  | none => false
  | some sid =>
    match byId sid with
    | none => true
    | some sched =>
      match site.parseIntervals sched.intervals with
      | none => true
      | some intervals => !matchesAt site intervals now

/-- Tools whose attached schedule isn't currently open; none when no schedules exist. -/
def closedToolIdsNow (now : Int) : List Uuid :=
  if db.schedules.isEmpty then []
  else (db.tools.filter (isClosed site (Table.index (·.id) db.schedules) now)).map (·.id)

def buildSyncPayload (now : Int) (device : Uuid) (field : String) (gate : Option (MeteredGate Uuid))
    (cipher : Option CardCipher) : SyncPayload Uuid :=
  let data := db.getToolguardSyncData site now device field gate cipher
  let closed := db.closedToolIdsNow site now
  if closed = [] then data
  else
    { data with
      users := data.users.map fun u => { u with authorizedToolIds := u.authorizedToolIds.filter (· ∉ closed) }
      tools := data.tools.filter fun t => t.id ∉ closed }

def activeUsers : List (User Uuid) := db.users.filter (·.isActive)

def doorLists (now : Int) (door : Uuid) (field : String) (cipher : Option CardCipher) :
    Finset String × Finset String :=
  expandRulesAt site (db.doorRules door) (cardDigestsByUser db.cards db.activeUsers field cipher) db.schedules now
    db.graph (effectiveLevelsFor db.graph db.assignments (db.activeUsers.map (·.id)))

theorem userIsAuthorizedForTool_iff {now : Int} {user tool : Uuid} {requiresTraining : Bool} :
    db.userIsAuthorizedForTool site now user tool requiresTraining = true ↔
      db.lockedOut tool = false ∧ ((db.trainingSteps tool = false ∧ requiresTraining = false) ∨
        db.activeWaiver user tool = true ∨ (db.trainingSteps tool = true ∧ db.completedSteps user tool = true)) := by
  have opens : ruleFires .allow (scheduleStateAt site none ([] : List (Schedule Uuid Json)) now) = true := rfl
  simp only [userIsAuthorizedForTool, may, opens, decide_eq_true_eq]
  cases db.lockedOut tool <;> cases db.trainingSteps tool <;> cases requiresTraining <;> cases db.activeWaiver
    user tool <;>
    cases db.completedSteps user tool <;> simp [Action.needsIdentity]

variable {cipher : Option CardCipher} {gate : Option (MeteredGate Uuid)}

omit [IdText Uuid] in
theorem mem_identifiers {field : String} {user : User Uuid} {digest : List UInt8} :
    digest ∈ db.identifiers field cipher user ↔ Identifies db.cards field cipher digest user := by
  simp only [identifiers, mem_foldl_pushNew, List.not_mem_nil, false_or, List.mem_filterMap, List.mem_filter,
    decide_eq_true_eq, Option.ite_none_right_eq_some, and_assoc, Identifies, or_comm]

/-- A payload holds a digest exactly while it identifies a member who may use
something the device serves. -/
theorem mem_syncData_users {now : Int} {device : Uuid} {field : String} {digest : List UInt8} :
    (∃ u ∈ (db.getToolguardSyncData site now device field gate cipher).users,
      u.profileFieldDigest = hexEncode digest) ↔
      ∃ user ∈ db.users, Identifies db.cards field cipher digest user ∧
        db.authorizedToolIds site now device gate user.id ≠ [] := by
  simp only [getToolguardSyncData, List.mem_flatMap, syncUsers]
  constructor
  · rintro ⟨u, ⟨user, listed, entry⟩, same⟩
    split at entry
    · cases entry
    · rename_i some_
      obtain ⟨d, identifier, rfl⟩ := List.mem_map.mp entry
      obtain rfl := hexEncode_injective same
      exact ⟨user, listed, db.mem_identifiers.mp identifier, some_⟩
  · rintro ⟨user, listed, identifier, some_⟩
    refine ⟨⟨hexEncode digest, user.fullName, user.isActive, db.authorizedToolIds site now device gate user.id⟩,
      ⟨user, listed, ?_⟩, rfl⟩
    rw [if_neg some_]
    exact List.mem_map.mpr ⟨digest, db.mem_identifiers.mpr identifier, rfl⟩

/-- The entries of a payload: one for each digest of a member who may use anything, with the
tools whose schedules are open. -/
theorem mem_buildSyncPayload_users {now : Int} {device : Uuid} {field : String} {entry : SyncUser Uuid} :
    entry ∈ (db.buildSyncPayload site now device field gate cipher).users ↔
      ∃ user ∈ db.users, db.authorizedToolIds site now device gate user.id ≠ [] ∧
        ∃ digest ∈ db.identifiers field cipher user, entry = ⟨hexEncode digest, user.fullName, user.isActive,
          (db.authorizedToolIds site now device gate user.id).filter (· ∉ db.closedToolIdsNow site now)⟩ := by
  have listed : ∀ raw : SyncUser Uuid, raw ∈ (db.getToolguardSyncData site now device field gate cipher).users ↔
      ∃ user ∈ db.users, db.authorizedToolIds site now device gate user.id ≠ [] ∧
        ∃ digest ∈ db.identifiers field cipher user,
          raw = ⟨hexEncode digest, user.fullName, user.isActive,
            db.authorizedToolIds site now device gate user.id⟩ := by
    intro raw
    simp only [getToolguardSyncData, List.mem_flatMap, syncUsers]
    refine exists_congr fun user => and_congr_right fun _ => ?_
    split
    · rename_i none_
      simp [none_]
    · rename_i some_
      simp only [List.mem_map, ne_eq, some_, not_false_eq_true, true_and, eq_comm (a := raw)]
  simp only [buildSyncPayload]
  split
  · rename_i open_
    simp only [listed, open_, List.not_mem_nil, not_false_eq_true, decide_true, List.filter_true]
  · simp only [List.mem_map, listed]
    constructor
    · rintro ⟨raw, ⟨user, member, some_, digest, held, rfl⟩, rfl⟩
      exact ⟨user, member, some_, digest, held, rfl⟩
    · rintro ⟨user, member, some_, digest, held, rfl⟩
      exact ⟨_, ⟨user, member, some_, digest, held, rfl⟩, rfl⟩

/-- What a device's payload lists: a tool it is bound to, that some member with a
card may use, and whose schedule is open. -/
structure Listed (now : Int) (device : Uuid) (field : String) (gate : Option (MeteredGate Uuid))
    (cipher : Option CardCipher) (tool : Tool Uuid) : Prop where
  bound : tool ∈ db.boundTools device
  usable : ∃ user ∈ db.users, db.identifiers field cipher user ≠ [] ∧
    tool.id ∈ db.authorizedToolIds site now device gate user.id
  opened : tool.id ∉ db.closedToolIdsNow site now

theorem mem_buildSyncPayload_tools {now : Int} {device : Uuid} {field : String} {entry : SyncTool Uuid} :
    entry ∈ (db.buildSyncPayload site now device field gate cipher).tools ↔
      ∃ tool, db.Listed site now device field gate cipher tool ∧
        entry = ⟨tool.id, tool.externalId, tool.name, tool.status, gate.any fun g => g.requiresOnline tool.id⟩ := by
  have listed : entry ∈ (db.getToolguardSyncData site now device field gate cipher).tools ↔
      ∃ tool, (tool ∈ db.boundTools device ∧ ∃ user ∈ db.users, db.identifiers field cipher user ≠ [] ∧
        tool.id ∈ db.authorizedToolIds site now device gate user.id) ∧
        entry = ⟨tool.id, tool.externalId, tool.name, tool.status, gate.any fun g => g.requiresOnline tool.id⟩ := by
    simp only [getToolguardSyncData, List.mem_map, List.mem_filter, List.any_eq_true, Bool.and_eq_true,
      decide_eq_true_eq, ne_eq, eq_comm (b := entry)]
  simp only [buildSyncPayload]
  split
  · rename_i open_
    rw [listed]
    refine exists_congr fun tool => and_congr_left fun _ => ⟨?_, fun entry => ⟨entry.bound, entry.usable⟩⟩
    exact fun entry => ⟨entry.1, entry.2, by simp [open_]⟩
  · rw [List.mem_filter, listed]
    simp only [decide_eq_true_eq]
    constructor
    · rintro ⟨⟨tool, ⟨bound, usable⟩, rfl⟩, opened⟩
      exact ⟨tool, ⟨bound, usable, opened⟩, rfl⟩
    · rintro ⟨tool, ⟨bound, usable, opened⟩, rfl⟩
      exact ⟨⟨tool, ⟨bound, usable⟩, rfl⟩, opened⟩

end Database

end CoopSpaces

import CoopSpaces.Edge.Power
import CoopSpaces.Edge.Tick
import CoopSpaces.Lib.Text

namespace CoopSpaces

inductive Kind
  | tool
  | door
  deriving DecidableEq

/-- Anything that is not a door is a tool. -/
def Kind.parse (named : String) : Kind := if named = "door" then .door else .tool

inductive SessionProfile
  | momentary
  | untilStopped
  deriving DecidableEq

def SessionProfile.parse (named : String) (kind : Kind) : SessionProfile :=
  if named = "momentary" then .momentary
  else if named = "until_stopped" then .untilStopped
  else match kind with
    | .door => .momentary
    | .tool => .untilStopped

inductive ToolStatus
  | idle
  | inUse
  | maintenance
  | broken
  | repair
  | retired
  deriving DecidableEq

def statusWord : ToolStatus → String
  | .idle => "idle"
  | .inUse => "in_use"
  | .maintenance => "maintenance"
  | .broken => "broken"
  | .repair => "repair"
  | .retired => "retired"

/-- The wire spelling back; a word this edge does not know is `retired`. -/
def parseStatus (word : String) : ToolStatus :=
  if word = "idle" then .idle
  else if word = "in_use" then .inUse
  else if word = "maintenance" then .maintenance
  else if word = "broken" then .broken
  else if word = "repair" then .repair
  else .retired

theorem parseStatus_statusWord (status : ToolStatus) : parseStatus (statusWord status) = status := by
  cases status <;> decide

section
variable (Uuid : Type)

structure SyncTool where
  id : Uuid
  externalId : Option String
  name : String
  status : ToolStatus
  requiresOnline : Bool
  deriving DecidableEq

structure SyncUser where
  profileFieldDigest : String
  fullName : String
  isActive : Bool
  authorizedToolIds : List Uuid
  deriving DecidableEq

structure SyncPayload where
  deviceId : Uuid
  profileField : String
  tools : List (SyncTool Uuid)
  users : List (SyncUser Uuid)
  deriving DecidableEq

structure CompiledDoor where
  id : Uuid
  name : String
  enabled : Bool
  unlockDurationMs : Int
  allowCards : List String
  denyCards : List String
  holdUnlockUntil : Option Int
  deriving DecidableEq

structure DoorStateSnapshot where
  snapshotAt : Int
  doors : List (CompiledDoor Uuid)
  deriving DecidableEq

structure Entry where
  id : Uuid
  externalId : Option String
  kind : Kind
  sessionProfile : String
  status : String
  requiresOnline : Bool
  enabled : Bool
  pulseMs : Option Int
  allow : List String
  deny : List String
  holdUntil : Option Int
  deriving DecidableEq

structure Member where
  digest : String
  fullName : String
  isActive : Bool
  authorized : List Uuid
  deriving DecidableEq

structure Policy where
  entries : List (Entry Uuid)
  names : Table Uuid String
  members : List (Member Uuid)
  appliedAt : Option Int

end

/-- The pepper-keyed digest a device holds for one card. The key derivation is
a slow hash of a library; it fills thirty-two bytes or fails. -/
structure CardDigester where
  wireDigest : String → Option (List UInt8)
  length_wireDigest : ∀ code bytes, wireDigest code = some bytes → bytes.length = 32

/-- The allow-list the kiosk and the lease engine read, and the digester every
decision hashes a swipe with. -/
structure ToolGuardState (Uuid : Type) where
  inner : Option (SyncPayload Uuid)
  cardDigester : Option CardDigester

structure Resolved where
  id : String
  kind : Kind
  profile : SessionProfile
  pulseMs : Option Int
  deriving DecidableEq

/-- The one answer to a badge at anything. -/
inductive ScanDecision
  | allow (strikeMs : Option Int)
  | deny (reason : String)
  | askServer
  deriving DecidableEq

inductive TickAction (Uuid : Type)
  | lease (action : LeaseAction)
  | hold (resource : Uuid) (pulseMs : Int)
  deriving DecidableEq

/-- The pulse that keeps an Open Access door held now, if it must be held. It
outlasts the refresh by fifteen seconds and never the window. -/
def holdPulseMs (holdUnlockUntil : Option Int) (now refresh : Int) : Option Int :=
  match holdUnlockUntil with
  | none => none
  | some until_ =>
    let remaining := until_ - now
    if remaining ≤ 0 then none
    else some (max (numMilliseconds (min (refresh + seconds 15) remaining)) 1)

structure ResourceCache (Uuid Amps : Type) where
  wiring : ModuleState
  allowList : ToolGuardState Uuid
  power : PowerState Amps
  policy : Policy Uuid
  holdSent : Table Uuid Int

namespace reason
def lockedOut := "Tool is locked out (power)"
def disabled := "Door is disabled"
def deniedByRule := "Denied by access rule"
def unknownCard := "Unknown card"
def userInactive := "User is not active"
def notAuthorized := "Card not authorized"
/-- Followed by the resource's status word, as the wire spells it. -/
def unavailablePrefix := "Tool unavailable: "
end reason

variable {Uuid Amps : Type} [DecidableEq Uuid] [IdText Uuid]

namespace Entry

def named (e : Entry Uuid) (name : String) : Bool := e.externalId == some name || IdText.toText e.id == name

/-- From the one shape; nothing for an entry whose id is not a UUID. -/
def fromPolicy (parseRfc3339 : String → Option Int) (p : ResourcePolicy) : Option (Entry Uuid) :=
  (IdText.parseStr p.id).map fun id =>
    { id := id
      externalId := p.externalId
      kind := .parse p.kind
      sessionProfile := p.sessionProfile
      status := p.status
      requiresOnline := p.requiresOnline
      enabled := p.enabled
      pulseMs := p.pulseMs
      allow := p.allow
      deny := p.deny
      holdUntil := p.holdUntil.bind parseRfc3339 }

def fromSyncTool (t : SyncTool Uuid) : Entry Uuid where
  id := t.id
  externalId := t.externalId
  kind := .tool
  sessionProfile := ""
  status := statusWord t.status
  requiresOnline := t.requiresOnline
  enabled := true
  pulseMs := none
  allow := []
  deny := []
  holdUntil := none

def fromCompiledDoor (d : CompiledDoor Uuid) : Entry Uuid where
  id := d.id
  externalId := none
  kind := .door
  sessionProfile := ""
  status := ""
  requiresOnline := false
  enabled := d.enabled
  pulseMs := some d.unlockDurationMs
  allow := d.allowCards
  deny := d.denyCards
  holdUntil := d.holdUnlockUntil

def toSyncTool (e : Entry Uuid) (name : String) : SyncTool Uuid :=
  ⟨e.id, e.externalId, name, parseStatus e.status, e.requiresOnline⟩

end Entry

namespace Member

def fromPrincipal (p : Principal) : Member Uuid :=
  ⟨p.digest, p.fullName, p.isActive, p.authorized.filterMap IdText.parseStr⟩

def fromSyncUser (u : SyncUser Uuid) : Member Uuid :=
  ⟨u.profileFieldDigest, u.fullName, u.isActive, u.authorizedToolIds⟩

def toSyncUser (m : Member Uuid) : SyncUser Uuid := ⟨m.digest, m.fullName, m.isActive, m.authorized⟩

end Member

namespace Policy

def empty : Policy Uuid := ⟨[], .empty, [], none⟩

/-- Stamps are monotonic per server, so a strictly older one is dropped. -/
def isStale (p : Policy Uuid) (stamp : Int) : Bool := p.appliedAt.any fun applied => decide (stamp < applied)

def replaceKind (p : Policy Uuid) (kind : Kind) (replacement : List (Entry Uuid)) : Policy Uuid :=
  { p with entries := p.entries.filter (fun e => e.kind ≠ kind) ++ replacement }

def find (p : Policy Uuid) (name : String) : Option (Entry Uuid) := p.entries.find? fun e => e.named name

def toSync (p : Policy Uuid) (deviceId : Uuid) (profileField : String) : SyncPayload Uuid where
  deviceId := deviceId
  profileField := profileField
  tools := (p.entries.filter fun e => e.kind = .tool).map fun e => e.toSyncTool ((p.names e.id).getD "")
  users := p.members.map Member.toSyncUser

end Policy

namespace ToolGuardState

def applySync (s : ToolGuardState Uuid) (payload : SyncPayload Uuid) : ToolGuardState Uuid :=
  { s with inner := some payload }

/-- Hex wire-digest of a scanned card; nothing when no digester is configured or it fails. -/
def wireDigestHex (s : ToolGuardState Uuid) (cardValue : String) : Option String :=
  (s.cardDigester.bind fun d => d.wireDigest cardValue).map hexEncode

end ToolGuardState

namespace ResourceCache

def new (allowList : ToolGuardState Uuid) : ResourceCache Uuid Amps where
  wiring := .new
  allowList := allowList
  power := .new
  policy := .empty
  holdSent := .empty

/-- The one shape: replace everything, unless it is older than what is applied. -/
def applyPolicy [Inhabited Uuid] (c : ResourceCache Uuid Amps) (parseRfc3339 : String → Option Int)
    (payload : ResourcePolicyPayload) : ResourceCache Uuid Amps :=
  let stamp := parseRfc3339 payload.asOf
  let deviceId := (IdText.parseStr payload.deviceId).getD default
  if stamp.any c.policy.isStale then c
  else
    let policy : Policy Uuid :=
      { entries := payload.resources.filterMap (Entry.fromPolicy parseRfc3339)
        names := payload.resources.foldl (fun names r =>
          match IdText.parseStr r.id with
          | some id => names.insert id r.name
          | none => names) .empty
        members := payload.principals.map Member.fromPrincipal
        appliedAt := stamp.or c.policy.appliedAt }
    { c with policy := policy, allowList := c.allowList.applySync (policy.toSync deviceId payload.profileField) }

/-- The tool alias: the tools and the principals, leaving the doors. -/
def applySyncAlias (c : ResourceCache Uuid Amps) (payload : SyncPayload Uuid) : ResourceCache Uuid Amps :=
  let tools := payload.tools.map Entry.fromSyncTool
  let names := payload.tools.foldl (fun (names : Table Uuid String) t => names.insert t.id t.name) c.policy.names
  { c with
    policy :=
      { c.policy.replaceKind .tool tools with names := names, members := payload.users.map Member.fromSyncUser }
    allowList := c.allowList.applySync payload }

/-- The door alias: the compiled doors, leaving the tools and the principals. -/
def applyDoorsAlias (c : ResourceCache Uuid Amps) (snapshot : DoorStateSnapshot Uuid) : ResourceCache Uuid Amps :=
  if c.policy.isStale snapshot.snapshotAt then c
  else
    let names := snapshot.doors.foldl (fun (names : Table Uuid String) d => names.insert d.id d.name) c.policy.names
    let stamped := { c.policy with appliedAt := some snapshot.snapshotAt, names := names }
    { c with policy := stamped.replaceKind .door (snapshot.doors.map Entry.fromCompiledDoor) }

def resolvedFrom (policy : Policy Uuid) (wiring : Option ResourceWiring) (name : String) : Option Resolved :=
  match wiring with
  | some w =>
    let kind := Kind.parse w.kind
    some
      { id := w.id
        kind := kind
        profile := .parse w.sessionProfile kind
        pulseMs := ((policy.find name).bind (·.pulseMs)).or w.strikePulseMs }
  | none =>
    (policy.find name).map fun e => ⟨IdText.toText e.id, e.kind, .parse e.sessionProfile e.kind, e.pulseMs⟩

/-- What this edge knows about a name: the wiring first, then the policy. -/
def resolve (c : ResourceCache Uuid Amps) (name : String) : Option Resolved :=
  resolvedFrom c.policy (c.wiring.resource name) name

def requiresOnline (c : ResourceCache Uuid Amps) (name : String) : Bool :=
  (c.policy.find name).any (·.requiresOnline)

/-- The arms that read the principals: who the token digests to, and whether the
entry is theirs to use. -/
def decideMember (members : List (Member Uuid)) (entry : Option (Entry Uuid)) (token : String)
    (strikeMs : Option Int) : ScanDecision :=
  match members.find? fun m => constantTimeStrEq m.digest token with
  | none => .deny reason.unknownCard
  | some member =>
    if !member.isActive then .deny reason.userInactive
    else match entry.filter fun e => decide (e.id ∈ member.authorized) with
      | none => .deny reason.notAuthorized
      | some e =>
        if e.status ≠ "" ∧ e.status ≠ "idle" then .deny (reason.unavailablePrefix ++ e.status)
        else .allow strikeMs

def decide (c : ResourceCache Uuid Amps) (name card : String) (now : Int) : ScanDecision :=
  if c.power.isLocked name then .deny reason.lockedOut
  else
    let token := (c.allowList.wireDigestHex card).getD ""
    let entry := c.policy.find name
    let strikeMs := (c.resolve name).bind (·.pulseMs)
    match entry with
    | none => decideMember c.policy.members none token strikeMs
    | some e =>
      if !e.enabled then .deny reason.disabled
      else if token ∈ e.deny then .deny reason.deniedByRule
      -- Open Access, by this device's clock.
      else if e.holdUntil.any fun until_ => Decidable.decide (now < until_) then .allow strikeMs
      else if token ∈ e.allow then .allow strikeMs
      else if e.requiresOnline then .askServer
      else decideMember c.policy.members (some e) token strikeMs

def reconcile (c : ResourceCache Uuid Amps) (payload : SyncPayload Uuid) (now : Int) (requestedAt : Option Int) :
    ResourceCache Uuid Amps :=
  let inUse := (payload.tools.filter fun t => t.status = .inUse).map fun t => IdText.toText t.id
  let tracked := payload.tools.map fun t => IdText.toText t.id
  { c with wiring := c.wiring.reconcileSessions inUse tracked now (requestedAt.getD now) }

def holdPulsesAt (c : ResourceCache Uuid Amps) (now refresh : Int) : List (Uuid × Int) :=
  (c.policy.entries.filter (·.enabled)).filterMap fun e =>
    (holdPulseMs e.holdUntil now refresh).map fun pulseMs => (e.id, pulseMs)

/-- Send the pulses that are due, and remember when each was sent. -/
def sendHolds (now refresh : Int) : List (Uuid × Int) → Table Uuid Int → Table Uuid Int × List (TickAction Uuid)
  | [], sent => (sent, [])
  | (door, pulseMs) :: rest, sent =>
    if (sent door).all fun last => Decidable.decide (refresh ≤ now - last) then
      let others := sendHolds now refresh rest (sent.insert door now)
      (others.1, .hold door pulseMs :: others.2)
    else sendHolds now refresh rest sent

/-- One pass of the one loop: every lease the engine decides, and every hold
pulse that is due. -/
def tick (c : ResourceCache Uuid Amps) (now ttl moduleTimeout holdRefresh : Int) :
    ResourceCache Uuid Amps × List (TickAction Uuid) :=
  let leases := c.wiring.tick now ttl moduleTimeout
  let held := c.holdPulsesAt now holdRefresh
  let kept := c.holdSent.retain fun door _ => held.any fun h => h.1 == door
  let holds := sendHolds now holdRefresh held kept
  ({ c with wiring := leases.1, holdSent := holds.1 }, leases.2.map .lease ++ holds.2)

end ResourceCache

end CoopSpaces

import CoopSpaces.Lib.Table
import CoopSpaces.Wire
import Mathlib.Data.Finset.Image
import Mathlib.Data.List.Sort

namespace CoopSpaces

/-- Whether a condition names a hazard (asserted = unsafe) or a requirement
(asserted = safe). Anything unrecognised is a hazard. -/
def isHazard (condition : String) : Bool := !(condition == "flow_ok" || condition == "authorized")

inductive Denial
  | gate (condition : String)
  | latched (condition : String)
  | tripped (condition : String)
  | unobserved (condition : String)
  | moduleOffline (name : String)
  | notInUse
  | unknown
  deriving DecidableEq

inductive Decision
  | allow
  | deny (denial : Denial)
  deriving DecidableEq

/-- What the watchdog decided about one module's lease. The source renders the
denial for the log line; here it stays a value. -/
structure LeaseAction where
  toolId : String
  deviceId : String
  grant : Bool
  ttlMs : Int
  reason : Option Denial
  deriving DecidableEq

/-- A session this edge opened on a resource. `endsAt` is the strike pulse's
end for a momentary resource and absent for one held until a stop. -/
structure Session where
  opened : Int
  endsAt : Option Int
  deriving DecidableEq

structure Reading where
  asserted : Bool
  since : Int
  deriving DecidableEq

structure ResourceWiring where
  id : String
  kind : String
  sessionProfile : String
  strikePulseMs : Option Int
  deriving DecidableEq

structure ModuleState where
  snapshot : Option ToolModuleStatePayload
  readings : Table (String × String) Reading
  latched : Table String String
  leases : Table String Int
  moduleSeen : Table String Int
  localSessions : Table String Session
  syncedInUse : Finset String
  localSessionGrace : Int
  localStops : Table String Int
  allowedSince : Table String Int
  relayState : Table String (Bool × Int)
  grantedSince : Table String Int
  runOnUntil : Table String Int

namespace ModuleState

def new : ModuleState where
  snapshot := none
  readings := .empty
  latched := .empty
  leases := .empty
  moduleSeen := .empty
  localSessions := .empty
  syncedInUse := ∅
  localSessionGrace := seconds 30
  localStops := .empty
  allowedSince := .empty
  relayState := .empty
  grantedSince := .empty
  runOnUntil := .empty

/-- Find a tool's wiring by server UUID, then by `external_id`. -/
def resolve (snapshot : ToolModuleStatePayload) (tool : String) : Option ToolModuleTool :=
  (snapshot.tools.find? fun t => t.toolId == tool).or
    (snapshot.tools.find? fun t => t.externalId == some tool)

def wiring (s : ModuleState) (tool : String) : Option ToolModuleTool :=
  s.snapshot.bind (resolve · tool)

/-- The snapshot's key for a tool named either way, or the name itself. -/
def toolKey (s : ModuleState) (tool : String) : String :=
  ((s.wiring tool).map (·.toolId)).getD tool

def setLocalSessionGrace (s : ModuleState) (grace : Int) : ModuleState :=
  { s with localSessionGrace := grace }

def openSession (s : ModuleState) (resource : String) (now : Int) (endsAt : Option Int) :
    ModuleState :=
  let key := s.toolKey resource
  { s with
    localStops := s.localStops.erase key
    localSessions := s.localSessions.insert key ⟨now, endsAt⟩ }

def closeSession (s : ModuleState) (resource : String) (now : Int) : ModuleState :=
  let key := s.toolKey resource
  { s with
    localSessions := s.localSessions.erase key
    syncedInUse := s.syncedInUse.erase key
    localStops := s.localStops.insert key now }

def recentStops (s : ModuleState) (now : Int) : Table String Int :=
  s.localStops.retain fun _ at_ => decide (now - at_ < s.localSessionGrace)

/-- The keys a source says are in use, less those this edge stopped after the
source's answer was asked for. -/
def syncedKeys (s : ModuleState) (inUseIds : List String) (now asOf : Int) : Finset String :=
  (inUseIds.map s.toolKey).toFinset.filter fun key =>
    ¬ ((s.recentStops now key).any fun at_ => decide (at_ > asOf)) = true

def trackedKeys (s : ModuleState) (trackedIds : List String) : Finset String :=
  (trackedIds.map s.toolKey).toFinset

/-- Whether a reconcile keeps a local session. -/
def keepsSession (s : ModuleState) (tracked synced : Finset String) (now : Int) (key : String)
    (session : Session) : Bool :=
  -- A momentary session that has run out is gone whoever tracks it.
  if session.endsAt.any fun end_ => decide (now ≥ end_) then false
  else decide (key ∉ tracked) || decide (key ∈ synced) ||
    decide (now - session.opened < s.localSessionGrace)

def reconcileTracked (s : ModuleState) (inUseIds trackedIds : List String) (now asOf : Int) :
    ModuleState :=
  let synced := s.syncedKeys inUseIds now asOf
  let tracked := s.trackedKeys trackedIds
  { s with
    localStops := s.recentStops now
    localSessions := s.localSessions.retain (s.keepsSession tracked synced now)
    syncedInUse := s.syncedInUse.filter (· ∉ tracked) ∪ synced }

def reconcileSessions (s : ModuleState) (inUseToolIds trackedToolIds : List String)
    (now asOf : Int) : ModuleState :=
  s.reconcileTracked inUseToolIds trackedToolIds now asOf

def noteRelayState (s : ModuleState) (deviceId : String) (relayOn : Bool) (now : Int) :
    ModuleState :=
  { s with relayState := s.relayState.insert deviceId (relayOn, now) }

/-- Whether the resource is in use as of `now`: the server says so, or a session
this edge opened has not ended. -/
def inUse (s : ModuleState) (toolKey : String) (now : Int) : Bool :=
  decide (toolKey ∈ s.syncedInUse) ||
    (s.localSessions toolKey).any fun session => session.endsAt.all fun end_ => decide (now < end_)

def rooms (payload : ToolModuleStatePayload) (onlyInUse : Bool) : List String :=
  (((payload.tools.filter fun t => t.kind == "door" && t.sessionProfile == "until_stopped").filter
    fun t => !onlyInUse || t.inUse).map (·.toolId))

/-- Replace the wiring snapshot, and reconcile its rooms. -/
def applyStateAt (s : ModuleState) (payload : ToolModuleStatePayload)
    (requestedAt : Option Int) (now : Int) : ModuleState :=
  let asOf := requestedAt.getD now
  let tracked := rooms payload false
  let inUse := rooms payload true
  { s with snapshot := some payload }.reconcileTracked inUse tracked now asOf

def hasState (s : ModuleState) : Bool := s.snapshot.isSome

/-- Record a sensor reading. `since` only moves when the value changes. -/
def observe (s : ModuleState) (toolId condition : String) (asserted : Bool) (now : Int) :
    ModuleState :=
  match s.readings (toolId, condition) with
  | some prev =>
    if prev.asserted = asserted then s
    else { s with readings := s.readings.insert (toolId, condition) ⟨asserted, now⟩ }
  | none => { s with readings := s.readings.insert (toolId, condition) ⟨asserted, now⟩ }

def noteModuleSeen (s : ModuleState) (moduleId : String) (now : Int) : ModuleState :=
  { s with moduleSeen := s.moduleSeen.insert moduleId now }

def bindingsOf (s : ModuleState) (deviceId : String) : List String :=
  match s.snapshot with
  | some snapshot =>
    ((snapshot.tools.flatMap (·.modules)).filter fun m => m.deviceId == deviceId).map (·.id)
  | none => []

/-- Mark every binding held by one device as heard from, and say how many. -/
def noteDeviceSeen (s : ModuleState) (deviceId : String) (now : Int) : ModuleState × Nat :=
  let ids := s.bindingsOf deviceId
  ({ s with moduleSeen := ids.foldl (fun seen id => seen.insert id now) s.moduleSeen }, ids.length)

def resetLatch (s : ModuleState) (toolId : String) : ModuleState :=
  { s with latched := s.latched.erase toolId }

/-- The value a rule acts on: the reading once it has outlasted its debounce,
and the opposite of the reading before that. -/
def effective (reading : Reading) (rule : ToolInterlockRule) (now : Int) : Bool :=
  let settled := decide (now - reading.since ≥ milliseconds (max rule.debounceMs 0))
  if settled then reading.asserted else !reading.asserted

/-- Whether a rule's condition counts as satisfied; `none` when never observed. -/
def satisfied (s : ModuleState) (toolKey : String) (rule : ToolInterlockRule) (now : Int) :
    Option Bool :=
  (s.readings (toolKey, rule.condition)).map fun reading =>
    if isHazard rule.condition then !effective reading rule now else effective reading rule now

/-- Whether a module has gone quiet past `timeout` under a fail-off policy. A
coordinator's own binding is never a liveness subject. -/
def silentFailOff (s : ModuleState) (now : Int) (timeout : Int) (m : DeviceBinding) : Bool :=
  if m.role == "edge" then false
  else if m.onDisconnect != "fail_off" then false
  else match s.moduleSeen m.id with
    | none => true
    | some seen => decide (now - seen > timeout)

def offlineFailOff (s : ModuleState) (tool : ToolModuleTool) (now : Int) (timeout : Int) :
    Option String :=
  (tool.modules.find? (s.silentFailOff now timeout)).map (·.name)

def interlockDenial (s : ModuleState) (toolKey : String) (now : Int) :
    List ToolInterlockRule → Option Denial
  | [] => none
  | rule :: rest =>
    match s.satisfied toolKey rule now with
    | none => some (.unobserved rule.condition)
    | some true => interlockDenial s toolKey now rest
    | some false =>
      if rule.kind = "trip" then some (.tripped rule.condition)
      -- A start gate, and any kind this edge cannot classify.
      else some (.gate rule.condition)

/-- The interlock engine: may this tool be energized right now? -/
def evaluate (s : ModuleState) (tool : String) (now : Int) (moduleTimeout : Int) : Decision :=
  match s.snapshot with
  | none => .deny .unknown
  | some snapshot =>
    match resolve snapshot tool with
    | none => .allow
    | some wiring =>
      match s.latched wiring.toolId with
      | some condition => .deny (.latched condition)
      | none =>
        match s.offlineFailOff wiring now moduleTimeout with
        | some name => .deny (.moduleOffline name)
        | none =>
          match s.interlockDenial wiring.toolId now wiring.interlocks with
          | some denial => .deny denial
          | none => if s.inUse wiring.toolId now then .allow else .deny .notInUse

def latches (s : ModuleState) (tool condition : String) : Bool :=
  ((s.wiring tool).map fun t =>
    t.interlocks.any fun r => r.kind == "trip" && r.condition == condition && r.latch).getD false

/-- Re-evaluate and either renew the lease or let it lapse. -/
def renew (s : ModuleState) (tool : String) (now : Int) (ttl moduleTimeout : Int) :
    ModuleState × Decision :=
  let decision := s.evaluate tool now moduleTimeout
  let key := s.toolKey tool
  match decision with
  | .allow => ({ s with leases := s.leases.insert key (now + ttl) }, decision)
  | .deny denial =>
    let lapsed := { s with leases := s.leases.erase key }
    match denial with
    | .tripped condition =>
      if s.latches tool condition then
        ({ lapsed with latched := lapsed.latched.insert key condition }, decision)
      else (lapsed, decision)
    | _ => (lapsed, decision)

def leaseValid (s : ModuleState) (tool : String) (now : Int) : Bool :=
  (s.leases (s.toolKey tool)).any fun until_ => decide (until_ > now)

def tools (s : ModuleState) : List String :=
  (s.snapshot.map fun snapshot => snapshot.tools.map (·.toolId)).getD []

def resource (s : ModuleState) (name : String) : Option ResourceWiring :=
  (s.wiring name).map fun wiring =>
    { id := wiring.toolId
      kind := wiring.kind
      sessionProfile := wiring.sessionProfile
      strikePulseMs :=
        (wiring.modules.find? fun m => m.role == "strike" && decide (m.pulseMs > 0)).map (·.pulseMs) }

end ModuleState

end CoopSpaces

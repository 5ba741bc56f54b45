import Mathlib.Tactic.Common

namespace CoopSpaces

/-- Instants and spans of time are nanoseconds. The edge's clock is whatever the
caller says it is, so nothing here assumes that later calls carry later instants. -/
def milliseconds (n : Int) : Int := n * 1000000

def seconds (n : Int) : Int := n * 1000000000

/-- `Duration::num_milliseconds`, which truncates toward zero. -/
def numMilliseconds (d : Int) : Int := d.tdiv 1000000

structure DeviceBinding where
  id : String
  deviceId : String
  role : String
  name : String
  onDisconnect : String
  startStage : Int := 0
  startDelayMs : Int := 0
  runOnMs : Int := 0
  pulseMs : Int := 0
  deriving DecidableEq

structure ToolInterlockRule where
  kind : String
  condition : String
  debounceMs : Int
  latch : Bool
  deriving DecidableEq

/-- One resource's wiring: the modules bound to it and the rules that gate it. -/
structure ToolModuleTool where
  toolId : String
  externalId : Option String
  kind : String
  sessionProfile : String
  inUse : Bool
  modules : List DeviceBinding
  interlocks : List ToolInterlockRule
  deriving DecidableEq

structure ToolModuleStatePayload where
  tools : List ToolModuleTool
  deriving DecidableEq

structure ResourcePolicy where
  id : String
  externalId : Option String
  name : String
  kind : String
  sessionProfile : String
  status : String
  requiresOnline : Bool
  enabled : Bool
  pulseMs : Option Int
  allow : List String
  deny : List String
  holdUntil : Option String
  deriving DecidableEq

/-- A member as a device may know one: a digest, never the card. -/
structure Principal where
  digest : String
  fullName : String
  isActive : Bool
  authorized : List String
  deriving DecidableEq

/-- The policy for every resource one device coordinates, in one shape. -/
structure ResourcePolicyPayload where
  deviceId : String
  asOf : String
  profileField : String
  resources : List ResourcePolicy
  principals : List Principal
  deriving DecidableEq

structure PowerStateCircuit where
  id : String
  amperageLimit : String
  deriving DecidableEq

structure PowerStateTool where
  id : String
  externalId : Option String
  circuitId : Option String
  deriving DecidableEq

/-- The lockout snapshot: the locked tools, and the topology for local aggregation. -/
structure PowerStatePayload where
  lockedToolIds : List String
  circuits : List PowerStateCircuit
  tools : List PowerStateTool
  deriving DecidableEq

end CoopSpaces

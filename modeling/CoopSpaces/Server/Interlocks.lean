import CoopSpaces.Lib.Fallible
import CoopSpaces.Server.Handler

namespace CoopSpaces

/-- Of what a device declares, the part a firmware rule goes by. -/
structure ModuleCapabilities where
  localInputs : List String
  localInhibit : Bool
  deriving DecidableEq

structure DeviceCapabilities where
  roles : List String
  module_ : ModuleCapabilities
  deriving DecidableEq

namespace ModuleCapabilities

def canEnforceLocally (m : ModuleCapabilities) (condition : String) : Bool :=
  m.localInhibit && m.localInputs.any fun c => c = condition

end ModuleCapabilities

/-- One module does both: it senses the condition and acts on it. -/
def firmwareEnforcementAchievable (condition : String) (modules : List ModuleCapabilities) : Except String Unit :=
  if modules.any fun m => m.canEnforceLocally condition then .ok ()
  else .error ("no module bound to this tool both senses '" ++ condition ++ "' locally and can inhibit its " ++
    "own output, so this interlock cannot be enforced in firmware. Wire the sensor " ++
    "directly to the module that switches the tool, or set enforcement to 'edge'.")

def bindingRoles : List String := ["reader", "power", "sensor", "edge", "strike"]
def onDisconnects : List String := ["fail_off", "hold_last", "ignore"]
def interlockKinds : List String := ["start_gate", "trip"]
def interlockConditions : List String :=
  ["door_open", "estop", "lid_open", "flow_ok", "authorized", "auth_expired", "draw_over", "module_offline"]
def interlockResets : List String := ["re_auth", "operator_ack", "auto"]
def enforcements : List String := ["firmware", "edge", "server"]
def deviceRoles : List String := ["reader", "power", "sensor", "edge", "kiosk", "strike"]

def oneOf (value : String) (allowed : List String) (field : String) : Except ApiError String :=
  if value ∈ allowed then .ok value
  else .error (.badRequest (field ++ " must be one of: " ++ ", ".intercalate allowed))

structure SpaceDevice (Json : Type) where
  capabilities : Json
  deleted : Bool

structure WiredBinding (Uuid Json : Type) where
  id : Uuid
  resourceId : Uuid
  deviceId : Uuid
  role : String
  name : String
  params : Json
  onDisconnect : String
  startStage : Int
  startDelayMs : Int
  runOnMs : Int
  pulseMs : Int
  holdOpenAccess : Bool

structure WiredInterlock (Uuid : Type) where
  id : Uuid
  toolId : Uuid
  kind : String
  condition : String
  sourceModuleId : Option Uuid
  debounceMs : Int
  latch : Bool
  reset : String
  enforcement : String
  enabled : Bool

/-- A code that one device may register with. -/
structure DeviceInvite where
  expiresAt : Int
  used : Bool

/-- The wiring's tables. The tools and the other resources stay as they are. -/
structure Wiring (Uuid Json : Type) where
  resources : List Uuid
  tools : List Uuid
  devices : Table Uuid (SpaceDevice Json)
  invites : Table String DeviceInvite
  bindings : List (WiredBinding Uuid Json)
  interlocks : List (WiredInterlock Uuid)

structure CreateModuleRequest (Uuid Json : Type) where
  resourceId : Uuid
  deviceId : Uuid
  role : String
  name : String
  params : Option Json
  onDisconnect : Option String
  startStage : Option Int
  startDelayMs : Option Int
  runOnMs : Option Int
  pulseMs : Option Int
  holdOpenAccess : Option Bool

structure CreateInterlockRequest (Uuid : Type) where
  toolId : Uuid
  kind : String
  condition : String
  sourceModuleId : Option Uuid
  debounceMs : Option Int
  latch : Option Bool
  reset : Option String
  enforcement : Option String
  enabled : Option Bool

structure RegisterDeviceRequest (Json : Type) where
  deviceCode : String
  capabilities : Json
  platform : String

/-- How a device's stored declaration reads; what does not parse reads as the default, which
declares nothing. -/
structure CapabilityFormat (Json : Type) where
  fromValue : Json → DeviceCapabilities
  emptyObject : Json

/-- A timing is set only on what switches power. -/
def checkTiming (role field : String) (value : Int) : Except ApiError Unit :=
  if value < 0 then .error (.badRequest (field ++ " must not be negative"))
  else if value ≠ 0 ∧ role ≠ "power" then
    .error (.badRequest (field ++ " applies only to a 'power' binding; this one is '" ++ role ++ "'"))
  else .ok ()

/-- The strike profile is set only on what releases a latch, and there the pulse is required. -/
def checkStrike (role : String) (pulseMs : Option Int) (holdOpenAccess : Option Bool) : Except ApiError Unit :=
  if role = "strike" then
    if pulseMs.getD 0 ≤ 0 then
      .error (.badRequest "a 'strike' binding needs pulse_ms: how long the latch is released, in milliseconds")
    else if 60000 < pulseMs.getD 0
      then .error (.badRequest "pulse_ms is milliseconds and may not exceed 60000 (one minute)")
    else .ok ()
  else if pulseMs.isSome then
    .error (.badRequest ("pulse_ms applies only to a 'strike' binding; this one is '" ++ role ++ "'"))
  else if holdOpenAccess.isSome then
    .error (.badRequest ("hold_open_access applies only to a 'strike' binding; this one is '" ++ role ++ "'"))
  else .ok ()

/-- Unstated, a policy is the one that holds nothing on; a reader and a strike hold nothing. -/
def onDisconnectOf (role : String) : Option String → Except ApiError String
  | some v => oneOf v onDisconnects "on_disconnect"
  | none => .ok (if role = "reader" ∨ role = "strike" then "ignore" else "fail_off")

/-- The tier has to be achievable with the hardware there is. -/
def checkEnforcement (enforce condition : String) (modules : List ModuleCapabilities) : Except ApiError Unit :=
  if enforce = "firmware" then (firmwareEnforcementAchievable condition modules).mapError .badRequest else .ok ()

def checkRoles (roles : List String) : Except ApiError Unit :=
  match roles.find? fun role => role ∉ deviceRoles with
  | some role =>
    .error (.badRequest ("unknown device role '" ++ role ++ "'; must be one of: " ++ ", ".intercalate deviceRoles))
  | none => .ok ()

namespace Wiring
variable {Uuid Json : Type} [DecidableEq Uuid] (format : CapabilityFormat Json) (w : Wiring Uuid Json)

def spaceDeviceCapabilities (deviceId : Uuid) : Option Json :=
  ((w.devices deviceId).filter fun device => !device.deleted).map (·.capabilities)

def listToolModulesForTool (toolId : Uuid) : List (WiredBinding Uuid Json) :=
  w.bindings.filter fun binding => binding.resourceId = toolId

/-- What the live devices bound to a tool declare. -/
def boundCapabilities (toolId : Uuid) : List ModuleCapabilities :=
  (w.listToolModulesForTool toolId).filterMap fun m =>
    (w.spaceDeviceCapabilities m.deviceId).map fun v => (format.fromValue v).module_

/-- A new binding, but not a second coordinator of a resource. -/
def createToolModule (binding : WiredBinding Uuid Json) : Except DbError (Wiring Uuid Json) :=
  if w.bindings.any fun other => other.id = binding.id then .error .uniqueViolation
  else if binding.role = "edge" ∧ w.bindings.any fun other => other.resourceId = binding.resourceId ∧
    other.role = "edge" then
    .error .uniqueViolation
  else .ok { w with bindings := w.bindings ++ [binding] }

/-- The rules that a binding was the source of go with it. -/
def deleteToolModule (id : Uuid) : Wiring Uuid Json :=
  { w with bindings := w.bindings.filter fun binding => binding.id ≠ id
           interlocks := w.interlocks.filter fun rule => rule.sourceModuleId ≠ some id }

def createToolInterlock (rule : WiredInterlock Uuid) : Except DbError (Wiring Uuid Json) :=
  if w.interlocks.any fun other => other.id = rule.id then .error .uniqueViolation
  else .ok { w with interlocks := w.interlocks ++ [rule] }

def createModule (id : Uuid) (req : CreateModuleRequest Uuid Json) : Except ApiError (Wiring Uuid Json) := do
  let role ← oneOf req.role bindingRoles "role"
  let onDisc ← onDisconnectOf role req.onDisconnect
  demand (trim req.name ≠ "") (.badRequest "name is required")
  checkTiming role "start_stage" (req.startStage.getD 0)
  checkTiming role "start_delay_ms" (req.startDelayMs.getD 0)
  checkTiming role "run_on_ms" (req.runOnMs.getD 0)
  demand (req.startDelayMs.getD 0 ≤ 3600000 ∧ req.runOnMs.getD 0 ≤ 3600000)
    (.badRequest "start_delay_ms and run_on_ms are milliseconds and may not exceed 3600000 (one hour)")
  checkStrike role req.pulseMs req.holdOpenAccess
  demand (req.resourceId ∈ w.resources) (.badRequest "resource_id does not exist")
  let v ← orError (w.spaceDeviceCapabilities req.deviceId) (.badRequest "device_id does not exist")
  let roles := (format.fromValue v).roles
  demand (role ∈ roles)
    (.badRequest ("device does not declare the '" ++ role ++ "' role (declares: " ++
      (if roles = [] then "none" else ", ".intercalate roles) ++ ")"))
  (w.createToolModule
    { id
      resourceId := req.resourceId
      deviceId := req.deviceId
      role
      name := trim req.name
      params := req.params.getD format.emptyObject
      onDisconnect := onDisc
      startStage := req.startStage.getD 0
      startDelayMs := req.startDelayMs.getD 0
      runOnMs := req.runOnMs.getD 0
      pulseMs := req.pulseMs.getD 0
      holdOpenAccess := req.holdOpenAccess.getD true }).mapError .ofDb

def deleteModule (id : Uuid) : Except ApiError (Wiring Uuid Json) :=
  if w.bindings.any fun binding => binding.id = id then .ok (w.deleteToolModule id)
  else .error (.notFound "Tool module not found")

def createInterlock (id : Uuid) (req : CreateInterlockRequest Uuid) : Except ApiError (Wiring Uuid Json) := do
  let kind ← oneOf req.kind interlockKinds "kind"
  let condition ← oneOf req.condition interlockConditions "condition"
  let reset ← oneOf (req.reset.getD "re_auth") interlockResets "reset"
  let enforce ← oneOf (req.enforcement.getD "edge") enforcements "enforcement"
  demand (0 ≤ req.debounceMs.getD 0) (.badRequest "debounce_ms must not be negative")
  demand (req.toolId ∈ w.tools) (.badRequest "tool_id does not exist")
  demand (∀ src ∈ req.sourceModuleId, (w.listToolModulesForTool req.toolId).any fun m => m.id = src)
    (.badRequest "source_module_id is not a module of this tool")
  checkEnforcement enforce condition (w.boundCapabilities format req.toolId)
  (w.createToolInterlock
    { id
      toolId := req.toolId
      kind
      condition
      sourceModuleId := req.sourceModuleId
      debounceMs := req.debounceMs.getD 0
      latch := req.latch.getD true
      reset
      enforcement := enforce
      enabled := req.enabled.getD true }).mapError .ofDb

def deleteInterlock (id : Uuid) : Except ApiError (Wiring Uuid Json) :=
  if w.interlocks.any fun rule => rule.id = id then
    .ok { w with interlocks := w.interlocks.filter fun rule => rule.id ≠ id }
  else .error (.notFound "Tool interlock not found")

/-- The roles a device declares are checked before its code is claimed. -/
def registerDevice (id : Uuid) (now : Int) (req : RegisterDeviceRequest Json) :
    Except ApiError (Wiring Uuid Json) := do
  let roles := (format.fromValue req.capabilities).roles
  demand (roles ≠ []) (.badRequest "capabilities.roles must declare at least one role")
  checkRoles roles
  let invite ← orError (w.invites req.deviceCode) (.badRequest "Invalid device code")
  demand (invite.used = false) (.badRequest "Device code has already been used")
  demand (now ≤ invite.expiresAt) (.badRequest "Device code has expired")
  demand (req.platform.toLower ∈ ["windows", "linux", "macos", "other"]) (.badRequest "Invalid platform")
  demand (w.devices id = none) (.ofDb .uniqueViolation)
  return { w with
    invites := w.invites.insert req.deviceCode { invite with used := true }
    devices := w.devices.insert id { capabilities := req.capabilities, deleted := false } }

/-- The row stays, and with it the bindings that name the device. -/
def deleteDevice (id : Uuid) : Except ApiError (Wiring Uuid Json) :=
  match (w.devices id).filter fun device => !device.deleted with
  | none => .error (.notFound "Device not found")
  | some device => .ok { w with devices := w.devices.insert id { device with deleted := true } }

end Wiring

inductive WiringEvent (Uuid Json : Type)
  | createModule (id : Uuid) (req : CreateModuleRequest Uuid Json)
  | deleteModule (id : Uuid)
  | createInterlock (id : Uuid) (req : CreateInterlockRequest Uuid)
  | deleteInterlock (id : Uuid)
  | registerDevice (id : Uuid) (now : Int) (req : RegisterDeviceRequest Json)
  | deleteDevice (id : Uuid)

namespace Wiring
variable {Uuid Json : Type} [DecidableEq Uuid] (format : CapabilityFormat Json) (w : Wiring Uuid Json)

def serve : WiringEvent Uuid Json → Except ApiError (Wiring Uuid Json)
  | .createModule id req => w.createModule format id req
  | .deleteModule id => w.deleteModule id
  | .createInterlock id req => w.createInterlock format id req
  | .deleteInterlock id => w.deleteInterlock id
  | .registerDevice id now req => w.registerDevice format id now req
  | .deleteDevice id => w.deleteDevice id

/-- A request that is refused changes nothing. -/
def step (event : WiringEvent Uuid Json) : Wiring Uuid Json × Except ApiError Unit :=
  match w.serve format event with
  | .ok after => (after, .ok ())
  | .error e => (w, .error e)

/-- Of a rule that is enforced in firmware: it can be by what is bound to its tool. -/
def Achieved (rule : WiredInterlock Uuid) : Prop :=
  rule.enabled = true → rule.enforcement = "firmware" →
    firmwareEnforcementAchievable rule.condition (w.boundCapabilities format rule.toolId) = .ok ()

/-- A rule's source is a binding of its own tool. -/
def Sourced (rule : WiredInterlock Uuid) : Prop :=
  ∀ src, rule.sourceModuleId = some src → ∃ binding ∈ w.bindings, binding.id = src ∧ binding.resourceId = rule.toolId

def RulesHold : Prop := ∀ rule ∈ w.interlocks, w.Achieved format rule ∧ w.Sourced rule

/-- By what its live device declares, a binding enforces a condition on its own. -/
def Enforces (binding : WiredBinding Uuid Json) (condition : String) : Prop :=
  ∃ v, w.spaceDeviceCapabilities binding.deviceId = some v ∧
    (format.fromValue v).module_.canEnforceLocally condition = true

/-- A deletion leaves every firmware rule that stays another binding of its tool that enforces it. -/
def LeavesAnEnforcer : WiringEvent Uuid Json → Prop
  | .deleteModule id =>
    ∀ rule ∈ w.interlocks, rule.enabled = true → rule.enforcement = "firmware" → rule.sourceModuleId ≠ some id →
      ∃ binding ∈ w.bindings, binding.id ≠ id ∧ binding.resourceId = rule.toolId ∧
        w.Enforces format binding rule.condition
  | .deleteDevice id => ∀ rule ∈ w.interlocks, rule.enabled = true → rule.enforcement = "firmware" →
      ∃ binding ∈ w.bindings, binding.deviceId ≠ id ∧ binding.resourceId = rule.toolId ∧
        w.Enforces format binding rule.condition
  | _ => True

variable {format w} {w' : Wiring Uuid Json}

theorem achievable_iff {condition : String} {modules : List ModuleCapabilities} :
    firmwareEnforcementAchievable condition modules = .ok () ↔
      ∃ m ∈ modules, m.canEnforceLocally condition = true := by
  unfold firmwareEnforcementAchievable
  rw [← List.any_eq_true]
  split
  next able => simp [able]
  next unable => simp [unable]

variable {event : WiringEvent Uuid Json} {rule : WiredInterlock Uuid}

theorem achieved_iff : w.Achieved format rule ↔
    (rule.enabled = true → rule.enforcement = "firmware" →
      ∃ binding ∈ w.bindings, binding.resourceId = rule.toolId ∧ w.Enforces format binding rule.condition) := by
  unfold Achieved
  rw [achievable_iff]
  have bound : (∃ m ∈ w.boundCapabilities format rule.toolId, m.canEnforceLocally rule.condition = true) ↔
      ∃ binding ∈ w.bindings, binding.resourceId = rule.toolId ∧ w.Enforces format binding rule.condition := by
    simp only [boundCapabilities, listToolModulesForTool, List.mem_filterMap, List.mem_filter, Option.map_eq_some_iff,
      decide_eq_true_eq, Enforces]
    constructor
    · rintro ⟨m, ⟨binding, ⟨member, ofTool⟩, v, declared, rfl⟩, enforces⟩
      exact ⟨binding, member, ofTool, v, declared, enforces⟩
    · rintro ⟨binding, member, ofTool, v, declared, enforces⟩
      exact ⟨_, ⟨binding, ⟨member, ofTool⟩, v, declared, rfl⟩, enforces⟩
  rw [bound]

theorem createModule_spec (id : Uuid) (req : CreateModuleRequest Uuid Json) :
    Ensures (w.createModule format id req) fun w' => ∃ binding,
      w' = { w with bindings := w.bindings ++ [binding] } := by
  unfold createModule
  refine ensures_bind fun role _ => ensures_bind fun onDisc _ => ensures_demand fun _ => ?_
  refine ensures_bind fun _ _ => ensures_bind fun _ _ => ensures_bind fun _ _ => ensures_demand fun _ => ?_
  refine ensures_bind fun _ _ => ensures_demand fun _ => ensures_orError fun v _ => ensures_demand fun _ => ?_
  refine ensures_mapError ?_
  unfold createToolModule
  split
  · exact ensures_error _
  · split
    · exact ensures_error _
    · exact ensures_ok ⟨_, rfl⟩

/-- A new rule is one the bindings there are can enforce. -/
theorem createInterlock_spec (id : Uuid) (req : CreateInterlockRequest Uuid) :
    Ensures (w.createInterlock format id req) fun w' =>
      ∃ rule, w' = { w with interlocks := w.interlocks ++ [rule] } ∧ w.Achieved format rule ∧ w.Sourced rule := by
  unfold createInterlock
  refine ensures_bind fun kind _ => ensures_bind fun condition _ => ensures_bind fun reset _ =>
    ensures_bind fun enforce _ => ?_
  refine ensures_demand fun _ => ensures_demand fun _ => ensures_demand fun sourced =>
    ensures_bind fun _ achievable => ?_
  refine ensures_mapError ?_
  unfold createToolInterlock
  split
  · exact ensures_error _
  · refine ensures_ok ⟨_, rfl, ?_, ?_⟩
    · intro _ firmware
      rw [checkEnforcement, if_pos firmware] at achievable
      exact ok_of_mapError achievable
    · intro src isSource
      obtain ⟨binding, member, same⟩ := List.any_eq_true.mp (sourced src isSource)
      obtain ⟨inBindings, ofTool⟩ := List.mem_filter.mp member
      exact ⟨binding, inBindings, of_decide_eq_true same, of_decide_eq_true ofTool⟩

theorem registerDevice_spec (id : Uuid) (now : Int) (req : RegisterDeviceRequest Json) :
    Ensures (w.registerDevice format id now req) fun w' => w.devices id = none ∧ ∃ invites device,
      w' = { w with invites := invites, devices := w.devices.insert id device } := by
  unfold registerDevice
  refine ensures_demand fun _ => ensures_bind fun _ _ => ensures_orError fun invite _ => ?_
  refine ensures_demand fun _ => ensures_demand fun _ => ensures_demand fun _ => ensures_demand fun new => ?_
  exact ensures_ok ⟨new, _, _, rfl⟩

theorem deleteDevice_spec (id : Uuid) : Ensures (w.deleteDevice id) fun w' => ∃ device, w.devices id = some device ∧
    w' = { w with devices := w.devices.insert id { device with deleted := true } } := by
  unfold deleteDevice
  split
  · exact ensures_error _
  next device found => exact ensures_ok ⟨device, (Option.filter_eq_some_iff.mp found).1, rfl⟩

theorem step_of_ok (ran : w.serve format event = .ok w') : (w.step format event).1 = w' := by
  rw [step, ran]

theorem step_of_error {e : ApiError} (refused : w.serve format event = .error e) : (w.step format event).1 = w := by
  rw [step, refused]

theorem Achieved.mono (achieved : w.Achieved format rule) (bindings : w.bindings ⊆ w'.bindings)
    (devices : ∀ id v, w.spaceDeviceCapabilities id = some v → w'.spaceDeviceCapabilities id = some v) :
    w'.Achieved format rule := by
  rw [achieved_iff] at achieved ⊢
  intro enabled firmware
  obtain ⟨binding, member, ofTool, v, declared, enforces⟩ := achieved enabled firmware
  exact ⟨binding, bindings member, ofTool, v, devices _ v declared, enforces⟩

omit [DecidableEq Uuid] in
theorem Sourced.mono (sourced : w.Sourced rule) (bindings : w.bindings ⊆ w'.bindings) : w'.Sourced rule := by
  intro src isSource
  obtain ⟨binding, member, same⟩ := sourced src isSource
  exact ⟨binding, bindings member, same⟩

theorem RulesHold.mono (hold : w.RulesHold format) (bindings : w.bindings ⊆ w'.bindings)
    (devices : ∀ id v, w.spaceDeviceCapabilities id = some v → w'.spaceDeviceCapabilities id = some v)
    (rules : ∀ rule ∈ w'.interlocks, rule ∈ w.interlocks) : w'.RulesHold format := by
  intro rule member
  obtain ⟨achieved, sourced⟩ := hold rule (rules rule member)
  exact ⟨achieved.mono bindings devices, sourced.mono bindings⟩

/-- After a binding has gone the sources are still their tools': the rules that had it as theirs went with it. -/
theorem rulesHold_deleteModule (id : Uuid) (hold : w.RulesHold format) :
    (w.deleteToolModule id).RulesHold format ↔ w.LeavesAnEnforcer format (.deleteModule id) := by
  constructor
  · intro after rule member enabled firmware notSource
    have stays : rule ∈ (w.deleteToolModule id).interlocks := List.mem_filter.mpr ⟨member, decide_eq_true notSource⟩
    obtain ⟨binding, inRest, ofTool, enforces⟩ := achieved_iff.mp (after rule stays).1 enabled firmware
    obtain ⟨inBindings, other⟩ := List.mem_filter.mp inRest
    exact ⟨binding, inBindings, of_decide_eq_true other, ofTool, enforces⟩
  · intro leaves rule member
    obtain ⟨inRules, notSource⟩ := List.mem_filter.mp member
    constructor
    · rw [achieved_iff]
      intro enabled firmware
      obtain ⟨binding, inBindings, other, ofTool, enforces⟩ :=
        leaves rule inRules enabled firmware (of_decide_eq_true notSource)
      exact ⟨binding, List.mem_filter.mpr ⟨inBindings, decide_eq_true other⟩, ofTool, enforces⟩
    · intro src isSource
      obtain ⟨binding, inBindings, same, ofTool⟩ := (hold rule inRules).2 src isSource
      have other : binding.id ≠ id := by
        rintro rfl
        exact of_decide_eq_true notSource (same ▸ isSource)
      exact ⟨binding, List.mem_filter.mpr ⟨inBindings, decide_eq_true other⟩, same, ofTool⟩

theorem spaceDeviceCapabilities_insert (id : Uuid) (device : SpaceDevice Json) (other : Uuid) :
    spaceDeviceCapabilities { w with devices := w.devices.insert id device } other =
      if other = id then (if device.deleted then none else some device.capabilities)
        else w.spaceDeviceCapabilities other := by
  simp only [spaceDeviceCapabilities, Table.insert_apply]
  split
  · rcases device with ⟨capabilities, _ | _⟩
    · rfl
    · rfl
  · rfl

theorem rulesHold_deleteDevice (id : Uuid) (device : SpaceDevice Json) (hold : w.RulesHold format) :
    RulesHold format { w with devices := w.devices.insert id { device with deleted := true } } ↔
      w.LeavesAnEnforcer format (.deleteDevice id) := by
  constructor
  · intro after rule member enabled firmware
    obtain ⟨binding, inBindings, ofTool, v, declared, enforces⟩ :=
      achieved_iff.mp (after rule member).1 enabled firmware
    rw [spaceDeviceCapabilities_insert] at declared
    split at declared
    · cases declared
    next other => exact ⟨binding, inBindings, other, ofTool, v, declared, enforces⟩
  · intro leaves rule member
    refine ⟨achieved_iff.mpr fun enabled firmware => ?_, (hold rule member).2⟩
    obtain ⟨binding, inBindings, other, ofTool, v, declared, enforces⟩ := leaves rule member enabled firmware
    refine ⟨binding, inBindings, ofTool, v, ?_, enforces⟩
    rw [spaceDeviceCapabilities_insert, if_neg other]
    exact declared

/-- A deletion that finds nothing takes no enforcer away. -/
theorem leaves_of_refused {e : ApiError} (refused : w.serve format event = .error e) (hold : w.RulesHold format) :
    w.LeavesAnEnforcer format event := by
  have enforcer : ∀ rule ∈ w.interlocks, rule.enabled = true → rule.enforcement = "firmware" →
      ∃ binding ∈ w.bindings, binding.resourceId = rule.toolId ∧ w.Enforces format binding rule.condition :=
    fun rule member => achieved_iff.mp (hold rule member).1
  cases event with
  | deleteModule id =>
    intro rule member enabled firmware _
    obtain ⟨binding, inBindings, ofTool, enforces⟩ := enforcer rule member enabled firmware
    refine ⟨binding, inBindings, ?_, ofTool, enforces⟩
    rintro rfl
    have found : (w.bindings.any fun other => other.id = binding.id) = true :=
      List.any_eq_true.mpr ⟨binding, inBindings, decide_eq_true rfl⟩
    rw [serve, deleteModule, if_pos found] at refused
    cases refused
  | deleteDevice id =>
    intro rule member enabled firmware
    obtain ⟨binding, inBindings, ofTool, v, declared, enforces⟩ := enforcer rule member enabled firmware
    refine ⟨binding, inBindings, ?_, ofTool, v, declared, enforces⟩
    rintro rfl
    obtain ⟨device, live, -⟩ := Option.map_eq_some_iff.mp declared
    rw [serve, deleteDevice, live] at refused
    cases refused
  | createModule id req => trivial
  | createInterlock id req => trivial
  | deleteInterlock id => trivial
  | registerDevice id now req => trivial

/-- A request keeps the rules enforced exactly if, being a deletion, it leaves each an enforcer. -/
theorem rulesHold_step_iff (event : WiringEvent Uuid Json) (hold : w.RulesHold format) :
    (w.step format event).1.RulesHold format ↔ w.LeavesAnEnforcer format event := by
  rcases ran : w.serve format event with e | after
  · rw [step_of_error ran]
    exact iff_of_true hold (leaves_of_refused ran hold)
  rw [step_of_ok ran]
  cases event with
  | createModule id req =>
    obtain ⟨binding, rfl⟩ := createModule_spec id req after ran
    exact iff_of_true (hold.mono (List.subset_append_left _ _) (fun _ _ declared => declared) fun _ member =>
      member) trivial
  | deleteModule id =>
    simp only [serve, deleteModule] at ran
    split at ran
    · obtain rfl := Except.ok.inj ran
      exact rulesHold_deleteModule id hold
    · cases ran
  | createInterlock id req =>
    obtain ⟨rule, rfl, achieved, sourced⟩ := createInterlock_spec id req after ran
    refine iff_of_true (fun other member => ?_) trivial
    rcases List.mem_append.mp member with old | new
    · exact hold other old
    · obtain rfl := List.mem_singleton.mp new
      exact ⟨achieved, sourced⟩
  | deleteInterlock id =>
    simp only [serve, deleteInterlock] at ran
    split at ran
    · obtain rfl := Except.ok.inj ran
      exact iff_of_true (hold.mono (fun _ member => member) (fun _ _ declared => declared)
        fun _ member => (List.mem_filter.mp member).1) trivial
    · cases ran
  | registerDevice id now req =>
    obtain ⟨new, invites, device, rfl⟩ := registerDevice_spec id now req after ran
    refine iff_of_true (hold.mono (fun _ member => member) (fun other v declared => ?_) fun _ member => member)
      trivial
    have known : other ≠ id := by
      rintro rfl
      rw [spaceDeviceCapabilities, new] at declared
      cases declared
    have kept := spaceDeviceCapabilities_insert (w := w) id device other
    rw [if_neg known] at kept
    exact kept.trans declared
  | deleteDevice id =>
    obtain ⟨device, -, rfl⟩ := deleteDevice_spec id after ran
    exact rulesHold_deleteDevice id device hold

end Wiring

/-- The wiring of some tools from nothing. -/
def wiringMachine {Uuid Json : Type} [DecidableEq Uuid] (format : CapabilityFormat Json) (resources tools : List Uuid)
    (invites : Table String DeviceInvite) :
    Machine (Wiring Uuid Json) (WiringEvent Uuid Json) (Except ApiError Unit) where
  start := { resources, tools, devices := Table.empty, invites, bindings := [], interlocks := [] }
  step := Wiring.step format

/-- Every enabled rule of the firmware tier stays achievable, and every source a binding of its tool, exactly as
long as each binding or device that is deleted leaves the rules of its tools another enforcer. -/
theorem firmware_rules_stay_achievable_iff {Uuid Json : Type} [DecidableEq Uuid] (format : CapabilityFormat Json)
    (resources tools : List Uuid) (invites : Table String DeviceInvite) (events : List (WiringEvent Uuid Json)) :
    (∀ past, past <+: events → ((wiringMachine format resources tools invites).run past).RulesHold format) ↔
      EveryStep (fun past event => ((wiringMachine format resources tools invites).run past).LeavesAnEnforcer
        format event) events := by
  refine (wiringMachine format resources tools invites).run_always_iff (fun w => w.RulesHold format)
    (fun w event => w.LeavesAnEnforcer format event) ?_ ?_ events
  · rintro rule (member : rule ∈ [])
    cases member
  · exact fun past event hold => Wiring.rulesHold_step_iff event hold

def plainFormat : CapabilityFormat DeviceCapabilities where
  fromValue := id
  emptyObject := ⟨[], ⟨[], false⟩⟩

/-- A laser with one plug, which senses its lid and cuts it off by itself. -/
def laserWired : List (WiringEvent Nat DeviceCapabilities) :=
  [.registerDevice 1 0 ⟨"code", ⟨["power"], ⟨["lid_open"], true⟩⟩, "linux"⟩,
    .createModule 2 ⟨7, 1, "power", "plug", none, none, none, none, none, none, none⟩,
    .createInterlock 3 ⟨7, "trip", "lid_open", none, none, none, none, some "firmware", none⟩]

/-- Its plug unbound, or the plug's device deleted, the laser keeps a firmware rule that nothing enforces. -/
theorem unbound_laser_keeps_its_rule :
    let laser := wiringMachine plainFormat [7] [7] (Table.empty.insert "code" ⟨1, false⟩)
    ¬ (laser.run (laserWired ++ [.deleteModule 2])).RulesHold plainFormat ∧
      ¬ (laser.run (laserWired ++ [.deleteDevice 1])).RulesHold plainFormat := by
  intro laser
  have broken : ∀ w : Wiring Nat DeviceCapabilities,
      (w.interlocks.any fun rule => rule.enabled && decide (rule.enforcement = "firmware") &&
        decide (w.boundCapabilities plainFormat rule.toolId = [])) = true → ¬ w.RulesHold plainFormat := by
    intro w some_ hold
    obtain ⟨rule, member, holds⟩ := List.any_eq_true.mp some_
    simp only [Bool.and_eq_true, decide_eq_true_eq] at holds
    obtain ⟨⟨enabled, firmware⟩, nothing⟩ := holds
    have achieved := (hold rule member).1 enabled firmware
    rw [nothing] at achieved
    cases achieved
  exact ⟨broken _ (by decide +kernel), broken _ (by decide +kernel)⟩

end CoopSpaces

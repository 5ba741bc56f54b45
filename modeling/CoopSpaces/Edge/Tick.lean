import CoopSpaces.Edge.Evaluate
import CoopSpaces.Lib.Machine

namespace CoopSpaces

structure Pass where
  wiring : ToolModuleTool
  now : Int
  decision : Decision
  power : List (DeviceBinding × LeaseAction)
  sensors : List (DeviceBinding × LeaseAction)
  deriving DecidableEq

def Pass.actions (p : Pass) : List LeaseAction := p.power.map (·.2) ++ p.sensors.map (·.2)

/-- Stage, then name: the order of the commands. -/
def byStage (a b : DeviceBinding) : Prop :=
  a.startStage < b.startStage ∨ (a.startStage = b.startStage ∧ a.name ≤ b.name)

instance : DecidableRel byStage := fun a b =>
  inferInstanceAs (Decidable (a.startStage < b.startStage ∨ (a.startStage = b.startStage ∧ a.name ≤ b.name)))

def powerBindings (wiring : ToolModuleTool) : List DeviceBinding :=
  (wiring.modules.filter fun m => m.role == "power").insertionSort byStage

def sensorBindings (wiring : ToolModuleTool) : List DeviceBinding :=
  (wiring.modules.filter fun m => m.role == "sensor").insertionSort fun a b => a.name ≤ b.name

namespace ModuleState

/-- When a binding's device last confirmed its relay closed, if that
confirmation is not older than `since`. -/
def confirmedOnAt (s : ModuleState) (binding : DeviceBinding) (since : Int) : Option Int :=
  match s.relayState binding.deviceId with
  | some (true, at_) => if at_ ≥ since then some at_ else none
  | _ => none

def confirmedBase (s : ModuleState) (since base : Int) : List DeviceBinding → Option Int
  | [] => some base
  | earlier :: rest =>
    match s.confirmedOnAt earlier since with
    | some at_ => confirmedBase s since (max base at_) rest
    | none => none

/-- The instant a binding's own delay counts from. -/
def startBase (s : ModuleState) (power : List DeviceBinding) (since : Int) (b : DeviceBinding) :
    Option Int :=
  let firstStage := ((power.map (·.startStage)).min?).getD 0
  if b.startStage ≤ firstStage then some since
  else s.confirmedBase since since (power.filter fun earlier => decide (earlier.startStage < b.startStage))

def started (s : ModuleState) (power : List DeviceBinding) (since now : Int) (b : DeviceBinding) :
    Bool :=
  (s.startBase power since b).any fun base => decide (base + milliseconds (max b.startDelayMs 0) ≤ now)

def allowedAt (s : ModuleState) (wiring : ToolModuleTool) (now : Int) : Int :=
  (s.allowedSince wiring.toolId).getD now

def startedBindings (s : ModuleState) (wiring : ToolModuleTool) (now : Int) : List DeviceBinding :=
  let power := powerBindings wiring
  power.filter (s.started power (s.allowedAt wiring now) now)

def allowTool (s : ModuleState) (wiring : ToolModuleTool) (now : Int) : ModuleState :=
  { s with
    allowedSince := s.allowedSince.orInsert wiring.toolId now
    runOnUntil := s.runOnUntil.eraseAll ((powerBindings wiring).map (·.id))
    grantedSince := (s.startedBindings wiring now).foldl (fun t b => t.orInsert b.id now) s.grantedSince }

def lease (tool : String) (ttlMs : Int) (grant : Bool) (reason : Option Denial) (b : DeviceBinding) :
    DeviceBinding × LeaseAction :=
  (b, ⟨tool, b.deviceId, grant, ttlMs, reason⟩)

def allowPass (s : ModuleState) (tool : String) (wiring : ToolModuleTool) (now : Int) (ttlMs : Int) :
    Pass where
  wiring := wiring
  now := now
  decision := .allow
  power := (s.startedBindings wiring now).map (lease tool ttlMs true none)
  sensors := (sensorBindings wiring).map (lease tool ttlMs true none)

/-- The transition to denied: run-on is for what was actually on. -/
def openRunOn (s : ModuleState) (power : List DeviceBinding) (now : Int) : Table String Int :=
  power.foldl (fun t b =>
    if b.runOnMs > 0 ∧ (s.grantedSince b.id).isSome then t.insert b.id (now + milliseconds b.runOnMs)
    else t) s.runOnUntil

def runOnWindows (s : ModuleState) (wiring : ToolModuleTool) (now : Int) : Table String Int :=
  if (s.allowedSince wiring.toolId).isSome then s.openRunOn (powerBindings wiring) now else s.runOnUntil

def runningOn (s : ModuleState) (wiring : ToolModuleTool) (now : Int) (b : DeviceBinding) : Bool :=
  (s.runOnWindows wiring now b.id).any fun until_ => decide (now < until_)

/-- What a denying pass leaves behind. The source's loop forgets bindings as it
goes; what it forgets was not running on, so no later answer of it changes. -/
def denyTool (s : ModuleState) (wiring : ToolModuleTool) (now : Int) : ModuleState :=
  let stopped := ((powerBindings wiring).filter fun b => !s.runningOn wiring now b).map (·.id)
  { s with
    allowedSince := s.allowedSince.erase wiring.toolId
    runOnUntil := (s.runOnWindows wiring now).eraseAll stopped
    grantedSince := s.grantedSince.eraseAll stopped }

def denyPass (s : ModuleState) (tool : String) (wiring : ToolModuleTool) (denial : Denial)
    (now : Int) (ttlMs : Int) : Pass where
  wiring := wiring
  now := now
  decision := .deny denial
  power := (powerBindings wiring).map fun b =>
    if s.runningOn wiring now b then lease tool ttlMs true none b
    else lease tool ttlMs false (some denial) b
  sensors := (sensorBindings wiring).map (lease tool ttlMs false (some denial))

/-- One tool's turn in a tick, in the order the source takes it: renew, find the
wiring again, answer every binding. -/
def tickTool (s : ModuleState) (tool : String) (now : Int) (ttl moduleTimeout : Int) :
    ModuleState × Option Pass :=
  let renewed := (s.renew tool now ttl moduleTimeout).1
  let ttlMs := max (numMilliseconds ttl) 0
  match renewed.wiring tool with
  | none => (renewed, none)
  | some wiring =>
    match (s.renew tool now ttl moduleTimeout).2 with
    | .allow => (renewed.allowTool wiring now, some (renewed.allowPass tool wiring now ttlMs))
    | .deny denial => (renewed.denyTool wiring now, some (renewed.denyPass tool wiring denial now ttlMs))

def tickTools (s : ModuleState) (now : Int) (ttl moduleTimeout : Int) :
    List String → ModuleState × List Pass
  | [] => (s, [])
  | tool :: rest =>
    let first := s.tickTool tool now ttl moduleTimeout
    let others := first.1.tickTools now ttl moduleTimeout rest
    (others.1, first.2.toList ++ others.2)

def tickPasses (s : ModuleState) (now : Int) (ttl moduleTimeout : Int) : ModuleState × List Pass :=
  s.tickTools now ttl moduleTimeout s.tools

def tick (s : ModuleState) (now : Int) (ttl moduleTimeout : Int) : ModuleState × List LeaseAction :=
  let passes := s.tickPasses now ttl moduleTimeout
  (passes.1, passes.2.flatMap Pass.actions)

end ModuleState

inductive Call
  | applyState (payload : ToolModuleStatePayload) (requestedAt : Option Int) (now : Int)
  | observe (toolId condition : String) (asserted : Bool) (now : Int)
  | noteModuleSeen (moduleId : String) (now : Int)
  | noteDeviceSeen (deviceId : String) (now : Int)
  | noteRelayState (deviceId : String) (relayOn : Bool) (now : Int)
  | openSession (resource : String) (now : Int) (endsAt : Option Int)
  | closeSession (resource : String) (now : Int)
  | setLocalSessionGrace (grace : Int)
  | reconcileSessions (inUseToolIds trackedToolIds : List String) (now asOf : Int)
  | resetLatch (toolId : String)
  | renew (tool : String) (now : Int) (ttl moduleTimeout : Int)
  | tick (now : Int) (ttl moduleTimeout : Int)
  deriving DecidableEq

def ModuleState.call (s : ModuleState) : Call → ModuleState
  | .applyState payload requestedAt now => s.applyStateAt payload requestedAt now
  | .observe toolId condition asserted now => s.observe toolId condition asserted now
  | .noteModuleSeen moduleId now => s.noteModuleSeen moduleId now
  | .noteDeviceSeen deviceId now => (s.noteDeviceSeen deviceId now).1
  | .noteRelayState deviceId relayOn now => s.noteRelayState deviceId relayOn now
  | .openSession resource now endsAt => s.openSession resource now endsAt
  | .closeSession resource now => s.closeSession resource now
  | .setLocalSessionGrace grace => s.setLocalSessionGrace grace
  | .reconcileSessions inUse tracked now asOf => s.reconcileSessions inUse tracked now asOf
  | .resetLatch toolId => s.resetLatch toolId
  | .renew tool now ttl moduleTimeout => (s.renew tool now ttl moduleTimeout).1
  | .tick now ttl moduleTimeout => (s.tick now ttl moduleTimeout).1

def ModuleState.passes (s : ModuleState) : Call → List Pass
  | .tick now ttl moduleTimeout => (s.tickPasses now ttl moduleTimeout).2
  | _ => []

def engine : Machine ModuleState Call (List Pass) where
  start := .new
  step s call := (s.call call, s.passes call)

def passLog (past : List Call) : List Pass := engine.history ModuleState.passes past

namespace ModuleState

theorem firstStage_le {power : List DeviceBinding} {b : DeviceBinding} (bound : b ∈ power) :
    ((power.map (·.startStage)).min?).getD 0 ≤ b.startStage := by
  have member : b.startStage ∈ power.map (·.startStage) := List.mem_map_of_mem bound
  rcases least : (power.map (·.startStage)).min? with _ | low
  · rw [List.min?_eq_none_iff] at least
    rw [least] at member
    cases member
  · rw [least, Option.getD_some]
    exact (List.min?_eq_some_iff.mp least).2 _ member

/-- What one tool's turn can do. The wiring is the one the renewal resolved:
a renewal leaves the snapshot alone. -/
theorem tickTool_cases (s : ModuleState) (tool : String) (now : Int) (ttl moduleTimeout : Int) :
    let renewed := (s.renew tool now ttl moduleTimeout).1
    let ttlMs := max (numMilliseconds ttl) 0
    (s.wiring tool = none ∧ s.tickTool tool now ttl moduleTimeout = (renewed, none)) ∨
    (∃ wiring, s.wiring tool = some wiring ∧ s.evaluate tool now moduleTimeout = .allow ∧
      s.tickTool tool now ttl moduleTimeout =
        (renewed.allowTool wiring now, some (renewed.allowPass tool wiring now ttlMs))) ∨
    (∃ wiring denial, s.wiring tool = some wiring ∧ s.evaluate tool now moduleTimeout = .deny denial ∧
      s.tickTool tool now ttl moduleTimeout =
        (renewed.denyTool wiring now, some (renewed.denyPass tool wiring denial now ttlMs))) := by
  intro renewed ttlMs
  have same : renewed.wiring tool = s.wiring tool :=
    (s.renew_sameInputs tool now ttl moduleTimeout).wiring tool
  rcases wired : s.wiring tool with _ | wiring
  · have unwired := same.trans wired
    exact .inl ⟨rfl, by simp only [tickTool, renewed, unwired]⟩
  · have found := same.trans wired
    rcases decision : s.evaluate tool now moduleTimeout with _ | denial
    · have answer := (s.renew_decision tool now ttl moduleTimeout).trans decision
      exact .inr (.inl ⟨wiring, rfl, rfl, by simp only [tickTool, renewed, ttlMs, found, answer]⟩)
    · have answer := (s.renew_decision tool now ttl moduleTimeout).trans decision
      exact .inr (.inr ⟨wiring, denial, rfl, rfl, by simp only [tickTool, renewed, ttlMs, found, answer]⟩)

theorem tickTool_sameInputs (s : ModuleState) (tool : String) (now : Int) (ttl moduleTimeout : Int) :
    SameInputs s (s.tickTool tool now ttl moduleTimeout).1 := by
  have renewed := s.renew_sameInputs tool now ttl moduleTimeout
  obtain ⟨-, same⟩ | ⟨_, -, -, same⟩ | ⟨_, _, -, -, same⟩ := s.tickTool_cases tool now ttl moduleTimeout
  all_goals rw [same]; exact renewed.trans ⟨rfl, rfl, rfl, rfl, rfl, rfl, rfl, rfl⟩

theorem tickTool_latched (s : ModuleState) (tool : String) (now : Int) (ttl moduleTimeout : Int) :
    (s.tickTool tool now ttl moduleTimeout).1.latched = (s.renew tool now ttl moduleTimeout).1.latched := by
  obtain ⟨-, same⟩ | ⟨_, -, -, same⟩ | ⟨_, _, -, -, same⟩ := s.tickTool_cases tool now ttl moduleTimeout
  all_goals rw [same]
  all_goals rfl

theorem renew_latched_isSome {s : ModuleState} {tool key : String} {now : Int} {ttl moduleTimeout : Int}
    (latch : (s.latched key).isSome) : ((s.renew tool now ttl moduleTimeout).1.latched key).isSome := by
  obtain ⟨-, same⟩ | ⟨condition, -, -, same⟩ | ⟨_, -, -, same⟩ := s.renew_cases tool now ttl moduleTimeout
  · rw [same]; exact latch
  · rw [same]
    simp only [Table.insert_apply]
    split
    · rfl
    · exact latch
  · rw [same]; exact latch

/-- A state some renewals after another: the same inputs, and no latch lost. -/
structure Renewed (s t : ModuleState) : Prop extends SameInputs s t where
  latched : ∀ key, (s.latched key).isSome → (t.latched key).isSome

namespace Renewed
variable {s t u : ModuleState}

theorem refl (s : ModuleState) : Renewed s s := ⟨.refl s, fun _ latch => latch⟩

theorem trans (first : Renewed s t) (second : Renewed t u) : Renewed s u :=
  ⟨first.toSameInputs.trans second.toSameInputs, fun key latch => second.latched key (first.latched key latch)⟩

theorem unlatched (later : Renewed s t) {key : String} (none_ : t.latched key = none) : s.latched key = none := by
  by_contra latch
  have kept := later.latched key (Option.isSome_iff_ne_none.mpr latch)
  rw [none_] at kept
  exact absurd kept (by simp)

end Renewed

theorem tickTool_renewed (s : ModuleState) (tool : String) (now : Int) (ttl moduleTimeout : Int) :
    Renewed s (s.tickTool tool now ttl moduleTimeout).1 where
  toSameInputs := s.tickTool_sameInputs tool now ttl moduleTimeout
  latched key latch := by
    rw [tickTool_latched]
    exact renew_latched_isSome latch

theorem tickTools_renewed (s : ModuleState) (now : Int) (ttl moduleTimeout : Int)
    (tools : List String) : Renewed s (s.tickTools now ttl moduleTimeout tools).1 := by
  induction tools generalizing s with
  | nil => exact .refl s
  | cons tool rest ih => exact (s.tickTool_renewed tool now ttl moduleTimeout).trans (ih _)

theorem tick_renewed (s : ModuleState) (now : Int) (ttl moduleTimeout : Int) :
    Renewed s (s.tick now ttl moduleTimeout).1 := s.tickTools_renewed now ttl moduleTimeout s.tools

theorem wiring_of_listed {s : ModuleState} {tool : String} (listed : tool ∈ s.tools) :
    ∃ wiring, s.wiring tool = some wiring ∧ wiring.toolId = tool := by
  rcases held : s.snapshot with _ | snapshot
  · simp [tools, held] at listed
  · simp only [tools, held, Option.map_some, Option.getD_some, List.mem_map] at listed
    obtain ⟨entry, member, rfl⟩ := listed
    obtain ⟨wiring, found, named⟩ := resolve_of_id member
    exact ⟨wiring, by simp only [ModuleState.wiring, held, Option.bind_some, found], named⟩

end ModuleState

end CoopSpaces

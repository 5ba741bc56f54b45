import CoopSpaces.Edge.Power
import CoopSpaces.Lib.Table
import CoopSpaces.Lib.Text
import Mathlib.Algebra.Order.Ring.Rat

namespace CoopSpaces

/-- A decimal column: its number, and the text it prints. -/
structure DecimalColumn where
  number : Rat
  text : String
  deriving DecidableEq

structure PowerCircuit (Uuid : Type) where
  id : Uuid
  amperageLimit : DecimalColumn
  lockedOut : Bool
  lockoutSource : Option String
  lockoutReason : Option String
  lockedOutAt : Option Int
  lockedOutBy : Option Uuid
  deriving DecidableEq

/-- A tool's latest reading and its own lockout, one row for a tool. -/
structure ToolPowerState (Uuid : Type) where
  toolId : Uuid
  lastDrawAmps : Option Rat
  lockedOut : Bool
  lockoutReason : Option String
  lockedOutAt : Option Int
  deriving DecidableEq

/-- What the power tables read of a tool. -/
structure PowerTool (Uuid : Type) where
  id : Uuid
  externalId : Option String
  receptacleId : Option Uuid
  deriving DecidableEq

/-- The server's power tables. An outlet names its circuit, a receptacle its outlet. -/
structure PowerGrid (Uuid : Type) where
  circuits : List (PowerCircuit Uuid)
  outlets : List (Uuid × Uuid)
  receptacles : List (Uuid × Uuid)
  tools : List (PowerTool Uuid)
  toolStates : List (ToolPowerState Uuid)
  deriving DecidableEq

namespace PowerGrid
variable {Uuid : Type} [DecidableEq Uuid]

/-- Lock a circuit that is not locked yet, and say how many rows that was. -/
def engageCircuitLockout (g : PowerGrid Uuid) (cid : Uuid) (source reason : String) (now : Int) :
    PowerGrid Uuid × Nat :=
  let engages := fun c : PowerCircuit Uuid => decide (c.id = cid) && !c.lockedOut
  ({ g with circuits := g.circuits.map fun c =>
      if engages c then
        { c with
          lockedOut := true, lockoutSource := some source, lockoutReason := some reason, lockedOutAt := some now }
      else c },
    g.circuits.countP engages)

def clearCircuitLockout (g : PowerGrid Uuid) (cid : Uuid) (by_ : Option Uuid) : PowerGrid Uuid :=
  { g with circuits := g.circuits.map fun c =>
      if c.id = cid then
        { c with
          lockedOut := false, lockoutSource := none, lockoutReason := none, lockedOutAt := none, lockedOutBy := by_ }
      else c }

def engageToolLockout (g : PowerGrid Uuid) (tid : Uuid) (reason : String) (now : Int) : PowerGrid Uuid :=
  if g.toolStates.any fun s => decide (s.toolId = tid) then
    { g with toolStates := g.toolStates.map fun s =>
        if s.toolId = tid then { s with lockedOut := true, lockoutReason := some reason, lockedOutAt := some now }
        else s }
  else { g with toolStates := g.toolStates ++ [⟨tid, none, true, some reason, some now⟩] }

def clearToolLockout (g : PowerGrid Uuid) (tid : Uuid) : PowerGrid Uuid :=
  { g with toolStates := g.toolStates.map fun s =>
      if s.toolId = tid then { s with lockedOut := false, lockoutReason := none, lockedOutAt := none } else s }

/-- Whether a tool must be denied for a power reason: its own lockout, or the one of
the circuit its receptacle leads to. -/
def toolIsLockedOut (g : PowerGrid Uuid) (tid : Uuid) : Bool :=
  let own := (g.toolStates.find? fun s => s.toolId = tid).map (·.lockedOut)
  if own = some true then true
  else
    match (g.tools.find? fun t => t.id = tid).bind (·.receptacleId) with
    | none => false
    | some rid =>
      match (g.receptacles.find? fun r => r.1 = rid).map (·.2) with
      | none => false
      | some oid =>
        match (g.outlets.find? fun o => o.1 = oid).map (·.2) with
        | none => false
        | some cid => (g.circuits.find? fun c => c.id = cid).map (·.lockedOut) = some true

/-- The circuit a receptacle leads to, by the indexes a snapshot builds. -/
def toolCircuit (g : PowerGrid Uuid) (receptacleId : Option Uuid) : Option Uuid :=
  receptacleId.bind fun rid =>
    (Table.index (·.1) g.receptacles rid).bind fun r => (Table.index (·.1) g.outlets r.2).map (·.2)

def snapshotLocks (g : PowerGrid Uuid) (circuits : List (PowerCircuit Uuid)) (t : PowerTool Uuid) : Bool :=
  (g.toolStates.filter (·.lockedOut)).any (fun s => decide (s.toolId = t.id)) ||
    (g.toolCircuit t.receptacleId).any fun cid => (circuits.filter (·.lockedOut)).any fun c => decide (c.id = cid)

variable [IdText Uuid]

/-- A snapshot reads the circuits first and the other tables after them. -/
def snapshotFrom (g : PowerGrid Uuid) (circuits : List (PowerCircuit Uuid)) : PowerStatePayload where
  lockedToolIds := (g.tools.filter (g.snapshotLocks circuits)).map fun t => IdText.toText t.id
  circuits := circuits.map fun c => ⟨IdText.toText c.id, c.amperageLimit.text⟩
  tools := g.tools.map fun t => ⟨IdText.toText t.id, t.externalId, (g.toolCircuit t.receptacleId).map IdText.toText⟩

def powerStateSnapshot (g : PowerGrid Uuid) : PowerStatePayload := g.snapshotFrom g.circuits

/-- Ids are primary keys. -/
structure Keyed (g : PowerGrid Uuid) : Prop where
  circuits : (g.circuits.map (·.id)).Nodup
  outlets : (g.outlets.map (·.1)).Nodup
  receptacles : (g.receptacles.map (·.1)).Nodup
  tools : (g.tools.map (·.id)).Nodup
  toolStates : (g.toolStates.map (·.toolId)).Nodup

end PowerGrid

/-- A snapshot lists every tool it puts on a circuit, and that a name finds, as locked. -/
def PowerStatePayload.Locks (payload : PowerStatePayload) (circuit : String) : Prop :=
  ∀ name tool, PowerState.resolve payload name = some tool → tool.circuitId = some circuit →
    tool.id ∈ payload.lockedToolIds

namespace PowerGrid
variable {Uuid : Type} [DecidableEq Uuid] {g : PowerGrid Uuid}

theorem toolCircuit_eq (keyed : g.Keyed) (receptacleId : Option Uuid) : g.toolCircuit receptacleId =
    receptacleId.bind fun rid => (g.receptacles.find? fun r => r.1 = rid).bind fun r =>
      (g.outlets.find? fun o => o.1 = r.2).map (·.2) := by
  simp only [toolCircuit, Table.index_eq_find? keyed.receptacles, Table.index_eq_find? keyed.outlets]

theorem toolIsLockedOut_iff (keyed : g.Keyed) {t : PowerTool Uuid} (listed : t ∈ g.tools) :
    g.toolIsLockedOut t.id = true ↔ (∃ s ∈ g.toolStates, s.toolId = t.id ∧ s.lockedOut = true) ∨
      ∃ cid, g.toolCircuit t.receptacleId = some cid ∧ ∃ c ∈ g.circuits, c.id = cid ∧ c.lockedOut = true := by
  have own := Table.exists_find?_iff (P := fun s => s.lockedOut = true) keyed.toolStates (k := t.id)
  have row : (g.tools.find? fun other => other.id = t.id) = some t := by
    obtain ⟨other, found, same⟩ := (Table.exists_find?_iff (P := (· = t)) keyed.tools).mpr ⟨t, listed, rfl, rfl⟩
    rw [found, same]
  have locks := fun cid => Table.exists_find?_iff (P := fun c => c.lockedOut = true) keyed.circuits (k := cid)
  simp only [← own, ← locks, ← Option.map_eq_some_iff]
  rw [toolCircuit_eq keyed, toolIsLockedOut, row, Option.bind_some]
  by_cases mine : (g.toolStates.find? fun s => s.toolId = t.id).map (·.lockedOut) = some true
  · simp only [mine, if_true, true_or]
  · simp only [mine, if_false, false_or]
    rcases wired : t.receptacleId with _ | rid
    · simp
    · rcases outlet : g.receptacles.find? fun r => r.1 = rid with _ | r
      · simp [outlet]
      · rcases circuit : g.outlets.find? fun o => o.1 = r.2 with _ | o
        · simp [outlet, circuit]
        · simp [outlet, circuit]

variable [IdText Uuid]

theorem mem_lockedToolIds_iff (keyed : g.Keyed) {t : PowerTool Uuid} (listed : t ∈ g.tools) :
    IdText.toText t.id ∈ g.powerStateSnapshot.lockedToolIds ↔ g.toolIsLockedOut t.id = true := by
  have locks : g.snapshotLocks g.circuits t = true ↔ g.toolIsLockedOut t.id = true := by
    rw [toolIsLockedOut_iff keyed listed]
    simp only [snapshotLocks, Bool.or_eq_true, List.any_eq_true, List.mem_filter, decide_eq_true_eq,
      Option.any_eq_true, and_assoc, and_comm]
  rw [← locks, powerStateSnapshot, snapshotFrom, List.mem_map]
  constructor
  · rintro ⟨other, member, same⟩
    obtain ⟨inTable, locked⟩ := List.mem_filter.mp member
    have one := List.inj_on_of_nodup_map keyed.tools inTable listed (IdText.toText_injective same)
    exact one ▸ locked
  · exact fun locked => ⟨t, List.mem_filter.mpr ⟨listed, locked⟩, rfl⟩

end PowerGrid

end CoopSpaces

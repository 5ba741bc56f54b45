import CoopSpaces.Wire
import Mathlib.Data.Finset.Image
import Mathlib.Data.List.Sort
import Mathlib.Data.String.Basic

namespace CoopSpaces

/-- The power cache. The latest draws are a map whose order the code never
fixes, and each tool has one. -/
structure PowerState (Amps : Type) where
  snapshot : Option PowerStatePayload
  latestDraw : List (String × Amps)
  localTripped : Finset String

namespace PowerState
variable {Amps : Type}

def new : PowerState Amps where
  snapshot := none
  latestDraw := []
  localTripped := ∅

/-- Whether a snapshot reports a circuit locked: it has a tool, and every one of
its tools is locked. -/
def circuitLocked (snapshot : PowerStatePayload) (circuitId : String) : Bool :=
  let onCircuit := snapshot.tools.filter fun t => t.circuitId == some circuitId
  !onCircuit.isEmpty && onCircuit.all fun t => decide (t.id ∈ snapshot.lockedToolIds)

/-- Apply a fresh server snapshot; a local trip it no longer reports is dropped. -/
def applyState (s : PowerState Amps) (payload : PowerStatePayload) : PowerState Amps :=
  { s with
    localTripped := s.localTripped.filter fun c => circuitLocked payload c = true
    snapshot := some payload }

def resolve (snapshot : PowerStatePayload) (toolId : String) : Option PowerStateTool :=
  snapshot.tools.find? fun t => t.externalId == some toolId || t.id == toolId

def isLocked (s : PowerState Amps) (toolId : String) : Bool :=
  match s.snapshot with
  | none => false
  | some snap =>
    match resolve snap toolId with
    | some tool =>
      if tool.id ∈ snap.lockedToolIds then true
      else tool.circuitId.any fun c => decide (c ∈ s.localTripped)
    -- Unknown to the power topology: a raw id match.
    | none => decide (toolId ∈ snap.lockedToolIds)

def recordDraw (s : PowerState Amps) (toolId : String) (amps : Amps) : PowerState Amps :=
  let key := ((s.snapshot.bind (resolve · toolId)).map (·.id)).getD toolId
  { s with latestDraw := (s.latestDraw.filter fun entry => entry.1 ≠ key) ++ [(key, amps)] }

/-- The circuit a snapshot puts a tool on; where ids repeat the last one wins. -/
def toolCircuit (snapshot : PowerStatePayload) (toolId : String) : Option String :=
  (snapshot.tools.filterMap fun t => t.circuitId.map fun c => (t.id, c)).reverse.lookup toolId

section Aggregation
variable [Zero Amps] [Add Amps] [LT Amps] [DecidableLT Amps] (parseAmps : String → Option Amps)

def circuitTotal (s : PowerState Amps) (snapshot : PowerStatePayload) (circuitId : String) : Amps :=
  (s.latestDraw.filter fun entry => toolCircuit snapshot entry.1 = some circuitId).foldl
    (fun total entry => total + entry.2) 0

def overLimit (s : PowerState Amps) (snapshot : PowerStatePayload) (c : PowerStateCircuit) : Bool :=
  match parseAmps c.amperageLimit with
  | none => false
  | some limit => decide (limit < s.circuitTotal snapshot c.id)

/-- The circuits over their limit that are not already tripped locally. -/
def evaluateOverages (s : PowerState Amps) : List String :=
  match s.snapshot with
  | none => []
  | some snap =>
    ((snap.circuits.filter fun c => s.overLimit parseAmps snap c && !decide (c.id ∈ s.localTripped)).map
      (·.id)).insertionSort (· ≤ ·)

end Aggregation

def markTripped (s : PowerState Amps) (circuitId : String) : PowerState Amps :=
  { s with localTripped := insert circuitId s.localTripped }

theorem mem_foldl_markTripped {s : PowerState Amps} {circuits : List String} {c : String} :
    c ∈ (circuits.foldl markTripped s).localTripped ↔ c ∈ circuits ∨ c ∈ s.localTripped := by
  induction circuits generalizing s with
  | nil => simp
  | cons first rest ih =>
    rw [List.foldl_cons, ih]
    simp only [markTripped, Finset.mem_insert, List.mem_cons]
    tauto

end PowerState

end CoopSpaces

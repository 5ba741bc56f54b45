import CoopSpaces.Edge.Resources
import CoopSpaces.Server.Grid

namespace CoopSpaces

variable {Uuid Amps : Type} [DecidableEq Uuid] [IdText Uuid]

/-- A power snapshot on its way, with the trips the server had recorded when it read
the circuits for it. -/
structure SentSnapshot where
  payload : PowerStatePayload
  knows : List Nat
  deriving DecidableEq

/-- An edge, its server, and what travels between them. Trips are numbered as the
edge makes them. -/
structure TripWorld (Uuid Amps : Type) where
  edge : PowerState Amps
  grid : PowerGrid Uuid
  /-- Circuits found over their limit and not marked yet. -/
  overages : List String
  /-- Trips no snapshot has answered for, each with its circuit. -/
  trips : List (String × Nat)
  tripped : Nat
  reports : List (String × Nat)
  recorded : List Nat
  /-- Snapshots whose circuits are read and whose other tables are not. -/
  building : List (List (PowerCircuit Uuid) × List Nat)
  sent : List SentSnapshot

inductive TripEvent (Uuid Amps : Type)
  | reading (name : String) (draw : Amps)
  | evaluate
  | trip (i : Nat)
  | serveReport (i : Nat) (now : Int)
  | engageCircuit (cid : Uuid) (source reason : String) (now : Int)
  | reenableCircuit (cid : Uuid) (staff : Option Uuid)
  | engageTool (tid : Uuid) (reason : String) (now : Int)
  | reenableTool (tid : Uuid)
  -- An administrator's edit of circuits, outlets, receptacles or tools.
  | rewire (grid : PowerGrid Uuid)
  | readCircuits
  | finishSnapshot (i : Nat)
  -- A push or a poll's answer. It may come late, more than once, or never.
  | apply (i : Nat)

namespace TripWorld
variable [Zero Amps] [Add Amps] [LT Amps] [DecidableLT Amps] (parseAmps : String → Option Amps)

/-- Mark the circuit, and send the report that says so. -/
def trip (w : TripWorld Uuid Amps) (i : Nat) : TripWorld Uuid Amps :=
  match w.overages[i]? with
  | none => w
  | some circuit =>
    { w with
      overages := w.overages.eraseIdx i
      edge := w.edge.markTripped circuit
      trips := w.trips ++ [(circuit, w.tripped)]
      tripped := w.tripped + 1
      reports := w.reports ++ [(circuit, w.tripped)] }

/-- `power_trip`: a circuit id the server cannot read is refused, and one it does
not hold records nothing. -/
def serveReport (w : TripWorld Uuid Amps) (i : Nat) (now : Int) : TripWorld Uuid Amps :=
  match w.reports[i]? with
  | none => w
  | some (circuit, n) =>
    let taken := { w with reports := w.reports.eraseIdx i }
    match IdText.parseStr circuit with
    | none => taken
    | some cid =>
      { taken with
        grid := (w.grid.engageCircuitLockout cid "edge_fast_trip" "edge-local aggregation over amperage limit" now).1
        recorded := if w.grid.circuits.any fun c => decide (c.id = cid) then w.recorded ++ [n] else w.recorded }

def finishSnapshot (w : TripWorld Uuid Amps) (i : Nat) : TripWorld Uuid Amps :=
  match w.building[i]? with
  | none => w
  | some (circuits, knows) =>
    { w with building := w.building.eraseIdx i, sent := w.sent ++ [⟨w.grid.snapshotFrom circuits, knows⟩] }

def apply (w : TripWorld Uuid Amps) (i : Nat) : TripWorld Uuid Amps :=
  match w.sent[i]? with
  | none => w
  | some snapshot =>
    { w with
      edge := w.edge.applyState snapshot.payload
      trips := w.trips.filter fun t => t.2 ∉ snapshot.knows }

def step (w : TripWorld Uuid Amps) : TripEvent Uuid Amps → TripWorld Uuid Amps
  | .reading name draw => { w with edge := w.edge.recordDraw name draw }
  | .evaluate => { w with overages := w.overages ++ w.edge.evaluateOverages parseAmps }
  | .trip i => w.trip i
  | .serveReport i now => w.serveReport i now
  | .engageCircuit cid source reason now => { w with grid := (w.grid.engageCircuitLockout cid source reason now).1 }
  | .reenableCircuit cid staff => { w with grid := w.grid.clearCircuitLockout cid staff }
  | .engageTool tid reason now => { w with grid := w.grid.engageToolLockout tid reason now }
  | .reenableTool tid => { w with grid := w.grid.clearToolLockout tid }
  | .rewire grid => { w with grid := grid }
  | .readCircuits => { w with building := w.building ++ [(w.grid.circuits, w.recorded)] }
  | .finishSnapshot i => w.finishSnapshot i
  | .apply i => w.apply i

end TripWorld

namespace PowerState

/-- The edge refuses the name for the lockout, whoever asks and whatever else it holds. -/
def Refuses (Uuid : Type) [DecidableEq Uuid] [IdText Uuid] (s : PowerState Amps) (name : String) : Prop :=
  ∀ c : ResourceCache Uuid Amps, c.power = s → ∀ card now, c.decide name card now = .deny reason.lockedOut

/-- A circuit's tools are denied, under every name that finds one. -/
def Denies (Uuid : Type) [DecidableEq Uuid] [IdText Uuid] (s : PowerState Amps) (circuit : String) : Prop :=
  ∀ name tool, s.snapshot.bind (resolve · name) = some tool → tool.circuitId = some circuit → s.Refuses Uuid name

variable {s : PowerState Amps} {circuit : String}

theorem refuses_iff {name : String} : s.Refuses Uuid name ↔ s.isLocked name = true := by
  constructor
  · intro refuses
    have bare := refuses ⟨.new, ⟨none, none⟩, s, .empty, .empty⟩ rfl "" 0
    by_contra unlocked
    simp only [ResourceCache.decide, if_neg unlocked, Policy.find, Policy.empty, List.find?_nil,
      ResourceCache.decideMember] at bare
    exact absurd bare (by decide)
  · rintro locked c rfl card now
    simp only [ResourceCache.decide, locked, if_true]

theorem resolve_mem {snapshot : PowerStatePayload} {name : String} {tool : PowerStateTool}
    (found : resolve snapshot name = some tool) : tool ∈ snapshot.tools := List.mem_of_find?_eq_some found

theorem locked_of_circuitLocked {snapshot : PowerStatePayload} {tool : PowerStateTool}
    (locked : circuitLocked snapshot circuit = true) (listed : tool ∈ snapshot.tools)
    (on : tool.circuitId = some circuit) : tool.id ∈ snapshot.lockedToolIds := by
  simp only [circuitLocked, Bool.and_eq_true, List.all_eq_true] at locked
  have member : tool ∈ snapshot.tools.filter fun t => t.circuitId == some circuit :=
    List.mem_filter.mpr ⟨listed, by simp [on]⟩
  exact of_decide_eq_true (locked.2 tool member)

theorem isLocked_applyState {payload : PowerStatePayload} {name : String} {tool : PowerStateTool}
    (found : resolve payload name = some tool) :
    (s.applyState payload).isLocked name = true ↔ tool.id ∈ payload.lockedToolIds := by
  simp only [isLocked, applyState, found]
  split
  · rename_i locked
    exact iff_of_true rfl locked
  · rename_i unlocked
    refine iff_of_false ?_ unlocked
    intro local_
    obtain ⟨circuit, on, kept⟩ := (Option.any_eq_true _ _).mp local_
    have reported := (Finset.mem_filter.mp (of_decide_eq_true kept)).2
    exact unlocked (locked_of_circuitLocked reported (resolve_mem found) on)

theorem denies_applyState {payload : PowerStatePayload} :
    (s.applyState payload).Denies Uuid circuit ↔ payload.Locks circuit := by
  refine forall_congr' fun name => forall_congr' fun tool => forall_congr' fun found => forall_congr' fun on => ?_
  exact refuses_iff.trans (isLocked_applyState found)

theorem denies_markTripped (s : PowerState Amps) (circuit : String) :
    (s.markTripped circuit).Denies Uuid circuit := by
  intro name tool found on
  obtain ⟨snapshot, held, resolved⟩ := Option.bind_eq_some_iff.mp found
  rw [refuses_iff]
  have here : s.snapshot = some snapshot := held
  simp only [isLocked, markTripped, here, resolved, on]
  split
  · rfl
  · simp

theorem Denies.markTripped (denies : s.Denies Uuid circuit) (other : String) :
    (s.markTripped other).Denies Uuid circuit := by
  intro name tool found on
  have before := refuses_iff.mp (denies name tool found on)
  obtain ⟨snapshot, held, resolved⟩ := Option.bind_eq_some_iff.mp found
  have here : s.snapshot = some snapshot := held
  rw [refuses_iff]
  simp only [isLocked, PowerState.markTripped, here, resolved, on] at before ⊢
  split
  · rfl
  · rename_i unlisted
    rw [if_neg unlisted] at before
    simp only [Option.any_some, decide_eq_true_eq, Finset.mem_insert] at before ⊢
    exact .inr before

theorem Denies.recordDraw (denies : s.Denies Uuid circuit) (name : String) (draw : Amps) :
    (s.recordDraw name draw).Denies Uuid circuit := by
  intro asked tool found on
  have before := refuses_iff.mp (denies asked tool found on)
  exact refuses_iff.mpr before

end PowerState

/-- An edge that has just started, before a server that holds these tables. -/
def TripWorld.start (grid : PowerGrid Uuid) : TripWorld Uuid Amps where
  edge := .new
  grid := grid
  overages := []
  trips := []
  tripped := 0
  reports := []
  recorded := []
  building := []
  sent := []

section Runs
variable [Zero Amps] [Add Amps] [LT Amps] [DecidableLT Amps] (parseAmps : String → Option Amps)
    (grid : PowerGrid Uuid)

def tripMachine : Machine (TripWorld Uuid Amps) (TripEvent Uuid Amps) Unit where
  start := .start grid
  step w event := (w.step parseAmps event, ())

/-- Every circuit tripped here whose trip no snapshot has answered for is denied. -/
def TripWorld.Held (w : TripWorld Uuid Amps) : Prop := ∀ t ∈ w.trips, w.edge.Denies Uuid t.1

/-- After each step every trip the edge made still denies its circuit's tools, until
a snapshot that knows of it is applied. -/
def HoldsTrips (past : List (TripEvent Uuid Amps)) (event : TripEvent Uuid Amps) : Prop :=
  ((tripMachine parseAmps grid).run (past ++ [event])).Held

/-- A snapshot that does not know of a trip yet locks the tools of its circuit anyway. -/
def LocksUnknown (past : List (TripEvent Uuid Amps)) (event : TripEvent Uuid Amps) : Prop :=
  ∀ i, event = .apply i → ∀ snapshot, ((tripMachine parseAmps grid).run past).sent[i]? = some snapshot →
    ∀ t ∈ ((tripMachine parseAmps grid).run past).trips, t.2 ∉ snapshot.knows → snapshot.payload.Locks t.1

variable {parseAmps grid}

omit [Zero Amps] [Add Amps] [LT Amps] [DecidableLT Amps] in
theorem TripWorld.held_apply {w : TripWorld Uuid Amps} {i : Nat} {snapshot : SentSnapshot}
    (sent : w.sent[i]? = some snapshot) :
    (w.apply i).Held ↔ ∀ t ∈ w.trips, t.2 ∉ snapshot.knows → snapshot.payload.Locks t.1 := by
  simp only [Held, apply, sent, List.mem_filter, decide_eq_true_eq, and_imp, PowerState.denies_applyState]

/-- Only a snapshot can take a trip's denial away. -/
theorem TripWorld.Held.step {w : TripWorld Uuid Amps} (held : w.Held) {event : TripEvent Uuid Amps}
    (other : ∀ i, event ≠ .apply i) : (w.step parseAmps event).Held := by
  cases event with
  | reading name draw => exact fun t member => (held t member).recordDraw name draw
  | trip i =>
    show (w.trip i).Held
    unfold TripWorld.trip
    split
    · exact held
    · intro t member
      rcases List.mem_append.mp member with old | fresh
      · exact (held t old).markTripped _
      · obtain rfl := List.mem_singleton.mp fresh
        exact PowerState.denies_markTripped w.edge _
  | serveReport i now =>
    show (w.serveReport i now).Held
    unfold TripWorld.serveReport
    split
    · exact held
    · dsimp only
      split <;> exact held
  | finishSnapshot i =>
    show (w.finishSnapshot i).Held
    unfold TripWorld.finishSnapshot
    split <;> exact held
  | apply i => exact absurd rfl (other i)
  | _ => exact held

/-- A trip holds until the server knows, in every run, exactly when every snapshot
applied before it knows of a trip locks that circuit's tools all the same. -/
theorem trip_holds_iff (events : List (TripEvent Uuid Amps)) :
    EveryStep (HoldsTrips parseAmps grid) events ↔ EveryStep (LocksUnknown parseAmps grid) events := by
  have ran : ∀ past event, (tripMachine parseAmps grid).run (past ++ [event]) =
      ((tripMachine parseAmps grid).run past).step parseAmps event := (tripMachine parseAmps grid).run_snoc
  constructor
  · intro holds past event later split i applied snapshot sent
    subst applied
    have after : ((tripMachine parseAmps grid).run (past ++ [.apply i])).Held := holds past (.apply i) later split
    rw [ran] at after
    exact (TripWorld.held_apply sent).mp after
  · intro locks
    suffices both : ((tripMachine parseAmps grid).run events).Held ∧
      EveryStep (HoldsTrips parseAmps grid) events from both.2
    induction events using List.reverseRecOn with
    | nil =>
      refine ⟨?_, EveryStep.nil⟩
      intro t member
      cases member
    | append_singleton past event ih =>
      obtain ⟨earlier, here⟩ := EveryStep.snoc_iff.mp locks
      obtain ⟨held, every⟩ := ih earlier
      have after : ((tripMachine parseAmps grid).run (past ++ [event])).Held := by
        rw [ran]
        by_cases applies : ∃ i, event = .apply i
        · obtain ⟨i, rfl⟩ := applies
          show (TripWorld.apply _ i).Held
          rcases sent : ((tripMachine parseAmps grid).run past).sent[i]? with _ | snapshot
          · simpa only [TripWorld.apply, sent] using held
          · exact (TripWorld.held_apply sent).mpr (here i rfl snapshot sent)
        · exact held.step fun i same => applies ⟨i, same⟩
      exact ⟨after, EveryStep.snoc_iff.mpr ⟨every, after⟩⟩

end Runs

/-- The one limit of the shop below, read. -/
def parseShopLimit (text : String) : Option Int := if text = "16" then some 16 else none

def shopId : HexId := .repeating 1

def benchId : HexId := .repeating 2

/-- One circuit of sixteen amps, with one tool on it. -/
def shopGrid : PowerGrid HexId where
  circuits := [⟨shopId, ⟨16, "16"⟩, false, none, none, none, none⟩]
  outlets := [(shopId, shopId)]
  receptacles := [(shopId, shopId)]
  tools := [⟨benchId, some "bench", some shopId⟩]
  toolStates := []

/-- The edge learns its topology, and a second snapshot is on its way when the bench
draws twenty amps. -/
def shopTrips : List (TripEvent HexId Int) :=
  [.readCircuits, .finishSnapshot 0, .apply 0, .readCircuits, .finishSnapshot 0, .reading "bench" 20,
    .evaluate, .trip 0]

/-- The late snapshot turns the bench back on while the report is still on its way. -/
theorem trip_holds_late : ¬ EveryStep (HoldsTrips parseShopLimit shopGrid) (shopTrips ++ [.apply 1]) := by
  intro every
  have held : ((tripMachine parseShopLimit shopGrid).run (shopTrips ++ [.apply 1])).Held :=
    every shopTrips (.apply 1) [] rfl
  have denied := held (IdText.toText shopId, 0) (by decide) "bench"
    ⟨IdText.toText benchId, some "bench", some (IdText.toText shopId)⟩ (by decide) rfl
  have locked := PowerState.refuses_iff.mp denied
  revert locked
  decide

end CoopSpaces

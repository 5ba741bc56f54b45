import CoopSpaces.Edge.Reconcile
import CoopSpaces.Edge.Tick
import CoopSpaces.Lib.Text

namespace CoopSpaces

/-- A binding row: the resource it is for, and what the snapshot carries of it. -/
structure BindingRow (Uuid : Type) where
  resourceId : Uuid
  binding : DeviceBinding
  deriving DecidableEq

structure InterlockRow (Uuid : Type) where
  toolId : Uuid
  enabled : Bool
  rule : ToolInterlockRule
  deriving DecidableEq

/-- The tables the wiring snapshot is built from. A resource has one open session
at most, which a partial unique index keeps. -/
structure RoomTables (Uuid : Type) where
  profiles : Table Uuid (String × String)
  external : Table Uuid String
  bindings : List (BindingRow Uuid)
  interlocks : List (InterlockRow Uuid)
  toolsInUse : Finset Uuid
  openSessions : Finset Uuid

namespace RoomTables
variable {Uuid : Type} [DecidableEq Uuid]

def empty : RoomTables Uuid := ⟨.empty, .empty, [], [], ∅, ∅⟩

/-- Open a session, or join the one already open. -/
def openResourceSession (t : RoomTables Uuid) (resource : Uuid) : RoomTables Uuid :=
  { t with openSessions := insert resource t.openSessions }

/-- Close a resource's open session: a stop, the sweep, or an administrator. -/
def closeResourceSession (t : RoomTables Uuid) (resource : Uuid) : RoomTables Uuid :=
  { t with openSessions := t.openSessions.erase resource }

def updateResourceSessionProfile (t : RoomTables Uuid) (resource : Uuid) (profile : String) : RoomTables Uuid :=
  match t.profiles resource with
  | none => t
  | some (kind, _) => { t with profiles := t.profiles.insert resource (kind, profile) }

def deleteResource (t : RoomTables Uuid) (resource : Uuid) : RoomTables Uuid where
  profiles := t.profiles.erase resource
  external := t.external.erase resource
  bindings := t.bindings.filter fun b => b.resourceId ≠ resource
  interlocks := t.interlocks.filter fun i => i.toolId ≠ resource
  toolsInUse := t.toolsInUse.erase resource
  openSessions := t.openSessions.erase resource

/-- One "in use" per resource: a tool's status, a door's open session. -/
def inUse (t : RoomTables Uuid) (resource : Uuid) : Bool := resource ∈ t.toolsInUse || resource ∈ t.openSessions

def wired (t : RoomTables Uuid) : List Uuid :=
  t.bindings.map (·.resourceId) ++ (t.interlocks.filter (·.enabled)).map (·.toolId)

variable [IdText Uuid]

def entryFor (t : RoomTables Uuid) (id : Uuid) : ToolModuleTool where
  toolId := IdText.toText id
  externalId := t.external id
  kind := ((t.profiles id).map (·.1)).getD "tool"
  sessionProfile := ((t.profiles id).map (·.2)).getD ""
  inUse := t.inUse id
  modules := (t.bindings.filter fun b => b.resourceId = id).map (·.binding)
  interlocks := ((t.interlocks.filter (·.enabled)).filter fun i => i.toolId = id).map (·.rule)

def moduleStateSnapshot (t : RoomTables Uuid) : ToolModuleStatePayload where
  tools := (t.wired.dedup.insertionSort fun a b => IdText.toText a ≤ IdText.toText b).map t.entryFor

theorem mem_snapshot {t : RoomTables Uuid} {entry : ToolModuleTool} :
    entry ∈ t.moduleStateSnapshot.tools ↔ ∃ id ∈ t.wired, t.entryFor id = entry := by
  simp only [moduleStateSnapshot, List.mem_map, List.mem_insertionSort, List.mem_dedup]

/-- A snapshot lists a resource as a room: a door held until it is stopped. -/
structure ListsRoom (t : RoomTables Uuid) (door : Uuid) : Prop where
  wired : door ∈ t.wired
  kind : (t.entryFor door).kind = "door"
  profile : (t.entryFor door).sessionProfile = "until_stopped"

/-- A snapshot gives a door no session: none is open, or it lists the door as
momentary, or not at all. -/
def Over (t : RoomTables Uuid) (door : Uuid) : Prop :=
  t.inUse door = false ∨ (door ∈ t.wired ∧ (t.entryFor door).sessionProfile = "momentary") ∨ door ∉ t.wired

theorem mem_rooms {t : RoomTables Uuid} {door : Uuid} {onlyInUse : Bool} :
    IdText.toText door ∈ ModuleState.rooms t.moduleStateSnapshot onlyInUse ↔
      t.ListsRoom door ∧ (onlyInUse = true → t.inUse door = true) := by
  simp only [ModuleState.rooms, List.mem_map, List.mem_filter, mem_snapshot, Bool.and_eq_true, beq_iff_eq,
    Bool.or_eq_true, Bool.not_eq_true']
  constructor
  · rintro ⟨_, ⟨⟨⟨id, wired, rfl⟩, kind, profile⟩, flag⟩, same⟩
    obtain rfl := IdText.toText_inj.mp same
    exact ⟨⟨wired, kind, profile⟩, fun only => flag.resolve_left (by simp [only])⟩
  · rintro ⟨⟨wired, kind, profile⟩, flag⟩
    refine ⟨_, ⟨⟨⟨door, wired, rfl⟩, kind, profile⟩, ?_⟩, rfl⟩
    rcases onlyInUse with _ | _
    · exact .inl rfl
    · exact .inr (flag rfl)

end RoomTables

inductive RoomEvent (Uuid : Type)
  | openSession (resource : Uuid)
  | closeSession (resource : Uuid)
  | setProfile (resource : Uuid) (profile : String)
  | addResource (resource : Uuid) (kind profile : String) (external : Option String)
  | deleteResource (resource : Uuid)
  | bind (row : BindingRow Uuid)
  | unbind (bindingId : String)
  | setInterlocks (rows : List (InterlockRow Uuid))
  | setToolStatus (tool : Uuid) (inUse : Bool)

def RoomTables.handle {Uuid : Type} [DecidableEq Uuid] (t : RoomTables Uuid) : RoomEvent Uuid → RoomTables Uuid
  | .openSession resource => t.openResourceSession resource
  | .closeSession resource => t.closeResourceSession resource
  | .setProfile resource profile => t.updateResourceSessionProfile resource profile
  | .addResource resource kind profile external =>
    { t with
      profiles := t.profiles.insert resource (kind, profile)
      external := match external with
        | some name => t.external.insert resource name
        | none => t.external }
  | .deleteResource resource => t.deleteResource resource
  | .bind row => { t with bindings := t.bindings ++ [row] }
  | .unbind bindingId => { t with bindings := t.bindings.filter fun b => b.binding.id ≠ bindingId }
  | .setInterlocks rows => { t with interlocks := rows }
  | .setToolStatus tool inUse =>
    { t with toolsInUse := if inUse then insert tool t.toolsInUse else t.toolsInUse.erase tool }

/-- The server's tables, the snapshots built and not yet applied, oldest first,
and one edge. -/
structure Floor (Uuid : Type) where
  tables : RoomTables Uuid
  inFlight : List (RoomTables Uuid)
  edge : ModuleState

/-- A change at the server, a snapshot built, the oldest one applied, or any
other call on the edge's engine. -/
inductive FloorStep (Uuid : Type)
  | server (event : RoomEvent Uuid)
  | build
  | apply (requestedAt : Option Int) (now : Int)
  | edge (call : Call)

section Floor
variable {Uuid : Type} [DecidableEq Uuid] [IdText Uuid]

def Floor.step (w : Floor Uuid) : FloorStep Uuid → Floor Uuid
  | .server event => { w with tables := w.tables.handle event }
  | .build => { w with inFlight := w.inFlight ++ [w.tables] }
  | .apply requestedAt now =>
    match w.inFlight with
    | [] => w
    | sent :: rest =>
      { w with inFlight := rest, edge := w.edge.applyStateAt sent.moduleStateSnapshot requestedAt now }
  -- Snapshots reach the edge in order, so by the queue only.
  | .edge (.applyState ..) => w
  | .edge call => { w with edge := w.edge.call call }

def floor : Machine (Floor Uuid) (FloorStep Uuid) Unit where
  start := ⟨.empty, [], .new⟩
  step w step := (w.step step, ())

end Floor

/-- This edge has itself a session on a key that is young, or momentary and not
yet run out. -/
def ModuleState.HoldsLocal (s : ModuleState) (key : String) (now : Int) : Prop :=
  ∃ session, s.localSessions key = some session ∧ ¬ session.RunOut now ∧
    (now - session.opened < s.localSessionGrace ∨ session.endsAt ≠ none)

section Applied
variable {Uuid : Type} [DecidableEq Uuid] [IdText Uuid] {s : ModuleState} {t : RoomTables Uuid} {door : Uuid}

theorem names_rooms_iff {onlyInUse : Bool} :
    ({ s with snapshot := some t.moduleStateSnapshot } : ModuleState).Names
        (ModuleState.rooms t.moduleStateSnapshot onlyInUse) (IdText.toText door) ↔
      t.ListsRoom door ∧ (onlyInUse = true → t.inUse door = true) := by
  rw [← RoomTables.mem_rooms]
  have own : ∀ name ∈ ModuleState.rooms t.moduleStateSnapshot onlyInUse,
      ({ s with snapshot := some t.moduleStateSnapshot } : ModuleState).toolKey name = name := by
    intro name member
    simp only [ModuleState.rooms, List.mem_map, List.mem_filter] at member
    obtain ⟨entry, ⟨⟨listed, -⟩, -⟩, rfl⟩ := member
    obtain ⟨wiring, found, same⟩ := ModuleState.resolve_of_id listed
    simp only [ModuleState.toolKey, ModuleState.wiring, Option.bind_some, found, Option.map_some,
      Option.getD_some, same]
  constructor
  · rintro ⟨name, member, same⟩
    exact (own name member).symm.trans same ▸ member
  · exact fun member => ⟨_, member, own _ member⟩

theorem applied_syncedInUse {requestedAt : Option Int} {now : Int} :
    IdText.toText door ∈ (s.applyStateAt t.moduleStateSnapshot requestedAt now).syncedInUse ↔
      ((t.ListsRoom door ∧ t.inUse door = true) ∧ ¬ s.StoppedSince (IdText.toText door) now (requestedAt.getD now)) ∨
        (IdText.toText door ∈ s.syncedInUse ∧ ¬ t.ListsRoom door) := by
  refine ModuleState.reconcileTracked_syncedInUse.trans ?_
  rw [names_rooms_iff, names_rooms_iff]
  simp only [forall_true_left, Bool.false_eq_true, false_implies, and_true]
  rfl

theorem applied_localSessions {requestedAt : Option Int} {now : Int} {session : Session} :
    (s.applyStateAt t.moduleStateSnapshot requestedAt now).localSessions (IdText.toText door) = some session ↔
      s.localSessions (IdText.toText door) = some session ∧ ¬ session.RunOut now ∧
        (¬ t.ListsRoom door ∨
          ((t.ListsRoom door ∧ t.inUse door = true) ∧
            ¬ s.StoppedSince (IdText.toText door) now (requestedAt.getD now)) ∨
          now - session.opened < s.localSessionGrace) := by
  refine ModuleState.reconcileTracked_localSessions.trans ?_
  rw [names_rooms_iff, names_rooms_iff]
  simp only [forall_true_left, Bool.false_eq_true, false_implies, and_true]
  rfl

end Applied

end CoopSpaces

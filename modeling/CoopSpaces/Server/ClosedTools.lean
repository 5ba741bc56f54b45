import CoopSpaces.Server.Sync

namespace CoopSpaces

namespace Database
variable {Uuid Json : Type} [DecidableEq Uuid] [IdText Uuid] (db : Database Uuid Json) (site : SiteTime Json)

/-- Ids are primary keys: no two schedules share one, and no two tools do. -/
structure Keyed : Prop where
  schedules : (db.schedules.map (·.id)).Nodup
  tools : (db.tools.map (·.id)).Nodup

/-- The tool references a schedule, and the schedule rule does not find it open. -/
def Shut (now : Int) (tool : Tool Uuid) : Prop :=
  tool.scheduleId ≠ none ∧ scheduleStateAt site tool.scheduleId db.schedules now ≠ .active

/-- The closed ids are the shut tools', and a tool escapes them exactly while the
engine's schedule gate lets an allow through. -/
structure ClosedEverywhere (now : Int) : Prop where
  exact : ∀ id, id ∈ db.closedToolIdsNow site now ↔ ∃ tool ∈ db.tools, tool.id = id ∧ db.Shut site now tool
  agrees : ∀ tool ∈ db.tools, tool.id ∉ db.closedToolIdsNow site now ↔
    ruleFires .allow (scheduleStateAt site tool.scheduleId db.schedules now) = true

variable {db site}

omit [IdText Uuid]

theorem ruleFires_allow {state : ScheduleState} : ruleFires .allow state = true ↔ state = .active := by
  cases state <;> simp [ruleFires]

theorem shut_iff {now : Int} {tool : Tool Uuid} :
    db.Shut site now tool ↔ scheduleStateAt site tool.scheduleId db.schedules now ≠ .active := by
  refine ⟨fun shut => shut.2, fun closed => ⟨?_, closed⟩⟩
  intro unscheduled
  rw [unscheduled] at closed
  exact closed rfl

theorem isClosed_iff (keyed : db.Keyed) {now : Int} {tool : Tool Uuid} :
    isClosed site (Table.index (·.id) db.schedules) now tool = true ↔ db.Shut site now tool := by
  rw [shut_iff]
  rcases named : tool.scheduleId with _ | sid
  · simp [isClosed, named, scheduleStateAt]
  · have found := Table.index_eq_find? keyed.schedules sid
    rcases search : db.schedules.find? fun s => s.id = sid with _ | sched
    · simp [isClosed, named, scheduleStateAt, found, search]
    · rcases read : site.parseIntervals sched.intervals with _ | intervals
      · simp [isClosed, named, scheduleStateAt, found, search, read]
      · rcases opened : matchesAt site intervals now with _ | _
        all_goals simp [isClosed, named, scheduleStateAt, found, search, read, opened]

theorem mem_closedToolIdsNow (keyed : db.Keyed) {now : Int} {id : Uuid} :
    id ∈ db.closedToolIdsNow site now ↔
      db.schedules ≠ [] ∧ ∃ tool ∈ db.tools, tool.id = id ∧ db.Shut site now tool := by
  unfold closedToolIdsNow
  split
  · rename_i none_
    simp [List.isEmpty_iff.mp none_]
  · rename_i some_
    have present : db.schedules ≠ [] := fun none_ => some_ (List.isEmpty_iff.mpr none_)
    simp only [List.mem_map, List.mem_filter, isClosed_iff keyed, present, ne_eq, not_false_eq_true, true_and]
    refine exists_congr fun tool => ?_
    rw [and_right_comm, and_assoc]

theorem shut_of_no_schedules {now : Int} {tool : Tool Uuid} (none_ : db.schedules = [])
    (references : tool.scheduleId ≠ none) :
    db.Shut site now tool := by
  obtain ⟨sid, named⟩ := Option.ne_none_iff_exists'.mp references
  refine ⟨references, ?_⟩
  simp [named, none_, scheduleStateAt]

/-- The closed set is exact, and agrees with the engine's schedule gate, exactly
when some schedule exists or no tool references one. -/
theorem closed_everywhere_iff (keyed : db.Keyed) (now : Int) :
    db.ClosedEverywhere site now ↔ db.schedules ≠ [] ∨ ∀ tool ∈ db.tools, tool.scheduleId = none := by
  constructor
  · intro closed
    by_contra neither
    obtain ⟨none_, references⟩ := not_or.mp neither
    have empty := Decidable.not_not.mp none_
    push Not at references
    obtain ⟨tool, listed, named⟩ := references
    have member := (closed.exact tool.id).mpr ⟨tool, listed, rfl, shut_of_no_schedules empty named⟩
    exact ((mem_closedToolIdsNow keyed).mp member).1 empty
  · intro either
    have exact : ∀ id, id ∈ db.closedToolIdsNow site now ↔ ∃ tool ∈ db.tools, tool.id = id ∧
        db.Shut site now tool := by
      intro id
      rw [mem_closedToolIdsNow keyed]
      refine and_iff_right_of_imp ?_
      rintro ⟨tool, listed, -, references, -⟩
      exact either.resolve_right fun unscheduled => references (unscheduled tool listed)
    refine ⟨exact, ?_⟩
    intro tool listed
    rw [exact, ruleFires_allow]
    constructor
    · intro open_
      by_contra closed
      exact open_ ⟨tool, listed, rfl, shut_iff.mpr closed⟩
    · rintro active ⟨other, member, same, shut⟩
      obtain rfl := List.inj_on_of_nodup_map keyed.tools member listed same
      exact shut.2 active

end Database

def kiln (scheduleId : Option HexId) : Tool HexId where
  id := .repeating 1
  externalId := none
  name := "Kiln"
  status := .idle
  requiresTraining := false
  scheduleId := scheduleId

def firingHours : HexId := .repeating 2

def kilnOnly (schedules : List (Schedule HexId Unit)) : Database HexId Unit where
  users := []
  cards := []
  tools := [kiln (some firingHours)]
  bindings := []
  schedules := schedules
  graph := .fromRows [] []
  assignments := []
  doorRules _ := []
  lockedOut _ := false
  trainingSteps _ := false
  activeWaiver _ _ := false
  completedSteps _ _ := false

def unreadable : SiteTime Unit := ⟨fun _ => none, fun _ => (.mon, 0)⟩

theorem kilnOnly_keyed (schedules : List (Schedule HexId Unit)) (distinct : (schedules.map (·.id)).Nodup) :
    (kilnOnly schedules).Keyed := ⟨distinct, List.nodup_singleton _⟩

/-- The schedules are read before the first one is made, the tools after: the
kiln references a schedule that rule finds missing, and is not closed. -/
theorem closed_everywhere_empty_table : ¬ (kilnOnly []).ClosedEverywhere unreadable 0 := by
  intro closed
  have member := (closed.exact (kiln (some firingHours)).id).mpr
    ⟨kiln (some firingHours), List.mem_singleton.mpr rfl, rfl, Database.shut_of_no_schedules rfl (by decide)⟩
  cases member

theorem closed_everywhere_iff_kiln : (kilnOnly [⟨firingHours, ()⟩]).ClosedEverywhere unreadable 0 :=
  (Database.closed_everywhere_iff (kilnOnly_keyed _ (by simp)) 0).mpr (.inl (by decide))

end CoopSpaces

import CoopSpaces.Edge.Modules

namespace CoopSpaces.ModuleState

theorem resolve_mem {snapshot : ToolModuleStatePayload} {tool : String} {wiring : ToolModuleTool}
    (found : resolve snapshot tool = some wiring) : wiring ∈ snapshot.tools := by
  rcases Option.or_eq_some_iff.mp found with byId | ⟨-, byExternal⟩
  · exact List.mem_of_find?_eq_some byId
  · exact List.mem_of_find?_eq_some byExternal

theorem resolve_of_id {snapshot : ToolModuleStatePayload} {tool : ToolModuleTool}
    (listed : tool ∈ snapshot.tools) :
    ∃ wiring, resolve snapshot tool.toolId = some wiring ∧ wiring.toolId = tool.toolId := by
  have present : (snapshot.tools.find? fun t => t.toolId == tool.toolId).isSome := by
    rw [List.find?_isSome]
    exact ⟨tool, listed, beq_self_eq_true _⟩
  obtain ⟨wiring, found⟩ := Option.isSome_iff_exists.mp present
  refine ⟨wiring, ?_, ?_⟩
  · rw [resolve, found, Option.some_or]
  · have sameId := List.find?_some found
    exact beq_iff_eq.mp sameId

theorem offlineFailOff_eq_none {s : ModuleState} {wiring : ToolModuleTool} {now : Int} {timeout : Int} :
    s.offlineFailOff wiring now timeout = none ↔
      ∀ m ∈ wiring.modules, s.silentFailOff now timeout m = false := by
  simp only [offlineFailOff, Option.map_eq_none_iff, List.find?_eq_none, Bool.not_eq_true]

theorem silentFailOff_of_seen {s : ModuleState} {m : DeviceBinding} {now timeout seen : Int}
    (heard : s.moduleSeen m.id = some seen) (recent : now - seen ≤ timeout) :
    s.silentFailOff now timeout m = false := by
  unfold silentFailOff
  split
  · rfl
  · split
    · rfl
    · simp only [heard, decide_eq_false_iff_not]
      omega

theorem interlockDenial_eq_none {s : ModuleState} {key : String} {now : Int}
    {rules : List ToolInterlockRule} :
    s.interlockDenial key now rules = none ↔ ∀ rule ∈ rules, s.satisfied key rule now = some true := by
  induction rules with
  | nil => simp [interlockDenial]
  | cons rule rest ih =>
    rcases value : s.satisfied key rule now with _ | _ | _
    · simp [interlockDenial, value]
    · by_cases trip : rule.kind = "trip" <;> simp [interlockDenial, value, trip]
    · simp [interlockDenial, value, ih]

/-- Everything that holds when a resource may be energized. -/
structure Cleared (s : ModuleState) (tool : String) (now : Int) (moduleTimeout : Int)
    (wiring : ToolModuleTool) : Prop where
  wired : s.wiring tool = some wiring
  unlatched : s.latched wiring.toolId = none
  heard : ∀ m ∈ wiring.modules, s.silentFailOff now moduleTimeout m = false
  held : ∀ rule ∈ wiring.interlocks, s.satisfied wiring.toolId rule now = some true
  inUse : s.inUse wiring.toolId now = true

theorem evaluate_wired {s : ModuleState} {tool : String} {wiring : ToolModuleTool}
    (wired : s.wiring tool = some wiring) (now : Int) (moduleTimeout : Int) :
    s.evaluate tool now moduleTimeout =
      match s.latched wiring.toolId with
      | some condition => .deny (.latched condition)
      | none =>
        match s.offlineFailOff wiring now moduleTimeout with
        | some name => .deny (.moduleOffline name)
        | none =>
          match s.interlockDenial wiring.toolId now wiring.interlocks with
          | some denial => .deny denial
          | none => if s.inUse wiring.toolId now then .allow else .deny .notInUse := by
  obtain ⟨snapshot, held, found⟩ := Option.bind_eq_some_iff.mp wired
  have unfolded := evaluate.eq_def s tool now moduleTimeout
  simp only [held, found] at unfolded
  exact unfolded

theorem evaluate_eq_allow {s : ModuleState} {tool : String} {wiring : ToolModuleTool} {now : Int}
    {moduleTimeout : Int} (wired : s.wiring tool = some wiring) :
    s.evaluate tool now moduleTimeout = .allow ↔ s.Cleared tool now moduleTimeout wiring := by
  rw [evaluate_wired wired]
  constructor
  · intro allowed
    rcases latch : s.latched wiring.toolId with _ | condition
    · rcases quiet : s.offlineFailOff wiring now moduleTimeout with _ | name
      · rcases denial : s.interlockDenial wiring.toolId now wiring.interlocks with _ | reason
        · simp only [latch, quiet, denial, ite_eq_left_iff, reduceCtorEq, imp_false, Decidable.not_not] at allowed
          exact ⟨wired, latch, offlineFailOff_eq_none.mp quiet, interlockDenial_eq_none.mp denial, allowed⟩
        · simp [latch, quiet, denial] at allowed
      · simp [latch, quiet] at allowed
    · simp [latch] at allowed
  · rintro ⟨-, latch, heard, held, inUse⟩
    simp only [latch, offlineFailOff_eq_none.mpr heard, interlockDenial_eq_none.mpr held, inUse, if_true]

structure SameInputs (s t : ModuleState) : Prop where
  snapshot : t.snapshot = s.snapshot
  readings : t.readings = s.readings
  moduleSeen : t.moduleSeen = s.moduleSeen
  localSessions : t.localSessions = s.localSessions
  syncedInUse : t.syncedInUse = s.syncedInUse
  localSessionGrace : t.localSessionGrace = s.localSessionGrace
  localStops : t.localStops = s.localStops
  relayState : t.relayState = s.relayState

namespace SameInputs
variable {s t u : ModuleState}

theorem refl (s : ModuleState) : SameInputs s s := ⟨rfl, rfl, rfl, rfl, rfl, rfl, rfl, rfl⟩

theorem trans (first : SameInputs s t) (second : SameInputs t u) : SameInputs s u where
  snapshot := second.snapshot.trans first.snapshot
  readings := second.readings.trans first.readings
  moduleSeen := second.moduleSeen.trans first.moduleSeen
  localSessions := second.localSessions.trans first.localSessions
  syncedInUse := second.syncedInUse.trans first.syncedInUse
  localSessionGrace := second.localSessionGrace.trans first.localSessionGrace
  localStops := second.localStops.trans first.localStops
  relayState := second.relayState.trans first.relayState

theorem wiring (same : SameInputs s t) (tool : String) : t.wiring tool = s.wiring tool := by
  simp only [ModuleState.wiring, same.snapshot]

theorem satisfied (same : SameInputs s t) (key : String) (rule : ToolInterlockRule) (now : Int) :
    t.satisfied key rule now = s.satisfied key rule now := by
  simp only [ModuleState.satisfied, same.readings]

theorem silentFailOff (same : SameInputs s t) (now : Int) (timeout : Int) (m : DeviceBinding) :
    t.silentFailOff now timeout m = s.silentFailOff now timeout m := by
  simp only [ModuleState.silentFailOff, same.moduleSeen]

theorem inUse (same : SameInputs s t) (key : String) (now : Int) : t.inUse key now = s.inUse key now := by
  simp only [ModuleState.inUse, same.syncedInUse, same.localSessions]

theorem cleared (same : SameInputs s t) {tool : String} {now : Int} {timeout : Int}
    {wiring : ToolModuleTool} (fewer : t.latched wiring.toolId = none → s.latched wiring.toolId = none)
    (after : t.Cleared tool now timeout wiring) : s.Cleared tool now timeout wiring where
  wired := (same.wiring tool).symm.trans after.wired
  unlatched := fewer after.unlatched
  heard m member := (same.silentFailOff now timeout m).symm.trans (after.heard m member)
  held rule member := (same.satisfied _ rule now).symm.trans (after.held rule member)
  inUse := (same.inUse _ now).symm.trans after.inUse

end SameInputs

/-- What a renewal can do, guards included: it answers the decision, moves one
lease, and latches one condition when the decision is a trip that latches. -/
theorem renew_cases (s : ModuleState) (tool : String) (now : Int) (ttl moduleTimeout : Int) :
    (s.evaluate tool now moduleTimeout = .allow ∧
      s.renew tool now ttl moduleTimeout =
        ({ s with leases := s.leases.insert (s.toolKey tool) (now + ttl) }, .allow)) ∨
    (∃ condition, s.evaluate tool now moduleTimeout = .deny (.tripped condition) ∧
      s.latches tool condition = true ∧
      s.renew tool now ttl moduleTimeout =
        ({ s with
            leases := s.leases.erase (s.toolKey tool)
            latched := s.latched.insert (s.toolKey tool) condition }, .deny (.tripped condition))) ∨
    (∃ denial, s.evaluate tool now moduleTimeout = .deny denial ∧
      (∀ condition, denial = .tripped condition → s.latches tool condition = false) ∧
      s.renew tool now ttl moduleTimeout =
        ({ s with leases := s.leases.erase (s.toolKey tool) }, .deny denial)) := by
  rcases decision : s.evaluate tool now moduleTimeout with _ | denial
  · exact .inl ⟨rfl, by simp only [renew, decision]⟩
  · refine .inr ?_
    cases denial with
    | tripped condition =>
      rcases named : s.latches tool condition with _ | _
      · refine .inr ⟨_, rfl, ?_, by simp [renew, decision, named]⟩
        intro other same
        obtain rfl := Denial.tripped.inj same
        exact named
      · exact .inl ⟨condition, rfl, named, by simp [renew, decision, named]⟩
    | _ => exact .inr ⟨_, rfl, by simp, by simp only [renew, decision]⟩

theorem renew_decision (s : ModuleState) (tool : String) (now : Int) (ttl moduleTimeout : Int) :
    (s.renew tool now ttl moduleTimeout).2 = s.evaluate tool now moduleTimeout := by
  obtain ⟨decision, same⟩ | ⟨_, decision, -, same⟩ | ⟨_, decision, -, same⟩ :=
    s.renew_cases tool now ttl moduleTimeout
  all_goals rw [same, decision]

theorem renew_sameInputs (s : ModuleState) (tool : String) (now : Int) (ttl moduleTimeout : Int) :
    SameInputs s (s.renew tool now ttl moduleTimeout).1 := by
  obtain ⟨-, same⟩ | ⟨_, -, -, same⟩ | ⟨_, -, -, same⟩ := s.renew_cases tool now ttl moduleTimeout
  all_goals rw [same]; exact ⟨rfl, rfl, rfl, rfl, rfl, rfl, rfl, rfl⟩

theorem observe_eq (s : ModuleState) (toolId condition : String) (asserted : Bool) (now : Int) :
    ∃ readings, s.observe toolId condition asserted now = { s with readings := readings } := by
  unfold observe
  split
  · split
    · exact ⟨s.readings, rfl⟩
    · exact ⟨_, rfl⟩
  · exact ⟨_, rfl⟩

theorem observe_readings_of_ne {s : ModuleState} {toolId condition : String} {key : String × String}
    (asserted : Bool) (now : Int) (other : key ≠ (toolId, condition)) :
    (s.observe toolId condition asserted now).readings key = s.readings key := by
  unfold observe
  split
  · split
    · rfl
    · exact Table.insert_of_ne _ _ other
  · exact Table.insert_of_ne _ _ other

/-- A reading once one more observation is in: its instant moves only with its value. -/
def noted (prev : Option Reading) (asserted : Bool) (now : Int) : Reading :=
  match prev with
  | some reading => if reading.asserted = asserted then reading else ⟨asserted, now⟩
  | none => ⟨asserted, now⟩

theorem observe_readings_self (s : ModuleState) (toolId condition : String) (asserted : Bool) (now : Int) :
    (s.observe toolId condition asserted now).readings (toolId, condition) =
      some (noted (s.readings (toolId, condition)) asserted now) := by
  rcases held : s.readings (toolId, condition) with _ | reading
  · simp only [observe, held, noted, Table.insert_self]
  · by_cases same : reading.asserted = asserted
    · simp only [observe, held, noted, if_pos same]
    · simp only [observe, held, noted, if_neg same, Table.insert_self]

end CoopSpaces.ModuleState

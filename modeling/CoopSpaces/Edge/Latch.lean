import CoopSpaces.Edge.Tick

namespace CoopSpaces

namespace ModuleState

/-- A latching trip of the resource fires: its reading is observed, settled and
on the trip side. -/
def TripFires (s : ModuleState) (wiring : ToolModuleTool) (now : Int) : Prop :=
  ∃ rule ∈ wiring.interlocks, rule.kind = "trip" ∧ rule.latch = true ∧
    ∃ reading, s.readings (wiring.toolId, rule.condition) = some reading ∧
      milliseconds (max rule.debounceMs 0) ≤ now - reading.since ∧ reading.asserted = isHazard rule.condition

/-- No fail-off module is silent, and the first rule that does not hold, in the
order the wiring lists them, is a trip observed firing whose condition some
latching trip names. -/
def TripFirst (s : ModuleState) (wiring : ToolModuleTool) (now moduleTimeout : Int) : Prop :=
  (∀ m ∈ wiring.modules, s.silentFailOff now moduleTimeout m = false) ∧
    ∃ before rule after, wiring.interlocks = before ++ rule :: after ∧
      (∀ earlier ∈ before, s.satisfied wiring.toolId earlier now = some true) ∧
      s.satisfied wiring.toolId rule now = some false ∧ rule.kind = "trip" ∧
      ∃ other ∈ wiring.interlocks, other.kind = "trip" ∧ other.condition = rule.condition ∧ other.latch = true

def Unmasked (s : ModuleState) (wiring : ToolModuleTool) (now moduleTimeout : Int) : Prop :=
  (s.latched wiring.toolId).isSome ∨ s.TripFirst wiring now moduleTimeout

theorem interlockDenial_eq_tripped {s : ModuleState} {key condition : String} {now : Int}
    {rules : List ToolInterlockRule} :
    s.interlockDenial key now rules = some (.tripped condition) ↔
      ∃ before rule after, rules = before ++ rule :: after ∧
        (∀ earlier ∈ before, s.satisfied key earlier now = some true) ∧
        s.satisfied key rule now = some false ∧ rule.kind = "trip" ∧ rule.condition = condition := by
  induction rules with
  | nil => simp [interlockDenial]
  | cons first rest ih =>
    constructor
    · intro denied
      rcases value : s.satisfied key first now with _ | _ | _
      · simp [interlockDenial, value] at denied
      · by_cases trip : first.kind = "trip"
        · simp only [interlockDenial, value, if_pos trip, Option.some.injEq, Denial.tripped.injEq] at denied
          exact ⟨[], first, rest, rfl, by simp, value, trip, denied⟩
        · simp [interlockDenial, value, trip] at denied
      · simp only [interlockDenial, value] at denied
        obtain ⟨before, rule, after, rfl, held, fires, trip, named⟩ := ih.mp denied
        refine ⟨first :: before, rule, after, rfl, ?_, fires, trip, named⟩
        intro earlier member
        rcases List.mem_cons.mp member with rfl | old
        · exact value
        · exact held earlier old
    · rintro ⟨before, rule, after, split, held, fires, trip, named⟩
      rcases before with _ | ⟨head, before⟩
      · obtain ⟨rfl, rfl⟩ := List.cons.inj split
        simp only [interlockDenial, fires, if_pos trip, named]
      · obtain ⟨rfl, rfl⟩ := List.cons.inj split
        simp only [interlockDenial, held first (List.mem_cons_self ..)]
        refine ih.mpr ⟨before, rule, after, rfl, ?_, fires, trip, named⟩
        exact fun earlier member => held earlier (List.mem_cons_of_mem _ member)

theorem evaluate_eq_tripped {s : ModuleState} {tool condition : String} {wiring : ToolModuleTool}
    {now moduleTimeout : Int} (wired : s.wiring tool = some wiring) :
    s.evaluate tool now moduleTimeout = .deny (.tripped condition) ↔
      s.latched wiring.toolId = none ∧ s.offlineFailOff wiring now moduleTimeout = none ∧
        s.interlockDenial wiring.toolId now wiring.interlocks = some (.tripped condition) := by
  rw [evaluate_wired wired]
  rcases s.latched wiring.toolId with _ | latch
  · rcases s.offlineFailOff wiring now moduleTimeout with _ | name
    · rcases s.interlockDenial wiring.toolId now wiring.interlocks with _ | denial
      · by_cases used : s.inUse wiring.toolId now = true <;> simp [used]
      · simp
    · simp
  · simp

theorem latches_iff {s : ModuleState} {tool condition : String} {wiring : ToolModuleTool}
    (wired : s.wiring tool = some wiring) :
    s.latches tool condition = true ↔
      ∃ rule ∈ wiring.interlocks, rule.kind = "trip" ∧ rule.condition = condition ∧ rule.latch = true := by
  simp only [latches, wired, Option.map_some, Option.getD_some, List.any_eq_true, Bool.and_eq_true,
    beq_iff_eq, and_assoc]

theorem tripFirst_iff {s : ModuleState} {tool : String} {wiring : ToolModuleTool} {now moduleTimeout : Int}
    (wired : s.wiring tool = some wiring) (unlatched : s.latched wiring.toolId = none) :
    s.TripFirst wiring now moduleTimeout ↔
      ∃ condition, s.evaluate tool now moduleTimeout = .deny (.tripped condition) ∧
        s.latches tool condition = true := by
  constructor
  · rintro ⟨heard, before, rule, after, split, held, fires, trip, named⟩
    refine ⟨rule.condition, (evaluate_eq_tripped wired).mpr ⟨unlatched, offlineFailOff_eq_none.mpr heard, ?_⟩,
      (latches_iff wired).mpr named⟩
    exact interlockDenial_eq_tripped.mpr ⟨before, rule, after, split, held, fires, trip, rfl⟩
  · rintro ⟨condition, decision, named⟩
    obtain ⟨-, heard, denial⟩ := (evaluate_eq_tripped wired).mp decision
    obtain ⟨before, rule, after, split, held, fires, trip, rfl⟩ := interlockDenial_eq_tripped.mp denial
    exact ⟨offlineFailOff_eq_none.mp heard, before, rule, after, split, held, fires, trip,
      (latches_iff wired).mp named⟩

theorem renew_latched_iff {s : ModuleState} {tool : String} {wiring : ToolModuleTool} {now moduleTimeout : Int}
    (ttl : Int) (wired : s.wiring tool = some wiring) :
    ((s.renew tool now ttl moduleTimeout).1.latched wiring.toolId).isSome ↔ s.Unmasked wiring now moduleTimeout := by
  by_cases latch : (s.latched wiring.toolId).isSome
  · exact iff_of_true (renew_latched_isSome latch) (.inl latch)
  · have unlatched : s.latched wiring.toolId = none := Option.not_isSome_iff_eq_none.mp latch
    have key : s.toolKey tool = wiring.toolId := by
      simp only [toolKey, wired, Option.map_some, Option.getD_some]
    rw [Unmasked, or_iff_right latch, tripFirst_iff wired unlatched]
    obtain ⟨decision, same⟩ | ⟨condition, decision, named, same⟩ | ⟨denial, decision, unnamed, same⟩ :=
      s.renew_cases tool now ttl moduleTimeout
    · simp [same, decision, unlatched]
    · rw [same, key]
      simp only [Table.insert_self, Option.isSome_some, true_iff]
      exact ⟨condition, decision, named⟩
    · rw [same]
      refine iff_of_false latch ?_
      rintro ⟨condition, tripped, named⟩
      obtain rfl := Decision.deny.inj (decision.symm.trans tripped)
      rw [unnamed condition rfl] at named
      exact Bool.noConfusion named

theorem renew_latched_of_ne {s : ModuleState} {tool key : String} (now ttl moduleTimeout : Int)
    (other : key ≠ s.toolKey tool) :
    (s.renew tool now ttl moduleTimeout).1.latched key = s.latched key := by
  obtain ⟨-, same⟩ | ⟨_, -, -, same⟩ | ⟨_, -, -, same⟩ := s.renew_cases tool now ttl moduleTimeout
  · rw [same]
  · rw [same]
    exact Table.insert_of_ne _ _ other
  · rw [same]

theorem SameInputs.tripFirst {s t : ModuleState} (same : SameInputs s t) (wiring : ToolModuleTool)
    (now moduleTimeout : Int) : t.TripFirst wiring now moduleTimeout ↔ s.TripFirst wiring now moduleTimeout := by
  simp only [TripFirst, same.silentFailOff, same.satisfied]

/-- The latch a tick leaves: each listed tool's turn latches by the state its
tick started from, and no other tool's turn touches its key. -/
theorem tickTools_latched_iff {s t : ModuleState} {wiring : ToolModuleTool} {now moduleTimeout : Int} (ttl : Int)
    {tools : List String} (later : Renewed s t) (listed : ∀ tool ∈ tools, tool ∈ s.tools)
    (wired : s.wiring wiring.toolId = some wiring)
    (earned : (t.latched wiring.toolId).isSome → s.Unmasked wiring now moduleTimeout) :
    ((t.tickTools now ttl moduleTimeout tools).1.latched wiring.toolId).isSome ↔
      (t.latched wiring.toolId).isSome ∨ wiring.toolId ∈ tools ∧ s.Unmasked wiring now moduleTimeout := by
  induction tools generalizing t with
  | nil => simp [tickTools]
  | cons tool rest ih =>
    have turn := t.tickTool_renewed tool now ttl moduleTimeout
    have restListed := fun other member => listed other (List.mem_cons_of_mem tool member)
    obtain ⟨found, here, named⟩ := wiring_of_listed (listed tool (List.mem_cons_self ..))
    rw [← later.wiring] at here wired
    by_cases same : tool = wiring.toolId
    · subst same
      obtain rfl := Option.some.inj (here.symm.trans wired)
      have latch : ((t.tickTool found.toolId now ttl moduleTimeout).1.latched found.toolId).isSome ↔
          s.Unmasked found now moduleTimeout := by
        rw [tickTool_latched, renew_latched_iff ttl wired, Unmasked, later.tripFirst]
        constructor
        · rintro (held | first)
          · exact earned held
          · exact .inr first
        · rintro (held | first)
          · exact .inl (later.latched _ held)
          · exact .inr first
      have others := ih (later.trans turn) restListed latch.mp
      rw [tickTools, others, latch]
      simp only [List.mem_cons, true_or, true_and]
      tauto
    · have key : t.toolKey tool = tool := by
        simp only [toolKey, here, Option.map_some, Option.getD_some, named]
      have untouched : (t.tickTool tool now ttl moduleTimeout).1.latched wiring.toolId = t.latched wiring.toolId := by
        rw [tickTool_latched]
        exact renew_latched_of_ne now ttl moduleTimeout (by rw [key]; exact Ne.symm same)
      have others := ih (later.trans turn) restListed (by rw [untouched]; exact earned)
      rw [tickTools, others, untouched]
      simp only [List.mem_cons, Ne.symm same, false_or]

def Evaluates (s : ModuleState) (tool : String) (now moduleTimeout : Int) : Call → Prop
  | .renew name at_ _ timeout => name = tool ∧ at_ = now ∧ timeout = moduleTimeout
  | .tick at_ _ timeout => tool ∈ s.tools ∧ at_ = now ∧ timeout = moduleTimeout
  | _ => False

theorem call_latched_iff {s : ModuleState} {tool : String} {wiring : ToolModuleTool} {now moduleTimeout : Int}
    {call : Call} (evaluates : s.Evaluates tool now moduleTimeout call) (wired : s.wiring tool = some wiring) :
    ((s.call call).latched wiring.toolId).isSome ↔ s.Unmasked wiring now moduleTimeout := by
  cases call with
  | renew name at_ ttl timeout =>
    obtain ⟨rfl, rfl, rfl⟩ := evaluates
    exact renew_latched_iff ttl wired
  | tick at_ ttl timeout =>
    obtain ⟨listed, rfl, rfl⟩ := evaluates
    obtain ⟨found, here, rfl⟩ := wiring_of_listed listed
    obtain rfl := Option.some.inj (wired.symm.trans here)
    have passed := tickTools_latched_iff ttl (.refl s) (fun _ listed => listed) wired
      (fun latch => .inl latch : (s.latched wiring.toolId).isSome → s.Unmasked wiring at_ timeout)
    refine passed.trans ⟨?_, fun unmasked => .inr ⟨listed, unmasked⟩⟩
    rintro (latch | ⟨-, unmasked⟩)
    · exact .inl latch
    · exact unmasked
  | _ => exact evaluates.elim

theorem call_latched_isSome {s : ModuleState} {key : String} {call : Call} (kept : call ≠ .resetLatch key)
    (latch : (s.latched key).isSome) : ((s.call call).latched key).isSome := by
  cases call with
  | renew tool now ttl timeout => exact renew_latched_isSome latch
  | tick now ttl timeout => exact (s.tick_renewed now ttl timeout).latched key latch
  | resetLatch toolId =>
    have other : key ≠ toolId := fun same => kept (by rw [same])
    simpa only [call, resetLatch, Table.erase_of_ne _ other] using latch
  | observe toolId condition asserted now =>
    obtain ⟨_, same⟩ := s.observe_eq toolId condition asserted now
    simpa only [call, same] using latch
  | _ => exact latch

/-- Denied at every later instant, however the calls go on, as long as none of
them resets the latch; a resource the wiring has dropped is not judged. -/
def StaysDenied (s : ModuleState) (key : String) (now moduleTimeout : Int) : Prop :=
  ∀ future : List Call, .resetLatch key ∉ future →
    ∀ name wiring later, (engine.runFrom s future).wiring name = some wiring → wiring.toolId = key → now ≤ later →
      (engine.runFrom s future).evaluate name later moduleTimeout ≠ .allow

theorem staysDenied_of_latched {s : ModuleState} {key : String} (latch : (s.latched key).isSome)
    (now moduleTimeout : Int) : s.StaysDenied key now moduleTimeout := by
  rintro future noReset name wiring later wired rfl -
  have held : ((engine.runFrom s future).latched wiring.toolId).isSome := by
    refine engine.runFrom_invariant (fun t => (t.latched wiring.toolId).isSome) (· ≠ .resetLatch wiring.toolId)
      ?_ latch ?_
    · exact fun t call kept latched => call_latched_isSome kept latched
    · exact fun call member same => noReset (same ▸ member)
  intro allowed
  have unlatched := ((evaluate_eq_allow wired).mp allowed).unlatched
  rw [unlatched] at held
  exact Bool.noConfusion held

/-- Both values of a condition, the safe one last, so that it has just changed. -/
def clears (key : String) (now : Int) (rule : ToolInterlockRule) : List Call :=
  [.observe key rule.condition (isHazard rule.condition) now,
    .observe key rule.condition (!isHazard rule.condition) now]

theorem clears_readings (s : ModuleState) (key : String) (now : Int) (rules : List ToolInterlockRule) :
    ∃ readings : Table (String × String) Reading,
      engine.runFrom s (rules.flatMap (clears key now)) = { s with readings := readings } ∧
        ∀ condition, (condition ∈ rules.map (·.condition) ∨
            s.readings (key, condition) = some ⟨!isHazard condition, now⟩) →
          readings (key, condition) = some ⟨!isHazard condition, now⟩ := by
  induction rules generalizing s with
  | nil => exact ⟨s.readings, rfl, by simp⟩
  | cons rule rest ih =>
    have first : ∀ condition, (condition = rule.condition ∨
        s.readings (key, condition) = some ⟨!isHazard condition, now⟩) →
        (engine.runFrom s (clears key now rule)).readings (key, condition) = some ⟨!isHazard condition, now⟩ := by
      intro condition clear
      simp only [clears, Machine.runFrom_cons, Machine.runFrom_nil, engine, call]
      by_cases same : condition = rule.condition
      · subst same
        rw [observe_readings_self, observe_readings_self]
        rcases s.readings (key, rule.condition) with _ | reading
        · simp [noted]
        · by_cases unsafe_ : reading.asserted = isHazard rule.condition <;> simp [noted, unsafe_]
      · have other : (key, condition) ≠ (key, rule.condition) := by simpa using same
        rw [observe_readings_of_ne _ _ other, observe_readings_of_ne _ _ other]
        exact clear.resolve_left same
    have frame : ∃ readings, engine.runFrom s (clears key now rule) = { s with readings := readings } := by
      simp only [clears, Machine.runFrom_cons, Machine.runFrom_nil, engine, call]
      obtain ⟨one, same⟩ := s.observe_eq key rule.condition (isHazard rule.condition) now
      rw [same]
      obtain ⟨two, again⟩ := ({ s with readings := one } : ModuleState).observe_eq key rule.condition
        (!isHazard rule.condition) now
      exact ⟨two, again⟩
    obtain ⟨middle, same⟩ := frame
    obtain ⟨readings, run, clear⟩ := ih (engine.runFrom s (clears key now rule))
    refine ⟨readings, ?_, ?_⟩
    · rw [List.flatMap_cons, Machine.runFrom_append, run, same]
    · rintro condition (member | already)
      · rcases List.mem_cons.mp member with rfl | later
        · exact clear _ (.inr (first _ (.inl rfl)))
        · exact clear condition (.inl later)
      · exact clear condition (.inr (first condition (.inr already)))

theorem seen_moduleSeen (s : ModuleState) (at_ : Int) (modules : List DeviceBinding) :
    ∃ moduleSeen : Table String Int,
      engine.runFrom s (modules.map fun m => .noteModuleSeen m.id at_) = { s with moduleSeen := moduleSeen } ∧
        ∀ id, (id ∈ modules.map (·.id) ∨ s.moduleSeen id = some at_) → moduleSeen id = some at_ := by
  induction modules generalizing s with
  | nil => exact ⟨s.moduleSeen, rfl, by simp⟩
  | cons m rest ih =>
    obtain ⟨moduleSeen, run, seen⟩ := ih (s.noteModuleSeen m.id at_)
    refine ⟨moduleSeen, run, ?_⟩
    intro id heard
    refine seen id ?_
    simp only [noteModuleSeen, Table.insert_apply]
    by_cases same : id = m.id
    · exact .inr (by rw [if_pos same])
    · rw [if_neg same]
      simpa [same] using heard

def longestDebounce (rules : List ToolInterlockRule) : Int :=
  (rules.map fun rule => max rule.debounceMs 0).foldr max 0

theorem le_longestDebounce {rules : List ToolInterlockRule} {rule : ToolInterlockRule} (member : rule ∈ rules) :
    max rule.debounceMs 0 ≤ longestDebounce rules := by
  induction rules with
  | nil => simp at member
  | cons first rest ih =>
    have here : longestDebounce (first :: rest) = max (max first.debounceMs 0) (longestDebounce rest) := rfl
    rcases List.mem_cons.mp member with rfl | later
    · omega
    · have bound := ih later
      omega

theorem satisfied_of_clear {s : ModuleState} {key : String} {rule : ToolInterlockRule} {now later : Int}
    (clear : s.readings (key, rule.condition) = some ⟨!isHazard rule.condition, now⟩)
    (settled : milliseconds (max rule.debounceMs 0) ≤ later - now) : s.satisfied key rule later = some true := by
  have acted : effective ⟨!isHazard rule.condition, now⟩ rule later = !isHazard rule.condition := by
    simp only [effective, ge_iff_le, decide_eq_true_eq, settled, if_true]
  simp only [satisfied, clear, Option.map_some, acted]
  cases isHazard rule.condition <;> rfl

/-- From any unlatched state some calls clear the resource: every hazard goes
quiet, every module reports and a member signs on. None of them is a reset. -/
theorem cleared_again {s : ModuleState} {tool : String} {wiring : ToolModuleTool}
    (wired : s.wiring tool = some wiring)
    (unlatched : s.latched wiring.toolId = none) (now moduleTimeout : Int) :
    ∃ future : List Call, .resetLatch wiring.toolId ∉ future ∧ ∃ later, now ≤ later ∧
      (engine.runFrom s future).wiring tool = some wiring ∧
        (engine.runFrom s future).evaluate tool later moduleTimeout = .allow := by
  let later := now + milliseconds (longestDebounce wiring.interlocks)
  obtain ⟨readings, observed, clear⟩ := s.clears_readings wiring.toolId now wiring.interlocks
  obtain ⟨moduleSeen, reported, seen⟩ :=
    ({ s with readings := readings } : ModuleState).seen_moduleSeen (later - moduleTimeout) wiring.modules
  let t : ModuleState := { s with readings := readings, moduleSeen := moduleSeen }
  refine ⟨wiring.interlocks.flatMap (clears wiring.toolId now) ++
    (wiring.modules.map fun m => .noteModuleSeen m.id (later - moduleTimeout)) ++
    [.openSession tool later none], ?_, later, ?_, ?_⟩
  · simp [clears]
  · have positive : 0 ≤ longestDebounce wiring.interlocks := by
      unfold longestDebounce
      cases wiring.interlocks with
      | nil => simp
      | cons rule rest => exact (le_max_right rule.debounceMs 0).trans (le_max_left _ _)
    simp only [later, milliseconds]
    omega
  · have final : engine.runFrom s (wiring.interlocks.flatMap (clears wiring.toolId now) ++
        (wiring.modules.map fun m => .noteModuleSeen m.id (later - moduleTimeout)) ++
        [.openSession tool later none]) = t.openSession tool later none := by
      rw [Machine.runFrom_append, Machine.runFrom_append, observed, reported]
      rfl
    rw [final]
    have stillWired : (t.openSession tool later none).wiring tool = some wiring := wired
    refine ⟨stillWired, (evaluate_eq_allow stillWired).mpr ⟨stillWired, unlatched, ?_, ?_, ?_⟩⟩
    · intro m member
      have heard : moduleSeen m.id = some (later - moduleTimeout) := seen m.id (.inl (List.mem_map_of_mem member))
      exact silentFailOff_of_seen (show (t.openSession tool later none).moduleSeen m.id = some _ from heard)
        (by omega)
    · intro rule member
      refine satisfied_of_clear (clear _ (.inl (List.mem_map_of_mem member))) ?_
      have bound := le_longestDebounce member
      simp only [later, milliseconds]
      omega
    · have key : t.toolKey tool = wiring.toolId := by
        simp only [toolKey, ModuleState.wiring, t]
        rw [show (s.snapshot.bind (resolve · tool)) = some wiring from wired]
        rfl
      simp only [inUse, openSession, key, Table.insert_self]
      simp

theorem staysDenied_iff {s : ModuleState} {tool : String} {wiring : ToolModuleTool}
    (wired : s.wiring tool = some wiring) (now moduleTimeout : Int) :
    s.StaysDenied wiring.toolId now moduleTimeout ↔ (s.latched wiring.toolId).isSome := by
  constructor
  · intro denied
    by_contra latch
    obtain ⟨future, noReset, later, after, stillWired, allowed⟩ :=
      cleared_again wired (Option.not_isSome_iff_eq_none.mp latch) now moduleTimeout
    exact denied future noReset tool wiring later stillWired rfl after allowed
  · exact fun latch => staysDenied_of_latched latch now moduleTimeout

theorem Evaluates.wiring {s : ModuleState} {tool : String} {now moduleTimeout : Int} {call : Call}
    (evaluates : s.Evaluates tool now moduleTimeout call) (name : String) :
    (s.call call).wiring name = s.wiring name := by
  cases call with
  | renew other at_ ttl timeout => exact (s.renew_sameInputs other at_ ttl timeout).wiring name
  | tick at_ ttl timeout => exact (s.tick_renewed at_ ttl timeout).wiring name
  | _ => exact evaluates.elim

end ModuleState

/-- A firing latching trip keeps its resource denied until the reset exactly when
nothing masks it at the instant it is evaluated: every module that must be heard
from is, and the first rule that does not hold is a trip that latches. -/
theorem latching_trip_stays_denied_iff (past : List Call) (call : Call) (tool : String) (wiring : ToolModuleTool)
    (now moduleTimeout : Int) (evaluates : (engine.run past).Evaluates tool now moduleTimeout call)
    (wired : (engine.run past).wiring tool = some wiring) (anyTimeout : Int) :
    ((engine.run past).TripFires wiring now →
        (engine.run (past ++ [call])).StaysDenied wiring.toolId now anyTimeout) ↔
      ((engine.run past).TripFires wiring now → (engine.run past).Unmasked wiring now moduleTimeout) := by
  have after : engine.run (past ++ [call]) = (engine.run past).call call := engine.run_snoc past call
  have stillWired := (evaluates.wiring tool).trans wired
  rw [after, ModuleState.staysDenied_iff stillWired, ModuleState.call_latched_iff evaluates wired]

def lidGate : ToolInterlockRule := { kind := "start_gate", condition := "lid_open", debounceMs := 0, latch := false }

def estopTrip : ToolInterlockRule := { kind := "trip", condition := "estop", debounceMs := 0, latch := true }

def laser : ToolModuleTool :=
  { toolId := "laser", externalId := none, kind := "tool", sessionProfile := "until_stopped", inUse := false,
    modules := [], interlocks := [lidGate, estopTrip] }

def lidShut : List Call :=
  [.applyState ⟨[laser]⟩ none 0, .observe "laser" "lid_open" false 0, .observe "laser" "estop" true 0]

theorem latching_trip_stays_denied_iff_estop :
    (engine.run (lidShut ++ [.renew "laser" (seconds 1) (seconds 10) (seconds 30)])).StaysDenied "laser" (seconds 1)
      (seconds 30) := by
  have firing : (engine.run lidShut).TripFires laser (seconds 1) :=
    ⟨estopTrip, by decide, rfl, rfl, ⟨true, 0⟩, by decide, by decide, by decide⟩
  have unmasked : (engine.run lidShut).Unmasked laser (seconds 1) (seconds 30) := by
    refine .inr ⟨by decide, [lidGate], estopTrip, [], rfl, by decide, by decide, rfl, estopTrip, ?_⟩
    decide
  exact (latching_trip_stays_denied_iff lidShut (.renew "laser" (seconds 1) (seconds 10) (seconds 30)) "laser" laser
    (seconds 1) (seconds 30) ⟨rfl, rfl, rfl⟩ (by decide) (seconds 30)).mpr (fun _ => unmasked) firing

/-- The same with the lid open as well: the gate answers first. -/
def lidOpen : List Call :=
  [.applyState ⟨[laser]⟩ none 0, .observe "laser" "lid_open" true 0, .observe "laser" "estop" true 0]

def bothReleased : List Call :=
  [.observe "laser" "lid_open" false (seconds 2), .observe "laser" "estop" false (seconds 2),
    .openSession "laser" (seconds 2) none]

/-- The emergency stop fires while the lid is open, and the tick latches nothing:
with the button released and the lid shut the laser runs again with no reset. -/
theorem latching_trip_masked :
    (engine.run lidOpen).Evaluates "laser" (seconds 1) (seconds 30) (.tick (seconds 1) (seconds 10) (seconds 30)) ∧
      (engine.run lidOpen).wiring "laser" = some laser ∧
      (engine.run lidOpen).TripFires laser (seconds 1) ∧
      ¬ (engine.run (lidOpen ++ [.tick (seconds 1) (seconds 10) (seconds 30)])).StaysDenied "laser" (seconds 1)
        (seconds 30) := by
  refine ⟨⟨by decide, rfl, rfl⟩, by decide, ?_, ?_⟩
  · exact ⟨estopTrip, by decide, rfl, rfl, ⟨true, 0⟩, by decide, by decide, by decide⟩
  · intro denied
    exact denied bothReleased (by decide) "laser" laser (seconds 3) (by decide) rfl (by decide) (by decide)

end CoopSpaces

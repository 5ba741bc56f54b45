import CoopSpaces.Edge.Tick
import CoopSpaces.Lib.Signal

namespace CoopSpaces
open Signal ModuleState

def samples (key condition : String) (past : List Call) : List (Sample Bool) :=
  past.filterMap fun
    | .observe toolId name asserted now => if (key, condition) = (toolId, name) then some ⟨asserted, now⟩ else none
    | _ => none

theorem samples_append (key condition : String) (past more : List Call) :
    samples key condition (past ++ more) = samples key condition past ++ samples key condition more :=
  List.filterMap_append

/-- What a call does to one input's reading: it notes a sample of it, or leaves it alone. -/
theorem readings_call (s : ModuleState) (key condition : String) (call : Call) :
    (∃ asserted now, samples key condition [call] = [⟨asserted, now⟩] ∧
      (s.call call).readings (key, condition) =
        some (ModuleState.noted (s.readings (key, condition)) asserted now)) ∨
    (samples key condition [call] = [] ∧
      (s.call call).readings (key, condition) = s.readings (key, condition)) := by
  cases call with
  | observe toolId name asserted now =>
    by_cases same : (key, condition) = (toolId, name)
    · refine .inl ⟨asserted, now, by simp only [samples, List.filterMap_cons, if_pos same, List.filterMap_nil], ?_⟩
      obtain ⟨rfl, rfl⟩ := Prod.mk.inj same
      exact s.observe_readings_self key condition asserted now
    · refine .inr ⟨by simp only [samples, List.filterMap_cons, if_neg same, List.filterMap_nil], ?_⟩
      exact ModuleState.observe_readings_of_ne asserted now same
  | renew tool now ttl timeout =>
    exact .inr ⟨rfl, by rw [ModuleState.call, (s.renew_sameInputs tool now ttl timeout).readings]⟩
  | tick now ttl timeout =>
    exact .inr ⟨rfl, by rw [ModuleState.call, (s.tick_renewed now ttl timeout).readings]⟩
  | _ => exact .inr ⟨rfl, rfl⟩

/-- The stored reading is the last run of the input: its value, and where it began. -/
theorem readings_run (key condition : String) (past : List Call) :
    (engine.run past).readings (key, condition) =
      (runs (samples key condition past)).getLast?.map fun run => ⟨run.value, run.taken⟩ := by
  refine engine.run_invariant (fun past s => s.readings (key, condition) =
    (runs (samples key condition past)).getLast?.map fun run => ⟨run.value, run.taken⟩) rfl ?_ past
  intro past call stored
  have step : (engine.step (engine.run past) call).1 = (engine.run past).call call := rfl
  rw [samples_append, step]
  obtain ⟨asserted, now, fresh, moved⟩ | ⟨none_, kept⟩ := readings_call (engine.run past) key condition call
  · rw [moved, fresh, stored]
    obtain ⟨empty, one⟩ | ⟨front, last, before, after⟩ := runs_snoc (samples key condition past) ⟨asserted, now⟩
    · rw [one, empty]
      rfl
    · rw [before, after, List.getLast?_concat, Option.map_some]
      by_cases keeps : last.value = asserted
      · simp [ModuleState.noted, keeps]
      · simp [ModuleState.noted, keeps]
  · rw [kept, none_, List.append_nil, stored]

def delay (rule : ToolInterlockRule) : Int := milliseconds (max rule.debounceMs 0)

/-- The value a rule acts on; an input never observed counts as on its hazardous side. -/
def ModuleState.acted (s : ModuleState) (key : String) (rule : ToolInterlockRule) (now : Int) : Bool :=
  ((s.readings (key, rule.condition)).map fun reading => effective reading rule now).getD (isHazard rule.condition)

/-- The value the debounce law wants a rule to act on: the one its input last held
for the whole debounce, the hazardous one before there is any. -/
def debouncedValue (past : List Call) (key : String) (rule : ToolInterlockRule) (now : Int) : Bool :=
  debounced (delay rule) (isHazard rule.condition) (runs (samples key rule.condition past)) now

/-- The reading has outlasted the debounce, or it undid the value debounced as it began. -/
def Settles (past : List Call) (key : String) (rule : ToolInterlockRule) (now : Int) : Prop :=
  ∀ last, (runs (samples key rule.condition past)).getLast? = some last →
    delay rule ≤ now - last.taken ∨
      debounced (delay rule) (isHazard rule.condition) (runs (samples key rule.condition past)).dropLast last.taken =
        !last.value

theorem satisfied_iff_acted {s : ModuleState} {key : String} {rule : ToolInterlockRule} {now : Int} :
    s.satisfied key rule now = some true ↔ s.acted key rule now = !isHazard rule.condition := by
  unfold ModuleState.satisfied ModuleState.acted
  cases s.readings (key, rule.condition) with
  | none => simp
  | some reading =>
    simp only [Option.map_some, Option.some.injEq, Option.getD_some]
    cases isHazard rule.condition <;> simp

theorem acted_eq_debounced_iff (past : List Call) (key : String) (rule : ToolInterlockRule) (now : Int) :
    (engine.run past).acted key rule now = debouncedValue past key rule now ↔ Settles past key rule now := by
  unfold ModuleState.acted debouncedValue Settles
  rw [readings_run]
  rcases List.eq_nil_or_concat (runs (samples key rule.condition past)) with empty | ⟨front, last, concat⟩
  · simp [empty, debounced, spans]
  · rw [List.concat_eq_append] at concat
    rw [concat, debounced_snoc, List.getLast?_concat, List.dropLast_concat]
    simp only [Option.map_some, Option.getD_some, Option.some.injEq, forall_eq', ModuleState.effective, ge_iff_le]
    by_cases settled : delay rule ≤ now - last.taken
    · have lasted : milliseconds (max rule.debounceMs 0) ≤ now - last.taken := settled
      simp [settled, lasted]
    · have under : ¬ milliseconds (max rule.debounceMs 0) ≤ now - last.taken := settled
      simp [settled, under, eq_comm]

theorem denied_of_hazard {past : List Call} {tool : String} {wiring : ToolModuleTool} {rule : ToolInterlockRule}
    {now timeout : Int} (wired : (engine.run past).wiring tool = some wiring) (member : rule ∈ wiring.interlocks)
    (settles : Settles past wiring.toolId rule now)
    (hazard : debouncedValue past wiring.toolId rule now = isHazard rule.condition) :
    (engine.run past).evaluate tool now timeout ≠ .allow := by
  intro allowed
  have held := ((evaluate_eq_allow wired).mp allowed).held rule member
  have safe := satisfied_iff_acted.mp held
  rw [(acted_eq_debounced_iff past wiring.toolId rule now).mpr settles, hazard] at safe
  cases h : isHazard rule.condition <;> simp [h] at safe

/-- The debounce law holds of a rule exactly when the input's reading has settled
or undid the debounced value; where it holds, an input that flaps faster than the
debounce leaves a denied tool denied. -/
theorem debounce_law_iff (past : List Call) (rule : ToolInterlockRule) (now : Int) :
    (∀ key, (engine.run past).acted key rule now = debouncedValue past key rule now ↔ Settles past key rule now) ∧
    ∀ more tool wiring earlier timeout,
      (engine.run (past ++ more)).wiring tool = some wiring → rule ∈ wiring.interlocks →
      debouncedValue past wiring.toolId rule earlier = isHazard rule.condition →
      (∀ sample ∈ samples wiring.toolId rule.condition more, earlier ≤ sample.taken) → earlier ≤ now →
      (∀ span ∈ (spans (runs (samples wiring.toolId rule.condition (past ++ more))) now).drop
          (runs (samples wiring.toolId rule.condition past)).length,
        span.2 - span.1.taken < delay rule) →
      (∀ span, (spans (runs (samples wiring.toolId rule.condition (past ++ more))) now)[
          (runs (samples wiring.toolId rule.condition past)).length - 1]? = some span →
        span.2 - span.1.taken < delay rule ∨ delay rule ≤ earlier - span.1.taken) →
      Settles (past ++ more) wiring.toolId rule now →
      (engine.run (past ++ more)).evaluate tool now timeout ≠ .allow := by
  refine ⟨fun key => acted_eq_debounced_iff past key rule now, ?_⟩
  intro more tool wiring earlier timeout wired member hazard ordered after short current settles
  refine denied_of_hazard wired member settles ?_
  rw [samples_append] at short current
  have same := debounced_flapping (isHazard rule.condition) ordered after short current
  rw [debouncedValue, samples_append, same]
  exact hazard

def lidTrip : ToolInterlockRule := { kind := "trip", condition := "lid_open", debounceMs := 500, latch := false }

def cutter : ToolModuleTool :=
  { toolId := "cutter", externalId := none, kind := "tool", sessionProfile := "until_stopped", inUse := false,
    modules := [], interlocks := [lidTrip] }

def lidStandsOpen : List Call :=
  [.applyState ⟨[cutter]⟩ none 0, .openSession "cutter" 0 none, .observe "cutter" "lid_open" true 0]

def bounce : List Call := [.observe "cutter" "lid_open" false (seconds 10)]

def doubleBounce : List Call := bounce ++ [.observe "cutter" "lid_open" true (seconds 10 + milliseconds 100)]

theorem debounce_law_iff_bounce :
    (engine.run (lidStandsOpen ++ bounce)).evaluate "cutter" (seconds 10 + milliseconds 200) (seconds 30) ≠
    .allow := by
  refine (debounce_law_iff lidStandsOpen lidTrip (seconds 10 + milliseconds 200)).2 bounce "cutter" cutter (seconds 9)
    (seconds 30) (by decide) (by decide) (by decide) (by decide) (by decide) (by decide) ?_ ?_
  · intro span here
    have current : (spans (runs (samples "cutter" "lid_open" (lidStandsOpen ++ bounce)))
      (seconds 10 + milliseconds 200))[0]? =
        some (⟨true, 0⟩, seconds 10) := by decide
    obtain rfl := Option.some.inj (current.symm.trans here)
    exact .inr (by decide)
  · intro last here
    have final : (runs (samples "cutter" "lid_open" (lidStandsOpen ++ bounce))).getLast? =
        some ⟨false, seconds 10⟩ := by
      decide
    obtain rfl := Option.some.inj (final.symm.trans here)
    exact .inr (by decide)

/-- The lid is open throughout but for a tenth of a second, and the cutter, denied
while it stood open, is allowed once the bounce is over. -/
theorem debounce_law_flapping :
    (engine.run lidStandsOpen).evaluate "cutter" (seconds 9) (seconds 30) = .deny (.tripped "lid_open") ∧
      (engine.run (lidStandsOpen ++ doubleBounce)).evaluate "cutter" (seconds 10 + milliseconds 200) (seconds 30) =
        .allow ∧
      (engine.run (lidStandsOpen ++ doubleBounce)).acted "cutter" lidTrip (seconds 10 + milliseconds 200) ≠
        debouncedValue (lidStandsOpen ++ doubleBounce) "cutter" lidTrip (seconds 10 + milliseconds 200) := by
  decide

end CoopSpaces

import CoopSpaces.Edge.Tick
import CoopSpaces.Lib.Since

namespace CoopSpaces

def LastAllowed (log : List Pass) (key : String) : Prop :=
  Since (fun _ p => p.wiring.toolId = key ∧ p.decision = .allow) (fun p => p.wiring.toolId ≠ key) log

/-- A binding was leased, and no pass has refused it since. -/
def Leased (log : List Pass) (id : String) : Prop :=
  Since (fun _ p => ∃ entry ∈ p.power, entry.1.id = id ∧ entry.2.grant = true)
    (fun p => ∀ entry ∈ p.power, entry.1.id = id → entry.2.grant = true) log

/-- A pass opens a run-on window for a binding: it denies a tool its last pass
allowed, and the binding is one of the tool's that was on and must spin down. -/
structure OpensRunOn (id : String) (until_ : Int) (before : List Pass) (p : Pass) : Prop where
  denied : p.decision ≠ .allow
  wasAllowed : LastAllowed before p.wiring.toolId
  wasLeased : Leased before id
  bound : ∃ b ∈ powerBindings p.wiring, b.id = id ∧ 0 < b.runOnMs ∧ until_ = p.now + milliseconds b.runOnMs

/-- A run-on window that was opened and has not ended: no later pass over the
binding allowed its tool again, or came at or after the window's end. -/
def RunOnWindow (log : List Pass) (id : String) (until_ : Int) : Prop :=
  Since (OpensRunOn id until_)
    (fun p => ∀ b ∈ powerBindings p.wiring, b.id = id → p.decision ≠ .allow ∧ p.now < until_) log

/-- What the clocks a tick keeps say about the passes so far. -/
structure LeaseInv (log : List Pass) (s : ModuleState) : Prop where
  allowed : ∀ key since, s.allowedSince key = some since → LastAllowed log key
  granted : ∀ id since, s.grantedSince id = some since → Leased log id
  runOn : ∀ id until_, s.runOnUntil id = some until_ → RunOnWindow log id until_

namespace ModuleState

variable {wiring : ToolModuleTool} {s : ModuleState} {b : DeviceBinding}

theorem openRunOn_eq_some {power : List DeviceBinding} {now until_ : Int} {id : String}
    (found : s.openRunOn power now id = some until_) :
    (∃ b ∈ power, b.id = id ∧ (b.runOnMs > 0 ∧ (s.grantedSince b.id).isSome) ∧
      until_ = now + milliseconds b.runOnMs) ∨ s.runOnUntil id = some until_ := by
  unfold openRunOn at found
  exact Table.foldl_insert_eq_some found

theorem runningOn_of_not_stopped {now : Int} (bound : b ∈ powerBindings wiring)
    (kept : b.id ∉ ((powerBindings wiring).filter fun b => !s.runningOn wiring now b).map (·.id)) :
    s.runningOn wiring now b = true := by
  by_contra stopped
  exact kept (List.mem_map.mpr ⟨b, List.mem_filter.mpr ⟨bound, by simpa using stopped⟩, rfl⟩)

theorem runningOn_iff {now : Int} :
    s.runningOn wiring now b = true ↔ ∃ until_, s.runOnWindows wiring now b.id = some until_ ∧ now < until_ := by
  unfold runningOn
  cases s.runOnWindows wiring now b.id <;> simp

theorem denyPass_entry {tool : String} {denial : Denial} {now : Int} {ttlMs : Int}
    {entry : DeviceBinding × LeaseAction} (member : entry ∈ (s.denyPass tool wiring denial now ttlMs).power) :
    entry.1 ∈ powerBindings wiring ∧ entry.2.grant = s.runningOn wiring now entry.1 := by
  obtain ⟨b, bound, rfl⟩ := List.mem_map.mp member
  rcases running : s.runningOn wiring now b with _ | _
  · simp [lease, bound, running]
  · simp [lease, bound, running]

theorem denyTool_ahead {now until_ : Int} (bound : b ∈ powerBindings wiring)
    (found : (s.denyTool wiring now).runOnUntil b.id = some until_) : now < until_ := by
  obtain ⟨kept, window⟩ := Table.eraseAll_eq_some.mp found
  obtain ⟨end_, here, ahead⟩ := runningOn_iff.mp (runningOn_of_not_stopped bound kept)
  obtain rfl := Option.some.inj (window.symm.trans here)
  exact ahead

theorem denyTool_running {now : Int} (running : s.runningOn wiring now b = true) :
    ∃ until_, now < until_ ∧ (s.denyTool wiring now).runOnUntil b.id = some until_ := by
  obtain ⟨until_, window, ahead⟩ := runningOn_iff.mp running
  refine ⟨until_, ahead, Table.eraseAll_eq_some.mpr ⟨?_, window⟩⟩
  intro stopped
  obtain ⟨other, fits, sameId⟩ := List.mem_map.mp stopped
  have stops := (List.mem_filter.mp fits).2
  rw [Bool.not_eq_true', ← Bool.not_eq_true, runningOn_iff, sameId] at stops
  exact stops ⟨until_, window, ahead⟩

theorem allowPass_entry {tool : String} {now : Int} {ttlMs : Int} {entry : DeviceBinding × LeaseAction}
    (member : entry ∈ (s.allowPass tool wiring now ttlMs).power) :
    entry.1 ∈ s.startedBindings wiring now ∧ entry.2.grant = true := by
  obtain ⟨b, started, rfl⟩ := List.mem_map.mp member
  exact ⟨started, rfl⟩

end ModuleState

namespace LeaseInv
open ModuleState (lease)
variable {log : List Pass} {s : ModuleState}

theorem allowTool (inv : LeaseInv log s) (tool : String) (wiring : ToolModuleTool) (now : Int) (ttlMs : Int) :
    LeaseInv (log ++ [s.allowPass tool wiring now ttlMs]) (s.allowTool wiring now) where
  allowed key since found := by
    rcases Table.insert_eq_some.mp found with ⟨rfl, -⟩ | ⟨other, old⟩
    · exact Since.now ⟨rfl, rfl⟩
    · exact (inv.allowed key since old).later (Ne.symm other)
  granted id since found := by
    rcases Table.foldl_orInsert_eq_some found with ⟨b, started, rfl⟩ | old
    · refine Since.now ⟨lease tool ttlMs true none b, ?_, rfl, rfl⟩
      exact List.mem_map.mpr ⟨b, started, rfl⟩
    · obtain ⟨earlier, old⟩ := Option.isSome_iff_exists.mp old
      refine (inv.granted id earlier old).later ?_
      exact fun entry member _ => (ModuleState.allowPass_entry member).2
  runOn id until_ found := by
    obtain ⟨cleared, old⟩ := Table.eraseAll_eq_some.mp found
    refine (inv.runOn id until_ old).later ?_
    intro b bound same
    exact absurd (List.mem_map.mpr ⟨b, bound, same⟩) cleared

theorem denyTool (inv : LeaseInv log s) (tool : String) (wiring : ToolModuleTool) (denial : Denial)
    (now : Int) (ttlMs : Int) :
    LeaseInv (log ++ [s.denyPass tool wiring denial now ttlMs]) (s.denyTool wiring now) where
  allowed key since found := by
    obtain ⟨other, old⟩ := Table.erase_eq_some.mp found
    exact (inv.allowed key since old).later (Ne.symm other)
  granted id since found := by
    obtain ⟨kept, old⟩ := Table.eraseAll_eq_some.mp found
    refine (inv.granted id since old).later ?_
    rintro entry member rfl
    obtain ⟨bound, answer⟩ := ModuleState.denyPass_entry member
    rw [answer]
    exact ModuleState.runningOn_of_not_stopped bound kept
  runOn id until_ found := by
    have window := (Table.eraseAll_eq_some.mp found).2
    -- Either this pass is the transition and opened the window, or it was open
    -- before and every binding it is for was answered by it.
    have before : s.runOnUntil id = some until_ →
        RunOnWindow (log ++ [s.denyPass tool wiring denial now ttlMs]) id until_ := by
      intro old
      refine (inv.runOn id until_ old).later ?_
      rintro b bound rfl
      exact ⟨by simp [ModuleState.denyPass], ModuleState.denyTool_ahead bound found⟩
    rw [ModuleState.runOnWindows] at window
    split at window
    · rename_i transition
      rcases ModuleState.openRunOn_eq_some window with ⟨b, bound, rfl, ⟨spins, on⟩, rfl⟩ | old
      · obtain ⟨since, was⟩ := Option.isSome_iff_exists.mp transition
        obtain ⟨leasedSince, leased⟩ := Option.isSome_iff_exists.mp on
        exact Since.now ⟨by simp [ModuleState.denyPass], inv.allowed _ since was, inv.granted _ leasedSince leased,
          b, bound, rfl, spins, rfl⟩
      · exact before old
    · exact before window

theorem of_clocks {t : ModuleState} (inv : LeaseInv log s) (allowed : t.allowedSince = s.allowedSince)
    (granted : t.grantedSince = s.grantedSince) (runOn : t.runOnUntil = s.runOnUntil) : LeaseInv log t where
  allowed := allowed ▸ inv.allowed
  granted := granted ▸ inv.granted
  runOn := runOn ▸ inv.runOn

theorem renew (inv : LeaseInv log s) (tool : String) (now : Int) (ttl moduleTimeout : Int) :
    LeaseInv log (s.renew tool now ttl moduleTimeout).1 := by
  obtain ⟨-, same⟩ | ⟨_, -, -, same⟩ | ⟨_, -, -, same⟩ := s.renew_cases tool now ttl moduleTimeout
  all_goals rw [same]; exact inv.of_clocks rfl rfl rfl

end LeaseInv

namespace ModuleState

/-- The tool a pass is about may be energized: the decision itself, and all it rests on. -/
def Permitted (s : ModuleState) (p : Pass) (now : Int) (moduleTimeout : Int) : Prop :=
  s.evaluate p.wiring.toolId now moduleTimeout = .allow ∧
    s.hasState = true ∧ s.Cleared p.wiring.toolId now moduleTimeout p.wiring

/-- Why a pass may grant what it grants, given the passes up to it. -/
structure Justified (s : ModuleState) (now : Int) (moduleTimeout : Int) (log : List Pass) (p : Pass) :
    Prop where
  power : ∀ entry ∈ p.power, entry.2.grant = true →
    s.Permitted p now moduleTimeout ∨ ∃ until_, now < until_ ∧ RunOnWindow log entry.1.id until_
  sensors : ∀ entry ∈ p.sensors, entry.2.grant = true → s.Permitted p now moduleTimeout

theorem permitted_of_renewed {s t : ModuleState} (later : Renewed s t) {p : Pass} {now : Int}
    {timeout : Int} (wired : t.wiring p.wiring.toolId = some p.wiring)
    (allowed : t.evaluate p.wiring.toolId now timeout = .allow) : s.Permitted p now timeout := by
  have cleared := later.cleared later.unlatched ((evaluate_eq_allow wired).mp allowed)
  refine ⟨(evaluate_eq_allow cleared.wired).mpr cleared, ?_, cleared⟩
  obtain ⟨snapshot, held, -⟩ := Option.bind_eq_some_iff.mp cleared.wired
  simp only [hasState, held, Option.isSome_some]

/-- One tool's turn keeps the invariant and justifies what it grants, judged
against the state its tick started from. -/
theorem tickTool_justified {s t : ModuleState} {log : List Pass} {tool : String} {now : Int}
    {timeout : Int} (ttl : Int) (later : Renewed s t) (listed : tool ∈ s.tools) (inv : LeaseInv log t) :
    ∃ p, (t.tickTool tool now ttl timeout).2 = some p ∧
      LeaseInv (log ++ [p]) (t.tickTool tool now ttl timeout).1 ∧
      s.Justified now timeout (log ++ [p]) p := by
  have renewed := inv.renew tool now ttl timeout
  obtain ⟨found, wired, rfl⟩ := wiring_of_listed listed
  rw [← later.wiring] at wired
  obtain ⟨unwired, -⟩ | ⟨wiring, here, allowed, turn⟩ | ⟨wiring, denial, here, denied, turn⟩ :=
    t.tickTool_cases found.toolId now ttl timeout
  · simp [wired] at unwired
  · obtain rfl := Option.some.inj (wired.symm.trans here)
    have permitted := permitted_of_renewed later
      (p := (t.renew found.toolId now ttl timeout).1.allowPass found.toolId found now
        (max (numMilliseconds ttl) 0)) wired allowed
    rw [turn]
    exact ⟨_, rfl, renewed.allowTool _ _ _ _, fun _ _ _ => .inl permitted, fun _ _ _ => permitted⟩
  · obtain rfl := Option.some.inj (wired.symm.trans here)
    have kept := renewed.denyTool found.toolId found denial now (max (numMilliseconds ttl) 0)
    rw [turn]
    refine ⟨_, rfl, kept, ?_, ?_⟩
    · intro entry member grant
      obtain ⟨bound, answer⟩ := denyPass_entry member
      obtain ⟨until_, ahead, window⟩ := denyTool_running (answer.symm.trans grant)
      exact .inr ⟨until_, ahead, kept.runOn _ _ window⟩
    · intro entry member grant
      obtain ⟨b, -, rfl⟩ := List.mem_map.mp member
      simp [lease] at grant

theorem tickTools_justified {s t : ModuleState} {log : List Pass} {now : Int} {timeout : Int}
    (ttl : Int) {tools : List String} (later : Renewed s t) (listed : ∀ tool ∈ tools, tool ∈ s.tools)
    (inv : LeaseInv log t) :
    LeaseInv (log ++ (t.tickTools now ttl timeout tools).2) (t.tickTools now ttl timeout tools).1 ∧
      ∀ before p after, (t.tickTools now ttl timeout tools).2 = before ++ p :: after →
        s.Justified now timeout (log ++ before ++ [p]) p := by
  induction tools generalizing t log with
  | nil => exact ⟨by simpa [tickTools] using inv, by simp [tickTools]⟩
  | cons tool rest ih =>
    obtain ⟨q, answer, kept, justified⟩ :=
      tickTool_justified ttl later (listed tool (List.mem_cons_self ..)) inv
    have turn := t.tickTool_renewed tool now ttl timeout
    have others := ih (later.trans turn) (fun other member => listed other (List.mem_cons_of_mem _ member)) kept
    simp only [tickTools, answer, Option.toList_some, List.singleton_append]
    refine ⟨by simpa using others.1, ?_⟩
    intro before p after split
    rcases before with _ | ⟨first, before⟩
    · obtain rfl : q = p := (List.cons.inj split).1
      simpa using justified
    · obtain ⟨rfl, tail⟩ := List.cons.inj split
      simpa using others.2 before p after tail

theorem tick_justified (s : ModuleState) (now : Int) (ttl timeout : Int) {log : List Pass}
    (inv : LeaseInv log s) :
    LeaseInv (log ++ (s.tickPasses now ttl timeout).2) (s.tickPasses now ttl timeout).1 ∧
      ∀ before p after, (s.tickPasses now ttl timeout).2 = before ++ p :: after →
        s.Justified now timeout (log ++ before ++ [p]) p :=
  tickTools_justified ttl (.refl s) (fun _ listed => listed) inv

end ModuleState

theorem LeaseInv.call {log : List Pass} {s : ModuleState} (inv : LeaseInv log s) (call : Call) :
    LeaseInv (log ++ s.passes call) (s.call call) := by
  cases call with
  | tick now ttl timeout => exact (s.tick_justified now ttl timeout inv).1
  | renew tool now ttl timeout =>
    simp only [ModuleState.passes, List.append_nil]
    exact inv.renew tool now ttl timeout
  | observe toolId condition asserted now =>
    obtain ⟨_, same⟩ := s.observe_eq toolId condition asserted now
    simp only [ModuleState.passes, List.append_nil, ModuleState.call, same]
    exact inv.of_clocks rfl rfl rfl
  | _ =>
    simp only [ModuleState.passes, List.append_nil]
    exact inv.of_clocks rfl rfl rfl

theorem passLog_snoc (past : List Call) (call : Call) :
    passLog (past ++ [call]) = passLog past ++ (engine.run past).passes call :=
  engine.history_snoc ModuleState.passes past call

theorem leaseInv_run (past : List Call) : LeaseInv (passLog past) (engine.run past) := by
  refine engine.run_invariant (fun past s => LeaseInv (passLog past) s) ?_ ?_ past
  · refine ⟨?_, ?_, ?_⟩
    all_goals
      intro key value found
      exact absurd found (by simp [engine, ModuleState.new])
  · intro past call inv
    rw [passLog_snoc]
    exact inv.call call

structure Renewal where
  key : String
  now : Int
  ttl : Int
  decision : Decision
  deriving DecidableEq

def ModuleState.renewals (s : ModuleState) : Call → List Renewal
  | .renew tool now ttl moduleTimeout =>
    [⟨s.toolKey tool, now, ttl, (s.renew tool now ttl moduleTimeout).2⟩]
  | .tick now ttl moduleTimeout =>
    (s.tickPasses now ttl moduleTimeout).2.map fun p => ⟨p.wiring.toolId, now, ttl, p.decision⟩
  | _ => []

def renewalLog (past : List Call) : List Renewal := engine.history ModuleState.renewals past

def Covered (log : List Renewal) (key : String) (until_ : Int) : Prop :=
  Since (fun _ r => r.key = key ∧ r.decision = .allow ∧ until_ = r.now + r.ttl) (fun r => r.key ≠ key) log

/-- Every lease held is the work of its key's last renewal. -/
def RenewalInv (log : List Renewal) (s : ModuleState) : Prop :=
  ∀ key until_, s.leases key = some until_ → Covered log key until_

namespace RenewalInv
variable {log : List Renewal} {s : ModuleState}

theorem renew (inv : RenewalInv log s) (tool : String) (now : Int) (ttl moduleTimeout : Int) :
    RenewalInv (log ++ [⟨s.toolKey tool, now, ttl, s.evaluate tool now moduleTimeout⟩])
      (s.renew tool now ttl moduleTimeout).1 := by
  intro key until_ found
  obtain ⟨decision, same⟩ | ⟨_, decision, -, same⟩ | ⟨_, decision, -, same⟩ :=
    s.renew_cases tool now ttl moduleTimeout
  · rw [same] at found
    rcases Table.insert_eq_some.mp found with ⟨rfl, rfl⟩ | ⟨other, old⟩
    · exact Since.now ⟨rfl, decision, rfl⟩
    · exact (inv key until_ old).later (Ne.symm other)
  all_goals
    rw [same] at found
    obtain ⟨other, old⟩ := Table.erase_eq_some.mp found
    exact (inv key until_ old).later (Ne.symm other)

theorem tickTool (inv : RenewalInv log s) {tool : String} (listed : tool ∈ s.tools) (now : Int)
    (ttl moduleTimeout : Int) :
    ∃ p, (s.tickTool tool now ttl moduleTimeout).2 = some p ∧
      RenewalInv (log ++ [⟨p.wiring.toolId, now, ttl, p.decision⟩]) (s.tickTool tool now ttl moduleTimeout).1 := by
  obtain ⟨found, wired, rfl⟩ := ModuleState.wiring_of_listed listed
  have key : s.toolKey found.toolId = found.toolId := by
    simp only [ModuleState.toolKey, wired, Option.map_some, Option.getD_some]
  have renewed := inv.renew found.toolId now ttl moduleTimeout
  rw [key] at renewed
  obtain ⟨unwired, -⟩ | ⟨wiring, here, allowed, turn⟩ | ⟨wiring, denial, here, denied, turn⟩ :=
    s.tickTool_cases found.toolId now ttl moduleTimeout
  · simp [wired] at unwired
  · obtain rfl := Option.some.inj (wired.symm.trans here)
    rw [allowed] at renewed
    rw [turn]
    exact ⟨_, rfl, renewed⟩
  · obtain rfl := Option.some.inj (wired.symm.trans here)
    rw [denied] at renewed
    rw [turn]
    exact ⟨_, rfl, renewed⟩

theorem tickTools (inv : RenewalInv log s) {tools : List String} (listed : ∀ tool ∈ tools, tool ∈ s.tools)
    (now : Int) (ttl moduleTimeout : Int) :
    RenewalInv (log ++ (s.tickTools now ttl moduleTimeout tools).2.map fun p =>
      ⟨p.wiring.toolId, now, ttl, p.decision⟩)
      (s.tickTools now ttl moduleTimeout tools).1 := by
  induction tools generalizing s log with
  | nil => simpa [ModuleState.tickTools] using inv
  | cons tool rest ih =>
    obtain ⟨p, answer, kept⟩ := inv.tickTool (listed tool (List.mem_cons_self ..)) now ttl moduleTimeout
    have turn := s.tickTool_sameInputs tool now ttl moduleTimeout
    have others := ih kept (fun other member => by
      simpa only [ModuleState.tools, turn.snapshot] using listed other (List.mem_cons_of_mem _ member))
    simpa [ModuleState.tickTools, answer] using others

theorem call (inv : RenewalInv log s) (call : Call) : RenewalInv (log ++ s.renewals call) (s.call call) := by
  cases call with
  | tick now ttl timeout => exact inv.tickTools (fun _ listed => listed) now ttl timeout
  | renew tool now ttl timeout =>
    simp only [ModuleState.renewals, ModuleState.renew_decision]
    exact inv.renew tool now ttl timeout
  | observe toolId condition asserted now =>
    obtain ⟨_, same⟩ := s.observe_eq toolId condition asserted now
    simp only [ModuleState.renewals, List.append_nil, ModuleState.call, same]
    exact inv
  | _ =>
    simp only [ModuleState.renewals, List.append_nil]
    exact inv

end RenewalInv

theorem renewalInv_run (past : List Call) : RenewalInv (renewalLog past) (engine.run past) := by
  refine engine.run_invariant (fun past s => RenewalInv (renewalLog past) s) ?_ ?_ past
  · intro key until_ found
    exact absurd found (by simp [engine, ModuleState.new])
  · intro past call inv
    have snoc : renewalLog (past ++ [call]) = renewalLog past ++ (engine.run past).renewals call :=
      engine.history_snoc ModuleState.renewals past call
    rw [snoc]
    exact inv.call call

theorem leaseValid_covered {past : List Call} {resource : String} {now : Int}
    (valid : (engine.run past).leaseValid resource now = true) :
    ∃ until_, now < until_ ∧ Covered (renewalLog past) ((engine.run past).toolKey resource) until_ := by
  obtain ⟨until_, held, ahead⟩ := (Option.any_eq_true _ _).mp valid
  exact ⟨until_, of_decide_eq_true ahead, renewalInv_run past _ _ held⟩

/-- The power lease is safe after every run of calls: a power binding is granted
only while the engine allows its tool or inside a run-on window still open, a
sensor only while it allows, and a lease nobody renews runs out. -/
theorem power_lease_safe (past : List Call) :
    (∀ now ttl timeout before p after,
      ((engine.run past).tickPasses now ttl timeout).2 = before ++ p :: after →
        (∀ entry ∈ p.power, entry.2.grant = true →
          (engine.run past).Permitted p now timeout ∨
            ∃ until_, now < until_ ∧ RunOnWindow (passLog past ++ before ++ [p]) entry.1.id until_) ∧
        (∀ entry ∈ p.sensors, entry.2.grant = true → (engine.run past).Permitted p now timeout)) ∧
    ∀ resource now,
      (∀ r ∈ renewalLog past, r.key = (engine.run past).toolKey resource → r.now + r.ttl ≤ now) →
        (engine.run past).leaseValid resource now = false := by
  refine ⟨?_, ?_⟩
  · intro now ttl timeout before p after split
    have justified := ((engine.run past).tick_justified now ttl timeout (leaseInv_run past)).2 before p after split
    exact ⟨justified.power, justified.sensors⟩
  · intro resource now lapsed
    by_contra valid
    rw [Bool.not_eq_false] at valid
    obtain ⟨until_, ahead, before, r, after, split, ⟨same, -, rfl⟩, -⟩ := leaseValid_covered valid
    have old := lapsed r (by simp [split]) same
    omega

def fan : DeviceBinding :=
  { id := "fan", deviceId := "plug", role := "power", name := "fan", onDisconnect := "hold_last", runOnMs := 5000 }

def lathe : ToolModuleTool :=
  { toolId := "lathe", externalId := none, kind := "tool", sessionProfile := "until_stopped", inUse := false,
    modules := [fan], interlocks := [] }

def signedOff : List Call :=
  [.applyState ⟨[lathe]⟩ none 0, .openSession "lathe" 0 none, .tick 0 (seconds 10) (seconds 30),
    .closeSession "lathe" (seconds 1)]

def spinDown : Pass :=
  { wiring := lathe, now := seconds 1, decision := .deny .notInUse,
    power := [(fan, ⟨"lathe", "plug", true, 10000, none⟩)], sensors := [] }

theorem power_lease_safe_spin_down :
    ((engine.run signedOff).Permitted spinDown (seconds 1) (seconds 30) ∨
      ∃ until_, seconds 1 < until_ ∧ RunOnWindow (passLog signedOff ++ [] ++ [spinDown]) "fan" until_) ∧
    (engine.run signedOff).leaseValid "lathe" (seconds 60) = false := by
  have safe := power_lease_safe signedOff
  refine ⟨?_, ?_⟩
  · have passes : ((engine.run signedOff).tickPasses (seconds 1) (seconds 10) (seconds 30)).2 = [] ++
        spinDown :: [] := by
      decide
    exact (safe.1 (seconds 1) (seconds 10) (seconds 30) [] spinDown [] passes).1 _ (List.mem_singleton.mpr rfl) rfl
  · refine safe.2 "lathe" (seconds 60) ?_
    decide

end CoopSpaces

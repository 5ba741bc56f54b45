import CoopSpaces.Edge.Tick
import CoopSpaces.Lib.Since

namespace CoopSpaces

/-- What a run shows of its ticks: the tools each went over and the passes it made,
with the relay reports in between. -/
inductive TickNote
  | report (deviceId : String) (relayOn : Bool) (at_ : Int)
  | tick (tools : List String)
  | pass (p : Pass)
  deriving DecidableEq

/-- An allowing pass carries the key's allow on, or begins one. A refusal ends it,
and so does a tick that does not list the key: nothing renews its leases then. -/
def allowStep (key : String) (run : List Pass × Bool) : TickNote → List Pass × Bool
  | .report _ _ _ => run
  | .tick tools => if key ∈ tools then run else (run.1, false)
  | .pass p =>
    if p.wiring.toolId = key then
      if p.decision = .allow then (if run.2 then run.1 ++ [p] else [p], true) else (run.1, false)
    else run

def allowRun (key : String) (log : List TickNote) : List Pass × Bool := log.foldl (allowStep key) ([], false)

/-- The passes of a key's last contiguous allow. -/
def lastAllow (log : List TickNote) (key : String) : List Pass := (allowRun key log).1

/-- That allow still goes on. -/
def Ongoing (log : List TickNote) (key : String) : Prop := (allowRun key log).2 = true

instance (log : List TickNote) (key : String) : Decidable (Ongoing log key) :=
  inferInstanceAs (Decidable ((allowRun key log).2 = true))

/-- The contiguous allow of the key that goes on began at this instant. -/
def BegunAt (log : List TickNote) (key : String) (start : Int) : Prop :=
  Ongoing log key ∧ (lastAllow log key).head?.map (·.now) = some start

/-- The key's last pass allowed, whatever ticks missed it since. -/
def LastPassAllowed (log : List TickNote) (key : String) : Prop :=
  Since (fun _ note => ∃ p, note = .pass p ∧ p.wiring.toolId = key ∧ p.decision = .allow)
    (fun note => ∀ p, note = .pass p → p.wiring.toolId ≠ key) log

/-- The last report of a device's relay. -/
def LastReport (log : List TickNote) (deviceId : String) (relayOn : Bool) (at_ : Int) : Prop :=
  Since (fun _ note => note = .report deviceId relayOn at_)
    (fun note => ∀ relayOn at_, note ≠ .report deviceId relayOn at_) log

section AllowRun
variable {log : List TickNote} {key : String} {p : Pass}

theorem allowRun_snoc (key : String) (log : List TickNote) (note : TickNote) :
    allowRun key (log ++ [note]) = allowStep key (allowRun key log) note := by
  simp only [allowRun, List.foldl_append, List.foldl_cons, List.foldl_nil]

theorem allowRun_report (deviceId : String) (relayOn : Bool) (at_ : Int) :
    allowRun key (log ++ [.report deviceId relayOn at_]) = allowRun key log := allowRun_snoc key log _

theorem allowRun_other (other : p.wiring.toolId ≠ key) : allowRun key (log ++ [.pass p]) = allowRun key log := by
  simp only [allowRun_snoc, allowStep, if_neg other]

theorem allowRun_tick (tools : List String) :
    allowRun key (log ++ [.tick tools]) = (lastAllow log key, decide (key ∈ tools) && (allowRun key log).2) := by
  rw [allowRun_snoc]
  by_cases listed : key ∈ tools <;> simp [allowStep, lastAllow, listed]

theorem allowRun_extends (goes : Ongoing log key) (same : p.wiring.toolId = key) (allowed : p.decision = .allow) :
    allowRun key (log ++ [.pass p]) = (lastAllow log key ++ [p], true) := by
  have on : (allowRun key log).2 = true := goes
  simp only [allowRun_snoc, allowStep, if_pos same, if_pos allowed, if_pos on, lastAllow]

theorem allowRun_begins (idle : ¬ Ongoing log key) (same : p.wiring.toolId = key) (allowed : p.decision = .allow) :
    allowRun key (log ++ [.pass p]) = ([p], true) := by
  have off : ¬ (allowRun key log).2 = true := idle
  simp only [allowRun_snoc, allowStep, if_pos same, if_pos allowed, if_neg off]

theorem ongoing_allow (same : p.wiring.toolId = key) (allowed : p.decision = .allow) :
    Ongoing (log ++ [.pass p]) key := by
  rw [Ongoing, allowRun_snoc, allowStep, if_pos same, if_pos allowed]

theorem allowRun_deny (same : p.wiring.toolId = key) (denied : p.decision ≠ .allow) :
    allowRun key (log ++ [.pass p]) = (lastAllow log key, false) := by
  simp only [allowRun_snoc, allowStep, if_pos same, if_neg denied, lastAllow]

theorem ongoing_other (other : p.wiring.toolId ≠ key) : Ongoing (log ++ [.pass p]) key ↔ Ongoing log key := by
  rw [Ongoing, Ongoing, allowRun_other other]

theorem lastPassAllowed_allow (same : p.wiring.toolId = key) (allowed : p.decision = .allow) :
    LastPassAllowed (log ++ [.pass p]) key := Since.now ⟨p, rfl, same, allowed⟩

theorem LastPassAllowed.other (last : LastPassAllowed log key) (other : p.wiring.toolId ≠ key) :
    LastPassAllowed (log ++ [.pass p]) key := by
  refine last.later ?_
  intro q same
  obtain rfl := TickNote.pass.inj same
  exact other

theorem LastPassAllowed.quiet {note : TickNote} (last : LastPassAllowed log key) (quiet : ∀ p, note ≠ .pass p) :
    LastPassAllowed (log ++ [note]) key := last.later fun q same => absurd same (quiet q)

end AllowRun

/-- One tool's turn in a tick: the notes and the state it starts from. -/
structure Turn where
  log : List TickNote
  state : ModuleState
  tool : String
  now : Int
  ttl : Int
  timeout : Int

namespace Turn

def outcome (turn : Turn) : ModuleState × Option Pass :=
  turn.state.tickTool turn.tool turn.now turn.ttl turn.timeout

def logAfter (turn : Turn) : List TickNote := turn.log ++ turn.outcome.2.toList.map .pass

end Turn

namespace ModuleState

def turnsOf (s : ModuleState) (log : List TickNote) (now ttl timeout : Int) : List String → List Turn
  | [] => []
  | tool :: rest =>
    let turn : Turn := ⟨log, s, tool, now, ttl, timeout⟩
    turn :: turn.outcome.1.turnsOf turn.logAfter now ttl timeout rest

def toolTurns (s : ModuleState) (log : List TickNote) : Call → List Turn
  | .tick now ttl timeout => s.turnsOf (log ++ [.tick s.tools]) now ttl timeout s.tools
  | _ => []

def tickNotes (s : ModuleState) : Call → List TickNote
  | .noteRelayState deviceId relayOn now => [.report deviceId relayOn now]
  | .tick now ttl timeout => .tick s.tools :: (s.tickPasses now ttl timeout).2.map .pass
  | _ => []

/-- The clocks a tick keeps, and the reports it reads, are the same. -/
structure SameClocks (s t : ModuleState) : Prop where
  allowedSince : t.allowedSince = s.allowedSince
  grantedSince : t.grantedSince = s.grantedSince
  runOnUntil : t.runOnUntil = s.runOnUntil
  relayState : t.relayState = s.relayState

theorem renew_sameClocks (s : ModuleState) (tool : String) (now ttl timeout : Int) :
    s.SameClocks (s.renew tool now ttl timeout).1 := by
  obtain ⟨-, same⟩ | ⟨_, -, -, same⟩ | ⟨_, -, -, same⟩ := s.renew_cases tool now ttl timeout
  all_goals rw [same]; exact ⟨rfl, rfl, rfl, rfl⟩

end ModuleState

def tickLog (past : List Call) : List TickNote := engine.history ModuleState.tickNotes past

/-- A law of turns holds at every turn of every tick of a run. -/
def EveryTurn (law : Turn → Prop) (calls : List Call) : Prop :=
  EveryStep (fun past call => ∀ turn ∈ (engine.run past).toolTurns (tickLog past) call, law turn) calls

theorem tickLog_snoc (past : List Call) (call : Call) :
    tickLog (past ++ [call]) = tickLog past ++ (engine.run past).tickNotes call :=
  engine.history_snoc ModuleState.tickNotes past call

namespace EveryTurn
variable {law : Turn → Prop} {past : List Call}

theorem nil : EveryTurn law [] := EveryStep.nil

theorem quiet (held : EveryTurn law past) {call : Call} (silent : ∀ s log, ModuleState.toolTurns s log call = []) :
    EveryTurn law (past ++ [call]) := by
  refine EveryStep.snoc_iff.mpr ⟨held, ?_⟩
  simp only [silent, List.not_mem_nil, false_imp_iff, implies_true]

theorem tick (held : EveryTurn law past) {now ttl timeout : Int}
    (here : ∀ turn ∈ (engine.run past).toolTurns (tickLog past) (.tick now ttl timeout), law turn) :
    EveryTurn law (past ++ [.tick now ttl timeout]) := EveryStep.snoc_iff.mpr ⟨held, here⟩

end EveryTurn

theorem toolTurns_single {s : ModuleState} {tool : String} (one : s.tools = [tool]) (log : List TickNote)
    (now ttl timeout : Int) : s.toolTurns log (.tick now ttl timeout) =
      [⟨log ++ [.tick [tool]], s, tool, now, ttl, timeout⟩] := by
  simp only [ModuleState.toolTurns, one, ModuleState.turnsOf]

/-- What a listed tool's turn can do, the renewal apart: it allows or denies the
wiring it resolves, and says so in one pass. -/
theorem Turn.cases {turn : Turn} (listed : turn.tool ∈ turn.state.tools) :
    ∃ renewed wiring, turn.state.SameClocks renewed ∧ turn.state.wiring turn.tool = some wiring ∧
      wiring.toolId = turn.tool ∧ ((turn.state.evaluate turn.tool turn.now turn.timeout = .allow ∧
          turn.outcome = (renewed.allowTool wiring turn.now,
            some (renewed.allowPass turn.tool wiring turn.now (max (numMilliseconds turn.ttl) 0)))) ∨
        ∃ denial, turn.state.evaluate turn.tool turn.now turn.timeout = .deny denial ∧
          turn.outcome = (renewed.denyTool wiring turn.now,
            some (renewed.denyPass turn.tool wiring denial turn.now (max (numMilliseconds turn.ttl) 0)))) := by
  obtain ⟨wiring, wired, named⟩ := ModuleState.wiring_of_listed listed
  have clocks := turn.state.renew_sameClocks turn.tool turn.now turn.ttl turn.timeout
  refine ⟨_, wiring, clocks, wired, named, ?_⟩
  obtain ⟨unwired, -⟩ | ⟨found, here, allowed, result⟩ | ⟨found, denial, here, denied, result⟩ :=
    turn.state.tickTool_cases turn.tool turn.now turn.ttl turn.timeout
  · rw [wired] at unwired
    cases unwired
  · obtain rfl := Option.some.inj (wired.symm.trans here)
    exact .inl ⟨allowed, result⟩
  · obtain rfl := Option.some.inj (wired.symm.trans here)
    exact .inr ⟨denial, denied, result⟩

section Invariant
variable {Inv : List TickNote → ModuleState → Prop} {law : Turn → Prop}

theorem turnsOf_invariant
    (kept : ∀ turn : Turn, turn.tool ∈ turn.state.tools → law turn → Inv turn.log turn.state →
      Inv turn.logAfter turn.outcome.1)
    {s : ModuleState} {log : List TickNote} {now ttl timeout : Int} {tools : List String}
    (listed : ∀ tool ∈ tools, tool ∈ s.tools) (laws : ∀ turn ∈ s.turnsOf log now ttl timeout tools, law turn)
    (inv : Inv log s) :
    (∀ turn ∈ s.turnsOf log now ttl timeout tools, turn.tool ∈ turn.state.tools ∧ Inv turn.log turn.state) ∧
      Inv (log ++ (s.tickTools now ttl timeout tools).2.map .pass) (s.tickTools now ttl timeout tools).1 := by
  induction tools generalizing s log with
  | nil => exact ⟨by simp [ModuleState.turnsOf], by simpa [ModuleState.tickTools] using inv⟩
  | cons tool rest ih =>
    have here := listed tool (List.mem_cons_self ..)
    have first : Inv _ _ := kept ⟨log, s, tool, now, ttl, timeout⟩ here (laws _ (List.mem_cons_self ..)) inv
    have same : (s.tickTool tool now ttl timeout).1.tools = s.tools := by
      simp only [ModuleState.tools, (s.tickTool_sameInputs tool now ttl timeout).snapshot]
    have others := ih (s := (s.tickTool tool now ttl timeout).1)
      (fun other member => same ▸ listed other (List.mem_cons_of_mem _ member))
      (fun turn member => laws turn (List.mem_cons_of_mem _ member)) first
    refine ⟨?_, ?_⟩
    · intro turn member
      rcases List.mem_cons.mp member with rfl | later
      · exact ⟨here, inv⟩
      · exact others.1 turn later
    · simpa [ModuleState.tickTools, Turn.logAfter, Turn.outcome] using others.2

/-- An invariant of the notes and the clocks: kept by a relay report, by the start
of a tick, and by a turn that meets the law, it holds at every turn of every run
whose turns all meet the law. -/
theorem everyTurn_invariant (atStart : Inv [] .new)
    (congr : ∀ log s t, s.SameClocks t → Inv log s → Inv log t)
    (report : ∀ log s deviceId relayOn now, Inv log s →
      Inv (log ++ [.report deviceId relayOn now]) (s.noteRelayState deviceId relayOn now))
    (begins : ∀ log s, Inv log s → Inv (log ++ [.tick s.tools]) s)
    (kept : ∀ turn : Turn, turn.tool ∈ turn.state.tools → law turn → Inv turn.log turn.state →
      Inv turn.logAfter turn.outcome.1)
    {calls : List Call} (laws : EveryTurn law calls) :
    Inv (tickLog calls) (engine.run calls) ∧
      EveryTurn (fun turn => turn.tool ∈ turn.state.tools ∧ Inv turn.log turn.state) calls := by
  induction calls using List.reverseRecOn with
  | nil => exact ⟨atStart, EveryStep.nil⟩
  | append_singleton past call ih =>
    obtain ⟨before, here⟩ := EveryStep.snoc_iff.mp laws
    obtain ⟨inv, held⟩ := ih before
    have quiet : ∀ t, (engine.run past).SameClocks t → Inv (tickLog past ++ []) t := by
      intro t same
      rw [List.append_nil]
      exact congr _ _ _ same inv
    suffices step : Inv (tickLog past ++ (engine.run past).tickNotes call) ((engine.run past).call call) ∧
        ∀ turn ∈ (engine.run past).toolTurns (tickLog past) call, turn.tool ∈ turn.state.tools ∧
          Inv turn.log turn.state by
      rw [tickLog_snoc, engine.run_snoc]
      exact ⟨step.1, EveryStep.snoc_iff.mpr ⟨held, step.2⟩⟩
    cases call with
    | tick now ttl timeout =>
      have turned := turnsOf_invariant kept (fun _ listed => listed) here (begins _ _ inv)
      rw [List.append_assoc] at turned
      exact turned.symm
    | noteRelayState deviceId relayOn now =>
      exact ⟨report _ _ deviceId relayOn now inv, by simp [ModuleState.toolTurns]⟩
    | renew tool now ttl timeout =>
      exact ⟨quiet _ ((engine.run past).renew_sameClocks tool now ttl timeout), by simp [ModuleState.toolTurns]⟩
    | observe toolId condition asserted now =>
      refine ⟨quiet _ ?_, by simp [ModuleState.toolTurns]⟩
      obtain ⟨_, same⟩ := (engine.run past).observe_eq toolId condition asserted now
      show (engine.run past).SameClocks ((engine.run past).observe toolId condition asserted now)
      rw [same]
      exact ⟨rfl, rfl, rfl, rfl⟩
    | _ => exact ⟨quiet _ ⟨rfl, rfl, rfl, rfl⟩, by simp [ModuleState.toolTurns]⟩

end Invariant

def extraction : DeviceBinding :=
  { id := "extraction", deviceId := "fan", role := "power", name := "extraction", onDisconnect := "hold_last" }

def spindle : DeviceBinding :=
  { id := "spindle", deviceId := "motor", role := "power", name := "spindle", onDisconnect := "hold_last",
    startStage := 1, runOnMs := 3000 }

/-- A mill in two stages: the extraction first, then a spindle that spins down for
three seconds. -/
def mill : ToolModuleTool :=
  { toolId := "mill", externalId := none, kind := "tool", sessionProfile := "until_stopped", inUse := false,
    modules := [spindle, extraction], interlocks := [] }

def tickAt (now : Int) : Call := .tick now (seconds 10) (seconds 30)

end CoopSpaces

import CoopSpaces.Edge.AllowRuns

namespace CoopSpaces

/-- A later stage waits. An allowing pass leases a power binding only once every
binding of an earlier stage has reported on since the current allow began, and
the binding's own delay has passed since that report. -/
def Staged (turn : Turn) : Prop :=
  ∀ p, turn.outcome.2 = some p → p.decision = .allow → ∀ entry ∈ p.power, entry.2.grant = true →
    ∀ earlier ∈ powerBindings p.wiring, earlier.startStage < entry.1.startStage →
      ∃ start at_, BegunAt turn.logAfter p.wiring.toolId start ∧ LastReport turn.logAfter earlier.deviceId true at_ ∧
        start ≤ at_ ∧ at_ + milliseconds (max entry.1.startDelayMs 0) ≤ turn.now

/-- A tool that is allowed, and was when it last had a turn, was listed by every tick
in between. -/
def Uninterrupted (turn : Turn) : Prop :=
  turn.state.evaluate turn.tool turn.now turn.timeout = .allow → LastPassAllowed turn.log turn.tool →
    Ongoing turn.log turn.tool

/-- What the start clocks and the relay reports say about the notes so far. A start
clock outlives the allow it was set for when a tick misses its tool. -/
structure StartInv (log : List TickNote) (s : ModuleState) : Prop where
  began : ∀ key since, s.allowedSince key = some since →
    LastPassAllowed log key ∧ (Ongoing log key → BegunAt log key since)
  ongoing : ∀ key, Ongoing log key → (s.allowedSince key).isSome
  reported : ∀ deviceId relayOn at_, s.relayState deviceId = some (relayOn, at_) → LastReport log deviceId relayOn at_

section Notes
variable {log : List TickNote} {key : String} {start : Int}

theorem BegunAt.congr {other : List TickNote} (begun : BegunAt log key start)
    (same : allowRun key other = allowRun key log) : BegunAt other key start := by
  simpa only [BegunAt, Ongoing, lastAllow, same] using begun

theorem BegunAt.allow {p : Pass} (begun : BegunAt log key start) (same : p.wiring.toolId = key)
    (allowed : p.decision = .allow) : BegunAt (log ++ [.pass p]) key start := by
  obtain ⟨ongoing, first⟩ := begun
  have run := allowRun_extends ongoing same allowed
  have passes : lastAllow (log ++ [.pass p]) key = lastAllow log key ++ [p] := congrArg Prod.fst run
  refine ⟨congrArg Prod.snd run, ?_⟩
  rcases listed : lastAllow log key with _ | ⟨q, rest⟩
  · rw [listed] at first
    cases first
  · rw [listed] at first
    rw [passes, listed, List.cons_append]
    exact first

theorem begunAt_new {p : Pass} (idle : ¬ Ongoing log key) (same : p.wiring.toolId = key)
    (allowed : p.decision = .allow) : BegunAt (log ++ [.pass p]) key p.now := by
  have run := allowRun_begins idle same allowed
  have passes : lastAllow (log ++ [.pass p]) key = [p] := congrArg Prod.fst run
  refine ⟨congrArg Prod.snd run, ?_⟩
  rw [passes, List.head?_cons, Option.map_some]

end Notes

namespace ModuleState

/-- The instant a delay counts from is no earlier than any confirmation it rests on. -/
theorem confirmedBase_eq_some {s : ModuleState} {since base latest : Int} {earlier : List DeviceBinding}
    (found : s.confirmedBase since base earlier = some latest) :
    ∀ b ∈ earlier, ∃ at_, s.confirmedOnAt b since = some at_ ∧ at_ ≤ latest := by
  suffices both : base ≤ latest ∧ ∀ b ∈ earlier, ∃ at_, s.confirmedOnAt b since = some at_ ∧ at_ ≤ latest from both.2
  induction earlier generalizing base with
  | nil =>
    obtain rfl := Option.some.inj found
    exact ⟨le_rfl, by simp⟩
  | cons first rest ih =>
    rcases confirmed : s.confirmedOnAt first since with _ | at_
    · simp [confirmedBase, confirmed] at found
    · simp only [confirmedBase, confirmed] at found
      obtain ⟨above, others⟩ := ih found
      have bounds : base ≤ latest ∧ at_ ≤ latest := by omega
      refine ⟨bounds.1, ?_⟩
      intro b member
      rcases List.mem_cons.mp member with rfl | later
      · exact ⟨at_, confirmed, bounds.2⟩
      · exact others b later

theorem confirmedOnAt_eq_some {s : ModuleState} {b : DeviceBinding} {since at_ : Int}
    (confirmed : s.confirmedOnAt b since = some at_) : s.relayState b.deviceId = some (true, at_) ∧ since ≤ at_ := by
  unfold confirmedOnAt at confirmed
  split at confirmed
  · rename_i reported
    split at confirmed
    · rename_i fresh
      obtain rfl := Option.some.inj confirmed
      exact ⟨reported, fresh⟩
    · cases confirmed
  · cases confirmed

theorem started_confirmed {s : ModuleState} {power : List DeviceBinding} {since now : Int} {b earlier : DeviceBinding}
    (started : s.started power since now b = true) (bound : earlier ∈ power)
    (stage : earlier.startStage < b.startStage) :
    ∃ at_, s.relayState earlier.deviceId = some (true, at_) ∧ since ≤ at_ ∧
      at_ + milliseconds (max b.startDelayMs 0) ≤ now := by
  obtain ⟨base, found, due⟩ := (Option.any_eq_true _ _).mp started
  have later : ¬ b.startStage ≤ ((power.map (·.startStage)).min?).getD 0 := by
    have below := firstStage_le bound
    omega
  rw [startBase] at found
  simp only [if_neg later] at found
  have candidate : earlier ∈ power.filter fun e => decide (e.startStage < b.startStage) :=
    List.mem_filter.mpr ⟨bound, decide_eq_true stage⟩
  obtain ⟨at_, confirmed, before⟩ := confirmedBase_eq_some found earlier candidate
  obtain ⟨reported, fresh⟩ := confirmedOnAt_eq_some confirmed
  have passed := of_decide_eq_true due
  exact ⟨at_, reported, fresh, by omega⟩

end ModuleState

namespace StartInv
variable {log : List TickNote} {s : ModuleState}

theorem new : StartInv [] .new where
  began key since found := by cases found
  ongoing key goes := by cases goes
  reported deviceId relayOn at_ found := by cases found

theorem congr {t : ModuleState} (inv : StartInv log s) (same : s.SameClocks t) : StartInv log t where
  began := same.allowedSince ▸ inv.began
  ongoing := same.allowedSince ▸ inv.ongoing
  reported := same.relayState ▸ inv.reported

theorem report (inv : StartInv log s) (deviceId : String) (relayOn : Bool) (now : Int) :
    StartInv (log ++ [.report deviceId relayOn now]) (s.noteRelayState deviceId relayOn now) where
  began key since found := by
    obtain ⟨last, begun⟩ := inv.began key since found
    refine ⟨last.quiet (by simp), ?_⟩
    intro goes
    rw [Ongoing, allowRun_report] at goes
    exact (begun goes).congr (allowRun_report deviceId relayOn now)
  ongoing key goes := by
    rw [Ongoing, allowRun_report] at goes
    exact inv.ongoing key goes
  reported device on at_ found := by
    rcases Table.insert_eq_some.mp found with ⟨rfl, same⟩ | ⟨other, old⟩
    · obtain ⟨rfl, rfl⟩ := Prod.mk.inj same
      exact Since.now rfl
    · refine (inv.reported device on at_ old).later ?_
      rintro _ _ same
      exact other (TickNote.report.inj same).1.symm

theorem begins (inv : StartInv log s) (tools : List String) : StartInv (log ++ [.tick tools]) s where
  began key since found := by
    obtain ⟨last, begun⟩ := inv.began key since found
    refine ⟨last.quiet (by simp), ?_⟩
    intro goes
    rw [Ongoing, allowRun_tick, Bool.and_eq_true] at goes
    obtain ⟨ongoing, first⟩ := begun goes.2
    have run : allowRun key (log ++ [.tick tools]) =
        (lastAllow log key, decide (key ∈ tools) && (allowRun key log).2) :=
      allowRun_tick tools
    exact ⟨by rw [Ongoing, run, Bool.and_eq_true]; exact goes, by rw [lastAllow, run]; exact first⟩
  ongoing key goes := by
    rw [Ongoing, allowRun_tick, Bool.and_eq_true] at goes
    exact inv.ongoing key goes.2
  reported device on at_ found := (inv.reported device on at_ found).later (by simp)

theorem began_other (inv : StartInv log s) {p : Pass} {key : String} {since : Int} (other : p.wiring.toolId ≠ key)
    (found : s.allowedSince key = some since) : LastPassAllowed (log ++ [.pass p]) key ∧
      (Ongoing (log ++ [.pass p]) key → BegunAt (log ++ [.pass p]) key since) := by
  obtain ⟨last, begun⟩ := inv.began key since found
  refine ⟨last.other other, ?_⟩
  intro goes
  have before : BegunAt log key since := begun ((ongoing_other other).mp goes)
  exact before.congr (allowRun_other other)

theorem allowTool (inv : StartInv log s) {tool : String} {wiring : ToolModuleTool} (named : wiring.toolId = tool)
    (uninterrupted : LastPassAllowed log tool → Ongoing log tool) (now ttlMs : Int) :
    StartInv (log ++ [.pass (s.allowPass tool wiring now ttlMs)]) (s.allowTool wiring now) where
  began key since found := by
    subst named
    rcases Table.insert_eq_some.mp found with ⟨rfl, set⟩ | ⟨other, old⟩
    · refine ⟨lastPassAllowed_allow rfl rfl, fun _ => ?_⟩
      rcases before : s.allowedSince wiring.toolId with _ | earlier
      · rw [before, Option.getD_none] at set
        subst set
        refine begunAt_new ?_ rfl rfl
        intro goes
        have some_ := inv.ongoing _ goes
        rw [before] at some_
        cases some_
      · rw [before, Option.getD_some] at set
        subst set
        obtain ⟨last, begun⟩ := inv.began _ _ before
        exact (begun (uninterrupted last)).allow rfl rfl
    · exact inv.began_other (Ne.symm other) old
  ongoing key goes := by
    by_cases same : key = wiring.toolId
    · subst same
      exact Option.isSome_of_eq_some (Table.insert_self ..)
    · have some_ := inv.ongoing key ((ongoing_other (Ne.symm same)).mp goes)
      show ((s.allowedSince.orInsert wiring.toolId now) key).isSome
      rw [Table.orInsert, Table.insert_of_ne _ _ same]
      exact some_
  reported device on at_ found := (inv.reported device on at_ found).later (by simp)

theorem denyTool (inv : StartInv log s) (tool : String) (wiring : ToolModuleTool) (denial : Denial)
    (now ttlMs : Int) :
    StartInv (log ++ [.pass (s.denyPass tool wiring denial now ttlMs)]) (s.denyTool wiring now) where
  began key since found := by
    obtain ⟨other, old⟩ := Table.erase_eq_some.mp found
    exact inv.began_other (Ne.symm other) old
  ongoing key goes := by
    by_cases same : key = wiring.toolId
    · subst same
      have denied : (s.denyPass tool wiring denial now ttlMs).decision ≠ .allow := by simp [ModuleState.denyPass]
      have about : (s.denyPass tool wiring denial now ttlMs).wiring.toolId = wiring.toolId := rfl
      rw [Ongoing, allowRun_deny about denied] at goes
      cases goes
    · have some_ := inv.ongoing key ((ongoing_other (Ne.symm same)).mp goes)
      show ((s.allowedSince.erase wiring.toolId) key).isSome
      rw [Table.erase_of_ne _ same]
      exact some_
  reported device on at_ found := (inv.reported device on at_ found).later (by simp)

theorem turn {t : Turn} (inv : StartInv t.log t.state) (listed : t.tool ∈ t.state.tools) (steady : Uninterrupted t) :
    StartInv t.logAfter t.outcome.1 := by
  obtain ⟨renewed, wiring, clocks, -, named, ⟨allowed, result⟩ | ⟨denial, -, result⟩⟩ := Turn.cases listed
  · rw [Turn.logAfter, result]
    exact (inv.congr clocks).allowTool named (steady allowed) _ _
  · rw [Turn.logAfter, result]
    exact (inv.congr clocks).denyTool _ _ _ _ _

theorem staged {t : Turn} (inv : StartInv t.log t.state) (listed : t.tool ∈ t.state.tools)
    (steady : Uninterrupted t) :
    Staged t := by
  have after := inv.turn listed steady
  obtain ⟨renewed, wiring, clocks, -, named, ⟨allowed, result⟩ | ⟨denial, -, result⟩⟩ := Turn.cases listed
  · intro p answer _ entry member _ earlier bound stage
    rw [result] at answer after
    obtain rfl := Option.some.inj answer
    obtain ⟨b, starts, rfl⟩ := List.mem_map.mp member
    obtain ⟨at_, reported, fresh, due⟩ := ModuleState.started_confirmed (List.mem_filter.mp starts).2 bound stage
    have since : (renewed.allowTool wiring t.now).allowedSince wiring.toolId =
        some (renewed.allowedAt wiring t.now) :=
      Table.insert_self ..
    have goes : Ongoing t.logAfter wiring.toolId := by
      rw [Turn.logAfter, result]
      exact ongoing_allow rfl rfl
    exact ⟨_, at_, (after.began _ _ since).2 goes, after.reported _ _ _ reported, fresh, due⟩
  · intro p answer allows
    rw [result] at answer
    obtain rfl := Option.some.inj answer
    cases allows

end StartInv

/-- The start order holds at every turn of every run in which no tool comes back
allowed after a tick that missed it in the middle of an allow. -/
theorem staged_start (calls : List Call) (steady : EveryTurn Uninterrupted calls) : EveryTurn Staged calls := by
  have held := (everyTurn_invariant StartInv.new (fun _ _ _ same inv => inv.congr same)
    (fun _ _ deviceId relayOn now inv => inv.report deviceId relayOn now) (fun _ s inv => inv.begins s.tools)
    (fun _ listed law inv => inv.turn listed law) steady).2
  intro past call later split turn member
  obtain ⟨listed, inv⟩ := held past call later split turn member
  exact inv.staged listed (steady past call later split turn member)

def millOn : List Call := [.applyState ⟨[mill]⟩ none 0, .openSession "mill" 0 none, tickAt 0]

def millRuns : List Call := millOn ++ [.noteRelayState "fan" true (seconds 1), tickAt (seconds 2)]

theorem staged_start_mill : EveryTurn Staged millRuns := by
  refine staged_start millRuns ?_
  have wired : EveryTurn Uninterrupted [.applyState ⟨[mill]⟩ none 0, .openSession "mill" 0 none] :=
    (EveryTurn.nil.quiet fun _ _ => rfl).quiet fun _ _ => rfl
  have on : EveryTurn Uninterrupted millOn := by
    refine wired.tick ?_
    intro turn member
    rw [toolTurns_single (by decide : _ = ["mill"]), List.mem_singleton] at member
    subst member
    intro _ last
    obtain ⟨note, noted, -, p, rfl, -⟩ := last.exists_mem
    have log : tickLog [.applyState ⟨[mill]⟩ none 0, .openSession "mill" 0 none] ++
        [.tick ["mill"]] = [.tick ["mill"]] := by
      decide
    rw [log, List.mem_singleton] at noted
    cases noted
  have reported : EveryTurn Uninterrupted (millOn ++ [.noteRelayState "fan" true (seconds 1)]) :=
    on.quiet fun _ _ => rfl
  refine reported.tick ?_
  intro turn member
  rw [toolTurns_single (by decide : _ = ["mill"]), List.mem_singleton] at member
  subst member
  intro _ _
  decide

/-- The mill leaves the wiring while it runs and comes back ten minutes later. -/
def millBack : List Call :=
  millRuns ++ [.applyState ⟨[]⟩ none (seconds 3), tickAt (seconds 4), .applyState ⟨[mill]⟩ none (seconds 600)]

def millRestarts : Pass :=
  { wiring := mill, now := seconds 600, decision := .allow,
    power := [(extraction, ⟨"mill", "fan", true, 10000, none⟩), (spindle, ⟨"mill", "motor", true, 10000, none⟩)],
    sensors := [] }

/-- The spindle starts at once, on the word its extraction gave in the run before. -/
theorem staged_start_back : ¬ EveryTurn Staged (millBack ++ [tickAt (seconds 600)]) := by
  intro every
  have turns : (engine.run millBack).toolTurns (tickLog millBack) (tickAt (seconds 600)) =
      [⟨tickLog millBack ++ [.tick ["mill"]], engine.run millBack, "mill", seconds 600, seconds 10, seconds 30⟩] :=
    toolTurns_single (by decide) _ _ _ _
  have staged := every millBack (tickAt (seconds 600)) [] rfl _ (turns ▸ List.mem_singleton.mpr rfl)
  obtain ⟨start, at_, ⟨-, begun⟩, reported, fresh, -⟩ := staged millRestarts (by decide) rfl
    (spindle, ⟨"mill", "motor", true, 10000, none⟩) (by decide) rfl extraction (by decide) (by decide)
  obtain ⟨note, noted, -, rfl⟩ := reported.exists_mem
  have restarted : (lastAllow (tickLog millBack ++ [.tick ["mill"]] ++ [.pass millRestarts]) "mill").head?.map
    (·.now) =
      some (seconds 600) := by decide
  have began : start = seconds 600 := Option.some.inj (begun.symm.trans restarted)
  have log : (tickLog millBack ++ [TickNote.tick ["mill"]] ++ [TickNote.pass millRestarts]).filter
    (fun note => note matches TickNote.report _ _ _) =
      [.report "fan" true (seconds 1)] := by decide
  have old : TickNote.report "fan" true at_ ∈ [TickNote.report "fan" true (seconds 1)] :=
    log ▸ List.mem_filter.mpr ⟨noted, rfl⟩
  obtain ⟨-, -, said⟩ := TickNote.report.inj (List.mem_singleton.mp old)
  rw [began, said] at fresh
  exact absurd fresh (by decide)

end CoopSpaces

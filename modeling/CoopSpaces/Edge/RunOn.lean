import CoopSpaces.Edge.AllowRuns
import CoopSpaces.Edge.Lease

namespace CoopSpaces

def Pass.Leases (p : Pass) (id : String) : Prop := ∃ entry ∈ p.power, entry.1.id = id ∧ entry.2.grant = true

instance (p : Pass) (id : String) : Decidable (p.Leases id) :=
  inferInstanceAs (Decidable (∃ entry ∈ p.power, entry.1.id = id ∧ entry.2.grant = true))

def Pass.Binds (p : Pass) (id : String) : Prop := id ∈ (powerBindings p.wiring).map (·.id)

instance (p : Pass) (id : String) : Decidable (p.Binds id) :=
  inferInstanceAs (Decidable (id ∈ (powerBindings p.wiring).map (·.id)))

/-- A binding was leased, and no pass has refused it since. -/
def Held (log : List TickNote) (id : String) : Prop :=
  Since (fun _ note => ∃ p, note = .pass p ∧ p.Leases id)
    (fun note => ∀ p, note = .pass p → ∀ entry ∈ p.power, entry.1.id = id → entry.2.grant = true) log

/-- A pass ends the allow of a key, and leaves a run-on to a binding that was leased
in that same allow. -/
structure EndsAllow (key id : String) (until_ : Int) (before : List TickNote) (p : Pass) : Prop where
  about : p.wiring.toolId = key
  denied : p.decision ≠ .allow
  wasAllowed : LastPassAllowed before key
  leased : ∃ q ∈ lastAllow before key, q.Leases id
  bound : ∃ b ∈ powerBindings p.wiring, b.id = id ∧ 0 < b.runOnMs ∧ until_ = p.now + milliseconds b.runOnMs

/-- A pass leaves a run-on pending: it is no new allow of the key or the binding,
and where it answers the binding the run-on's time has not come. -/
structure Spares (key id : String) (until_ : Int) (p : Pass) : Prop where
  resource : p.wiring.toolId = key → p.decision ≠ .allow
  binding : p.Binds id → p.decision ≠ .allow ∧ p.now < until_

/-- A run-on pending for a binding, of the last allow of its key. -/
def PendingRunOn (log : List TickNote) (key id : String) (until_ : Int) : Prop :=
  Since (fun before note => ∃ p, note = .pass p ∧ EndsAllow key id until_ before p)
    (fun note => ∀ p, note = .pass p → Spares key id until_ p) log

/-- Run-on is only for what was leased: a pass that denies leases a power binding
only in a run-on still pending, of an allow in which that binding was leased. -/
def RunOnEarned (turn : Turn) : Prop :=
  ∀ p, turn.outcome.2 = some p → p.decision ≠ .allow → ∀ entry ∈ p.power, entry.2.grant = true →
    ∃ key until_, turn.now < until_ ∧ PendingRunOn turn.logAfter key entry.1.id until_

/-- No lease is carried from one allow past another: where an allow ends, a run-on
binding that still holds a lease got it in that allow, and where an allow comes,
every run-on pending for the tool is on a binding still in its wiring. -/
structure Uncarried (turn : Turn) : Prop where
  ends : turn.state.evaluate turn.tool turn.now turn.timeout ≠ .allow → LastPassAllowed turn.log turn.tool →
    ∀ wiring, turn.state.wiring turn.tool = some wiring → ∀ b ∈ powerBindings wiring, 0 < b.runOnMs →
      Held turn.log b.id → ∃ q ∈ lastAllow turn.log turn.tool, q.Leases b.id
  begins : turn.state.evaluate turn.tool turn.now turn.timeout = .allow →
    ∀ wiring, turn.state.wiring turn.tool = some wiring → ∀ id until_,
      PendingRunOn turn.log turn.tool id until_ → id ∈ (powerBindings wiring).map (·.id)

/-- What the clocks of a tick say about the notes so far. -/
structure RunOnInv (log : List TickNote) (s : ModuleState) : Prop where
  allowed : ∀ key since, s.allowedSince key = some since → LastPassAllowed log key
  granted : ∀ id since, s.grantedSince id = some since → Held log id
  runOn : ∀ id until_, s.runOnUntil id = some until_ → ∃ key, PendingRunOn log key id until_

namespace RunOnInv
open ModuleState (lease)
variable {log : List TickNote} {s : ModuleState}

theorem new : RunOnInv [] .new where
  allowed key since found := by cases found
  granted id since found := by cases found
  runOn id until_ found := by cases found

theorem congr {t : ModuleState} (inv : RunOnInv log s) (same : s.SameClocks t) : RunOnInv log t where
  allowed := same.allowedSince ▸ inv.allowed
  granted := same.grantedSince ▸ inv.granted
  runOn := same.runOnUntil ▸ inv.runOn

theorem quiet (inv : RunOnInv log s) {note : TickNote} (other : ∀ p, note ≠ .pass p) :
    RunOnInv (log ++ [note]) s where
  allowed key since found := (inv.allowed key since found).quiet other
  granted id since found := (inv.granted id since found).later fun p same => absurd same (other p)
  runOn id until_ found := by
    obtain ⟨key, pending⟩ := inv.runOn id until_ found
    exact ⟨key, pending.later fun p same => absurd same (other p)⟩

theorem report (inv : RunOnInv log s) (deviceId : String) (relayOn : Bool) (now : Int) :
    RunOnInv (log ++ [.report deviceId relayOn now]) (s.noteRelayState deviceId relayOn now) := by
  have noted : RunOnInv (log ++ [.report deviceId relayOn now]) s := inv.quiet (by simp)
  exact ⟨noted.allowed, noted.granted, noted.runOn⟩

theorem begins (inv : RunOnInv log s) (tools : List String) : RunOnInv (log ++ [.tick tools]) s := inv.quiet (by simp)

theorem allowTool (inv : RunOnInv log s) (tool : String) (wiring : ToolModuleTool) (now ttlMs : Int)
    (listed : ∀ id until_, PendingRunOn log wiring.toolId id until_ → id ∈ (powerBindings wiring).map (·.id)) :
    RunOnInv (log ++ [.pass (s.allowPass tool wiring now ttlMs)]) (s.allowTool wiring now) where
  allowed key since found := by
    rcases Table.insert_eq_some.mp found with ⟨rfl, -⟩ | ⟨other, old⟩
    · exact lastPassAllowed_allow rfl rfl
    · exact (inv.allowed key since old).other (Ne.symm other)
  granted id since found := by
    rcases Table.foldl_orInsert_eq_some found with ⟨b, started, rfl⟩ | old
    · have leased : (s.allowPass tool wiring now ttlMs).Leases b.id :=
        ⟨lease tool ttlMs true none b, List.mem_map.mpr ⟨b, started, rfl⟩, rfl, rfl⟩
      exact Since.now ⟨_, rfl, leased⟩
    · obtain ⟨earlier, old⟩ := Option.isSome_iff_exists.mp old
      refine (inv.granted id earlier old).later ?_
      rintro p same entry member -
      obtain rfl := TickNote.pass.inj same
      exact (ModuleState.allowPass_entry member).2
  runOn id until_ found := by
    obtain ⟨cleared, old⟩ := Table.eraseAll_eq_some.mp found
    obtain ⟨key, pending⟩ := inv.runOn id until_ old
    refine ⟨key, pending.later ?_⟩
    rintro p same
    obtain rfl := TickNote.pass.inj same
    refine ⟨?_, fun bound => absurd bound cleared⟩
    rintro rfl
    exact absurd (listed id until_ pending) cleared

theorem denyTool (inv : RunOnInv log s) (tool : String) (wiring : ToolModuleTool) (denial : Denial) (now ttlMs : Int)
    (earned : LastPassAllowed log wiring.toolId → ∀ b ∈ powerBindings wiring, 0 < b.runOnMs → Held log b.id →
      ∃ q ∈ lastAllow log wiring.toolId, q.Leases b.id) :
    RunOnInv (log ++ [.pass (s.denyPass tool wiring denial now ttlMs)]) (s.denyTool wiring now) where
  allowed key since found := by
    obtain ⟨other, old⟩ := Table.erase_eq_some.mp found
    exact (inv.allowed key since old).other (Ne.symm other)
  granted id since found := by
    obtain ⟨kept, old⟩ := Table.eraseAll_eq_some.mp found
    refine (inv.granted id since old).later ?_
    rintro p same entry member rfl
    obtain rfl := TickNote.pass.inj same
    obtain ⟨bound, answer⟩ := ModuleState.denyPass_entry member
    rw [answer]
    exact ModuleState.runningOn_of_not_stopped bound kept
  runOn id until_ found := by
    have window := (Table.eraseAll_eq_some.mp found).2
    have denied : (s.denyPass tool wiring denial now ttlMs).decision ≠ .allow := by simp [ModuleState.denyPass]
    -- A window that was there already: this pass answered its binding in time.
    have before : s.runOnUntil id = some until_ →
        ∃ key, PendingRunOn (log ++ [.pass (s.denyPass tool wiring denial now ttlMs)]) key id until_ := by
      intro old
      obtain ⟨key, pending⟩ := inv.runOn id until_ old
      refine ⟨key, pending.later ?_⟩
      rintro p same
      obtain rfl := TickNote.pass.inj same
      refine ⟨fun _ => denied, fun bound => ⟨denied, ?_⟩⟩
      obtain ⟨b, member, rfl⟩ := List.mem_map.mp bound
      exact ModuleState.denyTool_ahead member found
    rw [ModuleState.runOnWindows] at window
    split at window
    · rename_i transition
      rcases ModuleState.openRunOn_eq_some window with ⟨b, bound, rfl, ⟨spins, on⟩, rfl⟩ | old
      · obtain ⟨since, was⟩ := Option.isSome_iff_exists.mp transition
        obtain ⟨leasedSince, leased⟩ := Option.isSome_iff_exists.mp on
        have wasAllowed := inv.allowed _ since was
        have inThatAllow := earned wasAllowed b bound spins (inv.granted _ leasedSince leased)
        exact ⟨wiring.toolId, Since.now ⟨_, rfl, rfl, denied, wasAllowed, inThatAllow, b, bound, rfl, spins, rfl⟩⟩
      · exact before old
    · exact before window

theorem turn {t : Turn} (inv : RunOnInv t.log t.state) (listed : t.tool ∈ t.state.tools) (uncarried : Uncarried t) :
    RunOnInv t.logAfter t.outcome.1 := by
  obtain ⟨renewed, wiring, clocks, wired, named, ⟨allowed, result⟩ | ⟨denial, denied, result⟩⟩ := Turn.cases listed
  · rw [Turn.logAfter, result]
    refine (inv.congr clocks).allowTool _ _ _ _ ?_
    rw [named]
    exact uncarried.begins allowed wiring wired
  · rw [Turn.logAfter, result]
    refine (inv.congr clocks).denyTool _ _ _ _ _ ?_
    rw [named]
    have refused : t.state.evaluate t.tool t.now t.timeout ≠ .allow := by simp [denied]
    exact fun last => uncarried.ends refused last wiring wired

theorem earned {t : Turn} (inv : RunOnInv t.log t.state) (listed : t.tool ∈ t.state.tools) (uncarried : Uncarried t) :
    RunOnEarned t := by
  have after := inv.turn listed uncarried
  obtain ⟨renewed, wiring, clocks, -, named, ⟨allowed, result⟩ | ⟨denial, -, result⟩⟩ := Turn.cases listed
  · intro p answer denies
    rw [result] at answer
    obtain rfl := Option.some.inj answer
    exact absurd rfl denies
  · intro p answer _ entry member grant
    rw [result] at answer after
    obtain rfl := Option.some.inj answer
    obtain ⟨bound, said⟩ := ModuleState.denyPass_entry member
    obtain ⟨until_, ahead, window⟩ := ModuleState.denyTool_running (said.symm.trans grant)
    obtain ⟨key, pending⟩ := after.runOn _ _ window
    exact ⟨key, until_, ahead, pending⟩

end RunOnInv

/-- A run-on is earned at every turn of every run in which no lease is carried from
one allow past another. -/
theorem run_on_earned (calls : List Call) (uncarried : EveryTurn Uncarried calls) : EveryTurn RunOnEarned calls := by
  have held := (everyTurn_invariant RunOnInv.new (fun _ _ _ same inv => inv.congr same)
    (fun _ _ deviceId relayOn now inv => inv.report deviceId relayOn now) (fun _ s inv => inv.begins s.tools)
    (fun _ listed law inv => inv.turn listed law) uncarried).2
  intro past call later split turn member
  obtain ⟨listed, inv⟩ := held past call later split turn member
  exact inv.earned listed (uncarried past call later split turn member)

/-- The mill runs from two seconds on and is signed off at three. -/
def millSignsOff : List Call :=
  [.applyState ⟨[mill]⟩ none 0, .openSession "mill" 0 none, .noteRelayState "fan" true (seconds 1),
    tickAt (seconds 1), .closeSession "mill" (seconds 3)]

theorem run_on_earned_spin_down : EveryTurn RunOnEarned (millSignsOff ++ [tickAt (seconds 3)]) := by
  refine run_on_earned _ ?_
  have ready : EveryTurn Uncarried [.applyState ⟨[mill]⟩ none 0, .openSession "mill" 0 none,
      .noteRelayState "fan" true (seconds 1)] :=
    ((EveryTurn.nil.quiet fun _ _ => rfl).quiet fun _ _ => rfl).quiet fun _ _ => rfl
  have ran : EveryTurn Uncarried millSignsOff := by
    refine EveryTurn.quiet (ready.tick ?_) fun _ _ => rfl
    intro turn member
    rw [toolTurns_single (by decide : _ = ["mill"]), List.mem_singleton] at member
    subst member
    refine ⟨fun refused => absurd (by decide) refused, ?_⟩
    intro _ wiring _ id until_ pending
    obtain ⟨note, noted, -, p, rfl, -⟩ := pending.exists_mem
    have log : tickLog [.applyState ⟨[mill]⟩ none 0, .openSession "mill" 0 none,
      .noteRelayState "fan" true (seconds 1)] ++
        [.tick ["mill"]] = [.report "fan" true (seconds 1), .tick ["mill"]] := by decide
    rw [log] at noted
    simp at noted
  refine ran.tick ?_
  intro turn member
  rw [toolTurns_single (by decide : _ = ["mill"]), List.mem_singleton] at member
  subst member
  refine ⟨?_, fun allowed => absurd allowed (by decide)⟩
  intro _ _ wiring wired b bound spins _
  obtain rfl : mill = wiring := Option.some.inj wired
  have leased : ∀ b ∈ powerBindings mill, 0 < b.runOnMs →
      ∃ q ∈ lastAllow (tickLog millSignsOff ++ [.tick ["mill"]]) "mill", q.Leases b.id := by decide
  exact leased b bound spins

/-- Signed on again within the run-on, and off again before the spindle's turn. -/
def millSignsOffAgain : List Call :=
  millSignsOff ++ [tickAt (seconds 3), .openSession "mill" (seconds 4) none, tickAt (seconds 4),
    .closeSession "mill" (seconds 5)]

def millStages : Pass :=
  { wiring := mill, now := seconds 4, decision := .allow,
    power := [(extraction, ⟨"mill", "fan", true, 10000, none⟩)], sensors := [] }

def millSpinsDown : Pass :=
  { wiring := mill, now := seconds 5, decision := .deny .notInUse,
    power := [(extraction, ⟨"mill", "fan", false, 10000, some .notInUse⟩),
      (spindle, ⟨"mill", "motor", true, 10000, none⟩)], sensors := [] }

/-- The spindle runs on for an allow that never started it. -/
theorem run_on_earned_again : ¬ EveryTurn RunOnEarned (millSignsOffAgain ++ [tickAt (seconds 5)]) := by
  intro every
  have turns : (engine.run millSignsOffAgain).toolTurns (tickLog millSignsOffAgain) (tickAt (seconds 5)) =
      [⟨tickLog millSignsOffAgain ++ [.tick ["mill"]], engine.run millSignsOffAgain, "mill", seconds 5, seconds 10,
        seconds 30⟩] := toolTurns_single (by decide) _ _ _ _
  have earned := every millSignsOffAgain (tickAt (seconds 5)) [] rfl _ (turns ▸ List.mem_singleton.mpr rfl)
  obtain ⟨key, until_, -, pending⟩ := earned millSpinsDown (by decide) (by decide)
    (spindle, ⟨"mill", "motor", true, 10000, none⟩) (by decide) rfl
  rcases Since.snoc_iff.mp pending with ⟨p, same, ends⟩ | ⟨earlier, -⟩
  · obtain rfl := TickNote.pass.inj same
    obtain rfl : "mill" = key := ends.about
    have unleased : ¬ ∃ q ∈ lastAllow (tickLog millSignsOffAgain ++ [.tick ["mill"]]) "mill",
      q.Leases "spindle" := by decide
    exact unleased ends.leased
  · rcases Since.snoc_iff.mp earlier with ⟨p, same, -⟩ | ⟨before, -⟩
    · cases same
    · have log : tickLog millSignsOffAgain =
          (tickLog (millSignsOff ++ [tickAt (seconds 3)]) ++ [.tick ["mill"]]) ++ [.pass millStages] := by decide
      rw [log] at before
      -- The allow in between would have ended any run-on left from the first.
      rcases Since.snoc_iff.mp before with ⟨p, same, ends⟩ | ⟨-, spares⟩
      · obtain rfl := TickNote.pass.inj same
        exact ends.denied rfl
      · exact ((spares millStages rfl).binding (by decide)).1 rfl

end CoopSpaces

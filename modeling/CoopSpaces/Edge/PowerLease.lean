import CoopSpaces.Edge.Lease
import CoopSpaces.Edge.Resources
import Mathlib.Algebra.Ring.Int.Defs

namespace CoopSpaces

namespace ModuleState

def turns (s : ModuleState) (now ttl moduleTimeout : Int) : List String → List (ModuleState × String)
  | [] => []
  | tool :: rest => (s, tool) :: turns (s.tickTool tool now ttl moduleTimeout).1 now ttl moduleTimeout rest

variable {now ttl moduleTimeout : Int} {s : ModuleState} {wiring : ToolModuleTool} {turn : ModuleState × String}
  {tools : List String} {tool : String}

theorem mem_tickTools {p : Pass} :
    p ∈ (s.tickTools now ttl moduleTimeout tools).2 ↔
      ∃ turn ∈ s.turns now ttl moduleTimeout tools, (turn.1.tickTool turn.2 now ttl moduleTimeout).2 = some p := by
  induction tools generalizing s with
  | nil => simp [tickTools, turns]
  | cons tool rest ih =>
    simp only [tickTools, turns, List.mem_append, Option.mem_toList, List.mem_cons, exists_eq_or_imp, ih]

/-- The tool is allowed with a power binding due, or denied with one in run-on. -/
def Energizes (s : ModuleState) (wiring : ToolModuleTool) (now moduleTimeout : Int) : Prop :=
  (s.evaluate wiring.toolId now moduleTimeout = .allow ∧ s.startedBindings wiring now ≠ []) ∨
    (s.evaluate wiring.toolId now moduleTimeout ≠ .allow ∧
      ∃ b ∈ powerBindings wiring, s.runningOn wiring now b = true)

theorem confirmedBase_congr {t : ModuleState} (same : t.relayState = s.relayState) (since base : Int)
    (power : List DeviceBinding) : t.confirmedBase since base power = s.confirmedBase since base power := by
  induction power generalizing base with
  | nil => rfl
  | cons earlier rest ih => simp only [confirmedBase, confirmedOnAt, same, ih]

theorem startedBindings_congr {t : ModuleState} (relays : t.relayState = s.relayState)
    (allowed : t.allowedSince wiring.toolId = s.allowedSince wiring.toolId) (now : Int) :
    t.startedBindings wiring now = s.startedBindings wiring now := by
  unfold startedBindings started startBase allowedAt
  simp only [confirmedBase_congr relays, allowed]

theorem renew_pass_inputs (s : ModuleState) (tool : String) (now ttl moduleTimeout : Int) (wiring : ToolModuleTool) :
    (s.renew tool now ttl moduleTimeout).1.startedBindings wiring now = s.startedBindings wiring now ∧
      ∀ b, (s.renew tool now ttl moduleTimeout).1.runningOn wiring now b = s.runningOn wiring now b := by
  obtain ⟨-, same⟩ | ⟨_, -, -, same⟩ | ⟨_, -, -, same⟩ := s.renew_cases tool now ttl moduleTimeout
  all_goals
    rw [same]
    refine ⟨?_, fun _ => rfl⟩
    apply startedBindings_congr <;> rfl

theorem tickTool_grants_iff {p : Pass} (answer : (s.tickTool tool now ttl moduleTimeout).2 = some p)
    (named : p.wiring.toolId = tool) :
    (∃ entry ∈ p.power, entry.2.grant = true) ↔ s.Energizes p.wiring now moduleTimeout := by
  obtain ⟨-, turn⟩ | ⟨wiring, wired, allowed, turn⟩ | ⟨wiring, denial, wired, denied, turn⟩ :=
    s.tickTool_cases tool now ttl moduleTimeout
  · rw [turn] at answer
    cases answer
  · rw [turn] at answer
    obtain rfl := Option.some.inj answer
    obtain ⟨started, -⟩ := s.renew_pass_inputs tool now ttl moduleTimeout wiring
    change wiring.toolId = tool at named
    subst named
    simp only [Energizes, allowPass, started, allowed, ne_eq, not_true_eq_false, false_and, or_false, true_and]
    constructor
    · rintro ⟨entry, member, -⟩ empty
      rw [empty] at member
      cases member
    · intro some_
      obtain ⟨b, member⟩ := List.exists_mem_of_ne_nil _ some_
      exact ⟨_, List.mem_map_of_mem member, rfl⟩
  · rw [turn] at answer
    obtain rfl := Option.some.inj answer
    obtain ⟨-, running⟩ := s.renew_pass_inputs tool now ttl moduleTimeout wiring
    change wiring.toolId = tool at named
    subst named
    have notAllowed : s.evaluate wiring.toolId now moduleTimeout ≠ .allow := by
      rw [denied]
      exact Decision.noConfusion
    constructor
    · rintro ⟨entry, member, grant⟩
      obtain ⟨bound, same⟩ := denyPass_entry member
      exact .inr ⟨notAllowed, entry.1, bound, (running entry.1).symm.trans (same.symm.trans grant)⟩
    · rintro (⟨allowed, -⟩ | ⟨-, b, bound, on⟩)
      · exact absurd allowed notAllowed
      · refine ⟨lease wiring.toolId (max (numMilliseconds ttl) 0) true none b, ?_, rfl⟩
        refine List.mem_map.mpr ⟨b, bound, ?_⟩
        rw [if_pos ((running b).trans on)]

theorem tickTool_wiring {p : Pass} (answer : (s.tickTool tool now ttl moduleTimeout).2 = some p)
    (wired : s.wiring tool = some wiring) : p.wiring = wiring := by
  obtain ⟨-, turn⟩ | ⟨_, found, -, turn⟩ | ⟨_, _, found, -, turn⟩ := s.tickTool_cases tool now ttl moduleTimeout
  · rw [turn] at answer
    cases answer
  all_goals
    rw [turn] at answer
    obtain rfl := Option.some.inj answer
    exact Option.some.inj (found.symm.trans wired)

theorem tickTool_answers (wired : s.wiring tool = some wiring) (now ttl moduleTimeout : Int) :
    ∃ p, (s.tickTool tool now ttl moduleTimeout).2 = some p ∧ p.wiring = wiring := by
  obtain ⟨unwired, -⟩ | ⟨_, found, -, turn⟩ | ⟨_, _, found, -, turn⟩ := s.tickTool_cases tool now ttl moduleTimeout
  · rw [wired] at unwired
    cases unwired
  all_goals
    rw [turn]
    exact ⟨_, rfl, Option.some.inj (found.symm.trans wired)⟩

structure Undisturbed (s t : ModuleState) (wiring : ToolModuleTool) : Prop extends SameInputs s t where
  latched : t.latched wiring.toolId = s.latched wiring.toolId
  allowedSince : t.allowedSince wiring.toolId = s.allowedSince wiring.toolId
  grantedSince : ∀ b ∈ powerBindings wiring, t.grantedSince b.id = s.grantedSince b.id
  runOnUntil : ∀ b ∈ powerBindings wiring, t.runOnUntil b.id = s.runOnUntil b.id

namespace Undisturbed
variable {s t u : ModuleState} {wiring : ToolModuleTool}

theorem refl (s : ModuleState) (wiring : ToolModuleTool) : Undisturbed s s wiring :=
  ⟨.refl s, rfl, rfl, fun _ _ => rfl, fun _ _ => rfl⟩

theorem trans (first : Undisturbed s t wiring) (second : Undisturbed t u wiring) : Undisturbed s u wiring where
  toSameInputs := first.toSameInputs.trans second.toSameInputs
  latched := second.latched.trans first.latched
  allowedSince := second.allowedSince.trans first.allowedSince
  grantedSince b bound := (second.grantedSince b bound).trans (first.grantedSince b bound)
  runOnUntil b bound := (second.runOnUntil b bound).trans (first.runOnUntil b bound)

theorem allow_iff (same : Undisturbed s t wiring) (wired : s.wiring wiring.toolId = some wiring)
    (now moduleTimeout : Int) :
    t.evaluate wiring.toolId now moduleTimeout = .allow ↔ s.evaluate wiring.toolId now moduleTimeout = .allow := by
  rw [evaluate_eq_allow wired, evaluate_eq_allow ((same.wiring _).trans wired)]
  constructor
  · exact same.cleared (fun free => same.latched.symm.trans free)
  · rintro ⟨wired, free, heard, held, inUse⟩
    refine ⟨(same.wiring _).trans wired, same.latched.trans free, ?_, ?_, ?_⟩
    · exact fun m member => (same.silentFailOff now moduleTimeout m).trans (heard m member)
    · exact fun rule member => (same.satisfied _ rule now).trans (held rule member)
    · exact (same.inUse _ now).trans inUse

theorem runningOn (same : Undisturbed s t wiring) {b : DeviceBinding} (bound : b ∈ powerBindings wiring) (now : Int) :
    t.runningOn wiring now b = s.runningOn wiring now b := by
  have windows : t.runOnWindows wiring now b.id = s.runOnWindows wiring now b.id := by
    simp only [runOnWindows, same.allowedSince]
    split
    · refine Table.foldl_insert_congr (same.runOnUntil b bound) fun x member => ?_
      rw [same.grantedSince x member]
    · exact same.runOnUntil b bound
  simp only [ModuleState.runningOn, windows]

theorem energizes_iff (same : Undisturbed s t wiring) (wired : s.wiring wiring.toolId = some wiring)
    (now moduleTimeout : Int) : t.Energizes wiring now moduleTimeout ↔ s.Energizes wiring now moduleTimeout := by
  have allowed := same.allow_iff wired now moduleTimeout
  have started := startedBindings_congr same.relayState same.allowedSince now
  simp only [Energizes, allowed, started, ne_eq]
  refine or_congr_right (and_congr_right fun _ => exists_congr fun b => and_congr_right fun bound => ?_)
  rw [same.runningOn bound]

end Undisturbed

/-- A listed tool's turn leaves a tool of another name that shares no power binding alone. -/
theorem tickTool_undisturbed (now ttl moduleTimeout : Int) (listed : tool ∈ s.tools) (other : wiring.toolId ≠ tool)
    (apart : ∀ taken, s.wiring tool = some taken → ∀ b ∈ powerBindings wiring,
      b.id ∉ (powerBindings taken).map (·.id)) :
    Undisturbed s (s.tickTool tool now ttl moduleTimeout).1 wiring := by
  obtain ⟨taken, wired, named⟩ := wiring_of_listed listed
  have strange : wiring.toolId ≠ taken.toolId := named ▸ other
  have renewed : Undisturbed s (s.renew tool now ttl moduleTimeout).1 wiring := by
    have key : s.toolKey tool = tool := by
      simp only [toolKey, wired, Option.map_some, Option.getD_some, named]
    have inputs := s.renew_sameInputs tool now ttl moduleTimeout
    obtain ⟨-, same⟩ | ⟨_, -, -, same⟩ | ⟨_, -, -, same⟩ := s.renew_cases tool now ttl moduleTimeout
    all_goals rw [same] at inputs ⊢
    · exact ⟨inputs, rfl, rfl, fun _ _ => rfl, fun _ _ => rfl⟩
    · exact ⟨inputs, Table.insert_of_ne _ _ (key.symm ▸ other), rfl, fun _ _ => rfl, fun _ _ => rfl⟩
    · exact ⟨inputs, rfl, rfl, fun _ _ => rfl, fun _ _ => rfl⟩
  refine renewed.trans ?_
  obtain ⟨unwired, -⟩ | ⟨_, found, -, turn⟩ | ⟨_, denial, found, -, turn⟩ :=
    s.tickTool_cases tool now ttl moduleTimeout
  · rw [wired] at unwired
    cases unwired
  · obtain rfl := Option.some.inj (wired.symm.trans found)
    rw [turn]
    refine ⟨⟨rfl, rfl, rfl, rfl, rfl, rfl, rfl, rfl⟩, rfl, Table.insert_of_ne _ _ strange, ?_, ?_⟩
    · intro b bound
      refine Table.foldl_orInsert_of_notMem fun x started same => apart _ wired b bound ?_
      exact List.mem_map.mpr ⟨x, (List.mem_filter.mp started).1, same⟩
    · intro b bound
      exact (Table.eraseAll_apply _ _ _).trans (if_neg (apart _ wired b bound))
  · obtain rfl := Option.some.inj (wired.symm.trans found)
    rw [turn]
    have kept : ∀ b ∈ powerBindings wiring, ∀ stop : DeviceBinding → Bool,
        b.id ∉ ((powerBindings taken).filter stop).map (·.id) := by
      intro b bound stop stopped
      obtain ⟨x, member, same⟩ := List.mem_map.mp stopped
      exact apart _ wired b bound (List.mem_map.mpr ⟨x, (List.mem_filter.mp member).1, same⟩)
    refine ⟨⟨rfl, rfl, rfl, rfl, rfl, rfl, rfl, rfl⟩, rfl, Table.erase_of_ne _ strange, ?_, ?_⟩
    · intro b bound
      exact (Table.eraseAll_apply _ _ _).trans (if_neg (kept b bound _))
    · intro b bound
      refine (Table.eraseAll_apply _ _ _).trans ((if_neg (kept b bound _)).trans ?_)
      unfold runOnWindows
      split
      · refine Table.foldl_insert_of_notMem fun x member same => apart _ wired b bound ?_
        exact List.mem_map.mpr ⟨x, member, same⟩
      · rfl

/-- Each tool is listed once and no two share a power binding: the ids are the
server's primary keys. -/
structure Apart (s : ModuleState) : Prop where
  once : s.tools.Nodup
  bindings : ∀ wiring taken, s.wiring wiring.toolId = some wiring → s.wiring taken.toolId = some taken →
    wiring.toolId ≠ taken.toolId → ∀ b ∈ powerBindings wiring, b.id ∉ (powerBindings taken).map (·.id)

theorem turns_renewed (taken : turn ∈ s.turns now ttl moduleTimeout tools) : Renewed s turn.1 ∧ turn.2 ∈ tools := by
  induction tools generalizing s with
  | nil => cases taken
  | cons tool rest ih =>
    rcases List.mem_cons.mp taken with rfl | later
    · exact ⟨.refl s, List.mem_cons_self ..⟩
    · obtain ⟨after, listed⟩ := ih later
      exact ⟨(s.tickTool_renewed tool now ttl moduleTimeout).trans after, List.mem_cons_of_mem _ listed⟩

theorem exists_turn (now ttl moduleTimeout : Int) (listed : tool ∈ tools) :
    ∃ t, (t, tool) ∈ s.turns now ttl moduleTimeout tools := by
  induction tools generalizing s with
  | nil => cases listed
  | cons first rest ih =>
    rcases List.mem_cons.mp listed with rfl | later
    · exact ⟨s, List.mem_cons_self ..⟩
    · obtain ⟨t, taken⟩ := ih (s := (s.tickTool first now ttl moduleTimeout).1) later
      exact ⟨t, List.mem_cons_of_mem _ taken⟩

/-- Where the tools are apart, a turn finds its own tool as the tick did. -/
theorem turns_undisturbed (once : tools.Nodup) (listed : ∀ tool ∈ tools, tool ∈ s.tools)
    (apart : ∀ taken, s.wiring taken.toolId = some taken → wiring.toolId ≠ taken.toolId →
      ∀ b ∈ powerBindings wiring, b.id ∉ (powerBindings taken).map (·.id))
    (taken : turn ∈ s.turns now ttl moduleTimeout tools) (named : wiring.toolId = turn.2) :
    Undisturbed s turn.1 wiring := by
  induction tools generalizing s with
  | nil => cases taken
  | cons tool rest ih =>
    rcases List.mem_cons.mp taken with rfl | later
    · exact .refl s wiring
    · have inputs := s.tickTool_sameInputs tool now ttl moduleTimeout
      have sameTools : (s.tickTool tool now ttl moduleTimeout).1.tools = s.tools := by
        simp only [ModuleState.tools, inputs.snapshot]
      have first := listed tool (List.mem_cons_self ..)
      have other : wiring.toolId ≠ tool := by
        intro same
        have again := (turns_renewed later).2
        rw [← named, same] at again
        exact (List.nodup_cons.mp once).1 again
      refine (tickTool_undisturbed now ttl moduleTimeout first other ?_).trans
        (ih (List.nodup_cons.mp once).2 ?_ ?_ later)
      · intro taken wired
        obtain ⟨_, found, own⟩ := wiring_of_listed first
        obtain rfl := Option.some.inj (wired.symm.trans found)
        exact apart _ (own.symm ▸ wired) (own.symm ▸ other)
      · intro tool' member
        rw [sameTools]
        exact listed tool' (List.mem_cons_of_mem _ member)
      · intro taken wired
        exact apart taken ((inputs.wiring _).symm.trans wired)

theorem Apart.energizes_iff (apart : s.Apart) (taken : turn ∈ s.turns now ttl moduleTimeout s.tools)
    (wired : s.wiring turn.2 = some wiring) :
    turn.1.Energizes wiring now moduleTimeout ↔ s.Energizes wiring now moduleTimeout := by
  obtain ⟨_, found, named⟩ := wiring_of_listed (turns_renewed taken).2
  obtain rfl := Option.some.inj (wired.symm.trans found)
  have own := named.symm ▸ wired
  refine Undisturbed.energizes_iff ?_ own now moduleTimeout
  exact turns_undisturbed apart.once (fun _ listed => listed)
    (fun taken wired => apart.bindings _ taken own wired) taken named

end ModuleState

/-- What a coordinator does to its power cache: take in a snapshot, note a draw, or
go over the overages, tripping and reporting each. -/
inductive PowerCall (Amps : Type)
  | applyState (payload : PowerStatePayload)
  | recordDraw (toolId : String) (amps : Amps)
  | fastTrip

inductive PowerNote
  | tripped (circuitId : String)
  | snapshot (payload : PowerStatePayload)

section Reports
variable {Amps : Type} [Zero Amps] [Add Amps] [LT Amps] [DecidableLT Amps] (parseAmps : String → Option Amps)

def PowerState.fastTrip (s : PowerState Amps) : PowerState Amps :=
  (s.evaluateOverages parseAmps).foldl PowerState.markTripped s

def powerCache : Machine (PowerState Amps) (PowerCall Amps) (List PowerNote) where
  start := .new
  step s
    | .applyState payload => (s.applyState payload, [.snapshot payload])
    | .recordDraw toolId amps => (s.recordDraw toolId amps, [])
    | .fastTrip => (s.fastTrip parseAmps, (s.evaluateOverages parseAmps).map .tripped)

def powerLog (past : List (PowerCall Amps)) : List PowerNote :=
  (powerCache parseAmps).history (fun s call => ((powerCache parseAmps).step s call).2) past

def EndsLockout (circuitId : String) (note : PowerNote) : Prop :=
  ∃ payload, note = .snapshot payload ∧ PowerState.circuitLocked payload circuitId = false

def LockedOut (log : List PowerNote) (circuitId : String) : Prop :=
  Since (fun _ note => note = .tripped circuitId) (fun note => ¬ EndsLockout circuitId note) log

theorem lockedOut_append_tripped {log : List PowerNote} {circuits : List String} {c : String} :
    LockedOut (log ++ circuits.map .tripped) c ↔ c ∈ circuits ∨ LockedOut log c := by
  induction circuits using List.reverseRecOn with
  | nil => simp
  | append_singleton front final ih =>
    rw [List.map_append, ← List.append_assoc, List.map_singleton, LockedOut, Since.snoc_iff]
    have stays : ¬ EndsLockout c (.tripped final) := by
      rintro ⟨payload, same, -⟩
      cases same
    simp only [PowerNote.tripped.injEq, stays, not_false_eq_true, and_true, List.mem_append, List.mem_singleton]
    rw [← LockedOut, ih]
    tauto

theorem mem_evaluateOverages {s : PowerState Amps} {c : String} (overage : c ∈ s.evaluateOverages parseAmps) :
    c ∉ s.localTripped := by
  unfold PowerState.evaluateOverages at overage
  split at overage
  · cases overage
  · simp only [List.mem_insertionSort, List.mem_map, List.mem_filter, Bool.and_eq_true, Bool.not_eq_true',
      decide_eq_false_iff_not] at overage
    obtain ⟨circuit, ⟨-, -, fresh⟩, rfl⟩ := overage
    exact fresh

theorem nodup_evaluateOverages {s : PowerState Amps}
    (distinct : ∀ snap, s.snapshot = some snap → (snap.circuits.map (·.id)).Nodup) :
    (s.evaluateOverages parseAmps).Nodup := by
  unfold PowerState.evaluateOverages
  split
  · exact List.nodup_nil
  · rename_i snap held
    refine (List.perm_insertionSort _ _).nodup_iff.mpr ?_
    exact (distinct snap held).sublist (List.filter_sublist.map _)

theorem separated_append_tripped {log : List PowerNote} {circuits : List String} {c : String}
    (separated : Separated (· = .tripped c) (EndsLockout c) log) (distinct : circuits.Nodup)
    (fresh : c ∈ circuits → ¬ LockedOut log c) :
    Separated (· = .tripped c) (EndsLockout c) (log ++ circuits.map .tripped) := by
  induction circuits using List.reverseRecOn with
  | nil => simpa using separated
  | append_singleton front final ih =>
    have apart := List.nodup_append.mp distinct
    have earlier := ih apart.1 (fun member => fresh (List.mem_append_left _ member))
    rw [List.map_append, ← List.append_assoc, List.map_singleton]
    refine earlier.snoc ?_
    intro same again
    obtain rfl := PowerNote.tripped.inj same
    rcases lockedOut_append_tripped.mp again with twice | before
    · exact apart.2.2 _ twice _ (List.mem_singleton_self _) rfl
    · exact fresh (List.mem_append_right _ (List.mem_singleton_self _)) before

structure PowerInv (log : List PowerNote) (s : PowerState Amps) : Prop where
  held : ∀ c, LockedOut log c → c ∈ s.localTripped
  apart : ∀ c, Separated (· = .tripped c) (EndsLockout c) log
  distinct : ∀ snap, s.snapshot = some snap → (snap.circuits.map (·.id)).Nodup

theorem PowerInv.step {log : List PowerNote} {s : PowerState Amps} (inv : PowerInv log s) (call : PowerCall Amps)
    (distinct : ∀ payload, call = .applyState payload → (payload.circuits.map (·.id)).Nodup) :
    PowerInv (log ++ ((powerCache parseAmps).step s call).2) ((powerCache parseAmps).step s call).1 := by
  cases call with
  | applyState payload =>
    refine ⟨?_, ?_, ?_⟩
    · intro c locked
      rcases Since.snoc_iff.mp locked with same | ⟨before, still⟩
      · cases same
      · have reported : PowerState.circuitLocked payload c = true := by
          by_contra clear
          exact still ⟨payload, rfl, Bool.not_eq_true _ ▸ clear⟩
        exact Finset.mem_filter.mpr ⟨inv.held c before, reported⟩
    · exact fun c => (inv.apart c).snoc (fun same => by cases same)
    · intro snap here
      obtain rfl := Option.some.inj here
      exact distinct _ rfl
  | recordDraw toolId amps =>
    have same : log ++ ((powerCache parseAmps).step s (.recordDraw toolId amps)).2 = log := List.append_nil log
    rw [same]
    exact ⟨inv.held, inv.apart, inv.distinct⟩
  | fastTrip =>
    refine ⟨?_, ?_, ?_⟩
    · intro c locked
      refine PowerState.mem_foldl_markTripped.mpr ?_
      rcases lockedOut_append_tripped.mp locked with reported | before
      · exact .inl reported
      · exact .inr (inv.held c before)
    · intro c
      refine separated_append_tripped (inv.apart c) (nodup_evaluateOverages parseAmps inv.distinct) ?_
      exact fun overage locked => mem_evaluateOverages parseAmps overage (inv.held c locked)
    · intro snap here
      have untouched : ∀ circuits : List String, (circuits.foldl PowerState.markTripped s).snapshot = s.snapshot := by
        intro circuits
        induction circuits using List.reverseRecOn with
        | nil => rfl
        | append_singleton front final ih => rw [List.foldl_append]; exact ih
      exact inv.distinct snap ((untouched _).symm.trans here)

theorem powerInv_run (past : List (PowerCall Amps))
    (distinct : ∀ payload, .applyState payload ∈ past → (payload.circuits.map (·.id)).Nodup) :
    PowerInv (powerLog parseAmps past) ((powerCache parseAmps).run past) := by
  refine (powerCache parseAmps).run_invariant (fun past s =>
    (∀ payload, .applyState payload ∈ past → (payload.circuits.map (·.id)).Nodup) →
      PowerInv (powerLog parseAmps past) s) ?_ ?_ past distinct
  · intro _
    refine ⟨?_, fun c => Separated.nil, ?_⟩
    · exact fun c locked => absurd locked Since.not_nil
    · intro snap here
      cases here
  · intro past call inv distinct
    have snoc : powerLog parseAmps (past ++ [call]) =
        powerLog parseAmps past ++ ((powerCache parseAmps).step ((powerCache parseAmps).run past) call).2 :=
      (powerCache parseAmps).history_snoc _ past call
    rw [snoc]
    refine (inv fun payload member => distinct payload (List.mem_append_left _ member)).step parseAmps call ?_
    rintro payload rfl
    exact distinct payload (List.mem_append_right _ (List.mem_singleton_self _))

end Reports

def ResourceCache.EnergizesLocked {Uuid Amps : Type} (c : ResourceCache Uuid Amps)
    (now ttl moduleTimeout : Int) : Prop :=
  ∃ turn ∈ c.wiring.turns now ttl moduleTimeout c.wiring.tools, c.power.isLocked turn.2 = true ∧
    ∃ wiring, turn.1.wiring turn.2 = some wiring ∧ turn.1.Energizes wiring now moduleTimeout

theorem ResourceCache.grantsLocked_iff {Uuid Amps : Type} {c : ResourceCache Uuid Amps}
    {now ttl moduleTimeout : Int} :
    (∃ p ∈ (c.wiring.tickPasses now ttl moduleTimeout).2, c.power.isLocked p.wiring.toolId = true ∧
        ∃ entry ∈ p.power, entry.2.grant = true) ↔
      c.EnergizesLocked now ttl moduleTimeout := by
  constructor
  · rintro ⟨p, member, locked, granted⟩
    obtain ⟨⟨s, tool⟩, taken, answer⟩ := ModuleState.mem_tickTools.mp member
    obtain ⟨renewed, listed⟩ := ModuleState.turns_renewed taken
    obtain ⟨wiring, found, named⟩ := ModuleState.wiring_of_listed listed
    have wired := (renewed.wiring tool).trans found
    have own : p.wiring = wiring := ModuleState.tickTool_wiring answer wired
    subst own
    refine ⟨(s, tool), taken, named ▸ locked, p.wiring, wired, ?_⟩
    exact (ModuleState.tickTool_grants_iff answer named).mp granted
  · rintro ⟨⟨s, tool⟩, taken, locked, wiring, wired, energizes⟩
    obtain ⟨renewed, listed⟩ := ModuleState.turns_renewed taken
    obtain ⟨_, found, named⟩ := ModuleState.wiring_of_listed listed
    obtain rfl := Option.some.inj (wired.symm.trans ((renewed.wiring tool).trans found))
    obtain ⟨p, answer, own⟩ := ModuleState.tickTool_answers wired now ttl moduleTimeout
    subst own
    refine ⟨p, ModuleState.mem_tickTools.mpr ⟨(s, tool), taken, answer⟩, ?_, ?_⟩
    · exact named ▸ locked
    · exact (ModuleState.tickTool_grants_iff answer named).mpr energizes

/-- No locked tool's power binding is leased in a tick exactly when no locked tool
energizes at its turn, for the engine never asks the power cache; while the tools
are apart that can be told before the tick. And while every snapshot lists a
circuit once, a circuit is reported at most once per lockout. -/
theorem locked_circuit_unleased_iff {Uuid Amps : Type} [Zero Amps] [Add Amps] [LT Amps] [DecidableLT Amps] :
    (∀ (c : ResourceCache Uuid Amps) (now ttl moduleTimeout : Int),
      (∀ p ∈ (c.wiring.tickPasses now ttl moduleTimeout).2, c.power.isLocked p.wiring.toolId = true →
          ∀ entry ∈ p.power, entry.2.grant = false) ↔
        ¬ c.EnergizesLocked now ttl moduleTimeout) ∧
    (∀ (c : ResourceCache Uuid Amps) (now ttl moduleTimeout : Int), c.wiring.Apart →
      (c.EnergizesLocked now ttl moduleTimeout ↔
        ∃ tool ∈ c.wiring.tools, c.power.isLocked tool = true ∧
          ∃ wiring, c.wiring.wiring tool = some wiring ∧ c.wiring.Energizes wiring now moduleTimeout)) ∧
    ∀ (parseAmps : String → Option Amps) (past : List (PowerCall Amps)),
      (∀ payload, .applyState payload ∈ past → (payload.circuits.map (·.id)).Nodup) →
        ∀ circuitId, Separated (· = .tripped circuitId) (EndsLockout circuitId) (powerLog parseAmps past) := by
  refine ⟨?_, ?_, fun parseAmps past distinct => (powerInv_run parseAmps past distinct).apart⟩
  · intro c now ttl moduleTimeout
    rw [← ResourceCache.grantsLocked_iff]
    push Not
    simp only [ne_eq, Bool.not_eq_true]
  · intro c now ttl moduleTimeout apart
    constructor
    · rintro ⟨turn, taken, locked, wiring, wired, energizes⟩
      obtain ⟨renewed, listed⟩ := ModuleState.turns_renewed taken
      have found := (renewed.wiring _).symm.trans wired
      exact ⟨turn.2, listed, locked, wiring, found, (apart.energizes_iff taken found).mp energizes⟩
    · rintro ⟨tool, listed, locked, wiring, found, energizes⟩
      obtain ⟨t, taken⟩ := ModuleState.exists_turn (s := c.wiring) now ttl moduleTimeout listed
      obtain ⟨renewed, -⟩ := ModuleState.turns_renewed taken
      exact ⟨(t, tool), taken, locked, wiring, (renewed.wiring _).trans found,
        (apart.energizes_iff taken found).mpr energizes⟩

def lockout : PowerStatePayload where
  lockedToolIds := ["lathe"]
  circuits := [⟨"shop", "16"⟩]
  tools := [⟨"lathe", none, some "shop"⟩]

/-- An edge whose lathe is in use when the server locks its circuit out. -/
def lockedShop : ResourceCache HexId Int where
  wiring := engine.run [.applyState ⟨[lathe]⟩ none 0, .openSession "lathe" 0 none]
  allowList := ⟨none, none⟩
  power := PowerState.applyState .new lockout
  policy := .empty
  holdSent := .empty

/-- The tick leases the locked lathe's fan all the same. -/
theorem locked_circuit_leased :
    lockedShop.power.isLocked "lathe" = true ∧
      (lockedShop.wiring.tick 0 (seconds 10) (seconds 30)).2 = [⟨"lathe", "plug", true, 10000, none⟩] := by
  decide

theorem locked_circuit_unleased_iff_shop :
    ¬ (∀ p ∈ (lockedShop.wiring.tickPasses 0 (seconds 10) (seconds 30)).2,
        lockedShop.power.isLocked p.wiring.toolId = true → ∀ entry ∈ p.power, entry.2.grant = false) ∧
      Separated (· = .tripped "shop") (EndsLockout "shop")
        (powerLog String.toInt? [.applyState { lockout with lockedToolIds := [] }, .recordDraw "lathe" (20 : Int),
          .fastTrip, .fastTrip]) := by
  have law := @locked_circuit_unleased_iff HexId Int _ _ _ _
  have apart : lockedShop.wiring.Apart := by
    refine ⟨by decide, ?_⟩
    intro wiring taken wired other strange
    have one : ∀ {w : ToolModuleTool}, lockedShop.wiring.wiring w.toolId = some w → w = lathe := by
      intro w found
      obtain ⟨snapshot, held, resolved⟩ := Option.bind_eq_some_iff.mp found
      have listed := ModuleState.resolve_mem resolved
      have only : snapshot = ⟨[lathe]⟩ := (Option.some.inj held).symm
      subst only
      exact List.mem_singleton.mp listed
    rw [one wired, one other] at strange
    exact absurd rfl strange
  refine ⟨?_, ?_⟩
  · intro unleased
    refine (law.1 _ _ _ _).mp unleased
      ((law.2.1 _ _ _ _ apart).mpr ⟨"lathe", by decide, by decide, lathe, by decide, ?_⟩)
    exact .inl ⟨by decide, by decide⟩
  · refine law.2.2 _ _ ?_ _
    intro payload member
    simp only [List.mem_cons, PowerCall.applyState.injEq, reduceCtorEq, List.not_mem_nil, or_false] at member
    subst member
    decide

end CoopSpaces

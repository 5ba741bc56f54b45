import CoopSpaces.Lib.Machine
import CoopSpaces.Lib.Totals
import CoopSpaces.Server.Grid

namespace CoopSpaces

section Aggregation
variable {Uuid : Type} [LinearOrder Uuid]

/-- The tool's circuit, through the maps. -/
def resolveCircuit (toolToReceptacle recepToOutlet outletToCircuit : Table Uuid Uuid) (toolId : Uuid) : Option Uuid :=
  ((toolToReceptacle toolId).bind recepToOutlet).bind outletToCircuit

/-- Each tool's latest draw on its circuit: every circuit listed is there, a tool that resolves
to none adds nowhere, and the circuits come in the order of their ids. -/
def sumDrawPerCircuit (circuitIds : List Uuid) (toolDraws : List (Uuid × Rat))
    (toolToReceptacle recepToOutlet outletToCircuit : Table Uuid Uuid) : List (Uuid × Rat) :=
  let idle : AList fun _ : Uuid => Rat := circuitIds.foldl (fun totals cid => totals.insert cid 0) ∅
  let totals := toolDraws.foldl (fun totals draw =>
    match resolveCircuit toolToReceptacle recepToOutlet outletToCircuit draw.1 with
    | none => totals
    | some cid => totals.addAt (cid, draw.2)) idle
  totals.sorted

/-- The circuits that must trip, in the order given: at the rating is not over it. -/
def overloadedCircuits (circuits : List (Uuid × DecimalColumn × Bool)) (totals : List (Uuid × Rat)) :
    List (Uuid × Rat × DecimalColumn) :=
  circuits.filterMap fun circuit =>
    if circuit.2.2 then none
    else
      let total := ((totals.find? fun row => row.1 = circuit.1).map (·.2)).getD 0
      if circuit.2.1.number < total then some (circuit.1, total, circuit.2.1) else none

end Aggregation

namespace PowerGrid
variable {Uuid : Type} [LinearOrder Uuid] (display : Rat → String) (g : PowerGrid Uuid)

def circuitDrawTotals : List (Uuid × Rat) :=
  sumDrawPerCircuit (g.circuits.map (·.id))
    (g.toolStates.filterMap fun state => state.lastDrawAmps.map fun draw => (state.toolId, draw))
    (.collect (g.tools.filterMap fun tool => tool.receptacleId.map fun rid => (tool.id, rid)))
    (.collect g.receptacles) (.collect g.outlets)

/-- The circuits that are over their limit and not locked yet. -/
def overages : List (Uuid × Rat × DecimalColumn) :=
  overloadedCircuits (g.circuits.map fun c => (c.id, c.amperageLimit, c.lockedOut)) g.circuitDrawTotals

/-- Lock one of them, and say so when it was locked by that. -/
def tripCircuit (now : Int) : PowerGrid Uuid × List (Uuid × Rat × DecimalColumn) → Uuid × Rat × DecimalColumn →
    PowerGrid Uuid × List (Uuid × Rat × DecimalColumn)
  | (g, tripped), (id, total, limit) =>
    let engaged := g.engageCircuitLockout id "server_aggregate"
      ("summed draw " ++ display total ++ " A exceeds circuit limit " ++ limit.text ++ " A") now
    (engaged.1, if 0 < engaged.2 then tripped ++ [(id, total, limit)] else tripped)

def evaluateCircuitOverages (now : Int) : PowerGrid Uuid × List (Uuid × Rat × DecimalColumn) :=
  g.overages.foldl (tripCircuit display now) (g, [])

/-- The latest reading of a tool, in the one row it has. -/
def upsertToolPowerState (toolId : Uuid) (draw : Option Rat) : PowerGrid Uuid :=
  if g.toolStates.any fun state => decide (state.toolId = toolId) then
    { g with toolStates := g.toolStates.map fun state =>
        if state.toolId = toolId then { state with lastDrawAmps := draw } else state }
  else { g with toolStates := g.toolStates ++ [⟨toolId, draw, false, none, none⟩] }

end PowerGrid

/-- A power report about the tool it was found to name. -/
structure PowerReportRequest (Uuid : Type) where
  toolId : Uuid
  drawNow : Option Rat
  selfTripped : Option Bool

namespace PowerGrid
variable {Uuid : Type} [LinearOrder Uuid]

/-- The reading is stored. A self-trip locks the tool; any other report has the circuits evaluated,
and those that tripped are reported. -/
def powerReport (display : Rat → String) (g : PowerGrid Uuid) (now : Int) (req : PowerReportRequest Uuid) :
    PowerGrid Uuid × Option (List (Uuid × Rat × DecimalColumn)) :=
  if (g.tools.any fun tool => decide (tool.id = req.toolId)) = false then (g, none)
  else
    let recorded := g.upsertToolPowerState req.toolId req.drawNow
    if req.selfTripped = some true then
      (recorded.engageToolLockout req.toolId "firmware self-trip: device exceeded its own over-current limit"
        now, some [])
    else
      let evaluated := recorded.evaluateCircuitOverages display now
      (evaluated.1, some evaluated.2)

variable (g : PowerGrid Uuid)

/-- The circuit a tool draws from. -/
def circuitOf (toolId : Uuid) : Option Uuid :=
  (g.tools.find? fun tool => tool.id = toolId).bind fun tool => g.toolCircuit tool.receptacleId

/-- The latest draws of the tools on a circuit, all together. -/
def totalDraw (cid : Uuid) : Rat :=
  (g.toolStates.map fun state => if g.circuitOf state.toolId = some cid then state.lastDrawAmps.getD 0 else 0).sum

def circuitIsLocked (cid : Uuid) : Bool := g.circuits.any fun c => decide (c.id = cid) && c.lockedOut

/-! The totals. -/

variable {g}

omit [LinearOrder Uuid] in
theorem nodup_links (keyed : g.Keyed) :
    ((g.tools.filterMap fun tool => tool.receptacleId.map fun rid => (tool.id, rid)).map (·.1)).Nodup := by
  have picked : ∀ tools : List (PowerTool Uuid),
      ((tools.filterMap fun tool => tool.receptacleId.map fun rid => (tool.id, rid)).map (·.1)).Sublist
        (tools.map (·.id)) := by
    intro tools
    induction tools with
    | nil => exact List.Sublist.slnil
    | cons first rest ih =>
      rw [List.filterMap_cons]
      rcases first.receptacleId with _ | rid
      · exact ih.cons _
      · exact ih.cons_cons _
  exact (picked g.tools).nodup keyed.tools

/-- The maps of the summation lead where the tables do. -/
theorem resolveCircuit_eq (keyed : g.Keyed) (toolId : Uuid) :
    resolveCircuit (.collect (g.tools.filterMap fun tool => tool.receptacleId.map fun rid => (tool.id, rid)))
      (.collect g.receptacles) (.collect g.outlets) toolId = g.circuitOf toolId := by
  have byKey : ∀ {rows : List (Uuid × Uuid)}, (rows.map (·.1)).Nodup → ∀ k,
      Table.collect rows k = (Table.index (·.1) rows k).map (·.2) := by
    intro rows distinct k
    refine Option.ext fun v => ?_
    rw [Table.collect_eq_some distinct, Table.index_eq_find? distinct, Option.map_eq_some_iff,
      Table.exists_find?_iff (P := fun row => row.2 = v) distinct]
    constructor
    · exact fun member => ⟨(k, v), member, rfl, rfl⟩
    · rintro ⟨⟨k', v'⟩, member, rfl, rfl⟩
      exact member
  have first : Table.collect (g.tools.filterMap fun tool => tool.receptacleId.map fun rid => (tool.id, rid)) toolId =
      (g.tools.find? fun tool => tool.id = toolId).bind (·.receptacleId) := by
    refine Option.ext fun rid => ?_
    rw [Table.collect_eq_some (nodup_links keyed), List.mem_filterMap, Option.bind_eq_some_iff,
      Table.exists_find?_iff (P := fun tool => tool.receptacleId = some rid) keyed.tools]
    constructor
    · rintro ⟨tool, member, picked⟩
      obtain ⟨rid', has, same⟩ := Option.map_eq_some_iff.mp picked
      cases same
      exact ⟨tool, member, rfl, has⟩
    · rintro ⟨tool, member, rfl, has⟩
      exact ⟨tool, member, Option.map_eq_some_iff.mpr ⟨rid, has, rfl⟩⟩
  rw [resolveCircuit, first, circuitOf]
  generalize List.find? _ g.tools = row
  rcases row with _ | tool
  · rfl
  · rw [Option.bind_some, Option.bind_some]
    rcases tool.receptacleId with _ | rid
    · rfl
    · change (Table.collect g.receptacles rid).bind (Table.collect g.outlets) = _
      rw [byKey keyed.receptacles, toolCircuit, Option.bind_some]
      generalize Table.index _ g.receptacles rid = row
      rcases row with _ | row
      · rfl
      · exact byKey keyed.outlets row.2

/-- The draws that count, each under its circuit. -/
def draws (g : PowerGrid Uuid) : List (Uuid × Rat) :=
  (g.toolStates.filterMap fun state => state.lastDrawAmps.map fun draw => (state.toolId, draw)).filterMap fun draw =>
    (resolveCircuit (.collect (g.tools.filterMap fun tool => tool.receptacleId.map fun rid => (tool.id, rid)))
      (.collect g.receptacles) (.collect g.outlets) draw.1).map fun cid => (cid, draw.2)

theorem circuitDrawTotals_eq (g : PowerGrid Uuid) : g.circuitDrawTotals =
    (g.draws.foldl AList.addAt ((g.circuits.map (·.id)).foldl (fun totals cid => totals.insert cid 0) ∅)).sorted := by
  rw [draws, List.foldl_filterMap]
  unfold circuitDrawTotals sumDrawPerCircuit
  refine congrArg AList.sorted (congrArg (fun add => List.foldl add _ _) ?_)
  funext totals draw
  rcases resolveCircuit _ _ _ draw.1 with _ | cid
  · rfl
  · rfl

theorem totals_at (keyed : g.Keyed) (cid : Uuid) :
    ((g.circuitDrawTotals.find? fun row => row.1 = cid).map (·.2)).getD 0 = g.totalDraw cid := by
  have idle : (((g.circuits.map (·.id)).foldl (fun totals cid => totals.insert cid 0)
      (∅ : AList fun _ : Uuid => Rat)).lookup cid).getD 0 = 0 := by
    rw [AList.lookup_foldl_insert]
    split
    · rfl
    · rfl
  rw [circuitDrawTotals_eq, AList.find?_sorted, AList.getD_lookup_foldl_addAt _ idle, draws, List.filterMap_filterMap,
    AList.sumAt_filterMap, totalDraw]
  refine congrArg List.sum (List.map_congr_left fun state _ => ?_)
  rcases state.lastDrawAmps with _ | draw
  · exact (ite_self _).symm
  · rw [Option.map_some, Option.bind_some, resolveCircuit_eq keyed]
    rcases g.circuitOf state.toolId with _ | other
    · rfl
    · simp only [Option.map_some, Option.getD_some, Option.some.injEq]

/-- The same rows, listed in any order. -/
structure SameRows (g h : PowerGrid Uuid) : Prop where
  circuits : g.circuits.Perm h.circuits
  outlets : g.outlets.Perm h.outlets
  receptacles : g.receptacles.Perm h.receptacles
  tools : g.tools.Perm h.tools
  toolStates : g.toolStates.Perm h.toolStates

theorem circuitDrawTotals_congr (keyed : g.Keyed) {h : PowerGrid Uuid} (same : g.SameRows h) :
    g.circuitDrawTotals = h.circuitDrawTotals := by
  have links := Table.collect_perm (nodup_links keyed) (same.tools.filterMap _)
  have drawn : g.draws.Perm h.draws := by
    rw [draws, draws, links, Table.collect_perm keyed.receptacles same.receptacles,
      Table.collect_perm keyed.outlets same.outlets]
    exact (same.toolStates.filterMap _).filterMap _
  rw [circuitDrawTotals_eq, circuitDrawTotals_eq]
  refine AList.sorted_congr fun cid => ?_
  simp only [AList.lookup_foldl_addAt, AList.lookup_foldl_insert, (drawn.map _).mem_iff,
    (same.circuits.map PowerCircuit.id).mem_iff, AList.sumAt_perm drawn]

/-! The evaluation. -/

theorem mem_overages (keyed : g.Keyed) {item : Uuid × Rat × DecimalColumn} : item ∈ g.overages ↔
    ∃ c ∈ g.circuits, c.lockedOut = false ∧ c.amperageLimit.number < g.totalDraw c.id ∧
      item = (c.id, g.totalDraw c.id, c.amperageLimit) := by
  simp only [overages, overloadedCircuits, List.mem_filterMap, List.mem_map, totals_at keyed]
  constructor
  · rintro ⟨_, ⟨c, listed, rfl⟩, picked⟩
    rcases locked : c.lockedOut with _ | _
    · by_cases above : c.amperageLimit.number < g.totalDraw c.id
      · simp only [locked, Bool.false_eq_true, if_false, if_pos above] at picked
        exact ⟨c, listed, locked, above, (Option.some.inj picked).symm⟩
      · simp only [locked, Bool.false_eq_true, if_false, if_neg above] at picked
        cases picked
    · simp only [locked, if_true] at picked
      cases picked
  · rintro ⟨c, listed, unlocked, above, rfl⟩
    refine ⟨_, ⟨c, listed, rfl⟩, ?_⟩
    simp only [unlocked, Bool.false_eq_true, if_false, if_pos above]

theorem nodup_overages (keyed : g.Keyed) : (g.overages.map (·.1)).Nodup := by
  have picked : ∀ (circuits : List (PowerCircuit Uuid)) totals,
      ((overloadedCircuits (circuits.map fun c => (c.id, c.amperageLimit, c.lockedOut)) totals).map (·.1)).Sublist
        (circuits.map (·.id)) := by
    intro circuits totals
    induction circuits with
    | nil => exact List.Sublist.slnil
    | cons first rest ih =>
      rw [List.map_cons, overloadedCircuits, List.filterMap_cons]
      dsimp only
      split
      · exact ih.cons _
      next row chosen =>
        split at chosen
        · cases chosen
        · split at chosen
          · cases chosen
            exact ih.cons_cons _
          · cases chosen
  exact (picked g.circuits g.circuitDrawTotals).nodup keyed.circuits

/-- The circuits were locked that are on a list, and nothing else changed. -/
def LocksOnly (g : PowerGrid Uuid) (cids : List Uuid) (g' : PowerGrid Uuid) : Prop :=
  ∃ relock : PowerCircuit Uuid → PowerCircuit Uuid, g' = { g with circuits := g.circuits.map relock } ∧
    ∀ c, (relock c).id = c.id ∧ (relock c).amperageLimit = c.amperageLimit ∧
      (relock c).lockedOut = (c.lockedOut || decide (c.id ∈ cids))

theorem LocksOnly.trans {first second third : PowerGrid Uuid} {cids later : List Uuid}
    (front : first.LocksOnly cids second)
    (back : second.LocksOnly later third) : first.LocksOnly (cids ++ later) third := by
  obtain ⟨f, rfl, sameF⟩ := front
  obtain ⟨h, rfl, sameH⟩ := back
  refine ⟨h ∘ f, by simp only [List.map_map], fun c => ?_⟩
  obtain ⟨idF, limitF, lockF⟩ := sameF c
  obtain ⟨idH, limitH, lockH⟩ := sameH (f c)
  refine ⟨idH.trans idF, limitH.trans limitF, ?_⟩
  simp only [Function.comp_apply, lockH, lockF, idF, Bool.or_assoc, List.mem_append, Bool.decide_or]

theorem engageCircuitLockout_locksOnly (g : PowerGrid Uuid) (cid : Uuid) (source reason : String) (now : Int) :
    g.LocksOnly [cid] (g.engageCircuitLockout cid source reason now).1 := by
  refine ⟨_, rfl, fun c => ?_⟩
  rcases locked : c.lockedOut with _ | _
  · by_cases same : c.id = cid
    · simp [same, locked]
    · simp [same, locked]
  · simp [locked]

/-- Circuits that are not locked yet are all locked in turn, and each is reported. -/
theorem foldl_tripCircuit (display : Rat → String) (now : Int) {found : List (Uuid × Rat × DecimalColumn)}
    (distinct : (found.map (·.1)).Nodup) {g : PowerGrid Uuid} (tripped : List (Uuid × Rat × DecimalColumn))
    (unlocked : ∀ item ∈ found, ∃ c ∈ g.circuits, c.id = item.1 ∧ c.lockedOut = false) :
    g.LocksOnly (found.map (·.1)) (found.foldl (tripCircuit display now) (g, tripped)).1 ∧
      (found.foldl (tripCircuit display now) (g, tripped)).2 = tripped ++ found := by
  induction found generalizing g tripped with
  | nil =>
    refine ⟨⟨id, by rw [List.map_id]; rfl, fun c => ⟨rfl, rfl, ?_⟩⟩, (List.append_nil _).symm⟩
    simp
  | cons item rest ih =>
    obtain ⟨id, total, limit⟩ := item
    obtain ⟨fresh, distinct⟩ := List.nodup_cons.mp distinct
    obtain ⟨c, listed, same, open_⟩ := unlocked _ (List.mem_cons_self ..)
    let reason := "summed draw " ++ display total ++ " A exceeds circuit limit " ++ limit.text ++ " A"
    have locks := g.engageCircuitLockout_locksOnly id "server_aggregate" reason now
    have engaged : 0 < (g.engageCircuitLockout id "server_aggregate" reason now).2 := by
      refine List.countP_pos_iff.mpr ⟨c, listed, ?_⟩
      rw [decide_eq_true same, open_]
      rfl
    have tripOne : tripCircuit display now (g, tripped) (id, total, limit) =
        ((g.engageCircuitLockout id "server_aggregate" reason now).1, tripped ++ [(id, total, limit)]) := by
      rw [tripCircuit, if_pos engaged]
    rw [List.foldl_cons, tripOne]
    have still : ∀ item ∈ rest, ∃ c ∈ (g.engageCircuitLockout id "server_aggregate" reason now).1.circuits,
        c.id = item.1 ∧ c.lockedOut = false := by
      intro item member
      obtain ⟨c, listed, same, open_⟩ := unlocked item (List.mem_cons_of_mem _ member)
      have other : c.id ≠ id := by
        intro clash
        have here : item.1 ∈ rest.map (·.1) := List.mem_map_of_mem member
        rw [← same, clash] at here
        exact fresh here
      obtain ⟨relock, after, sameRow⟩ := locks
      obtain ⟨idKept, -, lock⟩ := sameRow c
      rw [after]
      refine ⟨relock c, List.mem_map_of_mem listed, idKept.trans same, ?_⟩
      rw [lock, open_, Bool.false_or, decide_eq_false fun member => other (List.mem_singleton.mp member)]
    obtain ⟨later, reported⟩ := ih distinct (tripped ++ [(id, total, limit)]) still
    refine ⟨locks.trans later, ?_⟩
    rw [reported, List.append_assoc, List.singleton_append]

theorem evaluateCircuitOverages_spec (keyed : g.Keyed) (display : Rat → String) (now : Int) :
    g.LocksOnly (g.overages.map (·.1)) (g.evaluateCircuitOverages display now).1 ∧
      (g.evaluateCircuitOverages display now).2 = g.overages := by
  refine foldl_tripCircuit display now (nodup_overages keyed) [] fun item member => ?_
  obtain ⟨c, listed, unlocked, -, rfl⟩ := (mem_overages keyed).mp member
  exact ⟨c, listed, rfl, unlocked⟩

/-- What one row counts for in the total of a circuit. -/
def drawPart (g : PowerGrid Uuid) (cid : Uuid) (state : ToolPowerState Uuid) : Rat :=
  if g.circuitOf state.toolId = some cid then state.lastDrawAmps.getD 0 else 0

/-- What the other tools on a circuit draw. -/
def drawOfOthers (g : PowerGrid Uuid) (toolId cid : Uuid) : Rat :=
  ((g.toolStates.filter fun state => state.toolId ≠ toolId).map (g.drawPart cid)).sum

omit [LinearOrder Uuid] in
theorem Keyed.mapStates (keyed : g.Keyed) {change : ToolPowerState Uuid → ToolPowerState Uuid}
    (sameTool : ∀ state, (change state).toolId = state.toolId) :
    Keyed { g with toolStates := g.toolStates.map change } := by
  refine ⟨keyed.circuits, keyed.outlets, keyed.receptacles, keyed.tools, ?_⟩
  rw [List.map_map]
  exact (congrArg List.Nodup (List.map_congr_left fun state _ => sameTool state)).mpr keyed.toolStates

theorem Keyed.addState (keyed : g.Keyed) {toolId : Uuid} {fresh : ToolPowerState Uuid} (isNew : fresh.toolId = toolId)
    (absent : ¬(g.toolStates.any fun state => decide (state.toolId = toolId)) = true) :
    Keyed { g with toolStates := g.toolStates ++ [fresh] } := by
  refine ⟨keyed.circuits, keyed.outlets, keyed.receptacles, keyed.tools, ?_⟩
  rw [List.map_append, List.map_singleton, ← List.concat_eq_append, List.nodup_concat]
  refine ⟨fun listed => absent ?_, keyed.toolStates⟩
  obtain ⟨state, member, same⟩ := List.mem_map.mp listed
  exact List.any_eq_true.mpr ⟨state, member, decide_eq_true (same.trans isNew)⟩

theorem upsertToolPowerState_keyed (keyed : g.Keyed) (toolId : Uuid) (draw : Option Rat) :
    (g.upsertToolPowerState toolId draw).Keyed := by
  unfold upsertToolPowerState
  split
  · exact keyed.mapStates fun state => by split <;> rfl
  next absent => exact keyed.addState rfl absent

theorem circuitOf_upsert (toolId : Uuid) (draw : Option Rat) (other : Uuid) :
    (g.upsertToolPowerState toolId draw).circuitOf other = g.circuitOf other := by
  unfold upsertToolPowerState
  split
  · rfl
  · rfl

theorem circuits_upsert (toolId : Uuid) (draw : Option Rat) :
    (g.upsertToolPowerState toolId draw).circuits = g.circuits := by
  unfold upsertToolPowerState
  split
  · rfl
  · rfl

/-- A total is the one tool's part and the others'. -/
theorem sum_drawPart_stored (toolId : Uuid) (draw : Option Rat) (cid : Uuid) {rows : List (ToolPowerState Uuid)}
    (distinct : (rows.map (·.toolId)).Nodup) (held : ∃ state ∈ rows, state.toolId = toolId) :
    ((rows.map fun state => if state.toolId = toolId then { state with lastDrawAmps := draw } else state).map
      (g.drawPart cid)).sum = ((rows.filter fun state => state.toolId ≠ toolId).map (g.drawPart cid)).sum +
        if g.circuitOf toolId = some cid then draw.getD 0 else 0 := by
  induction rows with
  | nil =>
    obtain ⟨state, member, -⟩ := held
    cases member
  | cons first rest ih =>
    obtain ⟨fresh, distinct⟩ := List.nodup_cons.mp distinct
    rw [List.map_cons, List.map_cons, List.sum_cons]
    by_cases same : first.toolId = toolId
    · -- no later row is the tool's
      have others : ∀ state ∈ rest, state.toolId ≠ toolId := by
        intro state member clash
        have here : state.toolId ∈ rest.map (·.toolId) := List.mem_map_of_mem member
        rw [clash, ← same] at here
        exact fresh here
      have kept : (rest.map fun state => if state.toolId = toolId then { state with lastDrawAmps := draw }
          else state) = rest := by
        refine (List.map_congr_left fun state member => ?_).trans (List.map_id rest)
        exact if_neg (others state member)
      have filtered : (first :: rest).filter (fun state => state.toolId ≠ toolId) = rest := by
        rw [List.filter_cons_of_neg (by simp [same])]
        exact List.filter_eq_self.mpr fun state member => decide_eq_true (others state member)
      rw [kept, filtered, if_pos same, add_comm]
      simp only [drawPart, same]
    · have later : ∃ state ∈ rest, state.toolId = toolId := by
        obtain ⟨state, member, isTool⟩ := held
        rcases List.mem_cons.mp member with rfl | inRest
        · exact absurd isTool same
        · exact ⟨state, inRest, isTool⟩
      have filtered : (first :: rest).filter (fun state => state.toolId ≠ toolId) =
          first :: rest.filter (fun state => state.toolId ≠ toolId) := List.filter_cons_of_pos (decide_eq_true same)
      rw [ih distinct later, if_neg same, filtered, List.map_cons, List.sum_cons, add_assoc]

theorem totalDraw_upsert (keyed : g.Keyed) (toolId : Uuid) (draw : Option Rat) (cid : Uuid) :
    (g.upsertToolPowerState toolId draw).totalDraw cid =
      g.drawOfOthers toolId cid + if g.circuitOf toolId = some cid then draw.getD 0 else 0 := by
  have total : (g.upsertToolPowerState toolId draw).totalDraw cid =
      ((g.upsertToolPowerState toolId draw).toolStates.map (g.drawPart cid)).sum := by
    refine congrArg List.sum (List.map_congr_left fun state _ => ?_)
    rw [circuitOf_upsert]
    rfl
  rw [total, upsertToolPowerState]
  split
  next held =>
    obtain ⟨state, member, same⟩ := List.any_eq_true.mp held
    exact sum_drawPart_stored toolId draw cid keyed.toolStates ⟨state, member, of_decide_eq_true same⟩
  next absent =>
    have others : g.toolStates.filter (fun state => state.toolId ≠ toolId) = g.toolStates := by
      refine List.filter_eq_self.mpr fun state member => decide_eq_true fun same => absent ?_
      exact List.any_eq_true.mpr ⟨state, member, decide_eq_true same⟩
    rw [drawOfOthers, others, List.map_append, List.sum_append, List.map_singleton, List.sum_singleton]
    rfl

/-- A tool's own lockout moves no total. -/
theorem totalDraw_engageToolLockout (toolId : Uuid) (reason : String) (now : Int) (cid : Uuid) :
    (g.engageToolLockout toolId reason now).totalDraw cid = g.totalDraw cid := by
  have circuits : ∀ other, (g.engageToolLockout toolId reason now).circuitOf other = g.circuitOf other := by
    intro other
    unfold engageToolLockout
    split
    · rfl
    · rfl
  simp only [totalDraw, circuits]
  unfold engageToolLockout
  split
  · rw [List.map_map]
    refine congrArg List.sum (List.map_congr_left fun state _ => ?_)
    rw [Function.comp_apply]
    split
    · rfl
    · rfl
  · rw [List.map_append, List.sum_append, List.map_singleton, List.sum_singleton, Option.getD_none, ite_self,
      add_zero]

theorem engageToolLockout_keyed (keyed : g.Keyed) (toolId : Uuid) (reason : String) (now : Int) :
    (g.engageToolLockout toolId reason now).Keyed := by
  unfold engageToolLockout
  split
  · exact keyed.mapStates fun state => by split <;> rfl
  next absent => exact keyed.addState rfl absent

theorem LocksOnly.keyed {cids : List Uuid} {g' : PowerGrid Uuid} (locks : g.LocksOnly cids g')
    (keyed : g.Keyed) : g'.Keyed := by
  obtain ⟨relock, rfl, sameRow⟩ := locks
  refine ⟨?_, keyed.outlets, keyed.receptacles, keyed.tools, keyed.toolStates⟩
  rw [List.map_map]
  exact (congrArg List.Nodup (List.map_congr_left fun c _ => (sameRow c).1)).mpr keyed.circuits

theorem LocksOnly.totalDraw {cids : List Uuid} {g' : PowerGrid Uuid} (locks : g.LocksOnly cids g') (cid : Uuid) :
    g'.totalDraw cid = g.totalDraw cid := by
  obtain ⟨relock, rfl, -⟩ := locks
  rfl

theorem circuitIsLocked_iff {cid : Uuid} :
    g.circuitIsLocked cid = true ↔ ∃ c ∈ g.circuits, c.id = cid ∧ c.lockedOut = true := by
  simp only [circuitIsLocked, List.any_eq_true, Bool.and_eq_true, decide_eq_true_eq]

theorem LocksOnly.circuitIsLocked_iff {cids : List Uuid} {g' : PowerGrid Uuid} (locks : g.LocksOnly cids g')
    {cid : Uuid} :
    g'.circuitIsLocked cid = true ↔
      g.circuitIsLocked cid = true ∨ cid ∈ cids ∧ ∃ c ∈ g.circuits, c.id = cid := by
  obtain ⟨relock, rfl, sameRow⟩ := locks
  rw [PowerGrid.circuitIsLocked_iff, PowerGrid.circuitIsLocked_iff]
  constructor
  · rintro ⟨_, member, same, locked⟩
    obtain ⟨c, listed, rfl⟩ := List.mem_map.mp member
    obtain ⟨sameId, -, lock⟩ := sameRow c
    rw [sameId] at same
    rw [lock, Bool.or_eq_true, decide_eq_true_eq, same] at locked
    rcases locked with before | chosen
    · exact .inl ⟨c, listed, same, before⟩
    · exact .inr ⟨chosen, c, listed, same⟩
  · rintro (⟨c, listed, same, before⟩ | ⟨chosen, c, listed, same⟩)
    · obtain ⟨sameId, -, lock⟩ := sameRow c
      exact ⟨relock c, List.mem_map_of_mem listed, sameId.trans same, by rw [lock, before, Bool.true_or]⟩
    · obtain ⟨sameId, -, lock⟩ := sameRow c
      exact ⟨relock c, List.mem_map_of_mem listed, sameId.trans same,
        by rw [lock, same, decide_eq_true chosen, Bool.or_true]⟩

/-- What a report that was taken must leave: no circuit over its limit but a locked one, each lockout
reported, totals that no order of the rows moves, and no lockout of a circuit within its limit. -/
structure LeavesNoOverload (g after : PowerGrid Uuid) (tripped : List (Uuid × Rat × DecimalColumn)) : Prop where
  locked : ∀ c ∈ after.circuits, c.amperageLimit.number < after.totalDraw c.id → c.lockedOut = true
  once : (tripped.map (·.1)).Nodup
  reported : ∀ cid, cid ∈ tripped.map (·.1) ↔ g.circuitIsLocked cid = false ∧ after.circuitIsLocked cid = true
  orderFree : ∀ other, after.SameRows other → after.circuitDrawTotals = other.circuitDrawTotals
  spared : ∀ c ∈ after.circuits, after.totalDraw c.id ≤ c.amperageLimit.number →
    after.circuitIsLocked c.id = g.circuitIsLocked c.id

/-- Any report that has the circuits evaluated does. -/
theorem evaluateCircuitOverages_leavesNoOverload (keyed : g.Keyed) (display : Rat → String) (now : Int) :
    g.LeavesNoOverload (g.evaluateCircuitOverages display now).1 (g.evaluateCircuitOverages display now).2 := by
  obtain ⟨locks, tripped⟩ := evaluateCircuitOverages_spec keyed display now
  have listed : ∀ {cid}, cid ∈ g.overages.map (·.1) ↔
      ∃ c ∈ g.circuits, c.id = cid ∧ c.lockedOut = false ∧ c.amperageLimit.number < g.totalDraw c.id := by
    intro cid
    rw [List.mem_map]
    constructor
    · rintro ⟨item, member, rfl⟩
      obtain ⟨c, inTable, unlocked, above, rfl⟩ := (mem_overages keyed).mp member
      exact ⟨c, inTable, rfl, unlocked, above⟩
    · rintro ⟨c, inTable, rfl, unlocked, above⟩
      exact ⟨_, (mem_overages keyed).mpr ⟨c, inTable, unlocked, above, rfl⟩, rfl⟩
  have isOpen : ∀ {c}, c ∈ g.circuits → c.lockedOut = false → g.circuitIsLocked c.id = false := by
    intro c inTable unlocked
    rw [← Bool.not_eq_true, circuitIsLocked_iff]
    rintro ⟨other, inTable', same, locked⟩
    obtain rfl := List.inj_on_of_nodup_map keyed.circuits inTable' inTable same
    cases unlocked.symm.trans locked
  refine ⟨fun c inTable above => ?_, ?_, fun cid => ?_, fun other same => ?_, fun c inTable within => ?_⟩
  · rw [locks.totalDraw] at above
    obtain ⟨relock, after, sameRow⟩ := locks
    rw [after] at inTable
    obtain ⟨before, inBefore, rfl⟩ := List.mem_map.mp inTable
    obtain ⟨sameId, sameLimit, lock⟩ := sameRow before
    rw [sameId, sameLimit] at above
    rcases unlocked : before.lockedOut with _ | _
    · rw [lock, decide_eq_true (listed.mpr ⟨before, inBefore, rfl, unlocked, above⟩), Bool.or_true]
    · rw [lock, unlocked, Bool.true_or]
  · rw [tripped]
    exact nodup_overages keyed
  · rw [tripped, locks.circuitIsLocked_iff]
    constructor
    · intro member
      obtain ⟨c, inTable, rfl, unlocked, above⟩ := listed.mp member
      exact ⟨isOpen inTable unlocked, .inr ⟨member, c, inTable, rfl⟩⟩
    · rintro ⟨unlocked, locked | ⟨member, -⟩⟩
      · cases unlocked.symm.trans locked
      · exact member
  · exact circuitDrawTotals_congr (locks.keyed keyed) same
  · have spared : c.id ∉ g.overages.map (·.1) := by
      intro member
      obtain ⟨before, inBefore, same, -, above⟩ := listed.mp member
      rw [locks.totalDraw] at within
      obtain ⟨relock, after, sameRow⟩ := locks
      rw [after] at inTable
      obtain ⟨other, inOther, rfl⟩ := List.mem_map.mp inTable
      obtain ⟨sameId, sameLimit, -⟩ := sameRow other
      obtain rfl := List.inj_on_of_nodup_map keyed.circuits inBefore inOther (same.trans sameId)
      rw [sameId, sameLimit] at within
      exact absurd above (not_lt.mpr within)
    rw [Bool.eq_iff_iff, locks.circuitIsLocked_iff]
    exact or_iff_left fun chosen => spared chosen.1

/-- With its draw stored, a report that only locks its own tool leaves no open circuit over its limit. -/
def SelfTripHarmless (g : PowerGrid Uuid) (req : PowerReportRequest Uuid) : Prop :=
  req.selfTripped = some true → (g.tools.any fun tool => decide (tool.id = req.toolId)) = true →
    ∀ c ∈ g.circuits, c.lockedOut = false →
      g.drawOfOthers req.toolId c.id + (if g.circuitOf req.toolId = some c.id then req.drawNow.getD 0 else 0) ≤
        c.amperageLimit.number

theorem powerReport_keyed (keyed : g.Keyed) (display : Rat → String) (now : Int) (req : PowerReportRequest Uuid) :
    (g.powerReport display now req).1.Keyed := by
  have recorded := upsertToolPowerState_keyed keyed req.toolId req.drawNow
  unfold powerReport
  split
  · exact keyed
  · split
    · exact engageToolLockout_keyed recorded ..
    · exact (evaluateCircuitOverages_spec recorded display now).1.keyed recorded

theorem circuits_engageToolLockout (toolId : Uuid) (reason : String) (now : Int) :
    (g.engageToolLockout toolId reason now).circuits = g.circuits := by
  unfold engageToolLockout
  split
  · rfl
  · rfl

theorem circuitIsLocked_upsert (toolId : Uuid) (draw : Option Rat) (cid : Uuid) :
    (g.upsertToolPowerState toolId draw).circuitIsLocked cid = g.circuitIsLocked cid := by
  rw [circuitIsLocked, circuits_upsert, circuitIsLocked]

theorem circuitIsLocked_engageToolLockout (toolId : Uuid) (reason : String) (now : Int) (cid : Uuid) :
    (g.engageToolLockout toolId reason now).circuitIsLocked cid = g.circuitIsLocked cid := by
  rw [circuitIsLocked, circuits_engageToolLockout, circuitIsLocked]

/-- A report leaves no overload exactly when it is not a self-trip that leaves one. -/
theorem powerReport_leavesNoOverload_iff (keyed : g.Keyed) (display : Rat → String) (now : Int)
    (req : PowerReportRequest Uuid) :
    (∀ tripped, (g.powerReport display now req).2 = some tripped →
      g.LeavesNoOverload (g.powerReport display now req).1 tripped) ↔ g.SelfTripHarmless req := by
  have recorded := upsertToolPowerState_keyed keyed req.toolId req.drawNow
  have circuits : (g.upsertToolPowerState req.toolId req.drawNow).circuits = g.circuits := circuits_upsert ..
  rcases known : g.tools.any fun tool => decide (tool.id = req.toolId) with _ | _
  · constructor
    · intro _ _ isTool
      cases known.symm.trans isTool
    · intro _ tripped answer
      rw [powerReport, if_pos known] at answer
      cases answer
  have refused : ¬(g.tools.any fun tool => decide (tool.id = req.toolId)) = false := by
    rw [known]
    exact Bool.noConfusion
  rw [powerReport, if_neg refused]
  dsimp only
  by_cases selfTripped : req.selfTripped = some true
  · rw [if_pos selfTripped]
    let reason := "firmware self-trip: device exceeded its own over-current limit"
    have same : ((g.upsertToolPowerState req.toolId req.drawNow).engageToolLockout req.toolId reason now).circuits =
        g.circuits := (circuits_engageToolLockout ..).trans circuits
    have total : ∀ cid, ((g.upsertToolPowerState req.toolId req.drawNow).engageToolLockout req.toolId reason
      now).totalDraw cid =
        g.drawOfOthers req.toolId cid + (if g.circuitOf req.toolId = some cid then req.drawNow.getD 0 else 0) :=
      fun cid => (totalDraw_engageToolLockout ..).trans (totalDraw_upsert keyed ..)
    have sameLocks : ∀ cid,
        ((g.upsertToolPowerState req.toolId req.drawNow).engageToolLockout req.toolId reason now).circuitIsLocked
          cid =
          g.circuitIsLocked cid :=
      fun cid => (circuitIsLocked_engageToolLockout ..).trans (circuitIsLocked_upsert ..)
    constructor
    · intro leaves _ _ c listed unlocked
      by_contra above
      have locked := (leaves [] rfl).locked c (same ▸ listed) (by rw [total]; exact not_le.mp above)
      cases unlocked.symm.trans locked
    · intro harmless tripped answer
      obtain rfl := Option.some.inj answer
      refine ⟨fun c listed above => ?_, List.nodup_nil, fun cid => ?_, fun other rows => ?_,
        fun c _ _ => sameLocks c.id⟩
      · rw [same] at listed
        rw [total] at above
        rcases unlocked : c.lockedOut with _ | _
        · exact absurd above (not_lt.mpr (harmless selfTripped known c listed unlocked))
        · rfl
      · rw [sameLocks]
        refine ⟨fun none_ => absurd none_ List.not_mem_nil, fun both => ?_⟩
        cases both.1.symm.trans both.2
      · exact circuitDrawTotals_congr (engageToolLockout_keyed recorded ..) rows
  · rw [if_neg selfTripped]
    refine ⟨fun _ yes => absurd yes selfTripped, fun _ tripped answer => ?_⟩
    obtain rfl := Option.some.inj answer
    obtain ⟨locked, once, reported, orderFree, spared⟩ :=
      evaluateCircuitOverages_leavesNoOverload recorded display now
    simp only [circuitIsLocked_upsert] at reported spared
    exact ⟨locked, once, reported, orderFree, spared⟩

/-- The server's power tables under the reports it is sent, each with the time it came. -/
def powerReports (display : Rat → String) (g : PowerGrid Uuid) :
    Machine (PowerGrid Uuid) (Int × PowerReportRequest Uuid) (Option (List (Uuid × Rat × DecimalColumn))) where
  start := g
  step := fun g report => g.powerReport display report.1 report.2

/-- The circuits reported as tripped, report by report. -/
def trippedBy (display : Rat → String) (g : PowerGrid Uuid) (report : Int × PowerReportRequest Uuid) : List Uuid :=
  ((g.powerReport display report.1 report.2).2.getD []).map (·.1)

/-- Of the circuits, a report locks those it reports, which were open. -/
theorem powerReport_trips (keyed : g.Keyed) (display : Rat → String) (report : Int × PowerReportRequest Uuid) :
    (trippedBy display g report).Nodup ∧ ∀ cid,
      (cid ∈ trippedBy display g report → g.circuitIsLocked cid = false) ∧
      ((g.powerReport display report.1 report.2).1.circuitIsLocked cid = true ↔
        g.circuitIsLocked cid = true ∨ cid ∈ trippedBy display g report) := by
  obtain ⟨now, req⟩ := report
  have recorded := upsertToolPowerState_keyed keyed req.toolId req.drawNow
  unfold trippedBy powerReport
  split
  · exact ⟨List.nodup_nil, fun cid =>
      ⟨fun member => absurd member List.not_mem_nil, (or_iff_left List.not_mem_nil).symm⟩⟩
  · split
    · refine ⟨List.nodup_nil, fun cid => ⟨fun member => absurd member List.not_mem_nil, ?_⟩⟩
      rw [circuitIsLocked_engageToolLockout, circuitIsLocked_upsert]
      exact (or_iff_left List.not_mem_nil).symm
    · obtain ⟨-, once, reported, -, -⟩ := evaluateCircuitOverages_leavesNoOverload recorded display now
      obtain ⟨locks, -⟩ := evaluateCircuitOverages_spec recorded display now
      refine ⟨once, fun cid => ⟨fun member => ?_, fun locked => ?_, ?_⟩⟩
      · rw [← circuitIsLocked_upsert]
        exact ((reported cid).mp member).1
      · rcases before : g.circuitIsLocked cid with _ | _
        · exact .inr ((reported cid).mpr ⟨(circuitIsLocked_upsert ..).trans before, locked⟩)
        · exact .inl rfl
      · rintro (before | member)
        · exact locks.circuitIsLocked_iff.mpr (.inl ((circuitIsLocked_upsert ..).trans before))
        · exact ((reported cid).mp member).2

/-- Each circuit that became locked in a run was reported in it, and once. -/
def LockoutsReportedOnce (display : Rat → String) (g : PowerGrid Uuid)
    (reports : List (Int × PowerReportRequest Uuid)) : Prop :=
  ((powerReports display g).history (trippedBy display) reports).Nodup ∧
    ∀ cid, cid ∈ (powerReports display g).history (trippedBy display) reports ↔
      g.circuitIsLocked cid = false ∧ ((powerReports display g).run reports).circuitIsLocked cid = true

theorem run_keyed (keyed : g.Keyed) (display : Rat → String) (reports : List (Int × PowerReportRequest Uuid)) :
    ((powerReports display g).run reports).Keyed :=
  (powerReports display g).run_invariant (fun _ grid => grid.Keyed) keyed
    (fun _ report kept => powerReport_keyed kept display report.1 report.2) reports

theorem run_trips (keyed : g.Keyed) (display : Rat → String) (reports : List (Int × PowerReportRequest Uuid)) :
    ((powerReports display g).history (trippedBy display) reports).Nodup ∧ ∀ cid,
      (cid ∈ (powerReports display g).history (trippedBy display) reports → g.circuitIsLocked cid = false) ∧
      (((powerReports display g).run reports).circuitIsLocked cid = true ↔
        g.circuitIsLocked cid = true ∨ cid ∈ (powerReports display g).history (trippedBy display) reports) := by
  induction reports using List.reverseRecOn with
  | nil =>
    refine ⟨List.nodup_nil, fun cid => ⟨fun member => absurd member List.not_mem_nil, ?_⟩⟩
    exact (or_iff_left List.not_mem_nil).symm
  | append_singleton past report ih =>
    obtain ⟨before, earlier⟩ := ih
    obtain ⟨here, trips⟩ := powerReport_trips (run_keyed keyed display past) display report
    rw [Machine.history_snoc, Machine.run_snoc]
    constructor
    · -- what was tripped before is locked by now, and is not tripped again
      refine List.Nodup.append before here fun cid tripped again => ?_
      have locked := (earlier cid).2.mpr (.inr tripped)
      cases locked.symm.trans ((trips cid).1 again)
    · intro cid
      obtain ⟨first, locked⟩ := earlier cid
      obtain ⟨wasOpen, lockedAfter⟩ := trips cid
      constructor
      · intro member
        rcases List.mem_append.mp member with tripped | again
        · exact first tripped
        · rw [← Bool.not_eq_true]
          intro atStart
          cases (wasOpen again).symm.trans (locked.mpr (.inl atStart))
      · rw [List.mem_append, ← or_assoc, ← locked]
        exact lockedAfter

theorem lockoutsReportedOnce (keyed : g.Keyed) (display : Rat → String)
    (reports : List (Int × PowerReportRequest Uuid)) :
    LockoutsReportedOnce display g reports := by
  obtain ⟨once, trips⟩ := run_trips keyed display reports
  refine ⟨once, fun cid => ⟨fun member => ⟨(trips cid).1 member, (trips cid).2.mpr (.inr member)⟩, ?_⟩⟩
  rintro ⟨wasOpen, locked⟩
  rcases (trips cid).2.mp locked with atStart | member
  · cases wasOpen.symm.trans atStart
  · exact member

/-- In a run of reports no overload is left unlocked, and all else that is asked of the
evaluation holds, exactly when no self-trip in it is one that leaves an overload. -/
theorem no_overload_left_unlocked_iff (display : Rat → String) (g : PowerGrid Uuid) (keyed : g.Keyed)
    (reports : List (Int × PowerReportRequest Uuid)) :
    (EveryStep (fun past report => ∀ tripped,
        (((powerReports display g).run past).powerReport display report.1 report.2).2 = some tripped →
          ((powerReports display g).run past).LeavesNoOverload
            (((powerReports display g).run past).powerReport display report.1 report.2).1 tripped) reports ∧
      LockoutsReportedOnce display g reports) ↔
    EveryStep (fun past report => ((powerReports display g).run past).SelfTripHarmless report.2) reports := by
  rw [and_iff_left (lockoutsReportedOnce keyed display reports)]
  exact EveryStep.congr fun past report =>
    powerReport_leavesNoOverload_iff (run_keyed keyed display past) display report.1 report.2

/-- One saw on a circuit of ten amperes. -/
def sawGrid : PowerGrid Nat where
  circuits := [⟨1, ⟨10, "10"⟩, false, none, none, none, none⟩]
  outlets := [(2, 1)]
  receptacles := [(3, 2)]
  tools := [⟨4, none, some 3⟩]
  toolStates := []

theorem sawGrid_keyed : sawGrid.Keyed := by
  refine ⟨?_, ?_, ?_, ?_, ?_⟩
  all_goals decide

theorem no_overload_left_unlocked_iff_saw :
    (EveryStep (fun past report => ∀ tripped,
        (((powerReports (fun _ => "") sawGrid).run past).powerReport (fun _ => "") report.1 report.2).2 =
          some tripped → ((powerReports (fun _ => "") sawGrid).run past).LeavesNoOverload
            (((powerReports (fun _ => "") sawGrid).run past).powerReport (fun _ => "") report.1 report.2).1 tripped)
        [(0, ⟨4, some 12, none⟩)] ∧
      LockoutsReportedOnce (fun _ => "") sawGrid [(0, ⟨4, some 12, none⟩)]) ↔
    EveryStep (fun past report => ((powerReports (fun _ => "") sawGrid).run past).SelfTripHarmless report.2)
      [(0, ⟨4, some 12, none⟩)] :=
  no_overload_left_unlocked_iff (fun _ => "") sawGrid sawGrid_keyed [(0, ⟨4, some 12, none⟩)]

/-- A self-trip that carries twelve amperes leaves the ten-ampere circuit open. -/
theorem overload_left_unlocked :
    ¬EveryStep (fun past report => ∀ tripped,
        (((powerReports (fun _ => "") sawGrid).run past).powerReport (fun _ => "") report.1 report.2).2 =
          some tripped → ((powerReports (fun _ => "") sawGrid).run past).LeavesNoOverload
            (((powerReports (fun _ => "") sawGrid).run past).powerReport (fun _ => "") report.1 report.2).1 tripped)
        [(0, ⟨4, some 12, some true⟩)] := by
  intro every
  have accepted : (sawGrid.powerReport (fun _ => "") 0 ⟨4, some 12, some true⟩).2 = some [] := by decide +kernel
  have leaves := every [] _ [] rfl [] accepted
  have above : (10 : Rat) < (sawGrid.powerReport (fun _ => "") 0 ⟨4, some 12, some true⟩).1.totalDraw 1 := by
    decide +kernel
  have locked := leaves.locked ⟨1, ⟨10, "10"⟩, false, none, none, none, none⟩ (List.mem_singleton.mpr rfl) above
  cases locked

end PowerGrid

end CoopSpaces

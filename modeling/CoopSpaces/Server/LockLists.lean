import CoopSpaces.Server.WorkshopService

namespace CoopSpaces

/-- The circuit that a snapshot gives for a tool. -/
def PowerStatePayload.circuitOf (payload : PowerStatePayload) (toolId : String) : Option String :=
  (payload.tools.find? fun tool => tool.id == toolId).bind (·.circuitId)

namespace PowerGrid
variable {Uuid : Type} [LinearOrder Uuid] {g : PowerGrid Uuid}

/-- The totals have a row for each circuit of the table, and for each that a draw was added to. -/
theorem mem_circuitDrawTotals_ids (keyed : g.Keyed) (cid : Uuid) :
    cid ∈ g.circuitDrawTotals.map (·.1) ↔ (∃ c ∈ g.circuits, c.id = cid) ∨
      ∃ s ∈ g.toolStates, s.lastDrawAmps.isSome = true ∧ g.circuitOf s.toolId = some cid := by
  have drawn : cid ∈ g.draws.map (·.1) ↔
      ∃ s ∈ g.toolStates, s.lastDrawAmps.isSome = true ∧ g.circuitOf s.toolId = some cid := by
    simp only [draws, List.mem_map, List.mem_filterMap, resolveCircuit_eq keyed]
    constructor
    · rintro ⟨row, ⟨draw, ⟨s, listed, has⟩, leads⟩, rfl⟩
      obtain ⟨amps, known, rfl⟩ := Option.map_eq_some_iff.mp has
      obtain ⟨cid, found, rfl⟩ := Option.map_eq_some_iff.mp leads
      exact ⟨s, listed, by rw [known]; rfl, found⟩
    · rintro ⟨s, listed, has, found⟩
      obtain ⟨amps, known⟩ := Option.isSome_iff_exists.mp has
      exact ⟨(cid, amps), ⟨(s.toolId, amps), ⟨s, listed, by rw [known]; rfl⟩, by rw [found]; rfl⟩, rfl⟩
  have listed : cid ∈ g.circuits.map (·.id) ↔ ∃ c ∈ g.circuits, c.id = cid := List.mem_map
  rw [circuitDrawTotals_eq, ← drawn, ← listed]
  have row : cid ∈ (g.draws.foldl AList.addAt ((g.circuits.map (·.id)).foldl (fun totals cid => totals.insert cid 0)
      (∅ : AList fun _ : Uuid => Rat))).sorted.map (·.1) ↔ ∃ total, (g.draws.foldl AList.addAt
        ((g.circuits.map (·.id)).foldl (fun totals cid => totals.insert cid 0) ∅)).lookup cid = some total := by
    rw [List.mem_map]
    constructor
    · rintro ⟨⟨_, total⟩, there, rfl⟩
      exact ⟨total, AList.mem_sorted.mp there⟩
    · rintro ⟨total, found⟩
      exact ⟨(cid, total), AList.mem_sorted.mpr found, rfl⟩
  rw [row, AList.lookup_foldl_addAt, AList.lookup_foldl_insert]
  split
  · rename_i added
    exact iff_of_true ⟨_, rfl⟩ (.inr added)
  · rename_i unadded
    rw [or_iff_left unadded]
    split
    · rename_i there
      exact iff_of_true ⟨_, rfl⟩ there
    · rename_i absent
      refine iff_of_false ?_ absent
      rintro ⟨total, found⟩
      cases found

variable [IdText Uuid]

theorem snapshot_circuitOf (toolId : Uuid) :
    g.powerStateSnapshot.circuitOf (IdText.toText toolId) = (g.circuitOf toolId).map IdText.toText := by
  have found : (g.powerStateSnapshot.tools.find? fun tool => tool.id == IdText.toText toolId) =
      (g.tools.find? fun t => t.id = toolId).map fun t =>
        ⟨IdText.toText t.id, t.externalId, (g.toolCircuit t.receptacleId).map IdText.toText⟩ := by
    rw [powerStateSnapshot, snapshotFrom, List.find?_map]
    congr 2
    funext t
    rw [Function.comp_apply, Bool.eq_iff_iff, beq_iff_eq, IdText.toText_inj, decide_eq_true_iff]
  rw [PowerStatePayload.circuitOf, found, circuitOf]
  cases g.tools.find? fun t => t.id = toolId with
  | none => rfl
  | some t => rfl

/-- The list of locked tools that is pushed to the edges is the one the server's own gate goes by, and the circuit it
gives for a tool is the one that the tool's draw is added to. -/
theorem lock_lists_agree (keyed : g.Keyed) :
    (∀ t ∈ g.tools, IdText.toText t.id ∈ g.powerStateSnapshot.lockedToolIds ↔ g.toolIsLockedOut t.id = true) ∧
      (∀ cid, ((g.circuitDrawTotals.find? fun row => row.1 = cid).map (·.2)).getD 0 =
        (g.toolStates.map fun s =>
          if g.powerStateSnapshot.circuitOf (IdText.toText s.toolId) = some (IdText.toText cid)
          then s.lastDrawAmps.getD 0 else 0).sum) ∧
      ∀ cid, cid ∈ g.circuitDrawTotals.map (·.1) ↔ (∃ c ∈ g.circuits, c.id = cid) ∨
        ∃ s ∈ g.toolStates, s.lastDrawAmps.isSome = true ∧
          g.powerStateSnapshot.circuitOf (IdText.toText s.toolId) = some (IdText.toText cid) := by
  have leads : ∀ toolId cid, g.powerStateSnapshot.circuitOf (IdText.toText toolId) = some (IdText.toText cid) ↔
      g.circuitOf toolId = some cid := by
    intro toolId cid
    rw [snapshot_circuitOf, Option.map_eq_some_iff]
    constructor
    · rintro ⟨other, found, same⟩
      rw [found, IdText.toText_injective same]
    · exact fun found => ⟨cid, found, rfl⟩
  refine ⟨fun t listed => mem_lockedToolIds_iff keyed listed, ?_, ?_⟩
  · intro cid
    rw [totals_at keyed, totalDraw]
    simp only [leads]
  · intro cid
    rw [mem_circuitDrawTotals_ids keyed]
    simp only [leads]

/-- A tool on a locked circuit, one that trips by itself, one without a receptacle, and two whose wiring is told of
only in part. -/
def workshopGrid : PowerGrid Nat where
  circuits := [⟨1, ⟨10, "10"⟩, true, none, none, none, none⟩, ⟨2, ⟨16, "16"⟩, false, none, none, none, none⟩]
  outlets := [(1, 1), (2, 2)]
  receptacles := [(1, 1), (2, 2), (3, 9)]
  tools := [⟨1, none, some 1⟩, ⟨2, some "saw", some 2⟩, ⟨3, none, none⟩, ⟨4, none, some 3⟩, ⟨5, none, some 9⟩]
  toolStates := [⟨1, some 4, false, none, none⟩, ⟨2, some 6, true, none, none⟩, ⟨4, some 2, false, none, none⟩]

theorem workshopGrid_keyed : workshopGrid.Keyed := by
  refine ⟨?_, ?_, ?_, ?_, ?_⟩
  all_goals decide

/-- The saw on the tripped circuit is locked, and the tool whose receptacle is unknown is not. -/
theorem lock_lists_agree_workshop :
    IdText.toText (2 : Nat) ∈ workshopGrid.powerStateSnapshot.lockedToolIds ∧
      IdText.toText (5 : Nat) ∉ workshopGrid.powerStateSnapshot.lockedToolIds := by
  have agree := (lock_lists_agree workshopGrid_keyed).1
  have saw := agree ⟨2, some "saw", some 2⟩ (by decide)
  have unknown := agree ⟨5, none, some 9⟩ (by decide)
  exact ⟨saw.mpr (by decide +kernel), fun listed => absurd (unknown.mp listed) (by decide +kernel)⟩

end PowerGrid

end CoopSpaces

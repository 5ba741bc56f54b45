import CoopSpaces.Edge.Modules

namespace CoopSpaces

/-- A momentary session whose time has come. -/
def Session.RunOut (session : Session) (now : Int) : Prop := ∃ end_, session.endsAt = some end_ ∧ end_ ≤ now

namespace ModuleState

/-- This edge stopped a resource after an answer was asked for, and remembers it. -/
def StoppedSince (s : ModuleState) (key : String) (now asOf : Int) : Prop :=
  ∃ at_, s.localStops key = some at_ ∧ now - at_ < s.localSessionGrace ∧ asOf < at_

def Names (s : ModuleState) (ids : List String) (key : String) : Prop := ∃ id ∈ ids, s.toolKey id = key

variable {s : ModuleState} {key : String} {inUseIds trackedIds : List String}

theorem mem_trackedKeys {ids : List String} : key ∈ s.trackedKeys ids ↔ s.Names ids key := by
  simp only [trackedKeys, List.mem_toFinset, List.mem_map, Names]

theorem mem_syncedKeys {ids : List String} {now asOf : Int} :
    key ∈ s.syncedKeys ids now asOf ↔ s.Names ids key ∧ ¬ s.StoppedSince key now asOf := by
  have stopped : (s.recentStops now key).any (fun at_ => decide (at_ > asOf)) = true ↔
      s.StoppedSince key now asOf := by
    simp only [recentStops, Table.retain_apply, StoppedSince]
    rcases s.localStops key with _ | at_
    · simp
    · by_cases recent : now - at_ < s.localSessionGrace <;> simp [Option.filter, recent]
  rw [syncedKeys, Finset.mem_filter, List.mem_toFinset, List.mem_map, stopped, Names]

theorem keepsSession_iff {tracked synced : Finset String} {now : Int} {session : Session} :
    s.keepsSession tracked synced now key session = true ↔
      ¬ session.RunOut now ∧ (key ∉ tracked ∨ key ∈ synced ∨ now - session.opened < s.localSessionGrace) := by
  have ran : session.endsAt.any (fun end_ => decide (now ≥ end_)) = true ↔ session.RunOut now := by
    simp only [Session.RunOut, Option.any_eq_true, decide_eq_true_eq, ge_iff_le]
  unfold keepsSession
  split
  · rename_i passed
    simp only [Bool.false_eq_true, ran.mp passed, not_true_eq_false, false_and]
  · rename_i live
    simp only [Bool.or_eq_true, decide_eq_true_eq, mt ran.mpr live, not_false_eq_true, true_and, or_assoc]

theorem reconcileTracked_syncedInUse {now asOf : Int} :
    key ∈ (s.reconcileTracked inUseIds trackedIds now asOf).syncedInUse ↔
      (s.Names inUseIds key ∧ ¬ s.StoppedSince key now asOf) ∨ (key ∈ s.syncedInUse ∧ ¬ s.Names trackedIds key) := by
  simp only [reconcileTracked, Finset.mem_union, Finset.mem_filter, mem_syncedKeys, mem_trackedKeys, or_comm]

theorem reconcileTracked_localSessions {now asOf : Int} {session : Session} :
    (s.reconcileTracked inUseIds trackedIds now asOf).localSessions key = some session ↔
      s.localSessions key = some session ∧ ¬ session.RunOut now ∧
        (¬ s.Names trackedIds key ∨ (s.Names inUseIds key ∧ ¬ s.StoppedSince key now asOf) ∨
          now - session.opened < s.localSessionGrace) := by
  simp only [reconcileTracked, Table.retain_eq_some, keepsSession_iff, mem_syncedKeys, mem_trackedKeys]

theorem isSome_of_reconcileTracked {now asOf : Int}
    (there : ((s.reconcileTracked inUseIds trackedIds now asOf).localSessions key).isSome) :
    (s.localSessions key).isSome := by
  obtain ⟨session, found⟩ := Option.isSome_iff_exists.mp there
  exact Option.isSome_of_eq_some (reconcileTracked_localSessions.mp found).1

theorem isSome_of_applyStateAt {payload : ToolModuleStatePayload} {requestedAt : Option Int} {now : Int}
    (there : ((s.applyStateAt payload requestedAt now).localSessions key).isSome) : (s.localSessions key).isSome := by
  have before := isSome_of_reconcileTracked (s := { s with snapshot := some payload }) there
  exact before

theorem inUse_iff {now : Int} :
    s.inUse key now = true ↔
      key ∈ s.syncedInUse ∨ ∃ session, s.localSessions key = some session ∧ ¬ session.RunOut now := by
  have live : ∀ session : Session, session.endsAt.all (fun end_ => decide (now < end_)) = true ↔
      ¬ session.RunOut now := by
    intro session
    simp only [Session.RunOut]
    rcases session.endsAt with _ | end_ <;> simp
  simp only [inUse, Bool.or_eq_true, decide_eq_true_eq, Option.any_eq_true, live]

end ModuleState

end CoopSpaces

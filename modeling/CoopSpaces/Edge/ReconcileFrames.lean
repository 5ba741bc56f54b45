import CoopSpaces.Edge.Reconcile

namespace CoopSpaces

theorem Session.RunOut.mono {session : Session} {now later : Int} (ran : session.RunOut now) (le : now ≤ later) :
    session.RunOut later := by
  obtain ⟨end_, ends, passed⟩ := ran
  exact ⟨end_, ends, passed.trans le⟩

namespace ModuleState
variable {s : ModuleState} {inUseIds trackedIds : List String} {now asOf : Int} {key : String} {session : Session}

theorem reconcileTracked_untracked (now asOf : Int) (untracked : ¬ s.Names trackedIds key)
    (unlisted : ¬ s.Names inUseIds key) :
    (key ∈ (s.reconcileTracked inUseIds trackedIds now asOf).syncedInUse ↔ key ∈ s.syncedInUse) ∧
      ∀ session, (s.reconcileTracked inUseIds trackedIds now asOf).localSessions key = some session ↔
        s.localSessions key = some session ∧ ¬ session.RunOut now := by
  rw [reconcileTracked_syncedInUse]
  constructor
  · constructor
    · rintro (⟨listed, -⟩ | ⟨claimed, -⟩)
      · exact absurd listed unlisted
      · exact claimed
    · exact fun claimed => .inr ⟨claimed, untracked⟩
  · intro session
    rw [reconcileTracked_localSessions]
    exact ⟨fun ⟨found, live, _⟩ => ⟨found, live⟩, fun ⟨found, live⟩ => ⟨found, live, .inl untracked⟩⟩

theorem inUse_reconcileTracked_untracked (untracked : ¬ s.Names trackedIds key) (unlisted : ¬ s.Names inUseIds key)
    {later : Int} (after : now ≤ later) :
    (s.reconcileTracked inUseIds trackedIds now asOf).inUse key later = s.inUse key later := by
  have left_ := reconcileTracked_untracked now asOf untracked unlisted
  rw [Bool.eq_iff_iff, inUse_iff, inUse_iff, left_.1]
  refine or_congr_right (exists_congr fun session => ?_)
  rw [left_.2, and_assoc]
  refine and_congr_right fun _ => ⟨fun both => both.2, fun live => ⟨fun ran => live (ran.mono after), live⟩⟩

theorem reconcileTracked_localStops {at_ : Int} :
    (s.reconcileTracked inUseIds trackedIds now asOf).localStops key = some at_ ↔
    s.localStops key = some at_ ∧ now - at_ < s.localSessionGrace := by
  simp only [reconcileTracked, recentStops, Table.retain_eq_some, decide_eq_true_eq]

theorem reconcileTracked_young (found : s.localSessions key = some session)
    (young : now - session.opened < s.localSessionGrace)
    (live : ¬ session.RunOut now) :
    (s.reconcileTracked inUseIds trackedIds now asOf).localSessions key = some session :=
  reconcileTracked_localSessions.mpr ⟨found, live, .inr (.inr young)⟩

/-- An older one that is tracked and not listed is closed. -/
theorem reconcileTracked_old (tracked : s.Names trackedIds key) (unlisted : ¬ s.Names inUseIds key)
    (old : ∀ session, s.localSessions key = some session → s.localSessionGrace ≤ now - session.opened) :
    (s.reconcileTracked inUseIds trackedIds now asOf).localSessions key = none ∧
      ∀ later, (s.reconcileTracked inUseIds trackedIds now asOf).inUse key later = false := by
  have closed : (s.reconcileTracked inUseIds trackedIds now asOf).localSessions key = none := by
    rw [Option.eq_none_iff_forall_ne_some]
    intro session kept
    obtain ⟨found, -, untracked | ⟨listed, -⟩ | young⟩ := reconcileTracked_localSessions.mp kept
    · exact untracked tracked
    · exact unlisted listed
    · exact absurd (old session found) (Int.not_le.mpr young)
  refine ⟨closed, fun later => Bool.eq_false_iff.mpr fun used => ?_⟩
  rcases inUse_iff.mp used with claimed | ⟨session, kept, -⟩
  · rcases reconcileTracked_syncedInUse.mp claimed with ⟨listed, -⟩ | ⟨-, untracked⟩
    · exact unlisted listed
    · exact untracked tracked
  · rw [closed] at kept
    cases kept

theorem reconcileTracked_listed (listed : s.Names inUseIds key)
    (unstopped : ∀ at_, s.localStops key = some at_ → s.localSessionGrace ≤ now - at_) (later : Int) :
    (s.reconcileTracked inUseIds trackedIds now asOf).inUse key later = true := by
  refine inUse_iff.mpr (.inl (reconcileTracked_syncedInUse.mpr (.inl ⟨listed, ?_⟩)))
  rintro ⟨at_, stopped, recent, -⟩
  exact absurd (unstopped at_ stopped) (Int.not_le.mpr recent)

section Commute
variable {inUseIds' trackedIds' : List String} {now' asOf' : Int}

theorem stoppedSince_reconcileTracked (inUseIds' trackedIds' : List String) (asOf asOf' : Int)
    (ages : ∀ at_, s.localStops key = some at_ →
      (now - at_ < s.localSessionGrace ↔ now' - at_ < s.localSessionGrace)) :
    (s.reconcileTracked inUseIds' trackedIds' now' asOf').StoppedSince key now asOf ↔
      s.StoppedSince key now asOf := by
  refine exists_congr fun at_ => ?_
  rw [reconcileTracked_localStops]
  show (s.localStops key = some at_ ∧ now' - at_ < s.localSessionGrace) ∧ now - at_ < s.localSessionGrace ∧
    asOf < at_ ↔ _
  constructor
  · exact fun ⟨⟨stopped, _⟩, weighed⟩ => ⟨stopped, weighed⟩
  · exact fun ⟨stopped, recent, after⟩ => ⟨⟨stopped, (ages at_ stopped).mp recent⟩, recent, after⟩

/-- Two sources that name no resource in common may be reconciled in either order. -/
theorem reconcileTracked_comm
    (apart : ∀ key, s.Names inUseIds key ∨ s.Names trackedIds key →
      ¬ (s.Names inUseIds' key ∨ s.Names trackedIds' key))
    (ages : ∀ key at_, s.localStops key = some at_ →
      (now - at_ < s.localSessionGrace ↔ now' - at_ < s.localSessionGrace)) :
    (s.reconcileTracked inUseIds trackedIds now asOf).reconcileTracked inUseIds' trackedIds' now' asOf' =
      (s.reconcileTracked inUseIds' trackedIds' now' asOf').reconcileTracked inUseIds trackedIds now asOf := by
  have weighed (key : String) := stoppedSince_reconcileTracked inUseIds' trackedIds' asOf asOf' (ages key)
  have weighed' (key : String) := stoppedSince_reconcileTracked inUseIds trackedIds asOf' asOf
    fun at_ stopped => (ages key at_ stopped).symm
  have names (ids ids' more : List String) (t u : Int) (key : String) :
      (s.reconcileTracked ids more t u).Names ids' key ↔ s.Names ids' key :=
    .rfl
  have stops : ((s.reconcileTracked inUseIds trackedIds now asOf).reconcileTracked inUseIds' trackedIds' now'
    asOf').localStops =
      ((s.reconcileTracked inUseIds' trackedIds' now' asOf').reconcileTracked inUseIds trackedIds now
        asOf).localStops := by
    refine Table.ext fun key => Option.ext fun at_ => ?_
    rw [reconcileTracked_localStops, reconcileTracked_localStops, reconcileTracked_localStops,
      reconcileTracked_localStops]
    exact and_right_comm
  have claims : ((s.reconcileTracked inUseIds trackedIds now asOf).reconcileTracked inUseIds' trackedIds' now'
    asOf').syncedInUse =
      ((s.reconcileTracked inUseIds' trackedIds' now' asOf').reconcileTracked inUseIds trackedIds now
        asOf).syncedInUse := by
    ext key
    rw [reconcileTracked_syncedInUse, reconcileTracked_syncedInUse, reconcileTracked_syncedInUse,
      reconcileTracked_syncedInUse]
    simp only [names, weighed, weighed']
    have apart := apart key
    tauto
  have sessions : ((s.reconcileTracked inUseIds trackedIds now asOf).reconcileTracked inUseIds' trackedIds'
    now' asOf').localSessions =
      ((s.reconcileTracked inUseIds' trackedIds' now' asOf').reconcileTracked inUseIds trackedIds now
        asOf).localSessions := by
    refine Table.ext fun key => Option.ext fun session => ?_
    rw [reconcileTracked_localSessions, reconcileTracked_localSessions, reconcileTracked_localSessions,
      reconcileTracked_localSessions]
    simp only [names, weighed, weighed', and_assoc]
    show _ ∧ _ ∧ (_ ∨ _ ∨ now - session.opened < s.localSessionGrace) ∧ _ ∧
      (_ ∨ _ ∨ now' - session.opened < s.localSessionGrace) ↔
      _ ∧ _ ∧ (_ ∨ _ ∨ now' - session.opened < s.localSessionGrace) ∧ _ ∧
        (_ ∨ _ ∨ now - session.opened < s.localSessionGrace)
    tauto
  unfold reconcileTracked at stops claims sessions ⊢
  dsimp only at stops claims sessions ⊢
  rw [stops, claims, sessions]

end Commute

/-- What a reconcile of one source leaves alone, what it closes, and what it brings into use. -/
structure Reconciles (s after : ModuleState) (inUseIds trackedIds : List String) (now : Int) : Prop where
  others : ∀ key, ¬ s.Names trackedIds key → ¬ s.Names inUseIds key →
    (key ∈ after.syncedInUse ↔ key ∈ s.syncedInUse) ∧
      (∀ session, after.localSessions key = some session ↔ s.localSessions key = some session ∧
      ¬ session.RunOut now) ∧
      ∀ later, now ≤ later → after.inUse key later = s.inUse key later
  rest : { after with localStops := s.localStops, localSessions := s.localSessions, syncedInUse := s.syncedInUse } = s
  young : ∀ key session, s.localSessions key = some session → now - session.opened < s.localSessionGrace →
    ¬ session.RunOut now → after.localSessions key = some session
  old : ∀ key, s.Names trackedIds key → ¬ s.Names inUseIds key →
    (∀ session, s.localSessions key = some session → s.localSessionGrace ≤ now - session.opened) →
      after.localSessions key = none ∧ ∀ later, after.inUse key later = false
  listed : ∀ key, s.Names inUseIds key → (∀ at_, s.localStops key = some at_ → s.localSessionGrace ≤ now - at_) →
    ∀ later, after.inUse key later = true

/-- The frames of a reconcile; and two of different sources, on different resources, commute, if no stop grows
older than the grace between them. -/
theorem reconcile_frames (s : ModuleState) (inUseIds trackedIds : List String) (now asOf : Int) :
    s.Reconciles (s.reconcileTracked inUseIds trackedIds now asOf) inUseIds trackedIds now ∧
      ∀ inUseIds' trackedIds' now' asOf',
        (∀ key, s.Names inUseIds key ∨ s.Names trackedIds key → ¬ (s.Names inUseIds' key ∨ s.Names trackedIds' key)) →
        (∀ key at_, s.localStops key = some at_ →
          (now - at_ < s.localSessionGrace ↔ now' - at_ < s.localSessionGrace)) →
          (s.reconcileTracked inUseIds trackedIds now asOf).reconcileTracked inUseIds' trackedIds' now' asOf' =
            (s.reconcileTracked inUseIds' trackedIds' now' asOf').reconcileTracked inUseIds trackedIds now asOf := by
  refine ⟨?_, fun _ _ _ _ => reconcileTracked_comm⟩
  exact {
    others := by
      intro key untracked unlisted
      obtain ⟨claims, sessions⟩ := reconcileTracked_untracked now asOf untracked unlisted
      exact ⟨claims, sessions, fun later after => inUse_reconcileTracked_untracked untracked unlisted after⟩
    rest := rfl
    young := fun _ _ => reconcileTracked_young
    old := fun _ => reconcileTracked_old
    listed := fun _ => reconcileTracked_listed }

section Strike

/-- A door opened for a second. -/
def struck : ModuleState := new.openSession "front" 0 (some (seconds 1))

/-- A sync that names no door takes a door's session away, two seconds after it began, once its strike is over. -/
theorem strike_retired_by_sync :
    ¬ struck.Names [] "front" ∧ struck.localSessions "front" = some ⟨0, some (seconds 1)⟩ ∧
      seconds 2 - 0 < struck.localSessionGrace ∧
        (struck.reconcileTracked [] [] (seconds 2) (seconds 2)).localSessions "front" = none := by
  have unnamed : ¬ struck.Names [] "front" := fun ⟨_, listed, _⟩ => nomatch listed
  exact ⟨unnamed, by decide +kernel, by decide, by decide +kernel⟩

end Strike

end ModuleState
end CoopSpaces

import CoopSpaces.Edge.Reconcile
import CoopSpaces.Server.Revocation

namespace CoopSpaces

section Payload
variable {Uuid Json Amps : Type} [DecidableEq Uuid] [IdText Uuid] (db : Database Uuid Json) (site : SiteTime Json)
  (now : Int) (device : Uuid) (field : String) (gate : Option (MeteredGate Uuid)) (cipher : Option CardCipher)

/-- The payload lists a tool, of such a status, that this edge knows by the key. -/
def Database.Reports (of : ToolStatus → Prop) (edge : ModuleState) (key : String) : Prop :=
  ∃ tool, db.Listed site now device field gate cipher tool ∧ of tool.status ∧
    edge.toolKey (IdText.toText tool.id) = key

variable {db site now device field gate cipher}

theorem Database.names_tracked_iff {edge : ModuleState} {key : String} :
    edge.Names ((db.buildSyncPayload site now device field gate cipher).tools.map fun t => IdText.toText t.id) key ↔
      db.Reports site now device field gate cipher (fun _ => True) edge key := by
  simp only [ModuleState.Names, List.mem_map, exists_exists_and_eq_and, mem_buildSyncPayload_tools, Reports, true_and]
  constructor
  · rintro ⟨_, ⟨tool, listed, rfl⟩, same⟩
    exact ⟨tool, listed, same⟩
  · rintro ⟨tool, listed, same⟩
    exact ⟨_, ⟨tool, listed, rfl⟩, same⟩

theorem Database.names_inUse_iff {edge : ModuleState} {key : String} :
    edge.Names (((db.buildSyncPayload site now device field gate cipher).tools.filter fun t => t.status = .inUse).map
        fun t => IdText.toText t.id) key ↔
      db.Reports site now device field gate cipher (· = .inUse) edge key := by
  simp only [ModuleState.Names, List.mem_map, List.mem_filter, decide_eq_true_eq, exists_exists_and_eq_and,
    mem_buildSyncPayload_tools, Reports]
  constructor
  · rintro ⟨_, ⟨⟨tool, listed, rfl⟩, inUse⟩, same⟩
    exact ⟨tool, listed, inUse, same⟩
  · rintro ⟨tool, listed, inUse, same⟩
    exact ⟨_, ⟨⟨tool, listed, rfl⟩, inUse⟩, same⟩

theorem Database.reconciled_synced_iff {c : ResourceCache Uuid Amps} {at_ : Int} {requestedAt : Option Int}
    {key : String} :
    key ∈ (c.reconcile (db.buildSyncPayload site now device field gate cipher) at_ requestedAt).wiring.syncedInUse ↔
      (db.Reports site now device field gate cipher (· = .inUse) c.wiring key ∧
          ¬ c.wiring.StoppedSince key at_ (requestedAt.getD at_)) ∨
        (key ∈ c.wiring.syncedInUse ∧
          ¬ db.Reports site now device field gate cipher (fun _ => True) c.wiring key) := by
  refine ModuleState.reconcileTracked_syncedInUse.trans ?_
  rw [Database.names_inUse_iff, Database.names_tracked_iff]

theorem Database.reconciled_sessions_iff {c : ResourceCache Uuid Amps} {at_ : Int} {requestedAt : Option Int}
    {key : String} {session : Session} :
    (c.reconcile (db.buildSyncPayload site now device field gate cipher) at_ requestedAt).wiring.localSessions key =
        some session ↔
      c.wiring.localSessions key = some session ∧ ¬ session.RunOut at_ ∧
        (¬ db.Reports site now device field gate cipher (fun _ => True) c.wiring key ∨
          (db.Reports site now device field gate cipher (· = .inUse) c.wiring key ∧
            ¬ c.wiring.StoppedSince key at_ (requestedAt.getD at_)) ∨
          at_ - session.opened < c.wiring.localSessionGrace) := by
  refine ModuleState.reconcileTracked_localSessions.trans ?_
  rw [Database.names_inUse_iff, Database.names_tracked_iff]

variable (db site now device field gate cipher)

/-- A stop at the server ends what the edge holds of a tool exactly while the
payload still lists the tool; a session at the server is in use at the edge
while the payload lists it, or nothing there ended what it had. -/
theorem server_stop_reaches_lease_iff (c : ResourceCache Uuid Amps) (at_ : Int) (requestedAt : Option Int) :
    ∀ tool ∈ db.boundTools device,
      let edge := c.wiring
      let key := edge.toolKey (IdText.toText tool.id)
      let after := (c.reconcile (db.buildSyncPayload site now device field gate cipher) at_ requestedAt).wiring
      let reported := db.Reports site now device field gate cipher (fun _ => True) edge key
      let claimed := db.Reports site now device field gate cipher (· = .inUse) edge key ∧
        ¬ edge.StoppedSince key at_ (requestedAt.getD at_)
      (tool.status ≠ .inUse →
        (∀ session, edge.localSessions key = some session → edge.localSessionGrace ≤ at_ - session.opened →
          (after.localSessions key = none ↔ session.RunOut at_ ∨ (reported ∧ ¬ claimed))) ∧
        (key ∉ after.syncedInUse ↔ ¬ claimed ∧ (key ∈ edge.syncedInUse → reported))) ∧
      (tool.status = .inUse → (∀ stop, edge.localStops key = some stop → edge.localSessionGrace ≤ at_ - stop) →
        (after.inUse key at_ = true ↔
          db.Reports site now device field gate cipher (· = .inUse) edge key ∨
            (¬ reported ∧ key ∈ edge.syncedInUse) ∨
            ∃ session, edge.localSessions key = some session ∧ ¬ session.RunOut at_ ∧
              (¬ reported ∨ at_ - session.opened < edge.localSessionGrace))) := by
  intro tool _ edge key after reported claimed
  have synced : key ∈ after.syncedInUse ↔ claimed ∨ (key ∈ edge.syncedInUse ∧ ¬ reported) :=
    Database.reconciled_synced_iff
  have sessions : ∀ session, after.localSessions key = some session ↔ edge.localSessions key = some session ∧
      ¬ session.RunOut at_ ∧ (¬ reported ∨ claimed ∨ at_ - session.opened < edge.localSessionGrace) :=
    fun _ => Database.reconciled_sessions_iff
  refine ⟨fun _ => ⟨?_, ?_⟩, ?_⟩
  · intro session held old
    have young : ¬ at_ - session.opened < edge.localSessionGrace := by omega
    have gone : after.localSessions key = none ↔ ¬ after.localSessions key = some session := by
      rcases found : after.localSessions key with _ | other
      · simp
      · have same := Option.some.inj (((sessions other).mp found).1.symm.trans held)
        simp [same]
    rw [gone, sessions session]
    simp only [held, young, or_false, true_and]
    rw [not_and_or, not_not, not_or, not_not]
  · rw [synced, not_or]
    exact and_congr_right' not_and_not_right
  · intro _ unstopped
    have heard : ¬ edge.StoppedSince key at_ (requestedAt.getD at_) := by
      rintro ⟨stop, held, recent, -⟩
      have old := unstopped stop held
      omega
    have claims : claimed ↔ db.Reports site now device field gate cipher (· = .inUse) edge key :=
      and_iff_left heard
    rw [ModuleState.inUse_iff, synced, claims]
    simp only [sessions, claims]
    constructor
    · rintro ((listed | ⟨kept, silent⟩) | ⟨session, ⟨held, live, silent | listed | young⟩, -⟩)
      · exact .inl listed
      · exact .inr (.inl ⟨silent, kept⟩)
      · exact .inr (.inr ⟨session, held, live, .inl silent⟩)
      · exact .inl listed
      · exact .inr (.inr ⟨session, held, live, .inr young⟩)
    · rintro (listed | ⟨silent, kept⟩ | ⟨session, held, live, silent | young⟩)
      · exact .inl (.inl listed)
      · exact .inl (.inr ⟨kept, silent⟩)
      · exact .inr ⟨session, ⟨held, live, .inl silent⟩, live⟩
      · exact .inr ⟨session, ⟨held, live, .inr (.inr young)⟩, live⟩

end Payload

def running : ResourceCache HexId Int where
  wiring := engine.run [.openSession (IdText.toText press) 0 none]
  allowList := ⟨none, none⟩
  power := .new
  policy := .empty
  holdSent := .empty

def cardHolder : Table String ProfileValue := fun field => if field = "rfid" then some (.string "B2") else none

/-- The tool is idle at the server, but its circuit is locked out, so the payload
does not list it and the session goes on. -/
theorem locked_out_tool_keeps_session :
    let db := { lostCard cardHolder with lockedOut := fun _ => true }
    let after := (running.reconcile (db.buildSyncPayload noZone 0 controller "rfid" none (some paddedCipher))
      (seconds 3600) none).wiring
    (⟨press, none, "Press", .idle, false, none⟩ : Tool HexId) ∈ db.boundTools controller ∧
      after.localSessions (running.wiring.toolKey (IdText.toText press)) = some ⟨0, none⟩ := by
  decide

theorem server_stop_reaches_lease_iff_listed :
    (running.reconcile ((lostCard cardHolder).buildSyncPayload noZone 0 controller "rfid" none (some paddedCipher))
      (seconds 3600) none).wiring.localSessions (running.wiring.toolKey (IdText.toText press)) = none := by
  have law := server_stop_reaches_lease_iff (lostCard cardHolder) noZone 0 controller "rfid" none (some paddedCipher)
    running (seconds 3600) none ⟨press, none, "Press", .idle, false, none⟩ (by decide)
  refine ((law.1 (by decide)).1 ⟨0, none⟩ (by decide) (by decide)).mpr (.inr ⟨?_, ?_⟩)
  · exact ⟨⟨press, none, "Press", .idle, false, none⟩, ⟨by decide, by decide, by decide⟩, trivial, rfl⟩
  · rintro ⟨⟨tool, listed, inUse, -⟩, -⟩
    obtain rfl := List.mem_singleton.mp (List.mem_filter.mp listed.bound).1
    cases inUse

end CoopSpaces

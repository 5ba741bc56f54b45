import CoopSpaces.Edge.Reconcile
import CoopSpaces.Edge.Tick

namespace CoopSpaces

/-- The key a wiring snapshot gives a name: the id of the tool it resolves to, or
the name itself. -/
def ToolModuleStatePayload.key (snapshot : ToolModuleStatePayload) (name : String) : String :=
  ((ModuleState.resolve snapshot name).map (·.toolId)).getD name

/-- The same call, every resource it records something under renamed. -/
def Call.renamed (key : String → String) : Call → Call
  | .observe toolId condition asserted now => .observe (key toolId) condition asserted now
  | .openSession resource now endsAt => .openSession (key resource) now endsAt
  | .closeSession resource now => .closeSession (key resource) now
  | .reconcileSessions inUse tracked now asOf => .reconcileSessions (inUse.map key) (tracked.map key) now asOf
  | .resetLatch toolId => .resetLatch (key toolId)
  | call => call

/-- Whether a call leaves anything behind while no wiring is held. -/
def Call.heard : Call → Bool
  | .noteDeviceSeen _ _ => false
  | .renew _ _ _ _ => false
  | .tick _ _ _ => false
  | _ => true

/-- The engine, told each resource by its key. -/
def keyed : Machine ModuleState Call (List Pass) where
  start := .new
  step s call := engine.step s (call.renamed s.toolKey)

/-- The run as if the wiring had been there before every message, and every
message had used the key. The snapshot also arrives when it really did: its
answer about the rooms is as old as its request. -/
def asIf (before : List Call) (wiring : Call) (after : List Call) : ModuleState :=
  keyed.run (wiring :: (before.filter Call.heard ++ wiring :: after))

/-- A message that came before the snapshot used the name the snapshot files it under. -/
def ToolModuleStatePayload.Files (snapshot : ToolModuleStatePayload) : Call → Prop
  | .applyState _ _ _ => False
  | .observe toolId _ _ _ => snapshot.key toolId = toolId
  | .openSession resource _ _ => snapshot.key resource = resource
  | .closeSession resource _ => snapshot.key resource = resource
  | .reconcileSessions inUse tracked _ _ => ∀ name ∈ inUse ++ tracked, snapshot.key name = name
  | _ => True

namespace ModuleState

/-- A session or a latch is recorded under the name. -/
def Records (s : ModuleState) (name : String) : Prop := (s.localSessions name).isSome ∨ (s.latched name).isSome

/-- A call that does not resolve its name used the key: a reading, and a reset of
a latch that is there. A later snapshot renames nothing that is recorded. -/
def Files (s : ModuleState) : Call → Prop
  | .observe toolId _ _ _ => s.toolKey toolId = toolId
  | .resetLatch toolId => s.toolKey toolId = toolId ∨ s.latched (s.toolKey toolId) = none
  | .applyState payload _ _ => ∀ name, s.Records name → payload.key name = name
  | _ => True

/-- The answers agree, whatever they are asked. -/
structure Answers (s t : ModuleState) : Prop where
  inUse : ∀ key now, s.inUse key now = t.inUse key now
  evaluate : ∀ tool now timeout, s.evaluate tool now timeout = t.evaluate tool now timeout
  tick : ∀ now ttl timeout, (s.tick now ttl timeout).2 = (t.tick now ttl timeout).2

/-- After a stop or a reset nothing is recorded under any name of its resource. -/
def Forgets (s : ModuleState) : Call → Prop
  | .closeSession resource _ => ∀ name, s.toolKey name = s.toolKey resource → s.localSessions name = none
  | .resetLatch toolId => ∀ name, s.toolKey name = s.toolKey toolId → s.latched name = none
  | _ => True

end ModuleState

/-- One resource, one key: once the snapshot has arrived every answer is as if it
had been there first and every message had used the key, and no session or latch
outlives a stop or a reset that names its resource another way. -/
def OneKey (before : List Call) (wiring : Call) (after : List Call) : Prop :=
  (engine.run (before ++ wiring :: after)).Answers (asIf before wiring after) ∧
    ∀ past call, after = past ++ [call] → (engine.run (before ++ wiring :: after)).Forgets call

namespace ToolModuleStatePayload
variable {snapshot : ToolModuleStatePayload}

theorem key_key (name : String) : snapshot.key (snapshot.key name) = snapshot.key name := by
  rcases found : ModuleState.resolve snapshot name with _ | tool
  · simp only [key, found, Option.map_none, Option.getD_none]
  · obtain ⟨wiring, again, same⟩ := ModuleState.resolve_of_id (ModuleState.resolve_mem found)
    simp only [key, found, Option.map_some, Option.getD_some, again, same]

end ToolModuleStatePayload

namespace ModuleState
variable {s t : ModuleState} {snapshot : ToolModuleStatePayload}

theorem toolKey_wired (held : s.snapshot = some snapshot) (name : String) : s.toolKey name = snapshot.key name := by
  simp only [toolKey, wiring, held, Option.bind_some, ToolModuleStatePayload.key]

theorem toolKey_unwired (none_ : s.snapshot = none) (name : String) : s.toolKey name = name := by
  simp only [toolKey, wiring, none_, Option.bind_none, Option.map_none, Option.getD_none]

theorem toolKey_toolKey (s : ModuleState) (name : String) : s.toolKey (s.toolKey name) = s.toolKey name := by
  rcases held : s.snapshot with _ | snapshot
  · rw [toolKey_unwired held, toolKey_unwired held]
  · simp only [toolKey_wired held, ToolModuleStatePayload.key_key]

theorem names_map_toolKey {names : List String} {key : String} :
    s.Names (names.map s.toolKey) key ↔ s.Names names key := by
  simp only [Names, List.mem_map, exists_exists_and_eq_and, toolKey_toolKey]

theorem reconcileTracked_map (inUse tracked : List String) (now asOf : Int) :
    s.reconcileTracked (inUse.map s.toolKey) (tracked.map s.toolKey) now asOf =
      s.reconcileTracked inUse tracked now asOf := by
  have synced : s.syncedKeys (inUse.map s.toolKey) now asOf = s.syncedKeys inUse now asOf := by
    ext key
    rw [mem_syncedKeys, mem_syncedKeys, names_map_toolKey]
  have kept : s.trackedKeys (tracked.map s.toolKey) = s.trackedKeys tracked := by
    ext key
    rw [mem_trackedKeys, mem_trackedKeys, names_map_toolKey]
  simp only [reconcileTracked, synced, kept]

theorem call_renamed {call : Call} (unlatched : ∀ name, s.toolKey name ≠ name → s.latched name = none)
    (files : s.Files call) : s.call (call.renamed s.toolKey) = s.call call := by
  cases call with
  | observe toolId condition asserted now =>
    have same : s.toolKey toolId = toolId := files
    simp only [Call.renamed, same]
  | openSession resource now endsAt => simp only [Call.renamed, call, openSession, toolKey_toolKey]
  | closeSession resource now => simp only [Call.renamed, call, closeSession, toolKey_toolKey]
  | reconcileSessions inUse tracked now asOf => exact reconcileTracked_map inUse tracked now asOf
  | resetLatch toolId =>
    by_cases same : s.toolKey toolId = toolId
    · simp only [Call.renamed, same]
    · have bare : s.latched (s.toolKey toolId) = none := files.resolve_left same
      simp only [Call.renamed, call, resetLatch, Table.erase_of_none bare,
        Table.erase_of_none (unlatched toolId same)]
  | _ => rfl

/-- Every session and latch is recorded under the key of its resource. -/
def ByKey (s : ModuleState) : Prop := ∀ name, s.Records name → s.toolKey name = name

namespace ByKey

section
variable (byKey : s.ByKey)
include byKey

theorem of_fewer (wired : t.snapshot = s.snapshot)
    (fewer : ∀ name, t.Records name → s.Records name ∨ s.toolKey name = name) : t.ByKey := by
  intro name records
  have same : t.toolKey name = s.toolKey name := by simp only [toolKey, wiring, wired]
  rw [same]
  exact (fewer name records).elim (byKey name) id

theorem renew (tool : String) (now ttl timeout : Int) : (s.renew tool now ttl timeout).1.ByKey := by
  obtain ⟨-, turn⟩ | ⟨condition, -, -, turn⟩ | ⟨_, -, -, turn⟩ := s.renew_cases tool now ttl timeout
  · rw [turn]
    exact byKey.of_fewer rfl fun _ records => .inl records
  · rw [turn]
    refine byKey.of_fewer rfl ?_
    rintro name (session | latch)
    · exact .inl (.inl session)
    · rcases Table.eq_or_isSome_of_insert latch with rfl | old
      · exact .inr (s.toolKey_toolKey tool)
      · exact .inl (.inr old)
  · rw [turn]
    exact byKey.of_fewer rfl fun _ records => .inl records

theorem tickTool (tool : String) (now ttl timeout : Int) : (s.tickTool tool now ttl timeout).1.ByKey := by
  have renewed := byKey.renew tool now ttl timeout
  obtain ⟨-, turn⟩ | ⟨_, -, -, turn⟩ | ⟨_, _, -, -, turn⟩ := s.tickTool_cases tool now ttl timeout
  all_goals
    rw [turn]
    exact renewed.of_fewer rfl fun _ records => .inl records

theorem tickTools (now ttl timeout : Int) (tools : List String) : (s.tickTools now ttl timeout tools).1.ByKey := by
  induction tools generalizing s with
  | nil => exact byKey
  | cons tool rest ih => exact ih (byKey.tickTool tool now ttl timeout)

theorem call {call : Call} (files : s.Files call) : (s.call call).ByKey := by
  cases call with
  | applyState payload requestedAt now =>
    intro name records
    have held : s.Records name := records.imp isSome_of_applyStateAt id
    have same : (s.applyStateAt payload requestedAt now).toolKey name = payload.key name := toolKey_wired rfl name
    exact same.trans (files name held)
  | observe toolId condition asserted now =>
    obtain ⟨_, same⟩ := s.observe_eq toolId condition asserted now
    have stays : s.call (.observe toolId condition asserted now) = _ := same
    rw [stays]
    exact byKey.of_fewer rfl fun _ records => .inl records
  | openSession resource now endsAt =>
    refine byKey.of_fewer rfl ?_
    rintro name (session | latch)
    · rcases Table.eq_or_isSome_of_insert session with rfl | old
      · exact .inr (s.toolKey_toolKey resource)
      · exact .inl (.inl old)
    · exact .inl (.inr latch)
  | closeSession resource now =>
    refine byKey.of_fewer rfl ?_
    rintro name (session | latch)
    · exact .inl (.inl (Table.isSome_of_erase session))
    · exact .inl (.inr latch)
  | reconcileSessions inUse tracked now asOf =>
    refine byKey.of_fewer rfl ?_
    rintro name (session | latch)
    · exact .inl (.inl (isSome_of_reconcileTracked session))
    · exact .inl (.inr latch)
  | resetLatch toolId =>
    refine byKey.of_fewer rfl ?_
    rintro name (session | latch)
    · exact .inl (.inl session)
    · exact .inl (.inr (Table.isSome_of_erase latch))
  | renew tool now ttl timeout => exact byKey.renew tool now ttl timeout
  | tick now ttl timeout => exact byKey.tickTools now ttl timeout s.tools
  | _ => exact byKey.of_fewer rfl fun _ records => .inl records

theorem unlatched {name : String} (other : s.toolKey name ≠ name) : s.latched name = none := by
  by_contra latch
  exact other (byKey name (.inr (Option.isSome_iff_ne_none.mpr latch)))

theorem unopened {name : String} (other : s.toolKey name ≠ name) : s.localSessions name = none := by
  by_contra session
  exact other (byKey name (.inl (Option.isSome_iff_ne_none.mpr session)))

/-- What is recorded by key goes with a stop or a reset, whichever name it came under. -/
theorem forgets {call : Call} (files : s.Files call) : (s.call call).Forgets call := by
  have after := byKey.call files
  cases call with
  | closeSession resource now =>
    intro name same
    by_cases keyed : s.toolKey name = name
    · have sameKey : s.toolKey name = s.toolKey resource := same
      rw [← keyed, sameKey]
      exact Table.erase_self _ _
    · exact after.unopened keyed
  | resetLatch toolId =>
    intro name same
    by_cases keyed : s.toolKey name = name
    · have sameKey : name = s.toolKey toolId := keyed.symm.trans same
      subst sameKey
      rcases files with reset | bare
      · rw [reset]
        exact Table.erase_self _ _
      · show s.latched.erase toolId (s.toolKey toolId) = none
        rw [Table.erase_apply]
        split
        · rfl
        · exact bare
    · exact after.unlatched keyed
  | _ => trivial

end

end ByKey

/-- The wiring held after all, and other claims of the server in use. -/
def wired (s : ModuleState) (snapshot : ToolModuleStatePayload) (claims : Finset String) : ModuleState :=
  { s with snapshot := some snapshot, syncedInUse := claims }

/-- Some room of the snapshot has the key. -/
def Tracks (snapshot : ToolModuleStatePayload) (key : String) : Prop :=
  ∃ id ∈ rooms snapshot false, snapshot.key id = key

/-- A state still without wiring: nothing that needs wiring has happened in it, its
sessions are filed as the snapshot will file them, and it holds the claims of
the resources the snapshot does not answer for. -/
structure Awaiting (snapshot : ToolModuleStatePayload) (s : ModuleState) (claims : Finset String) : Prop where
  unwired : s.snapshot = none
  unlatched : s.latched = .empty
  unleased : s.leases = .empty
  filed : ∀ name, (s.localSessions name).isSome → snapshot.key name = name
  claimed : ∀ key, ¬ Tracks snapshot key → (key ∈ claims ↔ key ∈ s.syncedInUse)

section
variable (none_ : s.snapshot = none)
include none_

theorem renew_unwired (bare : s.leases = .empty) (tool : String) (now ttl timeout : Int) :
    (s.renew tool now ttl timeout).1 = s := by
  have unknown : s.evaluate tool now timeout = .deny .unknown := by simp only [evaluate, none_]
  have erased : s.leases.erase (s.toolKey tool) = s.leases := by rw [bare, Table.erase_empty]
  simp only [renew, unknown, erased]

theorem tick_unwired (now ttl timeout : Int) : (s.tick now ttl timeout).1 = s := by
  simp only [tick, tickPasses, tools, none_, Option.map_none, Option.getD_none, tickTools]

theorem noteDeviceSeen_unwired (deviceId : String) (now : Int) : (s.noteDeviceSeen deviceId now).1 = s := by
  have unmarked : s.bindingsOf deviceId = [] := by simp only [bindingsOf, none_]
  simp only [noteDeviceSeen, unmarked, List.foldl_nil]

theorem call_unheard (bare : s.leases = .empty) {call : Call} (silent : call.heard = false) : s.call call = s := by
  cases call with
  | noteDeviceSeen deviceId now => exact noteDeviceSeen_unwired none_ deviceId now
  | renew tool now ttl timeout => exact renew_unwired none_ bare tool now ttl timeout
  | tick now ttl timeout => exact tick_unwired none_ now ttl timeout
  | _ => cases silent

theorem names_wired {claims : Finset String} {names : List String} (filed : ∀ name ∈ names, snapshot.key name = name)
    {key : String} : (s.wired snapshot claims).Names names key ↔ s.Names names key := by
  have same : ∀ name ∈ names, (s.wired snapshot claims).toolKey name = s.toolKey name := by
    intro name member
    rw [toolKey_wired rfl, toolKey_unwired none_, filed name member]
  constructor
  · rintro ⟨name, member, rfl⟩
    exact ⟨name, member, (same name member).symm⟩
  · rintro ⟨name, member, rfl⟩
    exact ⟨name, member, same name member⟩

end

theorem observe_wired (s : ModuleState) (claims : Finset String) (toolId condition : String) (asserted : Bool)
    (now : Int) : (s.wired snapshot claims).observe toolId condition asserted now =
      (s.observe toolId condition asserted now).wired snapshot claims := by
  have read : (s.wired snapshot claims).readings (toolId, condition) = s.readings (toolId, condition) := rfl
  unfold observe
  rw [read]
  split
  · split <;> rfl
  · rfl

namespace Awaiting
variable {claims : Finset String}

section
variable (awaiting : Awaiting snapshot s claims)
include awaiting

theorem later (wired : t.snapshot = s.snapshot) (latched : t.latched = s.latched) (leases : t.leases = s.leases)
    (fewer : ∀ name, (t.localSessions name).isSome → (s.localSessions name).isSome ∨ snapshot.key name = name)
    {later : Finset String} (claimed : ∀ key, ¬ Tracks snapshot key → (key ∈ later ↔ key ∈ t.syncedInUse)) :
    Awaiting snapshot t later where
  unwired := wired.trans awaiting.unwired
  unlatched := latched.trans awaiting.unlatched
  unleased := leases.trans awaiting.unleased
  filed name session := (fewer name session).elim (awaiting.filed name) id
  claimed := claimed

theorem observe (toolId condition : String) (asserted : Bool) (now : Int) :
    Awaiting snapshot (s.observe toolId condition asserted now) claims := by
  obtain ⟨_, stays⟩ := s.observe_eq toolId condition asserted now
  rw [stays]
  exact ⟨awaiting.unwired, awaiting.unlatched, awaiting.unleased, awaiting.filed, awaiting.claimed⟩

theorem openSession {resource : String} (same : snapshot.key resource = resource) (now : Int) (endsAt : Option Int) :
    (s.wired snapshot claims).openSession (snapshot.key resource) now endsAt =
        (s.openSession resource now endsAt).wired snapshot claims ∧
      Awaiting snapshot (s.openSession resource now endsAt) claims := by
  have unkeyed : s.toolKey resource = resource := toolKey_unwired awaiting.unwired resource
  constructor
  · simp only [ModuleState.openSession, toolKey_wired (s := s.wired snapshot claims) rfl, unkeyed, same]
    rfl
  · refine awaiting.later (t := s.openSession resource now endsAt) rfl rfl rfl ?_ awaiting.claimed
    intro name session
    rcases Table.eq_or_isSome_of_insert session with rfl | old
    · rw [unkeyed]
      exact .inr same
    · exact .inl old

theorem closeSession {resource : String} (same : snapshot.key resource = resource) (now : Int) :
    (s.wired snapshot claims).closeSession (snapshot.key resource) now =
        (s.closeSession resource now).wired snapshot (claims.erase resource) ∧
      Awaiting snapshot (s.closeSession resource now) (claims.erase resource) := by
  have unkeyed : s.toolKey resource = resource := toolKey_unwired awaiting.unwired resource
  constructor
  · simp only [ModuleState.closeSession, toolKey_wired (s := s.wired snapshot claims) rfl, unkeyed, same]
    rfl
  · refine awaiting.later (t := s.closeSession resource now) rfl rfl rfl
      (fun name session => .inl (Table.isSome_of_erase session)) ?_
    intro key untracked
    show key ∈ claims.erase resource ↔ key ∈ s.syncedInUse.erase (s.toolKey resource)
    rw [unkeyed, Finset.mem_erase, Finset.mem_erase, awaiting.claimed key untracked]

/-- An answer files its claims by key already, and takes up what the snapshot does not answer for. -/
theorem reconcileSessions {inUse tracked : List String} (filed : ∀ name ∈ inUse ++ tracked, snapshot.key name = name)
    (now asOf : Int) :
    ∃ later, (s.wired snapshot claims).reconcileTracked (inUse.map snapshot.key) (tracked.map snapshot.key) now asOf =
        (s.reconcileTracked inUse tracked now asOf).wired snapshot later ∧
      Awaiting snapshot (s.reconcileTracked inUse tracked now asOf) later := by
  have used : ∀ name ∈ inUse, snapshot.key name = name :=
    fun name member => filed name (List.mem_append_left _ member)
  have kept : ∀ name ∈ tracked, snapshot.key name = name :=
    fun name member => filed name (List.mem_append_right _ member)
  have synced : (s.wired snapshot claims).syncedKeys inUse now asOf = s.syncedKeys inUse now asOf := by
    ext key
    rw [mem_syncedKeys, mem_syncedKeys, names_wired awaiting.unwired used]
    rfl
  have watched : (s.wired snapshot claims).trackedKeys tracked = s.trackedKeys tracked := by
    ext key
    rw [mem_trackedKeys, mem_trackedKeys, names_wired awaiting.unwired kept]
  refine ⟨claims.filter (· ∉ s.trackedKeys tracked) ∪ s.syncedKeys inUse now asOf, ?_, ?_⟩
  · rw [List.map_congr_left used, List.map_congr_left kept, List.map_id', List.map_id']
    simp only [reconcileTracked, synced, watched]
    rfl
  · refine awaiting.later (t := s.reconcileTracked inUse tracked now asOf) rfl rfl rfl
      (fun name session => .inl (isSome_of_reconcileTracked session)) ?_
    intro key untracked
    show _ ↔ key ∈ s.syncedInUse.filter (· ∉ s.trackedKeys tracked) ∪ s.syncedKeys inUse now asOf
    simp only [Finset.mem_union, Finset.mem_filter, awaiting.claimed key untracked]

theorem resetLatch (toolId : String) :
    s.resetLatch toolId = s ∧
      (s.wired snapshot claims).resetLatch (snapshot.key toolId) = s.wired snapshot claims := by
  have nothing : ∀ u : ModuleState, u.latched = .empty → ∀ name, u.resetLatch name = u := by
    intro u bare name
    simp only [ModuleState.resetLatch, bare, Table.erase_empty]
    rw [← bare]
  exact ⟨nothing s awaiting.unlatched toolId, nothing (s.wired snapshot claims) awaiting.unlatched _⟩

/-- A message that uses the key does the same whether the wiring is there or not. -/
theorem call {call : Call} (files : snapshot.Files call) (hears : call.heard = true) :
    ∃ later, (s.wired snapshot claims).call (call.renamed snapshot.key) = (s.call call).wired snapshot later ∧
      Awaiting snapshot (s.call call) later := by
  cases call with
  | applyState payload requestedAt now => exact files.elim
  | observe toolId condition asserted now =>
    have same : snapshot.key toolId = toolId := files
    refine ⟨claims, ?_, awaiting.observe toolId condition asserted now⟩
    simp only [Call.renamed, same]
    exact s.observe_wired claims toolId condition asserted now
  | openSession resource now endsAt => exact ⟨claims, awaiting.openSession files now endsAt⟩
  | closeSession resource now => exact ⟨claims.erase resource, awaiting.closeSession files now⟩
  | reconcileSessions inUse tracked now asOf => exact awaiting.reconcileSessions files now asOf
  | resetLatch toolId =>
    obtain ⟨cleared, clearedToo⟩ := awaiting.resetLatch toolId
    have stays : s.call (.resetLatch toolId) = s := cleared
    rw [stays]
    exact ⟨claims, clearedToo, awaiting⟩
  | noteModuleSeen moduleId now =>
    exact ⟨claims, rfl, awaiting.later (t := s.noteModuleSeen moduleId now) rfl rfl rfl
      (fun _ => .inl) awaiting.claimed⟩
  | noteRelayState deviceId relayOn now =>
    exact ⟨claims, rfl, awaiting.later (t := s.noteRelayState deviceId relayOn now) rfl rfl rfl
      (fun _ => .inl) awaiting.claimed⟩
  | setLocalSessionGrace grace =>
    exact ⟨claims, rfl, awaiting.later (t := s.setLocalSessionGrace grace) rfl rfl rfl
      (fun _ => .inl) awaiting.claimed⟩
  | _ => cases hears

/-- When the snapshot arrives it answers for its rooms itself, and the two states meet. -/
theorem arrives (requestedAt : Option Int) (now : Int) :
    (s.wired snapshot claims).applyStateAt snapshot requestedAt now = s.applyStateAt snapshot requestedAt now ∧
      (s.applyStateAt snapshot requestedAt now).ByKey := by
  constructor
  · have kept : claims.filter (· ∉ (s.wired snapshot claims).trackedKeys (rooms snapshot false)) =
        s.syncedInUse.filter (· ∉ (s.wired snapshot claims).trackedKeys (rooms snapshot false)) := by
      ext key
      simp only [Finset.mem_filter, mem_trackedKeys]
      refine and_congr_left ?_
      intro untracked
      refine awaiting.claimed key ?_
      rintro ⟨id, member, same⟩
      exact untracked ⟨id, member, (toolKey_wired rfl id).trans same⟩
    have whole := congrArg (fun kept => { { s with snapshot := some snapshot }.reconcileTracked (rooms snapshot true)
      (rooms snapshot false) now (requestedAt.getD now) with
        syncedInUse := kept ∪ (s.wired snapshot claims).syncedKeys (rooms snapshot true) now
          (requestedAt.getD now) }) kept
    exact whole
  · intro name records
    refine (toolKey_wired rfl name).trans ?_
    rcases records with session | latch
    · exact awaiting.filed name (isSome_of_applyStateAt session)
    · have latched : (s.latched name).isSome := latch
      rw [awaiting.unlatched] at latched
      cases latched

end

end Awaiting

theorem awaiting_new (snapshot : ToolModuleStatePayload) (requestedAt : Option Int) (now : Int) :
    ∃ claims, ModuleState.new.applyStateAt snapshot requestedAt now = ModuleState.new.wired snapshot claims ∧
      Awaiting snapshot .new claims := by
  refine ⟨(ModuleState.new.applyStateAt snapshot requestedAt now).syncedInUse, rfl, rfl, rfl, rfl, ?_, ?_⟩
  · intro name session
    cases session
  · intro key untracked
    refine iff_of_false ?_ (Finset.notMem_empty key)
    intro claimed
    rcases reconcileTracked_syncedInUse.mp claimed with ⟨⟨id, member, same⟩, -⟩ | ⟨old, -⟩
    · refine untracked ⟨id, ?_, (toolKey_wired rfl id).symm.trans same⟩
      obtain ⟨tool, listed, rfl⟩ := List.mem_map.mp member
      exact List.mem_map.mpr ⟨tool, by simpa using (List.mem_filter.mp listed).1, rfl⟩
    · exact Finset.notMem_empty key old

end ModuleState

/-- Every message filed something under the key of its resource. -/
structure Filed (before : List Call) (snapshot : ToolModuleStatePayload) (wiring : Call) (after : List Call) :
    Prop where
  earlier : ∀ call ∈ before, snapshot.Files call
  later : EveryStep (fun past call => (engine.run (before ++ wiring :: past)).Files call) after

section Runs
variable {before after : List Call} {snapshot : ToolModuleStatePayload} {requestedAt : Option Int} {now : Int}

theorem run_before (files : ∀ call ∈ before, snapshot.Files call) :
    ∃ claims, keyed.runFrom (ModuleState.new.applyStateAt snapshot requestedAt now) (before.filter Call.heard) =
        (engine.run before).wired snapshot claims ∧ (engine.run before).Awaiting snapshot claims := by
  refine engine.runFrom_related keyed Call.heard
    (fun s t => ∃ claims, t = s.wired snapshot claims ∧ s.Awaiting snapshot claims) snapshot.Files ?_ ?_
    (ModuleState.awaiting_new snapshot requestedAt now) files
  · rintro s t call filed hears ⟨claims, rfl, awaiting⟩
    have keys : (s.wired snapshot claims).toolKey = snapshot.key := funext (ModuleState.toolKey_wired rfl)
    show ∃ later, (s.wired snapshot claims).call (call.renamed (s.wired snapshot claims).toolKey) = _ ∧ _
    rw [keys]
    exact awaiting.call filed hears
  · rintro s t call - silent ⟨claims, rfl, awaiting⟩
    have stays : s.call call = s := ModuleState.call_unheard awaiting.unwired awaiting.unleased silent
    show ∃ later, _ = (s.call call).wired snapshot later ∧ (s.call call).Awaiting snapshot later
    rw [stays]
    exact ⟨claims, rfl, awaiting⟩

/-- From the snapshot on the two runs are in the same state. -/
theorem run_after (filed : Filed before snapshot (.applyState snapshot requestedAt now) after) :
    asIf before (.applyState snapshot requestedAt now) after =
        engine.run (before ++ .applyState snapshot requestedAt now :: after) ∧
      (engine.run (before ++ .applyState snapshot requestedAt now :: after)).ByKey := by
  obtain ⟨files, later⟩ := filed
  obtain ⟨claims, reached, awaiting⟩ : ∃ claims, keyed.runFrom (ModuleState.new.applyStateAt snapshot requestedAt now)
      (before.filter Call.heard) = (engine.run before).wired snapshot claims ∧
        (engine.run before).Awaiting snapshot claims :=
    run_before files
  obtain ⟨meet, byKey⟩ := awaiting.arrives requestedAt now
  induction after using List.reverseRecOn with
  | nil =>
    have arrived : engine.run (before ++ [.applyState snapshot requestedAt now]) =
        (engine.run before).applyStateAt snapshot requestedAt now := engine.run_snoc _ _
    rw [arrived]
    refine ⟨?_, byKey⟩
    rw [← meet, ← reached]
    exact keyed.runFrom_append _ (before.filter Call.heard) [.applyState snapshot requestedAt now]
  | append_singleton past call ih =>
    obtain ⟨earlier, here⟩ := EveryStep.snoc_iff.mp later
    obtain ⟨same, kept⟩ := ih earlier
    have actual : engine.run (before ++ .applyState snapshot requestedAt now :: (past ++ [call])) =
        (engine.run (before ++ .applyState snapshot requestedAt now :: past)).call call := by
      rw [← List.cons_append, ← List.append_assoc]
      exact engine.run_snoc _ _
    have reference : asIf before (.applyState snapshot requestedAt now) (past ++ [call]) =
        (asIf before (.applyState snapshot requestedAt now) past).call
          (call.renamed (asIf before (.applyState snapshot requestedAt now) past).toolKey) := by
      have split : .applyState snapshot requestedAt now :: (before.filter Call.heard ++
            .applyState snapshot requestedAt now :: (past ++ [call])) =
          (.applyState snapshot requestedAt now :: (before.filter Call.heard ++
            .applyState snapshot requestedAt now :: past)) ++ [call] := by simp
      rw [asIf, split]
      exact keyed.run_snoc _ _
    rw [actual, reference, same]
    exact ⟨ModuleState.call_renamed (fun _ => kept.unlatched) here, kept.call here⟩

end Runs

/-- One resource has one key in every run whose messages file under it: before the
snapshot they used the key, and after it the readings and the resets did. -/
theorem one_resource_one_key (before after : List Call) (snapshot : ToolModuleStatePayload)
    (requestedAt : Option Int) (now : Int)
    (filed : Filed before snapshot (.applyState snapshot requestedAt now) after) :
    OneKey before (.applyState snapshot requestedAt now) after := by
  have same := (run_after filed).1
  refine ⟨?_, ?_⟩
  · rw [same]
    exact ⟨fun _ _ => rfl, fun _ _ _ => rfl, fun _ _ _ => rfl⟩
  · rintro past call rfl
    obtain ⟨earlier, here⟩ := EveryStep.snoc_iff.mp filed.later
    have byKey := (run_after ⟨filed.earlier, earlier⟩).2
    rw [← List.cons_append, ← List.append_assoc, engine.run_snoc]
    exact byKey.forgets here

/-- A lathe wired under its id, that scanners know by another name. -/
def wiredLathe : ToolModuleTool :=
  { toolId := "7c1e", externalId := some "lathe", kind := "tool", sessionProfile := "until_stopped", inUse := false,
    modules := [], interlocks := [⟨"trip", "door_open", 0, true⟩] }

def latheArrives : Call := .applyState ⟨[wiredLathe]⟩ none (seconds 1)

theorem one_resource_one_key_lathe :
    OneKey [.openSession "7c1e" 0 none] latheArrives [.closeSession "lathe" (seconds 2)] := by
  refine one_resource_one_key _ _ ⟨[wiredLathe]⟩ none (seconds 1) ⟨?_, ?_⟩
  · intro call member
    obtain rfl := List.mem_singleton.mp member
    show ToolModuleStatePayload.key _ _ = _
    decide
  · exact EveryStep.snoc_iff.mpr ⟨EveryStep.nil, trivial⟩

/-- A member who badged on before the wiring came is not seen on the lathe once it
has, and a latch is not cleared by a reset that says "lathe". -/
theorem one_resource_one_key_orphan :
    ¬ OneKey [.openSession "lathe" 0 none] latheArrives [] ∧
      ¬ OneKey [] latheArrives [.observe "7c1e" "door_open" true (seconds 2),
        .tick (seconds 3) (seconds 10) (seconds 30), .resetLatch "lathe"] := by
  constructor
  · intro one
    have same := one.1.inUse "7c1e" (seconds 1)
    revert same
    decide
  · intro one
    have forgets := one.2 [.observe "7c1e" "door_open" true (seconds 2), .tick (seconds 3) (seconds 10) (seconds 30)]
      (.resetLatch "lathe") rfl "7c1e" (by decide)
    revert forgets
    decide

end CoopSpaces

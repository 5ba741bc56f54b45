import CoopSpaces.Edge.Aliases
import CoopSpaces.Lib.Routine

namespace CoopSpaces

/-- A payload that brings tools and members: the one shape, or the tool alias. -/
inductive Ingest (Uuid : Type)
  | policy (payload : ResourcePolicyPayload)
  | syncAlias (payload : SyncPayload Uuid)

/-- What an ingest does under one lock at a time: the policy's, then the allow-list's. -/
inductive IngestWrite (Uuid : Type)
  | keepPolicy (payload : ResourcePolicyPayload)
  | keepSync (payload : SyncPayload Uuid)
  | showKiosk (sync : SyncPayload Uuid)

/-- What the kiosk shows: the tools and the members. -/
abbrev KioskView (Uuid : Type) := List (SyncTool Uuid) × List (SyncUser Uuid)

def SyncPayload.view {Uuid : Type} (sync : SyncPayload Uuid) : KioskView Uuid := (sync.tools, sync.users)

namespace Ingest
variable {Uuid : Type}

/-- A payload written to the policy, or to the allow-list. -/
inductive Note (Uuid : Type)
  | kept (ingest : Ingest Uuid)
  | shown (ingest : Ingest Uuid)

def lastKept (log : List (Note Uuid)) : Option (Ingest Uuid) :=
  (log.filterMap fun
    | .kept ingest => some ingest
    | .shown _ => none).getLast?

def lastShown (log : List (Note Uuid)) : Option (Ingest Uuid) :=
  (log.filterMap fun
    | .kept _ => none
    | .shown ingest => some ingest).getLast?

theorem lastKept_kept (log : List (Note Uuid)) (ingest : Ingest Uuid) :
    lastKept (log ++ [.kept ingest]) = some ingest := by
  simp [lastKept]

theorem lastKept_shown (log : List (Note Uuid)) (ingest : Ingest Uuid) :
    lastKept (log ++ [.shown ingest]) = lastKept log := by
  simp [lastKept]

theorem lastShown_kept (log : List (Note Uuid)) (ingest : Ingest Uuid) :
    lastShown (log ++ [.kept ingest]) = lastShown log := by
  simp [lastShown]

theorem lastShown_shown (log : List (Note Uuid)) (ingest : Ingest Uuid) :
    lastShown (log ++ [.shown ingest]) = some ingest := by
  simp [lastShown]

end Ingest

section
variable {Uuid : Type} [Inhabited Uuid]

/-- The tool-and-member view derived from the policy. -/
def Policy.view (p : Policy Uuid) : KioskView Uuid := (p.toSync default "").view

/-- The view the allow-list holds; an empty one before any. -/
def ToolGuardState.view (s : ToolGuardState Uuid) : KioskView Uuid := (s.inner.map SyncPayload.view).getD ([], [])

theorem Policy.view_replaceKind (p : Policy Uuid) (payload : SyncPayload Uuid) (names : Table Uuid String) :
    Policy.view { p.replaceKind .tool (payload.tools.map Entry.fromSyncTool) with
      names := names, members := payload.users.map Member.fromSyncUser } =
      (payload.tools.map fun t => { t with name := (names t.id).getD "" }, payload.users) := by
  have tools := p.half_replaceKind (@Entry.kind_fromSyncTool Uuid payload.tools)
  have users : (payload.users.map Member.fromSyncUser).map Member.toSyncUser = payload.users := by
    rw [List.map_map]
    exact List.map_id payload.users
  unfold Policy.half at tools
  unfold Policy.view SyncPayload.view Policy.toSync
  simp only [tools, users, List.map_map]
  refine congrArg (·, payload.users) (List.map_congr_left fun t _ => ?_)
  simp only [Function.comp_apply, Entry.fromSyncTool, Entry.toSyncTool, parseStatus_statusWord]

end

variable {Uuid Amps : Type} [DecidableEq Uuid]

theorem named_tool {tools : List (SyncTool Uuid)} {t : SyncTool Uuid} (member : t ∈ tools) :
    ∃ last ∈ tools, last.id = t.id ∧
      ∀ names : Table Uuid String,
        tools.foldl (fun names t => names.insert t.id t.name) names t.id = some last.name :=
  Table.foldl_insert_mem member

variable [IdText Uuid] [Inhabited Uuid]

def ResourceCache.InStep (c : ResourceCache Uuid Amps) : Prop := c.allowList.view = c.policy.view

namespace Ingest
variable (parseRfc3339 : String → Option Int)

/-- The policy a payload leaves, were nothing applied before. -/
def policyOf (payload : ResourcePolicyPayload) : Policy Uuid where
  entries := payload.resources.filterMap (Entry.fromPolicy parseRfc3339)
  names := payload.resources.foldl (fun names r =>
    match IdText.parseStr r.id with
    | some id => names.insert id r.name
    | none => names) .empty
  members := payload.principals.map Member.fromPrincipal
  appliedAt := parseRfc3339 payload.asOf

/-- One lock taken and released. The policy's answers with the view it derived, unless
the payload was stale. -/
def perform (c : ResourceCache Uuid Amps) : IngestWrite Uuid → ResourceCache Uuid Amps × Option (SyncPayload Uuid)
  | .keepPolicy payload =>
    let stamp := parseRfc3339 payload.asOf
    if stamp.any c.policy.isStale then (c, none)
    else
      let policy : Policy Uuid := { policyOf parseRfc3339 payload with appliedAt := stamp.or c.policy.appliedAt }
      ({ c with policy := policy },
        some (policy.toSync ((IdText.parseStr payload.deviceId).getD default) payload.profileField))
  | .keepSync payload =>
    let names := payload.tools.foldl (fun (names : Table Uuid String) t => names.insert t.id t.name) c.policy.names
    let replaced := c.policy.replaceKind .tool (payload.tools.map Entry.fromSyncTool)
    ({ c with policy := { replaced with names := names, members := payload.users.map Member.fromSyncUser } }, none)
  | .showKiosk sync => ({ c with allowList := c.allowList.applySync sync }, none)

def showing (sync : SyncPayload Uuid) :
    Routine (ResourceCache Uuid Amps) (IngestWrite Uuid) (Option (SyncPayload Uuid)) Unit :=
  .write (.showKiosk sync) fun _ => .done ()

def serve : Ingest Uuid → Routine (ResourceCache Uuid Amps) (IngestWrite Uuid) (Option (SyncPayload Uuid)) Unit
  | .policy payload => .write (.keepPolicy payload) fun kept => kept.elim (.done ()) showing
  | .syncAlias payload => .write (.keepSync payload) fun _ => showing payload

def service : Service (ResourceCache Uuid Amps) (IngestWrite Uuid) (Option (SyncPayload Uuid)) Unit
    (Ingest Uuid) where
  perform := perform parseRfc3339
  serve := serve

/-- The view the policy gives once a payload has been kept: a tool's name is looked up under
its id, so of tools with one id the last to be named names them all. -/
def keptView : Ingest Uuid → KioskView Uuid
  | .policy payload => (policyOf parseRfc3339 payload).view
  | .syncAlias payload =>
    let names : Table Uuid String := payload.tools.foldl (fun names t => names.insert t.id t.name) .empty
    (payload.tools.map fun t => { t with name := (names t.id).getD "" }, payload.users)

/-- The view the allow-list gives once a payload has been shown. -/
def shownView : Ingest Uuid → KioskView Uuid
  | .policy payload => (policyOf parseRfc3339 payload).view
  | .syncAlias payload => payload.view

/-- The tools a payload gives one id, it gives one name. -/
def NamesTools : Ingest Uuid → Prop
  | .policy _ => True
  | .syncAlias payload => ∀ t ∈ payload.tools, ∀ other ∈ payload.tools, t.id = other.id → t.name = other.name

theorem view_keepSync (c : ResourceCache Uuid Amps) (payload : SyncPayload Uuid) :
    (perform parseRfc3339 c (.keepSync payload)).1.policy.view = keptView parseRfc3339 (.syncAlias payload) := by
  refine (c.policy.view_replaceKind payload _).trans ?_
  refine congrArg (·, payload.users) (List.map_congr_left fun t member => ?_)
  obtain ⟨last, -, -, found⟩ := named_tool member
  rw [found, found]

theorem keptView_eq_shownView {ingest : Ingest Uuid} (one : ingest.NamesTools) :
    keptView parseRfc3339 ingest = shownView parseRfc3339 ingest := by
  cases ingest with
  | policy payload => rfl
  | syncAlias payload =>
    refine congrArg (·, payload.users) ((List.map_congr_left fun t member => ?_).trans (List.map_id payload.tools))
    obtain ⟨last, inTools, sameId, found⟩ := named_tool member
    rw [found, Option.getD_some, one last inTools t member sameId]
    rfl

abbrev IngestPool (Uuid Amps : Type) :=
  Service.Pool (ResourceCache Uuid Amps) (IngestWrite Uuid) (Option (SyncPayload Uuid)) Unit (Ingest Uuid)

abbrev IngestRoutine (Uuid Amps : Type) :=
  Routine (ResourceCache Uuid Amps) (IngestWrite Uuid) (Option (SyncPayload Uuid)) Unit

/-- Whose write to which of the two stores a call's next step is. -/
def noted (c : ResourceCache Uuid Amps) : Ingest Uuid × IngestRoutine Uuid Amps → List (Note Uuid)
  | (ingest, .write (.keepPolicy payload) _) =>
    if (parseRfc3339 payload.asOf).any c.policy.isStale then [] else [.kept ingest]
  | (ingest, .write (.keepSync _) _) => [.kept ingest]
  | (ingest, .write (.showKiosk _) _) => [.shown ingest]
  | _ => []

def watch (pool : IngestPool Uuid Amps) : Service.Event (Ingest Uuid) → List (Note Uuid)
  | .arrive _ => []
  | .step index => (pool.tasks[index]?.map (noted parseRfc3339 pool.state)).getD []

/-- How far a call has come: not begun, between its two writes, or returned. -/
inductive Stage : Ingest Uuid × IngestRoutine Uuid Amps → Prop
  | waiting (ingest : Ingest Uuid) : Stage (ingest, serve ingest)
  | between (ingest : Ingest Uuid) (sync : SyncPayload Uuid) (view : sync.view = shownView parseRfc3339 ingest) :
    Stage (ingest, showing sync)
  | returned (ingest : Ingest Uuid) : Stage (ingest, .done ())

/-- What the two stores hold is what was last written to each. -/
structure Book (log : List (Note Uuid)) (pool : IngestPool Uuid Amps) : Prop where
  kept : pool.state.policy.view = ((lastKept log).map (keptView parseRfc3339)).getD ([], [])
  shown : pool.state.allowList.view = ((lastShown log).map (shownView parseRfc3339)).getD ([], [])
  stages : ∀ call ∈ pool.tasks, Stage parseRfc3339 call

omit [DecidableEq Uuid] [IdText Uuid] [Inhabited Uuid] in
theorem serve_ne_showing (ingest : Ingest Uuid) (sync : SyncPayload Uuid) :
    (serve ingest : IngestRoutine Uuid Amps) ≠ showing sync := by
  intro same
  cases ingest <;> cases same

/-- What one step of a call does: it keeps its payload, drops a stale one, or shows what it kept. -/
inductive Stepped (c : ResourceCache Uuid Amps) (ingest : Ingest Uuid) (routine : IngestRoutine Uuid Amps) : Prop
  | keeps (sync : SyncPayload Uuid) (waiting : routine = serve ingest)
    (next : (routine.advance (perform parseRfc3339) c).2 = showing sync)
    (view : sync.view = shownView parseRfc3339 ingest)
    (kept : (routine.advance (perform parseRfc3339) c).1.policy.view = keptView parseRfc3339 ingest)
    (same : (routine.advance (perform parseRfc3339) c).1.allowList = c.allowList)
    (notes : noted parseRfc3339 c (ingest, routine) = [.kept ingest])
  | drops (idle : ∀ sync, routine ≠ showing sync) (next : routine.advance (perform parseRfc3339) c = (c, .done ()))
    (notes : noted parseRfc3339 c (ingest, routine) = [])
  | shows (sync : SyncPayload Uuid) (between : routine = showing sync)
    (view : sync.view = shownView parseRfc3339 ingest)

theorem Stage.stepped {c : ResourceCache Uuid Amps} {ingest : Ingest Uuid} {routine : IngestRoutine Uuid Amps}
    (stage : Stage parseRfc3339 (ingest, routine)) : Stepped parseRfc3339 c ingest routine := by
  cases stage with
  | waiting =>
    cases ingest with
    | policy payload =>
      by_cases old : (parseRfc3339 payload.asOf).any c.policy.isStale = true
      · have dropped : perform parseRfc3339 c (.keepPolicy payload) = (c, none) := if_pos old
        refine .drops (serve_ne_showing _) ?_ (if_pos old)
        exact congrArg (fun made : ResourceCache Uuid Amps × Option (SyncPayload Uuid) =>
          (made.1, (made.2.elim (.done ()) showing : IngestRoutine Uuid Amps))) dropped
      · let sync : SyncPayload Uuid :=
          (policyOf parseRfc3339 payload).toSync ((IdText.parseStr payload.deviceId).getD default)
          payload.profileField
        have taken : perform parseRfc3339 c (.keepPolicy payload) =
            ({ c with policy := { policyOf parseRfc3339 payload with
                appliedAt := (parseRfc3339 payload.asOf).or c.policy.appliedAt } }, some sync) := if_neg old
        have next := congrArg (fun made : ResourceCache Uuid Amps × Option (SyncPayload Uuid) =>
          (made.2.elim (.done ()) showing : IngestRoutine Uuid Amps)) taken
        have policy := congrArg (fun made : ResourceCache Uuid Amps × Option (SyncPayload Uuid) =>
          made.1.policy.view) taken
        have allowList := congrArg (fun made : ResourceCache Uuid Amps × Option (SyncPayload Uuid) =>
          made.1.allowList) taken
        exact .keeps sync rfl next rfl policy allowList (if_neg old)
    | syncAlias payload => exact .keeps payload rfl rfl rfl (view_keepSync parseRfc3339 c payload) rfl rfl
  | between ingest sync view => exact .shows sync rfl view
  | returned => exact .drops (fun _ same => by cases same) rfl rfl

theorem stages_set {tasks : List (Ingest Uuid × IngestRoutine Uuid Amps)}
    (stages : ∀ call ∈ tasks, Stage parseRfc3339 call) {index : Nat} {call : Ingest Uuid × IngestRoutine Uuid Amps}
    (next : Stage parseRfc3339 call) : ∀ other ∈ tasks.set index call, Stage parseRfc3339 other := by
  intro other member
  rcases List.mem_or_eq_of_mem_set member with old | rfl
  · exact stages other old
  · exact next

theorem Book.step {log : List (Note Uuid)} {pool : IngestPool Uuid Amps} (book : Book parseRfc3339 log pool)
    (event : Service.Event (Ingest Uuid)) :
    Book parseRfc3339 (log ++ watch parseRfc3339 pool event) ((service parseRfc3339).step pool event).1 := by
  cases event with
  | arrive ingest =>
    have notes : watch parseRfc3339 pool (.arrive ingest) = [] := rfl
    rw [notes, List.append_nil]
    exact ⟨book.kept, book.shown, (service parseRfc3339).all_tasks_arrive book.stages (.waiting ingest)⟩
  | step index =>
    rcases found : pool.tasks[index]? with _ | ⟨ingest, routine⟩
    · rw [(service parseRfc3339).step_of_none found]
      simpa [watch, found] using book
    · have stage := book.stages _ (List.mem_of_getElem? found)
      obtain ⟨state, tasks⟩ := (service parseRfc3339).tasks_step found
      have notes : watch parseRfc3339 pool (.step index) = noted parseRfc3339 pool.state (ingest, routine) := by
        simp [watch, found]
      rw [notes]
      cases stage.stepped (c := pool.state) with
      | keeps sync waiting next view kept same noted =>
        rw [noted]
        refine ⟨?_, ?_, ?_⟩
        · rw [state, lastKept_kept]
          exact kept
        · rw [state, lastShown_kept]
          exact (congrArg ToolGuardState.view same).trans book.shown
        · rw [tasks]
          refine stages_set parseRfc3339 book.stages ?_
          rw [show (routine.advance (service parseRfc3339).perform pool.state).2 = showing sync from next]
          exact .between ingest sync view
      | drops idle next noted =>
        have unchanged := congrArg Prod.fst next
        rw [noted, List.append_nil]
        refine ⟨?_, ?_, ?_⟩
        · rw [state]
          exact (congrArg (fun c => c.policy.view) unchanged).trans book.kept
        · rw [state]
          exact (congrArg (fun c => c.allowList.view) unchanged).trans book.shown
        · rw [tasks]
          refine stages_set parseRfc3339 book.stages ?_
          rw [show (routine.advance (service parseRfc3339).perform pool.state).2 =
            .done () from congrArg Prod.snd next]
          exact .returned ingest
      | shows sync between view =>
        subst between
        refine ⟨?_, ?_, ?_⟩
        · rw [state]
          exact book.kept.trans (congrArg (fun last => (last.map (keptView parseRfc3339)).getD ([], []))
            (lastKept_shown log ingest).symm)
        · rw [state]
          exact view.trans (congrArg (fun last => (last.map (shownView parseRfc3339)).getD ([], []))
            (lastShown_shown log ingest).symm)
        · rw [tasks]
          exact stages_set parseRfc3339 book.stages (.returned ingest)

/-- Some call stands between its two writes, with this view to show. -/
def Between (pool : IngestPool Uuid Amps) (index : Nat) (sync : SyncPayload Uuid) : Prop :=
  ∃ ingest, pool.tasks[index]? = some (ingest, showing sync)

/-- A call writes the policy only while no other stands between its two writes. -/
def Uncrossed (pool : IngestPool Uuid Amps) (event : Service.Event (Ingest Uuid)) : Prop :=
  ∀ index ingest, event = .step index → pool.tasks[index]? = some (ingest, serve ingest) →
    ∀ other sync, ¬ Between pool other sync

/-- At most one call is between its two writes, and it brings what the policy now says; when
none is, the stores are in step. -/
structure OneAhead (pool : IngestPool Uuid Amps) : Prop where
  one : ∀ i j sync sync', Between pool i sync → Between pool j sync' → i = j
  brings : ∀ i sync, Between pool i sync → sync.view = pool.state.policy.view
  settled : (∀ i sync, ¬ Between pool i sync) → pool.state.InStep

omit [DecidableEq Uuid] [IdText Uuid] [Inhabited Uuid] in
theorem between_set {pool after : IngestPool Uuid Amps} {index : Nat} {call : Ingest Uuid × IngestRoutine Uuid Amps}
    (tasks : after.tasks = pool.tasks.set index call) {i : Nat} {sync : SyncPayload Uuid}
    (between : Between after i sync) :
    (i = index ∧ call.2 = showing sync) ∨ (i ≠ index ∧ Between pool i sync) := by
  obtain ⟨ingest, found⟩ := between
  rw [tasks, List.getElem?_set] at found
  split at found
  · rename_i same
    split at found
    · obtain rfl := Option.some.inj found
      exact .inl ⟨same.symm, rfl⟩
    · cases found
  · rename_i other
    exact .inr ⟨Ne.symm other, ingest, found⟩

omit [DecidableEq Uuid] [IdText Uuid] in
theorem OneAhead.of_same {pool pool' : IngestPool Uuid Amps} (ahead : OneAhead pool)
    (state : pool'.state = pool.state)
    (same : ∀ i sync, Between pool' i sync ↔ Between pool i sync) : OneAhead pool' := by
  refine ⟨?_, ?_, ?_⟩
  · intro i j sync₁ sync₂ first second
    exact ahead.one i j sync₁ sync₂ ((same _ _).mp first) ((same _ _).mp second)
  · intro i sync between
    rw [state]
    exact ahead.brings i sync ((same _ _).mp between)
  · intro noneAhead
    rw [state]
    exact ahead.settled fun i sync between => noneAhead i sync ((same _ _).mpr between)

theorem between_arrive (pool : IngestPool Uuid Amps) (ingest : Ingest Uuid) (i : Nat) (sync : SyncPayload Uuid) :
    Between ((service parseRfc3339).step pool (.arrive ingest)).1 i sync ↔ Between pool i sync := by
  constructor
  · rintro ⟨other, found⟩
    rw [Service.tasks_arrive] at found
    rcases Nat.lt_or_ge i pool.tasks.length with within | beyond
    · rw [List.getElem?_append_left within] at found
      exact ⟨other, found⟩
    · rw [List.getElem?_append_right beyond] at found
      have isNew := List.mem_singleton.mp (List.mem_of_getElem? found)
      exact absurd (congrArg Prod.snd isNew).symm (serve_ne_showing ingest sync)
  · rintro ⟨other, found⟩
    have within := (List.getElem?_eq_some_iff.mp found).1
    refine ⟨other, ?_⟩
    rw [Service.tasks_arrive, List.getElem?_append_left within]
    exact found

theorem OneAhead.step {log : List (Note Uuid)} {pool : IngestPool Uuid Amps} (book : Book parseRfc3339 log pool)
    (ahead : OneAhead pool) {event : Service.Event (Ingest Uuid)} (uncrossed : Uncrossed pool event)
    (named : ∀ call ∈ pool.tasks, call.1.NamesTools) : OneAhead ((service parseRfc3339).step pool event).1 := by
  cases event with
  | arrive ingest => exact ahead.of_same rfl (between_arrive parseRfc3339 pool ingest)
  | step index =>
    rcases found : pool.tasks[index]? with _ | ⟨ingest, routine⟩
    · rw [(service parseRfc3339).step_of_none found]
      exact ahead
    · have stage := book.stages _ (List.mem_of_getElem? found)
      have names := named _ (List.mem_of_getElem? found)
      obtain ⟨state, tasks⟩ := (service parseRfc3339).tasks_step found
      cases stage.stepped (c := pool.state) with
      | keeps sync waiting next view kept same noted =>
        subst waiting
        have alone := uncrossed index ingest rfl found
        have onlyHere : ∀ i sync', Between ((service parseRfc3339).step pool (.step index)).1 i sync' →
            i = index ∧ sync' = sync := by
          intro i sync' between
          rcases between_set tasks between with ⟨here, shows⟩ | ⟨-, before⟩
          · have both : showing sync = showing sync' := next.symm.trans shows
            exact ⟨here, by cases both; rfl⟩
          · exact absurd before (alone i sync')
        refine ⟨?_, ?_, ?_⟩
        · intro i j sync₁ sync₂ first second
          rw [(onlyHere i sync₁ first).1, (onlyHere j sync₂ second).1]
        · intro i sync' between
          rw [(onlyHere i sync' between).2, state, view, ← keptView_eq_shownView parseRfc3339 names]
          exact kept.symm
        · intro noneAhead
          refine absurd ⟨ingest, ?_⟩ (noneAhead index sync)
          have bound := (List.getElem?_eq_some_iff.mp found).1
          rw [tasks, List.getElem?_set_self bound]
          exact congrArg (fun routine => some (ingest, routine)) next
      | drops idle next noted =>
        have unchanged : ((service parseRfc3339).step pool (.step index)).1.state = pool.state :=
          state.trans (congrArg Prod.fst next)
        have before : ∀ i sync, Between ((service parseRfc3339).step pool (.step index)).1 i sync →
            Between pool i sync := by
          intro i sync between
          rcases between_set tasks between with ⟨-, shows⟩ | ⟨-, before⟩
          · cases (congrArg Prod.snd next).symm.trans shows
          · exact before
        have after : ∀ i sync, Between pool i sync →
            Between ((service parseRfc3339).step pool (.step index)).1 i sync := by
          rintro i sync ⟨other, there⟩
          refine ⟨other, ?_⟩
          rw [tasks, List.getElem?_set_ne ?_]
          · exact there
          · rintro rfl
            rw [found] at there
            exact idle sync (Prod.mk.inj (Option.some.inj there)).2
        exact ahead.of_same unchanged fun i sync => ⟨before i sync, after i sync⟩
      | shows sync between view =>
        subst between
        have here : Between pool index sync := ⟨ingest, found⟩
        have noneAhead : ∀ i sync', ¬ Between ((service parseRfc3339).step pool (.step index)).1 i sync' := by
          intro i sync' between
          rcases between_set tasks between with ⟨-, shows⟩ | ⟨other, before⟩
          · cases shows
          · exact other (ahead.one i index sync' sync before here)
        refine ⟨fun i j sync₁ sync₂ first => absurd first (noneAhead i sync₁), fun i sync' between =>
          absurd between (noneAhead i sync'), fun _ => ?_⟩
        rw [state]
        exact ahead.brings index sync here

theorem named_step {pool : IngestPool Uuid Amps} {event : Service.Event (Ingest Uuid)}
    (named : ∀ call ∈ pool.tasks, call.1.NamesTools) (asked : ∀ ingest, event = .arrive ingest → ingest.NamesTools) :
    ∀ call ∈ ((service parseRfc3339).step pool event).1.tasks, call.1.NamesTools := by
  cases event with
  | arrive ingest => exact (service parseRfc3339).all_tasks_arrive named (asked ingest rfl)
  | step index =>
    rcases found : pool.tasks[index]? with _ | ⟨ingest, routine⟩
    · rw [(service parseRfc3339).step_of_none found]
      exact named
    · exact (service parseRfc3339).all_tasks_step found named (named (ingest, routine) (List.mem_of_getElem? found))

/-- A cache before any payload, and what it does under a schedule of calls. -/
def ingesting (wiring : ModuleState) (digester : Option CardDigester) (power : PowerState Amps) :
    Machine (IngestPool Uuid Amps) (Service.Event (Ingest Uuid))
      (Option (Service.Performed (IngestWrite Uuid) (Ingest Uuid))) :=
  (service parseRfc3339).machine (Delivery.unfed wiring ⟨none, digester⟩ power)

variable (wiring : ModuleState) (digester : Option CardDigester) (power : PowerState Amps)

theorem book_run (schedule : List (Service.Event (Ingest Uuid))) :
    let m := ingesting parseRfc3339 wiring digester power
    Book parseRfc3339 (m.history (watch parseRfc3339) schedule) (m.run schedule) := by
  intro m
  induction schedule using List.reverseRecOn with
  | nil => exact ⟨rfl, rfl, fun call member => absurd member List.not_mem_nil⟩
  | append_singleton past event ih =>
    rw [Machine.history_snoc, Machine.run_snoc]
    exact ih.step parseRfc3339 event

theorem oneAhead_run {schedule : List (Service.Event (Ingest Uuid))}
    (uncrossed : EveryStep (fun past event => Uncrossed ((ingesting parseRfc3339 wiring digester power).run past)
      event)
      schedule)
    (asked : ∀ ingest, .arrive ingest ∈ schedule → ingest.NamesTools) :
    let pool := (ingesting parseRfc3339 wiring digester power).run schedule
    OneAhead pool ∧ ∀ call ∈ pool.tasks, call.1.NamesTools := by
  intro pool
  induction schedule using List.reverseRecOn with
  | nil =>
    have noTasks : ∀ i sync, ¬ Between pool i sync := by
      rintro i sync ⟨ingest, found⟩
      cases found
    exact ⟨⟨fun i j sync _ first => absurd first (noTasks i sync),
      fun i sync between => absurd between (noTasks i sync), fun _ => rfl⟩,
        fun call member => absurd member List.not_mem_nil⟩
  | append_singleton past event ih =>
    obtain ⟨before, here⟩ := EveryStep.snoc_iff.mp uncrossed
    obtain ⟨ahead, named⟩ := ih before fun ingest member => asked ingest (List.mem_append_left _ member)
    have book := book_run parseRfc3339 wiring digester power past
    unfold pool
    rw [Machine.run_snoc]
    refine ⟨ahead.step parseRfc3339 book here named, named_step parseRfc3339 named ?_⟩
    rintro ingest rfl
    exact asked ingest (by simp)

/-- The kiosk's view is in step with the policy exactly when the payload last written to the
one says the same as the payload last written to the other; so once all calls have
returned it is, if no call wrote the policy while another stood between its two writes. -/
theorem kiosk_in_step_iff (schedule : List (Service.Event (Ingest Uuid))) :
    let m := ingesting parseRfc3339 wiring digester power
    let pool := m.run schedule
    let log := m.history (watch parseRfc3339) schedule
    (pool.state.InStep ↔
      ((lastShown log).map (shownView parseRfc3339)).getD ([], []) =
        ((lastKept log).map (keptView parseRfc3339)).getD ([], [])) ∧
    (EveryStep (fun past event => Uncrossed (m.run past) event) schedule →
      (∀ ingest, .arrive ingest ∈ schedule → ingest.NamesTools) →
      (∀ call ∈ pool.tasks, call.2 = .done ()) → pool.state.InStep) := by
  intro m pool log
  have book : Book parseRfc3339 log pool := book_run parseRfc3339 wiring digester power schedule
  constructor
  · unfold ResourceCache.InStep
    rw [book.kept, book.shown]
  · intro uncrossed asked returned
    obtain ⟨ahead, -⟩ := oneAhead_run parseRfc3339 wiring digester power uncrossed asked
    refine ahead.settled ?_
    rintro i sync ⟨ingest, found⟩
    have done := returned _ (List.mem_of_getElem? found)
    cases done

section
/-- Two policies for one device, the second naming a member the first does not. -/
def bobPolicy : ResourcePolicyPayload := ⟨"", "", "", [], [⟨"b0b", "Bob", true, []⟩]⟩

def annPolicy : ResourcePolicyPayload := ⟨"", "", "", [], [⟨"a22", "Ann", true, []⟩]⟩

/-- Bob's is kept, then Ann's is kept and shown, and last of all Bob's is shown. -/
def crossing : List (Service.Event (Ingest HexId)) :=
  [.arrive (.policy bobPolicy), .arrive (.policy annPolicy), .step 0, .step 1, .step 1, .step 0]

def crossed : IngestPool HexId Int := (ingesting (fun _ => none) .new none .new).run crossing

theorem crossed_ingests_leave_kiosk_behind :
    let pool := crossed
    pool.tasks.length = 2 ∧ (∀ call ∈ pool.tasks, call.2 = .done ()) ∧
      pool.state.policy.view = ([], [⟨"a22", "Ann", true, []⟩]) ∧
      pool.state.allowList.view = ([], [⟨"b0b", "Bob", true, []⟩]) ∧ ¬ pool.state.InStep := by
  intro pool
  have tasks : pool.tasks = [(.policy bobPolicy, .done ()), (.policy annPolicy, .done ())] := rfl
  have policy : pool.state.policy.view = ([], [⟨"a22", "Ann", true, []⟩]) := rfl
  have shown : pool.state.allowList.view = ([], [⟨"b0b", "Bob", true, []⟩]) := rfl
  refine ⟨by rw [tasks]; rfl, ?_, policy, shown, ?_⟩
  · intro call member
    rw [tasks] at member
    rcases List.mem_pair.mp member with rfl | rfl <;> rfl
  · unfold ResourceCache.InStep
    rw [policy, shown]
    decide

end

end Ingest

end CoopSpaces

import CoopSpaces.Server.Settlements
import CoopSpaces.Server.WorkshopService

namespace CoopSpaces

/-- What is kept of one resource: a tool's status, its billing sessions with what was reported of
them, and its events; a door's sessions and its access events. -/
structure ResourceRecord (Uuid : Type) where
  status : Option ToolStatus
  billing : Uuid → Option (ToolUsageSession Uuid)
  events : List (ToolEvent Uuid)
  rooms : List (ResourceSession Uuid)
  access : List (DoorAccessEvent Uuid)

namespace BillingTables
variable {Uuid : Type} [DecidableEq Uuid] (s : BillingTables Uuid)

/-- The rows of a tool's sessions. -/
def sessionsOf (toolId id : Uuid) : Option (ToolUsageSession Uuid) :=
  (s.sessions.lookup id).filter fun row => row.toolId = toolId

variable {s}

theorem sessionsOf_eq_some {toolId id : Uuid} {row : ToolUsageSession Uuid} :
    s.sessionsOf toolId id = some row ↔ s.sessions.lookup id = some row ∧ row.toolId = toolId := by
  unfold sessionsOf
  rw [Option.filter_eq_some_iff, decide_eq_true_eq]

theorem sessionsOf_insert {toolId id : Uuid} {row : ToolUsageSession Uuid} {t : BillingTables Uuid}
    (sessions : t.sessions = s.sessions.insert id row) (other : row.toolId ≠ toolId)
    (before : ∀ old, s.sessions.lookup id = some old → old.toolId ≠ toolId) :
    t.sessionsOf toolId = s.sessionsOf toolId := by
  funext key
  unfold sessionsOf
  rw [sessions]
  by_cases same : key = id
  · subst same
    rw [AList.lookup_insert]
    have after : (some row).filter (fun row => decide (row.toolId = toolId)) = none := by simp [other]
    rw [after]
    symm
    rw [Option.filter_eq_none_iff]
    intro old there named
    exact before old there (of_decide_eq_true named)
  · rw [AList.lookup_insert_ne same]

theorem sessionsOf_updateOpen {toolId id : Uuid} {edit : ToolUsageSession Uuid → ToolUsageSession Uuid}
    (kept : ∀ row, (edit row).toolId = row.toolId) (other : ∀ row, s.sessions.lookup id = some row →
      row.toolId ≠ toolId) :
    (s.updateOpen id edit).1.sessionsOf toolId = s.sessionsOf toolId := by
  unfold updateOpen
  split
  · rfl
  · rename_i row found
    split
    · have apart : (edit row).toolId ≠ toolId := by
        rw [kept]
        exact other row found
      exact sessionsOf_insert rfl apart other
    · rfl

end BillingTables

namespace Workshop
variable {Uuid Json : Type} [LinearOrder Uuid] (rules : WorkshopRules Json) (w : Workshop Uuid Json)

def record (r : Uuid) : ResourceRecord Uuid where
  status := w.statusOf r
  billing := w.site.billing.sessionsOf r
  events := w.toolEvents.filter fun event => event.toolId = r
  rooms := w.resourceSessions.filter fun session => session.resourceId = r
  access := w.doorAccessEvents.filter fun event => event.doorId = r

/-- A statement that does not name the resource, nor a session of it. -/
def Spares (r : Uuid) : WorkshopStatement Uuid → Prop
  | .bill (.insertToolSession _ row) => row.toolId ≠ r
  | .bill (.addReportedSeconds id _ _) => ∀ row, w.site.billing.sessions.lookup id = some row → row.toolId ≠ r
  | .bill (.addReportedActiveSeconds id _) => ∀ row, w.site.billing.sessions.lookup id = some row → row.toolId ≠ r
  | .bill (.settleToolSession id _ _ _ _) => ∀ row, w.site.billing.sessions.lookup id = some row → row.toolId ≠ r
  | .bill (.edit _) => False
  | .updateToolStatus toolId _ => toolId ≠ r
  | .tryActivateTool toolId => toolId ≠ r
  | .updateTool .. => False
  | .createToolEvent toolId _ _ _ _ => toolId ≠ r
  | .insertDoorAccessEvent event => event.doorId ≠ r
  | .openResourceSession resourceId _ _ => resourceId ≠ r
  | .closeResourceSession resourceId _ => resourceId ≠ r
  | _ => True

variable {rules w} {r : Uuid}

theorem statusOf_setToolStatus (toolId : Uuid) (status : ToolStatus) (r : Uuid) :
    (w.setToolStatus toolId status).statusOf r = if r = toolId then (w.statusOf r).map fun _ => status
    else w.statusOf r := by
  unfold statusOf setToolStatus
  dsimp only
  rw [List.find?_map, Option.map_map, Option.map_map]
  have keeps : (fun tool : Tool Uuid => decide (tool.id = r)) ∘
      (fun tool => if tool.id = toolId then { tool with status } else tool) = fun tool => decide (tool.id = r) := by
    funext tool
    rw [Function.comp_apply]
    split
    · rfl
    · rfl
  rw [keeps]
  split
  · rename_i same
    refine Option.map_congr fun tool found => ?_
    have fits := List.find?_some found
    have here : tool.id = r := of_decide_eq_true fits
    rw [Function.comp_apply, if_pos (here.trans same)]
    rfl
  · rename_i other
    refine Option.map_congr fun tool found => ?_
    have fits := List.find?_some found
    have here : tool.id = r := of_decide_eq_true fits
    rw [Function.comp_apply, if_neg fun same => other (here.symm.trans same)]

theorem record_setToolStatus {toolId : Uuid} (other : toolId ≠ r) (status : ToolStatus) :
    (w.setToolStatus toolId status).record r = w.record r := by
  unfold record
  rw [statusOf_setToolStatus, if_neg (Ne.symm other)]
  rfl

theorem record_bill {change : BillingWrite Uuid} (spared : w.Spares r (.bill change)) (cause : Cause Uuid) :
    (w.perform rules ⟨cause, .bill change⟩).1.record r = w.record r := by
  have sessions : (w.site.billing.perform (SyncTables.arithmetic rules.sync) change).1.sessionsOf r =
      w.site.billing.sessionsOf r := by
    cases change with
    | insertToolSession id row =>
      simp only [BillingTables.perform]
      split
      · rfl
      · rename_i fresh
        split
        · rfl
        · refine BillingTables.sessionsOf_insert rfl spared fun old there => ?_
          rw [there] at fresh
          exact absurd rfl fresh
    | addReportedSeconds id seconds sensed =>
      refine BillingTables.sessionsOf_updateOpen (fun row => ?_) spared
      unfold ToolUsageSession.addReported
      split
      · rfl
      · rfl
    | addReportedActiveSeconds id seconds => exact BillingTables.sessionsOf_updateOpen (fun _ => rfl) spared
    | settleToolSession id reported charged ledgerEntry status =>
      exact BillingTables.sessionsOf_updateOpen (fun _ => rfl) spared
    | insertLedgerEntry entry =>
      rcases perform_insertLedgerEntry (SyncTables.arithmetic rules.sync) w.site.billing entry
        with ⟨e, refused⟩ | posted
      · rw [refused]
      · rw [posted]
        rfl
    | setMembershipNextDue userId next =>
      simp only [BillingTables.perform]
      split
      · rfl
      · rfl
    | applyRole userId entitled => rfl
    | edit edit => exact spared.elim
  exact congrArg (fun billing => { w.record r with billing }) sessions

/-- Whatever does not name a resource leaves all that is kept of it as it is. -/
theorem record_of_spares {change : WorkshopWrite Uuid} (spared : w.Spares r change.statement) :
    (w.perform rules change).1.record r = w.record r := by
  obtain ⟨cause, statement⟩ := change
  cases statement with
  | bill change => exact record_bill spared cause
  | updateToolStatus toolId status =>
    simp only [perform, execute]
    split
    · exact record_setToolStatus spared status
    · rfl
  | tryActivateTool toolId =>
    simp only [perform, execute]
    split
    · exact record_setToolStatus spared .inUse
    · rfl
  | updateTool toolId status billed => exact spared.elim
  | createToolEvent toolId eventType oldStatus newStatus userId =>
    simp only [perform, execute]
    split
    · have events : (w.toolEvents ++
        [(⟨toolId, eventType, oldStatus, newStatus, userId, w.clock⟩ : ToolEvent Uuid)]).filter
          (fun event => decide (event.toolId = r)) = w.toolEvents.filter fun event => decide (event.toolId = r) := by
        have apart : ¬ toolId = r := spared
        simp [apart]
      exact congrArg (fun events => { w.record r with events }) events
    · rfl
  | insertDoorAccessEvent event =>
    simp only [perform, execute]
    split
    · have access : (w.doorAccessEvents ++ [event]).filter (fun event => decide (event.doorId = r)) =
          w.doorAccessEvents.filter fun event => decide (event.doorId = r) := by
        have apart : ¬ event.doorId = r := spared
        simp [apart]
      exact congrArg (fun access => { w.record r with access }) access
    · rfl
  | openResourceSession resourceId userId deviceId =>
    simp only [perform, execute]
    split
    · rfl
    · split
      · have rooms : (w.resourceSessions ++
          [(⟨resourceId, userId, deviceId, w.clock, none, none⟩ : ResourceSession Uuid)]).filter
            (fun session => decide (session.resourceId = r)) =
              w.resourceSessions.filter fun session => decide (session.resourceId = r) := by
          have apart : ¬ resourceId = r := spared
          simp [apart]
        exact congrArg (fun rooms => { w.record r with rooms }) rooms
      · rfl
  | closeResourceSession resourceId closedBy =>
    have rooms : (w.resourceSessions.map fun session =>
        if decide (session.resourceId = resourceId) && session.closedAt.isNone then
          { session with closedAt := some w.clock, closedBy := some closedBy } else session).filter
        (fun session => decide (session.resourceId = r)) = w.resourceSessions.filter fun session =>
          decide (session.resourceId = r) := by
      have apart : ¬ resourceId = r := spared
      induction w.resourceSessions with
      | nil => rfl
      | cons session rest ih =>
        rw [List.map_cons, List.filter_cons, List.filter_cons, ih]
        by_cases here : session.resourceId = r
        · have open_ : (decide (session.resourceId = resourceId) && session.closedAt.isNone) = false := by
            rw [here, decide_eq_false (Ne.symm apart), Bool.false_and]
          rw [open_]
          rfl
        · have away : (if decide (session.resourceId = resourceId) && session.closedAt.isNone then
              { session with closedAt := some w.clock, closedBy := some closedBy } else session).resourceId =
                session.resourceId := by
            split
            · rfl
            · rfl
          rw [away, decide_eq_false here]
          rfl
    exact congrArg (fun rooms => { w.record r with rooms }) rooms
  | touchDeviceLastSeen deviceId =>
    simp only [perform, execute]
    split
    · rfl
    · rfl
  | upsertToolPowerState toolId draw => rfl
  | engageToolLockout toolId reason => rfl
  | evaluateCircuitOverages => rfl
  | setSessionGrace minutes => rfl
  | tick micros => rfl

/-- No statement changes what devices are bound to, nor the tool of a session. -/
structure Follows (s t : Workshop Uuid Json) : Prop where
  bindings : t.site.bindings = s.site.bindings
  sessions : ∀ id row, s.site.billing.sessions.lookup id = some row →
    ∃ row', t.site.billing.sessions.lookup id = some row' ∧ row'.toolId = row.toolId

theorem Follows.refl (s : Workshop Uuid Json) : Follows s s := ⟨rfl, fun _ row found => ⟨row, found, rfl⟩⟩

theorem Follows.trans {s t u : Workshop Uuid Json} (first : Follows s t) (second : Follows t u) : Follows s u := by
  refine ⟨second.bindings.trans first.bindings, fun id row found => ?_⟩
  obtain ⟨row', found', same'⟩ := first.sessions id row found
  obtain ⟨row'', found'', same''⟩ := second.sessions id row' found'
  exact ⟨row'', found'', same''.trans same'⟩

theorem follows_of_billing {s t : Workshop Uuid Json} (bindings : t.site.bindings = s.site.bindings)
    (sessions : t.site.billing.sessions = s.site.billing.sessions) : Follows s t := by
  refine ⟨bindings, fun id row found => ⟨row, ?_, rfl⟩⟩
  rw [sessions]
  exact found

theorem follows_bill (s : Workshop Uuid Json) (change : BillingWrite Uuid) :
    Follows s (s.billing rules change).1 := by
  refine ⟨rfl, fun id row found => ?_⟩
  have after : (s.billing rules change).1.site.billing =
      (s.site.billing.perform (SyncTables.arithmetic rules.sync) change).1 := rfl
  rw [after]
  rcases left : (s.site.billing.perform (SyncTables.arithmetic rules.sync) change).1.sessions.lookup id with _ | row'
  · have absent := BillingTables.absent_of_perform (SyncTables.arithmetic rules.sync) left
    cases absent.symm.trans found
  · refine ⟨row', rfl, ?_⟩
    cases BillingTables.rowAfter_perform (SyncTables.arithmetic rules.sync) left with
    | kept tierId there idle => rw [Option.some.inj (there.symm.trans found)]
    | opened absent => cases absent.symm.trans found
    | reported there isOpen =>
      rw [Option.some.inj (there.symm.trans found)]
      unfold ToolUsageSession.addReported
      split
      · rfl
      · rfl
    | worked there isOpen => rw [Option.some.inj (there.symm.trans found)]
    | closed there isOpen => rw [Option.some.inj (there.symm.trans found)]

theorem follows_perform (s : Workshop Uuid Json) (change : WorkshopWrite Uuid) :
    Follows s (s.perform rules change).1 := by
  by_cases elsewhere : change.statement.ofSite = false
  · have same := s.site_perform rules elsewhere
    exact follows_of_billing (congrArg SyncTables.bindings same) (congrArg (fun site => site.billing.sessions) same)
  obtain ⟨cause, statement⟩ := change
  cases statement with
  | bill change => exact follows_bill s change
  | updateTool toolId status billed =>
    simp only [perform, execute]
    split
    · exact .refl s
    · split
      · exact follows_of_billing rfl rfl
      · exact (follows_of_billing rfl rfl : Follows s (s.setToolStatus toolId _)).trans (follows_bill _ _)
  | updateToolStatus toolId status =>
    simp only [perform, execute]
    split
    · exact follows_of_billing rfl rfl
    · exact .refl s
  | tryActivateTool toolId =>
    simp only [perform, execute]
    split
    · exact follows_of_billing rfl rfl
    · exact .refl s
  | _ => exact absurd rfl elsewhere

/-- A change that names no resource but this one. -/
def Only (x : Uuid) (t : Workshop Uuid Json) (change : WorkshopWrite Uuid) : Prop :=
  ∀ r, r ≠ x → t.Spares r change.statement

theorem Follows.tool_of_found {s t : Workshop Uuid Json} (moved : Follows s t) {toolId id : Uuid}
    {session : ToolUsageSession Uuid}
    (found : s.site.billed.openToolSessionForTool toolId = some (id, session)) {r : Uuid} (other : r ≠ toolId)
    {row : ToolUsageSession Uuid} (there : t.site.billing.sessions.lookup id = some row) : row.toolId ≠ r := by
  obtain ⟨before, same, -⟩ := lookup_of_openToolSession found
  obtain ⟨row', found', kept⟩ := moved.sessions id session before
  obtain rfl := Option.some.inj (there.symm.trans found')
  rw [kept, same]
  exact Ne.symm other

end Workshop

namespace WorkshopRoutine
open Workshop
variable {Uuid Json Answer Other : Type} [LinearOrder Uuid] (rules : WorkshopRules Json)

/-- Whatever the others do meanwhile, the routine names no resource but one. -/
def KeepsTo (x : Uuid) (routine : WorkshopRoutine Uuid Json Answer) : Prop :=
  ∀ s, routine.Relies (Workshop.perform rules) Follows (Only x) s

variable {rules} {x : Uuid}

theorem KeepsTo.bind {routine : WorkshopRoutine Uuid Json Answer} {f : Answer → WorkshopRoutine Uuid Json Other}
    (first : KeepsTo rules x routine) (rest : ∀ answer, KeepsTo rules x (f answer)) :
    KeepsTo rules x (routine.bind f) :=
  fun s => (first s).bind fun answer t => rest answer t

theorem keepsTo_done (answer : Answer) : KeepsTo rules x (.done answer : WorkshopRoutine Uuid Json Answer) :=
  fun _ => trivial

theorem keepsTo_read {next : Workshop Uuid Json → WorkshopRoutine Uuid Json Answer}
    (rest : ∀ w, KeepsTo rules x (next w)) :
    KeepsTo rules x (.read next) := fun _ t _ => rest t t

theorem keepsTo_write {change : WorkshopWrite Uuid} {next : Except DbError Nat → WorkshopRoutine Uuid Json Answer}
    (only : ∀ t : Workshop Uuid Json, Only x t change) (rest : ∀ reply, KeepsTo rules x (next reply)) :
    KeepsTo rules x (.write change next) := fun _ t _ => ⟨only t, rest _ _⟩

theorem keepsTo_sending {cause : Cause Uuid} {statement : WorkshopStatement Uuid} {refused : DbError → ApiError}
    {next : Nat → WorkshopRoutine Uuid Json WorkshopAnswer}
    (only : ∀ t : Workshop Uuid Json, Only x t ⟨cause, statement⟩)
    (rest : ∀ n, KeepsTo rules x (next n)) : KeepsTo rules x (sending cause statement refused next) := by
  refine keepsTo_write only fun reply => ?_
  cases reply with
  | ok n => exact rest n
  | error e => exact keepsTo_done _

theorem keepsTo_openLoaded (now : Int) (id userId toolId : Uuid) (row : BilledTool) (cause : Cause Uuid) :
    KeepsTo rules toolId (billed cause
      (BillingRequest.openLoaded (SyncTables.arithmetic rules.sync) now id userId toolId row)) := by
  refine keepsTo_read fun s => ?_
  dsimp only
  split
  · exact keepsTo_done _
  · refine keepsTo_read fun s => keepsTo_read fun s => ?_
    dsimp only
    split
    · exact keepsTo_done _
    · refine keepsTo_read fun s => keepsTo_read fun s => keepsTo_read fun s => ?_
      dsimp only
      split
      · exact keepsTo_done _
      · refine keepsTo_read fun s => keepsTo_write (fun t r other => Ne.symm other) fun reply => ?_
        rcases reply with e | n
        · exact keepsTo_done _
        · exact keepsTo_done _

theorem keepsTo_usage (toolId : Uuid) (seconds : Option Rat) (activeSeconds : Option (Option Rat))
    (cause : Cause Uuid) :
    KeepsTo rules toolId (billed cause (BillingRequest.usage toolId seconds activeSeconds)) := by
  unfold BillingRequest.usage
  split
  · exact keepsTo_done _
  · rename_i reported _
    intro first s _
    dsimp only
    split
    · trivial
    · rename_i id session found
      generalize BillingRequest.thousandths reported = figure
      intro t moved
      have first_ : Only toolId t ⟨cause, .bill (.addReportedSeconds id figure activeSeconds.isSome)⟩ :=
        fun r other row there => moved.tool_of_found found other there
      refine ⟨first_, ?_⟩
      have further : Follows s (Workshop.perform rules t
          ⟨cause, .bill (.addReportedSeconds id figure activeSeconds.isSome)⟩).1 :=
        moved.trans (follows_perform t _)
      rcases (Workshop.perform rules t
        ⟨cause, .bill (.addReportedSeconds id figure activeSeconds.isSome)⟩).2 with e | n
      · trivial
      · dsimp only
        split
        · trivial
        · intro u later
          refine ⟨fun r other row there => (further.trans later).tool_of_found found other there, ?_⟩
          rcases (Workshop.perform rules u _).2 with e | n
          · trivial
          · trivial

theorem keepsTo_settleLoaded (now : Int) (toolId : Uuid) (tool : BilledTool) (abandoned : Bool) (cause : Cause Uuid) :
    KeepsTo rules toolId (billed cause
      (BillingRequest.settleLoaded (SyncTables.arithmetic rules.sync) now toolId tool abandoned)) := by
  intro first s _
  dsimp only
  split
  · trivial
  · rename_i id session found
    have closes :
      ∀ (reported : Option Rat) (charged : Rat) (posted : Option Nat) (status : SessionStatus) (t : Workshop Uuid
        Json)
        (next : Except DbError Nat → WorkshopRoutine Uuid Json (BillingAnswer Uuid)), Follows s t →
        (∀ reply u, (next reply).Relies (Workshop.perform rules) Follows (Only toolId) u) →
        (Routine.write ⟨cause, .bill (.settleToolSession id reported charged posted status)⟩ next).Relies
          (Workshop.perform rules)
          Follows (Only toolId) t := by
      intro reported charged posted status t next moved rest u later
      exact ⟨fun r other row there => (moved.trans later).tool_of_found found other there, rest _ _⟩
    intro t moved u further
    dsimp only
    have there := moved.trans further
    split
    · refine closes _ _ _ _ u _ there fun reply _ => ?_
      rcases reply with e | n
      · trivial
      · trivial
    · intro v later
      refine ⟨fun r other => trivial, ?_⟩
      have after : ∀ change : WorkshopWrite Uuid, Follows s (Workshop.perform rules v change).1 :=
        fun change => (there.trans later).trans (follows_perform v change)
      rcases (Workshop.perform rules v _).2 with e | entry
      · cases e with
        | uniqueViolation =>
          refine closes _ _ _ _ _ _ (after _) fun reply _ => ?_
          rcases reply with e | n
          · trivial
          · trivial
        | notFound => trivial
        | foreignKeyViolation => trivial
        | checkViolation => trivial
        | unrepresentableText => trivial
        | unavailable => trivial
      · refine closes _ _ _ _ _ _ (after _) fun reply _ => ?_
        rcases reply with e | n
        · trivial
        · trivial

variable (tool : LoadedTool Uuid)

theorem keepsTo_settleMetered (abandoned : Bool) :
    KeepsTo rules tool.tool.id (settleMetered rules tool abandoned) := by
  unfold settleMetered
  split
  · exact keepsTo_read fun w => (keepsTo_settleLoaded w.clock tool.tool.id tool.billed abandoned .plain).bind
      fun _ => keepsTo_done _
  · exact keepsTo_done _

theorem keepsTo_createToolEvent {eventType : String} {oldStatus newStatus : Option ToolStatus} {userId : Option Uuid}
    {refused : DbError → ApiError} {next : Nat → WorkshopRoutine Uuid Json WorkshopAnswer}
    (rest : ∀ n, KeepsTo rules tool.tool.id (next n)) :
    KeepsTo rules tool.tool.id
      (sending .plain (.createToolEvent tool.tool.id eventType oldStatus newStatus userId) refused next) :=
  keepsTo_sending (fun _ _ other => Ne.symm other) rest

theorem keepsTo_start (userId : Uuid) : KeepsTo rules tool.tool.id (start rules tool userId) := by
  refine keepsTo_sending (fun _ _ other => Ne.symm other) fun n => ?_
  split
  · exact keepsTo_done _
  · exact keepsTo_createToolEvent tool fun _ => keepsTo_done _

theorem keepsTo_signedOnUser : KeepsTo rules x (signedOnUser tool) := by
  refine keepsTo_read fun w => ?_
  split
  · exact keepsTo_read fun w => keepsTo_done _
  · split
    · refine keepsTo_read fun w => ?_
      split
      · exact keepsTo_read fun w => keepsTo_done _
      · exact keepsTo_done _
    · exact keepsTo_done _

theorem keepsTo_stopTool (userId : Option Uuid) : KeepsTo rules tool.tool.id (stopTool rules tool userId) := by
  refine keepsTo_sending (fun _ _ other => Ne.symm other) fun _ => ?_
  refine (keepsTo_settleMetered tool false).bind fun _ => ?_
  exact keepsTo_createToolEvent tool fun _ => keepsTo_done _

theorem keepsTo_usageLogged (member : Uuid) : KeepsTo rules tool.tool.id (usageLogged rules tool member) :=
  keepsTo_createToolEvent tool fun _ => keepsTo_done _

theorem keepsTo_recordUsage (report : UsageReport) (member : Uuid) (seen : List Uuid) :
    KeepsTo rules tool.tool.id (recordUsage rules tool report member seen) := by
  refine (keepsTo_usage tool.tool.id report.seconds report.activeSeconds _).bind fun answer => ?_
  split
  · exact keepsTo_usageLogged tool member
  · exact keepsTo_done _
  · exact keepsTo_done _

theorem keepsTo_logUsage (report : UsageReport) (member : Uuid) (seen : List Uuid) :
    KeepsTo rules tool.tool.id (logUsage rules tool report member seen) := by
  unfold logUsage
  split
  · refine keepsTo_read fun w => ?_
    split
    · exact keepsTo_recordUsage tool report member seen
    · split
      · exact keepsTo_done _
      · exact keepsTo_recordUsage tool report member _
  · exact keepsTo_usageLogged tool member

theorem keepsTo_deactivateTool (card : Option String) :
    KeepsTo rules tool.tool.id (deactivateTool rules (some tool) card) := by
  have cardless : KeepsTo rules tool.tool.id ((signedOnUser tool).bind fun found => stopTool rules tool found.1) :=
    (keepsTo_signedOnUser tool).bind fun found => keepsTo_stopTool tool found.1
  unfold deactivateTool
  dsimp only
  split
  · exact cardless
  · refine keepsTo_read fun w => ?_
    split
    · exact keepsTo_done _
    · exact keepsTo_done _
    · exact keepsTo_stopTool tool _
    · exact keepsTo_stopTool tool _

theorem keepsTo_reportToolUsage (report : UsageReport) :
    KeepsTo rules tool.tool.id (reportToolUsage rules (some tool) report) := by
  unfold reportToolUsage
  dsimp only
  split
  · refine keepsTo_read fun w => ?_
    split
    · exact keepsTo_done _
    · exact keepsTo_done _
    · exact keepsTo_logUsage tool report _ _
    · exact keepsTo_logUsage tool report _ _
  · refine (keepsTo_signedOnUser tool).bind fun found => ?_
    split
    · exact keepsTo_done _
    · exact keepsTo_logUsage tool report _ _

/-! Only resources the device is bound to. -/

/-- A change that names no resource the device is not bound to. -/
def Within (device : Uuid) (t : Workshop Uuid Json) (change : WorkshopWrite Uuid) : Prop :=
  ∀ r, t.deviceIsBoundToTool device r = false → t.Spares r change.statement

theorem KeepsTo.within {routine : WorkshopRoutine Uuid Json Answer} (keeps : KeepsTo rules x routine) {device : Uuid}
    {s : Workshop Uuid Json} (bound : s.deviceIsBoundToTool device x = true) :
    routine.Relies (Workshop.perform rules) Follows (Within device) s := by
  have lasts : ∀ s t : Workshop Uuid Json, Follows s t → s.deviceIsBoundToTool device x = true →
      t.deviceIsBoundToTool device x = true := by
    intro s t moved bound
    unfold deviceIsBoundToTool at bound ⊢
    rw [moved.bindings]
    exact bound
  have kept := fun (s : Workshop Uuid Json) (change : WorkshopWrite Uuid) =>
    lasts s _ (@follows_perform Uuid Json _ rules s change)
  refine (keeps s).knowing lasts kept (fun t change bound only r unbound => only r fun same => ?_) bound
  rw [same, bound] at unbound
  cases unbound

/-- Changes of when devices were heard and of what draws power, which no resource's record holds. -/
def NamesNone : WorkshopWrite Uuid → Prop
  | ⟨.plain, .touchDeviceLastSeen _⟩ => True
  | ⟨.plain, .upsertToolPowerState _ _⟩ => True
  | ⟨.plain, .engageToolLockout _ _⟩ => True
  | ⟨.plain, .evaluateCircuitOverages⟩ => True
  | _ => False

theorem spares_of_namesNone {change : WorkshopWrite Uuid} (none_ : NamesNone change) (t : Workshop Uuid Json)
    (r : Uuid) :
    t.Spares r change.statement := by
  unfold NamesNone at none_
  split at none_
  · trivial
  · trivial
  · trivial
  · trivial
  · exact none_.elim

omit [LinearOrder Uuid] in
theorem pulse_namesNone (subject : Uuid) :
    (pulse subject : WorkshopRoutine Uuid Json _).Meets (fun _ => True) NamesNone fun _ => True := by
  refine ⟨trivial, fun reply => ?_⟩
  rcases reply with e | n
  · trivial
  · dsimp only
    split
    · trivial
    · trivial

variable (device : Uuid)

theorem alive_namesNone (subject : Option Uuid) :
    (alive device subject : WorkshopRoutine Uuid Json _).Meets (fun _ => True) NamesNone fun _ => True := by
  unfold alive
  split
  · exact pulse_namesNone device
  · split
    · exact pulse_namesNone device
    · intro w _
      dsimp only
      split
      · exact pulse_namesNone _
      · trivial

omit [LinearOrder Uuid] in
theorem recordPower_namesNone (report : PowerReport Uuid) (tool : LoadedTool Uuid) :
    (recordPower report tool : WorkshopRoutine Uuid Json _).Meets (fun _ => True) NamesNone fun _ => True := by
  have last : ∀ statement : WorkshopStatement Uuid, NamesNone ⟨.plain, statement⟩ →
      (sending .plain statement .ofDb fun _ => respond (.okWithMessage "Power reported") : WorkshopRoutine
        Uuid Json _).Meets
        (fun _ => True) NamesNone fun _ => True := by
    intro statement none_
    refine ⟨none_, fun reply => ?_⟩
    rcases reply with e | n
    · trivial
    · trivial
  refine ⟨trivial, fun reply => ?_⟩
  rcases reply with e | n
  · trivial
  · dsimp only
    split
    · exact last _ trivial
    · exact last _ trivial

variable [IdText Uuid]

theorem keepsTo_activateTool (card : String) (sessionId : Uuid) :
    KeepsTo rules tool.tool.id (activateTool rules (some tool) card sessionId) := by
  refine keepsTo_read fun w => ?_
  split
  · exact keepsTo_done _
  · exact keepsTo_done _
  · exact keepsTo_done _
  · split
    · exact keepsTo_done _
    · dsimp only
      split
      · exact keepsTo_done _
      · refine keepsTo_read fun w => ?_
        split
        · exact keepsTo_done _
        · split
          · refine keepsTo_read fun w => ?_
            refine (keepsTo_openLoaded w.clock sessionId _ tool.tool.id tool.billed .plain).bind fun answer => ?_
            split
            · exact keepsTo_done _
            · exact keepsTo_done _
            · exact keepsTo_start tool _
          · exact keepsTo_start tool _

theorem keepsTo_scanDoor (device doorId : Uuid) (door : Door) (card : String) :
    KeepsTo rules doorId (scanDoor rules device doorId door card) := by
  unfold scanDoor
  split
  · exact keepsTo_done _
  · refine keepsTo_read fun w => ?_
    split
    · exact keepsTo_done _
    · refine keepsTo_read fun w => keepsTo_read fun w => ?_
      refine keepsTo_sending (fun _ _ other => Ne.symm other) fun _ => ?_
      split
      · exact keepsTo_done _
      · refine keepsTo_read fun w => ?_
        dsimp only
        split
        · exact keepsTo_sending (fun _ _ other => Ne.symm other) fun _ => keepsTo_done _
        · exact keepsTo_done _

theorem findTool_reads (id : String) :
    (findToolByToolguardId id : WorkshopRoutine Uuid Json _).Meets (fun _ => True) (fun _ => False) fun _ =>
    True := by
  intro w _
  dsimp only
  split
  · trivial
  · split
    · trivial
    · exact fun _ _ => trivial

theorem findResource_reads (id : String) :
    (findResource id : WorkshopRoutine Uuid Json _).Meets (fun _ => True) (fun _ => False) fun _ => True := by
  refine (findTool_reads id).bind fun found _ => ?_
  split
  · trivial
  · split
    · trivial
    · exact fun _ _ => trivial

theorem within_authorizeResource (id : String)
    {next : WorkshopResource Uuid → WorkshopRoutine Uuid Json WorkshopAnswer}
    (keeps : ∀ resource, KeepsTo rules resource.id (next resource)) (s : Workshop Uuid Json) :
    (authorizeResource device id next).Relies (Workshop.perform rules) Follows (Within device) s := by
  have finds : (findResource id : WorkshopRoutine Uuid Json _).Relies (Workshop.perform rules) Follows
      (Within device) s :=
    (findResource_reads id).relies (fun _ _ never => never.elim) s
  refine finds.bind fun found t => ?_
  split
  · trivial
  · intro u _
    dsimp only
    split
    · rename_i bound
      exact (keeps _).within bound
    · trivial

theorem within_scan (id card : String) (sessionId : Uuid) (s : Workshop Uuid Json) :
    (scan rules device id card sessionId).Relies (Workshop.perform rules) Follows (Within device) s := by
  refine within_authorizeResource device id (fun resource => ?_) s
  cases resource with
  | tool tool => exact keepsTo_activateTool tool card sessionId
  | door doorId door => exact keepsTo_scanDoor device doorId door card

theorem within_stop (id : String) (card : Option String) (s : Workshop Uuid Json) :
    (stop rules device id card).Relies (Workshop.perform rules) Follows (Within device) s := by
  refine within_authorizeResource device id (fun resource => ?_) s
  cases resource with
  | tool tool => exact keepsTo_deactivateTool tool card
  | door doorId door => exact keepsTo_sending (fun _ _ other => Ne.symm other) fun _ => keepsTo_done _

theorem within_usage (id : String) (report : UsageReport) (s : Workshop Uuid Json) :
    (usage rules device id report).Relies (Workshop.perform rules) Follows (Within device) s := by
  refine within_authorizeResource device id (fun resource => ?_) s
  cases resource with
  | tool tool => exact keepsTo_reportToolUsage tool report
  | door doorId door => exact keepsTo_done _

theorem authorizePowerReport_namesNone (id : String) (subject : Option Uuid)
    {next : WorkshopRoutine Uuid Json WorkshopAnswer} (meets : next.Meets (fun _ => True) NamesNone fun _ => True) :
    (authorizePowerReport device id subject next).Meets (fun _ => True) NamesNone fun _ => True := by
  have finds : (findToolByToolguardId id : WorkshopRoutine Uuid Json _).Meets (fun _ => True) NamesNone fun _ =>
      True :=
    (findTool_reads id).allowing fun _ never => never.elim
  have relayed : (relayPowerReport device id subject next).Meets (fun _ => True) NamesNone fun _ => True := by
    unfold relayPowerReport
    dsimp only
    split
    · trivial
    · refine finds.bind fun found _ => ?_
      split
      · trivial
      · intro w _ w' _
        dsimp only
        split
        · exact meets
        · split
          · trivial
          · trivial
  unfold authorizePowerReport
  split
  · exact meets
  · refine finds.bind fun found _ => ?_
    split
    · exact relayed
    · intro w _
      dsimp only
      split
      · exact meets
      · exact relayed

theorem powerReport_namesNone (report : PowerReport Uuid) :
    (powerReport device report : WorkshopRoutine Uuid Json _).Meets (fun _ => True) NamesNone fun _ => True := by
  have finds : (findToolByToolguardId (report.toolId.getD "") : WorkshopRoutine Uuid Json _).Meets (fun _ => True)
      NamesNone fun _ => True := (findTool_reads _).allowing fun _ never => never.elim
  unfold powerReport
  dsimp only
  refine authorizePowerReport_namesNone device _ report.deviceId ?_
  split
  · trivial
  · refine finds.bind fun found _ => ?_
    split
    · trivial
    · exact recordPower_namesNone report _
    · exact ⟨trivial, fun _ => recordPower_namesNone report _⟩

end WorkshopRoutine
end CoopSpaces

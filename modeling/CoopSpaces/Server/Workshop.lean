import CoopSpaces.Server.MoneyGates
import CoopSpaces.Server.Overages

namespace CoopSpaces

structure ToolEvent (Uuid : Type) where
  toolId : Uuid
  eventType : String
  oldStatus : Option ToolStatus
  newStatus : Option ToolStatus
  userId : Option Uuid
  createdAt : Int
  deriving DecidableEq

/-- A door, with the session profile of its resource and the pulse of its strike. -/
structure Door where
  enabled : Bool
  sessionProfile : String
  pulseMs : Int
  deriving DecidableEq

structure ResourceSession (Uuid : Type) where
  resourceId : Uuid
  userId : Option Uuid
  deviceId : Option Uuid
  openedAt : Int
  closedAt : Option Int
  closedBy : Option String
  deriving DecidableEq

structure DoorAccessEvent (Uuid : Type) where
  doorId : Uuid
  userId : Option Uuid
  method : String
  granted : Bool
  reason : Option String
  occurredAt : Int
  deriving DecidableEq

/-- The site's tables as its devices work on them, and the time. A tool's row is in `site.tools`,
its billing columns in `site.billing.tools`, its lockouts in the grid; `site.bindings` holds the
pairs that `bindingRoles` holds with their roles. -/
structure Workshop (Uuid Json : Type) where
  site : SyncTables Uuid Json
  grid : PowerGrid Uuid
  clock : Int
  sessionGraceMinutes : Int
  updatedAt : Uuid → Int
  toolEvents : List (ToolEvent Uuid)
  doors : Table Uuid Door
  resourceSessions : List (ResourceSession Uuid)
  doorAccessEvents : List (DoorAccessEvent Uuid)
  bindingRoles : List (Uuid × Uuid × String)
  lastSeenAt : Table Uuid (Option Int)
  commandKeys : Table Uuid (List UInt8)
  -- When each tool was last put in use. Nothing in the program keeps or reads it.
  inUseSince : Uuid → Int

/-- What is configured or comes from elsewhere: the sync rules, whether doors are served, how
decimals and database errors print, and the keyed hash of messages, in hexadecimal. -/
structure WorkshopRules (Json : Type) where
  sync : SyncRules Json
  doorEnabled : Bool
  decimalText : Rat → String
  withScale2 : Rat → String
  dbText : DbError → String
  badFieldText : String → String
  sign : List UInt8 → String → String

/-- A tool's row as a handler has loaded it. -/
structure LoadedTool (Uuid : Type) where
  tool : Tool Uuid
  billed : BilledTool
  updatedAt : Int

inductive ToolGuardResponse
  | resourceAuthorized (pulseMs : Option Int)
  | resourceDenied (reason : String)
  | okWithMessage (message : String)
  | error (message : String)
  deriving DecidableEq

inductive WorkshopAnswer
  | replied (response : ToolGuardResponse)
  | failed (error : ApiError)
  | swept (released : Nat)
  | done
  deriving DecidableEq

/-- The statements that change a table, each run as one. -/
inductive WorkshopStatement (Uuid : Type)
  | bill (change : BillingWrite Uuid)
  | updateToolStatus (toolId : Uuid) (status : ToolStatus)
  | tryActivateTool (toolId : Uuid)
  | updateTool (toolId : Uuid) (status : Option ToolStatus) (billed : Option BilledTool)
  | createToolEvent (toolId : Uuid) (eventType : String) (oldStatus newStatus : Option ToolStatus)
    (userId : Option Uuid)
  | insertDoorAccessEvent (event : DoorAccessEvent Uuid)
  | openResourceSession (resourceId : Uuid) (userId deviceId : Option Uuid)
  | closeResourceSession (resourceId : Uuid) (closedBy : String)
  | touchDeviceLastSeen (deviceId : Uuid)
  | upsertToolPowerState (toolId : Uuid) (draw : Option Rat)
  | engageToolLockout (toolId : Uuid) (reason : String)
  | evaluateCircuitOverages
  | setSessionGrace (minutes : Int)
  | tick (micros : Nat)

/-- It bills, or it is about a tool's own row. -/
def WorkshopStatement.ofSite {Uuid : Type} : WorkshopStatement Uuid → Bool
  | .bill _ => true
  | .updateToolStatus .. => true
  | .tryActivateTool _ => true
  | .updateTool .. => true
  | _ => false

/-- What the sweep went by when it ended a use: when that use had begun, as it read it, its own
time, and the cap and the grace it took. -/
structure Judged where
  since : Int
  now : Int
  cap : Int
  grace : Int
  deriving DecidableEq

/-- What a call had found when it sent a statement: for a usage report, the tool, the member it is
attributed to and the sessions it has seen open on the tool. No table has it. -/
inductive Cause (Uuid : Type)
  | plain
  | usage (toolId member : Uuid) (seen : List Uuid)
  | swept (judged : Judged)
  deriving DecidableEq

structure WorkshopWrite (Uuid : Type) where
  cause : Cause Uuid
  statement : WorkshopStatement Uuid

namespace Workshop
variable {Uuid Json : Type} [LinearOrder Uuid] (rules : WorkshopRules Json) (w : Workshop Uuid Json)

def statusOf (toolId : Uuid) : Option ToolStatus := (w.site.tools.find? fun tool => tool.id = toolId).map (·.status)

/-- The billing session is open: its hold stands. -/
def SessionOpen (id : Uuid) : Prop := ∃ row, w.site.billing.sessions.lookup id = some row ∧ row.status = .open_

/-- Give a tool its status. Where that puts it in use, the use begins now. -/
def setToolStatus (toolId : Uuid) (status : ToolStatus) : Workshop Uuid Json :=
  { w with
    site :=
      { w.site with tools := w.site.tools.map fun tool => if tool.id = toolId then { tool with status } else tool }
    updatedAt := fun id => if id = toolId then w.clock else w.updatedAt id
    inUseSince := fun id =>
      if id = toolId ∧ status = .inUse ∧ w.statusOf toolId ≠ some .inUse then w.clock else w.inUseSince id }

def billing (change : BillingWrite Uuid) : Workshop Uuid Json × Except DbError Nat :=
  let made := w.site.billing.perform (SyncTables.arithmetic rules.sync) change
  ({ w with site := { w.site with billing := made.1 } }, made.2)

def openResourceSessions : List (ResourceSession Uuid) :=
  w.resourceSessions.filter fun session => session.closedAt.isNone

/-- The reply is how many rows were changed. -/
def execute : WorkshopStatement Uuid → Workshop Uuid Json × Except DbError Nat
  | .bill change => w.billing rules change
  | .updateToolStatus toolId status =>
    if (w.statusOf toolId).isSome then (w.setToolStatus toolId status, .ok 1) else (w, .error .notFound)
  | .tryActivateTool toolId =>
    if w.statusOf toolId = some .idle then (w.setToolStatus toolId .inUse, .ok 1) else (w, .ok 0)
  | .updateTool toolId status billed =>
    match w.statusOf toolId with
    | none => (w, .error .notFound)
    | some current =>
      let named := w.setToolStatus toolId (status.getD current)
      match billed with
      | none => (named, .ok 1)
      | some row => (named.billing rules (.edit (.setTool toolId row)))
  | .createToolEvent toolId eventType oldStatus newStatus userId =>
    if (w.statusOf toolId).isSome && userId.all fun user => (w.site.accounts.findUserById user).isSome then
      ({ w with toolEvents := w.toolEvents ++ [⟨toolId, eventType, oldStatus, newStatus, userId, w.clock⟩] }, .ok 1)
    else (w, .error .foreignKeyViolation)
  | .insertDoorAccessEvent event =>
    if (w.doors event.doorId).isSome then ({ w with doorAccessEvents := w.doorAccessEvents ++ [event] }, .ok 1)
    else (w, .error .foreignKeyViolation)
  | .openResourceSession resourceId userId deviceId =>
    -- At most one open session for a resource: a second one joins it.
    if w.openResourceSessions.any fun session => decide (session.resourceId = resourceId) then (w, .ok 0)
    else if (w.doors resourceId).isSome then
      ({ w with resourceSessions := w.resourceSessions ++ [⟨resourceId, userId, deviceId, w.clock, none, none⟩] },
        .ok 1)
    else (w, .error .foreignKeyViolation)
  | .closeResourceSession resourceId closedBy =>
    let closes := fun session : ResourceSession Uuid => decide (session.resourceId = resourceId) &&
      session.closedAt.isNone
    ({ w with resourceSessions := w.resourceSessions.map fun session =>
        if closes session then { session with closedAt := some w.clock, closedBy := some closedBy } else session },
      .ok (w.resourceSessions.countP closes))
  | .touchDeviceLastSeen deviceId =>
    if (w.lastSeenAt deviceId).isSome
      then ({ w with lastSeenAt := w.lastSeenAt.insert deviceId (some w.clock) }, .ok 1)
    else (w, .ok 0)
  | .upsertToolPowerState toolId draw => ({ w with grid := w.grid.upsertToolPowerState toolId draw }, .ok 1)
  | .engageToolLockout toolId reason => ({ w with grid := w.grid.engageToolLockout toolId reason w.clock }, .ok 1)
  | .evaluateCircuitOverages =>
    let evaluated := w.grid.evaluateCircuitOverages rules.decimalText w.clock
    ({ w with grid := evaluated.1 }, .ok evaluated.2.length)
  | .setSessionGrace minutes => ({ w with sessionGraceMinutes := minutes }, .ok 1)
  | .tick micros => ({ w with clock := w.clock + micros }, .ok 1)

def perform (write : WorkshopWrite Uuid) : Workshop Uuid Json × Except DbError Nat := w.execute rules write.statement

/-- The others are about what the site does not have: events, doors, rooms, devices, power, and the clock. -/
theorem site_perform {change : WorkshopWrite Uuid} (other : change.statement.ofSite = false) :
    (w.perform rules change).1.site = w.site := by
  obtain ⟨cause, statement⟩ := change
  cases statement with
  | createToolEvent toolId eventType oldStatus newStatus userId =>
    simp only [perform, execute]
    split
    · rfl
    · rfl
  | insertDoorAccessEvent event =>
    simp only [perform, execute]
    split
    · rfl
    · rfl
  | openResourceSession resourceId userId deviceId =>
    simp only [perform, execute]
    split
    · rfl
    · split
      · rfl
      · rfl
  | touchDeviceLastSeen deviceId =>
    simp only [perform, execute]
    split
    · rfl
    · rfl
  | closeResourceSession resourceId closedBy => rfl
  | upsertToolPowerState toolId draw => rfl
  | engageToolLockout toolId reason => rfl
  | evaluateCircuitOverages => rfl
  | setSessionGrace minutes => rfl
  | tick micros => rfl
  | bill change => cases other
  | updateToolStatus toolId status => cases other
  | tryActivateTool toolId => cases other
  | updateTool toolId status billed => cases other

/-! What the handlers read. -/

def load (tool : Tool Uuid) : Option (LoadedTool Uuid) :=
  (w.site.billing.tools tool.id).map fun billed => ⟨tool, billed, w.updatedAt tool.id⟩

def getToolByExternalId (externalId : String) : Option (LoadedTool Uuid) :=
  (w.site.tools.find? fun tool => tool.externalId = some externalId).bind w.load

def getToolById (toolId : Uuid) : Option (LoadedTool Uuid) :=
  (w.site.tools.find? fun tool => tool.id = toolId).bind w.load

def getInuseTools : List (LoadedTool Uuid) := (w.site.tools.filter fun tool => tool.status = .inUse).filterMap w.load

/-- The newest activation of a tool. -/
def latestActivation (toolId : Uuid) : Option (ToolEvent Uuid) :=
  ((w.toolEvents.filter fun event => event.toolId = toolId ∧ event.eventType = "activated").insertionSort
    fun a b => b.createdAt ≤ a.createdAt).head?

def deviceIsBoundToTool (deviceId toolId : Uuid) : Bool := decide ((deviceId, toolId) ∈ w.site.bindings)

def deviceIsBoundToToolInRole (deviceId toolId : Uuid) (role : String) : Bool :=
  decide ((deviceId, toolId, role) ∈ w.bindingRoles)

/-- The first coordinates a tool that the other is bound to, in any role. -/
def deviceCoordinatesDevice (edgeId subjectId : Uuid) : Bool :=
  w.bindingRoles.any fun row => decide (row.1 = edgeId ∧ row.2.2 = "edge") && w.deviceIsBoundToTool subjectId row.2.1

def database : Database Uuid Json := { w.site.database w.clock with lockedOut := w.grid.toolIsLockedOut }

def findUserById (userId : Uuid) : Option Uuid := (w.site.accounts.findUserById userId).map fun _ => userId

def resolveCard (card : String) : Option (CardResolution Uuid) :=
  CoopSpaces.resolveCard w.database.users w.database.cards rules.sync.profileField card rules.sync.cipher

end Workshop

abbrev WorkshopRoutine (Uuid Json Answer : Type) :=
  Routine (Workshop Uuid Json) (WorkshopWrite Uuid) (Except DbError Nat) Answer

/-- A usage report. A figure that is no number is `none`. -/
structure UsageReport where
  card : Option String
  seconds : Option Rat
  activeSeconds : Option (Option Rat)
  deriving DecidableEq

namespace WorkshopRoutine
variable {Uuid Json : Type} [LinearOrder Uuid] [IdText Uuid] (rules : WorkshopRules Json)

def respond (response : ToolGuardResponse) : WorkshopRoutine Uuid Json WorkshopAnswer := .done (.replied response)

def deny (reason : String) : WorkshopRoutine Uuid Json WorkshopAnswer := respond (.resourceDenied reason)

/-- A statement, and what follows if it is not refused. -/
def sending (cause : Cause Uuid) (statement : WorkshopStatement Uuid) (refused : DbError → ApiError)
    (next : Nat → WorkshopRoutine Uuid Json WorkshopAnswer) : WorkshopRoutine Uuid Json WorkshopAnswer :=
  .write ⟨cause, statement⟩ fun reply =>
    match reply with
    | .ok n => next n
    | .error e => .done (.failed (refused e))

/-- A handler's own account of a failed statement. -/
def internal (what : String) (e : DbError) : ApiError := .internalServerError (what ++ ": " ++ rules.dbText e)

def resolveFailed : WorkshopRoutine Uuid Json WorkshopAnswer :=
  .done (.failed (.internalServerError ("Failed to resolve card: " ++ rules.badFieldText rules.sync.profileField)))

/-- A billing routine, on the billing tables of the site. -/
def billed (cause : Cause Uuid) (routine : BillingRoutine Uuid) : WorkshopRoutine Uuid Json (BillingAnswer Uuid) :=
  routine.lift (fun w => w.site.billed) fun change => ⟨cause, .bill change⟩

/-- Settle a metered tool's open session. That it fails is logged, and no more. -/
def settleMetered (tool : LoadedTool Uuid) (abandoned : Bool) : WorkshopRoutine Uuid Json Unit :=
  if rules.sync.toolBilling && isMetered tool.billed.usageFlatFee tool.billed.usageRatePerMin then
    .read fun w =>
      (billed .plain (BillingRequest.settleLoaded (SyncTables.arithmetic rules.sync) w.clock tool.tool.id
        tool.billed abandoned)).bind
        fun _ => .done ()
  else .done ()

/-! Starting a tool. -/

/-- Why a tool that is not idle is refused. -/
def statusDenial : ToolStatus → Option String
  | .idle => none
  | .inUse => some "Tool is already in use"
  | .maintenance => some "Tool is under maintenance"
  | .broken => some "Tool is broken"
  | .repair => some "Tool is in repair"
  | .retired => some "Tool is retired"

def denialText : ActivationDenial → String
  | .toolNotFound => "Tool not found"
  | .openSession => "Tool already has an open session"
  | .membershipRequired => "Membership required"
  | .insufficientBalance available required =>
    "Insufficient balance: " ++ rules.withScale2 available ++ " available, " ++ rules.withScale2 required ++
      " required"

/-- The status, from idle to in use, and the event. -/
def start (tool : LoadedTool Uuid) (userId : Uuid) : WorkshopRoutine Uuid Json WorkshopAnswer :=
  sending .plain (.tryActivateTool tool.tool.id) (internal rules "Failed to activate tool") fun n =>
    if n ≠ 1 then deny "Tool is already in use"
    else
      sending .plain (.createToolEvent tool.tool.id "activated" (some tool.tool.status) (some .inUse) (some userId))
        (internal rules "Failed to create tool event") fun _ => respond (.resourceAuthorized none)

def activateTool (tool : Option (LoadedTool Uuid)) (card : String) (sessionId : Uuid) :
    WorkshopRoutine Uuid Json WorkshopAnswer :=
  .read fun w =>
    match w.resolveCard rules card with
    | none => resolveFailed rules
    | some .unknown => deny "Unknown card"
    | some (.revoked _ _) => deny "Card not authorized"
    | some (.active user _) =>
      if !user.isActive then deny "User is not active"
      else
        match tool with
        | none => deny "Tool not found"
        | some tool =>
          match statusDenial tool.tool.status with
          | some reason => deny reason
          | none =>
            .read fun w =>
              if !w.database.userIsAuthorizedForTool rules.sync.site w.clock user.id tool.tool.id
                tool.tool.requiresTraining then
                deny "Training required"
              else if rules.sync.toolBilling && isMetered tool.billed.usageFlatFee tool.billed.usageRatePerMin then
                -- Money is the last gate: the hold is placed here.
                .read fun w =>
                  (billed .plain (BillingRequest.openLoaded
                    (SyncTables.arithmetic rules.sync) w.clock sessionId user.id tool.tool.id
                    tool.billed)).bind fun answer =>
                    match answer with
                    | .denied reason => deny (denialText rules reason)
                    | .failed e => .done (.failed (.ofDb e))
                    | _ => start rules tool user.id
              else start rules tool user.id

/-! Stopping it. -/

/-- Whoever is signed on to a tool: the member on the open billing session, or the one whose
activation put it in use; with them the session that says so. -/
def signedOnUser (tool : LoadedTool Uuid) : WorkshopRoutine Uuid Json (Option Uuid × List Uuid) :=
  .read fun w =>
    match w.site.billed.openToolSessionForTool tool.tool.id with
    | some (sessionId, session) => .read fun w => .done (w.findUserById session.userId, [sessionId])
    | none =>
      if tool.tool.status = .inUse then
        .read fun w =>
          match (w.latestActivation tool.tool.id).bind (·.userId) with
          | some userId => .read fun w => .done (w.findUserById userId, [])
          | none => .done (none, [])
      else .done (none, [])

def stopTool (tool : LoadedTool Uuid) (userId : Option Uuid) : WorkshopRoutine Uuid Json WorkshopAnswer :=
  sending .plain (.updateToolStatus tool.tool.id .idle) (internal rules "Failed to update tool status") fun _ =>
    (settleMetered rules tool false).bind fun _ =>
      sending .plain (.createToolEvent tool.tool.id "deactivated" (some tool.tool.status) (some .idle) userId)
        (internal rules "Failed to create tool event") fun _ => respond (.okWithMessage "Tool deactivated")

def deactivateTool (tool : Option (LoadedTool Uuid)) (card : Option String) :
    WorkshopRoutine Uuid Json WorkshopAnswer :=
  let stop (userId : Option Uuid) : WorkshopRoutine Uuid Json WorkshopAnswer :=
    match tool, userId with
    | none, _ => respond (.error "Tool not found")
    | some tool, some userId => stopTool rules tool (some userId)
    | some tool, none => (signedOnUser tool).bind fun found => stopTool rules tool found.1
  match card with
  -- A stop needs no badge.
  | none => stop none
  | some card =>
    .read fun w =>
      match w.resolveCard rules card with
      | none => resolveFailed rules
      | some .unknown => respond (.error "Unknown card")
      | some (.active user _) => stop (some user.id)
      | some (.revoked user _) => stop (some user.id)

/-! Reporting its usage. -/

def usageLogged (tool : LoadedTool Uuid) (member : Uuid) : WorkshopRoutine Uuid Json WorkshopAnswer :=
  sending .plain (.createToolEvent tool.tool.id "usage_logged" none none (some member))
    (internal rules "Failed to create tool event") fun _ => respond (.okWithMessage "Usage logged")

/-- The report goes onto the tool's open session, as it is found now. -/
def recordUsage (tool : LoadedTool Uuid) (report : UsageReport) (member : Uuid) (seen : List Uuid) :
    WorkshopRoutine Uuid Json WorkshopAnswer :=
  (billed (.usage tool.tool.id member seen)
    (BillingRequest.usage tool.tool.id report.seconds report.activeSeconds)).bind
    fun answer =>
      match answer with
      | .recorded true => usageLogged rules tool member
      | .failed e => .done (.failed (.ofDb e))
      | _ => respond (.error "No open session for this tool")

/-- A report that is attributed to a member, who has the sessions that were seen. -/
def logUsage (tool : LoadedTool Uuid) (report : UsageReport) (member : Uuid) (seen : List Uuid) :
    WorkshopRoutine Uuid Json WorkshopAnswer :=
  if rules.sync.toolBilling && isMetered tool.billed.usageFlatFee tool.billed.usageRatePerMin then
    .read fun w =>
      match w.site.billed.openToolSessionForTool tool.tool.id with
      | none => recordUsage rules tool report member seen
      | some (sessionId, session) =>
        if session.userId ≠ member then respond (.error "This card did not activate the tool")
        else recordUsage rules tool report member (seen ++ [sessionId])
  else usageLogged rules tool member

def reportToolUsage (tool : Option (LoadedTool Uuid)) (report : UsageReport) :
    WorkshopRoutine Uuid Json WorkshopAnswer :=
  let attributed (member : Uuid) : WorkshopRoutine Uuid Json WorkshopAnswer :=
    match tool with
    | none => respond (.error "Tool not found")
    | some tool => logUsage rules tool report member []
  match report.card with
  | some card =>
    .read fun w =>
      match w.resolveCard rules card with
      | none => resolveFailed rules
      | some .unknown => respond (.error "Unknown card")
      | some (.active user _) => attributed user.id
      | some (.revoked user _) => attributed user.id
  | none =>
    match tool with
    | none => respond (.error "Tool not found")
    | some tool =>
      (signedOnUser tool).bind fun found =>
        match found.1 with
        | none => respond (.error "No open session for this tool")
        | some member => logUsage rules tool report member found.2

end WorkshopRoutine

end CoopSpaces

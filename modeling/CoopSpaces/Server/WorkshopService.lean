import CoopSpaces.Server.Workshop

namespace CoopSpaces

inductive WorkshopResource (Uuid : Type)
  | tool (tool : LoadedTool Uuid)
  | door (id : Uuid) (door : Door)

def WorkshopResource.id {Uuid : Type} : WorkshopResource Uuid → Uuid
  | .tool loaded => loaded.tool.id
  | .door id _ => id

/-- What the edge reports of a door, as it came in. -/
structure DoorEventIn (Uuid : Type) where
  doorId : Uuid
  cardId : Option String
  granted : Bool
  reason : Option String
  source : Option String
  occurredAt : Option Int
  sig : Option String
  deriving DecidableEq

structure PowerReport (Uuid : Type) where
  toolId : Option String
  deviceId : Option Uuid
  drawNow : Option Rat
  selfTripped : Option Bool
  deriving DecidableEq

/-- A device's requests carry the device its token was found to be. -/
inductive WorkshopRequest (Uuid : Type)
  | scan (device : Uuid) (resource card : String) (sessionId : Uuid)
  | stop (device : Uuid) (resource : String) (card : Option String)
  | usage (device : Uuid) (resource : String) (report : UsageReport)
  | bootReset (device : Uuid)
  | alive (device : Uuid) (subject : Option Uuid)
  | powerReport (device : Uuid) (report : PowerReport Uuid)
  | doorsEvent (device : Uuid) (event : DoorEventIn Uuid)
  | sweep
  | changeToolStatus (staff toolId : Uuid) (status : ToolStatus)
  | updateTool (toolId : Uuid) (status : Option ToolStatus) (billed : Option BilledTool)
  | addToolEvent (toolId : Uuid) (eventType : String) (oldStatus newStatus : Option ToolStatus) (userId : Option Uuid)
  | adminStop (resource : String)
  | edit (change : CatalogEdit Uuid)
  | setSessionGrace (minutes : Int)
  | tick (micros : Nat)
  deriving DecidableEq

/-- A tool's session cap in minutes: its own, or the global fallback. -/
def sessionCapMinutes (own : Option Int) (default_ : Int) : Int := own.getD default_

/-- An open session that started before this is called abandoned. A cap below a minute counts as one. -/
def abandonedCutoff (maxMinutes graceMinutes now : Int) : Int :=
  now - (max maxMinutes 1 + max graceMinutes 0) * 60000000

def doorsEventMessage (doorId cardId : String) (granted : Bool) (source : String) : String :=
  "doors/event|" ++ doorId ++ "|" ++ cardId ++ "|" ++ toString granted ++ "|" ++ source

/-- A source nobody knows counts as a badge. -/
def doorAccessMethod : Option String → String
  | some "admin_remote" => "admin_remote"
  | some "qr_checkin" => "qr_checkin"
  | _ => "rfid"

/-- What a door says to whom it does not let in. -/
def doorDenial : DenyReason → String
  | .unavailable reason => reason
  | .inactive => "Account inactive"
  | .rule => "Denied by access rule"
  | .noMatch => "No matching access rule"
  | .lockedOut => "Locked out"
  | .training => "Denied"
  | .billing => "Denied"

namespace WorkshopRoutine
variable {Uuid Json : Type} [LinearOrder Uuid] [IdText Uuid] (rules : WorkshopRules Json)

/-! Who may speak for a resource. -/

/-- A tool by what its device calls it, or by its id. -/
def findToolByToolguardId (id : String) : WorkshopRoutine Uuid Json (Option (LoadedTool Uuid)) :=
  .read fun w =>
    match w.getToolByExternalId id with
    | some tool => .done (some tool)
    | none =>
      match IdText.parseStr id with
      | none => .done none
      | some toolId => .read fun w => .done (w.getToolById toolId)

def findResource (id : String) : WorkshopRoutine Uuid Json (Option (WorkshopResource Uuid)) :=
  (findToolByToolguardId id).bind fun found =>
    match found with
    | some tool => .done (some (.tool tool))
    | none =>
      match IdText.parseStr id with
      | none => .done none
      | some doorId => .read fun w => .done ((w.doors doorId).map fun door => .door doorId door)

/-- An unknown resource and an unbound one get the same answer. -/
def authorizeResource (device : Uuid) (id : String)
    (next : WorkshopResource Uuid → WorkshopRoutine Uuid Json WorkshopAnswer) :
    WorkshopRoutine Uuid Json WorkshopAnswer :=
  let refused : WorkshopRoutine Uuid Json WorkshopAnswer :=
    .done (.failed (.unauthorized "This device is not bound to that resource"))
  (findResource id).bind fun found =>
    match found with
    | none => refused
    | some resource =>
      .read fun w => if w.deviceIsBoundToTool device resource.id then next resource else refused

/-! A badge at a door. -/

/-- The door's policy for a member, as the one engine decides it. -/
def evaluateDoor (w : Workshop Uuid Json) (doorId : Uuid) (door : Door) (user : User Uuid) : MayDecision :=
  let db := w.database
  let digests := (db.identifiers rules.sync.profileField rules.sync.cipher user).map hexEncode
  let principal : AccessPrincipal Uuid :=
    ⟨some user.id, userEffectiveLevel db.graph db.assignments user.id, digests.toFinset, user.isActive⟩
  may rules.sync.site principal (doorPolicy door.enabled) (db.doorRules doorId) db.schedules w.clock db.graph .unlock

/-- The decision, and whom it is about. -/
def doorVerdict (w : Workshop Uuid Json) (doorId : Uuid) (door : Door) :
    CardResolution Uuid → Option Uuid × Option String
  | .unknown => (none, some "Unknown card")
  | .revoked user _ => (some user.id, some "Card not authorized")
  | .active user _ =>
    match evaluateDoor rules w doorId door user with
    | .allow => (some user.id, none)
    | .deny reason => (some user.id, some (doorDenial reason))

def scanDoor (device doorId : Uuid) (door : Door) (card : String) : WorkshopRoutine Uuid Json WorkshopAnswer :=
  if !rules.doorEnabled then deny "Door module is disabled in server configuration"
  else .read fun w =>
    match w.resolveCard rules card with
    | none => resolveFailed rules
    | some resolution => .read fun w =>
      let verdict := doorVerdict rules w doorId door resolution
      .read fun w =>
        sending .plain
          (.insertDoorAccessEvent ⟨doorId, verdict.1, "rfid", verdict.2.isNone, verdict.2, w.clock⟩) .ofDb fun _ =>
          match verdict.2 with
          | some reason => deny reason
          | none => .read fun w =>
            let opened := respond (.resourceAuthorized (some door.pulseMs))
            -- A yes on a room opens a session that is kept; any other door's is its pulse.
            if (w.doors doorId).any fun door => door.sessionProfile = "until_stopped" then
              sending .plain (.openResourceSession doorId verdict.1 (some device)) .ofDb fun _ => opened
            else opened

/-- A door event's signature is right, or its device has no key. -/
def doorsEventSigned (w : Workshop Uuid Json) (device : Uuid) (event : DoorEventIn Uuid) : Bool :=
  let message := doorsEventMessage (IdText.toText event.doorId) (event.cardId.getD "") event.granted
    (event.source.getD "")
  !rules.sync.cipher.isSome || (w.commandKeys device).all fun key =>
    event.sig.any fun sig => constantTimeStrEq (rules.sign key message) sig

/-- A door event that is accepted is taken for what it says. -/
def handleDoorsEvent (device : Uuid) (event : DoorEventIn Uuid) : WorkshopRoutine Uuid Json WorkshopAnswer :=
  .read fun w =>
    if !doorsEventSigned rules w device event then .done .done
    else .read fun w =>
      let userId :=
        match (event.cardId.filter fun card => card ≠ "").bind (w.resolveCard rules) with
        | some (.active user _) => some user.id
        | some (.revoked user _) => some user.id
        | _ => none
      .read fun w =>
        .write ⟨.plain, .insertDoorAccessEvent
          ⟨event.doorId, userId, doorAccessMethod event.source, event.granted, event.reason,
            event.occurredAt.getD w.clock⟩⟩
          fun reply =>
            match reply with
            | .error _ => .done .done
            | .ok _ =>
              if !event.granted then .done .done
              else .read fun w =>
                if (w.doors event.doorId).any fun door => door.sessionProfile = "until_stopped" then
                  .write ⟨.plain, .openResourceSession event.doorId userId (some device)⟩ fun _ => .done .done
                else .done .done

/-! What a device does with a resource. -/

def scan (device : Uuid) (id card : String) (sessionId : Uuid) : WorkshopRoutine Uuid Json WorkshopAnswer :=
  authorizeResource device id fun resource =>
    match resource with
    | .tool tool => activateTool rules (some tool) card sessionId
    | .door doorId door => scanDoor rules device doorId door card

def stop (device : Uuid) (id : String) (card : Option String) : WorkshopRoutine Uuid Json WorkshopAnswer :=
  authorizeResource device id fun resource =>
    match resource with
    | .tool tool => deactivateTool rules (some tool) card
    | .door doorId _ =>
      sending .plain (.closeResourceSession doorId "stop") .ofDb fun closed =>
        respond (.okWithMessage (if closed = 0 then "No session to end" else "Session ended"))

def usage (device : Uuid) (id : String) (report : UsageReport) : WorkshopRoutine Uuid Json WorkshopAnswer :=
  authorizeResource device id fun resource =>
    match resource with
    | .tool tool => reportToolUsage rules (some tool) report
    | .door _ _ => respond (.error "No open session for this resource")

/-! What it does for itself. -/

/-- Reset the tools that were found in use, one after another. -/
def resetTools (count : Nat) : List (LoadedTool Uuid) → WorkshopRoutine Uuid Json WorkshopAnswer
  | [] => respond (.okWithMessage (toString count ++ " tool(s) reset to idle"))
  | tool :: rest =>
    sending .plain (.updateToolStatus tool.tool.id .idle)
      (internal rules ("Failed to reset tool " ++ IdText.toText tool.tool.id)) fun _ =>
      sending .plain (.createToolEvent tool.tool.id "deactivated" (some tool.tool.status) (some .idle) none)
        (internal rules "Failed to create tool event") fun _ =>
        (settleMetered rules tool true).bind fun _ => resetTools count rest

/-- At its boot an edge has every tool in use returned to idle. -/
def bootReset : WorkshopRoutine Uuid Json WorkshopAnswer :=
  .read fun w => resetTools rules w.getInuseTools.length w.getInuseTools

def pulse (subject : Uuid) : WorkshopRoutine Uuid Json WorkshopAnswer :=
  sending .plain (.touchDeviceLastSeen subject) .ofDb fun touched =>
    if touched = 0 then .done (.failed (.notFound "Device not found")) else respond (.okWithMessage "Alive")

def alive (device : Uuid) (subject : Option Uuid) : WorkshopRoutine Uuid Json WorkshopAnswer :=
  match subject with
  | none => pulse device
  | some subject =>
    if subject = device then pulse device
    else .read fun w =>
      if w.deviceCoordinatesDevice device subject then pulse subject
      else .done (.failed (.unauthorized "This device does not coordinate that device"))

/-- A tool's coordinator may report for one of its power modules. -/
def relayPowerReport (device : Uuid) (id : String) (subject : Option Uuid)
    (next : WorkshopRoutine Uuid Json WorkshopAnswer) :
    WorkshopRoutine Uuid Json WorkshopAnswer :=
  let refused (reason : String) : WorkshopRoutine Uuid Json WorkshopAnswer := .done (.failed (.unauthorized reason))
  match subject with
  | none => refused "This device is not bound to that tool"
  | some subject =>
    (findToolByToolguardId id).bind fun found =>
      match found with
      | none => .done (.failed (.notFound "Tool not found"))
      | some tool =>
        .read fun w =>
          let isCoordinator := w.deviceIsBoundToToolInRole device tool.tool.id "edge"
          .read fun w =>
            let isModule := w.deviceIsBoundToToolInRole subject tool.tool.id "power"
            if isCoordinator && isModule then next
            else if !isCoordinator then refused "This device is not bound to that tool as its edge coordinator"
            else refused "The device_id named is not bound to that tool in the power role"

/-- A module may report for itself. -/
def authorizePowerReport (device : Uuid) (id : String) (subject : Option Uuid)
    (next : WorkshopRoutine Uuid Json WorkshopAnswer) : WorkshopRoutine Uuid Json WorkshopAnswer :=
  if id = "" then next
  else
    (findToolByToolguardId id).bind fun found =>
      match found with
      | none => relayPowerReport device id subject next
      | some tool =>
        .read fun w => if w.deviceIsBoundToTool device tool.tool.id then next
          else relayPowerReport device id subject next

/-- A firmware self-trip locks just its tool; any other reading is checked against the circuits. -/
def recordPower (report : PowerReport Uuid) (tool : LoadedTool Uuid) : WorkshopRoutine Uuid Json WorkshopAnswer :=
  let reported := respond (.okWithMessage "Power reported")
  sending .plain (.upsertToolPowerState tool.tool.id report.drawNow) .ofDb fun _ =>
    if report.selfTripped = some true then
      sending .plain
        (.engageToolLockout tool.tool.id "firmware self-trip: device exceeded its own over-current limit")
          .ofDb fun _ => reported
    else sending .plain .evaluateCircuitOverages .ofDb fun _ => reported

def powerReport (device : Uuid) (report : PowerReport Uuid) : WorkshopRoutine Uuid Json WorkshopAnswer :=
  let id := report.toolId.getD ""
  authorizePowerReport device id report.deviceId
    (if id = "" then .done (.failed (.badRequest "tool_id is required"))
    else
      (findToolByToolguardId id).bind fun found =>
        match found, report.deviceId with
        | none, _ => .done (.failed (.notFound "Tool not found"))
        | some tool, none => recordPower report tool
        | some tool, some subject => .write ⟨.plain, .touchDeviceLastSeen subject⟩ fun _ => recordPower report tool)

/-! The session sweep. -/

/-- Money first, status second; that the money fails is logged, and no more. -/
def release (judged : Judged) (tool : LoadedTool Uuid) (userId : Option Uuid)
    (next : WorkshopRoutine Uuid Json WorkshopAnswer) :
    WorkshopRoutine Uuid Json WorkshopAnswer :=
  let free : WorkshopRoutine Uuid Json WorkshopAnswer :=
    sending (.swept judged) (.updateToolStatus tool.tool.id .idle) .ofDb fun _ =>
      sending .plain (.createToolEvent tool.tool.id "deactivated" (some tool.tool.status) (some .idle) userId)
        .ofDb fun _ => next
  if rules.sync.toolBilling then
    .read fun w =>
      (billed (.swept judged) (BillingRequest.settleLoaded
        (SyncTables.arithmetic rules.sync) w.clock tool.tool.id tool.billed true)).bind
        fun _ => free
  else free

def sweepTools (grace defaultCap now : Int) (next : Nat → WorkshopRoutine Uuid Json WorkshopAnswer) :
    Nat → List (LoadedTool Uuid) → WorkshopRoutine Uuid Json WorkshopAnswer
  | released, [] => next released
  | released, tool :: rest =>
    .read fun w =>
      let activation := w.latestActivation tool.tool.id
      -- A tool put in use by hand has no activation; its last change starts the clock.
      let since := (activation.map (·.createdAt)).getD tool.updatedAt
      let cap := sessionCapMinutes tool.billed.usageMaxSessionMinutes defaultCap
      if abandonedCutoff cap grace now ≤ since then sweepTools grace defaultCap now next released rest
      else
        release rules ⟨since, now, cap, grace⟩ tool (activation.bind (·.userId))
          (sweepTools grace defaultCap now next (released + 1) rest)

/-- Rooms have no cap of their own. -/
def sweepRooms (grace defaultCap now : Int) (next : Nat → WorkshopRoutine Uuid Json WorkshopAnswer) :
    Nat → List (ResourceSession Uuid) → WorkshopRoutine Uuid Json WorkshopAnswer
  | released, [] => next released
  | released, session :: rest =>
    sending (.swept ⟨session.openedAt, now, defaultCap, grace⟩)
      (.closeResourceSession session.resourceId "sweep") .ofDb fun closed =>
      sweepRooms grace defaultCap now next (released + closed) rest

def roomsToRelease (w : Workshop Uuid Json) (cutoff : Int) (opened : List (ResourceSession Uuid)) :
    List (ResourceSession Uuid) :=
  opened.filter fun session => (w.doors session.resourceId).isSome && decide (session.openedAt < cutoff)

/-- Each session is judged against its own tool's cap. -/
def settleAbandoned (grace now : Int) (next : WorkshopRoutine Uuid Json WorkshopAnswer) :
    List (Uuid × ToolUsageSession Uuid) → WorkshopRoutine Uuid Json WorkshopAnswer
  | [] => next
  | (_, session) :: rest =>
    .read fun w =>
      match w.getToolById session.toolId with
      | none => settleAbandoned grace now next rest
      | some tool => .read fun w =>
        let cap := w.site.billing.config.maxMinutes tool.billed.usageMaxSessionMinutes
        if abandonedCutoff cap grace now ≤ session.startedAt then settleAbandoned grace now next rest
        else .read fun w =>
          (billed (.swept ⟨session.startedAt, now, cap, grace⟩)
            (BillingRequest.settleLoaded (SyncTables.arithmetic rules.sync) w.clock tool.tool.id tool.billed
              true)).bind
              fun _ => settleAbandoned grace now next rest

def openToolSessionsOlderThan (w : Workshop Uuid Json) (cutoff : Int) : List (Uuid × ToolUsageSession Uuid) :=
  (w.site.billing.sessions.entries.filter fun row => row.2.status = .open_ &&
    decide (row.2.startedAt < cutoff)).map fun row => (row.1, row.2)

def sweepAbandoned (next : WorkshopRoutine Uuid Json WorkshopAnswer) : WorkshopRoutine Uuid Json WorkshopAnswer :=
  if rules.sync.toolBilling then
    .read fun w =>
      let grace := w.sessionGraceMinutes
      let now := w.clock
      .read fun w => settleAbandoned rules grace now next (openToolSessionsOlderThan w (abandonedCutoff 1 grace now))
  else next

/-- One pass: the tools in use, the rooms, then the sessions whose tool is no longer in use. -/
def sweepOnce : WorkshopRoutine Uuid Json WorkshopAnswer :=
  .read fun w =>
    let grace := w.sessionGraceMinutes
    let defaultCap := w.site.billing.config.defaultMaxSessionMinutes
    let now := w.clock
    .read fun w =>
      sweepTools rules grace defaultCap now
        (fun released => .read fun w =>
          let opened := w.openResourceSessions
          .read fun w =>
            sweepRooms grace defaultCap now (fun released => sweepAbandoned rules (.done (.swept released))) released
              (roomsToRelease w (abandonedCutoff defaultCap grace now) opened))
        0 w.getInuseTools

/-! What staff do. -/

def changeToolStatus (staff toolId : Uuid) (status : ToolStatus) : WorkshopRoutine Uuid Json WorkshopAnswer :=
  .read fun w =>
    match w.getToolById toolId with
    | none => .done (.failed (.notFound "Tool not found"))
    | some tool =>
      sending .plain (.updateToolStatus toolId status) .ofDb fun _ =>
        -- That the event fails is logged, and no more.
        .write ⟨.plain, .createToolEvent toolId "status_change" (some tool.tool.status) (some status)
          (some staff)⟩ fun _ =>
          .done .done

def adminStop (id : String) : WorkshopRoutine Uuid Json WorkshopAnswer :=
  (findResource id).bind fun found =>
    match found with
    | none => .done (.failed (.notFound "Resource not found"))
    | some (.tool tool) => deactivateTool rules (some tool) none
    | some (.door doorId _) => sending .plain (.closeResourceSession doorId "admin") .ofDb fun _ => .done .done

def serve : WorkshopRequest Uuid → WorkshopRoutine Uuid Json WorkshopAnswer
  | .scan device id card sessionId => scan rules device id card sessionId
  | .stop device id card => stop rules device id card
  | .usage device id report => usage rules device id report
  | .bootReset _ => bootReset rules
  | .alive device subject => alive device subject
  | .powerReport device report => powerReport device report
  | .doorsEvent device event => handleDoorsEvent rules device event
  | .sweep => sweepOnce rules
  | .changeToolStatus staff toolId status => changeToolStatus staff toolId status
  | .updateTool toolId status billed => sending .plain (.updateTool toolId status billed) .ofDb fun _ => .done .done
  | .addToolEvent toolId eventType oldStatus newStatus userId =>
    sending .plain (.createToolEvent toolId eventType oldStatus newStatus userId) .ofDb fun _ => .done .done
  | .adminStop id => adminStop rules id
  | .edit change => sending .plain (.bill (.edit change)) .ofDb fun _ => .done .done
  | .setSessionGrace minutes => sending .plain (.setSessionGrace minutes) .ofDb fun _ => .done .done
  | .tick micros => sending .plain (.tick micros) .ofDb fun _ => .done .done

end WorkshopRoutine

def workshopService {Uuid Json : Type} [LinearOrder Uuid] [IdText Uuid] (rules : WorkshopRules Json) :
    Service (Workshop Uuid Json) (WorkshopWrite Uuid) (Except DbError Nat) WorkshopAnswer (WorkshopRequest Uuid) where
  perform := Workshop.perform rules
  serve := WorkshopRoutine.serve rules

/-- Numbers told by strokes. -/
instance : IdText Nat where
  toText n := String.ofList (List.replicate n 'x')
  parseStr text := some text.length
  parseStr_toText n := by simp

def shopRules : WorkshopRules Unit where
  sync := ⟨noZone, "rfid", none, .exact, true, false⟩
  doorEnabled := true
  decimalText _ := ""
  withScale2 _ := ""
  dbText _ := ""
  badFieldText _ := ""
  sign _ _ := ""

/-- Two members with a card and money each, a metered press with its device, a free lathe and a
room with theirs. -/
def shopFloor : Workshop Nat Unit where
  site :=
    { accounts :=
        { users := AList.insert 2 ⟨"ada", "ada@space", "", "Ada", true, 0⟩
            (AList.insert 3 ⟨"ben", "ben@space", "", "Ben", true, 0⟩ ∅)
          userEmails := []
          roles := []
          permissions := []
          rolePermissions := []
          roleInheritance := []
          userRoles := []
          rbacGraph := .fromRows [] [] [] }
      profile := fun user => Table.empty.insert "rfid" (.string (if user = 2 then "A" else "B"))
      cards := []
      training := ⟨[2, 3], [7, 8], ∅, .empty⟩
      waivers := []
      billing :=
        { config := ⟨.prepaid, false, 0, 60, 20, 3⟩
          users := (Table.empty.insert 2 ⟨none⟩).insert 3 ⟨none⟩
          memberAccess := fun _ => true
          tools := (Table.empty.insert 7 ⟨some 10, none, none, "occupancy"⟩).insert 8 ⟨none, none, none, "occupancy"⟩
          tiers := .empty
          assignments := .empty
          ledger := [⟨2, .cashPayment, 10, none⟩, ⟨3, .cashPayment, 10, none⟩]
          sessions := ∅ }
      tierNames := []
      pinned := fun _ => false
      tools := [⟨7, some "press", "Press", .idle, false, none⟩, ⟨8, some "lathe", "Lathe", .idle, false, none⟩]
      bindings := [(9, 7), (10, 8), (10, 6)]
      schedules := []
      doorRules := fun _ => []
      lockedOut := fun _ => false
      approved := [9, 10] }
  grid := ⟨[], [], [], [], []⟩
  clock := 0
  sessionGraceMinutes := 15
  updatedAt _ := 0
  toolEvents := []
  doors := Table.empty.insert 6 ⟨true, "until_stopped", 3000⟩
  resourceSessions := []
  doorAccessEvents := []
  bindingRoles := []
  lastSeenAt := .empty
  commandKeys := .empty
  inUseSince _ := 0

end CoopSpaces

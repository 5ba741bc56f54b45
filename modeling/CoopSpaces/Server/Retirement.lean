import CoopSpaces.Lib.Races
import CoopSpaces.Server.DeviceScope

namespace CoopSpaces

/-- A status only from idle to in use, or to idle where it may, and nothing else of a tool's row. -/
def WorkshopStatement.Automatic {Uuid : Type} (idles : Prop) : WorkshopStatement Uuid → Prop
  | .updateToolStatus _ status => idles ∧ status = .idle
  | .updateTool .. => False
  | _ => True

/-- What a call that is not the sweep's may write of its own accord. -/
def WorkshopWrite.ByDevice {Uuid : Type} (idles : Prop) (change : WorkshopWrite Uuid) : Prop :=
  change.statement.Automatic idles ∧ ∀ judged, change.cause ≠ .swept judged

namespace WorkshopRoutine
variable {Uuid Json Answer Other : Type} {idles : Prop}

/-- It makes no changes but such, whatever it reads. -/
def AsDevice (idles : Prop) (routine : WorkshopRoutine Uuid Json Answer) : Prop :=
  routine.Meets (fun _ => True) (WorkshopWrite.ByDevice idles) fun _ => True

variable {next : Nat → WorkshopRoutine Uuid Json WorkshopAnswer} {routine : WorkshopRoutine Uuid Json Answer}
  {statement : WorkshopStatement Uuid}

theorem AsDevice.bind {f : Answer → WorkshopRoutine Uuid Json Other} (first : routine.AsDevice idles)
    (rest : ∀ answer, (f answer).AsDevice idles) : AsDevice idles (routine.bind f) :=
  Routine.Meets.bind first fun answer _ => rest answer

theorem asDevice_done (answer : Answer) : AsDevice idles (.done answer : WorkshopRoutine Uuid Json Answer) := trivial

theorem asDevice_read {next : Workshop Uuid Json → WorkshopRoutine Uuid Json Answer}
    (rest : ∀ w, (next w).AsDevice idles) :
    AsDevice idles (.read next) := fun w _ => rest w

theorem asDevice_write {next : Except DbError Nat → WorkshopRoutine Uuid Json Answer}
    (automatic : statement.Automatic idles) (rest : ∀ reply, (next reply).AsDevice idles) :
    AsDevice idles (.write ⟨.plain, statement⟩ next) := by
  refine ⟨⟨automatic, fun judged same => ?_⟩, rest⟩
  cases same

theorem asDevice_sending {refused : DbError → ApiError} (automatic : statement.Automatic idles)
    (rest : ∀ n, (next n).AsDevice idles) : (sending .plain statement refused next).AsDevice idles := by
  refine asDevice_write automatic fun reply => ?_
  cases reply with
  | ok n => exact rest n
  | error e => exact asDevice_done _

theorem asDevice_of_reads (reads : routine.Meets (fun _ => True) (fun _ => False) fun _ => True) :
    routine.AsDevice idles := reads.allowing fun _ never => never.elim

theorem asDevice_of_namesNone (none_ : routine.Meets (fun _ => True) NamesNone fun _ => True) :
    routine.AsDevice idles := by
  refine none_.allowing fun change named => ?_
  unfold NamesNone at named
  split at named
  · exact ⟨trivial, fun judged same => by cases same⟩
  · exact ⟨trivial, fun judged same => by cases same⟩
  · exact ⟨trivial, fun judged same => by cases same⟩
  · exact ⟨trivial, fun judged same => by cases same⟩
  · exact named.elim

variable [LinearOrder Uuid] (rules : WorkshopRules Json) (tool : LoadedTool Uuid)

theorem asDevice_billed {cause : Cause Uuid} (unswept : ∀ judged, cause ≠ .swept judged)
    (routine : BillingRoutine Uuid) :
    (billed cause routine : WorkshopRoutine Uuid Json _).AsDevice idles := by
  refine (Routine.meets_lift _ _ routine).allowing fun change part => ?_
  obtain ⟨part, rfl⟩ := part
  exact ⟨trivial, unswept⟩

theorem asDevice_billing (routine : BillingRoutine Uuid) :
    (billed .plain routine : WorkshopRoutine Uuid Json _).AsDevice idles :=
  asDevice_billed (fun judged same => by cases same) routine

theorem asDevice_settleMetered (abandoned : Bool) : (settleMetered rules tool abandoned).AsDevice idles := by
  unfold settleMetered
  split
  · exact asDevice_read fun w => (asDevice_billing _).bind fun _ => asDevice_done _
  · exact asDevice_done _

omit [LinearOrder Uuid] in
theorem asDevice_start (userId : Uuid) : (start rules tool userId : WorkshopRoutine Uuid Json _).AsDevice idles := by
  refine asDevice_sending trivial fun n => ?_
  split
  · exact asDevice_done _
  · exact asDevice_sending trivial fun _ => asDevice_done _

theorem asDevice_signedOnUser : (signedOnUser tool : WorkshopRoutine Uuid Json _).AsDevice idles := by
  refine asDevice_read fun w => ?_
  split
  · exact asDevice_read fun w => asDevice_done _
  · split
    · refine asDevice_read fun w => ?_
      split
      · exact asDevice_read fun w => asDevice_done _
      · exact asDevice_done _
    · exact asDevice_done _

theorem asDevice_stopTool (userId : Option Uuid) : (stopTool rules tool userId).AsDevice True := by
  refine asDevice_sending ⟨trivial, rfl⟩ fun _ => ?_
  refine (asDevice_settleMetered rules tool false).bind fun _ => ?_
  exact asDevice_sending trivial fun _ => asDevice_done _

theorem asDevice_deactivateTool (card : Option String) : (deactivateTool rules (some tool) card).AsDevice True := by
  have cardless : AsDevice True ((signedOnUser tool).bind fun found => stopTool rules tool found.1) :=
    (asDevice_signedOnUser tool).bind fun found => asDevice_stopTool rules tool found.1
  unfold deactivateTool
  dsimp only
  split
  · exact cardless
  · refine asDevice_read fun w => ?_
    split
    · exact asDevice_done _
    · exact asDevice_done _
    · exact asDevice_stopTool rules tool _
    · exact asDevice_stopTool rules tool _

omit [LinearOrder Uuid] in
theorem asDevice_usageLogged (member : Uuid) :
    (usageLogged rules tool member : WorkshopRoutine Uuid Json _).AsDevice idles :=
  asDevice_sending trivial fun _ => asDevice_done _

theorem asDevice_recordUsage (report : UsageReport) (member : Uuid) (seen : List Uuid) :
    (recordUsage rules tool report member seen : WorkshopRoutine Uuid Json _).AsDevice idles := by
  refine (asDevice_billed (fun judged same => by cases same) _).bind fun answer => ?_
  split
  · exact asDevice_usageLogged rules tool member
  · exact asDevice_done _
  · exact asDevice_done _

theorem asDevice_logUsage (report : UsageReport) (member : Uuid) (seen : List Uuid) :
    (logUsage rules tool report member seen).AsDevice idles := by
  unfold logUsage
  split
  · refine asDevice_read fun w => ?_
    split
    · exact asDevice_recordUsage rules tool report member seen
    · split
      · exact asDevice_done _
      · exact asDevice_recordUsage rules tool report member _
  · exact asDevice_usageLogged rules tool member

theorem asDevice_reportToolUsage (report : UsageReport) :
    (reportToolUsage rules (some tool) report).AsDevice idles := by
  unfold reportToolUsage
  dsimp only
  split
  · refine asDevice_read fun w => ?_
    split
    · exact asDevice_done _
    · exact asDevice_done _
    · exact asDevice_logUsage rules tool report _ _
    · exact asDevice_logUsage rules tool report _ _
  · refine (asDevice_signedOnUser tool).bind fun found => ?_
    split
    · exact asDevice_done _
    · exact asDevice_logUsage rules tool report _ _

variable [IdText Uuid]

theorem asDevice_activateTool (card : String) (sessionId : Uuid) :
    (activateTool rules (some tool) card sessionId).AsDevice idles := by
  refine asDevice_read fun w => ?_
  split
  · exact asDevice_done _
  · exact asDevice_done _
  · exact asDevice_done _
  · split
    · exact asDevice_done _
    · dsimp only
      split
      · exact asDevice_done _
      · refine asDevice_read fun w => ?_
        split
        · exact asDevice_done _
        · split
          · refine asDevice_read fun w => (asDevice_billing _).bind fun answer => ?_
            split
            · exact asDevice_done _
            · exact asDevice_done _
            · exact asDevice_start rules tool _
          · exact asDevice_start rules tool _

theorem asDevice_scanDoor (device doorId : Uuid) (door : Door) (card : String) :
    (scanDoor rules device doorId door card).AsDevice idles := by
  unfold scanDoor
  split
  · exact asDevice_done _
  · refine asDevice_read fun w => ?_
    split
    · exact asDevice_done _
    · refine asDevice_read fun w => asDevice_read fun w => ?_
      refine asDevice_sending trivial fun _ => ?_
      split
      · exact asDevice_done _
      · refine asDevice_read fun w => ?_
        dsimp only
        split
        · exact asDevice_sending trivial fun _ => asDevice_done _
        · exact asDevice_done _

theorem asDevice_handleDoorsEvent (device : Uuid) (event : DoorEventIn Uuid) :
    (handleDoorsEvent rules device event).AsDevice idles := by
  refine asDevice_read fun w => ?_
  split
  · exact asDevice_done _
  · refine asDevice_read fun w => asDevice_read fun w => ?_
    refine asDevice_write trivial fun reply => ?_
    rcases reply with e | n
    · exact asDevice_done _
    · dsimp only
      split
      · exact asDevice_done _
      · refine asDevice_read fun w => ?_
        split
        · exact asDevice_write trivial fun _ => asDevice_done _
        · exact asDevice_done _

theorem asDevice_authorizeResource (device : Uuid) (id : String)
    {next : WorkshopResource Uuid → WorkshopRoutine Uuid Json WorkshopAnswer}
    (rest : ∀ resource, (next resource).AsDevice idles) : (authorizeResource device id next).AsDevice idles := by
  refine (asDevice_of_reads (findResource_reads id)).bind fun found => ?_
  split
  · exact asDevice_done _
  · refine asDevice_read fun w => ?_
    split
    · exact rest _
    · exact asDevice_done _

theorem asDevice_scan (device : Uuid) (id card : String) (sessionId : Uuid) :
    (scan rules device id card sessionId).AsDevice idles := by
  refine asDevice_authorizeResource device id fun resource => ?_
  cases resource with
  | tool tool => exact asDevice_activateTool rules tool card sessionId
  | door doorId door => exact asDevice_scanDoor rules device doorId door card

theorem asDevice_stop (device : Uuid) (id : String) (card : Option String) :
    (stop rules device id card).AsDevice True := by
  refine asDevice_authorizeResource device id fun resource => ?_
  cases resource with
  | tool tool => exact asDevice_deactivateTool rules tool card
  | door doorId door => exact asDevice_sending trivial fun _ => asDevice_done _

theorem asDevice_usage (device : Uuid) (id : String) (report : UsageReport) :
    (usage rules device id report).AsDevice idles := by
  refine asDevice_authorizeResource device id fun resource => ?_
  cases resource with
  | tool tool => exact asDevice_reportToolUsage rules tool report
  | door doorId door => exact asDevice_done _

theorem asDevice_resetTools (count : Nat) (tools : List (LoadedTool Uuid)) :
    (resetTools rules count tools).AsDevice True := by
  induction tools with
  | nil => exact asDevice_done _
  | cons tool rest ih =>
    refine asDevice_sending ⟨trivial, rfl⟩ fun _ => asDevice_sending trivial fun _ => ?_
    exact (asDevice_settleMetered rules tool true).bind fun _ => ih

theorem asDevice_adminStop (id : String) : (adminStop rules id : WorkshopRoutine Uuid Json _).AsDevice True := by
  refine (asDevice_of_reads (findResource_reads id)).bind fun found => ?_
  split
  · exact asDevice_done _
  · exact asDevice_deactivateTool rules _ none
  · exact asDevice_sending trivial fun _ => asDevice_done _

/-! The sweep. -/

/-- Whatever it goes by, it too makes only such changes. -/
def AsSweep (idles : Prop) (routine : WorkshopRoutine Uuid Json Answer) : Prop :=
  routine.Meets (fun _ => True) (fun change => change.statement.Automatic idles) fun _ => True

omit [LinearOrder Uuid] [IdText Uuid] in
theorem asSweep_done (answer : Answer) : AsSweep idles (.done answer : WorkshopRoutine Uuid Json Answer) := trivial

omit [LinearOrder Uuid] [IdText Uuid] in
theorem asSweep_read {next : Workshop Uuid Json → WorkshopRoutine Uuid Json Answer}
    (rest : ∀ w, (next w).AsSweep idles) :
    AsSweep idles (.read next) := fun w _ => rest w

omit [LinearOrder Uuid] [IdText Uuid] in
theorem asSweep_sending {cause : Cause Uuid} {refused : DbError → ApiError} (automatic : statement.Automatic idles)
    (rest : ∀ n, (next n).AsSweep idles) : (sending cause statement refused next).AsSweep idles := by
  refine ⟨automatic, fun reply => ?_⟩
  cases reply with
  | ok n => exact rest n
  | error e => exact asSweep_done _

omit [IdText Uuid] in
theorem asSweep_billed (cause : Cause Uuid) (routine : BillingRoutine Uuid)
    {next : WorkshopRoutine Uuid Json WorkshopAnswer}
    (rest : next.AsSweep idles) : AsSweep idles ((billed cause routine).bind fun _ => next) := by
  refine Routine.Meets.bind ((Routine.meets_lift _ _ routine).allowing fun change part => ?_) fun _ _ => rest
  obtain ⟨part, rfl⟩ := part
  trivial

omit [IdText Uuid] in
theorem asSweep_release (judged : Judged) (userId : Option Uuid) {next : WorkshopRoutine Uuid Json WorkshopAnswer}
    (rest : next.AsSweep True) : (release rules judged tool userId next).AsSweep True := by
  have free : (sending (.swept judged) (.updateToolStatus tool.tool.id .idle) .ofDb fun _ =>
      sending .plain (.createToolEvent tool.tool.id "deactivated" (some tool.tool.status) (some .idle) userId)
        .ofDb fun _ =>
        next : WorkshopRoutine Uuid Json _).AsSweep True :=
          asSweep_sending ⟨trivial, rfl⟩ fun _ => asSweep_sending trivial fun _ => rest
  unfold release
  dsimp only
  split
  · exact asSweep_read fun w => asSweep_billed _ _ free
  · exact free

omit [IdText Uuid] in
theorem asSweep_sweepTools (grace defaultCap now : Int) (rest : ∀ n, (next n).AsSweep True) (released : Nat)
    (tools : List (LoadedTool Uuid)) : (sweepTools rules grace defaultCap now next released tools).AsSweep True := by
  induction tools generalizing released with
  | nil => exact rest released
  | cons tool later ih =>
    refine asSweep_read fun w => ?_
    dsimp only
    split
    · exact ih released
    · exact asSweep_release rules tool _ _ (ih (released + 1))

omit [LinearOrder Uuid] [IdText Uuid] in
theorem asSweep_sweepRooms (grace defaultCap now : Int) (rest : ∀ n, (next n).AsSweep idles) (released : Nat)
    (sessions : List (ResourceSession Uuid)) :
    (sweepRooms grace defaultCap now next released sessions).AsSweep idles := by
  induction sessions generalizing released with
  | nil => exact rest released
  | cons session later ih => exact asSweep_sending trivial fun closed => ih (released + closed)

omit [IdText Uuid] in
theorem asSweep_settleAbandoned (grace now : Int) {next : WorkshopRoutine Uuid Json WorkshopAnswer}
    (rest : next.AsSweep idles)
    (sessions : List (Uuid × ToolUsageSession Uuid)) :
    (settleAbandoned rules grace now next sessions).AsSweep idles := by
  induction sessions with
  | nil => exact rest
  | cons session later ih =>
    refine asSweep_read fun w => ?_
    split
    · exact ih
    · refine asSweep_read fun w => ?_
      dsimp only
      split
      · exact ih
      · exact asSweep_read fun w => asSweep_billed _ _ ih

omit [IdText Uuid] in
theorem asSweep_roomsOnward (grace defaultCap now : Int) (released : Nat) :
    AsSweep idles (.read fun w => .read fun v => sweepRooms grace defaultCap now (fun released =>
      sweepAbandoned rules (.done (.swept released))) released
        (roomsToRelease v (abandonedCutoff defaultCap grace now) w.openResourceSessions) :
      WorkshopRoutine Uuid Json WorkshopAnswer) := by
  have abandoned : ∀ released,
      (sweepAbandoned rules (.done (.swept released)) : WorkshopRoutine Uuid Json _).AsSweep idles := by
    intro released
    unfold sweepAbandoned
    split
    · exact asSweep_read fun w => asSweep_read fun w => asSweep_settleAbandoned rules _ _ (asSweep_done _) _
    · exact asSweep_done _
  exact asSweep_read fun w => asSweep_read fun w => asSweep_sweepRooms _ _ _ abandoned released _

omit [IdText Uuid] in
theorem asSweep_sweepOnce : (sweepOnce rules : WorkshopRoutine Uuid Json _).AsSweep True := by
  refine asSweep_read fun w => asSweep_read fun w => ?_
  exact asSweep_sweepTools rules _ _ _ (asSweep_roomsOnward rules _ _ _) 0 _

end WorkshopRoutine

/-- What staff ask for, themselves. -/
def WorkshopRequest.ofStaff {Uuid : Type} : WorkshopRequest Uuid → Bool
  | .changeToolStatus .. => true
  | .updateTool .. => true
  | .addToolEvent .. => true
  | .adminStop _ => true
  | .edit _ => true
  | .setSessionGrace _ => true
  | _ => false

namespace WorkshopRoutine
variable {Uuid Json : Type} [LinearOrder Uuid] [IdText Uuid] (rules : WorkshopRules Json)

/-- Only staff have a status written that is neither of the two, or anything else of a tool's row. -/
theorem serve_automatic (request : WorkshopRequest Uuid) :
    (serve rules request : WorkshopRoutine Uuid Json _).Meets (fun _ => True)
    (fun change => request.ofStaff = true ∨ change.statement.Automatic True) fun _ => True := by
  have devices : ∀ routine : WorkshopRoutine Uuid Json WorkshopAnswer, routine.AsDevice True →
      routine.Meets (fun _ => True) (fun change => request.ofStaff = true ∨ change.statement.Automatic True)
        fun _ => True :=
    fun routine meets => meets.allowing fun change byDevice => .inr byDevice.1
  have staff : request.ofStaff = true → (serve rules request : WorkshopRoutine Uuid Json _).Meets (fun _ => True)
      (fun change => request.ofStaff = true ∨ change.statement.Automatic True) fun _ => True :=
    fun asked => .of_forall (fun _ => .inl asked) (fun _ => trivial) _
  cases request with
  | scan device id card sessionId => exact devices _ (asDevice_scan rules device id card sessionId)
  | stop device id card => exact devices _ (asDevice_stop rules device id card)
  | usage device id report => exact devices _ (asDevice_usage rules device id report)
  | bootReset device => exact devices _ (asDevice_read fun w => asDevice_resetTools rules _ _)
  | alive device subject => exact devices _ (asDevice_of_namesNone (alive_namesNone device subject))
  | powerReport device report => exact devices _ (asDevice_of_namesNone (powerReport_namesNone device report))
  | doorsEvent device event => exact devices _ (asDevice_handleDoorsEvent rules device event)
  | tick micros => exact devices _ (asDevice_sending trivial fun _ => asDevice_done _)
  | sweep => exact (asSweep_sweepOnce rules).allowing fun change automatic => .inr automatic
  | changeToolStatus staffId toolId status => exact staff rfl
  | updateTool toolId status billed => exact staff rfl
  | addToolEvent toolId eventType oldStatus newStatus userId => exact staff rfl
  | adminStop id => exact staff rfl
  | edit change => exact staff rfl
  | setSessionGrace minutes => exact staff rfl

end WorkshopRoutine

def ToolStatus.outOfService : ToolStatus → Bool
  | .idle => false
  | .inUse => false
  | .maintenance => true
  | .broken => true
  | .repair => true
  | .retired => true

/-- The tool that a statement sets to idle. -/
def WorkshopStatement.idles {Uuid : Type} : WorkshopStatement Uuid → Option Uuid
  | .updateToolStatus toolId .idle => some toolId
  | _ => none

theorem WorkshopStatement.idles_eq_some {Uuid : Type} {statement : WorkshopStatement Uuid} {toolId : Uuid} :
    statement.idles = some toolId ↔ statement = .updateToolStatus toolId .idle := by
  constructor
  · intro idles
    unfold WorkshopStatement.idles at idles
    split at idles
    · rw [Option.some.inj idles]
    · cases idles
  · rintro rfl
    rfl

theorem WorkshopStatement.idles_of_automatic {Uuid : Type} {statement : WorkshopStatement Uuid}
    (automatic : statement.Automatic False) : statement.idles = none := by
  cases statement with
  | updateToolStatus toolId status => exact automatic.1.elim
  | _ => rfl

/-- Staff have the tool out of service. -/
def Workshop.outOfService {Uuid Json : Type} [LinearOrder Uuid] (w : Workshop Uuid Json) (toolId : Uuid) : Bool :=
  (w.statusOf toolId).any (·.outOfService)

/-- What a statement that sets a tool to idle has between it and staff. A boot reset has looked for the tools in use
with its first read, and a pass of the sweep with its second; since then staff may not have taken the tool out of
service. A stop has not looked: the tool may not be out of service as it lands. -/
def WorkshopRequest.IdleUndisturbed {Uuid Json : Type} [LinearOrder Uuid] (request : WorkshopRequest Uuid)
    (trail : Routine.Trail (Workshop Uuid Json) (WorkshopWrite Uuid)) (w : Workshop Uuid Json)
    (change : WorkshopWrite Uuid) : Prop :=
  ∀ toolId ∈ change.statement.idles,
    match request with
    | .stop .. => w.outOfService toolId = false
    | .bootReset _ => ∀ t ∈ trail.found[0]?, w.outOfService toolId = t.outOfService toolId
    | .sweep => ∀ t ∈ trail.found[1]?, w.outOfService toolId = t.outOfService toolId
    | _ => True

instance {Uuid Json : Type} [LinearOrder Uuid] (request : WorkshopRequest Uuid)
    (trail : Routine.Trail (Workshop Uuid Json) (WorkshopWrite Uuid)) (w : Workshop Uuid Json)
    (change : WorkshopWrite Uuid) : Decidable (request.IdleUndisturbed trail w change) := by
  unfold WorkshopRequest.IdleUndisturbed
  cases request <;> infer_instance

/-! Where the tools in use were looked for. -/

namespace WorkshopRoutine
variable {Uuid Json Answer : Type} [LinearOrder Uuid] {rules : WorkshopRules Json}
  {trail : Routine.Trail (Workshop Uuid Json) (WorkshopWrite Uuid)} {place : Nat} {toolId : Uuid}

/-- The state a request found in this place had the tool in use. -/
def FoundInUse (place : Nat) (trail : Routine.Trail (Workshop Uuid Json) (WorkshopWrite Uuid)) (toolId : Uuid) :
    Prop :=
  ∃ t ∈ trail.found[place]?, t.statusOf toolId = some .inUse

theorem FoundInUse.later (inUse : FoundInUse place trail toolId)
    (more : Routine.Trail (Workshop Uuid Json) (WorkshopWrite Uuid)) : FoundInUse place (trail ++ more) toolId := by
  obtain ⟨t, there, status⟩ := inUse
  refine ⟨t, ?_, status⟩
  rw [Routine.Trail.found_append, List.getElem?_append_left (List.getElem?_eq_some_iff.mp there).1]
  exact there

/-- Each tool it sets to idle it has found in use there. -/
abbrev MindsUse (rules : WorkshopRules Json) (place : Nat)
    (trail : Routine.Trail (Workshop Uuid Json) (WorkshopWrite Uuid)) (routine : WorkshopRoutine Uuid Json Answer) :
    Prop :=
  routine.Minds (Workshop.perform rules) Workshop.Keyed
    (fun trail _ change => ∀ toolId ∈ change.statement.idles, FoundInUse place trail toolId) trail

theorem mindsUse_of_meets {routine : WorkshopRoutine Uuid Json Answer} {allowed : WorkshopWrite Uuid → Prop}
    (meets : routine.Meets (fun _ => True) allowed fun _ => True)
    (never : ∀ change, allowed change → change.statement.Automatic False) : routine.MindsUse rules place trail := by
  refine meets.minds fun trail w change allows toolId idles => ?_
  rw [WorkshopStatement.idles_of_automatic (never change allows)] at idles
  cases idles

theorem mindsUse_sending {cause : Cause Uuid} {statement : WorkshopStatement Uuid} {refused : DbError → ApiError}
    {next : Nat → WorkshopRoutine Uuid Json WorkshopAnswer}
    (found : ∀ toolId ∈ statement.idles, FoundInUse place trail toolId)
    (rest : ∀ w n, (next n).MindsUse rules place (trail ++ [(w, some ⟨cause, statement⟩)])) :
    (sending cause statement refused next).MindsUse rules place trail := by
  refine fun w _ => ⟨found, ?_⟩
  dsimp only
  split
  · exact rest w _
  · trivial

theorem mindsUse_resetTools [IdText Uuid] (count : Nat) (tools : List (LoadedTool Uuid))
    (inUse : ∀ tool ∈ tools, FoundInUse place trail tool.tool.id) :
    (resetTools rules count tools).MindsUse rules place trail := by
  induction tools generalizing trail with
  | nil => trivial
  | cons tool rest ih =>
    refine mindsUse_sending (fun toolId idles => ?_) fun w n =>
      mindsUse_sending (fun toolId none_ => ?_) fun v m => ?_
    · exact Option.some.inj idles ▸ inUse tool (List.mem_cons_self ..)
    · cases none_
    · refine Routine.Minds.bind (mindsUse_of_meets (asDevice_settleMetered rules tool true) fun _ part => part.1)
        fun more answer => ih fun other listed => ?_
      exact (((inUse other (List.mem_cons_of_mem tool listed)).later _).later _).later more

theorem mindsUse_release {judged : Judged} {tool : LoadedTool Uuid} {userId : Option Uuid}
    {next : WorkshopRoutine Uuid Json WorkshopAnswer} (inUse : FoundInUse place trail tool.tool.id)
    (rest : ∀ more, next.MindsUse rules place (trail ++ more)) :
    (release rules judged tool userId next).MindsUse rules place trail := by
  have free : ∀ more, (sending (.swept judged) (.updateToolStatus tool.tool.id .idle) .ofDb fun _ =>
      sending .plain (.createToolEvent tool.tool.id "deactivated" (some tool.tool.status) (some .idle) userId)
        .ofDb fun _ => next : WorkshopRoutine Uuid Json _).MindsUse rules place (trail ++ more) := by
    intro more
    refine mindsUse_sending (fun toolId idles => ?_) fun w n =>
      mindsUse_sending (fun toolId none_ => ?_) fun v m => ?_
    · exact Option.some.inj idles ▸ inUse.later more
    · cases none_
    · rw [List.append_assoc, List.append_assoc]
      exact rest _
  unfold release
  dsimp only
  split
  · intro w _
    have billed := Routine.meets_lift (fun w : Workshop Uuid Json => w.site.billed)
      (fun change => (⟨.swept judged, .bill change⟩ : WorkshopWrite Uuid))
      (BillingRequest.settleLoaded (SyncTables.arithmetic rules.sync) w.clock tool.tool.id tool.billed true)
    refine Routine.Minds.bind (mindsUse_of_meets billed ?_) fun more answer => ?_
    · rintro _ ⟨part, rfl⟩
      trivial
    · rw [List.append_assoc]
      exact free _
  · exact List.append_nil trail ▸ free []

theorem mindsUse_sweepTools {grace defaultCap now : Int} {next : Nat → WorkshopRoutine Uuid Json WorkshopAnswer}
    (rest : ∀ trail n, (next n).MindsUse rules place trail) (released : Nat) (tools : List (LoadedTool Uuid))
    (inUse : ∀ tool ∈ tools, FoundInUse place trail tool.tool.id) :
    (sweepTools rules grace defaultCap now next released tools).MindsUse rules place trail := by
  induction tools generalizing released trail with
  | nil => exact rest trail released
  | cons tool later ih =>
    intro w _
    have others : ∀ more, ∀ other ∈ later, FoundInUse place (trail ++ more) other.tool.id :=
      fun more other listed => (inUse other (List.mem_cons_of_mem tool listed)).later more
    dsimp only
    split
    · exact ih released (others _)
    · refine mindsUse_release ((inUse tool (List.mem_cons_self ..)).later _) fun more => ih (released + 1) ?_
      rw [List.append_assoc]
      exact others _

theorem mindsUse_bootReset [IdText Uuid] : (bootReset rules : WorkshopRoutine Uuid Json _).MindsUse rules 0 [] :=
  fun w keyed => mindsUse_resetTools _ _ fun _ member => ⟨w, rfl, Workshop.statusOf_of_inuse keyed member⟩

theorem mindsUse_sweepOnce : (sweepOnce rules : WorkshopRoutine Uuid Json _).MindsUse rules 1 [] := by
  intro v _ w keyed
  refine mindsUse_sweepTools (fun trail released => ?_) 0 _ fun tool member =>
    ⟨w, rfl, Workshop.statusOf_of_inuse keyed member⟩
  exact mindsUse_of_meets (asSweep_roomsOnward rules _ _ _ released) fun _ automatic => automatic

/-- How a request comes to set a tool to idle: staff may, a stop does, and a boot reset or the sweep where it has
found the tool in use. -/
def LooksFirst (request : WorkshopRequest Uuid) (trail : Routine.Trail (Workshop Uuid Json) (WorkshopWrite Uuid))
    (change : WorkshopWrite Uuid) : Prop :=
  ∀ toolId ∈ change.statement.idles,
    match request with
    | .stop .. => True
    | .bootReset _ => FoundInUse 0 trail toolId
    | .sweep => FoundInUse 1 trail toolId
    | request => request.ofStaff = true

theorem minds_looksFirst [IdText Uuid] (rules : WorkshopRules Json) (request : WorkshopRequest Uuid) :
    (serve rules request : WorkshopRoutine Uuid Json _).Minds (Workshop.perform rules) Workshop.Keyed
      (fun trail _ change => LooksFirst request trail change) [] := by
  have never : ∀ {routine : WorkshopRoutine Uuid Json WorkshopAnswer}, routine.AsDevice False →
      routine.Minds (Workshop.perform rules) Workshop.Keyed
        (fun trail _ change => LooksFirst request trail change) [] := by
    intro routine meets
    refine meets.minds fun trail w change byDevice toolId idles => ?_
    rw [WorkshopStatement.idles_of_automatic byDevice.1] at idles
    cases idles
  cases request with
  | scan device id card sessionId => exact never (asDevice_scan rules device id card sessionId)
  | stop device id card => exact .of_forall (fun _ _ _ _ _ => trivial) _ _
  | usage device id report => exact never (asDevice_usage rules device id report)
  | bootReset device => exact mindsUse_bootReset
  | alive device subject => exact never (asDevice_of_namesNone (alive_namesNone device subject))
  | powerReport device report => exact never (asDevice_of_namesNone (powerReport_namesNone device report))
  | doorsEvent device event => exact never (asDevice_handleDoorsEvent rules device event)
  | tick micros => exact never (asDevice_sending trivial fun _ => asDevice_done _)
  | sweep => exact mindsUse_sweepOnce
  | changeToolStatus staffId toolId status => exact .of_forall (fun _ _ _ _ _ => rfl) _ _
  | updateTool toolId status billed => exact .of_forall (fun _ _ _ _ _ => rfl) _ _
  | addToolEvent toolId eventType oldStatus newStatus userId => exact .of_forall (fun _ _ _ _ _ => rfl) _ _
  | adminStop id => exact .of_forall (fun _ _ _ _ _ => rfl) _ _
  | edit change => exact .of_forall (fun _ _ _ _ _ => rfl) _ _
  | setSessionGrace minutes => exact .of_forall (fun _ _ _ _ _ => rfl) _ _

end WorkshopRoutine

theorem Workshop.inService_of_inUse {Uuid Json : Type} [LinearOrder Uuid] {w : Workshop Uuid Json} {toolId : Uuid}
    (inUse : w.statusOf toolId = some .inUse) : w.outOfService toolId = false := by
  rw [outOfService, inUse]
  rfl

/-- Who has looked first sets an undisturbed tool to idle, and no tool out of service. -/
theorem WorkshopRequest.idleUndisturbed_iff {Uuid Json : Type} [LinearOrder Uuid] {request : WorkshopRequest Uuid}
    {trail : Routine.Trail (Workshop Uuid Json) (WorkshopWrite Uuid)} {w : Workshop Uuid Json}
    {change : WorkshopWrite Uuid} (looks : WorkshopRoutine.LooksFirst request trail change) :
    request.IdleUndisturbed trail w change ↔
      (request.ofStaff = false → ∀ toolId ∈ change.statement.idles, w.outOfService toolId = false) := by
  have loaded : ∀ {place : Nat} {toolId : Uuid}, WorkshopRoutine.FoundInUse place trail toolId →
      ((∀ t ∈ trail.found[place]?, w.outOfService toolId = t.outOfService toolId) ↔
        w.outOfService toolId = false) := by
    rintro place toolId ⟨t, there, inUse⟩
    have serving := Workshop.inService_of_inUse inUse
    constructor
    · intro same
      exact (same t there).trans serving
    · intro served u found
      obtain rfl := Option.some.inj (there.symm.trans found)
      exact served.trans serving.symm
  cases request with
  | stop device id card => exact ⟨fun undisturbed _ => undisturbed, fun lands => lands rfl⟩
  | bootReset device =>
    constructor
    · intro undisturbed _ toolId idles
      exact (loaded (looks toolId idles)).mp (undisturbed toolId idles)
    · intro lands toolId idles
      exact (loaded (looks toolId idles)).mpr (lands rfl toolId idles)
  | sweep =>
    constructor
    · intro undisturbed _ toolId idles
      exact (loaded (looks toolId idles)).mp (undisturbed toolId idles)
    · intro lands toolId idles
      exact (loaded (looks toolId idles)).mpr (lands rfl toolId idles)
  | _ =>
    refine ⟨fun _ device toolId idles => ?_, fun _ toolId idles => trivial⟩
    exact absurd (device.symm.trans (looks toolId idles)) Bool.false_ne_true

/-- All that the statement of a device or the sweep does to a status. -/
theorem Workshop.statusOf_perform {Uuid Json : Type} [LinearOrder Uuid] (rules : WorkshopRules Json)
    (w : Workshop Uuid Json)
    {change : WorkshopWrite Uuid} (automatic : change.statement.Automatic True) (r : Uuid) :
    let after := (w.perform rules change).1.statusOf r
    after = w.statusOf r ∨ (w.statusOf r = some .idle ∧ after = some .inUse) ∨
      (change.statement = .updateToolStatus r .idle ∧ (w.statusOf r).isSome = true ∧ after = some .idle) := by
  by_cases elsewhere : change.statement.ofSite = false
  · have same := w.site_perform rules elsewhere
    exact .inl (congrArg (fun site => (site.tools.find? fun tool => tool.id = r).map (·.status)) same)
  obtain ⟨cause, statement⟩ := change
  cases statement with
  | updateToolStatus toolId status =>
    have idle : status = .idle := automatic.2
    subst idle
    simp only [perform, execute]
    split
    · rename_i there
      rw [statusOf_setToolStatus]
      split
      · rename_i same
        subst same
        obtain ⟨old, was⟩ := Option.isSome_iff_exists.mp there
        refine .inr (.inr ⟨rfl, there, ?_⟩)
        rw [was, Option.map_some]
      · exact .inl rfl
    · exact .inl rfl
  | tryActivateTool toolId =>
    simp only [perform, execute]
    split
    · rename_i idle
      rw [statusOf_setToolStatus]
      split
      · rename_i same
        subst same
        refine .inr (.inl ⟨idle, ?_⟩)
        rw [idle, Option.map_some]
      · exact .inl rfl
    · exact .inl rfl
  | updateTool toolId status billed => exact automatic.elim
  | bill change => exact .inl rfl
  | _ => exact absurd rfl elsewhere

theorem Workshop.statusOf_write {Uuid Json : Type} [LinearOrder Uuid] (rules : WorkshopRules Json)
    {w : Workshop Uuid Json}
    {change : WorkshopWrite Uuid} {r : Uuid} {status : ToolStatus}
    (writes : change.statement = .updateToolStatus r status)
    (there : (w.statusOf r).isSome = true) : (w.perform rules change).1.statusOf r = some status := by
  obtain ⟨old, was⟩ := Option.isSome_iff_exists.mp there
  unfold perform
  rw [writes]
  simp only [execute, there, if_true]
  rw [statusOf_setToolStatus, if_pos rfl, was, Option.map_some]

abbrev WorkshopPool (Uuid Json : Type) :=
  Service.Pool (Workshop Uuid Json) (WorkshopWrite Uuid) (Except DbError Nat) WorkshopAnswer (WorkshopRequest Uuid)

section Statuses
variable {Uuid Json : Type} [LinearOrder Uuid] [IdText Uuid] (rules : WorkshopRules Json)

/-- A step that is not staff's moves a tool from idle to in use, from in use to idle, or not at all. -/
def MovesInUse (pool : WorkshopPool Uuid Json) (event : Service.Event (WorkshopRequest Uuid)) : Prop :=
  ∀ performed, ((workshopService rules).step pool event).2 = some performed → performed.request.ofStaff = false → ∀ r,
    let before := pool.state.statusOf r
    let after := ((workshopService rules).step pool event).1.state.statusOf r
    after = before ∨ (before = some .idle ∧ after = some .inUse) ∨ (before = some .inUse ∧ after = some .idle)

/-- A step of staff's that changes the tool's status. -/
def StaffMoves (r : Uuid) (pool : WorkshopPool Uuid Json) (event : Service.Event (WorkshopRequest Uuid)) : Prop :=
  (∃ performed, ((workshopService rules).step pool event).2 = some performed ∧ performed.request.ofStaff = true) ∧
    ((workshopService rules).step pool event).1.state.statusOf r ≠ pool.state.statusOf r

/-- What is out of service stays as it is until a step of staff's changes it. -/
def StaysOut (start : Workshop Uuid Json) (schedule : List (Service.Event (WorkshopRequest Uuid))) : Prop :=
  ∀ past later, past ++ later <+: schedule → ∀ r status,
    (((workshopService rules).machine start).run past).state.statusOf r = some status → status.outOfService = true →
      (((workshopService rules).machine start).run (past ++ later)).state.statusOf r = some status ∨
        ∃ front event back, later = front ++ event :: back ∧
          StaffMoves rules r (((workshopService rules).machine start).run (past ++ front)) event

/-- A write of a device or the sweep that a tool is idle lands while that tool is in service. -/
def LandsInService (pool : WorkshopPool Uuid Json) (event : Service.Event (WorkshopRequest Uuid)) : Prop :=
  ∀ performed, ((workshopService rules).step pool event).2 = some performed → performed.request.ofStaff = false →
    ∀ toolId ∈ performed.change.statement.idles, pool.state.outOfService toolId = false

variable {rules}

theorem movesInUse_iff (start : Workshop Uuid Json) (past : List (Service.Event (WorkshopRequest Uuid)))
    (event : Service.Event (WorkshopRequest Uuid)) :
    MovesInUse rules (((workshopService rules).machine start).run past) event ↔
      LandsInService rules (((workshopService rules).machine start).run past) event := by
  have confined := Service.confined_run (workshopService rules) (WorkshopRoutine.serve_automatic rules) start past
  have stepped := (workshopService rules).step_state (((workshopService rules).machine start).run past) event
  generalize ((workshopService rules).machine start).run past = pool at confined stepped ⊢
  have made : ∀ performed, ((workshopService rules).step pool event).2 = some performed →
      ((workshopService rules).step pool event).1.state = (pool.state.perform rules performed.change).1 := by
    intro performed acted
    rcases stepped with ⟨silent, -⟩ | ⟨other, same, after⟩
    · rw [silent] at acted
      cases acted
    · obtain rfl := Option.some.inj (same.symm.trans acted)
      exact after
  refine forall_congr' fun performed => forall_congr' fun acted => forall_congr' fun mechanical => ?_
  have automatic : performed.change.statement.Automatic True := by
    rcases confined.allowed_of_performed acted with staff | automatic
    · rw [mechanical] at staff
      cases staff
    · exact automatic
  rw [made performed acted]
  constructor
  · intro moves toolId idles
    rcases was : pool.state.statusOf toolId with _ | status
    · rw [Workshop.outOfService, was]
      rfl
    have idle := Workshop.statusOf_write rules (WorkshopStatement.idles_eq_some.mp idles)
      (Option.isSome_iff_exists.mpr ⟨status, was⟩)
    rw [Workshop.outOfService, was]
    rcases moves toolId with same | ⟨-, inUse⟩ | ⟨inUse, -⟩
    · have unmoved : status = .idle := Option.some.inj (was.symm.trans (same.symm.trans idle))
      rw [unmoved]
      rfl
    · rw [idle] at inUse
      cases inUse
    · have served : status = .inUse := Option.some.inj (was.symm.trans inUse)
      rw [served]
      rfl
  · intro lands r
    rcases Workshop.statusOf_perform rules pool.state automatic r with same | activated | ⟨writes, there, idle⟩
    · exact .inl same
    · exact .inr (.inl activated)
    · obtain ⟨status, was⟩ := Option.isSome_iff_exists.mp there
      have serving := lands r (WorkshopStatement.idles_eq_some.mpr writes)
      rw [Workshop.outOfService, was] at serving
      cases status with
      | idle => exact .inl (idle.trans was.symm)
      | inUse => exact .inr (.inr ⟨was, idle⟩)
      | maintenance => cases serving
      | broken => cases serving
      | repair => cases serving
      | retired => cases serving

variable {start : Workshop Uuid Json}

/-- What is out of service is not moved between idle and in use. -/
theorem staysOut_of_moves {schedule : List (Service.Event (WorkshopRequest Uuid))}
    (moves : EveryStep (fun past event => MovesInUse rules (((workshopService rules).machine start).run past)
      event) schedule) :
    StaysOut rules start schedule := by
  intro past later
  induction later using List.reverseRecOn with
  | nil =>
    intro _ r status was _
    rw [List.append_nil]
    exact .inl was
  | append_singleton later event ih =>
    intro front r status was out
    have shorter : past ++ later <+: schedule :=
      ((List.prefix_append (past ++ later) [event]).trans (by rw [List.append_assoc]; exact front))
    rcases ih shorter r status was out with still | ⟨early, moved, back, split, staff⟩
    · rw [← List.append_assoc, Machine.run_snoc]
      have steps := (workshopService rules).step_state
        (((workshopService rules).machine start).run (past ++ later)) event
      by_cases same : (((workshopService rules).machine start).step
        (((workshopService rules).machine start).run (past ++ later)) event).1.state.statusOf r =
          some status
      · exact .inl same
      · right
        rcases steps with ⟨-, unmoved⟩ | ⟨performed, acted, -⟩
        · exact absurd ((congrArg (fun t : Workshop Uuid Json => t.statusOf r) unmoved).trans still) same
        · refine ⟨later, event, [], rfl, ⟨performed, acted, ?_⟩, fun unmoved => same (unmoved.trans still)⟩
          by_contra mechanical
          obtain ⟨rest, whole⟩ := front
          have lawful := moves (past ++ later) event rest
            (by rw [← whole]; simp only [List.append_assoc, List.singleton_append])
          rcases lawful performed acted (Bool.not_eq_true _ ▸ mechanical) r with unmoved | ⟨idle, -⟩ | ⟨inUse, -⟩
          · exact same (unmoved.trans still)
          · have serving : status = .idle := Option.some.inj (still.symm.trans idle)
            rw [serving] at out
            cases out
          · have serving : status = .inUse := Option.some.inj (still.symm.trans inUse)
            rw [serving] at out
            cases out
    · exact .inr ⟨early, moved, back ++ [event], by rw [split, List.append_assoc, List.cons_append], staff⟩

/-- In a run of keyed tables a write of idle that is not staff's lands undisturbed just where it lands in service. -/
theorem inTurn_iff_landsInService (keyed : start.Keyed) (past : List (Service.Event (WorkshopRequest Uuid)))
    (event : Service.Event (WorkshopRequest Uuid)) :
    (workshopService rules).InTurn WorkshopRequest.IdleUndisturbed start past event ↔
      LandsInService rules (((workshopService rules).machine start).run past) event := by
  have kept : ∀ earlier, earlier <+: past → (((workshopService rules).machine start).run earlier).state.Keyed :=
    fun earlier _ => Service.kept_of_seen (P := Workshop.Keyed) (fun _ change keyed => keyed.perform change)
      ⟨[], List.nil_prefix, rfl⟩ keyed
  have looks : (workshopService rules).InTurn _ start past event :=
    Service.inTurn_of_minds event kept (WorkshopRoutine.minds_looksFirst rules)
  rw [Service.inTurn_iff_performed] at looks ⊢
  constructor
  · intro inTurn performed made
    cases event with
    | arrive request => cases made
    | step index =>
      have looked := looks performed index made rfl
      exact (WorkshopRequest.idleUndisturbed_iff looked).mp (inTurn performed index made rfl)
  · intro lands performed index made stepped
    exact (WorkshopRequest.idleUndisturbed_iff (looks performed index made stepped)).mpr (lands performed made)

/-- However the calls of devices and staff and the sweep interleave: devices and the sweep only move
tools between idle and in use, and what staff took out of service stays out until they change it,
exactly when no staff comes between a boot reset's or the sweep's look for the tools in use and its write
of idle, and no stop lands on a tool out of service. -/
theorem devices_never_unretire_iff (rules : WorkshopRules Json) (keyed : start.Keyed)
    (schedule : List (Service.Event (WorkshopRequest Uuid))) :
    (EveryStep (fun past event => MovesInUse rules (((workshopService rules).machine start).run past) event)
      schedule ∧ StaysOut rules start schedule) ↔
      EveryStep ((workshopService rules).InTurn WorkshopRequest.IdleUndisturbed start) schedule := by
  rw [EveryStep.congr fun past event => inTurn_iff_landsInService keyed past event,
    ← EveryStep.congr fun past event => movesInUse_iff start past event]
  exact ⟨fun both => both.1, fun moves => ⟨moves, staysOut_of_moves moves⟩⟩

end Statuses

open Service.Event WorkshopRequest

/-- An edge boots while a member is on the press, and again when staff have taken it out of service. -/
def bootedTwice : List (Service.Event (WorkshopRequest Nat)) :=
  [arrive (scan 9 "press" "A" 11)] ++ List.replicate 12 (step 0) ++ [arrive (bootReset 9)] ++
    List.replicate 9 (step 1) ++ [arrive (changeToolStatus 2 7 .maintenance)] ++ List.replicate 3 (step 2) ++
    [arrive (bootReset 9)] ++ List.replicate 2 (step 3)

theorem boot_spares_maintenance :
    (((workshopService shopRules).machine shopFloor).run bootedTwice).state.statusOf 7 = some .maintenance ∧
      StaysOut shopRules shopFloor bootedTwice := by
  refine ⟨by decide +kernel, ?_⟩
  exact ((devices_never_unretire_iff shopRules keyed_shopFloor bootedTwice).mpr
    (EveryStep.of_getElem (by decide +kernel))).2

/-- Staff take the press out of service, and a stop without a badge comes after that. -/
def stoppedLate : List (Service.Event (WorkshopRequest Nat)) :=
  [arrive (changeToolStatus 2 7 .maintenance)] ++ List.replicate 3 (step 0) ++ [arrive (stop 9 "press" none)] ++
    List.replicate 3 (step 1)

/-- It puts the press back in service. -/
theorem late_stop_unretires :
    ¬ (EveryStep (fun past event => MovesInUse shopRules
      (((workshopService shopRules).machine shopFloor).run past) event)
        (stoppedLate ++ [.step 1]) ∧ StaysOut shopRules shopFloor (stoppedLate ++ [.step 1])) := by
  rintro ⟨moves, -⟩
  have lawful := moves stoppedLate (.step 1) [] rfl
  have asked : ((workshopService shopRules).step
    (((workshopService shopRules).machine shopFloor).run stoppedLate) (.step 1)).2.map
      (·.request) = some (.stop 9 "press" none) := by decide +kernel
  have before : (((workshopService shopRules).machine shopFloor).run stoppedLate).state.statusOf 7 =
    some .maintenance := by decide +kernel
  have after : ((workshopService shopRules).step
    (((workshopService shopRules).machine shopFloor).run stoppedLate) (.step 1)).1.state.statusOf 7 =
      some .idle := by decide +kernel
  obtain ⟨performed, acted, request⟩ := Option.map_eq_some_iff.mp asked
  have mechanical : performed.request.ofStaff = false := by
    rw [request]
    rfl
  rcases lawful performed acted mechanical 7 with same | ⟨idle, -⟩ | ⟨inUse, -⟩
  · cases before.symm.trans (same.symm.trans after)
  · cases before.symm.trans idle
  · cases before.symm.trans inUse

end CoopSpaces

import CoopSpaces.Server.Retirement

namespace CoopSpaces

/-- When it read, what was being judged had gone on for the cap and the grace it took. -/
def Judged.Overdue (judged : Judged) : Prop := judged.since < abandonedCutoff judged.cap judged.grace judged.now

def Cause.judged {Uuid : Type} : Cause Uuid → Option Judged
  | .swept judged => some judged
  | _ => none

/-- A use of a resource: when it began, and the cap in minutes that it has. -/
structure Use where
  began : Int
  cap : Int

namespace Workshop
variable {Uuid Json : Type} [LinearOrder Uuid] (rules : WorkshopRules Json) (w : Workshop Uuid Json)

/-- A tool's cap as it is configured now. -/
def capOf (toolId : Uuid) : Int :=
  sessionCapMinutes ((w.site.billing.tools toolId).bind (·.usageMaxSessionMinutes))
    w.site.billing.config.defaultMaxSessionMinutes

/-- What a statement ends of what is current: the use of a tool, a billing session, or the session of a
room. -/
def endedUses : WorkshopStatement Uuid → List Use
  | .updateToolStatus toolId .idle =>
    if w.statusOf toolId = some .inUse then [⟨w.inUseSince toolId, w.capOf toolId⟩] else []
  | .bill (.settleToolSession id _ _ _ _) =>
    match w.site.billing.sessions.lookup id with
    | none => []
    | some row => if row.status = .open_ then [⟨row.startedAt, w.capOf row.toolId⟩] else []
  | .closeResourceSession resourceId _ =>
    (w.openResourceSessions.filter fun session => session.resourceId = resourceId).map fun session =>
      ⟨session.openedAt, w.site.billing.config.defaultMaxSessionMinutes⟩
  | _ => []

/-- A change that the sweep makes goes by what it read no later than now, and was overdue then. -/
def Timely (change : WorkshopWrite Uuid) : Prop :=
  ∀ judged ∈ change.cause.judged, judged.now ≤ w.clock ∧ judged.Overdue

/-- The clock does not go back. -/
def Later (s t : Workshop Uuid Json) : Prop := s.clock ≤ t.clock

variable {rules w}

theorem later_perform (s : Workshop Uuid Json) (change : WorkshopWrite Uuid) :
    Later s (s.perform rules change).1 := by
  obtain ⟨cause, statement⟩ := change
  have same : ∀ t : Workshop Uuid Json, t.clock = s.clock → Later s t := fun t kept => kept.ge
  cases statement with
  | tick micros =>
    have forward : s.clock ≤ s.clock + micros := by omega
    exact forward
  | updateToolStatus toolId status =>
    simp only [perform, execute]
    split
    · exact same _ rfl
    · exact same _ rfl
  | tryActivateTool toolId =>
    simp only [perform, execute]
    split
    · exact same _ rfl
    · exact same _ rfl
  | updateTool toolId status billed =>
    simp only [perform, execute]
    split
    · exact same _ rfl
    · split
      · exact same _ rfl
      · exact same _ rfl
  | createToolEvent toolId eventType oldStatus newStatus userId =>
    simp only [perform, execute]
    split
    · exact same _ rfl
    · exact same _ rfl
  | insertDoorAccessEvent event =>
    simp only [perform, execute]
    split
    · exact same _ rfl
    · exact same _ rfl
  | openResourceSession resourceId userId deviceId =>
    simp only [perform, execute]
    split
    · exact same _ rfl
    · split
      · exact same _ rfl
      · exact same _ rfl
  | touchDeviceLastSeen deviceId =>
    simp only [perform, execute]
    split
    · exact same _ rfl
    · exact same _ rfl
  | bill change => exact same _ rfl
  | closeResourceSession resourceId closedBy => exact same _ rfl
  | upsertToolPowerState toolId draw => exact same _ rfl
  | engageToolLockout toolId reason => exact same _ rfl
  | evaluateCircuitOverages => exact same _ rfl
  | setSessionGrace minutes => exact same _ rfl

omit [LinearOrder Uuid] in
theorem later_refl (s : Workshop Uuid Json) : Later s s := le_refl s.clock

omit [LinearOrder Uuid] in
theorem later_trans (s t u : Workshop Uuid Json) (first : Later s t) (second : Later t u) : Later s u :=
  le_trans first second

end Workshop

namespace WorkshopRoutine
variable {Uuid Json Answer Other : Type} [LinearOrder Uuid] {rules : WorkshopRules Json} {now : Int}

/-- Taken up at that time or after, it makes only timely changes. -/
def TimelyFrom (rules : WorkshopRules Json) (now : Int) (routine : WorkshopRoutine Uuid Json Answer) : Prop :=
  ∀ s : Workshop Uuid Json, now ≤ s.clock → routine.Relies (Workshop.perform rules) Workshop.Later Workshop.Timely s

theorem timely_done (answer : Answer) :
    TimelyFrom rules now (.done answer : WorkshopRoutine Uuid Json Answer) := fun _ _ => trivial

theorem timely_read {next : Workshop Uuid Json → WorkshopRoutine Uuid Json Answer}
    (rest : ∀ w, now ≤ w.clock → TimelyFrom rules w.clock (next w)) : TimelyFrom rules now (.read next) :=
  fun _ reached t moved => rest t (reached.trans moved) t (le_refl _)

theorem TimelyFrom.from {routine : WorkshopRoutine Uuid Json Answer} (timely : TimelyFrom rules now routine)
    {after : Int}
    (later : now ≤ after) : TimelyFrom rules after routine := fun s reached => timely s (later.trans reached)

theorem timely_of_asDevice {routine : WorkshopRoutine Uuid Json Answer} (meets : routine.AsDevice True) :
    TimelyFrom rules now routine :=
  fun s _ => Routine.Meets.relies (fun _ change byDevice judged swept => by
    obtain ⟨cause, statement⟩ := change
    cases cause with
    | plain => cases swept
    | usage toolId member seen => cases swept
    | swept judged => exact absurd rfl (byDevice.2 judged)) meets s

variable {next : Nat → WorkshopRoutine Uuid Json WorkshopAnswer} {statement : WorkshopStatement Uuid}

theorem timely_sending {cause : Cause Uuid} {refused : DbError → ApiError}
    (timely : ∀ t : Workshop Uuid Json, now ≤ t.clock → t.Timely ⟨cause, statement⟩)
    (rest : ∀ n, TimelyFrom rules now (next n)) : TimelyFrom rules now (sending cause statement refused next) := by
  intro s reached t moved
  have there : now ≤ t.clock := le_trans reached moved
  refine ⟨timely t there, ?_⟩
  rcases (Workshop.perform rules t _).2 with e | n
  · trivial
  · exact rest n _ (le_trans there (Workshop.later_perform t _))

theorem timely_plain {refused : DbError → ApiError} (rest : ∀ n, TimelyFrom rules now (next n)) :
    TimelyFrom rules now (sending .plain statement refused next) :=
  timely_sending (fun _ _ judged swept => by cases swept) rest

variable {judged : Judged}

omit [LinearOrder Uuid] in
theorem timely_swept (read : judged.now ≤ now) (overdue : judged.Overdue) (t : Workshop Uuid Json)
    (reached : now ≤ t.clock) : t.Timely ⟨.swept judged, statement⟩ := by
  intro other same
  obtain rfl := Option.some.inj same
  exact ⟨read.trans reached, overdue⟩

theorem timely_billed (read : judged.now ≤ now) (overdue : judged.Overdue) (routine : BillingRoutine Uuid)
    {next : WorkshopRoutine Uuid Json Other} (rest : TimelyFrom rules now next) :
    TimelyFrom rules now ((billed (.swept judged) routine).bind fun _ => next) := by
  intro s reached
  have lasts : ∀ a b : Workshop Uuid Json, Workshop.Later a b → now ≤ a.clock → now ≤ b.clock :=
    fun _ _ moved here => le_trans here moved
  have kept : ∀ (a : Workshop Uuid Json) (change : WorkshopWrite Uuid), now ≤ a.clock →
      now ≤ (a.perform rules change).1.clock :=
    fun a change here => le_trans here (Workshop.later_perform a change)
  have bills : (billed (.swept judged) routine : WorkshopRoutine Uuid Json _).Relies
    (Workshop.perform rules) Workshop.Later
      (fun _ change => ∃ part, change = ⟨.swept judged, .bill part⟩) s :=
    (Routine.meets_lift _ _ routine).relies (fun _ _ part => part) s
  have timely := bills.knowing lasts kept (fun t change here part => by
    obtain ⟨part, rfl⟩ := part
    exact timely_swept read overdue t here) reached
  exact timely.bind_knowing lasts kept reached fun _ t here => rest t here

variable (rules)

theorem timely_release {tool : LoadedTool Uuid} {userId : Option Uuid} (read : judged.now ≤ now)
    (overdue : judged.Overdue)
    {next : WorkshopRoutine Uuid Json WorkshopAnswer} (rest : TimelyFrom rules now next) :
    TimelyFrom rules now (release rules judged tool userId next) := by
  have free : ∀ after, now ≤ after →
    TimelyFrom rules after (sending (.swept judged) (.updateToolStatus tool.tool.id .idle) .ofDb fun _ =>
      sending .plain
        (.createToolEvent tool.tool.id "deactivated" (some tool.tool.status) (some .idle) userId) .ofDb
        fun _ => next) :=
    fun after later => timely_sending (timely_swept (read.trans later) overdue) fun _ => timely_plain fun _ =>
      rest.from later
  unfold release
  dsimp only
  split
  · exact timely_read fun w reached => timely_billed (read.trans reached) overdue _ (free _ reached)
  · exact free now (le_refl _)

theorem timely_sweepTools (grace defaultCap began : Int) (rest : ∀ n, TimelyFrom rules began (next n))
    (released : Nat) (tools : List (LoadedTool Uuid)) :
    TimelyFrom rules began (sweepTools rules grace defaultCap began next released tools) := by
  induction tools generalizing released with
  | nil => exact rest released
  | cons tool later ih =>
    refine timely_read fun w reached => ?_
    dsimp only
    split
    · exact (ih released).from reached
    · rename_i overdue
      exact timely_release rules reached (not_le.mp overdue) ((ih (released + 1)).from reached)

theorem timely_sweepRooms (grace defaultCap began : Int) (read : began ≤ now)
    (rest : ∀ n, TimelyFrom rules now (next n)) (released : Nat) (sessions : List (ResourceSession Uuid))
    (overdue : ∀ session ∈ sessions, session.openedAt < abandonedCutoff defaultCap grace began) :
    TimelyFrom rules now (sweepRooms grace defaultCap began next released sessions) := by
  induction sessions generalizing released with
  | nil => exact rest released
  | cons session later ih =>
    have first : Judged.Overdue ⟨session.openedAt, began, defaultCap, grace⟩ :=
      overdue session (List.mem_cons_self ..)
    refine timely_sending (timely_swept read first) fun closed => ?_
    exact ih (released + closed) fun other member => overdue other (List.mem_cons_of_mem _ member)

theorem timely_settleAbandoned (grace began : Int) {next : WorkshopRoutine Uuid Json WorkshopAnswer}
    (rest : TimelyFrom rules began next)
    (sessions : List (Uuid × ToolUsageSession Uuid)) :
    TimelyFrom rules began (settleAbandoned rules grace began next sessions) := by
  induction sessions with
  | nil => exact rest
  | cons session later ih =>
    refine timely_read fun w reached => ?_
    split
    · exact ih.from reached
    · refine timely_read fun w reached' => ?_
      dsimp only
      split
      · exact ih.from (reached.trans reached')
      · rename_i overdue
        refine timely_read fun w reached'' => ?_
        exact timely_billed ((reached.trans reached').trans reached'') (not_le.mp overdue) _
          (ih.from ((reached.trans reached').trans reached''))

theorem timely_sweepOnce : TimelyFrom rules now (sweepOnce rules : WorkshopRoutine Uuid Json _) := by
  have abandoned : ∀ began released,
      TimelyFrom rules began (sweepAbandoned rules (.done (.swept released)) : WorkshopRoutine Uuid Json _) := by
    intro began released
    unfold sweepAbandoned
    split
    · refine timely_read fun w _ => timely_read fun w' reached => ?_
      exact (timely_settleAbandoned rules _ _ (timely_done _) _).from reached
    · exact timely_done _
  refine timely_read fun w _ => timely_read fun w' reached => ?_
  refine (timely_sweepTools rules _ _ w.clock (fun released => ?_) 0 _).from reached
  refine timely_read fun w'' read => timely_read fun v further => ?_
  refine timely_sweepRooms rules _ _ w.clock (read.trans further)
    (abandoned v.clock) released _ fun session member => ?_
  have fits := (List.mem_filter.mp member).2
  rw [Bool.and_eq_true, decide_eq_true_eq] at fits
  exact fits.2

variable [IdText Uuid]

theorem serve_timely (request : WorkshopRequest Uuid) :
    TimelyFrom rules now (serve rules request : WorkshopRoutine Uuid Json _) := by
  cases request with
  | scan device id card sessionId => exact timely_of_asDevice (asDevice_scan rules device id card sessionId)
  | stop device id card => exact timely_of_asDevice (asDevice_stop rules device id card)
  | usage device id report => exact timely_of_asDevice (asDevice_usage rules device id report)
  | bootReset device => exact timely_of_asDevice (asDevice_read fun w => asDevice_resetTools rules _ _)
  | alive device subject => exact timely_of_asDevice (asDevice_of_namesNone (alive_namesNone device subject))
  | powerReport device report =>
    exact timely_of_asDevice (asDevice_of_namesNone (powerReport_namesNone device report))
  | doorsEvent device event => exact timely_of_asDevice (asDevice_handleDoorsEvent rules device event)
  | adminStop id => exact timely_of_asDevice (asDevice_adminStop rules id)
  | sweep => exact timely_sweepOnce rules
  | changeToolStatus staff toolId status =>
    refine timely_read fun w _ => ?_
    split
    · exact timely_done _
    · refine timely_plain fun _ s _ t _ => ⟨fun judged swept => ?_, trivial⟩
      cases swept
  | updateTool toolId status billed => exact timely_plain fun _ => timely_done _
  | addToolEvent toolId eventType oldStatus newStatus userId => exact timely_plain fun _ => timely_done _
  | edit change => exact timely_plain fun _ => timely_done _
  | setSessionGrace minutes => exact timely_plain fun _ => timely_done _
  | tick micros => exact timely_plain fun _ => timely_done _

end WorkshopRoutine

namespace Workshop
variable {Uuid Json : Type} [LinearOrder Uuid]

/-- A use that the sweep ends is none later than the one it judged, and has lasted for its cap and the
grace, as they are now. -/
def EndsAbandoned (w : Workshop Uuid Json) (change : WorkshopWrite Uuid) : Prop :=
  ∀ judged ∈ change.cause.judged, ∀ use ∈ w.endedUses change.statement,
    use.began ≤ judged.since ∧ use.began ≤ abandonedCutoff use.cap w.sessionGraceMinutes w.clock

/-- A use that the sweep ends is none later than the one it judged, and its cap and the grace are
together no longer than they were taken to be. -/
def EndsJudged (w : Workshop Uuid Json) (change : WorkshopWrite Uuid) : Prop :=
  ∀ judged ∈ change.cause.judged, ∀ use ∈ w.endedUses change.statement,
    use.began ≤ judged.since ∧ max use.cap 1 + max w.sessionGraceMinutes 0 ≤ max judged.cap 1 + max judged.grace 0

instance (w : Workshop Uuid Json) (change : WorkshopWrite Uuid) : Decidable (w.EndsAbandoned change) :=
  inferInstanceAs (Decidable (∀ judged ∈ change.cause.judged, ∀ use ∈ w.endedUses change.statement,
    use.began ≤ judged.since ∧ use.began ≤ abandonedCutoff use.cap w.sessionGraceMinutes w.clock))

instance (w : Workshop Uuid Json) (change : WorkshopWrite Uuid) : Decidable (w.EndsJudged change) :=
  inferInstanceAs (Decidable (∀ judged ∈ change.cause.judged, ∀ use ∈ w.endedUses change.statement,
    use.began ≤ judged.since ∧ max use.cap 1 + max w.sessionGraceMinutes 0 ≤ max judged.cap 1 + max judged.grace 0))

theorem EndsJudged.abandoned {w : Workshop Uuid Json} {change : WorkshopWrite Uuid} (ends : w.EndsJudged change)
    (timely : w.Timely change) : w.EndsAbandoned change := by
  intro judged swept use ended
  obtain ⟨earlier, shorter⟩ := ends judged swept use ended
  obtain ⟨read, overdue⟩ := timely judged swept
  refine ⟨earlier, ?_⟩
  have before : judged.since < judged.now - (max judged.cap 1 + max judged.grace 0) * 60000000 := overdue
  have last : use.began ≤ w.clock - (max use.cap 1 + max w.sessionGraceMinutes 0) * 60000000 := by omega
  exact last

end Workshop

section Sweeps
variable {Uuid Json : Type} [LinearOrder Uuid] [IdText Uuid] (rules : WorkshopRules Json)

def SweepsAbandoned (pool : WorkshopPool Uuid Json) (event : Service.Event (WorkshopRequest Uuid)) : Prop :=
  ∀ performed ∈ ((workshopService rules).step pool event).2, pool.state.EndsAbandoned performed.change

def SweepsJudged (pool : WorkshopPool Uuid Json) (event : Service.Event (WorkshopRequest Uuid)) : Prop :=
  ∀ performed ∈ ((workshopService rules).step pool event).2, pool.state.EndsJudged performed.change

end Sweeps

open Service.Event WorkshopRequest

/-- The lathe is used and never stopped, and the sweep comes after its cap and the grace. -/
def leftRunning : List (Service.Event (WorkshopRequest Nat)) :=
  [arrive (scan 10 "lathe" "A" 100)] ++ List.replicate 10 (step 0) ++
    [arrive (tick 4600000000), step 1, arrive sweep] ++ List.replicate 20 (step 2)

/-- Staff put the lathe in use by hand, long after a use by card that was stopped. -/
def handSet : List (Service.Event (WorkshopRequest Nat)) :=
  [arrive (scan 10 "lathe" "A" 100)] ++ List.replicate 10 (step 0) ++ [arrive (stop 10 "lathe" none)] ++
    List.replicate 10 (step 1) ++ [arrive (tick 4600000000), step 2, arrive (changeToolStatus 2 8 .inUse)] ++
      List.replicate 10 (step 3) ++ [arrive sweep] ++ List.replicate 5 (step 4)

end CoopSpaces

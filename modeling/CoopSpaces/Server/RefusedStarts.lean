import CoopSpaces.Server.UsageReports

namespace CoopSpaces

/-- The billing session a statement opens. -/
def WorkshopStatement.opens {Uuid : Type} : WorkshopStatement Uuid → Option Uuid
  | .bill (.insertToolSession id _) => some id
  | _ => none

abbrev WorkshopOutcome (Uuid Json : Type) := Routine.Outcome (Workshop Uuid Json) (WorkshopWrite Uuid) WorkshopAnswer

namespace WorkshopOutcome
variable {Uuid Json : Type} [LinearOrder Uuid] (rules : WorkshopRules Json) (out : WorkshopOutcome Uuid Json)

def Succeeds (out : WorkshopOutcome Uuid Json) : Prop :=
  ∃ pulseMs, out.answer = some (.replied (.resourceAuthorized pulseMs))

/-- The call opened this session: its insertion was not refused where it landed. -/
def Opened (id : Uuid) : Prop :=
  ∃ entry ∈ out.landed, entry.2.statement.opens = some id ∧ (entry.1.perform rules entry.2).2 = .ok 1

/-- The call took the tool: it was idle as its status was to change. -/
def Took (toolId : Uuid) : Prop :=
  ∃ entry ∈ out.landed, entry.2.statement = .tryActivateTool toolId ∧ entry.1.statusOf toolId = some .idle

/-- The event of the activation was sent with its tool and its member there to refer to. -/
def Recorded (toolId : Uuid) : Prop :=
  ∃ entry ∈ out.landed, ∃ oldStatus userId,
    entry.2.statement = .createToolEvent toolId "activated" oldStatus (some .inUse) (some userId) ∧
      (entry.1.statusOf toolId).isSome = true ∧ (entry.1.site.accounts.findUserById userId).isSome = true

/-- Nothing the call did is left: no session it opened is open, with its hold, and a tool it took
has the status it had. -/
structure LeavesNothing : Prop where
  sessions : ∀ id, out.Opened rules id → ¬ out.last.SessionOpen id
  status : ∀ toolId, out.Took toolId → out.last.statusOf toolId = some .idle

/-- The start goes through: the tool is idle as its status is to change, and the event finds what
it refers to. -/
def GoesThrough : Prop := ∃ toolId, out.Took toolId ∧ out.Recorded toolId

/-- A start that placed a hold or took the tool goes through, or somebody else has ended what it
left by its end. -/
structure Undone : Prop where
  sessions : ∀ id, out.Opened rules id → out.GoesThrough ∨ ¬ out.last.SessionOpen id
  status : ∀ toolId, out.Took toolId → out.GoesThrough ∨ out.last.statusOf toolId = some .idle

variable {rules out}

theorem leavesNothing_iff (exact_ : out.Succeeds ↔ out.GoesThrough) :
    (¬ out.Succeeds → out.LeavesNothing rules) ↔ out.Undone rules := by
  rw [exact_]
  by_cases through : out.GoesThrough
  · have undone : out.Undone rules := ⟨fun _ _ => .inl through, fun _ _ => .inl through⟩
    exact iff_of_true (fun stops => absurd through stops) undone
  · constructor
    · intro leaves
      have nothing := leaves through
      exact ⟨fun id opened => .inr (nothing.sessions id opened), fun toolId took => .inr (nothing.status toolId took)⟩
    · intro undone _
      have sessions : ∀ id, out.Opened rules id → ¬ out.last.SessionOpen id := by
        intro id opened
        rcases undone.sessions id opened with goes | shut
        · exact absurd goes through
        · exact shut
      have status : ∀ toolId, out.Took toolId → out.last.statusOf toolId = some .idle := by
        intro toolId took
        rcases undone.status toolId took with goes | idle
        · exact absurd goes through
        · exact idle
      exact ⟨sessions, status⟩

end WorkshopOutcome

namespace WorkshopRoutine
open WorkshopOutcome
variable {Uuid Json : Type} [LinearOrder Uuid] (rules : WorkshopRules Json)
  {landed : List (Workshop Uuid Json × WorkshopWrite Uuid)} {last : Workshop Uuid Json}

/-- The hold and nothing else, or not even that. -/
def HoldOnly (landed : List (Workshop Uuid Json × WorkshopWrite Uuid)) : Prop :=
  ∀ entry ∈ landed, ∃ id, entry.2.statement.opens = some id

/-- Success is what comes of going through, and of that alone. -/
def Exact (out : WorkshopOutcome Uuid Json) : Prop := out.Succeeds ↔ out.GoesThrough

theorem exact_of_stopped {answer : Option WorkshopAnswer}
    (stopped : ∀ pulseMs, answer ≠ some (.replied (.resourceAuthorized pulseMs)))
    (short : ¬ GoesThrough ⟨landed, last, answer⟩) : Exact ⟨landed, last, answer⟩ := by
  refine iff_of_false ?_ short
  rintro ⟨pulseMs, answered⟩
  exact stopped pulseMs answered

theorem HoldOnly.short (holds : HoldOnly landed) (answer : Option WorkshopAnswer) :
    ¬ GoesThrough ⟨landed, last, answer⟩ := by
  rintro ⟨toolId, ⟨entry, member, sent, -⟩, -⟩
  obtain ⟨id, held⟩ := holds entry member
  rw [sent] at held
  cases held

theorem exact_of_holdOnly (holds : HoldOnly landed) {answer : Option WorkshopAnswer}
    (stopped : ∀ pulseMs, answer ≠ some (.replied (.resourceAuthorized pulseMs))) : Exact ⟨landed, last, answer⟩ :=
  exact_of_stopped stopped (holds.short answer)

theorem perform_tryActivateTool_idle {s : Workshop Uuid Json} {cause : Cause Uuid} {toolId : Uuid}
    (idle : s.statusOf toolId = some .idle) :
    s.perform rules ⟨cause, .tryActivateTool toolId⟩ = (s.setToolStatus toolId .inUse, .ok 1) := if_pos idle

theorem perform_tryActivateTool_taken {s : Workshop Uuid Json} {cause : Cause Uuid} {toolId : Uuid}
    (taken : s.statusOf toolId ≠ some .idle) :
    s.perform rules ⟨cause, .tryActivateTool toolId⟩ = (s, .ok 0) := if_neg taken

/-- From the change of status on: the one who finds the tool taken has a hold and no more, and
after it there is only the event. -/
theorem along_start (holds : HoldOnly landed) (tool : LoadedTool Uuid) (userId : Uuid) (last : Workshop Uuid Json) :
    (start rules tool userId).Along (Workshop.perform rules) Exact landed last := by
  intro s
  refine ⟨exact_of_holdOnly holds (by rintro _ ⟨⟩), ?_⟩
  have unsent : ∀ entry ∈ landed ++ [(s, ⟨.plain, .tryActivateTool tool.tool.id⟩)], ∀ toolId oldStatus userId,
      entry.2.statement ≠ .createToolEvent toolId "activated" oldStatus (some .inUse) (some userId) := by
    intro entry member toolId oldStatus userId sent
    rcases List.mem_append.mp member with before | now
    · obtain ⟨id, held⟩ := holds entry before
      rw [sent] at held
      cases held
    · rw [List.mem_singleton.mp now] at sent
      cases sent
  have unrecorded : ∀ (t : Workshop Uuid Json) (answer : Option WorkshopAnswer),
      ¬ GoesThrough ⟨landed ++ [(s, ⟨.plain, .tryActivateTool tool.tool.id⟩)], t, answer⟩ := by
    rintro t answer ⟨toolId, -, entry, member, oldStatus, userId, sent, -⟩
    exact unsent entry member toolId oldStatus userId sent
  by_cases idle : s.statusOf tool.tool.id = some .idle
  · rw [perform_tryActivateTool_idle rules idle]
    intro t
    refine ⟨exact_of_stopped (by rintro _ ⟨⟩) (unrecorded t none), ?_⟩
    let event : WorkshopWrite Uuid :=
      ⟨.plain, .createToolEvent tool.tool.id "activated" (some tool.tool.status) (some .inUse) (some userId)⟩
    have cas : (s, (⟨.plain, .tryActivateTool tool.tool.id⟩ : WorkshopWrite Uuid)) ∈
        landed ++ [(s, ⟨.plain, .tryActivateTool tool.tool.id⟩)] :=
          List.mem_append_right _ (List.mem_singleton_self _)
    by_cases refers : ((t.statusOf tool.tool.id).isSome && (t.site.accounts.findUserById userId).isSome) = true
    · have accepted : (t.perform rules event).2 = .ok 1 := by
        show (t.execute rules event.statement).2 = .ok 1
        simp only [event, Workshop.execute, Option.all_some, refers, if_true]
      rw [accepted]
      obtain ⟨there, member⟩ := (Bool.and_eq_true _ _).mp refers
      have took : Took ⟨landed ++ [(s, ⟨.plain, .tryActivateTool tool.tool.id⟩)] ++ [(t, event)],
        (t.perform rules event).1, some (.replied (.resourceAuthorized none))⟩ tool.tool.id :=
          ⟨_, List.mem_append_left _ cas, rfl, idle⟩
      exact iff_of_true ⟨none, rfl⟩
        ⟨_, took, _, List.mem_append_right _ (List.mem_singleton_self _), _, userId, rfl, there, member⟩
    · have refused : (t.perform rules event).2 = .error .foreignKeyViolation := congrArg Prod.snd (if_neg refers)
      rw [refused]
      refine exact_of_stopped (by rintro _ ⟨⟩) ?_
      rintro ⟨toolId, -, entry, member, oldStatus, other, sent, there, known⟩
      rcases List.mem_append.mp member with before | now
      · exact unsent entry before toolId oldStatus other sent
      · obtain rfl := List.mem_singleton.mp now
        obtain ⟨rfl, -, -, -, same⟩ := WorkshopStatement.createToolEvent.inj sent
        obtain rfl := Option.some.inj same
        exact refers ((Bool.and_eq_true _ _).mpr ⟨there, known⟩)
  · rw [perform_tryActivateTool_taken rules idle]
    exact exact_of_stopped (by rintro _ ⟨⟩) (unrecorded s _)

/-- Opening the session places the hold, and makes no other change. -/
theorem along_openLoaded (now : Int) (id userId toolId : Uuid) (row : BilledTool) (last : Workshop Uuid Json) :
    (billed .plain (BillingRequest.openLoaded (SyncTables.arithmetic rules.sync) now id userId toolId row) :
      WorkshopRoutine Uuid Json (BillingAnswer Uuid)).Along (Workshop.perform rules)
        (fun out => HoldOnly out.landed) [] last := by
  have none_ : HoldOnly ([] : List (Workshop Uuid Json × WorkshopWrite Uuid)) := fun entry member => by cases member
  intro s
  refine ⟨none_, ?_⟩
  dsimp only
  split
  · exact none_
  · refine fun s => ⟨none_, fun s => ⟨none_, ?_⟩⟩
    dsimp only
    split
    · exact none_
    · refine fun s => ⟨none_, fun s => ⟨none_, fun s => ⟨none_, ?_⟩⟩⟩
      dsimp only
      split
      · exact none_
      · refine fun s => ⟨none_, fun s => ⟨none_, ?_⟩⟩
        generalize Workshop.perform rules s _ = made
        have placed : ∀ change : WorkshopWrite Uuid, change.statement.opens = some id → HoldOnly [(s, change)] := by
          intro change opens entry member
          rw [List.mem_singleton.mp member]
          exact ⟨id, opens⟩
        rcases made.2 with e | n
        · exact placed _ rfl
        · exact placed _ rfl

variable [IdText Uuid]

/-- Whatever state each step of a start finds, and wherever one fails, it comes to success just
when it goes through. -/
theorem along_activateTool (tool : Option (LoadedTool Uuid)) (card : String) (sessionId : Uuid)
    (last : Workshop Uuid Json) :
    (activateTool rules tool card sessionId).Along (Workshop.perform rules) Exact [] last := by
  have none_ : HoldOnly ([] : List (Workshop Uuid Json × WorkshopWrite Uuid)) := fun entry member => by cases member
  have denied :
    ∀ (reason : String) (s : Workshop Uuid Json) (landed : List (Workshop Uuid Json × WorkshopWrite Uuid)),
      HoldOnly landed → Exact ⟨landed, s, some (.replied (.resourceDenied reason))⟩ :=
    fun reason s landed holds => exact_of_holdOnly holds (by rintro _ ⟨⟩)
  have fails : ∀ (s : Workshop Uuid Json) (landed : List (Workshop Uuid Json × WorkshopWrite Uuid)),
      HoldOnly landed → Exact ⟨landed, s, none⟩ := fun s landed holds => exact_of_holdOnly holds (by rintro _ ⟨⟩)
  intro s
  refine ⟨fails s [] none_, ?_⟩
  dsimp only
  split
  · exact exact_of_holdOnly none_ (by rintro _ ⟨⟩)
  · exact denied _ s [] none_
  · exact denied _ s [] none_
  · split
    · exact denied _ s [] none_
    · split
      · exact denied _ s [] none_
      · rename_i loaded
        split
        · exact denied _ s [] none_
        · intro s
          refine ⟨fails s [] none_, ?_⟩
          dsimp only
          split
          · exact denied _ s [] none_
          · split
            · intro s
              refine ⟨fails s [] none_, ?_⟩
              refine (along_openLoaded rules s.clock sessionId _ loaded.tool.id loaded.billed s).bind
                (fun landed last holds => fails last landed holds) fun landed last answer holds => ?_
              split
              · exact denied _ last landed holds
              · exact exact_of_holdOnly holds (by rintro _ ⟨⟩)
              · exact along_start rules holds loaded _ last
            · exact along_start rules none_ loaded _ s

end WorkshopRoutine

/-- The press under maintenance, and as a scan had loaded it before that. -/
def maintained : Workshop Nat Unit := shopFloor.setToolStatus 7 .maintenance

def loadedPress : LoadedTool Nat :=
  ⟨⟨7, some "press", "Press", .idle, false, none⟩, ⟨some 10, none, none, "occupancy"⟩, 0⟩

end CoopSpaces

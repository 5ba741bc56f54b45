import CoopSpaces.Server.Settlements

namespace CoopSpaces

/-- An accepted report: its seconds, and what it says of active ones, if it says anything of them. -/
structure AcceptedReport where
  seconds : Rat
  activeSeconds : Option (Option Rat)
  deriving DecidableEq

/-- Figures added up, none if there are none. -/
def totalled (figures : List Rat) : Option Rat := if figures = [] then none else some figures.sum

namespace AcceptedReport

/-- It comes from a device that senses the machine. -/
def senses (r : AcceptedReport) : Bool := r.activeSeconds.isSome

/-- Its seconds, as they are recorded. -/
def recorded (r : AcceptedReport) : Rat := BillingRequest.thousandths r.seconds

/-- Its active seconds, if they are a figure, as they are recorded. -/
def active (r : AcceptedReport) : Option Rat :=
  (r.activeSeconds.join.filter fun x => decide (0 ≤ x)).map BillingRequest.thousandths

/-- The sensed seconds all together, or the others where nothing was sensed. -/
def reportedTotal (reports : List AcceptedReport) : Option Rat :=
  totalled (if reports.any (·.senses) then (reports.filter (·.senses)).map (·.recorded) else reports.map (·.recorded))

def activeTotal (reports : List AcceptedReport) : Option Rat := totalled (reports.filterMap (·.active))

/-- What the report adds to a figure. -/
def figure (r : AcceptedReport) : UsageFigure → Option Rat
  | .sensed => if r.senses then some r.recorded else none
  | .unsensed => if r.senses then none else some r.recorded
  | .active => r.active

end AcceptedReport

section Statements
variable {Uuid : Type} [DecidableEq Uuid]

/-- The figure that a statement adds to a session. -/
def BillingWrite.figureOn (id : Uuid) (figure : UsageFigure) : BillingWrite Uuid → Option Rat
  | .addReportedSeconds other seconds sensed =>
    if other = id ∧ figure = (if sensed then .sensed else .unsensed) then some seconds else none
  | .addReportedActiveSeconds other seconds => if other = id ∧ figure = .active then some seconds else none
  | _ => none

/-- The session that a statement of a report names. -/
def BillingWrite.reportsOn : BillingWrite Uuid → Option Uuid
  | .addReportedSeconds id _ _ => some id
  | .addReportedActiveSeconds id _ => some id
  | _ => none

/-- The statements of a report that is accepted. -/
def AcceptedReport.writes (r : AcceptedReport) (id : Uuid) : List (BillingWrite Uuid) :=
  .addReportedSeconds id r.recorded r.senses :: (r.active.map (.addReportedActiveSeconds id)).toList

/-- The report a call has had accepted on a session, if it is one: its statements name that session. -/
def acceptedAt (id : Uuid) (pool : BillingPool Uuid) (log : List (Nat × BillingWrite Uuid)) (index : Nat) :
    Option AcceptedReport :=
  match pool.tasks[index]? with
  | some (.recordUsage _ (some seconds) activeSeconds, .done (.recorded true)) =>
    if (Service.byIndex index log).head?.bind BillingWrite.reportsOn = some id then
      some ⟨seconds, activeSeconds⟩
    else none
  | _ => none

/-- The reports accepted on a session, in the order they arrived in. -/
def acceptedOn (id : Uuid) (pool : BillingPool Uuid) (log : List (Nat × BillingWrite Uuid)) : List AcceptedReport :=
  (List.range pool.tasks.length).filterMap (acceptedAt id pool log)

end Statements

section Run
variable {Uuid : Type} [DecidableEq Uuid] (rules : BillingRules Uuid)

/-- The reports accepted on a session in a run. -/
def reportsOf (start : BillingTables Uuid) (id : Uuid) (schedule : List (Service.Event (BillingRequest Uuid))) :
    List AcceptedReport :=
  acceptedOn id (((billingService rules).machine start).run schedule)
    (((billingService rules).machine start).history (billingService rules).watch schedule)

/-- A run after which the session is open still, as this row, and no report is under way. -/
structure StillOpen (start : BillingTables Uuid) (id : Uuid) (schedule : List (Service.Event (BillingRequest Uuid)))
    (row : ToolUsageSession Uuid) : Prop where
  found : (((billingService rules).machine start).run schedule).state.sessions.lookup id = some row
  isOpen : row.status = .open_
  returned : ∀ toolId seconds activeSeconds routine,
    (.recordUsage toolId seconds activeSeconds, routine) ∈
        (((billingService rules).machine start).run schedule).tasks →
      ∃ answer, routine = .done answer

end Run

namespace AcceptedReport
variable {reports reports' : List AcceptedReport}

theorem totalled_perm {figures figures' : List Rat} (same : figures.Perm figures') :
    totalled figures = totalled figures' := by
  unfold totalled
  rw [same.sum_eq]
  by_cases none_ : figures = []
  · rw [if_pos none_, if_pos (List.perm_nil.mp (none_ ▸ same.symm))]
  · have some_ : figures' ≠ [] := fun none' => none_ (List.perm_nil.mp (none' ▸ same))
    rw [if_neg none_, if_neg some_]

theorem totalled_snoc (figures : List Rat) (figure : Rat) :
    totalled (figures ++ [figure]) = some ((totalled figures).getD 0 + figure) := by
  unfold totalled
  by_cases none_ : figures = []
  · simp [none_]
  · simp [none_]

theorem reportedTotal_perm (same : reports.Perm reports') : reportedTotal reports = reportedTotal reports' := by
  have anyone : reports.any (·.senses) = reports'.any (·.senses) := by
    rw [Bool.eq_iff_iff, List.any_eq_true, List.any_eq_true]
    exact exists_congr fun r => and_congr_left fun _ => same.mem_iff
  unfold reportedTotal
  rw [anyone]
  split
  · exact totalled_perm ((same.filter _).map _)
  · exact totalled_perm (same.map _)

theorem activeTotal_perm (same : reports.Perm reports') : activeTotal reports = activeTotal reports' :=
  totalled_perm (same.filterMap _)

theorem filterMap_sensed (reports : List AcceptedReport) :
    reports.filterMap (·.figure .sensed) = (reports.filter (·.senses)).map (·.recorded) := by
  induction reports with
  | nil => rfl
  | cons r rest ih =>
    rw [List.filterMap_cons, List.filter_cons, ih]
    cases sensing : r.senses <;> simp [figure, sensing]

theorem filterMap_unsensed (none_ : reports.any (·.senses) = false) :
    reports.filterMap (·.figure .unsensed) = reports.map (·.recorded) := by
  rw [← List.filterMap_eq_map]
  refine List.filterMap_congr fun r there => ?_
  have unsensing := List.any_eq_false.mp none_ r there
  simp [figure, unsensing]

theorem reportedTotal_eq (reports : List AcceptedReport) : reportedTotal reports =
    (totalled (reports.filterMap (·.figure .sensed))).or (totalled (reports.filterMap (·.figure .unsensed))) := by
  rw [filterMap_sensed, reportedTotal]
  cases sensing : reports.any (·.senses) with
  | true =>
    obtain ⟨r, there, senses⟩ := List.any_eq_true.mp sensing
    have some_ : (reports.filter (·.senses)).map (·.recorded) ≠ [] :=
      List.ne_nil_of_mem (List.mem_map_of_mem (List.mem_filter.mpr ⟨there, senses⟩))
    rw [if_pos rfl, totalled, if_neg some_]
    rfl
  | false =>
    have none_ : reports.filter (·.senses) = [] :=
      List.filter_eq_nil_iff.mpr fun r there => List.any_eq_false.mp sensing r there
    rw [if_neg Bool.false_ne_true, none_, filterMap_unsensed sensing]
    rfl

end AcceptedReport

section Rows
variable {Uuid : Type} [DecidableEq Uuid] {rules : BillingRules Uuid} {s : BillingTables Uuid} {id : Uuid}
  {row : ToolUsageSession Uuid}

/-- What the statements of a log are to add to a figure of a session. -/
def figuresOf (id : Uuid) (figure : UsageFigure) (log : List (BillingWrite Uuid)) : List Rat :=
  log.filterMap (·.figureOn id figure)

/-- A row that tells what the statements of a log say of its session. -/
structure Tells (id : Uuid) (log : List (BillingWrite Uuid)) (row : ToolUsageSession Uuid) : Prop where
  figures : ∀ figure, row.figure figure = totalled (figuresOf id figure log)
  figured : row.Figured

theorem figuresOf_snoc (id : Uuid) (figure : UsageFigure) (log : List (BillingWrite Uuid))
    (change : BillingWrite Uuid) :
    figuresOf id figure (log ++ [change]) = figuresOf id figure log ++ (change.figureOn id figure).toList := by
  rw [figuresOf, List.filterMap_append]
  rfl

variable {log : List (BillingWrite Uuid)}

theorem Tells.other {change : BillingWrite Uuid} (tells : Tells id log row)
    (silent : ∀ figure, change.figureOn id figure = none) {after : ToolUsageSession Uuid}
    (same : ∀ figure, after.figure figure = row.figure figure) (total : after.reportedSeconds = row.reportedSeconds) :
    Tells id (log ++ [change]) after := by
  refine ⟨fun figure => ?_, ?_⟩
  · rw [figuresOf_snoc, silent, same, tells.figures]
    simp
  · have sensed := same .sensed
    have unsensed := same .unsensed
    have figured := tells.figured
    unfold ToolUsageSession.Figured at figured ⊢
    simp only [ToolUsageSession.figure] at sensed unsensed
    rw [total, sensed, unsensed, figured]

theorem Tells.reported (tells : Tells id log row) (seconds : Rat) (sensed : Bool) :
    Tells id (log ++ [.addReportedSeconds id seconds sensed]) (row.addReported seconds sensed) := by
  have figured := tells.figured
  unfold ToolUsageSession.Figured at figured
  refine ⟨fun figure => ?_, ?_⟩
  · have before := tells.figures figure
    rw [figuresOf_snoc]
    cases sensed <;> cases figure <;>
      simp_all [BillingWrite.figureOn, ToolUsageSession.figure, ToolUsageSession.addReported,
        AcceptedReport.totalled_snoc]
  · unfold ToolUsageSession.Figured ToolUsageSession.addReported
    cases sensed with
    | true => rfl
    | false =>
      cases already : row.reportedSensedSeconds with
      | none => simp
      | some before => simp [already, figured]

theorem Tells.worked (tells : Tells id log row) (seconds : Rat) :
    Tells id (log ++ [.addReportedActiveSeconds id seconds])
      { row with reportedActiveSeconds := some (row.reportedActiveSeconds.getD 0 + seconds) } := by
  refine ⟨fun figure => ?_, tells.figured⟩
  have before := tells.figures figure
  rw [figuresOf_snoc]
  cases figure <;> simp_all [BillingWrite.figureOn, ToolUsageSession.figure, AcceptedReport.totalled_snoc]

/-- While the session stays open, its row tells what each further statement says of it. -/
theorem Tells.perform {change : BillingWrite Uuid} {old : ToolUsageSession Uuid}
    (there : s.sessions.lookup id = some old) (tells : old.status = .open_ → Tells id log old)
    (closes : ∀ other reported charged ledgerEntry status,
      change = .settleToolSession other reported charged ledgerEntry status → status ≠ .open_)
    (found : (s.perform rules change).1.sessions.lookup id = some row) (isOpen : row.status = .open_) :
    Tells id (log ++ [change]) row := by
  cases change with
  | addReportedSeconds other seconds sensed =>
    rcases BillingTables.lookup_updateOpen found with ⟨stands, unmoved⟩ | ⟨before, stood, wasOpen, rfl, rfl⟩
    · obtain rfl := Option.some.inj (there.symm.trans stands)
      refine (tells isOpen).other ?_ (fun _ => rfl) rfl
      exact fun figure => if_neg fun both => unmoved isOpen both.1.symm
    · obtain rfl := Option.some.inj (there.symm.trans stood)
      exact (tells wasOpen).reported seconds sensed
  | addReportedActiveSeconds other seconds =>
    rcases BillingTables.lookup_updateOpen found with ⟨stands, unmoved⟩ | ⟨before, stood, wasOpen, rfl, rfl⟩
    · obtain rfl := Option.some.inj (there.symm.trans stands)
      refine (tells isOpen).other ?_ (fun _ => rfl) rfl
      exact fun figure => if_neg fun both => unmoved isOpen both.1.symm
    · obtain rfl := Option.some.inj (there.symm.trans stood)
      exact (tells wasOpen).worked seconds
  | settleToolSession other reported charged ledgerEntry status =>
    cases BillingTables.rowAfter_perform rules found with
    | kept tierId stands idle =>
      obtain rfl := Option.some.inj (there.symm.trans stands)
      exact (tells isOpen).other (fun _ => rfl) (fun figure => by cases figure <;> rfl) rfl
    | closed stands wasOpen => exact absurd isOpen (closes _ _ _ _ _ rfl)
  | insertToolSession other new =>
    cases BillingTables.rowAfter_perform rules found with
    | kept tierId stands idle =>
      obtain rfl := Option.some.inj (there.symm.trans stands)
      exact (tells isOpen).other (fun _ => rfl) (fun figure => by cases figure <;> rfl) rfl
    | opened absent =>
      rw [absent] at there
      cases there
  | _ =>
    cases BillingTables.rowAfter_perform rules found with
    | kept tierId stands idle =>
      obtain rfl := Option.some.inj (there.symm.trans stands)
      exact (tells isOpen).other (fun _ => rfl) (fun figure => by cases figure <;> rfl) rfl

end Rows

section Run
variable {Uuid : Type} [DecidableEq Uuid] {rules : BillingRules Uuid} {start : BillingTables Uuid} {id : Uuid}
  {opened : ToolUsageSession Uuid}

/-- While a session that began unused stays open, its row tells what the statements so far say. -/
theorem tells_run (found : start.sessions.lookup id = some opened) (unused : opened.Unused)
    (past : List (Service.Event (BillingRequest Uuid))) :
    ∃ row, (((billingService rules).machine start).run past).state.sessions.lookup id = some row ∧
      (row.status = .open_ → Tells id
        ((((billingService rules).machine start).history (billingService rules).watch past).map (·.2)) row) := by
  induction past using List.reverseRecOn with
  | nil =>
    refine ⟨opened, found, fun _ => ⟨fun figure => ?_, ?_⟩⟩
    · cases figure
      · exact unused.sensed
      · exact unused.unsensed
      · exact unused.active
    · unfold ToolUsageSession.Figured
      rw [unused.reported, unused.sensed, unused.unsensed]
      rfl
  | append_singleton past event ih =>
    obtain ⟨old, there, tells⟩ := ih
    have confined := Service.confined_run (billingService rules) (BillingRequest.serve_meets rules) start past
    rw [Machine.run_snoc, Machine.history_snoc, List.map_append]
    show ∃ row, ((billingService rules).step _ event).1.state.sessions.lookup id = some row ∧ _
    have logged := congrFun (congrFun (billingService rules).watch_eq
      (((billingService rules).machine start).run past)) event
    generalize ((billingService rules).machine start).run past = pool at *
    rcases (billingService rules).landing_cases pool event
      with ⟨silent, same⟩ | ⟨index, change, landed, after, performed, made, rfl⟩
    · rw [logged, silent, same]
      exact ⟨old, there, fun isOpen => by simpa using tells isOpen⟩
    · rw [logged, landed, after]
      have closes : ∀ other reported charged ledgerEntry status,
          performed.change = .settleToolSession other reported charged ledgerEntry status → status ≠ .open_ := by
        intro other reported charged ledgerEntry status settles
        have allowed := confined.allowed_of_performed made
        rw [settles] at allowed
        cases asked : performed.request with
        | settleOpenSessionForTool now toolId abandoned =>
          rw [asked] at allowed
          exact allowed
        | _ =>
          rw [asked] at allowed
          cases allowed
      cases found' : ((billingService rules).perform pool.state performed.change).1.sessions.lookup id with
      | none =>
        have absent := BillingTables.absent_of_perform rules found'
        rw [absent] at there
        cases there
      | some row => exact ⟨row, rfl, fun isOpen => Tells.perform there tells closes found' isOpen⟩

/-! What a call's statements are once it has come to its answer. -/

/-- What is promised of a request's statements: a usage report that has returned was refused
without one, or has had both of its own made; and no other request makes any of a report. -/
def Promised (request : BillingRequest Uuid)
    (out : Routine.Outcome (BillingTables Uuid) (BillingWrite Uuid) (BillingAnswer Uuid)) : Prop :=
  match request with
  | .recordUsage _ seconds activeSeconds => ∀ answer, out.answer = some answer →
      (answer = .recorded false ∧ out.landed.map (·.2) = []) ∨
        ∃ id reported, answer = .recorded true ∧ seconds = some reported ∧
          out.landed.map (·.2) = AcceptedReport.writes ⟨reported, activeSeconds⟩ id
  | _ => ∀ landed ∈ out.landed, landed.2.reportsOn = none

theorem updateOpen_ok (s : BillingTables Uuid) (id : Uuid) (edit : ToolUsageSession Uuid → ToolUsageSession Uuid) :
    ∃ n, (s.updateOpen id edit).2 = .ok n := by
  unfold BillingTables.updateOpen
  split
  · exact ⟨0, rfl⟩
  · split
    · exact ⟨1, rfl⟩
    · exact ⟨0, rfl⟩

theorem serve_promised (request : BillingRequest Uuid) (last : BillingTables Uuid) :
    (request.serve rules).Along (BillingTables.perform rules) (Promised request) [] last := by
  by_cases reports : ∃ toolId seconds activeSeconds, request = .recordUsage toolId seconds activeSeconds
  · obtain ⟨toolId, seconds, activeSeconds, rfl⟩ := reports
    have unanswered : ∀ landed s, Promised (.recordUsage toolId seconds activeSeconds) ⟨landed, s, none⟩ := by
      intro landed s answer none_
      cases none_
    have refused : ∀ s, Promised (.recordUsage toolId seconds activeSeconds) ⟨[], s, some (.recorded false)⟩ := by
      intro s answer same
      obtain rfl := Option.some.inj same
      exact .inl ⟨rfl, rfl⟩
    show (BillingRequest.usage toolId seconds activeSeconds).Along _ _ _ _
    unfold BillingRequest.usage
    split
    · exact refused last
    · rename_i reported valid
      obtain ⟨given, -⟩ := Option.filter_eq_some_iff.mp valid
      intro s
      refine ⟨unanswered _ _, ?_⟩
      dsimp only
      split
      · exact refused s
      · rename_i id session found
        intro t
        refine ⟨unanswered _ _, ?_⟩
        obtain ⟨n, ok⟩ := updateOpen_ok t id fun row =>
          row.addReported (BillingRequest.thousandths reported) activeSeconds.isSome
        have landed : (t.perform rules (.addReportedSeconds id (BillingRequest.thousandths reported)
            activeSeconds.isSome)).2 = .ok n := ok
        rw [landed]
        dsimp only
        split
        · rename_i none_
          intro answer same
          obtain rfl := Option.some.inj same
          refine .inr ⟨id, reported, rfl, given, ?_⟩
          simp [AcceptedReport.writes, AcceptedReport.recorded, AcceptedReport.active, AcceptedReport.senses, none_]
        · rename_i active some_
          intro u
          refine ⟨unanswered _ _, ?_⟩
          obtain ⟨m, ok'⟩ := updateOpen_ok u id fun row =>
            { row with
              reportedActiveSeconds := some (row.reportedActiveSeconds.getD 0 + BillingRequest.thousandths active) }
          have landed' : (u.perform rules (.addReportedActiveSeconds id (BillingRequest.thousandths active))).2 =
              .ok m := ok'
          rw [landed']
          intro answer same
          obtain rfl := Option.some.inj same
          refine .inr ⟨id, reported, rfl, given, ?_⟩
          simp [AcceptedReport.writes, AcceptedReport.recorded, AcceptedReport.active, AcceptedReport.senses, some_]
  · have meets : (request.serve rules).Meets (fun _ => True) request.Allowed fun _ => True :=
      BillingRequest.serve_meets rules request
    refine (meets.along (by simp) last).weaken fun out allowed => ?_
    have silent : ∀ landed ∈ out.landed, landed.2.reportsOn = none := by
      intro landed there
      have one := allowed landed there
      cases change : landed.2 with
      | addReportedSeconds id seconds sensed =>
        rw [change] at one
        cases request with
        | recordUsage toolId seconds activeSeconds => exact absurd ⟨_, _, _, rfl⟩ reports
        | _ => cases one
      | addReportedActiveSeconds id seconds =>
        rw [change] at one
        cases request with
        | recordUsage toolId seconds activeSeconds => exact absurd ⟨_, _, _, rfl⟩ reports
        | _ => cases one
      | _ => rfl
    cases request with
    | recordUsage toolId seconds activeSeconds => exact absurd ⟨_, _, _, rfl⟩ reports
    | _ => exact silent

theorem figuresOf_writes (r : AcceptedReport) (id other : Uuid) (figure : UsageFigure) :
    figuresOf id figure (r.writes other) = if other = id then (r.figure figure).toList else [] := by
  by_cases same : other = id
  · rw [if_pos same]
    cases figure <;> cases sensing : r.senses <;> cases worked : r.active <;>
      simp [figuresOf, AcceptedReport.writes, BillingWrite.figureOn, AcceptedReport.figure, same, sensing, worked]
  · rw [if_neg same]
    cases worked : r.active <;> simp [figuresOf, AcceptedReport.writes, BillingWrite.figureOn, same, worked]

theorem figureOn_of_silent {change : BillingWrite Uuid} (silent : change.reportsOn = none) (figure : UsageFigure) :
    change.figureOn id figure = none := by
  cases change with
  | addReportedSeconds other seconds sensed => cases silent
  | addReportedActiveSeconds other seconds => cases silent
  | _ => rfl

section Places
variable {schedule : List (Service.Event (BillingRequest Uuid))}

variable {row : ToolUsageSession Uuid}

/-- A call's statements on the session are those of the report it has had accepted there. -/
theorem figuresOf_byIndex (ran : StillOpen rules start id schedule row) (figure : UsageFigure) {index : Nat}
    (inside : index < (((billingService rules).machine start).run schedule).tasks.length) :
    let log := ((billingService rules).machine start).history (billingService rules).watch schedule
    figuresOf id figure (Service.byIndex index log) =
      ((acceptedAt id (((billingService rules).machine start).run schedule) log index).bind
        (·.figure figure)).toList := by
  intro log
  have ends := (billingService rules).along_run (fun request => ⟨start, serve_promised request start⟩) start schedule
  have own : Service.byIndex index log = (Service.byIndex index
      (((billingService rules).machine start).history (billingService rules).landing schedule)).map (·.2) := by
    rw [← Service.byIndex_map, ← Machine.history_map, ← Service.watch_eq]
  have returned := ran.returned
  generalize ((billingService rules).machine start).run schedule = pool at *
  generalize ((billingService rules).machine start).history (billingService rules).landing schedule = landings at *
  rw [own]
  have found := List.getElem?_eq_getElem inside
  rcases there : pool.tasks[index] with ⟨request, routine⟩
  rw [there] at found
  obtain ⟨last, along⟩ := ends.along index request routine found
  obtain ⟨last, promised⟩ := along.here
  by_cases reports : ∃ toolId seconds activeSeconds, request = .recordUsage toolId seconds activeSeconds
  · obtain ⟨toolId, seconds, activeSeconds, rfl⟩ := reports
    obtain ⟨answer, rfl⟩ := returned toolId seconds activeSeconds routine (there ▸ List.getElem_mem inside)
    rcases promised answer rfl with ⟨rfl, none_⟩ | ⟨other, reported, rfl, rfl, made⟩
    · simp only [acceptedAt, found, none_]
      rfl
    · simp only [acceptedAt, found, own, made, figuresOf_writes]
      by_cases same : other = id
      · simp [same, AcceptedReport.writes, BillingWrite.reportsOn]
      · simp [same, AcceptedReport.writes, BillingWrite.reportsOn]
  · have unaccepted : acceptedAt id pool log index = none := by
      rw [acceptedAt, found]
      cases request with
      | recordUsage toolId seconds activeSeconds => exact absurd ⟨_, _, _, rfl⟩ reports
      | _ => rfl
    have silent : ∀ landed ∈ Service.byIndex index landings, landed.2.reportsOn = none := by
      cases request with
      | recordUsage toolId seconds activeSeconds => exact absurd ⟨_, _, _, rfl⟩ reports
      | _ => exact promised
    rw [unaccepted, figuresOf, List.filterMap_map]
    refine List.filterMap_eq_nil_iff.mpr fun landed listed => ?_
    exact figureOn_of_silent (silent landed listed) figure

theorem figures_perm (ran : StillOpen rules start id schedule row) (figure : UsageFigure) :
    (figuresOf id figure
      ((((billingService rules).machine start).history (billingService rules).watch schedule).map (·.2))).Perm
        ((reportsOf rules start id schedule).filterMap (·.figure figure)) := by
  have ends := (billingService rules).along_run (fun request => ⟨start, serve_promised request start⟩) start schedule
  have within : ∀ entry ∈ ((billingService rules).machine start).history (billingService rules).watch schedule,
      entry.1 < (((billingService rules).machine start).run schedule).tasks.length := by
    rw [Service.watch_eq, Machine.history_map]
    intro entry listed
    obtain ⟨landing, there, rfl⟩ := List.mem_map.mp listed
    exact ends.bound landing there
  have sorted := (Service.perm_byIndex within).symm.filterMap (·.figureOn id figure)
  refine List.Perm.trans sorted ?_
  rw [List.filterMap_flatMap, reportsOf, acceptedOn, List.filterMap_filterMap, List.filterMap_eq_flatMap_toList]
  refine List.Perm.of_eq (List.flatMap_congr fun index there => ?_)
  exact figuresOf_byIndex ran figure (List.mem_range.mp there)

theorem totals_of_run (found : start.sessions.lookup id = some opened) (unused : opened.Unused)
    (ran : StillOpen rules start id schedule row) :
    row.reportedSeconds = AcceptedReport.reportedTotal (reportsOf rules start id schedule) ∧
      row.reportedActiveSeconds = AcceptedReport.activeTotal (reportsOf rules start id schedule) := by
  obtain ⟨row', found', tells⟩ := @tells_run _ _ rules _ _ _ found unused schedule
  obtain rfl := Option.some.inj (ran.found.symm.trans found')
  have told := tells ran.isOpen
  have column : ∀ figure, row.figure figure =
      totalled ((reportsOf rules start id schedule).filterMap (·.figure figure)) := by
    intro figure
    rw [told.figures, AcceptedReport.totalled_perm (figures_perm ran figure)]
  constructor
  · have sensed : row.reportedSensedSeconds = _ := column .sensed
    have unsensed : row.reportedUnsensedSeconds = _ := column .unsensed
    rw [told.figured, sensed, unsensed, AcceptedReport.reportedTotal_eq]
  · exact column .active

end Places

/-- Whatever runs in between, the reports accepted on a session are added up, each to the thousandth
of a second: its seconds are the sensed ones together, or the others where none was sensed, and its
active seconds those that are a figure. What is billed of it is the same after every run in which
the same reports were accepted, in whatever order. -/
theorem usage_totals_unordered (found : start.sessions.lookup id = some opened) (unused : opened.Unused)
    {schedule : List (Service.Event (BillingRequest Uuid))} {row : ToolUsageSession Uuid}
    (ran : StillOpen rules start id schedule row) :
    row.reportedSeconds = AcceptedReport.reportedTotal (reportsOf rules start id schedule) ∧
      row.reportedActiveSeconds = AcceptedReport.activeTotal (reportsOf rules start id schedule) ∧
      ∀ schedule' row', StillOpen rules start id schedule' row' →
        (reportsOf rules start id schedule').Perm (reportsOf rules start id schedule) → ∀ basis,
          effectiveReported basis row'.reportedSeconds row'.reportedActiveSeconds =
            effectiveReported basis row.reportedSeconds row.reportedActiveSeconds := by
  obtain ⟨seconds, active⟩ := totals_of_run found unused ran
  refine ⟨seconds, active, ?_⟩
  intro schedule' row' ran' same basis
  obtain ⟨seconds', active'⟩ := totals_of_run found unused ran'
  rw [seconds, seconds', active, active', AcceptedReport.reportedTotal_perm same,
    AcceptedReport.activeTotal_perm same]

end Run

/-- A member's session on a tool of the shop, just opened. -/
def justOpened : BillingTables Nat :=
  ((billingMachine plainRules (shop slowTier)).step (shop slowTier) (.openSession 0 1 2 7)).1

/-- A sensor reports a minute of which the machine worked forty seconds, and a plug that it was on
for a minute and a half; the steps of the two calls cross. -/
def crossedReports : List (Service.Event (BillingRequest Nat)) :=
  [.arrive (.recordUsage 7 (some 60) (some (some 40))), .arrive (.recordUsage 7 (some 90) none), .step 0, .step 1,
    .step 0, .step 1, .step 0]

theorem usage_totals_unordered_crossed :
    ∃ row : ToolUsageSession Nat, row.status = .open_ ∧
      row.reportedSeconds = AcceptedReport.reportedTotal (reportsOf plainRules justOpened 1 crossedReports) ∧
      row.reportedActiveSeconds = AcceptedReport.activeTotal (reportsOf plainRules justOpened 1 crossedReports) ∧
      reportsOf plainRules justOpened 1 crossedReports = [⟨60, some (some 40)⟩, ⟨90, none⟩] := by
  have reports : reportsOf plainRules justOpened 1 crossedReports = [⟨60, some (some 40)⟩, ⟨90, none⟩] := by
    decide +kernel
  have found : justOpened.sessions.lookup 1 =
      some ⟨7, 2, 0, 6, none, some 0.05, some 5, none, none, none, none, none, none, .open_⟩ := by
    decide +kernel
  have answers : (((billingService plainRules).machine justOpened).run crossedReports).answers.all
      (fun task => task.2.isSome) = true := by
    decide +kernel
  have ran : StillOpen plainRules justOpened 1 crossedReports
      ⟨7, 2, 0, 6, none, some 0.05, some 5, some 60, some 60, some 90, some 40, none, none, .open_⟩ := by
    refine ⟨by decide +kernel, rfl, ?_⟩
    intro toolId seconds activeSeconds routine there
    have answered := List.all_eq_true.mp answers _ (List.mem_map_of_mem there)
    obtain ⟨answer, given⟩ := Option.isSome_iff_exists.mp answered
    exact ⟨answer, Routine.eq_done_of_answered given⟩
  obtain ⟨seconds, active, -⟩ := usage_totals_unordered found ⟨rfl, rfl, rfl, rfl⟩ ran
  exact ⟨_, ran.isOpen, seconds, active, reports⟩

/-- A plug reports three times, each time the fraction of a second that passed since. -/
def fractions : List (Service.Event (BillingRequest Nat)) :=
  (List.replicate 3 (.arrive (.recordUsage 7 (some (1 / 4096)) none))) ++
    [.step 0, .step 0, .step 1, .step 1, .step 2, .step 2]

/-- What is accepted is lost: the session is left with no seconds. -/
theorem fractions_lost :
    ∃ row : ToolUsageSession Nat, StillOpen plainRules justOpened 1 fractions row ∧
      reportsOf plainRules justOpened 1 fractions = List.replicate 3 ⟨1 / 4096, none⟩ ∧
      row.reportedSeconds = some 0 ∧
      totalled ((reportsOf plainRules justOpened 1 fractions).map (·.seconds)) = some (3 / 4096) := by
  have answers : (((billingService plainRules).machine justOpened).run fractions).answers.all
      (fun task => task.2.isSome) = true := by
    decide +kernel
  refine ⟨⟨7, 2, 0, 6, none, some 0.05, some 5, some 0, none, some 0, none, none, none, .open_⟩,
    ⟨by decide +kernel, rfl, ?_⟩, by decide +kernel, rfl, by decide +kernel⟩
  intro toolId seconds activeSeconds routine there
  have answered := List.all_eq_true.mp answers _ (List.mem_map_of_mem there)
  obtain ⟨answer, given⟩ := Option.isSome_iff_exists.mp answered
  exact ⟨answer, Routine.eq_done_of_answered given⟩

end CoopSpaces

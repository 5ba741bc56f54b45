import CoopSpaces.Lib.Races
import CoopSpaces.Server.WorkshopService

namespace CoopSpaces

/-- What an update of a usage report went by: the member it is attributed to, the sessions the
report had seen open on the tool before, and the one it found at last. -/
structure Attribution (Uuid : Type) where
  member : Uuid
  seen : List Uuid
  session : Uuid
  deriving DecidableEq

def WorkshopWrite.attribution {Uuid : Type} : WorkshopWrite Uuid → Option (Attribution Uuid)
  | ⟨.usage _ member seen, .bill (.addReportedSeconds id _ _)⟩ => some ⟨member, seen, id⟩
  | ⟨.usage _ member seen, .bill (.addReportedActiveSeconds id _)⟩ => some ⟨member, seen, id⟩
  | _ => none

def WorkshopAnswer.Refuses : WorkshopAnswer → Prop
  | .replied (.error _) => True
  | _ => False

/-- The call has been answered, with a refusal. -/
def WorkshopRoutine.Refused {Uuid Json : Type} (call : WorkshopRoutine Uuid Json WorkshopAnswer) : Prop :=
  ∃ answer, call = .done answer ∧ answer.Refuses

namespace Workshop
variable {Uuid Json : Type} [LinearOrder Uuid] (rules : WorkshopRules Json) (w : Workshop Uuid Json)

def SessionOpenFor (id member : Uuid) : Prop :=
  ∃ row, w.site.billing.sessions.lookup id = some row ∧ row.status = .open_ ∧ row.userId = member

/-- An update of a report goes to the member it is attributed to: an open session that it adds to
is theirs. When a session it went by has ended, the report is refused and no session changes. -/
structure BilledAsAttributed (call : WorkshopRoutine Uuid Json WorkshopAnswer) (write : WorkshopWrite Uuid)
    (by_ : Attribution Uuid) : Prop where
  theirs : ∀ row, w.site.billing.sessions.lookup by_.session = some row → row.status = .open_ →
    row.userId = by_.member
  ended : (∃ id ∈ by_.seen ++ [by_.session], ¬ w.SessionOpen id) →
    call.Refused ∧ (w.perform rules write).1.site.billing.sessions = w.site.billing.sessions

/-- The sessions the report had seen are open still when its update comes, and the one it found
at last is the member's. -/
structure StillTheirs (by_ : Attribution Uuid) : Prop where
  seen : ∀ id ∈ by_.seen, w.SessionOpen id
  found : w.SessionOpenFor by_.session by_.member

/-- The session that is open on a tool, and whose it is. -/
def openSessionOf (toolId : Uuid) : Option (Uuid × Uuid) :=
  (w.site.billing.openToolSessionForTool toolId).map fun found => (found.1, found.2.userId)

variable {rules w} {write : WorkshopWrite Uuid} {by_ : Attribution Uuid}
  {call : WorkshopRoutine Uuid Json WorkshopAnswer}

theorem openSessionOf_of_found {toolId : Uuid} {found : Option (Uuid × ToolUsageSession Uuid)}
    (looked : w.site.billed.openToolSessionForTool toolId = found) :
    w.openSessionOf toolId = found.map fun found => (found.1, found.2.userId) := looked ▸ rfl

theorem sessionOpenFor_of_openSessionOf {toolId id member : Uuid}
    (found : w.openSessionOf toolId = some (id, member)) : w.SessionOpenFor id member := by
  obtain ⟨⟨sessionId, session⟩, there, same⟩ := Option.map_eq_some_iff.mp found
  obtain ⟨rfl, rfl⟩ := Prod.mk.inj same
  obtain ⟨lookup, -, isOpen⟩ := lookup_of_openToolSession there
  exact ⟨session, lookup, isOpen, rfl⟩

/-- Where the tool's open session is as it was found all along, it is the member's whose it was found to be. -/
theorem stillTheirs_of_same {window : List (Workshop Uuid Json)} {toolId member session : Uuid} {seen : List Uuid}
    (same : ∀ t ∈ window, t.openSessionOf toolId = w.openSessionOf toolId)
    (owned : ∃ t ∈ window, ∀ found ∈ t.openSessionOf toolId, found.2 = member)
    (stood : ∀ id ∈ seen ++ [session], ∃ t ∈ window, ∃ user, t.openSessionOf toolId = some (id, user)) :
    w.StillTheirs ⟨member, seen, session⟩ := by
  have here : ∀ id ∈ seen ++ [session], ∃ user, w.openSessionOf toolId = some (id, user) := by
    intro id listed
    obtain ⟨t, within, user, found⟩ := stood id listed
    exact ⟨user, (same t within).symm.trans found⟩
  constructor
  · intro id listed
    obtain ⟨user, found⟩ := here id (List.mem_append_left _ listed)
    obtain ⟨row, there, isOpen, -⟩ := sessionOpenFor_of_openSessionOf found
    exact ⟨row, there, isOpen⟩
  · obtain ⟨user, found⟩ := here session (List.mem_append_right _ (List.mem_singleton_self _))
    obtain ⟨t, within, owner⟩ := owned
    have theirs : user = member := owner (session, user) ((same t within).trans found)
    exact theirs ▸ sessionOpenFor_of_openSessionOf found

theorem billedAsAttributed_of_stillTheirs (still : w.StillTheirs by_) :
    w.BilledAsAttributed rules call write by_ := by
  obtain ⟨row, there, isOpen, theirs⟩ := still.found
  refine ⟨fun row' there' _ => ?_, ?_⟩
  · have same : row' = row := Option.some.inj (there'.symm.trans there)
    rw [same, theirs]
  · intro ⟨id, member, shut⟩
    rcases List.mem_append.mp member with seen | last
    · exact absurd (still.seen id seen) shut
    · rw [List.mem_singleton.mp last] at shut
      exact absurd ⟨row, there, isOpen⟩ shut

end Workshop

namespace WorkshopRoutine
variable {Uuid Json : Type}

/-- Changes made so far with none of a report among them. -/
def NoUpdate (made : List (WorkshopWrite Uuid)) : Prop := ∀ write ∈ made, write.attribution = none

/-- Whoever is answered with a refusal has had no update made. -/
def RefusesFirst (made : List (WorkshopWrite Uuid)) (answer : WorkshopAnswer) : Prop := answer.Refuses → NoUpdate made

theorem noUpdate_nil : NoUpdate ([] : List (WorkshopWrite Uuid)) := by
  intro write listed
  cases listed

theorem ends_done (answer : WorkshopAnswer) :
    (Routine.done answer : WorkshopRoutine Uuid Json WorkshopAnswer).Ends RefusesFirst [] := fun _ => noUpdate_nil

theorem ends_accepted {made : List (WorkshopWrite Uuid)} {answer : WorkshopAnswer} (accepted : ¬ answer.Refuses) :
    (Routine.done answer : WorkshopRoutine Uuid Json WorkshopAnswer).Ends RefusesFirst made :=
      fun refuses => absurd refuses accepted

variable [LinearOrder Uuid] (rules : WorkshopRules Json)

variable (tool : LoadedTool Uuid)

theorem ends_signedOnUser : (signedOnUser tool : WorkshopRoutine Uuid Json _).Ends (fun made _ => made = []) [] := by
  intro w
  dsimp only
  split
  · exact fun _ => rfl
  · split
    · intro w
      dsimp only
      split
      · exact fun _ => rfl
      · rfl
    · rfl

omit [LinearOrder Uuid] in
theorem ends_usageLogged (member : Uuid) (made : List (WorkshopWrite Uuid)) :
    (usageLogged rules tool member : WorkshopRoutine Uuid Json _).Ends RefusesFirst made := by
  intro reply
  rcases reply with e | n
  · exact ends_accepted fun refuses => refuses
  · exact ends_accepted fun refuses => refuses

/-- The updates come last: nothing follows but the event, which refuses nobody. -/
theorem ends_recordUsage (report : UsageReport) (member : Uuid) (seen : List Uuid) :
    (recordUsage rules tool report member seen : WorkshopRoutine Uuid Json _).Ends RefusesFirst [] := by
  have recorded : (billed (.usage tool.tool.id member seen)
    (BillingRequest.usage tool.tool.id report.seconds report.activeSeconds) :
      WorkshopRoutine Uuid Json (BillingAnswer Uuid)).Ends
        (fun made answer => made = [] ∨ answer = .recorded true ∨ ∃ e, answer = .failed e) [] := by
    unfold BillingRequest.usage
    split
    · exact .inl rfl
    · intro w
      dsimp only
      split
      · exact .inl rfl
      · intro reply
        cases reply with
        | error e => exact .inr (.inr ⟨e, rfl⟩)
        | ok n =>
          dsimp only
          split
          · exact .inr (.inl rfl)
          · intro reply
            cases reply with
            | error e => exact .inr (.inr ⟨e, rfl⟩)
            | ok n => exact .inr (.inl rfl)
  refine recorded.bind fun made answer outcome => ?_
  split
  · exact ends_usageLogged rules tool member made
  · exact ends_accepted fun refuses => refuses
  · rename_i accepts fails
    rcases outcome with rfl | rfl | ⟨e, rfl⟩
    · exact ends_done _
    · exact absurd rfl accepts
    · exact absurd rfl (fails e)

theorem ends_logUsage (report : UsageReport) (member : Uuid) (seen : List Uuid) :
    (logUsage rules tool report member seen : WorkshopRoutine Uuid Json _).Ends RefusesFirst [] := by
  unfold logUsage
  split
  · intro w
    dsimp only
    split
    · exact ends_recordUsage rules tool report member seen
    · split
      · exact ends_done _
      · exact ends_recordUsage rules tool report member _
  · exact ends_usageLogged rules tool member []

theorem ends_reportToolUsage (report : UsageReport) :
    (reportToolUsage rules (some tool) report : WorkshopRoutine Uuid Json _).Ends RefusesFirst [] := by
  unfold reportToolUsage
  dsimp only
  split
  · intro w
    dsimp only
    split
    · exact ends_done _
    · exact ends_done _
    · exact ends_logUsage rules tool report _ []
    · exact ends_logUsage rules tool report _ []
  · refine (ends_signedOnUser tool).bind fun made found none_ => ?_
    subst none_
    split
    · exact ends_done _
    · exact ends_logUsage rules tool report _ _

variable [IdText Uuid]

theorem ends_findToolByToolguardId (id : String) :
    (findToolByToolguardId id : WorkshopRoutine Uuid Json _).Ends (fun made _ => made = []) [] := by
  intro w
  dsimp only
  split
  · rfl
  · split
    · rfl
    · exact fun _ => rfl

theorem ends_findResource (id : String) :
    (findResource id : WorkshopRoutine Uuid Json _).Ends (fun made _ => made = []) [] := by
  refine (ends_findToolByToolguardId id).bind fun made found none_ => ?_
  subst none_
  split
  · rfl
  · split
    · rfl
    · exact fun _ => rfl

theorem ends_authorizeResource {promised : List (WorkshopWrite Uuid) → WorkshopAnswer → Prop} (device : Uuid)
    (id : String)
    {next : WorkshopResource Uuid → WorkshopRoutine Uuid Json WorkshopAnswer}
    (ends : ∀ resource, (next resource).Ends promised [])
    (refused : promised [] (.failed (.unauthorized "This device is not bound to that resource"))) :
    (authorizeResource device id next).Ends promised [] := by
  refine (ends_findResource id).bind fun made found none_ => ?_
  subst none_
  split
  · exact refused
  · intro w
    dsimp only
    split
    · exact ends _
    · exact refused

theorem ends_usage (device : Uuid) (id : String) (report : UsageReport) :
    (usage rules device id report).Ends RefusesFirst [] := by
  refine ends_authorizeResource device id (fun resource => ?_) fun _ => noUpdate_nil
  cases resource with
  | tool tool => exact ends_reportToolUsage rules tool report
  | door doorId door => exact ends_done _

end WorkshopRoutine

/-! From attribution to update. -/

/-- How many states a report finds before it turns to whose usage it is: those that its tool and the
binding are looked up in, and the one that a card is. -/
def UsageReport.preliminaries {Uuid Json : Type} [LinearOrder Uuid] (report : UsageReport) (id : String)
    (first : Workshop Uuid Json) : Nat :=
  (if (first.getToolByExternalId id).isSome then 2 else 3) + (if report.card.isSome then 1 else 0)

/-- The states that it finds from there on. -/
def UsageReport.foundSince {Uuid Json : Type} [LinearOrder Uuid] (report : UsageReport) (id : String)
    (trail : Routine.Trail (Workshop Uuid Json) (WorkshopWrite Uuid)) : List (Workshop Uuid Json) :=
  match trail.found with
  | [] => []
  | first :: rest => (first :: rest).drop (report.preliminaries id first)

namespace WorkshopRequest
variable {Uuid Json : Type} [LinearOrder Uuid]

/-- No session of its tool begins or ends from where a usage report turns to whose usage it is until its update. -/
def UsageUndisturbed : WorkshopRequest Uuid → Routine.Trail (Workshop Uuid Json) (WorkshopWrite Uuid) →
    Workshop Uuid Json → WorkshopWrite Uuid → Prop
  | .usage _ id report, trail, w, ⟨.usage toolId _ _, _⟩ =>
    ∀ t ∈ report.foundSince id trail, t.openSessionOf toolId = w.openSessionOf toolId
  | _, _, _, _ => True

instance (request : WorkshopRequest Uuid) (trail : Routine.Trail (Workshop Uuid Json) (WorkshopWrite Uuid))
    (w : Workshop Uuid Json) (change : WorkshopWrite Uuid) : Decidable (request.UsageUndisturbed trail w change) :=
  match request, change with
  | .usage .., ⟨.usage .., _⟩ => inferInstanceAs (Decidable (∀ t ∈ _, _))
  | .usage .., ⟨.plain, _⟩ | .usage .., ⟨.swept _, _⟩ | .scan .., _ | .stop .., _ | .bootReset _, _ | .alive .., _
  | .powerReport .., _ | .doorsEvent .., _ | .sweep, _ | .changeToolStatus .., _ | .updateTool .., _
  | .addToolEvent .., _ | .adminStop _, _ | .edit _, _ | .setSessionGrace _, _ | .tick _, _ => .isTrue trivial

/-- An update of a usage report finds the sessions it went by. -/
def KeepsSession : WorkshopRequest Uuid → Workshop Uuid Json → WorkshopWrite Uuid → Prop
  | .usage _ _ _, w, change => ∀ by_, change.attribution = some by_ → w.StillTheirs by_
  | _, _, _ => True

end WorkshopRequest

section Since
variable {Uuid Json : Type} [LinearOrder Uuid] {report : UsageReport} {id : String}
  {trail : Routine.Trail (Workshop Uuid Json) (WorkshopWrite Uuid)} {window : List (Workshop Uuid Json)}

/-- These are the states the report goes by so far, and it will go by those that it finds yet. -/
def UsageReport.Since (report : UsageReport) (id : String)
    (trail : Routine.Trail (Workshop Uuid Json) (WorkshopWrite Uuid)) (window : List (Workshop Uuid Json)) : Prop :=
  ∀ more, report.foundSince id (trail ++ more) = window ++ Routine.Trail.found more

theorem UsageReport.since_of_length {first : Workshop Uuid Json} {rest : List (Workshop Uuid Json)}
    (found : trail.found = first :: rest) (all : (first :: rest).length = report.preliminaries id first) :
    report.Since id trail [] := by
  intro more
  rw [foundSince, Routine.Trail.found_append, found, List.cons_append]
  dsimp only
  rw [← all, ← List.cons_append, List.drop_left, List.nil_append]

theorem UsageReport.Since.found (since : report.Since id trail window) : report.foundSince id trail = window := by
  have none_ := since []
  rwa [List.append_nil, Routine.Trail.found, List.map_nil, List.append_nil] at none_

theorem UsageReport.Since.step (since : report.Since id trail window) (s : Workshop Uuid Json)
    (change : Option (WorkshopWrite Uuid)) : report.Since id (trail ++ [(s, change)]) (window ++ [s]) := by
  intro more
  rw [List.append_assoc, since, Routine.Trail.found_append, List.append_assoc]
  rfl

end Since

namespace WorkshopRoutine
variable {Uuid Json Answer : Type} [LinearOrder Uuid] [IdText Uuid] {rules : WorkshopRules Json}
  {trail : Routine.Trail (Workshop Uuid Json) (WorkshopWrite Uuid)} {window : List (Workshop Uuid Json)}
  {device : Uuid} {id : String} {report : UsageReport} {tool : LoadedTool Uuid} {member : Uuid} {seen : List Uuid}

/-- Each update of the request's that lands undisturbed finds the sessions it went by. -/
abbrev MindsSession (rules : WorkshopRules Json) (request : WorkshopRequest Uuid)
    (trail : Routine.Trail (Workshop Uuid Json) (WorkshopWrite Uuid)) (routine : WorkshopRoutine Uuid Json Answer) :
    Prop :=
  routine.Minds (Workshop.perform rules) (fun _ => True)
    (fun trail w change => request.UsageUndisturbed trail w change → request.KeepsSession w change) trail

omit [LinearOrder Uuid] [IdText Uuid] in
theorem exists_mem_append {P : Workshop Uuid Json → Prop} (some_ : ∃ t ∈ window, P t)
    (more : List (Workshop Uuid Json)) : ∃ t ∈ window ++ more, P t := by
  obtain ⟨t, within, so⟩ := some_
  exact ⟨t, List.mem_append_left _ within, so⟩

omit [IdText Uuid] in
theorem minds_usageLogged :
    (usageLogged rules tool member).MindsSession rules (.usage device id report) trail := by
  intro w _
  refine ⟨fun _ by_ attributed => ?_, ?_⟩
  · cases attributed
  · dsimp only
    split
    · trivial
    · trivial

omit [IdText Uuid] in
theorem keepsSession_of_since (since : report.Since id trail window)
    (owned : ∃ t ∈ window, ∀ found ∈ t.openSessionOf tool.tool.id, found.2 = member)
    (stood : ∀ id ∈ seen, ∃ t ∈ window, ∃ user, t.openSessionOf tool.tool.id = some (id, user))
    {session : Uuid} (open_ : ∃ t ∈ window, ∃ user, t.openSessionOf tool.tool.id = some (session, user))
    {w : Workshop Uuid Json} {change : BillingWrite Uuid}
    (names : WorkshopWrite.attribution ⟨.usage tool.tool.id member seen, .bill change⟩ = some ⟨member, seen, session⟩)
    (undisturbed : (WorkshopRequest.usage device id report).UsageUndisturbed trail w
      ⟨.usage tool.tool.id member seen, .bill change⟩) :
    (WorkshopRequest.usage device id report).KeepsSession w ⟨.usage tool.tool.id member seen, .bill change⟩ := by
  intro by_ attributed
  obtain rfl := Option.some.inj (names.symm.trans attributed)
  have same : ∀ t ∈ window, t.openSessionOf tool.tool.id = w.openSessionOf tool.tool.id := since.found ▸ undisturbed
  refine Workshop.stillTheirs_of_same same owned fun other listed => ?_
  rcases List.mem_append.mp listed with before | last
  · exact stood other before
  · exact List.mem_singleton.mp last ▸ open_

omit [IdText Uuid] in
theorem minds_recordUsage (since : report.Since id trail window)
    (owned : ∃ t ∈ window, ∀ found ∈ t.openSessionOf tool.tool.id, found.2 = member)
    (stood : ∀ id ∈ seen, ∃ t ∈ window, ∃ user, t.openSessionOf tool.tool.id = some (id, user)) :
    (recordUsage rules tool report member seen).MindsSession rules (.usage device id report) trail := by
  refine Routine.Minds.bind ?_ fun trail answer => ?_
  · unfold billed BillingRequest.usage
    split
    · trivial
    · intro w _
      dsimp only
      split
      · trivial
      · rename_i session row found
        have looked := Workshop.openSessionOf_of_found found
        have open_ : ∃ t ∈ window ++ [w], ∃ user, t.openSessionOf tool.tool.id = some (session, user) :=
          ⟨w, List.mem_append_right _ (List.mem_singleton_self _), _, looked⟩
        have owned' := exists_mem_append owned [w]
        have stood' := fun id listed => exists_mem_append (stood id listed) [w]
        refine fun u _ => ⟨keepsSession_of_since (since.step w none) owned' stood' open_ rfl, ?_⟩
        dsimp only
        split
        · split
          · trivial
          · have stood'' := fun id listed => exists_mem_append (stood' id listed) [u]
            refine fun v _ => ⟨keepsSession_of_since ((since.step w none).step u _)
              (exists_mem_append owned' [u]) stood''
              (exists_mem_append open_ [u]) rfl, ?_⟩
            dsimp only
            split
            · trivial
            · trivial
        · trivial
  · split
    · exact minds_usageLogged
    · trivial
    · trivial

omit [IdText Uuid] in
theorem minds_logUsage (since : report.Since id trail window)
    (stood : ∀ id ∈ seen, ∃ t ∈ window, ∃ user, t.openSessionOf tool.tool.id = some (id, user)) :
    (logUsage rules tool report member seen).MindsSession rules (.usage device id report) trail := by
  unfold logUsage
  split
  · intro w _
    have here : w ∈ window ++ [w] := List.mem_append_right _ (List.mem_singleton_self _)
    have stood' := fun id listed => exists_mem_append (stood id listed) [w]
    dsimp only
    split
    · rename_i none_
      refine minds_recordUsage (since.step w none) ⟨w, here, fun found there => ?_⟩ stood'
      rw [Workshop.openSessionOf_of_found none_] at there
      cases there
    · rename_i sessionId session open_
      have looked := Workshop.openSessionOf_of_found open_
      split
      · trivial
      · rename_i own
        refine minds_recordUsage (since.step w none) ⟨w, here, fun found there => ?_⟩ fun id listed => ?_
        · obtain rfl := Option.some.inj (looked.symm.trans there)
          exact not_ne_iff.mp own
        · rcases List.mem_append.mp listed with before | last
          · exact stood' id before
          · exact List.mem_singleton.mp last ▸ ⟨w, here, _, looked⟩
  · exact minds_usageLogged

omit [IdText Uuid] in
/-- From where its tool is found and the device may speak for it. -/
theorem minds_reportToolUsage (first : Workshop Uuid Json) (rest : List (Workshop Uuid Json))
    (found : trail.found = first :: rest)
    (looked : (first :: rest).length = if (first.getToolByExternalId id).isSome then 2 else 3) :
    (reportToolUsage rules (some tool) report).MindsSession rules (.usage device id report) trail := by
  unfold reportToolUsage
  dsimp only
  split
  · rename_i card named
    intro w _
    have since : report.Since id (trail ++ [(w, none)]) [] := by
      have longer : Routine.Trail.found (trail ++ [(w, none)]) = first :: (rest ++ [w]) := by
        rw [Routine.Trail.found_append, found]
        rfl
      refine UsageReport.since_of_length longer ?_
      rw [← List.cons_append, List.length_append, looked, UsageReport.preliminaries, named]
      rfl
    have unseen : ∀ id ∈ ([] : List Uuid), ∃ t ∈ ([] : List (Workshop Uuid Json)), ∃ user,
        t.openSessionOf tool.tool.id = some (id, user) := fun id none_ => by cases none_
    dsimp only
    split
    · trivial
    · trivial
    · exact minds_logUsage since unseen
    · exact minds_logUsage since unseen
  · rename_i unnamed
    have since : report.Since id trail [] := by
      refine UsageReport.since_of_length found ?_
      rw [looked, UsageReport.preliminaries, unnamed]
      rfl
    unfold signedOnUser
    intro t _
    dsimp only
    split
    · rename_i sessionId session open_
      have looked := Workshop.openSessionOf_of_found open_
      intro u _
      dsimp only [Routine.bind]
      split
      · trivial
      · refine minds_logUsage ((since.step t none).step u none) fun id listed => ?_
        exact List.mem_singleton.mp listed ▸ ⟨t, by simp, _, looked⟩
    · split
      · intro u _
        dsimp only
        split
        · intro v _
          dsimp only [Routine.bind]
          split
          · trivial
          · exact minds_logUsage (((since.step t none).step u none).step v none) fun id none_ => by cases none_
        · trivial
      · trivial

theorem minds_usage :
    (usage rules device id report : WorkshopRoutine Uuid Json _).MindsSession rules (.usage device id report) [] := by
  have reports : ∀ (trail : Routine.Trail (Workshop Uuid Json) (WorkshopWrite Uuid)) {first : Workshop Uuid Json}
      {rest : List (Workshop Uuid Json)} (tool : LoadedTool Uuid) (last : Workshop Uuid Json),
      trail.found = first :: rest →
      (first :: rest).length + 1 = (if (first.getToolByExternalId id).isSome then 2 else 3) →
      MindsSession rules (.usage device id report) (trail ++ [(last, none)])
        (if last.deviceIsBoundToTool device tool.tool.id then reportToolUsage rules (some tool) report
        else .done (.failed (.unauthorized "This device is not bound to that resource"))) := by
    intro trail first rest tool last found looked
    split
    · refine minds_reportToolUsage first (rest ++ [last]) ?_ ?_
      · rw [Routine.Trail.found_append, found]
        rfl
      · rw [← List.cons_append, List.length_append]
        exact looked
    · trivial
  unfold usage authorizeResource findResource findToolByToolguardId
  intro first _
  rcases named : first.getToolByExternalId id with _ | tool
  · rcases parsed : (IdText.parseStr id : Option Uuid) with _ | toolId
    · simp only [named, Routine.bind]
      trivial
    · simp only [named, Routine.bind]
      intro second _
      rcases found : second.getToolById toolId with _ | tool
      · simp only [found, Routine.bind]
        intro third _
        rcases door : third.doors toolId with _ | door
        · simp only [door, Option.map_none]
          trivial
        · simp only [door, Option.map_some]
          intro last _
          dsimp only
          split
          · trivial
          · trivial
      · simp only [found, Routine.bind]
        intro last _
        exact reports [(first, none), (second, none)] tool last rfl (by rw [named]; rfl)
  · simp only [named, Routine.bind]
    intro last _
    exact reports [(first, none)] tool last rfl (by rw [named]; rfl)

theorem minds_serve (rules : WorkshopRules Json) (request : WorkshopRequest Uuid) :
    (serve rules request).MindsSession rules request [] := by
  cases request with
  | usage device id report => exact minds_usage
  | _ => exact .of_forall (fun _ _ _ _ => trivial) _ _

end WorkshopRoutine

section Reports
variable {Uuid Json : Type} [LinearOrder Uuid] [IdText Uuid] (rules : WorkshopRules Json)

/-- Whoever runs in between, a report that has sent an update is not refused. -/
theorem accepted_of_update {start : Workshop Uuid Json} {past : List (Service.Event (WorkshopRequest Uuid))}
    {index : Nat}
    {device : Uuid} {id : String} {report : UsageReport} {call : WorkshopRoutine Uuid Json WorkshopAnswer}
    (found : (((workshopService rules).machine start).run past).tasks[index]? = some (.usage device id report, call))
    {entry : Workshop Uuid Json × WorkshopWrite Uuid} {by_ : Attribution Uuid}
    (landed : entry ∈ Service.byIndex index
      (((workshopService rules).machine start).history (workshopService rules).landing past))
    (attributed : entry.2.attribution = some by_) : ¬ call.Refused := by
  rintro ⟨answer, rfl, refuses⟩
  let promised : WorkshopRequest Uuid → List (WorkshopWrite Uuid) → WorkshopAnswer → Prop :=
    fun request made answer =>
    (∃ device id report, request = .usage device id report) → WorkshopRoutine.RefusesFirst made answer
  have serves : ∀ request, ((workshopService rules).serve request : WorkshopRoutine Uuid Json _).Ends
      (promised request) [] := by
    intro request
    by_cases reports : ∃ device id report, request = .usage device id report
    · obtain ⟨device, id, report, rfl⟩ := reports
      have ends : (WorkshopRoutine.usage rules device id report).Ends WorkshopRoutine.RefusesFirst [] :=
        WorkshopRoutine.ends_usage rules device id report
      exact ends.weaken fun made answer refusesFirst _ => refusesFirst
    · exact .of_forall (fun made answer usage => absurd usage reports) _ _
  have kept := (workshopService rules).ending_run serves start found ⟨device, id, report, rfl⟩ refuses
  have watched : entry.2 ∈ Service.byIndex index
      (((workshopService rules).machine start).history (workshopService rules).watch past) := by
    rw [Service.watch_eq, Machine.history_map, Service.byIndex_map]
    exact List.mem_map_of_mem landed
  have none_ := kept entry.2 watched
  rw [attributed] at none_
  cases none_

end Reports

open Service.Event WorkshopRequest

/-- A member's session on the press, and a report that names their card. When the report has gone
so many steps, others come in between. -/
def reportedWhile (steps : Nat) (others : List (Service.Event (WorkshopRequest Nat))) :
    List (Service.Event (WorkshopRequest Nat)) :=
  [arrive (scan 9 "press" "A" 11)] ++ List.replicate 20 (step 0) ++
    [arrive (usage 9 "press" ⟨some "A", some 60, none⟩)] ++ List.replicate steps (step 1) ++ others ++
    List.replicate 20 (step 1)

/-- The tool is stopped, and the next member starts it. -/
def nextMember : List (Service.Event (WorkshopRequest Nat)) :=
  [arrive (stop 9 "press" none)] ++ List.replicate 20 (step 2) ++ [arrive (scan 9 "press" "B" 12)] ++
    List.replicate 20 (step 3)

end CoopSpaces

import CoopSpaces.Server.ResourceFrames

namespace CoopSpaces

namespace BillingTables
variable {Uuid : Type} [DecidableEq Uuid] (s : BillingTables Uuid)

/-- What the keys of the tables promise: a session is its member's who is there, and a tool has
one open session at most. -/
structure Keyed : Prop where
  members : ∀ id row, s.sessions.lookup id = some row → (s.users row.userId).isSome = true
  once : ∀ id id' row row', s.sessions.lookup id = some row → s.sessions.lookup id' = some row' →
    row.status = .open_ → row'.status = .open_ → row.toolId = row'.toolId → id = id'

variable {s}

theorem openToolSessionForTool_eq_none {toolId : Uuid} : s.openToolSessionForTool toolId = none ↔
    ∀ id row, s.sessions.lookup id = some row → row.toolId = toolId → row.status ≠ .open_ := by
  unfold openToolSessionForTool
  rw [Option.map_eq_none_iff, List.find?_eq_none]
  constructor
  · intro none_ id row there same isOpen
    refine none_ ⟨id, row⟩ (AList.mem_lookup_iff.mp there) ?_
    rw [Bool.and_eq_true, decide_eq_true_eq, decide_eq_true_eq]
    exact ⟨same, isOpen⟩
  · intro none_ entry member fits
    rw [Bool.and_eq_true, decide_eq_true_eq, decide_eq_true_eq] at fits
    exact none_ entry.1 entry.2 (AList.mem_lookup_iff.mpr member) fits.1 fits.2

/-- A row comes from the one that stood there, of the same tool and member, and open if it is
open now; or it has just been inserted, where its tool had no open session. -/
theorem row_of_perform (rules : BillingRules Uuid) {change : BillingWrite Uuid} {id : Uuid}
    {row : ToolUsageSession Uuid}
    (found : (s.perform rules change).1.sessions.lookup id = some row) :
    (∃ old, s.sessions.lookup id = some old ∧ row.toolId = old.toolId ∧ row.userId = old.userId ∧
      (row.status = .open_ → old.status = .open_)) ∨
    (change = .insertToolSession id row ∧ s.openToolSessionForTool row.toolId = none ∧
      (s.users row.userId).isSome = true) := by
  cases rowAfter_perform rules found with
  | kept tierId there idle => exact .inl ⟨_, there, rfl, rfl, fun isOpen => isOpen⟩
  | opened absent =>
    right
    simp only [perform] at found
    split at found
    · rw [absent] at found
      cases found
    · rename_i fresh
      split at found
      · rw [absent] at found
        cases found
      · rename_i known
        rw [Bool.or_eq_true, not_or, Bool.not_eq_true, Bool.not_eq_true, Option.isSome_eq_false_iff,
          Option.isNone_iff_eq_none, Option.isSome_eq_false_iff, Option.isNone_iff_eq_none] at fresh
        rw [Bool.or_eq_true, not_or, Option.isNone_iff_eq_none, Option.isNone_iff_eq_none] at known
        exact ⟨rfl, fresh.2, Option.isSome_iff_ne_none.mpr known.2⟩
  | reported there isOpen =>
    refine .inl ⟨_, there, ?_, ?_, fun _ => isOpen⟩
    · unfold ToolUsageSession.addReported
      split
      · rfl
      · rfl
    · unfold ToolUsageSession.addReported
      split
      · rfl
      · rfl
  | worked there isOpen => exact .inl ⟨_, there, rfl, rfl, fun _ => isOpen⟩
  | closed there isOpen => exact .inl ⟨_, there, rfl, rfl, fun _ => isOpen⟩

theorem users_perform (rules : BillingRules Uuid) (change : BillingWrite Uuid) {userId : Uuid}
    (known : (s.users userId).isSome = true) : ((s.perform rules change).1.users userId).isSome = true := by
  have updates : ∀ (id : Uuid) (edit : ToolUsageSession Uuid → ToolUsageSession Uuid),
      (s.updateOpen id edit).1.users = s.users := by
    intro id edit
    unfold updateOpen
    split
    · rfl
    · split
      · rfl
      · rfl
  cases change with
  | setMembershipNextDue other next =>
    simp only [BillingTables.perform]
    split
    · exact known
    · have there : (s.users.insert other ⟨next⟩ userId).isSome = true := by
        by_cases same : userId = other
        · rw [same, Table.insert_self]
          rfl
        · rw [Table.insert_of_ne _ _ same]
          exact known
      exact there
  | insertToolSession id row =>
    simp only [BillingTables.perform]
    split
    · exact known
    · split
      · exact known
      · exact known
  | addReportedSeconds id seconds sensed =>
    simp only [BillingTables.perform, updates]
    exact known
  | addReportedActiveSeconds id seconds =>
    simp only [BillingTables.perform, updates]
    exact known
  | settleToolSession id reported charged ledgerEntry status =>
    simp only [BillingTables.perform, updates]
    exact known
  | insertLedgerEntry entry =>
    rcases perform_insertLedgerEntry rules s entry with ⟨e, refused⟩ | posted
    · rw [refused]
      exact known
    · rw [posted]
      exact known
  | applyRole other entitled => exact known
  | edit edit =>
    cases edit with
    | assignTier other toolId tierId =>
      simp only [BillingTables.perform, editCatalog]
      split
      · exact known
      · exact known
    | setTool toolId row => exact known
    | setTier tierId row => exact known
    | deleteTier tierId => exact known
    | clearTier other toolId => exact known
    | configure config => exact known

theorem Keyed.perform (keyed : s.Keyed) (rules : BillingRules Uuid) (change : BillingWrite Uuid) :
    (s.perform rules change).1.Keyed := by
  refine ⟨fun id row found => ?_, fun id id' row row' found found' isOpen isOpen' same => ?_⟩
  · rcases row_of_perform rules found with ⟨old, there, -, sameUser, -⟩ | ⟨-, -, known⟩
    · rw [sameUser]
      exact users_perform rules change (keyed.members id old there)
    · exact users_perform rules change known
  · have absent : ∀ (key key' : Uuid) (new old : ToolUsageSession Uuid), s.openToolSessionForTool new.toolId = none →
        s.sessions.lookup key' = some old → old.status = .open_ → old.toolId ≠ new.toolId :=
      fun key key' new old none_ there isOpen sameTool =>
        openToolSessionForTool_eq_none.mp none_ key' old there sameTool isOpen
    rcases row_of_perform rules found with ⟨old, there, tool, -, opens⟩ | ⟨made, none_, -⟩
    · rcases row_of_perform rules found' with ⟨old', there', tool', -, opens'⟩ | ⟨made', none', -⟩
      · exact keyed.once id id' old old' there there' (opens isOpen) (opens' isOpen')
          (tool.symm.trans (same.trans tool'))
      · exact absurd (tool.symm.trans same) (absent id' id row' old none' there (opens isOpen))
    · rcases row_of_perform rules found' with ⟨old', there', tool', -, opens'⟩ | ⟨made', none', -⟩
      · exact absurd (tool'.symm.trans same.symm) (absent id id' row old' none_ there' (opens' isOpen'))
      · obtain ⟨sameId, -⟩ := BillingWrite.insertToolSession.inj (made.symm.trans made')
        exact sameId

theorem perform_post (rules : BillingRules Uuid) {entry : LedgerEntry Uuid}
    (new : entry.externalReference.any s.ledgerEntryExistsForReference = false)
    (known : (s.users entry.userId).isSome = true) :
    s.perform rules (.insertLedgerEntry entry) = ({ s with ledger := s.ledger ++ [entry] }, .ok s.ledger.length) := by
  obtain ⟨user, there⟩ := Option.isSome_iff_exists.mp known
  simp only [BillingTables.perform, new, Bool.false_eq_true, if_false, there, Option.isNone_some]

/-- To close the session that is open on a tool leaves none open on it. -/
theorem Keyed.close (keyed : s.Keyed) {toolId id : Uuid} {session : ToolUsageSession Uuid}
    (found : s.openToolSessionForTool toolId = some (id, session)) (rules : BillingRules Uuid)
    (reported : Option Rat) (charged : Rat)
    (posted : Option Nat) {status : SessionStatus} (closes : status ≠ .open_) :
    (s.perform rules (.settleToolSession id reported charged posted status)).1.openToolSessionForTool toolId =
      none := by
  obtain ⟨there, tool, isOpen⟩ := lookup_of_openToolSession found
  simp only [BillingTables.perform, updateOpen, there, if_pos isOpen]
  rw [openToolSessionForTool_eq_none]
  intro other row here same
  by_cases mine : other = id
  · have closed : (s.sessions.insert id _).lookup other = some row := here
    rw [mine, AList.lookup_insert] at closed
    rw [← Option.some.inj closed]
    exact closes
  · have old : (s.sessions.insert id _).lookup other = some row := here
    rw [AList.lookup_insert_ne mine] at old
    intro stillOpen
    exact mine (keyed.once other id row session old there stillOpen isOpen (same.trans tool.symm))

end BillingTables

/-- No billing session of it is open. -/
def ResourceRecord.Settled {Uuid : Type} (record : ResourceRecord Uuid) : Prop :=
  ∀ id row, record.billing id = some row → row.status ≠ .open_

namespace Workshop
variable {Uuid Json : Type} [LinearOrder Uuid] {rules : WorkshopRules Json} {w : Workshop Uuid Json}

theorem settled_record {r : Uuid} : (w.record r).Settled ↔ w.site.billing.openToolSessionForTool r = none := by
  rw [BillingTables.openToolSessionForTool_eq_none]
  constructor
  · intro settled id row there named
    exact settled id row (BillingTables.sessionsOf_eq_some.mpr ⟨there, named⟩)
  · intro none_ id row found
    obtain ⟨there, named⟩ := BillingTables.sessionsOf_eq_some.mp found
    exact none_ id row there named

/-- What the keys of the tables promise: a tool has one row, and its sessions are as they should be. -/
structure Keyed (w : Workshop Uuid Json) : Prop where
  tools : (w.site.tools.map (·.id)).Nodup
  billing : w.site.billing.Keyed

/-- All that a statement does to the tools and to the billing tables. -/
theorem tables_perform (rules : WorkshopRules Json) (w : Workshop Uuid Json) (change : WorkshopWrite Uuid) :
    ((w.perform rules change).1.site.tools = w.site.tools ∨
      ∃ toolId status, (w.perform rules change).1.site.tools = (w.setToolStatus toolId status).site.tools) ∧
    ((w.perform rules change).1.site.billing = w.site.billing ∨
      ∃ part, (w.perform rules change).1.site.billing =
        (w.site.billing.perform (SyncTables.arithmetic rules.sync) part).1) := by
  by_cases elsewhere : change.statement.ofSite = false
  · have same := w.site_perform rules elsewhere
    exact ⟨.inl (congrArg SyncTables.tools same), .inl (congrArg SyncTables.billing same)⟩
  obtain ⟨cause, statement⟩ := change
  cases statement with
  | bill part => exact ⟨.inl rfl, .inr ⟨part, rfl⟩⟩
  | updateToolStatus toolId status =>
    simp only [perform, execute]
    split
    · exact ⟨.inr ⟨toolId, status, rfl⟩, .inl rfl⟩
    · exact ⟨.inl rfl, .inl rfl⟩
  | tryActivateTool toolId =>
    simp only [perform, execute]
    split
    · exact ⟨.inr ⟨toolId, .inUse, rfl⟩, .inl rfl⟩
    · exact ⟨.inl rfl, .inl rfl⟩
  | updateTool toolId status billed =>
    simp only [perform, execute]
    split
    · exact ⟨.inl rfl, .inl rfl⟩
    · split
      · exact ⟨.inr ⟨toolId, _, rfl⟩, .inl rfl⟩
      · exact ⟨.inr ⟨toolId, _, rfl⟩, .inr ⟨_, rfl⟩⟩
  | _ => exact absurd rfl elsewhere

theorem toolIds_setToolStatus (toolId : Uuid) (status : ToolStatus) :
    (w.setToolStatus toolId status).site.tools.map (·.id) = w.site.tools.map (·.id) := by
  have keeps : (fun tool : Tool Uuid => tool.id) ∘
    (fun tool => if tool.id = toolId then { tool with status } else tool) =
      fun tool => tool.id := by
    funext tool
    rw [Function.comp_apply]
    split
    · rfl
    · rfl
  unfold setToolStatus
  dsimp only
  rw [List.map_map, keeps]

theorem Keyed.perform (keyed : w.Keyed) (change : WorkshopWrite Uuid) : (w.perform rules change).1.Keyed := by
  obtain ⟨tools, billing⟩ := tables_perform rules w change
  refine ⟨?_, ?_⟩
  · rcases tools with same | ⟨toolId, status, set⟩
    · rw [same]
      exact keyed.tools
    · rw [set, toolIds_setToolStatus]
      exact keyed.tools
  · rcases billing with same | ⟨part, made⟩
    · rw [same]
      exact keyed.billing
    · rw [made]
      exact keyed.billing.perform _ part

theorem Keyed.solo {Answer : Type} (keyed : w.Keyed) (routine : WorkshopRoutine Uuid Json Answer) :
    (routine.solo (Workshop.perform rules) w).1.Keyed :=
  Routine.solo_of_soloWrites Keyed (fun landed _ before => before.perform landed.2) keyed

theorem follows_solo {Answer : Type} (routine : WorkshopRoutine Uuid Json Answer) :
    Follows w (routine.solo (Workshop.perform rules) w).1 :=
  Routine.solo_of_soloWrites (Follows w)
    (fun landed _ before => before.trans (follows_perform landed.1 landed.2)) (.refl w)

theorem bound_of_follows {s t : Workshop Uuid Json} (moved : Follows s t) (device r : Uuid) :
    t.deviceIsBoundToTool device r = s.deviceIsBoundToTool device r := by
  unfold deviceIsBoundToTool
  rw [moved.bindings]

theorem record_solo {Answer : Type} {routine : WorkshopRoutine Uuid Json Answer} {r : Uuid}
    {proper : Workshop Uuid Json → WorkshopWrite Uuid → Prop}
    (relies : routine.Relies (Workshop.perform rules) Follows proper w)
    (spares : ∀ t change, Follows w t → proper t change → t.Spares r change.statement) :
    (routine.solo (Workshop.perform rules) w).1.record r = w.record r := by
  have kept : Follows w (routine.solo (Workshop.perform rules) w).1 ∧
      (routine.solo (Workshop.perform rules) w).1.record r = w.record r := by
    refine Routine.solo_of_soloWrites (fun t => Follows w t ∧ t.record r = w.record r)
      (fun landed member before => ?_) ⟨.refl w, rfl⟩
    have spared := spares _ _ before.1 (relies.proper_of_soloWrites Follows.refl member)
    exact ⟨before.1.trans (follows_perform landed.1 landed.2), (record_of_spares spared).trans before.2⟩
  exact kept.2

theorem record_of_within {Answer : Type} {routine : WorkshopRoutine Uuid Json Answer} {device r : Uuid}
    (relies : routine.Relies (Workshop.perform rules) Follows (WorkshopRoutine.Within device) w)
    (unbound : w.deviceIsBoundToTool device r = false) :
    (routine.solo (Workshop.perform rules) w).1.record r = w.record r :=
  record_solo relies fun _ _ moved within => within r ((bound_of_follows moved device r).trans unbound)

theorem record_of_keepsTo {Answer : Type} {routine : WorkshopRoutine Uuid Json Answer} {x r : Uuid}
    (keeps : WorkshopRoutine.KeepsTo rules x routine) (other : r ≠ x) :
    (routine.solo (Workshop.perform rules) w).1.record r = w.record r :=
  record_solo (keeps w) fun _ _ _ only => only r other

theorem record_of_namesNone {Answer : Type} {routine : WorkshopRoutine Uuid Json Answer} {r : Uuid}
    (none_ : routine.Meets (fun _ => True) WorkshopRoutine.NamesNone fun _ => True) :
    (routine.solo (Workshop.perform rules) w).1.record r = w.record r :=
  have relies : routine.Relies (Workshop.perform rules) Follows (fun _ change => WorkshopRoutine.NamesNone change)
      w :=
    none_.relies (fun _ _ named => named) w
  record_solo relies fun t _ _ named => WorkshopRoutine.spares_of_namesNone named t r

/-- With nobody in between, to settle a tool leaves no session open on it. -/
theorem settled_settleLoaded (keyed : w.Keyed) (cause : Cause Uuid) (now : Int) (toolId : Uuid)
    (tool : BilledTool) (abandoned : Bool) :
    ((((WorkshopRoutine.billed cause
      (BillingRequest.settleLoaded (SyncTables.arithmetic rules.sync) now toolId tool abandoned) :
      WorkshopRoutine Uuid Json _).solo (Workshop.perform rules) w).1).record toolId).Settled := by
  have closes : (if abandoned then SessionStatus.abandoned else .settled) ≠ .open_ := by
    cases abandoned with
    | true => exact SessionStatus.noConfusion
    | false => exact SessionStatus.noConfusion
  rw [settled_record]
  rcases found : w.site.billing.openToolSessionForTool toolId with _ | ⟨id, session⟩
  · have there : w.site.billed.openToolSessionForTool toolId = none := found
    simp only [WorkshopRoutine.billed, BillingRequest.settleLoaded, Routine.lift, Routine.solo, there]
    exact found
  · have there : w.site.billed.openToolSessionForTool toolId = some (id, session) := found
    have known : (w.site.billing.users session.userId).isSome = true :=
      keyed.billing.members id session (lookup_of_openToolSession found).1
    have close : ∀ (t : Workshop Uuid Json) (charge : Rat) (posted : Option Nat), t.site.billing.Keyed →
        t.site.billing.openToolSessionForTool toolId = some (id, session) →
        (t.perform rules ⟨cause, .bill (.settleToolSession id session.reportedSeconds charge posted
          (if abandoned then .abandoned else .settled))⟩).1.site.billing.openToolSessionForTool toolId = none :=
      fun t charge posted keyed found => keyed.close found _ _ _ _ closes
    simp only [WorkshopRoutine.billed, BillingRequest.settleLoaded, Routine.lift, Routine.solo, there]
    generalize settlementCharge _ _ _ _ _ = charge
    split
    · refine (congrArg (fun t : Workshop Uuid Json => t.site.billing.openToolSessionForTool toolId)
        (Routine.WritesOnce.solo_write (fun reply => ?_) w)).trans (close w charge none keyed.billing found)
      rcases reply with e | n
      · exact ⟨_, rfl⟩
      · exact ⟨_, rfl⟩
    · rename_i new
      let entry : LedgerEntry Uuid := ⟨session.userId, .toolUsage, -charge, some (.session id)⟩
      let after : BillingTables Uuid := { w.site.billing with ledger := w.site.billing.ledger ++ [entry] }
      have made : w.site.billing.perform (SyncTables.arithmetic rules.sync) (.insertLedgerEntry entry) =
          (after, .ok w.site.billing.ledger.length) :=
        BillingTables.perform_post _ (Bool.not_eq_true _ ▸ new) known
      have posted : w.perform rules ⟨cause, .bill (.insertLedgerEntry entry)⟩ =
          ({ w with site := { w.site with billing := after } }, .ok w.site.billing.ledger.length) :=
        congrArg (fun made : BillingTables Uuid × Except DbError Nat =>
          (({ w with site := { w.site with billing := made.1 } } : Workshop Uuid Json), made.2)) made
      simp only [Routine.lift, Routine.solo]
      rw [posted]
      refine (congrArg (fun t : Workshop Uuid Json => t.site.billing.openToolSessionForTool toolId)
        (Routine.WritesOnce.solo_write (fun reply => ?_) _)).trans
          (close { w with site := { w.site with billing := after } } charge (some w.site.billing.ledger.length)
            ⟨keyed.billing.members, keyed.billing.once⟩ found)
      rcases reply with e | n
      · exact ⟨_, rfl⟩
      · exact ⟨_, rfl⟩

/-! A device's boot. -/

/-- What settling asks of the tool before it looks for a session: the site bills, and the tool's
own columns price it. -/
def Bills (rules : WorkshopRules Json) (tool : LoadedTool Uuid) : Prop :=
  (rules.sync.toolBilling && isMetered tool.billed.usageFlatFee tool.billed.usageRatePerMin) = true

/-- The tool's status set, and told. -/
def toldIdle (w : Workshop Uuid Json) (tool : LoadedTool Uuid) : Workshop Uuid Json :=
  let idle := w.setToolStatus tool.tool.id .idle
  let event : ToolEvent Uuid := ⟨tool.tool.id, "deactivated", some tool.tool.status, some .idle, none, w.clock⟩
  { idle with toolEvents := idle.toolEvents ++ [event] }

/-- One tool reset. -/
def resetTool (rules : WorkshopRules Json) (w : Workshop Uuid Json) (tool : LoadedTool Uuid) : Workshop Uuid Json :=
  ((WorkshopRoutine.settleMetered rules tool true).solo (Workshop.perform rules) (w.toldIdle tool)).1

theorem tools_settleMetered (tool : LoadedTool Uuid) (abandoned : Bool) :
    ((WorkshopRoutine.settleMetered rules tool abandoned).solo (Workshop.perform rules) w).1.site.tools =
      w.site.tools := by
  have bills : (WorkshopRoutine.settleMetered rules tool abandoned).Meets (fun _ => True)
      (fun change => ∃ part, change = ⟨.plain, .bill part⟩) fun _ => True := by
    unfold WorkshopRoutine.settleMetered
    split
    · exact fun w _ => (Routine.meets_lift _ _ _).bind fun _ _ => trivial
    · trivial
  refine Routine.solo_of_soloWrites (fun t : Workshop Uuid Json => t.site.tools = w.site.tools)
    (fun landed member before => ?_) rfl
  obtain ⟨part, same⟩ := bills.allowed_of_soloWrites member
  rw [same]
  exact before

theorem tools_resetTool (tool : LoadedTool Uuid) :
    (w.resetTool rules tool).site.tools = (w.setToolStatus tool.tool.id .idle).site.tools :=
      tools_settleMetered tool true

theorem statusOf_resetTool (tool : LoadedTool Uuid) (r : Uuid) :
    (w.resetTool rules tool).statusOf r = (w.setToolStatus tool.tool.id .idle).statusOf r := by
  unfold statusOf
  rw [tools_resetTool]

theorem record_toolEvents {r : Uuid} {event : ToolEvent Uuid} (other : event.toolId ≠ r) :
    { w with toolEvents := w.toolEvents ++ [event] }.record r = w.record r := by
  have events : (w.toolEvents ++ [event]).filter (fun event => decide (event.toolId = r)) =
      w.toolEvents.filter fun event => decide (event.toolId = r) := by
    rw [List.filter_append, List.filter_singleton, decide_eq_false other, cond_false, List.append_nil]
  exact congrArg (fun events => { w.record r with events }) events

theorem record_resetTool {tool : LoadedTool Uuid} {r : Uuid} (other : tool.tool.id ≠ r) :
    (w.resetTool rules tool).record r = w.record r := by
  have settles : WorkshopRoutine.KeepsTo rules tool.tool.id (WorkshopRoutine.settleMetered rules tool true) :=
    WorkshopRoutine.keepsTo_settleMetered tool true
  calc (w.resetTool rules tool).record r = _ := record_of_keepsTo settles (Ne.symm other)
    _ = (w.setToolStatus tool.tool.id .idle).record r := record_toolEvents other
    _ = w.record r := record_setToolStatus other .idle

theorem Keyed.toldIdle (keyed : w.Keyed) (tool : LoadedTool Uuid) : (w.toldIdle tool).Keyed := by
  refine ⟨?_, keyed.billing⟩
  have ids : (w.toldIdle tool).site.tools.map (·.id) = w.site.tools.map (·.id) :=
    toolIds_setToolStatus tool.tool.id .idle
  rw [ids]
  exact keyed.tools

theorem settled_resetTool (keyed : w.Keyed) (tool : LoadedTool Uuid) :
    ((w.resetTool rules tool).record tool.tool.id).Settled ↔ (w.record tool.tool.id).Settled ∨ Bills rules tool := by
  unfold resetTool
  unfold WorkshopRoutine.settleMetered
  split
  · rename_i bills
    refine iff_of_true ?_ (.inr bills)
    simp only [Routine.solo, Routine.solo_bind]
    exact settled_settleLoaded (keyed.toldIdle tool) .plain _ tool.tool.id tool.billed true
  · rename_i free
    have free' : ¬ Bills rules tool := free
    rw [or_iff_left free', settled_record, settled_record]
    rfl

theorem keyed_resetTool (keyed : w.Keyed) (tool : LoadedTool Uuid) : (w.resetTool rules tool).Keyed :=
  (keyed.toldIdle tool).solo _

theorem solo_resetTools_cons {tool : LoadedTool Uuid} (there : (w.statusOf tool.tool.id).isSome = true) (count : Nat)
    (rest : List (LoadedTool Uuid)) [IdText Uuid] :
    (WorkshopRoutine.resetTools rules count (tool :: rest)).solo (Workshop.perform rules) w =
      (WorkshopRoutine.resetTools rules count rest).solo (Workshop.perform rules) (w.resetTool rules tool) := by
  have still : ((w.setToolStatus tool.tool.id .idle).statusOf tool.tool.id).isSome = true := by
    rw [statusOf_setToolStatus, if_pos rfl, Option.isSome_map]
    exact there
  simp only [WorkshopRoutine.resetTools, WorkshopRoutine.sending, Routine.solo, Workshop.perform, execute,
    there, still, if_true, Option.all_none, Bool.and_true, Routine.solo_bind]
  rfl

/-- The loop over the tools: each of them is idle after it, and settled if it was or can be; what
is none of them is as it was. -/
theorem record_resetTools [IdText Uuid] (count : Nat) {tools : List (LoadedTool Uuid)} (keyed : w.Keyed)
    (once : (tools.map (·.tool.id)).Nodup) (there : ∀ tool ∈ tools, (w.statusOf tool.tool.id).isSome = true) :
    let after := ((WorkshopRoutine.resetTools rules count tools).solo (Workshop.perform rules) w).1
    (∀ r, r ∉ tools.map (·.tool.id) → after.record r = w.record r) ∧
      ∀ tool ∈ tools, after.statusOf tool.tool.id = some .idle ∧
        ((after.record tool.tool.id).Settled ↔ (w.record tool.tool.id).Settled ∨ Bills rules tool) := by
  induction tools generalizing w with
  | nil => exact ⟨fun r _ => rfl, fun tool member => by cases member⟩
  | cons first rest ih =>
    obtain ⟨apart, once'⟩ := List.nodup_cons.mp once
    have found := there first (List.mem_cons_self ..)
    have there' : ∀ tool ∈ rest, ((w.resetTool rules first).statusOf tool.tool.id).isSome = true := by
      intro tool member
      rw [statusOf_resetTool, statusOf_setToolStatus]
      split
      · rw [Option.isSome_map]
        exact there tool (List.mem_cons_of_mem _ member)
      · exact there tool (List.mem_cons_of_mem _ member)
    obtain ⟨spared, reset⟩ := ih (keyed_resetTool keyed first) once' there'
    rw [solo_resetTools_cons found]
    refine ⟨fun r absent => ?_, fun tool member => ?_⟩
    · rw [List.map_cons, List.mem_cons, not_or] at absent
      exact (spared r absent.2).trans (record_resetTool (Ne.symm absent.1))
    · rcases List.mem_cons.mp member with rfl | later
      · have kept := spared tool.tool.id apart
        refine ⟨?_, ?_⟩
        · have status := congrArg ResourceRecord.status kept
          refine status.trans ((statusOf_resetTool tool tool.tool.id).trans ?_)
          obtain ⟨old, was⟩ := Option.isSome_iff_exists.mp found
          rw [statusOf_setToolStatus, if_pos rfl, was, Option.map_some]
        · rw [kept]
          exact settled_resetTool keyed tool
      · have other : first.tool.id ≠ tool.tool.id := fun same =>
          apart (List.mem_map.mpr ⟨tool, later, same.symm⟩)
        obtain ⟨idle, settled⟩ := reset tool later
        rw [record_resetTool other] at settled
        exact ⟨idle, settled⟩

omit [LinearOrder Uuid] in
theorem tool_of_load {tool : Tool Uuid} {loaded : LoadedTool Uuid} (found : w.load tool = some loaded) :
    loaded.tool = tool := by
  obtain ⟨billed, -, rfl⟩ := Option.map_eq_some_iff.mp found
  rfl

theorem statusOf_of_mem (keyed : w.Keyed) {tool : Tool Uuid} (member : tool ∈ w.site.tools) :
    w.statusOf tool.id = some tool.status := by
  rcases found : w.site.tools.find? (fun other => decide (other.id = tool.id)) with _ | other
  · rw [List.find?_eq_none] at found
    have missed := found tool member
    rw [decide_eq_true_eq] at missed
    exact absurd rfl missed
  · have fits := List.find?_some found
    have same : other.id = tool.id := of_decide_eq_true fits
    have one : other = tool := List.inj_on_of_nodup_map keyed.tools (List.mem_of_find?_eq_some found) member same
    unfold statusOf
    rw [found, one, Option.map_some]

theorem statusOf_of_inuse (keyed : w.Keyed) {tool : LoadedTool Uuid} (member : tool ∈ w.getInuseTools) :
    w.statusOf tool.tool.id = some .inUse := by
  obtain ⟨row, listed, loaded⟩ := List.mem_filterMap.mp member
  obtain ⟨there, inUse⟩ := List.mem_filter.mp listed
  have same := tool_of_load loaded
  have status := statusOf_of_mem keyed there
  rw [of_decide_eq_true inUse] at status
  rw [same]
  exact status

theorem ids_getInuseTools (keyed : w.Keyed) : (w.getInuseTools.map (·.tool.id)).Nodup := by
  have loads : ∀ tools : List (Tool Uuid), ((tools.filterMap w.load).map (·.tool.id)).Sublist (tools.map (·.id)) := by
    intro tools
    induction tools with
    | nil => exact List.Sublist.slnil
    | cons tool rest ih =>
      rcases found : w.load tool with _ | loaded
      · rw [List.filterMap_cons_none found]
        exact ih.cons _
      · have same := tool_of_load found
        rw [List.filterMap_cons_some found, List.map_cons, List.map_cons, same]
        exact ih.cons_cons _
  have inUse : ((w.site.tools.filter fun tool => tool.status = .inUse).map (·.id)).Sublist
      (w.site.tools.map (·.id)) :=
    List.filter_sublist.map _
  exact keyed.tools.sublist ((loads _).trans inUse)

/-! A door event. -/

section DoorEvents
variable [IdText Uuid] {device : Uuid} {event : DoorEventIn Uuid}

theorem keepsTo_handleDoorsEvent :
    WorkshopRoutine.KeepsTo rules event.doorId (WorkshopRoutine.handleDoorsEvent rules device event) := by
  refine WorkshopRoutine.keepsTo_read fun w => ?_
  split
  · exact WorkshopRoutine.keepsTo_done _
  · refine WorkshopRoutine.keepsTo_read fun w => WorkshopRoutine.keepsTo_read fun w => ?_
    refine WorkshopRoutine.keepsTo_write (fun _ _ other => Ne.symm other) fun reply => ?_
    rcases reply with e | n
    · exact WorkshopRoutine.keepsTo_done _
    · dsimp only
      split
      · exact WorkshopRoutine.keepsTo_done _
      · refine WorkshopRoutine.keepsTo_read fun w => ?_
        split
        · exact WorkshopRoutine.keepsTo_write (fun _ _ other => Ne.symm other) fun _ => WorkshopRoutine.keepsTo_done _
        · exact WorkshopRoutine.keepsTo_done _

theorem solo_doorsEvent_of_unsigned (unsigned : WorkshopRoutine.doorsEventSigned rules w device event = false) :
    ((WorkshopRoutine.handleDoorsEvent rules device event).solo (Workshop.perform rules) w).1 = w := by
  simp only [WorkshopRoutine.handleDoorsEvent, Routine.solo, unsigned, Bool.not_false, if_true]

theorem solo_doorsEvent_of_absent (absent : w.doors event.doorId = none) :
    ((WorkshopRoutine.handleDoorsEvent rules device event).solo (Workshop.perform rules) w).1 = w := by
  simp only [WorkshopRoutine.handleDoorsEvent, Routine.solo]
  split
  · rfl
  · simp only [Routine.solo, Workshop.perform, execute, absent, Option.isSome_none, Bool.false_eq_true, if_false]

end DoorEvents

end Workshop

/-- The device that makes a request; those of staff and of the program itself have none. -/
def WorkshopRequest.device {Uuid : Type} : WorkshopRequest Uuid → Option Uuid
  | .scan device _ _ _ => some device
  | .stop device _ _ => some device
  | .usage device _ _ => some device
  | .bootReset device => some device
  | .alive device _ => some device
  | .powerReport device _ => some device
  | .doorsEvent device _ => some device
  | _ => none

/-- Requests served one after another. -/
def deviceMachine {Uuid Json : Type} [LinearOrder Uuid] [IdText Uuid] (rules : WorkshopRules Json)
    (start : Workshop Uuid Json) :
    Machine (Workshop Uuid Json) (WorkshopRequest Uuid) WorkshopAnswer where
  start := start
  step w request := (WorkshopRoutine.serve rules request).solo (Workshop.perform rules) w

namespace Workshop
variable {Uuid Json : Type} [LinearOrder Uuid] [IdText Uuid] (rules : WorkshopRules Json) (w : Workshop Uuid Json)

/-- What a device's request may reach beyond its own: at a boot any tool that is in use, by a door
event that is accepted the door it names. -/
def Reaches (r : Uuid) : WorkshopRequest Uuid → Prop
  | .bootReset _ => ∃ tool ∈ w.getInuseTools, tool.tool.id = r
  | .doorsEvent device event =>
    event.doorId = r ∧ WorkshopRoutine.doorsEventSigned rules w device event = true ∧
      (w.doors event.doorId).isSome = true
  | _ => False

/-- A boot leaves idle every tool that was in use, whoever is bound to it, and settled each that its
own columns price. -/
def ResetsAll : WorkshopRequest Uuid → Prop
  | .bootReset device =>
    let after := ((deviceMachine rules w).step w (.bootReset device)).1
    ∀ tool ∈ w.getInuseTools, after.statusOf tool.tool.id = some .idle ∧
      (Bills rules tool → (after.record tool.tool.id).Settled)
  | _ => True

variable {rules w} {device : Uuid}

theorem record_bootReset (keyed : w.Keyed) :
    let after := ((deviceMachine rules w).step w (.bootReset device)).1
    (∀ r, ¬ w.Reaches rules r (.bootReset device) → after.record r = w.record r) ∧
      w.ResetsAll rules (.bootReset device) := by
  have there : ∀ tool ∈ w.getInuseTools, (w.statusOf tool.tool.id).isSome = true := by
    intro tool member
    rw [statusOf_of_inuse keyed member]
    rfl
  obtain ⟨spared, reset⟩ :=
    @record_resetTools Uuid Json _ rules w _ w.getInuseTools.length _ keyed (ids_getInuseTools keyed) there
  refine ⟨fun r unreached => spared r fun listed => ?_, fun tool member => ?_⟩
  · obtain ⟨tool, member, same⟩ := List.mem_map.mp listed
    exact unreached ⟨tool, member, same⟩
  · obtain ⟨idle, settled⟩ := reset tool member
    exact ⟨idle, fun bills => settled.mpr (.inr bills)⟩

theorem record_doorsEvent (event : DoorEventIn Uuid) {r : Uuid}
    (unreached : ¬ w.Reaches rules r (.doorsEvent device event)) :
    ((deviceMachine rules w).step w (.doorsEvent device event)).1.record r = w.record r := by
  by_cases named : event.doorId = r
  · cases signed : WorkshopRoutine.doorsEventSigned rules w device event with
    | false => exact congrArg (fun t => record t r) (solo_doorsEvent_of_unsigned signed)
    | true =>
      rcases there : w.doors event.doorId with _ | door
      · exact congrArg (fun t => record t r) (solo_doorsEvent_of_absent there)
      · exact absurd ⟨named, signed, Option.isSome_iff_exists.mpr ⟨door, there⟩⟩ unreached
  · exact record_of_keepsTo keepsTo_handleDoorsEvent (Ne.symm named)

/-- One request of a device: what it is not bound to, and does not reach, is as it was. -/
theorem record_of_unreached (keyed : w.Keyed) {request : WorkshopRequest Uuid}
    (own : request.device = some device) {r : Uuid}
    (unbound : w.deviceIsBoundToTool device r = false) (unreached : ¬ w.Reaches rules r request) :
    ((deviceMachine rules w).step w request).1.record r = w.record r := by
  cases request with
  | scan other id card sessionId =>
    obtain rfl := Option.some.inj own
    exact record_of_within (WorkshopRoutine.within_scan other id card sessionId w) unbound
  | stop other id card =>
    obtain rfl := Option.some.inj own
    exact record_of_within (WorkshopRoutine.within_stop other id card w) unbound
  | usage other id report =>
    obtain rfl := Option.some.inj own
    exact record_of_within (WorkshopRoutine.within_usage other id report w) unbound
  | alive other subject => exact record_of_namesNone (WorkshopRoutine.alive_namesNone other subject)
  | powerReport other report => exact record_of_namesNone (WorkshopRoutine.powerReport_namesNone other report)
  | bootReset other => exact (record_bootReset keyed).1 r unreached
  | doorsEvent other event => exact record_doorsEvent event unreached
  | sweep => cases own
  | changeToolStatus staff toolId status => cases own
  | updateTool toolId status billed => cases own
  | addToolEvent toolId eventType oldStatus newStatus userId => cases own
  | adminStop id => cases own
  | edit change => cases own
  | setSessionGrace minutes => cases own
  | tick micros => cases own

end Workshop

/-- Whatever a device asks, what it is not bound to stays as it was, unless a boot found it in use or
an accepted event named it. A boot returns to idle all that is in use, and settles what is priced. -/
theorem device_keeps_to_its_own {Uuid Json : Type} [LinearOrder Uuid] [IdText Uuid] (rules : WorkshopRules Json)
    (start : Workshop Uuid Json) (keyed : start.Keyed) (device : Uuid) (requests : List (WorkshopRequest Uuid))
    (own : ∀ request ∈ requests, request.device = some device) :
    (∀ r, start.deviceIsBoundToTool device r = false →
      EveryStep (fun past request => ¬ ((deviceMachine rules start).run past).Reaches rules r request) requests →
        ∀ past, past <+: requests → ((deviceMachine rules start).run past).record r = start.record r) ∧
      EveryStep (fun past request => ((deviceMachine rules start).run past).ResetsAll rules request) requests := by
  have kept : ∀ past, Workshop.Follows start ((deviceMachine rules start).run past) ∧
      ((deviceMachine rules start).run past).Keyed :=
    (deviceMachine rules start).run_invariant (fun _ w => Workshop.Follows start w ∧ w.Keyed) ⟨.refl start, keyed⟩
      fun past request before => ⟨before.1.trans (Workshop.follows_solo _), before.2.solo _⟩
  refine ⟨fun r unbound unreached past front => ?_, fun past request later split => ?_⟩
  · have lawful : EveryStep (fun past request =>
        request.device = some device ∧ ¬ ((deviceMachine rules start).run past).Reaches rules r request) requests :=
      fun past request later split =>
        ⟨own request (split ▸ List.mem_append_right past (List.mem_cons_self ..)), unreached past request later split⟩
    refine (deviceMachine rules start).run_keeps_past (fun _ w => w.record r = start.record r) rfl ?_ lawful front
    rintro past request before ⟨asked, spared⟩
    obtain ⟨follows, ready⟩ := kept past
    have apart : ((deviceMachine rules start).run past).deviceIsBoundToTool device r = false := by
      rw [Workshop.bound_of_follows follows]
      exact unbound
    exact (Workshop.record_of_unreached ready asked apart spared).trans before
  · cases request with
    | bootReset other => exact (Workshop.record_bootReset (kept past).2).2
    | _ => trivial

theorem keyed_shopFloor : shopFloor.Keyed := by
  refine ⟨by decide, fun id row found => ?_, fun id id' row row' found => ?_⟩
  · have none_ : (∅ : AList fun _ : Nat => ToolUsageSession Nat).lookup id = some row := found
    rw [AList.lookup_empty] at none_
    cases none_
  · have none_ : (∅ : AList fun _ : Nat => ToolUsageSession Nat).lookup id = some row := found
    rw [AList.lookup_empty] at none_
    cases none_

/-- The lathe is as it was after the press's device has started the press and booted. -/
theorem device_keeps_to_its_own_lathe :
    ((deviceMachine shopRules shopFloor).run [.scan 9 "press" "A" 100, .bootReset 9]).record 8 =
      shopFloor.record 8 := by
  have own : ∀ request ∈ [WorkshopRequest.scan 9 "press" "A" 100, .bootReset 9], request.device = some 9 := by decide
  have apart : ∀ tool ∈ ((deviceMachine shopRules shopFloor).run [.scan 9 "press" "A" 100]).getInuseTools,
      tool.tool.id ≠ 8 := by
    decide +kernel
  have unreached : EveryStep
    (fun past request => ¬ ((deviceMachine shopRules shopFloor).run past).Reaches shopRules 8 request)
      [.scan 9 "press" "A" 100, .bootReset 9] := by
    refine (@EveryStep.snoc_iff _ _ [_] _).mpr ⟨(@EveryStep.snoc_iff _ _ [] _).mpr ⟨.nil, fun reached => reached⟩, ?_⟩
    rintro ⟨tool, member, same⟩
    exact apart tool member same
  exact (device_keeps_to_its_own shopRules shopFloor keyed_shopFloor 9 _ own).1 8
    (by decide +kernel) unreached _ List.prefix_rfl

/-- A boot of the press's device stops the lathe; its word is taken for the room's door; and a session
that was opened at a rate the press has no more stays open. -/
theorem boot_stops_foreign_tool :
    let busy := (deviceMachine shopRules shopFloor).run [.scan 10 "lathe" "A" 100]
    let freed := (deviceMachine shopRules shopFloor).run
      [.scan 9 "press" "A" 100, .edit (.setTool 7 ⟨none, none, none, "occupancy"⟩)]
    let event : DoorEventIn Nat := ⟨6, none, true, none, none, none, none⟩
    (¬ ∀ r, busy.deviceIsBoundToTool 9 r = false →
      ((deviceMachine shopRules busy).run [.bootReset 9]).record r = busy.record r) ∧
    (¬ ∀ r, busy.deviceIsBoundToTool 9 r = false →
      ((deviceMachine shopRules busy).run [.doorsEvent 9 event]).record r = busy.record r) ∧
    ¬ (((deviceMachine shopRules freed).run [.bootReset 9]).record 7).Settled := by
  refine ⟨fun spared => ?_, fun spared => ?_, ?_⟩
  · have kept := congrArg ResourceRecord.status (spared 8 (by decide +kernel))
    revert kept
    decide +kernel
  · have kept := congrArg ResourceRecord.access (spared 6 (by decide +kernel))
    revert kept
    decide +kernel
  · rw [Workshop.settled_record]
    decide +kernel

end CoopSpaces

import CoopSpaces.Server.MailingList

namespace CoopSpaces

/-- The kinds of event that the sync acts on, and those that it writes. -/
inductive AuditEventType
  | userActivation
  | userDeactivation
  | userDeletion
  | emailVerified
  | mailingListSubscribe
  | mailingListUnsubscribe
  | mailingListSyncAdd
  | mailingListSyncRemove
  | userEmailChange
deriving DecidableEq

namespace AuditEventType

def asStr : AuditEventType → String
  | userActivation => "user_activation"
  | userDeactivation => "user_deactivation"
  | userDeletion => "user_deletion"
  | emailVerified => "email_verified"
  | mailingListSubscribe => "mailing_list_subscribe"
  | mailingListUnsubscribe => "mailing_list_unsubscribe"
  | mailingListSyncAdd => "mailing_list_sync_add"
  | mailingListSyncRemove => "mailing_list_sync_remove"
  | userEmailChange => "user_email_change"

def all : List AuditEventType :=
  [userActivation, userDeactivation, userDeletion, emailVerified, mailingListSubscribe,
    mailingListUnsubscribe, mailingListSyncAdd, mailingListSyncRemove, userEmailChange]

end AuditEventType

/-- An event, with the texts among its data. -/
structure AuditLog (Uuid : Type) where
  eventType : String
  userId : Option Uuid
  eventData : String → Option String

/-- What the sync reads of a user's row. -/
structure ListMember where
  email : String
  isActive : Bool
  emailVerifiedAt : Option Int
  mailingListOptOutAt : Option Int
deriving DecidableEq

def ListMember.intended (member : ListMember) : Bool :=
  intendedSubscribed member.isActive member.emailVerifiedAt.isSome member.mailingListOptOutAt.isSome

/-- What is asked of the group. -/
inductive GroupRequest
  | directAdd (emails : List String)
  | removeMembers (emails : List String)
deriving DecidableEq

/-- An audit row of the sync's own. -/
structure SyncRecord (Uuid : Type) where
  event : AuditEventType
  userId : Option Uuid
  emails : List String
  reason : Option String
deriving DecidableEq

/-- What an operation of the sync meets: the settings, and what the database and the group answer. -/
structure SyncWorld (Uuid : Type) where
  enabled : Bool
  protectedAddresses : List String
  findUserById : Uuid → Except String (Option ListMember)
  findUserByEmail : String → Except String (Option Uuid)
  listMailingListIntended : Except String (List String)
  setMailingListOptOut : Uuid → Except String Unit
  getMembers : Except String (List String)
  getPastMembers : Except String (List String)
  directAdd : List String → Except String Unit
  removeMembers : List String → Except String Unit

/-- What an operation did: its requests, whom it opted out at which address, and its audit rows. -/
structure SyncDone (Uuid : Type) where
  requests : List GroupRequest
  optedOut : List (Uuid × String)
  records : List (SyncRecord Uuid)

namespace SyncDone
variable {Uuid : Type}

def nothing : SyncDone Uuid := ⟨[], [], []⟩

def append (first second : SyncDone Uuid) : SyncDone Uuid :=
  ⟨first.requests ++ second.requests, first.optedOut ++ second.optedOut, first.records ++ second.records⟩

end SyncDone

structure ReconcileOutcome where
  added : Nat
  removed : Nat
  optedOut : Nat
  ok : Bool
  error : Option String
deriving DecidableEq

def ReconcileOutcome.default : ReconcileOutcome := ⟨0, 0, 0, false, none⟩

namespace SyncWorld
variable {Uuid : Type} (world : SyncWorld Uuid)

/-- Current email for a user, if they still exist. -/
def emailOf (userId : Uuid) : Option String :=
  match world.findUserById userId with
  | .ok (some user) => some user.email
  | _ => none

/-- Add a user to the group if they are currently intended-subscribed. -/
def addIfIntended (userId : Uuid) : SyncDone Uuid :=
  match world.findUserById userId with
  | .ok (some user) =>
    if user.intended then
      match world.directAdd [user.email] with
      | .error _ => ⟨[.directAdd [user.email]], [], []⟩
      | .ok () => ⟨[.directAdd [user.email]], [], [⟨.mailingListSyncAdd, some userId, [user.email], none⟩]⟩
    else .nothing
  | _ => .nothing

/-- Remove one or more addresses from the group. -/
def remove (emails : List String) : SyncDone Uuid :=
  match world.removeMembers emails with
  | .error _ => ⟨[.removeMembers emails], [], []⟩
  | .ok () => ⟨[.removeMembers emails], [], [⟨.mailingListSyncRemove, none, emails, none⟩]⟩

/-- An audit event as adds and removals of the group. -/
def handleEvent (event : AuditLog Uuid) : SyncDone Uuid :=
  if !world.enabled then .nothing
  else
    match AuditEventType.all.find? fun kind => kind.asStr = event.eventType with
    | some .mailingListSubscribe | some .emailVerified | some .userActivation =>
      event.userId.elim .nothing world.addIfIntended
    | some .mailingListUnsubscribe | some .userDeactivation =>
      match event.userId.bind world.emailOf with
      | some email => world.remove [email]
      | none => .nothing
    | some .userDeletion =>
      match event.eventData "deleted_email" with
      | some email => world.remove [email]
      | none => .nothing
    | some .userEmailChange =>
      -- the old address is dropped, the new one is added if still intended
      ((event.eventData "old_email").elim .nothing fun old => world.remove [old]).append
        (event.userId.elim .nothing world.addIfIntended)
    | _ => .nothing

/-- One of the two batches of a plan, where it is not empty. -/
def batch (request : List String → GroupRequest) (send : List String → Except String Unit) (event : AuditEventType)
    (emails : List String) : SyncDone Uuid × Except String Unit :=
  if emails.isEmpty then (.nothing, .ok ())
  else
    match send emails with
    | .error error => (⟨[request emails], [], []⟩, .error error)
    | .ok () => (⟨[request emails], [], [⟨event, none, emails, none⟩]⟩, .ok ())

/-- Records the opt-out of one who left, where the address is known and the write succeeds. -/
def optOut (email : String) : SyncDone Uuid :=
  match world.findUserByEmail email with
  | .ok (some userId) =>
    match world.setMailingListOptOut userId with
    | .error _ => .nothing
    | .ok () => ⟨[], [(userId, email)], [⟨.mailingListSyncRemove, some userId, [email], some "external_unsubscribe"⟩]⟩
  | _ => .nothing

def optOuts (emails : List String) : SyncDone Uuid :=
  emails.foldl (fun done email => done.append (world.optOut email)) .nothing

def reconcileApply : ReconcileOutcome × SyncDone Uuid :=
  let failed (message : String) : ReconcileOutcome := { ReconcileOutcome.default with error := some message }
  if !world.enabled then (failed "Groups.io integration is disabled", .nothing)
  else
    match world.listMailingListIntended with
    | .error e => (failed ("load intended roster: " ++ e), .nothing)
    | .ok intended =>
      match world.getMembers with
      | .error e => (failed ("get_members: " ++ e), .nothing)
      | .ok current =>
        match world.getPastMembers with
        | .error e => (failed ("get_past_members: " ++ e), .nothing)
        | .ok past =>
          let plan := reconcilePlan intended current past world.protectedAddresses
          match batch .directAdd world.directAdd .mailingListSyncAdd plan.toAdd with
          | (adds, .error e) => (failed ("direct_add: " ++ e), adds)
          | (adds, .ok ()) =>
            match batch .removeMembers world.removeMembers .mailingListSyncRemove plan.toRemove with
            | (removals, .error e) =>
              ({ failed ("remove_members: " ++ e) with added := plan.toAdd.length }, adds.append removals)
            | (removals, .ok ()) =>
              let leavers := world.optOuts plan.toOptOut
              (⟨plan.toAdd.length, plan.toRemove.length, leavers.optedOut.length, true, none⟩,
                (adds.append removals).append leavers)

end SyncWorld

/-- An operation of the service, with what it meets. -/
inductive SyncOperation (Uuid : Type)
  | push (world : SyncWorld Uuid) (event : AuditLog Uuid)
  | pass (world : SyncWorld Uuid)

namespace SyncOperation
variable {Uuid : Type}

def done : SyncOperation Uuid → SyncDone Uuid
  | push world event => world.handleEvent event
  | pass world => world.reconcileApply.2

def protectedAddresses : SyncOperation Uuid → List String
  | push world _ | pass world => world.protectedAddresses

/-- No protected address is asked to be removed. -/
def Spares (operation : SyncOperation Uuid) : Prop :=
  ∀ emails, .removeMembers emails ∈ operation.done.requests →
    ∀ email ∈ emails, normalizeEmail email ∉ addressSet operation.protectedAddresses

end SyncOperation

/-- The address that an event says to take off the list: that of an account deactivated or unsubscribed,
the one it was deleted with, or the one it was changed from. -/
def AuditLog.departing {Uuid : Type} (event : AuditLog Uuid) (world : SyncWorld Uuid) : Option String :=
  match AuditEventType.all.find? fun kind => kind.asStr = event.eventType with
  | some .mailingListUnsubscribe | some .userDeactivation => event.userId.bind world.emailOf
  | some .userDeletion => event.eventData "deleted_email"
  | some .userEmailChange => event.eventData "old_email"
  | _ => none

/-- No push takes off a protected address. -/
def SyncOperation.NamesNoProtected {Uuid : Type} : SyncOperation Uuid → Prop
  | push world event =>
    world.enabled = true → ∀ email, event.departing world = some email →
      normalizeEmail email ∉ addressSet world.protectedAddresses
  | pass _ => True

section Requests
variable {Uuid : Type} {world : SyncWorld Uuid} {event : AuditLog Uuid}

theorem requests_remove (emails : List String) : (world.remove emails).requests = [.removeMembers emails] := by
  unfold SyncWorld.remove
  cases world.removeMembers emails with
  | error e => rfl
  | ok done => rfl

theorem removeMembers_not_mem_addIfIntended (userId : Uuid) (emails : List String) :
    .removeMembers emails ∉ (world.addIfIntended userId).requests := by
  unfold SyncWorld.addIfIntended
  split
  · split
    · split
      · simp
      · simp
    · exact List.not_mem_nil
  · exact List.not_mem_nil

theorem removeMembers_not_mem_add (userId : Option Uuid) (emails : List String) :
    .removeMembers emails ∉ (userId.elim .nothing world.addIfIntended).requests := by
  cases userId with
  | none => exact List.not_mem_nil
  | some userId => exact removeMembers_not_mem_addIfIntended userId emails

/-- A push asks for one removal at most, of the address its event takes off the list. -/
theorem removeMembers_mem_handleEvent {emails : List String} :
    .removeMembers emails ∈ (world.handleEvent event).requests ↔
    world.enabled = true ∧ ∃ email, event.departing world = some email ∧ emails = [email] := by
  unfold SyncWorld.handleEvent AuditLog.departing
  cases enabled : world.enabled with
  | false => exact ⟨fun none_ => absurd none_ List.not_mem_nil, fun on => absurd on.1 Bool.false_ne_true⟩
  | true =>
    rw [Bool.not_true, if_neg Bool.false_ne_true, and_iff_right rfl]
    have one : ∀ departing : Option String,
        .removeMembers emails ∈ (match departing
          with | some email => world.remove [email] | none => .nothing : SyncDone Uuid).requests ↔
          ∃ email, departing = some email ∧ emails = [email] := by
      intro departing
      cases departing with
      | none => exact ⟨fun none_ => absurd none_ List.not_mem_nil, fun ⟨_, none_, _⟩ => nomatch none_⟩
      | some email =>
        rw [requests_remove, List.mem_singleton, GroupRequest.removeMembers.injEq]
        exact ⟨fun same => ⟨email, rfl, same⟩, fun ⟨_, there, same⟩ => Option.some.inj there ▸ same⟩
    rcases AuditEventType.all.find? _ with _ | kind
    · exact ⟨fun none_ => absurd none_ List.not_mem_nil, fun ⟨_, none_, _⟩ => nomatch none_⟩
    · have adds : .removeMembers emails ∉ (event.userId.elim .nothing world.addIfIntended).requests :=
        removeMembers_not_mem_add event.userId emails
      cases kind with
      | mailingListUnsubscribe | userDeactivation => exact one (event.userId.bind world.emailOf)
      | userDeletion => exact one (event.eventData "deleted_email")
      | userEmailChange =>
        rw [SyncDone.append, List.mem_append, or_iff_left adds]
        rcases event.eventData "old_email" with _ | old
        · exact one none
        · exact one (some old)
      | mailingListSubscribe | emailVerified | userActivation =>
        exact ⟨fun add => absurd add adds, fun ⟨_, none_, _⟩ => nomatch none_⟩
      | mailingListSyncAdd | mailingListSyncRemove =>
        exact ⟨fun none_ => absurd none_ List.not_mem_nil, fun ⟨_, none_, _⟩ => nomatch none_⟩

theorem requests_optOuts (emails : List String) : (world.optOuts emails).requests = [] := by
  have from_ : ∀ done : SyncDone Uuid, done.requests = [] →
      (emails.foldl (fun done email => done.append (world.optOut email)) done).requests = [] := by
    induction emails with
    | nil => exact fun done none_ => none_
    | cons email rest ih =>
      intro done none_
      refine ih _ ?_
      have here : (world.optOut email).requests = [] := by
        unfold SyncWorld.optOut
        split
        · split
          · rfl
          · rfl
        · rfl
      show done.requests ++ (world.optOut email).requests = []
      rw [none_, here, List.append_nil]
  exact from_ .nothing rfl

theorem mem_batch {request : List String → GroupRequest} {send : List String → Except String Unit}
    {kind : AuditEventType}
    {emails : List String} {asked : GroupRequest}
    (there : asked ∈ (SyncWorld.batch request send kind emails : SyncDone Uuid × _).1.requests) :
    asked = request emails := by
  unfold SyncWorld.batch at there
  split at there
  · cases there
  · split at there
    · exact List.mem_singleton.mp there
    · exact List.mem_singleton.mp there

/-- What a pass plans, once it has read all three lists. -/
def SyncWorld.Plans (world : SyncWorld Uuid) (plan : ReconcilePlan) : Prop :=
  ∃ intended current past, world.listMailingListIntended = .ok intended ∧ world.getMembers = .ok current ∧
    world.getPastMembers = .ok past ∧ plan = reconcilePlan intended current past world.protectedAddresses

/-- A pass asks for no more than its plan, and only one that succeeds opts anybody out. -/
theorem reconcileApply_spec (world : SyncWorld Uuid) :
    (world.reconcileApply.1.ok = false ∧ world.reconcileApply.2 = .nothing) ∨
      ∃ plan, world.Plans plan ∧
        (∀ asked ∈ world.reconcileApply.2.requests, asked = .directAdd plan.toAdd ∨
          asked = .removeMembers plan.toRemove) ∧
            ((world.reconcileApply.1.ok = false ∧ world.reconcileApply.2.optedOut = []) ∨
            world.reconcileApply.1.ok = true ∧
              world.reconcileApply.2.optedOut = (world.optOuts plan.toOptOut).optedOut) := by
  have batched : ∀ {request : List String → GroupRequest} {send : List String →
    Except String Unit} {kind : AuditEventType}
      {emails : List String} {done : SyncDone Uuid} {result : Except String Unit},
      SyncWorld.batch request send kind emails = (done, result) → done.optedOut = [] ∧
        ∀ asked ∈ done.requests, asked = request emails := by
    intro request send kind emails done result same
    refine ⟨?_, fun asked there => mem_batch (by rw [same]; exact there)⟩
    unfold SyncWorld.batch at same
    split at same
    · cases same
      rfl
    · split at same
      · cases same
        rfl
      · cases same
        rfl
  unfold SyncWorld.reconcileApply
  dsimp only
  split
  · exact .inl ⟨rfl, rfl⟩
  split
  · exact .inl ⟨rfl, rfl⟩
  next intended roster =>
  split
  · exact .inl ⟨rfl, rfl⟩
  next current members =>
  split
  · exact .inl ⟨rfl, rfl⟩
  next past pastMembers =>
  refine .inr ⟨_, ⟨intended, current, past, roster, members, pastMembers, rfl⟩, ?_⟩
  split
  next adds _ added =>
    obtain ⟨none_, asks⟩ := batched added
    exact ⟨fun asked there => .inl (asks asked there), .inl ⟨rfl, none_⟩⟩
  next adds added =>
    obtain ⟨noneAdded, asksAdd⟩ := batched added
    split
    next removals _ removed =>
      obtain ⟨noneRemoved, asksRemove⟩ := batched removed
      refine ⟨fun asked there => ?_, .inl ⟨rfl, ?_⟩⟩
      · exact (List.mem_append.mp there).imp (asksAdd asked) (asksRemove asked)
      · show adds.optedOut ++ removals.optedOut = []
        rw [noneAdded, noneRemoved, List.append_nil]
    next removals removed =>
      obtain ⟨noneRemoved, asksRemove⟩ := batched removed
      refine ⟨fun asked there => ?_, .inr ⟨rfl, ?_⟩⟩
      · have member : asked ∈ (adds.requests ++ removals.requests) ++ (world.optOuts _).requests := there
        rw [requests_optOuts, List.append_nil] at member
        exact (List.mem_append.mp member).imp (asksAdd asked) (asksRemove asked)
      · show (adds.optedOut ++ removals.optedOut) ++ _ = _
        rw [noneAdded, noneRemoved, List.append_nil, List.nil_append]

theorem spares_iff (operation : SyncOperation Uuid) : operation.Spares ↔ operation.NamesNoProtected := by
  cases operation with
  | push world event =>
    constructor
    · intro spares enabled email departs
      exact spares [email] (removeMembers_mem_handleEvent.mpr ⟨enabled, email, departs, rfl⟩) email
        (List.mem_singleton_self email)
    · intro none_ emails asked email there
      obtain ⟨enabled, departing, departs, rfl⟩ := removeMembers_mem_handleEvent.mp asked
      obtain rfl := List.mem_singleton.mp there
      exact none_ enabled email departs
  | pass world =>
    refine ⟨fun _ => trivial, fun _ emails asked email there => ?_⟩
    rcases reconcileApply_spec world with ⟨-, nothing⟩ | ⟨plan, ⟨intended, current, past, -, -, -, rfl⟩, asks, -⟩
    · have among : .removeMembers emails ∈ world.reconcileApply.2.requests := asked
      rw [nothing] at among
      cases among
    · rcases asks _ asked with add | remove
      · cases add
      · cases remove
        rw [normalizeEmail_of_mem (mem_toRemove.mp there).1]
        exact (mem_toRemove.mp there).2.2

/-- Every plan has disjoint parts without repeats, and is empty once it was carried out; and no
operation asks to remove a protected address exactly when no push takes one off. -/
theorem list_converges_and_spares_iff (operations : List (SyncOperation Uuid)) :
    ((∀ r protected_, (reconcilePlan r.intended r.current r.past protected_).Sound r protected_) ∧
        ∀ operation ∈ operations, operation.Spares) ↔
      ∀ operation ∈ operations, operation.NamesNoProtected := by
  rw [and_iff_right reconcilePlan_sound]
  exact forall₂_congr fun operation _ => spares_iff operation

end Requests

/-- A group whose owner has an account, which is deactivated. -/
def ownersGroup : SyncWorld Nat where
  enabled := true
  protectedAddresses := ["Owner@x.org"]
  findUserById _ := .ok (some ⟨"owner@x.org", false, some 1, none⟩)
  findUserByEmail _ := .ok none
  listMailingListIntended := .ok []
  setMailingListOptOut _ := .ok ()
  getMembers := .ok ["owner@x.org"]
  getPastMembers := .ok []
  directAdd _ := .ok ()
  removeMembers _ := .ok ()

/-- The pass that finds the owner not intended leaves them on; the push does not. -/
theorem push_removes_owner :
    ¬ ((∀ r protected_, (reconcilePlan r.intended r.current r.past protected_).Sound r protected_) ∧
        ∀ operation ∈ [.pass ownersGroup, .push ownersGroup ⟨"user_deactivation", some 2, fun _ => none⟩],
          (operation : SyncOperation Nat).Spares) := by
  rintro ⟨-, spares⟩
  have asked : .removeMembers ["owner@x.org"] ∈
      (SyncOperation.push ownersGroup ⟨"user_deactivation", some 2, fun _ => none⟩).done.requests := by decide +kernel
  have own : normalizeEmail "owner@x.org" = "owner@x.org" := by decide +kernel
  have listed : addressSet ["Owner@x.org"] = ["owner@x.org"] := by decide +kernel
  have among : normalizeEmail "owner@x.org" ∈ addressSet ["Owner@x.org"] := by
    rw [own, listed]
    exact List.mem_singleton_self _
  exact spares _ (List.mem_cons_of_mem _ (List.mem_singleton_self _))
    _ asked "owner@x.org" (List.mem_singleton_self _)
    among

end CoopSpaces

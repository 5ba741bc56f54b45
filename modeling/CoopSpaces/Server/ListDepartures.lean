import CoopSpaces.Server.Accounts
import CoopSpaces.Server.ListSync

namespace CoopSpaces

/-- An address as the group knows it, in one spelling. -/
abbrev Address : Type := { text : String // normalizeEmail text = text }

def Address.of (email : String) : Address := ⟨normalizeEmail email, normalizeEmail_idem email⟩

/-- How an address came off the group: its member left, or the platform removed it. -/
inductive Departure
  | own
  | platform
deriving DecidableEq

/-- The roster, the events whose push is still to come, who is on the group, and who came off it
how, the last first. -/
structure Listing (Uuid : Type) where
  users : List (Uuid × ListMember)
  userEmails : List (Uuid × String)
  queue : List (AuditLog Uuid)
  current : List Address
  departures : List (Address × Departure)

attribute [ext] Listing

/-- What goes wrong with an operation, call by call, and whether a request to the group that failed
was carried out all the same. -/
structure Weather (Uuid : Type) where
  enabled : Bool
  protectedAddresses : List String
  now : Int
  collation : Collation
  findUserById : Option String
  findUserByEmail : String → Option String
  listMailingListIntended : Option String
  setMailingListOptOut : Uuid → Option String
  getMembers : Option String
  getPastMembers : Option String
  directAdd : Option (String × Bool)
  removeMembers : Option (String × Bool)

/-- An answer, unless something went wrong. -/
def unlessWrong {α : Type} (wrong : Option String) (answer : α) : Except String α := wrong.elim (.ok answer) .error

namespace Listing
variable {Uuid : Type} [DecidableEq Uuid] (s : Listing Uuid)

def intended : List String := (s.users.filter (·.2.intended)).map (·.2.email)

/-- Those who were on the group and are not now. -/
def past : List Address := (s.departures.map (·.1)).filter (· ∉ s.current)

def lastDeparture (address : Address) : Option Departure := (s.departures.find? (·.1 = address)).map (·.2)

def world (weather : Weather Uuid) : SyncWorld Uuid where
  enabled := weather.enabled
  protectedAddresses := weather.protectedAddresses
  findUserById userId := unlessWrong weather.findUserById ((s.users.find? (·.1 = userId)).map (·.2))
  findUserByEmail email := unlessWrong (weather.findUserByEmail email)
    ((s.userEmails.find? fun row => weather.collation.lower row.2 = weather.collation.toLowercase
      (trim email)).map (·.1))
  listMailingListIntended := unlessWrong weather.listMailingListIntended s.intended
  setMailingListOptOut userId :=
    if s.users.any (·.1 = userId) then unlessWrong (weather.setMailingListOptOut userId) ()
      else .error "Record not found"
  getMembers := unlessWrong weather.getMembers (s.current.map (·.val))
  getPastMembers := unlessWrong weather.getPastMembers (s.past.map (·.val))
  directAdd _ := unlessWrong (weather.directAdd.map (·.1)) ()
  removeMembers _ := unlessWrong (weather.removeMembers.map (·.1)) ()

def add (address : Address) : Listing Uuid :=
  if address ∈ s.current then s else { s with current := s.current ++ [address] }

def depart (how : Departure) (address : Address) : Listing Uuid :=
  if address ∈ s.current then
    { s with current := s.current.filter (· ≠ address), departures := (address, how) :: s.departures }
  else s

/-- The group carries a request out, unless it failed without. -/
def carryOut (weather : Weather Uuid) : GroupRequest → Listing Uuid
  | .directAdd emails => if weather.directAdd.all (·.2) then emails.foldl (fun s email => s.add (.of email)) s else s
  | .removeMembers emails =>
    if weather.removeMembers.all (·.2) then emails.foldl (fun s email => s.depart .platform (.of email)) s else s

def optOut (now : Int) (userId : Uuid) : Listing Uuid :=
  { s with users := s.users.map fun row =>
      if row.1 = userId then (row.1, { row.2 with mailingListOptOutAt := some now }) else row }

/-- What an operation leaves of the state. -/
def after (weather : Weather Uuid) (done : SyncDone Uuid) : Listing Uuid :=
  done.optedOut.foldl (fun s record => s.optOut weather.now record.1) (done.requests.foldl (carryOut · weather) s)

end Listing

/-- One step: memberships change and events are recorded; the push of the oldest event is lost, or is
made; a pass; a member joins or leaves. -/
inductive ListStep (Uuid : Type)
  | change (users : List (Uuid × ListMember)) (userEmails : List (Uuid × String)) (events : List (AuditLog Uuid))
  | lost
  | push (weather : Weather Uuid)
  | pass (weather : Weather Uuid)
  | joins (email : String)
  | leaves (email : String)

section Group
variable {Uuid : Type} {s : Listing Uuid} {weather : Weather Uuid} {address : Address}

theorem mem_add {other : Address} : other ∈ (s.add address).current ↔ other ∈ s.current ∨ other = address := by
  unfold Listing.add
  split
  next there => exact ⟨.inl, fun either => either.elim id fun same => same ▸ there⟩
  · rw [List.mem_append, List.mem_singleton]

theorem mem_depart {how : Departure} {other : Address} :
    other ∈ (s.depart how address).current ↔ other ∈ s.current ∧ other ≠ address := by
  unfold Listing.depart
  split
  · rw [List.mem_filter, decide_eq_true_iff]
  next off => exact ⟨fun there => ⟨there, fun same => off (same ▸ there)⟩, And.left⟩

theorem mem_adds {emails : List String} :
    address ∈ (emails.foldl (fun s email => s.add (.of email)) s).current ↔
      address ∈ s.current ∨ ∃ email ∈ emails, .of email = address := by
  induction emails generalizing s with
  | nil => simp
  | cons email rest ih =>
    rw [List.foldl_cons, ih, mem_add, List.exists_mem_cons_iff, or_assoc, eq_comm]

theorem mem_departs {emails : List String} :
    address ∈ (emails.foldl (fun s email => s.depart .platform (.of email)) s).current ↔
      address ∈ s.current ∧ ∀ email ∈ emails, .of email ≠ address := by
  induction emails generalizing s with
  | nil => simp
  | cons email rest ih =>
    rw [List.foldl_cons, ih, mem_depart, List.forall_mem_cons, and_assoc, ne_comm]

theorem mem_of_mem_carryOut {request : GroupRequest} (on : address ∈ (s.carryOut weather request).current) :
    address ∈ s.current ∨ ∃ emails, request = .directAdd emails ∧ ∃ email ∈ emails, .of email = address := by
  cases request with
  | directAdd emails =>
    simp only [Listing.carryOut] at on
    split at on
    · exact (mem_adds.mp on).imp_right fun added => ⟨emails, rfl, added⟩
    · exact .inl on
  | removeMembers emails =>
    simp only [Listing.carryOut] at on
    split at on
    · exact .inl (mem_departs.mp on).1
    · exact .inl on

theorem mem_carryOut {request : GroupRequest} (on : address ∈ s.current)
    (stays : ∀ emails, request = .removeMembers emails → ∀ email ∈ emails, .of email ≠ address) :
    address ∈ (s.carryOut weather request).current := by
  cases request with
  | directAdd emails =>
    simp only [Listing.carryOut]
    split
    · exact mem_adds.mpr (.inl on)
    · exact on
  | removeMembers emails =>
    simp only [Listing.carryOut]
    split
    · exact mem_departs.mpr ⟨on, stays emails rfl⟩
    · exact on

theorem mem_past : address ∈ s.past ↔ s.lastDeparture address ≠ none ∧ address ∉ s.current := by
  rw [Listing.past, List.mem_filter, decide_eq_true_iff, List.mem_map, Listing.lastDeparture, ne_eq,
    Option.map_eq_none_iff, List.find?_eq_none]
  simp only [decide_eq_true_eq, not_forall, not_not, exists_prop]

theorem optedOut_optOut {world : SyncWorld Uuid} {email : String} {record : Uuid × String}
    (there : record ∈ (world.optOut email).optedOut) : record.2 = email := by
  unfold SyncWorld.optOut at there
  split at there
  · split at there
    · cases there
    · rw [List.mem_singleton.mp there]
  · cases there

theorem optedOut_optOuts_singleton (world : SyncWorld Uuid) (email : String) :
    (world.optOuts [email]).optedOut = (world.optOut email).optedOut :=
  List.nil_append _

theorem reconcileApply_of_plan {world : SyncWorld Uuid} {intended current past leavers : List String}
    (enabled : world.enabled = true) (roster : world.listMailingListIntended = .ok intended)
    (members : world.getMembers = .ok current) (pastMembers : world.getPastMembers = .ok past)
    (plan : reconcilePlan intended current past world.protectedAddresses = ⟨[], [], leavers⟩) :
    world.reconcileApply.2 = world.optOuts leavers := by
  unfold SyncWorld.reconcileApply
  rw [enabled, roster, members, pastMembers]
  simp only [plan]
  rfl

theorem optedOut_optOuts {world : SyncWorld Uuid} {emails : List String} {record : Uuid × String}
    (there : record ∈ (world.optOuts emails).optedOut) : record.2 ∈ emails := by
  have from_ : ∀ done : SyncDone Uuid,
    record ∈ (emails.foldl (fun done email => done.append (world.optOut email)) done).optedOut →
      record ∈ done.optedOut ∨ record.2 ∈ emails := by
    clear there
    induction emails with
    | nil => exact fun done => .inl
    | cons email rest ih =>
      intro done there
      rcases ih _ there with early | later
      · rcases List.mem_append.mp early with before | here
        · exact .inl before
        · exact .inr (optedOut_optOut here ▸ List.mem_cons_self)
      · exact .inr (List.mem_cons_of_mem _ later)
  exact (from_ .nothing there).resolve_left List.not_mem_nil

end Group

section Machine
variable {Uuid : Type} [DecidableEq Uuid]

def Listing.step (s : Listing Uuid) : ListStep Uuid → Listing Uuid × SyncDone Uuid
  | .change users userEmails events => ({ s with users, userEmails, queue := s.queue ++ events }, .nothing)
  | .lost => ({ s with queue := s.queue.tail }, .nothing)
  | .push weather =>
    match s.queue with
    | [] => (s, .nothing)
    | event :: rest =>
      let s := { s with queue := rest }
      let done := (s.world weather).handleEvent event
      (s.after weather done, done)
  | .pass weather =>
    let done := (s.world weather).reconcileApply.2
    (s.after weather done, done)
  | .joins email => (s.add (.of email), .nothing)
  | .leaves email => (s.depart .own (.of email), .nothing)

def listMachine (start : Listing Uuid) : Machine (Listing Uuid) (ListStep Uuid) (SyncDone Uuid) :=
  ⟨start, Listing.step⟩

theorem step_pass (s : Listing Uuid) (weather : Weather Uuid) :
    (s.step (.pass weather)).2 = (s.world weather).reconcileApply.2 :=
  rfl

/-- A pass opts out only those who left by their own act, and one that succeeds has all those on the
group who are intended again after the platform removed them. -/
structure Listing.PassKeeps (s : Listing Uuid) (weather : Weather Uuid) : Prop where
  optsOut : ∀ record ∈ (s.step (.pass weather)).2.optedOut, s.lastDeparture (.of record.2) = some .own
  brings : (s.world weather).reconcileApply.1.ok = true → ∀ address : Address, address.val ∈ addressSet s.intended →
    s.lastDeparture address = some .platform → address ∈ (s.step (.pass weather)).1.current

/-- Nobody whom the platform took off is off while intended. -/
def Listing.Settled (s : Listing Uuid) : Prop :=
  ∀ address : Address, address.val ∈ addressSet s.intended → address ∉ s.current →
    s.lastDeparture address ≠ some .platform

def Listing.Keeps (s : Listing Uuid) : ListStep Uuid → Prop
  | .pass weather => s.PassKeeps weather
  | _ => True

/-- When a pass succeeds, it began in a settled state. -/
def Listing.PassesSettled (s : Listing Uuid) : ListStep Uuid → Prop
  | .pass weather => (s.world weather).reconcileApply.1.ok = true → s.Settled
  | _ => True

variable {s : Listing Uuid} {weather : Weather Uuid} {address : Address}

theorem mem_addressSet_val {addresses : List Address} : address.val ∈ addressSet (addresses.map (·.val)) ↔
    address ∈ addresses := by
  rw [mem_addressSet]
  constructor
  · rintro ⟨email, there, same⟩
    obtain ⟨other, member, rfl⟩ := List.mem_map.mp there
    rw [other.2] at same
    exact Subtype.ext same ▸ member
  · exact fun member => ⟨address.val, List.mem_map_of_mem member, address.2⟩

theorem current_optOuts (now : Int) (optedOut : List (Uuid × String)) :
    (optedOut.foldl (fun s record => s.optOut now record.1) s).current = s.current := by
  induction optedOut generalizing s with
  | nil => rfl
  | cons record rest ih => exact ih

theorem mem_of_mem_after {done : SyncDone Uuid} (on : address ∈ (s.after weather done).current) :
    address ∈ s.current ∨ ∃ emails, .directAdd emails ∈ done.requests ∧ ∃ email ∈ emails, .of email = address := by
  rw [Listing.after, current_optOuts] at on
  generalize done.requests = requests at on ⊢
  induction requests generalizing s with
  | nil => exact .inl on
  | cons request rest ih =>
    rcases ih on with early | ⟨emails, later, added⟩
    · rcases mem_of_mem_carryOut early with before | ⟨emails, rfl, added⟩
      · exact .inl before
      · exact .inr ⟨emails, List.mem_cons_self, added⟩
    · exact .inr ⟨emails, List.mem_cons_of_mem _ later, added⟩

theorem mem_after {done : SyncDone Uuid} (on : address ∈ s.current)
    (stays : ∀ emails, .removeMembers emails ∈ done.requests → ∀ email ∈ emails, .of email ≠ address) :
    address ∈ (s.after weather done).current := by
  rw [Listing.after, current_optOuts]
  generalize done.requests = requests at stays ⊢
  induction requests generalizing s with
  | nil => exact on
  | cons request rest ih =>
    refine ih (mem_carryOut on ?_) fun emails later => stays emails (List.mem_cons_of_mem _ later)
    rintro emails rfl
    exact stays emails List.mem_cons_self

theorem plans_eq {plan : ReconcilePlan} (plans : (s.world weather).Plans plan) :
    plan = reconcilePlan s.intended (s.current.map (·.val)) (s.past.map (·.val)) weather.protectedAddresses := by
  have read : ∀ {α : Type} {wrong : Option String} {answer got : α}, unlessWrong wrong answer = .ok got →
      got = answer := by
    intro α wrong answer got same
    cases wrong with
    | none => exact (Except.ok.inj same).symm
    | some message => cases same
  obtain ⟨intended, current, past, roster, members, pastMembers, rfl⟩ := plans
  rw [read roster, read members, read pastMembers]
  rfl

/-- A pass keeps to those who left by their own act, and brings back the others, exactly when it
fails or everybody the platform took off and who is intended again was back on the group before. -/
theorem passKeeps_iff : s.PassKeeps weather ↔ ((s.world weather).reconcileApply.1.ok = true → s.Settled) := by
  rcases reconcileApply_spec (s.world weather) with ⟨failed, nothing⟩ | ⟨plan, plans, asks, ending⟩
  · refine ⟨fun _ ok => absurd (failed.symm.trans ok) Bool.false_ne_true, fun _ => ⟨?_, fun ok => ?_⟩⟩
    · intro record there
      have among : record ∈ (s.world weather).reconcileApply.2.optedOut := there
      rw [nothing] at among
      cases among
    · exact absurd (failed.symm.trans ok) Bool.false_ne_true
  obtain rfl := plans_eq plans
  rcases ending with ⟨failed, none_⟩ | ⟨ok, opted⟩
  · refine ⟨fun _ ok => absurd (failed.symm.trans ok) Bool.false_ne_true, fun _ => ⟨?_, fun ok => ?_⟩⟩
    · intro record there
      have among : record ∈ (s.world weather).reconcileApply.2.optedOut := there
      rw [none_] at among
      cases among
    · exact absurd (failed.symm.trans ok) Bool.false_ne_true
  constructor
  · intro keeps _ address intended off taken
    have on := keeps.brings ok address intended taken
    rcases mem_of_mem_after on with before | ⟨emails, asked, email, there, same⟩
    · exact off before
    · rcases asks _ asked with add | remove
      · cases add
        obtain ⟨ofIntended, -, notPast⟩ := mem_toAdd.mp there
        have left : address ∈ s.past := mem_past.mpr ⟨by rw [taken]; exact nofun, off⟩
        have val : email = address.val := (normalizeEmail_of_mem ofIntended).symm.trans (congrArg Subtype.val same)
        exact notPast (val ▸ mem_addressSet_val.mpr left)
      · cases remove
  · intro settled
    refine ⟨fun record there => ?_, fun _ address intended taken => ?_⟩
    · have among : record ∈ (s.world weather).reconcileApply.2.optedOut := there
      rw [opted] at among
      obtain ⟨intended, past, off⟩ := mem_toOptOut.mp (optedOut_optOuts among)
      have val : record.2 = (Address.of record.2).val := (normalizeEmail_of_mem intended).symm
      rw [val] at intended past off
      have left := mem_past.mp (mem_addressSet_val.mp past)
      have byOther := settled ok _ intended left.2
      rcases how : s.lastDeparture (Address.of record.2) with _ | _ | _
      · exact absurd how left.1
      · rfl
      · exact absurd how byOther
    · have on : address ∈ s.current := by
        by_contra off
        exact settled ok address intended off taken
      refine mem_after on fun emails asked email there same => ?_
      rcases asks _ asked with add | remove
      · cases add
      · cases remove
        obtain ⟨ofCurrent, notIntended, -⟩ := mem_toRemove.mp there
        have val : email = address.val := (normalizeEmail_of_mem ofCurrent).symm.trans (congrArg Subtype.val same)
        exact notIntended (val ▸ intended)

theorem not_passKeeps (record : Uuid × String) (optedOut : record ∈ (s.step (.pass weather)).2.optedOut)
    (taken : s.lastDeparture (.of record.2) = some .platform) : ¬ s.PassKeeps weather := by
  intro keeps
  have left := keeps.optsOut record optedOut
  rw [taken] at left
  cases left

/-- In every run the passes opt out only those who left by their own act, and bring back all whom
the platform had removed, exactly when every pass that succeeds began in a settled state. -/
theorem passes_keep_iff (start : Listing Uuid) (steps : List (ListStep Uuid)) :
    EveryStep (fun past step => ((listMachine start).run past).Keeps step) steps ↔
      EveryStep (fun past step => ((listMachine start).run past).PassesSettled step) steps := by
  refine EveryStep.congr fun past step => ?_
  cases step with
  | pass weather => exact passKeeps_iff
  | change users userEmails events => exact Iff.rfl
  | lost => exact Iff.rfl
  | push weather => exact Iff.rfl
  | joins email => exact Iff.rfl
  | leaves email => exact Iff.rfl

end Machine

def goodWeather : Weather Nat where
  enabled := true
  protectedAddresses := []
  now := 9
  collation := ⟨fun text => text.map Char.toLower, fun text => text.map Char.toLower⟩
  findUserById := none
  findUserByEmail _ := none
  listMailingListIntended := none
  setMailingListOptOut _ := none
  getMembers := none
  getPastMembers := none
  directAdd := none
  removeMembers := none

def anna (isActive : Bool) : List (Nat × ListMember) := [(1, ⟨"Anna@x.org", isActive, some 1, none⟩)]

/-- A member on the group, as any pass left her. -/
def annaListed : Listing Nat := ⟨anna true, [(1, "Anna@x.org")], [], [.of "anna@x.org"], []⟩

/-- She is deactivated, and the push takes her off; then she is activated again, and the push is lost. -/
def annaReactivated : List (ListStep Nat) :=
  [.change (anna false) [(1, "Anna@x.org")] [⟨"user_deactivation", some 1, fun _ => none⟩], .push goodWeather,
    .change (anna true) [(1, "Anna@x.org")] [⟨"user_activation", some 1, fun _ => none⟩], .lost]

theorem anna_address : Address.of "anna@x.org" = ⟨"anna@x.org", by decide +kernel⟩ := Subtype.ext (by decide +kernel)

theorem anna_taken_off : ((listMachine annaListed).run annaReactivated).lastDeparture (.of "anna@x.org") =
    some .platform := by
  rw [annaListed, anna_address]
  decide +kernel

/-- As the push left her, activated again. -/
def annaTakenOff : Listing Nat :=
  ⟨anna true, [(1, "Anna@x.org")], [], [], [(⟨"anna@x.org", by decide +kernel⟩, .platform)]⟩

theorem annaReactivated_run : (listMachine annaListed).run annaReactivated = annaTakenOff := by
  have start : annaListed = ⟨anna true, [(1, "Anna@x.org")], [], [⟨"anna@x.org", by decide +kernel⟩], []⟩ :=
    congrArg (fun address => (⟨anna true, [(1, "Anna@x.org")], [], [address], []⟩ : Listing Nat)) anna_address
  have queue : ((listMachine annaListed).run annaReactivated).queue.isEmpty = true := by
    rw [start]
    decide +kernel
  refine Listing.ext ?users ?userEmails (List.isEmpty_iff.mp queue) ?current ?departures
  all_goals
    rw [start]
    decide +kernel

theorem anna_planned : reconcilePlan ["Anna@x.org"] [] ["anna@x.org"] [] = ⟨[], [], ["anna@x.org"]⟩ := by
  have listed : addressSet ["Anna@x.org"] = ["anna@x.org"] := by decide +kernel
  have past : addressSet ["anna@x.org"] = ["anna@x.org"] := by decide +kernel
  rw [reconcilePlan, listed, past]
  decide +kernel

theorem anna_found : (annaTakenOff.world goodWeather).findUserByEmail "anna@x.org" = .ok (some 1) := by
  have asked : goodWeather.collation.toLowercase (trim "anna@x.org") = "anna@x.org" := by decide +kernel
  show Except.ok ((annaTakenOff.userEmails.find? fun row => goodWeather.collation.lower row.2 =
    goodWeather.collation.toLowercase (trim "anna@x.org")).map (·.1)) = _
  rw [asked]
  decide +kernel

theorem anna_opted_out :
    (1, "anna@x.org") ∈ (((listMachine annaListed).run annaReactivated).step (.pass goodWeather)).2.optedOut := by
  have roster : (annaTakenOff.world goodWeather).listMailingListIntended = .ok ["Anna@x.org"] := rfl
  have members : (annaTakenOff.world goodWeather).getMembers = .ok [] := rfl
  have past : (annaTakenOff.world goodWeather).getPastMembers = .ok ["anna@x.org"] := rfl
  have optedOut : ((annaTakenOff.world goodWeather).optOut "anna@x.org").optedOut = [(1, "anna@x.org")] := by
    rw [SyncWorld.optOut, anna_found]
    rfl
  rw [annaReactivated_run, step_pass, reconcileApply_of_plan rfl roster members past anna_planned,
    optedOut_optOuts_singleton, optedOut]
  exact List.mem_singleton_self _

/-- The pass opts her out, who never left. -/
theorem reactivated_member_opted_out : ¬ EveryStep (fun past step => ((listMachine annaListed).run past).Keeps step)
    (annaReactivated ++ [.pass goodWeather]) := by
  intro every
  exact not_passKeeps (1, "anna@x.org") anna_opted_out anna_taken_off
    (every annaReactivated (.pass goodWeather) [] rfl)

end CoopSpaces

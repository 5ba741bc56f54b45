import CoopSpaces.Lib.Machine
import CoopSpaces.Lib.Table
import CoopSpaces.Lib.Text

namespace CoopSpaces

/-- A row of `user_stripe_customers`, under its customer id. -/
structure StripeCustomer (Uuid : Type) where
  userId : Uuid
  subscriptionId : Option String
  subscriptionStatus : Option String
  deriving DecidableEq

/-- The users there are, and the customers they are known by. -/
structure StripeTables (Uuid : Type) where
  users : Uuid → Bool
  customers : Table String (StripeCustomer Uuid)

/-- The text fields of an event's object that its handlers read. -/
structure StripeObject where
  id : Option String
  customer : Option String
  clientReferenceId : Option String
  subscription : Option String
  status : Option String
  deriving DecidableEq

/-- A delivery of an event, which may fail before it writes anything. -/
structure StripeEvent where
  eventType : String
  object : StripeObject
  fails : Bool
  deriving DecidableEq

inductive StripeError where
  | database
  | notFound
  | conflict (message : String)
  deriving DecidableEq

namespace StripeTables
variable {Uuid : Type} [DecidableEq Uuid] [IdText Uuid] (s : StripeTables Uuid)

/-- Link a Stripe customer to a user, unless it belongs to another. -/
def linkStripeCustomer (uid : Uuid) (customer : String) (subscription status : Option String) :
    Option (StripeTables Uuid) :=
  match s.customers customer with
  | some row =>
    if row.userId ≠ uid then none
    else some { s with
      customers := s.customers.insert customer
        { row with subscriptionId := subscription, subscriptionStatus := status } }
  | none => some { s with customers := s.customers.insert customer ⟨uid, subscription, status⟩ }

/-- Record a customer's subscription id and last-seen status together. -/
def setStripeSubscription (customer : String) (subscription status : Option String) : Option (StripeTables Uuid) :=
  (s.customers customer).map fun row =>
    { s with
      customers := s.customers.insert customer
        { row with subscriptionId := subscription, subscriptionStatus := status } }

/-- The row's user; a user's rows go with the user. -/
def findUserByStripeCustomerId (customer : String) : Option Uuid :=
  ((s.customers customer).map (·.userId)).filter s.users

def userFromClientReference (object : StripeObject) : Option Uuid :=
  (object.clientReferenceId.bind IdText.parseStr).filter s.users

def handleCheckoutCompleted (object : StripeObject) : StripeTables Uuid × Except StripeError Bool :=
  match s.userFromClientReference object with
  | none => (s, .ok false)
  | some user =>
    match object.customer with
    | none => (s, .ok true)
    | some customer =>
      match s.linkStripeCustomer user customer object.subscription (object.subscription.map fun _ => "active") with
      | some linked => (linked, .ok true)
      | none => (s, .error (.conflict s!"Stripe customer {customer} is already linked to a different account"))

/-- Invoices are for the ledger. -/
def handleInvoice (object : StripeObject) : StripeTables Uuid × Except StripeError Bool :=
  (s, .ok (object.customer.any fun customer => (s.findUserByStripeCustomerId customer).isSome))

/-- Store a subscription of a customer that the platform knows. -/
def setIfKnown (object : StripeObject) (subscription status : Option String) :
    StripeTables Uuid × Except StripeError Bool :=
  match object.customer with
  | none => (s, .ok false)
  | some customer =>
    match s.findUserByStripeCustomerId customer with
    | none => (s, .ok false)
    | some _ =>
      match s.setStripeSubscription customer subscription status with
      | some stored => (stored, .ok true)
      | none => (s, .error .notFound)

def handleSubscriptionUpdated (object : StripeObject) : StripeTables Uuid × Except StripeError Bool :=
  s.setIfKnown object object.id object.status

def handleSubscriptionDeleted (object : StripeObject) : StripeTables Uuid × Except StripeError Bool :=
  s.setIfKnown object none (some "canceled")

def receiveWebhook (event : StripeEvent) : StripeTables Uuid × Except StripeError Bool :=
  if event.fails then (s, .error .database)
  else if event.eventType = "checkout.session.completed" then s.handleCheckoutCompleted event.object
  else if event.eventType = "invoice.paid" ∨ event.eventType = "invoice.payment_succeeded" ∨
    event.eventType = "invoice.payment_failed" then
    s.handleInvoice event.object
  else if event.eventType = "customer.subscription.updated" then s.handleSubscriptionUpdated event.object
  else if event.eventType = "customer.subscription.deleted" then s.handleSubscriptionDeleted event.object
  else (s, .ok false)

def recorded (customer : String) : Option String := (s.customers customer).bind (·.subscriptionId)

end StripeTables

namespace StripeEvent
variable {Uuid : Type} [DecidableEq Uuid] [IdText Uuid]

/-- A deletion event of a customer's very subscription. -/
def Deletes (event : StripeEvent) (customer subscription : String) : Prop :=
  event.eventType = "customer.subscription.deleted" ∧ event.object.customer = some customer ∧
    event.object.id = some subscription

instance (event : StripeEvent) (customer subscription : String) : Decidable (event.Deletes customer subscription) :=
  inferInstanceAs (Decidable (_ ∧ _ ∧ _))

def DeletedBy (past : List StripeEvent) (customer subscription : String) : Prop :=
  ∃ event ∈ past, event.Deletes customer subscription

/-- What is recorded is cleared only by a deletion of it, and what has been deleted is not recorded again. -/
def KeepsLive (s : StripeTables Uuid) (past : List StripeEvent) (event : StripeEvent) : Prop :=
  let after := (s.receiveWebhook event).1
  (∀ customer subscription, s.recorded customer = some subscription → after.recorded customer = none →
      event.Deletes customer subscription) ∧
    ∀ customer subscription, DeletedBy past customer subscription → s.recorded customer ≠ some subscription →
      after.recorded customer ≠ some subscription

/-- The event names no subscription where none is recorded, or one that has not been deleted unless it is recorded. -/
def NamesLive (s : StripeTables Uuid) (past : List StripeEvent) (customer : String) : Option String → Prop
  | none => s.recorded customer = none
  | some subscription => s.recorded customer = some subscription ∨ ¬ DeletedBy past customer subscription

/-- The customer is new, or one of the user's. -/
def Links (s : StripeTables Uuid) (event : StripeEvent) (customer : String) : Prop :=
  ∃ user, s.userFromClientReference event.object = some user ∧ ∀ row, s.customers customer = some row →
    row.userId = user

/-- A checkout that links a customer names a live subscription, or none where none is recorded; so does
an update of a known customer; and a deletion of a known customer names the one recorded, if there is one. -/
def Sound (s : StripeTables Uuid) (past : List StripeEvent) (event : StripeEvent) : Prop :=
  event.fails = true ∨ ∀ customer, event.object.customer = some customer →
    (event.eventType = "checkout.session.completed" → Links s event customer →
      NamesLive s past customer event.object.subscription) ∧ ((s.findUserByStripeCustomerId customer).isSome →
        (event.eventType = "customer.subscription.updated" → NamesLive s past customer event.object.id) ∧
          (event.eventType = "customer.subscription.deleted" →
            ∀ subscription, s.recorded customer = some subscription → event.object.id = some subscription))

/-- What the event writes for a customer, where it writes anything. -/
def Writes (s : StripeTables Uuid) (event : StripeEvent) (customer : String) (value : Option String) : Prop :=
  event.fails = false ∧ event.object.customer = some customer ∧
    ((event.eventType = "checkout.session.completed" ∧ Links s event customer ∧ value = event.object.subscription) ∨
      ((s.findUserByStripeCustomerId customer).isSome = true ∧
        ((event.eventType = "customer.subscription.updated" ∧ value = event.object.id) ∨
          (event.eventType = "customer.subscription.deleted" ∧ value = none))))

section Steps
variable {s : StripeTables Uuid} {event : StripeEvent} {customer : String} {value : Option String}
    {past : List StripeEvent}

omit [DecidableEq Uuid] [IdText Uuid] in
theorem recorded_insert (row : StripeCustomer Uuid) (c : String) :
    ({ s with customers := s.customers.insert customer row } : StripeTables Uuid).recorded c =
      if c = customer then row.subscriptionId else s.recorded c := by
  by_cases own : c = customer
  · subst own
    simp only [StripeTables.recorded, Table.insert_self, Option.bind_some, if_true]
  · simp only [StripeTables.recorded, Table.insert_of_ne _ _ own, if_neg own]

omit [DecidableEq Uuid] [IdText Uuid] in
theorem recorded_setIfKnown {object : StripeObject} (status : Option String) (named : object.customer = some customer)
    (known : (s.findUserByStripeCustomerId customer).isSome = true) (c : String) :
    (s.setIfKnown object value status).1.recorded c = if c = customer then value else s.recorded c := by
  obtain ⟨user, found⟩ := Option.isSome_iff_exists.mp known
  obtain ⟨row, there, -⟩ := Option.map_eq_some_iff.mp (Option.filter_eq_some_iff.mp found).1
  simp only [StripeTables.setIfKnown, named, found, StripeTables.setStripeSubscription, there, Option.map_some]
  exact recorded_insert _ c

omit [DecidableEq Uuid] [IdText Uuid] in
theorem setIfKnown_of_unknown {object : StripeObject} (subscription status : Option String)
    (unknown : ∀ customer, object.customer = some customer → (s.findUserByStripeCustomerId customer).isSome = false) :
    (s.setIfKnown object subscription status).1 = s := by
  unfold StripeTables.setIfKnown
  split
  · rfl
  · rename_i customer named
    have none_ := Option.isSome_eq_false_iff.mp (unknown customer named)
    rw [Option.isNone_iff_eq_none] at none_
    rw [none_]

theorem recorded_handleCheckoutCompleted {object : StripeObject} {user : Uuid}
    (found : s.userFromClientReference object = some user)
    (named : object.customer = some customer) (own : ∀ row, s.customers customer = some row →
      row.userId = user) (c : String) :
    (s.handleCheckoutCompleted object).1.recorded c = if c = customer then object.subscription else s.recorded c := by
  simp only [StripeTables.handleCheckoutCompleted, found, named, StripeTables.linkStripeCustomer]
  cases there : s.customers customer with
  | none => exact recorded_insert _ c
  | some row =>
    have same : ¬ row.userId ≠ user := not_not.mpr (own row there)
    simp only [if_neg same]
    exact recorded_insert _ c

theorem handleCheckoutCompleted_of_foreign {object : StripeObject}
    (foreign : ∀ customer user, object.customer = some customer → s.userFromClientReference object = some user →
      ∃ row, s.customers customer = some row ∧ row.userId ≠ user) : (s.handleCheckoutCompleted object).1 = s := by
  unfold StripeTables.handleCheckoutCompleted
  split
  · rfl
  · rename_i user found
    split
    · rfl
    · rename_i customer named
      obtain ⟨row, there, other⟩ := foreign customer user named found
      simp only [StripeTables.linkStripeCustomer, there, if_pos other]

theorem recorded_of_writes (writes : Writes s event customer value) (c : String) :
    (s.receiveWebhook event).1.recorded c = if c = customer then value else s.recorded c := by
  obtain ⟨through, named, ⟨checkout, ⟨user, found, own⟩, rfl⟩ | ⟨known, ⟨updated, rfl⟩ | ⟨deleted, rfl⟩⟩⟩ := writes
  · simp only [StripeTables.receiveWebhook, through, checkout, Bool.false_eq_true, if_false, if_true]
    exact recorded_handleCheckoutCompleted found named own c
  · simp only [StripeTables.receiveWebhook, through, updated, Bool.false_eq_true, if_false, if_true,
      String.reduceEq, or_self]
    exact recorded_setIfKnown _ named known c
  · simp only [StripeTables.receiveWebhook, through, deleted, Bool.false_eq_true, if_false, if_true,
      String.reduceEq, or_self]
    exact recorded_setIfKnown _ named known c

/-- Any other event leaves all as it was. -/
theorem receiveWebhook_of_idle (idle : ∀ customer value, ¬ Writes s event customer value) :
    (s.receiveWebhook event).1 = s := by
  unfold StripeTables.receiveWebhook
  split
  · rfl
  rename_i through
  rw [Bool.not_eq_true] at through
  have unknown : event.eventType = "customer.subscription.updated" ∨
    event.eventType = "customer.subscription.deleted" →
      ∀ customer, event.object.customer = some customer → (s.findUserByStripeCustomerId customer).isSome = false := by
    intro kind customer named
    rw [← Bool.not_eq_true]
    intro known
    rcases kind with updated | deleted
    · exact idle customer _ ⟨through, named, .inr ⟨known, .inl ⟨updated, rfl⟩⟩⟩
    · exact idle customer _ ⟨through, named, .inr ⟨known, .inr ⟨deleted, rfl⟩⟩⟩
  split
  · rename_i checkout
    refine handleCheckoutCompleted_of_foreign fun customer user named found => ?_
    by_contra own
    refine idle customer _ ⟨through, named, .inl ⟨checkout, ⟨user, found, fun row there => ?_⟩, rfl⟩⟩
    by_contra other
    exact own ⟨row, there, other⟩
  split
  · rfl
  split
  · rename_i updated
    exact setIfKnown_of_unknown _ _ (unknown (.inl updated))
  split
  · rename_i deleted
    exact setIfKnown_of_unknown _ _ (unknown (.inr deleted))
  · rfl

/-- What is written may be told of the recorded subscription. -/
def Fair (s : StripeTables Uuid) (past : List StripeEvent) (event : StripeEvent) (customer : String)
    (value : Option String) : Prop :=
  (value = none → ∀ subscription, s.recorded customer = some subscription → event.Deletes customer subscription) ∧
    ∀ subscription, value = some subscription → s.recorded customer = some subscription ∨
      ¬ DeletedBy past customer subscription

theorem keepsLive_iff : KeepsLive s past event ↔ ∀ customer value, Writes s event customer value →
    Fair s past event customer value := by
  constructor
  · rintro ⟨clears, revives⟩ customer value writes
    have after := recorded_of_writes writes customer
    rw [if_pos rfl] at after
    constructor
    · rintro rfl subscription before
      exact clears customer subscription before after
    · rintro subscription rfl
      by_contra revived
      rw [not_or, not_not] at revived
      exact revives customer subscription revived.2 revived.1 after
  · intro fair
    by_cases idle : ∀ customer value, ¬ Writes s event customer value
    · rw [KeepsLive, receiveWebhook_of_idle idle]
      refine ⟨fun customer subscription before after => ?_, fun _ _ _ fresh => fresh⟩
      rw [before] at after
      cases after
    · push Not at idle
      obtain ⟨customer, value, writes⟩ := idle
      obtain ⟨clears, revives⟩ := fair customer value writes
      have after := recorded_of_writes writes
      refine ⟨fun other subscription before cleared => ?_, fun other subscription deleted fresh recorded => ?_⟩
      · rw [after] at cleared
        split at cleared
        · rename_i own
          subst own
          exact clears cleared subscription before
        · rw [before] at cleared
          cases cleared
      · rw [after] at recorded
        split at recorded
        · rename_i own
          subst own
          exact (revives subscription recorded).elim fresh fun never => never deleted
        · exact fresh recorded

omit [DecidableEq Uuid] [IdText Uuid] in
theorem fair_of_namesLive {customer : String} {value : Option String} (live : NamesLive s past customer value) :
    Fair s past event customer value := by
  cases value with
  | none =>
    refine ⟨fun _ subscription before => ?_, nofun⟩
    rw [show s.recorded customer = none from live] at before
    cases before
  | some named =>
    refine ⟨nofun, fun subscription same => ?_⟩
    obtain rfl := Option.some.inj same
    exact live

omit [DecidableEq Uuid] [IdText Uuid] in
theorem namesLive_of_fair {customer : String} {value : Option String}
    (other : event.eventType ≠ "customer.subscription.deleted")
    (fair : Fair s past event customer value) : NamesLive s past customer value := by
  cases value with
  | none =>
    by_contra recorded
    obtain ⟨subscription, before⟩ := Option.ne_none_iff_exists'.mp recorded
    exact other (fair.1 rfl subscription before).1
  | some named => exact fair.2 named rfl

omit [DecidableEq Uuid] in
theorem sound_iff : Sound s past event ↔ ∀ customer value, Writes s event customer value →
    Fair s past event customer value := by
  constructor
  · rintro sound customer value ⟨through, named, writes⟩
    have here := (sound.resolve_left (by rw [through]; exact Bool.false_ne_true)) customer named
    rcases writes with ⟨checkout, links, rfl⟩ | ⟨known, ⟨updated, rfl⟩ | ⟨deleted, rfl⟩⟩
    · exact fair_of_namesLive (here.1 checkout links)
    · exact fair_of_namesLive ((here.2 known).1 updated)
    · refine ⟨fun _ subscription before => ?_, nofun⟩
      exact ⟨deleted, named, (here.2 known).2 deleted subscription before⟩
  · intro fair
    rcases through : event.fails with _ | _
    · refine .inr fun customer named =>
        ⟨fun checkout links => ?_, fun known => ⟨fun updated => ?_, fun deleted subscription before => ?_⟩⟩
      · refine namesLive_of_fair (by rw [checkout]; decide)
          (fair customer _ ⟨through, named, .inl ⟨checkout, links, rfl⟩⟩)
      · refine namesLive_of_fair (by rw [updated]; decide)
          (fair customer _ ⟨through, named, .inr ⟨known, .inl ⟨updated, rfl⟩⟩⟩)
      · exact ((fair customer none ⟨through, named, .inr ⟨known, .inr ⟨deleted, rfl⟩⟩⟩).1 rfl subscription before).2.2
    · exact .inl through

end Steps

def machine (start : StripeTables Uuid) : Machine (StripeTables Uuid) StripeEvent (Except StripeError Bool) :=
  ⟨start, StripeTables.receiveWebhook⟩

/-- Over any order of deliveries, the recorded subscriptions are cleared by their own deletions alone and never
revived, exactly when each event is sound as it comes. -/
theorem recorded_is_live_iff (start : StripeTables Uuid) (events : List StripeEvent) :
    EveryStep (fun past event => KeepsLive ((machine start).run past) past event) events ↔
      EveryStep (fun past event => Sound ((machine start).run past) past event) events :=
  EveryStep.congr fun _ _ => keepsLive_iff.trans sound_iff.symm

section
def member : HexId := .repeating 1

def completed (subscription : Option String) : StripeEvent :=
  ⟨"checkout.session.completed", ⟨some "cs_1", some "cus_1", some (IdText.toText member), subscription, none⟩, false⟩

def deleted (subscription : String) : StripeEvent :=
  ⟨"customer.subscription.deleted", ⟨some subscription, some "cus_1", none, none, none⟩, false⟩

/-- One member, who is no customer yet. -/
def memberOnly : StripeTables HexId := ⟨(· = member), .empty⟩

theorem one_time_payment_clears :
    ((machine memberOnly).run [completed (some "sub_1")]).recorded "cus_1" = some "sub_1" ∧
      ((machine memberOnly).run [completed (some "sub_1"), completed none]).recorded "cus_1" = none := by
  decide +kernel

theorem redelivery_revives :
    ((machine memberOnly).run [completed (some "sub_1"), deleted "sub_1"]).recorded "cus_1" = none ∧
      ((machine memberOnly).run
        [completed (some "sub_1"), deleted "sub_1", completed (some "sub_1")]).recorded "cus_1" =
        some "sub_1" := by
  decide +kernel

theorem recorded_not_live :
    ¬ EveryStep (fun past event => KeepsLive ((machine memberOnly).run past) past event)
      [completed (some "sub_1"), completed none] ∧
        ¬ EveryStep (fun past event => KeepsLive ((machine memberOnly).run past) past event)
        [completed (some "sub_1"), deleted "sub_1", completed (some "sub_1")] := by
  constructor
  · intro every
    have cleared := (every [completed (some "sub_1")] (completed none) [] rfl).1 "cus_1" "sub_1"
      one_time_payment_clears.1
      one_time_payment_clears.2
    revert cleared
    decide
  · intro every
    have last :=
      (every [completed (some "sub_1"), deleted "sub_1"] (completed (some "sub_1")) [] rfl).2 "cus_1" "sub_1"
    refine last ⟨deleted "sub_1", by decide, by decide⟩ ?_ redelivery_revives.2
    rw [redelivery_revives.1]
    exact nofun

end

end StripeEvent

end CoopSpaces

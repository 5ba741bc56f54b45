import CoopSpaces.Server.Payments

namespace CoopSpaces

/-- What the webhook reads of a charge. The amount is all that was refunded of it so far. -/
structure StripeCharge where
  id : Option String
  customer : Option String
  amountRefunded : Option Int
deriving DecidableEq

/-- An integer count of minor currency units as a decimal, exactly. -/
def minorUnitsToDecimal (minor : Int) : Rat := minor / 100

/-- The name of a charge's refund in the ledger. -/
def refundReference (charge : String) : String := charge ++ ":refund"

variable {Uuid : Type} [DecidableEq Uuid]

def BillingTables.findUserByStripeCustomerId (s : BillingTables Uuid) (links : Table String Uuid)
    (customer : String) : Option Uuid :=
  (links customer).filter fun user => (s.users user).isSome

/-- `charge.refunded`: post a refund debit, keyed on the charge id. -/
def handleChargeRefunded (rules : BillingRules Uuid) (links : Table String Uuid) (now : Int)
    (obj : StripeCharge) : BillingRoutine Uuid :=
  match obj.customer with
  | none => .done (.credited false)
  | some customer => .read fun s =>
    match s.findUserByStripeCustomerId links customer with
    | none => .done (.credited false)
    | some user =>
      let refunded := obj.amountRefunded.getD 0
      if refunded ≤ 0 then .done (.credited false)
      else BillingRequest.credit rules now user .stripeRefund (-minorUnitsToDecimal refunded)
        (obj.id.map refundReference)

/-- One delivery of an event: the customers linked by then, its instant, and how many statements it
gets through if it fails. -/
structure RefundDelivery (Uuid : Type) where
  obj : StripeCharge
  links : Table String Uuid
  now : Int
  fails : Option Nat

namespace RefundDelivery
variable (rules : BillingRules Uuid) (delivery : RefundDelivery Uuid)

def amount : Int := delivery.obj.amountRefunded.getD 0

def user (s : BillingTables Uuid) : Option Uuid :=
  delivery.obj.customer.bind (s.findUserByStripeCustomerId delivery.links)

def deliver (s : BillingTables Uuid) : BillingTables Uuid :=
  let routine := handleChargeRefunded rules delivery.links delivery.now delivery.obj
  match delivery.fails with
  | none => (routine.solo (BillingTables.perform rules) s).1
  | some steps => (routine.soloFor (BillingTables.perform rules) steps s).1

def deliverAll (s : BillingTables Uuid) (deliveries : List (RefundDelivery Uuid)) : BillingTables Uuid :=
  deliveries.foldl (fun s delivery => delivery.deliver rules s) s

/-- It is for a customer that is known, of some amount, and gets as far as the entry. -/
def posts (s : BillingTables Uuid) : Bool :=
  (delivery.user s).isSome && decide (0 < delivery.amount) && delivery.fails.all fun steps => decide (3 ≤ steps)

/-- The largest amount that was delivered. -/
def largest (deliveries : List (RefundDelivery Uuid)) : Int := (deliveries.map amount).foldr max 0

end RefundDelivery

/-- All that the ledger debits for the refund of a charge. -/
def refundDebit (charge : String) (s : BillingTables Uuid) : Rat :=
  -((s.ledger.filter fun entry => entry.externalReference = some (.external (refundReference charge))).map
    (·.amount)).sum

namespace RefundDelivery
variable {rules : BillingRules Uuid} {delivery : RefundDelivery Uuid} {s : BillingTables Uuid} {charge : String}

/-- The refund as a payment the ledger takes once. -/
def payment (charge : String) (user : Uuid) (amount : Int) : Payment Uuid :=
  ⟨user, .stripeRefund, -minorUnitsToDecimal amount, refundReference charge⟩

theorem routine_eq {member : Uuid} (ofCharge : delivery.obj.id = some charge) (found : delivery.user s = some member)
    (positive : 0 < delivery.amount) :
    ∃ next, handleChargeRefunded rules delivery.links delivery.now delivery.obj = .read next ∧
      next s = (payment charge member delivery.amount).recordCredit rules delivery.now := by
  unfold handleChargeRefunded
  unfold RefundDelivery.user at found
  cases customer : delivery.obj.customer with
  | none =>
    rw [customer] at found
    cases found
  | some name =>
    rw [customer, Option.bind_some] at found
    refine ⟨_, rfl, ?_⟩
    have more : ¬ delivery.obj.amountRefunded.getD 0 ≤ 0 := by
      unfold amount at positive
      omega
    simp only [found]
    rw [if_neg more, ofCharge]
    rfl

theorem act_of_idle (idle : delivery.user s = none ∨ delivery.amount ≤ 0) :
    (handleChargeRefunded rules delivery.links delivery.now delivery.obj).act s = .inl (.credited false) := by
  unfold handleChargeRefunded
  cases customer : delivery.obj.customer with
  | none => rfl
  | some name =>
    simp only [Routine.act]
    cases found : s.findUserByStripeCustomerId delivery.links name with
    | none => rfl
    | some member =>
      have small : delivery.obj.amountRefunded.getD 0 ≤ 0 := by
        refine idle.resolve_left fun nobody => ?_
        rw [RefundDelivery.user, customer, Option.bind_some, found] at nobody
        cases nobody
      simp only [if_pos small, Routine.act]

theorem deliver_of_act {answer : BillingAnswer Uuid}
    (acts : (handleChargeRefunded rules delivery.links delivery.now delivery.obj).act s = .inl answer) :
    delivery.deliver rules s = s := by
  unfold deliver
  cases delivery.fails with
  | none => exact congrArg Prod.fst (Routine.solo_of_act _ acts)
  | some steps => exact Routine.soloFor_of_act acts steps

theorem deliver_eq {member : Uuid} (ofCharge : delivery.obj.id = some charge) (found : delivery.user s = some member)
    (positive : 0 < delivery.amount) :
    delivery.deliver rules s =
      ((payment charge member delivery.amount).deliver rules s ⟨delivery.now, delivery.fails.map (· - 1)⟩).1 := by
  obtain ⟨next, routine, goes⟩ := @routine_eq _ _ rules _ _ _ _ ofCharge found positive
  unfold deliver Payment.deliver
  rw [routine]
  cases delivery.fails with
  | none => simp only [Routine.solo, goes, Option.map_none]
  | some steps =>
    cases steps with
    | zero => rfl
    | succ steps => simp only [Routine.soloFor, Routine.advance, goes, Option.map_some, Nat.add_sub_cancel]

omit [DecidableEq Uuid] in
theorem idle_or_found (s : BillingTables Uuid) (delivery : RefundDelivery Uuid) :
    (delivery.user s = none ∨ delivery.amount ≤ 0) ∨ ∃ member, delivery.user s = some member ∧
      0 < delivery.amount := by
  rcases found : delivery.user s with _ | member
  · exact .inl (.inl rfl)
  · rcases lt_or_ge 0 delivery.amount with positive | none_
    · exact .inr ⟨member, rfl, positive⟩
    · exact .inl (.inr none_)

theorem deliver_of_recorded (ofCharge : delivery.obj.id = some charge)
    (there : s.ledgerEntryExistsForReference (.external (refundReference charge)) = true) :
    delivery.deliver rules s = s := by
  rcases idle_or_found s delivery with idle | ⟨member, found, positive⟩
  · exact deliver_of_act (act_of_idle idle)
  · rw [deliver_eq ofCharge found positive]
    exact Payment.deliver_of_recorded there _

theorem deliverAll_of_recorded {deliveries : List (RefundDelivery Uuid)}
    (ofCharge : ∀ delivery ∈ deliveries, delivery.obj.id = some charge)
    (there : s.ledgerEntryExistsForReference (.external (refundReference charge)) = true) :
    deliverAll rules s deliveries = s := by
  induction deliveries with
  | nil => rfl
  | cons delivery later ih =>
    show deliverAll rules (delivery.deliver rules s) later = s
    rw [deliver_of_recorded (ofCharge delivery List.mem_cons_self) there]
    exact ih fun delivery member => ofCharge delivery (List.mem_cons_of_mem _ member)

theorem new_payment {member : Uuid} (found : delivery.user s = some member)
    (fresh : s.ledgerEntryExistsForReference (.external (refundReference charge)) = false) (amount : Int) :
    (payment charge member amount).New s := by
  refine ⟨?_, fresh⟩
  obtain ⟨customer, -, there⟩ := Option.bind_eq_some_iff.mp found
  exact Option.isSome_iff_exists.mp (Option.filter_eq_some_iff.mp there).2

omit [DecidableEq Uuid] in
theorem posts_of_found {member : Uuid} (found : delivery.user s = some member) (positive : 0 < delivery.amount) :
    delivery.posts s = (CreditDelivery.mk delivery.now (delivery.fails.map (· - 1))).posts := by
  unfold posts CreditDelivery.posts
  rw [found, decide_eq_true positive]
  cases delivery.fails with
  | none => rfl
  | some steps =>
    simp only [Option.isSome_some, Bool.and_self, Bool.true_and, Option.all_some, Option.map_some, decide_eq_decide]
    omega

theorem deliver_of_short (ofCharge : delivery.obj.id = some charge)
    (fresh : s.ledgerEntryExistsForReference (.external (refundReference charge)) = false)
    (short : delivery.posts s = false) :
    delivery.deliver rules s = s := by
  rcases idle_or_found s delivery with idle | ⟨member, found, positive⟩
  · exact deliver_of_act (act_of_idle idle)
  · rw [deliver_eq ofCharge found positive]
    rw [posts_of_found found positive] at short
    exact Payment.deliver_of_short (new_payment found fresh _) short

/-- The event that posts the entry debits what it says, and no more. -/
theorem deliver_of_posts (ofCharge : delivery.obj.id = some charge)
    (fresh : s.ledgerEntryExistsForReference (.external (refundReference charge)) = false)
    (posts : delivery.posts s = true) :
    (delivery.deliver rules s).ledgerEntryExistsForReference (.external (refundReference charge)) = true ∧
      refundDebit charge (delivery.deliver rules s) = minorUnitsToDecimal delivery.amount := by
  rcases idle_or_found s delivery with idle | ⟨member, found, positive⟩
  · exfalso
    rw [RefundDelivery.posts, Bool.and_eq_true, Bool.and_eq_true, decide_eq_true_eq] at posts
    rcases idle with nobody | nothing
    · rw [nobody] at posts
      exact Bool.false_ne_true posts.1.1
    · exact absurd posts.1.2 (Int.not_lt.mpr nothing)
  · rw [posts_of_found found positive] at posts
    rw [deliver_eq ofCharge found positive]
    have new : (payment charge member delivery.amount).New s := new_payment found fresh delivery.amount
    obtain ⟨more, ledger, unnamed⟩ := @Payment.ledger_of_deliver _ _ rules _ _ new _ posts
    constructor
    · refine BillingTables.mem_of_ledgerEntryExists.mpr ⟨(payment charge member delivery.amount).entry, ?_, rfl⟩
      rw [ledger]
      exact List.mem_append_left _ (List.mem_append_right _ (List.mem_singleton_self _))
    · have alone := Payment.filter_posted new more unnamed
      unfold refundDebit
      rw [ledger]
      refine (congrArg (fun entries : List (LedgerEntry Uuid) => -(entries.map (·.amount)).sum) alone).trans ?_
      simp only [Payment.entry, payment, List.map_cons, List.map_nil, List.sum_singleton, neg_neg]

theorem refundDebit_of_fresh (fresh : s.ledgerEntryExistsForReference (.external (refundReference charge)) = false) :
    refundDebit charge s = 0 := by
  have nothing : s.ledger.filter
      (fun entry => entry.externalReference = some (.external (refundReference charge))) = [] := by
    rw [List.filter_eq_nil_iff]
    intro entry member named
    have there := BillingTables.mem_of_ledgerEntryExists.mpr ⟨entry, member, of_decide_eq_true named⟩
    exact Bool.false_ne_true (fresh.symm.trans there)
  unfold refundDebit
  rw [nothing]
  rfl

/-- The first event to post the entry says what is debited for the charge. -/
theorem refundDebit_deliverAll (fresh : s.ledgerEntryExistsForReference (.external (refundReference charge)) = false)
    {deliveries : List (RefundDelivery Uuid)} (ofCharge : ∀ delivery ∈ deliveries, delivery.obj.id = some charge) :
    refundDebit charge (deliverAll rules s deliveries) =
      minorUnitsToDecimal ((deliveries.find? (·.posts s)).elim 0 amount) := by
  induction deliveries with
  | nil =>
    refine (refundDebit_of_fresh fresh).trans ?_
    simp [minorUnitsToDecimal]
  | cons delivery later ih =>
    have first := ofCharge delivery List.mem_cons_self
    have rest : ∀ delivery ∈ later, delivery.obj.id = some charge :=
      fun delivery member => ofCharge delivery (List.mem_cons_of_mem _ member)
    show refundDebit charge (deliverAll rules (delivery.deliver rules s) later) = _
    rcases posts : delivery.posts s with _ | _
    · rw [deliver_of_short first fresh posts, List.find?_cons, posts]
      exact ih rest
    · obtain ⟨there, debit⟩ := @deliver_of_posts _ _ rules _ _ _ first fresh posts
      rw [deliverAll_of_recorded rest there, debit, List.find?_cons, posts]
      rfl

theorem minorUnitsToDecimal_inj {less more : Int} : minorUnitsToDecimal less = minorUnitsToDecimal more ↔
    less = more := by
  unfold minorUnitsToDecimal
  constructor
  · intro same
    have hundred : (100 : Rat) ≠ 0 := by decide
    exact_mod_cast (div_left_inj' hundred).mp same
  · intro same
    rw [same]

variable (rules) in
/-- However the events of a charge come, the ledger debits the largest amount among them exactly when
the first of them that posts its entry says so, or none posts it and there is nothing to debit. -/
theorem refunds_add_up_iff (fresh : s.ledgerEntryExistsForReference (.external (refundReference charge)) = false)
    {deliveries : List (RefundDelivery Uuid)} (ofCharge : ∀ delivery ∈ deliveries, delivery.obj.id = some charge) :
    refundDebit charge (deliverAll rules s deliveries) = minorUnitsToDecimal (largest deliveries) ↔
      (deliveries.find? (·.posts s)).elim 0 amount = largest deliveries := by
  rw [refundDebit_deliverAll fresh ofCharge]
  exact minorUnitsToDecimal_inj

section
/-- The events of a charge of one member, at one instant each. -/
def refundsOf (amounts : List Int) : List (RefundDelivery Nat) :=
  amounts.zipIdx.map fun (amount, i) =>
    ⟨⟨some "ch_1", some "cus_1", some amount⟩, Table.empty.insert "cus_1" 2, i, none⟩

/-- The whole charge is refunded at once, and the event for it comes twice. -/
theorem refund_redelivered :
    refundDebit "ch_1" (deliverAll plainRules Payment.stranger (refundsOf [3000, 3000])) =
      minorUnitsToDecimal 3000 := by
  have fresh : Payment.stranger.ledgerEntryExistsForReference (.external (refundReference "ch_1")) = false := by
    decide
  have ofCharge : ∀ delivery ∈ refundsOf [3000, 3000], delivery.obj.id = some "ch_1" := by decide
  exact (refunds_add_up_iff plainRules fresh ofCharge).mpr (by decide)

/-- A refund of 10, and another of 20: the event that says 30 finds an entry for the charge. -/
theorem later_refund_lost :
    largest (refundsOf [1000, 3000]) = 3000 ∧
      refundDebit "ch_1" (deliverAll plainRules Payment.stranger (refundsOf [1000, 3000])) =
        minorUnitsToDecimal 1000 := by
  decide +kernel

end

end RefundDelivery

end CoopSpaces

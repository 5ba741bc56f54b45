import CoopSpaces.Server.Dues

namespace CoopSpaces

/-- A credit that its processor names, as every delivery of it asks for it. -/
structure Payment (Uuid : Type) where
  userId : Uuid
  entryType : LedgerEntryType
  amount : Rat
  reference : String
  deriving DecidableEq

/-- One delivery, a webhook's or a reconcile poll's: its instant, and how many statements it gets
through if it fails. -/
structure CreditDelivery where
  now : Int
  fails : Option Nat
  deriving DecidableEq

/-- It gets as far as posting the entry, after the check for the reference. -/
def CreditDelivery.posts (delivery : CreditDelivery) : Bool := delivery.fails.all fun steps => decide (2 ≤ steps)

namespace Payment
variable {Uuid : Type} [DecidableEq Uuid] (rules : BillingRules Uuid) (payment : Payment Uuid)

def entry : LedgerEntry Uuid :=
  ⟨payment.userId, payment.entryType, payment.amount, some (.external payment.reference)⟩

def recordCredit (now : Int) : BillingRoutine Uuid :=
  BillingRequest.credit rules now payment.userId payment.entryType payment.amount (some payment.reference)

/-- The state a delivery leaves, and what it reports unless it fails. -/
def deliver (s : BillingTables Uuid) (delivery : CreditDelivery) : BillingTables Uuid × Option (BillingAnswer Uuid) :=
  match delivery.fails with
  | none =>
    let after := (payment.recordCredit rules delivery.now).solo (BillingTables.perform rules) s
    (after.1, some after.2)
  | some steps => (((payment.recordCredit rules delivery.now).soloFor (BillingTables.perform rules) steps s).1, none)

def deliverAll (s : BillingTables Uuid) (deliveries : List CreditDelivery) : BillingTables Uuid :=
  deliveries.foldl (fun s delivery => (payment.deliver rules s delivery).1) s

/-- Recorded as if one delivery had come, and had not failed. -/
def Honoured (s : BillingTables Uuid) (deliveries : List CreditDelivery) : Prop :=
  ∃ delivery ∈ deliveries,
    payment.deliverAll rules s deliveries =
      ((payment.recordCredit rules delivery.now).solo (BillingTables.perform rules) s).1

/-- The member is not enrolled, and with the payment their balance covers the dues. -/
def Enrols (s : BillingTables Uuid) : Prop :=
  s.users payment.userId = some ⟨none⟩ ∧ s.config.dueAmount ≤ s.userBalance payment.userId + payment.amount

/-- The payment is for a member there is, and is not in the ledger yet. -/
structure New (s : BillingTables Uuid) : Prop where
  user : ∃ row, s.users payment.userId = some row
  reference : s.ledgerEntryExistsForReference (.external payment.reference) = false

section Steps
variable {rules payment} {s : BillingTables Uuid}

/-- The states a delivery passes through: with the entry, with the dues, with the date, with the role. -/
def posted (payment : Payment Uuid) (s : BillingTables Uuid) : BillingTables Uuid :=
  { s with ledger := s.ledger ++ [payment.entry] }

def charged (payment : Payment Uuid) (s : BillingTables Uuid) : BillingTables Uuid :=
  { s with ledger := s.ledger ++ [payment.entry] ++ [BillingRequest.duesEntry payment.userId s.config.dueAmount] }

def dated (rules : BillingRules Uuid) (payment : Payment Uuid) (now : Int) (s : BillingTables Uuid) :
    BillingTables Uuid :=
  { payment.charged s with users := s.users.insert payment.userId ⟨some (rules.advancePeriod now)⟩ }

def enrolled (rules : BillingRules Uuid) (payment : Payment Uuid) (now : Int) (s : BillingTables Uuid) :
    BillingTables Uuid :=
  { payment.dated rules now s with memberAccess := rules.applyRole s.memberAccess payment.userId true }

theorem perform_entry (new : payment.New s) :
    s.perform rules (.insertLedgerEntry payment.entry) = (payment.posted s, .ok s.ledger.length) := by
  obtain ⟨row, there⟩ := new.user
  simp only [BillingTables.perform, entry, Option.any_some, new.reference, Bool.false_eq_true, if_false, there,
    Option.isNone_some, posted]

theorem userBalance_posted :
    (payment.posted s).userBalance payment.userId = s.userBalance payment.userId + payment.amount := by
  simp only [posted, BillingTables.userBalance, entry, List.map_append, List.map_cons, List.map_nil, List.sum_append,
    List.sum_singleton, if_true]

theorem act_settleAfterCredit (other : ¬ payment.Enrols s) (now : Int) :
    (BillingRequest.settleAfterCredit rules now payment.userId).act (payment.posted s) = .inl (.credited true) := by
  simp only [BillingRequest.settleAfterCredit, Routine.act]
  rcases found : s.users payment.userId with _ | ⟨_ | date⟩
  · simp only [posted, found, Routine.act]
  · have short : ¬ s.config.dueAmount ≤ (payment.posted s).userBalance payment.userId := by
      rw [userBalance_posted]
      exact fun covers => other ⟨found, covers⟩
    simp only [posted, found, Option.isSome_none, Bool.false_eq_true, if_false, Routine.act] at short ⊢
    rw [if_neg short]
    rfl
  · simp only [posted, found, Option.isSome_some, if_true, Routine.act]

theorem perform_dues (new : payment.New s) :
    (payment.posted s).perform rules
    (.insertLedgerEntry (BillingRequest.duesEntry payment.userId s.config.dueAmount)) =
      (payment.charged s, .ok (payment.posted s).ledger.length) := by
  obtain ⟨row, there⟩ := new.user
  simp only [BillingTables.perform, BillingRequest.duesEntry, Option.any_none, Bool.false_eq_true, if_false,
    posted, there, Option.isNone_some, charged]

theorem perform_date (new : payment.New s) (now : Int) :
    (payment.charged s).perform rules (.setMembershipNextDue payment.userId (some (rules.advancePeriod now))) =
      (payment.dated rules now s, .ok 1) := by
  obtain ⟨row, there⟩ := new.user
  simp only [BillingTables.perform, charged, there, Option.isNone_some, Bool.false_eq_true, if_false, dated]

theorem perform_role (now : Int) : (payment.dated rules now s).perform rules (.applyRole payment.userId true) =
    (payment.enrolled rules now s, .ok 1) := rfl

/-- What is left of a delivery that enrols the member once the balance is read. -/
def enrolment (rules : BillingRules Uuid) (payment : Payment Uuid) (now : Int) (due : Rat) : BillingRoutine Uuid :=
  BillingRequest.andThen (.insertLedgerEntry (BillingRequest.duesEntry payment.userId due))
    (BillingRequest.andThen (.setMembershipNextDue payment.userId (some (rules.advancePeriod now)))
      (BillingRequest.andThen (.applyRole payment.userId true) (.done (.credited true))))

theorem soloFor_reads (enrols : payment.Enrols s) (now : Int) (steps : Nat) :
    (BillingRequest.settleAfterCredit rules now payment.userId).soloFor (BillingTables.perform rules)
    (steps + 3) (payment.posted s) =
      (payment.enrolment rules now s.config.dueAmount).soloFor (BillingTables.perform rules) steps
        (payment.posted s) := by
  have covers : s.config.dueAmount ≤ (payment.posted s).userBalance payment.userId := by
    rw [userBalance_posted]
    exact enrols.2
  have row : (payment.posted s).users payment.userId = some ⟨none⟩ := enrols.1
  have due : (payment.posted s).config.dueAmount = s.config.dueAmount := rfl
  simp only [Routine.soloFor, Routine.advance, BillingRequest.settleAfterCredit, row, Option.isSome_none,
    Bool.false_eq_true, if_false, due, if_pos covers, enrolment]

section
variable (new : payment.New s)
include new

/-- How far a delivery that enrols the member gets after the entry. -/
theorem soloFor_settleAfterCredit (enrols : payment.Enrols s) (now : Int) (steps : Nat) :
    ((BillingRequest.settleAfterCredit rules now payment.userId).soloFor (BillingTables.perform rules) steps
      (payment.posted s)).1 =
      if steps ≤ 3 then payment.posted s
      else if steps = 4 then payment.charged s
      else if steps = 5 then payment.dated rules now s
      else payment.enrolled rules now s := by
  have row : (payment.posted s).users payment.userId = some ⟨none⟩ := enrols.1
  match steps with
  | 0 => rfl
  | 1 => rfl
  | 2 =>
    simp only [Routine.soloFor, Routine.advance, BillingRequest.settleAfterCredit, row, Option.isSome_none,
      Bool.false_eq_true, if_false, Nat.reduceLeDiff, if_true]
  | 3 =>
    rw [soloFor_reads enrols now 0]
    rfl
  | 4 =>
    rw [soloFor_reads enrols now 1]
    simp only [enrolment, BillingRequest.andThen, Routine.soloFor, Routine.advance, perform_dues new]
    rfl
  | 5 =>
    rw [soloFor_reads enrols now 2]
    simp only [enrolment, BillingRequest.andThen, Routine.soloFor, Routine.advance, perform_dues new,
      perform_date new]
    rfl
  | more + 6 =>
    rw [soloFor_reads enrols now (more + 3), if_neg (by omega), if_neg (by omega), if_neg (by omega)]
    simp only [enrolment, BillingRequest.andThen, Routine.soloFor, Routine.advance, perform_dues new,
      perform_date new, perform_role, Routine.soloFor_done]

theorem solo_recordCredit (now : Int) :
    ((payment.recordCredit rules now).solo (BillingTables.perform rules) s).1 =
      ((BillingRequest.settleAfterCredit rules now payment.userId).solo (BillingTables.perform rules)
        (payment.posted s)).1 := by
  have inserted : s.perform rules (.insertLedgerEntry payment.entry) =
    (payment.posted s, .ok s.ledger.length) := perform_entry new
  unfold entry at inserted
  simp only [recordCredit, BillingRequest.credit, Option.map_some, Routine.solo, new.reference,
    Bool.false_eq_true, if_false, inserted]

theorem solo_enrols (enrols : payment.Enrols s) (now : Int) :
    ((payment.recordCredit rules now).solo (BillingTables.perform rules) s).1 = payment.enrolled rules now s := by
  have covers : s.config.dueAmount ≤ (payment.posted s).userBalance payment.userId := by
    rw [userBalance_posted]
    exact enrols.2
  have row : (payment.posted s).users payment.userId = some ⟨none⟩ := enrols.1
  have due : (payment.posted s).config.dueAmount = s.config.dueAmount := rfl
  rw [solo_recordCredit new]
  simp only [BillingRequest.settleAfterCredit, Routine.solo, row, Option.isSome_none, Bool.false_eq_true,
    if_false, due, if_pos covers, BillingRequest.andThen, perform_dues new, perform_date new, perform_role]

theorem solo_credits (other : ¬ payment.Enrols s) (now : Int) :
    ((payment.recordCredit rules now).solo (BillingTables.perform rules) s).1 = payment.posted s := by
  rw [solo_recordCredit new, Routine.solo_of_act _ (act_settleAfterCredit other now)]

theorem soloFor_recordCredit (now : Int) (steps : Nat) :
    ((payment.recordCredit rules now).soloFor (BillingTables.perform rules) steps s).1 =
      if steps ≤ 1 then s
      else ((BillingRequest.settleAfterCredit rules now payment.userId).soloFor (BillingTables.perform rules)
        (steps - 2)
        (payment.posted s)).1 := by
  have inserted : s.perform rules (.insertLedgerEntry payment.entry) =
    (payment.posted s, .ok s.ledger.length) := perform_entry new
  unfold entry at inserted
  match steps with
  | 0 => rfl
  | 1 => rfl
  | more + 2 =>
    rw [if_neg (by omega), Nat.add_sub_cancel]
    simp only [recordCredit, BillingRequest.credit, Option.map_some, Routine.soloFor, Routine.advance, new.reference,
      Bool.false_eq_true, if_false, inserted]

end

section
variable (there : s.ledgerEntryExistsForReference (.external payment.reference) = true)
include there

theorem deliver_of_recorded (delivery : CreditDelivery) : (payment.deliver rules s delivery).1 = s := by
  have acts : (payment.recordCredit rules delivery.now).act s = .inl (.credited false) := by
    simp only [recordCredit, BillingRequest.credit, Routine.act, there, if_true]
  unfold deliver
  cases delivery.fails with
  | none => exact congrArg Prod.fst (Routine.solo_of_act _ acts)
  | some steps => exact Routine.soloFor_of_act acts steps

theorem deliverAll_of_recorded (deliveries : List CreditDelivery) : payment.deliverAll rules s deliveries = s := by
  induction deliveries with
  | nil => rfl
  | cons delivery later ih =>
    show payment.deliverAll rules (payment.deliver rules s delivery).1 later = s
    rw [deliver_of_recorded there]
    exact ih

end

section
variable (new : payment.New s)
include new

theorem deliver_of_short {delivery : CreditDelivery} (short : delivery.posts = false) :
    (payment.deliver rules s delivery).1 = s := by
  unfold CreditDelivery.posts at short
  unfold deliver
  cases fails : delivery.fails with
  | none =>
    rw [fails] at short
    cases short
  | some steps =>
    rw [fails, Option.all_some, decide_eq_false_iff_not] at short
    refine (soloFor_recordCredit new delivery.now steps).trans (if_pos ?_)
    omega

theorem deliverAll_eq {deliveries : List CreditDelivery} {first : CreditDelivery}
    (found : deliveries.find? CreditDelivery.posts = some first)
    (recorded : (payment.deliver rules s first).1.ledgerEntryExistsForReference (.external payment.reference) =
      true) :
    payment.deliverAll rules s deliveries = (payment.deliver rules s first).1 := by
  induction deliveries with
  | nil => cases found
  | cons delivery later ih =>
    show payment.deliverAll rules (payment.deliver rules s delivery).1 later = _
    rw [List.find?_cons] at found
    split at found
    · obtain rfl := Option.some.inj found
      exact deliverAll_of_recorded recorded later
    · rename_i short
      rw [deliver_of_short new short]
      exact ih found

theorem filter_posted (more : List (LedgerEntry Uuid)) (unnamed : ∀ entry ∈ more, entry.externalReference = none) :
    (s.ledger ++ [payment.entry] ++ more).filter
    (fun entry => entry.externalReference = some (.external payment.reference)) =
      [payment.entry] := by
  have before : s.ledger.filter (fun entry => entry.externalReference = some (.external payment.reference)) = [] := by
    rw [List.filter_eq_nil_iff]
    intro entry member named
    have there := BillingTables.mem_of_ledgerEntryExists.mpr ⟨entry, member, of_decide_eq_true named⟩
    exact Bool.false_ne_true (new.reference.symm.trans there)
  have after : more.filter (fun entry => entry.externalReference = some (.external payment.reference)) = [] := by
    rw [List.filter_eq_nil_iff]
    intro entry member named
    have same := of_decide_eq_true named
    rw [unnamed entry member] at same
    cases same
  rw [List.filter_append, List.filter_append, before, after]
  simp [entry]

/-- One that posts the entry, where the member is enrolled by it. -/
theorem deliver_enrols (enrols : payment.Enrols s) {delivery : CreditDelivery} (posts : delivery.posts = true) :
    (payment.deliver rules s delivery).1 =
      match delivery.fails with
      | none => payment.enrolled rules delivery.now s
      | some steps =>
        if steps ≤ 5 then payment.posted s
        else if steps = 6 then payment.charged s
        else if steps = 7 then payment.dated rules delivery.now s
        else payment.enrolled rules delivery.now s := by
  unfold CreditDelivery.posts at posts
  unfold deliver
  cases fails : delivery.fails with
  | none => exact solo_enrols new enrols delivery.now
  | some steps =>
    rw [fails, Option.all_some, decide_eq_true_eq] at posts
    refine (soloFor_recordCredit new delivery.now steps).trans ?_
    rw [if_neg (by omega), soloFor_settleAfterCredit new enrols]
    have early : steps - 2 ≤ 3 ↔ steps ≤ 5 := by omega
    have fourth : steps - 2 = 4 ↔ steps = 6 := by omega
    have fifth : steps - 2 = 5 ↔ steps = 7 := by omega
    simp only [early, fourth, fifth]

theorem deliver_credits (other : ¬ payment.Enrols s) {delivery : CreditDelivery} (posts : delivery.posts = true) :
    (payment.deliver rules s delivery).1 = payment.posted s := by
  unfold CreditDelivery.posts at posts
  unfold deliver
  cases fails : delivery.fails with
  | none => exact solo_credits new other delivery.now
  | some steps =>
    rw [fails, Option.all_some, decide_eq_true_eq] at posts
    refine (soloFor_recordCredit new delivery.now steps).trans ?_
    rw [if_neg (by omega)]
    exact Routine.soloFor_of_act (act_settleAfterCredit other delivery.now) _

/-- Whatever the delivery comes to past the entry, the ledger has the entry, and dues at most. -/
theorem ledger_of_deliver {delivery : CreditDelivery} (posts : delivery.posts = true) :
    ∃ more, (payment.deliver rules s delivery).1.ledger = s.ledger ++ [payment.entry] ++ more ∧
      ∀ entry ∈ more, entry.externalReference = none := by
  have nothing : (payment.posted s).ledger = s.ledger ++ [payment.entry] ++ [] := (List.append_nil _).symm
  have dues : ∀ entry ∈ [BillingRequest.duesEntry payment.userId s.config.dueAmount],
      entry.externalReference = none := by
    intro entry member
    rw [List.mem_singleton.mp member]
    rfl
  by_cases enrols : payment.Enrols s
  · rw [deliver_enrols new enrols posts]
    cases delivery.fails with
    | none => exact ⟨_, rfl, dues⟩
    | some steps =>
      dsimp only
      split
      · exact ⟨[], nothing, fun entry member => by cases member⟩
      · split
        · exact ⟨_, rfl, dues⟩
        · split
          · exact ⟨_, rfl, dues⟩
          · exact ⟨_, rfl, dues⟩
  · rw [deliver_credits new enrols posts]
    exact ⟨[], nothing, fun entry member => by cases member⟩

end

end Steps

/-- The delivery got through all it had to do: to the end; or as far as the entry, where the member
is not to be enrolled; or to the last statement, where the role machine has nothing to change. -/
def Through (s : BillingTables Uuid) (delivery : CreditDelivery) : Prop :=
  (delivery.fails.all fun steps => decide (8 ≤ steps)) = true ∨ ¬ payment.Enrols s ∨
    (delivery.fails = some 7 ∧ rules.applyRole s.memberAccess payment.userId true = s.memberAccess)

variable {rules payment} {s : BillingTables Uuid}

theorem honoured_iff_through (new : payment.New s) {deliveries : List CreditDelivery} {first : CreditDelivery}
    (found : deliveries.find? CreditDelivery.posts = some first)
    (all : payment.deliverAll rules s deliveries = (payment.deliver rules s first).1) :
    payment.Honoured rules s deliveries ↔ payment.Through rules s first := by
  have posts : first.posts = true := List.find?_some found
  have member : first ∈ deliveries := List.mem_of_find?_eq_some found
  unfold Honoured
  rw [all]
  by_cases enrols : payment.Enrols s
  · have alone : (∃ delivery ∈ deliveries, (payment.deliver rules s first).1 =
          ((payment.recordCredit rules delivery.now).solo (BillingTables.perform rules) s).1) ↔
        ∃ delivery ∈ deliveries, (payment.deliver rules s first).1 = payment.enrolled rules delivery.now s := by
      simp only [solo_enrols new enrols]
    rw [alone, deliver_enrols new enrols posts]
    unfold Through
    cases fails : first.fails with
    | none => exact ⟨fun _ => .inl rfl, fun _ => ⟨first, member, rfl⟩⟩
    | some steps =>
      simp only [Option.all_some, decide_eq_true_eq, Option.some.injEq]
      by_cases early : steps ≤ 5
      · rw [if_pos early]
        constructor
        · rintro ⟨delivery, -, same⟩
          have ledgers := congrArg (fun t => t.ledger.length) same
          simp [posted, enrolled, dated, charged] at ledgers
        · rintro (late | other | ⟨seventh, -⟩)
          · omega
          · exact absurd enrols other
          · omega
      rw [if_neg early]
      by_cases sixth : steps = 6
      · rw [if_pos sixth]
        constructor
        · rintro ⟨delivery, -, same⟩
          have rows := congrArg (fun t => t.users payment.userId) same
          simp only [charged, enrolled, dated, Table.insert_self, enrols.1] at rows
          cases rows
        · rintro (late | other | ⟨seventh, -⟩)
          · omega
          · exact absurd enrols other
          · omega
      rw [if_neg sixth]
      by_cases seventh : steps = 7
      · rw [if_pos seventh]
        constructor
        · rintro ⟨delivery, -, same⟩
          have access := congrArg BillingTables.memberAccess same
          exact .inr (.inr ⟨seventh, access.symm⟩)
        · rintro (late | other | ⟨-, idle⟩)
          · omega
          · exact absurd enrols other
          · refine ⟨first, member, ?_⟩
            unfold enrolled
            rw [idle]
            rfl
      · rw [if_neg seventh]
        exact ⟨fun _ => .inl (by omega), fun _ => ⟨first, member, rfl⟩⟩
  · rw [deliver_credits new enrols posts]
    exact ⟨fun _ => .inr (.inl enrols), fun _ => ⟨first, member, (solo_credits new enrols first.now).symm⟩⟩

variable (rules) in
/-- However often a payment is delivered, and wherever deliveries fail: once one has not, the
ledger has its entry once, and all is as after one delivery that did not fail, exactly when the
first that posted the entry got through what came after it. -/
theorem payment_honoured_iff (new : payment.New s) {deliveries : List CreditDelivery}
    (answered : ∃ delivery ∈ deliveries, delivery.fails = none) :
    ((payment.deliverAll rules s deliveries).ledger.filter fun entry =>
        entry.externalReference = some (.external payment.reference)) = [payment.entry] ∧
      (payment.Honoured rules s deliveries ↔
        ∃ first, deliveries.find? CreditDelivery.posts = some first ∧ payment.Through rules s first) := by
  obtain ⟨delivery, member, through⟩ := answered
  have posting : (deliveries.find? CreditDelivery.posts).isSome = true := by
    rw [List.find?_isSome]
    refine ⟨delivery, member, ?_⟩
    unfold CreditDelivery.posts
    rw [through]
    rfl
  obtain ⟨first, found⟩ := Option.isSome_iff_exists.mp posting
  obtain ⟨more, ledger, unnamed⟩ := @ledger_of_deliver Uuid _ rules payment s new _ (List.find?_some found)
  have recorded : (payment.deliver rules s first).1.ledgerEntryExistsForReference
      (.external payment.reference) = true := by
    refine BillingTables.mem_of_ledgerEntryExists.mpr ⟨payment.entry, ?_, rfl⟩
    rw [ledger]
    exact List.mem_append_left _ (List.mem_append_right _ (List.mem_singleton_self _))
  have all := deliverAll_eq new found recorded
  constructor
  · rw [all, ledger]
    exact filter_posted new more unnamed
  · rw [honoured_iff_through new found all]
    constructor
    · exact fun through => ⟨first, found, through⟩
    · rintro ⟨other, there, through⟩
      obtain rfl := Option.some.inj (found.symm.trans there)
      exact through

section
/-- A member who is not enrolled, with nothing in the ledger, pays the dues. -/
def stranger : BillingTables Nat := { twoTools with ledger := [] }

def invoice : Payment Nat := ⟨2, .stripePayment, 20, "in_1"⟩

/-- The first delivery fails on its way, the second comes through. -/
def redelivered (steps : Nat) : List CreditDelivery := [⟨0, some steps⟩, ⟨5, none⟩]

theorem payment_honoured_iff_before : invoice.Honoured plainRules stranger (redelivered 1) := by
  have new : invoice.New stranger := ⟨⟨⟨none⟩, rfl⟩, rfl⟩
  exact (payment_honoured_iff plainRules new ⟨⟨5, none⟩, by decide, rfl⟩).2.mpr ⟨⟨5, none⟩, rfl, .inl rfl⟩

/-- The first has posted the entry and no more: the second reports it as recorded, and nobody
is enrolled. -/
theorem payment_not_honoured :
    let failed := (invoice.deliver plainRules stranger ⟨0, some 2⟩).1
    let after := invoice.deliverAll plainRules stranger (redelivered 2)
    let alone := (invoice.deliver plainRules stranger ⟨0, none⟩).1
    (invoice.deliver plainRules failed ⟨5, none⟩).2 = some (.credited false) ∧
      after.ledger = [invoice.entry] ∧ after.users 2 = some ⟨none⟩ ∧
      alone.ledger = [invoice.entry, BillingRequest.duesEntry 2 20] ∧
        (alone.users 2).bind (·.membershipNextDueAt) = some 1 := by
  decide +kernel

end

end Payment

end CoopSpaces

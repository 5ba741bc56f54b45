import CoopSpaces.Server.SessionCost

namespace CoopSpaces

section Bounds
variable {decimals : Decimals} {flatFee ratePerMin : Option Decimal} {cap : Int}

theorem billableSeconds_eq (notBelow : 0 ≤ cap) (secs : Rat) :
    billableSeconds secs cap = max 0 (min secs (cap * 60)) := by
  have most : (0 : Rat) ≤ cap * 60 := mul_nonneg (Int.cast_nonneg notBelow) (by norm_num)
  simp only [billableSeconds]
  split
  · rename_i beyond
    rw [min_eq_right beyond.le, max_eq_right most]
  · rename_i within
    rw [min_eq_left (not_lt.mp within)]
    split
    · rename_i negative
      rw [max_eq_left negative.le]
    · rename_i positive
      rw [max_eq_right (not_lt.mp positive)]

/-- What the time of a session costs, to the last fraction of a cent. -/
def exactTimeCost (ratePerMin : Option Decimal) (secs : Rat) (cap : Int) : Rat :=
  (ratePerMin.getD 0).value * max 0 (min secs (cap * 60)) / 60

/-- A session's cost, to the last fraction of a cent. -/
def exactCost (flatFee ratePerMin : Option Decimal) (secs : Rat) (cap : Int) : Rat :=
  (flatFee.getD 0).value + exactTimeCost ratePerMin secs cap

/-- The time charge as the library divides it. -/
def quotient (decimals : Decimals) (ratePerMin : Option Decimal) (secs : Rat) (cap : Int) : Rat :=
  decimals.div ((ratePerMin.getD 0).scale + Decimal.places (billableSeconds secs cap))
    ((ratePerMin.getD 0).value * billableSeconds secs cap) 60

/-- The products of a rate with two times are written to as many places, or neither takes more
digits than a quotient is carried to. -/
def ChargedAlike (decimals : Decimals) (ratePerMin : Option Decimal) (cap : Int) (secs later : Rat) : Prop :=
  Decimal.places (billableSeconds secs cap) = Decimal.places (billableSeconds later cap) ∨
    ∀ figure ∈ [secs, later], |(ratePerMin.getD 0).value * billableSeconds figure cap| *
      10 ^ ((ratePerMin.getD 0).scale + Decimal.places (billableSeconds figure cap)) < 10 ^ decimals.precision

theorem billableSeconds_mono (notBelow : 0 ≤ cap) {secs later : Rat} (le : secs ≤ later) :
    billableSeconds secs cap ≤ billableSeconds later cap := by
  rw [billableSeconds_eq notBelow, billableSeconds_eq notBelow]
  exact max_le_max_left _ (min_le_min_right _ le)

theorem billableSeconds_beyond (notBelow : 0 ≤ cap) {secs : Rat} (beyond : cap * 60 ≤ secs) :
    billableSeconds secs cap = billableSeconds (cap * 60) cap := by
  rw [billableSeconds_eq notBelow, billableSeconds_eq notBelow, min_eq_right beyond, min_self]

theorem billableSeconds_most (notBelow : 0 ≤ cap) (secs : Rat) : billableSeconds secs cap ≤ cap * 60 := by
  rw [billableSeconds_eq notBelow]
  exact max_le (mul_nonneg (Int.cast_nonneg notBelow) (by norm_num)) (min_le_right _ _)

theorem quotient_mono (notBelow : 0 ≤ cap) (rising : 0 ≤ (ratePerMin.getD 0).value) {secs later : Rat}
    (le : secs ≤ later) (alike : ChargedAlike decimals ratePerMin cap secs later) :
    quotient decimals ratePerMin secs cap ≤ quotient decimals ratePerMin later cap := by
  have products := mul_le_mul_of_nonneg_left (billableSeconds_mono notBelow le) rising
  refine decimals.div_le_div (by decide) products ?_
  rcases alike with same | few
  · exact .inl (by rw [same])
  · exact .inr ⟨few secs (by simp), few later (by simp)⟩

theorem quotient_nonneg (notBelow : 0 ≤ cap) (rising : 0 ≤ (ratePerMin.getD 0).value) (secs : Rat) :
    0 ≤ quotient decimals ratePerMin secs cap := by
  have time : 0 ≤ billableSeconds secs cap := by
    rw [billableSeconds_eq notBelow]
    exact le_max_left _ _
  have products : (ratePerMin.getD 0).value * (((0 : Int) : Rat) * 60) ≤
      (ratePerMin.getD 0).value * billableSeconds secs cap := by
    rw [Int.cast_zero, zero_mul]
    exact mul_le_mul_of_nonneg_left time rising
  have quotients := decimals.div_le_div (d := 60) (by decide) products
    (.inl (rfl : (ratePerMin.getD 0).scale + Decimal.places (billableSeconds secs cap) = _))
  rwa [div_minutes, Int.cast_zero, mul_zero] at quotients

theorem quotient_le (notBelow : 0 ≤ cap) (rising : 0 ≤ (ratePerMin.getD 0).value) (secs : Rat) :
    quotient decimals ratePerMin secs cap ≤ (ratePerMin.getD 0).value * cap := by
  have products := mul_le_mul_of_nonneg_left (billableSeconds_most notBelow secs) rising
  have quotients := decimals.div_le_div (d := 60) (by decide) products
    (.inl (rfl : (ratePerMin.getD 0).scale + Decimal.places (billableSeconds secs cap) = _))
  rwa [div_minutes] at quotients

theorem quotient_near (decimals : Decimals) (notBelow : 0 ≤ cap) (secs : Rat) :
    |quotient decimals ratePerMin secs cap - exactTimeCost ratePerMin secs cap| ≤
      5 / 10 ^ decimals.precision * |exactTimeCost ratePerMin secs cap| := by
  have near := decimals.div_near ((ratePerMin.getD 0).scale + Decimal.places (billableSeconds secs cap))
    ((ratePerMin.getD 0).value * billableSeconds secs cap) (d := 60) (by decide)
  have sixty : ((60 : Nat) : Rat) = 60 := by norm_num
  rw [sixty] at near
  rw [div_mul_eq_mul_div, le_div_iff₀ (by positivity), exactTimeCost, ← billableSeconds_eq notBelow]
  exact near

/-- What the two formulas promise of a rate and a cap. -/
structure ChargeLaws (decimals : Decimals) (flatFee ratePerMin : Option Decimal) (cap : Int) : Prop where
  mono : ∀ secs later, secs ≤ later → ChargedAlike decimals ratePerMin cap secs later →
    sessionCharge decimals flatFee ratePerMin secs cap ≤ sessionCharge decimals flatFee ratePerMin later cap
  flat : ∀ secs, decimals.round (flatFee.getD 0).value 2 ≤ sessionCharge decimals flatFee ratePerMin secs cap
  capped : ∀ secs : Rat, cap * 60 ≤ secs →
    sessionCharge decimals flatFee ratePerMin secs cap = sessionCharge decimals flatFee ratePerMin (cap * 60) cap
  most : ∀ secs, sessionCharge decimals flatFee ratePerMin secs cap ≤ maxSessionCost decimals flatFee ratePerMin cap
  near : ∀ secs, |sessionCharge decimals flatFee ratePerMin secs cap - exactCost flatFee ratePerMin secs cap| ≤
    1 / 200 + 5 / 10 ^ decimals.precision * |exactTimeCost ratePerMin secs cap|
  positive : isMetered flatFee ratePerMin = true → 1 ≤ cap →
    1 / 100 ≤ (flatFee.getD 0).value + (ratePerMin.getD 0).value * cap →
      0 < maxSessionCost decimals flatFee ratePerMin cap

/-- The charge and the most it can be bound each other, for any fee, and any rate and cap that are
not negative. -/
theorem charge_laws (rates : ∀ rate ∈ ratePerMin, 0 ≤ rate.value) (notBelow : 0 ≤ cap) :
    ChargeLaws decimals flatFee ratePerMin cap := by
  have rising : 0 ≤ (ratePerMin.getD 0).value := by
    cases ratePerMin with
    | none => exact Decimal.value_zero.ge
    | some rate => exact rates rate rfl
  have cent : ∀ x, |decimals.round x 2 - x| ≤ 1 / 200 := by
    intro x
    have near := decimals.round_near x 2
    norm_num at near
    exact near
  exact {
    mono := by
      intro secs later le alike
      exact decimals.round_le_round 2 (add_le_add_right (quotient_mono notBelow rising le alike) _)
    flat := by
      intro secs
      exact decimals.round_le_round 2 (le_add_of_nonneg_right (quotient_nonneg notBelow rising secs))
    capped := by
      intro secs beyond
      simp only [sessionCharge]
      rw [billableSeconds_beyond notBelow beyond]
    most := by
      intro secs
      exact decimals.round_le_round 2 (add_le_add_right (quotient_le notBelow rising secs) _)
    near := by
      intro secs
      have rounded := cent ((flatFee.getD 0).value + quotient decimals ratePerMin secs cap)
      have carried : |quotient decimals ratePerMin secs cap - exactTimeCost ratePerMin secs cap| ≤ _ :=
        quotient_near decimals notBelow secs
      have both := abs_sub_le (sessionCharge decimals flatFee ratePerMin secs cap)
        ((flatFee.getD 0).value + quotient decimals ratePerMin secs cap) (exactCost flatFee ratePerMin secs cap)
      rw [exactCost, add_sub_add_left_eq_sub] at both
      exact both.trans (add_le_add rounded carried)
    positive := by
      intro _ _ amount
      have rounded := (abs_le.mp (cent ((flatFee.getD 0).value + (ratePerMin.getD 0).value * cap))).1
      unfold maxSessionCost
      linarith }

theorem charge_laws_twenty_a_minute : ChargeLaws .hundredDigits (some 0.5) (some 0.2) 120 :=
  charge_laws (fun rate set => Option.some.inj set ▸ by decide +kernel) (by decide)

/-- Fees that end in half a cent together with a third, and with two thirds, as far as a quotient
is carried. -/
def thirdFee : Decimal := ⟨345 * 10 ^ 97 - (10 ^ 100 - 1) / 3, 100⟩

def twoThirdsFee : Decimal := ⟨675 * 10 ^ 97 - (2 * 10 ^ 100 + 1) / 3, 100⟩

/-- At one a minute, twenty seconds are billed over half a cent below their cost, as the quotient
loses what the cost is above the half; and forty seconds are billed a cent more than a little
longer time, whose quotient is carried further. -/
theorem quotient_decides_the_cent :
    1 / 200 < |sessionCharge .hundredDigits (some thirdFee) (some 1) 20 120 -
      exactCost (some thirdFee) (some 1) 20 120| ∧
        sessionCharge .hundredDigits (some twoThirdsFee) (some 1) (40 + 1 / 10 ^ 150) 120 <
        sessionCharge .hundredDigits (some twoThirdsFee) (some 1) 40 120 := by
  decide +kernel

end Bounds

end CoopSpaces

import Mathlib.Data.Nat.Log
import Mathlib.Data.Rat.Floor

/-- A decimal number as it is written out: its digits, and how many of them stand after the
point. -/
structure Decimal where
  digits : Int
  scale : Nat
  deriving DecidableEq

namespace Decimal

def value (x : Decimal) : Rat := x.digits / 10 ^ x.scale

instance {n : Nat} : OfNat Decimal n := ⟨n, 0⟩

instance : OfScientific Decimal where
  ofScientific digits point places := if point then ⟨digits, places⟩ else ⟨digits * 10 ^ places, 0⟩

@[simp]
theorem value_zero : (0 : Decimal).value = 0 := by
  decide +kernel

/-- So many places after the point will do for a number. -/
def Written (scale : Nat) (x : Rat) : Prop := ∃ digits : Int, x = digits / 10 ^ scale

theorem value_written (x : Decimal) : Written x.scale x.value := ⟨x.digits, rfl⟩

theorem written_zero (scale : Nat) : Written scale 0 := ⟨0, by rw [Int.cast_zero, zero_div]⟩

theorem Written.mul_int {scale : Nat} {x : Rat} (written : Written scale x) (n : Int) : Written scale (x * n) := by
  obtain ⟨digits, rfl⟩ := written
  refine ⟨digits * n, ?_⟩
  rw [Int.cast_mul, div_mul_eq_mul_div]

theorem Written.more {scale : Nat} {x : Rat} (written : Written scale x) (more : Nat) : Written (scale + more) x := by
  obtain ⟨digits, rfl⟩ := written
  refine ⟨digits * 10 ^ more, ?_⟩
  rw [pow_add, Int.cast_mul, Int.cast_pow, Int.cast_ofNat, mul_div_mul_right _ _ (by positivity)]

/-- How many places a number takes after the point. -/
def places (x : Rat) : Nat := ((List.range (x.den.log2 + 1)).find? fun n => x.den ∣ 10 ^ n).getD 0

end Decimal

/-- Decimal arithmetic as a library brings it. Sums and products are exact. A quotient by a whole
number has no fewer places than its dividend is written with, and goes on to so many digits if it
takes them; how it is rounded there may depend on how the dividend is written, once that has
more digits itself. -/
structure Decimals where
  precision : Nat
  div : Nat → Rat → Nat → Rat
  round : Rat → Nat → Rat
  div_le_div : ∀ {scale scale' : Nat} {x y : Rat} {d : Nat}, 0 < d → x ≤ y →
    (scale = scale' ∨ (|x| * 10 ^ scale < 10 ^ precision ∧ |y| * 10 ^ scale' < 10 ^ precision)) →
    div scale x d ≤ div scale' y d
  mul_div : ∀ {scale : Nat} {x : Rat} {d : Nat}, 0 < d → Decimal.Written scale x → div scale (x * d) d = x
  div_near : ∀ (scale : Nat) (x : Rat) {d : Nat}, 0 < d → |div scale x d - x / d| * 10 ^ precision ≤ 5 * |x / d|
  round_le_round : ∀ {x y : Rat} (places : Nat), x ≤ y → round x places ≤ round y places
  round_near : ∀ (x : Rat) (places : Nat), |round x places - x| ≤ 1 / (2 * 10 ^ places)
  round_zero : ∀ places, round 0 places = 0

namespace Decimals

/-- The nearest whole number; of two, the even one. -/
def halfEven (x : Rat) : Int :=
  if x - x.floor < 1 / 2 ∨ (x - x.floor = 1 / 2 ∧ x.floor % 2 = 0) then x.floor else x.floor + 1

theorem floor_le_halfEven (x : Rat) : x.floor ≤ halfEven x := by
  unfold halfEven
  split <;> omega

theorem halfEven_le_floor_succ (x : Rat) : halfEven x ≤ x.floor + 1 := by
  unfold halfEven
  split <;> omega

theorem halfEven_le_halfEven {x y : Rat} (le : x ≤ y) : halfEven x ≤ halfEven y := by
  have floors : x.floor ≤ y.floor := Rat.floor_monotone le
  rcases Int.lt_or_eq_of_le floors with apart | same
  · -- a whole number lies between them
    have up := halfEven_le_floor_succ x
    have down := floor_le_halfEven y
    omega
  · unfold halfEven
    rw [same]
    split
    · split <;> omega
    · rename_i upper
      rw [if_neg]
      rintro (below | ⟨half, even⟩)
      · exact upper (.inl (by linarith))
      · rcases lt_or_eq_of_le (show x - y.floor ≤ 1 / 2 by linarith) with less | equal
        · exact upper (.inl less)
        · exact upper (.inr ⟨equal, even⟩)

theorem halfEven_zero : halfEven 0 = 0 := by
  have whole : (0 : Rat).floor = 0 := rfl
  unfold halfEven
  rw [whole, if_pos (.inl (by norm_num))]

/-- To so many decimal places, a half to the even digit. -/
def roundHalfEven (x : Rat) (places : Nat) : Rat := halfEven (x * 10 ^ places) / 10 ^ places

theorem roundHalfEven_le {x y : Rat} (places : Nat) (le : x ≤ y) :
    roundHalfEven x places ≤ roundHalfEven y places := by
  have scale : (0 : Rat) ≤ 10 ^ places := by positivity
  have wholes : halfEven (x * 10 ^ places) ≤ halfEven (y * 10 ^ places) :=
    halfEven_le_halfEven (mul_le_mul_of_nonneg_right le scale)
  exact div_le_div_of_nonneg_right (Int.cast_le.mpr wholes) scale

theorem roundHalfEven_zero (places : Nat) : roundHalfEven 0 places = 0 := by
  unfold roundHalfEven
  rw [zero_mul, halfEven_zero, Int.cast_zero, zero_div]

theorem halfEven_near (x : Rat) : |(halfEven x : Rat) - x| ≤ 1 / 2 := by
  have above := Rat.floor_le x
  have below := Rat.lt_floor_add_one x
  push_cast at below
  unfold halfEven
  split
  · rename_i lower
    have half : x - x.floor ≤ 1 / 2 := by
      rcases lower with less | equal
      · exact less.le
      · exact equal.1.le
    rw [abs_le]
    constructor <;> linarith
  · rename_i upper
    have half : 1 / 2 ≤ x - x.floor := not_lt.mp fun less => upper (.inl less)
    push_cast
    rw [abs_le]
    constructor <;> linarith

/-- No further off than half the last place. -/
theorem roundHalfEven_near (x : Rat) (places : Nat) : |roundHalfEven x places - x| ≤ 1 / (2 * 10 ^ places) := by
  have scale : (0 : Rat) < 10 ^ places := by positivity
  have near := halfEven_near (x * 10 ^ places)
  have scaled : roundHalfEven x places - x = (halfEven (x * 10 ^ places) - x * 10 ^ places) / 10 ^ places := by
    rw [roundHalfEven, sub_div, mul_div_cancel_right₀ x scale.ne']
  rw [scaled, abs_div, abs_of_pos scale, div_le_iff₀ scale]
  refine near.trans (le_of_eq ?_)
  field_simp

/-- Quotients without a limit, rounded half to even. -/
def exact : Decimals where
  precision := 100
  div _ x d := x / d
  round := roundHalfEven
  div_le_div positive le _ := div_le_div_of_nonneg_right le (Nat.cast_nonneg _)
  mul_div positive _ := mul_div_cancel_right₀ _ (Nat.cast_ne_zero.mpr positive.ne')
  div_near _ _ _ _ := by
    rw [sub_self, abs_zero, zero_mul]
    exact mul_nonneg (by norm_num) (abs_nonneg _)
  round_le_round := roundHalfEven_le
  round_near := roundHalfEven_near
  round_zero := roundHalfEven_zero

section Carried
variable {x y b : Rat} {n m k : Nat}

theorem roundHalfEven_of_written (written : Decimal.Written k b) (le : k ≤ n) : roundHalfEven b n = b := by
  obtain ⟨digits, rfl⟩ := written
  have scale : (10 : Rat) ^ k ≠ 0 := by positivity
  have whole : (digits : Rat) / 10 ^ k * 10 ^ n = ((digits * 10 ^ (n - k) : Int) : Rat) := by
    push_cast
    rw [← Nat.add_sub_of_le le, pow_add, Nat.add_sub_cancel_left]
    field_simp
  have floor : ∀ z : Int, halfEven z = z := by
    intro z
    have same : (z : Rat).floor = z := Rat.floor_intCast z
    unfold halfEven
    rw [same, sub_self, if_pos (.inl (by norm_num))]
  rw [roundHalfEven, whole, floor, ← whole, mul_div_cancel_right₀ _ (by positivity)]

/-- Two numbers with one written out between them are rounded in order, if to its places at
least. -/
theorem roundHalfEven_le_apart (written : Decimal.Written k b) (left : k ≤ n) (right : k ≤ m) (below : x ≤ b)
    (above : b ≤ y) : roundHalfEven x n ≤ roundHalfEven y m :=
  calc roundHalfEven x n ≤ roundHalfEven b n := roundHalfEven_le n below
    _ = b := roundHalfEven_of_written written left
    _ = roundHalfEven b m := (roundHalfEven_of_written written right).symm
    _ ≤ roundHalfEven y m := roundHalfEven_le m above

/-- The place of the hundredth digit. -/
def hundredth (x : Rat) : Nat := Nat.clog 10 ⌈10 ^ 99 / |x|⌉₊

theorem hundredth_le_iff (nonzero : x ≠ 0) : hundredth x ≤ k ↔ 10 ^ 99 ≤ |x| * 10 ^ k := by
  rw [hundredth, Nat.clog_le_iff_le_pow (by norm_num), Nat.ceil_le, div_le_iff₀ (abs_pos.mpr nonzero), mul_comm]
  push_cast
  exact Iff.rfl

/-- Of two numbers on one side of nothing, a power of ten lies between if they do not have their
hundredth digit in one place. -/
theorem written_between (le : x ≤ y) (nonzero : x ≠ 0) (nonzero' : y ≠ 0) (side : 0 < x ∨ y < 0)
    (apart : ¬ (hundredth x ≤ k ↔ hundredth y ≤ k)) : ∃ b, Decimal.Written k b ∧ x ≤ b ∧ b ≤ y := by
  have scale : (0 : Rat) < 10 ^ k := by positivity
  rw [hundredth_le_iff nonzero, hundredth_le_iff nonzero'] at apart
  rcases side with positive | negative
  · have positive' : 0 < y := lt_of_lt_of_le positive le
    rw [abs_of_pos positive, abs_of_pos positive'] at apart
    have order := mul_le_mul_of_nonneg_right le scale.le
    refine ⟨10 ^ 99 / 10 ^ k, ⟨10 ^ 99, by push_cast; rfl⟩, ?_, ?_⟩
    · rw [le_div_iff₀ scale]
      by_contra beyond
      exact apart (iff_of_true (not_le.mp beyond).le ((not_le.mp beyond).le.trans order))
    · rw [div_le_iff₀ scale]
      by_contra short
      exact apart (iff_of_false (fun high => short (high.trans order)) short)
  · have negative' : x < 0 := lt_of_le_of_lt le negative
    rw [abs_of_neg negative, abs_of_neg negative'] at apart
    have order := mul_le_mul_of_nonneg_right (neg_le_neg le) scale.le
    refine ⟨-10 ^ 99 / 10 ^ k, ⟨-10 ^ 99, by push_cast; rfl⟩, ?_, ?_⟩
    · rw [le_div_iff₀ scale]
      by_contra short
      have low : ¬ (10 : Rat) ^ 99 ≤ -x * 10 ^ k := fun high => short (by linarith)
      exact apart (iff_of_false low fun high => low (high.trans order))
    · rw [div_le_iff₀ scale]
      by_contra beyond
      have high : (10 : Rat) ^ 99 ≤ -y * 10 ^ k := by linarith
      exact apart (iff_of_true (high.trans order) high)

/-- Rounded at the hundredth digit, and to no fewer than so many places. -/
def carried (scale : Nat) (x : Rat) : Rat := roundHalfEven x (max scale (hundredth x))

theorem carried_le_carried (scale : Nat) (le : x ≤ y) : carried scale x ≤ carried scale y := by
  unfold carried
  by_cases across : x ≤ 0 ∧ 0 ≤ y
  · exact roundHalfEven_le_apart (Decimal.written_zero 0) (Nat.zero_le _) (Nat.zero_le _) across.1 across.2
  · have side : 0 < x ∨ y < 0 := by
      rcases not_and_or.mp across with right | left
      · exact .inl (not_le.mp right)
      · exact .inr (not_le.mp left)
    have nonzero : x ≠ 0 := by
      rintro rfl
      exact across ⟨le_rfl, le⟩
    have nonzero' : y ≠ 0 := by
      rintro rfl
      exact across ⟨le, le_rfl⟩
    rcases lt_trichotomy (max scale (hundredth x)) (max scale (hundredth y)) with fewer | same | more
    · obtain ⟨b, written, below, above⟩ := written_between (k := max scale (hundredth x)) le nonzero nonzero' side
        (by omega)
      exact roundHalfEven_le_apart written le_rfl fewer.le below above
    · rw [same]
      exact roundHalfEven_le _ le
    · obtain ⟨b, written, below, above⟩ := written_between (k := max scale (hundredth y)) le nonzero nonzero' side
        (by omega)
      exact roundHalfEven_le_apart written more.le le_rfl below above

/-- No number of a hundred digits is rounded to the places it is written with. -/
theorem carried_div {scale d : Nat} (positive : 0 < d) (few : |x| * 10 ^ scale < 10 ^ 100) :
    carried scale (x / d) = carried 0 (x / d) := by
  by_cases nonzero : x / d = 0
  · rw [nonzero, carried, carried, roundHalfEven_zero, roundHalfEven_zero]
  · have less : |x / d| ≤ |x| := by
      rw [abs_div, Nat.abs_cast]
      exact div_le_self (abs_nonneg x) (by exact_mod_cast positive)
    have within : scale ≤ hundredth (x / d) := by
      by_contra beyond
      have high := (hundredth_le_iff nonzero).mp (Nat.le_pred_of_lt (not_le.mp beyond))
      have split : (10 : Rat) ^ scale = 10 ^ (scale - 1) * 10 := by
        rw [← pow_succ, Nat.sub_add_cancel (by omega)]
      have whole := mul_le_mul_of_nonneg_right less (by positivity : (0 : Rat) ≤ 10 ^ scale)
      rw [split] at whole few
      rw [Nat.pred_eq_sub_one] at high
      linarith
    rw [carried, carried, max_eq_right within, max_eq_right (Nat.zero_le _)]

/-- Quotients to a hundred digits, rounded half to even. -/
def hundredDigits : Decimals where
  precision := 100
  div scale x d := carried scale (x / d)
  round := roundHalfEven
  div_le_div {scale scale' x y d} positive le alike := by
    have quotients : x / d ≤ y / d := div_le_div_of_nonneg_right le (Nat.cast_nonneg d)
    rcases alike with rfl | ⟨few, few'⟩
    · exact carried_le_carried scale quotients
    · rw [carried_div positive few, carried_div positive few']
      exact carried_le_carried 0 quotients
  mul_div {scale x d} positive written := by
    have nonzero : (d : Rat) ≠ 0 := Nat.cast_ne_zero.mpr positive.ne'
    rw [mul_div_cancel_right₀ x nonzero]
    exact roundHalfEven_of_written written (le_max_left _ _)
  div_near scale x d _ := by
    by_cases nonzero : x / d = 0
    · rw [nonzero, carried, roundHalfEven_zero, sub_self, abs_zero, zero_mul, mul_zero]
    · have digits := (hundredth_le_iff nonzero).mp (le_max_right scale (hundredth (x / d)))
      have near := roundHalfEven_near (x / d) (max scale (hundredth (x / d)))
      have power : (0 : Rat) < 10 ^ max scale (hundredth (x / d)) := by positivity
      rw [le_div_iff₀ (by positivity)] at near
      unfold carried
      calc |roundHalfEven (x / d) (max scale (hundredth (x / d))) - x / d| * 10 ^ 100
          = 10 * (|roundHalfEven (x / d) (max scale (hundredth (x / d))) - x / d| * 10 ^ 99) := by ring
        _ ≤ 10 * (|roundHalfEven (x / d) (max scale (hundredth (x / d))) - x / d| *
              (|x / d| * 10 ^ max scale (hundredth (x / d)))) := by gcongr
        _ = 5 * |x / d| * (|roundHalfEven (x / d) (max scale (hundredth (x / d))) - x / d| *
              (2 * 10 ^ max scale (hundredth (x / d)))) := by ring
        _ ≤ 5 * |x / d| * 1 := by gcongr
        _ = 5 * |x / d| := mul_one _
  round_le_round := roundHalfEven_le
  round_near := roundHalfEven_near
  round_zero := roundHalfEven_zero

end Carried

end Decimals

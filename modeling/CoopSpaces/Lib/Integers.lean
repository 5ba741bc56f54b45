import Mathlib.Algebra.Group.Int.Defs
import Mathlib.Algebra.Group.Nat.Defs

/-! Integers of sixty-four bits, and the texts they are read from. -/

/-- The integers that sixty-four bits hold. -/
def FitsInt64 (n : Int) : Prop := -2 ^ 63 ≤ n ∧ n < 2 ^ 63

instance : DecidablePred FitsInt64 := fun n => inferInstanceAs (Decidable (-2 ^ 63 ≤ n ∧ n < 2 ^ 63))

/-- What arithmetic with this exact result leaves: with overflow checks a panic where it does not
fit, without them what is left after wrapping around. -/
def machineInt64 (checks : Bool) (exact : Int) : Option Int64 :=
  if checks ∧ ¬ FitsInt64 exact then none else some (Int64.ofInt exact)

def parseDigits : List Char → Option Nat
  | [] => none
  | digits => digits.foldlM (fun n c => if c.isDigit then some (10 * n + (c.toNat - 48)) else none) 0

/-- A sign if there is one, at least one digit, and a value that fits. -/
def parseInt64 (text : String) : Option Int64 :=
  let value : Option Int :=
    match text.toList with
    | '-' :: digits => (parseDigits digits).map fun n => -(n : Int)
    | '+' :: digits => (parseDigits digits).map fun n => (n : Int)
    | digits => (parseDigits digits).map fun n => (n : Int)
  value.bind fun n => if FitsInt64 n then some (Int64.ofInt n) else none

theorem toInt_of_fits {exact : Int} (fits : FitsInt64 exact) : (Int64.ofInt exact).toInt = exact :=
  Int64.toInt_ofInt_of_le fits.1 fits.2

theorem machineInt64_of_fits {exact : Int} (fits : FitsInt64 exact) (checks : Bool) :
    machineInt64 checks exact = some (Int64.ofInt exact) := if_neg fun panics => panics.2 fits

theorem machineInt64_of_checks {exact : Int} (past : ¬ FitsInt64 exact) : machineInt64 true exact = none :=
  if_pos ⟨rfl, past⟩

/-- An integer and its distance from zero both fit just when that distance does. -/
theorem natAbs_lt_iff_fits {n : Int} : n.natAbs < 2 ^ 63 ↔ FitsInt64 n ∧ FitsInt64 n.natAbs := by
  unfold FitsInt64
  omega

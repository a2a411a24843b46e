import BidSystem.Shared.Python
import Mathlib.Algebra.Order.Ring.Rat

/-!
# Floating point

`float` as far as delays need it: its comparisons, `min`, and the product with a
power of two, which is exact unless it is too large.
-/

namespace BidSystem

/-- A `float`. -/
inductive PyFloat where
  | real (value : ℚ)
  | inf
  | negInf
  | nan
deriving DecidableEq

namespace PyFloat

instance : Zero PyFloat := ⟨real 0⟩

/-- `<`; `nan` compares with nothing. -/
def lt : PyFloat → PyFloat → Bool
  | real value, real other => value < other
  | real _, inf => true
  | negInf, real _ => true
  | negInf, inf => true
  | _, _ => false

/-- `<=`. -/
def le : PyFloat → PyFloat → Bool
  | real value, real other => value ≤ other
  | real _, inf => true
  | inf, inf => true
  | negInf, real _ => true
  | negInf, inf => true
  | negInf, negInf => true
  | _, _ => false

instance : LT PyFloat := ⟨fun value other => value.lt other = true⟩

instance : LE PyFloat := ⟨fun value other => value.le other = true⟩

instance : DecidableLT PyFloat := fun value other => inferInstanceAs (Decidable (value.lt other = true))

instance : DecidableLE PyFloat := fun value other => inferInstanceAs (Decidable (value.le other = true))

@[simp] theorem real_lt_real {value other : ℚ} : real value < real other ↔ value < other :=
  decide_eq_true_iff

@[simp] theorem real_le_real {value other : ℚ} : real value ≤ real other ↔ value ≤ other :=
  decide_eq_true_iff

theorem zero_eq : (0 : PyFloat) = real 0 := rfl

instance : Std.Asymm (α := PyFloat) (· < ·) where
  asymm value other below above := by
    cases value <;> cases other <;>
      first
        | exact (Bool.false_ne_true below).elim
        | exact (Bool.false_ne_true above).elim
        | exact lt_asymm (real_lt_real.mp below) (real_lt_real.mp above)

/-- `min(value, other)`. -/
def min (value other : PyFloat) : PyFloat := if other < value then other else value

/-- `value * 2.0 ** exponent`, for a power that is a `float`. -/
def timesPowerOfTwo (exponent : ℕ) : PyFloat → PyFloat
  | real value =>
      if 2 ^ 1024 ≤ value * 2 ^ exponent then inf
      else if value * 2 ^ exponent ≤ -2 ^ 1024 then negInf
      else real (value * 2 ^ exponent)
  | inf => inf
  | negInf => negInf
  | nan => nan

end PyFloat

end BidSystem

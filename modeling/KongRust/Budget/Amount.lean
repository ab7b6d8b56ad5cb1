import Mathlib.Tactic.Positivity
import KongRust.Foundation.Decimal

/-!
# Budget amounts

A budget amount is a whole number of `10⁻¹²` dollars, as in a `NUMERIC(28,12)` column. Amounts
enter as decimals through `normalizeBudgetAmount`, which never rounds; `Usd.checkedAdd_eq_add?`
says that the sum checked before a write and the sum computed in SQL are the same.
-/

namespace KongRust.Budget

/-- The number of values of a non-negative `NUMERIC(28,12)`, in units of `10⁻¹²`. -/
def NUMERIC_BOUND : Nat := 10 ^ 28

/-- A budget amount that `NUMERIC(28,12)` holds without loss. -/
structure Usd where
  units : Nat
  inRange : units < NUMERIC_BOUND
  deriving DecidableEq

namespace Usd

def zero : Usd := ⟨0, by decide⟩

/-- The amount as `sqlx` reads it: with all twelve fractional digits. -/
def toDecimal (a : Usd) : Decimal where
  mantissa := a.units
  scale := 12
  inRange := by
    have h := a.inRange
    unfold NUMERIC_BOUND at h
    unfold Decimal.MANTISSA
    omega

/-- `Decimal::to_string` of the amount. -/
def toText (a : Usd) : String := a.toDecimal.toText

/-- SQL addition of two `NUMERIC(28,12)` values, stored back into such a column. -/
def add? (a b : Usd) : Option Usd :=
  if h : a.units + b.units < NUMERIC_BOUND then some ⟨a.units + b.units, h⟩ else none

end Usd

/-- `DECIMAL_28_12_UPPER_BOUND`. -/
def DECIMAL_28_12_UPPER_BOUND : Nat := 10000000000000000

theorem units_lt_of_lt_bound {m : Int} {s : Nat} (hScale : ¬ 12 < s)
    (hBound : ¬ (DECIMAL_28_12_UPPER_BOUND : Int) * 10 ^ s ≤ m) :
    (m * 10 ^ (12 - s)).toNat < NUMERIC_BOUND := by
  have hPow : (10 : Int) ^ s * 10 ^ (12 - s) = 10 ^ 12 := by
    rw [← pow_add]
    congr 1
    omega
  have hLt : m * 10 ^ (12 - s) < DECIMAL_28_12_UPPER_BOUND * 10 ^ s * 10 ^ (12 - s) :=
    mul_lt_mul_of_pos_right (by omega) (by positivity)
  rw [mul_assoc, hPow] at hLt
  unfold NUMERIC_BOUND
  unfold DECIMAL_28_12_UPPER_BOUND at hLt
  omega

/-- Validate an amount and rewrite it with exactly twelve fractional digits. -/
def normalizeBudgetAmount (value : Decimal) : Except String Usd :=
  if value.mantissa < 0 then .error "预算金额不能为负数"
  else
    let normalized := value.normalize
    if hScale : 12 < normalized.scale then .error "预算金额最多支持 12 位小数"
    else if hBound :
        (DECIMAL_28_12_UPPER_BOUND : Int) * 10 ^ normalized.scale ≤ normalized.mantissa then
      .error "预算金额超出 NUMERIC(28,12) 范围"
    else
      .ok ⟨(normalized.mantissa * 10 ^ (12 - normalized.scale)).toNat,
        units_lt_of_lt_bound hScale hBound⟩

/-- `Decimal::checked_add` of two amounts followed by `normalize_budget_amount`. -/
def Usd.checkedAdd (a b : Usd) : Option Usd :=
  (a.toDecimal.checkedAdd b.toDecimal).bind fun value => (normalizeBudgetAmount value).toOption

theorem normalizeBudgetAmount_of_scale {value : Decimal} (hScale : value.scale = 12)
    (hSign : 0 ≤ value.mantissa) (h : value.mantissa.toNat < NUMERIC_BOUND) :
    normalizeBudgetAmount value = .ok ⟨value.mantissa.toNat, h⟩ := by
  obtain ⟨m, s, hRange⟩ := value
  simp only at hScale hSign h
  subst hScale
  have hLe := Decimal.stripZeros_scale_le m 12
  have hValue := Decimal.stripZeros_value m 12
  have hPow : (10 : Int) ^ (Decimal.stripZeros m 12).2 *
      10 ^ (12 - (Decimal.stripZeros m 12).2) = 10 ^ 12 := by
    rw [← pow_add]
    congr 1
    omega
  have hBound : ¬ (DECIMAL_28_12_UPPER_BOUND : Int) * 10 ^ (Decimal.stripZeros m 12).2 ≤
      (Decimal.stripZeros m 12).1 := by
    intro hLe'
    have hMul := mul_le_mul_of_nonneg_right hLe'
      (show (0 : Int) ≤ 10 ^ (12 - (Decimal.stripZeros m 12).2) by positivity)
    rw [hValue, mul_assoc, hPow] at hMul
    unfold NUMERIC_BOUND at h
    unfold DECIMAL_28_12_UPPER_BOUND at hMul
    omega
  have hNegative : ¬ m < 0 := by omega
  have hDigits : ¬ 12 < (Decimal.stripZeros m 12).2 := by omega
  simp only [normalizeBudgetAmount, Decimal.normalize, hNegative, if_false, hDigits, dif_neg,
    not_false_eq_true, hBound, hValue]

theorem normalizeBudgetAmount_toOption_of_scale {value : Decimal} (hScale : value.scale = 12)
    (h : NUMERIC_BOUND ≤ value.mantissa.toNat) :
    (normalizeBudgetAmount value).toOption = none := by
  unfold normalizeBudgetAmount
  split
  · rfl
  · dsimp only
    split
    · rfl
    · next hDigits =>
      split
      · rfl
      · next hBound =>
        have hValue := Decimal.stripZeros_value value.mantissa value.scale
        have hUnits := units_lt_of_lt_bound hDigits hBound
        rw [hScale] at hValue
        have hMantissa : value.normalize.mantissa * 10 ^ (12 - value.normalize.scale) =
            value.mantissa := by
          simpa [Decimal.normalize, hScale] using hValue
        rw [hMantissa] at hUnits
        omega

theorem Usd.checkedAdd_eq_add? (a b : Usd) : a.checkedAdd b = a.add? b := by
  have ha := a.inRange
  have hb := b.inRange
  have hSum : ((a.units : Int) * 10 ^ (12 - 12) + b.units * 10 ^ (12 - 12)) =
      ((a.units + b.units : Nat) : Int) := by
    push_cast
    ring
  have hFits : ((a.units : Int) * 10 ^ (12 - 12) + b.units * 10 ^ (12 - 12)).natAbs <
      Decimal.MANTISSA := by
    rw [hSum]
    unfold NUMERIC_BOUND at ha hb
    unfold Decimal.MANTISSA
    omega
  have hUnits : ((a.units : Int) * 10 ^ (12 - 12) + b.units * 10 ^ (12 - 12)).toNat =
      a.units + b.units := by
    rw [hSum, Int.toNat_natCast]
  simp only [checkedAdd, Decimal.checkedAdd, toDecimal, max_self, hFits, dif_pos,
    Option.bind_some, add?]
  split
  · next h =>
    rw [normalizeBudgetAmount_of_scale rfl (show (0 : Int) ≤ _ by positivity) (hUnits ▸ h)]
    simp only [Except.toOption, hUnits]
  · next h =>
    refine normalizeBudgetAmount_toOption_of_scale rfl ?_
    rw [hUnits]
    omega

theorem Usd.units_of_checkedAdd {a b c : Usd} (h : a.checkedAdd b = some c) :
    c.units = a.units + b.units := by
  rw [Usd.checkedAdd_eq_add?, Usd.add?] at h
  split at h
  · cases h
    rfl
  · cases h

end KongRust.Budget

import KongRust.Budget.Amount

/-!
# Exact amounts

`normalizeBudgetAmount` accepts a decimal exactly when some amount is its value, at whatever scale
the decimal is written (`normalizeBudgetAmount_eq_ok`). Hence a checked sum of two accepted
decimals is the sum in SQL whenever their scales are at most twelve (`checkedAdd_of_isValueOf`).
-/

namespace KongRust.Budget

def Usd.IsValueOf (a : Usd) (value : Decimal) : Prop :=
  value.mantissa * 10 ^ 12 = a.units * 10 ^ value.scale

variable {a : Usd} {value : Decimal}

theorem Usd.IsValueOf.nonneg (h : a.IsValueOf value) :
    0 ≤ value.mantissa := by
  have hPos : (0 : Int) ≤ value.mantissa * 10 ^ 12 := by
    rw [h]
    positivity
  omega

theorem Usd.isValueOf_toDecimal (a : Usd) : a.IsValueOf a.toDecimal := rfl

theorem Usd.IsValueOf.normalize :
    a.IsValueOf value.normalize ↔ a.IsValueOf value := by
  have hScale := Decimal.stripZeros_scale_le value.mantissa value.scale
  have hValue := Decimal.stripZeros_value value.mantissa value.scale
  have hPow : (10 : Int) ^ value.normalize.scale * 10 ^ (value.scale - value.normalize.scale) =
      10 ^ value.scale := by
    rw [← pow_add]
    congr 1
    exact Nat.add_sub_of_le hScale
  unfold Usd.IsValueOf
  rw [← hPow, ← mul_assoc]
  have hMantissa : value.mantissa * 10 ^ 12 = value.normalize.mantissa * 10 ^ 12 *
      10 ^ (value.scale - value.normalize.scale) := by
    rw [← hValue]
    ring_nf
    rfl
  rw [hMantissa]
  exact (mul_left_inj' (by positivity)).symm

theorem Usd.IsValueOf.scale_le (h : a.IsValueOf value.normalize) :
    value.normalize.scale ≤ 12 := by
  by_contra hMore
  obtain hZero | hDigit := Decimal.stripZeros_stuck value.mantissa value.scale
  · exact hMore (hZero.le.trans (Nat.zero_le 12))
  · obtain ⟨rest, hRest⟩ := Nat.exists_eq_add_of_lt (not_le.mp hMore)
    unfold Usd.IsValueOf at h
    have hPow : (a.units : Int) * 10 ^ value.normalize.scale =
        10 * (a.units * 10 ^ rest) * 10 ^ 12 := by
      rw [hRest]
      ring
    rw [hPow] at h
    have hMantissa := mul_right_cancel₀ (by positivity) h
    change value.normalize.mantissa % 10 ≠ 0 at hDigit
    omega

theorem Usd.IsValueOf.units (h : a.IsValueOf value)
    (hScale : value.scale ≤ 12) : value.mantissa * 10 ^ (12 - value.scale) = a.units := by
  have hPow : (10 : Int) ^ (12 - value.scale) * 10 ^ value.scale = 10 ^ 12 := by
    rw [← pow_add]
    congr 1
    omega
  unfold Usd.IsValueOf at h
  rw [← hPow, ← mul_assoc] at h
  exact mul_right_cancel₀ (by positivity) h

/-- A decimal is accepted exactly when an amount is its value, and as that amount. -/
theorem normalizeBudgetAmount_eq_ok :
    normalizeBudgetAmount value = .ok a ↔ a.IsValueOf value := by
  constructor
  · intro h
    unfold normalizeBudgetAmount at h
    split at h
    · cases h
    · next hSign =>
      dsimp only at h
      split at h
      · cases h
      · next hScale =>
        split at h
        · cases h
        · cases h
          have hNonneg := Decimal.stripZeros_nonneg (not_lt.mp hSign) value.scale
          have hPow : (10 : Int) ^ (12 - value.normalize.scale) * 10 ^ value.normalize.scale =
              10 ^ 12 := by
            rw [← pow_add]
            congr 1
            omega
          refine Usd.IsValueOf.normalize.mp ?_
          have hUnits :
              ((value.normalize.mantissa * 10 ^ (12 - value.normalize.scale)).toNat : Int) =
              value.normalize.mantissa * 10 ^ (12 - value.normalize.scale) :=
            Int.toNat_of_nonneg (mul_nonneg hNonneg (by positivity))
          change value.normalize.mantissa * 10 ^ 12 =
            ((value.normalize.mantissa * 10 ^ (12 - value.normalize.scale)).toNat : Int) *
              10 ^ value.normalize.scale
          rw [hUnits, mul_assoc, hPow]
  · intro h
    have hNormal := Usd.IsValueOf.normalize.mpr h
    have hScale := hNormal.scale_le
    have hUnits := hNormal.units hScale
    have hBound : ¬ (DECIMAL_28_12_UPPER_BOUND : Int) * 10 ^ value.normalize.scale ≤
        value.normalize.mantissa := by
      intro hLarge
      have hPow : (10 : Int) ^ value.normalize.scale * 10 ^ (12 - value.normalize.scale) =
          10 ^ 12 := by
        rw [← pow_add]
        congr 1
        omega
      have hMul := mul_le_mul_of_nonneg_right hLarge
        (show (0 : Int) ≤ 10 ^ (12 - value.normalize.scale) by positivity)
      rw [hUnits, mul_assoc, hPow] at hMul
      have hInRange := a.inRange
      unfold NUMERIC_BOUND at hInRange
      unfold DECIMAL_28_12_UPPER_BOUND at hMul
      omega
    have hSign : ¬ value.mantissa < 0 := not_lt.mpr h.nonneg
    have hDigits : ¬ 12 < value.normalize.scale := by omega
    simp only [normalizeBudgetAmount, hSign, if_false, hDigits, dif_neg, not_false_eq_true, hBound,
      hUnits, Int.toNat_natCast]

theorem normalizeBudgetAmount_toDecimal (a : Usd) : normalizeBudgetAmount a.toDecimal = .ok a :=
  normalizeBudgetAmount_eq_ok.mpr a.isValueOf_toDecimal

variable {x y : Decimal} {used amount : Usd}

/-- The checked sum of two decimals with at most twelve fractional digits is exact. -/
theorem exists_checkedAdd (hx : used.IsValueOf x) (hy : amount.IsValueOf y) (hxScale : x.scale ≤ 12)
    (hyScale : y.scale ≤ 12) :
    ∃ sum, x.checkedAdd y = some sum ∧ sum.scale ≤ 12 ∧
      sum.mantissa * 10 ^ (12 - sum.scale) = ((used.units + amount.units : Nat) : Int) := by
  have hScale : max x.scale y.scale ≤ 12 := max_le hxScale hyScale
  have hxExp : max x.scale y.scale - x.scale + (12 - max x.scale y.scale) = 12 - x.scale := by
    omega
  have hyExp : max x.scale y.scale - y.scale + (12 - max x.scale y.scale) = 12 - y.scale := by
    omega
  obtain ⟨mantissa, hMantissa⟩ : ∃ mantissa, mantissa =
      x.mantissa * 10 ^ (max x.scale y.scale - x.scale) +
        y.mantissa * 10 ^ (max x.scale y.scale - y.scale) := ⟨_, rfl⟩
  have hSum : mantissa * 10 ^ (12 - max x.scale y.scale) =
      ((used.units + amount.units : Nat) : Int) := by
    rw [hMantissa, Nat.cast_add, ← hx.units hxScale, ← hy.units hyScale, add_mul, mul_assoc,
      mul_assoc, ← pow_add, ← pow_add, hxExp, hyExp]
  have hNonneg : 0 ≤ mantissa := by
    rw [hMantissa]
    exact add_nonneg (mul_nonneg hx.nonneg (by positivity)) (mul_nonneg hy.nonneg (by positivity))
  have hLe : mantissa ≤ ((used.units + amount.units : Nat) : Int) := by
    have hOne : (1 : Int) ≤ 10 ^ (12 - max x.scale y.scale) := one_le_pow₀ (by norm_num)
    have hMul := mul_le_mul_of_nonneg_left hOne hNonneg
    rwa [mul_one, hSum] at hMul
  have hFits : mantissa.natAbs < Decimal.MANTISSA := by
    have hUsed := used.inRange
    have hAmount := amount.inRange
    unfold NUMERIC_BOUND at hUsed hAmount
    unfold Decimal.MANTISSA
    omega
  refine ⟨⟨mantissa, max x.scale y.scale, hFits, max_le x.inRange.2 y.inRange.2⟩, ?_, hScale, hSum⟩
  subst hMantissa
  unfold Decimal.checkedAdd
  exact dif_pos hFits

theorem checkedAdd_of_isValueOf (hx : used.IsValueOf x) (hy : amount.IsValueOf y)
    (hxScale : x.scale ≤ 12) (hyScale : y.scale ≤ 12) :
    ((x.checkedAdd y).bind fun value => (normalizeBudgetAmount value).toOption) =
      used.add? amount := by
  obtain ⟨sum, hSum, hScale, hUnits⟩ := exists_checkedAdd hx hy hxScale hyScale
  rw [hSum, Option.bind_some]
  unfold Usd.add?
  split
  · next hInRange =>
    have hValue : Usd.IsValueOf ⟨used.units + amount.units, hInRange⟩ sum := by
      unfold Usd.IsValueOf
      rw [← hUnits, mul_assoc, ← pow_add, Nat.sub_add_cancel hScale]
    rw [normalizeBudgetAmount_eq_ok.mpr hValue]
    rfl
  · next hOver =>
    cases hResult : normalizeBudgetAmount sum with
    | error _ => rfl
    | ok total =>
      have hSame := ((normalizeBudgetAmount_eq_ok.mp hResult).units hScale).symm.trans hUnits
      have hInRange := total.inRange
      omega

theorem Usd.isSome_add? (used amount : Usd) :
    (used.add? amount).isSome ↔ used.units ≤ NUMERIC_BOUND - 1 - amount.units := by
  have hAmount := amount.inRange
  unfold Usd.add?
  split
  · next h => exact ⟨fun _ => by omega, fun _ => rfl⟩
  · next h => exact ⟨fun hSome => absurd hSome Bool.false_ne_true, fun hLe => absurd hLe (by omega)⟩

end KongRust.Budget

import Mathlib

/-!
# Decimal numbers

A decimal is a 96-bit mantissa with a sign and a number of fractional digits, at most 28. The
operations keep the representation: `normalize` drops trailing zeros, and a sum has the larger of
the two scales.
-/

namespace KongRust

/-- The number of values of a 96-bit mantissa. -/
def Decimal.MANTISSA : Nat := 2 ^ 96

/-- The number `mantissa / 10 ^ scale`. -/
structure Decimal where
  mantissa : Int
  scale : Nat
  inRange : mantissa.natAbs < Decimal.MANTISSA ∧ scale ≤ 28
  deriving DecidableEq

namespace Decimal

theorem inRange_one : (1 : Int).natAbs < MANTISSA ∧ 0 ≤ 28 := by decide

theorem inRange_two : (2 : Int).natAbs < MANTISSA ∧ 0 ≤ 28 := by decide

/-- `Decimal::ZERO`. -/
def ZERO : Decimal := ⟨0, 0, by decide⟩

/-- Drop trailing zeros of the mantissa while there are fractional digits. -/
def stripZeros : Int → Nat → Int × Nat
  | m, 0 => (m, 0)
  | m, s + 1 => if m % 10 = 0 then stripZeros (m / 10) s else (m, s + 1)

variable (m : Int)

theorem stripZeros_scale_le (s : Nat) : (stripZeros m s).2 ≤ s := by
  fun_induction stripZeros m s with
  | case1 => exact le_rfl
  | case2 m s h ih => omega
  | case3 => exact le_rfl

theorem stripZeros_value (s : Nat) : (stripZeros m s).1 * 10 ^ (s - (stripZeros m s).2) = m := by
  fun_induction stripZeros m s with
  | case1 => simp
  | case2 m s h ih =>
    have hScale := stripZeros_scale_le (m / 10) s
    have hSucc : s + 1 - (stripZeros (m / 10) s).2 = s - (stripZeros (m / 10) s).2 + 1 := by omega
    rw [hSucc, pow_succ, ← mul_assoc, ih]
    omega
  | case3 => simp

theorem stripZeros_natAbs_le (s : Nat) : (stripZeros m s).1.natAbs ≤ m.natAbs := by
  fun_induction stripZeros m s with
  | case1 => exact le_rfl
  | case2 m s h ih => omega
  | case3 => exact le_rfl

theorem stripZeros_stuck (s : Nat) : (stripZeros m s).2 = 0 ∨ (stripZeros m s).1 % 10 ≠ 0 := by
  fun_induction stripZeros m s with
  | case1 => exact .inl rfl
  | case2 m s h ih => exact ih
  | case3 m s h => exact .inr h

theorem stripZeros_nonneg {m : Int} (h : 0 ≤ m) (s : Nat) : 0 ≤ (stripZeros m s).1 := by
  fun_induction stripZeros m s with
  | case1 => exact h
  | case2 m s _ ih => exact ih (by omega)
  | case3 => exact h

/-- `Decimal::normalize`. -/
def normalize (d : Decimal) : Decimal where
  mantissa := (stripZeros d.mantissa d.scale).1
  scale := (stripZeros d.mantissa d.scale).2
  inRange := ⟨(stripZeros_natAbs_le _ _).trans_lt d.inRange.1,
    (stripZeros_scale_le _ _).trans d.inRange.2⟩

/-- `Decimal::checked_add`, exact: a sum that does not fit at the larger scale is refused, where
the crate would first give up fractional digits. -/
def checkedAdd (a b : Decimal) : Option Decimal :=
  let scale := max a.scale b.scale
  let mantissa := a.mantissa * 10 ^ (scale - a.scale) + b.mantissa * 10 ^ (scale - b.scale)
  if h : mantissa.natAbs < MANTISSA then
    some ⟨mantissa, scale, h, max_le a.inRange.2 b.inRange.2⟩
  else none

/-- The digits of a number, padded with zeros to a width. -/
def paddedDigits (width n : Nat) : List Char :=
  let digits := Nat.toDigits 10 n
  List.replicate (width - digits.length) '0' ++ digits

/-- `Decimal::to_string`: every fractional digit of the scale is written. -/
def toText (d : Decimal) : String :=
  let sign := if d.mantissa < 0 then ['-'] else []
  let digits := paddedDigits (d.scale + 1) d.mantissa.natAbs
  let whole := digits.take (digits.length - d.scale)
  let fraction := digits.drop (digits.length - d.scale)
  String.ofList (sign ++ whole ++ if d.scale = 0 then [] else '.' :: fraction)

end Decimal

end KongRust

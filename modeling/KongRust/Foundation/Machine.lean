import Mathlib

/-!
# Machine arithmetic

Fixed-width unsigned integers are natural numbers; the operations say what happens at the
bound. A `Duration` counts nanoseconds and holds at most `u64::MAX` seconds.
-/

namespace KongRust

abbrev Uuid := BitVec 128

/-- `Display` of a UUID: its hexadecimal digits in five groups. -/
def Uuid.text (id : Uuid) : String :=
  let digits := (List.range 32).map fun i => Nat.digitChar (id.toNat / 16 ^ (31 - i) % 16)
  let group := fun first count => String.ofList ((digits.drop first).take count)
  "-".intercalate [group 0 8, group 8 4, group 12 4, group 16 4, group 20 12]

namespace Machine

/-- The number of values of a 64-bit word. -/
def WORD : Nat := 2 ^ 64

/-- The number of values of a `Duration`, in nanoseconds. -/
def DURATION : Nat := 2 ^ 64 * 10 ^ 9

/-- `checked_add` of a type with `bound` values. -/
def checkedAdd (bound a b : Nat) : Option Nat := if a + b < bound then some (a + b) else none

/-- `checked_sub`. -/
def checkedSub (a b : Nat) : Option Nat := if b ≤ a then some (a - b) else none

/-- `fetch_add` of 64-bit values, which wraps around. -/
def fetchAdd (a b : Nat) : Nat := if a + b < WORD then a + b else a + b - WORD

/-- `fetch_sub` of 64-bit values, which wraps around. -/
def fetchSub (a b : Nat) : Nat := if b ≤ a then a - b else a + WORD - b

variable {bound a b c : Nat}

@[simp] theorem checkedAdd_eq_some : checkedAdd bound a b = some c ↔ a + b < bound ∧ a + b = c := by
  simp [checkedAdd]

@[simp] theorem checkedSub_eq_some : checkedSub a b = some c ↔ b ≤ a ∧ a - b = c := by
  simp [checkedSub]

@[simp] theorem checkedAdd_eq_none : checkedAdd bound a b = none ↔ bound ≤ a + b := by
  simp [checkedAdd]

@[simp] theorem checkedSub_eq_none : checkedSub a b = none ↔ a < b := by
  simp [checkedSub]

end Machine

end KongRust

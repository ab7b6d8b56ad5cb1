import KongRust.Config.Listen

/-!
# Values of the configuration

The readers of single values: booleans, lists, header lists and sizes. A size is a number with a
unit, and its product with the unit must fit in a `u64`. `parsers_return_iff` gathers on which
texts the parsers of the configuration return.

`str::to_lowercase` is a parameter.
-/

namespace KongRust.Config

open Str

/-! ## The code -/

/-- `value` without its last character, if that is `unit`. -/
def stripSuffix (unit : Char) (s : List Char) : Option (List Char) :=
  if s.getLast? = some unit then some s.dropLast else none

/-- A product of numbers of type `u64`. -/
def mulU64 (a b : Nat) : Except Fault Nat :=
  if a * b < 2 ^ 64 then .ok (a * b) else .error .panic

/-- `parse::<u64>().unwrap_or(0)`. -/
def parseOrZero (s : List Char) : Nat :=
  match parseUnsigned (2 ^ 64) s with
  | .ok n => n
  | .error _ => 0

variable (toLowercase : List Char → List Char)

def parseSizeString (toLowercase : List Char → List Char) (s : List Char) : Except Fault Nat :=
  let s := toLowercase (Text.trim s)
  match stripSuffix 'g' s with
  | some num => do
    let megabytes ← mulU64 (← mulU64 (parseOrZero (Text.trim num)) 1024) 1024
    mulU64 megabytes 1024
  | none =>
    match stripSuffix 'm' s with
    | some num => do
      let kilobytes ← mulU64 (parseOrZero (Text.trim num)) 1024
      mulU64 kilobytes 1024
    | none =>
      match stripSuffix 'k' s with
      | some num => mulU64 (parseOrZero (Text.trim num)) 1024
      | none => .ok (parseOrZero s)

/-! ## Sizes -/

/-- The units of a size, with the power of 1024 they stand for. -/
def units : List (Char × Nat) := [('g', 3), ('m', 2), ('k', 1)]

/-- The number in front of the unit, times the unit, does not fit in a `u64`. -/
def Oversized (toLowercase : List Char → List Char) (s : List Char) : Prop :=
  ∃ num, ∃ unit ∈ units, toLowercase (Text.trim s) = num ++ [unit.1] ∧
    2 ^ 64 ≤ parseOrZero (Text.trim num) * 1024 ^ unit.2

theorem stripSuffix_eq_some {unit : Char} {s num : List Char} :
    stripSuffix unit s = some num ↔ s = num ++ [unit] := by
  unfold stripSuffix
  constructor
  · intro h
    split at h
    · next hLast =>
      cases h
      obtain ⟨_, rfl⟩ := List.getLast?_eq_some_iff.mp hLast
      simp
    · cases h
  · rintro rfl
    simp

theorem panics_mulU64 (a b : Nat) : Panics (mulU64 a b) ↔ 2 ^ 64 ≤ a * b := by
  unfold mulU64
  split
  · next hFits => exact iff_of_false (by rintro ⟨⟩) (not_le.mpr hFits)
  · next hLarge => exact iff_of_true rfl (not_lt.mp hLarge)

theorem mulU64_bind (a b : Nat) {c : Nat} (hc : 0 < c) :
    (mulU64 a b >>= fun product => mulU64 product c) = mulU64 a (b * c) := by
  have hGrows : a * b ≤ a * b * c := Nat.le_mul_of_pos_right _ hc
  unfold mulU64
  rw [← mul_assoc]
  split
  · rfl
  · next hLarge =>
    rw [if_neg (by omega)]
    rfl

theorem oversized_iff {toLowercase : List Char → List Char} {s num : List Char}
    (unit : Char × Nat) (hUnit : unit ∈ units)
    (hText : stripSuffix unit.1 (toLowercase (Text.trim s)) = some num) :
    Oversized toLowercase s ↔ 2 ^ 64 ≤ parseOrZero (Text.trim num) * 1024 ^ unit.2 := by
  rw [stripSuffix_eq_some] at hText
  refine ⟨?_, fun h => ⟨num, unit, hUnit, hText, h⟩⟩
  rintro ⟨num', unit', hUnit', hText', h⟩
  obtain ⟨rfl, hLast⟩ := List.append_inj' (hText.symm.trans hText') rfl
  have hSame : ∀ u ∈ units, ∀ u' ∈ units, u.1 = u'.1 → u = u' := by decide
  rwa [hSame unit hUnit unit' hUnit' (List.cons.inj hLast).1]

/-- The size is read unless it does not fit. -/
theorem parseSizeString_panics_iff (s : List Char) :
    Panics (parseSizeString toLowercase s) ↔ Oversized toLowercase s := by
  unfold parseSizeString
  dsimp only
  cases hGiga : stripSuffix 'g' (toLowercase (Text.trim s)) with
  | some num =>
    rw [oversized_iff ('g', 3) (by decide) hGiga, ← panics_mulU64]
    dsimp only
    rw [← bind_assoc, mulU64_bind _ _ (by omega), mulU64_bind _ _ (by omega)]
    rfl
  | none =>
    cases hMega : stripSuffix 'm' (toLowercase (Text.trim s)) with
    | some num =>
      rw [oversized_iff ('m', 2) (by decide) hMega, ← panics_mulU64]
      dsimp only
      rw [mulU64_bind _ _ (by omega)]
      rfl
    | none =>
      cases hKilo : stripSuffix 'k' (toLowercase (Text.trim s)) with
      | some num =>
        rw [oversized_iff ('k', 1) (by decide) hKilo, ← panics_mulU64]
        rfl
      | none =>
        refine iff_of_false (by rintro ⟨⟩) ?_
        rintro ⟨num, unit, hUnit, hText, -⟩
        rw [← stripSuffix_eq_some] at hText
        simp only [units, List.mem_cons, List.not_mem_nil, or_false] at hUnit
        obtain rfl | rfl | rfl := hUnit <;> simp_all

/-! ## The parsers -/

/-- On every file, listen directive and size, the parser returns if and only if no value of the
file is a lone quote, no slice of a directive fails, and the size fits. -/
theorem parsers_return_iff (toLowercase : List Char → List Char) (content listen size : List Char) :
    (¬ Panics (parseConfFile content) ↔ ∀ line ∈ lines content, ¬ BadLine line) ∧
      (¬ Panics (parseListenAddresses listen) ↔ ¬ OverrunsList listen) ∧
      (¬ Panics (parseSizeString toLowercase size) ↔ ¬ Oversized toLowercase size) := by
  refine ⟨?_, not_congr (parseListenAddresses_panics_iff listen),
    not_congr (parseSizeString_panics_iff toLowercase size)⟩
  rw [parseConfFile_panics_iff]
  simp only [not_exists, not_and]

/-- A lone quote, a bracket in front, and a size of 2^64 bytes. -/
theorem parsers_panic :
    Panics (parseConfFile "key = \"".toList) ∧ Panics (parseListenAddresses "]".toList) ∧
      Panics (parseSizeString (List.map Char.toLower) "17179869184g".toList) := by
  refine ⟨rfl, rfl, (parseSizeString_panics_iff _ _).mpr
    ⟨"17179869184".toList, ('g', 3), by decide, by decide, ?_⟩⟩
  decide +kernel

end KongRust.Config

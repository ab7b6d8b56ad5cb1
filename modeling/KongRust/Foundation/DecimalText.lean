import Mathlib
import KongRust.Foundation.Decimal

/-!
# Decimal texts

A decimal text is an optional sign, digits with at most one point among them, and an optional
exponent; `decimalValue` is the rational number it denotes. Zeros at the end of the fraction do
not count (`readUnsigned_trailing`), and the text of a decimal denotes its value
(`decimalValue_toText`).
-/

namespace KongRust

/-- The number that a decimal stands for. -/
def Decimal.value (d : Decimal) : ℚ := d.mantissa / 10 ^ d.scale

namespace DecimalText

/-- The digits of a natural number. -/
def readDigits (s : List Char) : Option Nat :=
  if s ≠ [] ∧ ∀ c ∈ s, c.isDigit then some (Nat.ofDigitChars 10 s 0) else none

/-- Digits with at most one point. -/
def readUnsigned (s : List Char) : Option ℚ :=
  let whole := s.takeWhile (· != '.')
  let fraction := (s.dropWhile (· != '.')).drop 1
  (readDigits (whole ++ fraction)).map fun n : Nat => (n : ℚ) / 10 ^ fraction.length

def readSigned : List Char → Option ℚ
  | '-' :: s => (readUnsigned s).map Neg.neg
  | '+' :: s => readUnsigned s
  | s => readUnsigned s

def readExponent : List Char → Option Int
  | '-' :: s => (readDigits s).map fun n : Nat => -(n : Int)
  | '+' :: s => (readDigits s).map fun n : Nat => (n : Int)
  | s => (readDigits s).map fun n : Nat => (n : Int)

def isExponentMark (c : Char) : Bool := c == 'e' || c == 'E'

/-- The part before the exponent mark, and the rest of the text with the mark. -/
def mantissaOf (s : List Char) : List Char := s.takeWhile (!isExponentMark ·)

def exponentOf (s : List Char) : List Char := s.dropWhile (!isExponentMark ·)

/-- The number that a text denotes, if it is a decimal text. -/
def decimalValue (s : List Char) : Option ℚ :=
  match exponentOf s with
  | [] => readSigned (mantissaOf s)
  | _ :: exponent =>
    (readSigned (mantissaOf s)).bind fun v => (readExponent exponent).map fun e => v * 10 ^ e

/-! ## Digits -/

variable {s whole fraction : List Char} {c : Char} {v : ℚ}

theorem readDigits_eq_some {n : Nat} :
    readDigits s = some n ↔ s ≠ [] ∧ (∀ c ∈ s, c.isDigit) ∧ Nat.ofDigitChars 10 s 0 = n := by
  unfold readDigits
  split
  · next h => exact ⟨fun hSome => ⟨h.1, h.2, Option.some.inj hSome⟩, fun hSome => hSome.2.2 ▸ rfl⟩
  · next h =>
    exact ⟨fun hSome => (Option.some_ne_none n hSome.symm).elim,
      fun hSome => absurd ⟨hSome.1, hSome.2.1⟩ h⟩

theorem isDigit_ne {d : Char} (hc : c.isDigit) (hd : d.isDigit = false) : c ≠ d := by
  rintro rfl
  rw [hc] at hd
  cases hd

section

variable (hWhole : '.' ∉ whole)
include hWhole

theorem readUnsigned_point : readUnsigned (whole ++ '.' :: fraction) =
      (readDigits (whole ++ fraction)).map fun n : Nat => (n : ℚ) / 10 ^ fraction.length := by
  have hAll : ∀ c ∈ whole, (c != '.') = true := by
    intro c hc
    simpa using fun hPoint : c = '.' => hWhole (hPoint ▸ hc)
  unfold readUnsigned
  rw [List.takeWhile_append_of_pos hAll, List.dropWhile_append_of_pos hAll]
  simp

theorem readUnsigned_whole :
    readUnsigned whole = (readDigits whole).map fun n : Nat => (n : ℚ) := by
  have hAll : ∀ c ∈ whole, (c != '.') = true := by
    intro c hc
    simpa using fun hPoint : c = '.' => hWhole (hPoint ▸ hc)
  unfold readUnsigned
  rw [List.takeWhile_eq_self_iff.mpr hAll, List.dropWhile_eq_nil_iff.mpr hAll]
  simp

theorem readUnsigned_trailing (hSome : whole ++ fraction ≠ []) (k : Nat) :
    readUnsigned (whole ++ '.' :: (fraction ++ List.replicate k '0')) =
      readUnsigned (whole ++ '.' :: fraction) := by
  have hZeros : ∀ c ∈ List.replicate k '0', c.isDigit := by
    intro c hc
    rw [List.eq_of_mem_replicate hc]
    rfl
  have hSome' : whole ++ fraction ++ List.replicate k '0' ≠ [] :=
    fun hNil => hSome (List.append_eq_nil_iff.mp hNil).1
  rw [readUnsigned_point hWhole, readUnsigned_point hWhole, ← List.append_assoc]
  unfold readDigits
  by_cases hDigits : ∀ c ∈ whole ++ fraction, c.isDigit
  · have hAll : ∀ c ∈ whole ++ fraction ++ List.replicate k '0', c.isDigit := by
      intro c hc
      obtain hLeft | hRight := List.mem_append.mp hc
      · exact hDigits c hLeft
      · exact hZeros c hRight
    rw [if_pos ⟨hSome', hAll⟩, if_pos ⟨hSome, hDigits⟩, Option.map_some, Option.map_some,
      Nat.ofDigitChars_append, Nat.ofDigitChars_replicate_zero]
    rw [List.length_append, List.length_replicate, pow_add, Nat.cast_mul, Nat.cast_pow,
      Nat.cast_ofNat, mul_comm ((10 : ℚ) ^ k), mul_div_mul_right _ _ (by positivity)]
  · have hNotAll : ¬ ∀ c ∈ whole ++ fraction ++ List.replicate k '0', c.isDigit :=
      fun hAll => hDigits fun c hc => hAll c (List.mem_append_left _ hc)
    rw [if_neg fun h => hNotAll h.2, if_neg fun h => hDigits h.2]
    rfl

theorem readUnsigned_point_nil :
    readUnsigned (whole ++ ['.']) = readUnsigned whole := by
  rw [readUnsigned_point hWhole, readUnsigned_whole hWhole]
  simp

end

/-! ## Parts of a text -/

theorem rdropWhile_append {α : Type} (p : α → Bool) (a b : List α) : (a ++ b).rdropWhile p =
      if b.rdropWhile p = [] then a.rdropWhile p else a ++ b.rdropWhile p := by
  unfold List.rdropWhile
  rw [List.reverse_append, List.dropWhile_append]
  cases hDrop : b.reverse.dropWhile p with
  | nil | cons c s => simp

theorem rdropWhile_cons_of_neg {α : Type} {p : α → Bool} {c : α} (hc : p c = false) (s : List α) :
    (c :: s).rdropWhile p = c :: s.rdropWhile p := by
  have hAppend := rdropWhile_append p [c] s
  rw [List.singleton_append, List.rdropWhile_singleton, hc] at hAppend
  rw [hAppend]
  split
  · next hNil => simp [hNil]
  · rfl

/-- The text begins as a mantissa does after its sign. -/
def StartsDigits (s : List Char) : Prop := ∃ c rest, s = c :: rest ∧ (c.isDigit ∨ c = '.')

theorem exists_sign (h : readSigned s = some v) :
    ∃ (sign digits : List Char) (act : ℚ → ℚ) (w : ℚ), s = sign ++ digits ∧
      (sign = [] ∨ sign = ['+'] ∨ sign = ['-']) ∧ readUnsigned digits = some w ∧ act w = v ∧
      ∀ rest, StartsDigits rest → readSigned (sign ++ rest) = (readUnsigned rest).map act := by
  unfold readSigned at h
  split at h
  · next digits =>
    obtain ⟨w, hRead, hValue⟩ := Option.map_eq_some_iff.mp h
    exact ⟨['-'], digits, Neg.neg, w, rfl, .inr (.inr rfl), hRead, hValue, fun _ _ => rfl⟩
  · next digits =>
    refine ⟨['+'], digits, id, v, rfl, .inr (.inl rfl), h, rfl, fun rest _ => ?_⟩
    rw [Option.map_id]
    rfl
  · refine ⟨[], s, id, v, rfl, .inl rfl, h, rfl, fun rest hRest => ?_⟩
    obtain ⟨c, tail, rfl, hFirst⟩ := hRest
    have hMinus : c ≠ '-' := by
      rintro rfl
      simp at hFirst
    have hPlus : c ≠ '+' := by
      rintro rfl
      simp at hFirst
    rw [Option.map_id, List.nil_append]
    unfold readSigned
    split
    · next hCons => exact absurd (List.cons.inj hCons).1 hMinus
    · next hCons => exact absurd (List.cons.inj hCons).1 hPlus
    · rfl

theorem exists_point {w : ℚ} (hPoint : '.' ∈ s) (h : readUnsigned s = some w) :
    ∃ whole fraction, s = whole ++ '.' :: fraction ∧ whole ++ fraction ≠ [] ∧
      (∀ c ∈ whole, c.isDigit) ∧ ∀ c ∈ fraction, c.isDigit := by
  obtain ⟨whole, fraction, rfl, hWhole⟩ := List.eq_append_cons_of_mem hPoint
  rw [readUnsigned_point hWhole] at h
  obtain ⟨n, hDigits, -⟩ := Option.map_eq_some_iff.mp h
  obtain ⟨hSome, hAll, -⟩ := readDigits_eq_some.mp hDigits
  exact ⟨whole, fraction, rfl, hSome, fun c hc => hAll c (List.mem_append_left _ hc),
    fun c hc => hAll c (List.mem_append_right _ hc)⟩

theorem takeWhile_dropWhile {α : Type} (p : α → Bool) (s : List α) :
    (s.dropWhile p).takeWhile p = [] ∧ (s.dropWhile p).dropWhile p = s.dropWhile p := by
  induction s with
  | nil => exact ⟨rfl, rfl⟩
  | cons c s ih =>
    by_cases hc : p c
    · rw [List.dropWhile_cons_of_pos hc]
      exact ih
    · rw [List.dropWhile_cons_of_neg hc, List.takeWhile_cons_of_neg hc,
        List.dropWhile_cons_of_neg hc]
      exact ⟨rfl, rfl⟩

theorem mantissaOf_append {r : List Char} (hr : ∀ c ∈ r, isExponentMark c = false)
    (s : List Char) : mantissaOf (r ++ exponentOf s) = r ∧
      exponentOf (r ++ exponentOf s) = exponentOf s := by
  have hAll : ∀ c ∈ r, (!isExponentMark c) = true := fun c hc => by rw [hr c hc]; rfl
  obtain ⟨hTake, hDrop⟩ := takeWhile_dropWhile (!isExponentMark ·) s
  unfold mantissaOf exponentOf
  rw [List.takeWhile_append_of_pos hAll, List.dropWhile_append_of_pos hAll, hTake, hDrop]
  exact ⟨List.append_nil r, rfl⟩

theorem decimalValue_congr {t : List Char} (hExponent : exponentOf s = exponentOf t)
    (hMantissa : readSigned (mantissaOf s) = readSigned (mantissaOf t)) :
    decimalValue s = decimalValue t := by
  unfold decimalValue
  rw [hExponent, hMantissa]

theorem exists_readSigned (h : decimalValue s = some v) :
    ∃ u, readSigned (mantissaOf s) = some u := by
  unfold decimalValue at h
  split at h
  · exact ⟨v, h⟩
  · obtain ⟨u, hRead, -⟩ := Option.bind_eq_some_iff.mp h
    exact ⟨u, hRead⟩

/-! ## Texts of decimals -/

variable (width n : Nat)

theorem paddedDigits_length : width ≤ (Decimal.paddedDigits width n).length := by
  unfold Decimal.paddedDigits
  simp only [List.length_append, List.length_replicate]
  omega

theorem isDigit_paddedDigits : ∀ c ∈ Decimal.paddedDigits width n, c.isDigit := by
  intro c hc
  unfold Decimal.paddedDigits at hc
  obtain hZero | hDigit := List.mem_append.mp hc
  · rw [List.eq_of_mem_replicate hZero]
    rfl
  · exact Nat.isDigit_of_mem_toDigits (by decide) (by decide) hDigit

theorem ofDigitChars_paddedDigits : Nat.ofDigitChars 10 (Decimal.paddedDigits width n) 0 = n := by
  unfold Decimal.paddedDigits
  simp only [Nat.ofDigitChars_append, Nat.ofDigitChars_replicate_zero, mul_zero,
    Nat.ofDigitChars_ten_toDigits]

theorem readDigits_paddedDigits : readDigits (Decimal.paddedDigits (width + 1) n) = some n := by
  refine readDigits_eq_some.mpr ⟨?_, isDigit_paddedDigits _ _, ofDigitChars_paddedDigits _ _⟩
  have hLength := paddedDigits_length (width + 1) n
  exact List.ne_nil_of_length_pos (by omega)

variable (d : Decimal)

/-- The digits of a decimal with its point, but without its sign. -/
def unsignedText (d : Decimal) : List Char :=
  let digits := Decimal.paddedDigits (d.scale + 1) d.mantissa.natAbs
  digits.take (digits.length - d.scale) ++
    if d.scale = 0 then [] else '.' :: digits.drop (digits.length - d.scale)

theorem toList_toText :
    d.toText.toList = (if d.mantissa < 0 then ['-'] else []) ++ unsignedText d := by
  unfold Decimal.toText unsignedText
  rw [String.toList_ofList, List.append_assoc]

theorem readUnsigned_unsignedText :
    readUnsigned (unsignedText d) = some ((d.mantissa.natAbs : ℚ) / 10 ^ d.scale) := by
  have hDigits := isDigit_paddedDigits (d.scale + 1) d.mantissa.natAbs
  have hLength := paddedDigits_length (d.scale + 1) d.mantissa.natAbs
  have hRead := readDigits_paddedDigits d.scale d.mantissa.natAbs
  unfold unsignedText
  generalize Decimal.paddedDigits (d.scale + 1) d.mantissa.natAbs = digits at hDigits hLength hRead
  have hWhole : '.' ∉ digits.take (digits.length - d.scale) := fun hPoint =>
    absurd (hDigits _ (List.mem_of_mem_take hPoint)) (by decide)
  dsimp only
  split
  · next hScale =>
    have hTake : digits.take (digits.length - d.scale) = digits := by
      rw [hScale, Nat.sub_zero, List.take_length]
    rw [List.append_nil, readUnsigned_whole hWhole, hTake, hRead, hScale, pow_zero, div_one]
    rfl
  · rw [readUnsigned_point hWhole, List.take_append_drop, hRead, List.length_drop,
      Nat.sub_sub_self (by omega)]
    rfl

theorem exists_unsignedText : ∃ c s, unsignedText d = c :: s ∧ c.isDigit := by
  have hDigits := isDigit_paddedDigits (d.scale + 1) d.mantissa.natAbs
  have hLength := paddedDigits_length (d.scale + 1) d.mantissa.natAbs
  unfold unsignedText
  generalize Decimal.paddedDigits (d.scale + 1) d.mantissa.natAbs = digits at hDigits hLength
  have hTake : digits.take (digits.length - d.scale) ≠ [] := by
    apply List.ne_nil_of_length_pos
    rw [List.length_take]
    omega
  obtain ⟨c, s, hCons⟩ := List.exists_cons_of_ne_nil hTake
  have hMem : c ∈ digits.take (digits.length - d.scale) := by
    rw [hCons]
    exact List.mem_cons_self
  dsimp only
  rw [hCons]
  exact ⟨c, _, rfl, hDigits c (List.mem_of_mem_take hMem)⟩

theorem readSigned_digit (hc : c.isDigit) (s : List Char) :
    readSigned (c :: s) = readUnsigned (c :: s) := by
  unfold readSigned
  split
  · next h => exact absurd (List.cons.inj h).1 (isDigit_ne hc rfl)
  · next h => exact absurd (List.cons.inj h).1 (isDigit_ne hc rfl)
  · rfl

theorem isExponentMark_digit {c : Char} (hc : c.isDigit) : isExponentMark c = false := by
  have hSmall : c ≠ 'e' := isDigit_ne hc rfl
  have hLarge : c ≠ 'E' := isDigit_ne hc rfl
  simp [isExponentMark, hSmall, hLarge]

theorem isExponentMark_unsignedText : ∀ c ∈ unsignedText d, isExponentMark c = false := by
  have hDigits := isDigit_paddedDigits (d.scale + 1) d.mantissa.natAbs
  intro c hc
  unfold unsignedText at hc
  obtain hWhole | hFraction := List.mem_append.mp hc
  · exact isExponentMark_digit (hDigits c (List.mem_of_mem_take hWhole))
  · split at hFraction
    · cases hFraction
    · obtain rfl | hFraction := List.mem_cons.mp hFraction
      · rfl
      · exact isExponentMark_digit (hDigits c (List.mem_of_mem_drop hFraction))

theorem decimalValue_of_no_mark (h : ∀ c ∈ s, isExponentMark c = false) :
    decimalValue s = readSigned s := by
  have hAll : ∀ c ∈ s, (!isExponentMark c) = true := fun c hc => by rw [h c hc]; rfl
  unfold decimalValue exponentOf mantissaOf
  rw [List.dropWhile_eq_nil_iff.mpr hAll, List.takeWhile_eq_self_iff.mpr hAll]

theorem decimalValue_toText : decimalValue d.toText.toList = some d.value := by
  obtain ⟨c, s, hText, hc⟩ := exists_unsignedText d
  have hRead := readUnsigned_unsignedText d
  have hNoMark : ∀ c ∈ d.toText.toList, isExponentMark c = false := by
    intro c hc
    rw [toList_toText] at hc
    obtain hSign | hDigits := List.mem_append.mp hc
    · split at hSign
      · rw [List.mem_singleton.mp hSign]
        rfl
      · cases hSign
    · exact isExponentMark_unsignedText d c hDigits
  rw [decimalValue_of_no_mark hNoMark, toList_toText]
  unfold Decimal.value
  split
  · next hNegative =>
    have hAbs : ((d.mantissa.natAbs : Nat) : ℚ) = -(d.mantissa : ℚ) := by
      rw [Nat.cast_natAbs, abs_of_neg hNegative, Int.cast_neg]
    change (readUnsigned (unsignedText d)).map Neg.neg = _
    rw [hRead, Option.map_some, hAbs, neg_div, neg_neg]
  · next hNonneg =>
    have hAbs : ((d.mantissa.natAbs : Nat) : ℚ) = (d.mantissa : ℚ) := by
      rw [Nat.cast_natAbs, abs_of_nonneg (not_lt.mp hNonneg)]
    rw [List.nil_append, hText, readSigned_digit hc, ← hText, hRead, hAbs]

end DecimalText

end KongRust

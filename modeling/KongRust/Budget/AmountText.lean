import KongRust.Foundation.DecimalText
import KongRust.Budget.Exactness

/-!
# Amounts as texts

A budget amount enters as a decimal text and leaves as one. `parseBudgetAmount` first drops the
zeros at the end of the fraction, because the decimal library counts them, and then calls one of
the two readers of the library. `parseBudgetAmount_exact` says which decimal texts it accepts when
the readers are exact, and that nothing is rounded on the way in or out.
-/

namespace KongRust.Budget

open DecimalText

/-! ## The code -/

def trimDecimalFractionZeros (value : List Char) : List Char :=
  let mantissa := mantissaOf value
  if ¬ mantissa.contains '.' then value
  else
    let trimmedMantissa := (mantissa.rdropWhile (· == '0')).rdropWhile (· == '.')
    if trimmedMantissa.length = mantissa.length then value
    else
      let normalized :=
        if trimmedMantissa = [] ∨ trimmedMantissa = ['+'] ∨ trimmedMantissa = ['-'] then
          trimmedMantissa ++ ['0']
        else trimmedMantissa
      normalized ++ exponentOf value

/-- The two readers of the decimal library, with their error texts. -/
structure DecimalLibrary where
  fromStrExact : List Char → Except String Decimal
  fromScientific : List Char → Except String Decimal

def parseBudgetAmount (library : DecimalLibrary) (value : List Char) : Except String Usd :=
  let normalized := trimDecimalFractionZeros value
  let parsed :=
    if normalized.any isExponentMark then library.fromScientific normalized
    else library.fromStrExact normalized
  (parsed.mapError ("预算金额不是有效十进制数: " ++ ·)).bind normalizeBudgetAmount

/-- `serialize_budget_amount`, up to the quotes. -/
def serializeBudgetAmount (value : Decimal) : Except String String :=
  (normalizeBudgetAmount value).map Usd.toText

/-! ## What the library promises -/

/-- The reader is exact on this text: what it returns is the number the text denotes, and it
returns something whenever a decimal holds that number. -/
def ReadsExactly (read : List Char → Except String Decimal) (s : List Char) : Prop :=
  ∀ v, decimalValue s = some v →
    (∀ d, read s = .ok d → d.value = v) ∧
    ((∃ d : Decimal, d.value = v) → ∃ d, read s = .ok d)

variable (s : List Char)

def FractionTrimmed (s : List Char) : Prop :=
  '.' ∈ mantissaOf s → ∃ c, (mantissaOf s).getLast? = some c ∧ c ≠ '0' ∧ c ≠ '.'

/-- Both readers are exact on texts without zeros at the end of the fraction. -/
structure DecimalLibrary.Exact (library : DecimalLibrary) : Prop where
  fromStrExact : ∀ s, (∀ c ∈ s, isExponentMark c = false) → FractionTrimmed s →
    ReadsExactly library.fromStrExact s
  fromScientific : ∀ s, (∃ c ∈ s, isExponentMark c) → FractionTrimmed s →
    ReadsExactly library.fromScientific s

/-! ## Trimming a mantissa -/

def trimMantissa (s : List Char) : List Char :=
  (s.rdropWhile (· == '0')).rdropWhile (· == '.')

theorem trimMantissa_cons {c : Char} (hZero : c ≠ '0') (hPoint : c ≠ '.') (s : List Char) :
    trimMantissa (c :: s) = c :: trimMantissa s := by
  unfold trimMantissa
  rw [rdropWhile_cons_of_neg (by simpa using hZero), rdropWhile_cons_of_neg (by simpa using hPoint)]

variable {whole fraction : List Char} {v : ℚ} {a : Usd} {d : Decimal}

theorem trimMantissa_point (hWhole : '.' ∉ whole) (hFraction : '.' ∉ fraction) :
    trimMantissa (whole ++ '.' :: fraction) =
      if fraction.rdropWhile (· == '0') = [] then whole
      else whole ++ '.' :: fraction.rdropWhile (· == '0') := by
  have hZeros : (whole ++ '.' :: fraction).rdropWhile (· == '0') =
      whole ++ '.' :: fraction.rdropWhile (· == '0') := by
    rw [rdropWhile_append, rdropWhile_cons_of_neg (by decide), if_neg (List.cons_ne_nil _ _)]
  have hNoPoint : ∀ {s : List Char}, '.' ∉ s → s.rdropWhile (· == '.') = s := by
    intro s hs
    refine List.rdropWhile_eq_self_iff.mpr fun hNe hLast => hs ?_
    rw [beq_iff_eq] at hLast
    rw [← hLast]
    exact List.getLast_mem hNe
  unfold trimMantissa
  rw [hZeros]
  split
  · next hNil =>
    rw [hNil, List.rdropWhile_concat_pos _ _ _ (by decide), hNoPoint hWhole]
  · next hSome =>
    have hRest : '.' ∉ fraction.rdropWhile (· == '0') :=
      fun hMem => hFraction ((List.rdropWhile_prefix _ fraction).subset hMem)
    rw [List.append_cons, rdropWhile_append, hNoPoint hRest, if_neg hSome]

def fillMantissa (s : List Char) : List Char :=
  if s = [] ∨ s = ['+'] ∨ s = ['-'] then s ++ ['0'] else s

theorem trimDecimalFractionZeros_of_no_point {value : List Char} (h : '.' ∉ mantissaOf value) :
    trimDecimalFractionZeros value = value := by
  have hContains : ¬ (mantissaOf value).contains '.' = true := by simpa using h
  unfold trimDecimalFractionZeros
  exact if_pos hContains

theorem trimDecimalFractionZeros_of_point {value : List Char} (h : '.' ∈ mantissaOf value) :
    trimDecimalFractionZeros value =
      fillMantissa (trimMantissa (mantissaOf value)) ++ exponentOf value := by
  have hContains : (mantissaOf value).contains '.' = true := by simpa using h
  have hWhole : mantissaOf value ++ exponentOf value = value := List.takeWhile_append_dropWhile
  have hPre : trimMantissa (mantissaOf value) <+: mantissaOf value :=
    (List.rdropWhile_prefix _ _).trans (List.rdropWhile_prefix _ _)
  unfold trimDecimalFractionZeros
  rw [if_neg (not_not.mpr hContains)]
  change (if (trimMantissa (mantissaOf value)).length = (mantissaOf value).length then value
    else fillMantissa (trimMantissa (mantissaOf value)) ++ exponentOf value) = _
  split
  · next hLength =>
    have hNot : ¬ (mantissaOf value = [] ∨ mantissaOf value = ['+'] ∨
        mantissaOf value = ['-']) := by
      rintro (hNil | hPlus | hMinus)
      · rw [hNil] at h
        cases h
      · rw [hPlus] at h
        simp at h
      · rw [hMinus] at h
        simp at h
    rw [hPre.eq_of_length hLength]
    unfold fillMantissa
    rw [if_neg hNot, hWhole]
  · rfl

/-! ## Trimming keeps the number -/

/-- What is left of digits with a point, and a zero if nothing is. -/
def keptDigits (whole fraction : List Char) : List Char :=
  if trimMantissa (whole ++ '.' :: fraction) = [] then ['0']
  else trimMantissa (whole ++ '.' :: fraction)

section Kept

variable {whole fraction : List Char} (hWhole : ∀ c ∈ whole, c.isDigit)
  (hFraction : ∀ c ∈ fraction, c.isDigit)

include hWhole hFraction

theorem trimMantissa_digits : trimMantissa (whole ++ '.' :: fraction) =
    if fraction.rdropWhile (· == '0') = [] then whole
    else whole ++ '.' :: fraction.rdropWhile (· == '0') :=
  trimMantissa_point (fun hPoint => absurd (hWhole _ hPoint) (by decide))
    fun hPoint => absurd (hFraction _ hPoint) (by decide)

theorem readUnsigned_keptDigits (hSome : whole ++ fraction ≠ []) :
    readUnsigned (keptDigits whole fraction) = readUnsigned (whole ++ '.' :: fraction) := by
  have hNoPoint : '.' ∉ whole := fun hPoint => absurd (hWhole _ hPoint) (by decide)
  obtain ⟨k, hZeros⟩ : ∃ k, fraction.rtakeWhile (· == '0') = List.replicate k '0' := by
    refine ⟨_, List.eq_replicate_of_mem fun c hc => ?_⟩
    have hZero := List.mem_rtakeWhile_imp hc
    exact beq_iff_eq.mp hZero
  have hSplit : fraction = fraction.rdropWhile (· == '0') ++ List.replicate k '0' := by
    rw [← hZeros]
    exact List.rdropWhile_append_rtakeWhile.symm
  have hTrim := trimMantissa_digits hWhole hFraction
  unfold keptDigits
  split at hTrim
  · next hNil =>
    rw [hNil, List.nil_append] at hSplit
    rw [hTrim, hSplit]
    by_cases hEmpty : whole = []
    · subst hEmpty
      have hk : 0 < k := by
        by_contra hk
        obtain rfl : k = 0 := by omega
        exact hSome hSplit
      have hReplicate : readDigits (List.replicate k '0') = some 0 := by
        refine readDigits_eq_some.mpr ⟨?_, ?_, ?_⟩
        · exact List.ne_nil_of_length_pos (by simpa using hk)
        · rwa [← hSplit]
        · simp [Nat.ofDigitChars_replicate_zero]
      rw [if_pos rfl, readUnsigned_point List.not_mem_nil, List.nil_append, hReplicate]
      have hZero : readUnsigned ['0'] = (readDigits ['0']).map fun n : Nat => (n : ℚ) :=
        readUnsigned_whole (by decide)
      have hDigit : readDigits ['0'] = some 0 := readDigits_paddedDigits 0 0
      rw [hZero, hDigit]
      simp
    · have hTrailing : readUnsigned (whole ++ '.' :: ([] ++ List.replicate k '0')) =
          readUnsigned (whole ++ '.' :: []) :=
        readUnsigned_trailing hNoPoint (by simpa using hEmpty) k
      rw [if_neg hEmpty, ← readUnsigned_point_nil hNoPoint]
      exact hTrailing.symm
  · next hRest =>
    have hNe : whole ++ '.' :: fraction.rdropWhile (· == '0') ≠ [] := by simp
    have hTrailing := readUnsigned_trailing hNoPoint
      (show whole ++ fraction.rdropWhile (· == '0') ≠ [] by simp [hRest]) k
    rw [hTrim, if_neg hNe, ← hTrailing, ← hSplit]

theorem startsDigits_keptDigits : StartsDigits (keptDigits whole fraction) := by
  have hTrim := trimMantissa_digits hWhole hFraction
  unfold keptDigits
  split
  · exact ⟨'0', [], rfl, .inl rfl⟩
  · next hSome =>
    cases whole with
    | cons c rest =>
      have hc := hWhole c List.mem_cons_self
      split at hTrim
      · exact ⟨c, _, hTrim, .inl hc⟩
      · exact ⟨c, _, hTrim, .inl hc⟩
    | nil =>
      split at hTrim
      · exact absurd hTrim hSome
      · exact ⟨'.', _, hTrim, .inr rfl⟩

theorem fractionTrimmed_keptDigits (hPoint : '.' ∈ keptDigits whole fraction) :
    ∃ c, (keptDigits whole fraction).getLast? = some c ∧ c ≠ '0' ∧ c ≠ '.' := by
  have hTrim := trimMantissa_digits hWhole hFraction
  unfold keptDigits at hPoint ⊢
  split at hPoint
  · simp at hPoint
  · next hSome =>
    rw [if_neg hSome]
    split at hTrim
    · rw [hTrim] at hPoint
      exact absurd (hWhole _ hPoint) (by decide)
    · next hRest =>
      have hLast := List.rdropWhile_last_not (· == '0') fraction hRest
      refine ⟨(fraction.rdropWhile (· == '0')).getLast hRest, ?_, by simpa using hLast, ?_⟩
      · rw [hTrim, List.append_cons, List.getLast?_append, List.getLast?_eq_some_getLast hRest]
        rfl
      · intro hEq
        have hMem : '.' ∈ fraction := by
          rw [← hEq]
          exact (List.rdropWhile_prefix _ fraction).subset (List.getLast_mem hRest)
        exact absurd (hFraction _ hMem) (by decide)

theorem not_mark_keptDigits : ∀ c ∈ keptDigits whole fraction, isExponentMark c = false := by
  have hPre : trimMantissa (whole ++ '.' :: fraction) <+: whole ++ '.' :: fraction :=
    (List.rdropWhile_prefix _ _).trans (List.rdropWhile_prefix _ _)
  intro c hc
  unfold keptDigits at hc
  split at hc
  · rw [List.mem_singleton.mp hc]
    rfl
  · obtain hLeft | hRight := List.mem_append.mp (hPre.subset hc)
    · exact isExponentMark_digit (hWhole c hLeft)
    · obtain rfl | hRight := List.mem_cons.mp hRight
      · rfl
      · exact isExponentMark_digit (hFraction c hRight)

end Kept

theorem fillMantissa_trimMantissa {sign : List Char}
    (hSign : sign = [] ∨ sign = ['+'] ∨ sign = ['-']) (hWhole : ∀ c ∈ whole, c.isDigit)
    (hFraction : ∀ c ∈ fraction, c.isDigit) :
    fillMantissa (trimMantissa (sign ++ (whole ++ '.' :: fraction))) =
      sign ++ keptDigits whole fraction := by
  have hStarts := startsDigits_keptDigits hWhole hFraction
  have hTrim : trimMantissa (sign ++ (whole ++ '.' :: fraction)) =
      sign ++ trimMantissa (whole ++ '.' :: fraction) := by
    obtain rfl | rfl | rfl := hSign
    · rfl
    · exact trimMantissa_cons (by decide) (by decide) _
    · exact trimMantissa_cons (by decide) (by decide) _
  rw [hTrim]
  unfold keptDigits at hStarts ⊢
  split
  · next hNil =>
    rw [hNil]
    obtain rfl | rfl | rfl := hSign <;> rfl
  · next hSome =>
    rw [if_neg hSome] at hStarts
    obtain ⟨c, rest, hRest, hFirst⟩ := hStarts
    rw [hRest]
    have hPlus : c ≠ '+' := by
      rintro rfl
      simp at hFirst
    have hMinus : c ≠ '-' := by
      rintro rfl
      simp at hFirst
    unfold fillMantissa
    apply if_neg
    obtain rfl | rfl | rfl := hSign <;> simp [hPlus, hMinus]

/-! ## Trimming a text -/

/-- Trimming keeps the number and leaves no zero at the end of the fraction. -/
theorem trimDecimalFractionZeros_spec {value : List Char} (h : decimalValue value = some v) :
    decimalValue (trimDecimalFractionZeros value) = some v ∧
      FractionTrimmed (trimDecimalFractionZeros value) := by
  by_cases hPoint : '.' ∈ mantissaOf value
  · obtain ⟨u, hRead⟩ := exists_readSigned h
    obtain ⟨sign, digits, act, w, hMantissa, hSign, hDigits, rfl, hAct⟩ := exists_sign hRead
    have hPoint' : '.' ∈ digits := by
      rw [hMantissa] at hPoint
      obtain hLeft | hRight := List.mem_append.mp hPoint
      · obtain rfl | rfl | rfl := hSign <;> simp at hLeft
      · exact hRight
    obtain ⟨whole, fraction, rfl, hSome, hWhole, hFraction⟩ := exists_point hPoint' hDigits
    have hNoMark : ∀ c ∈ sign ++ keptDigits whole fraction, isExponentMark c = false := by
      intro c hc
      obtain hLeft | hRight := List.mem_append.mp hc
      · obtain rfl | rfl | rfl := hSign
        · cases hLeft
        · rw [List.mem_singleton.mp hLeft]
          rfl
        · rw [List.mem_singleton.mp hLeft]
          rfl
      · exact not_mark_keptDigits hWhole hFraction c hRight
    obtain ⟨hNewMantissa, hNewExponent⟩ := mantissaOf_append hNoMark value
    have hNew : trimDecimalFractionZeros value =
        sign ++ keptDigits whole fraction ++ exponentOf value := by
      rw [trimDecimalFractionZeros_of_point hPoint, hMantissa,
        fillMantissa_trimMantissa hSign hWhole hFraction]
    have hSame : readSigned (sign ++ keptDigits whole fraction) =
        readSigned (mantissaOf value) := by
      rw [hAct _ (startsDigits_keptDigits hWhole hFraction),
        readUnsigned_keptDigits hWhole hFraction hSome, hDigits, hRead]
      rfl
    rw [hNew]
    refine ⟨?_, fun hKeptPoint => ?_⟩
    · rw [← h]
      refine decimalValue_congr hNewExponent ?_
      rw [hNewMantissa, hSame]
    · rw [hNewMantissa] at hKeptPoint ⊢
      have hKept : '.' ∈ keptDigits whole fraction := by
        obtain hLeft | hRight := List.mem_append.mp hKeptPoint
        · obtain rfl | rfl | rfl := hSign <;> simp at hLeft
        · exact hRight
      obtain ⟨c, hLast, hc⟩ := fractionTrimmed_keptDigits hWhole hFraction hKept
      exact ⟨c, by rw [List.getLast?_append, hLast]; rfl, hc⟩
  · rw [trimDecimalFractionZeros_of_no_point hPoint]
    exact ⟨h, fun hIn => absurd hIn hPoint⟩

/-! ## Reading an amount -/

def Usd.value (a : Usd) : ℚ := a.units / 10 ^ 12

theorem Usd.isValueOf_iff : a.IsValueOf d ↔ d.value = a.value := by
  unfold Usd.IsValueOf Decimal.value Usd.value
  rw [div_eq_div_iff (by positivity) (by positivity)]
  exact_mod_cast Iff.rfl

theorem Usd.value_toDecimal (a : Usd) : a.toDecimal.value = a.value :=
  Usd.isValueOf_iff.mp a.isValueOf_toDecimal

/-- The numbers that amounts stand for. -/
theorem exists_value_iff :
    (∃ a : Usd, a.value = v) ↔ 0 ≤ v ∧ v < 10 ^ 16 ∧ ∃ n : ℤ, v * 10 ^ 12 = n := by
  constructor
  · rintro ⟨a, rfl⟩
    have hInRange : (a.units : ℚ) < 10 ^ 28 := by
      have hUnits := a.inRange
      unfold NUMERIC_BOUND at hUnits
      exact_mod_cast hUnits
    refine ⟨?_, ?_, a.units, ?_⟩
    · unfold Usd.value
      positivity
    · unfold Usd.value
      rw [div_lt_iff₀ (by positivity)]
      linarith
    · unfold Usd.value
      rw [div_mul_cancel₀ _ (by positivity)]
      rfl
  · rintro ⟨hNonneg, hLt, n, hn⟩
    have hnNonneg : 0 ≤ n := by
      have hMul : (0 : ℚ) ≤ n := by
        rw [← hn]
        positivity
      exact_mod_cast hMul
    have hnLt : n < 10 ^ 28 := by
      have hMul : (n : ℚ) < 10 ^ 28 := by
        rw [← hn]
        linarith
      exact_mod_cast hMul
    refine ⟨⟨n.toNat, by unfold NUMERIC_BOUND; omega⟩, ?_⟩
    have hCast : ((n.toNat : Nat) : ℚ) = n := by
      exact_mod_cast congrArg (Int.cast : Int → ℚ) (Int.toNat_of_nonneg hnNonneg)
    unfold Usd.value
    rw [hCast, ← hn, mul_div_cancel_right₀ _ (by positivity)]

/-- The amount that a decimal text denotes, if it denotes one. -/
theorem parseBudgetAmount_eq_ok {library : DecimalLibrary} (hLibrary : library.Exact)
    {value : List Char} (h : decimalValue value = some v) :
    parseBudgetAmount library value = .ok a ↔ a.value = v := by
  obtain ⟨hSame, hTrimmed⟩ := trimDecimalFractionZeros_spec h
  obtain ⟨read, hRead, hParse⟩ : ∃ read : List Char → Except String Decimal,
      ReadsExactly read (trimDecimalFractionZeros value) ∧
      parseBudgetAmount library value = ((read (trimDecimalFractionZeros value)).mapError
          ("预算金额不是有效十进制数: " ++ ·)).bind normalizeBudgetAmount := by
    by_cases hMark : (trimDecimalFractionZeros value).any isExponentMark
    · refine ⟨library.fromScientific,
        hLibrary.fromScientific _ (List.any_eq_true.mp hMark) hTrimmed, ?_⟩
      unfold parseBudgetAmount
      dsimp only
      rw [if_pos hMark]
    · refine ⟨library.fromStrExact, hLibrary.fromStrExact _ (fun c hc => ?_) hTrimmed, ?_⟩
      · exact Bool.eq_false_iff.mpr fun hc' => hMark (List.any_eq_true.mpr ⟨c, hc, hc'⟩)
      · unfold parseBudgetAmount
        dsimp only
        rw [if_neg hMark]
  obtain ⟨hSound, hComplete⟩ := hRead v hSame
  rw [hParse]
  constructor
  · intro hOk
    cases hResult : read (trimDecimalFractionZeros value) with
    | error e => rw [hResult] at hOk; cases hOk
    | ok d =>
      rw [hResult] at hOk
      have hNormal : normalizeBudgetAmount d = .ok a := hOk
      rw [← Usd.isValueOf_iff.mp (normalizeBudgetAmount_eq_ok.mp hNormal)]
      exact hSound d hResult
  · intro hValue
    obtain ⟨d, hOk⟩ := hComplete ⟨a.toDecimal, a.value_toDecimal.trans hValue⟩
    rw [hOk]
    change normalizeBudgetAmount d = .ok a
    exact normalizeBudgetAmount_eq_ok.mpr (Usd.isValueOf_iff.mpr ((hSound d hOk).trans hValue.symm))

/-- A decimal text is accepted exactly when its number fits the column, and as that number;
normalising and writing an amount and reading it again change nothing. -/
theorem parseBudgetAmount_exact {library : DecimalLibrary} (hLibrary : library.Exact)
    {value : List Char} {v : ℚ} (h : decimalValue value = some v) :
    ((∃ a, parseBudgetAmount library value = .ok a) ↔
      0 ≤ v ∧ v < 10 ^ 16 ∧ ∃ n : ℤ, v * 10 ^ 12 = n) ∧
    (∀ a, parseBudgetAmount library value = .ok a → a.toDecimal.value = v ∧
      ∃ text, serializeBudgetAmount a.toDecimal = .ok text ∧
        parseBudgetAmount library text.toList = .ok a) ∧
    ∀ d a, normalizeBudgetAmount d = .ok a → normalizeBudgetAmount a.toDecimal = .ok a := by
  refine ⟨?_, fun a hParse => ⟨?_, a.toText, ?_, ?_⟩, fun _ a _ => ?_⟩
  · rw [← exists_value_iff]
    exact exists_congr fun _ => parseBudgetAmount_eq_ok hLibrary h
  · rw [a.value_toDecimal]
    exact (parseBudgetAmount_eq_ok hLibrary h).mp hParse
  · unfold serializeBudgetAmount
    rw [normalizeBudgetAmount_toDecimal]
    rfl
  · have hText := decimalValue_toText a.toDecimal
    rw [a.value_toDecimal] at hText
    exact (parseBudgetAmount_eq_ok hLibrary hText).mpr rfl
  · exact normalizeBudgetAmount_toDecimal a

/-! ## A sample library -/

def decimalAt (v : ℚ) (scale : Nat) : Option Decimal :=
  if h : (v * 10 ^ scale).den = 1 ∧ (v * 10 ^ scale).num.natAbs < Decimal.MANTISSA ∧ scale ≤ 28 then
    some ⟨(v * 10 ^ scale).num, scale, h.2⟩
  else none

theorem value_of_decimalAt {scale : Nat} (h : decimalAt v scale = some d) : d.value = v := by
  unfold decimalAt at h
  split at h
  · next hFits =>
    cases h
    have hNum : ((v * 10 ^ scale).num : ℚ) = v * 10 ^ scale := Rat.coe_int_num_of_den_eq_one hFits.1
    unfold Decimal.value
    dsimp only
    rw [hNum, mul_div_cancel_right₀ _ (by positivity)]
  · cases h

theorem decimalAt_value (d : Decimal) : (decimalAt d.value d.scale).isSome := by
  have hMul : d.value * 10 ^ d.scale = (d.mantissa : ℚ) := by
    unfold Decimal.value
    rw [div_mul_cancel₀ _ (by positivity)]
  have hFits : (d.value * 10 ^ d.scale).den = 1 ∧
      (d.value * 10 ^ d.scale).num.natAbs < Decimal.MANTISSA ∧ d.scale ≤ 28 := by
    rw [hMul, Rat.den_intCast, Rat.num_intCast]
    exact ⟨rfl, d.inRange⟩
  unfold decimalAt
  rw [dif_pos hFits]
  rfl

def readDecimal (s : List Char) : Except String Decimal :=
  match (decimalValue s).bind fun v => (List.range 29).findSome? (decimalAt v) with
  | some d => .ok d
  | none => .error "Invalid decimal: unknown character"

theorem readsExactly_readDecimal : ReadsExactly readDecimal s := by
  intro v hv
  unfold readDecimal
  rw [hv, Option.bind_some]
  refine ⟨fun d hd => ?_, ?_⟩
  · split at hd
    · next found hFound =>
      cases hd
      obtain ⟨scale, -, hAt⟩ := List.exists_of_findSome?_eq_some hFound
      exact value_of_decimalAt hAt
    · cases hd
  · rintro ⟨d, rfl⟩
    have hSome : ((List.range 29).findSome? (decimalAt d.value)).isSome := by
      rw [List.isSome_findSome?, List.any_eq_true]
      exact ⟨d.scale, List.mem_range.mpr (by have hScale := d.inRange.2; omega), decimalAt_value d⟩
    obtain ⟨found, hFound⟩ := Option.isSome_iff_exists.mp hSome
    rw [hFound]
    exact ⟨found, rfl⟩

def sampleLibrary : DecimalLibrary := ⟨readDecimal, readDecimal⟩

theorem sampleLibrary_exact : sampleLibrary.Exact where
  fromStrExact s _ _ := readsExactly_readDecimal s
  fromScientific s _ _ := readsExactly_readDecimal s

theorem decimalValue_sample : decimalValue "12.50".toList = some (25 / 2) := by
  have hText : "12.50".toList = ['1', '2', '.', '5', '0'] := rfl
  rw [hText, decimalValue_of_no_mark (by simp [isExponentMark]), readSigned_digit rfl]
  change readUnsigned (['1', '2'] ++ '.' :: ['5', '0']) = _
  have hDigits : readDigits (['1', '2'] ++ ['5', '0']) = some 1250 :=
    readDigits_eq_some.mpr ⟨by simp, by simp, by simp [Nat.ofDigitChars]⟩
  rw [readUnsigned_point (by decide), hDigits, Option.map_some]
  norm_num

theorem parseBudgetAmount_exact_sample :
    ((∃ a, parseBudgetAmount sampleLibrary "12.50".toList = .ok a) ↔
      (0 : ℚ) ≤ 25 / 2 ∧ (25 / 2 : ℚ) < 10 ^ 16 ∧ ∃ n : ℤ, (25 / 2 : ℚ) * 10 ^ 12 = n) ∧
    (∀ a, parseBudgetAmount sampleLibrary "12.50".toList = .ok a → a.toDecimal.value = 25 / 2 ∧
      ∃ text, serializeBudgetAmount a.toDecimal = .ok text ∧
        parseBudgetAmount sampleLibrary text.toList = .ok a) ∧
    ∀ d a, normalizeBudgetAmount d = .ok a → normalizeBudgetAmount a.toDecimal = .ok a :=
  parseBudgetAmount_exact sampleLibrary_exact decimalValue_sample

end KongRust.Budget

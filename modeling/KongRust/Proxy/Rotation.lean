import KongRust.Proxy.Balancer

/-!
# Weighted rotation

`weighted_round_robin`. The weights of the healthy targets, divided by their greatest common
divisor, are the shares of a wheel, and the counter goes around it: as many selections as the wheel
has places give every target its share.
-/

namespace KongRust.Proxy

/-! ## Weights as numbers -/

def units (weight : Int32) : Nat := weight.toInt.toNat

theorem units_eq {weight : Int32} (h : 0 ≤ weight) : (units weight : Int) = weight.toInt := by
  have hInt : (0 : Int) ≤ weight.toInt := Int32.le_iff_toInt_le.mp h
  unfold units
  omega

theorem toInt_lt (weight : Int32) : weight.toInt < 2 ^ 31 := Int32.toInt_lt weight

theorem foldl_add_toInt {weights : List Int32} (h : ∀ w ∈ weights, 0 ≤ w) (start : Int32)
    (hSum : start.toInt + (weights.map units).sum < 2 ^ 31) :
    (weights.foldl (· + ·) start).toInt = start.toInt + (weights.map units).sum := by
  induction weights generalizing start with
  | nil => simp
  | cons w weights ih =>
    obtain ⟨hW, hRest⟩ := List.forall_mem_cons.mp h
    have hUnits := units_eq hW
    rw [List.map_cons, List.sum_cons, Nat.cast_add] at hSum ⊢
    have hStart := Int32.le_toInt start
    have hAdd : (start + w).toInt = start.toInt + w.toInt := by
      rw [Int32.toInt_add]
      apply Int.bmod_eq_of_le <;> omega
    rw [List.foldl_cons, ih hRest _ (by rw [hAdd]; omega), hAdd]
    omega

variable {weights : List Int32} {a g n : Int32}

theorem weightSum_toInt (h : ∀ w ∈ weights, 0 ≤ w) (hSum : (weights.map units).sum < 2 ^ 31) :
    (weightSum weights).toInt = (weights.map units).sum := by
  have hZero : Int32.toInt 0 = 0 := rfl
  have hFold := foldl_add_toInt h 0 (by rw [hZero]; omega)
  rw [hZero, Int.zero_add] at hFold
  exact hFold

theorem gcdLoop_units {a b : Int32} (hA : 0 ≤ a) (hB : 0 ≤ b) :
    0 ≤ gcdLoop a b ∧ units (gcdLoop a b) = Nat.gcd (units a) (units b) := by
  fun_induction gcdLoop a b with
  | case1 a =>
    refine ⟨hA, ?_⟩
    rw [show units 0 = 0 from rfl, Nat.gcd_zero_right]
  | case2 a b h ih =>
    have hAInt := Int32.le_iff_toInt_le.mp hA
    have hBInt := Int32.le_iff_toInt_le.mp hB
    rw [show Int32.toInt 0 = 0 from rfl] at hAInt hBInt
    have hMod : (a % b).toInt = a.toInt % b.toInt := by
      rw [Int32.toInt_mod, Int.tmod_eq_emod_of_nonneg hAInt]
    have hBNe : b.toInt ≠ 0 := fun hZero => h (Int32.toInt_inj.mp hZero)
    have hRest : 0 ≤ a % b := by
      rw [Int32.le_iff_toInt_le, hMod]
      exact Int.emod_nonneg _ hBNe
    obtain ⟨hLoop, hGcd⟩ := ih hB hRest
    refine ⟨hLoop, ?_⟩
    have hUnits : units (a % b) = units a % units b := by
      unfold units
      rw [hMod, Int.toNat_emod hAInt hBInt]
    rw [hGcd, hUnits, Nat.gcd_comm (units b), ← Nat.gcd_rec, Nat.gcd_comm]

theorem absolute_of_nonneg (h : 0 ≤ a) : absolute a = a := by
  rw [absolute, if_neg (Int32.not_lt.mpr h)]

theorem foldl_gcd_units {weights : List Int32} (h : ∀ w ∈ weights, 0 ≤ w) {start : Int32}
    (hStart : 0 ≤ start) : 0 ≤ weights.foldl gcd start ∧
      units (weights.foldl gcd start) = (weights.map units).foldl Nat.gcd (units start) := by
  induction weights generalizing start with
  | nil => exact ⟨hStart, rfl⟩
  | cons w weights ih =>
    obtain ⟨hW, hRest⟩ := List.forall_mem_cons.mp h
    obtain ⟨hNonneg, hUnits⟩ := gcdLoop_units hStart hW
    have hGcd : gcd start w = gcdLoop start w := by
      rw [gcd, absolute_of_nonneg hStart, absolute_of_nonneg hW]
    rw [List.foldl_cons, List.map_cons, List.foldl_cons, hGcd, ← hUnits]
    exact ih hRest hNonneg

/-! ## The wheel -/

variable {values : List Int32} {value : Int32}

theorem lastMaxFrom_spec {best next : Nat} (hBest : values[best]? = some value)
    (hMax : ∀ other ∈ values.take next, other ≤ value) :
    ∃ greatest, values[lastMaxFrom best value next (values.drop next)]? = some greatest ∧
      ∀ other ∈ values, other ≤ greatest := by
  generalize hRest : values.drop next = rest
  induction rest generalizing best next value with
  | nil =>
    refine ⟨value, hBest, ?_⟩
    intro other hOther
    apply hMax
    rw [List.take_of_length_le (List.drop_eq_nil_iff.mp hRest)]
    exact hOther
  | cons other rest ih =>
    have hNext : values[next]? = some other := by
      rw [← List.head?_drop, hRest, List.head?_cons]
    have hDrop : values.drop (next + 1) = rest := by
      rw [← List.drop_drop, hRest, List.drop_one, List.tail_cons]
    rw [lastMaxFrom]
    split
    · next hLe =>
      apply ih hNext _ hDrop
      intro earlier hEarlier
      rw [List.take_add_one, hNext] at hEarlier
      rcases List.mem_append.mp hEarlier with hOld | hNew
      · exact Int32.le_trans (hMax earlier hOld) hLe
      · rw [Option.mem_toList, Option.some.injEq] at hNew
        rw [← hNew]
        exact Int32.le_refl _
    · next hNot =>
      apply ih hBest _ hDrop
      intro earlier hEarlier
      rw [List.take_add_one, hNext] at hEarlier
      rcases List.mem_append.mp hEarlier with hOld | hNew
      · exact hMax earlier hOld
      · rw [Option.mem_toList, Option.some.injEq] at hNew
        rw [← hNew]
        exact Int32.le_of_lt (Int32.not_le.mp hNot)

theorem lastMax_spec (h : values ≠ []) :
    ∃ greatest, values[lastMax values]? = some greatest ∧
      ∀ other ∈ values, other ≤ greatest := by
  cases values with
  | nil => exact absurd rfl h
  | cons value rest =>
    change ∃ greatest, (value :: rest)[lastMaxFrom 0 value 1 ((value :: rest).drop 1)]? =
      some greatest ∧ _
    apply lastMaxFrom_spec rfl
    intro other hOther
    rw [List.mem_singleton.mp hOther]
    exact Int32.le_refl _

theorem units_sub_one (h : 0 < units value) : units (value - 1) + 1 = units value := by
  have hHigh := Int32.toInt_lt value
  unfold units at h ⊢
  have hSub : (value - 1).toInt = value.toInt - 1 := by
    rw [Int32.toInt_sub, show Int32.toInt 1 = 1 from rfl]
    apply Int.bmod_eq_of_le <;> omega
  rw [hSub]
  omega

theorem lastMax_draws (remaining : List Int32) (h : 0 < (remaining.map units).sum) :
    ∃ x, remaining[lastMax remaining]? = some x ∧ units (x - 1) + 1 = units x := by
  have hSome : remaining ≠ [] := by
    rintro rfl
    simp at h
  obtain ⟨greatest, hAt, hGreatest⟩ := lastMax_spec hSome
  refine ⟨greatest, hAt, units_sub_one ?_⟩
  by_contra hNone
  have hAll : ∀ amount ∈ remaining.map units, amount = 0 := by
    intro amount hAmount
    obtain ⟨value, hValue, rfl⟩ := List.mem_map.mp hAmount
    have hLe := Int32.le_iff_toInt_le.mp (hGreatest value hValue)
    unfold units at hNone ⊢
    omega
  rw [List.sum_eq_zero hAll] at h
  omega

theorem count_wheel {wheelSize : Int32}
    (hSize : units wheelSize = ((weights.map (· / g)).map units).sum) (i : Nat) :
    (wheel weights wheelSize g).count i = ((weights.map (· / g)).map units).getD i 0 := by
  have hCount := Schedule.count_drain lastMax_draws (weights.map (· / g)) i
  rw [← hSize] at hCount
  exact hCount

theorem foldl_gcd_dvd (numbers : List Nat) (start : Nat) : numbers.foldl Nat.gcd start ∣ start ∧
      ∀ number ∈ numbers, numbers.foldl Nat.gcd start ∣ number := by
  induction numbers generalizing start with
  | nil => exact ⟨dvd_rfl, List.forall_mem_nil _⟩
  | cons number numbers ih =>
    obtain ⟨hStart, hRest⟩ := ih (Nat.gcd start number)
    rw [List.foldl_cons]
    exact ⟨hStart.trans (Nat.gcd_dvd_left _ _),
      List.forall_mem_cons.mpr ⟨hStart.trans (Nat.gcd_dvd_right _ _), hRest⟩⟩

theorem sum_map_div {numbers : List Nat} {g : Nat} (h : ∀ number ∈ numbers, g ∣ number) :
    (numbers.map (· / g)).sum = numbers.sum / g := by
  induction numbers with
  | nil => simp
  | cons number numbers ih =>
    obtain ⟨hNumber, hRest⟩ := List.forall_mem_cons.mp h
    rw [List.map_cons, List.sum_cons, List.sum_cons, ih hRest, Nat.add_div_of_dvd_right hNumber]

theorem count_filterMap_getElem? {α : Type} [DecidableEq α] {items : List α} (hNodup : items.Nodup)
    (positions : List Nat) {j : Nat} (hJ : j < items.length) :
    (positions.filterMap fun p => items[p]?).count items[j] = positions.count j := by
  induction positions with
  | nil => rfl
  | cons p positions ih =>
    rw [List.filterMap_cons, List.count_cons, ← ih]
    cases hAt : items[p]? with
    | none =>
      have hNe : p ≠ j := by
        rintro rfl
        rw [List.getElem?_eq_getElem hJ] at hAt
        cases hAt
      simp [hNe]
    | some item =>
      obtain ⟨hP, rfl⟩ := List.getElem?_eq_some_iff.mp hAt
      have hSame : items[p] = items[j] ↔ p = j := hNodup.getElem_inj_iff
      by_cases hEq : p = j
      · subst hEq
        simp
      · have hNe : items[p] ≠ items[j] := fun h => hEq (hSame.mp h)
        simp [hEq, hNe]

namespace LoadBalancer

variable (lb : LoadBalancer) (healthyIndices : List (Fin lb.targets.length))

def weightOf (i : Fin lb.targets.length) : Nat := units (lb.targets.get i).weight

def divisor : Nat := (healthyIndices.map lb.weightOf).foldl Nat.gcd 0

def share (i : Fin lb.targets.length) : Nat := lb.weightOf i / lb.divisor healthyIndices

def wheelSize : Nat := (healthyIndices.map (lb.share healthyIndices)).sum

def selections : Nat → UInt64 → Except Panic (List (Option (Fin lb.targets.length)) × UInt64)
  | 0, counter => .ok ([], counter)
  | n + 1, counter => do
    let selected ← { lb with rrIndex := counter }.weightedRoundRobin healthyIndices
    let rest ← selections n selected.2
    pure (selected.1 :: rest.1, rest.2)

/-- A set of healthy targets with positive weights whose sum is an `i32`. -/
structure Weighted : Prop where
  some : healthyIndices ≠ []
  distinct : healthyIndices.Nodup
  positive : ∀ i ∈ healthyIndices, 0 < (lb.targets.get i).weight
  inRange : (healthyIndices.map lb.weightOf).sum < 2 ^ 31

/-- What the wheel has: every target by its share, and what a selection reads off it. -/
structure Wheel (hits : List (Fin lb.targets.length)) : Prop where
  length : hits.length = lb.wheelSize healthyIndices
  healthy : ∀ i ∈ healthyIndices, hits.count i = lb.share healthyIndices i
  others : ∀ i ∈ hits, i ∈ healthyIndices
  selects : ∀ counter, ∃ next,
    { lb with rrIndex := counter }.weightedRoundRobin healthyIndices =
      .ok (hits[counter.toNat % hits.length]?, next) ∧
        (next = counter + 1 ∨ next = counter ∧ hits.length = 1)

variable {lb healthyIndices}

variable {i : Fin lb.targets.length}

theorem Weighted.weightOf_pos (h : lb.Weighted healthyIndices) (hI : i ∈ healthyIndices) :
    0 < lb.weightOf i := by
  have hInt := Int32.lt_iff_toInt_lt.mp (h.positive i hI)
  rw [show Int32.toInt 0 = 0 from rfl] at hInt
  unfold weightOf units
  omega

theorem divisor_dvd (hI : i ∈ healthyIndices) : lb.divisor healthyIndices ∣ lb.weightOf i :=
  (foldl_gcd_dvd _ 0).2 _ (List.mem_map_of_mem hI)

theorem Weighted.divisor_pos (h : lb.Weighted healthyIndices) :
    0 < lb.divisor healthyIndices := by
  obtain ⟨i, hI⟩ := List.exists_mem_of_ne_nil _ h.some
  exact Nat.pos_of_dvd_of_pos (divisor_dvd hI) (h.weightOf_pos hI)

theorem Weighted.share_pos (h : lb.Weighted healthyIndices) (hI : i ∈ healthyIndices) :
    0 < lb.share healthyIndices i :=
  Nat.div_pos (Nat.le_of_dvd (h.weightOf_pos hI) (divisor_dvd hI)) h.divisor_pos

theorem wheel_single (h : lb.Weighted [i]) : lb.Wheel [i] [i] := by
  have hShare : lb.share [i] i = 1 := by
    have hDivisor : lb.divisor [i] = lb.weightOf i := by
      rw [divisor, List.map_singleton, List.foldl_cons, List.foldl_nil, Nat.gcd_zero_left]
    rw [share, hDivisor]
    exact Nat.div_self (h.weightOf_pos (List.mem_singleton_self i))
  refine ⟨?_, ?_, fun _ hHit => hHit, ?_⟩
  · rw [wheelSize, List.map_singleton, List.sum_singleton, hShare, List.length_singleton]
  · intro other hOther
    rw [List.mem_singleton.mp hOther, hShare, List.count_singleton_self]
  · intro counter
    refine ⟨counter, ?_, Or.inr ⟨rfl, rfl⟩⟩
    rw [List.length_singleton, Nat.mod_one]
    rfl

end LoadBalancer

theorem asUsize_toNat (h : 0 ≤ n) : (asUsize n).toNat = units n := by
  have hInt := Int32.le_iff_toInt_le.mp h
  rw [show Int32.toInt 0 = 0 from rfl] at hInt
  have hWide : n.toInt64.toInt = n.toInt := Int32.toInt_toInt64 n
  have hNonneg : 0 ≤ n.toInt64 := by
    rw [Int64.le_iff_toInt_le, hWide]
    exact hInt
  rw [asUsize, Int64.toNat_toUInt64_of_le hNonneg, units, ← hWide]
  rfl

theorem units_div (hA : 0 ≤ a) (hG : 0 < g) : 0 ≤ a / g ∧ units (a / g) = units a / units g := by
  have hAInt := Int32.le_iff_toInt_le.mp hA
  have hGInt := Int32.lt_iff_toInt_lt.mp hG
  rw [show Int32.toInt 0 = 0 from rfl] at hAInt hGInt
  have hNe : g ≠ -1 := by
    rintro rfl
    rw [show Int32.toInt (-1) = -1 from rfl] at hGInt
    omega
  have hDiv : (a / g).toInt = a.toInt / g.toInt := by
    rw [Int32.toInt_div_of_ne_right _ _ hNe, Int.tdiv_eq_ediv_of_nonneg hAInt]
  constructor
  · rw [Int32.le_iff_toInt_le, hDiv]
    exact Int.ediv_nonneg hAInt (Int.le_of_lt hGInt)
  · unfold units
    obtain ⟨m, hM⟩ := Int.eq_ofNat_of_zero_le hAInt
    obtain ⟨d, hD⟩ := Int.eq_ofNat_of_zero_le (Int.le_of_lt hGInt)
    rw [hDiv, hM, hD, ← Int.natCast_div, Int.toNat_natCast, Int.toNat_natCast, Int.toNat_natCast]

theorem withCapacity_ok {bytes : Nat} (hN : 0 ≤ n) (hBytes : bytes ≤ 16) :
    withCapacity bytes (asUsize n) = .ok () := by
  have hHigh := toInt_lt n
  have hUnits := units_eq hN
  have hMul : bytes * units n ≤ 16 * units n := Nat.mul_le_mul_right _ hBytes
  rw [withCapacity, asUsize_toNat hN, if_neg (by omega)]

namespace LoadBalancer

variable {lb : LoadBalancer} {healthyIndices : List (Fin lb.targets.length)}

/-- What the source computes from the weights, as numbers. -/
structure Reduced (weights : List Int32) (g wheelSize : Int32) : Prop where
  divisor : 0 < g
  total : weightSum weights ≠ 0
  gcd : weights.foldl Proxy.gcd 0 = g
  size : weightSum weights / g = wheelSize
  nonneg : 0 ≤ wheelSize

theorem Weighted.map_units : (healthyIndices.map fun i => (lb.targets.get i).weight).map units =
    healthyIndices.map lb.weightOf := by
  rw [List.map_map]
  rfl

theorem Weighted.reduced (h : lb.Weighted healthyIndices) : ∃ g wheelSize,
    Reduced (healthyIndices.map fun i => (lb.targets.get i).weight) g wheelSize ∧
      units wheelSize = lb.wheelSize healthyIndices ∧
      (((healthyIndices.map fun i => (lb.targets.get i).weight).map (· / g)).map units =
        healthyIndices.map (lb.share healthyIndices)) := by
  have hNonneg : ∀ w ∈ healthyIndices.map fun i => (lb.targets.get i).weight, 0 ≤ w := by
    intro w hW
    obtain ⟨i, hI, rfl⟩ := List.mem_map.mp hW
    exact Int32.le_of_lt (h.positive i hI)
  obtain ⟨hGcd, hDivisor⟩ := foldl_gcd_units hNonneg (Int32.le_refl 0)
  rw [Weighted.map_units] at hDivisor
  change units _ = lb.divisor healthyIndices at hDivisor
  have hRange := h.inRange
  rw [← Weighted.map_units] at hRange
  have hTotal := weightSum_toInt hNonneg hRange
  rw [Weighted.map_units] at hTotal
  have hDivisorPos := h.divisor_pos
  have hSumPos : 0 < (healthyIndices.map lb.weightOf).sum := by
    obtain ⟨i, hI⟩ := List.exists_mem_of_ne_nil _ h.some
    have hLe := List.single_le_sum (fun a _ => Nat.zero_le a) _
      (List.mem_map_of_mem (f := lb.weightOf) hI)
    have hPos := h.weightOf_pos hI
    omega
  generalize hG : (healthyIndices.map fun i => (lb.targets.get i).weight).foldl gcd 0 = g
    at hGcd hDivisor
  have hGPos : 0 < g := by
    rw [Int32.lt_iff_toInt_lt, show Int32.toInt 0 = 0 from rfl]
    unfold units at hDivisor
    omega
  have hTotalNonneg : 0 ≤ weightSum (healthyIndices.map fun i => (lb.targets.get i).weight) := by
    rw [Int32.le_iff_toInt_le, hTotal, show Int32.toInt 0 = 0 from rfl]
    omega
  obtain ⟨hSizeNonneg, hSize⟩ := units_div hTotalNonneg hGPos
  refine ⟨g, _, ⟨hGPos, ?_, hG, rfl, hSizeNonneg⟩, ?_, ?_⟩
  · intro hZero
    rw [hZero, show Int32.toInt 0 = 0 from rfl] at hTotal
    omega
  · have hUnits : units (weightSum (healthyIndices.map fun i => (lb.targets.get i).weight)) =
        (healthyIndices.map lb.weightOf).sum := by
      rw [units, hTotal, Int.toNat_natCast]
    rw [hSize, hUnits, hDivisor, wheelSize]
    have hDvd : ∀ number ∈ healthyIndices.map lb.weightOf,
        lb.divisor healthyIndices ∣ number := (foldl_gcd_dvd _ 0).2
    rw [← sum_map_div hDvd, List.map_map]
    rfl
  · rw [List.map_map, List.map_map]
    apply List.map_congr_left
    intro i hI
    have hUnits := (units_div (Int32.le_of_lt (h.positive i hI)) hGPos).2
    rw [hDivisor] at hUnits
    exact hUnits

/-- Every set of weighted targets has its wheel. -/
theorem Weighted.wheel (h : lb.Weighted healthyIndices) :
    ∃ hits, lb.Wheel healthyIndices hits := by
  by_cases hSingle : healthyIndices.length = 1
  · obtain ⟨i, rfl⟩ := List.length_eq_one_iff.mp hSingle
    exact ⟨[i], wheel_single h⟩
  · obtain ⟨g, size, hReduced, hSize, hShares⟩ := h.reduced
    have hSum := hSize
    rw [wheelSize, ← hShares] at hSum
    have hCount := count_wheel hSum
    rw [hShares] at hCount
    generalize hPositions : Proxy.wheel (healthyIndices.map fun i => (lb.targets.get i).weight) size g =
      positions at hCount
    have hIn : ∀ p ∈ positions, p < healthyIndices.length := by
      intro p hP
      have hPos := List.count_pos_iff.mpr hP
      rw [hCount] at hPos
      by_contra hOut
      rw [List.getD_eq_default _ _ (by rw [List.length_map]; omega)] at hPos
      omega
    have hLength : positions.length = lb.wheelSize healthyIndices := by
      rw [← hPositions, Proxy.wheel, Schedule.length_drain, ← hSize, units]
    have hHits : (positions.filterMap fun p => healthyIndices[p]?).length = positions.length := by
      rw [List.length_filterMap_eq_countP, List.countP_eq_length]
      intro p hP
      rw [List.getElem?_eq_getElem (hIn p hP)]
      rfl
    refine ⟨positions.filterMap fun p => healthyIndices[p]?, ?_, ?_, ?_, ?_⟩
    · rw [hHits, hLength]
    · intro i hI
      obtain ⟨j, hJ, rfl⟩ := List.getElem_of_mem hI
      rw [count_filterMap_getElem? h.distinct positions hJ, hCount,
        List.getD_eq_getElem _ _ (by rw [List.length_map]; exact hJ), List.getElem_map]
    · intro i hI
      obtain ⟨p, _, hAt⟩ := List.mem_filterMap.mp hI
      exact List.mem_of_getElem? hAt
    · intro counter
      refine ⟨counter + 1, ?_, Or.inl rfl⟩
      have hSome : healthyIndices.isEmpty = false := List.isEmpty_eq_false_iff.mpr h.some
      have hWheel : (positions.filterMap fun p => healthyIndices[p]?).isEmpty = false := by
        rw [List.isEmpty_eq_false_iff, ← List.length_pos_iff, hHits, hLength, wheelSize]
        obtain ⟨i, hI⟩ := List.exists_mem_of_ne_nil _ h.some
        have hLe := List.single_le_sum (fun a _ => Nat.zero_le a) _
          (List.mem_map_of_mem (f := lb.share healthyIndices) hI)
        have hPos := h.share_pos hI
        omega
      have hUnfold : { lb with rrIndex := counter }.weightedRoundRobin healthyIndices =
          (do
            withCapacity 8 (asUsize size)
            if (positions.filterMap fun p => healthyIndices[p]?).isEmpty then
              .error .remainderByZero
            else
              pure ((positions.filterMap fun p => healthyIndices[p]?)[counter.toNat %
                (positions.filterMap fun p => healthyIndices[p]?).length]?, counter + 1)) := by
        have hGet : ∀ i : Fin lb.targets.length, lb.targets[i] = lb.targets.get i := fun _ => rfl
        simp only [weightedRoundRobin, hSome, Bool.false_eq_true, if_false, hSingle, hGet,
          hReduced.total, hReduced.gcd, hReduced.divisor, if_true, hReduced.size, hPositions]
      rw [hUnfold, withCapacity_ok hReduced.nonneg (by omega), hWheel]
      rfl

end LoadBalancer

namespace LoadBalancer

variable {lb : LoadBalancer} {healthyIndices hits : List (Fin lb.targets.length)}

/-- Selections read off the wheel one place after the other. -/
theorem Wheel.selections_eq (h : lb.Wheel healthyIndices hits) (n : Nat) {counter : UInt64}
    (hCounter : counter.toNat + n ≤ 2 ^ 64) : ∃ last,
      lb.selections healthyIndices n counter = .ok ((List.range n).map fun k =>
        hits[(counter.toNat + k) % hits.length]?, last) := by
  induction n generalizing counter with
  | zero => exact ⟨counter, rfl⟩
  | succ n ih =>
    obtain ⟨next, hSelect, hNext⟩ := h.selects counter
    have hRest : ∃ last, lb.selections healthyIndices n next = .ok ((List.range n).map fun k =>
        hits[(counter.toNat + (k + 1)) % hits.length]?, last) := by
      rcases hNext with rfl | ⟨rfl, hSingle⟩
      · cases n with
        | zero => exact ⟨counter + 1, rfl⟩
        | succ n =>
          have hAdd : (counter + 1).toNat = counter.toNat + 1 := by
            rw [UInt64.toNat_add, show UInt64.toNat 1 = 1 from rfl]
            omega
          have hBound : (counter + 1).toNat + (n + 1) ≤ 2 ^ 64 := by omega
          obtain ⟨last, hLast⟩ := ih hBound
          refine ⟨last, ?_⟩
          rw [hLast, hAdd]
          simp only [Nat.add_assoc, Nat.add_comm 1]
      · have hBound : next.toNat + n ≤ 2 ^ 64 := by omega
        obtain ⟨last, hLast⟩ := ih hBound
        refine ⟨last, ?_⟩
        rw [hLast, hSingle]
        simp only [Nat.mod_one]
    obtain ⟨last, hLast⟩ := hRest
    refine ⟨last, ?_⟩
    rw [selections, hSelect]
    dsimp only [bind, Except.bind]
    rw [hLast]
    dsimp only [pure, Except.pure]
    rw [List.range_succ_eq_map, List.map_cons, List.map_map]
    rfl

/-- As many selections as the wheel has places give every healthy target its share of them and no
other target any, from a counter that does not wrap around. -/
theorem weightedRoundRobin_fair (h : lb.Weighted healthyIndices)
    (hCounter : lb.rrIndex.toNat + lb.wheelSize healthyIndices ≤ 2 ^ 64) :
    ∃ (hits : List (Fin lb.targets.length)) (last : UInt64),
      lb.selections healthyIndices (lb.wheelSize healthyIndices) lb.rrIndex =
        .ok (hits.map some, last) ∧
      (∀ i ∈ healthyIndices, hits.count i = lb.share healthyIndices i) ∧
      ∀ i ∈ hits, i ∈ healthyIndices := by
  obtain ⟨places, hWheel⟩ := h.wheel
  obtain ⟨last, hRun⟩ := hWheel.selections_eq _ hCounter
  have hRotate : ((List.range (lb.wheelSize healthyIndices)).map fun k =>
      places[(lb.rrIndex.toNat + k) % places.length]?) =
        (places.rotate lb.rrIndex.toNat).map some := by
    rw [← hWheel.length]
    exact Schedule.window_rotate _
  have hPerm := List.rotate_perm places lb.rrIndex.toNat
  refine ⟨places.rotate lb.rrIndex.toNat, last, ?_, ?_, ?_⟩
  · rw [hRun, hRotate]
  · intro i hI
    rw [hPerm.count_eq]
    exact hWheel.healthy i hI
  · intro i hI
    exact hWheel.others i (hPerm.mem_iff.mp hI)

/-- Three targets of which the second is not healthy. -/
def sampleBalancer : LoadBalancer where
  targets := [⟨"10.0.0.1:80", 300⟩, ⟨"10.0.0.2:80", 500⟩, ⟨"10.0.0.3:80", 100⟩]
  algorithm := .roundRobin
  rrIndex := 7
  upstreamName := "backends"
  healthChecker := none
  hashRing := []
  connectionCounts := [0, 0, 0]

def sampleHealthy : List (Fin sampleBalancer.targets.length) := [⟨0, by decide⟩, ⟨2, by decide⟩]

theorem sample_weighted : sampleBalancer.Weighted sampleHealthy where
  some := by decide
  distinct := by decide
  positive := by decide
  inRange := by decide

theorem weightedRoundRobin_fair_sample :
    ∃ (hits : List (Fin sampleBalancer.targets.length)) (last : UInt64),
      sampleBalancer.selections sampleHealthy (sampleBalancer.wheelSize sampleHealthy)
        sampleBalancer.rrIndex = .ok (hits.map some, last) ∧
      (∀ i ∈ sampleHealthy, hits.count i = sampleBalancer.share sampleHealthy i) ∧
      ∀ i ∈ hits, i ∈ sampleHealthy :=
  weightedRoundRobin_fair sample_weighted (by decide)

example : sampleBalancer.wheelSize sampleHealthy = 4 := by decide

end LoadBalancer

end KongRust.Proxy

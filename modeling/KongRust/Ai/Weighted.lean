import KongRust.Foundation.Schedule

/-!
# Interleaved weighted rotation

`weighted_round_robin_index`. Weights are `u32` numbers, and a sum of them is a `u64` that does not
overflow. The index of a sequence number is the one of the interleaved rounds, so that a window of
sequence numbers as long as the reduced weights has every index by its reduced weight.
-/

namespace KongRust.Ai

def gcd (left right : Nat) : Nat :=
  if right = 0 then left else gcd right (left % right)
termination_by right
decreasing_by exact Nat.mod_lt _ (Nat.pos_of_ne_zero ‹_›)

def slotsThroughRound (weights : List Nat) (round : Nat) : Nat :=
  (weights.map fun weight => min weight round).sum

def searchRound (reduced : List Nat) (slot low high : Nat) : Nat :=
  if low < high then
    let middle := low + (high - low) / 2
    if slotsThroughRound reduced middle > slot then searchRound reduced slot low middle
    else searchRound reduced slot (middle + 1) high
  else low
termination_by high - low
decreasing_by all_goals omega

def reducedWeights (weights : List Nat) : List Nat :=
  weights.map fun weight => weight / weights.foldl gcd 0

def weightedRoundRobinIndex (weights : List Nat) (sequence : Nat) : Option Nat :=
  let divisor := weights.foldl gcd 0
  if divisor = 0 then none
  else
    let reduced := reducedWeights weights
    let totalWeight := reduced.sum
    let slot := sequence % totalWeight
    reduced.max?.bind fun maxWeight =>
      let round := searchRound reduced slot 1 maxWeight
      let offset := slot - slotsThroughRound reduced (round - 1)
      ((reduced.zipIdx.filter fun entry => round ≤ entry.1)[offset]?).map Prod.snd

/-! ## The reduced weights -/

theorem gcd_eq (left right : Nat) : gcd left right = Nat.gcd left right := by
  induction right using Nat.strong_induction_on generalizing left with
  | _ right ih =>
    unfold gcd
    split
    · simp_all
    · rename_i hRight
      rw [ih (left % right) (Nat.mod_lt _ (Nat.pos_of_ne_zero hRight)) right,
        Nat.gcd_comm left right, Nat.gcd_rec right left, Nat.gcd_comm]

theorem foldl_gcd_dvd (weights : List Nat) (start : Nat) : weights.foldl gcd start ∣ start ∧
    ∀ weight ∈ weights, weights.foldl gcd start ∣ weight := by
  induction weights generalizing start with
  | nil => simp
  | cons weight weights ih =>
    obtain ⟨hStart, hRest⟩ := ih (gcd start weight)
    rw [gcd_eq] at hStart
    rw [List.foldl_cons, gcd_eq]
    rw [gcd_eq] at hRest
    refine ⟨hStart.trans (Nat.gcd_dvd_left _ _), ?_⟩
    intro other hOther
    rcases List.mem_cons.mp hOther with rfl | hOther
    · exact hStart.trans (Nat.gcd_dvd_right _ _)
    · exact hRest other hOther

variable {weights hits : List Nat} {i : Nat} {counter : UInt64}

theorem divisor_eq_zero : weights.foldl gcd 0 = 0 ↔ ∀ weight ∈ weights, weight = 0 := by
  constructor
  · intro hZero weight hWeight
    have hDvd := (foldl_gcd_dvd weights 0).2 weight hWeight
    rw [hZero] at hDvd
    exact Nat.eq_zero_of_zero_dvd hDvd
  · intro hAll
    induction weights with
    | nil => rfl
    | cons weight weights ih =>
      obtain ⟨rfl, hRest⟩ := List.forall_mem_cons.mp hAll
      rw [List.foldl_cons, gcd_eq, Nat.gcd_zero_left]
      exact ih hRest

theorem reduced_pos (h : weights.foldl gcd 0 ≠ 0) : 0 < (reducedWeights weights).sum := by
  rw [Ne, divisor_eq_zero] at h
  push Not at h
  obtain ⟨weight, hMem, hWeight⟩ := h
  have hDvd := (foldl_gcd_dvd weights 0).2 weight hMem
  have hPos : 0 < weight / weights.foldl gcd 0 :=
    Nat.div_pos (Nat.le_of_dvd (Nat.pos_of_ne_zero hWeight) hDvd)
      (Nat.pos_of_dvd_of_pos hDvd (Nat.pos_of_ne_zero hWeight))
  have hReduced : weight / weights.foldl gcd 0 ∈ reducedWeights weights :=
    List.mem_map.mpr ⟨weight, hMem, rfl⟩
  exact lt_of_lt_of_le hPos (List.single_le_sum (fun w _ => Nat.zero_le w) _ hReduced)

/-! ## The schedule -/

theorem slotsThroughRound_eq (weights : List Nat) (round : Nat) :
    slotsThroughRound weights round = Schedule.turns weights round := rfl

theorem searchRound_spec (reduced : List Nat) (slot : Nat) {low high : Nat} (hLow : 0 < low)
    (hBounds : low ≤ high) (hFrom : slotsThroughRound reduced (low - 1) ≤ slot)
    (hTo : slot < slotsThroughRound reduced high) :
    0 < searchRound reduced slot low high ∧ searchRound reduced slot low high ≤ high ∧
      slotsThroughRound reduced (searchRound reduced slot low high - 1) ≤ slot ∧
      slot < slotsThroughRound reduced (searchRound reduced slot low high) := by
  induction low, high using searchRound.induct reduced slot with
  | case1 low high hLess middle hAbove ih =>
    have hMiddle : low ≤ middle := Nat.le_add_right _ _
    have hHigh : middle ≤ high := by omega
    unfold searchRound
    rw [if_pos hLess, if_pos hAbove]
    obtain ⟨hPos, hLe, hSlot⟩ := ih hLow hMiddle hFrom hAbove
    exact ⟨hPos, hLe.trans hHigh, hSlot⟩
  | case2 low high hLess middle hBelow ih =>
    unfold searchRound
    rw [if_pos hLess, if_neg hBelow]
    exact ih (Nat.succ_pos _) (by omega) (by rw [Nat.add_sub_cancel]; omega) hTo
  | case3 low high hDone =>
    have hSame : low = high := by omega
    subst hSame
    unfold searchRound
    rw [if_neg hDone]
    exact ⟨hLow, Nat.le_refl _, hFrom, hTo⟩

def cycle (weights : List Nat) : List Nat :=
  Schedule.rounds (reducedWeights weights) ((reducedWeights weights).max?.getD 0)

theorem turns_max (weights : List Nat) :
    Schedule.turns weights (weights.max?.getD 0) = weights.sum := by
  apply Schedule.turns_all
  intro weight hWeight
  exact List.le_max?_getD_of_mem hWeight

theorem length_cycle (weights : List Nat) :
    (cycle weights).length = (reducedWeights weights).sum := by
  rw [cycle, Schedule.length_rounds, turns_max]

theorem count_cycle (weights : List Nat) (i : Nat) :
    (cycle weights).count i = (reducedWeights weights).getD i 0 := by
  rw [cycle, Schedule.count_rounds]
  apply Nat.min_eq_left
  by_cases hI : i < (reducedWeights weights).length
  · rw [List.getD_eq_getElem _ _ hI]
    exact List.le_max?_getD_of_mem (List.getElem_mem hI)
  · rw [List.getD_eq_default _ _ (by omega)]
    exact Nat.zero_le _

/-- With a positive weight every sequence number has an index, the one of the cycle. -/
theorem weightedRoundRobinIndex_eq {weights : List Nat} (h : weights.foldl gcd 0 ≠ 0)
    (sequence : Nat) : weightedRoundRobinIndex weights sequence =
      (cycle weights)[sequence % (cycle weights).length]? := by
  have hPos := reduced_pos h
  have hSlot : sequence % (reducedWeights weights).sum < (reducedWeights weights).sum :=
    Nat.mod_lt _ hPos
  have hMax := turns_max (reducedWeights weights)
  rw [length_cycle]
  unfold weightedRoundRobinIndex cycle
  rw [if_neg h]
  dsimp only
  generalize sequence % (reducedWeights weights).sum = slot at hSlot ⊢
  cases hHighest : (reducedWeights weights).max? with
  | none =>
    rw [List.max?_eq_none_iff] at hHighest
    rw [hHighest, List.sum_nil] at hPos
    omega
  | some highest =>
    rw [hHighest, Option.getD_some] at hMax
    have hHighestPos : 1 ≤ highest := by
      by_contra hNot
      have hZero : highest = 0 := by omega
      rw [hZero, Schedule.turns_zero] at hMax
      omega
    have hFirst : slotsThroughRound (reducedWeights weights) (1 - 1) ≤ slot := by
      rw [slotsThroughRound_eq, Nat.sub_self, Schedule.turns_zero]
      omega
    have hLast : slot < slotsThroughRound (reducedWeights weights) highest := by
      rw [slotsThroughRound_eq, hMax]
      exact hSlot
    obtain ⟨hRoundPos, hRoundLe, hFrom, hTo⟩ :=
      searchRound_spec (reducedWeights weights) slot Nat.one_pos hHighestPos hFirst hLast
    rw [Option.bind_some, Option.getD_some]
    generalize searchRound (reducedWeights weights) slot 1 highest = round at *
    obtain ⟨last, rfl⟩ : ∃ last, round = last + 1 := ⟨round - 1, by omega⟩
    rw [Nat.add_sub_cancel] at hFrom ⊢
    rw [Schedule.rounds_getElem? (by omega) hFrom hTo]
    unfold Schedule.row
    rw [List.getElem?_map]
    rfl

theorem weightedRoundRobinIndex_some (h : weights.foldl gcd 0 ≠ 0) (sequence : Nat) :
    ∃ i, weightedRoundRobinIndex weights sequence = some i := by
  have hPos := reduced_pos h
  rw [weightedRoundRobinIndex_eq h, length_cycle]
  exact ⟨_, List.getElem?_eq_getElem (by rw [length_cycle]; exact Nat.mod_lt _ hPos)⟩

theorem weightedRoundRobinIndex_lt (h : weights.foldl gcd 0 ≠ 0) {sequence : Nat}
    (hIndex : weightedRoundRobinIndex weights sequence = some i) : i < weights.length := by
  rw [weightedRoundRobinIndex_eq h] at hIndex
  have hMem := List.mem_of_getElem? hIndex
  have hCount := count_cycle weights i
  have hPos := List.count_pos_iff.mpr hMem
  by_contra hOut
  rw [List.getD_eq_default _ _ (by rw [reducedWeights, List.length_map]; omega)] at hCount
  omega

/-! ## Windows of sequence numbers -/

def Fair (weights hits : List Nat) : Prop :=
  ∀ i, hits.count i = (reducedWeights weights).getD i 0

/-- Numbers that a 64-bit counter gives one after the other, as many as the reduced weights, hit
every index by its reduced weight; the counter may turn over if the weights divide its range. -/
theorem fair_of_consecutive (h : weights.foldl gcd 0 ≠ 0)
    (hHits : hits.map some = (List.range (reducedWeights weights).sum).map fun k =>
      weightedRoundRobinIndex weights (counter + UInt64.ofNat k).toNat)
    (hCounter : counter.toNat + (reducedWeights weights).sum ≤ 2 ^ 64 ∨
      (reducedWeights weights).sum ∣ 2 ^ 64) : Fair weights hits := by
  intro i
  rw [← count_cycle]
  apply Schedule.count_window counter.toNat
  rw [hHits, length_cycle]
  apply List.map_congr_left
  intro k hK
  rw [List.mem_range] at hK
  rw [weightedRoundRobinIndex_eq h, length_cycle]
  have hNumber : (counter + UInt64.ofNat k).toNat = (counter.toNat + k) % 2 ^ 64 := by
    simp [UInt64.toNat_add, UInt64.toNat_ofNat']
  rw [hNumber]
  congr 1
  rcases hCounter with hBelow | hDvd
  · rw [Nat.mod_eq_of_lt (show counter.toNat + k < 2 ^ 64 by omega)]
  · exact Nat.mod_mod_of_dvd _ hDvd

theorem consecutive_cons (count : Nat)
    (h : weightedRoundRobinIndex weights counter.toNat = some i) :
    (some i :: (List.range count).map fun k =>
        weightedRoundRobinIndex weights (counter + 1 + UInt64.ofNat k).toNat) =
      (List.range (count + 1)).map fun k =>
        weightedRoundRobinIndex weights (counter + UInt64.ofNat k).toNat := by
  rw [List.range_succ_eq_map, List.map_cons, List.map_map]
  congr 1
  · simp [h]
  · apply List.map_congr_left
    intro k _
    have hNext : counter + 1 + UInt64.ofNat k = counter + UInt64.ofNat (k + 1) := by
      rw [UInt64.ofNat_add, UInt64.add_assoc, UInt64.add_comm 1]
      rfl
    rw [hNext]
    rfl

theorem fair_of_zero (h : ∀ weight ∈ weights, weight = 0)
    (hLength : hits.length = (reducedWeights weights).sum) : Fair weights hits := by
  have hReduced : ∀ weight ∈ reducedWeights weights, weight = 0 := by
    intro weight hWeight
    obtain ⟨original, hMem, rfl⟩ := List.mem_map.mp hWeight
    rw [h original hMem, Nat.zero_div]
  rw [List.sum_eq_zero hReduced, List.length_eq_zero_iff] at hLength
  intro i
  rw [hLength, List.count_nil]
  symm
  by_cases hI : i < (reducedWeights weights).length
  · rw [List.getD_eq_getElem _ _ hI]
    exact hReduced _ (List.getElem_mem hI)
  · exact List.getD_eq_default _ _ (by omega)

/-! ## Every window of the sequence -/

theorem foldl_gcd (weights : List Nat) : weights.foldl gcd 0 = weights.foldl Nat.gcd 0 := by
  have hGcd : gcd = Nat.gcd := by
    funext left right
    exact gcd_eq left right
  rw [hGcd]

/-- The weights divided by their greatest common divisor. -/
theorem reducedWeights_getD (weights : List Nat) (i : Nat) :
    (reducedWeights weights).getD i 0 = weights.getD i 0 / weights.foldl Nat.gcd 0 := by
  rw [reducedWeights, foldl_gcd]
  simp only [List.getD_eq_getElem?_getD, List.getElem?_map]
  cases weights[i]? with
  | none => simp
  | some weight => rfl

/-- What the sequence numbers from `start` on hit, one window of them. -/
theorem window_eq (h : weights.foldl gcd 0 ≠ 0) (start : Nat) :
    ((cycle weights).rotate start).map some = (List.range (reducedWeights weights).sum).map fun k =>
      weightedRoundRobinIndex weights (start + k) := by
  rw [← Schedule.window_rotate, length_cycle]
  apply List.map_congr_left
  intro k _
  rw [weightedRoundRobinIndex_eq h, length_cycle]

/-- **Interleaved weighted rotation.** With a positive weight every sequence number has an index.
As many numbers one after the other as the reduced weights hit every index by its reduced weight,
and none that has no weight; from a multiple of the period on, the turns come in rounds. -/
theorem weightedRoundRobinIndex_exact (weights : List Nat) (start : Nat)
    (hWeight : ∃ weight ∈ weights, 0 < weight) :
    let divisor := weights.foldl Nat.gcd 0
    let period := (weights.map fun weight => weight / divisor).sum
    ∃ hits : List Nat,
      (hits.map some = (List.range period).map fun k =>
        weightedRoundRobinIndex weights (start + k)) ∧
      (∀ i, hits.count i = weights.getD i 0 / divisor) ∧
      (∀ hit ∈ hits, 0 < weights.getD hit 0) ∧
      (period ∣ start → Schedule.Interleaved hits) := by
  intro divisor period
  have hDivisor : weights.foldl gcd 0 ≠ 0 := by
    obtain ⟨weight, hMem, hPos⟩ := hWeight
    intro hZero
    exact absurd (divisor_eq_zero.mp hZero weight hMem) (Nat.ne_of_gt hPos)
  have hPeriod : period = (reducedWeights weights).sum := by
    rw [reducedWeights, foldl_gcd]
  have hCount : ∀ i, ((cycle weights).rotate start).count i = weights.getD i 0 / divisor := by
    intro i
    rw [(List.rotate_perm (cycle weights) start).count_eq, count_cycle, reducedWeights_getD]
  refine ⟨(cycle weights).rotate start, ?_, hCount, ?_, ?_⟩
  · rw [hPeriod]
    exact window_eq hDivisor start
  · intro hit hHit
    have hPos := List.count_pos_iff.mpr hHit
    rw [hCount] at hPos
    exact Nat.pos_of_ne_zero fun hZero => by rw [hZero, Nat.zero_div] at hPos; omega
  · rintro ⟨turn, rfl⟩
    have hAligned : (cycle weights).rotate (period * turn) = cycle weights := by
      rw [hPeriod, ← length_cycle, List.rotate_length_mul]
    rw [hAligned]
    exact Schedule.interleaved_rounds _ _

theorem weightedRoundRobinIndex_exact_sample :
    (∃ weight ∈ [4, 1], 0 < weight) ∧ ∃ hits : List Nat,
      (hits.map some = (List.range 5).map fun k => weightedRoundRobinIndex [4, 1] (10 + k)) ∧
      (∀ i, hits.count i = [4, 1].getD i 0 / 1) ∧ (∀ hit ∈ hits, 0 < [4, 1].getD hit 0) ∧
      (5 ∣ 10 → Schedule.Interleaved hits) :=
  ⟨⟨4, by decide, by decide⟩,
    weightedRoundRobinIndex_exact [4, 1] 10 ⟨4, by decide, by decide⟩⟩

end KongRust.Ai

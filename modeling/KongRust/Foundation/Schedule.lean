import Mathlib

/-!
# Interleaved rounds

Positions with weights take turns in rounds: a position is in the first rounds, as many as its
weight. The rounds one after the other are a schedule that has every position as often as its weight
says, and so is every window of the same length in its repetition.
-/

namespace KongRust.Schedule

/-- The positions from `first` on that take part in a round. -/
def row (weights : List Nat) (first round : Nat) : List Nat :=
  ((weights.zipIdx first).filter fun entry => round < entry.1).map Prod.snd

def rounds (weights : List Nat) (count : Nat) : List Nat :=
  (List.range count).flatMap (row weights 0)

/-- How many turns there are in the first rounds. -/
def turns (weights : List Nat) (round : Nat) : Nat := (weights.map fun w => min w round).sum

variable {weights : List Nat}

@[simp] theorem turns_zero : turns weights 0 = 0 := by
  simp [turns]

theorem turns_succ (first round : Nat) :
    turns weights (round + 1) = turns weights round + (row weights first round).length := by
  induction weights generalizing first with
  | nil => rfl
  | cons w weights ih =>
    have hTail := ih (first + 1)
    unfold turns row at hTail ⊢
    rw [List.zipIdx_cons, List.filter_cons]
    by_cases hIn : round < w
    · simp only [List.map_cons, List.sum_cons, hIn, decide_true, if_true, List.length_cons]
      omega
    · simp only [List.map_cons, List.sum_cons, hIn, decide_false, Bool.false_eq_true, if_false]
      omega

theorem turns_mono {round later : Nat} (h : round ≤ later) :
    turns weights round ≤ turns weights later := by
  induction later, h using Nat.le_induction with
  | base => exact Nat.le_refl _
  | succ later _ ih =>
    rw [turns_succ 0]
    omega

theorem turns_all {round : Nat} (h : ∀ w ∈ weights, w ≤ round) :
    turns weights round = weights.sum := by
  unfold turns
  rw [List.map_congr_left fun w hW => Nat.min_eq_left (h w hW), List.map_id']

theorem rounds_succ (count : Nat) :
    rounds weights (count + 1) = rounds weights count ++ row weights 0 count := by
  unfold rounds
  rw [List.range_succ, List.flatMap_append, List.flatMap_cons, List.flatMap_nil, List.append_nil]

theorem length_rounds (count : Nat) : (rounds weights count).length = turns weights count := by
  induction count with
  | zero => simp [rounds]
  | succ count ih => rw [rounds_succ, List.length_append, ih, ← turns_succ 0]

theorem rounds_getElem? {count round slot : Nat} (hRound : round < count)
    (hFrom : turns weights round ≤ slot) (hTo : slot < turns weights (round + 1)) :
    (rounds weights count)[slot]? = (row weights 0 round)[slot - turns weights round]? := by
  induction count with
  | zero => omega
  | succ count ih =>
    rw [rounds_succ]
    by_cases hLast : round = count
    · subst hLast
      rw [List.getElem?_append_right (by rw [length_rounds]; exact hFrom), length_rounds]
    · have hBefore : turns weights (round + 1) ≤ turns weights count := turns_mono (by omega)
      rw [List.getElem?_append_left (by rw [length_rounds]; omega), ih (by omega)]

/-- A position is in a round just if its weight reaches it. -/
theorem count_row (weights : List Nat) (first round i : Nat) :
    (row weights first round).count (first + i) =
    if round < weights.getD i 0 then 1 else 0 := by
  induction weights generalizing first i with
  | nil => simp [row]
  | cons w weights ih =>
    have hRow : row (w :: weights) first round =
        if round < w then first :: row weights (first + 1) round
        else row weights (first + 1) round := by
      unfold row
      rw [List.zipIdx_cons, List.filter_cons]
      by_cases hIn : round < w <;> simp [hIn]
    have hAbsent : first ∉ row weights (first + 1) round := by
      intro hMem
      obtain ⟨entry, hEntry, hIs⟩ := List.mem_map.mp hMem
      have hLow := List.le_snd_of_mem_zipIdx (List.mem_of_mem_filter hEntry)
      omega
    cases i with
    | zero =>
      rw [hRow, Nat.add_zero]
      by_cases hIn : round < w
      · simp [hIn, List.count_eq_zero.mpr hAbsent]
      · simp [hIn, List.count_eq_zero.mpr hAbsent]
    | succ i =>
      have hTail := ih (first + 1) i
      have hShift : first + (i + 1) = first + 1 + i := by omega
      have hNe : first ≠ first + 1 + i := by omega
      rw [hRow, hShift, List.getD_cons_succ, ← hTail]
      by_cases hIn : round < w
      · rw [if_pos hIn, List.count_cons_of_ne hNe]
      · rw [if_neg hIn]

theorem count_rounds (count i : Nat) :
    (rounds weights count).count i = min (weights.getD i 0) count := by
  induction count with
  | zero => simp [rounds]
  | succ count ih =>
    have hRow := count_row weights 0 count i
    rw [Nat.zero_add] at hRow
    rw [rounds_succ, List.count_append, ih, hRow]
    split <;> omega

/-! ## The order of the turns -/

/-- A turn that is a later one of its position comes behind every earlier turn of any position. -/
def Interleaved (hits : List Nat) : Prop :=
  ∀ p q i j, hits[p]? = some i → hits[q]? = some j →
    (hits.take p).count i < (hits.take q).count j → p < q

theorem count_row_take {round i p : Nat} (h : (row weights 0 round)[p]? = some i) :
    round < weights.getD i 0 ∧ ((row weights 0 round).take p).count i = 0 := by
  have hCount := count_row weights 0 round i
  have hMem : i ∈ row weights 0 round := List.mem_of_getElem? h
  have hPos := List.count_pos_iff.mpr hMem
  rw [Nat.zero_add] at hCount
  have hReached : round < weights.getD i 0 := by
    by_contra hNot
    rw [if_neg hNot] at hCount
    omega
  have hSplit := List.take_append_drop p (row weights 0 round)
  have hHead : (row weights 0 round).drop p = i :: (row weights 0 round).drop (p + 1) := by
    obtain ⟨hP, hI⟩ := List.getElem?_eq_some_iff.mp h
    rw [List.drop_eq_getElem_cons hP, hI]
  have hParts := congrArg (List.count i) hSplit
  rw [List.count_append, hHead, List.count_cons_self, hCount, if_pos hReached] at hParts
  exact ⟨hReached, by omega⟩

/-- How often a position had its turn before says which round a turn is in. -/
theorem turns_of_rounds {count p i : Nat} (h : (rounds weights count)[p]? = some i) :
    turns weights (((rounds weights count).take p).count i) ≤ p ∧
      p < turns weights (((rounds weights count).take p).count i + 1) := by
  induction count with
  | zero => cases h
  | succ count ih =>
    rw [rounds_succ] at h ⊢
    have hLength : (rounds weights count).length = turns weights count := length_rounds count
    by_cases hBefore : p < turns weights count
    · rw [List.getElem?_append_left (by omega)] at h
      rw [List.take_append_of_le_length (by omega)]
      exact ih h
    · rw [List.getElem?_append_right (by omega), hLength] at h
      obtain ⟨hReached, hNone⟩ := count_row_take h
      have hRank : ((rounds weights count ++ row weights 0 count).take p).count i = count := by
        rw [List.take_append, List.take_of_length_le (by omega), List.count_append, hLength, hNone,
          count_rounds]
        omega
      obtain ⟨hIn, -⟩ := List.getElem?_eq_some_iff.mp h
      rw [hRank, turns_succ 0]
      omega

theorem interleaved_rounds (weights : List Nat) (count : Nat) :
    Interleaved (rounds weights count) := by
  intro p q i j hP hQ hLess
  obtain ⟨-, hTo⟩ := turns_of_rounds hP
  obtain ⟨hFrom, -⟩ := turns_of_rounds hQ
  have hMono : turns weights (((rounds weights count).take p).count i + 1) ≤
      turns weights (((rounds weights count).take q).count j) := turns_mono hLess
  omega

/-! ## Drawing turns -/

section Drain

variable {α : Type} (pick : List α → Nat) (less : α → α)

/-- Draw turns one after the other; the position that is drawn has one turn less. -/
def drain : Nat → List α → List Nat
  | 0, _ => []
  | turns + 1, remaining => pick remaining :: drain turns (remaining.modify (pick remaining) less)

@[simp] theorem length_drain (turns : Nat) (remaining : List α) :
    (drain pick less turns remaining).length = turns := by
  induction turns generalizing remaining with
  | zero => rfl
  | succ turns ih => rw [drain, List.length_cons, ih]

variable {pick less} {amount : α → Nat}

theorem sum_modify {remaining : List α} {i : Nat} {x : α} (hIn : remaining[i]? = some x)
    (hLess : amount (less x) + 1 = amount x) :
    ((remaining.modify i less).map amount).sum + 1 = (remaining.map amount).sum := by
  induction remaining generalizing i with
  | nil => cases hIn
  | cons y remaining ih =>
    cases i with
    | zero =>
      cases hIn
      simp only [List.modify_zero_cons, List.map_cons, List.sum_cons]
      omega
    | succ i =>
      have hRest := ih hIn
      simp only [List.modify_succ_cons, List.map_cons, List.sum_cons]
      omega

theorem count_drain (hPick : ∀ remaining, 0 < (remaining.map amount).sum →
      ∃ x, remaining[pick remaining]? = some x ∧ amount (less x) + 1 = amount x)
    (remaining : List α) (i : Nat) :
    (drain pick less (remaining.map amount).sum remaining).count i =
      (remaining.map amount).getD i 0 := by
  generalize hTurns : (remaining.map amount).sum = turns
  induction turns generalizing remaining with
  | zero =>
    rw [drain, List.count_nil]
    by_cases hI : i < (remaining.map amount).length
    · rw [List.getD_eq_getElem _ _ hI]
      have hLe := List.single_le_sum (fun a _ => Nat.zero_le a) _ (List.getElem_mem hI)
      omega
    · rw [List.getD_eq_default _ _ (by omega)]
  | succ turns ih =>
    obtain ⟨x, hIn, hLess⟩ := hPick remaining (by omega)
    have hSum := sum_modify hIn hLess
    rw [drain, List.count_cons, ih _ (by omega)]
    simp only [List.getD_eq_getElem?_getD, List.getElem?_map, List.getElem?_modify]
    by_cases hDrawn : pick remaining = i
    · subst hDrawn
      simp only [hIn, if_true, Option.map_some, Option.getD_some, beq_self_eq_true]
      exact hLess
    · simp [hDrawn]

end Drain

/-! ## Windows -/

theorem window_rotate {α : Type} {cycle : List α} (start : Nat) :
    (List.range cycle.length).map (fun k => cycle[(start + k) % cycle.length]?) =
      (cycle.rotate start).map some := by
  apply List.ext_getElem
  · simp
  · intro k hLeft hRight
    have hK : k < cycle.length := by simpa using hLeft
    have hMod : (k + start) % cycle.length < cycle.length := Nat.mod_lt _ (by omega)
    simp only [List.getElem_map, List.getElem_range, List.getElem_rotate]
    rw [Nat.add_comm start k, List.getElem?_eq_getElem hMod]

theorem count_window {α : Type} [DecidableEq α] {cycle hits : List α} (start : Nat)
    (h : hits.map some =
      (List.range cycle.length).map fun k => cycle[(start + k) % cycle.length]?) (a : α) :
    hits.count a = cycle.count a := by
  rw [window_rotate] at h
  have hHits : hits = cycle.rotate start := (List.map_injective_iff.mpr (Option.some_injective α)) h
  rw [hHits]
  exact (List.rotate_perm cycle start).count_eq a

end KongRust.Schedule

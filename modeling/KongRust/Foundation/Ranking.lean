import Mathlib.Data.List.Sort
import Mathlib.Data.Prod.Lex
import Mathlib.Order.Compare

/-!
# Ranked scans

A scan of a list that is sorted by falling rank finds an element of the highest rank. The
comparators of such lists are chains of `Ordering.then`, which read as lexicographic orders.
-/

namespace KongRust.Ranking

variable {α β : Type*}

theorem then_ne_gt_iff [LinearOrder β] (x y : β) (rest : Ordering) :
    (compare x y).then rest ≠ .gt ↔ x < y ∨ x = y ∧ rest ≠ .gt := by
  rcases lt_trichotomy x y with hLt | hEq | hGt
  · simp [compare_lt_iff_lt.mpr hLt, hLt]
  · simp [hEq]
  · simp [compare_gt_iff_gt.mpr hGt, not_lt_of_gt hGt, (ne_of_gt hGt)]

/-! ## Nested scans as one scan -/

theorem findSome?_filterMap {γ : Type*} (g : α → Option β) (f : β → Option γ) (l : List α) :
    l.findSome? (fun a => (g a).bind f) = (l.filterMap g).findSome? f := by
  induction l with
  | nil => rfl
  | cons a l ih =>
    cases hg : g a with
    | none => simp [hg, ih]
    | some b => simp [List.findSome?_cons, hg, ih]

theorem findSome?_flatMap {γ : Type*} (g : α → List β) (f : β → Option γ) (l : List α) :
    l.findSome? (fun a => (g a).findSome? f) = (l.flatMap g).findSome? f := by
  induction l with
  | nil => rfl
  | cons a l ih =>
    rw [List.findSome?_cons, List.flatMap_cons, List.findSome?_append, ih]
    cases (g a).findSome? f <;> rfl

theorem findSome?_ite (p : α → Bool) (f : α → β) (l : List α) :
    l.findSome? (fun a => if p a then some (f a) else none) = (l.find? p).map f := by
  induction l with
  | nil => rfl
  | cons a l ih =>
    by_cases ha : p a
    · simp [ha]
    · simp [ha, ih]

/-! ## Sorted scans -/

theorem rank_le_of_find?_eq_some [Preorder β] {rank : α → β} {l : List α}
    (hSorted : l.Pairwise fun a b => rank b ≤ rank a) {p : α → Bool} {a : α}
    (hFind : l.find? p = some a) : ∀ b ∈ l, p b → rank b ≤ rank a := by
  induction l with
  | nil => simp at hFind
  | cons x l ih =>
    obtain ⟨hHead, hTail⟩ := List.pairwise_cons.mp hSorted
    by_cases hx : p x
    · have ha : x = a := by simpa [List.find?_cons, hx] using hFind
      intro b hb _
      rcases List.mem_cons.mp hb with rfl | hb
      · exact (congrArg rank ha).le
      · exact ha ▸ hHead b hb
    · have hFind' : l.find? p = some a := by simpa [List.find?_cons, hx] using hFind
      intro b hb hpb
      rcases List.mem_cons.mp hb with rfl | hb
      · exact absurd hpb hx
      · exact ih hTail hFind' b hb hpb

theorem pairwise_insertionSort_rank [LinearOrder β] {rank : α → β} (r : α → α → Prop)
    [DecidableRel r] (hr : ∀ a b, r a b ↔ rank b ≤ rank a) (l : List α) :
    (l.insertionSort r).Pairwise fun a b => rank b ≤ rank a := by
  have hTotal : Std.Total r := ⟨fun a b => by
    rw [hr, hr]
    exact le_total _ _⟩
  have hTrans : IsTrans α r := ⟨fun a b c hab hbc => by
    rw [hr] at *
    exact hbc.trans hab⟩
  exact (List.pairwise_insertionSort r l).imp fun {a b} h => (hr a b).mp h

/-- A scan of a list that is sorted by falling rank finds the first of the elements of the highest
rank, in the order that they had. -/
theorem find?_insertionSort_eq_some [LinearOrder β] {rank : α → β} (r : α → α → Prop)
    [DecidableRel r] (hr : ∀ a b, r a b ↔ rank b ≤ rank a) {l : List α} {p : α → Bool} {a : α} :
    (l.insertionSort r).find? p = some a ↔ ∃ before after, l = before ++ a :: after ∧ p a ∧
      (∀ b ∈ before, p b → rank b < rank a) ∧ ∀ b ∈ after, p b → rank b ≤ rank a := by
  -- the elements of one rank keep their order
  have hBucket (k : β) : (l.insertionSort r).filter (fun b => p b && decide (rank b = k)) =
      l.filter fun b => p b && decide (rank b = k) := by
    have hPairs : (l.filter fun b => p b && decide (rank b = k)).Pairwise r := by
      refine List.pairwise_of_forall_mem_list fun b hB c hC => (hr b c).mpr ?_
      simp only [List.mem_filter, Bool.and_eq_true, decide_eq_true_eq] at hB hC
      exact (hC.2.2.trans hB.2.2.symm).le
    have hKept := (List.sublist_insertionSort hPairs List.filter_sublist).filter
      fun b => p b && decide (rank b = k)
    rw [List.filter_filter] at hKept
    simp only [Bool.and_self] at hKept
    exact (hKept.eq_of_length
      ((List.perm_insertionSort r l).filter _).length_eq.symm).symm
  have hTop {a : α} (h : (l.insertionSort r).find? p = some a) : p a ∧
      (∀ b ∈ l, p b → rank b ≤ rank a) ∧
        l.find? (fun b => p b && decide (rank b = rank a)) = some a := by
    have hRank := rank_le_of_find?_eq_some (pairwise_insertionSort_rank r hr l) h
    obtain ⟨hMeets, before, after, hSplit, hBefore⟩ := List.find?_eq_some_iff_append.mp h
    refine ⟨hMeets, fun b hB => hRank b ((List.mem_insertionSort r).mpr hB), ?_⟩
    rw [← List.head?_filter, ← hBucket, List.head?_filter, List.find?_eq_some_iff_append]
    exact ⟨by simp [hMeets], before, after, hSplit, fun b hB => by simp [hBefore b hB]⟩
  constructor
  · intro h
    obtain ⟨hMeets, hRank, hFirst⟩ := hTop h
    obtain ⟨-, before, after, rfl, hBefore⟩ := List.find?_eq_some_iff_append.mp hFirst
    refine ⟨before, after, rfl, hMeets, fun b hB hB' => ?_, fun b hB => hRank b (by simp [hB])⟩
    refine lt_of_le_of_ne (hRank b (by simp [hB]) hB') fun hSame => ?_
    simpa [hB', hSame] using hBefore b hB
  · rintro ⟨before, after, hSplit, hMeets, hBefore, hAfter⟩
    have hMem : a ∈ l := by simp [hSplit]
    cases hFind : (l.insertionSort r).find? p with
    | none =>
      exact absurd hMeets (List.find?_eq_none.mp hFind a ((List.mem_insertionSort r).mpr hMem))
    | some c =>
      obtain ⟨hC, hRank, hFirst⟩ := hTop hFind
      have hIn : c ∈ l := List.mem_of_find?_eq_some hFirst
      have hSame : rank c = rank a := by
        refine le_antisymm ?_ (hRank a hMem hMeets)
        rw [hSplit] at hIn
        rcases List.mem_append.mp hIn with hIn | hIn
        · exact (hBefore c hIn hC).le
        · rcases List.mem_cons.mp hIn with rfl | hIn
          · exact le_rfl
          · exact hAfter c hIn hC
      rw [hSame, List.find?_eq_some_iff_append.mpr ⟨by simpa using hMeets, before, after, hSplit,
        fun b hB => ?_⟩] at hFirst
      · exact hFirst.symm
      · cases hB' : p b with
        | false => rfl
        | true => simpa using (hBefore b hB hB').ne

end KongRust.Ranking

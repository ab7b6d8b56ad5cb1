import Mathlib

/-!
# The last entry wins

A map that is filled from a list keeps the last entry of each key, and a stable sort by a rank
keeps the order within a rank. So the last element of the sorted list that meets a condition is the
last one of the highest rank at which the condition is met.
-/

namespace KongRust.Latest

/-! ## Maps filled from a list -/

section Maps

variable {κ α : Type*} [DecidableEq κ] (entries : List (κ × α))

/-- `entries.into_iter().collect::<HashMap<_, _>>()`. -/
def collect (entries : List (κ × α)) : AList fun _ : κ => α :=
  entries.foldl (fun map entry => map.insert entry.1 entry.2) ∅

theorem lookup_foldl_insert (map : AList fun _ : κ => α) (key : κ) :
    (entries.foldl (fun map entry => map.insert entry.1 entry.2) map).lookup key =
      (((entries.filter fun entry => entry.1 = key).getLast?).map Prod.snd).or
        (map.lookup key) := by
  induction entries using List.reverseRecOn with
  | nil => rfl
  | append_singleton entries last ih =>
    rw [List.foldl_append, List.foldl_cons, List.foldl_nil, List.filter_append]
    by_cases hKey : last.1 = key
    · have hLast : [last].filter (fun entry => entry.1 = key) = [last] := by simp [hKey]
      rw [hLast, List.getLast?_concat, ← hKey, AList.lookup_insert]
      rfl
    · have hLast : [last].filter (fun entry => entry.1 = key) = [] := by simp [hKey]
      rw [hLast, List.append_nil, AList.lookup_insert_ne (Ne.symm hKey), ih]

theorem lookup_collect (key : κ) : (collect entries).lookup key =
      ((entries.filter fun entry => entry.1 = key).getLast?).map Prod.snd := by
  unfold collect
  rw [lookup_foldl_insert]
  exact Option.or_none

theorem lookup_collect_filterMap (items : List α) (keyOf : α → Option κ) (key : κ) :
    (collect (items.filterMap fun a => (keyOf a).map fun k => (k, a))).lookup key =
      (items.filter fun a => keyOf a = some key).getLast? := by
  have hEntries : (items.filterMap fun a => (keyOf a).map fun k => (k, a)).filter
      (fun entry => entry.1 = key) =
        (items.filter fun a => keyOf a = some key).map fun a => (key, a) := by
    induction items with
    | nil => rfl
    | cons a items ih =>
      cases hKey : keyOf a with
      | none =>
        rw [List.filterMap_cons_none (by rw [hKey]; rfl),
          List.filter_cons_of_neg (by simp [hKey]), ih]
      | some k =>
        rw [List.filterMap_cons_some (by rw [hKey]; rfl)]
        by_cases hSame : k = key
        · rw [List.filter_cons_of_pos (by simpa using hSame),
            List.filter_cons_of_pos (by simp [hKey, hSame]), List.map_cons, ih, hSame]
        · rw [List.filter_cons_of_neg (by simpa using hSame),
            List.filter_cons_of_neg (by simp [hKey, hSame]), ih]
  rw [lookup_collect, hEntries, List.getLast?_map, Option.map_map]
  exact Option.map_id'

theorem getD_lookup_foldl {β : Type*} (items : List α) (keyOf : α → κ) (start : β)
    (step : β → α → β) (key : κ) :
    ((items.foldl (fun (map : AList fun _ : κ => β) a =>
        map.insert (keyOf a) (step ((map.lookup (keyOf a)).getD start) a)) ∅).lookup key).getD
      start = (items.filter fun a => keyOf a = key).foldl step start := by
  induction items using List.reverseRecOn with
  | nil => rfl
  | append_singleton items a ih =>
    rw [List.foldl_append, List.foldl_cons, List.foldl_nil, List.filter_append, List.foldl_append]
    by_cases hKey : keyOf a = key
    · subst hKey
      rw [AList.lookup_insert, Option.getD_some, ih, List.filter_cons_of_pos (by simp)]
      rfl
    · rw [AList.lookup_insert_ne (Ne.symm hKey), ih, List.filter_cons_of_neg (by simpa using hKey)]
      rfl

end Maps

/-! ## Stable sorts -/

section Sorts

variable {α : Type*} (rank : α → Nat) (items : List α)

/-- `items.sort_by_key(rank)`. -/
def sortByKey (items : List α) : List α :=
  items.mergeSort fun a b => decide (rank a ≤ rank b)

theorem pairwise_sortByKey : (sortByKey rank items).Pairwise fun a b => rank a ≤ rank b := by
  have hSorted := @List.pairwise_mergeSort α (fun a b => decide (rank a ≤ rank b))
    (fun a b c hab hbc => by
      simp only [decide_eq_true_eq] at hab hbc ⊢
      omega)
    (fun a b => by
      simp only [Bool.or_eq_true, decide_eq_true_eq]
      omega) items
  exact hSorted.imp fun h => of_decide_eq_true h

theorem mem_sortByKey {items : List α} {a : α} : a ∈ sortByKey rank items ↔ a ∈ items :=
  (List.mergeSort_perm _ _).mem_iff

theorem filter_sortByKey (k : Nat) :
    (sortByKey rank items).filter (fun a => rank a = k) =
      items.filter fun a => rank a = k := by
  have hPairs : (items.filter fun a => rank a = k).Pairwise fun a b =>
      decide (rank a ≤ rank b) = true := by
    refine List.pairwise_of_forall_mem_list fun a hA b hB => ?_
    have hA' := of_decide_eq_true (List.mem_filter.mp hA).2
    have hB' := of_decide_eq_true (List.mem_filter.mp hB).2
    exact decide_eq_true (by omega)
  have hSublist : (items.filter fun a => rank a = k).Sublist (sortByKey rank items) :=
    List.sublist_mergeSort
      (fun a b c hab hbc => by
        simp only [decide_eq_true_eq] at hab hbc ⊢
        omega)
      (fun a b => by
        simp only [Bool.or_eq_true, decide_eq_true_eq]
        omega) hPairs List.filter_sublist
  have hFiltered := hSublist.filter fun a => decide (rank a = k)
  have hTwice : (items.filter fun a => rank a = k).filter (fun a => rank a = k) =
      items.filter fun a => rank a = k := by
    rw [List.filter_filter]
    simp only [Bool.and_self]
  rw [hTwice] at hFiltered
  have hPerm := (List.mergeSort_perm items fun a b => decide (rank a ≤ rank b)).filter
    fun a => decide (rank a = k)
  exact (hFiltered.eq_of_length hPerm.length_eq.symm).symm

theorem filter_lt_append {sorted : List α} (h : sorted.Pairwise fun a b => rank a ≤ rank b)
    (k : Nat) :
    (sorted.filter fun a => rank a < k) ++ (sorted.filter fun a => k ≤ rank a) = sorted := by
  induction sorted with
  | nil => rfl
  | cons first sorted ih =>
    rw [List.pairwise_cons] at h
    by_cases hFirst : rank first < k
    · have hNot : ¬k ≤ rank first := by omega
      rw [List.filter_cons_of_pos (by simpa using hFirst),
        List.filter_cons_of_neg (by simpa using hFirst), List.cons_append, ih h.2]
    · have hLow : sorted.filter (fun a => rank a < k) = [] := by
        rw [List.filter_eq_nil_iff]
        intro a hA
        have := h.1 a hA
        simp only [decide_eq_true_eq]
        omega
      have hHigh : sorted.filter (fun a => k ≤ rank a) = sorted := by
        rw [List.filter_eq_self]
        intro a hA
        have := h.1 a hA
        simp only [decide_eq_true_eq]
        omega
      rw [List.filter_cons_of_neg (by simpa using hFirst),
        List.filter_cons_of_pos (by simpa using hFirst), hLow, hHigh]
      rfl

theorem getLast?_filter_sortByKey (p : α → Bool) (k : Nat)
    (h : ∀ a ∈ items, p a = true → rank a ≤ k) :
    ((sortByKey rank items).filter p).getLast? =
      ((items.filter fun a => p a && decide (rank a = k)).getLast?).or
        (((sortByKey rank items).filter fun a => p a && decide (rank a < k)).getLast?) := by
  have hSorted := (pairwise_sortByKey rank items).filter p
  have hTop : ((sortByKey rank items).filter p).filter (fun a => k ≤ rank a) =
      items.filter fun a => p a && decide (rank a = k) := by
    have hBucket := congrArg (List.filter p) (filter_sortByKey rank items k)
    rw [List.filter_filter, List.filter_filter] at hBucket
    rw [← hBucket, List.filter_filter]
    refine List.filter_congr fun a hA => ?_
    rw [Bool.eq_iff_iff]
    simp only [Bool.and_eq_true, decide_eq_true_eq]
    constructor
    · rintro ⟨hHigh, hMeets⟩
      exact ⟨hMeets, Nat.le_antisymm (h a ((mem_sortByKey rank).mp hA) hMeets) hHigh⟩
    · rintro ⟨hMeets, hRank⟩
      exact ⟨hRank.ge, hMeets⟩
  have hLow : ((sortByKey rank items).filter p).filter (fun a => rank a < k) =
      (sortByKey rank items).filter fun a => p a && decide (rank a < k) := by
    rw [List.filter_filter]
    refine List.filter_congr fun a _ => Bool.and_comm _ _
  rw [← filter_lt_append rank hSorted k, List.getLast?_append, hTop, hLow]

theorem findSome?_eq_of_forall {β : Type*} {f g : Nat → Option β} {ks : List Nat}
    (h : ∀ k ∈ ks, f k = g k) : ks.findSome? f = ks.findSome? g := by
  induction ks with
  | nil => rfl
  | cons k ks ih =>
    rw [List.findSome?_cons, List.findSome?_cons, h k List.mem_cons_self,
      ih fun other hOther => h other (List.mem_cons_of_mem _ hOther)]

/-- The last element that meets a condition is the last one of the highest rank. -/
theorem getLast?_sortByKey (p : α → Bool) (n : Nat) (h : ∀ a ∈ items, p a = true → rank a < n) :
    ((sortByKey rank items).filter p).getLast? = (List.range n).reverse.findSome? fun k =>
        (items.filter fun a => p a && decide (rank a = k)).getLast? := by
  induction n generalizing p with
  | zero =>
    have hNone : (sortByKey rank items).filter p = [] := by
      rw [List.filter_eq_nil_iff]
      intro a hA hMeets
      exact absurd (h a ((mem_sortByKey rank).mp hA) hMeets) (Nat.not_lt_zero _)
    rw [hNone]
    rfl
  | succ n ih =>
    have hBelow : (List.range n).reverse.findSome? (fun k =>
        (items.filter fun a => (p a && decide (rank a < n)) && decide (rank a = k)).getLast?) =
          (List.range n).reverse.findSome? fun k =>
            (items.filter fun a => p a && decide (rank a = k)).getLast? := by
      refine findSome?_eq_of_forall fun k hK => ?_
      have hLess : k < n := List.mem_range.mp (List.mem_reverse.mp hK)
      congr 1
      refine List.filter_congr fun a _ => ?_
      rw [Bool.eq_iff_iff]
      simp only [Bool.and_eq_true, decide_eq_true_eq]
      constructor
      · rintro ⟨⟨hMeets, -⟩, hRank⟩
        exact ⟨hMeets, hRank⟩
      · rintro ⟨hMeets, rfl⟩
        exact ⟨⟨hMeets, hLess⟩, rfl⟩
    have hAtMost : ∀ a ∈ items, p a = true → rank a ≤ n := fun a hA hMeets =>
      Nat.le_of_lt_succ (h a hA hMeets)
    rw [getLast?_filter_sortByKey rank items p n hAtMost,
      ih (fun a => p a && decide (rank a < n)) ?_, hBelow, List.range_succ, List.reverse_append,
      List.reverse_singleton, List.singleton_append, List.findSome?_cons]
    · cases (items.filter fun a => p a && decide (rank a = n)).getLast? <;> rfl
    · intro a _ hMeets
      rw [Bool.and_eq_true] at hMeets
      exact of_decide_eq_true hMeets.2

variable {items}

theorem getLast?_filter_eq_some {p : α → Bool} {a : α} : (items.filter p).getLast? = some a ↔
    ∃ front later, items = front ++ a :: later ∧ p a ∧ ∀ b ∈ later, p b = false := by
  rw [List.getLast?_eq_head?_reverse, ← List.filter_reverse, List.head?_filter,
    List.find?_eq_some_iff_append]
  constructor
  · rintro ⟨hA, later, front, hSplit, hLater⟩
    refine ⟨front.reverse, later.reverse, ?_, hA, fun b hB => ?_⟩
    · have hItems := congrArg List.reverse hSplit
      simpa using hItems
    · simpa using hLater b (List.mem_reverse.mp hB)
  · rintro ⟨front, later, rfl, hA, hLater⟩
    exact ⟨hA, later.reverse, front.reverse, by simp, fun b hB => by
      simp [hLater b (List.mem_reverse.mp hB)]⟩

/-- The last element that meets a condition: none before it is of a higher rank, and those behind it
are of lower ranks. -/
theorem getLast?_sortByKey_eq_some {p : α → Bool} {a : α} :
    ((sortByKey rank items).filter p).getLast? = some a ↔
      ∃ front later, items = front ++ a :: later ∧ p a ∧
        (∀ b ∈ front, p b → rank b ≤ rank a) ∧ ∀ b ∈ later, p b → rank b < rank a := by
  constructor
  · intro hLast
    have hMem := List.mem_filter.mp (List.mem_of_getLast? hLast)
    have hTop : ∀ b ∈ items, p b = true → rank b ≤ rank a := by
      intro b hB hMeets
      have hSorted := (pairwise_sortByKey rank items).filter p
      obtain ⟨others, hOthers⟩ := List.getLast?_eq_some_iff.mp hLast
      have hIn : b ∈ (sortByKey rank items).filter p :=
        List.mem_filter.mpr ⟨(mem_sortByKey rank).mpr hB, hMeets⟩
      rw [hOthers] at hSorted hIn
      rcases List.mem_append.mp hIn with hOther | hSame
      · exact (List.pairwise_append.mp hSorted).2.2 b hOther a List.mem_cons_self
      · rw [List.mem_singleton.mp hSame]
    rw [getLast?_filter_sortByKey rank items p (rank a) hTop, Option.or_eq_some_iff] at hLast
    rcases hLast with hBucket | ⟨hNone, -⟩
    · obtain ⟨front, later, rfl, -, hLater⟩ := getLast?_filter_eq_some.mp hBucket
      refine ⟨front, later, rfl, hMem.2, fun b hB => hTop b (by simp [hB]), fun b hB hMeets => ?_⟩
      refine lt_of_le_of_ne (hTop b (by simp [hB]) hMeets) fun hSame => ?_
      simpa [hMeets, hSame] using hLater b hB
    · rw [List.getLast?_eq_none_iff, List.filter_eq_nil_iff] at hNone
      exact absurd (by simpa using hMem.2) (hNone a ((mem_sortByKey rank).mp hMem.1))
  · rintro ⟨front, later, rfl, hA, hFront, hLater⟩
    have hTop : ∀ b ∈ front ++ a :: later, p b = true → rank b ≤ rank a := by
      intro b hB hMeets
      rcases List.mem_append.mp hB with hB | hB
      · exact hFront b hB hMeets
      · rcases List.mem_cons.mp hB with rfl | hB
        · exact le_rfl
        · exact (hLater b hB hMeets).le
    rw [getLast?_filter_sortByKey rank _ p (rank a) hTop, getLast?_filter_eq_some.mpr
      ⟨front, later, rfl, by simpa using hA, fun b hB => ?_⟩, Option.some_or]
    cases hMeets : p b with
    | false => rfl
    | true => simpa using (hLater b hB hMeets).ne

end Sorts

end KongRust.Latest

import Mathlib

/-!
# Finite tables

Maps are association lists with distinct keys. `retain` keeps the entries that pass a test;
`total` adds up a weight over all entries, and its lemmas say how inserting, replacing and
retaining entries move the total.
-/

namespace KongRust.Table

variable {κ V : Type*} [DecidableEq κ]

/-- `HashMap::retain`, for a test of the value. -/
def retain (keep : V → Bool) (m : AList fun _ : κ => V) : AList fun _ : κ => V :=
  ⟨m.entries.filter fun entry => keep entry.2, m.nodupKeys.sublist List.filter_sublist⟩

/-- Change the values that pass a test. -/
def update (cond : V → Bool) (change : V → V) (m : AList fun _ : κ => V) : AList fun _ : κ => V :=
  ⟨m.entries.map fun entry => ⟨entry.1, if cond entry.2 then change entry.2 else entry.2⟩, by
    have h := m.nodupKeys
    unfold List.NodupKeys List.keys at h ⊢
    simpa [List.map_map, Function.comp_def] using h⟩

/-- The sum of a weight over the values of a table. -/
def total (weight : V → Nat) (m : AList fun _ : κ => V) : Nat :=
  (m.entries.map fun entry => weight entry.2).sum

theorem filter_eq_self {o : Option V} {keep : V → Bool} (h : ∀ v, o = some v → keep v) :
    o.filter keep = o := by
  cases o with
  | none => rfl
  | some v => simp [h v rfl]

variable {m : AList fun _ : κ => V} {k k' : κ} {v w : V} {weight : V → Nat}

theorem lookup_eq_some_iff : m.lookup k = some v ↔ (⟨k, v⟩ : Sigma fun _ : κ => V) ∈ m.entries :=
  List.mem_dlookup_iff m.nodupKeys

theorem lookup_insert_cases (h : (m.insert k v).lookup k' = some w) :
    (k' = k ∧ w = v) ∨ (k' ≠ k ∧ m.lookup k' = some w) := by
  by_cases hk : k' = k
  · subst hk
    rw [AList.lookup_insert] at h
    exact .inl ⟨rfl, (Option.some.inj h).symm⟩
  · rw [AList.lookup_insert_ne hk] at h
    exact .inr ⟨hk, h⟩

theorem lookup_insert_ne_none
    (h : m.lookup k' ≠ none) : (m.insert k v).lookup k' ≠ none := by
  by_cases hk : k' = k
  · rw [hk, AList.lookup_insert]
    simp
  · rw [AList.lookup_insert_ne hk]
    exact h

theorem lookup_insert_comm (h : k ≠ k') (i : κ) :
    ((m.insert k v).insert k' w).lookup i = ((m.insert k' w).insert k v).lookup i := by
  by_cases hk : i = k
  · subst hk
    rw [AList.lookup_insert_ne h, AList.lookup_insert, AList.lookup_insert]
  · by_cases hk' : i = k'
    · subst hk'
      rw [AList.lookup_insert, AList.lookup_insert_ne hk, AList.lookup_insert]
    · rw [AList.lookup_insert_ne hk', AList.lookup_insert_ne hk, AList.lookup_insert_ne hk,
        AList.lookup_insert_ne hk']

variable {keep cond : V → Bool} {change : V → V}

theorem lookup_retain : (retain keep m).lookup k = (m.lookup k).filter keep := by
  ext v
  rw [lookup_eq_some_iff, Option.filter_eq_some_iff, lookup_eq_some_iff]
  exact List.mem_filter

omit [DecidableEq κ] in
theorem total_congr {weight' : V → Nat}
    (h : ∀ entry ∈ m.entries, weight entry.2 = weight' entry.2) :
    total weight m = total weight' m := by
  rw [total, total, List.map_congr_left h]

theorem total_insert
    (h : m.lookup k = none) : total weight (m.insert k v) = weight v + total weight m := by
  have hFresh : k ∉ m := AList.lookup_eq_none.mp h
  rw [total, AList.entries_insert_of_notMem hFresh]
  simp [total]

theorem sum_kerase (weight : V → Nat) {l : List (Sigma fun _ : κ => V)} {k : κ} {v : V}
    (hNodup : l.NodupKeys) (h : (⟨k, v⟩ : Sigma fun _ : κ => V) ∈ l) :
    ((l.kerase k).map fun entry => weight entry.2).sum + weight v =
      (l.map fun entry => weight entry.2).sum := by
  induction l with
  | nil => simp at h
  | cons entry l ih =>
    obtain ⟨hFresh, hNodup⟩ := List.nodupKeys_cons.mp hNodup
    by_cases hk : k = entry.1
    · obtain ⟨k', v'⟩ := entry
      obtain rfl : k = k' := hk
      have hv : v = v' := by
        rcases List.mem_cons.mp h with hHead | hTail
        · simpa using hHead
        · exact absurd (List.mem_keys_of_mem hTail) hFresh
      subst hv
      have hErase : List.kerase k (⟨k, v⟩ :: l) = l :=
        List.kerase_cons_eq (s := (⟨k, v⟩ : Sigma fun _ : κ => V)) rfl
      rw [hErase]
      simp [Nat.add_comm]
    · have hTail : (⟨k, v⟩ : Sigma fun _ : κ => V) ∈ l := by
        rcases List.mem_cons.mp h with hHead | hTail
        · exact absurd (congrArg Sigma.fst hHead) hk
        · exact hTail
      rw [List.kerase_cons_ne hk, List.map_cons, List.map_cons, List.sum_cons, List.sum_cons,
        ← ih hNodup hTail]
      omega

theorem total_replace (h : m.lookup k = some v) :
    total weight (m.insert k w) + weight v = weight w + total weight m := by
  have hErase := sum_kerase weight m.nodupKeys (lookup_eq_some_iff.mp h)
  rw [total, total, AList.entries_insert, ← hErase]
  simp only [List.map_cons, List.sum_cons]
  omega

theorem total_erase
    (h : m.lookup k = some v) : total weight (m.erase k) + weight v = total weight m :=
  sum_kerase weight m.nodupKeys (lookup_eq_some_iff.mp h)

theorem erase_insert (m : AList fun _ : κ => V) (k : κ) (v : V) :
    (m.insert k v).erase k = m.erase k := by
  apply AList.ext
  change List.kerase k (⟨k, v⟩ :: List.kerase k m.entries) = List.kerase k m.entries
  exact List.kerase_cons_eq (s := (⟨k, v⟩ : Sigma fun _ : κ => V)) rfl

omit [DecidableEq κ] in
theorem length_entries (m : AList fun _ : κ => V) : m.entries.length = total (fun _ => 1) m := by
  simp [total]

omit [DecidableEq κ] in
theorem eq_empty_of_entries (h : m.entries = []) : m = ∅ := by
  obtain ⟨entries, hNodup⟩ := m
  obtain rfl : entries = [] := h
  rfl

theorem weight_le_total (weight : V → Nat)
    (h : m.lookup k = some v) : weight v ≤ total weight m := by
  have hErase := sum_kerase weight m.nodupKeys (lookup_eq_some_iff.mp h)
  rw [total, ← hErase]
  omega

omit [DecidableEq κ] in
theorem total_add (f g : V → Nat) (m : AList fun _ : κ => V) :
    total (fun v => f v + g v) m = total f m + total g m := by
  unfold total
  induction m.entries with
  | nil => rfl
  | cons entry l ih =>
    simp only [List.map_cons, List.sum_cons, ih]
    omega

theorem total_eq_zero_iff :
    total weight m = 0 ↔ ∀ k v, m.lookup k = some v → weight v = 0 := by
  constructor
  · intro hTotal k v hLookup
    have hLe := weight_le_total weight hLookup
    omega
  · intro hZero
    have hConst : total weight m = total (fun _ => 0) m := total_congr fun entry hEntry =>
      hZero entry.1 entry.2 (lookup_eq_some_iff.mpr hEntry)
    rw [hConst]
    simp [total]

theorem lookup_update : (update cond change m).lookup k =
      (m.lookup k).map fun v => if cond v then change v else v := by
  ext v
  simp only [lookup_eq_some_iff, Option.map_eq_some_iff, update, List.mem_map]
  constructor
  · rintro ⟨⟨k', v'⟩, hMem, hEntry⟩
    cases hEntry
    exact ⟨v', lookup_eq_some_iff.mp (lookup_eq_some_iff.mpr hMem), rfl⟩
  · rintro ⟨v', hMem, rfl⟩
    exact ⟨⟨k, v'⟩, hMem, rfl⟩

theorem lookup_update_insert (h : ¬ cond v) (i : κ) : (update cond change (m.insert k v)).lookup i =
      ((update cond change m).insert k v).lookup i := by
  by_cases hk : i = k
  · subst hk
    rw [lookup_update, AList.lookup_insert, AList.lookup_insert, Option.map_some, if_neg h]
  · rw [lookup_update, AList.lookup_insert_ne hk, AList.lookup_insert_ne hk, lookup_update]

omit [DecidableEq κ] in
theorem sum_filter (cond : V → Bool) (weight : V → Nat) (m : AList fun _ : κ => V) :
    (((m.entries.map Sigma.snd).filter cond).map weight).sum =
      total (fun v => if cond v then weight v else 0) m := by
  unfold total
  induction m.entries with
  | nil => rfl
  | cons entry l ih =>
    cases hCond : cond entry.2 with
    | true | false => simp [hCond, ih]

omit [DecidableEq κ] in
theorem total_retain_add (weight : V → Nat) (keep : V → Bool) (m : AList fun _ : κ => V) :
    total weight (retain keep m) +
        (((m.entries.map Sigma.snd).filter fun v => !keep v).map weight).sum =
      total weight m := by
  change ((m.entries.filter fun entry => keep entry.2).map fun entry => weight entry.2).sum + _ =
    (m.entries.map fun entry => weight entry.2).sum
  induction m.entries with
  | nil => rfl
  | cons entry l ih =>
    cases hKeep : keep entry.2 with
    | true =>
      simp only [List.filter_cons, hKeep, if_true, List.map_cons, List.sum_cons, Bool.not_true,
        Bool.false_eq_true, if_false] at ih ⊢
      omega
    | false =>
      simp only [List.filter_cons, hKeep, if_true, List.map_cons, List.sum_cons, Bool.not_false,
        Bool.false_eq_true, if_false] at ih ⊢
      omega

theorem total_retain (h : ∀ k v, m.lookup k = some v → keep v = false → weight v = 0) :
    total weight (retain keep m) = total weight m := by
  have hDropped : (((m.entries.map Sigma.snd).filter fun v => !keep v).map weight).sum = 0 := by
    rw [sum_filter, total_eq_zero_iff]
    intro k v hLookup
    cases hKeep : keep v with
    | true => rfl
    | false => exact h k v hLookup hKeep
  rw [← total_retain_add weight keep m, hDropped, Nat.add_zero]

theorem countP_eq_sum (cond : V → Bool) (l : List V) :
    l.countP cond = (l.map fun v => if cond v then 1 else 0).sum := by
  induction l with
  | nil => rfl
  | cons v l ih => rw [List.countP_cons, ih, List.map_cons, List.sum_cons, Nat.add_comm]

/-! ## Edits

An edit takes some values out of a table and puts others in. It moves every total by what the
values weigh, so a counter that follows the edit keeps following the total. -/

/-- `m'` is `m` with the values `olds` replaced by the values `news`. -/
structure Edit (m m' : AList fun _ : κ => V) (olds news : List V) : Prop where
  total : ∀ weight, total weight m' + (olds.map weight).sum = (news.map weight).sum + total weight m
  lookup : ∀ k v, m'.lookup k = some v → m.lookup k = some v ∨ v ∈ news

namespace Edit

variable {m m' m'' : AList fun _ : κ => V} {olds news olds' news' : List V} {k : κ} {v w : V}

theorem refl (m : AList fun _ : κ => V) : Edit m m [] [] where
  total weight := by simp
  lookup k v hLookup := .inl hLookup

theorem insert (h : m.lookup k = none) : Edit m (m.insert k v) [] [v] where
  total weight := by simp [total_insert h]
  lookup k' v' hLookup := by
    rcases lookup_insert_cases hLookup with ⟨-, rfl⟩ | ⟨-, hOld⟩
    · exact .inr (by simp)
    · exact .inl hOld

theorem replace (h : m.lookup k = some v) : Edit m (m.insert k w) [v] [w] where
  total weight := by simpa using total_replace h
  lookup k' v' hLookup := by
    rcases lookup_insert_cases hLookup with ⟨-, rfl⟩ | ⟨-, hOld⟩
    · exact .inr (by simp)
    · exact .inl hOld

theorem trans (h : Edit m m' olds news) (h' : Edit m' m'' olds' news') :
    Edit m m'' (olds ++ olds') (news ++ news') where
  total weight := by
    have h₁ := h.total weight
    have h₂ := h'.total weight
    simp only [List.map_append, List.sum_append]
    omega
  lookup k v hLookup := by
    rcases h'.lookup k v hLookup with hLookup | hNew
    · rcases h.lookup k v hLookup with hLookup | hNew
      · exact .inl hLookup
      · exact .inr (List.mem_append_left _ hNew)
    · exact .inr (List.mem_append_right _ hNew)

theorem update (cond : V → Bool) (change : V → V) (m : AList fun _ : κ => V) :
    Edit m (update cond change m) ((m.entries.map Sigma.snd).filter cond)
      (((m.entries.map Sigma.snd).filter cond).map change) where
  total weight := by
    simp only [Table.update, Table.total, List.map_map]
    induction m.entries with
    | nil => rfl
    | cons entry l ih =>
      cases hCond : cond entry.2 with
      | true =>
        simp only [List.map_cons, List.sum_cons, List.filter_cons, hCond, if_true,
          Function.comp_apply] at ih ⊢
        omega
      | false =>
        simp only [List.map_cons, List.sum_cons, List.filter_cons, hCond, Bool.false_eq_true,
          if_false, Function.comp_apply] at ih ⊢
        omega
  lookup k v hLookup := by
    rw [lookup_update] at hLookup
    obtain ⟨v', hFound, hValue⟩ := Option.map_eq_some_iff.mp hLookup
    split at hValue
    · next hCond =>
      subst hValue
      refine .inr (List.mem_map_of_mem (List.mem_filter.mpr ⟨?_, hCond⟩))
      exact List.mem_map.mpr ⟨_, lookup_eq_some_iff.mp hFound, rfl⟩
    · subst hValue
      exact .inl hFound

end Edit

end KongRust.Table

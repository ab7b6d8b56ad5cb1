import Mathlib.Data.List.Basic
import Mathlib.Data.List.Nodup
import Mathlib.Data.List.Induction

/-!
# Grouping by key

The loop `map.entry(k).or_default().push(v)` over a list of pairs. The groups have distinct
keys, and each group holds exactly the values of its key, in the order of the list.
-/

namespace KongRust.Grouping

variable {κ β : Type*} [DecidableEq κ]

/-- `map.entry(k).or_default().push(v)`. -/
def push (k : κ) (v : β) : List (κ × List β) → List (κ × List β)
  | [] => [(k, [v])]
  | (k', vs) :: rest => if k' = k then (k', vs ++ [v]) :: rest else (k', vs) :: push k v rest

/-- The groups of a list of pairs. -/
def group (pairs : List (κ × β)) : List (κ × List β) :=
  pairs.foldl (fun groups pair => push pair.1 pair.2 groups) []

/-- The values of one key, in order. -/
def valuesOf (pairs : List (κ × β)) (k : κ) : List β :=
  (pairs.filter fun pair => pair.1 = k).map Prod.snd

theorem valuesOf_append (front rest : List (κ × β)) (k : κ) :
    valuesOf (front ++ rest) k = valuesOf front k ++ valuesOf rest k := by
  simp [valuesOf]

theorem keys_push (k : κ) (v : β) (groups : List (κ × List β)) : (push k v groups).map Prod.fst =
      if k ∈ groups.map Prod.fst then groups.map Prod.fst else groups.map Prod.fst ++ [k] := by
  induction groups with
  | nil => simp [push]
  | cons entry rest ih =>
    obtain ⟨k', vs⟩ := entry
    by_cases hk : k' = k
    · simp [push, hk]
    · have hk' : k ≠ k' := fun h => hk h.symm
      simp only [push, hk, if_false, List.map_cons, ih, List.mem_cons, hk', false_or]
      split <;> simp

variable {k : κ} {v : β} {groups : List (κ × List β)}

theorem nodup_push (h : (groups.map Prod.fst).Nodup) : ((push k v groups).map Prod.fst).Nodup := by
  rw [keys_push]
  split
  · exact h
  · rename_i hk
    exact List.nodup_append.mpr ⟨h, List.nodup_singleton k, by
      intro a ha b hb hab
      rw [List.mem_singleton.mp hb] at hab
      exact hk (hab ▸ ha)⟩

variable {vs : List β}

/-- A group after a push: the pushed value extends its own group and no other. -/
theorem mem_push (h : (groups.map Prod.fst).Nodup) {k' : κ} :
    (k', vs) ∈ push k v groups ↔ (k' ≠ k ∧ (k', vs) ∈ groups) ∨ (k' = k ∧ ∃ old, vs = old ++ [v] ∧
        ((k, old) ∈ groups ∨ (old = [] ∧ k ∉ groups.map Prod.fst))) := by
  induction groups with
  | nil =>
    simp only [push, List.mem_singleton, Prod.mk.injEq, List.not_mem_nil, and_false, false_or,
      List.map_nil, not_false_eq_true, and_true]
    constructor
    · rintro ⟨rfl, rfl⟩
      exact ⟨rfl, [], rfl, rfl⟩
    · rintro ⟨rfl, old, rfl, rfl⟩
      exact ⟨rfl, rfl⟩
  | cons entry rest ih =>
    obtain ⟨k₀, ws⟩ := entry
    obtain ⟨hFresh, hRest⟩ := List.nodup_cons.mp h
    by_cases hk : k₀ = k
    · subst hk
      have hOld : ∀ old, (k₀, old) ∉ rest := fun old hMem =>
        hFresh (List.mem_map.mpr ⟨_, hMem, rfl⟩)
      simp only [push, if_true, List.mem_cons, Prod.mk.injEq, List.map_cons, true_or,
        not_true_eq_false, and_false, or_false]
      constructor
      · rintro (⟨rfl, rfl⟩ | hMem)
        · exact Or.inr ⟨rfl, ws, rfl, Or.inl ⟨trivial, rfl⟩⟩
        · have hne : k' ≠ k₀ := by
            rintro rfl
            exact hOld vs hMem
          exact Or.inl ⟨hne, Or.inr hMem⟩
      · rintro (⟨hne, ⟨heq, _⟩ | hMem⟩ | ⟨rfl, old, rfl, ⟨_, rfl⟩ | hMem⟩)
        · exact absurd heq hne
        · exact Or.inr hMem
        · exact Or.inl ⟨rfl, rfl⟩
        · exact absurd hMem (hOld old)
    · have hk' : k ≠ k₀ := fun e => hk e.symm
      simp only [push, hk, if_false, List.mem_cons, Prod.mk.injEq, ih hRest, List.map_cons, hk',
        false_and, false_or]
      constructor
      · rintro (⟨rfl, rfl⟩ | ⟨hne, hMem⟩ | hNew)
        · exact Or.inl ⟨hk, Or.inl ⟨rfl, rfl⟩⟩
        · exact Or.inl ⟨hne, Or.inr hMem⟩
        · exact Or.inr hNew
      · rintro (⟨hne, ⟨rfl, rfl⟩ | hMem⟩ | hNew)
        · exact Or.inl ⟨rfl, rfl⟩
        · exact Or.inr (Or.inl ⟨hne, hMem⟩)
        · exact Or.inr (Or.inr hNew)

theorem group_append_singleton (pairs : List (κ × β)) (pair : κ × β) :
    group (pairs ++ [pair]) = push pair.1 pair.2 (group pairs) := by
  simp [group]

theorem nodup_group (pairs : List (κ × β)) : ((group pairs).map Prod.fst).Nodup := by
  induction pairs using List.reverseRecOn with
  | nil => exact List.nodup_nil
  | append_singleton pairs pair ih =>
    rw [group_append_singleton]
    exact nodup_push ih

variable {pairs : List (κ × β)}

theorem mem_keys_group : k ∈ (group pairs).map Prod.fst ↔ k ∈ pairs.map Prod.fst := by
  induction pairs using List.reverseRecOn with
  | nil => rfl
  | append_singleton pairs pair ih =>
    rw [group_append_singleton, keys_push, List.map_append, List.mem_append, List.map_singleton,
      List.mem_singleton, ← ih]
    split
    · rename_i hk
      constructor
      · exact Or.inl
      · rintro (hMem | rfl)
        · exact hMem
        · exact hk
    · simp

theorem valuesOf_eq_nil (h : k ∉ pairs.map Prod.fst) : valuesOf pairs k = [] := by
  simp only [valuesOf, List.map_eq_nil_iff, List.filter_eq_nil_iff, decide_eq_true_eq]
  intro pair hMem heq
  exact h (List.mem_map.mpr ⟨pair, hMem, heq⟩)

theorem mem_group_iff : (k, vs) ∈ group pairs ↔ k ∈ pairs.map Prod.fst ∧ vs = valuesOf pairs k := by
  induction pairs using List.reverseRecOn generalizing k vs with
  | nil => simp [group]
  | append_singleton pairs pair ih =>
    obtain ⟨k₀, v₀⟩ := pair
    rw [group_append_singleton, mem_push (nodup_group pairs), List.map_append, List.mem_append,
      valuesOf_append, List.map_singleton, List.mem_singleton]
    by_cases hk : k = k₀
    · subst hk
      have hOne : valuesOf [(k, v₀)] k = [v₀] := by simp [valuesOf]
      simp only [ne_eq, not_true_eq_false, false_and, false_or, true_and, or_true, hOne]
      constructor
      · rintro ⟨old, rfl, hMem | ⟨rfl, hFresh⟩⟩
        · rw [(ih.mp hMem).2]
        · rw [valuesOf_eq_nil fun h => hFresh (mem_keys_group.mpr h)]
      · rintro rfl
        refine ⟨valuesOf pairs k, rfl, ?_⟩
        by_cases hMem : k ∈ pairs.map Prod.fst
        · exact Or.inl (ih.mpr ⟨hMem, rfl⟩)
        · exact Or.inr ⟨valuesOf_eq_nil hMem, fun h => hMem (mem_keys_group.mp h)⟩
    · have hk' : k₀ ≠ k := fun e => hk e.symm
      have hNone : valuesOf [(k₀, v₀)] k = [] := by simp [valuesOf, hk']
      simp [hk, hNone, ih]

end KongRust.Grouping

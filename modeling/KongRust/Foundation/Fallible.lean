import Mathlib.Data.List.Forall2

/-!
# Computations that may fail

What is known of the parts of a computation that has given a result.
-/

namespace KongRust.Fallible

variable {ε α β : Type}

theorem bind_eq_ok {x : Except ε α} {f : α → Except ε β} {b : β} :
    (x >>= f) = .ok b ↔ ∃ a, x = .ok a ∧ f a = .ok b := by
  cases x with
  | error e =>
    constructor
    · intro h
      cases h
    · rintro ⟨a, h, -⟩
      cases h
  | ok a =>
    constructor
    · intro h
      exact ⟨a, rfl, h⟩
    · rintro ⟨_, h, hNext⟩
      cases h
      exact hNext

theorem toOption_eq_some {x : Except ε α} {a : α} : x.toOption = some a ↔ x = .ok a := by
  cases x <;> simp [Except.toOption]

theorem mapError_eq_ok {ε' : Type} {f : ε → ε'} {x : Except ε α} {a : α} :
    x.mapError f = .ok a ↔ x = .ok a := by
  cases x with
  | error e =>
    constructor
    · intro h
      cases h
    · intro h
      cases h
  | ok b =>
    constructor
    · intro h
      cases h
      rfl
    · intro h
      cases h
      rfl

theorem mapM_eq_ok {f : α → Except ε β} {l : List α} {l' : List β} :
    l.mapM f = .ok l' ↔ List.Forall₂ (fun a b => f a = .ok b) l l' := by
  induction l generalizing l' with
  | nil =>
    rw [List.forall₂_nil_left_iff]
    constructor
    · intro h
      cases h
      rfl
    · rintro rfl
      rfl
  | cons a l ih =>
    rw [List.mapM_cons, bind_eq_ok]
    constructor
    · rintro ⟨b, hHead, h⟩
      obtain ⟨rest, hRest, h⟩ := bind_eq_ok.mp h
      cases h
      exact .cons hHead (ih.mp hRest)
    · intro h
      cases h with
      | cons hHead hRest => exact ⟨_, hHead, bind_eq_ok.mpr ⟨_, ih.mpr hRest, rfl⟩⟩

theorem mem_of_forall₂ {R : α → β → Prop} {l : List α} {l' : List β} (h : List.Forall₂ R l l')
    {b : β} (hMem : b ∈ l') : ∃ a ∈ l, R a b := by
  induction h with
  | nil => cases hMem
  | cons hHead _ ih =>
    rcases List.mem_cons.mp hMem with rfl | hMem
    · exact ⟨_, List.mem_cons_self, hHead⟩
    · obtain ⟨a, hA, hR⟩ := ih hMem
      exact ⟨a, List.mem_cons_of_mem _ hA, hR⟩

section

variable {f : α → Except ε β} {l : List α} {l' : List β} (h : l.mapM f = .ok l')
include h

theorem mem_mapM {b : β} (hMem : b ∈ l') : ∃ a ∈ l, f a = .ok b :=
  mem_of_forall₂ (mapM_eq_ok.mp h) hMem

theorem mapM_mem {a : α} (hMem : a ∈ l) : ∃ b ∈ l', f a = .ok b :=
  mem_of_forall₂ (mapM_eq_ok.mp h).flip hMem

theorem map_mapM {γ : Type} {g : β → γ} {g' : α → γ} (hKeeps : ∀ a b, f a = .ok b → g b = g' a) :
    l'.map g = l.map g' := by
  have hAll := mapM_eq_ok.mp h
  clear h
  induction hAll with
  | nil => rfl
  | cons hHead _ ih => rw [List.map_cons, List.map_cons, hKeeps _ _ hHead, ih]

end

theorem mem_of_mapM_eq_some {f : α → Option β} {l : List α} {l' : List β}
    (h : l.mapM f = some l') {b : β} (hb : b ∈ l') : ∃ a ∈ l, f a = some b := by
  induction l generalizing l' with
  | nil =>
    simp only [List.mapM_nil, Option.pure_def, Option.some.injEq] at h
    subst h
    simp at hb
  | cons a l ih =>
    simp only [List.mapM_cons, Option.pure_def, Option.bind_eq_bind, Option.bind_eq_some_iff,
      Option.some.injEq] at h
    obtain ⟨b₀, hHead, bs, hTail, rfl⟩ := h
    rcases List.mem_cons.mp hb with rfl | hb
    · exact ⟨a, List.mem_cons_self, hHead⟩
    · obtain ⟨a', ha', hf⟩ := ih hTail hb
      exact ⟨a', List.mem_cons_of_mem a ha', hf⟩

end KongRust.Fallible

import Mathlib.Tactic.ByContra

/-!
# Machines that emit, and what watches them

A step takes an input to a new state and some outputs. A monitor reads outputs one by one and may
refuse one. Where the state and the monitor stay related, and the monitor refuses exactly what a
step puts out that does not conform, the outputs of a run are accepted if and only if all its
steps conform.
-/

namespace KongRust.Transducer

variable {σ α ε ω : Type}

/-- A run: the outputs of its steps in order. -/
def run (step : σ → α → σ × List ε) : σ → List α → σ × List ε
  | s, [] => (s, [])
  | s, a :: as => ((run step (step s a).1 as).1, (step s a).2 ++ (run step (step s a).1 as).2)

attribute [local simp] run

theorem run_append (step : σ → α → σ × List ε) (s : σ) (as bs : List α) : run step s (as ++ bs) =
      ((run step (run step s as).1 bs).1, (run step s as).2 ++ (run step (run step s as).1 bs).2) := by
  induction as generalizing s with
  | nil => rfl
  | cons a as ih =>
    rw [List.cons_append, run, ih]
    simp only [run, List.append_assoc]

theorem run_flatMap (step : σ → α → σ × List ε) {β : Type} (g : β → List α) (s : σ) (bs : List β) :
    run (fun s b => run step s (g b)) s bs = run step s (bs.flatMap g) := by
  induction bs generalizing s with
  | nil => rfl
  | cons b bs ih => rw [List.flatMap_cons, run_append, run, ih]

theorem run_silent (f : σ → α → σ) (s : σ) (as : List α) :
    run (fun s a => (f s a, ([] : List ε))) s as = (as.foldl f s, []) := by
  induction as generalizing s with
  | nil => rfl
  | cons a as ih => rw [run, ih]; rfl

section

variable {τ φ : Type} {step : σ → α → σ × List ε} {step' : τ → α → τ × List φ}

theorem run_map (g : σ → τ) (write : ε → List φ)
    (hStep : ∀ s a, step' (g s) a = (g (step s a).1, (step s a).2.flatMap write))
    (s : σ) (as : List α) :
    run step' (g s) as = (g (run step s as).1, (run step s as).2.flatMap write) := by
  induction as generalizing s with
  | nil => rfl
  | cons a as ih => rw [run, run, hStep, ih, List.flatMap_append]

theorem run_pass (g : σ → τ) (out : α → List φ)
    (hStep : ∀ s a, step' (g s) a = (g (step s a).1, out a))
    (s : σ) (as : List α) :
    run step' (g s) as = (g (run step s as).1, as.flatMap out) := by
  induction as generalizing s with
  | nil => rfl
  | cons a as ih => rw [run, run, hStep, ih, List.flatMap_cons]

theorem run_filterMap {see : ε → Option φ} {R : σ → τ → Prop}
    (hStep : ∀ s t a, R s t →
      R (step s a).1 (step' t a).1 ∧ (step s a).2.filterMap see = (step' t a).2)
    {s : σ} {t : τ} (h : R s t) (as : List α) :
    R (run step s as).1 (run step' t as).1 ∧
      (run step s as).2.filterMap see = (run step' t as).2 := by
  induction as generalizing s t with
  | nil => exact ⟨h, rfl⟩
  | cons a as ih =>
    obtain ⟨hNext, hSeen⟩ := hStep s t a h
    obtain ⟨hLast, hRest⟩ := ih hNext
    exact ⟨hLast, by rw [run, run, List.filterMap_append, hSeen, hRest]⟩

end

/-- A monitor over some outputs; none once it has refused one. -/
def watch (monitor : ω → ε → Option ω) : ω → List ε → Option ω
  | w, [] => some w
  | w, e :: es => (monitor w e).bind fun w => watch monitor w es

theorem watch_append (monitor : ω → ε → Option ω) (w : ω) (es fs : List ε) :
    watch monitor w (es ++ fs) = (watch monitor w es).bind fun w => watch monitor w fs := by
  induction es generalizing w with
  | nil => rfl
  | cons e es ih =>
    rw [List.cons_append, watch, watch]
    cases monitor w e with
    | none => rfl
    | some w => exact ih w

/-- Every step of a run meets a condition in the state in which it is taken. -/
def Conforms (step : σ → α → σ × List ε) (Ok : σ → α → Prop) : σ → List α → Prop
  | _, [] => True
  | s, a :: as => Ok s a ∧ Conforms step Ok (step s a).1 as

section Watched

variable {step : σ → α → σ × List ε} {monitor : ω → ε → Option ω} {R : σ → ω → Prop}
  {Ok : σ → α → Prop} {s : σ} {w : ω} {as : List α}

variable (hGood : ∀ s w a, R s w → Ok s a →
    ∃ w', watch monitor w (step s a).2 = some w' ∧ R (step s a).1 w')
include hGood

theorem watch_run (hR : R s w) (h : Conforms step Ok s as) :
    ∃ w', watch monitor w (run step s as).2 = some w' ∧ R (run step s as).1 w' := by
  induction as generalizing s w with
  | nil => exact ⟨w, rfl, hR⟩
  | cons a as ih =>
    obtain ⟨w', hWatch, hR'⟩ := hGood s w a hR h.1
    obtain ⟨w'', hRest, hR''⟩ := ih hR' h.2
    refine ⟨w'', ?_, hR''⟩
    rw [run, watch_append, hWatch]
    exact hRest

variable (hBad : ∀ s w a, R s w → ¬ Ok s a → watch monitor w (step s a).2 = none)
include hBad

theorem watch_run_none (hR : R s w) (h : ¬ Conforms step Ok s as) :
    watch monitor w (run step s as).2 = none := by
  induction as generalizing s w with
  | nil => exact absurd trivial h
  | cons a as ih =>
    rw [run, watch_append]
    by_cases hOk : Ok s a
    · obtain ⟨w', hWatch, hR'⟩ := hGood s w a hR hOk
      rw [hWatch]
      exact ih hR' fun hRest => h ⟨hOk, hRest⟩
    · rw [hBad s w a hR hOk]
      rfl

theorem watch_run_isSome_iff (hR : R s w) (as : List α) :
    (watch monitor w (run step s as).2).isSome ↔ Conforms step Ok s as := by
  constructor
  · intro hSome
    by_contra hNot
    rw [watch_run_none hGood hBad hR hNot] at hSome
    cases hSome
  · intro h
    obtain ⟨w', hWatch, -⟩ := watch_run hGood hR h
    rw [hWatch]
    rfl

end Watched

end KongRust.Transducer

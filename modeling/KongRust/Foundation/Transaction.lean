import Mathlib.Tactic.Common

/-!
# Transactions

A transaction reads and writes a state and may fail. `execute` runs it atomically: a failed
transaction leaves the state as it was. `Ends` is the rule format for reasoning about one: every
committed run meets one condition and every failure another, and the lemmas below push it through
the statements a transaction is built from.
-/

namespace KongRust

/-- A computation over a state that either commits or fails. -/
abbrev Transaction (σ ε α : Type) := StateT σ (Except ε) α

namespace Transaction

variable {σ ε α β : Type}

/-- Run a transaction; a failure rolls the state back. -/
def execute (t : Transaction σ ε α) (s : σ) : Except ε α × σ :=
  match t.run s with
  | .ok (a, s') => (.ok a, s')
  | .error e => (.error e, s)

/-- Fail with `e` unless the condition holds. -/
def ensure (c : Prop) [Decidable c] (e : ε) : Transaction σ ε Unit :=
  if c then pure () else throw e

/-- `Option::ok_or`. -/
def okOr (o : Option α) (e : ε) : Transaction σ ε α :=
  match o with
  | some a => pure a
  | none => throw e

/-- A computation that does not touch the state. -/
def lift (x : Except ε α) : Transaction σ ε α :=
  match x with
  | .ok a => pure a
  | .error e => throw e

/-- Every committed run of `t` from `s` meets `post`, and every failure meets `fail`. -/
def Ends (t : Transaction σ ε α) (s : σ) (post : α → σ → Prop) (fail : ε → Prop) : Prop :=
  match t.run s with
  | .ok (a, s') => post a s'
  | .error e => fail e

variable {t : Transaction σ ε α} {s : σ} {post : α → σ → Prop} {fail : ε → Prop}

theorem execute_of_ends (h : Ends t s post fail) :
    (∃ a s', execute t s = (.ok a, s') ∧ post a s') ∨ ∃ e, execute t s = (.error e, s) ∧ fail e := by
  unfold Ends at h
  unfold execute
  split at h
  · exact .inl ⟨_, _, rfl, h⟩
  · exact .inr ⟨_, rfl, h⟩

theorem ends_weaken {post' : α → σ → Prop} (h : Ends t s post fail)
    (hPost : ∀ a s', post a s' → post' a s') : Ends t s post' fail := by
  unfold Ends at h ⊢
  split
  · next hRun =>
    rw [hRun] at h
    exact hPost _ _ h
  · next hRun =>
    rw [hRun] at h
    exact h

theorem ends_bind {f : α → Transaction σ ε β} {post : β → σ → Prop} :
    Ends (t >>= f) s post fail ↔ Ends t s (fun a s' => Ends (f a) s' post fail) fail := by
  unfold Ends
  rw [StateT.run_bind]
  cases t.run s <;> rfl

variable {a : α} {e : ε} {c : Prop} {x : Except ε α}

theorem ends_pure : Ends (pure a) s post fail ↔ post a s := Iff.rfl

theorem ends_throw : Ends (throw e : Transaction σ ε α) s post fail ↔ fail e := Iff.rfl

theorem ends_get {post : σ → σ → Prop} :
    Ends (get : Transaction σ ε σ) s post fail ↔ post s s := Iff.rfl

theorem ends_set {s' : σ} {post : PUnit → σ → Prop} :
    Ends (set s' : Transaction σ ε PUnit) s post fail ↔ post ⟨⟩ s' := Iff.rfl

theorem ends_ensure [Decidable c] {post : Unit → σ → Prop} :
    Ends (ensure c e) s post fail ↔ (c → post () s) ∧ (¬ c → fail e) := by
  unfold ensure
  split
  · next h => simp only [ends_pure, h, true_imp_iff, not_true_eq_false, false_imp_iff, and_true]
  · next h => simp only [ends_throw, h, false_imp_iff, not_false_eq_true, true_imp_iff, true_and]

variable {o : Option α}

theorem ends_okOr :
    Ends (okOr o e) s post fail ↔ (∀ a, o = some a → post a s) ∧ (o = none → fail e) := by
  cases o <;> simp [okOr, ends_pure, ends_throw]

theorem ends_lift :
    Ends (lift x) s post fail ↔ (∀ a, x = .ok a → post a s) ∧ ∀ e, x = .error e → fail e := by
  cases x <;> simp [lift, ends_pure, ends_throw]

theorem ends_lift_ok (h : x = .ok a) :
    Ends (lift x) s post fail ↔ post a s := by
  rw [h]
  exact Iff.rfl

theorem ends_okOr_some (h : o = some a) : Ends (okOr o e) s post fail ↔ post a s := by
  rw [h]
  exact Iff.rfl

/-- Every error of a computation meets `fail`. -/
def Raises (x : Except ε α) (fail : ε → Prop) : Prop := ∀ e, x = .error e → fail e

theorem ends_lift_raises :
    Ends (lift x) s post fail ↔ (∀ a, x = .ok a → post a s) ∧ Raises x fail := ends_lift

@[simp] theorem raises_ok : Raises (.ok a : Except ε α) fail := nofun

@[simp] theorem raises_pure : Raises (pure a : Except ε α) fail := nofun

@[simp] theorem raises_error : Raises (.error e : Except ε α) fail ↔ fail e := by
  simp [Raises]

@[simp] theorem raises_throw : Raises (throw e : Except ε α) fail ↔ fail e := raises_error

@[simp] theorem raises_bind {f : α → Except ε β} :
    Raises (x >>= f) fail ↔ Raises x fail ∧ ∀ a, x = .ok a → Raises (f a) fail := by
  cases x <;> simp [Raises, bind, Except.bind]

@[simp] theorem raises_true : Raises x fun _ => True := fun _ _ => trivial

@[simp] theorem raises_fmap {f : α → β} :
    Raises (f <$> x) fail ↔ Raises x fail := by
  cases x <;> simp [Raises, Functor.map, Except.map]

@[simp] theorem raises_mapError {ε' : Type} {f : ε → ε'} {fail : ε' → Prop} :
    Raises (x.mapError f) fail ↔ Raises x fun e => fail (f e) := by
  cases x <;> simp [Raises, Except.mapError]

@[simp] theorem raises_ite [Decidable c] {y : Except ε α} :
    Raises (if c then x else y) fail ↔ (c → Raises x fail) ∧ (¬ c → Raises y fail) := by
  split
  · next h => simp [h]
  · next h => simp [h]

theorem ends_ite [Decidable c] {t u : Transaction σ ε α} : Ends (if c then t else u) s post fail ↔
      (c → Ends t s post fail) ∧ (¬ c → Ends u s post fail) := by
  split
  · next h => simp [h]
  · next h => simp [h]

/-- The rules for what a transaction is built from, as one set for `simp`. -/
theorem ends_rules : (∀ {α β : Type} {t : Transaction σ ε α} {f : α → Transaction σ ε β} {s : σ}
      {post : β → σ → Prop} {fail : ε → Prop}, Ends (t >>= f) s post fail ↔
        Ends t s (fun a s' => Ends (f a) s' post fail) fail) ∧
    (∀ {α : Type} {a : α} {s : σ} {post : α → σ → Prop} {fail : ε → Prop},
      Ends (pure a : Transaction σ ε α) s post fail ↔ post a s) ∧
    (∀ {s : σ} {post : σ → σ → Prop} {fail : ε → Prop},
      Ends (get : Transaction σ ε σ) s post fail ↔ post s s) ∧
    (∀ {s s' : σ} {post : PUnit → σ → Prop} {fail : ε → Prop},
      Ends (set s' : Transaction σ ε PUnit) s post fail ↔ post ⟨⟩ s') ∧
    (∀ {c : Prop} [Decidable c] {e : ε} {s : σ} {post : Unit → σ → Prop} {fail : ε → Prop},
      Ends (ensure c e) s post fail ↔ (c → post () s) ∧ (¬ c → fail e)) ∧
    (∀ {α : Type} {o : Option α} {e : ε} {s : σ} {post : α → σ → Prop} {fail : ε → Prop},
      Ends (okOr o e) s post fail ↔ (∀ a, o = some a → post a s) ∧ (o = none → fail e)) ∧
    ∀ {α : Type} {x : Except ε α} {s : σ} {post : α → σ → Prop} {fail : ε → Prop},
      Ends (lift x) s post fail ↔ (∀ a, x = .ok a → post a s) ∧ Raises x fail :=
  ⟨ends_bind, ends_pure, ends_get, ends_set, ends_ensure, ends_okOr, ends_lift_raises⟩

/-- What is left of a condition on failures that asks for nothing. -/
theorem vacuous : (∀ {p : Prop}, (p → True) ↔ True) ∧ (∀ {α : Type}, (α → True) ↔ True) ∧
    (∀ {p : Prop}, p ∧ True ↔ p) ∧
    ∀ {ε α : Type} {x : Except ε α}, Raises x (fun _ => True) ↔ True :=
  ⟨by simp, by simp, by simp, by simp⟩

variable {f : α → Except ε Unit} {xs : List α}

theorem forM_eq_ok : xs.forM f = .ok () ↔ ∀ x ∈ xs, f x = .ok () := by
  induction xs with
  | nil => simp [List.forM, pure, Except.pure]
  | cons x xs ih =>
    simp only [List.mem_cons, forall_eq_or_imp, ← ih, List.forM]
    cases hHead : f x with
    | error e | ok _ => simp [bind, Except.bind]

theorem exists_of_forM_eq_error {e : ε} (h : xs.forM f = .error e) : ∃ x ∈ xs, f x = .error e := by
  induction xs with
  | nil => cases h
  | cons x xs ih =>
    simp only [List.forM] at h
    cases hHead : f x with
    | error e' =>
      rw [hHead] at h
      exact ⟨x, List.mem_cons_self, hHead.trans h⟩
    | ok _ =>
      rw [hHead] at h
      obtain ⟨y, hMem, hError⟩ := ih h
      exact ⟨y, List.mem_cons_of_mem x hMem, hError⟩

end Transaction

end KongRust

import Mathlib.Data.List.Basic
import Mathlib.Logic.Basic

/-!
# Dialogues

Computations that ask a store one question after the other. How the store answers, and what a
question does to it, is a relation: a question may have several answers. A run goes through one
dialogue; in an interleaved run the questions of several dialogues follow each other in any order.
-/

namespace KongRust

/-- What a computation still asks; it goes on with the answer. -/
inductive Dialogue (Q A α : Type) where
  | done (result : α)
  | ask (question : Q) (next : A → Dialogue Q A α)

namespace Dialogue

variable {Q A W α β γ : Type}

def bind : Dialogue Q A α → (α → Dialogue Q A β) → Dialogue Q A β
  | .done result, f => f result
  | .ask question next, f => .ask question fun answer => (next answer).bind f

instance : Monad (Dialogue Q A) where
  pure := .done
  bind := bind

/-- One question, whose answer is the result. -/
def put (question : Q) : Dialogue Q A A := .ask question .done

@[simp] theorem done_bind (a : α) (f : α → Dialogue Q A β) : (.done a >>= f) = f a := rfl

@[simp] theorem ask_bind (question : Q) (next : A → Dialogue Q A α) (f : α → Dialogue Q A β) :
    (.ask question next >>= f) = .ask question fun answer => next answer >>= f := rfl

/-! ## What is said -/

/-- What one dialogue says, as far as it has come. -/
inductive Follows : Dialogue Q A α → List (Q × A) → Dialogue Q A α → Prop where
  | refl (x : Dialogue Q A α) : Follows x [] x
  | ask {question : Q} {next : A → Dialogue Q A α} {answer : A} {said : List (Q × A)}
      {x : Dialogue Q A α} (h : Follows (next answer) said x) :
      Follows (.ask question next) ((question, answer) :: said) x

variable {said : List (Q × A)} {x : Dialogue Q A α} {question : Q}

theorem follows_done {result : α} :
    Follows (.done result) said x ↔ said = [] ∧ x = .done result := by
  constructor
  · intro h
    cases h
    exact ⟨rfl, rfl⟩
  · rintro ⟨rfl, rfl⟩
    exact .refl _

theorem follows_ask {next : A → Dialogue Q A α} : Follows (.ask question next) said x ↔
      (said = [] ∧ x = .ask question next) ∨
      ∃ answer rest, said = (question, answer) :: rest ∧ Follows (next answer) rest x := by
  constructor
  · intro h
    cases h with
    | refl => exact .inl ⟨rfl, rfl⟩
    | ask h => exact .inr ⟨_, _, rfl, h⟩
  · rintro (⟨rfl, rfl⟩ | ⟨answer, rest, rfl, h⟩)
    · exact .refl _
    · exact .ask h

theorem follows_bind {f : α → Dialogue Q A β} {b : β} :
    Follows (x >>= f) said (.done b) ↔ ∃ first rest a, said = first ++ rest ∧
      Follows x first (.done a) ∧ Follows (f a) rest (.done b) := by
  constructor
  · intro h
    induction x generalizing said with
    | done a => exact ⟨[], said, a, rfl, .refl _, h⟩
    | ask question next ih =>
      rcases follows_ask.mp h with ⟨-, hDone⟩ | ⟨answer, rest, rfl, hNext⟩
      · cases hDone
      · obtain ⟨first, rest', a, rfl, hFirst, hRest⟩ := ih answer hNext
        exact ⟨(question, answer) :: first, rest', a, rfl, .ask hFirst, hRest⟩
  · rintro ⟨first, rest, a, rfl, hFirst, hRest⟩
    induction first generalizing x with
    | nil =>
      cases hFirst
      exact hRest
    | cons entry first ih =>
      cases hFirst with
      | ask hNext => exact .ask (ih hNext)

theorem follows_put {answer : A} :
    Follows (put question) said (.done answer) ↔ said = [(question, answer)] := by
  constructor
  · intro h
    rcases follows_ask.mp h with ⟨-, hDone⟩ | ⟨answer', rest, rfl, hNext⟩
    · cases hDone
    · obtain ⟨rfl, hEq⟩ := follows_done.mp hNext
      cases hEq
      rfl
  · rintro rfl
    exact .ask (.refl _)

/-! ## Runs -/

/-- How a store answers a question, and the store after it. -/
abbrev Answers (Q A W : Type) := W → Q → A → W → Prop

section Runs

variable (respond : Answers Q A W)

/-- How a store answers one question after the other. -/
inductive Answered : W → List (Q × A) → W → Prop where
  | nil (w : W) : Answered w [] w
  | cons {question : Q} {answer : A} {w w' w'' : W} {said : List (Q × A)}
      (h : respond w question answer w') (hNext : Answered w' said w'') :
      Answered w ((question, answer) :: said) w''

/-- A run of a dialogue to its end, with what was asked and answered. -/
structure Runs (x : Dialogue Q A α) (w : W) (said : List (Q × A)) (result : α) (w' : W) : Prop where
  follows : Follows x said (.done result)
  answered : Answered respond w said w'

variable {respond} {w w'' : W}

theorem answered_cons {question : Q} {answer : A} {said : List (Q × A)} :
    Answered respond w ((question, answer) :: said) w'' ↔
      ∃ w', respond w question answer w' ∧ Answered respond w' said w'' := by
  constructor
  · intro h
    cases h with
    | cons h hNext => exact ⟨_, h, hNext⟩
  · rintro ⟨w', h, hNext⟩
    exact .cons h hNext

theorem answered_append {first rest : List (Q × A)} :
    Answered respond w (first ++ rest) w'' ↔
      ∃ w', Answered respond w first w' ∧ Answered respond w' rest w'' := by
  constructor
  · intro h
    induction first generalizing w with
    | nil => exact ⟨w, .nil w, h⟩
    | cons entry first ih =>
      cases h with
      | cons h hNext =>
        obtain ⟨w', hFirst, hRest⟩ := ih hNext
        exact ⟨w', .cons h hFirst, hRest⟩
  · rintro ⟨w', hFirst, hRest⟩
    induction hFirst with
    | nil => exact hRest
    | cons h _ ih => exact .cons h (ih hRest)

end Runs

/-! ## Interleaved runs -/

variable (respond : Answers Q A W)

/-- Several dialogues, whose questions follow each other in some order. -/
inductive Interleaved : List (Dialogue Q A α) → W → List (Nat × Q × A) →
    List (Dialogue Q A α) → W → Prop where
  | refl (running : List (Dialogue Q A α)) (w : W) : Interleaved running w [] running w
  | step {running running' : List (Dialogue Q A α)} {w w' w'' : W} {i : Nat} {question : Q}
      {answer : A} {next : A → Dialogue Q A α} {said : List (Nat × Q × A)}
      (hTurn : running[i]? = some (.ask question next)) (h : respond w question answer w')
      (hNext : Interleaved (running.set i (next answer)) w' said running' w'') :
      Interleaved running w ((i, question, answer) :: said) running' w''

/-- The part of a dialogue in an interleaved run. -/
def partOf (i : Nat) (said : List (Nat × Q × A)) : List (Q × A) :=
  (said.filter fun entry => entry.1 == i).map Prod.snd

variable {i : Nat}

theorem mem_partOf {said : List (Nat × Q × A)} {entry : Q × A} :
    entry ∈ partOf i said ↔ (i, entry) ∈ said := by
  unfold partOf
  rw [List.mem_map]
  constructor
  · rintro ⟨⟨j, entry⟩, hMem, rfl⟩
    obtain ⟨hSaid, hLabel⟩ := List.mem_filter.mp hMem
    cases beq_iff_eq.mp hLabel
    exact hSaid
  · intro hMem
    exact ⟨(i, entry), List.mem_filter.mpr ⟨hMem, beq_self_eq_true i⟩, rfl⟩

theorem countP_partOf (p : Q × A → Bool) (i : Nat) (said : List (Nat × Q × A)) :
    (partOf i said).countP p = said.countP fun entry => p entry.2 && entry.1 == i := by
  unfold partOf
  rw [List.countP_map, List.countP_filter]
  rfl

variable {respond} {running running' : List (Dialogue Q A α)} {w w' : W}

theorem Interleaved.follows {said : List (Nat × Q × A)}
    (h : Interleaved respond running w said running' w') {x : Dialogue Q A α}
    (hx : running[i]? = some x) : ∃ x', running'[i]? = some x' ∧ Follows x (partOf i said) x' := by
  induction h generalizing x with
  | refl => exact ⟨x, hx, .refl x⟩
  | @step running running' w w₁ w' j question answer next said hTurn hAnswer hNext ih =>
    have hLength : j < running.length := (List.getElem?_eq_some_iff.mp hTurn).1
    by_cases hij : j = i
    · subst hij
      cases hTurn.symm.trans hx
      obtain ⟨x', hx', hFollows⟩ := ih (List.getElem?_set_self hLength)
      refine ⟨x', hx', ?_⟩
      have hPart : partOf j ((j, question, answer) :: said) =
          (question, answer) :: partOf j said := by
        simp [partOf]
      rw [hPart]
      exact .ask hFollows
    · obtain ⟨x', hx', hFollows⟩ := ih ((List.getElem?_set_ne hij).trans hx)
      refine ⟨x', hx', ?_⟩
      have hPart : partOf i ((j, question, answer) :: said) = partOf i said := by
        simp [partOf, hij]
      rw [hPart]
      exact hFollows

variable {entry : Nat × Q × A}

theorem Interleaved.label_lt {said : List (Nat × Q × A)}
    (h : Interleaved respond running w said running' w') (hMem : entry ∈ said) :
    entry.1 < running.length := by
  induction h with
  | refl => cases hMem
  | step hTurn _ _ ih =>
    rcases List.mem_cons.mp hMem with rfl | hMem
    · exact (List.getElem?_eq_some_iff.mp hTurn).1
    · have hLess := ih hMem
      rwa [List.length_set] at hLess

variable {running'' : List (Dialogue Q A α)} {w'' : W} {rest : List (Nat × Q × A)}

theorem interleaved_append {first : List (Nat × Q × A)} :
    Interleaved respond running w (first ++ rest) running'' w'' ↔
      ∃ running' w', Interleaved respond running w first running' w' ∧
        Interleaved respond running' w' rest running'' w'' := by
  constructor
  · intro h
    induction first generalizing running w with
    | nil => exact ⟨running, w, .refl _ _, h⟩
    | cons entry first ih =>
      cases h with
      | step hTurn hAnswer hNext =>
        obtain ⟨running', w', hFirst, hRest⟩ := ih hNext
        exact ⟨running', w', .step hTurn hAnswer hFirst, hRest⟩
  · rintro ⟨running', w', hFirst, hRest⟩
    induction hFirst with
    | refl => exact hRest
    | step hTurn hAnswer _ ih => exact .step hTurn hAnswer (ih hRest)

theorem interleaved_cons (h : Interleaved respond running w (entry :: rest) running'' w'') :
    ∃ running' w', respond w entry.2.1 entry.2.2 w' ∧
      Interleaved respond running' w' rest running'' w'' := by
  cases h with
  | step _ hAnswer hNext => exact ⟨_, _, hAnswer, hNext⟩

theorem Interleaved.keeps {said : List (Nat × Q × A)}
    (h : Interleaved respond running w said running' w') (Inv : W → Prop)
    (hStep : ∀ entry ∈ said, ∀ w w', respond w entry.2.1 entry.2.2 w' → Inv w → Inv w') :
    Inv w → Inv w' := by
  induction h with
  | refl => exact id
  | step _ hAnswer _ ih =>
    intro hInv
    exact ih (fun entry hMem => hStep entry (List.mem_cons_of_mem _ hMem))
      (hStep _ List.mem_cons_self _ _ hAnswer hInv)

end Dialogue

end KongRust

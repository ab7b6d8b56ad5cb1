import Mathlib.Data.Option.Basic

/-!
# Calls over a link that loses messages

A call reads and changes a state behind a link. The link may lose the request, so that nothing
happens, or the answer, so that the caller does not know what happened. `withRecovery` asks
what became of a lost attempt and repeats it at most once.

An operation is idempotent when it leaves its result on record: an attempt that finds a result
changes nothing, and an answer is always the result on record. Recovery keeps this property
whatever the link loses and whatever others do in between, as long as they keep it too.
-/

namespace KongRust.Remote

variable {σ ε α β : Type}

/-- A call answers and leaves a state. -/
abbrev Exchange (σ ε α : Type) := σ → Except ε α × σ

/-! ## The link -/

inductive Delivery where
  | delivered | answerLost | requestLost
  deriving DecidableEq

/-- What happens to the `n`-th message of a session, what others do to the state before it, and
the error that the caller sees when the message is lost. -/
structure Link (σ ε : Type) where
  delivery : Nat → Delivery
  others : Nat → σ → σ
  lost : Nat → ε

structure Session (σ : Type) where
  state : σ
  sent : Nat

/-- A call over a link. -/
def Link.call (link : Link σ ε) (f : Exchange σ ε α) : Exchange (Session σ) ε α := fun session =>
  let before := link.others session.sent session.state
  match link.delivery session.sent with
  | .delivered => ((f before).1, ⟨(f before).2, session.sent + 1⟩)
  | .answerLost => (.error (link.lost session.sent), ⟨(f before).2, session.sent + 1⟩)
  | .requestLost => (.error (link.lost session.sent), ⟨before, session.sent + 1⟩)

/-! ## Recovery -/

/-- The last resort of a recovery: one more attempt, and one more question if it is lost too. -/
def again (unknown : ε → Bool) (attempt : Exchange σ ε α)
    (inspect : Exchange σ ε (Option α)) (initial : ε) : Exchange σ ε α := fun s =>
  match attempt s with
  | (.ok a, s) => (.ok a, s)
  | (.error e, s) =>
    if unknown e then
      match inspect s with
      | (.ok (some a), s) => (.ok a, s)
      | (.ok none, s) => (.error initial, s)
      | (.error e, s) => if unknown e then (.error initial, s) else (.error e, s)
    else (.error e, s)

/-- Ask for the result of an attempt whose outcome is unknown, and repeat it if there is none. -/
def recover (unknown : ε → Bool) (attempt : Exchange σ ε α)
    (inspect : Exchange σ ε (Option α)) (initial : ε) : Exchange σ ε α := fun s =>
  match inspect s with
  | (.ok (some a), s) => (.ok a, s)
  | (.ok none, s) => again unknown attempt inspect initial s
  | (.error e, s) => if unknown e then again unknown attempt inspect initial s else (.error e, s)

/-- An attempt, and a recovery if its outcome is unknown. -/
def withRecovery (unknown : ε → Bool) (attempt : Exchange σ ε α)
    (recovery : ε → Exchange σ ε α) : Exchange σ ε α := fun s =>
  match attempt s with
  | (.ok a, s) => (.ok a, s)
  | (.error e, s) => if unknown e then recovery e s else (.error e, s)

/-! ## Idempotence -/

section Idempotence

variable (recorded : σ → Option α) (applied : σ → Nat)

/-- A result on record stays, and an effect is applied only together with a first result. -/
structure Keeps (s s' : σ) : Prop where
  kept : ∀ r, recorded s = some r → recorded s' = some r ∧ applied s' = applied s
  fresh : recorded s = none → (recorded s' = none ∧ applied s' = applied s) ∨
    ∃ r, recorded s' = some r ∧ applied s' = applied s + 1

/-- A call that keeps the record and reports nothing but what is on it. -/
structure Faithful (same : α → α → Prop) (view : β → Option α) (f : Exchange σ ε β) : Prop where
  keeps : ∀ s, Keeps recorded applied s (f s).2
  reports : ∀ s b a, (f s).1 = .ok b → view b = some a →
    ∃ r, recorded (f s).2 = some r ∧ same a r

variable {recorded applied} {same : α → α → Prop} {view : β → Option α} {s s' s'' : σ}

theorem Keeps.refl (recorded : σ → Option α) (applied : σ → Nat) (s : σ) :
    Keeps recorded applied s s :=
  ⟨fun _ h => ⟨h, rfl⟩, fun h => .inl ⟨h, rfl⟩⟩

theorem Keeps.trans (h : Keeps recorded applied s s') (h' : Keeps recorded applied s' s'') :
    Keeps recorded applied s s'' := by
  constructor
  · intro r hRecorded
    obtain ⟨hMiddle, hApplied⟩ := h.kept r hRecorded
    obtain ⟨hLast, hApplied'⟩ := h'.kept r hMiddle
    exact ⟨hLast, hApplied'.trans hApplied⟩
  · intro hNone
    rcases h.fresh hNone with ⟨hMiddle, hApplied⟩ | ⟨r, hMiddle, hApplied⟩
    · rw [← hApplied]
      exact h'.fresh hMiddle
    · obtain ⟨hLast, hApplied'⟩ := h'.kept r hMiddle
      exact .inr ⟨r, hLast, hApplied'.trans hApplied⟩

theorem Keeps.applied_le (h : Keeps recorded applied s s') :
    applied s' ≤ applied s + 1 ∧ (recorded s ≠ none → applied s' = applied s) := by
  cases hRecorded : recorded s with
  | some r =>
    obtain ⟨_, hApplied⟩ := h.kept r hRecorded
    exact ⟨by omega, fun _ => hApplied⟩
  | none =>
    refine ⟨?_, fun hSome => absurd rfl hSome⟩
    rcases h.fresh hRecorded with ⟨_, hApplied⟩ | ⟨_, _, hApplied⟩
    · omega
    · omega

variable {f : Exchange σ ε β}

theorem Link.call_faithful {link : Link σ ε} (h : Faithful recorded applied same view f)
    (hOthers : ∀ n s, Keeps recorded applied s (link.others n s)) :
    Faithful (fun session => recorded session.state) (fun session => applied session.state) same
      view (link.call f) := by
  have hKeeps : ∀ session : Session σ, Keeps recorded applied session.state
      (link.call f session).2.state := by
    intro session
    have hBefore := hOthers session.sent session.state
    unfold Link.call
    cases link.delivery session.sent with
    | delivered | answerLost => exact hBefore.trans (h.keeps _)
    | requestLost => exact hBefore
  refine ⟨fun session => ⟨(hKeeps session).kept, (hKeeps session).fresh⟩, ?_⟩
  intro session b a hAnswer hView
  unfold Link.call at hAnswer ⊢
  cases hDelivery : link.delivery session.sent with
  | delivered =>
    rw [hDelivery] at hAnswer
    exact h.reports _ b a hAnswer hView
  | answerLost | requestLost =>
    rw [hDelivery] at hAnswer
    cases hAnswer

theorem Faithful.read (h : Faithful recorded applied same view f) {read : β → Except ε (Option α)}
    (hRead : ∀ b a, read b = .ok (some a) → view b = some a) :
    Faithful recorded applied same id fun s => ((f s).1.bind read, (f s).2) := by
  refine ⟨h.keeps, fun s o a hAnswer hSome => ?_⟩
  obtain rfl : o = some a := hSome
  cases hResult : (f s).1 with
  | error e =>
    rw [hResult] at hAnswer
    cases hAnswer
  | ok b =>
    rw [hResult] at hAnswer
    exact h.reports s b a hResult (hRead b a hAnswer)

variable {unknown : ε → Bool} {attempt : Exchange σ ε α} {inspect : Exchange σ ε (Option α)}

/-- A result that is faithful when seen from the state before. -/
def Sound (recorded : σ → Option α) (applied : σ → Nat) (same : α → α → Prop) (s : σ)
    (result : Except ε α × σ) : Prop :=
  Keeps recorded applied s result.2 ∧
    ∀ a, result.1 = .ok a → ∃ r, recorded result.2 = some r ∧ same a r

theorem Sound.after {result : Except ε α × σ} (h : Sound recorded applied same s' result)
    (hKeeps : Keeps recorded applied s s') : Sound recorded applied same s result :=
  ⟨hKeeps.trans h.1, h.2⟩

theorem sound_error (hKeeps : Keeps recorded applied s s') (e : ε) :
    Sound recorded applied same s (.error e, s') :=
  ⟨hKeeps, fun _ hAnswer => by cases hAnswer⟩

variable {a : α}

theorem sound_ok {r : α} (hKeeps : Keeps recorded applied s s') (hRecorded : recorded s' = some r)
    (hSame : same a r) : Sound recorded applied same s ((.ok a, s') : Except ε α × σ) := by
  refine ⟨hKeeps, fun b hAnswer => ?_⟩
  cases hAnswer
  exact ⟨r, hRecorded, hSame⟩

theorem Faithful.sound (h : Faithful recorded applied same some attempt) (s : σ) :
    Sound recorded applied same s (attempt s) :=
  ⟨h.keeps s, fun a hAnswer => h.reports s a a hAnswer rfl⟩

theorem faithful_of_sound (h : ∀ s, Sound recorded applied same s (attempt s)) :
    Faithful recorded applied same some attempt := by
  refine ⟨fun s => (h s).1, fun s b a hAnswer hView => ?_⟩
  obtain rfl := Option.some.inj hView
  exact (h s).2 b hAnswer

theorem Faithful.inspected (h : Faithful recorded applied same id inspect)
    (hAnswer : inspect s = (.ok (some a), s')) :
    Sound recorded applied same s ((.ok a, s') : Except ε α × σ) := by
  have hKeeps := h.keeps s
  obtain ⟨r, hRecorded, hSame⟩ := h.reports s (some a) a (by rw [hAnswer]) rfl
  rw [hAnswer] at hKeeps hRecorded
  exact sound_ok hKeeps hRecorded hSame

theorem Faithful.keeps_of_eq (h : Faithful recorded applied same view f) {answer : Except ε β}
    (hAnswer : f s = (answer, s')) : Keeps recorded applied s s' := by
  have hKeeps := h.keeps s
  rwa [hAnswer] at hKeeps

section

variable (hAttempt : Faithful recorded applied same some attempt)
include hAttempt

section

variable (hInspect : Faithful recorded applied same id inspect)
include hInspect

theorem again_sound (initial : ε) (s : σ) :
    Sound recorded applied same s (again unknown attempt inspect initial s) := by
  have hSound := hAttempt.sound s
  unfold again
  split
  · rename_i a s₁ hAnswer
    rwa [hAnswer] at hSound
  · rename_i e s₁ hAnswer
    have hKeeps := hAttempt.keeps_of_eq hAnswer
    split
    · split
      · rename_i a s₂ hInspected
        exact (hInspect.inspected hInspected).after hKeeps
      · rename_i s₂ hInspected
        exact sound_error (hKeeps.trans (hInspect.keeps_of_eq hInspected)) _
      · rename_i e₂ s₂ hInspected
        have hKeeps₂ := hKeeps.trans (hInspect.keeps_of_eq hInspected)
        split
        · exact sound_error hKeeps₂ _
        · exact sound_error hKeeps₂ _
    · exact sound_error hKeeps _

theorem recover_sound (initial : ε) (s : σ) :
    Sound recorded applied same s (recover unknown attempt inspect initial s) := by
  unfold recover
  split
  · rename_i a s₁ hInspected
    exact hInspect.inspected hInspected
  · rename_i s₁ hInspected
    exact (again_sound hAttempt hInspect initial s₁).after (hInspect.keeps_of_eq hInspected)
  · rename_i e s₁ hInspected
    have hKeeps := hInspect.keeps_of_eq hInspected
    split
    · exact (again_sound hAttempt hInspect initial s₁).after hKeeps
    · exact sound_error hKeeps _

theorem withRecovery_faithful :
    Faithful recorded applied same some
      (withRecovery unknown attempt (recover unknown attempt inspect)) := by
  refine faithful_of_sound fun s => ?_
  have hSound := hAttempt.sound s
  unfold withRecovery
  split
  · rename_i a s₁ hAnswer
    rwa [hAnswer] at hSound
  · rename_i e s₁ hAnswer
    have hKeeps := hAttempt.keeps_of_eq hAnswer
    split
    · exact (recover_sound hAttempt hInspect e s₁).after hKeeps
    · exact sound_error hKeeps _

end

end

end Idempotence

/-! ## Invariants

What every attempt and every question keeps is kept by a recovery, and what they establish
with an answer holds of the answer of the recovery. -/

section Invariants

/-- A call keeps an invariant and establishes a fact about each of its answers. -/
def Ensures (invariant : σ → Prop) (answered : β → σ → Prop) (f : Exchange σ ε β) : Prop :=
  ∀ s, invariant s → invariant (f s).2 ∧ ∀ b, (f s).1 = .ok b → answered b (f s).2

variable {invariant : σ → Prop} {answered : α → σ → Prop} {unknown : ε → Bool}
  {attempt : Exchange σ ε α} {inspect : Exchange σ ε (Option α)} {s s' : σ}

/-- What is known of an answer to a question. -/
def found (answered : α → σ → Prop) (answer : Option α) (s : σ) : Prop :=
  ∀ a, answer = some a → answered a s

variable {f : Exchange σ ε β}

theorem Ensures.keeps {answered : β → σ → Prop} (h : Ensures invariant answered f)
    {answer : Except ε β} (hAnswer : f s = (answer, s')) (hBefore : invariant s) :
    invariant s' := by
  have hAfter := (h s hBefore).1
  rwa [hAnswer] at hAfter

theorem Ensures.answers {answered : β → σ → Prop} (h : Ensures invariant answered f) {b : β}
    (hAnswer : f s = (.ok b, s')) (hBefore : invariant s) : answered b s' := by
  have hAnswered := (h s hBefore).2 b (by rw [hAnswer])
  rwa [hAnswer] at hAnswered

theorem Ensures.read {told : β → σ → Prop} (h : Ensures invariant told f)
    {read : β → Except ε (Option α)}
    (hRead : ∀ b a s, told b s → read b = .ok (some a) → answered a s) :
    Ensures invariant (found answered) fun s => ((f s).1.bind read, (f s).2) := by
  intro s hBefore
  obtain ⟨hAfter, hTold⟩ := h s hBefore
  refine ⟨hAfter, fun answer hAnswer a hSome => ?_⟩
  subst hSome
  dsimp only at hAnswer ⊢
  cases hResult : (f s).1 with
  | error e =>
    rw [hResult] at hAnswer
    cases hAnswer
  | ok b =>
    rw [hResult] at hAnswer
    exact hRead b a _ (hTold b hResult) hAnswer

theorem keeps_error (h : invariant s) (e : ε) : invariant (Except.error (α := α) e, s).2 ∧
      ∀ a, (Except.error (α := α) e, s).1 = .ok a → answered a s :=
  ⟨h, fun _ hAnswer => by cases hAnswer⟩

theorem keeps_ok {a : α} (h : invariant s) (hAnswered : answered a s) :
    invariant (Except.ok (ε := ε) a, s).2 ∧
      ∀ b, (Except.ok (ε := ε) a, s).1 = .ok b → answered b s := by
  refine ⟨h, fun b hAnswer => ?_⟩
  cases hAnswer
  exact hAnswered

section

variable (hAttempt : Ensures invariant answered attempt)
include hAttempt

section

variable (hInspect : Ensures invariant (found answered) inspect)
include hInspect

theorem again_ensures (initial : ε) :
    Ensures invariant answered (again unknown attempt inspect initial) := by
  intro s hBefore
  unfold again
  split
  · rename_i a s₁ hAnswer
    exact keeps_ok (hAttempt.keeps hAnswer hBefore) (hAttempt.answers hAnswer hBefore)
  · rename_i e s₁ hAnswer
    have hMiddle := hAttempt.keeps hAnswer hBefore
    split
    · split
      · rename_i a s₂ hInspected
        exact keeps_ok (hInspect.keeps hInspected hMiddle)
          (hInspect.answers hInspected hMiddle a rfl)
      · rename_i s₂ hInspected
        exact keeps_error (hInspect.keeps hInspected hMiddle) _
      · rename_i e₂ s₂ hInspected
        have hAfter := hInspect.keeps hInspected hMiddle
        split
        · exact keeps_error hAfter _
        · exact keeps_error hAfter _
    · exact keeps_error hMiddle _

theorem recover_ensures (initial : ε) :
    Ensures invariant answered (recover unknown attempt inspect initial) := by
  intro s hBefore
  have hAgain : Ensures invariant answered (again unknown attempt inspect initial) :=
    again_ensures hAttempt hInspect initial
  unfold recover
  split
  · rename_i a s₁ hInspected
    exact keeps_ok (hInspect.keeps hInspected hBefore) (hInspect.answers hInspected hBefore a rfl)
  · rename_i s₁ hInspected
    exact hAgain s₁ (hInspect.keeps hInspected hBefore)
  · rename_i e s₁ hInspected
    have hMiddle := hInspect.keeps hInspected hBefore
    split
    · exact hAgain s₁ hMiddle
    · exact keeps_error hMiddle _

theorem withRecovery_ensures :
    Ensures invariant answered
      (withRecovery unknown attempt (recover unknown attempt inspect)) := by
  intro s hBefore
  unfold withRecovery
  split
  · rename_i a s₁ hAnswer
    exact keeps_ok (hAttempt.keeps hAnswer hBefore) (hAttempt.answers hAnswer hBefore)
  · rename_i e s₁ hAnswer
    have hMiddle := hAttempt.keeps hAnswer hBefore
    split
    · exact recover_ensures hAttempt hInspect e s₁ hMiddle
    · exact keeps_error hMiddle _

end

end

end Invariants

/-! ## A link that loses nothing -/

/-- A caller that gets every answer of its client, those of the client included that report a
lost message. -/
def Link.direct (lost : ε) : Link σ ε where
  delivery _ := .delivered
  others _ s := s
  lost _ := lost

theorem Ensures.direct {invariant : σ → Prop} {answered : β → σ → Prop} {f : Exchange σ ε β}
    (h : Ensures invariant answered f) (lost : ε) :
    Ensures (fun session => invariant session.state)
      (fun b session => answered b session.state) ((Link.direct lost).call f) :=
  fun session hBefore => h session.state hBefore

end KongRust.Remote

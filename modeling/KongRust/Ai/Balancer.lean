import KongRust.Ai.ModelRouter
import KongRust.Storage.Dbless

/-!
# Model groups

`ModelGroupBalancer`: the highest priority with a usable model, and in it the model by weight. The
health of a model is one deadline that every cooldown overwrites, so that a refusal for too many
requests can end a longer cooldown early.
-/

namespace KongRust.Ai

open Storage (KongError)

def seconds (n : Nat) : Nat := n * 1000000000

structure ModelHealth where
  consecutiveFailures : UInt32
  cooldownUntil : Option Nat

namespace ModelHealth

def new : ModelHealth := ⟨0, none⟩

variable (health : ModelHealth)

def isAvailable (health : ModelHealth) (now : Nat) : Bool :=
  match health.cooldownUntil with
  | some t => t ≤ now
  | none => true

def enterCooldown (health : ModelHealth) (now duration : Nat) : ModelHealth :=
  { health with cooldownUntil := some (now + duration) }

/-- `report_failure`, on the health of the model. -/
def noteFailure (health : ModelHealth) (now : Nat) (status : Option UInt16) : ModelHealth :=
  if status = some 429 then health.enterCooldown now (seconds 10)
  else
    let failures := health.consecutiveFailures + 1
    let counted := { health with consecutiveFailures := failures }
    if 3 ≤ failures then counted.enterCooldown now (seconds 30) else counted

end ModelHealth

structure ModelEntry where
  model : AiModel
  providerConfig : AiProviderConfig
  health : ModelHealth

@[ext]
structure ModelGroupBalancer where
  entries : List ModelEntry
  counter : UInt64

def fitsTokenBudget (model : AiModel) (promptTokens : Option UInt64) : Bool :=
  match promptTokens, model.maxInputTokens with
  | none, _ => true
  | _, none => true
  | some pt, some cap => if cap ≤ 0 then true else pt.toNat ≤ cap.toInt.toNat

/-- `Vec::dedup`. -/
def dedup : List Int32 → List Int32
  | [] => []
  | [a] => [a]
  | a :: b :: rest => if a = b then dedup (b :: rest) else a :: dedup (b :: rest)

/-- The order of the entries: by priority downwards, then by identifier. -/
def ModelEntry.Before (a b : ModelEntry) : Prop :=
  b.model.priority < a.model.priority ∨
    a.model.priority = b.model.priority ∧ a.model.id ≤ b.model.id

instance (a b : ModelEntry) : Decidable (a.Before b) :=
  inferInstanceAs (Decidable (_ ∨ _ ∧ _))

inductive BalancerCall where
  | selectFor (promptTokens : Option UInt64)
  | reportSuccess (modelId : Uuid)
  | reportFailure (modelId : Uuid) (status : Option UInt16)

namespace ModelGroupBalancer

def new (models : List (AiModel × AiProviderConfig)) : ModelGroupBalancer where
  entries := (models.map fun entry => ⟨entry.1, entry.2, .new⟩).insertionSort ModelEntry.Before
  counter := 0

variable (balancer : ModelGroupBalancer)

def candidates (now : Nat) (promptTokens : Option UInt64) (priority : Int32) : List ModelEntry :=
  balancer.entries.filter fun e => e.model.priority == priority && e.model.enabled &&
    e.health.isAvailable now && fitsTokenBudget e.model promptTokens

def priorities : List Int32 := dedup (balancer.entries.map fun e => e.model.priority)

def tier (now : Nat) (promptTokens : Option UInt64) : Option (List ModelEntry) :=
  balancer.priorities.findSome? fun priority =>
    let candidates := balancer.candidates now promptTokens priority
    if candidates.isEmpty then none else some candidates

end ModelGroupBalancer

variable (models : List AiModel)

def modelWeights (models : List AiModel) : List Nat :=
  models.map fun model => model.weight.toInt.toNat

/-- The index of the candidate that a number of the counter selects. -/
def chooseCandidate (models : List AiModel) (sequence : UInt64) : Option Nat :=
  if (modelWeights models).all fun weight => weight == 0 then
    some (sequence.toNat % models.length)
  else weightedRoundRobinIndex (modelWeights models) sequence.toNat

namespace ModelGroupBalancer

variable (balancer : ModelGroupBalancer) (now : Nat)

/-- `select_for`, with the balancer after it. The last error stands for an expectation of the code
that is always met. -/
def selectFor (now : Nat) (promptTokens : Option UInt64) :
    Except KongError (AiModel × AiProviderConfig) × ModelGroupBalancer :=
  if balancer.entries.isEmpty then
    (.error (.internalError "model group is empty"), balancer)
  else
    match balancer.tier now promptTokens with
    | none => (.error (.internalError
        "all models in group are unavailable (cooldown or disabled)"), balancer)
    | some candidates =>
      let after := { balancer with counter := balancer.counter + 1 }
      let chosen := (chooseCandidate (candidates.map ModelEntry.model) balancer.counter).bind
        fun index => candidates[index]?
      match chosen with
      | some entry => (.ok (entry.model, entry.providerConfig), after)
      | none => (.error (.internalError "positive model weights must produce a selection"), after)

def updateHealth (modelId : Uuid) (change : ModelHealth → ModelHealth) :
    List ModelEntry → List ModelEntry
  | [] => []
  | e :: rest =>
    if e.model.id = modelId then { e with health := change e.health } :: rest
    else e :: updateHealth modelId change rest

def reportSuccess (modelId : Uuid) : ModelGroupBalancer :=
  { balancer with entries := updateHealth modelId (fun _ => .new) balancer.entries }

def reportFailure (now : Nat) (modelId : Uuid) (status : Option UInt16) : ModelGroupBalancer :=
  { balancer with
    entries := updateHealth modelId (fun health => health.noteFailure now status)
      balancer.entries }

def call (now : Nat) : BalancerCall → ModelGroupBalancer
  | .selectFor promptTokens => (balancer.selectFor now promptTokens).2
  | .reportSuccess modelId => balancer.reportSuccess modelId
  | .reportFailure modelId status => balancer.reportFailure now modelId status

def run (calls : List (Nat × BalancerCall)) : ModelGroupBalancer :=
  calls.foldl (fun balancer timed => balancer.call timed.1 timed.2) balancer

end ModelGroupBalancer

/-! ## The tiers -/

section Tiers

variable {balancer : ModelGroupBalancer}

theorem mem_dedup {a : Int32} {l : List Int32} : a ∈ dedup l ↔ a ∈ l := by
  induction l using dedup.induct with
  | case1 | case2 b => rfl
  | case3 b rest ih =>
    rw [dedup, if_pos rfl, ih]
    simp
  | case4 b c rest hNe ih => rw [dedup, if_neg hNe, List.mem_cons, List.mem_cons, ih]

theorem dedup_sublist (l : List Int32) : (dedup l).Sublist l := by
  induction l using dedup.induct with
  | case1 => exact .slnil
  | case2 b => exact List.Sublist.refl _
  | case3 b rest ih =>
    rw [dedup, if_pos rfl]
    exact ih.cons b
  | case4 b c rest hNe ih =>
    rw [dedup, if_neg hNe]
    exact ih.cons_cons b

def ModelEntry.Usable (e : ModelEntry) (now : Nat) (promptTokens : Option UInt64) : Prop :=
  e.model.enabled = true ∧ e.health.isAvailable now = true ∧
    fitsTokenBudget e.model promptTokens = true

variable {now : Nat} {promptTokens : Option UInt64}

theorem mem_candidates {priority : Int32} {e : ModelEntry} :
    e ∈ balancer.candidates now promptTokens priority ↔
      e ∈ balancer.entries ∧ e.model.priority = priority ∧ e.Usable now promptTokens := by
  unfold ModelGroupBalancer.candidates ModelEntry.Usable
  rw [List.mem_filter]
  simp only [Bool.and_eq_true, beq_iff_eq]
  tauto

theorem tier_none : balancer.tier now promptTokens = none ↔
      ∀ e ∈ balancer.entries, ¬ e.Usable now promptTokens := by
  unfold ModelGroupBalancer.tier
  rw [List.findSome?_eq_none_iff]
  constructor
  · intro hNone e hMem hUsable
    have hPriority := hNone e.model.priority (mem_dedup.mpr (List.mem_map.mpr ⟨e, hMem, rfl⟩))
    have hIn : e ∈ balancer.candidates now promptTokens e.model.priority :=
      mem_candidates.mpr ⟨hMem, rfl, hUsable⟩
    dsimp only at hPriority
    rw [if_neg] at hPriority
    · cases hPriority
    · rw [List.isEmpty_iff]
      exact List.ne_nil_of_mem hIn
  · intro hNone priority _
    dsimp only
    rw [if_pos]
    rw [List.isEmpty_iff, List.eq_nil_iff_forall_not_mem]
    intro e hIn
    obtain ⟨hMem, -, hUsable⟩ := mem_candidates.mp hIn
    exact hNone e hMem hUsable

/-- A tier holds the usable entries of a priority above which none is usable. -/
theorem tier_some {tier : List ModelEntry}
    (hSorted : balancer.entries.Pairwise fun a b => b.model.priority ≤ a.model.priority)
    (h : balancer.tier now promptTokens = some tier) : tier ≠ [] ∧ ∃ priority,
      tier = balancer.candidates now promptTokens priority ∧
      ∀ e ∈ balancer.entries, e.Usable now promptTokens → e.model.priority ≤ priority := by
  obtain ⟨before, priority, after, hSplit, hTier, hBefore⟩ := List.findSome?_eq_some_iff.mp h
  dsimp only at hTier
  split at hTier
  · cases hTier
  · rename_i hNonempty
    rw [Option.some.injEq] at hTier
    subst hTier
    refine ⟨by simpa [List.isEmpty_iff] using hNonempty, priority, rfl, ?_⟩
    intro e hMem hUsable
    have hDown : balancer.priorities.Pairwise fun a b => b ≤ a :=
      (List.pairwise_map.mpr hSorted).sublist (dedup_sublist _)
    have hListed : e.model.priority ∈ balancer.priorities :=
      mem_dedup.mpr (List.mem_map.mpr ⟨e, hMem, rfl⟩)
    rw [hSplit] at hDown hListed
    rcases List.mem_append.mp hListed with hEarlier | hLater
    · -- an earlier priority would have had this candidate
      have hNone := hBefore e.model.priority hEarlier
      dsimp only at hNone
      rw [if_neg] at hNone
      · cases hNone
      · rw [List.isEmpty_iff]
        exact List.ne_nil_of_mem (mem_candidates.mpr ⟨hMem, rfl, hUsable⟩)
    · rcases List.mem_cons.mp hLater with hSame | hBehind
      · rw [hSame]
        exact Int32.le_refl _
      · obtain ⟨-, hTail, -⟩ := List.pairwise_append.mp hDown
        exact (List.pairwise_cons.mp hTail).1 _ hBehind

theorem chooseCandidate_lt {models : List AiModel} (hModels : models ≠ []) (sequence : UInt64) :
    ∃ index, chooseCandidate models sequence = some index ∧ index < models.length := by
  have hPos : 0 < models.length := List.length_pos_of_ne_nil hModels
  unfold chooseCandidate
  split
  · exact ⟨_, rfl, Nat.mod_lt _ hPos⟩
  · rename_i hWeights
    have hDivisor : (modelWeights models).foldl gcd 0 ≠ 0 := by
      intro hZero
      apply hWeights
      rw [List.all_eq_true]
      intro weight hWeight
      rw [divisor_eq_zero.mp hZero weight hWeight, beq_self_eq_true]
    obtain ⟨index, hIndex⟩ := weightedRoundRobinIndex_some hDivisor sequence.toNat
    refine ⟨index, hIndex, ?_⟩
    have hLt := weightedRoundRobinIndex_lt hDivisor hIndex
    rwa [modelWeights, List.length_map] at hLt

/-- What `select_for` answers: a usable model of the highest priority that has one, an error if
there is none. -/
theorem selectFor_spec
    (hSorted : balancer.entries.Pairwise fun a b => b.model.priority ≤ a.model.priority) :
    ((∃ error, (balancer.selectFor now promptTokens).1 = .error error) ∧
        ∀ e ∈ balancer.entries, ¬ e.Usable now promptTokens) ∨
      ∃ e ∈ balancer.entries,
        (balancer.selectFor now promptTokens).1 = .ok (e.model, e.providerConfig) ∧
        e.Usable now promptTokens ∧
        ∀ other ∈ balancer.entries, other.Usable now promptTokens →
          other.model.priority ≤ e.model.priority := by
  unfold ModelGroupBalancer.selectFor
  split
  · rename_i hEmpty
    rw [List.isEmpty_iff] at hEmpty
    refine .inl ⟨⟨_, rfl⟩, ?_⟩
    rw [hEmpty]
    intro e hMem
    cases hMem
  · split
    · rename_i hTier
      exact .inl ⟨⟨_, rfl⟩, tier_none.mp hTier⟩
    · rename_i tier hTier
      obtain ⟨hNonempty, priority, rfl, hHighest⟩ := tier_some hSorted hTier
      have hModels : (balancer.candidates now promptTokens priority).map ModelEntry.model ≠ [] := by
        simpa using hNonempty
      obtain ⟨index, hIndex, hLt⟩ := chooseCandidate_lt hModels balancer.counter
      rw [List.length_map] at hLt
      rw [hIndex, Option.bind_some, List.getElem?_eq_getElem hLt]
      have hIn := List.getElem_mem hLt
      generalize (balancer.candidates now promptTokens priority)[index] = e at hIn ⊢
      obtain ⟨hMem, hPriority, hUsable⟩ := mem_candidates.mp hIn
      refine .inr ⟨e, hMem, rfl, hUsable, ?_⟩
      intro other hOther hOtherUsable
      rw [hPriority]
      exact hHighest other hOther hOtherUsable

end Tiers

/-! ## Cooldowns -/

/-- What was reported of a model since its last success: how many failures other than refusals for
too many requests, and when the cooldowns of its failures end. -/
structure Ledger where
  failures : Nat
  cooldowns : List Nat

def Ledger.note (modelId : Uuid) (ledger : Ledger) (timed : Nat × BalancerCall) : Ledger :=
  match timed.2 with
  | .selectFor _ => ledger
  | .reportSuccess id => if id = modelId then ⟨0, []⟩ else ledger
  | .reportFailure id status =>
    if id = modelId then
      if status = some 429 then
        { ledger with cooldowns := ledger.cooldowns ++ [timed.1 + seconds 10] }
      else
        ⟨ledger.failures + 1, if 3 ≤ ledger.failures + 1 then
          ledger.cooldowns ++ [timed.1 + seconds 30] else ledger.cooldowns⟩
    else ledger

def ledgerOf (modelId : Uuid) (calls : List (Nat × BalancerCall)) : Ledger :=
  calls.foldl (Ledger.note modelId) ⟨0, []⟩

def Cooling (calls : List (Nat × BalancerCall)) (modelId : Uuid) (now : Nat) : Prop :=
  ∃ d ∈ (ledgerOf modelId calls).cooldowns, now < d

def Available (calls : List (Nat × BalancerCall)) (now : Nat) (promptTokens : Option UInt64)
    (model : AiModel) : Prop :=
  model.enabled = true ∧ fitsTokenBudget model promptTokens = true ∧ ¬ Cooling calls model.id now

/-- The call shortens no cooldown: a refusal for too many requests comes when every cooldown ends
within ten seconds, and the number of failures does not turn over. -/
def KeepsCooldowns (before : List (Nat × BalancerCall)) (timed : Nat × BalancerCall) : Prop :=
  match timed.2 with
  | .reportFailure id status =>
    (status = some 429 →
      ∀ d ∈ (ledgerOf id before).cooldowns, d ≤ timed.1 + seconds 10) ∧
    (status ≠ some 429 → (ledgerOf id before).failures + 1 < 2 ^ 32)
  | _ => True

def Unshortened (calls : List (Nat × BalancerCall)) : Prop :=
  ∀ before timed after, calls = before ++ timed :: after → KeepsCooldowns before timed

def Timed (calls : List (Nat × BalancerCall)) : Prop := (calls.map Prod.fst).Pairwise (· ≤ ·)

section Cooldowns

theorem ledgerOf_concat (modelId : Uuid) (calls : List (Nat × BalancerCall))
    (timed : Nat × BalancerCall) :
    ledgerOf modelId (calls ++ [timed]) = (ledgerOf modelId calls).note modelId timed := by
  unfold ledgerOf
  rw [List.foldl_append]
  rfl

variable {modelId : Uuid} {calls : List (Nat × BalancerCall)} {d : Nat}

/-- No cooldown is longer than thirty seconds. -/
theorem cooldown_bound (h : d ∈ (ledgerOf modelId calls).cooldowns) :
    ∃ timed ∈ calls, d ≤ timed.1 + seconds 30 := by
  induction calls using List.reverseRecOn with
  | nil => cases h
  | append_singleton calls timed ih =>
    have hOld : d ∈ (ledgerOf modelId calls).cooldowns →
        ∃ other ∈ calls ++ [timed], d ≤ other.1 + seconds 30 := by
      intro hMem
      obtain ⟨other, hOther, hLe⟩ := ih hMem
      exact ⟨other, List.mem_append_left _ hOther, hLe⟩
    have hNew (duration : Nat) (hDuration : duration ≤ seconds 30)
        (hMem : d ∈ (ledgerOf modelId calls).cooldowns ++ [timed.1 + duration]) :
        ∃ other ∈ calls ++ [timed], d ≤ other.1 + seconds 30 := by
      rcases List.mem_append.mp hMem with hMem | hMem
      · exact hOld hMem
      · rw [List.mem_singleton] at hMem
        exact ⟨timed, by simp, by omega⟩
    rw [ledgerOf_concat] at h
    unfold Ledger.note at h
    split at h
    · exact hOld h
    · split at h
      · cases h
      · exact hOld h
    · split at h
      · split at h
        · exact hNew _ (by decide) h
        · dsimp only at h
          split at h
          · exact hNew _ (Nat.le_refl _) h
          · exact hOld h
      · exact hOld h

/-- The health of a model says what its ledger says. -/
structure ModelHealth.Tracks (health : ModelHealth) (ledger : Ledger) : Prop where
  failures : health.consecutiveFailures.toNat = ledger.failures
  available : ∀ now, health.isAvailable now = true ↔ ∀ d ∈ ledger.cooldowns, d ≤ now

open ModelHealth

theorem ModelHealth.tracks_new : new.Tracks ⟨0, []⟩ :=
  ⟨rfl, fun _ => by simp [new, isAvailable]⟩

theorem ModelHealth.isAvailable_enterCooldown (health : ModelHealth) (now duration later : Nat) :
    (health.enterCooldown now duration).isAvailable later = true ↔ now + duration ≤ later := by
  simp [enterCooldown, isAvailable]

theorem available_concat {cooldowns : List Nat} {later : Nat}
    (hLast : ∀ other ∈ cooldowns, other ≤ d) :
    d ≤ later ↔ ∀ other ∈ cooldowns ++ [d], other ≤ later := by
  constructor
  · intro hD other hOther
    rcases List.mem_append.mp hOther with hOther | hOther
    · exact (hLast other hOther).trans hD
    · rw [List.mem_singleton.mp hOther]
      exact hD
  · intro hAll
    exact hAll d (by simp)

theorem ModelHealth.Tracks.noteFailure {health : ModelHealth} {ledger : Ledger}
    (h : health.Tracks ledger) {now : Nat} {status : Option UInt16}
    (hRefused : status = some 429 → ∀ d ∈ ledger.cooldowns, d ≤ now + seconds 10)
    (hCount : status ≠ some 429 → ledger.failures + 1 < 2 ^ 32)
    (hBound : ∀ d ∈ ledger.cooldowns, d ≤ now + seconds 30) :
    (health.noteFailure now status).Tracks
      (ledger.note modelId (now, .reportFailure modelId status)) := by
  unfold ModelHealth.noteFailure Ledger.note
  dsimp only
  rw [if_pos rfl]
  by_cases hStatus : status = some 429
  · rw [if_pos hStatus, if_pos hStatus]
    refine ⟨h.failures, fun later => ?_⟩
    rw [isAvailable_enterCooldown]
    exact available_concat (hRefused hStatus)
  · rw [if_neg hStatus, if_neg hStatus]
    have hNext : (health.consecutiveFailures + 1).toNat = ledger.failures + 1 := by
      have hLess := hCount hStatus
      rw [UInt32.toNat_add, h.failures]
      exact Nat.mod_eq_of_lt hLess
    have hThree : 3 ≤ health.consecutiveFailures + 1 ↔ 3 ≤ ledger.failures + 1 := by
      rw [UInt32.le_iff_toNat_le, hNext]
      rfl
    by_cases hMany : 3 ≤ ledger.failures + 1
    · rw [if_pos (hThree.mpr hMany), if_pos hMany]
      refine ⟨hNext, fun later => ?_⟩
      rw [isAvailable_enterCooldown]
      exact available_concat hBound
    · rw [if_neg (mt hThree.mp hMany), if_neg hMany]
      exact ⟨hNext, h.available⟩

/-! ### The entries along a run -/

theorem updateHealth_eq {change : ModelHealth → ModelHealth} {entries : List ModelEntry}
    (hIds : (entries.map fun e => e.model.id).Nodup) :
    ModelGroupBalancer.updateHealth modelId change entries = entries.map fun e =>
      if e.model.id = modelId then { e with health := change e.health } else e := by
  induction entries with
  | nil => rfl
  | cons e entries ih =>
    obtain ⟨hHead, hTail⟩ := List.nodup_cons.mp hIds
    rw [ModelGroupBalancer.updateHealth, List.map_cons]
    by_cases hId : e.model.id = modelId
    · rw [if_pos hId, if_pos hId]
      have hOthers : ∀ other ∈ entries, other.model.id ≠ modelId := by
        intro other hOther hSame
        exact hHead (List.mem_map.mpr ⟨other, hOther, hSame.trans hId.symm⟩)
      rw [List.map_congr_left fun other hOther => if_neg (hOthers other hOther), List.map_id']
    · rw [if_neg hId, if_neg hId, ih hTail]

variable (e : ModelEntry)

def ModelEntry.after (e : ModelEntry) (timed : Nat × BalancerCall) : ModelEntry :=
  match timed.2 with
  | .selectFor _ => e
  | .reportSuccess id => if e.model.id = id then { e with health := .new } else e
  | .reportFailure id status =>
    if e.model.id = id then { e with health := e.health.noteFailure timed.1 status } else e

@[simp] theorem ModelEntry.after_model (timed : Nat × BalancerCall) :
    (e.after timed).model = e.model := by
  unfold ModelEntry.after
  split
  · rfl
  · split <;> rfl
  · split <;> rfl

@[simp] theorem ModelEntry.after_providerConfig (timed : Nat × BalancerCall) :
    (e.after timed).providerConfig = e.providerConfig := by
  unfold ModelEntry.after
  split
  · rfl
  · split <;> rfl
  · split <;> rfl

theorem selectFor_entries (balancer : ModelGroupBalancer) (now : Nat)
    (promptTokens : Option UInt64) :
    (balancer.selectFor now promptTokens).2.entries = balancer.entries := by
  unfold ModelGroupBalancer.selectFor
  split
  · rfl
  · split
    · rfl
    · dsimp only
      split <;> rfl

variable {balancer : ModelGroupBalancer}

theorem call_entries (hIds : (balancer.entries.map fun e => e.model.id).Nodup)
    (timed : Nat × BalancerCall) :
    (balancer.call timed.1 timed.2).entries = balancer.entries.map fun e => e.after timed := by
  unfold ModelGroupBalancer.call ModelEntry.after
  split
  · rw [selectFor_entries, List.map_id']
  · exact updateHealth_eq hIds
  · exact updateHealth_eq hIds

theorem run_concat (balancer : ModelGroupBalancer) (calls : List (Nat × BalancerCall))
    (timed : Nat × BalancerCall) :
    balancer.run (calls ++ [timed]) = (balancer.run calls).call timed.1 timed.2 := by
  unfold ModelGroupBalancer.run
  rw [List.foldl_append]
  rfl

/-- The entries of a run, with their models as they were and the health that their ledgers say. -/
structure ModelGroupBalancer.Follows (balancer reached : ModelGroupBalancer)
    (calls : List (Nat × BalancerCall)) : Prop where
  models : reached.entries.map (fun e => (e.model, e.providerConfig)) =
    balancer.entries.map fun e => (e.model, e.providerConfig)
  health : ∀ e ∈ reached.entries, e.health.Tracks (ledgerOf e.model.id calls)

theorem ModelEntry.after_tracks {e : ModelEntry} {timed : Nat × BalancerCall}
    (h : e.health.Tracks (ledgerOf e.model.id calls)) (hTimes : ∀ other ∈ calls, other.1 ≤ timed.1)
    (hKeeps : KeepsCooldowns calls timed) :
    (e.after timed).health.Tracks (ledgerOf e.model.id (calls ++ [timed])) := by
  rw [ledgerOf_concat]
  obtain ⟨now, call⟩ := timed
  cases call with
  | selectFor promptTokens => exact h
  | reportSuccess id =>
    unfold ModelEntry.after Ledger.note
    dsimp only
    by_cases hId : e.model.id = id
    · rw [if_pos hId, if_pos hId.symm]
      exact tracks_new
    · rw [if_neg hId, if_neg (Ne.symm hId)]
      exact h
  | reportFailure id status =>
    by_cases hId : e.model.id = id
    · subst hId
      obtain ⟨hRefused, hCount⟩ := hKeeps
      have hBound : ∀ d ∈ (ledgerOf e.model.id calls).cooldowns, d ≤ now + seconds 30 := by
        intro d hD
        obtain ⟨other, hOther, hLe⟩ := cooldown_bound hD
        have hTime := hTimes other hOther
        dsimp only at hTime
        omega
      unfold ModelEntry.after
      dsimp only
      rw [if_pos rfl]
      exact h.noteFailure hRefused hCount hBound
    · unfold ModelEntry.after Ledger.note
      dsimp only
      rw [if_neg hId, if_neg (Ne.symm hId)]
      exact h

theorem run_follows (hIds : (balancer.entries.map fun e => e.model.id).Nodup)
    (hNew : ∀ e ∈ balancer.entries, e.health = .new) (hTimed : Timed calls)
    (hKept : Unshortened calls) : balancer.Follows (balancer.run calls) calls := by
  induction calls using List.reverseRecOn with
  | nil =>
    refine ⟨rfl, fun e hE => ?_⟩
    rw [hNew e hE]
    exact tracks_new
  | append_singleton calls timed ih =>
    unfold Timed at hTimed
    rw [List.map_append, List.pairwise_append] at hTimed
    obtain ⟨hBefore, -, hLast⟩ := hTimed
    obtain ⟨hModels, hHealth⟩ := ih hBefore fun before other after hSplit =>
      hKept before other (after ++ [timed]) (by rw [hSplit]; simp)
    have hTimes : ∀ other ∈ calls, other.1 ≤ timed.1 := by
      intro other hOther
      exact hLast _ (List.mem_map_of_mem hOther) _ (by simp)
    have hReachedIds : ((balancer.run calls).entries.map fun e => e.model.id).Nodup := by
      have hSame := congrArg (List.map fun pair => pair.1.id) hModels
      rw [List.map_map, List.map_map] at hSame
      exact hSame ▸ hIds
    rw [run_concat]
    refine ⟨?_, ?_⟩
    · rw [call_entries hReachedIds, List.map_map, ← hModels]
      apply List.map_congr_left
      intro e _
      simp
    · rw [call_entries hReachedIds]
      intro other hOther
      obtain ⟨e, hE, rfl⟩ := List.mem_map.mp hOther
      rw [ModelEntry.after_model]
      exact ModelEntry.after_tracks (hHealth e hE) hTimes (hKept calls timed [] rfl)

/-! ### Selections along a run -/

instance : Std.Total ModelEntry.Before where
  total a b := by
    unfold ModelEntry.Before
    rw [Int32.lt_iff_toInt_lt, Int32.lt_iff_toInt_lt, ← Int32.toInt_inj, ← Int32.toInt_inj,
      BitVec.le_def, BitVec.le_def]
    omega

instance : IsTrans ModelEntry ModelEntry.Before where
  trans a b c := by
    unfold ModelEntry.Before
    rw [Int32.lt_iff_toInt_lt, Int32.lt_iff_toInt_lt, Int32.lt_iff_toInt_lt, ← Int32.toInt_inj,
      ← Int32.toInt_inj, ← Int32.toInt_inj, BitVec.le_def, BitVec.le_def, BitVec.le_def]
    omega

variable (models : List (AiModel × AiProviderConfig))

theorem new_perm :
    (ModelGroupBalancer.new models).entries.Perm
      (models.map fun entry => ⟨entry.1, entry.2, .new⟩) :=
  List.perm_insertionSort _ _

theorem new_sorted :
    (ModelGroupBalancer.new models).entries.Pairwise fun a b =>
      b.model.priority ≤ a.model.priority := by
  have hSorted : (ModelGroupBalancer.new models).entries.Pairwise ModelEntry.Before :=
    List.pairwise_insertionSort _ _
  refine hSorted.imp ?_
  intro a b hBefore
  rcases hBefore with hLess | ⟨hSame, -⟩
  · exact Int32.le_of_lt hLess
  · rw [hSame]
    exact Int32.le_refl _

theorem mem_run_models {models : List (AiModel × AiProviderConfig)}
    (h : (ModelGroupBalancer.new models).Follows ((ModelGroupBalancer.new models).run calls) calls)
    {entry : AiModel × AiProviderConfig} :
    entry ∈ models ↔ ∃ e ∈ ((ModelGroupBalancer.new models).run calls).entries,
      (e.model, e.providerConfig) = entry := by
  have hPerm := (new_perm models).map fun e => (e.model, e.providerConfig)
  rw [List.map_map] at hPerm
  change List.Perm _ (models.map fun entry => entry) at hPerm
  rw [List.map_id'] at hPerm
  rw [← hPerm.mem_iff, ← h.models, List.mem_map]

/-- After a run that shortens no cooldown, a model that is not cooling down and fits is selected
from the highest priority that has one, and there is an error exactly if there is none. -/
theorem select_available {models : List (AiModel × AiProviderConfig)}
    (hIds : (models.map fun entry => entry.1.id).Nodup) {calls : List (Nat × BalancerCall)}
    {now : Nat} {promptTokens : Option UInt64}
    (hTimed : Timed (calls ++ [(now, .selectFor promptTokens)]))
    (hKept : Unshortened calls) :
    ((∃ error, (((ModelGroupBalancer.new models).run calls).selectFor now promptTokens).1 =
        .error error) ∧ ∀ entry ∈ models, ¬ Available calls now promptTokens entry.1) ∨
      ∃ entry ∈ models,
        (((ModelGroupBalancer.new models).run calls).selectFor now promptTokens).1 = .ok entry ∧
        Available calls now promptTokens entry.1 ∧
        ∀ other ∈ models, Available calls now promptTokens other.1 →
          other.1.priority ≤ entry.1.priority := by
  have hNewIds : ((ModelGroupBalancer.new models).entries.map fun e => e.model.id).Nodup := by
    rw [((new_perm models).map fun e => e.model.id).nodup_iff, List.map_map]
    exact hIds
  have hNew : ∀ e ∈ (ModelGroupBalancer.new models).entries, e.health = .new := by
    intro e hE
    obtain ⟨entry, -, rfl⟩ := List.mem_map.mp ((new_perm models).mem_iff.mp hE)
    rfl
  have hCalls : Timed calls := by
    unfold Timed at hTimed
    rw [List.map_append] at hTimed
    exact (List.pairwise_append.mp hTimed).1
  have hFollows := run_follows hNewIds hNew hCalls hKept
  have hSorted : ((ModelGroupBalancer.new models).run calls).entries.Pairwise fun a b =>
      b.model.priority ≤ a.model.priority := by
    have hNewSorted : ((ModelGroupBalancer.new models).entries.map fun e =>
        (e.model, e.providerConfig)).Pairwise fun a b => b.1.priority ≤ a.1.priority :=
      List.pairwise_map.mpr (new_sorted models)
    rw [← hFollows.models] at hNewSorted
    exact List.pairwise_map.mp hNewSorted
  have hUsable : ∀ e ∈ ((ModelGroupBalancer.new models).run calls).entries,
      e.Usable now promptTokens ↔ Available calls now promptTokens e.model := by
    intro e hE
    unfold ModelEntry.Usable Available Cooling
    rw [(hFollows.health e hE).available]
    push Not
    tauto
  rcases selectFor_spec hSorted with
    ⟨hError, hNone⟩ | ⟨e, hE, hResult, hIs, hHighest⟩
  · refine .inl ⟨hError, ?_⟩
    intro entry hEntry
    obtain ⟨e, hE, rfl⟩ := (mem_run_models hFollows).mp hEntry
    exact mt (hUsable e hE).mpr (hNone e hE)
  · refine .inr ⟨_, (mem_run_models hFollows).mpr ⟨e, hE, rfl⟩, hResult, (hUsable e hE).mp hIs, ?_⟩
    intro other hOther hAvailable
    obtain ⟨o, hO, rfl⟩ := (mem_run_models hFollows).mp hOther
    exact hHighest o hO ((hUsable o hO).mpr hAvailable)

end Cooldowns

def sampleModel (id : Uuid) (priority : Int32) : AiModel × AiProviderConfig :=
  (⟨id, "group", "gpt-4", priority, 0, none, true⟩, ⟨id, "provider", "openai", none, .null, true⟩)

/-- A model that was refused is left for the one of the next priority. -/
theorem select_available_sample :
    ((∃ error, (((ModelGroupBalancer.new [sampleModel 1 1, sampleModel 2 0]).run
        [(0, .reportFailure 1 (some 429))]).selectFor (seconds 1) none).1 = .error error) ∧
      ∀ entry ∈ [sampleModel 1 1, sampleModel 2 0],
        ¬ Available [(0, .reportFailure 1 (some 429))] (seconds 1) none entry.1) ∨
      ∃ entry ∈ [sampleModel 1 1, sampleModel 2 0],
        (((ModelGroupBalancer.new [sampleModel 1 1, sampleModel 2 0]).run
          [(0, .reportFailure 1 (some 429))]).selectFor (seconds 1) none).1 = .ok entry ∧
        Available [(0, .reportFailure 1 (some 429))] (seconds 1) none entry.1 ∧
        ∀ other ∈ [sampleModel 1 1, sampleModel 2 0],
          Available [(0, .reportFailure 1 (some 429))] (seconds 1) none other.1 →
            other.1.priority ≤ entry.1.priority := by
  refine select_available (by decide) (by unfold Timed; decide) ?_
  intro before timed after hSplit
  cases before with
  | nil =>
    cases hSplit
    exact ⟨fun _ d hD => absurd hD List.not_mem_nil, fun _ => by decide⟩
  | cons => simp at hSplit

/-! ### A cooldown cut short -/

/-- Three failures, and a second later a refusal for too many requests. -/
def sampleFailures : List (Nat × BalancerCall) :=
  [(0, .reportFailure 1 none), (0, .reportFailure 1 none), (0, .reportFailure 1 none),
    (seconds 1, .reportFailure 1 (some 429))]

/-- Twelve seconds after the failures the model is selected again, in its cooldown of thirty. -/
theorem cooldown_cut_short : ¬ ∀ (models : List (AiModel × AiProviderConfig))
    (calls : List (Nat × BalancerCall)) (now : Nat) (promptTokens : Option UInt64),
    (models.map fun entry => entry.1.id).Nodup → Timed (calls ++ [(now, .selectFor promptTokens)]) →
    ∀ entry, (((ModelGroupBalancer.new models).run calls).selectFor now promptTokens).1 =
      .ok entry → Available calls now promptTokens entry.1 := by
  intro h
  have hTimed : Timed (sampleFailures ++ [(seconds 12, .selectFor none)]) := by
    unfold Timed
    decide
  have hAvailable := h [sampleModel 1 0] sampleFailures (seconds 12) none (by simp) hTimed
    (sampleModel 1 0) rfl
  exact hAvailable.2.2 ⟨seconds 30, by decide, by decide⟩

end KongRust.Ai

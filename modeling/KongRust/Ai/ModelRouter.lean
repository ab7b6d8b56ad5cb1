import KongRust.Ai.Weighted
import KongRust.Foundation.Json
import KongRust.Foundation.Machine

/-!
# Model routes

`ModelRouter`: the first rule that matches the name of a model takes one of its targets by weight.
All rules draw their numbers from one counter, so that a rule gets consecutive numbers only while
no other one draws.
-/

namespace KongRust.Ai

/-- The fields of `AiModel` that routing reads or sets. -/
structure AiModel where
  id : Uuid
  name : String
  modelName : String
  priority : Int32
  weight : Int32
  maxInputTokens : Option Int32
  enabled : Bool
  deriving DecidableEq

structure AiProviderConfig where
  id : Uuid
  name : String
  providerType : String
  endpointUrl : Option String
  authConfig : Json
  enabled : Bool

structure ModelTargetConfig where
  providerType : String
  modelName : String
  endpointUrl : Option String
  authConfig : Json
  weight : UInt32

/-- A rule with its pattern as `Regex::is_match`. -/
structure CompiledRoute where
  pattern : String → Bool
  patternStr : String
  targets : List ModelTargetConfig

structure RouteResolution where
  providerType : String
  model : AiModel
  providerConfig : AiProviderConfig

structure ModelRouter where
  rules : List CompiledRoute
  counter : UInt64

structure PluginError where
  pluginName : String
  message : String

variable (targets : List ModelTargetConfig)

def targetWeights (targets : List ModelTargetConfig) : List Nat :=
  targets.map fun target => target.weight.toNat

def chooseTarget (targets : List ModelTargetConfig) (counter : UInt64) : Option Nat × UInt64 :=
  if targets.length = 1 then (some 0, counter)
  else if (targetWeights targets).all fun weight => weight == 0 then (some 0, counter)
  else (weightedRoundRobinIndex (targetWeights targets) counter.toNat, counter + 1)

def buildResolution (modelName : String) (target : ModelTargetConfig) : RouteResolution where
  providerType := target.providerType
  model := ⟨0, modelName, target.modelName, 0, 0, none, true⟩
  providerConfig := ⟨0, target.providerType, target.providerType, target.endpointUrl,
    target.authConfig, true⟩

namespace ModelRouter

def ruleIndex (router : ModelRouter) (modelName : String) : Option Nat :=
  router.rules.findIdx? fun rule => rule.pattern modelName

def targetsOf (router : ModelRouter) (k : Nat) : List ModelTargetConfig :=
  (router.rules[k]?.map CompiledRoute.targets).getD []

/-- The rule and the target of a model name, and the router after it. -/
def choose (router : ModelRouter) (modelName : String) : Option (Nat × Nat) × ModelRouter :=
  match router.ruleIndex modelName with
  | none => (none, router)
  | some k =>
    let (index, counter) := chooseTarget (router.targetsOf k) router.counter
    (index.map fun i => (k, i), { router with counter })

/-- `resolve`, with the router after it. -/
def resolve (router : ModelRouter) (modelName : String) : Option RouteResolution × ModelRouter :=
  let (chosen, after) := router.choose modelName
  ((chosen.bind fun target => (router.targetsOf target.1)[target.2]?).map
    (buildResolution modelName), after)

def run (router : ModelRouter) (names : List String) : ModelRouter :=
  names.foldl (fun router name => (router.resolve name).2) router

/-- The targets that calls for a rule take, one after the other. -/
def hits (router : ModelRouter) (k : Nat) : List String → List Nat
  | [] => []
  | name :: names =>
    match (router.choose name).1 with
    | some (rule, target) =>
      if rule = k then target :: hits (router.choose name).2 k names
      else hits (router.choose name).2 k names
    | none => hits (router.choose name).2 k names

def Draws (router : ModelRouter) (k : Nat) : Prop :=
  (router.targetsOf k).length ≠ 1 ∧ ∃ weight ∈ targetWeights (router.targetsOf k), weight ≠ 0

/-! ## Windows of a rule -/

variable {router : ModelRouter}

variable {k : Nat} {name : String}

theorem chooseTarget_idle (h : ¬ router.Draws k) (counter : UInt64) :
    chooseTarget (router.targetsOf k) counter = (some 0, counter) := by
  unfold chooseTarget
  split
  · rfl
  · rename_i hLength
    rw [if_pos]
    rw [List.all_eq_true]
    intro weight hWeight
    by_contra hNe
    exact h ⟨hLength, weight, hWeight, by simpa using hNe⟩

theorem chooseTarget_draws (h : router.Draws k) (counter : UInt64) :
    chooseTarget (router.targetsOf k) counter =
      (weightedRoundRobinIndex (targetWeights (router.targetsOf k)) counter.toNat,
        counter + 1) := by
  obtain ⟨hLength, weight, hMem, hWeight⟩ := h
  unfold chooseTarget
  rw [if_neg hLength, if_neg]
  intro hAll
  exact hWeight (by simpa using List.all_eq_true.mp hAll weight hMem)

theorem Draws.positive (h : router.Draws k) :
    (targetWeights (router.targetsOf k)).foldl gcd 0 ≠ 0 := by
  obtain ⟨-, weight, hMem, hWeight⟩ := h
  exact fun hZero => hWeight (divisor_eq_zero.mp hZero weight hMem)

@[simp] theorem choose_rules (name : String) : (router.choose name).2.rules = router.rules := by
  unfold choose
  split <;> rfl

theorem targetsOf_choose (name : String) (k : Nat) :
    (router.choose name).2.targetsOf k = router.targetsOf k := by
  unfold targetsOf
  rw [choose_rules]

theorem draws_choose (name : String) (k : Nat) :
    (router.choose name).2.Draws k ↔ router.Draws k := by
  unfold Draws
  rw [targetsOf_choose]

theorem ruleIndex_choose (name other : String) :
    (router.choose name).2.ruleIndex other = router.ruleIndex other := by
  unfold ruleIndex
  rw [choose_rules]

theorem run_rules (start : ModelRouter) (before : List String) :
    (start.run before).rules = start.rules := by
  induction before generalizing start with
  | nil => rfl
  | cons name names ih => exact (ih (start.choose name).2).trans (choose_rules name)

theorem choose_idle (h : ∀ k, router.ruleIndex name = some k → ¬ router.Draws k) :
    (router.choose name).2.counter = router.counter := by
  unfold choose
  split
  · rfl
  · rename_i k hRule
    rw [chooseTarget_idle (h k hRule)]

theorem choose_draws (hRule : router.ruleIndex name = some k) (h : router.Draws k) : ∃ i,
      weightedRoundRobinIndex (targetWeights (router.targetsOf k)) router.counter.toNat = some i ∧
        (router.choose name).1 = some (k, i) ∧
        (router.choose name).2.counter = router.counter + 1 := by
  obtain ⟨i, hIndex⟩ := weightedRoundRobinIndex_some h.positive router.counter.toNat
  refine ⟨i, hIndex, ?_, ?_⟩
  · unfold choose
    rw [hRule]
    dsimp only
    rw [chooseTarget_draws h, hIndex]
    rfl
  · unfold choose
    rw [hRule]
    dsimp only
    rw [chooseTarget_draws h]

theorem choose_rule {i : Nat} (h : (router.choose name).1 = some (k, i)) :
    router.ruleIndex name = some k := by
  unfold choose at h
  split at h
  · cases h
  · rename_i rule hRule
    dsimp only at h
    obtain ⟨target, -, hIs⟩ := Option.map_eq_some_iff.mp h
    rw [hRule, (Prod.mk.inj hIs).1]

variable {names : List String}

/-- Calls among which only one rule draws give it consecutive numbers. -/
theorem hits_consecutive {k : Nat} (h : router.Draws k)
    (hOnly : ∀ name ∈ names, ∀ other, router.ruleIndex name = some other →
      router.Draws other → other = k) :
    (router.hits k names).map some = (List.range (router.hits k names).length).map fun n =>
      weightedRoundRobinIndex (targetWeights (router.targetsOf k))
        (router.counter + UInt64.ofNat n).toNat := by
  induction names generalizing router with
  | nil => rfl
  | cons name names ih =>
    obtain ⟨hHead, hTail⟩ := List.forall_mem_cons.mp hOnly
    have hRest := ih ((draws_choose name k).mpr h) (by
      intro other hOther rule hRule hDraws
      rw [ruleIndex_choose] at hRule
      exact hTail other hOther rule hRule ((draws_choose name rule).mp hDraws))
    rw [targetsOf_choose] at hRest
    by_cases hRule : router.ruleIndex name = some k
    · obtain ⟨i, hIndex, hChosen, hCounter⟩ := choose_draws hRule h
      have hHits : router.hits k (name :: names) = i :: (router.choose name).2.hits k names := by
        rw [hits, hChosen]
        simp only [if_true]
      rw [hHits, List.map_cons, hRest, hCounter]
      exact consecutive_cons _ hIndex
    · have hIdle : ∀ rule, router.ruleIndex name = some rule → ¬ router.Draws rule := by
        intro rule hIs hDraws
        exact hRule (hHead rule hIs hDraws ▸ hIs)
      have hHits : router.hits k (name :: names) = (router.choose name).2.hits k names := by
        rw [hits]
        split
        · rename_i rule target hChosen
          rw [if_neg]
          rintro rfl
          exact hRule (choose_rule hChosen)
        · rfl
      rw [hHits, hRest, choose_idle hIdle]

theorem hits_idle {k : Nat} (h : ¬ router.Draws k) : ∀ hit ∈ router.hits k names, hit = 0 := by
  induction names generalizing router with
  | nil => simp [hits]
  | cons name names ih =>
    have hRest := ih (mt (draws_choose name k).mp h)
    rw [hits]
    split
    · rename_i rule target hChosen
      split
      · rename_i hRule
        subst hRule
        have hTarget : target = 0 := by
          have hIs := choose_rule hChosen
          unfold choose at hChosen
          rw [hIs] at hChosen
          dsimp only at hChosen
          rw [chooseTarget_idle h] at hChosen
          exact (Prod.mk.inj (Option.some.inj hChosen)).2.symm
        intro hit hHit
        rcases List.mem_cons.mp hHit with rfl | hHit
        · exact hTarget
        · exact hRest hit hHit
      · exact hRest
    · exact hRest

theorem fair_idle (h : ¬ router.Draws k) (hLength : (router.hits k names).length =
      (reducedWeights (targetWeights (router.targetsOf k))).sum) :
    Fair (targetWeights (router.targetsOf k)) (router.hits k names) := by
  have hZeros := List.eq_replicate_iff.mpr ⟨hLength, hits_idle h⟩
  by_cases hOne : (router.targetsOf k).length = 1
  · obtain ⟨target, hTarget⟩ := List.length_eq_one_iff.mp hOne
    rw [hZeros]
    unfold Fair reducedWeights targetWeights
    rw [hTarget]
    intro i
    simp only [List.map_cons, List.map_nil, List.foldl_cons, List.foldl_nil, gcd_eq,
      Nat.gcd_zero_left, List.sum_cons, List.sum_nil, Nat.add_zero]
    cases i with
    | zero => simp
    | succ i => simp [List.count_replicate]
  · have hNone : ∀ weight ∈ targetWeights (router.targetsOf k), weight = 0 := by
      intro weight hWeight
      by_contra hNe
      exact h ⟨hOne, weight, hWeight, hNe⟩
    exact fair_of_zero hNone hLength

/-- A window of as many calls for a rule as its reduced weights hits every target by its reduced
weight, unless another rule draws a number in it or the counter turns over. -/
theorem window_fair {window : List String} (hLength : (router.hits k window).length =
      (reducedWeights (targetWeights (router.targetsOf k))).sum)
    (hOnly : router.Draws k → ∀ name ∈ window, ∀ other, router.ruleIndex name = some other →
      router.Draws other → other = k) (hCounter : router.Draws k →
      router.counter.toNat + (reducedWeights (targetWeights (router.targetsOf k))).sum ≤ 2 ^ 64 ∨
        (reducedWeights (targetWeights (router.targetsOf k))).sum ∣ 2 ^ 64) :
    Fair (targetWeights (router.targetsOf k)) (router.hits k window) := by
  by_cases hDraws : router.Draws k
  · have hHits := hits_consecutive hDraws (hOnly hDraws)
    rw [hLength] at hHits
    exact fair_of_consecutive hDraws.positive hHits (hCounter hDraws)
  · exact fair_idle hDraws hLength

end ModelRouter

end KongRust.Ai

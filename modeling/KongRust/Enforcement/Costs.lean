import KongRust.Enforcement.Registry

/-!
# The cost of a request

How the finalizer reads the outcome of a request from its usage fact (`cost_from_fact` of
`enforcement/budget.rs`, `calculate_cost` of `usage/pricing.rs`), and the settlement command that
reports an outcome. Decimal arithmetic beyond additions of amounts is a library of its own.
-/

namespace KongRust.Enforcement

open Budget

/-- The functions of other libraries that the enforcement calls, with those of the store. -/
structure Libraries extends External where
  /-- `serde_json::to_vec` of a pricing snapshot. -/
  pricingJson : BudgetPricingSnapshot → String
  checkedMul : Decimal → Decimal → Option Decimal
  checkedAdd : Decimal → Decimal → Option Decimal
  checkedDiv : Decimal → Decimal → Option Decimal
  /-- `round_dp_with_strategy(12, MidpointAwayFromZero)`. -/
  roundDp12 : Decimal → Decimal
  /-- `Decimal::from` of an `i64`. -/
  decimalOfInt : Int → Decimal

/-! ## Usage facts -/

inductive UsageSource where
  | provider
  | estimated
  | mixed
  | unavailable
  deriving DecidableEq

inductive PricingStatus where
  | matched
  | unmatched
  | unsupported
  | notApplicable
  deriving DecidableEq

/-- The fields of a usage fact that the budget reads. A token count is its value. -/
structure AiUsageFact where
  id : Uuid
  requestId : String
  virtualKeyId : Option Uuid
  promptTokens : Option Int
  completionTokens : Option Int
  usageSource : UsageSource
  usageUnavailableReasons : List String
  inputPrice : Option BudgetUnitPriceSnapshot
  outputPrice : Option BudgetUnitPriceSnapshot
  pricingFingerprint : Option String
  pricingStatus : PricingStatus
  costUsd : Option Decimal
  costStatus : CostStatus
  costUnavailableReasons : List String

/-- Equality of decimals: the numbers are compared, not their digits. -/
def sameNumber (a b : Decimal) : Bool :=
  a.mantissa * 10 ^ b.scale == b.mantissa * 10 ^ a.scale

def samePrice (a b : BudgetUnitPriceSnapshot) : Bool :=
  sameNumber a.usdPerMillion b.usdPerMillion && a.source == b.source && a.version == b.version &&
    a.snapshotDate == b.snapshotDate && a.effectiveFrom == b.effectiveFrom &&
    a.effectiveTo == b.effectiveTo

def sameOption {α : Type} (same : α → α → Bool) : Option α → Option α → Bool
  | none, none => true
  | some a, some b => same a b
  | _, _ => false

/-! ## Calculating a cost -/

structure ResolvedPricing where
  input : Option BudgetUnitPriceSnapshot
  output : Option BudgetUnitPriceSnapshot
  status : PricingStatus

structure CostComputation where
  costUsd : Option Decimal
  status : CostStatus
  unavailableReasons : List String

/-- `fits_numeric_28_12`. -/
def fitsNumeric2812 (value : Decimal) : Bool :=
  decide (0 ≤ value.mantissa) && decide (value.scale ≤ 12) &&
    decide (value.mantissa * 10 ^ (12 - value.scale) < NUMERIC_BOUND)

variable (pricing : ResolvedPricing)

/-- The reasons for which a cost stays unknown, in the order of a `BTreeSet`. -/
def costUnavailableReasons (pricing : ResolvedPricing) (prompt completion : Option Int)
    (invalidProviderUsage : Bool) : List String :=
  (if invalidProviderUsage then ["invalid_provider_usage"] else []) ++
    (if completion.isNone then ["missing_completion_usage"] else []) ++
    (if prompt.isNone then ["missing_prompt_usage"] else []) ++
    (if pricing.input.isNone then ["unmatched_input_price"] else []) ++
    (if pricing.output.isNone then ["unmatched_output_price"] else []) ++
    (if pricing.status = .unsupported then ["unsupported_pricing"] else [])

section Costs

variable (libs : Libraries)

/-- The price of a usage, when every step of the arithmetic succeeds. -/
def priceOf (inputRate outputRate : Decimal) (prompt completion : Int) : Option Decimal := do
  let input ← libs.checkedMul (libs.decimalOfInt prompt) inputRate
  let output ← libs.checkedMul (libs.decimalOfInt completion) outputRate
  let total ← libs.checkedAdd input output
  let cost ← libs.checkedDiv total (libs.decimalOfInt 1000000)
  (some (libs.roundDp12 cost)).filter fitsNumeric2812

def calculateCost (pricing : ResolvedPricing) (prompt completion : Option Int)
    (usageSource : UsageSource) (upstreamAttempted invalidProviderUsage : Bool) :
    CostComputation :=
  if upstreamAttempted = false then ⟨some .ZERO, .notIncurred, []⟩
  else
    match pricing.input, pricing.output, prompt, completion,
      costUnavailableReasons pricing prompt completion invalidProviderUsage with
    | some input, some output, some prompt, some completion, [] =>
      match priceOf libs input.usdPerMillion output.usdPerMillion prompt completion with
      | none => ⟨none, .unavailable, ["arithmetic_overflow"]⟩
      | some cost =>
        ⟨some cost, if usageSource = .provider then .calculated else .estimated, []⟩
    | _, _, _, _, reasons => ⟨none, .unavailable, reasons⟩

def unavailableCost (reason : String) : BudgetCostOutcome := ⟨.unavailable, none, [reason]⟩

def notIncurredCost (reason : String) : BudgetCostOutcome := ⟨.notIncurred, some .ZERO, [reason]⟩

def costFromFact (fact : Option AiUsageFact) (requestId : String) (virtualKeyId : Uuid)
    (upstreamAttempted : Bool) (pricingFingerprint : String)
    (pricingSnapshot : BudgetPricingSnapshot) : Option Uuid × BudgetCostOutcome :=
  match fact with
  | none =>
    if upstreamAttempted then (none, unavailableCost "missing_usage_fact")
    else (none, notIncurredCost "upstream_not_attempted")
  | some fact =>
    if fact.requestId ≠ requestId ∨ fact.virtualKeyId ≠ some virtualKeyId then
      (some fact.id, unavailableCost "usage_fact_identity_mismatch")
    else if fact.pricingFingerprint ≠ some pricingFingerprint then
      (some fact.id, unavailableCost "usage_fact_pricing_fingerprint_mismatch")
    else if pricingSnapshot.maxPromptTokens.any fun maximum =>
        fact.promptTokens.any fun actual => maximum < actual then
      (some fact.id, unavailableCost "actual_prompt_exceeds_frozen_pricing_limit")
    else
      let pricing : ResolvedPricing := ⟨pricingSnapshot.input, pricingSnapshot.output, .matched⟩
      if sameOption samePrice fact.inputPrice pricing.input = false ∨
          sameOption samePrice fact.outputPrice pricing.output = false ∨
          fact.pricingStatus ≠ pricing.status then
        (some fact.id, unavailableCost "usage_fact_pricing_snapshot_mismatch")
      else
        let computed := calculateCost libs pricing fact.promptTokens fact.completionTokens
          fact.usageSource upstreamAttempted
          (fact.usageUnavailableReasons.contains "invalid_token_value")
        if fact.costStatus ≠ computed.status ∨
            sameOption sameNumber fact.costUsd computed.costUsd = false ∨
            fact.costUnavailableReasons ≠ computed.unavailableReasons then
          (some fact.id, unavailableCost "usage_fact_cost_mismatch")
        else
          (some fact.id, ⟨computed.status, computed.costUsd, computed.unavailableReasons⟩)

/-! ## Errors of the lifecycle -/

/-- `budget_error_code`. -/
def budgetErrorCode : BudgetErrorKind → String
  | .exhausted => "budget_exhausted"
  | .accountingUnresolved => "budget_accounting_unresolved"
  | .corrupt => "budget_accounting_unresolved"
  | .numericOverflow => "budget_accounting_unresolved"
  | .conflict => "budget_accounting_unresolved"
  | .reconciliationRequired => "budget_accounting_unresolved"
  | .intentActive => "budget_accounting_unresolved"
  | .alreadyReconciled => "budget_accounting_unresolved"
  | .accountBusy => "budget_accounting_unresolved"
  | .unsupported => "budget_accounting_unsupported"
  | .pricingUnavailable => "budget_pricing_unavailable"
  | .accountingUnavailable => "budget_accounting_unavailable"
  | .outcomeUnknown => "budget_accounting_unavailable"
  | .notFound => "budget_accounting_unavailable"

/-- What an error of the lifecycle writes out. -/
inductive LifecycleCause where
  | text (message : String)
  | store (error : BudgetStoreError)
  | registry (error : BudgetIntentRegistryError)

structure LifecycleHookError where
  code : String
  cause : LifecycleCause

namespace LifecycleHookError

def new (code message : String) : LifecycleHookError := ⟨code, .text message⟩

def ofStore (error : BudgetStoreError) : LifecycleHookError :=
  ⟨budgetErrorCode error.kind, .store error⟩

def ofRegistry (error : BudgetIntentRegistryError) : LifecycleHookError :=
  ⟨"budget_registry_invalid", .registry error⟩

end LifecycleHookError

/-! ## The settlement command -/

/-- A cost with its amount in the form that is stored. -/
def normalizedOutcome (cost : BudgetCostOutcome) :
    Except LifecycleHookError BudgetCostOutcome :=
  match cost.status with
  | .calculated | .estimated =>
    match cost.amountUsd with
    | none => .ok ⟨.unavailable, none, cost.reasons ++ ["missing_cost_amount"]⟩
    | some amount =>
      match normalizeBudgetAmount amount with
      | .error message => .error (.new "budget_numeric_invalid" message)
      | .ok amount => .ok { cost with amountUsd := some amount.toDecimal }
  | .notIncurred => .ok { cost with amountUsd := some .ZERO }
  | .unavailable => .ok cost

def settlementCommand (intentId virtualKeyId : Uuid) (requestId pricingFingerprint : String)
    (usageFactId : Option Uuid) (cost : BudgetCostOutcome) :
    Except LifecycleHookError SettleBudgetIntent := do
  let cost ← normalizedOutcome cost
  return {
    intentId := intentId
    virtualKeyId := virtualKeyId
    requestId := requestId
    operationId := "budget-settle:v1:" ++ requestId
    commandFingerprint := settlementFingerprint libs.toExternal requestId virtualKeyId intentId
      cost.status cost.amountUsd cost.reasons usageFactId
    pricingFingerprint := pricingFingerprint
    usageFactId := usageFactId
    cost := cost }

end Costs

/-! ## Reasons -/

/-- Every reason that a settlement of this node can carry. -/
def KNOWN_REASONS : List String :=
  ["missing_usage_fact", "upstream_not_attempted", "usage_fact_identity_mismatch",
    "usage_fact_pricing_fingerprint_mismatch", "actual_prompt_exceeds_frozen_pricing_limit",
    "usage_fact_pricing_snapshot_mismatch", "usage_fact_cost_mismatch", "arithmetic_overflow",
    "invalid_provider_usage", "missing_completion_usage", "missing_prompt_usage",
    "unmatched_input_price", "unmatched_output_price", "unsupported_pricing",
    "missing_cost_amount", "upstream_dispatch_aborted",
    "request_lifecycle_cancelled_after_dispatch", "request_lifecycle_cancelled_before_dispatch"]

/-- Reasons that fit both the registry and the store. -/
structure KnownReasons (reasons : List String) : Prop where
  few : reasons.length ≤ 7
  known : ∀ reason ∈ reasons, reason ∈ KNOWN_REASONS

theorem knownReasons_short : ∀ reason ∈ KNOWN_REASONS,
    trimmed reason ≠ "" ∧ Text.len reason ≤ 128 := by
  decide +kernel

theorem KnownReasons.valid {reasons : List String} (h : KnownReasons reasons) :
    validateReasons reasons = .ok () := by
  have hFew := h.few
  refine if_neg ?_
  simp only [not_or, not_lt, List.any_eq_true, not_exists, not_and, Bool.or_eq_true, beq_iff_eq,
    decide_eq_true_eq]
  exact ⟨by omega, fun reason hReason => knownReasons_short reason (h.known reason hReason)⟩

theorem knownReasons_unavailable (prompt completion : Option Int) (invalidProviderUsage : Bool) :
    (costUnavailableReasons pricing prompt completion invalidProviderUsage).length ≤ 6 ∧
      ∀ reason ∈ costUnavailableReasons pricing prompt completion invalidProviderUsage,
        reason ∈ KNOWN_REASONS := by
  unfold costUnavailableReasons
  cases invalidProviderUsage <;> cases completion.isNone <;> cases prompt.isNone <;>
    cases pricing.input.isNone <;> cases pricing.output.isNone <;>
    by_cases hStatus : pricing.status = .unsupported <;> simp [hStatus, KNOWN_REASONS]

section Outcomes

variable {libs : Libraries}

theorem calculateCost_reasons {pricing : ResolvedPricing} {prompt completion : Option Int}
    {usageSource : UsageSource} {upstreamAttempted invalidProviderUsage : Bool} :
    (calculateCost libs pricing prompt completion usageSource upstreamAttempted
      invalidProviderUsage).unavailableReasons.length ≤ 6 ∧
    ∀ reason ∈ (calculateCost libs pricing prompt completion usageSource upstreamAttempted
      invalidProviderUsage).unavailableReasons, reason ∈ KNOWN_REASONS := by
  unfold calculateCost
  split
  · simp
  split
  · split
    · simp [KNOWN_REASONS]
    · simp
  · exact knownReasons_unavailable _ _ _ _

theorem costFromFact_reasons (libs : Libraries) (fact : Option AiUsageFact) (requestId : String)
    (virtualKeyId : Uuid) (upstreamAttempted : Bool) (pricingFingerprint : String)
    (pricingSnapshot : BudgetPricingSnapshot) :
    (costFromFact libs fact requestId virtualKeyId upstreamAttempted pricingFingerprint
      pricingSnapshot).2.reasons.length ≤ 6 ∧
    ∀ reason ∈ (costFromFact libs fact requestId virtualKeyId upstreamAttempted
      pricingFingerprint pricingSnapshot).2.reasons, reason ∈ KNOWN_REASONS := by
  unfold costFromFact unavailableCost notIncurredCost
  split
  · split <;> simp [KNOWN_REASONS]
  split
  · simp [KNOWN_REASONS]
  split
  · simp [KNOWN_REASONS]
  split
  · simp [KNOWN_REASONS]
  dsimp only
  split
  · simp [KNOWN_REASONS]
  split
  · simp [KNOWN_REASONS]
  · exact calculateCost_reasons

/-- The form that is stored adds at most one reason. -/
theorem normalizedOutcome_reasons {cost cost' : BudgetCostOutcome}
    (h : normalizedOutcome cost = .ok cost') (hFew : cost.reasons.length ≤ 6)
    (hKnown : ∀ reason ∈ cost.reasons, reason ∈ KNOWN_REASONS) : KnownReasons cost'.reasons := by
  have hSame : KnownReasons cost.reasons := ⟨by omega, hKnown⟩
  have hMissing : KnownReasons (cost.reasons ++ ["missing_cost_amount"]) := by
    refine ⟨by simp; omega, fun reason hReason => ?_⟩
    rcases List.mem_append.mp hReason with hOld | hNew
    · exact hKnown reason hOld
    · simp only [List.mem_singleton] at hNew
      subst hNew
      simp [KNOWN_REASONS]
  unfold normalizedOutcome at h
  split at h
  · split at h
    · cases h
      exact hMissing
    · split at h
      · cases h
      · cases h
        exact hSame
  · split at h
    · cases h
      exact hMissing
    · split at h
      · cases h
      · cases h
        exact hSame
  · cases h
    exact hSame
  · cases h
    exact hSame

end Outcomes

end KongRust.Enforcement

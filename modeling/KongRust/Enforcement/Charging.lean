import KongRust.Budget.Exactness
import KongRust.Enforcement.Conservation

/-!
# What a request is charged

The outcome that the finalizer reports for a request whose upstream was attempted. It is the price
of the usage under the frozen pricing snapshot if the usage fact agrees with the request, with the
snapshot and with that price, and it is unavailable otherwise; it is never without costs.
-/

namespace KongRust.Enforcement

open Budget Fallible Transaction

variable {libs : Libraries} {runtime : SupportedBudgetRuntime}

/-! ## Amounts -/

theorem sameNumber_iff {a b : Decimal} :
    sameNumber a b = true ↔ a.mantissa * 10 ^ b.scale = b.mantissa * 10 ^ a.scale := by
  unfold sameNumber
  exact beq_iff_eq

/-- A price that fits its column is stored as it is. -/
theorem normalizeBudgetAmount_of_fits {value : Decimal} (h : fitsNumeric2812 value = true) :
    ∃ amount, normalizeBudgetAmount value = .ok amount ∧
      sameNumber amount.toDecimal value = true := by
  unfold fitsNumeric2812 at h
  simp only [Bool.and_eq_true, decide_eq_true_eq] at h
  obtain ⟨⟨hSign, hScale⟩, hFits⟩ := h
  have hPow : (10 : Int) ^ (12 - value.scale) * 10 ^ value.scale = 10 ^ 12 := by
    rw [← pow_add]
    congr 1
    omega
  have hUnits := Int.toNat_of_nonneg
    (show 0 ≤ value.mantissa * 10 ^ (12 - value.scale) by positivity)
  have hValue : Usd.IsValueOf ⟨(value.mantissa * 10 ^ (12 - value.scale)).toNat, by omega⟩
      value := by
    unfold Usd.IsValueOf
    rw [hUnits, mul_assoc, hPow]
  refine ⟨_, normalizeBudgetAmount_eq_ok.mpr hValue, ?_⟩
  rw [sameNumber_iff]
  exact hValue.symm

/-! ## The price of a usage -/

variable (usageSource : UsageSource)

def chargedStatus (usageSource : UsageSource) : CostStatus :=
  if usageSource = .provider then .calculated else .estimated

/-- What the usage of a fact costs under a pricing snapshot. -/
def AiUsageFact.frozenPrice (libs : Libraries) (fact : AiUsageFact)
    (snapshot : BudgetPricingSnapshot) : Option Decimal := do
  let input ← snapshot.input
  let output ← snapshot.output
  let prompt ← fact.promptTokens
  let completion ← fact.completionTokens
  priceOf libs input.usdPerMillion output.usdPerMillion prompt completion

/-- The reasons of a fact say that the provider reported an invalid token count. -/
def AiUsageFact.invalidUsage (fact : AiUsageFact) : Bool :=
  fact.usageUnavailableReasons.contains "invalid_token_value"

/-- A usage fact is complete, and it agrees with the request, with its frozen pricing and with the
price of its usage. -/
structure AiUsageFact.Agrees (libs : Libraries) (fact : AiUsageFact) (create : CreateBudgetIntent)
    (price : Decimal) : Prop where
  request : fact.requestId = create.requestId
  key : fact.virtualKeyId = some create.virtualKeyId
  fingerprint : fact.pricingFingerprint = some create.pricingFingerprint
  prompt : ∀ maximum actual, create.pricingSnapshot.maxPromptTokens = some maximum →
    fact.promptTokens = some actual → actual ≤ maximum
  input : sameOption samePrice fact.inputPrice create.pricingSnapshot.input = true
  output : sameOption samePrice fact.outputPrice create.pricingSnapshot.output = true
  matched : fact.pricingStatus = .matched
  valid : fact.invalidUsage = false
  frozen : fact.frozenPrice libs create.pricingSnapshot = some price
  cost : sameOption sameNumber fact.costUsd (some price) = true
  status : fact.costStatus = chargedStatus fact.usageSource
  reasons : fact.costUnavailableReasons = []

/-- The outcome of a request whose upstream was attempted. -/
structure Charges (libs : Libraries) (create : CreateBudgetIntent)
    (fact : Option AiUsageFact) (cost : BudgetCostOutcome) : Prop where
  /-- The amount is the price of a usage that agrees. -/
  priced : ∀ usage price, fact = some usage → usage.Agrees libs create price →
    cost.status = chargedStatus usage.usageSource ∧
      ∃ amount, cost.amountUsd = some amount ∧ sameNumber amount price = true
  /-- Without such a usage nothing is known about the amount. -/
  unknown : (∀ usage price, fact = some usage → ¬ usage.Agrees libs create price) →
    cost.status = .unavailable ∧ cost.amountUsd = none

theorem chargedStatus_ne :
    chargedStatus usageSource ≠ .notIncurred ∧ chargedStatus usageSource ≠ .unavailable := by
  unfold chargedStatus
  split <;> simp

section Costs

variable {create : CreateBudgetIntent} {usage : AiUsageFact} {price : Decimal}

theorem priceOf_fits {inputRate outputRate : Decimal} {prompt completion : Int}
    (h : priceOf libs inputRate outputRate prompt completion = some price) :
    fitsNumeric2812 price = true := by
  obtain ⟨input, -, h⟩ := Option.bind_eq_some_iff.mp h
  obtain ⟨output, -, h⟩ := Option.bind_eq_some_iff.mp h
  obtain ⟨total, -, h⟩ := Option.bind_eq_some_iff.mp h
  obtain ⟨cost, -, h⟩ := Option.bind_eq_some_iff.mp h
  exact (Option.filter_eq_some_iff.mp h).2

/-- A cost is calculated from complete and valid usage whose price fits, and from nothing else. -/
theorem calculateCost_attempted (libs : Libraries) (usage : AiUsageFact)
    (snapshot : BudgetPricingSnapshot) :
    (∃ price, usage.invalidUsage = false ∧ usage.frozenPrice libs snapshot = some price ∧
      fitsNumeric2812 price = true ∧
      calculateCost libs ⟨snapshot.input, snapshot.output, .matched⟩ usage.promptTokens
        usage.completionTokens usage.usageSource true usage.invalidUsage =
        ⟨some price, chargedStatus usage.usageSource, []⟩) ∨
    ((usage.invalidUsage = false → usage.frozenPrice libs snapshot = none) ∧
      ∃ reasons, calculateCost libs ⟨snapshot.input, snapshot.output, .matched⟩ usage.promptTokens
        usage.completionTokens usage.usageSource true usage.invalidUsage =
        ⟨none, .unavailable, reasons⟩) := by
  unfold calculateCost AiUsageFact.frozenPrice
  cases hInput : snapshot.input with
  | none => exact .inr ⟨fun _ => rfl, _, rfl⟩
  | some input =>
    cases hOutput : snapshot.output with
    | none => exact .inr ⟨fun _ => rfl, _, rfl⟩
    | some output =>
      cases hPrompt : usage.promptTokens with
      | none => exact .inr ⟨fun _ => rfl, _, rfl⟩
      | some prompt =>
        cases hCompletion : usage.completionTokens with
        | none => exact .inr ⟨fun _ => rfl, _, rfl⟩
        | some completion =>
          cases hValid : usage.invalidUsage with
          | true => exact .inr ⟨by simp, _, rfl⟩
          | false =>
            cases hPrice : priceOf libs input.usdPerMillion output.usdPerMillion prompt
                completion with
            | none =>
              refine .inr ⟨fun _ => hPrice, ["arithmetic_overflow"], ?_⟩
              simp [costUnavailableReasons, hPrice]
            | some price =>
              refine .inl ⟨price, rfl, hPrice, ?_, ?_⟩
              · exact priceOf_fits hPrice
              · simp [costUnavailableReasons, hPrice, chargedStatus]

/-- What `cost_from_fact` makes of a fact of an attempted request. -/
theorem costFromFact_attempted (libs : Libraries) (create : CreateBudgetIntent)
    (fact : Option AiUsageFact) :
    (∃ usage price, fact = some usage ∧ usage.Agrees libs create price ∧
      fitsNumeric2812 price = true ∧
      (costFromFact libs fact create.requestId create.virtualKeyId true
        create.pricingFingerprint create.pricingSnapshot).2 =
          ⟨chargedStatus usage.usageSource, some price, []⟩) ∨
    ((∀ usage price, fact = some usage → ¬ usage.Agrees libs create price) ∧
      ∃ reasons, (costFromFact libs fact create.requestId create.virtualKeyId true
        create.pricingFingerprint create.pricingSnapshot).2 = ⟨.unavailable, none, reasons⟩) := by
  unfold costFromFact
  cases fact with
  | none => exact .inr ⟨by simp, _, rfl⟩
  | some usage =>
    dsimp only
    by_cases hIdentity : usage.requestId ≠ create.requestId ∨
        usage.virtualKeyId ≠ some create.virtualKeyId
    · rw [if_pos hIdentity]
      refine .inr ⟨?_, _, rfl⟩
      rintro _ price ⟨rfl⟩ hAgrees
      exact hIdentity.elim (fun h => h hAgrees.request) fun h => h hAgrees.key
    rw [if_neg hIdentity]
    by_cases hFingerprint : usage.pricingFingerprint ≠ some create.pricingFingerprint
    · rw [if_pos hFingerprint]
      refine .inr ⟨?_, _, rfl⟩
      rintro _ price ⟨rfl⟩ hAgrees
      exact hFingerprint hAgrees.fingerprint
    rw [if_neg hFingerprint]
    by_cases hPrompt : (create.pricingSnapshot.maxPromptTokens.any fun maximum =>
        usage.promptTokens.any fun actual => decide (maximum < actual)) = true
    · rw [if_pos hPrompt]
      refine .inr ⟨?_, _, rfl⟩
      rintro _ price ⟨rfl⟩ hAgrees
      obtain ⟨maximum, hMaximum, hAny⟩ := (Option.any_eq_true _ _).mp hPrompt
      obtain ⟨actual, hActual, hLess⟩ := (Option.any_eq_true _ _).mp hAny
      have hLe := hAgrees.prompt maximum actual hMaximum hActual
      have hLt : maximum < actual := of_decide_eq_true hLess
      omega
    rw [if_neg hPrompt]
    by_cases hPricing : sameOption samePrice usage.inputPrice create.pricingSnapshot.input = false ∨
        sameOption samePrice usage.outputPrice create.pricingSnapshot.output = false ∨
        usage.pricingStatus ≠ .matched
    · rw [if_pos hPricing]
      refine .inr ⟨?_, _, rfl⟩
      rintro _ price ⟨rfl⟩ hAgrees
      rcases hPricing with hInput | hOutput | hStatus
      · rw [hAgrees.input] at hInput
        cases hInput
      · rw [hAgrees.output] at hOutput
        cases hOutput
      · exact hStatus hAgrees.matched
    rw [if_neg hPricing]
    simp only [not_or, not_not, Bool.not_eq_false] at hIdentity hFingerprint hPricing
    rcases calculateCost_attempted libs usage create.pricingSnapshot with
      ⟨price, hValid, hFrozen, hFits, hCost⟩ | ⟨hNothing, reasons, hCost⟩
    · unfold AiUsageFact.invalidUsage at hCost
      simp only [hCost]
      by_cases hMismatch : usage.costStatus ≠ chargedStatus usage.usageSource ∨
          sameOption sameNumber usage.costUsd (some price) = false ∨
          usage.costUnavailableReasons ≠ []
      · rw [if_pos hMismatch]
        refine .inr ⟨?_, _, rfl⟩
        rintro _ price' ⟨rfl⟩ hAgrees
        obtain rfl : price = price' := Option.some.inj (hFrozen.symm.trans hAgrees.frozen)
        rcases hMismatch with hStatus | hAmount | hReasons
        · exact hStatus hAgrees.status
        · rw [hAgrees.cost] at hAmount
          cases hAmount
        · exact hReasons hAgrees.reasons
      · rw [if_neg hMismatch]
        simp only [not_or, not_not, Bool.not_eq_false] at hMismatch
        refine .inl ⟨usage, price, rfl, ⟨hIdentity.1, hIdentity.2, hFingerprint, ?_, hPricing.1,
          hPricing.2.1, hPricing.2.2, hValid, hFrozen, hMismatch.2.1, hMismatch.1,
          hMismatch.2.2⟩, hFits, rfl⟩
        intro maximum actual hMaximum hActual
        rw [hMaximum, hActual] at hPrompt
        simpa using hPrompt
    · unfold AiUsageFact.invalidUsage at hCost
      simp only [hCost]
      have hDisagrees : ∀ found price, some usage = some found →
          ¬ found.Agrees libs create price := by
        rintro _ price ⟨rfl⟩ hAgrees
        have hFrozen := hAgrees.frozen
        rw [hNothing hAgrees.valid] at hFrozen
        cases hFrozen
      split
      · exact .inr ⟨hDisagrees, _, rfl⟩
      · exact .inr ⟨hDisagrees, _, rfl⟩

theorem normalizedOutcome_charged {amount : Usd} (usageSource : UsageSource)
    (h : normalizeBudgetAmount price = .ok amount) :
    normalizedOutcome ⟨chargedStatus usageSource, some price, []⟩ =
      .ok ⟨chargedStatus usageSource, some amount.toDecimal, []⟩ := by
  unfold normalizedOutcome chargedStatus
  by_cases hProvider : usageSource = .provider
  · simp only [hProvider, if_true, h]
  · simp only [hProvider, if_false, h]

theorem settlementCommand_charges {fact : Option AiUsageFact} {intentId virtualKeyId : Uuid}
    {requestId pricingFingerprint : String} {usageFactId : Option Uuid}
    {command : SettleBudgetIntent}
    (h : settlementCommand libs intentId virtualKeyId requestId pricingFingerprint usageFactId
      (costFromFact libs fact create.requestId create.virtualKeyId true
        create.pricingFingerprint create.pricingSnapshot).2 = .ok command) :
    Charges libs create fact command.cost := by
  obtain ⟨cost, hCost, hCommand⟩ := bind_eq_ok.mp h
  cases hCommand
  dsimp only
  rcases costFromFact_attempted libs create fact with
    ⟨usage, price, rfl, hAgrees, hFits, hOutcome⟩ | ⟨hDisagrees, reasons, hOutcome⟩
  · rw [hOutcome] at hCost
    obtain ⟨amount, hAmount, hSame⟩ := normalizeBudgetAmount_of_fits hFits
    have hNormal : cost = ⟨chargedStatus usage.usageSource, some amount.toDecimal, []⟩ := by
      rw [normalizedOutcome_charged usage.usageSource hAmount] at hCost
      exact (Except.ok.inj hCost).symm
    subst hNormal
    refine ⟨?_, fun hNone => absurd hAgrees (hNone usage price rfl)⟩
    rintro _ price' ⟨rfl⟩ hAgrees'
    obtain rfl : price = price' := Option.some.inj (hAgrees.frozen.symm.trans hAgrees'.frozen)
    exact ⟨rfl, amount.toDecimal, rfl, hSame⟩
  · rw [hOutcome] at hCost
    cases hCost
    exact ⟨fun usage price hFact hAgrees => absurd hAgrees (hDisagrees usage price hFact),
      fun _ => ⟨rfl, rfl⟩⟩

end Costs

/-! ## Consequences -/

namespace Charges

variable {create : CreateBudgetIntent} {fact : Option AiUsageFact} {cost : BudgetCostOutcome}

section

variable (h : Charges libs create fact cost)
include h

theorem cases :
    (∃ usage price amount, fact = some usage ∧ usage.Agrees libs create price ∧
      cost.status = chargedStatus usage.usageSource ∧ cost.amountUsd = some amount ∧
      sameNumber amount price = true) ∨ (cost.status = .unavailable ∧ cost.amountUsd = none) := by
  by_cases hAgrees : ∃ usage price, fact = some usage ∧ usage.Agrees libs create price
  · obtain ⟨usage, price, hFact, hUsage⟩ := hAgrees
    obtain ⟨hStatus, amount, hAmount, hSame⟩ := h.priced usage price hFact hUsage
    exact .inl ⟨usage, price, amount, hFact, hUsage, hStatus, hAmount, hSame⟩
  · exact .inr (h.unknown fun usage price hFact hUsage => hAgrees ⟨usage, price, hFact, hUsage⟩)

theorem incurred : cost.status ≠ .notIncurred := by
  rcases h.cases with ⟨usage, price, amount, -, -, hStatus, -⟩ | ⟨hStatus, -⟩
  · rw [hStatus]
    exact (chargedStatus_ne usage.usageSource).1
  · rw [hStatus]
    simp

theorem zero {amount : Decimal}
    (hAmount : cost.amountUsd = some amount) (hZero : amount.mantissa = 0) :
    ∃ usage price, fact = some usage ∧ usage.Agrees libs create price ∧ price.mantissa = 0 := by
  rcases h.cases with ⟨usage, price, found, hFact, hAgrees, -, hFound, hSame⟩ | ⟨-, hNone⟩
  · obtain rfl : amount = found := Option.mem_unique hAmount hFound
    refine ⟨usage, price, hFact, hAgrees, ?_⟩
    rw [sameNumber_iff, hZero, zero_mul] at hSame
    exact (mul_eq_zero.mp hSame.symm).resolve_right (by positivity)
  · rw [hAmount] at hNone
    cases hNone

end

end Charges

/-! ## The code of a request -/

section Code

variable {requestId : String} {create : CreateBudgetIntent} {scope scope' : Scope}

def Activity.OfHook : Activity → Prop
  | .creating _ _ | .dispatching _ _ => True
  | _ => False

/-- A piece of the dispatch hook settles nothing. -/
structure Scope.Hooks (scope : Scope) (outcome : Scope × Progress) : Prop where
  unsettled : outcome.1.budget.settlementCommand = scope.budget.settlementCommand
  awaits : ∀ call, outcome.2 = .awaits call → call.start.OfHook

theorem guarded_budget {operation : BudgetIntentGuard → ActiveBudgetIntentRegistry →
    Except BudgetIntentRegistryError ActiveBudgetIntentRegistry}
    (h : scope.guarded operation = .ok scope') : scope'.budget = scope.budget := by
  unfold Scope.guarded at h
  split at h
  · cases h
  · split at h
    · cases h
    · cases h
      rfl

theorem acknowledge_budget (scope : Scope) :
    scope.acknowledge.budget = { scope.budget with guard := none } := by
  unfold Scope.acknowledge
  split
  · next hGuard =>
    rw [← hGuard]
  · rfl

variable {intentId : Uuid} {answer : Except BudgetStoreError BudgetIntent}

theorem hookBegin_hooks {snapshot : BudgetPricingSnapshot} :
    Scope.Hooks scope (hookBegin libs runtime requestId intentId snapshot scope) := by
  unfold hookBegin
  split
  · exact ⟨rfl, by simp⟩
  · dsimp only
    split
    · exact ⟨rfl, by simp⟩
    · split
      · exact ⟨rfl, by simp⟩
      · refine ⟨rfl, ?_⟩
        rintro _ ⟨rfl⟩
        trivial

theorem hookPrepared_hooks : Scope.Hooks scope (hookPrepared runtime requestId intentId scope) := by
  unfold hookPrepared
  split
  · exact ⟨rfl, by simp⟩
  · next marked hMarked =>
    have hSame := congrArg AiBudgetRequestContext.settlementCommand (guarded_budget hMarked)
    dsimp only
    split
    · exact ⟨hSame, by simp⟩
    · next pending hPending =>
      refine ⟨(congrArg AiBudgetRequestContext.settlementCommand
        (guarded_budget hPending)).trans hSame, ?_⟩
      rintro _ ⟨rfl⟩
      trivial

theorem hookCreated_hooks : Scope.Hooks scope (hookCreated runtime requestId answer scope) := by
  have hReleased : ∀ scope : Scope, scope.acknowledge.budget.settlementCommand =
      scope.budget.settlementCommand := by
    intro scope
    rw [acknowledge_budget]
  unfold hookCreated
  split
  · split
    · exact ⟨rfl, by simp⟩
    · exact ⟨hReleased scope, by simp⟩
  · split
    · exact ⟨hReleased (scope.setState .paused), by simp⟩
    · split
      · exact ⟨rfl, by simp⟩
      · exact hookPrepared_hooks

theorem hookDispatched_hooks : Scope.Hooks scope (hookDispatched answer scope) := by
  unfold hookDispatched
  split
  · exact ⟨rfl, by simp⟩
  · split
    · exact ⟨rfl, by simp⟩
    · next marked hMarked =>
      have hSame := congrArg AiBudgetRequestContext.settlementCommand (guarded_budget hMarked)
      exact ⟨hSame, by simp⟩

/-- The finalizer of an attempted request charges its usage. -/
theorem finalizeBegin_charges {fact : Option AiUsageFact} {call : Await}
    (h : scope.Holds libs requestId create) (hRequest : create.requestId = requestId)
    (hOpen : scope.budget.settlementCommand = none)
    (hAwaits : (finalizeBegin libs requestId true fact scope).2 = .awaits call) :
    ∃ command, call = .settling true command ∧
      (finalizeBegin libs requestId true fact scope).1.budget.createCommand = some create ∧
      Charges libs create fact command.cost := by
  subst hRequest
  unfold finalizeBegin at hAwaits ⊢
  dsimp only at hAwaits ⊢
  unfold prepareFinalSettlement at hAwaits ⊢
  dsimp only at hAwaits ⊢
  split at hAwaits
  · cases hAwaits
  next hState =>
  split at hAwaits
  · cases hAwaits
  next hKnown =>
  rw [if_neg hState, if_neg hKnown]
  split at hAwaits
  · next command hCommand =>
    rw [hOpen] at hCommand
    cases hCommand
  · split at hAwaits
    · cases hAwaits
    · next command hCommand =>
      split at hAwaits
      · cases hAwaits
      · next recorded hRecorded =>
        cases hAwaits
        refine ⟨command, rfl, ?_, ?_⟩
        · change recorded.budget.createCommand = some create
          rw [guarded_budget hRecorded]
          exact h.budget.created
        · obtain ⟨⟨intentId, pricingFingerprint⟩, hParts, hRest⟩ := bind_eq_ok.mp hCommand
          obtain ⟨found, hFound, hBuilt⟩ := bind_eq_ok.mp hRest
          obtain ⟨-, rfl⟩ := Scope.settlementParts_ok h.budget hParts
          rw [h.budget.created] at hFound
          cases hFound
          rw [h.budget.virtualKeyId] at hBuilt
          exact settlementCommand_charges hBuilt

end Code

/-! ## Requests -/

section Requests

variable {create : CreateBudgetIntent} {facts facts' : Option AiUsageFact → Prop}
  {request request' staged : Request} {node next : Node}

/-- A request whose upstream was attempted settles once, from its finalizer, and what it settles
charges one of the facts that its finalizer was given. -/
structure Request.Charged (libs : Libraries) (facts : Option AiUsageFact → Prop)
    (request : Request) : Prop where
  opened : request.stage = .inspected ∨ request.stage = .hooked →
    request.budget.settlementCommand = none ∧
      ∀ activity, request.activity = some activity → activity.OfHook
  attempted : request.upstreamAttempted = true →
    (request.stage = .hooked ∧ request.activity = none) ∨
    (request.stage = .finalized ∧ ∀ activity, request.activity = some activity →
      ∃ command answer create fact, activity = .settling true command answer ∧ facts fact ∧
        request.budget.createCommand = some create ∧ Charges libs create fact command.cost)

theorem Request.Charged.mono (h : request.Charged libs facts)
    (hFacts : ∀ fact, facts fact → facts' fact) : request.Charged libs facts' where
  opened := h.opened
  attempted hAttempted := by
    rcases h.attempted hAttempted with hHooked | ⟨hFinal, hSettles⟩
    · exact .inl hHooked
    · refine .inr ⟨hFinal, fun activity hActivity => ?_⟩
      obtain ⟨command, answer, create, fact, hSettling, hFact, hRest⟩ := hSettles activity hActivity
      exact ⟨command, answer, create, fact, hSettling, hFacts fact hFact, hRest⟩

theorem Request.Charged.idle (h : request.Charged libs facts)
    (hStage : request'.stage = request.stage) (hBudget : request'.budget = request.budget)
    (hAttempted : request'.upstreamAttempted = request.upstreamAttempted)
    (hIdle : request'.activity = none) : request'.Charged libs facts where
  opened hOpen := by
    rw [hStage] at hOpen
    rw [hBudget, hIdle]
    exact ⟨(h.opened hOpen).1, by simp⟩
  attempted hTried := by
    rw [hStage, hIdle]
    rcases h.attempted (hAttempted ▸ hTried) with ⟨hHooked, -⟩ | ⟨hFinal, -⟩
    · exact .inl ⟨hHooked, rfl⟩
    · exact .inr ⟨hFinal, by simp⟩

theorem Request.Charged.unattempted (hStage : request'.stage ≠ .inspected)
    (hLeft : request'.stage ≠ .hooked) (hAttempted : request'.upstreamAttempted = false) :
    request'.Charged libs facts where
  opened hOpen := (hOpen.elim hStage hLeft).elim
  attempted hTried := by
    rw [hAttempted] at hTried
    cases hTried

variable {registry : ActiveBudgetIntentRegistry} {task : Nat}

theorem Request.Charged.hooks {outcome : Scope × Progress} (h : request.Charged libs facts)
    (hOpen : request.stage = .inspected ∨ request.stage = .hooked)
    (hTried : request.upstreamAttempted = false)
    (hHooks : Scope.Hooks ⟨registry, request.budget⟩ outcome)
    (hBudget : request'.budget = outcome.1.budget)
    (hAttempted : request'.upstreamAttempted = request.upstreamAttempted)
    (hActivity : ∀ activity, request'.activity = some activity →
      ∃ call, outcome.2 = .awaits call ∧ activity = call.start) : request'.Charged libs facts where
  opened _ := by
    refine ⟨?_, fun activity hSome => ?_⟩
    · rw [hBudget, hHooks.unsettled]
      exact (h.opened hOpen).1
    · obtain ⟨call, hAwaits, rfl⟩ := hActivity activity hSome
      exact hHooks.awaits call hAwaits
  attempted hTried' := by
    rw [hAttempted, hTried] at hTried'
    cases hTried'

def Node.Charged (libs : Libraries) (facts : Nat → Option AiUsageFact → Prop) (node : Node) :
    Prop :=
  ∀ task request, node.requests.lookup task = some request → request.Charged libs (facts task)

theorem Node.Charged.set {facts : Nat → Option AiUsageFact → Prop} {sys : System}
    {pass : Option Pass} (h : node.Charged libs facts)
    (hRequest : request'.Charged libs (facts task)) :
    (Node.setRequest ⟨sys, registry, node.requests, pass⟩ task request').Charged libs facts := by
  intro other found hFound
  rcases Table.lookup_insert_cases hFound with ⟨rfl, rfl⟩ | ⟨-, hOld⟩
  · exact hRequest
  · exact h other found hOld

variable {activity : Activity}

theorem Request.Charged.waiting (h : request.Charged libs facts)
    (hActivity : request.activity = some activity)
    (hOther : ∀ command answer, activity ≠ .settling true command answer) :
    request.upstreamAttempted = false := by
  cases hTried : request.upstreamAttempted with
  | false => rfl
  | true =>
    rcases h.attempted hTried with ⟨-, hIdle⟩ | ⟨-, hSettles⟩
    · rw [hActivity] at hIdle
      cases hIdle
    · obtain ⟨command, answer, -, -, hSettling, -⟩ := hSettles activity hActivity
      exact absurd hSettling (hOther command answer)

variable {nodeFacts : Nat → Option AiUsageFact → Prop}

/-- A request goes on after its call. -/
theorem Request.Charged.resume (h : node.Charged libs nodeFacts)
    (hRequest : node.requests.lookup task = some request)
    (hStep : node.resume libs runtime task request = some next) : next.Charged libs nodeFacts := by
  have hCharged := h task request hRequest
  have hHook : ∀ {activity : Activity} {outcome : Scope × Progress},
      request.activity = some activity → activity.OfHook →
      Scope.Hooks (node.scope request) outcome →
      (node.proceed task request outcome).Charged libs nodeFacts := by
    intro activity outcome hActivity hOfHook hHooks
    have hTried := hCharged.waiting hActivity (by rintro command answer rfl; exact hOfHook)
    obtain ⟨request', hNext, -, hStage, hAttempted, hBudget, hAwaits⟩ :=
      proceed_eq node task request outcome
    rw [hNext]
    refine h.set ?_
    by_cases hOpen : request.stage = .inspected ∨ request.stage = .hooked
    · exact hCharged.hooks hOpen hTried hHooks hBudget hAttempted hAwaits
    · rw [not_or, ← hStage] at hOpen
      exact .unattempted hOpen.1 hOpen.2 (hAttempted.trans hTried)
  have hLater : ∀ {activity : Activity} {outcome : Scope × Progress},
      request.activity = some activity → ¬ activity.OfHook →
      (request.upstreamAttempted = true → ∀ call, outcome.2 ≠ .awaits call) →
      (node.proceed task request outcome).Charged libs nodeFacts := by
    intro activity outcome hActivity hOfHook hEnds
    obtain ⟨request', hNext, -, hStage, hAttempted, hBudget, hAwaits⟩ :=
      proceed_eq node task request outcome
    rw [hNext]
    refine h.set ?_
    have hOpen : ¬ (request.stage = .inspected ∨ request.stage = .hooked) := fun hOpen =>
      hOfHook ((hCharged.opened hOpen).2 activity hActivity)
    rw [← hStage] at hOpen
    refine ⟨fun hOpened => absurd hOpened hOpen, fun hTried => ?_⟩
    rw [hAttempted] at hTried
    rcases hCharged.attempted hTried with ⟨-, hIdle⟩ | ⟨hFinal, -⟩
    · rw [hActivity] at hIdle
      cases hIdle
    · refine .inr ⟨hStage.trans hFinal, fun later hSome => ?_⟩
      obtain ⟨call, hCall, -⟩ := hAwaits later hSome
      exact absurd hCall (hEnds hTried call)
  unfold Node.resume at hStep
  dsimp only at hStep
  split at hStep
  · next hActivity =>
    cases hStep
    exact hHook hActivity trivial hookCreated_hooks
  · next hActivity =>
    cases hStep
    exact hHook hActivity trivial hookDispatched_hooks
  · next hActivity =>
    cases hStep
    refine hLater hActivity (fun hOfHook => hOfHook) fun hTried => ?_
    rw [hCharged.waiting hActivity (by simp)] at hTried
    cases hTried
  · next answer hActivity =>
    cases hStep
    refine hLater hActivity (fun hOfHook => hOfHook) fun _ call => ?_
    unfold settled
    split <;> simp
  · cases hStep

/-- The finalizer of a request. -/
theorem Node.Charged.finalize {task : Nat} {fact : Option AiUsageFact}
    (h : node.Charged libs nodeFacts) (hSound : node.Sound libs runtime)
    (hRequest : node.requests.lookup task = some request) (hStage : request.stage ≠ .finalized)
    (hFact : nodeFacts task fact) :
    (node.proceed task { request with stage := .finalized }
      (finalizeBegin libs request.requestId request.upstreamAttempted fact
        (node.scope request))).Charged libs nodeFacts := by
  have hCharged := h task request hRequest
  obtain ⟨request', hNext, -, hStage', hAttempted, hBudget, hAwaits⟩ :=
    proceed_eq node task { request with stage := .finalized }
      (finalizeBegin libs request.requestId request.upstreamAttempted fact (node.scope request))
  rw [hNext]
  refine h.set ?_
  cases hTried : request.upstreamAttempted with
  | false =>
    exact .unattempted (by simp [hStage']) (by simp [hStage']) (hAttempted.trans hTried)
  | true =>
    rw [hTried] at hBudget hAwaits
    have hHooked : request.stage = .hooked := by
      rcases hCharged.attempted hTried with ⟨hHooked, -⟩ | ⟨hFinal, -⟩
      · exact hHooked
      · exact absurd hFinal hStage
    have hOpen := (hCharged.opened (.inr hHooked)).1
    refine ⟨fun hOpened => ?_, fun _ => .inr ⟨hStage', fun activity hActivity => ?_⟩⟩
    · rw [hStage'] at hOpened
      simp at hOpened
    · obtain ⟨call, hCall, rfl⟩ := hAwaits activity hActivity
      rcases (hSound.requests task request hRequest).context with hBlank | ⟨create, hFor, hHolds⟩
      · have hScope : (node.scope request).budget.Blank := hBlank
        rw [finalizeBegin_blank hScope] at hCall
        cases hCall
      · obtain ⟨command, rfl, hCreated, hCharges⟩ :=
          finalizeBegin_charges hHolds hFor.requestId_eq hOpen hCall
        exact ⟨command, none, create, fact, rfl, hFact, hBudget ▸ hCreated, hCharges⟩

theorem Request.Charged.executes {reply : Reply} {now : Nat} {activity' : Activity} {sys' : System}
    (h : request.Charged libs facts) (hActivity : request.activity = some activity)
    (hExecutes : Node.Executes libs runtime node reply now activity sys' activity') :
    Request.Charged libs facts { request with activity := some activity' } where
  opened hOpen := by
    obtain ⟨hNone, hOfHook⟩ := h.opened hOpen
    refine ⟨hNone, ?_⟩
    rintro _ ⟨rfl⟩
    have hBefore := hOfHook activity hActivity
    cases hExecutes with
    | creating command | dispatching command => trivial
    | replaying final command | settling final command => exact hBefore
  attempted hTried := by
    rcases h.attempted hTried with ⟨-, hIdle⟩ | ⟨hFinal, hSettles⟩
    · rw [hActivity] at hIdle
      cases hIdle
    · obtain ⟨command, answer, create, fact, rfl, hRest⟩ := hSettles activity hActivity
      refine .inr ⟨hFinal, ?_⟩
      rintro _ ⟨rfl⟩
      cases hExecutes with
      | settling final command => exact ⟨command, _, create, fact, rfl, hRest⟩

theorem Request.Charged.untried (h : request.Charged libs facts)
    (hStage : request.stage = .inspected) : request.upstreamAttempted = false := by
  cases hTried : request.upstreamAttempted with
  | false => rfl
  | true =>
    rcases h.attempted hTried with ⟨hHooked, -⟩ | ⟨hFinal, -⟩
    · rw [hStage] at hHooked
      cases hHooked
    · rw [hStage] at hFinal
      cases hFinal

theorem Node.Charged.hook {intentId : Uuid} {snapshot : BudgetPricingSnapshot}
    (h : node.Charged libs nodeFacts) (hRequest : node.requests.lookup task = some request)
    (hStage : request.stage = .inspected) :
    (node.proceed task { request with stage := .hooked }
      (hookBegin libs runtime request.requestId intentId snapshot (node.scope request))).Charged
      libs nodeFacts := by
  have hCharged := h task request hRequest
  obtain ⟨request', hNext, -, -, hAttempted, hBudget, hAwaits⟩ :=
    proceed_eq node task { request with stage := .hooked }
      (hookBegin libs runtime request.requestId intentId snapshot (node.scope request))
  rw [hNext]
  exact h.set (hCharged.hooks (.inl hStage) (hCharged.untried hStage) hookBegin_hooks hBudget
    hAttempted hAwaits)

theorem Node.Charged.refuse (h : node.Charged libs nodeFacts)
    (hRequest : node.requests.lookup task = some request) (hStage : request.stage = .inspected) :
    (node.setRequest task { request with stage := .hooked, upstreamForbidden := true }).Charged
      libs nodeFacts := by
  have hCharged := h task request hRequest
  refine h.set ⟨fun _ => hCharged.opened (.inl hStage), fun hTried => ?_⟩
  rw [hCharged.untried hStage] at hTried
  cases hTried

theorem Node.Charged.abort (h : node.Charged libs nodeFacts)
    (hTried : request.upstreamAttempted = false) :
    (node.proceed task { request with stage := .aborted, upstreamForbidden := true }
      (compensateBegin libs request.requestId (node.scope request))).Charged libs nodeFacts := by
  obtain ⟨request', hNext, -, hStage, hAttempted, -⟩ :=
    proceed_eq node task { request with stage := .aborted, upstreamForbidden := true }
      (compensateBegin libs request.requestId (node.scope request))
  rw [hNext]
  exact h.set (.unattempted (by simp [hStage]) (by simp [hStage]) (hAttempted.trans hTried))

theorem Node.Charged.erase (h : node.Charged libs nodeFacts) (task : Nat) :
    ({ node with registry := registry, requests := node.requests.erase task } : Node).Charged
      libs nodeFacts := by
  intro other found hFound
  by_cases hOther : other = task
  · subst hOther
    rw [AList.lookup_erase] at hFound
    cases hFound
  · rw [AList.lookup_erase_ne hOther] at hFound
    exact h other found hFound

theorem Node.recoverNext_requests {pass : Pass} (h : node.recoverNext libs pass = some next) :
    next.requests = node.requests := by
  unfold Node.recoverNext at h
  split at h <;> cases h
  rfl

theorem Node.recoverResume_requests {pass : Pass} (h : node.recoverResume libs pass = some next) :
    next.requests = node.requests := by
  unfold Node.recoverResume at h
  split at h <;> cases h <;> rfl

theorem Node.Charged.step {event : Event} (h : node.Charged libs nodeFacts)
    (hSound : node.Sound libs runtime) (hStep : node.step libs runtime event = some next) :
    next.Charged libs fun task fact => nodeFacts task fact ∨ event = .finalize task fact := by
  have hSame : node.Charged libs fun task fact => nodeFacts task fact ∨ event = .finalize task fact :=
    fun task request hRequest => (h task request hRequest).mono fun _ => .inl
  have hRequests : next.requests = node.requests →
      next.Charged libs fun task fact => nodeFacts task fact ∨ event = .finalize task fact := by
    intro hKept task request hRequest
    rw [hKept] at hRequest
    exact hSame task request hRequest
  cases event with
  | environment call =>
    simp only [Node.step, Option.ite_none_left_eq_some, Option.some.injEq] at hStep
    obtain ⟨-, rfl⟩ := hStep
    exact hRequests rfl
  | inspected task requestId virtualKeyId =>
    simp only [Node.step, Option.ite_none_right_eq_some, Option.some.injEq] at hStep
    obtain ⟨-, rfl⟩ := hStep
    exact hSame.set ⟨fun _ => ⟨rfl, by simp⟩, by simp⟩
  | hook task intentId snapshot =>
    simp only [Node.step, Option.bind_eq_bind, Option.bind_eq_some_iff,
      Option.ite_none_right_eq_some, Option.some.injEq] at hStep
    obtain ⟨request, hRequest, hStage, rfl⟩ := hStep
    exact hSame.hook hRequest hStage
  | hookRefused task =>
    simp only [Node.step, Option.bind_eq_bind, Option.bind_eq_some_iff,
      Option.ite_none_right_eq_some, Option.some.injEq] at hStep
    obtain ⟨request, hRequest, hStage, rfl⟩ := hStep
    exact hSame.refuse hRequest hStage
  | abort task =>
    simp only [Node.step, Option.bind_eq_bind, Option.bind_eq_some_iff,
      Option.ite_none_right_eq_some, Option.some.injEq] at hStep
    obtain ⟨request, -, ⟨-, -, hTried⟩, rfl⟩ := hStep
    exact hSame.abort hTried
  | upstream task =>
    simp only [Node.step, Option.bind_eq_bind, Option.bind_eq_some_iff,
      Option.ite_none_right_eq_some, Option.some.injEq, Option.isNone_iff_eq_none] at hStep
    obtain ⟨request, hRequest, ⟨hStage, hIdle, -⟩, rfl⟩ := hStep
    have hCharged := hSame task request hRequest
    exact hSame.set ⟨hCharged.opened, fun _ => .inl ⟨hStage, hIdle⟩⟩
  | finalize task fact =>
    simp only [Node.step, Option.bind_eq_bind, Option.bind_eq_some_iff,
      Option.ite_none_right_eq_some, Option.some.injEq] at hStep
    obtain ⟨request, hRequest, ⟨hStage, -⟩, rfl⟩ := hStep
    exact hSame.finalize hSound hRequest hStage (.inr rfl)
  | execute task reply now =>
    simp only [Node.step, Option.bind_eq_bind, Option.bind_eq_some_iff] at hStep
    obtain ⟨request, hRequest, hExecute⟩ := hStep
    obtain ⟨activity, sys', activity', hActivity, hExecutes, rfl⟩ := Node.execute_cases hExecute
    exact hSame.set ((hSame task request hRequest).executes hActivity hExecutes)
  | resume task =>
    simp only [Node.step, Option.bind_eq_bind, Option.bind_eq_some_iff] at hStep
    obtain ⟨request, hRequest, hResume⟩ := hStep
    exact Request.Charged.resume hSame hRequest hResume
  | timeout task =>
    simp only [Node.step, Option.bind_eq_bind, Option.bind_eq_some_iff,
      Option.ite_none_right_eq_some, Option.some.injEq] at hStep
    obtain ⟨request, hRequest, -, rfl⟩ := hStep
    exact hSame.set ((hSame task request hRequest).idle rfl rfl rfl rfl)
  | drop task =>
    simp only [Node.step, Option.bind_eq_bind, Option.bind_eq_some_iff, Option.some.injEq] at hStep
    obtain ⟨request, -, rfl⟩ := hStep
    exact hSame.erase task
  | recover requestIds =>
    simp only [Node.step, Option.ite_none_right_eq_some, Option.some.injEq] at hStep
    obtain ⟨-, rfl⟩ := hStep
    exact hRequests rfl
  | recoverNext =>
    obtain ⟨pass, -, hNext⟩ := Option.bind_eq_some_iff.mp hStep
    exact hRequests (Node.recoverNext_requests hNext)
  | recoverLookup visible reply =>
    obtain ⟨pass, -, hNext⟩ := Option.bind_eq_some_iff.mp hStep
    obtain ⟨snapshot, create, -, rfl⟩ := Node.recoverLookup_cases hNext
    exact hRequests rfl
  | recoverSettle reply now =>
    obtain ⟨pass, -, hNext⟩ := Option.bind_eq_some_iff.mp hStep
    obtain ⟨snapshot, command, -, rfl⟩ := Node.recoverSettle_cases hNext
    exact hRequests rfl
  | recoverResume =>
    obtain ⟨pass, -, hNext⟩ := Option.bind_eq_some_iff.mp hStep
    exact hRequests (Node.recoverResume_requests hNext)
  | recoverStop =>
    simp only [Node.step, Option.ite_none_right_eq_some, Option.some.injEq] at hStep
    obtain ⟨-, rfl⟩ := hStep
    exact hRequests rfl

theorem Node.Charged.run {events : List Event} {final : Node} (h : node.Charged libs nodeFacts)
    (hSound : node.Sound libs runtime) (hRun : node.run libs runtime events = some final) :
    final.Charged libs fun task fact => nodeFacts task fact ∨ .finalize task fact ∈ events := by
  induction events generalizing node nodeFacts with
  | nil =>
    cases hRun
    exact fun task request hRequest => (h task request hRequest).mono fun _ => .inl
  | cons event events ih =>
    obtain ⟨next, hStep, hRest⟩ := Option.bind_eq_some_iff.mp hRun
    intro task request hRequest
    refine (ih (h.step hSound hStep) (hSound.step hStep) hRest task request hRequest).mono ?_
    rintro fact ((hFact | rfl) | hLater)
    · exact .inl hFact
    · exact .inr List.mem_cons_self
    · exact .inr (List.mem_cons_of_mem _ hLater)

/-- **An attempted request is charged its usage.** Whatever its run, a request whose upstream was
attempted sends its settlement from its finalizer, never without costs; the amount is the price of
its usage under the frozen snapshot when the usage fact agrees with everything, and otherwise
nothing is known about the amount. -/
theorem attempted_charges {events : List Event} {final : Node} {task : Nat} {isFinal : Bool}
    {command : SettleBudgetIntent} {answer : Option (Except BudgetStoreError BudgetSettlement)}
    (hInitial : node.Initial runtime) (hRun : node.run libs runtime events = some final)
    (hRequest : final.requests.lookup task = some request)
    (hAttempted : request.upstreamAttempted = true)
    (hActivity : request.activity = some (.settling isFinal command answer)) :
    isFinal = true ∧ ∃ create fact, CreatesFor libs runtime request.requestId create ∧
      SettlesFor libs create command ∧ .finalize task fact ∈ events ∧
      Charges libs create fact command.cost ∧ command.cost.status ≠ .notIncurred ∧
      ∀ amount, command.cost.amountUsd = some amount → amount.mantissa = 0 →
        ∃ usage price, fact = some usage ∧ usage.Agrees libs create price ∧ price.mantissa = 0 := by
  have hSound := hInitial.sound.run hRun
  have hNothing : node.Charged libs fun _ _ => False := by
    intro other found hFound
    rw [hInitial.requests] at hFound
    cases hFound
  have hCharged := hNothing.run hInitial.sound hRun task request hRequest
  rcases hCharged.attempted hAttempted with ⟨-, hIdle⟩ | ⟨-, hSettles⟩
  · rw [hActivity] at hIdle
    cases hIdle
  · obtain ⟨settled, reply, create, fact, hSettling, hFact, hCreated, hCharges⟩ :=
      hSettles _ hActivity
    cases hSettling
    obtain ⟨found, hFound, hSettlesFor⟩ := (hSound.requests task request hRequest).fits _ hActivity
    obtain rfl : create = found := Option.mem_unique hCreated hFound
    refine ⟨rfl, create, fact, ?_, hSettlesFor, hFact.resolve_left id, hCharges,
      hCharges.incurred, fun amount => hCharges.zero⟩
    rcases (hSound.requests task request hRequest).context with hBlank | ⟨other, hFor, hHolds⟩
    · rw [hBlank.created] at hCreated
      cases hCreated
    · obtain rfl : other = create := Option.some.inj (hHolds.budget.created.symm.trans hCreated)
      exact hFor

end Requests

/-! ## A request that is charged -/

def sampleCharge : Libraries :=
  sampleBudget.withDigest
    ("budget-settle:v1\n" ++ sampleRequest '7' ++ "\n" ++ uuidText 1 ++ "\n" ++ uuidText 7 ++
      "\ncalculated\n0.001500000000\n\n" ++ uuidText 5)
    "a4c423b95e3cc4f6d7a8d57ab5cfe4d60270c5ad4239735be6d57b7fecde7c70"

/-- A thousand tokens in, five hundred out. -/
def sampleUsage : AiUsageFact where
  id := 5
  requestId := sampleRequest '7'
  virtualKeyId := some 1
  promptTokens := some 1000
  completionTokens := some 500
  usageSource := .provider
  usageUnavailableReasons := []
  inputPrice := some samplePrice
  outputPrice := some samplePrice
  pricingFingerprint := some samplePricingDigest
  pricingStatus := .matched
  costUsd := some ⟨15, 4, by decide⟩
  costStatus := .calculated
  costUnavailableReasons := []

/-- The request settles what its attempt costs, without an answer yet. -/
def Request.settlesAttempted (request : Request) : Bool :=
  match request.activity with
  | some (.settling true _ none) => true
  | _ => false

/-- A request that reaches its upstream and is finalized with its usage. -/
def chargedRun : List Event :=
  [.inspected 0 (sampleRequest '7') 1, .hook 0 7 samplePricing, .execute 0 .answered 2000,
    .resume 0, .execute 0 .answered 3000, .resume 0, .upstream 0,
    .finalize 0 (some sampleUsage)]

theorem attempted_charges_sample : ∃ (final : Node) (request : Request)
    (command : SettleBudgetIntent), sampleNode.run sampleCharge sampleRuntime chargedRun =
      some final ∧ final.requests.lookup 0 = some request ∧
      request.activity = some (.settling true command none) ∧
      command.cost.status ≠ .notIncurred ∧
      ∃ create fact, .finalize 0 fact ∈ chargedRun ∧ SettlesFor sampleCharge create command ∧
        Charges sampleCharge create fact command.cost := by
  have hRun : (sampleNode.run sampleCharge sampleRuntime chargedRun).map (fun node =>
      (node.requests.lookup 0).map fun request =>
        (request.upstreamAttempted, request.settlesAttempted)) = some (some (true, true)) := by
    decide +kernel
  obtain ⟨final, hFinal, hView⟩ := Option.map_eq_some_iff.mp hRun
  obtain ⟨request, hRequest, hFields⟩ := Option.map_eq_some_iff.mp hView
  obtain ⟨hAttempted, hSettling⟩ := Prod.mk.inj hFields
  unfold Request.settlesAttempted at hSettling
  split at hSettling
  · next command hActivity =>
    obtain ⟨-, create, fact, -, hSettles, hFact, hCharges, hIncurred, -⟩ :=
      attempted_charges sampleNode_initial hFinal hRequest hAttempted hActivity
    exact ⟨final, request, command, hFinal, hRequest, hActivity, hIncurred, create, fact, hFact,
      hSettles, hCharges⟩
  · cases hSettling

end KongRust.Enforcement

import KongRust.Enforcement.Costs
import KongRust.RateLimit.Bookkeeping

/-!
# The quota of one request

The access phase of the `ai-rate-limit` plugin with a shared runtime, and the abort compensator
and the finalizer of `enforcement/quota.rs`. They share the context of the request. The store is
called through the `Wire` of the request, which says what of it gets lost; what the budget
side answers to the one inspection is an argument.
-/

namespace KongRust.Enforcement.Quota

open Budget RateLimit Orchestration Remote

/-! ## The context of a request -/

inductive AiClientProtocol where
  | openAi | anthropic
  deriving DecidableEq

inductive AiRateLimitMode where
  | global | route | consumer | virtualKey
  deriving DecidableEq

/-- `AiRateLimitMode::parse`. -/
def AiRateLimitMode.parse (value : String) : Option AiRateLimitMode :=
  if value = "global" then some .global
  else if value = "route" then some .route
  else if value = "consumer" then some .consumer
  else if value = "virtual_key" then some .virtualKey
  else none

inductive AiPolicyConfigErrorCode where
  | invalidRateLimitMode | invalidAiProxyConfig | invalidClientProtocol | missingAiProxy
  deriving DecidableEq

/-- What the plugin reads of the policy snapshot. -/
structure AiPolicyChainSnapshot where
  hasAiProxy : Bool
  clientProtocol : Option AiClientProtocol
  configError : Option AiPolicyConfigErrorCode
  deriving DecidableEq

structure VirtualKeyPolicySnapshot where
  rpmLimit : Option ℕ+
  tpmLimit : Option ℕ+
  budgetGuardRequired : Bool
  deriving DecidableEq

structure AiAuthContext where
  virtualKeyId : Uuid
  clientProtocol : AiClientProtocol
  policy : VirtualKeyPolicySnapshot
  deriving DecidableEq

/-- What the quota reads of `AiRequestState`. -/
structure AiRequestState where
  estimatedPromptTokens : Nat
  totalTokens : Option Nat
  deriving DecidableEq

inductive QuotaSettlementState where
  | notRequired | pending | settled | retryRequired
  deriving DecidableEq

structure AiRateLimitRequestContext where
  key : RateLimitKey
  limits : QuotaLimits
  protocol : AiClientProtocol
  reserved : QuotaCharge
  admissionSnapshot : Option RateLimitSnapshot
  responseSnapshot : Option RateLimitSnapshot
  rejection : Option ExceededDimension
  reservation : Option ReservationEnvelope
  settlementCommand : Option SettleCommand
  settlement : QuotaSettlementState
  headersEmitted : Bool

namespace AiRateLimitRequestContext

def allowed (key : RateLimitKey) (limits : QuotaLimits) (protocol : AiClientProtocol)
    (reserved : QuotaCharge) (reservation : ReservationEnvelope) (snapshot : RateLimitSnapshot) :
    AiRateLimitRequestContext where
  key := key
  limits := limits
  protocol := protocol
  reserved := reserved
  admissionSnapshot := some snapshot
  responseSnapshot := none
  rejection := none
  reservation := some reservation
  settlementCommand := none
  settlement := .pending
  headersEmitted := false

def rejected (key : RateLimitKey) (limits : QuotaLimits) (protocol : AiClientProtocol)
    (reserved : QuotaCharge) (reason : ExceededDimension) (snapshot : RateLimitSnapshot) :
    AiRateLimitRequestContext where
  key := key
  limits := limits
  protocol := protocol
  reserved := reserved
  admissionSnapshot := some snapshot
  responseSnapshot := none
  rejection := some reason
  reservation := none
  settlementCommand := none
  settlement := .notRequired
  headersEmitted := false

def snapshotOnly (key : RateLimitKey) (limits : QuotaLimits) (protocol : AiClientProtocol)
    (snapshot : RateLimitSnapshot) : AiRateLimitRequestContext where
  key := key
  limits := limits
  protocol := protocol
  reserved := ⟨0, 0⟩
  admissionSnapshot := some snapshot
  responseSnapshot := none
  rejection := none
  reservation := none
  settlementCommand := none
  settlement := .notRequired
  headersEmitted := false

end AiRateLimitRequestContext

/-- The body of an error response, in the dialect of the client. -/
inductive ErrorBody where
  | openAi (message errorType code : String)
  | anthropic (code message requestId : String)
  deriving DecidableEq

/-- What the plugin and the hooks read and write of `RequestCtx`. -/
structure RequestCtx where
  requestId : String
  upstreamAttempted : Bool
  shortCircuited : Bool
  exitStatus : Option Nat
  exitBody : Option ErrorBody
  responseHeadersToSet : List (String × String)
  responseHeadersToRemove : List String
  routeId : Option Uuid
  consumerId : Option Uuid
  requestBody : Option String
  policy : Option AiPolicyChainSnapshot
  auth : Option AiAuthContext
  state : Option AiRequestState
  /-- The total tokens of the usage fact, once there is a fact. -/
  fact : Option (Option Int)
  /-- The key whose budget was found eligible. -/
  budgetInspected : Option Uuid
  quota : Option AiRateLimitRequestContext

namespace RequestCtx

/-- `AiRateLimitPlugin::protocol`. -/
def protocol (ctx : RequestCtx) : AiClientProtocol :=
  ((ctx.auth.map AiAuthContext.clientProtocol).or
    (ctx.policy.bind AiPolicyChainSnapshot.clientProtocol)).getD .openAi

/-- `reject_with_protocol_error`. -/
def reject (ctx : RequestCtx) (protocol : AiClientProtocol) (status : Nat)
    (code message : String) : RequestCtx :=
  let errorType :=
    if status = 401 then "invalid_request_error"
    else if status = 403 then "insufficient_quota"
    else if status = 429 then "rate_limit_error"
    else if 500 ≤ status ∧ status ≤ 599 then "server_error"
    else "gateway_error"
  { ctx with
    shortCircuited := true
    exitStatus := some status
    exitBody := some (match protocol with
      | .openAi => .openAi message errorType code
      | .anthropic => .anthropic code message ctx.requestId) }

end RequestCtx

/-! ## Errors -/

def errorKindText : RateLimitStoreErrorKind → String
  | .unavailable => "Unavailable"
  | .timeout => "Timeout"
  | .outcomeUnknown => "OutcomeUnknown"
  | .overloaded => "Overloaded"
  | .corrupt => "Corrupt"
  | .unsupported => "Unsupported"

/-- `RateLimitStoreError` as a text. -/
def errorText (error : RateLimitStoreError) : String :=
  errorKindText error.kind ++ ": " ++ error.message

def quotaErrorContract : RateLimitStoreErrorKind → String × String
  | .corrupt => ("quota_backend_state_invalid", "Quota enforcement state is invalid.")
  | .unsupported =>
    ("quota_backend_unsupported", "Quota enforcement is not supported in this deployment mode.")
  | .unavailable => ("quota_backend_unavailable", "Quota enforcement is temporarily unavailable.")
  | .timeout => ("quota_backend_unavailable", "Quota enforcement is temporarily unavailable.")
  | .outcomeUnknown =>
    ("quota_backend_unavailable", "Quota enforcement is temporarily unavailable.")
  | .overloaded => ("quota_backend_unavailable", "Quota enforcement is temporarily unavailable.")

def quotaErrorCode (kind : RateLimitStoreErrorKind) : String := (quotaErrorContract kind).1

variable (ctx : RequestCtx)

/-- `reject_quota_backend_error`. -/
def RequestCtx.rejectQuotaBackend (ctx : RequestCtx) (protocol : AiClientProtocol)
    (kind : RateLimitStoreErrorKind) : RequestCtx :=
  ctx.reject protocol 503 (quotaErrorContract kind).1 (quotaErrorContract kind).2

/-! ## The budget before the quota -/

inductive BudgetRuntimeUnavailable where
  | dbLessMode | hybridMode | accountingUnavailable | ownerFenced
  deriving DecidableEq

def budgetRuntimeError : BudgetRuntimeUnavailable → String × String
  | .dbLessMode =>
    ("budget_accounting_unsupported", "Budget accounting is not supported in this deployment mode.")
  | .hybridMode =>
    ("budget_accounting_unsupported", "Budget accounting is not supported in this deployment mode.")
  | .accountingUnavailable =>
    ("budget_accounting_unavailable", "Budget accounting is temporarily unavailable.")
  | .ownerFenced =>
    ("budget_accounting_unavailable", "Budget accounting is temporarily unavailable.")

/-- `reject_store_error`: its status and message. The code is `budgetErrorCode`. -/
def storeErrorContract : BudgetErrorKind → Nat × String
  | .exhausted => (403, "The virtual key budget has been exhausted.")
  | .accountingUnresolved => (503, "Budget accounting requires reconciliation.")
  | .corrupt => (503, "Budget accounting requires reconciliation.")
  | .numericOverflow => (503, "Budget accounting requires reconciliation.")
  | .conflict => (503, "Budget accounting requires reconciliation.")
  | .reconciliationRequired => (503, "Budget accounting requires reconciliation.")
  | .intentActive => (503, "Budget accounting requires reconciliation.")
  | .alreadyReconciled => (503, "Budget accounting requires reconciliation.")
  | .accountBusy => (503, "Budget accounting requires reconciliation.")
  | .unsupported => (503, "Budget accounting is not supported in this deployment mode.")
  | .pricingUnavailable => (503, "Budget pricing is unavailable for this request.")
  | .accountingUnavailable => (503, "Budget accounting is temporarily unavailable.")
  | .outcomeUnknown => (503, "Budget accounting is temporarily unavailable.")
  | .notFound => (503, "Budget accounting is temporarily unavailable.")

def RequestCtx.rejectStore (ctx : RequestCtx) (protocol : AiClientProtocol)
    (error : BudgetStoreError) : RequestCtx :=
  ctx.reject protocol (storeErrorContract error.kind).1 (budgetErrorCode error.kind)
    (storeErrorContract error.kind).2

/-- What the budget side answers: whether there is a runtime, the permit, the inspection. -/
structure BudgetAnswers where
  runtime : Except BudgetRuntimeUnavailable Unit
  permit : Except BudgetRuntimeUnavailable Unit
  inspection : Except BudgetStoreError BudgetEligibility

inductive BudgetInspectionOutcome where
  | continue_ | exhausted | rejected
  deriving DecidableEq

/-- `inspect_budget_before_quota`. -/
def inspectBudgetBeforeQuota (answers : BudgetAnswers) (auth : AiAuthContext)
    (protocol : AiClientProtocol) (ctx : RequestCtx) : BudgetInspectionOutcome × RequestCtx :=
  if !auth.policy.budgetGuardRequired then (.continue_, ctx)
  else
    match answers.runtime with
    | .error reason =>
      (.rejected, ctx.reject protocol 503 (budgetRuntimeError reason).1 (budgetRuntimeError reason).2)
    | .ok () =>
      match answers.permit with
      | .error reason =>
        (.rejected,
          ctx.reject protocol 503 (budgetRuntimeError reason).1 (budgetRuntimeError reason).2)
      | .ok () =>
        match answers.inspection with
        | .ok .eligible => (.continue_, { ctx with budgetInspected := some auth.virtualKeyId })
        | .ok .paused => (.continue_, ctx)
        | .ok .exhausted => (.exhausted, ctx)
        | .error error =>
          if error.kind = .exhausted then (.exhausted, ctx)
          else (.rejected, ctx.rejectStore protocol error)

/-! ## Access -/

structure AiRateLimitConfig where
  limitBy : String
  tpmLimit : Option Nat
  rpmLimit : Option Nat
  errorCode : Nat
  errorMessage : String

/-- `NonZeroU64::new`. -/
def nonZero (value : Nat) : Option ℕ+ := if h : 0 < value then some ⟨value, h⟩ else none

def AiRateLimitConfig.limits (cfg : AiRateLimitConfig) : QuotaLimits :=
  ⟨cfg.rpmLimit.bind nonZero, cfg.tpmLimit.bind nonZero⟩

/-- What the process shares: the namespace of its quota keys, if there is a quota runtime, and the
tokenizer registry. -/
structure Runtime where
  quota : Option String
  /-- `count_prompt_from_body`, with the provider and the model that the body names. -/
  registry : Option (String → Nat)

/-- `TokenCounter::count_estimate`. -/
def countEstimate (text : String) : Nat := (text.utf8ByteSize + 3) / 4

/-- `compute_estimated_prompt_tokens`. -/
def computeEstimatedPromptTokens (runtime : Runtime) (ctx : RequestCtx) : Nat :=
  match ctx.state.filter fun state => 0 < state.estimatedPromptTokens with
  | some state => state.estimatedPromptTokens
  | none =>
    match ctx.requestBody.filter fun body => body ≠ "" with
    | none => 0
    | some body =>
      match runtime.registry with
      | some countPrompt => countPrompt body
      | none => countEstimate body

def minute : WindowSpec := ⟨.fixedFirstHit, 60 * SECOND⟩

/-- The subject of a mode, its limits, and the key whose budget is to be inspected. -/
abbrev Subject := RateLimitSubject × QuotaLimits × Option AiAuthContext

def policyChainInvalid : String := "ai_policy_chain_invalid"

/-- The subject of the request, or the rejection. -/
def subjectOf (cfg : AiRateLimitConfig) (mode : AiRateLimitMode) (protocol : AiClientProtocol)
    (ctx : RequestCtx) : Except RequestCtx Subject :=
  match mode with
  | .virtualKey =>
    match ctx.policy.filter AiPolicyChainSnapshot.hasAiProxy with
    | none => .error (ctx.reject protocol 500 policyChainInvalid
        "AI policy chain is missing ai-proxy")
    | some _ =>
      match ctx.auth with
      | none => .error (ctx.reject protocol 401 "virtual_key_required"
          "A virtual key is required.")
      | some auth =>
        .ok (.virtualKey auth.virtualKeyId, ⟨auth.policy.rpmLimit, auth.policy.tpmLimit⟩, some auth)
  | .global => .ok (.global, cfg.limits, none)
  | .route =>
    match ctx.routeId with
    | none => .error (ctx.reject protocol 500 policyChainInvalid
        "Route-scoped quota requires a matched route")
    | some routeId => .ok (.route routeId, cfg.limits, none)
  | .consumer => .ok (.consumer ctx.consumerId, cfg.limits, none)

def RateLimitKey.new (deploymentNamespace : String) (subject : RateLimitSubject) : RateLimitKey :=
  ⟨RATE_LIMIT_SCHEMA_VERSION, deploymentNamespace, subject⟩

def QuotaLimits.unlimited (limits : QuotaLimits) : Bool :=
  limits.requests.isNone && limits.tokens.isNone

section

variable {σ : Type} (store : RateLimitStore σ) (link : Link σ RateLimitStoreError)
  (runtime : Runtime) (cfg : AiRateLimitConfig)

/-- The end of a request whose budget is exhausted, with the current quota in its headers. -/
def exhausted (protocol : AiClientProtocol) (subject : RateLimitSubject) (limits : QuotaLimits)
    (ctx : RequestCtx) (wire : Wire σ) : RequestCtx × Wire σ :=
  let refuse (ctx : RequestCtx) : RequestCtx :=
    ctx.reject protocol 403 "budget_exhausted" "The virtual key budget has been exhausted."
  if QuotaLimits.unlimited limits then (refuse ctx, wire)
  else
    match runtime.quota with
    | none => (ctx.rejectQuotaBackend protocol .unsupported, wire)
    | some deploymentNamespace =>
      let key := RateLimitKey.new deploymentNamespace subject
      match (client store link).callInspect (.current key minute limits) wire with
      | (.ok (.current snapshot), wire) =>
        (refuse { ctx with quota := some (.snapshotOnly key limits protocol snapshot) }, wire)
      | (.ok _, wire) => (ctx.rejectQuotaBackend protocol .corrupt, wire)
      | (.error error, wire) => (ctx.rejectQuotaBackend protocol error.kind, wire)

def reserved (limits : QuotaLimits) (ctx : RequestCtx) : QuotaCharge :=
  ⟨1, if limits.tokens.isSome then computeEstimatedPromptTokens runtime ctx else 0⟩

/-- The response to a request over its limit. -/
def refuseOver (mode : AiRateLimitMode) (protocol : AiClientProtocol) (reason : ExceededDimension)
    (ctx : RequestCtx) : RequestCtx :=
  if mode = .virtualKey then
    match reason with
    | .tokens =>
      ctx.reject protocol 429 "tokens_rate_limit_exceeded" "Virtual key token rate limit exceeded."
    | .requests =>
      ctx.reject protocol 429 "requests_rate_limit_exceeded"
        "Virtual key request rate limit exceeded."
    | .requestsAndTokens =>
      ctx.reject protocol 429 "requests_rate_limit_exceeded"
        "Virtual key request rate limit exceeded."
  else ctx.reject protocol cfg.errorCode "rate_limit_exceeded" cfg.errorMessage

def admitCommand (key : RateLimitKey) (limits : QuotaLimits) (ctx : RequestCtx) : AdmitCommand where
  requestId := ctx.requestId
  key := key
  window := minute
  limits := limits
  reserve := reserved runtime limits ctx

/-- The admission of a request whose subject has a limit. -/
def admission (mode : AiRateLimitMode) (protocol : AiClientProtocol) (subject : RateLimitSubject)
    (limits : QuotaLimits) (ctx : RequestCtx) (wire : Wire σ) : RequestCtx × Wire σ :=
  match runtime.quota with
  | none => (ctx.rejectQuotaBackend protocol .unsupported, wire)
  | some deploymentNamespace =>
    let key := RateLimitKey.new deploymentNamespace subject
    let command := admitCommand runtime key limits ctx
    match Wire.admit store link command wire with
    | (.ok (.allowed reservation snapshot _), wire) =>
      ({ ctx with quota := some (.allowed key limits protocol command.reserve reservation snapshot) },
        wire)
    | (.ok (.rejected reason snapshot _), wire) =>
      (refuseOver cfg mode protocol reason
        { ctx with quota := some (.rejected key limits protocol command.reserve reason snapshot) },
        wire)
    | (.error error, wire) => (ctx.rejectQuotaBackend protocol error.kind, wire)

inductive KongError where
  | pluginError (pluginName message : String)
  deriving DecidableEq

/-- `AiRateLimitPlugin::access_runtime`. -/
def accessRuntime (answers : BudgetAnswers) (ctx : RequestCtx) (wire : Wire σ) :
    Except KongError Unit × RequestCtx × Wire σ :=
  let protocol := ctx.protocol
  match AiRateLimitMode.parse cfg.limitBy with
  | none => (.error (.pluginError "ai-rate-limit" "invalid limit_by"), ctx, wire)
  | some mode =>
    match ctx.policy.bind AiPolicyChainSnapshot.configError with
    | some .missingAiProxy =>
      (.ok (), ctx.reject protocol 500 policyChainInvalid "AI policy chain is missing ai-proxy",
        wire)
    | some _ =>
      (.ok (), ctx.reject protocol 500 policyChainInvalid
        "AI policy chain configuration is invalid", wire)
    | none =>
      match subjectOf cfg mode protocol ctx with
      | .error ctx => (.ok (), ctx, wire)
      | .ok (subject, limits, budgetAuth) =>
        let inspected := match budgetAuth with
          | some auth => inspectBudgetBeforeQuota answers auth protocol ctx
          | none => (.continue_, ctx)
        match inspected with
        | (.rejected, ctx) => (.ok (), ctx, wire)
        | (.exhausted, ctx) => (.ok (), exhausted store link runtime protocol subject limits ctx wire)
        | (.continue_, ctx) =>
          if QuotaLimits.unlimited limits then (.ok (), ctx, wire)
          else (.ok (), admission store link runtime cfg mode protocol subject limits ctx wire)

end

/-! ## Settlement -/

def settlementOperationId (requestId : String) : String := "quota-settle:v1:" ++ requestId

/-- `observed_total_tokens`. A negative total is no observation. -/
def observedTotalTokens (ctx : RequestCtx) : Option Nat :=
  match ctx.fact.join with
  | some value => if 0 ≤ value then some value.toNat else none
  | none => ctx.state.bind AiRequestState.totalTokens

/-- What `prepare_zero_settlement` and `prepare_final_settlement` share: the command that is
pinned already, or else a new one, which is pinned. -/
def prepareSettlement (charge : AiRateLimitRequestContext → QuotaCharge) (ctx : RequestCtx) :
    Option SettleCommand × RequestCtx :=
  match ctx.quota with
  | none => (none, ctx)
  | some request =>
    if request.settlement = .notRequired ∨ request.settlement = .settled then (none, ctx)
    else
      match request.settlementCommand with
      | some command => (some command, ctx)
      | none =>
        match request.reservation with
        | none => (none, ctx)
        | some reservation =>
          let command : SettleCommand :=
            ⟨settlementOperationId ctx.requestId, reservation, charge request⟩
          (some command, { ctx with quota := some { request with settlementCommand := some command } })

def prepareZeroSettlement (ctx : RequestCtx) : Option SettleCommand × RequestCtx :=
  prepareSettlement (fun _ => ⟨0, 0⟩) ctx

def finalCharge (ctx : RequestCtx) (request : AiRateLimitRequestContext) : QuotaCharge :=
  if ctx.upstreamAttempted then ⟨1, (observedTotalTokens ctx).getD request.reserved.tokens⟩
  else ⟨1, 0⟩

def prepareFinalSettlement (ctx : RequestCtx) : Option SettleCommand × RequestCtx :=
  prepareSettlement (finalCharge ctx) ctx

/-- `record_settlement_result`. -/
def recordSettlementResult (ctx : RequestCtx) (result : SettlementResult) : RequestCtx :=
  { ctx with
    quota := ctx.quota.map fun request =>
      { request with responseSnapshot := result.snapshot, settlement := .settled } }

def retryLater (ctx : RequestCtx) : RequestCtx :=
  { ctx with quota := ctx.quota.map fun request => { request with settlement := .retryRequired } }

def QUOTA_HEADERS : List String :=
  ["x-ratelimit-limit-requests", "x-ratelimit-remaining-requests", "x-ratelimit-reset-requests",
    "x-ratelimit-limit-tokens", "x-ratelimit-remaining-tokens", "x-ratelimit-reset-tokens",
    "retry-after"]

/-- `eq_ignore_ascii_case`. -/
def eqIgnoreAsciiCase (a b : String) : Bool :=
  a.toList.map Char.toLower = b.toList.map Char.toLower

def clearQuotaHeaders (ctx : RequestCtx) : RequestCtx :=
  { ctx with
    responseHeadersToSet := ctx.responseHeadersToSet.filter fun header =>
      !QUOTA_HEADERS.any (eqIgnoreAsciiCase header.1)
    responseHeadersToRemove := QUOTA_HEADERS.foldl
      (fun removed name => if removed.any (eqIgnoreAsciiCase · name) then removed
        else removed ++ [name]) ctx.responseHeadersToRemove }

/-- The compensator after an error of the store: it hides the headers of the admission, and rejects
the request unless that has been done already. -/
def hideQuota (ctx : RequestCtx) (kind : RateLimitStoreErrorKind) : RequestCtx :=
  let protocol := (ctx.quota.map AiRateLimitRequestContext.protocol).getD .openAi
  let hidden := clearQuotaHeaders { ctx with
    quota := ctx.quota.map fun request =>
      { request with
        settlement := .retryRequired
        admissionSnapshot := none
        responseSnapshot := none } }
  if hidden.shortCircuited then hidden else hidden.rejectQuotaBackend protocol kind

def quotaUnsupported : LifecycleHookError :=
  .new "quota_backend_unsupported" "quota runtime is unsupported"

section

variable {σ : Type} (store : RateLimitStore σ) (link : Link σ RateLimitStoreError)
  (runtime : Runtime)

/-- The end of a hook that settles. `cut` says that the deadline of the hook passed while it
waited for the store. -/
def settleAnswer (fail : RequestCtx → RateLimitStoreError → RequestCtx) (cut : Bool)
    (ctx : RequestCtx) (wire : Wire σ) (answer : Except RateLimitStoreError SettlementResult) :
    Option (Except LifecycleHookError Unit) × RequestCtx × Wire σ :=
  if cut then (none, ctx, wire)
  else
    match answer with
    | .ok result => (some (.ok ()), recordSettlementResult ctx result, wire)
    | .error error =>
      (some (.error (.new (quotaErrorCode error.kind) (errorText error))), fail ctx error, wire)

/-- A hook that settles: it prepares the command, calls the store and notes the outcome. -/
def settleHook (prepare : RequestCtx → Option SettleCommand × RequestCtx)
    (fail : RequestCtx → RateLimitStoreError → RequestCtx) (cut : Bool) (ctx : RequestCtx)
    (wire : Wire σ) : Option (Except LifecycleHookError Unit) × RequestCtx × Wire σ :=
  match prepare ctx with
  | (none, ctx) => (some (.ok ()), ctx, wire)
  | (some command, ctx) =>
    match runtime.quota with
    | none => (some (.error quotaUnsupported), ctx, wire)
    | some _ =>
      let result := Wire.settle store link command wire
      settleAnswer fail cut ctx result.2 result.1

/-- `AiQuotaDispatchAbortCompensator::compensate_before_response`. -/
def compensateBeforeResponse (cut : Bool) (ctx : RequestCtx) (wire : Wire σ) :
    Option (Except LifecycleHookError Unit) × RequestCtx × Wire σ :=
  settleHook store link runtime prepareZeroSettlement (fun ctx error => hideQuota ctx error.kind) cut
    ctx wire

/-- `AiRateLimitFinalizer::finalize`. -/
def finalize (cut : Bool) (ctx : RequestCtx) (wire : Wire σ) :
    Option (Except LifecycleHookError Unit) × RequestCtx × Wire σ :=
  settleHook store link runtime prepareFinalSettlement (fun ctx _ => retryLater ctx) cut ctx wire

end

end KongRust.Enforcement.Quota

import KongRust.Enforcement.Costs

/-!
# The budget of one request

The dispatch hook, the abort compensator and the finalizer of `enforcement/budget.rs`. Each is cut
at the calls of the store it awaits: a function runs from one call to the next one, and `Progress`
says where it stopped. What it changes before it returns an error stays changed.
-/

namespace KongRust.Enforcement

open Budget

/-- What the requests of a process share. -/
structure SupportedBudgetRuntime where
  store : PgBudgetStore
  nodeId : Uuid
  ownerSessionId : Uuid
  staleAfter : Nat
  /-- The configuration counts the milliseconds of the timeout in a `u64`. -/
  timeoutFits : asMillis store.config.statementTimeout < Machine.WORD

inductive BudgetRequestState where
  | inspectedEligible
  | preparing
  | prepared
  | dispatchCommitPending
  | dispatching
  | paused
  | retryRequired
  | settled
  deriving DecidableEq

structure AiBudgetRequestContext where
  virtualKeyId : Uuid
  state : BudgetRequestState
  intentId : Option Uuid
  pricingFingerprint : Option String
  createCommand : Option CreateBudgetIntent
  settlementCommand : Option SettleBudgetIntent
  guard : Option BudgetIntentGuard

/-- `AiBudgetRequestContext::inspected`. -/
def AiBudgetRequestContext.inspected (virtualKeyId : Uuid) : AiBudgetRequestContext where
  virtualKeyId := virtualKeyId
  state := .inspectedEligible
  intentId := none
  pricingFingerprint := none
  createCommand := none
  settlementCommand := none
  guard := none

/-- What the code of a request reads and writes. -/
structure Scope where
  registry : ActiveBudgetIntentRegistry
  budget : AiBudgetRequestContext

/-- A call of the store that the code of a request awaits. -/
inductive Await where
  | creating (command : CreateBudgetIntent)
  | dispatching (command : MarkBudgetDispatching)
  /-- The creation repeated by the compensator, or by the finalizer. -/
  | replaying (final : Bool) (command : CreateBudgetIntent)
  | settling (final : Bool) (command : SettleBudgetIntent)

/-- Where a piece of the code of a request stopped. -/
inductive Progress where
  | returned (result : Except LifecycleHookError Unit)
  | awaits (call : Await)

namespace Scope

def acknowledge (scope : Scope) : Scope :=
  match scope.budget.guard with
  | none => scope
  | some guard =>
    ⟨scope.registry.acknowledge guard.requestId, { scope.budget with guard := none }⟩

variable (scope : Scope)

/-- An operation of the guard. -/
def guarded (scope : Scope) (operation : BudgetIntentGuard → ActiveBudgetIntentRegistry →
    Except BudgetIntentRegistryError ActiveBudgetIntentRegistry) :
    Except LifecycleHookError Scope :=
  match scope.budget.guard with
  | none => .error (.new "budget_registry_missing" "预算 guard 丢失")
  | some guard =>
    match operation guard scope.registry with
    | .error error => .error (.ofRegistry error)
    | .ok registry => .ok { scope with registry := registry }

def setState (scope : Scope) (state : BudgetRequestState) : Scope :=
  { scope with budget := { scope.budget with state := state } }

def setPrepared (scope : Scope) (intentId : Uuid) : Scope :=
  { scope with budget := { scope.budget with intentId := some intentId, state := .prepared } }

def setSettlement (scope : Scope) (command : SettleBudgetIntent) : Scope :=
  { scope with budget := { scope.budget with settlementCommand := some command } }

end Scope

def serializePrices (snapshot : BudgetPricingSnapshot) : Except String Unit :=
  [snapshot.input, snapshot.output].forM fun price =>
    price.elim (.ok ()) fun price => (normalizeBudgetAmount price.usdPerMillion).map fun _ => ()

section Code

variable (libs : Libraries) (runtime : SupportedBudgetRuntime) (requestId : String)

/-- The command that creates the intent of a request. -/
def createCommand (virtualKeyId intentId : Uuid) (snapshot : BudgetPricingSnapshot) :
    CreateBudgetIntent :=
  let pricingFingerprint := libs.sha256Hex (libs.pricingJson snapshot)
  { intentId := intentId
    virtualKeyId := virtualKeyId
    requestId := requestId
    operationId := "intent:v1:" ++ requestId
    commandFingerprint := libs.sha256Hex ("intent:v1\n" ++ requestId ++ "\n" ++
      uuidText virtualKeyId ++ "\n" ++ uuidText intentId ++ "\n" ++ uuidText runtime.nodeId ++
      "\n" ++ uuidText runtime.ownerSessionId ++ "\n" ++ pricingFingerprint)
    pricingFingerprint := pricingFingerprint
    pricingSnapshot := snapshot
    nodeId := runtime.nodeId
    ownerSessionId := runtime.ownerSessionId
    staleAfter := runtime.staleAfter }

/-! ## The dispatch hook -/

/-- The hook up to the creation of the intent. -/
def hookBegin (intentId : Uuid) (snapshot : BudgetPricingSnapshot) (scope : Scope) :
    Scope × Progress :=
  match serializePrices snapshot with
  | .error message => (scope, .returned (.error (.new "budget_pricing_unavailable" message)))
  | .ok () =>
    let command := createCommand libs runtime requestId scope.budget.virtualKeyId intentId snapshot
    match scope.registry.tryReserve requestId with
    | .error error => (scope, .returned (.error ⟨"budget_registry_overloaded", .registry error⟩))
    | .ok reserved =>
      let guard : BudgetIntentGuard := ⟨requestId⟩
      match guard.recordCreateCommand reserved libs.toExternal command with
      | (.error error, registry) =>
        -- the guard goes out of scope; the entry of a refused command is gone already
        ({ scope with registry := registry.guardDropped requestId },
          .returned (.error (.ofRegistry error)))
      | (.ok (), registry) =>
        let budget := { scope.budget with
          state := .preparing
          pricingFingerprint := some command.pricingFingerprint
          createCommand := some command
          guard := some guard }
        (⟨registry, budget⟩, .awaits (.creating command))

/-- The hook once the intent is known: on to the dispatch transition. -/
def hookPrepared (intentId : Uuid) (scope : Scope) : Scope × Progress :=
  match scope.guarded fun guard registry => guard.markPrepared registry intentId with
  | .error error => (scope, .returned (.error error))
  | .ok marked =>
    let prepared := marked.setPrepared intentId
    match prepared.guarded fun guard registry => guard.markDispatchCommitPending registry with
    | .error error => (prepared, .returned (.error error))
    | .ok pending =>
      (pending.setState .dispatchCommitPending, .awaits (.dispatching {
        intentId := intentId
        virtualKeyId := scope.budget.virtualKeyId
        requestId := requestId
        operationId := "budget-dispatch:v1:" ++ requestId
        nodeId := runtime.nodeId
        ownerSessionId := runtime.ownerSessionId }))

variable (answer : Except BudgetStoreError BudgetIntent)

/-- The hook after the creation of the intent. -/
def hookCreated (answer : Except BudgetStoreError BudgetIntent) (scope : Scope) :
    Scope × Progress :=
  match answer with
  | .error error =>
    if error.kind = .outcomeUnknown then (scope, .returned (.error (.ofStore error)))
    else
      let released := scope.acknowledge
      ({ released with budget := { released.budget with createCommand := none } },
        .returned (.error (.ofStore error)))
  | .ok intent =>
    if intent.disposition = .paused then
      ((scope.setState .paused).acknowledge, .returned (.ok ()))
    else
      match intent.record with
      | none =>
        (scope, .returned (.error (.new "budget_accounting_invalid" "intent 缺少持久记录")))
      | some record => hookPrepared runtime requestId record.id scope

/-- The hook after the dispatch transition. -/
def hookDispatched (answer : Except BudgetStoreError BudgetIntent) (scope : Scope) :
    Scope × Progress :=
  match answer with
  | .error error => (scope, .returned (.error (.ofStore error)))
  | .ok _ =>
    match scope.guarded fun guard registry => guard.markDispatching registry with
    | .error error => (scope, .returned (.error error))
    | .ok marked => (marked.setState .dispatching, .returned (.ok ()))

/-! ## Settling a request -/

def nothingToSettle (state : BudgetRequestState) : Bool :=
  state == .inspectedEligible || state == .paused || state == .settled

variable (budget : AiBudgetRequestContext)

/-- The intent and the pricing fingerprint that a settlement needs. -/
def settlementParts (budget : AiBudgetRequestContext) :
    Except LifecycleHookError (Uuid × String) := do
  let intentId ← budget.intentId.elim
    (throw (.new "budget_intent_missing" "预算 intent 尚未确认")) pure
  let pricingFingerprint ← budget.pricingFingerprint.elim
    (throw (.new "budget_pricing_fingerprint_missing" "预算价格指纹丢失")) pure
  return (intentId, pricingFingerprint)

def safeZeroCommand (budget : AiBudgetRequestContext) :
    Except LifecycleHookError SettleBudgetIntent := do
  let (intentId, pricingFingerprint) ← settlementParts budget
  settlementCommand libs intentId budget.virtualKeyId requestId pricingFingerprint none
    (notIncurredCost "upstream_dispatch_aborted")

def prepareSafeZeroSettlement (scope : Scope) :
    Scope × Except LifecycleHookError (Option SettleBudgetIntent) :=
  let budget := scope.budget
  if nothingToSettle budget.state then (scope, .ok none)
  else if budget.intentId.isNone ∧ budget.createCommand.isNone ∧ budget.guard.isNone then
    (scope, .ok none)
  else
    match budget.settlementCommand with
    | some command => (scope, .ok (some command))
    | none =>
      match safeZeroCommand libs requestId budget with
      | .error error => (scope, .error error)
      | .ok command =>
        match scope.guarded fun guard registry => guard.markNeedsSafeZero registry with
        | .error error => (scope, .error error)
        | .ok marked =>
          match marked.guarded fun guard registry =>
            guard.recordSafeZeroSettlement registry command with
          | .error error => (marked, .error error)
          | .ok recorded => (recorded.setSettlement command, .ok (some command))

variable (upstreamAttempted : Bool)

def finalCommand (upstreamAttempted : Bool) (fact : Option AiUsageFact)
    (budget : AiBudgetRequestContext) : Except LifecycleHookError SettleBudgetIntent := do
  let (intentId, pricingFingerprint) ← settlementParts budget
  let create ← budget.createCommand.elim
    (throw (.new "budget_pricing_snapshot_missing" "预算价格快照丢失")) pure
  let (usageFactId, cost) := costFromFact libs fact requestId budget.virtualKeyId
    upstreamAttempted pricingFingerprint create.pricingSnapshot
  settlementCommand libs intentId budget.virtualKeyId requestId pricingFingerprint usageFactId cost

def prepareFinalSettlement (upstreamAttempted : Bool) (fact : Option AiUsageFact)
    (scope : Scope) : Scope × Except LifecycleHookError (Option SettleBudgetIntent) :=
  let budget := scope.budget
  if nothingToSettle budget.state then (scope, .ok none)
  else if budget.intentId.isNone ∧ budget.guard.isNone then (scope, .ok none)
  else
    match budget.settlementCommand with
    | some command => (scope, .ok (some command))
    | none =>
      match finalCommand libs requestId upstreamAttempted fact budget with
      | .error error => (scope, .error error)
      | .ok command =>
        match scope.guarded fun guard registry => guard.recordSettlement registry command with
        | .error error => (scope, .error error)
        | .ok recorded => (recorded.setSettlement command, .ok (some command))

/-- Await the settlement that was prepared, if there is one. -/
def settlePrepared (final : Bool)
    (prepared : Scope × Except LifecycleHookError (Option SettleBudgetIntent)) :
    Scope × Progress :=
  match prepared with
  | (scope, .error error) => (scope, .returned (.error error))
  | (scope, .ok none) => (scope, .returned (.ok ()))
  | (scope, .ok (some command)) => (scope, .awaits (.settling final command))

/-- The compensator and the finalizer after the settlement. -/
def settled (final : Bool) (answer : Except BudgetStoreError BudgetSettlement) (scope : Scope) :
    Scope × Progress :=
  match answer with
  | .error error => (scope.setState .retryRequired, .returned (.error (.ofStore error)))
  | .ok _ =>
    let released := scope.acknowledge
    (if final then released.setState .settled else released, .returned (.ok ()))

/-! ## The compensator and the finalizer -/

/-- The compensator up to its first call: `ensure_intent_for_safe_zero` repeats a creation whose
outcome the request does not know. -/
def compensateBegin (scope : Scope) : Scope × Progress :=
  match scope.budget.intentId, scope.budget.createCommand with
  | none, some command => (scope, .awaits (.replaying false command))
  | _, _ => settlePrepared false (prepareSafeZeroSettlement libs requestId scope)

/-- The finalizer up to its first call. -/
def finalizeBegin (upstreamAttempted : Bool) (fact : Option AiUsageFact) (scope : Scope) :
    Scope × Progress :=
  match upstreamAttempted, scope.budget.intentId, scope.budget.createCommand,
    scope.budget.guard with
  | false, none, some command, some _ => (scope, .awaits (.replaying true command))
  | _, _, _, _ =>
    settlePrepared true (prepareFinalSettlement libs requestId upstreamAttempted fact scope)

/-- The compensator and the finalizer after they repeated the creation. -/
def replayed (final : Bool) (answer : Except BudgetStoreError BudgetIntent) (scope : Scope) :
    Scope × Progress :=
  match answer with
  | .error error => (scope, .returned (.error (.ofStore error)))
  | .ok intent =>
    if intent.disposition = .paused then
      settlePrepared final
        (prepareSafeZeroSettlement libs requestId (scope.setState .paused).acknowledge)
    else
      match intent.record with
      | none =>
        (scope, .returned (.error (.new "budget_accounting_invalid" "重放 intent 缺少记录")))
      | some record =>
        match scope.guarded fun guard registry => guard.markPrepared registry record.id with
        | .error error => (scope, .returned (.error error))
        | .ok marked =>
          settlePrepared final
            (prepareSafeZeroSettlement libs requestId (marked.setPrepared record.id))

end Code

end KongRust.Enforcement

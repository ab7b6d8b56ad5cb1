import KongRust.Budget.Postgres

/-!
# The registry of active budget intents

The registry of `enforcement/budget_registry.rs`: one entry for each request that may have an
intent in the ledger, with a fixed capacity that only an acknowledgement gives back. An operation
of the registry or of a guard is one atomic step, as each of them holds the lock of its entry.
-/

namespace KongRust.Enforcement

open Budget

def ACTIVE_BUDGET_INTENT_MAX_REQUEST_ID_BYTES : Nat := 256
def ACTIVE_BUDGET_INTENT_MAX_OPERATION_ID_BYTES : Nat := 256
def ACTIVE_BUDGET_INTENT_MAX_FINGERPRINT_BYTES : Nat := 128
def ACTIVE_BUDGET_INTENT_MAX_PRICING_SNAPSHOT_BYTES : Nat := 4 * 1024
def ACTIVE_BUDGET_INTENT_MAX_COST_REASONS : Nat := 8
def ACTIVE_BUDGET_INTENT_MAX_COST_REASON_BYTES : Nat := 256

/-! ## Entries -/

inductive ActiveBudgetIntentState where
  | preparing
  | activePrepared
  | dispatchCommitPending
  | activeDispatching
  | retryWithFact
  | needsIntentLookup
  | needsSafeZero
  | needsUnresolved
  deriving DecidableEq

structure ActiveBudgetIntentData where
  intentId : Option Uuid
  state : ActiveBudgetIntentState
  guardAlive : Bool
  createCommand : Option CreateBudgetIntent
  settlement : Option SettleBudgetIntent

structure ActiveBudgetIntentSnapshot extends ActiveBudgetIntentData where
  requestId : String

structure ActiveBudgetIntentRegistry where
  maxEntries : Nat
  entries : AList fun _ : String => ActiveBudgetIntentData
  activeEntries : Nat

/-! ## Errors and limits -/

inductive BudgetIntentRegistryField where
  | requestId
  | operationId
  | commandFingerprint
  | pricingFingerprint
  | pricingSnapshot
  | costReason
  deriving DecidableEq

/-- A lock is never poisoned here: no operation panics while it holds one. -/
inductive BudgetIntentRegistryError where
  | invalidCapacity
  | emptyRequestId
  | requestMismatch
  | fieldTooLarge (field : BudgetIntentRegistryField) (actualBytes maxBytes : Nat)
  | tooManyCostReasons (actual max : Nat)
  | invalidPricingSnapshot
  | overloaded
  | duplicateRequest
  | missingEntry
  | intentMismatch
  | invalidTransition (current next : ActiveBudgetIntentState)
  deriving DecidableEq

variable (field : BudgetIntentRegistryField)

def validateFieldSize (field : BudgetIntentRegistryField) (actualBytes maxBytes : Nat) :
    Except BudgetIntentRegistryError Unit :=
  if maxBytes < actualBytes then .error (.fieldTooLarge field actualBytes maxBytes) else .ok ()

def validateTextField (field : BudgetIntentRegistryField) (value : String) (maxBytes : Nat) :
    Except BudgetIntentRegistryError Unit :=
  validateFieldSize field (Text.len value) maxBytes

def validateRequestIdentity (requestId commandRequestId : String) :
    Except BudgetIntentRegistryError Unit := do
  validateTextField .requestId commandRequestId ACTIVE_BUDGET_INTENT_MAX_REQUEST_ID_BYTES
  if requestId ≠ commandRequestId then throw .requestMismatch

def validateCreateCommand (libs : External) (requestId : String) (command : CreateBudgetIntent) :
    Except BudgetIntentRegistryError Unit := do
  validateRequestIdentity requestId command.requestId
  validateTextField .operationId command.operationId ACTIVE_BUDGET_INTENT_MAX_OPERATION_ID_BYTES
  validateTextField .commandFingerprint command.commandFingerprint
    ACTIVE_BUDGET_INTENT_MAX_FINGERPRINT_BYTES
  validateTextField .pricingFingerprint command.pricingFingerprint
    ACTIVE_BUDGET_INTENT_MAX_FINGERPRINT_BYTES
  if pricingSerializable command.pricingSnapshot = false then throw .invalidPricingSnapshot
  validateFieldSize .pricingSnapshot (libs.pricingJsonBytes command.pricingSnapshot)
    ACTIVE_BUDGET_INTENT_MAX_PRICING_SNAPSHOT_BYTES

def validateSettlementCommand (requestId : String) (command : SettleBudgetIntent) :
    Except BudgetIntentRegistryError Unit := do
  validateRequestIdentity requestId command.requestId
  validateTextField .operationId command.operationId ACTIVE_BUDGET_INTENT_MAX_OPERATION_ID_BYTES
  validateTextField .commandFingerprint command.commandFingerprint
    ACTIVE_BUDGET_INTENT_MAX_FINGERPRINT_BYTES
  validateTextField .pricingFingerprint command.pricingFingerprint
    ACTIVE_BUDGET_INTENT_MAX_FINGERPRINT_BYTES
  if ACTIVE_BUDGET_INTENT_MAX_COST_REASONS < command.cost.reasons.length then
    throw (.tooManyCostReasons command.cost.reasons.length ACTIVE_BUDGET_INTENT_MAX_COST_REASONS)
  command.cost.reasons.forM fun reason =>
    validateTextField .costReason reason ACTIVE_BUDGET_INTENT_MAX_COST_REASON_BYTES

/-! ## The registry -/

namespace ActiveBudgetIntentRegistry

/-- `Registry::new`. -/
def new (maxEntries : Nat) : Except BudgetIntentRegistryError ActiveBudgetIntentRegistry :=
  if maxEntries = 0 then .error .invalidCapacity else .ok ⟨maxEntries, ∅, 0⟩

variable (registry : ActiveBudgetIntentRegistry) (requestId : String)

def entry (registry : ActiveBudgetIntentRegistry) (requestId : String) :
    Option ActiveBudgetIntentData :=
  registry.entries.lookup requestId

def put (registry : ActiveBudgetIntentRegistry) (requestId : String)
    (data : ActiveBudgetIntentData) : ActiveBudgetIntentRegistry :=
  { registry with entries := registry.entries.insert requestId data }

def tryReserve (registry : ActiveBudgetIntentRegistry) (requestId : String) :
    Except BudgetIntentRegistryError ActiveBudgetIntentRegistry := do
  if requestId = "" then throw .emptyRequestId
  validateTextField .requestId requestId ACTIVE_BUDGET_INTENT_MAX_REQUEST_ID_BYTES
  if registry.maxEntries ≤ registry.activeEntries then throw .overloaded
  if (registry.entry requestId).isSome then throw .duplicateRequest
  return { registry.put requestId ⟨none, .preparing, true, none, none⟩ with
    activeEntries := registry.activeEntries + 1 }

def transition (registry : ActiveBudgetIntentRegistry) (requestId : String)
    (expected : List ActiveBudgetIntentState) (next : ActiveBudgetIntentState)
    (intentId : Option Uuid) (settlement : Option SettleBudgetIntent) :
    Except BudgetIntentRegistryError ActiveBudgetIntentRegistry :=
  match registry.entry requestId with
  | none => .error .missingEntry
  | some data =>
    if data.state ∉ expected then .error (.invalidTransition data.state next)
    else if intentId.any fun id => data.intentId.any (· != id) then .error .intentMismatch
    else .ok (registry.put requestId { data with
      intentId := intentId.or data.intentId
      settlement := settlement.or data.settlement
      state := next })

def acknowledge (registry : ActiveBudgetIntentRegistry) (requestId : String) :
    ActiveBudgetIntentRegistry :=
  if (registry.entry requestId).isSome then
    { registry with
      entries := registry.entries.erase requestId
      activeEntries := Machine.fetchSub registry.activeEntries 1 }
  else registry

def markRecoveredIntent (registry : ActiveBudgetIntentRegistry) (requestId : String)
    (intentId : Uuid) (dispatched : Bool) :
    Except BudgetIntentRegistryError ActiveBudgetIntentRegistry :=
  registry.transition requestId [.needsIntentLookup, .needsSafeZero]
    (if dispatched then .needsUnresolved else .needsSafeZero) (some intentId) none

def recordRecoverySettlement (registry : ActiveBudgetIntentRegistry) (requestId : String)
    (command : SettleBudgetIntent) (unresolved : Bool) :
    Except BudgetIntentRegistryError ActiveBudgetIntentRegistry := do
  validateSettlementCommand requestId command
  registry.transition requestId [.needsSafeZero, .needsUnresolved, .retryWithFact]
    (if unresolved then .needsUnresolved else .needsSafeZero) (some command.intentId)
    (some command)

def droppedState : ActiveBudgetIntentState → ActiveBudgetIntentState
  | .preparing => .needsIntentLookup
  | .activePrepared => .needsSafeZero
  | .dispatchCommitPending => .needsUnresolved
  | .activeDispatching => .needsUnresolved
  | state => state

def guardDropped (registry : ActiveBudgetIntentRegistry) (requestId : String) :
    ActiveBudgetIntentRegistry :=
  match registry.entry requestId with
  | none => registry
  | some data =>
    registry.put requestId { data with guardAlive := false, state := droppedState data.state }

end ActiveBudgetIntentRegistry

/-! ## What the operations write -/

section Lookups

variable {registry registry' : ActiveBudgetIntentRegistry} {requestId other : String}
  {data : ActiveBudgetIntentData}

namespace ActiveBudgetIntentRegistry

@[simp] theorem entry_put : (registry.put requestId data).entry requestId = some data :=
  AList.lookup_insert _

theorem entry_put_ne (h : other ≠ requestId) :
    (registry.put requestId data).entry other = registry.entry other :=
  AList.lookup_insert_ne h

@[simp] theorem entry_acknowledge : (registry.acknowledge requestId).entry requestId = none := by
  unfold acknowledge
  split
  · exact AList.lookup_erase _ _
  · next h => simpa using h

theorem entry_acknowledge_ne (h : other ≠ requestId) :
    (registry.acknowledge requestId).entry other = registry.entry other := by
  unfold acknowledge
  split
  · exact AList.lookup_erase_ne h
  · rfl

@[simp] theorem entry_guardDropped : (registry.guardDropped requestId).entry requestId =
    (registry.entry requestId).map fun data =>
      { data with guardAlive := false, state := droppedState data.state } := by
  unfold guardDropped
  split
  · next h => rw [h, Option.map_none]
  · next data h => rw [entry_put, h, Option.map_some]

theorem entry_guardDropped_ne (h : other ≠ requestId) :
    (registry.guardDropped requestId).entry other = registry.entry other := by
  unfold guardDropped
  split
  · rfl
  · exact entry_put_ne h

theorem transition_ok {expected : List ActiveBudgetIntentState} {next : ActiveBudgetIntentState}
    {intentId : Option Uuid} {settlement : Option SettleBudgetIntent}
    (h : registry.transition requestId expected next intentId settlement = .ok registry') :
    ∃ data, registry.entry requestId = some data ∧ data.state ∈ expected ∧
      registry' = registry.put requestId { data with
        intentId := intentId.or data.intentId
        settlement := settlement.or data.settlement
        state := next } := by
  unfold transition at h
  split at h
  · cases h
  · next data hEntry =>
    split at h
    · cases h
    · next hState =>
      split at h
      · cases h
      · cases h
        exact ⟨data, hEntry, not_not.mp hState, rfl⟩

theorem tryReserve_ok (h : registry.tryReserve requestId = .ok registry') :
    registry.entry requestId = none ∧
      registry'.entry requestId = some ⟨none, .preparing, true, none, none⟩ ∧
      ∀ other, other ≠ requestId → registry'.entry other = registry.entry other := by
  simp only [tryReserve, bind, Except.bind, throw, throwThe, MonadExceptOf.throw, pure,
    Except.pure] at h
  split at h
  · cases h
  split at h
  · cases h
  split at h
  · cases h
  split at h
  · cases h
  · next hAbsent =>
    cases h
    exact ⟨by simpa using hAbsent, AList.lookup_insert _, fun other hOther =>
      AList.lookup_insert_ne hOther⟩

end ActiveBudgetIntentRegistry

end Lookups

/-! ## Guards -/

/-- The guard that a request holds until it acknowledges or drops it. -/
structure BudgetIntentGuard where
  requestId : String
  deriving DecidableEq

namespace BudgetIntentGuard

section

variable (guard : BudgetIntentGuard) (registry : ActiveBudgetIntentRegistry)

def markPrepared (intentId : Uuid) :
    Except BudgetIntentRegistryError ActiveBudgetIntentRegistry :=
  registry.transition guard.requestId [.preparing] .activePrepared (some intentId) none

/-- Keep the command of the creation; a command that does not fit completes the guard. -/
def recordCreateCommand (libs : External) (command : CreateBudgetIntent) :
    Except BudgetIntentRegistryError Unit × ActiveBudgetIntentRegistry :=
  match validateCreateCommand libs guard.requestId command with
  | .error error => (.error error, registry.acknowledge guard.requestId)
  | .ok () =>
    match registry.entry guard.requestId with
    | none => (.error .missingEntry, registry)
    | some data =>
      if data.state ≠ .preparing then (.error (.invalidTransition data.state .preparing), registry)
      else if data.createCommand.isSome then (.error .duplicateRequest, registry)
      else (.ok (), registry.put guard.requestId { data with createCommand := some command })

def markDispatchCommitPending : Except BudgetIntentRegistryError ActiveBudgetIntentRegistry :=
  registry.transition guard.requestId [.activePrepared] .dispatchCommitPending none none

def markDispatchRolledBack : Except BudgetIntentRegistryError ActiveBudgetIntentRegistry :=
  registry.transition guard.requestId [.dispatchCommitPending] .activePrepared none none

def markDispatching : Except BudgetIntentRegistryError ActiveBudgetIntentRegistry :=
  registry.transition guard.requestId [.dispatchCommitPending] .activeDispatching none none

variable (command : SettleBudgetIntent)

def recordSettlement (command : SettleBudgetIntent) :
    Except BudgetIntentRegistryError ActiveBudgetIntentRegistry := do
  validateSettlementCommand guard.requestId command
  registry.transition guard.requestId [.activeDispatching, .retryWithFact] .retryWithFact
    (some command.intentId) (some command)

def safeZeroStates : List ActiveBudgetIntentState :=
  [.activePrepared, .dispatchCommitPending, .activeDispatching, .needsSafeZero]

def markNeedsSafeZero : Except BudgetIntentRegistryError ActiveBudgetIntentRegistry :=
  registry.transition guard.requestId safeZeroStates .needsSafeZero none none

def recordSafeZeroSettlement (command : SettleBudgetIntent) :
    Except BudgetIntentRegistryError ActiveBudgetIntentRegistry := do
  validateSettlementCommand guard.requestId command
  registry.transition guard.requestId safeZeroStates .needsSafeZero (some command.intentId)
    (some command)

def markNeedsUnresolved : Except BudgetIntentRegistryError ActiveBudgetIntentRegistry :=
  registry.transition guard.requestId [.dispatchCommitPending, .activeDispatching, .retryWithFact]
    .needsUnresolved none none

end

end BudgetIntentGuard

end KongRust.Enforcement

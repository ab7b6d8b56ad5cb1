import KongRust.Enforcement.System

/-!
# The registry under any order of calls

The guards, the recovery pass and the two updates of a reservation or of an acknowledgement, in
any order. A call of a guard or of the recovery holds the lock of its entry and is one step; the
counter is another cell than the table, so a reservation counts in one step and inserts in the
next, and a removal leaves the table before it leaves the counter.
-/

namespace KongRust.Enforcement

open Budget

/-! ## The updates of a reservation and of an acknowledgement -/

namespace ActiveBudgetIntentRegistry

variable (registry : ActiveBudgetIntentRegistry) (requestId : String)

def size : Nat := registry.entries.entries.length

/-- `try_reserve` as far as the counter. -/
def claimSlot : Except BudgetIntentRegistryError ActiveBudgetIntentRegistry := do
  if requestId = "" then throw .emptyRequestId
  validateTextField .requestId requestId ACTIVE_BUDGET_INTENT_MAX_REQUEST_ID_BYTES
  if registry.maxEntries ≤ registry.activeEntries then throw .overloaded
  return { registry with activeEntries := registry.activeEntries + 1 }

/-- The rest of `try_reserve`: a new entry, where there is none. -/
def insertEntry : Option ActiveBudgetIntentRegistry :=
  if (registry.entry requestId).isSome then none
  else some (registry.put requestId ⟨none, .preparing, true, none, none⟩)

/-- The removal of `acknowledge`. -/
def removeEntry : Option ActiveBudgetIntentRegistry :=
  if (registry.entry requestId).isSome then
    some { registry with entries := registry.entries.erase requestId }
  else none

def releaseSlot : ActiveBudgetIntentRegistry :=
  { registry with activeEntries := Machine.fetchSub registry.activeEntries 1 }

variable {registry requestId}

end ActiveBudgetIntentRegistry

/-! ## Guards -/

/-- A call of a guard that moves its entry. -/
inductive GuardCall where
  | prepared (intentId : Uuid)
  | dispatchCommitPending
  | dispatchRolledBack
  | dispatching
  | settlement (command : SettleBudgetIntent)
  | needsSafeZero
  | safeZeroSettlement (command : SettleBudgetIntent)
  | needsUnresolved

def GuardCall.perform (guard : BudgetIntentGuard) (registry : ActiveBudgetIntentRegistry) :
    GuardCall → Except BudgetIntentRegistryError ActiveBudgetIntentRegistry
  | .prepared intentId => guard.markPrepared registry intentId
  | .dispatchCommitPending => guard.markDispatchCommitPending registry
  | .dispatchRolledBack => guard.markDispatchRolledBack registry
  | .dispatching => guard.markDispatching registry
  | .settlement command => guard.recordSettlement registry command
  | .needsSafeZero => guard.markNeedsSafeZero registry
  | .safeZeroSettlement command => guard.recordSafeZeroSettlement registry command
  | .needsUnresolved => guard.markNeedsUnresolved registry

def GuardCall.Withdraws : GuardCall → Prop
  | .dispatchRolledBack | .needsSafeZero | .safeZeroSettlement _ => True
  | _ => False

/-! ## The recovery of one entry -/

/-- What the recovery of an entry does next. -/
inductive RecoveryStage where
  | lookingUp (create : CreateBudgetIntent)
  | marking (create : CreateBudgetIntent) (record : BudgetIntentRecord)
  | recording (command : SettleBudgetIntent) (unresolved : Bool)
  | settling (command : SettleBudgetIntent)
  | acknowledging

section Stages

variable (libs : Libraries) (snapshot : ActiveBudgetIntentSnapshot)

/-- The end of `recovery_settlement_command`, as far as the record of its command. -/
def knownStage (create : CreateBudgetIntent) (intentId : Uuid) (dispatching : Bool) :
    Option RecoveryStage :=
  let unresolved := snapshot.state == .needsUnresolved || dispatching
  match recoveryCommand libs create snapshot.requestId intentId unresolved with
  | .error _ => none
  | .ok command => some (.recording command unresolved)

def beginStage : Option RecoveryStage :=
  if snapshot.guardAlive then none
  else
    match snapshot.settlement with
    | some command => some (.settling command)
    | none =>
      match snapshot.createCommand with
      | none => none
      | some create =>
        match snapshot.intentId with
        | none => some (.lookingUp create)
        | some intentId => knownStage libs snapshot create intentId false

/-- What follows from the answer of a lookup. -/
def lookedUpStage (create : CreateBudgetIntent) :
    Except BudgetStoreError (Option BudgetIntentRecord) → Option RecoveryStage
  | .error _ => none
  | .ok none => some .acknowledging
  | .ok (some record) =>
    if record.state = .prepared ∨ record.state = .dispatching then some (.marking create record)
    else some .acknowledging

end Stages

/-- A recovery pass: the snapshots it took and has not visited, and the entry it visits. -/
structure Sweep where
  collecting : Bool
  queue : List ActiveBudgetIntentSnapshot
  current : Option (ActiveBudgetIntentSnapshot × RecoveryStage)

/-! ## Steps -/

/-- A registry in use. -/
structure Traffic where
  registry : ActiveBudgetIntentRegistry
  /-- The reservations that the counter has and the table not yet. -/
  claims : List String
  /-- The slots that the table has given back and the counter not yet. -/
  releases : Nat
  guards : List BudgetIntentGuard
  sweep : Option Sweep

inductive Act where
  | claim (requestId : String)
  | insert (requestId : String)
  | release
  | create (guard : BudgetIntentGuard) (command : CreateBudgetIntent)
  | call (guard : BudgetIntentGuard) (call : GuardCall)
  | acknowledge (guard : BudgetIntentGuard)
  | drop (guard : BudgetIntentGuard)
  | sweep
  | collect (requestId : String)
  | visit
  | lookedUp (answer : Except BudgetStoreError (Option BudgetIntentRecord))
  | marked
  | recorded
  | settled (answer : Except BudgetStoreError BudgetSettlement)
  | removed
  | stop

namespace Traffic

def goesOn (traffic : Traffic) (queue : List ActiveBudgetIntentSnapshot)
    (snapshot : ActiveBudgetIntentSnapshot) (registry : ActiveBudgetIntentRegistry)
    (stage : Option RecoveryStage) : Traffic :=
  { traffic with
    registry := registry
    sweep := some ⟨false, queue, stage.map fun stage => (snapshot, stage)⟩ }

def removes (traffic : Traffic) (requestId : String) : Traffic :=
  match traffic.registry.removeEntry requestId with
  | none => traffic
  | some registry => { traffic with registry := registry, releases := traffic.releases + 1 }

def retires (traffic : Traffic) (guard : BudgetIntentGuard) : Traffic :=
  { traffic with guards := traffic.guards.erase guard }

section

variable (libs : Libraries) (traffic : Traffic)

def claim (requestId : String) : Traffic :=
  match traffic.registry.claimSlot requestId with
  | .error _ => traffic
  | .ok registry => { traffic with registry := registry, claims := requestId :: traffic.claims }

def insert (requestId : String) : Traffic :=
  let claims := traffic.claims.erase requestId
  match traffic.registry.insertEntry requestId with
  | none => { traffic with claims := claims, releases := traffic.releases + 1 }
  | some registry =>
    { traffic with registry := registry, claims := claims, guards := ⟨requestId⟩ :: traffic.guards }

/-- `record_create_command`; a command that does not fit acknowledges the entry. -/
def create (guard : BudgetIntentGuard) (command : CreateBudgetIntent) : Traffic :=
  match validateCreateCommand libs.toExternal guard.requestId command with
  | .error _ => (traffic.retires guard).removes guard.requestId
  | .ok () =>
    { traffic with
      registry := (guard.recordCreateCommand traffic.registry libs.toExternal command).2 }

def call (guard : BudgetIntentGuard) (call : GuardCall) : Traffic :=
  match call.perform guard traffic.registry with
  | .error _ => traffic
  | .ok registry => { traffic with registry := registry }

variable (sweep : Sweep)

/-- The recovery of one entry reads an answer, or calls the registry. -/
def recovers (sweep : Sweep) (snapshot : ActiveBudgetIntentSnapshot) :
    RecoveryStage → Act → Option Traffic
  | .lookingUp create, .lookedUp answer =>
    some (traffic.goesOn sweep.queue snapshot traffic.registry (lookedUpStage create answer))
  | .marking create record, .marked =>
    let dispatched := record.state == .dispatching
    match traffic.registry.markRecoveredIntent snapshot.requestId record.id dispatched with
    | .error _ => some (traffic.goesOn sweep.queue snapshot traffic.registry none)
    | .ok registry =>
      some (traffic.goesOn sweep.queue snapshot registry
        (knownStage libs snapshot create record.id dispatched))
  | .recording command unresolved, .recorded =>
    match traffic.registry.recordRecoverySettlement snapshot.requestId command unresolved with
    | .error _ => some (traffic.goesOn sweep.queue snapshot traffic.registry none)
    | .ok registry =>
      some (traffic.goesOn sweep.queue snapshot registry (some (.settling command)))
  | .settling _, .settled (.error _) =>
    some (traffic.goesOn sweep.queue snapshot traffic.registry none)
  | .settling _, .settled (.ok _) =>
    some (traffic.goesOn sweep.queue snapshot traffic.registry (some .acknowledging))
  | .acknowledging, .removed =>
    some ((traffic.goesOn sweep.queue snapshot traffic.registry none).removes snapshot.requestId)
  | _, _ => none

def collects (sweep : Sweep) (requestId : String) : Option Traffic :=
  if sweep.collecting ∧ requestId ∉ sweep.queue.map (·.requestId) then
    (traffic.registry.entry requestId).map fun data =>
      { traffic with sweep := some { sweep with queue := sweep.queue ++ [⟨data, requestId⟩] } }
  else none

def visits (sweep : Sweep) : Option Traffic :=
  match sweep.current, sweep.queue with
  | none, snapshot :: queue =>
    some (traffic.goesOn queue snapshot traffic.registry (beginStage libs snapshot))
  | _, _ => none

def step : Act → Option Traffic
  | .claim requestId => some (traffic.claim requestId)
  | .insert requestId =>
    if requestId ∈ traffic.claims then some (traffic.insert requestId) else none
  | .release =>
    if traffic.releases = 0 then none
    else some { traffic with
      registry := traffic.registry.releaseSlot
      releases := traffic.releases - 1 }
  | .create guard command =>
    if guard ∈ traffic.guards then some (traffic.create libs guard command) else none
  | .call guard call =>
    if guard ∈ traffic.guards then some (traffic.call guard call) else none
  | .acknowledge guard =>
    if guard ∈ traffic.guards then some ((traffic.retires guard).removes guard.requestId) else none
  | .drop guard =>
    if guard ∈ traffic.guards then
      some { traffic.retires guard with
        registry := traffic.registry.guardDropped guard.requestId }
    else none
  | .sweep =>
    if traffic.sweep.isNone then some { traffic with sweep := some ⟨true, [], none⟩ } else none
  | .collect requestId => do
    let sweep ← traffic.sweep
    traffic.collects sweep requestId
  | .visit => do
    let sweep ← traffic.sweep
    traffic.visits libs sweep
  | .stop => if traffic.sweep.isSome then some { traffic with sweep := none } else none
  | act => do
    let sweep ← traffic.sweep
    let (snapshot, stage) ← sweep.current
    traffic.recovers libs sweep snapshot stage act

def run (traffic : Traffic) : List Act → Option Traffic
  | [] => some traffic
  | act :: acts => do
    let next ← traffic.step libs act
    next.run acts

end

def start (registry : ActiveBudgetIntentRegistry) : Traffic := ⟨registry, [], 0, [], none⟩

end Traffic

end KongRust.Enforcement

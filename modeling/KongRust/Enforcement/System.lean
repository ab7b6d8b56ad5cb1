import KongRust.Budget.Answers
import KongRust.Enforcement.Requests

/-!
# A node and its ledger

One process with its owner session: the ledger it shares with every other party, its registry,
its requests and the recovery pass that may be running (`recover_budget_registry_once`). An event
is one atomic step of one of them, and a run is a list of events in any order. A call of the store
takes effect in one event and its answer is read in a later one; a task that is cut off in between
never reads it. A call that is cut off before it takes effect never does, but a commit may reach
the readers late: a lookup can miss it.
-/

namespace KongRust.Enforcement

open Budget Transaction

/-! ## Recovery of an entry -/

section Recovery

variable (libs : Libraries)

/-- Where the recovery of one entry stopped. -/
inductive Visit where
  | finished
  | lookingUp (create : CreateBudgetIntent)
  | settling (command : SettleBudgetIntent)

def recoveryCost (unresolved : Bool) : BudgetCostOutcome :=
  if unresolved then unavailableCost "request_lifecycle_cancelled_after_dispatch"
  else notIncurredCost "request_lifecycle_cancelled_before_dispatch"

def recoveryCommand (create : CreateBudgetIntent) (requestId : String) (intentId : Uuid)
    (unresolved : Bool) : Except LifecycleHookError SettleBudgetIntent :=
  settlementCommand libs intentId create.virtualKeyId requestId create.pricingFingerprint none
    (recoveryCost unresolved)

variable (registry : ActiveBudgetIntentRegistry)

/-- The end of `recovery_settlement_command`, once the intent is known. -/
def visitKnown (registry : ActiveBudgetIntentRegistry) (create : CreateBudgetIntent)
    (requestId : String) (intentId : Uuid) (unresolved : Bool) :
    ActiveBudgetIntentRegistry × Visit :=
  match recoveryCommand libs create requestId intentId unresolved with
  | .error _ => (registry, .finished)
  | .ok command =>
    match registry.recordRecoverySettlement requestId command unresolved with
    | .error _ => (registry, .finished)
    | .ok recorded => (recorded, .settling command)

/-- The recovery of an entry up to its first call. -/
def visitBegin (registry : ActiveBudgetIntentRegistry) (snapshot : ActiveBudgetIntentSnapshot) :
    ActiveBudgetIntentRegistry × Visit :=
  if snapshot.guardAlive then (registry, .finished)
  else
    match snapshot.settlement with
    | some command => (registry, .settling command)
    | none =>
      match snapshot.createCommand with
      | none => (registry, .finished)
      | some create =>
        match snapshot.intentId with
        | none => (registry, .lookingUp create)
        | some intentId =>
          visitKnown libs registry create snapshot.requestId intentId
            (snapshot.state == .needsUnresolved)

/-- The recovery of an entry after the lookup of its intent. -/
def visitLookedUp (registry : ActiveBudgetIntentRegistry) (snapshot : ActiveBudgetIntentSnapshot)
    (create : CreateBudgetIntent)
    (answer : Except BudgetStoreError (Option BudgetIntentRecord)) :
    ActiveBudgetIntentRegistry × Visit :=
  match answer with
  | .error _ => (registry, .finished)
  | .ok none => (registry.acknowledge snapshot.requestId, .finished)
  | .ok (some record) =>
    if record.state = .prepared ∨ record.state = .dispatching then
      let dispatched := record.state == .dispatching
      match registry.markRecoveredIntent snapshot.requestId record.id dispatched with
      | .error _ => (registry, .finished)
      | .ok recovered =>
        visitKnown libs recovered create snapshot.requestId record.id
          (snapshot.state == .needsUnresolved || dispatched)
    else (registry.acknowledge snapshot.requestId, .finished)

def visitSettled (registry : ActiveBudgetIntentRegistry) (snapshot : ActiveBudgetIntentSnapshot)
    (answer : Except BudgetStoreError BudgetSettlement) : ActiveBudgetIntentRegistry :=
  match answer with
  | .error _ => registry
  | .ok _ => registry.acknowledge snapshot.requestId

end Recovery

/-! ## Nodes -/

/-- How far a request came. -/
inductive RequestStage where
  | inspected
  | hooked
  | aborted
  | finalized
  deriving DecidableEq

/-- A call that a request awaits, with its answer once it took effect. -/
inductive Activity where
  | creating (command : CreateBudgetIntent)
      (answer : Option (Except BudgetStoreError BudgetIntent))
  | dispatching (command : MarkBudgetDispatching)
      (answer : Option (Except BudgetStoreError BudgetIntent))
  | replaying (final : Bool) (command : CreateBudgetIntent)
      (answer : Option (Except BudgetStoreError BudgetIntent))
  | settling (final : Bool) (command : SettleBudgetIntent)
      (answer : Option (Except BudgetStoreError BudgetSettlement))

def Await.start : Await → Activity
  | .creating command => .creating command none
  | .dispatching command => .dispatching command none
  | .replaying final command => .replaying final command none
  | .settling final command => .settling final command none

structure Request where
  requestId : String
  stage : RequestStage
  upstreamForbidden : Bool
  upstreamAttempted : Bool
  budget : AiBudgetRequestContext
  activity : Option Activity

/-- What a recovery pass is doing. -/
inductive PassActivity where
  | idle
  | lookingUp (snapshot : ActiveBudgetIntentSnapshot) (create : CreateBudgetIntent)
      (answer : Option (Except BudgetStoreError (Option BudgetIntentRecord)))
  | settling (snapshot : ActiveBudgetIntentSnapshot) (command : SettleBudgetIntent)
      (answer : Option (Except BudgetStoreError BudgetSettlement))

structure Pass where
  queue : List ActiveBudgetIntentSnapshot
  activity : PassActivity

structure Node where
  sys : System
  registry : ActiveBudgetIntentRegistry
  requests : AList fun _ : Nat => Request
  pass : Option Pass

/-- How a call of the store ends: with its answer, with a commit whose answer is lost, or with an
error before it writes anything. -/
inductive Reply where
  | answered
  | lost
  | failed (error : BudgetStoreError)

def outcomeUnknown : BudgetStoreError :=
  .new .outcomeUnknown "预算事务提交结果未知，请使用相同 operation ID 查询或重放"

def Reply.answer {α : Type} (reply : Reply) (t : Tx α) (db : Db) : Except BudgetStoreError α :=
  match reply with
  | .answered => (execute t db).1
  | .lost => .error outcomeUnknown
  | .failed error => .error error

def Reply.runs {α : Type} (reply : Reply) (t : Tx α) (sys : System) : System :=
  match reply with
  | .answered | .lost => sys.run t
  | .failed _ => sys

/-- One step of a node. A request is named by its task. -/
inductive Event where
  /-- A transaction of any other party, or of this node for another purpose. -/
  | environment (call : Call)
  | inspected (task : Nat) (requestId : String) (virtualKeyId : Uuid)
  | hook (task : Nat) (intentId : Uuid) (snapshot : BudgetPricingSnapshot)
  /-- The hook returns before it reserves: a fenced owner, no permit, no price. -/
  | hookRefused (task : Nat)
  | abort (task : Nat)
  | upstream (task : Nat)
  | finalize (task : Nat) (fact : Option AiUsageFact)
  | execute (task : Nat) (reply : Reply) (now : Nat)
  | resume (task : Nat)
  /-- The hook, the compensator or the finalizer is cut off; the request goes on. -/
  | timeout (task : Nat)
  /-- The request is gone, and its guard with it. -/
  | drop (task : Nat)
  /-- A recovery pass takes the snapshots of these requests, in this order. -/
  | recover (requestIds : List String)
  | recoverNext
  | recoverLookup (visible : Bool) (reply : Reply)
  | recoverSettle (reply : Reply) (now : Nat)
  | recoverResume
  | recoverStop

/-! ## Steps -/

section Steps

variable (libs : Libraries) (runtime : SupportedBudgetRuntime)

/-- A creation under the session of this node; only its requests make one. -/
def createsLocally (session : Uuid) : Call → Bool
  | .createIntent _ command _ => command.ownerSessionId == session
  | _ => false

namespace Node

variable (node : Node)

def setRequest (node : Node) (task : Nat) (request : Request) : Node :=
  { node with requests := node.requests.insert task request }

/-- A request after a piece of its code; a hook that fails forbids the upstream. -/
def proceed (node : Node) (task : Nat) (request : Request) (outcome : Scope × Progress) : Node :=
  let request := { request with budget := outcome.1.budget }
  let request := match outcome.2 with
    | .awaits call => { request with activity := some call.start }
    | .returned (.ok ()) => { request with activity := none }
    | .returned (.error _) => { request with activity := none, upstreamForbidden := true }
  { node with registry := outcome.1.registry }.setRequest task request

def scope (node : Node) (request : Request) : Scope := ⟨node.registry, request.budget⟩

/-- A call that a request awaits takes effect. -/
def execute (node : Node) (task : Nat) (request : Request) (reply : Reply) (now : Nat) :
    Option Node :=
  let sys := node.sys
  let store := runtime.store
  let continueWith (sys' : System) (activity : Activity) : Option Node :=
    some ({ node with sys := sys' }.setRequest task { request with activity := some activity })
  match request.activity with
  | some (.creating command none) =>
    let t := createIntent libs.toExternal store command now
    continueWith (reply.runs t sys) (.creating command (some (reply.answer t sys.db)))
  | some (.dispatching command none) =>
    let t := Budget.markDispatching libs.toExternal store command now
    continueWith (reply.runs t sys) (.dispatching command (some (reply.answer t sys.db)))
  | some (.replaying final command none) =>
    let t := createIntent libs.toExternal store command now
    continueWith (reply.runs t sys) (.replaying final command (some (reply.answer t sys.db)))
  | some (.settling final command none) =>
    let t := settle libs.toExternal store command now
    continueWith (reply.runs t sys) (.settling final command (some (reply.answer t sys.db)))
  | _ => none

/-- A request reads the answer of its call and goes on. -/
def resume (node : Node) (task : Nat) (request : Request) : Option Node :=
  let scope := node.scope request
  match request.activity with
  | some (.creating _ (some answer)) =>
    some (node.proceed task request (hookCreated runtime request.requestId answer scope))
  | some (.dispatching _ (some answer)) =>
    some (node.proceed task request (hookDispatched answer scope))
  | some (.replaying final _ (some answer)) =>
    some (node.proceed task request (replayed libs request.requestId final answer scope))
  | some (.settling final _ (some answer)) =>
    some (node.proceed task request (settled final answer scope))
  | _ => none

/-- Where a pass goes on after a piece of its code. -/
def visited (node : Node) (queue : List ActiveBudgetIntentSnapshot)
    (snapshot : ActiveBudgetIntentSnapshot) (outcome : ActiveBudgetIntentRegistry × Visit) :
    Node :=
  let activity := match outcome.2 with
    | .finished => .idle
    | .lookingUp create => .lookingUp snapshot create none
    | .settling command => .settling snapshot command none
  { node with registry := outcome.1, pass := some ⟨queue, activity⟩ }

def take (node : Node) (requestIds : List String) : List ActiveBudgetIntentSnapshot :=
  requestIds.filterMap fun requestId =>
    (node.registry.entry requestId).map fun data => ⟨data, requestId⟩

def recoverNext (node : Node) (pass : Pass) : Option Node :=
  match pass.queue, pass.activity with
  | snapshot :: queue, .idle =>
    some (node.visited queue snapshot (visitBegin libs node.registry snapshot))
  | _, _ => none

/-- A pass reads the answer of its call and goes on. -/
def recoverResume (node : Node) (pass : Pass) : Option Node :=
  match pass.activity with
  | .lookingUp snapshot create (some answer) =>
    some (node.visited pass.queue snapshot
      (visitLookedUp libs node.registry snapshot create answer))
  | .settling snapshot _ (some answer) =>
    some (node.visited pass.queue snapshot (visitSettled node.registry snapshot answer, .finished))
  | _ => none

/-- The lookup of a pass takes effect; it may miss a commit. -/
def recoverLookup (node : Node) (pass : Pass) (visible : Bool) (reply : Reply) : Option Node :=
  match pass.activity with
  | .lookingUp snapshot create none =>
    let t := lookupIntent runtime.store create.lookup
    let answer := if visible then reply.answer t node.sys.db else .ok none
    some { node with pass := some ⟨pass.queue, .lookingUp snapshot create (some answer)⟩ }
  | _ => none

/-- The settlement of a pass takes effect. -/
def recoverSettle (node : Node) (pass : Pass) (reply : Reply) (now : Nat) : Option Node :=
  match pass.activity with
  | .settling snapshot command none =>
    let t := settle libs.toExternal runtime.store command now
    some { node with
      sys := reply.runs t node.sys
      pass := some ⟨pass.queue, .settling snapshot command (some (reply.answer t node.sys.db))⟩ }
  | _ => none

def step (node : Node) : Event → Option Node
  | .environment call =>
    if createsLocally runtime.ownerSessionId call then none
    else some { node with sys := perform libs.toExternal node.sys call }
  | .inspected task requestId virtualKeyId =>
    if (node.requests.lookup task).isNone ∧ node.sys.db.admits runtime.store virtualKeyId then
      some (node.setRequest task
        ⟨requestId, .inspected, false, false, .inspected virtualKeyId, none⟩)
    else none
  | .hook task intentId snapshot => do
    let request ← node.requests.lookup task
    if request.stage = .inspected then
      some (node.proceed task { request with stage := .hooked }
        (hookBegin libs runtime request.requestId intentId snapshot (node.scope request)))
    else none
  | .hookRefused task => do
    let request ← node.requests.lookup task
    if request.stage = .inspected then
      some (node.setRequest task { request with stage := .hooked, upstreamForbidden := true })
    else none
  | .abort task => do
    let request ← node.requests.lookup task
    if request.stage = .hooked ∧ request.activity.isNone ∧ request.upstreamAttempted = false then
      some (node.proceed task { request with stage := .aborted, upstreamForbidden := true }
        (compensateBegin libs request.requestId (node.scope request)))
    else none
  | .upstream task => do
    let request ← node.requests.lookup task
    if request.stage = .hooked ∧ request.activity.isNone ∧ request.upstreamForbidden = false then
      some (node.setRequest task { request with upstreamAttempted := true })
    else none
  | .finalize task fact => do
    let request ← node.requests.lookup task
    if request.stage ≠ .finalized ∧ request.activity.isNone then
      some (node.proceed task { request with stage := .finalized }
        (finalizeBegin libs request.requestId request.upstreamAttempted fact (node.scope request)))
    else none
  | .execute task reply now => do
    let request ← node.requests.lookup task
    node.execute libs runtime task request reply now
  | .resume task => do
    let request ← node.requests.lookup task
    node.resume libs runtime task request
  | .timeout task => do
    let request ← node.requests.lookup task
    if request.activity.isSome then
      some (node.setRequest task { request with activity := none, upstreamForbidden := true })
    else none
  | .drop task => do
    let request ← node.requests.lookup task
    let registry := request.budget.guard.elim node.registry fun guard =>
      node.registry.guardDropped guard.requestId
    some { node with registry := registry, requests := node.requests.erase task }
  | .recover requestIds =>
    if node.pass.isNone ∧ requestIds.Nodup then
      some { node with pass := some ⟨node.take requestIds, .idle⟩ }
    else none
  | .recoverNext => do
    let pass ← node.pass
    node.recoverNext libs pass
  | .recoverLookup visible reply => do
    let pass ← node.pass
    node.recoverLookup runtime pass visible reply
  | .recoverSettle reply now => do
    let pass ← node.pass
    node.recoverSettle libs runtime pass reply now
  | .recoverResume => do
    let pass ← node.pass
    node.recoverResume libs pass
  | .recoverStop => if node.pass.isSome then some { node with pass := none } else none

def run (node : Node) : List Event → Option Node
  | [] => some node
  | event :: events => do
    let next ← node.step libs runtime event
    next.run events

end Node

end Steps

end KongRust.Enforcement

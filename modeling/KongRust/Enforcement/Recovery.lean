import KongRust.Enforcement.Orphans

/-!
# Recovery of terminal intents

A recovery pass over an entry whose ledger row is already terminal. The store answers a settlement
of such a row only when it repeats the command that settled it, so whether the pass removes the
entry depends on who settled the row: a lookup accepts any terminal row, a settlement does not.
-/

namespace KongRust.Enforcement

open Budget Transaction

/-! ## Runs of a node -/

/-- Steps of the requests and of the other parties, while a pass waits. -/
def Node.Meanwhile (libs : Libraries) (runtime : SupportedBudgetRuntime) (node next : Node) :
    Prop :=
  ∃ events : List Event, (∀ event ∈ events, event.ofPass = false) ∧
    node.run libs runtime events = some next

/-- A node that ran since its session began, on a ledger of any history. -/
def Node.Reachable (libs : Libraries) (runtime : SupportedBudgetRuntime) (node : Node) : Prop :=
  ∃ (sys : System) (calls : List Call) (start : Node) (events : List Event), sys.Migrated ∧
    start.sys = runCalls libs.toExternal sys calls ∧ start.Initial runtime ∧
      start.run libs runtime events = some node

section Runs

variable {libs : Libraries} {runtime : SupportedBudgetRuntime} {node next : Node} {event : Event}

theorem Node.Moves.system (h : node.Moves libs runtime event next) :
    next.sys = node.sys ∨ ∃ call, next.sys = perform libs.toExternal node.sys call := by
  have hReply : ∀ {α : Type} {reply : Reply} {t : Tx α} (call : Call),
      node.sys.run t = perform libs.toExternal node.sys call →
      reply.runs t node.sys = node.sys ∨
        ∃ call, reply.runs t node.sys = perform libs.toExternal node.sys call := by
    intro α reply t call hCall
    cases reply with
    | failed error => exact .inl rfl
    | _ => exact .inr ⟨call, hCall⟩
  cases h with
  | environment call _ => exact .inr ⟨call, rfl⟩
  | executes task request reply now activity activity' sys' _ _ hExecutes =>
    cases hExecutes with
    | creating command => exact hReply (.createIntent runtime.store command now) rfl
    | dispatching command => exact hReply (.markDispatching runtime.store command now) rfl
    | replaying final command => exact hReply (.createIntent runtime.store command now) rfl
    | settling final command => exact hReply (.settle runtime.store command now) rfl
  | settles pass snapshot command reply now _ _ =>
    exact hReply (.settle runtime.store command now) rfl
  | _ => exact .inl rfl

theorem Node.Moves.terminal (h : node.Moves libs runtime event next) {id : Uuid} {row : LedgerRow}
    (hRow : node.sys.db.ledger.lookup id = some row) (hTerminal : row.Terminal) :
    next.sys.db.ledger.lookup id = some row := by
  rcases h.system with hSame | ⟨call, hCall⟩
  · rw [hSame, hRow]
  · rw [hCall]
    exact terminal_perform hRow hTerminal call

theorem Node.Sound.besides (h : node.Sound libs runtime)
    (hMoves : node.Moves libs runtime event next) (hEvent : event.ofPass = false) :
    next.pass = node.pass ∧ ∀ requestId data, node.registry.entry requestId = some data →
      data.guardAlive = false → next.registry.entry requestId = some data := by
  cases hMoves with
  | reserves task request staged create outcome hRequest _ _ hReserves =>
    obtain ⟨request', hNext, -⟩ := proceed_eq node task staged outcome
    rw [hNext]
    have hGuard : outcome.1.budget.guard ≠ none := hReserves.guard
    have hChanges : Changes node.registry outcome.1.registry request.requestId
        request.budget.guard outcome.1.budget.guard :=
      ⟨hReserves.frame, .inr (.inr hReserves.absent), fun hFree => absurd hFree hGuard,
        fun _ => .inr hReserves.absent⟩
    exact ⟨rfl, fun _ _ => h.dead_kept hRequest hChanges⟩
  | runs task request staged mayRelease outcome hRequest _ _ hRuns _ =>
    obtain ⟨request', hNext, -⟩ := proceed_eq node task staged outcome
    rw [hNext]
    refine ⟨rfl, fun requestId data hEntry hDead => ?_⟩
    cases hRuns with
    | goes create _ _ hGoes =>
      exact h.dead_kept hRequest hGoes.toLocal.changes hEntry hDead
    | refuses _ hRefuses => exact (hRefuses.entry requestId).trans hEntry
  | drops task request hRequest => exact ⟨rfl, fun _ _ => h.released_dead hRequest⟩
  | visits pass snapshot queue create mayRelease outcome hPasses =>
    simp [hPasses] at hEvent
  | takes | skips | looksUp | settles | stops => cases hEvent
  | _ => exact ⟨rfl, fun _ _ hEntry _ => hEntry⟩

theorem Node.run_system {events : List Event} {final : Node} (hSound : node.Sound libs runtime)
    (hRun : node.run libs runtime events = some final) :
    ∃ calls, final.sys = runCalls libs.toExternal node.sys calls := by
  induction events generalizing node with
  | nil =>
    cases hRun
    exact ⟨[], rfl⟩
  | cons event events ih =>
    obtain ⟨middle, hStep, hRest⟩ := Option.bind_eq_some_iff.mp hRun
    have hMoves := hSound.moves hStep
    obtain ⟨calls, hCalls⟩ := ih (hSound.move hMoves) hRest
    rcases hMoves.system with hSame | ⟨call, hCall⟩
    · exact ⟨calls, hCalls.trans (congrArg (runCalls libs.toExternal · calls) hSame)⟩
    · exact ⟨call :: calls, hCalls.trans (congrArg (runCalls libs.toExternal · calls) hCall)⟩

/-- What a pass that waits finds again. -/
structure Node.Keeps (libs : Libraries) (runtime : SupportedBudgetRuntime) (node next : Node) :
    Prop where
  sound : next.Sound libs runtime
  pass : next.pass = node.pass
  entries : ∀ requestId data, node.registry.entry requestId = some data →
    data.guardAlive = false → next.registry.entry requestId = some data
  system : ∃ calls, next.sys = runCalls libs.toExternal node.sys calls
  rows : ∀ id row, node.sys.db.ledger.lookup id = some row → row.Terminal →
    next.sys.db.ledger.lookup id = some row

theorem Node.Meanwhile.refl (node : Node) : node.Meanwhile libs runtime node :=
  ⟨[], by simp, rfl⟩

theorem Node.Meanwhile.keeps (h : node.Meanwhile libs runtime next)
    (hSound : node.Sound libs runtime) : node.Keeps libs runtime next := by
  obtain ⟨events, hBesides, hRun⟩ := h
  have hSystem := Node.run_system hSound hRun
  induction events generalizing node with
  | nil =>
    cases hRun
    exact ⟨hSound, rfl, fun _ _ hEntry _ => hEntry, hSystem, fun _ _ hRow _ => hRow⟩
  | cons event events ih =>
    obtain ⟨middle, hStep, hRest⟩ := Option.bind_eq_some_iff.mp hRun
    have hMoves := hSound.moves hStep
    have hKeeps := ih (hSound.move hMoves)
      (fun event hMem => hBesides event (List.mem_cons_of_mem _ hMem)) hRest
      (Node.run_system (hSound.move hMoves) hRest)
    obtain ⟨hPass, hEntries⟩ := hSound.besides hMoves (hBesides event List.mem_cons_self)
    exact ⟨hKeeps.sound, hKeeps.pass.trans hPass, fun requestId data hEntry hDead =>
        hKeeps.entries requestId data (hEntries requestId data hEntry hDead) hDead,
      hSystem, fun id row hRow hTerminal => hKeeps.rows id row (hMoves.terminal hRow hTerminal) hTerminal⟩

theorem Node.Reachable.sound (h : node.Reachable libs runtime) : node.Sound libs runtime := by
  obtain ⟨-, -, start, events, -, -, hInitial, hRun⟩ := h
  exact hInitial.sound.run hRun

theorem Node.Reachable.ledger (h : node.Reachable libs runtime) :
    Exclusive node.sys.db.ledger ∧ Checked libs.toExternal node.sys.db.ledger := by
  obtain ⟨sys, calls, start, events, hMigrated, hStart, hInitial, hRun⟩ := h
  obtain ⟨calls', hFinal⟩ := Node.run_system hInitial.sound hRun
  rw [hFinal, hStart]
  exact ⟨(hMigrated.exclusive.run libs.toExternal calls).run libs.toExternal calls',
    (hMigrated.checked.run calls).run calls'⟩

end Runs

/-! ## Commands for a recorded intent -/

/-- The fingerprint of the settlement that recovery reports for an intent. -/
def recoveryFingerprint (libs : Libraries) (create : CreateBudgetIntent) (intentId : Uuid)
    (unresolved : Bool) : String :=
  settlementFingerprint libs.toExternal create.requestId create.virtualKeyId intentId
    (recoveryCost unresolved).status (recoveryCost unresolved).amountUsd
    (recoveryCost unresolved).reasons none

section Commands

variable {libs : Libraries} {runtime : SupportedBudgetRuntime} {requestId : String}
  {create : CreateBudgetIntent} {command : SettleBudgetIntent}

theorem recoveryCommand_ok (libs : Libraries) (create : CreateBudgetIntent) (requestId : String)
    (intentId : Uuid) (unresolved : Bool) :
    ∃ command, recoveryCommand libs create requestId intentId unresolved = .ok command := by
  cases unresolved <;> exact ⟨_, rfl⟩

theorem recoveryCommand_fingerprint {intentId : Uuid} {unresolved : Bool}
    (h : recoveryCommand libs create create.requestId intentId unresolved = .ok command) :
    command.commandFingerprint = recoveryFingerprint libs create intentId unresolved := by
  cases unresolved <;> cases h <;> rfl

theorem validateFingerprint_digest (hLibs : libs.toExternal.Standard) (text field : String) :
    validateFingerprint (libs.sha256Hex text) field = .ok () := by
  obtain ⟨hLength, hHex⟩ := hLibs.digest text
  refine if_neg ?_
  rw [len_of_isLowerHex hHex, hLength, hHex]
  simp

theorem validateRequestId_of_identifies {ledger : Ledger} {id : Uuid} {row : LedgerRow}
    (hChecked : Checked libs.toExternal ledger) (hRow : ledger.lookup id = some row)
    (hIdentifies : row.Identifies create) :
    Text.len create.requestId = 32 ∧ isLowerHex create.requestId := by
  have hChecks := hChecked id row hRow (by simp [hIdentifies.kind])
  simp only [LedgerRow.satisfiesChecks, Bool.and_eq_true] at hChecks
  have hFormat : row.requestIdFormat := by tauto
  unfold LedgerRow.requestIdFormat at hFormat
  rw [hIdentifies.kind, hIdentifies.requestId] at hFormat
  simp only [Bool.and_eq_true, beq_iff_eq] at hFormat
  exact ⟨(len_of_isLowerHex hFormat.2).trans hFormat.1, hFormat.2⟩

theorem validateRequestId_ok (h : Text.len create.requestId = 32 ∧ isLowerHex create.requestId) :
    validateRequestId create.requestId = .ok () := by
  refine if_neg ?_
  rw [h.1, h.2]
  simp

theorem validateOperationId_ok (hLength : Text.len create.requestId = 32)
    {label field : String} (hLabel : Text.len label ≤ 96) :
    validateOperationId (label ++ create.requestId) (label ++ create.requestId) field =
      .ok () := by
  refine if_neg ?_
  have hAppend : Text.len (label ++ create.requestId) = Text.len label + 32 := by
    rw [← hLength]
    exact String.utf8ByteSize_append
  rw [hAppend]
  simp only [ne_eq, not_true_eq_false, or_false]
  omega

theorem CreatesFor.pricing_eq (h : CreatesFor libs runtime requestId create) :
    create.pricingFingerprint = libs.sha256Hex (libs.pricingJson create.pricingSnapshot) := by
  rw [h]
  rfl

section

variable (hLibs : libs.toExternal.Standard) (hBuilds : CreatesFor libs runtime requestId create)
  (hRequest : Text.len create.requestId = 32 ∧ isLowerHex create.requestId)
include hLibs hBuilds hRequest

theorem SettlesFor.valid (h : SettlesFor libs create command) :
    validateSettleCommand command = .ok () := by
  unfold validateSettleCommand
  rw [h.requestId, h.operationId, h.fingerprint, h.pricing, hBuilds.pricing_eq,
    validateRequestId_ok hRequest, validateOperationId_ok hRequest.1 (by decide)]
  unfold settlementFingerprint
  rw [validateFingerprint_digest hLibs, validateFingerprint_digest hLibs, h.reasons.valid]
  rfl

theorem validateLookupCommand_ok : validateLookupCommand create.lookup = .ok () := by
  have hOperation : create.operationId = "intent:v1:" ++ create.requestId := by
    rw [hBuilds]
    rfl
  obtain ⟨text, hText⟩ : ∃ text, create.commandFingerprint = libs.sha256Hex text := by
    rw [hBuilds]
    exact ⟨_, rfl⟩
  unfold validateLookupCommand CreateBudgetIntent.lookup
  dsimp only
  rw [hOperation, hBuilds.pricing_eq, hText, validateRequestId_ok hRequest,
    validateOperationId_ok hRequest.1 (by decide), validateFingerprint_digest hLibs,
    validateFingerprint_digest hLibs]
  rfl

/-- The registry takes the settlement that recovery reports for an entry of a known intent. -/
theorem recordRecoverySettlement_ok {registry : ActiveBudgetIntentRegistry}
    {data : ActiveBudgetIntentData} (h : SettlesFor libs create command)
    (hEntry : registry.entry create.requestId = some data) (hBelongs : data.BelongsTo libs create)
    (hDead : data.guardAlive = false) (hKnown : data.intentId ≠ none) (unresolved : Bool) :
    ∃ registry', registry.recordRecoverySettlement create.requestId command unresolved =
      .ok registry' := by
  have hDigest : ∀ text, Text.len (libs.sha256Hex text) = 64 := fun text =>
    (len_of_isLowerHex (hLibs.digest text).2).trans (hLibs.digest text).1
  have hOperation : Text.len ("budget-settle:v1:" ++ create.requestId) = 49 := by
    have hAppend : Text.len ("budget-settle:v1:" ++ create.requestId) =
        Text.len "budget-settle:v1:" + Text.len create.requestId := String.utf8ByteSize_append
    rw [hAppend, hRequest.1]
    decide
  have hReasons : command.cost.reasons.forM (fun reason =>
      validateTextField .costReason reason ACTIVE_BUDGET_INTENT_MAX_COST_REASON_BYTES) =
        .ok () := by
    refine forM_eq_ok.mpr fun reason hReason => if_neg ?_
    have hShort := (knownReasons_short reason (h.reasons.known reason hReason)).2
    simp only [ACTIVE_BUDGET_INTENT_MAX_COST_REASON_BYTES]
    omega
  have hValid : validateSettlementCommand create.requestId command = .ok () := by
    have hFew := h.reasons.few
    unfold validateSettlementCommand validateRequestIdentity validateTextField validateFieldSize
    unfold validateTextField validateFieldSize at hReasons
    rw [h.requestId, h.operationId, h.fingerprint, h.pricing, hBuilds.pricing_eq, hRequest.1,
      hOperation]
    unfold settlementFingerprint
    rw [hDigest, hDigest, hReasons]
    have hMany : ¬ ACTIVE_BUDGET_INTENT_MAX_COST_REASONS < command.cost.reasons.length := by
      simp only [ACTIVE_BUDGET_INTENT_MAX_COST_REASONS]
      omega
    simp [hMany, ACTIVE_BUDGET_INTENT_MAX_REQUEST_ID_BYTES,
      ACTIVE_BUDGET_INTENT_MAX_OPERATION_ID_BYTES, ACTIVE_BUDGET_INTENT_MAX_FINGERPRINT_BYTES,
      bind, Except.bind, pure, Except.pure]
  have hState : data.state ∈ [ActiveBudgetIntentState.needsSafeZero, .needsUnresolved,
      .retryWithFact] := by
    have hGuarded := hBelongs.dropped hDead
    have hUnknown := mt hBelongs.unknown.mpr hKnown
    revert hGuarded hUnknown
    cases data.state <;> simp [guardedStates]
  have hSame : ((some command.intentId).any fun id => data.intentId.any (· != id)) = false := by
    obtain ⟨id, hId⟩ := Option.ne_none_iff_exists'.mp hKnown
    rw [hId, h.intentId, hBelongs.intentId id hId]
    simp
  unfold ActiveBudgetIntentRegistry.recordRecoverySettlement
  rw [hValid]
  unfold ActiveBudgetIntentRegistry.transition
  rw [hEntry]
  dsimp only [bind, Except.bind]
  rw [if_neg (not_not.mpr hState), hSame]
  exact ⟨_, rfl⟩

end

end Commands

/-! ## Visits of an entry -/

/-- A pass that awaits a call gets its answer from the store, whatever happens in between, and goes
on until it is done with its entry. -/
inductive Node.Completes (libs : Libraries) (runtime : SupportedBudgetRuntime) :
    Node → Node → Prop where
  | done {node : Node} (idle : ∀ pass, node.pass = some pass → pass.activity = .idle) :
      Node.Completes libs runtime node node
  | answered {node called answered reading read final : Node} {event : Event}
      (before : node.Meanwhile libs runtime called)
      (asked : event = .recoverLookup true .answered ∨ ∃ now, event = .recoverSettle .answered now)
      (answer : called.step libs runtime event = some answered)
      (after : answered.Meanwhile libs runtime reading)
      (resume : reading.step libs runtime .recoverResume = some read)
      (rest : Node.Completes libs runtime read final) : Node.Completes libs runtime node final

def Node.Visits (libs : Libraries) (runtime : SupportedBudgetRuntime) (node final : Node) : Prop :=
  ∃ begun, node.step libs runtime .recoverNext = some begun ∧ begun.Completes libs runtime final

/-- Recovery sends the command that settled the row of the entry, or the row was reconciled, or
recovery looks the row up instead of settling it. -/
def ActiveBudgetIntentData.Agrees (libs : Libraries) (data : ActiveBudgetIntentData)
    (create : CreateBudgetIntent) (row : LedgerRow) : Prop :=
  match data.settlement, data.intentId with
  | some command, _ => row.Accepts command.operationId command.commandFingerprint
  | none, some intentId => row.Accepts ("budget-settle:v1:" ++ create.requestId)
    (recoveryFingerprint libs create intentId (data.state == .needsUnresolved))
  | none, none => True

section Visits

variable {libs : Libraries} {runtime : SupportedBudgetRuntime} {node final : Node}
  {queue : List ActiveBudgetIntentSnapshot} {snapshot : ActiveBudgetIntentSnapshot}
  {create : CreateBudgetIntent} {command : SettleBudgetIntent} {row : LedgerRow}

/-! ### The steps of a pass -/

theorem Node.step_recoverLookup
    (hPass : node.pass = some ⟨queue, .lookingUp snapshot create none⟩) :
    node.step libs runtime (.recoverLookup true .answered) = some { node with
      pass := some ⟨queue, .lookingUp snapshot create
        (some (Transaction.execute (lookupIntent runtime.store create.lookup) node.sys.db).1)⟩ } := by
  simp only [Node.step, hPass]
  rfl

variable {now : Nat} {record : BudgetIntentRecord}

theorem Node.step_recoverSettle
    (hPass : node.pass = some ⟨queue, .settling snapshot command none⟩) :
    node.step libs runtime (.recoverSettle .answered now) = some { node with
      sys := node.sys.run (settle libs.toExternal runtime.store command now)
      pass := some ⟨queue, .settling snapshot command (some
        (Transaction.execute (settle libs.toExternal runtime.store command now)
          node.sys.db).1)⟩ } := by
  simp only [Node.step, hPass]
  rfl

theorem Node.step_readLookup {answer : Except BudgetStoreError (Option BudgetIntentRecord)}
    (hPass : node.pass = some ⟨queue, .lookingUp snapshot create (some answer)⟩) :
    node.step libs runtime .recoverResume = some (node.visited queue snapshot
        (visitLookedUp libs node.registry snapshot create answer)) := by
  simp only [Node.step, hPass]
  rfl

theorem Node.step_readSettle {answer : Except BudgetStoreError BudgetSettlement}
    (hPass : node.pass = some ⟨queue, .settling snapshot command (some answer)⟩) :
    node.step libs runtime .recoverResume =
      some (node.visited queue snapshot (visitSettled node.registry snapshot answer,
        .finished)) := by
  simp only [Node.step, hPass]
  rfl

theorem Node.Completes.eq_of_idle (h : node.Completes libs runtime final)
    (hSound : node.Sound libs runtime) (hPass : node.pass = some ⟨queue, .idle⟩) :
    final = node := by
  cases h with
  | done => rfl
  | answered hBefore hAsked hAnswer =>
    have hCalled := (hBefore.keeps hSound).pass.trans hPass
    rcases hAsked with rfl | ⟨now, rfl⟩ <;>
      simp [Node.step, hCalled, Node.recoverLookup, Node.recoverSettle] at hAnswer

/-! ### The settlement of a terminal row -/

theorem Node.completes_settling
    (hPass : node.pass = some ⟨queue, .settling snapshot command none⟩) :
    ∃ final, node.Completes libs runtime final :=
  ⟨_, .answered (.refl _) (.inr ⟨0, rfl⟩) (Node.step_recoverSettle hPass) (.refl _)
    (Node.step_readSettle rfl) (.done (by rintro _ ⟨rfl⟩; rfl))⟩

/-- A settlement that is sent removes the entry exactly when the terminal row takes it. -/
theorem Node.Completes.settled (h : node.Completes libs runtime final)
    (hSound : node.Sound libs runtime) (hLibs : libs.toExternal.Standard)
    (hPass : node.pass = some ⟨queue, .settling snapshot command none⟩)
    (hBuilds : CreatesFor libs runtime snapshot.requestId create)
    (hSettles : SettlesFor libs create command)
    (hRequest : Text.len create.requestId = 32 ∧ isLowerHex create.requestId)
    (hRow : node.sys.db.ledger.lookup create.intentId = some row)
    (hIdentifies : row.Identifies create) (hTerminal : row.Terminal) :
    final.registry.entry snapshot.requestId = none ↔
      row.Accepts command.operationId command.commandFingerprint := by
  cases h with
  | done hIdle => cases hIdle _ hPass
  | @answered _ called answered reading read _ _ hBefore hAsked hAnswer hAfter hResume hRest =>
    have hCalled := hBefore.keeps hSound
    have hCalledPass := hCalled.pass.trans hPass
    rcases hAsked with rfl | ⟨now, rfl⟩
    · simp [Node.step, hCalledPass, Node.recoverLookup] at hAnswer
    · have hAnsweredSound := hCalled.sound.step hAnswer
      rw [Node.step_recoverSettle hCalledPass] at hAnswer
      cases hAnswer
      have hReading := hAfter.keeps hAnsweredSound
      have hReadSound := hReading.sound.step hResume
      rw [Node.step_readSettle hReading.pass] at hResume
      cases hResume
      rw [hRest.eq_of_idle hReadSound rfl]
      -- the entry is still there when the answer is read
      obtain ⟨data, hEntry, hDead⟩ := (hAnsweredSound.pass _ rfl).subject_dead
        (List.mem_singleton_self snapshot.requestId)
      have hEntry' := hReading.entries _ data hEntry hDead
      have hCalledRow : called.sys.db.ledger.lookup command.intentId = some row := by
        rw [hSettles.intentId]
        exact hCalled.rows _ _ hRow hTerminal
      have hEnds : Ends (settle libs.toExternal runtime.store command now) called.sys.db
          (fun _ _ => row.Accepts command.operationId command.commandFingerprint)
          fun _ => ¬ row.Accepts command.operationId command.commandFingerprint :=
        settle_terminal runtime.timeoutFits (hSettles.valid hLibs hBuilds hRequest) hCalledRow
          hIdentifies hSettles.virtualKeyId hSettles.requestId hSettles.pricing hTerminal
      rcases execute_of_ends hEnds with
        ⟨settlement, db', hExecute, hAccepts⟩ | ⟨error, hExecute, hRefuses⟩
      · rw [hExecute]
        exact iff_of_true ActiveBudgetIntentRegistry.entry_acknowledge hAccepts
      · rw [hExecute]
        refine iff_of_false (fun hGone => ?_) hRefuses
        exact absurd (hEntry'.symm.trans hGone) (by simp)

/-! ### The lookup of a terminal row -/

theorem intentByRequest_of_identifies {db : Db} {id : Uuid} (hExclusive : Exclusive db.ledger)
    (hRow : db.ledger.lookup id = some row) (hIdentifies : row.Identifies create) :
    db.intentByRequest create.requestId = some (id, row) := by
  cases hFound : db.intentByRequest create.requestId with
  | none => exact absurd hIdentifies.requestId (intentByRequest_eq_none.mp hFound id row hRow)
  | some found =>
    obtain ⟨id', row'⟩ := found
    obtain ⟨hRow', hRequest'⟩ := lookup_of_intentByRequest hFound
    obtain rfl : id' = id :=
      hExclusive.intent id' row' id row _ hRow' hRow hRequest' hIdentifies.requestId
    obtain rfl : row' = row := Option.mem_unique hRow' hRow
    rfl

variable {registry : ActiveBudgetIntentRegistry}

theorem visitLookedUp_terminal (h : record.state ≠ .prepared ∧ record.state ≠ .dispatching) :
    visitLookedUp libs registry snapshot create (.ok (some record)) =
      (registry.acknowledge snapshot.requestId, .finished) := by
  refine if_neg ?_
  rw [not_or]
  exact h

theorem Node.completes_lookingUp (hPass : node.pass = some ⟨queue, .lookingUp snapshot create none⟩)
    (hAnswer : (Transaction.execute (lookupIntent runtime.store create.lookup) node.sys.db).1 =
      .ok (some record)) (hState : record.state ≠ .prepared ∧ record.state ≠ .dispatching) :
    ∃ final, node.Completes libs runtime final := by
  refine ⟨_, .answered (.refl _) (.inl rfl) (Node.step_recoverLookup hPass) (.refl _)
    (Node.step_readLookup rfl) (.done ?_)⟩
  rintro _ ⟨rfl⟩
  rw [hAnswer, visitLookedUp_terminal hState]

theorem Node.Completes.lookedUp (h : node.Completes libs runtime final)
    (hSound : node.Sound libs runtime)
    (hPass : node.pass = some ⟨queue, .lookingUp snapshot create none⟩)
    (hLookup : ∀ called, node.Keeps libs runtime called → ∃ record : BudgetIntentRecord,
      (Transaction.execute (lookupIntent runtime.store create.lookup) called.sys.db).1 =
        .ok (some record) ∧ record.state ≠ .prepared ∧ record.state ≠ .dispatching) :
    final.registry.entry snapshot.requestId = none := by
  cases h with
  | done hIdle => cases hIdle _ hPass
  | @answered _ called answered reading read _ _ hBefore hAsked hAnswer hAfter hResume hRest =>
    have hCalled := hBefore.keeps hSound
    have hCalledPass := hCalled.pass.trans hPass
    rcases hAsked with rfl | ⟨now, rfl⟩
    · have hAnsweredSound := hCalled.sound.step hAnswer
      rw [Node.step_recoverLookup hCalledPass] at hAnswer
      cases hAnswer
      have hReading := hAfter.keeps hAnsweredSound
      have hReadSound := hReading.sound.step hResume
      rw [Node.step_readLookup hReading.pass] at hResume
      cases hResume
      obtain ⟨record, hRecord, hState⟩ := hLookup called hCalled
      rw [hRecord, visitLookedUp_terminal hState] at hRest hReadSound
      rw [hRest.eq_of_idle hReadSound rfl]
      exact ActiveBudgetIntentRegistry.entry_acknowledge
    · simp [Node.step, hCalledPass, Node.recoverSettle] at hAnswer

/-! ### The visit -/

theorem Node.Sound.visit_begins (hSound : node.Sound libs runtime)
    (hPass : node.pass = some ⟨snapshot :: queue, .idle⟩) (hDead : snapshot.guardAlive = false)
    (hCreated : snapshot.createCommand = some create) :
    CreatesFor libs runtime snapshot.requestId create ∧ snapshot.BelongsTo libs create ∧
      node.registry.entry snapshot.requestId = some snapshot.toActiveBudgetIntentData ∧
      node.step libs runtime .recoverNext =
        some (node.visited queue snapshot (visitBegin libs node.registry snapshot)) := by
  have hEntry := (hSound.pass _ hPass).queue snapshot List.mem_cons_self hDead
  obtain ⟨builder, hBuilds, hBelongs⟩ := hSound.entries _ _ hEntry
  obtain rfl : builder = create := Option.some.inj (hBelongs.created.symm.trans hCreated)
  refine ⟨hBuilds, hBelongs, hEntry, ?_⟩
  simp only [Node.step, hPass]
  rfl

/-- The call with which the visit of an entry begins. -/
theorem visitBegin_call (hLibs : libs.toExternal.Standard)
    (hBuilds : CreatesFor libs runtime snapshot.requestId create)
    (hBelongs : snapshot.BelongsTo libs create) (hDead : snapshot.guardAlive = false)
    (hRequest : Text.len create.requestId = 32 ∧ isLowerHex create.requestId)
    (hEntry : registry.entry snapshot.requestId = some snapshot.toActiveBudgetIntentData) :
    (snapshot.settlement = none ∧ snapshot.intentId = none ∧
      (visitBegin libs registry snapshot).2 = .lookingUp create) ∨
    ∃ command, (visitBegin libs registry snapshot).2 = .settling command ∧
      SettlesFor libs create command ∧
      (snapshot.Agrees libs create row ↔
        row.Accepts command.operationId command.commandFingerprint) := by
  unfold visitBegin ActiveBudgetIntentData.Agrees
  simp only [hDead, Bool.false_eq_true, if_false, hBelongs.created]
  cases hSettlement : snapshot.settlement with
  | some command =>
    exact .inr ⟨command, rfl, hBelongs.settlement command hSettlement, Iff.rfl⟩
  | none =>
    cases hIntent : snapshot.intentId with
    | none => exact .inl ⟨rfl, rfl, rfl⟩
    | some intentId =>
      obtain ⟨command, hCommand⟩ := recoveryCommand_ok libs create snapshot.requestId intentId
        (snapshot.state == .needsUnresolved)
      have hSettles := recoveryCommand_settlesFor hBuilds.requestId_eq
        (hBelongs.intentId _ hIntent) hCommand
      have hKnown : snapshot.intentId ≠ none := by simp [hIntent]
      have hNamed := hBuilds.requestId_eq
      rw [← hNamed] at hEntry hCommand
      obtain ⟨recorded, hRecorded⟩ := recordRecoverySettlement_ok hLibs hBuilds hRequest hSettles
        hEntry hBelongs hDead hKnown (snapshot.state == .needsUnresolved)
      refine .inr ⟨command, ?_, hSettles, ?_⟩
      · unfold visitKnown
        dsimp only
        rw [← hNamed, hCommand]
        dsimp only
        rw [hRecorded]
      · rw [recoveryCommand_fingerprint hCommand, hSettles.operationId]

/-- The visit of an entry without a guard. -/
theorem Node.Sound.visit_removes_iff (hSound : node.Sound libs runtime)
    (hLedger : Exclusive node.sys.db.ledger ∧ Checked libs.toExternal node.sys.db.ledger)
    (hLibs : libs.toExternal.Standard) (hPass : node.pass = some ⟨snapshot :: queue, .idle⟩)
    (hDead : snapshot.guardAlive = false) (hCreated : snapshot.createCommand = some create)
    (hRow : node.sys.db.ledger.lookup create.intentId = some row) (hAnswers : row.Answers create)
    (hTerminal : row.Terminal) :
    (∃ final, node.Visits libs runtime final) ∧ ∀ final, node.Visits libs runtime final →
      (final.registry.entry snapshot.requestId = none ↔ snapshot.Agrees libs create row) := by
  obtain ⟨hExclusive, hChecked⟩ := hLedger
  have hIdentifies := hAnswers.identifies
  have hRequest := validateRequestId_of_identifies hChecked hRow hIdentifies
  obtain ⟨hBuilds, hBelongs, hEntry, hStep⟩ := hSound.visit_begins hPass hDead hCreated
  have hBegunSound := hSound.step hStep
  rcases visitBegin_call hLibs hBuilds hBelongs hDead hRequest hEntry with
    ⟨hSettlement, hIntent, hLookingUp⟩ | ⟨command, hSettling, hSettles, hAgrees⟩
  · have hBegunPass : (node.visited queue snapshot (visitBegin libs node.registry snapshot)).pass =
        some ⟨queue, .lookingUp snapshot create none⟩ := by
      simp only [Node.visited, hLookingUp]
    have hLookup : ∀ called,
        (node.visited queue snapshot (visitBegin libs node.registry snapshot)).Keeps libs runtime
          called → ∃ record : BudgetIntentRecord,
        (Transaction.execute (lookupIntent runtime.store create.lookup) called.sys.db).1 =
            .ok (some record) ∧
          record.state ≠ .prepared ∧ record.state ≠ .dispatching := by
      intro called hKeeps
      obtain ⟨calls, hCalls⟩ := hKeeps.system
      have hCalledExclusive : Exclusive called.sys.db.ledger := by
        rw [hCalls]
        exact hExclusive.run libs.toExternal calls
      have hEnds : Ends (lookupIntent runtime.store create.lookup) called.sys.db
          (fun answer _ => ∃ record, answer = some record ∧ record.state ≠ .prepared ∧
            record.state ≠ .dispatching) fun _ => False :=
        lookupIntent_terminal runtime.timeoutFits (validateLookupCommand_ok hLibs hBuilds hRequest)
          (intentByRequest_of_identifies hCalledExclusive (hKeeps.rows _ _ hRow hTerminal)
            hIdentifies) hIdentifies hTerminal
      rcases execute_of_ends hEnds with
        ⟨answer, db', hExecute, record, rfl, hState⟩ | ⟨error, -, hNever⟩
      · exact ⟨record, congrArg Prod.fst hExecute, hState⟩
      · exact absurd hNever id
    have hAgrees : snapshot.Agrees libs create row := by
      unfold ActiveBudgetIntentData.Agrees
      rw [hSettlement, hIntent]
      trivial
    constructor
    · obtain ⟨record, hAnswer, hState⟩ := hLookup _ (Node.Meanwhile.keeps (.refl _) hBegunSound)
      obtain ⟨final, hCompletes⟩ := Node.completes_lookingUp hBegunPass hAnswer hState
      exact ⟨final, _, hStep, hCompletes⟩
    · rintro final ⟨begun, hBegun, hCompletes⟩
      obtain rfl := Option.mem_unique hBegun hStep
      exact iff_of_true (hCompletes.lookedUp hBegunSound hBegunPass hLookup) hAgrees
  · have hBegunPass : (node.visited queue snapshot (visitBegin libs node.registry snapshot)).pass =
        some ⟨queue, .settling snapshot command none⟩ := by
      simp only [Node.visited, hSettling]
    constructor
    · obtain ⟨final, hCompletes⟩ := Node.completes_settling hBegunPass
      exact ⟨final, _, hStep, hCompletes⟩
    · rintro final ⟨begun, hBegun, hCompletes⟩
      obtain rfl := Option.mem_unique hBegun hStep
      rw [hAgrees]
      exact hCompletes.settled hBegunSound hLibs hBegunPass hBuilds hSettles hRequest hRow
        hIdentifies hTerminal

theorem Node.Sound.visit_skips (hSound : node.Sound libs runtime)
    (hPass : node.pass = some ⟨snapshot :: queue, .idle⟩) (hAlive : snapshot.guardAlive) :
    (∃ final, node.Visits libs runtime final) ∧ ∀ final, node.Visits libs runtime final →
      final.registry = node.registry := by
  have hStep : node.step libs runtime .recoverNext =
      some { node with pass := some ⟨queue, .idle⟩ } := by
    have hBegin : visitBegin libs node.registry snapshot = (node.registry, .finished) :=
      if_pos hAlive
    simp only [Node.step, hPass]
    change some (node.visited queue snapshot (visitBegin libs node.registry snapshot)) = _
    rw [hBegin]
    rfl
  refine ⟨⟨_, _, hStep, .done (by rintro _ ⟨rfl⟩; rfl)⟩, ?_⟩
  rintro final ⟨begun, hBegun, hCompletes⟩
  obtain rfl := Option.mem_unique hBegun hStep
  rw [hCompletes.eq_of_idle (hSound.step hStep) rfl]

/-- **Recovery of terminal intents.** A recovery pass removes an entry whose row is terminal exactly
when no request holds its guard and the pass sends the command that settled the row, the row was
reconciled, or the pass looks the row up. -/
theorem recovery_removes_iff (hLibs : libs.toExternal.Standard)
    (hReachable : node.Reachable libs runtime)
    (hPass : node.pass = some ⟨snapshot :: queue, .idle⟩)
    (hEntry : node.registry.entry snapshot.requestId = some snapshot.toActiveBudgetIntentData)
    (hCreated : snapshot.createCommand = some create)
    (hRow : node.sys.db.ledger.lookup create.intentId = some row)
    (hAnswers : row.Answers create) (hTerminal : row.Terminal) :
    (∃ final, node.Visits libs runtime final) ∧ ∀ final, node.Visits libs runtime final →
      (final.registry.entry snapshot.requestId = none ↔
        snapshot.guardAlive = false ∧ snapshot.Agrees libs create row) := by
  have hSound := hReachable.sound
  cases hDead : snapshot.guardAlive with
  | true =>
    obtain ⟨hExists, hSkips⟩ := hSound.visit_skips hPass hDead
    refine ⟨hExists, fun final hVisits => iff_of_false (fun hGone => ?_) (by simp)⟩
    rw [hSkips final hVisits, hEntry] at hGone
    cases hGone
  | false =>
    obtain ⟨hExists, hRemoves⟩ := hSound.visit_removes_iff hReachable.ledger hLibs hPass hDead
      hCreated hRow hAnswers hTerminal
    refine ⟨hExists, fun final hVisits => ?_⟩
    rw [hRemoves final hVisits]
    simp

theorem Node.visits_of_run
    (hRun : node.run libs runtime [.recoverNext, .recoverSettle .answered now, .recoverResume] =
      some final) (hIdle : ∀ pass, final.pass = some pass → pass.activity = .idle) :
    node.Visits libs runtime final := by
  obtain ⟨begun, hBegun, hRest⟩ := Option.bind_eq_some_iff.mp hRun
  obtain ⟨answered, hAnswered, hRest⟩ := Option.bind_eq_some_iff.mp hRest
  obtain ⟨read, hRead, hEnd⟩ := Option.bind_eq_some_iff.mp hRest
  cases hEnd
  exact ⟨begun, hBegun, .answered (.refl _) (.inr ⟨now, rfl⟩) hAnswered (.refl _) hRead
    (.done hIdle)⟩

end Visits

/-! ## Runs in which a stale owner is recovered first -/

/-- The pass of a node is about to visit an entry whose row is terminal. -/
def Node.visitsTerminal (node : Node) : Bool :=
  match node.pass with
  | some ⟨snapshot :: _, .idle⟩ => snapshot.createCommand.any fun create =>
    (node.sys.db.ledger.lookup create.intentId).any fun row =>
      !snapshot.guardAlive && row.kind == .request &&
        (verifyCreateReplay create.intentId row create).isOk &&
        (row.status == .settled || row.status == .resolved)
  | _ => false

theorem Node.visitsTerminal_spec {node : Node} (h : node.visitsTerminal) :
    ∃ snapshot queue create row, node.pass = some ⟨snapshot :: queue, .idle⟩ ∧
      snapshot.guardAlive = false ∧ snapshot.createCommand = some create ∧
      node.sys.db.ledger.lookup create.intentId = some row ∧ row.Answers create ∧
      row.Terminal := by
  unfold Node.visitsTerminal at h
  split at h
  · next snapshot queue hPass =>
    obtain ⟨create, hCreated, h⟩ := (Option.any_eq_true _ _).mp h
    obtain ⟨row, hRow, h⟩ := (Option.any_eq_true _ _).mp h
    simp only [Bool.and_eq_true, Bool.or_eq_true, Bool.not_eq_true', beq_iff_eq] at h
    obtain ⟨⟨⟨hDead, hKind⟩, hVerified⟩, hTerminal⟩ := h
    refine ⟨snapshot, queue, create, row, hPass, hDead, hCreated, hRow, ⟨hKind, ?_⟩, hTerminal⟩
    cases hResult : verifyCreateReplay create.intentId row create with
    | ok _ => rfl
    | error error =>
      rw [hResult] at hVerified
      cases hVerified
  · cases h

theorem sampleBudget_standard : sampleBudget.toExternal.Standard where
  digest text := by
    have hDigests : ∀ digest ∈ sampleFingerprint '0' :: sampleDigests.map Prod.snd,
        digest.length = 64 ∧ isLowerHex digest := by
      decide +kernel
    refine hDigests _ ?_
    change (sampleDigests.lookup text).getD (sampleFingerprint '0') ∈ _
    cases hFound : sampleDigests.lookup text with
    | none => exact List.mem_cons_self
    | some digest =>
      obtain ⟨before, after, hSplit, -⟩ := List.lookup_eq_some_iff.mp hFound
      rw [hSplit]
      simp
  nfcEmpty := rfl
  nfcBlank _ h := h

/-- The lease of the owner runs out, and another party settles its prepared intent. -/
def staleRecovery : Event := .environment (.recoverStale sampleStore ⟨7, 1⟩ 300000000)

/-- The request is gone before it knew its intent, or while the intent was to be dispatched. -/
def staleRun (reply : Reply) : List Event :=
  [.inspected 0 (sampleRequest '7') 1, .hook 0 7 samplePricing, .execute 0 reply 2000, .resume 0,
    .drop 0, staleRecovery, .recover [sampleRequest '7']]

theorem staleRun_reachable {reply : Reply} {node : Node}
    (hRun : sampleNode.run sampleBudget sampleRuntime (staleRun reply) = some node) :
    node.Reachable sampleBudget sampleRuntime :=
  ⟨sampleSystem, [.registerOwner sampleStore ⟨4, 3, 60000000000⟩ 0], sampleNode, staleRun reply,
    sampleSystem_migrated, rfl, sampleNode_initial, hRun⟩

theorem staleRun_views :
    ((sampleNode.run sampleBudget sampleRuntime (staleRun .lost)).map (fun node =>
        (node.visitsTerminal, node.pass.map fun pass =>
          pass.queue.map fun snapshot => snapshot.intentId.isSome || snapshot.settlement.isSome)) =
        some (true, some [false])) ∧
      (sampleNode.run sampleBudget sampleRuntime (staleRun .answered)).map (fun node =>
        (node.visitsTerminal, node.pass.map fun pass => pass.queue.map (·.requestId),
          (node.run sampleBudget sampleRuntime
            [.recoverNext, .recoverSettle .answered 400000000, .recoverResume]).map fun final =>
              ((final.registry.entry (sampleRequest '7')).isSome, final.pass.all fun pass =>
                match pass.activity with
                | .idle => true
                | _ => false))) =
        some (true, some [sampleRequest '7'], some (true, true)) := by
  decide +kernel

/-- An entry that has to look its intent up is removed. -/
theorem recovery_removes_iff_sample : ∃ (node : Node) (snapshot : ActiveBudgetIntentSnapshot)
    (queue : List ActiveBudgetIntentSnapshot) (final : Node),
    sampleNode.run sampleBudget sampleRuntime (staleRun .lost) = some node ∧
      node.pass = some ⟨snapshot :: queue, .idle⟩ ∧ node.Visits sampleBudget sampleRuntime final ∧
      final.registry.entry snapshot.requestId = none := by
  obtain ⟨node, hNode, hFields⟩ := Option.map_eq_some_iff.mp staleRun_views.1
  obtain ⟨hVisits, hUnknown⟩ := Prod.mk.inj hFields
  obtain ⟨snapshot, queue, create, row, hPass, hDead, hCreated, hRow, hAnswers, hTerminal⟩ :=
    Node.visitsTerminal_spec hVisits
  have hReachable := staleRun_reachable hNode
  have hEntry := (hReachable.sound.pass _ hPass).queue snapshot List.mem_cons_self hDead
  obtain ⟨⟨final, hFinal⟩, hRemoved⟩ := recovery_removes_iff sampleBudget_standard
    hReachable hPass hEntry hCreated hRow hAnswers hTerminal
  refine ⟨node, snapshot, queue, final, hNode, hPass, hFinal,
    (hRemoved final hFinal).mpr ⟨hDead, ?_⟩⟩
  simp only [hPass, Option.map_some, List.map_cons, Option.some.injEq, List.cons.injEq,
    Bool.or_eq_false_iff, Option.isSome_eq_false_iff, Option.isNone_iff_eq_none] at hUnknown
  unfold ActiveBudgetIntentData.Agrees
  rw [hUnknown.1.1, hUnknown.1.2]
  trivial

/-- An entry that knows its intent sends another command than the one that settled it, and stays. -/
theorem staleRun_kept : ∃ (node : Node) (snapshot : ActiveBudgetIntentSnapshot)
    (queue : List ActiveBudgetIntentSnapshot) (create : CreateBudgetIntent) (row : LedgerRow)
    (final : Node),
    node.Reachable sampleBudget sampleRuntime ∧ node.pass = some ⟨snapshot :: queue, .idle⟩ ∧
      snapshot.guardAlive = false ∧ snapshot.createCommand = some create ∧
      node.sys.db.ledger.lookup create.intentId = some row ∧ row.Answers create ∧
      row.Terminal ∧ node.Visits sampleBudget sampleRuntime final ∧
      final.registry.entry snapshot.requestId ≠ none := by
  obtain ⟨node, hNode, hFields⟩ := Option.map_eq_some_iff.mp staleRun_views.2
  obtain ⟨hVisits, hRest⟩ := Prod.mk.inj hFields
  obtain ⟨hQueue, hVisit⟩ := Prod.mk.inj hRest
  obtain ⟨snapshot, queue, create, row, hPass, hDead, hCreated, hRow, hAnswers, hTerminal⟩ :=
    Node.visitsTerminal_spec hVisits
  obtain ⟨final, hFinal, hEnd⟩ := Option.map_eq_some_iff.mp hVisit
  obtain ⟨hKept, hIdle⟩ := Prod.mk.inj hEnd
  refine ⟨node, snapshot, queue, create, row, final, staleRun_reachable hNode, hPass, hDead,
    hCreated, hRow, hAnswers, hTerminal, Node.visits_of_run hFinal fun pass hFinalPass => ?_, ?_⟩
  · rw [hFinalPass, Option.all_some] at hIdle
    split at hIdle
    · assumption
    · cases hIdle
  · simp only [hPass, Option.map_some, List.map_cons, Option.some.injEq, List.cons.injEq] at hQueue
    rw [hQueue.1]
    exact Option.isSome_iff_ne_none.mp hKept

end KongRust.Enforcement

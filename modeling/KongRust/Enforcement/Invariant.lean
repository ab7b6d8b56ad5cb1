import KongRust.Enforcement.System

/-!
# What a node keeps

An entry, the context of its request and every command they carry belong to one creation: the one
that the hook built when it reserved the entry. A request that holds a guard has a live entry, no
two requests hold guards of one entry, and an entry without a guard is changed by nothing but the
recovery pass that works on it. Each piece of code keeps this, so every run does.
-/

namespace KongRust.Enforcement

open Budget Fallible Transaction ActiveBudgetIntentRegistry

/-! ## Commands of one creation -/

/-- The creation is the one that the hook builds for the request. -/
def CreatesFor (libs : Libraries) (runtime : SupportedBudgetRuntime) (requestId : String)
    (create : CreateBudgetIntent) : Prop :=
  create = createCommand libs runtime requestId create.virtualKeyId create.intentId
    create.pricingSnapshot

/-- The command settles the intent of a creation. -/
structure SettlesFor (libs : Libraries) (create : CreateBudgetIntent)
    (command : SettleBudgetIntent) : Prop where
  intentId : command.intentId = create.intentId
  virtualKeyId : command.virtualKeyId = create.virtualKeyId
  requestId : command.requestId = create.requestId
  operationId : command.operationId = "budget-settle:v1:" ++ create.requestId
  fingerprint : command.commandFingerprint = settlementFingerprint libs.toExternal
    create.requestId create.virtualKeyId create.intentId command.cost.status
    command.cost.amountUsd command.cost.reasons command.usageFactId
  pricing : command.pricingFingerprint = create.pricingFingerprint
  reasons : KnownReasons command.cost.reasons

def guardedStates : List ActiveBudgetIntentState :=
  [.preparing, .activePrepared, .dispatchCommitPending, .activeDispatching]

/-- An entry belongs to a creation. -/
structure ActiveBudgetIntentData.BelongsTo (libs : Libraries) (data : ActiveBudgetIntentData)
    (create : CreateBudgetIntent) : Prop where
  created : data.createCommand = some create
  intentId : ∀ id, data.intentId = some id → id = create.intentId
  settlement : ∀ command, data.settlement = some command → SettlesFor libs create command
  unknown : data.intentId = none ↔ data.state = .preparing ∨ data.state = .needsIntentLookup
  dropped : data.guardAlive = false → data.state ∉ guardedStates
  fact : data.state = .retryWithFact → data.settlement ≠ none

/-- The context of a request belongs to a creation. -/
structure AiBudgetRequestContext.BelongsTo (libs : Libraries) (budget : AiBudgetRequestContext)
    (create : CreateBudgetIntent) : Prop where
  created : budget.createCommand = some create
  virtualKeyId : budget.virtualKeyId = create.virtualKeyId
  pricing : budget.pricingFingerprint = some create.pricingFingerprint
  intentId : ∀ id, budget.intentId = some id → id = create.intentId
  settlement : ∀ command, budget.settlementCommand = some command → SettlesFor libs create command

/-- A context before the hook, or after a creation that certainly failed. -/
structure AiBudgetRequestContext.Blank (budget : AiBudgetRequestContext) : Prop where
  created : budget.createCommand = none
  intentId : budget.intentId = none
  settlement : budget.settlementCommand = none
  guard : budget.guard = none

section Commands

variable {libs : Libraries} {runtime : SupportedBudgetRuntime} {requestId : String}
  {create : CreateBudgetIntent}

theorem CreatesFor.requestId_eq (h : CreatesFor libs runtime requestId create) :
    create.requestId = requestId := by
  rw [h]
  rfl

variable {intentId : Uuid} {command : SettleBudgetIntent}

theorem settlesFor_of_settlementCommand {pricingFingerprint : String} {usageFactId : Option Uuid}
    {cost : BudgetCostOutcome}
    (h : settlementCommand libs intentId create.virtualKeyId create.requestId pricingFingerprint
      usageFactId cost = .ok command) (hIntent : intentId = create.intentId)
    (hPricing : pricingFingerprint = create.pricingFingerprint) (hFew : cost.reasons.length ≤ 6)
    (hKnown : ∀ reason ∈ cost.reasons, reason ∈ KNOWN_REASONS) :
    SettlesFor libs create command := by
  obtain ⟨cost', hCost, hCommand⟩ := bind_eq_ok.mp h
  cases hCommand
  subst hIntent hPricing
  exact ⟨rfl, rfl, rfl, rfl, rfl, rfl, normalizedOutcome_reasons hCost hFew hKnown⟩

theorem recoveryCommand_settlesFor {unresolved : Bool} (hRequest : create.requestId = requestId)
    (hIntent : intentId = create.intentId)
    (h : recoveryCommand libs create requestId intentId unresolved = .ok command) :
    SettlesFor libs create command := by
  subst hRequest
  refine settlesFor_of_settlementCommand h hIntent rfl ?_ ?_
  · cases unresolved <;> simp [recoveryCost, unavailableCost, notIncurredCost]
  · cases unresolved <;> simp [recoveryCost, unavailableCost, notIncurredCost, KNOWN_REASONS]

theorem ActiveBudgetIntentData.BelongsTo.transition {data : ActiveBudgetIntentData}
    (h : data.BelongsTo libs create) {next : ActiveBudgetIntentState} {intentId : Option Uuid}
    {settlement : Option SettleBudgetIntent}
    (hIntent : ∀ id, intentId = some id → id = create.intentId)
    (hSettlement : ∀ command, settlement = some command → SettlesFor libs create command)
    (hKnown : intentId ≠ none ∨ data.intentId ≠ none)
    (hNext : next ≠ .preparing ∧ next ≠ .needsIntentLookup)
    (hDropped : data.guardAlive = false → next ∉ guardedStates)
    (hFact : next = .retryWithFact → settlement ≠ none ∨ data.settlement ≠ none) :
    ({ data with
      intentId := intentId.or data.intentId
      settlement := settlement.or data.settlement
      state := next } : ActiveBudgetIntentData).BelongsTo libs create where
  created := h.created
  intentId id hId := by
    rcases Option.or_eq_some_iff.mp hId with hNew | ⟨-, hOld⟩
    · exact hIntent id hNew
    · exact h.intentId id hOld
  settlement command hCommand := by
    rcases Option.or_eq_some_iff.mp hCommand with hNew | ⟨-, hOld⟩
    · exact hSettlement command hNew
    · exact h.settlement command hOld
  unknown := by
    simp only [Option.or_eq_none_iff, hNext.1, hNext.2, or_self, iff_false, not_and_or]
    exact hKnown
  dropped := hDropped
  fact hNextFact := by
    simp only [ne_eq, Option.or_eq_none_iff, not_and_or]
    exact hFact hNextFact

end Commands

/-! ## The code of a request -/

/-- What the code of a request works on belongs to a creation, and a guard is one of a live
entry. -/
structure Scope.Holds (libs : Libraries) (requestId : String) (create : CreateBudgetIntent)
    (scope : Scope) : Prop where
  budget : scope.budget.BelongsTo libs create
  guard : ∀ guard, scope.budget.guard = some guard → guard.requestId = requestId ∧
    ∃ data, scope.registry.entry requestId = some data ∧ data.guardAlive ∧
      data.BelongsTo libs create

/-- What a piece of the code of a request writes: the entry of its own request, under its guard,
which it releases only when it may. -/
structure Scope.Local (requestId : String) (mayRelease : Prop) (scope scope' : Scope) : Prop where
  frame : ∀ other, other ≠ requestId → scope'.registry.entry other = scope.registry.entry other
  free : scope.budget.guard = none → scope'.budget.guard = none ∧
    ∀ other, scope'.registry.entry other = scope.registry.entry other
  released : scope.budget.guard ≠ none → scope'.budget.guard = none →
    scope'.registry.entry requestId = none ∧ mayRelease

/-- A piece of code that stays with its creation. -/
structure Scope.Handles (libs : Libraries) (requestId : String) (create : CreateBudgetIntent)
    (mayRelease : Prop) (scope scope' : Scope) : Prop
    extends Scope.Local requestId mayRelease scope scope' where
  holds : scope'.Holds libs requestId create

/-- An answer to a creation that has a record has the one of its intent. -/
def AnswersFor (command : CreateBudgetIntent)
    (answer : Option (Except BudgetStoreError BudgetIntent)) : Prop :=
  ∀ intent record, answer = some (.ok intent) → intent.record = some record →
    record.id = command.intentId

theorem answersFor_none {command : CreateBudgetIntent} : AnswersFor command none := by
  simp [AnswersFor]

/-- The call that a request awaits is one of its creation. -/
def Activity.Fits (libs : Libraries) (budget : AiBudgetRequestContext) : Activity → Prop
  | .creating command answer =>
    budget.guard ≠ none ∧ budget.createCommand = some command ∧ budget.intentId = none ∧
      budget.settlementCommand = none ∧ AnswersFor command answer
  | .dispatching _ _ => True
  | .replaying _ command answer =>
    budget.createCommand = some command ∧ AnswersFor command answer
  | .settling _ command _ =>
    ∃ create, budget.createCommand = some create ∧ SettlesFor libs create command

/-- What a piece of the code of a request leaves behind. -/
structure Scope.Goes (libs : Libraries) (requestId : String) (create : CreateBudgetIntent)
    (mayRelease : Prop) (scope : Scope) (outcome : Scope × Progress) : Prop
    extends Scope.Local requestId mayRelease scope outcome.1 where
  after : outcome.1.Holds libs requestId create ∨ outcome.1.budget.Blank
  awaits : ∀ call, outcome.2 = .awaits call → call.start.Fits libs outcome.1.budget
  /-- Only a hook that reserves an entry creates. -/
  creates : ∀ command, outcome.2 ≠ .awaits (.creating command)

section Code

variable {libs : Libraries} {runtime : SupportedBudgetRuntime} {requestId : String}
  {create : CreateBudgetIntent} {mayRelease : Prop} {scope scope' scope'' : Scope}

namespace Scope

theorem Local.refl (scope : Scope) : Local requestId mayRelease scope scope :=
  ⟨fun _ _ => rfl, fun hFree => ⟨hFree, fun _ => rfl⟩, fun hHeld hFree => absurd hFree hHeld⟩

theorem Local.trans (h : Local requestId mayRelease scope scope')
    (h' : Local requestId mayRelease scope' scope'') :
    Local requestId mayRelease scope scope'' where
  frame other hOther := (h'.frame other hOther).trans (h.frame other hOther)
  free hFree := by
    obtain ⟨hFree', hSame⟩ := h.free hFree
    obtain ⟨hFree'', hSame'⟩ := h'.free hFree'
    exact ⟨hFree'', fun other => (hSame' other).trans (hSame other)⟩
  released hHeld hFree'' := by
    by_cases hFree' : scope'.budget.guard = none
    · obtain ⟨hGone, hMay⟩ := h.released hHeld hFree'
      exact ⟨((h'.free hFree').2 requestId).trans hGone, hMay⟩
    · exact h'.released hFree' hFree''

theorem Handles.refl (h : scope.Holds libs requestId create) :
    Handles libs requestId create mayRelease scope scope :=
  ⟨.refl scope, h⟩

theorem Handles.trans (h : Handles libs requestId create mayRelease scope scope')
    (h' : Handles libs requestId create mayRelease scope' scope'') :
    Handles libs requestId create mayRelease scope scope'' :=
  ⟨h.toLocal.trans h'.toLocal, h'.holds⟩

section

variable (h : scope.Holds libs requestId create)
include h

theorem Handles.budget {budget : AiBudgetRequestContext} (hBudget : budget.BelongsTo libs create)
    (hGuard : budget.guard = scope.budget.guard) :
    Handles libs requestId create mayRelease scope { scope with budget := budget } where
  holds := ⟨hBudget, fun guard hSome => h.guard guard (hGuard.symm.trans hSome)⟩
  frame _ _ := rfl
  free hFree := ⟨hGuard.trans hFree, fun _ => rfl⟩
  released hHeld hFree := absurd (hGuard.symm.trans hFree) hHeld

theorem handles_setState (state : BudgetRequestState) :
    Handles libs requestId create mayRelease scope (scope.setState state) :=
  .budget h ⟨h.budget.created, h.budget.virtualKeyId, h.budget.pricing, h.budget.intentId,
    h.budget.settlement⟩ rfl

theorem handles_setPrepared {intentId : Uuid}
    (hIntent : intentId = create.intentId) :
    Handles libs requestId create mayRelease scope (scope.setPrepared intentId) := by
  refine .budget h ⟨h.budget.created, h.budget.virtualKeyId, h.budget.pricing, ?_,
    h.budget.settlement⟩ rfl
  rintro _ ⟨rfl⟩
  exact hIntent

theorem handles_setSettlement
    {command : SettleBudgetIntent} (hSettles : SettlesFor libs create command) :
    Handles libs requestId create mayRelease scope (scope.setSettlement command) := by
  refine .budget h ⟨h.budget.created, h.budget.virtualKeyId, h.budget.pricing, h.budget.intentId,
    ?_⟩ rfl
  rintro _ ⟨rfl⟩
  exact hSettles

theorem handles_acknowledge (hMay : mayRelease) :
    Handles libs requestId create mayRelease scope scope.acknowledge := by
  unfold acknowledge
  split
  · exact .refl h
  · next guard hGuard =>
    obtain ⟨hId, -⟩ := h.guard guard hGuard
    rw [hId]
    refine ⟨⟨fun other hOther => ?_, fun hFree => ?_, fun _ _ => ?_⟩, ⟨?_, nofun⟩⟩
    · exact entry_acknowledge_ne hOther
    · simp [hGuard] at hFree
    · exact ⟨entry_acknowledge, hMay⟩
    · exact ⟨h.budget.created, h.budget.virtualKeyId, h.budget.pricing, h.budget.intentId,
        h.budget.settlement⟩

theorem handles_guarded {operation : BudgetIntentGuard → ActiveBudgetIntentRegistry →
      Except BudgetIntentRegistryError ActiveBudgetIntentRegistry}
    (hOperation : ∀ guard data registry', guard.requestId = requestId →
      scope.registry.entry requestId = some data → data.guardAlive → data.BelongsTo libs create →
      operation guard scope.registry = .ok registry' → ∃ data',
        registry' = scope.registry.put requestId data' ∧ data'.guardAlive ∧
          data'.BelongsTo libs create)
    (hRun : scope.guarded operation = .ok scope') :
    Handles libs requestId create mayRelease scope scope' := by
  unfold guarded at hRun
  split at hRun
  · cases hRun
  · next guard hGuard =>
    split at hRun
    · cases hRun
    · next registry' hOk =>
      cases hRun
      obtain ⟨hId, data, hEntry, hAlive, hBelongs⟩ := h.guard guard hGuard
      obtain ⟨data', rfl, hAlive', hBelongs'⟩ :=
        hOperation guard data registry' hId hEntry hAlive hBelongs hOk
      refine ⟨⟨fun other hOther => ?_, fun hFree => ?_, fun hHeld hFree => absurd hFree hHeld⟩,
        h.budget, fun guard' hGuard' => ?_⟩
      · exact entry_put_ne hOther
      · simp [hGuard] at hFree
      · exact ⟨(h.guard guard' hGuard').1, data', entry_put, hAlive', hBelongs'⟩

end

end Scope

/-! ### Operations of the guard -/

theorem transition_keeps {registry registry' : ActiveBudgetIntentRegistry}
    {data : ActiveBudgetIntentData} {expected : List ActiveBudgetIntentState}
    {next : ActiveBudgetIntentState} {intentId : Option Uuid}
    {settlement : Option SettleBudgetIntent} (hEntry : registry.entry requestId = some data)
    (hAlive : data.guardAlive) (hBelongs : data.BelongsTo libs create)
    (h : registry.transition requestId expected next intentId settlement = .ok registry')
    (hIntent : ∀ id, intentId = some id → id = create.intentId)
    (hSettlement : ∀ command, settlement = some command → SettlesFor libs create command)
    (hKnown : intentId ≠ none ∨ ∀ state ∈ expected, state ≠ .preparing ∧ state ≠ .needsIntentLookup)
    (hNext : next ≠ .preparing ∧ next ≠ .needsIntentLookup)
    (hFact : next = .retryWithFact → settlement ≠ none) :
    ∃ data', registry' = registry.put requestId data' ∧ data'.guardAlive ∧
      data'.BelongsTo libs create := by
  obtain ⟨found, hFound, hState, rfl⟩ := transition_ok h
  obtain rfl : data = found := Option.mem_unique hEntry hFound
  refine ⟨_, rfl, hAlive, hBelongs.transition hIntent hSettlement ?_ hNext ?_ ?_⟩
  · refine hKnown.imp_right fun hStates hNone => ?_
    obtain ⟨hPreparing, hLookup⟩ := hStates _ hState
    exact (hBelongs.unknown.mp hNone).elim hPreparing hLookup
  · intro hDropped
    simp [hAlive] at hDropped
  · exact fun hRetry => .inl (hFact hRetry)

namespace Scope

variable {intentId : Uuid} {answer : Except BudgetStoreError BudgetIntent} {final : Bool}

theorem handles_markPrepared (h : scope.Holds libs requestId create)
    (hIntent : intentId = create.intentId)
    (hRun : scope.guarded (fun guard registry => guard.markPrepared registry intentId) =
      .ok scope') :
    Handles libs requestId create mayRelease scope scope' := by
  refine handles_guarded h (fun guard data registry' hId hEntry hAlive hBelongs hOk => ?_) hRun
  subst hId
  refine transition_keeps hEntry hAlive hBelongs hOk ?_ nofun (.inl (by simp)) (by simp) nofun
  rintro _ ⟨rfl⟩
  exact hIntent

variable
  {operation : BudgetIntentGuard → ActiveBudgetIntentRegistry →
    Except BudgetIntentRegistryError ActiveBudgetIntentRegistry}
  {expected : List ActiveBudgetIntentState} {next : ActiveBudgetIntentState}

/-- A mark that only moves the state of the entry. -/
theorem handles_mark (h : scope.Holds libs requestId create)
    (hRun : scope.guarded operation = .ok scope')
    (hOperation : ∀ guard registry, operation guard registry =
      registry.transition guard.requestId expected next none none)
    (hStates : ∀ state ∈ next :: expected, state ≠ .preparing ∧ state ≠ .needsIntentLookup)
    (hFact : next ≠ .retryWithFact) : Handles libs requestId create mayRelease scope scope' := by
  refine handles_guarded h (fun guard data registry' hId hEntry hAlive hBelongs hOk => ?_) hRun
  subst hId
  rw [hOperation] at hOk
  obtain ⟨hNext, hExpected⟩ := List.forall_mem_cons.mp hStates
  exact transition_keeps hEntry hAlive hBelongs hOk nofun nofun (.inr hExpected) hNext
    fun hRetry => absurd hRetry hFact

theorem handles_recordSettlement {command : SettleBudgetIntent}
    (h : scope.Holds libs requestId create) (hSettles : SettlesFor libs create command)
    (hOperation : ∀ guard registry, operation guard registry =
      (validateSettlementCommand guard.requestId command >>= fun _ =>
        registry.transition guard.requestId expected next (some command.intentId) (some command)))
    (hNext : next ≠ .preparing ∧ next ≠ .needsIntentLookup)
    (hRun : scope.guarded operation = .ok scope') :
    Handles libs requestId create mayRelease scope scope' := by
  refine handles_guarded h (fun guard data registry' hId hEntry hAlive hBelongs hOk => ?_) hRun
  subst hId
  rw [hOperation] at hOk
  obtain ⟨-, -, hTransition⟩ := bind_eq_ok.mp hOk
  refine transition_keeps hEntry hAlive hBelongs hTransition ?_ ?_ (.inl (by simp)) hNext
    fun _ => by simp
  · rintro _ ⟨rfl⟩
    exact hSettles.intentId
  · rintro _ ⟨rfl⟩
    exact hSettles

/-! ### Pieces of code -/

section

variable (h : Handles libs requestId create mayRelease scope scope')
include h

theorem Handles.returns (result : Except LifecycleHookError Unit) :
    Goes libs requestId create mayRelease scope (scope', .returned result) :=
  ⟨h.toLocal, .inl h.holds, by simp, by simp⟩

theorem Handles.awaits {call : Await}
    (hFits : call.start.Fits libs scope'.budget) (hCall : ∀ command, call ≠ .creating command) :
    Goes libs requestId create mayRelease scope (scope', .awaits call) := by
  refine ⟨h.toLocal, .inl h.holds, ?_, fun command hCreating => ?_⟩
  · rintro _ ⟨rfl⟩
    exact hFits
  · exact hCall command (by simpa using hCreating)

theorem Goes.after_handles {outcome : Scope × Progress}
    (h' : Goes libs requestId create mayRelease scope' outcome) :
    Goes libs requestId create mayRelease scope outcome :=
  ⟨h.toLocal.trans h'.toLocal, h'.after, h'.awaits, h'.creates⟩

end

section

variable (h : scope.Holds libs requestId create)
include h

theorem hookPrepared_goes (hIntent : intentId = create.intentId) :
    Goes libs requestId create mayRelease scope
      (hookPrepared runtime requestId intentId scope) := by
  unfold hookPrepared
  split
  · exact (Handles.refl h).returns _
  · next marked hMarked =>
    have hMark : Handles libs requestId create mayRelease scope marked :=
      handles_markPrepared h hIntent hMarked
    have hPrepared := hMark.trans (handles_setPrepared hMark.holds hIntent)
    dsimp only
    split
    · exact hPrepared.returns _
    · next pending hPending =>
      have hPend := hPrepared.trans
        (handles_mark hPrepared.holds hPending (fun _ _ => rfl) (by simp) (by simp))
      exact (hPend.trans (handles_setState hPend.holds _)).awaits trivial (by simp)

/-- The hook releases its entry after a paused creation and after one that certainly failed. -/
theorem hookCreated_goes (hFits : (Activity.creating create (some answer)).Fits libs scope.budget)
    (hPaused : ∀ intent, answer = .ok intent → intent.disposition = .paused → mayRelease)
    (hFailed : ∀ error, answer = .error error → error.kind ≠ .outcomeUnknown → mayRelease) :
    Goes libs requestId create mayRelease scope
      (hookCreated runtime requestId answer scope) := by
  obtain ⟨hGuard, -, hIntent, hSettlement, hAnswers⟩ := hFits
  unfold hookCreated
  split
  · next error =>
    split
    · exact (Handles.refl h).returns _
    · next hKind =>
      have hRelease := handles_acknowledge h (hFailed error rfl hKind)
      have hFree : scope.acknowledge.budget.guard = none := by
        unfold acknowledge
        split
        · next hNone => exact absurd hNone hGuard
        · rfl
      refine ⟨⟨hRelease.frame, fun hFree' => absurd hFree' hGuard, fun hHeld _ =>
        hRelease.released hHeld hFree⟩, .inr ⟨rfl, ?_, ?_, hFree⟩, by simp, by simp⟩
      · change scope.acknowledge.budget.intentId = none
        unfold acknowledge
        split <;> exact hIntent
      · change scope.acknowledge.budget.settlementCommand = none
        unfold acknowledge
        split <;> exact hSettlement
  · next intent =>
    split
    · next hDisposition =>
      have hState : Handles libs requestId create mayRelease scope (scope.setState .paused) :=
        handles_setState h .paused
      exact (hState.trans (handles_acknowledge hState.holds
        (hPaused intent rfl hDisposition))).returns _
    · split
      · exact (Handles.refl h).returns _
      · next record hRecord => exact hookPrepared_goes h (hAnswers intent record rfl hRecord)

theorem hookDispatched_goes :
    Goes libs requestId create mayRelease scope (hookDispatched answer scope) := by
  unfold hookDispatched
  split
  · exact (Handles.refl h).returns _
  · split
    · exact (Handles.refl h).returns _
    · next marked hMarked =>
      have hMark : Handles libs requestId create mayRelease scope marked :=
        handles_mark h hMarked (fun _ _ => rfl) (by simp) (by simp)
      exact (hMark.trans (handles_setState hMark.holds _)).returns _

end

theorem settlementParts_ok {budget : AiBudgetRequestContext} {intentId : Uuid}
    {pricingFingerprint : String} (h : budget.BelongsTo libs create)
    (hParts : settlementParts budget = .ok (intentId, pricingFingerprint)) :
    intentId = create.intentId ∧ pricingFingerprint = create.pricingFingerprint := by
  obtain ⟨id, hId, hRest⟩ := bind_eq_ok.mp hParts
  obtain ⟨fingerprint, hFingerprint, hPair⟩ := bind_eq_ok.mp hRest
  cases hPair
  rw [h.pricing] at hFingerprint
  cases hFingerprint
  refine ⟨?_, rfl⟩
  cases hKnown : budget.intentId with
  | none =>
    rw [hKnown] at hId
    cases hId
  | some known =>
    rw [hKnown] at hId
    cases hId
    exact h.intentId _ hKnown

/-- What a preparation leaves behind: a settlement of the creation, if any. -/
structure Prepares (libs : Libraries) (requestId : String) (create : CreateBudgetIntent)
    (mayRelease : Prop) (scope : Scope)
    (outcome : Scope × Except LifecycleHookError (Option SettleBudgetIntent)) : Prop where
  handles : Handles libs requestId create mayRelease scope outcome.1
  settles : ∀ command, outcome.2 = .ok (some command) → SettlesFor libs create command

theorem prepareSafeZeroSettlement_prepares (h : scope.Holds libs requestId create)
    (hRequest : create.requestId = requestId) :
    Prepares libs requestId create mayRelease scope
      (prepareSafeZeroSettlement libs requestId scope) := by
  unfold prepareSafeZeroSettlement
  dsimp only
  split
  · exact ⟨.refl h, nofun⟩
  split
  · exact ⟨.refl h, nofun⟩
  split
  · next command hCommand =>
    refine ⟨.refl h, ?_⟩
    rintro _ ⟨rfl⟩
    exact h.budget.settlement _ hCommand
  split
  · exact ⟨.refl h, nofun⟩
  · next command hCommand =>
    have hSettles : SettlesFor libs create command := by
      obtain ⟨⟨intentId, pricingFingerprint⟩, hParts, hBuilt⟩ := bind_eq_ok.mp hCommand
      obtain ⟨hIntent, hPricing⟩ := settlementParts_ok h.budget hParts
      rw [h.budget.virtualKeyId, ← hRequest] at hBuilt
      exact settlesFor_of_settlementCommand hBuilt hIntent hPricing (by simp [notIncurredCost])
        (by simp [notIncurredCost, KNOWN_REASONS])
    split
    · exact ⟨.refl h, nofun⟩
    · next marked hMarked =>
      have hMark : Handles libs requestId create mayRelease scope marked :=
        handles_mark h hMarked (fun _ _ => rfl) (by simp [BudgetIntentGuard.safeZeroStates]) (by simp)
      split
      · exact ⟨hMark, nofun⟩
      · next recorded hRecorded =>
        have hRecord := hMark.trans
          (handles_recordSettlement hMark.holds hSettles (fun _ _ => rfl) (by simp) hRecorded)
        refine ⟨hRecord.trans (handles_setSettlement hRecord.holds hSettles), ?_⟩
        rintro _ ⟨rfl⟩
        exact hSettles

variable {upstreamAttempted : Bool} {fact : Option AiUsageFact}

theorem prepareFinalSettlement_prepares (h : scope.Holds libs requestId create)
    (hRequest : create.requestId = requestId) :
    Prepares libs requestId create mayRelease scope
      (prepareFinalSettlement libs requestId upstreamAttempted fact scope) := by
  unfold prepareFinalSettlement
  dsimp only
  split
  · exact ⟨.refl h, nofun⟩
  split
  · exact ⟨.refl h, nofun⟩
  split
  · next command hCommand =>
    refine ⟨.refl h, ?_⟩
    rintro _ ⟨rfl⟩
    exact h.budget.settlement _ hCommand
  split
  · exact ⟨.refl h, nofun⟩
  · next command hCommand =>
    have hSettles : SettlesFor libs create command := by
      obtain ⟨⟨intentId, pricingFingerprint⟩, hParts, hRest⟩ := bind_eq_ok.mp hCommand
      obtain ⟨found, hFound, hBuilt⟩ := bind_eq_ok.mp hRest
      obtain ⟨hIntent, hPricing⟩ := settlementParts_ok h.budget hParts
      obtain ⟨hFew, hKnown⟩ := costFromFact_reasons libs fact requestId
        scope.budget.virtualKeyId upstreamAttempted pricingFingerprint found.pricingSnapshot
      rw [h.budget.virtualKeyId, ← hRequest] at hBuilt hFew hKnown
      exact settlesFor_of_settlementCommand hBuilt hIntent hPricing hFew hKnown
    split
    · exact ⟨.refl h, nofun⟩
    · next recorded hRecorded =>
      have hRecord : Handles libs requestId create mayRelease scope recorded :=
        handles_recordSettlement h hSettles (fun _ _ => rfl) (by simp) hRecorded
      refine ⟨hRecord.trans (handles_setSettlement hRecord.holds hSettles), ?_⟩
      rintro _ ⟨rfl⟩
      exact hSettles

theorem settlePrepared_goes
    {prepared : Scope × Except LifecycleHookError (Option SettleBudgetIntent)}
    (h : Prepares libs requestId create mayRelease scope prepared) :
    Goes libs requestId create mayRelease scope (settlePrepared final prepared) := by
  unfold settlePrepared
  split
  · exact h.handles.returns _
  · exact h.handles.returns _
  · next command =>
    exact h.handles.awaits ⟨create, h.handles.holds.budget.created, h.settles command rfl⟩ (by simp)

section

variable (h : scope.Holds libs requestId create)
include h

theorem settled_goes {answer : Except BudgetStoreError BudgetSettlement}
    (hSettled : ∀ settlement, answer = .ok settlement → mayRelease) :
    Goes libs requestId create mayRelease scope (settled final answer scope) := by
  unfold settled
  split
  · exact (handles_setState h _).returns _
  · next settlement =>
    have hRelease := handles_acknowledge h (hSettled settlement rfl)
    cases final with
    | false => exact hRelease.returns _
    | true => exact (hRelease.trans (handles_setState hRelease.holds _)).returns _

section

variable (hRequest : create.requestId = requestId)
include hRequest

theorem compensateBegin_goes :
    Goes libs requestId create mayRelease scope (compensateBegin libs requestId scope) := by
  unfold compensateBegin
  split
  · next command hCommand =>
    exact (Handles.refl h).awaits ⟨hCommand, answersFor_none⟩ (by simp)
  · exact settlePrepared_goes (prepareSafeZeroSettlement_prepares h hRequest)

theorem finalizeBegin_goes :
    Goes libs requestId create mayRelease scope
      (finalizeBegin libs requestId upstreamAttempted fact scope) := by
  unfold finalizeBegin
  split
  · next command _ hCommand _ =>
    exact (Handles.refl h).awaits ⟨hCommand, answersFor_none⟩ (by simp)
  · exact settlePrepared_goes (prepareFinalSettlement_prepares h hRequest)

theorem replayed_goes (hAnswers : AnswersFor create (some answer))
    (hPaused : ∀ intent, answer = .ok intent → intent.disposition = .paused → mayRelease) :
    Goes libs requestId create mayRelease scope (replayed libs requestId final answer scope) := by
  unfold replayed
  split
  · exact (Handles.refl h).returns _
  · next intent =>
    split
    · next hDisposition =>
      have hState : Handles libs requestId create mayRelease scope (scope.setState .paused) :=
        handles_setState h .paused
      have hRelease := hState.trans (handles_acknowledge hState.holds
        (hPaused intent rfl hDisposition))
      exact .after_handles hRelease
        (settlePrepared_goes (prepareSafeZeroSettlement_prepares hRelease.holds hRequest))
    · split
      · exact (Handles.refl h).returns _
      · next record hRecord =>
        have hIntent := hAnswers intent record rfl hRecord
        split
        · exact (Handles.refl h).returns _
        · next marked hMarked =>
          have hMark : Handles libs requestId create mayRelease scope marked :=
            handles_markPrepared h hIntent hMarked
          have hPrepared := hMark.trans (handles_setPrepared hMark.holds hIntent)
          exact .after_handles hPrepared
            (settlePrepared_goes (prepareSafeZeroSettlement_prepares hPrepared.holds hRequest))

end

end

/-- A hook that reserved an entry of its own and awaits the creation of its intent. -/
structure Reserves (libs : Libraries) (runtime : SupportedBudgetRuntime) (requestId : String)
    (create : CreateBudgetIntent) (scope : Scope) (outcome : Scope × Progress) : Prop where
  builds : CreatesFor libs runtime requestId create
  absent : scope.registry.entry requestId = none
  frame : ∀ other, other ≠ requestId →
    outcome.1.registry.entry other = scope.registry.entry other
  holds : outcome.1.Holds libs requestId create
  guard : outcome.1.budget.guard ≠ none
  awaits : outcome.2 = .awaits (.creating create)
  fits : (Activity.creating create none).Fits libs outcome.1.budget

/-- A hook that returned before it held an entry. -/
structure Refuses (scope : Scope) (outcome : Scope × Progress) : Prop where
  budget : outcome.1.budget = scope.budget
  entry : ∀ other, outcome.1.registry.entry other = scope.registry.entry other
  returned : ∃ result, outcome.2 = .returned result

theorem hookBegin_cases (h : scope.budget.Blank) {snapshot : BudgetPricingSnapshot} :
    Refuses scope (hookBegin libs runtime requestId intentId snapshot scope) ∨
      ∃ create, Reserves libs runtime requestId create scope
        (hookBegin libs runtime requestId intentId snapshot scope) := by
  unfold hookBegin
  split
  · exact .inl ⟨rfl, fun _ => rfl, _, rfl⟩
  dsimp only
  split
  · exact .inl ⟨rfl, fun _ => rfl, _, rfl⟩
  · next reserved hReserved =>
    obtain ⟨hAbsent, hEntry, hFrame⟩ := tryReserve_ok hReserved
    unfold BudgetIntentGuard.recordCreateCommand
    cases hValid : validateCreateCommand libs.toExternal requestId
        (createCommand libs runtime requestId scope.budget.virtualKeyId intentId snapshot) with
    | error error =>
      refine .inl ⟨rfl, fun other => ?_, _, rfl⟩
      dsimp only
      by_cases hOther : other = requestId
      · subst hOther
        simp [hAbsent]
      · rw [entry_guardDropped_ne hOther, entry_acknowledge_ne hOther, hFrame other hOther]
    | ok _ =>
      simp only [hEntry, ne_eq, not_true_eq_false, if_false, Option.isSome_none, Bool.false_eq_true]
      refine .inr ⟨createCommand libs runtime requestId scope.budget.virtualKeyId intentId
        snapshot, rfl, hAbsent, fun other hOther => ?_, ⟨?_, ?_⟩, ?_, rfl, ?_⟩
      · rw [entry_put_ne hOther, hFrame other hOther]
      · exact ⟨rfl, rfl, rfl, by simp [h.intentId], by simp [h.settlement]⟩
      · rintro _ ⟨rfl⟩
        refine ⟨rfl, _, entry_put, rfl, ?_⟩
        exact ⟨rfl, by simp, by simp, by simp, by simp, by simp⟩
      · simp
      · exact ⟨by simp, rfl, h.intentId, h.settlement, answersFor_none⟩

end Scope

end Code

/-! ## Recovery -/

/-- What the recovery of an entry works on: an entry without a guard, of a creation. -/
structure Visited (libs : Libraries) (requestId : String) (create : CreateBudgetIntent)
    (registry : ActiveBudgetIntentRegistry) : Prop where
  named : create.requestId = requestId
  entry : ∃ data, registry.entry requestId = some data ∧ data.guardAlive = false ∧
    data.BelongsTo libs create

/-- Where the recovery of an entry goes on: with a call for the entry it works on. -/
def Visit.Fits (libs : Libraries) (requestId : String) (registry : ActiveBudgetIntentRegistry) :
    Visit → Prop
  | .finished => True
  | .lookingUp create => Visited libs requestId create registry
  | .settling command =>
    ∃ create, Visited libs requestId create registry ∧ SettlesFor libs create command

/-- What a piece of the recovery of an entry writes: its own entry, which it removes only when it
may. -/
structure Recovers (libs : Libraries) (requestId : String) (create : CreateBudgetIntent)
    (mayRelease : Prop) (registry : ActiveBudgetIntentRegistry)
    (outcome : ActiveBudgetIntentRegistry × Visit) : Prop where
  frame : ∀ other, other ≠ requestId → outcome.1.entry other = registry.entry other
  after : Visited libs requestId create outcome.1 ∨
    (outcome.1.entry requestId = none ∧ mayRelease)
  fits : outcome.2.Fits libs requestId outcome.1

section Recovery

variable {libs : Libraries} {requestId : String} {create : CreateBudgetIntent}
  {mayRelease : Prop} {registry registry' : ActiveBudgetIntentRegistry}

theorem Recovers.finished (h : Visited libs requestId create registry) :
    Recovers libs requestId create mayRelease registry (registry, .finished) :=
  ⟨fun _ _ => rfl, .inl h, trivial⟩

theorem Recovers.removed (h : mayRelease) : Recovers libs requestId create mayRelease registry
      (registry.acknowledge requestId, .finished) :=
  ⟨fun _ hOther => entry_acknowledge_ne hOther, .inr ⟨entry_acknowledge, h⟩, trivial⟩

theorem visitKnown_recovers (h : Visited libs requestId create registry) {intentId : Uuid}
    (hIntent : intentId = create.intentId) {unresolved : Bool} :
    Recovers libs requestId create mayRelease registry
      (visitKnown libs registry create requestId intentId unresolved) := by
  unfold visitKnown
  split
  · exact .finished h
  · next command hCommand =>
    have hSettles := recoveryCommand_settlesFor h.named hIntent hCommand
    split
    · exact .finished h
    · next recorded hRecorded =>
      obtain ⟨-, -, hTransition⟩ := bind_eq_ok.mp hRecorded
      obtain ⟨data, hEntry, -, rfl⟩ := transition_ok hTransition
      obtain ⟨found, hFound, hDead, hBelongs⟩ := h.entry
      obtain rfl : found = data := Option.mem_unique hFound hEntry
      have hVisited : Visited libs requestId create (registry.put requestId { found with
          intentId := (some command.intentId).or found.intentId
          settlement := (some command).or found.settlement
          state := if unresolved then .needsUnresolved else .needsSafeZero }) := by
        refine ⟨h.named, _, entry_put, hDead, ?_⟩
        refine hBelongs.transition ?_ ?_ (.inl (by simp)) ?_ ?_ ?_
        · rintro _ ⟨rfl⟩
          exact hSettles.intentId
        · rintro _ ⟨rfl⟩
          exact hSettles
        all_goals cases unresolved <;> simp [guardedStates]
      exact ⟨fun _ hOther => entry_put_ne hOther, .inl hVisited, create, hVisited, hSettles⟩

variable {snapshot : ActiveBudgetIntentSnapshot}

theorem visitBegin_recovers
    (hEntry : registry.entry snapshot.requestId = some snapshot.toActiveBudgetIntentData)
    (hDead : snapshot.guardAlive = false) (hBelongs : snapshot.BelongsTo libs create)
    (hRequest : create.requestId = snapshot.requestId) :
    Recovers libs snapshot.requestId create mayRelease registry
      (visitBegin libs registry snapshot) := by
  have hVisited : Visited libs snapshot.requestId create registry :=
    ⟨hRequest, _, hEntry, hDead, hBelongs⟩
  unfold visitBegin
  simp only [hDead, Bool.false_eq_true, if_false, hBelongs.created]
  split
  · next command hCommand =>
    exact ⟨fun _ _ => rfl, .inl hVisited, create, hVisited, hBelongs.settlement _ hCommand⟩
  · split
    · exact ⟨fun _ _ => rfl, .inl hVisited, hVisited⟩
    · next intentId hIntent =>
      exact visitKnown_recovers hVisited (hBelongs.intentId _ hIntent)

/-- A recovery removes its entry when the lookup finds no intent or a finished one. -/
theorem visitLookedUp_recovers (h : Visited libs snapshot.requestId create registry)
    {answer : Except BudgetStoreError (Option BudgetIntentRecord)}
    (hAnswer : ∀ record, answer = .ok (some record) → record.id = create.intentId)
    (hAbsent : answer = .ok none → mayRelease)
    (hFinished : ∀ record, answer = .ok (some record) → record.state ≠ .prepared →
      record.state ≠ .dispatching → mayRelease) :
    Recovers libs snapshot.requestId create mayRelease registry
      (visitLookedUp libs registry snapshot create answer) := by
  unfold visitLookedUp
  split
  · exact .finished h
  · exact .removed (hAbsent rfl)
  · next record =>
    have hIntent := hAnswer record rfl
    split
    · dsimp only
      split
      · exact .finished h
      · next recovered hRecovered =>
        obtain ⟨data, hEntry, -, rfl⟩ := transition_ok hRecovered
        obtain ⟨found, hFound, hDead, hBelongs⟩ := h.entry
        obtain rfl : found = data := Option.mem_unique hFound hEntry
        have hVisited : Visited libs snapshot.requestId create
            (registry.put snapshot.requestId { found with
              intentId := (some record.id).or found.intentId
              settlement := (none : Option SettleBudgetIntent).or found.settlement
              state := if record.state == .dispatching then .needsUnresolved
                else .needsSafeZero }) := by
          refine ⟨h.named, _, entry_put, hDead, ?_⟩
          refine hBelongs.transition ?_ (by simp) (.inl (by simp)) ?_ ?_ ?_
          · rintro _ ⟨rfl⟩
            exact hIntent
          all_goals split <;> simp [guardedStates]
        have hKnown : Recovers libs snapshot.requestId create mayRelease _
            (visitKnown libs _ create snapshot.requestId record.id
              (snapshot.state == .needsUnresolved || record.state == .dispatching)) :=
          visitKnown_recovers hVisited hIntent
        exact ⟨fun other hOther => (hKnown.frame other hOther).trans
          (entry_put_ne hOther), hKnown.after, hKnown.fits⟩
    · next hState =>
      obtain ⟨hPrepared, hDispatching⟩ := not_or.mp hState
      exact .removed (hFinished record rfl hPrepared hDispatching)

theorem visitSettled_recovers (h : Visited libs snapshot.requestId create registry)
    {answer : Except BudgetStoreError BudgetSettlement}
    (hSettled : ∀ settlement, answer = .ok settlement → mayRelease) :
    Recovers libs snapshot.requestId create mayRelease registry
      (visitSettled registry snapshot answer, .finished) := by
  unfold visitSettled
  split
  · exact .finished h
  · next settlement => exact .removed (hSettled settlement rfl)

end Recovery

end KongRust.Enforcement

import KongRust.Enforcement.Invariant

/-!
# What every run of a node keeps

The invariant of a node and its proof, event by event: a request only changes the entry whose
guard it holds or reserves, a pass only the entry it works on, and these are never the same.
-/

namespace KongRust.Enforcement

open Budget Transaction ActiveBudgetIntentRegistry Node

/-! ## The invariant -/

structure Request.Sound (libs : Libraries) (runtime : SupportedBudgetRuntime)
    (registry : ActiveBudgetIntentRegistry) (request : Request) : Prop where
  context : request.budget.Blank ∨ ∃ create, CreatesFor libs runtime request.requestId create ∧
    Scope.Holds libs request.requestId create ⟨registry, request.budget⟩
  fits : ∀ activity, request.activity = some activity → activity.Fits libs request.budget
  fresh : request.stage = .inspected → request.budget.Blank ∧ request.activity = none

def PassActivity.Fits (libs : Libraries) (registry : ActiveBudgetIntentRegistry) :
    PassActivity → Prop
  | .idle => True
  | .lookingUp snapshot create answer =>
    Visited libs snapshot.requestId create registry ∧
      ∀ record, answer = some (.ok (some record)) → record.id = create.intentId
  | .settling snapshot command _ =>
    ∃ create, Visited libs snapshot.requestId create registry ∧ SettlesFor libs create command

def PassActivity.subject : PassActivity → List String
  | .idle => []
  | .lookingUp snapshot _ _ => [snapshot.requestId]
  | .settling snapshot _ _ => [snapshot.requestId]

/-- The snapshots that wait still show their entries. -/
structure Pass.Sound (libs : Libraries) (registry : ActiveBudgetIntentRegistry) (pass : Pass) :
    Prop where
  apart : (pass.activity.subject ++ pass.queue.map (·.requestId)).Nodup
  queue : ∀ snapshot ∈ pass.queue, snapshot.guardAlive = false →
    registry.entry snapshot.requestId = some snapshot.toActiveBudgetIntentData
  fits : pass.activity.Fits libs registry

structure Node.Sound (libs : Libraries) (runtime : SupportedBudgetRuntime) (node : Node) :
    Prop where
  entries : ∀ requestId data, node.registry.entry requestId = some data →
    ∃ create, CreatesFor libs runtime requestId create ∧ data.BelongsTo libs create
  owned : ∀ requestId data, node.registry.entry requestId = some data → data.guardAlive →
    ∃ task request, node.requests.lookup task = some request ∧ request.requestId = requestId ∧
      request.budget.guard ≠ none
  requests : ∀ task request, node.requests.lookup task = some request →
    request.Sound libs runtime node.registry
  apart : ∀ task request task' request', node.requests.lookup task = some request →
    node.requests.lookup task' = some request' → request.budget.guard ≠ none →
    request'.budget.guard ≠ none → request.requestId = request'.requestId → task = task'
  pass : ∀ pass, node.pass = some pass → pass.Sound libs node.registry

theorem Pass.Sound.of_dead {libs : Libraries} {registry registry' : ActiveBudgetIntentRegistry}
    {pass : Pass} (h : pass.Sound libs registry)
    (hDead : ∀ requestId data, registry.entry requestId = some data → data.guardAlive = false →
      registry'.entry requestId = some data) : pass.Sound libs registry' := by
  have hVisited : ∀ {requestId : String} {create : CreateBudgetIntent},
      Visited libs requestId create registry → Visited libs requestId create registry' :=
    fun ⟨hNamed, data, hEntry, hGuardAlive, hBelongs⟩ =>
      ⟨hNamed, data, hDead _ data hEntry hGuardAlive, hGuardAlive, hBelongs⟩
  refine ⟨h.apart, fun snapshot hSnapshot hGuardAlive => ?_, ?_⟩
  · exact hDead _ _ (h.queue snapshot hSnapshot hGuardAlive) hGuardAlive
  · have hFits := h.fits
    cases hActivity : pass.activity with
    | idle => trivial
    | lookingUp snapshot create answer =>
      rw [hActivity] at hFits
      exact ⟨hVisited hFits.1, hFits.2⟩
    | settling snapshot command answer =>
      rw [hActivity] at hFits
      obtain ⟨create, hCreate, hSettles⟩ := hFits
      exact ⟨create, hVisited hCreate, hSettles⟩

/-- A node that has just registered its session. -/
structure Node.Initial (runtime : SupportedBudgetRuntime) (node : Node) : Prop where
  registry : node.registry.entries = ∅
  requests : node.requests = ∅
  pass : node.pass = none
  session : ∀ id row, node.sys.db.ledger.lookup id = some row →
    ¬ row.PendingOf runtime.ownerSessionId

section Soundness

variable {libs : Libraries} {runtime : SupportedBudgetRuntime} {node next : Node}

theorem Node.Initial.sound (h : node.Initial runtime) : node.Sound libs runtime where
  entries requestId data hEntry := by
    unfold entry at hEntry
    rw [h.registry] at hEntry
    cases hEntry
  owned requestId data hEntry := by
    unfold entry at hEntry
    rw [h.registry] at hEntry
    cases hEntry
  requests task request hRequest := by
    rw [h.requests] at hRequest
    cases hRequest
  apart task request _ _ hRequest := by
    rw [h.requests] at hRequest
    cases hRequest
  pass pass hPass := by
    rw [h.pass] at hPass
    cases hPass

variable {task now : Nat} {request staged : Request} {requestId : String} {mayRelease : Prop}
  {scope : Scope} {registry registry' : ActiveBudgetIntentRegistry} {data : ActiveBudgetIntentData}
  {create : CreateBudgetIntent} {outcome : Scope × Progress} {upstreamAttempted : Bool}
  {fact : Option AiUsageFact} {reply : Reply} {pass : Pass}

theorem Node.Sound.held (h : node.Sound libs runtime)
    (hRequest : node.requests.lookup task = some request) (hGuard : request.budget.guard ≠ none) :
    ∃ create data, CreatesFor libs runtime request.requestId create ∧
      request.budget.createCommand = some create ∧
      node.registry.entry request.requestId = some data ∧ data.guardAlive ∧
      data.BelongsTo libs create := by
  obtain ⟨guard, hSome⟩ := Option.ne_none_iff_exists'.mp hGuard
  rcases (h.requests task request hRequest).context with hBlank | ⟨create, hBuilds, hHolds⟩
  · exact absurd hBlank.guard hGuard
  · obtain ⟨-, data, hEntry, hAlive, hBelongs⟩ := hHolds.guard guard hSome
    exact ⟨create, data, hBuilds, hHolds.budget.created, hEntry, hAlive, hBelongs⟩

/-! ## Steps of a request -/

/-- What a request may do to the registry: it changes its own entry, under its guard or when
there is none, and an entry it lets go of is gone. -/
structure Changes (registry registry' : ActiveBudgetIntentRegistry) (requestId : String)
    (guard guard' : Option BudgetIntentGuard) : Prop where
  frame : ∀ other, other ≠ requestId → registry'.entry other = registry.entry other
  own : (∀ other, registry'.entry other = registry.entry other) ∨ guard ≠ none ∨
    registry.entry requestId = none
  released : guard' = none → registry'.entry requestId = none ∨
    guard = none ∧ ∀ other, registry'.entry other = registry.entry other
  gained : guard' ≠ none → guard ≠ none ∨ registry.entry requestId = none

theorem Scope.Local.changes {scope' : Scope} (h : Scope.Local requestId mayRelease scope scope') :
    Changes scope.registry scope'.registry requestId scope.budget.guard scope'.budget.guard where
  frame := h.frame
  own := by
    by_cases hFree : scope.budget.guard = none
    · exact .inl (h.free hFree).2
    · exact .inr (.inl hFree)
  released hFree' := by
    by_cases hFree : scope.budget.guard = none
    · exact .inr ⟨hFree, (h.free hFree).2⟩
    · exact .inl (h.released hFree hFree').1
  gained hHeld' := .inl fun hFree => hHeld' (h.free hFree).1

variable {guard guard' : Option BudgetIntentGuard} {request' : Request}
  {command : CreateBudgetIntent} {activity : Activity} {requestIds : List String}

theorem Changes.same (h : ∀ other, registry'.entry other = registry.entry other) :
    Changes registry registry' requestId guard guard where
  frame other _ := h other
  own := .inl h
  released hFree := .inr ⟨hFree, h⟩
  gained := .inl

theorem Changes.entry_eq {other : String} (h : Changes registry registry' requestId guard guard')
    (hEntry : registry.entry other = some data) (hOther : guard ≠ none → other ≠ requestId) :
    registry'.entry other = some data := by
  rcases h.own with hSame | hHeld | hAbsent
  · rw [hSame, hEntry]
  · rw [h.frame other (hOther hHeld), hEntry]
  · rw [h.frame other, hEntry]
    rintro rfl
    exact absurd (hAbsent.symm.trans hEntry) (by simp)

theorem Node.Sound.dead_kept (h : node.Sound libs runtime)
    (hRequest : node.requests.lookup task = some request)
    (hChanges : Changes node.registry registry' request.requestId request.budget.guard guard')
    (hEntry : node.registry.entry requestId = some data) (hDead : data.guardAlive = false) :
    registry'.entry requestId = some data := by
  refine hChanges.entry_eq hEntry fun hGuard hSame => ?_
  obtain ⟨-, found, -, -, hFound, hAlive, -⟩ := h.held hRequest hGuard
  obtain rfl : data = found := Option.some.inj (hEntry.symm.trans (hSame ▸ hFound))
  simp [hAlive] at hDead

theorem Node.Sound.change (h : node.Sound libs runtime)
    (hRequest : node.requests.lookup task = some request)
    (hChanges : Changes node.registry registry' request.requestId request.budget.guard
      request'.budget.guard) (hId : request'.requestId = request.requestId)
    (hSound : request'.Sound libs runtime registry') :
    ({ node with registry := registry' }.setRequest task request').Sound libs runtime := by
  -- the entries of other guards are as they were
  have hHeld : ∀ task₀ request₀ data, node.requests.lookup task₀ = some request₀ →
      task₀ ≠ task → request₀.budget.guard ≠ none →
      node.registry.entry request₀.requestId = some data →
      registry'.entry request₀.requestId = some data := by
    intro task₀ request₀ data hRequest₀ hTask hGuard₀ hEntry
    refine hChanges.entry_eq hEntry fun hGuard hSame => hTask ?_
    exact h.apart task₀ request₀ task request hRequest₀ hRequest hGuard₀ hGuard hSame
  -- an entry afterwards is the one of the new guard, or one from before
  have hEntries : ∀ requestId data, registry'.entry requestId = some data →
      (requestId = request.requestId ∧ request'.budget.guard ≠ none) ∨
        (node.registry.entry requestId = some data ∧
          (requestId = request.requestId → request.budget.guard = none)) := by
    intro requestId data hEntry
    by_cases hSame : requestId = request.requestId
    · by_cases hGuard' : request'.budget.guard = none
      · rcases hChanges.released hGuard' with hGone | ⟨hFree, hUnchanged⟩
        · subst hSame
          exact absurd (hGone.symm.trans hEntry) (by simp)
        · exact .inr ⟨(hUnchanged requestId).symm.trans hEntry, fun _ => hFree⟩
      · exact .inl ⟨hSame, hGuard'⟩
    · exact .inr ⟨(hChanges.frame requestId hSame).symm.trans hEntry,
        fun hEqual => absurd hEqual hSame⟩
  refine ⟨?_, ?_, ?_, ?_, ?_⟩
  · intro requestId data hEntry
    rcases hEntries requestId data hEntry with ⟨hSame, hGuard'⟩ | ⟨hOld, -⟩
    · obtain ⟨guard, hSome⟩ := Option.ne_none_iff_exists'.mp hGuard'
      rcases hSound.context with hBlank | ⟨create, hBuilds, hHolds⟩
      · exact absurd hBlank.guard hGuard'
      · obtain ⟨-, found, hFound, -, hBelongs⟩ := hHolds.guard guard hSome
        rw [hId, ← hSame] at hFound
        obtain rfl : data = found := Option.mem_unique hEntry hFound
        exact ⟨create, hSame ▸ hId ▸ hBuilds, hBelongs⟩
    · exact h.entries requestId data hOld
  · intro requestId data hEntry hAlive
    rcases hEntries requestId data hEntry with ⟨hSame, hGuard'⟩ | ⟨hOld, hFree⟩
    · exact ⟨task, request', AList.lookup_insert _, hId.trans hSame.symm, hGuard'⟩
    · obtain ⟨task₀, request₀, hRequest₀, hId₀, hGuard₀⟩ := h.owned requestId data hOld hAlive
      refine ⟨task₀, request₀, (AList.lookup_insert_ne ?_).trans hRequest₀, hId₀, hGuard₀⟩
      rintro rfl
      obtain rfl : request = request₀ := Option.mem_unique hRequest hRequest₀
      exact hGuard₀ (hFree hId₀.symm)
  · intro task₀ request₀ hRequest₀
    obtain ⟨-, rfl⟩ | ⟨hTask, hOld⟩ := Table.lookup_insert_cases hRequest₀
    · exact hSound
    · have hSound₀ := h.requests task₀ request₀ hOld
      refine ⟨hSound₀.context.imp_right fun ⟨create, hBuilds, hHolds⟩ => ?_, hSound₀.fits,
        hSound₀.fresh⟩
      refine ⟨create, hBuilds, hHolds.budget, fun guard hGuard => ?_⟩
      obtain ⟨hGuardId, data, hEntry, hAlive, hBelongs⟩ := hHolds.guard guard hGuard
      refine ⟨hGuardId, data, hHeld task₀ request₀ data hOld hTask ?_ hEntry, hAlive, hBelongs⟩
      exact Option.ne_none_iff_exists'.mpr ⟨guard, hGuard⟩
  · -- a guard is gained only where there was no entry, so no other request holds one there
    have hAlone : ∀ task₀ request₀, node.requests.lookup task₀ = some request₀ →
        request₀.budget.guard ≠ none → request'.budget.guard ≠ none →
        request'.requestId = request₀.requestId → task₀ = task := by
      intro task₀ request₀ hRequest₀ hGuard₀ hGuard' hSame
      rcases hChanges.gained hGuard' with hGuard | hAbsent
      · exact h.apart task₀ request₀ task request hRequest₀ hRequest hGuard₀ hGuard
          (hSame.symm.trans hId)
      · obtain ⟨-, data, -, -, hEntry, -, -⟩ := h.held hRequest₀ hGuard₀
        rw [← hSame, hId, hAbsent] at hEntry
        cases hEntry
    intro task₁ request₁ task₂ request₂ hRequest₁ hRequest₂ hGuard₁ hGuard₂ hSame
    obtain ⟨rfl, rfl⟩ | ⟨hTask₁, hOld₁⟩ := Table.lookup_insert_cases hRequest₁
    · obtain ⟨rfl, rfl⟩ | ⟨hTask₂, hOld₂⟩ := Table.lookup_insert_cases hRequest₂
      · rfl
      · exact (hAlone task₂ request₂ hOld₂ hGuard₂ hGuard₁ hSame).symm
    · obtain ⟨rfl, rfl⟩ | ⟨hTask₂, hOld₂⟩ := Table.lookup_insert_cases hRequest₂
      · exact hAlone task₁ request₁ hOld₁ hGuard₁ hGuard₂ hSame.symm
      · exact h.apart task₁ request₁ task₂ request₂ hOld₁ hOld₂ hGuard₁ hGuard₂ hSame
  · exact fun pass hPass => (h.pass pass hPass).of_dead fun _ _ => h.dead_kept hRequest hChanges

theorem proceed_eq (node : Node) (task : Nat) (request : Request) (outcome : Scope × Progress) :
    ∃ request', node.proceed task request outcome =
        { node with registry := outcome.1.registry }.setRequest task request' ∧
      request'.requestId = request.requestId ∧ request'.stage = request.stage ∧
      request'.upstreamAttempted = request.upstreamAttempted ∧
      request'.budget = outcome.1.budget ∧
      ∀ activity, request'.activity = some activity →
        ∃ call, outcome.2 = .awaits call ∧ activity = call.start := by
  unfold proceed
  dsimp only
  split
  · next call hAwaits =>
    refine ⟨_, rfl, rfl, rfl, rfl, rfl, ?_⟩
    rintro _ ⟨rfl⟩
    exact ⟨call, hAwaits, rfl⟩
  · exact ⟨_, rfl, rfl, rfl, rfl, rfl, by simp⟩
  · exact ⟨_, rfl, rfl, rfl, rfl, rfl, by simp⟩

theorem Node.Sound.goes (h : node.Sound libs runtime)
    (hRequest : node.requests.lookup task = some request)
    (hId : staged.requestId = request.requestId) (hStage : staged.stage ≠ .inspected)
    (hBuilds : CreatesFor libs runtime request.requestId create)
    (hGoes : Scope.Goes libs request.requestId create mayRelease (node.scope request) outcome) :
    (node.proceed task staged outcome).Sound libs runtime := by
  obtain ⟨request', hNext, hId', hStage', -, hBudget', hActivity⟩ :=
    proceed_eq node task staged outcome
  rw [hNext]
  have hChanges := hGoes.toLocal.changes
  refine h.change hRequest (hBudget' ▸ hChanges) (hId'.trans hId) ⟨?_, ?_, ?_⟩
  · rw [hBudget', hId', hId]
    rcases hGoes.after with hHolds | hBlank
    · exact .inr ⟨create, hBuilds, hHolds⟩
    · exact .inl hBlank
  · intro activity hSome
    obtain ⟨call, hAwaits, rfl⟩ := hActivity activity hSome
    rw [hBudget']
    exact hGoes.awaits call hAwaits
  · intro hInspected
    exact absurd (hStage'.symm.trans hInspected) hStage

section

variable (h : scope.budget.Blank)
include h

theorem prepareSafeZeroSettlement_blank :
    prepareSafeZeroSettlement libs requestId scope = (scope, .ok none) := by
  unfold prepareSafeZeroSettlement
  simp only [h.created, h.intentId, h.guard, Option.isNone_none, and_self, if_true, ite_self]

theorem prepareFinalSettlement_blank :
    prepareFinalSettlement libs requestId upstreamAttempted fact scope = (scope, .ok none) := by
  unfold prepareFinalSettlement
  simp only [h.intentId, h.guard, Option.isNone_none, and_self, if_true, ite_self]

theorem compensateBegin_blank :
    compensateBegin libs requestId scope = (scope, .returned (.ok ())) := by
  unfold compensateBegin
  rw [h.created, h.intentId, prepareSafeZeroSettlement_blank h]
  rfl

theorem finalizeBegin_blank :
    finalizeBegin libs requestId upstreamAttempted fact scope = (scope, .returned (.ok ())) := by
  unfold finalizeBegin
  rw [h.guard, prepareFinalSettlement_blank h]
  split
  · next hGuard => cases hGuard
  · rfl

end

section

variable (h : node.Sound libs runtime)
include h

section

variable (hRequest : node.requests.lookup task = some request)
include hRequest

theorem Node.Sound.refuses
    (hId : staged.requestId = request.requestId) (hStage : staged.stage ≠ .inspected)
    (hBlank : request.budget.Blank) (hRefuses : Scope.Refuses (node.scope request) outcome) :
    (node.proceed task staged outcome).Sound libs runtime := by
  obtain ⟨request', hNext, hId', hStage', -, hBudget', hActivity⟩ :=
    proceed_eq node task staged outcome
  have hSame : request'.budget = request.budget := hBudget'.trans hRefuses.budget
  rw [hNext]
  refine h.change hRequest (hSame ▸ .same hRefuses.entry) (hId'.trans hId) ⟨?_, ?_, ?_⟩
  · exact .inl (hSame ▸ hBlank)
  · intro activity hSome
    obtain ⟨call, hAwaits, -⟩ := hActivity activity hSome
    obtain ⟨result, hReturned⟩ := hRefuses.returned
    rw [hReturned] at hAwaits
    cases hAwaits
  · intro hInspected
    exact absurd (hStage'.symm.trans hInspected) hStage

theorem Node.Sound.reserves
    (hId : staged.requestId = request.requestId) (hStage : staged.stage ≠ .inspected)
    (hReserves : Scope.Reserves libs runtime request.requestId create (node.scope request)
      outcome) :
    (node.proceed task staged outcome).Sound libs runtime := by
  obtain ⟨request', hNext, hId', hStage', -, hBudget', hActivity⟩ :=
    proceed_eq node task staged outcome
  have hGuard' : request'.budget.guard ≠ none := hBudget' ▸ hReserves.guard
  rw [hNext]
  refine h.change hRequest ⟨hReserves.frame, .inr (.inr hReserves.absent),
    fun hFree => absurd hFree hGuard', fun _ => .inr hReserves.absent⟩ (hId'.trans hId)
    ⟨?_, ?_, ?_⟩
  · rw [hBudget', hId', hId]
    exact .inr ⟨create, hReserves.builds, hReserves.holds⟩
  · intro activity hSome
    obtain ⟨call, hAwaits, rfl⟩ := hActivity activity hSome
    rw [hReserves.awaits] at hAwaits
    cases hAwaits
    rw [hBudget']
    exact hReserves.fits
  · intro hInspected
    exact absurd (hStage'.symm.trans hInspected) hStage

theorem Node.Sound.keeps
    (hId : request'.requestId = request.requestId) (hBudget : request'.budget = request.budget)
    (hStage : request'.stage = .inspected → request'.stage = request.stage ∧
      request'.activity = request.activity) (hFits : ∀ activity, request'.activity = some activity →
      activity.Fits libs request.budget) : (node.setRequest task request').Sound libs runtime := by
  have hSound := h.requests task request hRequest
  refine h.change hRequest (hBudget ▸ .same fun _ => rfl) hId ⟨?_, ?_, ?_⟩
  · rw [hBudget, hId]
    exact hSound.context
  · rw [hBudget]
    exact hFits
  · intro hInspected
    obtain ⟨hSame, hIdle⟩ := hStage hInspected
    rw [hBudget, hIdle]
    exact hSound.fresh (hSame.symm.trans hInspected)

end

theorem Node.Sound.withSystem (sys : System) :
    { node with sys := sys }.Sound libs runtime :=
  ⟨h.entries, h.owned, h.requests, h.apart, h.pass⟩

end

/-! ## Pieces of code -/

/-- A piece of the code of a request: it works for the creation of the request, or there is none
and it returns. -/
inductive Request.Runs (libs : Libraries) (runtime : SupportedBudgetRuntime) (request : Request)
    (mayRelease : Prop) (scope : Scope) (outcome : Scope × Progress) : Prop where
  | goes (create : CreateBudgetIntent) (builds : CreatesFor libs runtime request.requestId create)
      (created : request.budget.createCommand = some create)
      (after : Scope.Goes libs request.requestId create mayRelease scope outcome)
  | refuses (blank : request.budget.Blank) (returns : Scope.Refuses scope outcome)

theorem Node.Sound.runs (h : node.Sound libs runtime) {task : Nat} {request staged : Request}
    {mayRelease : Prop} {outcome : Scope × Progress}
    (hRequest : node.requests.lookup task = some request)
    (hId : staged.requestId = request.requestId) (hStage : staged.stage ≠ .inspected)
    (hRuns : request.Runs libs runtime mayRelease (node.scope request) outcome) :
    (node.proceed task staged outcome).Sound libs runtime := by
  cases hRuns with
  | goes create hBuilds _ hGoes => exact h.goes hRequest hId hStage hBuilds hGoes
  | refuses hBlank hRefuses => exact h.refuses hRequest hId hStage hBlank hRefuses

/-- The answer of a call after which a request lets go of its entry. -/
def Activity.Acknowledges : Activity → Prop
  | .creating _ (some (.ok intent)) => intent.disposition = .paused
  | .creating _ (some (.error error)) => error.kind ≠ .outcomeUnknown
  | .replaying _ _ (some (.ok intent)) => intent.disposition = .paused
  | .settling _ _ (some (.ok _)) => True
  | _ => False

theorem Request.Sound.creation (h : request.Sound libs runtime registry)
    (hCreated : request.budget.createCommand = some command) :
    CreatesFor libs runtime request.requestId command ∧
      Scope.Holds libs request.requestId command ⟨registry, request.budget⟩ := by
  rcases h.context with hBlank | ⟨create, hBuilds, hHolds⟩
  · rw [hBlank.created] at hCreated
    cases hCreated
  · obtain rfl : create = command := Option.some.inj (hHolds.budget.created.symm.trans hCreated)
    exact ⟨hBuilds, hHolds⟩

theorem Request.Sound.stage_ne (h : request.Sound libs runtime registry)
    (hActivity : request.activity = some activity) : request.stage ≠ .inspected := by
  intro hInspected
  rw [(h.fresh hInspected).2] at hActivity
  cases hActivity

theorem hookDispatched_blank {scope : Scope} (h : scope.budget.Blank)
    {answer : Except BudgetStoreError BudgetIntent} :
    Scope.Refuses scope (hookDispatched answer scope) := by
  unfold hookDispatched Scope.guarded
  rw [h.guard]
  cases answer with
  | error error | ok intent => exact ⟨rfl, fun _ => rfl, _, rfl⟩

section

variable (h : node.Sound libs runtime)
include h

section

variable (hRequest : node.requests.lookup task = some request)
include hRequest

theorem Node.Sound.compensates :
    request.Runs libs runtime mayRelease (node.scope request)
      (compensateBegin libs request.requestId (node.scope request)) := by
  rcases (h.requests task request hRequest).context with hBlank | ⟨create, hBuilds, hHolds⟩
  · refine .refuses hBlank ?_
    rw [compensateBegin_blank hBlank]
    exact ⟨rfl, fun _ => rfl, _, rfl⟩
  · exact .goes create hBuilds hHolds.budget.created
      (Scope.compensateBegin_goes hHolds hBuilds.requestId_eq)

theorem Node.Sound.finalizes :
    request.Runs libs runtime mayRelease (node.scope request)
      (finalizeBegin libs request.requestId upstreamAttempted fact (node.scope request)) := by
  rcases (h.requests task request hRequest).context with hBlank | ⟨create, hBuilds, hHolds⟩
  · refine .refuses hBlank ?_
    rw [finalizeBegin_blank hBlank]
    exact ⟨rfl, fun _ => rfl, _, rfl⟩
  · exact .goes create hBuilds hHolds.budget.created
      (Scope.finalizeBegin_goes hHolds hBuilds.requestId_eq)

/-- A request that reads an answer lets go of its entry only when the answer allows it. -/
theorem Node.Sound.resumes (hResume : node.resume libs runtime task request = some next) :
    ∃ activity outcome, request.activity = some activity ∧
      next = node.proceed task request outcome ∧
      request.Runs libs runtime activity.Acknowledges (node.scope request) outcome := by
  have hSound := h.requests task request hRequest
  unfold resume at hResume
  dsimp only at hResume
  split at hResume
  · next command answer hActivity =>
    cases hResume
    refine ⟨_, _, hActivity, rfl, ?_⟩
    have hFits := hSound.fits _ hActivity
    obtain ⟨hBuilds, hHolds⟩ := hSound.creation hFits.2.1
    refine .goes command hBuilds hFits.2.1 (Scope.hookCreated_goes hHolds hFits ?_ ?_)
    · rintro intent rfl hPaused
      exact hPaused
    · rintro error rfl hKind
      exact hKind
  · next command answer hActivity =>
    cases hResume
    refine ⟨_, _, hActivity, rfl, ?_⟩
    rcases hSound.context with hBlank | ⟨create, hBuilds, hHolds⟩
    · exact .refuses hBlank (hookDispatched_blank hBlank)
    · exact .goes create hBuilds hHolds.budget.created (Scope.hookDispatched_goes hHolds)
  · next final command answer hActivity =>
    cases hResume
    refine ⟨_, _, hActivity, rfl, ?_⟩
    obtain ⟨hCreated, hAnswers⟩ := hSound.fits _ hActivity
    obtain ⟨hBuilds, hHolds⟩ := hSound.creation hCreated
    refine .goes command hBuilds hCreated
      (Scope.replayed_goes hHolds hBuilds.requestId_eq hAnswers ?_)
    rintro intent rfl hPaused
    exact hPaused
  · next final command answer hActivity =>
    cases hResume
    refine ⟨_, _, hActivity, rfl, ?_⟩
    obtain ⟨create, hCreated, -⟩ := hSound.fits _ hActivity
    obtain ⟨hBuilds, hHolds⟩ := hSound.creation hCreated
    refine .goes create hBuilds hCreated (Scope.settled_goes hHolds ?_)
    rintro settlement rfl
    trivial
  · cases hResume

end

end

/-! ## Calls that take effect -/

variable {sys : System}

theorem Reply.of_ok {α : Type} {reply : Reply} {t : Tx α} {a : α} {post : α → Db → Prop}
    {fail : BudgetStoreError → Prop} (hEnds : Ends t sys.db post fail)
    (h : reply.answer t sys.db = .ok a) : post a (reply.runs t sys).db := by
  cases reply with
  | answered =>
    simp only [Reply.answer, Reply.runs, System.run] at h ⊢
    rcases execute_of_ends hEnds with ⟨found, db', hExecute, hPost⟩ | ⟨error, hExecute, -⟩
    · rw [hExecute] at h ⊢
      cases h
      exact hPost
    · rw [hExecute] at h
      cases h
  | lost | failed error => cases h

theorem Reply.answersFor {store : PgBudgetStore} : AnswersFor command
      (some (reply.answer (createIntent libs.toExternal store command now) sys.db)) := by
  intro intent record hAnswer hRecord
  exact (Reply.of_ok createIntent_answers (Option.some.inj hAnswer)).2 record hRecord

/-- What a call that takes effect does: to the ledger what the call says, to the request only that
the answer is there. -/
inductive Node.Executes (libs : Libraries) (runtime : SupportedBudgetRuntime) (node : Node)
    (reply : Reply) (now : Nat) : Activity → System → Activity → Prop where
  | creating (command : CreateBudgetIntent) :
      Node.Executes libs runtime node reply now (.creating command none)
        (reply.runs (createIntent libs.toExternal runtime.store command now) node.sys)
        (.creating command (some
          (reply.answer (createIntent libs.toExternal runtime.store command now) node.sys.db)))
  | dispatching (command : MarkBudgetDispatching) :
      Node.Executes libs runtime node reply now (.dispatching command none)
        (reply.runs (Budget.markDispatching libs.toExternal runtime.store command now) node.sys)
        (.dispatching command (some
          (reply.answer (Budget.markDispatching libs.toExternal runtime.store command now)
            node.sys.db)))
  | replaying (final : Bool) (command : CreateBudgetIntent) :
      Node.Executes libs runtime node reply now (.replaying final command none)
        (reply.runs (createIntent libs.toExternal runtime.store command now) node.sys)
        (.replaying final command (some
          (reply.answer (createIntent libs.toExternal runtime.store command now) node.sys.db)))
  | settling (final : Bool) (command : SettleBudgetIntent) :
      Node.Executes libs runtime node reply now (.settling final command none)
        (reply.runs (settle libs.toExternal runtime.store command now) node.sys)
        (.settling final command (some
          (reply.answer (settle libs.toExternal runtime.store command now) node.sys.db)))

theorem Node.execute_cases (h : node.execute libs runtime task request reply now = some next) :
    ∃ activity sys' activity', request.activity = some activity ∧
      Executes libs runtime node reply now activity sys' activity' ∧
      next = { node with sys := sys' }.setRequest task
        { request with activity := some activity' } := by
  unfold execute at h
  dsimp only at h
  split at h
  · next hActivity =>
    cases h
    exact ⟨_, _, _, hActivity, .creating _, rfl⟩
  · next hActivity =>
    cases h
    exact ⟨_, _, _, hActivity, .dispatching _, rfl⟩
  · next hActivity =>
    cases h
    exact ⟨_, _, _, hActivity, .replaying _ _, rfl⟩
  · next hActivity =>
    cases h
    exact ⟨_, _, _, hActivity, .settling _ _, rfl⟩
  · cases h

theorem Node.Sound.executes (h : node.Sound libs runtime) {activity' : Activity} {sys' : System}
    (hRequest : node.requests.lookup task = some request)
    (hActivity : request.activity = some activity)
    (hExecutes : Executes libs runtime node reply now activity sys' activity') :
    ({ node with sys := sys' }.setRequest task
      { request with activity := some activity' }).Sound libs runtime := by
  have hSound := h.requests task request hRequest
  have hFits := hSound.fits activity hActivity
  refine (h.withSystem sys').keeps hRequest rfl rfl (fun hInspected => ?_) ?_
  · exact absurd hInspected (hSound.stage_ne hActivity)
  · rintro _ ⟨rfl⟩
    cases hExecutes with
    | creating command =>
      exact ⟨hFits.1, hFits.2.1, hFits.2.2.1, hFits.2.2.2.1, Reply.answersFor⟩
    | dispatching command => trivial
    | replaying final command => exact ⟨hFits.1, Reply.answersFor⟩
    | settling final command => exact hFits

/-! ## Requests that come and go -/

theorem Node.Sound.inspects (h : node.Sound libs runtime)
    {virtualKeyId : Uuid} (hTask : node.requests.lookup task = none) :
    (node.setRequest task
      ⟨requestId, .inspected, false, false, .inspected virtualKeyId, none⟩).Sound libs runtime where
  entries := h.entries
  owned requestId data hEntry hAlive := by
    obtain ⟨task₀, request₀, hRequest₀, hId₀, hGuard₀⟩ := h.owned requestId data hEntry hAlive
    refine ⟨task₀, request₀, (AList.lookup_insert_ne ?_).trans hRequest₀, hId₀, hGuard₀⟩
    rintro rfl
    rw [hTask] at hRequest₀
    cases hRequest₀
  requests task₀ request₀ hRequest₀ := by
    have hBlank : (AiBudgetRequestContext.inspected virtualKeyId).Blank := ⟨rfl, rfl, rfl, rfl⟩
    obtain ⟨-, rfl⟩ | ⟨-, hOld⟩ := Table.lookup_insert_cases hRequest₀
    · exact ⟨.inl hBlank, by simp, fun _ => ⟨hBlank, rfl⟩⟩
    · exact h.requests task₀ request₀ hOld
  apart task₁ request₁ task₂ request₂ hRequest₁ hRequest₂ hGuard₁ hGuard₂ hSame := by
    obtain ⟨-, rfl⟩ | ⟨-, hOld₁⟩ := Table.lookup_insert_cases hRequest₁
    · exact absurd rfl hGuard₁
    · obtain ⟨-, rfl⟩ | ⟨-, hOld₂⟩ := Table.lookup_insert_cases hRequest₂
      · exact absurd rfl hGuard₂
      · exact h.apart task₁ request₁ task₂ request₂ hOld₁ hOld₂ hGuard₁ hGuard₂ hSame
  pass := h.pass

theorem ActiveBudgetIntentData.BelongsTo.guardDropped (h : data.BelongsTo libs create) :
    ({ data with
      guardAlive := false
      state := droppedState data.state } :
        ActiveBudgetIntentData).BelongsTo libs create where
  created := h.created
  intentId := h.intentId
  settlement := h.settlement
  unknown := by
    rw [h.unknown]
    cases data.state <;> simp [droppedState]
  dropped _ := by
    cases data.state <;> simp [droppedState, guardedStates]
  fact hFact := by
    refine h.fact ?_
    revert hFact
    cases data.state <;> simp [droppedState]

def Node.released (node : Node) (request : Request) : ActiveBudgetIntentRegistry :=
  request.budget.guard.elim node.registry fun guard => node.registry.guardDropped guard.requestId

section

variable (h : node.Sound libs runtime)
include h

theorem Node.Sound.released_entry {task : Nat} {request : Request}
    (hRequest : node.requests.lookup task = some request) (other : String) :
    (request.budget.guard ≠ none ∧ other = request.requestId ∧
      (node.released request).entry other = (node.registry.entry other).map fun data =>
        { data with
          guardAlive := false
          state := droppedState data.state }) ∨
    ((request.budget.guard ≠ none → other ≠ request.requestId) ∧
      (node.released request).entry other = node.registry.entry other) := by
  unfold released
  cases hGuard : request.budget.guard with
  | none => exact .inr ⟨fun hHeld => absurd rfl hHeld, rfl⟩
  | some guard =>
    have hId : guard.requestId = request.requestId := by
      rcases (h.requests task request hRequest).context with hBlank | ⟨create, -, hHolds⟩
      · rw [hBlank.guard] at hGuard
        cases hGuard
      · exact (hHolds.guard guard hGuard).1
    rw [Option.elim_some, hId]
    by_cases hOther : other = request.requestId
    · subst hOther
      exact .inl ⟨by simp, rfl, entry_guardDropped⟩
    · exact .inr ⟨fun _ => hOther, entry_guardDropped_ne hOther⟩

theorem Node.Sound.released_dead (hRequest : node.requests.lookup task = some request)
    (hEntry : node.registry.entry requestId = some data) (hDead : data.guardAlive = false) :
    (node.released request).entry requestId = some data := by
  rcases h.released_entry hRequest requestId with ⟨hGuard, rfl, -⟩ | ⟨-, hSame⟩
  · obtain ⟨-, found, -, -, hFound, hAlive, -⟩ := h.held hRequest hGuard
    obtain rfl : data = found := Option.mem_unique hEntry hFound
    simp [hAlive] at hDead
  · exact hSame.trans hEntry

theorem Node.Sound.drops (hRequest : node.requests.lookup task = some request) :
    { node with
      registry := node.released request
      requests := node.requests.erase task }.Sound libs runtime := by
  have hKept : ∀ {task₀ request₀}, (node.requests.erase task).lookup task₀ = some request₀ →
      task₀ ≠ task ∧ node.requests.lookup task₀ = some request₀ := by
    intro task₀ request₀ hLookup
    have hTask : task₀ ≠ task := by
      rintro rfl
      rw [AList.lookup_erase] at hLookup
      cases hLookup
    exact ⟨hTask, (AList.lookup_erase_ne hTask).symm.trans hLookup⟩
  refine ⟨?_, ?_, ?_, ?_, ?_⟩
  · intro requestId data hEntry
    dsimp only at hEntry
    rcases h.released_entry hRequest requestId with ⟨-, -, hDropped⟩ | ⟨-, hSame⟩
    · rw [hDropped, Option.map_eq_some_iff] at hEntry
      obtain ⟨data₀, hEntry₀, rfl⟩ := hEntry
      obtain ⟨create, hBuilds, hBelongs⟩ := h.entries requestId data₀ hEntry₀
      exact ⟨create, hBuilds, hBelongs.guardDropped⟩
    · exact h.entries requestId data (hSame.symm.trans hEntry)
  · intro requestId data hEntry hAlive
    dsimp only at hEntry
    rcases h.released_entry hRequest requestId with ⟨-, -, hDropped⟩ | ⟨hOther, hSame⟩
    · rw [hDropped, Option.map_eq_some_iff] at hEntry
      obtain ⟨data₀, -, rfl⟩ := hEntry
      cases hAlive
    · obtain ⟨task₀, request₀, hRequest₀, hId₀, hGuard₀⟩ :=
        h.owned requestId data (hSame.symm.trans hEntry) hAlive
      refine ⟨task₀, request₀, (AList.lookup_erase_ne ?_).trans hRequest₀, hId₀, hGuard₀⟩
      rintro rfl
      obtain rfl : request = request₀ := Option.mem_unique hRequest hRequest₀
      exact hOther hGuard₀ hId₀.symm
  · intro task₀ request₀ hLookup
    obtain ⟨hTask, hRequest₀⟩ := hKept hLookup
    have hSound₀ := h.requests task₀ request₀ hRequest₀
    refine ⟨hSound₀.context.imp_right fun ⟨create, hBuilds, hHolds⟩ => ?_, hSound₀.fits,
      hSound₀.fresh⟩
    refine ⟨create, hBuilds, hHolds.budget, fun guard hGuard => ?_⟩
    obtain ⟨hGuardId, data, hEntry, hAlive, hBelongs⟩ := hHolds.guard guard hGuard
    refine ⟨hGuardId, data, ?_, hAlive, hBelongs⟩
    rcases h.released_entry hRequest request₀.requestId with ⟨hHeld, hSame, -⟩ | ⟨-, hSame⟩
    · have hGuard₀ : request₀.budget.guard ≠ none :=
        Option.ne_none_iff_exists'.mpr ⟨guard, hGuard⟩
      exact absurd (h.apart task₀ request₀ task request hRequest₀ hRequest hGuard₀ hHeld hSame)
        hTask
    · exact hSame.trans hEntry
  · intro task₁ request₁ task₂ request₂ hLookup₁ hLookup₂
    exact h.apart task₁ request₁ task₂ request₂ (hKept hLookup₁).2 (hKept hLookup₂).2
  · exact fun pass hPass => (h.pass pass hPass).of_dead fun _ _ => h.released_dead hRequest

end

/-! ## Steps of a pass -/

def PassActivity.Acknowledges : PassActivity → Prop
  | .lookingUp _ _ (some (.ok none)) => True
  | .lookingUp _ _ (some (.ok (some record))) =>
    record.state ≠ .prepared ∧ record.state ≠ .dispatching
  | .settling _ _ (some (.ok _)) => True
  | _ => False

theorem Node.Sound.withPass (h : node.Sound libs runtime) {pass' : Option Pass}
    (hPass : ∀ pass, pass' = some pass → pass.Sound libs node.registry) :
    { node with pass := pass' }.Sound libs runtime :=
  ⟨h.entries, h.owned, h.requests, h.apart, hPass⟩

theorem Node.take_nodup (hNodup : requestIds.Nodup) :
    ((node.take requestIds).map (·.requestId)).Nodup := by
  unfold take
  rw [List.map_filterMap]
  refine hNodup.filterMap fun a b c hA hB => ?_
  simp only [Option.map_map, Option.mem_def, Option.map_eq_some_iff, Function.comp_apply] at hA hB
  obtain ⟨-, -, rfl⟩ := hA
  obtain ⟨-, -, rfl⟩ := hB
  rfl

section

variable (h : node.Sound libs runtime)
include h

theorem Node.Sound.takes (hNodup : requestIds.Nodup) :
    { node with pass := some ⟨node.take requestIds, .idle⟩ }.Sound libs runtime := by
  refine h.withPass ?_
  rintro _ ⟨rfl⟩
  refine ⟨take_nodup hNodup, fun snapshot hSnapshot _ => ?_, trivial⟩
  obtain ⟨requestId, -, hTaken⟩ := List.mem_filterMap.mp hSnapshot
  obtain ⟨data, hEntry, rfl⟩ := Option.map_eq_some_iff.mp hTaken
  exact hEntry

/-- A piece of a recovery pass leaves every other entry as it is. -/
theorem Node.Sound.visits
    {queue : List ActiveBudgetIntentSnapshot} {snapshot : ActiveBudgetIntentSnapshot}
    {outcome : ActiveBudgetIntentRegistry × Visit}
    (hApart : (snapshot.requestId :: queue.map (·.requestId)).Nodup)
    (hQueue : ∀ waiting ∈ queue, waiting.guardAlive = false →
      node.registry.entry waiting.requestId = some waiting.toActiveBudgetIntentData)
    (hVisited : Visited libs snapshot.requestId create node.registry)
    (hRecovers : Recovers libs snapshot.requestId create mayRelease node.registry outcome) :
    (node.visited queue snapshot outcome).Sound libs runtime := by
  obtain ⟨hHead, hTail⟩ := List.nodup_cons.mp hApart
  obtain ⟨before, hBefore, hDead, hBelongs⟩ := hVisited.entry
  obtain ⟨builder, hBuilds, hBuilt⟩ := h.entries _ _ hBefore
  obtain rfl : builder = create := Option.some.inj (hBuilt.created.symm.trans hBelongs.created)
  -- an entry afterwards is the visited one, still without a guard, or one from before
  have hEntries : ∀ requestId data, outcome.1.entry requestId = some data →
      (requestId = snapshot.requestId ∧ data.guardAlive = false ∧ data.BelongsTo libs builder) ∨
        requestId ≠ snapshot.requestId ∧ node.registry.entry requestId = some data := by
    intro requestId data hEntry
    by_cases hSame : requestId = snapshot.requestId
    · rcases hRecovers.after with ⟨-, found, hFound, hFoundDead, hFoundBelongs⟩ | ⟨hGone, -⟩
      · obtain rfl : data = found :=
          Option.some.inj (hEntry.symm.trans ((congrArg _ hSame).trans hFound))
        exact .inl ⟨hSame, hFoundDead, hFoundBelongs⟩
      · exact absurd (hEntry.symm.trans ((congrArg _ hSame).trans hGone)) (by simp)
    · exact .inr ⟨hSame, (hRecovers.frame requestId hSame).symm.trans hEntry⟩
  refine ⟨?_, ?_, ?_, h.apart, ?_⟩
  · intro requestId data hEntry
    rcases hEntries requestId data hEntry with ⟨rfl, -, hFoundBelongs⟩ | ⟨-, hOld⟩
    · exact ⟨builder, hBuilds, hFoundBelongs⟩
    · exact h.entries requestId data hOld
  · intro requestId data hEntry hAlive
    rcases hEntries requestId data hEntry with ⟨-, hFoundDead, -⟩ | ⟨-, hOld⟩
    · simp [hAlive] at hFoundDead
    · exact h.owned requestId data hOld hAlive
  · intro task request hRequest
    have hSound := h.requests task request hRequest
    refine ⟨hSound.context.imp_right fun ⟨create, hCreates, hHolds⟩ => ?_, hSound.fits,
      hSound.fresh⟩
    refine ⟨create, hCreates, hHolds.budget, fun guard hGuard => ?_⟩
    obtain ⟨hGuardId, data, hEntry, hAlive, hData⟩ := hHolds.guard guard hGuard
    refine ⟨hGuardId, data, (hRecovers.frame _ ?_).trans hEntry, hAlive, hData⟩
    intro hSame
    obtain rfl : data = before := Option.some.inj (hEntry.symm.trans (hSame ▸ hBefore))
    simp [hAlive] at hDead
  · rintro _ ⟨rfl⟩
    have hWaiting : ∀ waiting ∈ queue, waiting.guardAlive = false →
        outcome.1.entry waiting.requestId = some waiting.toActiveBudgetIntentData := by
      intro waiting hMem hGuardAlive
      refine (hRecovers.frame _ ?_).trans (hQueue waiting hMem hGuardAlive)
      exact fun hSame => hHead (List.mem_map.mpr ⟨waiting, hMem, hSame⟩)
    have hFits := hRecovers.fits
    unfold visited
    cases hOutcome : outcome.2 with
    | finished => exact ⟨hTail, hWaiting, trivial⟩
    | lookingUp create =>
      rw [hOutcome] at hFits
      exact ⟨hApart, hWaiting, hFits, by simp⟩
    | settling command =>
      rw [hOutcome] at hFits
      exact ⟨hApart, hWaiting, hFits⟩

theorem Node.Sound.recoverNexts
    (hPass : node.pass = some pass) (hNext : node.recoverNext libs pass = some next) :
    ∃ snapshot queue, pass = ⟨snapshot :: queue, .idle⟩ ∧
      ((snapshot.guardAlive ∧ next = { node with pass := some ⟨queue, .idle⟩ }) ∨
        snapshot.guardAlive = false ∧ ∃ create,
          next = node.visited queue snapshot (visitBegin libs node.registry snapshot) ∧
          Visited libs snapshot.requestId create node.registry ∧
          Recovers libs snapshot.requestId create False node.registry
            (visitBegin libs node.registry snapshot)) := by
  obtain ⟨queue, activity⟩ := pass
  unfold recoverNext at hNext
  dsimp only at hNext
  split at hNext
  · next snapshot queue =>
    cases hNext
    refine ⟨snapshot, queue, rfl, ?_⟩
    cases hGuardAlive : snapshot.guardAlive with
    | true =>
      refine .inl ⟨rfl, ?_⟩
      unfold visitBegin
      rw [hGuardAlive]
      rfl
    | false =>
      have hEntry := (h.pass _ hPass).queue snapshot List.mem_cons_self hGuardAlive
      obtain ⟨create, hBuilds, hBelongs⟩ := h.entries _ _ hEntry
      exact .inr ⟨rfl, create, rfl, ⟨hBuilds.requestId_eq, _, hEntry, hGuardAlive, hBelongs⟩,
        visitBegin_recovers hEntry hGuardAlive hBelongs hBuilds.requestId_eq⟩
  · cases hNext

theorem Node.Sound.recoverResumes
    (hPass : node.pass = some pass) (hResume : node.recoverResume libs pass = some next) :
    ∃ snapshot create outcome, pass.activity.subject = [snapshot.requestId] ∧
      next = node.visited pass.queue snapshot outcome ∧
      Visited libs snapshot.requestId create node.registry ∧
      Recovers libs snapshot.requestId create pass.activity.Acknowledges node.registry outcome := by
  have hFits := (h.pass pass hPass).fits
  unfold recoverResume at hResume
  split at hResume
  · next snapshot create answer hActivity =>
    cases hResume
    rw [hActivity] at hFits ⊢
    obtain ⟨hVisited, hAnswer⟩ := hFits
    refine ⟨snapshot, create, _, rfl, rfl, hVisited, visitLookedUp_recovers hVisited ?_ ?_ ?_⟩
    · rintro record rfl
      exact hAnswer record rfl
    · rintro rfl
      trivial
    · rintro record rfl hPrepared hDispatching
      exact ⟨hPrepared, hDispatching⟩
  · next snapshot command answer hActivity =>
    cases hResume
    rw [hActivity] at hFits ⊢
    obtain ⟨create, hVisited, -⟩ := hFits
    refine ⟨snapshot, create, _, rfl, rfl, hVisited, visitSettled_recovers hVisited ?_⟩
    rintro settlement rfl
    trivial
  · cases hResume

end

theorem Node.recoverLookup_cases {visible : Bool}
    (h : node.recoverLookup runtime pass visible reply = some next) :
    ∃ snapshot create, pass.activity = .lookingUp snapshot create none ∧
      next = { node with pass := some ⟨pass.queue, .lookingUp snapshot create (some
        (if visible then reply.answer (lookupIntent runtime.store create.lookup) node.sys.db
          else .ok none))⟩ } := by
  unfold recoverLookup at h
  split at h
  · next snapshot create hActivity =>
    cases h
    exact ⟨snapshot, create, hActivity, rfl⟩
  · cases h

theorem Node.recoverSettle_cases (h : node.recoverSettle libs runtime pass reply now = some next) :
    ∃ snapshot command, pass.activity = .settling snapshot command none ∧
      next = { node with
        sys := reply.runs (settle libs.toExternal runtime.store command now) node.sys
        pass := some ⟨pass.queue, .settling snapshot command (some
          (reply.answer (settle libs.toExternal runtime.store command now) node.sys.db))⟩ } := by
  unfold recoverSettle at h
  split at h
  · next snapshot command hActivity =>
    cases h
    exact ⟨snapshot, command, hActivity, rfl⟩
  · cases h

/-! ## Steps -/

def Event.ofPass : Event → Bool
  | .recover _ | .recoverNext | .recoverLookup _ _ | .recoverSettle _ _ | .recoverResume
  | .recoverStop => true
  | _ => false

/-- What a step of a node does. -/
inductive Node.Moves (libs : Libraries) (runtime : SupportedBudgetRuntime) (node : Node) :
    Event → Node → Prop where
  | environment (call : Call)
      (foreign : createsLocally runtime.ownerSessionId call = false) :
      Node.Moves libs runtime node (.environment call)
        { node with sys := perform libs.toExternal node.sys call }
  | inspects {event : Event} (task : Nat) (requestId : String) (virtualKeyId : Uuid)
      (absent : node.requests.lookup task = none) :
      Node.Moves libs runtime node event (node.setRequest task
        ⟨requestId, .inspected, false, false, .inspected virtualKeyId, none⟩)
  /-- Only the stage of a request, its flags or a call it gives up. -/
  | keeps {event : Event} (task : Nat) (request request' : Request)
      (known : node.requests.lookup task = some request)
      (same : request'.requestId = request.requestId)
      (budget : request'.budget = request.budget)
      (stage : request'.stage = .inspected → request'.stage = request.stage)
      (activity : request'.activity = request.activity ∨ request'.activity = none) :
      Node.Moves libs runtime node event (node.setRequest task request')
  | reserves {event : Event} (task : Nat) (request staged : Request)
      (create : CreateBudgetIntent) (outcome : Scope × Progress)
      (known : node.requests.lookup task = some request)
      (same : staged.requestId = request.requestId) (stage : staged.stage ≠ .inspected)
      (reserved : Scope.Reserves libs runtime request.requestId create (node.scope request)
        outcome) :
      Node.Moves libs runtime node event (node.proceed task staged outcome)
  | runs {event : Event} (task : Nat) (request staged : Request) (mayRelease : Prop)
      (outcome : Scope × Progress) (known : node.requests.lookup task = some request)
      (same : staged.requestId = request.requestId) (stage : staged.stage ≠ .inspected)
      (ran : request.Runs libs runtime mayRelease (node.scope request) outcome)
      (released : mayRelease → ∃ activity, request.activity = some activity ∧
        activity.Acknowledges) :
      Node.Moves libs runtime node event (node.proceed task staged outcome)
  | executes (task : Nat) (request : Request) (reply : Reply) (now : Nat)
      (activity activity' : Activity) (sys' : System)
      (known : node.requests.lookup task = some request)
      (awaited : request.activity = some activity)
      (executed : Node.Executes libs runtime node reply now activity sys' activity') :
      Node.Moves libs runtime node (.execute task reply now)
        ({ node with sys := sys' }.setRequest task { request with activity := some activity' })
  | drops {event : Event} (task : Nat) (request : Request)
      (known : node.requests.lookup task = some request) :
      Node.Moves libs runtime node event { node with
        registry := node.released request
        requests := node.requests.erase task }
  | takes (requestIds : List String) (apart : requestIds.Nodup) :
      Node.Moves libs runtime node (.recover requestIds)
        { node with pass := some ⟨node.take requestIds, .idle⟩ }
  | skips (snapshot : ActiveBudgetIntentSnapshot) (queue : List ActiveBudgetIntentSnapshot)
      (known : node.pass = some ⟨snapshot :: queue, .idle⟩) :
      Node.Moves libs runtime node .recoverNext { node with pass := some ⟨queue, .idle⟩ }
  | visits {event : Event} (pass : Pass) (snapshot : ActiveBudgetIntentSnapshot)
      (queue : List ActiveBudgetIntentSnapshot) (create : CreateBudgetIntent)
      (mayRelease : Prop) (outcome : ActiveBudgetIntentRegistry × Visit)
      (passes : event.ofPass) (known : node.pass = some pass)
      (apart : (snapshot.requestId :: queue.map (·.requestId)).Nodup)
      (waiting : ∀ waiting ∈ queue, waiting ∈ pass.queue)
      (visited : Visited libs snapshot.requestId create node.registry)
      (recovered : Recovers libs snapshot.requestId create mayRelease node.registry outcome)
      (released : mayRelease → pass.activity.subject = [snapshot.requestId] ∧
        pass.activity.Acknowledges) :
      Node.Moves libs runtime node event (node.visited queue snapshot outcome)
  | looksUp (pass : Pass) (snapshot : ActiveBudgetIntentSnapshot) (create : CreateBudgetIntent)
      (visible : Bool) (reply : Reply) (known : node.pass = some pass)
      (awaited : pass.activity = .lookingUp snapshot create none) :
      Node.Moves libs runtime node (.recoverLookup visible reply)
        { node with pass := some ⟨pass.queue, .lookingUp snapshot create (some
          (if visible then reply.answer (lookupIntent runtime.store create.lookup) node.sys.db
            else .ok none))⟩ }
  | settles (pass : Pass) (snapshot : ActiveBudgetIntentSnapshot)
      (command : SettleBudgetIntent) (reply : Reply) (now : Nat)
      (known : node.pass = some pass)
      (awaited : pass.activity = .settling snapshot command none) :
      Node.Moves libs runtime node (.recoverSettle reply now) { node with
        sys := reply.runs (settle libs.toExternal runtime.store command now) node.sys
        pass := some ⟨pass.queue, .settling snapshot command (some
          (reply.answer (settle libs.toExternal runtime.store command now) node.sys.db))⟩ }
  | stops : Node.Moves libs runtime node .recoverStop { node with pass := none }

variable {event : Event}

section

variable (h : node.Sound libs runtime)
include h

theorem Node.Sound.moves
    (hStep : node.step libs runtime event = some next) : node.Moves libs runtime event next := by
  cases event with
  | environment call =>
    simp only [step, Option.ite_none_left_eq_some, Option.some.injEq, Bool.not_eq_true] at hStep
    obtain ⟨hForeign, rfl⟩ := hStep
    exact .environment call hForeign
  | inspected task requestId virtualKeyId =>
    simp only [step, Option.ite_none_right_eq_some, Option.some.injEq,
      Option.isNone_iff_eq_none] at hStep
    obtain ⟨⟨hAbsent, -⟩, rfl⟩ := hStep
    exact .inspects task requestId virtualKeyId hAbsent
  | hook task intentId snapshot =>
    simp only [step, Option.bind_eq_bind, Option.bind_eq_some_iff,
      Option.ite_none_right_eq_some, Option.some.injEq] at hStep
    obtain ⟨request, hRequest, hStage, rfl⟩ := hStep
    have hBlank : (node.scope request).budget.Blank :=
      ((h.requests task request hRequest).fresh hStage).1
    rcases Scope.hookBegin_cases hBlank with hRefuses | ⟨create, hReserves⟩
    · exact .runs task request _ False _ hRequest rfl (by simp) (.refuses hBlank hRefuses)
        False.elim
    · exact .reserves task request _ create _ hRequest rfl (by simp) hReserves
  | hookRefused task =>
    simp only [step, Option.bind_eq_bind, Option.bind_eq_some_iff,
      Option.ite_none_right_eq_some, Option.some.injEq] at hStep
    obtain ⟨request, hRequest, -, rfl⟩ := hStep
    exact .keeps task request _ hRequest rfl rfl (by simp) (.inl rfl)
  | abort task =>
    simp only [step, Option.bind_eq_bind, Option.bind_eq_some_iff,
      Option.ite_none_right_eq_some, Option.some.injEq] at hStep
    obtain ⟨request, hRequest, -, rfl⟩ := hStep
    exact .runs task request _ False _ hRequest rfl (by simp) (h.compensates hRequest) False.elim
  | upstream task =>
    simp only [step, Option.bind_eq_bind, Option.bind_eq_some_iff,
      Option.ite_none_right_eq_some, Option.some.injEq] at hStep
    obtain ⟨request, hRequest, -, rfl⟩ := hStep
    exact .keeps task request _ hRequest rfl rfl (fun hStage => hStage ▸ hStage) (.inl rfl)
  | finalize task fact =>
    simp only [step, Option.bind_eq_bind, Option.bind_eq_some_iff,
      Option.ite_none_right_eq_some, Option.some.injEq] at hStep
    obtain ⟨request, hRequest, -, rfl⟩ := hStep
    exact .runs task request _ False _ hRequest rfl (by simp) (h.finalizes hRequest) False.elim
  | execute task reply now =>
    simp only [step, Option.bind_eq_bind, Option.bind_eq_some_iff] at hStep
    obtain ⟨request, hRequest, hExecute⟩ := hStep
    obtain ⟨activity, sys', activity', hActivity, hExecutes, rfl⟩ := execute_cases hExecute
    exact .executes task request reply now activity activity' sys' hRequest hActivity hExecutes
  | resume task =>
    simp only [step, Option.bind_eq_bind, Option.bind_eq_some_iff] at hStep
    obtain ⟨request, hRequest, hResume⟩ := hStep
    obtain ⟨activity, outcome, hActivity, rfl, hRuns⟩ := h.resumes hRequest hResume
    exact .runs task request request _ outcome hRequest rfl
      ((h.requests task request hRequest).stage_ne hActivity) hRuns
      fun hAcknowledges => ⟨activity, hActivity, hAcknowledges⟩
  | timeout task =>
    simp only [step, Option.bind_eq_bind, Option.bind_eq_some_iff,
      Option.ite_none_right_eq_some, Option.some.injEq] at hStep
    obtain ⟨request, hRequest, -, rfl⟩ := hStep
    exact .keeps task request _ hRequest rfl rfl (fun _ => rfl) (.inr rfl)
  | drop task =>
    simp only [step, Option.bind_eq_bind, Option.bind_eq_some_iff, Option.some.injEq] at hStep
    obtain ⟨request, hRequest, rfl⟩ := hStep
    exact .drops task request hRequest
  | recover requestIds =>
    simp only [step, Option.ite_none_right_eq_some, Option.some.injEq] at hStep
    obtain ⟨⟨-, hNodup⟩, rfl⟩ := hStep
    exact .takes requestIds hNodup
  | recoverNext =>
    simp only [step, Option.bind_eq_bind, Option.bind_eq_some_iff] at hStep
    obtain ⟨pass, hPass, hNext⟩ := hStep
    obtain ⟨snapshot, queue, rfl, hCases⟩ := h.recoverNexts hPass hNext
    rcases hCases with ⟨-, rfl⟩ | ⟨-, create, rfl, hVisited, hRecovers⟩
    · exact .skips snapshot queue hPass
    · exact .visits _ snapshot queue create False _ rfl hPass (h.pass _ hPass).apart
        (fun _ hMem => List.mem_cons_of_mem _ hMem) hVisited hRecovers False.elim
  | recoverLookup visible reply =>
    simp only [step, Option.bind_eq_bind, Option.bind_eq_some_iff] at hStep
    obtain ⟨pass, hPass, hLookup⟩ := hStep
    obtain ⟨snapshot, create, hActivity, rfl⟩ := recoverLookup_cases hLookup
    exact .looksUp pass snapshot create visible reply hPass hActivity
  | recoverSettle reply now =>
    simp only [step, Option.bind_eq_bind, Option.bind_eq_some_iff] at hStep
    obtain ⟨pass, hPass, hSettle⟩ := hStep
    obtain ⟨snapshot, command, hActivity, rfl⟩ := recoverSettle_cases hSettle
    exact .settles pass snapshot command reply now hPass hActivity
  | recoverResume =>
    simp only [step, Option.bind_eq_bind, Option.bind_eq_some_iff] at hStep
    obtain ⟨pass, hPass, hResume⟩ := hStep
    obtain ⟨snapshot, create, outcome, hSubject, rfl, hVisited, hRecovers⟩ :=
      h.recoverResumes hPass hResume
    have hApart := (h.pass pass hPass).apart
    rw [hSubject] at hApart
    exact .visits pass snapshot pass.queue create _ outcome rfl hPass hApart (fun _ hMem => hMem)
      hVisited hRecovers fun hAcknowledges => ⟨hSubject, hAcknowledges⟩
  | recoverStop =>
    simp only [step, Option.ite_none_right_eq_some, Option.some.injEq] at hStep
    obtain ⟨-, rfl⟩ := hStep
    exact .stops

theorem Node.Sound.move (hMoves : node.Moves libs runtime event next) :
    next.Sound libs runtime := by
  cases hMoves with
  | environment call _ => exact h.withSystem _
  | inspects task requestId virtualKeyId hAbsent => exact h.inspects hAbsent
  | keeps task request request' hRequest hId hBudget hStage hActivity =>
    have hSound := h.requests task request hRequest
    refine h.keeps hRequest hId hBudget (fun hInspected => ?_) fun activity hSome => ?_
    · have hIdle := (hSound.fresh ((hStage hInspected).symm.trans hInspected)).2
      refine ⟨hStage hInspected, hActivity.elim id fun hNone => hNone.trans hIdle.symm⟩
    · rcases hActivity with hSame | hNone
      · exact hSound.fits activity (hSame.symm.trans hSome)
      · rw [hNone] at hSome
        cases hSome
  | reserves task request staged create outcome hRequest hId hStage hReserves =>
    exact h.reserves hRequest hId hStage hReserves
  | runs task request staged mayRelease outcome hRequest hId hStage hRuns _ =>
    exact h.runs hRequest hId hStage hRuns
  | executes task request reply now activity activity' sys' hRequest hActivity hExecutes =>
    exact h.executes hRequest hActivity hExecutes
  | drops task request hRequest => exact h.drops hRequest
  | takes requestIds hNodup => exact h.takes hNodup
  | skips snapshot queue hPass =>
    have hSound := h.pass _ hPass
    refine h.withPass ?_
    rintro _ ⟨rfl⟩
    exact ⟨(List.nodup_cons.mp hSound.apart).2,
      fun waiting hMem => hSound.queue waiting (List.mem_cons_of_mem _ hMem), trivial⟩
  | visits pass snapshot queue create mayRelease outcome _ hPass hApart hWaiting hVisited
      hRecovers _ =>
    exact h.visits hApart (fun waiting hMem => (h.pass pass hPass).queue waiting
      (hWaiting waiting hMem)) hVisited hRecovers
  | looksUp pass snapshot create visible reply hPass hActivity =>
    obtain ⟨hApart, hQueue, hFits⟩ := h.pass pass hPass
    rw [hActivity] at hApart hFits
    refine h.withPass ?_
    rintro _ ⟨rfl⟩
    refine ⟨hApart, hQueue, hFits.1, fun record hAnswer => ?_⟩
    cases visible with
    | false => cases hAnswer
    | true =>
      have hOk : reply.answer (lookupIntent runtime.store create.lookup) node.sys.db =
          .ok (some record) := Option.some.inj hAnswer
      exact ((Reply.of_ok lookupIntent_answers hOk).2.2 record rfl).1
  | settles pass snapshot command reply now hPass hActivity =>
    obtain ⟨hApart, hQueue, hFits⟩ := h.pass pass hPass
    rw [hActivity] at hApart hFits
    refine (h.withSystem _).withPass ?_
    rintro _ ⟨rfl⟩
    exact ⟨hApart, hQueue, hFits⟩
  | stops => exact h.withPass (by simp)

theorem Node.Sound.step
    (hStep : node.step libs runtime event = some next) : next.Sound libs runtime :=
  h.move (h.moves hStep)

theorem Node.Sound.run {events : List Event}
    (hRun : node.run libs runtime events = some next) : next.Sound libs runtime := by
  induction events generalizing node with
  | nil =>
    cases hRun
    exact h
  | cons event events ih =>
    obtain ⟨middle, hStep, hRest⟩ := Option.bind_eq_some_iff.mp hRun
    exact ih (h.step hStep) hRest

end

end Soundness

end KongRust.Enforcement

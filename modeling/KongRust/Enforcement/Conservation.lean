import KongRust.Enforcement.Guards
import KongRust.Enforcement.Orphans

/-!
# The registry never forgets a dispatch

The invariants of the registry over every order of calls. The counter is the number of entries and
of the updates that are half done. An entry whose dispatch was committed or may have been stays
conservative until its own guard says that nothing was sent: neither the drop of the guard nor the
recovery makes a settlement without costs of it.
-/

namespace KongRust.Enforcement

open Budget Fallible Transaction ActiveBudgetIntentRegistry

variable {libs : Libraries} {registry registry' : ActiveBudgetIntentRegistry}
  {traffic traffic' : Traffic} {requestId : String}

/-! ## What the updates write -/

namespace ActiveBudgetIntentRegistry

theorem claimSlot_ok (h : registry.claimSlot requestId = .ok registry') :
    registry.activeEntries < registry.maxEntries ∧
      registry' = { registry with activeEntries := registry.activeEntries + 1 } := by
  simp only [claimSlot, bind, Except.bind, throw, throwThe, MonadExceptOf.throw, pure,
    Except.pure] at h
  split at h
  · cases h
  split at h
  · cases h
  split at h
  · cases h
  · next hRoom =>
    cases h
    exact ⟨Nat.lt_of_not_le hRoom, rfl⟩

variable {data : ActiveBudgetIntentData}

theorem size_put_new (h : registry.entry requestId = none) :
    (registry.put requestId data).size = registry.size + 1 := by
  change (registry.entries.insert requestId data).entries.length = _
  rw [Table.length_entries, Table.total_insert h, size, Table.length_entries, Nat.add_comm]

theorem size_put {data' : ActiveBudgetIntentData} (h : registry.entry requestId = some data) :
    (registry.put requestId data').size = registry.size := by
  have hTotal : Table.total (fun _ => 1) (registry.entries.insert requestId data') + 1 =
      1 + Table.total (fun _ => 1) registry.entries := Table.total_replace h
  rw [← Table.length_entries, ← Table.length_entries] at hTotal
  change (registry.entries.insert requestId data').entries.length = registry.entries.entries.length
  omega

theorem size_erase (h : registry.entry requestId = some data) :
    (registry.entries.erase requestId).entries.length + 1 = registry.size := by
  rw [Table.length_entries, size, Table.length_entries]
  exact Table.total_erase h

theorem removeEntry_some (h : registry.removeEntry requestId = some registry') :
    ∃ data, registry.entry requestId = some data ∧
      registry' = { registry with entries := registry.entries.erase requestId } := by
  unfold removeEntry at h
  split at h
  · next hPresent =>
    cases h
    obtain ⟨data, hEntry⟩ := Option.isSome_iff_exists.mp hPresent
    exact ⟨data, hEntry, rfl⟩
  · cases h

theorem insertEntry_some (h : registry.insertEntry requestId = some registry') :
    registry.entry requestId = none ∧
      registry' = registry.put requestId ⟨none, .preparing, true, none, none⟩ := by
  unfold insertEntry at h
  split at h
  · cases h
  · next hAbsent =>
    cases h
    exact ⟨by simpa using hAbsent, rfl⟩

end ActiveBudgetIntentRegistry

/-! ## What the calls of a guard change -/

/-- The calls of a guard, with the entry before and after. -/
def GuardCall.Leads (data data' : ActiveBudgetIntentData) : GuardCall → Prop
  | .prepared _ => data.state = .preparing ∧ data'.state = .activePrepared ∧
      data'.settlement = data.settlement
  | .dispatchCommitPending => data.state = .activePrepared ∧
      data'.state = .dispatchCommitPending ∧ data'.settlement = data.settlement
  | .dispatchRolledBack => data.state = .dispatchCommitPending ∧
      data'.state = .activePrepared ∧ data'.settlement = data.settlement
  | .dispatching => data.state = .dispatchCommitPending ∧ data'.state = .activeDispatching ∧
      data'.settlement = data.settlement
  | .settlement command => data.state ∈ [.activeDispatching, .retryWithFact] ∧
      data'.state = .retryWithFact ∧ data'.settlement = some command
  | .needsSafeZero => data'.state = .needsSafeZero ∧ data'.settlement = data.settlement
  | .safeZeroSettlement command => data'.state = .needsSafeZero ∧ data'.settlement = some command
  | .needsUnresolved =>
      data.state ∈ [.dispatchCommitPending, .activeDispatching, .retryWithFact] ∧
      data'.state = .needsUnresolved ∧ data'.settlement = data.settlement

theorem GuardCall.perform_ok {call : GuardCall} {guard : BudgetIntentGuard}
    (h : call.perform guard registry = .ok registry') :
    ∃ data data', registry.entry guard.requestId = some data ∧
      registry' = registry.put guard.requestId data' ∧ data'.guardAlive = data.guardAlive ∧
      call.Leads data data' := by
  cases call with
  | prepared intentId | dispatchCommitPending | dispatchRolledBack | dispatching =>
    obtain ⟨data, hEntry, hState, rfl⟩ := transition_ok h
    exact ⟨data, _, hEntry, rfl, rfl, List.mem_singleton.mp hState, rfl, rfl⟩
  | settlement command =>
    obtain ⟨_, _, hMoved⟩ := bind_eq_ok.mp h
    obtain ⟨data, hEntry, hState, rfl⟩ := transition_ok hMoved
    exact ⟨data, _, hEntry, rfl, rfl, hState, rfl, rfl⟩
  | needsSafeZero =>
    obtain ⟨data, hEntry, -, rfl⟩ := transition_ok h
    exact ⟨data, _, hEntry, rfl, rfl, rfl, rfl⟩
  | safeZeroSettlement command =>
    obtain ⟨_, _, hMoved⟩ := bind_eq_ok.mp h
    obtain ⟨data, hEntry, -, rfl⟩ := transition_ok hMoved
    exact ⟨data, _, hEntry, rfl, rfl, rfl, rfl⟩
  | needsUnresolved =>
    obtain ⟨data, hEntry, hState, rfl⟩ := transition_ok h
    exact ⟨data, _, hEntry, rfl, rfl, hState, rfl, rfl⟩

variable {guard : BudgetIntentGuard} {data : ActiveBudgetIntentData}

variable {command : CreateBudgetIntent} {claims : List String} {releases : Nat}

theorem recordCreateCommand_writes (registry : ActiveBudgetIntentRegistry)
    (h : validateCreateCommand libs.toExternal guard.requestId command = .ok ()) :
    (guard.recordCreateCommand registry libs.toExternal command).2 = registry ∨
      ∃ data, registry.entry guard.requestId = some data ∧ data.state = .preparing ∧
        (guard.recordCreateCommand registry libs.toExternal command).2 =
          registry.put guard.requestId { data with createCommand := some command } := by
  unfold BudgetIntentGuard.recordCreateCommand
  rw [h]
  dsimp only
  split
  · exact .inl rfl
  · next data hEntry =>
    split
    · exact .inl rfl
    · next hState =>
      split
      · exact .inl rfl
      · exact .inr ⟨data, hEntry, not_not.mp hState, rfl⟩

/-! ## The invariant -/

/-- The states of an entry whose request may have reached the upstream. -/
def conservativeStates : List ActiveBudgetIntentState :=
  [.dispatchCommitPending, .activeDispatching, .retryWithFact, .needsUnresolved]

structure ActiveBudgetIntentData.Consistent (data : ActiveBudgetIntentData) : Prop where
  guarded : data.state ∈ guardedStates → data.guardAlive = true ∧ data.settlement = none
  fact : data.state = .retryWithFact → data.settlement ≠ none

theorem ActiveBudgetIntentData.Consistent.not_conservative
    (h : data.Consistent) (hDead : data.guardAlive = false) (hSettlement : data.settlement = none)
    (hState : data.state ≠ .needsUnresolved) : data.state ∉ conservativeStates := by
  have hGuarded : data.state ∉ guardedStates := by
    intro hGuarded
    rw [(h.guarded hGuarded).1] at hDead
    cases hDead
  have hFact : data.state ≠ .retryWithFact := fun hRetry => h.fact hRetry hSettlement
  unfold guardedStates at hGuarded
  unfold conservativeStates
  cases hData : data.state <;> simp_all

namespace RecoveryStage

/-- What the recovery of an entry relies on. -/
def Fits (registry : ActiveBudgetIntentRegistry) (snapshot : ActiveBudgetIntentSnapshot) :
    RecoveryStage → Prop
  | .lookingUp _ | .marking _ _ =>
    registry.entry snapshot.requestId = some snapshot.toActiveBudgetIntentData ∧
      snapshot.settlement = none
  | .recording command unresolved => ∃ data, registry.entry snapshot.requestId = some data ∧
      data.guardAlive = false ∧ (unresolved = true → command.cost.status = .unavailable) ∧
      (unresolved = false → data.state ∉ conservativeStates)
  | .settling command => ∃ data, registry.entry snapshot.requestId = some data ∧
      data.guardAlive = false ∧ data.settlement = some command
  | .acknowledging => ∃ data, registry.entry snapshot.requestId = some data ∧
      data.guardAlive = false

theorem Fits.frame {snapshot : ActiveBudgetIntentSnapshot} {stage : RecoveryStage}
    (h : stage.Fits registry snapshot) (hDead : snapshot.guardAlive = false)
    (hKeeps : ∀ requestId data, registry.entry requestId = some data → data.guardAlive = false →
      registry'.entry requestId = some data) : stage.Fits registry' snapshot := by
  cases stage with
  | lookingUp create | marking create record => exact ⟨hKeeps _ _ h.1 hDead, h.2⟩
  | recording command unresolved | settling command =>
    obtain ⟨data, hEntry, hData, hRest⟩ := h
    exact ⟨data, hKeeps _ _ hEntry hData, hData, hRest⟩
  | acknowledging =>
    obtain ⟨data, hEntry, hData⟩ := h
    exact ⟨data, hKeeps _ _ hEntry hData, hData⟩

end RecoveryStage

def Sweep.pending (sweep : Sweep) : List ActiveBudgetIntentSnapshot :=
  (sweep.current.map Prod.fst).toList ++ sweep.queue

structure Sweep.Fits (registry : ActiveBudgetIntentRegistry) (sweep : Sweep) : Prop where
  collecting : sweep.collecting = true → sweep.current = none
  distinct : (sweep.pending.map (·.requestId)).Nodup
  queue : ∀ snapshot ∈ sweep.queue, snapshot.guardAlive = false →
    registry.entry snapshot.requestId = some snapshot.toActiveBudgetIntentData
  current : ∀ snapshot stage, sweep.current = some (snapshot, stage) →
    snapshot.guardAlive = false ∧ stage.Fits registry snapshot

theorem Sweep.Fits.frame {sweep : Sweep} (h : sweep.Fits registry)
    (hKeeps : ∀ requestId data, registry.entry requestId = some data → data.guardAlive = false →
      registry'.entry requestId = some data) : sweep.Fits registry' where
  collecting := h.collecting
  distinct := h.distinct
  queue snapshot hQueue hDead := hKeeps _ _ (h.queue snapshot hQueue hDead) hDead
  current snapshot stage hCurrent :=
    ⟨(h.current snapshot stage hCurrent).1,
      (h.current snapshot stage hCurrent).2.frame (h.current snapshot stage hCurrent).1 hKeeps⟩

/-- The counter counts the entries and the updates that are half done. -/
structure Traffic.Counted (maxEntries : Nat) (traffic : Traffic) : Prop where
  counter : traffic.registry.activeEntries =
    traffic.registry.size + traffic.claims.length + traffic.releases
  capacity : traffic.registry.maxEntries = maxEntries
  bounded : traffic.registry.activeEntries ≤ maxEntries

structure Traffic.Sound (traffic : Traffic) : Prop where
  held : ∀ guard ∈ traffic.guards, ∃ data,
    traffic.registry.entry guard.requestId = some data ∧ data.guardAlive = true
  distinct : traffic.guards.Nodup
  entries : ∀ requestId data, traffic.registry.entry requestId = some data → data.Consistent
  sweep : ∀ sweep, traffic.sweep = some sweep → sweep.Fits traffic.registry

open Traffic

theorem Traffic.Sound.write {guards : List BudgetIntentGuard} {sweep : Option Sweep}
    (h : traffic.Sound) (hOthers : ∀ other, other ≠ requestId →
      registry'.entry other = traffic.registry.entry other)
    (hKept : ∀ guard ∈ guards, guard.requestId ≠ requestId → guard ∈ traffic.guards)
    (hHeld : ∀ guard ∈ guards, guard.requestId = requestId →
      ∃ data, registry'.entry requestId = some data ∧ data.guardAlive = true)
    (hDistinct : guards.Nodup)
    (hConsistent : ∀ data, registry'.entry requestId = some data → data.Consistent)
    (hSweep : ∀ running, sweep = some running → running.Fits registry') :
    Sound ⟨registry', claims, releases, guards, sweep⟩ where
  held guard hGuard := by
    by_cases hSame : guard.requestId = requestId
    · rw [hSame]
      exact hHeld guard hGuard hSame
    · rw [hOthers _ hSame]
      exact h.held guard (hKept guard hGuard hSame)
  distinct := hDistinct
  entries other data hEntry := by
    by_cases hSame : other = requestId
    · subst hSame
      exact hConsistent data hEntry
    · rw [hOthers _ hSame] at hEntry
      exact h.entries other data hEntry
  sweep := hSweep

theorem Traffic.Sound.others {other : BudgetIntentGuard} (h : traffic.Sound)
    (hOther : other ∈ traffic.guards.erase guard) :
    other ∈ traffic.guards ∧ other.requestId ≠ guard.requestId := by
  obtain ⟨hDiffers, hHeld⟩ := h.distinct.mem_erase_iff.mp hOther
  refine ⟨hHeld, fun hSame => hDiffers ?_⟩
  obtain ⟨otherId⟩ := other
  obtain ⟨guardId⟩ := guard
  exact congrArg BudgetIntentGuard.mk hSame

theorem Traffic.Sound.keepsDead
    (hEntry : traffic.registry.entry requestId = some data) (hAlive : data.guardAlive = true)
    (hOthers : ∀ other, other ≠ requestId → registry'.entry other = traffic.registry.entry other) :
    ∀ other found, traffic.registry.entry other = some found → found.guardAlive = false →
      registry'.entry other = some found := by
  intro other found hFound hDead
  by_cases hSame : other = requestId
  · subst hSame
    rw [hEntry] at hFound
    cases hFound
    rw [hAlive] at hDead
    cases hDead
  · rw [hOthers _ hSame, hFound]

/-! ## Guards keep the invariant -/

section

variable (h : traffic.Sound)
include h

theorem Traffic.Sound.count (hEntries : registry'.entries = traffic.registry.entries) :
    Sound ⟨registry', claims, releases, traffic.guards, traffic.sweep⟩ := by
  have hSame : ∀ requestId, registry'.entry requestId = traffic.registry.entry requestId := by
    intro requestId
    unfold entry
    rw [hEntries]
  refine ⟨fun guard hGuard => ?_, h.distinct, fun requestId data hEntry => ?_,
    fun sweep hSweep => ?_⟩
  · rw [hSame]
    exact h.held guard hGuard
  · rw [hSame] at hEntry
    exact h.entries requestId data hEntry
  · exact (h.sweep sweep hSweep).frame fun other data hEntry _ => (hSame other).trans hEntry

theorem Traffic.Sound.claim : (traffic.claim requestId).Sound := by
  unfold Traffic.claim
  split
  · exact h
  · next claimed hClaimed =>
    obtain ⟨-, rfl⟩ := claimSlot_ok hClaimed
    exact h.count rfl

theorem Traffic.Sound.insert : (traffic.insert requestId).Sound := by
  unfold Traffic.insert
  dsimp only
  split
  · exact h.count rfl
  · next inserted hInserted =>
    obtain ⟨hAbsent, rfl⟩ := insertEntry_some hInserted
    have hFree : ∀ guard ∈ traffic.guards, guard.requestId ≠ requestId := by
      intro guard hGuard hSame
      obtain ⟨data, hEntry, -⟩ := h.held guard hGuard
      rw [hSame, hAbsent] at hEntry
      cases hEntry
    have hOthers : ∀ other, other ≠ requestId →
        (traffic.registry.put requestId ⟨none, .preparing, true, none, none⟩).entry other =
          traffic.registry.entry other :=
      fun _ hOther => entry_put_ne hOther
    refine h.write hOthers ?_ ?_ ?_ ?_ ?_
    · intro guard hGuard hDiffers
      rcases List.mem_cons.mp hGuard with rfl | hHeld
      · exact absurd rfl hDiffers
      · exact hHeld
    · intro guard hGuard hSame
      exact ⟨_, entry_put, rfl⟩
    · refine List.nodup_cons.mpr ⟨fun hHeld => hFree _ hHeld rfl, h.distinct⟩
    · intro data hEntry
      rw [entry_put] at hEntry
      cases hEntry
      exact ⟨fun _ => ⟨rfl, rfl⟩, by simp⟩
    · intro sweep hSweep
      refine (h.sweep sweep hSweep).frame fun other data hEntry _ => ?_
      by_cases hSame : other = requestId
      · subst hSame
        rw [hAbsent] at hEntry
        cases hEntry
      · rw [hOthers _ hSame, hEntry]

theorem Traffic.Sound.rewrite {data' : ActiveBudgetIntentData} (hGuard : guard ∈ traffic.guards)
    (hEntry : traffic.registry.entry guard.requestId = some data)
    (hAlive : data'.guardAlive = data.guardAlive) (hConsistent : data'.Consistent) :
    Sound { traffic with registry := traffic.registry.put guard.requestId data' } := by
  obtain ⟨found, hFound, hFoundAlive⟩ := h.held guard hGuard
  rw [hEntry] at hFound
  cases hFound
  have hOthers : ∀ other, other ≠ guard.requestId →
      (traffic.registry.put guard.requestId data').entry other = traffic.registry.entry other :=
    fun _ hOther => entry_put_ne hOther
  refine h.write hOthers (fun _ hHeld _ => hHeld) ?_ h.distinct ?_ fun sweep hSweep => ?_
  · intro other hHeld hSame
    exact ⟨data', entry_put, hAlive.trans hFoundAlive⟩
  · intro written hWritten
    rw [entry_put] at hWritten
    cases hWritten
    exact hConsistent
  · exact (h.sweep sweep hSweep).frame (Traffic.Sound.keepsDead hEntry hFoundAlive hOthers)

theorem Traffic.Sound.retire (hGuard : guard ∈ traffic.guards) :
    ((traffic.retires guard).removes guard.requestId).Sound := by
  obtain ⟨data, hEntry, hAlive⟩ := h.held guard hGuard
  have hRemoved : (traffic.retires guard).registry.removeEntry guard.requestId =
      some { traffic.registry with
        entries := traffic.registry.entries.erase guard.requestId } :=
    if_pos (Option.isSome_of_mem hEntry)
  unfold removes
  rw [hRemoved]
  have hOthers : ∀ other, other ≠ guard.requestId →
      ({ traffic.registry with entries := traffic.registry.entries.erase guard.requestId } :
        ActiveBudgetIntentRegistry).entry other = traffic.registry.entry other :=
    fun _ hOther => AList.lookup_erase_ne hOther
  refine h.write hOthers (fun _ hHeld _ => (h.others hHeld).1) ?_ (h.distinct.erase guard) ?_
    fun sweep hSweep => ?_
  · intro other hHeld hSame
    exact absurd hSame (h.others hHeld).2
  · intro found hFound
    change (traffic.registry.entries.erase guard.requestId).lookup guard.requestId = _ at hFound
    rw [AList.lookup_erase] at hFound
    cases hFound
  · exact (h.sweep sweep hSweep).frame (Traffic.Sound.keepsDead hEntry hAlive hOthers)

end

theorem ActiveBudgetIntentData.Consistent.dropped
    (h : data.Consistent) : ({ data with
      guardAlive := false
      state := droppedState data.state } :
        ActiveBudgetIntentData).Consistent := by
  have hFact := h.fact
  cases hState : data.state <;> exact ⟨by simp [droppedState, guardedStates],
      by simp [droppedState, hFact, hState]⟩

theorem Traffic.Sound.drop (h : traffic.Sound)
    (hGuard : guard ∈ traffic.guards) : Sound { traffic.retires guard with
      registry := traffic.registry.guardDropped guard.requestId } := by
  obtain ⟨data, hEntry, hAlive⟩ := h.held guard hGuard
  have hOthers : ∀ other, other ≠ guard.requestId →
      (traffic.registry.guardDropped guard.requestId).entry other = traffic.registry.entry other :=
    fun _ hOther => entry_guardDropped_ne hOther
  refine h.write hOthers (fun _ hHeld _ => (h.others hHeld).1) ?_ (h.distinct.erase guard) ?_
    fun sweep hSweep => ?_
  · intro other hHeld hSame
    exact absurd hSame (h.others hHeld).2
  · intro found hFound
    rw [entry_guardDropped, hEntry] at hFound
    cases hFound
    exact (h.entries _ _ hEntry).dropped
  · exact (h.sweep sweep hSweep).frame (Traffic.Sound.keepsDead hEntry hAlive hOthers)

theorem Traffic.Sound.create (h : traffic.Sound) (hGuard : guard ∈ traffic.guards) :
    (traffic.create libs guard command).Sound := by
  unfold Traffic.create
  split
  · exact h.retire hGuard
  · next hValid =>
    rcases recordCreateCommand_writes traffic.registry hValid with
      hSame | ⟨data, hEntry, -, hWritten⟩
    · rw [hSame]
      exact h
    · rw [hWritten]
      have hConsistent := h.entries _ _ hEntry
      exact h.rewrite hGuard hEntry rfl ⟨hConsistent.guarded, hConsistent.fact⟩

/-- A call of a guard keeps an entry that is alive consistent. -/
theorem GuardCall.Leads.consistent {call : GuardCall} {data data' : ActiveBudgetIntentData}
    (h : call.Leads data data') (hConsistent : data.Consistent)
    (hAlive : data'.guardAlive = true) : data'.Consistent := by
  have hUnsettled : ∀ {state : ActiveBudgetIntentState}, data.state = state →
      state ∈ guardedStates → data.settlement = none := by
    rintro _ rfl hGuarded
    exact (hConsistent.guarded hGuarded).2
  cases call with
  | prepared intentId | dispatchCommitPending | dispatchRolledBack | dispatching =>
    obtain ⟨hBefore, hAfter, hSame⟩ := h
    rw [hUnsettled hBefore (by simp [guardedStates])] at hSame
    exact ⟨fun _ => ⟨hAlive, hSame⟩, by simp [hAfter]⟩
  | settlement command =>
    obtain ⟨-, hAfter, hSame⟩ := h
    exact ⟨by simp [hAfter, guardedStates], by simp [hSame]⟩
  | needsSafeZero | safeZeroSettlement command =>
    obtain ⟨hAfter, -⟩ := h
    exact ⟨by simp [hAfter, guardedStates], by simp [hAfter]⟩
  | needsUnresolved =>
    obtain ⟨-, hAfter, -⟩ := h
    exact ⟨by simp [hAfter, guardedStates], by simp [hAfter]⟩

theorem Traffic.Sound.call {guard : BudgetIntentGuard} {call : GuardCall} (h : traffic.Sound)
    (hGuard : guard ∈ traffic.guards) : (traffic.call guard call).Sound := by
  unfold Traffic.call
  split
  · exact h
  · next performed hPerformed =>
    obtain ⟨data, data', hEntry, rfl, hAlive, hLeads⟩ := GuardCall.perform_ok hPerformed
    obtain ⟨found, hFound, hFoundAlive⟩ := h.held guard hGuard
    rw [hEntry] at hFound
    cases hFound
    exact h.rewrite hGuard hEntry hAlive
      (hLeads.consistent (h.entries _ _ hEntry) (hAlive.trans hFoundAlive))

/-! ## The recovery keeps the invariant -/

section Recovery

variable {sweep : Sweep} {snapshot : ActiveBudgetIntentSnapshot}
  {queue : List ActiveBudgetIntentSnapshot} {data data' : ActiveBudgetIntentData}

variable {create : CreateBudgetIntent} {intentId : Uuid} {stage : RecoveryStage}

theorem recoveryCommand_unavailable {command : SettleBudgetIntent}
    (h : recoveryCommand libs create requestId intentId true = .ok command) :
    command.cost.status = .unavailable := by
  obtain ⟨cost, hCost, hCommand⟩ := bind_eq_ok.mp h
  cases hCommand
  cases hCost
  rfl

theorem knownStage_fits {dispatching : Bool}
    (h : knownStage libs snapshot create intentId dispatching = some stage)
    (hEntry : registry.entry snapshot.requestId = some data) (hDead : data.guardAlive = false)
    (hState : snapshot.state ≠ .needsUnresolved → dispatching = false →
      data.state ∉ conservativeStates) : stage.Fits registry snapshot := by
  unfold knownStage at h
  dsimp only at h
  split at h
  · cases h
  · next command hCommand =>
    cases h
    refine ⟨data, hEntry, hDead, fun hUnresolved => ?_, fun hKnown => ?_⟩
    · rw [hUnresolved] at hCommand
      exact recoveryCommand_unavailable hCommand
    · obtain ⟨hSnapshot, hDispatching⟩ := Bool.or_eq_false_iff.mp hKnown
      exact hState (by simpa using hSnapshot) hDispatching

theorem beginStage_fits (h : beginStage libs snapshot = some stage)
    (hEntry : snapshot.guardAlive = false →
      registry.entry snapshot.requestId = some snapshot.toActiveBudgetIntentData)
    (hConsistent : snapshot.guardAlive = false → snapshot.toActiveBudgetIntentData.Consistent) :
    snapshot.guardAlive = false ∧ stage.Fits registry snapshot := by
  unfold beginStage at h
  split at h
  · cases h
  · next hAlive =>
    have hDead : snapshot.guardAlive = false := by simpa using hAlive
    have hFound := hEntry hDead
    refine ⟨hDead, ?_⟩
    split at h
    · next command hSettlement =>
      cases h
      exact ⟨_, hFound, hDead, hSettlement⟩
    · next hSettlement =>
      split at h
      · cases h
      · next create hCreate =>
        split at h
        · cases h
          exact ⟨hFound, hSettlement⟩
        · next intentId hIntent =>
          exact knownStage_fits h hFound hDead fun hState _ =>
            (hConsistent hDead).not_conservative hDead hSettlement hState

section

variable (hDistinct : ((snapshot :: queue).map (·.requestId)).Nodup)
include hDistinct

theorem differs_of_waiting {waiting : ActiveBudgetIntentSnapshot} (hWaiting : waiting ∈ queue) :
    waiting.requestId ≠ snapshot.requestId :=
  fun hSame => (List.nodup_cons.mp hDistinct).1 (List.mem_map.mpr ⟨waiting, hWaiting, hSame⟩)

section

variable
  (hQueue : ∀ waiting ∈ queue, waiting.guardAlive = false →
    registry.entry waiting.requestId = some waiting.toActiveBudgetIntentData)
include hQueue

theorem Sweep.Fits.goOn {stage : Option RecoveryStage}
    (hStage : ∀ next, stage = some next →
      snapshot.guardAlive = false ∧ next.Fits registry snapshot) :
    Sweep.Fits registry ⟨false, queue, stage.map fun stage => (snapshot, stage)⟩ where
  collecting := by simp
  distinct := by
    cases stage with
    | none => exact (List.nodup_cons.mp hDistinct).2
    | some next => exact hDistinct
  queue := hQueue
  current visited next hCurrent := by
    obtain ⟨found, hFound, hPair⟩ := Option.map_eq_some_iff.mp hCurrent
    cases hPair
    exact hStage _ hFound

theorem Sweep.Fits.skip : Sweep.Fits registry ⟨false, queue, none⟩ where
  collecting _ := rfl
  distinct := (List.nodup_cons.mp hDistinct).2
  queue := hQueue
  current visited stage hCurrent := by cases hCurrent

end

end

section

variable (h : traffic.Sound)
include h

theorem Traffic.Sound.reads {stage : Option RecoveryStage}
    (hSweep : Sweep.Fits traffic.registry ⟨false, queue, stage.map fun stage => (snapshot, stage)⟩) :
    (traffic.goesOn queue snapshot traffic.registry stage).Sound :=
  ⟨h.held, h.distinct, h.entries, by rintro _ ⟨rfl⟩; exact hSweep⟩

theorem Traffic.Sound.unheld
    (hEntry : traffic.registry.entry requestId = some data) (hDead : data.guardAlive = false)
    {guard : BudgetIntentGuard} (hGuard : guard ∈ traffic.guards) :
    guard.requestId ≠ requestId := by
  rintro rfl
  obtain ⟨found, hFound, hAlive⟩ := h.held guard hGuard
  rw [hEntry] at hFound
  cases hFound
  rw [hDead] at hAlive
  cases hAlive

theorem Traffic.Sound.recover {stage : Option RecoveryStage}
    (hEntry : traffic.registry.entry snapshot.requestId = some data)
    (hDead : data.guardAlive = false) (hConsistent : data'.Consistent)
    (hSweep : Sweep.Fits (traffic.registry.put snapshot.requestId data')
      ⟨false, queue, stage.map fun stage => (snapshot, stage)⟩) :
    (traffic.goesOn queue snapshot (traffic.registry.put snapshot.requestId data') stage).Sound := by
  refine h.write (fun _ hOther => entry_put_ne hOther) (fun _ hHeld _ => hHeld) ?_ h.distinct ?_ ?_
  · intro guard hGuard hSame
    exact absurd hSame (h.unheld hEntry hDead hGuard)
  · intro written hWritten
    rw [entry_put] at hWritten
    cases hWritten
    exact hConsistent
  · rintro _ ⟨rfl⟩
    exact hSweep

theorem Traffic.Sound.removed (hEntry : traffic.registry.entry snapshot.requestId = some data)
    (hDead : data.guardAlive = false)
    (hDistinct : ((snapshot :: queue).map (·.requestId)).Nodup)
    (hQueue : ∀ waiting ∈ queue, waiting.guardAlive = false →
      traffic.registry.entry waiting.requestId = some waiting.toActiveBudgetIntentData) :
    ((traffic.goesOn queue snapshot traffic.registry none).removes snapshot.requestId).Sound := by
  have hRemoved : (traffic.goesOn queue snapshot traffic.registry none).registry.removeEntry
      snapshot.requestId = some { traffic.registry with
        entries := traffic.registry.entries.erase snapshot.requestId } :=
    if_pos (Option.isSome_of_mem hEntry)
  unfold removes
  rw [hRemoved]
  refine h.write (fun _ hOther => AList.lookup_erase_ne hOther) (fun _ hHeld _ => hHeld) ?_
    h.distinct ?_ ?_
  · intro guard hGuard hSame
    exact absurd hSame (h.unheld hEntry hDead hGuard)
  · intro found hFound
    change (traffic.registry.entries.erase snapshot.requestId).lookup snapshot.requestId = _
      at hFound
    rw [AList.lookup_erase] at hFound
    cases hFound
  · rintro _ ⟨rfl⟩
    refine Sweep.Fits.skip hDistinct fun waiting hWaiting hLost => ?_
    have hDiffers := differs_of_waiting hDistinct hWaiting
    exact (AList.lookup_erase_ne hDiffers).trans (hQueue waiting hWaiting hLost)

section

variable (hSweep : traffic.sweep = some sweep)
include hSweep

theorem Traffic.Sound.recovers {act : Act} (hCurrent : sweep.current = some (snapshot, stage))
    (hStep : traffic.recovers libs sweep snapshot stage act = some traffic') : traffic'.Sound := by
  have hFits := h.sweep sweep hSweep
  obtain ⟨hDead, hStage⟩ := hFits.current snapshot stage hCurrent
  have hDistinct : ((snapshot :: sweep.queue).map (·.requestId)).Nodup := by
    have hPending := hFits.distinct
    unfold Sweep.pending at hPending
    rw [hCurrent] at hPending
    exact hPending
  have hReads : ∀ next : Option RecoveryStage, (∀ stage, next = some stage →
      stage.Fits traffic.registry snapshot) →
      (traffic.goesOn sweep.queue snapshot traffic.registry next).Sound := fun next hNext =>
    h.reads (Sweep.Fits.goOn hDistinct hFits.queue fun stage hSome => ⟨hDead, hNext stage hSome⟩)
  have hFails : (traffic.goesOn sweep.queue snapshot traffic.registry none).Sound :=
    h.reads (Sweep.Fits.skip hDistinct hFits.queue)
  have hWaiting : ∀ {data' : ActiveBudgetIntentData}, ∀ waiting ∈ sweep.queue,
      waiting.guardAlive = false →
      (traffic.registry.put snapshot.requestId data').entry waiting.requestId =
        some waiting.toActiveBudgetIntentData := by
    intro data' waiting hWaiting hLost
    have hDiffers := differs_of_waiting hDistinct hWaiting
    exact (entry_put_ne hDiffers).trans (hFits.queue waiting hWaiting hLost)
  unfold Traffic.recovers at hStep
  split at hStep
  · next create answer =>
    cases hStep
    refine hReads _ fun next hNext => ?_
    unfold lookedUpStage at hNext
    split at hNext
    · cases hNext
    · cases hNext
      exact ⟨_, hStage.1, hDead⟩
    · split at hNext
      · cases hNext
        exact hStage
      · cases hNext
        exact ⟨_, hStage.1, hDead⟩
  · next create record =>
    dsimp only at hStep
    split at hStep
    · cases hStep
      exact hFails
    · next marked hMarked =>
      cases hStep
      obtain ⟨data, hEntry, -, rfl⟩ := transition_ok hMarked
      rw [hStage.1] at hEntry
      cases hEntry
      refine h.recover hStage.1 hDead ?_ (Sweep.Fits.goOn hDistinct hWaiting
        fun next hNext => ⟨hDead, knownStage_fits hNext entry_put hDead fun _ hPrepared => ?_⟩)
      · refine ⟨fun hGuarded => ?_, fun hRetry => ?_⟩
        · dsimp only at hGuarded
          split at hGuarded <;> simp [guardedStates] at hGuarded
        · dsimp only at hRetry
          split at hRetry <;> cases hRetry
      · rw [hPrepared]
        simp [conservativeStates]
  · next command unresolved =>
    split at hStep
    · cases hStep
      exact hFails
    · next recorded hRecorded =>
      cases hStep
      obtain ⟨_, _, hMoved⟩ := bind_eq_ok.mp hRecorded
      obtain ⟨data, hEntry, -, rfl⟩ := transition_ok hMoved
      obtain ⟨found, hFound, hFoundDead, -⟩ := hStage
      rw [hEntry] at hFound
      cases hFound
      refine h.recover hEntry hFoundDead ?_ (Sweep.Fits.goOn hDistinct hWaiting
        fun next hNext => ?_)
      · refine ⟨fun hGuarded => ?_, fun _ => by simp⟩
        dsimp only at hGuarded
        split at hGuarded <;> simp [guardedStates] at hGuarded
      · cases hNext
        exact ⟨hDead, _, entry_put, hFoundDead, rfl⟩
  · cases hStep
    exact hFails
  · cases hStep
    obtain ⟨data, hEntry, hData, -⟩ := hStage
    refine hReads _ fun next hNext => ?_
    cases hNext
    exact ⟨data, hEntry, hData⟩
  · cases hStep
    obtain ⟨data, hEntry, hData⟩ := hStage
    exact h.removed hEntry hData hDistinct hFits.queue
  · cases hStep

theorem Traffic.Sound.visits
    (hStep : traffic.visits libs sweep = some traffic') : traffic'.Sound := by
  have hFits := h.sweep sweep hSweep
  unfold Traffic.visits at hStep
  split at hStep
  · next hCurrent hQueue =>
    cases hStep
    have hDistinct := hFits.distinct
    unfold Sweep.pending at hDistinct
    rw [hCurrent, hQueue] at hDistinct
    have hEntries := hFits.queue
    rw [hQueue] at hEntries
    refine h.reads (Sweep.Fits.goOn hDistinct
      (fun waiting hWaiting => hEntries waiting (List.mem_cons_of_mem _ hWaiting))
      fun stage hStage => beginStage_fits hStage (hEntries _ List.mem_cons_self) fun hDead => ?_)
    exact h.entries _ _ (hEntries _ List.mem_cons_self hDead)
  · cases hStep

theorem Traffic.Sound.collects
    (hStep : traffic.collects sweep requestId = some traffic') : traffic'.Sound := by
  have hFits := h.sweep sweep hSweep
  unfold Traffic.collects at hStep
  split at hStep
  · next hNew =>
    obtain ⟨hCollecting, hFresh⟩ := hNew
    obtain ⟨data, hEntry, rfl⟩ := Option.map_eq_some_iff.mp hStep
    have hNone := hFits.collecting hCollecting
    refine ⟨h.held, h.distinct, h.entries, ?_⟩
    rintro _ ⟨rfl⟩
    refine ⟨fun _ => hNone, ?_, ?_, fun visited stage hCurrent => ?_⟩
    · have hDistinct := hFits.distinct
      unfold Sweep.pending at hDistinct ⊢
      rw [hNone] at hDistinct ⊢
      simp only [Option.map_none, Option.toList_none, List.nil_append] at hDistinct ⊢
      rw [List.map_append]
      exact List.nodup_append'.mpr ⟨hDistinct, List.nodup_singleton _, by simpa using hFresh⟩
    · intro waiting hWaiting hDead
      rcases List.mem_append.mp hWaiting with hOld | hNew
      · exact hFits.queue waiting hOld hDead
      · rw [List.mem_singleton.mp hNew]
        exact hEntry
    · rw [hNone] at hCurrent
      cases hCurrent
  · cases hStep

end

end

end Recovery

/-- Every step keeps the guards, the entries and the recovery in agreement. -/
theorem Traffic.Sound.step {act : Act} (h : traffic.Sound)
    (hStep : traffic.step libs act = some traffic') : traffic'.Sound := by
  unfold Traffic.step at hStep
  split at hStep
  · cases hStep
    exact h.claim
  · split at hStep
    · cases hStep
      exact h.insert
    · cases hStep
  · split at hStep
    · cases hStep
    · cases hStep
      exact h.count rfl
  · split at hStep
    · next hGuard =>
      cases hStep
      exact h.create hGuard
    · cases hStep
  · split at hStep
    · next hGuard =>
      cases hStep
      exact h.call hGuard
    · cases hStep
  · split at hStep
    · next hGuard =>
      cases hStep
      exact h.retire hGuard
    · cases hStep
  · split at hStep
    · next hGuard =>
      cases hStep
      exact h.drop hGuard
    · cases hStep
  · split at hStep
    · cases hStep
      refine ⟨h.held, h.distinct, h.entries, ?_⟩
      rintro _ ⟨rfl⟩
      exact ⟨fun _ => rfl, List.nodup_nil, by simp, by simp⟩
    · cases hStep
  · obtain ⟨sweep, hSweep, hCollects⟩ := Option.bind_eq_some_iff.mp hStep
    exact h.collects hSweep hCollects
  · obtain ⟨sweep, hSweep, hVisits⟩ := Option.bind_eq_some_iff.mp hStep
    exact h.visits hSweep hVisits
  · split at hStep
    · cases hStep
      exact ⟨h.held, h.distinct, h.entries, by simp⟩
    · cases hStep
  · obtain ⟨sweep, hSweep, hRest⟩ := Option.bind_eq_some_iff.mp hStep
    obtain ⟨⟨snapshot, stage⟩, hCurrent, hRecovers⟩ := Option.bind_eq_some_iff.mp hRest
    exact h.recovers hSweep hCurrent hRecovers

/-! ## The counter -/

namespace Traffic.Counted

variable {maxEntries : Nat} {guards : List BudgetIntentGuard} {sweep : Option Sweep}
  {data data' : ActiveBudgetIntentData}

section

variable (h : traffic.Counted maxEntries)
include h

theorem others :
    Counted maxEntries ⟨traffic.registry, traffic.claims, traffic.releases, guards, sweep⟩ :=
  ⟨h.counter, h.capacity, h.bounded⟩

theorem rewrite (hEntry : traffic.registry.entry requestId = some data) :
    Counted maxEntries ⟨traffic.registry.put requestId data', traffic.claims, traffic.releases,
      guards, sweep⟩ :=
  ⟨by rw [size_put hEntry]; exact h.counter, h.capacity, h.bounded⟩

theorem removes :
    (traffic.removes requestId).Counted maxEntries := by
  unfold Traffic.removes
  split
  · exact h
  · next removed hRemoved =>
    obtain ⟨data, hEntry, rfl⟩ := removeEntry_some hRemoved
    have hSize := size_erase hEntry
    have hCounter := h.counter
    refine ⟨?_, h.capacity, h.bounded⟩
    change traffic.registry.activeEntries =
      (traffic.registry.entries.erase requestId).entries.length + traffic.claims.length +
        (traffic.releases + 1)
    omega

theorem claim : (traffic.claim requestId).Counted maxEntries := by
  unfold Traffic.claim
  split
  · exact h
  · next claimed hClaimed =>
    obtain ⟨hRoom, rfl⟩ := claimSlot_ok hClaimed
    have hCounter := h.counter
    refine ⟨?_, h.capacity, h.capacity ▸ hRoom⟩
    change traffic.registry.activeEntries + 1 =
      traffic.registry.size + (traffic.claims.length + 1) + traffic.releases
    omega

theorem insert (hClaim : requestId ∈ traffic.claims) :
    (traffic.insert requestId).Counted maxEntries := by
  have hLength : (traffic.claims.erase requestId).length + 1 = traffic.claims.length := by
    rw [List.length_erase_of_mem hClaim]
    exact Nat.sub_add_cancel (List.length_pos_of_mem hClaim)
  have hCounter := h.counter
  unfold Traffic.insert
  dsimp only
  split
  · refine ⟨?_, h.capacity, h.bounded⟩
    dsimp only
    omega
  · next inserted hInserted =>
    obtain ⟨hAbsent, rfl⟩ := insertEntry_some hInserted
    refine ⟨?_, h.capacity, h.bounded⟩
    rw [size_put_new hAbsent]
    change traffic.registry.activeEntries = _
    dsimp only
    omega

theorem release (hPending : traffic.releases ≠ 0) :
    Counted maxEntries { traffic with
      registry := traffic.registry.releaseSlot
      releases := traffic.releases - 1 } := by
  have hCounter := h.counter
  have hBounded := h.bounded
  have hReleased : traffic.registry.releaseSlot.activeEntries =
      traffic.registry.activeEntries - 1 := if_pos (by omega)
  refine ⟨?_, h.capacity, ?_⟩
  · rw [hReleased]
    change _ = traffic.registry.size + traffic.claims.length + (traffic.releases - 1)
    omega
  · rw [hReleased]
    omega

theorem recovers {running : Sweep} {snapshot : ActiveBudgetIntentSnapshot}
    {stage : RecoveryStage} {act : Act}
    (hStep : traffic.recovers libs running snapshot stage act = some traffic') :
    traffic'.Counted maxEntries := by
  unfold Traffic.recovers at hStep
  split at hStep
  · cases hStep
    exact h.others
  · dsimp only at hStep
    split at hStep
    · cases hStep
      exact h.others
    · next marked hMarked =>
      cases hStep
      obtain ⟨data, hEntry, -, rfl⟩ := transition_ok hMarked
      exact h.rewrite hEntry
  · split at hStep
    · cases hStep
      exact h.others
    · next recorded hRecorded =>
      cases hStep
      obtain ⟨_, _, hMoved⟩ := bind_eq_ok.mp hRecorded
      obtain ⟨data, hEntry, -, rfl⟩ := transition_ok hMoved
      exact h.rewrite hEntry
  · cases hStep
    exact h.others
  · cases hStep
    exact h.others
  · cases hStep
    exact removes h.others
  · cases hStep

theorem step {act : Act}
    (hStep : traffic.step libs act = some traffic') : traffic'.Counted maxEntries := by
  unfold Traffic.step at hStep
  split at hStep
  · cases hStep
    exact h.claim
  · split at hStep
    · next hClaim =>
      cases hStep
      exact h.insert hClaim
    · cases hStep
  · split at hStep
    · cases hStep
    · next hPending =>
      cases hStep
      exact h.release hPending
  · split at hStep
    · cases hStep
      unfold create
      split
      · exact removes h.others
      · next hValid =>
        rcases recordCreateCommand_writes traffic.registry hValid with
          hSame | ⟨data, hEntry, -, hWritten⟩
        · rw [hSame]
          exact h
        · rw [hWritten]
          exact h.rewrite hEntry
    · cases hStep
  · split at hStep
    · cases hStep
      unfold call
      split
      · exact h
      · next performed hPerformed =>
        obtain ⟨data, data', hEntry, rfl, -⟩ := GuardCall.perform_ok hPerformed
        exact h.rewrite hEntry
    · cases hStep
  · split at hStep
    · cases hStep
      exact removes h.others
    · cases hStep
  · split at hStep
    · next guard hGuard =>
      cases hStep
      unfold guardDropped
      split
      · exact h.others
      · next data hEntry => exact h.rewrite hEntry
    · cases hStep
  · split at hStep
    · cases hStep
      exact h.others
    · cases hStep
  · obtain ⟨running, -, hCollects⟩ := Option.bind_eq_some_iff.mp hStep
    unfold collects at hCollects
    split at hCollects
    · obtain ⟨data, -, rfl⟩ := Option.map_eq_some_iff.mp hCollects
      exact h.others
    · cases hCollects
  · obtain ⟨running, -, hVisits⟩ := Option.bind_eq_some_iff.mp hStep
    unfold visits at hVisits
    split at hVisits
    · cases hVisits
      exact h.others
    · cases hVisits
  · split at hStep
    · cases hStep
      exact h.others
    · cases hStep
  · obtain ⟨running, -, hRest⟩ := Option.bind_eq_some_iff.mp hStep
    obtain ⟨⟨snapshot, stage⟩, -, hRecovers⟩ := Option.bind_eq_some_iff.mp hRest
    exact h.recovers hRecovers

end

end Traffic.Counted

/-! ## Conservative entries -/

def Act.Withdraws (requestId : String) : Act → Prop
  | .call guard made => guard.requestId = requestId ∧ made.Withdraws
  | _ => False

def Act.Records (requestId : String) (command : SettleBudgetIntent) : Act → Prop
  | .call guard (.settlement fact) => guard.requestId = requestId ∧ fact = command
  | _ => False

/-- An entry is conservative, and a settlement without costs that it holds is one of the facts. -/
def Traffic.Conserves (traffic : Traffic) (requestId : String)
    (facts : SettleBudgetIntent → Prop) : Prop :=
  ∃ data, traffic.registry.entry requestId = some data ∧ data.state ∈ conservativeStates ∧
    ∀ command, data.settlement = some command → command.cost.status = .notIncurred →
      facts command

namespace Traffic.Conserves

variable {facts : SettleBudgetIntent → Prop} {act : Act}

variable {guards : List BudgetIntentGuard} {sweep : Option Sweep} {other : String}

section

variable (h : traffic.Conserves requestId facts)
include h

theorem same
    (hEntry : registry'.entry requestId = traffic.registry.entry requestId) {claims : List String}
    {releases : Nat} :
    Conserves ⟨registry', claims, releases, guards, sweep⟩ requestId
      fun command => facts command ∨ act.Records requestId command := by
  obtain ⟨data, hFound, hState, hFacts⟩ := h
  exact ⟨data, hEntry.trans hFound, hState, fun command hCommand hFree =>
    .inl (hFacts command hCommand hFree)⟩

theorem removes
    (hLives : ((Traffic.removes ⟨traffic.registry, traffic.claims, traffic.releases, guards,
      sweep⟩ other).registry.entry requestId).isSome) :
    (Traffic.removes ⟨traffic.registry, traffic.claims, traffic.releases, guards, sweep⟩
      other).Conserves requestId fun command => facts command ∨ act.Records requestId command := by
  unfold Traffic.removes at hLives ⊢
  split at hLives
  · exact h.same rfl
  · next removed hRemoved =>
    obtain ⟨data, hEntry, rfl⟩ := removeEntry_some hRemoved
    have hOther : requestId ≠ other := by
      rintro rfl
      change ((traffic.registry.entries.erase requestId).lookup requestId).isSome at hLives
      rw [AList.lookup_erase] at hLives
      cases hLives
    have hErased : ({ traffic.registry with entries := traffic.registry.entries.erase other } :
        ActiveBudgetIntentRegistry).entry requestId = traffic.registry.entry requestId :=
      AList.lookup_erase_ne hOther
    exact h.same hErased

/-- A call of a guard that does not withdraw. -/
theorem call {guard : BudgetIntentGuard} {call : GuardCall}
    (hWithdraws : ¬ (Act.call guard call).Withdraws requestId) :
    (traffic.call guard call).Conserves requestId
      fun command => facts command ∨ (Act.call guard call).Records requestId command := by
  unfold Traffic.call
  split
  · exact h.same rfl
  · next performed hPerformed =>
    obtain ⟨data, data', hEntry, rfl, hAlive, hLeads⟩ := GuardCall.perform_ok hPerformed
    by_cases hSame : guard.requestId = requestId
    · subst hSame
      obtain ⟨found, hFound, hState, hFacts⟩ := h
      rw [hEntry] at hFound
      cases hFound
      refine ⟨data', entry_put, ?_⟩
      cases call with
      | prepared intentId | dispatchCommitPending =>
        rw [hLeads.1] at hState
        simp [conservativeStates] at hState
      | dispatchRolledBack => exact absurd ⟨rfl, trivial⟩ hWithdraws
      | dispatching =>
        obtain ⟨-, hAfter, hKept⟩ := hLeads
        rw [hAfter, hKept]
        exact ⟨by simp [conservativeStates], fun command hCommand hFree =>
          .inl (hFacts command hCommand hFree)⟩
      | settlement recorded =>
        obtain ⟨-, hAfter, hKept⟩ := hLeads
        rw [hAfter, hKept]
        exact ⟨by simp [conservativeStates], fun command hCommand _ =>
          .inr ⟨rfl, Option.some.inj hCommand⟩⟩
      | needsSafeZero | safeZeroSettlement command => exact absurd ⟨rfl, trivial⟩ hWithdraws
      | needsUnresolved =>
        obtain ⟨-, hAfter, hKept⟩ := hLeads
        rw [hAfter, hKept]
        exact ⟨by simp [conservativeStates], fun command hCommand hFree =>
          .inl (hFacts command hCommand hFree)⟩
    · exact h.same (entry_put_ne (Ne.symm hSame))

theorem drop {guard : BudgetIntentGuard} :
    Conserves { traffic.retires guard with
      registry := traffic.registry.guardDropped guard.requestId } requestId
      fun command => facts command ∨ act.Records requestId command := by
  by_cases hSame : requestId = guard.requestId
  · subst hSame
    obtain ⟨data, hFound, hState, hFacts⟩ := h
    refine ⟨_, entry_guardDropped.trans
      (congrArg (Option.map _) hFound), ?_, fun command hCommand hFree =>
        .inl (hFacts command hCommand hFree)⟩
    change droppedState data.state ∈ conservativeStates
    unfold conservativeStates at hState ⊢
    cases hData : data.state <;> simp_all [droppedState]
  · exact h.same (entry_guardDropped_ne hSame)

theorem create {guard : BudgetIntentGuard} {command : CreateBudgetIntent}
    (hLives : ((traffic.create libs guard command).registry.entry requestId).isSome) :
    (traffic.create libs guard command).Conserves requestId
      fun command => facts command ∨ act.Records requestId command := by
  unfold Traffic.create at hLives ⊢
  split at hLives
  · exact h.removes hLives
  · next hValid =>
    rcases recordCreateCommand_writes traffic.registry hValid with
      hSame | ⟨data, hEntry, hPreparing, hWritten⟩
    · rw [hSame]
      exact h.same rfl
    · rw [hWritten]
      refine h.same (entry_put_ne ?_)
      rintro rfl
      obtain ⟨found, hFound, hState, -⟩ := h
      rw [hEntry] at hFound
      cases hFound
      rw [hPreparing] at hState
      simp [conservativeStates] at hState

theorem insert : (traffic.insert other).Conserves requestId
      fun command => facts command ∨ act.Records requestId command := by
  unfold Traffic.insert
  dsimp only
  split
  · exact h.same rfl
  · next inserted hInserted =>
    obtain ⟨hAbsent, rfl⟩ := insertEntry_some hInserted
    refine h.same (entry_put_ne ?_)
    rintro rfl
    obtain ⟨data, hEntry, -⟩ := h
    rw [hAbsent] at hEntry
    cases hEntry

theorem claim : (traffic.claim other).Conserves requestId
      fun command => facts command ∨ act.Records requestId command := by
  unfold Traffic.claim
  split
  · exact h.same rfl
  · next claimed hClaimed =>
    obtain ⟨-, rfl⟩ := claimSlot_ok hClaimed
    exact h.same rfl

theorem recovers {sweep : Sweep} {snapshot : ActiveBudgetIntentSnapshot}
    {stage : RecoveryStage} (hSound : traffic.Sound) (hSweep : traffic.sweep = some sweep)
    (hCurrent : sweep.current = some (snapshot, stage))
    (hStep : traffic.recovers libs sweep snapshot stage act = some traffic')
    (hLives : (traffic'.registry.entry requestId).isSome) :
    traffic'.Conserves requestId fun command => facts command ∨ act.Records requestId command := by
  obtain ⟨hDead, hStage⟩ := (hSound.sweep sweep hSweep).current snapshot stage hCurrent
  unfold Traffic.recovers at hStep
  split at hStep
  · cases hStep
    exact h.same rfl
  · dsimp only at hStep
    split at hStep
    · cases hStep
      exact h.same rfl
    · next marked hMarked =>
      cases hStep
      obtain ⟨data, hEntry, hBefore, rfl⟩ := transition_ok hMarked
      refine h.same (entry_put_ne ?_)
      rintro rfl
      obtain ⟨found, hFound, hState, -⟩ := h
      rw [hEntry] at hFound
      cases hFound
      unfold conservativeStates at hState
      cases hData : data.state <;> simp_all
  · next command unresolved =>
    split at hStep
    · cases hStep
      exact h.same rfl
    · next recorded hRecorded =>
      cases hStep
      obtain ⟨_, _, hMoved⟩ := bind_eq_ok.mp hRecorded
      obtain ⟨data, hEntry, -, rfl⟩ := transition_ok hMoved
      obtain ⟨found, hFound, -, hUnavailable, hOpen⟩ := hStage
      rw [hEntry] at hFound
      cases hFound
      by_cases hSame : requestId = snapshot.requestId
      · subst hSame
        obtain ⟨conserved, hConserved, hState, -⟩ := h
        rw [hEntry] at hConserved
        cases hConserved
        cases unresolved with
        | false => exact absurd hState (hOpen rfl)
        | true =>
          refine ⟨_, entry_put, by simp [conservativeStates], ?_⟩
          intro settled hSettled hFree
          obtain rfl : command = settled := by simpa using hSettled
          rw [hUnavailable rfl] at hFree
          cases hFree
      · exact h.same (entry_put_ne hSame)
  · cases hStep
    exact h.same rfl
  · cases hStep
    exact h.same rfl
  · cases hStep
    exact h.removes hLives
  · cases hStep

/-- A step that does not withdraw the entry and does not end it keeps it conservative. -/
theorem step (hSound : traffic.Sound)
    (hStep : traffic.step libs act = some traffic') (hWithdraws : ¬ act.Withdraws requestId)
    (hLives : (traffic'.registry.entry requestId).isSome) :
    traffic'.Conserves requestId fun command => facts command ∨ act.Records requestId command := by
  unfold Traffic.step at hStep
  split at hStep
  · cases hStep
    exact h.claim
  · split at hStep
    · cases hStep
      exact h.insert
    · cases hStep
  · split at hStep
    · cases hStep
    · cases hStep
      exact h.same rfl
  · split at hStep
    · cases hStep
      exact h.create hLives
    · cases hStep
  · split at hStep
    · cases hStep
      exact h.call hWithdraws
    · cases hStep
  · split at hStep
    · cases hStep
      exact h.removes hLives
    · cases hStep
  · split at hStep
    · cases hStep
      exact h.drop
    · cases hStep
  · split at hStep
    · cases hStep
      exact h.same rfl
    · cases hStep
  · obtain ⟨sweep, -, hCollects⟩ := Option.bind_eq_some_iff.mp hStep
    unfold collects at hCollects
    split at hCollects
    · obtain ⟨data, -, rfl⟩ := Option.map_eq_some_iff.mp hCollects
      exact h.same rfl
    · cases hCollects
  · obtain ⟨sweep, -, hVisits⟩ := Option.bind_eq_some_iff.mp hStep
    unfold visits at hVisits
    split at hVisits
    · cases hVisits
      exact h.same rfl
    · cases hVisits
  · split at hStep
    · cases hStep
      exact h.same rfl
    · cases hStep
  · obtain ⟨sweep, hSweep, hRest⟩ := Option.bind_eq_some_iff.mp hStep
    obtain ⟨⟨snapshot, stage⟩, hCurrent, hRecovers⟩ := Option.bind_eq_some_iff.mp hRest
    exact h.recovers hSound hSweep hCurrent hRecovers hLives

end

end Traffic.Conserves

/-! ## Runs -/

def Traffic.Reachable (libs : Libraries) (maxEntries : Nat) (traffic : Traffic) : Prop :=
  ∃ registry acts, ActiveBudgetIntentRegistry.new maxEntries = .ok registry ∧
    (Traffic.start registry).run libs acts = some traffic

/-- A run through which an entry lives, and in which its request withdraws nothing. -/
inductive Traffic.Follows (libs : Libraries) (requestId : String) :
    Traffic → List Act → Traffic → Prop where
  | refl (traffic : Traffic) : Follows libs requestId traffic [] traffic
  | step {traffic next final : Traffic} {act : Act} {acts : List Act}
      (hStep : traffic.step libs act = some next) (hWithdraws : ¬ act.Withdraws requestId)
      (hLives : (next.registry.entry requestId).isSome)
      (hRest : Follows libs requestId next acts final) :
      Follows libs requestId traffic (act :: acts) final

theorem Traffic.Reachable.invariant {maxEntries : Nat}
    (h : traffic.Reachable libs maxEntries) : traffic.Counted maxEntries ∧ traffic.Sound := by
  obtain ⟨registry, acts, hNew, hRun⟩ := h
  have hStart : (start registry).Counted maxEntries ∧ (start registry).Sound := by
    unfold new at hNew
    split at hNew
    · cases hNew
    · cases hNew
      refine ⟨⟨rfl, rfl, Nat.zero_le _⟩, ⟨by simp [start], List.nodup_nil, ?_,
        by simp [start]⟩⟩
      intro requestId data hEntry
      cases hEntry
  generalize start registry = started at hRun hStart
  induction acts generalizing started with
  | nil =>
    cases hRun
    exact hStart
  | cons act acts ih =>
    obtain ⟨next, hStep, hRest⟩ := Option.bind_eq_some_iff.mp hRun
    exact ih next hRest ⟨hStart.1.step hStep, hStart.2.step hStep⟩

theorem Traffic.Follows.conserves {acts : List Act} {facts : SettleBudgetIntent → Prop}
    (h : Follows libs requestId traffic acts traffic') (hSound : traffic.Sound)
    (hConserves : traffic.Conserves requestId facts) :
    traffic'.Sound ∧ traffic'.Conserves requestId fun command =>
      facts command ∨ ∃ act ∈ acts, act.Records requestId command := by
  induction h generalizing facts with
  | refl traffic =>
    obtain ⟨data, hEntry, hState, hFacts⟩ := hConserves
    exact ⟨hSound, data, hEntry, hState, fun command hCommand hFree =>
      .inl (hFacts command hCommand hFree)⟩
  | @step traffic next final act acts hStep hWithdraws hLives hRest ih =>
    obtain ⟨hFinal, data, hEntry, hState, hFacts⟩ := ih (hSound.step hStep)
      (hConserves.step hSound hStep hWithdraws hLives)
    refine ⟨hFinal, data, hEntry, hState, fun command hCommand hFree => ?_⟩
    rcases hFacts command hCommand hFree with (hFact | hRecords) | ⟨later, hLater, hRecords⟩
    · exact .inl hFact
    · exact .inr ⟨act, List.mem_cons_self, hRecords⟩
    · exact .inr ⟨later, List.mem_cons_of_mem _ hLater, hRecords⟩

/-- What the recovery is about to do with an entry is conservative. -/
def RecoveryStage.Conservative (requestId : String) (acts : List Act) : RecoveryStage → Prop
  | .recording command _ => command.cost.status = .unavailable
  | .settling command => command.cost.status = .notIncurred →
      ∃ act ∈ acts, act.Records requestId command
  | _ => True

/-- **The registry never forgets a dispatch.** Whatever the order of the calls, the counter is the
number of entries and of updates that are half done and stays within the capacity. From the moment
an entry is committed to its dispatch, and until its own guard withdraws it or it is removed,
neither a drop nor the recovery makes a settlement without costs of it. -/
theorem registry_conserves {maxEntries : Nat} (hReachable : traffic.Reachable libs maxEntries) :
    (traffic.registry.activeEntries =
        traffic.registry.size + traffic.claims.length + traffic.releases ∧
      traffic.registry.activeEntries ≤ maxEntries) ∧
    ∀ requestId data acts traffic', traffic.registry.entry requestId = some data →
      data.state = .dispatchCommitPending ∨ data.state = .activeDispatching →
      Traffic.Follows libs requestId traffic acts traffic' →
      traffic'.Conserves requestId (fun command => ∃ act ∈ acts, act.Records requestId command) ∧
      ∀ sweep snapshot stage, traffic'.sweep = some sweep →
        sweep.current = some (snapshot, stage) → snapshot.requestId = requestId →
        stage.Conservative requestId acts := by
  obtain ⟨hCounted, hSound⟩ := hReachable.invariant
  refine ⟨⟨hCounted.counter, hCounted.bounded⟩, ?_⟩
  intro requestId data acts traffic' hEntry hState hFollows
  have hStart : traffic.Conserves requestId fun _ => False := by
    have hGuarded : data.state ∈ guardedStates := by
      rcases hState with hState | hState <;> simp [hState, guardedStates]
    refine ⟨data, hEntry, ?_, fun command hCommand => ?_⟩
    · rcases hState with hState | hState <;> simp [hState, conservativeStates]
    · rw [((hSound.entries _ _ hEntry).guarded hGuarded).2] at hCommand
      cases hCommand
  obtain ⟨hSound', hConserves⟩ := hFollows.conserves hSound hStart
  simp only [false_or] at hConserves
  refine ⟨hConserves, ?_⟩
  rintro sweep snapshot stage hSweep hCurrent rfl
  obtain ⟨found, hFound, hFoundState, hFacts⟩ := hConserves
  obtain ⟨-, hStage⟩ := (hSound'.sweep sweep hSweep).current snapshot stage hCurrent
  cases stage with
  | lookingUp create => trivial
  | marking create record => trivial
  | acknowledging => trivial
  | recording command unresolved =>
    obtain ⟨written, hWritten, -, hUnavailable, hOpen⟩ := hStage
    rw [hFound] at hWritten
    cases hWritten
    cases unresolved with
    | true => exact hUnavailable rfl
    | false => exact absurd hFoundState (hOpen rfl)
  | settling command =>
    obtain ⟨written, hWritten, -, hSettlement⟩ := hStage
    rw [hFound] at hWritten
    cases hWritten
    exact hFacts command hSettlement

/-! ## Sample runs -/

def Libraries.withDigest (libs : Libraries) (text digest : String) : Libraries :=
  { libs with sha256Hex := fun value => if value = text then digest else libs.sha256Hex value }

def sampleRecovery : Libraries :=
  sampleBudget.withDigest
    (sampleSettlementText "not_incurred\n0\nrequest_lifecycle_cancelled_before_dispatch")
    "af6f96324e56088e5350929bec7b7305e75d62bcc4ad3215bc73f03c14544222"

def sampleGuard : BudgetIntentGuard := ⟨sampleRequest '7'⟩

def dispatchActs : List Act :=
  [.claim (sampleRequest '7'), .insert (sampleRequest '7'),
    .create sampleGuard
      (createCommand sampleRecovery sampleRuntime (sampleRequest '7') 1 7 samplePricing),
    .call sampleGuard (.prepared 7), .call sampleGuard .dispatchCommitPending,
    .call sampleGuard .dispatching]

def recoverActs : List Act :=
  [.drop sampleGuard, .sweep, .collect (sampleRequest '7'), .visit, .recorded]

/-- The state of the entry, and the settlement that the recovery is about to send. -/
def Traffic.sampleView (traffic : Traffic) :
    Option ActiveBudgetIntentState × Option (String × CostStatus) :=
  ((traffic.registry.entry (sampleRequest '7')).map (·.state),
    traffic.sweep.bind fun sweep => sweep.current.bind fun current => match current.2 with
      | .settling command => some (current.1.requestId, command.cost.status)
      | _ => none)

theorem Traffic.sampleView_entry {traffic : Traffic} {state : ActiveBudgetIntentState}
    {sent : Option (String × CostStatus)} (h : traffic.sampleView = (some state, sent)) :
    ∃ data, traffic.registry.entry (sampleRequest '7') = some data ∧ data.state = state :=
  Option.map_eq_some_iff.mp (Prod.mk.inj h).1

theorem Traffic.sampleView_sent {traffic : Traffic} {state : Option ActiveBudgetIntentState}
    {named : String} {status : CostStatus} (h : traffic.sampleView = (state, some (named, status))) :
    ∃ sweep snapshot command, traffic.sweep = some sweep ∧
      sweep.current = some (snapshot, .settling command) ∧ snapshot.requestId = named ∧
      command.cost.status = status := by
  obtain ⟨sweep, hSweep, hCurrent⟩ := Option.bind_eq_some_iff.mp (Prod.mk.inj h).2
  obtain ⟨⟨snapshot, stage⟩, hStage, hSent⟩ := Option.bind_eq_some_iff.mp hCurrent
  cases stage with
  | settling command =>
    cases hSent
    exact ⟨sweep, snapshot, command, hSweep, hStage, rfl, rfl⟩
  | _ => cases hSent

def Traffic.livesThrough (libs : Libraries) (requestId : String) : Traffic → List Act → Bool
  | _, [] => true
  | traffic, act :: acts => (traffic.step libs act).all fun next =>
    (next.registry.entry requestId).isSome && livesThrough libs requestId next acts

theorem Traffic.follows_of_livesThrough {acts : List Act} {final : Traffic}
    (hRun : traffic.run libs acts = some final)
    (hWithdraws : ∀ act ∈ acts, ¬ act.Withdraws requestId)
    (hLives : traffic.livesThrough libs requestId acts) :
    Follows libs requestId traffic acts final := by
  induction acts generalizing traffic with
  | nil =>
    cases hRun
    exact .refl _
  | cons act acts ih =>
    obtain ⟨next, hStep, hRest⟩ := Option.bind_eq_some_iff.mp hRun
    unfold livesThrough at hLives
    rw [hStep, Option.all_some, Bool.and_eq_true] at hLives
    exact .step hStep (hWithdraws act List.mem_cons_self) hLives.1
      (ih hRest (fun later hLater => hWithdraws later (List.mem_cons_of_mem _ hLater)) hLives.2)

theorem dispatchActs_views :
    (((start ⟨8, ∅, 0⟩).run sampleRecovery dispatchActs).map (fun traffic =>
        (traffic.sampleView, (traffic.run sampleRecovery recoverActs).isSome,
          traffic.livesThrough sampleRecovery (sampleRequest '7') recoverActs)) =
        some ((some .activeDispatching, none), true, true)) ∧
      ((start ⟨8, ∅, 0⟩).run sampleRecovery dispatchActs).map (fun traffic =>
        (traffic.sampleView, (traffic.run sampleRecovery
          (.call sampleGuard .needsSafeZero :: recoverActs)).map sampleView)) =
        some ((some .activeDispatching, none),
          some (some .needsSafeZero, some (sampleRequest '7', .notIncurred))) := by
  constructor <;> decide +kernel

/-- The recovery of a dropped request that was dispatched. -/
theorem registry_conserves_sample : ∃ (traffic : Traffic) (final : Traffic),
    traffic.Reachable sampleRecovery 8 ∧ traffic.run sampleRecovery recoverActs = some final ∧
      traffic.registry.activeEntries =
        traffic.registry.size + traffic.claims.length + traffic.releases ∧
      final.Conserves (sampleRequest '7')
        (fun command => ∃ act ∈ recoverActs, act.Records (sampleRequest '7') command) := by
  obtain ⟨traffic, hTraffic, hViews⟩ := Option.map_eq_some_iff.mp dispatchActs_views.1
  obtain ⟨hBefore, hRest⟩ := Prod.mk.inj hViews
  obtain ⟨hFinal, hLives⟩ := Prod.mk.inj hRest
  obtain ⟨final, hFinal⟩ := Option.isSome_iff_exists.mp hFinal
  obtain ⟨data, hEntry, hState⟩ := sampleView_entry hBefore
  have hReachable : traffic.Reachable sampleRecovery 8 := ⟨_, dispatchActs, rfl, hTraffic⟩
  have hWithdraws : ∀ act ∈ recoverActs, ¬ act.Withdraws (sampleRequest '7') := by
    simp [recoverActs, Act.Withdraws]
  obtain ⟨⟨hCounter, -⟩, hConserves⟩ := registry_conserves hReachable
  exact ⟨traffic, final, hReachable, hFinal, hCounter, (hConserves _ data recoverActs final hEntry
    (.inr hState) (follows_of_livesThrough hFinal hWithdraws hLives)).1⟩

/-- A request that was dispatched says that it sent nothing, and is gone: the recovery settles it
without costs. -/
theorem withdrawn_free : ∃ (traffic : Traffic) (data : ActiveBudgetIntentData)
    (final : Traffic) (sweep : Sweep) (snapshot : ActiveBudgetIntentSnapshot)
    (command : SettleBudgetIntent), traffic.Reachable sampleRecovery 8 ∧
      traffic.registry.entry (sampleRequest '7') = some data ∧
      data.state = .activeDispatching ∧
      traffic.run sampleRecovery (.call sampleGuard .needsSafeZero :: recoverActs) = some final ∧
      final.sweep = some sweep ∧ sweep.current = some (snapshot, .settling command) ∧
      snapshot.requestId = sampleRequest '7' ∧ command.cost.status = .notIncurred := by
  obtain ⟨traffic, hTraffic, hViews⟩ := Option.map_eq_some_iff.mp dispatchActs_views.2
  obtain ⟨hBefore, hRest⟩ := Prod.mk.inj hViews
  obtain ⟨final, hFinal, hAfter⟩ := Option.map_eq_some_iff.mp hRest
  obtain ⟨data, hEntry, hState⟩ := sampleView_entry hBefore
  obtain ⟨sweep, snapshot, command, hSweep, hCurrent, hNamed, hStatus⟩ := sampleView_sent hAfter
  exact ⟨traffic, data, final, sweep, snapshot, command, ⟨_, dispatchActs, rfl, hTraffic⟩,
    hEntry, hState, hFinal, hSweep, hCurrent, hNamed, hStatus⟩

/-- **A request is in one hand.** Whatever the order of the calls, a request has one guard at most,
and its entry is there and alive as long as the guard is. An entry in a guarded state is alive and
has no settlement yet. The recovery works on entries that no guard holds. -/
theorem guards_exclude_recovery {maxEntries : Nat}
    (hReachable : traffic.Reachable libs maxEntries) :
    (traffic.guards.map (·.requestId)).Nodup ∧
    (∀ guard ∈ traffic.guards, ∃ data,
      traffic.registry.entry guard.requestId = some data ∧ data.guardAlive = true) ∧
    (∀ requestId data, traffic.registry.entry requestId = some data →
      data.state ∈ guardedStates → data.guardAlive = true ∧ data.settlement = none) ∧
    ∀ sweep snapshot stage, traffic.sweep = some sweep → sweep.current = some (snapshot, stage) →
      ∃ data, traffic.registry.entry snapshot.requestId = some data ∧ data.guardAlive = false ∧
        ∀ guard ∈ traffic.guards, guard.requestId ≠ snapshot.requestId := by
  have hSound := hReachable.invariant.2
  have hInjective : Function.Injective BudgetIntentGuard.requestId := by
    rintro ⟨_⟩ ⟨_⟩ rfl
    rfl
  refine ⟨hSound.distinct.map hInjective, hSound.held,
    fun requestId data hEntry => (hSound.entries requestId data hEntry).guarded, ?_⟩
  intro sweep snapshot stage hSweep hCurrent
  obtain ⟨hDead, hStage⟩ := (hSound.sweep sweep hSweep).current snapshot stage hCurrent
  have hEntry : ∃ data, traffic.registry.entry snapshot.requestId = some data ∧
      data.guardAlive = false := by
    cases stage with
    | lookingUp create | marking create record => exact ⟨_, hStage.1, hDead⟩
    | recording command unresolved | settling command =>
      obtain ⟨data, hEntry, hData, -⟩ := hStage
      exact ⟨data, hEntry, hData⟩
    | acknowledging => exact hStage
  obtain ⟨data, hFound, hData⟩ := hEntry
  refine ⟨data, hFound, hData, fun guard hGuard hSame => ?_⟩
  obtain ⟨held, hHeld, hAlive⟩ := hSound.held guard hGuard
  rw [hSame, hFound] at hHeld
  cases hHeld
  rw [hData] at hAlive
  cases hAlive

/-- The recovery settles the dropped request while two other requests hold their guards. -/
def sharedActs : List Act :=
  dispatchActs ++ [.claim (sampleRequest '8'), .insert (sampleRequest '8'),
    .claim (sampleRequest '9'), .insert (sampleRequest '9')] ++ recoverActs

theorem sharedActs_view : ((start ⟨8, ∅, 0⟩).run sampleRecovery sharedActs).map
    (fun traffic => (traffic.guards, traffic.sampleView.2)) =
      some ([⟨sampleRequest '9'⟩, ⟨sampleRequest '8'⟩],
        some (sampleRequest '7', .unavailable)) := by
  decide +kernel

theorem guards_exclude_recovery_sample : ∃ (traffic : Traffic)
    (snapshot : ActiveBudgetIntentSnapshot) (command : SettleBudgetIntent)
    (data : ActiveBudgetIntentData), traffic.Reachable sampleRecovery 8 ∧
      traffic.guards = [⟨sampleRequest '9'⟩, ⟨sampleRequest '8'⟩] ∧
      (traffic.guards.map (·.requestId)).Nodup ∧
      (∀ guard ∈ traffic.guards, ∃ data,
        traffic.registry.entry guard.requestId = some data ∧ data.guardAlive = true) ∧
      traffic.sweep.bind Sweep.current = some (snapshot, .settling command) ∧
      snapshot.requestId = sampleRequest '7' ∧
      traffic.registry.entry snapshot.requestId = some data ∧ data.guardAlive = false ∧
      ∀ guard ∈ traffic.guards, guard.requestId ≠ snapshot.requestId := by
  obtain ⟨traffic, hTraffic, hBoth⟩ := Option.map_eq_some_iff.mp sharedActs_view
  obtain ⟨hGuards, hSent⟩ := Prod.mk.inj hBoth
  have hView : traffic.sampleView =
      (traffic.sampleView.1, some (sampleRequest '7', .unavailable)) := by
    rw [← hSent]
  obtain ⟨sweep, snapshot, command, hSweep, hCurrent, hNamed, -⟩ := sampleView_sent hView
  have hReachable : traffic.Reachable sampleRecovery 8 := ⟨_, sharedActs, rfl, hTraffic⟩
  obtain ⟨hNodup, hHeld, -, hRecovers⟩ := guards_exclude_recovery hReachable
  obtain ⟨data, hEntry, hDead, hFree⟩ := hRecovers sweep snapshot _ hSweep hCurrent
  have hWorks : traffic.sweep.bind Sweep.current = some (snapshot, .settling command) := by
    rw [hSweep, Option.bind_some, hCurrent]
  exact ⟨traffic, snapshot, command, data, hReachable, hGuards, hNodup, hHeld, hWorks, hNamed,
    hEntry, hDead, hFree⟩

end KongRust.Enforcement

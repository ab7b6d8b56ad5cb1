import KongRust.RateLimit.Kinds
import KongRust.RateLimit.Settlement

/-!
# Failed admissions leave no trace

An admission that fails may have created a bucket, opened a window, purged what has expired
and reserved capacity before it gives up. What it leaves behind are quiet changes only: every
live window and every record that is not expired stay as they were, with the generations of
the buckets they are in.
-/

namespace KongRust.RateLimit

open KongRust.Machine

/-! ## Buckets -/

def windowIn (bucket : Option BucketState) : Option WindowState :=
  bucket.bind BucketState.activeWindow

variable {b b' : Option BucketState} {window : WindowState}

theorem QuietMove.windowIn_of {now : Nat} (h : QuietMove now b b')
    (hWindow : windowIn b' = some window) : windowIn b = some window := by
  cases h with
  | create => cases hWindow
  | touch state _ => exact hWindow
  | purge state => exact (Option.filter_eq_some_iff.mp hWindow).1
  | remove state _ => cases hWindow

theorem Quiet.windowIn_of {now : Nat} (h : Quiet now b b') (hWindow : windowIn b' = some window) :
    windowIn b = some window := by
  induction h with
  | refl => exact hWindow
  | tail _ hMove ih => exact ih (hMove.windowIn_of hWindow)

theorem Quiet.windowIn_eq_or {now : Nat} (h : Quiet now b b') :
    windowIn b' = windowIn b ∨
      windowIn b' = none ∧ ∃ window, windowIn b = some window ∧ window.liveAt now = false := by
  cases hAfter : windowIn b' with
  | some window => exact Or.inl (h.windowIn_of hAfter).symm
  | none =>
    cases hBefore : windowIn b with
    | none => exact Or.inl rfl
    | some window =>
      have hLive : (windowIn b').filter (fun window => window.liveAt now) =
          (windowIn b).filter fun window => window.liveAt now := h.liveWindow_eq
      rw [hAfter, hBefore, Option.filter_none] at hLive
      refine Or.inr ⟨rfl, window, rfl, ?_⟩
      simpa using (Option.filter_eq_none_iff.mp hLive.symm) window rfl

def InUse (now : Nat) (bucket : Option BucketState) : Prop :=
  liveWindow now bucket ≠ none ∨ ∃ requestId, keptRecord now bucket requestId ≠ none

variable {state : BucketState} {command : AdmitCommand} {now : RateLimitNow} {ids : DrawnIds}

theorem not_inUse_of_isEmpty {now : Nat} (h : state.isEmpty) :
    ¬ InUse now (some state) := by
  rintro (hWindow | ⟨requestId, hRecord⟩)
  · exact hWindow (by simp [liveWindow, (isEmpty_iff.mp h).1])
  · exact hRecord (by simp [keptRecord, recordIn, lookup_of_isEmpty h])

theorem Quiet.generation_eq {now : Nat} {state : BucketState} (h : Quiet now b b')
    (hState : b = some state) (hUse : InUse now b) :
    ∃ state', b' = some state' ∧ state'.generation = state.generation := by
  induction h with
  | refl => exact ⟨state, hState, rfl⟩
  | tail hFront hMove ih =>
    obtain ⟨middle, rfl, hGeneration⟩ := ih
    have hMiddle : InUse now (some middle) := by
      rw [InUse, Quiet.liveWindow_eq hFront]
      refine hUse.imp id ?_
      rintro ⟨requestId, hRecord⟩
      exact ⟨requestId, Quiet.keptRecord_eq hFront requestId ▸ hRecord⟩
    cases hMove with
    | touch _ _ | purge _ => exact ⟨_, rfl, hGeneration⟩
    | remove _ hEmpty => exact absurd hMiddle (not_inUse_of_isEmpty hEmpty)

theorem isEmpty_purge (now : Nat) (h : state.isEmpty) : (state.purge now).isEmpty := by
  obtain ⟨hWindow, hAdmissions⟩ := isEmpty_iff.mp h
  exact isEmpty_iff.mpr ⟨by simp [BucketState.purge, hWindow],
    by simp [BucketState.purge, Table.retain, hAdmissions]⟩

/-- A bucket that holds something is not a new one. -/
theorem Quiet.generation_of {now : Nat} {state' : BucketState} (h : Quiet now b b')
    (hState' : b' = some state') (hFull : state'.isEmpty = false) :
    ∃ state, b = some state ∧ state'.generation = state.generation := by
  induction h generalizing state' with
  | refl => exact ⟨state', hState', rfl⟩
  | tail _ hMove ih =>
    cases hMove with
    | create =>
      obtain rfl := Option.some.inj hState'
      cases hFull
    | touch state _ =>
      obtain rfl := Option.some.inj hState'
      have hBefore := ih (rfl : some state = some state) hFull
      exact hBefore
    | purge state =>
      obtain rfl := Option.some.inj hState'
      have hBefore := ih (rfl : some state = some state)
      refine hBefore (Bool.eq_false_iff.mpr fun hEmpty => ?_)
      rw [isEmpty_purge now hEmpty] at hFull
      cases hFull
    | remove state _ => cases hState'

/-! ## Statistics -/

def RateLimitStoreStats.history (stats : RateLimitStoreStats) : List Nat :=
  [stats.liveReservations, stats.admissionsAllowed, stats.admissionsRejected,
    stats.admissionReplays, stats.settlementsApplied, stats.settlementsStale,
    stats.settlementReplays]

/-- A change that decides nothing, and makes no bucket but that of one key. -/
structure Aside (key : RateLimitKey) (store store' : MemoryRateLimitStore) : Prop where
  history : store'.stats.history = store.stats.history
  others : ∀ other, other ≠ key → ∀ state', store'.bucketAt other = some state' →
    ∃ state, store.bucketAt other = some state ∧ state'.generation = state.generation

section Aside

variable {key : RateLimitKey} {store store' store'' : MemoryRateLimitStore} {cell : BucketCell}

theorem Aside.refl (key : RateLimitKey) (store : MemoryRateLimitStore) : Aside key store store :=
  ⟨rfl, fun _ _ state hState => ⟨state, hState, rfl⟩⟩

theorem Aside.trans (h : Aside key store store') (h' : Aside key store' store'') :
    Aside key store store'' := by
  refine ⟨h'.history.trans h.history, fun other hOther state'' hState'' => ?_⟩
  obtain ⟨state', hState', hGeneration'⟩ := h'.others other hOther state'' hState''
  obtain ⟨state, hState, hGeneration⟩ := h.others other hOther state' hState'
  exact ⟨state, hState, hGeneration'.trans hGeneration⟩

theorem aside_of_buckets (hBuckets : store'.buckets = store.buckets)
    (hHistory : store'.stats.history = store.stats.history) : Aside key store store' := by
  refine ⟨hHistory, fun other _ state' hState' => ⟨state', ?_, rfl⟩⟩
  rwa [MemoryRateLimitStore.bucketAt, hBuckets] at hState'

theorem aside_of_insert {written : RateLimitKey}
    (hBuckets : store'.buckets = store.buckets.insert written cell)
    (hHistory : store'.stats.history = store.stats.history)
    (hWritten : written = key ∨ ∃ state, store.bucketAt written = some state ∧
      cell.state.generation = state.generation) : Aside key store store' := by
  refine ⟨hHistory, fun other hOther state' hState' => ?_⟩
  rw [bucketAt_of_insert hBuckets] at hState'
  split at hState'
  · rename_i hSame
    obtain rfl := Option.some.inj hState'
    rcases hWritten with rfl | hWritten
    · exact absurd hSame hOther
    · exact hSame ▸ hWritten
  · exact ⟨state', hState', rfl⟩

theorem aside_of_erase {erased : RateLimitKey}
    (hBuckets : store'.buckets = store.buckets.erase erased)
    (hHistory : store'.stats.history = store.stats.history) : Aside key store store' := by
  refine ⟨hHistory, fun other _ state' hState' => ?_⟩
  rw [bucketAt_of_erase hBuckets] at hState'
  split at hState'
  · cases hState'
  · exact ⟨state', hState', rfl⟩

theorem purgeStats_history (now : Nat) (state : BucketState) (stats : RateLimitStoreStats) :
    (purgeStats now state stats).history = stats.history := by
  unfold purgeStats
  dsimp only
  split <;> rfl

theorem cleanupTicket_aside (now : RateLimitNow) (pass : CleanupPass) (ticket : CleanupTicket) :
    Aside key pass.store (cleanupTicket now pass ticket).store := by
  unfold cleanupTicket
  split
  · exact .refl _ _
  · rename_i cell hCell
    have hHistory := purgeStats_history now.mono cell.state pass.store.stats
    split
    · exact .refl _ _
    · dsimp only
      split
      · exact aside_of_erase rfl hHistory
      · exact aside_of_insert rfl hHistory (Or.inr ⟨_, bucketAt_of_lookup hCell, rfl⟩)

theorem cleanupTickets_aside (key : RateLimitKey) (now : RateLimitNow) (pass : CleanupPass)
    (tickets : List CleanupTicket) :
    Aside key pass.store (tickets.foldl (cleanupTicket now) pass).store := by
  induction tickets generalizing pass with
  | nil => exact .refl _ _
  | cons ticket tickets ih => exact (cleanupTicket_aside now pass ticket).trans (ih _)

theorem cleanupAt_aside (key : RateLimitKey) (now : RateLimitNow) (store : MemoryRateLimitStore) :
    Aside key store (cleanupAt now store).2 := by
  have hStart : Aside key store (startPass store).2.store := aside_of_buckets rfl rfl
  have hTickets := cleanupTickets_aside key now (startPass store).2 (startPass store).1
  exact (hStart.trans hTickets).trans (aside_of_buckets rfl rfl)

theorem maybeCleanup_aside (key : RateLimitKey) (now : RateLimitNow)
    (store : MemoryRateLimitStore) : Aside key store (maybeCleanup now store) := by
  unfold maybeCleanup
  split
  · exact .refl _ _
  · dsimp only
    refine Aside.trans ?_ (cleanupAt_aside key now _)
    exact aside_of_buckets rfl rfl

theorem createBucket_aside (h : createBucket store key = .ok (cell, store')) :
    Aside key store store' := by
  unfold createBucket at h
  split at h
  · obtain ⟨rfl, rfl⟩ := Prod.mk.inj (Except.ok.inj h)
    exact .refl _ _
  · split at h
    · simp at h
    · obtain ⟨rfl, rfl⟩ := Prod.mk.inj (Except.ok.inj h)
      exact aside_of_insert rfl rfl (Or.inl rfl)

theorem scheduleCleanup_aside (store : MemoryRateLimitStore) (key : RateLimitKey)
    (cell : BucketCell) : Aside key store (scheduleCleanup store key cell).2 := by
  unfold scheduleCleanup
  split
  · exact .refl _ _
  · exact aside_of_insert rfl rfl (Or.inl rfl)

theorem removeEmptyBucket_aside (store : MemoryRateLimitStore) (key : RateLimitKey) :
    Aside key store (removeEmptyBucket store key) := by
  unfold removeEmptyBucket
  split
  · exact .refl _ _
  · split
    · exact aside_of_erase rfl rfl
    · exact .refl _ _

end Aside

def Undecided (answer : Except RateLimitStoreError AdmitAttempt) : Prop :=
  ∀ decision, answer ≠ .ok (.decision decision)

variable {config : MemoryRateLimitConfig} {instanceId : Uuid} {stats : RateLimitStoreStats}
  {store : MemoryRateLimitStore} {e : RateLimitStoreError}

theorem admitReserved_history {retainUntil : Nat} (h : Undecided
      (admitReserved config instanceId command now ids retainUntil state stats).1) :
    (admitReserved config instanceId command now ids retainUntil state stats).2.2.history =
      stats.history := by
  revert h
  unfold admitReserved
  dsimp only
  split
  · exact fun _ => rfl
  · split
    · exact fun _ => rfl
    · split
      · exact fun _ => rfl
      · split
        · exact fun h => absurd rfl (h _)
        · split
          · exact fun _ => rfl
          · exact fun h => absurd rfl (h _)

theorem admitLocked_history
    (h : Undecided (admitLocked config instanceId command now ids state stats).1) :
    (admitLocked config instanceId command now ids state stats).2.2.history = stats.history := by
  revert h
  unfold admitLocked
  split
  · split
    · exact fun _ => rfl
    · exact fun h => absurd rfl (h _)
  · dsimp only
    split
    · exact fun _ => rfl
    · split
      · exact fun _ => rfl
      · split
        · exact fun _ => rfl
        · split
          · exact fun _ => rfl
          · exact fun h => (admitReserved_history h).trans rfl

theorem admitOnce_aside {store : MemoryRateLimitStore} {command : AdmitCommand}
    {now : RateLimitNow} {ids : DrawnIds} (h : Undecided (admitOnce store command now ids).1) :
    Aside command.key store (admitOnce store command now ids).2 := by
  revert h
  unfold admitOnce
  cases hCreate : createBucket store command.key with
  | error e => exact fun _ => .refl _ _
  | ok created =>
    obtain ⟨cell, store₁⟩ := created
    intro h
    refine ((createBucket_aside hCreate).trans (scheduleCleanup_aside _ _ cell)).trans ?_
    refine aside_of_insert rfl ?_ (Or.inl rfl)
    exact (admitLocked_history h).trans (purgeStats_history _ _ _)

theorem admitRetry_aside (h : (admitRetry store command now ids).1 = .error e) :
    Aside command.key store (admitRetry store command now ids).2 := by
  have hOnce : Undecided (admitOnce store command now ids).1 →
      Aside command.key store (admitOnce store command now ids).2 := admitOnce_aside
  revert h
  unfold admitRetry
  generalize admitOnce store command now ids = attempt at hOnce ⊢
  obtain ⟨answer, after⟩ := attempt
  rcases answer with e | decision | _
  · intro _
    have hAside := hOnce (by simp [Undecided])
    dsimp only
    split
    · exact hAside.trans (aside_of_buckets rfl rfl)
    · exact hAside
  · intro h
    cases h
  · intro _
    have hAside := hOnce (by simp [Undecided])
    have hCounted : Aside command.key after (countOverload after) := aside_of_buckets rfl rfl
    exact (hAside.trans hCounted).trans (removeEmptyBucket_aside _ _)

theorem storeAdmit_aside {retryIds : DrawnIds}
    (h : (storeAdmit store command now ids retryIds).1 = .error e) :
    Aside command.key store (storeAdmit store command now ids retryIds).2 := by
  have hClean := maybeCleanup_aside command.key now store
  have hOnce : Undecided (admitOnce (maybeCleanup now store) command now ids).1 →
      Aside command.key (maybeCleanup now store)
        (admitOnce (maybeCleanup now store) command now ids).2 := admitOnce_aside
  revert h
  unfold storeAdmit
  split
  · exact fun _ => .refl _ _
  · generalize admitOnce (maybeCleanup now store) command now ids = attempt at hOnce ⊢
    obtain ⟨answer, after⟩ := attempt
    have hRetry : Undecided answer → (admitRetry (cleanupAt now after).2 command now retryIds).1 =
        .error e → Aside command.key store
          (admitRetry (cleanupAt now after).2 command now retryIds).2 := fun hUndecided hFailed =>
      ((hClean.trans (hOnce hUndecided)).trans (cleanupAt_aside _ now after)).trans
        (admitRetry_aside hFailed)
    rcases answer with e' | decision | _
    · have hUndecided : Undecided (.error e') := by simp [Undecided]
      dsimp only
      split
      · exact hRetry hUndecided
      · exact fun _ => hClean.trans (hOnce hUndecided)
    · intro h
      cases h
    · exact hRetry (by simp [Undecided])

/-! ## Buckets of refused admissions -/

theorem ensureWindow_error {spec : WindowSpec} {windowId : Uuid}
    (h : ensureWindow state spec now windowId = .error e) : e.kind = .corrupt := by
  unfold ensureWindow at h
  repeat' split at h
  all_goals cases h
  all_goals rfl

theorem retentionDuration_error {window : WindowSpec}
    (h : retentionDuration window config = .error e) : e.kind = .corrupt := by
  unfold retentionDuration at h
  split at h
  · cases h
    rfl
  · cases h

theorem admitReserved_error {retainUntil : Nat}
    (h : (admitReserved config instanceId command now ids retainUntil state stats).1 = .error e) :
    e.kind = .corrupt := by
  unfold admitReserved at h
  dsimp only at h
  split at h
  · rename_i hWindow
    cases h
    exact ensureWindow_error hWindow
  · repeat' split at h
    all_goals cases h
    all_goals rfl

/-- Under the lock of the bucket, a lack of capacity is no error. -/
theorem admitLocked_error
    (h : (admitLocked config instanceId command now ids state stats).1 = .error e) :
    e.kind = .corrupt := by
  unfold admitLocked at h
  split at h
  · split at h
    · cases h
      rfl
    · cases h
  · dsimp only at h
    split at h
    · rename_i hRetention
      cases h
      exact retentionDuration_error hRetention
    · repeat' split at h
      · cases h
        rfl
      · cases h
      · cases h
      · exact admitReserved_error h

theorem admitOnce_overloaded {store : MemoryRateLimitStore}
    (h : (admitOnce store command now ids).1 = .error e) (hKind : e.kind = .overloaded) :
    (admitOnce store command now ids).2.bucketAt command.key = none := by
  revert h
  unfold admitOnce
  cases hCreate : createBucket store command.key with
  | error e' =>
    intro _
    unfold createBucket at hCreate
    split at hCreate
    · cases hCreate
    · rename_i hAbsent
      simp [MemoryRateLimitStore.bucketAt, hAbsent]
  | ok created =>
    intro h
    exact absurd ((admitLocked_error h).symm.trans hKind) (by decide)

/-- The bucket that the first attempt made is gone, or made of what was there before. -/
theorem admitRetry_overloaded (h : (admitRetry store command now ids).1 = .error e)
    (hKind : e.kind = .overloaded)
    (hState : (admitRetry store command now ids).2.bucketAt command.key = some state) :
    state.isEmpty = false := by
  have hOnce : ∀ e', (admitOnce store command now ids).1 = .error e' → e'.kind = .overloaded →
      (admitOnce store command now ids).2.bucketAt command.key = none :=
    fun _ => admitOnce_overloaded
  revert h hState
  unfold admitRetry
  generalize admitOnce store command now ids = attempt at hOnce ⊢
  obtain ⟨answer, after⟩ := attempt
  rcases answer with e' | decision | _
  · intro h hState
    obtain rfl := Except.error.inj h
    dsimp only at hState
    rw [if_pos hKind] at hState
    exact absurd ((hOnce e' rfl hKind).symm.trans hState) (by simp)
  · intro h
    cases h
  · intro _ hState
    dsimp only [removeEmptyBucket] at hState
    split at hState
    · rename_i hAbsent
      simp [MemoryRateLimitStore.bucketAt, hAbsent] at hState
    · rename_i cell hCell
      split at hState
      · rw [bucketAt_of_erase rfl, if_pos rfl] at hState
        cases hState
      · rename_i hFull
        rw [bucketAt_of_lookup hCell] at hState
        obtain rfl := Option.some.inj hState
        simpa using hFull

theorem validateAdmit_error (h : validateAdmit command = .error e) : e.kind = .corrupt := by
  unfold validateAdmit validateKey validateWindow at h
  repeat' split at h
  all_goals cases h
  all_goals rfl

theorem storeAdmit_overloaded {retryIds : DrawnIds}
    (h : (storeAdmit store command now ids retryIds).1 = .error e) (hKind : e.kind = .overloaded)
    (hState : (storeAdmit store command now ids retryIds).2.bucketAt command.key = some state) :
    state.isEmpty = false := by
  unfold storeAdmit at h hState
  cases hValid : validateAdmit command with
  | error e' =>
    rw [hValid] at h
    obtain rfl := Except.error.inj h
    exact absurd ((validateAdmit_error hValid).symm.trans hKind) (by decide)
  | ok _ =>
    rw [hValid] at h hState
    dsimp only at h hState
    generalize admitOnce (maybeCleanup now store) command now ids = attempt at h hState
    obtain ⟨answer, after⟩ := attempt
    rcases answer with e' | decision | _
    · dsimp only at h hState
      split at h
      · rename_i hFirst
        rw [if_pos hFirst] at hState
        exact admitRetry_overloaded h hKind hState
      · rename_i hFirst
        obtain rfl := Except.error.inj h
        exact absurd hKind hFirst
    · cases h
    · exact admitRetry_overloaded h hKind hState

/-- **A failed admission is undone.** Whatever the store went through before, an admission that
fails leaves (1) every window as it was, unless it is expired; (2) every record as it was,
unless it is expired; (3) the generation of every bucket in use, and no bucket that was not
there before, unless it is an empty one of the key that a corrupt call leaves; (4) the counters
of decisions and settlements. (5) The counters of buckets and records change by the buckets and
records that were dropped. -/
theorem failed_admission_atomic {config : MemoryRateLimitConfig} {instanceId : Uuid}
    {start : RateLimitNow} {store : MemoryRateLimitStore}
    (hNew : MemoryRateLimitStore.new config instanceId start = .ok store)
    (hFits : config.maxIdempotencyRecords < WORD) (calls : List TimedCall)
    (command : AdmitCommand) (now : RateLimitNow) (ids retryIds : DrawnIds)
    {e : RateLimitStoreError}
    (hFailed : (storeAdmit (runCalls store calls) command now ids retryIds).1 = .error e) :
    let before := runCalls store calls
    let after := (storeAdmit before command now ids retryIds).2
    (∀ key, windowIn (after.bucketAt key) = windowIn (before.bucketAt key) ∨
      windowIn (after.bucketAt key) = none ∧
        ∃ window, windowIn (before.bucketAt key) = some window ∧ window.liveAt now.mono = false) ∧
    (∀ key requestId, recordIn (after.bucketAt key) requestId =
        recordIn (before.bucketAt key) requestId ∨
      recordIn (after.bucketAt key) requestId = none ∧ ∃ record,
        recordIn (before.bucketAt key) requestId = some record ∧ record.keptAt now.mono = false) ∧
    ((∀ key state, before.bucketAt key = some state → InUse now.mono (before.bucketAt key) →
        ∃ state', after.bucketAt key = some state' ∧ state'.generation = state.generation) ∧
      ∀ key state', after.bucketAt key = some state' →
        key ≠ command.key ∨ e.kind = .overloaded ∨ state'.isEmpty = false →
        ∃ state, before.bucketAt key = some state ∧ state'.generation = state.generation) ∧
    after.stats.history = before.stats.history ∧
    (after.stats.buckets + before.buckets.entries.length =
        before.stats.buckets + after.buckets.entries.length ∧
      after.stats.idempotencyRecords + before.recordCount =
        before.stats.idempotencyRecords + after.recordCount ∧
      after.stats.rejectedRecords + before.refusedCount =
        before.stats.rejectedRecords + after.refusedCount ∧
      after.stats.recoveryRecords + before.settledCount =
        before.stats.recoveryRecords + after.settledCount) := by
  intro before after
  have hQuiet : StoreQuiet now.mono before after := by
    have hCases := storeAdmit_cases before command now ids retryIds
    rw [hFailed] at hCases
    cases hCases with
    | failed hQuiet => exact hQuiet
  have hAside : Aside command.key before after := storeAdmit_aside hFailed
  have hBefore : KindsExact before :=
    KindsExact.keptByCells.keptByCalls.runCalls calls (KindsExact.new hNew hFits)
  have hAfter : KindsExact after := KindsExact.keptByCells.keptByCalls.storeAdmit now
    hBefore command ids retryIds
  refine ⟨fun key => (hQuiet.bucket key).windowIn_eq_or,
    fun key requestId => (hQuiet.bucket key).recordIn_eq_or requestId,
    ⟨fun key state hState hUse => (hQuiet.bucket key).generation_eq hState hUse,
      fun key state' hState' hCase => ?_⟩, hAside.history, ?_, ?_, ?_, ?_⟩
  · by_cases hKey : key = command.key
    · refine (hQuiet.bucket key).generation_of hState' ?_
      rcases hCase with hOther | hRefused | hFull
      · exact absurd hKey hOther
      · exact storeAdmit_overloaded hFailed hRefused (hKey ▸ hState')
      · exact hFull
    · exact hAside.others key hKey state' hState'
  · rw [hAfter.exact.counted.buckets, hBefore.exact.counted.buckets, Nat.add_comm]
  · rw [hAfter.exact.counted.records, hBefore.exact.counted.records, Nat.add_comm]
  · rw [hAfter.refused, hBefore.refused, Nat.add_comm]
  · rw [hAfter.settled, hBefore.settled, Nat.add_comm]

/-! ## A sample failure -/

def crowdedConfig : MemoryRateLimitConfig :=
  { MemoryRateLimitConfig.default with maxLiveReservations := 1 }

def crowdedStore : MemoryRateLimitStore := { sampleStore with config := crowdedConfig }

theorem crowdedStore_new : MemoryRateLimitStore.new crowdedConfig 7 ⟨0, 0⟩ = .ok crowdedStore := rfl

def crowdedOut : AdmitCommand :=
  { sampleAdmission "b" 20 with key := ⟨RATE_LIMIT_SCHEMA_VERSION, "default", .route 1⟩ }

theorem crowdedOut_fails :
    (storeAdmit (runCalls crowdedStore sampleFront) crowdedOut ⟨1, 1⟩ ⟨5, 6⟩ ⟨7, 8⟩).1 =
      .error (.overloaded "memory rate limit admission capacity exhausted") := by decide

theorem failed_admission_atomic_sample :
    windowIn ((storeAdmit (runCalls crowdedStore sampleFront) crowdedOut ⟨1, 1⟩ ⟨5, 6⟩
        ⟨7, 8⟩).2.bucketAt sampleKey) =
      windowIn ((runCalls crowdedStore sampleFront).bucketAt sampleKey) ∧
    (storeAdmit (runCalls crowdedStore sampleFront) crowdedOut ⟨1, 1⟩ ⟨5, 6⟩ ⟨7, 8⟩).2.bucketAt
      crowdedOut.key = none := by
  obtain ⟨hWindows, _, ⟨_, hBuckets⟩, _⟩ := failed_admission_atomic crowdedStore_new (by decide)
    sampleFront crowdedOut ⟨1, 1⟩ ⟨5, 6⟩ ⟨7, 8⟩ crowdedOut_fails
  constructor
  · rcases hWindows sampleKey with hSame | ⟨hNone, _⟩
    · exact hSame
    · exact absurd hNone (by decide)
  · refine Option.eq_none_iff_forall_ne_some.mpr fun state hState => ?_
    obtain ⟨state, hBefore, _⟩ := hBuckets crowdedOut.key state hState (Or.inr (Or.inl rfl))
    exact absurd hBefore (by simp [show (runCalls crowdedStore sampleFront).bucketAt
      crowdedOut.key = none from rfl])

/-- The statistics are not all as they were: nothing expires here, but the refused admission is
counted as an overload, and the cleanup before its second attempt as a run. -/
theorem failed_admission_counts :
    ¬ ∀ (calls : List TimedCall) (command : AdmitCommand) (now : RateLimitNow)
      (ids retryIds : DrawnIds) (e : RateLimitStoreError),
      (storeAdmit (runCalls crowdedStore calls) command now ids retryIds).1 = .error e →
      (∀ entry ∈ (runCalls crowdedStore calls).buckets.entries,
        entry.2.state.expired now.mono = []) →
      (storeAdmit (runCalls crowdedStore calls) command now ids retryIds).2.stats =
        (runCalls crowdedStore calls).stats := by
  intro h
  have hSame := h sampleFront crowdedOut ⟨1, 1⟩ ⟨5, 6⟩ ⟨7, 8⟩ _ crowdedOut_fails (by decide)
  exact absurd (congrArg RateLimitStoreStats.overloads hSame) (by decide)

/-! ## Other keys -/

def Call.Concerns (key : RateLimitKey) : Call → Prop
  | .admission command _ _ => command.key = key
  | .settlement command => command.reservation.key = key
  | _ => False

theorem filter_later {α : Type} {p q : α → Bool} {o o' : Option α} (h : ∀ a, q a → p a)
    (hSame : o'.filter p = o.filter p) : o'.filter q = o.filter q := by
  have hTwice : ∀ o : Option α, o.filter q = (o.filter p).filter q := by
    rintro (_ | a)
    · rfl
    · grind [Option.filter]
  rw [hTwice, hSame, ← hTwice]

/-- **Keys do not disturb each other.** Whatever other keys ask for and whenever the store cleans
up, the live window of a key and the records that it is to keep stay as they are. -/
theorem keys_isolated (store : MemoryRateLimitStore) {calls : List TimedCall} {key : RateLimitKey}
    {now : Nat} (hOthers : ∀ timed ∈ calls, ¬ timed.call.Concerns key)
    (hClock : ∀ timed ∈ calls, timed.now.mono ≤ now) :
    liveWindow now ((runCalls store calls).bucketAt key) = liveWindow now (store.bucketAt key) ∧
      ∀ requestId, keptRecord now ((runCalls store calls).bucketAt key) requestId =
        keptRecord now (store.bucketAt key) requestId := by
  induction calls generalizing store with
  | nil => exact ⟨rfl, fun _ => rfl⟩
  | cons timed calls ih =>
    obtain ⟨hWindow, hRecords⟩ := ih (perform store timed).2
      (fun later hLater => hOthers later (List.mem_cons_of_mem _ hLater))
      (fun later hLater => hClock later (List.mem_cons_of_mem _ hLater))
    have hOther := hOthers timed List.mem_cons_self
    have hTime := hClock timed List.mem_cons_self
    have hQuiet : Quiet timed.now.mono (store.bucketAt key)
        ((perform store timed).2.bucketAt key) := by
      generalize hAfter : (perform store timed).2.bucketAt key = after
      cases hAfter ▸ (perform_effect store timed).2.2 key with
      | quiet hQuiet => exact hQuiet
      | decided hCall _ hKey => exact absurd hKey (by simpa [hCall, Call.Concerns] using hOther)
      | settled hCall hKey => exact absurd hKey (by simpa [hCall, Call.Concerns] using hOther)
    refine ⟨hWindow.trans (filter_later (fun window hLive => ?_) hQuiet.liveWindow_eq),
      fun requestId => (hRecords requestId).trans
        (filter_later (fun record hKept => ?_) (hQuiet.keptRecord_eq requestId))⟩
    · simp only [WindowState.liveAt, decide_eq_true_eq] at hLive ⊢
      omega
    · simp only [AdmissionRecord.keptAt, Bool.or_eq_true, decide_eq_true_eq] at hKept ⊢
      exact hKept.imp_right fun hRetained => by omega

theorem keys_isolated_sample : (liveWindow 4 ((runCalls (runCalls sampleStore sampleCalls)
    [⟨.admission crowdedOut ⟨9, 10⟩ ⟨11, 12⟩, ⟨3, 3⟩⟩, ⟨.cleanup, ⟨4, 4⟩⟩]).bucketAt
      sampleKey)).map (fun window => window.used .tokens) = some 35 := by
  rw [(keys_isolated _ (by simp [Call.Concerns, crowdedOut, sampleKey]) (by simp)).1]
  decide

end KongRust.RateLimit

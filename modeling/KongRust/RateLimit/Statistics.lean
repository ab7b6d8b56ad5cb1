import KongRust.RateLimit.Accounting

/-!
# The statistics are exact

The store counts its buckets, its records and its outstanding reservations in counters of
their own, which admission, settlement, expiry, rollback and bucket removal each adjust. Here
the counters are compared with the contents: after every run they are equal, and within the
configured bounds.

`KeptByCells` and `KeptByCalls` are the induction rules for properties of the whole store.
-/

namespace KongRust.RateLimit

open KongRust.Machine Table BucketState

/-! ## Contents -/

def AdmissionRecord.outstanding (record : AdmissionRecord) : Bool :=
  !(record.settlement.isSome || record.decision.isRejected)

def AdmissionRecord.settled (record : AdmissionRecord) : Bool := record.settlement.isSome

def AdmissionRecord.refused (record : AdmissionRecord) : Bool :=
  record.settlement.isNone && record.decision.isRejected

def BucketState.recordCount (state : BucketState) : Nat := state.admissions.entries.length

def BucketState.outstandingCount (state : BucketState) : Nat :=
  Table.total (fun record => if record.outstanding then 1 else 0) state.admissions

def MemoryRateLimitStore.recordCount (store : MemoryRateLimitStore) : Nat :=
  Table.total (fun cell => cell.state.recordCount) store.buckets

def MemoryRateLimitStore.outstandingCount (store : MemoryRateLimitStore) : Nat :=
  Table.total (fun cell => cell.state.outstandingCount) store.buckets

/-- The counters that stand for contents are the numbers of what is there. -/
structure Counted (store : MemoryRateLimitStore) : Prop where
  buckets : store.stats.buckets = store.buckets.entries.length
  records : store.stats.idempotencyRecords = store.recordCount
  live : store.stats.liveReservations = store.outstandingCount

def MemoryRateLimitConfig.admissionCapacity (config : MemoryRateLimitConfig) : Nat :=
  config.maxIdempotencyRecords - config.recoveryRecordHeadroom

structure Bounded (store : MemoryRateLimitStore) : Prop where
  buckets : store.stats.buckets ≤ store.config.maxBuckets
  records : store.stats.idempotencyRecords ≤ store.config.admissionCapacity
  live : store.stats.liveReservations ≤ store.config.maxLiveReservations

structure StatsExact (store : MemoryRateLimitStore) : Prop where
  counted : Counted store
  bounded : Bounded store

theorem outstanding_of_settled {record : AdmissionRecord} (h : record.settled) :
    record.outstanding = false := by
  rw [AdmissionRecord.settled] at h
  rw [AdmissionRecord.outstanding, h]
  rfl

theorem keptAt_eq (record : AdmissionRecord) (now : Nat) :
    record.keptAt now = (record.outstanding || decide (now < record.retainUntil)) := rfl

theorem keptAt_of_outstanding {record : AdmissionRecord} (h : record.outstanding) (now : Nat) :
    record.keptAt now := by
  rw [keptAt_eq, h, Bool.true_or]

theorem fetchSub_of_le {a b : Nat} (h : b ≤ a) : fetchSub a b = a - b := if_pos h

/-! ## Expiry -/

theorem recordCount_purge (now : Nat) (state : BucketState) :
    (state.purge now).recordCount + (state.expired now).length = state.recordCount := by
  have hDropped := total_retain_add (fun _ => 1) (fun record => record.keptAt now) state.admissions
  rw [recordCount, recordCount, length_entries, length_entries, ← hDropped, expired]
  simp [purge]

theorem outstandingCount_purge (now : Nat) (state : BucketState) :
    (state.purge now).outstandingCount = state.outstandingCount := by
  have hWeight : ∀ requestId record, state.admissions.lookup requestId = some record →
      record.keptAt now = false → (if record.outstanding then 1 else 0) = 0 := by
    intro requestId record _ hDropped
    rw [if_neg]
    intro hOutstanding
    rw [keptAt_of_outstanding hOutstanding] at hDropped
    cases hDropped
  exact total_retain hWeight

theorem expired_le_recordCount (now : Nat) (state : BucketState) :
    (state.expired now).length ≤ state.recordCount := by
  have hPurge := recordCount_purge now state
  omega

theorem purgeStats_buckets (now : Nat) (state : BucketState) (stats : RateLimitStoreStats) :
    (purgeStats now state stats).buckets = stats.buckets := by
  unfold purgeStats
  dsimp only
  split <;> rfl

theorem purgeStats_records (now : Nat) {state : BucketState} {stats : RateLimitStoreStats}
    (h : state.recordCount ≤ stats.idempotencyRecords) :
    (purgeStats now state stats).idempotencyRecords + (state.expired now).length =
      stats.idempotencyRecords := by
  have hLe := expired_le_recordCount now state
  unfold purgeStats
  dsimp only
  split
  · omega
  · dsimp only
    rw [fetchSub_of_le (by omega)]
    omega

/-! ## One bucket -/

/-- The counters that stand for contents. -/
def RateLimitStoreStats.counts (stats : RateLimitStoreStats) : Nat × Nat × Nat × Nat × Nat :=
  (stats.buckets, stats.idempotencyRecords, stats.liveReservations, stats.rejectedRecords,
    stats.recoveryRecords)

/-- What an operation does to a bucket and to the counters of its contents. -/
inductive CellStep (config : MemoryRateLimitConfig) : BucketState → RateLimitStoreStats →
    BucketState → RateLimitStoreStats → Prop where
  | same {state state' : BucketState} {stats stats' : RateLimitStoreStats}
      (hAdmissions : state'.admissions = state.admissions) (hCounts : stats'.counts = stats.counts) :
      CellStep config state stats state' stats'
  | purge (now : Nat) (state : BucketState) (stats : RateLimitStoreStats) :
      CellStep config state stats (state.purge now) (purgeStats now state stats)
  | insert {state state' : BucketState} {stats stats' : RateLimitStoreStats} {requestId : String}
      {record : AdmissionRecord} (hFresh : state.admissions.lookup requestId = none)
      (hAdmissions : state'.admissions = state.admissions.insert requestId record)
      (hSettled : record.settled = false)
      (hCounts : stats'.counts = (stats.buckets, stats.idempotencyRecords + 1,
        stats.liveReservations + (if record.outstanding then 1 else 0),
        (if record.refused then fetchAdd stats.rejectedRecords 1 else stats.rejectedRecords),
        stats.recoveryRecords))
      (hCapacity : stats.idempotencyRecords < config.admissionCapacity)
      (hLimit : record.outstanding → stats.liveReservations < config.maxLiveReservations) :
      CellStep config state stats state' stats'
  | settle {state state' : BucketState} {stats stats' : RateLimitStoreStats} {requestId : String}
      {record settled : AdmissionRecord}
      (hRecord : state.admissions.lookup requestId = some record) (hOpen : record.outstanding)
      (hSettled : settled.settled)
      (hAdmissions : state'.admissions = state.admissions.insert requestId settled)
      (hCounts : stats'.counts = (stats.buckets, stats.idempotencyRecords,
        fetchSub stats.liveReservations 1, stats.rejectedRecords,
        fetchAdd stats.recoveryRecords 1)) :
      CellStep config state stats state' stats'
  | trans {state state' state'' : BucketState} {stats stats' stats'' : RateLimitStoreStats}
      (first : CellStep config state stats state' stats')
      (second : CellStep config state' stats' state'' stats'') :
      CellStep config state stats state'' stats''

def Locked.Steps {α : Type} (config : MemoryRateLimitConfig) (state : BucketState)
    (stats : RateLimitStoreStats) (result : Locked α) : Prop :=
  CellStep config state stats result.2.1 result.2.2

/-- The counters go with the contents of one bucket, and no further than the bounds. -/
structure Moves (config : MemoryRateLimitConfig) (state : BucketState)
    (stats : RateLimitStoreStats) (state' : BucketState) (stats' : RateLimitStoreStats) :
    Prop where
  buckets : stats'.buckets = stats.buckets
  records : stats'.idempotencyRecords + state.recordCount =
    stats.idempotencyRecords + state'.recordCount
  live : stats'.liveReservations + state.outstandingCount =
    stats.liveReservations + state'.outstandingCount
  recordsBound : stats.idempotencyRecords ≤ config.admissionCapacity →
    stats'.idempotencyRecords ≤ config.admissionCapacity
  liveBound : stats.liveReservations ≤ config.maxLiveReservations →
    stats'.liveReservations ≤ config.maxLiveReservations

/-- The counters cover the contents of a bucket. -/
structure Covers (stats : RateLimitStoreStats) (state : BucketState) : Prop where
  records : state.recordCount ≤ stats.idempotencyRecords
  live : state.outstandingCount ≤ stats.liveReservations

section OneBucket

variable {config : MemoryRateLimitConfig} {state state' state'' : BucketState}
  {stats stats' stats'' : RateLimitStoreStats}

theorem counts_inj {a b c d e : Nat} : stats.counts = (a, b, c, d, e) ↔
    stats.buckets = a ∧ stats.idempotencyRecords = b ∧ stats.liveReservations = c ∧
      stats.rejectedRecords = d ∧ stats.recoveryRecords = e := by
  simp [RateLimitStoreStats.counts]

theorem Moves.trans (h : Moves config state stats state' stats')
    (h' : Moves config state' stats' state'' stats'') :
    Moves config state stats state'' stats'' where
  buckets := h'.buckets.trans h.buckets
  records := by
    have h₁ := h.records
    have h₂ := h'.records
    omega
  live := by
    have h₁ := h.live
    have h₂ := h'.live
    omega
  recordsBound hBound := h'.recordsBound (h.recordsBound hBound)
  liveBound hBound := h'.liveBound (h.liveBound hBound)

theorem moves_of_same (hAdmissions : state'.admissions = state.admissions)
    (hCounts : stats'.counts = stats.counts) : Moves config state stats state' stats' := by
  obtain ⟨hBuckets, hRecords, hLive, -⟩ := counts_inj.mp hCounts
  exact ⟨hBuckets, by rw [hRecords, recordCount, recordCount, hAdmissions],
    by rw [hLive, outstandingCount, outstandingCount, hAdmissions],
    fun hBound => hRecords ▸ hBound, fun hBound => hLive ▸ hBound⟩

theorem moves_purge (config : MemoryRateLimitConfig) (now : Nat) (h : Covers stats state) :
    Moves config state stats (state.purge now) (purgeStats now state stats) where
  buckets := purgeStats_buckets now state stats
  records := by
    have hState := recordCount_purge now state
    have hStats := purgeStats_records now h.records
    omega
  live := by rw [purgeStats_live, outstandingCount_purge]
  recordsBound hBound := by
    have hStats := purgeStats_records now h.records
    omega
  liveBound hBound := by rw [purgeStats_live]; exact hBound

theorem Moves.covers (h : Moves config state stats state' stats') (hCovers : Covers stats state) :
    Covers stats' state' where
  records := by
    have hMove := h.records
    have hLe := hCovers.records
    omega
  live := by
    have hMove := h.live
    have hLe := hCovers.live
    omega

variable {requestId : String} {record : AdmissionRecord} {now : RateLimitNow}
  {command : SettleCommand}

theorem moves_insert (hFresh : state.admissions.lookup requestId = none)
    (hAdmissions : state'.admissions = state.admissions.insert requestId record)
    (hBuckets : stats'.buckets = stats.buckets)
    (hRecords : stats'.idempotencyRecords = stats.idempotencyRecords + 1)
    (hLive : stats'.liveReservations = stats.liveReservations + if record.outstanding then 1 else 0)
    (hCapacity : stats.idempotencyRecords < config.admissionCapacity)
    (hLimit : record.outstanding → stats.liveReservations < config.maxLiveReservations) :
    Moves config state stats state' stats' where
  buckets := hBuckets
  records := by
    simp only [recordCount, hAdmissions, length_entries, total_insert hFresh, hRecords]
    omega
  live := by
    simp only [outstandingCount, hAdmissions, total_insert hFresh, hLive]
    omega
  recordsBound _ := by omega
  liveBound hBound := by
    rw [hLive]
    split
    · exact hLimit ‹_›
    · exact hBound

theorem moves_settle {settled : AdmissionRecord} (hCovers : Covers stats state)
    (hRecord : state.admissions.lookup requestId = some record) (hOpen : record.outstanding)
    (hSettled : settled.outstanding = false)
    (hAdmissions : state'.admissions = state.admissions.insert requestId settled)
    (hBuckets : stats'.buckets = stats.buckets)
    (hRecords : stats'.idempotencyRecords = stats.idempotencyRecords)
    (hLive : stats'.liveReservations = fetchSub stats.liveReservations 1) :
    Moves config state stats state' stats' := by
  have hCount : state'.outstandingCount + 1 = state.outstandingCount := by
    have hReplace : total (fun record => if record.outstanding then 1 else 0)
        (state.admissions.insert requestId settled) + (if record.outstanding then 1 else 0) =
          (if settled.outstanding then 1 else 0) + state.outstandingCount :=
      total_replace hRecord
    simp only [hOpen, hSettled, if_true, Bool.false_eq_true, if_false] at hReplace
    rw [outstandingCount, hAdmissions]
    omega
  have hCovered := hCovers.live
  have hSub : stats'.liveReservations + 1 = stats.liveReservations := by
    rw [hLive, fetchSub_of_le (by omega)]
    omega
  refine ⟨hBuckets, ?_, by omega, fun hBound => hRecords ▸ hBound, fun hBound => by omega⟩
  have hReplace : total (fun _ => 1) (state.admissions.insert requestId settled) + 1 =
      1 + total (fun _ => 1) state.admissions := total_replace hRecord
  simp only [recordCount, hAdmissions, length_entries, hRecords]
  omega

theorem tryReserve_eq_some {counter limit reserved : Nat}
    (h : tryReserve counter limit = some reserved) : counter < limit ∧ reserved = counter + 1 := by
  unfold tryReserve at h
  split at h
  · cases h
  · exact ⟨by omega, (Option.some.inj h).symm⟩

/-- A step moves the counters by what it adds to the bucket and takes out of it. -/
theorem CellStep.moves (h : CellStep config state stats state' stats')
    (hCovers : Covers stats state) : Moves config state stats state' stats' := by
  induction h with
  | same hAdmissions hCounts => exact moves_of_same hAdmissions hCounts
  | purge now state stats => exact moves_purge config now hCovers
  | insert hFresh hAdmissions _ hCounts hCapacity hLimit =>
    obtain ⟨hBuckets, hRecords, hLive, -⟩ := counts_inj.mp hCounts
    exact moves_insert hFresh hAdmissions hBuckets hRecords hLive hCapacity hLimit
  | settle hRecord hOpen hSettled hAdmissions hCounts =>
    obtain ⟨hBuckets, hRecords, hLive, -⟩ := counts_inj.mp hCounts
    exact moves_settle hCovers hRecord hOpen (outstanding_of_settled hSettled)
      hAdmissions hBuckets hRecords hLive
  | trans _ _ ih ih' => exact (ih hCovers).trans (ih' ((ih hCovers).covers hCovers))

theorem step_release (config : MemoryRateLimitConfig) (state : BucketState)
    (stats : RateLimitStoreStats) :
    CellStep config state stats state
      (releaseRecord { stats with idempotencyRecords := stats.idempotencyRecords + 1 }) := by
  refine .same rfl ?_
  simp [releaseRecord, fetchSub, RateLimitStoreStats.counts]

theorem admitReserved_steps {instanceId : Uuid} {command : AdmitCommand} {ids : DrawnIds}
    {retainUntil : Nat} (hFresh : state.admissions.lookup command.requestId = none)
    (hCapacity : stats.idempotencyRecords < config.admissionCapacity) :
    (admitReserved config instanceId command now ids retainUntil state
      { stats with idempotencyRecords := stats.idempotencyRecords + 1 }).Steps
      config state stats := by
  unfold admitReserved
  dsimp only
  split
  · exact step_release config state stats
  · rename_i window opened hEnsure
    have hOpened := ensureWindow_opened hEnsure
    have hAdmissions : ∀ record, (opened.admissions.insert command.requestId record) =
        state.admissions.insert command.requestId record := by
      intro record
      rw [hOpened.admissions_eq]
    split
    · rw [hOpened.rollback]
      exact step_release config state stats
    · split
      · rw [hOpened.rollback]
        exact step_release config state stats
      · split
        · refine .insert hFresh (hAdmissions _) rfl (counts_inj.mpr
            ⟨rfl, rfl, rfl, (if_pos rfl).symm, rfl⟩) hCapacity fun hOpen => ?_
          cases hOpen
        · split
          · rw [hOpened.rollback]
            exact step_release config state stats
          · rename_i live hReserve
            obtain ⟨hLimit, rfl⟩ := tryReserve_eq_some hReserve
            exact .insert hFresh (hAdmissions _) rfl (counts_inj.mpr
              ⟨rfl, rfl, rfl, (if_neg Bool.false_ne_true).symm, rfl⟩) hCapacity fun _ => hLimit

theorem admitLocked_steps (config : MemoryRateLimitConfig) (instanceId : Uuid)
    (command : AdmitCommand) (now : RateLimitNow) (ids : DrawnIds) (state : BucketState)
    (stats : RateLimitStoreStats) :
    (admitLocked config instanceId command now ids state stats).Steps config state stats := by
  unfold admitLocked
  split
  · split
    · exact .same rfl rfl
    · exact .same rfl rfl
  · rename_i hFresh
    dsimp only
    split
    · exact .same rfl rfl
    · split
      · exact .same rfl rfl
      · split
        · exact .same rfl rfl
        · split
          · exact .same rfl rfl
          · rename_i records hReserve
            obtain ⟨hCapacity, rfl⟩ := tryReserve_eq_some hReserve
            exact admitReserved_steps hFresh hCapacity

theorem recordSettlement_steps {result : SettlementResult}
    (hRecord : state.admissions.lookup command.reservation.requestId = some record)
    (hOpen : record.outstanding) :
    (recordSettlement config command now record result state stats).Steps config state stats := by
  unfold recordSettlement
  split
  · exact .same rfl rfl
  · dsimp only
    split
    · exact .settle hRecord hOpen rfl rfl rfl
    · exact .settle hRecord hOpen rfl rfl rfl
    · exact .settle hRecord hOpen rfl rfl rfl

theorem settleRecord_steps
    (hRecord : state.admissions.lookup command.reservation.requestId = some record)
    (hOpen : record.outstanding) :
    (settleRecord config command now record state stats).Steps config state stats := by
  unfold settleRecord
  split
  · split
    · exact .same rfl rfl
    · rename_i adjusted _
      have hWindow : CellStep config state stats { state with activeWindow := some adjusted } stats :=
        .same rfl rfl
      exact hWindow.trans (recordSettlement_steps hRecord hOpen)
  · exact recordSettlement_steps hRecord hOpen

theorem settleLocked_steps (command : SettleCommand) (now : RateLimitNow) :
    (settleLocked config command now state stats).Steps config state stats := by
  unfold settleLocked
  split
  · exact .same rfl rfl
  · exact .same rfl rfl
  · rename_i record hAdmitted
    obtain ⟨hRecord, snapshot, replayed, hDecision⟩ := admittedRecord_eq_some hAdmitted
    split
    · split
      · exact .same rfl rfl
      · exact .same rfl rfl
    · rename_i hOpen
      refine settleRecord_steps hRecord ?_
      simp [AdmissionRecord.outstanding, hOpen, hDecision, AdmissionDecision.isRejected]

end OneBucket

/-! ## The whole store -/

/-- A property of the store that nothing in a call breaks. -/
structure KeptByCalls (P : MemoryRateLimitStore → Prop) : Prop where
  timer : ∀ {store} next, P store → P { store with nextCleanupAt := next }
  cleanup : ∀ {store} now, P store → P (cleanupAt now store).2
  overload : ∀ {store}, P store → P (countOverload store)
  removal : ∀ {store} key, P store → P (removeEmptyBucket store key)
  acquired : ∀ {store store' key cell}, createBucket store key = .ok (cell, store') → P store →
    P (scheduleCleanup store' key cell).2
  admitted : ∀ {store : MemoryRateLimitStore} {cell} {command : AdmitCommand} (now ids),
    store.buckets.lookup command.key = some cell → P store →
      P (withBucket store command.key cell now
        (admitLocked store.config store.instanceId command now ids)).2
  settled : ∀ {store : MemoryRateLimitStore} {cell} {command : SettleCommand} (now),
    store.buckets.lookup command.reservation.key = some cell → P store →
      P (withBucket store command.reservation.key cell now
        (settleLocked store.config command now)).2
  inspected : ∀ {store : MemoryRateLimitStore} {key cell} (now)
    (answer : BucketState → Except RateLimitStoreError InspectResult),
    store.buckets.lookup key = some cell → P store →
      P (withBucket store key cell now fun state stats => (answer state, state, stats)).2

namespace KeptByCalls

variable {P : MemoryRateLimitStore → Prop} {store : MemoryRateLimitStore}

section

variable (h : KeptByCalls P)
include h

section

variable (now : RateLimitNow) (hStore : P store)
include hStore

theorem maybeCleanup : P (maybeCleanup now store) := by
  unfold RateLimit.maybeCleanup
  split
  · exact hStore
  · exact h.cleanup now (h.timer _ hStore)

theorem admitOnce (command : AdmitCommand) (ids : DrawnIds) :
    P (admitOnce store command now ids).2 := by
  unfold RateLimit.admitOnce
  cases hCreate : createBucket store command.key with
  | error e => exact hStore
  | ok created =>
    obtain ⟨cell, store₁⟩ := created
    have hCell₁ := (createBucket_quiet now.mono hCreate).2
    have hCell₂ := (scheduleCleanup_quiet now.mono hCell₁).2
    exact h.admitted now ids hCell₂ (h.acquired hCreate hStore)

theorem admitRetry (command : AdmitCommand) (ids : DrawnIds) :
    P (admitRetry store command now ids).2 := by
  have hOnce := h.admitOnce now hStore command ids
  unfold RateLimit.admitRetry
  generalize RateLimit.admitOnce store command now ids = attempt at hOnce ⊢
  obtain ⟨answer, store'⟩ := attempt
  rcases answer with e | decision | _
  · dsimp only
    split
    · exact h.overload hOnce
    · exact hOnce
  · exact hOnce
  · exact h.removal _ (h.overload hOnce)

theorem storeAdmit (command : AdmitCommand) (ids retryIds : DrawnIds) :
    P (storeAdmit store command now ids retryIds).2 := by
  have hOnce := h.admitOnce now (h.maybeCleanup now hStore) command ids
  unfold RateLimit.storeAdmit
  split
  · exact hStore
  · generalize RateLimit.admitOnce (RateLimit.maybeCleanup now store) command now ids = attempt
      at hOnce ⊢
    obtain ⟨answer, store'⟩ := attempt
    have hRetry := h.admitRetry now (h.cleanup now hOnce) command retryIds
    rcases answer with e | decision | _
    · dsimp only
      split
      · exact hRetry
      · exact hOnce
    · exact hOnce
    · exact hRetry

theorem storeSettle (command : SettleCommand) : P (storeSettle store command now).2 := by
  have hClean := h.maybeCleanup now hStore
  unfold RateLimit.storeSettle settleInner
  split
  · exact hClean
  · split
    · exact hClean
    · split
      · exact hClean
      · rename_i cell hCell
        exact h.settled now hCell hClean

theorem storeInspect (query : InspectQuery) : P (storeInspect store query now).2 := by
  have hClean := h.maybeCleanup now hStore
  unfold RateLimit.storeInspect inspectInner
  dsimp only
  split
  · exact hClean
  · split
    · exact hClean
    · rename_i cell hCell
      exact h.inspected now _ hCell hClean

end

theorem perform (timed : TimedCall) (hStore : P store) :
    P (perform store timed).2 := by
  obtain ⟨call, now⟩ := timed
  cases call with
  | admission command ids retryIds => exact h.storeAdmit now hStore command ids retryIds
  | settlement command => exact h.storeSettle now hStore command
  | inspection query => exact h.storeInspect now hStore query
  | cleanup => exact h.cleanup now hStore

theorem runCalls (calls : List TimedCall) (hStore : P store) :
    P (runCalls store calls) := by
  induction calls generalizing store with
  | nil => exact hStore
  | cons timed calls ih => exact ih (h.perform timed hStore)

end

end KeptByCalls

/-- A property of the contents of the store and of their counters, which a step of one cell, a new
cell and the removal of an empty one keep. -/
structure KeptByCells (P : MemoryRateLimitStore → Prop) : Prop where
  same : ∀ {store store' : MemoryRateLimitStore}, P store → store'.buckets = store.buckets →
    store'.config = store.config → store'.stats.counts = store.stats.counts → P store'
  replace : ∀ {store store' : MemoryRateLimitStore} {key cell cell'}, P store →
    store.buckets.lookup key = some cell →
    CellStep store.config cell.state store.stats cell'.state store'.stats →
    store'.buckets = store.buckets.insert key cell' → store'.config = store.config → P store'
  erase : ∀ {store store' : MemoryRateLimitStore} {key cell}, P store →
    store.buckets.lookup key = some cell → cell.state.isEmpty →
    store'.buckets = store.buckets.erase key → store'.config = store.config →
    store'.stats.counts = (fetchSub store.stats.buckets 1, store.stats.counts.2) → P store'
  create : ∀ {store : MemoryRateLimitStore} {key cell next}, P store →
    store.buckets.lookup key = none → cell.state.admissions = ∅ →
    store.stats.buckets < store.config.maxBuckets →
    P { store with
      buckets := store.buckets.insert key cell
      stats := { store.stats with buckets := store.stats.buckets + 1 }
      nextCell := next }

namespace KeptByCells

variable {P : MemoryRateLimitStore → Prop} {store store' : MemoryRateLimitStore}
  {key : RateLimitKey} {cell : BucketCell}

section

variable (h : KeptByCells P)
include h

theorem withBucket {α : Type} (hStore : P store)
    (hCell : store.buckets.lookup key = some cell) (now : RateLimitNow)
    {operation : BucketState → RateLimitStoreStats → Locked α}
    (hOperation : ∀ state stats, (operation state stats).Steps store.config state stats) :
    P (withBucket store key cell now operation).2 := by
  have hTouch : CellStep store.config cell.state store.stats
      { cell.state with lastTouchedMono := now.mono } store.stats := .same rfl rfl
  have hStep := (hTouch.trans (.purge now.mono _ _)).trans (hOperation _ _)
  unfold RateLimit.withBucket
  exact h.replace hStore hCell hStep rfl rfl

theorem cleanupTicket {pass : CleanupPass} (hStore : P pass.store)
    (now : RateLimitNow) (ticket : CleanupTicket) : P (cleanupTicket now pass ticket).store := by
  unfold RateLimit.cleanupTicket
  split
  · exact hStore
  · rename_i cell hCell
    split
    · exact hStore
    · have hPurged : P (pass.store.setState ticket.key cell (cell.state.purge now.mono)
          (purgeStats now.mono cell.state pass.store.stats)) :=
        h.replace hStore hCell (.purge now.mono _ _) rfl rfl
      dsimp only
      split
      · rename_i hEmpty
        exact h.erase hPurged (AList.lookup_insert _) hEmpty (erase_insert _ _ _).symm rfl rfl
      · exact hPurged

theorem cleanupTickets {pass : CleanupPass} (hStore : P pass.store)
    (now : RateLimitNow) (tickets : List CleanupTicket) :
    P (tickets.foldl (RateLimit.cleanupTicket now) pass).store := by
  induction tickets generalizing pass with
  | nil => exact hStore
  | cons ticket tickets ih => exact ih (h.cleanupTicket hStore now ticket)

section

variable (hStore : P store)
include hStore

theorem cleanupAt (now : RateLimitNow) :
    P (cleanupAt now store).2 := by
  have hStart : P (startPass store).2.store := h.same hStore rfl rfl rfl
  exact h.same (h.cleanupTickets hStart now (startPass store).1) rfl rfl rfl

theorem createBucket (hCreate : createBucket store key = .ok (cell, store')) : P store' := by
  unfold RateLimit.createBucket at hCreate
  split at hCreate
  · obtain ⟨rfl, rfl⟩ := Prod.mk.inj (Except.ok.inj hCreate)
    exact hStore
  · rename_i hAbsent
    split at hCreate
    · simp at hCreate
    · rename_i count hReserve
      obtain ⟨hLimit, rfl⟩ := tryReserve_eq_some hReserve
      obtain ⟨rfl, rfl⟩ := Prod.mk.inj (Except.ok.inj hCreate)
      exact h.create hStore hAbsent rfl hLimit

theorem scheduleCleanup
    (hCell : store.buckets.lookup key = some cell) : P (scheduleCleanup store key cell).2 := by
  unfold RateLimit.scheduleCleanup
  split
  · exact hStore
  · have hStep : CellStep store.config cell.state store.stats
        { cell with cleanupQueued := true }.state store.stats := .same rfl rfl
    exact h.replace hStore hCell hStep rfl rfl

theorem removeEmptyBucket (key : RateLimitKey) :
    P (removeEmptyBucket store key) := by
  unfold RateLimit.removeEmptyBucket
  split
  · exact hStore
  · rename_i cell hCell
    split
    · rename_i hEmpty
      exact h.erase hStore hCell hEmpty rfl rfl rfl
    · exact hStore

end

theorem keptByCalls : KeptByCalls P where
  timer _ hStore := h.same hStore rfl rfl rfl
  cleanup now hStore := h.cleanupAt hStore now
  overload hStore := h.same hStore rfl rfl rfl
  removal key hStore := h.removeEmptyBucket hStore key
  acquired hCreate hStore :=
    h.scheduleCleanup (h.createBucket hStore hCreate) (createBucket_quiet 0 hCreate).2
  admitted now ids hCell hStore := h.withBucket hStore hCell now fun state stats =>
    admitLocked_steps _ _ _ now ids state stats
  settled now hCell hStore := h.withBucket hStore hCell now fun _ _ => settleLocked_steps _ now
  inspected now _ hCell hStore := h.withBucket hStore hCell now fun _ _ => .same rfl rfl

end

end KeptByCells

/-! ## The counters of the store -/

namespace StatsExact

variable {store store' : MemoryRateLimitStore} {key : RateLimitKey} {cell : BucketCell}

section

variable (h : StatsExact store)
include h

theorem of_same (hBuckets : store'.buckets = store.buckets)
    (hConfig : store'.config = store.config) (hCounts : store'.stats.counts = store.stats.counts) :
    StatsExact store' := by
  obtain ⟨hCount, hRecords, hLive, -⟩ := counts_inj.mp hCounts
  obtain ⟨⟨h₁, h₂, h₃⟩, ⟨h₄, h₅, h₆⟩⟩ := h
  refine ⟨⟨?_, ?_, ?_⟩, ⟨?_, ?_, ?_⟩⟩
  · rw [hCount, hBuckets, h₁]
  · rw [hRecords, h₂, MemoryRateLimitStore.recordCount, MemoryRateLimitStore.recordCount, hBuckets]
  · rw [hLive, h₃, MemoryRateLimitStore.outstandingCount, MemoryRateLimitStore.outstandingCount,
      hBuckets]
  · rw [hCount, hConfig]
    exact h₄
  · rw [hRecords, hConfig]
    exact h₅
  · rw [hLive, hConfig]
    exact h₆

section

variable (hCell : store.buckets.lookup key = some cell)
include hCell

theorem covers :
    Covers store.stats cell.state where
  records := by
    rw [h.counted.records]
    exact weight_le_total (fun cell : BucketCell => cell.state.recordCount) hCell
  live := by
    rw [h.counted.live]
    exact weight_le_total (fun cell : BucketCell => cell.state.outstandingCount) hCell

/-- A cell is replaced, and the counters go with it. -/
theorem replace {cell' : BucketCell}
    (hStep : CellStep store.config cell.state store.stats cell'.state store'.stats)
    (hBuckets : store'.buckets = store.buckets.insert key cell')
    (hConfig : store'.config = store.config) : StatsExact store' := by
  have hMoves := hStep.moves (h.covers hCell)
  have hRecords : store'.recordCount + cell.state.recordCount =
      cell'.state.recordCount + store.recordCount := by
    rw [MemoryRateLimitStore.recordCount, hBuckets]
    exact total_replace hCell
  have hLive : store'.outstandingCount + cell.state.outstandingCount =
      cell'.state.outstandingCount + store.outstandingCount := by
    rw [MemoryRateLimitStore.outstandingCount, hBuckets]
    exact total_replace hCell
  have hLength : store'.buckets.entries.length + 1 = 1 + store.buckets.entries.length := by
    rw [hBuckets, length_entries, length_entries]
    exact total_replace hCell
  obtain ⟨hCounted, hBounded⟩ := h
  constructor
  · constructor
    · rw [hMoves.buckets, hCounted.buckets]
      omega
    · have hMove := hMoves.records
      rw [hCounted.records] at hMove
      omega
    · have hMove := hMoves.live
      rw [hCounted.live] at hMove
      omega
  · constructor
    · rw [hMoves.buckets, hConfig]
      exact hBounded.buckets
    · rw [hConfig]
      exact hMoves.recordsBound hBounded.records
    · rw [hConfig]
      exact hMoves.liveBound hBounded.live

/-- A bucket without records is removed. -/
theorem erase (hEmpty : cell.state.isEmpty) (hBuckets : store'.buckets = store.buckets.erase key)
    (hConfig : store'.config = store.config) (hCounts : store'.stats.counts =
      (fetchSub store.stats.buckets 1, store.stats.counts.2)) : StatsExact store' := by
  obtain ⟨hCount, hRecords, hLive, -⟩ := counts_inj.mp hCounts
  have hNone : cell.state.admissions = ∅ := eq_empty_of_entries (isEmpty_iff.mp hEmpty).2
  have hZero : cell.state.recordCount = 0 ∧ cell.state.outstandingCount = 0 := by
    rw [recordCount, outstandingCount, hNone]
    exact ⟨rfl, rfl⟩
  have hRecordCount : store'.recordCount + cell.state.recordCount = store.recordCount := by
    rw [MemoryRateLimitStore.recordCount, hBuckets]
    exact total_erase hCell
  have hOutstanding :
      store'.outstandingCount + cell.state.outstandingCount = store.outstandingCount := by
    rw [MemoryRateLimitStore.outstandingCount, hBuckets]
    exact total_erase hCell
  have hLength : store'.buckets.entries.length + 1 = store.buckets.entries.length := by
    rw [hBuckets, length_entries, length_entries]
    exact total_erase hCell
  obtain ⟨hCounted, hBounded⟩ := h
  have hSub : store'.stats.buckets + 1 = store.stats.buckets := by
    have hCounter := hCounted.buckets
    rw [hCount, fetchSub_of_le (by omega)]
    omega
  have hBound := hBounded.buckets
  constructor
  · constructor
    · have hCounter := hCounted.buckets
      omega
    · rw [hRecords, hCounted.records]
      omega
    · rw [hLive, hCounted.live]
      omega
  · constructor
    · rw [hConfig]
      omega
    · rw [hRecords, hConfig]
      exact hBounded.records
    · rw [hLive, hConfig]
      exact hBounded.live

end

/-- A new cell has no records. -/
theorem create {next : Nat} (hAbsent : store.buckets.lookup key = none)
    (hEmpty : cell.state.admissions = ∅) (hLimit : store.stats.buckets < store.config.maxBuckets) :
    StatsExact { store with
      buckets := store.buckets.insert key cell
      stats := { store.stats with buckets := store.stats.buckets + 1 }
      nextCell := next } := by
  obtain ⟨hCounted, hBounded⟩ := h
  refine ⟨⟨?_, ?_, ?_⟩, ⟨hLimit, hBounded.records, hBounded.live⟩⟩
  · simp only [length_entries, total_insert hAbsent]
    rw [hCounted.buckets, length_entries, Nat.add_comm]
  · simp only [MemoryRateLimitStore.recordCount, total_insert hAbsent]
    rw [hCounted.records, recordCount, hEmpty]
    exact (Nat.zero_add _).symm
  · simp only [MemoryRateLimitStore.outstandingCount, total_insert hAbsent]
    rw [hCounted.live, outstandingCount, hEmpty]
    exact (Nat.zero_add _).symm

end

theorem keptByCells : KeptByCells StatsExact where
  same h := h.of_same
  replace h hCell := h.replace hCell
  erase h := h.erase
  create h := h.create

theorem new {config : MemoryRateLimitConfig} {instanceId : Uuid} {now : RateLimitNow}
    (hNew : MemoryRateLimitStore.new config instanceId now = .ok store) : StatsExact store := by
  obtain ⟨_, rfl⟩ := new_eq_ok hNew
  exact ⟨⟨rfl, rfl, rfl⟩, ⟨Nat.zero_le _, Nat.zero_le _, Nat.zero_le _⟩⟩

end StatsExact

theorem statsExact_of_run {config : MemoryRateLimitConfig} {instanceId : Uuid}
    {start : RateLimitNow} {store : MemoryRateLimitStore}
    (hNew : MemoryRateLimitStore.new config instanceId start = .ok store)
    (calls : List TimedCall) : StatsExact (runCalls store calls) :=
  StatsExact.keptByCells.keptByCalls.runCalls calls (StatsExact.new hNew)

theorem runCalls_config (store : MemoryRateLimitStore) (calls : List TimedCall) :
    (runCalls store calls).config = store.config := by
  induction calls generalizing store with
  | nil => rfl
  | cons timed calls ih => exact (ih _).trans (perform_effect store timed).1

/-- **The statistics are the contents.** After any run the three counters of contents are the
numbers of buckets, of records and of outstanding reservations that the store holds, and none
is above its configured maximum. -/
theorem statistics_exact {config : MemoryRateLimitConfig} {instanceId : Uuid}
    {start : RateLimitNow} {store : MemoryRateLimitStore}
    (hNew : MemoryRateLimitStore.new config instanceId start = .ok store)
    (calls : List TimedCall) :
    let after := runCalls store calls
    (after.stats.buckets = after.buckets.entries.length ∧
      after.stats.idempotencyRecords = after.recordCount ∧
      after.stats.liveReservations = after.outstandingCount) ∧
    after.stats.buckets ≤ config.maxBuckets ∧
      after.stats.idempotencyRecords ≤ config.maxIdempotencyRecords ∧
      after.stats.liveReservations ≤ config.maxLiveReservations := by
  intro after
  have hConfig : after.config = config := by
    rw [runCalls_config store calls, (new_eq_ok hNew).2]
  obtain ⟨hCounted, hBounded⟩ := statsExact_of_run hNew calls
  refine ⟨⟨hCounted.buckets, hCounted.records, hCounted.live⟩, ?_, ?_, ?_⟩
  · rw [← hConfig]
    exact hBounded.buckets
  · rw [← hConfig]
    exact hBounded.records.trans (Nat.sub_le _ _)
  · rw [← hConfig]
    exact hBounded.live

/-- Two admissions and one settlement leave one outstanding reservation. -/
theorem statistics_exact_sample : (runCalls sampleStore sampleCalls).outstandingCount = 1 ∧
      (runCalls sampleStore sampleCalls).recordCount = 2 ∧
      (runCalls sampleStore sampleCalls).buckets.entries.length = 1 := by
  obtain ⟨⟨hBuckets, hRecords, hLive⟩, _⟩ := statistics_exact sampleStore_new sampleCalls
  rw [← hBuckets, ← hRecords, ← hLive]
  decide

end KongRust.RateLimit

import KongRust.RateLimit.Statistics

/-!
# Rejected and settled records

A record that is not outstanding is either rejected or kept for the retries of its settlement.
The store counts the two kinds with wrapping additions, so these counters are exact as long as
the number of records fits in a word.
-/

namespace KongRust.RateLimit

open KongRust.Machine Table BucketState

/-! ## Kinds -/

def BucketState.settledCount (state : BucketState) : Nat :=
  Table.total (fun record => if record.settled then 1 else 0) state.admissions

def BucketState.refusedCount (state : BucketState) : Nat :=
  Table.total (fun record => if record.refused then 1 else 0) state.admissions

def MemoryRateLimitStore.settledCount (store : MemoryRateLimitStore) : Nat :=
  Table.total (fun cell => cell.state.settledCount) store.buckets

def MemoryRateLimitStore.refusedCount (store : MemoryRateLimitStore) : Nat :=
  Table.total (fun cell => cell.state.refusedCount) store.buckets

/-- The counters of the two kinds against the contents, for a store that can count them. -/
structure KindsExact (store : MemoryRateLimitStore) : Prop where
  exact : StatsExact store
  fits : store.config.maxIdempotencyRecords < WORD
  refused : store.stats.rejectedRecords = store.refusedCount
  settled : store.stats.recoveryRecords = store.settledCount

theorem kinds_add_up (record : AdmissionRecord) :
    (if record.refused then 1 else 0) + (if record.settled then 1 else 0) +
      (if record.outstanding then 1 else 0) = 1 := by
  unfold AdmissionRecord.refused AdmissionRecord.settled AdmissionRecord.outstanding
  cases record.settlement <;> cases record.decision.isRejected <;> rfl

theorem BucketState.kinds_add_up (state : BucketState) :
    state.refusedCount + state.settledCount + state.outstandingCount = state.recordCount := by
  rw [refusedCount, settledCount, outstandingCount, recordCount, length_entries,
    ← total_add, ← total_add]
  exact total_congr fun entry _ => RateLimit.kinds_add_up entry.2

theorem MemoryRateLimitStore.kinds_add_up (store : MemoryRateLimitStore) :
    store.refusedCount + store.settledCount + store.outstandingCount = store.recordCount := by
  rw [refusedCount, settledCount, outstandingCount, recordCount, ← total_add, ← total_add]
  exact total_congr fun entry _ => entry.2.state.kinds_add_up

/-- The counters of the kinds go with the contents of one bucket. -/
structure MovesKinds (state : BucketState) (stats : RateLimitStoreStats) (state' : BucketState)
    (stats' : RateLimitStoreStats) : Prop where
  refused : stats'.rejectedRecords + state.refusedCount =
    stats.rejectedRecords + state'.refusedCount
  settled : stats'.recoveryRecords + state.settledCount =
    stats.recoveryRecords + state'.settledCount

/-- The counters cover the kinds of records of a bucket and add up. -/
structure CoversKinds (config : MemoryRateLimitConfig) (stats : RateLimitStoreStats)
    (state : BucketState) : Prop where
  covers : Covers stats state
  refused : state.refusedCount ≤ stats.rejectedRecords
  settled : state.settledCount ≤ stats.recoveryRecords
  sum : stats.rejectedRecords + stats.recoveryRecords + stats.liveReservations =
    stats.idempotencyRecords
  capacity : stats.idempotencyRecords ≤ config.admissionCapacity
  fits : config.maxIdempotencyRecords < WORD

section KindsOfOneBucket

variable {config : MemoryRateLimitConfig} {state state' state'' : BucketState}
  {stats stats' stats'' : RateLimitStoreStats}

theorem MovesKinds.trans (h : MovesKinds state stats state' stats')
    (h' : MovesKinds state' stats' state'' stats'') : MovesKinds state stats state'' stats'' where
  refused := by
    have h₁ := h.refused
    have h₂ := h'.refused
    omega
  settled := by
    have h₁ := h.settled
    have h₂ := h'.settled
    omega

theorem movesKinds_of_same (hAdmissions : state'.admissions = state.admissions)
    (hCounts : stats'.counts = stats.counts) : MovesKinds state stats state' stats' := by
  obtain ⟨-, -, -, hRefused, hSettled⟩ := counts_inj.mp hCounts
  exact ⟨by rw [hRefused, refusedCount, refusedCount, hAdmissions],
    by rw [hSettled, settledCount, settledCount, hAdmissions]⟩

theorem expired_kinds (now : Nat) (state : BucketState) : (state.purge now).settledCount +
        (state.expired now).countP (fun record => record.settlement.isSome) =
      state.settledCount ∧
    (state.purge now).refusedCount + ((state.expired now).length -
        (state.expired now).countP fun record => record.settlement.isSome) =
      state.refusedCount := by
  have hSettled : (state.purge now).settledCount +
      (state.expired now).countP (fun record => record.settlement.isSome) =
        state.settledCount := by
    rw [countP_eq_sum]
    exact total_retain_add _ (fun record => record.keptAt now) state.admissions
  have hBefore := state.kinds_add_up
  have hAfter := (state.purge now).kinds_add_up
  have hRecords := recordCount_purge now state
  have hOutstanding := outstandingCount_purge now state
  have hLe : (state.expired now).countP (fun record => record.settlement.isSome) ≤
      (state.expired now).length := List.countP_le_length
  exact ⟨hSettled, by omega⟩

theorem movesKinds_purge (now : Nat) (h : CoversKinds config stats state) :
    MovesKinds state stats (state.purge now) (purgeStats now state stats) := by
  obtain ⟨hSettled, hRefused⟩ := expired_kinds now state
  have hRefusedLe := h.refused
  have hSettledLe := h.settled
  unfold purgeStats
  dsimp only
  split
  · rename_i hNone
    rw [hNone, Nat.zero_sub, Nat.add_zero] at hRefused
    rw [List.length_eq_zero_iff.mp hNone, List.countP_nil, Nat.add_zero] at hSettled
    exact ⟨by omega, by omega⟩
  · constructor
    · dsimp only
      rw [fetchSub_of_le (by omega)]
      omega
    · dsimp only
      rw [fetchSub_of_le (by omega)]
      omega

theorem CoversKinds.moves (h : CoversKinds config stats state)
    (hMoves : Moves config state stats state' stats')
    (hKinds : MovesKinds state stats state' stats') : CoversKinds config stats' state' := by
  have hRefused := hKinds.refused
  have hSettled := hKinds.settled
  have hRecords := hMoves.records
  have hLive := hMoves.live
  have hBefore := state.kinds_add_up
  have hAfter := state'.kinds_add_up
  have hRefusedLe := h.refused
  have hSettledLe := h.settled
  have hSum := h.sum
  exact ⟨hMoves.covers h.covers, by omega, by omega, by omega, hMoves.recordsBound h.capacity,
    h.fits⟩

theorem fetchAdd_of_lt {a b : Nat} (h : a + b < WORD) : fetchAdd a b = a + b := if_pos h

theorem CoversKinds.capacity_lt (h : CoversKinds config stats state) :
    config.admissionCapacity < WORD :=
  (Nat.sub_le _ _).trans_lt h.fits

variable {requestId : String} {record : AdmissionRecord}

theorem movesKinds_insert (hFresh : state.admissions.lookup requestId = none)
    (hAdmissions : state'.admissions = state.admissions.insert requestId record)
    (hRefused : stats'.rejectedRecords = stats.rejectedRecords + if record.refused then 1 else 0)
    (hSettled : stats'.recoveryRecords = stats.recoveryRecords + if record.settled then 1 else 0) :
    MovesKinds state stats state' stats' where
  refused := by
    simp only [refusedCount, hAdmissions, total_insert hFresh, hRefused]
    omega
  settled := by
    simp only [settledCount, hAdmissions, total_insert hFresh, hSettled]
    omega

/-- An outstanding record gives way to a settled one. -/
theorem movesKinds_settle {settled : AdmissionRecord} (hCovers : CoversKinds config stats state)
    (hRecord : state.admissions.lookup requestId = some record) (hOpen : record.outstanding)
    (hSettled : settled.settled)
    (hAdmissions : state'.admissions = state.admissions.insert requestId settled)
    (hRefused : stats'.rejectedRecords = stats.rejectedRecords)
    (hRecovery : stats'.recoveryRecords = fetchAdd stats.recoveryRecords 1) :
    MovesKinds state stats state' stats' := by
  have hKinds := kinds_add_up record
  have hKinds' := kinds_add_up settled
  rw [hOpen, if_pos rfl] at hKinds
  rw [hSettled, if_pos rfl] at hKinds'
  have hRefusedCount : total (fun record => if record.refused then 1 else 0)
      (state.admissions.insert requestId settled) + (if record.refused then 1 else 0) =
        (if settled.refused then 1 else 0) + state.refusedCount := total_replace hRecord
  have hSettledCount : total (fun record => if record.settled then 1 else 0)
      (state.admissions.insert requestId settled) + (if record.settled then 1 else 0) =
        (if settled.settled then 1 else 0) + state.settledCount := total_replace hRecord
  rw [hSettled, if_pos rfl] at hSettledCount
  have hLive : 0 < state.outstandingCount := by
    have hWeight := weight_le_total
      (fun record : AdmissionRecord => if record.outstanding then 1 else 0) hRecord
    rw [hOpen, if_pos rfl] at hWeight
    exact hWeight
  have hCovered := hCovers.covers.live
  have hSum := hCovers.sum
  have hCapacity := hCovers.capacity
  have hWord := hCovers.capacity_lt
  constructor
  · rw [hRefused, refusedCount.eq_def state', hAdmissions]
    omega
  · rw [hRecovery, fetchAdd_of_lt (by omega), settledCount.eq_def state', hAdmissions]
    omega

theorem CellStep.movesKinds (h : CellStep config state stats state' stats')
    (hCovers : CoversKinds config stats state) : MovesKinds state stats state' stats' := by
  induction h with
  | same hAdmissions hCounts => exact movesKinds_of_same hAdmissions hCounts
  | purge now state stats => exact movesKinds_purge now hCovers
  | @insert state _ stats _ _ record hFresh hAdmissions hOpen hCounts hCapacity _ =>
    obtain ⟨-, -, -, hRefused, hSettled⟩ := counts_inj.mp hCounts
    have hSum := hCovers.sum
    have hWord := hCovers.capacity_lt
    refine movesKinds_insert hFresh hAdmissions (hRefused.trans ?_) (hSettled.trans (by simp [hOpen]))
    split
    · exact fetchAdd_of_lt (by omega)
    · rfl
  | settle hRecord hOpen hSettled hAdmissions hCounts =>
    obtain ⟨-, -, -, hRefused, hRecovery⟩ := counts_inj.mp hCounts
    exact movesKinds_settle hCovers hRecord hOpen hSettled hAdmissions hRefused hRecovery
  | trans first _ ih ih' =>
    have hFirst := ih hCovers
    exact hFirst.trans (ih' (hCovers.moves (first.moves hCovers.covers) hFirst))

end KindsOfOneBucket

namespace KindsExact

variable {store store' : MemoryRateLimitStore} {key : RateLimitKey} {cell : BucketCell}

section

variable (h : KindsExact store)
include h

theorem of_same (hBuckets : store'.buckets = store.buckets)
    (hConfig : store'.config = store.config) (hCounts : store'.stats.counts = store.stats.counts) :
    KindsExact store' := by
  obtain ⟨-, -, -, hRefused, hSettled⟩ := counts_inj.mp hCounts
  refine ⟨h.exact.of_same hBuckets hConfig hCounts, hConfig ▸ h.fits, ?_, ?_⟩
  · rw [hRefused, h.refused, MemoryRateLimitStore.refusedCount, MemoryRateLimitStore.refusedCount,
      hBuckets]
  · rw [hSettled, h.settled, MemoryRateLimitStore.settledCount, MemoryRateLimitStore.settledCount,
      hBuckets]

section

variable (hCell : store.buckets.lookup key = some cell)
include hCell

theorem covers :
    CoversKinds store.config store.stats cell.state where
  covers := h.exact.covers hCell
  refused := by
    rw [h.refused]
    exact weight_le_total (fun cell : BucketCell => cell.state.refusedCount) hCell
  settled := by
    rw [h.settled]
    exact weight_le_total (fun cell : BucketCell => cell.state.settledCount) hCell
  sum := by
    rw [h.refused, h.settled, h.exact.counted.live, h.exact.counted.records]
    exact store.kinds_add_up
  capacity := h.exact.bounded.records
  fits := h.fits

theorem replace {cell' : BucketCell}
    (hStep : CellStep store.config cell.state store.stats cell'.state store'.stats)
    (hBuckets : store'.buckets = store.buckets.insert key cell')
    (hConfig : store'.config = store.config) : KindsExact store' where
  exact := h.exact.replace hCell hStep hBuckets hConfig
  fits := hConfig ▸ h.fits
  refused := by
    have hCount : store'.refusedCount + cell.state.refusedCount =
        cell'.state.refusedCount + store.refusedCount := by
      rw [MemoryRateLimitStore.refusedCount, hBuckets]
      exact total_replace hCell
    have hMove := (hStep.movesKinds (h.covers hCell)).refused
    rw [h.refused] at hMove
    omega
  settled := by
    have hCount : store'.settledCount + cell.state.settledCount =
        cell'.state.settledCount + store.settledCount := by
      rw [MemoryRateLimitStore.settledCount, hBuckets]
      exact total_replace hCell
    have hMove := (hStep.movesKinds (h.covers hCell)).settled
    rw [h.settled] at hMove
    omega

theorem erase (hEmpty : cell.state.isEmpty) (hBuckets : store'.buckets = store.buckets.erase key)
    (hConfig : store'.config = store.config) (hCounts : store'.stats.counts =
      (fetchSub store.stats.buckets 1, store.stats.counts.2)) : KindsExact store' := by
  obtain ⟨-, -, -, hRefused, hSettled⟩ := counts_inj.mp hCounts
  have hNone : cell.state.admissions = ∅ := eq_empty_of_entries (isEmpty_iff.mp hEmpty).2
  have hZero : cell.state.refusedCount = 0 ∧ cell.state.settledCount = 0 := by
    rw [refusedCount, settledCount, hNone]
    exact ⟨rfl, rfl⟩
  have hRefusedCount : store'.refusedCount + cell.state.refusedCount = store.refusedCount := by
    rw [MemoryRateLimitStore.refusedCount, hBuckets]
    exact total_erase hCell
  have hSettledCount : store'.settledCount + cell.state.settledCount = store.settledCount := by
    rw [MemoryRateLimitStore.settledCount, hBuckets]
    exact total_erase hCell
  refine ⟨h.exact.erase hCell hEmpty hBuckets hConfig hCounts, hConfig ▸ h.fits, ?_, ?_⟩
  · rw [hRefused, h.refused]
    omega
  · rw [hSettled, h.settled]
    omega

end

theorem create {next : Nat} (hAbsent : store.buckets.lookup key = none)
    (hEmpty : cell.state.admissions = ∅) (hLimit : store.stats.buckets < store.config.maxBuckets) :
    KindsExact { store with
      buckets := store.buckets.insert key cell
      stats := { store.stats with buckets := store.stats.buckets + 1 }
      nextCell := next } := by
  refine ⟨h.exact.create hAbsent hEmpty hLimit, h.fits, ?_, ?_⟩
  · simp only [MemoryRateLimitStore.refusedCount, total_insert hAbsent]
    rw [h.refused, refusedCount, hEmpty]
    exact (Nat.zero_add _).symm
  · simp only [MemoryRateLimitStore.settledCount, total_insert hAbsent]
    rw [h.settled, settledCount, hEmpty]
    exact (Nat.zero_add _).symm

end

theorem keptByCells : KeptByCells KindsExact where
  same h := h.of_same
  replace h hCell := h.replace hCell
  erase h := h.erase
  create h := h.create

theorem new {config : MemoryRateLimitConfig} {instanceId : Uuid} {now : RateLimitNow}
    (hNew : MemoryRateLimitStore.new config instanceId now = .ok store)
    (hFits : config.maxIdempotencyRecords < WORD) : KindsExact store := by
  have hExact := StatsExact.new hNew
  obtain ⟨_, rfl⟩ := new_eq_ok hNew
  exact ⟨hExact, hFits, rfl, rfl⟩

end KindsExact

end KongRust.RateLimit

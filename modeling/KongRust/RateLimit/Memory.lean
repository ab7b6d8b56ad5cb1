import KongRust.Foundation.Table
import KongRust.RateLimit.Types

/-!
# The memory store

`MemoryRateLimitStore`, one call at a time: every call runs to its end before the next one
starts. So no lease is held between calls, `active_ops` is zero wherever the source reads
it, and a `Weak` reference of a cleanup ticket can be upgraded exactly while its cell is the
one in the map. Mutexes are never poisoned. The identifiers that `Uuid::new_v4` draws are
arguments of the calls.
-/

namespace KongRust.RateLimit

open KongRust.Machine

/-! ## Configuration -/

structure MemoryRateLimitConfig where
  maxBuckets : Nat
  maxIdempotencyRecords : Nat
  maxRecordsPerBucket : Nat
  maxLiveReservations : Nat
  recoveryRecordHeadroom : Nat
  maxRequestLifetime : Nat
  settlementRetryGrace : Nat
  cleanupInterval : Nat
  cleanupScanBatch : Nat
  deriving DecidableEq

def SECOND : Nat := 10 ^ 9

def MemoryRateLimitConfig.default : MemoryRateLimitConfig where
  maxBuckets := 100000
  maxIdempotencyRecords := 2000000
  maxRecordsPerBucket := 100000
  maxLiveReservations := 200000
  recoveryRecordHeadroom := 50000
  maxRequestLifetime := 15 * 60 * SECOND
  settlementRetryGrace := 5 * 60 * SECOND
  cleanupInterval := 30 * SECOND
  cleanupScanBatch := 4096

structure MemoryRateLimitConfigError where
  field : String
  message : String
  deriving DecidableEq

variable (config : MemoryRateLimitConfig)

/-- The fields that must be positive, in the order of the check. -/
def MemoryRateLimitConfig.positiveFields (config : MemoryRateLimitConfig) :
    List (String × Nat) :=
  [("max_buckets", config.maxBuckets),
    ("max_idempotency_records", config.maxIdempotencyRecords),
    ("max_records_per_bucket", config.maxRecordsPerBucket),
    ("max_live_reservations", config.maxLiveReservations),
    ("cleanup_scan_batch", config.cleanupScanBatch)]

def MemoryRateLimitConfig.validate (config : MemoryRateLimitConfig) :
    Except MemoryRateLimitConfigError Unit :=
  match config.positiveFields.find? fun entry => entry.2 = 0 with
  | some entry => .error ⟨entry.1, "必须大于 0"⟩
  | none =>
    if config.maxIdempotencyRecords ≤ config.recoveryRecordHeadroom then
      .error ⟨"recovery_record_headroom", "必须小于 max_idempotency_records"⟩
    else if config.cleanupInterval = 0 then .error ⟨"cleanup_interval", "必须大于 0"⟩
    else match checkedAdd DURATION config.maxRequestLifetime config.settlementRetryGrace with
      | none => .error ⟨"max_request_lifetime", "与 settlement_retry_grace 相加后溢出"⟩
      | some _ => .ok ()

/-! ## State -/

structure WindowState where
  identity : WindowIdentity
  spec : WindowSpec
  startedWall : Int
  resetMono : Nat
  resetWall : Int
  requestsUsed : Nat
  tokensUsed : Nat
  deriving DecidableEq

structure AdmitFingerprint where
  window : WindowSpec
  limits : QuotaLimits
  reserve : QuotaCharge
  deriving DecidableEq

structure SettlementRecord where
  operationId : String
  finalCharge : QuotaCharge
  result : SettlementResult
  deriving DecidableEq

structure AdmissionRecord where
  fingerprint : AdmitFingerprint
  decision : AdmissionDecision
  settlement : Option SettlementRecord
  retainUntil : Nat
  deriving DecidableEq

abbrev Admissions := AList fun _ : String => AdmissionRecord

structure BucketState where
  activeWindow : Option WindowState
  generation : Nat
  admissions : Admissions
  lastTouchedMono : Nat

def BucketState.empty : BucketState where
  activeWindow := none
  generation := 0
  admissions := ∅
  lastTouchedMono := 0

/-- A bucket; `id` stands for the address of its cell. -/
structure BucketCell where
  id : Nat
  cleanupQueued : Bool
  state : BucketState

structure CleanupTicket where
  key : RateLimitKey
  cell : Nat
  deriving DecidableEq

structure RateLimitStoreStats where
  buckets : Nat
  idempotencyRecords : Nat
  liveReservations : Nat
  rejectedRecords : Nat
  recoveryRecords : Nat
  admissionsAllowed : Nat
  admissionsRejected : Nat
  admissionReplays : Nat
  settlementsApplied : Nat
  settlementsStale : Nat
  settlementReplays : Nat
  overloads : Nat
  cleanupRuns : Nat
  cleanupRecordsRemoved : Nat
  cleanupBucketsRemoved : Nat
  deriving DecidableEq

def RateLimitStoreStats.zero : RateLimitStoreStats :=
  ⟨0, 0, 0, 0, 0, 0, 0, 0, 0, 0, 0, 0, 0, 0, 0⟩

structure MemoryRateLimitStore where
  instanceId : Uuid
  buckets : AList fun _ : RateLimitKey => BucketCell
  config : MemoryRateLimitConfig
  stats : RateLimitStoreStats
  nextCleanupAt : Nat
  cleanupQueue : List CleanupTicket
  /-- The address of the next cell. -/
  nextCell : Nat

/-- `MemoryRateLimitStore::new`. -/
def MemoryRateLimitStore.new (config : MemoryRateLimitConfig) (instanceId : Uuid)
    (now : RateLimitNow) : Except MemoryRateLimitConfigError MemoryRateLimitStore := do
  config.validate
  match checkedAdd DURATION now.mono config.cleanupInterval with
  | none => .error ⟨"cleanup_interval", "与当前单调时间相加后溢出"⟩
  | some nextCleanupAt =>
    return {
      instanceId := instanceId
      buckets := ∅
      config := config
      stats := .zero
      nextCleanupAt := nextCleanupAt
      cleanupQueue := []
      nextCell := 0 }

/-! ## Validation -/

def validateKey (key : RateLimitKey) : Except RateLimitStoreError Unit :=
  if key.schemaVersion ≠ RATE_LIMIT_SCHEMA_VERSION then
    .error (.corrupt "unsupported rate limit key schema version")
  else if key.deploymentNamespace = "" then
    .error (.corrupt "deployment namespace must not be empty")
  else .ok ()

def validateWindow (window : WindowSpec) : Except RateLimitStoreError Unit :=
  if window.duration = 0 then .error (.corrupt "rate limit window duration must be positive")
  else .ok ()

def validateAdmit (command : AdmitCommand) : Except RateLimitStoreError Unit := do
  validateKey command.key
  validateWindow command.window
  if command.requestId = "" then .error (.corrupt "rate limit request id must not be empty")

def validateEnvelope (instanceId : Uuid) (envelope : ReservationEnvelope) :
    Except RateLimitStoreError Unit :=
  if envelope.schemaVersion ≠ RATE_LIMIT_SCHEMA_VERSION then
    .error (.corrupt "unsupported reservation schema version")
  else if envelope.backendInstanceId ≠ instanceId then
    .error (.corrupt "reservation belongs to a different backend instance")
  else validateKey envelope.key

/-! ## Expiry -/

/-- A record is dropped once its deadline has passed, unless it is an admission that is
still to be settled. -/
def AdmissionRecord.keptAt (record : AdmissionRecord) (now : Nat) : Bool :=
  !(record.settlement.isSome || record.decision.isRejected) || now < record.retainUntil

def WindowState.liveAt (window : WindowState) (now : Nat) : Bool := now < window.resetMono

/-- The bucket after `purge_expired`. -/
def BucketState.purge (now : Nat) (state : BucketState) : BucketState :=
  { state with
    activeWindow := state.activeWindow.filter fun window => window.liveAt now
    admissions := Table.retain (fun record => record.keptAt now) state.admissions }

/-- The records that `purge_expired` drops. -/
def BucketState.expired (now : Nat) (state : BucketState) : List AdmissionRecord :=
  (state.admissions.entries.map Sigma.snd).filter fun record => !record.keptAt now

/-- The statistics after `purge_expired`. -/
def purgeStats (now : Nat) (state : BucketState) (stats : RateLimitStoreStats) :
    RateLimitStoreStats :=
  let removed := state.expired now
  let removedRecovery := removed.countP fun record => record.settlement.isSome
  let removedRejected := removed.length - removedRecovery
  if removed.length = 0 then stats
  else { stats with
    idempotencyRecords := fetchSub stats.idempotencyRecords removed.length
    rejectedRecords := fetchSub stats.rejectedRecords removedRejected
    recoveryRecords := fetchSub stats.recoveryRecords removedRecovery }

variable (state : BucketState)

def BucketState.isEmpty (state : BucketState) : Bool :=
  state.activeWindow.isNone && state.admissions.entries.isEmpty

/-! ## Cleanup -/

structure MemoryCleanupReport where
  scannedBuckets : Nat
  removedRecords : Nat
  removedBuckets : Nat
  deriving DecidableEq

/-- The accumulators of the loop of `cleanup_at`. -/
structure CleanupPass where
  store : MemoryRateLimitStore
  report : MemoryCleanupReport
  requeue : List CleanupTicket

variable (store : MemoryRateLimitStore)

def MemoryRateLimitStore.setState (store : MemoryRateLimitStore) (key : RateLimitKey)
    (cell : BucketCell) (state : BucketState) (stats : RateLimitStoreStats) :
    MemoryRateLimitStore :=
  { store with buckets := store.buckets.insert key { cell with state := state }, stats := stats }

/-- One ticket: purge the bucket and remove it if nothing is left. A ticket of a cell that
is gone is dropped. -/
def cleanupTicket (now : RateLimitNow) (pass : CleanupPass) (ticket : CleanupTicket) :
    CleanupPass :=
  match pass.store.buckets.lookup ticket.key with
  | none => pass
  | some cell =>
    if cell.id ≠ ticket.cell then pass
    else
      let purged := cell.state.purge now.mono
      let removed := (cell.state.expired now.mono).length
      let stats := purgeStats now.mono cell.state pass.store.stats
      if purged.isEmpty then
        { pass with
          store := { pass.store with
            buckets := pass.store.buckets.erase ticket.key
            stats := { stats with buckets := fetchSub stats.buckets 1 } }
          report := { pass.report with
            removedRecords := pass.report.removedRecords + removed
            removedBuckets := pass.report.removedBuckets + 1 } }
      else
        { store := pass.store.setState ticket.key cell purged stats
          report := { pass.report with removedRecords := pass.report.removedRecords + removed }
          requeue := pass.requeue ++ [ticket] }

/-- The first part of `cleanup_at`: take a batch of tickets off the queue. -/
def startPass (store : MemoryRateLimitStore) : List CleanupTicket × CleanupPass :=
  let tickets := store.cleanupQueue.take store.config.cleanupScanBatch
  (tickets,
    { store := { store with
        cleanupQueue := store.cleanupQueue.drop store.config.cleanupScanBatch
        stats := { store.stats with cleanupRuns := fetchAdd store.stats.cleanupRuns 1 } }
      report := ⟨tickets.length, 0, 0⟩
      requeue := [] })

/-- The last part of `cleanup_at`: put the tickets that are still needed back. -/
def finishPass (pass : CleanupPass) : MemoryRateLimitStore :=
  { pass.store with
    cleanupQueue := pass.store.cleanupQueue ++ pass.requeue
    stats := { pass.store.stats with
      cleanupRecordsRemoved :=
        fetchAdd pass.store.stats.cleanupRecordsRemoved pass.report.removedRecords
      cleanupBucketsRemoved :=
        fetchAdd pass.store.stats.cleanupBucketsRemoved pass.report.removedBuckets } }

/-- `cleanup_at`. -/
def cleanupAt (now : RateLimitNow) (store : MemoryRateLimitStore) :
    MemoryCleanupReport × MemoryRateLimitStore :=
  let pass := (startPass store).1.foldl (cleanupTicket now) (startPass store).2
  (pass.report, finishPass pass)

/-- `maybe_cleanup`. -/
def maybeCleanup (now : RateLimitNow) (store : MemoryRateLimitStore) : MemoryRateLimitStore :=
  if now.mono < store.nextCleanupAt then store
  else
    let next := (checkedAdd DURATION now.mono store.config.cleanupInterval).getD now.mono
    (cleanupAt now { store with nextCleanupAt := next }).2

/-! ## Buckets -/

/-- `try_reserve`: the counter after a successful reservation. -/
def tryReserve (counter limit : Nat) : Option Nat :=
  if limit ≤ counter then none else some (counter + 1)

/-- `acquire_bucket` with `create`: the cell of the key, in the store that holds it. Without
`create` it is a plain lookup. -/
def createBucket (store : MemoryRateLimitStore) (key : RateLimitKey) :
    Except RateLimitStoreError (BucketCell × MemoryRateLimitStore) :=
  match store.buckets.lookup key with
  | some cell => .ok (cell, store)
  | none =>
    match tryReserve store.stats.buckets store.config.maxBuckets with
    | none => .error (.overloaded "memory rate limit bucket capacity exhausted")
    | some buckets =>
      let cell : BucketCell := ⟨store.nextCell, false, .empty⟩
      .ok (cell, { store with
        buckets := store.buckets.insert key cell
        stats := { store.stats with buckets := buckets }
        nextCell := store.nextCell + 1 })

/-- `schedule_cleanup`: queue a ticket unless the cell has one. -/
def scheduleCleanup (store : MemoryRateLimitStore) (key : RateLimitKey) (cell : BucketCell) :
    BucketCell × MemoryRateLimitStore :=
  if cell.cleanupQueued then (cell, store)
  else
    let queued := { cell with cleanupQueued := true }
    (queued, { store with
      buckets := store.buckets.insert key queued
      cleanupQueue := store.cleanupQueue ++ [⟨key, cell.id⟩] })

/-- `remove_empty_bucket`. -/
def removeEmptyBucket (store : MemoryRateLimitStore) (key : RateLimitKey) :
    MemoryRateLimitStore :=
  match store.buckets.lookup key with
  | none => store
  | some cell =>
    if cell.state.isEmpty then
      { store with
        buckets := store.buckets.erase key
        stats := { store.stats with buckets := fetchSub store.stats.buckets 1 } }
    else store

/-! ## Windows and snapshots -/

/-- `SystemTime::checked_add`: seconds are a signed 64-bit number. -/
def checkedAddWall (wall : Int) (duration : Nat) : Option Int :=
  if wall + duration < 2 ^ 63 * 10 ^ 9 then some (wall + duration) else none

/-- `ensure_window`: the active window, or a new one of the next generation. -/
def ensureWindow (state : BucketState) (spec : WindowSpec) (now : RateLimitNow)
    (windowId : Uuid) : Except RateLimitStoreError (WindowState × BucketState) :=
  match state.activeWindow with
  | some window => .ok (window, state)
  | none =>
    match checkedAdd WORD state.generation 1 with
    | none => .error (.corrupt "window generation overflow")
    | some generation =>
      match checkedAdd DURATION now.mono spec.duration with
      | none => .error (.corrupt "window monotonic time overflow")
      | some resetMono =>
        match checkedAddWall now.wall spec.duration with
        | none => .error (.corrupt "window wall time overflow")
        | some resetWall =>
          let window : WindowState :=
            { identity := ⟨windowId, generation⟩
              spec := spec
              startedWall := now.wall
              resetMono := resetMono
              resetWall := resetWall
              requestsUsed := 0
              tokensUsed := 0 }
          .ok (window, { state with generation := generation, activeWindow := some window })

/-- `rollback_new_window`. -/
def rollbackNewWindow (state : BucketState) (createdWindow : Bool) : BucketState :=
  if createdWindow then
    { state with activeWindow := none, generation := state.generation - 1 }
  else state

def retentionDuration (window : WindowSpec) (config : MemoryRateLimitConfig) :
    Except RateLimitStoreError Nat :=
  match (checkedAdd DURATION window.duration config.maxRequestLifetime).bind
      fun duration => checkedAdd DURATION duration config.settlementRetryGrace with
  | none => .error (.corrupt "idempotency retention duration overflow")
  | some retention => .ok retention

def adjustedCount (current reserved finalCharge : Nat) (enabled : Bool) (error : String) :
    Except RateLimitStoreError Nat :=
  if !enabled then .ok current
  else match (checkedSub current reserved).bind fun count => checkedAdd WORD count finalCharge with
    | none => .error (.corrupt error)
    | some count => .ok count

def dimensionSnapshot (limit : Option ℕ+) (used : Nat) : Option DimensionSnapshot :=
  limit.map fun limit => ⟨limit, used, limit - used⟩

def snapshot (window : WindowState) (limits : QuotaLimits) (now : RateLimitNow) :
    RateLimitSnapshot where
  window :=
    { identity := some window.identity
      algorithm := window.spec.algorithm
      duration := window.spec.duration
      startedAt := window.startedWall
      resetAt := window.resetWall
      resetAfter := window.resetMono - now.mono }
  requests := dimensionSnapshot limits.requests window.requestsUsed
  tokens := dimensionSnapshot limits.tokens window.tokensUsed

def prospectiveSnapshot (window : WindowSpec) (limits : QuotaLimits) (now : RateLimitNow) :
    Except RateLimitStoreError RateLimitSnapshot :=
  match checkedAddWall now.wall window.duration with
  | none => .error (.corrupt "window wall time overflow")
  | some resetAt => .ok
    { window :=
        { identity := none
          algorithm := window.algorithm
          duration := window.duration
          startedAt := now.wall
          resetAt := resetAt
          resetAfter := window.duration }
      requests := dimensionSnapshot limits.requests 0
      tokens := dimensionSnapshot limits.tokens 0 }

/-! ## Admission -/

/-- The identifiers that one attempt of an admission draws. -/
structure DrawnIds where
  window : Uuid
  reservation : Uuid
  deriving DecidableEq

inductive AdmitAttempt where
  | decision (decision : AdmissionDecision)
  | capacity
  deriving DecidableEq

def AdmitCommand.fingerprint (command : AdmitCommand) : AdmitFingerprint :=
  ⟨command.window, command.limits, command.reserve⟩

/-- The counter of a dimension after a reservation; an unlimited dimension does not count. -/
def candidate (limit : Option ℕ+) (used reserve : Nat) : Option Nat :=
  match limit with
  | some _ => checkedAdd WORD used reserve
  | none => some used

def exceeds (limit : Option ℕ+) (candidate : Nat) : Bool := limit.any fun limit => limit < candidate

def exceededDimension (requests tokens : Bool) : Option ExceededDimension :=
  match requests, tokens with
  | true, true => some .requestsAndTokens
  | true, false => some .requests
  | false, true => some .tokens
  | false, false => none

/-- A bucket operation: the answer, and the bucket and statistics after it. -/
abbrev Locked (α : Type) := Except RateLimitStoreError α × BucketState × RateLimitStoreStats

def releaseRecord (stats : RateLimitStoreStats) : RateLimitStoreStats :=
  { stats with idempotencyRecords := fetchSub stats.idempotencyRecords 1 }

/-- The new token of an allowed request. -/
def tokenOf (instanceId : Uuid) (command : AdmitCommand) (window : WindowState)
    (ids : DrawnIds) : ReservationEnvelope where
  schemaVersion := RATE_LIMIT_SCHEMA_VERSION
  backendInstanceId := instanceId
  reservationId := ids.reservation
  requestId := command.requestId
  key := command.key
  window := window.identity
  limitsAtAdmission := command.limits
  reserved := command.reserve

def recordOf (command : AdmitCommand) (decision : AdmissionDecision) (retainUntil : Nat) :
    AdmissionRecord :=
  ⟨command.fingerprint, decision, none, retainUntil⟩

/-- The rest of `admit_once` once an idempotency record is reserved. -/
def admitReserved (config : MemoryRateLimitConfig) (instanceId : Uuid) (command : AdmitCommand)
    (now : RateLimitNow) (ids : DrawnIds) (retainUntil : Nat) (state : BucketState)
    (stats : RateLimitStoreStats) : Locked AdmitAttempt :=
  let createdWindow := state.activeWindow.isNone
  match ensureWindow state command.window now ids.window with
  | .error e => (.error e, state, releaseRecord stats)
  | .ok (window, opened) =>
    match candidate command.limits.requests window.requestsUsed command.reserve.requests with
    | none =>
      (.error (.corrupt "request quota counter overflow"),
        rollbackNewWindow opened createdWindow, releaseRecord stats)
    | some requests =>
      match candidate command.limits.tokens window.tokensUsed command.reserve.tokens with
      | none =>
        (.error (.corrupt "token quota counter overflow"),
          rollbackNewWindow opened createdWindow, releaseRecord stats)
      | some tokens =>
        match exceededDimension (exceeds command.limits.requests requests)
            (exceeds command.limits.tokens tokens) with
        | some reason =>
          let decision := .rejected reason (snapshot window command.limits now) false
          (.ok (.decision decision),
            { opened with admissions :=
              opened.admissions.insert command.requestId (recordOf command decision retainUntil) },
            { stats with
              rejectedRecords := fetchAdd stats.rejectedRecords 1
              admissionsRejected := fetchAdd stats.admissionsRejected 1 })
        | none =>
          match tryReserve stats.liveReservations config.maxLiveReservations with
          | none =>
            (.ok .capacity, rollbackNewWindow opened createdWindow, releaseRecord stats)
          | some live =>
            let window := { window with requestsUsed := requests, tokensUsed := tokens }
            let decision := .allowed (tokenOf instanceId command window ids)
              (snapshot window command.limits now) false
            (.ok (.decision decision),
              { opened with
                activeWindow := some window
                admissions := opened.admissions.insert command.requestId
                  (recordOf command decision retainUntil) },
              { stats with
                liveReservations := live
                admissionsAllowed := fetchAdd stats.admissionsAllowed 1 })

/-- The part of `admit_once` under the bucket lock, after the purge. -/
def admitLocked (config : MemoryRateLimitConfig) (instanceId : Uuid) (command : AdmitCommand)
    (now : RateLimitNow) (ids : DrawnIds) (state : BucketState) (stats : RateLimitStoreStats) :
    Locked AdmitAttempt :=
  match state.admissions.lookup command.requestId with
  | some record =>
    if record.fingerprint ≠ command.fingerprint then
      (.error (.corrupt "admit idempotency payload conflict"), state, stats)
    else
      (.ok (.decision record.decision.asReplayed), state,
        { stats with admissionReplays := fetchAdd stats.admissionReplays 1 })
  | none =>
    let effectiveWindow := (state.activeWindow.map WindowState.spec).getD command.window
    match retentionDuration effectiveWindow config with
    | .error e => (.error e, state, stats)
    | .ok retention =>
      match checkedAdd DURATION now.mono retention with
      | none => (.error (.corrupt "idempotency retention overflow"), state, stats)
      | some retainUntil =>
        if config.maxRecordsPerBucket ≤ state.admissions.entries.length then
          (.ok .capacity, state, stats)
        else match tryReserve stats.idempotencyRecords
            (config.maxIdempotencyRecords - config.recoveryRecordHeadroom) with
          | none => (.ok .capacity, state, stats)
          | some records => admitReserved config instanceId command now ids retainUntil state
              { stats with idempotencyRecords := records }

/-- Take the lock of a bucket: touch and purge it, run the operation, store the results. -/
def withBucket {α : Type} (store : MemoryRateLimitStore) (key : RateLimitKey) (cell : BucketCell)
    (now : RateLimitNow) (operation : BucketState → RateLimitStoreStats → Locked α) :
    Except RateLimitStoreError α × MemoryRateLimitStore :=
  let touched := { cell.state with lastTouchedMono := now.mono }
  let result := operation (touched.purge now.mono) (purgeStats now.mono touched store.stats)
  (result.1, store.setState key cell result.2.1 result.2.2)

/-- `admit_once`. -/
def admitOnce (store : MemoryRateLimitStore) (command : AdmitCommand) (now : RateLimitNow)
    (ids : DrawnIds) : Except RateLimitStoreError AdmitAttempt × MemoryRateLimitStore :=
  match createBucket store command.key with
  | .error e => (.error e, store)
  | .ok (cell, store) =>
    let (cell, store) := scheduleCleanup store command.key cell
    withBucket store command.key cell now
      (admitLocked store.config store.instanceId command now ids)

def countOverload (store : MemoryRateLimitStore) : MemoryRateLimitStore :=
  { store with stats := { store.stats with overloads := fetchAdd store.stats.overloads 1 } }

/-- The second attempt of `RateLimitStore::admit`. -/
def admitRetry (store : MemoryRateLimitStore) (command : AdmitCommand) (now : RateLimitNow)
    (ids : DrawnIds) : Except RateLimitStoreError AdmissionDecision × MemoryRateLimitStore :=
  match admitOnce store command now ids with
  | (.ok (.decision decision), store) => (.ok decision, store)
  | (.ok .capacity, store) =>
    (.error (.overloaded "memory rate limit admission capacity exhausted"),
      removeEmptyBucket (countOverload store) command.key)
  | (.error e, store) => (.error e, if e.kind = .overloaded then countOverload store else store)

/-- `RateLimitStore::admit`: two attempts, with a cleanup between them when capacity is short. -/
def storeAdmit (store : MemoryRateLimitStore) (command : AdmitCommand) (now : RateLimitNow)
    (ids retryIds : DrawnIds) :
    Except RateLimitStoreError AdmissionDecision × MemoryRateLimitStore :=
  match validateAdmit command with
  | .error e => (.error e, store)
  | .ok () =>
    match admitOnce (maybeCleanup now store) command now ids with
    | (.ok (.decision decision), store) => (.ok decision, store)
    | (.ok .capacity, store) => admitRetry (cleanupAt now store).2 command now retryIds
    | (.error e, store) =>
      if e.kind = .overloaded then admitRetry (cleanupAt now store).2 command now retryIds
      else (.error e, store)

/-! ## Settlement -/

/-- The counters after the settlement of a reservation in its own window. -/
def settledWindow (window : WindowState) (command : SettleCommand) :
    Except RateLimitStoreError WindowState := do
  let envelope := command.reservation
  let requests ← adjustedCount window.requestsUsed envelope.reserved.requests
    command.finalCharge.requests envelope.limitsAtAdmission.requests.isSome
    "request quota settlement arithmetic invalid"
  let tokens ← adjustedCount window.tokensUsed envelope.reserved.tokens
    command.finalCharge.tokens envelope.limitsAtAdmission.tokens.isSome
    "token quota settlement arithmetic invalid"
  return { window with requestsUsed := requests, tokensUsed := tokens }

/-- The window that a settlement adjusts: the active one, if it is that of the token. -/
def sameWindow (state : BucketState) (envelope : ReservationEnvelope) (now : RateLimitNow) :
    Option WindowState :=
  state.activeWindow.filter fun window =>
    window.identity = envelope.window && now.mono < window.resetMono

/-- The last part of `settle_inner`: extend the deadline and store the settlement. The
counters have been adjusted already. -/
def recordSettlement (config : MemoryRateLimitConfig) (command : SettleCommand)
    (now : RateLimitNow) (record : AdmissionRecord) (result : SettlementResult)
    (state : BucketState) (stats : RateLimitStoreStats) : Locked SettlementResult :=
  match checkedAdd DURATION now.mono config.settlementRetryGrace with
  | none => (.error (.corrupt "settlement retention overflow"), state, stats)
  | some retryUntil =>
    let settled : AdmissionRecord :=
      { record with
        retainUntil := max record.retainUntil retryUntil
        settlement := some ⟨command.operationId, command.finalCharge, result⟩ }
    let stats :=
      { stats with
        liveReservations := fetchSub stats.liveReservations 1
        recoveryRecords := fetchAdd stats.recoveryRecords 1 }
    (.ok result,
      { state with
        admissions := state.admissions.insert command.reservation.requestId settled },
      match result.disposition with
      | .applied => { stats with settlementsApplied := fetchAdd stats.settlementsApplied 1 }
      | .staleWindowNoop => { stats with settlementsStale := fetchAdd stats.settlementsStale 1 }
      | .replayed => stats)

/-- The settlement of a record that has none yet. -/
def settleRecord (config : MemoryRateLimitConfig) (command : SettleCommand)
    (now : RateLimitNow) (record : AdmissionRecord) (state : BucketState)
    (stats : RateLimitStoreStats) : Locked SettlementResult :=
  match sameWindow state command.reservation now with
  | some window =>
    match settledWindow window command with
    | .error e => (.error e, state, stats)
    | .ok adjusted =>
      recordSettlement config command now record
        ⟨.applied, some (snapshot adjusted command.reservation.limitsAtAdmission now)⟩
        { state with activeWindow := some adjusted } stats
  | none =>
    recordSettlement config command now record ⟨.staleWindowNoop, none⟩ state stats

/-- The stored record of a token, if the token is the one that was handed out. -/
def admittedRecord (state : BucketState) (envelope : ReservationEnvelope) :
    Except RateLimitStoreError (Option AdmissionRecord) :=
  match state.admissions.lookup envelope.requestId with
  | none => .ok none
  | some record =>
    match record.decision with
    | .rejected .. => .error (.corrupt "rejected admission has no reservation")
    | .allowed token .. =>
      if token ≠ envelope then .error (.corrupt "reservation token does not match admission")
      else .ok (some record)

/-- The part of `settle_inner` under the bucket lock, after the purge. -/
def settleLocked (config : MemoryRateLimitConfig) (command : SettleCommand) (now : RateLimitNow)
    (state : BucketState) (stats : RateLimitStoreStats) : Locked SettlementResult :=
  match admittedRecord state command.reservation with
  | .error e => (.error e, state, stats)
  | .ok none => (.error (.corrupt "reservation admission not found"), state, stats)
  | .ok (some record) =>
    match record.settlement with
    | some settlement =>
      if settlement.operationId ≠ command.operationId ∨
          settlement.finalCharge ≠ command.finalCharge then
        (.error (.corrupt "settlement idempotency payload conflict"), state, stats)
      else
        (.ok ⟨.replayed, settlement.result.snapshot⟩, state,
          { stats with settlementReplays := fetchAdd stats.settlementReplays 1 })
    | none => settleRecord config command now record state stats

/-- `settle_inner`. -/
def settleInner (store : MemoryRateLimitStore) (command : SettleCommand) (now : RateLimitNow) :
    Except RateLimitStoreError SettlementResult × MemoryRateLimitStore :=
  if command.operationId = "" then
    (.error (.corrupt "settlement operation id must not be empty"), store)
  else
    match validateEnvelope store.instanceId command.reservation with
    | .error e => (.error e, store)
    | .ok () =>
      match store.buckets.lookup command.reservation.key with
      | none => (.error (.corrupt "reservation bucket no longer exists"), store)
      | some cell =>
        withBucket store command.reservation.key cell now (settleLocked store.config command now)

/-- `RateLimitStore::settle`. -/
def storeSettle (store : MemoryRateLimitStore) (command : SettleCommand) (now : RateLimitNow) :
    Except RateLimitStoreError SettlementResult × MemoryRateLimitStore :=
  settleInner (maybeCleanup now store) command now

/-! ## Inspection -/

def inspectCurrent (window : WindowSpec) (limits : QuotaLimits) (now : RateLimitNow)
    (state : BucketState) : Except RateLimitStoreError InspectResult :=
  match state.activeWindow with
  | some active => .ok (.current (snapshot active limits now))
  | none => (prospectiveSnapshot window limits now).map .current

def inspectAdmission (requestId : String) (state : BucketState) :
    Except RateLimitStoreError InspectResult :=
  match state.admissions.lookup requestId with
  | some record => .ok (.admission record.decision.asReplayed)
  | none => .ok .notFound

def inspectSettlement (reservation : ReservationEnvelope) (operationId : String)
    (state : BucketState) : Except RateLimitStoreError InspectResult := do
  match ← admittedRecord state reservation with
  | none => return .notFound
  | some record =>
    match record.settlement with
    | some settlement =>
      if settlement.operationId = operationId then return .settlement settlement.result
      else return .notFound
    | none => return .notFound

/-- The checks, the key, the answer without a bucket, and the answer from a bucket. -/
def inspectPlan (store : MemoryRateLimitStore) (query : InspectQuery) (now : RateLimitNow) :
    Except RateLimitStoreError Unit × RateLimitKey × Except RateLimitStoreError InspectResult ×
      (BucketState → Except RateLimitStoreError InspectResult) :=
  match query with
  | .current key window limits =>
    (do validateKey key; validateWindow window, key,
      (prospectiveSnapshot window limits now).map .current, inspectCurrent window limits now)
  | .admission key requestId =>
    (do
      validateKey key
      if requestId = "" then .error (.corrupt "rate limit request id must not be empty"),
      key, .ok .notFound, inspectAdmission requestId)
  | .settlement reservation operationId =>
    (if operationId = "" then .error (.corrupt "settlement operation id must not be empty")
      else validateEnvelope store.instanceId reservation,
      reservation.key, .ok .notFound, inspectSettlement reservation operationId)

/-- `inspect_inner`: it touches and purges the bucket it reads. -/
def inspectInner (store : MemoryRateLimitStore) (query : InspectQuery) (now : RateLimitNow) :
    Except RateLimitStoreError InspectResult × MemoryRateLimitStore :=
  let (checks, key, absent, answer) := inspectPlan store query now
  match checks with
  | .error e => (.error e, store)
  | .ok () =>
    match store.buckets.lookup key with
    | none => (absent, store)
    | some cell => withBucket store key cell now fun state stats => (answer state, state, stats)

/-- `RateLimitStore::inspect`. -/
def storeInspect (store : MemoryRateLimitStore) (query : InspectQuery) (now : RateLimitNow) :
    Except RateLimitStoreError InspectResult × MemoryRateLimitStore :=
  inspectInner (maybeCleanup now store) query now

end KongRust.RateLimit

import KongRust.RateLimit.Quiet

/-!
# What a call can do

Each call is either quiet for every key, or it acts on one bucket: it records a new decision
or settles a reservation. `storeAdmit_cases` and `storeSettle_cases` say this with all the
guards; `perform_effect` is the same for any call, seen from one bucket.
-/

namespace KongRust.RateLimit

open KongRust.Machine

/-! ## Admission -/

/-- The window that an admission counts in, and the bucket with that window open. -/
inductive Opened (state : BucketState) (spec : WindowSpec) (now : RateLimitNow) (windowId : Uuid) :
    WindowState → BucketState → Prop
  | active {window : WindowState} (hActive : state.activeWindow = some window) :
      Opened state spec now windowId window state
  | fresh {window : WindowState} (hNone : state.activeWindow = none)
      (hIdentity : window.identity = ⟨windowId, state.generation + 1⟩) (hSpec : window.spec = spec)
      (hReset : window.resetMono = now.mono + spec.duration)
      (hRequests : window.requestsUsed = 0) (hTokens : window.tokensUsed = 0) :
      Opened state spec now windowId window
        { state with generation := state.generation + 1, activeWindow := some window }

variable {state : BucketState} {now : RateLimitNow} {window : WindowState}
  {config : MemoryRateLimitConfig}

variable {spec : WindowSpec} {windowId : Uuid} {opened state' : BucketState}
  {store store' : MemoryRateLimitStore} {key : RateLimitKey} {envelope : ReservationEnvelope}
  {record : AdmissionRecord}

theorem ensureWindow_opened (h : ensureWindow state spec now windowId = .ok (window, opened)) :
    Opened state spec now windowId window opened := by
  unfold ensureWindow at h
  split at h
  · rename_i active hActive
    obtain ⟨rfl, rfl⟩ := Prod.mk.inj (Except.ok.inj h)
    exact .active hActive
  · rename_i hNone
    split at h
    · simp at h
    · rename_i generation hGeneration
      split at h
      · simp at h
      · rename_i resetMono hReset
        split at h
        · simp at h
        · obtain ⟨_, rfl⟩ := checkedAdd_eq_some.mp hGeneration
          obtain ⟨_, rfl⟩ := checkedAdd_eq_some.mp hReset
          obtain ⟨rfl, rfl⟩ := Prod.mk.inj (Except.ok.inj h)
          exact .fresh hNone rfl rfl rfl rfl rfl

theorem Opened.activeWindow_eq {state opened : BucketState} {spec : WindowSpec}
    {now : RateLimitNow} {windowId : Uuid} {window : WindowState}
    (h : Opened state spec now windowId window opened) : opened.activeWindow = some window := by
  cases h with
  | active hActive => exact hActive
  | fresh => rfl

theorem Opened.admissions_eq (h : Opened state spec now windowId window opened) :
    opened.admissions = state.admissions := by
  cases h <;> rfl

section

variable {state opened : BucketState} {spec : WindowSpec} {now : RateLimitNow} {windowId : Uuid}
  {window : WindowState} (h : Opened state spec now windowId window opened)
include h

theorem Opened.spec_eq : (state.activeWindow.map WindowState.spec).getD spec = window.spec := by
  cases h with
  | active hActive => simp [hActive]
  | fresh hNone _ hSpec => simp [hNone, hSpec]

theorem Opened.rollback : rollbackNewWindow opened state.activeWindow.isNone = state := by
  cases h with
  | active hActive => simp [rollbackNewWindow, hActive]
  | fresh hNone =>
    obtain ⟨activeWindow, generation, admissions, touched⟩ := state
    obtain rfl : activeWindow = none := hNone
    simp [rollbackNewWindow]

end

def retentionOf (config : MemoryRateLimitConfig) (now : RateLimitNow) (window : WindowState) :
    Nat :=
  now.mono + (window.spec.duration + config.maxRequestLifetime + config.settlementRetryGrace)

/-- The new decisions of an admission and the bucket after them. -/
inductive Decides (config : MemoryRateLimitConfig) (instanceId : Uuid) (command : AdmitCommand)
    (now : RateLimitNow) (ids : DrawnIds) (state : BucketState) :
    AdmissionDecision → BucketState → Prop
  | rejected {window : WindowState} {opened : BucketState} {reason : ExceededDimension}
      (hFresh : state.admissions.lookup command.requestId = none)
      (hOpened : Opened state command.window now ids.window window opened)
      (hBound : retentionOf config now window < DURATION) :
      Decides config instanceId command now ids state
        (.rejected reason (snapshot window command.limits now) false)
        { opened with
          admissions := opened.admissions.insert command.requestId
            (recordOf command (.rejected reason (snapshot window command.limits now) false)
              (retentionOf config now window)) }
  | allowed {window counted : WindowState} {opened : BucketState} {requests tokens : Nat}
      (hFresh : state.admissions.lookup command.requestId = none)
      (hOpened : Opened state command.window now ids.window window opened)
      (hBound : retentionOf config now window < DURATION)
      (hRequests : candidate command.limits.requests window.requestsUsed command.reserve.requests =
        some requests)
      (hTokens : candidate command.limits.tokens window.tokensUsed command.reserve.tokens =
        some tokens)
      (hRequestsFit : exceeds command.limits.requests requests = false)
      (hTokensFit : exceeds command.limits.tokens tokens = false)
      (hCounted : counted = { window with requestsUsed := requests, tokensUsed := tokens }) :
      Decides config instanceId command now ids state
        (.allowed (tokenOf instanceId command counted ids) (snapshot counted command.limits now)
          false)
        { opened with
          activeWindow := some counted
          admissions := opened.admissions.insert command.requestId
            (recordOf command (.allowed (tokenOf instanceId command counted ids)
              (snapshot counted command.limits now) false) (retentionOf config now window)) }

/-- The outcomes of `admitLocked`. -/
inductive AdmitEffect (config : MemoryRateLimitConfig) (instanceId : Uuid)
    (command : AdmitCommand) (now : RateLimitNow) (ids : DrawnIds) (state : BucketState) :
    Except RateLimitStoreError AdmitAttempt → BucketState → Prop
  | conflict {record : AdmissionRecord}
      (hRecord : state.admissions.lookup command.requestId = some record)
      (hPayload : record.fingerprint ≠ command.fingerprint) :
      AdmitEffect config instanceId command now ids state
        (.error (.corrupt "admit idempotency payload conflict")) state
  | replayed {record : AdmissionRecord}
      (hRecord : state.admissions.lookup command.requestId = some record)
      (hPayload : record.fingerprint = command.fingerprint) :
      AdmitEffect config instanceId command now ids state
        (.ok (.decision record.decision.asReplayed)) state
  | failed {e : RateLimitStoreError}
      (hFresh : state.admissions.lookup command.requestId = none) :
      AdmitEffect config instanceId command now ids state (.error e) state
  | capacity (hFresh : state.admissions.lookup command.requestId = none) :
      AdmitEffect config instanceId command now ids state (.ok .capacity) state
  | decided {decision : AdmissionDecision} {state' : BucketState}
      (hDecides : Decides config instanceId command now ids state decision state') :
      AdmitEffect config instanceId command now ids state (.ok (.decision decision)) state'

theorem exceededDimension_eq_none {requests tokens : Bool} :
    exceededDimension requests tokens = none ↔ requests = false ∧ tokens = false := by
  cases requests <;> cases tokens <;> simp [exceededDimension]

variable {command : AdmitCommand} {ids : DrawnIds}

theorem admitReserved_effect {instanceId : Uuid} {retainUntil : Nat} (stats : RateLimitStoreStats)
    (hFresh : state.admissions.lookup command.requestId = none)
    (hRetain : ∀ window opened, Opened state command.window now ids.window window opened →
      retainUntil = retentionOf config now window ∧ retentionOf config now window < DURATION) :
    AdmitEffect config instanceId command now ids state
      (admitReserved config instanceId command now ids retainUntil state stats).1
      (admitReserved config instanceId command now ids retainUntil state stats).2.1 := by
  unfold admitReserved
  dsimp only
  split
  · exact .failed hFresh
  · rename_i window opened hEnsure
    have hOpened := ensureWindow_opened hEnsure
    obtain ⟨rfl, hBound⟩ := hRetain window opened hOpened
    split
    · rw [hOpened.rollback]
      exact .failed hFresh
    · rename_i requests hRequests
      split
      · rw [hOpened.rollback]
        exact .failed hFresh
      · rename_i tokens hTokens
        split
        · exact .decided (.rejected hFresh hOpened hBound)
        · rename_i hFits
          obtain ⟨hRequestsFit, hTokensFit⟩ := exceededDimension_eq_none.mp hFits
          split
          · rw [hOpened.rollback]
            exact .capacity hFresh
          · exact .decided
              (.allowed hFresh hOpened hBound hRequests hTokens hRequestsFit hTokensFit rfl)

theorem retentionDuration_eq_ok {window : WindowSpec}
    {retention : Nat} (h : retentionDuration window config = .ok retention) :
    retention = window.duration + config.maxRequestLifetime + config.settlementRetryGrace := by
  unfold retentionDuration at h
  split at h
  · simp at h
  · rename_i total hTotal
    obtain ⟨front, hFirst, hSecond⟩ := Option.bind_eq_some_iff.mp hTotal
    rw [← Except.ok.inj h, ← (checkedAdd_eq_some.mp hSecond).2, ← (checkedAdd_eq_some.mp hFirst).2]

/-- **The bucket side of an admission.** -/
theorem admitLocked_effect (config : MemoryRateLimitConfig) (instanceId : Uuid)
    (command : AdmitCommand) (now : RateLimitNow) (ids : DrawnIds) (state : BucketState)
    (stats : RateLimitStoreStats) :
    AdmitEffect config instanceId command now ids state
      (admitLocked config instanceId command now ids state stats).1
      (admitLocked config instanceId command now ids state stats).2.1 := by
  unfold admitLocked
  split
  · rename_i record hRecord
    split
    · rename_i hPayload
      exact .conflict hRecord hPayload
    · rename_i hPayload
      exact .replayed hRecord (not_not.mp hPayload)
  · rename_i hFresh
    dsimp only
    split
    · exact .failed hFresh
    · rename_i retention hRetention
      split
      · exact .failed hFresh
      · rename_i retainUntil hRetain
        split
        · exact .capacity hFresh
        · split
          · exact .capacity hFresh
          · refine admitReserved_effect _ hFresh ?_
            intro window opened hOpened
            have hDuration := retentionDuration_eq_ok hRetention
            rw [hOpened.spec_eq] at hDuration
            obtain ⟨hBound, rfl⟩ := checkedAdd_eq_some.mp hRetain
            rw [hDuration] at hBound ⊢
            exact ⟨rfl, hBound⟩

/-- An attempt fails for want of a bucket, or runs `admitLocked` on the purged bucket. -/
theorem admitOnce_cases (store : MemoryRateLimitStore) (command : AdmitCommand)
    (now : RateLimitNow) (ids : DrawnIds) :
    (store.bucketAt command.key = none ∧ (∃ e, (admitOnce store command now ids).1 = .error e) ∧
      (admitOnce store command now ids).2 = store) ∨
    ∃ state state', OnBucket now.mono store (admitOnce store command now ids).2 command.key
      state state' ∧ AdmitEffect store.config store.instanceId command now ids state
        (admitOnce store command now ids).1 state' := by
  unfold admitOnce
  cases hCreate : createBucket store command.key with
  | error e =>
    refine Or.inl ⟨?_, ⟨e, rfl⟩, rfl⟩
    unfold createBucket at hCreate
    split at hCreate
    · simp at hCreate
    · rename_i hAbsent
      rw [MemoryRateLimitStore.bucketAt, hAbsent, Option.map_none]
  | ok created =>
    obtain ⟨cell, store₁⟩ := created
    right
    obtain ⟨hQuiet₁, hCell₁⟩ := createBucket_quiet now.mono hCreate
    obtain ⟨hQuiet₂, hCell₂⟩ := scheduleCleanup_quiet now.mono hCell₁
    have hQuiet := hQuiet₁.trans hQuiet₂
    dsimp only
    generalize scheduleCleanup store₁ command.key cell = scheduled at hQuiet hCell₂ ⊢
    obtain ⟨cell₂, store₂⟩ := scheduled
    dsimp only at hQuiet hCell₂ ⊢
    rw [hQuiet.config, hQuiet.instanceId]
    obtain ⟨state, stats, hAnswer, hOn⟩ := withBucket_onBucket hCell₂ now
      (admitLocked store.config store.instanceId command now ids)
    refine ⟨state, _, hOn.quiet_before hQuiet, ?_⟩
    rw [hAnswer]
    exact admitLocked_effect store.config store.instanceId command now ids state stats

/-- What an admission does: nothing but quiet changes with an error or a replayed answer, or a
new decision on the bucket of its key. -/
inductive AdmitCases (store : MemoryRateLimitStore) (command : AdmitCommand) (now : RateLimitNow)
    (ids retryIds : DrawnIds) :
    Except RateLimitStoreError AdmissionDecision → MemoryRateLimitStore → Prop
  | failed {e : RateLimitStoreError} {store' : MemoryRateLimitStore}
      (hQuiet : StoreQuiet now.mono store store') :
      AdmitCases store command now ids retryIds (.error e) store'
  | replayed {record : AdmissionRecord} {store' : MemoryRateLimitStore}
      (hRecord : keptRecord now.mono (store.bucketAt command.key) command.requestId = some record)
      (hPayload : record.fingerprint = command.fingerprint)
      (hQuiet : StoreQuiet now.mono store store') :
      AdmitCases store command now ids retryIds (.ok record.decision.asReplayed) store'
  | decided {drawn : DrawnIds} {state state' : BucketState} {decision : AdmissionDecision}
      {store' : MemoryRateLimitStore} (hDrawn : drawn = ids ∨ drawn = retryIds)
      (hOn : OnBucket now.mono store store' command.key state state')
      (hDecides : Decides store.config store.instanceId command now drawn state decision state') :
      AdmitCases store command now ids retryIds (.ok decision) store'

theorem AdmitCases.quiet_before {a b c : MemoryRateLimitStore} {now : RateLimitNow}
    {retryIds : DrawnIds} {answer : Except RateLimitStoreError AdmissionDecision}
    (hQuiet : StoreQuiet now.mono a b) (h : AdmitCases b command now ids retryIds answer c) :
    AdmitCases a command now ids retryIds answer c := by
  cases h with
  | failed h => exact .failed (hQuiet.trans h)
  | replayed hRecord hPayload h =>
    rw [(hQuiet.bucket command.key).keptRecord_eq] at hRecord
    exact .replayed hRecord hPayload (hQuiet.trans h)
  | decided hDrawn hOn hDecides =>
    rw [hQuiet.config, hQuiet.instanceId] at hDecides
    exact .decided hDrawn (hOn.quiet_before hQuiet) hDecides

theorem OnBucket.keptRecord_eq {now : Nat} (h : OnBucket now store store' key state state')
    (requestId : String) :
    keptRecord now (store.bucketAt key) requestId = state.admissions.lookup requestId := by
  rw [← h.before.keptRecord_eq, keptRecord, recordIn, Option.bind_some]
  exact Table.filter_eq_self fun record hRecord => h.purged.2 requestId record hRecord

theorem OnBucket.liveWindow_eq {now : Nat} (h : OnBucket now store store' key state state') :
    liveWindow now (store.bucketAt key) = state.activeWindow := by
  rw [← h.before.liveWindow_eq, liveWindow, Option.bind_some]
  exact Table.filter_eq_self fun window hWindow => h.purged.1 window hWindow

theorem admitRetry_cases (store : MemoryRateLimitStore) (command : AdmitCommand)
    (now : RateLimitNow) (ids retryIds : DrawnIds) :
    AdmitCases store command now ids retryIds (admitRetry store command now retryIds).1
      (admitRetry store command now retryIds).2 := by
  have hCases := admitOnce_cases store command now retryIds
  unfold admitRetry
  generalize admitOnce store command now retryIds = attempt at hCases ⊢
  obtain ⟨answer, store'⟩ := attempt
  rcases hCases with ⟨_, ⟨e, hAnswer⟩, hStore⟩ | ⟨state, state', hOn, hEffect⟩
  · dsimp only at hAnswer hStore
    subst hAnswer hStore
    refine .failed ?_
    dsimp only
    split
    · exact countOverload_quiet _ _
    · exact .refl _ _
  · dsimp only at hOn hEffect
    have hOverload : ∀ e : RateLimitStoreError, OnBucket now.mono store store' command.key
        state state → StoreQuiet now.mono store
          (if e.kind = .overloaded then countOverload store' else store') := by
      intro e hOn
      split
      · exact hOn.storeQuiet.trans (countOverload_quiet _ _)
      · exact hOn.storeQuiet
    cases hEffect with
    | conflict hRecord hPayload =>
      exact .failed (hOverload (.corrupt "admit idempotency payload conflict") hOn)
    | @failed e hFresh => exact .failed (hOverload e hOn)
    | replayed hRecord hPayload =>
      exact .replayed ((hOn.keptRecord_eq _).trans hRecord) hPayload hOn.storeQuiet
    | capacity hFresh =>
      exact .failed ((hOn.storeQuiet.trans (countOverload_quiet _ _)).trans
        (removeEmptyBucket_quiet _ _ _))
    | decided hDecides => exact .decided (Or.inr rfl) hOn hDecides

/-- **Admissions.** -/
theorem storeAdmit_cases (store : MemoryRateLimitStore) (command : AdmitCommand)
    (now : RateLimitNow) (ids retryIds : DrawnIds) :
    AdmitCases store command now ids retryIds (storeAdmit store command now ids retryIds).1
      (storeAdmit store command now ids retryIds).2 := by
  unfold storeAdmit
  split
  · exact .failed (.refl _ _)
  · have hClean := maybeCleanup_quiet now store
    have hCases := admitOnce_cases (maybeCleanup now store) command now ids
    generalize admitOnce (maybeCleanup now store) command now ids = attempt at hCases ⊢
    obtain ⟨answer, store'⟩ := attempt
    -- a retry starts after quiet changes and another cleanup
    have hRetry : StoreQuiet now.mono store store' → AdmitCases store command now ids retryIds
          (admitRetry (cleanupAt now store').2 command now retryIds).1
          (admitRetry (cleanupAt now store').2 command now retryIds).2 := fun hQuiet =>
      (admitRetry_cases _ command now ids retryIds).quiet_before
        (hQuiet.trans (cleanupAt_quiet now store'))
    rcases hCases with ⟨_, ⟨e, hAnswer⟩, hStore⟩ | ⟨state, state', hOn, hEffect⟩
    · dsimp only at hAnswer hStore
      subst hAnswer hStore
      dsimp only
      split
      · exact hRetry hClean
      · exact .failed hClean
    · dsimp only at hOn hEffect
      have hOn := hOn.quiet_before hClean
      cases hEffect with
      | conflict hRecord hPayload => exact .failed hOn.storeQuiet
      | failed hFresh =>
        dsimp only
        split
        · exact hRetry hOn.storeQuiet
        · exact .failed hOn.storeQuiet
      | replayed hRecord hPayload =>
        exact .replayed ((hOn.keptRecord_eq _).trans hRecord) hPayload hOn.storeQuiet
      | capacity hFresh => exact hRetry hOn.storeQuiet
      | decided hDecides =>
        rw [hClean.config, hClean.instanceId] at hDecides
        exact .decided (Or.inl rfl) hOn hDecides

/-! ## Settlement -/

/-- The record belongs to the admission that handed out the token. -/
def AdmissionRecord.Issued (record : AdmissionRecord) (token : ReservationEnvelope) : Prop :=
  ∃ snapshot replayed, record.decision = .allowed token snapshot replayed

def settledRecord (record : AdmissionRecord) (command : SettleCommand)
    (result : SettlementResult) (retryUntil : Nat) : AdmissionRecord :=
  { record with
    retainUntil := max record.retainUntil retryUntil
    settlement := some ⟨command.operationId, command.finalCharge, result⟩ }

/-- The outcomes of `settleLocked`. In the last one the deadline overflows after the counters
have been adjusted. -/
inductive SettleEffect (config : MemoryRateLimitConfig) (command : SettleCommand)
    (now : RateLimitNow) (state : BucketState) :
    Except RateLimitStoreError SettlementResult → BucketState → Prop
  | failed {e : RateLimitStoreError} : SettleEffect config command now state (.error e) state
  | replayed {record : AdmissionRecord} {settlement : SettlementRecord}
      (hRecord : state.admissions.lookup command.reservation.requestId = some record)
      (hIssued : record.Issued command.reservation)
      (hSettlement : record.settlement = some settlement)
      (hOperation : settlement.operationId = command.operationId)
      (hCharge : settlement.finalCharge = command.finalCharge) :
      SettleEffect config command now state (.ok ⟨.replayed, settlement.result.snapshot⟩) state
  | applied {record : AdmissionRecord} {window adjusted : WindowState} {retryUntil : Nat}
      {result : SettlementResult}
      (hRecord : state.admissions.lookup command.reservation.requestId = some record)
      (hIssued : record.Issued command.reservation) (hOpen : record.settlement = none)
      (hWindow : state.activeWindow = some window)
      (hIdentity : window.identity = command.reservation.window)
      (hAdjusted : settledWindow window command = .ok adjusted)
      (hRetry : checkedAdd DURATION now.mono config.settlementRetryGrace = some retryUntil)
      (hResult : result.disposition = .applied) :
      SettleEffect config command now state (.ok result)
        { state with
          activeWindow := some adjusted
          admissions := state.admissions.insert command.reservation.requestId
            (settledRecord record command result retryUntil) }
  | stale {record : AdmissionRecord} {retryUntil : Nat} {result : SettlementResult}
      (hRecord : state.admissions.lookup command.reservation.requestId = some record)
      (hIssued : record.Issued command.reservation) (hOpen : record.settlement = none)
      (hOther : ∀ window, state.activeWindow = some window → window.liveAt now.mono →
        window.identity ≠ command.reservation.window)
      (hRetry : checkedAdd DURATION now.mono config.settlementRetryGrace = some retryUntil)
      (hResult : result.disposition = .staleWindowNoop) :
      SettleEffect config command now state (.ok result)
        { state with
          admissions := state.admissions.insert command.reservation.requestId
            (settledRecord record command result retryUntil) }
  | broken {record : AdmissionRecord} {window adjusted : WindowState} {e : RateLimitStoreError}
      (hRecord : state.admissions.lookup command.reservation.requestId = some record)
      (hIssued : record.Issued command.reservation) (hOpen : record.settlement = none)
      (hWindow : state.activeWindow = some window)
      (hIdentity : window.identity = command.reservation.window)
      (hLive : window.liveAt now.mono)
      (hAdjusted : settledWindow window command = .ok adjusted)
      (hRetry : checkedAdd DURATION now.mono config.settlementRetryGrace = none) :
      SettleEffect config command now state (.error e) { state with activeWindow := some adjusted }

/-- What a settlement leaves of the record of a request. -/
theorem SettleEffect.lookup {command : SettleCommand} {state' : BucketState}
    {answer : Except RateLimitStoreError SettlementResult}
    (h : SettleEffect config command now state answer state') (requestId : String) :
    state'.admissions.lookup requestId = state.admissions.lookup requestId ∨
      requestId = command.reservation.requestId ∧
      ∃ stored result retryUntil, state.admissions.lookup requestId = some stored ∧
        stored.Issued command.reservation ∧ stored.settlement = none ∧
        checkedAdd DURATION now.mono config.settlementRetryGrace = some retryUntil ∧
        state'.admissions.lookup requestId =
          some (settledRecord stored command result retryUntil) := by
  by_cases hId : requestId = command.reservation.requestId
  · subst hId
    cases h with
    | applied hRecord hIssued hOpen _ _ _ hRetry _ | stale hRecord hIssued hOpen _ hRetry _ =>
      exact .inr ⟨rfl, _, _, _, hRecord, hIssued, hOpen, hRetry, AList.lookup_insert _⟩
    | _ => exact .inl rfl
  · cases h with
    | applied | stale => exact .inl (AList.lookup_insert_ne hId)
    | _ => exact .inl rfl

theorem sameWindow_eq_some : sameWindow state envelope now = some window ↔
      state.activeWindow = some window ∧ window.identity = envelope.window ∧
        window.liveAt now.mono := by
  simp [sameWindow, WindowState.liveAt, Option.filter_eq_some_iff]

theorem settleRecord_effect {command : SettleCommand} (stats : RateLimitStoreStats)
    (hRecord : state.admissions.lookup command.reservation.requestId = some record)
    (hIssued : record.Issued command.reservation) (hOpen : record.settlement = none) :
    SettleEffect config command now state (settleRecord config command now record state stats).1
      (settleRecord config command now record state stats).2.1 := by
  unfold settleRecord
  split
  · rename_i window hSame
    obtain ⟨hWindow, hIdentity, hLive⟩ := sameWindow_eq_some.mp hSame
    split
    · exact .failed
    · rename_i adjusted hAdjusted
      unfold recordSettlement
      split
      · rename_i hRetry
        exact .broken hRecord hIssued hOpen hWindow hIdentity hLive hAdjusted hRetry
      · rename_i retryUntil hRetry
        exact .applied hRecord hIssued hOpen hWindow hIdentity hAdjusted hRetry rfl
  · rename_i hNone
    have hOther : ∀ window, state.activeWindow = some window → window.liveAt now.mono →
        window.identity ≠ command.reservation.window := by
      intro window hWindow hLive hIdentity
      rw [sameWindow_eq_some.mpr ⟨hWindow, hIdentity, hLive⟩] at hNone
      cases hNone
    unfold recordSettlement
    split
    · exact .failed
    · rename_i retryUntil hRetry
      exact .stale hRecord hIssued hOpen hOther hRetry rfl

theorem admittedRecord_eq_some (h : admittedRecord state envelope = .ok (some record)) :
    state.admissions.lookup envelope.requestId = some record ∧ record.Issued envelope := by
  unfold admittedRecord at h
  split at h
  · simp at h
  · rename_i found hFound
    split at h
    · simp at h
    · rename_i token snapshot replayed hDecision
      split at h
      · simp at h
      · rename_i hToken
        obtain rfl := Option.some.inj (Except.ok.inj h)
        rw [not_not.mp hToken] at hDecision
        exact ⟨hFound, snapshot, replayed, hDecision⟩

theorem settleLocked_effect (config : MemoryRateLimitConfig) (command : SettleCommand)
    (now : RateLimitNow) (state : BucketState) (stats : RateLimitStoreStats) :
    SettleEffect config command now state (settleLocked config command now state stats).1
      (settleLocked config command now state stats).2.1 := by
  unfold settleLocked
  split
  · exact .failed
  · exact .failed
  · rename_i record hAdmitted
    obtain ⟨hRecord, hIssued⟩ := admittedRecord_eq_some hAdmitted
    split
    · rename_i settlement hSettlement
      split
      · exact .failed
      · rename_i hPayload
        rw [not_or, not_not, not_not] at hPayload
        exact .replayed hRecord hIssued hSettlement hPayload.1 hPayload.2
    · rename_i hOpen
      exact settleRecord_effect stats hRecord hIssued hOpen

/-- What a settlement does: quiet changes with an error, or `settleLocked` on the purged
bucket of its token. -/
inductive SettleCases (store : MemoryRateLimitStore) (command : SettleCommand)
    (now : RateLimitNow) :
    Except RateLimitStoreError SettlementResult → MemoryRateLimitStore → Prop
  | failed {e : RateLimitStoreError} {store' : MemoryRateLimitStore}
      (hQuiet : StoreQuiet now.mono store store') : SettleCases store command now (.error e) store'
  | acted {answer : Except RateLimitStoreError SettlementResult} {store' : MemoryRateLimitStore}
      {state state' : BucketState}
      (hOn : OnBucket now.mono store store' command.reservation.key state state')
      (hEffect : SettleEffect store.config command now state answer state') :
      SettleCases store command now answer store'

theorem storeSettle_cases (store : MemoryRateLimitStore) (command : SettleCommand)
    (now : RateLimitNow) :
    SettleCases store command now (storeSettle store command now).1
      (storeSettle store command now).2 := by
  have hClean := maybeCleanup_quiet now store
  unfold storeSettle settleInner
  split
  · exact .failed hClean
  · split
    · exact .failed hClean
    · split
      · exact .failed hClean
      · rename_i cell hCell
        obtain ⟨state, stats, hAnswer, hOn⟩ := withBucket_onBucket hCell now
          (settleLocked (maybeCleanup now store).config command now)
        have hEffect := settleLocked_effect (maybeCleanup now store).config command now state stats
        rw [← hAnswer, hClean.config] at hEffect
        rw [hClean.config] at hOn ⊢
        exact .acted (hOn.quiet_before hClean) hEffect

/-! ## Inspection and cleanup -/

theorem storeInspect_quiet (store : MemoryRateLimitStore) (query : InspectQuery)
    (now : RateLimitNow) : StoreQuiet now.mono store (storeInspect store query now).2 := by
  have hClean := maybeCleanup_quiet now store
  unfold storeInspect inspectInner
  dsimp only
  split
  · exact hClean
  · split
    · exact hClean
    · rename_i cell hCell
      obtain ⟨state, stats, _, hOn⟩ := withBucket_onBucket hCell now
        fun state stats => ((inspectPlan (maybeCleanup now store) query now).2.2.2 state, state, stats)
      exact hClean.trans hOn.storeQuiet

/-! ## Calls and runs -/

inductive Call where
  | admission (command : AdmitCommand) (ids retryIds : DrawnIds)
  | settlement (command : SettleCommand)
  | inspection (query : InspectQuery)
  | cleanup

inductive Answer where
  | admission (answer : Except RateLimitStoreError AdmissionDecision)
  | settlement (answer : Except RateLimitStoreError SettlementResult)
  | inspection (answer : Except RateLimitStoreError InspectResult)
  | cleanup (report : MemoryCleanupReport)

/-- A call, with the reading of the clock. -/
structure TimedCall where
  call : Call
  now : RateLimitNow

def perform (store : MemoryRateLimitStore) (timed : TimedCall) : Answer × MemoryRateLimitStore :=
  match timed.call with
  | .admission command ids retryIds =>
    let result := storeAdmit store command timed.now ids retryIds
    (.admission result.1, result.2)
  | .settlement command =>
    let result := storeSettle store command timed.now
    (.settlement result.1, result.2)
  | .inspection query =>
    let result := storeInspect store query timed.now
    (.inspection result.1, result.2)
  | .cleanup =>
    let result := cleanupAt timed.now store
    (.cleanup result.1, result.2)

def runCalls (store : MemoryRateLimitStore) (calls : List TimedCall) : MemoryRateLimitStore :=
  calls.foldl (fun store timed => (perform store timed).2) store

def Clocked (calls : List TimedCall) : Prop :=
  calls.Pairwise fun a b => a.now.mono ≤ b.now.mono

/-- What one call can do to one bucket. -/
inductive BucketEffect (config : MemoryRateLimitConfig) (instanceId : Uuid) (timed : TimedCall)
    (key : RateLimitKey) (bucket : Option BucketState) : Option BucketState → Prop
  | quiet {bucket' : Option BucketState} (hQuiet : Quiet timed.now.mono bucket bucket') :
      BucketEffect config instanceId timed key bucket bucket'
  | decided {command : AdmitCommand} {ids retryIds drawn : DrawnIds} {state state' : BucketState}
      {decision : AdmissionDecision} (hCall : timed.call = .admission command ids retryIds)
      (hDrawn : drawn = ids ∨ drawn = retryIds) (hKey : command.key = key)
      (hBefore : Quiet timed.now.mono bucket (some state)) (hPurged : state.PurgedAt timed.now.mono)
      (hDecides : Decides config instanceId command timed.now drawn state decision state') :
      BucketEffect config instanceId timed key bucket (some state')
  | settled {command : SettleCommand} {answer : Except RateLimitStoreError SettlementResult}
      {state state' : BucketState} (hCall : timed.call = .settlement command)
      (hKey : command.reservation.key = key) (hBefore : Quiet timed.now.mono bucket (some state))
      (hPurged : state.PurgedAt timed.now.mono)
      (hEffect : SettleEffect config command timed.now state answer state') :
      BucketEffect config instanceId timed key bucket (some state')

/-- **Calls.** The configuration stays, and every bucket goes through one of the effects. -/
theorem perform_effect (store : MemoryRateLimitStore) (timed : TimedCall) :
    (perform store timed).2.config = store.config ∧
      (perform store timed).2.instanceId = store.instanceId ∧
      ∀ key, BucketEffect store.config store.instanceId timed key (store.bucketAt key)
        ((perform store timed).2.bucketAt key) := by
  obtain ⟨call, now⟩ := timed
  have hOfQuiet : ∀ {call : Call} {store' : MemoryRateLimitStore},
      StoreQuiet now.mono store store' → store'.config = store.config ∧
        store'.instanceId = store.instanceId ∧ ∀ key, BucketEffect store.config store.instanceId
          ⟨call, now⟩ key (store.bucketAt key) (store'.bucketAt key) :=
    fun hQuiet => ⟨hQuiet.config, hQuiet.instanceId, fun key => .quiet (hQuiet.bucket key)⟩
  cases call with
  | admission command ids retryIds =>
    have hCases := storeAdmit_cases store command now ids retryIds
    simp only [perform]
    generalize storeAdmit store command now ids retryIds = result at hCases ⊢
    obtain ⟨answer, store'⟩ := result
    cases hCases with
    | failed hQuiet | replayed _ _ hQuiet => exact hOfQuiet hQuiet
    | decided hDrawn hOn hDecides =>
      refine ⟨hOn.config, hOn.instanceId, fun key => ?_⟩
      by_cases hKey : command.key = key
      · subst hKey
        rw [hOn.after]
        exact .decided rfl hDrawn rfl hOn.before hOn.purged hDecides
      · exact .quiet (hOn.others key fun h => hKey h.symm)
  | settlement command =>
    have hCases := storeSettle_cases store command now
    simp only [perform]
    generalize storeSettle store command now = result at hCases ⊢
    obtain ⟨answer, store'⟩ := result
    cases hCases with
    | failed hQuiet => exact hOfQuiet hQuiet
    | acted hOn hEffect =>
      refine ⟨hOn.config, hOn.instanceId, fun key => ?_⟩
      by_cases hKey : command.reservation.key = key
      · subst hKey
        rw [hOn.after]
        exact .settled rfl rfl hOn.before hOn.purged hEffect
      · exact .quiet (hOn.others key fun h => hKey h.symm)
  | inspection query => exact hOfQuiet (storeInspect_quiet store query now)
  | cleanup => exact hOfQuiet (cleanupAt_quiet now store)

end KongRust.RateLimit

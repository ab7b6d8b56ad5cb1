import KongRust.RateLimit.Replay

/-!
# Settling once

A reservation is settled at most once: its record keeps the first settlement, the same
command is answered from it and another one fails. A settlement that fails leaves everything as it
is, because the only step that could still fail after the counters are adjusted, the extension of
the deadline, cannot overflow in a live window.
-/

namespace KongRust.RateLimit

open KongRust.Machine

/-! ## Where tokens come from -/

def TimedCall.drawn (timed : TimedCall) : List Uuid :=
  match timed.call with
  | .admission _ ids retryIds => [ids.reservation, retryIds.reservation]
  | .settlement _ => []
  | .inspection _ => []
  | .cleanup => []

def FreshIds (calls : List TimedCall) : Prop := (calls.flatMap TimedCall.drawn).Nodup

/-- Every token of the store lies under its own key and request, and was drawn. -/
def Origin (drawn : List Uuid) (store : MemoryRateLimitStore) : Prop :=
  ∀ key requestId record token, recordIn (store.bucketAt key) requestId = some record →
    record.Issued token →
    token.key = key ∧ token.requestId = requestId ∧ token.reservationId ∈ drawn

variable {config : MemoryRateLimitConfig} {now : RateLimitNow} {state : BucketState}
  {record : AdmissionRecord} {drawn : List Uuid} {store : MemoryRateLimitStore}
  {command : SettleCommand} {result : SettlementResult} {e : RateLimitStoreError}

variable {instanceId : Uuid} {settlement : SettlementRecord} {stats : RateLimitStoreStats}
  {calls : List TimedCall} {state' : BucketState} {requestId : String}

/-- The records after a new decision: the new one under its request, and the old ones. -/
theorem Decides.lookup_cases {command : AdmitCommand} {ids : DrawnIds}
    {decision : AdmissionDecision}
    (h : Decides config instanceId command now ids state decision state')
    (hRecord : state'.admissions.lookup requestId = some record) :
    state.admissions.lookup requestId = some record ∨
      requestId = command.requestId ∧ ∀ token, record.Issued token →
        token.key = command.key ∧ token.requestId = command.requestId ∧
          token.reservationId = ids.reservation := by
  by_cases hId : requestId = command.requestId
  · subst hId
    right
    refine ⟨rfl, fun token hIssued => ?_⟩
    cases h with
    | rejected =>
      rw [AList.lookup_insert] at hRecord
      obtain rfl := Option.some.inj hRecord
      obtain ⟨_, _, hDecision⟩ := hIssued
      cases hDecision
    | allowed =>
      rw [AList.lookup_insert] at hRecord
      obtain rfl := Option.some.inj hRecord
      obtain ⟨_, _, hDecision⟩ := hIssued
      cases hDecision
      exact ⟨rfl, rfl, rfl⟩
  · left
    cases h with
    | rejected _ hOpened _ | allowed _ hOpened _ _ _ _ _ _ =>
      rw [AList.lookup_insert_ne hId, hOpened.admissions_eq] at hRecord
      exact hRecord

theorem SettleEffect.lookup_cases {config : MemoryRateLimitConfig} {command : SettleCommand}
    {now : RateLimitNow} {state : BucketState}
    {answer : Except RateLimitStoreError SettlementResult}
    (h : SettleEffect config command now state answer state') {record : AdmissionRecord}
    (hRecord : state'.admissions.lookup requestId = some record) :
    state.admissions.lookup requestId = some record ∨
      ∃ stored, state.admissions.lookup requestId = some stored ∧ stored.settlement = none ∧
        ∀ token, record.Issued token ↔ stored.Issued token := by
  rcases h.lookup requestId with hSame | ⟨-, stored, _, _, hStored, -, hOpen, -, hSettled⟩
  · exact .inl (hSame.symm.trans hRecord)
  · obtain rfl := Option.mem_unique hRecord hSettled
    exact .inr ⟨stored, hStored, hOpen, fun token => settledRecord_issued⟩

variable {timed : TimedCall}

theorem perform_record_cases {store : MemoryRateLimitStore} {key : RateLimitKey}
    {record : AdmissionRecord}
    (hRecord : recordIn ((perform store timed).2.bucketAt key) requestId = some record) :
    recordIn (store.bucketAt key) requestId = some record ∨
    (∃ stored, recordIn (store.bucketAt key) requestId = some stored ∧
      stored.settlement = none ∧ ∀ token, record.Issued token ↔ stored.Issued token) ∨
    ∀ token, record.Issued token →
      token.key = key ∧ token.requestId = requestId ∧ token.reservationId ∈ timed.drawn := by
  have hEffect := (perform_effect store timed).2.2 key
  generalize (perform store timed).2.bucketAt key = bucket' at hEffect hRecord
  cases hEffect with
  | quiet hQuiet => exact Or.inl (hQuiet.recordIn_of hRecord)
  | @decided command ids retryIds drawn state state' decision hCall hDrawn hKey hQuiet _ hDecides =>
    rcases hDecides.lookup_cases hRecord with hOld | ⟨rfl, hNew⟩
    · exact Or.inl (hQuiet.recordIn_of hOld)
    · refine Or.inr (Or.inr fun token hIssued => ?_)
      obtain ⟨hTokenKey, hTokenId, hTokenDrawn⟩ := hNew token hIssued
      refine ⟨hTokenKey.trans hKey, hTokenId, ?_⟩
      rw [hTokenDrawn, TimedCall.drawn, hCall]
      rcases hDrawn with rfl | rfl <;> simp
  | @settled command answer state state' hCall hKey hQuiet _ hEffect =>
    rcases hEffect.lookup_cases hRecord with hOld | ⟨stored, hStored, hOpen, hSame⟩
    · exact Or.inl (hQuiet.recordIn_of hOld)
    · exact Or.inr (Or.inl ⟨stored, hQuiet.recordIn_of hStored, hOpen, hSame⟩)

theorem Origin.perform (h : Origin drawn store)
    (timed : TimedCall) : Origin (drawn ++ timed.drawn) (perform store timed).2 := by
  intro key requestId record token hRecord hIssued
  rcases perform_record_cases hRecord with hOld | ⟨stored, hStored, _, hSame⟩ | hNew
  · obtain ⟨hKey, hId, hDrawn⟩ := h key requestId record token hOld hIssued
    exact ⟨hKey, hId, List.mem_append_left _ hDrawn⟩
  · obtain ⟨hKey, hId, hDrawn⟩ := h key requestId stored token hStored ((hSame token).mp hIssued)
    exact ⟨hKey, hId, List.mem_append_left _ hDrawn⟩
  · obtain ⟨hKey, hId, hDrawn⟩ := hNew token hIssued
    exact ⟨hKey, hId, List.mem_append_right _ hDrawn⟩

theorem Origin.runCalls {drawn : List Uuid} {store : MemoryRateLimitStore}
    (h : Origin drawn store) (calls : List TimedCall) :
    Origin (drawn ++ calls.flatMap TimedCall.drawn) (runCalls store calls) := by
  induction calls generalizing drawn store with
  | nil =>
    rw [List.flatMap_nil, List.append_nil]
    exact h
  | cons timed calls ih =>
    rw [List.flatMap_cons, ← List.append_assoc]
    exact ih (h.perform timed)

theorem origin_of_run {start : RateLimitNow}
    (hNew : MemoryRateLimitStore.new config instanceId start = .ok store) (calls : List TimedCall) :
    Origin (calls.flatMap TimedCall.drawn) (runCalls store calls) := by
  have hStart : Origin [] store := by
    intro key requestId record token hRecord
    simp [recordIn, MemoryRateLimitStore.bucketAt, buckets_new hNew] at hRecord
  exact hStart.runCalls calls

/-! ## A settled token stays settled -/

/-- Every record of the token carries a settlement with this payload. -/
def SettledAs (token : ReservationEnvelope) (operationId : String) (charge : QuotaCharge)
    (store : MemoryRateLimitStore) : Prop :=
  ∀ key requestId record, recordIn (store.bucketAt key) requestId = some record →
    record.Issued token → ∃ settlement, record.settlement = some settlement ∧
      settlement.operationId = operationId ∧ settlement.finalCharge = charge

variable {token : ReservationEnvelope} {operationId : String} {charge : QuotaCharge}

theorem SettledAs.perform (h : SettledAs token operationId charge store)
    (hFresh : token.reservationId ∉ timed.drawn) :
    SettledAs token operationId charge (perform store timed).2 := by
  intro key requestId record hRecord hIssued
  rcases perform_record_cases hRecord with hOld | ⟨stored, hStored, hOpen, hSame⟩ | hNew
  · exact h key requestId record hOld hIssued
  · obtain ⟨settlement, hSettlement, _⟩ := h key requestId stored hStored ((hSame token).mp hIssued)
    rw [hOpen] at hSettlement
    cases hSettlement
  · exact absurd (hNew token hIssued).2.2 hFresh

theorem SettledAs.runCalls {store : MemoryRateLimitStore}
    (h : SettledAs token operationId charge store) {calls : List TimedCall}
    (hFresh : token.reservationId ∉ calls.flatMap TimedCall.drawn) :
    SettledAs token operationId charge (runCalls store calls) := by
  induction calls generalizing store with
  | nil => exact h
  | cons timed calls ih =>
    rw [List.flatMap_cons, List.mem_append, not_or] at hFresh
    exact ih (h.perform hFresh.1) hFresh.2

/-! ## What a settlement answers -/

/-- A settlement that is answered leaves its payload on record. -/
theorem recordIn_of_storeSettle {store : MemoryRateLimitStore} {command : SettleCommand}
    {now : RateLimitNow} {result : SettlementResult}
    (h : (storeSettle store command now).1 = .ok result) :
    ∃ record settlement, recordIn ((storeSettle store command now).2.bucketAt
        command.reservation.key) command.reservation.requestId = some record ∧
      record.Issued command.reservation ∧ record.settlement = some settlement ∧
      settlement.operationId = command.operationId ∧
      settlement.finalCharge = command.finalCharge ∧
      settlement.result.snapshot = result.snapshot := by
  have hCases := storeSettle_cases store command now
  generalize storeSettle store command now = outcome at hCases h ⊢
  obtain ⟨answer, store'⟩ := outcome
  dsimp only at hCases h ⊢
  subst h
  generalize hAnswer : (Except.ok result : Except RateLimitStoreError SettlementResult) = answer
    at hCases
  cases hCases with
  | failed => cases hAnswer
  | acted hOn hEffect =>
    rw [hOn.after]
    cases hEffect with
    | failed | broken => cases hAnswer
    | @replayed record settlement hRecord hIssued hSettlement hOperation hCharge =>
      obtain rfl := Except.ok.inj hAnswer
      exact ⟨record, settlement, hRecord, hIssued, hSettlement, hOperation, hCharge, rfl⟩
    | applied hRecord hIssued _ _ _ _ _ _ | stale hRecord hIssued _ _ _ _ =>
      obtain rfl := Except.ok.inj hAnswer
      exact ⟨_, _, AList.lookup_insert _, settledRecord_issued.mpr hIssued, rfl, rfl, rfl, rfl⟩

theorem settledAs_of_storeSettle (hOrigin : Origin drawn (storeSettle store command now).2)
    (h : (storeSettle store command now).1 = .ok result) :
    SettledAs command.reservation command.operationId command.finalCharge
      (storeSettle store command now).2 := by
  obtain ⟨record, settlement, hRecord, _, hSettlement, hOperation, hCharge, _⟩ :=
    recordIn_of_storeSettle h
  intro key requestId found hFound hIssued
  obtain ⟨rfl, rfl, _⟩ := hOrigin key requestId found _ hFound hIssued
  obtain rfl := Option.mem_unique hRecord hFound
  exact ⟨settlement, hSettlement, hOperation, hCharge⟩

/-- A settled token is only answered for its own payload, and no window changes. -/
theorem storeSettle_of_settledAs {store : MemoryRateLimitStore} {command : SettleCommand}
    (now : RateLimitNow) (h : SettledAs command.reservation operationId charge store) :
    StoreQuiet now.mono store (storeSettle store command now).2 ∧
      ((operationId ≠ command.operationId ∨ charge ≠ command.finalCharge) →
        ∃ e, (storeSettle store command now).1 = .error e) := by
  have hCases := storeSettle_cases store command now
  generalize storeSettle store command now = outcome at hCases ⊢
  obtain ⟨answer, store'⟩ := outcome
  dsimp only at hCases ⊢
  cases hCases with
  | @failed e _ hQuiet => exact ⟨hQuiet, fun _ => ⟨e, rfl⟩⟩
  | @acted _ _ state state' hOn hEffect =>
    have hSettled : ∀ {record : AdmissionRecord},
        recordIn (some state) command.reservation.requestId = some record →
        record.Issued command.reservation → ∃ settlement, record.settlement = some settlement ∧
          settlement.operationId = operationId ∧ settlement.finalCharge = charge :=
      fun hRecord hIssued => h _ _ _ (hOn.before.recordIn_of hRecord) hIssued
    have hNotOpen : ∀ {record : AdmissionRecord},
        recordIn (some state) command.reservation.requestId = some record →
        record.Issued command.reservation → record.settlement ≠ none := by
      intro record hRecord hIssued hOpen
      obtain ⟨settlement, hSettlement, _⟩ := hSettled hRecord hIssued
      rw [hOpen] at hSettlement
      cases hSettlement
    cases hEffect with
    | @failed e => exact ⟨hOn.storeQuiet, fun _ => ⟨e, rfl⟩⟩
    | replayed hRecord hIssued hSettlement hOperation hCharge =>
      refine ⟨hOn.storeQuiet, fun hOther => ?_⟩
      obtain ⟨found, hFound, hOperation', hCharge'⟩ := hSettled hRecord hIssued
      obtain rfl := Option.mem_unique hSettlement hFound
      rw [← hOperation, ← hCharge, hOperation', hCharge'] at hOther
      simp at hOther
    | applied hRecord hIssued hOpen | stale hRecord hIssued hOpen | broken hRecord hIssued hOpen =>
      exact absurd hOpen (hNotOpen hRecord hIssued)

theorem settleLocked_of_settled (now : RateLimitNow) (stats : RateLimitStoreStats)
    (hRecord : state.admissions.lookup command.reservation.requestId = some record)
    (hIssued : record.Issued command.reservation)
    (hSettlement : record.settlement = some settlement)
    (hOperation : settlement.operationId = command.operationId)
    (hCharge : settlement.finalCharge = command.finalCharge) :
    (settleLocked config command now state stats).1 =
      .ok ⟨.replayed, settlement.result.snapshot⟩ := by
  obtain ⟨snap, replayed, hDecision⟩ := hIssued
  have hAdmitted : admittedRecord state command.reservation = .ok (some record) := by
    simp [admittedRecord, hRecord, hDecision]
  simp [settleLocked, hAdmitted, hSettlement, hOperation, hCharge]

theorem checks_of_storeSettle (h : (storeSettle store command now).1 = .ok result) :
    command.operationId ≠ "" ∧ validateEnvelope store.instanceId command.reservation = .ok () := by
  rw [← (maybeCleanup_quiet now store).instanceId]
  unfold storeSettle settleInner at h
  split at h
  · cases h
  · rename_i hOperation
    split at h
    · cases h
    · rename_i hEnvelope
      exact ⟨hOperation, hEnvelope⟩

theorem storeSettle_of_settled (hNonempty : command.operationId ≠ "")
    (hEnvelope : validateEnvelope store.instanceId command.reservation = .ok ())
    (hRecord : keptRecord now.mono (store.bucketAt command.reservation.key)
      command.reservation.requestId = some record) (hIssued : record.Issued command.reservation)
    (hSettlement : record.settlement = some settlement)
    (hOperation : settlement.operationId = command.operationId)
    (hCharge : settlement.finalCharge = command.finalCharge) :
    (storeSettle store command now).1 = .ok ⟨.replayed, settlement.result.snapshot⟩ := by
  have hClean := maybeCleanup_quiet now store
  rw [← (hClean.bucket command.reservation.key).keptRecord_eq] at hRecord
  rw [← hClean.instanceId] at hEnvelope
  unfold storeSettle settleInner
  rw [if_neg hNonempty, hEnvelope]
  dsimp only
  split
  · rename_i hNone
    refine absurd ?_ (bucketAt_ne_none_of_keptRecord hRecord)
    rw [MemoryRateLimitStore.bucketAt, hNone, Option.map_none]
  · rename_i cell hCell
    obtain ⟨state, stats, hAnswer, hOn⟩ := withBucket_onBucket hCell now
      (settleLocked (maybeCleanup now store).config command now)
    rw [hOn.keptRecord_eq] at hRecord
    rw [hAnswer]
    exact settleLocked_of_settled now stats hRecord hIssued hSettlement hOperation hCharge

/-! ## Failed and late settlements -/

def Adjusts (now : RateLimitNow) (store store' : MemoryRateLimitStore) : Prop :=
  ∃ key, liveWindow now.mono (store'.bucketAt key) ≠ liveWindow now.mono (store.bucketAt key)

theorem StoreQuiet.not_adjusts {store' : MemoryRateLimitStore}
    (h : StoreQuiet now.mono store store') : ¬ Adjusts now store store' :=
  fun ⟨key, hChanged⟩ => hChanged (h.bucket key).liveWindow_eq

theorem storeSettle_error_quiet {t : Nat} {store : MemoryRateLimitStore} (hInv : StoreInv t store)
    {command : SettleCommand} {now : RateLimitNow} {e : RateLimitStoreError}
    (h : (storeSettle store command now).1 = .error e) :
    StoreQuiet now.mono store (storeSettle store command now).2 := by
  have hCases := storeSettle_cases store command now
  generalize storeSettle store command now = outcome at hCases h ⊢
  obtain ⟨answer, store'⟩ := outcome
  dsimp only at hCases h ⊢
  subst h
  generalize hAnswer : (Except.error e : Except RateLimitStoreError SettlementResult) = answer
    at hCases
  cases hCases with
  | failed hQuiet => exact hQuiet
  | @acted _ _ state state' hOn hEffect =>
    cases hEffect with
    | failed => exact hOn.storeQuiet
    | replayed | applied | stale => cases hAnswer
    | broken hRecord hIssued _ hWindow hIdentity hLive _ hRetry =>
      have hState : BucketInv store.config t state :=
        BucketInv.quiet (fun state hState => hInv _ state hState) hOn.before state rfl
      exact absurd hRetry (hState.retry_ne_none hRecord hIssued hWindow hIdentity hLive)

theorem storeSettle_not_adjusts {store : MemoryRateLimitStore} {command : SettleCommand}
    {now : RateLimitNow}
    (hOther : ∀ window, liveWindow now.mono (store.bucketAt command.reservation.key) =
      some window → window.identity ≠ command.reservation.window) :
    ¬ Adjusts now store (storeSettle store command now).2 := by
  have hCases := storeSettle_cases store command now
  generalize storeSettle store command now = outcome at hCases ⊢
  obtain ⟨answer, store'⟩ := outcome
  dsimp only at hCases ⊢
  cases hCases with
  | failed hQuiet => exact hQuiet.not_adjusts
  | @acted _ _ state state' hOn hEffect =>
    rw [hOn.liveWindow_eq] at hOther
    cases hEffect with
    | failed | replayed => exact hOn.storeQuiet.not_adjusts
    | applied _ _ _ hWindow hIdentity | broken _ _ _ hWindow hIdentity =>
      exact absurd hIdentity (hOther _ hWindow)
    | stale =>
      rintro ⟨key, hChanged⟩
      by_cases hKey : key = command.reservation.key
      · subst hKey
        rw [hOn.after, ← hOn.before.liveWindow_eq] at hChanged
        exact hChanged rfl
      · exact hChanged (hOn.others key hKey).liveWindow_eq

/-! ## Statistics of live reservations -/

theorem cleanupTicket_liveReservations (now : RateLimitNow) (pass : CleanupPass)
    (ticket : CleanupTicket) :
    (cleanupTicket now pass ticket).store.stats.liveReservations =
      pass.store.stats.liveReservations := by
  unfold cleanupTicket
  split
  · rfl
  · rename_i cell _
    have hPurge := purgeStats_live now.mono cell.state pass.store.stats
    split
    · rfl
    · dsimp only
      split
      · exact hPurge
      · exact hPurge

theorem cleanupAt_liveReservations (now : RateLimitNow) (store : MemoryRateLimitStore) :
    (cleanupAt now store).2.stats.liveReservations = store.stats.liveReservations := by
  have hTickets : ∀ (tickets : List CleanupTicket) (pass : CleanupPass),
      (tickets.foldl (cleanupTicket now) pass).store.stats.liveReservations =
        pass.store.stats.liveReservations := by
    intro tickets
    induction tickets with
    | nil => exact fun pass => rfl
    | cons ticket tickets ih =>
      exact fun pass => (ih _).trans (cleanupTicket_liveReservations now pass ticket)
  exact hTickets _ _

theorem maybeCleanup_liveReservations (now : RateLimitNow) (store : MemoryRateLimitStore) :
    (maybeCleanup now store).stats.liveReservations = store.stats.liveReservations := by
  unfold maybeCleanup
  split
  · rfl
  · dsimp only
    rw [cleanupAt_liveReservations]

theorem recordSettlement_error_stats :
    (recordSettlement config command now record result state stats).1 = .error e →
      (recordSettlement config command now record result state stats).2.2 = stats := by
  unfold recordSettlement
  split
  · exact fun _ => rfl
  · intro h
    cases h

theorem settleLocked_error_stats : (settleLocked config command now state stats).1 = .error e →
      (settleLocked config command now state stats).2.2 = stats := by
  unfold settleLocked
  split
  · exact fun _ => rfl
  · exact fun _ => rfl
  · split
    · split
      · exact fun _ => rfl
      · intro h
        cases h
    · unfold settleRecord
      split
      · split
        · exact fun _ => rfl
        · exact recordSettlement_error_stats
      · exact recordSettlement_error_stats

theorem storeSettle_error_liveReservations : (storeSettle store command now).1 = .error e →
      (storeSettle store command now).2.stats.liveReservations =
        store.stats.liveReservations := by
  have hClean := maybeCleanup_liveReservations now store
  unfold storeSettle settleInner
  split
  · exact fun _ => hClean
  · split
    · exact fun _ => hClean
    · split
      · exact fun _ => hClean
      · rename_i cell hCell
        intro h
        have hStats := settleLocked_error_stats h
        have hLive := congrArg RateLimitStoreStats.liveReservations hStats
        exact (hLive.trans (purgeStats_live _ _ _)).trans hClean

/-! ## The theorem -/

theorem runCalls_instanceId (store : MemoryRateLimitStore) (calls : List TimedCall) :
    (runCalls store calls).instanceId = store.instanceId := by
  induction calls generalizing store with
  | nil => rfl
  | cons timed calls ih => exact (ih _).trans (perform_effect store timed).2.1

theorem Clocked.le_last {last : TimedCall} (h : Clocked (calls ++ [last])) :
    ∀ timed ∈ calls ++ [last], timed.now.mono ≤ last.now.mono := by
  intro timed hTimed
  rcases List.mem_append.mp hTimed with hTimed | hTimed
  · exact (List.pairwise_append.mp h).2.2 timed hTimed last (List.mem_singleton.mpr rfl)
  · rw [List.mem_singleton.mp hTimed]

/-- An answered settlement stays on record as long as its identifier is not drawn again: the token
was on record when it was settled, so it was drawn before. -/
theorem settledAs_runCalls (hOrigin : Origin drawn (storeSettle store command now).2)
    (h : (storeSettle store command now).1 = .ok result)
    (hFresh : ∀ id ∈ drawn, id ∉ calls.flatMap TimedCall.drawn) :
    SettledAs command.reservation command.operationId command.finalCharge
      (runCalls (storeSettle store command now).2 calls) := by
  obtain ⟨record, _, hRecord, hIssued, _⟩ := recordIn_of_storeSettle h
  have hDrawn := (hOrigin _ _ record _ hRecord hIssued).2.2
  exact (settledAs_of_storeSettle hOrigin h).runCalls (hFresh _ hDrawn)

theorem storeSettle_replayed {first second : SettleCommand}
    {now₁ now₂ : RateLimitNow} {middle : List TimedCall}
    (h : (storeSettle store first now₁).1 = .ok result)
    (hToken : second.reservation = first.reservation)
    (hOperation : second.operationId = first.operationId)
    (hCharge : second.finalCharge = first.finalCharge)
    (hRetained : Retained first.reservation.key first.reservation.requestId
      (storeSettle store first now₁).2 (middle ++ [⟨.settlement second, now₂⟩])) :
    (storeSettle (runCalls (storeSettle store first now₁).2 middle) second now₂).1 =
      .ok ⟨.replayed, result.snapshot⟩ := by
  obtain ⟨hNonempty, hEnvelope⟩ := checks_of_storeSettle h
  obtain ⟨record, settlement, hRecord, hIssued, hSettlement, hOperation₁, hCharge₁, hSnapshot⟩ :=
    recordIn_of_storeSettle h
  have hInstance : (runCalls (storeSettle store first now₁).2 middle).instanceId =
      store.instanceId := by
    rw [runCalls_instanceId]
    exact (perform_effect store ⟨.settlement first, now₁⟩).2.1
  obtain ⟨record', hRecord', hKept', hSame⟩ := runCalls_keeps hRecord hRetained
  have hKeptRecord : keptRecord now₂.mono ((runCalls (storeSettle store first now₁).2
      middle).bucketAt second.reservation.key) second.reservation.requestId = some record' := by
    rw [hToken]
    exact Option.filter_eq_some_iff.mpr ⟨hRecord', hKept'⟩
  have hIssued' : record'.Issued second.reservation := by
    rw [hToken, AdmissionRecord.Issued, hSame.decision]
    exact hIssued
  rw [storeSettle_of_settled (hOperation ▸ hNonempty) (hInstance ▸ hToken ▸ hEnvelope) hKeptRecord
    hIssued' (hSame.settlement settlement hSettlement) (hOperation₁.trans hOperation.symm)
    (hCharge₁.trans hCharge.symm), hSnapshot]

/-- **Settling once.** In every run with a clock that does not go back and fresh reservation
identifiers, two settlements of one reservation do not both adjust a window. After an
answered settlement, a second one with the same payload answers as replayed while the record
is retained, and one with another payload fails. A settlement whose window is not the live
one adjusts nothing, and a failed one leaves the windows, the records and the number of live
reservations as they are, apart from what has expired. -/
theorem settlement_once {config : MemoryRateLimitConfig} {instanceId : Uuid}
    {start : RateLimitNow} {store : MemoryRateLimitStore}
    (hNew : MemoryRateLimitStore.new config instanceId start = .ok store)
    (front middle : List TimedCall) (first second : SettleCommand) (now₁ now₂ : RateLimitNow)
    (hToken : second.reservation = first.reservation)
    (hClock : Clocked (front ++ ⟨.settlement first, now₁⟩ :: (middle ++
      [⟨.settlement second, now₂⟩])))
    (hFresh : FreshIds (front ++ ⟨.settlement first, now₁⟩ :: (middle ++
      [⟨.settlement second, now₂⟩])))
    {before after₁ between after₂ : MemoryRateLimitStore}
    {answer₁ answer₂ : Except RateLimitStoreError SettlementResult}
    (hBefore : before = runCalls store front)
    (hFirst : storeSettle before first now₁ = (answer₁, after₁))
    (hBetween : between = runCalls after₁ middle)
    (hSecond : storeSettle between second now₂ = (answer₂, after₂)) :
    (Adjusts now₁ before after₁ → ¬ Adjusts now₂ between after₂) ∧
    (∀ result, answer₁ = .ok result →
      (second.operationId = first.operationId → second.finalCharge = first.finalCharge →
        ((∃ record, recordIn (after₁.bucketAt first.reservation.key)
            first.reservation.requestId = some record ∧ now₂.mono < record.retainUntil) ∨
          Retained first.reservation.key first.reservation.requestId after₁
            (middle ++ [⟨.settlement second, now₂⟩])) →
        answer₂ = .ok ⟨.replayed, result.snapshot⟩) ∧
      (second.operationId ≠ first.operationId ∨ second.finalCharge ≠ first.finalCharge →
        ∃ e, answer₂ = .error e)) ∧
    ((∀ window, liveWindow now₁.mono (before.bucketAt first.reservation.key) = some window →
      window.identity ≠ first.reservation.window) → ¬ Adjusts now₁ before after₁) ∧
    (∀ e, answer₁ = .error e → ¬ Adjusts now₁ before after₁ ∧
      (∀ key requestId, recordIn (after₁.bucketAt key) requestId =
          recordIn (before.bucketAt key) requestId ∨
        recordIn (after₁.bucketAt key) requestId = none ∧
          ∃ record, recordIn (before.bucketAt key) requestId = some record ∧
            record.keptAt now₁.mono = false) ∧
      after₁.stats.liveReservations = before.stats.liveReservations) := by
  have hInv : StoreInv (lastTime 0 front) before :=
    hBefore ▸ storeInv_of_run hNew (List.pairwise_append.mp hClock).1
  have hOrigin : Origin (front.flatMap TimedCall.drawn) (storeSettle before first now₁).2 := by
    have h := (origin_of_run hNew front).perform ⟨.settlement first, now₁⟩
    rw [TimedCall.drawn, List.append_nil, ← hBefore] at h
    exact h
  have hAnswer₁ : (storeSettle before first now₁).1 = answer₁ := by rw [hFirst]
  have hAfter₁ : (storeSettle before first now₁).2 = after₁ := by rw [hFirst]
  have hAnswer₂ : (storeSettle between second now₂).1 = answer₂ := by rw [hSecond]
  have hAfter₂ : (storeSettle between second now₂).2 = after₂ := by rw [hSecond]
  have hSettled : ∀ result, answer₁ = .ok result →
      SettledAs second.reservation first.operationId first.finalCharge between := by
    intro result hResult
    rw [hToken, hBetween, ← hAfter₁]
    refine settledAs_runCalls hOrigin (hAnswer₁.trans hResult) fun id hDrawn hAgain => ?_
    simp only [FreshIds, List.flatMap_append, List.flatMap_cons] at hFresh
    exact (List.nodup_append.mp hFresh).2.2 _ hDrawn _
      (List.mem_append_right _ (List.mem_append_left _ hAgain)) rfl
  refine ⟨?_, ?_, ?_, ?_⟩
  · intro hAdjusts
    cases answer₁ with
    | error e =>
      have hQuiet := storeSettle_error_quiet hInv hAnswer₁
      rw [hAfter₁] at hQuiet
      exact absurd hAdjusts hQuiet.not_adjusts
    | ok result =>
      have hQuiet := (storeSettle_of_settledAs now₂ (hSettled result rfl)).1
      rw [hAfter₂] at hQuiet
      exact hQuiet.not_adjusts
  · intro result hResult
    refine ⟨fun hOperation hCharge hDeadline => ?_, fun hOther => ?_⟩
    · have hLast : Clocked (middle ++ [⟨.settlement second, now₂⟩]) :=
        (List.pairwise_cons.mp (List.pairwise_append.mp hClock).2.1).2
      have hRetained : Retained first.reservation.key first.reservation.requestId after₁
          (middle ++ [⟨.settlement second, now₂⟩]) := by
        rcases hDeadline with ⟨found, hFound, hBeforeEnd⟩ | hRetained
        · exact retained_of_deadline hFound hBeforeEnd hLast.le_last
        · exact hRetained
      rw [← hAnswer₂, hBetween, ← hAfter₁]
      exact storeSettle_replayed (hAnswer₁.trans hResult) hToken hOperation hCharge
        (hAfter₁ ▸ hRetained)
    · obtain ⟨e, hError⟩ := (storeSettle_of_settledAs now₂ (hSettled result hResult)).2
        (hOther.imp Ne.symm Ne.symm)
      exact ⟨e, hAnswer₂.symm.trans hError⟩
  · intro hOther
    have hNot := storeSettle_not_adjusts hOther
    rwa [hAfter₁] at hNot
  · intro e hError
    have hQuiet := storeSettle_error_quiet hInv (hAnswer₁.trans hError)
    have hLive := storeSettle_error_liveReservations (hAnswer₁.trans hError)
    rw [hAfter₁] at hQuiet hLive
    exact ⟨hQuiet.not_adjusts,
      fun key requestId => (hQuiet.bucket key).recordIn_eq_or requestId, hLive⟩

/-! ## A sample settlement -/

def sampleFront : List TimedCall :=
  [⟨.admission (sampleAdmission "a" 40) ⟨1, 2⟩ ⟨3, 4⟩, ⟨0, 0⟩⟩]

def sampleSettle : SettleCommand := ⟨"settle-a", sampleToken "a" 40, ⟨1, 15⟩⟩

/-- The snapshot in the answer to `sampleSettle` one nanosecond after the admission. -/
def settledSnapshot : RateLimitSnapshot where
  window := ⟨some ⟨1, 1⟩, .fixedFirstHit, 60 * SECOND, 0, 60 * SECOND, 60 * SECOND - 1⟩
  requests := some ⟨10, 1, 9⟩
  tokens := some ⟨100, 15, 85⟩

theorem sampleSettle_applied :
    (storeSettle (runCalls sampleStore sampleFront) sampleSettle ⟨1, 1⟩).1 =
      .ok ⟨.applied, some settledSnapshot⟩ := by decide

/-- The same settlement again, one nanosecond later. -/
theorem settlement_once_sample :
    (storeSettle (runCalls (storeSettle (runCalls sampleStore sampleFront) sampleSettle ⟨1, 1⟩).2
      []) sampleSettle ⟨2, 2⟩).1 = .ok ⟨.replayed, some settledSnapshot⟩ := by
  have hUntil : (recordIn ((storeSettle (runCalls sampleStore sampleFront) sampleSettle
      ⟨1, 1⟩).2.bucketAt sampleKey) "a").map AdmissionRecord.retainUntil =
        some (1260 * SECOND) := by decide
  obtain ⟨record, hRecord, hUntil⟩ := Option.map_eq_some_iff.mp hUntil
  have hBefore : 2 < record.retainUntil := by
    rw [hUntil]
    decide
  exact ((settlement_once sampleStore_new sampleFront [] sampleSettle sampleSettle ⟨1, 1⟩ ⟨2, 2⟩ rfl
    (by unfold Clocked; decide) (by unfold FreshIds; decide) rfl rfl rfl rfl).2.1 _
      sampleSettle_applied).1 rfl rfl (Or.inl ⟨record, hRecord, hBefore⟩)

/-- Once the record of a settled reservation has expired, the same settlement fails. -/
theorem second_settlement_after_deadline :
    ¬ ∀ (front middle : List TimedCall) (command : SettleCommand) (now₁ now₂ : RateLimitNow)
      (result : SettlementResult),
      Clocked (front ++ ⟨.settlement command, now₁⟩ :: (middle ++ [⟨.settlement command, now₂⟩])) →
      FreshIds (front ++ ⟨.settlement command, now₁⟩ :: (middle ++ [⟨.settlement command, now₂⟩])) →
      (storeSettle (runCalls sampleStore front) command now₁).1 = .ok result →
      ∃ snap, (storeSettle (runCalls (storeSettle (runCalls sampleStore front) command now₁).2
        middle) command now₂).1 = .ok ⟨.replayed, snap⟩ := by
  intro h
  obtain ⟨snap, hReplayed⟩ := h sampleFront [] sampleSettle ⟨1, 1⟩ ⟨1261 * SECOND, 1261 * SECOND⟩ _
    (by unfold Clocked; decide) (by unfold FreshIds; decide) sampleSettle_applied
  have hError : (storeSettle (runCalls (storeSettle (runCalls sampleStore sampleFront) sampleSettle
      ⟨1, 1⟩).2 []) sampleSettle ⟨1261 * SECOND, 1261 * SECOND⟩).1 =
        .error (.corrupt "reservation bucket no longer exists") := by decide
  rw [hError] at hReplayed
  cases hReplayed

end KongRust.RateLimit

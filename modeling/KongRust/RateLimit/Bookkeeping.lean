import KongRust.Foundation.Transaction
import KongRust.RateLimit.Client

/-!
# The memory store keeps account

The memory store with a clock that goes on from call to call. Whatever the readings of the clock
and the identifiers drawn are, its records are entries in the sense of `Accountable`: they
expire, but they are never changed behind the back of their request.
-/

namespace KongRust.RateLimit.Orchestration

open KongRust.Remote KongRust.Transaction

/-! ## The store over time -/

abbrev TimedStore := MemoryRateLimitStore × Nat

/-- The readings of the clock and the identifiers drawn, by the number of the call. -/
structure Readings where
  clock : Nat → RateLimitNow
  ids : Nat → DrawnIds
  retryIds : Nat → DrawnIds

def Readings.store (readings : Readings) : RateLimitStore TimedStore where
  callAdmit command s :=
    let result := storeAdmit s.1 command (readings.clock s.2) (readings.ids s.2)
      (readings.retryIds s.2)
    (result.1, result.2, s.2 + 1)
  callSettle command s :=
    let result := storeSettle s.1 command (readings.clock s.2)
    (result.1, result.2, s.2 + 1)
  callInspect query s :=
    let result := storeInspect s.1 query (readings.clock s.2)
    (result.1, result.2, s.2 + 1)

def SettlementRecord.payload (settlement : SettlementRecord) : Payload :=
  ⟨settlement.operationId, settlement.finalCharge⟩

def AdmissionRecord.entry (record : AdmissionRecord) : Entry :=
  ⟨record.decision, record.settlement.map SettlementRecord.payload⟩

def memoryEntry : Entries TimedStore := fun key requestId s =>
  (recordIn (s.1.bucketAt key) requestId).map AdmissionRecord.entry

/-! ## What a call does to an entry -/

def entryIn (bucket : Option BucketState) (requestId : String) : Option Entry :=
  (recordIn bucket requestId).map AdmissionRecord.entry

theorem Quiet.entryIn {now : Nat} {b b' : Option BucketState} (h : Quiet now b b')
    (requestId : String) :
    Forgets (Orchestration.entryIn b requestId) (Orchestration.entryIn b' requestId) := by
  unfold Orchestration.entryIn
  rcases h.recordIn_eq_or requestId with hSame | ⟨hNone, _⟩
  · exact .inl (by rw [hSame])
  · exact .inr (by rw [hNone]; rfl)

open KongRust.RateLimit.Orchestration.AdmissionRecord (entry)

variable {instanceId : Uuid} {ids : DrawnIds} {state' : BucketState} {decision : AdmissionDecision}

theorem Decides.entryIn {config : MemoryRateLimitConfig} {command : AdmitCommand}
    {now : RateLimitNow} {state : BucketState}
    (h : Decides config instanceId command now ids state decision state') :
    Orchestration.entryIn (some state') command.requestId = some ⟨decision, none⟩ ∧
      Answers decision command := by
  cases h with
  | rejected hFresh hOpened hBound =>
    refine ⟨by simp [Orchestration.entryIn, recordIn, recordOf, entry], ?_⟩
    rintro token ⟨snapshot, replayed, hDecision⟩
    cases hDecision
  | allowed hFresh hOpened hBound hRequests hTokens hRequestsFit hTokensFit hCounted =>
    refine ⟨by simp [Orchestration.entryIn, recordIn, recordOf, entry], ?_⟩
    rintro token ⟨snapshot, replayed, hDecision⟩
    cases hDecision
    exact ⟨rfl, rfl, rfl, rfl⟩

variable {answer : Except RateLimitStoreError SettlementResult}

theorem SettleEffect.entryIn {config : MemoryRateLimitConfig} {command : SettleCommand}
    {now : RateLimitNow} {state : BucketState}
    (h : SettleEffect config command now state answer state') :
    Settles command (Orchestration.entryIn (some state) command.reservation.requestId)
      (Orchestration.entryIn (some state') command.reservation.requestId) := by
  rcases h.lookup command.reservation.requestId with
    hSame | ⟨-, stored, _, _, hStored, hIssued, hOpen, -, hSettled⟩
  · exact .forgets (.inl (congrArg (Option.map entry) hSame))
  · have hAfter := congrArg (Option.map entry) hSettled
    change Orchestration.entryIn (some state') command.reservation.requestId = _ at hAfter
    rw [hAfter]
    refine .enters ?_ hIssued
    simp [Orchestration.entryIn, recordIn, hStored, entry, hOpen, settledRecord]

variable {command : SettleCommand} {record : AdmissionRecord} {config : MemoryRateLimitConfig}
  {now : RateLimitNow} {state : BucketState} {stats : RateLimitStoreStats}

theorem Settles.forgets_before {a b c : Option Entry}
    (hForgets : Forgets a b) (h : Settles command b c) : Settles command a c := by
  rcases hForgets with rfl | rfl
  · exact h
  · cases h with
    | forgets hForgets' => exact .forgets ((Forgets.trans (.inr rfl) hForgets'))
    | enters hEntry => cases hEntry

theorem storeAdmit_entry (store : MemoryRateLimitStore) (command : AdmitCommand)
    (now : RateLimitNow) (ids retryIds : DrawnIds) :
    Admits command (entryIn (store.bucketAt command.key) command.requestId)
      (entryIn ((storeAdmit store command now ids retryIds).2.bucketAt command.key)
        command.requestId) := by
  have hCases := storeAdmit_cases store command now ids retryIds
  generalize storeAdmit store command now ids retryIds = result at hCases ⊢
  obtain ⟨answer, store'⟩ := result
  dsimp only at hCases ⊢
  cases hCases with
  | failed hQuiet | replayed _ _ hQuiet => exact .forgets (Quiet.entryIn (hQuiet.bucket _) _)
  | decided _ hOn hDecides =>
    obtain ⟨hEntry, hAnswers⟩ := Decides.entryIn hDecides
    rw [hOn.after, hEntry]
    exact .enters hAnswers

theorem storeSettle_entry (store : MemoryRateLimitStore) (command : SettleCommand)
    (now : RateLimitNow) :
    Settles command (entryIn (store.bucketAt command.reservation.key) command.reservation.requestId)
      (entryIn ((storeSettle store command now).2.bucketAt command.reservation.key)
        command.reservation.requestId) := by
  have hCases := storeSettle_cases store command now
  generalize storeSettle store command now = result at hCases ⊢
  obtain ⟨answer, store'⟩ := result
  dsimp only at hCases ⊢
  cases hCases with
  | failed hQuiet => exact .forgets (Quiet.entryIn (hQuiet.bucket _) _)
  | acted hOn hEffect =>
    rw [hOn.after]
    exact (SettleEffect.entryIn hEffect).forgets_before (Quiet.entryIn hOn.before _)

theorem charged_entry {token : ReservationEnvelope} (hIssued : record.Issued token) :
    charged token (some (entry record)) = record.settlement.map SettlementRecord.payload :=
  charged_of_grants hIssued _

/-! ## Other requests -/

def Foreign (requestId : String) : TimedCall → Prop
  | ⟨.admission command _ _, _⟩ => command.requestId ≠ requestId
  | ⟨.settlement command, _⟩ => command.reservation.requestId ≠ requestId
  | ⟨.inspection _, _⟩ => True
  | ⟨.cleanup, _⟩ => True

instance (requestId : String) : DecidablePred (Foreign requestId)
  | ⟨.admission command _ _, _⟩ => inferInstanceAs (Decidable (command.requestId ≠ requestId))
  | ⟨.settlement command, _⟩ =>
    inferInstanceAs (Decidable (command.reservation.requestId ≠ requestId))
  | ⟨.inspection _, _⟩ => .isTrue trivial
  | ⟨.cleanup, _⟩ => .isTrue trivial

theorem Decides.entryIn_ne {config : MemoryRateLimitConfig} {command : AdmitCommand}
    {now : RateLimitNow} {state : BucketState}
    (h : Decides config instanceId command now ids state decision state') {requestId : String}
    (hOther : command.requestId ≠ requestId) :
    Orchestration.entryIn (some state') requestId =
      Orchestration.entryIn (some state) requestId := by
  cases h with
  | rejected _ hOpened _ | allowed _ hOpened _ _ _ _ _ _ =>
    simp [Orchestration.entryIn, recordIn, AList.lookup_insert_ne hOther.symm,
      hOpened.admissions_eq]

theorem SettleEffect.entryIn_ne {config : MemoryRateLimitConfig} {command : SettleCommand}
    {now : RateLimitNow} {state : BucketState}
    (h : SettleEffect config command now state answer state') {requestId : String}
    (hOther : command.reservation.requestId ≠ requestId) :
    Orchestration.entryIn (some state') requestId =
      Orchestration.entryIn (some state) requestId := by
  rcases h.lookup requestId with hSame | ⟨hId, -⟩
  · exact congrArg (Option.map entry) hSame
  · exact absurd hId.symm hOther

theorem perform_forgets (store : MemoryRateLimitStore) {timed : TimedCall} {requestId : String}
    (hForeign : Foreign requestId timed) (key : RateLimitKey) :
    Forgets (entryIn (store.bucketAt key) requestId)
      (entryIn ((perform store timed).2.bucketAt key) requestId) := by
  have hEffect := (perform_effect store timed).2.2 key
  generalize (perform store timed).2.bucketAt key = bucket' at hEffect ⊢
  obtain ⟨call, now⟩ := timed
  cases hEffect with
  | quiet hQuiet => exact Quiet.entryIn hQuiet requestId
  | decided hCall _ _ hBefore _ hDecides =>
    subst hCall
    rw [Decides.entryIn_ne hDecides hForeign]
    exact Quiet.entryIn hBefore requestId
  | settled hCall _ hBefore _ hEffect =>
    subst hCall
    rw [SettleEffect.entryIn_ne hEffect hForeign]
    exact Quiet.entryIn hBefore requestId

theorem runCalls_forgets {requestId : String} {calls : List TimedCall}
    (hForeign : ∀ timed ∈ calls, Foreign requestId timed) (store : MemoryRateLimitStore)
    (key : RateLimitKey) :
    Forgets (entryIn (store.bucketAt key) requestId)
      (entryIn ((runCalls store calls).bucketAt key) requestId) := by
  induction calls generalizing store with
  | nil => exact .refl _
  | cons timed calls ih =>
    have hFirst := perform_forgets store (hForeign timed List.mem_cons_self) key
    exact hFirst.trans (ih (fun other hOther => hForeign other (List.mem_cons_of_mem _ hOther)) _)

/-! ## Conflicts -/

def Unopposed (error : RateLimitStoreError) : Prop := error ≠ settlementConflict

@[simp] theorem unopposed_corrupt {message : String} :
    Unopposed (.corrupt message) ↔ message ≠ "settlement idempotency payload conflict" := by
  simp [Unopposed, settlementConflict, RateLimitStoreError.corrupt]

variable {envelope : ReservationEnvelope} {result : SettlementResult} {requestId : String}

theorem raises_validateEnvelope : Raises (validateEnvelope instanceId envelope) Unopposed := by
  simp [validateEnvelope, validateKey]

theorem raises_adjustedCount {current reserved finalCharge : Nat} {enabled : Bool}
    {error : String} (hError : error ≠ "settlement idempotency payload conflict") :
    Raises (adjustedCount current reserved finalCharge enabled error) Unopposed := by
  unfold adjustedCount
  split
  · exact raises_ok
  · split
    · exact raises_error.mpr (unopposed_corrupt.mpr hError)
    · exact raises_ok

theorem raises_settledWindow {window : WindowState} :
    Raises (settledWindow window command) Unopposed := by
  simp [settledWindow, raises_adjustedCount]

theorem raises_recordSettlement :
    Raises (recordSettlement config command now record result state stats).1 Unopposed := by
  unfold recordSettlement
  split
  · simp
  · exact raises_ok

theorem raises_settleRecord :
    Raises (settleRecord config command now record state stats).1 Unopposed := by
  unfold settleRecord
  split
  · split
    · rename_i e hWindow
      exact raises_error.mpr (raises_settledWindow e hWindow)
    · exact raises_recordSettlement
  · exact raises_recordSettlement

theorem raises_admittedRecord : Raises (admittedRecord state envelope) Unopposed := by
  unfold admittedRecord
  split
  · exact raises_ok
  · split
    · simp
    · simp

theorem settleLocked_conflict
    (h : (settleLocked config command now state stats).1 = .error settlementConflict) :
    ∃ record settlement, state.admissions.lookup command.reservation.requestId = some record ∧
        record.Issued command.reservation ∧ record.settlement = some settlement ∧
          SettlementRecord.payload settlement ≠ SettleCommand.payload command := by
  unfold settleLocked at h
  split at h
  · rename_i e hAdmitted
    exact absurd (Except.error.inj h) (raises_admittedRecord e hAdmitted)
  · have hOther : Unopposed (.corrupt "reservation admission not found") := by simp
    exact absurd (Except.error.inj h) hOther
  · rename_i record hAdmitted
    obtain ⟨hRecord, hIssued⟩ := admittedRecord_eq_some hAdmitted
    split at h
    · rename_i settlement hSettlement
      split at h
      · rename_i hDiffers
        refine ⟨record, settlement, hRecord, hIssued, hSettlement, fun hSame => ?_⟩
        obtain ⟨hOperation, hCharge⟩ := Payload.mk.inj hSame
        rcases hDiffers with hOther | hOther
        · exact hOther hOperation
        · exact hOther hCharge
      · cases h
    · exact absurd rfl (raises_settleRecord _ h)

theorem storeSettle_conflict {store : MemoryRateLimitStore}
    (h : (storeSettle store command now).1 = .error settlementConflict) :
    ∃ other, charged command.reservation
        (entryIn (store.bucketAt command.reservation.key) command.reservation.requestId) =
          some other ∧ other ≠ SettleCommand.payload command := by
  unfold storeSettle settleInner at h
  split at h
  · have hOther : Unopposed (.corrupt "settlement operation id must not be empty") := by simp
    exact absurd (Except.error.inj h) hOther
  · split at h
    · rename_i e hEnvelope
      exact absurd (Except.error.inj h) (raises_validateEnvelope e hEnvelope)
    · split at h
      · have hOther : Unopposed (.corrupt "reservation bucket no longer exists") := by simp
        exact absurd (Except.error.inj h) hOther
      · rename_i cell hCell
        obtain ⟨state, stats, hAnswer, hOn⟩ := withBucket_onBucket hCell now
          (settleLocked (maybeCleanup now store).config command now)
        obtain ⟨record, settlement, hRecord, hIssued, hSettlement, hDiffers⟩ :=
          settleLocked_conflict (hAnswer.symm.trans h)
        have hQuiet : Quiet now.mono (store.bucketAt command.reservation.key) (some state) :=
          ((maybeCleanup_quiet now store).bucket _).trans hOn.before
        have hBefore : recordIn (store.bucketAt command.reservation.key)
            command.reservation.requestId = some record := hQuiet.recordIn_of hRecord
        refine ⟨_, ?_, hDiffers⟩
        rw [entryIn, hBefore, Option.map_some, charged_entry hIssued, hSettlement, Option.map_some]

/-! ## The contract -/

theorem entryIn_of_keptRecord {now : Nat} {bucket : Option BucketState}
    (h : keptRecord now bucket requestId = some record) :
    entryIn bucket requestId = some (entry record) := by
  rw [entryIn, (keptRecord_eq_some.mp h).1, Option.map_some]

theorem issued_of_settlementOn {reservation : ReservationEnvelope} {operationId : String}
    (h : settlementOn reservation operationId record = some result) :
    ∃ settlement, record.Issued reservation ∧ record.settlement = some settlement ∧
      settlement.operationId = operationId := by
  unfold settlementOn at h
  split at h
  · rename_i token snapshot replayed hDecision
    split at h
    · rename_i hToken
      subst hToken
      obtain ⟨settlement, hFilter, _⟩ := Option.map_eq_some_iff.mp h
      obtain ⟨hSettlement, hOperation⟩ := Option.filter_eq_some_iff.mp hFilter
      exact ⟨settlement, ⟨snapshot, replayed, hDecision⟩, hSettlement, of_decide_eq_true hOperation⟩
    · cases h
  · cases h

theorem memory_accountable (readings : Readings) :
    Accountable readings.store memoryEntry where
  admits command s := storeAdmit_entry _ _ _ _ _
  decision command s told hTold := by
    obtain ⟨record, hRecord, _, hDecision⟩ := recordIn_of_storeAdmit (Prod.ext hTold rfl)
    exact ⟨_, Option.map_eq_some_iff.mpr ⟨record, hRecord, rfl⟩, hDecision.symm⟩
  settles command s := storeSettle_entry _ _ _
  settled command s told hTold := by
    obtain ⟨record, settlement, hRecord, hIssued, hSettlement, hOperation, hCharge, _⟩ :=
      recordIn_of_storeSettle hTold
    have hEntry : memoryEntry command.reservation.key command.reservation.requestId
        (readings.store.callSettle command s).2 = some (entry record) :=
      Option.map_eq_some_iff.mpr ⟨record, hRecord, rfl⟩
    rw [hEntry, charged_entry hIssued, hSettlement, Option.map_some, SettlementRecord.payload,
      hOperation, hCharge]
    rfl
  conflict command s hConflict := storeSettle_conflict hConflict
  inspects query s key requestId := Quiet.entryIn ((storeInspect_quiet _ _ _).bucket key) requestId
  admission key requestId s told hTold := by
    obtain ⟨record, hRecord, hSame⟩ := memory_admission_recorded hTold
    exact ⟨_, entryIn_of_keptRecord hRecord, hSame⟩
  settlement reservation operationId s told hTold := by
    obtain ⟨record, recorded, hRecord, hOn, _⟩ := memory_settlement_recorded hTold
    obtain ⟨settlement, hIssued, hSettlement, hOperation⟩ := issued_of_settlementOn hOn
    have hEntry : memoryEntry reservation.key reservation.requestId
        (readings.store.callInspect (.settlement reservation operationId) s).2 =
          some (entry record) := entryIn_of_keptRecord hRecord
    refine ⟨settlement.finalCharge, ?_⟩
    rw [hEntry, charged_entry hIssued, hSettlement, Option.map_some, SettlementRecord.payload,
      hOperation]

def memoryLink (calls : Nat → List TimedCall) (delivery : Nat → Delivery) :
    Link TimedStore RateLimitStoreError where
  delivery := delivery
  others n s := (runCalls s.1 (calls n), s.2)
  lost _ := ⟨.outcomeUnknown, "connection closed"⟩

theorem memoryLink_leaves {calls : Nat → List TimedCall} {delivery : Nat → Delivery}
    (hForeign : ∀ n, ∀ timed ∈ calls n, Foreign requestId timed) :
    Leaves (memoryLink calls delivery) memoryEntry requestId :=
  fun n s key => runCalls_forgets (hForeign n) s.1 key

end KongRust.RateLimit.Orchestration

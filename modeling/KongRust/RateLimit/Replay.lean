import KongRust.RateLimit.Admission

/-!
# Replayed admissions

A record stays as it was decided until its deadline, whatever calls come in between; only its
settlement may be added and its deadline put off. An admission that finds its record answers
from it and changes no window.
-/

namespace KongRust.RateLimit

/-! ## Records persist -/

/-- The same admission later on: a settlement stays, and the deadline is not earlier. -/
structure SameAdmission (record record' : AdmissionRecord) : Prop where
  fingerprint : record'.fingerprint = record.fingerprint
  decision : record'.decision = record.decision
  settlement : ∀ settlement, record.settlement = some settlement →
    record'.settlement = some settlement
  retainUntil : record.retainUntil ≤ record'.retainUntil

theorem SameAdmission.refl (record : AdmissionRecord) : SameAdmission record record :=
  ⟨rfl, rfl, fun _ h => h, le_rfl⟩

theorem SameAdmission.trans {a b c : AdmissionRecord} (hab : SameAdmission a b)
    (hbc : SameAdmission b c) : SameAdmission a c :=
  ⟨hbc.fingerprint.trans hab.fingerprint, hbc.decision.trans hab.decision,
    fun settlement h => hbc.settlement settlement (hab.settlement settlement h),
    hab.retainUntil.trans hbc.retainUntil⟩

variable {record : AdmissionRecord} {now : Nat} {requestId : String} {store : MemoryRateLimitStore}
  {command : AdmitCommand}

theorem sameAdmission_settledRecord (hOpen : record.settlement = none) (command : SettleCommand)
    (result : SettlementResult) (retryUntil : Nat) :
    SameAdmission record (settledRecord record command result retryUntil) := by
  refine ⟨rfl, rfl, fun settlement hSettlement => ?_, le_max_left _ _⟩
  rw [hOpen] at hSettlement
  cases hSettlement

theorem Quiet.recordIn_eq {b b' : Option BucketState} (h : Quiet now b b')
    (hRecord : recordIn b requestId = some record) (hKept : record.keptAt now) :
    recordIn b' requestId = some record := by
  rcases h.recordIn_eq_or requestId with hSame | ⟨_, dropped, hDropped, hExpired⟩
  · rw [hSame, hRecord]
  · obtain rfl := Option.mem_unique hRecord hDropped
    rw [hKept] at hExpired
    cases hExpired

variable {config : MemoryRateLimitConfig} {ids : DrawnIds} {state state' : BucketState}
  {decision : AdmissionDecision}

theorem Decides.lookup_eq {instanceId : Uuid} {command : AdmitCommand} {now : RateLimitNow}
    (h : Decides config instanceId command now ids state decision state') {requestId : String}
    {record : AdmissionRecord} (hRecord : state.admissions.lookup requestId = some record) :
    state'.admissions.lookup requestId = some record := by
  have hOther : state.admissions.lookup command.requestId = none → requestId ≠ command.requestId := by
    rintro hFresh rfl
    rw [hFresh] at hRecord
    cases hRecord
  cases h with
  | rejected hFresh hOpened _ | allowed hFresh hOpened _ _ _ _ _ _ =>
    exact (AList.lookup_insert_ne (hOther hFresh)).trans (hOpened.admissions_eq ▸ hRecord)

theorem keptAt_settledRecord {command : SettleCommand} {result : SettlementResult}
    {retryUntil : Nat} (h : now < retryUntil) :
    (settledRecord record command result retryUntil).keptAt now := by
  have hUntil : now < max record.retainUntil retryUntil := h.trans_le (le_max_right _ _)
  rw [AdmissionRecord.keptAt, Bool.or_eq_true]
  exact .inr (decide_eq_true hUntil)

theorem SettleEffect.lookup_same {command : SettleCommand} {now : RateLimitNow}
    {answer : Except RateLimitStoreError SettlementResult}
    (h : SettleEffect config command now state answer state') {requestId : String}
    {record : AdmissionRecord} (hRecord : state.admissions.lookup requestId = some record)
    (hKept : record.keptAt now.mono) :
    ∃ record', state'.admissions.lookup requestId = some record' ∧ SameAdmission record record' ∧
      (0 < config.settlementRetryGrace → record'.keptAt now.mono) := by
  rcases h.lookup requestId with hSame | ⟨-, stored, _, _, hStored, -, hOpen, hRetry, hSettled⟩
  · exact ⟨record, hSame.trans hRecord, .refl record, fun _ => hKept⟩
  · obtain rfl := Option.mem_unique hRecord hStored
    obtain ⟨_, rfl⟩ := Machine.checkedAdd_eq_some.mp hRetry
    exact ⟨_, hSettled, sameAdmission_settledRecord hOpen _ _ _,
      fun hGrace => keptAt_settledRecord (by omega)⟩

variable {key : RateLimitKey}

section

variable {timed : TimedCall} (hRecord : recordIn (store.bucketAt key) requestId = some record)
  (hKept : record.keptAt timed.now.mono)
include hRecord hKept

theorem perform_retains : ∃ record',
    recordIn ((perform store timed).2.bucketAt key) requestId = some record' ∧
      SameAdmission record record' ∧
      (0 < store.config.settlementRetryGrace → record'.keptAt timed.now.mono) := by
  have hEffect := (perform_effect store timed).2.2 key
  generalize (perform store timed).2.bucketAt key = bucket' at hEffect ⊢
  cases hEffect with
  | quiet hQuiet => exact ⟨record, hQuiet.recordIn_eq hRecord hKept, .refl record, fun _ => hKept⟩
  | decided _ _ _ hQuiet _ hDecides =>
    have hLookup := hDecides.lookup_eq (hQuiet.recordIn_eq hRecord hKept)
    exact ⟨record, hLookup, .refl record, fun _ => hKept⟩
  | settled _ _ hQuiet _ hEffect =>
    exact hEffect.lookup_same (hQuiet.recordIn_eq hRecord hKept) hKept

theorem perform_keeps : ∃ record',
    recordIn ((perform store timed).2.bucketAt key) requestId = some record' ∧
      SameAdmission record record' := by
  obtain ⟨record', hRecord', hSame, -⟩ := perform_retains hRecord hKept
  exact ⟨record', hRecord', hSame⟩

end

/-- At every call of the sequence the record of the request is there and not expired. -/
def Retained (key : RateLimitKey) (requestId : String) :
    MemoryRateLimitStore → List TimedCall → Prop
  | _, [] => True
  | store, timed :: calls =>
    (∃ record, recordIn (store.bucketAt key) requestId = some record ∧
      record.keptAt timed.now.mono) ∧ Retained key requestId (perform store timed).2 calls

variable {calls : List TimedCall}

section

variable {store : MemoryRateLimitStore} {requestId : String} {record : AdmissionRecord}
  (hRecord : recordIn (store.bucketAt key) requestId = some record)
include hRecord

theorem retained_of_deadline {time : Nat} (hDeadline : time < record.retainUntil)
    (hTimes : ∀ timed ∈ calls, timed.now.mono ≤ time) : Retained key requestId store calls := by
  induction calls generalizing store record with
  | nil => trivial
  | cons timed calls ih =>
    have hTime := hTimes timed List.mem_cons_self
    have hKept : record.keptAt timed.now.mono := by
      simp only [AdmissionRecord.keptAt, Bool.or_eq_true, decide_eq_true_eq]
      exact Or.inr (by omega)
    obtain ⟨record', hRecord', hSame⟩ := perform_keeps hRecord hKept
    exact ⟨⟨record, hRecord, hKept⟩, ih hRecord' (hDeadline.trans_le hSame.retainUntil)
      fun other hOther => hTimes other (List.mem_cons_of_mem _ hOther)⟩

theorem runCalls_keeps {last : TimedCall}
    (hRetained : Retained key requestId store (calls ++ [last])) :
    ∃ record', recordIn ((runCalls store calls).bucketAt key) requestId = some record' ∧
      record'.keptAt last.now.mono ∧ SameAdmission record record' := by
  induction calls generalizing store record with
  | nil =>
    obtain ⟨⟨found, hFound, hKept⟩, _⟩ := hRetained
    obtain rfl := Option.mem_unique hRecord hFound
    exact ⟨record, hRecord, hKept, .refl record⟩
  | cons timed calls ih =>
    obtain ⟨⟨found, hFound, hKept⟩, hRest⟩ := hRetained
    obtain rfl := Option.mem_unique hRecord hFound
    obtain ⟨next, hNext, hSame⟩ := perform_keeps hRecord hKept
    obtain ⟨record', hRecord', hKept', hSame'⟩ := ih hNext hRest
    exact ⟨record', hRecord', hKept', hSame.trans hSame'⟩

end

/-! ## Answers from a record -/

variable {store' : MemoryRateLimitStore} {retryIds : DrawnIds}

theorem recordIn_of_storeAdmit {store : MemoryRateLimitStore} {command : AdmitCommand}
    {now : RateLimitNow} (h : storeAdmit store command now ids retryIds = (.ok decision, store')) :
    ∃ record, recordIn (store'.bucketAt command.key) command.requestId = some record ∧
      record.fingerprint = command.fingerprint ∧
      record.decision.asReplayed = decision.asReplayed := by
  have hCases := storeAdmit_cases store command now ids retryIds
  rw [h] at hCases
  dsimp only at hCases
  generalize hAnswer : (Except.ok decision : Except RateLimitStoreError AdmissionDecision) = answer
    at hCases
  cases hCases with
  | failed => cases hAnswer
  | @replayed record _ hRecord hPayload hQuiet =>
    obtain rfl := Except.ok.inj hAnswer
    obtain ⟨hRecord, hKept⟩ := Option.filter_eq_some_iff.mp hRecord
    exact ⟨record, (hQuiet.bucket command.key).recordIn_eq hRecord hKept, hPayload, by simp⟩
  | decided _ hOn hDecides =>
    obtain rfl := Except.ok.inj hAnswer
    rw [hOn.after]
    cases hDecides with
    | rejected | allowed => exact ⟨_, AList.lookup_insert _, rfl, rfl⟩

theorem bucketAt_ne_none_of_keptRecord
    (h : keptRecord now (store.bucketAt key) requestId = some record) :
    store.bucketAt key ≠ none := by
  intro hNone
  simp [keptRecord, recordIn, hNone] at h

/-- An admission with the payload of its record answers with the recorded decision. -/
theorem storeAdmit_of_keptRecord {now : RateLimitNow} (ids retryIds : DrawnIds)
    (hValid : validateAdmit command = .ok ())
    (hRecord : keptRecord now.mono (store.bucketAt command.key) command.requestId = some record)
    (hPayload : record.fingerprint = command.fingerprint) :
    (storeAdmit store command now ids retryIds).1 = .ok record.decision.asReplayed := by
  have hClean := maybeCleanup_quiet now store
  rw [← (hClean.bucket command.key).keptRecord_eq] at hRecord
  unfold storeAdmit
  rw [hValid]
  dsimp only
  rcases admitOnce_cases (maybeCleanup now store) command now ids with
    ⟨hNone, _⟩ | ⟨state, state', hOn, hEffect⟩
  · exact absurd hNone (bucketAt_ne_none_of_keptRecord hRecord)
  · rw [hOn.keptRecord_eq] at hRecord
    generalize admitOnce (maybeCleanup now store) command now ids = attempt at hEffect ⊢
    obtain ⟨answer, store'⟩ := attempt
    dsimp only at hEffect
    cases hEffect with
    | conflict hFound hOther =>
      obtain rfl := Option.mem_unique hRecord hFound
      exact absurd hPayload hOther
    | replayed hFound _ =>
      obtain rfl := Option.mem_unique hRecord hFound
      rfl
    | failed hFresh | capacity hFresh => rw [hRecord] at hFresh; cases hFresh
    | decided hDecides =>
      have hFresh : state.admissions.lookup command.requestId = none := by
        cases hDecides <;> assumption
      rw [hRecord] at hFresh
      cases hFresh

theorem storeAdmit_quiet_of_keptRecord {store : MemoryRateLimitStore} {command : AdmitCommand}
    {now : RateLimitNow} (ids retryIds : DrawnIds) {record : AdmissionRecord}
    (hRecord : keptRecord now.mono (store.bucketAt command.key) command.requestId = some record) :
    StoreQuiet now.mono store (storeAdmit store command now ids retryIds).2 ∧
      (record.fingerprint ≠ command.fingerprint →
        ∃ e, (storeAdmit store command now ids retryIds).1 = .error e) := by
  have hCases := storeAdmit_cases store command now ids retryIds
  generalize storeAdmit store command now ids retryIds = result at hCases ⊢
  obtain ⟨answer, store'⟩ := result
  dsimp only at hCases ⊢
  cases hCases with
  | @failed e _ hQuiet => exact ⟨hQuiet, fun _ => ⟨e, rfl⟩⟩
  | replayed hFound hPayload hQuiet =>
    obtain rfl := Option.mem_unique hRecord hFound
    exact ⟨hQuiet, fun hOther => absurd hPayload hOther⟩
  | @decided drawn state state' decision _ _ hOn hDecides =>
    rw [hOn.keptRecord_eq] at hRecord
    have hFresh : state.admissions.lookup command.requestId = none := by
      cases hDecides <;> assumption
    rw [hRecord] at hFresh
    cases hFresh

theorem validateAdmit_of_storeAdmit {now : RateLimitNow}
    (h : storeAdmit store command now ids retryIds = (.ok decision, store')) :
    validateAdmit command = .ok () := by
  unfold storeAdmit at h
  split at h
  · cases h
  · assumption

/-- **Idempotent admission.** An admission was answered. After any further calls, an admission
of the same request before the deadline of its record answers, for the same payload, with the
same decision marked as replayed, and fails for another payload; both leave every window as
it is. The deadline is the one on record after the first answer, or a later one: at every call
the record is still retained. -/
theorem admission_idempotent {store store₁ : MemoryRateLimitStore} {command : AdmitCommand}
    {now : RateLimitNow} {ids retryIds : DrawnIds} {decision : AdmissionDecision}
    (hAdmit : storeAdmit store command now ids retryIds = (.ok decision, store₁))
    (calls : List TimedCall) (again : AdmitCommand) (now' : RateLimitNow)
    (ids' retryIds' : DrawnIds) (hKey : again.key = command.key)
    (hId : again.requestId = command.requestId)
    (hDeadline : (∃ record, recordIn (store₁.bucketAt command.key) command.requestId = some record ∧
        now'.mono < record.retainUntil ∧ ∀ timed ∈ calls, timed.now.mono ≤ now'.mono) ∨
      Retained command.key command.requestId store₁
        (calls ++ [⟨.admission again ids' retryIds', now'⟩])) :
    (again.fingerprint = command.fingerprint →
      (storeAdmit (runCalls store₁ calls) again now' ids' retryIds').1 = .ok decision.asReplayed) ∧
    (again.fingerprint ≠ command.fingerprint →
      ∃ e, (storeAdmit (runCalls store₁ calls) again now' ids' retryIds').1 = .error e) ∧
    ∀ key, liveWindow now'.mono
        ((storeAdmit (runCalls store₁ calls) again now' ids' retryIds').2.bucketAt key) =
      liveWindow now'.mono ((runCalls store₁ calls).bucketAt key) := by
  obtain ⟨record, hRecord, hPayload, hDecision⟩ := recordIn_of_storeAdmit hAdmit
  have hRetained : Retained command.key command.requestId store₁
      (calls ++ [⟨.admission again ids' retryIds', now'⟩]) := by
    rcases hDeadline with ⟨found, hFound, hBefore, hTimes⟩ | hRetained
    · refine retained_of_deadline hFound hBefore ?_
      intro timed hTimed
      rcases List.mem_append.mp hTimed with hTimed | hTimed
      · exact hTimes timed hTimed
      · rw [List.mem_singleton.mp hTimed]
    · exact hRetained
  obtain ⟨record', hRecord', hKept', hSame⟩ := runCalls_keeps hRecord hRetained
  have hKeptRecord : keptRecord now'.mono ((runCalls store₁ calls).bucketAt again.key)
      again.requestId = some record' := by
    rw [hKey, hId]
    exact Option.filter_eq_some_iff.mpr ⟨hRecord', hKept'⟩
  have hPayload' : record'.fingerprint = command.fingerprint := hSame.fingerprint.trans hPayload
  obtain ⟨hQuiet, hConflict⟩ := storeAdmit_quiet_of_keptRecord ids' retryIds' hKeptRecord
  refine ⟨fun hPayloads => ?_, fun hPayloads => ?_, fun key => (hQuiet.bucket key).liveWindow_eq⟩
  · have hValid : validateAdmit again = .ok () := by
      have hWindow : again.window = command.window := congrArg AdmitFingerprint.window hPayloads
      have hValid := validateAdmit_of_storeAdmit hAdmit
      unfold validateAdmit at hValid ⊢
      rwa [hKey, hId, hWindow]
    rw [storeAdmit_of_keptRecord ids' retryIds' hValid hKeptRecord (hPayload'.trans hPayloads.symm),
      hSame.decision, hDecision]
  · exact hConflict fun hEq => hPayloads (hEq.symm.trans hPayload')

/-- The first admission of the sample run, again after its settlement. -/
theorem admission_idempotent_sample :
    (storeAdmit (runCalls (storeAdmit sampleStore (sampleAdmission "a" 40) ⟨0, 0⟩ ⟨1, 2⟩
      ⟨3, 4⟩).2 sampleCalls.tail) (sampleAdmission "a" 40) ⟨3, 3⟩ ⟨9, 10⟩ ⟨11, 12⟩).1 =
      .ok (.allowed (sampleToken "a" 40) sampleSnapshot true) := by
  have hFirst : (storeAdmit sampleStore (sampleAdmission "a" 40) ⟨0, 0⟩ ⟨1, 2⟩ ⟨3, 4⟩).1 =
      .ok (.allowed (sampleToken "a" 40) sampleSnapshot false) := by decide
  have hUntil : (recordIn ((storeAdmit sampleStore (sampleAdmission "a" 40) ⟨0, 0⟩ ⟨1, 2⟩
      ⟨3, 4⟩).2.bucketAt sampleKey) "a").map AdmissionRecord.retainUntil =
        some (1260 * SECOND) := by decide
  obtain ⟨record, hRecord, hUntil⟩ := Option.map_eq_some_iff.mp hUntil
  have hBefore : 3 < record.retainUntil := by
    rw [hUntil]
    decide
  exact (admission_idempotent (Prod.ext hFirst rfl) sampleCalls.tail (sampleAdmission "a" 40)
    ⟨3, 3⟩ ⟨9, 10⟩ ⟨11, 12⟩ rfl rfl
    (Or.inl ⟨record, hRecord, hBefore, by decide⟩)).1 rfl

end KongRust.RateLimit

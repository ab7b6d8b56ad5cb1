import KongRust.Foundation.Remote
import KongRust.RateLimit.Settlement

/-!
# Admission and settlement with recovery

`admit_with_recovery` and `settle_with_recovery`, for any store behind the `RateLimitStore`
interface and any link to it that may lose requests and answers. If the store is idempotent by
request and operation id, then the two apply their effect at most once, and what they answer
is what the store has on record. The memory store is such a store at any instant.
-/

namespace KongRust.RateLimit.Orchestration

open KongRust.Remote

/-! ## The orchestration -/

/-- The calls of the `RateLimitStore` trait. -/
structure RateLimitStore (σ : Type) where
  callAdmit : AdmitCommand → Exchange σ RateLimitStoreError AdmissionDecision
  callSettle : SettleCommand → Exchange σ RateLimitStoreError SettlementResult
  callInspect : InspectQuery → Exchange σ RateLimitStoreError InspectResult

/-- The error by which a caller learns that the outcome is not known. -/
def isUnknown (error : RateLimitStoreError) : Bool := error.kind = .outcomeUnknown

section

variable {σ : Type} (store : RateLimitStore σ) (link : Link σ RateLimitStoreError)

def inspect {α : Type} (query : InspectQuery)
    (read : InspectResult → Except RateLimitStoreError (Option α)) :
    Exchange (Session σ) RateLimitStoreError (Option α) := fun session =>
  let result := link.call (store.callInspect query) session
  (result.1.bind read, result.2)

def readAdmission : InspectResult → Except RateLimitStoreError (Option AdmissionDecision)
  | .notFound => .ok none
  | .admission decision => .ok (some decision)
  | _ => .error (.corrupt "quota admission inspect returned an incompatible result")

def inspectAdmission (command : AdmitCommand) :
    Exchange (Session σ) RateLimitStoreError (Option AdmissionDecision) :=
  inspect store link (.admission command.key command.requestId) readAdmission

def readSettlement : InspectResult → Except RateLimitStoreError (Option SettlementResult)
  | .notFound => .ok none
  | .settlement result => .ok (some result)
  | _ => .error (.corrupt "quota settlement inspect returned an incompatible result")

def inspectSettlement (command : SettleCommand) :
    Exchange (Session σ) RateLimitStoreError (Option SettlementResult) :=
  inspect store link (.settlement command.reservation command.operationId) readSettlement

def recoverAdmission (command : AdmitCommand) :
    RateLimitStoreError → Exchange (Session σ) RateLimitStoreError AdmissionDecision :=
  recover isUnknown (link.call (store.callAdmit command)) (inspectAdmission store link command)

def recoverSettlement (command : SettleCommand) :
    RateLimitStoreError → Exchange (Session σ) RateLimitStoreError SettlementResult :=
  recover isUnknown (link.call (store.callSettle command)) (inspectSettlement store link command)

def admitWithRecovery (command : AdmitCommand) :
    Exchange (Session σ) RateLimitStoreError AdmissionDecision :=
  withRecovery isUnknown (link.call (store.callAdmit command)) (recoverAdmission store link command)

def settleWithRecovery (command : SettleCommand) :
    Exchange (Session σ) RateLimitStoreError SettlementResult :=
  withRecovery isUnknown (link.call (store.callSettle command)) (recoverSettlement store link command)

end

/-! ## Idempotent stores -/

def SameDecision (told recorded : AdmissionDecision) : Prop :=
  told.asReplayed = recorded.asReplayed

def SameSettlement (told recorded : SettlementResult) : Prop :=
  told = recorded ∨ told = ⟨.replayed, recorded.snapshot⟩

/-- What a store has on record, and how often it has applied the effects. -/
structure Records (σ : Type) where
  decision : RateLimitKey → String → σ → Option AdmissionDecision
  settlement : ReservationEnvelope → String → σ → Option SettlementResult
  admitted : RateLimitKey → String → σ → Nat
  settled : ReservationEnvelope → String → σ → Nat

/-- A change of the store that undoes no decision and no settlement, and applies no effect
twice. -/
structure Respects {σ : Type} (records : Records σ) (s s' : σ) : Prop where
  decision : ∀ key requestId,
    Keeps (records.decision key requestId) (records.admitted key requestId) s s'
  settlement : ∀ reservation operationId,
    Keeps (records.settlement reservation operationId)
      (records.settled reservation operationId) s s'

/-- A store that is idempotent by request id and by operation id. -/
structure Idempotent {σ : Type} (store : RateLimitStore σ) (records : Records σ) : Prop where
  admits : ∀ command s, Respects records s (store.callAdmit command s).2 ∧
    ∀ decision, (store.callAdmit command s).1 = .ok decision → ∃ recorded,
      records.decision command.key command.requestId (store.callAdmit command s).2 = some recorded ∧
        SameDecision decision recorded
  settles : ∀ command s, Respects records s (store.callSettle command s).2 ∧
    ∀ result, (store.callSettle command s).1 = .ok result → ∃ recorded,
      records.settlement command.reservation command.operationId (store.callSettle command s).2 =
        some recorded ∧ SameSettlement result recorded
  inspects : ∀ query s, Respects records s (store.callInspect query s).2
  admission : ∀ key requestId s decision,
    (store.callInspect (.admission key requestId) s).1 = .ok (.admission decision) → ∃ recorded,
      records.decision key requestId (store.callInspect (.admission key requestId) s).2 =
        some recorded ∧ SameDecision decision recorded
  settlement : ∀ reservation operationId s result,
    (store.callInspect (.settlement reservation operationId) s).1 = .ok (.settlement result) →
      ∃ recorded, records.settlement reservation operationId
        (store.callInspect (.settlement reservation operationId) s).2 = some recorded ∧
          SameSettlement result recorded

section

variable {σ : Type} {store : RateLimitStore σ} {records : Records σ}
  {link : Link σ RateLimitStoreError}

theorem Idempotent.admit_faithful (h : Idempotent store records) (command : AdmitCommand) :
    Faithful (records.decision command.key command.requestId)
      (records.admitted command.key command.requestId) SameDecision some (store.callAdmit command) :=
  faithful_of_sound fun s => ⟨(h.admits command s).1.decision _ _, (h.admits command s).2⟩

theorem Idempotent.settle_faithful (h : Idempotent store records) (command : SettleCommand) :
    Faithful (records.settlement command.reservation command.operationId)
      (records.settled command.reservation command.operationId) SameSettlement some
      (store.callSettle command) :=
  faithful_of_sound fun s => ⟨(h.settles command s).1.settlement _ _, (h.settles command s).2⟩

def admissionView : InspectResult → Option AdmissionDecision
  | .admission decision => some decision
  | _ => none

def settlementView : InspectResult → Option SettlementResult
  | .settlement result => some result
  | _ => none

section

variable (h : Idempotent store records)
include h

theorem Idempotent.admission_faithful (key : RateLimitKey)
    (requestId : String) :
    Faithful (records.decision key requestId) (records.admitted key requestId) SameDecision
      admissionView (store.callInspect (.admission key requestId)) := by
  refine ⟨fun s => (h.inspects _ s).decision _ _, fun s answer decision hAnswer hView => ?_⟩
  cases answer with
  | admission told =>
    obtain rfl := Option.some.inj hView
    exact h.admission key requestId s told hAnswer
  | notFound | current snapshot | settlement result => cases hView

theorem Idempotent.settlement_faithful (reservation : ReservationEnvelope) (operationId : String) :
    Faithful (records.settlement reservation operationId)
      (records.settled reservation operationId) SameSettlement settlementView
      (store.callInspect (.settlement reservation operationId)) := by
  refine ⟨fun s => (h.inspects _ s).settlement _ _, fun s answer result hAnswer hView => ?_⟩
  cases answer with
  | settlement told =>
    obtain rfl := Option.some.inj hView
    exact h.settlement reservation operationId s told hAnswer
  | notFound | current snapshot | admission decision => cases hView

theorem admitWithRecovery_faithful
    (hOthers : ∀ n s, Respects records s (link.others n s)) (command : AdmitCommand) :
    Faithful (fun session => records.decision command.key command.requestId session.state)
      (fun session => records.admitted command.key command.requestId session.state) SameDecision
      some (admitWithRecovery store link command) := by
  have hKept := fun n s => (hOthers n s).decision command.key command.requestId
  refine withRecovery_faithful (Link.call_faithful (h.admit_faithful command) hKept) ?_
  refine (Link.call_faithful (h.admission_faithful _ _) hKept).read fun answer decision hRead => ?_
  cases answer with
  | admission told =>
    cases hRead
    rfl
  | notFound | current snapshot | settlement result => cases hRead

theorem settleWithRecovery_faithful
    (hOthers : ∀ n s, Respects records s (link.others n s)) (command : SettleCommand) :
    Faithful
      (fun session => records.settlement command.reservation command.operationId session.state)
      (fun session => records.settled command.reservation command.operationId session.state)
      SameSettlement some (settleWithRecovery store link command) := by
  have hKept := fun n s => (hOthers n s).settlement command.reservation command.operationId
  refine withRecovery_faithful (Link.call_faithful (h.settle_faithful command) hKept) ?_
  refine (Link.call_faithful (h.settlement_faithful _ _) hKept).read fun answer result hRead => ?_
  cases answer with
  | settlement told =>
    cases hRead
    rfl
  | notFound | current snapshot | admission decision => cases hRead

end

end

/-- **Recovery applies an effect at most once.** Over any link to an idempotent store, whatever
it loses and whatever other callers do in between: the effect of an admission or a settlement
is applied at most once, not at all if it is on record already, and an answer is what is then on
record. -/
theorem recovery_at_most_once {σ : Type} (store : RateLimitStore σ) (records : Records σ)
    (hStore : Idempotent store records) (link : Link σ RateLimitStoreError)
    (hOthers : ∀ n s, Respects records s (link.others n s)) (session : Session σ) :
    (∀ command : AdmitCommand,
      let result := admitWithRecovery store link command session
      let admitted := records.admitted command.key command.requestId
      let recorded := records.decision command.key command.requestId
      admitted result.2.state ≤ admitted session.state + 1 ∧
        (recorded session.state ≠ none → admitted result.2.state = admitted session.state) ∧
        ∀ decision, result.1 = .ok decision →
          ∃ r, recorded result.2.state = some r ∧ SameDecision decision r) ∧
    ∀ command : SettleCommand,
      let result := settleWithRecovery store link command session
      let settled := records.settled command.reservation command.operationId
      let recorded := records.settlement command.reservation command.operationId
      settled result.2.state ≤ settled session.state + 1 ∧
        (recorded session.state ≠ none → settled result.2.state = settled session.state) ∧
        ∀ told, result.1 = .ok told → ∃ r, recorded result.2.state = some r ∧
          SameSettlement told r := by
  constructor
  · intro command
    have hFaithful := admitWithRecovery_faithful hStore hOthers command
    obtain ⟨hOnce, hNever⟩ := (hFaithful.keeps session).applied_le
    exact ⟨hOnce, hNever, (hFaithful.sound session).2⟩
  · intro command
    have hFaithful := settleWithRecovery_faithful hStore hOthers command
    obtain ⟨hOnce, hNever⟩ := (hFaithful.keeps session).applied_le
    exact ⟨hOnce, hNever, (hFaithful.sound session).2⟩

/-! ## The memory store

At one instant no record expires between two calls, provided that a settled record is kept for
some time after its settlement. -/

abbrev GraceStore := { store : MemoryRateLimitStore // 0 < store.config.settlementRetryGrace }

theorem grace_perform (s : GraceStore) (timed : TimedCall) :
    0 < (perform s.1 timed).2.config.settlementRetryGrace := by
  rw [(perform_effect s.1 timed).1]
  exact s.2

/-- The memory store at one reading of the clock. -/
def memoryStore (now : RateLimitNow) (ids retryIds : DrawnIds) : RateLimitStore GraceStore where
  callAdmit command s := ((storeAdmit s.1 command now ids retryIds).1,
    ⟨_, grace_perform s ⟨.admission command ids retryIds, now⟩⟩)
  callSettle command s :=
    ((storeSettle s.1 command now).1, ⟨_, grace_perform s ⟨.settlement command, now⟩⟩)
  callInspect query s :=
    ((storeInspect s.1 query now).1, ⟨_, grace_perform s ⟨.inspection query, now⟩⟩)

/-- The settlement of a token on its record. -/
def settlementOn (reservation : ReservationEnvelope) (operationId : String)
    (record : AdmissionRecord) : Option SettlementResult :=
  match record.decision with
  | .allowed token _ _ =>
    if token = reservation then
      (record.settlement.filter fun settlement => settlement.operationId = operationId).map
        SettlementRecord.result
    else none
  | .rejected .. => none

def memoryDecision (now : RateLimitNow) (key : RateLimitKey) (requestId : String)
    (s : GraceStore) : Option AdmissionDecision :=
  (keptRecord now.mono (s.1.bucketAt key) requestId).map AdmissionRecord.decision

def memorySettlement (now : RateLimitNow) (reservation : ReservationEnvelope)
    (operationId : String) (s : GraceStore) : Option SettlementResult :=
  (keptRecord now.mono (s.1.bucketAt reservation.key) reservation.requestId).bind
    (settlementOn reservation operationId)

/-- An admission counts in its window for as long as its record is there. -/
def memoryRecords (now : RateLimitNow) : Records GraceStore where
  decision := memoryDecision now
  settlement := memorySettlement now
  admitted key requestId s := (memoryDecision now key requestId s).isSome.toNat
  settled reservation operationId s :=
    (memorySettlement now reservation operationId s).isSome.toNat

theorem keeps_of_persists {α : Type} {recorded : GraceStore → Option α} {s s' : GraceStore}
    (h : ∀ r, recorded s = some r → recorded s' = some r) :
    Keeps recorded (fun s => (recorded s).isSome.toNat) s s' := by
  constructor
  · intro r hRecorded
    have hAfter := h r hRecorded
    exact ⟨hAfter, by rw [hRecorded, hAfter]⟩
  · intro hNone
    cases hAfter : recorded s' with
    | none => exact .inl ⟨rfl, by rw [hNone]⟩
    | some r => exact .inr ⟨r, rfl, by rw [hNone]; rfl⟩

variable {record : AdmissionRecord} {result : SettlementResult} {now : Nat} {requestId : String}
  {reservation : ReservationEnvelope} {command : SettleCommand}

variable {bucket : Option BucketState} {operationId : String} {s : MemoryRateLimitStore}

theorem keptRecord_eq_some : keptRecord now bucket requestId = some record ↔
      recordIn bucket requestId = some record ∧ record.keptAt now :=
  Option.filter_eq_some_iff

variable {key : RateLimitKey}

theorem perform_kept {s : MemoryRateLimitStore} (timed : TimedCall) {requestId : String}
    {record : AdmissionRecord} (hGrace : 0 < s.config.settlementRetryGrace)
    (hRecord : keptRecord timed.now.mono (s.bucketAt key) requestId = some record) :
    ∃ record', keptRecord timed.now.mono ((perform s timed).2.bucketAt key) requestId =
      some record' ∧ SameAdmission record record' := by
  obtain ⟨hFound, hKept⟩ := keptRecord_eq_some.mp hRecord
  obtain ⟨record', hLookup, hSame, hStill⟩ := perform_retains hFound hKept
  exact ⟨record', keptRecord_eq_some.mpr ⟨hLookup, hStill hGrace⟩, hSame⟩

theorem settlementOn_same {record' : AdmissionRecord} (h : SameAdmission record record')
    (hOn : settlementOn reservation operationId record = some result) :
    settlementOn reservation operationId record' = some result := by
  unfold settlementOn at hOn ⊢
  rw [h.decision]
  split at hOn
  · split at hOn
    · rename_i hToken
      obtain ⟨settlement, hFilter, hResult⟩ := Option.map_eq_some_iff.mp hOn
      obtain ⟨hSettlement, hOperation⟩ := Option.filter_eq_some_iff.mp hFilter
      rw [if_pos hToken, h.settlement settlement hSettlement, Option.filter_some, if_pos hOperation,
        Option.map_some, hResult]
    · cases hOn
  · cases hOn

theorem memory_respects {now : RateLimitNow} (s : GraceStore) (call : Call)
    (h : 0 < (perform s.1 ⟨call, now⟩).2.config.settlementRetryGrace) :
    Respects (memoryRecords now) s ⟨(perform s.1 ⟨call, now⟩).2, h⟩ := by
  constructor
  · intro key requestId
    refine keeps_of_persists fun decision hDecision => ?_
    obtain ⟨record, hRecord, rfl⟩ := Option.map_eq_some_iff.mp hDecision
    obtain ⟨record', hRecord', hSame⟩ := perform_kept ⟨call, now⟩ s.2 hRecord
    exact Option.map_eq_some_iff.mpr ⟨record', hRecord', hSame.decision⟩
  · intro reservation operationId
    refine keeps_of_persists fun result hResult => ?_
    obtain ⟨record, hRecord, hOn⟩ := Option.bind_eq_some_iff.mp hResult
    obtain ⟨record', hRecord', hSame⟩ := perform_kept ⟨call, now⟩ s.2 hRecord
    exact Option.bind_eq_some_iff.mpr ⟨record', hRecord', settlementOn_same hSame hOn⟩

variable {decision : AdmissionDecision}

theorem memory_admit_recorded {now : RateLimitNow} {ids retryIds : DrawnIds}
    {command : AdmitCommand} {s : MemoryRateLimitStore} (hGrace : 0 < s.config.settlementRetryGrace)
    (h : (storeAdmit s command now ids retryIds).1 = .ok decision) :
    ∃ record, keptRecord now.mono ((storeAdmit s command now ids retryIds).2.bucketAt command.key)
      command.requestId = some record ∧ SameDecision decision record.decision := by
  have hCases := storeAdmit_cases s command now ids retryIds
  rw [h] at hCases
  generalize (storeAdmit s command now ids retryIds).2 = s' at hCases
  cases hCases with
  | replayed hRecord _ hQuiet =>
    exact ⟨_, ((hQuiet.bucket _).keptRecord_eq _).trans hRecord,
      AdmissionDecision.asReplayed_asReplayed _⟩
  | decided _ hOn hDecides =>
    have hRetained : ∀ window, now.mono < retentionOf s.config now window := by
      intro window
      rw [retentionOf]
      omega
    cases hDecides with
    | rejected _ _ _ =>
      have hLookup := (congrArg (recordIn · command.requestId) hOn.after).trans
        (AList.lookup_insert _)
      refine ⟨_, keptRecord_eq_some.mpr ⟨hLookup, ?_⟩, rfl⟩
      simp [recordOf, AdmissionRecord.keptAt, hRetained]
    | allowed _ _ _ _ _ _ _ _ =>
      have hLookup := (congrArg (recordIn · command.requestId) hOn.after).trans
        (AList.lookup_insert _)
      refine ⟨_, keptRecord_eq_some.mpr ⟨hLookup, ?_⟩, rfl⟩
      simp [recordOf, AdmissionRecord.keptAt, AdmissionDecision.isRejected]

theorem settlementOn_of_issued (hIssued : record.Issued reservation) {settlement : SettlementRecord}
    (hSettlement : record.settlement = some settlement) :
    settlementOn reservation settlement.operationId record = some settlement.result := by
  obtain ⟨snapshot, replayed, hDecision⟩ := hIssued
  simp [settlementOn, hDecision, hSettlement]

/-- An answered settlement is on record. -/
theorem memory_settle_recorded {now : RateLimitNow} {s : MemoryRateLimitStore}
    {result : SettlementResult} (hGrace : 0 < s.config.settlementRetryGrace)
    (h : (storeSettle s command now).1 = .ok result) :
    ∃ record recorded, keptRecord now.mono
        ((storeSettle s command now).2.bucketAt command.reservation.key)
        command.reservation.requestId = some record ∧
      settlementOn command.reservation command.operationId record = some recorded ∧
        SameSettlement result recorded := by
  have hCases := storeSettle_cases s command now
  rw [h] at hCases
  generalize (storeSettle s command now).2 = s' at hCases
  cases hCases with
  | acted hOn hEffect =>
    rename_i state state'
    have hLookup : ∀ {record}, state'.admissions.lookup command.reservation.requestId = some record →
        recordIn (s'.bucketAt command.reservation.key) command.reservation.requestId =
          some record := by
      intro record hRecord
      rw [recordIn, hOn.after]
      exact hRecord
    have hNew : ∀ {record : AdmissionRecord} {retryUntil : Nat}, record.Issued command.reservation →
        Machine.checkedAdd Machine.DURATION now.mono s.config.settlementRetryGrace =
          some retryUntil →
        state'.admissions.lookup command.reservation.requestId =
          some (settledRecord record command result retryUntil) →
        ∃ record recorded, keptRecord now.mono (s'.bucketAt command.reservation.key)
            command.reservation.requestId = some record ∧
          settlementOn command.reservation command.operationId record = some recorded ∧
            SameSettlement result recorded := by
      intro record retryUntil hIssued hRetry hStored
      obtain ⟨_, rfl⟩ := Machine.checkedAdd_eq_some.mp hRetry
      refine ⟨_, result, keptRecord_eq_some.mpr ⟨hLookup hStored, ?_⟩, ?_, .inl rfl⟩
      · exact keptAt_settledRecord (by omega)
      · exact settlementOn_of_issued (settledRecord_issued.mpr hIssued) rfl
    cases hEffect with
    | replayed hRecord hIssued hSettlement hOperation _ =>
      refine ⟨_, _, keptRecord_eq_some.mpr ⟨hLookup hRecord, hOn.purged.2 _ _ hRecord⟩,
        hOperation ▸ settlementOn_of_issued hIssued hSettlement, .inr rfl⟩
    | applied _ hIssued _ _ _ _ hRetry _ | stale _ hIssued _ _ hRetry _ =>
      exact hNew hIssued hRetry (AList.lookup_insert _)

theorem storeInspect_answer (s : MemoryRateLimitStore) (query : InspectQuery)
    (now : RateLimitNow) (result : InspectResult)
    (h : (storeInspect s query now).1 = .ok result) :
    let plan := inspectPlan (maybeCleanup now s) query now
    plan.2.2.1 = .ok result ∨ ∃ state, plan.2.2.2 state = .ok result ∧
      (storeInspect s query now).2.bucketAt plan.2.1 = some state ∧ state.PurgedAt now.mono := by
  intro plan
  revert h
  unfold storeInspect inspectInner
  dsimp only
  split
  · intro h
    cases h
  · split
    · exact fun h => .inl h
    · rename_i cell hCell
      intro h
      obtain ⟨state, stats, hAnswer, hOn⟩ := withBucket_onBucket hCell now
        fun state stats => (plan.2.2.2 state, state, stats)
      exact .inr ⟨state, hAnswer.symm.trans h, hOn.after, hOn.purged⟩

theorem keptRecord_of_purged (hBucket : bucket = some state) (hPurged : state.PurgedAt now)
    (hRecord : state.admissions.lookup requestId = some record) :
    keptRecord now bucket requestId = some record := by
  subst hBucket
  exact keptRecord_eq_some.mpr ⟨hRecord, hPurged.2 requestId record hRecord⟩

theorem memory_admission_recorded {now : RateLimitNow}
    (h : (storeInspect s (.admission key requestId) now).1 = .ok (.admission decision)) :
    ∃ record, keptRecord now.mono ((storeInspect s (.admission key requestId) now).2.bucketAt key)
      requestId = some record ∧ SameDecision decision record.decision := by
  rcases storeInspect_answer s _ now _ h with hAbsent | ⟨state, hAnswer, hBucket, hPurged⟩
  · cases hAbsent
  · simp only [inspectPlan, RateLimit.inspectAdmission] at hAnswer
    split at hAnswer
    · rename_i record hRecord
      obtain rfl := InspectResult.admission.inj (Except.ok.inj hAnswer)
      exact ⟨record, keptRecord_of_purged hBucket hPurged hRecord,
        AdmissionDecision.asReplayed_asReplayed _⟩
    · cases hAnswer

theorem memory_settlement_recorded {now : RateLimitNow}
    (h : (storeInspect s (.settlement reservation operationId) now).1 = .ok (.settlement result)) :
    ∃ record recorded, keptRecord now.mono
        ((storeInspect s (.settlement reservation operationId) now).2.bucketAt reservation.key)
        reservation.requestId = some record ∧
      settlementOn reservation operationId record = some recorded ∧
        SameSettlement result recorded := by
  rcases storeInspect_answer s _ now _ h with hAbsent | ⟨state, hAnswer, hBucket, hPurged⟩
  · cases hAbsent
  · simp only [inspectPlan, RateLimit.inspectSettlement, bind, Except.bind] at hAnswer
    split at hAnswer
    · cases hAnswer
    · rename_i found hFound
      split at hAnswer
      · cases hAnswer
      · rename_i record
        obtain ⟨hRecord, hIssued⟩ := admittedRecord_eq_some hFound
        split at hAnswer
        · rename_i settlement hSettlement
          split at hAnswer
          · rename_i hOperation
            obtain rfl := InspectResult.settlement.inj (Except.ok.inj hAnswer)
            exact ⟨record, _, keptRecord_of_purged hBucket hPurged hRecord,
              hOperation ▸ settlementOn_of_issued hIssued hSettlement, .inl rfl⟩
          · cases hAnswer
        · cases hAnswer

theorem memory_idempotent (now : RateLimitNow) (ids retryIds : DrawnIds) :
    Idempotent (memoryStore now ids retryIds) (memoryRecords now) where
  admits command s := by
    refine ⟨memory_respects s (.admission command ids retryIds) _, fun decision hAnswer => ?_⟩
    obtain ⟨record, hRecord, hSame⟩ := memory_admit_recorded s.2 hAnswer
    exact ⟨record.decision, Option.map_eq_some_iff.mpr ⟨record, hRecord, rfl⟩, hSame⟩
  settles command s := by
    refine ⟨memory_respects s (.settlement command) _, fun result hAnswer => ?_⟩
    obtain ⟨record, recorded, hRecord, hOn, hSame⟩ := memory_settle_recorded s.2 hAnswer
    exact ⟨recorded, Option.bind_eq_some_iff.mpr ⟨record, hRecord, hOn⟩, hSame⟩
  inspects query s := memory_respects s (.inspection query) _
  admission key requestId s decision hAnswer := by
    obtain ⟨record, hRecord, hSame⟩ := memory_admission_recorded hAnswer
    exact ⟨record.decision, Option.map_eq_some_iff.mpr ⟨record, hRecord, rfl⟩, hSame⟩
  settlement reservation operationId s result hAnswer := by
    obtain ⟨record, recorded, hRecord, hOn, hSame⟩ := memory_settlement_recorded hAnswer
    exact ⟨recorded, Option.bind_eq_some_iff.mpr ⟨record, hRecord, hOn⟩, hSame⟩

/-- The first admission is applied and its answer lost; the question after it gets through. -/
def lossyLink : Link GraceStore RateLimitStoreError where
  delivery n := if n = 0 then .answerLost else .delivered
  others _ s := s
  lost _ := ⟨.outcomeUnknown, "connection closed"⟩

def sampleSession : Session GraceStore := ⟨⟨sampleStore, by decide⟩, 0⟩

theorem recovery_at_most_once_sample :
    let result := admitWithRecovery (memoryStore ⟨0, 0⟩ ⟨1, 2⟩ ⟨3, 4⟩) lossyLink
      (sampleAdmission "a" 40) sampleSession
    result.2.sent = 2 ∧ ∃ told recorded, result.1 = .ok told ∧
      memoryDecision ⟨0, 0⟩ sampleKey "a" result.2.state = some recorded ∧
        SameDecision told recorded := by
  have hOnce := recovery_at_most_once (memoryStore ⟨0, 0⟩ ⟨1, 2⟩ ⟨3, 4⟩) (memoryRecords ⟨0, 0⟩)
    (memory_idempotent _ _ _) lossyLink
    (fun _ s => ⟨fun _ _ => .refl _ _ s, fun _ _ => .refl _ _ s⟩) sampleSession
  have hAnswer : (admitWithRecovery (memoryStore ⟨0, 0⟩ ⟨1, 2⟩ ⟨3, 4⟩) lossyLink
      (sampleAdmission "a" 40) sampleSession).1.isOk := by decide
  refine ⟨by decide, ?_⟩
  cases hResult : (admitWithRecovery (memoryStore ⟨0, 0⟩ ⟨1, 2⟩ ⟨3, 4⟩) lossyLink
      (sampleAdmission "a" 40) sampleSession).1 with
  | error e =>
    rw [hResult] at hAnswer
    cases hAnswer
  | ok told =>
    obtain ⟨recorded, hRecorded, hSame⟩ := (hOnce.1 (sampleAdmission "a" 40)).2.2 told hResult
    exact ⟨told, recorded, rfl, hRecorded, hSame⟩

end KongRust.RateLimit.Orchestration

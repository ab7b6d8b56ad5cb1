import KongRust.RateLimit.Effects

/-!
# The counters add up

In every state that the store can reach, the counter of a window is the sum of the charges
of the admissions that count in it: the final charge of a settled one, the reserved amount of
the others. The sum survives expiry because a record outlives its window.
-/

namespace KongRust.RateLimit

open KongRust.Machine MemoryRateLimitStore

/-! ## Dimensions -/

inductive Dimension where
  | requests | tokens
  deriving DecidableEq

def QuotaLimits.of (limits : QuotaLimits) : Dimension → Option ℕ+
  | .requests => limits.requests
  | .tokens => limits.tokens

def QuotaCharge.of (charge : QuotaCharge) : Dimension → Nat
  | .requests => charge.requests
  | .tokens => charge.tokens

def WindowState.used (window : WindowState) : Dimension → Nat
  | .requests => window.requestsUsed
  | .tokens => window.tokensUsed

/-- The final charge of a settled admission, the reserved amount of an open one. -/
def AdmissionRecord.charge (record : AdmissionRecord) (token : ReservationEnvelope) :
    QuotaCharge :=
  match record.settlement with
  | some settlement => settlement.finalCharge
  | none => token.reserved

variable (dimension : Dimension) (identity : WindowIdentity)

def chargeOf (dimension : Dimension) (identity : WindowIdentity) (record : AdmissionRecord) : Nat :=
  match record.decision with
  | .allowed token _ _ =>
    if token.window = identity ∧ (token.limitsAtAdmission.of dimension).isSome
    then (record.charge token).of dimension else 0
  | .rejected .. => 0

/-- The charges of all records of a bucket to a dimension of a window. -/
def charged (dimension : Dimension) (identity : WindowIdentity) (state : BucketState) : Nat :=
  Table.total (chargeOf dimension identity) state.admissions

variable {record : AdmissionRecord} {token : ReservationEnvelope} {requestId : String}
  {command : SettleCommand} {result : SettlementResult} {retryUntil : Nat} {window : WindowState}
  {now : RateLimitNow} {instanceId : Uuid}

theorem chargeOf_of_issued (h : record.Issued token) (dimension : Dimension)
    (identity : WindowIdentity) :
    chargeOf dimension identity record =
      if token.window = identity ∧ (token.limitsAtAdmission.of dimension).isSome
      then (record.charge token).of dimension else 0 := by
  obtain ⟨snapshot, replayed, hDecision⟩ := h
  simp [chargeOf, hDecision]

theorem issued_of_chargeOf_ne_zero {dimension : Dimension} {identity : WindowIdentity}
    (h : chargeOf dimension identity record ≠ 0) :
    ∃ token, record.Issued token ∧ token.window = identity := by
  unfold chargeOf at h
  split at h
  · rename_i token snapshot replayed hDecision
    split at h
    · rename_i hCounts
      exact ⟨token, ⟨snapshot, replayed, hDecision⟩, hCounts.1⟩
    · exact absurd rfl h
  · exact absurd rfl h

theorem purgeStats_live (now : Nat) (state : BucketState) (stats : RateLimitStoreStats) :
    (purgeStats now state stats).liveReservations = stats.liveReservations := by
  unfold purgeStats
  dsimp only
  split <;> rfl

theorem candidate_eq_some {limit : Option ℕ+} {used reserve count : Nat}
    (h : candidate limit used reserve = some count) :
    count = used + if limit.isSome then reserve else 0 := by
  unfold candidate at h
  split at h
  · simpa using (checkedAdd_eq_some.mp h).2.symm
  · simpa using h.symm

theorem adjustedCount_eq_ok {current reserved finalCharge count : Nat} {enabled : Bool}
    {error : String} (h : adjustedCount current reserved finalCharge enabled error = .ok count) :
    if enabled then reserved ≤ current ∧ count = current - reserved + finalCharge
    else count = current := by
  unfold adjustedCount at h
  cases enabled with
  | false => simpa using h.symm
  | true =>
    simp only [Bool.not_true, Bool.false_eq_true, if_false] at h
    split at h
    · simp at h
    · rename_i total hTotal
      obtain ⟨rest, hSub, hAdd⟩ := Option.bind_eq_some_iff.mp hTotal
      obtain ⟨hLe, rfl⟩ := checkedSub_eq_some.mp hSub
      obtain ⟨_, rfl⟩ := checkedAdd_eq_some.mp hAdd
      simpa [hLe] using h.symm

theorem settledWindow_eq_ok {window adjusted : WindowState} {command : SettleCommand}
    (h : settledWindow window command = .ok adjusted) :
    adjusted.identity = window.identity ∧ adjusted.spec = window.spec ∧
      adjusted.resetMono = window.resetMono ∧ ∀ dimension,
        if (command.reservation.limitsAtAdmission.of dimension).isSome
        then command.reservation.reserved.of dimension ≤ window.used dimension ∧
          adjusted.used dimension = window.used dimension -
            command.reservation.reserved.of dimension + command.finalCharge.of dimension
        else adjusted.used dimension = window.used dimension := by
  unfold settledWindow at h
  dsimp only at h
  cases hRequests : adjustedCount window.requestsUsed command.reservation.reserved.requests
      command.finalCharge.requests command.reservation.limitsAtAdmission.requests.isSome
      "request quota settlement arithmetic invalid" with
  | error e => rw [hRequests] at h; cases h
  | ok requests =>
    cases hTokens : adjustedCount window.tokensUsed command.reservation.reserved.tokens
        command.finalCharge.tokens command.reservation.limitsAtAdmission.tokens.isSome
        "token quota settlement arithmetic invalid" with
    | error e => rw [hRequests, hTokens] at h; cases h
    | ok tokens =>
      rw [hRequests, hTokens] at h
      obtain rfl : _ = adjusted := Except.ok.inj h
      refine ⟨rfl, rfl, rfl, fun dimension => ?_⟩
      cases dimension with
      | requests => exact adjustedCount_eq_ok hRequests
      | tokens => exact adjustedCount_eq_ok hTokens

/-! ## The invariant -/

/-- The invariant of a bucket at a time `t`. `used` is the equation; the others keep it
inductive: no record has a generation that is still to come, and records of the active
window are kept longer than the window. -/
structure BucketInv (config : MemoryRateLimitConfig) (t : Nat) (state : BucketState) :
    Prop where
  used : ∀ window, state.activeWindow = some window → ∀ dimension,
    window.used dimension = charged dimension window.identity state
  reset : ∀ window, state.activeWindow = some window →
    window.resetMono ≤ t + window.spec.duration
  current : ∀ window, state.activeWindow = some window →
    window.identity.generation ≤ state.generation
  past : ∀ requestId record token, state.admissions.lookup requestId = some record →
    record.Issued token → token.window.generation ≤ state.generation
  deadline : ∀ window requestId record token, state.activeWindow = some window →
    state.admissions.lookup requestId = some record → record.Issued token →
    token.window = window.identity →
    window.resetMono + config.settlementRetryGrace ≤ record.retainUntil
  bounded : ∀ requestId record, state.admissions.lookup requestId = some record →
    record.retainUntil < DURATION

variable {config : MemoryRateLimitConfig} {t t' : Nat} {state state' : BucketState}

theorem bucketInv_empty (config : MemoryRateLimitConfig) (t : Nat) :
    BucketInv config t .empty := by
  constructor <;> simp [BucketState.empty]

section

variable (h : BucketInv config t state)
include h

theorem BucketInv.mono (hTime : t ≤ t') :
    BucketInv config t' state :=
  ⟨h.used, fun window hWindow => (h.reset window hWindow).trans (by omega), h.current, h.past,
    h.deadline, h.bounded⟩

theorem BucketInv.touch (time : Nat) :
    BucketInv config t { state with lastTouchedMono := time } :=
  ⟨h.used, h.reset, h.current, h.past, h.deadline, h.bounded⟩

theorem BucketInv.purge (now : Nat) :
    BucketInv config t (state.purge now) := by
  have hWindow : ∀ window, (state.purge now).activeWindow = some window →
      state.activeWindow = some window ∧ window.liveAt now :=
    fun window hActive => Option.filter_eq_some_iff.mp hActive
  have hLookup : ∀ requestId record, (state.purge now).admissions.lookup requestId = some record →
      state.admissions.lookup requestId = some record := by
    intro requestId record hRecord
    rw [purge_lookup] at hRecord
    exact (Option.filter_eq_some_iff.mp hRecord).1
  refine ⟨?_, fun window hActive => h.reset window (hWindow window hActive).1,
    fun window hActive => h.current window (hWindow window hActive).1,
    fun requestId record token hRecord => h.past requestId record token (hLookup _ _ hRecord),
    fun window requestId record token hActive hRecord =>
      h.deadline window requestId record token (hWindow window hActive).1 (hLookup _ _ hRecord),
    fun requestId record hRecord => h.bounded requestId record (hLookup _ _ hRecord)⟩
  intro window hActive dimension
  obtain ⟨hActive, hLive⟩ := hWindow window hActive
  rw [h.used window hActive dimension]
  refine (Table.total_retain fun requestId record hRecord hDropped => ?_).symm
  -- a record of the live window is not expired, so what is dropped adds nothing
  by_contra hCharge
  obtain ⟨token, hIssued, hToken⟩ := issued_of_chargeOf_ne_zero hCharge
  have hDeadline := h.deadline window requestId record token hActive hRecord hIssued hToken
  simp only [AdmissionRecord.keptAt, Bool.or_eq_false_iff, decide_eq_false_iff_not] at hDropped
  simp only [WindowState.liveAt, decide_eq_true_eq] at hLive
  omega

end

theorem BucketInv.quiet {b b' : Option BucketState} {now : Nat}
    (h : ∀ state, b = some state → BucketInv config t state) (hQuiet : Quiet now b b') :
    ∀ state, b' = some state → BucketInv config t state := by
  induction hQuiet with
  | refl => exact h
  | tail _ hMove ih =>
    intro state hState
    cases hMove with
    | create =>
      obtain rfl := Option.some.inj hState
      exact bucketInv_empty config t
    | touch before time =>
      obtain rfl := Option.some.inj hState
      exact (ih before rfl).touch time
    | purge before =>
      obtain rfl := Option.some.inj hState
      exact (ih before rfl).purge now
    | remove before hEmpty => cases hState

/-- The invariant after one record is stored, given that the counters still add up. -/
theorem BucketInv.store (h : BucketInv config t state)
    (hGeneration : state'.generation = state.generation)
    (hAdmissions : state'.admissions = state.admissions.insert requestId record)
    (hWindow : ∀ window', state'.activeWindow = some window' → ∃ window,
      state.activeWindow = some window ∧ window'.identity = window.identity ∧
      window'.spec = window.spec ∧ window'.resetMono = window.resetMono ∧
      ∀ dimension, window'.used dimension = charged dimension window.identity state')
    (hPast : ∀ token, record.Issued token → token.window.generation ≤ state.generation)
    (hDeadline : ∀ window token, state.activeWindow = some window → record.Issued token →
      token.window = window.identity →
      window.resetMono + config.settlementRetryGrace ≤ record.retainUntil)
    (hBounded : record.retainUntil < DURATION) : BucketInv config t state' := by
  have hLookup : ∀ id found, state'.admissions.lookup id = some found →
      found = record ∨ state.admissions.lookup id = some found := by
    intro id found hFound
    rw [hAdmissions] at hFound
    by_cases hId : id = requestId
    · rw [hId, AList.lookup_insert] at hFound
      exact Or.inl (Option.some.inj hFound).symm
    · rw [AList.lookup_insert_ne hId] at hFound
      exact Or.inr hFound
  refine ⟨?_, ?_, ?_, ?_, ?_, ?_⟩
  · intro window' hActive dimension
    obtain ⟨window, _, hIdentity, _, _, hUsed⟩ := hWindow window' hActive
    rw [hUsed, hIdentity]
  · intro window' hActive
    obtain ⟨window, hOld, _, hSpec, hReset, _⟩ := hWindow window' hActive
    rw [hSpec, hReset]
    exact h.reset window hOld
  · intro window' hActive
    obtain ⟨window, hOld, hIdentity, _⟩ := hWindow window' hActive
    rw [hIdentity, hGeneration]
    exact h.current window hOld
  · intro id found token hFound hIssued
    rw [hGeneration]
    rcases hLookup id found hFound with rfl | hOld
    · exact hPast token hIssued
    · exact h.past id found token hOld hIssued
  · intro window' id found token hActive hFound hIssued hToken
    obtain ⟨window, hOld, hIdentity, _, hReset, _⟩ := hWindow window' hActive
    rw [hReset]
    rw [hIdentity] at hToken
    rcases hLookup id found hFound with rfl | hFound
    · exact hDeadline window token hOld hIssued hToken
    · exact h.deadline window id found token hOld hFound hIssued hToken
  · intro id found hFound
    rcases hLookup id found hFound with rfl | hOld
    · exact hBounded
    · exact h.bounded id found hOld

/-! ## Admissions keep the invariant -/

/-- Opening a window: no record of the bucket has its generation. -/
theorem BucketInv.opened (h : BucketInv config t state) {spec : WindowSpec} {now : RateLimitNow}
    {windowId : Uuid} {window : WindowState} {opened : BucketState} (hTime : t ≤ now.mono)
    (hOpened : Opened state spec now windowId window opened) :
    BucketInv config now.mono opened := by
  cases hOpened with
  | active hActive => exact h.mono hTime
  | fresh hNone hIdentity hSpec hReset hRequests hTokens =>
    have hNotYet : ∀ requestId record token, state.admissions.lookup requestId = some record →
        record.Issued token → token.window ≠ window.identity := by
      intro requestId record token hRecord hIssued hToken
      have hPast := h.past requestId record token hRecord hIssued
      rw [hToken, hIdentity] at hPast
      dsimp only at hPast
      omega
    refine ⟨?_, ?_, ?_, ?_, ?_, h.bounded⟩
    · intro window' hActive dimension
      obtain rfl := Option.some.inj hActive
      have hZero : ∀ entry ∈ state.admissions.entries,
          chargeOf dimension window.identity entry.2 = 0 := by
        intro entry hEntry
        by_contra hCharge
        obtain ⟨token, hIssued, hToken⟩ := issued_of_chargeOf_ne_zero hCharge
        exact hNotYet entry.1 entry.2 token (Table.lookup_eq_some_iff.mpr hEntry) hIssued hToken
      have hSum : charged dimension window.identity state = 0 :=
        List.sum_eq_zero fun x hx => by
          obtain ⟨entry, hEntry, rfl⟩ := List.mem_map.mp hx
          exact hZero entry hEntry
      have hUsed : window.used dimension = 0 := by cases dimension <;> assumption
      exact hUsed.trans hSum.symm
    · intro window' hActive
      obtain rfl := Option.some.inj hActive
      rw [hReset, hSpec]
    · intro window' hActive
      obtain rfl := Option.some.inj hActive
      rw [hIdentity]
    · intro requestId record token hRecord hIssued
      exact (h.past requestId record token hRecord hIssued).trans (Nat.le_succ _)
    · intro window' requestId record token hActive hRecord hIssued hToken
      obtain rfl := Option.some.inj hActive
      exact absurd hToken (hNotYet requestId record token hRecord hIssued)

theorem charged_insert (hFresh : state.admissions.lookup requestId = none)
    (hAdmissions : state'.admissions = state.admissions.insert requestId record) :
    charged dimension identity state' =
      chargeOf dimension identity record + charged dimension identity state := by
  rw [charged, hAdmissions, Table.total_insert hFresh]
  rfl

theorem BucketInv.decided (h : BucketInv config t state) {instanceId : Uuid}
    {command : AdmitCommand} {now : RateLimitNow} {ids : DrawnIds} {decision : AdmissionDecision}
    (hTime : t ≤ now.mono)
    (hDecides : Decides config instanceId command now ids state decision state') :
    BucketInv config now.mono state' := by
  cases hDecides with
  | @rejected window opened reason hFresh hOpened hBound =>
    have hInv := h.opened hTime hOpened
    have hActive := hOpened.activeWindow_eq
    rw [← hOpened.admissions_eq] at hFresh
    have hNotIssued : ∀ {token : ReservationEnvelope}, ¬ (recordOf command
        (.rejected reason (snapshot window command.limits now) false)
        (retentionOf config now window)).Issued token := by
      rintro token ⟨_, _, hDecision⟩
      cases hDecision
    refine hInv.store rfl rfl ?_ (fun token hIssued => absurd hIssued hNotIssued)
      (fun _ token _ hIssued => absurd hIssued hNotIssued) hBound
    intro window' hActive'
    obtain rfl := Option.mem_unique hActive hActive'
    refine ⟨window, hActive, rfl, rfl, rfl, fun dimension => ?_⟩
    rw [hInv.used window hActive dimension]
    exact ((charged_insert dimension window.identity hFresh rfl).trans (Nat.zero_add _)).symm
  | @allowed window counted opened requests tokens hFresh hOpened hBound hRequests hTokens _ _
      hCounted =>
    have hInv := h.opened hTime hOpened
    have hActive := hOpened.activeWindow_eq
    rw [← hOpened.admissions_eq] at hFresh
    have hToken : ∀ {token : ReservationEnvelope}, (recordOf command
        (.allowed (tokenOf instanceId command counted ids) (snapshot counted command.limits now)
          false) (retentionOf config now window)).Issued token →
        token = tokenOf instanceId command counted ids := by
      rintro token ⟨_, _, hDecision⟩
      cases hDecision
      rfl
    have hIdentity : counted.identity = window.identity := by rw [hCounted]
    refine hInv.store rfl rfl ?_ ?_ ?_ hBound
    · intro window' hActive'
      obtain rfl := Option.some.inj hActive'
      refine ⟨window, hActive, hIdentity, by rw [hCounted], by rw [hCounted], fun dimension => ?_⟩
      rw [charged_insert dimension window.identity hFresh rfl, ← hInv.used window hActive dimension,
        hCounted]
      cases dimension with
      | requests =>
        have hCount := candidate_eq_some hRequests
        simpa [chargeOf, recordOf, tokenOf, AdmissionRecord.charge, WindowState.used,
          QuotaLimits.of, QuotaCharge.of, Nat.add_comm] using hCount
      | tokens =>
        have hCount := candidate_eq_some hTokens
        simpa [chargeOf, recordOf, tokenOf, AdmissionRecord.charge, WindowState.used,
          QuotaLimits.of, QuotaCharge.of, Nat.add_comm] using hCount
    · intro token hIssued
      have hCurrent := hInv.current window hActive
      rw [← hIdentity] at hCurrent
      rw [hToken hIssued]
      exact hCurrent
    · intro window' token hActive' _ _
      obtain rfl := Option.mem_unique hActive hActive'
      have hReset := hInv.reset window hActive
      simp only [recordOf, retentionOf]
      omega

/-! ## Settlements keep the invariant -/

theorem charged_replace {record' : AdmissionRecord}
    (hRecord : state.admissions.lookup requestId = some record)
    (hAdmissions : state'.admissions = state.admissions.insert requestId record') :
    charged dimension identity state' + chargeOf dimension identity record =
      chargeOf dimension identity record' + charged dimension identity state := by
  rw [charged, hAdmissions]
  exact Table.total_replace hRecord

theorem settledRecord_issued :
    (settledRecord record command result retryUntil).Issued token ↔ record.Issued token :=
  Iff.rfl

section

variable (h : BucketInv config t state)
include h

theorem BucketInv.reserved_le (hActive : state.activeWindow = some window)
    (hRecord : state.admissions.lookup requestId = some record) (hIssued : record.Issued token)
    (hOpen : record.settlement = none) (hToken : token.window = window.identity)
    (dimension : Dimension) (hLimited : (token.limitsAtAdmission.of dimension).isSome) :
    token.reserved.of dimension ≤ window.used dimension := by
  have hLe := Table.weight_le_total (chargeOf dimension window.identity) hRecord
  rw [chargeOf_of_issued hIssued, if_pos ⟨hToken, hLimited⟩, AdmissionRecord.charge, hOpen] at hLe
  rw [h.used window hActive dimension]
  exact hLe

/-- A settled record keeps its window and its deadline, so only the counters are left to compare. -/
theorem BucketInv.settles {active : Option WindowState}
    (hRecord : state.admissions.lookup command.reservation.requestId = some record)
    (hRetry : checkedAdd DURATION now.mono config.settlementRetryGrace = some retryUntil)
    (hWindow : ∀ window', active = some window' → ∃ window, state.activeWindow = some window ∧
      window'.identity = window.identity ∧ window'.spec = window.spec ∧
      window'.resetMono = window.resetMono ∧ ∀ dimension,
        window'.used dimension + chargeOf dimension window.identity record =
          chargeOf dimension window.identity (settledRecord record command result retryUntil) +
            window.used dimension) :
    BucketInv config t { state with
      activeWindow := active
      admissions := state.admissions.insert command.reservation.requestId
        (settledRecord record command result retryUntil) } := by
  refine h.store rfl rfl ?_ ?_ ?_ ?_
  · intro window' hActive
    obtain ⟨window, hOld, hIdentity, hSpec, hReset, hUsed⟩ := hWindow window' hActive
    refine ⟨window, hOld, hIdentity, hSpec, hReset, fun dimension => ?_⟩
    have hSum := hUsed dimension
    rw [h.used window hOld dimension] at hSum
    exact Nat.add_right_cancel
      (hSum.trans (charged_replace dimension window.identity hRecord rfl).symm)
  · intro token hToken
    exact h.past _ record token hRecord (settledRecord_issued.mp hToken)
  · intro window' token hActive hToken hSame
    have hDeadline := h.deadline window' _ record token hActive hRecord
      (settledRecord_issued.mp hToken) hSame
    exact hDeadline.trans (le_max_left _ _)
  · obtain ⟨hBound, rfl⟩ := checkedAdd_eq_some.mp hRetry
    exact max_lt (h.bounded _ record hRecord) hBound

section

variable (hRecord : state.admissions.lookup command.reservation.requestId = some record)
  (hIssued : record.Issued command.reservation)
  (hRetry : checkedAdd DURATION now.mono config.settlementRetryGrace = some retryUntil)
include hRecord hIssued hRetry

/-- A settlement in its own window moves the counters with the record. -/
theorem BucketInv.applied {adjusted : WindowState} (hOpen : record.settlement = none)
    (hWindow : state.activeWindow = some window)
    (hIdentity : window.identity = command.reservation.window)
    (hAdjusted : settledWindow window command = .ok adjusted) :
    BucketInv config t { state with
      activeWindow := some adjusted
      admissions := state.admissions.insert command.reservation.requestId
        (settledRecord record command result retryUntil) } := by
  obtain ⟨hSameIdentity, hSpec, hReset, hUsed⟩ := settledWindow_eq_ok hAdjusted
  refine h.settles hRecord hRetry fun window' hActive => ?_
  obtain rfl := Option.some.inj hActive
  refine ⟨window, hWindow, hSameIdentity, hSpec, hReset, fun dimension => ?_⟩
  have hUsed := hUsed dimension
  rw [chargeOf_of_issued hIssued, chargeOf_of_issued (settledRecord_issued.mpr hIssued)]
  simp only [hIdentity, true_and, AdmissionRecord.charge, hOpen, settledRecord]
  split at hUsed
  · rename_i hLimited
    simp only [hLimited, if_true]
    omega
  · rename_i hUnlimited
    simp only [hUnlimited, Bool.false_eq_true, if_false]
    omega

/-- A late settlement does not touch the record of a live window. -/
theorem BucketInv.stale (hPurged : state.PurgedAt now.mono)
    (hOther : ∀ window, state.activeWindow = some window → window.liveAt now.mono →
      window.identity ≠ command.reservation.window) :
    BucketInv config t { state with
      admissions := state.admissions.insert command.reservation.requestId
        (settledRecord record command result retryUntil) } := by
  refine h.settles hRecord hRetry fun window hActive =>
    ⟨window, hActive, rfl, rfl, rfl, fun dimension => ?_⟩
  have hApart := (hOther window hActive (hPurged.1 window hActive)).symm
  rw [chargeOf_of_issued hIssued, chargeOf_of_issued (settledRecord_issued.mpr hIssued),
    if_neg (fun h => hApart h.1), if_neg (fun h => hApart h.1), Nat.add_comm]

end

theorem BucketInv.retry_ne_none
    (hRecord : state.admissions.lookup requestId = some record) (hIssued : record.Issued token)
    (hWindow : state.activeWindow = some window) (hIdentity : window.identity = token.window)
    (hLive : window.liveAt now.mono) :
    checkedAdd DURATION now.mono config.settlementRetryGrace ≠ none := by
  have hDeadline := h.deadline window requestId record token hWindow hRecord hIssued hIdentity.symm
  have hBounded := h.bounded requestId record hRecord
  simp only [WindowState.liveAt, decide_eq_true_eq] at hLive
  rw [ne_eq, checkedAdd_eq_none]
  omega

theorem BucketInv.settled {command : SettleCommand}
    {now : RateLimitNow} {answer : Except RateLimitStoreError SettlementResult}
    (hPurged : state.PurgedAt now.mono)
    (hEffect : SettleEffect config command now state answer state') :
    BucketInv config t state' := by
  cases hEffect with
  | failed | replayed => exact h
  | applied hRecord hIssued hOpen hWindow hIdentity hAdjusted hRetry _ =>
    exact h.applied hRecord hIssued hRetry hOpen hWindow hIdentity hAdjusted
  | stale hRecord hIssued _ hOther hRetry _ => exact h.stale hRecord hIssued hRetry hPurged hOther
  | broken hRecord hIssued _ hWindow hIdentity hLive _ hRetry =>
    exact absurd hRetry (h.retry_ne_none hRecord hIssued hWindow hIdentity hLive)

end

/-! ## Runs -/

def StoreInv (t : Nat) (store : MemoryRateLimitStore) : Prop :=
  ∀ key state, store.bucketAt key = some state → BucketInv store.config t state

theorem new_eq_ok {instanceId : Uuid} {now : RateLimitNow} {store : MemoryRateLimitStore}
    (hNew : new config instanceId now = .ok store) :
    config.validate = .ok () ∧
      store = ⟨instanceId, ∅, config, .zero, now.mono + config.cleanupInterval, [], 0⟩ := by
  unfold new at hNew
  cases hValidate : config.validate with
  | error e =>
    rw [hValidate] at hNew
    cases hNew
  | ok _ =>
    rw [hValidate] at hNew
    simp only [bind, Except.bind] at hNew
    split at hNew
    · cases hNew
    · rename_i next hNext
      obtain ⟨_, rfl⟩ := checkedAdd_eq_some.mp hNext
      exact ⟨rfl, (Except.ok.inj hNew).symm⟩

theorem buckets_new {store : MemoryRateLimitStore} (hNew : new config instanceId now = .ok store) :
    store.buckets = ∅ := by
  rw [(new_eq_ok hNew).2]

theorem storeInv_new {store : MemoryRateLimitStore} (hNew : new config instanceId now = .ok store)
    (t : Nat) : StoreInv t store := by
  intro key state hState
  simp [bucketAt, buckets_new hNew] at hState

theorem StoreInv.perform {store : MemoryRateLimitStore} (h : StoreInv t store)
    {timed : TimedCall} (hTime : t ≤ timed.now.mono) :
    StoreInv timed.now.mono (perform store timed).2 := by
  obtain ⟨hConfig, _, hEffect⟩ := perform_effect store timed
  intro key state hState
  rw [hConfig]
  have hBefore : ∀ state, store.bucketAt key = some state →
      BucketInv store.config timed.now.mono state :=
    fun state hState => (h key state hState).mono hTime
  have hEffect := hEffect key
  rw [hState] at hEffect
  cases hEffect with
  | quiet hQuiet => exact BucketInv.quiet hBefore hQuiet state rfl
  | decided _ _ _ hQuiet _ hDecides =>
    exact (BucketInv.quiet hBefore hQuiet _ rfl).decided le_rfl hDecides
  | settled _ _ hQuiet hPurged hEffect =>
    exact (BucketInv.quiet hBefore hQuiet _ rfl).settled hPurged hEffect

/-- The time of the last call of a run that starts at `t`. -/
def lastTime (t : Nat) (calls : List TimedCall) : Nat :=
  calls.foldl (fun _ timed => timed.now.mono) t

theorem StoreInv.runCalls {store : MemoryRateLimitStore} {calls : List TimedCall}
    (h : StoreInv t store) (hStart : ∀ timed ∈ calls, t ≤ timed.now.mono)
    (hClock : Clocked calls) : StoreInv (lastTime t calls) (runCalls store calls) := by
  induction calls generalizing t store with
  | nil => exact h
  | cons timed calls ih =>
    obtain ⟨hHead, hTail⟩ := List.pairwise_cons.mp hClock
    have hStep := h.perform (hStart timed List.mem_cons_self)
    exact ih hStep (fun other hOther => hHead other hOther) hTail

theorem storeInv_of_run {start : RateLimitNow} {store : MemoryRateLimitStore}
    (hNew : new config instanceId start = .ok store) {calls : List TimedCall}
    (hClock : Clocked calls) : StoreInv (lastTime 0 calls) (runCalls store calls) :=
  (storeInv_new hNew 0).runCalls (fun _ _ => Nat.zero_le _) hClock

/-- **The counters add up.** In every store that a run with a clock that does not go back
reaches, the counters of a window are the sums of the charges of the admissions in it. So
when a settlement adjusts a limited dimension of its window, the reserved amount can be
subtracted. -/
theorem counters_add_up {instanceId : Uuid} {start : RateLimitNow} {store : MemoryRateLimitStore}
    (hNew : MemoryRateLimitStore.new config instanceId start = .ok store)
    {calls : List TimedCall} (hClock : Clocked calls) {key : RateLimitKey} {state : BucketState}
    (hState : (runCalls store calls).bucketAt key = some state) (dimension : Dimension) :
    (∀ window, state.activeWindow = some window →
      window.used dimension = charged dimension window.identity state) ∧
    (∀ (command : SettleCommand) (now : RateLimitNow) (record : AdmissionRecord)
      (window : WindowState),
      admittedRecord (state.purge now.mono) command.reservation = .ok (some record) →
      record.settlement = none →
      sameWindow (state.purge now.mono) command.reservation now = some window →
      (command.reservation.limitsAtAdmission.of dimension).isSome →
      checkedSub (window.used dimension) (command.reservation.reserved.of dimension) ≠ none) := by
  have hInv := storeInv_of_run hNew hClock key state hState
  refine ⟨fun window hWindow => hInv.used window hWindow dimension, ?_⟩
  intro command now record window hAdmitted hOpen hSame hLimited
  obtain ⟨hRecord, hIssued⟩ := admittedRecord_eq_some hAdmitted
  obtain ⟨hWindow, hIdentity, _⟩ := sameWindow_eq_some.mp hSame
  have hLe := (hInv.purge now.mono).reserved_le hWindow hRecord hIssued hOpen hIdentity.symm
    dimension hLimited
  rw [ne_eq, checkedSub_eq_none]
  omega

/-! ## A sample run -/

def sampleKey : RateLimitKey := ⟨RATE_LIMIT_SCHEMA_VERSION, "default", .global⟩

/-- One request with a reservation, in windows of a minute with ten requests and a hundred
tokens. -/
def sampleAdmission (requestId : String) (tokens : Nat) : AdmitCommand where
  requestId := requestId
  key := sampleKey
  window := ⟨.fixedFirstHit, 60 * SECOND⟩
  limits := ⟨some 10, some 100⟩
  reserve := ⟨1, tokens⟩

def sampleStore : MemoryRateLimitStore where
  instanceId := 7
  buckets := ∅
  config := .default
  stats := .zero
  nextCleanupAt := 30 * SECOND
  cleanupQueue := []
  nextCell := 0

theorem sampleStore_new : new .default 7 ⟨0, 0⟩ = .ok sampleStore := rfl

/-- The token that the sample store hands out to the first admission of a request. -/
def sampleToken (requestId : String) (tokens : Nat) : ReservationEnvelope where
  schemaVersion := RATE_LIMIT_SCHEMA_VERSION
  backendInstanceId := 7
  reservationId := 2
  requestId := requestId
  key := sampleKey
  window := ⟨1, 1⟩
  limitsAtAdmission := ⟨some 10, some 100⟩
  reserved := ⟨1, tokens⟩

/-- Two admissions, the first of them settled with fewer tokens than it reserved. -/
def sampleCalls : List TimedCall :=
  [⟨.admission (sampleAdmission "a" 40) ⟨1, 2⟩ ⟨3, 4⟩, ⟨0, 0⟩⟩,
    ⟨.admission (sampleAdmission "b" 20) ⟨5, 6⟩ ⟨7, 8⟩, ⟨1, 1⟩⟩,
    ⟨.settlement ⟨"settle-a", sampleToken "a" 40, ⟨1, 15⟩⟩, ⟨2, 2⟩⟩]

theorem sampleCalls_clocked : Clocked sampleCalls := by
  unfold Clocked
  decide

theorem counters_add_up_sample :
    ∃ state window, (runCalls sampleStore sampleCalls).bucketAt sampleKey = some state ∧
      state.activeWindow = some window ∧ window.used .tokens = 35 ∧
      window.used .tokens = charged .tokens window.identity state := by
  have hUsed : (((runCalls sampleStore sampleCalls).bucketAt sampleKey).bind
      BucketState.activeWindow).map (fun window => window.used .tokens) = some 35 := by decide
  obtain ⟨window, hBind, hTokens⟩ := Option.map_eq_some_iff.mp hUsed
  obtain ⟨state, hState, hWindow⟩ := Option.bind_eq_some_iff.mp hBind
  exact ⟨state, window, hState, hWindow, hTokens,
    (counters_add_up sampleStore_new sampleCalls_clocked hState .tokens).1 window hWindow⟩

end KongRust.RateLimit

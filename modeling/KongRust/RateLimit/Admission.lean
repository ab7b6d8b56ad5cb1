import KongRust.RateLimit.Accounting

/-!
# Admissions: bounds and replays

A newly allowed request leaves its window within the limits, a rejected one leaves all
counters as they are, and with constant limits and settlements that do not exceed their
reservations a window never exceeds a limit. A decision is replayed for as long as its
record is kept.
-/

namespace KongRust.RateLimit

open KongRust.Machine

/-! ## Limits -/

def usedAt (now : Nat) (bucket : Option BucketState) (dimension : Dimension) : Nat :=
  match liveWindow now bucket with
  | some window => window.used dimension
  | none => 0

variable {b b' : Option BucketState}

theorem Quiet.usedAt_eq {now : Nat} (h : Quiet now b b') (dimension : Dimension) :
    usedAt now b' dimension = usedAt now b dimension := by
  rw [usedAt, usedAt, h.liveWindow_eq]

def WindowState.Within (window : WindowState) (limits : QuotaLimits) : Prop :=
  ∀ dimension limit, limits.of dimension = some limit → window.used dimension ≤ limit

theorem exceeds_eq_false {limits : Option ℕ+} {count : Nat} {limit : ℕ+}
    (h : exceeds limits count = false) (hLimit : limits = some limit) : count ≤ limit := by
  subst hLimit
  simpa [exceeds] using h

variable {now : RateLimitNow} {limits : QuotaLimits} {state : BucketState} {window : WindowState}

theorem Opened.within {opened : BucketState} {spec : WindowSpec} {windowId : Uuid}
    (h : Opened state spec now windowId window opened)
    (hOld : ∀ window, state.activeWindow = some window → window.Within limits) :
    window.Within limits := by
  cases h with
  | active hActive => exact hOld window hActive
  | fresh _ _ _ _ hRequests hTokens =>
    intro dimension limit _
    have hZero : window.used dimension = 0 := by cases dimension <;> assumption
    rw [hZero]
    exact Nat.zero_le _

variable {config : MemoryRateLimitConfig} {instanceId : Uuid} {command : AdmitCommand}
  {ids : DrawnIds} {state' : BucketState} {token : ReservationEnvelope} {snap : RateLimitSnapshot}
  {replayed : Bool}

theorem Decides.allowed_within
    (h : Decides config instanceId command now ids state (.allowed token snap replayed) state') :
    ∃ window, state'.activeWindow = some window ∧ token.window = window.identity ∧
      window.Within command.limits := by
  cases h with
  | @allowed window counted opened requests tokens _ _ _ _ _ hRequests hTokens hCounted =>
    refine ⟨counted, rfl, rfl, ?_⟩
    intro dimension limit hLimit
    rw [hCounted]
    cases dimension with
    | requests => exact exceeds_eq_false hRequests hLimit
    | tokens => exact exceeds_eq_false hTokens hLimit

theorem Decides.within {decision : AdmissionDecision}
    (h : Decides config instanceId command now ids state decision state')
    (hOld : ∀ window, state.activeWindow = some window → window.Within command.limits) :
    ∀ window, state'.activeWindow = some window → window.Within command.limits := by
  intro window hWindow
  cases decision with
  | allowed token snap replayed =>
    obtain ⟨counted, hCounted, _, hWithin⟩ := h.allowed_within
    obtain rfl := Option.mem_unique hCounted hWindow
    exact hWithin
  | rejected reason snap replayed =>
    cases h with
    | rejected _ hOpened _ =>
      obtain rfl := Option.some.inj (hOpened.activeWindow_eq.symm.trans hWindow)
      exact hOpened.within hOld

def SettleCommand.Modest (command : SettleCommand) : Prop :=
  ∀ dimension, command.finalCharge.of dimension ≤ command.reservation.reserved.of dimension

theorem settledWindow_within {adjusted : WindowState} {command : SettleCommand}
    (h : settledWindow window command = .ok adjusted) (hModest : command.Modest)
    (hOld : window.Within limits) : adjusted.Within limits := by
  intro dimension limit hLimit
  have hUsed := (settledWindow_eq_ok h).2.2.2 dimension
  have hModest := hModest dimension
  have hOld := hOld dimension limit hLimit
  split at hUsed <;> omega

theorem SettleEffect.within {command : SettleCommand}
    {answer : Except RateLimitStoreError SettlementResult}
    (h : SettleEffect config command now state answer state') (hModest : command.Modest)
    (hOld : ∀ window, state.activeWindow = some window → window.Within limits) :
    ∀ window, state'.activeWindow = some window → window.Within limits := by
  intro window' hWindow'
  cases h with
  | failed | replayed | stale => exact hOld window' hWindow'
  | @applied record window adjusted retryUntil result _ _ _ hWindow _ hAdjusted _ _
  | @broken record window adjusted e _ _ _ hWindow _ _ hAdjusted _ =>
    obtain rfl := Option.some.inj hWindow'
    exact settledWindow_within hAdjusted hModest (hOld window hWindow)

theorem Quiet.within {now : Nat} (h : Quiet now b b')
    (hOld : ∀ state window, b = some state → state.activeWindow = some window →
      window.Within limits) :
    ∀ state window, b' = some state → state.activeWindow = some window →
      window.Within limits := by
  induction h with
  | refl => exact hOld
  | tail _ hMove ih =>
    intro state window hState hWindow
    cases hMove with
    | create =>
      obtain rfl := Option.some.inj hState
      cases hWindow
    | touch before time =>
      obtain rfl := Option.some.inj hState
      exact ih before window rfl hWindow
    | purge before =>
      obtain rfl := Option.some.inj hState
      exact ih before window rfl (Option.filter_eq_some_iff.mp hWindow).1
    | remove before hEmpty => cases hState

/-- The calls on a key always give the same limits, and settle for at most what was reserved. -/
def Steady (key : RateLimitKey) (limits : QuotaLimits) (timed : TimedCall) : Prop :=
  match timed.call with
  | .admission command _ _ => command.key = key → command.limits = limits
  | .settlement command => command.reservation.key = key → command.Modest
  | .inspection _ => True
  | .cleanup => True

variable {store : MemoryRateLimitStore} {key : RateLimitKey}

theorem perform_within {timed : TimedCall} (hSteady : Steady key limits timed)
    (hOld : ∀ state window, store.bucketAt key = some state → state.activeWindow = some window →
      window.Within limits) :
    ∀ state window, (perform store timed).2.bucketAt key = some state →
      state.activeWindow = some window → window.Within limits := by
  intro state' window hState hWindow
  have hEffect := (perform_effect store timed).2.2 key
  rw [hState] at hEffect
  cases hEffect with
  | quiet hQuiet => exact hQuiet.within hOld state' window rfl hWindow
  | @decided command ids retryIds drawn state _ decision hCall _ hKey hQuiet _ hDecides =>
    have hLimits : command.limits = limits := by
      simp only [Steady, hCall] at hSteady
      exact hSteady hKey
    subst hLimits
    exact hDecides.within (fun window hWindow => hQuiet.within hOld state window rfl hWindow)
      window hWindow
  | @settled command answer state _ hCall hKey hQuiet _ hEffect =>
    have hModest : command.Modest := by
      simp only [Steady, hCall] at hSteady
      exact hSteady hKey
    exact hEffect.within hModest
      (fun window hWindow => hQuiet.within hOld state window rfl hWindow) window hWindow

theorem runCalls_within {calls : List TimedCall}
    (hSteady : ∀ timed ∈ calls, Steady key limits timed)
    (hOld : ∀ state window, store.bucketAt key = some state → state.activeWindow = some window →
      window.Within limits) :
    ∀ state window, (runCalls store calls).bucketAt key = some state →
      state.activeWindow = some window → window.Within limits := by
  induction calls generalizing store with
  | nil => exact hOld
  | cons timed calls ih =>
    refine ih (fun other hOther => hSteady other (List.mem_cons_of_mem _ hOther)) ?_
    exact perform_within (hSteady timed List.mem_cons_self) hOld

variable {reason : ExceededDimension}

theorem Decides.rejected_usedAt
    (h : Decides config instanceId command now ids state (.rejected reason snap replayed) state')
    (dimension : Dimension) :
    usedAt now.mono (some state') dimension = usedAt now.mono (some state) dimension := by
  cases h with
  | @rejected window opened _ _ hOpened _ =>
    cases hOpened with
    | active hActive => rfl
    | fresh hNone _ _ _ hRequests hTokens =>
      have hZero : window.used dimension = 0 := by cases dimension <;> assumption
      have hBefore : usedAt now.mono (some state) dimension = 0 := by
        simp [usedAt, liveWindow, hNone]
      rw [hBefore, usedAt]
      split
      · rename_i found hFound
        obtain ⟨hFound, _⟩ := Option.filter_eq_some_iff.mp hFound
        obtain rfl := Option.some.inj hFound
        exact hZero
      · rfl

variable {store' : MemoryRateLimitStore} {retryIds : DrawnIds}

theorem usedAt_of_rejected (h : storeAdmit store command now ids retryIds =
      (.ok (.rejected reason snap replayed), store')) (key : RateLimitKey) (dimension : Dimension) :
    usedAt now.mono (store'.bucketAt key) dimension =
      usedAt now.mono (store.bucketAt key) dimension := by
  have hCases := storeAdmit_cases store command now ids retryIds
  rw [h] at hCases
  dsimp only at hCases
  generalize hAnswer : (Except.ok (.rejected reason snap replayed) :
    Except RateLimitStoreError AdmissionDecision) = answer at hCases
  cases hCases with
  | failed => cases hAnswer
  | replayed _ _ hQuiet => exact (hQuiet.bucket key).usedAt_eq dimension
  | @decided drawn state state' decision _ _ hOn hDecides =>
    obtain rfl := Except.ok.inj hAnswer
    by_cases hKey : key = command.key
    · subst hKey
      rw [hOn.after, hDecides.rejected_usedAt dimension, hOn.before.usedAt_eq]
    · exact (hOn.others key hKey).usedAt_eq dimension

theorem within_of_allowed
    (h : storeAdmit store command now ids retryIds = (.ok (.allowed token snap false), store')) :
    ∃ state window, store'.bucketAt command.key = some state ∧ state.activeWindow = some window ∧
      token.window = window.identity ∧ window.Within command.limits := by
  have hCases := storeAdmit_cases store command now ids retryIds
  rw [h] at hCases
  dsimp only at hCases
  generalize hAnswer : (Except.ok (.allowed token snap false) :
    Except RateLimitStoreError AdmissionDecision) = answer at hCases
  cases hCases with
  | failed => cases hAnswer
  | @replayed record _ _ _ _ =>
    have hReplayed := Except.ok.inj hAnswer
    cases hDecision : record.decision <;> simp [hDecision, AdmissionDecision.asReplayed] at hReplayed
  | @decided drawn state state' decision _ _ hOn hDecides =>
    obtain rfl := Except.ok.inj hAnswer
    obtain ⟨window, hWindow, hToken, hWithin⟩ := hDecides.allowed_within
    exact ⟨state', window, hOn.after, hWindow, hToken, hWithin⟩

/-- **No over-admission.** After a new admission the counters of its window are within the
limits of the request, a rejected admission leaves the counters of every key as they are,
and in a run in which all admissions of a key give the same limits and all settlements of it
charge at most what was reserved, the window of the key is within these limits. -/
theorem no_over_admission {config : MemoryRateLimitConfig} {instanceId : Uuid}
    {start : RateLimitNow} {store : MemoryRateLimitStore}
    (hNew : MemoryRateLimitStore.new config instanceId start = .ok store) (calls : List TimedCall) :
    (∀ (command : AdmitCommand) (now : RateLimitNow) (ids retryIds : DrawnIds)
      (token : ReservationEnvelope) (snap : RateLimitSnapshot) (store' : MemoryRateLimitStore),
      storeAdmit (runCalls store calls) command now ids retryIds =
        (.ok (.allowed token snap false), store') →
      ∃ state window, store'.bucketAt command.key = some state ∧
        state.activeWindow = some window ∧ token.window = window.identity ∧
        window.Within command.limits) ∧
    (∀ (command : AdmitCommand) (now : RateLimitNow) (ids retryIds : DrawnIds)
      (reason : ExceededDimension) (snap : RateLimitSnapshot) (replayed : Bool)
      (store' : MemoryRateLimitStore),
      storeAdmit (runCalls store calls) command now ids retryIds =
        (.ok (.rejected reason snap replayed), store') →
      ∀ key dimension, usedAt now.mono (store'.bucketAt key) dimension =
        usedAt now.mono ((runCalls store calls).bucketAt key) dimension) ∧
    (∀ (key : RateLimitKey) (limits : QuotaLimits), (∀ timed ∈ calls, Steady key limits timed) →
      ∀ state window, (runCalls store calls).bucketAt key = some state →
        state.activeWindow = some window → window.Within limits) := by
  refine ⟨?_, ?_, ?_⟩
  · intro command now ids retryIds token snap store' h
    exact within_of_allowed h
  · intro command now ids retryIds reason snap replayed store' h
    exact usedAt_of_rejected h
  · intro key limits hSteady
    refine runCalls_within hSteady ?_
    intro state window hState
    simp [MemoryRateLimitStore.bucketAt, buckets_new hNew] at hState

theorem sampleCalls_steady : ∀ timed ∈ sampleCalls, Steady sampleKey ⟨some 10, some 100⟩ timed := by
  simp only [sampleCalls, List.forall_mem_cons, List.not_mem_nil, IsEmpty.forall_iff,
    implies_true, and_true]
  refine ⟨fun _ => rfl, fun _ => rfl, fun _ dimension => ?_⟩
  cases dimension <;> decide

theorem no_over_admission_sample :
    ∃ state window, (runCalls sampleStore sampleCalls).bucketAt sampleKey = some state ∧
      state.activeWindow = some window ∧ window.used .tokens = 35 ∧
      window.Within ⟨some 10, some 100⟩ := by
  have hUsed : (((runCalls sampleStore sampleCalls).bucketAt sampleKey).bind
      BucketState.activeWindow).map (fun window => window.used .tokens) = some 35 := by decide
  obtain ⟨window, hBind, hTokens⟩ := Option.map_eq_some_iff.mp hUsed
  obtain ⟨state, hState, hWindow⟩ := Option.bind_eq_some_iff.mp hBind
  exact ⟨state, window, hState, hWindow, hTokens, (no_over_admission sampleStore_new sampleCalls).2.2
    sampleKey ⟨some 10, some 100⟩ sampleCalls_steady state window hState hWindow⟩

def overchargedCalls : List TimedCall :=
  [⟨.admission (sampleAdmission "a" 40) ⟨1, 2⟩ ⟨3, 4⟩, ⟨0, 0⟩⟩,
    ⟨.settlement ⟨"settle-a", sampleToken "a" 40, ⟨1, 500⟩⟩, ⟨1, 1⟩⟩]

/-- The snapshot in the answer to the first admission of `overchargedCalls`. -/
def sampleSnapshot : RateLimitSnapshot where
  window := ⟨some ⟨1, 1⟩, .fixedFirstHit, 60 * SECOND, 0, 60 * SECOND, 60 * SECOND⟩
  requests := some ⟨10, 1, 9⟩
  tokens := some ⟨100, 40, 60⟩

/-- A replayed admission answers with the old decision, whatever the window holds now. -/
theorem replayed_allowed_over_limit :
    ¬ ∀ (calls : List TimedCall) (command : AdmitCommand) (now : RateLimitNow)
      (ids retryIds : DrawnIds) (token : ReservationEnvelope) (snap : RateLimitSnapshot)
      (replayed : Bool),
      (storeAdmit (runCalls sampleStore calls) command now ids retryIds).1 =
        .ok (.allowed token snap replayed) →
      ∀ dimension limit, command.limits.of dimension = some limit →
        usedAt now.mono ((storeAdmit (runCalls sampleStore calls) command now ids
          retryIds).2.bucketAt command.key) dimension ≤ limit := by
  intro h
  have hReplay := h overchargedCalls (sampleAdmission "a" 40) ⟨2, 2⟩ ⟨5, 6⟩ ⟨7, 8⟩
    (sampleToken "a" 40) sampleSnapshot true (by decide) .tokens 100 rfl
  revert hReplay
  decide

end KongRust.RateLimit

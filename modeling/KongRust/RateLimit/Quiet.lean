import Mathlib.Logic.Relation
import KongRust.RateLimit.Memory

/-!
# Quiet changes of the store

Most of what a call does to the buckets changes no decision and no counter: buckets are
created empty, touched, purged of what has expired, and removed when nothing is left. A
`Quiet` change of a bucket is a sequence of such moves at one time; it keeps the live window
and all records that are not expired at that time.
-/

namespace KongRust.RateLimit

open MemoryRateLimitStore

def MemoryRateLimitStore.bucketAt (store : MemoryRateLimitStore) (key : RateLimitKey) :
    Option BucketState :=
  (store.buckets.lookup key).map BucketCell.state

def recordIn (bucket : Option BucketState) (requestId : String) : Option AdmissionRecord :=
  bucket.bind fun state => state.admissions.lookup requestId

def keptRecord (now : Nat) (bucket : Option BucketState) (requestId : String) :
    Option AdmissionRecord :=
  (recordIn bucket requestId).filter fun record => record.keptAt now

def liveWindow (now : Nat) (bucket : Option BucketState) : Option WindowState :=
  (bucket.bind BucketState.activeWindow).filter fun window => window.liveAt now

/-! ## Moves of one bucket -/

inductive QuietMove (now : Nat) : Option BucketState → Option BucketState → Prop
  | create : QuietMove now none (some .empty)
  | touch (state : BucketState) (time : Nat) :
      QuietMove now (some state) (some { state with lastTouchedMono := time })
  | purge (state : BucketState) : QuietMove now (some state) (some (state.purge now))
  | remove (state : BucketState) (hEmpty : state.isEmpty) : QuietMove now (some state) none

abbrev Quiet (now : Nat) := Relation.ReflTransGen (QuietMove now)

variable {state : BucketState} {now : Nat} {store store' : MemoryRateLimitStore}
  {key : RateLimitKey} {cell : BucketCell}

theorem isEmpty_iff :
    state.isEmpty ↔ state.activeWindow = none ∧ state.admissions.entries = [] := by
  simp [BucketState.isEmpty]

theorem lookup_of_isEmpty (h : state.isEmpty) (requestId : String) :
    state.admissions.lookup requestId = none := by
  rw [AList.lookup, (isEmpty_iff.mp h).2]
  rfl

theorem purge_lookup (now : Nat) (state : BucketState) (requestId : String) :
    (state.purge now).admissions.lookup requestId =
      (state.admissions.lookup requestId).filter fun record => record.keptAt now :=
  Table.lookup_retain

variable {b b' : Option BucketState}

theorem QuietMove.liveWindow_eq {now : Nat} (h : QuietMove now b b') :
    liveWindow now b' = liveWindow now b := by
  cases h with
  | create | touch state time => rfl
  | purge state => simp [liveWindow, BucketState.purge]
  | remove state hEmpty => simp [liveWindow, (isEmpty_iff.mp hEmpty).1]

theorem QuietMove.keptRecord_eq {now : Nat} (h : QuietMove now b b') (requestId : String) :
    keptRecord now b' requestId = keptRecord now b requestId := by
  cases h with
  | create | touch state time => rfl
  | purge state => simp [keptRecord, recordIn, purge_lookup]
  | remove state hEmpty => simp [keptRecord, recordIn, lookup_of_isEmpty hEmpty]

variable {requestId : String} {record : AdmissionRecord}

theorem QuietMove.recordIn_of {now : Nat} (h : QuietMove now b b')
    (hRecord : recordIn b' requestId = some record) : recordIn b requestId = some record := by
  cases h with
  | create => simp [recordIn, BucketState.empty] at hRecord
  | touch state time => exact hRecord
  | purge state =>
    simp only [recordIn, Option.bind_some, purge_lookup, Option.filter_eq_some_iff] at hRecord
    exact hRecord.1
  | remove state hEmpty => simp [recordIn] at hRecord

theorem Quiet.liveWindow_eq {now : Nat} (h : Quiet now b b') :
    liveWindow now b' = liveWindow now b := by
  induction h with
  | refl => rfl
  | tail _ hMove ih => rw [hMove.liveWindow_eq, ih]

theorem Quiet.keptRecord_eq {now : Nat} (h : Quiet now b b') (requestId : String) :
    keptRecord now b' requestId = keptRecord now b requestId := by
  induction h with
  | refl => rfl
  | tail _ hMove ih => rw [hMove.keptRecord_eq, ih]

theorem Quiet.recordIn_of {now : Nat} (h : Quiet now b b')
    (hRecord : recordIn b' requestId = some record) : recordIn b requestId = some record := by
  induction h with
  | refl => exact hRecord
  | tail _ hMove ih => exact ih (hMove.recordIn_of hRecord)

theorem Quiet.recordIn_eq_or {now : Nat} (h : Quiet now b b') (requestId : String) :
    recordIn b' requestId = recordIn b requestId ∨
      recordIn b' requestId = none ∧ ∃ record, recordIn b requestId = some record ∧
        record.keptAt now = false := by
  cases hAfter : recordIn b' requestId with
  | some record => exact Or.inl (h.recordIn_of hAfter).symm
  | none =>
    cases hBefore : recordIn b requestId with
    | none => exact Or.inl rfl
    | some record =>
      have hKept := h.keptRecord_eq requestId
      simp only [keptRecord, hAfter, hBefore, Option.filter_none] at hKept
      refine Or.inr ⟨rfl, record, rfl, ?_⟩
      simpa using (Option.filter_eq_none_iff.mp hKept.symm) record rfl

/-! ## Quiet changes of a store -/

/-- A change of the store that is quiet for every key. -/
structure StoreQuiet (now : Nat) (store store' : MemoryRateLimitStore) : Prop where
  config : store'.config = store.config
  instanceId : store'.instanceId = store.instanceId
  bucket : ∀ key, Quiet now (store.bucketAt key) (store'.bucketAt key)

theorem StoreQuiet.refl (now : Nat) (store : MemoryRateLimitStore) : StoreQuiet now store store :=
  ⟨rfl, rfl, fun _ => .refl⟩

variable {a c : MemoryRateLimitStore}

theorem StoreQuiet.trans {b : MemoryRateLimitStore} (hab : StoreQuiet now a b)
    (hbc : StoreQuiet now b c) : StoreQuiet now a c :=
  ⟨hbc.config.trans hab.config, hbc.instanceId.trans hab.instanceId,
    fun key => (hab.bucket key).trans (hbc.bucket key)⟩

theorem bucketAt_of_insert (h : store'.buckets = store.buckets.insert key cell)
    (other : RateLimitKey) :
    store'.bucketAt other = if other = key then some cell.state else store.bucketAt other := by
  by_cases hKey : other = key
  · subst hKey
    simp [bucketAt, h]
  · simp [bucketAt, h, AList.lookup_insert_ne hKey, hKey]

theorem bucketAt_of_erase (h : store'.buckets = store.buckets.erase key) (other : RateLimitKey) :
    store'.bucketAt other = if other = key then none else store.bucketAt other := by
  by_cases hKey : other = key
  · subst hKey
    simp [bucketAt, h]
  · simp [bucketAt, h, AList.lookup_erase_ne hKey, hKey]

theorem bucketAt_of_lookup (h : store.buckets.lookup key = some cell) :
    store.bucketAt key = some cell.state := by
  rw [bucketAt, h, Option.map_some]

theorem storeQuiet_of_bucket (hConfig : store'.config = store.config)
    (hInstance : store'.instanceId = store.instanceId)
    (hBuckets : ∀ other, store'.bucketAt other = if other = key then b else store.bucketAt other)
    (hMoves : Quiet now (store.bucketAt key) b) : StoreQuiet now store store' := by
  refine ⟨hConfig, hInstance, fun other => ?_⟩
  rw [hBuckets]
  split
  · rename_i hKey
    exact hKey ▸ hMoves
  · exact .refl

theorem storeQuiet_of_buckets
    (hConfig : store'.config = store.config) (hInstance : store'.instanceId = store.instanceId)
    (hBuckets : store'.buckets = store.buckets) : StoreQuiet now store store' := by
  refine ⟨hConfig, hInstance, fun key => ?_⟩
  have hSame : store'.bucketAt key = store.bucketAt key := by
    rw [bucketAt, bucketAt, hBuckets]
  rw [hSame]

theorem cleanupTicket_quiet (now : RateLimitNow) (pass : CleanupPass) (ticket : CleanupTicket) :
    StoreQuiet now.mono pass.store (cleanupTicket now pass ticket).store := by
  unfold cleanupTicket
  split
  · exact .refl _ _
  · rename_i cell hCell
    have hPurge : Quiet now.mono (pass.store.bucketAt ticket.key)
        (some (cell.state.purge now.mono)) := by
      rw [bucketAt_of_lookup hCell]
      exact .single (.purge cell.state)
    split
    · exact .refl _ _
    · dsimp only
      split
      · rename_i hEmpty
        exact storeQuiet_of_bucket rfl rfl (bucketAt_of_erase rfl) (hPurge.tail (.remove _ hEmpty))
      · exact storeQuiet_of_bucket rfl rfl (bucketAt_of_insert rfl) hPurge

theorem cleanupTickets_quiet (now : RateLimitNow) (tickets : List CleanupTicket)
    (pass : CleanupPass) :
    StoreQuiet now.mono pass.store (tickets.foldl (cleanupTicket now) pass).store := by
  induction tickets generalizing pass with
  | nil => exact .refl _ _
  | cons ticket tickets ih => exact (cleanupTicket_quiet now pass ticket).trans (ih _)

theorem cleanupAt_quiet (now : RateLimitNow) (store : MemoryRateLimitStore) :
    StoreQuiet now.mono store (cleanupAt now store).2 := by
  have hStart : StoreQuiet now.mono store (startPass store).2.store :=
    storeQuiet_of_buckets rfl rfl rfl
  have hTickets := cleanupTickets_quiet now (startPass store).1 (startPass store).2
  have hFinish : ∀ pass, StoreQuiet now.mono pass.store (finishPass pass) :=
    fun pass => storeQuiet_of_buckets rfl rfl rfl
  exact (hStart.trans hTickets).trans (hFinish _)

theorem maybeCleanup_quiet (now : RateLimitNow) (store : MemoryRateLimitStore) :
    StoreQuiet now.mono store (maybeCleanup now store) := by
  unfold maybeCleanup
  split
  · exact .refl _ _
  · dsimp only
    refine StoreQuiet.trans ?_ (cleanupAt_quiet now _)
    exact storeQuiet_of_buckets rfl rfl rfl

theorem countOverload_quiet (now : Nat) (store : MemoryRateLimitStore) :
    StoreQuiet now store (countOverload store) :=
  storeQuiet_of_buckets rfl rfl rfl

theorem removeEmptyBucket_quiet (now : Nat) (store : MemoryRateLimitStore)
    (key : RateLimitKey) : StoreQuiet now store (removeEmptyBucket store key) := by
  unfold removeEmptyBucket
  split
  · exact .refl _ _
  · rename_i cell hCell
    split
    · rename_i hEmpty
      refine storeQuiet_of_bucket rfl rfl (bucketAt_of_erase rfl) ?_
      rw [bucketAt_of_lookup hCell]
      exact .single (.remove _ hEmpty)
    · exact .refl _ _

theorem createBucket_quiet (now : Nat) (h : createBucket store key = .ok (cell, store')) :
    StoreQuiet now store store' ∧ store'.buckets.lookup key = some cell := by
  unfold createBucket at h
  split at h
  · rename_i found hFound
    obtain ⟨rfl, rfl⟩ := Prod.mk.inj (Except.ok.inj h)
    exact ⟨.refl _ _, hFound⟩
  · rename_i hAbsent
    split at h
    · simp at h
    · obtain ⟨rfl, rfl⟩ := Prod.mk.inj (Except.ok.inj h)
      refine ⟨storeQuiet_of_bucket rfl rfl (bucketAt_of_insert rfl) ?_, by simp⟩
      simp only [bucketAt, hAbsent, Option.map_none]
      exact .single .create

theorem scheduleCleanup_quiet (now : Nat) (h : store.buckets.lookup key = some cell) :
    StoreQuiet now store (scheduleCleanup store key cell).2 ∧
      (scheduleCleanup store key cell).2.buckets.lookup key =
        some (scheduleCleanup store key cell).1 := by
  unfold scheduleCleanup
  split
  · exact ⟨.refl _ _, h⟩
  · refine ⟨storeQuiet_of_bucket rfl rfl (bucketAt_of_insert rfl) ?_, by simp⟩
    rw [bucketAt_of_lookup h]

/-! ## Operations under the lock of a bucket -/

def BucketState.PurgedAt (now : Nat) (state : BucketState) : Prop :=
  (∀ window, state.activeWindow = some window → window.liveAt now) ∧
    ∀ requestId record, state.admissions.lookup requestId = some record → record.keptAt now

theorem purgedAt_purge (now : Nat) (state : BucketState) : (state.purge now).PurgedAt now := by
  constructor
  · intro window h
    exact (Option.filter_eq_some_iff.mp h).2
  · intro requestId record h
    rw [purge_lookup] at h
    exact (Option.filter_eq_some_iff.mp h).2

/-- `store'` is `store` after quiet changes, with the bucket of `key` going from `state` to
`state'`. -/
structure OnBucket (now : Nat) (store store' : MemoryRateLimitStore) (key : RateLimitKey)
    (state state' : BucketState) : Prop where
  config : store'.config = store.config
  instanceId : store'.instanceId = store.instanceId
  before : Quiet now (store.bucketAt key) (some state)
  purged : state.PurgedAt now
  after : store'.bucketAt key = some state'
  others : ∀ other, other ≠ key → Quiet now (store.bucketAt other) (store'.bucketAt other)

theorem OnBucket.quiet_before {b : MemoryRateLimitStore} {state' : BucketState}
    (hQuiet : StoreQuiet now a b) (h : OnBucket now b c key state state') :
    OnBucket now a c key state state' :=
  ⟨h.config.trans hQuiet.config, h.instanceId.trans hQuiet.instanceId,
    (hQuiet.bucket key).trans h.before, h.purged, h.after,
    fun other hOther => (hQuiet.bucket other).trans (h.others other hOther)⟩

theorem OnBucket.storeQuiet (h : OnBucket now store store' key state state) :
    StoreQuiet now store store' := by
  refine ⟨h.config, h.instanceId, fun other => ?_⟩
  by_cases hOther : other = key
  · rw [hOther, h.after]
    exact h.before
  · exact h.others other hOther

theorem withBucket_onBucket {α : Type} (hCell : store.buckets.lookup key = some cell)
    (now : RateLimitNow) (operation : BucketState → RateLimitStoreStats → Locked α) :
    ∃ state stats, (withBucket store key cell now operation).1 = (operation state stats).1 ∧
      OnBucket now.mono store (withBucket store key cell now operation).2 key state
        (operation state stats).2.1 := by
  let touched := { cell.state with lastTouchedMono := now.mono }
  refine ⟨touched.purge now.mono, purgeStats now.mono touched store.stats, rfl, rfl, rfl, ?_,
    purgedAt_purge _ _, ?_, ?_⟩
  · rw [bucketAt_of_lookup hCell]
    exact (Relation.ReflTransGen.single (.touch _ now.mono)).tail (.purge touched)
  · exact (bucketAt_of_insert rfl key).trans (if_pos rfl)
  · intro other hOther
    have hSame : (withBucket store key cell now operation).2.bucketAt other =
        store.bucketAt other := (bucketAt_of_insert rfl other).trans (if_neg hOther)
    rw [hSame]

end KongRust.RateLimit

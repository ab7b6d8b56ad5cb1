import Mathlib.Data.List.MinMax
import Mathlib.Order.Nat
import KongRust.RateLimit.Settlement
import KongRust.RateLimit.Statistics

/-!
# The cleanup queue

Every bucket in the map has exactly one ticket in the cleanup queue that still points to its
cell. Tickets of cells that are gone may stay behind; they never become valid again, because
no two cells share an address. A pass takes at most a batch of tickets, so once nothing is
left to wait for, as many passes as the queue needs empty the store.
-/

namespace KongRust.RateLimit

open KongRust.Machine

/-! ## Tickets -/

/-- The cell of a ticket is the one in the map: its `Weak` reference can be upgraded. -/
def CleanupTicket.pointsTo (ticket : CleanupTicket) (store : MemoryRateLimitStore) : Bool :=
  (store.buckets.lookup ticket.key).any fun cell => cell.id = ticket.cell

def MemoryRateLimitStore.liveTickets (store : MemoryRateLimitStore) (key : RateLimitKey) :
    List CleanupTicket :=
  store.cleanupQueue.filter fun ticket => ticket.key = key && ticket.pointsTo store

/-- The buckets of a store against a list of tickets. Addresses are handed out in order. -/
structure TicketedBy (tickets : List CleanupTicket) (store : MemoryRateLimitStore) : Prop where
  once : ∀ key cell, store.buckets.lookup key = some cell →
    cell.cleanupQueued = true ∧ tickets.count ⟨key, cell.id⟩ = 1
  cells : ∀ key cell, store.buckets.lookup key = some cell → cell.id < store.nextCell
  issued : ∀ ticket ∈ tickets, ticket.cell < store.nextCell

def Ticketed (store : MemoryRateLimitStore) : Prop := TicketedBy store.cleanupQueue store

namespace TicketedBy

variable {tickets tickets' : List CleanupTicket} {store store' : MemoryRateLimitStore}
  {key : RateLimitKey} {cell : BucketCell}

theorem perm (h : TicketedBy tickets store) (hPerm : tickets.Perm tickets') :
    TicketedBy tickets' store where
  once key cell hCell := by
    rw [← hPerm.count_eq]
    exact h.once key cell hCell
  cells := h.cells
  issued ticket hTicket := h.issued ticket (hPerm.mem_iff.mpr hTicket)

theorem of_same (h : TicketedBy tickets store) (hBuckets : store'.buckets = store.buckets)
    (hNext : store'.nextCell = store.nextCell) : TicketedBy tickets store' where
  once key cell hCell := h.once key cell (hBuckets ▸ hCell)
  cells key cell hCell := hNext ▸ h.cells key cell (hBuckets ▸ hCell)
  issued ticket hTicket := hNext ▸ h.issued ticket hTicket

theorem setState (h : TicketedBy tickets store) (hCell : store.buckets.lookup key = some cell)
    (state : BucketState) (stats : RateLimitStoreStats) :
    TicketedBy tickets (store.setState key cell state stats) where
  once other found hFound := by
    rcases Table.lookup_insert_cases hFound with ⟨rfl, rfl⟩ | ⟨_, hFound⟩
    · exact h.once _ cell hCell
    · exact h.once other found hFound
  cells other found hFound := by
    rcases Table.lookup_insert_cases hFound with ⟨rfl, rfl⟩ | ⟨_, hFound⟩
    · exact h.cells _ cell hCell
    · exact h.cells other found hFound
  issued := h.issued

theorem lookup_of_erase {other : RateLimitKey} {found : BucketCell}
    (hFound : (store.buckets.erase key).lookup other = some found) :
    other ≠ key ∧ store.buckets.lookup other = some found := by
  by_cases hOther : other = key
  · subst hOther
    rw [AList.lookup_erase] at hFound
    cases hFound
  · rw [AList.lookup_erase_ne hOther] at hFound
    exact ⟨hOther, hFound⟩

theorem erase (h : TicketedBy tickets store) (hBuckets : store'.buckets = store.buckets.erase key)
    (hNext : store'.nextCell = store.nextCell) : TicketedBy tickets store' where
  once other found hFound := h.once other found (lookup_of_erase (hBuckets ▸ hFound)).2
  cells other found hFound := hNext ▸ h.cells other found (lookup_of_erase (hBuckets ▸ hFound)).2
  issued ticket hTicket := hNext ▸ h.issued ticket hTicket

theorem drop {ticket : CleanupTicket} (h : TicketedBy (ticket :: tickets) store)
    (hStale : ∀ cell, store.buckets.lookup ticket.key = some cell → cell.id ≠ ticket.cell) :
    TicketedBy tickets store where
  once key cell hCell := by
    have hOnce := h.once key cell hCell
    have hOther : ticket ≠ ⟨key, cell.id⟩ := by
      rintro rfl
      exact hStale cell hCell rfl
    rwa [List.count_cons_of_ne hOther] at hOnce
  cells := h.cells
  issued other hMem := h.issued other (List.mem_cons_of_mem _ hMem)

theorem buckets_eq_empty (h : TicketedBy [] store) : store.buckets = ∅ := by
  refine Table.eq_empty_of_entries (List.eq_nil_iff_forall_not_mem.mpr fun entry hEntry => ?_)
  have hOnce := (h.once entry.1 entry.2 (Table.lookup_eq_some_iff.mpr hEntry)).2
  simp at hOnce

end TicketedBy

/-- The tickets that a pass still has to look at, those in the queue, and those put aside. -/
def CleanupPass.tickets (pass : CleanupPass) (rest : List CleanupTicket) : List CleanupTicket :=
  rest ++ (pass.store.cleanupQueue ++ pass.requeue)

variable {pass : CleanupPass} {store' : MemoryRateLimitStore}

theorem cleanupTicket_ticketed {now : RateLimitNow} {ticket : CleanupTicket}
    {rest : List CleanupTicket} (h : TicketedBy (pass.tickets (ticket :: rest)) pass.store) :
    TicketedBy ((cleanupTicket now pass ticket).tickets rest)
      (cleanupTicket now pass ticket).store := by
  unfold cleanupTicket
  split
  · rename_i hNone
    refine h.drop ?_
    intro cell hCell
    rw [hNone] at hCell
    cases hCell
  · rename_i cell hCell
    split
    · rename_i hId
      refine h.drop ?_
      intro found hFound
      obtain rfl := Option.mem_unique hCell hFound
      exact hId
    · dsimp only
      split
      · have hErased : TicketedBy (pass.tickets (ticket :: rest))
            { pass.store with buckets := pass.store.buckets.erase ticket.key } := h.erase rfl rfl
        refine TicketedBy.of_same (hErased.drop ?_) rfl rfl
        intro found hFound
        exact absurd rfl (TicketedBy.lookup_of_erase hFound).1
      · have hPerm : (pass.tickets (ticket :: rest)).Perm
            (rest ++ (pass.store.cleanupQueue ++ (pass.requeue ++ [ticket]))) := by
          have hMove : (ticket :: (rest ++ (pass.store.cleanupQueue ++ pass.requeue))).Perm
              ((rest ++ (pass.store.cleanupQueue ++ pass.requeue)) ++ [ticket]) :=
            (List.perm_append_singleton _ _).symm
          simpa only [CleanupPass.tickets, List.cons_append, List.append_assoc] using hMove
        exact (h.setState hCell _ _).perm hPerm

theorem cleanupTickets_ticketed (now : RateLimitNow) {pass : CleanupPass}
    (tickets : List CleanupTicket) (h : TicketedBy (pass.tickets tickets) pass.store) :
    TicketedBy ((tickets.foldl (cleanupTicket now) pass).tickets [])
      (tickets.foldl (cleanupTicket now) pass).store := by
  induction tickets generalizing pass with
  | nil => exact h
  | cons ticket tickets ih => exact ih (cleanupTicket_ticketed h)

namespace Ticketed

variable {store store' : MemoryRateLimitStore} {key : RateLimitKey} {cell : BucketCell}

theorem cleanupAt (h : Ticketed store) (now : RateLimitNow) : Ticketed (cleanupAt now store).2 := by
  have hStart : TicketedBy ((startPass store).2.tickets (startPass store).1)
      (startPass store).2.store := by
    have hQueue : (startPass store).2.tickets (startPass store).1 = store.cleanupQueue := by
      simp [CleanupPass.tickets, startPass, List.take_append_drop]
    rw [hQueue]
    exact TicketedBy.of_same h rfl rfl
  exact (cleanupTickets_ticketed now _ hStart).of_same rfl rfl

/-- A bucket that is created gets its first ticket; one that is there has it already. -/
theorem acquired (h : Ticketed store) (hCreate : createBucket store key = .ok (cell, store')) :
    Ticketed (scheduleCleanup store' key cell).2 := by
  unfold createBucket at hCreate
  split at hCreate
  · rename_i found hFound
    obtain ⟨rfl, rfl⟩ := Prod.mk.inj (Except.ok.inj hCreate)
    rw [scheduleCleanup, if_pos (h.once key found hFound).1]
    exact h
  · split at hCreate
    · simp at hCreate
    · obtain ⟨rfl, rfl⟩ := Prod.mk.inj (Except.ok.inj hCreate)
      have hNew : store.cleanupQueue.count ⟨key, store.nextCell⟩ = 0 := by
        refine List.count_eq_zero.mpr fun hTicket => ?_
        exact absurd (h.issued _ hTicket) (Nat.lt_irrefl _)
      constructor
      · intro other found hFound
        simp only [scheduleCleanup, Bool.false_eq_true, if_false] at hFound ⊢
        rw [AList.insert_insert] at hFound
        rw [List.count_append]
        rcases Table.lookup_insert_cases hFound with ⟨rfl, rfl⟩ | ⟨hOther, hFound⟩
        · simp [hNew]
        · have hNe : (⟨key, store.nextCell⟩ : CleanupTicket) ≠ ⟨other, found.id⟩ := by
            intro hEq
            exact hOther (congrArg CleanupTicket.key hEq).symm
          rw [List.count_cons_of_ne hNe, List.count_nil]
          exact h.once other found hFound
      · intro other found hFound
        simp only [scheduleCleanup, Bool.false_eq_true, if_false] at hFound ⊢
        rw [AList.insert_insert] at hFound
        rcases Table.lookup_insert_cases hFound with ⟨rfl, rfl⟩ | ⟨_, hFound⟩
        · exact Nat.lt_succ_self _
        · exact (h.cells other found hFound).trans (Nat.lt_succ_self _)
      · intro ticket hTicket
        simp only [scheduleCleanup, Bool.false_eq_true, if_false] at hTicket ⊢
        rcases List.mem_append.mp hTicket with hOld | hLast
        · exact (h.issued ticket hOld).trans (Nat.lt_succ_self _)
        · rw [List.mem_singleton.mp hLast]
          exact Nat.lt_succ_self _

theorem removeEmptyBucket (h : Ticketed store) (key : RateLimitKey) :
    Ticketed (removeEmptyBucket store key) := by
  unfold RateLimit.removeEmptyBucket
  split
  · exact h
  · split
    · exact TicketedBy.erase h rfl rfl
    · exact h

theorem keptByCalls : KeptByCalls Ticketed where
  timer _ h := TicketedBy.of_same h rfl rfl
  cleanup now h := h.cleanupAt now
  overload h := TicketedBy.of_same h rfl rfl
  removal key h := h.removeEmptyBucket key
  acquired hCreate h := h.acquired hCreate
  admitted _ _ hCell h := TicketedBy.setState h hCell _ _
  settled _ hCell h := TicketedBy.setState h hCell _ _
  inspected _ _ hCell h := TicketedBy.setState h hCell _ _

theorem liveTickets_eq (h : Ticketed store) (hCell : store.buckets.lookup key = some cell) :
    (store.liveTickets key).length = 1 := by
  have hSame : (store.liveTickets key).length = store.cleanupQueue.count ⟨key, cell.id⟩ := by
    rw [MemoryRateLimitStore.liveTickets, List.count_eq_length_filter]
    refine congrArg List.length (List.filter_congr fun ticket _ => ?_)
    obtain ⟨ticketKey, ticketCell⟩ := ticket
    by_cases hKey : ticketKey = key
    · subst hKey
      by_cases hId : cell.id = ticketCell
      · simp [CleanupTicket.pointsTo, hCell, hId]
      · have hOther : ¬ ticketCell = cell.id := fun h => hId h.symm
        simp [CleanupTicket.pointsTo, hCell, hId, hOther]
    · simp [hKey]
  rw [hSame]
  exact (h.once key cell hCell).2

theorem new {config : MemoryRateLimitConfig} {instanceId : Uuid} {now : RateLimitNow}
    (hNew : MemoryRateLimitStore.new config instanceId now = .ok store) : Ticketed store := by
  obtain ⟨_, rfl⟩ := new_eq_ok hNew
  constructor <;> simp

end Ticketed

/-! ## Deadlines -/

def BucketState.deadlines (state : BucketState) : List Nat :=
  (state.activeWindow.map WindowState.resetMono).toList ++
    state.admissions.entries.map fun entry => entry.2.retainUntil

def MemoryRateLimitStore.lastDeadline (store : MemoryRateLimitStore) : Nat :=
  (store.buckets.entries.flatMap fun entry => entry.2.state.deadlines).foldr max 0

def BucketState.DueBy (time : Nat) (state : BucketState) : Prop :=
  ∀ deadline ∈ state.deadlines, deadline ≤ time

def DueBy (time : Nat) (store : MemoryRateLimitStore) : Prop :=
  ∀ key state, store.bucketAt key = some state → state.DueBy time

def Settled (store : MemoryRateLimitStore) : Prop :=
  ∀ key requestId record, recordIn (store.bucketAt key) requestId = some record →
    record.outstanding = false

variable {now time : Nat} {state : BucketState} {store : MemoryRateLimitStore}

theorem dueBy_iff : state.DueBy time ↔
      (∀ window, state.activeWindow = some window → window.resetMono ≤ time) ∧
        ∀ requestId record, state.admissions.lookup requestId = some record →
          record.retainUntil ≤ time := by
  simp only [BucketState.DueBy, BucketState.deadlines, List.mem_append, Option.mem_toList,
    Option.map_eq_some_iff, List.mem_map]
  constructor
  · intro h
    refine ⟨fun window hWindow => h _ (.inl ⟨window, hWindow, rfl⟩), ?_⟩
    intro requestId record hRecord
    exact h _ (.inr ⟨⟨requestId, record⟩, Table.lookup_eq_some_iff.mp hRecord, rfl⟩)
  · rintro ⟨hWindow, hRecord⟩ deadline (⟨window, hActive, rfl⟩ | ⟨entry, hEntry, rfl⟩)
    · exact hWindow window hActive
    · exact hRecord entry.1 entry.2 (Table.lookup_eq_some_iff.mpr hEntry)

theorem mem_entries_of_bucketAt {key : RateLimitKey} (h : store.bucketAt key = some state) :
    ∃ entry ∈ store.buckets.entries, entry.2.state = state := by
  obtain ⟨cell, hCell, hState⟩ := Option.map_eq_some_iff.mp h
  exact ⟨⟨key, cell⟩, Table.lookup_eq_some_iff.mp hCell, hState⟩

theorem dueBy_lastDeadline (store : MemoryRateLimitStore) : DueBy store.lastDeadline store := by
  intro key state hState deadline hDeadline
  obtain ⟨entry, hEntry, rfl⟩ := mem_entries_of_bucketAt hState
  have hMem : deadline ∈ store.buckets.entries.flatMap fun entry => entry.2.state.deadlines :=
    List.mem_flatMap.mpr ⟨entry, hEntry, hDeadline⟩
  exact List.le_max_of_le hMem le_rfl

theorem lastDeadline_le (h : DueBy time store) :
    store.lastDeadline ≤ time := by
  have hAll : ∀ deadline ∈ store.buckets.entries.flatMap fun entry => entry.2.state.deadlines,
      deadline ≤ time := by
    intro deadline hDeadline
    obtain ⟨entry, hEntry, hDeadline⟩ := List.mem_flatMap.mp hDeadline
    refine h entry.1 entry.2.state ?_ deadline hDeadline
    exact bucketAt_of_lookup (Table.lookup_eq_some_iff.mpr hEntry)
  exact List.max_le_of_forall_le _ time hAll

variable {b b' : Option BucketState}

theorem QuietMove.dueBy (h : QuietMove now b b')
    (hDue : ∀ state, b = some state → state.DueBy time) :
    ∀ state, b' = some state → state.DueBy time := by
  rintro state' rfl
  refine dueBy_iff.mpr ⟨?_, fun requestId record hRecord => ?_⟩
  · intro window hWindow
    cases h with
    | create => cases hWindow
    | touch state _ => exact (dueBy_iff.mp (hDue state rfl)).1 window hWindow
    | purge state =>
      exact (dueBy_iff.mp (hDue state rfl)).1 window (Option.filter_eq_some_iff.mp hWindow).1
  · have hBefore : recordIn b requestId = some record := h.recordIn_of hRecord
    obtain ⟨state, rfl, hFound⟩ := Option.bind_eq_some_iff.mp hBefore
    exact (dueBy_iff.mp (hDue state rfl)).2 requestId record hFound

theorem Quiet.dueBy {now time : Nat} (h : Quiet now b b')
    (hDue : ∀ state, b = some state → state.DueBy time) :
    ∀ state, b' = some state → state.DueBy time := by
  induction h with
  | refl => exact hDue
  | tail _ hMove ih => exact hMove.dueBy ih

theorem DueBy.quiet (h : DueBy time store) (hQuiet : StoreQuiet now store store') :
    DueBy time store' :=
  fun key => (hQuiet.bucket key).dueBy (h key)

theorem Settled.quiet (h : Settled store) (hQuiet : StoreQuiet now store store') : Settled store' :=
  fun key requestId record hRecord =>
    h key requestId record ((hQuiet.bucket key).recordIn_of hRecord)

theorem BucketState.DueBy.isEmpty_purge (h : state.DueBy time) (hTime : time ≤ now)
    (hSettled : ∀ requestId record, state.admissions.lookup requestId = some record →
      record.outstanding = false) : (state.purge now).isEmpty := by
  obtain ⟨hWindows, hRecords⟩ := dueBy_iff.mp h
  rw [isEmpty_iff]
  constructor
  · refine Option.filter_eq_none_iff.mpr fun window hWindow hLive => ?_
    have hReset := hWindows window hWindow
    have hBefore : now < window.resetMono := of_decide_eq_true hLive
    omega
  · refine List.filter_eq_nil_iff.mpr fun entry hEntry hKept => ?_
    have hLookup := Table.lookup_eq_some_iff.mpr hEntry
    have hUntil := hRecords entry.1 entry.2 hLookup
    change entry.2.keptAt now = true at hKept
    rw [keptAt_eq, hSettled entry.1 entry.2 hLookup, Bool.false_or, decide_eq_true_eq] at hKept
    omega

def Timely (store : MemoryRateLimitStore) : Prop := DueBy (DURATION - 1) store

section Timely

variable {config : MemoryRateLimitConfig} {now : RateLimitNow} {state state' : BucketState}

theorem dueBy_insert {time : Nat} {requestId : String} {record : AdmissionRecord}
    (h : state.DueBy time) (hRecord : record.retainUntil ≤ time)
    (hWindow : ∀ window, state'.activeWindow = some window → window.resetMono ≤ time)
    (hAdmissions : state'.admissions = state.admissions.insert requestId record) :
    state'.DueBy time := by
  refine dueBy_iff.mpr ⟨hWindow, fun id found hFound => ?_⟩
  rw [hAdmissions] at hFound
  rcases Table.lookup_insert_cases hFound with ⟨_, rfl⟩ | ⟨_, hFound⟩
  · exact hRecord
  · exact (dueBy_iff.mp h).2 id found hFound

theorem Opened.resetMono_le {spec : WindowSpec} {windowId : Uuid} {window : WindowState}
    {opened : BucketState} (h : Opened state spec now windowId window opened)
    (hBound : retentionOf config now window < DURATION) (hDue : state.DueBy (DURATION - 1)) :
    window.resetMono ≤ DURATION - 1 := by
  cases h with
  | active hActive => exact (dueBy_iff.mp hDue).1 window hActive
  | fresh _ _ hSpec hReset =>
    rw [retentionOf, hSpec] at hBound
    omega

theorem Decides.timely {instanceId : Uuid} {command : AdmitCommand} {ids : DrawnIds}
    {decision : AdmissionDecision}
    (h : Decides config instanceId command now ids state decision state')
    (hDue : state.DueBy (DURATION - 1)) : state'.DueBy (DURATION - 1) := by
  cases h with
  | rejected _ hOpened hBound =>
    have hReset := hOpened.resetMono_le hBound hDue
    refine dueBy_insert hDue (Nat.le_sub_one_of_lt hBound) ?_ (by rw [← hOpened.admissions_eq])
    intro window hWindow
    obtain rfl := Option.some.inj (hOpened.activeWindow_eq.symm.trans hWindow)
    exact hReset
  | allowed _ hOpened hBound _ _ _ _ hCounted =>
    have hReset := hOpened.resetMono_le hBound hDue
    refine dueBy_insert hDue (Nat.le_sub_one_of_lt hBound) ?_ (by rw [← hOpened.admissions_eq])
    intro window hWindow
    obtain rfl := Option.some.inj hWindow
    rw [hCounted]
    exact hReset

theorem SettleEffect.timely {command : SettleCommand}
    {answer : Except RateLimitStoreError SettlementResult}
    (h : SettleEffect config command now state answer state')
    (hDue : state.DueBy (DURATION - 1)) : state'.DueBy (DURATION - 1) := by
  obtain ⟨hWindows, hRecords⟩ := dueBy_iff.mp hDue
  have hAdjust : ∀ {window adjusted}, state.activeWindow = some window →
      settledWindow window command = .ok adjusted →
      ∀ found, some adjusted = some found → found.resetMono ≤ DURATION - 1 := by
    rintro window adjusted hWindow hAdjusted found hFound
    rw [← Option.some.inj hFound, (settledWindow_eq_ok hAdjusted).2.2.1]
    exact hWindows window hWindow
  have hRetain : ∀ {record : AdmissionRecord} {result retryUntil},
      state.admissions.lookup command.reservation.requestId = some record →
      checkedAdd DURATION now.mono config.settlementRetryGrace = some retryUntil →
      (settledRecord record command result retryUntil).retainUntil ≤ DURATION - 1 := by
    intro record result retryUntil hRecord hRetry
    obtain ⟨hBound, rfl⟩ := checkedAdd_eq_some.mp hRetry
    exact max_le (hRecords _ record hRecord) (Nat.le_sub_one_of_lt hBound)
  cases h with
  | failed | replayed => exact hDue
  | applied hRecord _ _ hWindow _ hAdjusted hRetry _ =>
    exact dueBy_insert hDue (hRetain hRecord hRetry) (hAdjust hWindow hAdjusted) rfl
  | stale hRecord _ _ _ hRetry _ => exact dueBy_insert hDue (hRetain hRecord hRetry) hWindows rfl
  | broken _ _ _ hWindow _ _ hAdjusted _ =>
    exact dueBy_iff.mpr ⟨hAdjust hWindow hAdjusted, hRecords⟩

end Timely

theorem Timely.perform {store : MemoryRateLimitStore} (h : Timely store) (timed : TimedCall) :
    Timely (perform store timed).2 := by
  intro key
  have hEffect := (perform_effect store timed).2.2 key
  have hBucket := h key
  generalize store.bucketAt key = bucket, (RateLimit.perform store timed).2.bucketAt key = bucket'
    at hEffect hBucket
  cases hEffect with
  | quiet hQuiet => exact hQuiet.dueBy hBucket
  | decided _ _ _ hBefore _ hDecides =>
    rintro state ⟨⟩
    exact hDecides.timely (hBefore.dueBy hBucket _ rfl)
  | settled _ _ hBefore _ hEffect =>
    rintro state ⟨⟩
    exact hEffect.timely (hBefore.dueBy hBucket _ rfl)

theorem Timely.runCalls {store : MemoryRateLimitStore} (h : Timely store)
    (calls : List TimedCall) : Timely (runCalls store calls) := by
  induction calls generalizing store with
  | nil => exact h
  | cons timed calls ih => exact ih (h.perform timed)

/-! ## Passes -/

def cleanupPasses (nows : List RateLimitNow) (store : MemoryRateLimitStore) :
    MemoryRateLimitStore :=
  nows.foldl (fun store now => (cleanupAt now store).2) store

theorem cleanupTicket_queue (now : RateLimitNow) (pass : CleanupPass) (ticket : CleanupTicket) :
    (cleanupTicket now pass ticket).store.cleanupQueue = pass.store.cleanupQueue ∧
      (cleanupTicket now pass ticket).report.scannedBuckets = pass.report.scannedBuckets ∧
      (cleanupTicket now pass ticket).requeue.length ≤ pass.requeue.length + 1 := by
  unfold cleanupTicket
  split
  · exact ⟨rfl, rfl, Nat.le_succ _⟩
  · split
    · exact ⟨rfl, rfl, Nat.le_succ _⟩
    · dsimp only
      split
      · exact ⟨rfl, rfl, Nat.le_succ _⟩
      · exact ⟨rfl, rfl, by simp⟩

theorem cleanupTickets_queue (now : RateLimitNow) (pass : CleanupPass)
    (tickets : List CleanupTicket) :
    (tickets.foldl (cleanupTicket now) pass).store.cleanupQueue = pass.store.cleanupQueue ∧
      (tickets.foldl (cleanupTicket now) pass).report.scannedBuckets = pass.report.scannedBuckets ∧
      (tickets.foldl (cleanupTicket now) pass).requeue.length ≤
        pass.requeue.length + tickets.length := by
  induction tickets generalizing pass with
  | nil => exact ⟨rfl, rfl, le_rfl⟩
  | cons ticket tickets ih =>
    obtain ⟨hQueue, hScanned, hLength⟩ := cleanupTicket_queue now pass ticket
    obtain ⟨hQueue', hScanned', hLength'⟩ := ih (cleanupTicket now pass ticket)
    refine ⟨hQueue'.trans hQueue, hScanned'.trans hScanned, ?_⟩
    rw [List.foldl_cons, List.length_cons]
    omega

theorem scanned_le_batch (now : RateLimitNow) (store : MemoryRateLimitStore) :
    (cleanupAt now store).1.scannedBuckets ≤ store.config.cleanupScanBatch := by
  have hScanned := (cleanupTickets_queue now (startPass store).2 (startPass store).1).2.1
  rw [cleanupAt, hScanned]
  exact List.length_take_le _ _

theorem cleanupAt_queue_length (now : RateLimitNow) (store : MemoryRateLimitStore) :
    (cleanupAt now store).2.cleanupQueue.length ≤ store.cleanupQueue.length := by
  obtain ⟨hQueue, _, hLength⟩ := cleanupTickets_queue now (startPass store).2 (startPass store).1
  simp only [cleanupAt, finishPass, hQueue, List.length_append]
  simp only [startPass, List.length_take, List.length_drop, List.length_nil] at hLength ⊢
  omega

theorem cleanupTicket_requeue {now : RateLimitNow} (hDue : DueBy time pass.store)
    (hSettled : Settled pass.store) (hTime : time ≤ now.mono) (ticket : CleanupTicket) :
    (cleanupTicket now pass ticket).requeue = pass.requeue := by
  unfold cleanupTicket
  split
  · rfl
  · rename_i cell hCell
    have hBucket := bucketAt_of_lookup hCell
    have hEmpty : (cell.state.purge now.mono).isEmpty := by
      refine (hDue ticket.key cell.state hBucket).isEmpty_purge hTime fun requestId record h => ?_
      refine hSettled ticket.key requestId record ?_
      rw [recordIn, hBucket, Option.bind_some, h]
    split
    · rfl
    · dsimp only
      rw [if_pos hEmpty]

theorem cleanupTickets_requeue {time : Nat} {now : RateLimitNow} {pass : CleanupPass}
    (hDue : DueBy time pass.store) (hSettled : Settled pass.store) (hTime : time ≤ now.mono)
    (tickets : List CleanupTicket) :
    (tickets.foldl (cleanupTicket now) pass).requeue = pass.requeue := by
  induction tickets generalizing pass with
  | nil => rfl
  | cons ticket tickets ih =>
    have hQuiet := cleanupTicket_quiet now pass ticket
    rw [List.foldl_cons, ih (hDue.quiet hQuiet) (hSettled.quiet hQuiet),
      cleanupTicket_requeue hDue hSettled hTime]

theorem cleanupAt_queue_due {now : RateLimitNow}
    (hDue : DueBy time store) (hSettled : Settled store) (hTime : time ≤ now.mono) :
    (cleanupAt now store).2.cleanupQueue =
      store.cleanupQueue.drop store.config.cleanupScanBatch := by
  have hQueue := (cleanupTickets_queue now (startPass store).2 (startPass store).1).1
  have hRequeue : ((startPass store).1.foldl (cleanupTicket now) (startPass store).2).requeue = [] :=
    cleanupTickets_requeue hDue hSettled hTime (startPass store).1
  simp only [cleanupAt, finishPass, hQueue, hRequeue]
  exact List.append_nil _

theorem cleanupPasses_queue {time : Nat} {store : MemoryRateLimitStore} (nows : List RateLimitNow)
    (hDue : DueBy time store) (hSettled : Settled store)
    (hPasses : store.cleanupQueue.length ≤
      store.config.cleanupScanBatch * nows.countP fun now => time ≤ now.mono) :
    (cleanupPasses nows store).cleanupQueue = [] := by
  induction nows generalizing store with
  | nil =>
    have hNone : store.cleanupQueue = [] := by simpa using hPasses
    exact hNone
  | cons now nows ih =>
    have hQuiet := cleanupAt_quiet now store
    refine ih (hDue.quiet hQuiet) (hSettled.quiet hQuiet) ?_
    rw [hQuiet.config]
    by_cases hTime : time ≤ now.mono
    · rw [cleanupAt_queue_due hDue hSettled hTime, List.length_drop]
      simp only [List.countP_cons, hTime, decide_true, if_true, Nat.mul_add, Nat.mul_one] at hPasses
      omega
    · refine (cleanupAt_queue_length now store).trans ?_
      simpa [List.countP_cons, hTime] using hPasses

theorem Ticketed.cleanupPasses {store : MemoryRateLimitStore} (h : Ticketed store)
    (nows : List RateLimitNow) : Ticketed (cleanupPasses nows store) := by
  induction nows generalizing store with
  | nil => exact h
  | cons now nows ih => exact ih (h.cleanupAt now)

theorem validate_batch_pos {config : MemoryRateLimitConfig} (h : config.validate = .ok ()) :
    0 < config.cleanupScanBatch := by
  unfold MemoryRateLimitConfig.validate at h
  split at h
  · cases h
  · rename_i hPositive
    have hField := List.find?_eq_none.mp hPositive ("cleanup_scan_batch", config.cleanupScanBatch)
      (by simp [MemoryRateLimitConfig.positiveFields])
    exact Nat.pos_of_ne_zero (by simpa using hField)

/-- **The cleanup protocol.** After any run, (1) every bucket in the map has exactly one live
ticket in the queue; (2) no call drops an admission that is still to be settled, nor any other
record before its deadline; (3) if no admission is outstanding, then the last deadline can be
reached, and any sequence of passes with enough of them after it leaves the store empty. A
pass looks at one batch, and the batch is not empty. -/
theorem cleanup_protocol {config : MemoryRateLimitConfig} {instanceId : Uuid}
    {start : RateLimitNow} {store : MemoryRateLimitStore}
    (hNew : MemoryRateLimitStore.new config instanceId start = .ok store)
    (calls : List TimedCall) :
    let reached := runCalls store calls
    (∀ key cell, reached.buckets.lookup key = some cell → (reached.liveTickets key).length = 1) ∧
    (∀ timed key requestId record, recordIn (reached.bucketAt key) requestId = some record →
      record.outstanding ∨ timed.now.mono < record.retainUntil →
      ∃ record', recordIn ((perform reached timed).2.bucketAt key) requestId = some record' ∧
        SameAdmission record record') ∧
    (Settled reached → reached.lastDeadline < DURATION ∧ ∀ nows : List RateLimitNow,
      reached.cleanupQueue.length ≤
        config.cleanupScanBatch * (nows.countP fun now => reached.lastDeadline ≤ now.mono) →
      (cleanupPasses nows reached).buckets = ∅ ∧ (cleanupPasses nows reached).cleanupQueue = []) ∧
    0 < config.cleanupScanBatch ∧
      ∀ now, (cleanupAt now reached).1.scannedBuckets ≤ config.cleanupScanBatch := by
  intro reached
  have hConfig : reached.config = config := by
    rw [runCalls_config store calls, (new_eq_ok hNew).2]
  have hTicketed : Ticketed reached := Ticketed.keptByCalls.runCalls calls (Ticketed.new hNew)
  refine ⟨fun key cell hCell => hTicketed.liveTickets_eq hCell, ?_, ?_,
    validate_batch_pos (new_eq_ok hNew).1, fun now => hConfig ▸ scanned_le_batch now reached⟩
  · intro timed key requestId record hRecord hKept
    refine perform_keeps hRecord ?_
    rw [keptAt_eq, Bool.or_eq_true, decide_eq_true_eq]
    exact hKept
  · intro hSettled
    have hTimely : Timely reached := by
      refine Timely.runCalls ?_ calls
      intro key state hState
      simp [MemoryRateLimitStore.bucketAt, buckets_new hNew] at hState
    have hLast := lastDeadline_le hTimely
    have hPositive : 0 < DURATION := by decide
    refine ⟨by omega, fun nows hPasses => ?_⟩
    have hQueue := cleanupPasses_queue nows (dueBy_lastDeadline reached) hSettled
      (hConfig.symm ▸ hPasses)
    have hAfter := hTicketed.cleanupPasses nows
    rw [Ticketed, hQueue] at hAfter
    exact ⟨hAfter.buckets_eq_empty, hQueue⟩

theorem settled_of_outstandingCount {store : MemoryRateLimitStore}
    (h : store.outstandingCount = 0) : Settled store := by
  intro key requestId record hRecord
  obtain ⟨state, hState, hLookup⟩ := Option.bind_eq_some_iff.mp hRecord
  obtain ⟨cell, hCell, rfl⟩ := Option.map_eq_some_iff.mp hState
  have hBucket := Table.total_eq_zero_iff.mp h key cell hCell
  have hWeight := Table.total_eq_zero_iff.mp hBucket requestId record hLookup
  cases hOutstanding : record.outstanding with
  | false => rfl
  | true =>
    rw [hOutstanding] at hWeight
    cases hWeight

def settledCalls : List TimedCall := sampleFront ++ [⟨.settlement sampleSettle, ⟨2, 2⟩⟩]

/-- A pass after the deadline of the one admission removes its bucket, one before it does
not. -/
theorem cleanup_protocol_sample :
    (cleanupPasses [⟨5, 5⟩] (runCalls sampleStore settledCalls)).buckets.entries.length = 1 ∧
      (cleanupPasses [⟨5, 5⟩, ⟨1260 * SECOND, 1260 * SECOND⟩]
        (runCalls sampleStore settledCalls)).buckets = ∅ := by
  obtain ⟨_, _, hDrains, _⟩ := cleanup_protocol sampleStore_new settledCalls
  have hSettled : Settled (runCalls sampleStore settledCalls) :=
    settled_of_outstandingCount (by decide)
  exact ⟨by decide, ((hDrains hSettled).2 _ (by decide)).1⟩

end KongRust.RateLimit

import KongRust.Foundation.Text

/-!
# The usage writer

Facts wait in a bounded queue, and the runner writes them in batches, each with one `INSERT`
(`usage/writer.rs`, `usage/postgres.rs`). Of the counters only `dropped` is here.
`batches_fit_iff` says for which batch sizes no statement has too many parameters.
-/

namespace KongRust.Usage

variable {Fact : Type}

/-! ## The statement -/

def insertColumns : List String :=
  ["id", "request_id", "node_id", "started_at", "finished_at", "workspace_id", "route_id",
    "route_name", "service_id", "service_name", "provider_id", "provider_name", "provider_type",
    "model_id", "requested_model", "model_group", "actual_model", "attempt_count",
    "virtual_key_id", "virtual_key_name", "virtual_key_prefix", "consumer_id", "prompt_tokens",
    "completion_tokens", "total_tokens", "reasoning_tokens", "cache_read_input_tokens",
    "cache_write_input_tokens", "prompt_tokens_source", "completion_tokens_source",
    "total_tokens_source", "usage_source", "usage_unavailable_reasons", "input_price_per_million",
    "input_price_source", "input_price_version", "input_price_snapshot_date",
    "input_price_effective_from", "input_price_effective_to", "output_price_per_million",
    "output_price_source", "output_price_version", "output_price_snapshot_date",
    "output_price_effective_from", "output_price_effective_to", "pricing_status",
    "pricing_unsupported_reasons", "cost_usd", "cost_status", "cost_unavailable_reasons",
    "status_code", "upstream_status_code", "outcome", "e2e_ms", "ttft_ms", "upstream_attempted",
    "stream", "cache_status", "context_compression_status", "context_compression_reason",
    "context_compression_backend", "context_compression_ccr", "context_compression_tokens_before",
    "context_compression_tokens_after", "context_compression_tokens_saved",
    "context_compression_hop_latency_ms"]

/-- The parameters that `insert_batch` binds: of each row the value of each column. -/
def insertParameters (rows : List Fact) : List (Fact × String) :=
  rows.flatMap fun fact => insertColumns.map fun column => (fact, column)

/-- The parameters that one statement of the protocol may have. -/
def MAX_PARAMETERS : Nat := 65535

theorem length_insertParameters (rows : List Fact) :
    (insertParameters rows).length = 66 * rows.length := by
  have hRow : ∀ fact : Fact, (insertColumns.map fun column => (fact, column)).length = 66 := by
    intro fact
    rw [List.length_map]
    rfl
  induction rows with
  | nil => rfl
  | cons fact rows ih =>
    rw [insertParameters, List.flatMap_cons, List.length_append, hRow, ← insertParameters, ih,
      List.length_cons, Nat.mul_succ, Nat.add_comm]

theorem fits_iff (rows : List Fact) :
    (insertParameters rows).length ≤ MAX_PARAMETERS ↔ rows.length ≤ 992 := by
  rw [length_insertParameters, MAX_PARAMETERS]
  omega

/-! ## Writing a batch -/

inductive AiUsageError where
  | invalidQuery (message : String)
  | snapshotExpired (message : String)
  | queryUnavailable (message : String)
  | queryTimeout (message : String)
  | writeOutcomeUnknown (message : String)
  | internal (message : String)

def transientTexts : List String :=
  ["connection", "pool timed out", "serialization", "could not serialize", "deadlock",
    "canceling statement due to statement timeout", "sqlstate 40001", "sqlstate 40p01",
    "sqlstate 57014"]

def isTransient : AiUsageError → Bool
  | .queryUnavailable _ | .queryTimeout _ | .writeOutcomeUnknown _ => true
  | .internal message => transientTexts.any fun needle =>
    needle.toList <:+: message.toList.map Char.toLower
  | .invalidQuery _ | .snapshotExpired _ => false

def AiUsageError.outcomeUnknown : AiUsageError → Bool
  | .writeOutcomeUnknown _ => true
  | _ => false

inductive FlushResult where
  | persisted
  | confirmedFailure
  | outcomeUnknown
  deriving DecidableEq

/-- In milliseconds. -/
def RETRY_DELAYS : List Nat := [50, 100, 200]

/-- The loop of `flush`, with what each call of `insert_batch` is given. -/
def flushFrom (facts : List Fact) (answers : Nat → Except AiUsageError Unit) (attempt : Nat)
    (sawUnknownOutcome : Bool) (retryDelays : List Nat) : FlushResult × List (List Fact) :=
  match answers attempt with
  | .ok _ => (.persisted, [facts])
  | .error e =>
    let sawUnknownOutcome := sawUnknownOutcome || e.outcomeUnknown
    match retryDelays with
    | _ :: retryDelays =>
      if isTransient e then
        let (result, calls) := flushFrom facts answers (attempt + 1) sawUnknownOutcome retryDelays
        (result, facts :: calls)
      else (if sawUnknownOutcome then .outcomeUnknown else .confirmedFailure, [facts])
    | [] => (if sawUnknownOutcome then .outcomeUnknown else .confirmedFailure, [facts])

def flush (facts : List Fact) (answers : Nat → Except AiUsageError Unit) :
    FlushResult × List (List Fact) :=
  flushFrom facts answers 0 false RETRY_DELAYS

theorem flushFrom_calls {facts rows : List Fact} {answers : Nat → Except AiUsageError Unit}
    {attempt : Nat} {unknown : Bool} {delays : List Nat}
    (h : rows ∈ (flushFrom facts answers attempt unknown delays).2) : rows = facts := by
  induction delays generalizing attempt unknown with
  | nil =>
    unfold flushFrom at h
    split at h <;> exact List.mem_singleton.mp h
  | cons delay delays ih =>
    unfold flushFrom at h
    split at h
    · exact List.mem_singleton.mp h
    · dsimp only at h
      split at h
      · obtain hFirst | hLater := List.mem_cons.mp h
        · exact hFirst
        · exact ih hLater
      · exact List.mem_singleton.mp h

/-! ## The runner -/

/-- The writer and its runner, with the arguments of every call of `insert_batch` so far. Times
are in milliseconds. -/
structure AiUsageWriterRunner (Fact : Type) where
  queueCapacity : Nat
  batchSize : Nat
  flushInterval : Nat
  shutdownWindow : Nat
  queue : List Fact
  hasSenders : Bool
  closed : Bool
  accepting : Bool
  dropped : Nat
  batch : List Fact
  nextFlush : Option Nat
  shutdownDeadline : Option Nat
  running : Bool
  inserts : List (List Fact)

def MAX_QUEUE_CAPACITY : Nat := 1000000
def MAX_BATCH_SIZE : Nat := 1129
def SHUTDOWN_DRAIN_WINDOW : Nat := 5000

def channelWithShutdown (queueCapacity batchSize flushInterval shutdownWindow : Nat) :
    Except String (AiUsageWriterRunner Fact) :=
  if queueCapacity = 0 then .error "ai_usage_queue_capacity 必须大于 0"
  else if MAX_QUEUE_CAPACITY < queueCapacity then
    .error ("ai_usage_queue_capacity 不能大于 " ++ toString MAX_QUEUE_CAPACITY)
  else if batchSize = 0 then .error "ai_usage_batch_size 必须大于 0"
  else if MAX_BATCH_SIZE < batchSize then
    .error ("ai_usage_batch_size 不能大于 " ++ toString MAX_BATCH_SIZE)
  else if queueCapacity < batchSize then
    .error "ai_usage_batch_size 不能大于 ai_usage_queue_capacity"
  else if flushInterval = 0 then .error "ai_usage_flush_interval 必须大于 0"
  else if shutdownWindow = 0 then .error "ai_usage_shutdown_timeout 必须大于 0"
  else .ok
    { queueCapacity, batchSize, flushInterval, shutdownWindow, queue := [], hasSenders := true,
      closed := false, accepting := true, dropped := 0, batch := [], nextFlush := none,
      shutdownDeadline := none, running := true, inserts := [] }

def channel (queueCapacity batchSize flushInterval : Nat) :
    Except String (AiUsageWriterRunner Fact) :=
  channelWithShutdown queueCapacity batchSize flushInterval SHUTDOWN_DRAIN_WINDOW

/-- What the store answers, and how many calls have begun when the deadline comes, if it comes
before the end. -/
structure Answers where
  store : Nat → Except AiUsageError Unit
  interrupted : Option Nat

namespace AiUsageWriterRunner

variable (runner : AiUsageWriterRunner Fact)

def tryEnqueue (fact : Fact) : AiUsageWriterRunner Fact :=
  if runner.accepting ∧ ¬ runner.closed ∧ runner.queue.length < runner.queueCapacity then
    { runner with queue := runner.queue ++ [fact] }
  else { runner with dropped := runner.dropped + 1 }

def flushWithDeadline (answers : Answers) : Bool × AiUsageWriterRunner Fact :=
  if runner.batch.isEmpty then (true, runner)
  else
    let (result, calls) := flush runner.batch answers.store
    match runner.shutdownDeadline, answers.interrupted with
    | some _, some begun =>
      (false, { runner with inserts := runner.inserts ++ calls.take begun, batch := [] })
    | _, _ => (true, { runner with
        inserts := runner.inserts ++ calls
        dropped := runner.dropped + if result = .confirmedFailure then runner.batch.length else 0
        batch := [] })

/-- `stop_and_count_remaining` and the end of the loop. -/
def stopAndCountRemaining : AiUsageWriterRunner Fact :=
  { runner with
    accepting := false, closed := true, running := false, batch := [], queue := []
    dropped := runner.dropped + runner.batch.length + runner.queue.length }

/-- A flush of the loop, after which the loop goes on or stops. -/
def flushOrStop (answers : Answers) : AiUsageWriterRunner Fact :=
  match runner.flushWithDeadline answers with
  | (true, runner) => { runner with nextFlush := none }
  | (false, runner) => runner.stopAndCountRemaining

/-- The branch of `receiver.recv()`. With an empty queue it waits as long as there are senders. -/
def receive (now : Nat) (answers : Answers) : AiUsageWriterRunner Fact :=
  match runner.queue with
  | fact :: queue =>
    let received := { runner with
      queue := queue
      nextFlush := if runner.batch.isEmpty then some (now + runner.flushInterval)
        else runner.nextFlush
      batch := runner.batch ++ [fact] }
    if runner.batchSize ≤ received.batch.length then received.flushOrStop answers else received
  | [] =>
    if runner.hasSenders ∧ ¬ runner.closed then runner
    else { (runner.flushWithDeadline answers).2 with
      accepting := false, closed := true, running := false }

inductive Event (Fact : Type) where
  | enqueue (fact : Fact)
  | dropSenders
  | receive (now : Nat) (answers : Answers)
  | flushDue (now : Nat) (answers : Answers)
  | shutdownChanged (now : Nat) (asked : Bool)
  | deadlineDue (now : Nat)

/-- A branch that the loop does not wait for changes nothing. -/
def step (runner : AiUsageWriterRunner Fact) (event : Event Fact) : AiUsageWriterRunner Fact :=
  match event with
  | .enqueue fact => if runner.hasSenders then runner.tryEnqueue fact else runner
  | .dropSenders => { runner with hasSenders := false }
  | .receive now answers => if runner.running then runner.receive now answers else runner
  | .flushDue now answers =>
    if runner.running ∧ runner.nextFlush.any (· ≤ now) then runner.flushOrStop answers
    else runner
  | .shutdownChanged now asked =>
    if runner.running ∧ runner.shutdownDeadline.isNone ∧ asked then
      { runner with shutdownDeadline := some (now + runner.shutdownWindow) }
    else runner
  | .deadlineDue now =>
    if runner.running ∧ runner.shutdownDeadline.any (· ≤ now) then runner.stopAndCountRemaining
    else runner

def run (events : List (Event Fact)) : AiUsageWriterRunner Fact := events.foldl step runner

/-! ## Batches -/

/-- Before a flush the batch may be full. No call had more facts than the batch size. -/
structure Loaded (size : Nat) : Prop where
  batchSize : runner.batchSize = size
  positive : 0 < size
  batch : runner.batch.length ≤ size
  inserts : ∀ rows ∈ runner.inserts, rows.length ≤ size

/-- Before and after every step the batch can take one more fact. -/
structure Bounded (size : Nat) : Prop where
  batchSize : runner.batchSize = size
  batch : runner.batch.length < size
  inserts : ∀ rows ∈ runner.inserts, rows.length ≤ size

variable {runner} {size : Nat}

theorem Bounded.loaded (h : runner.Bounded size) : runner.Loaded size :=
  ⟨h.batchSize, Nat.zero_lt_of_lt h.batch, h.batch.le, h.inserts⟩

theorem Loaded.flushWithDeadline (h : runner.Loaded size) (answers : Answers) :
    (runner.flushWithDeadline answers).2.Bounded size := by
  have hInserts : ∀ rows ∈ runner.inserts ++ (flush runner.batch answers.store).2,
      rows.length ≤ size := by
    intro rows hRows
    obtain hOld | hNew := List.mem_append.mp hRows
    · exact h.inserts rows hOld
    · rw [flushFrom_calls hNew]
      exact h.batch
  unfold AiUsageWriterRunner.flushWithDeadline
  split
  · next hEmpty =>
    rw [List.isEmpty_iff] at hEmpty
    exact ⟨h.batchSize, by rw [hEmpty]; exact h.positive, h.inserts⟩
  · dsimp only
    split
    · refine ⟨h.batchSize, h.positive, fun rows hRows => hInserts rows ?_⟩
      exact ((List.take_sublist _ _).append_left _).subset hRows
    · exact ⟨h.batchSize, h.positive, hInserts⟩

theorem Bounded.stop (h : runner.Bounded size) : runner.stopAndCountRemaining.Bounded size :=
  ⟨h.batchSize, Nat.zero_lt_of_lt h.batch, h.inserts⟩

theorem Loaded.flushOrStop (h : runner.Loaded size) (answers : Answers) :
    (runner.flushOrStop answers).Bounded size := by
  have hFlushed := h.flushWithDeadline answers
  unfold AiUsageWriterRunner.flushOrStop
  split
  · next hResult =>
    rw [hResult] at hFlushed
    exact ⟨hFlushed.batchSize, hFlushed.batch, hFlushed.inserts⟩
  · next hResult =>
    rw [hResult] at hFlushed
    exact hFlushed.stop

theorem Bounded.receive (h : runner.Bounded size) (now : Nat) (answers : Answers) :
    (runner.receive now answers).Bounded size := by
  unfold AiUsageWriterRunner.receive
  split
  · next fact queue hQueue =>
    have hLength : (runner.batch ++ [fact]).length = runner.batch.length + 1 :=
      List.length_append
    dsimp only
    split
    · refine Loaded.flushOrStop ⟨?_, h.loaded.positive, ?_, ?_⟩ answers
      · exact h.batchSize
      · exact hLength.le.trans h.batch
      · exact h.inserts
    · next hNotFull =>
      rw [h.batchSize, not_le] at hNotFull
      exact ⟨h.batchSize, hNotFull, h.inserts⟩
  · split
    · exact h
    · have hFlushed := h.loaded.flushWithDeadline answers
      exact ⟨hFlushed.batchSize, hFlushed.batch, hFlushed.inserts⟩

theorem Bounded.step (h : runner.Bounded size) (event : Event Fact) :
    (runner.step event).Bounded size := by
  cases event with
  | enqueue fact =>
    rw [AiUsageWriterRunner.step, tryEnqueue]
    split_ifs
    · exact ⟨h.batchSize, h.batch, h.inserts⟩
    · exact ⟨h.batchSize, h.batch, h.inserts⟩
    · exact h
  | dropSenders => exact ⟨h.batchSize, h.batch, h.inserts⟩
  | receive now answers =>
    rw [AiUsageWriterRunner.step]
    split
    · exact h.receive now answers
    · exact h
  | flushDue now answers =>
    rw [AiUsageWriterRunner.step]
    split
    · exact h.loaded.flushOrStop answers
    · exact h
  | shutdownChanged now asked =>
    rw [AiUsageWriterRunner.step]
    split
    · exact ⟨h.batchSize, h.batch, h.inserts⟩
    · exact h
  | deadlineDue now =>
    rw [AiUsageWriterRunner.step]
    split
    · exact h.stop
    · exact h

theorem Bounded.run (h : runner.Bounded size) (events : List (Event Fact)) :
    (runner.run events).Bounded size := by
  induction events generalizing runner with
  | nil => exact h
  | cons event events ih => exact ih (h.step event)

/-! ## A full batch -/

/-- Facts are accepted, the loop runs, and the batch has so many facts. -/
structure Filled (runner : AiUsageWriterRunner Fact) (size n : Nat) : Prop where
  hasSenders : runner.hasSenders = true
  accepts : runner.accepting = true ∧ runner.closed = false
  running : runner.running = true
  batchSize : runner.batchSize = size
  capacity : 0 < runner.queueCapacity
  queue : runner.queue = []
  batch : runner.batch.length = n

/-- The store takes every batch. -/
def stored : Answers := ⟨fun _ => .ok (), none⟩

/-- A fact is enqueued and received. -/
def round (fact : Fact) : List (Event Fact) := [.enqueue fact, .receive 0 stored]

variable {n : Nat}

theorem Filled.run_round (h : runner.Filled size n) (fact : Fact) :
    ∃ nextFlush, runner.run (round fact) =
      let received := { runner with nextFlush := nextFlush, batch := runner.batch ++ [fact] }
      if size ≤ n + 1 then received.flushOrStop stored else received := by
  have hEnqueued : runner.step (.enqueue fact) = { runner with queue := [fact] } := by
    simp [step, tryEnqueue, h.hasSenders, h.accepts, h.queue, h.capacity]
  refine ⟨if runner.batch.isEmpty then some (0 + runner.flushInterval) else runner.nextFlush, ?_⟩
  change (runner.step (.enqueue fact)).step (.receive 0 stored) = _
  rw [hEnqueued, step, if_pos h.running, receive]
  simp [h.batchSize, h.batch, h.queue]

theorem Filled.more (h : runner.Filled size n) (hMore : n + 1 < size) (fact : Fact) :
    (runner.run (round fact)).Filled size (n + 1) := by
  obtain ⟨nextFlush, hRun⟩ := h.run_round fact
  dsimp only at hRun
  rw [if_neg (not_le.mpr hMore)] at hRun
  rw [hRun]
  exact ⟨h.hasSenders, h.accepts, h.running, h.batchSize, h.capacity, h.queue, by simp [h.batch]⟩

theorem flushOrStop_stored (hBatch : runner.batch ≠ []) :
    (runner.flushOrStop stored).inserts = runner.inserts ++ [runner.batch] := by
  have hNotEmpty : ¬ runner.batch.isEmpty = true := by simpa using hBatch
  unfold flushOrStop flushWithDeadline
  rw [if_neg hNotEmpty]
  cases runner.shutdownDeadline <;> rfl

theorem run_append (events later : List (Event Fact)) :
    runner.run (events ++ later) = (runner.run events).run later :=
  List.foldl_append

theorem Filled.exists_filled (h : runner.Filled size 0) (fact : Fact) (hMore : n < size) :
    ∃ events, (runner.run events).Filled size n := by
  induction n with
  | zero => exact ⟨[], h⟩
  | succ n ih =>
    obtain ⟨events, hFilled⟩ := ih (by omega)
    exact ⟨events ++ round fact, by rw [run_append]; exact hFilled.more hMore fact⟩

/-- A batch of the batch size is written. -/
theorem Filled.exists_full (h : runner.Filled size 0) (hSize : 0 < size) (fact : Fact) :
    ∃ events, ∃ rows ∈ (runner.run events).inserts, rows.length = size := by
  obtain ⟨events, hFilled⟩ := h.exists_filled fact (Nat.sub_one_lt hSize.ne')
  obtain ⟨nextFlush, hRun⟩ := hFilled.run_round fact
  dsimp only at hRun
  rw [if_pos (by omega)] at hRun
  refine ⟨events ++ round fact, (runner.run events).batch ++ [fact], ?_, ?_⟩
  · rw [run_append, hRun, flushOrStop_stored (by simp)]
    simp
  · rw [List.length_append, hFilled.batch, List.length_singleton]
    omega

end AiUsageWriterRunner

open AiUsageWriterRunner

variable {queueCapacity size flushInterval shutdownWindow : Nat}
  {runner : AiUsageWriterRunner Fact}

/-- What the checks of `channel` leave. -/
theorem channel_fresh (h : channelWithShutdown queueCapacity size flushInterval shutdownWindow =
    .ok runner) : runner.Bounded size ∧ runner.Filled size 0 := by
  unfold channelWithShutdown at h
  split_ifs at h with hQueue hQueueMax hSize hSizeMax hCapacity
  cases h
  exact ⟨⟨rfl, Nat.pos_of_ne_zero hSize, by simp⟩,
    ⟨rfl, ⟨rfl, rfl⟩, rfl, rfl, Nat.pos_of_ne_zero hQueue, rfl, rfl⟩⟩

/-- No statement of any run has too many parameters just if the batch size is 992 at most. -/
theorem batches_fit_iff [Inhabited Fact]
    (h : channelWithShutdown queueCapacity size flushInterval shutdownWindow = .ok runner) :
    (∀ events, ∀ rows ∈ (runner.run events).inserts,
      (insertParameters rows).length ≤ MAX_PARAMETERS) ↔ size ≤ 992 := by
  obtain ⟨hBounded, hFilled⟩ := channel_fresh h
  constructor
  · intro hFits
    obtain ⟨events, rows, hRows, hLength⟩ := hFilled.exists_full hBounded.loaded.positive default
    rw [← hLength]
    exact (fits_iff rows).mp (hFits events rows hRows)
  · intro hSize events rows hRows
    exact (fits_iff rows).mpr (((hBounded.run events).inserts rows hRows).trans hSize)

theorem batches_fit_sample : ∃ runner : AiUsageWriterRunner String,
    channel 8192 256 500 = .ok runner ∧ ∀ events, ∀ rows ∈ (runner.run events).inserts,
      (insertParameters rows).length ≤ MAX_PARAMETERS :=
  have hChannel : channel 8192 256 500 = .ok _ := rfl
  ⟨_, hChannel, (batches_fit_iff hChannel).mpr (by decide)⟩

/-- The largest batch size that is accepted is too large. -/
theorem not_batches_fit : ¬ ∀ (queueCapacity size flushInterval : Nat)
    (runner : AiUsageWriterRunner String), channel queueCapacity size flushInterval = .ok runner →
    ∀ events, ∀ rows ∈ (runner.run events).inserts,
      (insertParameters rows).length ≤ MAX_PARAMETERS := by
  intro hAll
  have hChannel : ∃ runner : AiUsageWriterRunner String, channel 8192 MAX_BATCH_SIZE 500 =
    .ok runner := ⟨_, rfl⟩
  obtain ⟨runner, hRunner⟩ := hChannel
  obtain ⟨hBounded, hFilled⟩ := channel_fresh hRunner
  obtain ⟨events, rows, hRows, hLength⟩ :=
    hFilled.exists_full hBounded.loaded.positive "request"
  have hFits := (fits_iff rows).mp (hAll 8192 MAX_BATCH_SIZE 500 runner hRunner events rows hRows)
  rw [hLength] at hFits
  exact absurd hFits (by decide)

end KongRust.Usage

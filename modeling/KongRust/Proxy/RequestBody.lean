import KongRust.Proxy.SpillableBuffer

/-!
# Request bodies

The request body on its way to the upstream (`kong-proxy/src/lib.rs`). A body that was read ahead
for the plugins is kept in a buffer and released at the end of the stream; a body that was not is
collected in the same buffer. A filled buffer is taken for a body that was read ahead, so of a body
that comes in pieces only the first piece is kept.
-/

namespace KongRust.Proxy

open SpillableBuffer

/-- The fields of the request context that concern the body: `requestBuffering` is that of the
matched route, `readTimeout` that of the service, and times are in nanoseconds. -/
structure BodyCtx where
  upstreamBody : Option (List UInt8)
  requestBodyBuf : Option SpillableBuffer
  isGrpcRequest : Bool
  requestBuffering : Option Bool
  readTimeout : Option Int32
  lastBodyChunkAt : Option Nat

inductive BodyError where
  | readTimedout
  deriving DecidableEq

/-- A call of the body filter, with what the disk and the clock do during it. -/
structure BodyCall where
  body : Option (List UInt8)
  endOfStream : Bool
  now : Nat
  disk : Disk
  delivered : Nat

namespace BodyCtx

/-! ## The filter -/

variable (ctx : BodyCtx)

def buffering (ctx : BodyCtx) : Bool :=
  if ctx.isGrpcRequest then false else ctx.requestBuffering.getD true

def timeoutSecs (ctx : BodyCtx) : Nat :=
  max ((ctx.readTimeout.map fun timeout => timeout.toInt64.toUInt64.toNat / 1000).getD 60) 60

def timedOut (ctx : BodyCtx) (now : Nat) : Bool :=
  ctx.lastBodyChunkAt.any fun lastAt => ctx.timeoutSecs < (now - lastAt) / 10 ^ 9

/-- Put the bytes of a call into the buffer. -/
def collect (ctx : BodyCtx) (call : BodyCall) : BodyCtx :=
  match call.body with
  | some data =>
    { ctx with
      lastBodyChunkAt := some call.now
      requestBodyBuf := some ((ctx.requestBodyBuf.getD .new).extend data call.disk) }
  | none => ctx

/-- What is passed on, and the context after the call. -/
def requestBodyFilter (ctx : BodyCtx) (call : BodyCall) :
    Except BodyError (Option (List UInt8) × BodyCtx) :=
  match ctx.upstreamBody with
  | some upstreamBody =>
    if call.endOfStream then .ok (some upstreamBody, ctx) else .ok (none, ctx)
  | none =>
    match ctx.requestBodyBuf with
    | some buf =>
      if call.endOfStream then
        .ok (some (buf.finish call.delivered), { ctx with requestBodyBuf := none })
      else .ok (none, ctx)
    | none =>
      if ctx.buffering = false then .ok (call.body, ctx)
      else if ctx.timedOut call.now then .error .readTimedout
      else
        let collected := ctx.collect call
        if call.endOfStream then
          .ok (collected.requestBodyBuf.map fun buf => buf.finish call.delivered,
            { collected with requestBodyBuf := none })
        else .ok (none, collected)

def filterRun (ctx : BodyCtx) : List BodyCall → Except BodyError (List (Option (List UInt8)))
  | [] => .ok []
  | call :: calls => do
    let passed ← ctx.requestBodyFilter call
    let rest ← passed.2.filterRun calls
    pure (passed.1 :: rest)

end BodyCtx

/-! ## Streams -/

/-- The calls for a body: the last one ends the stream. -/
structure BodyStream where
  early : List BodyCall
  last : BodyCall
  goesOn : ∀ call ∈ early, call.endOfStream = false
  ends : last.endOfStream = true

namespace BodyStream

def calls (stream : BodyStream) : List BodyCall := stream.early ++ [stream.last]

end BodyStream

def bodyBytes (calls : List BodyCall) : List UInt8 := calls.flatMap fun call => call.body.getD []

def fromFirst (calls : List BodyCall) : List BodyCall :=
  calls.dropWhile fun call => call.body.isNone

namespace BodyCtx

/-- A request as the body filter finds it: no plugin has replaced the body, no chunk has come. -/
structure Fresh (ctx : BodyCtx) : Prop where
  upstreamBody : ctx.upstreamBody = none
  lastBodyChunkAt : ctx.lastBodyChunkAt = none

def ReleasedAtEnd (passed : List (Option (List UInt8))) (body : List UInt8) : Prop :=
  (∀ early ∈ passed.dropLast, early = none) ∧ (passed.getLast?.join.getD []) = body

/-- A body read ahead is released at the end, without buffering every chunk passes, and with it all
chunks are released at the end, in one piece. -/
def Delivers (ctx : BodyCtx) (stream : BodyStream) : Prop :=
  ∃ passed, ctx.filterRun stream.calls = .ok passed ∧
    match ctx.requestBodyBuf with
    | some buf => ReleasedAtEnd passed buf.contents
    | none =>
      if ctx.buffering = false then passed = stream.calls.map (·.body)
      else ReleasedAtEnd passed (bodyBytes stream.calls)

/-- The buffer is read back, and behind the first chunk of a body that is collected there are no
bytes. -/
def DeliversWhen (ctx : BodyCtx) (stream : BodyStream) : Prop :=
  match ctx.requestBodyBuf with
  | some buf => buf.ReadBack stream.last.delivered
  | none => ctx.buffering = true → ∀ first rest, fromFirst stream.calls = first :: rest →
      bodyBytes rest = [] ∧
      (SpillableBuffer.new.extend (first.body.getD []) first.disk).ReadBack stream.last.delivered

/-! ## Runs of the filter -/

variable {ctx : BodyCtx}

theorem filterRun_cons (next : BodyCtx) {call : BodyCall} {calls : List BodyCall}
    {body : Option (List UInt8)} {passed : List (Option (List UInt8))}
    (hCall : ctx.requestBodyFilter call = .ok (body, next))
    (hRest : next.filterRun calls = .ok passed) :
    ctx.filterRun (call :: calls) = .ok (body :: passed) := by
  rw [filterRun, hCall]
  dsimp only [bind, Except.bind]
  rw [hRest]
  rfl

variable {early : List BodyCall} {last : BodyCall}

theorem filterRun_filled {buf : SpillableBuffer} (hBody : ctx.upstreamBody = none)
    (hBuf : ctx.requestBodyBuf = some buf) (hEarly : ∀ call ∈ early, call.endOfStream = false)
    (hLast : last.endOfStream = true) :
    ctx.filterRun (early ++ [last]) =
      .ok (early.map (fun _ => none) ++ [some (buf.finish last.delivered)]) := by
  induction early with
  | nil =>
    apply filterRun_cons { ctx with requestBodyBuf := none } _ rfl
    simp only [requestBodyFilter, hBody, hBuf, hLast, if_true]
  | cons call early ih =>
    obtain ⟨hCall, hRest⟩ := List.forall_mem_cons.mp hEarly
    apply filterRun_cons ctx _ (ih hRest)
    simp only [requestBodyFilter, hBody, hBuf, hCall, Bool.false_eq_true, if_false]

theorem filterRun_unbuffered (hBody : ctx.upstreamBody = none) (hBuf : ctx.requestBodyBuf = none)
    (hBuffering : ctx.buffering = false) (calls : List BodyCall) :
    ctx.filterRun calls = .ok (calls.map (·.body)) := by
  induction calls with
  | nil => rfl
  | cons call calls ih =>
    apply filterRun_cons ctx _ ih
    simp only [requestBodyFilter, hBody, hBuf, hBuffering, if_true]

def collected (calls : List BodyCall) (delivered : Nat) : Option (List UInt8) :=
  (fromFirst calls).head?.map fun first =>
    (SpillableBuffer.new.extend (first.body.getD []) first.disk).finish delivered

theorem timedOut_of_fresh (h : ctx.lastBodyChunkAt = none) (now : Nat) :
    ctx.timedOut now = false := by
  rw [timedOut, h]
  rfl

/-- The first chunk fills the buffer, and what comes behind it is dropped. -/
theorem filterRun_buffered (hFresh : ctx.Fresh) (hBuf : ctx.requestBodyBuf = none)
    (hBuffering : ctx.buffering = true) (hEarly : ∀ call ∈ early, call.endOfStream = false)
    (hLast : last.endOfStream = true) :
    ctx.filterRun (early ++ [last]) = .ok (early.map (fun _ => none) ++
      [collected (early ++ [last]) last.delivered]) := by
  have hTimed := timedOut_of_fresh hFresh.lastBodyChunkAt
  induction early with
  | nil =>
    apply filterRun_cons { ctx.collect last with requestBodyBuf := none } _ rfl
    simp only [requestBodyFilter, hFresh.upstreamBody, hBuf, hBuffering, hTimed, hLast,
      Bool.true_eq_false, Bool.false_eq_true, if_false, if_true]
    cases hLastBody : last.body with
    | none | some data => simp [collect, collected, fromFirst, hLastBody, hBuf]
  | cons call early ih =>
    obtain ⟨hCall, hRest⟩ := List.forall_mem_cons.mp hEarly
    have hStep : ctx.requestBodyFilter call = .ok (none, ctx.collect call) := by
      simp only [requestBodyFilter, hFresh.upstreamBody, hBuf, hBuffering, hTimed, hCall,
        Bool.true_eq_false, Bool.false_eq_true, if_false]
    cases hBody : call.body with
    | none =>
      have hSame : ctx.collect call = ctx := by rw [collect, hBody]
      have hFirst : fromFirst (call :: early ++ [last]) = fromFirst (early ++ [last]) := by
        simp [fromFirst, hBody]
      rw [hSame] at hStep
      rw [collected, hFirst]
      exact filterRun_cons _ hStep (ih hRest)
    | some data =>
      have hFilled : (ctx.collect call).requestBodyBuf =
          some (new.extend data call.disk) := by
        rw [collect, hBody, hBuf]
        rfl
      have hUpstream : (ctx.collect call).upstreamBody = none := by
        rw [collect, hBody]
        exact hFresh.upstreamBody
      have hCollected : collected (call :: early ++ [last]) last.delivered =
          some ((new.extend data call.disk).finish last.delivered) := by
        simp [collected, fromFirst, hBody]
      rw [hCollected]
      exact filterRun_cons _ hStep (filterRun_filled hUpstream hFilled hRest hLast)

/-! ## When the body arrives -/

theorem releasedAtEnd_iff {released : Option (List UInt8)} {body : List UInt8} :
    ReleasedAtEnd (early.map (fun _ => none) ++ [released]) body ↔ released.getD [] = body := by
  unfold ReleasedAtEnd
  rw [List.dropLast_concat, List.getLast?_concat, Option.join_some]
  constructor
  · exact fun h => h.2
  · intro h
    refine ⟨?_, h⟩
    intro passed hPassed
    obtain ⟨_, _, rfl⟩ := List.mem_map.mp hPassed
    rfl

theorem bodyBytes_fromFirst (calls : List BodyCall) :
    bodyBytes (fromFirst calls) = bodyBytes calls := by
  induction calls with
  | nil => rfl
  | cons call calls ih =>
    cases hBody : call.body with
    | none =>
      have hFirst : fromFirst (call :: calls) = fromFirst calls := by simp [fromFirst, hBody]
      rw [hFirst, ih, bodyBytes, bodyBytes, List.flatMap_cons, hBody]
      rfl
    | some data =>
      have hFirst : fromFirst (call :: calls) = call :: calls := by simp [fromFirst, hBody]
      rw [hFirst]

theorem finish_eq_contents_iff (buf : SpillableBuffer) (delivered : Nat) :
    buf.finish delivered = buf.contents ↔ buf.ReadBack delivered := by
  have hRun := buf.finish_run_iff [] delivered
  simpa [run, chunks, Written] using hRun

theorem contents_new (data : List UInt8) (disk : Disk) :
    (new.extend data disk).contents = data := by
  rw [contents_extend]
  rfl

theorem finish_first_iff {first : BodyCall} {rest : List BodyCall} {delivered : Nat} :
    (new.extend (first.body.getD []) first.disk).finish delivered = bodyBytes (first :: rest) ↔
      bodyBytes rest = [] ∧
        (new.extend (first.body.getD []) first.disk).ReadBack delivered := by
  have hBytes : bodyBytes (first :: rest) = first.body.getD [] ++ bodyBytes rest := by
    rw [bodyBytes, List.flatMap_cons]
    rfl
  rw [hBytes]
  constructor
  · intro hAll
    have hShort : ((new.extend (first.body.getD []) first.disk).finish
        delivered).length ≤ (first.body.getD []).length := by
      rw [finish_eq, contents_new]
      split
      · exact List.length_take_le' _ _
      · exact Nat.le_refl _
    have hEmpty : bodyBytes rest = [] := by
      rw [hAll, List.length_append] at hShort
      exact List.length_eq_zero_iff.mp (by omega)
    refine ⟨hEmpty, ?_⟩
    rw [← finish_eq_contents_iff, contents_new, hAll, hEmpty, List.append_nil]
  · rintro ⟨hEmpty, hRead⟩
    rw [(finish_eq_contents_iff _ _).mpr hRead, contents_new, hEmpty, List.append_nil]

/-- A body arrives whole just if it is read back and no chunk comes behind the first one of a body
that is collected. -/
theorem delivers_iff (ctx : BodyCtx) (stream : BodyStream) (hFresh : ctx.Fresh) :
    ctx.Delivers stream ↔ ctx.DeliversWhen stream := by
  unfold Delivers DeliversWhen
  cases hBuf : ctx.requestBodyBuf with
  | some buf =>
    have hRun := filterRun_filled hFresh.upstreamBody hBuf stream.goesOn stream.ends
    dsimp only
    rw [← finish_eq_contents_iff]
    constructor
    · rintro ⟨passed, hPassed, hReleased⟩
      rw [BodyStream.calls, hRun] at hPassed
      cases hPassed
      exact releasedAtEnd_iff.mp hReleased
    · intro hFinish
      exact ⟨_, hRun, releasedAtEnd_iff.mpr hFinish⟩
  | none =>
    cases hBuffering : ctx.buffering with
    | false =>
      have hRun := filterRun_unbuffered hFresh.upstreamBody hBuf hBuffering stream.calls
      constructor
      · intro _ hNot
        cases hNot
      · intro _
        exact ⟨_, hRun, rfl⟩
    | true =>
      have hRun := filterRun_buffered hFresh hBuf hBuffering stream.goesOn stream.ends
      have hBytes := bodyBytes_fromFirst stream.calls
      have hReleased : (collected stream.calls stream.last.delivered).getD [] =
          bodyBytes stream.calls ↔ ∀ first rest, fromFirst stream.calls = first :: rest →
            bodyBytes rest = [] ∧ (new.extend (first.body.getD [])
              first.disk).ReadBack stream.last.delivered := by
        rw [← hBytes, collected]
        cases hFirst : fromFirst stream.calls with
        | nil => simp [bodyBytes]
        | cons first rest =>
          rw [List.head?_cons, Option.map_some, Option.getD_some, finish_first_iff]
          constructor
          · rintro hBoth _ _ ⟨rfl, rfl⟩
            exact hBoth
          · exact fun hAll => hAll first rest rfl
      constructor
      · rintro ⟨passed, hPassed, hEnd⟩ _
        rw [BodyStream.calls, hRun] at hPassed
        cases hPassed
        exact hReleased.mp (releasedAtEnd_iff.mp hEnd)
      · intro hWhen
        refine ⟨_, hRun, ?_⟩
        exact releasedAtEnd_iff.mpr (hReleased.mpr (hWhen rfl))

def sampleStream : BodyStream where
  early := [⟨some [97, 98, 99], false, 0, ⟨true, 0, 0⟩, 0⟩,
    ⟨some [100, 101], false, 5, ⟨true, 0, 0⟩, 0⟩]
  last := ⟨none, true, 9, ⟨true, 0, 0⟩, 0⟩
  goesOn := by decide
  ends := rfl

def sampleCtx : BodyCtx := ⟨none, none, false, some true, none, none⟩

theorem delivers_preloaded : { sampleCtx with
    requestBodyBuf := some (fromBytes [97, 98, 99]) }.Delivers sampleStream :=
  (delivers_iff _ sampleStream ⟨rfl, rfl⟩).mpr fun hSpilled => by cases hSpilled

theorem delivers_two_chunks : ¬ sampleCtx.Delivers sampleStream := by
  rintro ⟨passed, hPassed, _, hReleased⟩
  have hRun : sampleCtx.filterRun sampleStream.calls = .ok [none, none, some [97, 98, 99]] := rfl
  rw [hRun] at hPassed
  cases hPassed
  exact absurd hReleased (by decide)

end BodyCtx

end KongRust.Proxy

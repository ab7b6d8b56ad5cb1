import KongRust.Ai.Proxy

/-!
# A stream in chunks

The bytes of a stream come in the calls of the body filter. Bytes of a character that has begun
and text of an event that has begun are kept, so the events of all calls together are those of the
whole text, and so is what a branch of the filter makes of them.
-/

namespace KongRust.Ai

open KongRust Transducer

/-! ## The calls of the filter -/

abbrev Call := Option (List UInt8) × Bool

/-- The calls in which a body comes: the last one ends it, with a chunk or without. -/
def calls (earlier : List (Option (List UInt8))) (last : Option (List UInt8)) : List Call :=
  earlier.map (fun chunk => (chunk, false)) ++ [(last, true)]

def callBytes (given : List (Option (List UInt8))) : List UInt8 :=
  given.flatMap fun chunk => chunk.getD []

namespace StreamDecoder

variable (parser : Option SseParser)

/-- The decoder when a text has been fed and a character has begun. -/
def after (parser : Option SseParser) (pending : Option Utf8.Pending) (text : List Char) :
    StreamDecoder :=
  ⟨parser.map fun parser => (parser.feed text).1, Utf8.kept pending⟩

def newEvents (parser : Option SseParser) (text more : List Char) : List SseEvent :=
  (parser.map fun parser => ((parser.feed text).1.feed more).2).getD []

def leftEvents (parser : Option SseParser) (text : List Char) : List SseEvent :=
  (parser.map fun parser => (parser.feed text).1.flush.2).getD []

theorem newEvents_nil (text : List Char) : newEvents parser text [] = [] := by
  cases parser with
  | none => rfl
  | some parser => simp only [newEvents, Option.map_some, Option.getD_some, SseParser.feed_feed_nil]

theorem newEvents_append (text a b : List Char) :
    newEvents parser text (a ++ b) = newEvents parser text a ++ newEvents parser (text ++ a) b := by
  cases parser with
  | none => rfl
  | some parser =>
    simp only [newEvents, Option.map_some, Option.getD_some]
    rw [SseParser.feed_append, SseParser.feed_append]

theorem feed_after (pending : Option Utf8.Pending) (text more : List Char) :
    (after parser pending text).feed (if more.isEmpty then none else some more) =
      (after parser pending (text ++ more), newEvents parser text more) := by
  cases more with
  | nil => rw [List.append_nil, newEvents_nil]; rfl
  | cons c more =>
    cases parser with
    | none => rfl
    | some parser =>
      simp only [after, feed, newEvents, List.isEmpty_cons, Bool.false_eq_true, if_false,
        Option.map_some, Option.getD_some]
      rw [SseParser.feed_append]

variable {pending : Option Utf8.Pending} {more : List Char}

section

variable (hReached : Utf8.Reached pending) (parser : Option SseParser) (text : List Char)
include hReached

theorem decode_after {chunk : List UInt8} (h : (run Utf8.step pending chunk).2 = more.map some) :
    (after parser pending text).decodeStreamChunk chunk =
      (after parser (run Utf8.step pending chunk).1 text,
        if more.isEmpty then none else some more, false) := by
  have hText := Utf8.fromUtf8_kept hReached h
  unfold decodeStreamChunk
  simp only [after]
  rw [hText]
  cases (run Utf8.step pending chunk).1 <;> rfl

variable {chunk : Option (List UInt8)}

theorem take_after (h : (run Utf8.step pending (chunk.getD [])).2 = more.map some) :
    (after parser pending text).take chunk false =
      ⟨after parser (run Utf8.step pending (chunk.getD [])).1 (text ++ more),
        newEvents parser text more, false, false⟩ := by
  cases chunk with
  | none =>
    rw [List.map_eq_nil_iff.mp h.symm, List.append_nil, newEvents_nil]
    rfl
  | some chunk =>
    simp only [Option.getD_some] at h ⊢
    simp only [take, decode_after hReached _ _ h, feed_after, Bool.false_eq_true, if_false]

theorem take_last (h : run Utf8.step pending (chunk.getD []) = (none, more.map some)) :
    (after parser pending text).take chunk true = ⟨(after parser none (text ++ more)).flush.1,
        newEvents parser text more ++ leftEvents parser (text ++ more), false, false⟩ := by
  have hOpen := take_after hReached parser text (congrArg Prod.snd h)
  rw [h] at hOpen
  have hFlush : (after parser none (text ++ more)).flush.2 = leftEvents parser (text ++ more) := by
    cases parser <;> rfl
  rw [← hFlush]
  unfold take at hOpen ⊢
  rw [if_neg Bool.false_ne_true] at hOpen
  rw [if_pos rfl, hOpen]
  rfl

end

end StreamDecoder

/-! ## What a branch makes of a stream -/

open StreamDecoder in
def streamCall {ε : Type} (note : StreamDecoder.Taken → Observed → Observed)
    (step : Observed → SseEvent → Observed × List ε) (finish : Observed → Observed)
    (s : StreamDecoder × Observed) (call : Call) : (StreamDecoder × Observed) × List ε :=
  let taken := s.1.take call.1 call.2
  let r := Transducer.run step (note taken s.2) taken.events
  ((taken.decoder, if call.2 then finish r.1 else r.1), r.2)

section Branch

variable {ε : Type} {note : StreamDecoder.Taken → Observed → Observed}
  (step : Observed → SseEvent → Observed × List ε) (finish : Observed → Observed)
  (hNote : ∀ (taken : StreamDecoder.Taken) (o : Observed),
    taken.invalid = false → taken.incomplete = false → note taken o = o)
  (parser : Option SseParser)

include hNote

variable {earlier : List (Option (List UInt8))}

open StreamDecoder in
theorem run_open {pending : Option Utf8.Pending} {more : List Char}
    (hReached : Utf8.Reached pending)
    (h : (run Utf8.step pending (callBytes earlier)).2 = more.map some) (text : List Char)
    (o : Observed) :
    run (streamCall note step finish) (after parser pending text, o)
        (earlier.map fun chunk => (chunk, false)) =
      ((after parser (run Utf8.step pending (callBytes earlier)).1 (text ++ more),
        (run step o (newEvents parser text more)).1),
        (run step o (newEvents parser text more)).2) := by
  induction earlier generalizing pending more text o with
  | nil =>
    rw [List.map_eq_nil_iff.mp h.symm, List.append_nil, newEvents_nil]
    rfl
  | cons chunk earlier ih =>
    have hBytes : callBytes (chunk :: earlier) = chunk.getD [] ++ callBytes earlier := rfl
    rw [hBytes, run_append] at h ⊢
    obtain ⟨first, later, rfl, hFirst, hLater⟩ := List.map_eq_append_iff.mp h.symm
    have hTake := take_after hReached parser text hFirst.symm
    have hRest := ih (Utf8.reached_run hReached (chunk.getD [])) hLater.symm (text ++ first)
      (run step o (newEvents parser text first)).1
    have hCall : streamCall note step finish (after parser pending text, o) (chunk, false) =
        ((after parser (run Utf8.step pending (chunk.getD [])).1 (text ++ first),
          (run step o (newEvents parser text first)).1),
          (run step o (newEvents parser text first)).2) := by
      simp only [streamCall, hTake, Bool.false_eq_true, if_false]
      rw [hNote _ o rfl rfl]
    rw [List.map_cons, run, hCall, hRest, newEvents_append, run_append, List.append_assoc]

open StreamDecoder in
/-- A branch for streams sees the events of the whole text, in whichever calls its bytes come. -/
theorem run_streamCall {last : Option (List UInt8)} {text : List Char}
    (h : run Utf8.step none (callBytes earlier ++ last.getD []) = (none, text.map some))
    (o : Observed) : let r := run step o (newEvents parser [] text ++ leftEvents parser text)
    run (streamCall note step finish) (after parser none [], o) (calls earlier last) =
      (((after parser none text).flush.1, finish r.1), r.2) := by
  intro r
  rw [run_append] at h
  obtain ⟨hEnd, hText⟩ := Prod.mk.inj h
  obtain ⟨first, later, rfl, hFirst, hLater⟩ := List.map_eq_append_iff.mp hText.symm
  have hReached := Utf8.reached_run (show Utf8.Reached none from trivial) (callBytes earlier)
  have hTake := take_last hReached parser first (Prod.ext hEnd hLater.symm)
  have hOpen := run_open step finish hNote parser (show Utf8.Reached none from trivial)
    hFirst.symm [] o
  rw [List.nil_append] at hOpen
  have hCall : streamCall note step finish
        (after parser (run Utf8.step none (callBytes earlier)).1 first,
          (run step o (newEvents parser [] first)).1) (last, true) =
      (((after parser none (first ++ later)).flush.1,
        finish (run step (run step o (newEvents parser [] first)).1
          (newEvents parser first later ++ leftEvents parser (first ++ later))).1),
        (run step (run step o (newEvents parser [] first)).1
          (newEvents parser first later ++ leftEvents parser (first ++ later))).2) := by
    simp only [streamCall, hTake, if_true]
    rw [hNote _ _ rfl rfl]
  have hEvents : newEvents parser [] (first ++ later) ++ leftEvents parser (first ++ later) =
      newEvents parser [] first ++
        (newEvents parser first later ++ leftEvents parser (first ++ later)) := by
    rw [newEvents_append, List.nil_append, List.append_assoc]
  rw [calls, run_append, hOpen]
  simp only [r, run, hCall]
  rw [hEvents, run_append step o (newEvents parser [] first), List.append_nil]

end Branch

end KongRust.Ai

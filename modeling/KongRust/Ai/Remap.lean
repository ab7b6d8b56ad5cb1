import KongRust.Ai.ChatFormat

/-!
# The indexes of tool calls

Providers count the tool calls of a stream in their own ways. `remap_tool_call_index` numbers
them again from 0 as they start, with nothing but a counter: an element without identifier is
taken for a part of the call that started last.
-/

namespace KongRust.Ai

open KongRust

/-! ## Changing a chunk -/

/-- The elements at `choices[0].delta.tool_calls`, if the path leads to an array. -/
def callsOf (chunk : Json) : Option (List Json) :=
  ((Chunk.delta chunk).bind fun delta => delta.get "tool_calls").bind Json.asArray

/-- `tc["index"] = …`, written back along the same path. -/
def setCalls (chunk : Json) (calls : List Json) : Json :=
  chunk.modify "choices" fun choices =>
    match choices with
    | .array (choice :: rest) =>
      .array (choice.modify "delta" (fun delta => delta.setField "tool_calls" (.array calls)) ::
        rest)
    | other => other

def setIndex (call : Json) (index : UInt32) : Json :=
  call.setField "index" (.number (.posInt index.toUInt64))

variable (counter : UInt32)

/-- `counter.saturating_sub(1)`. -/
def lastGiven (counter : UInt32) : UInt32 := if counter = 0 then 0 else counter - 1

/-- One element: the counter after it, the element as it is handed on, and whether it was
changed. -/
def remapCall (counter : UInt32) (call : Json) : UInt32 × Json × Bool :=
  if (Chunk.callId call).isSome then (counter + 1, setIndex call counter, true)
  else if (call.get "index").isSome then (counter, setIndex call (lastGiven counter), true)
  else (counter, call, false)

def remapCalls : UInt32 → List Json → UInt32 × List Json × Bool
  | counter, [] => (counter, [], false)
  | counter, call :: calls =>
    let (counter, call, changed) := remapCall counter call
    let (counter, calls, modified) := remapCalls counter calls
    (counter, call :: calls, changed || modified)

variable (J : JsonText)

/-- `remap_tool_call_index`, with the counter that it leaves. -/
def remapToolCallIndex (J : JsonText) (data : String) (counter : UInt32) :
    UInt32 × Option String :=
  match J.parse data with
  | .error _ => (counter, none)
  | .ok chunk =>
    match callsOf chunk with
    | none => (counter, none)
    | some calls =>
      let (counter, calls, modified) := remapCalls counter calls
      (counter, if modified then some (J.print (setCalls chunk calls)) else none)

/-- The chunks of a stream as `body_filter` hands them on. -/
def remapStream (J : JsonText) : UInt32 → List String → List String
  | _, [] => []
  | counter, data :: rest =>
    let (counter, remapped) := remapToolCallIndex J data counter
    remapped.getD data :: remapStream J counter rest

/-! ## What a chunk says -/

def callIndex (call : Json) : Option UInt64 := (call.get "index").bind Json.asU64

def IsStart (call : Json) : Prop := (Chunk.callId call).isSome

instance (call : Json) : Decidable (IsStart call) := inferInstanceAs (Decidable (_ = true))

def chunkCalls (J : JsonText) (data : String) : List Json :=
  ((J.parse data).toOption.bind callsOf).getD []

/-! ## What is read up to floats -/

theorem asStr_bind_erase (value : Option Json) :
    (value.map Json.erase).bind Json.asStr = value.bind Json.asStr := by
  cases value with
  | none => rfl
  | some value => exact Json.asStr_erase value

theorem get_bind_erase (value : Option Json) (key : String) :
    ((value.map Json.erase).bind fun v => v.get key) =
      (value.bind fun v => v.get key).map Json.erase := by
  cases value with
  | none => rfl
  | some value => exact Json.get_erase value key

theorem firstChoice_erase (chunk : Json) :
    Chunk.firstChoice chunk.erase = (Chunk.firstChoice chunk).map Json.erase := by
  unfold Chunk.firstChoice
  rw [Json.get_erase]
  cases chunk.get "choices" with
  | none => rfl
  | some choices =>
    rw [Option.map_some, Option.bind_some, Option.bind_some, Json.asArray_erase]
    cases choices.asArray with
    | none => rfl
    | some items => exact List.head?_map

theorem delta_erase (chunk : Json) :
    Chunk.delta chunk.erase = (Chunk.delta chunk).map Json.erase := by
  unfold Chunk.delta
  rw [firstChoice_erase, get_bind_erase]

theorem finishReason_erase (chunk : Json) :
    Chunk.finishReason chunk.erase = Chunk.finishReason chunk := by
  unfold Chunk.finishReason
  rw [firstChoice_erase, get_bind_erase, asStr_bind_erase]

theorem content_erase (delta : Json) : Chunk.content delta.erase = Chunk.content delta := by
  unfold Chunk.content
  rw [Json.get_erase, asStr_bind_erase]

theorem deltaContent_erase (chunk : Json) :
    (Chunk.delta chunk.erase).bind Chunk.content = (Chunk.delta chunk).bind Chunk.content := by
  rw [delta_erase]
  cases Chunk.delta chunk with
  | none => rfl
  | some delta => exact content_erase delta

theorem callsOf_erase (chunk : Json) :
    callsOf chunk.erase = (callsOf chunk).map (List.map Json.erase) := by
  unfold callsOf
  rw [delta_erase, get_bind_erase]
  cases (Chunk.delta chunk).bind fun delta => delta.get "tool_calls" with
  | none => rfl
  | some calls => exact Json.asArray_erase calls

theorem callIndex_erase (call : Json) : callIndex call.erase = callIndex call := by
  unfold callIndex
  rw [Json.get_erase]
  cases call.get "index" with
  | none => rfl
  | some index => exact Json.asU64_erase index

theorem callId_erase (call : Json) : Chunk.callId call.erase = Chunk.callId call := by
  unfold Chunk.callId
  rw [Json.get_erase, asStr_bind_erase]

theorem functionName_erase (call : Json) :
    Chunk.functionName call.erase = Chunk.functionName call := by
  unfold Chunk.functionName
  rw [Json.get_erase, get_bind_erase, asStr_bind_erase]

theorem functionArguments_erase (call : Json) :
    Chunk.functionArguments call.erase = Chunk.functionArguments call := by
  unfold Chunk.functionArguments
  rw [Json.get_erase, get_bind_erase, asStr_bind_erase]

/-! ## Reading a changed chunk -/

variable {chunk call : Json} {calls old : List Json} {depth : Nat} {data : String}

theorem callsOf_path (h : callsOf chunk = some calls) :
    ∃ choice rest delta, chunk.get "choices" = some (.array (choice :: rest)) ∧
      choice.get "delta" = some delta ∧ delta.get "tool_calls" = some (.array calls) := by
  obtain ⟨value, hCalls, hArray⟩ := Option.bind_eq_some_iff.mp h
  obtain ⟨delta, hDelta, hGet⟩ := Option.bind_eq_some_iff.mp hCalls
  obtain ⟨choice, hFirst, hChoice⟩ := Option.bind_eq_some_iff.mp hDelta
  obtain ⟨items, hItems, hHead⟩ := Option.bind_eq_some_iff.mp hFirst
  obtain ⟨choices, hChoices, hItems⟩ := Option.bind_eq_some_iff.mp hItems
  obtain ⟨rest, rfl⟩ := List.head?_eq_some_iff.mp hHead
  rw [Json.eq_array_of_asArray hItems] at hChoices
  rw [Json.eq_array_of_asArray hArray] at hGet
  exact ⟨choice, rest, delta, hChoices, hChoice, hGet⟩

theorem setCalls_get (chunk : Json) (calls : List Json) {key : String} (h : key ≠ "choices") :
    (setCalls chunk calls).get key = chunk.get key := by
  unfold setCalls
  rw [Json.get_modify, if_neg h]

section

variable (h : callsOf chunk = some old) (calls : List Json)
include h

theorem setCalls_firstChoice :
    Chunk.firstChoice (setCalls chunk calls) = (Chunk.firstChoice chunk).map fun choice =>
        choice.modify "delta" fun delta => delta.setField "tool_calls" (.array calls) := by
  obtain ⟨choice, rest, delta, hChoices, -, -⟩ := callsOf_path h
  unfold Chunk.firstChoice setCalls
  rw [Json.get_modify, if_pos rfl, hChoices]
  rfl

theorem setCalls_delta : Chunk.delta (setCalls chunk calls) =
      (Chunk.delta chunk).map fun delta => delta.setField "tool_calls" (.array calls) := by
  unfold Chunk.delta
  rw [setCalls_firstChoice h]
  cases Chunk.firstChoice chunk with
  | none => rfl
  | some choice =>
    rw [Option.map_some, Option.bind_some, Option.bind_some, Json.get_modify, if_pos rfl]

theorem callsOf_setCalls : callsOf (setCalls chunk calls) = some calls := by
  unfold callsOf
  rw [setCalls_delta h]
  obtain ⟨choice, rest, delta, hChoices, hDelta, hGet⟩ := callsOf_path h
  have hChunk : Chunk.delta chunk = some delta := by
    simp [Chunk.delta, Chunk.firstChoice, hChoices, Json.asArray, hDelta]
  rw [hChunk, Option.map_some, Option.bind_some, Json.get_setField (Json.isObject_of_get hGet),
    if_pos rfl]
  rfl

theorem setCalls_content : (Chunk.delta (setCalls chunk calls)).bind Chunk.content =
      (Chunk.delta chunk).bind Chunk.content := by
  rw [setCalls_delta h]
  cases Chunk.delta chunk with
  | none => rfl
  | some delta =>
    simp only [Option.map_some, Option.bind_some, Chunk.content]
    rw [Json.get_setField_ne (by decide)]

theorem setCalls_finishReason :
    Chunk.finishReason (setCalls chunk calls) = Chunk.finishReason chunk := by
  unfold Chunk.finishReason
  rw [setCalls_firstChoice h]
  cases Chunk.firstChoice chunk with
  | none => rfl
  | some choice =>
    rw [Option.map_some, Option.bind_some, Option.bind_some, Json.get_modify, if_neg (by decide)]

end

/-! ## The text that is handed on -/

theorem callsOf_readable (h : chunk.Readable (depth + 5)) (hCalls : callsOf chunk = some calls) :
    ∀ call ∈ calls, call.Readable depth := by
  obtain ⟨choice, rest, delta, hChoices, hDelta, hGet⟩ := callsOf_path hCalls
  have hChoice : choice.Readable (depth + 3) := (h.get hChoices) choice List.mem_cons_self
  exact (hChoice.get hDelta).get hGet

theorem setCalls_readable {chunk : Json} {depth : Nat} (h : chunk.Readable (depth + 5))
    {calls : List Json} (hCalls : ∀ call ∈ calls, call.Readable depth) :
    (setCalls chunk calls).Readable (depth + 5) := by
  have hArray : (Json.array calls).Readable (depth + 1) := hCalls
  refine h.modify fun choices hChoices => ?_
  cases choices with
  | array items =>
    cases items with
    | nil => exact hChoices
    | cons choice rest =>
      have hItems : ∀ item ∈ choice :: rest, item.Readable (depth + 3) := hChoices
      rintro item (_ | ⟨_, hMem⟩)
      · exact (hItems choice List.mem_cons_self).modify fun delta hDelta =>
          hDelta.setField hArray "tool_calls"
      · exact hItems item (List.mem_cons_of_mem choice hMem)
  | _ => exact hChoices

theorem remapCall_start (h : IsStart call) :
    remapCall counter call = (counter + 1, setIndex call counter, true) := if_pos h

theorem remapCall_fragment (h : ¬ IsStart call) (hIndex : (call.get "index").isSome) :
    remapCall counter call = (counter, setIndex call (lastGiven counter), true) :=
  (if_neg h).trans (if_pos hIndex)

theorem remapCall_readable (h : call.Readable (depth + 1)) :
    (remapCall counter call).2.1.Readable (depth + 1) := by
  unfold remapCall
  split
  · exact h.setField (Json.readable_posInt _ _) "index"
  · split
    · exact h.setField (Json.readable_posInt _ _) "index"
    · exact h

theorem remapCalls_readable {depth : Nat} {calls : List Json}
    (h : ∀ call ∈ calls, call.Readable (depth + 1)) (counter : UInt32) :
    ∀ call ∈ (remapCalls counter calls).2.1, call.Readable (depth + 1) := by
  induction calls generalizing counter with
  | nil => exact h
  | cons call calls ih =>
    rintro other (_ | ⟨_, hMem⟩)
    · exact remapCall_readable counter (h call List.mem_cons_self)
    · exact ih (fun other hOther => h other (List.mem_cons_of_mem call hOther)) _ other hMem

theorem remapCalls_unmodified {counter : UInt32} {calls : List Json}
    (h : (remapCalls counter calls).2.2 = false) : (remapCalls counter calls).2.1 = calls := by
  induction calls generalizing counter with
  | nil => rfl
  | cons call calls ih =>
    have hBoth : ((remapCall counter call).2.2 ||
        (remapCalls (remapCall counter call).1 calls).2.2) = false := h
    obtain ⟨hHead, hRest⟩ := Bool.or_eq_false_iff.mp hBoth
    have hCall : (remapCall counter call).2.1 = call := by
      unfold remapCall at hHead ⊢
      split
      · rename_i hStart
        rw [if_pos hStart] at hHead
        cases hHead
      · rename_i hStart
        rw [if_neg hStart] at hHead
        split
        · rename_i hIndex
          rw [if_pos hIndex] at hHead
          cases hHead
        · rfl
    rw [remapCalls]
    dsimp only
    rw [hCall, ih hRest]

/-- What a reader of a chunk finds after the indexes were changed: new elements, and all else as
it was. -/
structure Handed (counter : UInt32) (chunk handed : Json) : Prop where
  other : ∀ key ≠ "choices", (handed.get key).map Json.erase = (chunk.get key).map Json.erase
  delta : (Chunk.delta handed).isSome = (Chunk.delta chunk).isSome
  content : (Chunk.delta handed).bind Chunk.content = (Chunk.delta chunk).bind Chunk.content
  finish : Chunk.finishReason handed = Chunk.finishReason chunk
  calls : ((callsOf handed).getD []).map Json.erase =
    ((remapCalls counter ((callsOf chunk).getD [])).2.1).map Json.erase

theorem remapToolCallIndex_handed {data : String} {chunk : Json} (h : J.parse data = .ok chunk)
    (counter : UInt32) :
    (remapToolCallIndex J data counter).1 = (remapCalls counter ((callsOf chunk).getD [])).1 ∧
      ∃ handed, J.parse ((remapToolCallIndex J data counter).2.getD data) = .ok handed ∧
        Handed counter chunk handed := by
  unfold remapToolCallIndex
  rw [h]
  dsimp only
  cases hCalls : callsOf chunk with
  | none => exact ⟨rfl, chunk, h, fun _ _ => rfl, rfl, rfl, rfl, by rw [hCalls]; rfl⟩
  | some calls =>
    dsimp only [Option.getD_some]
    refine ⟨rfl, ?_⟩
    cases hModified : (remapCalls counter calls).2.2 with
    | false =>
      refine ⟨chunk, by simpa using h, fun _ _ => rfl, rfl, rfl, rfl, ?_⟩
      rw [hCalls, Option.getD_some, remapCalls_unmodified hModified]
    | true =>
      have hReadable : (setCalls chunk (remapCalls counter calls).2.1).Readable 127 :=
        setCalls_readable (J.parse_readable h)
          (remapCalls_readable (callsOf_readable (J.parse_readable h) hCalls) counter)
      obtain ⟨handed, hParse, hErase⟩ := J.reads hReadable
      refine ⟨handed, by simpa using hParse, fun key hKey => ?_, ?_, ?_, ?_, ?_⟩
      · rw [← Json.get_erase, hErase, Json.get_erase, setCalls_get chunk _ hKey]
      · have hDelta := congrArg Option.isSome ((delta_erase handed).symm.trans
          ((congrArg Chunk.delta hErase).trans (delta_erase _)))
        rw [Option.isSome_map, Option.isSome_map, setCalls_delta hCalls, Option.isSome_map]
          at hDelta
        exact hDelta
      · rw [← deltaContent_erase, hErase, deltaContent_erase, setCalls_content hCalls]
      · rw [← finishReason_erase, hErase, finishReason_erase, setCalls_finishReason hCalls]
      · have hNew := callsOf_erase handed
        rw [hErase, callsOf_erase, callsOf_setCalls hCalls, Option.map_some] at hNew
        rw [hCalls, Option.getD_some]
        cases hHanded : callsOf handed with
        | none =>
          rw [hHanded] at hNew
          cases hNew
        | some new =>
          rw [hHanded] at hNew
          exact (Option.some.inj hNew).symm

theorem remapToolCallIndex_unread {e : String} (h : J.parse data = .error e) (counter : UInt32) :
    remapToolCallIndex J data counter = (counter, none) := by
  unfold remapToolCallIndex
  rw [h]

theorem remapToolCallIndex_object {text : String} {counter : UInt32}
    (h : (remapToolCallIndex J data counter).2 = some text) :
    ∃ chunk : Json, chunk.isObject ∧ text = J.print chunk := by
  unfold remapToolCallIndex at h
  split at h
  · cases h
  · rename_i chunk hParse
    split at h
    · cases h
    · rename_i calls hCalls
      dsimp only at h
      split at h
      · cases hChoices : chunk.get "choices" with
        | none => simp [callsOf, Chunk.delta, Chunk.firstChoice, hChoices] at hCalls
        | some choices =>
          refine ⟨_, ?_, (Option.some.inj h).symm⟩
          unfold setCalls Json.modify
          rw [hChoices]
          exact (Json.isObject_setField ..).trans (Json.isObject_of_get hChoices)
      · cases h

end KongRust.Ai

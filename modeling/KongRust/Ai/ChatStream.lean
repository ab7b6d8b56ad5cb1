import KongRust.Ai.Remap

/-!
# The streamed answer of a chat client

A client puts the chunks of a stream together to an answer: the texts one after the other, the
calls as they start, their arguments under the indexes they were started with, and the finish
reason that came last.
-/

namespace KongRust.Ai

open KongRust

/-- A call that was started under an index. -/
structure StreamedCall where
  index : UInt64
  id : String
  name : String
  arguments : String
  deriving DecidableEq

def StreamedCall.call (streamed : StreamedCall) : ToolCall :=
  ⟨streamed.id, "function", ⟨streamed.name, streamed.arguments⟩⟩

structure ChatAnswer where
  text : String
  calls : List StreamedCall
  finishReason : Option String

namespace ChatAnswer

def start : ChatAnswer := ⟨"", [], none⟩

/-- Further arguments go to the last call that was started under their index. -/
def appendArguments (calls : List StreamedCall) (index : UInt64) (arguments : String) :
    List StreamedCall :=
  match calls with
  | [] => []
  | call :: rest =>
    if call.index = index ∧ ∀ later ∈ rest, later.index ≠ index then
      { call with arguments := call.arguments ++ arguments } :: rest
    else call :: appendArguments rest index arguments

def receiveCall (calls : List StreamedCall) (call : Json) : List StreamedCall :=
  let index := (callIndex call).getD 0
  let arguments := (Chunk.functionArguments call).getD ""
  match Chunk.callId call with
  | some id => calls ++ [⟨index, id, (Chunk.functionName call).getD "", arguments⟩]
  | none => appendArguments calls index arguments

def receive (answer : ChatAnswer) (chunk : Json) : ChatAnswer where
  text := answer.text ++ ((Chunk.delta chunk).bind Chunk.content).getD ""
  calls := ((callsOf chunk).getD []).foldl receiveCall answer.calls
  finishReason := (Chunk.finishReason chunk).or answer.finishReason

def accumulate (J : JsonText) (answer : ChatAnswer) (data : String) : ChatAnswer :=
  match J.parse data with
  | .error _ => answer
  | .ok chunk => answer.receive chunk

/-- The answer has the text, the calls and the finish reason of a whole one. -/
structure Same (answer : ChatAnswer) (response : ChatResponse) : Prop where
  text : answer.text =
    ((response.choices.head?.bind fun choice => choice.message.content).bind Json.asStr).getD ""
  calls : answer.calls.map StreamedCall.call =
    ((response.choices.head?.bind fun choice => choice.message.toolCalls).getD [])
  finishReason : answer.finishReason =
    response.choices.head?.bind fun choice => choice.finishReason

variable {response : ChatResponse} {text : String} {calls : List ToolCall}
  {finishReason : Option String}

theorem read_assistantChoice (h : response.choices = [assistantChoice text calls finishReason]) :
    ((response.choices.head?.bind fun choice => choice.message.content).bind Json.asStr).getD "" =
        text ∧
      (response.choices.head?.bind fun choice => choice.message.toolCalls).getD [] = calls ∧
      (response.choices.head?.bind fun choice => choice.finishReason) = finishReason := by
  rw [h]
  refine ⟨?_, ?_, rfl⟩
  · by_cases hEmpty : text = ""
    · simp [assistantChoice, contentOf, hEmpty]
    · simp [assistantChoice, contentOf, hEmpty, Json.asStr]
  · by_cases hEmpty : calls = []
    · simp [assistantChoice, toolCallsOf, hEmpty]
    · simp [assistantChoice, toolCallsOf, hEmpty]

theorem same_assistantChoice_iff {answer : ChatAnswer}
    (h : response.choices = [assistantChoice text calls finishReason]) :
    answer.Same response ↔ answer.text = text ∧ answer.calls.map StreamedCall.call = calls ∧
      answer.finishReason = finishReason := by
  obtain ⟨hText, hCalls, hReason⟩ := read_assistantChoice h
  constructor
  · rintro ⟨hT, hC, hF⟩
    exact ⟨hT.trans hText, hC.trans hCalls, hF.trans hReason⟩
  · rintro ⟨hT, hC, hF⟩
    exact ⟨hT.trans hText.symm, hC.trans hCalls.symm, hF.trans hReason.symm⟩

theorem receiveCall_erase (calls : List StreamedCall) (call : Json) :
    receiveCall calls call.erase = receiveCall calls call := by
  unfold receiveCall
  rw [callIndex_erase, callId_erase, functionName_erase, functionArguments_erase]

theorem foldl_receiveCall_erase (calls : List StreamedCall) (elements : List Json) :
    (elements.map Json.erase).foldl receiveCall calls = elements.foldl receiveCall calls := by
  rw [List.foldl_map]
  exact congrArg (fun f => elements.foldl f calls)
    (funext fun calls => funext fun call => receiveCall_erase calls call)

theorem receive_handed {counter : UInt32} {chunk handed : Json} (h : Handed counter chunk handed)
    (answer : ChatAnswer) : answer.receive handed =
      { text := answer.text ++ ((Chunk.delta chunk).bind Chunk.content).getD ""
        calls := (remapCalls counter ((callsOf chunk).getD [])).2.1.foldl receiveCall answer.calls
        finishReason := (Chunk.finishReason chunk).or answer.finishReason } := by
  unfold receive
  rw [h.content, h.finish, ← foldl_receiveCall_erase, h.calls, foldl_receiveCall_erase]

end ChatAnswer

end KongRust.Ai

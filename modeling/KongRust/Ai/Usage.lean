import KongRust.Ai.ChatFormat

/-!
# Token usage

What a provider says of the tokens that it used, as the gateway reads it from the provider's JSON,
and the count that stands in where it says nothing.
-/

namespace KongRust.Ai

open KongRust

/-- A count is refused where an `i64` cannot hold it. -/
inductive UsageError where
  | invalidTokenValue
  deriving DecidableEq

structure UsageObservation where
  promptTokens : Option UInt64
  completionTokens : Option UInt64
  totalTokens : Option UInt64
  reasoningTokens : Option UInt64
  cacheReadInputTokens : Option UInt64
  cacheWriteInputTokens : Option UInt64
  deriving DecidableEq

/-! ## Counts -/

/-- `json_i64`. Negative integers and floats are refused. -/
def jsonI64 (value : Json) : Except UsageError UInt64 :=
  match value.asU64 with
  | some n => if n.toNat < 2 ^ 63 then .ok n else .error .invalidTokenValue
  | none => .error .invalidTokenValue

/-- `optional_i64`: the first of the keys that is there and not `null`. -/
def optionalI64 (value : Json) : List String → Except UsageError (Option UInt64)
  | [] => .ok none
  | key :: keys =>
    match (value.get key).filter fun v => !v.isNull with
    | some candidate => (jsonI64 candidate).map some
    | none => optionalI64 value keys

/-- `nested_optional_i64`. -/
def nestedOptionalI64 (value : Json) : List (List String) → Except UsageError (Option UInt64)
  | [] => .ok none
  | path :: paths =>
    match (path.foldlM Json.get value).filter fun v => !v.isNull with
    | some current => (jsonI64 current).map some
    | none => nestedOptionalI64 value paths

/-- `checked_add` of two counts. -/
def checkedCount (a b : UInt64) : Except UsageError UInt64 :=
  if a.toNat + b.toNat < 2 ^ 63 then .ok (a + b) else .error .invalidTokenValue

/-! ## Observations -/

variable (usage : Json)

def openaiObservation (usage : Json) : Except UsageError UsageObservation :=
  if !usage.isObject then .error .invalidTokenValue
  else do
    let prompt ← optionalI64 usage ["prompt_tokens", "input_tokens"]
    let completion ← optionalI64 usage ["completion_tokens", "output_tokens"]
    let total ← optionalI64 usage ["total_tokens"]
    let cached ← nestedOptionalI64 usage
      [["prompt_tokens_details", "cached_tokens"], ["input_tokens_details", "cached_tokens"]]
    let reasoning ← nestedOptionalI64 usage
      [["completion_tokens_details", "reasoning_tokens"],
        ["output_tokens_details", "reasoning_tokens"]]
    let cacheWrite ← optionalI64 usage ["cache_write_input_tokens", "cache_creation_input_tokens"]
    return ⟨prompt, completion, total, reasoning, cached, cacheWrite⟩

/-- The input that was written to the cache or read from it is part of the prompt. -/
def anthropicObservation (usage : Json) : Except UsageError UsageObservation :=
  if !usage.isObject then .error .invalidTokenValue
  else do
    let input ← optionalI64 usage ["input_tokens"]
    let cacheWrite ← optionalI64 usage ["cache_creation_input_tokens"]
    let cacheRead ← optionalI64 usage ["cache_read_input_tokens"]
    let prompt ← input.mapM fun value => do
      let written ← checkedCount value (cacheWrite.getD 0)
      checkedCount written (cacheRead.getD 0)
    let completion ← optionalI64 usage ["output_tokens"]
    return ⟨prompt, completion, none, none, cacheRead, cacheWrite⟩

/-- The thoughts are part of the completion. -/
def geminiObservation (usage : Json) : Except UsageError UsageObservation :=
  if !usage.isObject then .error .invalidTokenValue
  else do
    let candidates ← optionalI64 usage ["candidatesTokenCount"]
    let thoughts ← optionalI64 usage ["thoughtsTokenCount"]
    let completion ← candidates.mapM fun value => checkedCount value (thoughts.getD 0)
    let prompt ← optionalI64 usage ["promptTokenCount"]
    let total ← optionalI64 usage ["totalTokenCount"]
    let cached ← optionalI64 usage ["cachedContentTokenCount"]
    return ⟨prompt, completion, total, thoughts, cached, none⟩

/-! ## The usage of a request -/

structure TokenUsage where
  promptTokens : Option UInt64
  completionTokens : Option UInt64
  totalTokens : Option UInt64
  reasoningTokens : Option UInt64
  cacheReadInputTokens : Option UInt64
  cacheWriteInputTokens : Option UInt64
  /-- A count of the provider, or a sum of them, did not fit. -/
  invalid : Bool
  deriving DecidableEq

namespace TokenUsage

def default : TokenUsage := ⟨none, none, none, none, none, none, false⟩

/-- `from_observation`. -/
def fromObservation : Except UsageError UsageObservation → TokenUsage
  | .error _ => { default with invalid := true }
  | .ok observation =>
    { promptTokens := observation.promptTokens
      completionTokens := observation.completionTokens
      totalTokens := observation.totalTokens
      reasoningTokens := observation.reasoningTokens
      cacheReadInputTokens := observation.cacheReadInputTokens
      cacheWriteInputTokens := observation.cacheWriteInputTokens
      invalid := false }

/-- `merge_token_usage`: a field is replaced where the observation has it. -/
def merge (current observation : TokenUsage) : TokenUsage where
  promptTokens := observation.promptTokens.or current.promptTokens
  completionTokens := observation.completionTokens.or current.completionTokens
  totalTokens := observation.totalTokens.or current.totalTokens
  reasoningTokens := observation.reasoningTokens.or current.reasoningTokens
  cacheReadInputTokens := observation.cacheReadInputTokens.or current.cacheReadInputTokens
  cacheWriteInputTokens := observation.cacheWriteInputTokens.or current.cacheWriteInputTokens
  invalid := current.invalid || observation.invalid

/-- `derive_total_if_missing`. -/
def deriveTotalIfMissing (usage : TokenUsage) : TokenUsage :=
  match usage.totalTokens, usage.promptTokens, usage.completionTokens with
  | none, some prompt, some completion =>
    if prompt.toNat + completion.toNat < 2 ^ 64 then
      { usage with totalTokens := some (prompt + completion) }
    else { usage with invalid := true }
  | _, _, _ => usage

end TokenUsage

/-- `responses_token_usage`. -/
def responsesTokenUsage (usage : Json) : TokenUsage := .fromObservation (openaiObservation usage)

/-! ## Counting -/

/-- The tokens of a text, by the encoding of the model if there is one. -/
abbrev Tiktoken := String → String → Option UInt64

/-- `count_estimate`: four bytes are about one token. -/
def countEstimate (text : String) : UInt64 := (UInt64.ofNat text.utf8ByteSize + 3) / 4

/-- `estimate_completion`. -/
def estimateCompletion (tiktoken : Tiktoken) (model text : String) : UInt64 :=
  (tiktoken model text).getD (countEstimate text)

/-- `estimate_completion_segments`; none where the sum does not fit. -/
def estimateCompletionSegments (tiktoken : Tiktoken) (model : String) (segments : List String) :
    Option UInt64 :=
  segments.foldlM (fun total text =>
    let tokens := estimateCompletion tiktoken model text
    if total.toNat + tokens.toNat < 2 ^ 64 then some (total + tokens) else none) 0

end KongRust.Ai

import KongRust.Ai.ModelRouter
import KongRust.Ai.Requests
import KongRust.Foundation.Fallible

/-!
# The prompt guard

`ai-prompt-guard` runs before the AI proxy. It walks the `messages` of the body, whatever the
format of the request, and stops at the first text of a user that it does not let through.
-/

namespace KongRust.Ai.PromptGuard

open KongRust Requests

structure AiPromptGuardConfig where
  denyPatterns : List String
  allowPatterns : List String
  maxMessageLength : Nat
  action : String
  errorCode : Nat
  errorMessage : String

/-- A compiled pattern, with `as_str` and `is_match`. -/
structure Regex where
  pattern : String
  isMatch : String → Bool

/-- What a short-circuited request is answered with. -/
structure Exit where
  status : Nat
  body : String

section Guard

variable (J : JsonText) (regex : String → Except String (String → Bool))

/-- `Regex::new`, with the error of a pattern that is refused. -/
def compile (kind pattern : String) : Except PluginError Regex :=
  match regex pattern with
  | .ok isMatch => .ok ⟨pattern, isMatch⟩
  | .error e =>
    .error ⟨"ai-prompt-guard", "invalid " ++ kind ++ " pattern '" ++ pattern ++ "': " ++ e⟩

def isUser (message : Json) : Bool := (message.get "role").bind Json.asStr == some "user"

def contentText (message : Json) : String :=
  match message.get "content" with
  | some (.string s) => s
  | some (.array parts) => "\n".intercalate (parts.filterMap blockText)
  | _ => ""

variable (cfg : AiPromptGuardConfig) (deny allow : List Regex)

/-- What a text is refused for. -/
def violation (cfg : AiPromptGuardConfig) (deny allow : List Regex) (content : String) :
    Option String :=
  if cfg.maxMessageLength < content.utf8ByteSize then
    some ("message length " ++ toString content.utf8ByteSize ++ " exceeds limit " ++
      toString cfg.maxMessageLength)
  else
    match deny.find? fun regex => regex.isMatch content with
    | some regex => some ("matched deny pattern: " ++ regex.pattern)
    | none =>
      if !allow.isEmpty && !allow.any fun regex => regex.isMatch content then
        some "no allow pattern matched"
      else none

def firstViolation (cfg : AiPromptGuardConfig) (deny allow : List Regex) (messages : List Json) :
    Option String :=
  messages.findSome? fun message =>
    if isUser message then violation cfg deny allow (contentText message) else none

/-- `handle_violation`, which only logs unless it blocks. -/
def handleViolation (cfg : AiPromptGuardConfig) (reason : String) : Option Exit :=
  if cfg.action = "block" then
    some ⟨cfg.errorCode,
      J.print (.ofFields [("message", .string cfg.errorMessage), ("reason", .string reason)])⟩
  else none

/-- `access`: an error, or what the request is short-circuited with. -/
def access (cfg : AiPromptGuardConfig) (requestBody : Option String) :
    Except PluginError (Option Exit) :=
  match requestBody with
  | none => .error ⟨"ai-prompt-guard", "missing request body"⟩
  | some body =>
    match J.parse body with
    | .error e => .error ⟨"ai-prompt-guard", "invalid request body: " ++ e⟩
    | .ok parsed =>
      match (parsed.get "messages").bind Json.asArray with
      | none => .ok none
      | some messages => do
        let deny ← cfg.denyPatterns.mapM (compile regex "deny")
        let allow ← cfg.allowPatterns.mapM (compile regex "allow")
        return (firstViolation cfg deny allow messages).bind (handleViolation J cfg)

/-! ## What is to be stopped -/

def Matches (pattern text : String) : Prop :=
  ∃ isMatch, regex pattern = .ok isMatch ∧ isMatch text = true

def Offends (cfg : AiPromptGuardConfig) (text : String) : Prop :=
  cfg.maxMessageLength < text.utf8ByteSize ∨
    ∃ pattern ∈ cfg.denyPatterns, Matches regex pattern text

/-- A text that no pattern allows, where there are such patterns. -/
def NotAllowed (cfg : AiPromptGuardConfig) (text : String) : Prop :=
  cfg.allowPatterns ≠ [] ∧ ∀ pattern ∈ cfg.allowPatterns, ¬ Matches regex pattern text

def Compiles (patterns : List String) : Prop :=
  ∀ pattern ∈ patterns, ∃ isMatch, regex pattern = .ok isMatch

/-- The guard comes across the text: an object of the body's `messages` that says it is a user's has
the text as its string, or as its parts put together by lines. -/
def Visits (body text : String) : Prop :=
  ∃ parsed messages, J.parse body = .ok parsed ∧
    (parsed.get "messages").bind Json.asArray = some messages ∧
      ∃ message ∈ messages, isUser message = true ∧ contentText message = text

/-- The guard comes across a text that is to be stopped, with patterns that all compile. -/
structure Caught (cfg : AiPromptGuardConfig) (body : String) : Prop where
  deny : Compiles regex cfg.denyPatterns
  allow : Compiles regex cfg.allowPatterns
  seen : ∃ text, Visits J body text ∧ (Offends regex cfg text ∨ NotAllowed regex cfg text)

end Guard

/-! ## What the guard stops -/

section Walk

variable {J : JsonText} {regex : String → Except String (String → Bool)} {kind : String}

theorem compile_eq_ok {pattern : String} {compiled : Regex} :
    compile regex kind pattern = .ok compiled ↔
      regex pattern = .ok compiled.isMatch ∧ compiled.pattern = pattern := by
  obtain ⟨found, isMatch⟩ := compiled
  unfold compile
  cases hRegex : regex pattern with
  | error e =>
    constructor
    · intro h
      cases h
    · rintro ⟨h, -⟩
      cases h
  | ok other =>
    constructor
    · intro h
      cases h
      exact ⟨rfl, rfl⟩
    · rintro ⟨h, hPattern⟩
      cases h
      cases hPattern
      rfl

theorem exists_mapM_compile {patterns : List String} :
    (∃ compiled, patterns.mapM (compile regex kind) = .ok compiled) ↔ Compiles regex patterns := by
  constructor
  · rintro ⟨compiled, h⟩ pattern hPattern
    obtain ⟨one, -, hOne⟩ := Fallible.mapM_mem h hPattern
    exact ⟨one.isMatch, (compile_eq_ok.mp hOne).1⟩
  · intro h
    induction patterns with
    | nil => exact ⟨[], rfl⟩
    | cons pattern patterns ih =>
      obtain ⟨isMatch, hMatch⟩ := h pattern List.mem_cons_self
      obtain ⟨rest, hRest⟩ := ih fun other hOther => h other (List.mem_cons_of_mem _ hOther)
      have hOne : compile regex kind pattern = .ok ⟨pattern, isMatch⟩ :=
        compile_eq_ok.mpr ⟨hMatch, rfl⟩
      refine ⟨⟨pattern, isMatch⟩ :: rest, ?_⟩
      rw [List.mapM_cons, hOne, hRest]
      rfl

theorem any_isMatch {patterns : List String} {compiled : List Regex}
    (h : patterns.mapM (compile regex kind) = .ok compiled) (text : String) :
    (compiled.any fun one => one.isMatch text) = true ↔
      ∃ pattern ∈ patterns, Matches regex pattern text := by
  rw [List.any_eq_true]
  constructor
  · rintro ⟨one, hMem, hMatch⟩
    obtain ⟨pattern, hPattern, hOne⟩ := Fallible.mem_mapM h hMem
    exact ⟨pattern, hPattern, one.isMatch, (compile_eq_ok.mp hOne).1, hMatch⟩
  · rintro ⟨pattern, hPattern, isMatch, hRegex, hMatch⟩
    obtain ⟨one, hMem, hOne⟩ := Fallible.mapM_mem h hPattern
    have hSame := (compile_eq_ok.mp hOne).1
    rw [hRegex] at hSame
    cases hSame
    exact ⟨one, hMem, hMatch⟩

variable {cfg : AiPromptGuardConfig} {deny allow : List Regex}

section

variable (hDeny : cfg.denyPatterns.mapM (compile regex "deny") = .ok deny)
  (hAllow : cfg.allowPatterns.mapM (compile regex "allow") = .ok allow)
include hDeny hAllow

/-- A text is refused for its length, for a pattern that denies it, or for want of one that allows
it. -/
theorem isSome_violation (content : String) :
    (violation cfg deny allow content).isSome = true ↔
      Offends regex cfg content ∨ NotAllowed regex cfg content := by
  have hEmpty : allow.isEmpty = true ↔ cfg.allowPatterns = [] := by
    rw [List.isEmpty_iff, ← List.length_eq_zero_iff, ← List.length_eq_zero_iff,
      (Fallible.mapM_eq_ok.mp hAllow).length_eq]
  have hFound := any_isMatch hDeny content
  have hAllowed := any_isMatch hAllow content
  unfold violation Offends NotAllowed
  by_cases hLength : cfg.maxMessageLength < content.utf8ByteSize
  · rw [if_pos hLength]
    exact ⟨fun _ => .inl (.inl hLength), fun _ => rfl⟩
  · rw [if_neg hLength]
    cases hFind : deny.find? fun one => one.isMatch content with
    | some one =>
      have hMatch := List.find?_some hFind
      have hAny := hFound.mp (List.any_eq_true.mpr ⟨one, List.mem_of_find?_eq_some hFind, hMatch⟩)
      exact ⟨fun _ => .inl (.inr hAny), fun _ => rfl⟩
    | none =>
      have hNone : ¬ ∃ pattern ∈ cfg.denyPatterns, Matches regex pattern content := by
        intro h
        obtain ⟨one, hMem, hMatch⟩ := List.any_eq_true.mp (hFound.mpr h)
        exact List.find?_eq_none.mp hFind one hMem hMatch
      dsimp only
      by_cases hRefused : (!allow.isEmpty && !allow.any fun one => one.isMatch content) = true
      · rw [if_pos hRefused]
        rw [Bool.and_eq_true, Bool.not_eq_true', Bool.not_eq_true'] at hRefused
        refine ⟨fun _ => .inr ⟨fun h => ?_, fun pattern hPattern hMatch => ?_⟩, fun _ => rfl⟩
        · rw [hEmpty.mpr h] at hRefused
          cases hRefused.1
        · rw [hAllowed.mpr ⟨pattern, hPattern, hMatch⟩] at hRefused
          cases hRefused.2
      · rw [if_neg hRefused]
        constructor
        · intro h
          cases h
        · rintro ((h | h) | ⟨hSome, hNoMatch⟩)
          · exact absurd h hLength
          · exact absurd h hNone
          · refine absurd ?_ hRefused
            rw [Bool.and_eq_true, Bool.not_eq_true', Bool.not_eq_true', ← Bool.not_eq_true,
              ← Bool.not_eq_true, hEmpty, hAllowed]
            exact ⟨hSome, fun h => h.elim fun pattern h => hNoMatch pattern h.1 h.2⟩

/-- The loop finds what is to be stopped, wherever it stands. -/
theorem isSome_firstViolation (messages : List Json) :
    (firstViolation cfg deny allow messages).isSome = true ↔
      ∃ message ∈ messages, isUser message = true ∧
        (Offends regex cfg (contentText message) ∨ NotAllowed regex cfg (contentText message)) := by
  unfold firstViolation
  induction messages with
  | nil =>
    constructor
    · intro h
      cases h
    · rintro ⟨message, hMem, -⟩
      cases hMem
  | cons message messages ih =>
    rw [List.findSome?_cons]
    have hHead := isSome_violation hDeny hAllow (contentText message)
    cases hUser : isUser message with
    | false =>
      rw [if_neg Bool.false_ne_true]
      dsimp only
      rw [ih]
      constructor
      · rintro ⟨other, hMem, h⟩
        exact ⟨other, List.mem_cons_of_mem _ hMem, h⟩
      · rintro ⟨other, hMem, hOther, h⟩
        rcases List.mem_cons.mp hMem with rfl | hMem
        · rw [hUser] at hOther
          cases hOther
        · exact ⟨other, hMem, hOther, h⟩
    | true =>
      rw [if_pos rfl]
      cases hViolation : violation cfg deny allow (contentText message) with
      | some reason =>
        rw [hViolation] at hHead
        exact ⟨fun _ => ⟨message, List.mem_cons_self, hUser, hHead.mp rfl⟩, fun _ => rfl⟩
      | none =>
        rw [hViolation] at hHead
        dsimp only
        rw [ih]
        constructor
        · rintro ⟨other, hMem, h⟩
          exact ⟨other, List.mem_cons_of_mem _ hMem, h⟩
        · rintro ⟨other, hMem, hOther, h⟩
          rcases List.mem_cons.mp hMem with rfl | hMem
          · cases hHead.mpr h
          · exact ⟨other, hMem, hOther, h⟩

end

/-- What short-circuits a request. -/
theorem access_eq_exit_iff {body : String} :
    (∃ exit, access J regex cfg (some body) = .ok (some exit)) ↔
      cfg.action = "block" ∧ Caught J regex cfg body := by
  unfold access
  dsimp only
  cases hParse : J.parse body with
  | error e =>
    constructor
    · rintro ⟨exit, h⟩
      cases h
    · rintro ⟨-, -, -, text, ⟨parsed, messages, hParsed, -⟩, -⟩
      rw [hParse] at hParsed
      cases hParsed
  | ok parsed =>
    dsimp only
    cases hMessages : (parsed.get "messages").bind Json.asArray with
    | none =>
      constructor
      · rintro ⟨exit, h⟩
        cases h
      · rintro ⟨-, -, -, text, ⟨other, messages, hParsed, hOther, -⟩, -⟩
        rw [hParse] at hParsed
        cases hParsed
        rw [hMessages] at hOther
        cases hOther
    | some messages =>
      dsimp only
      constructor
      · rintro ⟨exit, h⟩
        obtain ⟨deny, hDeny, h⟩ := Fallible.bind_eq_ok.mp h
        obtain ⟨allow, hAllow, h⟩ := Fallible.bind_eq_ok.mp h
        have hWalk := isSome_firstViolation hDeny hAllow messages
        cases hFirst : firstViolation cfg deny allow messages with
        | none =>
          rw [hFirst] at h
          cases h
        | some reason =>
          rw [hFirst] at h hWalk
          obtain ⟨message, hMem, hUser, hStopped⟩ := hWalk.mp rfl
          refine ⟨?_, exists_mapM_compile.mp ⟨deny, hDeny⟩, exists_mapM_compile.mp ⟨allow, hAllow⟩,
            _, ⟨parsed, messages, hParse, hMessages, message, hMem, hUser, rfl⟩, hStopped⟩
          by_contra hAction
          rw [Option.bind_some, handleViolation, if_neg hAction] at h
          cases h
      · rintro ⟨hAction, hCompiles, hAllowed, _, hTexts, hStopped⟩
        obtain ⟨other, found, hParsed, hFound, message, hMem, hUser, rfl⟩ := hTexts
        rw [hParse] at hParsed
        cases hParsed
        rw [hMessages] at hFound
        cases hFound
        obtain ⟨deny, hDeny⟩ := exists_mapM_compile.mpr hCompiles
        obtain ⟨allow, hAllow⟩ := exists_mapM_compile.mpr hAllowed
        have hSome := (isSome_firstViolation hDeny hAllow messages).mpr
          ⟨message, hMem, hUser, hStopped⟩
        obtain ⟨reason, hReason⟩ := Option.isSome_iff_exists.mp hSome
        refine ⟨⟨cfg.errorCode, J.print (.ofFields [("message", .string cfg.errorMessage),
          ("reason", .string reason)])⟩, ?_⟩
        rw [hDeny, hAllow]
        change Except.ok ((firstViolation cfg deny allow messages).bind _) = _
        rw [hReason, Option.bind_some, handleViolation, if_pos hAction]

end Walk

/-! ## What goes to a provider -/

/-- The texts of a content: a string, or those of its parts. -/
def contentTexts : Json → List String
  | .string s => [s]
  | .array parts => parts.filterMap blockText
  | _ => []

def texts (message : Message) : List String := (message.content.map contentTexts).getD []

def userTexts (request : ChatRequest) : List String :=
  request.messages.flatMap fun message => if message.role = "user" then texts message else []

def Complete (R : RequestLibraries) (regex : String → Except String (String → Bool))
    (cfg : AiPromptGuardConfig) (format : RequestFormat) (body : String) : Prop :=
  cfg.action = "block" → ∀ request, decode R format body = .ok request →
    ∀ text ∈ userTexts request, Offends regex cfg text →
      ∃ exit, access R.J regex cfg (some body) = .ok (some exit)

/-! ## Where it stands in the body -/

/-- The texts of an entry that is a user's, an object or a list, after a conversion. -/
def entryTexts (convert : Json → Json) (entry : Json) : List String :=
  if (Serde.placed "role" 0 entry).bind Json.asStr = some "user" then
    contentTexts (convert ((Serde.placed "content" 1 entry).getD .null))
  else []

/-- The texts of an item of `input` that is a message of a user. -/
def itemTexts (item : Json) : List String :=
  if isUser item ∧ partType item ≠ some "function_call" ∧
    partType item ≠ some "function_call_output" then
    contentTexts (convertContent (item.field "content"))
  else []

def entries (body : Json) : List Json :=
  ((Serde.placed "messages" 1 body).bind Json.asArray).getD []

/-- The texts of a user that a body carries in the places of its format. -/
def carriedTexts (body : Json) : RequestFormat → List String
  | .chat => (entries body).flatMap (entryTexts id)
  | .anthropic => (entries body).flatMap (entryTexts convertAnthropicContentToOpenai)
  | .responses =>
    match body.field "input" with
    | .string s => [s]
    | .array inputs => inputs.flatMap itemTexts
    | _ => []

/-- A body that the proxy accepts carries the text. -/
def Carries (R : RequestLibraries) (format : RequestFormat) (body text : String) : Prop :=
  (∃ request, decode R format body = .ok request) ∧
    ∃ parsed, R.J.parse body = .ok parsed ∧ text ∈ carriedTexts parsed format

section Places

variable {R : RequestLibraries}

theorem texts_content {read : Json} :
    texts (OpenAiDriver.messageOf read) = contentTexts (read.field "content") := by
  unfold texts OpenAiDriver.messageOf Json.field
  cases read.get "content" with
  | none => rfl
  | some content => cases content <;> rfl

/-- A struct that begins with a role and a content reads them at their places. -/
theorem entryTexts_eq {struct : Serde.Struct} (hNodup : (struct.map Serde.Field.name).Nodup)
    {entry read : Json} (h : struct.codec entry = some read)
    (hRole : struct[0]? = some (.required "role" Serde.text)) {content : Serde.Field}
    (hContent : struct[1]? = some content) (hName : content.name = "content")
    (hCodec : ∀ given, content.codec given = some given)
    (hNull : ∀ given, content.missing = some given ∨ content.absent = some given →
      given = .null) (convert : Json → Json) :
    (if OpenAiDriver.str read "role" = "user" then contentTexts (convert (read.field "content"))
      else []) = entryTexts convert entry := by
  have hUser : OpenAiDriver.str read "role" = "user" ↔
      (Serde.placed "role" 0 entry).bind Json.asStr = some "user" := by
    rcases Serde.Struct.codec_placed hNodup h hRole with ⟨role, hPlaced, hRead⟩ | ⟨-, hAbsent⟩
    · cases role with
      | string role =>
        have hGet := Json.get_of_field (Option.some.inj hRead).symm (by simp)
        rw [show Serde.placed "role" 0 entry = _ from hPlaced, OpenAiDriver.str, OpenAiDriver.str?]
        rw [show read.get "role" = _ from hGet]
        simp [Json.asStr]
      | _ => cases hRead
    · rcases hAbsent with hAbsent | hAbsent <;> cases hAbsent
  have hRead : read.field "content" = (Serde.placed "content" 1 entry).getD .null := by
    rw [← hName]
    rcases Serde.Struct.codec_placed hNodup h hContent with ⟨given, hPlaced, hRead⟩ |
      ⟨hPlaced, hAbsent⟩
    · rw [hCodec] at hRead
      rw [hPlaced, ← Option.some.inj hRead]
      rfl
    · rw [hPlaced, hNull _ hAbsent]
      rfl
  rw [hRead]
  exact if_congr hUser rfl rfl

theorem option_value (given : Json) : Serde.option Serde.value given = some given := by
  cases given <;> rfl

theorem items_placed {struct : Serde.Struct} (hNodup : (struct.map Serde.Field.name).Nodup)
    {body read : Json} (h : struct.codec body = some read) {codec : Serde.Codec}
    (hPlace : struct[1]? = some (.required "messages" (Serde.vec codec))) :
    (entries body).mapM codec = some (items read "messages") := by
  rcases Serde.Struct.codec_placed hNodup h hPlace with ⟨given, hPlaced, hRead⟩ | ⟨-, hAbsent⟩
  · cases given with
    | array entries =>
      obtain ⟨values, hValues, hArray⟩ := Option.map_eq_some_iff.mp hRead
      have hGet := Json.get_of_field hArray.symm (by simp)
      rw [PromptGuard.entries, show Serde.placed "messages" 1 body = _ from hPlaced, items,
        show read.get "messages" = _ from hGet]
      exact hValues
    | _ => cases hRead
  · rcases hAbsent with hAbsent | hAbsent <;> cases hAbsent

theorem itemTexts_eq (item : Json) : ((inputItemToMessage R.J item).map fun message =>
    if message.role = "user" then texts message else []).getD [] = itemTexts item := by
  have hTexts : texts (Message.plain "user" ((item.get "content").map convertContent)) =
      contentTexts (convertContent (item.field "content")) := by
    unfold texts Message.plain Json.field
    cases item.get "content" <;> rfl
  unfold itemTexts isUser inputItemToMessage
  simp only [beq_iff_eq]
  split
  · next hType =>
    rw [if_neg fun h => h.2.1 hType]
    simp only [Option.bind_eq_bind]
    cases (item.get "call_id").bind Json.asStr with
    | none => rfl
    | some callId => cases (item.get "name").bind Json.asStr <;> rfl
  · next hType =>
    rw [if_neg fun h => h.2.2 hType]
    cases (item.get "call_id").bind Json.asStr <;> rfl
  · next role hRole hCall hOutput =>
    by_cases hUser : role = "user"
    · rw [if_pos ⟨hRole.trans (congrArg some hUser), hCall, hOutput⟩, ← hTexts, hUser]
      rfl
    · rw [if_neg fun h => hUser (Option.some.inj (hRole.symm.trans h.1))]
      exact if_neg hUser
  · next hRole _ _ =>
    rw [if_neg fun h => Option.some_ne_none _ (h.1.symm.trans hRole)]
    rfl

theorem userTexts_input {inputs : List Json} :
    (inputs.filterMap (inputItemToMessage R.J)).flatMap (fun message =>
      if message.role = "user" then texts message else []) = inputs.flatMap itemTexts := by
  induction inputs with
  | nil => rfl
  | cons item inputs ih =>
    rw [List.filterMap_cons, List.flatMap_cons, ← ih, ← itemTexts_eq (R := R)]
    cases inputItemToMessage R.J item with
    | none => rfl
    | some message => rfl

/-- What is decoded of a body has the texts of a user that stand there in the places of its
format. -/
theorem userTexts_eq {format : RequestFormat} {body : String} {request : ChatRequest}
    (h : decode R format body = .ok request) :
    ∃ parsed, R.J.parse body = .ok parsed ∧ userTexts request = carriedTexts parsed format := by
  cases format with
  | chat =>
    obtain ⟨⟨parsed, read⟩, hRead, hRequest⟩ := Fallible.bind_eq_ok.mp h
    cases hRequest
    obtain ⟨hParsed, hCodec⟩ := fromStr_ok hRead
    refine ⟨parsed, hParsed, ?_⟩
    cases parsed with
    | object fields =>
      have hItems := items_placed (by decide) hCodec rfl
      unfold userTexts chatRequestOf
      dsimp only
      rw [List.flatMap_map]
      refine Serde.flatMap_mapM hItems fun entry value hEntry => ?_
      rw [← entryTexts_eq (by decide) hEntry rfl rfl rfl option_value, texts_content]
      · rfl
      · rintro given (hNull | hNull) <;> cases hNull
        rfl
    | _ => cases hCodec
  | anthropic =>
    obtain ⟨⟨parsed, read⟩, hRead, hRequest⟩ := Fallible.bind_eq_ok.mp h
    cases hRequest
    obtain ⟨hParsed, hCodec⟩ := fromStr_ok (Fallible.mapError_eq_ok.mp hRead)
    refine ⟨parsed, hParsed, ?_⟩
    have hItems := items_placed (by decide) hCodec rfl
    have hSystem : ((Requests.given read "system").map fun system =>
        Message.plain "system" (some (systemContent system))).toList.flatMap (fun message =>
          if message.role = "user" then texts message else []) = [] := by
      cases Requests.given read "system" <;> rfl
    unfold userTexts
    dsimp only
    rw [List.flatMap_append, hSystem, List.nil_append, List.flatMap_map]
    refine Serde.flatMap_mapM hItems fun entry value hEntry => ?_
    rw [← entryTexts_eq (by decide) hEntry rfl rfl rfl fun _ => rfl]
    · rfl
    · rintro given (hNull | hNull) <;> cases hNull
  | responses =>
    obtain ⟨decoded, hDecoded, hRest⟩ := Fallible.bind_eq_ok.mp h
    obtain ⟨⟨parsed, read⟩, hRead, hRequest⟩ := Fallible.bind_eq_ok.mp hDecoded
    cases hRequest
    obtain ⟨⟨chat, stripped⟩, hChat, hRequest⟩ := Fallible.bind_eq_ok.mp hRest
    cases hRequest
    obtain ⟨hParsed, hCodec⟩ := fromStr_ok hRead
    refine ⟨parsed, hParsed, ?_⟩
    cases parsed with
    | object fields =>
      have hInput : (Json.object fields).field "input" = read.field "input" := by
        rcases Serde.Struct.codec_placed (by decide) hCodec rfl (i := 1) with
          ⟨given, hPlaced, hRead⟩ | ⟨-, hAbsent⟩
        · cases hRead
          rw [Json.field, show (Json.object fields).get "input" = _ from hPlaced]
          rfl
        · rcases hAbsent with hAbsent | hAbsent <;> cases hAbsent
      have hSystem : (((responsesRequestOf read).instructions.filter fun text => text != "").map
          fun text => Message.plain "system" (some (.string text))).toList.flatMap (fun message =>
            if message.role = "user" then texts message else []) = [] := by
        cases (responsesRequestOf read).instructions.filter fun text => text != "" <;> rfl
      unfold responsesToChat at hChat
      by_cases hBackground : (responsesRequestOf read).background = some true
      · rw [if_pos hBackground] at hChat
        cases hChat
      · rw [if_neg hBackground] at hChat
        obtain ⟨messages, hMessages, hChat⟩ := Fallible.bind_eq_ok.mp hChat
        cases hChat
        unfold userTexts carriedTexts
        dsimp only
        rw [List.flatMap_append, hSystem, List.nil_append, hInput]
        change inputMessages R.J (read.field "input") = .ok messages at hMessages
        cases hKind : read.field "input" with
        | string s =>
          rw [hKind] at hMessages
          cases hMessages
          rfl
        | array inputs =>
          rw [hKind] at hMessages
          cases hMessages
          exact userTexts_input
        | _ =>
          rw [hKind] at hMessages
          cases hMessages
    | _ => cases hCodec

end Places

section Completeness

variable {R : RequestLibraries} {regex : String → Except String (String → Bool)}
  {cfg : AiPromptGuardConfig} {format : RequestFormat} {body text : String}

theorem carries_iff : Carries R format body text ↔
    ∃ request, decode R format body = .ok request ∧ text ∈ userTexts request := by
  constructor
  · rintro ⟨⟨request, hRequest⟩, parsed, hParsed, hText⟩
    obtain ⟨other, hOther, hTexts⟩ := userTexts_eq hRequest
    rw [hParsed] at hOther
    cases hOther
    exact ⟨request, hRequest, hTexts ▸ hText⟩
  · rintro ⟨request, hRequest, hText⟩
    obtain ⟨parsed, hParsed, hTexts⟩ := userTexts_eq hRequest
    exact ⟨⟨request, hRequest⟩, parsed, hParsed, hTexts ▸ hText⟩

theorem complete_iff : Complete R regex cfg format body ↔ (cfg.action = "block" → ∀ text,
    Carries R format body text → Offends regex cfg text → Caught R.J regex cfg body) := by
  constructor
  · intro h hAction text hCarries hOffends
    obtain ⟨request, hRequest, hText⟩ := carries_iff.mp hCarries
    exact (access_eq_exit_iff.mp (h hAction request hRequest text hText hOffends)).2
  · intro h hAction request hRequest text hText hOffends
    exact access_eq_exit_iff.mpr
      ⟨hAction, h hAction text (carries_iff.mpr ⟨request, hRequest, hText⟩) hOffends⟩

/-- The texts that the guard comes across have a common bound. -/
theorem visits_bounded (J : JsonText) (body : String) :
    ∃ bound, ∀ text, Visits J body text → text.utf8ByteSize ≤ bound := by
  by_cases hSome : ∃ text, Visits J body text
  · obtain ⟨-, parsed, messages, hParsed, hMessages, -⟩ := hSome
    refine ⟨(messages.map fun message => (contentText message).utf8ByteSize).sum, ?_⟩
    rintro _ ⟨other, found, hOther, hFound, message, hMem, -, rfl⟩
    cases hParsed.symm.trans hOther
    cases hMessages.symm.trans hFound
    exact List.le_sum_of_mem (List.mem_map_of_mem hMem)
  · exact ⟨0, fun text hText => absurd ⟨text, hText⟩ hSome⟩

/-- The guard stops what it is to stop, whatever its patterns, exactly if it comes across each text
of a user that the body carries; with given patterns, where it comes across a text to be stopped. -/
theorem guard_complete_iff (R : RequestLibraries) (format : RequestFormat) (body : String) :
    ((∀ regex cfg, Compiles regex cfg.denyPatterns → Compiles regex cfg.allowPatterns →
        Complete R regex cfg format body) ↔
      ∀ text, Carries R format body text → Visits R.J body text) ∧
    ∀ regex cfg, Complete R regex cfg format body ↔ (cfg.action = "block" → ∀ text,
      Carries R format body text → Offends regex cfg text → Caught R.J regex cfg body) := by
  refine ⟨⟨fun h text hCarries => ?_, fun h regex cfg hDeny hAllow => ?_⟩,
    fun regex cfg => complete_iff⟩
  · -- one pattern, that only the text matches, and a limit that no visited text is beyond
    obtain ⟨bound, hBound⟩ := visits_bounded R.J body
    let regex : String → Except String (String → Bool) := fun _ => .ok fun other => other == text
    have hCompiles (patterns : List String) : Compiles regex patterns := fun _ _ => ⟨_, rfl⟩
    have hComplete := h regex ⟨[""], [], bound, "block", 400, ""⟩ (hCompiles _) (hCompiles _)
    obtain ⟨seen, hSeen, hStopped⟩ := (complete_iff.mp hComplete rfl text hCarries
      (.inr ⟨"", List.mem_singleton_self _, _, rfl, beq_self_eq_true text⟩)).seen
    rcases hStopped with (hLong | ⟨pattern, -, isMatch, hRegex, hMatch⟩) | ⟨hNone, -⟩
    · exact absurd (hBound seen hSeen) (Nat.not_le.mpr hLong)
    · cases hRegex
      rw [← eq_of_beq hMatch]
      exact hSeen
    · exact absurd rfl hNone
  · refine complete_iff.mpr fun _ text hCarries hOffends => ?_
    exact ⟨hDeny, hAllow, text, h text hCarries, .inl hOffends⟩

end Completeness

/-! ### Three ways around the guard -/

def sampleLibraries : RequestLibraries where
  J := .compact
  refusal _ := ""
  toLowercase := id
  repeatedField _ _ := none

/-- `is_match` of a pattern without operators. -/
def sampleRegex (pattern : String) : Except String (String → Bool) :=
  .ok fun text => decide (pattern.toList <:+: text.toList)

def sampleConfig : AiPromptGuardConfig :=
  ⟨["ignore"], [], 32768, "block", 400, "request blocked by ai-prompt-guard"⟩

def inputBody : Json := .ofFields [("input", .string "ignore this"), ("model", .string "m")]

def positionalBody : Json :=
  .ofFields [("messages", .array [.array [.string "user", .string "ignore this", .null, .null,
    .null]]), ("model", .string "m")]

def splitBody : Json :=
  .ofFields [("max_tokens", .number (.posInt 10)), ("messages", .array [.ofFields
    [("content", .array [.ofFields [("text", .string "ign"), ("type", .string "text")],
      .ofFields [("text", .string "ore"), ("type", .string "text")]]),
      ("role", .string "user")]]), ("model", .string "m")]

theorem guard_bypassed : ¬ Complete sampleLibraries sampleRegex sampleConfig .responses
        (JsonText.compact.print inputBody) ∧
      ¬ Complete sampleLibraries sampleRegex sampleConfig .chat
        (JsonText.compact.print positionalBody) ∧
      ¬ Complete sampleLibraries sampleRegex sampleConfig .anthropic
        (JsonText.compact.print splitBody) := by
  have hBypassed {format : RequestFormat} {body : String} {text : String}
      (hRequest : ∃ request, decode sampleLibraries format body = .ok request ∧
        text ∈ userTexts request) (hIgnore : "ignore".toList <:+: text.toList)
      (hPasses : access .compact sampleRegex sampleConfig (some body) = .ok none) :
      ¬ Complete sampleLibraries sampleRegex sampleConfig format body := by
    obtain ⟨request, hRequest, hText⟩ := hRequest
    intro h
    obtain ⟨exit, hExit⟩ := h rfl request hRequest text hText
      (.inr ⟨"ignore", List.mem_singleton_self _, _, rfl, decide_eq_true hIgnore⟩)
    cases hPasses.symm.trans hExit
  have hPlainInput : inputBody.Plain 127 := by simp [inputBody]
  have hPlainPositional : positionalBody.Plain 127 := by simp [positionalBody]
  have hPlainSplit : splitBody.Plain 127 := by simp [splitBody]
  have hInput := JsonText.compact.parse_print hPlainInput
  have hPositional := JsonText.compact.parse_print hPlainPositional
  have hSplit := JsonText.compact.parse_print hPlainSplit
  have hWord : "ignore".toList <:+: "ignore this".toList := by decide
  refine ⟨hBypassed ⟨_, Fallible.bind_eq_ok.mpr ⟨_, Fallible.bind_eq_ok.mpr ⟨_,
        fromStr_of_parse rfl hInput rfl, rfl⟩, rfl⟩, ?_⟩ hWord ?_,
    hBypassed ⟨_, Fallible.bind_eq_ok.mpr ⟨_, fromStr_of_parse rfl hPositional rfl, rfl⟩, ?_⟩
      hWord ?_,
    hBypassed ⟨_, Fallible.bind_eq_ok.mpr ⟨_, Fallible.mapError_eq_ok.mpr
      (fromStr_of_parse rfl hSplit rfl), rfl⟩, ?_⟩ List.infix_rfl ?_⟩
  · exact List.mem_cons_self
  · unfold access
    dsimp only
    rw [hInput]
    rfl
  · exact List.mem_cons_self
  · unfold access
    dsimp only
    rw [hPositional]
    rfl
  · exact List.mem_cons_self
  · unfold access
    dsimp only
    rw [hSplit]
    rfl

end KongRust.Ai.PromptGuard

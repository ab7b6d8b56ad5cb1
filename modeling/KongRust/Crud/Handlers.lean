import KongRust.Admin.Paging
import KongRust.Crud.Bodies

/-!
# The handlers of a write

`do_get`, `do_create`, `do_update`, `do_upsert` and `do_delete`, as what they ask the database and
answer. What the server tells the proxy afterwards is left out.
-/

namespace KongRust.Crud

open Postgres (Entity Library Db fromStrOrUuid)
open Storage (KongError)

/-! ## Errors -/

def statusCode : KongError → Nat
  | .notFound .. => 404
  | .validationError _ => 400
  | .uniqueViolation _ => 409
  | .foreignKeyViolation _ => 409
  | .configError _ => 400
  | _ => 500

def errorName : KongError → String
  | .notFound .. => "not found"
  | .validationError _ => "schema violation"
  | .uniqueViolation _ => "unique constraint violation"
  | .foreignKeyViolation _ => "foreign key violation"
  | _ => "internal error"

def errorCode : KongError → Int
  | .validationError _ => 2
  | .uniqueViolation _ => 5
  | .foreignKeyViolation _ => 4
  | .notFound .. => 3
  | _ => 1

/-- `Display` of an error. -/
def display : KongError → String
  | .databaseError message => "database error: " ++ message
  | .notFound entityType id => entityType ++ " not found: " ++ id
  | .validationError message => "schema violation: " ++ message
  | .uniqueViolation message => "UNIQUE violation detected on '" ++ message ++ "'"
  | .foreignKeyViolation message => "foreign key violation: " ++ message
  | .configError message => "configuration error: " ++ message
  | .serializationError message => "serialization error: " ++ message
  | .internalError message => "internal error: " ++ message

theorem statusCode_ge (e : KongError) : 400 ≤ statusCode e := by
  cases e <;> simp [statusCode]

def plainFailure (e : KongError) : Response :=
  ⟨statusCode e, .ofFields [("message", .string (display e))]⟩

def namedFailure (message : String) (e : KongError) : Response where
  status := statusCode e
  body := .ofFields [("message", .string message), ("name", .string (errorName e)),
    ("code", .ofInt (errorCode e))]

section Failures

variable (lib : Library)

/-- A part of a plugin's cache key in the fields of a violation, and in its text. -/
def scopeField (id : String) : Json :=
  if id.isEmpty then .null else .ofFields [("id", .string id)]

def scopeText (id : String) : String :=
  if id.isEmpty then "null" else "\x7bid=\x22" ++ id ++ "\x22\x7d"

/-- The violation of a plugin's cache key, with the parts that the body's one has. -/
def cacheKeyViolation (cacheKey : String) : Option (String × Json) :=
  match (Text.split ':' cacheKey.toList).map String.ofList with
  | name :: routeId :: serviceId :: consumerId :: _ =>
    some ("UNIQUE violation detected on '\x7bconsumer=" ++ scopeText consumerId ++ ",name=\x22" ++
        name ++ "\x22,route=" ++ scopeText routeId ++ ",service=" ++ scopeText serviceId ++ "\x7d'",
      .ofFields [("consumer", scopeField consumerId), ("name", .string name),
        ("route", scopeField routeId), ("service", scopeField serviceId)])
  | _ => none

/-- The violation of a field that the message names and the body has. -/
def fieldUniqueViolation (message : List Char) (body : Json) : Option (String × Json) := do
  let (_, rest) ← Text.find ['\x7b'] message
  let (name, _) ← Text.find ['='] rest
  let field := String.ofList name
  let value ← body.get field
  let text := value.asStr.getD (lib.jsonText value)
  return ("UNIQUE violation detected on '\x7b" ++ field ++ "=\x22" ++ text ++ "\x22\x7d'",
    .ofFields [(field, .string text)])

variable (e : KongError)

def enrichUniqueViolation (e : KongError) (body : Json) : String × Option Json :=
  let enriched : Option (String × Json) :=
    match e, body with
    | .uniqueViolation inner, .object _ =>
      ((if (Text.find "cache_key".toList inner.toList).isSome then
        (textOf body "cache_key").bind cacheKeyViolation
      else none).orElse fun _ => fieldUniqueViolation lib (display e).toList body)
    | _, _ => none
  match enriched with
  | some (message, fields) => (message, some fields)
  | none => (display e, none)

def failure (e : KongError) (body : Json) : Response :=
  let (message, fields) := enrichUniqueViolation lib e body
  let response := namedFailure message e
  match fields with
  | some fields => { response with body := response.body.setField "fields" fields }
  | none => response

def answerWrite (status : Nat) (body : Json) (result : Except KongError Json) : Response :=
  match result with
  | .ok entity => ⟨status, entity⟩
  | .error e => failure lib e body

def unreadable (body : Json) : Response where
  status := 400
  body := .ofFields [("message", .string ("schema violation: " ++ lib.fromValueError body)),
    ("name", .string "schema violation"), ("code", .ofInt 2), ("fields", .object [])]

theorem failure_status (body : Json) : (failure lib e body).status = statusCode e := by
  unfold failure
  obtain ⟨message, fields⟩ := enrichUniqueViolation lib e body
  cases fields <;> rfl

theorem isSuccess_of_ge {response : Response} (h : 400 ≤ response.status) :
    response.isSuccess = false := by
  unfold Response.isSuccess
  simp only [Bool.and_eq_false_iff, decide_eq_false_iff_not]
  omega

theorem failure_isSuccess (body : Json) : (failure lib e body).isSuccess = false :=
  isSuccess_of_ge (by rw [failure_status]; exact statusCode_ge e)

theorem answerWrite_isSuccess {status : Nat} (hStatus : status = 200 ∨ status = 201) {body : Json}
    {result : Except KongError Json} : (answerWrite lib status body result).isSuccess = true ↔
      ∃ entity, result = .ok entity ∧ answerWrite lib status body result = ⟨status, entity⟩ := by
  cases result with
  | error e =>
    constructor
    · intro h
      exact absurd (failure_isSuccess lib e body) (by rw [← answerWrite, h]; simp)
    · rintro ⟨_, h, -⟩
      cases h
  | ok entity =>
    constructor
    · intro _
      exact ⟨entity, rfl, rfl⟩
    · intro _
      rcases hStatus with rfl | rfl <;> rfl

end Failures

def notFoundIn (table : String) : Response where
  status := 404
  body := .ofFields [("message", .string (table ++ " not found")), ("name", .string "not found"),
    ("code", .ofInt 3)]

/-! ## The generic handlers -/

section Generic

variable (lib : Library) (checks : Checks) (T : Entity) (idOrName : String)

variable (moment : Moment)

/-- What a PATCH writes: an entity that cannot be read is written over with the body alone. -/
def patched (moment : Moment) (body : Json) (found : Except KongError (Option Json)) :
    Except Response Json :=
  match found with
  | .ok (some existing) =>
    (checkMerged checks T (merge moment.now existing body)).mapError Violation.response
  | .ok none => .error (notFoundIn T.tableName)
  | .error _ => (checkMerged checks T body).mapError Violation.response

def writePatched (idOrName : String) (merged : Json) : Db Response := do
  let updated ← Postgres.PgDao.update lib T (fromStrOrUuid lib idOrName) merged
  return answerWrite lib 200 merged updated

def doUpdate (moment : Moment) (idOrName : String) (body : Json) : Db Response :=
  match updateBody checks T body with
  | .error violation => return violation.response
  | .ok body => do
    let found ← Postgres.PgDao.select lib T (fromStrOrUuid lib idOrName)
    match patched checks T moment body found with
    | .error response => return response
    | .ok merged => writePatched lib T idOrName merged

def doUpsert (moment : Moment) (idOrName : String) (body : Json) : Db Response :=
  match upsertBody checks T moment lib idOrName body with
  | .error violation => return violation.response
  | .ok body =>
    match T.fromValue (moment.drawn 0) body with
    | none => return unreadable lib body
    | some entity => do
      let result ← Postgres.PgDao.upsert lib T (fromStrOrUuid lib idOrName) entity
      return answerWrite lib 200 body result

def doDelete (idOrName : String) : Db Response := do
  match ← Postgres.PgDao.delete lib T (fromStrOrUuid lib idOrName) with
  | .ok () => return ⟨204, .null⟩
  | .error e => return if statusCode e = 404 then ⟨204, .null⟩ else namedFailure (display e) e

end Generic

/-! ## For examples -/

/-- The texts of identifiers are parsed, and no other text. -/
def canonicalIds : Library where
  parseStr s :=
    let id : Uuid := BitVec.ofNat 128 ((s.toList.filter (· ≠ '-')).foldl
      (fun n c => n * 16 + Admin.hexValue c) 0)
    if id.text = s then .ok id else .error "invalid character"
  parseDecimal _ := .error "invalid decimal"
  modelCost _ := none
  decimalText _ := "0"
  decodeError := "mismatched types"
  fromValueError _ := "invalid type"
  jsonText _ := ""

theorem canonicalIds_readsIds : canonicalIds.ReadsIds := by
  intro id
  unfold canonicalIds
  dsimp only
  rw [Admin.Uuid.ofNat_text, if_pos rfl]

def anyPlugin : Checks where
  parseUrl _ := none
  isValidPluginName _ := true
  applyPluginConfigDefaults _ config := config
  validatePluginConfigForAdmin _ _ := none

end KongRust.Crud

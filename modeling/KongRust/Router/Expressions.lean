import Mathlib.Data.List.Sort
import KongRust.Foundation.Memo
import KongRust.Router.Types

/-!
# The expressions router

`parseExpression` compiles the expression of a route, `ExpressionsRouter.new` keeps the
routes whose expression compiles, sorted by falling priority, and `findRouteUncached`
evaluates them in that order. `findRoute` puts a cache in front of the evaluation.

The parser works on the characters of the text. The source slices the text at byte
positions; where such a position may fall inside a character, or past the end, the slice
panics, and so does the model.
-/

namespace KongRust.Router.Expressions

open KongRust.Text

/-! ## Compiled expressions -/

inductive Field where
  | httpMethod
  | httpHost
  | httpPath
  | httpHeader (name : String)
  | netProtocol
  | tlsSni
  deriving DecidableEq

inductive CompiledExpression (ρ : Type) where
  | and (a b : CompiledExpression ρ)
  | or (a b : CompiledExpression ρ)
  | eq (field : Field) (value : String)
  | ne (field : Field) (value : String)
  | regex (field : Field) (regex : ρ)
  | isIn (field : Field) (values : List String)
  | notIn (field : Field) (values : List String)
  | true

def getFieldValue : Field → RequestContext → Option String
  | .httpMethod, ctx => some ctx.method
  | .httpHost, ctx => some ctx.host
  | .httpPath, ctx => some ctx.uri
  | .httpHeader name, ctx => ctx.headers.lookup name
  | .netProtocol, ctx => some ctx.scheme
  | .tlsSni, ctx => ctx.sni

def evaluate (S : TextServices) : CompiledExpression S.Regex → RequestContext → Bool
  | .true, _ => Bool.true
  | .and a b, ctx => evaluate S a ctx && evaluate S b ctx
  | .or a b, ctx => evaluate S a ctx || evaluate S b ctx
  | .eq field value, ctx => getFieldValue field ctx == some value
  | .ne field value, ctx => getFieldValue field ctx != some value
  | .regex field regex, ctx => (getFieldValue field ctx).any fun v => S.isMatch regex v
  | .isIn field values, ctx => (getFieldValue field ctx).any fun v => values.contains v
  | .notIn field values, ctx => (getFieldValue field ctx).all fun v => !values.contains v

/-! ## The parser -/

/-- The outcomes of the parser other than a compiled expression. -/
inductive ParseFailure where
  | error (message : String)
  | panic
  deriving DecidableEq

abbrev ParseResult := Except ParseFailure

/-- `parse_field`. -/
def parseField (S : TextServices) (name : List Char) : ParseResult Field :=
  let name := String.ofList (trim name)
  if name = "http.method" then .ok .httpMethod
  else if name = "http.host" then .ok .httpHost
  else if name = "http.path" then .ok .httpPath
  else if name = "net.protocol" then .ok .netProtocol
  else if name = "tls.sni" then .ok .tlsSni
  else match stripPrefix "http.headers." name with
    | some header => .ok (.httpHeader (S.toLowercase header))
    | none => .error (.error ("未知的字段: " ++ name))

def surroundedBy (quote : Char) (s : List Char) : Bool :=
  s.head? == some quote && s.getLast? == some quote

variable (s : List Char)

/-- `strip_quotes`. A single quotation mark both starts and ends the text: the slice
`s[1..0]` panics. -/
def stripQuotes (s : List Char) : ParseResult String :=
  let s := trim s
  if surroundedBy '"' s || surroundedBy '\'' s then
    if s.length = 1 then .error .panic
    else .ok (String.ofList (s.tail.dropLast))
  else .ok (String.ofList s)

/-- Values of `in` and `not in`, separated by commas. -/
def parseValues (s : List Char) : ParseResult (List String) :=
  (split ',' (trim s)).mapM fun piece => stripQuotes (trim piece)

/-- The comparison operators that are tried first, in this order. -/
inductive Comparison where
  | eq | ne | regex
  deriving DecidableEq

def Comparison.text : Comparison → List Char
  | .eq => ['=', '=']
  | .ne => ['!', '=']
  | .regex => ['~']

/-- The first occurrence of an operator, unless `~` is a part of another operator. -/
def Comparison.locate (op : Comparison) (input : List Char) : Option (List Char × List Char) :=
  match find op.text input with
  | none => none
  | some (left, right) =>
    if op = .regex && (left.getLast? == some '!' || right.head? == some '=') then none
    else some (left, right)

def parseCompared (S : TextServices) (op : Comparison) (left right : List Char) :
    ParseResult (CompiledExpression S.Regex) := do
  let field ← parseField S (trim left)
  let value ← stripQuotes (trim right)
  match op with
  | .eq => .ok (.eq field value)
  | .ne => .ok (.ne field value)
  | .regex =>
    match S.compile value with
    | .ok regex => .ok (.regex field regex)
    | .error e => .error (.error ("无效的正则表达式: " ++ e))

/-- `parse_comparison`. The pattern ` in ` is tried before ` not in `. -/
def parseComparison (S : TextServices) (input : List Char) :
    ParseResult (CompiledExpression S.Regex) :=
  let input := trim input
  match [Comparison.eq, .ne, .regex].findSome? fun op =>
      (op.locate input).map fun split => (op, split) with
  | some (op, left, right) => parseCompared S op left right
  | none =>
    match find " in ".toList input with
    | some (left, right) => do
      let field ← parseField S (trim left)
      let values ← parseValues right
      .ok (.isIn field values)
    | none =>
      match find " not in ".toList input with
      | some (left, right) => do
        let field ← parseField S (trim left)
        let values ← parseValues right
        .ok (.notIn field values)
      | none => .error (.error ("无法解析表达式: " ++ String.ofList input))

/-- The loop of `find_operator`, with the characters read so far. Outside quotes and
parentheses the source slices the text at every byte, so a character of several bytes
panics there. -/
def findOperatorFrom (op : List Char) (depth : Int) (inQuote : Bool) (before : List Char) :
    List Char → ParseResult (Option (List Char × List Char))
  | [] => .ok none
  | c :: rest =>
    if c = '"' ∧ depth = 0 then findOperatorFrom op depth (!inQuote) (before ++ [c]) rest
    else if c = '(' ∧ !inQuote then findOperatorFrom op (depth + 1) inQuote (before ++ [c]) rest
    else if c = ')' ∧ !inQuote then findOperatorFrom op (depth - 1) inQuote (before ++ [c]) rest
    else if !inQuote ∧ depth = 0 then
      let after := (c :: rest).drop op.length
      if op.isPrefixOf (c :: rest) && (before.isEmpty || before.getLast? == some ' ') &&
          (after.isEmpty || after.head? == some ' ') then .ok (some (before, after))
      else if c.utf8Size ≠ 1 then .error .panic
      else findOperatorFrom op depth inQuote (before ++ [c]) rest
    else findOperatorFrom op depth inQuote (before ++ [c]) rest

/-- `find_operator`: the text before the first top-level occurrence of an operator that
stands between spaces, and the text after it. -/
def findOperator (input op : List Char) : ParseResult (Option (List Char × List Char)) :=
  findOperatorFrom op 0 false [] input

/-- The recursion of `parse_expression`; every call is on a shorter text. -/
def parseExpressionWithin (S : TextServices) :
    Nat → List Char → ParseResult (CompiledExpression S.Regex)
  | 0, _ => .error .panic
  | fuel + 1, input => do
    let input := trim input
    if input.isEmpty then return .true
    match ← findOperator input ['|', '|'] with
    | some (left, right) =>
      let left ← parseExpressionWithin S fuel left
      let right ← parseExpressionWithin S fuel right
      return .or left right
    | none =>
      match ← findOperator input ['&', '&'] with
      | some (left, right) =>
        let left ← parseExpressionWithin S fuel left
        let right ← parseExpressionWithin S fuel right
        return .and left right
      | none =>
        if input.head? == some '(' && input.getLast? == some ')' then
          parseExpressionWithin S fuel input.tail.dropLast
        else parseComparison S input

/-- `parse_expression`. -/
def parseExpression (S : TextServices) (input : String) :
    ParseResult (CompiledExpression S.Regex) :=
  parseExpressionWithin S (input.toList.length + 1) input.toList

/-! ## The recursion of the parser ends -/

theorem trim_length_le : (trim s).length ≤ s.length := by
  have hFront := (s.dropWhile_suffix isWhitespace).length_le
  have hBack := ((s.dropWhile isWhitespace).reverse.dropWhile_suffix isWhitespace).length_le
  simp only [List.length_reverse] at hBack
  simp only [trim, List.length_reverse]
  omega

/-! ## The router -/

structure ExpressionRoute (ρ : Type) where
  routeId : Uuid
  serviceId : Option Uuid
  routeName : Option String
  priority : Int
  expression : CompiledExpression ρ
  stripPath : Bool
  preserveHost : Bool
  pathHandling : PathHandling
  protocols : List String
  requestBuffering : Bool
  responseBuffering : Bool

structure ExpressionsRouter (ρ : Type) where
  routes : List (ExpressionRoute ρ)

section Router

variable (S : TextServices)

def expressionRouteOf (route : Route) (expression : CompiledExpression S.Regex) :
    ExpressionRoute S.Regex where
  routeId := route.id
  serviceId := route.service
  routeName := route.name
  priority := route.priority.getD 0
  expression := expression
  stripPath := route.stripPath
  preserveHost := route.preserveHost
  pathHandling := route.pathHandling
  protocols := route.protocols.map Protocol.toText
  requestBuffering := route.requestBuffering
  responseBuffering := route.responseBuffering

/-- One step of the `filter_map` of `ExpressionsRouter::new`: a route without an
expression, or with one that does not parse, is dropped. `none` is a panic of the parser. -/
def compileRoute (route : Route) : Option (Option (ExpressionRoute S.Regex)) :=
  match route.expression with
  | none => some none
  | some text =>
    match parseExpression S text with
    | .ok expression => some (some (expressionRouteOf S route expression))
    | .error (.error _) => some none
    | .error .panic => none

/-- `ExpressionsRouter::new`; `none` if the parser panics. -/
def ExpressionsRouter.new (routes : List Route) : Option (ExpressionsRouter S.Regex) := do
  let compiled ← (routes.filter Route.isHttpRoute).mapM (compileRoute S)
  return { routes := (compiled.filterMap id).insertionSort fun a b => b.priority ≤ a.priority }

def routeMatchOf {ρ : Type} (route : ExpressionRoute ρ) : RouteMatch where
  routeId := route.routeId
  serviceId := route.serviceId
  routeName := route.routeName
  stripPath := route.stripPath
  preserveHost := route.preserveHost
  pathHandling := route.pathHandling
  matchedPath := none
  protocols := route.protocols
  requestBuffering := route.requestBuffering
  responseBuffering := route.responseBuffering
  uriCaptures := UriCaptures.default

variable (router : ExpressionsRouter S.Regex)

/-- `find_route_uncached`. -/
def findRouteUncached (router : ExpressionsRouter S.Regex) (ctx : RequestContext) :
    Option RouteMatch :=
  (router.routes.find? fun route => evaluate S route.expression ctx).map routeMatchOf

def cacheKey (ctx : RequestContext) : String :=
  ctx.method ++ "\x00" ++ hostNoPort S ctx ++ "\x00" ++ ctx.uri

/-- `find_route`, given what the cache returns for the key of the request: the answer, and
the entry stored on a miss. -/
def findRoute (router : ExpressionsRouter S.Regex) (cached : Option (Option RouteMatch))
    (ctx : RequestContext) : Option RouteMatch × Option (String × Option RouteMatch) :=
  match cached with
  | some result => (result, none)
  | none =>
    let result := findRouteUncached S router ctx
    (result, some (cacheKey S ctx, result))

end Router

end KongRust.Router.Expressions

import Mathlib.Data.List.AList
import KongRust.Foundation.Machine
import KongRust.Foundation.Text

/-!
# Routes, requests and match results

The data both routers work on. Hash maps are association lists with distinct keys; their
entries are listed in the order in which the map happens to be iterated.
-/

namespace KongRust.Router

/-- A `HashMap<String, V>`. -/
abbrev StringMap (V : Type) := AList (fun _ : String => V)

/-- The services the routers take from outside the repository: the Unicode case tables and
the `regex` crate. `captures` lists the groups of the leftmost match, the whole match
first; `captureNames` lists their names in the same order. -/
structure TextServices where
  toLowercase : String → String
  toUppercase : String → String
  Regex : Type
  compile : String → Except String Regex
  isMatch : Regex → String → Bool
  captures : Regex → String → Option (List (Option String))
  captureNames : Regex → List (Option String)

/-- The services on ASCII text, for configurations without regular expressions. -/
def TextServices.ascii : TextServices where
  toLowercase text := String.ofList (text.toList.map Char.toLower)
  toUppercase text := String.ofList (text.toList.map Char.toUpper)
  Regex := Empty
  compile _ := .error ""
  isMatch regex := regex.elim
  captures regex := regex.elim
  captureNames regex := regex.elim

/-- `Protocol` of the core models. -/
inductive Protocol where
  | http | https | tcp | tls | udp | grpc | grpcs | tlsPassthrough | ws | wss
  deriving DecidableEq, Repr

/-- The `Display` text of a protocol. -/
def Protocol.toText : Protocol → String
  | .http => "http"
  | .https => "https"
  | .tcp => "tcp"
  | .tls => "tls"
  | .udp => "udp"
  | .grpc => "grpc"
  | .grpcs => "grpcs"
  | .tlsPassthrough => "tls_passthrough"
  | .ws => "ws"
  | .wss => "wss"

def Protocol.isHttp : Protocol → Bool
  | .http | .https | .grpc | .grpcs | .ws | .wss => true
  | .tcp | .tls | .udp | .tlsPassthrough => false

inductive PathHandling where
  | v0 | v1
  deriving DecidableEq, Repr

/-- The columns of a route that the HTTP routers read. -/
structure Route where
  id : Uuid
  createdAt : Int
  name : Option String
  protocols : List Protocol
  stripPath : Bool
  preserveHost : Bool
  requestBuffering : Bool
  responseBuffering : Bool
  service : Option Uuid
  snis : Option (List String)
  methods : Option (List String)
  hosts : Option (List String)
  paths : Option (List String)
  headers : Option (StringMap (List String))
  regexPriority : Int
  pathHandling : PathHandling
  expression : Option String
  priority : Option Int

/-- `Route::default`, with the identifier that it draws. -/
def Route.default (id : Uuid) : Route where
  id := id
  createdAt := 0
  name := none
  protocols := [.http, .https]
  stripPath := true
  preserveHost := false
  requestBuffering := true
  responseBuffering := true
  service := none
  snis := none
  methods := none
  hosts := none
  paths := none
  headers := none
  regexPriority := 0
  pathHandling := .v0
  expression := none
  priority := none

/-- Only routes with a protocol of the HTTP subsystem enter an HTTP router. -/
def Route.isHttpRoute (route : Route) : Bool := route.protocols.any Protocol.isHttp

/-- The fields of a request that the routers match on. -/
structure RequestContext where
  method : String
  uri : String
  host : String
  scheme : String
  headers : StringMap String
  sni : Option String

def RequestContext.plain (method scheme host uri : String) : RequestContext :=
  { method, uri, host, scheme, headers := ∅, sni := none }

structure UriCaptures where
  named : StringMap String
  unnamed : List String
  deriving DecidableEq

def UriCaptures.default : UriCaptures := ⟨∅, []⟩

structure RouteMatch where
  routeId : Uuid
  serviceId : Option Uuid
  routeName : Option String
  stripPath : Bool
  preserveHost : Bool
  pathHandling : PathHandling
  matchedPath : Option String
  protocols : List String
  requestBuffering : Bool
  responseBuffering : Bool
  uriCaptures : UriCaptures
  deriving DecidableEq

/-- The lower-cased `Host` header. -/
def hostLower (S : TextServices) (ctx : RequestContext) : String := S.toLowercase ctx.host

def hostNoPort (S : TextServices) (ctx : RequestContext) : String :=
  Text.splitFirst ':' (hostLower S ctx)

end KongRust.Router

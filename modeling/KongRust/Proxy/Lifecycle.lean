import KongRust.Foundation.Machine

/-!
# The lifecycle of a request

What the gateway notes about the end of a request. A hint gives way only to one of a higher priority.
-/

namespace KongRust.Proxy

inductive LifecyclePhase where
  | initialization
  | certificate
  | routing
  | service
  | requestBody
  | rewrite
  | access
  | upstream
  | response
  | headerFilter
  | bodyFilter
  | logging
  | internal
  deriving DecidableEq

inductive Phase where
  | initWorker
  | certificate
  | rewrite
  | access
  | response
  | headerFilter
  | bodyFilter
  | log
  deriving DecidableEq

inductive RequestTerminationHint where
  | policyRejected (phase : Phase) (plugin : String)
  | gatewayError (phase : LifecyclePhase) (component : String)
  | upstreamSemanticError (providerType : Option String)
  deriving DecidableEq

def RequestTerminationHint.priority : RequestTerminationHint → Nat
  | .policyRejected .. => 3
  | .gatewayError .. => 2
  | .upstreamSemanticError _ => 1

structure RequestLifecycle where
  requestId : String
  upstreamStatus : Option Nat
  terminationHint : Option RequestTerminationHint

namespace RequestLifecycle

variable (lifecycle : RequestLifecycle)

def setTerminationHint (lifecycle : RequestLifecycle) (hint : RequestTerminationHint) :
    RequestLifecycle :=
  match lifecycle.terminationHint with
  | some current =>
    if current.priority < hint.priority then { lifecycle with terminationHint := some hint }
    else lifecycle
  | none => { lifecycle with terminationHint := some hint }

def markGatewayError (lifecycle : RequestLifecycle) (phase : LifecyclePhase) (component : String) :
    RequestLifecycle :=
  lifecycle.setTerminationHint (.gatewayError phase component)

def markUpstreamSemanticError (lifecycle : RequestLifecycle) (providerType : Option String) :
    RequestLifecycle :=
  lifecycle.setTerminationHint (.upstreamSemanticError providerType)

end RequestLifecycle

end KongRust.Proxy

import Mathlib.Data.PNat.Notation
import Mathlib.Data.PNat.Defs
import Mathlib.Data.List.AList
import KongRust.Foundation.Machine

/-!
# Quotas, reservations and decisions

The domain types of the rate-limit store. Times are nanoseconds: monotonic times since the
start of the process, wall times since the epoch.
-/

namespace KongRust.RateLimit

def RATE_LIMIT_SCHEMA_VERSION : Nat := 1

structure RateLimitNow where
  mono : Nat
  wall : Int
  deriving DecidableEq

inductive RateLimitSubject where
  | virtualKey (id : Uuid)
  | global
  | route (id : Uuid)
  | consumer (id : Option Uuid)
  deriving DecidableEq

structure RateLimitKey where
  schemaVersion : Nat
  deploymentNamespace : String
  subject : RateLimitSubject
  deriving DecidableEq

inductive WindowAlgorithm where
  | fixedFirstHit
  deriving DecidableEq

structure WindowSpec where
  algorithm : WindowAlgorithm
  duration : Nat
  deriving DecidableEq

/-- The limits in force at an admission; `none` leaves a dimension unlimited. -/
structure QuotaLimits where
  requests : Option ℕ+
  tokens : Option ℕ+
  deriving DecidableEq

structure QuotaCharge where
  requests : Nat
  tokens : Nat
  deriving DecidableEq

structure WindowIdentity where
  id : Uuid
  generation : Nat
  deriving DecidableEq

structure WindowSnapshot where
  identity : Option WindowIdentity
  algorithm : WindowAlgorithm
  duration : Nat
  startedAt : Int
  resetAt : Int
  resetAfter : Nat
  deriving DecidableEq

structure DimensionSnapshot where
  limit : Nat
  used : Nat
  remaining : Nat
  deriving DecidableEq

structure RateLimitSnapshot where
  window : WindowSnapshot
  requests : Option DimensionSnapshot
  tokens : Option DimensionSnapshot
  deriving DecidableEq

inductive ExceededDimension where
  | requests | tokens | requestsAndTokens
  deriving DecidableEq

/-- The contents of a reservation token. Callers can only hand a token back unchanged. -/
structure ReservationEnvelope where
  schemaVersion : Nat
  backendInstanceId : Uuid
  reservationId : Uuid
  requestId : String
  key : RateLimitKey
  window : WindowIdentity
  limitsAtAdmission : QuotaLimits
  reserved : QuotaCharge
  deriving DecidableEq

structure AdmitCommand where
  requestId : String
  key : RateLimitKey
  window : WindowSpec
  limits : QuotaLimits
  reserve : QuotaCharge
  deriving DecidableEq

inductive AdmissionDecision where
  | allowed (reservation : ReservationEnvelope) (snapshot : RateLimitSnapshot) (replayed : Bool)
  | rejected (reason : ExceededDimension) (snapshot : RateLimitSnapshot) (replayed : Bool)
  deriving DecidableEq

def AdmissionDecision.asReplayed : AdmissionDecision → AdmissionDecision
  | .allowed reservation snapshot _ => .allowed reservation snapshot true
  | .rejected reason snapshot _ => .rejected reason snapshot true

def AdmissionDecision.isRejected : AdmissionDecision → Bool
  | .allowed .. => false
  | .rejected .. => true

structure SettleCommand where
  operationId : String
  reservation : ReservationEnvelope
  finalCharge : QuotaCharge
  deriving DecidableEq

inductive SettlementDisposition where
  | applied | staleWindowNoop | replayed
  deriving DecidableEq

structure SettlementResult where
  disposition : SettlementDisposition
  snapshot : Option RateLimitSnapshot
  deriving DecidableEq

inductive InspectQuery where
  | current (key : RateLimitKey) (window : WindowSpec) (limits : QuotaLimits)
  | admission (key : RateLimitKey) (requestId : String)
  | settlement (reservation : ReservationEnvelope) (operationId : String)
  deriving DecidableEq

inductive InspectResult where
  | notFound
  | current (snapshot : RateLimitSnapshot)
  | admission (decision : AdmissionDecision)
  | settlement (result : SettlementResult)
  deriving DecidableEq

inductive RateLimitStoreErrorKind where
  | unavailable | timeout | outcomeUnknown | overloaded | corrupt | unsupported
  deriving DecidableEq

structure RateLimitStoreError where
  kind : RateLimitStoreErrorKind
  message : String
  deriving DecidableEq

def RateLimitStoreError.corrupt (message : String) : RateLimitStoreError := ⟨.corrupt, message⟩

def RateLimitStoreError.overloaded (message : String) : RateLimitStoreError :=
  ⟨.overloaded, message⟩

/-! ## Replayed decisions -/

@[simp] theorem AdmissionDecision.asReplayed_asReplayed (decision : AdmissionDecision) :
    decision.asReplayed.asReplayed = decision.asReplayed := by
  cases decision <;> rfl

end KongRust.RateLimit

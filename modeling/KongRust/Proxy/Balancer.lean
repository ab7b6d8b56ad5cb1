import KongRust.Foundation.Schedule
import KongRust.Proxy.Health

/-!
# Load balancing

The load balancer of an upstream (`kong-proxy/src/balancer.rs`). A selection is the index of a
target, of which the caller gets the address. Weights are `i32` and sums of them wrap around, as
they do in a release build; what then goes wrong is a `Panic`. The hash function, and which of
equal hashes a binary search finds, are what the standard library leaves open.
-/

namespace KongRust.Proxy

inductive LbAlgorithm where
  | roundRobin
  | consistentHashing
  | leastConnections
  | latency
  deriving DecidableEq

structure Upstream where
  name : String
  algorithm : LbAlgorithm
  slots : Int32

structure Target where
  target : String
  weight : Int32

structure BalancerTarget where
  address : String
  weight : Int32
  deriving DecidableEq

structure HashRingNode where
  hash : UInt64
  targetIndex : Nat
  deriving DecidableEq

structure LoadBalancer where
  targets : List BalancerTarget
  algorithm : LbAlgorithm
  rrIndex : UInt64
  upstreamName : String
  healthChecker : Option HealthChecker
  hashRing : List HashRingNode
  connectionCounts : List UInt64

inductive Panic where
  | capacityOverflow
  | remainderByZero
  deriving DecidableEq

/-- `binary_search` of sorted keys: an index of the key, or the index where it would be inserted. -/
structure BinarySearch where
  run : List UInt64 → UInt64 → Except Nat Nat
  found : ∀ {keys key i}, keys.Pairwise (· ≤ ·) → run keys key = .ok i → keys[i]? = some key
  missing : ∀ {keys key i}, keys.Pairwise (· ≤ ·) → run keys key = .error i →
    i ≤ keys.length ∧ (∀ other ∈ keys.take i, other < key) ∧ ∀ other ∈ keys.drop i, key < other

/-- `compute_hash` hashes with `DefaultHasher`, whose algorithm is not specified. -/
structure Hashing where
  computeHash : String → UInt64
  search : BinarySearch

/-- `as usize` of an `i32`. -/
def asUsize (n : Int32) : UInt64 := n.toInt64.toUInt64

/-- `Vec::with_capacity` for elements of this many bytes. -/
def withCapacity (bytes : Nat) (capacity : UInt64) : Except Panic Unit :=
  if 2 ^ 63 ≤ bytes * capacity.toNat then .error .capacityOverflow else .ok ()

/-! ## Construction -/

def balancerTargets (targets : List Target) : List BalancerTarget :=
  (targets.filter fun target => 0 < target.weight).map fun target =>
    ⟨target.target, target.weight⟩

def weightSum (weights : List Int32) : Int32 := weights.foldl (· + ·) 0

variable (target : BalancerTarget)

def vnodes (target : BalancerTarget) (totalSlots : UInt64) (totalWeight : Int32) : Nat :=
  max (asUsize target.weight * totalSlots / asUsize totalWeight).toNat 1

def nodeKey (target : BalancerTarget) (i : Nat) : String := target.address ++ "-" ++ toString i

def ringNodes (H : Hashing) (targets : List BalancerTarget) (totalSlots : UInt64)
    (totalWeight : Int32) : List HashRingNode :=
  targets.zipIdx.flatMap fun entry =>
    (List.range (vnodes entry.1 totalSlots totalWeight)).map fun i =>
      ⟨H.computeHash (nodeKey entry.1 i), entry.2⟩

def buildHashRing (H : Hashing) (targets : List BalancerTarget) (totalSlots : UInt64) :
    Except Panic (List HashRingNode) :=
  if targets.isEmpty then .ok []
  else
    let totalWeight := weightSum (targets.map (·.weight))
    if totalWeight = 0 then .ok []
    else do
      withCapacity 16 totalSlots
      pure ((ringNodes H targets totalSlots totalWeight).mergeSort fun a b => a.hash ≤ b.hash)

namespace LoadBalancer

def new (H : Hashing) (upstream : Upstream) (targets : List Target) :
    Except Panic LoadBalancer := do
  let bt := balancerTargets targets
  let hashRing ←
    if upstream.algorithm = .consistentHashing then buildHashRing H bt (asUsize upstream.slots)
    else .ok []
  pure
    { targets := bt
      algorithm := upstream.algorithm
      rrIndex := 0
      upstreamName := upstream.name
      healthChecker := none
      hashRing
      connectionCounts := bt.map fun _ => 0 }

def updateTargets (H : Hashing) (lb : LoadBalancer) (targets : List Target) :
    Except Panic LoadBalancer := do
  let bt := balancerTargets targets
  let hashRing ←
    if lb.algorithm = .consistentHashing then buildHashRing H bt 10000 else .ok lb.hashRing
  pure { lb with targets := bt, hashRing, connectionCounts := bt.map fun _ => 0 }

end LoadBalancer

/-! ## Weighted round robin -/

def gcdLoop (a b : Int32) : Int32 :=
  if b = 0 then a else gcdLoop b (a % b)
termination_by b.toInt.natAbs
decreasing_by
  rename_i h
  have hB : b.toInt ≠ 0 := fun hZero => h (Int32.toInt_inj.mp hZero)
  rw [Int32.toInt_mod, Int.natAbs_tmod]
  exact Nat.mod_lt _ (Int.natAbs_pos.mpr hB)

/-- `i32::abs`. -/
def absolute (a : Int32) : Int32 := if a < 0 then -a else a

def gcd (a b : Int32) : Int32 := gcdLoop (absolute a) (absolute b)

/-- `enumerate().max_by_key(..)`, from a position on: the last of the greatest values. -/
def lastMaxFrom (best : Nat) (value : Int32) (next : Nat) : List Int32 → Nat
  | [] => best
  | other :: rest =>
    if value ≤ other then lastMaxFrom next other (next + 1) rest
    else lastMaxFrom best value (next + 1) rest

def lastMax : List Int32 → Nat
  | [] => 0
  | value :: rest => lastMaxFrom 0 value 1 rest

def wheel (weights : List Int32) (wheelSize g : Int32) : List Nat :=
  Schedule.drain lastMax (· - 1) wheelSize.toInt.toNat (weights.map (· / g))

namespace LoadBalancer

variable (lb : LoadBalancer) (healthyIndices : List (Fin lb.targets.length))

/-- The selected target with the counter after it. -/
def weightedRoundRobin (healthyIndices : List (Fin lb.targets.length)) :
    Except Panic (Option (Fin lb.targets.length) × UInt64) :=
  if healthyIndices.isEmpty then .ok (none, lb.rrIndex)
  else if healthyIndices.length = 1 then .ok (healthyIndices.head?, lb.rrIndex)
  else
    let weights := healthyIndices.map fun i => lb.targets[i].weight
    let totalWeight := weightSum weights
    if totalWeight = 0 then .ok (none, lb.rrIndex)
    else
      let divisor := weights.foldl gcd 0
      let g := if 0 < divisor then divisor else 1
      let wheelSize := totalWeight / g
      do
        withCapacity 8 (asUsize wheelSize)
        let wheel := (wheel weights wheelSize g).filterMap fun best => healthyIndices[best]?
        if wheel.isEmpty then .error .remainderByZero
        else pure (wheel[lb.rrIndex.toNat % wheel.length]?, lb.rrIndex + 1)

/-! ## Consistent hashing -/

/-- The first healthy target of the nodes of the ring, from a position on and around. -/
def walk (start : Nat) (healthyIndices : List (Fin lb.targets.length)) :
    Option (Fin lb.targets.length) :=
  (List.range lb.hashRing.length).findSome? fun offset =>
    lb.hashRing[(start + offset) % lb.hashRing.length]?.bind fun node =>
      healthyIndices.find? fun i => i.val = node.targetIndex

variable (H : Hashing)

def ringStart (H : Hashing) (hashKey : Option String) : Nat :=
  match H.search.run (lb.hashRing.map (·.hash)) (H.computeHash (hashKey.getD "default")) with
  | .ok i => i
  | .error i => i % lb.hashRing.length

def consistentHashSelect (H : Hashing) (hashKey : Option String)
    (healthyIndices : List (Fin lb.targets.length)) :
    Except Panic (Option (Fin lb.targets.length) × UInt64) :=
  if healthyIndices.isEmpty then .ok (none, lb.rrIndex)
  else if lb.hashRing.isEmpty then lb.weightedRoundRobin healthyIndices
  else
    match lb.walk (lb.ringStart H hashKey) healthyIndices with
    | some i => .ok (some i, lb.rrIndex)
    | none => .ok (healthyIndices.head?, lb.rrIndex)

/-! ## Selection -/

def effectiveConnections (i : Fin lb.targets.length) : UInt64 :=
  if 0 < lb.targets[i].weight then
    lb.connectionCounts.getD i 0 * 100 / asUsize lb.targets[i].weight
  else UInt64.ofNat (2 ^ 64 - 1)

def leastConnectionsSelect (healthyIndices : List (Fin lb.targets.length)) :
    Option (Fin lb.targets.length) :=
  healthyIndices.head?.map fun first =>
    (healthyIndices.foldl (fun least i =>
      if lb.effectiveConnections i < least.1 then (lb.effectiveConnections i, i) else least)
      (UInt64.ofNat (2 ^ 64 - 1), first)).2

def getHealthyIndices : List (Fin lb.targets.length) :=
  (List.finRange lb.targets.length).filter fun i =>
    lb.healthChecker.all fun checker => checker.isHealthy lb.upstreamName lb.targets[i].address

def selectIndex (H : Hashing) (hashKey : Option String) :
    Except Panic (Option (Fin lb.targets.length) × UInt64) :=
  if lb.targets.isEmpty then .ok (none, lb.rrIndex)
  else if lb.getHealthyIndices.isEmpty then
    lb.weightedRoundRobin (List.finRange lb.targets.length)
  else
    match lb.algorithm with
    | .roundRobin | .latency => lb.weightedRoundRobin lb.getHealthyIndices
    | .consistentHashing => lb.consistentHashSelect H hashKey lb.getHealthyIndices
    | .leastConnections => .ok (lb.leastConnectionsSelect lb.getHealthyIndices, lb.rrIndex)

/-- The address of the selected target, and the balancer after it. -/
def selectWithKey (H : Hashing) (hashKey : Option String) :
    Except Panic (Option String × LoadBalancer) :=
  (lb.selectIndex H hashKey).map fun selected =>
    (selected.1.map fun i => lb.targets[i].address, { lb with rrIndex := selected.2 })

end LoadBalancer

end KongRust.Proxy

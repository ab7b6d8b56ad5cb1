import KongRust.Cluster.Convergence

/-!
# The registry of data planes

The entries of `data_planes` go by node, and lifetimes belong to connections. An entry stands for
the open connection of its node as long as the connections of a node follow one another, and as
long as no ping comes after its entry has been purged: a second connection takes over the entry
that the end of the first one removes, and a ping creates no entry.
-/

namespace KongRust.Cluster

open Broadcast

/-- The time after which `CpBgService` purges an entry. -/
def PURGE_TIMEOUT : Int := 60 * 10 ^ 9

/-- From `register_dp` up to `unregister_dp`. -/
def Stage.registered : Stage → Bool
  | .registering | .returning => false
  | _ => true

def Stage.isOpen : Stage → Bool
  | .registering | .unregistering | .returning => false
  | _ => true

/-- A ping that a handler took, and when. -/
structure Heard where
  connection : Nat
  hash : String
  time : Int

def Hub.heard (hub : Hub) : Act → List Heard
  | .handler k (.proceed now) =>
    match (hub.connections k).map Connection.stage with
    | some (.pinged data) => [⟨k, data, now⟩]
    | _ => []
  | _ => []

def Act.keeps : Act → List Heard → List Heard
  | .connect k _ _ _ _ _, pings => pings.filter fun ping => ping.connection ≠ k
  | _, pings => pings

def Act.purged : Act → List Int
  | .purge now => [now]
  | _ => []

/-- The system with its pings, the latest first, and the times of its purges; no step reads
them. -/
structure Roster where
  hub : Hub
  pings : List Heard
  purges : List Int

namespace Roster

def new : Roster := ⟨.new, [], []⟩

def step (codec : Codec) (roster : Roster) (act : Act) : Option Roster :=
  (roster.hub.step codec act).map fun hub =>
    ⟨hub, roster.hub.heard act ++ act.keeps roster.pings, act.purged ++ roster.purges⟩

def run (codec : Codec) (roster : Roster) : List Act → Option Roster
  | [] => some roster
  | act :: acts => (roster.step codec act).bind fun next => next.run codec acts

/-- Every step of the run meets a condition on the state before it. -/
def Along (codec : Codec) (cond : Roster → Act → Prop) : Roster → List Act → Prop
  | _, [] => True
  | roster, act :: acts =>
    cond roster act ∧ ∀ next ∈ roster.step codec act, next.Along codec cond acts

variable (roster : Roster) (id : Uuid)

def entry (roster : Roster) (id : Uuid) : Option DataPlaneInfo :=
  roster.hub.cp.dataPlanes.lookup id

def Connected (roster : Roster) (id : Uuid) : Prop :=
  ∃ k connection, roster.hub.connections k = some connection ∧ connection.info.id = id ∧
    connection.stage.isOpen

def latest (roster : Roster) (id : Uuid) : Option Heard :=
  roster.pings.find? fun ping => (roster.hub.connections ping.connection).any fun connection =>
    decide (connection.info.id = id) && connection.stage.isOpen

/-- Every node with an open connection whose latest ping is more recent than the purge timeout has
an entry with the hash of that ping. The time is any from the last purge on. -/
def Listed (roster : Roster) : Prop :=
  ∀ now, (∀ purge ∈ roster.purges, purge ≤ now) → ∀ id ping, roster.latest id = some ping →
    now - PURGE_TIMEOUT < ping.time →
      ∃ info, roster.entry id = some info ∧ info.configHash = ping.hash

/-- A step removes an entry only if its node has no open connection left, or stopped pinging for
the timeout. -/
def RemovesOnly (roster : Roster) (act : Act) (next : Roster) : Prop :=
  ∀ id, roster.entry id ≠ none → next.entry id = none →
    ¬ next.Connected id ∨ ∃ now, act = .purge now ∧
      ∀ ping, roster.latest id = some ping → ping.time ≤ now - PURGE_TIMEOUT

/-- A connection registers after the others of its node have unregistered, and a ping finds the
entry of its node. -/
def Orderly (roster : Roster) : Act → Prop
  | .handler k _ => ∀ connection, roster.hub.connections k = some connection →
    (connection.stage = .registering → ∀ j other, roster.hub.connections j = some other →
      other.stage.registered → other.info.id ≠ connection.info.id) ∧
    ∀ data, connection.stage = .pinged data → roster.entry connection.info.id ≠ none
  | _ => True

/-- What the entry of an open connection says, given the latest ping over it. -/
def Shows (roster : Roster) (id : Uuid) (ping : Heard) : Prop :=
  match roster.entry id with
  | some info => info.configHash = ping.hash ∧ info.lastSeen = ping.time
  | none => ∃ purge ∈ roster.purges, ping.time ≤ purge - PURGE_TIMEOUT

structure Tidy (roster : Roster) : Prop where
  apart : ∀ j k one other, roster.hub.connections j = some one →
    roster.hub.connections k = some other → one.stage.registered → other.stage.registered →
    one.info.id = other.info.id → j = k
  fresh : ∀ ping ∈ roster.pings, ∀ connection,
    roster.hub.connections ping.connection = some connection → connection.stage ≠ .registering
  shows : ∀ k connection, roster.hub.connections k = some connection → connection.stage.isOpen →
    ∀ ping, roster.pings.find? (fun ping => ping.connection = k) = some ping →
      roster.Shows connection.info.id ping

end Roster

def Stage.isQuiet : Stage → Bool
  | .registering | .pinged _ => false
  | _ => true

variable {stage : Stage} {now : Int} {codec : Codec} {hub : Hub} {k : Nat} {connection : Connection}
  {data : String} {cp cp' : ControlPlane}

theorem Stage.registered_of_isOpen (h : stage.isOpen) : stage.registered := by
  cases stage <;> first | rfl | cases h

theorem ControlPlane.updateDpStatus_keeps (cp : ControlPlane) {id other : Uuid}
    {configHash : String} (h : cp.dataPlanes.lookup other ≠ none) :
    (cp.updateDpStatus id configHash now).dataPlanes.lookup other ≠ none := by
  unfold ControlPlane.updateDpStatus
  split
  · exact h
  · exact Table.lookup_insert_ne_none h

/-! ## The steps of a handler, as the registry sees them -/

theorem Outlet.subscribed_registered (outlet : Outlet) : outlet.subscribed ≠ .registering := by
  cases outlet <;> simp [Outlet.subscribed]

theorem Outlet.hear_registered (outlet : Outlet) (codec : Codec) (message : Incoming) :
    outlet.hear codec message ≠ .registering := by
  cases outlet with
  | v1 => cases message <;> simp [Outlet.hear, hearV1]
  | v2 =>
    cases message with
    | text text =>
      simp only [Outlet.hear, hearV2, hearRequest]
      split
      · split
        · simp
        · split <;> simp
      · simp
    | _ => simp [Outlet.hear, hearV2]

theorem Outlet.receive_registered {outlet : Outlet} {answer : Received Bytes}
    (h : outlet.receive answer = some stage) : stage ≠ .registering := by
  intro hEq
  subst hEq
  cases outlet <;> cases answer <;> simp [Outlet.receive] at h

theorem sendCurrent_registered (current : Option Bytes) : sendCurrent current ≠ .registering := by
  cases current <;> simp [sendCurrent]

theorem deltaOf_registered (codec : Codec) (id : UInt64) (current : Option Bytes) :
    deltaOf codec id current ≠ .registering := by
  unfold deltaOf
  split
  · simp
  · split <;> simp

variable {connection' : Option Connection} {event : Event}

theorem Connection.step_pinged {codec : Codec} {cp cp' : ControlPlane} {k : Nat}
    {connection : Connection} {data : String} (hStage : connection.stage = .pinged data)
    (h : connection.step codec cp k event = some (cp', connection')) :
    ∃ now, event = .proceed now ∧ cp' = cp.updateDpStatus connection.info.id data now ∧
      connection' = connection.goto (.sending (.pong data)) := by
  unfold Connection.step at h
  rw [hStage] at h
  cases event with
  | proceed now =>
    cases h
    exact ⟨now, rfl, rfl, rfl⟩
  | _ => cases h

theorem Hub.step_pinged {hub' : Hub} (hOpen : hub.connections k = some connection)
    (hStage : connection.stage = .pinged data) (h : hub.step codec (.handler k event) = some hub') :
    ∃ now, event = .proceed now ∧ hub' = { hub with
      cp := hub.cp.updateDpStatus connection.info.id data now
      connections := Function.update hub.connections k
        (connection.goto (.sending (.pong data))) } := by
  obtain ⟨other, hOther, hStep⟩ := Option.bind_eq_some_iff.mp h
  cases hOpen.symm.trans hOther
  obtain ⟨⟨cp, connection'⟩, hTurn, rfl⟩ := Option.map_eq_some_iff.mp hStep
  obtain ⟨now, rfl, rfl, rfl⟩ := Connection.step_pinged hStage hTurn
  exact ⟨now, rfl, rfl⟩

theorem Hub.heard_pinged (hOpen : hub.connections k = some connection)
    (hStage : connection.stage = .pinged data) :
    hub.heard (.handler k (.proceed now)) = [⟨k, data, now⟩] := by
  simp [Hub.heard, hOpen, hStage]

theorem Hub.heard_of_not_pinged {hub : Hub} {k : Nat} {connection : Connection}
    (hOpen : hub.connections k = some connection)
    (hStage : ∀ data, connection.stage ≠ .pinged data) : hub.heard (.handler k event) = [] := by
  cases event with
  | proceed now =>
    simp only [Hub.heard, hOpen, Option.map_some]
    split
    next data hData => exact absurd (Option.some.inj hData) (hStage data)
    next => rfl
  | _ => rfl

/-- A step of a handler that is neither its registration, nor a ping, nor its end. -/
structure Connection.Minor (cp : ControlPlane) (connection : Connection) (cp' : ControlPlane)
    (connection' : Connection) : Prop where
  dataPlanes : cp'.dataPlanes = cp.dataPlanes
  info : connection'.info = connection.info
  wasOpen : connection.stage.isOpen
  registered : connection'.stage ≠ .registering

theorem Connection.Minor.goto {was : Stage} (hCp : cp'.dataPlanes = cp.dataPlanes)
    (hStage : connection.stage = was) (hOpen : was.isOpen) (hNext : stage ≠ .registering) :
    connection.Minor cp cp' { connection with stage := stage } :=
  ⟨hCp, rfl, hStage ▸ hOpen, hNext⟩

theorem Connection.Turn.registry (h : connection.Turn codec cp k cp' connection') :
    (connection.stage = .registering ∧ cp' = cp.insertDataPlane connection.info ∧
      connection' = connection.goto .subscribing) ∨
    (∃ data, connection.stage = .pinged data) ∨
    (connection.stage = .unregistering ∧ cp' = cp.unregisterDp connection.info.id ∧
      connection' = connection.goto .returning) ∨
    (connection.stage = .returning ∧ cp'.dataPlanes = cp.dataPlanes ∧ connection' = none) ∨
    ∃ next, connection' = some next ∧ connection.Minor cp cp' next := by
  cases h
  case registers hStage => exact .inl ⟨hStage, rfl, rfl⟩
  case pongs hStage now => exact .inr (.inl ⟨_, hStage⟩)
  case unregisters hStage => exact .inr (.inr (.inl ⟨hStage, rfl, rfl⟩))
  case returns hStage => exact .inr (.inr (.inr (.inl ⟨hStage, rfl, rfl⟩)))
  all_goals refine .inr (.inr (.inr (.inr ⟨_, rfl, ?_⟩)))
  case subscribes hStage => exact .goto rfl hStage rfl (Outlet.subscribed_registered _)
  case greets hStage => exact .goto rfl hStage rfl (by simp)
  case reads hStage => exact .goto rfl hStage rfl (sendCurrent_registered _)
  case hears hStage message => exact .goto rfl hStage rfl (Outlet.hear_registered _ _ _)
  case receives hStage answer configTx stage hRecv hAnswer =>
    exact .goto rfl hStage rfl (Outlet.receive_registered hAnswer)
  case looksUp hStage => exact .goto rfl hStage rfl (deltaOf_registered _ _ _)
  case answers hStage => exact .goto rfl hStage rfl (by simp)
  case notifies hStage => exact .goto rfl hStage rfl (by simp)
  case sends hStage => exact ⟨rfl, rfl, by rw [hStage]; rfl, by simp⟩
  case breaks hStage => exact .goto rfl hStage rfl (by simp)

namespace Roster

variable {codec : Codec} {roster next : Roster} {act : Act}

/-! ## Each step keeps the registry -/

variable {k : Nat} {changed : Option Connection} {hub : Hub} {connection : Connection} {id : Uuid}
  {ping : Heard}

theorem Tidy.apart_update (hTidy : roster.Tidy)
    (hConnections : hub.connections = Function.update roster.hub.connections k changed)
    (hChanged : ∀ connection, changed = some connection → connection.stage.registered →
      ∀ j other, j ≠ k → roster.hub.connections j = some other → other.stage.registered →
        other.info.id ≠ connection.info.id) :
    ∀ i j one other, hub.connections i = some one → hub.connections j = some other →
      one.stage.registered → other.stage.registered → one.info.id = other.info.id → i = j := by
  intro i j one other hOne hOther hRegistered hRegistered' hSame
  rw [hConnections] at hOne hOther
  obtain ⟨hI, hOne'⟩ | ⟨hI, hOne'⟩ := open_cases hOne
  · obtain ⟨hJ, -⟩ | ⟨hJ, hOther'⟩ := open_cases hOther
    · rw [hI, hJ]
    · exact absurd hSame.symm (hChanged one hOne' hRegistered j other hJ hOther' hRegistered')
  · obtain ⟨hJ, hOther'⟩ | ⟨-, hOther'⟩ := open_cases hOther
    · exact absurd hSame (hChanged other hOther' hRegistered' i one hI hOne' hRegistered)
    · exact hTidy.apart i j one other hOne' hOther' hRegistered hRegistered' hSame

variable {j : Nat}

theorem Tidy.others {other : Connection} (hTidy : roster.Tidy)
    (hOpen : roster.hub.connections k = some connection) (hRegistered : connection.stage.registered)
    (hNe : j ≠ k) (hOther : roster.hub.connections j = some other)
    (hRegistered' : other.stage.registered) : other.info.id ≠ connection.info.id :=
  fun hSame => hNe (hTidy.apart j k other connection hOther hOpen hRegistered' hRegistered hSame)

theorem find?_filter_ne {pings : List Heard} (hNe : j ≠ k) :
    (pings.filter fun ping => ping.connection ≠ k).find? (fun ping => ping.connection = j) =
      pings.find? fun ping => ping.connection = j := by
  rw [List.find?_filter]
  congr 1
  funext ping
  by_cases h : ping.connection = j
  · simp [h, hNe]
  · simp [h]

theorem Shows.frame (hEntry : next.entry id = roster.entry id)
    (hPurges : next.purges = roster.purges) (h : roster.Shows id ping) : next.Shows id ping := by
  unfold Shows
  rw [hEntry, hPurges]
  exact h

section

variable (hTidy : roster.Tidy)
include hTidy

theorem Tidy.shows_update
    (hConnections : next.hub.connections = Function.update roster.hub.connections k changed)
    (hPings : ∀ j, j ≠ k → next.pings.find? (fun ping => ping.connection = j) =
      roster.pings.find? fun ping => ping.connection = j)
    (hPurges : next.purges = roster.purges)
    (hOthers : ∀ j connection, j ≠ k → roster.hub.connections j = some connection →
      connection.stage.isOpen → next.entry connection.info.id = roster.entry connection.info.id)
    (hChanged : ∀ connection, changed = some connection → connection.stage.isOpen → ∀ ping,
      next.pings.find? (fun ping => ping.connection = k) = some ping →
        next.Shows connection.info.id ping) :
    ∀ j connection, next.hub.connections j = some connection → connection.stage.isOpen →
      ∀ ping, next.pings.find? (fun ping => ping.connection = j) = some ping →
        next.Shows connection.info.id ping := by
  intro j connection hConnection hOpen ping hPing
  rw [hConnections] at hConnection
  obtain ⟨hJ, hConnection⟩ | ⟨hJ, hConnection⟩ := open_cases hConnection
  · rw [hJ] at hPing
    exact hChanged connection hConnection hOpen ping hPing
  · rw [hPings j hJ] at hPing
    exact Shows.frame (hOthers j connection hJ hConnection hOpen) hPurges
      (hTidy.shows j connection hConnection hOpen ping hPing)

theorem Tidy.fresh_update
    (hConnections : hub.connections = Function.update roster.hub.connections k changed)
    (hChanged : ∀ connection, changed = some connection → connection.stage ≠ .registering) :
    ∀ ping ∈ roster.pings, ∀ connection, hub.connections ping.connection = some connection →
      connection.stage ≠ .registering := by
  intro ping hPing connection hConnection
  rw [hConnections] at hConnection
  obtain ⟨-, hConnection⟩ | ⟨-, hConnection⟩ := open_cases hConnection
  · exact hChanged connection hConnection
  · exact hTidy.fresh ping hPing connection hConnection

section

variable (hOpen : roster.hub.connections k = some connection)
include hOpen

/-- The step of a connection that registers. -/
theorem Tidy.registers (hStage : connection.stage = .registering)
    (hOthers : ∀ j other, roster.hub.connections j = some other → other.stage.registered →
      other.info.id ≠ connection.info.id)
    (hCp : hub.cp = roster.hub.cp.insertDataPlane connection.info)
    (hConnections : hub.connections =
      Function.update roster.hub.connections k (connection.goto .subscribing)) :
    Tidy ⟨hub, roster.pings, roster.purges⟩ where
  apart := by
    refine hTidy.apart_update hConnections ?_
    intro changed hChanged _ j other _ hOther hRegistered
    cases hChanged
    exact hOthers j other hOther hRegistered
  fresh := hTidy.fresh_update hConnections (by simp [Connection.goto])
  shows := by
    refine hTidy.shows_update hConnections (fun _ _ => rfl) rfl ?_ ?_
    · intro j other _ hOther hOtherOpen
      change hub.cp.dataPlanes.lookup _ = _
      rw [hCp]
      exact AList.lookup_insert_ne (hOthers j other hOther (Stage.registered_of_isOpen hOtherOpen))
    · -- no ping counts for a connection that has just registered
      intro changed _ _ ping hPing
      have hMem : ping ∈ roster.pings := List.mem_of_find?_eq_some hPing
      have hConnection : ping.connection = k := by
        simpa using List.find?_some hPing
      exact absurd hStage (hTidy.fresh ping hMem connection (by rw [hConnection]; exact hOpen))

/-- The step of a connection whose ping has arrived. -/
theorem Tidy.pongs {data : String} {now : Int}
    (hStage : connection.stage = .pinged data) (hEntry : roster.entry connection.info.id ≠ none)
    (hCp : hub.cp = roster.hub.cp.updateDpStatus connection.info.id data now)
    (hConnections : hub.connections =
      Function.update roster.hub.connections k (connection.goto (.sending (.pong data)))) :
    Tidy ⟨hub, ⟨k, data, now⟩ :: roster.pings, roster.purges⟩ := by
  have hRegistered : connection.stage.registered := by
    rw [hStage]
    rfl
  obtain ⟨info, hInfo⟩ := Option.ne_none_iff_exists'.mp hEntry
  obtain ⟨seen, hUpdated, hHash, hTime⟩ : ∃ seen : DataPlaneInfo,
      hub.cp.dataPlanes = roster.hub.cp.dataPlanes.insert connection.info.id seen ∧
        seen.configHash = data ∧ seen.lastSeen = now := by
    have hLookup : roster.hub.cp.dataPlanes.lookup connection.info.id = some info := hInfo
    rw [hCp]
    unfold ControlPlane.updateDpStatus
    rw [hLookup]
    exact ⟨_, rfl, rfl, rfl⟩
  constructor
  · refine hTidy.apart_update hConnections ?_
    intro changed hChanged _ j other hJ hOther hOtherRegistered
    cases hChanged
    have hNe := hTidy.others hOpen hRegistered hJ hOther hOtherRegistered
    exact hNe
  · intro ping hPing other hOther
    change hub.connections _ = _ at hOther
    rw [hConnections] at hOther
    obtain ⟨-, hOther⟩ | ⟨hNe, hOther⟩ := open_cases hOther
    · cases hOther
      simp [Connection.goto]
    · obtain rfl | hPing := List.mem_cons.mp hPing
      · exact absurd rfl hNe
      · exact hTidy.fresh ping hPing other hOther
  · refine hTidy.shows_update hConnections ?_ rfl ?_ ?_
    · intro j hJ
      exact List.find?_cons_of_neg (by simpa using Ne.symm hJ)
    · intro j other hJ hOther hOtherOpen
      have hNe := hTidy.others hOpen hRegistered hJ hOther (Stage.registered_of_isOpen hOtherOpen)
      change hub.cp.dataPlanes.lookup _ = _
      rw [hUpdated]
      exact AList.lookup_insert_ne hNe
    · intro changed hChanged _ ping hPing
      cases hChanged
      have hFirst : (⟨k, data, now⟩ : Heard) = ping := by
        simpa using hPing
      subst hFirst
      have hSeen : hub.cp.dataPlanes.lookup connection.info.id = some seen := by
        rw [hUpdated]
        exact AList.lookup_insert _
      unfold Shows
      split
      next info' hInfo' =>
        cases hSeen.symm.trans hInfo'
        exact ⟨hHash, hTime⟩
      next hNone => cases hSeen.symm.trans hNone

/-- The step of a connection that unregisters. -/
theorem Tidy.unregisters (hStage : connection.stage = .unregistering)
    (hCp : hub.cp = roster.hub.cp.unregisterDp connection.info.id)
    (hConnections : hub.connections =
      Function.update roster.hub.connections k (connection.goto .returning)) :
    Tidy ⟨hub, roster.pings, roster.purges⟩ := by
  have hRegistered : connection.stage.registered := by
    rw [hStage]
    rfl
  constructor
  · refine hTidy.apart_update hConnections ?_
    intro changed hChanged hReturned
    cases hChanged
    cases hReturned
  · exact hTidy.fresh_update hConnections (by simp [Connection.goto])
  · refine hTidy.shows_update hConnections (fun _ _ => rfl) rfl ?_ ?_
    · intro j other hJ hOther hOtherOpen
      have hNe := hTidy.others hOpen hRegistered hJ hOther (Stage.registered_of_isOpen hOtherOpen)
      change hub.cp.dataPlanes.lookup _ = _
      rw [hCp]
      exact AList.lookup_erase_ne hNe
    · intro changed hChanged hStillOpen
      cases hChanged
      cases hStillOpen

theorem Tidy.changes (hCp : hub.cp.dataPlanes = roster.hub.cp.dataPlanes)
    (hConnections : hub.connections = Function.update roster.hub.connections k changed)
    (hChanged : ∀ other, changed = some other → connection.Minor roster.hub.cp hub.cp other) :
    Tidy ⟨hub, roster.pings, roster.purges⟩ := by
  have hSame (id : Uuid) : hub.cp.dataPlanes.lookup id = roster.hub.cp.dataPlanes.lookup id := by
    rw [hCp]
  constructor
  · refine hTidy.apart_update hConnections ?_
    intro next hNext _ j other hJ hOther hRegistered
    have hMinor := hChanged next hNext
    rw [hMinor.info]
    exact hTidy.others hOpen (Stage.registered_of_isOpen hMinor.wasOpen) hJ hOther hRegistered
  · exact hTidy.fresh_update hConnections fun other hOther => (hChanged other hOther).registered
  · refine hTidy.shows_update hConnections (fun _ _ => rfl) rfl (fun _ _ _ _ _ => hSame _) ?_
    · intro next hNext _ ping hPing
      have hMinor := hChanged next hNext
      rw [hMinor.info]
      exact Shows.frame (hSame _) rfl
        (hTidy.shows k connection hOpen hMinor.wasOpen ping hPing)

end

end

theorem advance_registry (hub : Hub) :
    hub.advance.cp.dataPlanes = hub.cp.dataPlanes ∧ hub.advance.connections = hub.connections := by
  refine ⟨?_, rfl⟩
  unfold Hub.advance
  cases hub.push <;> rfl

section

variable (hTidy : roster.Tidy)
include hTidy

theorem Tidy.rests (hCp : hub.cp.dataPlanes = roster.hub.cp.dataPlanes)
    (hConnections : hub.connections = roster.hub.connections) :
    Tidy ⟨hub, roster.pings, roster.purges⟩ := by
  constructor
  · intro i j one other hOne hOther
    change hub.connections _ = _ at hOne hOther
    rw [hConnections] at hOne hOther
    exact hTidy.apart i j one other hOne hOther
  · intro ping hPing other hOther
    change hub.connections _ = _ at hOther
    rw [hConnections] at hOther
    exact hTidy.fresh ping hPing other hOther
  · intro j other hOther hOpen ping hPing
    change hub.connections _ = _ at hOther
    rw [hConnections] at hOther
    have hSame : hub.cp.dataPlanes.lookup other.info.id =
        roster.hub.cp.dataPlanes.lookup other.info.id := by
      rw [hCp]
    exact Shows.frame hSame rfl (hTidy.shows j other hOther hOpen ping hPing)

theorem Tidy.connects (hStage : connection.stage = .registering) (hCp : hub.cp = roster.hub.cp)
    (hConnections : hub.connections = Function.update roster.hub.connections k (some connection)) :
    Tidy ⟨hub, roster.pings.filter fun ping => ping.connection ≠ k, roster.purges⟩ := by
  have hSame (id : Uuid) : hub.cp.dataPlanes.lookup id = roster.hub.cp.dataPlanes.lookup id := by
    rw [hCp]
  constructor
  · refine hTidy.apart_update hConnections ?_
    intro changed hChanged hRegistered
    cases hChanged
    rw [hStage] at hRegistered
    cases hRegistered
  · intro ping hPing other hOther
    obtain ⟨hPing, hNe⟩ := List.mem_filter.mp hPing
    change hub.connections _ = _ at hOther
    rw [hConnections] at hOther
    obtain ⟨hK, -⟩ | ⟨-, hOther⟩ := open_cases hOther
    · exact absurd hK (by simpa using hNe)
    · exact hTidy.fresh ping hPing other hOther
  · refine hTidy.shows_update hConnections ?_ rfl (fun _ _ _ _ _ => hSame _) ?_
    · intro j hJ
      exact find?_filter_ne hJ
    · intro changed hChanged hOpen
      cases hChanged
      rw [hStage] at hOpen
      cases hOpen

/-- A purge leaves an entry, or the last ping of its node is as old as the timeout. -/
theorem Tidy.purges {now : Int} :
    Tidy ⟨{ roster.hub with cp := roster.hub.cp.purgeStaleDps 60 now }, roster.pings,
      now :: roster.purges⟩ where
  apart := hTidy.apart
  fresh := hTidy.fresh
  shows := by
    intro j other hOther hOpen ping hPing
    have hShows := hTidy.shows j other hOther hOpen ping hPing
    have hLookup : (roster.hub.cp.purgeStaleDps 60 now).dataPlanes.lookup other.info.id =
        (roster.entry other.info.id).filter
          fun dp => decide (now - (60 : Nat) * 10 ^ 9 < dp.lastSeen) := Table.lookup_retain
    unfold Shows at hShows ⊢
    cases hEntry : roster.entry other.info.id with
    | none =>
      rw [hEntry] at hLookup hShows
      obtain ⟨purge, hPurge, hLe⟩ := hShows
      change match (roster.hub.cp.purgeStaleDps 60 now).dataPlanes.lookup _ with
        | some info | none => _
      rw [hLookup]
      exact ⟨purge, List.mem_cons_of_mem now hPurge, hLe⟩
    | some info =>
      rw [hEntry] at hLookup hShows
      change match (roster.hub.cp.purgeStaleDps 60 now).dataPlanes.lookup _ with
        | some info | none => _
      rw [hLookup]
      by_cases hSeen : now - (60 : Nat) * 10 ^ 9 < info.lastSeen
      · rw [Option.filter_some, if_pos (by simpa using hSeen)]
        exact hShows
      · rw [Option.filter_some, if_neg (by simpa using hSeen)]
        refine ⟨now, List.mem_cons_self, ?_⟩
        rw [← hShows.2]
        unfold PURGE_TIMEOUT
        omega

theorem Tidy.step (hOrderly : roster.Orderly act)
    (h : roster.step codec act = some next) : next.Tidy := by
  obtain ⟨hub, hHub, rfl⟩ := Option.map_eq_some_iff.mp h
  have hMove := Hub.step_move hHub
  cases hMove with
  | begins | fails => exact hTidy.rests rfl rfl
  | pushes => exact hTidy.rests (advance_registry _).1 (advance_registry _).2
  | connects hFree => exact hTidy.connects rfl rfl rfl
  | purges now => exact hTidy.purges
  | @handles k event connection cp connection' hOpen hTurn =>
    obtain ⟨hRegister, hPinged⟩ := hOrderly connection hOpen
    by_cases hStage : ∃ data, connection.stage = .pinged data
    · obtain ⟨data, hStage⟩ := hStage
      obtain ⟨now, rfl, hEq⟩ := Hub.step_pinged hOpen hStage hHub
      rw [hEq, Hub.heard_pinged hOpen hStage]
      exact hTidy.pongs hOpen hStage (hPinged data hStage) rfl rfl
    · have hNot : ∀ data, connection.stage ≠ .pinged data := fun data hEq => hStage ⟨data, hEq⟩
      rw [Hub.heard_of_not_pinged hOpen hNot]
      obtain ⟨hRegistering, rfl, rfl⟩ | hPinged | ⟨hEnd, rfl, rfl⟩ | ⟨-, hCp, rfl⟩ |
        ⟨later, rfl, hMinor⟩ := hTurn.registry
      · exact hTidy.registers hOpen hRegistering (hRegister hRegistering) rfl rfl
      · exact absurd hPinged hStage
      · exact hTidy.unregisters hOpen hEnd rfl rfl
      · exact hTidy.changes hOpen hCp rfl (fun other hOther => by cases hOther)
      · refine hTidy.changes hOpen hMinor.dataPlanes rfl ?_
        intro other hOther
        cases hOther
        exact hMinor

end

theorem Tidy.run : ∀ {acts : List Act} {roster next : Roster},
    roster.run codec acts = some next → roster.Along codec Orderly acts → roster.Tidy → next.Tidy
  | [], roster, next, hRun, _, hTidy => by
    cases hRun
    exact hTidy
  | act :: acts, roster, next, hRun, hAlong, hTidy => by
    obtain ⟨middle, hStep, hRest⟩ := Option.bind_eq_some_iff.mp hRun
    exact Tidy.run hRest (hAlong.2 middle hStep) (hTidy.step hAlong.1 hStep)

theorem tidy_new : Roster.new.Tidy where
  apart := by
    intro _ _ _ _ hOne
    cases hOne
  fresh := by
    intro _ hPing
    cases hPing
  shows := by
    intro _ _ hConnection
    cases hConnection

/-! ## What the entries say -/

theorem latest_connection (h : roster.latest id = some ping) :
    ∃ connection, roster.hub.connections ping.connection = some connection ∧
      connection.info.id = id ∧ connection.stage.isOpen ∧
      roster.pings.find? (fun other => other.connection = ping.connection) = some ping := by
  obtain ⟨hSent, before, after, hPings, hBefore⟩ := List.find?_eq_some_iff_append.mp h
  obtain ⟨connection, hOpen, hBoth⟩ := (Option.any_eq_true _ _).mp hSent
  obtain ⟨hId, hStage⟩ := Bool.and_eq_true_iff.mp hBoth
  refine ⟨connection, hOpen, of_decide_eq_true hId, hStage, ?_⟩
  rw [List.find?_eq_some_iff_append]
  refine ⟨by simp, before, after, hPings, ?_⟩
  intro other hOther
  have hNot := hBefore other hOther
  simp only [Bool.not_eq_true', decide_eq_false_iff_not]
  intro hSame
  rw [hSame, hOpen, Option.any_some, hBoth] at hNot
  cases hNot

theorem Tidy.latest (hTidy : roster.Tidy)
    (h : roster.latest id = some ping) : roster.Shows id ping := by
  obtain ⟨connection, hOpen, rfl, hStage, hFirst⟩ := latest_connection h
  exact hTidy.shows _ connection hOpen hStage ping hFirst

theorem Tidy.listed (hTidy : roster.Tidy) : roster.Listed := by
  intro now hNow id ping hLatest hRecent
  have hShows := hTidy.latest hLatest
  unfold Shows at hShows
  split at hShows
  next info hInfo => exact ⟨info, hInfo, hShows.1⟩
  next =>
    obtain ⟨purge, hPurge, hLe⟩ := hShows
    have := hNow purge hPurge
    omega

/-- A handler that does not unregister removes no entry. -/
theorem Tidy.removesOnly (hTidy : roster.Tidy) (h : roster.step codec act = some next) :
    roster.RemovesOnly act next := by
  intro id hEntry hGone
  obtain ⟨hub, hHub, rfl⟩ := Option.map_eq_some_iff.mp h
  have hKept (hCp : hub.cp.dataPlanes = roster.hub.cp.dataPlanes) : False := by
    apply hEntry
    change hub.cp.dataPlanes.lookup id = none at hGone
    rw [hCp] at hGone
    exact hGone
  have hMove := Hub.step_move hHub
  cases hMove with
  | begins | fails | connects => exact absurd rfl hKept
  | pushes => exact (hKept (advance_registry _).1).elim
  | purges now =>
    refine .inr ⟨now, rfl, ?_⟩
    intro ping hLatest
    have hShows := hTidy.latest hLatest
    obtain ⟨info, hInfo⟩ := Option.ne_none_iff_exists'.mp hEntry
    have hLookup : (roster.hub.cp.purgeStaleDps 60 now).dataPlanes.lookup id =
        (roster.entry id).filter
          fun dp => decide (now - (60 : Nat) * 10 ^ 9 < dp.lastSeen) := Table.lookup_retain
    have hDropped : ((some info).filter
        fun dp => decide (now - (60 : Nat) * 10 ^ 9 < dp.lastSeen)) = none := by
      rw [← hInfo, ← hLookup]
      exact hGone
    unfold Shows at hShows
    rw [hInfo] at hShows
    have hSeen := Option.filter_eq_none_iff.mp hDropped info rfl
    rw [← hShows.2]
    unfold PURGE_TIMEOUT
    simp only [decide_eq_true_eq] at hSeen
    omega
  | @handles k event connection cp connection' hOpen hTurn =>
    obtain ⟨-, rfl, -⟩ | ⟨data, hStage⟩ | ⟨hStage, rfl, rfl⟩ | ⟨-, hCp, -⟩ | ⟨later, -, hMinor⟩ :=
      hTurn.registry
    · exact absurd hGone (Table.lookup_insert_ne_none hEntry)
    · obtain ⟨now, rfl, hEq⟩ := Hub.step_pinged hOpen hStage hHub
      have hCp : cp = roster.hub.cp.updateDpStatus connection.info.id data now :=
        congrArg Hub.cp hEq
      apply absurd hGone
      change cp.dataPlanes.lookup id ≠ none
      rw [hCp]
      exact ControlPlane.updateDpStatus_keeps _ hEntry
    · left
      rintro ⟨j, other, hOther, hId, hOtherOpen⟩
      obtain ⟨-, hOther⟩ | ⟨hJ, hOther⟩ := open_cases hOther
      · cases hOther
        cases hOtherOpen
      · have hNe := hTidy.others hOpen (by rw [hStage]; rfl) hJ hOther
          (Stage.registered_of_isOpen hOtherOpen)
        rw [hId] at hNe
        apply absurd hGone
        change (roster.hub.cp.dataPlanes.erase connection.info.id).lookup id ≠ none
        rw [AList.lookup_erase_ne hNe]
        exact hEntry
    · exact (hKept hCp).elim
    · exact (hKept hMinor.dataPlanes).elim

/-- In a run where the connections of a node follow one another and every ping finds its entry,
the entries stand for the open connections. -/
theorem registry_follows_connections (codec : Codec) (acts : List Act) (roster : Roster)
    (hRun : Roster.new.run codec acts = some roster)
    (hOrderly : Roster.new.Along codec Orderly acts) :
    roster.Listed ∧ ∀ act next, roster.step codec act = some next →
      roster.RemovesOnly act next := by
  have hTidy : roster.Tidy := Tidy.run hRun hOrderly tidy_new
  refine ⟨hTidy.listed, ?_⟩
  intro act next hStep
  exact hTidy.removesOnly hStep

def nodeCodec : Codec :=
  { sampleCodec with parseUuid := fun text => if text = "node" then some 7 else none }

def arrive (k : Nat) (now : Int) : List Act :=
  [.connect k .v1 [("node_id", "node")] "10.0.0.2" k now, .handler k (.proceed now),
    .handler k (.proceed now), .handler k (.incoming (.binary [])), .handler k (.proceed now)]

def pingOf (k : Nat) (now : Int) : List Act :=
  [.handler k (.incoming (.ping "abc")), .handler k (.proceed now)]

theorem orderly_of_stage {event : Event}
    (hOpen : roster.hub.connections k = some connection) (hStage : connection.stage.isQuiet) :
    roster.Orderly (.handler k event) := by
  intro other hOther
  cases hOpen.symm.trans hOther
  constructor
  · intro hRegistering
    rw [hRegistering] at hStage
    cases hStage
  · intro data hPinged
    rw [hPinged] at hStage
    cases hStage

theorem along_cons {cond : Roster → Act → Prop} {acts : List Act} (hCond : cond roster act)
    (hStep : roster.step codec act = some next) (hRest : next.Along codec cond acts) :
    roster.Along codec cond (act :: acts) := by
  refine ⟨hCond, ?_⟩
  intro other hOther
  cases hStep.symm.trans hOther
  exact hRest

theorem orderly_of_alone {event : Event} (hOpen : roster.hub.connections k = some connection)
    (hStage : connection.stage.registered = false)
    (hAlone : ∀ j, j ≠ k → roster.hub.connections j = none) :
    roster.Orderly (.handler k event) := by
  intro other hOther
  cases hOpen.symm.trans hOther
  refine ⟨fun _ j one hOne hRegistered => ?_, fun data hPinged => ?_⟩
  · by_cases hSame : j = k
    · subst hSame
      cases hOpen.symm.trans hOne
      rw [hStage] at hRegistered
      cases hRegistered
    · rw [hAlone j hSame] at hOne
      cases hOne
  · rw [hPinged] at hStage
    cases hStage

def leave (k : Nat) (now : Int) : List Act :=
  [.handler k (.flushed true), .handler k (.incoming .close), .handler k (.proceed now),
    .handler k (.proceed now)]

/-- A node whose first connection has ended before the second one comes. -/
def reconnects : List Act :=
  arrive 0 0 ++ pingOf 0 5 ++ leave 0 6 ++ arrive 1 7 ++ pingOf 1 9

theorem reconnects_orderly : Roster.new.Along nodeCodec Orderly reconnects := by
  apply along_cons trivial rfl
  apply along_cons (orderly_of_alone rfl rfl fun j hNe => ?_) rfl
  · iterate 4 apply along_cons (orderly_of_stage rfl rfl) rfl
    apply along_cons _ rfl
    · iterate 4 apply along_cons (orderly_of_stage rfl rfl) rfl
      apply along_cons trivial rfl
      apply along_cons (orderly_of_alone rfl rfl fun j hNe => ?_) rfl
      · iterate 4 apply along_cons (orderly_of_stage rfl rfl) rfl
        apply along_cons _ rfl
        · trivial
        · intro connection hOpen
          cases hOpen
          exact ⟨nofun, fun _ _ => nofun⟩
      · match j with
        | 0 => rfl
        | 1 => exact absurd rfl hNe
        | j + 2 => rfl
    · intro connection hOpen
      cases hOpen
      exact ⟨nofun, fun _ _ => nofun⟩
  · match j with
    | 0 => exact absurd rfl hNe
    | j + 1 => rfl

theorem registry_follows_connections_sample :
    ∃ roster, Roster.new.run nodeCodec reconnects = some roster ∧
      roster.latest 7 = some ⟨1, "abc", 9⟩ ∧ roster.Listed ∧
      ∀ act next, roster.step nodeCodec act = some next → roster.RemovesOnly act next := by
  have hSome : (Roster.new.run nodeCodec reconnects).isSome := rfl
  have hRun := (Option.some_get hSome).symm
  exact ⟨_, hRun, rfl, registry_follows_connections _ _ _ hRun reconnects_orderly⟩

/-- The connection that ends takes the entry of the one that has replaced it. -/
theorem reconnect_loses_entry : ¬ ∀ (codec : Codec) (acts : List Act) (roster : Roster),
      Roster.new.run codec acts = some roster → roster.Listed ∧
        ∀ act next, roster.step codec act = some next → roster.RemovesOnly act next := by
  intro h
  have hSome : (Roster.new.run nodeCodec (arrive 0 0 ++ arrive 1 1 ++
      [.handler 0 (.incoming .close), .handler 0 (.proceed 2)] ++ pingOf 1 5)).isSome := rfl
  have hListed := (h _ _ _ (Option.some_get hSome).symm).1
  obtain ⟨info, hInfo, -⟩ := hListed 5 (by intro _ h; cases h) 7 ⟨1, "abc", 5⟩ rfl (by decide)
  cases hInfo

end Roster

end KongRust.Cluster

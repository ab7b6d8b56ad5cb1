import KongRust.Cluster.ControlPlane

/-!
# Connections of a control plane

The handlers of both protocols as the steps they take between two points where another task may
run, and the whole system: one control plane, the calls of `push_config` one after the other, and
any number of connections. A run is a list of steps in any order.

A ping is kept as the text that `from_utf8_lossy` reads from its bytes, which its pong returns.
-/

namespace KongRust.Cluster

open Broadcast

/-- The two routes of the cluster listener. -/
inductive Outlet where
  | v1
  | v2
  deriving DecidableEq

/-- What `ws_receiver.next()` answers. -/
inductive Incoming where
  | text (text : String)
  | binary (data : Bytes)
  | ping (data : String)
  | pong
  | close
  | failed
  | ended

/-- What a handler sends. -/
inductive Frame where
  | binary (data : Bytes)
  | pong (data : String)
  | response (response : JsonRpcResponse)
  | notification (notification : JsonRpcNotification)

/-- Where a handler stands: what it does or waits for next. -/
inductive Stage where
  | registering
  | subscribing
  | basicInfo
  | currentPayload
  | looping
  | pinged (data : String)
  | getDelta (id : UInt64)
  | configVersion (id : UInt64) (config : Json)
  | notifying
  | sending (frame : Frame)
  | unregistering
  | returning

/-- One connection; `sent` lists what its socket took, oldest first. -/
structure Connection where
  outlet : Outlet
  info : DataPlaneInfo
  stage : Stage
  sent : List Frame

/-- What lets a handler go on: the next lock or atomic read, the outcome of a send, a message of
the data plane, or the broadcast channel. -/
inductive Event where
  | proceed (now : Int)
  | flushed (ok : Bool)
  | incoming (message : Incoming)
  | receive

section Handlers

variable (codec : Codec)

/-- The data plane of a connection, from the query of its URL. -/
def dataPlaneInfo (query : List (String × String)) (ip : String) (fresh : Uuid) (now : Int) :
    DataPlaneInfo where
  id := ((query.lookup "node_id").bind codec.parseUuid).getD fresh
  ip := ip
  hostname := (query.lookup "node_hostname").getD ""
  version := (query.lookup "node_version").getD ""
  syncStatus := .unknown
  configHash := EMPTY_CONFIG_HASH
  lastSeen := now
  labels := []

/-- A message in the loop of `handle_dp_connection`. -/
def hearV1 : Incoming → Stage
  | .ping data => .pinged data
  | .close | .ended => .unregistering
  | _ => .looping

/-- A request in the loop of `handle_v2_dp_connection`. -/
def hearRequest (request : JsonRpcRequest) : Stage :=
  if request.method = V2_METHOD_INIT then .sending (.response (buildV2InitResponse request.id))
  else if request.method = V2_METHOD_GET_DELTA then .getDelta request.id
  else .looping

/-- A message in the loop of `handle_v2_dp_connection`. -/
def hearV2 : Incoming → Stage
  | .text text =>
    match codec.requestFromStr text with
    | .ok request => hearRequest request
    | .error e => .sending (.response (errorResponse (-32700) ("Parse error: " ++ e) 0))
  | .ping data => .pinged data
  | .close | .ended => .unregistering
  | _ => .looping

def Outlet.hear : Outlet → Incoming → Stage
  | .v1, message => hearV1 message
  | .v2, message => hearV2 codec message

/-- The answer of the broadcast channel in either loop; an empty channel lets the handler wait. -/
def Outlet.receive : Outlet → Received Bytes → Option Stage
  | _, .empty => none
  | .v1, .message data => some (.sending (.binary data))
  | .v1, .lagged _ => some .unregistering
  | .v2, .message _ => some .notifying
  | .v2, .lagged _ => some .looping

def Outlet.subscribed : Outlet → Stage
  | .v1 => .basicInfo
  | .v2 => .looping

def sendCurrent : Option Bytes → Stage
  | some payload => .sending (.binary payload)
  | none => .looping

/-- `get_delta` once it has read the current payload. -/
def deltaOf (id : UInt64) : Option Bytes → Stage
  | none => .sending (.response (errorResponse (-32002) "Config not ready" id))
  | some payload =>
    match parseV1Payload codec payload with
    | .ok parsed => .configVersion id parsed.configTable
    | .error e => .sending (.response (errorResponse (-32603)
        ("Internal error: failed to parse config: " ++ e.display) id))

def Connection.goto (connection : Connection) (stage : Stage) : Connection :=
  { connection with stage := stage }

/-- One step of the handler of connection `k`; none where the event is not what it waits for, and
no connection once it has returned. -/
def Connection.step (cp : ControlPlane) (k : Nat) (connection : Connection) (event : Event) :
    Option (ControlPlane × Option Connection) :=
  match connection.stage, event with
  | .registering, .proceed _ =>
    some (cp.insertDataPlane connection.info, connection.goto .subscribing)
  | .subscribing, .proceed _ =>
    some (cp.subscribeConfig k, connection.goto connection.outlet.subscribed)
  | .basicInfo, .incoming _ => some (cp, connection.goto .currentPayload)
  | .currentPayload, .proceed _ => some (cp, connection.goto (sendCurrent cp.currentPayload))
  | .looping, .incoming message =>
    some (cp, connection.goto (connection.outlet.hear codec message))
  | .looping, .receive =>
    (cp.configTx.recv k).bind fun received =>
      (connection.outlet.receive received.1).map fun stage =>
        ({ cp with configTx := received.2 }, some (connection.goto stage))
  | .pinged data, .proceed now =>
    some (cp.updateDpStatus connection.info.id data now, connection.goto (.sending (.pong data)))
  | .getDelta id, .proceed _ => some (cp, connection.goto (deltaOf codec id cp.currentPayload))
  | .configVersion id config, .proceed _ =>
    some (cp, connection.goto
      (.sending (.response (buildV2DeltaResponse id config cp.configVersion))))
  | .notifying, .proceed _ =>
    some (cp, connection.goto
      (.sending (.notification (buildV2NotifyNewVersion cp.configVersion))))
  | .sending frame, .flushed true =>
    some (cp, some { connection with stage := .looping, sent := connection.sent ++ [frame] })
  | .sending _, .flushed false => some (cp, connection.goto .unregistering)
  | .unregistering, .proceed _ =>
    some (cp.unregisterDp connection.info.id, connection.goto .returning)
  | .returning, .proceed _ => some ({ cp with configTx := cp.configTx.unsubscribe k }, none)
  | _, _ => none

end Handlers

/-! ## The system -/

/-- `pushed` lists the payloads stored so far; no step reads it. -/
structure Hub where
  cp : ControlPlane
  push : Push
  pushed : List Bytes
  connections : Nat → Option Connection

def Hub.new : Hub := ⟨.new, .idle, [], fun _ => none⟩

inductive Act where
  | push (configTable : Json) (now : Int)
  | pushStep
  | connect (k : Nat) (outlet : Outlet) (query : List (String × String)) (ip : String)
      (fresh : Uuid) (now : Int)
  | handler (k : Nat) (event : Event)
  | purge (now : Int)

def Push.storing : Push → List Bytes
  | .currentPayload payload => [payload]
  | _ => []

section Steps

variable (codec : Codec)

/-- A call of `push_config` begins when none is in progress. -/
def Hub.begin (hub : Hub) (configTable : Json) (now : Int) : Option Hub :=
  match hub.push with
  | .idle =>
    match pushConfig codec configTable now with
    | .ok push => some { hub with push := push }
    | .error _ => some hub
  | _ => none

def Hub.advance (hub : Hub) : Hub where
  cp := (hub.push.step hub.cp).1
  push := (hub.push.step hub.cp).2
  pushed := hub.pushed ++ hub.push.storing
  connections := hub.connections

/-- A connection is accepted under a number that no open one has. -/
def Hub.connect (hub : Hub) (k : Nat) (outlet : Outlet) (info : DataPlaneInfo) :
    Option Hub :=
  match hub.connections k with
  | some _ => none
  | none =>
    some { hub with
      connections := Function.update hub.connections k (some ⟨outlet, info, .registering, []⟩) }

def Hub.handle (hub : Hub) (k : Nat) (event : Event) : Option Hub :=
  (hub.connections k).bind fun connection =>
    (connection.step codec hub.cp k event).map fun result =>
      { hub with
        cp := result.1
        connections := Function.update hub.connections k result.2 }

def Hub.step (hub : Hub) : Act → Option Hub
  | .push configTable now => hub.begin codec configTable now
  | .pushStep => some hub.advance
  | .connect k outlet query ip fresh now =>
    hub.connect k outlet (dataPlaneInfo codec query ip fresh now)
  | .handler k event => hub.handle codec k event
  | .purge now => some { hub with cp := hub.cp.purgeStaleDps 60 now }

def Hub.run (hub : Hub) : List Act → Option Hub
  | [] => some hub
  | act :: acts => (hub.step codec act).bind fun next => next.run acts

end Steps

/-! ## What a handler's step can do -/

/-- The steps of a handler, with what each writes. -/
inductive Connection.Turn (codec : Codec) (cp : ControlPlane) (k : Nat) (connection : Connection) :
    ControlPlane → Option Connection → Prop where
  | registers (hStage : connection.stage = .registering) :
      Turn codec cp k connection (cp.insertDataPlane connection.info)
        (connection.goto .subscribing)
  | subscribes (hStage : connection.stage = .subscribing) :
      Turn codec cp k connection (cp.subscribeConfig k)
        (connection.goto connection.outlet.subscribed)
  | greets (hStage : connection.stage = .basicInfo) :
      Turn codec cp k connection cp (connection.goto .currentPayload)
  | reads (hStage : connection.stage = .currentPayload) :
      Turn codec cp k connection cp (connection.goto (sendCurrent cp.currentPayload))
  | hears (hStage : connection.stage = .looping) (message : Incoming) :
      Turn codec cp k connection cp (connection.goto (connection.outlet.hear codec message))
  | receives (hStage : connection.stage = .looping) {answer : Received Bytes}
      {configTx : Channel Nat Bytes} {stage : Stage}
      (hRecv : cp.configTx.recv k = some (answer, configTx))
      (hAnswer : connection.outlet.receive answer = some stage) :
      Turn codec cp k connection { cp with configTx := configTx } (connection.goto stage)
  | pongs {data : String} (hStage : connection.stage = .pinged data) (now : Int) :
      Turn codec cp k connection (cp.updateDpStatus connection.info.id data now)
        (connection.goto (.sending (.pong data)))
  | looksUp {id : UInt64} (hStage : connection.stage = .getDelta id) :
      Turn codec cp k connection cp (connection.goto (deltaOf codec id cp.currentPayload))
  | answers {id : UInt64} {config : Json} (hStage : connection.stage = .configVersion id config) :
      Turn codec cp k connection cp (connection.goto
        (.sending (.response (buildV2DeltaResponse id config cp.configVersion))))
  | notifies (hStage : connection.stage = .notifying) :
      Turn codec cp k connection cp (connection.goto
        (.sending (.notification (buildV2NotifyNewVersion cp.configVersion))))
  | sends {frame : Frame} (hStage : connection.stage = .sending frame) :
      Turn codec cp k connection cp
        (some { connection with stage := .looping, sent := connection.sent ++ [frame] })
  | breaks {frame : Frame} (hStage : connection.stage = .sending frame) :
      Turn codec cp k connection cp (connection.goto .unregistering)
  | unregisters (hStage : connection.stage = .unregistering) :
      Turn codec cp k connection (cp.unregisterDp connection.info.id)
        (connection.goto .returning)
  | returns (hStage : connection.stage = .returning) :
      Turn codec cp k connection { cp with configTx := cp.configTx.unsubscribe k } none

variable {codec : Codec} {cp cp' : ControlPlane} {k : Nat} {connection : Connection}

variable {connection' : Option Connection} {acts : List Act} {hub : Hub}

theorem Connection.step_turn {event : Event}
    (h : connection.step codec cp k event = some (cp', connection')) :
    connection.Turn codec cp k cp' connection' := by
  unfold Connection.step at h
  split at h
  case h_6 hStage =>
    obtain ⟨⟨answer, configTx⟩, hRecv, hMap⟩ := Option.bind_eq_some_iff.mp h
    obtain ⟨stage, hAnswer, hEq⟩ := Option.map_eq_some_iff.mp hMap
    cases hEq
    exact .receives hStage hRecv hAnswer
  case h_15 => cases h
  all_goals
    next hStage =>
      cases h
      first
        | exact .registers hStage
        | exact .subscribes hStage
        | exact .greets hStage
        | exact .reads hStage
        | exact .hears hStage _
        | exact .pongs hStage _
        | exact .looksUp hStage
        | exact .answers hStage
        | exact .notifies hStage
        | exact .sends hStage
        | exact .breaks hStage
        | exact .unregisters hStage
        | exact .returns hStage

theorem Connection.Turn.current (h : connection.Turn codec cp k cp' connection') :
    cp'.currentPayload = cp.currentPayload ∧ cp'.configVersion = cp.configVersion := by
  cases h
  case pongs =>
    unfold ControlPlane.updateDpStatus
    split <;> exact ⟨rfl, rfl⟩
  all_goals exact ⟨rfl, rfl⟩

theorem Connection.Turn.outlet {connection' : Connection}
    (h : connection.Turn codec cp k cp' (some connection')) :
    connection'.outlet = connection.outlet := by
  cases h <;> rfl

/-! ## What a step of the system can do -/

/-- The steps of the system, with what each changes. -/
inductive Hub.Move (codec : Codec) (hub : Hub) : Act → Hub → Prop where
  | begins {push : Push} {configTable : Json} {now : Int} (hIdle : hub.push = .idle)
      (hPush : pushConfig codec configTable now = .ok push) :
      Move codec hub (.push configTable now) { hub with push := push }
  | fails (configTable : Json) (now : Int) : Move codec hub (.push configTable now) hub
  | pushes : Move codec hub .pushStep hub.advance
  | connects {k : Nat} {outlet : Outlet} {query : List (String × String)} {ip : String}
      {fresh : Uuid} {now : Int} (hFree : hub.connections k = none) :
      Move codec hub (.connect k outlet query ip fresh now) { hub with
        connections := Function.update hub.connections k
          (some ⟨outlet, dataPlaneInfo codec query ip fresh now, .registering, []⟩) }
  | handles {k : Nat} {event : Event} {connection : Connection} {cp : ControlPlane}
      {connection' : Option Connection} (hOpen : hub.connections k = some connection)
      (hTurn : connection.Turn codec hub.cp k cp connection') :
      Move codec hub (.handler k event) { hub with
        cp := cp
        connections := Function.update hub.connections k connection' }
  | purges (now : Int) :
      Move codec hub (.purge now) { hub with cp := hub.cp.purgeStaleDps 60 now }

variable {hub' : Hub} {act : Act}

theorem Hub.step_move {codec : Codec} {hub : Hub} (h : hub.step codec act = some hub') :
    hub.Move codec act hub' := by
  cases act with
  | push configTable now =>
    change hub.begin codec configTable now = some hub' at h
    unfold Hub.begin at h
    split at h
    case h_2 => cases h
    case h_1 hIdle =>
      split at h
      case h_1 push hPush =>
        cases h
        exact .begins hIdle hPush
      case h_2 =>
        cases h
        exact .fails configTable now
  | pushStep =>
    cases h
    exact .pushes
  | connect k outlet query ip fresh now =>
    change hub.connect k outlet _ = some hub' at h
    unfold Hub.connect at h
    split at h
    case h_1 => cases h
    case h_2 hFree =>
      cases h
      exact .connects hFree
  | handler k event =>
    obtain ⟨connection, hOpen, hStep⟩ := Option.bind_eq_some_iff.mp h
    obtain ⟨⟨cp, connection'⟩, hTurn, hEq⟩ := Option.map_eq_some_iff.mp hStep
    cases hEq
    exact .handles hOpen (Connection.step_turn hTurn)
  | purge now =>
    cases h
    exact .purges now

theorem open_cases {connections : Nat → Option Connection} {j : Nat} {changed : Option Connection}
    (h : Function.update connections k changed j = some connection) :
    (j = k ∧ changed = some connection) ∨ (j ≠ k ∧ connections j = some connection) := by
  by_cases hj : j = k
  · subst hj
    rw [Function.update_self] at h
    exact .inl ⟨rfl, h⟩
  · rw [Function.update_of_ne hj] at h
    exact .inr ⟨hj, h⟩

theorem pushConfig_begins {configTable : Json} {now : Int} {push : Push}
    (h : pushConfig codec configTable now = .ok push) :
    ∃ payload hashes, push = .currentHash payload hashes := by
  unfold pushConfig at h
  simp only [bind, Except.bind] at h
  split at h
  · cases h
  · cases h
    exact ⟨_, _, rfl⟩

/-- Every step of the run meets a condition on the state before it. -/
def Hub.Along (codec : Codec) (cond : Hub → Act → Prop) : Hub → List Act → Prop
  | _, [] => True
  | hub, act :: acts => cond hub act ∧ ∀ next ∈ hub.step codec act, next.Along codec cond acts

variable {cond : Hub → Act → Prop} {Inv : Hub → Prop}

theorem Hub.run_invariant_along {codec : Codec}
    (hStep : ∀ hub act hub', hub.Move codec act hub' → cond hub act → Inv hub → Inv hub') :
    ∀ {acts : List Act} {hub hub' : Hub}, hub.run codec acts = some hub' →
      hub.Along codec cond acts → Inv hub → Inv hub' := by
  intro acts
  induction acts with
  | nil =>
    intro hub hub' h hAlong hInv
    cases h
    exact hInv
  | cons act acts ih =>
    intro hub hub' h hAlong hInv
    obtain ⟨next, hNext, hRest⟩ := Option.bind_eq_some_iff.mp h
    exact ih hRest (hAlong.2 next hNext) (hStep _ _ _ (Hub.step_move hNext) hAlong.1 hInv)

theorem Hub.along_of_forall {codec : Codec} {cond : Hub → Act → Prop} :
    ∀ {acts : List Act}, (∀ act ∈ acts, ∀ hub, cond hub act) →
      ∀ hub : Hub, hub.Along codec cond acts
  | [], _, _ => trivial
  | act :: _, h, hub =>
    ⟨h act List.mem_cons_self hub, fun next _ =>
      Hub.along_of_forall (fun other hOther => h other (List.mem_cons_of_mem act hOther)) next⟩

theorem Hub.along_append {codec : Codec} {later : List Act} :
    ∀ {acts : List Act} {hub : Hub}, hub.run codec acts = some hub' →
      hub.Along codec cond acts → hub'.Along codec cond later →
      hub.Along codec cond (acts ++ later)
  | [], hub, hRun, _, hLater => by
    cases hRun
    exact hLater
  | act :: acts, hub, hRun, hAlong, hLater => by
    refine ⟨hAlong.1, fun next hNext => ?_⟩
    obtain ⟨middle, hMiddle, hRest⟩ := Option.bind_eq_some_iff.mp hRun
    cases hNext.symm.trans hMiddle
    exact Hub.along_append hRest (hAlong.2 next hNext) hLater

theorem Hub.run_invariant (hStep : ∀ hub act hub', hub.Move codec act hub' → Inv hub → Inv hub')
    (h : hub.run codec acts = some hub') (hInv : Inv hub) : Inv hub' :=
  Hub.run_invariant_along (fun hub act hub' hMove (_ : True) => hStep hub act hub' hMove) h
    (Hub.along_of_forall (fun _ _ _ => trivial) hub) hInv

def Hub.Recorded (hub : Hub) : Prop := hub.cp.currentPayload = hub.pushed.getLast?

theorem Hub.Recorded.step {codec : Codec} {hub : Hub} (hMove : hub.Move codec act hub')
    (h : hub.Recorded) : hub'.Recorded := by
  unfold Hub.Recorded at *
  cases hMove with
  | begins | fails | connects | purges => exact h
  | handles hOpen hTurn => exact hTurn.current.1.trans h
  | pushes =>
    unfold Hub.advance
    cases hPush : hub.push <;> simp [Push.step, Push.storing, h]

theorem Hub.run_recorded (h : Hub.new.run codec acts = some hub) : hub.Recorded :=
  Hub.run_invariant (fun _ _ _ hMove hRecorded => hRecorded.step hMove) h rfl

end KongRust.Cluster

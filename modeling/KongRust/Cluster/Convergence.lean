import KongRust.Cluster.Connections

/-!
# Data planes of the first protocol converge

A handler subscribes before it reads the current payload, and a push stores its payload before it
broadcasts it. So the newest payload is always the last of those that were sent on a connection,
wait in its queue, or are stored and about to be broadcast: `Connection.Follows`.
-/

namespace KongRust.Cluster

open Broadcast

def Frame.payload : Frame → Option Bytes
  | .binary data => some data
  | _ => none

def Stage.inHand : Stage → List Frame
  | .sending frame => [frame]
  | _ => []

def Connection.payloads (connection : Connection) : List Bytes :=
  connection.sent.filterMap Frame.payload

/-- The configurations that a connection was sent or is being sent. -/
def Connection.handed (connection : Connection) : List Bytes :=
  (connection.sent ++ connection.stage.inHand).filterMap Frame.payload

/-- The handler is in its loop, or sends the configuration it enters the loop with. -/
def Stage.InLoop : Stage → Prop
  | .registering | .subscribing | .basicInfo | .currentPayload | .unregistering | .returning =>
    False
  | _ => True

/-- The last payload on its way to a subscribed connection: queued, or stored by a push that has
not broadcast it yet. -/
def Hub.arriving (hub : Hub) (k : Nat) : Option (Option Bytes) :=
  (hub.cp.configTx.receivers.lookup k).map fun receiver =>
    (receiver.pending ++ hub.push.stored).getLast?

/-- What the payloads on their way to a connection owe it. -/
def Connection.Follows (connection : Connection) (arriving : Option (Option Bytes))
    (current : Option Bytes) : Prop :=
  match connection.stage with
  | .registering | .subscribing => connection.sent = []
  | .basicInfo | .currentPayload =>
    connection.sent = [] ∧
      ∃ last, arriving = some last ∧ ∀ payload ∈ last, current = some payload
  | .unregistering | .returning => True
  | _ => ∃ last, arriving = some last ∧ last.or connection.handed.getLast? = current

section Follows

variable {connection : Connection} {arriving : Option (Option Bytes)} {current : Option Bytes}

theorem Connection.follows_of_inLoop (hLoop : connection.stage.InLoop)
    (h : connection.Follows arriving current) :
    ∃ last, arriving = some last ∧ last.or connection.handed.getLast? = current := by
  unfold Follows at h
  split at h <;> first | exact h | simp_all [Stage.InLoop]

theorem Connection.Follows.of_inLoop (hLoop : connection.stage.InLoop)
    (h : ∃ last, arriving = some last ∧ last.or connection.handed.getLast? = current) :
    connection.Follows arriving current := by
  unfold Follows
  split <;> first | exact h | simp_all [Stage.InLoop]

theorem Connection.Follows.stored (payload : Bytes) (h : connection.Follows arriving current) :
    connection.Follows (arriving.map fun _ => some payload) (some payload) := by
  unfold Follows at h ⊢
  split <;> simp_all
  · obtain ⟨-, last, rfl, -⟩ := h
    simp
  · obtain ⟨-, last, rfl, -⟩ := h
    simp
  · obtain ⟨last, rfl, -⟩ := h
    simp

theorem Connection.Follows.stays {stage : Stage} (hLoop : connection.stage.InLoop)
    (hHand : connection.stage.inHand.filterMap Frame.payload = [])
    (hNext : stage.inHand.filterMap Frame.payload = [])
    (hKind : stage.InLoop ∨ stage = .unregistering)
    (h : connection.Follows arriving current) :
    (connection.goto stage).Follows arriving current := by
  rcases hKind with hKind | rfl
  · apply Follows.of_inLoop hKind
    obtain ⟨last, hLast, hCurrent⟩ := follows_of_inLoop hLoop h
    refine ⟨last, hLast, ?_⟩
    rw [← hCurrent]
    simp [handed, goto, hHand, hNext]
  · trivial

end Follows

/-! ## Steps of a handler -/

theorem hearV1_inHand (message : Incoming) : (hearV1 message).inHand = [] := by
  cases message <;> rfl

theorem hearV1_kind (message : Incoming) :
    (hearV1 message).InLoop ∨ hearV1 message = .unregistering := by
  cases message <;> simp [hearV1, Stage.InLoop]

theorem deltaOf_kind (codec : Codec) (id : UInt64) (current : Option Bytes) :
    (deltaOf codec id current).InLoop ∧
      (deltaOf codec id current).inHand.filterMap Frame.payload = [] := by
  unfold deltaOf
  split
  · exact ⟨trivial, rfl⟩
  · split
    · exact ⟨trivial, rfl⟩
    · exact ⟨trivial, rfl⟩

theorem getLast?_received (payload : Bytes) (rest stored : List Bytes) :
    ((rest ++ stored).getLast?).or (some payload) = (payload :: rest ++ stored).getLast? := by
  rw [List.cons_append, List.getLast?_cons]
  cases (rest ++ stored).getLast? <;> rfl

section Turns

variable {codec : Codec} {cp cp' : ControlPlane} {k : Nat} {connection : Connection}
  {connection' : Option Connection}

theorem Connection.Turn.others (h : connection.Turn codec cp k cp' connection') {j : Nat}
    (hNe : j ≠ k) :
    cp'.configTx.receivers.lookup j = cp.configTx.receivers.lookup j := by
  cases h
  case subscribes => exact lookup_subscribe_ne _ hNe
  case receives hRecv _ =>
    obtain ⟨_, _, _, _, _, _, hOthers⟩ := recv_cases hRecv
    exact hOthers j hNe
  case returns => exact lookup_unsubscribe_ne _ hNe
  case pongs =>
    unfold ControlPlane.updateDpStatus
    split <;> rfl
  all_goals rfl

theorem ControlPlane.updateDpStatus_configTx (id : Uuid) (configHash : String) (now : Int) :
    (cp.updateDpStatus id configHash now).configTx = cp.configTx := by
  unfold ControlPlane.updateDpStatus
  split <;> rfl

end Turns

section Steps

variable {codec : Codec} {hub hub' : Hub} {k : Nat} {connection : Connection}

/-- The payload of a push that is stored and not broadcast yet is the current one. -/
def Hub.Stores (hub : Hub) : Prop :=
  ∀ payload ∈ hub.push.stored.getLast?, hub.cp.currentPayload = some payload

/-- A handler of the first protocol follows the pushes through each of its steps. -/
theorem Connection.Turn.follows {cp : ControlPlane} {connection' : Connection}
    (h : connection.Turn codec hub.cp k cp (some connection')) (hOutlet : connection.outlet = .v1)
    (hStores : hub.Stores) (hFollows : connection.Follows (hub.arriving k) hub.cp.currentPayload) :
    connection'.Follows ({ hub with cp := cp }.arriving k) hub.cp.currentPayload := by
  cases h with
  | registers hStage =>
    simpa [Follows, hStage, goto] using hFollows
  | subscribes hStage =>
    have hSent : connection.sent = [] := by simpa [Follows, hStage] using hFollows
    have hArriving : { hub with cp := hub.cp.subscribeConfig k }.arriving k =
        some hub.push.stored.getLast? := by
      simp [Hub.arriving, ControlPlane.subscribeConfig]
    rw [hArriving, hOutlet]
    exact ⟨hSent, _, rfl, hStores⟩
  | greets hStage =>
    simpa [Follows, hStage, goto] using hFollows
  | reads hStage =>
    obtain ⟨hSent, last, hLast, hCurrent⟩ :
        connection.sent = [] ∧ ∃ last, hub.arriving k = some last ∧
          ∀ payload ∈ last, hub.cp.currentPayload = some payload := by
      simpa [Follows, hStage] using hFollows
    cases hPayload : hub.cp.currentPayload with
    | none =>
      have hNone : last = none := by
        cases last with
        | none => rfl
        | some payload => simp [hCurrent payload rfl] at hPayload
      subst hNone
      exact ⟨none, hLast, by simp [goto, sendCurrent, handed, hSent, Stage.inHand]⟩
    | some payload =>
      refine ⟨last, hLast, ?_⟩
      have hHanded : (connection.goto (.sending (.binary payload))).handed = [payload] := by
        simp [goto, handed, hSent, Stage.inHand, Frame.payload]
      change last.or (connection.goto (.sending (.binary payload))).handed.getLast? = _
      rw [hHanded]
      cases last with
      | none => rfl
      | some newer => exact (hCurrent newer rfl).symm.trans hPayload
  | hears hStage message =>
    rw [hOutlet]
    refine hFollows.stays (by rw [hStage]; trivial) (by rw [hStage]; rfl) ?_ (hearV1_kind message)
    exact congrArg _ (hearV1_inHand message)
  | @receives hStage answer configTx stage hRecv hAnswer =>
    rw [hOutlet] at hAnswer
    obtain ⟨receiver, rest, hLookup, hReceived, hRest, -, -⟩ := recv_cases hRecv
    cases answer with
    | empty => cases hAnswer
    | lagged missed =>
      cases hAnswer
      trivial
    | message data =>
      cases hAnswer
      obtain ⟨last, hLast, hCurrent⟩ := follows_of_inLoop (by rw [hStage]; trivial) hFollows
      have hPending := (Receiver.recv_message hReceived).1
      have hOld : last = (data :: rest.pending ++ hub.push.stored).getLast? := by
        rw [Hub.arriving, hLookup, Option.map_some, hPending] at hLast
        exact (Option.some.inj hLast).symm
      have hHanded : (connection.goto (.sending (.binary data))).handed =
          connection.handed ++ [data] := by
        simp [goto, handed, hStage, Stage.inHand, Frame.payload]
      refine ⟨(rest.pending ++ hub.push.stored).getLast?, by rw [Hub.arriving, hRest]; rfl, ?_⟩
      rw [hHanded, List.getLast?_concat, getLast?_received, ← hCurrent, hOld, List.cons_append,
        List.getLast?_cons, Option.some_or]
  | @pongs data hStage now =>
    have hArriving :
        { hub with cp := hub.cp.updateDpStatus connection.info.id data now }.arriving k =
          hub.arriving k := by
      simp only [Hub.arriving, ControlPlane.updateDpStatus_configTx]
    rw [hArriving]
    exact hFollows.stays (by rw [hStage]; trivial) (by rw [hStage]; rfl) rfl (.inl trivial)
  | looksUp hStage =>
    obtain ⟨hKind, hHand⟩ := deltaOf_kind codec _ hub.cp.currentPayload
    exact hFollows.stays (by rw [hStage]; trivial) (by rw [hStage]; rfl) hHand (.inl hKind)
  | answers hStage | notifies hStage =>
    exact hFollows.stays (by rw [hStage]; trivial) (by rw [hStage]; rfl) rfl (.inl trivial)
  | @sends frame hStage =>
    obtain ⟨last, hLast, hCurrent⟩ := follows_of_inLoop (by rw [hStage]; trivial) hFollows
    refine ⟨last, hLast, ?_⟩
    rw [← hCurrent]
    simp [handed, hStage, Stage.inHand]
  | breaks hStage | unregisters hStage => trivial

theorem Push.step_arriving (hub : Hub) (k : Nat) : (hub.advance.arriving k = hub.arriving k ∧
        hub.advance.cp.currentPayload = hub.cp.currentPayload) ∨
      ∃ payload, hub.advance.arriving k = (hub.arriving k).map (fun _ => some payload) ∧
        hub.advance.cp.currentPayload = some payload := by
  unfold Hub.advance Hub.arriving
  cases hPush : hub.push with
  | currentPayload payload =>
    right
    refine ⟨payload, ?_, rfl⟩
    simp [Push.step, Push.stored, Function.comp_def]
  | broadcast payload =>
    left
    refine ⟨?_, rfl⟩
    simp only [Push.step, Push.stored, lookup_send, Option.map_map, Function.comp_def,
      List.append_nil, Receiver.getLast?_deliver, List.getLast?_concat]
  | _ => exact .inl ⟨rfl, rfl⟩

theorem Hub.Stores.advance (h : hub.Stores) : hub.advance.Stores := by
  unfold Hub.Stores Hub.advance at *
  cases hPush : hub.push <;> simp_all [Push.step, Push.stored]

/-- Every open connection of the first protocol follows the pushes. -/
structure Hub.Following (hub : Hub) : Prop where
  stores : hub.Stores
  follows : ∀ k connection, hub.connections k = some connection → connection.outlet = .v1 →
    connection.Follows (hub.arriving k) hub.cp.currentPayload

theorem Hub.Following.step {act : Act} (hMove : hub.Move codec act hub') (h : hub.Following) :
    hub'.Following := by
  cases hMove with
  | fails => exact h
  | @begins push _ _ hIdle hPush =>
    have hStored : push.stored = hub.push.stored := by
      obtain ⟨_, _, rfl⟩ := pushConfig_begins hPush
      rw [hIdle]
      rfl
    refine ⟨?_, fun k connection hOpen hOutlet => ?_⟩
    · intro payload hPayload
      rw [hStored] at hPayload
      exact h.stores payload hPayload
    · have hArriving : { hub with push := push }.arriving k = hub.arriving k := by
        simp only [Hub.arriving, hStored]
      rw [hArriving]
      exact h.follows k connection hOpen hOutlet
  | pushes =>
    refine ⟨h.stores.advance, fun k connection hOpen hOutlet => ?_⟩
    have hFollows := h.follows k connection hOpen hOutlet
    rcases Push.step_arriving hub k with
      ⟨hArriving, hCurrent⟩ | ⟨payload, hArriving, hCurrent⟩
    · rw [hArriving, hCurrent]
      exact hFollows
    · rw [hArriving, hCurrent]
      exact hFollows.stored payload
  | connects hFree =>
    refine ⟨h.stores, fun j connection hOpen hOutlet => ?_⟩
    rcases open_cases hOpen with ⟨rfl, hNew⟩ | ⟨-, hOld⟩
    · cases hNew
      rfl
    · exact h.follows j connection hOld hOutlet
  | @handles k _ connection cp connection' hOpen hTurn =>
    obtain ⟨hCurrent, -⟩ := hTurn.current
    refine ⟨?_, fun j other hOther hOutlet => ?_⟩
    · intro payload hPayload
      exact hCurrent.trans (h.stores payload hPayload)
    · change other.Follows ({ hub with cp := cp }.arriving j) cp.currentPayload
      rw [hCurrent]
      rcases open_cases hOther with ⟨rfl, hNew⟩ | ⟨hj, hOld⟩
      · subst hNew
        have hBefore : connection.outlet = .v1 := hTurn.outlet.symm.trans hOutlet
        exact hTurn.follows hBefore h.stores (h.follows j connection hOpen hBefore)
      · have hArriving : { hub with cp := cp }.arriving j = hub.arriving j := by
          simp only [Hub.arriving, hTurn.others hj]
        rw [hArriving]
        exact h.follows j other hOld hOutlet
  | purges now => exact ⟨h.stores, h.follows⟩

theorem Hub.following_new : Hub.new.Following where
  stores := by
    intro payload hPayload
    cases hPayload
  follows := by
    intro k connection hOpen
    cases hOpen

end Steps

theorem Connection.handed_eq_payloads {connection : Connection}
    (h : ∀ payload, connection.stage ≠ .sending (.binary payload)) :
    connection.handed = connection.payloads := by
  unfold handed payloads
  cases hStage : connection.stage with
  | sending frame =>
    cases frame with
    | binary payload => exact absurd hStage (h payload)
    | _ => simp [Stage.inHand, Frame.payload]
  | _ => simp [Stage.inHand]

/-- **Convergence of the first protocol.** Whatever the order of the pushes and of the steps of all
connections was: when a handler is in its loop, its queue is empty and no push is in progress, the
last payload sent on its connection, counting one that is being sent, is the current one; there
is none exactly when nothing was pushed. -/
theorem v1_converges (codec : Codec) (acts : List Act) (hub : Hub) (k : Nat)
    (connection : Connection) (hRun : Hub.new.run codec acts = some hub)
    (hOpen : hub.connections k = some connection) (hOutlet : connection.outlet = .v1)
    (hLoop : connection.stage.InLoop) (hQueue : hub.cp.queue k = [])
    (hPush : hub.push = .idle) :
    connection.handed.getLast? = hub.cp.currentPayload ∧
      ((∀ payload, connection.stage ≠ .sending (.binary payload)) →
        connection.payloads.getLast? = hub.cp.currentPayload) ∧
      (hub.cp.currentPayload = none ↔ hub.pushed = []) := by
  have hFollowing : hub.Following :=
    Hub.run_invariant (fun _ _ _ hMove h => h.step hMove) hRun Hub.following_new
  obtain ⟨last, hLast, hCurrent⟩ :=
    Connection.follows_of_inLoop hLoop (hFollowing.follows k connection hOpen hOutlet)
  have hNone : last = none := by
    obtain ⟨receiver, hLookup, hEq⟩ := Option.map_eq_some_iff.mp hLast
    have hPending : receiver.pending = [] := by
      simpa [ControlPlane.queue, hLookup] using hQueue
    rw [← hEq, hPending, hPush]
    rfl
  rw [hNone, Option.none_or] at hCurrent
  refine ⟨hCurrent, fun hHand => ?_, ?_⟩
  · rw [← Connection.handed_eq_payloads hHand]
    exact hCurrent
  · rw [Hub.run_recorded hRun, List.getLast?_eq_none_iff]

/-- A codec for the samples: a configuration is a number, which is the body of its payload. -/
def sampleCodec : Codec where
  md5Hex _ := "99914b932bd37a50b983c5e7c90ae93b"
  floatText _ := "0.5"
  payloadToVec payload :=
    match payload.configTable with
    | .number (.posInt n) => .ok [n.toUInt8]
    | _ => .error "not a number"
  payloadFromSlice
    | [n] => .ok ⟨"reconfigure", 0, .number (.posInt n.toUInt64), EMPTY_CONFIG_HASH, none⟩
    | _ => .error "EOF while parsing a value at line 1 column 0"
  gzipWrite data := .ok (31 :: 139 :: data)
  gzipFinish data := .ok data
  gzipReadToEnd
    | 31 :: 139 :: data => .ok data
    | _ => .error "invalid gzip header"
  requestFromStr
    | "get_delta" => .ok ⟨"2.0", V2_METHOD_GET_DELTA, none, 1⟩
    | _ => .error "expected value at line 1 column 1"
  valueToPretty _ := .error "not supported"
  valueFromStr _ := .error "expected value at line 1 column 1"
  parseUuid _ := none

/-- A data plane connects while a push is under way: it reads the payload and receives it again. -/
def sampleRun : List Act :=
  [.connect 0 .v1 [] "10.0.0.2" 7 0, .handler 0 (.proceed 0), .handler 0 (.proceed 0),
    .push (.number (.posInt 5)) 1, .pushStep, .pushStep, .pushStep, .pushStep,
    .handler 0 (.incoming (.binary [])), .handler 0 (.proceed 1), .handler 0 (.flushed true),
    .pushStep, .pushStep, .handler 0 .receive, .handler 0 (.flushed true)]

theorem v1_converges_sample : ∃ hub connection, Hub.new.run sampleCodec sampleRun = some hub ∧
    hub.connections 0 = some connection ∧ connection.payloads = [[31, 139, 5], [31, 139, 5]] ∧
    connection.payloads.getLast? = hub.cp.currentPayload := by
  have hSome : (Hub.new.run sampleCodec sampleRun).isSome := rfl
  let hub := (Hub.new.run sampleCodec sampleRun).get hSome
  have hOpen : (hub.connections 0).isSome := rfl
  let connection := (hub.connections 0).get hOpen
  have hStage : connection.stage = .looping := rfl
  have hConverges := v1_converges sampleCodec sampleRun hub 0 connection
    (Option.some_get hSome).symm (Option.some_get hOpen).symm rfl trivial rfl rfl
  refine ⟨hub, connection, (Option.some_get hSome).symm, (Option.some_get hOpen).symm, rfl,
    hConverges.2.1 ?_⟩
  intro payload hSending
  rw [hStage] at hSending
  cases hSending

end KongRust.Cluster

import KongRust.Cluster.Convergence

/-!
# Versions of the second protocol

`get_delta` reads the current payload and then, in a later step, the version. A push that counts
its version between the two reads lends it to an older configuration. As long as no push counts
while a handler holds another configuration than its own, every answer pairs a configuration with
a version that is not newer than it, and a data plane that asks whenever it is told of a newer
version ends with the last configuration.
-/

namespace KongRust.Cluster

section Statement

variable (codec : Codec)

def Configures (payload : Bytes) (config : Json) : Prop :=
  ∃ parsed, parseV1Payload codec payload = .ok parsed ∧ parsed.configTable = config

/-- A push of the configuration that is not older than the version: the first push stores at
index zero and counts version one. -/
def Paired (pushed : List Bytes) (config : Json) (version : UInt64) : Prop :=
  ∃ index payload, pushed[index]? = some payload ∧ Configures codec payload config ∧
    version.toNat ≤ index + 1

/-- A push that counts finds no handler between its two reads with another configuration. -/
def Hub.Careful (hub : Hub) (act : Act) : Prop :=
  act = .pushStep → ∀ payload, hub.push = .configVersion payload →
    ∀ k connection id config, hub.connections k = some connection →
      connection.stage = .configVersion id config → Configures codec payload config

/-! ## What a data plane reads -/

/-- A version with its configuration, in the result of a response. -/
def deltaResult (result : Json) : Option (UInt64 × Json) :=
  ((result.get "version").bind Json.asU64).bind fun version =>
    (result.get "config").map fun config => (version, config)

def Frame.delta : Frame → Option (UInt64 × Json)
  | .response answer => answer.result.bind deltaResult
  | _ => none

def Frame.notified : Frame → Option UInt64
  | .notification told =>
    (told.params.bind fun params => params.get "version").bind Json.asU64
  | _ => none

/-- A `get_delta` is answered without a configuration. -/
def Frame.refuses : Frame → Bool
  | .response answer => answer.error.any fun e => e.code == -32002 || e.code == -32603
  | _ => false

/-- What a data plane of the second protocol holds. -/
structure Holding where
  version : UInt64
  config : Option Json

variable (held : Holding)

def Holding.take (held : Holding) (frame : Frame) : Holding :=
  match frame.delta with
  | some (version, config) => ⟨version, some config⟩
  | none => held

def Holding.after (held : Holding) (frames : List Frame) : Holding := frames.foldl Holding.take held

/-- A data plane fetches whenever it is notified of a version greater than its own: a later frame
answers it. -/
def Holding.Fetches (held : Holding) (frames : List Frame) : Prop :=
  ∀ before frame after version, frames = before ++ frame :: after →
    frame.notified = some version → (held.after before).version < version →
    ∃ answer ∈ after, answer.delta.isSome ∨ answer.refuses

/-- A data plane comes with nothing, or with what an earlier connection answered. -/
def Holding.Sound (pushed : List Bytes) (held : Holding) : Prop :=
  held = ⟨0, none⟩ ∨
    ∃ config, held.config = some config ∧ Paired codec pushed config held.version

end Statement

section Frames

variable {codec : Codec} {pushed : List Bytes}

@[simp] theorem delta_buildV2DeltaResponse (id : UInt64) (config : Json) (version : UInt64) :
    (Frame.response (buildV2DeltaResponse id config version)).delta = some (version, config) := by
  simp [Frame.delta, deltaResult, buildV2DeltaResponse, Json.get, Json.asU64]

@[simp] theorem notified_buildV2NotifyNewVersion (version : UInt64) :
    (Frame.notification (buildV2NotifyNewVersion version)).notified = some version := by
  simp [Frame.notified, buildV2NotifyNewVersion, Json.get, Json.asU64]

@[simp] theorem delta_buildV2InitResponse (id : UInt64) :
    (Frame.response (buildV2InitResponse id)).delta = none := by
  simp [Frame.delta, deltaResult, buildV2InitResponse, Json.get]

variable {config : Json} {version : UInt64} {payload : Bytes}

theorem Paired.mono {pushed' : List Bytes} (hPrefix : pushed <+: pushed')
    (h : Paired codec pushed config version) : Paired codec pushed' config version := by
  obtain ⟨index, payload, hIndex, hConfigures, hLe⟩ := h
  refine ⟨index, payload, ?_, hConfigures, hLe⟩
  obtain ⟨rest, rfl⟩ := hPrefix
  rw [List.getElem?_append_left (List.getElem?_eq_some_iff.mp hIndex).1]
  exact hIndex

theorem Paired.last (hLast : pushed.getLast? = some payload)
    (hConfigures : Configures codec payload config) (hVersion : version.toNat ≤ pushed.length) :
    Paired codec pushed config version := by
  refine ⟨pushed.length - 1, payload, ?_, hConfigures, by omega⟩
  rw [← List.getLast?_eq_getElem?]
  exact hLast

theorem Paired.of_version {parsed : ReconfigurePayload} (h : Paired codec pushed config version)
    (hLast : pushed.getLast? = some payload) (hParse : parseV1Payload codec payload = .ok parsed)
    (hVersion : pushed.length ≤ version.toNat) : config = parsed.configTable := by
  obtain ⟨index, stored, hIndex, ⟨parsed', hParse', rfl⟩, hLe⟩ := h
  have hLt := (List.getElem?_eq_some_iff.mp hIndex).1
  obtain rfl : index = pushed.length - 1 := by omega
  rw [← List.getLast?_eq_getElem?, hLast] at hIndex
  cases hIndex
  rw [hParse] at hParse'
  cases hParse'
  rfl

theorem Holding.after_cases (held : Holding) (frames : List Frame) :
    (held.after frames = held ∧ ∀ frame ∈ frames, frame.delta = none) ∨
      ∃ frame ∈ frames, ∃ version config, frame.delta = some (version, config) ∧
        held.after frames = ⟨version, some config⟩ := by
  induction frames generalizing held with
  | nil => exact .inl ⟨rfl, by simp⟩
  | cons frame frames ih =>
    rcases ih (held.take frame) with
      ⟨hAfter, hNone⟩ | ⟨answer, hMem, version, config, hDelta, hAfter⟩
    · cases hFrame : frame.delta with
      | none =>
        left
        refine ⟨hAfter.trans (by simp [take, hFrame]), ?_⟩
        intro other hOther
        rcases List.mem_cons.mp hOther with rfl | hOther
        · exact hFrame
        · exact hNone other hOther
      | some delta =>
        right
        exact ⟨frame, List.mem_cons_self, delta.1, delta.2, hFrame,
          hAfter.trans (by simp [take, hFrame])⟩
    · exact .inr ⟨answer, List.mem_cons_of_mem _ hMem, version, config, hDelta, hAfter⟩

end Frames

/-! ## What a step adds to the frames of a connection -/

/-- The frames that a connection was sent, with the one it is being sent. -/
def Connection.frames (connection : Connection) : List Frame :=
  connection.sent ++ connection.stage.inHand

/-- A frame that a handler begins to send, with what it read for it. -/
inductive Frame.Issued (codec : Codec) (cp : ControlPlane) (connection : Connection) :
    Frame → Prop where
  | plain {frame : Frame} (hDelta : frame.delta = none) (hNotified : frame.notified = none)
      (hRefuses : frame.refuses = false) : Issued codec cp connection frame
  | answers {id : UInt64} {config : Json} (hStage : connection.stage = .configVersion id config) :
      Issued codec cp connection (.response (buildV2DeltaResponse id config cp.configVersion))
  | notifies : Issued codec cp connection
      (.notification (buildV2NotifyNewVersion cp.configVersion))
  | refuses {frame : Frame} (hDelta : frame.delta = none) (hNotified : frame.notified = none)
      (hUnread : ∀ payload ∈ cp.currentPayload, ∃ e, parseV1Payload codec payload = .error e) :
      Issued codec cp connection frame

section Turns

variable {codec : Codec} {cp cp' : ControlPlane} {k : Nat} {connection connection' : Connection}
  {stage : Stage}

theorem Connection.frames_goto (hHand : connection.stage.inHand = []) :
    (connection.goto stage).frames = connection.frames ++ stage.inHand := by
  simp [frames, goto, hHand]

/-- The stages outside of `get_delta`, and the sending of a frame that carries no version. -/
def Stage.Plain : Stage → Prop
  | .sending frame => frame.delta = none ∧ frame.notified = none ∧ frame.refuses = false
  | .configVersion _ _ => False
  | _ => True

theorem hearRequest_plain (request : JsonRpcRequest) : (hearRequest request).Plain := by
  unfold hearRequest
  split_ifs
  · exact ⟨delta_buildV2InitResponse _, rfl, rfl⟩
  · trivial
  · trivial

theorem Outlet.hear_plain (outlet : Outlet) (message : Incoming) :
    (outlet.hear codec message).Plain := by
  cases outlet with
  | v1 => cases message <;> trivial
  | v2 =>
    cases message with
    | text text =>
      simp only [Outlet.hear, hearV2]
      cases codec.requestFromStr text with
      | ok request => exact hearRequest_plain request
      | error e => exact ⟨rfl, rfl, rfl⟩
    | _ => trivial

theorem Outlet.subscribed_plain (outlet : Outlet) : outlet.subscribed.Plain := by
  cases outlet <;> trivial

theorem sendCurrent_plain (current : Option Bytes) : (sendCurrent current).Plain := by
  cases current with
  | none => trivial
  | some payload => exact ⟨rfl, rfl, rfl⟩

theorem Outlet.receive_plain {outlet : Outlet} {answer : Broadcast.Received Bytes}
    (h : outlet.receive answer = some stage) : stage.Plain := by
  cases outlet <;> cases answer <;> cases h <;> trivial

/-- What a handler's step does to the frames. -/
theorem Connection.Turn.frames (h : connection.Turn codec cp k cp' (some connection')) :
    connection'.frames <+: connection.frames ∨ ∃ frame, Frame.Issued codec cp connection frame ∧
        connection'.frames = connection.frames ++ [frame] := by
  have hPlain : ∀ stage : Stage, connection.stage.inHand = [] → stage.Plain →
      (connection.goto stage).frames <+: connection.frames ∨
        ∃ frame, Frame.Issued codec cp connection frame ∧
          (connection.goto stage).frames = connection.frames ++ [frame] := by
    intro stage hHand hStage
    rw [frames_goto hHand]
    cases stage with
    | sending frame =>
      obtain ⟨hDelta, hNotified, hRefuses⟩ := hStage
      exact .inr ⟨frame, .plain hDelta hNotified hRefuses, rfl⟩
    | _ => exact .inl (by simp [Stage.inHand])
  cases h with
  | registers hStage => exact hPlain _ (by rw [hStage]; rfl) trivial
  | subscribes hStage =>
    exact hPlain _ (by rw [hStage]; rfl) (Outlet.subscribed_plain _)
  | greets hStage => exact hPlain _ (by rw [hStage]; rfl) trivial
  | reads hStage => exact hPlain _ (by rw [hStage]; rfl) (sendCurrent_plain _)
  | hears hStage message => exact hPlain _ (by rw [hStage]; rfl) (Outlet.hear_plain _ message)
  | receives hStage hRecv hAnswer =>
    exact hPlain _ (by rw [hStage]; rfl) (Outlet.receive_plain hAnswer)
  | pongs hStage now => exact hPlain _ (by rw [hStage]; rfl) ⟨rfl, rfl, rfl⟩
  | @looksUp id hStage =>
    rw [frames_goto (by rw [hStage]; rfl)]
    cases hPayload : cp.currentPayload with
    | none => exact .inr ⟨_, .refuses rfl rfl (by simp [hPayload]), rfl⟩
    | some payload =>
      unfold deltaOf
      cases hParse : parseV1Payload codec payload with
      | ok parsed => exact .inl (by simp [Stage.inHand, hParse])
      | error e =>
        simp only [hParse]
        refine .inr ⟨_, .refuses rfl rfl ?_, rfl⟩
        intro stored hStored
        cases hPayload.symm.trans hStored
        exact ⟨e, hParse⟩
  | answers hStage =>
    rw [frames_goto (by rw [hStage]; rfl)]
    exact .inr ⟨_, .answers hStage, rfl⟩
  | notifies hStage =>
    rw [frames_goto (by rw [hStage]; rfl)]
    exact .inr ⟨_, .notifies, rfl⟩
  | sends hStage => exact .inl (by simp [Connection.frames, hStage, Stage.inHand])
  | breaks hStage => exact .inl (by simp [Connection.frames, goto, Stage.inHand])
  | unregisters hStage => exact hPlain _ (by rw [hStage]; rfl) trivial

theorem Connection.Turn.reading (h : connection.Turn codec cp k cp' (some connection'))
    {id : UInt64} {config : Json} (hReading : connection'.stage = .configVersion id config) :
    ∃ payload, cp.currentPayload = some payload ∧ Configures codec payload config := by
  have hPlain : ∀ stage : Stage, stage.Plain → stage ≠ .configVersion id config := by
    rintro stage hStage rfl
    exact hStage
  cases h with
  | subscribes hStage => exact absurd hReading (hPlain _ (Outlet.subscribed_plain _))
  | reads hStage => exact absurd hReading (hPlain _ (sendCurrent_plain _))
  | hears hStage message => exact absurd hReading (hPlain _ (Outlet.hear_plain _ message))
  | receives hStage hRecv hAnswer =>
    exact absurd hReading (hPlain _ (Outlet.receive_plain hAnswer))
  | looksUp hStage =>
    change deltaOf codec _ cp.currentPayload = .configVersion id config at hReading
    unfold deltaOf at hReading
    split at hReading
    case h_1 => cases hReading
    case h_2 payload hPayload =>
      split at hReading
      case h_1 parsed hParse =>
        cases hReading
        exact ⟨payload, hPayload, parsed, hParse, rfl⟩
      case h_2 => cases hReading
  | _ => cases hReading

end Turns

/-! ## Every answer is paired -/

def Push.uncounted : Push → Nat
  | .configVersion _ => 1
  | _ => 0

/-- What a connection answered, or is about to answer, is paired. -/
structure Connection.Pairs (codec : Codec) (pushed : List Bytes) (version : UInt64)
    (connection : Connection) : Prop where
  answered : ∀ frame ∈ connection.frames, ∀ v config, frame.delta = some (v, config) →
    Paired codec pushed config v
  reading : ∀ id config, connection.stage = .configVersion id config →
    Paired codec pushed config version

structure Hub.Pairs (codec : Codec) (hub : Hub) : Prop where
  recorded : hub.Recorded
  stores : hub.Stores
  counted : hub.cp.configVersion.toNat + hub.push.uncounted ≤ hub.pushed.length
  connections : ∀ k connection, hub.connections k = some connection →
    connection.Pairs codec hub.pushed hub.cp.configVersion

section Pairs

variable {codec : Codec} {hub hub' : Hub} {pushed : List Bytes} {version : UInt64}
  {connection connection' : Connection}

theorem Connection.pairs_new (outlet : Outlet) (info : DataPlaneInfo) :
    Connection.Pairs codec pushed version ⟨outlet, info, .registering, []⟩ where
  answered := by
    intro frame hFrame
    cases hFrame
  reading := by
    intro id config hStage
    cases hStage

theorem Connection.Turn.pairs {cp cp' : ControlPlane} {k : Nat}
    (h : connection.Turn codec cp k cp' (some connection'))
    (hRecorded : cp.currentPayload = pushed.getLast?)
    (hCounted : cp.configVersion.toNat ≤ pushed.length)
    (hPairs : connection.Pairs codec pushed cp.configVersion) :
    connection'.Pairs codec pushed cp.configVersion where
  answered := by
    intro frame hFrame v config hDelta
    rcases h.frames with hPrefix | ⟨issued, hIssued, hFrames⟩
    · exact hPairs.answered frame (hPrefix.subset hFrame) v config hDelta
    · rw [hFrames, List.mem_append, List.mem_singleton] at hFrame
      rcases hFrame with hFrame | rfl
      · exact hPairs.answered frame hFrame v config hDelta
      · cases hIssued with
        | plain hNone | refuses hNone => rw [hNone] at hDelta; cases hDelta
        | notifies => cases hDelta
        | answers hStage =>
          rw [delta_buildV2DeltaResponse] at hDelta
          cases hDelta
          exact hPairs.reading _ _ hStage
  reading := by
    intro id config hStage
    obtain ⟨payload, hPayload, hConfigures⟩ := h.reading hStage
    exact Paired.last (hRecorded.symm.trans hPayload) hConfigures hCounted

theorem toNat_succ_le (version : UInt64) : (version + 1).toNat ≤ version.toNat + 1 := by
  rw [UInt64.toNat_add]
  exact Nat.mod_le _ _

theorem Connection.Pairs.mono {pushed' : List Bytes} (hPrefix : pushed <+: pushed')
    (h : connection.Pairs codec pushed version) : connection.Pairs codec pushed' version where
  answered frame hFrame v config hDelta := (h.answered frame hFrame v config hDelta).mono hPrefix
  reading id config hStage := (h.reading id config hStage).mono hPrefix

theorem Hub.Pairs.advance (hCareful : hub.Careful codec .pushStep) (h : hub.Pairs codec) :
    hub.advance.Pairs codec := by
  have hMove : hub.Move codec .pushStep hub.advance := .pushes
  have hRecorded : hub.advance.Recorded := h.recorded.step hMove
  refine ⟨hRecorded, h.stores.advance, ?_, fun k connection hOpen => ?_⟩
  · have hCounted := h.counted
    unfold Hub.advance
    cases hPush : hub.push with
    | configVersion payload =>
      have hSucc := toNat_succ_le hub.cp.configVersion
      simp only [hPush, Push.uncounted, Push.step, Push.storing, List.append_nil] at hCounted ⊢
      omega
    | currentPayload payload =>
      simp only [hPush, Push.uncounted, Push.step, Push.storing, List.length_append,
        List.length_singleton] at hCounted ⊢
      omega
    | _ => simpa [hPush, Push.uncounted, Push.step, Push.storing] using hCounted
  · have hPairs := (h.connections k connection hOpen).mono
      (List.prefix_append hub.pushed hub.push.storing)
    cases hPush : hub.push with
    | configVersion payload =>
      refine ⟨hPairs.answered, fun id config hStage => ?_⟩
      have hConfigures := hCareful rfl payload hPush k connection id config hOpen hStage
      have hLast : hub.pushed.getLast? = some payload := by
        rw [← h.recorded]
        exact h.stores payload (by simp [hPush, Push.stored])
      have hSucc := toNat_succ_le hub.cp.configVersion
      have hCounted := h.counted
      simp only [hPush, Push.uncounted] at hCounted
      simp only [Hub.advance, hPush, Push.step, Push.storing, List.append_nil]
      exact Paired.last hLast hConfigures (by omega)
    | _ => simpa [Hub.advance, hPush, Push.step, Push.storing] using hPairs

theorem Hub.Pairs.step {act : Act} (hMove : hub.Move codec act hub')
    (hCareful : hub.Careful codec act) (h : hub.Pairs codec) : hub'.Pairs codec := by
  have hRecorded : hub'.Recorded := h.recorded.step hMove
  cases hMove with
  | fails => exact h
  | begins hIdle hPush =>
    obtain ⟨payload, hashes, rfl⟩ := pushConfig_begins hPush
    refine ⟨h.recorded, ?_, (Nat.le_add_right _ _).trans h.counted, h.connections⟩
    intro stored hStored
    cases hStored
  | pushes => exact h.advance hCareful
  | connects hFree =>
    refine ⟨h.recorded, h.stores, h.counted, fun j connection hOpen => ?_⟩
    rcases open_cases hOpen with ⟨-, hNew⟩ | ⟨-, hOld⟩
    · cases hNew
      exact Connection.pairs_new _ _
    · exact h.connections j connection hOld
  | handles hOpen hTurn =>
    obtain ⟨hCurrent, hVersion⟩ := hTurn.current
    refine ⟨hRecorded, ?_, ?_, fun j other hOther => ?_⟩
    · intro payload hPayload
      exact hCurrent.trans (h.stores payload hPayload)
    · rw [hVersion]
      exact h.counted
    · rw [hVersion]
      rcases open_cases hOther with ⟨rfl, rfl⟩ | ⟨-, hOld⟩
      · exact hTurn.pairs h.recorded ((Nat.le_add_right _ _).trans h.counted)
          (h.connections _ _ hOpen)
      · exact h.connections j other hOld
  | purges now => exact ⟨h.recorded, h.stores, h.counted, h.connections⟩

theorem Hub.pairs_new : Hub.new.Pairs codec where
  recorded := rfl
  stores := Hub.following_new.stores
  counted := le_rfl
  connections := by
    intro k connection hOpen
    cases hOpen

end Pairs

/-! ## The versions of a connection go up -/

def Frame.stamp (frame : Frame) : Option UInt64 := frame.notified.or (frame.delta.map Prod.fst)

def Unreadable (codec : Codec) (pushed : List Bytes) (version : UInt64) : Prop :=
  ∃ index payload e, pushed[index]? = some payload ∧ parseV1Payload codec payload = .error e ∧
    version.toNat ≤ index + 1

/-- A later frame carries no older version, and refuses only what cannot be read. -/
def Ordered (codec : Codec) (pushed : List Bytes) (earlier later : Frame) : Prop :=
  ∀ version, earlier.stamp = some version →
    (∀ newer, later.stamp = some newer → version ≤ newer) ∧
      (later.refuses → version = 0 ∨ Unreadable codec pushed version)

structure Connection.Stamps (codec : Codec) (pushed : List Bytes) (version : UInt64)
    (connection : Connection) : Prop where
  bounded : ∀ frame ∈ connection.frames, ∀ v, frame.stamp = some v → v ≤ version
  ordered : connection.frames.Pairwise (Ordered codec pushed)

structure Hub.Stamps (codec : Codec) (hub : Hub) : Prop where
  recorded : hub.Recorded
  counted : hub.cp.configVersion.toNat + hub.push.uncounted = hub.pushed.length
  connections : ∀ k connection, hub.connections k = some connection →
    connection.Stamps codec hub.pushed hub.cp.configVersion

section Stamps

variable {codec : Codec} {hub hub' : Hub} {pushed : List Bytes} {version : UInt64}
  {connection connection' : Connection} {cp : ControlPlane} {frame : Frame}

theorem Frame.Issued.stamp (h : Frame.Issued codec cp connection frame) :
    ∀ v, frame.stamp = some v → v = cp.configVersion := by
  intro v hStamp
  cases h with
  | plain hDelta hNotified | refuses hDelta hNotified =>
    simp [Frame.stamp, hDelta, hNotified] at hStamp
  | notifies => simpa [Frame.stamp, eq_comm] using hStamp
  | answers => simpa [Frame.stamp, Frame.notified, eq_comm] using hStamp

theorem Frame.Issued.ordered {earlier : Frame} (h : Frame.Issued codec cp connection frame)
    (hRecorded : cp.currentPayload = pushed.getLast?)
    (hCounted : cp.configVersion.toNat ≤ pushed.length)
    (hBounded : ∀ v, earlier.stamp = some v → v ≤ cp.configVersion) :
    Ordered codec pushed earlier frame := by
  intro v hStamp
  have hLe := hBounded v hStamp
  refine ⟨fun newer hNewer => ?_, fun hRefuses => ?_⟩
  · rw [h.stamp newer hNewer]
    exact hLe
  · rw [UInt64.le_iff_toNat_le] at hLe
    cases h with
    | plain _ _ hPlain => simp [hPlain] at hRefuses
    | notifies | answers => cases hRefuses
    | refuses _ _ hUnread =>
      cases hLast : pushed.getLast? with
      | none =>
        left
        rw [List.getLast?_eq_none_iff.mp hLast, List.length_nil] at hCounted
        exact UInt64.toNat_inj.mp (by simp; omega)
      | some payload =>
        right
        obtain ⟨e, hParse⟩ := hUnread payload (hRecorded.trans hLast)
        refine ⟨pushed.length - 1, payload, e, ?_, hParse, by omega⟩
        rw [← List.getLast?_eq_getElem?]
        exact hLast

theorem Connection.Turn.stamps {cp' : ControlPlane} {k : Nat}
    (h : connection.Turn codec cp k cp' (some connection'))
    (hRecorded : cp.currentPayload = pushed.getLast?)
    (hCounted : cp.configVersion.toNat ≤ pushed.length)
    (hStamps : connection.Stamps codec pushed cp.configVersion) :
    connection'.Stamps codec pushed cp.configVersion := by
  rcases h.frames with hPrefix | ⟨issued, hIssued, hFrames⟩
  · exact ⟨fun frame hFrame => hStamps.bounded frame (hPrefix.subset hFrame),
      hStamps.ordered.sublist hPrefix.sublist⟩
  · refine ⟨?_, ?_⟩
    · intro frame hFrame v hStamp
      rw [hFrames, List.mem_append, List.mem_singleton] at hFrame
      rcases hFrame with hFrame | rfl
      · exact hStamps.bounded frame hFrame v hStamp
      · rw [hIssued.stamp v hStamp]
        exact UInt64.le_refl _
    · rw [hFrames, List.pairwise_append]
      refine ⟨hStamps.ordered, List.pairwise_singleton _ _, ?_⟩
      intro earlier hEarlier later hLater
      obtain rfl := List.mem_singleton.mp hLater
      exact hIssued.ordered hRecorded hCounted (hStamps.bounded earlier hEarlier)

variable {pushed' : List Bytes}

theorem Unreadable.mono (hPrefix : pushed <+: pushed') (h : Unreadable codec pushed version) :
    Unreadable codec pushed' version := by
  obtain ⟨index, payload, e, hIndex, hParse, hLe⟩ := h
  refine ⟨index, payload, e, ?_, hParse, hLe⟩
  obtain ⟨rest, rfl⟩ := hPrefix
  rw [List.getElem?_append_left (List.getElem?_eq_some_iff.mp hIndex).1]
  exact hIndex

theorem Connection.Stamps.mono {version' : UInt64} (hPrefix : pushed <+: pushed')
    (hVersion : version ≤ version') (h : connection.Stamps codec pushed version) :
    connection.Stamps codec pushed' version' where
  bounded frame hFrame v hStamp := UInt64.le_trans (h.bounded frame hFrame v hStamp) hVersion
  ordered := by
    apply h.ordered.imp
    intro earlier later hOrdered v hStamp
    obtain ⟨hNewer, hRefuses⟩ := hOrdered v hStamp
    exact ⟨hNewer, fun hLater => (hRefuses hLater).imp_right (Unreadable.mono hPrefix)⟩

/-- Fewer pushes than versions: no count wraps around. -/
theorem Hub.Stamps.advance (hBound : hub.advance.pushed.length < 2 ^ 64) (h : hub.Stamps codec) :
    hub.advance.Stamps codec := by
  have hMove : hub.Move codec .pushStep hub.advance := .pushes
  have hPrefix := List.prefix_append hub.pushed hub.push.storing
  have hCounted := h.counted
  cases hPush : hub.push with
  | configVersion payload =>
    have hSucc : (hub.cp.configVersion + 1).toNat = hub.cp.configVersion.toNat + 1 := by
      simp only [hPush, Push.uncounted, Hub.advance, Push.storing,
        List.append_nil] at hCounted hBound
      rw [UInt64.toNat_add]
      exact Nat.mod_eq_of_lt (by change _ + 1 < _; omega)
    refine ⟨h.recorded.step hMove, ?_, fun k connection hOpen => ?_⟩
    · simp only [hPush, Push.uncounted] at hCounted
      simpa [Hub.advance, hPush, Push.step, Push.storing, Push.uncounted, hSucc] using hCounted
    · have hLe : hub.cp.configVersion ≤ hub.cp.configVersion + 1 := by
        rw [UInt64.le_iff_toNat_le, hSucc]
        omega
      simpa [Hub.advance, hPush, Push.step] using
        (h.connections k connection hOpen).mono hPrefix hLe
  | currentPayload payload | _ =>
    refine ⟨h.recorded.step hMove, ?_, fun k connection hOpen => ?_⟩
    · simp only [hPush, Push.uncounted] at hCounted
      simpa [Hub.advance, hPush, Push.step, Push.storing, Push.uncounted] using hCounted
    · simpa [Hub.advance, hPush, Push.step] using
        (h.connections k connection hOpen).mono hPrefix (UInt64.le_refl _)

theorem Connection.stamps_new (outlet : Outlet) (info : DataPlaneInfo) :
    Connection.Stamps codec pushed version ⟨outlet, info, .registering, []⟩ where
  bounded := by
    intro frame hFrame
    cases hFrame
  ordered := List.Pairwise.nil

variable {act : Act}

theorem Hub.Stamps.step (hMove : hub.Move codec act hub') (hBound : hub'.pushed.length < 2 ^ 64)
    (h : hub.Stamps codec) : hub'.Stamps codec := by
  have hRecorded : hub'.Recorded := h.recorded.step hMove
  cases hMove with
  | fails => exact h
  | begins hIdle hPush =>
    obtain ⟨payload, hashes, rfl⟩ := pushConfig_begins hPush
    have hCounted := h.counted
    rw [hIdle] at hCounted
    exact ⟨h.recorded, hCounted, h.connections⟩
  | pushes => exact h.advance hBound
  | connects hFree =>
    refine ⟨h.recorded, h.counted, fun j connection hOpen => ?_⟩
    rcases open_cases hOpen with ⟨-, hNew⟩ | ⟨-, hOld⟩
    · cases hNew
      exact Connection.stamps_new _ _
    · exact h.connections j connection hOld
  | handles hOpen hTurn =>
    obtain ⟨-, hVersion⟩ := hTurn.current
    refine ⟨hRecorded, ?_, fun j other hOther => ?_⟩
    · rw [hVersion]
      exact h.counted
    · rw [hVersion]
      rcases open_cases hOther with ⟨rfl, rfl⟩ | ⟨-, hOld⟩
      · exact hTurn.stamps h.recorded ((Nat.le_add_right _ _).trans h.counted.le)
          (h.connections _ _ hOpen)
      · exact h.connections j other hOld
  | purges now => exact ⟨h.recorded, h.counted, h.connections⟩

theorem Hub.stamps_new : Hub.new.Stamps codec where
  recorded := rfl
  counted := rfl
  connections := by
    intro k connection hOpen
    cases hOpen

theorem Hub.Move.pushed_prefix (hMove : hub.Move codec act hub') : hub.pushed <+: hub'.pushed := by
  cases hMove with
  | pushes => exact List.prefix_append _ _
  | _ => exact List.prefix_rfl

theorem Hub.run_stamps {acts : List Act} (hRun : Hub.new.run codec acts = some hub)
    (hBound : hub.pushed.length < 2 ^ 64) : hub.Stamps codec := by
  have hStep : ∀ (before : Hub) (act : Act) (after : Hub), before.Move codec act after →
      (before.pushed.length < 2 ^ 64 → before.Stamps codec) →
      (after.pushed.length < 2 ^ 64 → after.Stamps codec) := by
    intro before act after hMove h hAfter
    exact (h (hMove.pushed_prefix.length_le.trans_lt hAfter)).step hMove hAfter
  exact Hub.run_invariant hStep hRun (fun _ => Hub.stamps_new) hBound

end Stamps

/-! ## Version agreement -/

section Agreement

variable {codec : Codec} {pushed : List Bytes}

variable {version : UInt64} {payload : Bytes} {parsed : ReconfigurePayload} {held : Holding}
  {frame : Frame}

theorem Frame.delta_of_notified (h : frame.notified = some version) : frame.delta = none := by
  cases frame <;> first | rfl | cases h

theorem Frame.stamp_of_delta {version : UInt64} {config : Json}
    (h : frame.delta = some (version, config)) : frame.stamp = some version := by
  cases frame with
  | response answer => simp [stamp, notified, h]
  | _ => cases h

theorem pushed_pos (h : pushed.getLast? = some payload) : 0 < pushed.length := by
  apply List.length_pos_of_ne_nil
  rintro rfl
  cases h

theorem Unreadable.not_last (h : Unreadable codec pushed version)
    (hLast : pushed.getLast? = some payload) (hParse : parseV1Payload codec payload = .ok parsed)
    (hVersion : version.toNat = pushed.length) : False := by
  obtain ⟨index, stored, e, hIndex, hError, hLe⟩ := h
  have hLt := (List.getElem?_eq_some_iff.mp hIndex).1
  obtain rfl : index = pushed.length - 1 := by omega
  rw [← List.getLast?_eq_getElem?, hLast] at hIndex
  cases hIndex
  rw [hParse] at hError
  cases hError

theorem Holding.Sound.after {frames : List Frame}
    (hAnswered : ∀ frame ∈ frames, ∀ v config, frame.delta = some (v, config) →
      Paired codec pushed config v) (h : held.Sound codec pushed) :
    (held.after frames).Sound codec pushed := by
  rcases held.after_cases frames with
    ⟨hAfter, -⟩ | ⟨frame, hMem, version, config, hDelta, hAfter⟩
  · rw [hAfter]
    exact h
  · rw [hAfter]
    exact .inr ⟨config, rfl, hAnswered frame hMem version config hDelta⟩

theorem Holding.Sound.last (h : held.Sound codec pushed) (hLast : pushed.getLast? = some payload)
    (hParse : parseV1Payload codec payload = .ok parsed) (hVersion : version.toNat = pushed.length)
    (hLe : version ≤ held.version) : held = ⟨version, some parsed.configTable⟩ := by
  have hPositive := pushed_pos hLast
  rw [UInt64.le_iff_toNat_le] at hLe
  rcases h with rfl | ⟨config, hConfig, hPaired⟩
  · simp at hLe
    omega
  · have hEq := hPaired.of_version hLast hParse (by omega)
    have hSame : held.version = version := by
      obtain ⟨index, _, hIndex, -, hBound⟩ := hPaired
      have hLt := (List.getElem?_eq_some_iff.mp hIndex).1
      exact UInt64.toNat_inj.mp (by omega)
    obtain ⟨heldVersion, heldConfig⟩ := held
    obtain rfl : heldConfig = some config := hConfig
    obtain rfl : heldVersion = version := hSame
    rw [hEq]

end Agreement

/-- **Version agreement.** In a run whose pushes count only while no handler is between its two
reads with another configuration, every answer pairs a configuration with a version not newer
than a push of it. With fewer pushes than versions, a data plane that fetches whenever it is
notified of a greater version holds the last configuration once it was notified of the last push,
if that push can be read. -/
theorem v2_versions (codec : Codec) (acts : List Act) (hub : Hub)
    (hRun : Hub.new.run codec acts = some hub)
    (hCareful : Hub.new.Along codec (Hub.Careful codec) acts) :
    (∀ k connection frame version config, hub.connections k = some connection →
      frame ∈ connection.sent → frame.delta = some (version, config) →
      Paired codec hub.pushed config version) ∧
    (hub.pushed.length < 2 ^ 64 → hub.push = .idle →
      ∀ payload parsed, hub.pushed.getLast? = some payload →
      parseV1Payload codec payload = .ok parsed →
      ∀ k connection (held : Holding), hub.connections k = some connection →
      held.Sound codec hub.pushed → held.Fetches connection.sent →
      (∃ frame ∈ connection.sent, frame.notified = some hub.cp.configVersion) →
      held.after connection.sent = ⟨hub.cp.configVersion, some parsed.configTable⟩) := by
  have hPairs : hub.Pairs codec :=
    Hub.run_invariant_along (fun _ _ _ hMove hStep h => h.step hMove hStep) hRun hCareful
      Hub.pairs_new
  have hAnswered : ∀ k connection, hub.connections k = some connection →
      ∀ frame ∈ connection.sent, ∀ version config, frame.delta = some (version, config) →
        Paired codec hub.pushed config version := by
    intro k connection hOpen frame hFrame
    exact (hPairs.connections k connection hOpen).answered frame (List.mem_append_left _ hFrame)
  refine ⟨fun k connection frame version config hOpen hFrame hDelta =>
    hAnswered k connection hOpen frame hFrame version config hDelta, ?_⟩
  intro hBound hIdle payload parsed hLast hParse k connection held hOpen hSound hFetches hNotified
  obtain ⟨notice, hNotice, hNotified⟩ := hNotified
  obtain ⟨before, after, hSent⟩ := List.append_of_mem hNotice
  have hHub := Hub.run_stamps hRun hBound
  have hVersion : hub.cp.configVersion.toNat = hub.pushed.length := by
    have hCounted := hHub.counted
    rw [hIdle] at hCounted
    exact hCounted
  have hStamps := hHub.connections k connection hOpen
  have hOrdered : connection.sent.Pairwise (Ordered codec hub.pushed) :=
    hStamps.ordered.sublist (List.sublist_append_left _ _)
  have hLater : ∀ frame ∈ after, Ordered codec hub.pushed notice frame := by
    rw [hSent] at hOrdered
    exact fun frame => List.rel_of_pairwise_cons (List.pairwise_append.mp hOrdered).2.1
  have hStamp : notice.stamp = some hub.cp.configVersion := by simp [Frame.stamp, hNotified]
  -- What the data plane holds when it is notified.
  have hBefore : (held.after before).Sound codec hub.pushed := by
    apply hSound.after
    intro frame hFrame
    exact hAnswered k connection hOpen frame (by rw [hSent]; exact List.mem_append_left _ hFrame)
  have hAfter : held.after connection.sent = (held.after before).after after := by
    rw [hSent, Holding.after, List.foldl_append, List.foldl_cons]
    simp only [Holding.take, Frame.delta_of_notified hNotified, Holding.after]
  rw [hAfter]
  rcases (held.after before).after_cases after with
    ⟨hSame, hNone⟩ | ⟨frame, hMem, version, config, hDelta, hEq⟩
  · rw [hSame]
    apply hBefore.last hLast hParse hVersion
    by_contra hOld
    obtain ⟨answer, hMem, hAnswer⟩ := hFetches before notice after _ hSent hNotified
      (UInt64.not_le.mp hOld)
    rcases hAnswer with hDelta | hRefuses
    · simp [hNone answer hMem] at hDelta
    · rcases (hLater answer hMem _ hStamp).2 hRefuses with hZero | hUnread
      · rw [hZero] at hVersion
        exact absurd hVersion (pushed_pos hLast).ne
      · exact hUnread.not_last hLast hParse hVersion
  · rw [hEq]
    have hFrame : frame ∈ connection.sent := by
      rw [hSent]
      exact List.mem_append_right _ (List.mem_cons_of_mem _ hMem)
    have hSound : Holding.Sound codec hub.pushed ⟨version, some config⟩ :=
      .inr ⟨config, rfl, hAnswered k connection hOpen frame hFrame version config hDelta⟩
    exact hSound.last hLast hParse hVersion
      ((hLater frame hMem _ hStamp).1 version (Frame.stamp_of_delta hDelta))

theorem Hub.along_pushSteps {codec : Codec} : ∀ (n : Nat) {hub : Hub},
    (∀ k connection id config, hub.connections k = some connection →
      connection.stage ≠ .configVersion id config) →
    hub.Along codec (Hub.Careful codec) (List.replicate n .pushStep)
  | 0, _, _ => trivial
  | n + 1, hub, h => by
    refine ⟨?_, fun next hNext => ?_⟩
    · intro _ payload _ k connection id config hOpen hStage
      exact absurd hStage (h k connection id config hOpen)
    · cases hNext
      exact Hub.along_pushSteps n h

/-- A data plane of the second protocol is notified of a push and fetches it. -/
def pollingRun : List Act :=
  [.connect 0 .v2 [] "10.0.0.3" 8 0, .handler 0 (.proceed 0), .handler 0 (.proceed 0),
      .push (.number (.posInt 5)) 1] ++
    (List.replicate 6 .pushStep ++
      [.handler 0 .receive, .handler 0 (.proceed 2), .handler 0 (.flushed true),
        .handler 0 (.incoming (.text "get_delta")), .handler 0 (.proceed 3),
        .handler 0 (.proceed 3), .handler 0 (.flushed true)])

theorem pollingRun_careful : Hub.new.Along sampleCodec (Hub.Careful sampleCodec) pollingRun := by
  have hNoStep : ∀ acts : List Act, (∀ act ∈ acts, act ≠ .pushStep) → ∀ hub : Hub,
      hub.Along sampleCodec (Hub.Careful sampleCodec) acts := by
    intro acts h
    exact Hub.along_of_forall fun act hAct hub hStep => absurd hStep (h act hAct)
  refine Hub.along_append rfl (hNoStep _ (by simp) _) ?_
  refine Hub.along_append rfl (Hub.along_pushSteps 6 ?_) (hNoStep _ (by simp) _)
  intro k connection id config hOpen
  rcases open_cases hOpen with ⟨-, hNew⟩ | ⟨hk, hOld⟩
  · cases hNew
    rintro ⟨⟩
  · rcases open_cases hOld with ⟨hZero, -⟩ | ⟨-, hOld⟩
    · exact absurd hZero hk
    · rcases open_cases hOld with ⟨hZero, -⟩ | ⟨-, hOld⟩
      · exact absurd hZero hk
      · cases hOld

theorem v2_versions_sample : ∃ hub connection, Hub.new.run sampleCodec pollingRun = some hub ∧
    hub.connections 0 = some connection ∧
    Holding.after ⟨0, none⟩ connection.sent = ⟨1, some (.number (.posInt 5))⟩ := by
  have hSome : (Hub.new.run sampleCodec pollingRun).isSome := rfl
  let hub := (Hub.new.run sampleCodec pollingRun).get hSome
  have hOpen : (hub.connections 0).isSome := rfl
  let connection := (hub.connections 0).get hOpen
  have hVersions := (v2_versions sampleCodec pollingRun hub (Option.some_get hSome).symm
    pollingRun_careful).2
  have hSent : connection.sent = [.notification (buildV2NotifyNewVersion 1),
      .response (buildV2DeltaResponse 1 (.number (.posInt 5)) 1)] := rfl
  refine ⟨hub, connection, (Option.some_get hSome).symm, (Option.some_get hOpen).symm, ?_⟩
  have hPushed : hub.pushed = [[31, 139, 5]] := rfl
  refine hVersions (by rw [hPushed]; decide) rfl [31, 139, 5] _ rfl rfl 0 connection ⟨0, none⟩
    (Option.some_get hOpen).symm (.inl rfl) ?_ ?_
  · rw [hSent]
    intro before frame after version hEq hNotified _
    match before, hEq with
    | [], hEq =>
      cases hEq
      exact ⟨_, List.mem_singleton_self _, .inl rfl⟩
    | [_], hEq =>
      cases hEq
      cases hNotified
    | _ :: _ :: _, hEq => simp at hEq
  · exact ⟨_, by rw [hSent]; exact List.mem_cons_self, rfl⟩

/-- A push counts its version between the two reads of a `get_delta`. -/
def racingRun : List Act :=
  .push (.number (.posInt 5)) 0 :: (List.replicate 6 .pushStep ++
    [.connect 0 .v2 [] "10.0.0.3" 8 0, .handler 0 (.proceed 0), .handler 0 (.proceed 0),
      .handler 0 (.incoming (.text "get_delta")), .handler 0 (.proceed 1),
      .push (.number (.posInt 6)) 1, .pushStep, .pushStep, .pushStep, .pushStep,
      .handler 0 (.proceed 1), .handler 0 (.flushed true), .pushStep, .pushStep,
      .handler 0 .receive, .handler 0 (.proceed 2), .handler 0 (.flushed true)])

/-- The first configuration is answered with the second version, whose notification then tells the
data plane nothing new. -/
theorem version_of_newer_push : ∃ hub connection, Hub.new.run sampleCodec racingRun = some hub ∧
    hub.connections 0 = some connection ∧ hub.push = .idle ∧
    (∃ frame ∈ connection.sent, ∃ version config, frame.delta = some (version, config) ∧
      ¬ Paired sampleCodec hub.pushed config version) ∧
    (∃ frame ∈ connection.sent, frame.notified = some hub.cp.configVersion) ∧
    Holding.Fetches ⟨0, none⟩ connection.sent ∧
    ∃ payload parsed, hub.pushed.getLast? = some payload ∧
      parseV1Payload sampleCodec payload = .ok parsed ∧
      (Holding.after ⟨0, none⟩ connection.sent).config ≠ some parsed.configTable := by
  have hSome : (Hub.new.run sampleCodec racingRun).isSome := rfl
  let hub := (Hub.new.run sampleCodec racingRun).get hSome
  have hOpen : (hub.connections 0).isSome := rfl
  let connection := (hub.connections 0).get hOpen
  have hSent : connection.sent = [.response (buildV2DeltaResponse 1 (.number (.posInt 5)) 2),
      .notification (buildV2NotifyNewVersion 2)] := rfl
  have hPushed : hub.pushed = [[31, 139, 5], [31, 139, 6]] := rfl
  refine ⟨hub, connection, (Option.some_get hSome).symm, (Option.some_get hOpen).symm, rfl,
    ⟨_, by rw [hSent]; exact List.mem_cons_self, 2, .number (.posInt 5), rfl, ?_⟩,
    ⟨_, by rw [hSent]; exact List.mem_cons_of_mem _ List.mem_cons_self, rfl⟩, ?_,
    [31, 139, 6], _, rfl, rfl, ?_⟩
  · rw [hPushed]
    rintro ⟨index, payload, hIndex, ⟨parsed, hParse, hConfig⟩, hLe⟩
    match index, hIndex with
    | 0, _ => exact absurd hLe (by decide)
    | 1, hIndex =>
      cases hIndex
      cases hParse
      cases hConfig
  · rw [hSent]
    intro before frame after version hEq hNotified hOlder
    match before, hEq with
    | [], hEq =>
      cases hEq
      cases hNotified
    | [_], hEq =>
      cases hEq
      cases hNotified
      exact absurd hOlder (by decide)
    | _ :: _ :: _, hEq => simp at hEq
  · rintro ⟨⟩

end KongRust.Cluster

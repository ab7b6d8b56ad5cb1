import KongRust.Cluster.Convergence

/-!
# Concurrent pushes

Several calls of `push_config` at once, with `update_dp_status` in between. Every lock is one step.
The calls are listed in the order in which they wrote `current_hash`, and a call is in turn when no
call after it has made the write that it makes next.
-/

namespace KongRust.Cluster

open Broadcast

/-! ## The two locks of a status update -/

namespace ControlPlane

/-- `update_dp_status` under the lock of the data planes, up to the lock of the hash. -/
def noteReport (cp : ControlPlane) (id : Uuid) (configHash : String) (now : Int) : ControlPlane :=
  match cp.dataPlanes.lookup id with
  | none => cp
  | some dp =>
    let seen := { dp with configHash := configHash, lastSeen := now }
    { cp with dataPlanes := cp.dataPlanes.insert id seen }

/-- The rest of `update_dp_status`: the current hash is read, then both locks are released. -/
def judgeReport (cp : ControlPlane) (id : Uuid) (configHash : String) : ControlPlane :=
  match cp.dataPlanes.lookup id with
  | none => cp
  | some dp =>
    let seen := { dp with
      syncStatus := if configHash = cp.currentHash then .normal else .unknown }
    { cp with dataPlanes := cp.dataPlanes.insert id seen }

end ControlPlane

/-! ## Calls and their steps -/

/-- A call of `push_config`; `hashes` and `payload` are those it computed at its start. -/
structure PushCall where
  hashes : ConfigHashes
  payload : Bytes
  stage : Push

/-- How many of its five writes a call has made. -/
def Push.writes : Push → Nat
  | .currentHash _ _ => 0
  | .currentHashes _ _ => 1
  | .currentPayload _ => 2
  | .configVersion _ => 3
  | .broadcast _ => 4
  | .countDataPlanes | .idle => 5

def Push.replaces : Push → Bool
  | .configVersion _ | .countDataPlanes | .idle => false
  | _ => true

/-- A control plane with its calls in progress. -/
structure PushRoom where
  cp : ControlPlane
  /-- The calls that have not written `current_hash` yet. -/
  built : List PushCall
  /-- The other calls, in the order in which they wrote `current_hash`. -/
  pushes : List PushCall
  /-- The status update that holds the data planes. -/
  reporting : Option (Uuid × String)
  /-- What `config_tx` was given, oldest first. -/
  broadcasts : List Bytes

inductive PushEvent where
  | call (configTable : Json) (now : Int)
  | enter (index : Nat)
  | proceed (index : Nat)
  | noteReport (id : Uuid) (configHash : String) (now : Int)
  | judgeReport

def Push.message : Push → List Bytes
  | .broadcast payload => [payload]
  | _ => []

namespace PushRoom

/-- No call and no status update is in progress. -/
structure Quiet (room : PushRoom) : Prop where
  built : room.built = []
  pushes : ∀ call ∈ room.pushes, call.stage = .idle
  reporting : room.reporting = none

/-- Before the first call, with any data planes and receivers. -/
def new (dataPlanes : AList fun _ : Uuid => DataPlaneInfo) (configTx : Channel Nat Bytes) :
    PushRoom where
  cp := { ControlPlane.new with dataPlanes := dataPlanes, configTx := configTx }
  built := []
  pushes := []
  reporting := none
  broadcasts := []

/-- The next step of one call. The data planes are counted when nobody holds them. -/
def advance (room : PushRoom) (call : PushCall) : PushRoom × PushCall :=
  match call.stage, room.reporting with
  | .countDataPlanes, some _ => (room, call)
  | stage, _ =>
    let (cp, next) := stage.step room.cp
    ({ room with cp := cp, broadcasts := room.broadcasts ++ stage.message },
      { call with stage := next })

variable (codec : Codec)

def step (room : PushRoom) : PushEvent → PushRoom
  | .call configTable now =>
    match pushConfig codec configTable now with
    | .ok (.currentHash payload hashes) =>
      { room with built := room.built ++ [⟨hashes, payload, .currentHash payload hashes⟩] }
    | _ => room
  | .enter index =>
    match room.built[index]? with
    | none => room
    | some call =>
      let (room, call) := room.advance call
      { room with built := room.built.eraseIdx index, pushes := room.pushes ++ [call] }
  | .proceed index =>
    match room.pushes[index]? with
    | none => room
    | some call =>
      let (room, call) := room.advance call
      { room with pushes := room.pushes.set index call }
  | .noteReport id configHash now =>
    match room.reporting with
    | some _ => room
    | none => { room with
        cp := room.cp.noteReport id configHash now
        reporting := (room.cp.dataPlanes.lookup id).map fun _ => (id, configHash) }
  | .judgeReport =>
    match room.reporting with
    | none => room
    | some (id, configHash) => { room with
        cp := room.cp.judgeReport id configHash
        reporting := none }

/-- What holds when no call is in progress. -/
structure Coherent (room : PushRoom) : Prop where
  hashes : ∀ payload, room.cp.currentPayload = some payload → ∃ configTable now,
    buildV1Payload codec configTable (calculateConfigHash codec configTable).config
      (calculateConfigHash codec configTable) now = .ok payload ∧
    room.cp.currentHash = (calculateConfigHash codec configTable).config ∧
    room.cp.currentHashes = calculateConfigHash codec configTable
  broadcast : room.broadcasts.getLast? = room.cp.currentPayload
  version : room.cp.configVersion = UInt64.ofNat room.pushes.length

def InTurn (room : PushRoom) : PushEvent → Prop
  | .proceed index => ∀ call, room.pushes[index]? = some call → call.stage.replaces = true →
    ∀ later, index < later → ∀ other, room.pushes[later]? = some other →
      other.stage.writes ≤ call.stage.writes
  | _ => True

/-- The states of the runs in which every step is in turn. -/
inductive Reached : PushRoom → Prop where
  | new (dataPlanes : AList fun _ : Uuid => DataPlaneInfo) (configTx : Channel Nat Bytes) :
    Reached (.new dataPlanes configTx)
  | step {room : PushRoom} {event : PushEvent} (h : Reached room) (hTurn : room.InTurn event) :
    Reached (room.step codec event)

end PushRoom

/-! ## What the calls leave -/

def PushCall.Carries (call : PushCall) : Prop :=
  match call.stage with
  | .currentHash payload hashes | .currentHashes payload hashes =>
    payload = call.payload ∧ hashes = call.hashes
  | .currentPayload payload | .configVersion payload | .broadcast payload => payload = call.payload
  | .countDataPlanes | .idle => True

/-- What the calls with at least `n` writes computed. -/
def reached (n : Nat) (calls : List PushCall) : List (ConfigHashes × Bytes) :=
  calls.filterMap fun call =>
    if n ≤ call.stage.writes then some (call.hashes, call.payload) else none

/-- Each field holds what the last call that wrote it computed. -/
structure Recorded (cp : ControlPlane) (broadcasts : List Bytes) (pushes : List PushCall) :
    Prop where
  hash : cp.currentHash =
    (reached 1 pushes).getLast?.elim EMPTY_CONFIG_HASH fun content => content.1.config
  hashes : cp.currentHashes = (reached 2 pushes).getLast?.elim .default Prod.fst
  payload : cp.currentPayload = (reached 3 pushes).getLast?.map Prod.snd
  version : cp.configVersion = UInt64.ofNat (reached 4 pushes).length
  broadcast : broadcasts.getLast? = (reached 5 pushes).getLast?.map Prod.snd

section Recorded

variable {n : Nat} {front back : List PushCall} {call other : PushCall}

theorem reached_append (calls more : List PushCall) :
    reached n (calls ++ more) = reached n calls ++ reached n more :=
  List.filterMap_append

theorem reached_cons_of_le (h : n ≤ call.stage.writes) :
    reached n (call :: back) = (call.hashes, call.payload) :: reached n back := by
  simp [reached, h]

theorem reached_cons_of_lt (h : call.stage.writes < n) :
    reached n (call :: back) = reached n back := by
  have hNot : ¬n ≤ call.stage.writes := by omega
  simp [reached, hNot]

theorem reached_eq_nil (h : ∀ call ∈ back, call.stage.writes < n) : reached n back = [] := by
  unfold reached
  rw [List.filterMap_eq_nil_iff]
  intro call hCall
  have := h call hCall
  rw [if_neg (by omega)]

theorem reached_swap (hHashes : call.hashes = other.hashes)
    (hPayload : call.payload = other.payload) (h : n ≤ call.stage.writes ↔ n ≤ other.stage.writes) :
    reached n (front ++ call :: back) = reached n (front ++ other :: back) := by
  rw [reached_append, reached_append]
  by_cases hReached : n ≤ call.stage.writes
  · rw [reached_cons_of_le hReached, reached_cons_of_le (h.mp hReached), hHashes, hPayload]
  · have hOther : ¬n ≤ other.stage.writes := fun hLe => hReached (h.mpr hLe)
    rw [reached_cons_of_lt (by omega), reached_cons_of_lt (by omega)]

theorem getLast?_reached (hCall : n ≤ call.stage.writes) (hBack : reached n back = []) :
    (reached n (front ++ call :: back)).getLast? = some (call.hashes, call.payload) := by
  rw [reached_append, reached_cons_of_le hCall, hBack]
  exact List.getLast?_concat

theorem length_reached_succ (call other : PushCall) (hCall : call.stage.writes < n)
    (hOther : n ≤ other.stage.writes) :
    (reached n (front ++ other :: back)).length =
      (reached n (front ++ call :: back)).length + 1 := by
  rw [reached_append, reached_append, reached_cons_of_le hOther, reached_cons_of_lt hCall,
    List.length_append, List.length_append, List.length_cons]
  omega

theorem writes_step (cp : ControlPlane) (stage : Push) :
    (stage.step cp).2.writes = min 5 (stage.writes + 1) := by
  cases stage <;> rfl

theorem replaces_writes {stage : Push} (h : stage.replaces = true) : stage.writes + 1 ≤ 5 := by
  cases stage <;> simp [Push.replaces, Push.writes] at h ⊢

variable {cp : ControlPlane} {broadcasts : List Bytes}

/-- **A write.** A step that replaces nothing of a call after its own keeps the record. -/
theorem Recorded.step (h : Recorded cp broadcasts (front ++ call :: back)) (hCarries : call.Carries)
    (hTurn : call.stage.replaces = true → ∀ other ∈ back, other.stage.writes ≤ call.stage.writes) :
    Recorded (call.stage.step cp).1 (broadcasts ++ call.stage.message)
      (front ++ { call with stage := (call.stage.step cp).2 } :: back) := by
  have hSame (n : Nat) (hOther : call.stage.writes + 1 ≠ n) (hFive : n ≤ 5) :
      reached n (front ++ call :: back) =
        reached n (front ++ { call with stage := (call.stage.step cp).2 } :: back) := by
    refine reached_swap rfl rfl ?_
    rw [writes_step]
    omega
  have hLast (hReplaces : call.stage.replaces = true) : (reached (call.stage.writes + 1)
        (front ++ { call with stage := (call.stage.step cp).2 } :: back)).getLast? =
          some (call.hashes, call.payload) := by
    refine getLast?_reached ?_ (reached_eq_nil fun other hOther => ?_)
    · rw [writes_step, min_eq_right (replaces_writes hReplaces)]
    · have := hTurn hReplaces other hOther
      omega
  have hSilent (hMessage : call.stage.message = []) :
      broadcasts ++ call.stage.message = broadcasts := by
    rw [hMessage, List.append_nil]
  obtain ⟨hashes, payload, stage⟩ := call
  cases stage with
  | idle => simpa [Push.step, Push.message] using h
  | countDataPlanes =>
    simp only [Push.writes] at hSame
    exact ⟨hSame 1 (by decide) (by decide) ▸ h.hash, hSame 2 (by decide) (by decide) ▸ h.hashes,
      hSame 3 (by decide) (by decide) ▸ h.payload, hSame 4 (by decide) (by decide) ▸ h.version,
      hSame 5 (by decide) (by decide) ▸ (hSilent rfl).symm ▸ h.broadcast⟩
  | currentHash p own =>
    obtain ⟨rfl, rfl⟩ := hCarries
    simp only [Push.writes, Nat.zero_add] at hSame hLast
    refine ⟨?_, hSame 2 (by decide) (by decide) ▸ h.hashes,
      hSame 3 (by decide) (by decide) ▸ h.payload, hSame 4 (by decide) (by decide) ▸ h.version,
      hSame 5 (by decide) (by decide) ▸ (hSilent rfl).symm ▸ h.broadcast⟩
    rw [hLast rfl]
    rfl
  | currentHashes p own =>
    obtain ⟨rfl, rfl⟩ := hCarries
    simp only [Push.writes] at hSame hLast
    refine ⟨hSame 1 (by decide) (by decide) ▸ h.hash, ?_,
      hSame 3 (by decide) (by decide) ▸ h.payload, hSame 4 (by decide) (by decide) ▸ h.version,
      hSame 5 (by decide) (by decide) ▸ (hSilent rfl).symm ▸ h.broadcast⟩
    rw [hLast rfl]
    rfl
  | currentPayload p =>
    obtain rfl := hCarries
    simp only [Push.writes] at hSame hLast
    refine ⟨hSame 1 (by decide) (by decide) ▸ h.hash, hSame 2 (by decide) (by decide) ▸ h.hashes,
      ?_, hSame 4 (by decide) (by decide) ▸ h.version,
      hSame 5 (by decide) (by decide) ▸ (hSilent rfl).symm ▸ h.broadcast⟩
    rw [hLast rfl]
    rfl
  | configVersion p =>
    simp only [Push.writes] at hSame hLast
    refine ⟨hSame 1 (by decide) (by decide) ▸ h.hash, hSame 2 (by decide) (by decide) ▸ h.hashes,
      hSame 3 (by decide) (by decide) ▸ h.payload, ?_,
      hSame 5 (by decide) (by decide) ▸ (hSilent rfl).symm ▸ h.broadcast⟩
    show cp.configVersion + 1 =
      UInt64.ofNat (reached 4 (front ++ ⟨hashes, payload, .broadcast p⟩ :: back)).length
    rw [length_reached_succ ⟨hashes, payload, .configVersion p⟩ _ (Nat.lt_succ_self 3) le_rfl,
      h.version]
    exact (UInt64.ofNat_add _ 1).symm
  | broadcast p =>
    obtain rfl := hCarries
    simp only [Push.writes] at hSame hLast
    refine ⟨hSame 1 (by decide) (by decide) ▸ h.hash, hSame 2 (by decide) (by decide) ▸ h.hashes,
      hSame 3 (by decide) (by decide) ▸ h.payload, hSame 4 (by decide) (by decide) ▸ h.version,
      ?_⟩
    rw [hLast rfl]
    exact List.getLast?_concat

theorem PushCall.Carries.step (h : call.Carries) (cp : ControlPlane) :
    PushCall.Carries { call with stage := (call.stage.step cp).2 } := by
  obtain ⟨hashes, payload, stage⟩ := call
  cases stage with
  | currentHashes p own => exact h.1
  | _ => first | exact h | exact trivial

theorem recorded_unwritten (hCall : call.stage.writes = 0) (h : Recorded cp broadcasts front) :
    Recorded cp broadcasts (front ++ [call]) := by
  have hSame (n : Nat) (hn : 0 < n) : reached n (front ++ [call]) = reached n front := by
    rw [reached_append, reached_cons_of_lt (by omega)]
    exact List.append_nil _
  refine ⟨?_, ?_, ?_, ?_, ?_⟩
  · rw [hSame 1 (by decide)]
    exact h.hash
  · rw [hSame 2 (by decide)]
    exact h.hashes
  · rw [hSame 3 (by decide)]
    exact h.payload
  · rw [hSame 4 (by decide)]
    exact h.version
  · rw [hSame 5 (by decide)]
    exact h.broadcast

end Recorded

/-! ## Runs -/

def PushCall.Computed (codec : Codec) (call : PushCall) : Prop :=
  ∃ configTable now, call.hashes = calculateConfigHash codec configTable ∧
    buildV1Payload codec configTable call.hashes.config call.hashes now = .ok call.payload

namespace PushRoom

variable {codec : Codec} {room : PushRoom}

structure Sound (codec : Codec) (room : PushRoom) : Prop where
  unwritten : ∀ call ∈ room.built, call.stage.writes = 0
  calls : ∀ call, call ∈ room.built ∨ call ∈ room.pushes → call.Carries ∧ call.Computed codec
  recorded : Recorded room.cp room.broadcasts room.pushes

theorem advance_cases (room : PushRoom) (call : PushCall) :
    room.advance call = (room, call) ∧ call.stage = .countDataPlanes ∨
      room.advance call = ({ room with
        cp := (call.stage.step room.cp).1
        broadcasts := room.broadcasts ++ call.stage.message },
        { call with stage := (call.stage.step room.cp).2 }) := by
  unfold advance
  split
  · next hStage _ => exact .inl ⟨rfl, hStage⟩
  · exact .inr rfl

theorem pushConfig_ok {configTable : Json} {now : Int} {payload : Bytes} {hashes : ConfigHashes}
    (h : pushConfig codec configTable now = .ok (.currentHash payload hashes)) :
    PushCall.Computed codec ⟨hashes, payload, .currentHash payload hashes⟩ := by
  unfold pushConfig at h
  simp only [bind, Except.bind] at h
  split at h
  · cases h
  · next built hBuilt =>
    cases h
    exact ⟨configTable, now, rfl, hBuilt⟩

theorem sound_new (dataPlanes : AList fun _ : Uuid => DataPlaneInfo)
    (configTx : Channel Nat Bytes) : Sound codec (new dataPlanes configTx) where
  unwritten := by simp [new]
  calls := by simp [new]
  recorded := ⟨rfl, rfl, rfl, rfl, rfl⟩

theorem Recorded.dataPlanes {cp : ControlPlane} {broadcasts : List Bytes} {pushes : List PushCall}
    (h : Recorded cp broadcasts pushes) (dataPlanes : AList fun _ : Uuid => DataPlaneInfo) :
    Recorded { cp with dataPlanes := dataPlanes } broadcasts pushes :=
  ⟨h.hash, h.hashes, h.payload, h.version, h.broadcast⟩

theorem recorded_noteReport (h : Recorded room.cp room.broadcasts room.pushes) (id : Uuid)
    (configHash : String) (now : Int) :
    Recorded (room.cp.noteReport id configHash now) room.broadcasts room.pushes := by
  unfold ControlPlane.noteReport
  split
  · exact h
  · exact Recorded.dataPlanes h _

theorem recorded_judgeReport (h : Recorded room.cp room.broadcasts room.pushes) (id : Uuid)
    (configHash : String) :
    Recorded (room.cp.judgeReport id configHash) room.broadcasts room.pushes := by
  unfold ControlPlane.judgeReport
  split
  · exact h
  · exact Recorded.dataPlanes h _

theorem Sound.call (h : Sound codec room) (configTable : Json) (now : Int) :
    Sound codec (room.step codec (.call configTable now)) := by
  unfold step
  dsimp only
  split
  · next payload hashes hBuilt =>
    refine ⟨fun other hOther => ?_, fun other hOther => ?_, h.recorded⟩
    · obtain hOld | hNew := List.mem_append.mp hOther
      · exact h.unwritten other hOld
      · rw [List.mem_singleton.mp hNew]
        rfl
    · obtain hOther | hPushed := hOther
      · obtain hOld | hNew := List.mem_append.mp hOther
        · exact h.calls other (.inl hOld)
        · rw [List.mem_singleton.mp hNew]
          exact ⟨⟨rfl, rfl⟩, pushConfig_ok hBuilt⟩
      · exact h.calls other (.inr hPushed)
  · exact h

theorem Sound.enter (h : Sound codec room) (index : Nat) :
    Sound codec (room.step codec (.enter index)) := by
  unfold step
  dsimp only
  split
  · exact h
  · next call hCall =>
    have hMem := List.mem_of_getElem? hCall
    have hWrites := h.unwritten call hMem
    obtain ⟨hCarries, hComputed⟩ := h.calls call (.inl hMem)
    obtain ⟨-, hStage⟩ | hAdvance := advance_cases room call
    · rw [hStage] at hWrites
      cases hWrites
    · rw [hAdvance]
      have hRecorded := (recorded_unwritten hWrites h.recorded).step hCarries fun _ _ hNone => by
        cases hNone
      refine ⟨fun other hOther => ?_, fun other hOther => ?_, hRecorded⟩
      · exact h.unwritten other (List.mem_of_mem_eraseIdx hOther)
      · obtain hBuilt | hPushed := hOther
        · exact h.calls other (.inl (List.mem_of_mem_eraseIdx hBuilt))
        · obtain hOld | hNew := List.mem_append.mp hPushed
          · exact h.calls other (.inr hOld)
          · rw [List.mem_singleton.mp hNew]
            exact ⟨hCarries.step room.cp, hComputed⟩

variable {index : Nat}

theorem Sound.proceed (h : Sound codec room) (hTurn : room.InTurn (.proceed index)) :
    Sound codec (room.step codec (.proceed index)) := by
  unfold step
  dsimp only
  split
  · exact h
  · next call hCall =>
    obtain ⟨hIndex, hGet⟩ := List.getElem?_eq_some_iff.mp hCall
    obtain ⟨hCarries, hComputed⟩ := h.calls call (.inr (List.mem_of_getElem? hCall))
    have hSplit : room.pushes =
        room.pushes.take index ++ call :: room.pushes.drop (index + 1) := by
      rw [← hGet, List.getElem_cons_drop, List.take_append_drop]
    obtain ⟨hBlocked, -⟩ | hAdvance := advance_cases room call
    · rw [hBlocked]
      dsimp only
      rw [← hGet, List.set_getElem_self]
      exact h
    · rw [hAdvance]
      have hLater (hReplaces : call.stage.replaces = true) :
          ∀ other ∈ room.pushes.drop (index + 1), other.stage.writes ≤ call.stage.writes := by
        intro other hOther
        obtain ⟨j, hj⟩ := List.mem_iff_getElem?.mp hOther
        rw [List.getElem?_drop] at hj
        exact hTurn call hCall hReplaces (index + 1 + j) (by omega) other hj
      have hRecorded := (hSplit ▸ h.recorded).step hCarries hLater
      refine ⟨h.unwritten, fun other hOther => ?_, ?_⟩
      · obtain hBuilt | hPushed := hOther
        · exact h.calls other (.inl hBuilt)
        · obtain hOld | rfl := List.mem_or_eq_of_mem_set hPushed
          · exact h.calls other (.inr hOld)
          · exact ⟨hCarries.step room.cp, hComputed⟩
      · dsimp only
        rw [List.set_eq_take_append_cons_drop, if_pos hIndex]
        exact hRecorded

theorem Sound.step (h : Sound codec room) {event : PushEvent} (hTurn : room.InTurn event) :
    Sound codec (room.step codec event) := by
  cases event with
  | call configTable now => exact h.call configTable now
  | enter index => exact h.enter index
  | proceed index => exact h.proceed hTurn
  | noteReport id configHash now =>
    unfold PushRoom.step
    dsimp only
    split
    · exact h
    · exact ⟨h.unwritten, h.calls, recorded_noteReport h.recorded id configHash now⟩
  | judgeReport =>
    unfold PushRoom.step
    dsimp only
    split
    · exact h
    · exact ⟨h.unwritten, h.calls, recorded_judgeReport h.recorded _ _⟩

theorem Reached.sound (h : Reached codec room) : Sound codec room := by
  induction h with
  | new dataPlanes configTx => exact sound_new dataPlanes configTx
  | step _ hTurn ih => exact ih.step hTurn

/-- **Quiet states.** When every step of a run was in turn and no call is in progress, the stored
hashes, payload and version, and the last broadcast, belong together. -/
theorem quiet_coherent (h : Reached codec room) (hQuiet : room.Quiet) : room.Coherent codec := by
  have hSound := h.sound
  have hAll (n : Nat) (hn : n ≤ 5) :
      reached n room.pushes = room.pushes.map fun call => (call.hashes, call.payload) := by
    unfold reached
    rw [← List.filterMap_eq_map]
    refine List.filterMap_congr fun call hCall => ?_
    rw [hQuiet.pushes call hCall]
    exact if_pos hn
  obtain ⟨hHash, hHashes, hPayload, hVersion, hBroadcast⟩ := hSound.recorded
  rw [hAll 1 (by decide)] at hHash
  rw [hAll 2 (by decide)] at hHashes
  rw [hAll 3 (by decide)] at hPayload
  rw [hAll 4 (by decide), List.length_map] at hVersion
  rw [hAll 5 (by decide)] at hBroadcast
  refine ⟨fun payload hStored => ?_, hBroadcast.trans hPayload.symm, hVersion⟩
  rw [hPayload, List.getLast?_map] at hStored
  obtain ⟨content, hContent, rfl⟩ := Option.map_eq_some_iff.mp hStored
  obtain ⟨call, hLast, rfl⟩ := Option.map_eq_some_iff.mp hContent
  rw [List.getLast?_map, hLast] at hHash hHashes
  obtain ⟨-, configTable, now, hComputed, hBuilt⟩ :=
    hSound.calls call (.inr (List.mem_of_getLast? hLast))
  refine ⟨configTable, now, ?_, ?_, ?_⟩
  · rw [← hComputed]
    exact hBuilt
  · rw [← hComputed]
    exact hHash
  · rw [← hComputed]
    exact hHashes

/-! ## Two pushes at once -/

def versionedTable : Json := .object [("_format_version", .string "3.0")]

/-- The digests of what is hashed for an empty configuration and for one that names its format. -/
def pushCodec : Codec :=
  { sampleCodec with
    md5Hex := fun text =>
      if text = "/null/" then "5bf07a8b7343015026657d1108d8206e"
      else if text = "\x7b\x7d" then "99914b932bd37a50b983c5e7c90ae93b"
      else if text = "_format_version:3.0;" then "bbf6282edbcaefc90c9cfff84ae25fe0"
      else if text = String.join (List.replicate 5 "5bf07a8b7343015026657d1108d8206e") ++
          "99914b932bd37a50b983c5e7c90ae93b" then "42aa75247d8dabbd8c6d4ee12bf91c9c"
      else "57e74f8b1be81b261b1e481b47281997"
    payloadToVec := fun payload =>
      match payload.configTable with
      | .object [] => .ok [1]
      | _ => .ok [2] }

def after (events : List PushEvent) : PushRoom :=
  events.foldl (PushRoom.step pushCodec) (.new ∅ (Channel.new 16))

/-- Whether the steps of a run are in turn. -/
def allInTurn (codec : Codec) : PushRoom → List PushEvent → Bool
  | _, [] => true
  | room, event :: events =>
    (match event with
      | .proceed index => room.pushes[index]?.all fun call => !call.stage.replaces ||
        (room.pushes.drop (index + 1)).all fun other => other.stage.writes ≤ call.stage.writes
      | _ => true) && allInTurn codec (room.step codec event) events

theorem reached_foldl {events : List PushEvent} (h : Reached codec room)
    (hTurns : allInTurn codec room events) : Reached codec (events.foldl (step codec) room) := by
  induction events generalizing room with
  | nil => exact h
  | cons event events ih =>
    obtain ⟨hTurn, hRest⟩ := Bool.and_eq_true_iff.mp hTurns
    refine ih (h.step ?_) hRest
    cases event with
    | proceed index =>
      intro call hCall hReplaces later hLater other hOther
      simp only [hCall, Option.all_some, hReplaces, Bool.not_true, Bool.false_or, List.all_eq_true,
        decide_eq_true_eq] at hTurn
      refine hTurn other (List.mem_iff_getElem?.mpr ⟨later - (index + 1), ?_⟩)
      rw [List.getElem?_drop, Nat.add_sub_cancel' hLater]
      exact hOther
    | _ => trivial

/-- A control plane with one node. -/
def oneNode : PushRoom :=
  .new (AList.insert 7 ⟨7, "10.0.0.2", "", "", .unknown, EMPTY_CONFIG_HASH, 0, []⟩ ∅)
    (Channel.new 16)

/-- The second push stays behind the first one, and the node reports a hash in between. -/
def inOrder : List PushEvent :=
  [.call (.object []) 0, .call versionedTable 1, .enter 0, .noteReport 7 "abc" 2, .proceed 0,
    .enter 0, .judgeReport, .proceed 0, .proceed 1, .proceed 0, .proceed 0, .proceed 1, .proceed 1,
    .proceed 0, .proceed 1, .proceed 1]

theorem quiet_coherent_sample : (inOrder.foldl (step pushCodec) oneNode).Coherent pushCodec := by
  have hReached : Reached pushCodec (inOrder.foldl (step pushCodec) oneNode) :=
    reached_foldl (.new _ _) (by decide +kernel)
  refine quiet_coherent hReached ⟨rfl, fun call hCall => ?_, rfl⟩
  have hPushes : (inOrder.foldl (step pushCodec) oneNode).pushes.map PushCall.stage =
      [.idle, .idle] := rfl
  have hStage := List.mem_map_of_mem (f := PushCall.stage) hCall
  rw [hPushes] at hStage
  simpa using hStage

/-- The second push overtakes the first after both have written their hash. -/
def overtaken : List PushEvent :=
  [.call (.object []) 0, .call versionedTable 1, .enter 0, .enter 0, .proceed 1, .proceed 1,
    .proceed 1, .proceed 1, .proceed 1, .proceed 0, .proceed 0, .proceed 0, .proceed 0, .proceed 0]

/-- The hash of one configuration stays beside the hashes and the payload of the other. -/
theorem overlap_mixes : ¬ ∀ (codec : Codec) (events : List PushEvent),
    (events.foldl (PushRoom.step codec) (.new ∅ (Channel.new 16))).Quiet →
      (events.foldl (PushRoom.step codec) (.new ∅ (Channel.new 16))).Coherent codec := by
  intro h
  have hQuiet : (after overtaken).Quiet := by
    refine ⟨rfl, fun call hCall => ?_, rfl⟩
    have hPushes : (after overtaken).pushes.map PushCall.stage = [.idle, .idle] := rfl
    have hStage := List.mem_map_of_mem (f := PushCall.stage) hCall
    rw [hPushes] at hStage
    simpa using hStage
  obtain ⟨configTable, now, -, hHash, hHashes⟩ := (h pushCodec overtaken hQuiet).hashes _ rfl
  rw [← hHashes] at hHash
  have hApart : (after overtaken).cp.currentHash ≠ (after overtaken).cp.currentHashes.config := by
    decide +kernel
  exact hApart hHash

end PushRoom

end KongRust.Cluster

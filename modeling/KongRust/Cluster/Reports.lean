import KongRust.Cluster.Convergence
import KongRust.Cluster.DataPlane

/-!
# What a data plane reports

The hash in a ping is the hash of the last configuration that the store accepted, as long as the
store accepts every configuration that reaches it. A rejected one is reported, cached on disk and
skipped when it comes again.
-/

namespace KongRust.Cluster

open Storage

/-- A configuration that reaches the store is one that the store accepts. -/
def DataPlane.Accepting (dp : DataPlane) (act : DpAct) : Prop :=
  act = .proceed → ∀ update, dp.stage = .loading update →
    dp.dblessStore ≠ none ∧ Acceptable update.config

/-- Every step of the run meets a condition on the state before it. -/
def DataPlane.Along (codec : Codec) (uuids : UuidLibrary) (cond : DataPlane → DpAct → Prop) :
    DataPlane → List DpAct → Prop
  | _, [] => True
  | dp, act :: acts =>
    cond dp act ∧ ∀ next ∈ dp.step codec uuids act, next.Along codec uuids cond acts

def DataPlane.served (dp : DataPlane) : String := dp.accepted.getD EMPTY_CONFIG_HASH

def DpStage.reported : DpStage → Option Update
  | .currentHashes update | .configReady update | .diskCache update | .loading update => some update
  | _ => none

/-- The reported hash is ahead of the store only while an update is under way. -/
def DataPlane.Honest (dp : DataPlane) : Prop :=
  dp.currentHash = (dp.stage.reported.map Update.hash).getD dp.served

structure DataPlane.Reporting (dp : DataPlane) : Prop where
  honest : dp.Honest
  pings : ∀ ping ∈ dp.pings, ping.hash = ping.served

section Reporting

variable {codec : Codec} {uuids : UuidLibrary} {dp dp' : DataPlane}

theorem DataPlane.load_accepted (uuids : UuidLibrary) {update : Update}
    (hStore : dp.dblessStore ≠ none) (hAcceptable : Acceptable update.config) :
    (dp.load uuids update).accepted = some update.hash ∧
      (dp.load uuids update).currentHash = dp.currentHash ∧
      (dp.load uuids update).pings = dp.pings := by
  obtain ⟨store, hStore⟩ := Option.ne_none_iff_exists'.mp hStore
  have hOk : (loadFromJson uuids update.config ⟨store, dp.drawn⟩).1 = .ok () :=
    loadFromJson_ok.mpr hAcceptable
  unfold load
  simp only [hStore]
  split
  · exact ⟨rfl, rfl, rfl⟩
  · next hError =>
    rw [hError] at hOk
    cases hOk

theorem DataPlane.receive_reported (codec : Codec) (dp : DataPlane) (data : Bytes) :
    (dp.receive codec data).reported = none := by
  unfold receive
  split
  · rfl
  · split <;> rfl

theorem startStage_reported (codec : Codec) (cached : Option (Json × String)) :
    (startStage codec cached).reported = none := by
  cases cached <;> rfl

theorem Update.next_reported (update : Update) : update.next.reported = none := by
  unfold next
  split <;> rfl

theorem DataPlane.Reporting.step {act : DpAct} (hStep : dp.step codec uuids act = some dp')
    (hAccepting : dp.Accepting act) (h : dp.Reporting) : dp'.Reporting := by
  have hHonest := h.honest
  unfold Honest at hHonest
  unfold DataPlane.step at hStep
  split at hStep
  -- A restart forgets the hash together with the store.
  case h_1 =>
    cases hStep
    exact ⟨rfl, h.pings⟩
  case h_2 readable hStage =>
    cases hStep
    rw [hStage] at hHonest
    refine ⟨?_, h.pings⟩
    unfold Honest
    rw [startStage_reported]
    exact hHonest
  case h_3 update hStage =>
    cases hStep
    exact ⟨rfl, h.pings⟩
  case h_7 update hStage =>
    cases hStep
    rw [hStage] at hHonest
    obtain ⟨hStore, hAcceptable⟩ := hAccepting rfl update hStage
    obtain ⟨hAccepted, hHash, hPings⟩ := load_accepted uuids hStore hAcceptable
    refine ⟨?_, fun ping hPing => h.pings ping (hPings ▸ hPing)⟩
    unfold Honest
    rw [Update.next_reported]
    change (dp.load uuids update).currentHash = (dp.load uuids update).accepted.getD _
    rw [hAccepted, hHash]
    exact hHonest
  case h_10 ok hStage =>
    cases hStep
    rw [hStage] at hHonest
    refine ⟨?_, h.pings⟩
    cases ok <;> exact hHonest
  case h_11 data hStage =>
    cases hStep
    rw [hStage] at hHonest
    refine ⟨?_, h.pings⟩
    unfold Honest
    rw [receive_reported]
    exact hHonest
  -- A ping reports the hash that was current when it was sent.
  case h_15 hStage =>
    cases hStep
    rw [hStage] at hHonest
    refine ⟨hHonest, fun ping hPing => ?_⟩
    rcases List.mem_append.mp hPing with hOld | hNew
    · exact h.pings ping hOld
    · rw [List.mem_singleton.mp hNew]
      exact hHonest
  case h_18 => cases hStep
  case h_9 =>
    cases hStep
    exact h
  case h_12 =>
    cases hStep
    exact h
  all_goals
    next hStage =>
      cases hStep
      rw [hStage] at hHonest
      exact ⟨hHonest, h.pings⟩

theorem DataPlane.Reporting.run : ∀ {acts : List DpAct} {dp dp' : DataPlane},
    dp.run codec uuids acts = some dp' → dp.Along codec uuids DataPlane.Accepting acts →
    dp.Reporting → dp'.Reporting
  | [], _, _, hRun, _, h => by
    cases hRun
    exact h
  | act :: acts, dp, dp', hRun, hAlong, h => by
    obtain ⟨next, hNext, hRest⟩ := Option.bind_eq_some_iff.mp hRun
    exact DataPlane.Reporting.run hRest (hAlong.2 next hNext) (h.step hNext hAlong.1)

theorem DataPlane.reporting_start (diskCache : Option String) (store : Option DblessStore) :
    (DataPlane.start diskCache store).Reporting where
  honest := rfl
  pings := by
    intro ping hPing
    cases hPing

end Reporting

theorem ControlPlane.updateDpStatus_normal {cp : ControlPlane} {id : Uuid} {configHash : String}
    {now : Int} {info : DataPlaneInfo}
    (h : (cp.updateDpStatus id configHash now).dataPlanes.lookup id = some info)
    (hNormal : info.syncStatus = .normal) : configHash = cp.currentHash := by
  unfold updateDpStatus at h
  split at h
  case h_1 hNone =>
    rw [hNone] at h
    cases h
  case h_2 dp hSome =>
    rw [AList.lookup_insert] at h
    cases h
    by_contra hOther
    simp [hOther] at hNormal

/-- **Honest reports.** In a run in which every configuration that reaches the store is one the
store accepts, whatever was delivered, cached and restarted: each ping has the hash of the
configuration that the store accepted last, or the empty hash, and a control plane that shows the
data plane as Normal for it has that hash. -/
theorem pings_report_served (codec : Codec) (uuids : UuidLibrary) (diskCache : Option String)
    (store : Option DblessStore) (acts : List DpAct) (dp : DataPlane)
    (hRun : (DataPlane.start diskCache store).run codec uuids acts = some dp)
    (hAccepting : (DataPlane.start diskCache store).Along codec uuids DataPlane.Accepting acts) :
    (∀ ping ∈ dp.pings, ping.hash = ping.served) ∧
      ∀ ping ∈ dp.pings, ∀ (cp : ControlPlane) (id : Uuid) (now : Int) (info : DataPlaneInfo),
        (cp.updateDpStatus id ping.hash now).dataPlanes.lookup id = some info →
        info.syncStatus = .normal → cp.currentHash = ping.served := by
  have hReporting : dp.Reporting :=
    DataPlane.Reporting.run hRun hAccepting (DataPlane.reporting_start diskCache store)
  refine ⟨hReporting.pings, fun ping hPing cp id now info hInfo hNormal => ?_⟩
  rw [← hReporting.pings ping hPing]
  exact (ControlPlane.updateDpStatus_normal hInfo hNormal).symm

/-- Two payloads: an empty configuration, and one of a version that no store supports. -/
def payloadCodec : Codec :=
  { sampleCodec with
    payloadFromSlice := fun data =>
      match data with
      | [1] => .ok ⟨"reconfigure", 1, .object [], "74be16979710d4c4e7c6647856088456", none⟩
      | [2] => .ok ⟨"reconfigure", 2, .object [("_format_version", .string "4.0")],
          "5b8a3d3f4d6c1a1b0f6a1e1c9d2f7a10", none⟩
      | _ => .error "EOF while parsing a value at line 1 column 0"
    valueToPretty := fun _ => .ok "cached" }

def sampleUuids : UuidLibrary := ⟨fun _ => none, fun n => BitVec.ofNat 128 n⟩

def deliveryRun (data : Bytes) : List DpAct :=
  [.loadCache true, .connect true, .flushed true, .receive data, .proceed, .proceed, .proceed,
    .save true "2025-01-01T00:00:00+00:00", .proceed, .flushed true]

theorem deliveryRun_accepting : (DataPlane.start none (some .new)).Along payloadCodec sampleUuids
    DataPlane.Accepting (deliveryRun [31, 139, 1]) := by
  have hAcceptable : Acceptable (.object []) := ⟨⟨[], rfl⟩, by simp [Json.get], by simp [Json.get]⟩
  unfold deliveryRun
  iterate 10
    refine ⟨fun hAct update hStage => ?_, fun next hNext => ?_⟩
    · first
        | cases hAct; done
        | cases hStage
          exact ⟨Option.some_ne_none _, hAcceptable⟩
        | cases hStage
    cases hNext
  trivial

theorem pings_report_served_sample : ∃ dp : DataPlane,
    (DataPlane.start none (some .new)).run payloadCodec sampleUuids (deliveryRun [31, 139, 1]) =
      some dp ∧ dp.pings.map Ping.hash = ["74be16979710d4c4e7c6647856088456"] ∧
      ∀ ping ∈ dp.pings, ping.hash = ping.served := by
  have hSome : ((DataPlane.start none (some .new)).run payloadCodec sampleUuids
      (deliveryRun [31, 139, 1])).isSome := rfl
  exact ⟨_, (Option.some_get hSome).symm, rfl, (pings_report_served payloadCodec sampleUuids none
    (some .new) _ _ (Option.some_get hSome).symm deliveryRun_accepting).1⟩

/-- A rejected configuration is reported and cached, and it is skipped when it comes again. -/
theorem rejected_payload_reported : ∃ dp : DataPlane,
    (DataPlane.start none (some .new)).run payloadCodec sampleUuids (deliveryRun [31, 139, 2]) =
      some dp ∧
      dp.pings = [⟨"5b8a3d3f4d6c1a1b0f6a1e1c9d2f7a10", EMPTY_CONFIG_HASH⟩] ∧
      dp.accepted = none ∧ dp.diskCache = some "cached" ∧
      dp.receive payloadCodec [31, 139, 2] = .looping := by
  have hSome : ((DataPlane.start none (some .new)).run payloadCodec sampleUuids
      (deliveryRun [31, 139, 2])).isSome := rfl
  exact ⟨_, (Option.some_get hSome).symm, rfl, rfl, rfl, rfl⟩

end KongRust.Cluster

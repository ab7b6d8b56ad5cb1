import KongRust.RateLimit.Orchestration

/-!
# What a request can rely on

One request admits and settles under its own request id. Of the store it needs to know only what
becomes of its own entry: an admission may enter a decision, a settlement may enter a charge
under a reservation that has none, and everything else leaves the entry as it is or forgets it.
The memory store is accountable in this sense, at any time and with any other calls in between.
-/

namespace KongRust.RateLimit.Orchestration

open KongRust.Remote

/-! ## Entries -/

def Grants (decision : AdmissionDecision) (token : ReservationEnvelope) : Prop :=
  ∃ snapshot replayed, decision = .allowed token snapshot replayed

/-- The decision on a command: a token that it gives out is for what the command asks. -/
def Answers (decision : AdmissionDecision) (command : AdmitCommand) : Prop :=
  ∀ token, Grants decision token → token.key = command.key ∧
    token.requestId = command.requestId ∧ token.reserved = command.reserve ∧
      token.limitsAtAdmission = command.limits

/-- What a settlement asks for. -/
structure Payload where
  operationId : String
  finalCharge : QuotaCharge
  deriving DecidableEq

def SettleCommand.payload (command : SettleCommand) : Payload :=
  ⟨command.operationId, command.finalCharge⟩

/-- What a store has on record for a request. -/
structure Entry where
  decision : AdmissionDecision
  settlement : Option Payload

def granted : AdmissionDecision → Option ReservationEnvelope
  | .allowed token _ _ => some token
  | .rejected .. => none

theorem granted_eq_some {decision : AdmissionDecision} {token : ReservationEnvelope} :
    granted decision = some token ↔ Grants decision token := by
  cases decision with
  | allowed given snapshot replayed | rejected reason snapshot replayed => simp [granted, Grants]

theorem SameDecision.grants {told recorded : AdmissionDecision} (h : SameDecision told recorded)
    {token : ReservationEnvelope} : Grants told token ↔ Grants recorded token := by
  rw [← granted_eq_some, ← granted_eq_some]
  have hGranted : ∀ decision : AdmissionDecision, granted decision = granted decision.asReplayed :=
    fun decision => by cases decision <;> rfl
  rw [hGranted told, hGranted recorded, show told.asReplayed = recorded.asReplayed from h]

def charged (token : ReservationEnvelope) (entry : Option Entry) : Option Payload :=
  entry.bind fun entry => if granted entry.decision = some token then entry.settlement else none

theorem charged_of_grants {token : ReservationEnvelope} {decision : AdmissionDecision}
    (h : Grants decision token) (settlement : Option Payload) :
    charged token (some ⟨decision, settlement⟩) = settlement := by
  simp [charged, granted_eq_some.mpr h]

@[simp] theorem charged_none (token : ReservationEnvelope) : charged token none = none := rfl

def Forgets (entry entry' : Option Entry) : Prop := entry' = entry ∨ entry' = none

theorem Forgets.refl (entry : Option Entry) : Forgets entry entry := .inl rfl

theorem Forgets.trans {a b c : Option Entry} (h : Forgets a b) (h' : Forgets b c) :
    Forgets a c := by
  rcases h' with rfl | rfl
  · exact h
  · exact .inr rfl

/-- What an admission may do to the entry of its request. If an entry was there, then it has been
dropped before a new one is entered. -/
inductive Admits (command : AdmitCommand) (entry : Option Entry) : Option Entry → Prop
  | forgets {entry' : Option Entry} (hForgets : Forgets entry entry') : Admits command entry entry'
  | enters {decision : AdmissionDecision} (hAnswers : Answers decision command) :
      Admits command entry (some ⟨decision, none⟩)

/-- What a settlement may do to the entry of its request. -/
inductive Settles (command : SettleCommand) (entry : Option Entry) : Option Entry → Prop
  | forgets {entry' : Option Entry} (hForgets : Forgets entry entry') : Settles command entry entry'
  | enters {decision : AdmissionDecision} (hEntry : entry = some ⟨decision, none⟩)
      (hGrants : Grants decision command.reservation) :
      Settles command entry (some ⟨decision, some (SettleCommand.payload command)⟩)

/-- The error for a settlement whose reservation has been settled otherwise. -/
def settlementConflict : RateLimitStoreError :=
  .corrupt "settlement idempotency payload conflict"

abbrev Entries (σ : Type) := RateLimitKey → String → σ → Option Entry

/-- A store that keeps account of its requests. -/
structure Accountable {σ : Type} (store : RateLimitStore σ) (entry : Entries σ) : Prop where
  admits : ∀ command s, Admits command (entry command.key command.requestId s)
    (entry command.key command.requestId (store.callAdmit command s).2)
  decision : ∀ command s told, (store.callAdmit command s).1 = .ok told → ∃ recorded,
    entry command.key command.requestId (store.callAdmit command s).2 = some recorded ∧
      SameDecision told recorded.decision
  settles : ∀ command s, Settles command
    (entry command.reservation.key command.reservation.requestId s)
    (entry command.reservation.key command.reservation.requestId (store.callSettle command s).2)
  settled : ∀ command s told, (store.callSettle command s).1 = .ok told →
    charged command.reservation (entry command.reservation.key command.reservation.requestId
      (store.callSettle command s).2) = some (SettleCommand.payload command)
  /-- A conflict is reported only about another settlement on record. -/
  conflict : ∀ command s, (store.callSettle command s).1 = .error settlementConflict →
    ∃ other, charged command.reservation
      (entry command.reservation.key command.reservation.requestId s) = some other ∧
        other ≠ SettleCommand.payload command
  inspects : ∀ query s key requestId,
    Forgets (entry key requestId s) (entry key requestId (store.callInspect query s).2)
  admission : ∀ key requestId s told,
    (store.callInspect (.admission key requestId) s).1 = .ok (.admission told) → ∃ recorded,
      entry key requestId (store.callInspect (.admission key requestId) s).2 = some recorded ∧
        SameDecision told recorded.decision
  settlement : ∀ reservation operationId s told,
    (store.callInspect (.settlement reservation operationId) s).1 = .ok (.settlement told) →
      ∃ charge, charged reservation (entry reservation.key reservation.requestId
        (store.callInspect (.settlement reservation operationId) s).2) =
          some ⟨operationId, charge⟩

def Leaves {σ : Type} (link : Link σ RateLimitStoreError) (entry : Entries σ)
    (requestId : String) : Prop :=
  ∀ n s key, Forgets (entry key requestId s) (entry key requestId (link.others n s))

/-! ## The client -/

/-- A settlement that reached the store. -/
structure Handling (σ : Type) where
  command : SettleCommand
  before : σ
  after : σ
  answer : Except RateLimitStoreError SettlementResult

/-- What the code of a request has to do with the store. -/
structure Wire (σ : Type) where
  session : Session σ
  /-- The settlements that the code asked for. -/
  sent : List SettleCommand
  /-- The settlements that the store has handled. -/
  handled : List (Handling σ)

section

variable {σ : Type} (store : RateLimitStore σ)

def handle (command : SettleCommand) (s : σ) : Handling σ where
  command := command
  before := s
  after := (store.callSettle command s).2
  answer := (store.callSettle command s).1

variable (link : Link σ RateLimitStoreError)

/-- The settlement that a message carries, if it reaches the store. -/
def arriving (command : SettleCommand) (session : Session σ) : List (Handling σ) :=
  if link.delivery session.sent = .requestLost then []
  else [handle store command (link.others session.sent session.state)]

def Wire.call {α : Type} (f : Exchange σ RateLimitStoreError α) :
    Exchange (Wire σ) RateLimitStoreError α := fun wire =>
  let result := link.call f wire.session
  (result.1, { wire with session := result.2 })

/-- The store as the code of a request sees it. -/
def client : RateLimitStore (Wire σ) where
  callAdmit command := Wire.call link (store.callAdmit command)
  callSettle command wire :=
    let result := link.call (store.callSettle command) wire.session
    (result.1, ⟨result.2, wire.sent ++ [command],
      wire.handled ++ arriving store link command wire.session⟩)
  callInspect query := Wire.call link (store.callInspect query)

/-- `admit_with_recovery`, of a request that waits for the answers of its client. -/
def Wire.admit (command : AdmitCommand) :
    Exchange (Wire σ) RateLimitStoreError AdmissionDecision := fun wire =>
  let result := admitWithRecovery (client store link) (.direct ⟨.unavailable, ""⟩) command ⟨wire, 0⟩
  (result.1, result.2.state)

/-- `settle_with_recovery`. -/
def Wire.settle (command : SettleCommand) :
    Exchange (Wire σ) RateLimitStoreError SettlementResult := fun wire =>
  let result := settleWithRecovery (client store link) (.direct ⟨.unavailable, ""⟩) command
    ⟨wire, 0⟩
  (result.1, result.2.state)

end

/-- The charge that the store has entered while it handled a settlement. -/
def Handling.enters {σ : Type} (entry : Entries σ) (token : ReservationEnvelope)
    (handling : Handling σ) : Option Payload :=
  match charged token (entry token.key token.requestId handling.before) with
  | some _ => none
  | none => charged token (entry token.key token.requestId handling.after)

def Wire.charges {σ : Type} (wire : Wire σ) (entry : Entries σ) (token : ReservationEnvelope) :
    List Payload :=
  wire.handled.filterMap (Handling.enters entry token)

/-! ## One settlement for a token

The requests of a token agree on one command. Then its charge is entered at most once, however
often the command is sent, and no settlement is refused because of another one. -/

section Settlement

variable {σ : Type} {store : RateLimitStore σ} {entry : Entries σ} {token : ReservationEnvelope}
  {pin : Option SettleCommand}

/-- Either no charge has been entered, or that of the pinned command, once; then it is still on
record unless it was forgotten. -/
def Accounted (entry : Entries σ) (token : ReservationEnvelope) (pin : Option SettleCommand)
    (charges : List Payload) (s : σ) : Prop :=
  (charges = [] ∧ charged token (entry token.key token.requestId s) = none) ∨
    ∃ command, pin = some command ∧ charges = [SettleCommand.payload command] ∧
      (charged token (entry token.key token.requestId s) = some (SettleCommand.payload command) ∨
        entry token.key token.requestId s = none)

variable {charges : List Payload} {s : σ} {command : SettleCommand} {wire : Wire σ}

theorem Accounted.forgets {s' : σ} (h : Accounted entry token pin charges s)
    (hForgets : Forgets (entry token.key token.requestId s) (entry token.key token.requestId s')) :
    Accounted entry token pin charges s' := by
  rcases hForgets with hSame | hNone
  · unfold Accounted
    rw [hSame]
    exact h
  · rcases h with ⟨hEmpty, _⟩ | ⟨command, hPin, hCharges, _⟩
    · exact .inl ⟨hEmpty, by rw [hNone, charged_none]⟩
    · exact .inr ⟨command, hPin, hCharges, .inr hNone⟩

theorem Accounted.of_charged {payload : Payload} (h : Accounted entry token pin charges s)
    (hCharged : charged token (entry token.key token.requestId s) = some payload) :
    charges = [payload] ∧ ∃ command, pin = some command ∧ payload = SettleCommand.payload command := by
  rcases h with ⟨_, hNone⟩ | ⟨command, hPin, hCharges, hRecorded | hForgotten⟩
  · rw [hNone] at hCharged
    cases hCharged
  · obtain rfl := Option.mem_unique hCharged hRecorded
    exact ⟨hCharges, command, hPin, rfl⟩
  · rw [hForgotten, charged_none] at hCharged
    cases hCharged

theorem charged_of_settles {command : SettleCommand} {before after : Option Entry}
    (h : Settles command before after) :
    Forgets before after ∨ charged command.reservation before = none ∧ before ≠ none ∧
      charged command.reservation after = some (SettleCommand.payload command) := by
  cases h with
  | forgets hForgets => exact .inl hForgets
  | enters hEntry hGrants =>
    subst hEntry
    exact .inr ⟨charged_of_grants hGrants _, by simp, charged_of_grants hGrants _⟩

theorem Handling.enters_of_forgets {handling : Handling σ}
    (h : Forgets (entry token.key token.requestId handling.before)
      (entry token.key token.requestId handling.after)) :
    handling.enters entry token = none := by
  unfold Handling.enters
  cases hBefore : charged token (entry token.key token.requestId handling.before) with
  | some payload => rfl
  | none =>
    rcases h with hSame | hNone
    · rw [hSame]
      exact hBefore
    · rw [hNone]
      rfl

theorem Accounted.handle (hStore : Accountable store entry)
    (h : Accounted entry command.reservation pin charges s) (hPin : pin = some command) :
    let handling := handle store command s
    Accounted entry command.reservation pin
        (charges ++ (handling.enters entry command.reservation).toList) handling.after ∧
      handling.answer ≠ .error settlementConflict := by
  intro handling
  have hEffect := charged_of_settles (hStore.settles command s)
  have hConflict := hStore.conflict command s
  constructor
  · rcases hEffect with hForgets | ⟨hOpen, hThere, hCharged⟩
    · rw [Handling.enters_of_forgets hForgets, Option.toList_none, List.append_nil]
      exact h.forgets hForgets
    · have hEnters : handling.enters entry command.reservation =
          some (SettleCommand.payload command) := by
        unfold Handling.enters
        rw [show charged command.reservation (entry command.reservation.key
          command.reservation.requestId handling.before) = none from hOpen]
        exact hCharged
      rw [hEnters]
      rcases h with ⟨hEmpty, _⟩ | ⟨other, hOther, _, hRecorded | hForgotten⟩
      · exact .inr ⟨command, hPin, by rw [hEmpty]; rfl, .inl hCharged⟩
      · rw [hOpen] at hRecorded
        cases hRecorded
      · exact absurd hForgotten hThere
  · intro hAnswer
    obtain ⟨other, hOther, hDiffers⟩ := hConflict hAnswer
    obtain ⟨_, pinned, hPinned, rfl⟩ := h.of_charged hOther
    obtain rfl := Option.mem_unique hPin hPinned
    exact hDiffers rfl

/-- The dealings with the store over one token. -/
structure Wire.Agrees (entry : Entries σ) (token : ReservationEnvelope)
    (pin : Option SettleCommand) (wire : Wire σ) : Prop where
  sent : ∀ command ∈ wire.sent, pin = some command
  accounted : Accounted entry token pin (wire.charges entry token) wire.session.state
  unopposed : ∀ handling ∈ wire.handled, handling.answer ≠ .error settlementConflict

theorem Wire.Agrees.charges_le (h : Wire.Agrees entry token pin wire) :
    (wire.charges entry token).length ≤ 1 := by
  rcases h.accounted with ⟨hEmpty, _⟩ | ⟨command, _, hCharges, _⟩
  · rw [hEmpty]
    exact Nat.zero_le 1
  · rw [hCharges]
    exact Nat.le_refl 1

theorem Wire.charges_append (wire : Wire σ) (session : Session σ) (sent : List SettleCommand)
    (handling : Handling σ) :
    (Wire.mk session sent (wire.handled ++ [handling])).charges entry token =
      wire.charges entry token ++ (handling.enters entry token).toList := by
  rw [Wire.charges, List.filterMap_append]
  cases hEnters : handling.enters entry token with
  | none | some payload => simp [Wire.charges, hEnters]

theorem Wire.Agrees.forgets (h : Wire.Agrees entry token pin wire)
    {session : Session σ} (hForgets : Forgets (entry token.key token.requestId wire.session.state)
      (entry token.key token.requestId session.state)) :
    Wire.Agrees entry token pin { wire with session := session } :=
  ⟨h.sent, h.accounted.forgets hForgets, h.unopposed⟩

theorem Wire.Agrees.handle (hStore : Accountable store entry) (hPin : pin = some command)
    (hSent : ∀ other ∈ wire.sent, pin = some other)
    (hAccounted : Accounted entry command.reservation pin
      (wire.charges entry command.reservation) s)
    (hUnopposed : ∀ handling ∈ wire.handled, handling.answer ≠ .error settlementConflict)
    (sent : Nat) :
    Wire.Agrees entry command.reservation pin
      ⟨⟨(store.callSettle command s).2, sent⟩, wire.sent ++ [command],
        wire.handled ++ [Orchestration.handle store command s]⟩ := by
  obtain ⟨hAfter, hAnswer⟩ := hAccounted.handle hStore hPin
  refine ⟨fun other hOther => ?_, ?_, fun handling hHandling => ?_⟩
  · rcases List.mem_append.mp hOther with hOld | hNew
    · exact hSent other hOld
    · rw [List.mem_singleton.mp hNew]
      exact hPin
  · rw [Wire.charges_append]
    exact hAfter
  · rcases List.mem_append.mp hHandling with hOld | hNew
    · exact hUnopposed handling hOld
    · rw [List.mem_singleton.mp hNew]
      exact hAnswer

variable {link : Link σ RateLimitStoreError}

def Recorded (entry : Entries σ) (token : ReservationEnvelope) (s : σ) : Prop :=
  ∃ payload, charged token (entry token.key token.requestId s) = some payload

theorem client_settle_ensures (hStore : Accountable store entry) {command : SettleCommand}
    (hLink : Leaves link entry command.reservation.requestId) (hPin : pin = some command) :
    Ensures (Wire.Agrees entry command.reservation pin)
      (fun _ wire => Recorded entry command.reservation wire.session.state)
      ((client store link).callSettle command) := by
  intro wire h
  have hBefore := h.accounted.forgets (hLink wire.session.sent wire.session.state _)
  have hHandled := Wire.Agrees.handle hStore hPin h.sent hBefore h.unopposed (wire.session.sent + 1)
  have hSettled := hStore.settled command (link.others wire.session.sent wire.session.state)
  unfold client Link.call arriving
  dsimp only
  cases hDelivery : link.delivery wire.session.sent with
  | delivered => exact ⟨hHandled, fun told hTold => ⟨_, hSettled told hTold⟩⟩
  | answerLost => exact ⟨hHandled, fun _ hAnswer => by cases hAnswer⟩
  | requestLost =>
    refine ⟨⟨fun other hOther => ?_, ?_, ?_⟩, fun _ hAnswer => by cases hAnswer⟩
    · rcases List.mem_append.mp hOther with hOld | hNew
      · exact h.sent other hOld
      · rw [List.mem_singleton.mp hNew]
        exact hPin
    · rw [if_pos rfl, List.append_nil]
      exact hBefore
    · rw [if_pos rfl, List.append_nil]
      exact h.unopposed

theorem Wire.call_ensures {α : Type} {f : Exchange σ RateLimitStoreError α}
    (answered : α → σ → Prop) (hLink : Leaves link entry token.requestId)
    (hForgets : ∀ s, Forgets (entry token.key token.requestId s)
      (entry token.key token.requestId (f s).2))
    (hAnswered : ∀ s a, (f s).1 = .ok a → answered a (f s).2) :
    Ensures (Wire.Agrees entry token pin) (fun a wire => answered a wire.session.state)
      (Wire.call link f) := by
  intro wire h
  have hBefore := hLink wire.session.sent wire.session.state token.key
  have hAfter := hBefore.trans (hForgets (link.others wire.session.sent wire.session.state))
  have hAnswer := hAnswered (link.others wire.session.sent wire.session.state)
  unfold Wire.call Link.call
  dsimp only
  cases link.delivery wire.session.sent with
  | delivered => exact ⟨h.forgets hAfter, hAnswer⟩
  | answerLost => exact ⟨h.forgets hAfter, fun _ hOk => by cases hOk⟩
  | requestLost => exact ⟨h.forgets hBefore, fun _ hOk => by cases hOk⟩

theorem client_inspectSettlement_ensures (hStore : Accountable store entry)
    {command : SettleCommand} (hLink : Leaves link entry command.reservation.requestId)
    (lost : RateLimitStoreError) :
    Ensures (fun session => Wire.Agrees entry command.reservation pin session.state)
      (found fun _ session => Recorded entry command.reservation session.state.session.state)
      (inspectSettlement (client store link) (.direct lost) command) := by
  have hTold : ∀ s answer, (store.callInspect
      (.settlement command.reservation command.operationId) s).1 = .ok answer →
      ∀ told, answer = .settlement told → Recorded entry command.reservation
        (store.callInspect (.settlement command.reservation command.operationId) s).2 := by
    rintro s answer hAnswer told rfl
    obtain ⟨charge, hCharge⟩ := hStore.settlement _ _ s told hAnswer
    exact ⟨_, hCharge⟩
  have hAsked : Ensures (Wire.Agrees entry command.reservation pin)
      (fun answer wire => ∀ told, answer = .settlement told →
        Recorded entry command.reservation wire.session.state)
      ((client store link).callInspect (.settlement command.reservation command.operationId)) :=
    Wire.call_ensures (fun answer s => ∀ told, answer = .settlement told →
      Recorded entry command.reservation s) hLink (fun s => hStore.inspects _ s _ _) hTold
  refine (hAsked.direct lost).read fun answer told session hAnswer hRead => ?_
  cases answer with
  | settlement result => exact hAnswer result rfl
  | notFound | current snapshot | admission decision => cases hRead

theorem Wire.settle_ensures (hStore : Accountable store entry)
    (hLink : Leaves link entry command.reservation.requestId) (hPin : pin = some command) :
    Ensures (Wire.Agrees entry command.reservation pin)
      (fun _ wire => wire.charges entry command.reservation = [SettleCommand.payload command])
      (Wire.settle store link command) := by
  have hRecovery : Ensures _ _
      (settleWithRecovery (client store link) (.direct ⟨.unavailable, ""⟩) command) :=
    withRecovery_ensures ((client_settle_ensures hStore hLink hPin).direct _)
      (client_inspectSettlement_ensures hStore hLink _)
  intro wire hWire
  obtain ⟨hAfter, hAnswered⟩ := hRecovery ⟨wire, 0⟩ hWire
  refine ⟨hAfter, fun told hTold => ?_⟩
  obtain ⟨payload, hRecorded⟩ := hAnswered told hTold
  obtain ⟨hCharges, pinned, hPinned, rfl⟩ := hAfter.accounted.of_charged hRecorded
  obtain rfl := Option.mem_unique hPin hPinned
  exact hCharges

end Settlement

/-! ## The admission -/

section Admission

variable {σ : Type} {store : RateLimitStore σ} {entry : Entries σ} {command : AdmitCommand}
  {link : Link σ RateLimitStoreError}

/-- The entry of the request, if any, is a decision on the command. -/
def Asked (command : AdmitCommand) (found : Option Entry) : Prop :=
  ∀ recorded, found = some recorded →
    recorded.settlement = none ∧ Answers recorded.decision command

theorem Asked.forgets {found found' : Option Entry} (h : Asked command found)
    (hForgets : Forgets found found') : Asked command found' := by
  rcases hForgets with rfl | rfl
  · exact h
  · exact fun recorded hRecorded => by cases hRecorded

theorem Asked.admits {found found' : Option Entry} (h : Asked command found)
    (hAdmits : Admits command found found') : Asked command found' := by
  cases hAdmits with
  | forgets hForgets => exact h.forgets hForgets
  | enters hAnswers =>
    intro recorded hRecorded
    obtain rfl := Option.some.inj hRecorded
    exact ⟨rfl, hAnswers⟩

/-- The dealings with the store while the request is admitted. -/
structure Wire.Admitting (entry : Entries σ) (command : AdmitCommand) (wire : Wire σ) : Prop where
  sent : wire.sent = []
  handled : wire.handled = []
  asked : Asked command (entry command.key command.requestId wire.session.state)

def Decided (entry : Entries σ) (command : AdmitCommand) (told : AdmissionDecision) (s : σ) :
    Prop :=
  ∃ recorded, entry command.key command.requestId s = some recorded ∧
    SameDecision told recorded.decision

theorem Wire.call_admitting {α : Type} {f : Exchange σ RateLimitStoreError α}
    (answered : α → σ → Prop) (hLink : Leaves link entry command.requestId)
    (hAdmits : ∀ s, Admits command (entry command.key command.requestId s)
      (entry command.key command.requestId (f s).2))
    (hAnswered : ∀ s a, (f s).1 = .ok a → answered a (f s).2) :
    Ensures (Wire.Admitting entry command) (fun a wire => answered a wire.session.state)
      (Wire.call link f) := by
  intro wire h
  have hBefore := h.asked.forgets (hLink wire.session.sent wire.session.state command.key)
  have hAfter := hBefore.admits (hAdmits (link.others wire.session.sent wire.session.state))
  have hAnswer := hAnswered (link.others wire.session.sent wire.session.state)
  unfold Wire.call Link.call
  dsimp only
  cases link.delivery wire.session.sent with
  | delivered => exact ⟨⟨h.sent, h.handled, hAfter⟩, hAnswer⟩
  | answerLost => exact ⟨⟨h.sent, h.handled, hAfter⟩, fun _ hOk => by cases hOk⟩
  | requestLost => exact ⟨⟨h.sent, h.handled, hBefore⟩, fun _ hOk => by cases hOk⟩

theorem client_inspectAdmission_ensures (hStore : Accountable store entry)
    (hLink : Leaves link entry command.requestId) (lost : RateLimitStoreError) :
    Ensures (fun session => Wire.Admitting entry command session.state)
      (found fun told session => Decided entry command told session.state.session.state)
      (inspectAdmission (client store link) (.direct lost) command) := by
  have hTold : ∀ s answer,
      (store.callInspect (.admission command.key command.requestId) s).1 = .ok answer →
      ∀ told, answer = .admission told → Decided entry command told
        (store.callInspect (.admission command.key command.requestId) s).2 := by
    rintro s answer hAnswer told rfl
    exact hStore.admission _ _ s told hAnswer
  have hAsked : Ensures (Wire.Admitting entry command)
      (fun answer wire => ∀ told, answer = .admission told →
        Decided entry command told wire.session.state)
      ((client store link).callInspect (.admission command.key command.requestId)) :=
    Wire.call_admitting (fun answer s => ∀ told, answer = .admission told →
      Decided entry command told s) hLink (fun s => .forgets (hStore.inspects _ s _ _)) hTold
  refine (hAsked.direct lost).read fun answer told session hAnswer hRead => ?_
  cases answer with
  | admission decision =>
    cases hRead
    exact hAnswer told rfl
  | notFound | current snapshot | settlement result => cases hRead

theorem Wire.admit_ensures (hStore : Accountable store entry)
    (hLink : Leaves link entry command.requestId) :
    Ensures (Wire.Admitting entry command) (fun told wire => ∃ decision,
        entry command.key command.requestId wire.session.state = some ⟨decision, none⟩ ∧
          SameDecision told decision ∧ Answers decision command)
      ( Wire.admit store link command) := by
  have hAttempt : Ensures (Wire.Admitting entry command)
      (fun told wire => Decided entry command told wire.session.state)
      ((client store link).callAdmit command) :=
    Wire.call_admitting (Decided entry command) hLink (hStore.admits command)
      (hStore.decision command)
  have hRecovery : Ensures _ _
      (admitWithRecovery (client store link) (.direct ⟨.unavailable, ""⟩) command) :=
    withRecovery_ensures (hAttempt.direct _) (client_inspectAdmission_ensures hStore hLink _)
  intro wire hWire
  obtain ⟨hAfter, hAnswered⟩ := hRecovery ⟨wire, 0⟩ hWire
  refine ⟨hAfter, fun told hTold => ?_⟩
  obtain ⟨⟨decision, settlement⟩, hRecorded, hSame⟩ := hAnswered told hTold
  obtain ⟨hOpen, hAnswers⟩ := hAfter.asked _ hRecorded
  obtain rfl : settlement = none := hOpen
  exact ⟨decision, hRecorded, hSame, hAnswers⟩

end Admission

end KongRust.RateLimit.Orchestration

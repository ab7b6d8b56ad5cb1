import KongRust.Admin.Refresher

/-!
# The proxy converges to the store

When nothing is going on any more, the proxy has the rows of the store, provided that no table has
more rows than one page, that no service, route or consumer with plugins is deleted without a
refresh of the plugins on its way, that the plugin of a service, a route or a consumer is deleted
while the signal sent before is still on its way, and that a configuration loads and, coming from
a control plane, leaves the CA certificates as they are.
-/

namespace KongRust.Admin

open Storage (KongError UuidLibrary)
open Refresh (Program)

/-! ## The condition -/

def EntityType.proxied (type : EntityType) : Prop := ∃ signal : EntityType, type ∈ signal.pages

abbrev System.Awaits (mode : Mode) (sys : System) (type : EntityType) : Prop :=
  Refresh.System.Awaits (setting mode) sys type

/-- No plugin goes with the rows, or the plugins are going to be refreshed. -/
def System.Detached (mode : Mode) (sys : System) (type : EntityType) (pk : PrimaryKey) : Prop :=
  (∀ row ∈ sys.store .plugins, ∀ id ∈ matching sys.store type pk, row.references type id = false) ∨
    sys.Awaits mode .plugins

/-- The call is none of those after which a signal is missing. -/
def Call.Meets (mode : Mode) (sys : System) (request : Request) (call : Call) : Prop :=
  match call with
  | .delete type pk =>
    (.plugins ∈ type.cascades → sys.Detached mode type pk) ∧
      ∀ scope owner plugin, request = .deleteScopedPlugin scope owner plugin →
        sys.Awaits mode .plugins
  | .loadFromJson config drawn =>
    Storage.Acceptable config ∧
      ((∃ posted times, request = .postConfig posted times) ∨
        (mode.run (.loadFromJson config drawn) sys.store).2 .caCertificates =
          sys.store .caCertificates ∨ sys.Awaits mode .caCertificates)
  | _ => True

/-- The calls of a step meet their condition, and a table that the refresher reads has no more
rows than a page. -/
def System.Meets (mode : Mode) (sys : System) (act : Act) : Prop :=
  match act with
  | .advance i none => ∀ request call next, sys.running[i]? = some (request, .write call next) →
    call.Meets mode sys request
  | .refresh false => ∀ signal type rest pages todo,
    sys.refresher = .reading signal (type :: rest) pages todo →
      (sys.store type).length ≤ ALL_PARAMS_SIZE
  | _ => True

/-! ## What the handlers signal -/

abbrev Signals (mode : Mode) (type : EntityType) (handler : Handler) : Prop :=
  Program.Promises (setting mode) type handler

/-- A call that has succeeded is followed by signals for the tables that the proxy has of it, but
for the exceptions: plugins that go with another row, the plugin of another entity, and the CA
certificates of a control plane. -/
def Signalled (mode : Mode) (request : Request) (call : Call)
    (next : Except KongError Unit → Handler) : Prop :=
  match call with
  | .insert type _ => type.proxied → Signals mode type (next (.ok ()))
  | .update type _ _ => type.proxied → Signals mode type (next (.ok ()))
  | .upsert type _ _ => type.proxied → Signals mode type (next (.ok ()))
  | .delete type _ =>
    ((∀ scope owner plugin, request ≠ .deleteScopedPlugin scope owner plugin) ∨ type ≠ .plugins →
      type.proxied → Signals mode type (next (.ok ()))) ∧
    ∀ child ∈ type.cascades, child ≠ .plugins → child.proxied →
      Signals mode child (next (.ok ()))
  | .loadFromJson _ _ => ∀ type : EntityType, type.proxied →
    (type = .caCertificates → ∃ config drawn, request = .postConfig config drawn) →
      Signals mode type (next (.ok ()))

section Handlers

variable {mode : Mode} {request : Request}

variable {type : EntityType} {pk owner plugin upstream : PrimaryKey} {body : Body}
  {scope : PluginScope}

theorem proxied_iff : type.proxied ↔ type ∈ type.pages := by
  constructor
  · rintro ⟨signal, h⟩
    cases signal <;> cases type <;> first
      | exact h
      | decide
      | exact absurd h (by decide)
  · exact fun h => ⟨type, h⟩

theorem signals_notify (h : type.proxied) : Signals mode type (notify type) :=
  .inl (proxied_iff.mp h)

theorem signals_sendName (h : type.proxied) :
    Signals mode type (sendName type true) := by
  have hName : entityName type = some type := by
    rw [proxied_iff] at h
    cases type <;> first
      | rfl
      | exact absurd h (by decide)
  unfold sendName
  rw [hName]
  exact signals_notify h

theorem all_notify : (notify type).All (Signalled mode request) := trivial

variable {success : Bool} {serviceName : Option String} {certificate : Uuid} {names : List SniName}
  {target : PrimaryKey}

theorem all_notifyOn : (notifyOn type success).All (Signalled mode request) := by
  cases success <;> trivial

theorem all_sendName {type : EntityType} {success : Bool} :
    (sendName type success).All (Signalled mode request) := by
  unfold sendName
  cases entityName type with
  | none => trivial
  | some name => exact all_notifyOn

variable {next : Bool → Handler}

section

variable {type : EntityType} {body : Body}
  (hSignals : type.proxied → ∀ row, body = some row → Signals mode type (next true))
include hSignals

theorem all_doCreate (hNext : ∀ created, (next created).All (Signalled mode request)) :
    (doCreate type body next).All (Signalled mode request) := by
  cases body with
  | none => exact hNext false
  | some row => exact ⟨fun hType => hSignals hType row rfl, fun answer => hNext answer.isOk⟩

theorem all_doUpsert {pk : PrimaryKey}
    (hNext : ∀ upserted, (next upserted).All (Signalled mode request)) :
    (doUpsert type pk body next).All (Signalled mode request) := by
  cases body with
  | none => exact hNext false
  | some row => exact ⟨fun hType => hSignals hType row rfl, fun answer => hNext answer.isOk⟩

end

variable {patch : Patch}

theorem all_doUpdate {type : EntityType} {pk : PrimaryKey}
    (hSignals : type.proxied → Signals mode type (next true))
    (hNext : ∀ updated, (next updated).All (Signalled mode request)) :
    (doUpdate type pk patch next).All (Signalled mode request) := by
  unfold doUpdate
  intro answer
  cases answer with
  | none =>
    dsimp only
    cases patch.unmerged with
    | none => exact hNext false
    | some set => exact ⟨hSignals, fun answer => hNext answer.isOk⟩
  | some store =>
    dsimp only
    cases (select store type pk).map patch.merged with
    | none => exact hNext false
    | some merged =>
      cases merged with
      | none => exact hNext false
      | some row => exact ⟨hSignals, fun answer => hNext answer.isOk⟩

theorem all_doDelete {next : Handler} (hSignals : type.proxied → Signals mode type next)
    (hCascades : ∀ child ∈ type.cascades, child ≠ .plugins → child.proxied →
      Signals mode child next)
    (hNext : next.All (Signalled mode request)) :
    (doDelete type pk next).All (Signalled mode request) :=
  ⟨⟨fun _ => hSignals, hCascades⟩, fun _ => hNext⟩

theorem all_ite {test : Bool} {yes no : Handler} (hYes : yes.All (Signalled mode request))
    (hNo : no.All (Signalled mode request)) :
    (if test then yes else no).All (Signalled mode request) := by
  cases test with
  | false => exact hNo
  | true => exact hYes

theorem signals_insert {type other : EntityType} {row : Row}
    {next : Except KongError Unit → Handler} (h : Signals mode type (next (.ok ()))) :
    Signals mode type (.write (.insert other row) next) := by
  intro store hFails
  cases mode with
  | postgres => exact h
  | dbless uuids decode => cases hFails

/-! Routes and their services. -/

theorem all_notifyOn_doCreate : (doCreate type body (notifyOn type)).All (Signalled mode request) :=
  all_doCreate (fun hType _ _ => signals_notify hType) fun _ => all_notifyOn

theorem all_resolveServiceNameRef {serviceName : Option String} {body : Body}
    {next : Body → Handler} (hNext : ∀ body, (next body).All (Signalled mode request)) :
    (resolveServiceNameRef serviceName body next).All (Signalled mode request) := by
  cases serviceName with
  | none => exact hNext body
  | some name =>
    intro answer
    dsimp only
    cases answer.bind fun store => select store .services (.endpointKey name) with
    | none => trivial
    | some service => exact hNext _

theorem all_createRoute : (createRoute serviceName body).All (Signalled mode request) :=
  all_resolveServiceNameRef fun _ => all_notifyOn_doCreate

theorem all_upsertRoute : (upsertRoute serviceName pk body).All (Signalled mode request) :=
  all_resolveServiceNameRef fun _ =>
    all_doUpsert (fun hType _ _ => signals_notify hType) fun _ => all_notifyOn

theorem all_createNestedRoute {service : PrimaryKey} {body : Body} :
    (createNestedRoute service body).All (Signalled mode request) := by
  intro answer
  dsimp only
  cases answer.bind fun store => select store .services service with
  | none => trivial
  | some owner => exact all_notifyOn_doCreate

variable {route : PrimaryKey}

theorem all_updateRouteService : (updateRouteService route patch).All (Signalled mode request) := by
  intro answer
  dsimp only
  cases (answer.bind fun store => select store .routes route).bind Row.service with
  | none => trivial
  | some service => exact all_doUpdate signals_notify fun _ => all_notify

theorem all_upsertRouteService {body : Body} {link : Uuid → Patch} :
    (upsertRouteService route body link).All (Signalled mode request) := by
  intro answer
  dsimp only
  cases answer.bind fun store => select store .routes route with
  | none => trivial
  | some row =>
    dsimp only
    cases row.service with
    | some service => exact all_doUpsert (fun hType _ _ => signals_notify hType) fun _ => all_notify
    | none =>
      refine all_doCreate (fun _ _ _ => .inl List.mem_cons_self) fun created => ?_
      cases created with
      | false => trivial
      | true =>
        cases body with
        | none => trivial
        | some service => exact all_doUpdate signals_notify fun _ => all_notify

/-! Certificates and SNIs. -/

theorem signals_notifyCertificates
    (h : type = .certificates ∨ type = .snis) : Signals mode type notifyCertificates := by
  rcases h with rfl | rfl
  · exact .inl List.mem_cons_self
  · exact .inl (List.mem_cons_of_mem _ List.mem_cons_self)

theorem signals_createSnisForCert {type : EntityType} {certificate : Uuid} {next : Bool → Handler}
    (h : Signals mode type (next true)) : ∀ {names : List SniName},
      Signals mode type (createSnisForCert certificate names next)
  | [] => h
  | _ :: _ => signals_insert (signals_createSnisForCert h)

theorem all_createSnisForCert {certificate : Uuid} {next : Bool → Handler}
    (hSignals : Signals mode .snis (next true))
    (hNext : ∀ created, (next created).All (Signalled mode request)) : ∀ {names : List SniName},
      (createSnisForCert certificate names next).All (Signalled mode request)
  | [] => hNext true
  | _ :: _ => by
    refine ⟨fun _ => signals_createSnisForCert hSignals, fun answer => ?_⟩
    cases answer with
    | error e => exact hNext false
    | ok _ => exact all_createSnisForCert hSignals hNext

theorem signals_deleteSnis {type : EntityType} {next : Handler} (h : Signals mode type next) :
    ∀ {names : List String}, Signals mode type (deleteSnis names next)
  | [] => h
  | _ :: _ => fun _ _ => signals_deleteSnis h

theorem all_deleteSnis {next : Handler} (hSignals : Signals mode .snis next)
    (hNext : next.All (Signalled mode request)) : ∀ {names : List String},
      (deleteSnis names next).All (Signalled mode request)
  | [] => hNext
  | _ :: _ => ⟨⟨fun _ _ => signals_deleteSnis hSignals, fun _ hMem => nomatch hMem⟩,
      fun _ => all_deleteSnis hSignals hNext⟩

theorem all_notifyCertificatesOn : (notifyCertificatesOn success).All (Signalled mode request) := by
  cases success <;> trivial

theorem signals_replaceSnisForCert (h : type = .certificates ∨ type = .snis) :
    Signals mode type (replaceSnisForCert certificate names notifyCertificatesOn) := fun _ =>
  signals_deleteSnis (signals_createSnisForCert (signals_notifyCertificates h))

theorem all_replaceSnisForCert :
    (replaceSnisForCert certificate names notifyCertificatesOn).All (Signalled mode request) :=
  fun _ => all_deleteSnis (signals_createSnisForCert (signals_notifyCertificates (.inr rfl)))
    (all_createSnisForCert (signals_notifyCertificates (.inr rfl)) fun _ =>
      all_notifyCertificatesOn)

theorem all_resolveCertIdOrName {pk : PrimaryKey} {next : Option Uuid → Handler}
    (hNext : ∀ resolved, (next resolved).All (Signalled mode request)) :
    (resolveCertIdOrName pk next).All (Signalled mode request) := by
  cases pk with
  | id uuid => exact hNext _
  | endpointKey name => exact fun _ => hNext _

theorem all_validateNamesIfAny {names : Option (List SniName)} {exclude : Option Uuid}
    (hNext : ∀ valid, (next valid).All (Signalled mode request)) :
    (validateNamesIfAny names exclude next).All (Signalled mode request) := by
  cases names with
  | none => exact hNext true
  | some names =>
    show (validateSniNamesForCreate names exclude next).All (Signalled mode request)
    unfold validateSniNamesForCreate
    by_cases hNodup : (names.map Prod.snd).Nodup
    · rw [if_pos hNodup]
      exact fun _ => hNext _
    · rw [if_neg hNodup]
      exact hNext false

theorem all_createCertificate {names : Option (List SniName)} :
    (createCertificate body names).All (Signalled mode request) := by
  refine all_validateNamesIfAny fun valid => all_ite trivial ?_
  refine all_doCreate (fun _ row hBody => ?_) fun created => ?_
  · subst hBody
    exact signals_createSnisForCert (signals_notifyCertificates (.inl rfl))
  · cases created with
    | false => trivial
    | true =>
      cases body with
      | none => trivial
      | some row =>
        exact all_createSnisForCert (signals_notifyCertificates (.inr rfl))
          fun _ => all_notifyCertificatesOn

theorem all_updateCertificate {pk : PrimaryKey} {names : Option (List SniName)} :
    (updateCertificate pk patch names).All (Signalled mode request) := by
  refine all_resolveCertIdOrName fun resolved => ?_
  cases resolved with
  | none => trivial
  | some certificate =>
    refine all_validateNamesIfAny fun valid => all_ite trivial ?_
    refine all_doUpdate (fun _ => ?_) fun updated => ?_
    · cases names with
      | none => exact signals_notifyCertificates (.inl rfl)
      | some names => exact signals_replaceSnisForCert (.inl rfl)
    · cases updated with
      | false => trivial
      | true =>
        cases names with
        | none => trivial
        | some names => exact all_replaceSnisForCert

theorem all_upsertCertificate {drawn : Uuid} {names : Option (List SniName)} :
    (upsertCertificate pk drawn body names).All (Signalled mode request) := by
  refine all_resolveCertIdOrName fun resolved => ?_
  refine all_doUpsert (fun _ row hBody => ?_) fun upserted => ?_
  · rw [hBody]
    exact signals_replaceSnisForCert (.inl rfl)
  · cases upserted with
    | false => trivial
    | true =>
      cases body with
      | none => trivial
      | some row => exact all_replaceSnisForCert

theorem all_deleteCertificate {pk : PrimaryKey} :
    (deleteCertificate pk).All (Signalled mode request) := by
  have hDelete : ∀ key, (doDelete .certificates key notifyCertificates).All
      (Signalled mode request) := fun key =>
    all_doDelete (fun _ => signals_notifyCertificates (.inl rfl))
      (fun child hMem _ _ => signals_notifyCertificates (.inr (List.mem_singleton.mp hMem))) trivial
  have hSignals : ∀ key, Signals mode .snis (doDelete .certificates key notifyCertificates) :=
    fun _ _ _ => signals_notifyCertificates (.inr rfl)
  refine all_resolveCertIdOrName fun resolved => ?_
  cases resolved with
  | none => exact hDelete pk
  | some certificate =>
    -- The SNIs go first; the signals come after the certificate.
    exact fun _ => all_deleteSnis (hSignals _) (hDelete _)

theorem all_createCertificateSni {pk : PrimaryKey} {body : Body} :
    (createCertificateSni pk body).All (Signalled mode request) := by
  refine all_resolveCertIdOrName fun resolved => ?_
  cases resolved with
  | none => trivial
  | some certificate =>
    intro answer
    dsimp only
    cases answer.bind fun store => select store .certificates (.id certificate) with
    | none => trivial
    | some row => exact all_doCreate (fun hType _ _ => signals_notify hType) fun _ => all_notify

theorem all_deleteCaCertificate :
    (deleteCaCertificate pk).All (Signalled mode request) := by
  exact fun _ => all_ite trivial
    (all_doDelete signals_notify (fun _ hMem => nomatch hMem) all_notify)

/-! Plugins and targets. -/

theorem all_withOwner {type : EntityType} {owner : PrimaryKey} {next : Uuid → Handler}
    (hNext : ∀ id, (next id).All (Signalled mode request)) :
    (withOwner type owner next).All (Signalled mode request) := by
  intro answer
  dsimp only
  cases answer.bind fun store => select store type owner with
  | none => trivial
  | some row => exact hNext row.id

theorem all_withTarget {upstream : Uuid} {target : PrimaryKey} {next : Row → Handler}
    (hNext : ∀ row, (next row).All (Signalled mode request)) :
    (withTarget upstream target next).All (Signalled mode request) := by
  intro answer
  dsimp only
  cases answer.bind fun store => findTargetInUpstream store upstream target with
  | none => trivial
  | some row => exact hNext row

theorem all_createScopedPlugin :
    (createScopedPlugin scope owner body).All (Signalled mode request) :=
  all_withOwner fun _ => all_doCreate (fun hType _ _ => signals_notify hType) fun _ => all_notify

theorem all_upsertScopedPlugin {body : Uuid → Body} :
    (upsertScopedPlugin scope owner plugin body).All (Signalled mode request) :=
  all_withOwner fun _ => all_doUpsert (fun hType _ _ => signals_notify hType) fun _ => all_notify

theorem all_updateScopedPlugin {patch : Uuid → Patch} :
    (updateScopedPlugin scope owner plugin patch).All (Signalled mode request) := by
  exact all_withOwner fun id _ => all_ite trivial (all_doUpdate signals_notify fun _ => all_notify)

theorem all_deleteScopedPlugin : (deleteScopedPlugin scope owner plugin).All
      (Signalled mode (.deleteScopedPlugin scope owner plugin)) := by
  refine all_withOwner fun id _ => all_ite trivial ?_
  -- The signal was sent before.
  refine ⟨⟨fun hNot => ?_, fun _ hMem => nomatch hMem⟩, fun _ => trivial⟩
  rcases hNot with hOther | hType
  · exact absurd rfl (hOther scope owner plugin)
  · exact absurd rfl hType

theorem all_createNestedTarget : (createNestedTarget upstream body).All (Signalled mode request) :=
  all_withOwner fun _ => all_notifyOn_doCreate

theorem all_updateNestedTarget {set : Row → Row} :
    (updateNestedTarget upstream target set).All (Signalled mode request) :=
  all_withOwner fun _ => all_withTarget fun _ =>
    ⟨fun hType => signals_notify hType, fun _ => all_notifyOn⟩

theorem all_deleteNestedTarget :
    (deleteNestedTarget upstream target).All (Signalled mode request) :=
  all_withOwner fun _ => all_withTarget fun _ =>
    ⟨⟨fun _ hType => signals_notify hType, fun _ hMem => nomatch hMem⟩, fun _ => all_notifyOn⟩

theorem all_upsertNestedTarget {upstream target : PrimaryKey} {body : Uuid → Option Row → Body} :
    (upsertNestedTarget upstream target body).All (Signalled mode request) := by
  refine all_withOwner fun id answer => ?_
  dsimp only
  cases answer with
  | none => trivial
  | some store => exact all_doUpsert (fun hType _ _ => signals_notify hType) fun _ => all_notify

/-! Declarative configurations. -/

theorem signals_sendAll {type : EntityType} : ∀ {types : List EntityType},
    (∃ signal ∈ types, type ∈ signal.pages) → Signals mode type (sendAll types)
  | [], h => nomatch h
  | first :: rest, ⟨signal, hMem, hType⟩ => by
    rcases List.mem_cons.mp hMem with rfl | hRest
    · exact .inl hType
    · exact .inr (signals_sendAll ⟨signal, hRest, hType⟩)

theorem all_sendAll : ∀ types : List EntityType, (sendAll types).All (Signalled mode request)
  | [] => trivial
  | _ :: types => all_sendAll types

variable {handler : Handler}

theorem all_ifDbless (h : handler.All (Signalled mode request)) :
    (ifDbless mode handler).All (Signalled mode request) := by
  cases mode with
  | postgres => trivial
  | dbless uuids decode => exact h

variable {drawn : Nat} {config : Json}

theorem all_postConfig :
    (postConfig config drawn).All (Signalled mode (.postConfig config drawn)) := by
  refine ⟨fun type hType _ => signals_sendAll ?_, fun answer => all_ite (all_sendAll _) trivial⟩
  rw [proxied_iff] at hType
  cases type <;> first
    | decide
    | exact absurd hType (by decide)

theorem all_applyConfig :
    (applyConfig config drawn).All (Signalled mode (.applyConfig config drawn)) := by
  refine ⟨fun type hType hCa => signals_sendAll ?_, fun answer => all_ite (all_sendAll _) trivial⟩
  rw [proxied_iff] at hType
  cases type with
  | caCertificates =>
    obtain ⟨posted, times, hRequest⟩ := hCa rfl
    cases hRequest
  | consumers | vaults | keySets | keys | aiProviders | aiModels | aiVirtualKeys => cases hType
  | _ => decide

theorem all_ifRouted (h : handler.All (Signalled mode request)) :
    (ifRouted type handler).All (Signalled mode request) := by
  unfold ifRouted
  split
  · trivial
  · exact h

theorem signals_cascade {type child : EntityType} (hMem : child ∈ type.cascades)
    (hChild : child ≠ .plugins) (hProxied : child.proxied) :
    Signals mode child (sendName type true) := by
  rw [proxied_iff] at hProxied
  cases type with
  | services | routes | consumers => exact absurd (List.mem_singleton.mp hMem) hChild
  | upstreams | certificates =>
    cases List.mem_singleton.mp hMem
    exact .inl (List.mem_cons_of_mem _ List.mem_cons_self)
  | keySets | aiProviders =>
    cases List.mem_singleton.mp hMem
    cases hProxied
  | _ => cases hMem

/-- Every handler sends its signals. -/
theorem all_handler : (request.handler mode).All (Signalled mode request) := by
  cases request with
  | create type body =>
    exact all_ifRouted (all_doCreate (fun hType _ _ => signals_sendName hType)
      fun _ => all_sendName)
  | update type pk patch =>
    exact all_ifRouted (all_doUpdate signals_sendName fun _ => all_sendName)
  | upsert type pk body =>
    exact all_ifRouted (all_doUpsert (fun hType _ _ => signals_sendName hType)
      fun _ => all_sendName)
  | delete type pk =>
    have hDelete : (deleteEntity type pk).All (Signalled mode (.delete type pk)) :=
      all_doDelete signals_sendName (fun _ hMem hChild hProxied =>
        signals_cascade hMem hChild hProxied) all_sendName
    cases type with
    | caCertificates => exact all_deleteCaCertificate
    | _ => exact all_ifRouted hDelete
  | createRoute serviceName body => exact all_createRoute
  | upsertRoute serviceName pk body => exact all_upsertRoute
  | createNestedRoute service body => exact all_createNestedRoute
  | updateRouteService route patch => exact all_updateRouteService
  | upsertRouteService route body link => exact all_upsertRouteService
  | createCertificate body names => exact all_createCertificate
  | updateCertificate pk patch names => exact all_updateCertificate
  | upsertCertificate pk drawn body names => exact all_upsertCertificate
  | deleteCertificate pk => exact all_deleteCertificate
  | createCertificateSni pk body => exact all_createCertificateSni
  | createScopedPlugin scope owner body => exact all_createScopedPlugin
  | updateScopedPlugin scope owner plugin patch => exact all_updateScopedPlugin
  | upsertScopedPlugin scope owner plugin body => exact all_upsertScopedPlugin
  | deleteScopedPlugin scope owner plugin => exact all_deleteScopedPlugin
  | createNestedTarget upstream body => exact all_createNestedTarget
  | updateNestedTarget upstream target set => exact all_updateNestedTarget
  | upsertNestedTarget upstream target body => exact all_upsertNestedTarget
  | deleteNestedTarget upstream target => exact all_deleteNestedTarget
  | postConfig config drawn => exact all_ifDbless all_postConfig
  | applyConfig config drawn => exact all_ifDbless all_applyConfig

end Handlers

/-! ## Covered steps -/

section Steps

variable {mode : Mode} {sys : System} {request : Request} {type : EntityType}

variable {store : Store} {other : EntityType}

theorem remove_cases {gone : List Uuid} (hType : type.proxied)
    (hChange : remove store other gone type ≠ store type) :
    type = other ∨ (type ∈ other.cascades ∧
      ∃ row ∈ store type, ∃ id ∈ gone, row.references other id = true) := by
  by_cases hSame : type = other
  · exact .inl hSame
  by_cases hCascade : type ∈ other.cascades
  · refine .inr ⟨hCascade, ?_⟩
    by_contra hNone
    apply hChange
    unfold remove
    rw [if_neg hSame, if_pos hCascade]
    refine List.filter_eq_self.mpr fun row hRow => List.all_eq_true.mpr fun id hId => ?_
    cases hRefers : row.references other id with
    | false => rfl
    | true => exact absurd ⟨row, hRow, id, hId, hRefers⟩ hNone
  · -- Only the virtual keys lose a reference, which the proxy does not have.
    by_cases hClear : type ∈ other.clears
    · rw [proxied_iff] at hType
      cases other with
      | consumers =>
        cases List.mem_singleton.mp hClear
        cases hType
      | _ => cases hClear
    · refine absurd ?_ hChange
      unfold remove
      rw [if_neg hSame, if_neg hCascade, if_neg hClear]

variable {next : Except KongError Unit → Handler}

theorem delete_covered {pk : PrimaryKey} (hType : type.proxied)
    (hSignalled : Signalled mode request (.delete other pk) next)
    (hMeets : (Call.delete other pk).Meets mode sys request)
    (hChange : remove sys.store other (matching sys.store other pk) type ≠ sys.store type) :
    sys.Awaits mode type ∨ Signals mode type (next (.ok ())) := by
  rcases remove_cases hType hChange with rfl | ⟨hCascade, row, hRow, id, hId, hRefers⟩
  · by_cases hScoped : ∃ scope owner plugin, request = .deleteScopedPlugin scope owner plugin
    · by_cases hPlugins : type = .plugins
      · obtain ⟨scope, owner, plugin, hRequest⟩ := hScoped
        exact .inl (hPlugins ▸ hMeets.2 scope owner plugin hRequest)
      · exact .inr (hSignalled.1 (.inr hPlugins) hType)
    · refine .inr (hSignalled.1 (.inl fun scope owner plugin hRequest => ?_) hType)
      exact hScoped ⟨scope, owner, plugin, hRequest⟩
  · by_cases hPlugins : type = .plugins
    · subst hPlugins
      rcases hMeets.1 hCascade with hNone | hAwaits
      · rw [hNone row hRow id hId] at hRefers
        cases hRefers
      · exact .inl hAwaits
    · exact .inr (hSignalled.2 type hCascade hPlugins hType)

theorem ne_of_update {rows : List Row}
    (hChange : Function.update store other rows type ≠ store type) : type = other := by
  by_contra hNe
  exact hChange (Function.update_of_ne hNe rows store)

/-- A call that changes a table of the proxy is covered. -/
theorem call_covered {call : Call} (hType : type.proxied)
    (hSignalled : Signalled mode request call next) (hMeets : call.Meets mode sys request)
    (hChange : (mode.run call sys.store).2 type ≠ sys.store type) :
    sys.Awaits mode type ∨ Signals mode type (next (mode.run call sys.store).1) := by
  cases mode with
  | postgres =>
    simp only [Mode.run] at hChange ⊢
    cases call with
    | insert other row | upsert other pk row =>
      cases ne_of_update hChange
      exact .inr (hSignalled hType)
    | update other pk set =>
      simp only [runPostgres] at hChange ⊢
      by_cases hNone : (matching sys.store other pk).isEmpty
      · rw [if_pos hNone] at hChange
        exact absurd rfl hChange
      · rw [if_neg hNone] at hChange ⊢
        cases ne_of_update hChange
        exact .inr (hSignalled hType)
    | delete other pk =>
      simp only [runPostgres] at hChange ⊢
      by_cases hNone : (matching sys.store other pk).isEmpty
      · rw [if_pos hNone] at hChange
        exact absurd rfl hChange
      · rw [if_neg hNone] at hChange ⊢
        exact delete_covered hType hSignalled hMeets hChange
    | loadFromJson config drawn => exact absurd rfl hChange
  | dbless uuids decode =>
    cases call with
    | loadFromJson config drawn =>
      obtain ⟨hAcceptable, hCa⟩ := hMeets
      have hLoad : (Storage.loadFromJson uuids config ⟨.new, drawn⟩).1 = .ok () :=
        Storage.loadFromJson_ok.mpr hAcceptable
      have hOk : ((Mode.dbless uuids decode).run (.loadFromJson config drawn) sys.store).1 =
          .ok () := by
        simp only [Mode.run, runDbless]
        cases hLoaded : Storage.loadFromJson uuids config ⟨.new, drawn⟩ with
        | mk result loading =>
          rw [hLoaded] at hLoad
          cases hLoad
          rfl
      rw [hOk]
      by_cases hCertificates : type = .caCertificates
      · subst hCertificates
        rcases hCa with hPosted | hSame | hAwaits
        · exact .inr (hSignalled _ hType fun _ => hPosted)
        · exact absurd hSame hChange
        · exact .inl hAwaits
      · exact .inr (hSignalled type hType fun hNot => absurd hNot hCertificates)
    | _ => exact absurd rfl hChange

theorem covers_of_meets {act : Act} (hType : type.proxied)
    (hFollows : Refresh.System.Follows (Signalled mode) sys) (hMeets : sys.Meets mode act) :
    act.Covers (setting mode) type sys := by
  cases act with
  | advance i refusal =>
    cases refusal with
    | some answer => trivial
    | none =>
      intro request call next hEntry _ hChange
      have hSignalled := (hFollows _ (List.mem_of_getElem? hEntry)).1
      exact call_covered hType hSignalled (hMeets request call next hEntry) hChange
  | refresh failing =>
    cases failing with
    | true => trivial
    | false =>
      intro signal rest pages todo hReading
      exact List.take_of_length_le (hMeets signal type rest pages todo hReading)
  | _ => trivial

end Steps

theorem shows_start {mode : Mode} {store : Store} {streams : Bool}
    (hSmall : ∀ type, (store type).length ≤ ALL_PARAMS_SIZE) (type : EntityType) :
    (System.start mode store streams).mirror.Shows type (store type) := by
  have hTake : ∀ other, (store other).take ALL_PARAMS_SIZE = store other := fun other =>
    List.take_of_length_le (hSmall other)
  have hInitial : ∀ other, mode.initial (store other) = store other := by
    intro other
    cases mode with
    | postgres => rfl
    | dbless uuids decode => exact hTake other
  cases type with
  | routes =>
    refine ⟨hInitial _, fun routes hRoutes => ?_⟩
    cases streams with
    | false => cases hRoutes
    | true =>
      cases hRoutes
      exact hTake .routes
  | consumers | vaults | keySets | keys | aiProviders | aiModels | aiVirtualKeys => trivial
  | _ => exact hInitial _

/-- The proxy converges to the store: in every run that meets the condition and in which no call
of a DAO fails, the proxy has exactly the rows of the store when every handler has finished, the
channel is empty and the refresher waits. -/
theorem proxy_converges {mode : Mode} {store : Store} {streams : Bool} {acts : List Act}
    {sys : System} (hSmall : ∀ type, (store type).length ≤ ALL_PARAMS_SIZE)
    (hRun : (System.start mode store streams).run (setting mode) acts = some sys)
    (hMeets : (System.start mode store streams).Along (setting mode) (System.Meets mode) acts)
    (hFailed : sys.failed = false) (hQuiet : sys.Quiet) (type : EntityType) :
    sys.mirror.Shows type (sys.store type) := by
  by_cases hType : type.proxied
  · have hIdle : (System.start mode store streams).running = [] := rfl
    have hStart : (System.start mode store streams).Quiet := by
      refine ⟨fun entry hMem => ?_, rfl, rfl⟩
      rw [hIdle] at hMem
      cases hMem
    have hFollows : Refresh.System.Follows (Signalled mode) (System.start mode store streams) := by
      intro entry hMem
      rw [hIdle] at hMem
      cases hMem
    have hCovers := hMeets.weaken (fun _ _ _ hStep hFollows =>
        Refresh.System.Follows.step (fun request => all_handler) hStep hFollows)
      (fun _ _ hFollows hMeets => covers_of_meets hType hFollows hMeets) hFollows
    exact Refresh.System.shows_of_quiet hRun hFailed hCovers hStart (shows_start hSmall type) hQuiet
  · rw [proxied_iff] at hType
    cases type with
    | consumers | vaults | keySets | keys | aiProviders | aiModels | aiVirtualKeys => trivial
    | _ => exact absurd (by decide) hType

/-! ## A plugin that is deleted by the path of its service -/

def sampleService : Row := ⟨1#128, some "mockbin", [], .null⟩

def samplePlugin : Row := ⟨2#128, none, [(.services, 1#128)], .null⟩

def sampleStore : Store
  | .services => [sampleService]
  | .plugins => [samplePlugin]
  | _ => []

def sampleRequest : Request := .deleteScopedPlugin .service (.id 1#128) (.id 2#128)

def refreshPlugins : List Act :=
  [.deadline [.plugins], .refresh false, .refresh false, .refresh false, .refresh false]

/-- The plugin is deleted while the refresher still collects signals. -/
def deleteInTime : List Act :=
  [.arrive sampleRequest, .advance 0 none, .advance 0 none, .receive, .advance 0 none,
    .advance 0 none] ++ refreshPlugins

/-- The signal is still with the refresher when the plugin goes. -/
theorem deleteInTime_meets : (System.start .postgres sampleStore false).Along (setting .postgres)
    (System.Meets .postgres) deleteInTime := by
  have hPage : ([] : List Row).length ≤ ALL_PARAMS_SIZE := Nat.zero_le _
  -- The request, its first read and its signal.
  refine ⟨trivial, fun _ hNext => ?_⟩
  cases hNext
  refine ⟨fun _ _ _ hEntry => (nomatch hEntry), fun _ hNext => ?_⟩
  cases hNext
  refine ⟨fun _ _ _ hEntry => (nomatch hEntry), fun _ hNext => ?_⟩
  cases hNext
  refine ⟨trivial, fun _ hNext => ?_⟩
  cases hNext
  -- The plugin is found and deleted.
  refine ⟨fun _ _ _ hEntry => (nomatch hEntry), fun _ hNext => ?_⟩
  cases hNext
  refine ⟨fun request call next hEntry => ?_, fun _ hNext => ?_⟩
  · cases hEntry
    refine ⟨fun hCascade => (nomatch hCascade), fun _ _ _ _ => .inr ?_⟩
    exact ⟨.plugins, List.mem_cons_self, List.mem_cons_self⟩
  cases hNext
  -- The refresh.
  refine ⟨trivial, fun _ hNext => ?_⟩
  cases hNext
  refine ⟨fun _ _ _ _ _ hReading => (nomatch hReading), fun _ hNext => ?_⟩
  cases hNext
  refine ⟨fun _ _ _ _ _ hReading => ?_, fun _ hNext => ?_⟩
  · cases hReading
    exact hPage
  cases hNext
  refine ⟨fun _ _ _ _ _ hReading => (nomatch hReading), fun _ hNext => ?_⟩
  cases hNext
  exact ⟨fun _ _ _ _ _ hReading => (nomatch hReading), fun _ _ => trivial⟩

theorem sampleStore_small (type : EntityType) :
    (sampleStore type).length ≤ ALL_PARAMS_SIZE := by
  cases type <;> decide

theorem proxy_converges_sample : ∃ sys : System,
    (System.start .postgres sampleStore false).run (setting .postgres) deleteInTime = some sys ∧
      sys.store .plugins = [] ∧ sys.mirror.Shows .plugins (sys.store .plugins) := by
  have hSome : ((System.start .postgres sampleStore false).run (setting .postgres)
      deleteInTime).isSome := rfl
  have hQuiet : (((System.start .postgres sampleStore false).run (setting .postgres)
      deleteInTime).get hSome).Quiet := by
    refine ⟨fun entry hMem => ?_, rfl, rfl⟩
    cases List.mem_singleton.mp hMem
    rfl
  exact ⟨_, (Option.some_get hSome).symm, rfl, proxy_converges sampleStore_small
    (Option.some_get hSome).symm deleteInTime_meets rfl hQuiet .plugins⟩

def deleteTooLate : List Act :=
  [.arrive sampleRequest, .advance 0 none, .advance 0 none, .receive] ++ refreshPlugins ++
    [.advance 0 none, .advance 0 none]

/-- The proxy keeps the plugin that the store has no longer. -/
theorem plugin_outlives_delete : ∃ sys : System,
    (System.start .postgres sampleStore false).run (setting .postgres) deleteTooLate = some sys ∧
      sys.failed = false ∧ sys.Quiet ∧ sys.mirror.plugins = [samplePlugin] ∧
      sys.store .plugins = [] ∧ ¬ sys.mirror.Shows .plugins (sys.store .plugins) := by
  refine ⟨_, rfl, rfl, ⟨fun entry hMem => ?_, rfl, rfl⟩, rfl, rfl, fun hShows => ?_⟩
  · cases List.mem_singleton.mp hMem
    rfl
  · cases hShows

end KongRust.Admin

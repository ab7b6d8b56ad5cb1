import KongRust.Admin.Tables
import KongRust.Foundation.Refresh

/-!
# The handlers that write

The DAO calls and the refresh signals of the Admin API's writing handlers, in their order, and
those of the configurations that a control plane sends. A body stands for what the checks of a
handler make of it; that they refuse it is its absence. Responses are left out.
-/

namespace KongRust.Admin

open Storage (KongError)

abbrev Handler := Refresh.Program EntityType (List Row) Call (Except KongError Unit) EntityType

abbrev Body := Option Row

/-- A checked body of a PATCH: the entity that it is merged into, and what it sets by itself where
the entity could not be read. -/
structure Patch where
  merged : Row → Option Row
  unmerged : Option (Row → Row)

/-! ## The generic handlers -/

/-- `do_create`; the rest of the handler is told whether it succeeded. -/
def doCreate (type : EntityType) (body : Body) (next : Bool → Handler) : Handler :=
  match body with
  | none => next false
  | some row => .write (.insert type row) fun answer => next answer.isOk

def doUpdate (type : EntityType) (pk : PrimaryKey) (patch : Patch) (next : Bool → Handler) :
    Handler :=
  .read fun
    | some store =>
      match (select store type pk).map patch.merged with
      | some (some row) => .write (.update type pk fun _ => row) fun answer => next answer.isOk
      | _ => next false
    | none =>
      match patch.unmerged with
      | some set => .write (.update type pk set) fun answer => next answer.isOk
      | none => next false

def doUpsert (type : EntityType) (pk : PrimaryKey) (body : Body) (next : Bool → Handler) :
    Handler :=
  match body with
  | none => next false
  | some row => .write (.upsert type pk row) fun answer => next answer.isOk

def doDelete (type : EntityType) (pk : PrimaryKey) (next : Handler) : Handler :=
  .write (.delete type pk) fun _ => next

def notify (type : EntityType) : Handler := .send type .finished

def notifyOn (type : EntityType) (success : Bool) : Handler :=
  if success then notify type else .finished

/-- `$entity_name` of `entity_handlers!`, which is empty for the types that the proxy does not
read; the handlers of the other types send the signal of their type. -/
def entityName : EntityType → Option EntityType
  | .consumers => none
  | .vaults => none
  | .keySets => none
  | .keys => none
  | .aiProviders => none
  | .aiModels => none
  | .aiVirtualKeys => none
  | type => some type

/-- The last step of a handler of `entity_handlers!`. -/
def sendName (type : EntityType) (success : Bool) : Handler :=
  match entityName type with
  | some name => notifyOn name success
  | none => .finished

def createEntity (type : EntityType) (body : Body) : Handler := doCreate type body (sendName type)

def updateEntity (type : EntityType) (pk : PrimaryKey) (patch : Patch) : Handler :=
  doUpdate type pk patch (sendName type)

def upsertEntity (type : EntityType) (pk : PrimaryKey) (body : Body) : Handler :=
  doUpsert type pk body (sendName type)

def deleteEntity (type : EntityType) (pk : PrimaryKey) : Handler :=
  doDelete type pk (sendName type true)

/-! ## Routes and their services -/

variable (serviceName : Option String)

/-- `resolve_service_name_ref`: the service that a route's body names. -/
def resolveServiceNameRef (serviceName : Option String) (body : Body) (next : Body → Handler) :
    Handler :=
  match serviceName with
  | none => next body
  | some name => .read fun answer =>
    match answer.bind fun store => select store .services (.endpointKey name) with
    | some service => next (body.map fun row : Row => row.refer .services service.id)
    | none => .finished

def createRoute (serviceName : Option String) (body : Body) : Handler :=
  resolveServiceNameRef serviceName body fun body => doCreate .routes body (notifyOn .routes)

def upsertRoute (serviceName : Option String) (pk : PrimaryKey) (body : Body) : Handler :=
  resolveServiceNameRef serviceName body fun body => doUpsert .routes pk body (notifyOn .routes)

/-- `POST /services/:service_id/routes`. -/
def createNestedRoute (service : PrimaryKey) (body : Body) : Handler :=
  .read fun answer =>
    match answer.bind fun store => select store .services service with
    | some owner =>
      doCreate .routes (body.map fun row : Row => row.refer .services owner.id) (notifyOn .routes)
    | none => .finished

def Row.service (route : Row) : Option Uuid :=
  (route.refs.find? fun ref => ref.1 = .services).map Prod.snd

/-- `PATCH /routes/:route/service`. -/
def updateRouteService (route : PrimaryKey) (patch : Patch) : Handler :=
  .read fun answer =>
    match (answer.bind fun store => select store .routes route).bind Row.service with
    | some service => doUpdate .services (.id service) patch fun _ => notify .services
    | none => .finished

/-- `PUT /routes/:route/service`; `link` is the PATCH that gives the route its new service. -/
def upsertRouteService (route : PrimaryKey) (body : Body) (link : Uuid → Patch) : Handler :=
  .read fun answer =>
    match answer.bind fun store => select store .routes route with
    | none => .finished
    | some row =>
      match row.service with
      | some service => doUpsert .services (.id service) body fun _ => notify .services
      | none => doCreate .services body fun created => .send .services <|
        match created, body with
        | true, some service =>
          doUpdate .routes route (link service.id) fun _ => notify .routes
        | _, _ => .finished

/-! ## Certificates and SNIs -/

abbrev SniName := Uuid × String

variable (certificate : Uuid)

/-- The `Sni` of a certificate's name, without its times. -/
def sniOf (certificate : Uuid) (name : SniName) : Row where
  id := name.1
  endpointKey := some name.2
  refs := [(.certificates, certificate)]
  fields := .null

def createSnisForCert (certificate : Uuid) : List SniName → (Bool → Handler) → Handler
  | [], next => next true
  | name :: names, next => .write (.insert .snis (sniOf certificate name)) fun answer =>
    if answer.isOk then createSnisForCert certificate names next else next false

def deleteSnis : List String → Handler → Handler
  | [], next => next
  | name :: names, next =>
    .write (.delete .snis (.endpointKey name)) fun _ => deleteSnis names next

/-- One page of the names of a certificate, none if it cannot be read. -/
def fetchSniNamesForCert (certificate : Uuid) (next : List String → Handler) : Handler :=
  .read fun answer => next <|
    match answer with
    | some store =>
      ((selectByForeignKey store .snis .certificates certificate).take 10000).filterMap
        Row.endpointKey
    | none => []

def replaceSnisForCert (certificate : Uuid) (names : List SniName) (next : Bool → Handler) :
    Handler :=
  fetchSniNamesForCert certificate fun existing =>
    deleteSnis existing (createSnisForCert certificate names next)

variable (pk : PrimaryKey)

/-- `resolve_cert_id_or_name`: an identifier is not looked up. -/
def resolveCertIdOrName (pk : PrimaryKey) (next : Option Uuid → Handler) : Handler :=
  match pk with
  | .id uuid => next (some uuid)
  | .endpointKey name => .read fun answer => next <|
    (answer.bind fun store => select store .snis (.endpointKey name)).bind fun sni =>
      (sni.refs.find? fun ref => ref.1 = .certificates).map Prod.snd

/-- `validate_sni_names_for_create`: no name twice, and none of another certificate. -/
def validateSniNamesForCreate (names : List SniName) (exclude : Option Uuid)
    (next : Bool → Handler) : Handler :=
  if (names.map Prod.snd).Nodup then .read fun answer => next <|
    match answer with
    | some store => names.all fun name =>
      match select store .snis (.endpointKey name.2) with
      | some sni => exclude.any fun certificate => sni.references .certificates certificate
      | none => true
    | none => true
  else next false

def notifyCertificates : Handler := .send .certificates (notify .snis)

def notifyCertificatesOn (success : Bool) : Handler :=
  if success then notifyCertificates else .finished

def validateNamesIfAny (names : Option (List SniName)) (exclude : Option Uuid)
    (next : Bool → Handler) : Handler :=
  match names with
  | some names => validateSniNamesForCreate names exclude next
  | none => next true

def createCertificate (body : Body) (names : Option (List SniName)) : Handler :=
  validateNamesIfAny names none fun valid =>
    if !valid then .finished
    else doCreate .certificates body fun created =>
      match created, body with
      | true, some row => createSnisForCert row.id (names.getD []) notifyCertificatesOn
      | _, _ => .finished

def updateCertificate (pk : PrimaryKey) (patch : Patch) (names : Option (List SniName)) :
    Handler :=
  resolveCertIdOrName pk fun resolved =>
    match resolved with
    | none => .finished
    | some certificate => validateNamesIfAny names (some certificate) fun valid =>
      if !valid then .finished
      else doUpdate .certificates (.id certificate) patch fun updated =>
        match updated, names with
        | true, some names => replaceSnisForCert certificate names notifyCertificatesOn
        | true, none => notifyCertificates
        | false, _ => .finished

def addName (names : List SniName) (name : SniName) : List SniName :=
  if names.any fun other => other.2 == name.2 then names else names ++ [name]

def combinedSnis (pk : PrimaryKey) (drawn : Uuid) (names : Option (List SniName)) :
    List SniName :=
  match pk with
  | .id _ => (names.getD []).foldl addName []
  | .endpointKey name => (names.getD []).foldl addName [(drawn, name)]

/-- The name in the path is one of the certificate's, and the replacement replaces its names. -/
def upsertCertificate (pk : PrimaryKey) (drawn : Uuid) (body : Body)
    (names : Option (List SniName)) : Handler :=
  resolveCertIdOrName pk fun resolved =>
    -- An identifier in the path is the certificate's; else the body has it.
    let key := (resolved.map PrimaryKey.id).getD pk
    let row := body.map fun row => { row with id := resolved.getD row.id }
    doUpsert .certificates key row fun upserted =>
      match upserted, row with
      | true, some certificate =>
        replaceSnisForCert certificate.id (combinedSnis pk drawn names) notifyCertificatesOn
      | _, _ => .finished

def deleteCertificate (pk : PrimaryKey) : Handler :=
  resolveCertIdOrName pk fun resolved =>
    match resolved with
    | some certificate => fetchSniNamesForCert certificate fun existing =>
      deleteSnis existing (doDelete .certificates (.id certificate) notifyCertificates)
    | none => doDelete .certificates pk notifyCertificates

/-- `POST /certificates/:certificate/snis`. -/
def createCertificateSni (pk : PrimaryKey) (body : Body) : Handler :=
  resolveCertIdOrName pk fun resolved =>
    match resolved with
    | none => .finished
    | some certificate => .read fun answer =>
      match answer.bind fun store => select store .certificates (.id certificate) with
      | some _ =>
        doCreate .snis (body.map fun row : Row => row.refer .certificates certificate) fun _ =>
          notify .snis
      | none => .finished

/-- A CA certificate that one of the first thousand services names is not deleted; it has no
endpoint key to be found by. -/
def deleteCaCertificate (pk : PrimaryKey) : Handler :=
  .read fun answer =>
    let named :=
      match answer, pk with
      | some store, .id uuid => ((store .services).take 1000).any fun service =>
        service.references .caCertificates uuid
      | _, _ => false
    if named then .finished else doDelete .caCertificates pk (notify .caCertificates)

/-! ## Plugins of a service, a route or a consumer -/

inductive PluginScope where
  | service
  | route
  | consumer

def PluginScope.type : PluginScope → EntityType
  | .service => .services
  | .route => .routes
  | .consumer => .consumers

def withOwner (type : EntityType) (owner : PrimaryKey) (next : Uuid → Handler) : Handler :=
  .read fun answer =>
    match answer.bind fun store => select store type owner with
    | some row => next row.id
    | none => .finished

/-- `get_scoped_plugin`, asked whether the answer is `404`. -/
def scopedPluginMissing (plugin : PrimaryKey) (scope : PluginScope) (owner : Uuid)
    (next : Bool → Handler) : Handler :=
  .read fun answer => next <|
    match answer with
    | some store =>
      match select store .plugins plugin with
      | some row => !row.references scope.type owner
      | none => true
    | none => false

variable (scope : PluginScope)

/-- `create_service_plugin`, `create_route_plugin` and `create_consumer_plugin`. -/
def createScopedPlugin (scope : PluginScope) (owner : PrimaryKey) (body : Body) : Handler :=
  withOwner scope.type owner fun id =>
    doCreate .plugins (body.map fun row : Row => row.refer scope.type id) fun _ => notify .plugins

/-- `update_service_plugin`, `update_route_plugin` and `update_consumer_plugin`. -/
def updateScopedPlugin (scope : PluginScope) (owner plugin : PrimaryKey) (patch : Uuid → Patch) :
    Handler :=
  withOwner scope.type owner fun id => scopedPluginMissing plugin scope id fun missing =>
    if missing then notify .plugins
    else doUpdate .plugins plugin (patch id) fun _ => notify .plugins

/-- `upsert_service_plugin`, `upsert_route_plugin` and `upsert_consumer_plugin`. -/
def upsertScopedPlugin (scope : PluginScope) (owner plugin : PrimaryKey) (body : Uuid → Body) :
    Handler :=
  withOwner scope.type owner fun id =>
    doUpsert .plugins plugin (body id) fun _ => notify .plugins

/-- `delete_service_plugin`, `delete_route_plugin` and `delete_consumer_plugin`, which send their
signal before they delete. -/
def deleteScopedPlugin (scope : PluginScope) (owner plugin : PrimaryKey) : Handler :=
  withOwner scope.type owner fun id => .send .plugins <|
    scopedPluginMissing plugin scope id fun missing =>
      if missing then .finished else doDelete .plugins plugin .finished

/-! ## Targets of an upstream -/

/-- `find_target_in_upstream`. -/
def findTargetInUpstream (store : Store) (upstream : Uuid) (target : PrimaryKey) :
    Option Row :=
  match target with
  | .id _ => (select store .targets target).filter fun row => row.references .upstreams upstream
  | .endpointKey _ =>
    ((selectByForeignKey store .targets .upstreams upstream).take 10000).find? target.matches

def createNestedTarget (upstream : PrimaryKey) (body : Body) : Handler :=
  withOwner .upstreams upstream fun id =>
    doCreate .targets (body.map fun row : Row => row.refer .upstreams id) (notifyOn .targets)

def withTarget (upstream : Uuid) (target : PrimaryKey) (next : Row → Handler) : Handler :=
  .read fun answer =>
    match answer.bind fun store => findTargetInUpstream store upstream target with
    | some row => next row
    | none => .finished

variable (upstream target : PrimaryKey)

def updateNestedTarget (upstream target : PrimaryKey) (set : Row → Row) : Handler :=
  withOwner .upstreams upstream fun id => withTarget id target fun row =>
    .write (.update .targets (.id row.id) set) fun answer => notifyOn .targets answer.isOk

def deleteNestedTarget (upstream target : PrimaryKey) : Handler :=
  withOwner .upstreams upstream fun id => withTarget id target fun row =>
    .write (.delete .targets (.id row.id)) fun answer => notifyOn .targets answer.isOk

/-- The target in the path is replaced, or a new one is made. -/
def upsertNestedTarget (upstream target : PrimaryKey) (body : Uuid → Option Row → Body) :
    Handler :=
  withOwner .upstreams upstream fun id => .read fun answer =>
    match answer with
    | none => .finished
    | some store =>
      let existing := findTargetInUpstream store id target
      let key := (existing.map fun row : Row => PrimaryKey.id row.id).getD target
      doUpsert .targets key (body id existing) fun _ => notify .targets

/-! ## Declarative configurations -/

def sendAll : List EntityType → Handler
  | [] => .finished
  | type :: types => .send type (sendAll types)

/-- `POST /config` in DB-less mode. -/
def postConfig (config : Json) (drawn : Nat) : Handler :=
  .write (.loadFromJson config drawn) fun answer =>
    if answer.isOk then
      sendAll [.services, .routes, .plugins, .upstreams, .certificates, .caCertificates]
    else .finished

/-- `DpBgService`: a configuration of the control plane, or the one in the disk cache. -/
def applyConfig (config : Json) (drawn : Nat) : Handler :=
  .write (.loadFromJson config drawn) fun answer =>
    if answer.isOk then sendAll [.routes, .services, .plugins, .upstreams, .certificates]
    else .finished

/-! ## Requests -/

/-- The requests that write, and the configurations of the control plane. -/
inductive Request where
  | create (type : EntityType) (body : Body)
  | update (type : EntityType) (pk : PrimaryKey) (patch : Patch)
  | upsert (type : EntityType) (pk : PrimaryKey) (body : Body)
  | delete (type : EntityType) (pk : PrimaryKey)
  | createRoute (serviceName : Option String) (body : Body)
  | upsertRoute (serviceName : Option String) (pk : PrimaryKey) (body : Body)
  | createNestedRoute (service : PrimaryKey) (body : Body)
  | updateRouteService (route : PrimaryKey) (patch : Patch)
  | upsertRouteService (route : PrimaryKey) (body : Body) (link : Uuid → Patch)
  | createCertificate (body : Body) (names : Option (List SniName))
  | updateCertificate (pk : PrimaryKey) (patch : Patch) (names : Option (List SniName))
  | upsertCertificate (pk : PrimaryKey) (drawn : Uuid) (body : Body)
      (names : Option (List SniName))
  | deleteCertificate (pk : PrimaryKey)
  | createCertificateSni (pk : PrimaryKey) (body : Body)
  | createScopedPlugin (scope : PluginScope) (owner : PrimaryKey) (body : Body)
  | updateScopedPlugin (scope : PluginScope) (owner plugin : PrimaryKey) (patch : Uuid → Patch)
  | upsertScopedPlugin (scope : PluginScope) (owner plugin : PrimaryKey) (body : Uuid → Body)
  | deleteScopedPlugin (scope : PluginScope) (owner plugin : PrimaryKey)
  | createNestedTarget (upstream : PrimaryKey) (body : Body)
  | updateNestedTarget (upstream target : PrimaryKey) (set : Row → Row)
  | upsertNestedTarget (upstream target : PrimaryKey) (body : Uuid → Option Row → Body)
  | deleteNestedTarget (upstream target : PrimaryKey)
  | postConfig (config : Json) (drawn : Nat)
  | applyConfig (config : Json) (drawn : Nat)

def ifRouted (type : EntityType) (handler : Handler) : Handler :=
  if type = .certificates ∨ type = .targets then .finished else handler

/-- Only the DB-less mode has a store to load a configuration into. -/
def ifDbless (mode : Mode) (handler : Handler) : Handler :=
  match mode with
  | .postgres => .finished
  | .dbless _ _ => handler

def Request.handler (mode : Mode) : Request → Handler
  | .create type body => ifRouted type (createEntity type body)
  | .update type pk patch => ifRouted type (updateEntity type pk patch)
  | .upsert type pk body => ifRouted type (upsertEntity type pk body)
  | .delete .caCertificates pk => deleteCaCertificate pk
  | .delete type pk => ifRouted type (deleteEntity type pk)
  | .createRoute serviceName body => Admin.createRoute serviceName body
  | .upsertRoute serviceName pk body => Admin.upsertRoute serviceName pk body
  | .createNestedRoute service body => Admin.createNestedRoute service body
  | .updateRouteService route patch => Admin.updateRouteService route patch
  | .upsertRouteService route body link => Admin.upsertRouteService route body link
  | .createCertificate body names => Admin.createCertificate body names
  | .updateCertificate pk patch names => Admin.updateCertificate pk patch names
  | .upsertCertificate pk drawn body names => Admin.upsertCertificate pk drawn body names
  | .deleteCertificate pk => Admin.deleteCertificate pk
  | .createCertificateSni pk body => Admin.createCertificateSni pk body
  | .createScopedPlugin scope owner body => Admin.createScopedPlugin scope owner body
  | .updateScopedPlugin scope owner plugin patch =>
    Admin.updateScopedPlugin scope owner plugin patch
  | .upsertScopedPlugin scope owner plugin body => Admin.upsertScopedPlugin scope owner plugin body
  | .deleteScopedPlugin scope owner plugin => Admin.deleteScopedPlugin scope owner plugin
  | .createNestedTarget upstream body => Admin.createNestedTarget upstream body
  | .updateNestedTarget upstream target set => Admin.updateNestedTarget upstream target set
  | .upsertNestedTarget upstream target body => Admin.upsertNestedTarget upstream target body
  | .deleteNestedTarget upstream target => Admin.deleteNestedTarget upstream target
  | .postConfig config drawn => ifDbless mode (Admin.postConfig config drawn)
  | .applyConfig config drawn => ifDbless mode (Admin.applyConfig config drawn)

end KongRust.Admin

import KongRust.Admin.Handlers

/-!
# The proxy and the cache refresher

`refresh_proxy_cache` reads one page of each table that a signal stands for and hands it to the
proxy; `run_cache_refresher` merges the signals that arrive within 100 ms. The proxy is what its
update functions were last given. The pushes to the data planes and the index of AI policies leave
it alone.
-/

namespace KongRust.Admin

open Storage (KongError)

/-- What `KongProxy` and the stream router serve; there is no stream router without a stream
listener. -/
structure Proxy where
  services : List Row
  routes : List Row
  streamRoutes : Option (List Row)
  plugins : List Row
  upstreams : List Row
  targets : List Row
  certificates : List Row
  snis : List Row
  caCertificates : List Row

def ALL_PARAMS_SIZE : Nat := 10000

/-- The tables that `refresh_proxy_cache` reads for a signal, in this order. -/
def EntityType.pages : EntityType → List EntityType
  | .services => [.services]
  | .routes => [.routes]
  | .plugins => [.plugins]
  | .upstreams => [.upstreams, .targets]
  | .targets => [.upstreams, .targets]
  | .certificates => [.certificates, .snis]
  | .snis => [.certificates, .snis]
  | .caCertificates => [.caCertificates]
  | _ => []

variable (proxy : Proxy)

def Proxy.updateRoutes (proxy : Proxy) (routes : List Row) : Proxy :=
  { proxy with routes := routes, streamRoutes := proxy.streamRoutes.map fun _ => routes }

def Proxy.updateUpstreams (proxy : Proxy) (upstreams targets : List Row) : Proxy :=
  { proxy with upstreams := upstreams, targets := targets }

def Proxy.loadCertificates (proxy : Proxy) (certificates snis : List Row) : Proxy :=
  { proxy with certificates := certificates, snis := snis }

/-- The update of the proxy at the end of a refresh, with the pages that it has read. -/
def Proxy.refresh (type : EntityType) (pages : List (List Row)) (proxy : Proxy) : Proxy :=
  match type, pages with
  | .services, [services] => { proxy with services := services }
  | .routes, [routes] => proxy.updateRoutes routes
  | .plugins, [plugins] => { proxy with plugins := plugins }
  | .upstreams, [upstreams, targets] => proxy.updateUpstreams upstreams targets
  | .targets, [upstreams, targets] => proxy.updateUpstreams upstreams targets
  | .certificates, [certificates, snis] => proxy.loadCertificates certificates snis
  | .snis, [certificates, snis] => proxy.loadCertificates certificates snis
  | .caCertificates, [caCertificates] => { proxy with caCertificates := caCertificates }
  | _, _ => proxy

/-- The proxy has exactly these rows of a table, where it has the table at all. -/
def Proxy.Shows (proxy : Proxy) (type : EntityType) (rows : List Row) : Prop :=
  match type with
  | .services => proxy.services = rows
  | .routes => proxy.routes = rows ∧ ∀ routes ∈ proxy.streamRoutes, routes = rows
  | .plugins => proxy.plugins = rows
  | .upstreams => proxy.upstreams = rows
  | .targets => proxy.targets = rows
  | .certificates => proxy.certificates = rows
  | .snis => proxy.snis = rows
  | .caCertificates => proxy.caCertificates = rows
  | _ => True

theorem pages_nodup (type : EntityType) : type.pages.Nodup := by
  cases type <;> decide

theorem map_fst_eq_singleton {α β : Type} {pages : List (α × β)} {a : α}
    (h : pages.map Prod.fst = [a]) : ∃ b, pages = [(a, b)] := by
  obtain ⟨page, rfl, rfl⟩ := List.map_eq_singleton_iff.mp h
  exact ⟨page.2, rfl⟩

theorem map_fst_eq_pair {α β : Type} {pages : List (α × β)} {a a' : α}
    (h : pages.map Prod.fst = [a, a']) : ∃ b b', pages = [(a, b), (a', b')] := by
  obtain ⟨page, rest, rfl, rfl, hRest⟩ := List.map_eq_cons_iff.mp h
  obtain ⟨b', rfl⟩ := map_fst_eq_singleton hRest
  exact ⟨page.2, b', rfl⟩

theorem refresh_shows (signal : EntityType) (pages : List (EntityType × List Row)) (proxy : Proxy)
    (type : EntityType) (rows : List Row) (hPages : pages.map Prod.fst = signal.pages)
    (hMem : (type, rows) ∈ pages) :
    (proxy.refresh signal (pages.map Prod.snd)).Shows type rows := by
  cases signal with
  | services | plugins | caCertificates =>
    obtain ⟨page, rfl⟩ := map_fst_eq_singleton hPages
    cases List.mem_singleton.mp hMem
    rfl
  | routes =>
    obtain ⟨page, rfl⟩ := map_fst_eq_singleton hPages
    cases List.mem_singleton.mp hMem
    refine ⟨rfl, fun routes hRoutes => ?_⟩
    obtain ⟨-, -, rfl⟩ := Option.map_eq_some_iff.mp hRoutes
    rfl
  | upstreams | targets | certificates | snis =>
    obtain ⟨first, second, rfl⟩ := map_fst_eq_pair hPages
    rcases List.mem_cons.mp hMem with hFirst | hSecond
    · cases hFirst
      rfl
    · cases List.mem_singleton.mp hSecond
      rfl
  | _ =>
    cases List.map_eq_nil_iff.mp hPages
    cases hMem

theorem refresh_other (signal : EntityType) (values : List (List Row)) (proxy : Proxy)
    (type : EntityType) (rows : List Row) (hType : type ∉ signal.pages)
    (h : proxy.Shows type rows) : (proxy.refresh signal values).Shows type rows := by
  unfold Proxy.refresh
  split <;> cases type <;> first
    | exact h
    | exact absurd (by decide) hType

/-- The Admin API with its store, the refresher and the proxy. -/
def setting (mode : Mode) : Refresh.Setting EntityType (List Row) Proxy Call
    (Except KongError Unit) EntityType Request where
  run := mode.run
  fails := Call.fails
  page := List.take ALL_PARAMS_SIZE
  tables := EntityType.pages
  load := fun type pages proxy => proxy.refresh type pages
  Shows := Proxy.Shows
  handler := Request.handler mode
  nodup := pages_nodup
  load_shows := refresh_shows
  load_other := refresh_other

abbrev System :=
  Refresh.System EntityType (List Row) Proxy Call (Except KongError Unit) EntityType Request

abbrev Act := Refresh.Act (Except KongError Unit) EntityType Request

/-- What the server reads of a table before it starts: in DB-less mode only one page. -/
def Mode.initial : Mode → List Row → List Row
  | .postgres => id
  | .dbless _ _ => List.take ALL_PARAMS_SIZE

/-- The server at its start: the proxy was loaded from the store, the stream router with one
page. -/
def System.start (mode : Mode) (store : Store) (streams : Bool) : System where
  store := store
  running := []
  channel := []
  refresher := .waiting
  mirror :=
    { services := mode.initial (store .services)
      routes := mode.initial (store .routes)
      streamRoutes := if streams then some ((store .routes).take ALL_PARAMS_SIZE) else none
      plugins := mode.initial (store .plugins)
      upstreams := mode.initial (store .upstreams)
      targets := mode.initial (store .targets)
      certificates := mode.initial (store .certificates)
      snis := mode.initial (store .snis)
      caCertificates := mode.initial (store .caCertificates) }
  failed := false

end KongRust.Admin

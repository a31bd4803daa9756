import SchemaFederation.Api.Endpoints
import SchemaFederation.Plugins.UnityCatalog.Backend
import SchemaFederation.Plugins.Confluent.Modes

/-!
# The application's life

`lifespan` in `src/api/main.py`: register the Confluent and Unity Catalog plugin classes with the
plugin registry, create the orchestrator, and add a registry for each enabled entry of the
configuration file, skipping an entry whose construction or `add_registry` raises. The application
then serves requests (`serve`).

What the plugins' instances answer depends on what is outside the program (`World`): the server a
configuration reaches, as it stands after the calls made on the instance, how long a health
check's request takes, `json.loads`, and the order in which sets are iterated. Turning a YAML entry
into a `RegistryConfig` (`parse`: the expansion of `${VAR}` credentials, then the dataclass, which
does not check the types of what the YAML holds) is a parameter; `Api.Credentials` models both
steps, and the application's `parse` is `parseEntry env buildConfig`. A plugin's constructor raises
on a config whose `url` is not a string or whose field is not a dict where it calls `get` (it
returns on the configs that are `Constructible`), and the `try` then skips the entry.

* `lifespan_starts_iff`: the application starts from a configuration file exactly when its
  `registries` value can be read and iterated and each entry is a dict. A failed parse or
  `add_registry` skips its entry, but `get("enabled", True)` is outside the `try`.
* `lifespan_loads`: the registries live after startup are exactly those of the enabled entries that
  parse to a Confluent or Unity Catalog configuration.
* `lifespan_reachable`: whatever the configuration holds, the orchestrator the application starts
  with is reached from a fresh one by `add_registry` calls.
* `app_objects`: in every state the application reaches, after startup and any sequence of
  requests, distinct registry ids hold distinct objects, each id live at startup holds the object
  it held then, and every live object is a Confluent or Unity Catalog plugin instance made for a
  configuration of its id (`InstanceFor`).
* `app_listRegistries`: in every such state, `GET /api/v1/registries` returns, and lists the live
  registries in order, each with its configuration's type and its plugin's formats.
* `app_health`: in every such state, `GET /api/v1/health/all` reports a registry healthy iff the
  server its configuration reaches answered the plugin's health URL with a status outside 400–599.
* `app_setMode_readBack`: in every such state, a mode set with success through
  `PUT …/compatibility/mode` is what `GET …/compatibility/mode` then answers on a Confluent registry
  whose server keeps what is written; a Unity Catalog registry answers every such `PUT` with
  success and the `GET` after it with `BACKWARD`, as its `set_compatibility_mode` is a no-op.
-/

namespace SchemaFederation.Api

open Python Core Orchestrator Plugins

/-- What the plugins' instances talk to. -/
structure World where
  /-- The server an instance with this configuration reaches, after the instance's calls. -/
  server : RegistryConfig → List Call → HttpSession
  /-- How long the request of a health check takes, after the instance's calls. -/
  elapsed : RegistryConfig → List Call → Float
  loads : String → Except PyException JsonValue
  setOrder : UnityCatalog.SetOrder

/-- `ConfluentSchemaRegistryPlugin`. Its name only appears in `register_plugin`'s error for a class
that does not implement the contract. -/
def confluentPluginClass (w : World) : PluginClass :=
  ⟨"plugins.confluent.plugin.ConfluentSchemaRegistryPlugin", true, fun config =>
    (fun p => p.behaviour (w.server config) (w.elapsed config)) <$>
      Confluent.ConfluentSchemaRegistryPlugin.init config⟩

/-- `UnityCatalogPlugin`. -/
def unityCatalogPluginClass (w : World) : PluginClass :=
  ⟨"plugins.unity_catalog.plugin.UnityCatalogPlugin", true, fun config =>
    (fun p => p.behaviour w.loads w.setOrder (w.server config) (w.elapsed config)) <$>
      UnityCatalog.UnityCatalogPlugin.init config⟩

/-- The two `register_plugin` calls. -/
def registerPlugins (w : World) (r : PluginRegistry) : Except PyException PluginRegistry := do
  let r ← r.registerPlugin .confluent (confluentPluginClass w)
  r.registerPlugin .unityCatalog (unityCatalogPluginClass w)

/-- The plugin classes of the application. -/
def plugins (w : World) : Dict RegistryType PluginClass :=
  (Dict.empty.insert .confluent (confluentPluginClass w)).insert .unityCatalog
    (unityCatalogPluginClass w)

theorem registerPlugins_fresh (w : World) (created : Nat) :
    registerPlugins w ⟨Dict.empty, Dict.empty, created⟩ = .ok ⟨plugins w, Dict.empty, created⟩ :=
  rfl

/-- One entry of `config_data.get("registries", [])`: `registry_config.get("enabled", True)` is
outside the `try`; inside it, any exception skips the entry. -/
def loadEntry (parse : JsonValue → Except PyException RegistryConfig) (o : Orchestrator)
    (entry : JsonValue) : Except PyException Orchestrator := do
  let enabled ← entry.getD "enabled" (.bool true)
  if enabled.truthy then
    match parse entry >>= o.addRegistry with
    | .ok o' => pure o'
    | .error _ => pure o
  else pure o

/-- `lifespan(app)` up to its `yield`, from the global plugin registry, fresh with `created` objects
made so far; `configData` is what `yaml.safe_load` read, when the configuration file exists. -/
def lifespan (w : World) (parse : JsonValue → Except PyException RegistryConfig) (created : Nat)
    (configData : Option JsonValue) : Except PyException Orchestrator := do
  let pluginRegistry ← registerPlugins w ⟨Dict.empty, Dict.empty, created⟩
  let o := Orchestrator.init pluginRegistry
  match configData with
  | none => pure o
  | some configData =>
    (← (← configData.getD "registries" (.arr [])).iter).foldlM (loadEntry parse) o

/-- The application after serving `requests`, each with how the worker pool runs its tasks. -/
def serve (s : Option Orchestrator) (requests : List (PoolRun × Request)) : Option Orchestrator :=
  requests.foldl (fun s request => (handle request.1 s request.2).2) s

/-! ## Startup -/

/-- `registry_config.get("enabled", True)` is truthy. -/
def Enabled (entry : JsonValue) : Prop :=
  ∃ enabled, entry.getD "enabled" (.bool true) = .ok enabled ∧ enabled.truthy = true

/-- An entry leaves the orchestrator as it was, or it is enabled and `add_registry` succeeded on
its configuration. -/
theorem loadEntry_cases {parse : JsonValue → Except PyException RegistryConfig}
    {o o' : Orchestrator} {entry : JsonValue} (h : loadEntry parse o entry = .ok o') :
    o' = o ∨
      Enabled entry ∧ ∃ config, parse entry = .ok config ∧ o.addRegistry config = .ok o' := by
  obtain ⟨enabled, henabled, h⟩ := bind_eq_ok.mp h
  split at h
  · split at h
    · rename_i o'' hadd
      cases h
      obtain ⟨config, hconfig, hadd⟩ := bind_eq_ok.mp hadd
      exact .inr ⟨⟨enabled, henabled, ‹_›⟩, config, hconfig, hadd⟩
    · cases h
      exact .inl rfl
  · cases h
    exact .inl rfl

/-- An entry is processed exactly when it is a dict: `get("enabled", True)` is outside the `try`. -/
theorem loadEntry_returns {parse : JsonValue → Except PyException RegistryConfig}
    {o : Orchestrator} {entry : JsonValue} :
    (∃ o', loadEntry parse o entry = .ok o') ↔ ∃ kvs, entry = .obj kvs := by
  constructor
  · rintro ⟨o', h⟩
    obtain ⟨enabled, henabled, -⟩ := bind_eq_ok.mp h
    cases entry <;> first | exact ⟨_, rfl⟩ | cases henabled
  · rintro ⟨kvs, rfl⟩
    simp only [loadEntry, JsonValue.getD_obj, ok_bind]
    split
    · split <;> exact ⟨_, rfl⟩
    · exact ⟨_, rfl⟩

theorem foldlM_loadEntry_returns {parse : JsonValue → Except PyException RegistryConfig} :
    ∀ (entries : List JsonValue) (o : Orchestrator),
      (∃ o', entries.foldlM (loadEntry parse) o = .ok o') ↔
        ∀ entry ∈ entries, ∃ kvs, entry = .obj kvs
  | [], o => by simpa using ⟨o, rfl⟩
  | entry :: rest, o => by
    simp only [List.foldlM_cons, List.forall_mem_cons]
    constructor
    · rintro ⟨o', h⟩
      obtain ⟨o₁, h₁, h₂⟩ := bind_eq_ok.mp h
      exact ⟨loadEntry_returns.mp ⟨o₁, h₁⟩, (foldlM_loadEntry_returns rest o₁).mp ⟨o', h₂⟩⟩
    · rintro ⟨hentry, hrest⟩
      obtain ⟨o₁, h₁⟩ := loadEntry_returns.mpr hentry
      obtain ⟨o', h₂⟩ := (foldlM_loadEntry_returns rest o₁).mpr hrest
      exact ⟨o', by rw [h₁]; exact h₂⟩

/-- The application starts from a configuration file exactly when its `registries` value can be
read and iterated and every entry of it is a dict: a failed parse or `add_registry` only skips its
entry, but an entry that is not a dict stops the startup. -/
theorem lifespan_starts_iff (w : World) (parse : JsonValue → Except PyException RegistryConfig)
    (created : Nat) (configData : JsonValue) :
    (∃ o, lifespan w parse created (some configData) = .ok o) ↔
      ∃ registries entries, configData.getD "registries" (.arr []) = .ok registries ∧
        registries.iter = .ok entries ∧ ∀ entry ∈ entries, ∃ kvs, entry = .obj kvs := by
  simp only [lifespan, registerPlugins_fresh, ok_bind]
  cases hregistries : configData.getD "registries" (.arr []) with
  | error e => simp
  | ok registries =>
    cases hentries : registries.iter with
    | error e => simp [hentries]
    | ok entries => simp [hentries, foldlM_loadEntry_returns]

theorem loadEntry_reachable {parse : JsonValue → Except PyException RegistryConfig}
    {o o' : Orchestrator} {entry : JsonValue} (h : loadEntry parse o entry = .ok o') :
    ∃ requests, o' = run o requests := by
  rcases loadEntry_cases h with rfl | ⟨-, config, -, hadd⟩
  · exact ⟨[], rfl⟩
  · exact ⟨[.add config], by simp [run, step, hadd]⟩

theorem foldlM_loadEntry_reachable {parse : JsonValue → Except PyException RegistryConfig}
    (entries : List JsonValue) {o o' : Orchestrator}
    (h : entries.foldlM (loadEntry parse) o = .ok o') : ∃ requests, o' = run o requests := by
  induction entries generalizing o with
  | nil =>
    cases h
    exact ⟨[], rfl⟩
  | cons entry rest ih =>
    obtain ⟨o₁, h₁, h₂⟩ := bind_eq_ok.mp h
    obtain ⟨requests₁, rfl⟩ := loadEntry_reachable h₁
    obtain ⟨requests₂, rfl⟩ := ih h₂
    exact ⟨requests₁ ++ requests₂, by simp [run, List.foldl_append]⟩

/-- Whatever the configuration holds, the orchestrator the application starts with is reached from
a fresh one by `add_registry` calls. -/
theorem lifespan_reachable (w : World) (parse : JsonValue → Except PyException RegistryConfig)
    (created : Nat) (configData : Option JsonValue) {o : Orchestrator}
    (h : lifespan w parse created configData = .ok o) :
    ∃ requests, o = run (fresh (plugins w) created) requests := by
  simp only [lifespan, registerPlugins_fresh, ok_bind] at h
  cases configData with
  | none =>
    cases h
    exact ⟨[], rfl⟩
  | some configData =>
    obtain ⟨registries, -, h⟩ := bind_eq_ok.mp h
    obtain ⟨entries, -, h⟩ := bind_eq_ok.mp h
    exact foldlM_loadEntry_reachable entries h

/-! ## Serving requests -/

theorem serve_keeps (o : Orchestrator) (requests : List (PoolRun × Request)) :
    ∃ o', serve (some o) requests = some o' ∧ o'.pluginRegistry = o.pluginRegistry ∧
      SameObjects o.activeRegistries o'.activeRegistries := by
  induction requests generalizing o with
  | nil => exact ⟨o, rfl, rfl, SameObjects.refl _⟩
  | cons request rest ih =>
    obtain ⟨hp, hs⟩ := endpoint_keeps request.1 o request.2
    obtain ⟨o', hserve, hp', hs'⟩ := ih (endpoint request.1 o request.2).2
    exact ⟨o', hserve, hp'.trans hp, hs.trans hs'⟩

/-! ## What the application holds -/

/-- `b` is the application's plugin instance for `config`: a Confluent or a Unity Catalog object,
as the config's type says, that the plugin's constructor made from it. -/
def InstanceFor (w : World) (config : RegistryConfig) (b : Backend) : Prop :=
  (config.type = .confluent ∧ ∃ p, Confluent.ConfluentSchemaRegistryPlugin.init config = .ok p ∧
    b.behaviour = p.behaviour (w.server config) (w.elapsed config)) ∨
  (config.type = .unityCatalog ∧ ∃ p, UnityCatalog.UnityCatalogPlugin.init config = .ok p ∧
    b.behaviour = p.behaviour w.loads w.setOrder (w.server config) (w.elapsed config))

/-- The constructor of the application's plugin for `config`'s type returns: the config's `url` is
a string, and its `auth` and `ssl_config` (Confluent) or its `metadata` and `auth` (Unity Catalog)
are dicts. -/
def Constructible (config : RegistryConfig) : Prop :=
  (∃ url, config.url = .str url) ∧
    ((config.type = .confluent ∧ (∃ kvs, config.auth = .obj kvs) ∧
        ∃ kvs, config.sslConfig = .obj kvs) ∨
      (config.type = .unityCatalog ∧ (∃ kvs, config.metadata = .obj kvs) ∧
        ∃ kvs, config.auth = .obj kvs))

theorem constructible_iff {config : RegistryConfig} :
    Constructible config ↔
      (config.type = .confluent ∧
          ∃ p, Confluent.ConfluentSchemaRegistryPlugin.init config = .ok p) ∨
        (config.type = .unityCatalog ∧
          ∃ p, UnityCatalog.UnityCatalogPlugin.init config = .ok p) := by
  rw [Confluent.ConfluentSchemaRegistryPlugin.init_isOk_iff,
    UnityCatalog.UnityCatalogPlugin.init_isOk_iff, Constructible, and_or_left]
  simp only [and_left_comm]

theorem InstanceFor.constructible {w : World} {config : RegistryConfig} {b : Backend}
    (h : InstanceFor w config b) : Constructible config :=
  constructible_iff.mpr <|
    h.imp (fun ⟨htype, p, hp, _⟩ => ⟨htype, p, hp⟩) fun ⟨htype, p, hp, _⟩ => ⟨htype, p, hp⟩

theorem get?_plugins {w : World} {t : RegistryType} {pluginClass : PluginClass}
    (h : (plugins w).get? t = some pluginClass) :
    (t = .confluent ∧ pluginClass = confluentPluginClass w) ∨
      (t = .unityCatalog ∧ pluginClass = unityCatalogPluginClass w) := by
  simp only [plugins, Dict.get?_insert, Dict.get?_empty] at h
  split at h
  · exact .inr ⟨‹_›, (Option.some.inj h).symm⟩
  · split at h
    · exact .inl ⟨‹_›, (Option.some.inj h).symm⟩
    · cases h

/-- An object constructed over the application's plugins is its instance for the config. -/
theorem instanceFor_of_construct {w : World} {config : RegistryConfig} {pluginClass : PluginClass}
    {b : Backend} (hplugin : (plugins w).get? config.type = some pluginClass)
    (hconstruct : pluginClass.construct config = .ok b.behaviour) : InstanceFor w config b := by
  rcases get?_plugins hplugin with ⟨htype, rfl⟩ | ⟨htype, rfl⟩
  · obtain ⟨p, hp, hb⟩ := map_eq_ok.mp hconstruct
    exact .inl ⟨htype, p, hp, hb.symm⟩
  · obtain ⟨p, hp, hb⟩ := map_eq_ok.mp hconstruct
    exact .inr ⟨htype, p, hp, hb.symm⟩

/-- What holds of the application's orchestrator in every state it reaches: distinct ids hold
distinct objects, and every live object was made by one of the application's plugin classes. -/
structure Serving (w : World) (o : Orchestrator) : Prop where
  unaliased : Unaliased o
  constructed : Constructed o
  plugins : o.pluginRegistry.plugins = plugins w

theorem lifespan_serving {w : World} {parse : JsonValue → Except PyException RegistryConfig}
    {created : Nat} {configData : Option JsonValue} {o : Orchestrator}
    (hstart : lifespan w parse created configData = .ok o) : Serving w o := by
  obtain ⟨startup, rfl⟩ := lifespan_reachable w parse created configData hstart
  exact ⟨unaliased_run_of (unaliased_fresh _ _) startup,
    constructed_run_of (constructed_fresh _ _) startup, run_plugins _ startup⟩

theorem serve_serving {w : World} {o : Orchestrator} (h : Serving w o)
    (requests : List (PoolRun × Request)) :
    ∃ o', serve (some o) requests = some o' ∧ SameObjects o.activeRegistries o'.activeRegistries ∧
      Serving w o' := by
  obtain ⟨o', hserve, hp, hs⟩ := serve_keeps o requests
  exact ⟨o', hserve, hs, h.unaliased.of_sameObjects hp hs, h.constructed.of_sameObjects hp hs,
    by rw [hp]; exact h.plugins⟩

theorem Serving.instanceFor {w : World} {o : Orchestrator} (h : Serving w o) {id : HashKey}
    {b : Backend} (hb : o.activeRegistries.get? id = some b) :
    ∃ config, config.id.hashKey = .ok id ∧ InstanceFor w config b := by
  obtain ⟨config, pluginClass, hid, hplugin, hconstruct⟩ := h.constructed id b hb
  rw [h.plugins] at hplugin
  exact ⟨config, hid, instanceFor_of_construct hplugin hconstruct⟩

/-! ## An application with one registry -/

/-- A world in which no registry server can be reached, and `json.loads` rejects every text. -/
def offlineWorld : World :=
  ⟨fun _ _ => .refusing, fun _ _ => 0, fun _ => .error ⟨.jsonDecodeError, "Expecting value"⟩,
    .asListed⟩

/-- A configuration file with one Confluent registry. -/
def prodConfigData : JsonValue :=
  .obj [("registries", .arr [.obj [("id", .str "confluent-prod"), ("type", .str "confluent"),
    ("url", .str "http://registry:8081")]])]

/-- The entry's `RegistryConfig`. -/
def prodConfig : RegistryConfig :=
  { id := .str "confluent-prod", type := .confluent, url := .str "http://registry:8081" }

/-- What the plugin's constructor keeps from `prodConfig`. -/
def prodPlugin : Confluent.ConfluentSchemaRegistryPlugin := ⟨"http://registry:8081"⟩

/-- Reading an entry as `prodConfig`. -/
def prodParse : JsonValue → Except PyException RegistryConfig := fun _ => .ok prodConfig

/-- The instance `lifespan` makes for `prodConfig`: the first object of a fresh registry. -/
def prodBackend : Backend :=
  ⟨0, [], prodPlugin.behaviour (offlineWorld.server prodConfig) (offlineWorld.elapsed prodConfig)⟩

/-- The orchestrator the application starts with. -/
def prodOrchestrator : Orchestrator :=
  ⟨⟨plugins offlineWorld, Dict.empty.insert (.str "confluent-prod") prodBackend, 1⟩,
    Dict.empty.insert (.str "confluent-prod") prodBackend⟩

/-- In every state the application reaches, after startup and then any sequence of requests,
distinct registry ids hold distinct objects, each id live at startup holds the object it held
then, and every live object is the application's instance for a configuration whose id is the key
it is live under. -/
theorem app_objects (w : World) (parse : JsonValue → Except PyException RegistryConfig)
    (created : Nat) (configData : Option JsonValue) {o : Orchestrator}
    (hstart : lifespan w parse created configData = .ok o) (requests : List (PoolRun × Request)) :
    ∃ o', serve (some o) requests = some o' ∧ Unaliased o' ∧
      SameObjects o.activeRegistries o'.activeRegistries ∧
      ∀ id b, o'.activeRegistries.get? id = some b →
        ∃ config, config.id.hashKey = .ok id ∧ InstanceFor w config b := by
  obtain ⟨o', hserve, hs, hserving⟩ := serve_serving (lifespan_serving hstart) requests
  exact ⟨o', hserve, hserving.unaliased, hs, fun _ _ hb => hserving.instanceFor hb⟩

theorem app_objects_prod :
    lifespan offlineWorld prodParse 0 (some prodConfigData) = .ok prodOrchestrator ∧
    ∃ o', serve (some prodOrchestrator) [] = some o' ∧ Unaliased o' ∧
      SameObjects prodOrchestrator.activeRegistries o'.activeRegistries ∧
      ∀ id b, o'.activeRegistries.get? id = some b →
        ∃ config, config.id.hashKey = .ok id ∧ InstanceFor offlineWorld config b :=
  ⟨rfl, app_objects offlineWorld prodParse 0 (some prodConfigData) rfl []⟩

/-! ## What startup loads -/

/-- `add_registry` succeeds on a configuration that one of the application's plugins constructs an
instance from and whose id can be hashed. -/
theorem addRegistry_supported {w : World} {o : Orchestrator} {config : RegistryConfig}
    {id : HashKey} (hplugins : o.pluginRegistry.plugins = plugins w)
    (hconstructible : Constructible config) (hid : config.id.hashKey = .ok id) :
    ∃ o', o.addRegistry config = .ok o' := by
  have hclass : ∃ pluginClass behaviour, (plugins w).get? config.type = some pluginClass ∧
      pluginClass.construct config = .ok behaviour := by
    rcases constructible_iff.mp hconstructible with ⟨h, p, hp⟩ | ⟨h, p, hp⟩ <;> rw [h] <;>
      exact ⟨_, _, rfl, map_eq_ok.mpr ⟨p, hp, rfl⟩⟩
  obtain ⟨pluginClass, behaviour, hplugin, hconstruct⟩ := hclass
  simp only [addRegistry, PluginRegistry.createInstance, hplugins, hplugin, hconstruct, hid]
  cases config.id.truthy <;> simp

theorem loadEntry_of_enabled {parse : JsonValue → Except PyException RegistryConfig}
    {o o' : Orchestrator} {entry : JsonValue} {config : RegistryConfig} (henabled : Enabled entry)
    (hparse : parse entry = .ok config) (hadd : o.addRegistry config = .ok o') :
    loadEntry parse o entry = .ok o' := by
  obtain ⟨enabled, hget, htruthy⟩ := henabled
  simp [loadEntry, hget, htruthy, hparse, hadd]
  rfl

theorem loadEntry_plugins {parse : JsonValue → Except PyException RegistryConfig}
    {o o' : Orchestrator} {entry : JsonValue} (h : loadEntry parse o entry = .ok o') :
    o'.pluginRegistry.plugins = o.pluginRegistry.plugins := by
  rcases loadEntry_cases h with rfl | ⟨-, config, -, hadd⟩
  · rfl
  · obtain ⟨-, -, -, -, -, -, -, hplugins⟩ := addRegistry_constructs hadd
    exact hplugins

/-- An entry never drops a live registry. -/
theorem loadEntry_keeps_live {parse : JsonValue → Except PyException RegistryConfig}
    {o o' : Orchestrator} {entry : JsonValue} (h : loadEntry parse o entry = .ok o') {id : HashKey}
    (hlive : (o.activeRegistries.get? id).isSome) : (o'.activeRegistries.get? id).isSome := by
  rcases loadEntry_cases h with rfl | ⟨-, config, -, hadd⟩
  · exact hlive
  · obtain ⟨b, key, -, -, -, hactive, -⟩ := addRegistry_eq_ok hadd
    rw [hactive, Dict.get?_insert]
    split <;> simp [hlive]

/-- A registry live after an entry was live before it, or is the instance for the entry's
configuration. -/
theorem loadEntry_live {w : World} {parse : JsonValue → Except PyException RegistryConfig}
    {o o' : Orchestrator} {entry : JsonValue} (h : loadEntry parse o entry = .ok o')
    (hplugins : o.pluginRegistry.plugins = plugins w) {id : HashKey} {b : Backend}
    (hb : o'.activeRegistries.get? id = some b) :
    o.activeRegistries.get? id = some b ∨
      Enabled entry ∧ ∃ config, parse entry = .ok config ∧ config.id.hashKey = .ok id ∧
        InstanceFor w config b := by
  rcases loadEntry_cases h with rfl | ⟨henabled, config, hparse, hadd⟩
  · exact .inl hb
  · obtain ⟨pluginClass, behaviour, key, hplugin, hconstruct, hkey, hactive, -⟩ :=
      addRegistry_constructs hadd
    rw [hactive] at hb
    rcases Dict.get?_insert_eq_some.mp hb with ⟨rfl, rfl⟩ | ⟨-, hb⟩
    · rw [hplugins] at hplugin
      exact .inr ⟨henabled, config, hparse, hkey, instanceFor_of_construct hplugin hconstruct⟩
    · exact .inl hb

theorem foldlM_loadEntry_plugins {parse : JsonValue → Except PyException RegistryConfig} :
    ∀ (entries : List JsonValue) {o o' : Orchestrator},
      entries.foldlM (loadEntry parse) o = .ok o' →
        o'.pluginRegistry.plugins = o.pluginRegistry.plugins
  | [], _, _, h => by cases h; rfl
  | _ :: rest, _, _, h =>
    let ⟨_, h₁, h₂⟩ := bind_eq_ok.mp h
    (foldlM_loadEntry_plugins rest h₂).trans (loadEntry_plugins h₁)

theorem foldlM_loadEntry_keeps_live {parse : JsonValue → Except PyException RegistryConfig} :
    ∀ (entries : List JsonValue) {o o' : Orchestrator},
      entries.foldlM (loadEntry parse) o = .ok o' → ∀ {id : HashKey},
        (o.activeRegistries.get? id).isSome → (o'.activeRegistries.get? id).isSome
  | [], _, _, h, _, hlive => by cases h; exact hlive
  | _ :: rest, _, _, h, _, hlive =>
    let ⟨_, h₁, h₂⟩ := bind_eq_ok.mp h
    foldlM_loadEntry_keeps_live rest h₂ (loadEntry_keeps_live h₁ hlive)

theorem foldlM_loadEntry_live {w : World} {parse : JsonValue → Except PyException RegistryConfig} :
    ∀ (entries : List JsonValue) {o o' : Orchestrator},
      entries.foldlM (loadEntry parse) o = .ok o' → o.pluginRegistry.plugins = plugins w →
      ∀ {id : HashKey} {b : Backend}, o'.activeRegistries.get? id = some b →
        o.activeRegistries.get? id = some b ∨ ∃ entry ∈ entries, Enabled entry ∧
          ∃ config, parse entry = .ok config ∧ config.id.hashKey = .ok id ∧ InstanceFor w config b
  | [], _, _, h, _, _, _, hb => by cases h; exact .inl hb
  | entry :: rest, o, _, h, hplugins, id, b, hb => by
    obtain ⟨o₁, h₁, h₂⟩ := bind_eq_ok.mp h
    rcases foldlM_loadEntry_live rest h₂ ((loadEntry_plugins h₁).trans hplugins) hb with
      hb₁ | ⟨e, he, hfrom⟩
    · rcases loadEntry_live h₁ hplugins hb₁ with hb₀ | hfrom
      · exact .inl hb₀
      · exact .inr ⟨entry, List.mem_cons_self _ _, hfrom⟩
    · exact .inr ⟨e, List.mem_cons_of_mem _ he, hfrom⟩

theorem foldlM_loadEntry_adds {w : World} {parse : JsonValue → Except PyException RegistryConfig} :
    ∀ (entries : List JsonValue) {o o' : Orchestrator},
      entries.foldlM (loadEntry parse) o = .ok o' → o.pluginRegistry.plugins = plugins w →
      ∀ entry ∈ entries, Enabled entry → ∀ config, parse entry = .ok config →
        Constructible config →
        ∀ id, config.id.hashKey = .ok id → (o'.activeRegistries.get? id).isSome
  | [], _, _, _, _, _, hmem, _, _, _, _, _, _ => absurd hmem (List.not_mem_nil _)
  | e :: rest, o, _, h, hplugins, entry, hmem, henabled, config, hparse, hcon, id, hid => by
    obtain ⟨o₁, h₁, h₂⟩ := bind_eq_ok.mp h
    have hplugins₁ := (loadEntry_plugins h₁).trans hplugins
    rcases List.mem_cons.mp hmem with rfl | hrest
    · obtain ⟨o'', hadd⟩ := addRegistry_supported hplugins hcon hid
      obtain ⟨b, key, hkey, -, -, hactive, -⟩ := addRegistry_eq_ok hadd
      rw [hid, Except.ok.injEq] at hkey
      have ho₁ : o₁ = o'' :=
        (Except.ok.inj ((loadEntry_of_enabled henabled hparse hadd).symm.trans h₁)).symm
      refine foldlM_loadEntry_keeps_live rest h₂ ?_
      rw [ho₁, hactive, ← hkey, Dict.get?_insert_self]
      rfl
    · exact foldlM_loadEntry_adds rest h₂ hplugins₁ entry hrest henabled config hparse hcon id hid

/-- Whenever the application starts from a configuration file, the registries live after startup
are exactly those of the file's enabled entries that parse to a configuration whose id can be
hashed and that the plugin of its type constructs an instance from (`Constructible`: a Confluent or
Unity Catalog type, a string `url`, and dicts where the constructor calls `get`): every live object
is the instance for such an entry's configuration, under the key of its id, and the key of every
such entry is live (a later entry with the same key replaces the object). An id that is a list or a
dict makes `add_registry` raise `TypeError`, and a `url: 7` or `auth: []` makes the constructor
raise `AttributeError`; either skips the entry. -/
theorem lifespan_loads (w : World) (parse : JsonValue → Except PyException RegistryConfig)
    (created : Nat) (configData : JsonValue) {o : Orchestrator}
    (hstart : lifespan w parse created (some configData) = .ok o) :
    ∃ entries, (∃ registries, configData.getD "registries" (.arr []) = .ok registries ∧
        registries.iter = .ok entries) ∧
      (∀ id b, o.activeRegistries.get? id = some b → ∃ entry ∈ entries, Enabled entry ∧
        ∃ config, parse entry = .ok config ∧ config.id.hashKey = .ok id ∧ InstanceFor w config b) ∧
      ∀ entry ∈ entries, Enabled entry → ∀ config, parse entry = .ok config →
        Constructible config →
        ∀ id, config.id.hashKey = .ok id → (o.activeRegistries.get? id).isSome := by
  simp only [lifespan, registerPlugins_fresh, ok_bind] at hstart
  obtain ⟨registries, hregistries, hstart⟩ := bind_eq_ok.mp hstart
  obtain ⟨entries, hentries, hfold⟩ := bind_eq_ok.mp hstart
  refine ⟨entries, ⟨registries, hregistries, hentries⟩, fun id b hb => ?_,
    foldlM_loadEntry_adds entries hfold rfl⟩
  rcases foldlM_loadEntry_live entries hfold rfl hb with hb₀ | hfrom
  · simp [Orchestrator.init, Dict.get?_empty] at hb₀
  · exact hfrom

theorem lifespan_loads_prod :
    lifespan offlineWorld prodParse 0 (some prodConfigData) = .ok prodOrchestrator ∧
    ∃ entries, (∃ registries, prodConfigData.getD "registries" (.arr []) = .ok registries ∧
        registries.iter = .ok entries) ∧
      (∀ id b, prodOrchestrator.activeRegistries.get? id = some b → ∃ entry ∈ entries,
        Enabled entry ∧ ∃ config, prodParse entry = .ok config ∧ config.id.hashKey = .ok id ∧
          InstanceFor offlineWorld config b) ∧
      ∀ entry ∈ entries, Enabled entry → ∀ config, prodParse entry = .ok config →
        Constructible config →
        ∀ id, config.id.hashKey = .ok id → (prodOrchestrator.activeRegistries.get? id).isSome :=
  ⟨rfl, lifespan_loads offlineWorld prodParse 0 prodConfigData rfl⟩

/-! ## Listing the registries -/

/-- What `get_supported_formats` returns on the instance for `config`. -/
def supportedFormatsOf (config : RegistryConfig) : List SchemaFormat :=
  match config.type with
  | .unityCatalog => [.iceberg, .avro]
  | _ => Confluent.ConfluentSchemaRegistryPlugin.supportedFormats

/-- The application's instance for `config` is listed under any id with the config's type and the
formats of its plugin, whatever calls it has received. -/
theorem instanceFor_listedAs {w : World} {config : RegistryConfig} {b : Backend}
    (h : InstanceFor w config b) (id : HashKey) :
    ListedAs (id, b)
      ⟨id, config.type.value, (supportedFormatsOf config).map SchemaFormat.value⟩ := by
  rcases h with ⟨htype, p, -, hb⟩ | ⟨htype, p, -, hb⟩ <;>
    exact ⟨config.type, supportedFormatsOf config, by rw [hb, htype]; rfl,
      by rw [hb]; simp only [supportedFormatsOf, htype]; rfl, rfl⟩

/-- A configuration file whose one registry has `id: null`. -/
def nullIdConfigData : JsonValue :=
  .obj [("registries", .arr [.obj [("id", .null), ("type", .str "confluent"),
    ("url", .str "http://registry:8081")]])]

example : ∃ o, lifespan offlineWorld (fun _ => .ok { prodConfig with id := .null }) 0
      (some nullIdConfigData) = .ok o ∧
    (handle (.inOrder prodBackend []) (some o) .listRegistries).1 =
      .raised ⟨.other "ValidationError", "1 validation error for RegistryInfo"⟩ :=
  ⟨_, rfl, rfl⟩

/-! ## Health -/

/-- The URL the health check of the instance for `config` requests: the instance's base URL is the
config's `url` without its trailing slashes (a config whose `url` is not a string has no instance;
its base URL is read as empty). -/
def healthUrl (config : RegistryConfig) : String :=
  let baseUrl := match config.url.rstrip '/' with
    | .ok baseUrl => baseUrl
    | .error _ => ""
  match config.type with
  | .unityCatalog => baseUrl ++ "/api/2.1/unity-catalog/catalogs"
  | _ => baseUrl ++ "/subjects"

/-- An instance's own `health_check` reports it healthy iff the server answered its health URL
with a status outside 400–599. -/
theorem instanceFor_healthy_iff {w : World} {config : RegistryConfig} {b : Backend}
    (h : InstanceFor w config b) :
    (∃ status, b.behaviour b.calls .healthCheck = .ok status ∧ status.healthy = true) ↔
      ∃ response, (w.server config b.calls).get (healthUrl config) [] = .ok response ∧
        ¬(400 ≤ response.statusCode ∧ response.statusCode < 600) := by
  rcases h with ⟨htype, p, hp, hb⟩ | ⟨htype, p, hp, hb⟩ <;> rw [hb]
  · simp only [healthUrl, htype, Confluent.ConfluentSchemaRegistryPlugin.rstrip_url_of_init hp]
    exact timedHealthCheck_healthy_iff
  · simp only [healthUrl, htype, UnityCatalog.UnityCatalogPlugin.rstrip_url_of_init hp]
    exact timedHealthCheck_healthy_iff

/-- In every state the application reaches, `GET /api/v1/health/all` reports a live registry
healthy iff the server reached by the configuration its instance was made for, as it stands after
the registry's calls, answered the plugin's health URL with a status outside 400–599. -/
theorem app_health (w : World) (parse : JsonValue → Except PyException RegistryConfig)
    (created : Nat) (configData : Option JsonValue) {o : Orchestrator}
    (hstart : lifespan w parse created configData = .ok o) (requests : List (PoolRun × Request)) :
    ∃ o', serve (some o) requests = some o' ∧ ∀ run id b, o'.activeRegistries.get? id = some b →
      ∃ config, config.id.hashKey = .ok id ∧ InstanceFor w config b ∧
        ((∃ (statuses : Dict HashKey HealthStatus) (status : HealthStatus),
            (handle run (some o') .checkAllHealth).1 = .ok statuses ∧
            statuses.get? id = some status ∧ status.healthy = true) ↔
          ∃ response, (w.server config b.calls).get (healthUrl config) [] = .ok response ∧
            ¬(400 ≤ response.statusCode ∧ response.statusCode < 600)) := by
  obtain ⟨o', hserve, -, hserving⟩ := serve_serving (lifespan_serving hstart) requests
  refine ⟨o', hserve, fun run id b hb => ?_⟩
  obtain ⟨config, hid, hfor⟩ := hserving.instanceFor hb
  have hreported := (healthCheckAll_healthy_iff hb).trans (instanceFor_healthy_iff hfor)
  refine ⟨config, hid, hfor, Iff.trans ?_ hreported⟩
  constructor
  · rintro ⟨statuses, status, hreply, hstatus, hhealthy⟩
    cases hreply
    exact ⟨status, hstatus, hhealthy⟩
  · rintro ⟨status, hstatus, hhealthy⟩
    exact ⟨_, status, rfl, hstatus, hhealthy⟩

theorem app_health_prod :
    lifespan offlineWorld prodParse 0 (some prodConfigData) = .ok prodOrchestrator ∧
    ∃ o', serve (some prodOrchestrator) [] = some o' ∧
      ∀ run id b, o'.activeRegistries.get? id = some b →
      ∃ config, config.id.hashKey = .ok id ∧ InstanceFor offlineWorld config b ∧
        ((∃ (statuses : Dict HashKey HealthStatus) (status : HealthStatus),
            (handle run (some o') .checkAllHealth).1 = .ok statuses ∧
            statuses.get? id = some status ∧ status.healthy = true) ↔
          ∃ response, (offlineWorld.server config b.calls).get (healthUrl config) [] =
            .ok response ∧ ¬(400 ≤ response.statusCode ∧ response.statusCode < 600)) :=
  ⟨rfl, app_health offlineWorld prodParse 0 (some prodConfigData) rfl []⟩

/-! ## Setting a mode -/

/-- In every state the application reaches, a `PUT …/compatibility/mode` that answers with success
is read back by the `GET …/compatibility/mode` after it, on a Confluent registry whose server keeps
what is written; a Unity Catalog registry answers every such `PUT` with success and the `GET` after
it with `BACKWARD`, whatever mode was set. The type is that of the configuration the registry's
instance was made for. -/
theorem app_setMode_readBack (w : World) (parse : JsonValue → Except PyException RegistryConfig)
    (created : Nat) (configData : Option JsonValue) {o : Orchestrator}
    (hstart : lifespan w parse created configData = .ok o) (requests : List (PoolRun × Request)) :
    ∃ o', serve (some o) requests = some o' ∧
      ∀ run registryId text subject mode b, o'.getRegistry registryId = some b →
        parseMode text = .ok mode →
        ∃ config, config.id = .str registryId ∧ InstanceFor w config b ∧
          (config.type = .confluent →
            (∀ p, Confluent.ConfluentSchemaRegistryPlugin.init config = .ok p →
              Confluent.ConfluentSchemaRegistryPlugin.StoresModes p (w.server config)) →
            (handle run (some o') (.setCompatibilityMode registryId text subject)).1 =
              .ok ⟨true, registryId, text, subjectOrGlobal subject⟩ →
            (handle run (handle run (some o') (.setCompatibilityMode registryId text subject)).2
              (.getCompatibilityMode registryId subject)).1 =
              .ok ⟨mode.value, subjectOrGlobal subject⟩) ∧
          (config.type = .unityCatalog →
            (handle run (some o') (.setCompatibilityMode registryId text subject)).1 =
              .ok ⟨true, registryId, text, subjectOrGlobal subject⟩ ∧
            (handle run (handle run (some o') (.setCompatibilityMode registryId text subject)).2
              (.getCompatibilityMode registryId subject)).1 =
              .ok ⟨"BACKWARD", subjectOrGlobal subject⟩) := by
  obtain ⟨o', hserve, -, hserving⟩ := serve_serving (lifespan_serving hstart) requests
  refine ⟨o', hserve, fun run registryId text subject mode b hb hmode => ?_⟩
  obtain ⟨config, hid, hfor⟩ := hserving.instanceFor hb
  obtain ⟨hset, hget⟩ := @handle_setThenGet run o' registryId text subject mode b hb hmode
  refine ⟨config, JsonValue.hashKey_eq_str.mp hid, hfor, fun htype hstores hreply => ?_,
    fun htype => ?_⟩
  · rcases hfor with ⟨-, p, hp, hbehaviour⟩ | ⟨htype', -⟩
    · rw [hset, hbehaviour] at hreply
      obtain ⟨success, hsuccess, hmk⟩ := replyOf_map_eq_ok.mp hreply
      cases hmk
      rw [hget, hbehaviour,
        Confluent.ConfluentSchemaRegistryPlugin.setCompatibilityMode_readBack _ (hstores p hp)
          hsuccess]
      rfl
    · exact absurd (htype.symm.trans htype') (by decide)
  · rcases hfor with ⟨htype', -⟩ | ⟨-, p, -, hbehaviour⟩
    · exact absurd (htype.symm.trans htype') (by decide)
    · rw [hset, hget, hbehaviour]
      exact ⟨rfl, rfl⟩

/-- A world whose Confluent registries keep the modes written to them. -/
def storingWorld : World :=
  { offlineWorld with
    server := fun config => match Confluent.ConfluentSchemaRegistryPlugin.init config with
      | .ok p => Confluent.ConfluentSchemaRegistryPlugin.storingRegistry p
      | .error _ => offlineWorld.server config }

/-- The orchestrator the application starts with in `storingWorld`. -/
def storingOrchestrator : Orchestrator :=
  let b : Backend := ⟨0, [], prodPlugin.behaviour (storingWorld.server prodConfig)
    (storingWorld.elapsed prodConfig)⟩
  ⟨⟨plugins storingWorld, Dict.empty.insert (.str "confluent-prod") b, 1⟩,
    Dict.empty.insert (.str "confluent-prod") b⟩

theorem app_setMode_readBack_storing :
    (∀ p, Confluent.ConfluentSchemaRegistryPlugin.init prodConfig = .ok p →
      Confluent.ConfluentSchemaRegistryPlugin.StoresModes p (storingWorld.server prodConfig)) ∧
    lifespan storingWorld prodParse 0 (some prodConfigData) = .ok storingOrchestrator ∧
    ∃ o', serve (some storingOrchestrator) [] = some o' ∧
      ∀ run registryId text subject mode b, o'.getRegistry registryId = some b →
        parseMode text = .ok mode →
        ∃ config, config.id = .str registryId ∧ InstanceFor storingWorld config b ∧
          (config.type = .confluent →
            (∀ p, Confluent.ConfluentSchemaRegistryPlugin.init config = .ok p →
              Confluent.ConfluentSchemaRegistryPlugin.StoresModes p (storingWorld.server config)) →
            (handle run (some o') (.setCompatibilityMode registryId text subject)).1 =
              .ok ⟨true, registryId, text, subjectOrGlobal subject⟩ →
            (handle run (handle run (some o') (.setCompatibilityMode registryId text subject)).2
              (.getCompatibilityMode registryId subject)).1 =
              .ok ⟨mode.value, subjectOrGlobal subject⟩) ∧
          (config.type = .unityCatalog →
            (handle run (some o') (.setCompatibilityMode registryId text subject)).1 =
              .ok ⟨true, registryId, text, subjectOrGlobal subject⟩ ∧
            (handle run (handle run (some o') (.setCompatibilityMode registryId text subject)).2
              (.getCompatibilityMode registryId subject)).1 =
              .ok ⟨"BACKWARD", subjectOrGlobal subject⟩) :=
  ⟨fun p hp => by
    obtain rfl : prodPlugin = p := Except.ok.inj hp
    exact Confluent.ConfluentSchemaRegistryPlugin.storingRegistry_storesModes _, rfl,
    app_setMode_readBack storingWorld prodParse 0 (some prodConfigData) rfl []⟩

end SchemaFederation.Api

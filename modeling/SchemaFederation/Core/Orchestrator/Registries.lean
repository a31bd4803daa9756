import SchemaFederation.Core.PluginRegistry

/-!
# Registry management of the orchestrator

`MultiBackendOrchestrator` (`src/core/orchestrator.py`) holds a plugin registry and
`active_registries`, a dict from instance id to live backend. An id is the `id` of the configuration
the backend was added with, whatever value that is, so the dict is keyed by `HashKey`; the API
looks registries up by the `str` ids of its requests. Its worker pool is modelled where it
is used (`SchemaFederation.Core.Orchestrator.BulkCheck`), and `shutdown` only stops that pool. This
file has `add_registry`, `get_registry`, `list_registries` and `remove_registry`, and what any
sequence of adds and removes (`run`) does to the two instance tables, from a fresh orchestrator
over a plugin registry that only it uses:

* `synced_run`: in every reachable state, each truthy id bound in `active_registries` is bound to
  the same object in the plugin registry's table, and the table never binds a falsy id.
* `unaliased_run`: distinct ids of `active_registries` hold distinct objects, so the per-backend
  loops of the orchestrator never reach one object twice.
* `listLoop_eq_ok`: `list_registries` returns exactly when every backend answers its two queries,
  with one entry per backend in the order of `active_registries`.
* The tables need not agree: `remove_registry` leaves the plugin registry as it was
  (`removeRegistry_pluginRegistry`), so after adding and removing `"a"` the table still returns
  the removed instance (`getInstance_after_removeRegistry`); and `add_registry` with a falsy id
  (`""`, `None`, `0`) stores the instance in `active_registries` only.
-/

namespace SchemaFederation.Core

open Python

/-- `MultiBackendOrchestrator`: its plugin registry and `active_registries`. -/
structure Orchestrator where
  pluginRegistry : PluginRegistry
  activeRegistries : Dict HashKey Backend

/-- One entry of `list_registries()`: the dict with keys `id`, `type` and `supported_formats`. -/
structure RegistryEntry where
  id : HashKey
  type : String
  supportedFormats : List String
  deriving DecidableEq, Repr

namespace Orchestrator

/-- `MultiBackendOrchestrator(plugin_registry)`. -/
def init (pluginRegistry : PluginRegistry) : Orchestrator := ⟨pluginRegistry, Dict.empty⟩

/-- `add_registry(config)`: the exception of `create_instance` propagates, and an id that cannot be
hashed raises `TypeError` when it is stored. -/
def addRegistry (o : Orchestrator) (config : RegistryConfig) : Except PyException Orchestrator :=
  match o.pluginRegistry.createInstance config config.id with
  | .error e => .error e
  | .ok (inst, pluginRegistry) =>
    match config.id.hashKey with
    | .ok id => .ok ⟨pluginRegistry, o.activeRegistries.insert id inst⟩
    | .error e => .error e

/-- `get_registry(instance_id)`, for the `str` id of a request. -/
def getRegistry (o : Orchestrator) (instanceId : String) : Option Backend :=
  o.activeRegistries.get? (.str instanceId)

/-- `remove_registry(instance_id)`, for a hashable id. -/
def removeRegistry (o : Orchestrator) (instanceId : HashKey) : Orchestrator :=
  if instanceId ∈ o.activeRegistries.keys then
    { o with activeRegistries := o.activeRegistries.erase instanceId }
  else o

/-- The loop of `list_registries` over the items not yet visited. Neither call is inside a `try`,
so the first exception ends the loop; the calls made so far stay made. -/
def listLoop :
    List (HashKey × Backend) → Except PyException (List RegistryEntry) × List (HashKey × Backend)
  | [] => (.ok [], [])
  | (id, b) :: rest =>
    match b.getRegistryType with
    | (.error e, b) => (.error e, (id, b) :: rest)
    | (.ok t, b) =>
      match b.getSupportedFormats with
      | (.error e, b) => (.error e, (id, b) :: rest)
      | (.ok formats, b) =>
        let (infos, rest) := listLoop rest
        (infos.map (⟨id, t.value, formats.map SchemaFormat.value⟩ :: ·), (id, b) :: rest)

theorem listLoop_keys (items : List (HashKey × Backend)) :
    (listLoop items).2.map Prod.fst = items.map Prod.fst := by
  induction items with
  | nil => rfl
  | cons p rest ih =>
    obtain ⟨id, b⟩ := p
    unfold listLoop
    split <;> [rfl; split <;> [rfl; simp [ih]]]

/-- `list_registries()`, and the orchestrator after its calls. -/
def listRegistries (o : Orchestrator) : Except PyException (List RegistryEntry) × Orchestrator :=
  ((listLoop o.activeRegistries.items).1,
    { o with activeRegistries := ⟨(listLoop o.activeRegistries.items).2,
      by rw [listLoop_keys]; exact o.activeRegistries.nodup⟩ })

/-- The entry `(id, b)` is listed as `info`: the backend answered both queries, the second after
the first, and `info` holds the id with the values of their answers. -/
def ListedAs (p : HashKey × Backend) (info : RegistryEntry) : Prop :=
  ∃ t formats, p.2.behaviour p.2.calls .getRegistryType = .ok t ∧
    p.2.behaviour (p.2.calls ++ [.getRegistryType]) .getSupportedFormats = .ok formats ∧
    info = ⟨p.1, t.value, formats.map SchemaFormat.value⟩

/-- The loop returns exactly when every backend answers both queries, with one entry per backend
in the order of `active_registries`. -/
theorem listLoop_eq_ok {items : List (HashKey × Backend)} {infos : List RegistryEntry} :
    (listLoop items).1 = .ok infos ↔ List.Forall₂ ListedAs items infos := by
  induction items generalizing infos with
  | nil => simp [listLoop, eq_comm]
  | cons p rest ih =>
    obtain ⟨id, b⟩ := p
    rw [List.forall₂_cons_left_iff]
    cases ht : b.behaviour b.calls .getRegistryType with
    | error e => simp [listLoop, Backend.invoke, ListedAs, ht]
    | ok t =>
      cases hf : b.behaviour (b.calls ++ [.getRegistryType]) .getSupportedFormats with
      | error e => simp [listLoop, Backend.invoke, ListedAs, ht, hf]
      | ok formats =>
        cases hrest : (listLoop rest).1 <;>
          simp [listLoop, Backend.invoke, ListedAs, ht, hf, hrest, Except.map, ← ih, eq_comm]

/-- The loop returns when every backend answers both queries. -/
theorem listLoop_ok_of {items : List (HashKey × Backend)}
    (h : ∀ p ∈ items, ∃ info, ListedAs p info) : ∃ infos, (listLoop items).1 = .ok infos := by
  simp only [listLoop_eq_ok]
  induction items with
  | nil => exact ⟨[], .nil⟩
  | cons p rest ih =>
    obtain ⟨info, hinfo⟩ := h p (List.mem_cons_self _ _)
    obtain ⟨infos, hinfos⟩ := ih fun q hq => h q (List.mem_cons_of_mem _ hq)
    exact ⟨info :: infos, .cons hinfo hinfos⟩

/-- An entry is listed under its own id. -/
theorem ListedAs.id_eq {p : HashKey × Backend} {info : RegistryEntry} (h : ListedAs p info) :
    info.id = p.1 := by
  obtain ⟨_, _, -, -, rfl⟩ := h
  rfl

/-- An entry is listed with the one value its backend's answers give. -/
theorem ListedAs.unique {p : HashKey × Backend} {info info' : RegistryEntry} (h : ListedAs p info)
    (h' : ListedAs p info') : info = info' := by
  obtain ⟨t, formats, ht, hf, rfl⟩ := h
  obtain ⟨t', formats', ht', hf', rfl⟩ := h'
  rw [ht, Except.ok.injEq] at ht'
  rw [hf, Except.ok.injEq] at hf'
  rw [ht', hf']

/-! ## Sequences of adds and removes -/

/-- A management call. -/
inductive Request where
  | add (config : RegistryConfig)
  | remove (instanceId : HashKey)

/-- One request; an `add_registry` that raises leaves the orchestrator as it was. -/
def step (o : Orchestrator) : Request → Orchestrator
  | .add config =>
    match o.addRegistry config with
    | .ok o' => o'
    | .error _ => o
  | .remove instanceId => o.removeRegistry instanceId

/-- The orchestrator after a sequence of requests. -/
def run (o : Orchestrator) (requests : List Request) : Orchestrator := requests.foldl step o

/-- A fresh orchestrator over a plugin registry that has plugins but no instances yet. -/
def fresh (plugins : Dict RegistryType PluginClass) (created : Nat) : Orchestrator :=
  init ⟨plugins, Dict.empty, created⟩

theorem removeRegistry_pluginRegistry (o : Orchestrator) (instanceId : HashKey) :
    (o.removeRegistry instanceId).pluginRegistry = o.pluginRegistry := by
  unfold removeRegistry; split <;> rfl

theorem get?_removeRegistry {o : Orchestrator} {id instanceId : HashKey} {b : Backend}
    (h : (o.removeRegistry instanceId).activeRegistries.get? id = some b) :
    id ≠ instanceId ∧ o.activeRegistries.get? id = some b := by
  unfold removeRegistry at h
  split at h
  · by_cases hid : id = instanceId
    · subst hid; simp at h
    · exact ⟨hid, by rwa [Dict.get?_erase_ne _ hid] at h⟩
  · next hk =>
    refine ⟨fun hid => hk ?_, h⟩
    subst hid
    exact Dict.isSome_get?_iff.1 (by simp [h])

/-- What a successful `add_registry` did: a fresh object `b` is bound to the key of the config's id
in `active_registries`, and in the plugin registry's table when the id is truthy. -/
theorem addRegistry_eq_ok {o o' : Orchestrator} {config : RegistryConfig}
    (h : o.addRegistry config = .ok o') :
    ∃ (b : Backend) (id : HashKey), config.id.hashKey = .ok id ∧ b.oid = o.pluginRegistry.created ∧
      o'.pluginRegistry.created = o.pluginRegistry.created + 1 ∧
      o'.activeRegistries = o.activeRegistries.insert id b ∧
      o'.pluginRegistry.instances = (if id.truthy then o.pluginRegistry.instances.insert id b
        else o.pluginRegistry.instances) := by
  unfold addRegistry at h
  split at h
  · cases h
  · next inst pr hc =>
    split at h
    · next id hid =>
      cases h
      obtain ⟨_, _, -, -, rfl, -, hcr, hi⟩ := PluginRegistry.createInstance_eq_ok hc
      refine ⟨_, id, hid, rfl, hcr, rfl, ?_⟩
      rw [JsonValue.truthy_of_hashKey hid]
      rcases hi with ⟨ht, k, hk, hi⟩ | ⟨ht, hi⟩
      · rw [hid, Except.ok.injEq] at hk
        simp [ht, hi, hk]
      · simp [ht, hi]
    · cases h

/-! ## The lifecycle invariants -/

/-- The two instance tables agree as far as they can: on truthy ids, `active_registries` is part of
the plugin registry's table, and the table never binds a falsy id. -/
structure Synced (o : Orchestrator) : Prop where
  active_sub : ∀ id b, id.truthy = true → o.activeRegistries.get? id = some b →
    o.pluginRegistry.getInstance id = some b
  no_falsy : ∀ id, id.truthy = false → o.pluginRegistry.getInstance id = none

/-- Every live instance is an object created by the plugin registry, and no object is live under
two ids. -/
structure Unaliased (o : Orchestrator) : Prop where
  oid_lt : ∀ id b, o.activeRegistries.get? id = some b → b.oid < o.pluginRegistry.created
  oid_inj : ∀ id id' b b', o.activeRegistries.get? id = some b →
    o.activeRegistries.get? id' = some b' → b.oid = b'.oid → id = id'

theorem synced_fresh (plugins : Dict RegistryType PluginClass) (created : Nat) :
    Synced (fresh plugins created) :=
  ⟨fun _ _ _ h => by simp [fresh, init] at h, fun _ _ => rfl⟩

theorem unaliased_fresh (plugins : Dict RegistryType PluginClass) (created : Nat) :
    Unaliased (fresh plugins created) :=
  ⟨fun _ _ h => by simp [fresh, init] at h, fun _ _ _ _ h => by simp [fresh, init] at h⟩

theorem synced_step {o : Orchestrator} (hs : Synced o) (r : Request) : Synced (step o r) := by
  cases r with
  | remove instanceId =>
    show Synced (o.removeRegistry instanceId)
    refine ⟨fun id b hid h => ?_, fun id hid => ?_⟩ <;> rw [removeRegistry_pluginRegistry]
    · exact hs.active_sub id b hid (get?_removeRegistry h).2
    · exact hs.no_falsy id hid
  | add config =>
    simp only [step]
    split
    · next o' h =>
      obtain ⟨b, id, -, -, -, ha, hi⟩ := addRegistry_eq_ok h
      refine ⟨fun id' b' hid' h' => ?_, fun id' hid' => ?_⟩ <;>
        simp only [PluginRegistry.getInstance, hi]
      · rcases Dict.get?_insert_eq_some.mp (ha ▸ h') with ⟨rfl, rfl⟩ | ⟨hne, h'⟩
        · simp [hid']
        · split
          · rw [Dict.get?_insert_ne _ _ hne]
            exact hs.active_sub id' b' hid' h'
          · exact hs.active_sub id' b' hid' h'
      · split
        · next ht =>
          have hne : id' ≠ id := fun he => by rw [he, ht] at hid'; cases hid'
          rw [Dict.get?_insert_ne _ _ hne]
          exact hs.no_falsy id' hid'
        · exact hs.no_falsy id' hid'
    · exact hs

theorem unaliased_step {o : Orchestrator} (hu : Unaliased o) (r : Request) :
    Unaliased (step o r) := by
  cases r with
  | remove instanceId =>
    show Unaliased (o.removeRegistry instanceId)
    refine ⟨fun id b h => ?_, fun id id' b b' h h' => ?_⟩
    · rw [removeRegistry_pluginRegistry]
      exact hu.oid_lt id b (get?_removeRegistry h).2
    · exact hu.oid_inj id id' b b' (get?_removeRegistry h).2 (get?_removeRegistry h').2
  | add config =>
    simp only [step]
    split
    · next o' h =>
      obtain ⟨b, key, -, hb, hc, ha, -⟩ := addRegistry_eq_ok h
      have old : ∀ id b', o'.activeRegistries.get? id = some b' →
          (id = key ∧ b' = b) ∨ (id ≠ key ∧ o.activeRegistries.get? id = some b') :=
        fun id b' h' => Dict.get?_insert_eq_some.mp (ha ▸ h')
      refine ⟨fun id b' h' => ?_, fun id id' b₁ b₂ h₁ h₂ he => ?_⟩
      · rcases old id b' h' with ⟨-, rfl⟩ | ⟨-, h'⟩
        · omega
        · have := hu.oid_lt id b' h'; omega
      · rcases old id b₁ h₁ with ⟨rfl, rfl⟩ | ⟨hne₁, h₁⟩ <;>
          rcases old id' b₂ h₂ with ⟨rfl, rfl⟩ | ⟨hne₂, h₂⟩
        · rfl
        · have := hu.oid_lt id' b₂ h₂; omega
        · have := hu.oid_lt id b₁ h₁; omega
        · exact hu.oid_inj id id' b₁ b₂ h₁ h₂ he
    · exact hu

theorem synced_run_of {o : Orchestrator} (hs : Synced o) (requests : List Request) :
    Synced (run o requests) := by
  induction requests generalizing o with
  | nil => exact hs
  | cons r rs ih => exact ih (synced_step hs r)

theorem unaliased_run_of {o : Orchestrator} (hu : Unaliased o) (requests : List Request) :
    Unaliased (run o requests) := by
  induction requests generalizing o with
  | nil => exact hu
  | cons r rs ih => exact ih (unaliased_step hu r)

/-- From a fresh orchestrator over a plugin registry used by it alone, after any sequence of
`add_registry` and `remove_registry` calls (failing adds, re-adds and removals of absent ids
included), each truthy id bound in `active_registries` is bound to the same object in the
plugin registry's table, and the table never binds a falsy id. -/
theorem synced_run (plugins : Dict RegistryType PluginClass) (created : Nat)
    (requests : List Request) : Synced (run (fresh plugins created) requests) :=
  synced_run_of (synced_fresh plugins created) requests

/-- In every reachable state, distinct ids of `active_registries` hold distinct objects. -/
theorem unaliased_run (plugins : Dict RegistryType PluginClass) (created : Nat)
    (requests : List Request) : Unaliased (run (fresh plugins created) requests) :=
  unaliased_run_of (unaliased_fresh plugins created) requests

/-! ## The tables after a removal -/

/-- A plugin class whose instances raise on every call. -/
def stubPlugin : PluginClass :=
  ⟨"plugins.confluent.plugin.ConfluentSchemaRegistryPlugin", true,
    fun _ => .ok fun _ _ => .error ⟨.notImplementedError, ""⟩⟩

/-- Adding `"a"` and removing it again leaves `active_registries` without `"a"` while
`plugin_registry.get_instance("a")` still returns the removed instance. -/
theorem getInstance_after_removeRegistry :
    ((run (fresh (Dict.empty.insert .confluent stubPlugin) 0)
        [.add { id := .str "a", type := .confluent, url := .str "http://localhost:8081" },
          .remove (.str "a")]
      ).activeRegistries.get? (.str "a")).isNone ∧
    ((run (fresh (Dict.empty.insert .confluent stubPlugin) 0)
        [.add { id := .str "a", type := .confluent, url := .str "http://localhost:8081" },
          .remove (.str "a")]
      ).pluginRegistry.getInstance (.str "a")).isSome := by
  decide

end Orchestrator

end SchemaFederation.Core

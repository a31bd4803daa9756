import SchemaFederation.Core.Interfaces

/-!
# The plugin registry

`src/core/plugin_registry.py`: `PluginRegistry` maps each backend type to a plugin class and
keeps named instances. `create_instance` raises `ValueError` for a type with no plugin; otherwise
it constructs an instance and stores it under `instance_id` only when the id is truthy, so an
instance created under `None` or `""` is returned but not kept (`createInstance_eq_ok`). The id is
whatever the caller passes (the orchestrator passes a configuration's `id`), so the table is keyed
by `HashKey`, and a truthy id that cannot be hashed raises `TypeError`.
`load_plugin_from_module` imports code at run time and is left out, as is the module-level
`_global_registry`.

Constructing an instance allocates an object: its identity is `created`, the number of instances
created so far. The orchestrator's lifecycle invariant compares instances by this identity.

* `sound_run`: from a registry with no instances, every sequence of the registry's methods keeps
  its instance table `Sound`: no object under two ids, every object created by the registry, and
  no instance under a falsy id. Each method keeps it (`sound_apply`).
-/

namespace SchemaFederation.Core

open Python

/-- A plugin class: its qualified name, whether it subclasses `ISchemaRegistry`, and what calling
it with a configuration does (it may raise). -/
structure PluginClass where
  name : String
  implementsContract : Bool
  construct : RegistryConfig → Except PyException Behaviour

/-- `PluginRegistry`: `_plugins`, `_instances`, and the count of objects created so far. -/
structure PluginRegistry where
  plugins : Dict RegistryType PluginClass
  instances : Dict HashKey Backend
  created : Nat

namespace PluginRegistry

/-- `register_plugin(registry_type, plugin_class)`. -/
def registerPlugin (r : PluginRegistry) (registryType : RegistryType) (pluginClass : PluginClass) :
    Except PyException PluginRegistry :=
  if pluginClass.implementsContract then
    .ok { r with plugins := r.plugins.insert registryType pluginClass }
  else
    .error ⟨.valueError,
      "Plugin <class " ++ strRepr pluginClass.name ++ "> must implement ISchemaRegistry"⟩

/-- The text of the `ValueError` for a backend type with no plugin. -/
def noPluginMessage (r : PluginRegistry) (registryType : RegistryType) : String :=
  "No plugin registered for " ++ registryType.value ++ ". Available: [" ++
    ", ".intercalate (r.plugins.keys.map fun (t : RegistryType) => strRepr t.value) ++ "]"

/-- `create_instance(config, instance_id)`, where `instance_id` defaults to `None`: the new
instance, and the registry after it. -/
def createInstance (r : PluginRegistry) (config : RegistryConfig) (instanceId : JsonValue) :
    Except PyException (Backend × PluginRegistry) :=
  match r.plugins.get? config.type with
  | none => .error ⟨.valueError, r.noPluginMessage config.type⟩
  | some pluginClass =>
    match pluginClass.construct config with
    | .error e => .error e
    | .ok behaviour =>
      let inst : Backend := ⟨r.created, [], behaviour⟩
      let r := { r with created := r.created + 1 }
      if instanceId.truthy then
        match instanceId.hashKey with
        | .ok id => .ok (inst, { r with instances := r.instances.insert id inst })
        | .error e => .error e
      else .ok (inst, r)

/-- `get_instance(instance_id)`, for a hashable id. -/
def getInstance (r : PluginRegistry) (instanceId : HashKey) : Option Backend :=
  r.instances.get? instanceId

/-- `list_instances()`. -/
def listInstances (r : PluginRegistry) : List HashKey := r.instances.keys

/-- `list_available_plugins()`. -/
def listAvailablePlugins (r : PluginRegistry) : List RegistryType := r.plugins.keys

/-- `unregister_plugin(registry_type)`. -/
def unregisterPlugin (r : PluginRegistry) (registryType : RegistryType) : PluginRegistry :=
  if registryType ∈ r.plugins.keys then { r with plugins := r.plugins.erase registryType } else r

/-- `remove_instance(instance_id)`, for a hashable id. -/
def removeInstance (r : PluginRegistry) (instanceId : HashKey) : PluginRegistry :=
  if instanceId ∈ r.instances.keys then { r with instances := r.instances.erase instanceId } else r

/-- `clear_instances()`. -/
def clearInstances (r : PluginRegistry) : PluginRegistry := { r with instances := Dict.empty }

/-- What a successful `create_instance` did: the type had a plugin whose constructor returned, the
instance is fresh, and it was stored under the id's key exactly when the id is truthy. -/
theorem createInstance_eq_ok {r r' : PluginRegistry} {config : RegistryConfig}
    {instanceId : JsonValue} {b : Backend} (h : r.createInstance config instanceId = .ok (b, r')) :
    ∃ pluginClass behaviour, r.plugins.get? config.type = some pluginClass ∧
      pluginClass.construct config = .ok behaviour ∧ b = ⟨r.created, [], behaviour⟩ ∧
      r'.plugins = r.plugins ∧ r'.created = r.created + 1 ∧
      ((instanceId.truthy = true ∧ ∃ id, instanceId.hashKey = .ok id ∧
          r'.instances = r.instances.insert id b) ∨
        (instanceId.truthy = false ∧ r'.instances = r.instances)) := by
  unfold createInstance at h
  split at h
  · cases h
  · next pluginClass _ =>
    split at h
    · cases h
    · next behaviour _ =>
      refine ⟨pluginClass, behaviour, by assumption, by assumption, ?_⟩
      split at h
      · next htruthy =>
        split at h
        · next id hid => cases h; exact ⟨rfl, rfl, rfl, .inl ⟨htruthy, id, hid, rfl⟩⟩
        · cases h
      · next htruthy => cases h; exact ⟨rfl, rfl, rfl, .inr ⟨by simpa using htruthy, rfl⟩⟩

/-! ## Runs of the plugin registry -/

/-- The methods of `PluginRegistry` that change it. -/
inductive Op where
  | registerPlugin (registryType : RegistryType) (pluginClass : PluginClass)
  | createInstance (config : RegistryConfig) (instanceId : JsonValue)
  | unregisterPlugin (registryType : RegistryType)
  | removeInstance (instanceId : HashKey)
  | clearInstances

/-- One call; a call that raises leaves the registry as it was, since both methods that raise do so
before changing anything. -/
def apply (r : PluginRegistry) : Op → PluginRegistry
  | .registerPlugin registryType pluginClass =>
    match r.registerPlugin registryType pluginClass with
    | .ok r' => r'
    | .error _ => r
  | .createInstance config instanceId =>
    match r.createInstance config instanceId with
    | .ok (_, r') => r'
    | .error _ => r
  | .unregisterPlugin registryType => r.unregisterPlugin registryType
  | .removeInstance instanceId => r.removeInstance instanceId
  | .clearInstances => r.clearInstances

/-- The instance table holds objects the registry created, each under one id, and never binds a
falsy id. -/
structure Sound (r : PluginRegistry) : Prop where
  oid_lt : ∀ id b, r.getInstance id = some b → b.oid < r.created
  oid_inj : ∀ id id' b b', r.getInstance id = some b → r.getInstance id' = some b' →
    b.oid = b'.oid → id = id'
  no_falsy : ∀ id, id.truthy = false → r.getInstance id = none

/-- A table that only drops items of a sound one, with no fewer objects created, is sound. -/
theorem Sound.of_sub {r r' : PluginRegistry} (h : Sound r) (hcreated : r.created ≤ r'.created)
    (hsub : ∀ id b, r'.getInstance id = some b → r.getInstance id = some b) : Sound r' where
  oid_lt id b hb := Nat.lt_of_lt_of_le (h.oid_lt id b (hsub id b hb)) hcreated
  oid_inj id id' b b' hb hb' := h.oid_inj id id' b b' (hsub id b hb) (hsub id' b' hb')
  no_falsy id hid := by
    cases hb : r'.getInstance id with
    | none => rfl
    | some b => cases h.no_falsy id hid ▸ hsub id b hb

/-- `create_instance` keeps the table sound: the object it stores is new, under a truthy id. -/
theorem sound_createInstance {r r' : PluginRegistry} {config : RegistryConfig}
    {instanceId : JsonValue} {b : Backend} (h : Sound r)
    (hc : r.createInstance config instanceId = .ok (b, r')) : Sound r' := by
  obtain ⟨_, _, -, -, hb, -, hcreated, hinstances⟩ := createInstance_eq_ok hc
  have hnew : b.oid = r.created := by rw [hb]
  have hsub : ∀ id b', r'.getInstance id = some b' →
      r.getInstance id = some b' ∨ (instanceId.hashKey = .ok id ∧ id.truthy = true ∧ b' = b) := by
    intro id b' hb'
    rcases hinstances with ⟨htruthy, k, hk, hi⟩ | ⟨-, hi⟩ <;> rw [getInstance, hi] at hb'
    · rcases Dict.get?_insert_eq_some.mp hb' with ⟨rfl, rfl⟩ | ⟨-, hb'⟩
      · exact .inr ⟨hk, (JsonValue.truthy_of_hashKey hk).trans htruthy, rfl⟩
      · exact .inl hb'
    · exact .inl hb'
  refine ⟨fun id b' hb' => ?_, fun id id' b₁ b₂ hb₁ hb₂ hoid => ?_, fun id hid => ?_⟩
  · rw [hcreated]
    rcases hsub id b' hb' with hb' | ⟨-, -, rfl⟩
    · exact Nat.lt_succ_of_lt (h.oid_lt id b' hb')
    · exact hnew ▸ Nat.lt_succ_self _
  · rcases hsub id b₁ hb₁ with hb₁' | ⟨hid, -, rfl⟩ <;>
      rcases hsub id' b₂ hb₂ with hb₂' | ⟨hid', -, rfl⟩
    · exact h.oid_inj id id' b₁ b₂ hb₁' hb₂' hoid
    · exact absurd (hoid.trans hnew) (Nat.ne_of_lt (h.oid_lt id b₁ hb₁'))
    · exact absurd (hoid.symm.trans hnew) (Nat.ne_of_lt (h.oid_lt id' b₂ hb₂'))
    · exact Except.ok.inj (hid.symm.trans hid')
  · cases hb' : r'.getInstance id with
    | none => rfl
    | some b' =>
      rcases hsub id b' hb' with hb' | ⟨-, htruthy, -⟩
      · cases h.no_falsy id hid ▸ hb'
      · exact absurd (htruthy.symm.trans hid) Bool.noConfusion

/-- Every method keeps the table sound. -/
theorem sound_apply {r : PluginRegistry} (h : Sound r) (op : Op) : Sound (r.apply op) := by
  cases op with
  | registerPlugin registryType pluginClass =>
    dsimp only [apply, registerPlugin]
    split
    · next r' hr =>
      split at hr
      · cases hr; exact h.of_sub le_rfl fun _ _ hb => hb
      · cases hr
    · exact h
  | createInstance config instanceId =>
    dsimp only [apply]
    split
    · next hc => exact sound_createInstance h hc
    · exact h
  | unregisterPlugin registryType =>
    dsimp only [apply, unregisterPlugin]
    split
    · exact h.of_sub le_rfl fun _ _ hb => hb
    · exact h
  | removeInstance instanceId =>
    dsimp only [apply, removeInstance]
    split
    · refine h.of_sub le_rfl fun id b hb => ?_
      by_cases hid : id = instanceId
      · subst hid; simp [getInstance] at hb
      · rwa [getInstance, Dict.get?_erase_ne _ hid] at hb
    · exact h
  | clearInstances =>
    exact h.of_sub le_rfl fun _ _ hb => by simp [apply, clearInstances, getInstance] at hb

theorem sound_fresh (plugins : Dict RegistryType PluginClass) (created : Nat) :
    Sound ⟨plugins, Dict.empty, created⟩ :=
  ⟨fun _ _ hb => by simp [getInstance] at hb, fun _ _ _ _ hb => by simp [getInstance] at hb,
    fun _ _ => rfl⟩

theorem sound_run_of {r : PluginRegistry} (h : Sound r) (ops : List Op) :
    Sound (ops.foldl apply r) := by
  induction ops generalizing r with
  | nil => exact h
  | cons op ops ih => exact ih (sound_apply h op)

/-- From a registry with no instances, after any sequence of calls of its methods (failing ones
included), no object is held under two ids, every object held was created by the registry, and
no falsy id (`None`, `""`, `0`, `False`) is ever bound. -/
theorem sound_run (plugins : Dict RegistryType PluginClass) (created : Nat) (ops : List Op) :
    Sound (ops.foldl apply ⟨plugins, Dict.empty, created⟩) :=
  sound_run_of (sound_fresh plugins created) ops

end PluginRegistry

end SchemaFederation.Core

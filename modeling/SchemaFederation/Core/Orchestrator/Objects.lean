import SchemaFederation.Core.Orchestrator.CrossRegistry
import SchemaFederation.Core.Orchestrator.BulkCheck

/-!
# Which object is live under which id

Only `add_registry` and `remove_registry` change which object `active_registries` holds under an id;
every other operation of the orchestrator only calls the live backends, which then hold more calls.
An object, apart from the calls it has received, is its identity and its class's behaviour
(`Backend.object`). `SameObjects g g'` says that under every id, `g'` holds the object `g` holds
there, or none when `g` holds none. For each operation the registries after it are `SameObjects`
with the ones before it (`listRegistries_sameObjects`, `queryAll_sameObjects`,
`findSchemaAcrossRegistries_sameObjects`, `compareCompatibilityModes_sameObjects`,
`healthCheckAll_sameObjects`, `bulkSetCompatibility_sameObjects`,
`bulkCheckCompatibility_sameObjects`), and none of them touches the plugin registry. The two
invariants that read nothing else follow (`Unaliased.of_sameObjects`, `Constructed.of_sameObjects`):

* `constructed_run_of`: after any adds and removes, every live backend is an instance of a plugin
  class of the plugin registry, made for a configuration whose id it is live under.
-/

namespace SchemaFederation.Core

open Python

/-- A live object apart from the calls it has received: its identity and its class's behaviour. -/
def Backend.object (b : Backend) : Nat × Behaviour := (b.oid, b.behaviour)

/-- Calls do not change the object. -/
@[simp] theorem Backend.object_calls (b : Backend) (calls : List Call) :
    ({ b with calls } : Backend).object = b.object :=
  rfl

/-- Under every id, `g'` holds the object `g` holds there. -/
def SameObjects (g g' : Dict HashKey Backend) : Prop :=
  ∀ id, (g'.get? id).map Backend.object = (g.get? id).map Backend.object

namespace SameObjects

theorem refl (g : Dict HashKey Backend) : SameObjects g g := fun _ => rfl

theorem trans {g g' g'' : Dict HashKey Backend} (h : SameObjects g g') (h' : SameObjects g' g'') :
    SameObjects g g'' :=
  fun id => (h' id).trans (h id)

/-- Putting back under its id a live object that has received calls. -/
theorem insert {g : Dict HashKey Backend} {id : HashKey} {b b' : Backend} (hb : g.get? id = some b)
    (hobj : b'.object = b.object) : SameObjects g (g.insert id b') := by
  intro id'
  by_cases h : id' = id
  · subst h
    simp [hb, hobj]
  · rw [Dict.get?_insert_ne _ _ h]

theorem map {g : Dict HashKey Backend} {f : HashKey → Backend → Backend}
    (hf : ∀ id b, (f id b).object = b.object) : SameObjects g (g.map f) := by
  intro id
  rw [Dict.get?_map]
  cases g.get? id <;> simp [hf]

/-- An object live in `g'` was live in `g` under the same id. -/
theorem live {g g' : Dict HashKey Backend} (hs : SameObjects g g') {id : HashKey} {b' : Backend}
    (h : g'.get? id = some b') : ∃ b, g.get? id = some b ∧ b.object = b'.object := by
  have := hs id
  rw [h] at this
  cases hb : g.get? id with
  | none => simp [hb] at this
  | some b => exact ⟨b, rfl, by simpa [hb] using this.symm⟩

end SameObjects

namespace Orchestrator

/-- A state with the same live objects as `o` is unaliased when `o` is. -/
theorem Unaliased.of_sameObjects {o o' : Orchestrator} (hu : Unaliased o)
    (hp : o'.pluginRegistry = o.pluginRegistry)
    (hs : SameObjects o.activeRegistries o'.activeRegistries) : Unaliased o' := by
  have live : ∀ id b', o'.activeRegistries.get? id = some b' →
      ∃ b, o.activeRegistries.get? id = some b ∧ b.oid = b'.oid := fun id b' h' => by
    obtain ⟨b, hb, hobj⟩ := hs.live h'
    exact ⟨b, hb, congrArg Prod.fst hobj⟩
  constructor
  · intro id b' h'
    obtain ⟨b, hb, hoid⟩ := live id b' h'
    rw [hp, ← hoid]
    exact hu.oid_lt id b hb
  · intro id id' b₁ b₂ h₁ h₂ he
    obtain ⟨c₁, hc₁, hoid₁⟩ := live id b₁ h₁
    obtain ⟨c₂, hc₂, hoid₂⟩ := live id' b₂ h₂
    exact hu.oid_inj id id' c₁ c₂ hc₁ hc₂ (by rw [hoid₁, hoid₂, he])

/-! ## Every live object is a plugin's instance -/

/-- Every live backend is an instance of a plugin class of the plugin registry, made for a
configuration whose id is the key it is live under. -/
def Constructed (o : Orchestrator) : Prop :=
  ∀ id b, o.activeRegistries.get? id = some b → ∃ config pluginClass, config.id.hashKey = .ok id ∧
    o.pluginRegistry.plugins.get? config.type = some pluginClass ∧
    pluginClass.construct config = .ok b.behaviour

theorem constructed_fresh (plugins : Dict RegistryType PluginClass) (created : Nat) :
    Constructed (fresh plugins created) :=
  fun _ _ h => by simp [fresh, init] at h

/-- `add_registry` binds a new instance of the plugin for the config's type to the key of the
config's id, and keeps the plugin classes. -/
theorem addRegistry_constructs {o o' : Orchestrator} {config : RegistryConfig}
    (h : o.addRegistry config = .ok o') :
    ∃ pluginClass behaviour id, o.pluginRegistry.plugins.get? config.type = some pluginClass ∧
      pluginClass.construct config = .ok behaviour ∧ config.id.hashKey = .ok id ∧
      o'.activeRegistries = o.activeRegistries.insert id ⟨o.pluginRegistry.created, [], behaviour⟩ ∧
      o'.pluginRegistry.plugins = o.pluginRegistry.plugins := by
  unfold addRegistry at h
  split at h
  · cases h
  · next b pluginRegistry hcreate =>
    split at h
    · next id hid =>
      cases h
      obtain ⟨pluginClass, behaviour, hplugin, hconstruct, rfl, hplugins, -⟩ :=
        PluginRegistry.createInstance_eq_ok hcreate
      exact ⟨pluginClass, behaviour, id, hplugin, hconstruct, hid, rfl, hplugins⟩
    · cases h

theorem step_plugins (o : Orchestrator) (r : Request) :
    (step o r).pluginRegistry.plugins = o.pluginRegistry.plugins := by
  cases r with
  | remove instanceId => exact congrArg PluginRegistry.plugins (removeRegistry_pluginRegistry o _)
  | add config =>
    simp only [step]
    split
    · next o' h =>
      obtain ⟨-, -, -, -, -, -, -, hplugins⟩ := addRegistry_constructs h
      exact hplugins
    · rfl

theorem run_plugins (o : Orchestrator) (requests : List Request) :
    (run o requests).pluginRegistry.plugins = o.pluginRegistry.plugins := by
  induction requests generalizing o with
  | nil => rfl
  | cons r rs ih => exact (ih (step o r)).trans (step_plugins o r)

theorem constructed_step {o : Orchestrator} (hc : Constructed o) (r : Request) :
    Constructed (step o r) := by
  intro id b h
  rw [step_plugins]
  cases r with
  | remove instanceId => exact hc id b (get?_removeRegistry h).2
  | add config =>
    simp only [step] at h
    split at h
    · next o' hadd =>
      obtain ⟨pluginClass, behaviour, key, hplugin, hconstruct, hkey, hactive, -⟩ :=
        addRegistry_constructs hadd
      rcases Dict.get?_insert_eq_some.mp (hactive ▸ h) with ⟨rfl, rfl⟩ | ⟨-, h⟩
      · exact ⟨config, pluginClass, hkey, hplugin, hconstruct⟩
      · exact hc id b h
    · exact hc id b h

theorem constructed_run_of {o : Orchestrator} (hc : Constructed o) (requests : List Request) :
    Constructed (run o requests) := by
  induction requests generalizing o with
  | nil => exact hc
  | cons r rs ih => exact ih (constructed_step hc r)

/-- A state with the same live objects and plugin registry as `o` is constructed when `o` is. -/
theorem Constructed.of_sameObjects {o o' : Orchestrator} (hc : Constructed o)
    (hp : o'.pluginRegistry = o.pluginRegistry)
    (hs : SameObjects o.activeRegistries o'.activeRegistries) : Constructed o' := by
  intro id b' h'
  obtain ⟨b, hb, hobj⟩ := hs.live h'
  obtain ⟨config, pluginClass, hid, hplugin, hconstruct⟩ := hc id b hb
  have hbehaviour : b.behaviour = b'.behaviour := congrArg Prod.snd hobj
  rw [hp, ← hbehaviour]
  exact ⟨config, pluginClass, hid, hplugin, hconstruct⟩

/-! ## Each operation keeps the live objects -/

theorem listLoop_lookup_object (items : List (HashKey × Backend)) (id : HashKey) :
    ((listLoop items).2.lookup id).map Backend.object = (items.lookup id).map Backend.object := by
  induction items with
  | nil => rfl
  | cons p rest ih =>
    obtain ⟨id', b⟩ := p
    simp only [listLoop, Backend.getRegistryType, Backend.getSupportedFormats, Backend.invoke]
    by_cases h : id = id'
    · subst h
      cases b.behaviour b.calls .getRegistryType with
      | error e => simp
      | ok t =>
        dsimp only
        cases b.behaviour (b.calls ++ [.getRegistryType]) .getSupportedFormats <;> simp
    · cases b.behaviour b.calls .getRegistryType with
      | error e => simp [Dict.lookup_cons_ne _ _ h]
      | ok t =>
        dsimp only
        cases b.behaviour (b.calls ++ [.getRegistryType]) .getSupportedFormats <;>
          simp [Dict.lookup_cons_ne _ _ h, ih]

theorem listRegistries_sameObjects (o : Orchestrator) :
    SameObjects o.activeRegistries o.listRegistries.2.activeRegistries :=
  listLoop_lookup_object o.activeRegistries.items

theorem fanOut_sameObjects {β : Type} {visit : Backend → Option β × Backend}
    (hvisit : ∀ b, (visit b).2.object = b.object) (o : Orchestrator) :
    SameObjects o.activeRegistries (fanOut visit o).2.activeRegistries :=
  SameObjects.map fun _ b => hvisit b

theorem queryAll_sameObjects (o : Orchestrator) (operation : Call) :
    SameObjects o.activeRegistries (o.queryAll operation).2.activeRegistries :=
  fanOut_sameObjects (fun b => by
    simp only [Backend.invoke]
    cases b.behaviour b.calls operation <;> rfl) o

theorem findSchemaAcrossRegistries_sameObjects (o : Orchestrator) (subject : String) :
    SameObjects o.activeRegistries (o.findSchemaAcrossRegistries subject).2.activeRegistries :=
  fanOut_sameObjects (fun b => by
    simp only [Backend.getLatestSchema, Backend.invoke]
    cases b.behaviour b.calls (.getLatestSchema subject) <;> rfl) o

theorem compareCompatibilityModes_sameObjects (o : Orchestrator) :
    SameObjects o.activeRegistries o.compareCompatibilityModes.2.activeRegistries :=
  fanOut_sameObjects (fun b => by
    simp only [Backend.getCompatibilityMode, Backend.getAllCompatibilityModes, Backend.invoke]
    cases b.behaviour b.calls (.getCompatibilityMode none) with
    | error e => rfl
    | ok mode =>
      dsimp only
      cases b.behaviour (b.calls ++ [.getCompatibilityMode none]) .getAllCompatibilityModes <;>
        rfl) o

theorem healthCheckAll_sameObjects (o : Orchestrator) :
    SameObjects o.activeRegistries o.healthCheckAll.2.activeRegistries :=
  fanOut_sameObjects (fun b => by
    simp only [Backend.healthCheck, Backend.invoke]
    cases b.behaviour b.calls .healthCheck <;> rfl) o

theorem setRegistry_object (mode : CompatibilityMode) (subjectFilter : Option String)
    (b : Backend) : (setRegistry mode subjectFilter b).2.object = b.object := by
  unfold setRegistry
  split
  · simp only [Backend.listSubjects, Backend.invoke]
    cases b.behaviour b.calls (.listSubjects subjectFilter) with
    | error e => rfl
    | ok subjects =>
      obtain ⟨hoid, hbehaviour⟩ := setSubjects_oid_behaviour mode subjects Dict.empty
        { b with calls := b.calls ++ [.listSubjects subjectFilter] }
      simp only [Backend.object, hoid, hbehaviour]
  · rfl

theorem setRegistryTimes_object (mode : CompatibilityMode) (subjectFilter : Option String)
    (n : Nat) (b : Backend) : (setRegistryTimes mode subjectFilter n b).object = b.object := by
  induction n generalizing b with
  | zero => rfl
  | succ n ih => rw [setRegistryTimes, ih, setRegistry_object]

theorem bulkSetCompatibility_sameObjects (o : Orchestrator) (registryIds : List String)
    (mode : CompatibilityMode) (subjectFilter : Option String) :
    SameObjects o.activeRegistries
      (o.bulkSetCompatibility registryIds mode subjectFilter).2.activeRegistries := by
  intro id
  simp only [bulkSetCompatibility, bulkSetLoop_backend, Option.map_map]
  cases o.activeRegistries.get? id <;> simp [setRegistryTimes_object]

theorem listEntry_sameObjects (run : PoolRun) (subjectFilter : Option String) (k : Nat)
    (registryId : String) (registries : Dict HashKey Backend) :
    SameObjects registries (listEntry run subjectFilter k registryId registries).2 := by
  unfold listEntry
  cases hb : registries.get? (.str registryId) with
  | none => exact SameObjects.refl _
  | some b =>
    simp only [Backend.listSubjects, Backend.invoke]
    cases b.behaviour b.calls (.listSubjects subjectFilter) with
    | error e => exact SameObjects.insert hb rfl
    | ok subjects => exact SameObjects.insert hb rfl

theorem checkRegistries_sameObjects (run : PoolRun) (targetMode : CompatibilityMode)
    (subjectFilter : Option String) (k : Nat) (registryIds : List String) (acc : BulkAcc)
    (registries : Dict HashKey Backend) :
    SameObjects registries
      (checkRegistries run targetMode subjectFilter k registryIds acc registries).2 := by
  induction registryIds generalizing k acc registries with
  | nil => exact SameObjects.refl _
  | cons registryId rest ih =>
    exact (listEntry_sameObjects run subjectFilter k registryId registries).trans (ih _ _ _)

theorem bulkCheckCompatibility_sameObjects (o : Orchestrator) (run : PoolRun)
    (registryIds : List String) (targetMode : CompatibilityMode) (subjectFilter : Option String) :
    SameObjects o.activeRegistries
      (o.bulkCheckCompatibility run registryIds targetMode subjectFilter).2.activeRegistries :=
  checkRegistries_sameObjects run targetMode subjectFilter 0 registryIds _ _

end Orchestrator

end SchemaFederation.Core

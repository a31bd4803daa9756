import SchemaFederation.Core.Orchestrator.Registries

/-!
# Operations across registries

`query_all`, `find_schema_across_registries`, `compare_compatibility_modes`, `health_check_all`
and `bulk_set_compatibility` (`src/core/orchestrator.py`). Every backend call of these is inside a
`try`, so none of them raises: each is a total function here, returning the result dict and the
orchestrator whose backends have received the calls.

The first four loop over `active_registries` and make one backend's calls per item. Distinct ids
hold distinct objects (`Orchestrator.unaliased_run`), so the items are visited independently and
the loop is `fanOut`: the result dict has an entry for every id whose visit gives one
(`fanOut_get?`, `fanOut_keys`). `bulk_set_compatibility` loops over the given ids, duplicates
included, and visits a live one with `setRegistry`: a non-empty filter lists the backend's subjects
and sets the mode of each (`setSubjects`); `None` or `""` sets the global mode. The first four
report under the live ids, `bulk_set_compatibility` under the `str` ids it was given.

* `fanOut_isolated`, `bulkSetCompatibility_isolated`: the entry for an id is the same in any two
  orchestrators in which that id holds the same backend, whatever the other ids hold.
* `findSchemaAcrossRegistries_get?`: the result binds exactly the live ids whose
  `get_latest_schema` returned, each to that schema.
* `bulkSetCompatibility_keys`, `setRegistry_calls`: the result has one key per distinct live id
  of `registry_ids`, and every visit makes the calls above whatever earlier calls raised.
* `bulkSetCompatibility_reported`: every status in the result is what a call recorded on the
  registry's backend answered (`Reported`), so no subject is reported set that was not.
* `crossRegistry_spec` collects these. `bulkSetCompatibility_emptyFilter`: with the filter `""` no
  subject is listed and the global mode is set.
-/

namespace SchemaFederation.Core

open Python

namespace Orchestrator

/-! ## The loop over the live backends -/

/-- The loop shared by the first four operations: `visit` makes one backend's calls and gives the
entry for its id, if any. -/
def fanOut {β : Type} (visit : Backend → Option β × Backend) (o : Orchestrator) :
    Dict HashKey β × Orchestrator :=
  (o.activeRegistries.filterMap fun _ b => (visit b).1,
    { o with activeRegistries := o.activeRegistries.map fun _ b => (visit b).2 })

theorem fanOut_get? {β : Type} (visit : Backend → Option β × Backend) (o : Orchestrator)
    (id : HashKey) :
    (fanOut visit o).1.get? id = (o.activeRegistries.get? id).bind fun b => (visit b).1 :=
  Dict.get?_filterMap _ _ _

theorem fanOut_keys {β : Type} {visit : Backend → Option β × Backend}
    (h : ∀ b, ((visit b).1).isSome) (o : Orchestrator) :
    (fanOut visit o).1.keys = o.activeRegistries.keys := by
  simp only [fanOut, Dict.filterMap, Dict.keys]
  rw [Dict.filterMap_keys (fun _ b => (visit b).1)]
  simp [h]

/-- The entry an operation reports under `key` is the same in any two orchestrators in which the id
`liveId key` holds the same backend. -/
def Isolated {κ β : Type} [DecidableEq κ] (liveId : κ → HashKey)
    (op : Orchestrator → Dict κ β × Orchestrator) : Prop :=
  ∀ o₁ o₂ key, o₁.activeRegistries.get? (liveId key) = o₂.activeRegistries.get? (liveId key) →
    (op o₁).1.get? key = (op o₂).1.get? key

theorem fanOut_isolated {β : Type} (visit : Backend → Option β × Backend) :
    Isolated id (fanOut visit) :=
  fun _ _ _ h => by rw [fanOut_get?, fanOut_get?]; exact congrArg (Option.bind · _) h

/-! ## The four operations over all live backends -/

/-- An entry of `query_all`: `{"status": "success", "data": …}` or
`{"status": "error", "error": …}`. -/
inductive QueryOutcome (α : Type) where
  | success (data : α)
  | error (error : String)

/-- `query_all(operation, **kwargs)`: the method named `operation`, called with `kwargs`, is the
call `operation`. -/
def queryAll (o : Orchestrator) (operation : Call) :
    Dict HashKey (QueryOutcome operation.Response) × Orchestrator :=
  fanOut (fun b => match b.invoke operation with
    | (.ok result, b) => (some (.success result), b)
    | (.error e, b) => (some (.error e.str), b)) o

/-- `find_schema_across_registries(subject)`: an instance whose lookup raises is left out. -/
def findSchemaAcrossRegistries (o : Orchestrator) (subject : String) :
    Dict HashKey Schema × Orchestrator :=
  fanOut (fun b => match b.getLatestSchema subject with
    | (.ok schema, b) => (some schema, b)
    | (.error _, b) => (none, b)) o

/-- An entry of `compare_compatibility_modes`: `{"global": …, "subjects": {…}}` or
`{"error": …}`. -/
inductive ModesEntry where
  | modes (globalMode : String) (subjects : Dict String String)
  | error (error : String)

/-- `compare_compatibility_modes()`. -/
def compareCompatibilityModes (o : Orchestrator) : Dict HashKey ModesEntry × Orchestrator :=
  fanOut (fun b => match b.getCompatibilityMode none with
    | (.error e, b) => (some (.error e.str), b)
    | (.ok globalMode, b) =>
      match b.getAllCompatibilityModes with
      | (.error e, b) => (some (.error e.str), b)
      | (.ok subjectModes, b) =>
        (some (.modes globalMode.value (subjectModes.map fun _ mode => mode.value)), b)) o

/-- The status `health_check_all` reports for a probe that raised `e`. -/
def healthCheckException (e : PyException) : HealthStatus :=
  ⟨false, 0, "Health check exception: " ++ e.str, 0, [("error", .str e.str)]⟩

/-- `health_check_all()`. -/
def healthCheckAll (o : Orchestrator) : Dict HashKey HealthStatus × Orchestrator :=
  fanOut (fun b => match b.healthCheck with
    | (.ok health, b) => (some health, b)
    | (.error e, b) => (some (healthCheckException e), b)) o

theorem findSchemaAcrossRegistries_get? (o : Orchestrator) (subject : String) (id : HashKey)
    (s : Schema) :
    (o.findSchemaAcrossRegistries subject).1.get? id = some s ↔
      ∃ b, o.activeRegistries.get? id = some b ∧ (b.getLatestSchema subject).1 = .ok s := by
  rw [findSchemaAcrossRegistries, fanOut_get?]
  cases o.activeRegistries.get? id with
  | none => simp
  | some b => cases h : b.behaviour b.calls (.getLatestSchema subject) <;> simp [Backend.invoke, h]

/-- `health_check_all` reports for a live id what its backend's `health_check` returned, or the
exception status. -/
theorem healthCheckAll_get? (o : Orchestrator) (id : HashKey) :
    o.healthCheckAll.1.get? id = (o.activeRegistries.get? id).map fun b =>
      match b.behaviour b.calls .healthCheck with
      | .ok health => health
      | .error e => healthCheckException e := by
  rw [healthCheckAll, fanOut_get?]
  cases o.activeRegistries.get? id with
  | none => rfl
  | some b => cases h : b.behaviour b.calls .healthCheck <;> simp [Backend.invoke, h]

/-- A live registry is reported healthy iff its own `health_check` returned a healthy status. -/
theorem healthCheckAll_healthy_iff {o : Orchestrator} {id : HashKey} {b : Backend}
    (hb : o.activeRegistries.get? id = some b) :
    (∃ status, o.healthCheckAll.1.get? id = some status ∧ status.healthy = true) ↔
      ∃ status, b.behaviour b.calls .healthCheck = .ok status ∧ status.healthy = true := by
  rw [healthCheckAll_get?, hb]
  cases h : b.behaviour b.calls .healthCheck <;> simp [h, healthCheckException]

/-! ## Setting the mode on the given registries -/

/-- The status of one `set_compatibility_mode` call. -/
def setStatus : Except PyException Bool → String
  | .ok success => if success then "success" else "failed"
  | .error e => "error: " ++ e.str

/-- `for subject in subjects: …`, each call in its own `try`. -/
def setSubjects (mode : CompatibilityMode) :
    List String → Dict String String → Backend → Dict String String × Backend
  | [], statuses, b => (statuses, b)
  | subject :: rest, statuses, b =>
    let (r, b) := b.setCompatibilityMode mode (some subject)
    setSubjects mode rest (statuses.insert subject (setStatus r)) b

/-- What `bulk_set_compatibility` does with one live registry: its entry in the result. -/
def setRegistry (mode : CompatibilityMode) (subjectFilter : Option String) (b : Backend) :
    Dict String String × Backend :=
  if truthyOpt subjectFilter then
    match b.listSubjects subjectFilter with
    | (.error e, b) => (Dict.empty.insert "error" e.str, b)
    | (.ok subjects, b) => setSubjects mode subjects Dict.empty b
  else
    let (r, b) := b.setCompatibilityMode mode none
    (Dict.empty.insert "global" (setStatus r), b)

/-- `for registry_id in registry_ids: …`, with the result dict and the live backends. -/
def bulkSetLoop (mode : CompatibilityMode) (subjectFilter : Option String) :
    List String → Dict String (Dict String String) → Dict HashKey Backend →
      Dict String (Dict String String) × Dict HashKey Backend
  | [], results, registries => (results, registries)
  | registryId :: rest, results, registries =>
    match registries.get? (.str registryId) with
    | none => bulkSetLoop mode subjectFilter rest results registries
    | some b =>
      let (entry, b) := setRegistry mode subjectFilter b
      bulkSetLoop mode subjectFilter rest (results.insert registryId entry)
        (registries.insert (.str registryId) b)

/-- `bulk_set_compatibility(registry_ids, mode, subject_filter)`. -/
def bulkSetCompatibility (o : Orchestrator) (registryIds : List String) (mode : CompatibilityMode)
    (subjectFilter : Option String) : Dict String (Dict String String) × Orchestrator :=
  let r := bulkSetLoop mode subjectFilter registryIds Dict.empty o.activeRegistries
  (r.1, { o with activeRegistries := r.2 })

/-- The calls of one visit of `bulk_set_compatibility`: with a non-empty filter, the listing and,
when it returned, one `set_compatibility_mode(mode, subject)` per listed subject; otherwise one
`set_compatibility_mode(mode)`. -/
def setCalls (mode : CompatibilityMode) (subjectFilter : Option String) (b : Backend) : List Call :=
  if truthyOpt subjectFilter then
    .listSubjects subjectFilter ::
      match b.behaviour b.calls (.listSubjects subjectFilter) with
      | .ok subjects => subjects.map fun (s : String) => .setCompatibilityMode mode (some s)
      | .error _ => []
  else [.setCompatibilityMode mode none]

theorem setSubjects_calls (mode : CompatibilityMode) (subjects : List String)
    (statuses : Dict String String) (b : Backend) :
    (setSubjects mode subjects statuses b).2.calls =
      b.calls ++ subjects.map fun s => .setCompatibilityMode mode (some s) := by
  induction subjects generalizing statuses b with
  | nil => simp [setSubjects]
  | cons s rest ih => simp [setSubjects, ih]

theorem setSubjects_oid_behaviour (mode : CompatibilityMode) (subjects : List String)
    (statuses : Dict String String) (b : Backend) :
    (setSubjects mode subjects statuses b).2.oid = b.oid ∧
      (setSubjects mode subjects statuses b).2.behaviour = b.behaviour := by
  induction subjects generalizing statuses b with
  | nil => simp [setSubjects]
  | cons s rest ih => simp [setSubjects, ih]

/-- Every visit makes its calls whatever the earlier calls answered. -/
theorem setRegistry_calls (mode : CompatibilityMode) (subjectFilter : Option String) (b : Backend) :
    (setRegistry mode subjectFilter b).2.calls = b.calls ++ setCalls mode subjectFilter b := by
  unfold setRegistry setCalls
  split
  · cases h : b.behaviour b.calls (.listSubjects subjectFilter) <;>
      simp [Backend.invoke, h, setSubjects_calls]
  · simp

/-- The backend after `n` visits of `bulk_set_compatibility`. -/
def setRegistryTimes (mode : CompatibilityMode) (subjectFilter : Option String) :
    Nat → Backend → Backend
  | 0, b => b
  | n + 1, b => setRegistryTimes mode subjectFilter n (setRegistry mode subjectFilter b).2

theorem bulkSetLoop_congr (mode : CompatibilityMode) (subjectFilter : Option String)
    (registryIds : List String) {r₁ r₂ : Dict String (Dict String String)}
    {g₁ g₂ : Dict HashKey Backend} {id : String} (hr : r₁.get? id = r₂.get? id)
    (hg : g₁.get? (.str id) = g₂.get? (.str id)) :
    (bulkSetLoop mode subjectFilter registryIds r₁ g₁).1.get? id =
        (bulkSetLoop mode subjectFilter registryIds r₂ g₂).1.get? id ∧
      (bulkSetLoop mode subjectFilter registryIds r₁ g₁).2.get? (.str id) =
        (bulkSetLoop mode subjectFilter registryIds r₂ g₂).2.get? (.str id) := by
  induction registryIds generalizing r₁ r₂ g₁ g₂ with
  | nil => exact ⟨hr, hg⟩
  | cons rid rest ih =>
    simp only [bulkSetLoop]
    by_cases he : rid = id
    · subst he
      rw [hg]
      cases g₂.get? (.str rid) with
      | none => exact ih hr hg
      | some b => exact ih (by simp) (by simp)
    · have hne := Ne.symm he
      have hne' : HashKey.str id ≠ .str rid := fun h => hne (HashKey.str.inj h)
      cases g₁.get? (.str rid) <;> cases g₂.get? (.str rid) <;>
        exact ih (by simp [Dict.get?_insert_ne _ _ hne, hr])
          (by simp [Dict.get?_insert_ne _ _ hne', hg])

theorem bulkSetLoop_backend (mode : CompatibilityMode) (subjectFilter : Option String)
    (registryIds : List String) (r : Dict String (Dict String String)) (g : Dict HashKey Backend)
    (id : HashKey) :
    (bulkSetLoop mode subjectFilter registryIds r g).2.get? id =
      (g.get? id).map (setRegistryTimes mode subjectFilter ((registryIds.map .str).count id)) := by
  induction registryIds generalizing r g with
  | nil => simp only [bulkSetLoop, List.map_nil, List.count_nil]; cases g.get? id <;> rfl
  | cons rid rest ih =>
    simp only [bulkSetLoop]
    split
    · next h =>
      rw [ih]
      by_cases he : HashKey.str rid = id
      · subst he; simp [h]
      · simp [List.count_cons, he]
    · next b h =>
      rw [ih]
      by_cases he : HashKey.str rid = id
      · subst he; simp [h, List.count_cons, setRegistryTimes]
      · simp [Dict.get?_insert_ne _ _ (Ne.symm he), List.count_cons, he]

theorem bulkSetLoop_isSome (mode : CompatibilityMode) (subjectFilter : Option String)
    (registryIds : List String) (r : Dict String (Dict String String)) (g : Dict HashKey Backend)
    (id : String) :
    ((bulkSetLoop mode subjectFilter registryIds r g).1.get? id).isSome ↔
      (r.get? id).isSome ∨ (id ∈ registryIds ∧ (g.get? (.str id)).isSome) := by
  induction registryIds generalizing r g with
  | nil => simp [bulkSetLoop]
  | cons rid rest ih =>
    simp only [bulkSetLoop]
    split
    · next h =>
      rw [ih]
      by_cases he : rid = id
      · subst he; simp [h]
      · simp [Ne.symm he]
    · next b h =>
      rw [ih]
      by_cases he : rid = id
      · subst he; simp [h]
      · have hne' : HashKey.str id ≠ .str rid := fun h => he (HashKey.str.inj h).symm
        simp [Dict.get?_insert_ne _ _ (Ne.symm he), Dict.get?_insert_ne _ _ hne', Ne.symm he]

theorem bulkSetCompatibility_isolated (registryIds : List String) (mode : CompatibilityMode)
    (subjectFilter : Option String) :
    Isolated HashKey.str (bulkSetCompatibility · registryIds mode subjectFilter) :=
  fun _ _ _ h => (bulkSetLoop_congr mode subjectFilter registryIds rfl h).1

theorem bulkSetCompatibility_keys (o : Orchestrator) (registryIds : List String)
    (mode : CompatibilityMode) (subjectFilter : Option String) (id : String) :
    id ∈ (o.bulkSetCompatibility registryIds mode subjectFilter).1.keys ↔
      id ∈ registryIds ∧ HashKey.str id ∈ o.activeRegistries.keys := by
  rw [← Dict.isSome_get?_iff, ← Dict.isSome_get?_iff]
  simpa using bulkSetLoop_isSome mode subjectFilter registryIds Dict.empty o.activeRegistries id

/-! ## What the report of `bulk_set_compatibility` rests on -/

/-- The entry `key: status` of a registry's report in `bulk_set_compatibility` rests on a call that
the registry's backend `b` received: `"error"` with a non-empty filter is `str(e)` for a listing
that raised `e`; any other entry is the status of a `set_compatibility_mode` call, for the subject
`key` with a non-empty filter and for the global mode under `"global"` without one. -/
def Reported (mode : CompatibilityMode) (subjectFilter : Option String) (b : Backend)
    (key status : String) : Prop :=
  (truthyOpt subjectFilter ∧ key = "error" ∧
      ∃ pre e, pre ++ [.listSubjects subjectFilter] <+: b.calls ∧
        b.behaviour pre (.listSubjects subjectFilter) = .error e ∧ status = e.str) ∨
  ∃ pre target, pre ++ [.setCompatibilityMode mode target] <+: b.calls ∧
    (truthyOpt subjectFilter ∧ target = some key ∨
      truthyOpt subjectFilter = false ∧ target = none ∧ key = "global") ∧
    status = setStatus (b.behaviour pre (.setCompatibilityMode mode target))

/-- Every entry of the result of `bulk_set_compatibility` rests on calls that the backend now live
under its id received. -/
def ReportsOn (mode : CompatibilityMode) (subjectFilter : Option String)
    (results : Dict String (Dict String String)) (registries : Dict HashKey Backend) : Prop :=
  ∀ id entry, results.get? id = some entry → ∃ b, registries.get? (.str id) = some b ∧
    ∀ key status, entry.get? key = some status → Reported mode subjectFilter b key status

section
variable {mode : CompatibilityMode} {subjectFilter : Option String}

theorem Reported.mono {b b' : Backend} {key status : String}
    (h : Reported mode subjectFilter b key status) (hb : b'.behaviour = b.behaviour)
    (hc : b.calls <+: b'.calls) : Reported mode subjectFilter b' key status := by
  rcases h with ⟨hf, hk, pre, e, hpre, he, hs⟩ | ⟨pre, target, hpre, ht, hs⟩
  · exact .inl ⟨hf, hk, pre, e, hpre.trans hc, by rw [hb]; exact he, hs⟩
  · exact .inr ⟨pre, target, hpre.trans hc, ht, by rw [hb]; exact hs⟩

/-- The call just made is recorded. -/
theorem Reported.invoke_set (b : Backend) (target : Option String) {key : String}
    (ht : truthyOpt subjectFilter ∧ target = some key ∨
      truthyOpt subjectFilter = false ∧ target = none ∧ key = "global") :
    Reported mode subjectFilter (b.invoke (.setCompatibilityMode mode target)).2 key
      (setStatus (b.behaviour b.calls (.setCompatibilityMode mode target))) :=
  .inr ⟨b.calls, target, List.prefix_refl _, ht, rfl⟩

theorem setSubjects_reported (hf : truthyOpt subjectFilter) (subjects : List String)
    {statuses : Dict String String} {b : Backend}
    (h : ∀ key status, statuses.get? key = some status → Reported mode subjectFilter b key status)
    (key status : String) (hs : (setSubjects mode subjects statuses b).1.get? key = some status) :
    Reported mode subjectFilter (setSubjects mode subjects statuses b).2 key status := by
  induction subjects generalizing statuses b with
  | nil => exact h key status hs
  | cons s rest ih =>
    refine ih (fun key status hs => ?_) hs
    rcases Dict.get?_insert_eq_some.mp hs with ⟨rfl, rfl⟩ | ⟨-, hs⟩
    · exact Reported.invoke_set b _ (.inl ⟨hf, rfl⟩)
    · exact (h key status hs).mono rfl (List.prefix_append _ _)

theorem setRegistry_reported (b : Backend) (key status : String)
    (hs : (setRegistry mode subjectFilter b).1.get? key = some status) :
    Reported mode subjectFilter (setRegistry mode subjectFilter b).2 key status := by
  unfold setRegistry at hs ⊢
  split
  · next hf =>
    rw [if_pos hf] at hs
    cases hl : b.behaviour b.calls (.listSubjects subjectFilter) with
    | error e =>
      simp only [Backend.listSubjects, Backend.invoke, hl] at hs ⊢
      rcases Dict.get?_insert_eq_some.mp hs with ⟨rfl, rfl⟩ | ⟨-, hs⟩
      · exact .inl ⟨hf, rfl, b.calls, e, List.prefix_refl _, hl, rfl⟩
      · simp at hs
    | ok subjects =>
      simp only [Backend.listSubjects, Backend.invoke, hl] at hs ⊢
      exact setSubjects_reported hf subjects (by simp) key status hs
  · next hf =>
    rw [if_neg hf] at hs
    rcases Dict.get?_insert_eq_some.mp hs with ⟨rfl, rfl⟩ | ⟨-, hs⟩
    · exact Reported.invoke_set b none (.inr ⟨by simpa using hf, rfl, rfl⟩)
    · simp at hs

theorem bulkSetLoop_reportsOn (registryIds : List String)
    {results : Dict String (Dict String String)} {registries : Dict HashKey Backend}
    (h : ReportsOn mode subjectFilter results registries) :
    ReportsOn mode subjectFilter (bulkSetLoop mode subjectFilter registryIds results registries).1
      (bulkSetLoop mode subjectFilter registryIds results registries).2 := by
  induction registryIds generalizing results registries with
  | nil => exact h
  | cons rid rest ih =>
    simp only [bulkSetLoop]
    split
    · exact ih h
    · next b _ =>
      refine ih fun id entry hentry => ?_
      rcases Dict.get?_insert_eq_some.mp hentry with ⟨rfl, rfl⟩ | ⟨hne, hentry⟩
      · exact ⟨_, Dict.get?_insert_self _ _ _, setRegistry_reported b⟩
      · rw [Dict.get?_insert_ne _ _ fun h => hne (HashKey.str.inj h)]
        exact h id entry hentry

end

/-- `query_all`, `health_check_all` and `compare_compatibility_modes` have exactly one entry per
live id; `find_schema_across_registries` binds exactly the live ids whose `get_latest_schema`
returned, each to that schema; `bulk_set_compatibility` has one key per distinct live id of
`registry_ids`, each visit of a backend makes the calls of `setCalls` whatever earlier calls raised,
and a backend is visited once per occurrence of its id; and in all five the entry for an id is the
same in any two orchestrators in which that id holds the same backend. -/
theorem crossRegistry_spec :
    (∀ (o : Orchestrator) (operation : Call),
      (o.queryAll operation).1.keys = o.activeRegistries.keys) ∧
    (∀ o : Orchestrator, o.healthCheckAll.1.keys = o.activeRegistries.keys) ∧
    (∀ o : Orchestrator, o.compareCompatibilityModes.1.keys = o.activeRegistries.keys) ∧
    (∀ (o : Orchestrator) (subject : String) (id : HashKey) (s : Schema),
      (o.findSchemaAcrossRegistries subject).1.get? id = some s ↔
        ∃ b, o.activeRegistries.get? id = some b ∧ (b.getLatestSchema subject).1 = .ok s) ∧
    (∀ (o : Orchestrator) (registryIds : List String) (mode : CompatibilityMode)
      (subjectFilter : Option String) (id : String),
      id ∈ (o.bulkSetCompatibility registryIds mode subjectFilter).1.keys ↔
        id ∈ registryIds ∧ HashKey.str id ∈ o.activeRegistries.keys) ∧
    (∀ (mode : CompatibilityMode) (subjectFilter : Option String) (b : Backend),
      (setRegistry mode subjectFilter b).2.calls = b.calls ++ setCalls mode subjectFilter b) ∧
    (∀ (o : Orchestrator) (registryIds : List String) (mode : CompatibilityMode)
      (subjectFilter : Option String) (id : HashKey),
      (o.bulkSetCompatibility registryIds mode subjectFilter).2.activeRegistries.get? id =
        (o.activeRegistries.get? id).map
          (setRegistryTimes mode subjectFilter ((registryIds.map .str).count id))) ∧
    (∀ operation : Call, Isolated id (queryAll · operation)) ∧ Isolated id healthCheckAll ∧
    Isolated id compareCompatibilityModes ∧
    (∀ subject : String, Isolated id (findSchemaAcrossRegistries · subject)) ∧
    (∀ (registryIds : List String) (mode : CompatibilityMode) (subjectFilter : Option String),
      Isolated HashKey.str (bulkSetCompatibility · registryIds mode subjectFilter)) := by
  refine ⟨fun o operation => fanOut_keys ?_ o, fun o => fanOut_keys ?_ o, fun o => fanOut_keys ?_ o,
    findSchemaAcrossRegistries_get?, bulkSetCompatibility_keys, setRegistry_calls,
    fun o registryIds mode subjectFilter id =>
      bulkSetLoop_backend mode subjectFilter registryIds Dict.empty o.activeRegistries id,
    fun operation => fanOut_isolated _, fanOut_isolated _, fanOut_isolated _,
    fun subject => fanOut_isolated _, bulkSetCompatibility_isolated⟩ <;>
  intro b <;> repeat' split
  all_goals rfl

/-- A backend with the subject `orders-value` whose mode can be set. -/
def settableBackend : Backend where
  oid := 0
  calls := []
  behaviour := fun _ c => match c with
    | .listSubjects _ => .ok ["orders-value"]
    | .setCompatibilityMode .. => .ok true
    | _ => .error ⟨.notImplementedError, ""⟩

/-- With the filter `""`, `bulk_set_compatibility` lists no subjects and sets the global mode. -/
theorem bulkSetCompatibility_emptyFilter :
    ((bulkSetCompatibility
        ⟨⟨Dict.empty, Dict.empty, 1⟩, Dict.empty.insert (.str "reg1") settableBackend⟩
        ["reg1"] .full (some "")).2.activeRegistries.get? (.str "reg1")).map Backend.calls =
      some [.setCompatibilityMode .full none] := by
  rfl

end Orchestrator

end SchemaFederation.Core

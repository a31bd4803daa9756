import SchemaFederation.Core.Orchestrator.CheckSubject
import SchemaFederation.Core.Orchestrator.Registries

/-!
# The bulk compatibility checker

`MultiBackendOrchestrator.bulk_check_compatibility`: for each entry of `registry_ids` that names a
live registry, list its subjects, submit one `_check_single_subject` task per subject to the worker
pool, and collect the futures with `as_completed`, counting compatible and incompatible results; a
listing that raises counts as an error. `listEntry` is the listing of one entry, `submitAll` the
submission loop, `collectOne` one iteration of the collection loop.

The pool is `PoolRun`: the backend each task talks to, the calls the tasks made on the registry,
and the order in which `as_completed` yields the futures, which is a permutation of them (a field of
the structure). Tasks run concurrently on one backend, so the answers a task gets depend on the
other tasks' calls; quantifying over the backend each task sees covers every interleaving. The
wall-clock duration is left out.

* `collect_extends`: collecting futures in any order appends their records, in that order, and
  adds their verdicts to the counters.
* `bulkCheckCompatibility_spec`: the results are a permutation of one record per pair (live entry of
  `registry_ids` whose listing returned, subject of that listing), in submission order, each
  carrying the result its task returned; `total_checked` is the number of results, `compatible`
  and `incompatible` count them by verdict, and `errors` is the number of listings that raised.
  `_check_single_subject` never raises, so the collection loop's `except` branch never runs.
* `failedCheck_countedIncompatible`: a check whose `list_versions` raises is reported as an
  incompatible result, not as an error.
-/

namespace SchemaFederation.Core

open Python

/-- A submitted task: the registry id and subject that `futures[future]` holds, and what
`future.result()` gives. -/
structure Future where
  registryId : String
  subject : String
  outcome : Except PyException CompatibilityResult

/-- How the worker pool runs the tasks of the `k`-th entry of `registry_ids`. -/
structure PoolRun where
  /-- The backend as the `j`-th task of entry `k` saw it. -/
  view : Nat → Nat → Backend
  /-- The calls the tasks of entry `k` made on the registry, in the order it received them. -/
  served : Nat → List Call
  /-- The order in which `as_completed` yields the futures of entry `k`. -/
  completion : Nat → List Future → List Future
  completion_perm : ∀ k futures, (completion k futures).Perm futures

/-- What the `j`-th task of entry `k` returns: `_check_single_subject` on the backend it saw. -/
def PoolRun.task (run : PoolRun) (k j : Nat) (subject : String) (targetMode : CompatibilityMode) :
    CompatibilityResult :=
  (checkSingleSubject (run.view k j) subject targetMode).1

/-- A pool that runs every task on `b` and completes them in submission order. -/
def PoolRun.inOrder (b : Backend) (served : List Call) : PoolRun :=
  ⟨fun _ _ => b, fun _ => served, fun _ futures => futures, fun _ futures => .refl futures⟩

/-- The accumulators of `bulk_check_compatibility`. -/
structure BulkAcc where
  allResults : List SubjectRecord
  compatibleCount : Nat
  incompatibleCount : Nat
  errorCount : Nat
  totalChecked : Nat

/-- The record the collection loop makes of a result. -/
def SubjectRecord.ofResult (registryId subject : String) (result : CompatibilityResult) :
    SubjectRecord :=
  ⟨registryId, subject, result.isCompatible, result.messages, result.errors⟩

/-- The record the collection loop makes of a future, in its `try` or in its `except`. -/
def Future.record (f : Future) : SubjectRecord :=
  match f.outcome with
  | .ok result => .ofResult f.registryId f.subject result
  | .error e => ⟨f.registryId, f.subject, false, [], [e.str]⟩

/-! ## The accumulators -/

/-- `acc'` is `acc` after collecting the records `recs` of results that returned, in some order,
and `errs` failed listings. -/
structure BulkAcc.Extends (acc' acc : BulkAcc) (recs : List SubjectRecord) (errs : Nat) : Prop where
  results_perm : acc'.allResults.Perm (acc.allResults ++ recs)
  compatible_eq : acc'.compatibleCount = acc.compatibleCount + recs.countP (·.isCompatible)
  incompatible_eq : acc'.incompatibleCount = acc.incompatibleCount + recs.countP (!·.isCompatible)
  errors_eq : acc'.errorCount = acc.errorCount + errs
  total_eq : acc'.totalChecked = acc.totalChecked + recs.length

theorem BulkAcc.Extends.refl (acc : BulkAcc) : acc.Extends acc [] 0 :=
  ⟨by simp, rfl, rfl, rfl, rfl⟩

theorem BulkAcc.Extends.trans {a b c : BulkAcc} {r r' : List SubjectRecord} {e e' : Nat}
    (h : b.Extends a r e) (h' : c.Extends b r' e') : c.Extends a (r ++ r') (e + e') where
  results_perm := h'.results_perm.trans <| by
    simpa only [List.append_assoc] using h.results_perm.append_right r'
  compatible_eq := by rw [h'.compatible_eq, h.compatible_eq, List.countP_append]; omega
  incompatible_eq := by rw [h'.incompatible_eq, h.incompatible_eq, List.countP_append]; omega
  errors_eq := by rw [h'.errors_eq, h.errors_eq]; omega
  total_eq := by rw [h'.total_eq, h.total_eq, List.length_append]; omega

theorem BulkAcc.Extends.of_perm {a b : BulkAcc} {r r' : List SubjectRecord} {e : Nat}
    (h : b.Extends a r e) (hr : r.Perm r') : b.Extends a r' e where
  results_perm := h.results_perm.trans (hr.append_left _)
  compatible_eq := h.compatible_eq.trans (by rw [hr.countP_eq])
  incompatible_eq := h.incompatible_eq.trans (by rw [hr.countP_eq])
  errors_eq := h.errors_eq
  total_eq := h.total_eq.trans (by rw [hr.length_eq])

namespace Orchestrator

/-- `for subject in subjects: futures[executor.submit(…)] = (registry_id, subject)`. -/
def submitAll (run : PoolRun) (k : Nat) (registryId : String) (targetMode : CompatibilityMode) :
    Nat → List String → List Future
  | _, [] => []
  | j, subject :: rest =>
    ⟨registryId, subject, .ok (run.task k j subject targetMode)⟩ ::
      submitAll run k registryId targetMode (j + 1) rest

/-- One iteration of `for future in as_completed(futures): …`. -/
def collectOne (acc : BulkAcc) (f : Future) : BulkAcc :=
  match f.outcome with
  | .ok result =>
    { acc with
      totalChecked := acc.totalChecked + 1
      allResults := acc.allResults ++ [.ofResult f.registryId f.subject result]
      compatibleCount :=
        if result.isCompatible then acc.compatibleCount + 1 else acc.compatibleCount
      incompatibleCount :=
        if result.isCompatible then acc.incompatibleCount else acc.incompatibleCount + 1 }
  | .error e =>
    { acc with
      totalChecked := acc.totalChecked + 1
      errorCount := acc.errorCount + 1
      allResults := acc.allResults ++ [⟨f.registryId, f.subject, false, [], [e.str]⟩] }

/-- Entry `k` of `registry_ids`: `none` for an id with no live registry, else what `list_subjects`
answered; and the registries after the listing and the entry's tasks. -/
def listEntry (run : PoolRun) (subjectFilter : Option String) (k : Nat) (registryId : String)
    (registries : Dict HashKey Backend) :
    Option (Except PyException (List String)) × Dict HashKey Backend :=
  match registries.get? (.str registryId) with
  | none => (none, registries)
  | some registry =>
    match registry.listSubjects subjectFilter with
    | (.error e, registry) => (some (.error e), registries.insert (.str registryId) registry)
    | (.ok subjects, registry) =>
      (some (.ok subjects), registries.insert (.str registryId)
        { registry with calls := registry.calls ++ run.served k })

/-- `for registry_id in registry_ids: …` from entry `k` on. -/
def checkRegistries (run : PoolRun) (targetMode : CompatibilityMode)
    (subjectFilter : Option String) :
    Nat → List String → BulkAcc → Dict HashKey Backend → BulkAcc × Dict HashKey Backend
  | _, [], acc, registries => (acc, registries)
  | k, registryId :: rest, acc, registries =>
    let (listing, registries) := listEntry run subjectFilter k registryId registries
    let acc := match listing with
      | none => acc
      | some (.error _) => { acc with errorCount := acc.errorCount + 1 }
      | some (.ok subjects) =>
        (run.completion k (submitAll run k registryId targetMode 0 subjects)).foldl collectOne acc
    checkRegistries run targetMode subjectFilter (k + 1) rest acc registries

/-- `bulk_check_compatibility(registry_ids, target_mode, subject_filter)`, run by the pool as
`run` says. -/
def bulkCheckCompatibility (o : Orchestrator) (run : PoolRun) (registryIds : List String)
    (targetMode : CompatibilityMode) (subjectFilter : Option String) :
    BulkCheckResult × Orchestrator :=
  let r := checkRegistries run targetMode subjectFilter 0 registryIds ⟨[], 0, 0, 0, 0⟩
    o.activeRegistries
  (⟨r.1.totalChecked, r.1.compatibleCount, r.1.incompatibleCount, r.1.errorCount, r.1.allResults⟩,
    { o with activeRegistries := r.2 })

/-! ## What a run is expected to report -/

/-- The listings of a run: for each entry of `registry_ids` that names a live registry, its
position, its id, and what that registry's backend answered to `list_subjects(prefix=…)` after the
calls made so far. The backend then has the listing and, when it returned, the tasks' calls. -/
def listings (run : PoolRun) (subjectFilter : Option String) :
    Nat → List String → Dict HashKey Backend →
      List (Nat × String × Except PyException (List String))
  | _, [], _ => []
  | k, registryId :: rest, registries =>
    match registries.get? (.str registryId) with
    | none => listings run subjectFilter (k + 1) rest registries
    | some b =>
      let answer := b.behaviour b.calls (.listSubjects subjectFilter)
      let served := match answer with
        | .ok _ => run.served k
        | .error _ => []
      (k, registryId, answer) :: listings run subjectFilter (k + 1) rest
        (registries.insert (.str registryId)
          { b with calls := b.calls ++ .listSubjects subjectFilter :: served })

/-- One record per subject of the listing `(k, registryId, answer)`, when it returned: the pair,
and the verdict, messages and errors of `_check_single_subject` on the backend the pair's task
saw. -/
def pairRecords (run : PoolRun) (targetMode : CompatibilityMode) :
    Nat × String × Except PyException (List String) → List SubjectRecord
  | (k, registryId, .ok subjects) =>
    subjects.enum.map fun (j, subject) =>
      let result := (checkSingleSubject (run.view k j) subject targetMode).1
      ⟨registryId, subject, result.isCompatible, result.messages, result.errors⟩
  | (_, _, .error _) => []

/-- The listing raised. -/
def listingFailed : Nat × String × Except PyException (List String) → Bool
  | (_, _, .error _) => true
  | (_, _, .ok _) => false

/-! ## Collecting -/

/-- Collecting a future whose task returned appends its record and counts its verdict. -/
theorem collectOne_extends (acc : BulkAcc) (f : Future) (result : CompatibilityResult)
    (h : f.outcome = .ok result) : (collectOne acc f).Extends acc [f.record] 0 := by
  simp only [collectOne, Future.record, h]
  cases hc : result.isCompatible <;>
    exact ⟨.refl _, by simp [SubjectRecord.ofResult, hc], by simp [SubjectRecord.ofResult, hc], rfl,
      rfl⟩

/-- Collecting futures whose tasks all returned, in the order given, appends their records. -/
theorem collect_extends (fs : List Future) (hok : ∀ f ∈ fs, ∃ r, f.outcome = .ok r)
    (acc : BulkAcc) : (fs.foldl collectOne acc).Extends acc (fs.map Future.record) 0 := by
  induction fs generalizing acc with
  | nil => exact .refl acc
  | cons f fs ih =>
    obtain ⟨r, hr⟩ := hok f (.head _)
    simpa using (collectOne_extends acc f r hr).trans
      (ih (fun g hg => hok g (.tail _ hg)) (collectOne acc f))

/-- Every task submitted returns: `_check_single_subject` catches what the backend raises. -/
theorem submitAll_ok (run : PoolRun) (k : Nat) (registryId : String)
    (targetMode : CompatibilityMode) (j : Nat) (subjects : List String) :
    ∀ f ∈ submitAll run k registryId targetMode j subjects, ∃ r, f.outcome = .ok r := by
  induction subjects generalizing j with
  | nil => simp [submitAll]
  | cons s rest ih => simpa [submitAll] using ih (j + 1)

theorem submitAll_records (run : PoolRun) (k : Nat) (registryId : String)
    (targetMode : CompatibilityMode) (j : Nat) (subjects : List String) :
    (submitAll run k registryId targetMode j subjects).map Future.record =
      (subjects.enumFrom j).map fun (i, subject) =>
        SubjectRecord.ofResult registryId subject (run.task k i subject targetMode) := by
  induction subjects generalizing j with
  | nil => rfl
  | cons s rest ih => simp [submitAll, Future.record, ih]

/-- One entry of the registry loop, whatever the pool's completion order. -/
theorem checkEntry_extends (run : PoolRun) (targetMode : CompatibilityMode) (k : Nat)
    (registryId : String) (acc : BulkAcc) (answer : Except PyException (List String)) :
    (match answer with
      | .error _ => { acc with errorCount := acc.errorCount + 1 }
      | .ok subjects =>
        (run.completion k (submitAll run k registryId targetMode 0 subjects)).foldl collectOne acc :
        BulkAcc).Extends acc (pairRecords run targetMode (k, registryId, answer))
        (if listingFailed (k, registryId, answer) then 1 else 0) := by
  cases answer with
  | error e => exact ⟨by simp [pairRecords], by simp [pairRecords], by simp [pairRecords], rfl,
      by simp [pairRecords]⟩
  | ok subjects =>
    have hperm := run.completion_perm k (submitAll run k registryId targetMode 0 subjects)
    have hc := collect_extends _ (fun f hf => submitAll_ok run k registryId targetMode 0 subjects f
      (hperm.mem_iff.mp hf)) acc
    simpa [pairRecords, listingFailed, submitAll_records, List.enum] using
      hc.of_perm (hperm.map Future.record)

/-- `listEntry` reads the registry's answer to the listing, and leaves the backend with the
listing's call and, when it returned, the tasks' calls. -/
theorem listEntry_eq (run : PoolRun) (subjectFilter : Option String) (k : Nat) (registryId : String)
    (registries : Dict HashKey Backend) :
    listEntry run subjectFilter k registryId registries =
      match registries.get? (.str registryId) with
      | none => (none, registries)
      | some b =>
        (some (b.behaviour b.calls (.listSubjects subjectFilter)),
          registries.insert (.str registryId)
            { b with calls := b.calls ++ .listSubjects subjectFilter ::
              (match b.behaviour b.calls (.listSubjects subjectFilter) with
              | .ok _ => run.served k
              | .error _ => []) }) := by
  unfold listEntry
  cases registries.get? (.str registryId) with
  | none => rfl
  | some b =>
    cases h : b.behaviour b.calls (.listSubjects subjectFilter) <;>
      simp [Backend.invoke, h]

/-- The registry loop from entry `k` on collects every pair's record and counts every failed
listing. -/
theorem checkRegistries_extends (run : PoolRun) (targetMode : CompatibilityMode)
    (subjectFilter : Option String) (k : Nat) (registryIds : List String) (acc : BulkAcc)
    (registries : Dict HashKey Backend) :
    let ls := listings run subjectFilter k registryIds registries
    (checkRegistries run targetMode subjectFilter k registryIds acc registries).1.Extends acc
      (ls.flatMap (pairRecords run targetMode)) (ls.countP listingFailed) := by
  induction registryIds generalizing k acc registries with
  | nil => exact .refl acc
  | cons registryId rest ih =>
    simp only [checkRegistries, listings, listEntry_eq]
    cases registries.get? (.str registryId) with
    | none => exact ih (k + 1) acc registries
    | some b =>
      dsimp only
      generalize b.behaviour b.calls (.listSubjects subjectFilter) = answer
      have h := (checkEntry_extends run targetMode k registryId acc answer).trans (ih (k + 1) _
        (registries.insert (.str registryId)
          { b with calls := b.calls ++ .listSubjects subjectFilter ::
            (match answer with | .ok _ => run.served k | .error _ => []) }))
      cases answer <;> simpa [List.countP_cons, Nat.add_comm] using h

/-! ## The report -/

theorem countP_isCompatible_add (recs : List SubjectRecord) :
    recs.countP (·.isCompatible) + recs.countP (!·.isCompatible) = recs.length := by
  induction recs with
  | nil => rfl
  | cons r recs ih => cases h : r.isCompatible <;> simp [h, ← ih] <;> omega

/-- Whatever each task's backend answered and whatever order the pool completed the tasks in,
`bulk_check_compatibility` reports one record per pair (live entry of `registry_ids` whose listing
returned, subject of that listing) with the result of that pair's task, counts the records by
verdict, and counts as errors exactly the listings that raised. -/
theorem bulkCheckCompatibility_spec (o : Orchestrator) (run : PoolRun) (registryIds : List String)
    (targetMode : CompatibilityMode) (subjectFilter : Option String) :
    let r := (o.bulkCheckCompatibility run registryIds targetMode subjectFilter).1
    let ls := listings run subjectFilter 0 registryIds o.activeRegistries
    r.results.Perm (ls.flatMap (pairRecords run targetMode)) ∧
    r.totalChecked = r.results.length ∧
    r.compatible = r.results.countP (·.isCompatible) ∧
    r.incompatible = r.results.countP (!·.isCompatible) ∧
    r.errors = ls.countP listingFailed ∧
    r.totalChecked = r.compatible + r.incompatible + (r.errors - ls.countP listingFailed) := by
  intro r ls
  have h := checkRegistries_extends run targetMode subjectFilter 0 registryIds ⟨[], 0, 0, 0, 0⟩
    o.activeRegistries
  have hperm : r.results.Perm (ls.flatMap (pairRecords run targetMode)) := h.results_perm
  have ht : r.totalChecked = r.results.length := h.total_eq.trans (by simp [hperm.length_eq])
  have hc : r.compatible = r.results.countP (·.isCompatible) :=
    h.compatible_eq.trans (by simp [hperm.countP_eq])
  have hi : r.incompatible = r.results.countP (!·.isCompatible) :=
    h.incompatible_eq.trans (by simp [hperm.countP_eq])
  have he : r.errors = ls.countP listingFailed := h.errors_eq.trans (Nat.zero_add _)
  have hsplit := countP_isCompatible_add r.results
  exact ⟨hperm, ht, hc, hi, he, by omega⟩

/-- Registries of this plugin list one subject, and their `list_versions` raises. -/
def unreachableVersions : Behaviour := fun _ c => match c with
  | .listSubjects _ => .ok ["orders-value"]
  | .listVersions _ => .error ⟨.requestException, "Connection refused"⟩
  | _ => .error ⟨.notImplementedError, ""⟩

/-- A plugin whose instances behave as `unreachableVersions`. -/
def unreachableVersionsPlugin : PluginClass :=
  ⟨"plugins.confluent.plugin.ConfluentSchemaRegistryPlugin", true, fun _ => .ok unreachableVersions⟩

/-- A subject whose versions could not be listed is reported as incompatible, and `errors` stays
`0`. -/
theorem failedCheck_countedIncompatible :
    (bulkCheckCompatibility
        (Orchestrator.run (fresh (Dict.empty.insert .confluent unreachableVersionsPlugin) 0)
          [.add { id := .str "reg1", type := .confluent, url := .str "http://localhost:8081" }])
        (.inOrder ⟨0, [.listSubjects none], unreachableVersions⟩ [.listVersions "orders-value"])
        ["reg1"] .backward none).1 =
      ⟨1, 0, 1, 0, [⟨"reg1", "orders-value", false, [], ["Connection refused"]⟩]⟩ := by
  decide

end Orchestrator

end SchemaFederation.Core

import SchemaFederation.Plugins.UnityCatalog.Plugin
import SchemaFederation.Core.Orchestrator.BulkCheck

/-!
# The Unity Catalog plugin as a backend

`UnityCatalogPlugin.behaviour` makes the plugin a backend of the orchestrator: each call of the
contract is answered by the plugin method of that name, against the catalog server as it stands
after the calls before it (`catalog calls` is the session at that moment); `elapsed calls` is how
long the request of a `health_check` made then takes.

Unity Catalog keeps no version history: `list_versions` returns `[1]` or `[]`. So the orchestrator
never compares two versions of a table:

* `listVersions_eq_ok`: the plugin lists `[1]` or nothing.
* `checkSingleSubject_unityCatalog`: on a Unity Catalog backend, `_check_single_subject` makes the
  one call `list_versions` and reports the subject compatible with
  `"Single version - no compatibility check needed"`, unless that call raised.
* `bulkCheck_unityCatalog_records`: in a bulk check whose tasks all talk to Unity Catalog, every
  record is such a single-version pass, or an incompatible record whose only content is the error
  its `list_versions` raised.
-/

namespace SchemaFederation.Plugins.UnityCatalog

open Python Core

namespace UnityCatalogPlugin

/-- The plugin as a backend: `catalog calls` is the server after the calls `calls`. -/
def behaviour (p : UnityCatalogPlugin) (loads : String → Except PyException JsonValue)
    (setOrder : SetOrder) (catalog : List Call → HttpSession) (elapsed : List Call → Float) :
    Behaviour :=
  fun calls c => match c with
    | .getRegistryType => .ok .unityCatalog
    | .getSupportedFormats => .ok [.iceberg, .avro]
    | .registerSchema subject schemaContent schemaFormat metadata =>
      p.registerSchema (catalog calls) loads subject schemaContent schemaFormat metadata
    | .getSchemaById schemaId => getSchemaById schemaId
    | .getSchemaBySubjectVersion subject version =>
      p.getSchemaBySubjectVersion (catalog calls).toSession subject version
    | .getLatestSchema subject => p.getLatestSchema (catalog calls).toSession subject
    | .listSubjects pfx => p.listSubjects (catalog calls).toSession pfx
    | .listVersions subject => p.listVersions (catalog calls).toSession subject
    | .deleteSchemaVersion subject version => p.deleteSchemaVersion (catalog calls) subject version
    | .checkCompatibility subject schemaContent schemaFormat version =>
      .ok (p.checkCompatibility (catalog calls).toSession loads setOrder subject schemaContent
        schemaFormat version)
    -- `get_compatibility_mode` and `set_compatibility_mode` do not reach the server.
    | .getCompatibilityMode _ => .ok .backward
    | .setCompatibilityMode .. => .ok true
    | .getAllCompatibilityModes => p.getAllCompatibilityModes (catalog calls).toSession
    | .discoverSchemas nspace _ => .ok (p.discoverSchemas (catalog calls).toSession nspace)
    | .getMetadata subject version => p.getMetadata (catalog calls).toSession subject version
    | .updateMetadata subject version metadata =>
      p.updateMetadata (catalog calls) subject version metadata
    | .healthCheck => p.healthCheck (catalog calls).toSession (elapsed calls)

/-- `list_versions` lists the one version `1` of a table that could be read, and nothing for a
table that is not there. -/
theorem listVersions_eq_ok (p : UnityCatalogPlugin) (session : Session) (subject : String)
    {versions : List Int} (h : p.listVersions session subject = .ok versions) :
    versions = [1] ∨ versions = [] := by
  unfold listVersions at h
  split at h
  · exact .inl (Except.ok.inj h).symm
  · split at h
    · exact .inr (Except.ok.inj h).symm
    · cases h

/-- On a Unity Catalog backend, `_check_single_subject` calls `list_versions` only, and reports the
subject compatible unless that call raised. -/
theorem checkSingleSubject_unityCatalog (p : UnityCatalogPlugin)
    (loads : String → Except PyException JsonValue) (setOrder : SetOrder)
    (catalog : List Call → HttpSession) (elapsed : List Call → Float) (b : Backend)
    (hb : b.behaviour = p.behaviour loads setOrder catalog elapsed) (subject : String)
    (targetMode : CompatibilityMode) :
    checkSingleSubject b subject targetMode =
      (match p.listVersions (catalog b.calls).toSession subject with
        | .ok _ => ⟨true, ["Single version - no compatibility check needed"], targetMode, []⟩
        | .error e => ⟨false, [], targetMode, [e.str]⟩,
       { b with calls := b.calls ++ [.listVersions subject] }) := by
  unfold checkSingleSubject
  simp only [Backend.listVersions, Backend.invoke, hb, behaviour]
  cases h : p.listVersions (catalog b.calls).toSession subject with
  | error e => rfl
  | ok versions =>
    have hlen : versions.length < 2 := by
      rcases listVersions_eq_ok p _ subject h with rfl | rfl <;> decide
    simp only [dif_pos hlen]

/-- In a bulk check whose tasks all talk to Unity Catalog (each task to its own instance,
catalog server and clock), every record is a single-version pass or carries one error and no
message. -/
theorem bulkCheck_unityCatalog_records (o : Orchestrator) (run : PoolRun)
    (registryIds : List String) (targetMode : CompatibilityMode) (subjectFilter : Option String)
    (hview : ∀ k j, ∃ (p : UnityCatalogPlugin) (loads : String → Except PyException JsonValue)
      (setOrder : SetOrder) (catalog : List Call → HttpSession) (elapsed : List Call → Float),
      (run.view k j).behaviour = p.behaviour loads setOrder catalog elapsed) :
    ∀ r ∈ (o.bulkCheckCompatibility run registryIds targetMode subjectFilter).1.results,
      (r.isCompatible = true ∧ r.messages = ["Single version - no compatibility check needed"] ∧
        r.errors = []) ∨
      (r.isCompatible = false ∧ r.messages = [] ∧ ∃ e : PyException, r.errors = [e.str]) := by
  intro r hr
  have hperm := (Orchestrator.checkRegistries_extends run targetMode subjectFilter 0 registryIds
    ⟨[], 0, 0, 0, 0⟩ o.activeRegistries).results_perm
  obtain ⟨⟨k, registryId, answer⟩, -, hpair⟩ := List.mem_flatMap.mp
    (by simpa only [List.nil_append] using hperm.subset hr)
  cases answer with
  | error e => simp [Orchestrator.pairRecords] at hpair
  | ok subjects =>
    obtain ⟨⟨j, subject⟩, -, rfl⟩ := List.mem_map.mp hpair
    obtain ⟨p, loads, setOrder, catalog, elapsed, hb⟩ := hview k j
    simp only [checkSingleSubject_unityCatalog p loads setOrder catalog elapsed _ hb]
    split <;> simp

/-- A plugin for the catalog `main` of a server that cannot be reached. -/
def offlineCatalog : UnityCatalogPlugin := ⟨"http://uc", .str "main"⟩

/-- The plugin's instance, before any call. -/
def offlineCatalogBackend : Backend :=
  ⟨0, [], offlineCatalog.behaviour (fun _ => .error ⟨.jsonDecodeError, "Expecting value"⟩) .asListed
    (fun _ => .refusing) (fun _ => 0)⟩

theorem bulkCheck_unityCatalog_records_offline :
    (∀ k j, ∃ (p : UnityCatalogPlugin) (loads : String → Except PyException JsonValue)
      (setOrder : SetOrder) (catalog : List Call → HttpSession) (elapsed : List Call → Float),
      ((PoolRun.inOrder offlineCatalogBackend []).view k j).behaviour =
        p.behaviour loads setOrder catalog elapsed) ∧
    ∀ r ∈ (Orchestrator.bulkCheckCompatibility
        ⟨⟨Dict.empty, Dict.empty, 1⟩, Dict.empty.insert (.str "uc-prod") offlineCatalogBackend⟩
        (.inOrder offlineCatalogBackend []) ["uc-prod"] .backward none).1.results,
      (r.isCompatible = true ∧ r.messages = ["Single version - no compatibility check needed"] ∧
        r.errors = []) ∨
      (r.isCompatible = false ∧ r.messages = [] ∧ ∃ e : PyException, r.errors = [e.str]) :=
  have hview k j : ∃ (p : UnityCatalogPlugin) (loads : String → Except PyException JsonValue)
      (setOrder : SetOrder) (catalog : List Call → HttpSession) (elapsed : List Call → Float),
      ((PoolRun.inOrder offlineCatalogBackend []).view k j).behaviour =
        p.behaviour loads setOrder catalog elapsed :=
    ⟨offlineCatalog, _, .asListed, fun _ => .refusing, fun _ => 0, rfl⟩
  ⟨hview, bulkCheck_unityCatalog_records _ (.inOrder offlineCatalogBackend []) ["uc-prod"]
    .backward none hview⟩

end UnityCatalogPlugin

end SchemaFederation.Plugins.UnityCatalog

import SchemaFederation.Plugins.Confluent.Plugin
import SchemaFederation.Core.Orchestrator.CheckSubject

/-!
# The Confluent plugin as a backend

`ConfluentSchemaRegistryPlugin.behaviour` makes the plugin a backend of the orchestrator: each call
of the contract is answered by the plugin method of that name, against the registry server as it
stands after the calls before it (`registry calls`); `elapsed calls` is how long the request of a
`health_check` made then takes.

* `checkSingleSubject_compatibilityUnreachable`: when the registry's compatibility endpoint cannot
  be reached, `_check_single_subject` reports a subject with two versions or more incompatible,
  with the single message `"All versions compatible"` and no error. Confluent's check answers a
  failed request with a result without messages, and the orchestrator picks its message on the
  messages being empty.
-/

namespace SchemaFederation.Plugins.Confluent

open Python Core

namespace ConfluentSchemaRegistryPlugin

/-- The plugin as a backend: `registry calls` is the server after the calls `calls`. -/
def behaviour (p : ConfluentSchemaRegistryPlugin) (registry : List Call → HttpSession)
    (elapsed : List Call → Float) : Behaviour :=
  fun calls c => match c with
    | .getRegistryType => .ok .confluent
    | .getSupportedFormats => .ok supportedFormats
    | .registerSchema subject schemaContent schemaFormat metadata =>
      p.registerSchema (registry calls) subject schemaContent schemaFormat metadata
    | .getSchemaById schemaId => p.getSchemaById (registry calls).toSession schemaId
    | .getSchemaBySubjectVersion subject version =>
      p.getSchemaBySubjectVersion (registry calls).toSession subject (.num version)
    | .getLatestSchema subject => p.getLatestSchema (registry calls).toSession subject
    | .listSubjects pfx => p.listSubjects (registry calls).toSession pfx
    | .listVersions subject => p.listVersions (registry calls).toSession subject
    | .deleteSchemaVersion subject version => p.deleteSchemaVersion (registry calls) subject version
    | .checkCompatibility subject schemaContent schemaFormat version =>
      p.checkCompatibility (registry calls) subject schemaContent schemaFormat version
    | .getCompatibilityMode subject => p.getCompatibilityMode (registry calls).toSession subject
    | .setCompatibilityMode mode subject => p.setCompatibilityMode (registry calls) mode subject
    | .getAllCompatibilityModes => .ok (p.getAllCompatibilityModes (registry calls).toSession)
    | .discoverSchemas nspace _ => .ok (p.discoverSchemas (registry calls).toSession nspace)
    | .healthCheck => p.healthCheck (registry calls).toSession (elapsed calls)
    | .getMetadata subject version => p.getMetadata (registry calls).toSession subject version
    -- `update_metadata` returns `False` without a request.
    | .updateMetadata .. => .ok false

/-- When every `POST` to the registry raises a `RequestException`, a subject with two versions or
more whose latest version can be fetched is reported incompatible with the single message
`"All versions compatible"`, and no error. -/
theorem checkSingleSubject_compatibilityUnreachable (p : ConfluentSchemaRegistryPlugin)
    (registry : List Call → HttpSession) (elapsed : List Call → Float) (b : Backend)
    (hb : b.behaviour = p.behaviour registry elapsed) (subject : String)
    (targetMode : CompatibilityMode) (versions : List Int)
    (hlist : p.listVersions (registry b.calls).toSession subject = .ok versions)
    (hlen : 2 ≤ versions.length)
    (hfetch : ∀ calls version, ∃ latest : Schema,
      p.getSchemaBySubjectVersion (registry calls).toSession subject (.num version) = .ok latest)
    (hpost : ∀ calls url body, ∃ e : PyException, e.cls.isRequestException = true ∧
      (registry calls).post url body = .error e) :
    (checkSingleSubject b subject targetMode).1 =
      ⟨false, ["All versions compatible"], targetMode, []⟩ := by
  refine checkSingleSubject_of_silentChecks b subject targetMode versions (by rw [hb]; exact hlist)
    hlen (by rw [hb]; exact hfetch) fun calls schemaContent schemaFormat version => ?_
  obtain ⟨e, he, hfail⟩ := hpost calls (p.compatibilityUrl subject version)
    (schemaPayload schemaContent schemaFormat)
  exact ⟨_, by rw [hb]; exact checkCompatibility_of_postFailed e he hfail, rfl, rfl⟩

/-- A registry whose subject `orders-value` has the versions `1` and `2`, each read as the same
schema, and whose compatibility endpoint cannot be reached. -/
def twoVersionsRegistry : HttpSession :=
  { HttpSession.refusing with
    get := fun url _ =>
      if url = "http://registry:8081/subjects/orders-value/versions" then
        .ok ⟨200, "OK", .ok (.arr [.num 1, .num 2])⟩
      else .ok ⟨200, "OK", .ok (.obj [("id", .num 1), ("schema", .str "string")])⟩ }

/-- The plugin for the registry. -/
def twoVersionsPlugin : ConfluentSchemaRegistryPlugin := ⟨"http://registry:8081"⟩

/-- The plugin's instance, before any call. -/
def twoVersionsBackend : Backend :=
  ⟨0, [], twoVersionsPlugin.behaviour (fun _ => twoVersionsRegistry) (fun _ => 0)⟩

theorem checkSingleSubject_compatibilityUnreachable_twoVersions :
    twoVersionsBackend.behaviour =
      twoVersionsPlugin.behaviour (fun _ => twoVersionsRegistry) (fun _ => 0) ∧
    twoVersionsPlugin.listVersions twoVersionsRegistry.toSession "orders-value" = .ok [1, 2] ∧
    2 ≤ [(1 : Int), 2].length ∧
    (∀ (_ : List Call) (version : Int), ∃ latest : Schema,
      twoVersionsPlugin.getSchemaBySubjectVersion twoVersionsRegistry.toSession "orders-value"
        (.num version) = .ok latest) ∧
    (∀ (_ : List Call) url body, ∃ e : PyException, e.cls.isRequestException = true ∧
      twoVersionsRegistry.post url body = .error e) ∧
    (checkSingleSubject twoVersionsBackend "orders-value" .backward).1 =
      ⟨false, ["All versions compatible"], .backward, []⟩ := by
  have hfetch : ∀ (_ : List Call) (version : Int), ∃ latest : Schema,
      twoVersionsPlugin.getSchemaBySubjectVersion twoVersionsRegistry.toSession "orders-value"
        (.num version) = .ok latest := by
    intro _ version
    have hne : "http://registry:8081" ++ "/subjects/" ++ "orders-value" ++ "/versions/" ++
        (JsonValue.num version).pyStr ≠ "http://registry:8081/subjects/orders-value/versions" :=
      fun h => by
        have hlen := congrArg String.length h
        rw [String.length_append] at hlen
        have hprefix : ("http://registry:8081" ++ "/subjects/" ++ "orders-value" ++
          "/versions/").length = 52 := rfl
        have hlist : "http://registry:8081/subjects/orders-value/versions".length = 51 := rfl
        omega
    exact ⟨_, by simp [getSchemaBySubjectVersion, twoVersionsRegistry, twoVersionsPlugin, hne]; rfl⟩
  have hpost : ∀ (_ : List Call) url body, ∃ e : PyException, e.cls.isRequestException = true ∧
      twoVersionsRegistry.post url body = .error e :=
    fun _ _ _ => ⟨⟨.requestException, "Connection refused"⟩, rfl, rfl⟩
  exact ⟨rfl, rfl, by decide, hfetch, hpost,
    checkSingleSubject_compatibilityUnreachable twoVersionsPlugin (fun _ => twoVersionsRegistry)
      (fun _ => 0) twoVersionsBackend rfl "orders-value" .backward [1, 2] rfl (by decide) hfetch
      hpost⟩

end ConfluentSchemaRegistryPlugin

end SchemaFederation.Plugins.Confluent

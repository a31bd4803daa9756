import SchemaFederation.Plugins.Shared

/-!
# The Confluent Schema Registry plugin

`src/plugins/confluent/plugin.py`: `ConfluentSchemaRegistryPlugin` talks to the registry's REST API.
The session's retries, authentication, TLS settings and timeout are left to the server:
`HttpSession` answers each request with the reply the session finally returns.

The plugin hands parsed bodies on unchecked. Where the contract declares a list, they are read with
`JsonValue.toStrList` and `JsonValue.toIntList`; where a `Schema` field is filled from a reply, with
`JsonValue.toInt?`, `JsonValue.toInt` and `JsonValue.pyStr`. Each reads exactly the shape the API
answers with. `get_latest_schema` asks for the version `"latest"`, and when the reply names no
version that text becomes the schema's `version`; the model reads it as 0.

* `registerSchema_readBack`: once the registry accepted a schema, reading the version back gives
  the registered text and format (`mapConfluentToFormat_mapFormatToConfluent`), and no metadata:
  the registry keeps none.
* `getCompatibilityMode_of_notFound`: a subject without a config of its own (the server answers
  404) has the global mode, which is `getCompatibilityMode_none`.
* `checkCompatibility_of_postFailed`: when the `POST` raises a `RequestException`, the check
  returns an incompatible result with no messages, at level `NONE`, carrying the error.
* `checkCompatibility_isCompatible_iff`: the check passes iff the server answered with a truthy
  `is_compatible` and the subject's mode could then be read: a failed mode lookup turns a
  compatible answer into a failed check.
* `checkCompatibility_of_not_mem`: a format the registry does not support is checked as Avro.
* `get?_foldl_addMode`: after the loop of `get_all_compatibility_modes`, a listed subject has a
  mode iff its mode could be read.
-/

namespace SchemaFederation.Plugins.Confluent

open Python Core

/-- What `ConfluentSchemaRegistryPlugin.__init__` keeps that the modelled methods read. -/
structure ConfluentSchemaRegistryPlugin where
  /-- `config.url.rstrip('/')`. -/
  baseUrl : String

namespace ConfluentSchemaRegistryPlugin

/-- `ConfluentSchemaRegistryPlugin(config)`: `config.url.rstrip('/')`, then `config.auth.get(...)`
and `config.ssl_config.get(...)`, which raise `AttributeError` on a `url` that is not a string and
on an `auth` or `ssl_config` that is not a dict. What it reads from `auth` and `ssl_config` sets up
the session. -/
def init (config : RegistryConfig) : Except PyException ConfluentSchemaRegistryPlugin := do
  let baseUrl ← config.url.rstrip '/'
  let _ ← config.auth.getD "username" .null
  let _ ← config.sslConfig.getD "verify" (.bool true)
  pure ⟨baseUrl⟩

/-- An instance's base URL is its config's `url` without its trailing slashes. -/
theorem rstrip_url_of_init {config : RegistryConfig} {p : ConfluentSchemaRegistryPlugin}
    (h : init config = .ok p) : config.url.rstrip '/' = .ok p.baseUrl := by
  obtain ⟨baseUrl, hurl, h⟩ := bind_eq_ok.mp h
  obtain ⟨_, -, h⟩ := bind_eq_ok.mp h
  obtain ⟨_, -, h⟩ := bind_eq_ok.mp h
  cases h
  exact hurl

/-- The constructor returns exactly on a config whose `url` is a string and whose `auth` and
`ssl_config` are dicts. -/
theorem init_isOk_iff {config : RegistryConfig} :
    (∃ p, init config = .ok p) ↔ (∃ url, config.url = .str url) ∧
      (∃ kvs, config.auth = .obj kvs) ∧ ∃ kvs, config.sslConfig = .obj kvs := by
  rw [← JsonValue.rstrip_isOk, ← @JsonValue.getD_isOk _ "username" .null,
    ← @JsonValue.getD_isOk _ "verify" (.bool true)]
  simp only [init, bind_eq_ok]
  constructor
  · rintro ⟨-, baseUrl, hurl, auth, hauth, ssl, hssl, -⟩
    exact ⟨⟨baseUrl, hurl⟩, ⟨auth, hauth⟩, ssl, hssl⟩
  · rintro ⟨⟨baseUrl, hurl⟩, ⟨auth, hauth⟩, ssl, hssl⟩
    exact ⟨⟨baseUrl⟩, baseUrl, hurl, auth, hauth, ssl, hssl, rfl⟩

/-- `get_supported_formats()`. -/
def supportedFormats : List SchemaFormat := [.avro, .protobuf, .jsonSchema]

/-- `_map_format_to_confluent(format)`. -/
def mapFormatToConfluent : SchemaFormat → String
  | .avro => "AVRO"
  | .protobuf => "PROTOBUF"
  | .jsonSchema => "JSON"
  | _ => "AVRO"

/-- `_map_confluent_to_format(confluent_type)`: `mapping.get(confluent_type, SchemaFormat.AVRO)`,
which raises `TypeError` when the type is unhashable. -/
def mapConfluentToFormat (confluentType : JsonValue) : Except PyException SchemaFormat := do
  let key ← confluentType.hashKey
  pure <| match key with
    | .str "AVRO" => .avro
    | .str "PROTOBUF" => .protobuf
    | .str "JSON" => .jsonSchema
    | _ => .avro

/-- A supported format is sent as a type that reads back as that format. -/
theorem mapConfluentToFormat_mapFormatToConfluent {f : SchemaFormat} (hf : f ∈ supportedFormats) :
    mapConfluentToFormat (.str (mapFormatToConfluent f)) = .ok f := by
  simp only [supportedFormats, List.mem_cons, List.mem_nil_iff, or_false] at hf
  rcases hf with rfl | rfl | rfl <;> rfl

/-- Any other format is sent as `"AVRO"`. -/
theorem mapFormatToConfluent_of_not_mem {f : SchemaFormat} (hf : f ∉ supportedFormats) :
    mapFormatToConfluent f = "AVRO" := by
  cases f <;> first | rfl | exact absurd (by decide) hf

/-- The body `register_schema` and `check_compatibility` post. -/
def schemaPayload (schemaContent : String) (schemaFormat : SchemaFormat) : JsonValue :=
  .obj [("schema", .str schemaContent), ("schemaType", .str (mapFormatToConfluent schemaFormat))]

/-! ## Reading and registering schemas -/

/-- The `Schema` that `get_schema_by_subject_version(subject, version)` builds from the reply
`data`, its arguments evaluated in the order they are written: `data.get("id")`, the subject and
version asked for unless `data` has its own, the format of `data.get("schemaType", "AVRO")`, and
`data["schema"]`. -/
def schemaOfReply (data : JsonValue) (subject : String) (version : JsonValue) :
    Except PyException Schema := do
  let id ← data.getD "id" .null
  let subject ← data.getD "subject" (.str subject)
  let version ← data.getD "version" version
  let schemaFormat ← mapConfluentToFormat (← data.getD "schemaType" (.str "AVRO"))
  let schemaContent ← data.getItem "schema"
  pure { id := id.toInt?, subject := subject.pyStr, version := version.toInt, schemaFormat
         schemaContent := schemaContent.pyStr, registryType := .confluent }

/-- `get_schema_by_subject_version(subject, version)`, for a `version` that is an `int` or, from
`get_latest_schema`, the text `"latest"`: a 404 becomes
`KeyError(f"Subject {subject} version {version} not found")`. -/
def getSchemaBySubjectVersion (p : ConfluentSchemaRegistryPlugin) (session : Session)
    (subject : String) (version : JsonValue) : Except PyException Schema :=
  notFoundAs (keyError ("Subject " ++ subject ++ " version " ++ version.pyStr ++ " not found")) do
    let url := p.baseUrl ++ "/subjects/" ++ subject ++ "/versions/" ++ version.pyStr
    let response ← session.get url []
    response.raiseForStatus url
    schemaOfReply (← response.json) subject version

/-- `get_latest_schema(subject)`. -/
def getLatestSchema (p : ConfluentSchemaRegistryPlugin) (session : Session) (subject : String) :
    Except PyException Schema :=
  p.getSchemaBySubjectVersion session subject (.str "latest")

/-- `get_schema_by_id(schema_id)`: the endpoint gives no subject or version. A 404 becomes
`KeyError(f"Schema ID {schema_id} not found")`. -/
def getSchemaById (p : ConfluentSchemaRegistryPlugin) (session : Session) (schemaId : Int) :
    Except PyException Schema :=
  notFoundAs (keyError ("Schema ID " ++ toString schemaId ++ " not found")) do
    let url := p.baseUrl ++ "/schemas/ids/" ++ toString schemaId
    let response ← session.get url []
    response.raiseForStatus url
    let data ← response.json
    let schemaFormat ← mapConfluentToFormat (← data.getD "schemaType" (.str "AVRO"))
    let schemaContent ← data.getItem "schema"
    pure { id := some schemaId, subject := "unknown", version := 0, schemaFormat
           schemaContent := schemaContent.pyStr, registryType := .confluent }

/-- `register_schema(subject, schema_content, schema_format, metadata)`: a format the registry does
not support raises `ValueError` before any request; the version is `data.get("version", 1)`. -/
def registerSchema (p : ConfluentSchemaRegistryPlugin) (session : HttpSession)
    (subject schemaContent : String) (schemaFormat : SchemaFormat)
    (metadata : Option (List (String × JsonValue))) : Except PyException Schema := do
  if schemaFormat ∉ supportedFormats then
    throw ⟨.valueError, "Format " ++ schemaFormat.value ++ " not supported by Confluent SR"⟩
  let url := p.baseUrl ++ "/subjects/" ++ subject ++ "/versions"
  let response ← session.post url (schemaPayload schemaContent schemaFormat)
  response.raiseForStatus url
  let data ← response.json
  let id ← data.getD "id" .null
  let version ← data.getD "version" (.num 1)
  pure { id := id.toInt?, subject, version := version.toInt, schemaFormat, schemaContent
         metadata := metadata.getD [], registryType := .confluent }

/-- A schema read from a reply carries no metadata. -/
theorem schemaOfReply_metadata {data : JsonValue} {subject : String} {version : JsonValue}
    {schema : Schema} (h : schemaOfReply data subject version = .ok schema) :
    schema.metadata = [] := by
  simp only [schemaOfReply, bind_eq_ok] at h
  obtain ⟨_, -, _, -, _, -, _, -, _, -, _, -, h⟩ := h
  cases h
  rfl

/-- A reply that holds a schema text and a supported format's type (or no type, for Avro) is read
as that text in that format. -/
theorem schemaOfReply_obj {kvs : List (String × JsonValue)} {subject : String} {version : JsonValue}
    {schemaContent : String} {schemaFormat : SchemaFormat} (hf : schemaFormat ∈ supportedFormats)
    (hschema : kvs.lookup "schema" = some (.str schemaContent))
    (htype :
      (kvs.lookup "schemaType").getD (.str "AVRO") = .str (mapFormatToConfluent schemaFormat)) :
    ∃ schema, schemaOfReply (.obj kvs) subject version = .ok schema ∧
      schema.schemaContent = schemaContent ∧ schema.schemaFormat = schemaFormat := by
  simp only [schemaOfReply, JsonValue.getD_obj, ok_bind, htype,
    mapConfluentToFormat_mapFormatToConfluent hf, JsonValue.getItem_obj_of_lookup hschema]
  exact ⟨_, rfl, rfl, rfl⟩

section Register

variable {p : ConfluentSchemaRegistryPlugin} {session : HttpSession}
  {subject schemaContent : String} {schemaFormat : SchemaFormat}
  {metadata : Option (List (String × JsonValue))}

/-- `register_schema` returns exactly when the format is supported and the registry accepted the
posted schema with a dict; it returns the caller's metadata, and the version the reply names. -/
theorem registerSchema_eq_ok {registered : Schema} :
    p.registerSchema session subject schemaContent schemaFormat metadata = .ok registered ↔
      schemaFormat ∈ supportedFormats ∧ ∃ response kvs,
        session.post (p.baseUrl ++ "/subjects/" ++ subject ++ "/versions")
          (schemaPayload schemaContent schemaFormat) = .ok response ∧
        response.raiseForStatus (p.baseUrl ++ "/subjects/" ++ subject ++ "/versions") = .ok () ∧
        response.json = .ok (.obj kvs) ∧
        registered = { id := ((kvs.lookup "id").getD .null).toInt?, subject
                       version := ((kvs.lookup "version").getD (.num 1)).toInt, schemaFormat
                       schemaContent, metadata := metadata.getD []
                       registryType := .confluent } := by
  unfold registerSchema
  by_cases hf : schemaFormat ∈ supportedFormats
  · simp only [hf, not_true_eq_false, if_false, pure_bind, bind_eq_ok, true_and]
    constructor
    · rintro ⟨response, hpost, ⟨⟩, hstatus, data, hjson, id, hid, version, hversion, ⟨⟩⟩
      -- only a dict has `get`
      cases data <;> cases hid
      cases hversion
      exact ⟨response, _, hpost, hstatus, hjson, rfl⟩
    · rintro ⟨response, kvs, hpost, hstatus, hjson, rfl⟩
      exact ⟨response, hpost, (), hstatus, _, hjson, _, rfl, _, rfl, rfl⟩
  · simp only [hf, not_false_eq_true, if_true, false_and, iff_false]
    rintro ⟨⟩

/-- Once the registry accepted a schema, a read of the subject whose reply holds the posted
`schema` and `schemaType` (or no type, for Avro) gives back the registered content and format,
and no metadata: the metadata `register_schema` returned is not kept. -/
theorem registerSchema_readBack {registered : Schema}
    (hregister : p.registerSchema session subject schemaContent schemaFormat metadata =
      .ok registered)
    (later : Session) (version : JsonValue) (response : Response) (kvs : List (String × JsonValue))
    (hget : later.get (p.baseUrl ++ "/subjects/" ++ subject ++ "/versions/" ++ version.pyStr) [] =
      .ok response)
    (hstatus : response.statusCode < 400) (hjson : response.json = .ok (.obj kvs))
    (hschema : kvs.lookup "schema" = some (.str schemaContent))
    (htype : (kvs.lookup "schemaType").getD (.str "AVRO") =
      .str (mapFormatToConfluent schemaFormat)) :
    ∃ read, p.getSchemaBySubjectVersion later subject version = .ok read ∧
      read.schemaContent = registered.schemaContent ∧
      read.schemaFormat = registered.schemaFormat ∧ read.metadata = [] := by
  obtain ⟨hf, -, -, -, -, -, rfl⟩ := registerSchema_eq_ok.mp hregister
  obtain ⟨read, hread, hcontent, hformat⟩ :=
    @schemaOfReply_obj kvs subject version _ _ hf hschema htype
  refine ⟨read, ?_, hcontent, hformat, schemaOfReply_metadata hread⟩
  simp only [getSchemaBySubjectVersion, hget, ok_bind, Response.raiseForStatus_ok hstatus, hjson,
    hread]
  rfl

end Register

/-! ## Subjects and versions -/

/-- `list_subjects(prefix=pfx)`: the reply, filtered by `startswith` when `pfx` is truthy. -/
def listSubjects (p : ConfluentSchemaRegistryPlugin) (session : Session) (pfx : Option String) :
    Except PyException (List String) := do
  let url := p.baseUrl ++ "/subjects"
  let response ← session.get url []
  response.raiseForStatus url
  let subjects ← response.json
  if truthyOpt pfx then
    (·.map JsonValue.pyStr) <$> (← subjects.iter).filterM (·.startsWith (pfx.getD ""))
  else pure subjects.toStrList

/-- `list_versions(subject)`: a 404 becomes `KeyError(f"Subject {subject} not found")`. -/
def listVersions (p : ConfluentSchemaRegistryPlugin) (session : Session) (subject : String) :
    Except PyException (List Int) :=
  notFoundAs (keyError ("Subject " ++ subject ++ " not found")) do
    let url := p.baseUrl ++ "/subjects/" ++ subject ++ "/versions"
    let response ← session.get url []
    response.raiseForStatus url
    JsonValue.toIntList <$> response.json

/-- `delete_schema_version(subject, version)`: a 404 becomes
`KeyError(f"Subject {subject} version {version} not found")`. -/
def deleteSchemaVersion (p : ConfluentSchemaRegistryPlugin) (session : HttpSession)
    (subject : String) (version : Int) : Except PyException Bool :=
  notFoundAs
    (keyError ("Subject " ++ subject ++ " version " ++ toString version ++ " not found")) do
    let url := p.baseUrl ++ "/subjects/" ++ subject ++ "/versions/" ++ toString version
    let response ← session.delete url
    response.raiseForStatus url
    pure true

/-! ## Compatibility modes -/

/-- The config of `subject`, or the global config when `subject` is falsy. -/
def configUrl (p : ConfluentSchemaRegistryPlugin) (subject : Option String) : String :=
  match subject with
  | some s => if s != "" then p.baseUrl ++ "/config/" ++ s else p.baseUrl ++ "/config"
  | none => p.baseUrl ++ "/config"

/-- The `try` body of `get_compatibility_mode`: the mode the config at `url` names. -/
def readConfig (session : Session) (url : String) : Except PyException CompatibilityMode := do
  let response ← session.get url []
  response.raiseForStatus url
  let data ← response.json
  CompatibilityMode.getItem (← data.getD "compatibilityLevel" (.str "BACKWARD"))

/-- `get_compatibility_mode(subject)`: for a subject, a 404 falls back to
`self.get_compatibility_mode()`, the global read (`getCompatibilityMode_none`). -/
def getCompatibilityMode (p : ConfluentSchemaRegistryPlugin) (session : Session)
    (subject : Option String) : Except PyException CompatibilityMode :=
  match readConfig session (p.configUrl subject) with
  | .error e =>
    if e.cls = .httpError 404 ∧ truthyOpt subject then readConfig session (p.configUrl none)
    else .error e
  | r => r

/-- Without a subject, `get_compatibility_mode()` reads the global config and re-raises a 404. -/
theorem getCompatibilityMode_none (p : ConfluentSchemaRegistryPlugin) (session : Session) :
    p.getCompatibilityMode session none = readConfig session (p.configUrl none) := by
  unfold getCompatibilityMode
  split <;> simp_all [truthyOpt]

/-- A subject whose config the server answers with 404 has the global mode. -/
theorem getCompatibilityMode_of_notFound (p : ConfluentSchemaRegistryPlugin) (session : Session)
    (subject : String) (hsubject : subject ≠ "") (response : Response)
    (hget : session.get (p.baseUrl ++ "/config/" ++ subject) [] = .ok response)
    (h404 : response.statusCode = 404) :
    p.getCompatibilityMode session (some subject) = p.getCompatibilityMode session none := by
  rw [getCompatibilityMode_none]
  simp [getCompatibilityMode, readConfig, configUrl, hsubject, hget, Response.raiseForStatus, h404,
    truthyOpt]

/-- `set_compatibility_mode(mode, subject)`: `True` once the server accepted
`{"compatibility": mode.value}`, `False` on a `RequestException`. -/
def setCompatibilityMode (p : ConfluentSchemaRegistryPlugin) (session : HttpSession)
    (mode : CompatibilityMode) (subject : Option String) : Except PyException Bool :=
  let url := p.configUrl subject
  let run : Except PyException Unit := do
    let response ← session.put url (.obj [("compatibility", .str mode.value)])
    response.raiseForStatus url
  match run with
  | .ok () => .ok true
  | .error e => if e.cls.isRequestException then .ok false else .error e

/-- `set_compatibility_mode` reports success exactly when the `PUT` of the mode to the config URL
was answered with a status outside 400–599. -/
theorem setCompatibilityMode_eq_true {p : ConfluentSchemaRegistryPlugin} {session : HttpSession}
    {mode : CompatibilityMode} {subject : Option String} :
    p.setCompatibilityMode session mode subject = .ok true ↔
      ∃ response, session.put (p.configUrl subject) (.obj [("compatibility", .str mode.value)]) =
        .ok response ∧ ¬(400 ≤ response.statusCode ∧ response.statusCode < 600) := by
  unfold setCompatibilityMode
  cases hput : session.put (p.configUrl subject) (.obj [("compatibility", .str mode.value)]) with
  | error e => simp only [hput, error_bind]; split <;> simp
  | ok response =>
    have hstatus := @Response.raiseForStatus_eq_ok response (p.configUrl subject)
    cases hr : response.raiseForStatus (p.configUrl subject) with
    | ok u =>
      simp only [hput, ok_bind, hr, true_iff]
      exact ⟨response, rfl, hstatus.mp hr⟩
    | error e =>
      simp only [hput, ok_bind, hr, Except.ok.injEq, exists_eq_left', ← hstatus, reduceCtorEq,
        not_false_eq_true, iff_false]
      split <;> simp

/-- One iteration of `get_all_compatibility_modes`: a subject whose mode cannot be read is
skipped. -/
def addMode (p : ConfluentSchemaRegistryPlugin) (session : Session)
    (modes : Dict String CompatibilityMode) (subject : String) : Dict String CompatibilityMode :=
  match p.getCompatibilityMode session (some subject) with
  | .ok mode => modes.insert subject mode
  | .error _ => modes

/-- `get_all_compatibility_modes()`: no modes when the listing raises. -/
def getAllCompatibilityModes (p : ConfluentSchemaRegistryPlugin) (session : Session) :
    Dict String CompatibilityMode :=
  match p.listSubjects session none with
  | .ok subjects => subjects.foldl (p.addMode session) Dict.empty
  | .error _ => Dict.empty

theorem get?_addMode (p : ConfluentSchemaRegistryPlugin) (session : Session)
    (modes : Dict String CompatibilityMode) (subject s : String) :
    (p.addMode session modes subject).get? s =
      if s = subject then
        match p.getCompatibilityMode session (some subject) with
        | .ok mode => some mode
        | .error _ => modes.get? s
      else modes.get? s := by
  unfold addMode
  by_cases hs : s = subject
  · subst hs
    split <;> simp
  · split <;> simp [hs, Dict.get?_insert_ne _ _ hs]

/-- After the loop over `subjects`, a subject has a mode iff it was listed and its mode could be
read, or it had one before. -/
theorem get?_foldl_addMode (p : ConfluentSchemaRegistryPlugin) (session : Session)
    (subjects : List String) (modes : Dict String CompatibilityMode) (s : String) :
    (subjects.foldl (p.addMode session) modes).get? s =
      match p.getCompatibilityMode session (some s) with
      | .ok mode => if s ∈ subjects then some mode else modes.get? s
      | .error _ => modes.get? s := by
  induction subjects generalizing modes with
  | nil => split <;> simp
  | cons t rest ih =>
    rw [List.foldl_cons, ih, get?_addMode]
    by_cases hs : s = t
    · subst hs
      split <;> simp
    · split <;> simp [hs]

/-! ## Checking compatibility -/

/-- The URL `check_compatibility` posts to: a falsy `version` checks against the latest. -/
def compatibilityUrl (p : ConfluentSchemaRegistryPlugin) (subject : String) (version : Option Int) :
    String :=
  let versionPath := match version with
    | some v => if v != 0 then "/" ++ toString v else "/latest"
    | none => "/latest"
  p.baseUrl ++ "/compatibility/subjects/" ++ subject ++ "/versions" ++ versionPath

/-- The `try` body of `check_compatibility`. The result keeps `is_compatible` as its truth value and
`messages` as `toStrList` reads it, which is how the orchestrator uses them. -/
def postCheck (p : ConfluentSchemaRegistryPlugin) (session : HttpSession)
    (subject schemaContent : String) (schemaFormat : SchemaFormat) (version : Option Int) :
    Except PyException CompatibilityResult := do
  let url := p.compatibilityUrl subject version
  let response ← session.post url (schemaPayload schemaContent schemaFormat)
  response.raiseForStatus url
  let data ← response.json
  let isCompatible ← data.getD "is_compatible" (.bool false)
  let messages ← data.getD "messages" (.arr [])
  let level ← p.getCompatibilityMode session.toSession (some subject)
  pure ⟨isCompatible.truthy, messages.toStrList, level, []⟩

/-- `check_compatibility(subject, schema_content, schema_format, version)`: a `RequestException`
gives an incompatible result with no messages. -/
def checkCompatibility (p : ConfluentSchemaRegistryPlugin) (session : HttpSession)
    (subject schemaContent : String) (schemaFormat : SchemaFormat) (version : Option Int) :
    Except PyException CompatibilityResult :=
  match p.postCheck session subject schemaContent schemaFormat version with
  | .error e => if e.cls.isRequestException then .ok ⟨false, [], .none, [e.str]⟩ else .error e
  | r => r

section Check

variable {p : ConfluentSchemaRegistryPlugin} {session : HttpSession}
  {subject schemaContent : String} {schemaFormat : SchemaFormat} {version : Option Int}

/-- The `try` body returns exactly when every step of it returns. -/
theorem postCheck_eq_ok {result : CompatibilityResult} :
    p.postCheck session subject schemaContent schemaFormat version = .ok result ↔
      ∃ response data isCompatible messages mode,
        session.post (p.compatibilityUrl subject version)
            (schemaPayload schemaContent schemaFormat) = .ok response ∧
          response.raiseForStatus (p.compatibilityUrl subject version) = .ok () ∧
        response.json = .ok data ∧ data.getD "is_compatible" (.bool false) = .ok isCompatible ∧
        data.getD "messages" (.arr []) = .ok messages ∧
        p.getCompatibilityMode session.toSession (some subject) = .ok mode ∧
        result = ⟨isCompatible.truthy, messages.toStrList, mode, []⟩ := by
  simp only [postCheck, bind_eq_ok]
  constructor
  · rintro ⟨response, h1, ⟨⟩, h2, data, h3, isCompatible, h4, messages, h5, mode, h6, ⟨⟩⟩
    exact ⟨response, data, isCompatible, messages, mode, h1, h2, h3, h4, h5, h6, rfl⟩
  · rintro ⟨response, data, isCompatible, messages, mode, h1, h2, h3, h4, h5, h6, rfl⟩
    exact ⟨response, h1, (), h2, data, h3, isCompatible, h4, messages, h5, mode, h6, rfl⟩

/-- The check returns what its `try` body returned, or the failure result for a
`RequestException`. -/
theorem checkCompatibility_eq_ok {result : CompatibilityResult} :
    p.checkCompatibility session subject schemaContent schemaFormat version = .ok result ↔
      p.postCheck session subject schemaContent schemaFormat version = .ok result ∨
      ∃ e, p.postCheck session subject schemaContent schemaFormat version = .error e ∧
        e.cls.isRequestException = true ∧ result = ⟨false, [], .none, [e.str]⟩ := by
  unfold checkCompatibility
  cases p.postCheck session subject schemaContent schemaFormat version with
  | ok r => simp
  | error e =>
    by_cases he : e.cls.isRequestException
    · simp only [he, if_true, Except.ok.injEq, reduceCtorEq, false_or, Except.error.injEq, true_and,
        exists_eq_left']
      exact eq_comm
    · simp [he]

/-- When the `POST` raises a `RequestException`, the check returns an incompatible result with no
messages. -/
theorem checkCompatibility_of_postFailed (e : PyException) (he : e.cls.isRequestException = true)
    (hpost : session.post (p.compatibilityUrl subject version)
      (schemaPayload schemaContent schemaFormat) = .error e) :
    p.checkCompatibility session subject schemaContent schemaFormat version =
      .ok ⟨false, [], .none, [e.str]⟩ := by
  simp [checkCompatibility, postCheck, hpost, he]

/-- The check passes iff the server answered the `POST` with a status below 400 and a body whose
`is_compatible` is truthy, and the subject's mode could then be read. -/
theorem checkCompatibility_isCompatible_iff :
    (∃ result,
        p.checkCompatibility session subject schemaContent schemaFormat version = .ok result ∧
        result.isCompatible = true) ↔
      ∃ response data isCompatible mode,
        session.post (p.compatibilityUrl subject version)
            (schemaPayload schemaContent schemaFormat) = .ok response ∧
          response.raiseForStatus (p.compatibilityUrl subject version) = .ok () ∧
        response.json = .ok data ∧ data.getD "is_compatible" (.bool false) = .ok isCompatible ∧
        isCompatible.truthy = true ∧ (∃ messages, data.getD "messages" (.arr []) = .ok messages) ∧
        p.getCompatibilityMode session.toSession (some subject) = .ok mode := by
  constructor
  · rintro ⟨result, h, hc⟩
    rcases checkCompatibility_eq_ok.mp h with h | ⟨e, -, -, rfl⟩
    · obtain ⟨response, data, isCompatible, messages, mode, h1, h2, h3, h4, h5, h6, rfl⟩ :=
        postCheck_eq_ok.mp h
      exact ⟨response, data, isCompatible, mode, h1, h2, h3, h4, hc, ⟨messages, h5⟩, h6⟩
    · cases hc
  · rintro ⟨response, data, isCompatible, mode, h1, h2, h3, h4, hc, ⟨messages, h5⟩, h6⟩
    exact ⟨_, checkCompatibility_eq_ok.mpr (.inl (postCheck_eq_ok.mpr
      ⟨response, data, isCompatible, messages, mode, h1, h2, h3, h4, h5, h6, rfl⟩)), hc⟩

/-- A format the registry does not support is checked as Avro: the same text is posted with the
type `"AVRO"`. -/
theorem checkCompatibility_of_not_mem (hf : schemaFormat ∉ supportedFormats) :
    p.checkCompatibility session subject schemaContent schemaFormat version =
      p.checkCompatibility session subject schemaContent .avro version := by
  unfold checkCompatibility postCheck schemaPayload
  rw [mapFormatToConfluent_of_not_mem hf]
  rfl

end Check

/-! ## Discovery, health and metadata -/

/-- `discover_schemas(namespace, filters)`: the latest schemas of the listed subjects that could be
read. -/
def discoverSchemas (p : ConfluentSchemaRegistryPlugin) (session : Session)
    (nspace : Option String) : List Schema :=
  discoverWith (p.listSubjects session) (p.getLatestSchema session) nspace

/-- `health_check()`, whose request took `responseTimeMs`. -/
def healthCheck (p : ConfluentSchemaRegistryPlugin) (session : Session) (responseTimeMs : Float) :
    Except PyException HealthStatus :=
  timedHealthCheck session (p.baseUrl ++ "/subjects") p.baseUrl
    "Confluent Schema Registry is healthy"
    [("url", .str p.baseUrl), ("registry_type", .str RegistryType.confluent.value)] responseTimeMs

/-- `get_metadata(subject, version)`: the metadata of the schema read back. -/
def getMetadata (p : ConfluentSchemaRegistryPlugin) (session : Session) (subject : String)
    (version : Int) : Except PyException (List (String × JsonValue)) :=
  Schema.metadata <$> p.getSchemaBySubjectVersion session subject (.num version)

end ConfluentSchemaRegistryPlugin

end SchemaFederation.Plugins.Confluent

import SchemaFederation.Plugins.UnityCatalog.Columns
import SchemaFederation.Plugins.UnityCatalog.Evolution
import SchemaFederation.Plugins.Shared
import SchemaFederation.Core.Interfaces

/-!
# The Unity Catalog plugin

`UnityCatalogPlugin` reads a table from the catalog server and gives its columns back as an Iceberg
schema (`getSchemaBySubjectVersion`; a 404 becomes `KeyError`), creates a table from an Iceberg
schema (`registerSchema`), lists tables as subjects, and checks compatibility by the Iceberg
evolution rules (`checkCompatibility`). Its `discover_schemas` and `health_check` are the bodies it
shares with the Confluent plugin.

`json.loads` is a parameter (`loads`): what is proved holds for every parser, and where a statement
needs the parser to read back what `json.dumps` wrote, that is a hypothesis on the documents
involved.

* `listSubjects_readBack`: a listed subject is read back from its table's URL, unless one of the
  table's names holds a dot.
* `avroSchema_passesAsNewTable`: an Avro record schema checked against an existing table raises
  `KeyError('id')` in the evolution check, and is reported as a compatible new table.
-/

namespace SchemaFederation.Plugins.UnityCatalog

open Python Core

/-- What `UnityCatalogPlugin.__init__` keeps from its config that the modelled methods read. -/
structure UnityCatalogPlugin where
  /-- `config.url.rstrip('/')`. -/
  baseUrl : String
  /-- `config.metadata.get("catalog", "main")`. -/
  catalog : JsonValue

namespace UnityCatalogPlugin

/-- `UnityCatalogPlugin(config)`: `config.url.rstrip('/')`, `config.metadata.get("catalog", "main")`
and then `config.auth.get("token")`, which raise `AttributeError` on a `url` that is not a string
and on a `metadata` or `auth` that is not a dict. The token sets up the session. -/
def init (config : RegistryConfig) : Except PyException UnityCatalogPlugin := do
  let baseUrl ← config.url.rstrip '/'
  let catalog ← config.metadata.getD "catalog" (.str "main")
  let _ ← config.auth.getD "token" .null
  pure ⟨baseUrl, catalog⟩

/-- An instance's base URL is its config's `url` without its trailing slashes. -/
theorem rstrip_url_of_init {config : RegistryConfig} {p : UnityCatalogPlugin}
    (h : init config = .ok p) : config.url.rstrip '/' = .ok p.baseUrl := by
  obtain ⟨baseUrl, hurl, h⟩ := bind_eq_ok.mp h
  obtain ⟨catalog, -, h⟩ := bind_eq_ok.mp h
  obtain ⟨_, -, h⟩ := bind_eq_ok.mp h
  cases h
  exact hurl

/-- The constructor returns exactly on a config whose `url` is a string and whose `metadata` and
`auth` are dicts. -/
theorem init_isOk_iff {config : RegistryConfig} :
    (∃ p, init config = .ok p) ↔ (∃ url, config.url = .str url) ∧
      (∃ kvs, config.metadata = .obj kvs) ∧ ∃ kvs, config.auth = .obj kvs := by
  rw [← JsonValue.rstrip_isOk, ← @JsonValue.getD_isOk _ "catalog" (.str "main"),
    ← @JsonValue.getD_isOk _ "token" .null]
  simp only [init, bind_eq_ok]
  constructor
  · rintro ⟨-, baseUrl, hurl, catalog, hcatalog, token, htoken, -⟩
    exact ⟨⟨baseUrl, hurl⟩, ⟨catalog, hcatalog⟩, token, htoken⟩
  · rintro ⟨⟨baseUrl, hurl⟩, ⟨catalog, hcatalog⟩, token, htoken⟩
    exact ⟨⟨baseUrl, catalog⟩, baseUrl, hurl, catalog, hcatalog, token, htoken, rfl⟩

/-! ## Reading a table -/

/-- `_parse_subject(subject)`. -/
def parseSubject (subject : String) : Except PyException (String × String × String) :=
  match pySplit subject '.' with
  | [catalog, schemaName, tableName] => .ok (catalog, schemaName, tableName)
  | _ => .error ⟨.valueError, "Subject must be in format catalog.schema.table, got: " ++ subject⟩

/-- `_parse_subject` on a name joined from three parts gives the parts back, unless one of them
holds a dot: then the name splits into four parts or more. -/
theorem parseSubject_join (c s n : String) :
    parseSubject (c ++ "." ++ s ++ "." ++ n) =
      if '.' ∈ c.data ∨ '.' ∈ s.data ∨ '.' ∈ n.data then
        .error ⟨.valueError, "Subject must be in format catalog.schema.table, got: " ++
          (c ++ "." ++ s ++ "." ++ n)⟩
      else .ok (c, s, n) := by
  have hdata : (c ++ "." ++ s ++ "." ++ n).data = ['.'].intercalate [c.data, s.data, n.data] := by
    simp [List.intercalate]
  split_ifs with hdot
  · have hlen : 4 ≤ (pySplit (c ++ "." ++ s ++ "." ++ n) '.').length := by
      have hpos : 0 < c.data.count '.' + s.data.count '.' + n.data.count '.' := by
        simp only [← List.count_pos_iff] at hdot; omega
      have hsep : (['.'] : List Char).count '.' = 1 := rfl
      rw [length_pySplit]
      simp only [String.data_append, List.count_append]
      omega
    unfold parseSubject
    split
    · next h => rw [h] at hlen; simp at hlen
    · rfl
  · simp only [not_or] at hdot
    simp [parseSubject, pySplit, hdata, List.splitOn_intercalate, hdot]

/-- The URL of the table `catalog.schema_name.table_name`. -/
def tableUrl (p : UnityCatalogPlugin) (catalog schemaName tableName : String) : String :=
  p.baseUrl ++ "/api/2.1/unity-catalog/tables/" ++ catalog ++ "." ++ schemaName ++ "." ++ tableName

/-- The `try` body of `get_schema_by_subject_version`: the table's columns as an Iceberg schema. -/
def readTable (session : Session) (url subject : String) (version : Int) :
    Except PyException Schema := do
  let response ← session.get url []
  response.raiseForStatus url
  let data ← response.json
  let schemaContent ← ucColumnsToIceberg (← data.getD "columns" (.arr []))
  let metadata ← ["table_id", "table_type", "data_source_format", "storage_location"].mapM
    fun key => (key, ·) <$> data.getD key .null
  pure { subject, version, schemaFormat := .iceberg, schemaContent := schemaContent.dumps
         registryType := .unityCatalog, metadata }

/-- `except requests.exceptions.HTTPError as e`: a 404 is re-raised as
`KeyError(f"Table {subject} not found")`, anything else as it is. -/
def notFoundAsKeyError {α : Type} (subject : String) :
    Except PyException α → Except PyException α :=
  notFoundAs (keyError ("Table " ++ subject ++ " not found"))

/-- `get_schema_by_subject_version(subject, version)`. -/
def getSchemaBySubjectVersion (p : UnityCatalogPlugin) (session : Session) (subject : String)
    (version : Int) : Except PyException Schema := do
  let (catalog, schemaName, tableName) ← parseSubject subject
  notFoundAsKeyError subject
    (readTable session (p.tableUrl catalog schemaName tableName) subject version)

/-- `get_latest_schema(subject)`. -/
def getLatestSchema (p : UnityCatalogPlugin) (session : Session) (subject : String) :
    Except PyException Schema :=
  p.getSchemaBySubjectVersion session subject 1

/-- `list_versions(subject)`: `[1]` when the table could be read, `[]` on a `KeyError`. -/
def listVersions (p : UnityCatalogPlugin) (session : Session) (subject : String) :
    Except PyException (List Int) :=
  match p.getLatestSchema session subject with
  | .ok _ => .ok [1]
  | .error e => if e.cls.isKeyError then .ok [] else .error e

/-- The subject of one entry of `tables`, if it passes the prefix filter. -/
def tableSubject (pfx : Option String) (table : JsonValue) :
    Except PyException (Option String) := do
  let subject := (← table.getItem "catalog_name").pyStr ++ "." ++
    (← table.getItem "schema_name").pyStr ++ "." ++ (← table.getItem "name").pyStr
  pure (match pfx with
    | some pfx => if pfx != "" && !pyStartsWith subject pfx then none else some subject
    | none => some subject)

/-- `list_subjects(prefix=pfx)`: a `RequestException` gives `[]`. -/
def listSubjects (p : UnityCatalogPlugin) (session : Session) (pfx : Option String) :
    Except PyException (List String) :=
  let url := p.baseUrl ++ "/api/2.1/unity-catalog/tables"
  let run : Except PyException (List String) := do
    let response ← session.get url [("catalog_name", p.catalog)]
    response.raiseForStatus url
    let data ← response.json
    let tables ← (← data.getD "tables" (.arr [])).iter
    List.reduceOption <$> tables.mapM (tableSubject pfx)
  match run with
  | .error e => if e.cls.isRequestException then .ok [] else .error e
  | r => r

/-- The `tables` of the catalog's reply to the listing request of `list_subjects`. -/
def listedTables (p : UnityCatalogPlugin) (session : Session) :
    Except PyException (List JsonValue) := do
  let url := p.baseUrl ++ "/api/2.1/unity-catalog/tables"
  let response ← session.get url [("catalog_name", p.catalog)]
  response.raiseForStatus url
  let data ← response.json
  (← data.getD "tables" (.arr [])).iter

theorem listSubjects_eq (p : UnityCatalogPlugin) (session : Session) (pfx : Option String) :
    p.listSubjects session pfx =
      match p.listedTables session >>= fun tables =>
          List.reduceOption <$> tables.mapM (tableSubject pfx) with
      | .error e => if e.cls.isRequestException then .ok [] else .error e
      | r => r := by
  simp only [listSubjects, listedTables, bind_assoc]

theorem tableSubject_eq_some {pfx : Option String} {table : JsonValue} {subject : String}
    (h : tableSubject pfx table = .ok (some subject)) :
    ∃ c s n : JsonValue, table.getItem "catalog_name" = .ok c ∧
      table.getItem "schema_name" = .ok s ∧ table.getItem "name" = .ok n ∧
      subject = c.pyStr ++ "." ++ s.pyStr ++ "." ++ n.pyStr := by
  simp only [tableSubject, bind_eq_ok] at h
  obtain ⟨c, hc, s, hs, n, hn, h⟩ := h
  refine ⟨c, s, n, hc, hs, hn, ?_⟩
  split at h <;> [split at h; skip] <;> cases h <;> rfl

/-- Every subject listed is the name of one table of the catalog's reply. -/
theorem listSubjects_listed {p : UnityCatalogPlugin} {session : Session} {pfx : Option String}
    {subjects : List String} (hlist : p.listSubjects session pfx = .ok subjects)
    {subject : String} (hmem : subject ∈ subjects) :
    ∃ tables, p.listedTables session = .ok tables ∧
      ∃ table ∈ tables, tableSubject pfx table = .ok (some subject) := by
  rw [listSubjects_eq] at hlist
  split at hlist
  · split at hlist <;> cases hlist
    simp at hmem
  · obtain ⟨tables, htables, hsubjects⟩ := bind_eq_ok.mp hlist
    obtain ⟨r, hr, rfl⟩ := map_eq_ok.mp hsubjects
    exact ⟨tables, htables, mem_reduceOption_mapM hr hmem⟩

/-- The read asks the server for the table's URL only. -/
theorem readTable_congr {later later' : Session} {url : String}
    (h : later.get url [] = later'.get url []) (subject : String) (version : Int) :
    readTable later url subject version = readTable later' url subject version := by
  simp only [readTable, h]

/-- A 404 for the table raises the `HTTPError` that the handler of that status catches. -/
theorem notFoundAs_readTable {later : Session} {url : String} {response : Response}
    (h : later.get url [] = .ok response) (h404 : response.statusCode = 404) (e404 : PyException)
    (subject : String) (version : Int) :
    notFoundAs e404 (readTable later url subject version) = .error e404 := by
  simp [readTable, h, Response.raiseForStatus, h404, notFoundAs]

/-- What `list_subjects` names, `get_schema_by_subject_version` reads: a listed subject was joined
from the three names of a table of the catalog's reply. If one of the names holds a dot,
`_parse_subject` raises `ValueError` on it. Otherwise reading it requests the table's URL, what the
read returns depends on the server only through its answer there, and a 404 is a `KeyError`. -/
theorem listSubjects_readBack (p : UnityCatalogPlugin) (session : Session) (pfx : Option String)
    {subjects : List String} (hlist : p.listSubjects session pfx = .ok subjects)
    {subject : String} (hmem : subject ∈ subjects) (version : Int) :
    ∃ tables, p.listedTables session = .ok tables ∧ ∃ table ∈ tables, ∃ c s n : JsonValue,
      table.getItem "catalog_name" = .ok c ∧ table.getItem "schema_name" = .ok s ∧
      table.getItem "name" = .ok n ∧ subject = c.pyStr ++ "." ++ s.pyStr ++ "." ++ n.pyStr ∧
      if '.' ∈ c.pyStr.data ∨ '.' ∈ s.pyStr.data ∨ '.' ∈ n.pyStr.data then
        ∀ later, p.getSchemaBySubjectVersion later subject version =
          .error ⟨.valueError, "Subject must be in format catalog.schema.table, got: " ++ subject⟩
      else
        (∀ later later', later.get (p.baseUrl ++ "/api/2.1/unity-catalog/tables/" ++ subject) [] =
            later'.get (p.baseUrl ++ "/api/2.1/unity-catalog/tables/" ++ subject) [] →
          p.getSchemaBySubjectVersion later subject version =
            p.getSchemaBySubjectVersion later' subject version) ∧
        ∀ later response,
          later.get (p.baseUrl ++ "/api/2.1/unity-catalog/tables/" ++ subject) [] = .ok response →
          response.statusCode = 404 → p.getSchemaBySubjectVersion later subject version =
            .error ⟨.keyError, strRepr ("Table " ++ subject ++ " not found")⟩ := by
  obtain ⟨tables, htables, table, htable, hsubject⟩ := listSubjects_listed hlist hmem
  obtain ⟨c, s, n, hc, hs, hn, rfl⟩ := tableSubject_eq_some hsubject
  refine ⟨tables, htables, table, htable, c, s, n, hc, hs, hn, rfl, ?_⟩
  have hurl : p.tableUrl c.pyStr s.pyStr n.pyStr = p.baseUrl ++ "/api/2.1/unity-catalog/tables/" ++
      (c.pyStr ++ "." ++ s.pyStr ++ "." ++ n.pyStr) := by
    simp only [tableUrl, String.append_assoc]
  simp only [getSchemaBySubjectVersion, parseSubject_join]
  split_ifs
  · exact fun _ => rfl
  · refine ⟨fun later later' h => ?_, fun later response h h404 => ?_⟩
    · simp only [ok_bind, hurl, readTable_congr h]
    · simp only [ok_bind, hurl, notFoundAsKeyError, notFoundAs_readTable h h404, keyError]

/-- A catalog at `http://uc` that lists the table `main.sales.eu.orders`, whose schema name holds a
dot. -/
def dottedCatalog : Session :=
  ⟨fun url _ =>
    if url = "http://uc/api/2.1/unity-catalog/tables" then
      .ok ⟨200, "OK", .ok (.obj [("tables", .arr [.obj [("catalog_name", .str "main"),
        ("schema_name", .str "sales.eu"), ("name", .str "orders")]])])⟩
    else .ok ⟨404, "Not Found", .ok (.obj [])⟩⟩

theorem listSubjects_readBack_dotted :
    (⟨"http://uc", .str "main"⟩ : UnityCatalogPlugin).listSubjects dottedCatalog none =
        .ok ["main.sales.eu.orders"] ∧ "main.sales.eu.orders" ∈ ["main.sales.eu.orders"] ∧
      ∃ tables, (⟨"http://uc", .str "main"⟩ : UnityCatalogPlugin).listedTables dottedCatalog =
        .ok tables ∧ ∃ table ∈ tables, ∃ c s n : JsonValue,
        table.getItem "catalog_name" = .ok c ∧ table.getItem "schema_name" = .ok s ∧
        table.getItem "name" = .ok n ∧
        "main.sales.eu.orders" = c.pyStr ++ "." ++ s.pyStr ++ "." ++ n.pyStr ∧
        if '.' ∈ c.pyStr.data ∨ '.' ∈ s.pyStr.data ∨ '.' ∈ n.pyStr.data then
          ∀ later, (⟨"http://uc", .str "main"⟩ : UnityCatalogPlugin).getSchemaBySubjectVersion later
              "main.sales.eu.orders" 1 =
            .error ⟨.valueError, "Subject must be in format catalog.schema.table, got: " ++
              "main.sales.eu.orders"⟩
        else
          (∀ later later', later.get ("http://uc" ++ "/api/2.1/unity-catalog/tables/" ++
              "main.sales.eu.orders") [] =
              later'.get ("http://uc" ++ "/api/2.1/unity-catalog/tables/" ++
                "main.sales.eu.orders") [] →
            (⟨"http://uc", .str "main"⟩ : UnityCatalogPlugin).getSchemaBySubjectVersion later
                "main.sales.eu.orders" 1 =
              (⟨"http://uc", .str "main"⟩ : UnityCatalogPlugin).getSchemaBySubjectVersion later'
                "main.sales.eu.orders" 1) ∧
          ∀ later response, later.get ("http://uc" ++ "/api/2.1/unity-catalog/tables/" ++
              "main.sales.eu.orders") [] = .ok response →
            response.statusCode = 404 →
            (⟨"http://uc", .str "main"⟩ : UnityCatalogPlugin).getSchemaBySubjectVersion later
                "main.sales.eu.orders" 1 =
              .error ⟨.keyError, strRepr ("Table " ++ "main.sales.eu.orders" ++ " not found")⟩ :=
  have hlist : (⟨"http://uc", .str "main"⟩ : UnityCatalogPlugin).listSubjects dottedCatalog none =
      .ok ["main.sales.eu.orders"] := rfl
  ⟨hlist, List.mem_singleton_self _,
    listSubjects_readBack _ _ _ hlist (List.mem_singleton_self _) 1⟩

/-- `get_schema_by_id(schema_id)`: tables have no numeric ids. -/
def getSchemaById (_schemaId : Int) : Except PyException Schema :=
  .error ⟨.notImplementedError, "Unity Catalog doesn" ++ ⟨[Char.ofNat 39]⟩ ++
    "t support lookup by numeric ID. Use get_schema_by_subject_version instead."⟩

/-- `get_metadata(subject, version)`. -/
def getMetadata (p : UnityCatalogPlugin) (session : Session) (subject : String) (version : Int) :
    Except PyException (List (String × JsonValue)) :=
  Schema.metadata <$> p.getSchemaBySubjectVersion session subject version

/-- `get_all_compatibility_modes()`: every listed table is in `BACKWARD`. -/
def getAllCompatibilityModes (p : UnityCatalogPlugin) (session : Session) :
    Except PyException (Dict String CompatibilityMode) :=
  (·.foldl (fun modes subject => modes.insert subject .backward) Dict.empty) <$>
    p.listSubjects session none

/-- `discover_schemas(namespace, filters)`: the tables whose schema could be read. -/
def discoverSchemas (p : UnityCatalogPlugin) (session : Session) (nspace : Option String) :
    List Schema :=
  discoverWith (p.listSubjects session) (p.getLatestSchema session) nspace

/-- `health_check()`, whose request took `responseTimeMs`. -/
def healthCheck (p : UnityCatalogPlugin) (session : Session) (responseTimeMs : Float) :
    Except PyException HealthStatus :=
  timedHealthCheck session (p.baseUrl ++ "/api/2.1/unity-catalog/catalogs") p.baseUrl
    "Unity Catalog is healthy"
    [("url", .str p.baseUrl), ("catalog", p.catalog),
      ("registry_type", .str RegistryType.unityCatalog.value)]
    responseTimeMs

/-! ## Writing a table -/

/-- The table `register_schema` posts. -/
def tablePayload (catalog schemaName tableName : String) (columns : List JsonValue)
    (metadata : Option (List (String × JsonValue))) : JsonValue :=
  .obj [("name", .str tableName), ("catalog_name", .str catalog), ("schema_name", .str schemaName),
    ("table_type", .str "MANAGED"), ("data_source_format", .str "DELTA"), ("columns", .arr columns),
    ("properties", .obj (metadata.getD []))]

/-- `register_schema(subject, schema_content, schema_format, metadata)`: an Iceberg schema becomes
the columns of a table created under the subject's name. -/
def registerSchema (p : UnityCatalogPlugin) (session : HttpSession)
    (loads : String → Except PyException JsonValue) (subject schemaContent : String)
    (schemaFormat : SchemaFormat) (metadata : Option (List (String × JsonValue))) :
    Except PyException Schema := do
  let (catalog, schemaName, tableName) ← parseSubject subject
  if schemaFormat = .avro then
    throw ⟨.notImplementedError, "Avro to Iceberg transformation not yet implemented"⟩
  if schemaFormat ≠ .iceberg then
    throw ⟨.valueError, "Unsupported format: SchemaFormat." ++ schemaFormat.name⟩
  let columns ← icebergToUcColumns (← loads schemaContent)
  let url := p.baseUrl ++ "/api/2.1/unity-catalog/tables"
  let response ← session.post url (tablePayload catalog schemaName tableName columns metadata)
  response.raiseForStatus url
  let data ← response.json
  let tableId ← data.getD "table_id" .null
  let createdAt ← data.getD "created_at" .null
  let storageLocation ← data.getD "storage_location" .null
  pure { subject, version := 1, schemaFormat := .iceberg, schemaContent
         registryType := .unityCatalog
         metadata := [("table_id", tableId), ("created_at", createdAt),
           ("storage_location", storageLocation), ("catalog", .str catalog),
           ("schema", .str schemaName), ("table", .str tableName)] }

/-- `delete_schema_version(subject, version)`: deletes the whole table; a 404 becomes
`KeyError(f"Table {subject} not found")`. -/
def deleteSchemaVersion (p : UnityCatalogPlugin) (session : HttpSession) (subject : String)
    (_version : Int) : Except PyException Bool := do
  let (catalog, schemaName, tableName) ← parseSubject subject
  notFoundAsKeyError subject do
    let url := p.tableUrl catalog schemaName tableName
    let response ← session.delete url
    response.raiseForStatus url
    pure true

/-- `update_metadata(subject, version, metadata)`: `False` on a `RequestException`. -/
def updateMetadata (p : UnityCatalogPlugin) (session : HttpSession) (subject : String)
    (_version : Int) (metadata : List (String × JsonValue)) : Except PyException Bool := do
  let (catalog, schemaName, tableName) ← parseSubject subject
  let url := p.tableUrl catalog schemaName tableName
  let run : Except PyException Unit := do
    let response ← session.patch url (.obj [("properties", .obj metadata)])
    response.raiseForStatus url
  match run with
  | .ok () => pure true
  | .error e => if e.cls.isRequestException then pure false else throw e

/-! ## Compatibility -/

/-- The `try` body of `check_compatibility`: the stored schema and the new one, both parsed, checked
by the evolution rules. -/
def evolutionOf (p : UnityCatalogPlugin) (session : Session)
    (loads : String → Except PyException JsonValue) (setOrder : SetOrder)
    (subject schemaContent : String) : Except PyException (Bool × List String) := do
  let currentSchema ← p.getLatestSchema session subject
  let newSchemaJson ← loads schemaContent
  let currentSchemaJson ← loads currentSchema.schemaContent
  checkIcebergEvolution setOrder currentSchemaJson newSchemaJson

/-- The message of a check that found no table. -/
def newTableMessage : String := "New table - no compatibility check needed"

/-- `check_compatibility(subject, schema_content, schema_format, version)`: a `KeyError` is taken
for a missing table, any other exception for a failed check. -/
def checkCompatibility (p : UnityCatalogPlugin) (session : Session)
    (loads : String → Except PyException JsonValue) (setOrder : SetOrder)
    (subject schemaContent : String) (_schemaFormat : SchemaFormat) (_version : Option Int) :
    CompatibilityResult :=
  match p.evolutionOf session loads setOrder subject schemaContent with
  | .ok (isCompatible, messages) =>
    ⟨isCompatible, messages, .backward, if isCompatible then [] else messages⟩
  | .error e =>
    if e.cls.isKeyError then ⟨true, [newTableMessage], .backward, []⟩
    else ⟨false, [], .none, [e.str]⟩

/-! ## An Avro schema against an existing table -/

/-- A catalog at `http://uc` with the table `main.sales.orders`, whose one column `order_id` is a
required `long`; any other table is missing. -/
def ordersCatalog : Session :=
  ⟨fun url _ =>
    if url = "http://uc/api/2.1/unity-catalog/tables/main.sales.orders" then
      .ok ⟨200, "OK", .ok (.obj [("name", .str "orders"), ("columns", .arr [.obj [
        ("name", .str "order_id"), ("type_text", .str "BIGINT"), ("type_name", .str "LONG"),
        ("position", .num 1), ("nullable", .bool false), ("comment", .str "")]])])⟩
    else .ok ⟨404, "Not Found", .ok (.obj [])⟩⟩

/-- The Iceberg schema the plugin reads back for `main.sales.orders`. -/
def storedOrders : JsonValue :=
  .obj [("type", .str "struct"), ("fields", .arr [.obj [("id", .num 1), ("name", .str "order_id"),
    ("type", .str "long"), ("required", .bool true), ("doc", .str "")]])]

/-- An Avro record schema for orders: its fields have no `id`. -/
def avroOrder : JsonValue :=
  .obj [("type", .str "record"), ("name", .str "Order"),
    ("fields", .arr [.obj [("name", .str "order_id"), ("type", .str "long")]])]

/-- Whatever order sets are iterated in, and for any parser that reads the two documents back, the
Avro schema is reported as compatible with the message for a new table, although the table exists:
the evolution check raises `KeyError('id')` on the Avro fields. -/
theorem avroSchema_passesAsNewTable (loads : String → Except PyException JsonValue)
    (setOrder : SetOrder) (hloads : ∀ v ∈ [storedOrders, avroOrder], loads v.dumps = .ok v) :
    (⟨"http://uc", .str "main"⟩ : UnityCatalogPlugin).checkCompatibility ordersCatalog loads
        setOrder "main.sales.orders" avroOrder.dumps .avro none =
      ⟨true, [newTableMessage], .backward, []⟩ := by
  have hs : (⟨"http://uc", .str "main"⟩ : UnityCatalogPlugin).getLatestSchema ordersCatalog
      "main.sales.orders" = .ok ⟨"main.sales.orders", 1, .iceberg, storedOrders.dumps,
        .unityCatalog, none, [("table_id", .null), ("table_type", .null),
          ("data_source_format", .null), ("storage_location", .null)], none, none⟩ := rfl
  have he : checkIcebergEvolution setOrder storedOrders avroOrder = .error (keyError "id") := rfl
  simp only [checkCompatibility, evolutionOf, hs, ok_bind, hloads storedOrders (by simp),
    hloads avroOrder (by simp), he]
  rfl

/-- `json.loads` on the texts `json.dumps` writes for the documents `docs`. -/
def loadsOf (docs : List JsonValue) (s : String) : Except PyException JsonValue :=
  match docs.find? (fun v => v.dumps == s) with
  | some v => .ok v
  | none => .error ⟨.jsonDecodeError, "Expecting value: line 1 column 1 (char 0)"⟩

theorem avroSchema_passesAsNewTable_loadsOf :
    (∀ v ∈ [storedOrders, avroOrder], loadsOf [storedOrders, avroOrder] v.dumps = .ok v) ∧
    (⟨"http://uc", .str "main"⟩ : UnityCatalogPlugin).checkCompatibility ordersCatalog
        (loadsOf [storedOrders, avroOrder]) .asListed "main.sales.orders" avroOrder.dumps .avro
        none =
      ⟨true, [newTableMessage], .backward, []⟩ :=
  have hloads :
      ∀ v ∈ [storedOrders, avroOrder], loadsOf [storedOrders, avroOrder] v.dumps = .ok v := by
    simp only [List.mem_cons, List.not_mem_nil, or_false]
    rintro v (rfl | rfl) <;> rfl
  ⟨hloads, avroSchema_passesAsNewTable _ _ hloads⟩

end UnityCatalogPlugin

end SchemaFederation.Plugins.UnityCatalog

import SchemaFederation.Python.Json

/-!
# The shared data model

`src/core/models.py`: the registry types, schema formats and compatibility modes, each with the
`.value` text the orchestrator reports (and, where the code looks members up by name with `E[name]`,
their names and `enumGetItem`), and the dataclasses that the operations pass around.
`Schema.created_at` is a `datetime`; here it is its ISO text. `BulkCheckResult.duration_seconds`
is wall-clock time and is left out, as is every `to_dict`.
-/

namespace SchemaFederation.Core

open Python

/-- `RegistryType`. -/
inductive RegistryType where
  | confluent
  | unityCatalog
  | awsGlue
  | azurePurview
  | apicurio
  | karapace
  | pulsar
  | redpanda
  | snowflake
  | gcpDataCatalog
  deriving DecidableEq, Repr

/-- `RegistryType.value`. -/
def RegistryType.value : RegistryType → String
  | confluent => "confluent"
  | unityCatalog => "unity_catalog"
  | awsGlue => "aws_glue"
  | azurePurview => "azure_purview"
  | apicurio => "apicurio"
  | karapace => "karapace"
  | pulsar => "pulsar"
  | redpanda => "redpanda"
  | snowflake => "snowflake"
  | gcpDataCatalog => "gcp_data_catalog"

/-- The members of `RegistryType`, in the order the class lists them. -/
def RegistryType.members : List RegistryType :=
  [.confluent, .unityCatalog, .awsGlue, .azurePurview, .apicurio, .karapace, .pulsar, .redpanda,
    .snowflake, .gcpDataCatalog]

/-- `RegistryType.name`. -/
def RegistryType.name : RegistryType → String
  | confluent => "CONFLUENT"
  | unityCatalog => "UNITY_CATALOG"
  | awsGlue => "AWS_GLUE"
  | azurePurview => "AZURE_PURVIEW"
  | apicurio => "APICURIO"
  | karapace => "KARAPACE"
  | pulsar => "PULSAR"
  | redpanda => "REDPANDA"
  | snowflake => "SNOWFLAKE"
  | gcpDataCatalog => "GCP_DATA_CATALOG"

/-- `SchemaFormat`. -/
inductive SchemaFormat where
  | avro
  | protobuf
  | jsonSchema
  | iceberg
  | parquet
  | openapi
  | asyncapi
  | sqlDdl
  deriving DecidableEq, Repr

/-- `SchemaFormat.value`. -/
def SchemaFormat.value : SchemaFormat → String
  | avro => "avro"
  | protobuf => "protobuf"
  | jsonSchema => "json_schema"
  | iceberg => "iceberg"
  | parquet => "parquet"
  | openapi => "openapi"
  | asyncapi => "asyncapi"
  | sqlDdl => "sql_ddl"

/-- The members of `SchemaFormat`, in the order the class lists them. -/
def SchemaFormat.members : List SchemaFormat :=
  [.avro, .protobuf, .jsonSchema, .iceberg, .parquet, .openapi, .asyncapi, .sqlDdl]

/-- `SchemaFormat.name`. -/
def SchemaFormat.name : SchemaFormat → String
  | avro => "AVRO"
  | protobuf => "PROTOBUF"
  | jsonSchema => "JSON_SCHEMA"
  | iceberg => "ICEBERG"
  | parquet => "PARQUET"
  | openapi => "OPENAPI"
  | asyncapi => "ASYNCAPI"
  | sqlDdl => "SQL_DDL"

/-- `CompatibilityMode`. -/
inductive CompatibilityMode where
  | none
  | backward
  | backwardTransitive
  | forward
  | forwardTransitive
  | forwardFull
  | full
  | fullTransitive
  deriving DecidableEq, Repr

/-- `CompatibilityMode.value`. -/
def CompatibilityMode.value : CompatibilityMode → String
  | none => "NONE"
  | backward => "BACKWARD"
  | backwardTransitive => "BACKWARD_TRANSITIVE"
  | forward => "FORWARD"
  | forwardTransitive => "FORWARD_TRANSITIVE"
  | forwardFull => "FORWARD_FULL"
  | full => "FULL"
  | fullTransitive => "FULL_TRANSITIVE"

/-- The members of `CompatibilityMode`, in the order the class lists them. -/
def CompatibilityMode.members : List CompatibilityMode :=
  [.none, .backward, .backwardTransitive, .forward, .forwardTransitive, .forwardFull, .full,
    .fullTransitive]

/-- `CompatibilityMode.name`: the member names, which are also the values. -/
def CompatibilityMode.name : CompatibilityMode → String
  | none => "NONE"
  | backward => "BACKWARD"
  | backwardTransitive => "BACKWARD_TRANSITIVE"
  | forward => "FORWARD"
  | forwardTransitive => "FORWARD_TRANSITIVE"
  | forwardFull => "FORWARD_FULL"
  | full => "FULL"
  | fullTransitive => "FULL_TRANSITIVE"

/-- `E[key]` for an enum whose members are `members`, each named by `name`: the member whose name
equals the key, which only a string can, `KeyError(key)` when there is none, and `TypeError` when
the key is unhashable. -/
def enumGetItem {α : Type} (members : List α) (name : α → String) (key : JsonValue) :
    Except PyException α := do
  let _ ← key.hashKey
  let found := match key with
    | .str s => members.find? (name · == s)
    | _ => none
  match found with
  | some m => pure m
  | none => .error ⟨.keyError, key.pyRepr⟩

/-- Among members with distinct names, a string finds exactly the member of that name. -/
theorem enumGetItem_str_eq_ok {α : Type} {members : List α} {name : α → String}
    (hinj : ∀ a ∈ members, ∀ b ∈ members, name a = name b → a = b) {m : α} (hm : m ∈ members)
    (s : String) : enumGetItem members name (.str s) = .ok m ↔ name m = s := by
  simp only [enumGetItem, JsonValue.hashKey, ok_bind]
  constructor
  · intro h
    split at h
    · rename_i m' hfound
      cases h
      have hbeq := List.find?_some hfound
      simpa using hbeq
    · cases h
  · intro hname
    have hsome : (members.find? (name · == s)).isSome :=
      List.find?_isSome.mpr ⟨m, hm, by simp [hname]⟩
    obtain ⟨m', hfound⟩ := Option.isSome_iff_exists.mp hsome
    have hbeq := List.find?_some hfound
    have hm' : name m' = s := by simpa using hbeq
    rw [hfound, hinj m' (List.mem_of_find?_eq_some hfound) m hm (hm'.trans hname.symm)]
    rfl

/-- `CompatibilityMode[key]`. -/
def CompatibilityMode.getItem (key : JsonValue) : Except PyException CompatibilityMode :=
  enumGetItem CompatibilityMode.members CompatibilityMode.name key

/-- `SchemaFormat[key]`. -/
def SchemaFormat.getItem (key : JsonValue) : Except PyException SchemaFormat :=
  enumGetItem SchemaFormat.members SchemaFormat.name key

/-- `RegistryType[key]`. -/
def RegistryType.getItem (key : JsonValue) : Except PyException RegistryType :=
  enumGetItem RegistryType.members RegistryType.name key

theorem CompatibilityMode.mem_members (m : CompatibilityMode) : m ∈ CompatibilityMode.members := by
  cases m <;> decide

theorem CompatibilityMode.name_inj :
    ∀ a ∈ CompatibilityMode.members, ∀ b ∈ CompatibilityMode.members, a.name = b.name → a = b := by
  decide

theorem RegistryType.mem_members (t : RegistryType) : t ∈ RegistryType.members := by
  cases t <;> decide

theorem RegistryType.name_inj :
    ∀ a ∈ RegistryType.members, ∀ b ∈ RegistryType.members, a.name = b.name → a = b := by
  decide

/-- `RegistryType[s]` is the member named `s`. -/
theorem RegistryType.getItem_str_eq_ok {s : String} {t : RegistryType} :
    RegistryType.getItem (.str s) = .ok t ↔ t.name = s :=
  enumGetItem_str_eq_ok RegistryType.name_inj (RegistryType.mem_members t) s

/-- A mode's value names it: `CompatibilityMode[m.value]` is `m`. -/
@[simp] theorem CompatibilityMode.getItem_value (m : CompatibilityMode) :
    CompatibilityMode.getItem (.str m.value) = .ok m := by
  cases m <;> rfl

/-- `Schema`. -/
structure Schema where
  subject : String
  version : Int
  schemaFormat : SchemaFormat
  schemaContent : String
  registryType : RegistryType
  id : Option Int := .none
  metadata : List (String × JsonValue) := []
  createdAt : Option String := .none
  createdBy : Option String := .none
  deriving Repr

/-- `CompatibilityResult`: `errors` is non-empty only when the check itself failed. -/
structure CompatibilityResult where
  isCompatible : Bool
  messages : List String
  compatibilityLevel : CompatibilityMode
  errors : List String := []
  deriving DecidableEq, Repr

/-- `RegistryConfig`. The dataclass checks none of its fields' types, so each field holds what the
configuration entry holds: a YAML `id: null`, `url: 7` or `metadata: []` is kept as it is. Only
`type` is always a member, the one `RegistryType[...]` gave. -/
structure RegistryConfig where
  id : JsonValue
  type : RegistryType
  url : JsonValue
  auth : JsonValue := .obj []
  sslConfig : JsonValue := .obj []
  timeout : JsonValue := .num 30
  maxRetries : JsonValue := .num 3
  metadata : JsonValue := .obj []
  enabled : JsonValue := .bool true
  deriving Repr

/-- `HealthStatus`. -/
structure HealthStatus where
  healthy : Bool
  statusCode : Int
  message : String
  responseTimeMs : Float
  metadata : List (String × JsonValue) := []
  deriving Repr

/-- One entry of `BulkCheckResult.results`: the dict with keys `registry_id`, `subject`,
`is_compatible`, `messages` and `errors`. -/
structure SubjectRecord where
  registryId : String
  subject : String
  isCompatible : Bool
  messages : List String
  errors : List String
  deriving DecidableEq, Repr

/-- `BulkCheckResult`, without its duration. -/
structure BulkCheckResult where
  totalChecked : Nat
  compatible : Nat
  incompatible : Nat
  errors : Nat
  results : List SubjectRecord := []
  deriving DecidableEq, Repr

end SchemaFederation.Core

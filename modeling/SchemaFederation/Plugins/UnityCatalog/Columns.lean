import SchemaFederation.Python.Json

/-!
# The Unity Catalog column codec

`UnityCatalogPlugin._iceberg_to_uc_columns` turns the fields of an Iceberg schema into Unity Catalog
columns, which `register_schema` sends; `_uc_columns_to_iceberg` turns the columns that
`get_schema_by_subject_version` reads back into an Iceberg schema. A field's type goes through
three tables: `_iceberg_type_to_uc_type`, `_iceberg_type_to_uc_type_name` and
`_uc_type_to_iceberg_type`. Each function raises what CPython raises on a value of the wrong shape.

* `primitiveType_roundTrip`: the three tables agree on the nine primitive types.
* `columns_roundTrip`: a schema whose fields have an id, a name and a primitive type reads back as
  the same fields in the same order, each with its id, name and type, its doc or `""`, and the truth
  value of its `required` flag.
* `nestedType_readsBackAsString`: a nested struct type reads back as `"string"`, because the
  decoding table has no entry for `STRUCT`, `ARRAY` or `MAP`.
-/

namespace SchemaFederation.Plugins.UnityCatalog

open Python

/-! ## Types -/

/-- The `mapping` of `_iceberg_type_to_uc_type`. -/
def icebergToUcTypes : List (String × String) :=
  [("boolean", "BOOLEAN"), ("int", "INT"), ("long", "BIGINT"), ("float", "FLOAT"),
    ("double", "DOUBLE"), ("string", "STRING"), ("binary", "BINARY"), ("date", "DATE"),
    ("timestamp", "TIMESTAMP")]

/-- `_iceberg_type_to_uc_type`: a primitive type by the table, a nested type by its `"type"`. -/
def icebergTypeToUcType : JsonValue → String
  | .str t => (icebergToUcTypes.lookup t).getD "STRING"
  | .obj kvs =>
    match kvs.lookup "type" with
    | some (.str "struct") => "STRUCT"
    | some (.str "list") => "ARRAY"
    | some (.str "map") => "MAP"
    | _ => "STRING"
  | _ => "STRING"

/-- The `mapping` of `_iceberg_type_to_uc_type_name`. -/
def ucTypeNames : List (String × String) :=
  [("BOOLEAN", "BOOLEAN"), ("INT", "INT"), ("BIGINT", "LONG"), ("FLOAT", "FLOAT"),
    ("DOUBLE", "DOUBLE"), ("STRING", "STRING"), ("BINARY", "BINARY"), ("DATE", "DATE"),
    ("TIMESTAMP", "TIMESTAMP"), ("STRUCT", "STRUCT"), ("ARRAY", "ARRAY"), ("MAP", "MAP")]

/-- `_iceberg_type_to_uc_type_name`. -/
def icebergTypeToUcTypeName (icebergType : JsonValue) : String :=
  (ucTypeNames.lookup (icebergTypeToUcType icebergType)).getD "STRING"

/-- The `mapping` of `_uc_type_to_iceberg_type`. -/
def ucToIcebergTypes : List (String × String) :=
  [("BOOLEAN", "boolean"), ("INT", "int"), ("LONG", "long"), ("BIGINT", "long"),
    ("FLOAT", "float"), ("DOUBLE", "double"), ("STRING", "string"), ("BINARY", "binary"),
    ("DATE", "date"), ("TIMESTAMP", "timestamp")]

/-- `_uc_type_to_iceberg_type(uc_type)`: only a string has `upper`. -/
def ucTypeToIcebergType : JsonValue → Except PyException String
  | .str t => .ok ((ucToIcebergTypes.lookup (pyUpper t)).getD "string")
  | v => .error (v.noAttribute "upper")

/-- The nine primitive types of Iceberg that the plugin's tables name. -/
def primitiveTypes : List String :=
  ["boolean", "int", "long", "float", "double", "string", "binary", "date", "timestamp"]

/-- A primitive type comes back as itself from the type name it is stored under. -/
theorem primitiveType_roundTrip {t : String} (ht : t ∈ primitiveTypes) :
    ucTypeToIcebergType (.str (icebergTypeToUcTypeName (.str t))) = .ok t := by
  simp only [primitiveTypes, List.mem_cons, List.not_mem_nil, or_false] at ht
  rcases ht with rfl | rfl | rfl | rfl | rfl | rfl | rfl | rfl | rfl <;> rfl

/-! ## Columns -/

/-- The column `_iceberg_to_uc_columns` makes of one field. -/
def icebergToUcColumn (field : JsonValue) : Except PyException JsonValue := do
  let name ← field.getItem "name"
  let typeText ← icebergTypeToUcType <$> field.getItem "type"
  let typeName ← icebergTypeToUcTypeName <$> field.getItem "type"
  let position ← field.getD "id" (.num 0)
  let required ← field.getD "required" (.bool false)
  let comment ← field.getD "doc" (.str "")
  pure (.obj [("name", name), ("type_text", .str typeText), ("type_name", .str typeName),
    ("position", position), ("nullable", .bool !required.truthy), ("comment", comment)])

/-- `_iceberg_to_uc_columns(iceberg_schema)`. -/
def icebergToUcColumns (icebergSchema : JsonValue) : Except PyException (List JsonValue) := do
  let fields ← (← icebergSchema.getD "fields" (.arr [])).iter
  fields.mapM icebergToUcColumn

/-- The field `_uc_columns_to_iceberg` makes of the column at index `idx`. -/
def ucColumnToIceberg (idx : Nat) (column : JsonValue) : Except PyException JsonValue := do
  let id ← column.getD "position" (.num (idx + 1))
  let name ← column.getItem "name"
  let type ← ucTypeToIcebergType (← column.getItem "type_name")
  let nullable ← column.getD "nullable" (.bool true)
  let doc ← column.getD "comment" (.str "")
  pure (.obj [("id", id), ("name", name), ("type", .str type), ("required", .bool !nullable.truthy),
    ("doc", doc)])

/-- `_uc_columns_to_iceberg(columns)`. -/
def ucColumnsToIceberg (columns : JsonValue) : Except PyException JsonValue := do
  let fields ← (← columns.iter).enum.mapM fun (idx, column) => ucColumnToIceberg idx column
  pure (.obj [("type", .str "struct"), ("fields", .arr fields)])

/-! ## The round trip -/

/-- The items of a field with an id, a name and a primitive type. -/
structure PrimitiveField (kvs : List (String × JsonValue)) : Prop where
  id : (kvs.lookup "id").isSome
  name : (kvs.lookup "name").isSome
  type : ∃ t ∈ primitiveTypes, kvs.lookup "type" = some (.str t)

/-- What a field reads back as: its id, name and type, its doc or `""`, and the truth value of its
`required` flag. -/
def readBack (kvs : List (String × JsonValue)) : JsonValue :=
  .obj [("id", (kvs.lookup "id").getD .null), ("name", (kvs.lookup "name").getD .null),
    ("type", (kvs.lookup "type").getD .null),
    ("required", .bool ((kvs.lookup "required").getD (.bool false)).truthy),
    ("doc", (kvs.lookup "doc").getD (.str ""))]

theorem field_roundTrip {kvs : List (String × JsonValue)} (h : PrimitiveField kvs) :
    ∃ column, icebergToUcColumn (.obj kvs) = .ok column ∧
      ∀ idx, ucColumnToIceberg idx column = .ok (readBack kvs) := by
  obtain ⟨id, hid⟩ := Option.isSome_iff_exists.mp h.id
  obtain ⟨name, hname⟩ := Option.isSome_iff_exists.mp h.name
  obtain ⟨t, ht, htype⟩ := h.type
  refine ⟨_, by simp [icebergToUcColumn, JsonValue.getItem, hname, htype]; rfl, fun idx => ?_⟩
  simp [ucColumnToIceberg, JsonValue.getItem, readBack, hid, hname, htype, List.lookup_cons,
    primitiveType_roundTrip ht, JsonValue.truthy]

theorem fields_roundTrip (fields : List (List (String × JsonValue)))
    (h : ∀ f ∈ fields, PrimitiveField f) :
    ∃ columns, (fields.map .obj).mapM icebergToUcColumn = .ok columns ∧
      ∀ j, (columns.enumFrom j).mapM (fun p => ucColumnToIceberg p.1 p.2) =
        .ok (fields.map readBack) := by
  induction fields with
  | nil => exact ⟨[], rfl, fun _ => rfl⟩
  | cons f fields ih =>
    obtain ⟨column, hc, hread⟩ := field_roundTrip (h f (.head _))
    obtain ⟨columns, hcs, hreads⟩ := ih (fun g hg => h g (.tail _ hg))
    refine ⟨column :: columns, ?_, fun j => ?_⟩
    · simp only [List.map_cons, List.mapM_cons, hc, hcs, ok_bind]; rfl
    · simp only [List.enumFrom_cons, List.mapM_cons, hread, hreads, ok_bind, List.map_cons]; rfl

/-- A schema whose fields have an id, a name and a primitive type reads back field by field. -/
theorem columns_roundTrip (schema : List (String × JsonValue))
    (fields : List (List (String × JsonValue)))
    (hfields : (schema.lookup "fields").getD (.arr []) = .arr (fields.map .obj))
    (hprim : ∀ f ∈ fields, PrimitiveField f) :
    (icebergToUcColumns (.obj schema) >>= fun columns => ucColumnsToIceberg (.arr columns)) =
      .ok (.obj [("type", .str "struct"), ("fields", .arr (fields.map readBack))]) := by
  obtain ⟨columns, hcs, hreads⟩ := fields_roundTrip fields hprim
  have hcols : icebergToUcColumns (.obj schema) = .ok columns := by
    simp only [icebergToUcColumns, JsonValue.getD_obj, hfields]
    exact hcs
  simp only [hcols, ucColumnsToIceberg, JsonValue.iter, List.enum, ok_bind, hreads 0]
  rfl

/-- Two fields of an orders table. -/
def ordersFields : List (List (String × JsonValue)) :=
  [[("id", .num 1), ("name", .str "order_id"), ("type", .str "long"), ("required", .bool true)],
    [("id", .num 2), ("name", .str "note"), ("type", .str "string"), ("doc", .str "free text")]]

theorem columns_roundTrip_orders :
    (∀ f ∈ ordersFields, PrimitiveField f) ∧
    (icebergToUcColumns (.obj [("fields", .arr (ordersFields.map JsonValue.obj))]) >>=
        fun columns => ucColumnsToIceberg (.arr columns)) =
      .ok (.obj [("type", .str "struct"), ("fields", .arr (ordersFields.map readBack))]) :=
  have hprim : ∀ f ∈ ordersFields, PrimitiveField f := by
    simp only [ordersFields, List.mem_cons, List.not_mem_nil, or_false]
    rintro f (rfl | rfl) <;> exact ⟨rfl, rfl, ⟨_, by decide, rfl⟩⟩
  ⟨hprim, columns_roundTrip _ _ rfl hprim⟩

/-- A field of a nested struct type is stored as `STRUCT` and reads back as a `"string"` field. -/
theorem nestedType_readsBackAsString :
    (icebergToUcColumns (.obj [("type", .str "struct"), ("fields", .arr [.obj [("id", .num 1),
        ("name", .str "address"), ("required", .bool false),
        ("type", .obj [("type", .str "struct"), ("fields", .arr [])])]])]) >>=
        fun columns => ucColumnsToIceberg (.arr columns)) =
      .ok (.obj [("type", .str "struct"), ("fields", .arr [.obj [("id", .num 1),
        ("name", .str "address"), ("type", .str "string"), ("required", .bool false),
        ("doc", .str "")]])]) :=
  rfl

end SchemaFederation.Plugins.UnityCatalog

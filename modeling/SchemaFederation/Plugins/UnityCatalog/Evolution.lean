import SchemaFederation.Python.Json

/-!
# Iceberg schema evolution

`UnityCatalogPlugin._check_iceberg_evolution(old_schema, new_schema)` maps the fields of each schema
by id (`fieldsOf`: `{f["id"]: f for f in schema.get("fields", [])}`, where a later field with a
repeated id replaces the earlier one under the key first written), then runs three loops, each of
which appends a message and clears `is_compatible` for every field that breaks its rule:

1. over `old_fields.items()`: a required field whose id is not in the new schema;
2. over the common ids: a type change that `_is_safe_type_promotion` does not allow;
3. over the common ids: a field that goes from nullable to required.

`messageLoop` is the shape the three loops share; `removedCheck`, `typeCheck` and `nullabilityCheck`
are their bodies. Loops 2 and 3 iterate the set `old_fields.keys() & new_fields.keys()`, whose order
CPython derives from hashes, so the model takes it as a parameter (`SetOrder`): any permutation of
the common ids.

* `fieldsOf_idMapOf`: the dict the comprehension builds is the id-to-field map of the schema's
  fields (`IdMapOf`): its keys in the order they first occur, each with the id first written under
  it and the items of the last field with that key.
* `checkIcebergEvolution_spec`: whenever the check returns, `is_compatible` holds iff the id maps
  of the two schemas obey the three rules (`Evolves`), which read only ids, types and `required`
  flags. The messages
  are one per broken rule instance, or `["Schema evolution is compatible"]`, and they are the
  latter exactly when the check passes.
* `reorderedFields_flipVerdict`: when two fields share an id the last one counts, so reordering the
  fields of a schema can change the verdict.
* `nestedTypeChange_raises`: a type that changes to a nested type object raises `TypeError`, since
  `_is_safe_type_promotion` hashes the pair of types.
* `checkIcebergEvolution_sameVerdict`: the set's order changes no verdict. Under any two orders the
  check raises both times, or returns both times with the same `is_compatible` and the same
  messages up to order.
-/

namespace SchemaFederation.Plugins.UnityCatalog

open Python

/-! ## Fields by id -/

/-- The dict `{f["id"]: f for f in fields}`: under each id's key, the id as first written (a dict
keeps its first key) and the items of the last field with that id. -/
abbrev FieldsById := Dict HashKey (JsonValue × List (String × JsonValue))

/-- `f["id"]`, with the items of `f`, which is a dict when that returned. -/
def idOf : JsonValue → Except PyException (JsonValue × List (String × JsonValue))
  | .obj kvs => (·, kvs) <$> (JsonValue.obj kvs).getItem "id"
  | f => .error f.subscriptError

/-- One step of the comprehension: `d[f["id"]] = f`. -/
def addField (d : FieldsById) (f : JsonValue) : Except PyException FieldsById := do
  let (id, field) ← idOf f
  let k ← id.hashKey
  pure (d.insert k (((d.get? k).map Prod.fst).getD id, field))

/-- `{f["id"]: f for f in schema.get("fields", [])}`. -/
def fieldsOf (schema : JsonValue) : Except PyException FieldsById := do
  let fields ← (← schema.getD "fields" (.arr [])).iter
  fields.foldlM addField Dict.empty

/-! ### What the comprehension builds -/

/-- The entry a field gives the comprehension: the key of its id, the id, and the field's items. -/
def FieldEntry (f : JsonValue) (e : HashKey × JsonValue × List (String × JsonValue)) : Prop :=
  ∃ kvs, f = .obj kvs ∧ kvs.lookup "id" = some e.2.1 ∧ e.2.1.hashKey = .ok e.1 ∧ e.2.2 = kvs

/-- The distinct items of a list, each where it first occurs. -/
def firstOccurrences {α : Type} [DecidableEq α] : List α → List α
  | [] => []
  | a :: l => a :: (firstOccurrences l).filter (· ≠ a)

/-- The dict a comprehension over `entries` denotes: the keys in the order they first occur, each
with the id first written under it and the items of the last field with that key. -/
structure IsIdMap (entries : List (HashKey × JsonValue × List (String × JsonValue)))
    (d : FieldsById) : Prop where
  keys : d.keys = firstOccurrences (entries.map Prod.fst)
  firstId : ∀ k, (d.get? k).map Prod.fst = (entries.find? (·.1 = k)).map (·.2.1)
  lastField : ∀ k, (d.get? k).map Prod.snd = (entries.reverse.find? (·.1 = k)).map (·.2.2)

/-- `d` is the id-to-field map of `schema["fields"]`: every field is a dict whose id is hashable,
and `d` is what the comprehension denotes over their entries. -/
def IdMapOf (schema : JsonValue) (d : FieldsById) : Prop :=
  ∃ fields entries, (schema.getD "fields" (.arr []) >>= JsonValue.iter) = .ok fields ∧
    List.Forall₂ FieldEntry fields entries ∧ IsIdMap entries d

section
variable {α : Type} [DecidableEq α]

theorem mem_firstOccurrences {a : α} : ∀ {l : List α}, a ∈ firstOccurrences l ↔ a ∈ l
  | [] => Iff.rfl
  | b :: l => by
    by_cases h : a = b
    · simp [firstOccurrences, h]
    · simp [firstOccurrences, h, mem_firstOccurrences]

theorem firstOccurrences_append_singleton (a : α) :
    ∀ l : List α, firstOccurrences (l ++ [a]) =
      if a ∈ l then firstOccurrences l else firstOccurrences l ++ [a]
  | [] => rfl
  | b :: l => by
    rw [List.cons_append, firstOccurrences, firstOccurrences_append_singleton a l]
    by_cases hl : a ∈ l
    · simp [hl, firstOccurrences]
    · by_cases hb : a = b
      · subst hb; simp [hl, firstOccurrences, List.filter_append]
      · simp [hl, hb, firstOccurrences, List.filter_append]

end

theorem addField_eq_ok {d d' : FieldsById} {f : JsonValue} (h : addField d f = .ok d') :
    ∃ e, FieldEntry f e ∧ d' = d.insert e.1 (((d.get? e.1).map Prod.fst).getD e.2.1, e.2.2) := by
  match f, h with
  | .obj kvs, h =>
    simp only [addField, idOf, bind_eq_ok] at h
    obtain ⟨⟨id, field⟩, hid, k, hk, h⟩ := h
    obtain ⟨id', hget, hpair⟩ := map_eq_ok.mp hid
    cases hpair
    cases h
    exact ⟨(k, id, kvs), ⟨kvs, rfl, JsonValue.getItem_obj_eq_ok.mp hget, hk, rfl⟩, rfl⟩

/-- One step of the comprehension adds one entry to what it denotes. -/
theorem IsIdMap.snoc {es : List (HashKey × JsonValue × List (String × JsonValue))} {d : FieldsById}
    (h : IsIdMap es d) (e : HashKey × JsonValue × List (String × JsonValue)) :
    IsIdMap (es ++ [e]) (d.insert e.1 (((d.get? e.1).map Prod.fst).getD e.2.1, e.2.2)) := by
  have hmem : e.1 ∈ d.keys ↔ e.1 ∈ es.map Prod.fst := by rw [h.keys, mem_firstOccurrences]
  refine ⟨?_, fun k => ?_, fun k => ?_⟩
  · rw [List.map_append, List.map_singleton, firstOccurrences_append_singleton, ← h.keys]
    by_cases hk : e.1 ∈ d.keys
    · rw [if_pos (hmem.mp hk), Dict.keys_insert_of_mem _ hk]
    · rw [if_neg (mt hmem.mpr hk), Dict.keys_insert_of_not_mem _ hk]
  · rw [List.find?_append, Dict.get?_insert]
    by_cases hk : k = e.1
    · subst hk
      have hfirst := h.firstId e.1
      rw [if_pos rfl]
      cases hget : d.get? e.1 with
      | none =>
        rw [hget, Option.map_none', eq_comm, Option.map_eq_none'] at hfirst
        simp [hfirst]
      | some p =>
        rw [hget] at hfirst
        obtain ⟨x, hx, hp⟩ := Option.map_eq_some'.mp hfirst.symm
        simp [hx, hp]
    · have hne : ¬(e.1 = k) := Ne.symm hk
      simp [hk, hne, h.firstId k, List.find?_cons]
  · rw [List.reverse_append, List.reverse_singleton, List.singleton_append, List.find?_cons,
      Dict.get?_insert]
    by_cases hk : k = e.1
    · subst hk; simp
    · have hne : ¬(e.1 = k) := Ne.symm hk
      simp [hk, hne, h.lastField k]

theorem foldlM_addField : ∀ (fields : List JsonValue) {d d' : FieldsById}
    {es : List (HashKey × JsonValue × List (String × JsonValue))}, IsIdMap es d →
    fields.foldlM addField d = .ok d' →
    ∃ entries, List.Forall₂ FieldEntry fields entries ∧ IsIdMap (es ++ entries) d'
  | [], _, _, es, h, hfold => by
    cases hfold
    exact ⟨[], .nil, by simpa using h⟩
  | f :: rest, _, _, _, h, hfold => by
    rw [List.foldlM_cons] at hfold
    obtain ⟨d₁, h₁, hrest⟩ := bind_eq_ok.mp hfold
    obtain ⟨e, he, rfl⟩ := addField_eq_ok h₁
    obtain ⟨entries, hentries, hmap⟩ := foldlM_addField rest (h.snoc e) hrest
    exact ⟨e :: entries, .cons he hentries, by simpa using hmap⟩

/-- What `fieldsOf` returns is the id-to-field map of the schema's fields. -/
theorem fieldsOf_idMapOf {schema : JsonValue} {d : FieldsById} (h : fieldsOf schema = .ok d) :
    IdMapOf schema d := by
  simp only [fieldsOf, bind_eq_ok] at h
  obtain ⟨v, hv, fields, hfields, hfold⟩ := h
  obtain ⟨entries, hentries, hmap⟩ :=
    @foldlM_addField fields Dict.empty d [] ⟨rfl, fun _ => rfl, fun _ => rfl⟩ hfold
  exact ⟨fields, entries, by rw [hv, ok_bind, hfields], hentries, by simpa using hmap⟩

/-- `d[k]`. -/
def lookupField (d : FieldsById) (k : HashKey) : Except PyException (List (String × JsonValue)) :=
  match d.get? k with
  | some (_, field) => .ok field
  | none => .error ⟨.keyError, k.pyRepr⟩

/-- The ids of both schemas, in the order of `old_fields`. -/
def commonKeys (oldFields newFields : FieldsById) : List HashKey :=
  oldFields.keys.filter fun k => (newFields.get? k).isSome

/-- The order in which a set of ids is iterated: some permutation of them. -/
structure SetOrder where
  order : List HashKey → List HashKey
  perm : ∀ keys, (order keys).Perm keys

/-- The common ids in the order `old_fields` lists them. -/
def SetOrder.asListed : SetOrder := ⟨id, fun keys => .refl keys⟩

/-! ## The check -/

/-- `"Required field '{field['name']}' (id={field_id}) was removed"`. -/
def removedMessage (id name : JsonValue) : String :=
  "Required field " ++ singleQuoted name.pyStr ++ " (id=" ++ id.pyStr ++ ") was removed"

/-- `"Incompatible type change for field '{…['name']}': {old_type} → {new_type}"`. -/
def typeChangeMessage (name oldType newType : JsonValue) : String :=
  "Incompatible type change for field " ++ singleQuoted name.pyStr ++ ": " ++ oldType.pyStr ++
    " → " ++ newType.pyStr

/-- `"Field '{…['name']}' changed from nullable to required"`. -/
def nullabilityMessage (name : JsonValue) : String :=
  "Field " ++ singleQuoted name.pyStr ++ " changed from nullable to required"

/-- The message of a check that passes. -/
def compatibleMessage : String := "Schema evolution is compatible"

/-- The `safe_promotions` of `_is_safe_type_promotion`. -/
def safePromotions : List (HashKey × HashKey) :=
  [(.str "int", .str "long"), (.str "float", .str "double"), (.str "date", .str "timestamp")]

/-- `_is_safe_type_promotion(old_type, new_type)`: `(old_type, new_type) in safe_promotions`
hashes both types. -/
def isSafeTypePromotion (oldType newType : JsonValue) : Except PyException Bool := do
  let a ← oldType.hashKey
  let b ← newType.hashKey
  pure (safePromotions.contains (a, b))

/-- The body of loop 1 for the item `(field_id, field)` of `old_fields`. -/
def removedCheck (newFields : FieldsById) :
    HashKey × JsonValue × List (String × JsonValue) → Except PyException (Option String)
  | (k, id, field) =>
    if (newFields.get? k).isNone && ((field.lookup "required").getD .null).truthy then
      (some ∘ removedMessage id) <$> (JsonValue.obj field).getItem "name"
    else .ok none

/-- The body of loop 2 for a common id. -/
def typeCheck (oldFields newFields : FieldsById) (k : HashKey) :
    Except PyException (Option String) := do
  let oldField ← lookupField oldFields k
  let oldType ← (JsonValue.obj oldField).getItem "type"
  let newType ← (JsonValue.obj (← lookupField newFields k)).getItem "type"
  if !oldType.pyEq newType then
    if !(← isSafeTypePromotion oldType newType) then
      (some ∘ fun name => typeChangeMessage name oldType newType) <$>
        (JsonValue.obj oldField).getItem "name"
    else pure none
  else pure none

/-- The body of loop 3 for a common id. -/
def nullabilityCheck (oldFields newFields : FieldsById) (k : HashKey) :
    Except PyException (Option String) := do
  let oldField ← lookupField oldFields k
  let oldNullable := !((oldField.lookup "required").getD (.bool false)).truthy
  let newNullable := !(((← lookupField newFields k).lookup "required").getD (.bool false)).truthy
  if oldNullable && !newNullable then
    (some ∘ nullabilityMessage) <$> (JsonValue.obj oldField).getItem "name"
  else pure none

/-- A loop of `_check_iceberg_evolution`: each message `check` gives is appended and clears
`is_compatible`. -/
def messageLoop {α : Type} (check : α → Except PyException (Option String)) :
    List α → Bool × List String → Except PyException (Bool × List String)
  | [], acc => .ok acc
  | a :: rest, (isCompatible, messages) => do
    match ← check a with
    | some message => messageLoop check rest (false, messages ++ [message])
    | none => messageLoop check rest (isCompatible, messages)

/-- `_check_iceberg_evolution(old_schema, new_schema)`, the common ids iterated in `setOrder`. -/
def checkIcebergEvolution (setOrder : SetOrder) (oldSchema newSchema : JsonValue) :
    Except PyException (Bool × List String) := do
  let oldFields ← fieldsOf oldSchema
  let newFields ← fieldsOf newSchema
  let acc ← messageLoop (removedCheck newFields) oldFields.items (true, [])
  let acc ← messageLoop (typeCheck oldFields newFields)
    (setOrder.order (commonKeys oldFields newFields)) acc
  let (isCompatible, messages) ← messageLoop (nullabilityCheck oldFields newFields)
    (setOrder.order (commonKeys oldFields newFields)) acc
  pure (isCompatible,
    if isCompatible && messages.isEmpty then messages ++ [compatibleMessage] else messages)

/-! ## What the check says -/

/-- `field.get("type")`. -/
def typeOf (field : List (String × JsonValue)) : JsonValue := (field.lookup "type").getD .null

/-- `field.get("name")`. -/
def nameOf (field : List (String × JsonValue)) : JsonValue := (field.lookup "name").getD .null

/-- `field.get("required")` is truthy. -/
def isRequired (field : List (String × JsonValue)) : Bool :=
  ((field.lookup "required").getD .null).truthy

/-- `field.get("required", False)` has the truth value of `field.get("required")`. -/
theorem truthy_required_getD_false (field : List (String × JsonValue)) :
    ((field.lookup "required").getD (.bool false)).truthy = isRequired field := by
  unfold isRequired; cases field.lookup "required" <;> rfl

/-- The items of the field under `k`, or `[]`. -/
def fieldAt (d : FieldsById) (k : HashKey) : List (String × JsonValue) :=
  ((d.get? k).map Prod.snd).getD []

/-- `(old_type, new_type)` is in `safe_promotions`, for hashable types. -/
def promotes (oldType newType : JsonValue) : Bool :=
  match oldType.hashKey, newType.hashKey with
  | .ok a, .ok b => safePromotions.contains (a, b)
  | _, _ => false

/-- The message loop 1 gives for an item of `old_fields`, if it gives one. -/
def removedViolation (newFields : FieldsById) :
    HashKey × JsonValue × List (String × JsonValue) → Option String
  | (k, id, field) =>
    if (newFields.get? k).isNone && isRequired field then some (removedMessage id (nameOf field))
    else none

/-- The message loop 2 gives for a common id, if it gives one. -/
def typeViolation (oldFields newFields : FieldsById) (k : HashKey) : Option String :=
  let o := fieldAt oldFields k
  let n := fieldAt newFields k
  if !(typeOf o).pyEq (typeOf n) && !promotes (typeOf o) (typeOf n) then
    some (typeChangeMessage (nameOf o) (typeOf o) (typeOf n))
  else none

/-- The message loop 3 gives for a common id, if it gives one. -/
def nullabilityViolation (oldFields newFields : FieldsById) (k : HashKey) : Option String :=
  if !isRequired (fieldAt oldFields k) && isRequired (fieldAt newFields k) then
    some (nullabilityMessage (nameOf (fieldAt oldFields k)))
  else none

/-- One message per broken rule instance: rule 1 in the order of `old_fields`, then rules 2 and 3,
each over the common ids in the order `keys`. -/
def violations (oldFields newFields : FieldsById) (keys : List HashKey) : List String :=
  oldFields.items.filterMap (removedViolation newFields) ++
    keys.filterMap (typeViolation oldFields newFields) ++
    keys.filterMap (nullabilityViolation oldFields newFields)

/-- `(old_type, new_type)` is one of `(int, long)`, `(float, double)`, `(date, timestamp)`. -/
def SafePromotion (oldType newType : JsonValue) : Prop :=
  ∃ p ∈ [("int", "long"), ("float", "double"), ("date", "timestamp")],
    oldType = .str p.1 ∧ newType = .str p.2

/-- The three rules of Iceberg evolution over the id maps of the old and the new schema. -/
structure Evolves (oldFields newFields : FieldsById) : Prop where
  /-- A required field is not removed. -/
  removed : ∀ k o, oldFields.get? k = some o → newFields.get? k = none → isRequired o.2 = false
  /-- A type stays equal or is promoted safely. -/
  types : ∀ k o n, oldFields.get? k = some o → newFields.get? k = some n →
    (typeOf o.2).pyEq (typeOf n.2) = true ∨ SafePromotion (typeOf o.2) (typeOf n.2)
  /-- A nullable field stays nullable. -/
  nullability : ∀ k o n, oldFields.get? k = some o → newFields.get? k = some n →
    isRequired n.2 = true → isRequired o.2 = true

/-! ## The check meets its statement -/

theorem promotes_iff {t t' : JsonValue} : promotes t t' = true ↔ SafePromotion t t' := by
  constructor
  · unfold promotes
    split
    · rename_i ha hb
      intro h
      simp only [safePromotions, List.contains_cons, List.contains_nil, Bool.or_false,
        Bool.or_eq_true, beq_iff_eq, Prod.mk.injEq] at h
      rcases h with ⟨rfl, rfl⟩ | ⟨rfl, rfl⟩ | ⟨rfl, rfl⟩ <;>
        exact ⟨(_, _), by simp, JsonValue.hashKey_eq_str.mp ha, JsonValue.hashKey_eq_str.mp hb⟩
    · simp
  · rintro ⟨p, hp, rfl, rfl⟩
    simp only [List.mem_cons, List.not_mem_nil, or_false] at hp
    rcases hp with rfl | rfl | rfl <;> rfl

theorem isSafeTypePromotion_ok {t t' : JsonValue} {b : Bool}
    (h : isSafeTypePromotion t t' = .ok b) : b = promotes t t' := by
  simp only [isSafeTypePromotion, bind_eq_ok] at h
  obtain ⟨a, ha, a', ha', h⟩ := h
  simp only [promotes, ha, ha']
  exact (Except.ok.inj h).symm

theorem fieldAt_of_lookupField {d : FieldsById} {k : HashKey} {field : List (String × JsonValue)}
    (h : lookupField d k = .ok field) : fieldAt d k = field := by
  unfold lookupField at h
  split at h <;> simp_all [fieldAt]

theorem getD_null_of_getItem {field : List (String × JsonValue)} {key : String} {v : JsonValue}
    (h : (JsonValue.obj field).getItem key = .ok v) : (field.lookup key).getD .null = v := by
  rw [JsonValue.getItem_obj_eq_ok.mp h]; rfl

theorem removedCheck_ok {newFields : FieldsById}
    {item : HashKey × JsonValue × List (String × JsonValue)} {r : Option String}
    (h : removedCheck newFields item = .ok r) :
    r = removedViolation newFields item := by
  obtain ⟨k, id, field⟩ := item
  simp only [removedCheck, removedViolation, isRequired] at h ⊢
  split at h
  · cases hn : (JsonValue.obj field).getItem "name" <;> simp only [hn, map_ok, map_error] at h
    · cases h
    · cases h; simp_all [nameOf, getD_null_of_getItem hn]
  · rename_i hc
    cases h
    rw [if_neg hc]

theorem typeCheck_ok {oldFields newFields : FieldsById} {k : HashKey} {r : Option String}
    (h : typeCheck oldFields newFields k = .ok r) : r = typeViolation oldFields newFields k := by
  simp only [typeCheck, bind_eq_ok] at h
  obtain ⟨o, ho, ot, hot, n, hn, nt, hnt, h⟩ := h
  simp only [typeViolation, fieldAt_of_lookupField ho, fieldAt_of_lookupField hn, typeOf,
    getD_null_of_getItem hot, getD_null_of_getItem hnt]
  split at h
  · simp only [bind_eq_ok] at h
    obtain ⟨b, hb, h⟩ := h
    rw [← isSafeTypePromotion_ok hb]
    split at h
    · cases hname : (JsonValue.obj o).getItem "name" <;> simp only [hname, map_ok, map_error] at h
      · cases h
      · cases h; simp_all [nameOf, getD_null_of_getItem hname]
    · cases h; simp_all
  · cases h; simp_all

theorem nullabilityCheck_ok {oldFields newFields : FieldsById} {k : HashKey} {r : Option String}
    (h : nullabilityCheck oldFields newFields k = .ok r) :
    r = nullabilityViolation oldFields newFields k := by
  simp only [nullabilityCheck, bind_eq_ok] at h
  obtain ⟨o, ho, n, hn, h⟩ := h
  simp only [nullabilityViolation, fieldAt_of_lookupField ho, fieldAt_of_lookupField hn]
  simp only [truthy_required_getD_false, Bool.not_not] at h
  split at h
  · cases hname : (JsonValue.obj o).getItem "name" <;> simp only [hname, map_ok, map_error] at h
    · cases h
    · cases h; simp_all [nameOf, getD_null_of_getItem hname]
  · rename_i hc
    cases h
    exact (if_neg hc).symm

/-- A loop that returns has appended the messages its body gives, and cleared `is_compatible` if
there was one. -/
theorem messageLoop_ok {α : Type} {check : α → Except PyException (Option String)}
    (message : α → Option String) (hcheck : ∀ a r, check a = .ok r → r = message a) :
    ∀ (items : List α) (b : Bool) (ms : List String) {acc : Bool × List String},
      messageLoop check items (b, ms) = .ok acc →
        acc = (b && (items.filterMap message).isEmpty, ms ++ items.filterMap message)
  | [], b, ms, acc, h => by cases h; simp
  | a :: rest, b, ms, acc, h => by
    simp only [messageLoop, bind_eq_ok] at h
    obtain ⟨r, hr, h⟩ := h
    rw [hcheck a r hr] at h
    cases hm : message a <;> simp only [hm] at h <;>
      simp [messageLoop_ok message hcheck rest _ _ h, List.filterMap_cons, hm]

/-! ## The verdict -/

section Rules

variable {oldFields newFields : FieldsById}

theorem mem_commonKeys {k : HashKey} : k ∈ commonKeys oldFields newFields ↔
    ∃ o n, oldFields.get? k = some o ∧ newFields.get? k = some n := by
  simp only [commonKeys, List.mem_filter, ← Dict.isSome_get?_iff, Option.isSome_iff_exists]
  exact ⟨fun ⟨⟨o, ho⟩, n, hn⟩ => ⟨o, n, ho, hn⟩, fun ⟨o, n, ho, hn⟩ => ⟨⟨o, ho⟩, n, hn⟩⟩

theorem fieldAt_of_get? {d : FieldsById} {k : HashKey} {o : JsonValue × List (String × JsonValue)}
    (h : d.get? k = some o) : fieldAt d k = o.2 := by
  simp [fieldAt, h]

theorem removedViolation_eq_none {k : HashKey} {id : JsonValue}
    {field : List (String × JsonValue)} :
    removedViolation newFields (k, id, field) = none ↔
      (newFields.get? k = none → isRequired field = false) := by
  simp [removedViolation]

theorem removedViolations_eq_nil_iff :
    oldFields.items.filterMap (removedViolation newFields) = [] ↔
      ∀ k o, oldFields.get? k = some o → newFields.get? k = none → isRequired o.2 = false := by
  simp only [List.filterMap_eq_nil_iff, Prod.forall, Dict.mem_items_iff, removedViolation_eq_none]

theorem typeViolation_eq_none {k : HashKey} {o n : JsonValue × List (String × JsonValue)}
    (ho : oldFields.get? k = some o) (hn : newFields.get? k = some n) :
    typeViolation oldFields newFields k = none ↔
      (typeOf o.2).pyEq (typeOf n.2) = true ∨ SafePromotion (typeOf o.2) (typeOf n.2) := by
  rw [← promotes_iff, typeViolation, fieldAt_of_get? ho, fieldAt_of_get? hn]
  cases (typeOf o.2).pyEq (typeOf n.2) <;> cases promotes (typeOf o.2) (typeOf n.2) <;> simp

theorem nullabilityViolation_eq_none {k : HashKey} {o n : JsonValue × List (String × JsonValue)}
    (ho : oldFields.get? k = some o) (hn : newFields.get? k = some n) :
    nullabilityViolation oldFields newFields k = none ↔
      (isRequired n.2 = true → isRequired o.2 = true) := by
  rw [nullabilityViolation, fieldAt_of_get? ho, fieldAt_of_get? hn]
  cases isRequired o.2 <;> cases isRequired n.2 <;> simp

/-- A rule over the common ids holds of every id in `keys` iff it holds of every pair of fields
sharing an id. -/
theorem forall_keys_iff {keys : List HashKey} (hkeys : keys.Perm (commonKeys oldFields newFields))
    {violation : HashKey → Option String}
    {rule : JsonValue × List (String × JsonValue) → JsonValue × List (String × JsonValue) → Prop}
    (hrule : ∀ {k o n}, oldFields.get? k = some o → newFields.get? k = some n →
      (violation k = none ↔ rule o n)) :
    keys.filterMap violation = [] ↔
      ∀ k o n, oldFields.get? k = some o → newFields.get? k = some n → rule o n := by
  simp only [List.filterMap_eq_nil_iff, hkeys.mem_iff, mem_commonKeys]
  exact ⟨fun h k o n ho hn => (hrule ho hn).mp (h k ⟨o, n, ho, hn⟩),
    fun h k ⟨o, n, ho, hn⟩ => (hrule ho hn).mpr (h k o n ho hn)⟩

/-- No message is given exactly when the three rules hold. -/
theorem violations_eq_nil_iff {keys : List HashKey}
    (hkeys : keys.Perm (commonKeys oldFields newFields)) :
    violations oldFields newFields keys = [] ↔ Evolves oldFields newFields := by
  simp only [violations, List.append_eq_nil, removedViolations_eq_nil_iff,
    forall_keys_iff hkeys typeViolation_eq_none, forall_keys_iff hkeys nullabilityViolation_eq_none]
  exact ⟨fun ⟨⟨h₁, h₂⟩, h₃⟩ => ⟨h₁, h₂, h₃⟩, fun ⟨h₁, h₂, h₃⟩ => ⟨⟨h₁, h₂⟩, h₃⟩⟩

/-- A broken rule's message never reads as a passing check's. -/
theorem compatibleMessage_not_mem_violations (keys : List HashKey) :
    compatibleMessage ∉ violations oldFields newFields keys := by
  have hne : ∀ (c : Char) (first rest : String), first.data.head? = some c → c ≠ 'S' →
      first ++ rest ≠ compatibleMessage := by
    intro c first rest hc hcS h
    have := congrArg (fun s => s.data.head?) h
    simp [compatibleMessage, List.head?_append, hc] at this
    exact hcS this
  simp only [violations, List.mem_append, List.mem_filterMap, not_or, not_exists, not_and]
  refine ⟨⟨fun ⟨k, id, field⟩ _ => ?_, fun k _ => ?_⟩, fun k _ => ?_⟩
  · simp only [removedViolation]; split
    · simp only [Option.some.injEq, removedMessage, String.append_assoc]
      exact hne 'R' _ _ (by decide) (by decide)
    · simp
  · simp only [typeViolation]; split
    · simp only [Option.some.injEq, typeChangeMessage, String.append_assoc]
      exact hne 'I' _ _ (by decide) (by decide)
    · simp
  · simp only [nullabilityViolation]; split
    · simp only [Option.some.injEq, nullabilityMessage, String.append_assoc]
      exact hne 'F' _ _ (by decide) (by decide)
    · simp

end Rules

theorem isEmpty_and_isEmpty {l₁ l₂ : List String} :
    (l₁.isEmpty && l₂.isEmpty) = (l₁ ++ l₂).isEmpty := by
  cases l₁ <;> rfl

/-- Whenever `_check_iceberg_evolution` returns, it has mapped both schemas' fields by id, and
`is_compatible` holds iff the id maps obey the three rules; the messages are one per broken rule
instance (rule 1 in the order of `old_fields`, rules 2 and 3 in the set's order), or
`["Schema evolution is compatible"]`, which they are exactly when the check passes. -/
theorem checkIcebergEvolution_spec {setOrder : SetOrder} {oldSchema newSchema : JsonValue}
    {isCompatible : Bool} {messages : List String}
    (h : checkIcebergEvolution setOrder oldSchema newSchema = .ok (isCompatible, messages)) :
    ∃ oldFields newFields, fieldsOf oldSchema = .ok oldFields ∧ fieldsOf newSchema = .ok newFields ∧
      IdMapOf oldSchema oldFields ∧ IdMapOf newSchema newFields ∧
      (isCompatible = true ↔ Evolves oldFields newFields) ∧
      messages = (if isCompatible then [compatibleMessage]
        else violations oldFields newFields (setOrder.order (commonKeys oldFields newFields))) ∧
      (messages = [compatibleMessage] ↔ isCompatible = true) := by
  simp only [checkIcebergEvolution, bind_eq_ok] at h
  obtain ⟨O, hO, N, hN, acc₁, h₁, acc₂, h₂, acc₃, h₃, h⟩ := h
  obtain rfl := messageLoop_ok (removedViolation N) (fun _ _ => removedCheck_ok) _ _ _ h₁
  obtain rfl := messageLoop_ok (typeViolation O N) (fun _ _ => typeCheck_ok) _ _ _ h₂
  obtain rfl := messageLoop_ok (nullabilityViolation O N) (fun _ _ => nullabilityCheck_ok) _ _ _ h₃
  simp only [pure, Except.pure, Except.ok.injEq, Prod.mk.injEq] at h
  obtain ⟨rfl, rfl⟩ := h
  refine ⟨O, N, hO, hN, fieldsOf_idMapOf hO, fieldsOf_idMapOf hN, ?_⟩
  have hnil := violations_eq_nil_iff (setOrder.perm (commonKeys O N))
  have hmem : compatibleMessage ∉ violations O N (setOrder.order (commonKeys O N)) :=
    compatibleMessage_not_mem_violations _
  have hV : violations O N (setOrder.order (commonKeys O N)) =
      O.items.filterMap (removedViolation N) ++
        (setOrder.order (commonKeys O N)).filterMap (typeViolation O N) ++
        (setOrder.order (commonKeys O N)).filterMap (nullabilityViolation O N) := rfl
  simp only [Bool.true_and, List.nil_append, isEmpty_and_isEmpty, ← hV]
  generalize violations O N (setOrder.order (commonKeys O N)) = V at hnil hmem ⊢
  cases V with
  | nil => simp_all
  | cons m ms => simp_all [@eq_comm _ compatibleMessage]

/-- An `int` column widened to `long`, and an optional column added. -/
def amountSchemas : JsonValue × JsonValue :=
  (.obj [("fields", .arr [.obj [("id", .num 1), ("name", .str "amount"), ("type", .str "int"),
      ("required", .bool true)]])],
    .obj [("fields", .arr [.obj [("id", .num 1), ("name", .str "amount"), ("type", .str "long"),
      ("required", .bool true)], .obj [("id", .num 2), ("name", .str "note"),
      ("type", .str "string")]])])

theorem amountSchemas_evolve :
    checkIcebergEvolution .asListed amountSchemas.1 amountSchemas.2 =
      .ok (true, [compatibleMessage]) ∧
    ∃ oldFields newFields, fieldsOf amountSchemas.1 = .ok oldFields ∧
      fieldsOf amountSchemas.2 = .ok newFields ∧ Evolves oldFields newFields :=
  have h : checkIcebergEvolution .asListed amountSchemas.1 amountSchemas.2 =
      .ok (true, [compatibleMessage]) := rfl
  let ⟨O, N, hO, hN, _, _, hc, _⟩ := checkIcebergEvolution_spec h
  ⟨h, O, N, hO, hN, hc.mp rfl⟩

/-- Two fields with id `1`: a required one, then an optional one. -/
def repeatedIdFields : List JsonValue :=
  [.obj [("id", .num 1), ("name", .str "a"), ("type", .str "int"), ("required", .bool true)],
    .obj [("id", .num 1), ("name", .str "b"), ("type", .str "int")]]

/-- Dropping both fields passes when the optional one comes last and fails when the required one
does: the verdict depends on the order of the old schema's fields. -/
theorem reorderedFields_flipVerdict :
    checkIcebergEvolution .asListed (.obj [("fields", .arr repeatedIdFields)])
        (.obj [("fields", .arr [])]) = .ok (true, [compatibleMessage]) ∧
    checkIcebergEvolution .asListed (.obj [("fields", .arr repeatedIdFields.reverse)])
        (.obj [("fields", .arr [])]) = .ok (false, [removedMessage (.num 1) (.str "a")]) :=
  ⟨rfl, rfl⟩

/-- The order a set is iterated in matters only through the order of the common ids. -/
theorem checkIcebergEvolution_setOrder {setOrder setOrder' : SetOrder}
    {oldSchema newSchema : JsonValue} {oldFields newFields : FieldsById}
    (hO : fieldsOf oldSchema = .ok oldFields) (hN : fieldsOf newSchema = .ok newFields)
    (h : setOrder.order (commonKeys oldFields newFields) =
      setOrder'.order (commonKeys oldFields newFields)) :
    checkIcebergEvolution setOrder oldSchema newSchema =
      checkIcebergEvolution setOrder' oldSchema newSchema := by
  simp only [checkIcebergEvolution, hO, hN, ok_bind, h]

/-- A `string` column, and the same column as a struct. -/
def addressSchemas : JsonValue × JsonValue :=
  (.obj [("fields", .arr [.obj [("id", .num 1), ("name", .str "address"),
      ("type", .str "string")]])],
    .obj [("fields", .arr [.obj [("id", .num 1), ("name", .str "address"),
      ("type", .obj [("type", .str "struct"), ("fields", .arr [])])]])])

/-- When a `string` column becomes a struct, `_is_safe_type_promotion` hashes the new type, a dict,
and raises, whatever order the common ids are visited in. -/
theorem nestedTypeChange_raises (setOrder : SetOrder) :
    checkIcebergEvolution setOrder addressSchemas.1 addressSchemas.2 =
      .error ⟨.typeError, "unhashable type: " ++ strRepr "dict"⟩ := by
  rw [@checkIcebergEvolution_setOrder setOrder .asListed addressSchemas.1 addressSchemas.2 _ _ rfl
    rfl (setOrder.perm [.num 1]).eq_singleton]
  rfl

/-! ## The set's order changes no verdict -/

/-- Two outcomes of the check alike up to the order of the messages: both raise, or both return
the same verdict with the same messages in some order. -/
def SameVerdict :
    Except PyException (Bool × List String) → Except PyException (Bool × List String) → Prop
  | .ok (b, ms), .ok (b', ms') => b = b' ∧ ms.Perm ms'
  | .error _, .error _ => True
  | _, _ => False

theorem SameVerdict.bind {x x' : Except PyException (Bool × List String)} (h : SameVerdict x x')
    {f g : Bool × List String → Except PyException (Bool × List String)}
    (hfg : ∀ a a', SameVerdict (.ok a) (.ok a') → SameVerdict (f a) (g a')) :
    SameVerdict (x >>= f) (x' >>= g) := by
  rcases x with e | a <;> rcases x' with e' | a'
  · trivial
  · exact h.elim
  · exact h.elim
  · exact hfg a a' h

/-- A loop returns exactly when its body returns on every item. -/
theorem messageLoop_returns {α : Type} {check : α → Except PyException (Option String)} :
    ∀ (items : List α) (acc : Bool × List String),
      (∃ r, messageLoop check items acc = .ok r) ↔ ∀ a ∈ items, ∃ r, check a = .ok r
  | [], acc => by simp [messageLoop]
  | a :: rest, (b, ms) => by
    cases hc : check a with
    | error e => simp [messageLoop, hc]
    | ok r => cases r <;> simp [messageLoop, hc, messageLoop_returns rest]

theorem messageLoop_raises {α : Type} {check : α → Except PyException (Option String)}
    (items : List α) (acc : Bool × List String) (h : ¬∀ a ∈ items, ∃ r, check a = .ok r) :
    ∃ e, messageLoop check items acc = .error e := by
  cases hl : messageLoop check items acc with
  | error e => exact ⟨e, rfl⟩
  | ok r => exact absurd ((messageLoop_returns items acc).mp ⟨r, hl⟩) h

theorem and_isEmpty_of_perm {ms ms' : List String} (h : ms.Perm ms') (b : Bool) :
    (b && ms.isEmpty) = (b && ms'.isEmpty) := by
  cases ms <;> cases ms' <;> simp_all [h.length_eq]

/-- A loop over a permutation of the items, from accumulators alike up to order, gives outcomes
alike up to order. -/
theorem messageLoop_perm {α : Type} {check : α → Except PyException (Option String)}
    {items items' : List α} (hperm : items.Perm items') {acc acc' : Bool × List String}
    (hacc : SameVerdict (.ok acc) (.ok acc')) :
    SameVerdict (messageLoop check items acc) (messageLoop check items' acc') := by
  by_cases hall : ∀ a ∈ items, ∃ r, check a = .ok r
  · let message : α → Option String := fun a => ((check a).toOption).join
    have hcheck : ∀ a r, check a = .ok r → r = message a := fun a r h => by
      simp [message, h, Except.toOption]
    obtain ⟨b, ms⟩ := acc
    obtain ⟨b', ms'⟩ := acc'
    obtain ⟨rfl, hms⟩ := hacc
    obtain ⟨r, hr⟩ := (messageLoop_returns items _).mpr hall
    obtain ⟨r', hr'⟩ := (messageLoop_returns items' _).mpr fun a ha => hall a (hperm.mem_iff.mpr ha)
    rw [hr, hr', messageLoop_ok message hcheck _ _ _ hr, messageLoop_ok message hcheck _ _ _ hr']
    exact ⟨and_isEmpty_of_perm (hperm.filterMap message) b, hms.append (hperm.filterMap message)⟩
  · obtain ⟨e, he⟩ := messageLoop_raises items acc hall
    obtain ⟨e', he'⟩ := messageLoop_raises items' acc'
      fun h => hall fun a ha => h a (hperm.mem_iff.mp ha)
    rw [he, he']
    trivial

/-- Whatever order the set of common ids is iterated in, `_check_iceberg_evolution` raises or
returns alike, and when it returns, it gives the same verdict and the same messages, in some order.
So the hash seed of a run can reorder the messages but never change the verdict. -/
theorem checkIcebergEvolution_sameVerdict (setOrder setOrder' : SetOrder)
    (oldSchema newSchema : JsonValue) :
    SameVerdict (checkIcebergEvolution setOrder oldSchema newSchema)
      (checkIcebergEvolution setOrder' oldSchema newSchema) := by
  unfold checkIcebergEvolution
  cases fieldsOf oldSchema with
  | error e => trivial
  | ok oldFields =>
    cases fieldsOf newSchema with
    | error e => trivial
    | ok newFields =>
      have hperm := (setOrder.perm (commonKeys oldFields newFields)).trans
        (setOrder'.perm (commonKeys oldFields newFields)).symm
      refine SameVerdict.bind (messageLoop_perm (.refl _) ⟨rfl, .refl _⟩) fun acc acc' hacc => ?_
      refine SameVerdict.bind (messageLoop_perm hperm hacc) fun acc acc' hacc => ?_
      refine SameVerdict.bind (messageLoop_perm hperm hacc) fun ⟨b, ms⟩ ⟨b', ms'⟩ ⟨hb, hms⟩ => ?_
      subst hb
      refine ⟨rfl, ?_⟩
      rw [and_isEmpty_of_perm hms b]
      split
      · exact hms.append_right _
      · exact hms

end SchemaFederation.Plugins.UnityCatalog

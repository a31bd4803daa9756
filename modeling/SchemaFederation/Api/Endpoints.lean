import SchemaFederation.Core.Orchestrator.Objects

/-!
# The HTTP API

`src/api/main.py`: the FastAPI endpoints over the module's global orchestrator, which is `None`
until the application has started. A request (`Request`; pydantic has checked the types of its
fields) is handled by `handle`: the endpoint returns its body, raises an `HTTPException` with a
status and a detail, or lets the exception of a backend call through, which FastAPI answers with
500 (`Reply`). An endpoint of one registry fetches it with `get_registry` and calls it; the call is
recorded on the backend that `active_registries` holds. Mode and format names are looked up
upper-cased, as `CompatibilityMode[mode.upper()]`.

Before startup every endpoint answers 503 `"Orchestrator not initialized"` (`handle`), and an
endpoint of one registry answers 404 `"Registry {id} not found"` when the id is not live, before it
reads any other field of the request (`handle_registryNotFound`).

* `parseMode_eq_ok`: which texts name a mode; `getCompatibilityMode_reply_parses`: the mode
  `GET …/compatibility/mode` reports is accepted back as the same mode, and `handle_setThenGet`
  says what a `GET` after a `PUT` of a mode reads.
* `endpoint_keeps`: no request changes which object is live under which id.
* `endpoint_recordsOneCall`: a request to one registry records at most one call, on that
  registry's backend, and changes nothing else.

The lifespan handler is in `Api.Lifespan`; the CORS middleware and the root endpoint's fixed text
are left out.
-/

namespace SchemaFederation.Api

open Python Core Orchestrator

/-- What an endpoint ends in. -/
inductive Reply (α : Type) where
  /-- The endpoint returned `body`. -/
  | ok (body : α)
  /-- `raise HTTPException(status_code=statusCode, detail=detail)`. -/
  | httpException (statusCode : Nat) (detail : String)
  /-- A backend call raised `e` and nothing caught it: FastAPI answers 500. -/
  | raised (e : PyException)

/-- `RegistryInfo`. -/
structure RegistryInfo where
  id : String
  type : String
  supportedFormats : List String
  deriving DecidableEq, Repr

/-- `RegistryInfo(**r)` for an entry of `list_registries()`: pydantic checks that `id` is a `str`
and raises `ValidationError` for any other value (pydantic 2 turns no number into a string). -/
def RegistryInfo.ofEntry (r : RegistryEntry) : Except PyException RegistryInfo :=
  match r.id with
  | .str id => .ok ⟨id, r.type, r.supportedFormats⟩
  | _ => .error ⟨.other "ValidationError", "1 validation error for RegistryInfo"⟩

/-- `[RegistryInfo(**r) for r in registries]` over entries listed from `items`, whose ids are all
`str`: it returns, with each entry's fields. -/
theorem mapM_ofEntry_of_listed {items : List (HashKey × Backend)} {entries : List RegistryEntry}
    (h : List.Forall₂ ListedAs items entries) (hstr : ∀ p ∈ items, ∃ s, p.1 = .str s) :
    ∃ infos, entries.mapM RegistryInfo.ofEntry = .ok infos ∧
      List.Forall₂ (fun p (info : RegistryInfo) => ∃ r, ListedAs p r ∧
        r = ⟨.str info.id, info.type, info.supportedFormats⟩) items infos := by
  induction h with
  | nil => exact ⟨[], rfl, .nil⟩
  | @cons p r items entries hpr _ ih =>
    obtain ⟨s, hs⟩ := hstr p (List.mem_cons_self _ _)
    obtain ⟨infos, hok, hinfos⟩ := ih fun q hq => hstr q (List.mem_cons_of_mem _ hq)
    have hr : r.id = .str s := hpr.id_eq.trans hs
    refine ⟨⟨s, r.type, r.supportedFormats⟩ :: infos, ?_, .cons ⟨r, hpr, ?_⟩ hinfos⟩
    · simp only [List.mapM_cons, RegistryInfo.ofEntry, hr, hok, ok_bind]
      rfl
    · obtain ⟨id, type, formats⟩ := r
      cases hr
      rfl

/-- The first listed entry whose id is not a `str` fails pydantic's validation. -/
theorem mapM_ofEntry_of_not_str {items : List (HashKey × Backend)} {entries : List RegistryEntry}
    (h : List.Forall₂ ListedAs items entries) (hnot : ∃ p ∈ items, ∀ s, p.1 ≠ .str s) :
    entries.mapM RegistryInfo.ofEntry =
      .error ⟨.other "ValidationError", "1 validation error for RegistryInfo"⟩ := by
  induction h with
  | nil => simp at hnot
  | @cons p r items entries hpr _ ih =>
    rw [List.mapM_cons]
    cases hid : p.1 with
    | str s =>
      have hrest : ∃ q ∈ items, ∀ s, q.1 ≠ .str s := by
        obtain ⟨q, hq, hq'⟩ := hnot
        rcases List.mem_cons.mp hq with rfl | hq
        · exact absurd hid (hq' s)
        · exact ⟨q, hq, hq'⟩
      simp only [RegistryInfo.ofEntry, hpr.id_eq, hid, ok_bind, ih hrest, error_bind]
    | _ => simp only [RegistryInfo.ofEntry, hpr.id_eq, hid, error_bind]

/-- `HealthCheckResponse`. -/
structure HealthCheckResponse where
  healthy : Bool
  statusCode : Int
  message : String
  responseTimeMs : Float

/-- `HealthCheckResponse(**health.to_dict())`: `metadata` is not a field of the response. -/
def HealthCheckResponse.ofStatus (h : HealthStatus) : HealthCheckResponse :=
  ⟨h.healthy, h.statusCode, h.message, h.responseTimeMs⟩

/-- `CompatibilityCheckResponse`. -/
structure CompatibilityCheckResponse where
  isCompatible : Bool
  messages : List String
  compatibilityLevel : String
  errors : List String

/-- `CompatibilityCheckResponse(**result.to_dict())`. -/
def CompatibilityCheckResponse.ofResult (r : CompatibilityResult) : CompatibilityCheckResponse :=
  ⟨r.isCompatible, r.messages, r.compatibilityLevel.value, r.errors⟩

/-- The body of `GET …/compatibility/mode`: `{"mode": …, "subject": …}`. -/
structure ModeReply where
  mode : String
  subject : String

/-- The body of `PUT …/compatibility/mode`. -/
structure SetModeReply where
  success : Bool
  registryId : String
  mode : String
  subject : String

/-- A request to an endpoint, with its path, query and body parameters. -/
inductive Request where
  | listRegistries
  | checkRegistryHealth (registryId : String)
  | checkAllHealth
  | findSchemaAcrossRegistries (subject : String)
  | listSubjects (registryId : String) (pfx : Option String)
  | checkCompatibility (registryId subject schemaContent schemaFormat : String)
      (version : Option Int)
  | getCompatibilityMode (registryId : String) (subject : Option String)
  | setCompatibilityMode (registryId mode : String) (subject : Option String)
  | getCompatibilityOverview
  | bulkCheckCompatibility (registryIds : List String) (targetMode : String)
      (subjectFilter : Option String)
  | bulkSetCompatibility (mode : String) (registryIds : List String) (subjectFilter : Option String)

/-- What each endpoint returns; `list_subjects` wraps its list as `{"subjects": …}`. -/
def Request.Response : Request → Type
  | .listRegistries => List RegistryInfo
  | .checkRegistryHealth _ => HealthCheckResponse
  | .checkAllHealth => Dict HashKey HealthStatus
  | .findSchemaAcrossRegistries _ => Dict HashKey Schema
  | .listSubjects .. => List String
  | .checkCompatibility .. => CompatibilityCheckResponse
  | .getCompatibilityMode .. => ModeReply
  | .setCompatibilityMode .. => SetModeReply
  | .getCompatibilityOverview => Dict HashKey ModesEntry
  | .bulkCheckCompatibility .. => BulkCheckResult
  | .bulkSetCompatibility .. => Dict String (Dict String String)

/-- The registry an endpoint of one registry is called for. -/
def Request.registryId? : Request → Option String
  | .checkRegistryHealth registryId | .listSubjects registryId _
  | .checkCompatibility registryId .. | .getCompatibilityMode registryId _
  | .setCompatibilityMode registryId .. => some registryId
  | _ => none

/-! ## The endpoints -/

/-- `subject or "global"`. -/
def subjectOrGlobal : Option String → String
  | some s => if s != "" then s else "global"
  | none => "global"

/-- `CompatibilityMode[text.upper()]`. -/
def parseMode (text : String) : Except PyException CompatibilityMode :=
  CompatibilityMode.getItem (.str (pyUpper text))

/-- `SchemaFormat[text.upper()]`. -/
def parseFormat (text : String) : Except PyException SchemaFormat :=
  SchemaFormat.getItem (.str (pyUpper text))

/-- `registry = orchestrator.get_registry(registry_id)`, then `if not registry: raise …`. -/
def withRegistry {β : Type} (o : Orchestrator) (registryId : String)
    (k : Backend → Reply β × Orchestrator) : Reply β × Orchestrator :=
  match o.getRegistry registryId with
  | some b => k b
  | none => (.httpException 404 ("Registry " ++ registryId ++ " not found"), o)

/-- `try: x = E[text.upper()] except KeyError: raise HTTPException(400, detail)`. -/
def orBadRequest {α β : Type} (parsed : Except PyException α) (detail : String)
    (k : α → Reply β × Orchestrator) (o : Orchestrator) : Reply β × Orchestrator :=
  match parsed with
  | .ok a => k a
  | .error e => if e.cls.isKeyError then (.httpException 400 detail, o) else (.raised e, o)

/-- What a call the endpoint makes answers, as the endpoint's reply. -/
def replyOf {α : Type} : Except PyException α → Reply α
  | .ok a => .ok a
  | .error e => .raised e

theorem replyOf_map_eq_ok {α β : Type} {f : α → β} {x : Except PyException α} {y : β} :
    replyOf (f <$> x) = .ok y ↔ ∃ a, x = .ok a ∧ f a = y := by
  cases x <;> simp [replyOf]

/-- `registry.<method>(…)` on the backend `b` that `o` holds under `registryId`: the body the answer
gives, and the orchestrator whose backend received the call. -/
def callRegistry {β : Type} (o : Orchestrator) (registryId : String) (b : Backend) (c : Call)
    (body : c.Response → β) : Reply β × Orchestrator :=
  (replyOf (body <$> (b.invoke c).1),
   { o with activeRegistries := o.activeRegistries.insert (.str registryId) (b.invoke c).2 })

/-- A returned value as the endpoint's body. -/
def okBody {α : Type} (r : α × Orchestrator) : Reply α × Orchestrator := (.ok r.1, r.2)

/-- The endpoint of each request, on a started orchestrator; `run` is how the worker pool runs
the bulk check's tasks. -/
def endpoint (run : PoolRun) (o : Orchestrator) : (r : Request) → Reply r.Response × Orchestrator
  | .listRegistries =>
    (replyOf (o.listRegistries.1 >>= (·.mapM RegistryInfo.ofEntry)), o.listRegistries.2)
  | .checkRegistryHealth registryId => withRegistry o registryId fun b =>
    callRegistry o registryId b .healthCheck HealthCheckResponse.ofStatus
  | .checkAllHealth => okBody o.healthCheckAll
  | .findSchemaAcrossRegistries subject => okBody (o.findSchemaAcrossRegistries subject)
  | .listSubjects registryId pfx => withRegistry o registryId fun b =>
    callRegistry o registryId b (.listSubjects pfx) id
  | .checkCompatibility registryId subject schemaContent schemaFormat version =>
    withRegistry o registryId fun b =>
      orBadRequest (parseFormat schemaFormat) ("Invalid schema format: " ++ schemaFormat)
        (fun schemaFormat => callRegistry o registryId b
          (.checkCompatibility subject schemaContent schemaFormat version)
          CompatibilityCheckResponse.ofResult) o
  | .getCompatibilityMode registryId subject => withRegistry o registryId fun b =>
    callRegistry o registryId b (.getCompatibilityMode subject) fun mode =>
      ⟨mode.value, subjectOrGlobal subject⟩
  | .setCompatibilityMode registryId text subject => withRegistry o registryId fun b =>
    orBadRequest (parseMode text) ("Invalid compatibility mode: " ++ text)
      (fun mode => callRegistry o registryId b (.setCompatibilityMode mode subject) fun success =>
        ⟨success, registryId, text, subjectOrGlobal subject⟩) o
  | .getCompatibilityOverview => okBody o.compareCompatibilityModes
  | .bulkCheckCompatibility registryIds text subjectFilter =>
    orBadRequest (parseMode text) ("Invalid compatibility mode: " ++ text)
      (fun targetMode =>
        okBody (o.bulkCheckCompatibility run registryIds targetMode subjectFilter)) o
  | .bulkSetCompatibility text registryIds subjectFilter =>
    orBadRequest (parseMode text) ("Invalid compatibility mode: " ++ text)
      (fun mode => okBody (o.bulkSetCompatibility registryIds mode subjectFilter)) o

/-- A request to the application: `if not orchestrator: raise HTTPException(503, …)`, then the
endpoint. -/
def handle (run : PoolRun) :
    Option Orchestrator → (r : Request) → Reply r.Response × Option Orchestrator
  | none, _ => (.httpException 503 "Orchestrator not initialized", none)
  | some o, r => ((endpoint run o r).1, some (endpoint run o r).2)

/-! ## Names of modes -/

/-- A text names a mode iff, upper-cased, it is the mode's name; any other text raises
`KeyError`. -/
theorem parseMode_eq_ok (text : String) (mode : CompatibilityMode) :
    parseMode text = .ok mode ↔ pyUpper text = mode.name :=
  (enumGetItem_str_eq_ok CompatibilityMode.name_inj (CompatibilityMode.mem_members mode) _).trans
    eq_comm

/-- Every mode the API reports (`mode.value`) names that mode. -/
theorem parseMode_value (mode : CompatibilityMode) : parseMode mode.value = .ok mode :=
  (parseMode_eq_ok _ _).mpr (by cases mode <;> rfl)

/-! ## The error contract -/

/-- An endpoint of one registry answers 404 when the registry is not live, whatever else the
request holds, and calls no backend. -/
theorem handle_registryNotFound (run : PoolRun) (o : Orchestrator) (r : Request)
    (registryId : String) (hid : r.registryId? = some registryId)
    (hgone : o.getRegistry registryId = none) :
    handle run (some o) r =
      (.httpException 404 ("Registry " ++ registryId ++ " not found"), some o) := by
  cases r <;> simp only [Request.registryId?, reduceCtorEq, Option.some.injEq] at hid <;>
    subst hid <;> simp [handle, endpoint, withRegistry, hgone]

/-- The mode `GET …/compatibility/mode` reports is the one the registry answered, and `PUT`
accepts it back as that mode. -/
theorem getCompatibilityMode_reply_parses (run : PoolRun) (o : Orchestrator) (registryId : String)
    (subject : Option String) {reply : ModeReply} {o' : Option Orchestrator}
    (h : handle run (some o) (.getCompatibilityMode registryId subject) = (.ok reply, o')) :
    ∃ b mode, o.getRegistry registryId = some b ∧
      b.behaviour b.calls (.getCompatibilityMode subject) = .ok mode ∧
      parseMode reply.mode = .ok mode := by
  simp only [handle, endpoint, withRegistry] at h
  cases hb : o.getRegistry registryId with
  | none => simp [hb] at h
  | some b =>
    cases hmode : b.behaviour b.calls (.getCompatibilityMode subject) with
    | error e => simp [hb, callRegistry, Backend.invoke, hmode, replyOf] at h
    | ok mode =>
      simp only [hb, callRegistry, Backend.invoke_fst, hmode, map_ok, replyOf, Prod.mk.injEq,
        Reply.ok.injEq] at h
      exact ⟨b, mode, rfl, hmode, h.1 ▸ parseMode_value mode⟩

/-- `PUT …/compatibility/mode` on a live registry, with a text that names `mode`, calls
`set_compatibility_mode(mode, subject)` on its backend, and a `GET …/compatibility/mode` after it
reads the mode from the backend that received that call. -/
theorem handle_setThenGet (run : PoolRun) {o : Orchestrator} {registryId text : String}
    {subject : Option String} {mode : CompatibilityMode} {b : Backend}
    (hb : o.getRegistry registryId = some b) (hmode : parseMode text = .ok mode) :
    (handle run (some o) (.setCompatibilityMode registryId text subject)).1 =
      replyOf ((SetModeReply.mk · registryId text (subjectOrGlobal subject)) <$>
        b.behaviour b.calls (.setCompatibilityMode mode subject)) ∧
    (handle run (handle run (some o) (.setCompatibilityMode registryId text subject)).2
        (.getCompatibilityMode registryId subject)).1 =
      replyOf ((fun m : CompatibilityMode => ModeReply.mk m.value (subjectOrGlobal subject)) <$>
        b.behaviour (b.calls ++ [.setCompatibilityMode mode subject])
          (.getCompatibilityMode subject)) := by
  have hlive : o.activeRegistries.get? (.str registryId) = some b := hb
  simp only [handle, endpoint, withRegistry, getRegistry, hlive, orBadRequest, hmode, callRegistry,
    Dict.get?_insert_self, Backend.invoke]
  exact ⟨rfl, rfl⟩

/-! ## Requests keep the live objects -/

/-- The orchestrator after a request has the plugin registry of `o` and holds the objects `o`
holds, each under its id. -/
def Keeps {β : Type} (o : Orchestrator) (x : Reply β × Orchestrator) : Prop :=
  x.2.pluginRegistry = o.pluginRegistry ∧ SameObjects o.activeRegistries x.2.activeRegistries

theorem callRegistry_keeps {β : Type} {o : Orchestrator} {registryId : String} {b : Backend}
    (hb : o.getRegistry registryId = some b) (c : Call) (body : c.Response → β) :
    Keeps o (callRegistry o registryId b c body) :=
  ⟨rfl, SameObjects.insert hb rfl⟩

theorem withRegistry_keeps {β : Type} {o : Orchestrator} {registryId : String}
    {k : Backend → Reply β × Orchestrator}
    (hk : ∀ b, o.getRegistry registryId = some b → Keeps o (k b)) :
    Keeps o (withRegistry o registryId k) := by
  unfold withRegistry
  cases hb : o.getRegistry registryId with
  | none => exact ⟨rfl, SameObjects.refl _⟩
  | some b => exact hk b hb

theorem orBadRequest_keeps {α β : Type} {parsed : Except PyException α} {detail : String}
    {k : α → Reply β × Orchestrator} {o : Orchestrator} (hk : ∀ a, Keeps o (k a)) :
    Keeps o (orBadRequest parsed detail k o) := by
  unfold orBadRequest
  cases parsed with
  | ok a => exact hk a
  | error e =>
    dsimp only
    split <;> exact ⟨rfl, SameObjects.refl _⟩

/-- No request changes the plugin registry or which object is live under which id: the API has no
endpoint that adds or removes a registry. -/
theorem endpoint_keeps (run : PoolRun) (o : Orchestrator) (r : Request) :
    Keeps o (endpoint run o r) := by
  cases r with
  | listRegistries => exact ⟨rfl, listRegistries_sameObjects o⟩
  | checkRegistryHealth registryId => exact withRegistry_keeps fun _ hb => callRegistry_keeps hb _ _
  | checkAllHealth => exact ⟨rfl, healthCheckAll_sameObjects o⟩
  | findSchemaAcrossRegistries subject =>
    exact ⟨rfl, findSchemaAcrossRegistries_sameObjects o subject⟩
  | listSubjects registryId pfx => exact withRegistry_keeps fun _ hb => callRegistry_keeps hb _ _
  | checkCompatibility registryId subject schemaContent schemaFormat version =>
    exact withRegistry_keeps fun _ hb => orBadRequest_keeps fun _ => callRegistry_keeps hb _ _
  | getCompatibilityMode registryId subject =>
    exact withRegistry_keeps fun _ hb => callRegistry_keeps hb _ _
  | setCompatibilityMode registryId text subject =>
    exact withRegistry_keeps fun _ hb => orBadRequest_keeps fun _ => callRegistry_keeps hb _ _
  | getCompatibilityOverview => exact ⟨rfl, compareCompatibilityModes_sameObjects o⟩
  | bulkCheckCompatibility registryIds text subjectFilter =>
    exact orBadRequest_keeps fun _ => ⟨rfl, bulkCheckCompatibility_sameObjects o run _ _ _⟩
  | bulkSetCompatibility text registryIds subjectFilter =>
    exact orBadRequest_keeps fun _ => ⟨rfl, bulkSetCompatibility_sameObjects o _ _ _⟩

/-! ## A request to one registry makes one call -/

/-- The orchestrator after a request is `o`, or `o` with one call recorded on the backend it holds
under `registryId`. -/
def OneCallOn {β : Type} (o : Orchestrator) (registryId : String) (x : Reply β × Orchestrator) :
    Prop :=
  x.2 = o ∨ ∃ b c, o.getRegistry registryId = some b ∧
    x.2 = { o with activeRegistries := o.activeRegistries.insert (.str registryId) (b.invoke c).2 }

theorem callRegistry_oneCallOn {β : Type} {o : Orchestrator} {registryId : String} {b : Backend}
    (hb : o.getRegistry registryId = some b) (c : Call) (body : c.Response → β) :
    OneCallOn o registryId (callRegistry o registryId b c body) :=
  .inr ⟨b, c, hb, rfl⟩

theorem withRegistry_oneCallOn {β : Type} {o : Orchestrator} {registryId : String}
    {k : Backend → Reply β × Orchestrator}
    (hk : ∀ b, o.getRegistry registryId = some b → OneCallOn o registryId (k b)) :
    OneCallOn o registryId (withRegistry o registryId k) := by
  unfold withRegistry
  cases hb : o.getRegistry registryId with
  | none => exact .inl rfl
  | some b => exact hk b hb

theorem orBadRequest_oneCallOn {α β : Type} {parsed : Except PyException α} {detail : String}
    {k : α → Reply β × Orchestrator} {o : Orchestrator} {registryId : String}
    (hk : ∀ a, OneCallOn o registryId (k a)) :
    OneCallOn o registryId (orBadRequest parsed detail k o) := by
  unfold orBadRequest
  cases parsed with
  | ok a => exact hk a
  | error e =>
    dsimp only
    split <;> exact .inl rfl

/-- A request to one registry records at most one call, on that registry's backend, and changes
nothing else: no other backend's calls, and no other field of the orchestrator. -/
theorem endpoint_recordsOneCall (run : PoolRun) (o : Orchestrator) (r : Request)
    (registryId : String) (hid : r.registryId? = some registryId) :
    OneCallOn o registryId (endpoint run o r) := by
  cases r <;> simp only [Request.registryId?, reduceCtorEq, Option.some.injEq] at hid <;> subst hid
  case checkCompatibility | setCompatibilityMode =>
    exact withRegistry_oneCallOn fun _ hb =>
      orBadRequest_oneCallOn fun _ => callRegistry_oneCallOn hb _ _
  all_goals exact withRegistry_oneCallOn fun _ hb => callRegistry_oneCallOn hb _ _

end SchemaFederation.Api

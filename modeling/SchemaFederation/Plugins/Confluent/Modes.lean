import SchemaFederation.Plugins.Confluent.Backend
import SchemaFederation.Core.Orchestrator.CrossRegistry

/-!
# The compatibility modes of a Confluent registry

A Confluent registry holds a list of subjects, a global compatibility level, and a level of its own
for some subjects (`ConfluentState`). It answers `GET /config/{s}` with the subject's own level, or
with 404 for a subject that has none (`ConfluentState.Serves`).

`get_all_compatibility_modes` is documented as returning the subject-specific overrides. Its loop
skips a subject whose `get_compatibility_mode(subject)` raises, with the comment "Skip subjects
with no custom config". But `get_compatibility_mode` answers that 404 with the global level, so no
subject is skipped, and an inherited level is returned as if it were the subject's own:

* `getCompatibilityMode_served`: on a served registry, a listed subject's mode is its own level, or
  the global level when it has none (`ConfluentState.modeOf`).
* `getAllCompatibilityModes_served`: `get_all_compatibility_modes` maps every listed subject to that
  mode, not only the subjects with a level of their own.
* `getAllCompatibilityModes_reportsInherited`: for every served registry, a subject without a level
  of its own is returned with the global level, and `compare_compatibility_modes` reports it under
  `"subjects"`. `getAllCompatibilityModes_reportsInherited_ordersValue` is the case of a registry
  at `BACKWARD` with the one subject `orders-value` and no override.

Writes go the other way: `set_compatibility_mode` puts `{"compatibility": mode}` to the URL that
`get_compatibility_mode` reads `compatibilityLevel` from.

* `setCompatibilityMode_readBack`: on a registry that keeps what is written (`StoresModes`, which
  `storingRegistry` has), a mode `set_compatibility_mode` reports set is the mode
  `get_compatibility_mode` then reads, for a subject or globally.
-/

namespace SchemaFederation.Plugins.Confluent

open Python Core

/-- What a Confluent registry holds that the reads of modes see. -/
structure ConfluentState where
  subjects : List String
  globalLevel : CompatibilityMode
  /-- The subjects' own levels: `none` for a subject without one. -/
  overrides : String → Option CompatibilityMode

/-- The session answers `url` with a config that names `level`. -/
def ServesLevel (session : Session) (url : String) (level : CompatibilityMode) : Prop :=
  ∃ response kvs, getChecked session url = .ok response ∧ response.json = .ok (.obj kvs) ∧
    kvs.lookup "compatibilityLevel" = some (.str level.value)

/-- The session answers the reads of modes as a registry in the state `st` does: the subject list,
the global config, and for each listed subject its own config, or 404 when it has none. -/
structure ConfluentState.Serves (st : ConfluentState) (p : ConfluentSchemaRegistryPlugin)
    (session : Session) : Prop where
  subjects : ∃ response, getChecked session (p.baseUrl ++ "/subjects") = .ok response ∧
    response.json = .ok (.arr (st.subjects.map .str))
  globalConfig : ServesLevel session (p.baseUrl ++ "/config") st.globalLevel
  subjectConfig : ∀ s ∈ st.subjects, s ≠ "" →
    match st.overrides s with
    | some level => ServesLevel session (p.baseUrl ++ "/config/" ++ s) level
    | none => ∃ response, session.get (p.baseUrl ++ "/config/" ++ s) [] = .ok response ∧
        response.statusCode = 404

/-- The level of a subject: its own, or the global level. The subject `""` has no config URL of
its own. -/
def ConfluentState.modeOf (st : ConfluentState) (s : String) : CompatibilityMode :=
  if s = "" then st.globalLevel else (st.overrides s).getD st.globalLevel

namespace ConfluentSchemaRegistryPlugin

/-- A config that names `level` is read as `level`. -/
theorem readConfig_eq_ok {session : Session} {url : String} {level : CompatibilityMode}
    (h : ServesLevel session url level) : readConfig session url = .ok level := by
  obtain ⟨response, kvs, hchecked, hjson, hlevel⟩ := h
  obtain ⟨hget, hstatus⟩ := getChecked_eq_ok.mp hchecked
  simp only [readConfig, hget, ok_bind, (@Response.raiseForStatus_eq_ok response url).mpr hstatus,
    hjson, JsonValue.getD_obj, hlevel, Option.getD_some, CompatibilityMode.getItem_value]

section Served

variable {st : ConfluentState} {p : ConfluentSchemaRegistryPlugin} {session : Session}

theorem listSubjects_served (hs : st.Serves p session) :
    p.listSubjects session none = .ok st.subjects := by
  obtain ⟨response, hchecked, hjson⟩ := hs.subjects
  obtain ⟨hget, hstatus⟩ := getChecked_eq_ok.mp hchecked
  simp only [listSubjects, hget, ok_bind, hjson, truthyOpt, JsonValue.toStrList_strs,
    (@Response.raiseForStatus_eq_ok response _).mpr hstatus]
  rfl

theorem getCompatibilityMode_none_served (hs : st.Serves p session) :
    p.getCompatibilityMode session none = .ok st.globalLevel := by
  rw [getCompatibilityMode_none]
  exact readConfig_eq_ok hs.globalConfig

/-- A listed subject's mode is its own level, or the global level when the registry answers its
config with 404. -/
theorem getCompatibilityMode_served (hs : st.Serves p session) {s : String}
    (hmem : s ∈ st.subjects) : p.getCompatibilityMode session (some s) = .ok (st.modeOf s) := by
  by_cases hne : s = ""
  · subst hne
    have hurl : p.configUrl (some "") = p.configUrl none := rfl
    have hglobal : readConfig session (p.configUrl none) = .ok st.globalLevel :=
      readConfig_eq_ok hs.globalConfig
    simp only [getCompatibilityMode, hurl, hglobal]
    rfl
  · have hconfig := hs.subjectConfig s hmem hne
    simp only [ConfluentState.modeOf, hne, if_false]
    cases hlevel : st.overrides s with
    | some level =>
      rw [hlevel] at hconfig
      have hurl : p.configUrl (some s) = p.baseUrl ++ "/config/" ++ s := by simp [configUrl, hne]
      simp only [getCompatibilityMode, hurl, readConfig_eq_ok hconfig]
      rfl
    | none =>
      rw [hlevel] at hconfig
      obtain ⟨response, hget, h404⟩ := hconfig
      rw [getCompatibilityMode_of_notFound p session s hne response hget h404]
      exact getCompatibilityMode_none_served hs

/-- `get_all_compatibility_modes` maps every listed subject to its mode, inherited or its own. -/
theorem getAllCompatibilityModes_served (hs : st.Serves p session) (s : String) :
    (p.getAllCompatibilityModes session).get? s =
      if s ∈ st.subjects then some (st.modeOf s) else none := by
  unfold getAllCompatibilityModes
  rw [listSubjects_served hs]
  dsimp only
  rw [get?_foldl_addMode]
  by_cases hmem : s ∈ st.subjects
  · rw [getCompatibilityMode_served hs hmem]
    simp [hmem]
  · split <;> simp [hmem]

end Served

/-- For every registry state and every session serving it, a listed subject without a level of its
own is returned by `get_all_compatibility_modes` with the global level, as if it were an override;
and on an orchestrator that holds the plugin under `id`, `compare_compatibility_modes` reports it
under `"subjects"` of that entry. -/
theorem getAllCompatibilityModes_reportsInherited (st : ConfluentState)
    (p : ConfluentSchemaRegistryPlugin) (registry : List Call → HttpSession)
    (elapsed : List Call → Float) (hserves : ∀ calls, st.Serves p (registry calls).toSession)
    (subject : String) (hmem : subject ∈ st.subjects) (hne : subject ≠ "")
    (hnone : st.overrides subject = none) (o : Orchestrator) (id : HashKey) (b : Backend)
    (hb : o.activeRegistries.get? id = some b)
    (hbehaviour : b.behaviour = p.behaviour registry elapsed) :
    (∀ calls, (p.getAllCompatibilityModes (registry calls).toSession).get? subject =
      some st.globalLevel) ∧
    ∃ subjectModes, o.compareCompatibilityModes.1.get? id =
        some (.modes st.globalLevel.value subjectModes) ∧
      subjectModes.get? subject = some st.globalLevel.value := by
  have hinherited : ∀ calls, (p.getAllCompatibilityModes (registry calls).toSession).get? subject =
      some st.globalLevel := fun calls => by
    rw [getAllCompatibilityModes_served (hserves calls)]
    simp [hmem, ConfluentState.modeOf, hne, hnone]
  refine ⟨hinherited, ?_⟩
  simp only [Orchestrator.compareCompatibilityModes, Orchestrator.fanOut_get?, hb, Option.bind,
    Backend.getCompatibilityMode, Backend.getAllCompatibilityModes, Backend.invoke, hbehaviour,
    behaviour, getCompatibilityMode_none_served (hserves b.calls)]
  refine ⟨_, rfl, ?_⟩
  rw [Dict.get?_map, hinherited]
  rfl

/-! ## A mode written is read back -/

/-- The registry keeps what is written to it: once a `PUT` of `{"compatibility": mode}` to a config
URL is answered with a status outside 400–599, the server after that call answers the URL with a
config that names `mode`. -/
def StoresModes (p : ConfluentSchemaRegistryPlugin) (registry : List Call → HttpSession) : Prop :=
  ∀ calls mode subject response,
    (registry calls).put (p.configUrl subject) (.obj [("compatibility", .str mode.value)]) =
      .ok response → ¬(400 ≤ response.statusCode ∧ response.statusCode < 600) →
    ServesLevel (registry (calls ++ [.setCompatibilityMode mode subject])).toSession
      (p.configUrl subject) mode

/-- On a registry that keeps what is written, the mode `set_compatibility_mode` reports set is the
one `get_compatibility_mode` then reads, for a subject or globally: both use `configUrl`. -/
theorem setCompatibilityMode_readBack {p : ConfluentSchemaRegistryPlugin}
    {registry : List Call → HttpSession} (elapsed : List Call → Float)
    (hstores : StoresModes p registry) {calls : List Call} {mode : CompatibilityMode}
    {subject : Option String}
    (hset : p.behaviour registry elapsed calls (.setCompatibilityMode mode subject) = .ok true) :
    p.behaviour registry elapsed (calls ++ [.setCompatibilityMode mode subject])
      (.getCompatibilityMode subject) = .ok mode := by
  obtain ⟨response, hput, hstatus⟩ := setCompatibilityMode_eq_true.mp hset
  simp only [behaviour, getCompatibilityMode,
    readConfig_eq_ok (hstores calls mode subject response hput hstatus)]

/-- The level of the last write among `calls` to the config URL `url`. -/
def lastWrite (p : ConfluentSchemaRegistryPlugin) (url : String) (calls : List Call) :
    Option CompatibilityMode :=
  calls.foldl (fun level c => match c with
    | .setCompatibilityMode mode subject => if p.configUrl subject = url then some mode else level
    | _ => level) none

/-- A registry that accepts every config write and answers a config URL with the level last
written to it, or 404. -/
def storingRegistry (p : ConfluentSchemaRegistryPlugin) (calls : List Call) : HttpSession :=
  { HttpSession.refusing with
    get := fun url _ => match lastWrite p url calls with
      | some level => .ok ⟨200, "OK", .ok (.obj [("compatibilityLevel", .str level.value)])⟩
      | none => .ok ⟨404, "Not Found", .ok (.obj [("error_code", .num 40401)])⟩
    put := fun _ _ => .ok ⟨200, "OK", .ok (.obj [])⟩ }

/-- Keeping what is written is a property some registry has. -/
theorem storingRegistry_storesModes (p : ConfluentSchemaRegistryPlugin) :
    StoresModes p (storingRegistry p) := by
  intro calls mode subject _ _ _
  have hlast : lastWrite p (p.configUrl subject) (calls ++ [.setCompatibilityMode mode subject]) =
      some mode := by
    simp [lastWrite, List.foldl_append]
  refine ⟨⟨200, "OK", .ok (.obj [("compatibilityLevel", .str mode.value)])⟩, _,
    getChecked_eq_ok.mpr ⟨?_, by simp⟩, rfl, rfl⟩
  simp only [storingRegistry, hlast]

/-! ## A registry with one inherited subject -/

/-- A registry at `BACKWARD` with the one subject `orders-value`, which has no level of its own. -/
def ordersState : ConfluentState := ⟨["orders-value"], .backward, fun _ => none⟩

/-- The registry's server: the subject list, the global config, and 404 for any other config. -/
def ordersRegistry : HttpSession where
  get url _ :=
    if url = "http://registry:8081/subjects" then .ok ⟨200, "OK", .ok (.arr [.str "orders-value"])⟩
    else if url = "http://registry:8081/config" then
      .ok ⟨200, "OK", .ok (.obj [("compatibilityLevel", .str "BACKWARD")])⟩
    else .ok ⟨404, "Not Found", .ok (.obj [("error_code", .num 40408)])⟩
  post _ _ := .error ⟨.requestException, "Connection refused"⟩
  put _ _ := .error ⟨.requestException, "Connection refused"⟩
  patch _ _ := .error ⟨.requestException, "Connection refused"⟩
  delete _ := .error ⟨.requestException, "Connection refused"⟩

/-- The plugin for the registry. -/
def ordersPlugin : ConfluentSchemaRegistryPlugin := ⟨"http://registry:8081"⟩

/-- The plugin's instance, live under `confluent-prod`. -/
def ordersBackend : Backend :=
  ⟨0, [], ordersPlugin.behaviour (fun _ => ordersRegistry) (fun _ => 0)⟩

/-- An orchestrator with the one live registry `confluent-prod`. -/
def ordersOrchestrator : Orchestrator :=
  ⟨⟨Dict.empty, Dict.empty, 1⟩, Dict.empty.insert (.str "confluent-prod") ordersBackend⟩

theorem ordersRegistry_serves : ordersState.Serves ordersPlugin ordersRegistry.toSession where
  subjects := ⟨_, rfl, rfl⟩
  globalConfig := ⟨_, _, rfl, rfl, rfl⟩
  subjectConfig s hs _ := by
    simp only [ordersState, List.mem_singleton] at hs
    subst hs
    exact ⟨_, rfl, rfl⟩

theorem getAllCompatibilityModes_reportsInherited_ordersValue :
    (∀ _ : List Call, ordersState.Serves ordersPlugin ordersRegistry.toSession) ∧
    "orders-value" ∈ ordersState.subjects ∧ "orders-value" ≠ "" ∧
    ordersState.overrides "orders-value" = none ∧
    ordersOrchestrator.activeRegistries.get? (.str "confluent-prod") = some ordersBackend ∧
    ordersBackend.behaviour = ordersPlugin.behaviour (fun _ => ordersRegistry) (fun _ => 0) ∧
    ((∀ _ : List Call, (ordersPlugin.getAllCompatibilityModes ordersRegistry.toSession).get?
        "orders-value" = some CompatibilityMode.backward) ∧
      ∃ subjectModes, ordersOrchestrator.compareCompatibilityModes.1.get? (.str "confluent-prod") =
        some (.modes "BACKWARD" subjectModes) ∧
        subjectModes.get? "orders-value" = some "BACKWARD") :=
  ⟨fun _ => ordersRegistry_serves, by decide, by decide, rfl, Dict.get?_insert_self _ _ _, rfl,
    getAllCompatibilityModes_reportsInherited ordersState ordersPlugin (fun _ => ordersRegistry)
      (fun _ => 0) (fun _ => ordersRegistry_serves) "orders-value" (by decide) (by decide) rfl
      ordersOrchestrator (.str "confluent-prod") ordersBackend (Dict.get?_insert_self _ _ _) rfl⟩

end ConfluentSchemaRegistryPlugin

end SchemaFederation.Plugins.Confluent

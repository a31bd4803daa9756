import SchemaFederation.Python.Requests
import SchemaFederation.Core.Models

/-!
# What the two plugins share

The Confluent and Unity Catalog plugins write `discover_schemas` and `health_check` alike, over
their own `list_subjects`, `get_latest_schema`, URL and texts. `discoverWith` and
`timedHealthCheck` are those shared bodies; each plugin applies them to its own. The response time
of a health check, `(time.time() - start_time) * 1000`, is a parameter: the clock is outside the
model.

* `mem_discoverWith`: a schema is discovered iff it is the latest schema of a listed subject.

* `timedHealthCheck_healthy_iff`: a registry is reported healthy iff its `GET` was answered with a
  status that `raise_for_status` lets through, which is any status outside 400–599.
* `timedHealthCheck_unhealthy`: an unhealthy report carries the reply's status for an HTTP error
  and 0 when no reply came, and names the exception.
* `timedHealthCheck_eq_error`: a health check raises only what the session raised outside
  `RequestException`.
-/

namespace SchemaFederation.Plugins

open Python Core

/-! ## Discovery -/

/-- The body of `discover_schemas(namespace, filters)` over a plugin's `list_subjects` and
`get_latest_schema`: the latest schema of each listed subject that could be read, in listing
order, and `[]` when the listing raises. `filters` is not read. -/
def discoverWith (listSubjects : Option String → Except PyException (List String))
    (getLatestSchema : String → Except PyException Schema) (nspace : Option String) : List Schema :=
  match listSubjects nspace with
  | .ok subjects => subjects.filterMap fun subject => (getLatestSchema subject).toOption
  | .error _ => []

/-- A schema is discovered iff it is the latest schema of a listed subject. -/
theorem mem_discoverWith {listSubjects : Option String → Except PyException (List String)}
    {getLatestSchema : String → Except PyException Schema} {nspace : Option String} {s : Schema} :
    s ∈ discoverWith listSubjects getLatestSchema nspace ↔
      ∃ subjects, listSubjects nspace = .ok subjects ∧
        ∃ subject ∈ subjects, getLatestSchema subject = .ok s := by
  unfold discoverWith
  cases listSubjects nspace <;> simp [List.mem_filterMap, toOption_eq_some]

/-! ## Health checks -/

/-- `getattr(e.response, 'status_code', 0) if hasattr(e, 'response') else 0`: only an `HTTPError`
carries a response. -/
def errorStatus (e : PyException) : Int :=
  match e.cls with
  | .httpError statusCode => statusCode
  | _ => 0

/-- The body of `health_check`, for the request to `url` and a plugin at `baseUrl`. -/
def timedHealthCheck (session : Session) (url baseUrl healthyMessage : String)
    (healthyMetadata : List (String × JsonValue)) (responseTimeMs : Float) :
    Except PyException HealthStatus :=
  match getChecked session url with
  | .ok response => .ok ⟨true, response.statusCode, healthyMessage, responseTimeMs, healthyMetadata⟩
  | .error e =>
    if e.cls.isRequestException then
      .ok ⟨false, errorStatus e, "Health check failed: " ++ e.str, responseTimeMs,
        [("url", .str baseUrl), ("error", .str e.str)]⟩
    else .error e

section Report

variable {session : Session} {url baseUrl healthyMessage : String}
  {healthyMetadata : List (String × JsonValue)} {responseTimeMs : Float}

/-- A registry is reported healthy iff its `GET` was answered with a status outside 400–599. -/
theorem timedHealthCheck_healthy_iff :
    (∃ status, timedHealthCheck session url baseUrl healthyMessage healthyMetadata responseTimeMs =
        .ok status ∧ status.healthy = true) ↔
      ∃ response, session.get url [] = .ok response ∧
        ¬(400 ≤ response.statusCode ∧ response.statusCode < 600) := by
  unfold timedHealthCheck
  constructor
  · rintro ⟨status, h, hhealthy⟩
    split at h
    · exact ⟨_, getChecked_eq_ok.mp ‹_›⟩
    · split at h <;> cases h
      cases hhealthy
  · rintro ⟨response, hchecked⟩
    rw [getChecked_eq_ok.mpr hchecked]
    exact ⟨_, rfl, rfl⟩

/-- An unhealthy report carries the reply's status for an HTTP error and 0 when no reply came,
and names the exception in its message and metadata. -/
theorem timedHealthCheck_unhealthy {status : HealthStatus}
    (h : timedHealthCheck session url baseUrl healthyMessage healthyMetadata responseTimeMs =
      .ok status)
    (hunhealthy : status.healthy = false) :
    ∃ e, getChecked session url = .error e ∧ e.cls.isRequestException = true ∧
      status = ⟨false, errorStatus e, "Health check failed: " ++ e.str, responseTimeMs,
        [("url", .str baseUrl), ("error", .str e.str)]⟩ := by
  unfold timedHealthCheck at h
  split at h
  · cases h
    cases hunhealthy
  · rename_i e he
    split at h
    · exact ⟨e, he, ‹_›, (Except.ok.inj h).symm⟩
    · cases h

/-- A health check raises only what the session raised outside `RequestException`. -/
theorem timedHealthCheck_eq_error {e : PyException}
    (h : timedHealthCheck session url baseUrl healthyMessage healthyMetadata responseTimeMs =
      .error e) :
    session.get url [] = .error e ∧ e.cls.isRequestException = false := by
  unfold timedHealthCheck at h
  split at h
  · cases h
  · rename_i e' he'
    split at h
    · cases h
    · rename_i hnot
      cases h
      rcases getChecked_eq_error he' with hget | ⟨response, -, hcls⟩
      · exact ⟨hget, Bool.eq_false_iff.mpr hnot⟩
      · rw [hcls] at hnot
        exact absurd rfl hnot

end Report

end SchemaFederation.Plugins

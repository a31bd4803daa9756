import SchemaFederation.Python.Json

/-!
# HTTP replies, as `requests` gives them

A plugin talks to its registry through a `requests.Session`. `Session` is what the server answers:
for `GET url` with query parameters, a `Response` or the `RequestException` raised when no reply
came; `HttpSession` adds `POST`, `PUT` and `PATCH` with a JSON body, and `DELETE`. A `Response`
carries its status, its reason phrase and what `response.json()` gives. `Response.raiseForStatus`
raises `HTTPError` for a 4xx or 5xx status with the text `requests` writes; `getChecked` is a `GET`
followed by it. `notFoundAs` is the plugins' handler that turns a 404 into another exception.
-/

namespace SchemaFederation.Python

/-- A reply: its status, its reason phrase, and what `response.json()` returns or raises. -/
structure Response where
  statusCode : Nat
  reason : String
  json : Except PyException JsonValue

/-- `response.raise_for_status()` for a request to `url`. -/
def Response.raiseForStatus (r : Response) (url : String) : Except PyException Unit :=
  if 400 ≤ r.statusCode ∧ r.statusCode < 500 then
    .error ⟨.httpError r.statusCode,
      toString r.statusCode ++ " Client Error: " ++ r.reason ++ " for url: " ++ url⟩
  else if 500 ≤ r.statusCode ∧ r.statusCode < 600 then
    .error ⟨.httpError r.statusCode,
      toString r.statusCode ++ " Server Error: " ++ r.reason ++ " for url: " ++ url⟩
  else .ok ()

/-- `raise_for_status` lets through exactly the statuses outside 400–599. -/
theorem Response.raiseForStatus_eq_ok {r : Response} {url : String} :
    r.raiseForStatus url = .ok () ↔ ¬(400 ≤ r.statusCode ∧ r.statusCode < 600) := by
  unfold raiseForStatus
  split <;> [skip; split] <;> simp <;> omega

/-- A status below 400 passes `raise_for_status`. -/
theorem Response.raiseForStatus_ok {r : Response} (h : r.statusCode < 400) (url : String) :
    r.raiseForStatus url = .ok () :=
  raiseForStatus_eq_ok.mpr (by omega)

/-- `except requests.exceptions.HTTPError as e`, whose handler raises `e404` for a 404 and re-raises
anything else. -/
def notFoundAs {α : Type} (e404 : PyException) : Except PyException α → Except PyException α
  | .error ⟨.httpError 404, _⟩ => .error e404
  | r => r

/-- The handler lets every value through. -/
theorem notFoundAs_eq_ok {α : Type} {e404 : PyException} {r : Except PyException α} {a : α} :
    notFoundAs e404 r = .ok a ↔ r = .ok a := by
  unfold notFoundAs
  split <;> simp_all

/-- What the server answers to `session.get(url, params=params)`. -/
structure Session where
  get : String → List (String × JsonValue) → Except PyException Response

/-- A session that also changes what the server holds: what it answers to
`session.post(url, json=body)`, `session.put(url, json=body)`, `session.patch(url, json=body)` and
`session.delete(url)`. -/
structure HttpSession extends Session where
  post : String → JsonValue → Except PyException Response
  put : String → JsonValue → Except PyException Response
  patch : String → JsonValue → Except PyException Response
  delete : String → Except PyException Response

/-- A server that cannot be reached: every request raises `ConnectionError`, a
`RequestException`. -/
def HttpSession.refusing : HttpSession where
  get _ _ := .error ⟨.requestException, "Connection refused"⟩
  post _ _ := .error ⟨.requestException, "Connection refused"⟩
  put _ _ := .error ⟨.requestException, "Connection refused"⟩
  patch _ _ := .error ⟨.requestException, "Connection refused"⟩
  delete _ := .error ⟨.requestException, "Connection refused"⟩

/-- `response = session.get(url, …)` then `response.raise_for_status()`. -/
def getChecked (session : Session) (url : String) : Except PyException Response := do
  let response ← session.get url []
  response.raiseForStatus url
  pure response

/-- The checked `GET` returns exactly the replies with a status outside 400–599. -/
theorem getChecked_eq_ok {session : Session} {url : String} {response : Response} :
    getChecked session url = .ok response ↔
      session.get url [] = .ok response ∧
        ¬(400 ≤ response.statusCode ∧ response.statusCode < 600) := by
  simp only [getChecked, bind_eq_ok]
  constructor
  · rintro ⟨r, hget, ⟨⟩, hstatus, ⟨⟩⟩
    exact ⟨hget, Response.raiseForStatus_eq_ok.mp hstatus⟩
  · rintro ⟨hget, hstatus⟩
    exact ⟨response, hget, (), Response.raiseForStatus_eq_ok.mpr hstatus, rfl⟩

/-- The checked `GET` raises the session's exception, or the `HTTPError` of a 4xx or 5xx reply. -/
theorem getChecked_eq_error {session : Session} {url : String} {e : PyException}
    (h : getChecked session url = .error e) :
    session.get url [] = .error e ∨ ∃ response, session.get url [] = .ok response ∧
      e.cls = .httpError response.statusCode := by
  simp only [getChecked] at h
  cases hget : session.get url [] with
  | error e' =>
    rw [hget] at h
    exact .inl (by cases h; rfl)
  | ok response =>
    rw [hget, ok_bind] at h
    refine .inr ⟨response, rfl, ?_⟩
    unfold Response.raiseForStatus at h
    split at h <;> [skip; split at h] <;> cases h <;> rfl

end SchemaFederation.Python

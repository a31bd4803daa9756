import SchemaFederation.Core.Interfaces

/-!
# Checking one subject against its version history

`MultiBackendOrchestrator._check_single_subject`: list the subject's versions; with fewer than two
the subject is compatible; otherwise fetch `versions[-1]` and check it against each version of
`versions[:-1]` in order, every check in its own `try`. The outer `try` turns an exception of
`list_versions` or of the fetch into a result that carries the error. `checkVersions` is the loop
and `versionStep` one iteration of it.

A backend answers each call from the calls made before it, so what a run saw is read off the
backend by `observe`: the answer of `list_versions`, then of the fetch, then the answers to the
checks, made one after another (`checkOutcomes`). Against it:

* `checkSingleSubject_eq`: the result and the calls made, in terms of the run; the loop is
  `checkVersions_eq` (its verdict is the conjunction of the checks, its messages the concatenation
  of the failing checks' messages).
* `checkSingleSubject_spec`: the verdict is compatible iff the run is `SubjectRun.Compatible`; the
  calls are `list_versions`, the fetch when there are two versions or more, and, when the fetch
  returned, one `check_compatibility` per version of `versions[:-1]`, in order, whatever the
  earlier checks did; and whenever the failing checks produced messages, those are the messages.
* `allVersionsCompatible_of_silentFailure`: a check that returns an incompatible result without
  messages (Confluent's `check_compatibility` does so whenever its request fails) yields an
  incompatible verdict whose only message is `"All versions compatible"`, and no error. The
  result's message is chosen on `messages` being empty, where the Iceberg evolution check of the
  Unity Catalog plugin tests its verdict.
-/

namespace SchemaFederation.Core

open Python

/-- The message for a check of `version` that raised `e`. -/
def checkFailedMessage (version : Int) (e : PyException) : String :=
  "Check failed for version " ++ toString version ++ ": " ++ e.str

/-- The call that checks the latest schema against `version`. -/
def checkCall (subject : String) (latest : Schema) (version : Int) : Call :=
  .checkCompatibility subject latest.schemaContent latest.schemaFormat (some version)

/-- One iteration of the loop over `versions[:-1]`: the accumulators are `all_compatible` and
`messages`. -/
def versionStep (subject : String) (latest : Schema) (acc : Bool × List String) (version : Int)
    (b : Backend) : (Bool × List String) × Backend :=
  match b.checkCompatibility subject latest.schemaContent latest.schemaFormat (some version) with
  | (.ok result, b) => (if !result.isCompatible then (false, acc.2 ++ result.messages) else acc, b)
  | (.error e, b) => ((false, acc.2 ++ [checkFailedMessage version e]), b)

/-- `for version in versions[:-1]: …`. -/
def checkVersions (subject : String) (latest : Schema) :
    List Int → Bool × List String → Backend → (Bool × List String) × Backend
  | [], acc, b => (acc, b)
  | version :: rest, acc, b =>
    let (acc, b) := versionStep subject latest acc version b
    checkVersions subject latest rest acc b

/-- `_check_single_subject(registry, subject, target_mode)`, and the backend after its calls. -/
def checkSingleSubject (registry : Backend) (subject : String) (targetMode : CompatibilityMode) :
    CompatibilityResult × Backend :=
  match registry.listVersions subject with
  | (.error e, b) => (⟨false, [], targetMode, [e.str]⟩, b)
  | (.ok versions, b) =>
    if h : versions.length < 2 then
      (⟨true, ["Single version - no compatibility check needed"], targetMode, []⟩, b)
    else
      match b.getSchemaBySubjectVersion subject
          (versions.getLast (List.ne_nil_of_length_pos (by omega))) with
      | (.error e, b) => (⟨false, [], targetMode, [e.str]⟩, b)
      | (.ok latest, b) =>
        let ((allCompatible, messages), b) :=
          checkVersions subject latest versions.dropLast (true, []) b
        (⟨allCompatible, if messages = [] then ["All versions compatible"] else messages,
          targetMode, []⟩, b)

/-! ## What a run saw -/

/-- The answers to the checks of `latest` against each of `versions`, made one after another. -/
def checkOutcomes (subject : String) (latest : Schema) :
    List Int → Backend → List (Int × Except PyException CompatibilityResult)
  | [], _ => []
  | version :: rest, b =>
    let (r, b) :=
      b.checkCompatibility subject latest.schemaContent latest.schemaFormat (some version)
    (version, r) :: checkOutcomes subject latest rest b

/-- How a run of `_check_single_subject` went. -/
inductive SubjectRun where
  /-- `list_versions` raised. -/
  | listFailed (e : PyException)
  /-- `list_versions` returned fewer than two versions. -/
  | single (versions : List Int)
  /-- Fetching the latest version `last` raised. -/
  | fetchFailed (last : Int) (e : PyException)
  /-- The latest version `last` was fetched and checked against each of `earlier`. -/
  | checked (last : Int) (earlier : List Int) (latest : Schema)
      (outcomes : List (Int × Except PyException CompatibilityResult))

/-- What the backend answered to `_check_single_subject`'s calls. -/
def observe (registry : Backend) (subject : String) : SubjectRun :=
  match registry.listVersions subject with
  | (.error e, _) => .listFailed e
  | (.ok versions, b) =>
    if h : versions.length < 2 then .single versions
    else
      let last := versions.getLast (List.ne_nil_of_length_pos (by omega))
      match b.getSchemaBySubjectVersion subject last with
      | (.error e, _) => .fetchFailed last e
      | (.ok latest, b) =>
        .checked last versions.dropLast latest (checkOutcomes subject latest versions.dropLast b)

/-- A check of an earlier version passed: it returned a compatible result, without raising. -/
def passed : Except PyException CompatibilityResult → Bool
  | .ok result => result.isCompatible
  | .error _ => false

/-- The messages a check adds: none when it passed, the result's when it returned incompatible,
and `f"Check failed for version {version}: {str(e)}"` when it raised `e`. -/
def failureMessages (version : Int) : Except PyException CompatibilityResult → List String
  | .ok result => if result.isCompatible then [] else result.messages
  | .error e => ["Check failed for version " ++ toString version ++ ": " ++ e.str]

namespace SubjectRun

/-- `list_versions` returned, and either fewer than two versions came back, or the fetch of the
latest returned and every check of an earlier version passed. -/
def Compatible : SubjectRun → Prop
  | listFailed _ => False
  | single _ => True
  | fetchFailed _ _ => False
  | checked _ _ _ outcomes => ∀ o ∈ outcomes, passed o.2 = true

/-- The calls made, in order. -/
def calls (subject : String) : SubjectRun → List Call
  | listFailed _ | single _ => [.listVersions subject]
  | fetchFailed last _ => [.listVersions subject, .getSchemaBySubjectVersion subject last]
  | checked last earlier latest _ =>
    [.listVersions subject, .getSchemaBySubjectVersion subject last] ++
      earlier.map (checkCall subject latest)

/-- The messages of the failing checks, in order. -/
def failureMessages : SubjectRun → List String
  | checked _ _ _ outcomes => outcomes.flatMap fun o => Core.failureMessages o.1 o.2
  | _ => []

/-- The result `_check_single_subject` returns for the run. -/
def result (targetMode : CompatibilityMode) : SubjectRun → CompatibilityResult
  | listFailed e => ⟨false, [], targetMode, [e.str]⟩
  | single _ => ⟨true, ["Single version - no compatibility check needed"], targetMode, []⟩
  | fetchFailed _ e => ⟨false, [], targetMode, [e.str]⟩
  | r@(checked _ _ _ outcomes) =>
    ⟨outcomes.all (passed ·.2),
      if r.failureMessages = [] then ["All versions compatible"] else r.failureMessages,
      targetMode, []⟩

theorem result_isCompatible_iff (targetMode : CompatibilityMode) (r : SubjectRun) :
    (r.result targetMode).isCompatible = true ↔ r.Compatible := by
  cases r with
  | listFailed | fetchFailed => exact iff_of_false Bool.false_ne_true id
  | single => exact iff_of_true rfl trivial
  | checked _ _ _ outcomes => exact List.all_eq_true

theorem result_messages (targetMode : CompatibilityMode) {r : SubjectRun}
    (h : r.failureMessages ≠ []) : (r.result targetMode).messages = r.failureMessages := by
  cases r with
  | checked => exact if_neg h
  | _ => exact absurd rfl h

end SubjectRun

/-! ## The loop -/

theorem versionStep_eq (subject : String) (latest : Schema) (acc : Bool × List String)
    (version : Int) (b : Backend) :
    versionStep subject latest acc version b =
      ((acc.1 && passed (b.behaviour b.calls (checkCall subject latest version)),
        acc.2 ++ failureMessages version (b.behaviour b.calls (checkCall subject latest version))),
        { b with calls := b.calls ++ [checkCall subject latest version] }) := by
  unfold versionStep checkCall
  cases h : b.behaviour b.calls (.checkCompatibility subject latest.schemaContent
      latest.schemaFormat (some version)) with
  | error e => simp [Backend.invoke, h, passed, failureMessages, checkFailedMessage]
  | ok result =>
    cases hc : result.isCompatible <;> simp [Backend.invoke, h, hc, passed, failureMessages]

theorem checkOutcomes_fst (subject : String) (latest : Schema) (versions : List Int)
    (b : Backend) : (checkOutcomes subject latest versions b).map Prod.fst = versions := by
  induction versions generalizing b with
  | nil => rfl
  | cons v vs ih => simp [checkOutcomes, ih]

/-- The loop ands the checks' verdicts into `all_compatible` and appends the failing checks'
messages, and it makes one check per version, in order. -/
theorem checkVersions_eq (subject : String) (latest : Schema) (versions : List Int)
    (acc : Bool × List String) (b : Backend) :
    checkVersions subject latest versions acc b =
      ((acc.1 && (checkOutcomes subject latest versions b).all (passed ·.2),
        acc.2 ++
          (checkOutcomes subject latest versions b).flatMap fun o => failureMessages o.1 o.2),
        { b with calls := b.calls ++ versions.map (checkCall subject latest) }) := by
  induction versions generalizing acc b with
  | nil => simp [checkVersions, checkOutcomes]
  | cons v vs ih =>
    simp only [checkVersions, versionStep_eq, ih, checkOutcomes]
    simp [checkCall, Bool.and_assoc]

/-! ## The whole check -/

/-- `_check_single_subject` returns the run's result, and the backend has received the run's
calls. -/
theorem checkSingleSubject_eq (registry : Backend) (subject : String)
    (targetMode : CompatibilityMode) :
    checkSingleSubject registry subject targetMode =
      ((observe registry subject).result targetMode,
        { registry with calls := registry.calls ++ (observe registry subject).calls subject }) := by
  unfold checkSingleSubject observe
  split
  · next e b h =>
    simp only [Backend.listVersions, Backend.invoke, Prod.mk.injEq] at h
    obtain ⟨h1, rfl⟩ := h
    simp [h1, SubjectRun.result, SubjectRun.calls]
  · next versions b h =>
    simp only [Backend.listVersions, Backend.invoke, Prod.mk.injEq] at h
    obtain ⟨h1, rfl⟩ := h
    simp only [h1]
    split
    · simp [SubjectRun.result, SubjectRun.calls]
    · split
      · next e b' h' =>
        simp only [Backend.getSchemaBySubjectVersion, Backend.invoke, Prod.mk.injEq] at h'
        obtain ⟨h2, rfl⟩ := h'
        simp [Backend.invoke, h2, SubjectRun.result, SubjectRun.calls]
      · next latest b' h' =>
        simp only [Backend.getSchemaBySubjectVersion, Backend.invoke, Prod.mk.injEq] at h'
        obtain ⟨h2, rfl⟩ := h'
        rw [checkVersions_eq, List.append_assoc, List.singleton_append]
        simp only [Bool.true_and, List.nil_append, List.flatMap_eq_nil_iff, Prod.forall,
          List.map_dropLast, List.append_assoc, List.cons_append, List.singleton_append,
          SubjectRun.result, Backend.getSchemaBySubjectVersion, Backend.invoke, h2,
          SubjectRun.failureMessages, SubjectRun.calls]

/-- For every backend and subject, `_check_single_subject` returns (it cannot raise) a compatible
verdict exactly when `list_versions` returned and either fewer than two versions came back or the
fetch of `versions[-1]` returned and every check of an earlier version returned a compatible
result; its calls are those of the run, which check each version of `versions[:-1]` once, in
order, whatever the earlier checks did; and when the failing checks produced messages, the result's
messages are exactly those, in order. -/
theorem checkSingleSubject_spec (registry : Backend) (subject : String)
    (targetMode : CompatibilityMode) :
    ((checkSingleSubject registry subject targetMode).1.isCompatible = true ↔
        (observe registry subject).Compatible) ∧
      (checkSingleSubject registry subject targetMode).2.calls =
        registry.calls ++ (observe registry subject).calls subject ∧
      ((observe registry subject).failureMessages ≠ [] →
        (checkSingleSubject registry subject targetMode).1.messages =
          (observe registry subject).failureMessages) := by
  rw [checkSingleSubject_eq]
  exact ⟨SubjectRun.result_isCompatible_iff _ _, rfl, SubjectRun.result_messages _⟩

/-- Each answer the loop records is the backend's answer to that check, after some calls. -/
theorem mem_checkOutcomes {subject : String} {latest : Schema} {versions : List Int} {b : Backend}
    {o : Int × Except PyException CompatibilityResult}
    (h : o ∈ checkOutcomes subject latest versions b) :
    ∃ calls, o.2 = b.behaviour calls (checkCall subject latest o.1) := by
  induction versions generalizing b with
  | nil => cases h
  | cons v vs ih =>
    simp only [checkOutcomes, List.mem_cons] at h
    rcases h with rfl | h
    · exact ⟨b.calls, rfl⟩
    · obtain ⟨calls, hcalls⟩ := ih h
      exact ⟨calls, hcalls⟩

/-- When the subject has two versions or more, the fetch of the latest returns, and every check
returns an incompatible result without messages, `_check_single_subject` reports the subject
incompatible with the single message `"All versions compatible"`, and no error. -/
theorem checkSingleSubject_of_silentChecks (registry : Backend) (subject : String)
    (targetMode : CompatibilityMode) (versions : List Int)
    (hlist : registry.behaviour registry.calls (.listVersions subject) = .ok versions)
    (hlen : 2 ≤ versions.length)
    (hfetch : ∀ calls version, ∃ latest : Schema,
      registry.behaviour calls (.getSchemaBySubjectVersion subject version) = .ok latest)
    (hcheck : ∀ calls schemaContent schemaFormat version, ∃ result : CompatibilityResult,
      registry.behaviour calls (.checkCompatibility subject schemaContent schemaFormat version) =
        .ok result ∧ result.isCompatible = false ∧ result.messages = []) :
    (checkSingleSubject registry subject targetMode).1 =
      ⟨false, ["All versions compatible"], targetMode, []⟩ := by
  have hne : versions ≠ [] := List.ne_nil_of_length_pos (by omega)
  obtain ⟨latest, hlatest⟩ := hfetch (registry.calls ++ [.listVersions subject])
    (versions.getLast hne)
  set b : Backend := ⟨registry.oid, registry.calls ++
    [.listVersions subject, .getSchemaBySubjectVersion subject (versions.getLast hne)],
    registry.behaviour⟩
  set outcomes := checkOutcomes subject latest versions.dropLast b
  have hsilent : ∀ o ∈ outcomes, passed o.2 = false ∧ failureMessages o.1 o.2 = [] := by
    intro o ho
    obtain ⟨calls, hcalls⟩ := mem_checkOutcomes ho
    obtain ⟨result, hresult, hc, hm⟩ :=
      hcheck calls latest.schemaContent latest.schemaFormat (some o.1)
    simp [hcalls, checkCall, hresult, passed, failureMessages, hc, hm]
  have houtcomes : outcomes ≠ [] := by
    have := congrArg List.length (checkOutcomes_fst subject latest versions.dropLast b)
    intro h
    simp only [outcomes] at h
    simp [h, List.length_dropLast] at this
    omega
  have hobserve : observe registry subject =
      .checked (versions.getLast hne) versions.dropLast latest outcomes := by
    simp [observe, Backend.invoke, hlist, show ¬versions.length < 2 by omega, hlatest, b, outcomes]
  rw [checkSingleSubject_eq, hobserve]
  obtain ⟨o, ho⟩ := List.exists_mem_of_ne_nil outcomes houtcomes
  simp only [SubjectRun.result, SubjectRun.failureMessages, List.flatMap_eq_nil_iff.mpr
    fun o ho => (hsilent o ho).2, ite_true, CompatibilityResult.mk.injEq, and_true]
  exact List.all_eq_false.mpr ⟨o, ho, by simp [(hsilent o ho).1]⟩

/-- A backend whose subjects have versions `1` and `2` and whose compatibility checks return an
incompatible result with no messages, as Confluent's `check_compatibility` does when its request
fails. -/
def silentFailureRegistry : Backend where
  oid := 0
  calls := []
  behaviour := fun _ c => match c with
    | .listVersions _ => .ok [1, 2]
    | .getSchemaBySubjectVersion subject version =>
      .ok ⟨subject, version, .avro, "\"string\"", .confluent, .none, [], .none, .none⟩
    | .checkCompatibility .. => .ok ⟨false, [], .none, ["503 Server Error: Service Unavailable"]⟩
    | _ => .error ⟨.notImplementedError, ""⟩

/-- There `_check_single_subject` reports the subject incompatible with the single message
`"All versions compatible"` and no error. -/
theorem allVersionsCompatible_of_silentFailure :
    (checkSingleSubject silentFailureRegistry "orders-value" .backward).1 =
      ⟨false, ["All versions compatible"], .backward, []⟩ := by
  decide

end SchemaFederation.Core

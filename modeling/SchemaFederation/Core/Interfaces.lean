import SchemaFederation.Core.Models

/-!
# The registry capability contract

`src/core/interfaces.py`: `ISchemaRegistry`. A live backend is an object whose methods talk to a
remote registry. Its model (`Backend`) is the object's identity, the calls it has received so
far, and its behaviour: what each call returns or raises, as any function of the calls made on
it before. Every statement over all backends therefore covers every registry, stateful or not,
failing at any call.

`Backend.invoke` makes one call: the behaviour answers it and the call is appended to the
backend's calls (`invoke_calls`). Each method of the contract has a wrapper under its source name
(`Backend.listVersions` and so on), so that the orchestrator reads as the source does. The return
types are the ones the contract declares.
-/

namespace SchemaFederation.Core

open Python

/-- A method call on a backend, with its arguments. -/
inductive Call where
  | getRegistryType
  | getSupportedFormats
  | registerSchema (subject schemaContent : String) (schemaFormat : SchemaFormat)
      (metadata : Option (List (String × JsonValue)))
  | getSchemaById (schemaId : Int)
  | getSchemaBySubjectVersion (subject : String) (version : Int)
  | getLatestSchema (subject : String)
  | listSubjects (pfx : Option String)
  | listVersions (subject : String)
  | deleteSchemaVersion (subject : String) (version : Int)
  | checkCompatibility (subject schemaContent : String) (schemaFormat : SchemaFormat)
      (version : Option Int)
  | getCompatibilityMode (subject : Option String)
  | setCompatibilityMode (mode : CompatibilityMode) (subject : Option String)
  | getAllCompatibilityModes
  | discoverSchemas (nspace : Option String) (filters : Option (List (String × JsonValue)))
  | healthCheck
  | getMetadata (subject : String) (version : Int)
  | updateMetadata (subject : String) (version : Int) (metadata : List (String × JsonValue))

/-- What a call returns when it does not raise. -/
def Call.Response : Call → Type
  | .getRegistryType => RegistryType
  | .getSupportedFormats => List SchemaFormat
  | .registerSchema .. => Schema
  | .getSchemaById _ => Schema
  | .getSchemaBySubjectVersion .. => Schema
  | .getLatestSchema _ => Schema
  | .listSubjects _ => List String
  | .listVersions _ => List Int
  | .deleteSchemaVersion .. => Bool
  | .checkCompatibility .. => CompatibilityResult
  | .getCompatibilityMode _ => CompatibilityMode
  | .setCompatibilityMode .. => Bool
  | .getAllCompatibilityModes => Dict String CompatibilityMode
  | .discoverSchemas .. => List Schema
  | .healthCheck => HealthStatus
  | .getMetadata .. => List (String × JsonValue)
  | .updateMetadata .. => Bool

/-- What each call returns or raises, given the calls made on the backend before it. -/
def Behaviour : Type := List Call → (c : Call) → Except PyException c.Response

/-- A live backend instance. -/
structure Backend where
  /-- The object's identity. -/
  oid : Nat
  /-- The calls the object has received, oldest first. -/
  calls : List Call
  behaviour : Behaviour

namespace Backend

/-- One method call: the backend answers it and records it. -/
def invoke (b : Backend) (c : Call) : Except PyException c.Response × Backend :=
  (b.behaviour b.calls c, { b with calls := b.calls ++ [c] })

@[simp] theorem invoke_snd (b : Backend) (c : Call) :
    (b.invoke c).2 = { b with calls := b.calls ++ [c] } :=
  rfl

@[simp] theorem invoke_fst (b : Backend) (c : Call) : (b.invoke c).1 = b.behaviour b.calls c :=
  rfl

@[simp] theorem invoke_calls (b : Backend) (c : Call) : (b.invoke c).2.calls = b.calls ++ [c] :=
  rfl

@[simp] theorem invoke_oid (b : Backend) (c : Call) : (b.invoke c).2.oid = b.oid := rfl

@[simp] theorem invoke_behaviour (b : Backend) (c : Call) :
    (b.invoke c).2.behaviour = b.behaviour := rfl

/-- `registry.get_registry_type()`. -/
@[simp] def getRegistryType (b : Backend) : Except PyException RegistryType × Backend :=
  b.invoke .getRegistryType

/-- `registry.get_supported_formats()`. -/
@[simp] def getSupportedFormats (b : Backend) : Except PyException (List SchemaFormat) × Backend :=
  b.invoke .getSupportedFormats

/-- `registry.get_schema_by_subject_version(subject, version)`. -/
@[simp] def getSchemaBySubjectVersion (b : Backend) (subject : String) (version : Int) :
    Except PyException Schema × Backend :=
  b.invoke (.getSchemaBySubjectVersion subject version)

/-- `registry.get_latest_schema(subject)`. -/
@[simp] def getLatestSchema (b : Backend) (subject : String) :
    Except PyException Schema × Backend :=
  b.invoke (.getLatestSchema subject)

/-- `registry.list_subjects(prefix=pfx)`. -/
@[simp] def listSubjects (b : Backend) (pfx : Option String) :
    Except PyException (List String) × Backend :=
  b.invoke (.listSubjects pfx)

/-- `registry.list_versions(subject)`. -/
@[simp] def listVersions (b : Backend) (subject : String) :
    Except PyException (List Int) × Backend :=
  b.invoke (.listVersions subject)

/-- `registry.check_compatibility(subject=…, schema_content=…, schema_format=…, version=…)`. -/
@[simp] def checkCompatibility (b : Backend) (subject schemaContent : String)
    (schemaFormat : SchemaFormat) (version : Option Int) :
    Except PyException CompatibilityResult × Backend :=
  b.invoke (.checkCompatibility subject schemaContent schemaFormat version)

/-- `registry.get_compatibility_mode(subject)`. -/
@[simp] def getCompatibilityMode (b : Backend) (subject : Option String) :
    Except PyException CompatibilityMode × Backend :=
  b.invoke (.getCompatibilityMode subject)

/-- `registry.set_compatibility_mode(mode, subject)`. -/
@[simp] def setCompatibilityMode (b : Backend) (mode : CompatibilityMode)
    (subject : Option String) : Except PyException Bool × Backend :=
  b.invoke (.setCompatibilityMode mode subject)

/-- `registry.get_all_compatibility_modes()`. -/
@[simp] def getAllCompatibilityModes (b : Backend) :
    Except PyException (Dict String CompatibilityMode) × Backend :=
  b.invoke .getAllCompatibilityModes

/-- `registry.health_check()`. -/
@[simp] def healthCheck (b : Backend) : Except PyException HealthStatus × Backend :=
  b.invoke .healthCheck

end Backend

end SchemaFederation.Core

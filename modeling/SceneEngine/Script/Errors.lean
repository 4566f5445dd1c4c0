import SceneEngine.Log
import SceneEngine.Script.Document
import SceneEngine.Shading.CompileError
import SceneEngine.Store.Schema
import SceneEngine.Store.StoreError

/-!
# Errors in scripts

An error is shown by the name of its kind and its message.  The kind is for tools to decide by, the
message for people to read; what the error carries besides is in the message.
-/

namespace SceneEngine.Script

open Shading (CompileError)

/-- Shows an error, of whatever family it is. -/
def showError (kind message : String) : Json :=
  .object [("error", .string kind), ("message", .string message)]

/-- The kind of a compile error, without what it carries. -/
def compileErrorKind : CompileError → String
  | .malformedTree _ => "MalformedTree"
  | .malformedNode _ _ => "MalformedNode"
  | .duplicateNode _ => "DuplicateNode"
  | .unknownNodeType _ _ => "UnknownNodeType"
  | .unknownNode _ => "UnknownNode"
  | .unknownSocket _ _ => "UnknownSocket"
  | .danglingLink _ _ => "DanglingLink"
  | .duplicateLink _ _ => "DuplicateLink"
  | .typeMismatch _ _ _ _ => "TypeMismatch"
  | .cycle _ => "Cycle"
  | .unknownFragment _ => "UnknownLibrary"
  | .missingRoot => "MissingRoot"
  | .duplicateRoot _ => "DuplicateRoot"
  | .invalidProperty _ _ _ => "InvalidProperty"

/-- Shows a compile error. -/
def showCompileError (e : CompileError) : Json := showError (compileErrorKind e) e.message

/-- The kind of an error in declarations. -/
def schemaErrorKind : SchemaError → String
  | .duplicateComponent _ => "DuplicateComponent"
  | .emptyName => "EmptyName"
  | .tooManyComponents _ => "TooManyComponents"

/-- Shows an error in declarations. -/
def showSchemaError (e : SchemaError) : Json := showError (schemaErrorKind e) e.message

/-- The kind of a store error; that of a query is marked as such. -/
def storeErrorKind : StoreError → String
  | .unknownComponent _ => "UnknownComponent"
  | .foreignComponent _ _ => "ForeignComponent"
  | .unknownEntity _ => "UnknownEntity"
  | .missingComponent _ _ => "MissingComponent"
  | .singletonViolation _ _ => "SingletonViolation"
  | .unknownHandle _ => "UnknownHandle"
  | .query (.unknownComponent _) => "Query.UnknownComponent"
  | .query (.overlap _) => "Query.Overlap"

/-- Shows a store error. -/
def showStoreError (e : StoreError) : Json := showError (storeErrorKind e) e.message

/-- The word for a severity. -/
def severityWord : Severity → String
  | .warning => "warn"
  | .error => "error"

/-- Shows log entries, each with the word for its severity. -/
def showLog (log : Log) : Json :=
  list (fun e => list .string [severityWord e.severity, e.text]) log

end SceneEngine.Script

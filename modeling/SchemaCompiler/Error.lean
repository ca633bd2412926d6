import SchemaCompiler.Json.Decode
import SchemaCompiler.Json.Fault
import SchemaCompiler.Migration.Basic

/-!
# Errors

All ways in which an operation of the library can fail, with one wording each.  The constructors keep
the parts of the library apart; their messages put the name of the part in front.
-/

namespace SchemaCompiler

/-- Failures of settings. -/
inductive SettingsError where
  | unreadable (path : String)
  | malformed
  | unknownFormat (path : String)
  deriving DecidableEq, Repr

/-- The error in words. -/
def SettingsError.message : SettingsError → String
  | .unreadable path => "Failed to read config file " ++ path
  | .malformed => "Failed to parse config file"
  | .unknownFormat path =>
    "Cannot tell the format of schema file " ++ path ++ "; use .toml, .yaml or .json"

/-- Failures while a document is read: its text is malformed, or its content does not fit. -/
inductive DocumentError where
  /-- A text in TOML or YAML does not follow its grammar.  What its reader says about the place and the cause
  is not kept. -/
  | malformed
  | malformedJson (cause : Json.ReadError)
  | unfit (cause : DecodeError)
  deriving Repr

/-- The error in words. -/
def DocumentError.message : DocumentError → String
  | .malformed => "malformed document"
  | .malformedJson cause => cause.message
  | .unfit cause => cause.message

/-- A failure of an operation. -/
inductive Error where
  | schema (e : SchemaError)
  | validation (es : List SchemaError)
  | migration (e : MigrationError)
  | generation (e : GenerationError)
  | settings (e : SettingsError)
  /-- A file cannot be read or written. -/
  | files
  | document (e : DocumentError)
  /-- No number is left for another migration. -/
  | versionsExhausted
  deriving Repr

/-- The error in words. -/
def Error.message : Error → String
  | .schema e => "Schema error: " ++ e.message
  | .validation es =>
    "Schema validation failed with " ++ Text.decimal es.length ++ " error(s):\n"
      ++ "\n".intercalate (es.map fun e => "  - " ++ e.message)
  | .migration e => "Migration error: " ++ e.message
  | .generation e => "Generation error: " ++ e.message
  | .settings e => "Configuration error: " ++ e.message
  | .files => "IO error"
  | .document e => "Serialization error: " ++ e.message
  | .versionsExhausted => "attempt to add with overflow"

/-- The faults of a schema that an error carries. -/
def Error.schemaErrors : Error → List SchemaError
  | .schema e => [e]
  | .validation es => es
  | _ => []

/-! ## Failures of parts as failures of the whole -/

/-- A schema's fault as a failure of an operation. -/
def liftSchema {α : Type} (x : Except SchemaError α) : Except Error α := x.mapError .schema

/-- A migration's fault as a failure of an operation. -/
def liftMigration {α : Type} (x : Except MigrationError α) : Except Error α := x.mapError .migration

/-- A fault of generation as a failure of an operation. -/
def liftGeneration {α : Type} (x : Except GenerationError α) : Except Error α :=
  x.mapError .generation

/-- Refuses with all the given faults, unless there are none. -/
def refuseFaulty : List SchemaError → Except Error Unit
  | [] => .ok ()
  | es => .error (.validation es)

end SchemaCompiler

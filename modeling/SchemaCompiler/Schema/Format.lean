import SchemaCompiler.Files.Path
import SchemaCompiler.Schema.Document
import SchemaCompiler.Toml.Parser
import SchemaCompiler.Yaml.Value

/-!
# Formats of schema documents

A schema document is written in TOML, YAML or JSON; the ending of its file's name says which.  All three
are read as JSON, and only then as a document.

* `DocumentFormat.ofPath` — the format of a file.
* `DocumentFormat.toJson` — a text in the common form.
* `SchemaDocument.parse` — a document.
-/

namespace SchemaCompiler

/-- A format of documents. -/
inductive DocumentFormat where
  | toml
  | yaml
  | json
  deriving DecidableEq, Repr

/-- The format that the ending of a file's name stands for, in any case. -/
def DocumentFormat.ofPath (path : String) : Except SettingsError DocumentFormat :=
  match (Files.extension? path).map Text.toLowercase with
  | some "toml" => .ok .toml
  | some "yaml" | some "yml" => .ok .yaml
  | some "json" => .ok .json
  | _ => .error (.unknownFormat path)

/-- A text as JSON.  Numbers that JSON does not have are null. -/
def DocumentFormat.toJson : DocumentFormat → String → Except DocumentError Json
  | .toml, text =>
    match Toml.parse text with
    | some table => .ok (table.toJson .null)
    | none => .error .malformed
  | .yaml, text =>
    match Yaml.parse text with
    | some value => .ok value
    | none => .error .malformed
  | .json, text => (Json.parse text).mapError .malformedJson

/-- The document that a text describes. -/
def SchemaDocument.parse (format : DocumentFormat) (text : String) :
    Except Error SchemaDocument := do
  SchemaDocument.ofJson (← (format.toJson text).mapError .document)

/-- The settings that a text describes.  A number that JSON does not have is no value of any setting. -/
def Settings.parse (text : String) : Except Error Settings :=
  match Toml.parse text with
  | none => .error (.settings .malformed)
  | some table => (Settings.decode (table.toJson (.float (.zero false)))).mapError fun _ =>
    .settings .malformed

end SchemaCompiler

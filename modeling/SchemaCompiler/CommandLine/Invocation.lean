import SchemaCompiler.CommandLine.Words

/-!
# Commands

What the program can be asked for, and the command lines that ask for it.

* `Command`, `Invocation` — a command, and the files that it is about.
* `Invocation.parse` — what a command line asks for.
* `usage` — the commands and their options in words.
-/

namespace SchemaCompiler.CommandLine

/-! ## Commands -/

/-- A command. -/
inductive Command where
  /-- Writes the text that creates the schema, and its diagram. -/
  | renderSchema
  /-- Writes the next migration; the renames are given as they were written. -/
  | createMigration (name : String) (allowDestructive : Bool) (tables columns : List String)
  /-- Writes the access code of one table, or of all. -/
  | generateAccess (table : Option String)
  /-- Lists the faults of the schema. -/
  | check
  deriving DecidableEq, Repr

/-- The place of the settings, unless another one is named. -/
def defaultSettings : String := "schema_architect.toml"

/-- The place of the schema, unless another one is named. -/
def defaultSchema : String := "schema.toml"

/-- A command and the files that it is about. -/
structure Invocation where
  settings : String := defaultSettings
  schema : String := defaultSchema
  command : Command
  deriving DecidableEq, Repr

/-! ## Levels -/

/-- The options of every level. -/
def sharedOptions : List OptionForm := [
  { name := "config", letter := some 'c', rule := .value false false },
  { name := "schema", letter := some 's', rule := .value false false },
  { name := "help", letter := some 'h', rule := .request .help }]

/-- The outermost level. -/
def outermost : Level where
  options := sharedOptions ++
    [{ name := "version", letter := some 'V', rule := .request .version }]
  commands := ["schema", "migration", "repository", "check", "help"]

/-- The level of a command without options or operands of its own. -/
def plainLevel : Level where
  options := sharedOptions

/-- The level of the commands about migrations. -/
def migrationLevel : Level where
  options := sharedOptions
  commands := ["create", "help"]

/-- The level of a new migration. -/
def creationLevel : Level where
  options := sharedOptions ++ [
    { name := "allow-destructive", rule := .switch },
    { name := "rename-table", rule := .value true true },
    { name := "rename-column", rule := .value true true }]
  operands := 1

/-- The level of access code. -/
def accessLevel : Level where
  options := sharedOptions
  operands := 1

/-! ## Reading a command line -/

/-- A command that ends a command line, on top of what the levels above it say. -/
def finish (above : Said) (level : Level) (words : List String)
    (command : Said → Except Refusal Command) : Except Refusal Invocation := do
  let (own, _) ← level.read {} words
  let said := above.append own
  return {
    settings := (said.last? "config").getD defaultSettings
    schema := (said.last? "schema").getD defaultSchema
    command := ← command own }

/-- Asking for help about the command that the words lead to. -/
def explain (topics : List (List String)) (words : List String) : Refusal :=
  if topics.contains words then .help else .misuse

/-- A new migration. -/
def creation (said : Said) : Except Refusal Command :=
  match said.operands with
  | [name] =>
    .ok (.createMigration name (said.has "allow-destructive") (said.all "rename-table")
      (said.all "rename-column"))
  | _ => .error .misuse

/-- What a command line asks for. -/
def Invocation.parse (words : List String) : Except Refusal Invocation := do
  let (top, next) ← outermost.read {} words
  match next with
  | some ("schema", rest) => finish top plainLevel rest fun _ => .ok .renderSchema
  | some ("check", rest) => finish top plainLevel rest fun _ => .ok .check
  | some ("repository", rest) =>
    finish top accessLevel rest fun said => .ok (.generateAccess said.operands.head?)
  | some ("migration", rest) =>
    let (inner, next) ← migrationLevel.read {} rest
    match next with
    | some ("create", rest) => finish (top.append inner) creationLevel rest creation
    | some (_, rest) => .error (explain [[], ["create"], ["help"]] rest)
    | none => .error .misuse
  | some (_, rest) =>
    .error (explain
      [[], ["schema"], ["check"], ["repository"], ["migration"], ["migration", "create"], ["help"]]
      rest)
  | none => .error .misuse

/-- The commands and their options in words. -/
def usage : List String := [
  "Usage: schema_architect [OPTIONS] COMMAND",
  "",
  "Commands:",
  "  schema                 write the statements that create the schema, and its diagram",
  "  migration create NAME  write the next migration",
  "  repository [TABLE]     write typed access code for one table, or for all",
  "  check                  list the faults of the schema",
  "",
  "Options:",
  "  -c, --config FILE      the settings (" ++ defaultSettings ++ ")",
  "  -s, --schema FILE      the schema (" ++ defaultSchema ++ ")",
  "",
  "Options of a new migration:",
  "  --allow-destructive    allow actions that lose data",
  "  --rename-table OLD=NEW",
  "  --rename-column TABLE.OLD=NEW"]

end SchemaCompiler.CommandLine

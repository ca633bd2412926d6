import SchemaCompiler.Text.LetterCase

/-!
# Reserved words

Names that mean something else where they would be written bare.  A reserved word of SQL is quoted, a
reserved word of a target language is respelled when it would name a field or an argument.

* `sqlKeywords` — compared in any case, by full case conversion.
* `rustKeywords`, `typeScriptKeywords` — compared as they are.
-/

namespace SchemaCompiler.Naming

/-- Words that SQLite may take for a part of the statement. -/
def sqlKeywords : List String := [
  "add", "all", "alter", "and", "as", "asc", "autoincrement", "between", "by", "case", "cascade",
  "check", "collate", "column", "commit", "constraint", "create", "cross", "default", "delete",
  "desc", "distinct", "drop", "else", "end", "escape", "except", "exists", "foreign", "from",
  "full", "group", "having", "if", "in", "index", "inner", "insert", "intersect", "into", "is",
  "join", "key", "left", "like", "limit", "natural", "not", "null", "offset", "on", "or", "order",
  "outer", "pragma", "primary", "references", "rename", "replace", "returning", "right", "rowid",
  "select", "set", "table", "then", "to", "transaction", "trigger", "union", "unique", "update",
  "using", "values", "view", "when", "where", "with"]

/-- Reserved words of Rust. -/
def rustKeywords : List String := [
  "as", "async", "await", "break", "const", "continue", "crate", "dyn", "else", "enum", "extern",
  "false", "fn", "for", "if", "impl", "in", "let", "loop", "match", "mod", "move", "mut", "pub",
  "ref", "return", "self", "Self", "static", "struct", "super", "trait", "true", "type", "unsafe",
  "use", "where", "while"]

/-- Words of TypeScript that cannot name a parameter. -/
def typeScriptKeywords : List String := [
  "break", "case", "catch", "class", "const", "continue", "debugger", "default", "delete", "do",
  "else", "enum", "export", "extends", "false", "finally", "for", "function", "if", "import", "in",
  "instanceof", "new", "null", "return", "super", "switch", "this", "throw", "true", "try",
  "typeof", "var", "void", "while", "with", "let", "static", "yield", "await", "implements",
  "interface", "package", "private", "protected", "public"]

/-- Whether a name is a reserved word of SQL, in any case. -/
def isSqlKeyword (name : String) : Bool := sqlKeywords.contains (Text.toLowercase name)

/-- Whether a name is a reserved word of Rust. -/
def isRustKeyword (name : String) : Bool := rustKeywords.contains name

/-- Whether a name is reserved in TypeScript. -/
def isTypeScriptKeyword (name : String) : Bool := typeScriptKeywords.contains name

end SchemaCompiler.Naming

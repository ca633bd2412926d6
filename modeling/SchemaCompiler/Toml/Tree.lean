import SchemaCompiler.Toml.Basic
import SchemaCompiler.Toml.Text

/-!
# The table that a document builds

The statements of a document are carried out one after the other on a growing table.  A header opens
a section; the keys of the following lines lead on from there.

What exists may only grow in the way it began.  A header may not name a table twice, but it may name one
that so far only lay on the way to others.  A dotted key may lead through tables that dotted keys or the
ways of headers brought, not through one with a header of its own, and it puts its value only into a
table that dotted keys brought.

* `within` — changes the table at the end of a path.
* `assign` — gives a key a value.
* `Statement`, `build` — statements, and the table that a list of them builds.
-/

namespace SchemaCompiler.Toml

/-- The fields of a table in the order in which they came. -/
abbrev Fields := List (String × Toml)

/-- The fields with one of them replaced or added at the end. -/
def setField (key : String) (value : Toml) : Fields → Fields
  | [] => [(key, value)]
  | (k, v) :: rest => if k = key then (key, value) :: rest else (k, v) :: setField key value rest

/-- A change of a table, which may depend on how the table came to be. -/
abbrev Edit := Origin → Fields → Option Fields

/-- Changes the table at the end of a path.  Tables that the path misses are made with the origin
`fresh`; an array of tables is entered at its last element.  A path of a dotted key is not let through a
table with a header. -/
def within (fresh : Origin) (edit : Edit) : List String → Edit
  | [], origin, fields => edit origin fields
  | key :: path, _, fields =>
    match fields.lookup key with
    | none =>
      (within fresh edit path fresh []).map fun inner => setField key (.table fresh inner) fields
    | some (.table origin inner) =>
      if fresh = .dotted && origin = .header then none
      else
        (within fresh edit path origin inner).map fun inner =>
          setField key (.table origin inner) fields
    | some (.tables elements) => do
      let inner ← within fresh edit path .header (← elements.getLast?)
      return setField key (.tables (elements.dropLast ++ [inner])) fields
    | some _ => none

/-- Gives a name a value in a table, unless the name is taken. -/
def assignHere (name : String) (value : Toml) (fields : Fields) : Option Fields :=
  if (fields.lookup name).isSome then none else some (setField name value fields)

/-- Gives a name a value at the end of a path of a dotted key, which has to be a table that dotted keys
brought. -/
def assignDotted (name : String) (value : Toml) : Edit
  | .dotted, fields => assignHere name value fields
  | _, _ => none

/-- Gives a key a value. -/
def assign (fields : Fields) : Key × Toml → Option Fields
  | (⟨[], name⟩, value) => assignHere name value fields
  | (⟨parents, name⟩, value) =>
    within .dotted (assignDotted name value) parents .header fields

/-- Opens a table with a header. -/
def openTable (name : String) (fields : Fields) : Option Fields :=
  match fields.lookup name with
  | none => some (setField name (.table .header []) fields)
  | some (.table .implied inner) => some (setField name (.table .header inner) fields)
  | some _ => none

/-- Opens one more element of an array of tables. -/
def openElement (name : String) (fields : Fields) : Option Fields :=
  match fields.lookup name with
  | none => some (setField name (.tables [[]]) fields)
  | some (.tables elements) => some (setField name (.tables (elements ++ [[]])) fields)
  | some _ => none

/-- A statement of a document. -/
inductive Statement where
  /-- Names a table. -/
  | header (key : Key)
  /-- Names an array of tables, of which a new element begins. -/
  | element (key : Key)
  /-- Gives a key a value. -/
  | pair (key : Key) (value : Toml)

/-- A document that is being read: its table, and the path of the table whose
header came last. -/
structure Progress where
  fields : Fields := []
  location : List String := []

/-- Carries a statement out. -/
def Progress.step (p : Progress) : Statement → Option Progress
  | .header key => do
    let fields ← within .implied (fun _ => openTable key.name) key.parents .header p.fields
    return ⟨fields, key.parents ++ [key.name]⟩
  | .element key => do
    let fields ← within .implied (fun _ => openElement key.name) key.parents .header p.fields
    return ⟨fields, key.parents ++ [key.name]⟩
  | .pair key value => do
    let fields ←
      within .implied (fun _ fields => assign fields (key, value)) p.location .header p.fields
    return { p with fields := fields }

/-- The fields of the table that a list of statements builds. -/
def build (statements : List Statement) : Option Fields :=
  (statements.foldlM Progress.step {}).map (·.fields)

/-- The table with the given fields. -/
def ofFields (fields : Fields) : Toml := .table .header fields

end SchemaCompiler.Toml

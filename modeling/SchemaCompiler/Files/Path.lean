import SchemaCompiler.Text.Basic

/-!
# Paths

A path is a text whose names are separated by slashes.  It is kept as it was written, since it is shown
that way; where it leads, only the sequence of its names decides.

* `join` — a path below another one.
* `names` — the names that a path is made of.
* `sameNames` — whether two paths are made of the same names.
* `fileName?`, `extension?` — the last name, and what stands behind its last point.
-/

namespace SchemaCompiler.Files

/-- Whether a path begins at the root. -/
def isAbsolute (path : String) : Bool := path.toList.head? == some '/'

/-- Whether a path ends in a slash. -/
def endsInSlash (path : String) : Bool := path.toList.getLast? == some '/'

/-- A path below another one; a path that begins at the root stays as it is. -/
def join (base path : String) : String :=
  if isAbsolute path || base.isEmpty then path
  else if endsInSlash base then base ++ path
  else base ++ "/" ++ path

/-- The part of a path in front of its last slash. -/
def parent (path : String) : String :=
  String.ofList (path.toList.reverse.dropWhile (· != '/')).tail.reverse

/-- The names in a path, without empty ones and without those that stay where they are. -/
def names (path : String) : List String :=
  (Text.pieces '/' path).filter fun name => !(name.isEmpty || name == ".")

/-- Whether two paths are written with the same names. -/
def sameNames (a b : String) : Bool :=
  let leading (path : String) : Bool := (Text.pieces '/' path).head? == some "."
  isAbsolute a == isAbsolute b && leading a == leading b && names a == names b

/-- The last name in a path. -/
def fileName? (path : String) : Option String := (names path).getLast?.filter (· != "..")

/-- What stands behind the last point of the last name; a point at its front does not count. -/
def extension? (path : String) : Option String := do
  let name ← fileName? path
  match (Text.pieces '.' name).reverse with
  | ending :: before :: earlier => if earlier.isEmpty && before.isEmpty then none else return ending
  | _ => none

end SchemaCompiler.Files

import SchemaCompiler.Files.Path

/-!
# Files

The operations that the library needs of the place where files are kept, and a place that is a plain
value: a tree of files by the names that lead to them.

* `MonadFiles` — the operations.
* `FileTree` — files and directories as a value.
* `FileTree.read?`, `FileTree.write`, `FileTree.entries?` — the operations on a tree.
-/

namespace SchemaCompiler

/-- A place where files are kept.  What goes wrong there is not told apart. -/
class MonadFiles (m : Type → Type) where
  /-- The text of a file. -/
  readText : String → m (Option String)
  /-- Whether there is anything under a path. -/
  pathExists : String → m Bool
  /-- The names in a directory, in any order. -/
  entries : String → m (Option (List String))
  /-- Writes a file and makes the directories on the way to it; whether that was possible. -/
  writeText : String → String → m Bool

/-- Where an operation can fail, files are kept in the same place. -/
instance {ε : Type} {m : Type → Type} [Monad m] [MonadFiles m] : MonadFiles (ExceptT ε m) where
  readText path := ExceptT.lift (MonadFiles.readText path)
  pathExists path := ExceptT.lift (MonadFiles.pathExists path)
  entries path := ExceptT.lift (MonadFiles.entries path)
  writeText path text := ExceptT.lift (MonadFiles.writeText path text)

/-- Files and directories by the names that lead to them. -/
structure FileTree where
  files : List (List String × String) := []
  directories : List (List String) := []
  deriving DecidableEq, Repr

namespace FileTree

open Files

/-! ## Places -/

/-- The most bytes that a name may have. -/
def longestName : Nat := 255

/-- The most bytes that a path may have. -/
def longestPath : Nat := 4095

/-- Whether a text can be a path at all. -/
def isUsable (path : String) : Bool :=
  !path.isEmpty && !path.toList.contains '\x00' && path.utf8ByteSize ≤ longestPath

/-- Where a path begins. -/
def start (path : String) : List String := if isAbsolute path then ["/"] else []

/-- One step back; there is no way back from the root, and behind the directory that the tree itself
stands for lies another one. -/
def stepBack (place : List String) : List String :=
  if place.all (· == "..") then place ++ [".."]
  else if place = ["/"] then place
  else place.dropLast

/-- The text of the file at a place. -/
def fileAt? (t : FileTree) (place : List String) : Option String := t.files.lookup place

/-- Whether there is a directory at a place. -/
def isDirectory (t : FileTree) (place : List String) : Bool :=
  place == ["/"] || place.all (· == "..") || t.directories.contains place

/-- The place that names lead to.  Only out of a directory is there a step back. -/
def walk (t : FileTree) (place : List String) : List String → Option (List String)
  | [] => some place
  | ".." :: rest => if t.isDirectory place then walk t (stepBack place) rest else none
  | name :: rest => walk t (place ++ [name]) rest

/-- The place that a path leads to. -/
def place? (t : FileTree) (path : String) : Option (List String) :=
  if isUsable path then t.walk (start path) (names path) else none

/-- Whether the last part of a path names a file. -/
def namesFile (path : String) : Bool :=
  match (Text.pieces '/' path).getLast? with
  | some last => !(last.isEmpty || last == "." || last == "..")
  | none => false

/-! ## Reading -/

/-- The text of a file. -/
def read? (t : FileTree) (path : String) : Option String :=
  if namesFile path then (t.place? path).bind t.fileAt? else none

/-- Whether there is anything under a path. -/
def holds (t : FileTree) (path : String) : Bool :=
  (t.place? path).any t.isDirectory || (t.read? path).isSome

/-- The last name of a place, if the place lies right in a directory. -/
def nameIn? (directory place : List String) : Option String :=
  if place.dropLast = directory then place.getLast? else none

/-- The names in a directory. -/
def entries? (t : FileTree) (path : String) : Option (List String) := do
  let place ← t.place? path
  if t.isDirectory place then
    return (t.files.map (·.1) ++ t.directories).filterMap (nameIn? place)
  else none

/-! ## Writing -/

/-- Makes a directory, unless it is there. -/
def makeDirectory (t : FileTree) (place : List String) : Option FileTree :=
  if t.isDirectory place then some t
  else if (t.fileAt? place).isSome || place.any (·.utf8ByteSize > longestName) then none
  else some { t with directories := t.directories ++ [place] }

/-- Follows names and makes every directory on the way, as far as possible; the place that is reached
at the end. -/
def makeWay (t : FileTree) (place : List String) : List String → FileTree × Option (List String)
  | [] => (t, some place)
  | ".." :: rest => makeWay t (stepBack place) rest
  | name :: rest =>
    match t.makeDirectory (place ++ [name]) with
    | some t => makeWay t (place ++ [name]) rest
    | none => (t, none)

/-- Puts a text at a place; a file that is there already is replaced. -/
def setFile (place : List String) (text : String) :
    List (List String × String) → List (List String × String)
  | [] => [(place, text)]
  | (p, old) :: rest => if p = place then (place, text) :: rest else (p, old) :: setFile place text rest

/-- The tree with a file in a directory, unless the name is too long or that of a directory. -/
def putFile (t : FileTree) (directory : List String) (name text : String) : Option FileTree :=
  let place := directory ++ [name]
  if t.isDirectory place || name.utf8ByteSize > longestName then none
  else some { t with files := setFile place text t.files }

/-- Writes a file and makes the directories on the way to it, which stay even if the file cannot be
written. -/
def write (t : FileTree) (path text : String) : FileTree × Bool :=
  if !isUsable path then (t, false)
  else
    match t.makeWay (start path) (names path).dropLast with
    | (t, none) => (t, false)
    | (t, some directory) =>
      match (if namesFile path then (names path).getLast? else none).bind
          (t.putFile directory · text) with
      | some t => (t, true)
      | none => (t, false)

/-! ## Listing -/

/-- Whether a place lies in the directory that the tree stands for, at any depth. -/
def isInside (place : List String) : Bool := !(place.head? == some "/" || place.head? == some "..")

/-- The files of a tree by their paths, in ascending order. -/
def listing (t : FileTree) : List (String × String) :=
  ((t.files.filter (isInside ·.1)).map fun (place, text) => ("/".intercalate place, text)).mergeSort
    fun a b => a.1 ≤ b.1

/-- The tree with the given files. -/
def ofList (files : List (String × String)) : FileTree :=
  files.foldl (fun t (path, text) => (t.write path text).1) {}

end FileTree

/-- A tree that is kept as a state is a place where files are kept. -/
instance : MonadFiles (StateM FileTree) where
  readText path := do return (← get).read? path
  pathExists path := do return (← get).holds path
  entries path := do return (← get).entries? path
  writeText path text := do
    let (t, done) := (← get).write path text
    set t
    return done

end SchemaCompiler

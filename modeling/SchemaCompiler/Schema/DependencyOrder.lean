import SchemaCompiler.Schema.Basic

/-!
# The order of dependency

A table can be created once every table that it refers to is there.  The order is found by counting.  Every
table has a count of the tables that it waits for, and a table whose count is zero is ready.  Again and
again the earliest declared of the ready tables is placed, and the tables that depend on it wait for one
table less.  When nothing is ready any more, the tables that still wait lie on a cycle or depend on one.

References of a table to itself do not count, and neither do references to tables outside the schema;
several references to one table count once.  Tables are told apart by their place in the declaration.  A
name refers to the last table that has it after conversion to small letters, which matters only for names
that differ outside ASCII.

* `Schema.position?` — the place of the table that a name refers to.
* `Schema.targets` — the places that the table at a place depends on.
* `Backlog` — how many tables each table waits for, and which tables are ready.
* `placeReady` — the ready tables are placed one by one.
* `Schema.dependencyOrder` — the order, or the tables that are left over.
-/

namespace SchemaCompiler

/-! ## Places -/

/-- Puts a place into an ascending list of places, once. -/
def insertPlace (place : Nat) : List Nat → List Nat
  | [] => [place]
  | p :: rest =>
    if place < p then place :: p :: rest
    else if place = p then p :: rest
    else p :: insertPlace place rest

namespace Schema

/-- The place of the last of the tables, counted from `start` on, that a name refers to. -/
def positionFrom (key : String) : Nat → List Table → Option Nat
  | _, [] => none
  | start, t :: rest =>
    match positionFrom key (start + 1) rest with
    | some place => some place
    | none => if Text.toLowercase t.name = key then some start else none

/-- The place of the table that a name refers to. -/
def position? (s : Schema) (name : String) : Option Nat :=
  positionFrom (Text.toLowercase name) 0 s.tables

/-- The places that the table at `place` depends on, in ascending order. -/
def targets (s : Schema) (place : Nat) (t : Table) : List Nat :=
  ((t.foreignKeys.filterMap fun (_, r) => s.position? r.table).filter (· != place)).foldr insertPlace []

end Schema

/-- A table with its place and the places that it depends on. -/
structure Dependency where
  place : Nat
  table : Table
  targets : List Nat

/-- The tables in declaration order, each with what it depends on. -/
def Schema.dependencies (s : Schema) : List Dependency :=
  s.tables.zipIdx.map fun (t, place) => ⟨place, t, s.targets place t⟩

/-- The places of the tables that depend on the one at `target`, in ascending order. -/
def dependentsOf (dependencies : List Dependency) (target : Nat) : List Nat :=
  (dependencies.filter (·.targets.contains target)).map (·.place)

/-! ## Counting down -/

/-- How far the order has come. -/
structure Backlog where
  /-- For each place, how many tables the one there waits for. -/
  counts : List Nat
  /-- The places of the tables that wait for nothing and have not been placed, in ascending order. -/
  ready : List Nat

/-- The backlog before any table is placed. -/
def Backlog.start (dependencies : List Dependency) : Backlog where
  counts := dependencies.map (·.targets.length)
  ready := (dependencies.filter (·.targets.isEmpty)).map (·.place)

/-- The backlog after one of the tables was placed for which the table at `place` waits. -/
def Backlog.countDown (b : Backlog) (place : Nat) : Backlog :=
  let count := b.counts.getD place 0 - 1
  { counts := b.counts.set place count
    ready := if count = 0 then insertPlace place b.ready else b.ready }

/-- Places the ready tables one by one, at most `fuel` of them, the earliest declared one first; returns
the places in order and the backlog that is left. -/
def placeReady (dependencies : List Dependency) : Nat → Backlog → List Nat × Backlog
  | 0, b => ([], b)
  | fuel + 1, b =>
    match b.ready with
    | [] => ([], b)
    | next :: rest =>
      let (placed, left) := placeReady dependencies fuel
        ((dependentsOf dependencies next).foldl .countDown { b with ready := rest })
      (next :: placed, left)

/-- The tables in an order in which every table follows those that it refers to. -/
def Schema.dependencyOrder (s : Schema) : Except SchemaError (List Table) :=
  let dependencies := s.dependencies
  let (placed, left) := placeReady dependencies s.tables.length (.start dependencies)
  if placed.length < s.tables.length then
    .error (.cyclicForeignKey
      ((dependencies.filter fun d => 0 < left.counts.getD d.place 0).map (·.table.name)))
  else .ok (placed.filterMap fun place => s.tables[place]?)

end SchemaCompiler

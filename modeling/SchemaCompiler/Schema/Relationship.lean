/-!
# Relationships

A relationship states what the foreign keys of two tables amount to.  It adds nothing to the database;
it is checked against the foreign keys and drawn in the diagram.
-/

namespace SchemaCompiler

/-- How the rows of two tables correspond. -/
inductive RelationshipKind where
  | oneToOne
  | oneToMany
  | manyToMany
  | selfReferential
  deriving DecidableEq, Repr

/-- The kind in words. -/
def RelationshipKind.name : RelationshipKind → String
  | .oneToOne => "one-to-one"
  | .oneToMany => "one-to-many"
  | .manyToMany => "many-to-many"
  | .selfReferential => "self-referential"

/-- A stated relationship between two tables. -/
structure Relationship where
  source : String
  target : String
  kind : RelationshipKind
  /-- The table in between of a many-to-many relationship. -/
  through : Option String := none
  deriving DecidableEq, Repr

end SchemaCompiler

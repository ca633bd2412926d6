import SchemaCompiler.Error
import SchemaCompiler.Schema.DependencyOrder
import SchemaCompiler.Sql.Printer

/-!
# The statements that create a schema

A schema is created table by table, every table after those that it refers to and before its own
indexes.  A table by itself is rendered only if it breaks no rule; a whole schema is rendered as it
stands, since it is validated where it is used.
-/

namespace SchemaCompiler

/-- The text that creates a schema. -/
def Schema.ddl (s : Schema) : Except Error String := do
  let order ← liftSchema s.dependencyOrder
  return (← liftGeneration (Sql.renderAll (order.flatMap (·.statements)))) ++ "\n"

/-- The text that creates a table, unless the table breaks a rule. -/
def Table.ddl (t : Table) : Except Error String :=
  match t.errors with
  | e :: _ => .error (.schema e)
  | [] => liftGeneration (Sql.renderAll t.statements)

end SchemaCompiler

import SchemaCompiler.Proofs.Access.Comments
import SchemaCompiler.Proofs.Access.Operations
import SchemaCompiler.Proofs.Migration.Sections
import SchemaCompiler.Proofs.Sql.Comments

/-!
# Comments and code

A comment may say anything, in any number of lines, and may look like a statement, like a declaration or
like the end of a comment.  Whatever it says, a migration runs the same statements and the access code
declares the same types as without it.

* `annotated_renderFile` — the file of a migration, with and without comments.
* `CommentsInert`, **`comments_never_code`** — the same for statements, migrations and access code.
-/

namespace SchemaCompiler

/-! ## Migrations -/

namespace Migration

open Text (pieces Annotated)

/-- The lines of a file that are not blank. -/
lemma inked_renderFile (m : Migration) : Sql.inked m.renderFile = m.headerLines.filter (· != "")
    ++ upMarker :: (Sql.inked m.upSql ++ downMarker :: Sql.inked m.downSql) := by
  have hup : (upMarker != "") = true := by decide
  have hdown : (downMarker != "") = true := by decide
  rw [Sql.inked, pieces_renderFile]
  simp [Sql.inked, hup, hdown]

/-- **The file of a migration** is the file without comments in its sections, and the lines of the
comments. -/
lemma annotated_renderFile {allow : Bool} {version : Nat} {name : String} {actions : List Action}
    {target : Schema} {m : Migration} (h : compileActions allow version name actions target = .ok m) :
    ∃ up down, Sql.renderAll ((actions.flatMap (·.up)).filterMap (·.bare)) = .ok up ∧
      Sql.renderAll ((downStatements actions).filterMap (·.bare)) = .ok down ∧
      Annotated (Sql.IsRemarkOf ((actions.flatMap (·.up) ++ downStatements actions).flatMap (·.remarks)))
        (Sql.inked { m with upSql := up, downSql := down }.renderFile) (Sql.inked m.renderFile) := by
  obtain ⟨-, -, up, down, hup, hdown, rfl⟩ := compileActions_eq_ok_iff.1 h
  rw [liftGeneration_eq_ok_iff] at hup hdown
  obtain ⟨plainUp, hplainUp, hannotatedUp⟩ := Sql.annotated_of_renderAll hup
  obtain ⟨plainDown, hplainDown, hannotatedDown⟩ := Sql.annotated_of_renderAll hdown
  refine ⟨plainUp, plainDown, hplainUp, hplainDown, ?_⟩
  rw [inked_renderFile, inked_renderFile, List.flatMap_append]
  refine (Text.annotated_refl _ _).append (.line _ (Annotated.append ?_ (.line _ ?_)))
  · exact hannotatedUp.mono fun _ hb => hb.of_subset (List.subset_append_left _ _)
  · exact hannotatedDown.mono fun _ hb => hb.of_subset (List.subset_append_right _ _)

end Migration

/-! ## Comments and code -/

open Text (pieces Annotated)

/-- **What becomes of comments**, in statements, migrations and access code. -/
structure CommentsInert : Prop where
  /-- Statements are written as those without comments, and between them stand the lines of the comments. -/
  statements : ∀ statements full, Sql.renderAll statements = .ok full →
    ∃ plain, Sql.renderAll (statements.filterMap (·.bare)) = .ok plain ∧
      Annotated (Sql.IsRemarkOf (statements.flatMap (·.remarks))) (Sql.inked plain) (Sql.inked full)
  /-- So are both sections of the file of a migration. -/
  migrations : ∀ allow version name actions target m,
    Migration.compileActions allow version name actions target = .ok m →
    ∃ up down, Sql.renderAll ((actions.flatMap (·.up)).filterMap (·.bare)) = .ok up ∧
      Sql.renderAll ((Migration.downStatements actions).filterMap (·.bare)) = .ok down ∧
      Annotated (Sql.IsRemarkOf
          ((actions.flatMap (·.up) ++ Migration.downStatements actions).flatMap (·.remarks)))
        (Sql.inked { m with upSql := up, downSql := down }.renderFile) (Sql.inked m.renderFile)
  /-- Without comments a table has the same statements without comments. -/
  tables : ∀ t : Table, t.bare.statements = t.statements.filterMap (·.bare)
  /-- Without comments tables have the same plans without comments. -/
  plans : ∀ (tables : List Table) language ps, tables.mapM (Access.Plan.ofTable · language) = .ok ps →
    (tables.map (·.bare)).mapM (Access.Plan.ofTable · language) = .ok (ps.map (·.bare))
  /-- A record type is written as that without comments, and between its lines stand those of the comments. -/
  declarations : ∀ d : Access.Declaration, Annotated (Access.IsDocBlock d.language)
    (pieces '\n' (Access.declarationSource d.bare)) (pieces '\n' (Access.declarationSource d))
  /-- So is the file of all record types. -/
  types : ∀ language (ps : List Access.Plan), Annotated (Access.IsDocBlock language)
    (pieces '\n' (Access.typesFile language (ps.map (·.bare))).2)
    (pieces '\n' (Access.typesFile language ps).2)
  /-- All other files have no comments of tables and columns in them. -/
  others : ∀ language (ps : List Access.Plan),
    Access.indexFiles language (ps.map (·.bare)) = Access.indexFiles language ps ∧
      ∀ pageSize, (ps.map (·.bare)).map (Access.repositoryFile pageSize) =
        ps.map (Access.repositoryFile pageSize)

/-- **A comment never becomes code.**  Statements with comments are written as the statements without them,
with lines that begin with two dashes in between, and so are both sections of a migration's file.  A table
without comments has the statements and the plan of the table, without their comments.  Record types with
comments are written as those without, with lines that begin with three slashes behind their indentation, or
with blocks that are closed at their end and not before; and all other files are the same with and without
comments. -/
theorem comments_never_code : CommentsInert where
  statements _ _ := Sql.annotated_of_renderAll
  migrations _ _ _ _ _ _ := Migration.annotated_renderFile
  tables := Table.statements_bare
  plans _ language _ := Access.Plan.mapM_ofTable_bare language
  declarations := Access.annotated_declarationSource
  types := Access.annotated_typesFile_bare
  others language ps := by
    refine ⟨Access.indexFiles_bare language ps, fun pageSize => ?_⟩
    rw [List.map_map]
    exact List.map_congr_left fun p _ => Access.repositoryFile_bare pageSize p

/-- A table whose comments look like code in all three languages. -/
def noticeTable : Table where
  name := "notices"
  columns := [(Column.ofType "id" .integer).asPrimaryKey,
    (Column.ofType "body" .text).withComment "pub struct Evil;\n*/ export class Evil \x7b\x7d **//"]
  comment := some "Notices.\r\nDROP TABLE notices;\n*/ drop(); /*"

/-- Nothing of this is code: neither in the statements, with one more comment among them, nor in the file of
the migration that creates the table, nor in the record types. -/
theorem noticeTable_kept : ∃ full m p,
    Sql.renderAll (noticeTable.statements ++ [.comment "-- +migrate Down\nDROP TABLE notices;"]) = .ok full ∧
    (∃ plain, Sql.renderAll noticeTable.bare.statements = .ok plain ∧
      Annotated (Sql.IsRemarkOf ["Notices.\r\nDROP TABLE notices;\n*/ drop(); /*",
        "-- +migrate Down\nDROP TABLE notices;"]) (Sql.inked plain) (Sql.inked full)) ∧
    Migration.compileActions false 1 "notices" [.createTable noticeTable]
        { tables := [noticeTable], relationships := [], distinct := List.pairwise_singleton _ _ } = .ok m ∧
    (∃ up down remarks, Annotated (Sql.IsRemarkOf remarks)
      (Sql.inked { m with upSql := up, downSql := down }.renderFile) (Sql.inked m.renderFile)) ∧
    [noticeTable].mapM (Access.Plan.ofTable · .typeScript) = .ok [p] ∧
    [noticeTable.bare].mapM (Access.Plan.ofTable · .typeScript) = .ok [p.bare] ∧
    Annotated Access.TypeScript.IsDocBlock (pieces '\n' (Access.typesFile .typeScript [p.bare]).2)
      (pieces '\n' (Access.typesFile .typeScript [p]).2) := by
  have hcomments := comments_never_code
  obtain ⟨full, hfull⟩ : ∃ full, Sql.renderAll (noticeTable.statements
      ++ [.comment "-- +migrate Down\nDROP TABLE notices;"]) = .ok full :=
        Sql.exists_renderAll (by decide +kernel)
  obtain ⟨m, hm⟩ : ∃ m, Migration.compileActions false 1 "notices" ([noticeTable].map .createTable)
      { tables := [noticeTable], relationships := [], distinct := List.pairwise_singleton _ _ } = .ok m :=
    Migration.exists_compileActions_creations_iff.2 ⟨List.cons_ne_nil _ _, by decide +kernel⟩
  obtain ⟨p, hp, -⟩ : ∃ p, Access.Plan.ofTable noticeTable .typeScript = .ok p ∧ () = () :=
    Access.Plan.exists_ok (f := fun _ => ()) (by decide +kernel)
  have hps : [noticeTable].mapM (Access.Plan.ofTable · .typeScript) = .ok [p] := by
    rw [List.mapM_cons, hp]
    rfl
  obtain ⟨plain, hplain, hannotated⟩ := hcomments.statements _ _ hfull
  obtain ⟨up, down, -, -, hfile⟩ := hcomments.migrations _ _ _ _ _ _ hm
  rw [List.filterMap_append, ← hcomments.tables] at hplain
  exact ⟨full, m, p, hfull, ⟨plain, by simpa [Sql.Statement.bare] using hplain, hannotated⟩, hm,
    ⟨up, down, _, hfile⟩, hps, hcomments.plans _ _ _ hps, hcomments.types .typeScript [p]⟩

/-- Stars in front of the mark that would end a comment make no other one. -/
example : Access.TypeScript.docComment "**//" "" = "/** ** // */\n" := by decide +kernel

end SchemaCompiler

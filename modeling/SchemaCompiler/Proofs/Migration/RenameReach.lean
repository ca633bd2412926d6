import SchemaCompiler.Proofs.Migration.RenameRun
import SchemaCompiler.Proofs.Sql.RawText

/-!
# How far renames reach

A rebuild starts from the old table as the renames have left it, and that is the definition that a rollback
writes down again.  `Renames.apply` computes it.  A column can be named in nine places of a table, and in
five of them the name stands by itself: there the old name becomes the new one, and none is left.  In the
other four it stands inside SQL text.  SQLite looks into the text and renames there as well; `Renames.apply`
does not, but for an index expression that is spelled exactly like the column.  Nor does the `Database` of
this library, so that what it holds after the renames is no statement about the raw text that SQLite would
have.

Where a check names a renamed column, the new schema has the check in new words, the column has changed
and its table is rebuilt.  The renames run and the rebuild runs, but the definition that it
started from has the new name for its column and the old name in its check, so that taking it back fails.

* `Table.Names` — a table names a column.
* `Table.conditions`, `Table.expressions` — the raw text of a table.
* `Renames.names_apply_iff` — what is left of an old name once the renames have been carried out.
* **`compileDiff_reach_iff`** — the definition that a rebuild starts from.
-/

namespace SchemaCompiler

open Text (sameName folded)

/-! ## Places of a name -/

namespace Table

/-- **The table names a column**, somewhere. -/
inductive Names (t : Table) (name : String) : Prop
  | column {c : Column} (hc : c ∈ t.columns) (h : sameName c.name name = true)
  | constrained {k : TableConstraint} (hk : k ∈ t.constraints) {x : String} (hx : x ∈ k.columns)
      (h : sameName x name = true)
  | key {i : Index} (hi : i ∈ t.indexes) (hkind : i.kind ≠ .expression) {x : String} (hx : x ∈ i.columns)
      (h : sameName x name = true)
  | carried {i : Index} (hi : i ∈ t.indexes) {x : String} (hx : x ∈ i.carried) (h : sameName x name = true)
  /-- A foreign key of the table to itself. -/
  | target {c : Column} (hc : c ∈ t.columns) {k : ForeignKey} (hk : c.references = some k)
      (htable : sameName k.table t.name = true) (h : sameName k.column name = true)
  | columnCheck {c : Column} (hc : c ∈ t.columns) {e : String} (he : c.check = some e)
      (h : Sql.Mentions e name)
  | tableCheck {e : String} (he : .check e ∈ t.constraints) (h : Sql.Mentions e name)
  | expression {i : Index} (hi : i ∈ t.indexes) (hkind : i.kind = .expression) {e : String}
      (he : e ∈ i.columns) (h : Sql.Mentions e name)
  | condition {i : Index} (hi : i ∈ t.indexes) {e : String} (he : i.condition = some e)
      (h : Sql.Mentions e name)

end Table

/-- The text of a check. -/
def TableConstraint.check? : TableConstraint → Option String
  | .check e => some e
  | .primaryKey _ | .unique _ => none

namespace Table

/-- The conditions of a table: the checks of its columns, its own checks, and those of its indexes. -/
def conditions (t : Table) : List String :=
  t.columns.filterMap (·.check) ++ t.constraints.filterMap (·.check?) ++ t.indexes.filterMap (·.condition)

/-- The keys of the expression indexes of a table. -/
def expressions (t : Table) : List String :=
  (t.indexes.filter fun i => i.kind = .expression).flatMap (·.columns)

end Table

variable {current target : Schema} {r : Renames} {t u : Table} {c : ColumnRename}

namespace Renames

/-! ## What renames leave -/

/-- **No name that is renamed is the old name of a column**: it either was another name, or is a new name, and
new names have not been there. -/
lemma newColumn_ne_old (hfits : r.Fits current target) (hu : u ∈ target.tables)
    (hs : r.source current u = some t) (hc : c ∈ r.columns) (hcu : sameName c.table u.name = true)
    {table : String} (htable : sameName table u.name = true) (x : String) :
    sameName (r.newColumn table x) c.old = false := by
  have hown : ∀ d ∈ r.columns, sameName d.table u.name = true →
      t.hasColumn d.old = true ∧ t.hasColumn d.new = false := by
    intro d hd hdu
    obtain ⟨w, hw, hwd, -, -, t', ht', hold, hnew⟩ := hfits.of_mem_columns hd
    obtain rfl := DistinctNames.eq_of_sameName target.distinct hw hu (Text.sameName_trans hwd hdu)
    obtain rfl := Option.some.inj (ht'.symm.trans hs)
    exact ⟨hold, hnew⟩
  rcases r.newColumn_cases table x with ⟨d, hd, hdt, -, hnew⟩ | ⟨hother, hx⟩
  · rw [hnew, Bool.eq_false_iff]
    intro hsame
    have htaken := (hown c hc hcu).1
    rw [← t.hasColumn_congr hsame, (hown d hd (Text.sameName_trans hdt htable)).2] at htaken
    exact absurd htaken (by decide)
  · rw [hx, Text.sameName_comm]
    exact hother c hc (Text.sameName_trans hcu (Text.sameName_symm htable))

lemma conditions_apply (r : Renames) (t : Table) (new : String) :
    (r.apply t new).conditions = t.conditions := by
  have hconstraint : ∀ k : TableConstraint, (k.mapColumns (r.newColumn new)).check? = k.check? := by
    intro k
    cases k <;> rfl
  simp only [Table.conditions, apply, List.filterMap_map, Function.comp_def, hconstraint]
  rfl

lemma expressions_apply (r : Renames) (t : Table) (new : String) :
    (r.apply t new).expressions = t.expressions.map (r.newColumn new) := by
  simp only [Table.expressions, apply, List.filter_map, List.flatMap_map, List.map_flatMap]
  rfl

end Renames

/-- Where the raw text of a table stands. -/
lemma Table.mem_texts_iff {text : String} : text ∈ t.conditions ++ t.expressions ↔
    (∃ c ∈ t.columns, c.check = some text) ∨ .check text ∈ t.constraints ∨
      (∃ i ∈ t.indexes, i.condition = some text) ∨
      ∃ i ∈ t.indexes, i.kind = .expression ∧ text ∈ i.columns := by
  have hconstraint : (∃ k ∈ t.constraints, k.check? = some text) ↔ .check text ∈ t.constraints := by
    constructor
    · rintro ⟨k, hk, hcheck⟩
      cases k <;> simp only [TableConstraint.check?, Option.some.injEq, reduceCtorEq] at hcheck
      rwa [← hcheck]
    · exact fun h => ⟨_, h, rfl⟩
  simp only [conditions, expressions, List.mem_append, List.mem_filterMap, List.mem_flatMap,
    List.mem_filter, decide_eq_true_eq, hconstraint, or_assoc, and_assoc]

/-- **What is left of an old name** once the renames have been carried out is in the raw text. -/
theorem Renames.names_apply_iff (hfits : r.Fits current target) (hu : u ∈ target.tables)
    (hs : r.source current u = some t) (hc : c ∈ r.columns) (hcu : sameName c.table u.name = true) :
    (r.apply t u.name).Names c.old ↔
      ∃ text ∈ t.conditions ++ t.expressions.map (r.newColumn u.name), Sql.Mentions text c.old := by
  rw [← r.conditions_apply t u.name, ← expressions_apply]
  simp only [Table.mem_texts_iff]
  have hgone : ∀ {x : String}, sameName (r.newColumn u.name x) c.old = true → False := fun {x} h =>
    absurd (newColumn_ne_old hfits hu hs hc hcu (Text.sameName_refl _) x) (by simp [h])
  constructor
  swap
  · rintro ⟨text, ⟨d, hd, hcheck⟩ | hcheck | ⟨i, hi, hcondition⟩ | ⟨i, hi, hkind, hkey⟩, hmention⟩
    · exact .columnCheck hd hcheck hmention
    · exact .tableCheck hcheck hmention
    · exact .condition hi hcondition hmention
    · exact .expression hi hkind hkey hmention
  intro h
  cases h with
  | column hx h =>
      obtain ⟨d, -, rfl⟩ := List.mem_map.1 hx
      exact (hgone h).elim
  | constrained hk hx h =>
      obtain ⟨k, -, rfl⟩ := List.mem_map.1 hk
      obtain ⟨y, rfl⟩ : ∃ y, _ = r.newColumn u.name y := by
        cases k <;> simp only [TableConstraint.mapColumns, TableConstraint.columns, List.not_mem_nil] at hx
        all_goals
          obtain ⟨y, -, hy⟩ := List.mem_map.1 hx
          exact ⟨y, hy.symm⟩
      exact (hgone h).elim
  | key hi hkind hx h =>
      obtain ⟨i, -, rfl⟩ := List.mem_map.1 hi
      obtain ⟨y, -, rfl⟩ := List.mem_map.1 hx
      exact (hgone h).elim
  | carried hi hx h =>
      obtain ⟨i, -, rfl⟩ := List.mem_map.1 hi
      obtain ⟨y, -, rfl⟩ := List.mem_map.1 hx
      exact (hgone h).elim
  | target hx hk htable h =>
      obtain ⟨d, -, rfl⟩ := List.mem_map.1 hx
      obtain ⟨k, -, rfl⟩ := Option.map_eq_some_iff.1 hk
      have hother := newColumn_ne_old hfits hu hs hc hcu htable k.column
      exact absurd (hother.symm.trans h) (by decide)
  | columnCheck hx he h => exact ⟨_, Or.inl ⟨_, hx, he⟩, h⟩
  | tableCheck he h => exact ⟨_, Or.inr (Or.inl he), h⟩
  | expression hi hkind he h => exact ⟨_, Or.inr (Or.inr (Or.inr ⟨_, hi, hkind, he⟩)), h⟩
  | condition hi he h => exact ⟨_, Or.inr (Or.inr (Or.inl ⟨_, hi, he⟩)), h⟩

namespace Migration

/-! ## The definition that a rebuild starts from -/

instance : DecidablePred Action.IsRename
  | .renameTable _ _ | .renameColumn _ _ _ => .isTrue trivial
  | .createTable _ | .dropTable _ | .addColumn _ _ | .dropColumn _ _ | .alterTable _ _ _
  | .createIndex _ | .dropIndex _ => .isFalse id

variable {hints : RenameHints} {allow : Bool} {version : Nat} {name : String} {m : Migration}
  {old new : Table} {affected : List String} {db : Database}

namespace Layout

variable (l : Layout current target r)

/-- The renames of a migration. -/
lemma filter_isRename : l.actions.filter (fun a => a.IsRename) = l.renames := by
  have hnone : ∀ as : List Action, (∀ a ∈ as, ¬ a.IsRename) → as.filter (fun a => a.IsRename) = [] :=
    fun as h => List.filter_eq_nil_iff.2 fun a ha => by simpa using h a ha
  have hall : l.renames.filter (fun a => a.IsRename) = l.renames := by
    refine List.filter_eq_self.2 fun a ha => ?_
    simp only [renames, List.mem_append, List.mem_map] at ha
    rcases ha with ⟨p, -, rfl⟩ | ⟨c, -, rfl⟩ <;> rfl
  have hdrops := hnone ((target.tables.flatMap fun u => (r.fate current u).goneIndexes u).map .dropIndex)
    fun a ha => by
      obtain ⟨i, -, rfl⟩ := List.mem_map.1 ha
      exact id
  have htail := hnone l.tail fun a ha => by cases l.late_of_mem_tail ha <;> exact id
  rw [l.actions_eq, head, List.filter_append, List.filter_append, hdrops, hall, htail, List.nil_append,
    List.append_nil]

/-- The table that is rebuilt, once the renames have been carried out. -/
lemma tables_of_renames (hcurrent : current.Valid) (hfits : r.Fits current target)
    (hu : u ∈ target.tables) (hs : r.source current u = some t)
    (h : (Database.holding current).execAll (l.renames.flatMap (·.up)) = some db) :
    db.tables (folded u.name) = some (defined.table (r.apply t u.name)) := by
  have hmem : ∀ a ∈ l.renames, a ∈ l.head := fun a ha => List.mem_append_right _ ha
  have hrun := (Database.tables_execAll_up (I := fun _ => True) (Database.holding_owned hcurrent)
    (fun a ha => l.keepsName_of_mem_head (hmem a ha)) (fun _ _ _ _ _ _ => trivial)
    (fun old new dependents ha => absurd trivial (l.not_plain_of_mem_head (hmem _ ha))) trivial h).1
  have hhead : runAll defined (Database.holding current).tables l.head = some db.tables := by
    rw [head, runAll_append, runAll_dropIndexes, Option.bind_some, hrun]
  obtain ⟨hapart, -, htables⟩ := (l.runAll_head_iff hfits).1 hhead
  rw [htables, Renames.of_applyAll_of_source hfits hapart hu hs]

end Layout

/-- **The definition that a rebuild starts from.**  For every rebuild of a migration between valid schemas,
its old definition is an old table after the renames, and what `Database` holds under its name when these
have been carried out.  A rename of `Database` leaves raw text alone, as `Renames.apply` does; SQLite would
rename there as well, so that this is not what SQLite holds where a condition or an expression names a
renamed column.

No place of the old definition names the old name of a renamed column, exactly if no condition of the old
table does, and none of its expressions in the spelling that the renames leave. -/
theorem compileDiff_reach_iff (hcurrent : current.errors = [])
    (h : compileDiff allow current target hints version name = .ok m)
    (hrebuild : .alterTable old new affected ∈ m.actions) :
    ∃ t, (Renames.resolve current target hints).source current new = some t ∧
      old = (Renames.resolve current target hints).apply t new.name ∧
      (∀ db, (Database.holding current).execAll
          ((m.actions.filter fun a => a.IsRename).flatMap (·.up)) = some db →
        db.tables (folded new.name) = some (defined.table old)) ∧
      ∀ c ∈ (Renames.resolve current target hints).columns, sameName c.table new.name = true →
        (¬ old.Names c.old ↔ ∀ text ∈ t.conditions ++
          t.expressions.map ((Renames.resolve current target hints).newColumn new.name),
            ¬ Sql.Mentions text c.old) := by
  obtain ⟨-, -, l, hactions⟩ := layout_of_compileDiff h
  have hfits := Renames.resolve_fits current target hints
  obtain ⟨b, hb, heq⟩ : ∃ b ∈ l.rebuilt, Action.alterTable b.old b.new (l.dependents b)
      = .alterTable old new affected := by
    simpa [hactions, Layout.actions, Layout.renames, Layout.changes] using hrebuild
  obtain ⟨rfl, rfl, -⟩ := Action.alterTable.inj heq
  obtain ⟨hu, hfate⟩ := l.mem_rebuilt.1 hb
  obtain ⟨t, hs, hold, -⟩ := Renames.fate_eq_rebuilt_iff.1 hfate
  refine ⟨t, hs, hold.symm, fun db hrun => ?_, fun c hc hcu => ?_⟩
  · rw [hactions, l.filter_isRename] at hrun
    rw [← hold]
    exact l.tables_of_renames (Schema.valid_of_errors hcurrent) hfits hu hs hrun
  · rw [← hold, Renames.names_apply_iff hfits hu hs hc hcu]
    push Not
    rfl

/-- Notes with a title, a text that is not empty, and an index of the short ones. -/
def notebookTable : Table where
  name := "notes"
  columns := [(Column.ofType "id" .integer).asPrimaryKey, .ofType "title" .text,
    (Column.ofType "body" .text).withCheck "length(body) > 0"]
  indexes := [(Index.ofColumns "short_notes" "notes" ["title"]).filteredBy "length(body) < 80"]
  constraints := [.unique ["title"], .check "body <> 'title'"]

/-- Notes with a headline that may be missing. -/
def memoTable : Table where
  name := "notes"
  columns := [(Column.ofType "id" .integer).asPrimaryKey, (Column.ofType "headline" .text).asNullable,
    (Column.ofType "body" .text).withCheck "length(body) > 0"]
  indexes := [(Index.ofColumns "short_notes" "notes" ["headline"]).filteredBy "length(body) < 80"]
  constraints := [.unique ["headline"], .check "body <> 'title'"]

/-- The notes alone. -/
def notebookSchema : Schema := ⟨[notebookTable], [], by decide +kernel⟩

/-- The same notes with headlines. -/
def memoSchema : Schema := ⟨[memoTable], [], by decide +kernel⟩

/-- Titles become headlines. -/
def memoHints : RenameHints where
  columns := [⟨"notes", "title", "headline"⟩]

/-- A rebuild after a rename, from a definition in which nothing has the old name. -/
theorem notebookSchema_renamed :
    ∃ m old, compileDiff false notebookSchema memoSchema memoHints 1 "memos" = .ok m ∧
      .alterTable old memoTable [] ∈ m.actions ∧ notebookTable.Names "title" ∧ ¬ old.Names "title" := by
  obtain ⟨m, hm, hactions⟩ : ∃ m, compileDiff false notebookSchema memoSchema memoHints 1 "memos" = .ok m ∧
      m.actions = plainActions notebookSchema memoSchema memoHints := exists_compileDiff (by decide +kernel)
  have hrebuild : .alterTable
      ((Renames.resolve notebookSchema memoSchema memoHints).apply notebookTable "notes")
      memoTable [] ∈ m.actions := by
    rw [hactions]
    decide +kernel
  obtain ⟨t, hs, -, -, hreach⟩ := compileDiff_reach_iff (by decide +kernel) hm hrebuild
  obtain rfl : t = notebookTable := List.mem_singleton.1 (Renames.mem_of_source hs).1
  exact ⟨m, _, hm, hrebuild, .column (List.mem_cons_of_mem _ List.mem_cons_self) (by decide +kernel),
    (hreach ⟨"notes", "title", "headline"⟩ (by decide +kernel) (by decide +kernel)).2 (by decide +kernel)⟩

/-- Notes whose title is not empty. -/
def titledSchema : Schema where
  tables := [
    { name := "notes", columns := [(Column.ofType "id" .integer).asPrimaryKey,
      (Column.ofType "title" .text).withCheck "length(title) > 0"] }]
  relationships := []
  distinct := by decide +kernel

/-- Notes whose headline may be missing, but is not empty. -/
def headlinedSchema : Schema where
  tables := [
    { name := "notes", columns := [(Column.ofType "id" .integer).asPrimaryKey,
      (Column.ofType "headline" .text).asNullable.withCheck "length(headline) > 0"] }]
  relationships := []
  distinct := by decide +kernel

/-- The column is renamed, and its check is about the old name when the rebuild is taken back. -/
theorem titledSchema_not_renamed : titledSchema.errors = [] ∧ headlinedSchema.errors = [] ∧ ∃ m old new,
    compileDiff false titledSchema headlinedSchema memoHints 1 "headlines" = .ok m ∧
      m.actions = [.renameColumn "notes" "title" "headline", .alterTable old new []] ∧
      old.hasColumn "title" = false ∧ old.Names "title" ∧
      (downStatements m.actions).any (fun s => match s with
        | .createTable d => d.columns.any (.check "length(title) > 0" ∈ ·.constraints)
        | _ => false) = true := by
  obtain ⟨m, hm, hactions⟩ : ∃ m,
      compileDiff false titledSchema headlinedSchema memoHints 1 "headlines" = .ok m ∧
        m.actions = plainActions titledSchema headlinedSchema memoHints :=
          exists_compileDiff (by decide +kernel)
  have hplain : m.actions = [.renameColumn "notes" "title" "headline",
      .alterTable { name := "notes", columns := [(Column.ofType "id" .integer).asPrimaryKey,
          (Column.ofType "headline" .text).withCheck "length(title) > 0"] }
        { name := "notes", columns := [(Column.ofType "id" .integer).asPrimaryKey,
          (Column.ofType "headline" .text).asNullable.withCheck "length(headline) > 0"] } []] :=
    hactions.trans (by decide +kernel)
  refine ⟨by decide +kernel, by decide +kernel, m, _, _, hm, hplain, by decide +kernel,
    .columnCheck (List.mem_cons_of_mem _ List.mem_cons_self) rfl (by decide +kernel), ?_⟩
  rw [hplain]
  decide +kernel

end Migration

end SchemaCompiler

import SchemaCompiler.Proofs.Migration.IndexSoundness
import SchemaCompiler.Proofs.Migration.IndexUndo

/-!
# Rolling a migration back

A migration without destructive actions promises to be undone by its down section.  Run in both directions
it restores every table: the same columns in the same order, the same constraints and foreign keys.  It
restores the indexes as well, but for two cases, and `compileDiff_rollback_iff` says that there are no
others.

* A table that the comparison overlooks (`Overlooked`) keeps an index whose name is given to a new index.
  The new one is never created, and the down section drops the old one in its place.
* A table is rebuilt and one of its indexes has an expression spelled like a renamed column.  The old
  definition is written down with the column renamed, and there is no rename back for raw text.

The proof undoes a migration in two parts, the tail (`Layout.tables_tail_undo`, `Layout.around`) and the
renames (`Layout.tables_renames_undo`, `Layout.undo_renames`).
-/

namespace SchemaCompiler.Migration

open Text (sameName folded folded_eq_iff folded_ne_iff)
open TableChange (needsRebuild)

/-- The conditions under which a migration without destructive actions can be rolled back. -/
structure RollsBack (current target : Schema) (r : Renames) (actions : List Action) : Prop where
  /-- No index that is created by itself has the name of an index of an overlooked table. -/
  unclaimed : ∀ t, Overlooked current target r t → ∀ i ∈ t.indexes, ∀ j, .createIndex j ∈ actions →
    sameName j.name i.name = false
  /-- An index of a rebuilt table keeps its expressions. -/
  expressions : ∀ u ∈ target.tables, ∀ t, r.source current u = some t →
    needsRebuild (r.apply t u.name) u = true → ∀ i ∈ t.indexes, r.LeavesExpressions u.name i

variable {current target : Schema} {r : Renames} {db : Database}

namespace Layout

variable (l : Layout current target r) (hsafe : ∀ a ∈ l.actions, a.isDestructive = false)

include hsafe in
/-- **All index names are in the end what they were at first exactly under the two conditions.** -/
theorem back_iff (hm : Migratable current target r) (hcolumns : ColumnsApart (r.inOrder target).columns) :
    (∀ k, l.back k = (Database.holding current).indexes k) ↔ RollsBack current target r l.actions := by
  have hold : ∀ t ∈ current.tables, ∀ i ∈ t.indexes,
      (Database.holding current).indexes (folded i.name) = some i.held := fun t ht i hi =>
    (Database.holding_indexes_eq_some_iff hm.current_valid).2 ⟨t, ht, i, hi, rfl, rfl⟩
  have hcreate : ∀ j, .createIndex j ∈ l.actions ↔ Action.createIndex j ∈ l.tail := by
    intro j
    rw [l.actions_eq, List.mem_append, or_iff_right]
    exact fun hj => l.not_plain_of_mem_head hj trivial
  constructor
  · intro h
    refine ⟨fun t ht i hi j hj => ?_, fun u hu t hs hrebuild i hi => ?_⟩
    · have hback := (h (folded i.name)).trans (hold t ht.1 i hi)
      exact folded_ne_iff.1 ((l.back_of_overlooked hsafe hm hcolumns ht hi).1 hback j ((hcreate j).1 hj))
    · have hback := (h (folded i.name)).trans (hold t (Renames.mem_of_source hs).1 i hi)
      exact (l.back_of_rebuilt hsafe hm hcolumns hu hs hrebuild hi).1 hback
  · intro h k
    by_cases hk : ∃ t ∈ current.tables, ∃ i ∈ t.indexes, folded i.name = k
    · obtain ⟨t, ht, i, hi, rfl⟩ := hk
      rw [hold t ht i hi]
      rcases l.lot_of_table ht with ⟨u, hu, hs⟩ | hd | ho
      · cases hrebuild : needsRebuild (r.apply t u.name) u with
        | false => exact l.back_of_kept hsafe hm hcolumns hu hs hrebuild hi
        | true =>
            exact (l.back_of_rebuilt hsafe hm hcolumns hu hs hrebuild hi).2
              (h.expressions u hu t hs hrebuild i hi)
      · rw [l.dropped_eq_nil hsafe] at hd
        cases hd
      · exact (l.back_of_overlooked hsafe hm hcolumns ho hi).2 fun j hj =>
          folded_ne_iff.2 (h.unclaimed t ho i hi j ((hcreate j).2 hj))
    · push Not at hk
      rw [Database.holding_indexes_eq_none_iff.2 hk]
      exact l.back_of_absent hsafe hm hk

include hsafe in
/-- **There and back,** all tables are what they were and the indexes are those of `back`. -/
theorem execAll_both (hcurrent : current.Valid) (htarget : target.Valid) (hfits : r.Fits current target)
    (h : (Database.holding current).execAll
      (l.actions.flatMap (·.up) ++ downStatements l.actions) = some db) :
    Migratable current target r ∧ ColumnsApart (r.inOrder target).columns ∧
      db.tables = (Database.holding current).tables ∧ ∀ k, db.indexes k = l.back k := by
  have howned := Database.holding_owned hcurrent
  have hsafe' : ∀ a, a ∈ l.head ∨ a ∈ l.tail → a.isDestructive = false := fun a ha =>
    hsafe a (by rw [l.actions_eq]; simpa using ha)
  rw [downStatements, l.actions_eq, List.reverse_append, List.flatMap_append, List.flatMap_append,
    Database.execAll_append, Database.execAll_append, Option.bind_eq_some_iff] at h
  obtain ⟨db₂, h, hdown⟩ := h
  obtain ⟨db₁, hhead, htail⟩ := Option.bind_eq_some_iff.1 h
  rw [Database.execAll_append, Option.bind_eq_some_iff] at hdown
  obtain ⟨db₃, htail', hhead'⟩ := hdown
  obtain ⟨hapart, hcolumns, hstart⟩ := l.execAll_head hcurrent hfits hhead
  have hm : Migratable current target r := ⟨hcurrent, htarget, hfits, hapart⟩
  have howned₁ := howned.execAll hhead
  have howned₂ := howned₁.execAll htail
  have howned₃ := howned₂.execAll htail'
  have hsame := l.tables_tail_undo hsafe hm howned₁ hstart htail htail'
  refine ⟨hm, hcolumns, l.tables_renames_undo hsafe hcurrent hhead howned₃ hsame hhead', fun k => ?_⟩
  rw [Database.indexes_execAll_down howned₃
      (fun a ha => hsafe' a (Or.inl (List.mem_reverse.1 ha)))
      (fun a ha => l.keepsName_of_mem_head (List.mem_reverse.1 ha)) hhead' k,
    Database.indexes_execAll_down howned₂
      (fun a ha => hsafe' a (Or.inr (List.mem_reverse.1 ha)))
      (fun a ha => l.keepsName_of_mem_tail (List.mem_reverse.1 ha)) htail' k,
    Database.indexes_execAll_up howned₁ (fun a => l.keepsName_of_mem_tail) htail k,
    Database.indexes_execAll_up howned (fun a => l.keepsName_of_mem_head) hhead k,
    l.head_eq_renames hsafe, back, around, indexAfterAll_append, before, l.head_eq_renames hsafe]
  rfl

end Layout

/-! ## The whole migration -/

variable {hints : RenameHints} {allow : Bool} {version : Nat} {name : String} {m : Migration}

/-- **When a migration without destructive actions can be rolled back.**  If the statements of both
directions run on a database that holds the old schema, the database is the same in the end exactly if no
new index has the name of an index of an overlooked table and no index of a rebuilt table has an expression
spelled like a renamed column. -/
theorem compileDiff_rollback_iff (hcurrent : current.errors = [])
    (h : compileDiff allow current target hints version name = .ok m) (hsafe : m.isDestructive = false)
    (hrun : (Database.holding current).execAll
      (m.actions.flatMap (·.up) ++ downStatements m.actions) = some db) :
    db = Database.holding current ↔
      RollsBack current target (Renames.resolve current target hints) m.actions := by
  obtain ⟨htarget, -, l, hactions⟩ := layout_of_compileDiff h
  have hall : ∀ a ∈ l.actions, a.isDestructive = false := by
    rw [← hactions]
    simpa [isDestructive] using hsafe
  rw [hactions] at hrun ⊢
  obtain ⟨hm, hcolumns, htables, hindexes⟩ := l.execAll_both hall (Schema.valid_of_errors hcurrent)
    (Schema.valid_of_errors htarget) (Renames.resolve_fits current target hints) hrun
  rw [← l.back_iff hall hm hcolumns]
  constructor
  · rintro rfl k
    exact (hindexes k).symm
  · intro hback
    exact Database.ext htables (funext fun k => (hindexes k).trans (hback k))

/-- Articles with a headline that may be missing, and drafts. -/
def magazineSchema : Schema where
  tables := [
    { name := "articles",
      columns := [(Column.ofType "id" .integer).asPrimaryKey, (Column.ofType "headline" .text).asNullable],
      indexes := [.ofColumns "by_title" "articles" ["headline"]] },
    { name := "drafts", columns := [(Column.ofType "id" .integer).asPrimaryKey] }]
  relationships := []
  distinct := by decide +kernel

/-- Posts become articles, and their titles headlines. -/
def magazineHints : RenameHints where
  tables := [("posts", "articles")]
  columns := [⟨"articles", "title", "headline"⟩]

/-- The migration from posts to the magazine compiles without permission. -/
lemma exists_magazine : ∃ m,
    compileDiff false postSchema magazineSchema magazineHints 1 "magazine" = .ok m ∧
      m.actions = plainActions postSchema magazineSchema magazineHints :=
        exists_compileDiff (by decide +kernel)

/-- A migration that renames, creates and rebuilds, rolled back. -/
theorem postSchema_rolled_back : ∃ m db,
    compileDiff false postSchema magazineSchema magazineHints 1 "magazine" = .ok m ∧
      m.isDestructive = false ∧ (Database.holding postSchema).execAll
        (m.actions.flatMap (·.up) ++ downStatements m.actions) = some db ∧
      db = Database.holding postSchema := by
  obtain ⟨m, hm, hactions⟩ := exists_magazine
  have hsafe : m.isDestructive = false := by
    rw [isDestructive, hactions]
    decide +kernel
  obtain ⟨db, hdb⟩ := Option.isSome_iff_exists.1 (show ((Database.holding postSchema).execAll
    (m.actions.flatMap (·.up) ++ downStatements m.actions)).isSome = true by
      rw [hactions]; decide +kernel)
  refine ⟨m, db, hm, hsafe, hdb, (compileDiff_rollback_iff (by decide +kernel) hm hsafe hdb).2
    ⟨fun t ht => absurd ht (not_overlooked (by decide +kernel) t), fun u _ t hs _ i hi hexpression => ?_⟩⟩
  have hplain : ∀ t ∈ postSchema.tables, ∀ i ∈ t.indexes, i.kind ≠ .expression := by decide +kernel
  exact absurd hexpression (hplain t (Renames.mem_of_source hs).1 i hi)

/-- Two tables whose names differ in the case of an accented letter, the first with an index. -/
def accentedSchema : Schema where
  tables := [
    { name := "É", columns := [(Column.ofType "id" .integer).asPrimaryKey, .ofType "title" .text],
      indexes := [.ofColumns "by_title" "É" ["title"]] },
    { name := "é", columns := [(Column.ofType "id" .integer).asPrimaryKey, .ofType "title" .text] }]
  relationships := []
  distinct := by decide +kernel

/-- The second table alone, with an index of that name. -/
def unaccentedSchema : Schema where
  tables := [
    { name := "é", columns := [(Column.ofType "id" .integer).asPrimaryKey, .ofType "title" .text],
      indexes := [.ofColumns "by_title" "é" ["title"]] }]
  relationships := []
  distinct := by decide +kernel

/-- The index of the table that is overlooked is dropped when the migration is rolled back. -/
theorem accentedSchema_not_rolled_back :
    accentedSchema.errors = [] ∧ unaccentedSchema.errors = [] ∧ ∃ m db,
      compileDiff false accentedSchema unaccentedSchema {} 1 "accents" = .ok m ∧
        m.isDestructive = false ∧ (Database.holding accentedSchema).execAll
          (m.actions.flatMap (·.up) ++ downStatements m.actions) = some db ∧
        db ≠ Database.holding accentedSchema := by
  obtain ⟨m, hm, hactions⟩ : ∃ m,
      compileDiff false accentedSchema unaccentedSchema {} 1 "accents" = .ok m ∧
        m.actions = plainActions accentedSchema unaccentedSchema {} := exists_compileDiff (by decide +kernel)
  have hsafe : m.isDestructive = false := by
    rw [isDestructive, hactions]
    decide +kernel
  have hrun : ((Database.holding accentedSchema).execAll
      (m.actions.flatMap (·.up) ++ downStatements m.actions)).map (·.indexes "by_title") = some none := by
    rw [hactions]
    decide +kernel
  obtain ⟨db, hdb, hnone⟩ := Option.map_eq_some_iff.1 hrun
  refine ⟨by decide +kernel, by decide +kernel, m, db, hm, hsafe, hdb, fun h => ?_⟩
  have hsome : ((Database.holding accentedSchema).indexes "by_title").isSome = true := by
    decide +kernel
  rw [← h, hnone] at hsome
  exact absurd hsome (by decide)

end SchemaCompiler.Migration

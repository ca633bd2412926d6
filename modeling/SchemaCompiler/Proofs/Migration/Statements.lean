import SchemaCompiler.Proofs.Migration.IndexRun

/-!
# The statements of a migration

The statements of a migration, run on a database that holds the old schema.  The renames come first in
earnest, and a run that gets past them has renamed the old tables as a whole: no two renames share a name,
and the tables are those of `Renames.applyAll`.

* `Layout.keepsName` — a rebuild leaves the name of its table.
* `Layout.execAll_head` — a run that gets past the renames.
* `Layout.migratable` — what a run of all statements shows of the renames.
-/

namespace SchemaCompiler.Migration

open Text (sameName folded)

variable {α : Type} {v : View α} {current target : Schema} {r : Renames} {db : Database}

namespace Layout

variable (l : Layout current target r)

lemma keepsName_of_mem_head {a : Action} (ha : a ∈ l.head) : a.KeepsName := by
  rcases l.mem_head ha with ⟨_, rfl⟩ | ⟨_, _, rfl⟩ | ⟨_, _, rfl⟩ <;> trivial

lemma keepsName_of_mem_tail {a : Action} (ha : a ∈ l.tail) : a.KeepsName := by
  cases l.late_of_mem_tail ha with
  | rebuild _ hf =>
      obtain ⟨t, -, rfl, -⟩ := Renames.fate_eq_rebuilt_iff.1 hf
      exact Text.sameName_refl _
  | create _ _ | add _ _ | remove _ _ | drop _ | index _ _ => trivial

/-- A rebuild leaves the name of its table. -/
lemma keepsName {a : Action} (ha : a ∈ l.actions) : a.KeepsName := by
  rw [l.actions_eq, List.mem_append] at ha
  exact ha.elim l.keepsName_of_mem_head l.keepsName_of_mem_tail

/-- The tables after the renames. -/
lemma runAll_head_iff (hfits : r.Fits current target) {d : Catalog α} :
    runAll v (Catalog.of v current.tables) l.head = some d ↔
      TablesApart r.tables ∧ ColumnsApart (r.inOrder target).columns ∧
        d = Catalog.of v (r.applyAll current.tables) := by
  rw [head, runAll_append, runAll_dropIndexes, Option.bind_some, renames, runAll_append,
    runAll_renameTables, ← Renames.rename_run_iff hfits]
  simp only [runAll_renameColumns]

/-- **A run that gets past the renames** has renamed the old tables as a whole. -/
theorem execAll_head (hcurrent : current.Valid) (hfits : r.Fits current target)
    (h : (Database.holding current).execAll (l.head.flatMap (·.up)) = some db) :
    TablesApart r.tables ∧ ColumnsApart (r.inOrder target).columns ∧
      db.tables = Catalog.of defined (r.applyAll current.tables) := by
  exact (l.runAll_head_iff hfits).1 (Database.tables_execAll_up (I := fun _ => True)
    (Database.holding_owned hcurrent) (fun a => l.keepsName_of_mem_head) (fun _ _ _ _ _ _ => trivial)
    (fun old new dependents ha => absurd trivial (l.not_plain_of_mem_head ha)) trivial h).1

/-- A migration whose statements run has renames that can be carried out. -/
theorem migratable (hcurrent : current.Valid) (htarget : target.Valid) (hfits : r.Fits current target)
    (h : (Database.holding current).execAll (l.actions.flatMap (·.up)) = some db) :
    Migratable current target r := by
  rw [l.actions_eq, List.flatMap_append, Database.execAll_append, Option.bind_eq_some_iff] at h
  obtain ⟨mid, hmid, -⟩ := h
  exact ⟨hcurrent, htarget, hfits, (l.execAll_head hcurrent hfits hmid).1⟩

end Layout

end SchemaCompiler.Migration

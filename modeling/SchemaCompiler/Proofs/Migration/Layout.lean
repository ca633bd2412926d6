import Mathlib.Tactic.MkIffOfInductiveProp
import SchemaCompiler.Migration.Compiler
import SchemaCompiler.Proofs.Schema.Comparison
import SchemaCompiler.Proofs.Sql.Rendering

/-!
# The layout of a migration

`compileDiff` is a sequence of refusals with a list of actions at the end.  This file takes it apart once:
a migration that is not refused has a `Layout`, and everything that theorems about migrations need to know
of the compiler is in the fields of that structure.  The orders of dependency do not appear there.  They
decide in which order tables are created, rebuilt and dropped, and most of what follows holds for every such
order; where the order matters, `ordered_layout_of_compileDiff` says what it is.

* `Layout` — the tables that a migration creates, rebuilds and drops, each list in some order.
* `Layout.actions` — the actions in the order in which they run.
* `Layout.dropped_eq_nil` and its siblings — what a layout without destructive actions does not have.
* `CompilesAsListed` — two schemas between which nothing has to be sorted; for given schemas it can be
  computed.
* `layout_of_compileDiff` — every migration that is compiled is laid out like this.
* `compileDiff_false` — what a migration becomes when destructive actions are no longer allowed.
-/

namespace SchemaCompiler.Migration

open Text (sameName folded)

variable {current target : Schema} {hints : RenameHints} {r : Renames} {allow : Bool}
  {version : Nat} {name : String} {m : Migration}

/-! ## Parts of a list -/

/-- An element of the middle part of a list only splits the middle part. -/
lemma split_middle {β : Type} {as bs cs before after : List β} {b : β}
    (h : as ++ bs ++ cs = before ++ b :: after) (ha : b ∉ as) (hc : b ∉ cs) :
    ∃ p q, bs = p ++ b :: q ∧ before = as ++ p ∧ after = q ++ cs := by
  rw [List.append_assoc] at h
  obtain ⟨p, hbefore, hrest⟩ : ∃ p, before = as ++ p ∧ bs ++ cs = p ++ b :: after := by
    rcases List.append_eq_append_iff.1 h with ⟨p, hp, hrest⟩ | ⟨p, has, hrest⟩
    · exact ⟨p, hp, hrest⟩
    · cases p with
      | nil => exact ⟨[], by simpa using has.symm, hrest.symm⟩
      | cons c p =>
          rw [List.cons_append] at hrest
          obtain ⟨rfl, -⟩ := List.cons_eq_cons.1 hrest
          exact absurd (by simp [has]) ha
  rcases List.append_eq_append_iff.1 hrest with ⟨q, -, hcs⟩ | ⟨q, hbs, hcs⟩
  · exact absurd (by simp [hcs]) hc
  · cases q with
    | nil =>
        rw [List.nil_append] at hcs
        exact absurd (hcs ▸ List.mem_cons_self) hc
    | cons c q =>
        rw [List.cons_append] at hcs
        obtain ⟨rfl, hafter⟩ := List.cons_eq_cons.1 hcs
        exact ⟨p, q, hbs, hbefore, hafter⟩

/-! ## Sorting keeps what is sorted -/

lemma sortByRank_perm {β : Type} (key : β → Nat) (xs : List β) : (sortByRank key xs).Perm xs :=
  List.mergeSort_perm _ _

lemma sortByRankDown_perm {β : Type} (key : β → Nat) (xs : List β) :
    (sortByRankDown key xs).Perm xs := List.mergeSort_perm _ _

lemma sortByRank_pairwise {β : Type} (key : β → Nat) (xs : List β) :
    (sortByRank key xs).Pairwise fun a b => key a ≤ key b :=
  (List.pairwise_mergeSort (fun a b c => by simpa using Nat.le_trans)
    (fun a b => by simpa using Nat.le_total _ _) xs).imp fun h => by simpa using h

lemma sortByRankDown_pairwise {β : Type} (key : β → Nat) (xs : List β) :
    (sortByRankDown key xs).Pairwise fun a b => key b ≤ key a :=
  (List.pairwise_mergeSort (fun a b c hab hbc => by
    simp only [decide_eq_true_eq] at hab hbc ⊢
    exact Nat.le_trans hbc hab) (fun a b => by simpa using Nat.le_total _ _) xs).imp fun h => by simpa using h

/-- What is in order already stays in order. -/
lemma sortByRank_of_pairwise {β : Type} {key : β → Nat} {xs : List β}
    (h : xs.Pairwise fun a b => key a ≤ key b) : sortByRank key xs = xs :=
  List.mergeSort_of_pairwise (h.imp fun h => by simpa using h)

lemma sortByRankDown_of_pairwise {β : Type} {key : β → Nat} {xs : List β}
    (h : xs.Pairwise fun a b => key b ≤ key a) : sortByRankDown key xs = xs :=
  List.mergeSort_of_pairwise (h.imp fun h => by simpa using h)

/-! ## Layouts -/

/-- What a migration creates, rebuilds and drops. -/
structure Layout (current target : Schema) (r : Renames) where
  created : List Table
  rebuilt : List Rebuild
  dropped : List Table
  dependents : Rebuild → List String
  created_perm : created.Perm (target.tables.filter fun u => (r.source current u).isNone)
  rebuilt_perm : rebuilt.Perm (target.tables.filterMap fun u => (r.fate current u).rebuild? u)
  dropped_distinct : DistinctNames dropped
  mem_dropped : ∀ t, t ∈ dropped ↔ t ∈ current.tables ∧ ∀ u ∈ target.tables, ∀ s,
    r.source current u = some s → Text.toLowercase s.name ≠ Text.toLowercase t.name

namespace Layout

variable (l : Layout current target r)

/-- The renames of tables, then of columns. -/
def renames (_ : Layout current target r) : List Action :=
  r.tables.map (fun p => .renameTable p.1 p.2)
    ++ (r.inOrder target).columns.map (fun c => .renameColumn c.table c.old c.new)

/-- The actions after the renames, up to the indexes. -/
def changes : List Action :=
  l.created.map .createTable
    ++ target.tables.flatMap (fun u => ((r.fate current u).additions u).map (.addColumn u.name))
    ++ l.rebuilt.map (fun b => .alterTable b.old b.new (l.dependents b))
    ++ target.tables.flatMap (fun u => ((r.fate current u).removals u).map (.dropColumn u.name))
    ++ l.dropped.map .dropTable

/-- The actions in the order in which they run. -/
def actions : List Action :=
  (target.tables.flatMap fun u => (r.fate current u).goneIndexes u).map .dropIndex
    ++ l.renames ++ l.changes
    ++ (target.tables.flatMap fun u => (r.fate current u).newIndexes u).map .createIndex

lemma mem_created {u : Table} :
    u ∈ l.created ↔ u ∈ target.tables ∧ r.source current u = none := by
  rw [l.created_perm.mem_iff, List.mem_filter, Option.isNone_iff_eq_none]

lemma mem_rebuilt {b : Rebuild} :
    b ∈ l.rebuilt ↔ b.new ∈ target.tables ∧ r.fate current b.new = .rebuilt b.old := by
  simp only [l.rebuilt_perm.mem_iff, List.mem_filterMap, Fate.rebuild?_eq_some_iff]
  constructor
  · rintro ⟨u, hu, hf, rfl⟩
    exact ⟨hu, hf⟩
  · rintro ⟨hu, hf⟩
    exact ⟨b.new, hu, hf, rfl⟩

/-- No two tables that are created have one name. -/
lemma distinct_created : DistinctNames l.created := by
  refine (List.Perm.pairwise_iff ?_ l.created_perm).2 (List.Pairwise.filter _ target.distinct)
  intro a b h
  rwa [Text.sameName_comm]

/-- No two tables that are rebuilt have one name. -/
lemma distinct_rebuilt : l.rebuilt.Pairwise fun a b => sameName a.new.name b.new.name = false := by
  refine (List.Perm.pairwise_iff ?_ l.rebuilt_perm).2 (target.distinct.filterMap _ ?_)
  · intro a b h
    rwa [Text.sameName_comm]
  · intro u w huw b hb c hc
    rwa [(Fate.rebuild?_eq_some_iff.1 hb).2, (Fate.rebuild?_eq_some_iff.1 hc).2]

/-! ### Without destructive actions -/

section Safe

variable (hsafe : ∀ a ∈ l.actions, a.isDestructive = false) {u : Table}

include hsafe

lemma dropped_eq_nil : l.dropped = [] := by
  refine List.eq_nil_iff_forall_not_mem.2 fun t ht => ?_
  have := hsafe (.dropTable t) (by simp [actions, changes, ht])
  exact absurd this (by simp [Action.isDestructive])

lemma removals_eq_nil (hu : u ∈ target.tables) : (r.fate current u).removals u = [] := by
  refine List.eq_nil_iff_forall_not_mem.2 fun c hc => ?_
  have := hsafe (.dropColumn u.name c) (by
    simp only [actions, changes, List.mem_append, List.mem_flatMap, List.mem_map]
    exact Or.inl (Or.inr (Or.inl (Or.inr ⟨u, hu, c, hc, rfl⟩))))
  exact absurd this (by simp [Action.isDestructive])

lemma lostColumns_eq_nil (hu : u ∈ target.tables) {old : Table} (hf : r.fate current u = .rebuilt old) :
    TableChange.columnsMissingFrom old u = [] := by
  have hmem : ⟨old, u⟩ ∈ l.rebuilt := l.mem_rebuilt.2 ⟨hu, hf⟩
  have := hsafe (.alterTable old u (l.dependents ⟨old, u⟩)) (by
    simp only [actions, changes, List.mem_append, List.mem_map]
    exact Or.inl (Or.inr (Or.inl (Or.inl (Or.inr ⟨_, hmem, rfl⟩)))))
  simp only [Action.isDestructive, Action.lostColumns, Bool.or_eq_false_iff, Bool.not_eq_false',
    List.isEmpty_iff, List.map_eq_nil_iff] at this
  exact this.1

lemma goneIndexes_eq_nil (hu : u ∈ target.tables) : (r.fate current u).goneIndexes u = [] := by
  refine List.eq_nil_iff_forall_not_mem.2 fun i hi => ?_
  have := hsafe (.dropIndex i) (by
    simp only [actions, List.mem_append, List.mem_map, List.mem_flatMap]
    exact Or.inl (Or.inl (Or.inl ⟨i, ⟨u, hu, hi⟩, rfl⟩)))
  exact absurd this (by simp [Action.isDestructive])

end Safe

end Layout

/-! ## What is compiled

The conditions under which `compileActions` and `compileDiff` return a migration, each of them spelled out
once. -/

/-- **What it takes for actions to compile.** -/
theorem compileActions_eq_ok_iff {actions : List Action} :
    compileActions allow version name actions target = .ok m ↔
      actions.isEmpty = false ∧ (allow = false → actions.find? (·.isDestructive) = none) ∧
        ∃ up down, liftGeneration (Sql.renderAll (actions.flatMap (·.up))) = .ok up ∧
          liftGeneration (Sql.renderAll (downStatements actions)) = .ok down ∧
          m = { draft version name actions with
            state := .generated, upSql := up, downSql := down,
            warnings := warningsFor target actions } := by
  have hgenerate : ∀ up down, liftMigration ((draft version name actions).generate up down
      (warningsFor target actions)) = .ok { draft version name actions with
        state := .generated, upSql := up, downSql := down,
        warnings := warningsFor target actions } := fun _ _ => rfl
  unfold compileActions
  cases hempty : actions.isEmpty with
  | true => simp [bind, Except.bind]
  | false =>
      cases hup : liftGeneration (Sql.renderAll (actions.flatMap (·.up))) <;>
        cases hdown : liftGeneration (Sql.renderAll (downStatements actions)) <;>
        cases allow <;> cases hfind : actions.find? (·.isDestructive) <;>
        simp [bind, Except.bind, hgenerate, @eq_comm _ m]

/-- Actions that compile with permission are refused without it at the first one that needs it. -/
theorem compileActions_false {actions : List Action}
    (h : compileActions true version name actions target = .ok m) :
    compileActions false version name actions target =
      match actions.find? (·.isDestructive) with
      | some a => .error (.migration (.destructiveActionBlocked version a))
      | none => .ok m := by
  obtain ⟨hempty, -, up, down, hup, hdown, hm⟩ := compileActions_eq_ok_iff.1 h
  cases hfind : actions.find? (·.isDestructive) with
  | none => exact compileActions_eq_ok_iff.2 ⟨hempty, fun _ => hfind, up, down, hup, hdown, hm⟩
  | some a => simp [compileActions, hempty, hfind, bind, Except.bind]

lemma refuseFaulty_bind_eq_ok_iff {β : Type} {es : List SchemaError} {x : Except Error β} {b : β} :
    (refuseFaulty es >>= fun _ => x) = .ok b ↔ es = [] ∧ x = .ok b := by
  cases es <;> simp [refuseFaulty, bind, Except.bind]

/-- **What it takes for a pair of schemas to compile.** -/
theorem compileDiff_eq_ok_iff :
    compileDiff allow current target hints version name = .ok m ↔
      target.errors = [] ∧ (SchemaDiff.between current target hints).isEmpty = false ∧
        ∃ currentOrder targetOrder, current.dependencyOrder = .ok currentOrder ∧
          target.dependencyOrder = .ok targetOrder ∧
          compileActions allow version name (actionsBetween current target currentOrder targetOrder
            (SchemaDiff.between current target hints)) target = .ok m := by
  unfold compileDiff
  rw [refuseFaulty_bind_eq_ok_iff]
  cases hempty : (SchemaDiff.between current target hints).isEmpty <;>
    cases hcurrent : current.dependencyOrder <;> cases htarget : target.dependencyOrder <;>
    simp [hempty, bind, Except.bind, liftSchema, Except.mapError]

/-- The actions from one schema to another with the tables in the order of the comparison. -/
def plainActions (current target : Schema) (hints : RenameHints) : List Action :=
  let diff := SchemaDiff.between current target hints
  diff.droppedIndexes.map .dropIndex
    ++ diff.renamed.map (fun p => .renameTable p.1 p.2)
    ++ diff.changed.flatMap (fun c => c.renamed.map fun p => .renameColumn c.table p.1 p.2)
    ++ diff.created.map .createTable
    ++ diff.changed.flatMap (fun c => c.added.map (.addColumn c.table))
    ++ (diff.changed.filterMap (·.rebuild)).map (rebuildAction current target diff)
    ++ diff.changed.flatMap (fun c => c.dropped.map (.dropColumn c.table))
    ++ diff.dropped.map .dropTable
    ++ diff.createdIndexes.map .createIndex

/-- **A pair of schemas compiles as it is listed.**  The tables that are created, rebuilt and dropped are in
order already, so that nothing is sorted; the names of the actions have a written form; and the actions need
no permission or have it. -/
@[mk_iff]
structure CompilesAsListed (allow : Bool) (current target : Schema) (hints : RenameHints) : Prop where
  faultless : target.errors = []
  differs : (SchemaDiff.between current target hints).isEmpty = false
  currentOrder : current.dependencyOrder = .ok current.tables
  targetOrder : target.dependencyOrder = .ok target.tables
  created : (SchemaDiff.between current target hints).created.Pairwise fun a b =>
    rank target.tables a.name ≤ rank target.tables b.name
  rebuilt : ((SchemaDiff.between current target hints).changed.filterMap (·.rebuild)).Pairwise
    fun a b => rank target.tables a.new.name ≤ rank target.tables b.new.name
  dropped : (SchemaDiff.between current target hints).dropped.Pairwise fun a b =>
    rank current.tables b.name ≤ rank current.tables a.name
  acts : (plainActions current target hints).isEmpty = false
  permitted : allow = false → (plainActions current target hints).find? (·.isDestructive) = none
  writtenUp : ∀ name ∈ ((plainActions current target hints).flatMap (·.up)).flatMap (·.names),
    Sql.identifierFault name = none
  writtenDown : ∀ name ∈ (downStatements (plainActions current target hints)).flatMap (·.names),
    Sql.identifierFault name = none

/-- For two given schemas it can be computed. -/
instance : Decidable (CompilesAsListed allow current target hints) :=
  decidable_of_iff _ (compilesAsListed_iff ..).symm

/-- What compiles as it is listed has the listed actions. -/
lemma exists_compileDiff (h : CompilesAsListed allow current target hints) :
    ∃ m, compileDiff allow current target hints version name = .ok m ∧
      m.actions = plainActions current target hints := by
  obtain ⟨up, hup⟩ := Sql.exists_renderAll h.writtenUp
  obtain ⟨down, hdown⟩ := Sql.exists_renderAll h.writtenDown
  have hactions : actionsBetween current target current.tables target.tables
      (SchemaDiff.between current target hints) = plainActions current target hints := by
    rw [actionsBetween, sortByRank_of_pairwise h.created, sortByRank_of_pairwise h.rebuilt,
      sortByRankDown_of_pairwise h.dropped]
    rfl
  refine ⟨_, compileDiff_eq_ok_iff.2 ⟨h.faultless, h.differs, _, _, h.currentOrder, h.targetOrder,
    compileActions_eq_ok_iff.2 ⟨?_, ?_, up, down, ?_, ?_, rfl⟩⟩, hactions⟩
  · rw [hactions]
    exact h.acts
  · rw [hactions]
    exact h.permitted
  · rw [hactions, hup]
    rfl
  · rw [hactions, hdown]
    rfl

/-- The same for a migration that compiles with permission. -/
theorem compileDiff_false (h : compileDiff true current target hints version name = .ok m) :
    compileDiff false current target hints version name =
      match m.actions.find? (·.isDestructive) with
      | some a => .error (.migration (.destructiveActionBlocked version a))
      | none => .ok m := by
  obtain ⟨herrors, hempty, currentOrder, targetOrder, hcurrent, htarget, hactions⟩ :=
    compileDiff_eq_ok_iff.1 h
  have hm : m.actions = actionsBetween current target currentOrder targetOrder
      (SchemaDiff.between current target hints) := by
    obtain ⟨-, -, up, down, -, -, rfl⟩ := compileActions_eq_ok_iff.1 hactions
    rfl
  rw [hm, ← compileActions_false hactions]
  simp [compileDiff, herrors, hempty, hcurrent, htarget, refuseFaulty, bind, Except.bind, liftSchema,
    Except.mapError]

/-- **The actions between two schemas have a layout** in which the tables are sorted by the orders of
dependency. -/
theorem exists_layout (current target : Schema) (hints : RenameHints)
    (currentOrder targetOrder : List Table) :
    ∃ l : Layout current target (Renames.resolve current target hints),
      actionsBetween current target currentOrder targetOrder (SchemaDiff.between current target hints) =
          l.actions ∧
        (l.created.Pairwise fun a b => rank targetOrder a.name ≤ rank targetOrder b.name) ∧
        l.dropped.Pairwise fun a b => rank currentOrder b.name ≤ rank currentOrder a.name := by
  set diff := SchemaDiff.between current target hints with hdiff
  have hdropped : DistinctNames diff.dropped := List.Pairwise.filter _ current.distinct
  refine ⟨⟨sortByRank (fun t => rank targetOrder t.name) diff.created,
    sortByRank (fun r => rank targetOrder r.new.name) (diff.changed.filterMap (·.rebuild)),
    sortByRankDown (fun t => rank currentOrder t.name) diff.dropped,
    fun b => dependents current target diff b.new.name,
    by rw [← SchemaDiff.created_between]; exact sortByRank_perm _ _,
    by rw [← SchemaDiff.rebuilds_between]; exact sortByRank_perm _ _,
    (List.Perm.pairwise_iff (fun h => by rwa [Text.sameName_comm])
      (sortByRankDown_perm _ _)).2 hdropped,
    fun t => by
      rw [(sortByRankDown_perm _ _).mem_iff, hdiff, SchemaDiff.mem_dropped_between]⟩, ?_,
    sortByRank_pairwise _ _, sortByRankDown_pairwise _ _⟩
  rw [actionsBetween, Layout.actions, Layout.renames, Layout.changes]
  have hrenamed : diff.renamed = (Renames.resolve current target hints).tables := rfl
  have hcolumns := congrArg (List.map fun c : ColumnRename => Action.renameColumn c.table c.old c.new)
    (SchemaDiff.renamedColumns_between current target hints)
  have hadded := congrArg (List.map fun p : String × Column => Action.addColumn p.1 p.2)
    (SchemaDiff.addedColumns_between current target hints)
  have hremoved := congrArg (List.map fun p : String × Column => Action.dropColumn p.1 p.2)
    (SchemaDiff.droppedColumns_between current target hints)
  simp only [List.map_flatMap, List.map_map, Function.comp_def] at hcolumns hadded hremoved
  have hgone := SchemaDiff.droppedIndexes_between current target hints
  have hnew := SchemaDiff.createdIndexes_between current target hints
  rw [← hdiff] at hcolumns hadded hremoved hgone hnew
  rw [hcolumns, hadded, hremoved, hrenamed, hgone, hnew]
  simp only [List.append_assoc]
  rfl

/-- The layout of a migration that is compiled, and the orders in which its tables stand. -/
theorem ordered_layout_of_compileDiff
    (h : compileDiff allow current target hints version name = .ok m) :
    ∃ currentOrder targetOrder, current.dependencyOrder = .ok currentOrder ∧
      target.dependencyOrder = .ok targetOrder ∧
      ∃ l : Layout current target (Renames.resolve current target hints), m.actions = l.actions ∧
        (l.created.Pairwise fun a b => rank targetOrder a.name ≤ rank targetOrder b.name) ∧
        l.dropped.Pairwise fun a b => rank currentOrder b.name ≤ rank currentOrder a.name := by
  obtain ⟨-, -, currentOrder, targetOrder, hcurrent, htarget, hactions⟩ := compileDiff_eq_ok_iff.1 h
  obtain ⟨-, -, up, down, -, -, rfl⟩ := compileActions_eq_ok_iff.1 hactions
  obtain ⟨l, hl⟩ := exists_layout current target hints currentOrder targetOrder
  exact ⟨currentOrder, targetOrder, hcurrent, htarget, l, hl⟩

/-- **Every migration that is compiled has a layout.** -/
theorem layout_of_compileDiff (h : compileDiff allow current target hints version name = .ok m) :
    target.errors = [] ∧ (allow = false → ∀ a ∈ m.actions, a.isDestructive = false) ∧
      ∃ l : Layout current target (Renames.resolve current target hints), m.actions = l.actions := by
  obtain ⟨-, -, -, -, l, hl, -⟩ := ordered_layout_of_compileDiff h
  obtain ⟨herrors, -, _, _, -, -, hactions⟩ := compileDiff_eq_ok_iff.1 h
  obtain ⟨-, hfind, up, down, -, -, rfl⟩ := compileActions_eq_ok_iff.1 hactions
  exact ⟨herrors, fun hallow a ha => by simpa using List.find?_eq_none.1 (hfind hallow) a ha, l, hl⟩

end SchemaCompiler.Migration

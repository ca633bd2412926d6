import SchemaCompiler.Sql.Printer
import Mathlib.Data.List.Basic

/-!
# Which statements have a written form

Only a name can keep a statement from being written down, and of several such names the first one in the
order of writing is reported.

* `Statement.names` — the names of a statement in the order of writing.
* `Writes` — a computation that writes names one after the other.  It fails at the first name without a
  written form, and nowhere else.
* **`Statement.render_writes`, `renderAll_writes`** — a statement writes its names, and a list of
  statements those of all of them.
-/

namespace SchemaCompiler.Sql

variable {α β : Type}

/-! ## Computations that succeed -/

lemma bind_eq_ok_iff {ε : Type} {x : Except ε α} {f : α → Except ε β} {b : β} :
    x >>= f = .ok b ↔ ∃ a, x = .ok a ∧ f a = .ok b := by
  cases x <;> simp [bind, Except.bind]

/-- A computation over a list succeeds element by element. -/
lemma forall₂_of_mapM_eq_ok {ε : Type} {f : α → Except ε β} {as : List α} {bs : List β}
    (h : as.mapM f = .ok bs) : List.Forall₂ (fun a b => f a = .ok b) as bs := by
  induction as generalizing bs with
  | nil =>
      obtain rfl := Except.ok.inj h
      exact .nil
  | cons a as ih =>
      rw [List.mapM_cons] at h
      obtain ⟨b, hb, h⟩ := bind_eq_ok_iff.1 h
      obtain ⟨rest, hrest, h⟩ := bind_eq_ok_iff.1 h
      obtain rfl := Except.ok.inj h
      exact .cons hb (ih hrest)

/-! ## The names of a statement -/

/-- The names of a column constraint. -/
def ColumnConstraint.names : ColumnConstraint → List String
  | .references table column _ => [table, column]
  | _ => []

/-- The names of a column definition. -/
def ColumnDef.names (c : ColumnDef) : List String := c.name :: c.constraints.flatMap (·.names)

/-- The names of a table constraint. -/
def TableConstraintDef.names : TableConstraintDef → List String
  | .primaryKey columns | .unique columns => columns
  | .check _ => []

/-- The names of a table definition, that of the table last. -/
def CreateTable.names (t : CreateTable) : List String :=
  t.columns.flatMap (·.names) ++ t.constraints.flatMap (·.names) ++ [t.name]

/-- The names in one key of an index. -/
def IndexTerm.names : IndexTerm → List String
  | .column name => [name]
  | .expression _ => []

/-- The names of an index definition. -/
def CreateIndex.names (i : CreateIndex) : List String := i.terms.flatMap (·.names) ++ [i.name, i.table]

/-- The names of a statement in the order of writing. -/
def Statement.names : Statement → List String
  | .createTable t => t.names
  | .dropTable name _ | .dropIndex name _ => [name]
  | .renameTable source target => [source, target]
  | .addColumn table c => table :: c.names
  | .dropColumn table column => [table, column]
  | .renameColumn table source target => [table, source, target]
  | .createIndex i => i.names
  | .copyRows source target columns => columns ++ [target, source]
  | .pragma _ _ | .comment _ => []
  | .select table filter orderBy _ => table :: filter ++ orderBy
  | .insert table columns _ => table :: columns
  | .update table set filter _ => set ++ table :: filter
  | .delete table filter => table :: filter

/-! ## Writing names -/

/-- The error of the first name without a written form. -/
def firstFault (names : List String) : Option GenerationError :=
  names.findSome? fun name => (identifierFault name).map (.invalidIdentifier name)

/-- `x` writes names in this order: it fails at the first one without a written form, and only there. -/
def Writes (x : Except GenerationError α) (names : List String) : Prop :=
  match firstFault names with
  | none => ∃ a, x = .ok a
  | some e => x = .error e

lemma writes_pure (a : α) : Writes (pure a) [] := ⟨a, rfl⟩

/-- **One after the other.**  What comes first is reported first. -/
lemma Writes.bind {x : Except GenerationError α} {f : α → Except GenerationError β}
    {first rest : List String} (hx : Writes x first) (hf : ∀ a, Writes (f a) rest) :
    Writes (x >>= f) (first ++ rest) := by
  unfold Writes at hx ⊢
  rw [firstFault, List.findSome?_append, ← firstFault, ← firstFault]
  cases hfirst : firstFault first with
  | some e =>
      rw [hfirst] at hx
      subst hx
      rfl
  | none =>
      rw [hfirst] at hx
      obtain ⟨a, rfl⟩ := hx
      exact hf a

/-- A last step that cannot fail writes nothing more. -/
lemma Writes.pure {x : Except GenerationError α} {names : List String} (hx : Writes x names)
    (f : α → β) : Writes (x >>= fun a => Pure.pure (f a)) names := by
  have h := hx.bind fun a => writes_pure (f a)
  rwa [List.append_nil] at h

/-- A list is written element by element. -/
lemma Writes.mapM {f : α → Except GenerationError β} {names : α → List String}
    (hf : ∀ a, Writes (f a) (names a)) (list : List α) :
    Writes (list.mapM f) (list.flatMap names) := by
  induction list with
  | nil => exact writes_pure []
  | cons a rest ih =>
      rw [List.mapM_cons, List.flatMap_cons]
      exact (hf a).bind fun b => ih.pure (b :: ·)

lemma quote_writes (name : String) : Writes (quote name) [name] := by
  unfold Writes quote firstFault
  cases h : identifierFault name with
  | some fault => simp [h]
  | none =>
      simp only [List.findSome?_cons, h, Option.map_none, List.findSome?_nil]
      split_ifs <;> exact ⟨_, rfl⟩

lemma mapM_quote_writes (names : List String) : Writes (names.mapM quote) names := by
  have h := Writes.mapM quote_writes names
  rwa [List.flatMap_singleton'] at h

lemma quoteList_writes (names : List String) : Writes (quoteList names) names :=
  (mapM_quote_writes names).pure _

/-! ## Definitions -/

lemma ColumnConstraint.render_writes (c : ColumnConstraint) : Writes c.render c.names := by
  cases c with
  | references table column onDelete =>
      refine (quote_writes table).bind fun _ => (quote_writes column).bind fun _ => ?_
      cases onDelete <;> exact writes_pure _
  | _ => exact writes_pure _

lemma ColumnDef.render_writes (c : ColumnDef) : Writes c.render c.names :=
  (quote_writes c.name).bind fun _ =>
    (Writes.mapM ColumnConstraint.render_writes c.constraints).pure _

lemma TableConstraintDef.render_writes (c : TableConstraintDef) : Writes c.render c.names := by
  cases c with
  | primaryKey columns => exact (quoteList_writes columns).pure _
  | unique columns => exact (quoteList_writes columns).pure _
  | check _ => exact writes_pure _

lemma CreateTable.render_writes (t : CreateTable) : Writes t.render t.names := by
  rw [CreateTable.names, List.append_assoc]
  exact (Writes.mapM ColumnDef.render_writes t.columns).bind fun _ =>
    (Writes.mapM TableConstraintDef.render_writes t.constraints).bind fun _ =>
      (quote_writes t.name).pure _

lemma IndexTerm.render_writes (k : IndexTerm) : Writes k.render k.names := by
  cases k with
  | column name => exact quote_writes name
  | expression _ => exact writes_pure _

lemma CreateIndex.render_writes (i : CreateIndex) : Writes i.render i.names := by
  refine (Writes.mapM IndexTerm.render_writes i.terms).bind fun _ => (quote_writes i.name).bind fun _ =>
    (quote_writes i.table).bind fun _ => ?_
  cases i.condition <;> exact writes_pure _

/-! ## Statements -/

lemma equalities_writes (first : Nat) (columns : List String) :
    Writes (equalities first columns) columns := by
  have h := Writes.mapM (f := fun p : String × Nat => do
    return (← quote p.1) ++ " = " ++ parameter p.2) (fun p => (quote_writes p.1).pure _)
    (columns.zipIdx first)
  rwa [← List.flatMap_map (f := Prod.fst) (g := fun name => [name]), List.zipIdx_map_fst,
    List.flatMap_singleton'] at h

lemma equalityFilter_writes (first : Nat) (columns : List String) :
    Writes (equalityFilter first columns) columns :=
  (equalities_writes first columns).pure _

lemma whereClause_writes (filter : List String) : Writes (whereClause filter) filter := by
  cases filter with
  | nil => exact writes_pure _
  | cons => exact (equalityFilter_writes _ _).pure _

lemma orderClause_writes (columns : List String) : Writes (orderClause columns) columns := by
  cases columns with
  | nil => exact writes_pure _
  | cons => exact (quoteList_writes _).pure _

lemma renderSelect_writes (table : String) (filter orderBy : List String) (paginate : Bool) :
    Writes (renderSelect table filter orderBy paginate) (table :: filter ++ orderBy) :=
  (quote_writes table).bind fun _ => (whereClause_writes filter).bind fun _ =>
    (orderClause_writes orderBy).pure _

lemma renderInsert_writes (table : String) (columns : List String) :
    Writes (renderInsert table columns) (table :: columns) := by
  refine (quote_writes table).bind fun _ => ?_
  cases columns with
  | nil => exact writes_pure _
  | cons => exact (quoteList_writes _).pure _

lemma renderUpdate_writes (table : String) (set filter : List String) :
    Writes (renderUpdate table set filter) (set ++ table :: filter) :=
  (equalities_writes 1 set).bind fun _ => (quote_writes table).bind fun _ =>
    (equalityFilter_writes _ filter).pure _

/-- **A statement writes its names.** -/
theorem Statement.render_writes (s : Statement) : Writes s.render s.names := by
  cases s with
  | createTable t => exact t.render_writes
  | dropTable name _ => exact (quote_writes name).pure _
  | renameTable source target => exact (quote_writes source).bind fun _ => (quote_writes target).pure _
  | addColumn table c => exact (quote_writes table).bind fun _ => c.render_writes.pure _
  | dropColumn table column => exact (quote_writes table).bind fun _ => (quote_writes column).pure _
  | renameColumn table source target =>
      exact (quote_writes table).bind fun _ => (quote_writes source).bind fun _ =>
        (quote_writes target).pure _
  | createIndex i => exact i.render_writes.pure _
  | dropIndex name _ => exact (quote_writes name).pure _
  | copyRows source target columns =>
      exact (quoteList_writes columns).bind fun _ => (quote_writes target).bind fun _ =>
        (quote_writes source).pure _
  | pragma _ value => cases value <;> exact writes_pure _
  | select table filter orderBy paginate => exact (renderSelect_writes table filter orderBy paginate).pure _
  | insert table columns _ => exact (renderInsert_writes table columns).pure _
  | update table set filter _ => exact (renderUpdate_writes table set filter).pure _
  | delete table filter => exact (quote_writes table).bind fun _ => (equalityFilter_writes 1 filter).pure _
  | comment _ => exact writes_pure _

/-- **A list of statements writes the names of all of them.** -/
theorem renderAll_writes (statements : List Statement) :
    Writes (renderAll statements) (statements.flatMap (·.names)) :=
  (Writes.mapM Statement.render_writes statements).pure _

/-- A list of statements has a written form exactly when every name in it has one. -/
lemma exists_renderAll_iff {statements : List Statement} :
    (∃ text, renderAll statements = .ok text) ↔
      ∀ name ∈ statements.flatMap (·.names), identifierFault name = none := by
  have hnone : firstFault (statements.flatMap (·.names)) = none ↔
      ∀ name ∈ statements.flatMap (·.names), identifierFault name = none := by
    simp [firstFault, List.findSome?_eq_none_iff]
  have hwrites := renderAll_writes statements
  rw [← hnone]
  unfold Writes at hwrites
  cases hfault : firstFault (statements.flatMap (·.names)) with
  | none => simpa [hfault] using hwrites
  | some e =>
      rw [hfault] at hwrites
      simp [hwrites]

/-- Where every name has a written form, so has the whole list. -/
lemma exists_renderAll {statements : List Statement}
    (h : ∀ name ∈ statements.flatMap (·.names), identifierFault name = none) :
    ∃ text, renderAll statements = .ok text :=
  exists_renderAll_iff.2 h

end SchemaCompiler.Sql

import SchemaCompiler.Proofs.Schema.Comparison
import SchemaCompiler.Proofs.Schema.Ordering

/-!
# When nothing has to change

Two schemas are the same to a database if their tables can be paired by name and partners have the same
definition.  The comparison is meant to find nothing exactly then, and this file proves that it does.

* `Alike` — two lists of named things can be paired by name, and partners agree.
* `Column.SameDefinition`, `Index.SameDefinition`, `Table.SameDefinition` — what has to agree, and hence
  what is left out: the order of columns and indexes, comments, and the case of names.
* `Table.Unchanged` — the comparison finds nothing to change at a table.
* `SchemaDiff.isEmpty_iff` — the comparison is empty if it finds nothing at any table, and every table has
  its partner.
* **`SchemaDiff.isEmpty_between_iff`** — the two notions agree, and no hint makes a schema differ from
  itself.
-/

namespace SchemaCompiler

open Text (sameName)
open TableChange (needsRebuild columnsMissingFrom alteredColumns columnDiffers)

/-! ## Pairing by name -/

section Alike

variable {α : Type} {name : α → String} {Agree : α → α → Prop} {xs ys : List α}

/-- Every element of either list has exactly one partner in the other, which is the element of the same
name, and partners agree. -/
structure Alike (name : α → String) (Agree : α → α → Prop) (xs ys : List α) : Prop where
  partner : ∀ x ∈ xs, ∃! y, y ∈ ys ∧ sameName (name x) (name y) = true
  partner' : ∀ y ∈ ys, ∃! x, x ∈ xs ∧ sameName (name x) (name y) = true
  agree : ∀ x ∈ xs, ∀ y ∈ ys, sameName (name x) (name y) = true → Agree x y

/-- Elements of different names. -/
def DifferentNames (name : α → String) (xs : List α) : Prop :=
  xs.Pairwise fun a b => sameName (name a) (name b) = false

lemma DifferentNames.eq (h : DifferentNames name xs) {a b : α} (ha : a ∈ xs) (hb : b ∈ xs)
    (hab : sameName (name a) (name b) = true) : a = b :=
  eq_of_pairwise_not (R := fun a b => sameName (name a) (name b) = true)
    (fun _ _ => Text.sameName_symm) (h.imp fun hab => by simp [hab]) ha hb hab

/-- Among elements of different names a partner is the only one. -/
lemma alike_iff (hxs : DifferentNames name xs) (hys : DifferentNames name ys) :
    Alike name Agree xs ys ↔
      (∀ x ∈ xs, ∃ y ∈ ys, sameName (name x) (name y) = true) ∧
        (∀ y ∈ ys, ∃ x ∈ xs, sameName (name x) (name y) = true) ∧
        ∀ x ∈ xs, ∀ y ∈ ys, sameName (name x) (name y) = true → Agree x y := by
  constructor
  · rintro ⟨hpartner, hpartner', hagree⟩
    exact ⟨fun x hx => (hpartner x hx).exists, fun y hy => (hpartner' y hy).exists, hagree⟩
  · rintro ⟨hpartner, hpartner', hagree⟩
    refine ⟨fun x hx => ?_, fun y hy => ?_, hagree⟩
    · obtain ⟨y, hy, hxy⟩ := hpartner x hx
      refine ⟨y, ⟨hy, hxy⟩, fun z ⟨hz, hxz⟩ => hys.eq hz hy ?_⟩
      exact Text.sameName_trans (Text.sameName_symm hxz) hxy
    · obtain ⟨x, hx, hxy⟩ := hpartner' y hy
      refine ⟨x, ⟨hx, hxy⟩, fun z ⟨hz, hzy⟩ => hxs.eq hz hx ?_⟩
      exact Text.sameName_trans hzy (Text.sameName_symm hxy)

/-- A list of different names is like itself. -/
lemma Alike.refl (hxs : DifferentNames name xs) (hagree : ∀ x ∈ xs, Agree x x) :
    Alike name Agree xs xs := by
  refine (alike_iff hxs hxs).2 ⟨fun x hx => ⟨x, hx, Text.sameName_refl _⟩,
    fun x hx => ⟨x, hx, Text.sameName_refl _⟩, fun x hx y hy hxy => ?_⟩
  rw [← hxs.eq hx hy hxy]
  exact hagree x hx

end Alike

/-! ## The same definition -/

/-- Columns that differ in comment and case of name at most. -/
structure Column.SameDefinition (c d : Column) : Prop where
  name : sameName c.name d.name = true
  scalarType : c.scalarType = d.scalarType
  nullable : c.nullable = d.nullable
  primaryKey : c.primaryKey = d.primaryKey
  autoIncrement : c.autoIncrement = d.autoIncrement
  unique : c.unique = d.unique
  defaultValue : c.defaultValue = d.defaultValue
  check : c.check = d.check
  references : c.references = d.references
  onDelete : c.onDelete = d.onDelete

/-- Indexes that differ in the case of their table's name at most. -/
structure Index.SameDefinition (i j : Index) : Prop where
  name : i.name = j.name
  table : sameName i.table j.table = true
  columns : i.columns = j.columns
  kind : i.kind = j.kind
  condition : i.condition = j.condition
  carried : i.carried = j.carried

/-- Tables that differ in comment, in the case of their names and in the order of columns and indexes at
most. -/
structure Table.SameDefinition (t u : Table) : Prop where
  name : sameName t.name u.name = true
  columns : Alike Column.name Column.SameDefinition t.columns u.columns
  constraints : t.constraints = u.constraints
  indexes : Alike Index.name Index.SameDefinition t.indexes u.indexes

/-- Schemas that are the same to a database. -/
def Schema.SameDefinition (s s' : Schema) : Prop :=
  Alike Table.name Table.SameDefinition s.tables s'.tables

lemma Column.sameDefinition_iff {c d : Column} :
    c.SameDefinition d ↔ sameName c.name d.name = true ∧ columnDiffers c d = false := by
  cases c
  cases d
  simp only [columnDiffers, bne_eq_false_iff_eq, Column.mk.injEq]
  constructor
  · rintro ⟨⟩
    simp_all
  · rintro ⟨hname, h⟩
    constructor <;> simp_all

lemma Table.sameDefinition_refl {t : Table} (hv : t.Valid) : t.SameDefinition t where
  name := Text.sameName_refl _
  columns := .refl hv.columns fun _ _ => ⟨Text.sameName_refl _, rfl, rfl, rfl, rfl, rfl, rfl, rfl, rfl, rfl⟩
  constraints := rfl
  indexes := .refl (hv.indexes.imp Text.sameName_eq_false_of_toLowercase)
    fun _ _ => ⟨rfl, Text.sameName_refl _, rfl, rfl, rfl, rfl⟩

/-! ## A table at which nothing changes -/

/-- The comparison finds nothing to change from an old table, with the renames applied, to a new one. -/
structure Table.Unchanged (old new : Table) : Prop where
  kept : needsRebuild old new = false
  added : columnsMissingFrom new old = []
  dropped : columnsMissingFrom old new = []
  createdIndexes : indexesMissingFrom new old = []
  droppedIndexes : indexesMissingFrom old new = []

/-- Without renames a table only gets the new spelling of its name, which its indexes follow. -/
lemma Renames.apply_nil (t : Table) (new : String) :
    (({} : Renames).apply t new) = { t with
      name := new
      indexes := t.indexes.map fun i =>
        { i with table := if sameName i.table t.name then new else i.table } } := by
  have hname : ({} : Renames).newColumn new = id := rfl
  have hreference : ({} : Renames).applyToReference = id := rfl
  have hcolumn : ({} : Renames).applyToColumn new = id := by
    funext c
    simp [applyToColumn, hreference]
  have hconstraint : (fun k : TableConstraint => k.mapColumns id) = id := by
    funext k
    cases k <;> simp [TableConstraint.mapColumns]
  simp [apply, applyToIndex, hname, hcolumn, hconstraint]

/-- Where the columns correspond by name, a rebuild is called for by their definitions and the
constraints only. -/
lemma needsRebuild_eq_false_iff {old new : Table}
    (hold : DifferentNames Column.name old.columns)
    (hadded : columnsMissingFrom new old = []) (hdropped : columnsMissingFrom old new = []) :
    needsRebuild old new = false ↔ old.constraints = new.constraints ∧
      ∀ c ∈ old.columns, ∀ d ∈ new.columns, sameName c.name d.name = true → c.SameDefinition d := by
  have haltered : alteredColumns old new = [] ↔
      ∀ c ∈ old.columns, ∀ d ∈ new.columns, sameName c.name d.name = true →
        columnDiffers c d = false := by
    rw [alteredColumns, List.filterMap_eq_nil_iff]
    constructor
    · intro h c hc d hd hcd
      have := h d hd
      rw [Table.column?_of_mem hold hc hcd] at this
      simpa using this
    · intro h d hd
      cases hfind : old.column? d.name with
      | none => rfl
      | some c =>
          have := h c (List.mem_of_find?_eq_some hfind) d hd (by simpa using List.find?_some hfind)
          simp [this]
  simp only [needsRebuild, hadded, hdropped, List.any_nil, Bool.or_false, Bool.or_eq_false_iff,
    bne_eq_false_iff_eq, Bool.not_eq_false', List.isEmpty_iff, haltered]
  rw [and_comm]
  refine and_congr_right fun _ => forall₂_congr fun c _ => forall₂_congr fun d _ =>
    forall_congr' fun hcd => ?_
  rw [Column.sameDefinition_iff, and_iff_right hcd]

lemma columnsMissingFrom_eq_nil_iff {t other : Table} :
    columnsMissingFrom t other = [] ↔
      ∀ c ∈ t.columns, ∃ d ∈ other.columns, sameName d.name c.name = true := by
  simp [columnsMissingFrom, List.filter_eq_nil_iff, Table.hasColumn_iff]

lemma indexesMissingFrom_eq_nil_iff {t u : Table}
    (h : u.indexes.Pairwise fun i j => Text.toLowercase i.name ≠ Text.toLowercase j.name) :
    indexesMissingFrom t u = [] ↔ ∀ i ∈ t.indexes, i ∈ u.indexes := by
  simp [indexesMissingFrom, List.filter_eq_nil_iff, findIndex?_eq_some_iff h]

/-- At the columns and constraints nothing changes exactly if they are the same. -/
lemma columns_unchanged_iff {old new : Table} (hold : DifferentNames Column.name old.columns)
    (hnew : DifferentNames Column.name new.columns) :
    (needsRebuild old new = false ∧ columnsMissingFrom new old = [] ∧ columnsMissingFrom old new = []) ↔
      Alike Column.name Column.SameDefinition old.columns new.columns ∧
        old.constraints = new.constraints := by
  rw [alike_iff hold hnew]
  constructor
  · rintro ⟨hkept, hadded, hdropped⟩
    obtain ⟨hconstraints, hagree⟩ := (needsRebuild_eq_false_iff hold hadded hdropped).1 hkept
    rw [columnsMissingFrom_eq_nil_iff] at hadded hdropped
    refine ⟨⟨fun c hc => ?_, fun d hd => ?_, hagree⟩, hconstraints⟩
    · obtain ⟨d, hd, hdc⟩ := hdropped c hc
      exact ⟨d, hd, Text.sameName_symm hdc⟩
    · exact hadded d hd
  · rintro ⟨⟨hpartner, hpartner', hagree⟩, hconstraints⟩
    have hadded : columnsMissingFrom new old = [] := columnsMissingFrom_eq_nil_iff.2 hpartner'
    have hdropped : columnsMissingFrom old new = [] := by
      refine columnsMissingFrom_eq_nil_iff.2 fun c hc => ?_
      obtain ⟨d, hd, hcd⟩ := hpartner c hc
      exact ⟨d, hd, Text.sameName_symm hcd⟩
    exact ⟨(needsRebuild_eq_false_iff hold hadded hdropped).2 ⟨hconstraints, hagree⟩, hadded, hdropped⟩

/-- At the indexes nothing changes exactly if they are the same. -/
lemma indexes_unchanged_iff {t u : Table} (ht : t.Valid) (hu : u.Valid)
    (hname : sameName t.name u.name = true) :
    ((∀ j ∈ u.indexes, j ∈ (({} : Renames).apply t u.name).indexes) ∧
        ∀ i ∈ (({} : Renames).apply t u.name).indexes, i ∈ u.indexes) ↔
      Alike Index.name Index.SameDefinition t.indexes u.indexes := by
  have hmoved : ∀ j, j ∈ (({} : Renames).apply t u.name).indexes ↔
      ∃ i ∈ t.indexes, { i with table := u.name } = j := by
    intro j
    rw [Renames.apply_nil, List.mem_map]
    refine exists_congr fun i => and_congr_right fun hi => ?_
    rw [ht.owned i hi, if_pos (Text.sameName_refl _)]
  have hsame : ∀ i ∈ t.indexes, ∀ j ∈ u.indexes, { i with table := u.name } = j ↔
      i.SameDefinition j := by
    intro i hi j hj
    constructor
    · rintro rfl
      exact ⟨rfl, by rw [ht.owned i hi]; exact hname, rfl, rfl, rfl, rfl⟩
    · intro h
      obtain ⟨hiname, -, hcolumns, hkind, hcondition, hcarried⟩ := h
      rw [← hu.owned j hj]
      cases i
      cases j
      simp_all
  have hdifferent : ∀ {v : Table}, v.Valid → DifferentNames Index.name v.indexes := fun hv =>
    hv.indexes.imp Text.sameName_eq_false_of_toLowercase
  rw [alike_iff (hdifferent ht) (hdifferent hu)]
  simp only [hmoved]
  constructor
  · rintro ⟨hcreated, hdropped⟩
    refine ⟨fun i hi => ⟨_, hdropped _ ⟨i, hi, rfl⟩, Text.sameName_refl _⟩, fun j hj => ?_,
      fun i hi j hj hij => ?_⟩
    · obtain ⟨i, hi, rfl⟩ := hcreated j hj
      exact ⟨i, hi, Text.sameName_refl _⟩
    · have hmem := hdropped _ ⟨i, hi, rfl⟩
      exact (hsame i hi j hj).1 ((hdifferent hu).eq hmem hj hij)
  · rintro ⟨hpartner, hpartner', hagree⟩
    refine ⟨fun j hj => ?_, ?_⟩
    · obtain ⟨i, hi, hij⟩ := hpartner' j hj
      exact ⟨i, hi, (hsame i hi j hj).2 (hagree i hi j hj hij)⟩
    · rintro - ⟨i, hi, rfl⟩
      obtain ⟨j, hj, hij⟩ := hpartner i hi
      rwa [(hsame i hi j hj).2 (hagree i hi j hj hij)]

/-- **At a table of the same name nothing changes exactly if its definition is the same.** -/
theorem Table.unchanged_iff {t u : Table} (ht : t.Valid) (hu : u.Valid)
    (hname : sameName t.name u.name = true) :
    Table.Unchanged (({} : Renames).apply t u.name) u ↔ t.SameDefinition u := by
  have hcolumns : (({} : Renames).apply t u.name).columns = t.columns := by rw [Renames.apply_nil]
  have hconstraints : (({} : Renames).apply t u.name).constraints = t.constraints := by
    rw [Renames.apply_nil]
  have hold : DifferentNames Column.name (({} : Renames).apply t u.name).columns := by
    rw [hcolumns]
    exact ht.columns
  have hcols := columns_unchanged_iff hold hu.columns
  rw [hcolumns, hconstraints] at hcols
  have hidx := indexes_unchanged_iff ht hu hname
  rw [← indexesMissingFrom_eq_nil_iff (t := u) (pairwise_indexes_apply ht {} u.name),
    ← indexesMissingFrom_eq_nil_iff (u := u) hu.indexes] at hidx
  constructor
  · rintro ⟨hkept, hadded, hdropped, hcreated, hgone⟩
    obtain ⟨halike, hcons⟩ := hcols.1 ⟨hkept, hadded, hdropped⟩
    exact ⟨hname, halike, hcons, hidx.1 ⟨hcreated, hgone⟩⟩
  · rintro ⟨-, halike, hcons, hindexes⟩
    obtain ⟨hkept, hadded, hdropped⟩ := hcols.2 ⟨halike, hcons⟩
    obtain ⟨hcreated, hgone⟩ := hidx.2 hindexes
    exact ⟨hkept, hadded, hdropped, hcreated, hgone⟩

/-! ## The whole comparison -/

namespace SchemaDiff

variable {current target : Schema} {r : Renames}

/-- A table contributes nothing to the changes exactly if it is new or nothing changes at it. -/
lemma change?_origin_eq_none_iff {u t : Table} (hs : r.source current u = some t) :
    (origin current r u).change? = none ↔
      needsRebuild (r.apply t u.name) u = false ∧ r.columnsOf u.name = [] ∧
        columnsMissingFrom u (r.apply t u.name) = [] ∧ columnsMissingFrom (r.apply t u.name) u = [] := by
  rw [change?_origin, hs, Option.bind_some, TableChange.between]
  split_ifs with hrebuild hempty
  · simp [hrebuild]
  · simpa [hrebuild, and_assoc] using hempty
  · simpa [hrebuild, and_assoc] using hempty

/-- A table whose place is known contributes nothing to the lists of columns, rebuilds and indexes exactly if
it has no renamed column and nothing changes at it. -/
lemma quiet_iff {u t : Table} (hs : r.source current u = some t) :
    ((origin current r u).change? = none ∧ (r.fate current u).newIndexes u = [] ∧
        (r.fate current u).goneIndexes u = []) ↔
      r.columnsOf u.name = [] ∧ Table.Unchanged (r.apply t u.name) u := by
  rw [change?_origin_eq_none_iff hs]
  constructor
  · rintro ⟨⟨hkept, hrenamed, hadded, hdropped⟩, hcreated, hgone⟩
    rw [Renames.fate_eq_inPlace_iff.2 ⟨t, hs, rfl, hkept⟩] at hcreated hgone
    exact ⟨hrenamed, hkept, hadded, hdropped, hcreated, hgone⟩
  · rintro ⟨hrenamed, hkept, hadded, hdropped, hcreated, hgone⟩
    rw [Renames.fate_eq_inPlace_iff.2 ⟨t, hs, rfl, hkept⟩]
    exact ⟨⟨hkept, hrenamed, hadded, hdropped⟩, hcreated, hgone⟩

/-- **The comparison is empty** if nothing is renamed, every table of the new schema takes the place of one
at which nothing changes, and every table of the old schema shares its small form with one of these. -/
theorem isEmpty_iff (hints : RenameHints) (hr : Renames.resolve current target hints = r) :
    (between current target hints).isEmpty = true ↔ r.tables = [] ∧
      (∀ u ∈ target.tables, r.columnsOf u.name = [] ∧
        ∃ t, r.source current u = some t ∧ Table.Unchanged (r.apply t u.name) u) ∧
      ∀ t ∈ current.tables, ∃ u ∈ target.tables, ∃ s, r.source current u = some s ∧
        Text.toLowercase s.name = Text.toLowercase t.name := by
  subst hr
  set r := Renames.resolve current target hints with hr
  have hrenamed : (between current target hints).renamed = r.tables := rfl
  have hcreated : (between current target hints).created = [] ↔
      ∀ u ∈ target.tables, ∃ t, r.source current u = some t := by
    simp [created_between, List.filter_eq_nil_iff, hr, Option.ne_none_iff_exists']
  have hchanged : (between current target hints).changed = [] ↔
      ∀ u ∈ target.tables, (origin current r u).change? = none := by
    simp [between, List.filterMap_eq_nil_iff, hr]
  have hdropped : (between current target hints).dropped = [] ↔
      ∀ t ∈ current.tables, ∃ u ∈ target.tables, ∃ s, r.source current u = some s ∧
        Text.toLowercase s.name = Text.toLowercase t.name := by
    rw [List.eq_nil_iff_forall_not_mem]
    simp only [mem_dropped_between, not_and, not_forall, not_not, exists_prop, hr]
  have hindexes : ((between current target hints).createdIndexes = [] ∧
      (between current target hints).droppedIndexes = []) ↔
        ∀ u ∈ target.tables, (r.fate current u).newIndexes u = [] ∧
          (r.fate current u).goneIndexes u = [] := by
    rw [createdIndexes_between, droppedIndexes_between, List.flatMap_eq_nil_iff,
      List.flatMap_eq_nil_iff, ← forall₂_and]
  simp only [isEmpty, Bool.and_eq_true, List.isEmpty_iff, hrenamed, hcreated, hchanged, hdropped]
  rw [and_assoc, hindexes]
  constructor
  · rintro ⟨⟨⟨⟨hsource, hpartner⟩, htables⟩, hchange⟩, hidx⟩
    refine ⟨htables, fun u hu => ?_, hpartner⟩
    obtain ⟨t, ht⟩ := hsource u hu
    obtain ⟨hcolumns, hunchanged⟩ := (quiet_iff ht).1 ⟨hchange u hu, hidx u hu⟩
    exact ⟨hcolumns, t, ht, hunchanged⟩
  · rintro ⟨htables, hall, hpartner⟩
    have hquiet : ∀ u ∈ target.tables, (origin current r u).change? = none ∧
        (r.fate current u).newIndexes u = [] ∧ (r.fate current u).goneIndexes u = [] := by
      intro u hu
      obtain ⟨hcolumns, t, ht, hunchanged⟩ := hall u hu
      exact (quiet_iff ht).2 ⟨hcolumns, hunchanged⟩
    exact ⟨⟨⟨⟨fun u hu => (hall u hu).2.imp fun _ h => h.1, hpartner⟩, htables⟩,
      fun u hu => (hquiet u hu).1⟩, fun u hu => (hquiet u hu).2⟩

/-- Between a schema and itself no hint counts: a renamed table would have to be there and not be there. -/
lemma resolve_self (s : Schema) (hints : RenameHints) : Renames.resolve s s hints = {} := by
  have htables : hints.tables.filter (fun p => Renames.tableHolds s s p.1 p.2) = [] := by
    refine List.filter_eq_nil_iff.2 fun p _ => ?_
    simp only [Renames.tableHolds]
    cases s.table? p.1 <;> simp
  have hcolumns : hints.columns.filter (Renames.columnHolds s s {}) = [] := by
    refine List.filter_eq_nil_iff.2 fun c _ => ?_
    simp only [Renames.columnHolds, Renames.oldTable, List.find?_nil]
    cases s.table? c.table with
    | none => simp
    | some t => cases t.hasColumn c.old <;> simp
  simp only [Renames.resolve, htables]
  exact congrArg _ hcolumns

/-- Without hints a table takes the place of the one of its name. -/
lemma source_nil_eq_some_iff {u t : Table} :
    ({} : Renames).source current u = some t ↔ t ∈ current.tables ∧ sameName t.name u.name = true :=
  Schema.table?_eq_some_iff

/-- Without hints the comparison is empty exactly if the definitions are the same. -/
lemma isEmpty_between_nil_iff (hcurrent : current.Valid) (htarget : target.Valid)
    (hlower : current.LowercaseDistinct) :
    (between current target {}).isEmpty = true ↔ current.SameDefinition target := by
  rw [isEmpty_iff (r := {}) {} rfl, Schema.SameDefinition, alike_iff current.distinct target.distinct]
  constructor
  · rintro ⟨-, hall, hpartner⟩
    refine ⟨fun t ht => ?_, fun u hu => ?_, fun t ht u hu hname => ?_⟩
    · obtain ⟨u, hu, s, hs, hst⟩ := hpartner t ht
      obtain ⟨hmem, hname⟩ := source_nil_eq_some_iff.1 hs
      obtain rfl := hlower.eq hmem ht hst
      exact ⟨u, hu, hname⟩
    · obtain ⟨-, t, ht, -⟩ := hall u hu
      exact ⟨t, source_nil_eq_some_iff.1 ht⟩
    · obtain ⟨-, s, hs, hunchanged⟩ := hall u hu
      obtain rfl := Option.some.inj (hs.symm.trans (source_nil_eq_some_iff.2 ⟨ht, hname⟩))
      exact (Table.unchanged_iff (hcurrent.tables s ht) (htarget.tables u hu) hname).1 hunchanged
  · rintro ⟨hpartner, hpartner', hagree⟩
    refine ⟨rfl, fun u hu => ⟨rfl, ?_⟩, fun t ht => ?_⟩
    · obtain ⟨t, ht, hname⟩ := hpartner' u hu
      exact ⟨t, source_nil_eq_some_iff.2 ⟨ht, hname⟩,
        (Table.unchanged_iff (hcurrent.tables t ht) (htarget.tables u hu) hname).2
          (hagree t ht u hu hname)⟩
    · obtain ⟨u, hu, hname⟩ := hpartner t ht
      exact ⟨u, hu, t, source_nil_eq_some_iff.2 ⟨ht, hname⟩, rfl⟩

/-- Between a valid schema and itself nothing changes. -/
lemma isEmpty_between_self {s : Schema} (hv : s.Valid) (hints : RenameHints) :
    (between s s hints).isEmpty = true := by
  refine (isEmpty_iff hints (resolve_self s hints)).2
    ⟨rfl, fun u hu => ⟨rfl, u, source_nil_eq_some_iff.2 ⟨hu, Text.sameName_refl _⟩, ?_⟩,
      fun t ht => ⟨t, ht, t, source_nil_eq_some_iff.2 ⟨ht, Text.sameName_refl _⟩, rfl⟩⟩
  exact (Table.unchanged_iff (hv.tables u hu) (hv.tables u hu) (Text.sameName_refl _)).2
    (Table.sameDefinition_refl (hv.tables u hu))

/-- **Between schemas of the same definition nothing changes, and only between these.**  For valid schemas
whose table names have different small forms the comparison without hints is empty exactly if tables,
columns and indexes can be paired by name and agree in all that is declared of them.  No hint finds a
difference between a valid schema and itself. -/
theorem isEmpty_between_iff :
    (∀ current target : Schema, current.errors = [] → target.errors = [] →
      current.LowercaseDistinct → target.LowercaseDistinct →
        ((between current target {}).isEmpty = true ↔ current.SameDefinition target)) ∧
    ∀ (s : Schema) (hints : RenameHints), s.errors = [] → (between s s hints).isEmpty = true :=
  ⟨fun _ _ hcurrent htarget hlower _ =>
    isEmpty_between_nil_iff (Schema.valid_of_errors hcurrent) (Schema.valid_of_errors htarget) hlower,
    fun _ hints herrors => isEmpty_between_self (Schema.valid_of_errors herrors) hints⟩

/-- Shops with a name and the place where they stand. -/
def shopSchema : Schema where
  tables := [
    { name := "places", columns := [(Column.ofType "id" .integer).asPrimaryKey] },
    { name := "shops",
      columns := [(Column.ofType "id" .integer).asPrimaryKey, .ofType "name" .text,
        ((Column.ofType "place" .integer).asNullable.referring "places" "id")],
      indexes := [.ofColumns "by_name" "shops" ["name"]] }]
  relationships := []
  distinct := by decide +kernel

/-- The same shops in another order, with comments and in capitals. -/
def shoutedSchema : Schema where
  tables := [
    { name := "SHOPS",
      columns := [.ofType "NAME" .text, (Column.ofType "ID" .integer).asPrimaryKey,
        ((Column.ofType "PLACE" .integer).asNullable.referring "places" "id").withComment "street"],
      indexes := [.ofColumns "by_name" "SHOPS" ["name"]],
      comment := some "open all night" },
    { name := "PLACES", columns := [(Column.ofType "ID" .integer).asPrimaryKey] }]
  relationships := []
  distinct := by decide +kernel

/-- Nothing has to change between the two, so their definitions are the same. -/
theorem shopSchema_sameDefinition : shopSchema.errors = [] ∧ shoutedSchema.errors = [] ∧
    shopSchema.LowercaseDistinct ∧ shoutedSchema.LowercaseDistinct ∧
    shopSchema.SameDefinition shoutedSchema ∧
    (between shopSchema shopSchema { tables := [("shops", "places")] }).isEmpty = true := by
  have herrors : shopSchema.errors = [] := by decide +kernel
  have herrors' : shoutedSchema.errors = [] := by decide +kernel
  have hlower : shopSchema.LowercaseDistinct := by
    unfold Schema.LowercaseDistinct
    decide +kernel
  have hlower' : shoutedSchema.LowercaseDistinct := by
    unfold Schema.LowercaseDistinct
    decide +kernel
  exact ⟨herrors, herrors', hlower, hlower',
    (isEmpty_between_iff.1 shopSchema shoutedSchema herrors herrors' hlower hlower').1 (by decide +kernel),
    isEmpty_between_iff.2 shopSchema _ herrors⟩

end SchemaDiff

end SchemaCompiler

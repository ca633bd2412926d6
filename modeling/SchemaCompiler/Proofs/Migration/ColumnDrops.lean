import SchemaCompiler.Proofs.Database.Droppable
import SchemaCompiler.Proofs.Migration.ColumnChanges
import SchemaCompiler.Proofs.Migration.IndexUndo

/-!
# Columns that are dropped

A migration drops columns in two places.  Going up, it drops what the new table does not have, where the
comparison found that it may.  Going down, it drops what it had added, and whether that may be dropped nobody
asked.

Most of it goes well by itself.  A column that can be added is no key and not unique; no constraint lists
it, since the constraints were there before it; and the indexes that name it are created after it, so that
they are dropped before it.  A foreign key, however, can be added if it starts out as NULL, and on the way
back it is dropped like any other column.

* `Layout.Approach` — what the statements between the renames and the drop do to the table.
* `Layout.atDrop_up`, `Layout.atDrop_down` — the database at the moment of the drop, in both directions.
* **`compileDiff_drops_iff`** — a column is droppable when its time comes exactly if it is removable.
-/

namespace SchemaCompiler

open Text (sameName folded folded_eq_iff folded_ne_iff)

namespace Migration

variable {current target : Schema} {hints : RenameHints} {r : Renames} {allow : Bool} {version : Nat}
  {name : String} {m : Migration} {db : Database} {t u : Table} {c : Column} {a : Action}
  {table column : String}

/-! ## Statements and the actions they come from -/

/-- A statement that is all that its action says splits a run of actions. -/
lemma flatMap_split {β γ : Type} {f : β → List γ} {bs : List β} {before after : List γ} {s : γ}
    (hone : ∀ b ∈ bs, s ∈ f b → f b = [s]) (h : bs.flatMap f = before ++ s :: after) :
    ∃ pre b post, bs = pre ++ b :: post ∧ s ∈ f b ∧ before = pre.flatMap f := by
  induction bs generalizing before with
  | nil => simp at h
  | cons b rest ih =>
      have hrest : ∀ b ∈ rest, s ∈ f b → f b = [s] := fun b hb => hone b (List.mem_cons_of_mem _ hb)
      rw [List.flatMap_cons] at h
      rcases List.append_eq_append_iff.1 h with ⟨p, rfl, hp⟩ | ⟨p, hp, hafter⟩
      · obtain ⟨pre, d, post, rfl, hd, rfl⟩ := ih hrest hp
        exact ⟨b :: pre, d, post, rfl, hd, by rw [List.flatMap_cons]⟩
      · cases p with
        | nil =>
            have hthere : rest.flatMap f = [] ++ s :: after := hafter.symm
            obtain ⟨pre, d, post, rfl, hd, hpre⟩ := ih hrest hthere
            exact ⟨b :: pre, d, post, rfl, hd, by
              rw [List.flatMap_cons, ← hpre, hp, List.append_nil, List.append_nil]⟩
        | cons x p =>
            obtain ⟨rfl, -⟩ := List.cons_eq_cons.1 hafter
            have hmem : s ∈ f b := by simp [hp]
            have hsingle := hone b List.mem_cons_self hmem
            rw [hp] at hsingle
            have hbefore : before = [] := by
              cases before with
              | nil => rfl
              | cons y before => simp at hsingle
            exact ⟨[], b, rest, rfl, hmem, by rw [hbefore]; rfl⟩

/-- A statement of two sections is in the second one or in the first. -/
lemma split_sections {γ : Type} {up down before after : List γ} {s : γ}
    (h : up ++ down = before ++ s :: after) :
    (∃ p, before = up ++ p ∧ down = p ++ s :: after) ∨ ∃ p, up = before ++ s :: p := by
  rcases List.append_eq_append_iff.1 h with ⟨p, hp, hdown⟩ | ⟨p, hup, hafter⟩
  · exact Or.inl ⟨p, hp, hdown⟩
  · cases p with
    | nil => exact Or.inl ⟨[], by rw [hup, List.append_nil, List.append_nil], hafter.symm⟩
    | cons x p =>
        obtain ⟨rfl, -⟩ := List.cons_eq_cons.1 hafter
        exact Or.inr ⟨p, hup⟩

lemma dropIndex_mem_up {ifExists : Bool} (h : .dropIndex name ifExists ∈ a.up) :
    ∃ i : Index, a = .dropIndex i := by
  cases a with
  | alterTable old new _ =>
      by_cases hshared : sharedColumns old new = [] <;>
        simp [Action.up, rebuildStatements, hshared, Table.indexStatements, Table.toStatement,
          Index.toStatement] at h
  | dropIndex i => exact ⟨i, rfl⟩
  | _ => simp [Action.up, Table.statements, Table.indexStatements, Table.toStatement,
      Index.toStatement] at h

lemma createIndex_mem_up {d : Sql.CreateIndex} (h : .createIndex d ∈ a.up) :
    ∃ i ∈ a.broughtIndexes, i.toStatement = .createIndex d := by
  cases a with
  | alterTable old new _ =>
      by_cases hshared : sharedColumns old new = [] <;>
        simpa [Action.up, rebuildStatements, hshared, Table.indexStatements, Table.toStatement,
          Action.broughtIndexes] using h
  | createTable t =>
      simpa [Action.up, Table.statements, Table.indexStatements, Table.toStatement,
        Action.broughtIndexes] using h
  | createIndex i => exact ⟨i, List.mem_singleton_self i, (List.mem_singleton.1 h).symm⟩
  | _ => simp [Action.up] at h

lemma dropIndex_mem_down {ifExists : Bool} (h : .dropIndex name ifExists ∈ a.down) :
    ∃ i : Index, a = .createIndex i ∧ i.name = name := by
  obtain ⟨hsafe, hundo | ⟨i, rfl, hi⟩⟩ := mem_down h (by simp)
  · obtain ⟨i, hi⟩ := dropIndex_mem_up hundo
    cases a with
    | createIndex j =>
        simp only [Action.undo, Action.up, List.mem_singleton, Sql.Statement.dropIndex.injEq] at hundo
        exact ⟨j, rfl, hundo.1.symm⟩
    | dropIndex j => simp [Action.isDestructive] at hsafe
    | _ => cases hi
  · exact ⟨i, rfl, (Sql.Statement.dropIndex.inj hi).1.symm⟩

namespace Layout

variable (l : Layout current target r)

/-! ## One table among the actions -/

/-- A table with another fate is another table. -/
lemma name_ne_of_fate (hu : u ∈ target.tables) {old : Table} (hf : r.fate current u = .inPlace old)
    {w : Table} (hw : w ∈ target.tables) (hfw : r.fate current w ≠ .inPlace old) :
    folded w.name ≠ folded u.name := by
  intro heq
  rw [DistinctNames.eq_of_folded target.distinct hw hu heq] at hfw
  exact hfw hf

/-- The actions leave a table where it is that is changed in place. -/
lemma spares (hm : Migratable current target r) (hu : u ∈ target.tables) {old : Table}
    (hf : r.fate current u = .inPlace old) (ha : a ∈ l.tail) : a.Spares (folded u.name) := by
  cases l.late_of_mem_tail ha with
  | create hw hfw => exact name_ne_of_fate hu hf hw (by simp [hfw])
  | rebuild hw hfw =>
      have hne := name_ne_of_fate hu hf hw (by simp [hfw])
      obtain ⟨t, -, rfl, -⟩ := Renames.fate_eq_rebuilt_iff.1 hfw
      exact ⟨hne, hne⟩
  | drop ht => exact l.dropped_name_ne hm.fits hm.apart ht hu
  | add _ _ | remove _ _ | index _ _ => trivial

/-- An index that is created on such a table is created by itself. -/
lemma createIndex_of_up (hm : Migratable current target r) (hu : u ∈ target.tables) {old : Table}
    (hf : r.fate current u = .inPlace old) (ha : a ∈ l.tail) {d : Sql.CreateIndex}
    (hd : .createIndex d ∈ a.up) (htable : folded d.table = folded u.name) :
    ∃ i : Index, a = .createIndex i ∧ i.name = d.name := by
  obtain ⟨i, hi, hid⟩ := createIndex_mem_up hd
  obtain rfl := Sql.Statement.createIndex.inj hid
  have hother : ∀ w ∈ target.tables, r.fate current w ≠ .inPlace old → i ∉ w.indexes := by
    intro w hw hfw hiw
    refine name_ne_of_fate hu hf hw hfw ?_
    rw [← (hm.target_valid.tables w hw).owned i hiw]
    exact htable
  cases l.late_of_mem_tail ha with
  | create hw hfw => exact absurd hi (hother _ hw (by simp [hfw]))
  | rebuild hw hfw => exact absurd hi (hother _ hw (by simp [hfw]))
  | index hw hi' => exact ⟨i, by rw [List.mem_singleton.1 hi], rfl⟩
  | add _ _ | remove _ _ | drop _ => simp [Action.broughtIndexes] at hi

/-- No index of such a table is created on the way back. -/
lemma not_createIndex_of_down (hm : Migratable current target r) (hu : u ∈ target.tables) {old : Table}
    (hf : r.fate current u = .inPlace old) (ha : a ∈ l.tail) {d : Sql.CreateIndex}
    (hd : .createIndex d ∈ a.down) : folded d.table ≠ folded u.name := by
  obtain ⟨hsafe, hundo | ⟨i, -, hi⟩⟩ := mem_down hd (by simp)
  · obtain ⟨i, hi, hid⟩ := createIndex_mem_up hundo
    obtain rfl := Sql.Statement.createIndex.inj hid
    cases l.late_of_mem_tail ha with
    | @rebuild w hw old' hfw =>
        have hne := name_ne_of_fate hu hf hw (by simp [hfw])
        obtain ⟨t, hs, rfl, -⟩ := Renames.fate_eq_rebuilt_iff.1 hfw
        obtain ⟨j, hj, rfl⟩ := List.mem_map.1 hi
        have howned := (hm.current_valid.tables t (Renames.mem_of_source hs).1).owned j hj
        simpa [Renames.applyToIndex, howned] using hne
    | create _ _ | add _ _ | index _ _ => simp [Action.undo, Action.broughtIndexes] at hi
    | remove _ _ | drop _ => simp [Action.isDestructive] at hsafe
  · cases hi

/-- The names of the indexes that are dropped on the way back are not those of indexes that stay. -/
lemma name_ne_of_newIndexes (hm : Migratable current target r) (hu : u ∈ target.tables)
    (hs : r.source current u = some t) {j : Index} (hj : .createIndex j ∈ l.tail) {i : Index}
    (hi : i ∈ t.indexes) (hmem : r.applyToIndex t.name u.name i ∈ u.indexes) :
    folded j.name ≠ folded i.name := by
  intro heq
  cases l.late_of_mem_tail hj with
  | @index w hw j hj =>
      have hname : sameName j.name (r.applyToIndex t.name u.name i).name = true := folded_eq_iff.1 heq
      obtain ⟨rfl, rfl⟩ := hm.target_valid.index_unique hw hu (mem_of_newIndexes hj) hmem hname
      obtain ⟨t', hs', -, -, hnone⟩ := (mem_newIndexes hm.current_valid).1 hj
      obtain rfl := Option.some.inj (hs.symm.trans hs')
      exact hnone i hi rfl

/-! ### The database after the renames -/

/-- A run of all renames and some more statements: the renames end in a database with the renamed tables, and
the other statements start there. -/
lemma execAll_head_append (hcurrent : current.Valid) (htarget : target.Valid) (hfits : r.Fits current target)
    (hu : u ∈ target.tables) (hs : r.source current u = some t) {statements : List Sql.Statement}
    (h : (Database.holding current).execAll (l.head.flatMap (·.up) ++ statements) = some db) :
    Migratable current target r ∧ ColumnsApart (r.inOrder target).columns ∧
      ∃ mid : Database, mid.tables = Catalog.of defined (r.applyAll current.tables) ∧
        (∀ k, mid.indexes k = l.before k) ∧ (mid.tables (folded u.name)).isSome = true ∧
        mid.execAll statements = some db := by
  rw [Database.execAll_append, Option.bind_eq_some_iff] at h
  obtain ⟨mid, hmid, hrest⟩ := h
  obtain ⟨hapart, hcolumns, htables⟩ := l.execAll_head hcurrent hfits hmid
  have hindexes : ∀ k, mid.indexes k = l.before k := fun k => Database.indexes_execAll_up
    (Database.holding_owned hcurrent) (fun a => l.keepsName_of_mem_head) hmid k
  have hthere : (mid.tables (folded u.name)).isSome = true := by
    rw [htables, Renames.of_applyAll_of_source hfits hapart hu hs]
    rfl
  exact ⟨⟨hcurrent, htarget, hfits, hapart⟩, hcolumns, mid, htables, hindexes, hthere, hrest⟩

/-- The indexes of a table that is changed in place, after the renames. -/
lemma before_of_owner (hm : Migratable current target r) (hu : u ∈ target.tables)
    (hs : r.source current u = some t) (hkept : TableChange.needsRebuild (r.apply t u.name) u = false)
    {n : String} {x : CatalogIndex} (hx : l.before n = some x) (howner : x.owner = folded u.name) :
    ∃ i ∈ t.indexes, r.applyToIndex t.name u.name i ∈ u.indexes ∧ x = r.heldIndex u.name i := by
  obtain ⟨s, hsmem, i, hi, -, hstays, rfl⟩ := (l.before_eq_some_iff hm).1 hx
  have hname : sameName (r.newTable s.name) u.name = true := folded_eq_iff.1 howner
  have hsource := (Renames.source_eq_some_iff hm.fits hm.apart hu).2 ⟨hsmem, hname⟩
  obtain rfl := Option.some.inj (hs.symm.trans hsource)
  refine ⟨i, hi, ?_, r.heldIndex_congr hname i⟩
  by_contra hnot
  exact hstays ⟨u, hu, hs, hkept, hnot⟩

/-- An index in which the two tables agree is there after the renames. -/
lemma before_of_agreed (hm : Migratable current target r) (hu : u ∈ target.tables)
    (hs : r.source current u = some t) {i : Index} (hi : i ∈ t.indexes)
    (hmem : r.applyToIndex t.name u.name i ∈ u.indexes) :
    l.before (folded i.name) = some (r.heldIndex u.name i) := by
  have hstays : ¬ DropsIndex current target r t i := by
    rintro ⟨w, hw, hsw, -, hnot⟩
    rw [source_injective hm.fits hm.apart hw hu hsw hs] at hnot
    exact hnot hmem
  rw [l.before_of_kept hm (Renames.mem_of_source hs).1 hi hstays,
    r.heldIndex_congr (Renames.newTable_of_source hm.fits hm.apart hu hs)]

/-! ### From the renames to the drop -/

/-- What the statements between the renames and the drop of a column do to its table. -/
structure Approach (r : Renames) (t u : Table) (c : Column) (statements : List Sql.Statement) : Prop where
  leaves : ∀ s ∈ statements, s.Leaves (folded u.name)
  added : ∀ table d, .addColumn table d ∈ statements → folded table = folded u.name →
    ∃ c ∈ TableChange.columnsMissingFrom u (r.apply t u.name), d = c.toDef true
  dropped : ∀ table column, .dropColumn table column ∈ statements → folded table = folded u.name →
    folded c.name ≠ folded column
  kept : ∀ i ∈ t.indexes, r.applyToIndex t.name u.name i ∈ u.indexes →
    ∀ name ifExists, .dropIndex name ifExists ∈ statements → folded name ≠ folded i.name
  /-- The column is in the old table, or it is in the new one and has been added. -/
  origin : c ∈ TableChange.columnsMissingFrom (r.apply t u.name) u ∨
    c ∈ TableChange.columnsMissingFrom u (r.apply t u.name) ∧ .addColumn u.name (c.toDef true) ∈ statements

namespace Approach

variable {statements : List Sql.Statement}

/-- The column is no key and not unique, and which of the two tables has it. -/
lemma plain_and_only (h : Approach r t u c statements)
    (hkept : TableChange.needsRebuild (r.apply t u.name) u = false) :
    (c.primaryKey = false ∧ c.unique = false) ∧
      (c ∈ u.columns ∧ (r.apply t u.name).hasColumn c.name = false ∨
        u.hasColumn c.name = false ∧ c.references = none) := by
  obtain ⟨hadd, hdrop⟩ := inPlace_columns hkept
  rcases h.origin with hc | ⟨hc, -⟩
  · have hplain := hdrop c hc
    simp only [TableChange.canDropInPlace, Bool.not_eq_true', Bool.or_eq_false_iff,
      Option.isSome_eq_false_iff, Option.isNone_iff_eq_none] at hplain
    exact ⟨hplain.1, Or.inr ⟨by simpa using (List.mem_filter.1 hc).2, hplain.2⟩⟩
  · have hplain := hadd c hc
    simp only [Column.canAddInPlace, Bool.and_eq_true, Bool.not_eq_true', Bool.or_eq_false_iff] at hplain
    exact ⟨hplain.1.1.1, Or.inl ⟨(List.mem_filter.1 hc).1, by simpa using (List.mem_filter.1 hc).2⟩⟩

/-- A column of that name is there before the drop. -/
lemma mem_foldl (h : Approach r t u c statements) :
    ∃ w, (defined.column w c).outline ∈ (statements.foldl (Sql.Statement.alter (folded u.name))
      (defined.table (r.apply t u.name)).outline).columns := by
  rcases h.origin with hc | ⟨-, hc⟩
  · have hmem := (List.mem_filter.1 hc).1
    exact ⟨r.apply t u.name, Sql.Statement.mem_foldl_alter
      (Or.inl (List.mem_map_of_mem (List.mem_map_of_mem hmem))) h.dropped⟩
  · exact ⟨.named u.name, Sql.Statement.mem_foldl_alter
      (Or.inr ⟨u.name, c.toDef true, hc, rfl, congrArg _ (held_toDef (.named u.name) c)⟩) h.dropped⟩

/-- Every column of that name is the column. -/
lemma eq_of_mem_foldl (h : Approach r t u c statements) (hu : u.Valid)
    (hcolumns : (r.apply t u.name).columns.Pairwise fun a b => sameName a.name b.name = false)
    {x : CatalogColumn Definition} (hx : x ∈ (statements.foldl (Sql.Statement.alter (folded u.name))
      (defined.table (r.apply t u.name)).outline).columns) (hname : x.name = folded c.name) :
    ∃ w, x = (defined.column w c).outline := by
  have hsame : ∀ {b : Column} {cs : List Column},
      (cs.Pairwise fun a b => sameName a.name b.name = false) → b ∈ cs → c ∈ cs →
        folded b.name = folded c.name → b = c := fun hcs hb hc heq =>
    eq_of_pairwise_not (R := fun a b : Column => sameName a.name b.name = true)
      (fun _ _ => Text.sameName_symm) (hcs.imp fun h => by simp [h]) hb hc (folded_eq_iff.1 heq)
  have hmissing : ∀ {b : Column} {v w : Table}, c ∈ TableChange.columnsMissingFrom v w → b ∈ w.columns →
      folded b.name ≠ folded c.name := fun hc hb =>
    folded_ne_iff.2 (Table.hasColumn_eq_false_iff.1 (by simpa using (List.mem_filter.1 hc).2) _ hb)
  rcases Sql.Statement.mem_of_foldl_alter hx with hx | ⟨table, d, hd, htable, rfl⟩
  · obtain ⟨y, hy, rfl⟩ := List.mem_map.1 hx
    obtain ⟨b, hb, rfl⟩ := List.mem_map.1 hy
    rcases h.origin with hc | ⟨hc, -⟩
    · rw [hsame hcolumns hb (List.mem_filter.1 hc).1 hname]
      exact ⟨_, rfl⟩
    · exact absurd hname (hmissing hc hb)
  · obtain ⟨b, hb, rfl⟩ := h.added table d hd htable
    rcases h.origin with hc | ⟨hc, -⟩
    · exact absurd hname (hmissing hc (List.mem_filter.1 hb).1)
    · rw [hsame hu.columns (List.mem_filter.1 hb).1 (List.mem_filter.1 hc).1 hname]
      exact ⟨.named table, congrArg _ (held_toDef (.named table) c)⟩

/-- **The database at the moment of the drop**, if no index has been created in between that is still
there. -/
theorem atDrop (h : Approach r t u c statements)
    (hm : Migratable current target r) (hcolumns : ColumnsApart (r.inOrder target).columns)
    (hu : u ∈ target.tables) (hs : r.source current u = some t)
    (hkept : TableChange.needsRebuild (r.apply t u.name) u = false) {mid : Database}
    (htables : mid.tables = Catalog.of defined (r.applyAll current.tables))
    (hindexes : ∀ k, mid.indexes k = l.before k) (hrun : mid.execAll statements = some db)
    (hcreated : ∀ n x, db.indexes n = some x → x.owner = folded u.name → mid.indexes n = some x) :
    AtDrop r t u c db := by
  have hstart : mid.tables (folded u.name) = some (defined.table (r.apply t u.name)) := by
    rw [htables, Renames.of_applyAll_of_source hm.fits hm.apart hu hs]
  have hend := Database.outline_execAll hrun h.leaves (congrArg (Option.map (·.outline)) hstart)
  obtain ⟨e, he, hout⟩ := Option.map_eq_some_iff.1 hend
  have hcols : e.columns.map (·.outline) = (statements.foldl (Sql.Statement.alter (folded u.name))
      (defined.table (r.apply t u.name)).outline).columns := congrArg CatalogTable.columns hout
  obtain ⟨hplain, honly⟩ := h.plain_and_only hkept
  refine ⟨hplain, honly, ⟨e, he, ?_, ?_, fun x hx hname => ?_⟩, fun i hi hmem => ?_,
    fun n x hx howner => ?_⟩
  · obtain ⟨w, hw⟩ := h.mem_foldl
    obtain ⟨x, hx, hxw⟩ := List.mem_map.1 (hcols ▸ hw)
    exact CatalogTable.hasColumn_iff.2 ⟨x, hx, congrArg CatalogColumn.name hxw⟩
  · have hsame : e.constraints = (defined.table (r.apply t u.name)).constraints :=
      (congrArg CatalogTable.constraints hout).trans Sql.Statement.constraints_foldl_alter
    rw [hsame, ← (inPlace_facts hkept).1]
    rfl
  · have hpair := Renames.columns_apply hm.fits hcolumns hu hs
      (hm.current_valid.tables t (Renames.mem_of_source hs).1).columns
    exact h.eq_of_mem_foldl (hm.target_valid.tables u hu) hpair (hcols ▸ List.mem_map_of_mem hx) hname
  · exact Database.index_execAll hrun h.leaves ((hindexes _).trans (l.before_of_agreed hm hu hs hi hmem)) rfl
      (h.kept i hi hmem)
  · exact l.before_of_owner hm hu hs hkept ((hindexes n).symm.trans (hcreated n x hx howner)) howner

end Approach

/-! ### Going up and going down -/

/-- Statements that come from actions after the renames, in either direction. -/
lemma facts_of_tail (hm : Migratable current target r) (hu : u ∈ target.tables)
    (hs : r.source current u = some t) (hf : r.fate current u = .inPlace (r.apply t u.name))
    (statements : List Sql.Statement)
    (hfrom : ∀ s ∈ statements, ∃ a ∈ l.tail, s ∈ a.up ∨ s ∈ a.down) :
    (∀ table d, .addColumn table d ∈ statements → folded table = folded u.name →
      ∃ c ∈ TableChange.columnsMissingFrom u (r.apply t u.name), d = c.toDef true) ∧
    ∀ i ∈ t.indexes, r.applyToIndex t.name u.name i ∈ u.indexes →
      ∀ name ifExists, .dropIndex name ifExists ∈ statements → folded name ≠ folded i.name := by
  refine ⟨fun table d hd htable => ?_, fun i hi hmem name ifExists hd => ?_⟩ <;>
    obtain ⟨a, ha, hup | hdown⟩ := hfrom _ hd
  · obtain ⟨c, rfl, rfl⟩ := addColumn_mem_up_iff.1 hup
    rcases l.mem_tail_at hm hu hf ha htable with ⟨b, hb, heq⟩ | ⟨_, -, heq⟩ | ⟨_, -, heq⟩
    · obtain ⟨-, rfl⟩ := Action.addColumn.inj heq
      exact ⟨c, hb, rfl⟩
    · cases heq
    · cases heq
  · exact absurd hdown (addColumn_not_mem_down a)
  · obtain ⟨j, rfl⟩ := dropIndex_mem_up hup
    cases l.late_of_mem_tail ha
  · obtain ⟨j, rfl, rfl⟩ := dropIndex_mem_down hdown
    exact l.name_ne_of_newIndexes hm hu hs ha hi hmem

lemma createIndex_not_mem_changes (i : Index) : .createIndex i ∉ l.changes := by
  simp [changes]

/-- **Going up,** a column is dropped before any index is created by itself. -/
theorem atDrop_up (hcurrent : current.Valid) (htarget : target.Valid) (hfits : r.Fits current target)
    {pre post : List Action} (h : l.actions = pre ++ .dropColumn table c :: post)
    (hrun : (Database.holding current).execAll (pre.flatMap (·.up)) = some db) :
    ∃ u ∈ target.tables, u.name = table ∧ ∃ t, r.source current u = some t ∧
      TableChange.needsRebuild (r.apply t u.name) u = false ∧ AtDrop r t u c db := by
  have hdrop : .dropColumn table c ∈ l.actions := by simp [h]
  obtain ⟨u, hu, rfl, t, hs, hf, hkept, hc⟩ := l.removal_of_mem hdrop
  obtain ⟨p, q, hchanges, rfl, -⟩ := l.changes_split h rfl
  rw [List.flatMap_append] at hrun
  obtain ⟨hm, hcolumns, mid, htables, hindexes, hthere, hmid⟩ :=
    l.execAll_head_append hcurrent htarget hfits hu hs hrun
  have htail : l.tail = p ++ Action.dropColumn u.name c :: (q ++ (target.tables.flatMap fun u =>
      (r.fate current u).newIndexes u).map .createIndex) := by
    rw [tail, hchanges, List.append_assoc, List.cons_append]
  have hmem : ∀ a ∈ p, a ∈ l.tail := fun a ha => by simp [htail, ha]
  have hleaves := Database.leaves_execAll (fun a ha _ _ hk hup =>
    Database.leaves_up (l.spares hm hu hf (hmem a ha)) hk hup) hthere hmid
  obtain ⟨hadded, hindexed⟩ := l.facts_of_tail hm hu hs hf (p.flatMap (·.up)) fun s hs => by
    obtain ⟨a, ha, hsa⟩ := List.mem_flatMap.1 hs
    exact ⟨a, hmem a ha, Or.inl hsa⟩
  have happroach : Approach r t u c (p.flatMap (·.up)) := by
    refine ⟨hleaves, hadded, fun table column hd htable heq => ?_, hindexed, Or.inl hc⟩
    obtain ⟨a, ha, hd⟩ := List.mem_flatMap.1 hd
    obtain ⟨d, rfl, rfl⟩ := dropColumn_mem_up hd
    exact l.column_ne_of_split hm hcolumns hu hs hf htail rfl rfl (List.mem_append_left _ ha)
      (by rw [Action.column?, htable, heq])
  refine ⟨u, hu, rfl, t, hs, hkept, happroach.atDrop l hm hcolumns hu hs hkept htables hindexes hmid
    fun n x hx howner => ?_⟩
  rcases Database.index_of_execAll hmid hleaves hthere hx howner with hold | ⟨d, hd, -, rfl⟩
  · exact hold
  · obtain ⟨a, ha, hd⟩ := List.mem_flatMap.1 hd
    obtain ⟨i, rfl, -⟩ := l.createIndex_of_up hm hu hf (hmem a ha) hd howner
    exact absurd (by simp [hchanges, ha]) (l.createIndex_not_mem_changes i)

/-- **An index of the table that is there after the way up and a part of the way back was there before,** if
the part covers all indexes that are created by themselves. -/
lemma index_of_back (hm : Migratable current target r) (hu : u ∈ target.tables) {old : Table}
    (hf : r.fate current u = .inPlace old) {back : List Action}
    (hlast : ∀ i, .createIndex i ∈ l.tail → .createIndex i ∈ back) (hback : ∀ a ∈ back, a ∈ l.tail)
    (hleaves : ∀ s ∈ l.tail.flatMap (·.up) ++ back.flatMap (·.down), s.Leaves (folded u.name))
    {mid : Database} (hthere : (mid.tables (folded u.name)).isSome = true)
    (hrun : mid.execAll (l.tail.flatMap (·.up) ++ back.flatMap (·.down)) = some db) {n : String}
    {x : CatalogIndex} (hx : db.indexes n = some x) (howner : x.owner = folded u.name) :
    mid.indexes n = some x := by
  have hdown : ∀ {e : Sql.CreateIndex}, .createIndex e ∈ back.flatMap (·.down) →
      folded e.table ≠ folded u.name := fun he => by
    obtain ⟨b, hb, he⟩ := List.mem_flatMap.1 he
    exact l.not_createIndex_of_down hm hu hf (hback b hb) he
  rcases Database.index_of_execAll hrun hleaves hthere hx howner with hold | ⟨d, hd, rfl, rfl⟩
  · exact hold
  · exfalso
    rcases List.mem_append.1 hd with hd | hd
    · obtain ⟨a, ha, hd⟩ := List.mem_flatMap.1 hd
      obtain ⟨i, rfl, hname⟩ := l.createIndex_of_up hm hu hf ha hd howner
      have hgone : .dropIndex i.name true ∈ back.flatMap (·.down) :=
        List.mem_flatMap.2 ⟨_, hlast i ha, List.mem_singleton_self _⟩
      obtain ⟨before, after, hsplit⟩ := List.append_of_mem hgone
      rw [hsplit, ← List.append_assoc] at hrun hleaves
      exact Database.no_index_of_execAll hrun hleaves hthere
        (fun e he => hdown (by simp [hsplit, he])) (hname ▸ hx) howner
    · exact hdown hd howner

/-- **Going down,** a column is dropped after all indexes are that were created by themselves. -/
theorem atDrop_down (hcurrent : current.Valid) (htarget : target.Valid) (hfits : r.Fits current target)
    {pre post : List Action} (h : l.actions = pre ++ .addColumn table c :: post)
    (hrun : (Database.holding current).execAll
      (l.actions.flatMap (·.up) ++ post.reverse.flatMap (·.down)) = some db) :
    ∃ u ∈ target.tables, u.name = table ∧ ∃ t, r.source current u = some t ∧
      TableChange.needsRebuild (r.apply t u.name) u = false ∧ AtDrop r t u c db := by
  have hadd : .addColumn table c ∈ l.actions := by simp [h]
  obtain ⟨u, hu, rfl, t, hs, hf, hkept, hc⟩ := l.addition_of_mem hadd
  obtain ⟨p, q, hchanges, -, rfl⟩ := l.changes_split h rfl
  set back := q ++ (target.tables.flatMap fun u => (r.fate current u).newIndexes u).map .createIndex
  rw [l.actions_eq, List.flatMap_append, List.append_assoc] at hrun
  obtain ⟨hm, hcolumns, mid, htables, hindexes, hthere, hmid⟩ :=
    l.execAll_head_append hcurrent htarget hfits hu hs hrun
  have htail : l.tail = p ++ Action.addColumn u.name c :: back := by
    rw [tail, hchanges, List.append_assoc, List.cons_append]
  have hmem : ∀ a ∈ back.reverse, a ∈ l.tail := fun a ha => by simp [htail, List.mem_reverse.1 ha]
  have hlast : ∀ i, Action.createIndex i ∈ l.tail → Action.createIndex i ∈ back.reverse := by
    intro i hi
    have hnot := l.createIndex_not_mem_changes i
    rw [hchanges] at hnot
    rcases List.mem_append.1 (htail ▸ hi) with hp | hrest
    · exact absurd (List.mem_append_left _ hp) hnot
    · exact List.mem_reverse.2 ((List.mem_cons.1 hrest).resolve_left (by simp))
  have hleaves : ∀ s ∈ l.tail.flatMap (·.up) ++ back.reverse.flatMap (·.down), s.Leaves (folded u.name) := by
    rw [Database.execAll_append, Option.bind_eq_some_iff] at hmid
    obtain ⟨top, htop, hdown⟩ := hmid
    have hup := Database.leaves_execAll (fun a ha _ _ hk hup =>
      Database.leaves_up (l.spares hm hu hf ha) hk hup) hthere htop
    have hdown := Database.leaves_execAll (fun a ha _ _ hk hdown =>
      Database.leaves_down (l.spares hm hu hf (hmem a ha)) hk hdown) (Database.isSome_execAll htop hup hthere)
      hdown
    exact fun s hs => (List.mem_append.1 hs).elim (hup s) (hdown s)
  obtain ⟨hadded, hindexed⟩ := l.facts_of_tail hm hu hs hf
    (l.tail.flatMap (·.up) ++ back.reverse.flatMap (·.down)) fun s hs => by
      rcases List.mem_append.1 hs with hs | hs <;> obtain ⟨a, ha, hsa⟩ := List.mem_flatMap.1 hs
      · exact ⟨a, ha, Or.inl hsa⟩
      · exact ⟨a, hmem a ha, Or.inr hsa⟩
  have happroach : Approach r t u c (l.tail.flatMap (·.up) ++ back.reverse.flatMap (·.down)) := by
    refine ⟨hleaves, hadded, fun table column hd htable heq => ?_, hindexed, Or.inr ⟨hc, ?_⟩⟩
    · rcases List.mem_append.1 hd with hd | hd <;> obtain ⟨a, ha, hd⟩ := List.mem_flatMap.1 hd
      · obtain ⟨d, rfl, rfl⟩ := dropColumn_mem_up hd
        exact l.column_ne_of_split hm hcolumns hu hs hf htail rfl rfl (by simpa [htail] using ha)
          (by rw [Action.column?, htable, heq])
      · obtain ⟨d, rfl, rfl⟩ := dropColumn_mem_down hd
        exact l.column_ne_of_split hm hcolumns hu hs hf htail rfl rfl
          (List.mem_append_right _ (List.mem_reverse.1 ha)) (by rw [Action.column?, htable, heq])
    · have hhere : .addColumn u.name c ∈ l.tail := by simp [htail]
      exact List.mem_append_left _ (List.mem_flatMap.2 ⟨_, hhere, List.mem_singleton_self _⟩)
  exact ⟨u, hu, rfl, t, hs, hkept, happroach.atDrop l hm hcolumns hu hs hkept htables hindexes hmid
    fun _ _ => l.index_of_back hm hu hf hlast hmem hleaves hthere hmid⟩

end Layout

/-- **The columns that a migration drops.**  Wherever a migration between valid schemas drops a column,
going up or going down, the column is droppable when the statements before have run exactly if it is
removable. -/
theorem compileDiff_drops_iff (hcurrent : current.errors = [])
    (h : compileDiff allow current target hints version name = .ok m) {before after : List Sql.Statement}
    (hsplit : m.actions.flatMap (·.up) ++ downStatements m.actions
      = before ++ .dropColumn table column :: after)
    (hrun : (Database.holding current).execAll before = some db) :
    ∃ u ∈ target.tables, u.name = table ∧
      ∃ t, (Renames.resolve current target hints).source current u = some t ∧
        (db.Droppable table column ↔ Removable (Renames.resolve current target hints) t u column) := by
  obtain ⟨herrors, -, l, hactions⟩ := layout_of_compileDiff h
  have hcurrent := Schema.valid_of_errors hcurrent
  have htarget := Schema.valid_of_errors herrors
  have hfits := Renames.resolve_fits current target hints
  rw [hactions] at hsplit
  obtain ⟨c, rfl, u, hu, rfl, t, hs, hkept, hdrop⟩ : ∃ c : Column, c.name = column ∧
      ∃ u ∈ target.tables, u.name = table ∧
        ∃ t, (Renames.resolve current target hints).source current u = some t ∧
        TableChange.needsRebuild ((Renames.resolve current target hints).apply t u.name) u = false ∧
          AtDrop (Renames.resolve current target hints) t u c db := by
    rcases split_sections hsplit with ⟨p, rfl, hdown⟩ | ⟨p, hup⟩
    · obtain ⟨pre, a, post, hback, ha, rfl⟩ := flatMap_split (fun a _ ha => by
        obtain ⟨c, rfl, rfl⟩ := dropColumn_mem_down ha
        rfl) hdown
      obtain ⟨c, rfl, rfl⟩ := dropColumn_mem_down ha
      have hforth : l.actions = post.reverse ++ .addColumn table c :: pre.reverse := by
        rw [← List.reverse_reverse l.actions, hback]
        simp
      exact ⟨c, rfl, l.atDrop_down hcurrent htarget hfits hforth (by rwa [List.reverse_reverse])⟩
    · obtain ⟨pre, a, post, hforth, ha, rfl⟩ := flatMap_split (fun a _ ha => by
        obtain ⟨c, rfl, rfl⟩ := dropColumn_mem_up ha
        rfl) hup
      obtain ⟨c, rfl, rfl⟩ := dropColumn_mem_up ha
      exact ⟨c, rfl, l.atDrop_up hcurrent htarget hfits hforth hrun⟩
  exact ⟨u, hu, rfl, t, hs, hdrop.droppable_iff (hcurrent.tables t (Renames.mem_of_source hs).1)
    (htarget.tables u hu) (inPlace_facts hkept).1⟩

/-- Guests with a note, found by their names. -/
def guestTable : Table where
  name := "guests"
  columns := [(Column.ofType "id" .integer).asPrimaryKey, .ofType "name" .text,
    (Column.ofType "note" .text).asNullable]
  indexes := [.ofColumns "by_name" "guests" ["name"]]

/-- Guests with a city, found by that as well. -/
def travellerTable : Table where
  name := "guests"
  columns := [(Column.ofType "id" .integer).asPrimaryKey, .ofType "name" .text,
    (Column.ofType "city" .text).asNullable]
  indexes := [.ofColumns "by_name" "guests" ["name"], .ofColumns "by_city" "guests" ["city"]]

/-- The guests alone. -/
def guestSchema : Schema := ⟨[guestTable], [], by decide +kernel⟩

/-- The same guests with cities. -/
def travellerSchema : Schema := ⟨[travellerTable], [], by decide +kernel⟩

/-- The city is dropped on the way back, and by then its index is gone. -/
theorem travellerSchema_droppable : ∃ m before after db,
    compileDiff true guestSchema travellerSchema {} 1 "cities" = .ok m ∧
      m.actions.flatMap (·.up) ++ downStatements m.actions
        = before ++ .dropColumn "guests" "city" :: after ∧
      (Database.holding guestSchema).execAll before = some db ∧ db.Droppable "guests" "city" := by
  obtain ⟨m, hm, hactions⟩ : ∃ m, compileDiff true guestSchema travellerSchema {} 1 "cities" = .ok m ∧
      m.actions = plainActions guestSchema travellerSchema {} := exists_compileDiff (by decide +kernel)
  have hplain : m.actions = [.addColumn "guests" ((Column.ofType "city" .text).asNullable),
      .dropColumn "guests" ((Column.ofType "note" .text).asNullable),
      .createIndex (.ofColumns "by_city" "guests" ["city"])] := hactions.trans (by decide +kernel)
  have hsplit : m.actions.flatMap (·.up) ++ downStatements m.actions
      = (m.actions.flatMap (·.up) ++ (downStatements m.actions).take 2)
        ++ .dropColumn "guests" "city" :: [] := by
    rw [hplain]
    decide +kernel
  have hruns : ((Database.holding guestSchema).execAll
      (m.actions.flatMap (·.up) ++ (downStatements m.actions).take 2)).isSome = true := by
    rw [hplain]
    decide +kernel
  obtain ⟨db, hrun⟩ := Option.isSome_iff_exists.1 hruns
  obtain ⟨u, hu, -, t, hs, hiff⟩ := compileDiff_drops_iff (by decide +kernel) hm hsplit hrun
  obtain rfl : u = travellerTable := List.mem_singleton.1 hu
  obtain rfl : t = guestTable := List.mem_singleton.1 (Renames.mem_of_source hs).1
  exact ⟨m, _, _, db, hm, hsplit, hrun, hiff.2 ⟨by decide +kernel, by simp [travellerTable],
    by decide +kernel⟩⟩

/-- Authors and books. -/
def bookSchema : Schema where
  tables := [{ name := "authors", columns := [(Column.ofType "id" .integer).asPrimaryKey] },
    { name := "books", columns := [(Column.ofType "id" .integer).asPrimaryKey] }]
  relationships := []
  distinct := by decide +kernel

/-- Books that may refer to an author. -/
def authoredSchema : Schema where
  tables := [{ name := "authors", columns := [(Column.ofType "id" .integer).asPrimaryKey] },
    { name := "books", columns := [(Column.ofType "id" .integer).asPrimaryKey,
      ((Column.ofType "author" .integer).asNullable).referring "authors" "id"] }]
  relationships := []
  distinct := by decide +kernel

/-- The foreign key is added in place, and dropped in place on the way back, which the comparison itself
would not have done. -/
theorem authoredSchema_not_droppable : bookSchema.errors = [] ∧ authoredSchema.errors = [] ∧
    ∃ m c before after db, compileDiff false bookSchema authoredSchema {} 1 "authors" = .ok m ∧
      m.actions = [.addColumn "books" c] ∧ TableChange.canDropInPlace c = false ∧
      m.actions.flatMap (·.up) ++ downStatements m.actions
        = before ++ .dropColumn "books" "author" :: after ∧
      (Database.holding bookSchema).execAll before = some db ∧ ¬ db.Droppable "books" "author" := by
  obtain ⟨m, hm, hactions⟩ : ∃ m, compileDiff false bookSchema authoredSchema {} 1 "authors" = .ok m ∧
      m.actions = plainActions bookSchema authoredSchema {} := exists_compileDiff (by decide +kernel)
  have hplain : m.actions = [.addColumn "books"
      (((Column.ofType "author" .integer).asNullable).referring "authors" "id")] :=
    hactions.trans (by decide +kernel)
  have hsplit : m.actions.flatMap (·.up) ++ downStatements m.actions
      = m.actions.flatMap (·.up) ++ .dropColumn "books" "author" :: [] := by
    rw [hplain]
    decide +kernel
  have hruns : ((Database.holding bookSchema).execAll (m.actions.flatMap (·.up))).any (fun db =>
      (db.tables (folded "books")).any fun t => t.columns.any fun x =>
        x.name == folded "author" && !x.targets.isEmpty) = true := by
    rw [hplain]
    decide +kernel
  obtain ⟨db, hrun, hrefers⟩ := (Option.any_eq_true _ _).1 hruns
  refine ⟨by decide +kernel, by decide +kernel, m, _, _, _, db, hm, hplain, by decide +kernel, hsplit, hrun,
    fun hdrop => ?_⟩
  obtain ⟨t, ht, hfree⟩ := hdrop.declared
  rw [ht, Option.any_some, List.any_eq_true] at hrefers
  obtain ⟨x, hx, hauthor⟩ := hrefers
  simp only [Bool.and_eq_true, beq_iff_eq, Bool.not_eq_true'] at hauthor
  simp [hfree.unreferring x hx hauthor.1] at hauthor

end Migration

end SchemaCompiler

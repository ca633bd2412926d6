import SchemaCompiler.Access.RustSource
import SchemaCompiler.Proofs.Access.Operations
import SchemaCompiler.Proofs.Schema.Validity
import SchemaCompiler.Proofs.Sql.Placements

/-!
# Values and placeholders

The access code of a table binds values by their position.  Which value comes first is fixed in four places
that know nothing of each other: the columns listed in the SQL text, the numbers of the parameters there, the
parameters of the operation, and the values that the generated code binds.  If one of them shifted, values
would be written into the wrong columns, and nothing would notice.  For a table without faults they agree.

* `Table.keyColumns_resolve`, `Table.any_primaryKey_of_autoIncrement` — every name in the key is that of a
  column, and a column that is counted up is in the key.
* `Plan.Columns` — the columns that each kind of operation assigns and compares.
* `mem_operationsOf` — what there is to know about an operation in a plan.
* `fields_inputOf` — the fields of an input type are the inputs of its operation.
* **`Plan.ofTable_bindings`** — parameters, placeholders, bound values and key agree.
-/

namespace SchemaCompiler

open Text (sameName)
open Sql (bind_eq_ok_iff)

/-! ## The key of a table -/

namespace Table

variable {t : Table}

/-- Every name in the primary key is that of a column. -/
lemma hasColumn_of_mem_primaryKey (h : t.Valid) {name : String} (hname : name ∈ t.primaryKey) :
    t.hasColumn name = true := by
  unfold primaryKey at hname
  cases hkey : t.keyConstraint? with
  | none =>
      rw [hkey] at hname
      obtain ⟨c, hc, rfl⟩ := List.mem_map.1 hname
      rw [hasColumn, column?_of_mem h.columns (List.mem_of_mem_filter hc) (Text.sameName_refl _)]
      rfl
  | some key =>
      rw [hkey] at hname
      obtain ⟨constraint, hmem, hcolumns⟩ := List.exists_of_findSome?_eq_some hkey
      refine h.constrained constraint hmem name ?_
      cases constraint with
      | primaryKey columns =>
          obtain rfl := Option.some.inj hcolumns
          exact hname
      | unique | check => cases hcolumns

/-- The columns of the key are those that its names stand for, name by name. -/
theorem keyColumns_resolve (h : t.Valid) :
    List.Forall₂ (fun name c => t.column? name = some c) t.primaryKey (Access.Plan.keyColumns t) := by
  have hall : ∀ name ∈ t.primaryKey, t.hasColumn name = true := fun _ => hasColumn_of_mem_primaryKey h
  unfold Access.Plan.keyColumns
  generalize t.primaryKey = names at hall ⊢
  induction names with
  | nil => exact .nil
  | cons name rest ih =>
      obtain ⟨c, hc⟩ := Option.isSome_iff_exists.1 (hall name List.mem_cons_self)
      rw [List.filterMap_cons_some hc]
      exact .cons hc (ih fun name hname => hall name (List.mem_cons_of_mem _ hname))

/-- A column that is counted up carries the mark of a key. -/
lemma primaryKey_of_columnErrors {table : String} {seen : List String} {cs : List Column}
    (h : columnErrors table seen cs = []) {c : Column} (hc : c ∈ cs) (hauto : c.autoIncrement = true) :
    c.primaryKey = true := by
  induction cs generalizing seen with
  | nil => simp at hc
  | cons d rest ih =>
      simp only [columnErrors, List.append_eq_nil_iff, List.map_eq_nil_iff] at h
      obtain ⟨⟨-, hfaults⟩, hrest⟩ := h
      rcases List.mem_cons.1 hc with rfl | hc
      · by_contra hno
        simp [Column.faults, hauto, hno] at hfaults
      · exact ih hrest hc

/-- **A column that is counted up is in the key**, whether the key is marked or a constraint. -/
theorem any_primaryKey_of_autoIncrement (h : t.errors = []) {c : Column} (hc : c ∈ t.columns)
    (hauto : c.autoIncrement = true) : t.primaryKey.any (sameName · c.name) = true := by
  simp only [errors, List.append_eq_nil_iff] at h
  obtain ⟨⟨⟨hcolumns, hkeys⟩, -⟩, -⟩ := h
  have hmarked : c.name ∈ t.markedKey :=
    List.mem_map.2 ⟨c, List.mem_filter.2 ⟨hc, primaryKey_of_columnErrors hcolumns hc hauto⟩, rfl⟩
  have hfirst : t.keyConstraint? = (t.constraints.filterMap TableConstraint.keyColumns?).head? :=
    List.head?_filterMap.symm
  unfold primaryKey
  cases hconstraints : t.constraints.filterMap TableConstraint.keyColumns? with
  | nil =>
      rw [hfirst, hconstraints]
      exact List.any_eq_true.2 ⟨_, hmarked, Text.sameName_refl _⟩
  | cons key more =>
      rw [hfirst, hconstraints]
      cases more with
      | nil =>
          simp only [keyErrors, hconstraints, List.append_eq_nil_iff] at hkeys
          obtain ⟨hkeys, -⟩ := hkeys
          by_contra hno
          rw [if_pos (List.any_eq_true.2 ⟨_, hmarked, by simpa using hno⟩)] at hkeys
          cases hkeys
      | cons => simp [keyErrors, hconstraints] at hkeys

end Table

namespace Access.Plan

variable {t : Table} {language : TargetLanguage} {o : Operation} {p : Plan}

/-! ## Operations -/

/-- The columns that an operation of a table assigns, and those that it compares. -/
inductive Columns (t : Table) : OperationKind → List Column → List Column → Prop
  | findById : Columns t .findById [] (keyColumns t)
  | findAll : Columns t .findAll [] []
  | create : Columns t .create (insertable t) []
  | update : updatable t ≠ [] → Columns t .update (updatable t) (keyColumns t)
  | delete : Columns t .delete [] (keyColumns t)
  | findByUnique {c : Column} : c ∈ t.columns → Columns t .findByUnique [] [c]

/-- The parameters of an operation are its columns, and its statement binds them in this order; what a page
takes comes last. -/
structure Made (language : TargetLanguage) (o : Operation) (set filter : List Column) : Prop where
  inputs : o.inputs = set.map (inputParameter language)
  keys : o.keys = filter.map (keyParameter language)
  text : ∃ ts, Sql.tokens o.sql = some ts ∧
    Sql.Binds ts (set.map (·.name)) (filter.map (·.name)) (if o.isPaginated then 2 else 0) ∧
    (o.isPaginated = true → Sql.pageTokens filter.length <:+ ts)

lemma tokens_of_statementText {s : Sql.Statement} {sql : String} (hquery : s.isQuery)
    (h : statementText s = .ok sql) : Sql.tokens sql = some s.tokens := by
  obtain ⟨text, htext, h⟩ := bind_eq_ok_iff.1 h
  obtain rfl := Except.ok.inj h
  cases hrender : s.render with
  | error e => simp [hrender, liftGeneration, Except.mapError] at htext
  | ok text' =>
      rw [hrender] at htext
      obtain rfl := Except.ok.inj htext
      exact Sql.tokens_of_trimEnd hquery hrender

/-- An operation is as good as its statement. -/
lemma made_of_draft {d : Draft} (set filter : List Column) (hquery : d.statement.isQuery)
    (h : d.Written o) (hinputs : d.inputs = set.map (inputParameter language))
    (hkeys : d.keys = filter.map (keyParameter language))
    (hbinds : Sql.Binds d.statement.tokens (set.map (·.name)) (filter.map (·.name))
      (if d.kind == .findAll then 2 else 0))
    (hpage : d.kind = .findAll → Sql.pageTokens filter.length <:+ d.statement.tokens) :
    Made language o set filter where
  inputs := h.inputs.trans hinputs
  keys := h.keys.trans hkeys
  text := by
    refine ⟨d.statement.tokens, tokens_of_statementText hquery h.sql, ?_, fun hpaginated => hpage ?_⟩
    · rwa [Operation.isPaginated, h.kind]
    · rw [← h.kind]
      simpa [Operation.isPaginated] using hpaginated

/-- **What there is to know about an operation**: its columns are those of its kind, and it is made from
them. -/
theorem mem_operationsOf {operations : List Operation} (h : operationsOf t language = .ok operations)
    (ho : o ∈ operations) : ∃ set filter, Columns t o.kind set filter ∧ Made language o set filter := by
  obtain ⟨d, hd, hwritten⟩ := exists_draft h ho
  rw [hwritten.kind]
  rcases mem_drafts_iff.1 hd with rfl | rfl | rfl | ⟨hne, rfl⟩ | rfl | ⟨c, hc, -, rfl⟩
  · exact ⟨_, _, .findById, made_of_draft [] _ rfl hwritten rfl rfl
      (Sql.binds_select t.name _ [] false) nofun⟩
  · exact ⟨_, _, .findAll, made_of_draft [] [] rfl hwritten rfl rfl
      (Sql.binds_select t.name [] _ true) fun _ => List.suffix_append _ _⟩
  · exact ⟨_, _, .create, made_of_draft _ [] rfl hwritten rfl rfl
      (Sql.binds_insert t.name _ true) nofun⟩
  · exact ⟨_, _, .update hne, made_of_draft _ _ rfl hwritten rfl rfl
      (Sql.binds_update t.name _ _ true) nofun⟩
  · exact ⟨_, _, .delete, made_of_draft [] _ rfl hwritten rfl rfl
      (Sql.binds_delete t.name _) nofun⟩
  · exact ⟨_, _, .findByUnique hc, made_of_draft [] [c] rfl hwritten rfl rfl
      (Sql.binds_select t.name [c.name] [] false) nofun⟩

/-! ## Input types -/

/-- A field as a value that is bound. -/
def parameterOf (f : Field) : Parameter := ⟨f.name, f.column, f.type, f.optional⟩

/-- **The fields of an input type** are those of the columns that it is made for, in their order. -/
theorem fields_inputOf {record : Declaration} (h : t.Valid) (hrecord : recordOf t language = .ok record)
    (name : String) (q : Column → Bool) :
    (inputOf record name (t.columns.filter q)).fields = (t.columns.filter q).map (fieldOf language) := by
  obtain ⟨-, -, hrecord⟩ := bind_eq_ok_iff.1 hrecord
  obtain rfl := Except.ok.inj hrecord
  rw [inputOf, List.filter_map]
  refine congrArg _ (List.filter_congr fun c hc => ?_)
  rw [Bool.eq_iff_iff]
  simp only [Function.comp_def, fieldOf, List.any_eq_true, List.mem_filter, beq_iff_eq]
  constructor
  · rintro ⟨d, ⟨hd, hq⟩, hname⟩
    have hsame : t.column? c.name = some d :=
      Table.column?_of_mem h.columns hd (by rw [hname]; exact Text.sameName_refl _)
    rw [Table.column?_of_mem h.columns hc (Text.sameName_refl _)] at hsame
    rwa [Option.some.inj hsame]
  · exact fun hq => ⟨c, ⟨hc, hq⟩, rfl⟩

lemma insertable_eq (t : Table) :
    insertable t = t.columns.filter fun c =>
      !c.autoIncrement && !t.primaryKey.any (sameName · c.name) :=
  List.filter_filter

/-- A column is neither in the key nor counted up. -/
def IsOutside (t : Table) (column : String) : Prop :=
  t.primaryKey.any (sameName · column) = false ∧
    ∀ c ∈ t.columns, sameName c.name column = true → c.autoIncrement = false

/-- **Outside the key nothing is counted up.** -/
lemma isOutside_of_mem_updatable (herrors : t.errors = []) {c : Column} (hc : c ∈ updatable t) :
    IsOutside t c.name := by
  have hkey : t.primaryKey.any (sameName · c.name) = false := by
    simpa using (List.mem_filter.1 hc).2
  refine ⟨hkey, fun d hd hname => ?_⟩
  by_contra hauto
  have hany := Table.any_primaryKey_of_autoIncrement herrors hd (by simpa using hauto)
  obtain ⟨k, hk, hkd⟩ := List.any_eq_true.1 hany
  have hyes : t.primaryKey.any (sameName · c.name) = true :=
    List.any_eq_true.2 ⟨k, hk, Text.sameName_trans hkd hname⟩
  rw [hkey] at hyes
  cases hyes

lemma mem_updatable_of_mem_insertable {c : Column} (hc : c ∈ insertable t) : c ∈ updatable t :=
  List.mem_of_mem_filter hc

/-! ## The text of an operation -/

/-- A text shows another one somewhere. -/
def Shows (text part : String) : Prop := ∃ before after, text = before ++ part ++ after

section Shows

variable {text part : String}

lemma Shows.refl (part : String) : Shows part part := ⟨"", "", by simp⟩

lemma Shows.left (h : Shows text part) (before : String) : Shows (before ++ text) part := by
  obtain ⟨b, a, rfl⟩ := h
  exact ⟨before ++ b, a, by simp only [String.append_assoc]⟩

lemma Shows.right (h : Shows text part) (after : String) : Shows (text ++ after) part := by
  obtain ⟨b, a, rfl⟩ := h
  exact ⟨b, a ++ after, by simp only [String.append_assoc]⟩

end Shows

/-- A method prepares its statement and binds its values in one call. -/
lemma shows_methodSource (p : Plan) (pageSize : Nat) (o : Operation) :
    Shows (TypeScript.methodSource p pageSize o) (TypeScript.boundStatement o) := by
  have h := fun before => (Shows.refl (TypeScript.boundStatement o)).left before
  have hbody : Shows (TypeScript.bodySource p o) (TypeScript.boundStatement o) := by
    unfold TypeScript.bodySource
    cases o.kind with
    | findById | findByUnique | update | findAll => exact (((h _).right _).right _).right _
    | create => exact (((((h _).right _).right _).right _).right _).right _
    | delete => exact (h _).right _
  unfold TypeScript.methodSource
  exact (hbody.left _).right _

/-- A function prepares its statement and binds its values one by one. -/
lemma shows_functionSource (p : Plan) (o : Operation) :
    Shows (Rust.functionSource p o) (Text.quoted o.sql ++ (")\n" ++ Rust.bindLines o)) := by
  have hcall : ∀ before, Shows (before ++ Text.quoted o.sql ++ ")\n" ++ Rust.bindLines o)
      (Text.quoted o.sql ++ (")\n" ++ Rust.bindLines o)) := fun before => by
    rw [String.append_assoc, String.append_assoc]
    exact (Shows.refl _).left before
  have hbody : Shows (Rust.bodySource p o) (Text.quoted o.sql ++ (")\n" ++ Rust.bindLines o)) := by
    unfold Rust.bodySource
    cases o.kind with
    | delete => exact (hcall _).right _
    | _ => exact (((hcall _).right _).right _).right _
  unfold Rust.functionSource
  exact (hbody.left _).right _

/-! ## Agreement -/

/-- **The values of an operation are bound where they belong.**  The parameters of its statement are numbered
in the order of writing, and there are as many as values.  The value at a place is that of the column which
the parameter is assigned to or compared with.  The code of either language prepares the statement and binds
the values in this order, a page's limit and offset last. -/
structure BoundInOrder (language : TargetLanguage) (o : Operation) : Prop where
  text : ∃ ts, Sql.tokens o.sql = some ts ∧
    Sql.placeholders ts =
      List.range' 1 (o.inputs.length + o.keys.length + if o.isPaginated then 2 else 0) ∧
    Sql.assigned ts ++ Sql.compared ts = (o.bindings.map (·.column)).zipIdx 1 ∧
    Sql.assigned ts = (o.inputs.map (·.column)).zipIdx 1 ∧
    (o.isPaginated = true → Sql.pageTokens (o.inputs.length + o.keys.length) <:+ ts)
  fields : ∀ i ∈ o.inputs, i.name = fieldName i.column language
  arguments : ∀ k ∈ o.keys, k.name = argumentName k.column language
  typeScript : ∀ p pageSize, Shows (TypeScript.methodSource p pageSize o)
    ("this.db\n      .prepare(" ++ Json.stringLiteral o.sql ++ ")\n      .bind("
      ++ ", ".intercalate (o.inputs.map (fun i => TypeScript.propertyAccess "input" i.name)
        ++ o.keys.map (·.name) ++ (if o.isPaginated then ["limit", "offset"] else [])) ++ ")")
  rust : ∀ p, Shows (Rust.functionSource p o)
    (Text.quoted o.sql ++ (")\n" ++ String.join ((o.inputs.map (fun i => "&input." ++ i.name)
      ++ o.keys.map (·.name) ++ (if o.isPaginated then ["limit", "offset"] else [])).map
        fun value => "        .bind(" ++ value ++ ")\n")))

lemma boundInOrder_of_made {set filter : List Column} (hcolumns : Columns t o.kind set filter)
    (h : Made language o set filter) : BoundInOrder language o where
  text := by
    obtain ⟨ts, hts, hbinds, hpage⟩ := h.text
    have hset : o.inputs.map (·.column) = set.map (·.name) := by simp [h.inputs, inputParameter]
    have hfilter : o.keys.map (·.column) = filter.map (·.name) := by simp [h.keys, keyParameter]
    have hinputs : o.inputs.length = set.length := by simp [h.inputs]
    have hkeys : o.keys.length = filter.length := by simp [h.keys]
    refine ⟨ts, hts, ?_, ?_, ?_, fun hpaginated => ?_⟩
    · simpa [hinputs, hkeys] using hbinds.placeholders
    · rw [hbinds.assigned, hbinds.compared, Operation.bindings, List.map_append, hset, hfilter,
        List.zipIdx_append, Nat.add_comm]
    · rw [hbinds.assigned, hset]
    · have hkind : o.kind = .findAll := by simpa [Operation.isPaginated] using hpaginated
      have hpage := hpage hpaginated
      rw [hinputs, hkeys]
      rw [hkind] at hcolumns
      cases hcolumns
      exact hpage
  fields := by
    rw [h.inputs]
    simp [inputParameter]
  arguments := by
    rw [h.keys]
    simp [keyParameter]
  typeScript := fun p pageSize => shows_methodSource p pageSize o
  rust := fun p => shows_functionSource p o

/-- What there is to know about a plan. -/
lemma ofTable_eq_ok (h : ofTable t language = .ok p) :
    p.language = language ∧ recordOf t language = .ok p.record ∧
      operationsOf t language = .ok p.operations ∧
      p.createInput = inputOf p.record ("New" ++ p.record.name) (insertable t) ∧
      p.updateInput = if (updatable t).isEmpty then none
        else some (inputOf p.record (p.record.name ++ "Update") (updatable t)) := by
  unfold ofTable at h
  by_cases hempty : t.primaryKey.isEmpty = true
  · rw [if_pos hempty] at h
    obtain ⟨_, herror, _⟩ := bind_eq_ok_iff.1 h
    cases herror
  · rw [if_neg hempty] at h
    obtain ⟨record, hrecord, h⟩ := bind_eq_ok_iff.1 h
    obtain ⟨operations, hoperations, h⟩ := bind_eq_ok_iff.1 h
    obtain ⟨-, -, h⟩ := bind_eq_ok_iff.1 h
    obtain rfl := Except.ok.inj h
    exact ⟨rfl, hrecord, hoperations, rfl, rfl⟩

/-- **Inputs and fields are the same list.**  Creating takes the fields of its input type one by one, and so
does updating. -/
lemma inputs_eq_fields (hvalid : t.Valid) (h : ofTable t language = .ok p) (ho : o ∈ p.operations) :
    (o.kind = .create → o.inputs = p.createInput.fields.map parameterOf) ∧
      (o.kind = .update → ∃ d, p.updateInput = some d ∧ o.inputs = d.fields.map parameterOf) := by
  obtain ⟨-, hrecord, hoperations, hcreate, hupdate⟩ := ofTable_eq_ok h
  obtain ⟨set, filter, hcolumns, hmade⟩ := mem_operationsOf hoperations ho
  have hfields : ∀ cs : List Column,
      (cs.map (fieldOf language)).map parameterOf = cs.map (inputParameter language) := fun cs => by
    rw [List.map_map]
    rfl
  refine ⟨fun hkind => ?_, fun hkind => ?_⟩
  · rw [hkind] at hcolumns
    cases hcolumns
    rw [hmade.inputs, hcreate, insertable_eq, fields_inputOf hvalid hrecord, hfields]
  · rw [hkind] at hcolumns
    cases hcolumns with
    | update hne =>
        rw [if_neg (by simpa using hne)] at hupdate
        refine ⟨_, hupdate, ?_⟩
        rw [hmade.inputs, updatable, fields_inputOf hvalid hrecord, hfields]

/-- **Parameters, placeholders, bound values and key agree** in the plan of a table without faults.  The
values of every operation are bound where they belong; one row is found, changed and deleted by the columns of
the primary key, name by name; what is created and what is changed are the fields of the input types, and no
column of the key and none that is counted up is among them. -/
theorem ofTable_bindings (herrors : t.errors = []) (h : ofTable t language = .ok p) :
    (∀ o ∈ p.operations, BoundInOrder language o) ∧
    (∀ o ∈ p.operations, o.kind = .findById ∨ o.kind = .update ∨ o.kind = .delete →
      List.Forall₂ (fun name (k : Parameter) => ∃ c, t.column? name = some c ∧ k.column = c.name)
        t.primaryKey o.keys) ∧
    (∀ o ∈ p.operations,
      (o.kind = .create → o.inputs = p.createInput.fields.map parameterOf) ∧
      (o.kind = .update → ∃ d, p.updateInput = some d ∧ o.inputs = d.fields.map parameterOf)) ∧
    (∀ o ∈ p.operations, o.kind = .create ∨ o.kind = .update →
      (∀ i ∈ o.inputs, IsOutside t i.column) ∧
      ∀ ts, Sql.tokens o.sql = some ts → ∀ q ∈ Sql.assigned ts, IsOutside t q.1) ∧
    (∀ f ∈ p.createInput.fields, IsOutside t f.column) ∧
    ∀ d, p.updateInput = some d → ∀ f ∈ d.fields, IsOutside t f.column := by
  have hvalid := Table.valid_of_errors herrors
  obtain ⟨-, hrecord, hoperations, hcreate, hupdate⟩ := ofTable_eq_ok h
  have hbound : ∀ o ∈ p.operations, BoundInOrder language o := fun o ho => by
    obtain ⟨set, filter, hcolumns, hmade⟩ := mem_operationsOf hoperations ho
    exact boundInOrder_of_made hcolumns hmade
  have hinputs : ∀ o ∈ p.operations, o.kind = .create ∨ o.kind = .update →
      ∀ i ∈ o.inputs, IsOutside t i.column := fun o ho hkind i hi => by
    obtain ⟨set, filter, hcolumns, hmade⟩ := mem_operationsOf hoperations ho
    rw [hmade.inputs] at hi
    obtain ⟨c, hc, rfl⟩ := List.mem_map.1 hi
    rcases hkind with hkind | hkind <;> rw [hkind] at hcolumns <;> cases hcolumns
    · exact isOutside_of_mem_updatable herrors (mem_updatable_of_mem_insertable hc)
    · exact isOutside_of_mem_updatable herrors hc
  refine ⟨hbound, fun o ho hkind => ?_, fun o ho => inputs_eq_fields hvalid h ho,
    fun o ho hkind => ⟨hinputs o ho hkind, fun ts hts q hq => ?_⟩, fun f hf => ?_, fun d hd f hf => ?_⟩
  · obtain ⟨set, filter, hcolumns, hmade⟩ := mem_operationsOf hoperations ho
    have hfilter : filter = keyColumns t := by
      rcases hkind with hkind | hkind | hkind <;> rw [hkind] at hcolumns <;> cases hcolumns <;> rfl
    rw [hmade.keys, hfilter, List.forall₂_map_right_iff]
    exact (Table.keyColumns_resolve hvalid).imp fun name c hc => ⟨c, hc, rfl⟩
  · obtain ⟨us, hus, -, -, hassigned, -⟩ := (hbound o ho).text
    obtain rfl := Option.some.inj (hts.symm.trans hus)
    rw [hassigned] at hq
    obtain ⟨i, hi, hcolumn⟩ := List.mem_map.1 (List.fst_mem_of_mem_zipIdx hq)
    exact hcolumn ▸ hinputs o ho hkind i hi
  · rw [hcreate, insertable_eq, fields_inputOf hvalid hrecord, ← insertable_eq] at hf
    obtain ⟨c, hc, rfl⟩ := List.mem_map.1 hf
    exact isOutside_of_mem_updatable herrors (mem_updatable_of_mem_insertable hc)
  · split_ifs at hupdate
    · rw [hupdate] at hd
      cases hd
    · rw [hupdate] at hd
      obtain rfl := Option.some.inj hd
      rw [updatable, fields_inputOf hvalid hrecord] at hf
      obtain ⟨c, hc, rfl⟩ := List.mem_map.1 hf
      exact isOutside_of_mem_updatable herrors hc

/-- A table with a key of two columns that a constraint names in another order and in other letters. -/
def seatTable : Table where
  name := "seats"
  columns := [
    { name := "Row", scalarType := .integer },
    { name := "hall", scalarType := .text },
    { name := "code", scalarType := .text, unique := true },
    { name := "guest", scalarType := .text, nullable := true }]
  constraints := [.primaryKey ["HALL", "row"]]

/-- Of a seat the code and the guest are created and changed, and it is found by hall and row. -/
theorem seatTable_bound : seatTable.errors = [] ∧
    ∃ p, ofTable seatTable .rust = .ok p ∧ p.operations.length = 6 ∧
      ∀ o ∈ p.operations, BoundInOrder .rust o := by
  have herrors : seatTable.errors = [] := by decide +kernel
  obtain ⟨p, hp, hlength⟩ : ∃ p, ofTable seatTable .rust = .ok p ∧ p.operations.length = 6 := by
    have hsome : ((ofTable seatTable .rust).toOption.map (·.operations.length)) = some 6 := by
      decide +kernel
    cases hplan : ofTable seatTable .rust with
    | error e => simp [hplan, Except.toOption] at hsome
    | ok p => exact ⟨p, rfl, by simpa [hplan, Except.toOption] using hsome⟩
  exact ⟨herrors, p, hp, hlength, (ofTable_bindings herrors hp).1⟩

end Access.Plan

end SchemaCompiler

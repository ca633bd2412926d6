import SchemaCompiler.Proofs.Catalog.Basic
import SchemaCompiler.Proofs.Json.Records
import SchemaCompiler.Schema.Format

/-!
# Snapshots

A snapshot is a schema as a document as a text.  This file follows it back: the text is read as the JSON
value that was written, the value as the document, and the document as the schema.

Reading a document is more than the reverse of writing it.  The declared types of all columns are looked at
first, under any name that stands for a type; the types written are names of that sort
(`ScalarType.ofDeclared_sqlName`).  A column, an index or a table is written without the fields that hold a
default, and read with the defaults put in, so the two have to agree on each of them (`Column.reads` and
its like).  And the text is refused when it is nested too deeply, which no document is
(`SchemaDocument.plain`).

* `Column.reads`, `Index.reads`, `TableConstraint.reads`, `Table.reads`, `Relationship.reads` — the parts.
* `SchemaDocument.ofJson_encode`, `SchemaDocument.parse_toJson` — documents as values and as texts.
* `SchemaDocument.snapshot_roundTrip` — documents and schemas.
-/

namespace SchemaCompiler

open Json

/-! ## Names -/

lemma OnDelete.lookup_key (a : OnDelete) : OnDelete.variants.lookup a.key = some a := by
  cases a <;> decide

lemma IndexKind.lookup_key (k : IndexKind) : IndexKind.variants.lookup k.key = some k := by
  cases k <;> decide

lemma RelationshipKind.lookup_key (k : RelationshipKind) :
    RelationshipKind.variants.lookup k.key = some k := by
  cases k <;> decide

lemma ScalarType.ofDeclared_eq_ok {declared : String} {t : ScalarType}
    (h : ofBaseName (baseName declared) = some t) : ofDeclared declared = .ok t := by
  unfold ofDeclared
  rw [h]

/-- The name of a type in DDL is a name under which the type may be declared. -/
lemma ScalarType.ofDeclared_sqlName (t : ScalarType) : ofDeclared t.sqlName = .ok t :=
  ofDeclared_eq_ok (by cases t <;> decide +kernel)

lemma readBack_scalarType (t : ScalarType) :
    readBack ScalarType.decode (some (.string t.sqlName)) = .ok (some t) := by
  have h : ScalarType.decode (.string t.sqlName) = .ok t := by
    simp only [ScalarType.decode, asText, bind, Except.bind, t.ofDeclared_sqlName]
  rw [readBack, canonical_string, h]
  rfl

/-! ## Parts of a document -/

theorem ForeignKey.reads : Reads ForeignKey.decode ForeignKey.encode := by
  intro r
  simp [encode, decode, record, field_kept, lookup_cons_ite]

lemma ForeignKey.canonical_encode_ne_null (r : ForeignKey) : r.encode.canonical ≠ .null := by
  simp [encode]

lemma Column.lookup_onDelete (a : OnDelete) (name : String) :
    (if a = .noAction then [] else [("on_delete", Json.string a.key)]).reverse.lookup name =
      if name = "on_delete" then if a = .noAction then none else some (.string a.key) else none := by
  split_ifs <;> simp_all [lookup_cons_ite]

lemma Column.readBack_onDelete (a : OnDelete) :
    readBack (asVariant OnDelete.variants) (if a = .noAction then none else some (.string a.key))
      = .ok (if a = .noAction then none else some a) := by
  split_ifs
  · rfl
  · exact readBack_variant OnDelete.lookup_key a

theorem Column.reads : Reads Column.decode Column.encode := by
  intro c
  simp [encode, decode, record, field_kept, List.lookup_append, lookup_cons_ite,
    lookup_onDelete, readBack_onDelete, readBack_scalarType,
    readBack_optional ForeignKey.reads ForeignKey.canonical_encode_ne_null]

theorem Index.reads : Reads Index.decode Index.encode := by
  intro i
  simp [encode, decode, record, field_kept, List.lookup_append, lookup_cons_ite,
    readBack_variant IndexKind.lookup_key, readBack_optionalList reads_text]

/-- The form that the tag names reads the whole object, tag included. -/
lemma TableConstraint.decode_kept {fields : Fields} {name : String} {form : Decoder TableConstraint}
    (hkind : fields.reverse.lookup "kind" = some (.string name))
    (hform : variants.lookup name = some form) :
    decode (.object (kept fields)) = form (.object (kept fields)) := by
  have hread : readBack TableConstraint.form (some (.string name)) = .ok (some form) := by
    simp [readBack, TableConstraint.form, variantNamed, hform, Except.map]
  simp [decode, field_kept, hkind, hread]

theorem TableConstraint.reads : Reads TableConstraint.decode TableConstraint.encode := by
  intro c
  cases c with
  | primaryKey columns =>
      rw [encode, canonical_object, decode_kept rfl rfl]
      simp [content, field_kept]
  | unique columns =>
      rw [encode, canonical_object, decode_kept rfl rfl]
      simp [content, field_kept]
  | check expression =>
      rw [encode, canonical_object, decode_kept rfl rfl]
      simp [content, field_kept]

theorem Table.reads : Reads Table.decode Table.encode := by
  intro t
  simp [encode, decode, record, field_kept, List.lookup_append, lookup_cons_ite,
    readBack_list Column.reads, readBack_optionalList Index.reads,
    readBack_optionalList TableConstraint.reads]

theorem Relationship.reads : Reads Relationship.decode Relationship.encode := by
  intro r
  simp [encode, decode, record, field_kept, List.lookup_append, lookup_cons_ite,
    readBack_variant RelationshipKind.lookup_key]

theorem SchemaDocument.reads : Reads SchemaDocument.decode SchemaDocument.encode := by
  intro d
  simp [encode, decode, record, field_kept, List.lookup_append, lookup_cons_ite,
    readBack_list Table.reads, readBack_optionalList Relationship.reads]

/-! ## Declared types -/

namespace SchemaDocument

lemma declaredType?_column (c : Column) :
    declaredType? c.encode.canonical = some c.scalarType.sqlName := by
  simp [declaredType?, Column.encode, get?, lookup_kept, List.lookup_append,
    lookup_cons_ite, Column.lookup_onDelete, asString?]

lemma columns_table (t : Table) :
    t.encode.canonical.get? "columns" = some (.array (t.columns.map fun c => c.encode.canonical)) := by
  simp [Table.encode, get?, lookup_kept, List.lookup_append]

lemma tables_document (d : SchemaDocument) :
    d.encode.canonical.get? "tables" = some (.array (d.tables.map fun t => t.encode.canonical)) := by
  simp [encode, get?, lookup_kept, List.lookup_append]

lemma declaredTypes_encode (d : SchemaDocument) :
    declaredTypes d.encode.canonical =
      d.tables.flatMap fun t => t.columns.map (·.scalarType.sqlName) := by
  simp [declaredTypes, tables_document, columns_table, items, List.flatMap_map, List.filterMap_map,
    declaredType?_column]

lemma unknownType?_encode (d : SchemaDocument) : unknownType? d.encode.canonical = none := by
  simp only [unknownType?, declaredTypes_encode, List.findSome?_eq_none_iff, List.mem_flatMap, List.mem_map]
  rintro name ⟨t, -, c, -, rfl⟩
  rw [ScalarType.ofDeclared_sqlName]

end SchemaDocument

/-! ## Depth

Brackets are opened inside each other by the document, its list of tables, a table, its list of columns, a
column and the target of its foreign key. -/

lemma ForeignKey.plain {depth : Nat} (r : ForeignKey) : Plain (depth + 1) r.encode := by
  simp [encode]

lemma Column.plain_onDelete {depth : Nat} (a : OnDelete) :
    PlainFields depth (if a = .noAction then [] else [("on_delete", .string a.key)]) := by
  split_ifs <;> simp

lemma Column.plain {depth : Nat} (c : Column) : Plain (depth + 2) c.encode := by
  simp [encode, plain_onDelete, plainFields_optionalField ForeignKey.plain,
    plainFields_optionalField plain_string]

lemma Index.plain {depth : Nat} (i : Index) : Plain (depth + 2) i.encode := by
  simp [encode, plainFields_optionalField plain_string, plainFields_optionalList plain_string]

lemma TableConstraint.plain {depth : Nat} (c : TableConstraint) : Plain (depth + 2) c.encode := by
  cases c <;> simp [encode]

lemma Table.plain {depth : Nat} (t : Table) : Plain (depth + 4) t.encode := by
  simp [encode, plain_array_map Column.plain, plainFields_optionalList Index.plain,
    plainFields_optionalList TableConstraint.plain, plainFields_optionalField plain_string]

lemma Relationship.plain {depth : Nat} (r : Relationship) : Plain (depth + 1) r.encode := by
  simp [encode, plainFields_optionalField plain_string]

lemma SchemaDocument.plain {depth : Nat} (d : SchemaDocument) : Plain (depth + 6) d.encode := by
  simp [encode, plain_array_map Table.plain, plainFields_optionalList Relationship.plain]

namespace SchemaDocument

lemma ofJson_encode (d : SchemaDocument) : ofJson d.encode.canonical = .ok d := by
  rw [ofJson, unknownType?_encode, reads d]
  rfl

lemma parse_toJson (d : SchemaDocument) : SchemaDocument.parse .json d.toJson = .ok d := by
  have hjson : Json.parse d.toJson = .ok d.encode.canonical := parse_pretty d.plain
  rw [parse, DocumentFormat.toJson, hjson]
  exact d.ofJson_encode

end SchemaDocument

/-! ## Schemas -/

namespace Schema

lemma tables_of_insert {s s' : Schema} {t : Table} (h : s.insert t = .ok s') :
    s'.tables = s.tables ++ [t] := by
  unfold insert at h
  split at h
  · cases h
  · cases h
    rfl

lemma insert_of_distinct {s : Schema} {t : Table} (h : DistinctNames (s.tables ++ [t])) :
    s.insert t = .ok ⟨s.tables ++ [t], s.relationships, h⟩ := by
  have hnew : s.table? t.name = none :=
    table?_eq_none_iff.2 fun a ha => (List.pairwise_append.1 h).2.2 a ha t (List.mem_singleton_self t)
  unfold insert
  split
  · next hfound => cases hnew.symm.trans hfound
  · rfl

end Schema

namespace SchemaDocument

lemma tables_insertAll (s : Schema) (ts : List Table) (h : (insertAll s ts).2 = []) :
    (insertAll s ts).1.tables = s.tables ++ ts := by
  induction ts generalizing s with
  | nil => simp [insertAll]
  | cons t ts ih =>
      rw [insertAll] at h ⊢
      cases hinsert : s.insert t with
      | error e => simp [hinsert] at h
      | ok s' =>
          simp only [hinsert] at h ⊢
          rw [ih s' h, Schema.tables_of_insert hinsert, List.append_assoc, List.singleton_append]

/-- Tables whose names are different are inserted without refusal. -/
lemma insertAll_of_distinct (s : Schema) (ts : List Table) (h : DistinctNames (s.tables ++ ts)) :
    insertAll s ts = (⟨s.tables ++ ts, s.relationships, h⟩, []) := by
  induction ts generalizing s with
  | nil => simp [insertAll]
  | cons t ts ih =>
      have happend : s.tables ++ t :: ts = (s.tables ++ [t]) ++ ts := by simp
      have ht : DistinctNames (s.tables ++ [t]) := (List.pairwise_append.1 (happend ▸ h)).1
      rw [insertAll, Schema.insert_of_distinct ht]
      simp only
      rw [ih _ (happend ▸ h)]
      simp

lemma ofSchema_of_toSchema {d : SchemaDocument} {s : Schema} (h : d.toSchema = .ok s) :
    ofSchema s = d := by
  have htables := tables_insertAll .empty d.tables
  unfold toSchema at h
  generalize insertAll .empty d.tables = inserted at h htables
  obtain ⟨full, _ | ⟨e, errors⟩⟩ := inserted
  · cases h
    exact congrArg (fun ts => SchemaDocument.mk ts d.relationships) (htables rfl)
  · cases h

lemma toSchema_ofSchema (s : Schema) : (ofSchema s).toSchema = .ok s := by
  rw [toSchema, ofSchema, insertAll_of_distinct .empty s.tables s.distinct]
  rfl

/-- **A snapshot says everything.**  Every document is what its text is read as, a schema made from a
document is described by that document, and so a schema that is written and read back is the same. -/
theorem snapshot_roundTrip :
    (∀ d : SchemaDocument, SchemaDocument.parse .json d.toJson = .ok d)
      ∧ (∀ (d : SchemaDocument) (s : Schema), d.toSchema = .ok s → ofSchema s = d)
      ∧ ∀ s : Schema, (SchemaDocument.parse .json (ofSchema s).toJson).bind toSchema = .ok s := by
  refine ⟨parse_toJson, fun d s h => ofSchema_of_toSchema h, fun s => ?_⟩
  rw [parse_toJson]
  exact toSchema_ofSchema s

/-- A document with texts that have to be escaped, and fields that are left out in one place and written
in another. -/
def bookshelf : SchemaDocument where
  tables :=
    [{ name := "shelf"
       columns := [{ name := "id", scalarType := .integer, primaryKey := true }]
       comment := some "two\nlines" },
     { name := "book \"α\""
       columns :=
         [{ name := "shelf", scalarType := .integer, nullable := true, defaultValue := some "\x01\\"
            references := some ⟨"shelf", "id"⟩, onDelete := .setNull },
          { name := "title", scalarType := .text, check := some "title <> ''" }]
       indexes :=
         [{ name := "", table := "", columns := ["title"], kind := .covering, carried := ["shelf"] }]
       constraints := [.unique ["shelf", "title"], .check "1\t= 1"] }]
  relationships := [⟨"shelf", "book \"α\"", .oneToMany, none⟩]

theorem bookshelf_roundTrip :
    SchemaDocument.parse .json bookshelf.toJson = .ok bookshelf
      ∧ ∃ s, bookshelf.toSchema = .ok s ∧ ofSchema s = bookshelf :=
  ⟨snapshot_roundTrip.1 bookshelf, ⟨bookshelf.tables, bookshelf.relationships, by decide⟩, rfl,
    snapshot_roundTrip.2.1 bookshelf _ rfl⟩

end SchemaDocument

end SchemaCompiler

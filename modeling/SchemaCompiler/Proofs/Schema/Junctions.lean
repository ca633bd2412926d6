import SchemaCompiler.Proofs.Schema.Validity

/-!
# Tables that link two others

Rows of two tables correspond many to many where a third table says so: its key has two columns, one refers to
one of the two tables and one to the other, and each pair of rows is there at most once.  Validation looks for
such a table and reports a relationship without one.

It looks at less than that.  The two places of the key may hold one column twice, and then a single
reference is counted for both ends of a relationship of a table with itself; a key over one column admits
each row once and nothing is linked.  And names are compared by their small forms, although two tables may
have one small form: a reference to the table `É` is taken for one to the table `é`.  For tables with
different small forms the first is the only mistake.

* `Table.ColumnRefersTo`, `Table.Links` — what is meant by a link.
* `Table.SeemsToLink` — what is taken for a link without being one.
* `isJunction_iff` — what validation looks at.
* `Linked`, `Mistaken` — a relationship that has a link, or only what seems to be one.
* **`manyToMany_linked_iff`** — validation is right exactly if it does not take anything else for a link.
-/

namespace SchemaCompiler

open Text (sameName toLowercase)

/-! ## Links -/

/-- Two columns have to do with two tables, one with one and one with the other. -/
def Connects (R : String → String → Prop) (first second a b : String) : Prop :=
  R first a ∧ R second b ∨ R first b ∧ R second a

lemma Connects.imp {R S : String → String → Prop} {first second a b : String}
    (h : Connects R first second a b)
    (hRS : ∀ column name, name = a ∨ name = b → R column name → S column name) :
    Connects S first second a b :=
  Or.imp (And.imp (hRS _ _ (.inl rfl)) (hRS _ _ (.inr rfl)))
    (And.imp (hRS _ _ (.inr rfl)) (hRS _ _ (.inl rfl))) h

namespace Table

/-- A column of the table is a foreign key to another table. -/
def ColumnRefersTo (t : Table) (column name : String) : Prop :=
  ∃ c ∈ t.columns, sameName c.name column = true ∧
    ∃ k, c.references = some k ∧ sameName k.table name = true

/-- **The table links two others**: it has a key constraint over two different columns, and one of them refers
to one table and one to the other. -/
def Links (t : Table) (a b : String) : Prop :=
  ∃ first second, .primaryKey [first, second] ∈ t.constraints ∧ sameName first second = false ∧
    Connects t.ColumnRefersTo first second a b

/-- A column of the table is a foreign key to a table whose name has the same small form. -/
def SeemsToReferTo (t : Table) (column name : String) : Prop :=
  Schema.referredTable t column = some (toLowercase name)

/-- **The table seems to link two others**: the small forms are right, but the key is one column twice, or it
refers to other tables. -/
def SeemsToLink (t : Table) (a b : String) : Prop :=
  ∃ first second, t.keyConstraint? = some [first, second] ∧
    Connects t.SeemsToReferTo first second a b ∧
    (sameName first second = true ∨ ¬ Connects t.ColumnRefersTo first second a b)

variable {t : Table} {a b : String}

/-- What validation looks at. -/
lemma isJunction_iff : Schema.isJunction t a b = true ↔
    ∃ first second, t.keyConstraint? = some [first, second] ∧
      Connects t.SeemsToReferTo first second a b := by
  unfold Schema.isJunction
  split
  · rename_i first second hkey
    simp [hkey, Connects, SeemsToReferTo]
  · rename_i hkey
    simp only [Bool.false_eq_true, false_iff, not_exists, not_and]
    exact fun first second h => absurd h (hkey first second)

lemma mem_constraints_of_keyConstraint? {columns : List String} (h : t.keyConstraint? = some columns) :
    .primaryKey columns ∈ t.constraints := by
  obtain ⟨k, hk, hcolumns⟩ := List.exists_of_findSome?_eq_some h
  cases k with
  | primaryKey cs =>
      obtain rfl := Option.some.inj hcolumns
      exact hk
  | unique | check => cases hcolumns

/-- What passes for a link is one or seems to be one. -/
lemma links_or_seemsToLink (h : Schema.isJunction t a b = true) : t.Links a b ∨ t.SeemsToLink a b := by
  obtain ⟨first, second, hkey, hseems⟩ := isJunction_iff.1 h
  by_cases hlinks : sameName first second = false ∧ Connects t.ColumnRefersTo first second a b
  · exact .inl ⟨first, second, mem_constraints_of_keyConstraint? hkey, hlinks⟩
  · refine .inr ⟨first, second, hkey, hseems, ?_⟩
    rw [not_and_or, Bool.not_eq_false] at hlinks
    exact hlinks

/-- What seems to be a link passes for one. -/
lemma SeemsToLink.isJunction (h : t.SeemsToLink a b) : Schema.isJunction t a b = true := by
  obtain ⟨first, second, hkey, hseems, -⟩ := h
  exact isJunction_iff.2 ⟨first, second, hkey, hseems⟩

end Table

namespace Schema

variable {s : Schema} {r : Relationship}

/-! ## Relationships -/

/-- A table that may link the ends of a relationship: the one that is named for it, or any. -/
def MayLink (s : Schema) (r : Relationship) (t : Table) : Prop :=
  t ∈ s.tables ∧ ∀ name, r.through = some name → sameName t.name name = true

/-- The ends of a relationship are linked. -/
def Linked (s : Schema) (r : Relationship) : Prop :=
  ∃ t, s.MayLink r t ∧ t.Links r.source r.target

/-- Something seems to link the ends of a relationship. -/
def Mistaken (s : Schema) (r : Relationship) : Prop :=
  ∃ t, s.MayLink r t ∧ t.SeemsToLink r.source r.target

lemma hasJunction_iff : s.hasJunction r = true ↔
    ∃ t, s.MayLink r t ∧ isJunction t r.source r.target = true := by
  unfold hasJunction MayLink
  cases hthrough : r.through with
  | none => simp [List.any_eq_true]
  | some name =>
      simp only [Option.any_eq_true, table?_eq_some_iff, Option.some.injEq, forall_eq']

/-- Where something passes for a link there is one, or a mistake is made. -/
lemma linked_or_mistaken (h : s.hasJunction r = true) : s.Linked r ∨ s.Mistaken r := by
  obtain ⟨t, ht, hjunction⟩ := hasJunction_iff.1 h
  exact (Table.links_or_seemsToLink hjunction).imp (fun h => ⟨t, ht, h⟩) fun h => ⟨t, ht, h⟩

lemma Mistaken.hasJunction (h : s.Mistaken r) : s.hasJunction r = true := by
  obtain ⟨t, ht, hseems⟩ := h
  exact hasJunction_iff.2 ⟨t, ht, hseems.isJunction⟩

lemma mem_errors_of_mem_relationshipErrors (hr : r ∈ s.relationships) {e : SchemaError}
    (he : e ∈ s.relationshipErrors r) : e ∈ s.errors :=
  List.mem_append_right _ (List.mem_flatMap.2 ⟨r, hr, he⟩)

lemma relationshipErrors_eq_nil (hr : r ∈ s.relationships) (h : s.errors = []) :
    s.relationshipErrors r = [] :=
  List.flatMap_eq_nil_iff.1 (List.append_eq_nil_iff.1 h).2 r hr

/-- **A link is missing** exactly if nothing passes for one. -/
lemma missing_mem_iff (hkind : r.kind = .manyToMany) (hends : s.unknownEnds r = []) :
    .missingJunctionTable r.source r.target ∈ s.relationshipErrors r ↔ s.hasJunction r = false := by
  rw [relationshipErrors, hends]
  simp only [consistencyErrors, hkind]
  cases s.hasJunction r <;> simp

lemma hasJunction_of_errors (hr : r ∈ s.relationships) (hkind : r.kind = .manyToMany) (h : s.errors = []) :
    s.unknownEnds r = [] ∧ s.hasJunction r = true := by
  have hnone := relationshipErrors_eq_nil hr h
  have hends : s.unknownEnds r = [] := by
    rw [relationshipErrors] at hnone
    split at hnone
    · assumption
    · simp_all
  refine ⟨hends, ?_⟩
  by_contra hno
  have hmissing := (missing_mem_iff hkind hends).2 (by simpa using hno)
  rw [hnone] at hmissing
  cases hmissing

/-! ## Mistakes -/

/-- Where small forms are apart they name one table at most. -/
lemma sameName_of_toLowercase (hapart : s.LowercaseDistinct) {t u : Table} (ht : t ∈ s.tables)
    (hu : u ∈ s.tables) {a b : String} (hta : sameName t.name a = true) (hub : sameName u.name b = true)
    (hab : toLowercase a = toLowercase b) : sameName a b = true := by
  have htu : toLowercase t.name = toLowercase u.name := by
    rw [Text.toLowercase_eq_of_sameName hta, hab, Text.toLowercase_eq_of_sameName hub]
  obtain rfl := hapart.eq ht hu htu
  exact Text.sameName_trans (Text.sameName_symm hta) hub

lemma exists_end (hends : s.unknownEnds r = []) {name : String} (hname : name = r.source ∨ name = r.target) :
    ∃ t ∈ s.tables, sameName t.name name = true := by
  have hmem : name ∈ [r.source, r.target] ++ r.through.toList :=
    List.mem_append_left _ (by rcases hname with rfl | rfl <;> simp)
  have hknown := List.filter_eq_nil_iff.1 hends name hmem
  obtain ⟨t, ht⟩ := Option.ne_none_iff_exists'.1 (by simpa using hknown)
  exact ⟨t, mem_of_table?_eq_some ht⟩

/-- A foreign key ends at a table, and where small forms are apart it is the one that it seems to be. -/
lemma columnRefersTo_of_seemsToReferTo (hvalid : s.Valid) (hapart : s.LowercaseDistinct) {t u : Table}
    (ht : t ∈ s.tables) {column name : String} (hu : u ∈ s.tables) (hname : sameName u.name name = true)
    (h : t.SeemsToReferTo column name) : t.ColumnRefersTo column name := by
  obtain ⟨k, hk, hsmall⟩ := Option.map_eq_some_iff.1 h
  obtain ⟨c, hc, href⟩ := Option.bind_eq_some_iff.1 hk
  have hmem : c ∈ t.columns := List.mem_of_find?_eq_some hc
  obtain ⟨v, hv, hvk, -⟩ := hvalid.foreign t ht c hmem k href
  exact ⟨c, hmem, by simpa using List.find?_some hc, k, href,
    sameName_of_toLowercase hapart hv hu hvk hname hsmall⟩

/-- **Where small forms are apart** the only thing that is taken for a link is a key that is one column twice,
and this only for a table with itself. -/
lemma repeated_of_seemsToLink (hvalid : s.Valid) (hapart : s.LowercaseDistinct) (hends : s.unknownEnds r = [])
    {t : Table} (ht : t ∈ s.tables) (h : t.SeemsToLink r.source r.target) :
    sameName r.source r.target = true ∧
      ∃ first second, t.keyConstraint? = some [first, second] ∧ sameName first second = true := by
  obtain ⟨first, second, hkey, hseems, hmistake⟩ := h
  have hrefers : Connects t.ColumnRefersTo first second r.source r.target :=
    hseems.imp fun column name hname hrefer => by
      obtain ⟨u, hu, huname⟩ := exists_end hends hname
      exact columnRefersTo_of_seemsToReferTo hvalid hapart ht hu huname hrefer
  have hsame := hmistake.resolve_right (not_not_intro hrefers)
  refine ⟨?_, first, second, hkey, hsame⟩
  have hone : referredTable t first = referredTable t second := by
    simp only [referredTable, Table.column?, Text.sameName_congr_right hsame]
  obtain ⟨u, hu, huname⟩ := exists_end hends (.inl rfl)
  obtain ⟨v, hv, hvname⟩ := exists_end hends (.inr rfl)
  refine sameName_of_toLowercase hapart hu hv huname hvname ?_
  rcases hseems with ⟨hfirst, hsecond⟩ | ⟨hfirst, hsecond⟩
  · exact Option.some.inj (hfirst.symm.trans (hone.trans hsecond))
  · exact Option.some.inj (hsecond.symm.trans (hone.symm.trans hfirst))

/-- **Many-to-many relationships.**  That the ends of one are linked in every schema without errors, and
that a missing link is reported where all tables are known, holds exactly if a relationship whose tables are
known is linked or nothing is taken for a link.  What is reported for a relationship is reported for the
schema.  Where small forms are apart, a mistake takes a relationship of a table with itself and a key over
one column. -/
theorem manyToMany_linked_iff (hr : r ∈ s.relationships) (hkind : r.kind = .manyToMany) :
    ((s.errors = [] → s.Linked r) ∧
      (s.unknownEnds r = [] → ¬ s.Linked r →
        .missingJunctionTable r.source r.target ∈ s.relationshipErrors r) ↔
      (s.unknownEnds r = [] → s.Linked r ∨ ¬ s.Mistaken r)) ∧
    (∀ e ∈ s.relationshipErrors r, e ∈ s.errors) ∧
    (s.errors = [] → s.LowercaseDistinct → s.Mistaken r → sameName r.source r.target = true ∧
      ∃ t ∈ s.tables, ∃ first second, t.keyConstraint? = some [first, second] ∧
        sameName first second = true) := by
  refine ⟨⟨fun ⟨_, hreport⟩ hends => ?_, fun h => ⟨fun herrors => ?_, fun hends hunlinked => ?_⟩⟩,
    fun e => mem_errors_of_mem_relationshipErrors hr, fun herrors hapart ⟨t, ht, hseems⟩ => ?_⟩
  · by_contra hno
    obtain ⟨hunlinked, hmistaken⟩ := not_or.1 hno
    have hnone := (missing_mem_iff hkind hends).1 (hreport hends hunlinked)
    rw [(not_not.1 hmistaken).hasJunction] at hnone
    cases hnone
  · obtain ⟨hends, hfound⟩ := hasJunction_of_errors hr hkind herrors
    exact (h hends).elim id fun hnot => (linked_or_mistaken hfound).resolve_right hnot
  · rw [missing_mem_iff hkind hends, ← Bool.not_eq_true]
    exact fun hfound => (h hends).elim hunlinked fun hnot =>
      (linked_or_mistaken hfound).elim hunlinked hnot
  · have hends := (hasJunction_of_errors hr hkind herrors).1
    obtain ⟨hself, hkey⟩ := repeated_of_seemsToLink (valid_of_errors herrors) hapart hends ht.1 hseems
    exact ⟨hself, t, ht.1, hkey⟩

/-! ## Some relationships -/

/-- A table with two columns that refer to two tables. -/
def pairTable (a b : String) (key : List String) : Table where
  name := "pairs"
  columns := [(Column.ofType "first" .integer).referring a "id",
    (Column.ofType "second" .integer).referring b "id"]
  constraints := [.primaryKey key]

/-- Tables that have nothing but a number, a table of pairs, and a relationship between two tables. -/
def pairSchema (names : List String) (pairs : Table) (source target : String)
    (h : ((names ++ [pairs.name]).Pairwise fun a b => sameName a b = false)) : Schema where
  tables := names.map (fun name => (Table.named name).addColumn (Column.ofType "id" .integer).asPrimaryKey)
    ++ [pairs]
  relationships := [{ source := source, target := target, kind := .manyToMany }]
  distinct := by
    have hnames : (names.map (fun name =>
        (Table.named name).addColumn (Column.ofType "id" .integer).asPrimaryKey) ++ [pairs]).map
          Table.name = names ++ [pairs.name] := by
      simp [Table.named, Table.addColumn, Function.comp_def]
    rw [← hnames] at h
    exact List.pairwise_map.1 h

/-- Only the pairs can link anything. -/
lemma links_of_linked {names : List String} {pairs : Table} {source target : String}
    {h : (names ++ [pairs.name]).Pairwise fun a b => sameName a b = false}
    (hlinked : (pairSchema names pairs source target h).Linked r) : pairs.Links r.source r.target := by
  obtain ⟨t, ⟨ht, -⟩, hlinks⟩ := hlinked
  rcases List.mem_append.1 ht with ht | ht
  · obtain ⟨name, -, rfl⟩ := List.mem_map.1 ht
    obtain ⟨first, second, hkey, -⟩ := hlinks
    cases hkey
  · rwa [List.mem_singleton.1 ht] at hlinks

/-- Posts and topics with the pairs of a post and a topic. -/
def topicSchema : Schema :=
  pairSchema ["posts", "topics"] (pairTable "posts" "topics" ["first", "second"]) "posts" "topics"
    (by decide +kernel)

/-- Posts and topics are linked. -/
theorem topicSchema_linked : topicSchema.errors = [] ∧
    ∀ r ∈ topicSchema.relationships, r.kind = .manyToMany → topicSchema.Linked r := by
  have herrors : topicSchema.errors = [] := by decide +kernel
  refine ⟨herrors, fun r hr hkind => ?_⟩
  obtain ⟨hiff, -, hmistake⟩ := manyToMany_linked_iff hr hkind
  refine (hiff.2 fun _ => .inr fun hmistaken => ?_).1 herrors
  have hapart : topicSchema.LowercaseDistinct := by
    unfold LowercaseDistinct
    decide +kernel
  have hself := (hmistake herrors hapart hmistaken).1
  obtain rfl := List.mem_singleton.1 hr
  exact absurd hself (by decide +kernel)

/-- Users with a table of pairs whose key is one of its columns twice. -/
def friendSchema : Schema :=
  pairSchema ["users"] (pairTable "users" "users" ["first", "first"]) "users" "users" (by decide +kernel)

/-- Two tables whose names have one small form, with a table of pairs that refers to the first alone. -/
def accentSchema : Schema :=
  pairSchema ["É", "é"] (pairTable "É" "É" ["first", "second"]) "é" "é" (by decide +kernel)

/-- **Relationships that nothing links**, in schemas without errors. -/
theorem friendSchema_not_linked :
    (friendSchema.errors = [] ∧ ∃ r ∈ friendSchema.relationships, r.kind = .manyToMany ∧
      ¬ friendSchema.Linked r) ∧
    accentSchema.errors = [] ∧ ∃ r ∈ accentSchema.relationships, r.kind = .manyToMany ∧
      ¬ accentSchema.Linked r := by
  refine ⟨⟨by decide +kernel, _, List.mem_singleton_self _, rfl, fun hlinked => ?_⟩,
    by decide +kernel, _, List.mem_singleton_self _, rfl, fun hlinked => ?_⟩
  · obtain ⟨first, second, hkey, hne, -⟩ := links_of_linked hlinked
    obtain ⟨rfl, rfl⟩ : first = "first" ∧ second = "first" := by simpa [pairTable] using hkey
    exact absurd hne (by decide +kernel)
  · obtain ⟨first, second, -, -, hconnects⟩ := links_of_linked hlinked
    have hother : ∀ column, ¬ (pairTable "É" "É" ["first", "second"]).ColumnRefersTo column "é" := by
      rintro column ⟨c, hc, -, k, hk, hname⟩
      have hall : ∀ c ∈ (pairTable "É" "É" ["first", "second"]).columns,
          ∀ k ∈ c.references, sameName k.table "é" = false := by decide +kernel
      rw [hall c hc k hk] at hname
      cases hname
    exact hconnects.elim (fun h => hother _ h.1) fun h => hother _ h.1

end Schema

end SchemaCompiler

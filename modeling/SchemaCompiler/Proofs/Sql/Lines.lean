import SchemaCompiler.Proofs.Sql.Rendering
import SchemaCompiler.Proofs.Text.Lines

/-!
# The lines of a written statement

Where no text in a statement holds a line feed, the statement breaks lines only where the printer does: after
each column and constraint of a table definition, and between the lines of a comment.  No line but those of a
comment then begins with a dash.

* `Statement.texts`, `Statement.remarks` — what a statement is made of, and its comments.
* `Yields` — what holds of the result of a computation, if it has one.
* **`Statement.lines_of_render`** — the lines of a statement are lines of its comments or do not begin with a
  dash.
* `forall_mem_pieces_renderAll` — the lines of a list of statements are those of the statements.
-/

namespace SchemaCompiler.Sql

open Text (pieces Unbroken unbroken_append)

variable {α β : Type}

/-! ## The texts of a statement -/

/-- The texts in a column constraint. -/
def ColumnConstraint.texts : ColumnConstraint → List String
  | .default expr | .check expr => [expr]
  | .references table column onDelete => table :: column :: onDelete.toList
  | .primaryKey _ | .notNull | .unique => []

/-- The texts in a column definition. -/
def ColumnDef.texts (c : ColumnDef) : List String :=
  c.name :: c.typeName :: c.constraints.flatMap (·.texts)

/-- The texts in a table constraint. -/
def TableConstraintDef.texts : TableConstraintDef → List String
  | .primaryKey columns | .unique columns => columns
  | .check expr => [expr]

/-- The text in one key of an index. -/
def IndexTerm.texts : IndexTerm → List String
  | .column text | .expression text => [text]

/-- The names and the raw SQL of a statement, without its comments. -/
def Statement.texts : Statement → List String
  | .createTable t => t.name :: t.columns.flatMap (·.texts) ++ t.constraints.flatMap (·.texts)
  | .addColumn table c => table :: c.texts
  | .createIndex i => i.name :: i.table :: i.terms.flatMap (·.texts) ++ i.condition.toList
  | .pragma name value => name :: value.toList
  | s => s.names

/-- The comments of a statement. -/
def Statement.remarks : Statement → List String
  | .createTable t => t.comment.toList
  | .comment text => [text]
  | _ => []

/-! ## Results -/

/-- `P` holds of the result, if there is one. -/
def Yields (P : α → Prop) (x : Except GenerationError α) : Prop := ∀ a, x = .ok a → P a

variable {P : α → Prop} {Q : β → Prop}

lemma yields_pure {a : α} (h : P a) : Yields P (pure a) := by
  rintro b ⟨⟩
  exact h

lemma Yields.bind {x : Except GenerationError α} {f : α → Except GenerationError β} (hx : Yields P x)
    (hf : ∀ a, P a → Yields Q (f a)) : Yields Q (x >>= f) := by
  intro b hb
  obtain ⟨a, ha, hb⟩ := bind_eq_ok_iff.1 hb
  exact hf a (hx a ha) b hb

lemma Yields.mapM {as : List β} {f : β → Except GenerationError α} (h : ∀ b ∈ as, Yields P (f b)) :
    Yields (fun list => ∀ a ∈ list, P a) (as.mapM f) := by
  intro list hlist
  have hall := forall₂_of_mapM_eq_ok hlist
  clear hlist
  induction hall with
  | nil => simp
  | cons ha _ ih =>
      exact List.forall_mem_cons.2 ⟨h _ List.mem_cons_self _ ha,
        ih fun b hb => h b (List.mem_cons_of_mem _ hb)⟩

/-! ## One line -/

lemma unbroken_empty : Unbroken "" := by decide

lemma unbroken_intercalate {separator : String} {texts : List String} (hseparator : Unbroken separator)
    (h : ∀ text ∈ texts, Unbroken text) : Unbroken (separator.intercalate texts) := by
  induction texts with
  | nil => exact unbroken_empty
  | cons text rest ih =>
      rw [List.forall_mem_cons] at h
      cases rest with
      | nil => simpa using h.1
      | cons next rest =>
          rw [String.intercalate_cons_cons, unbroken_append, unbroken_append]
          exact ⟨⟨h.1, hseparator⟩, ih h.2⟩

lemma unbroken_join {texts : List String} (h : ∀ text ∈ texts, Unbroken text) :
    Unbroken (String.join texts) := by
  induction texts with
  | nil => decide
  | cons text rest ih =>
      rw [List.forall_mem_cons] at h
      rw [String.join_cons, unbroken_append]
      exact ⟨h.1, ih h.2⟩

lemma unbroken_onlyIf {s : String} (h : Unbroken s) (flag : Bool) : Unbroken (onlyIf flag s) := by
  cases flag with
  | true => exact h
  | false => exact unbroken_empty

lemma unbroken_decimal (n : Nat) : Unbroken (Text.decimal n) := by
  intro h
  rw [Text.decimal, String.toList_ofList] at h
  exact absurd (Nat.isDigit_of_mem_toDigits (by decide) (by decide) h) (by decide)

lemma unbroken_parameter (n : Nat) : Unbroken (parameter n) :=
  unbroken_append.2 ⟨by decide, unbroken_decimal n⟩

lemma mem_of_mem_doubleQuotes {c : Char} {cs : List Char} (h : c ∈ doubleQuotes cs) : c ∈ cs := by
  induction cs with
  | nil => exact h
  | cons d rest ih =>
      rw [doubleQuotes] at h
      split_ifs at h with hd
      · subst hd
        simp only [List.mem_cons] at h ⊢
        tauto
      · simp only [List.mem_cons] at h ⊢
        tauto

lemma quote_unbroken {name : String} (h : Unbroken name) : Yields Unbroken (quote name) := by
  intro s hs
  unfold quote at hs
  cases hfault : identifierFault name with
  | some fault => simp [hfault] at hs
  | none =>
      simp only [hfault] at hs
      split_ifs at hs
      · obtain rfl := Except.ok.inj hs
        exact h
      · obtain rfl := Except.ok.inj hs
        simp only [Unbroken, String.toList_ofList, List.cons_append, List.mem_cons, List.mem_append,
          List.not_mem_nil, or_false]
        rintro (hquote | hname | hquote)
        · exact absurd hquote (by decide)
        · exact h (mem_of_mem_doubleQuotes hname)
        · exact absurd hquote (by decide)

lemma mapM_quote_unbroken {names : List String} (h : ∀ name ∈ names, Unbroken name) :
    Yields (fun list => ∀ text ∈ list, Unbroken text) (names.mapM quote) :=
  Yields.mapM fun name hname => quote_unbroken (h name hname)

lemma quoteList_unbroken {names : List String} (h : ∀ name ∈ names, Unbroken name) :
    Yields Unbroken (quoteList names) :=
  (mapM_quote_unbroken h).bind fun _ hlist => yields_pure (unbroken_intercalate (by decide) hlist)

lemma equalities_unbroken {columns : List String} (h : ∀ name ∈ columns, Unbroken name) (first : Nat) :
    Yields (fun list => ∀ text ∈ list, Unbroken text) (equalities first columns) := by
  refine Yields.mapM fun p hp =>
    (quote_unbroken (h p.1 (List.fst_mem_of_mem_zipIdx hp))).bind fun q hq => yields_pure ?_
  simp only [unbroken_append, hq, unbroken_parameter, and_true, true_and]
  decide

lemma equalityFilter_unbroken {columns : List String} (h : ∀ name ∈ columns, Unbroken name) (first : Nat) :
    Yields Unbroken (equalityFilter first columns) :=
  (equalities_unbroken h first).bind fun _ hlist => yields_pure (unbroken_intercalate (by decide) hlist)

/-! ## Definitions -/

lemma ColumnConstraint.render_unbroken {c : ColumnConstraint} (h : ∀ text ∈ c.texts, Unbroken text) :
    Yields Unbroken c.render := by
  cases c with
  | primaryKey autoincrement =>
      exact yields_pure (unbroken_append.2 ⟨by decide, unbroken_onlyIf (by decide) _⟩)
  | notNull => exact yields_pure (by decide)
  | unique => exact yields_pure (by decide)
  | default expr =>
      refine yields_pure ?_
      simp only [unbroken_append, h expr List.mem_cons_self, and_true]
      decide
  | check expr =>
      refine yields_pure ?_
      simp only [unbroken_append, h expr List.mem_cons_self, and_true]
      decide
  | references table column onDelete =>
      simp only [texts, List.forall_mem_cons, Option.mem_toList] at h
      refine (quote_unbroken h.1).bind fun q hq => (quote_unbroken h.2.1).bind fun q' hq' => ?_
      cases onDelete with
      | none =>
          refine yields_pure ?_
          simp only [unbroken_append, hq, hq', and_true]
          decide
      | some action =>
          refine yields_pure ?_
          simp only [unbroken_append, hq, hq', h.2.2 action rfl, and_true]
          decide

lemma ColumnDef.render_unbroken {c : ColumnDef} (h : ∀ text ∈ c.texts, Unbroken text) :
    Yields Unbroken c.render := by
  simp only [texts, List.forall_mem_cons, List.mem_flatMap] at h
  obtain ⟨hname, htype, hconstraints⟩ := h
  refine (quote_unbroken hname).bind fun q hq => (Yields.mapM fun d hd =>
    d.render_unbroken fun text htext => hconstraints text ⟨d, hd, htext⟩).bind fun list hlist => ?_
  exact yields_pure (by simp only [unbroken_append, hq, htype, unbroken_join hlist, and_true]; decide)

lemma TableConstraintDef.render_unbroken {c : TableConstraintDef} (h : ∀ text ∈ c.texts, Unbroken text) :
    Yields Unbroken c.render := by
  cases c with
  | primaryKey columns =>
      refine (quoteList_unbroken h).bind fun list hlist => yields_pure ?_
      simp only [unbroken_append, hlist, and_true]
      decide
  | unique columns =>
      refine (quoteList_unbroken h).bind fun list hlist => yields_pure ?_
      simp only [unbroken_append, hlist, and_true]
      decide
  | check expr =>
      refine yields_pure ?_
      simp only [unbroken_append, h expr List.mem_cons_self, and_true]
      decide

lemma IndexTerm.render_unbroken {k : IndexTerm} (h : ∀ text ∈ k.texts, Unbroken text) :
    Yields Unbroken k.render := by
  cases k with
  | column name => exact quote_unbroken (h name List.mem_cons_self)
  | expression expr => exact yields_pure (h expr List.mem_cons_self)

/-! ## Statements of one line -/

/-- One line that does not begin with a dash. -/
structure OneLine (s : String) : Prop where
  unbroken : Unbroken s
  head : s.toList.head? ≠ some '-'

lemma CreateIndex.render_oneLine {i : CreateIndex}
    (h : ∀ text ∈ (Statement.createIndex i).texts, Unbroken text) : Yields OneLine i.render := by
  simp only [Statement.texts, List.cons_append, List.forall_mem_cons, List.forall_mem_append,
    List.mem_flatMap, Option.mem_toList] at h
  obtain ⟨hname, htable, hterms, hcondition⟩ := h
  refine (Yields.mapM fun k hk => k.render_unbroken fun text htext => hterms text ⟨k, hk, htext⟩).bind
    fun list hlist => (quote_unbroken hname).bind fun q hq => (quote_unbroken htable).bind fun q' hq' => ?_
  have hlist := unbroken_intercalate (by decide : Unbroken ", ") hlist
  have hflag := unbroken_onlyIf (by decide : Unbroken "UNIQUE ") i.unique
  cases hc : i.condition with
  | none =>
      refine yields_pure ⟨?_, by simp⟩
      simp only [unbroken_append, hq, hq', hlist, hflag, and_true]
      decide
  | some condition =>
      refine yields_pure ⟨?_, by simp⟩
      simp only [unbroken_append, hq, hq', hlist, hflag, hcondition condition hc, and_true]
      decide

lemma whereClause_unbroken {filter : List String} (h : ∀ name ∈ filter, Unbroken name) :
    Yields Unbroken (whereClause filter) := by
  unfold whereClause
  split
  · exact yields_pure unbroken_empty
  · exact (equalityFilter_unbroken h 1).bind fun q hq => yields_pure (unbroken_append.2 ⟨by decide, hq⟩)

lemma orderClause_unbroken {columns : List String} (h : ∀ name ∈ columns, Unbroken name) :
    Yields Unbroken (orderClause columns) := by
  unfold orderClause
  split
  · exact yields_pure unbroken_empty
  · exact (quoteList_unbroken h).bind fun q hq => yields_pure (unbroken_append.2 ⟨by decide, hq⟩)

lemma renderSelect_oneLine {table : String} {filter orderBy : List String} (htable : Unbroken table)
    (hfilter : ∀ name ∈ filter, Unbroken name) (horder : ∀ name ∈ orderBy, Unbroken name)
    (paginate : Bool) : Yields OneLine (renderSelect table filter orderBy paginate) := by
  refine (quote_unbroken htable).bind fun q hq => (whereClause_unbroken hfilter).bind fun w hw =>
    (orderClause_unbroken horder).bind fun o ho => yields_pure ⟨?_, by simp⟩
  have hpage : Unbroken (" LIMIT " ++ parameter (filter.length + 1) ++ " OFFSET "
      ++ parameter (filter.length + 2)) := by
    simp only [unbroken_append, unbroken_parameter, and_true]
    decide
  simp only [unbroken_append, hq, hw, ho, unbroken_onlyIf hpage, and_true]
  decide

lemma renderInsert_oneLine {table : String} {columns : List String} (htable : Unbroken table)
    (h : ∀ name ∈ columns, Unbroken name) : Yields OneLine (renderInsert table columns) := by
  refine (quote_unbroken htable).bind fun q hq => ?_
  split
  · refine yields_pure ⟨?_, by simp⟩
    simp only [unbroken_append, hq, and_true]
    decide
  · refine (quoteList_unbroken h).bind fun list hlist => yields_pure ⟨?_, by simp⟩
    have hvalues : Unbroken (", ".intercalate
        ((List.range columns.length).map fun i => parameter (i + 1))) := by
      refine unbroken_intercalate (by decide) fun text htext => ?_
      obtain ⟨i, -, rfl⟩ := List.mem_map.1 htext
      exact unbroken_parameter _
    simp only [unbroken_append, hq, hlist, hvalues, and_true]
    decide

lemma renderUpdate_oneLine {table : String} {set filter : List String} (htable : Unbroken table)
    (hset : ∀ name ∈ set, Unbroken name) (hfilter : ∀ name ∈ filter, Unbroken name) :
    Yields OneLine (renderUpdate table set filter) := by
  refine (equalities_unbroken hset 1).bind fun values hvalues => (quote_unbroken htable).bind fun q hq =>
    (equalityFilter_unbroken hfilter _).bind fun condition hcondition => yields_pure ⟨?_, by simp⟩
  have hvalues := unbroken_intercalate (by decide : Unbroken ", ") hvalues
  simp only [unbroken_append, hq, hvalues, hcondition, and_true]
  decide

lemma OneLine.append {s t : String} (hs : OneLine s) (ht : OneLine t) : OneLine (s ++ t) where
  unbroken := unbroken_append.2 ⟨hs.unbroken, ht.unbroken⟩
  head := by
    rw [String.toList_append, List.head?_append]
    cases h : s.toList.head? with
    | none => simpa using ht.head
    | some c => simpa [h] using hs.head

lemma oneLine_semicolon : OneLine ";" := ⟨by decide, by decide⟩

lemma oneLine_returning (returning : Bool) : OneLine (onlyIf returning " RETURNING *") := by
  cases returning <;> exact ⟨by decide, by decide⟩

/-- A statement that defines no table and is no comment takes one line. -/
lemma Statement.render_oneLine {s : Statement} (htable : ∀ t, s ≠ .createTable t)
    (hcomment : ∀ text, s ≠ .comment text) (h : ∀ text ∈ s.texts, Unbroken text) :
    Yields OneLine s.render := by
  cases s with
  | createTable t => exact absurd rfl (htable t)
  | comment text => exact absurd rfl (hcomment text)
  | dropTable name ifExists | dropIndex name ifExists =>
      refine (quote_unbroken (h name (by simp [texts, names]))).bind fun q hq =>
        yields_pure ⟨?_, by simp⟩
      have hflag := unbroken_onlyIf (by decide : Unbroken "IF EXISTS ") ifExists
      simp only [unbroken_append, hq, hflag, and_true]
      decide
  | renameTable first second | dropColumn first second =>
      refine (quote_unbroken (h first (by simp [texts, names]))).bind fun q hq =>
        (quote_unbroken (h second (by simp [texts, names]))).bind fun q' hq' => yields_pure ⟨?_, by simp⟩
      simp only [unbroken_append, hq, hq', and_true]
      decide
  | addColumn table c =>
      refine (quote_unbroken (h table List.mem_cons_self)).bind fun q hq =>
        (c.render_unbroken fun text htext => h text (List.mem_cons_of_mem _ htext)).bind fun d hd =>
          yields_pure ⟨?_, by simp⟩
      simp only [unbroken_append, hq, hd, and_true]
      decide
  | renameColumn table source target =>
      refine (quote_unbroken (h table (by simp [texts, names]))).bind fun q hq =>
        (quote_unbroken (h source (by simp [texts, names]))).bind fun q' hq' =>
          (quote_unbroken (h target (by simp [texts, names]))).bind fun q'' hq'' =>
            yields_pure ⟨?_, by simp⟩
      simp only [unbroken_append, hq, hq', hq'', and_true]
      decide
  | createIndex i =>
      exact (CreateIndex.render_oneLine h).bind fun _ hi => yields_pure (hi.append oneLine_semicolon)
  | copyRows source target columns =>
      simp only [texts, names, List.forall_mem_append, List.forall_mem_cons] at h
      obtain ⟨hcolumns, htarget, hsource, -⟩ := h
      refine (quoteList_unbroken hcolumns).bind fun list hlist => (quote_unbroken htarget).bind fun q hq =>
        (quote_unbroken hsource).bind fun q' hq' => yields_pure ⟨?_, by simp⟩
      simp only [unbroken_append, hlist, hq, hq', and_true]
      decide
  | pragma name value =>
      simp only [texts, List.forall_mem_cons, Option.mem_toList] at h
      cases value with
      | none =>
          refine yields_pure ⟨?_, by simp⟩
          simp only [unbroken_append, h.1, and_true]
          decide
      | some value =>
          refine yields_pure ⟨?_, by simp⟩
          simp only [unbroken_append, h.1, h.2 value rfl, and_true]
          decide
  | select table filter orderBy paginate =>
      simp only [texts, names, List.cons_append, List.forall_mem_append, List.forall_mem_cons] at h
      exact (renderSelect_oneLine h.1 h.2.1 h.2.2 paginate).bind fun _ hs =>
        yields_pure (hs.append oneLine_semicolon)
  | insert table columns returning =>
      simp only [texts, names, List.forall_mem_cons] at h
      exact (renderInsert_oneLine h.1 h.2).bind fun _ hs =>
        yields_pure ((hs.append (oneLine_returning returning)).append oneLine_semicolon)
  | update table set filter returning =>
      simp only [texts, names, List.forall_mem_append, List.forall_mem_cons] at h
      exact (renderUpdate_oneLine h.2.1 h.1 h.2.2).bind fun _ hs =>
        yields_pure ((hs.append (oneLine_returning returning)).append oneLine_semicolon)
  | delete table filter =>
      simp only [texts, names, List.forall_mem_cons] at h
      refine (quote_unbroken h.1).bind fun q hq => (equalityFilter_unbroken h.2 1).bind fun w hw =>
        yields_pure ⟨?_, by simp⟩
      simp only [unbroken_append, hq, hw, and_true]
      decide

/-! ## Comments and tables -/

lemma notMem_of_mem_splitLines {cs : List Char} : ∀ line ∈ Text.splitLines cs, '\n' ∉ line := by
  fun_induction Text.splitLines cs with
  | case1 => simp
  | case2 rest ih => simpa using ih
  | case3 rest ih => simpa using ih
  | case4 c rest hne _ hnil _ => simpa using fun h : '\n' = c => hne h.symm
  | case5 c rest hne _ line more hsplit ih =>
      rw [hsplit, List.forall_mem_cons] at ih
      rw [List.forall_mem_cons]
      exact ⟨List.not_mem_cons_of_ne_of_not_mem (fun h => hne h.symm) ih.1, ih.2⟩

lemma unbroken_of_mem_lines {text line : String} (h : line ∈ Text.lines text) : Unbroken line := by
  obtain ⟨l, hl, rfl⟩ := List.mem_map.1 h
  simpa [Unbroken] using notMem_of_mem_splitLines l hl

lemma unbroken_trimEnd {s : String} (h : Unbroken s) : Unbroken (Text.trimEnd s) := by
  intro hmem
  simp only [Text.trimEnd, Text.trimEndWhile, Text.dropWhileEnd, String.toList_ofList,
    List.mem_reverse] at hmem
  exact h (List.mem_reverse.1 ((List.dropWhile_suffix _).subset hmem))

section Lines

variable {P : String → Prop} (hP : ∀ line : String, line.toList.head? ≠ some '-' → P line)

include hP

lemma forall_mem_pieces_commentLines {text : String}
    (h : ∀ line ∈ Text.lines text, P (Text.trimEnd ("-- " ++ line))) :
    ∀ line ∈ pieces '\n' (commentLines text), P line := by
  rw [commentLines, Text.forall_mem_pieces_lines (hP "" (by decide))]
  intro piece hpiece
  obtain ⟨line, hline, rfl⟩ := List.mem_map.1 hpiece
  have hunbroken : Unbroken (Text.trimEnd ("-- " ++ line)) :=
    unbroken_trimEnd (unbroken_append.2 ⟨by decide, unbroken_of_mem_lines hline⟩)
  simpa [Text.pieces_of_unbroken hunbroken] using h line hline

/-- The columns and constraints of a table, one on each line. -/
lemma forall_mem_pieces_rows {rows : List String} (h : ∀ row ∈ rows, Unbroken row) :
    ∀ line ∈ pieces '\n' (",\n".intercalate (rows.map ("  " ++ ·))), P line := by
  have hcomma (s t : String) : s ++ ",\n" ++ t = s ++ "," ++ ("\n" ++ t) := by
    simp only [String.append_assoc]
    rfl
  have hplain (t : String) : P ("  " ++ t) := hP _ (by simp)
  induction rows with
  | nil => simpa [Text.pieces_empty] using hP "" (by decide)
  | cons row rest ih =>
      rw [List.forall_mem_cons] at h
      have hrow : Unbroken ("  " ++ row) := unbroken_append.2 ⟨by decide, h.1⟩
      cases rest with
      | nil => simpa [Text.pieces_of_unbroken hrow] using hplain row
      | cons next rest =>
          rw [List.map_cons, List.map_cons, String.intercalate_cons_cons, hcomma, Text.pieces_append,
            Text.pieces_of_unbroken (unbroken_append.2 ⟨hrow, by decide⟩), List.singleton_append,
            List.forall_mem_cons, String.append_assoc]
          exact ⟨hplain _, ih h.2⟩

lemma forall_mem_pieces_commentHeader {comment : Option String} {t : String}
    (hcomment : ∀ text ∈ comment, ∀ line ∈ Text.lines text, P (Text.trimEnd ("-- " ++ line)))
    (ht : ∀ line ∈ pieces '\n' t, P line) : ∀ line ∈ pieces '\n' (commentHeader comment ++ t), P line := by
  have hnone : ∀ line ∈ pieces '\n' ("" ++ t), P line := by simpa using ht
  cases comment with
  | none => exact hnone
  | some text =>
      cases hblank : Text.isBlankText text with
      | true => simpa [commentHeader, hblank, onlyIf] using hnone
      | false =>
          simp only [commentHeader, hblank, Bool.not_false, onlyIf, if_true, String.append_assoc,
            Text.pieces_append, List.forall_mem_append]
          exact ⟨forall_mem_pieces_commentLines hP (hcomment text rfl), ht⟩

lemma CreateTable.forall_mem_pieces_render {t : CreateTable}
    (htexts : ∀ text ∈ (Statement.createTable t).texts, Unbroken text)
    (hcomment : ∀ text ∈ t.comment, ∀ line ∈ Text.lines text, P (Text.trimEnd ("-- " ++ line))) :
    Yields (fun text => ∀ line ∈ pieces '\n' text, P line) t.render := by
  simp only [Statement.texts, List.cons_append, List.forall_mem_cons, List.forall_mem_append,
    List.mem_flatMap] at htexts
  obtain ⟨hname, hcolumns, hconstraints⟩ := htexts
  refine (Yields.mapM fun c hc => c.render_unbroken fun text htext => hcolumns text ⟨c, hc, htext⟩).bind
    fun columns hcolumns => (Yields.mapM fun c hc => c.render_unbroken fun text htext =>
      hconstraints text ⟨c, hc, htext⟩).bind fun constraints hconstraints =>
        (quote_unbroken hname).bind fun q hq => yields_pure ?_
  have hopen : Unbroken ("CREATE TABLE " ++ (onlyIf t.ifNotExists "IF NOT EXISTS " ++ (q ++ " ("))) := by
    simp only [unbroken_append, hq, unbroken_onlyIf (by decide : Unbroken "IF NOT EXISTS "), true_and]
    decide
  have hsplit (header body : String) : header ++ "CREATE TABLE " ++ onlyIf t.ifNotExists "IF NOT EXISTS "
      ++ q ++ " (\n" ++ body ++ "\n);" =
        header ++ (("CREATE TABLE " ++ (onlyIf t.ifNotExists "IF NOT EXISTS " ++ (q ++ " (")))
          ++ ("\n" ++ (body ++ ("\n" ++ ");")))) := by
    simp only [String.append_assoc]
    rfl
  rw [hsplit]
  refine forall_mem_pieces_commentHeader hP hcomment ?_
  have hclose : Unbroken ");" := by decide
  rw [Text.pieces_append, Text.pieces_append, Text.pieces_of_unbroken hopen, Text.pieces_of_unbroken hclose,
    List.forall_mem_append, List.forall_mem_append, List.forall_mem_singleton, List.forall_mem_singleton]
  refine ⟨hP _ (by simp), forall_mem_pieces_rows hP ?_, hP _ (by decide)⟩
  exact List.forall_mem_append.2 ⟨hcolumns, hconstraints⟩

/-- **The lines of a statement.**  What holds of every line that does not begin with a dash, and of the lines
of the statement's comments, holds of every line of the statement. -/
theorem Statement.lines_of_render {s : Statement} (htexts : ∀ text ∈ s.texts, Unbroken text)
    (hremarks : ∀ text ∈ s.remarks, ∀ line ∈ Text.lines text, P (Text.trimEnd ("-- " ++ line))) :
    Yields (fun text => ∀ line ∈ pieces '\n' text, P line) s.render := by
  by_cases htable : ∃ t, s = .createTable t
  · obtain ⟨t, rfl⟩ := htable
    exact CreateTable.forall_mem_pieces_render hP htexts (by simpa [remarks] using hremarks)
  · by_cases hcomment : ∃ text, s = .comment text
    · obtain ⟨text, rfl⟩ := hcomment
      exact yields_pure (forall_mem_pieces_commentLines hP (hremarks text List.mem_cons_self))
    · intro text htext
      have hline := s.render_oneLine (not_exists.1 htable) (not_exists.1 hcomment) htexts text htext
      simpa [Text.pieces_of_unbroken hline.unbroken] using hP text hline.head

end Lines

/-- **The lines of several statements** are their lines, and blank ones between them. -/
theorem forall_mem_pieces_renderAll {P : String → Prop} (hempty : P "") {statements : List Statement}
    {text : String} (h : renderAll statements = .ok text) :
    (∀ line ∈ pieces '\n' text, P line) ↔
      ∀ s ∈ statements, Yields (fun text => ∀ line ∈ pieces '\n' text, P line) s.render := by
  obtain ⟨texts, htexts, htext⟩ := bind_eq_ok_iff.1 h
  obtain rfl := Except.ok.inj htext
  rw [Text.forall_mem_pieces_paragraphs hempty]
  have hall := forall₂_of_mapM_eq_ok htexts
  clear h htext htexts
  induction hall with
  | nil => simp
  | @cons s text rest texts hs _ ih =>
      have hone : Yields (fun text => ∀ line ∈ pieces '\n' text, P line) s.render ↔
          ∀ line ∈ pieces '\n' text, P line := by
        simp [Yields, hs]
      rw [List.forall_mem_cons, List.forall_mem_cons, hone]
      exact and_congr_right fun _ => ih

end SchemaCompiler.Sql

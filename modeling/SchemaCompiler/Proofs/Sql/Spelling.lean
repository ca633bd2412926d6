import SchemaCompiler.Proofs.Sql.Rendering
import SchemaCompiler.Proofs.Sql.Tokens
import Mathlib.Data.List.Forall2

/-!
# The tokens of a statement

What the printer writes, seen as tokens.  A statement without raw SQL is made of keywords, names, numbered
parameters and signs, and each of these stays a token of its own in the text: keywords are written with
blanks around them, and names are set apart by a blank or a sign.

* `Statement.isRawFree` — statements that carry no SQL text.
* `Statement.tokens` — the tokens of such a statement, without the semicolon.
* **`Statement.tokens_of_render`, `tokens_of_renderAll`** — a written statement is read as its tokens and a
  semicolon, and a list of statements as the tokens of all of them.
-/

namespace SchemaCompiler.Sql

variable {s t : String} {ts us : List Token}

/-! ## Statements without raw SQL -/

/-- Whether a key of an index is a column. -/
def IndexTerm.isColumn : IndexTerm → Bool
  | .column _ => true
  | .expression _ => false

/-- Whether a statement holds nothing but names: no type, default, condition, expression or comment. -/
def Statement.isRawFree : Statement → Bool
  | .createTable _ | .addColumn _ _ | .pragma _ _ | .comment _ => false
  | .createIndex i => i.terms.all (·.isColumn) && i.condition.isNone
  | _ => true

/-- Tokens that stand there if a flag is set. -/
def tokensIf (flag : Bool) (ts : List Token) : List Token := if flag then ts else []

/-- Names with commas between them. -/
def nameTokens (names : List String) : List Token :=
  [.sign ','].intercalate (names.map fun name => [nameToken name])

/-- `column = ?n` for each column, numbered from `first` on. -/
def equalityTokens (separator : Token) (first : Nat) (columns : List String) : List Token :=
  [separator].intercalate
    ((columns.zipIdx first).map fun p => [nameToken p.1, .sign '=', .parameter p.2])

/-- The first `n` parameters with commas between them. -/
def parameterTokens (n : Nat) : List Token :=
  [.sign ','].intercalate ((List.range n).map fun i => [.parameter (i + 1)])

/-- The condition of a query. -/
def whereTokens (filter : List String) : List Token :=
  tokensIf (!filter.isEmpty) (.word "WHERE" :: equalityTokens (.word "AND") 1 filter)

/-- The order of a query's rows. -/
def orderTokens (columns : List String) : List Token :=
  tokensIf (!columns.isEmpty) (.word "ORDER" :: .word "BY" :: nameTokens columns)

/-- The page of a query, behind `n` other parameters. -/
def pageTokens (n : Nat) : List Token :=
  [.word "LIMIT", .parameter (n + 1), .word "OFFSET", .parameter (n + 2)]

/-- What is inserted: the row of all defaults, or a parameter for each column. -/
def rowTokens (columns : List String) : List Token :=
  if columns.isEmpty then [.word "DEFAULT", .word "VALUES"]
  else [.sign '('] ++ nameTokens columns ++ [.sign ')', .word "VALUES", .sign '(']
    ++ parameterTokens columns.length ++ [.sign ')']

/-- `IF EXISTS`, if a flag is set. -/
def ifExistsTokens (flag : Bool) : List Token := tokensIf flag [.word "IF", .word "EXISTS"]

/-- `RETURNING *`, if a flag is set. -/
def returningTokens (flag : Bool) : List Token := tokensIf flag [.word "RETURNING", .sign '*']

/-- The tokens of a statement without raw SQL, without the semicolon. -/
def Statement.tokens : Statement → List Token
  | .dropTable name ifExists =>
    [.word "DROP", .word "TABLE"] ++ ifExistsTokens ifExists ++ [nameToken name]
  | .dropIndex name ifExists =>
    [.word "DROP", .word "INDEX"] ++ ifExistsTokens ifExists ++ [nameToken name]
  | .renameTable source target =>
    [.word "ALTER", .word "TABLE"] ++ [nameToken source] ++ [.word "RENAME", .word "TO"]
      ++ [nameToken target]
  | .dropColumn table column =>
    [.word "ALTER", .word "TABLE"] ++ [nameToken table] ++ [.word "DROP", .word "COLUMN"]
      ++ [nameToken column]
  | .renameColumn table source target =>
    [.word "ALTER", .word "TABLE"] ++ [nameToken table] ++ [.word "RENAME", .word "COLUMN"]
      ++ [nameToken source] ++ [.word "TO"] ++ [nameToken target]
  | .createIndex i =>
    [.word "CREATE"] ++ tokensIf i.unique [.word "UNIQUE"]
      ++ [.word "INDEX", .word "IF", .word "NOT", .word "EXISTS"] ++ [nameToken i.name]
      ++ [.word "ON"] ++ [nameToken i.table] ++ [.sign '('] ++ nameTokens (i.terms.flatMap (·.names))
      ++ [.sign ')']
  | .copyRows source target columns =>
    [.word "INSERT", .word "INTO"] ++ [nameToken target] ++ [.sign '('] ++ nameTokens columns
      ++ [.sign ')', .word "SELECT"] ++ nameTokens columns ++ [.word "FROM"] ++ [nameToken source]
  | .select table filter orderBy paginate =>
    [.word "SELECT", .sign '*', .word "FROM"] ++ [nameToken table] ++ whereTokens filter
      ++ orderTokens orderBy ++ tokensIf paginate (pageTokens filter.length)
  | .insert table columns returning =>
    [.word "INSERT", .word "INTO"] ++ [nameToken table] ++ rowTokens columns
      ++ returningTokens returning
  | .update table set filter returning =>
    [.word "UPDATE"] ++ [nameToken table] ++ [.word "SET"] ++ equalityTokens (.sign ',') 1 set
      ++ [.word "WHERE"] ++ equalityTokens (.word "AND") (set.length + 1) filter
      ++ returningTokens returning
  | .delete table filter =>
    [.word "DELETE", .word "FROM"] ++ [nameToken table] ++ [.word "WHERE"]
      ++ equalityTokens (.word "AND") 1 filter
  | .createTable _ | .addColumn _ _ | .pragma _ _ | .comment _ => []

/-! ## Clauses -/

/-- A text that is read as these tokens and begins with a seam, so that it can stand behind any other. -/
structure Clause (text : String) (ts : List Token) : Prop where
  startsApart : StartsApart text
  tokens : Sql.tokens text = some ts

/-- A text in front of a clause. -/
lemma tokens_then (hs : tokens s = some ts) (ht : Clause t us) : tokens (s ++ t) = some (ts ++ us) := by
  rw [tokens_append hs ht.startsApart, ht.tokens]
  rfl

/-- A name in front of a clause. -/
lemma tokens_name {name : String} (hs : quote name = .ok s) (ht : Clause t us) :
    tokens (s ++ t) = some ([nameToken name] ++ us) :=
  tokens_then (tokens_of_quote hs) ht

/-- A literal at whose end no token goes on. -/
lemma tokens_literal (hs : Mode.between.scan s.toList = some (ts, .between)) (ht : tokens t = some us) :
    tokens (s ++ t) = some (ts ++ us) := by
  rw [tokens_append_of_scan hs, ht]
  rfl

/-- The same for a literal that a flag asks for. -/
lemma tokens_literalIf {flag : Bool} (hs : Mode.between.scan s.toList = some (ts, .between))
    (ht : tokens t = some us) : tokens (onlyIf flag s ++ t) = some (tokensIf flag ts ++ us) := by
  cases flag with
  | true => exact tokens_literal hs ht
  | false => simpa [onlyIf, tokensIf] using ht

namespace Clause

lemma nil : Clause "" [] := ⟨nofun, rfl⟩

/-- The end of every statement. -/
lemma semicolon : Clause ";" [.sign ';'] := ⟨by rintro c ⟨⟩; rfl, rfl⟩

lemma append (hs : Clause s ts) (ht : Clause t us) : Clause (s ++ t) (ts ++ us) where
  startsApart := by
    intro c hc
    rw [String.toList_append, List.head?_append] at hc
    cases hhead : s.toList.head? with
    | none => exact ht.startsApart c (by simpa [hhead] using hc)
    | some d => exact hs.startsApart c (by simpa [hhead] using hc)
  tokens := tokens_then hs.tokens ht

/-- A literal between two seams, in front of anything. -/
lemma literal (ts : List Token) (hseam : s.toList.head?.any isSeam)
    (hs : Mode.between.scan s.toList = some (ts, .between)) (ht : Sql.tokens t = some us) :
    Clause (s ++ t) (ts ++ us) where
  startsApart := startsApart_append hseam t
  tokens := tokens_literal hs ht

/-- A clause that a flag asks for. -/
lemma onlyIf (hs : Clause s ts) (flag : Bool) : Clause (Sql.onlyIf flag s) (tokensIf flag ts) := by
  cases flag with
  | true => exact hs
  | false => exact nil

end Clause

/-! ## Lists and clauses of the printer -/

/-- The items of a list, each written and each read. -/
lemma tokens_of_mapM {α : Type} {f : α → Except GenerationError String} {g : α → List Token}
    {as : List α} {texts : List String} (h : as.mapM f = .ok texts)
    (hf : ∀ a ∈ as, ∀ text, f a = .ok text → tokens text = some (g a)) :
    List.Forall₂ (fun text ts => tokens text = some ts) texts (as.map g) := by
  rw [List.forall₂_map_right_iff]
  have hall := forall₂_of_mapM_eq_ok h
  clear h
  induction hall with
  | nil => exact .nil
  | cons ha _ ih =>
      exact .cons (hf _ List.mem_cons_self _ ha)
        (ih fun a hmem => hf a (List.mem_cons_of_mem _ hmem))

lemma tokens_of_quoteList {names : List String} (h : quoteList names = .ok s) :
    tokens s = some (nameTokens names) := by
  obtain ⟨texts, htexts, h⟩ := bind_eq_ok_iff.1 h
  obtain rfl := Except.ok.inj h
  exact tokens_intercalate rfl rfl
    (tokens_of_mapM htexts fun name _ text hname => tokens_of_quote hname)

/-- The equalities of a list, each of them read. -/
lemma tokens_of_equalities {first : Nat} {columns texts : List String}
    (h : equalities first columns = .ok texts) :
    List.Forall₂ (fun text ts => tokens text = some ts) texts
      ((columns.zipIdx first).map fun p => [nameToken p.1, .sign '=', .parameter p.2]) := by
  refine tokens_of_mapM h fun p _ text hp => ?_
  obtain ⟨q, hq, hp⟩ := bind_eq_ok_iff.1 hp
  obtain rfl := Except.ok.inj hp
  rw [String.append_assoc]
  exact tokens_name hq (.literal [.sign '='] rfl rfl (tokens_parameter p.2))

lemma tokens_of_equalityFilter {first : Nat} {columns : List String}
    (h : equalityFilter first columns = .ok s) :
    tokens s = some (equalityTokens (.word "AND") first columns) := by
  obtain ⟨texts, htexts, h⟩ := bind_eq_ok_iff.1 h
  obtain rfl := Except.ok.inj h
  exact tokens_intercalate rfl rfl (tokens_of_equalities htexts)

lemma tokens_parameters (n : Nat) :
    tokens (", ".intercalate ((List.range n).map fun i => parameter (i + 1))) =
      some (parameterTokens n) := by
  refine tokens_intercalate rfl rfl ?_
  rw [List.forall₂_map_left_iff, List.forall₂_map_right_iff, List.forall₂_same]
  exact fun i _ => tokens_parameter (i + 1)

lemma clause_of_whereClause {filter : List String} (h : whereClause filter = .ok s) :
    Clause s (whereTokens filter) := by
  unfold whereClause at h
  cases filter with
  | nil =>
      obtain rfl := Except.ok.inj h
      exact .nil
  | cons =>
      obtain ⟨q, hq, h⟩ := bind_eq_ok_iff.1 h
      obtain rfl := Except.ok.inj h
      exact .literal [.word "WHERE"] rfl rfl (tokens_of_equalityFilter hq)

lemma clause_of_orderClause {columns : List String} (h : orderClause columns = .ok s) :
    Clause s (orderTokens columns) := by
  unfold orderClause at h
  cases columns with
  | nil =>
      obtain rfl := Except.ok.inj h
      exact .nil
  | cons =>
      obtain ⟨q, hq, h⟩ := bind_eq_ok_iff.1 h
      obtain rfl := Except.ok.inj h
      exact .literal [.word "ORDER", .word "BY"] rfl rfl (tokens_of_quoteList hq)

lemma clause_page (n : Nat) :
    Clause (" LIMIT " ++ parameter (n + 1) ++ " OFFSET " ++ parameter (n + 2)) (pageTokens n) := by
  simp only [String.append_assoc]
  exact .literal [.word "LIMIT"] rfl rfl (tokens_then (tokens_parameter (n + 1))
    (.literal [.word "OFFSET"] rfl rfl (tokens_parameter (n + 2))))

lemma clause_returning (flag : Bool) : Clause (onlyIf flag " RETURNING *") (returningTokens flag) :=
  Clause.onlyIf ⟨by rintro c ⟨⟩; rfl, rfl⟩ flag

/-! ## Statements -/

lemma tokens_of_renderInsert {table : String} {columns : List String}
    (h : renderInsert table columns = .ok s) (ht : Clause t us) :
    tokens (s ++ t) =
      some ([Token.word "INSERT", .word "INTO"] ++ ([nameToken table] ++ (rowTokens columns ++ us))) := by
  obtain ⟨q, hq, h⟩ := bind_eq_ok_iff.1 h
  cases columns with
  | nil =>
      obtain rfl := Except.ok.inj h
      simp only [String.append_assoc]
      exact tokens_literal rfl (tokens_name hq (.append ⟨by rintro c ⟨⟩; rfl, rfl⟩ ht))
  | cons column rest =>
      obtain ⟨list, hlist, h⟩ := bind_eq_ok_iff.1 h
      obtain rfl := Except.ok.inj h
      simp only [String.append_assoc, rowTokens, List.isEmpty_cons, Bool.false_eq_true, if_false,
        List.append_assoc]
      exact tokens_literal rfl (tokens_name hq (.literal _ rfl rfl (tokens_then (tokens_of_quoteList hlist)
        (.literal _ rfl rfl (tokens_then (tokens_parameters _) (.literal _ rfl rfl ht.tokens))))))

lemma tokens_of_renderUpdate {table : String} {set filter : List String}
    (h : renderUpdate table set filter = .ok s) (ht : Clause t us) :
    tokens (s ++ t) =
      some ([Token.word "UPDATE"] ++ ([nameToken table] ++ ([Token.word "SET"]
        ++ (equalityTokens (.sign ',') 1 set ++ ([Token.word "WHERE"]
          ++ (equalityTokens (.word "AND") (set.length + 1) filter ++ us)))))) := by
  obtain ⟨values, hvalues, h⟩ := bind_eq_ok_iff.1 h
  obtain ⟨q, hq, h⟩ := bind_eq_ok_iff.1 h
  obtain ⟨condition, hcondition, h⟩ := bind_eq_ok_iff.1 h
  obtain rfl := Except.ok.inj h
  simp only [String.append_assoc]
  exact tokens_literal rfl (tokens_name hq (.literal _ rfl rfl
    (tokens_then (tokens_intercalate rfl rfl (tokens_of_equalities hvalues))
      (.literal _ rfl rfl (tokens_then (tokens_of_equalityFilter hcondition) ht)))))

lemma tokens_of_renderSelect {table : String} {filter orderBy : List String} {paginate : Bool}
    (h : renderSelect table filter orderBy paginate = .ok s) (ht : Clause t us) :
    tokens (s ++ t) =
      some ([Token.word "SELECT", .sign '*', .word "FROM"] ++ ([nameToken table] ++ (whereTokens filter
        ++ (orderTokens orderBy ++ (tokensIf paginate (pageTokens filter.length) ++ us))))) := by
  obtain ⟨q, hq, h⟩ := bind_eq_ok_iff.1 h
  obtain ⟨condition, hcondition, h⟩ := bind_eq_ok_iff.1 h
  obtain ⟨order, horder, h⟩ := bind_eq_ok_iff.1 h
  obtain rfl := Except.ok.inj h
  rw [String.append_assoc, String.append_assoc, String.append_assoc, String.append_assoc]
  exact tokens_literal rfl (tokens_name hq (.append (clause_of_whereClause hcondition)
    (.append (clause_of_orderClause horder) (.append (.onlyIf (clause_page filter.length) paginate) ht))))

/-- The keys of an index without expressions are its names. -/
lemma terms_eq_map_column {terms : List IndexTerm} (h : terms.all (·.isColumn)) :
    terms = (terms.flatMap (·.names)).map .column := by
  induction terms with
  | nil => rfl
  | cons term rest ih =>
      rw [List.all_cons, Bool.and_eq_true] at h
      cases term with
      | column name => simpa [IndexTerm.names] using ih h.2
      | expression => simp [IndexTerm.isColumn] at h

lemma tokens_of_columns {terms : List IndexTerm} {texts : List String} (hcolumns : terms.all (·.isColumn))
    (h : terms.mapM (·.render) = .ok texts) :
    tokens (", ".intercalate texts) = some (nameTokens (terms.flatMap (·.names))) := by
  rw [terms_eq_map_column hcolumns, List.mapM_map] at h
  exact tokens_intercalate rfl rfl
    (tokens_of_mapM h fun name _ text hname => tokens_of_quote hname)

/-- **A written statement is read as its tokens.** -/
theorem Statement.tokens_of_render {s : Statement} {text : String} (hraw : s.isRawFree)
    (h : s.render = .ok text) : Sql.tokens text = some (s.tokens ++ [.sign ';']) := by
  -- in every statement the literals begin with a seam where they follow a name, and all of them end in one
  cases s with
  | dropTable name ifExists | dropIndex name ifExists =>
      obtain ⟨q, hq, h⟩ := bind_eq_ok_iff.1 h
      obtain rfl := Except.ok.inj h
      simp only [Statement.tokens, String.append_assoc, List.append_assoc]
      exact tokens_literal rfl (tokens_literalIf rfl (tokens_name hq .semicolon))
  | renameTable source target | dropColumn table column =>
      obtain ⟨q, hq, h⟩ := bind_eq_ok_iff.1 h
      obtain ⟨q', hq', h⟩ := bind_eq_ok_iff.1 h
      obtain rfl := Except.ok.inj h
      simp only [Statement.tokens, String.append_assoc, List.append_assoc]
      exact tokens_literal rfl (tokens_name hq (.literal _ rfl rfl (tokens_name hq' .semicolon)))
  | renameColumn table source target =>
      obtain ⟨q, hq, h⟩ := bind_eq_ok_iff.1 h
      obtain ⟨q', hq', h⟩ := bind_eq_ok_iff.1 h
      obtain ⟨q'', hq'', h⟩ := bind_eq_ok_iff.1 h
      obtain rfl := Except.ok.inj h
      simp only [Statement.tokens, String.append_assoc, List.append_assoc]
      exact tokens_literal rfl (tokens_name hq (.literal _ rfl rfl
        (tokens_name hq' (.literal _ rfl rfl (tokens_name hq'' .semicolon)))))
  | createIndex i =>
      obtain ⟨hcolumns, hcondition⟩ := Bool.and_eq_true_iff.1 hraw
      obtain ⟨list, hlist, h⟩ := bind_eq_ok_iff.1 h
      obtain rfl := Except.ok.inj h
      obtain ⟨terms, hterms, h⟩ := bind_eq_ok_iff.1 hlist
      obtain ⟨q, hq, h⟩ := bind_eq_ok_iff.1 h
      obtain ⟨q', hq', h⟩ := bind_eq_ok_iff.1 h
      rw [Option.isNone_iff_eq_none.1 hcondition] at h
      obtain rfl := Except.ok.inj h
      simp only [Statement.tokens, String.append_assoc, List.append_assoc]
      exact tokens_literal rfl (tokens_literalIf rfl (tokens_literal rfl (tokens_name hq (.literal _ rfl rfl
        (tokens_name hq' (.literal _ rfl rfl (tokens_then (tokens_of_columns hcolumns hterms)
          (.literal _ rfl rfl rfl))))))))
  | copyRows source target columns =>
      obtain ⟨list, hlist, h⟩ := bind_eq_ok_iff.1 h
      obtain ⟨q, hq, h⟩ := bind_eq_ok_iff.1 h
      obtain ⟨q', hq', h⟩ := bind_eq_ok_iff.1 h
      obtain rfl := Except.ok.inj h
      have hlist := tokens_of_quoteList hlist
      simp only [Statement.tokens, String.append_assoc, List.append_assoc]
      exact tokens_literal rfl (tokens_name hq (.literal _ rfl rfl (tokens_then hlist
        (.literal _ rfl rfl (tokens_then hlist (.literal _ rfl rfl (tokens_name hq' .semicolon)))))))
  | select table filter orderBy paginate =>
      obtain ⟨query, hquery, h⟩ := bind_eq_ok_iff.1 h
      obtain rfl := Except.ok.inj h
      simp only [Statement.tokens, List.append_assoc]
      exact tokens_of_renderSelect hquery .semicolon
  | insert table columns returning =>
      obtain ⟨row, hrow, h⟩ := bind_eq_ok_iff.1 h
      obtain rfl := Except.ok.inj h
      simp only [Statement.tokens, String.append_assoc, List.append_assoc]
      exact tokens_of_renderInsert hrow (.append (clause_returning returning) .semicolon)
  | update table set filter returning =>
      obtain ⟨row, hrow, h⟩ := bind_eq_ok_iff.1 h
      obtain rfl := Except.ok.inj h
      simp only [Statement.tokens, String.append_assoc, List.append_assoc]
      exact tokens_of_renderUpdate hrow (.append (clause_returning returning) .semicolon)
  | delete table filter =>
      obtain ⟨q, hq, h⟩ := bind_eq_ok_iff.1 h
      obtain ⟨condition, hcondition, h⟩ := bind_eq_ok_iff.1 h
      obtain rfl := Except.ok.inj h
      simp only [Statement.tokens, String.append_assoc, List.append_assoc]
      exact tokens_literal rfl (tokens_name hq (.literal _ rfl rfl
        (tokens_then (tokens_of_equalityFilter hcondition) .semicolon)))
  | createTable | addColumn | pragma | comment => simp [Statement.isRawFree] at hraw

lemma nil_intercalate {α : Type} (lists : List (List α)) : [].intercalate lists = lists.flatten := by
  induction lists with
  | nil => rfl
  | cons first rest ih => cases rest <;> simp_all [List.intercalate_cons_cons]

/-- **A list of statements is read statement by statement.** -/
theorem tokens_of_renderAll {statements : List Statement} {text : String}
    (hraw : ∀ s ∈ statements, s.isRawFree) (h : renderAll statements = .ok text) :
    tokens text = some (statements.flatMap fun s => s.tokens ++ [.sign ';']) := by
  obtain ⟨texts, htexts, h⟩ := bind_eq_ok_iff.1 h
  obtain rfl := Except.ok.inj h
  have hblank : Mode.between.scan "\n\n".toList = some ([], .between) := rfl
  rw [tokens_intercalate rfl hblank (tokens_of_mapM htexts fun s hs _ => s.tokens_of_render (hraw s hs)),
    nil_intercalate, List.flatMap_def]

end SchemaCompiler.Sql

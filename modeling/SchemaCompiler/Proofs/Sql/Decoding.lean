import SchemaCompiler.Proofs.Sql.Spelling

/-!
# Reading statements back

A statement that carries no raw SQL can be read back from its text.  The decoder sees tokens only.  It cuts
them into statements at the semicolons, tells the kind of a statement by its first words, and cuts what
follows into clauses at the keywords.  It may do so because a name is never a keyword or a sign: a reserved
word is written between quotes, and what stands between quotes is one token.

* `decodeStatement` — the statement of some tokens.
* `decodeAll`, `decode` — the statements of a text, and its only statement.
* `decodeStatement_tokens` — the tokens of a statement are decoded to it.
* **`decodes_of_render`** — which statements can be written, and that they are read back.
-/

namespace SchemaCompiler.Sql

/-! ## The decoder -/

/-- The name that a token is.  A reserved word is no name. -/
def Token.identifier? : Token → Option String
  | .word text => if Naming.isSqlKeyword text then none else some text
  | .name text => some text
  | .parameter _ | .sign _ => none

/-- What stands before the first of a token, and what stands behind it. -/
def cutAt (t : Token) : List Token → List Token × Option (List Token)
  | [] => ([], none)
  | u :: rest => if u = t then ([], some rest) else ((u :: (cutAt t rest).1), (cutAt t rest).2)

/-- What stands between separators; no tokens are no items. -/
def itemsBetween (separator : Token) (ts : List Token) : List (List Token) :=
  if ts.isEmpty then [] else ts.splitOn separator

/-- A name alone. -/
def nameItem? : List Token → Option String
  | [name] => name.identifier?
  | _ => none

/-- Names with commas between them. -/
def names? (ts : List Token) : Option (List String) := (itemsBetween (.sign ',') ts).mapM nameItem?

/-- The column in `column = ?n`. -/
def equality? : List Token × Nat → Option String
  | ([column, .sign '=', .parameter m], n) => if m = n then column.identifier? else none
  | _ => none

/-- The columns of equalities whose parameters are numbered from `first` on. -/
def equalities? (separator : Token) (first : Nat) (ts : List Token) : Option (List String) :=
  ((itemsBetween separator ts).zipIdx first).mapM equality?

/-- A name, and whether `IF EXISTS` stands before it. -/
def existing? : List Token → Option (String × Bool)
  | [name] => name.identifier?.map (·, false)
  | [.word "IF", .word "EXISTS", name] => name.identifier?.map (·, true)
  | _ => none

/-- Whether `RETURNING *` stands at the end; the keyword is cut off. -/
def returning? : Option (List Token) → Option Bool
  | none => some false
  | some [.sign '*'] => some true
  | some _ => none

/-- The condition behind `WHERE`. -/
def condition? : Option (List Token) → Option (List String)
  | none => some []
  | some ts => equalities? (.word "AND") 1 ts

/-- The order behind `ORDER`. -/
def order? : Option (List Token) → Option (List String)
  | some (.word "BY" :: ts) => names? ts
  | none => some []
  | some _ => none

/-- Whether the page of a query stands behind `LIMIT`. -/
def page? (n : Nat) : Option (List Token) → Option Bool
  | none => some false
  | some ts => if .word "LIMIT" :: ts = pageTokens n then some true else none

/-- The statement behind `ALTER TABLE`. -/
def decodeAlter : List Token → Option Statement
  | [source, .word "RENAME", .word "TO", target] => do
    return .renameTable (← source.identifier?) (← target.identifier?)
  | [table, .word "DROP", .word "COLUMN", column] => do
    return .dropColumn (← table.identifier?) (← column.identifier?)
  | [table, .word "RENAME", .word "COLUMN", source, .word "TO", target] => do
    return .renameColumn (← table.identifier?) (← source.identifier?) (← target.identifier?)
  | _ => none

/-- The statement behind `CREATE INDEX` or `CREATE UNIQUE INDEX`. -/
def decodeIndex (unique : Bool) : List Token → Option Statement
  | .word "IF" :: .word "NOT" :: .word "EXISTS" :: name :: .word "ON" :: table :: .sign '(' :: rest =>
    match cutAt (.sign ')') rest with
    | (keys, some []) => do
      return .createIndex ⟨← name.identifier?, ← table.identifier?, unique,
        (← names? keys).map .column, none⟩
    | _ => none
  | _ => none

/-- The insertion of one row, behind `VALUES (`. -/
def decodeRow (table : Token) (columns rest : List Token) : Option Statement :=
  match cutAt (.sign ')') rest with
  | (values, some rest) =>
    match cutAt (.word "RETURNING") rest with
    | ([], returning) => do
      let columns ← names? columns
      if values = parameterTokens columns.length then
        return .insert (← table.identifier?) columns (← returning? returning)
      else none
    | _ => none
  | _ => none

/-- The copy of rows, behind `SELECT`. -/
def decodeCopy (target : Token) (columns rest : List Token) : Option Statement :=
  match cutAt (.word "FROM") rest with
  | (list, some [source]) => do
    if list = columns then
      return .copyRows (← source.identifier?) (← target.identifier?) (← names? columns)
    else none
  | _ => none

/-- The statement behind `INSERT INTO`. -/
def decodeInsert : List Token → Option Statement
  | table :: .word "DEFAULT" :: .word "VALUES" :: rest =>
    match cutAt (.word "RETURNING") rest with
    | ([], returning) => do return .insert (← table.identifier?) [] (← returning? returning)
    | _ => none
  | table :: .sign '(' :: rest =>
    match cutAt (.sign ')') rest with
    | (columns, some (.word "VALUES" :: .sign '(' :: rest)) => decodeRow table columns rest
    | (columns, some (.word "SELECT" :: rest)) => decodeCopy table columns rest
    | _ => none
  | _ => none

/-- The query behind `SELECT * FROM`. -/
def decodeSelect : List Token → Option Statement
  | [] => none
  | table :: clauses => do
    let (clauses, page) := cutAt (.word "LIMIT") clauses
    let (clauses, order) := cutAt (.word "ORDER") clauses
    let (clauses, condition) := cutAt (.word "WHERE") clauses
    let filter ← condition? condition
    let orderBy ← order? order
    let paginate ← page? filter.length page
    if clauses.isEmpty then return .select (← table.identifier?) filter orderBy paginate else none

/-- The statement behind `UPDATE`. -/
def decodeUpdate : List Token → Option Statement
  | table :: .word "SET" :: rest =>
    match cutAt (.word "WHERE") rest with
    | (values, some rest) => do
      let (condition, returning) := cutAt (.word "RETURNING") rest
      let set ← equalities? (.sign ',') 1 values
      let filter ← equalities? (.word "AND") (set.length + 1) condition
      return .update (← table.identifier?) set filter (← returning? returning)
    | _ => none
  | _ => none

/-- The statement behind `DELETE FROM`. -/
def decodeDelete : List Token → Option Statement
  | table :: .word "WHERE" :: rest => do
    return .delete (← table.identifier?) (← equalities? (.word "AND") 1 rest)
  | _ => none

/-- The statement that some tokens are, without the semicolon. -/
def decodeStatement : List Token → Option Statement
  | .word "DROP" :: .word "TABLE" :: rest => (existing? rest).map fun p => .dropTable p.1 p.2
  | .word "DROP" :: .word "INDEX" :: rest => (existing? rest).map fun p => .dropIndex p.1 p.2
  | .word "ALTER" :: .word "TABLE" :: rest => decodeAlter rest
  | .word "CREATE" :: .word "UNIQUE" :: .word "INDEX" :: rest => decodeIndex true rest
  | .word "CREATE" :: .word "INDEX" :: rest => decodeIndex false rest
  | .word "INSERT" :: .word "INTO" :: rest => decodeInsert rest
  | .word "SELECT" :: .sign '*' :: .word "FROM" :: rest => decodeSelect rest
  | .word "UPDATE" :: rest => decodeUpdate rest
  | .word "DELETE" :: .word "FROM" :: rest => decodeDelete rest
  | _ => none

/-- The statements before the semicolons; behind the last one nothing may stand. -/
def sentences : List Token → Option (List (List Token))
  | [] => some []
  | t :: rest =>
    if t = .sign ';' then (sentences rest).map ([] :: ·)
    else
      match sentences rest with
      | some (first :: more) => some ((t :: first) :: more)
      | _ => none

/-- The statements of a text. -/
def decodeAll (text : String) : Option (List Statement) :=
  (tokens text).bind fun ts => (sentences ts).bind (·.mapM decodeStatement)

/-- The only statement of a text. -/
def decode (text : String) : Option Statement :=
  match decodeAll text with
  | some [s] => some s
  | _ => none

/-! ## Lists -/

variable {t separator : Token} {names columns : List String} {first n : Nat}

@[simp] lemma identifier?_nameToken (name : String) : (nameToken name).identifier? = some name := by
  unfold nameToken
  split_ifs with h
  · simp only [isPlain, Bool.and_eq_true, Bool.not_eq_true'] at h
    simp [Token.identifier?, h.2]
  · rfl

/-- Keywords and signs. -/
def Token.isFixed : Token → Bool
  | .word text => Naming.isSqlKeyword text
  | .sign _ => true
  | .name _ | .parameter _ => false

/-- No name is written as a keyword or a sign. -/
lemma nameToken_ne (h : t.isFixed) (name : String) : nameToken name ≠ t := by
  rintro rfl
  unfold nameToken at h
  split_ifs at h with hplain
  · simp only [isPlain, Bool.and_eq_true, Bool.not_eq_true'] at hplain
    simp [Token.isFixed, hplain.2] at h
  · simp [Token.isFixed] at h

lemma mem_intercalate_singleton {items : List (List Token)} (h : t ∈ [separator].intercalate items) :
    t = separator ∨ ∃ item ∈ items, t ∈ item := by
  induction items with
  | nil => simp at h
  | cons item rest ih =>
      cases rest with
      | nil => exact .inr ⟨item, by simp, by simpa using h⟩
      | cons next rest =>
          rw [List.intercalate_cons_cons, List.append_assoc, List.mem_append, List.mem_append,
            List.mem_singleton] at h
          rcases h with h | h | h
          · exact .inr ⟨item, by simp, h⟩
          · exact .inl h
          · obtain h | ⟨item, hitem, ht⟩ := ih h
            · exact .inl h
            · exact .inr ⟨item, List.mem_cons_of_mem _ hitem, ht⟩

lemma notMem_nameTokens (h : t.isFixed) (hcomma : t ≠ .sign ',') : t ∉ nameTokens names := by
  intro hmem
  obtain ht | ⟨item, hitem, ht⟩ := mem_intercalate_singleton hmem
  · exact hcomma ht
  · obtain ⟨name, -, rfl⟩ := List.mem_map.1 hitem
    exact nameToken_ne h name (List.mem_singleton.1 ht).symm

lemma notMem_equalityTokens (h : t.isFixed) (hsep : t ≠ separator) (hequals : t ≠ .sign '=') :
    t ∉ equalityTokens separator first columns := by
  intro hmem
  obtain ht | ⟨item, hitem, ht⟩ := mem_intercalate_singleton hmem
  · exact hsep ht
  · obtain ⟨p, -, rfl⟩ := List.mem_map.1 hitem
    simp only [List.mem_cons, List.not_mem_nil, or_false] at ht
    obtain ht | ht | ht := ht
    · exact nameToken_ne h p.1 ht.symm
    · exact hequals ht
    · simp [ht, Token.isFixed] at h

lemma notMem_parameterTokens (h : t.isFixed) (hcomma : t ≠ .sign ',') : t ∉ parameterTokens n := by
  intro hmem
  obtain ht | ⟨item, hitem, ht⟩ := mem_intercalate_singleton hmem
  · exact hcomma ht
  · obtain ⟨i, -, rfl⟩ := List.mem_map.1 hitem
    simp [List.mem_singleton.1 ht, Token.isFixed] at h

lemma cutAt_append {before : List Token} (h : t ∉ before) (after : List Token) :
    cutAt t (before ++ t :: after) = (before, some after) := by
  induction before with
  | nil => simp [cutAt]
  | cons u rest ih =>
      obtain ⟨hne, hrest⟩ := not_or.1 (mt List.mem_cons.2 h)
      simp [cutAt, Ne.symm hne, ih hrest]

lemma cutAt_of_notMem {ts : List Token} (h : t ∉ ts) : cutAt t ts = (ts, none) := by
  induction ts with
  | nil => rfl
  | cons u rest ih =>
      obtain ⟨hne, hrest⟩ := not_or.1 (mt List.mem_cons.2 h)
      simp [cutAt, Ne.symm hne, ih hrest]

/-- A clause that a flag asks for, at the end. -/
lemma cutAt_tokensIf {before : List Token} (h : t ∉ before) (flag : Bool) (after : List Token) :
    cutAt t (before ++ tokensIf flag (t :: after)) = (before, if flag then some after else none) := by
  cases flag with
  | true => exact cutAt_append h after
  | false => simpa [tokensIf] using cutAt_of_notMem h

lemma itemsBetween_intercalate {items : List (List Token)} (hsep : ∀ item ∈ items, separator ∉ item)
    (hne : ∀ item ∈ items, item ≠ []) : itemsBetween separator ([separator].intercalate items) = items := by
  cases items with
  | nil => rfl
  | cons item rest =>
      have hsome : [separator].intercalate (item :: rest) ≠ [] := by
        cases rest with
        | nil => simpa using hne item
        | cons => simp [List.intercalate_cons_cons]
      rw [itemsBetween, if_neg (by simpa using hsome)]
      exact List.splitOn_intercalate separator hsep (by simp)

@[simp] lemma names?_nameTokens (names : List String) : names? (nameTokens names) = some names := by
  rw [names?, nameTokens, itemsBetween_intercalate]
  · induction names with
    | nil => rfl
    | cons name rest ih => simp [List.mapM_cons, nameItem?, ih]
  · intro item hitem hmem
    obtain ⟨name, -, rfl⟩ := List.mem_map.1 hitem
    exact nameToken_ne rfl name (List.mem_singleton.1 hmem).symm
  · intro item hitem
    obtain ⟨name, -, rfl⟩ := List.mem_map.1 hitem
    simp

lemma equalities?_equalityTokens (separator : Token) (h : separator.isFixed)
    (hequals : separator ≠ .sign '=') (first : Nat) (columns : List String) :
    equalities? separator first (equalityTokens separator first columns) = some columns := by
  rw [equalities?, equalityTokens, itemsBetween_intercalate]
  · induction columns generalizing first with
    | nil => rfl
    | cons column rest ih => simp [List.zipIdx_cons, List.mapM_cons, equality?, ih]
  · intro item hitem hmem
    obtain ⟨p, -, rfl⟩ := List.mem_map.1 hitem
    simp only [List.mem_cons, List.not_mem_nil, or_false] at hmem
    obtain ht | ht | ht := hmem
    · exact nameToken_ne h p.1 ht.symm
    · exact hequals ht
    · simp [ht, Token.isFixed] at h
  · intro item hitem
    obtain ⟨p, -, rfl⟩ := List.mem_map.1 hitem
    simp

/-! ## Statements -/

variable {s : Statement} {text : String}

lemma existing?_tokens (name : String) (ifExists : Bool) :
    existing? (ifExistsTokens ifExists ++ [nameToken name]) = some (name, ifExists) := by
  cases ifExists <;> simp [ifExistsTokens, tokensIf, existing?]

lemma returning?_tokens (returning : Bool) :
    returning? (if returning then some [.sign '*'] else none) = some returning := by
  cases returning <;> rfl

lemma decodeIndex_tokens {terms : List IndexTerm} (hcolumns : terms.all (·.isColumn)) (unique : Bool)
    (name table : String) :
    decodeIndex unique ([Token.word "IF", .word "NOT", .word "EXISTS"] ++ ([nameToken name]
      ++ ([Token.word "ON"] ++ ([nameToken table] ++ ([Token.sign '(']
        ++ (nameTokens (terms.flatMap (·.names)) ++ [Token.sign ')'])))))) =
          some (.createIndex ⟨name, table, unique, terms, none⟩) := by
  have hkeys : .sign ')' ∉ nameTokens (terms.flatMap (·.names)) := notMem_nameTokens rfl (by decide)
  simp [decodeIndex, cutAt_append hkeys, ← terms_eq_map_column hcolumns]

lemma decodeInsert_row (table : String) (columns : List String) (returning : Bool) :
    decodeInsert ([nameToken table] ++ (rowTokens columns ++ returningTokens returning)) =
      some (.insert table columns returning) := by
  have hend : cutAt (.word "RETURNING") (returningTokens returning) =
      ([], if returning then some [.sign '*'] else none) :=
    cutAt_tokensIf List.not_mem_nil returning [.sign '*']
  cases columns with
  | nil => simp [rowTokens, decodeInsert, hend, returning?_tokens]
  | cons column rest =>
      have hcolumns : .sign ')' ∉ nameTokens (column :: rest) := notMem_nameTokens rfl (by decide)
      have hvalues : .sign ')' ∉ parameterTokens (rest.length + 1) :=
        notMem_parameterTokens rfl (by decide)
      simp [rowTokens, decodeInsert, decodeRow, cutAt_append hcolumns, cutAt_append hvalues, hend,
        returning?_tokens]

lemma decodeInsert_copy (source target : String) (columns : List String) :
    decodeInsert ([nameToken target] ++ ([Token.sign '('] ++ (nameTokens columns
      ++ ([Token.sign ')', .word "SELECT"]
        ++ (nameTokens columns ++ ([Token.word "FROM"] ++ [nameToken source])))))) =
        some (.copyRows source target columns) := by
  have hcolumns : .sign ')' ∉ nameTokens columns := notMem_nameTokens rfl (by decide)
  have hlist : .word "FROM" ∉ nameTokens columns := notMem_nameTokens (by decide +kernel) (by decide)
  simp [decodeInsert, decodeCopy, cutAt_append hcolumns, cutAt_append hlist]

lemma notMem_whereTokens (h : t.isFixed) (hwhere : t ≠ .word "WHERE") (hand : t ≠ .word "AND")
    (hequals : t ≠ .sign '=') (filter : List String) : t ∉ whereTokens filter := by
  cases filter with
  | nil => exact List.not_mem_nil
  | cons =>
      exact List.not_mem_cons_of_ne_of_not_mem hwhere (notMem_equalityTokens h hand hequals)

lemma notMem_orderTokens (h : t.isFixed) (horder : t ≠ .word "ORDER") (hby : t ≠ .word "BY")
    (hcomma : t ≠ .sign ',') (columns : List String) : t ∉ orderTokens columns := by
  cases columns with
  | nil => exact List.not_mem_nil
  | cons =>
      exact List.not_mem_cons_of_ne_of_not_mem horder
        (List.not_mem_cons_of_ne_of_not_mem hby (notMem_nameTokens h hcomma))

lemma cutAt_whereTokens (filter : List String) :
    ∃ condition, cutAt (.word "WHERE") (whereTokens filter) = ([], condition) ∧
      condition? condition = some filter := by
  refine ⟨_, cutAt_tokensIf List.not_mem_nil _ _, ?_⟩
  cases filter with
  | nil => rfl
  | cons => exact equalities?_equalityTokens _ (by decide +kernel) (by decide) 1 _

lemma cutAt_orderTokens {before : List Token} (h : .word "ORDER" ∉ before) (columns : List String) :
    ∃ order, cutAt (.word "ORDER") (before ++ orderTokens columns) = (before, order) ∧
      order? order = some columns := by
  refine ⟨_, cutAt_tokensIf h _ _, ?_⟩
  cases columns with
  | nil => rfl
  | cons => exact names?_nameTokens _

lemma cutAt_pageTokens {before : List Token} (h : .word "LIMIT" ∉ before) (n : Nat) (paginate : Bool) :
    ∃ page, cutAt (.word "LIMIT") (before ++ tokensIf paginate (pageTokens n)) = (before, page) ∧
      page? n page = some paginate := by
  refine ⟨_, cutAt_tokensIf h _ _, ?_⟩
  cases paginate <;> simp [page?, pageTokens]

lemma decodeSelect_tokens (table : String) (filter orderBy : List String) (paginate : Bool) :
    decodeSelect ([nameToken table] ++ (whereTokens filter ++ (orderTokens orderBy
      ++ tokensIf paginate (pageTokens filter.length)))) =
        some (.select table filter orderBy paginate) := by
  -- the clauses are cut off from the last one on: each cut must not be taken for one in an earlier clause
  have hlimit : .word "LIMIT" ∉ whereTokens filter ++ orderTokens orderBy := by
    rw [List.mem_append, not_or]
    exact ⟨notMem_whereTokens (by decide +kernel) (by decide) (by decide) (by decide) filter,
      notMem_orderTokens (by decide +kernel) (by decide) (by decide) (by decide) orderBy⟩
  have horder : .word "ORDER" ∉ whereTokens filter :=
    notMem_whereTokens (by decide +kernel) (by decide) (by decide) (by decide) filter
  obtain ⟨page, hpage, hpaginate⟩ := cutAt_pageTokens hlimit filter.length paginate
  obtain ⟨order, horder, horderBy⟩ := cutAt_orderTokens horder orderBy
  obtain ⟨condition, hcondition, hfilter⟩ := cutAt_whereTokens filter
  rw [List.append_assoc] at hpage
  simp [decodeSelect, hpage, horder, hcondition, hfilter, horderBy, hpaginate]

lemma decodeUpdate_tokens (table : String) (set filter : List String) (returning : Bool) :
    decodeUpdate ([nameToken table] ++ ([Token.word "SET"] ++ (equalityTokens (.sign ',') 1 set
      ++ ([Token.word "WHERE"] ++ (equalityTokens (.word "AND") (set.length + 1) filter
        ++ returningTokens returning))))) = some (.update table set filter returning) := by
  have hset : .word "WHERE" ∉ equalityTokens (.sign ',') 1 set :=
    notMem_equalityTokens (by decide +kernel) (by decide) (by decide)
  have hfilter : .word "RETURNING" ∉ equalityTokens (.word "AND") (set.length + 1) filter :=
    notMem_equalityTokens (by decide +kernel) (by decide) (by decide)
  have hend : cutAt (.word "RETURNING") (equalityTokens (.word "AND") (set.length + 1) filter
      ++ returningTokens returning) = (_, _) := cutAt_tokensIf hfilter returning [.sign '*']
  have hvalues := equalities?_equalityTokens (.sign ',') rfl (by decide) 1 set
  have hcondition := equalities?_equalityTokens (.word "AND") (by decide +kernel) (by decide)
    (set.length + 1) filter
  simp [decodeUpdate, cutAt_append hset, hend, hvalues, hcondition, returning?_tokens]

/-- **The tokens of a statement are decoded to it.** -/
theorem decodeStatement_tokens (hraw : s.isRawFree) : decodeStatement s.tokens = some s := by
  cases s with
  | dropTable name ifExists | dropIndex name ifExists =>
      simp [Statement.tokens, decodeStatement, existing?_tokens]
  | renameTable | dropColumn | renameColumn => simp [Statement.tokens, decodeStatement, decodeAlter]
  | createIndex i =>
      obtain ⟨name, table, unique, terms, condition⟩ := i
      obtain ⟨hcolumns, hcondition⟩ := Bool.and_eq_true_iff.1 hraw
      obtain rfl : condition = none := Option.isNone_iff_eq_none.1 hcondition
      simp only [Statement.tokens, List.append_assoc]
      cases unique with
      | true => exact decodeIndex_tokens hcolumns true name table
      | false => exact decodeIndex_tokens hcolumns false name table
  | insert table columns returning =>
      simp only [Statement.tokens, List.append_assoc]
      exact decodeInsert_row table columns returning
  | copyRows source target columns =>
      simp only [Statement.tokens, List.append_assoc]
      exact decodeInsert_copy source target columns
  | select table filter orderBy paginate =>
      simp only [Statement.tokens, List.append_assoc]
      exact decodeSelect_tokens table filter orderBy paginate
  | update table set filter returning =>
      simp only [Statement.tokens, List.append_assoc]
      exact decodeUpdate_tokens table set filter returning
  | delete table filter =>
      have hfilter := equalities?_equalityTokens (.word "AND") (by decide +kernel) (by decide) 1 filter
      simp [Statement.tokens, decodeStatement, decodeDelete, hfilter]
  | createTable | addColumn | pragma | comment => simp [Statement.isRawFree] at hraw

/-- No semicolon stands inside a statement. -/
lemma semicolon_notMem_tokens (s : Statement) : .sign ';' ∉ s.tokens := by
  have hname (name : String) : Token.sign ';' ≠ nameToken name := (nameToken_ne rfl name).symm
  have hnames (names : List String) : .sign ';' ∉ nameTokens names := notMem_nameTokens rfl (by decide)
  have hvalues (first : Nat) (columns : List String) :
      .sign ';' ∉ equalityTokens (.sign ',') first columns :=
    notMem_equalityTokens rfl (by decide) (by decide)
  have hfilter (first : Nat) (columns : List String) :
      .sign ';' ∉ equalityTokens (.word "AND") first columns :=
    notMem_equalityTokens rfl (by decide) (by decide)
  have hparameters (n : Nat) : .sign ';' ∉ parameterTokens n := notMem_parameterTokens rfl (by decide)
  have hflag {ts : List Token} (flag : Bool) (h : .sign ';' ∉ ts) : .sign ';' ∉ tokensIf flag ts := by
    cases flag <;> simp [tokensIf, h]
  cases s with
  | insert table columns returning =>
      cases columns <;>
        simp [Statement.tokens, rowTokens, returningTokens, hflag, hname, hnames, hparameters]
  | _ =>
      simp [Statement.tokens, ifExistsTokens, whereTokens, orderTokens, pageTokens, returningTokens, hflag,
        hname, hnames, hvalues, hfilter]

/-- A statement is read up to its semicolon. -/
lemma sentences_append {ts : List Token} (h : .sign ';' ∉ ts) (rest : List Token) :
    sentences (ts ++ .sign ';' :: rest) = (sentences rest).map (ts :: ·) := by
  induction ts with
  | nil => simp [sentences]
  | cons u more ih =>
      obtain ⟨hne, hmore⟩ := not_or.1 (mt List.mem_cons.2 h)
      rw [List.cons_append, sentences, if_neg (Ne.symm hne), ih hmore]
      cases sentences rest <;> rfl

lemma sentences_flatMap (statements : List Statement) :
    sentences (statements.flatMap fun s => s.tokens ++ [.sign ';']) =
      some (statements.map (·.tokens)) := by
  induction statements with
  | nil => rfl
  | cons s rest ih =>
      rw [List.flatMap_cons, List.append_assoc, List.singleton_append,
        sentences_append (semicolon_notMem_tokens s), ih]
      rfl

lemma mapM_decodeStatement {statements : List Statement} (hraw : ∀ s ∈ statements, s.isRawFree) :
    (statements.map (·.tokens)).mapM decodeStatement = some statements := by
  induction statements with
  | nil => rfl
  | cons s rest ih =>
      rw [List.map_cons, List.mapM_cons, decodeStatement_tokens (hraw s List.mem_cons_self),
        ih fun s hs => hraw s (List.mem_cons_of_mem _ hs)]
      rfl

/-! ## Round trip -/

/-- The text of several statements is read back as these statements. -/
lemma decodeAll_of_renderAll {statements : List Statement} (hraw : ∀ s ∈ statements, s.isRawFree)
    (h : renderAll statements = .ok text) : decodeAll text = some statements := by
  rw [decodeAll, tokens_of_renderAll hraw h, Option.bind_some, sentences_flatMap, Option.bind_some,
    mapM_decodeStatement hraw]

/-- One statement is written alone as it is written among others. -/
lemma renderAll_singleton (s : Statement) : renderAll [s] = s.render := by
  unfold renderAll
  rw [List.mapM_cons, List.mapM_nil]
  cases s.render <;> rfl

/-- A statement can be written if all its names can. -/
lemma exists_render_iff : (∃ text, s.render = .ok text) ↔
    ∀ name ∈ s.names, name ≠ "" ∧ '\x00' ∉ name.toList := by
  rw [← renderAll_singleton, exists_renderAll_iff]
  simp [identifierFault_eq_none_iff]

/-- **Written statements are read back.**  Statements without raw SQL can be written exactly if each of
their names is a text without NUL that is not empty, and from what is written the decoder recovers them: the
kind, the names and flags, and where each list and each statement ends.  No name is in the way.  Wherever a
blank or a sign stands behind a name, the name is one token, whatever it holds. -/
theorem decodes_of_render {statements : List Statement} (hraw : ∀ s ∈ statements, s.isRawFree) :
    (∀ s ∈ statements,
        ((∃ text, s.render = .ok text) ↔ ∀ name ∈ s.names, name ≠ "" ∧ '\x00' ∉ name.toList) ∧
          ∀ text, s.render = .ok text → decode text = some s) ∧
      ((∃ text, renderAll statements = .ok text) ↔
        ∀ s ∈ statements, ∀ name ∈ s.names, name ≠ "" ∧ '\x00' ∉ name.toList) ∧
      (∀ text, renderAll statements = .ok text → decodeAll text = some statements) ∧
      ∀ name text, quote name = .ok text → ∀ rest, StartsApart rest →
        tokens (text ++ rest) = (tokens rest).map (nameToken name :: ·) := by
  refine ⟨fun s hs => ⟨exists_render_iff, fun text htext => ?_⟩, ?_,
    fun text => decodeAll_of_renderAll hraw, fun name text hname rest => tokens_quote_append hname⟩
  · rw [← renderAll_singleton] at htext
    have hone : ∀ u ∈ [s], u.isRawFree := by simpa using hraw s hs
    rw [decode, decodeAll_of_renderAll hone htext]
  · rw [exists_renderAll_iff]
    simp only [List.mem_flatMap, identifierFault_eq_none_iff]
    exact ⟨fun h s hs name hname => h name ⟨s, hs, hname⟩,
      fun h name ⟨s, hs, hname⟩ => h s hs name hname⟩

/-- Statements about names that look like the rest of a statement. -/
def awkwardStatements : List Statement := [
  .renameTable "a\"; DROP TABLE b; --" "select",
  .createIndex ⟨"on", "(x)", true, [.column "a, b", .column "?1"], none⟩,
  .update "set" [] ["a = ?1 AND b"] true,
  .insert "t\n" [] false]

/-- Each of the names is one token, and the statements are read back. -/
theorem awkwardStatements_decoded :
    renderAll awkwardStatements = .ok ("ALTER TABLE \"a\"\"; DROP TABLE b; --\" RENAME TO \"select\";\n\n"
      ++ "CREATE UNIQUE INDEX IF NOT EXISTS \"on\" ON \"(x)\" (\"a, b\", \"?1\");\n\n"
      ++ "UPDATE \"set\" SET  WHERE \"a = ?1 AND b\" = ?1 RETURNING *;\n\n"
      ++ "INSERT INTO \"t\n\" DEFAULT VALUES;") ∧
    ∀ text, renderAll awkwardStatements = .ok text → decodeAll text = some awkwardStatements := by
  have hraw : ∀ s ∈ awkwardStatements, s.isRawFree := by decide
  exact ⟨by decide +kernel, (decodes_of_render hraw).2.2.1⟩

end SchemaCompiler.Sql

import SchemaCompiler.Proofs.Sql.Decoding

/-!
# Where the parameters of a query stand

Values are bound to a query by number, so what becomes of a value is decided by the place of its parameter.
This file reads the places off the tokens of a query.  It uses no more of SQL than this: a parameter is
assigned to a column, or compared with it, where `column = ?n` is written, before and behind `WHERE`; and in
an insertion it is assigned to the column that has the same place in the list of columns.

* `placeholders` — the numbers of the parameters, in the order of writing.
* `assigned`, `compared` — the columns that parameters are assigned to and compared with.
* `Statement.Binds` — what a query does with its parameters.
* **`Statement.binds_select`, `binds_insert`, `binds_update`, `binds_delete`** — what each kind of query does.
* `tokens_of_append_semicolon` — a query is read the same without its semicolon.
-/

namespace SchemaCompiler.Sql

/-! ## The reader -/

/-- The number of a parameter. -/
def Token.number? : Token → Option Nat
  | .parameter n => some n
  | .word _ | .name _ | .sign _ => none

/-- The numbers of the parameters, in the order of writing. -/
def placeholders (ts : List Token) : List Nat := ts.filterMap (·.number?)

/-- Every `column = ?n`, wherever it stands. -/
def equalitiesIn : List Token → List (String × Nat)
  | [] => []
  | t :: rest =>
    match rest with
    | .sign '=' :: .parameter n :: _ => (t.identifier?.map (·, n)).toList ++ equalitiesIn rest
    | _ => equalitiesIn rest

/-- The columns in the first brackets, and with each of them the parameter that has its place behind
these. -/
def rowIn (ts : List Token) : List (String × Nat) :=
  match (cutAt (.sign '(') ts).2 with
  | none => []
  | some rest =>
    match cutAt (.sign ')') rest with
    | (columns, some values) => ((names? columns).getD []).zip (placeholders values)
    | (_, none) => []

/-- The columns that parameters are assigned to. -/
def assigned (ts : List Token) : List (String × Nat) :=
  rowIn ts ++ equalitiesIn (cutAt (.word "WHERE") ts).1

/-- The columns that parameters are compared with. -/
def compared (ts : List Token) : List (String × Nat) :=
  equalitiesIn ((cutAt (.word "WHERE") ts).2.getD [])

/-! ## Equalities -/

variable {separator : Token} {ts us : List Token} {columns filter : List String} {first n : Nat}

lemma equalitiesIn_cons_of_ne {t : Token} (h : ts.head? ≠ some (.sign '=')) :
    equalitiesIn (t :: ts) = equalitiesIn ts := by
  rw [equalitiesIn]
  rintro n more rfl
  exact h rfl

/-- An equality is found, and what stands behind it is read on. -/
lemma equalitiesIn_equality (column : String) (n : Nat) (h : ts.head? ≠ some (.sign '=')) :
    equalitiesIn (nameToken column :: .sign '=' :: .parameter n :: ts) =
      (column, n) :: equalitiesIn ts := by
  rw [equalitiesIn, identifier?_nameToken, equalitiesIn_cons_of_ne (by simp), equalitiesIn_cons_of_ne h]
  rfl

/-- Tokens without an equals sign say nothing about parameters. -/
lemma equalitiesIn_append (hts : .sign '=' ∉ ts) (hus : us.head? ≠ some (.sign '=')) :
    equalitiesIn (ts ++ us) = equalitiesIn us := by
  induction ts with
  | nil => rfl
  | cons t rest ih =>
      obtain ⟨-, hrest⟩ := not_or.1 (mt List.mem_cons.2 hts)
      rw [List.cons_append, equalitiesIn_cons_of_ne, ih hrest]
      cases rest with
      | nil => exact hus
      | cons u more => exact fun h => hrest (by simp [Option.some.inj h])

lemma equalitiesIn_of_notMem (h : .sign '=' ∉ ts) : equalitiesIn ts = [] := by
  rw [← List.append_nil ts, equalitiesIn_append h (by simp)]
  rfl

lemma equalityTokens_cons (separator : Token) (first : Nat) (column : String) (columns : List String) :
    equalityTokens separator first (column :: columns) =
      [nameToken column, .sign '=', .parameter first] ++
        (if columns = [] then [] else separator :: equalityTokens separator (first + 1) columns) := by
  cases columns with
  | nil => rfl
  | cons next rest => simp [equalityTokens, List.zipIdx_cons, List.intercalate_cons_cons]

lemma head_equalityTokens (h : us.head? ≠ some (.sign '=')) :
    (equalityTokens separator first columns ++ us).head? ≠ some (.sign '=') := by
  cases columns with
  | nil => exact h
  | cons column rest =>
      rw [equalityTokens_cons]
      exact fun heq => nameToken_ne rfl column (Option.some.inj heq)

/-- **Equalities are found where they are written**, with their numbers. -/
lemma equalitiesIn_equalityTokens (hsep : separator ≠ .sign '=') (hus : us.head? ≠ some (.sign '=')) :
    equalitiesIn (equalityTokens separator first columns ++ us) =
      columns.zipIdx first ++ equalitiesIn us := by
  induction columns generalizing first with
  | nil => rfl
  | cons column rest ih =>
      rw [equalityTokens_cons, List.append_assoc, List.zipIdx_cons]
      by_cases hnil : rest = []
      · subst hnil
        exact equalitiesIn_equality column first hus
      · simp only [if_neg hnil, List.cons_append, List.nil_append]
        rw [equalitiesIn_equality column first (by simpa using hsep),
          equalitiesIn_cons_of_ne (head_equalityTokens hus), ih]

/-! ## Placeholders -/

@[simp] lemma number?_word (text : String) : (Token.word text).number? = none := rfl

@[simp] lemma number?_sign (c : Char) : (Token.sign c).number? = none := rfl

@[simp] lemma placeholders_nil : placeholders [] = [] := rfl

@[simp] lemma placeholders_append : placeholders (ts ++ us) = placeholders ts ++ placeholders us :=
  List.filterMap_append

@[simp] lemma placeholders_cons (t : Token) :
    placeholders (t :: ts) = t.number?.toList ++ placeholders ts := by
  cases t <;> rfl

@[simp] lemma number?_nameToken (name : String) : (nameToken name).number? = none := by
  unfold nameToken
  split_ifs <;> rfl

lemma placeholders_intercalate (hsep : separator.number? = none) (items : List (List Token)) :
    placeholders ([separator].intercalate items) = items.flatMap placeholders := by
  induction items with
  | nil => rfl
  | cons item rest ih =>
      cases rest with
      | nil => simp
      | cons next rest =>
          rw [List.intercalate_cons_cons, placeholders_append, placeholders_append, ih]
          simp [hsep, placeholders]

@[simp] lemma placeholders_nameTokens (names : List String) : placeholders (nameTokens names) = [] := by
  rw [nameTokens, placeholders_intercalate rfl]
  simp [placeholders]

lemma placeholders_equalityTokens (hsep : separator.number? = none) (first : Nat) (columns : List String) :
    placeholders (equalityTokens separator first columns) = List.range' first columns.length := by
  rw [equalityTokens, placeholders_intercalate hsep, List.flatMap_map]
  have hone : ∀ p : String × Nat,
      placeholders [nameToken p.1, .sign '=', .parameter p.2] = [p.2] := fun p => by
    simp only [placeholders_cons, number?_nameToken]
    rfl
  simp only [hone]
  rw [← List.map_eq_flatMap, List.zipIdx_map_snd]

@[simp] lemma placeholders_parameterTokens (n : Nat) :
    placeholders (parameterTokens n) = List.range' 1 n := by
  rw [parameterTokens, placeholders_intercalate rfl, List.flatMap_map]
  have hone : ∀ i : Nat, placeholders [.parameter (i + 1)] = [i + 1] := fun i => rfl
  simp only [hone]
  rw [← List.map_eq_flatMap, List.range'_eq_map_range]
  simp [Nat.add_comm]

/-! ## What a query does with its parameters -/

/-- The parameters of a query are numbered in the order of writing, from one on.  The first ones are assigned
to columns, the next ones compared with columns, both in a given order, and `others` are left. -/
structure Binds (ts : List Token) (set filter : List String) (others : Nat) : Prop where
  placeholders : Sql.placeholders ts = List.range' 1 (set.length + filter.length + others)
  assigned : Sql.assigned ts = set.zipIdx 1
  compared : Sql.compared ts = filter.zipIdx (set.length + 1)

lemma rowIn_of_notMem (h : .sign '(' ∉ ts) : rowIn ts = [] := by
  rw [rowIn, cutAt_of_notMem h]

/-- Behind the values that are assigned stands a condition, and behind the condition there is no more that
is assigned or compared. -/
lemma binds_of_where {set filter : List String} {first others : Nat} {before after : List Token}
    (hfirst : first = set.length + 1) (hwhere : .word "WHERE" ∉ before)
    (hrow : .sign '(' ∉ before) (hrest : .sign '(' ∉ after)
    (hequals : .sign '=' ∉ after) (hset : equalitiesIn before = set.zipIdx 1)
    (hbefore : Sql.placeholders before = List.range' 1 set.length)
    (hafter : Sql.placeholders after = List.range' (set.length + filter.length + 1) others) :
    Binds (before ++ .word "WHERE" :: (equalityTokens (.word "AND") first filter ++ after))
      set filter others where
  placeholders := by
    rw [placeholders_append, placeholders_cons, placeholders_append, hbefore, hafter,
      placeholders_equalityTokens rfl, hfirst, Nat.add_comm set.length 1,
      Nat.add_comm (set.length + filter.length) 1, ← List.range'_append_1, ← List.range'_append_1,
      List.append_assoc]
    rfl
  assigned := by
    have hkey : .sign '(' ∉ equalityTokens (.word "AND") first filter :=
      notMem_equalityTokens rfl (by decide) (by decide)
    rw [Sql.assigned, rowIn_of_notMem (by simp [hrow, hrest, hkey]), cutAt_append hwhere]
    exact hset
  compared := by
    rw [Sql.compared, cutAt_append hwhere, Option.getD_some, equalitiesIn_equalityTokens (by decide),
      equalitiesIn_of_notMem hequals, List.append_nil, hfirst]
    exact fun h => hequals (List.mem_of_mem_head? h)

/-- Tokens without a condition, brackets and equalities neither assign nor compare. -/
lemma binds_of_notMem {others : Nat} (hwhere : .word "WHERE" ∉ ts) (hrow : .sign '(' ∉ ts)
    (hequals : .sign '=' ∉ ts) (hothers : Sql.placeholders ts = List.range' 1 others) :
    Binds ts [] [] others where
  placeholders := by simpa using hothers
  assigned := by
    rw [Sql.assigned, rowIn_of_notMem hrow, cutAt_of_notMem hwhere, equalitiesIn_of_notMem hequals]
    rfl
  compared := by
    rw [Sql.compared, cutAt_of_notMem hwhere]
    rfl

section Queries

variable {t : Token} (table : String)

/-- No keyword or sign is a name. -/
lemma ne_nameToken (h : t.isFixed) (name : String) : t ≠ nameToken name := (nameToken_ne h name).symm

lemma isFixed_where : (Token.word "WHERE").isFixed = true := by decide +kernel

lemma notMem_tokensIf (h : t ∉ ts) (flag : Bool) : t ∉ tokensIf flag ts := by
  cases flag <;> simp [tokensIf, h]

lemma notMem_pageTokens (h : t.isFixed) (hlimit : t ≠ .word "LIMIT") (hoffset : t ≠ .word "OFFSET")
    (n : Nat) : t ∉ pageTokens n := by
  have hparameter : ∀ k, t ≠ .parameter k := by
    rintro k rfl
    simp [Token.isFixed] at h
  simp [pageTokens, hlimit, hoffset, hparameter]

lemma notMem_returningTokens (hreturning : t ≠ .word "RETURNING") (hstar : t ≠ .sign '*')
    (returning : Bool) : t ∉ returningTokens returning :=
  notMem_tokensIf (by simp [hreturning, hstar]) returning

@[simp] lemma placeholders_returningTokens (returning : Bool) :
    placeholders (returningTokens returning) = [] := by
  cases returning <;> rfl

/-- **A query** compares the columns of its filter; a page takes two more parameters. -/
theorem binds_select (filter orderBy : List String) (paginate : Bool) :
    Binds (Statement.select table filter orderBy paginate).tokens [] filter
      (if paginate then 2 else 0) := by
  have hafter : ∀ t : Token, t.isFixed = true →
      t ∉ [.word "ORDER", .word "BY", .sign ',', .word "LIMIT", .word "OFFSET"] →
      t ∉ orderTokens orderBy ++ tokensIf paginate (pageTokens filter.length) := by
    intro t h hnone
    simp only [List.mem_cons, List.not_mem_nil, or_false, not_or] at hnone
    obtain ⟨horder, hby, hcomma, hlimit, hoffset⟩ := hnone
    rw [List.mem_append, not_or]
    exact ⟨notMem_orderTokens h horder hby hcomma _,
      notMem_tokensIf (notMem_pageTokens h hlimit hoffset _) _⟩
  have hplaceholders : placeholders (orderTokens orderBy ++ tokensIf paginate (pageTokens filter.length)) =
      List.range' (filter.length + 1) (if paginate then 2 else 0) := by
    have horder : placeholders (orderTokens orderBy) = [] := by
      cases orderBy <;> simp [orderTokens, tokensIf]
    rw [placeholders_append, horder]
    cases paginate <;> rfl
  have htokens : (Statement.select table filter orderBy paginate).tokens =
      [.word "SELECT", .sign '*', .word "FROM", nameToken table] ++ (whereTokens filter
        ++ (orderTokens orderBy ++ tokensIf paginate (pageTokens filter.length))) := by
    simp [Statement.tokens]
  rw [htokens]
  cases filter with
  | nil =>
      refine binds_of_notMem ?_ ?_ ?_ ?_
      · have := hafter (.word "WHERE") isFixed_where (by decide)
        simpa [whereTokens, tokensIf, ne_nameToken isFixed_where table] using this
      · have := hafter (.sign '(') rfl (by decide)
        simpa [whereTokens, tokensIf, ne_nameToken (t := .sign '(') rfl table] using this
      · have := hafter (.sign '=') rfl (by decide)
        simpa [whereTokens, tokensIf, ne_nameToken (t := .sign '=') rfl table] using this
      · rw [placeholders_append, placeholders_append, hplaceholders]
        simp [whereTokens, tokensIf]
  | cons column rest =>
      have hwhere : ∀ after, whereTokens (column :: rest) ++ after =
          .word "WHERE" :: (equalityTokens (.word "AND") 1 (column :: rest) ++ after) := fun _ => rfl
      rw [hwhere]
      refine binds_of_where rfl ?_ ?_ (hafter _ rfl (by decide)) (hafter _ rfl (by decide)) ?_ ?_ ?_
      · simp [ne_nameToken isFixed_where table]
      · simp [ne_nameToken (t := .sign '(') rfl table]
      · exact equalitiesIn_of_notMem (by simp [ne_nameToken (t := .sign '=') rfl table])
      · simp
      · rw [hplaceholders, List.length_nil, Nat.zero_add]

/-- **An insertion** assigns its columns in their order. -/
theorem binds_insert (columns : List String) (returning : Bool) :
    Binds (Statement.insert table columns returning).tokens columns [] 0 := by
  have hreturning : ∀ t : Token, t ≠ .word "RETURNING" → t ≠ .sign '*' →
      t ∉ returningTokens returning :=
    fun t h h' => notMem_returningTokens h h' returning
  cases columns with
  | nil =>
      refine binds_of_notMem ?_ ?_ ?_ ?_ <;>
        simp [Statement.tokens, rowTokens, ne_nameToken isFixed_where table,
          ne_nameToken (t := .sign '(') rfl table, ne_nameToken (t := .sign '=') rfl table, hreturning]
  | cons column rest =>
      have htokens : (Statement.insert table (column :: rest) returning).tokens =
          [.word "INSERT", .word "INTO", nameToken table] ++ .sign '(' :: (nameTokens (column :: rest)
            ++ .sign ')' :: (.word "VALUES" :: .sign '(' :: (parameterTokens (rest.length + 1)
              ++ .sign ')' :: returningTokens returning))) := by
        simp [Statement.tokens, rowTokens]
      have hnot : ∀ t : Token, t.isFixed = true → t ≠ .sign ',' →
          t ∉ nameTokens (column :: rest) ∧ t ∉ parameterTokens (rest.length + 1) :=
        fun t h hcomma => ⟨notMem_nameTokens h hcomma, notMem_parameterTokens h hcomma⟩
      have hwhere : .word "WHERE" ∉ (Statement.insert table (column :: rest) returning).tokens := by
        simp [htokens, ne_nameToken isFixed_where table, hnot _ isFixed_where, hreturning]
      have hequals : .sign '=' ∉ (Statement.insert table (column :: rest) returning).tokens := by
        simp [htokens, ne_nameToken (t := .sign '=') rfl table, hnot (.sign '=') rfl, hreturning]
      have hrow : rowIn (Statement.insert table (column :: rest) returning).tokens =
          (column :: rest).zipIdx 1 := by
        rw [rowIn, htokens, cutAt_append (by simp [ne_nameToken (t := .sign '(') rfl table])]
        dsimp only
        rw [cutAt_append (hnot _ rfl (by decide)).1]
        simp [List.zipIdx_eq_zip_range']
      refine ⟨?_, ?_, ?_⟩
      · simp [htokens]
      · rw [assigned, hrow, cutAt_of_notMem hwhere, equalitiesIn_of_notMem hequals, List.append_nil]
      · rw [compared, cutAt_of_notMem hwhere]
        rfl

/-- **An update** assigns its columns first and compares those of the filter with the parameters behind. -/
theorem binds_update (set filter : List String) (returning : Bool) :
    Binds (Statement.update table set filter returning).tokens set filter 0 := by
  have htokens : (Statement.update table set filter returning).tokens =
      [.word "UPDATE", nameToken table, .word "SET"] ++ equalityTokens (.sign ',') 1 set
        ++ .word "WHERE" :: (equalityTokens (.word "AND") (set.length + 1) filter
          ++ returningTokens returning) := by
    simp [Statement.tokens]
  have hset : ∀ t : Token, t.isFixed = true → t ≠ .sign ',' → t ≠ .sign '=' →
      t ∉ equalityTokens (.sign ',') 1 set := fun t h => notMem_equalityTokens h
  rw [htokens]
  refine binds_of_where rfl ?_ ?_ (notMem_returningTokens (by decide) (by decide) returning)
    (notMem_returningTokens (by decide) (by decide) returning) ?_ ?_ ?_
  · simp [ne_nameToken isFixed_where table, hset _ isFixed_where]
  · simp [ne_nameToken (t := .sign '(') rfl table, hset (.sign '(') rfl]
  · have hend : ([] : List Token).head? ≠ some (.sign '=') := by simp
    rw [← List.append_nil (equalityTokens _ _ _),
      equalitiesIn_append (by simp [ne_nameToken (t := .sign '=') rfl table]) (head_equalityTokens hend),
      equalitiesIn_equalityTokens (by decide) hend, equalitiesIn, List.append_nil]
  · rw [placeholders_append, placeholders_equalityTokens rfl]
    simp
  · simp

/-- **A deletion** compares the columns of its filter. -/
theorem binds_delete (filter : List String) :
    Binds (Statement.delete table filter).tokens [] filter 0 := by
  have htokens : (Statement.delete table filter).tokens =
      [.word "DELETE", .word "FROM", nameToken table]
        ++ .word "WHERE" :: (equalityTokens (.word "AND") 1 filter ++ []) := by
    simp [Statement.tokens]
  rw [htokens]
  refine binds_of_where rfl ?_ ?_ List.not_mem_nil List.not_mem_nil ?_ ?_ ?_
  · simp [ne_nameToken isFixed_where table]
  · simp [ne_nameToken (t := .sign '(') rfl table]
  · exact equalitiesIn_of_notMem (by simp [ne_nameToken (t := .sign '=') rfl table])
  · simp
  · simp

end Queries

/-! ## Without the semicolon -/

/-- A semicolon completes what has been read before it; only between quotes it would be read on. -/
lemma finish_of_semicolon {m : Mode} (h : m.readAll ";".toList = some ts) :
    ∃ done, m.finish = some done ∧ ts = done ++ [.sign ';'] := by
  have hbegin : begin ';' = some ([.sign ';'], .between) := rfl
  cases hm : m.extend ';' with
  | some longer =>
      cases m with
      | quoted read =>
          obtain rfl : Mode.quoted (read ++ [';']) = longer := by simpa [Mode.extend] using hm
          simp [Mode.readAll, Mode.scan, Mode.step, hm, Mode.finish] at h
      | _ => simp [Mode.extend, isNameChar] at hm
  | none =>
      cases hdone : m.finish with
      | none => simp [Mode.readAll, Mode.scan, Mode.step, hm, hdone] at h
      | some done =>
          refine ⟨done, rfl, ?_⟩
          simpa [Mode.readAll, Mode.scan, Mode.step, hm, hdone, hbegin, eq_comm] using h

/-- A semicolon behind a text is a token, unless the text cannot be read at all. -/
lemma tokens_of_append_semicolon {text : String} (h : tokens (text ++ ";") = some ts) :
    ∃ us, tokens text = some us ∧ ts = us ++ [.sign ';'] := by
  unfold tokens at h ⊢
  cases hscan : Mode.between.scan text.toList with
  | none => simp [Mode.readAll, Mode.scan_append, hscan] at h
  | some p =>
      obtain ⟨us, m⟩ := p
      rw [String.toList_append, Mode.readAll_append _ _ hscan] at h
      obtain ⟨rest, hrest, rfl⟩ := Option.map_eq_some_iff.1 h
      -- what has been read of a token is complete, for the semicolon does not belong to it
      obtain ⟨done, hdone, rfl⟩ := finish_of_semicolon hrest
      exact ⟨us ++ done, by simp [Mode.readAll, hscan, hdone], by simp⟩

/-- Whether a statement reads or changes rows under a filter, and numbers its parameters. -/
def Statement.isQuery : Statement → Bool
  | .select _ _ _ _ | .insert _ _ _ | .update _ _ _ _ | .delete _ _ => true
  | _ => false

/-- A query is written with a semicolon at its end. -/
lemma exists_of_render {s : Statement} {text : String} (hquery : s.isQuery) (h : s.render = .ok text) :
    ∃ body, text = body ++ ";" := by
  cases s with
  | select | insert | update =>
      obtain ⟨body, -, h⟩ := bind_eq_ok_iff.1 h
      exact ⟨_, (Except.ok.inj h).symm⟩
  | delete =>
      obtain ⟨name, -, h⟩ := bind_eq_ok_iff.1 h
      obtain ⟨condition, -, h⟩ := bind_eq_ok_iff.1 h
      exact ⟨_, (Except.ok.inj h).symm⟩
  | _ => simp [Statement.isQuery] at hquery

/-- A single semicolon at the end is cut off alone. -/
lemma trimEndWhile_append_semicolon {body : String} (h : body.toList.getLast? ≠ some ';') :
    Text.trimEndWhile (· == ';') (body ++ ";") = body := by
  have hkept : body.toList.reverse.dropWhile (· == ';') = body.toList.reverse := by
    cases hreverse : body.toList.reverse with
    | nil => rfl
    | cons c rest =>
        rw [← List.head?_reverse, hreverse] at h
        exact List.dropWhile_cons_of_neg (by simpa using h)
  have hsemicolon : ";".toList = [';'] := rfl
  rw [Text.trimEndWhile, Text.dropWhileEnd, String.toList_append, hsemicolon, List.reverse_append,
    List.reverse_singleton, List.singleton_append, List.dropWhile_cons_of_pos rfl, hkept,
    List.reverse_reverse, String.ofList_toList]

/-- A query is read as its tokens when every semicolon at its end is cut off: there is one only, for what
stands before it is complete. -/
theorem tokens_of_trimEnd {s : Statement} {text : String} (hquery : s.isQuery) (h : s.render = .ok text) :
    tokens (Text.trimEndWhile (· == ';') text) = some s.tokens := by
  have hraw : s.isRawFree = true := by
    cases s <;> simp_all [Statement.isQuery, Statement.isRawFree]
  obtain ⟨body, rfl⟩ := exists_of_render hquery h
  obtain ⟨us, hbody, hus⟩ := tokens_of_append_semicolon (s.tokens_of_render hraw h)
  obtain rfl : s.tokens = us := List.append_cancel_right hus
  have hend : body.toList.getLast? ≠ some ';' := by
    intro hlast
    obtain ⟨front, hfront⟩ := List.getLast?_eq_some_iff.1 hlast
    have hsplit : body = String.ofList front ++ ";" := by
      rw [← String.toList_inj, hfront, String.toList_append, String.toList_ofList]
      rfl
    rw [hsplit] at hbody
    obtain ⟨us, -, hus⟩ := tokens_of_append_semicolon hbody
    exact semicolon_notMem_tokens s (hus ▸ List.mem_append_right us (List.mem_singleton_self _))
  rw [trimEndWhile_append_semicolon hend, hbody]

end SchemaCompiler.Sql

import SchemaCompiler.Proofs.Sql.Tokens

/-!
# Raw SQL text

Defaults, conditions and expressions are handed through unread.  What SQLite makes of them depends on a few
lexical facts: whether a default is a word such as `CURRENT_TIMESTAMP` or stands in parentheses, and whether
a condition names a column.  The reader of this file finds these facts in every text.  It knows literals,
quoted names and comments, so that what looks like a name between quotes or behind `--` is not taken for one.

Unlike the reader of `Proofs/Sql/Tokens`, which is made for what the printer writes and rejects the rest, this
one reads every text to its end.

* `Lexeme`, `lexemes` — the parts of a text.
* `Mentions` — a text names a column.
* `IsNull`, `IsPerRow` — a text is `NULL`, and a text is evaluated for each row.
* `toList_of_isPerRow` — how the texts that are evaluated for each row look if they have no comment.
-/

namespace SchemaCompiler.Sql

open Text (sameName)

/-! ## The reader -/

/-- The parts of a text. -/
inductive Lexeme where
  | word (text : String)
  /-- A name between quotes or brackets; `text` is what is meant. -/
  | name (text : String)
  | literal
  /-- A number or a parameter. -/
  | figure
  | sign (c : Char)
  deriving DecidableEq, Repr

/-- The characters that may begin a word. -/
def isWordStart (c : Char) : Bool := isNameStart c || 0x80 ≤ c.toNat

/-- The characters that may continue a word. -/
def isWordChar (c : Char) : Bool := isNameChar c || c == '$' || 0x80 ≤ c.toNat

/-- What is being read. -/
inductive Reading where
  | between
  | word (read : List Char)
  | figure
  | literal
  /-- Behind a quote that is the end of the literal, unless another one follows. -/
  | literalEnd
  | name (close : Char) (read : List Char)
  | nameEnd (close : Char) (read : List Char)
  /-- Behind a sign that begins a comment if it is written twice. -/
  | dash
  /-- Behind a sign that begins a comment if a star follows. -/
  | slash
  | line
  | block
  | blockStar
  deriving DecidableEq, Repr

namespace Reading

/-- The reading with another character, if the character belongs to it.  An `x` in front of a literal belongs
to the literal. -/
def extend : Reading → Char → Option Reading
  | between, _ => none
  | word read, c =>
    if isWordChar c then some (word (read ++ [c]))
    else if c = '\'' ∧ (read = ['x'] ∨ read = ['X']) then some literal
    else none
  | figure, c => if isWordChar c || c == '.' then some figure else none
  | literal, c => if c = '\'' then some literalEnd else some literal
  | literalEnd, c => if c = '\'' then some literal else none
  | name close read, c =>
    if c = close then some (nameEnd close read) else some (name close (read ++ [c]))
  | nameEnd close read, c =>
    if c = close ∧ close ≠ ']' then some (name close (read ++ [c])) else none
  | dash, c => if c = '-' then some line else none
  | slash, c => if c = '*' then some block else none
  | line, c => if c = '\n' then some between else some line
  | block, c => if c = '*' then some blockStar else some block
  | blockStar, c =>
    if c = '/' then some between else if c = '*' then some blockStar else some block

/-- What has been read.  The end of the text is the end of everything. -/
def finish : Reading → List Lexeme
  | between | line | block | blockStar => []
  | word read => [.word (String.ofList read)]
  | figure => [.figure]
  | literal | literalEnd => [.literal]
  | name _ read | nameEnd _ read => [.name (String.ofList read)]
  | dash => [.sign '-']
  | slash => [.sign '/']

/-- What a character begins. -/
def start (c : Char) : List Lexeme × Reading :=
  if isSpacing c then ([], between)
  else if c = '\'' then ([], literal)
  else if c = '"' ∨ c = '`' then ([], name c [])
  else if c = '[' then ([], name ']' [])
  else if c = '-' then ([], dash)
  else if c = '/' then ([], slash)
  else if c.isDigit || ['?', ':', '@', '$', '#'].contains c then ([], figure)
  else if isWordStart c then ([], word [c])
  else ([.sign c], between)

/-- What another character completes, and what is being read then. -/
def step (m : Reading) (c : Char) : List Lexeme × Reading :=
  match m.extend c with
  | some longer => ([], longer)
  | none => (m.finish ++ (start c).1, (start c).2)

/-- The parts of the rest of a text. -/
def readAll (m : Reading) : List Char → List Lexeme
  | [] => m.finish
  | c :: rest => (m.step c).1 ++ (m.step c).2.readAll rest

end Reading

/-- The parts of a text. -/
def lexemes (text : String) : List Lexeme := Reading.between.readAll text.toList

/-! ## What a text says -/

/-- The keywords that SQLite takes for a name in no place where a column is expected. -/
def strictKeywords : List String := [
  "ADD", "ALL", "ALTER", "AND", "AS", "AUTOINCREMENT", "BETWEEN", "CASE", "CHECK", "COLLATE", "COMMIT",
  "CONSTRAINT", "CREATE", "CURRENT_DATE", "CURRENT_TIME", "CURRENT_TIMESTAMP", "DEFAULT", "DEFERRABLE",
  "DELETE", "DISTINCT", "DROP", "ELSE", "ESCAPE", "EXCEPT", "EXISTS", "FOREIGN", "FROM", "GROUP",
  "HAVING", "IN", "INDEX", "INSERT", "INTERSECT", "INTO", "IS", "ISNULL", "JOIN", "LIMIT", "NOT",
  "NOTHING", "NOTNULL", "NULL", "ON", "OR", "ORDER", "PRIMARY", "REFERENCES", "RETURNING", "SELECT",
  "SET", "TABLE", "THEN", "TO", "TRANSACTION", "UNION", "UNIQUE", "UPDATE", "USING", "VALUES", "WHEN",
  "WHERE"]

/-- Whether a part of a text is a name, as SQL compares names.  A keyword is a name between quotes only. -/
def Lexeme.isNamed (name : String) : Lexeme → Bool
  | .word text => sameName text name && !strictKeywords.any (sameName text)
  | .name text => sameName text name
  | .literal | .figure | .sign _ => false

/-- **The text names a column**, outside of literals and comments. -/
def Mentions (text name : String) : Prop := (lexemes text).any (·.isNamed name) = true

instance (text name : String) : Decidable (Mentions text name) :=
  inferInstanceAs (Decidable (_ = true))

/-- The text is `NULL`. -/
def IsNull (text : String) : Prop := ∃ word, lexemes text = [.word word] ∧ sameName word "NULL" = true

/-- The words that stand for the time at which a row is inserted. -/
def timeWords : List String := ["CURRENT_TIME", "CURRENT_DATE", "CURRENT_TIMESTAMP"]

/-- The text is evaluated for each row: it is the time of the insertion, or an expression in parentheses. -/
def IsPerRow (text : String) : Prop :=
  (lexemes text).head? = some (.sign '(') ∨
    ∃ word, lexemes text = [.word word] ∧ timeWords.any (sameName word) = true

/-- The characters have a mark that may begin a comment. -/
def HasComment (cs : List Char) : Prop := ['-', '-'] <:+: cs ∨ ['/', '*'] <:+: cs

/-- Names in a condition, and what only looks like one. -/
example : Mentions "length(\"Title\") > 3" "title" ∧ Mentions "a.[title] IS NOT NULL" "title" ∧
    ¬ Mentions "kind = 'title' -- or title" "title" ∧ ¬ Mentions "subtitle <> x'74'" "title" ∧
    ¬ Mentions "title IS NOT NULL" "null" := by decide +kernel

/-! ## Words alone and parentheses in front

Where a text has no comment, a part of it is there as soon as a character is that is not a blank. -/

namespace Reading

/-- Whether a part of the text has been begun. -/
def isOpen : Reading → Bool
  | between | line | block | blockStar => false
  | _ => true

/-- Whether what comes next begins a comment. -/
def opensComment (m : Reading) (cs : List Char) : Prop :=
  (m = dash ∧ cs.head? = some '-') ∨ (m = slash ∧ cs.head? = some '*')

variable {m longer : Reading} {c : Char} {cs : List Char}

lemma readAll_of_extend_eq_some (h : m.extend c = some longer) :
    m.readAll (c :: cs) = longer.readAll cs := by
  simp [readAll, step, h]

/-- What does not go on is complete, and the next character is read as if nothing had been read before it. -/
lemma readAll_of_extend_eq_none (h : m.extend c = none) :
    m.readAll (c :: cs) = m.finish ++ between.readAll (c :: cs) := by
  simp [readAll, step, h, show between.extend c = none from rfl, show between.finish = [] from rfl]

/-- A part that goes on stays a part, and only a word becomes a word. -/
lemma isOpen_of_extend (hm : m.isOpen = true) (hcomment : ¬ m.opensComment (c :: cs))
    (h : m.extend c = some longer) :
    longer.isOpen = true ∧ (∀ cs, ¬ longer.opensComment cs) ∧
      ∀ read, longer = word read → ∃ read, m = word read := by
  cases m <;> simp only [extend, isOpen, Bool.false_eq_true] at hm h <;> try split_ifs at h
  all_goals simp_all [isOpen, opensComment]
  all_goals subst h; simp

/-- What has been begun is the first part that is found. -/
lemma readAll_of_isOpen (hm : m.isOpen = true) (hcomment : ¬ m.opensComment cs) :
    ∃ x rest, m.readAll cs = x :: rest ∧ x ≠ .sign '(' ∧ ∀ w, x = .word w →
      ∃ read, m = word read := by
  induction cs generalizing m with
  | nil =>
      cases m <;> simp_all [isOpen, readAll, finish]
  | cons c rest ih =>
      cases hextend : m.extend c with
      | none =>
          rw [readAll_of_extend_eq_none hextend]
          cases m <;> simp_all [isOpen, finish]
      | some longer =>
          obtain ⟨hopen, hlonger, hword⟩ := isOpen_of_extend hm hcomment hextend
          obtain ⟨x, parts, hread, hsign, hx⟩ := ih hopen (hlonger rest)
          refine ⟨x, parts, (readAll_of_extend_eq_some hextend).trans hread, hsign, fun w hw => ?_⟩
          obtain ⟨read, hread⟩ := hx w hw
          exact hword read hread

/-- What a character begins that is not a blank. -/
lemma start_of_not_isSpacing (hc : isSpacing c = false) :
    start c = ([.sign c], between) ∨ ∃ m : Reading, start c = ([], m) ∧ m.isOpen = true ∧
      (m = dash → c = '-') ∧ (m = slash → c = '/') ∧ ∀ read, m = word read → read = [c] := by
  rw [start, if_neg (by simp [hc])]
  split_ifs <;> simp_all [isOpen]

/-- What the first character that is not a blank begins. -/
lemma readAll_between_cons (hc : isSpacing c = false) (hcomment : ¬ HasComment (c :: cs)) :
    between.readAll (c :: cs) = .sign c :: between.readAll cs ∨
      ∃ m : Reading, m.isOpen = true ∧ ¬ m.opensComment cs ∧ (∀ read, m = word read → read = [c]) ∧
        between.readAll (c :: cs) = m.readAll cs := by
  have hread : between.readAll (c :: cs) = (start c).1 ++ (start c).2.readAll cs := rfl
  rcases start_of_not_isSpacing hc with h | ⟨m, h, hopen, hdash, hslash, hword⟩
  · exact Or.inl (by rw [hread, h]; rfl)
  · refine Or.inr ⟨m, hopen, ?_, hword, by rw [hread, h]; rfl⟩
    have hfront : ∀ d e, c = d → cs.head? = some e → [d, e] <:+: c :: cs := by
      rintro d e rfl he
      obtain ⟨rest, rfl⟩ := List.head?_eq_some_iff.1 he
      exact (List.prefix_append [c, e] rest).isInfix
    rintro (⟨rfl, hhead⟩ | ⟨rfl, hhead⟩)
    · exact hcomment (Or.inl (hfront _ _ (hdash rfl) hhead))
    · exact hcomment (Or.inr (hfront _ _ (hslash rfl) hhead))

end Reading

lemma HasComment.mono {cs ds : List Char} (h : HasComment cs) (hpart : cs <:+: ds) : HasComment ds :=
  h.imp (·.trans hpart) (·.trans hpart)

namespace Reading

variable {m : Reading} {c : Char} {cs : List Char}

lemma readAll_between_of_isSpacing (hc : isSpacing c = true) :
    between.readAll (c :: cs) = between.readAll cs := by
  have hstart : start c = ([], between) := by rw [start, if_pos hc]
  have hread : between.readAll (c :: cs) = (start c).1 ++ (start c).2.readAll cs := rfl
  rw [hread, hstart]
  rfl

/-- A text without parts and without comments is blank. -/
lemma isSpacing_of_readAll_eq_nil (hcomment : ¬ HasComment cs) (h : between.readAll cs = []) :
    ∀ c ∈ cs, isSpacing c = true := by
  induction cs with
  | nil => simp
  | cons c rest ih =>
      cases hc : isSpacing c with
      | true =>
          rw [readAll_between_of_isSpacing hc] at h
          exact List.forall_mem_cons.2
            ⟨hc, ih (fun hrest => hcomment (hrest.mono (List.suffix_cons c rest).isInfix)) h⟩
      | false =>
          rcases readAll_between_cons hc hcomment with hsign | ⟨m, hopen, hm, -, hread⟩
          · simp [hsign] at h
          · obtain ⟨x, parts, hparts, -⟩ := readAll_of_isOpen hopen hm
            rw [hread, hparts] at h
            cases h

/-- A word that is the only part of a text is all of it but the blanks behind. -/
lemma toList_of_readAll_word {read : List Char} {w : String} (hcomment : ¬ HasComment cs)
    (h : (word read).readAll cs = [.word w]) :
    ∃ after, read ++ cs = w.toList ++ after ∧ ∀ c ∈ after, isSpacing c = true := by
  induction cs generalizing read with
  | nil =>
      obtain rfl : String.ofList read = w := by simpa [readAll, finish] using h
      exact ⟨[], by simp, by simp⟩
  | cons c rest ih =>
      have hrest : ¬ HasComment rest := fun hrest =>
        hcomment (hrest.mono (List.suffix_cons c rest).isInfix)
      cases hextend : (word read).extend c with
      | none =>
          rw [readAll_of_extend_eq_none hextend] at h
          obtain ⟨hw, hnil⟩ : String.ofList read = w ∧ between.readAll (c :: rest) = [] := by
            simpa [finish] using h
          exact ⟨c :: rest, by simp [← hw], isSpacing_of_readAll_eq_nil hcomment hnil⟩
      | some longer =>
          rw [readAll_of_extend_eq_some hextend] at h
          simp only [extend] at hextend
          split_ifs at hextend <;> obtain rfl := Option.some.inj hextend
          · obtain ⟨after, hafter, hspacing⟩ := ih hrest h
            exact ⟨after, by simpa using hafter, hspacing⟩
          · have hopen : ¬ literal.opensComment rest := by simp [opensComment]
            obtain ⟨x, parts, hparts, -, hword⟩ := readAll_of_isOpen rfl hopen
            rw [hparts, List.cons.injEq] at h
            obtain ⟨_, hliteral⟩ := hword w h.1
            cases hliteral

end Reading

/-- **The texts that are evaluated for each row**, if they have no comment: behind blanks there is a
parenthesis, or one of the words and blanks behind it. -/
theorem toList_of_isPerRow {text : String} (h : IsPerRow text) (hcomment : ¬ HasComment text.toList) :
    ∃ before rest, text.toList = before ++ rest ∧ (∀ c ∈ before, isSpacing c = true) ∧
      (rest.head? = some '(' ∨ ∃ word : String, timeWords.any (sameName word) = true ∧
        ∃ after, rest = word.toList ++ after ∧ ∀ c ∈ after, isSpacing c = true) := by
  unfold IsPerRow lexemes at h
  generalize text.toList = cs at h hcomment
  induction cs with
  | nil => simp [Reading.readAll, Reading.finish] at h
  | cons c rest ih =>
      cases hc : isSpacing c with
      | true =>
          rw [Reading.readAll_between_of_isSpacing hc] at h
          obtain ⟨before, behind, hrest, hbefore, hfound⟩ :=
            ih h fun hrest => hcomment (hrest.mono (List.suffix_cons c rest).isInfix)
          exact ⟨c :: before, behind, by rw [hrest, List.cons_append],
            List.forall_mem_cons.2 ⟨hc, hbefore⟩, hfound⟩
      | false =>
          refine ⟨[], c :: rest, rfl, by simp, ?_⟩
          rcases Reading.readAll_between_cons hc hcomment with hsign | ⟨m, hopen, hm, hword, hread⟩
          · rw [hsign] at h
            rcases h with h | ⟨_, h, -⟩
            · exact Or.inl (by simpa using h)
            · simp at h
          · obtain ⟨x, parts, hparts, hsign, hx⟩ := Reading.readAll_of_isOpen hopen hm
            rw [hread] at h
            rcases h with h | ⟨word, h, htime⟩
            · rw [hparts] at h
              exact absurd (by simpa using h) hsign
            · rw [hparts, List.cons.injEq] at h
              obtain ⟨read, rfl⟩ := hx word h.1
              obtain rfl := hword read rfl
              exact Or.inr ⟨word, htime, Reading.toList_of_readAll_word
                (fun hrest => hcomment (hrest.mono (List.suffix_cons c rest).isInfix))
                (by rw [hparts, h.1, h.2])⟩

end SchemaCompiler.Sql

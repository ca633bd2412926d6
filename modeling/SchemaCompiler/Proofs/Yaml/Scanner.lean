import SchemaCompiler.Proofs.Yaml.Scalars
import SchemaCompiler.Yaml.Tokens

/-!
# The scanner on JSON

In a text of JSON the scanner never opens a block, and so there is no place where nothing but a key can
stand; a place where a key may begin is given up again without harm wherever no colon follows.  What lies
between two tokens is nothing, a space or a line break with its indentation.

A key is announced when the colon behind it is found, which has to be within 1024 bytes.

* `Calm` — what stays true of the scanner throughout.
* `Reaches`, `Passes` — from one state to another, with the tokens found on the way.
* `exists_arrives` — over the gap before a token.
* `exists_comma`, `exists_opening`, `exists_closing` — marks.
* `exists_word`, `exists_string`, `exists_key` — scalars, and keys with their colons.
-/

namespace SchemaCompiler.Yaml

open Json (lineBreak literalChars escapedChar)

namespace Scanner

variable {s s₁ s₂ s' : Scanner} {d : Char} {cs rest : List Char} {ts us : List Token}

/-! ## From state to state -/

/-- A place where a key may begin, but does not have to. -/
def Optional (key : Option PossibleKey) : Prop := ∀ k ∈ key, k.required = false

/-- What stays true of the scanner: no block is open, and no place is one where only a key can stand. -/
structure Calm (s : Scanner) : Prop where
  indents : s.indents = []
  possible : Optional s.possibleKey
  outer : ∀ key ∈ s.outerKeys, Optional key

/-- Scanning from one state goes on as from another, with fuel for each character. -/
def Reaches (s s' : Scanner) : Prop :=
  ∀ fuel, s.cursor.rest.length < fuel →
    ∃ fuel', s'.cursor.rest.length < fuel' ∧ scan fuel s = scan fuel' s'

lemma Reaches.trans (h : Reaches s s₁) (h' : Reaches s₁ s') : Reaches s s' := by
  intro fuel hfuel
  obtain ⟨fuel₁, hfuel₁, heq⟩ := h fuel hfuel
  obtain ⟨fuel₂, hfuel₂, heq'⟩ := h' fuel₁ hfuel₁
  exact ⟨fuel₂, hfuel₂, heq.trans heq'⟩

/-- On the way to another state some tokens are found. -/
structure Passes (s : Scanner) (ts : List Token) (s' : Scanner) : Prop where
  reaches : Reaches s s'
  found : s'.found.latest = ts.reverse ++ s.found.latest
  calm : Calm s'

lemma Passes.trans (h : Passes s ts s₁) (h' : Passes s₁ us s') : Passes s (ts ++ us) s' where
  reaches := h.reaches.trans h'.reaches
  found := by rw [h'.found, h.found, List.reverse_append, List.append_assoc]
  calm := h'.calm

/-! ## Between tokens -/

/-- What may stand between two tokens of JSON. -/
def IsGap (gap : List Char) : Prop := gap = [] ∨ gap = [' '] ∨ ∃ level, gap = lineBreak level

/-- The scanner stands before a text, up to a gap. -/
def Before (s : Scanner) (cs : List Char) : Prop := ∃ gap, IsGap gap ∧ s.cursor.rest = gap ++ cs

/-- The characters that begin a token of JSON. -/
def starts : List Char := ['\x7b', '\x7d', '[', ']', ',', ':', '"', 'n', 't', 'f']

/-- Whether a character is none of those that are passed between tokens. -/
def isSolid (d : Char) : Bool := !(d == ' ' || d == '\t' || d == '#' || d == '\ufeff' || isBreak d)

lemma isSolid_of_mem_starts (hd : d ∈ starts) : isSolid d = true := by
  have hall : starts.all isSolid = true := by decide
  exact List.all_eq_true.1 hall d hd

lemma skipGap_spaces {n fuel : Nat} (hd : isSolid d = true)
    (hrest : s.cursor.rest = List.replicate n ' ' ++ d :: cs) :
    s.skipGap (fuel + 1) = s.moveTo (s.cursor.forward n) := by
  simp only [isSolid, Bool.not_eq_true', Bool.or_eq_false_iff, beq_eq_false_iff_ne] at hd
  obtain ⟨⟨⟨⟨hspace, htab⟩, hcomment⟩, hmark⟩, hbreak⟩ := hd
  have hstart : s.cursor.skipByteOrderMark = s.cursor := by
    have hfirst : beginsWith '\ufeff' s.cursor.rest = false := by
      rw [hrest]
      cases n with
      | zero => simpa [beginsWith] using hmark
      | succ n => rfl
    rw [Cursor.skipByteOrderMark, hfirst, Bool.and_false]
    rfl
  have hbehind : (s.cursor.forward n).rest = d :: cs := by
    rw [Cursor.rest_forward, hrest, List.drop_left' List.length_replicate]
  have hcomment : (s.cursor.forward n).skipComment = s.cursor.forward n := by
    have hfirst : beginsWith '#' (s.cursor.forward n).rest = false := by
      rw [hbehind]
      simpa [beginsWith] using hcomment
    rw [Cursor.skipComment, hfirst]
    rfl
  have hbreak : beginsBreak (s.cursor.forward n).rest = false := by
    rw [hbehind]
    exact hbreak
  rw [skipGap, hstart, Cursor.forwardWhile_spaces hrest (by simp) (by simp [hspace, htab]), hcomment, hbreak]
  rfl

/-- A line feed is passed, and the gap goes on behind it. -/
lemma skipGap_lineFeed {fuel : Nat} (hrest : s.cursor.rest = '\n' :: cs) :
    s.skipGap (fuel + 1) =
      ((s.moveTo ⟨cs, s.cursor.offset + 1, s.cursor.line + 1, 0⟩).allowKey
        (s.keyAllowed || !s.inFlow)).skipGap fuel := by
  have hstart : s.cursor.skipByteOrderMark = s.cursor := by
    rw [Cursor.skipByteOrderMark, hrest]
    simp [beginsWith]
  have hcomment : s.cursor.skipComment = s.cursor := by
    rw [Cursor.skipComment, hrest]
    simp [beginsWith]
  have hbreak : beginsBreak s.cursor.rest = true := by
    rw [hrest]
    rfl
  have hnext : s.cursor.nextLine = ⟨cs, s.cursor.offset + 1, s.cursor.line + 1, 0⟩ := by
    rw [Cursor.nextLine, hrest]
    rfl
  rw [skipGap, hstart, Cursor.forwardWhile_of_not hrest (by simp), hcomment, hbreak, if_pos rfl, hnext]

/-- Inside of brackets the next line is as good as the same line. -/
lemma exists_skipGap_lineBreak {level : Nat} (hflow : s.inFlow = true) (hd : isSolid d = true)
    (hrest : s.cursor.rest = lineBreak level ++ d :: cs) :
    ∃ c, c.rest = d :: cs ∧ ∀ fuel, s.skipGap (fuel + 2) = s.moveTo c := by
  rw [lineBreak, List.cons_append] at hrest
  obtain ⟨c, hc⟩ : ∃ c : Cursor, c =
      ⟨List.replicate (2 * level) ' ' ++ d :: cs, s.cursor.offset + 1, s.cursor.line + 1, 0⟩ := ⟨_, rfl⟩
  have hspaces : c.rest = List.replicate (2 * level) ' ' ++ d :: cs := by rw [hc]
  have hallowed : (s.keyAllowed || !s.inFlow) = s.keyAllowed := by simp [hflow]
  refine ⟨c.forward (2 * level), ?_, fun fuel => ?_⟩
  · rw [Cursor.rest_forward, hspaces, List.drop_left' List.length_replicate]
  · rw [skipGap_lineFeed hrest, hallowed, ← hc]
    exact skipGap_spaces hd hspaces

/-- Between tokens the scanner goes to the next one. -/
lemma exists_skipGap {gap : List Char} (hgap : IsGap gap) (hflow : s.inFlow = true ∨ gap = [])
    (hd : isSolid d = true) (hrest : s.cursor.rest = gap ++ d :: cs) :
    ∃ c, c.rest = d :: cs ∧ (gap = [] → c = s.cursor) ∧
      ∀ fuel, s.cursor.rest.length < fuel → s.skipGap fuel = s.moveTo c := by
  have hspaces : ∀ n, gap = List.replicate n ' ' → (s.cursor.forward n).rest = d :: cs ∧
      ∀ fuel, s.cursor.rest.length < fuel → s.skipGap fuel = s.moveTo (s.cursor.forward n) := by
    rintro n rfl
    refine ⟨by rw [Cursor.rest_forward, hrest, List.drop_left' List.length_replicate], fun fuel hfuel => ?_⟩
    obtain ⟨fuel, rfl⟩ : ∃ k, fuel = k + 1 := ⟨fuel - 1, by omega⟩
    exact skipGap_spaces hd hrest
  rcases hgap with rfl | rfl | ⟨level, rfl⟩
  · obtain ⟨hbehind, hskip⟩ := hspaces 0 rfl
    exact ⟨_, hbehind, fun _ => rfl, hskip⟩
  · obtain ⟨hbehind, hskip⟩ := hspaces 1 rfl
    exact ⟨_, hbehind, fun h => (List.cons_ne_nil _ _ h).elim, hskip⟩
  · obtain ⟨c, hbehind, hskip⟩ :=
      exists_skipGap_lineBreak (hflow.resolve_right (List.cons_ne_nil _ _)) hd hrest
    refine ⟨c, hbehind, fun h => (List.cons_ne_nil _ _ h).elim, fun fuel hfuel => ?_⟩
    rw [hrest, lineBreak, List.length_append, List.length_cons] at hfuel
    obtain ⟨fuel, rfl⟩ : ∃ k, fuel = k + 2 := ⟨fuel - 2, by omega⟩
    exact hskip fuel

/-! ## Possible keys -/

lemma dropKey_of_calm (calm : Calm s) : s.dropKey = some { s with possibleKey := none } := by
  have hnone : s.possibleKey.any (·.required) = false := by
    cases hkey : s.possibleKey with
    | none => rfl
    | some k => exact calm.possible k hkey
  rw [dropKey, hnone]
  rfl

lemma exists_refreshKey (calm : Calm s) :
    ∃ key, Optional key ∧ s.refreshKey = some { s with possibleKey := key } := by
  rw [refreshKey]
  split
  · exact ⟨none, fun _ h => (nomatch h), dropKey_of_calm calm⟩
  · exact ⟨s.possibleKey, calm.possible, rfl⟩

/-- A possible key that lies near is kept. -/
lemma refreshKey_of_near {k : PossibleKey} (hkey : s.possibleKey = some k) (hline : k.line = s.cursor.line)
    (hoffset : s.cursor.offset ≤ k.offset + 1024) : s.refreshKey = some s := by
  have hfresh : isStale s.cursor k = false := by simp [isStale, hline, hoffset]
  rw [refreshKey, hkey, Option.any_some, hfresh]
  rfl

/-- The place where a key may begin now. -/
def hereKey (s : Scanner) : PossibleKey :=
  ⟨s.found.count, false, s.cursor.offset, s.cursor.line, s.cursor.column⟩

lemma saveKey_of_allowed (calm : Calm s) (hallowed : s.keyAllowed = true) :
    s.saveKey = some { s with possibleKey := some s.hereKey } := by
  have hrequired : (!s.inFlow && s.indents.head? == some s.cursor.column) = false := by simp [calm.indents]
  rw [saveKey, if_pos hallowed]
  dsimp only
  rw [hrequired, dropKey_of_calm calm]
  rfl

lemma exists_saveKey (calm : Calm s) :
    ∃ key, Optional key ∧ s.saveKey = some { s with possibleKey := key } := by
  by_cases hallowed : s.keyAllowed = true
  · exact ⟨some s.hereKey, fun k hk => Option.mem_some.1 hk ▸ rfl, saveKey_of_allowed calm hallowed⟩
  · exact ⟨s.possibleKey, calm.possible, by rw [saveKey, if_neg hallowed]⟩

lemma pushAll_nil (f : Found) : f.pushAll [] = f := by
  cases f
  simp [Found.pushAll]

/-- Without open blocks none is closed. -/
lemma closeBlocks_of_calm (calm : Calm s) (column : Nat) : s.closeBlocks column = s := by
  rw [closeBlocks]
  split
  · rfl
  · rw [calm.indents, closing]
    dsimp only
    rw [pushAll_nil, ← calm.indents]

lemma closeAllBlocks_of_calm (calm : Calm s) : s.closeAllBlocks = s := by
  rw [closeAllBlocks, calm.indents, List.map_nil, pushAll_nil, ← calm.indents, ite_self]

/-! ## Steps -/

/-- One step of the scanner, from the gap before a token to the place behind it. -/
lemma reaches_of_token {c : Cursor} (hc : c.rest = d :: cs)
    (hskip : ∀ fuel, s.cursor.rest.length < fuel → s.skipGap fuel = s.moveTo c)
    (hrefresh : (s.moveTo c).refreshKey = some s₁) (calm : Calm s₁) (hcursor : s₁.cursor = c)
    (htoken : ∀ fuel, cs.length < fuel → s₁.token fuel d cs = some s')
    (hlength : s'.cursor.rest.length ≤ cs.length) (hbefore : cs.length < s.cursor.rest.length) :
    Reaches s s' := by
  intro fuel hfuel
  obtain ⟨fuel, rfl⟩ : ∃ k, fuel = k + 1 := ⟨fuel - 1, by omega⟩
  refine ⟨fuel, by omega, ?_⟩
  rw [scan, hskip _ hfuel, hrefresh, Option.bind_eq_bind, Option.bind_some, closeBlocks_of_calm calm]
  dsimp only
  rw [hcursor, hc]
  dsimp only
  rw [htoken _ (by omega)]
  rfl

/-- The scanner has gone over the gap before a token, and from there it is one step to the place behind it. -/
structure Arrives (s : Scanner) (d : Char) (cs : List Char) (s₁ : Scanner) : Prop where
  rest : s₁.cursor.rest = d :: cs
  calm : Calm s₁
  found : s₁.found = s.found
  keyAllowed : s₁.keyAllowed = s.keyAllowed
  outerKeys : s₁.outerKeys = s.outerKeys
  reaches : ∀ s', (∀ fuel, cs.length < fuel → s₁.token fuel d cs = some s') →
    s'.cursor.rest.length ≤ cs.length → Reaches s s'

/-- **The next token** is reached over a gap, which outside of brackets has to be empty. -/
lemma exists_arrives {gap : List Char} (calm : Calm s) (hgap : IsGap gap) (hflow : s.inFlow = true ∨ gap = [])
    (hd : d ∈ starts) (hrest : s.cursor.rest = gap ++ d :: cs) : ∃ s₁, Arrives s d cs s₁ := by
  obtain ⟨c, hc, -, hskip⟩ := exists_skipGap hgap hflow (isSolid_of_mem_starts hd) hrest
  have calm' : Calm (s.moveTo c) := ⟨calm.indents, calm.possible, calm.outer⟩
  obtain ⟨key, hkey, hrefresh⟩ := exists_refreshKey calm'
  have calm₁ : Calm { s.moveTo c with possibleKey := key } := ⟨calm.indents, hkey, calm.outer⟩
  refine ⟨_, hc, calm₁, rfl, rfl, rfl, fun s' htoken hlength => ?_⟩
  exact reaches_of_token hc hskip hrefresh calm₁ rfl htoken hlength (by simp [hrest]; omega)

lemma Arrives.passes (h : Arrives s d cs s₁)
    (htoken : ∀ fuel, cs.length < fuel → s₁.token fuel d cs = some s')
    (hlength : s'.cursor.rest.length ≤ cs.length) (hfound : s'.found.latest = ts.reverse ++ s₁.found.latest)
    (calm : Calm s') : Passes s ts s' :=
  ⟨h.reaches s' htoken hlength, h.found ▸ hfound, calm⟩

/-! ## Marks -/

variable {fuel : Nat}

/-- What begins a token of JSON begins no directive and no mark of a document. -/
lemma token_of_mem_starts (hd : d ∈ starts) (hrest : s.cursor.rest = d :: cs) :
    s.token fuel d cs =
      if d = '[' then s.flowStart .flowSequenceStart
      else if d = '\x7b' then s.flowStart .flowMappingStart
      else if d = ']' then s.flowEnd .flowSequenceEnd
      else if d = '\x7d' then s.flowEnd .flowMappingEnd
      else if d = ',' then s.flowEntry
      else if d = ':' && (s.inFlow || isEnd cs) then s.valueMark
      else if d = '"' then s.quotedScalar readDouble fuel
      else if beginsPlain s.inFlow d cs then s.plainScalar fuel
      else none := by
  have hother : starts.all (fun d => d != '%' && d != '-' && d != '.' && d != '?' && d != '*' &&
      d != '&' && d != '!' && d != '|' && d != '>' && d != '\'') = true := by decide
  have hd := List.all_eq_true.1 hother d hd
  simp only [Bool.and_eq_true, bne_iff_ne, ne_eq] at hd
  obtain ⟨⟨⟨⟨⟨⟨⟨⟨⟨hpercent, hhyphen⟩, hpoint⟩, hquestion⟩, hstar⟩, hanchor⟩, htag⟩,
    hbar⟩, hangle⟩, hquote⟩ := hd
  rw [token, Cursor.atMark_of_ne hrest hhyphen, Cursor.atMark_of_ne hrest hpoint]
  simp [hpercent, hhyphen, hquestion, hstar, hanchor, htag, hbar, hangle, hquote]

lemma Arrives.rest_forward (h : Arrives s d cs s₁) : (s₁.cursor.forward 1).rest = cs := by
  rw [Cursor.rest_forward, h.rest]
  rfl

lemma Arrives.length_rest_forward (h : Arrives s d cs s₁) : (s₁.cursor.forward 1).rest.length ≤ cs.length :=
  Nat.le_of_eq (congrArg List.length h.rest_forward)

lemma optional_none : Optional none := fun _ h => nomatch h

/-- A comma, behind which a key may begin. -/
lemma exists_comma (calm : Calm s) (hflow : s.inFlow = true) (hbefore : Before s (',' :: cs)) :
    ∃ s', Passes s [.flowEntry] s' ∧ s'.cursor.rest = cs ∧ s'.keyAllowed = true ∧
      s'.outerKeys = s.outerKeys := by
  obtain ⟨gap, hgap, hrest⟩ := hbefore
  obtain ⟨s₁, h⟩ := exists_arrives calm hgap (.inl hflow) (by decide) hrest
  have htoken : ∀ fuel, cs.length < fuel → s₁.token fuel ',' cs = some { s₁ with
      cursor := s₁.cursor.forward 1, found := s₁.found.push .flowEntry, keyAllowed := true,
      possibleKey := none } := by
    intro fuel _
    rw [token_of_mem_starts (by decide) h.rest]
    change s₁.flowEntry = _
    rw [flowEntry, dropKey_of_calm h.calm]
    rfl
  exact ⟨_, h.passes htoken h.length_rest_forward rfl ⟨h.calm.indents, optional_none, h.calm.outer⟩,
    h.rest_forward, rfl, h.outerKeys⟩

/-- An opening bracket, which may be that of the whole text. -/
lemma exists_opening {t : Token} (calm : Calm s)
    (hmark : d = '[' ∧ t = .flowSequenceStart ∨ d = '\x7b' ∧ t = .flowMappingStart)
    (hbefore : s.inFlow = true ∧ Before s (d :: cs) ∨ s.cursor.rest = d :: cs) :
    ∃ s' key, Passes s [t] s' ∧ s'.cursor.rest = cs ∧ s'.keyAllowed = true ∧
      s'.outerKeys = key :: s.outerKeys := by
  have hd : d ∈ starts := by rcases hmark with ⟨rfl, -⟩ | ⟨rfl, -⟩ <;> decide
  obtain ⟨s₁, h⟩ : ∃ s₁, Arrives s d cs s₁ := by
    rcases hbefore with ⟨hflow, gap, hgap, hrest⟩ | hrest
    · exact exists_arrives calm hgap (.inl hflow) hd hrest
    · exact exists_arrives calm (.inl rfl) (.inr rfl) hd hrest
  obtain ⟨key, hkey, hsave⟩ := exists_saveKey h.calm
  have htoken : ∀ fuel, cs.length < fuel → s₁.token fuel d cs = some { s₁ with
      cursor := s₁.cursor.forward 1, found := s₁.found.push t, keyAllowed := true, possibleKey := none,
      outerKeys := key :: s₁.outerKeys } := by
    intro fuel _
    rw [token_of_mem_starts hd h.rest]
    have hstart : s₁.flowStart t = some { s₁ with
        cursor := s₁.cursor.forward 1, found := s₁.found.push t, keyAllowed := true, possibleKey := none,
        outerKeys := key :: s₁.outerKeys } := by
      rw [flowStart, hsave]
      rfl
    rcases hmark with ⟨rfl, rfl⟩ | ⟨rfl, rfl⟩
    · exact hstart
    · exact hstart
  refine ⟨_, key, h.passes htoken h.length_rest_forward rfl ⟨h.calm.indents, optional_none, ?_⟩,
    h.rest_forward, rfl, congrArg _ h.outerKeys⟩
  exact List.forall_mem_cons.2 ⟨hkey, h.calm.outer⟩

/-- A closing bracket, behind which the possible key around the brackets is back. -/
lemma exists_closing {t : Token} {key : Option PossibleKey} {outer : List (Option PossibleKey)}
    (calm : Calm s) (hmark : d = ']' ∧ t = .flowSequenceEnd ∨ d = '\x7d' ∧ t = .flowMappingEnd)
    (houter : s.outerKeys = key :: outer) (hbefore : Before s (d :: cs)) :
    ∃ s', Passes s [t] s' ∧ s'.cursor.rest = cs ∧ s'.outerKeys = outer := by
  have hd : d ∈ starts := by rcases hmark with ⟨rfl, -⟩ | ⟨rfl, -⟩ <;> decide
  have hflow : s.inFlow = true := by simp [inFlow, houter]
  obtain ⟨gap, hgap, hrest⟩ := hbefore
  obtain ⟨s₁, h⟩ := exists_arrives calm hgap (.inl hflow) hd hrest
  have houter₁ : s₁.outerKeys = key :: outer := h.outerKeys.trans houter
  obtain ⟨hkey, hothers⟩ := List.forall_mem_cons.1 (houter₁ ▸ h.calm.outer)
  have htoken : ∀ fuel, cs.length < fuel → s₁.token fuel d cs = some { s₁ with
      cursor := s₁.cursor.forward 1, found := s₁.found.push t, keyAllowed := false, possibleKey := key,
      outerKeys := outer } := by
    intro fuel _
    rw [token_of_mem_starts hd h.rest]
    have hend : s₁.flowEnd t = some { s₁ with
        cursor := s₁.cursor.forward 1, found := s₁.found.push t, keyAllowed := false, possibleKey := key,
        outerKeys := outer } := by
      rw [flowEnd, dropKey_of_calm h.calm, houter₁]
      rfl
    rcases hmark with ⟨rfl, rfl⟩ | ⟨rfl, rfl⟩
    · exact hend
    · exact hend
  exact ⟨_, h.passes htoken h.length_rest_forward rfl ⟨h.calm.indents, hkey, hothers⟩, h.rest_forward, rfl⟩

/-! ## Scalars -/

lemma token_letter (hd : d = 'n' ∨ d = 't' ∨ d = 'f') (hrest : s.cursor.rest = d :: cs) :
    s.token fuel d cs = s.plainScalar fuel := by
  rcases hd with rfl | rfl | rfl <;>
    · rw [token_of_mem_starts (by decide) hrest]
      rfl

/-- The words of JSON. -/
def words : List (List Char) := [['n', 'u', 'l', 'l'], ['t', 'r', 'u', 'e'], ['f', 'a', 'l', 's', 'e']]

lemma exists_of_mem_words {word : List Char} (hword : word ∈ words) :
    word.all isPlainLetter = true ∧ ∃ d letters, word = d :: letters ∧
      (d = 'n' ∨ d = 't' ∨ d = 'f') := by
  simp only [words, List.mem_cons, List.not_mem_nil, or_false] at hword
  rcases hword with rfl | rfl | rfl
  · exact ⟨by decide, _, _, rfl, .inl rfl⟩
  · exact ⟨by decide, _, _, rfl, .inr (.inl rfl)⟩
  · exact ⟨by decide, _, _, rfl, .inr (.inr rfl)⟩

/-- A word, with the gap behind it. -/
lemma exists_word {word gap : List Char} {e : Char} (calm : Calm s) (hflow : s.inFlow = true)
    (hword : word ∈ words) (hgap : gap = [] ∨ ∃ level, gap = lineBreak level) (he : e ∈ closers)
    (hbefore : Before s (word ++ (gap ++ e :: cs))) :
    ∃ s', Passes s [.scalar true (String.ofList word)] s' ∧ s'.cursor.rest = e :: cs ∧
      s'.outerKeys = s.outerKeys := by
  obtain ⟨before, hbefore, hrest⟩ := hbefore
  obtain ⟨hletters, d, letters, rfl, hd⟩ := exists_of_mem_words hword
  have hstart : d ∈ starts := by rcases hd with rfl | rfl | rfl <;> decide
  rw [List.cons_append] at hrest
  obtain ⟨s₁, h⟩ := exists_arrives calm hbefore (.inl hflow) hstart hrest
  have hflow₁ : s₁.inFlow = true := by rwa [inFlow, h.outerKeys]
  obtain ⟨key, hkey, hsave⟩ := exists_saveKey h.calm
  obtain ⟨broken, c', hc', hread⟩ := readPlain_word hletters (List.cons_ne_nil _ _) hgap he h.rest
  have htoken : ∀ fuel, (letters ++ (gap ++ e :: cs)).length < fuel →
      s₁.token fuel d (letters ++ (gap ++ e :: cs)) = some { s₁ with
        cursor := c', found := s₁.found.push (.scalar true (String.ofList (d :: letters))),
        keyAllowed := broken, possibleKey := key } := by
    intro fuel hfuel
    have hread := hread s₁.innerColumn fuel
      (by simp only [List.length_append, List.length_cons] at hfuel; omega)
    rw [← hflow₁] at hread
    rw [token_letter hd h.rest, plainScalar, hsave, Option.bind_eq_bind, Option.bind_some]
    change (readPlain s₁.inFlow s₁.innerColumn fuel s₁.cursor).bind _ = _
    rw [hread]
    rfl
  refine ⟨_, h.passes htoken ?_ rfl ⟨h.calm.indents, hkey, h.calm.outer⟩, hc', h.outerKeys⟩
  rw [hc', List.length_append, List.length_append]
  omega

/-- What a string literal does to the scanner, given what becomes of the possible key before it. -/
lemma token_string {text : String} {key : Option PossibleKey} (hfolds : ∀ d ∈ text.toList, ¬ Folds d)
    (hrest : s.cursor.rest = '"' :: (text.toList.flatMap escapedChar ++ '"' :: rest))
    (hsave : s.saveKey = some { s with possibleKey := key })
    (hfuel : (text.toList.flatMap escapedChar ++ '"' :: rest).length < fuel) :
    s.token fuel '"' (text.toList.flatMap escapedChar ++ '"' :: rest) = some { s with
      cursor := s.cursor.forward (literalChars text).length, found := s.found.push (.scalar false text),
      keyAllowed := false, possibleKey := key } := by
  have hlength := length_le_flatMap_escapedChar text.toList
  have hinside : (s.cursor.forward 1).rest = text.toList.flatMap escapedChar ++ '"' :: rest := by
    rw [Cursor.rest_forward, hrest]
    rfl
  have hbehind : (s.cursor.forward 1).forward ((text.toList.flatMap escapedChar).length + 1) =
      s.cursor.forward (literalChars text).length := by
    rw [Cursor.forward_forward, literalChars, List.length_append, List.length_cons, List.length_singleton]
    congr 1
    omega
  have hlonger : text.toList.length < fuel := by
    rw [List.length_append] at hfuel
    omega
  have hread := readDouble_literal hfolds (by rw [Cursor.column_forward]; omega) hinside hlonger
  rw [token_of_mem_starts (by decide) hrest]
  change s.quotedScalar readDouble fuel = _
  rw [quotedScalar, hsave, Option.bind_eq_bind, Option.bind_some]
  dsimp only
  rw [hread, hbehind, Option.bind_eq_bind, Option.bind_some, String.ofList_toList]
  rfl

/-- The state behind a string literal. -/
lemma Arrives.string {text : String} {key : Option PossibleKey} (hfolds : ∀ d ∈ text.toList, ¬ Folds d)
    (h : Arrives s '"' (text.toList.flatMap escapedChar ++ '"' :: rest) s₁)
    (hsave : s₁.saveKey = some { s₁ with possibleKey := key }) :
    (s₁.cursor.forward (literalChars text).length).rest = rest ∧
      Reaches s { s₁ with
        cursor := s₁.cursor.forward (literalChars text).length, found := s₁.found.push (.scalar false text),
        keyAllowed := false, possibleKey := key } := by
  have hbehind : (s₁.cursor.forward (literalChars text).length).rest = rest := by
    rw [Cursor.rest_forward, h.rest, ← Json.literalChars_append, List.drop_left' rfl]
  refine ⟨hbehind, h.reaches _ (fun fuel hfuel => token_string hfolds h.rest hsave hfuel) ?_⟩
  rw [hbehind, List.length_append, List.length_cons]
  omega

/-- A string that no colon follows. -/
lemma exists_string {text : String} (calm : Calm s) (hflow : s.inFlow = true)
    (hfolds : ∀ d ∈ text.toList, ¬ Folds d) (hbefore : Before s (literalChars text ++ rest)) :
    ∃ s', Passes s [.scalar false text] s' ∧ s'.cursor.rest = rest ∧ s'.outerKeys = s.outerKeys := by
  obtain ⟨gap, hgap, hrest⟩ := hbefore
  rw [Json.literalChars_append] at hrest
  obtain ⟨s₁, h⟩ := exists_arrives calm hgap (.inl hflow) (by decide) hrest
  obtain ⟨key, hkey, hsave⟩ := exists_saveKey h.calm
  obtain ⟨hbehind, hreaches⟩ := h.string hfolds hsave
  exact ⟨_, ⟨hreaches, h.found ▸ rfl, h.calm.indents, hkey, h.calm.outer⟩, hbehind, h.outerKeys⟩

/-! ## Keys -/

/-- A key that can be told from afar: with its quotes it takes no more than 1024 bytes. -/
def IsShort (key : String) : Prop := Text.byteCount (literalChars key) ≤ 1024

instance : DecidablePred IsShort := fun _ => inferInstanceAs (Decidable (_ ≤ 1024))

/-- A key with its quotes is not stale yet. -/
lemma offset_forward_literal {key : String} (hshort : IsShort key) {c : Cursor}
    (hrest : c.rest = literalChars key ++ rest) :
    (c.forward (literalChars key).length).offset ≤ c.offset + 1024 := by
  have hbytes : (c.forward (literalChars key).length).offset =
      c.offset + Text.byteCount (literalChars key) := by
    rw [Cursor.forward, hrest, List.take_left' rfl]
  rw [hbytes]
  exact Nat.add_le_add_left hshort _

/-- A string has been read that may turn out to be a key, and the place before it is not too far behind. -/
structure Pending (s : Scanner) (text : String) (rest : List Char) (s' : Scanner) : Prop where
  reaches : Reaches s s'
  calm : Calm s'
  rest : s'.cursor.rest = rest
  found : s'.found = s.found.push (.scalar false text)
  outerKeys : s'.outerKeys = s.outerKeys
  fresh : s'.refreshKey = some s'
  possible : ∃ k, s'.possibleKey = some k ∧ k.tokensBefore = s.found.count

/-- A string where a key may begin. -/
lemma exists_pending {key : String} (calm : Calm s) (hflow : s.inFlow = true) (hallowed : s.keyAllowed = true)
    (hshort : IsShort key) (hfolds : ∀ d ∈ key.toList, ¬ Folds d)
    (hbefore : Before s (literalChars key ++ rest)) :
    ∃ s', Pending s key rest s' := by
  obtain ⟨gap, hgap, hrest⟩ := hbefore
  rw [Json.literalChars_append] at hrest
  obtain ⟨s₁, h⟩ := exists_arrives calm hgap (.inl hflow) (by decide) hrest
  obtain ⟨hbehind, hreaches⟩ := h.string hfolds (saveKey_of_allowed h.calm (h.keyAllowed.trans hallowed))
  have hliteral : s₁.cursor.rest = literalChars key ++ rest := by rw [h.rest, Json.literalChars_append]
  exact ⟨_, hreaches, ⟨h.calm.indents, fun k hk => Option.mem_some.1 hk ▸ rfl, h.calm.outer⟩, hbehind,
    congrArg (Found.push · _) h.found, h.outerKeys,
    refreshKey_of_near (k := s₁.hereKey) rfl rfl (offset_forward_literal hshort hliteral),
    s₁.hereKey, rfl, congrArg Found.count h.found⟩

/-- Inside of brackets a key is announced by one token, and opens no block. -/
lemma announceKey_of_inFlow (hflow : s.inFlow = true) (k : PossibleKey) :
    s.announceKey k = { s.emitAt k.tokensBefore .key with possibleKey := none, keyAllowed := false } := by
  have hdeeper : (s.emitAt k.tokensBefore .key).isDeeper k.column = false := by
    have hflow : (s.emitAt k.tokensBefore .key).inFlow = true := hflow
    rw [isDeeper, hflow]
    rfl
  simp only [announceKey, hdeeper, Bool.false_eq_true, if_false]

/-- The token that announces a key stands before the latest one. -/
lemma latest_insert_push (f : Found) (t u : Token) :
    ((f.push t).insert f.count u).latest = t :: u :: f.latest := by
  have hlater : (f.push t).count - f.count = 1 := Nat.add_sub_cancel_left ..
  change (f.push t).latest.take _ ++ u :: (f.push t).latest.drop _ = _
  rw [hlater]
  rfl

/-- **A key with its colon**: the colon shows that the string was a key. -/
lemma exists_key {key : String} (calm : Calm s) (hflow : s.inFlow = true) (hallowed : s.keyAllowed = true)
    (hshort : IsShort key) (hfolds : ∀ d ∈ key.toList, ¬ Folds d)
    (hbefore : Before s (literalChars key ++ ':' :: rest)) :
    ∃ s', Passes s [.key, .scalar false key, .value] s' ∧ s'.cursor.rest = rest ∧
      s'.outerKeys = s.outerKeys := by
  obtain ⟨s₁, h⟩ := exists_pending calm hflow hallowed hshort hfolds hbefore
  obtain ⟨k, hk, hcount⟩ := h.possible
  have hflow₁ : s₁.inFlow = true := by rwa [inFlow, h.outerKeys]
  -- At the colon the announcing token is put in front of the string, which is the latest token.
  obtain ⟨s', hs'⟩ : ∃ s', s' = { s₁ with
      cursor := s₁.cursor.forward 1, found := (s₁.found.insert k.tokensBefore .key).push .value,
      keyAllowed := false, possibleKey := none } := ⟨_, rfl⟩
  have htoken : ∀ fuel, s₁.token fuel ':' rest = some s' := by
    intro fuel
    rw [token_of_mem_starts (by decide) h.rest, hflow₁]
    change s₁.valueMark = _
    rw [valueMark, hk, hs']
    dsimp only
    rw [announceKey_of_inFlow hflow₁]
    rfl
  have hlast : s'.cursor.rest = rest := by
    rw [hs', Cursor.rest_forward, h.rest]
    rfl
  have hskip : ∀ fuel, s₁.cursor.rest.length < fuel → s₁.skipGap fuel = s₁.moveTo s₁.cursor := by
    obtain ⟨c, -, hc, hskip⟩ :=
      exists_skipGap (.inl rfl) (.inr rfl) (isSolid_of_mem_starts (by decide)) h.rest
    exact hc rfl ▸ hskip
  have hvalue : Reaches s₁ s' :=
    reaches_of_token h.rest hskip h.fresh h.calm rfl (fun fuel _ => htoken fuel)
      (Nat.le_of_eq (congrArg _ hlast)) (by rw [h.rest]; exact Nat.lt_succ_self _)
  refine ⟨s', ⟨h.reaches.trans hvalue, ?_, ?_⟩, hlast, by rw [hs', h.outerKeys]⟩
  · rw [hs']
    change Token.value :: (s₁.found.insert k.tokensBefore .key).latest = _
    rw [h.found, hcount, latest_insert_push]
    rfl
  · exact hs' ▸ ⟨h.calm.indents, optional_none, h.calm.outer⟩

end Scanner

end SchemaCompiler.Yaml

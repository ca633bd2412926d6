import SchemaCompiler.Proofs.Json.RoundTrip
import SchemaCompiler.Yaml.Scalar

/-!
# Scalars of JSON as scalars of YAML

A string literal of JSON is a scalar between double quotes.  All escapes of JSON are escapes of YAML as
well; but where JSON takes every other character for itself, YAML folds line breaks together with the blanks
around them, and besides the two breaks of ASCII, which JSON escapes, it knows three more.  A literal
without these is read as the string that it stands for.

The words of JSON are plain scalars.

* `Cursor.forward_forward`, `Cursor.gap_of_blanks` — steps of a cursor.
* `Folds` — the line breaks that JSON does not escape.
* `readDouble_literal` — the inside of a string literal.
* `readPlain_word` — a word in front of a mark, on its line or behind a gap.
-/

namespace SchemaCompiler.Yaml

open Json (escapedChar literalChars)

variable {c : Cursor} {d : Char} {cs rest : List Char}

/-! ## Steps of a cursor -/

lemma byteCount_append (a b : List Char) : Text.byteCount (a ++ b) = Text.byteCount a + Text.byteCount b := by
  have hfold : ∀ (b : List Char) (n : Nat), b.foldl (fun n c => n + c.utf8Size) n =
      n + b.foldl (fun n c => n + c.utf8Size) 0 := by
    intro b
    induction b with
    | nil => exact fun n => rfl
    | cons c b ih =>
        intro n
        rw [List.foldl_cons, List.foldl_cons, ih, ih (0 + c.utf8Size)]
        omega
  rw [Text.byteCount, List.foldl_append, hfold]
  rfl

namespace Cursor

@[simp] lemma forward_zero (c : Cursor) : c.forward 0 = c := rfl

@[simp] lemma rest_forward (c : Cursor) (n : Nat) : (c.forward n).rest = c.rest.drop n := rfl

@[simp] lemma line_forward (c : Cursor) (n : Nat) : (c.forward n).line = c.line := rfl

@[simp] lemma column_forward (c : Cursor) (n : Nat) : (c.forward n).column = c.column + n := rfl

lemma forward_forward (c : Cursor) (m n : Nat) : (c.forward m).forward n = c.forward (m + n) := by
  simp only [forward, List.drop_drop, List.take_add, byteCount_append, Nat.add_assoc]

/-- Nothing is passed where the next character is of the other kind. -/
lemma forwardWhile_of_not {p : Char → Bool} (hrest : c.rest = d :: cs) (hd : p d = false) :
    c.forwardWhile p = c := by
  rw [forwardWhile, hrest, List.takeWhile_cons_of_neg (by simp [hd])]
  rfl

/-- Spaces are passed, as far as they are of a kind that the next character is not of. -/
lemma forwardWhile_spaces {p : Char → Bool} {n : Nat} (hrest : c.rest = List.replicate n ' ' ++ d :: cs)
    (hspace : p ' ' = true) (hd : p d = false) : c.forwardWhile p = c.forward n := by
  have hall : ∀ e ∈ List.replicate n ' ', p e = true :=
    fun e he => (List.eq_of_mem_replicate he).symm ▸ hspace
  rw [forwardWhile, hrest, List.takeWhile_append_of_pos hall, List.takeWhile_cons_of_neg (by simp [hd]),
    List.append_nil, List.length_replicate]

/-- No document begins or ends away from the beginning of a line. -/
lemma atDocumentMark_of_column (h : 0 < c.column) : c.atDocumentMark = false := by
  have hcolumn : (c.column == 0) = false := by simpa using Nat.pos_iff_ne_zero.1 h
  simp [atDocumentMark, atMark, hcolumn]

/-- Nor does one before any other character than a hyphen or a point. -/
lemma atMark_of_ne {mark : Char} (hrest : c.rest = d :: cs) (hd : d ≠ mark) : c.atMark mark = false := by
  simp [atMark, hrest, hd]

lemma atDocumentMark_of_ne (hrest : c.rest = d :: cs) (hhyphen : d ≠ '-') (hpoint : d ≠ '.') :
    c.atDocumentMark = false := by
  rw [atDocumentMark, atMark_of_ne hrest hhyphen, atMark_of_ne hrest hpoint]
  rfl

end Cursor

/-- A gap goes on at a character that does not begin a break of two. -/
lemma Gap.go_cons (g : Gap) (offset line column : Nat) (hd : d ≠ '\r') :
    g.go offset line column (d :: cs) =
      if isBreak d then (g.addBreak d).go (offset + d.utf8Size) (line + 1) 0 cs
      else if isBlank d then (g.addBlank column d).go (offset + 1) line (column + 1) cs
      else (g, ⟨d :: cs, offset, line, column⟩) := by
  rw [Gap.go]
  exact fun _ h => absurd h hd

/-- A gap ends before what is neither blank nor break. -/
lemma Gap.go_end (g : Gap) (offset line column : Nat) (hblank : isBlank d = false)
    (hbreak : isBreak d = false) :
    g.go offset line column (d :: cs) = (g, ⟨d :: cs, offset, line, column⟩) := by
  have hreturn : d ≠ '\r' := by
    rintro rfl
    exact absurd hbreak (by decide)
  rw [go_cons _ _ _ _ hreturn, hbreak, hblank]
  rfl

/-- What a gap without line breaks is. -/
lemma Gap.go_blanks (g : Gap) (hg : g.breaks = []) (offset line column n : Nat) (hblank : isBlank d = false)
    (hbreak : isBreak d = false) :
    g.go offset line column (List.replicate n ' ' ++ d :: cs) =
      ({ g with blanks := g.blanks ++ List.replicate n ' ' }, ⟨d :: cs, offset + n, line, column + n⟩) := by
  induction n generalizing g offset column with
  | zero => simp [go_end _ _ _ _ hblank hbreak]
  | succ n ih =>
      have hadd : g.addBlank column ' ' = { g with blanks := g.blanks ++ [' '] } := by simp [addBlank, hg]
      rw [List.replicate_succ, List.cons_append, go_cons _ _ _ _ (by decide), if_neg (by decide),
        if_pos (by decide), hadd, ih { g with blanks := g.blanks ++ [' '] } hg, List.append_assoc,
        List.singleton_append]
      simp only [Nat.add_assoc, Nat.add_comm 1]

/-- Blanks at the beginning of a line do not count. -/
lemma Gap.go_indentation (g : Gap) (hg : g.breaks ≠ []) (offset line column n : Nat)
    (hblank : isBlank d = false) (hbreak : isBreak d = false) :
    g.go offset line column (List.replicate n ' ' ++ d :: cs) =
      (g, ⟨d :: cs, offset + n, line, column + n⟩) := by
  induction n generalizing offset column with
  | zero => exact go_end _ _ _ _ hblank hbreak
  | succ n ih =>
      have hadd : g.addBlank column ' ' = g := by simp [addBlank, hg]
      rw [List.replicate_succ, List.cons_append, go_cons _ _ _ _ (by decide), if_neg (by decide),
        if_pos (by decide), hadd, ih]
      simp only [Nat.add_assoc, Nat.add_comm 1]

/-- The gap at the end of a line. -/
lemma Cursor.gap_of_lineBreak {level : Nat} (hrest : c.rest = Json.lineBreak level ++ d :: cs)
    (hblank : isBlank d = false) (hbreak : isBreak d = false) :
    c.gap = ({ breaks := ['\n'] }, ⟨d :: cs, c.offset + 1 + 2 * level, c.line + 1, 2 * level⟩) := by
  rw [gap, hrest, Json.lineBreak, List.cons_append, Gap.go_cons _ _ _ _ (by decide), if_pos (by decide),
    Gap.go_indentation _ (by decide) _ _ _ _ hblank hbreak, Nat.zero_add]
  rfl

/-- The gap at a place before blanks. -/
lemma Cursor.gap_of_blanks {n : Nat} (hrest : c.rest = List.replicate n ' ' ++ d :: cs)
    (hblank : isBlank d = false) (hbreak : isBreak d = false) :
    c.gap = ({ blanks := List.replicate n ' ' }, c.forward n) := by
  have hbytes : ∀ n, Text.byteCount (List.replicate n ' ') = n := by
    intro n
    induction n with
    | zero => rfl
    | succ n ih =>
        rw [List.replicate_succ', byteCount_append, ih]
        rfl
  rw [gap, hrest, Gap.go_blanks _ rfl _ _ _ _ hblank hbreak, forward, hrest, List.take_left' (by simp),
    hbytes, List.drop_left' (by simp)]
  rfl

/-! ## String literals -/

/-- The line breaks that JSON does not escape. -/
def Folds (d : Char) : Prop := d = '\u0085' ∨ d = '\u2028' ∨ d = '\u2029'

/-- Whether a character may stand in a text of YAML and, in a string, stands for itself. -/
def isVerbatim (d : Char) : Bool := isAllowed d && !(d == '\u0085' || d == '\u2028' || d == '\u2029')

lemma isAllowed_of_isVerbatim (h : isVerbatim d = true) : isAllowed d = true := (Bool.and_eq_true_iff.1 h).1

lemma not_folds_of_isVerbatim (h : isVerbatim d = true) : ¬ Folds d := by
  have hbreaks := (Bool.and_eq_true_iff.1 h).2
  simpa [Folds, and_assoc] using hbreaks

lemma isBreak_of_not_folds (hreturn : d ≠ '\r') (hfeed : d ≠ '\n') (hfolds : ¬ Folds d) :
    isBreak d = false := by
  simp only [Folds, not_or] at hfolds
  simp [isBreak, hreturn, hfeed, hfolds]

/-- The number of a control character says which one it is. -/
lemma hexChar_digits (hd : d.toNat < 0x20) :
    hexChar 4 ['0', '0', Nat.digitChar (d.toNat / 16), Nat.digitChar (d.toNat % 16)] = some d := by
  have hvalid : d.toNat.isValidChar := d.valid
  simp [hexChar, Json.hexNumber_digits _ hd, hvalid]

/-- What stands for a character is read as that character. -/
lemma readDouble_escapedChar {fuel : Nat} (hcolumn : 0 < c.column) (hrest : c.rest = escapedChar d ++ rest)
    (hspace : d ≠ ' ') (hfolds : ¬ Folds d) :
    readDouble (fuel + 1) c =
      (readDouble fuel (c.forward (escapedChar d).length)).map fun (text, c) => (d :: text, c) := by
  have hmark := Cursor.atDocumentMark_of_column hcolumn
  rw [readDouble, hmark, hrest, if_neg (by decide)]
  unfold escapedChar
  split_ifs with hquote hback hline hreturn htab hbell hfeed hcontrol
  · subst hquote; rfl
  · subst hback; rfl
  · subst hline; rfl
  · subst hreturn; rfl
  · subst htab; rfl
  · subst hbell; rfl
  · subst hfeed; rfl
  · have hescape : readEscape ('u' :: '0' :: '0' :: Nat.digitChar (d.toNat / 16) ::
        Nat.digitChar (d.toNat % 16) :: rest) = some (d, 5) := by
      simp [readEscape, escapeLength, hexChar_digits hcontrol]
    simp [beginsBreak, isBreak, hescape]
  · have hblank : isBlank d = false := by simp [isBlank, hspace, htab]
    have hbreak := isBreak_of_not_folds hreturn hline hfolds
    simp [hblank, hbreak]

/-- What stands for a character begins with a backslash or is the character. -/
lemma escapedChar_cases (d : Char) : (∃ more, escapedChar d = '\\' :: more) ∨
    escapedChar d = [d] ∧ d ≠ '\n' ∧ d ≠ '\r' ∧ d ≠ '\t' := by
  unfold escapedChar
  split_ifs with hquote hback hline hreturn htab hbell hfeed hcontrol
  on_goal 9 => exact .inr ⟨rfl, hline, hreturn, htab⟩
  all_goals exact .inl ⟨_, rfl⟩

lemma length_escapedChar_pos (d : Char) : 0 < (escapedChar d).length := by
  rcases escapedChar_cases d with ⟨more, hmore⟩ | ⟨hself, -⟩
  · simp [hmore]
  · simp [hself]

lemma length_le_flatMap_escapedChar (s : List Char) : s.length ≤ (s.flatMap escapedChar).length := by
  induction s with
  | nil => exact Nat.le_refl 0
  | cons d s ih =>
      have hpositive := length_escapedChar_pos d
      rw [List.flatMap_cons, List.length_append, List.length_cons]
      omega

/-- What stands for the next character, or closes the literal, is neither blank nor break. -/
lemma exists_cons_of_literal {s : List Char} (hspace : ∀ d ∈ s.head?, d ≠ ' ')
    (hfolds : ∀ d ∈ s, ¬ Folds d) :
    ∃ d cs, s.flatMap escapedChar ++ '"' :: rest = d :: cs ∧ isBlank d = false ∧ isBreak d = false := by
  cases s with
  | nil => exact ⟨_, _, rfl, by decide, by decide⟩
  | cons d s =>
      have hspace := hspace d rfl
      have hfolds := hfolds d List.mem_cons_self
      rw [List.flatMap_cons]
      rcases escapedChar_cases d with ⟨more, hmore⟩ | ⟨hself, hfeed, hreturn, htab⟩
      · exact ⟨'\\', _, by rw [hmore]; rfl, by decide, by decide⟩
      · exact ⟨d, _, by rw [hself]; rfl, by simp [isBlank, hspace, htab],
          isBreak_of_not_folds hreturn hfeed hfolds⟩

/-- A string is a run of spaces and what does not begin with one. -/
lemma exists_spaces (s : List Char) : ∃ n t, s = List.replicate n ' ' ++ t ∧ ∀ d ∈ t.head?, d ≠ ' ' := by
  induction s with
  | nil => exact ⟨0, [], rfl, by simp⟩
  | cons d s ih =>
      by_cases hd : d = ' '
      · obtain ⟨n, t, rfl, ht⟩ := ih
        exact ⟨n + 1, t, by rw [hd]; rfl, ht⟩
      · exact ⟨0, d :: s, rfl, by simpa using hd⟩

lemma flatMap_escapedChar_spaces (n : Nat) :
    (List.replicate n ' ').flatMap escapedChar = List.replicate n ' ' := by
  induction n with
  | zero => rfl
  | succ n ih =>
      rw [List.replicate_succ, List.flatMap_cons, ih]
      rfl

/-- A run of spaces is read at once, and stands for itself. -/
lemma readDouble_spaces {n fuel : Nat} (hcolumn : 0 < c.column)
    (hrest : c.rest = List.replicate (n + 1) ' ' ++ d :: cs) (hblank : isBlank d = false)
    (hbreak : isBreak d = false) :
    readDouble (fuel + 1) c =
      (readDouble fuel (c.forward (n + 1))).map fun (text, c) => (List.replicate (n + 1) ' ' ++ text, c) := by
  have hgap := Cursor.gap_of_blanks hrest hblank hbreak
  rw [readDouble, Cursor.atDocumentMark_of_column hcolumn, hgap, hrest]
  rfl

/-- **The inside of a string literal** is read as the string, up to the quote behind it. -/
theorem readDouble_literal {s : List Char} (hfolds : ∀ d ∈ s, ¬ Folds d) {fuel : Nat} (hcolumn : 0 < c.column)
    (hrest : c.rest = s.flatMap escapedChar ++ '"' :: rest) (hfuel : s.length < fuel) :
    readDouble fuel c = some (s, c.forward ((s.flatMap escapedChar).length + 1)) := by
  -- A step takes one character or a whole run of spaces, so the induction is on the length of what is left.
  induction hlength : s.length using Nat.strongRecOn generalizing s c fuel with
  | ind n ih =>
      obtain ⟨fuel, rfl⟩ : ∃ k, fuel = k + 1 := ⟨fuel - 1, by omega⟩
      obtain ⟨k, t, rfl, ht⟩ := exists_spaces s
      have htail := fun d hd => hfolds d (List.mem_append_right _ hd)
      rw [List.length_append, List.length_replicate] at hlength hfuel
      rw [List.flatMap_append, flatMap_escapedChar_spaces, List.append_assoc] at hrest
      cases k with
      | succ k =>
          obtain ⟨d, cs, hnext, hblank, hbreak⟩ :
              ∃ d cs, t.flatMap escapedChar ++ '"' :: rest = d :: cs ∧ _ :=
            exists_cons_of_literal ht htail
          have hmore : readDouble fuel (c.forward (k + 1)) =
              some (t, (c.forward (k + 1)).forward ((t.flatMap escapedChar).length + 1)) := by
            refine ih t.length (by omega) htail ?_ ?_ (by omega) rfl
            · rw [Cursor.column_forward]
              omega
            · rw [Cursor.rest_forward, hrest, List.drop_left' List.length_replicate]
          rw [hnext] at hrest
          rw [readDouble_spaces hcolumn hrest hblank hbreak, hmore, Cursor.forward_forward, Option.map_some,
            List.flatMap_append, flatMap_escapedChar_spaces, List.length_append, List.length_replicate]
          rfl
      | zero =>
          cases t with
          | nil =>
              rw [readDouble, Cursor.atDocumentMark_of_column hcolumn, hrest]
              rfl
          | cons d t =>
              have hrest : c.rest = escapedChar d ++ (t.flatMap escapedChar ++ '"' :: rest) := by
                rw [hrest, List.flatMap_cons, List.append_assoc]
                rfl
              have hpositive := length_escapedChar_pos d
              have hmore : readDouble fuel (c.forward (escapedChar d).length) =
                  some (t, (c.forward (escapedChar d).length).forward
                    ((t.flatMap escapedChar).length + 1)) := by
                rw [List.length_cons] at hlength hfuel
                refine ih t.length (by omega) (fun e he => htail e (List.mem_cons_of_mem d he)) ?_ ?_
                  (by omega) rfl
                · rw [Cursor.column_forward]
                  omega
                · rw [Cursor.rest_forward, hrest, List.drop_left' rfl]
              rw [readDouble_escapedChar hcolumn hrest (ht d rfl) (htail d List.mem_cons_self), hmore,
                Cursor.forward_forward, Option.map_some, List.replicate_zero, List.nil_append,
                List.flatMap_cons, List.length_append]
              rfl

/-! ## Words -/

/-- The characters that may follow a word of JSON. -/
def closers : List Char := [',', ']', '\x7d']

lemma eq_of_mem_closers (hd : d ∈ closers) : d = ',' ∨ d = ']' ∨ d = '\x7d' := by
  simpa [closers] using hd

lemma isBlank_of_mem_closers (hd : d ∈ closers) : isBlank d = false ∧ isBreak d = false := by
  rcases eq_of_mem_closers hd with rfl | rfl | rfl <;> decide

lemma plainWord_closer (hd : d ∈ closers) (cs : List Char) : plainWord true (d :: cs) = some [] := by
  rcases eq_of_mem_closers hd with rfl | rfl | rfl <;> rfl

/-- Whether a character belongs to plain scalars wherever it stands. -/
def isPlainLetter (d : Char) : Bool :=
  !(isBlank d || isBreak d || isFlowMark d || d == ':' || d == '#' || d == '-' || d == '.')

/-- A word ends where the scalar does. -/
lemma plainWord_append {word : List Char} (hword : word.all isPlainLetter = true)
    (hnext : plainWord true rest = some []) :
    plainWord true (word ++ rest) = some word := by
  induction word with
  | nil => exact hnext
  | cons d word ih =>
      obtain ⟨hd, hword⟩ := Bool.and_eq_true_iff.1 hword
      simp only [isPlainLetter, Bool.not_eq_true', Bool.or_eq_false_iff, beq_eq_false_iff_ne] at hd
      rw [List.cons_append, plainWord, ih hword]
      simp [hd]

/-- A plain scalar does not go on before a comma or a closing bracket. -/
lemma plainWords_closer {indent fuel : Nat} (gap : Gap) (hd : d ∈ closers) (hrest : c.rest = d :: cs) :
    plainWords true indent (fuel + 1) gap c = some ([], !gap.breaks.isEmpty, c) := by
  have hcomment : beginsWith '#' c.rest = false := by
    rw [hrest]
    rcases eq_of_mem_closers hd with rfl | rfl | rfl <;> rfl
  have hmark : c.atDocumentMark = false := by
    rcases eq_of_mem_closers hd with rfl | rfl | rfl <;>
      exact Cursor.atDocumentMark_of_ne hrest (by decide) (by decide)
  rw [plainWords, hmark, hcomment, hrest, plainWord_closer hd]
  rfl

/-- A word that is not the rest of a document mark or a comment is passed. -/
lemma plainWords_word {word : List Char} {indent fuel : Nat} (hword : word.all isPlainLetter = true)
    (hne : word ≠ []) (hnext : plainWord true rest = some []) (hrest : c.rest = word ++ rest) :
    plainWords true indent (fuel + 1) {} c =
      if rest.isEmpty || !isEnd rest then some (word, false, c.forward word.length)
      else
        let (gap, c) := (c.forward word.length).gap
        if gap.tabs.any (· < indent) then none
        else (plainWords true indent fuel gap c).map fun (more, broken, c) => (word ++ more, broken, c) := by
  obtain ⟨e, letters, rfl⟩ := List.exists_cons_of_ne_nil hne
  have hstart : (c.atDocumentMark || beginsWith '#' c.rest) = false := by
    have he := (Bool.and_eq_true_iff.1 hword).1
    simp only [isPlainLetter, Bool.not_eq_true', Bool.or_eq_false_iff, beq_eq_false_iff_ne] at he
    obtain ⟨⟨⟨-, hcomment⟩, hhyphen⟩, hpoint⟩ := he
    rw [Cursor.atDocumentMark_of_ne hrest hhyphen hpoint, hrest]
    simp [beginsWith, hcomment]
  have hahead : (c.forward (e :: letters).length).rest = rest := by
    rw [Cursor.rest_forward, hrest, List.drop_left' rfl]
  rw [plainWords, hstart, if_neg (by decide), hrest, plainWord_append hword hnext]
  dsimp only
  rw [hahead]
  rfl

/-- **A word of JSON** in front of a comma or a closing bracket, which may stand on the next line. -/
theorem readPlain_word {word gap : List Char} (hword : word.all isPlainLetter = true) (hne : word ≠ [])
    (hgap : gap = [] ∨ ∃ level, gap = Json.lineBreak level) (hd : d ∈ closers)
    (hrest : c.rest = word ++ (gap ++ d :: cs)) :
    ∃ broken c', c'.rest = d :: cs ∧
      ∀ indent fuel, 1 < fuel → readPlain true indent fuel c = some (word, broken, c') := by
  obtain ⟨hblank, hbreak⟩ := isBlank_of_mem_closers hd
  have hahead : (c.forward word.length).rest = gap ++ d :: cs := by
    rw [Cursor.rest_forward, hrest, List.drop_left' rfl]
  rcases hgap with rfl | ⟨level, rfl⟩
  · refine ⟨false, c.forward word.length, hahead, fun indent fuel hfuel => ?_⟩
    obtain ⟨fuel, rfl⟩ : ∃ k, fuel = k + 1 := ⟨fuel - 1, by omega⟩
    have hend : isEnd (d :: cs) = false := by simp [isEnd, hblank, hbreak]
    rw [readPlain, plainWords_word hword hne (plainWord_closer hd cs) hrest]
    simp [hend]
  · obtain ⟨c', hgap, hc'⟩ : ∃ c', (c.forward word.length).gap = ({ breaks := ['\n'] }, c') ∧
        c'.rest = d :: cs :=
      ⟨_, Cursor.gap_of_lineBreak hahead hblank hbreak, rfl⟩
    refine ⟨true, c', hc', fun indent fuel hfuel => ?_⟩
    obtain ⟨fuel, rfl⟩ : ∃ k, fuel = k + 2 := ⟨fuel - 2, by omega⟩
    have hempty : (Json.lineBreak level ++ d :: cs).isEmpty = false := rfl
    have hend : isEnd (Json.lineBreak level ++ d :: cs) = true := rfl
    rw [readPlain, plainWords_word hword hne rfl hrest, hgap, hempty, hend]
    simp [plainWords_closer _ hd hc']

end SchemaCompiler.Yaml

import SchemaCompiler.Sql.Printer
import Mathlib.Data.List.Basic

/-!
# Reading SQL as tokens

The printer is judged by a reader that knows nothing of it.  The reader cuts a text into words, quoted
names, numbered parameters and single signs, character by character and always as far as a token goes; a
token may be cut off only by the text itself.

Two texts that have been read may be put side by side, unless a token of the first could go on in the
second.  It cannot if a blank or a sign is at the seam: no such character belongs to a token, except between
quotes, and a text that ends there has no tokens at all.

* `Token`, `Mode` — the tokens, and what has been read of one.
* `tokens` — the tokens of a text, if it has any reading.
* `tokens_append`, `tokens_append_of_scan` — texts side by side, with a seam in the second or in the first.
* **`tokens_quote_append`** — a written name is exactly one token, whatever stands behind the seam.
-/

namespace SchemaCompiler.Sql

/-! ## The reader -/

/-- The smallest parts of a text. -/
inductive Token where
  | word (text : String)
  /-- A name between double quotes; `text` is what is meant. -/
  | name (text : String)
  | parameter (number : Nat)
  | sign (c : Char)
  deriving DecidableEq, Repr

/-- The characters that stand between tokens. -/
def isSpacing (c : Char) : Bool := [' ', '\t', '\n', '\x0c', '\r'].contains c

/-- The characters that are tokens. -/
def isSign (c : Char) : Bool := ['(', ')', ',', ';', '*', '='].contains c

/-- What has been read of a token. -/
inductive Mode where
  | between
  | word (read : List Char)
  | parameter (read : List Char)
  | quoted (read : List Char)
  /-- Behind a quote that is the end of the name, unless another one follows. -/
  | closing (read : List Char)
  deriving DecidableEq, Repr

/-- The token with another character, if the character belongs to it.  Nothing goes past a NUL. -/
def Mode.extend : Mode → Char → Option Mode
  | .between, _ => none
  | .word read, c => if isNameChar c then some (.word (read ++ [c])) else none
  | .parameter read, c => if c.isDigit then some (.parameter (read ++ [c])) else none
  | .quoted read, c =>
    if c = '"' then some (.closing read)
    else if c = '\x00' then none
    else some (.quoted (read ++ [c]))
  | .closing read, c => if c = '"' then some (.quoted (read ++ [c])) else none

/-- The token that has been read, if it is complete. -/
def Mode.finish : Mode → Option (List Token)
  | .between => some []
  | .word read => some [.word (String.ofList read)]
  | .parameter read => if read.isEmpty then none else some [.parameter (Text.digitsValue read)]
  | .quoted _ => none
  | .closing read => some [.name (String.ofList read)]

/-- What a character begins outside of all tokens. -/
def begin (c : Char) : Option (List Token × Mode) :=
  if isSpacing c then some ([], .between)
  else if isSign c then some ([.sign c], .between)
  else if c = '"' then some ([], .quoted [])
  else if c = '?' then some ([], .parameter [])
  else if isNameStart c then some ([], .word [c])
  else none

/-- The tokens that another character completes. -/
def Mode.step (m : Mode) (c : Char) : Option (List Token × Mode) :=
  match m.extend c with
  | some longer => some ([], longer)
  | none => m.finish.bind fun done => (begin c).map fun p => (done ++ p.1, p.2)

/-- The tokens that a run of characters completes. -/
def Mode.scan (m : Mode) : List Char → Option (List Token × Mode)
  | [] => some ([], m)
  | c :: rest => (m.step c).bind fun p => (p.2.scan rest).map fun q => (p.1 ++ q.1, q.2)

/-- The tokens up to the end of the text. -/
def Mode.readAll (m : Mode) (cs : List Char) : Option (List Token) :=
  (m.scan cs).bind fun p => p.2.finish.map (p.1 ++ ·)

/-- The tokens of a text. -/
def tokens (text : String) : Option (List Token) := Mode.between.readAll text.toList

/-! ## Texts side by side -/

variable {m m' : Mode} {ts us done : List Token} {s t : String}

namespace Mode

@[simp] lemma finish_between : Mode.between.finish = some [] := rfl

lemma scan_append (m : Mode) (a b : List Char) :
    m.scan (a ++ b) = (m.scan a).bind fun p => (p.2.scan b).map fun q => (p.1 ++ q.1, q.2) := by
  induction a generalizing m with
  | nil => cases hb : m.scan b <;> simp [scan, hb]
  | cons c rest ih =>
      simp only [List.cons_append, scan, ih]
      cases m.step c with
      | none => rfl
      | some p =>
          cases hrest : p.2.scan rest with
          | none => simp [hrest]
          | some q => cases hb : q.2.scan b <;> simp [hrest, hb]

lemma readAll_append (a b : List Char) (h : m.scan a = some (ts, m')) :
    m.readAll (a ++ b) = (m'.readAll b).map (ts ++ ·) := by
  rw [readAll, scan_append, h]
  cases hb : m'.scan b with
  | none => simp [readAll, hb]
  | some q => cases hq : q.2.finish <;> simp [readAll, hb, hq]

end Mode

/-- Whether a character is the end of every token before it. -/
def isSeam (c : Char) : Bool := isSpacing c || isSign c

/-- Whether a text ends every token before it. -/
def StartsApart (text : String) : Prop := ∀ c ∈ text.toList.head?, isSeam c

/-- A text that begins with a seam, with anything behind it. -/
lemma startsApart_append (h : s.toList.head?.any isSeam) (t : String) : StartsApart (s ++ t) := by
  obtain ⟨c, hc, hseam⟩ := (Option.any_eq_true _ _).1 h
  intro d hd
  rw [String.toList_append, List.head?_append, hc] at hd
  obtain rfl := Option.some.inj hd
  exact hseam

lemma not_isNameChar_of_isSeam {c : Char} (h : isSeam c) :
    isNameChar c = false ∧ c.isDigit = false ∧ c ≠ '"' := by
  simp only [isSeam, isSpacing, isSign, List.contains_iff_mem, List.mem_cons, List.not_mem_nil, or_false,
    Bool.or_eq_true] at h
  rcases h with (h | h | h | h | h) | (h | h | h | h | h | h) <;> subst h <;> decide

/-- What is complete does not go on behind a seam. -/
lemma Mode.extend_of_isSeam {c : Char} (hm : m.finish = some done) (hc : isSeam c) : m.extend c = none := by
  obtain ⟨hname, hdigit, hquote⟩ := not_isNameChar_of_isSeam hc
  cases m with
  | quoted => simp [finish] at hm
  | _ => simp [extend, hname, hdigit, hquote]

/-- A token that is complete is read before what stands behind the seam. -/
lemma Mode.readAll_of_startsApart (hm : m.finish = some done) (ht : StartsApart t) :
    m.readAll t.toList = (tokens t).map (done ++ ·) := by
  unfold tokens
  cases hcs : t.toList with
  | nil => simp [readAll, scan, hm]
  | cons c rest =>
      have hc : isSeam c := ht c (by rw [hcs]; rfl)
      have hstep : m.step c = (Mode.between.step c).map fun p => (done ++ p.1, p.2) := by
        simp only [step, extend_of_isSeam hm hc, hm]
        cases begin c <;> simp [extend]
      simp only [readAll, scan, hstep]
      cases Mode.between.step c with
      | none => rfl
      | some p =>
          cases hrest : p.2.scan rest with
          | none => simp [hrest]
          | some q => cases hq : q.2.finish <;> simp [hrest, hq]

/-- **Two texts**, where the second one begins with a seam. -/
theorem tokens_append (hs : tokens s = some ts) (ht : StartsApart t) :
    tokens (s ++ t) = (tokens t).map (ts ++ ·) := by
  unfold tokens Mode.readAll at hs
  obtain ⟨⟨us, m⟩, hscan, hfinish⟩ := Option.bind_eq_some_iff.1 hs
  obtain ⟨done, hdone, rfl⟩ := Option.map_eq_some_iff.1 hfinish
  rw [tokens, String.toList_append, Mode.readAll_append _ _ hscan, Mode.readAll_of_startsApart hdone ht]
  cases tokens t <;> simp

/-- Two texts, where no token goes on at the end of the first one. -/
theorem tokens_append_of_scan (hs : Mode.between.scan s.toList = some (ts, .between)) :
    tokens (s ++ t) = (tokens t).map (ts ++ ·) := by
  rw [tokens, String.toList_append, Mode.readAll_append _ _ hs]
  rfl

/-! ## Names -/

/-- The token that a name is written as. -/
def nameToken (name : String) : Token := if isPlain name then .word name else .name name

namespace Mode

/-- Characters that all belong to the token at hand. -/
lemma scan_of_extend {mode : List Char → Mode} {p : Char → Bool}
    (h : ∀ read c, p c → (mode read).extend c = some (mode (read ++ [c]))) (read : List Char) :
    ∀ {cs : List Char}, cs.all p → (mode read).scan cs = some ([], mode (read ++ cs)) := by
  intro cs hcs
  induction cs generalizing read with
  | nil => simp [scan]
  | cons c rest ih =>
      rw [List.all_cons, Bool.and_eq_true] at hcs
      simp [scan, step, h read c hcs.1, ih (read ++ [c]) hcs.2]

lemma scan_word (read : List Char) {cs : List Char} (h : cs.all isNameChar) :
    (word read).scan cs = some ([], word (read ++ cs)) :=
  scan_of_extend (fun _ c hc => by simp [extend, hc]) read h

lemma scan_parameter (read : List Char) {cs : List Char} (h : cs.all Char.isDigit) :
    (parameter read).scan cs = some ([], parameter (read ++ cs)) :=
  scan_of_extend (fun _ c hc => by simp [extend, hc]) read h

/-- A quote that is written twice is read once, and any other character as itself. -/
lemma scan_quoted (read : List Char) {cs : List Char} (h : '\x00' ∉ cs) :
    (quoted read).scan (doubleQuotes cs) = some ([], quoted (read ++ cs)) := by
  induction cs generalizing read with
  | nil => simp [doubleQuotes, scan]
  | cons c rest ih =>
      obtain ⟨hc, hrest⟩ := not_or.1 (mt List.mem_cons.2 h)
      rw [doubleQuotes]
      split_ifs with hquote
      · subst hquote
        simp [scan, step, extend, ih (read ++ ['"']) hrest]
      · simp [scan, step, extend, hquote, Ne.symm hc, ih (read ++ [c]) hrest]

end Mode

lemma begin_of_isNameStart {c : Char} (h : isNameStart c) : begin c = some ([], .word [c]) := by
  have hne : ∀ d : Char, isNameStart d = false → c ≠ d := by
    rintro d hd rfl
    simp [hd] at h
  have hspacing : isSpacing c = false := by
    simp [isSpacing, hne ' ' (by decide), hne '\t' (by decide), hne '\n' (by decide),
      hne '\x0c' (by decide), hne '\r' (by decide)]
  have hsign : isSign c = false := by
    simp [isSign, hne '(' (by decide), hne ')' (by decide), hne ',' (by decide), hne ';' (by decide),
      hne '*' (by decide), hne '=' (by decide)]
  simp [begin, hspacing, hsign, hne '"' (by decide), hne '?' (by decide), h]

/-- A name without quotes is read as a word. -/
lemma tokens_of_isPlain (h : isPlain s) : tokens s = some [.word s] := by
  rw [isPlain, Bool.and_eq_true] at h
  have hs : String.ofList s.toList = s := String.ofList_toList
  unfold tokens Mode.readAll
  cases hcs : s.toList with
  | nil => simp [hcs, isBareWord] at h
  | cons c rest =>
      rw [hcs, isBareWord, Bool.and_eq_true] at h
      rw [hcs] at hs
      simp [Mode.scan, Mode.step, Mode.extend, Mode.finish, begin_of_isNameStart h.1.1,
        Mode.scan_word [c] h.1.2, hs]

/-- Between quotes a name is read as it is. -/
lemma tokens_of_quoted (h : '\x00' ∉ s.toList) :
    tokens (String.ofList ('"' :: doubleQuotes s.toList ++ ['"'])) = some [.name s] := by
  have hopen : Mode.between.step '"' = some ([], .quoted []) := rfl
  have hclose (read : List Char) : (Mode.quoted read).step '"' = some ([], .closing read) := rfl
  simp [tokens, Mode.readAll, Mode.scan, hopen, Mode.scan_append, Mode.scan_quoted [] h, hclose,
    Mode.finish]

lemma identifierFault_eq_none_iff {name : String} :
    identifierFault name = none ↔ name ≠ "" ∧ '\x00' ∉ name.toList := by
  rw [identifierFault]
  by_cases hempty : name = ""
  · simp [hempty]
  · by_cases hnul : '\x00' ∈ name.toList <;> simp [hempty, hnul]

/-- A written name is one token. -/
lemma tokens_of_quote {name : String} (h : quote name = .ok s) : tokens s = some [nameToken name] := by
  unfold quote at h
  cases hfault : identifierFault name with
  | some fault => simp [hfault] at h
  | none =>
      simp only [hfault] at h
      unfold nameToken
      split_ifs at h ⊢ with hplain
      · obtain rfl := Except.ok.inj h
        exact tokens_of_isPlain hplain
      · obtain rfl := Except.ok.inj h
        exact tokens_of_quoted (identifierFault_eq_none_iff.1 hfault).2

/-- **A name stays one token.**  Whatever is written behind a name, if it begins with a blank or a sign, the
name is read as one token and the rest as it would be read alone. -/
theorem tokens_quote_append {name : String} (h : quote name = .ok s) (ht : StartsApart t) :
    tokens (s ++ t) = (tokens t).map (nameToken name :: ·) :=
  tokens_append (tokens_of_quote h) ht

/-- A quote and a semicolon inside a name. -/
example : tokens "\"a\"\"; b\";" = some [.name "a\"; b", .sign ';'] := by decide +kernel

/-! ## Parameters and lists -/

lemma digitsValue_toDigits (n : Nat) : Text.digitsValue (Nat.toDigits 10 n) = n := by
  have h := Nat.ofDigitChars_toDigits (b := 10) (n := n) (by decide) (by decide)
  simpa [Nat.ofDigitChars, Text.digitsValue, Nat.mul_comm] using h

lemma tokens_parameter (n : Nat) : tokens (parameter n) = some [.parameter n] := by
  have hopen : Mode.between.step '?' = some ([], .parameter []) := rfl
  have hdigits : (Nat.toDigits 10 n).all Char.isDigit := by
    rw [List.all_eq_true]
    exact fun c hc => Nat.isDigit_of_mem_toDigits (by decide) (by decide) hc
  have hlist : (parameter n).toList = '?' :: Nat.toDigits 10 n := by simp [parameter, Text.decimal]
  simp [tokens, Mode.readAll, hlist, Mode.scan, hopen, Mode.scan_parameter [] hdigits, Mode.finish,
    Nat.toDigits_ne_nil, digitsValue_toDigits]

/-- A list is read item by item, if its separator begins and ends with a seam. -/
lemma tokens_intercalate {separator : String} (hopen : separator.toList.head?.any isSeam)
    (hclose : Mode.between.scan separator.toList = some (us, .between)) {texts : List String}
    {items : List (List Token)} (h : List.Forall₂ (fun text ts => tokens text = some ts) texts items) :
    tokens (separator.intercalate texts) = some (us.intercalate items) := by
  induction h with
  | nil => rfl
  | @cons text ts texts items htext htexts ih =>
      cases htexts with
      | nil => simpa using htext
      | cons =>
          rw [String.intercalate_cons_cons, List.intercalate_cons_cons, String.append_assoc,
            tokens_append htext (startsApart_append hopen _), tokens_append_of_scan hclose, ih]
          simp

end SchemaCompiler.Sql

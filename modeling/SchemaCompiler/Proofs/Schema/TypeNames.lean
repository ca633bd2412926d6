import Mathlib.Data.List.Infix
import SchemaCompiler.Proofs.Text.Capitals
import SchemaCompiler.Schema.ScalarType

/-!
# Declared types and their affinity

SQLite knows no types of columns but five affinities, and finds the affinity of a declared type by looking
for marks in it: `INT` first, wherever it stands, then the marks of text, and so on.  The case of ASCII
letters makes no difference and all other characters stand for themselves.

`ScalarType.ofDeclared` looks for the same marks in almost the same order, but in another text.  It drops
what stands behind the name, which matters if a mark stands there.  It turns all letters of Unicode into
capitals, which makes marks out of letters that are none.  And it asks for `BLOB` as the whole name, so that
a name with `BLOB` in it may be that of a number.

* `Affinity.MarkedIn`, `Affinity.ofDeclared` — what SQLite finds in a declared type.
* `ScalarType.toList_baseName` — the name in which `ScalarType.ofDeclared` looks.
* `ScalarType.ofBaseName_eq_some` — what it has seen there.
* `ReadAsDeclared` — a declared type for which none of the three differences matters.
* `Ordinary` — a declared type with a name in ASCII and, say, a length behind it.
* **`ScalarType.affinity_ofDeclared_iff`** — when a declared type is read as SQLite reads it.
-/

namespace SchemaCompiler

/-! ## Parts of a text -/

namespace Text

variable {part cs : List Char} {separator : Char} {s pattern : String}

lemma occursIn_iff_infix : occursIn part cs = true ↔ part <:+: cs := by
  induction cs with
  | nil => rw [occursIn, List.isEmpty_iff, List.infix_nil]
  | cons c rest ih => rw [occursIn, Bool.or_eq_true, List.isPrefixOf_iff_prefix, ih, List.infix_cons_iff]

lemma contains_iff_infix : contains s pattern = true ↔ pattern.toList <:+: s.toList := occursIn_iff_infix

/-- The text from the first separator on. -/
def fromFirst (separator : Char) (s : String) : String :=
  String.ofList (s.toList.dropWhile (· != separator))

lemma toList_upTo_append_fromFirst (separator : Char) (s : String) :
    (upTo separator s).toList ++ (fromFirst separator s).toList = s.toList := by
  rw [upTo, fromFirst, String.toList_ofList, String.toList_ofList, List.takeWhile_append_dropWhile]

lemma infix_upTo (separator : Char) (s : String) : (upTo separator s).toList <:+: s.toList := by
  rw [upTo, String.toList_ofList]
  exact (List.takeWhile_prefix _).isInfix

lemma infix_fromFirst (separator : Char) (s : String) : (fromFirst separator s).toList <:+: s.toList := by
  rw [fromFirst, String.toList_ofList]
  exact (List.dropWhile_suffix _).isInfix

/-- A part without the separator is on one side of it. -/
lemma infix_upTo_or_fromFirst (hpart : separator ∉ part) (h : part <:+: s.toList) :
    part <:+: (upTo separator s).toList ∨ part <:+: (fromFirst separator s).toList := by
  rw [← toList_upTo_append_fromFirst separator s, List.infix_append_iff] at h
  rcases h with hfront | hbehind | ⟨front, behind, rfl, hfront, hbehind⟩
  · exact .inl hfront
  · exact .inr hbehind
  · cases behind with
    | nil =>
        rw [List.append_nil]
        exact .inl hfront.isInfix
    | cons c behind =>
        have hc : c = separator := by
          have hfirst : ∀ d ∈ (fromFirst separator s).toList.head?, (d != separator) = false := by
            intro d hd
            rw [fromFirst, String.toList_ofList] at hd
            have := List.head?_dropWhile_not (· != separator) s.toList
            rwa [Option.mem_def.1 hd] at this
          obtain ⟨rest, hrest⟩ := hbehind
          simpa using hfirst c (by rw [← hrest]; rfl)
        exact absurd (List.mem_append_right front (hc ▸ List.mem_cons_self)) hpart

end Text

open Text (upTo fromFirst isBlank upperOf trimBoth sameName)

/-! ## The rules of SQLite -/

/-- The affinities of columns. -/
inductive Affinity where
  | integer
  | text
  | blob
  | real
  | numeric
  deriving DecidableEq, Repr

namespace Affinity

variable {a b : Affinity} {declared mark : String}

/-- The texts that mark a declared type. -/
def marks : Affinity → List String
  | .integer => ["INT"]
  | .text => ["CHAR", "CLOB", "TEXT"]
  | .blob => ["BLOB"]
  | .real => ["REAL", "FLOA", "DOUB"]
  | .numeric => []

/-- The affinities whose marks are looked for before. -/
def earlier : Affinity → List Affinity
  | .integer => []
  | .text => [.integer]
  | .blob => [.integer, .text]
  | .real => [.integer, .text, .blob]
  | .numeric => [.integer, .text, .blob, .real]

/-- One of the marks occurs in a declared type, in capital or small letters of ASCII. -/
def MarkedIn (a : Affinity) (declared : String) : Prop :=
  ∃ mark ∈ a.marks, mark.toList <:+: declared.toList.map Char.toUpper

instance (a : Affinity) (declared : String) : Decidable (a.MarkedIn declared) :=
  inferInstanceAs (Decidable (∃ mark ∈ a.marks, mark.toList <:+: declared.toList.map Char.toUpper))

/-- A mark is the capital form of a part. -/
lemma markedIn_iff_exists_part : a.MarkedIn declared ↔
    ∃ mark ∈ a.marks, ∃ part, part <:+: declared.toList ∧ mark.toList = part.map Char.toUpper := by
  simp only [MarkedIn, List.infix_map_iff]

lemma MarkedIn.mono {longer : String} (h : a.MarkedIn declared) (hpart : declared.toList <:+: longer.toList) :
    a.MarkedIn longer := by
  obtain ⟨mark, hmark, hin⟩ := h
  exact ⟨mark, hmark, hin.trans (hpart.map _)⟩

/-- **The affinity of a declared type.**  A column without a type is taken for one of blobs. -/
def ofDeclared (declared : String) : Affinity :=
  if Affinity.integer.MarkedIn declared then .integer
  else if Affinity.text.MarkedIn declared then .text
  else if Affinity.blob.MarkedIn declared ∨ declared = "" then .blob
  else if Affinity.real.MarkedIn declared then .real
  else .numeric

/-- The affinity is the first one with a mark. -/
lemma ofDeclared_eq_iff (hne : declared ≠ "") :
    ofDeclared declared = a ↔ (∀ b ∈ a.earlier, ¬ b.MarkedIn declared) ∧
      (a.marks = [] ∨ a.MarkedIn declared) := by
  have hnumeric : ¬ Affinity.numeric.MarkedIn declared := by simp [MarkedIn, marks]
  rw [ofDeclared]
  cases a <;> split_ifs <;> simp_all [earlier, marks]

lemma isUpper_of_mem_mark (hmark : mark ∈ a.marks) : ∀ c ∈ mark.toList, c.isUpper = true := by
  have hall : ∀ mark ∈ a.marks, mark.toList.all Char.isUpper = true := by cases a <;> decide
  exact List.all_eq_true.1 (hall mark hmark)

lemma mark_ne_empty (hmark : mark ∈ a.marks) : mark.toList ≠ [] := by
  have hall : ∀ mark ∈ a.marks, mark.toList ≠ [] := by cases a <;> decide
  exact hall mark hmark

/-- A mark is made of letters of ASCII. -/
lemma isAlpha_of_mark {part : List Char} (hmark : mark ∈ a.marks)
    (hpart : mark.toList = part.map Char.toUpper) :
    ∀ c ∈ part, c.toNat < 128 ∧ c.isAlpha = true ∧ isBlank c = false := fun _ hc =>
  Text.isAlpha_of_isUpper_toUpper (isUpper_of_mem_mark hmark _ (hpart ▸ List.mem_map_of_mem hc))

/-- A mark does not go over a parenthesis. -/
lemma markedIn_iff :
    a.MarkedIn declared ↔ a.MarkedIn (upTo '(' declared) ∨ a.MarkedIn (fromFirst '(' declared) := by
  constructor
  · intro h
    obtain ⟨mark, hmark, part, hpart, heq⟩ := markedIn_iff_exists_part.1 h
    have hparen : '(' ∉ part := fun hmem => absurd (isAlpha_of_mark hmark heq _ hmem).2.1 (by decide)
    refine (Text.infix_upTo_or_fromFirst hparen hpart).imp (fun hside => ?_) fun hside => ?_ <;>
      exact markedIn_iff_exists_part.2 ⟨mark, hmark, part, hside, heq⟩
  · rintro (h | h)
    · exact h.mono (Text.infix_upTo _ _)
    · exact h.mono (Text.infix_fromFirst _ _)

end Affinity

/-! ## The name that is looked at -/

namespace ScalarType

variable {declared other base : String} {t : ScalarType} {a : Affinity}

/-- **The name** is what stands before a parenthesis, without blanks around it and in capitals. -/
lemma toList_baseName (declared : String) :
    (baseName declared).toList = (trimBoth isBlank (upTo '(' declared).toList).flatMap upperOf := by
  have hblank : ∀ c, isBlank c = true → (c != '(') = true := by
    rintro c hc
    rw [bne_iff_ne]
    rintro rfl
    exact absurd hc (by decide)
  have hparen : ∀ cs : List Char, (cs.flatMap upperOf).takeWhile (· != '(') =
      (cs.takeWhile (· != '(')).flatMap upperOf := by
    refine Text.takeWhile_flatMap (fun c hc d hd => ?_) fun c hc => ?_
    · rw [bne_iff_ne] at hc ⊢
      rintro rfl
      exact hc (Text.eq_of_paren_mem_upperOf hd)
    · obtain rfl : c = '(' := by simpa using hc
      exact Text.upperOf_paren
  have htrim : ∀ cs : List Char, trimBoth isBlank (cs.flatMap upperOf) =
      (trimBoth isBlank cs).flatMap upperOf :=
    Text.trimBoth_flatMap (fun _ => Text.upperOf_of_isBlank) fun c hc =>
      ⟨Text.upperOf_ne_nil c, fun d hd => by
        by_contra hd'
        rw [Text.isBlank_of_mem_upperOf hd (by simpa using hd')] at hc
        cases hc⟩
  simp only [baseName, Text.trim, Text.trimWhile, Text.toUppercase, upTo, String.toList_ofList]
  rw [hparen, htrim, Text.trimBoth_takeWhile hblank]

/-- Blanks around a declared type are not looked at. -/
lemma baseName_of_blanks {before after : String} (hbefore : Text.isBlankText before = true)
    (hafter : Text.isBlankText after = true) :
    baseName (before ++ declared ++ after) = baseName declared := by
  have htrim : Text.trim (before ++ declared ++ after) = Text.trim declared := by
    rw [Text.trim, Text.trimWhile, String.toList_append, String.toList_append,
      Text.trimBoth_append (List.all_eq_true.1 hbefore) (List.all_eq_true.1 hafter), Text.trim,
      Text.trimWhile]
  rw [baseName, htrim, baseName]

/-- The case of ASCII letters is not looked at. -/
lemma baseName_of_sameName (h : sameName other declared = true) : baseName other = baseName declared := by
  have hfold : ∀ s, (baseName s).toList =
      (trimBoth isBlank ((Text.foldAscii s).takeWhile (· != '('))).flatMap upperOf := by
    intro s
    have hparen : ((· != '(') ∘ Char.toLower : Char → Bool) = (· != '(') :=
      funext fun c => (Text.eq_toLower_of_ascii (fun c => c != '(') (by decide) c).symm
    have hblank : isBlank ∘ Char.toLower = isBlank := funext fun c => (Text.isBlank_toLower c).symm
    have htrim : ∀ cs : List Char, trimBoth isBlank (cs.map Char.toLower) =
        (trimBoth isBlank cs).map Char.toLower := fun cs => by
      rw [trimBoth, List.dropWhile_map, hblank, Text.dropWhileEnd, ← List.map_reverse, List.dropWhile_map,
        hblank, ← List.map_reverse, trimBoth, Text.dropWhileEnd]
    rw [toList_baseName, upTo, String.toList_ofList, Text.foldAscii, List.takeWhile_map, hparen, htrim,
      List.flatMap_map]
    exact congrArg (fun f => List.flatMap f _) (funext Text.upperOf_toLower)
  rw [← String.toList_inj, hfold, hfold, Text.sameName_iff.1 h]

/-- What stands behind a parenthesis is not looked at. -/
lemma baseName_of_parameters (declared parameters : String) :
    baseName (declared ++ "(" ++ parameters) = baseName declared := by
  have hname : upTo '(' (declared ++ "(" ++ parameters) = upTo '(' declared := by
    rw [upTo, String.toList_append, String.toList_append, List.append_assoc, List.takeWhile_append, upTo]
    split_ifs with hall
    · have hnone : ("(".toList ++ parameters.toList).takeWhile (· != '(') = [] := by simp
      rw [hnone, List.append_nil, (List.takeWhile_prefix (· != '(')).eq_of_length hall]
    · rfl
  rw [← String.toList_inj, toList_baseName, toList_baseName, hname]

lemma toOption_ofDeclared (declared : String) :
    (ofDeclared declared).toOption = ofBaseName (baseName declared) := by
  unfold ofDeclared
  split
  next t hfound => rw [hfound, Except.toOption]
  next hnone => rw [hnone, Except.toOption]

lemma ofBaseName_of_ofDeclared (h : ofDeclared declared = .ok t) :
    ofBaseName (baseName declared) = some t := by
  rw [← toOption_ofDeclared, h]
  rfl

/-- A mark that SQLite sees before the parenthesis is in the name. -/
lemma holdsAny_of_markedIn (h : a.MarkedIn (upTo '(' declared)) :
    holdsAny (baseName declared) a.marks = true := by
  obtain ⟨mark, hmark, part, hpart, heq⟩ := Affinity.markedIn_iff_exists_part.1 h
  have hletters := Affinity.isAlpha_of_mark hmark heq
  have hkept : ∀ c ∈ part, isBlank c = false := fun c hc => (hletters c hc).2.2
  have hcapital : part.flatMap upperOf = mark.toList := by
    rw [heq, List.map_eq_flatMap]
    exact List.flatMap_congr fun c hc => Text.upperOf_ascii (hletters c hc).1
  refine List.any_eq_true.2 ⟨mark, hmark, Text.contains_iff_infix.2 ?_⟩
  rw [toList_baseName, ← hcapital]
  exact (Text.infix_trimBoth_of_infix hpart hkept).flatMap _

/-- In ASCII a mark in the name is one that SQLite sees before the parenthesis. -/
lemma markedIn_of_holdsAny (hascii : ∀ c ∈ (upTo '(' declared).toList, c.toNat < 128)
    (h : holdsAny (baseName declared) a.marks = true) : a.MarkedIn (upTo '(' declared) := by
  obtain ⟨mark, hmark, hin⟩ := List.any_eq_true.1 h
  have hname := Text.infix_trimBoth isBlank (upTo '(' declared).toList
  have hcapital : (baseName declared).toList =
      (trimBoth isBlank (upTo '(' declared).toList).map Char.toUpper := by
    rw [toList_baseName, List.map_eq_flatMap]
    exact List.flatMap_congr fun c hc => Text.upperOf_ascii (hascii c (hname.subset hc))
  rw [Text.contains_iff_infix, hcapital] at hin
  exact ⟨mark, hmark, hin.trans (hname.map _)⟩

/-! ## What has been seen -/

/-- The affinity of the name that a type has in DDL. -/
def affinity (t : ScalarType) : Affinity := Affinity.ofDeclared t.sqlName

@[simp] lemma affinity_integer : affinity .integer = .integer := by decide
@[simp] lemma affinity_real : affinity .real = .real := by decide
@[simp] lemma affinity_text : affinity .text = .text := by decide
@[simp] lemma affinity_blob : affinity .blob = .blob := by decide
@[simp] lemma affinity_numeric : affinity .numeric = .numeric := by decide

/-- The names of numeric types have no mark of another affinity. -/
lemma not_holdsAny_of_numeric
    (h : ["NUMERIC", "DECIMAL", "BOOLEAN", "BOOL", "DATE", "DATETIME", "TIMESTAMP"].contains base = true)
    (ha : a ∈ Affinity.numeric.earlier) : holdsAny base a.marks = false := by
  have hall : ∀ name ∈ ["NUMERIC", "DECIMAL", "BOOLEAN", "BOOL", "DATE", "DATETIME", "TIMESTAMP"],
      ∀ a ∈ Affinity.numeric.earlier, holdsAny name a.marks = false := by decide
  exact hall base (List.contains_iff_mem.1 h) a ha

/-- **What has been seen in a name** of something other than NULL: a mark of its type, unless it is one of the
numeric names, and none that SQLite looks for before, unless it is `BLOB` in the name of a real type. -/
lemma ofBaseName_eq_some (h : ofBaseName base = some t) (hnull : t ≠ .null) :
    (t.affinity.marks = [] ∨ holdsAny base t.affinity.marks = true) ∧
      ∀ b ∈ t.affinity.earlier, holdsAny base b.marks = true → t = .real ∧ b = .blob := by
  have hinteger : holdsAny base Affinity.integer.marks = Text.contains base "INT" := by
    simp [holdsAny, Affinity.marks]
  unfold ofBaseName at h
  split_ifs at h with _ _ hint htext hblob hreal hnumeric <;> cases h
  · exact absurd rfl hnull
  · rw [affinity_integer]
    exact ⟨.inr (hinteger.trans hint), nofun⟩
  · rw [affinity_text]
    refine ⟨.inr htext, fun b hb hheld => ?_⟩
    obtain rfl := List.mem_singleton.1 hb
    exact absurd (hinteger ▸ hheld) hint
  · rw [affinity_blob, hblob]
    decide
  · rw [affinity_real]
    refine ⟨.inr hreal, fun b hb hheld => ?_⟩
    simp only [Affinity.earlier, List.mem_cons, List.not_mem_nil, or_false] at hb
    rcases hb with rfl | rfl | rfl
    · exact absurd (hinteger ▸ hheld) hint
    · exact absurd hheld htext
    · exact ⟨rfl, rfl⟩
  · rw [affinity_numeric]
    refine ⟨.inl rfl, fun b hb hheld => ?_⟩
    rw [not_holdsAny_of_numeric hnumeric hb] at hheld
    cases hheld

/-! ## Declared types -/

/-- **A declared type is read as SQLite reads it.** -/
structure ReadAsDeclared (declared : String) (t : ScalarType) : Prop where
  /-- The mark of the type is written in letters of ASCII. -/
  spelled : t.affinity.marks = [] ∨ t.affinity.MarkedIn declared
  /-- From the parenthesis on there is no mark that SQLite looks for before. -/
  unmarked : ∀ a ∈ t.affinity.earlier, ¬ a.MarkedIn (fromFirst '(' declared)
  /-- The name of a real type does not have `BLOB` in it. -/
  unmixed : t = .real → ¬ Affinity.blob.MarkedIn (upTo '(' declared)

/-- A declared type with a name in ASCII and no letters from the parenthesis on. -/
structure Ordinary (declared : String) : Prop where
  ascii : ∀ c ∈ (upTo '(' declared).toList, c.toNat < 128
  lettersInFront : ∀ c ∈ (fromFirst '(' declared).toList, c.isAlpha = false

/-- Whether a declared type is ordinary can be computed, character by character. -/
lemma ordinary_iff : Ordinary declared ↔ ((upTo '(' declared).toList.all (fun c => c.toNat < 128) &&
    (fromFirst '(' declared).toList.all fun c => !c.isAlpha) = true := by
  simp only [Bool.and_eq_true, List.all_eq_true, decide_eq_true_eq, Bool.not_eq_true']
  exact ⟨fun h => ⟨h.ascii, h.lettersInFront⟩, fun h => ⟨h.1, h.2⟩⟩

instance (declared : String) : Decidable (Ordinary declared) := decidable_of_iff _ ordinary_iff.symm

lemma affinity_eq_iff (h : ofDeclared declared = .ok t) (hnull : t ≠ .null) :
    Affinity.ofDeclared declared = t.affinity ↔ ReadAsDeclared declared t := by
  have hseen := (ofBaseName_eq_some (ofBaseName_of_ofDeclared h) hnull).2
  have hne : declared ≠ "" := by
    rintro rfl
    have hnone : ofBaseName (baseName "") = none := by decide
    rw [ofBaseName_of_ofDeclared h] at hnone
    cases hnone
  rw [Affinity.ofDeclared_eq_iff hne]
  constructor
  · rintro ⟨hearlier, hspelled⟩
    refine ⟨hspelled, fun a ha hmarked => hearlier a ha (Affinity.markedIn_iff.2 (.inr hmarked)), ?_⟩
    rintro rfl hmarked
    exact hearlier .blob (by simp [Affinity.earlier]) (Affinity.markedIn_iff.2 (.inl hmarked))
  · refine fun hread => ⟨fun a ha hmarked => ?_, hread.spelled⟩
    rcases Affinity.markedIn_iff.1 hmarked with hname | hbehind
    · obtain ⟨hreal, rfl⟩ := hseen a ha (holdsAny_of_markedIn hname)
      exact hread.unmixed hreal hname
    · exact hread.unmarked a ha hbehind

/-- For an ordinary declared type the one thing that matters is `BLOB` in the name of a real type. -/
lemma Ordinary.readAsDeclared_iff (hordinary : Ordinary declared) (h : ofDeclared declared = .ok t)
    (hnull : t ≠ .null) : ReadAsDeclared declared t ↔ (t = .real → ¬ Affinity.blob.MarkedIn declared) := by
  have hbehind : ∀ a : Affinity, ¬ a.MarkedIn (fromFirst '(' declared) := by
    intro a h
    obtain ⟨mark, hmark, part, hpart, heq⟩ := Affinity.markedIn_iff_exists_part.1 h
    have hne : part ≠ [] := fun hnil => Affinity.mark_ne_empty hmark (by rw [heq, hnil, List.map_nil])
    obtain ⟨c, hc⟩ := List.exists_mem_of_ne_nil part hne
    have hletter := (Affinity.isAlpha_of_mark hmark heq c hc).2.1
    rw [hordinary.lettersInFront c (hpart.subset hc)] at hletter
    cases hletter
  have hspelled : t.affinity.marks = [] ∨ t.affinity.MarkedIn declared :=
    (ofBaseName_eq_some (ofBaseName_of_ofDeclared h) hnull).1.imp_right fun hheld =>
      Affinity.markedIn_iff.2 (.inl (markedIn_of_holdsAny hordinary.ascii hheld))
  constructor
  · intro hread hreal hmarked
    exact (Affinity.markedIn_iff.1 hmarked).elim (hread.unmixed hreal) (hbehind _)
  · intro hunmixed
    exact ⟨hspelled, fun a _ => hbehind a,
      fun hreal hname => hunmixed hreal (Affinity.markedIn_iff.2 (.inl hname))⟩

/-- **When a declared type has the affinity of the type it is read as.**  For every declared type that is
read, as something other than NULL, this is so exactly if the mark of the type is written in ASCII, no mark
that SQLite looks for before stands from the parenthesis on, and a real type does not have `BLOB` in its
name; if its name is in ASCII and no letters stand from the parenthesis on, exactly if a real type does not
have `BLOB` in it.  How a declared type is read does not depend on blanks around it, on the case of ASCII
letters, or on anything behind a parenthesis, such as a length. -/
theorem affinity_ofDeclared_iff (declared : String) :
    (∀ t, ofDeclared declared = .ok t → t ≠ .null →
      (Affinity.ofDeclared declared = Affinity.ofDeclared t.sqlName ↔ ReadAsDeclared declared t) ∧
      (Ordinary declared →
        (ReadAsDeclared declared t ↔ (t = .real → ¬ Affinity.blob.MarkedIn declared)))) ∧
    (∀ before after, Text.isBlankText before = true → Text.isBlankText after = true →
      (ofDeclared (before ++ declared ++ after)).toOption = (ofDeclared declared).toOption) ∧
    (∀ other, sameName other declared = true →
      (ofDeclared other).toOption = (ofDeclared declared).toOption) ∧
    ∀ parameters, (ofDeclared (declared ++ "(" ++ parameters)).toOption = (ofDeclared declared).toOption := by
  refine ⟨fun t h hnull => ⟨affinity_eq_iff h hnull, fun hordinary => hordinary.readAsDeclared_iff h hnull⟩,
    fun before after hbefore hafter => ?_, fun other hsame => ?_, fun parameters => ?_⟩ <;>
    rw [toOption_ofDeclared, toOption_ofDeclared]
  · rw [baseName_of_blanks hbefore hafter]
  · rw [baseName_of_sameName hsame]
  · rw [baseName_of_parameters]

/-- A type with a length, in letters of both cases and with blanks, is read as SQLite reads it. -/
theorem doublePrecision_read : ofDeclared " Double Precision (10, 2)" = .ok .real ∧
    ReadAsDeclared " Double Precision (10, 2)" .real ∧
      Affinity.ofDeclared " Double Precision (10, 2)" = Affinity.ofDeclared ScalarType.real.sqlName := by
  obtain ⟨hread, hordinary, hunmixed⟩ : ofDeclared " Double Precision (10, 2)" = .ok .real ∧
      Ordinary " Double Precision (10, 2)" ∧ ¬ Affinity.blob.MarkedIn " Double Precision (10, 2)" := by
    decide +kernel
  obtain ⟨hiff, hplain⟩ := (affinity_ofDeclared_iff " Double Precision (10, 2)").1 .real hread (by decide)
  have hdeclared := (hplain hordinary).2 fun _ => hunmixed
  exact ⟨hread, hdeclared, hiff.2 hdeclared⟩

/-- The three ways in which a declared type is misread: `BLOB` in the name of a real type, a letter that is
none of ASCII, and a mark in parentheses. -/
theorem realBlob_misread :
    (ofDeclared "realblob" = .ok .real ∧
      Affinity.ofDeclared "realblob" ≠ Affinity.ofDeclared ScalarType.real.sqlName) ∧
    (ofDeclared "ınt" = .ok .integer ∧
      Affinity.ofDeclared "ınt" ≠ Affinity.ofDeclared ScalarType.integer.sqlName) ∧
    (ofDeclared "TEXT(INT)" = .ok .text ∧
      Affinity.ofDeclared "TEXT(INT)" ≠ Affinity.ofDeclared ScalarType.text.sqlName) := by
  decide +kernel

end ScalarType

end SchemaCompiler

import Mathlib.Data.List.Basic
import SchemaCompiler.Json.Parser
import SchemaCompiler.Json.Printer

/-!
# Reading back what is written

A value written over several lines is read back as the same value, save that the fields of every object
come out in ascending order of their keys.  Numbers are left aside: no document that is written holds one,
and what they go through is another matter.

The readers count down two things.  The *depth* is part of the format, so a value says how many brackets it
opens inside each other (`Plain`).  The *fuel* is there for the recursion only; the length of what is
written is always enough of it, since every call of a reader has at least one more character to itself.

* `Json.canonical` — a value as it is read back.
* `Json.Plain` — values without numbers and of a given depth.
* `Json.parse_pretty` — a text written over several lines and a line end are read back.
-/

namespace SchemaCompiler.Json

open Text

/-! ## Values -/

mutual

/-- The value with the fields of every object in it in ascending order of their keys. -/
def canonical : Json → Json
  | .array xs => .array (canonicalItems xs)
  | .object fields => ofFields (canonicalFields fields)
  | j => j

/-- The items of an array, each in its canonical form. -/
def canonicalItems : List Json → List Json
  | [] => []
  | x :: rest => canonical x :: canonicalItems rest

/-- The fields of an object, each in its canonical form. -/
def canonicalFields : List (String × Json) → List (String × Json)
  | [] => []
  | (key, value) :: rest => (key, canonical value) :: canonicalFields rest

end

lemma canonicalItems_eq_map (xs : List Json) : canonicalItems xs = xs.map canonical := by
  induction xs with
  | nil => rfl
  | cons x xs ih => rw [canonicalItems, ih, List.map_cons]

lemma canonicalFields_eq_map (fields : List (String × Json)) :
    canonicalFields fields = fields.map fun f => (f.1, canonical f.2) := by
  induction fields with
  | nil => rfl
  | cons f fields ih => rw [canonicalFields, ih, List.map_cons]

@[simp] lemma canonical_string (s : String) : canonical (.string s) = .string s := rfl

@[simp] lemma canonical_bool (b : Bool) : canonical (.bool b) = .bool b := rfl

@[simp] lemma canonical_array (xs : List Json) :
    canonical (.array xs) = .array (xs.map canonical) := by
  rw [canonical, canonicalItems_eq_map]

/-- The fields of an object as they are read back. -/
def kept (fields : List (String × Json)) : List (String × Json) :=
  sortFields (fields.map fun f => (f.1, canonical f.2))

@[simp] lemma canonical_object (fields : List (String × Json)) :
    canonical (.object fields) = .object (kept fields) := by
  rw [canonical, canonicalFields_eq_map, ofFields, kept]

/-- A value that holds no number and opens no more than `depth` brackets inside each other. -/
inductive Plain : Nat → Json → Prop
  | null {depth : Nat} : Plain depth .null
  | bool {depth : Nat} (b : Bool) : Plain depth (.bool b)
  | string {depth : Nat} (s : String) : Plain depth (.string s)
  | array {depth : Nat} {xs : List Json} (items : ∀ x ∈ xs, Plain depth x) :
      Plain (depth + 1) (.array xs)
  | object {depth : Nat} {fields : List (String × Json)} (values : ∀ f ∈ fields, Plain depth f.2) :
      Plain (depth + 1) (.object fields)

/-! ## String literals -/

lemma hexNumber_digits : ∀ n < 0x20,
    hexNumber ['0', '0', Nat.digitChar (n / 16), Nat.digitChar (n % 16)] = some n := by decide

lemma consRead_ok (c : Char) (s left : List Char) :
    consRead c (.ok (s, left)) = .ok (c :: s, left) := rfl

/-- What stands for a character is read as that character. -/
lemma readString_escapedChar (c : Char) (cs : List Char) :
    readString none (escapedChar c ++ cs) = consRead c (readString none cs) := by
  unfold escapedChar
  split_ifs with hquote hback hline hreturn htab hbell hfeed hcontrol
  · subst hquote; simp [readString, shortEscape]
  · subst hback; simp [readString, shortEscape]
  · subst hline; simp [readString, shortEscape]
  · subst hreturn; simp [readString, shortEscape]
  · subst htab; simp [readString, shortEscape]
  · subst hbell; simp [readString, shortEscape]
  · subst hfeed; simp [readString, shortEscape]
  · have hlead : isLeading c.toNat = false := by simp [isLeading]; omega
    have htrail : isTrailing c.toNat = false := by simp [isTrailing]; omega
    simp [readString, hexNumber_digits c.toNat hcontrol, hlead, htrail]
  · simp [readString, hquote, hback, hcontrol]

lemma readString_flatMap_escapedChar (s rest : List Char) :
    readString none (s.flatMap escapedChar ++ '"' :: rest) = .ok (s, rest) := by
  induction s with
  | nil => simp [readString]
  | cons c s ih =>
      rw [List.flatMap_cons, List.append_assoc, readString_escapedChar, ih, consRead_ok]

lemma literalChars_append (s : String) (rest : List Char) :
    literalChars s ++ rest = '"' :: (s.toList.flatMap escapedChar ++ '"' :: rest) := by
  simp [literalChars]

/-! ## Gaps -/

@[simp] lemma skipGap_lineBreak_append (level : Nat) (cs : List Char) :
    skipGap (lineBreak level ++ cs) = skipGap cs := by
  refine List.dropWhile_append_of_pos fun c hc => ?_
  rcases List.mem_cons.1 hc with rfl | hc
  · rfl
  · rw [List.eq_of_mem_replicate hc]; rfl

@[simp] lemma skipGap_space (cs : List Char) : skipGap (' ' :: cs) = skipGap cs := rfl

lemma skipGap_cons {c : Char} (h : isGap c = false) (cs : List Char) :
    skipGap (c :: cs) = c :: cs := by simp [skipGap, h]

/-- The characters that a value without numbers can begin with. -/
def openers : List Char := ['n', 't', 'f', '"', '[', '\x7b']

lemma exists_opener {depth : Nat} {j : Json} (h : Plain depth j) (level : Nat) :
    ∃ c ∈ openers, ∃ cs, j.prettyChars level = c :: cs := by
  cases h with
  | null => exact ⟨'n', by decide, _, rfl⟩
  | bool b => cases b <;> exact ⟨_, by decide, _, rfl⟩
  | string s => exact ⟨'"', by decide, _, rfl⟩
  | array =>
      rw [prettyChars, spread]
      split_ifs <;> exact ⟨'[', by decide, _, rfl⟩
  | object =>
      rw [prettyChars, spread]
      split_ifs <;> exact ⟨'\x7b', by decide, _, rfl⟩

lemma isGap_of_mem_openers : ∀ c ∈ openers, isGap c = false := by simp [openers, isGap]

/-! ## Brackets -/

/-- What is written behind the first of several parts between brackets. -/
def closeSpread (closing : Char) (level : Nat) : List (List Char) → List Char
  | [] => lineBreak level ++ [closing]
  | part :: parts => ',' :: (lineBreak (level + 1) ++ (part ++ closeSpread closing level parts))

lemma intercalate_append_closeSpread (closing : Char) (level : Nat) (parts : List (List Char))
    (part : List Char) :
    [','].intercalate (part :: parts.map (lineBreak (level + 1) ++ ·)) ++ lineBreak level ++ [closing]
      = part ++ closeSpread closing level parts := by
  induction parts generalizing part with
  | nil => simp [closeSpread]
  | cons next parts ih =>
      rw [List.map_cons, List.intercalate_cons_cons, List.append_assoc, List.append_assoc,
        ← List.append_assoc ([','].intercalate _), ih]
      simp [closeSpread]

lemma spread_cons (opening closing : Char) (level : Nat) (part : List Char)
    (parts : List (List Char)) :
    spread opening closing level (part :: parts) =
      opening :: (lineBreak (level + 1) ++ (part ++ closeSpread closing level parts)) := by
  have h := intercalate_append_closeSpread closing level parts (lineBreak (level + 1) ++ part)
  simpa [spread] using h

/-- What is written for a value is read back in front of any text, with fuel for each character. -/
def Readable (depth : Nat) (j : Json) : Prop :=
  ∀ (fuel level : Nat) (rest : List Char), (j.prettyChars level).length ≤ fuel →
    readValue fuel depth (j.prettyChars level ++ rest) = .ok (j.canonical, rest)

lemma readValue_space (fuel depth : Nat) (cs : List Char) :
    readValue (fuel + 1) depth (' ' :: cs) = readValue (fuel + 1) depth cs := by
  simp only [readValue, skipGap_space]

/-- Without fuel there would be nothing to read. -/
lemma readable_of_succ {depth : Nat} {j : Json} (plain : Plain depth j)
    (h : ∀ (fuel level : Nat) (rest : List Char), (j.prettyChars level).length ≤ fuel + 1 →
      readValue (fuel + 1) depth (j.prettyChars level ++ rest) = .ok (j.canonical, rest)) :
    Readable depth j := by
  intro fuel level rest hfuel
  obtain ⟨c, -, cs, hcs⟩ := exists_opener plain level
  cases fuel with
  | zero => simp [hcs] at hfuel
  | succ fuel => exact h fuel level rest hfuel

section Items

variable {fuel depth level : Nat} {cs next rest : List Char} {c : Char} {x : Json}

lemma readItems_last
    (h : readValue fuel depth cs = .ok (x, lineBreak level ++ ']' :: rest)) :
    readItems (fuel + 1) depth cs = .ok ([x], rest) := by
  simp [readItems, h, skipGap_cons (c := ']') rfl]

lemma readItems_next
    (h : readValue fuel depth cs = .ok (x, ',' :: (lineBreak level ++ c :: next)))
    (hc : c ∈ openers) :
    readItems (fuel + 1) depth cs =
      (readItems fuel depth (c :: next)).map fun (xs, left) => (x :: xs, left) := by
  have hgap := isGap_of_mem_openers c hc
  have hend : c ≠ ']' := by rintro rfl; exact absurd hc (by decide)
  simp [readItems, h, skipGap_cons (c := ',') rfl, skipGap_cons hgap, hend]

end Items

lemma readItems_prettyItems {depth : Nat} {xs : List Json} {x : Json}
    (plain : ∀ y ∈ x :: xs, Plain depth y) (readable : ∀ y ∈ x :: xs, Readable depth y)
    (level : Nat) (rest : List Char) (fuel : Nat)
    (hfuel : (x.prettyChars (level + 1)).length
      + (closeSpread ']' level (prettyItems (level + 1) xs)).length ≤ fuel) :
    readItems fuel depth
        (x.prettyChars (level + 1) ++ (closeSpread ']' level (prettyItems (level + 1) xs) ++ rest))
      = .ok ((x :: xs).map canonical, rest) := by
  induction xs generalizing x fuel with
  | nil =>
      simp only [prettyItems, closeSpread, List.length_append, List.length_singleton,
        List.append_assoc, List.singleton_append] at hfuel ⊢
      obtain ⟨fuel, rfl⟩ : ∃ k, fuel = k + 1 := ⟨fuel - 1, by omega⟩
      exact readItems_last (readable x (List.mem_singleton_self x) fuel _ _ (by omega))
  | cons y xs ih =>
      simp only [prettyItems, closeSpread, List.length_append, List.length_cons,
        List.append_assoc, List.cons_append] at hfuel ⊢
      obtain ⟨fuel, rfl⟩ : ∃ k, fuel = k + 1 := ⟨fuel - 1, by omega⟩
      have hx := readable x (List.mem_cons_self ..) fuel (level + 1)
        (',' :: (lineBreak (level + 1) ++ (y.prettyChars (level + 1)
          ++ (closeSpread ']' level (prettyItems (level + 1) xs) ++ rest)))) (by omega)
      have htail := ih (fun z hz => plain z (List.mem_cons_of_mem x hz))
        (fun z hz => readable z (List.mem_cons_of_mem x hz)) fuel (by omega)
      obtain ⟨c, hc, cs, hcs⟩ := exists_opener (plain y (by simp)) (level + 1)
      rw [hcs, List.cons_append] at hx htail
      rw [hcs, List.cons_append, readItems_next hx hc, htail]
      rfl

section Fields

variable {fuel depth level : Nat} {cs next rest : List Char} {key : String} {value : Json}

lemma readFields_last
    (h : readValue fuel depth cs = .ok (value, lineBreak level ++ '\x7d' :: rest)) :
    readFields (fuel + 1) depth (literalChars key ++ ':' :: cs) = .ok ([(key, value)], rest) := by
  simp [literalChars_append, readFields, readString_flatMap_escapedChar, h,
    skipGap_cons (c := ':') rfl, skipGap_cons (c := '\x7d') rfl]

lemma readFields_next
    (h : readValue fuel depth cs = .ok (value, ',' :: (lineBreak level ++ '"' :: next))) :
    readFields (fuel + 1) depth (literalChars key ++ ':' :: cs) =
      (readFields fuel depth ('"' :: next)).map fun (fields, left) => ((key, value) :: fields, left) := by
  simp [literalChars_append, readFields, readString_flatMap_escapedChar, h,
    skipGap_cons (c := ':') rfl, skipGap_cons (c := ',') rfl, skipGap_cons (c := '"') rfl]

end Fields

lemma readFields_prettyFields {depth : Nat} {fields : List (String × Json)} {f : String × Json}
    (readable : ∀ g ∈ f :: fields, Readable depth g.2) (level : Nat) (rest : List Char) (fuel : Nat)
    (hfuel : (literalChars f.1 ++ ':' :: ' ' :: f.2.prettyChars (level + 1)).length
      + (closeSpread '\x7d' level (prettyFields (level + 1) fields)).length ≤ fuel) :
    readFields fuel depth
        (literalChars f.1 ++ ':' :: ' ' :: (f.2.prettyChars (level + 1)
          ++ (closeSpread '\x7d' level (prettyFields (level + 1) fields) ++ rest)))
      = .ok ((f :: fields).map fun g => (g.1, g.2.canonical), rest) := by
  induction fields generalizing f fuel with
  | nil =>
      simp only [prettyFields, closeSpread, List.length_append, List.length_cons, List.length_nil,
        List.append_assoc, List.singleton_append] at hfuel ⊢
      obtain ⟨fuel, rfl⟩ : ∃ k, fuel = k + 2 := ⟨fuel - 2, by omega⟩
      have hvalue := readable f (List.mem_singleton_self f) (fuel + 1) (level + 1)
        (lineBreak level ++ '\x7d' :: rest) (by omega)
      rw [← readValue_space] at hvalue
      exact readFields_last hvalue
  | cons g fields ih =>
      simp only [prettyFields, closeSpread, List.length_append, List.length_cons,
        List.append_assoc, List.cons_append] at hfuel ⊢
      obtain ⟨fuel, rfl⟩ : ∃ k, fuel = k + 2 := ⟨fuel - 2, by omega⟩
      have hvalue := readable f (List.mem_cons_self ..) (fuel + 1) (level + 1)
        (',' :: (lineBreak (level + 1) ++ (literalChars g.1 ++ ':' :: ' ' :: (g.2.prettyChars (level + 1)
          ++ (closeSpread '\x7d' level (prettyFields (level + 1) fields) ++ rest))))) (by omega)
      have htail := ih (fun z hz => readable z (List.mem_cons_of_mem f hz)) (fuel + 1) (by
        simp only [List.length_append, List.length_cons]; omega)
      rw [literalChars_append g.1] at hvalue htail
      rw [← readValue_space] at hvalue
      rw [literalChars_append g.1, readFields_next hvalue, htail]
      rfl

/-- **What is written is read back**: the readers undo the printer, whatever stands behind the value. -/
theorem Plain.readable {depth : Nat} {j : Json} (h : Plain depth j) : Readable depth j := by
  induction h with
  | null => exact readable_of_succ .null fun _ _ _ _ => rfl
  | bool b => exact readable_of_succ (.bool b) fun _ _ _ _ => by cases b <;> rfl
  | string s =>
      refine readable_of_succ (.string s) fun fuel level rest hfuel => ?_
      simp [prettyChars, literalChars_append, readValue, skipGap_cons (c := '"') rfl,
        readString_flatMap_escapedChar, Except.map]
  | @array depth xs plain ih =>
      refine readable_of_succ (.array plain) fun fuel level rest hfuel => ?_
      cases xs with
      | nil => rfl
      | cons x xs =>
          simp only [prettyChars, prettyItems, spread_cons, List.length_cons, List.length_append,
            List.cons_append, List.append_assoc] at hfuel ⊢
          have hitems := readItems_prettyItems plain ih level rest fuel (by omega)
          obtain ⟨c, hc, cs, hcs⟩ := exists_opener (plain x (by simp)) (level + 1)
          have hend : c ≠ ']' := by rintro rfl; exact absurd hc (by decide)
          rw [hcs, List.cons_append] at hitems ⊢
          simp [readValue, skipGap_cons (c := '[') rfl, skipGap_cons (isGap_of_mem_openers c hc), hend,
            hitems, Except.map]
  | @object depth fields plain ih =>
      refine readable_of_succ (.object plain) fun fuel level rest hfuel => ?_
      cases fields with
      | nil => rfl
      | cons f fields =>
          simp only [prettyChars, prettyFields, spread_cons, List.length_cons, List.length_append,
            List.cons_append, List.append_assoc] at hfuel ⊢
          have hfields := readFields_prettyFields ih level rest fuel
            (by simp only [List.length_append, List.length_cons]; omega)
          rw [literalChars_append] at hfields ⊢
          simp [readValue, skipGap_cons (c := '\x7b') rfl, skipGap_cons (c := '"') rfl,
            hfields, Except.map, ofFields, kept]

/-- A text written over several lines and a line end stand for the value, as far as it opens no more
brackets than are read. -/
theorem parse_pretty {j : Json} (h : Plain deepest j) : parse (j.pretty ++ "\n") = .ok j.canonical := by
  have htext : (j.pretty ++ "\n").toList = j.prettyChars 0 ++ ['\n'] := by simp [pretty]
  have hread := h.readable (2 * (j.prettyChars 0 ++ ['\n']).length + 2) 0 ['\n'] (by
    rw [List.length_append]; omega)
  rw [parse, htext, readText, hread]
  rfl

end SchemaCompiler.Json

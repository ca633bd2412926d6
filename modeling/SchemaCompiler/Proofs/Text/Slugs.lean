import SchemaCompiler.Naming.Derived
import SchemaCompiler.Proofs.Text.Trimming
import SchemaCompiler.Proofs.Text.WordCase

/-!
# The readable part of a file name

The readable part of the name of a migration's file is made from a name that somebody thought of, in any
script and with any signs.  What is left of it are words of small letters and digits of ASCII with single
underscores between them; of a name that has no such words the word `migration`.

The text is made character by character, with a look back at the last one that was written, so what is known
at each step is that no two underscores stand side by side.  Those at the ends are cut off afterwards.

* `IsSlug` — words joined by single underscores.
* `apart_slugFrom` — no two underscores stand side by side.
* `slugFrom_of_apart` — where none do, there is nothing left to be done.
* `isSlug_slug` — the readable part is words joined by single underscores.
* `slug_slug` — the readable part of a readable part is itself.
-/

namespace SchemaCompiler

open Text (trimBoth trim isBlank EndsOutside trimBoth_of_ends infix_trimBoth isChain_trimBoth
  endsOutside_trimBoth)

namespace Naming

variable {c : Char} {cs : List Char} {last : Option Char}

/-! ## Words joined by underscores -/

/-- A small letter or a digit of ASCII. -/
def IsSlugChar (c : Char) : Prop := c.isLower = true ∨ c.isDigit = true

instance : DecidablePred IsSlugChar :=
  fun c => inferInstanceAs (Decidable (c.isLower = true ∨ c.isDigit = true))

/-- **Words joined by single underscores**, at least one, and none of them empty; so there is no underscore at
either end. -/
def IsSlug (cs : List Char) : Prop :=
  ∃ words : List (List Char), words ≠ [] ∧ (∀ w ∈ words, w ≠ [] ∧ ∀ c ∈ w, IsSlugChar c) ∧
    cs = ['_'].intercalate words

/-- No two underscores stand side by side. -/
def Apart (cs : List Char) : Prop := cs.IsChain fun a b => a ≠ '_' ∨ b ≠ '_'

/-- What is written already is written as it is. -/
lemma toLower_of_isSlugChar (h : IsSlugChar c) : c.toLower = c := by
  rcases h with hlower | hdigit
  · exact Text.toLower_of_isLower hlower
  · refine dif_neg fun hupper => ?_
    have hge : 'A'.toNat ≤ c.toNat := hupper.1
    exact absurd (hge.trans (Char.isDigit_iff_toNat.1 hdigit).2) (by decide)

lemma isAlphanum_iff : c.isAlphanum = true ↔ c.isUpper = true ∨ c.isLower = true ∨ c.isDigit = true := by
  have hkinds : c.isAlphanum = ((c.isUpper || c.isLower) || c.isDigit) := rfl
  rw [hkinds, Bool.or_eq_true, Bool.or_eq_true, or_assoc]

lemma isAlphanum_of_isSlugChar (h : IsSlugChar c) : c.isAlphanum = true := isAlphanum_iff.2 (.inr h)

/-- A letter or a digit is written in its small form. -/
lemma isSlugChar_toLower (h : c.isAlphanum = true) : IsSlugChar c.toLower := by
  rcases isAlphanum_iff.1 h with hupper | hlower | hdigit
  · exact .inl (Text.forall_of_isUpper (P := fun c => c.toLower.isLower = true) (by decide +kernel) hupper)
  · rw [toLower_of_isSlugChar (.inl hlower)]
    exact .inl hlower
  · rw [toLower_of_isSlugChar (.inr hdigit)]
    exact .inr hdigit

lemma ne_underscore_of_isSlugChar (h : IsSlugChar c) : c ≠ '_' := by
  rintro rfl
  exact absurd (isAlphanum_of_isSlugChar h) (by decide)

/-- No blank is written. -/
lemma isBlank_of_isSlugChar (h : IsSlugChar c) : isBlank c = false := by
  have hrange : 48 ≤ c.toNat ∧ c.toNat ≤ 122 := by
    rcases h with h | h
    · obtain ⟨hlo, hhi⟩ := Bool.and_eq_true_iff.1 h
      have hlo : 97 ≤ c.toNat := by simpa [UInt32.le_iff_toNat_le] using hlo
      have hhi : c.toNat ≤ 122 := by simpa [UInt32.le_iff_toNat_le] using hhi
      omega
    · obtain ⟨hlo, hhi⟩ := Char.isDigit_iff_toNat.1 h
      exact ⟨hlo, hhi.trans (by decide)⟩
  have hnone : ∀ n ∈ List.range' 48 75, Text.whiteSpace.containsCode n = false := by decide
  exact hnone c.toNat (List.mem_range'_1.2 (by omega))

/-! ## What is made character by character -/

/-- Behind the last character that was written follow letters, digits and underscores. -/
lemma mem_slugFrom (h : c ∈ slugFrom last cs) : c = '_' ∨ IsSlugChar c := by
  induction cs generalizing last with
  | nil => cases h
  | cons d rest ih =>
      rw [slugFrom] at h
      split_ifs at h with hletter hagain
      · rcases List.mem_cons.1 h with rfl | h
        · exact .inr (isSlugChar_toLower hletter)
        · exact ih h
      · exact ih h
      · rcases List.mem_cons.1 h with rfl | h
        · exact .inl rfl
        · exact ih h

/-- **No two underscores stand side by side**, not even where the text goes on behind the last character. -/
lemma apart_slugFrom (last : Option Char) (cs : List Char) : Apart (last.toList ++ slugFrom last cs) := by
  induction cs generalizing last with
  | nil => cases last <;> simp [slugFrom, Apart]
  | cons d rest ih =>
      rw [slugFrom]
      split_ifs with hletter hagain
      · have hne := ne_underscore_of_isSlugChar (isSlugChar_toLower hletter)
        have ih := ih (some d.toLower)
        cases last with
        | none => exact ih
        | some b => exact List.isChain_cons_cons.2 ⟨.inr hne, ih⟩
      · exact ih last
      · have ih := ih (some '_')
        cases last with
        | none => exact ih
        | some b => exact List.isChain_cons_cons.2 ⟨.inl fun hb => hagain (congrArg some hb), ih⟩

/-- Where no two underscores stand side by side, there is nothing left to be done. -/
lemma slugFrom_of_apart (last : Option Char) (hchars : ∀ c ∈ cs, c = '_' ∨ IsSlugChar c)
    (hapart : Apart (last.toList ++ cs)) :
    slugFrom last cs = cs := by
  induction cs generalizing last with
  | nil => rfl
  | cons d rest ih =>
      have hrest := fun c hc => hchars c (List.mem_cons_of_mem _ hc)
      have hbehind : Apart ((some d).toList ++ rest) := hapart.right_of_append
      rw [slugFrom]
      rcases hchars d List.mem_cons_self with rfl | hd
      · have hlast : last ≠ some '_' := by
          rintro rfl
          simpa using (List.isChain_cons_cons.1 hapart).1
        rw [if_neg (by decide), if_neg hlast, ih _ hrest hbehind]
      · rw [if_pos (isAlphanum_of_isSlugChar hd), toLower_of_isSlugChar hd, ih _ hrest hbehind]

/-! ## The readable part -/

/-- What the readable part is known by: its characters, no two underscores side by side, none at the ends, and
that there is something. -/
structure Spaced (cs : List Char) : Prop where
  nonempty : cs ≠ []
  chars : ∀ c ∈ cs, c = '_' ∨ IsSlugChar c
  apart : Apart cs
  ends : EndsOutside (· == '_') cs

/-- One word has no underscores at all. -/
lemma spaced_of_word (hne : cs ≠ []) (h : ∀ c ∈ cs, IsSlugChar c) : Spaced cs where
  nonempty := hne
  chars c hc := .inr (h c hc)
  apart := (List.isChain_iff_forall_rel_of_append_cons_cons).2 fun a b _ _ heq =>
    .inl (ne_underscore_of_isSlugChar (h a (by simp [heq])))
  ends := ⟨fun c hc => by simpa using ne_underscore_of_isSlugChar (h c (List.mem_of_mem_head? hc)),
    fun c hc => by simpa using ne_underscore_of_isSlugChar (h c (List.mem_of_mem_getLast? hc))⟩

lemma slug_of_ne_nil {name : String} (h : trimBoth (· == '_') (slugFrom none (trim name).toList) ≠ []) :
    (slug name).toList = trimBoth (· == '_') (slugFrom none (trim name).toList) := by
  rw [slug]
  split
  · exact absurd ‹_› h
  · exact String.toList_ofList

lemma spaced_slug (name : String) : Spaced (slug name).toList := by
  by_cases hne : trimBoth (· == '_') (slugFrom none (trim name).toList) = []
  · have hslug : slug name = "migration" := by rw [slug, hne]
    rw [hslug]
    exact spaced_of_word (by decide) (by simp [IsSlugChar])
  · have hpart := infix_trimBoth (· == '_') (slugFrom none (trim name).toList)
    have hapart : Apart (slugFrom none (trim name).toList) := by
      simpa using apart_slugFrom none (trim name).toList
    rw [slug_of_ne_nil hne]
    exact ⟨hne, fun c hc => mem_slugFrom (hpart.subset hc), isChain_trimBoth _ hapart,
      endsOutside_trimBoth _ _⟩

/-- Between underscores that stand apart, and none of them at the end, there are words. -/
lemma exists_words (hne : cs ≠ []) (hchars : ∀ c ∈ cs, c = '_' ∨ IsSlugChar c) (hapart : Apart cs)
    (hlast : ∀ c ∈ cs.getLast?, c ≠ '_') : ∃ text, IsSlug text ∧ (cs = text ∨ cs = '_' :: text) := by
  induction cs with
  | nil => exact absurd rfl hne
  | cons d rest ih =>
      have hd := hchars d List.mem_cons_self
      rcases eq_or_ne rest [] with rfl | hrest
      · have hslug := hd.resolve_left (hlast d rfl)
        exact ⟨[d], ⟨[[d]], by simp, by simpa using hslug, rfl⟩, .inl rfl⟩
      · obtain ⟨text, ⟨words, hwords, hall, rfl⟩, htext⟩ := ih hrest
          (fun c hc => hchars c (List.mem_cons_of_mem _ hc)) (List.IsChain.tail hapart)
          (by rwa [List.getLast?_cons_of_ne_nil hrest] at hlast)
        rcases hd with rfl | hd
        · refine ⟨_, ⟨words, hwords, hall, rfl⟩, .inr ?_⟩
          rcases htext with rfl | rfl
          · rfl
          · simpa using (List.isChain_cons_cons.1 hapart).1
        · rcases htext with rfl | rfl
          · obtain ⟨w, ws, rfl⟩ := List.exists_cons_of_ne_nil hwords
            have hw := hall w List.mem_cons_self
            refine ⟨_, ⟨(d :: w) :: ws, by simp, ?_, rfl⟩, .inl ?_⟩
            · rintro v (_ | ⟨_, hv⟩)
              · exact ⟨by simp, by simpa using ⟨hd, hw.2⟩⟩
              · exact hall v (List.mem_cons_of_mem _ hv)
            · cases ws <;> simp [List.intercalate_cons_cons]
          · refine ⟨_, ⟨[d] :: words, by simp, ?_, rfl⟩, .inl ?_⟩
            · rintro v (_ | ⟨_, hv⟩)
              · exact ⟨by simp, by simpa using hd⟩
              · exact hall v hv
            · obtain ⟨w, ws, rfl⟩ := List.exists_cons_of_ne_nil hwords
              rw [List.intercalate_cons_cons]
              rfl

/-- **The readable part is words joined by single underscores.** -/
theorem isSlug_slug (name : String) : IsSlug (slug name).toList := by
  have h := spaced_slug name
  obtain ⟨text, htext, heq | heq⟩ := exists_words h.nonempty h.chars h.apart
    (fun c hc => by simpa using h.ends.2 c hc)
  · exact heq ▸ htext
  · exact absurd (h.ends.1 '_' (by rw [heq]; rfl)) (by decide)

/-- **The readable part of a readable part is itself.** -/
theorem slug_slug (name : String) : slug (slug name) = slug name := by
  have h := spaced_slug name
  have hblank : EndsOutside isBlank (slug name).toList :=
    ⟨fun c hc => isBlank_of_isSlugChar ((h.chars c (List.mem_of_mem_head? hc)).resolve_left
        (by simpa using h.ends.1 c hc)),
      fun c hc => isBlank_of_isSlugChar ((h.chars c (List.mem_of_mem_getLast? hc)).resolve_left
        (by simpa using h.ends.2 c hc))⟩
  have htrim : (trim (slug name)).toList = (slug name).toList := by
    rw [trim, Text.trimWhile, String.toList_ofList, trimBoth_of_ends hblank]
  have hagain : trimBoth (· == '_') (slugFrom none (trim (slug name)).toList) = (slug name).toList := by
    rw [htrim, slugFrom_of_apart none h.chars (by simpa using h.apart), trimBoth_of_ends h.ends]
  have hne : trimBoth (· == '_') (slugFrom none (trim (slug name)).toList) ≠ [] := by
    rw [hagain]
    exact h.nonempty
  exact String.toList_inj.1 ((slug_of_ne_nil hne).trans hagain)

end Naming
end SchemaCompiler

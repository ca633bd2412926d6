import Mathlib.Data.List.TakeWhile
import SchemaCompiler.Proofs.Names
import SchemaCompiler.Proofs.Text.Trimming
import SchemaCompiler.Text.Blank

/-!
# Capital forms

The capital form of a text is taken character by character, from tables of some hundred rows.  In ASCII the
tables do what everyone expects.  Outside of ASCII a character may become several, and some become letters
of ASCII.  But there are characters that the tables keep out of altogether, such as blanks and parentheses:
these are not changed, and nothing else becomes one of them.  So what is cut off at blanks and parentheses
may be cut off before or after the letters become capitals.

* `lowerOf_ascii`, `upperOf_ascii` — the two conversions in ASCII.
* `Untouched` — a range of characters that the tables keep out of.
* `upperOf_of_isBlank`, `isBlank_of_mem_upperOf`, `eq_of_paren_mem_upperOf` — blanks and parentheses.
* `takeWhile_flatMap`, `trimBoth_flatMap` — cutting off what a conversion does not touch.
-/

namespace SchemaCompiler.Text

variable {c d : Char} {n : Nat}

/-! ## ASCII -/

/-- What holds of the first 128 code points holds of every character of ASCII. -/
lemma forall_of_ascii {P : Char → Prop} (h : ∀ n ∈ List.range 128, P (Char.ofNat n)) {c : Char}
    (hc : c.toNat < 128) : P c := by
  have := h c.toNat (List.mem_range.2 hc)
  rwa [Char.ofNat_toNat] at this

/-- In ASCII only the first run of a table matters. -/
lemma apply_of_ascii {runs : List CaseRun} (hruns : runs.tail.all (fun r => Nat.ble 128 r.first) = true)
    (hn : n < 128) : CaseRun.apply runs n = CaseRun.apply (runs.take 1) n := by
  cases runs with
  | nil => rfl
  | cons first rest =>
      have hnone : rest.find? (·.covers n) = none := List.find?_eq_none.2 fun r hr => by
        have := Nat.ble_eq.mp (List.all_eq_true.1 hruns r hr)
        simp only [CaseRun.covers, Bool.and_eq_true, decide_eq_true_eq]
        omega
      rw [CaseRun.apply, CaseRun.apply, List.take_succ_cons, List.take_zero, List.find?_cons,
        List.find?_singleton, hnone]
      cases first.covers n <;> rfl

lemma lowerOf_ascii (hc : c.toNat < 128) : lowerOf c = [c.toLower] := by
  have hsame : CaseRun.apply (toLowerRuns.take 1) c.toNat = c.toLower.toNat := Nat.eq_of_beq_eq_true <|
    forall_of_ascii
      (P := fun c => Nat.beq (CaseRun.apply (toLowerRuns.take 1) c.toNat) c.toLower.toNat = true)
      (List.all_eq_true.1 (by decide)) hc
  rw [lowerOf, if_neg (by omega), apply_of_ascii (by decide) hc, hsame, Char.ofNat_toNat]

lemma upperOf_ascii (hc : c.toNat < 128) : upperOf c = [c.toUpper] := by
  have hkeys : toUpperExpansions.all (fun e => Nat.ble 128 e.1) = true := by decide
  have hnone : toUpperExpansions.find? (·.1 == c.toNat) = none := List.find?_eq_none.2 fun e he => by
    have := Nat.ble_eq.mp (List.all_eq_true.1 hkeys e he)
    rw [beq_iff_eq]
    omega
  have hsame : CaseRun.apply (toUpperRuns.take 1) c.toNat = c.toUpper.toNat := Nat.eq_of_beq_eq_true <|
    forall_of_ascii
      (P := fun c => Nat.beq (CaseRun.apply (toUpperRuns.take 1) c.toNat) c.toUpper.toNat = true)
      (List.all_eq_true.1 (by decide)) hc
  rw [upperOf, hnone]
  dsimp only
  rw [apply_of_ascii (by decide) hc, hsame, Char.ofNat_toNat]

/-- A character whose capital in ASCII is a letter is a letter itself, and no blank. -/
lemma isAlpha_of_isUpper_toUpper (h : c.toUpper.isUpper = true) :
    c.toNat < 128 ∧ c.isAlpha = true ∧ isBlank c = false := by
  have hascii : c.toNat < 128 := by
    by_contra hlarge
    have hsmall : ¬ ('a'.val ≤ c.val ∧ c.val ≤ 'z'.val) := fun hc => by
      have : c.toNat ≤ 122 := UInt32.le_iff_toNat_le.1 hc.2
      omega
    have hself : c.toUpper = c := dif_neg hsmall
    rw [hself] at h
    obtain ⟨-, hc⟩ : c.val ≥ 'A'.val ∧ c.val ≤ 'Z'.val := of_decide_eq_true h
    have : c.toNat ≤ 90 := UInt32.le_iff_toNat_le.1 hc
    omega
  have hletter : (!c.toUpper.isUpper || (c.isAlpha && !isBlank c)) = true :=
    forall_of_ascii (P := fun c => (!c.toUpper.isUpper || (c.isAlpha && !isBlank c)) = true)
      (List.all_eq_true.1 (by decide)) hascii
  rw [h, Bool.not_true, Bool.false_or, Bool.and_eq_true, Bool.not_eq_true'] at hletter
  exact ⟨hascii, hletter⟩

lemma upperOf_toLower (c : Char) : upperOf c = upperOf c.toLower := by
  have hletters : ∀ n ∈ List.range' 65 26,
      (Char.ofNat n).toNat < 128 ∧ (Char.ofNat n).toLower.toNat < 128 ∧
      (Char.ofNat n).toUpper = (Char.ofNat n).toLower.toUpper := by decide
  refine eq_toLower_of_ascii upperOf (fun n hn => ?_) c
  obtain ⟨hcapital, hsmall, hsame⟩ := hletters n hn
  rw [upperOf_ascii hcapital, upperOf_ascii hsmall, hsame]

lemma isBlank_toLower (c : Char) : isBlank c = isBlank c.toLower :=
  eq_toLower_of_ascii isBlank (by decide) c

/-! ## What the tables keep out of -/

/-- A number is outside of a closed range. -/
def Outside (range : Nat × Nat) (n : Nat) : Prop := n < range.1 ∨ range.2 < n

instance (range : Nat × Nat) (n : Nat) : Decidable (Outside range n) :=
  inferInstanceAs (Decidable (n < range.1 ∨ range.2 < n))

/-- **The tables of capitals keep out of a range**: no character of it is changed, and none is what another
one is changed into. -/
structure Untouched (range : Nat × Nat) : Prop where
  pos : 0 < range.1
  expansions : ∀ e ∈ toUpperExpansions, Outside range e.1 ∧ ∀ code ∈ e.2, Outside range code
  runs : ∀ r ∈ toUpperRuns, (r.last < range.1 ∨ range.2 < r.first) ∧
    (r.image + (r.last - r.first) < range.1 ∨ range.2 < r.image)

/-- Two closed ranges of numbers have none in common. -/
def apart (range other : Nat × Nat) : Bool := Nat.blt other.2 range.1 || Nat.blt range.2 other.1

lemma apart_iff {range other : Nat × Nat} :
    apart range other = true ↔ other.2 < range.1 ∨ range.2 < other.1 := by
  rw [apart, Bool.or_eq_true, Nat.blt_eq, Nat.blt_eq]

/-- Whether the tables keep out of a range, by tests that are fast to compute: the tables are long. -/
def keepsOut (range : Nat × Nat) : Bool :=
  Nat.blt 0 range.1 &&
    toUpperExpansions.all (fun e => apart range (e.1, e.1) && e.2.all fun code => apart range (code, code)) &&
    toUpperRuns.all fun r =>
      apart range (r.first, r.last) && apart range (r.image, r.image + (r.last - r.first))

lemma untouched_of_keepsOut {range : Nat × Nat} (h : keepsOut range = true) : Untouched range := by
  simp only [keepsOut, Bool.and_eq_true, List.all_eq_true, apart_iff, Nat.blt_eq] at h
  obtain ⟨⟨hpos, hexpansions⟩, hruns⟩ := h
  exact ⟨hpos, hexpansions, hruns⟩

/-- **The tables keep out of** the parenthesis and of all blanks. -/
lemma untouched_of_mem {range : Nat × Nat} (h : range ∈ (0x28, 0x28) :: whiteSpace.ranges) :
    Untouched range := by
  have hall : ((0x28, 0x28) :: whiteSpace.ranges).all keepsOut = true := by decide
  exact untouched_of_keepsOut (List.all_eq_true.1 hall range h)

namespace Untouched

variable {range : Nat × Nat}

/-- Characters of the range stay as they are. -/
lemma upperOf_eq (h : Untouched range) (hc : ¬ Outside range c.toNat) : upperOf c = [c] := by
  have hexpansion : toUpperExpansions.find? (·.1 == c.toNat) = none := List.find?_eq_none.2 fun e he hsame =>
    hc (beq_iff_eq.1 hsame ▸ (h.expansions e he).1)
  have hrun : toUpperRuns.find? (·.covers c.toNat) = none := List.find?_eq_none.2 fun r hr hcovers => by
    have := (h.runs r hr).1
    simp only [CaseRun.covers, Bool.and_eq_true, decide_eq_true_eq] at hcovers
    rw [Outside] at hc
    omega
  rw [upperOf, hexpansion]
  dsimp only
  rw [CaseRun.apply, hrun, Char.ofNat_toNat]

/-- A number outside of the range is not the code of a character in it, not even if it is the code of none. -/
lemma outside_toNat_ofNat (h : Untouched range) (hn : Outside range n) :
    Outside range (Char.ofNat n).toNat := by
  by_cases hvalid : n.isValidChar
  · rw [Char.ofNat, dif_pos hvalid]
    exact hn
  · rw [Char.ofNat, dif_neg hvalid]
    exact .inl h.pos

/-- Nothing else becomes a character of the range. -/
lemma eq_of_mem_upperOf (h : Untouched range) (hd : d ∈ upperOf c) (hrange : ¬ Outside range d.toNat) :
    d = c := by
  rw [upperOf] at hd
  split at hd
  next e image hfind =>
    obtain ⟨code, hcode, rfl⟩ := List.mem_map.1 hd
    exact absurd (h.outside_toNat_ofNat ((h.expansions _ (List.mem_of_find?_eq_some hfind)).2 code hcode))
      hrange
  next =>
    rw [List.mem_singleton, CaseRun.apply] at hd
    split at hd
    next r hfind =>
      subst hd
      refine absurd (h.outside_toNat_ofNat ?_) hrange
      have himage := (h.runs r (List.mem_of_find?_eq_some hfind)).2
      have hcovers := List.find?_some hfind
      simp only [CaseRun.covers, Bool.and_eq_true, decide_eq_true_eq] at hcovers
      rw [Outside]
      omega
    next => rw [hd, Char.ofNat_toNat]

end Untouched

/-- A number with a range that ends behind it is in one of the ranges. -/
lemma exists_range_of_rangeAt {ranges : List (Nat × Nat)} (h : (rangeAt ranges n).isSome = true) :
    ∃ range ∈ ranges, ¬ Outside range n := by
  induction ranges with
  | nil => cases h
  | cons range rest ih =>
      obtain ⟨lo, hi⟩ := range
      rw [rangeAt] at h
      split_ifs at h with hbelow hinside
      · cases h
      · exact ⟨(lo, hi), List.mem_cons_self, by rw [Outside]; omega⟩
      · obtain ⟨range, hrange, hin⟩ := ih h
        exact ⟨range, List.mem_cons_of_mem _ hrange, hin⟩

/-- Blanks are in ranges that the tables keep out of. -/
lemma exists_untouched_of_isBlank (h : isBlank c = true) :
    ∃ range, Untouched range ∧ ¬ Outside range c.toNat := by
  rw [isBlank, CodePointSet.contains, CodePointSet.containsCode, Bool.or_eq_true] at h
  obtain ⟨range, hrange, hin⟩ := exists_range_of_rangeAt (h.resolve_right (by simp [whiteSpace, rangeAt]))
  exact ⟨range, untouched_of_mem (List.mem_cons_of_mem _ hrange), hin⟩

lemma upperOf_of_isBlank (h : isBlank c = true) : upperOf c = [c] := by
  obtain ⟨range, huntouched, hin⟩ := exists_untouched_of_isBlank h
  exact huntouched.upperOf_eq hin

lemma isBlank_of_mem_upperOf (hd : d ∈ upperOf c) (hblank : isBlank d = true) : isBlank c = true := by
  obtain ⟨range, huntouched, hin⟩ := exists_untouched_of_isBlank hblank
  exact huntouched.eq_of_mem_upperOf hd hin ▸ hblank

lemma upperOf_paren : upperOf '(' = ['('] :=
  (untouched_of_mem List.mem_cons_self).upperOf_eq (by decide)

lemma eq_of_paren_mem_upperOf (h : '(' ∈ upperOf c) : c = '(' :=
  ((untouched_of_mem List.mem_cons_self).eq_of_mem_upperOf h (by decide)).symm

lemma upperOf_ne_nil (c : Char) : upperOf c ≠ [] := by
  have himages : toUpperExpansions.all (fun e => !e.2.isEmpty) = true := by rfl
  rw [upperOf]
  split
  next hfind =>
    have himage := List.all_eq_true.1 himages _ (List.mem_of_find?_eq_some hfind)
    exact mt List.map_eq_nil_iff.1 (by simpa using himage)
  next => exact List.cons_ne_nil _ _

/-! ## Cutting off before and after -/

section Conversion

variable {f : Char → List Char} {p : Char → Bool} {cs : List Char}

/-- What a conversion keeps apart can be cut off before it or after it. -/
lemma takeWhile_flatMap (hkept : ∀ c, p c = true → ∀ d ∈ f c, p d = true)
    (hcut : ∀ c, p c = false → f c = [c]) (cs : List Char) :
    (cs.flatMap f).takeWhile p = (cs.takeWhile p).flatMap f := by
  induction cs with
  | nil => rfl
  | cons c rest ih =>
      rw [List.flatMap_cons]
      cases hc : p c with
      | true =>
          rw [List.takeWhile_append_of_pos (hkept c hc), ih, List.takeWhile_cons_of_pos hc, List.flatMap_cons]
      | false =>
          have hc' : ¬ p c = true := by simp [hc]
          rw [hcut c hc, List.singleton_append, List.takeWhile_cons_of_neg hc',
            List.takeWhile_cons_of_neg hc', List.flatMap_nil]

lemma dropWhile_flatMap (hcut : ∀ c, p c = true → f c = [c])
    (hkept : ∀ c, p c = false → f c ≠ [] ∧ ∀ d ∈ f c, p d = false) (cs : List Char) :
    (cs.flatMap f).dropWhile p = (cs.dropWhile p).flatMap f := by
  induction cs with
  | nil => rfl
  | cons c rest ih =>
      rw [List.flatMap_cons]
      cases hc : p c with
      | true =>
          rw [hcut c hc, List.singleton_append, List.dropWhile_cons_of_pos hc, ih,
            List.dropWhile_cons_of_pos hc]
      | false =>
          obtain ⟨hne, hall⟩ := hkept c hc
          obtain ⟨d, ds, hd⟩ := List.exists_cons_of_ne_nil hne
          have hfirst : ¬ p d = true := by simp [hall d (hd ▸ List.mem_cons_self)]
          rw [List.dropWhile_cons_of_neg (by simp [hc]), List.flatMap_cons, hd, List.cons_append,
            List.dropWhile_cons_of_neg hfirst]

lemma trimBoth_flatMap (hcut : ∀ c, p c = true → f c = [c])
    (hkept : ∀ c, p c = false → f c ≠ [] ∧ ∀ d ∈ f c, p d = false) (cs : List Char) :
    trimBoth p (cs.flatMap f) = (trimBoth p cs).flatMap f := by
  -- the end is the front of the reversed text, and the conversion reversed
  have hend : ∀ ds : List Char, dropWhileEnd p (ds.flatMap f) = (dropWhileEnd p ds).flatMap f := by
    intro ds
    have hfront := dropWhile_flatMap (f := List.reverse ∘ f) (fun c hc => by simp [hcut c hc])
      (fun c hc => by simpa using hkept c hc) ds.reverse
    rw [dropWhileEnd, List.reverse_flatMap, hfront, List.reverse_flatMap, dropWhileEnd]
    congr 1
    funext c
    simp
  rw [trimBoth, dropWhile_flatMap hcut hkept, hend, trimBoth]

end Conversion

end SchemaCompiler.Text

/-!
# Sets of code points

The properties of the Unicode character database are sets of a few thousand to a hundred thousand
code points that fall into ranges.  This file fixes how such a set is written down and how membership
is decided; the tables themselves stand beside the property they describe.

* `CodePointSet` — ranges, and ranges of which only every second code point belongs, as in scripts
  where small and capital letters alternate.
* `CodePointSet.contains` — membership of a character.
-/

namespace SchemaCompiler.Text

/-- A set of code points as two ascending lists of closed ranges. -/
structure CodePointSet where
  /-- Every code point of these ranges belongs to the set. -/
  ranges : List (Nat × Nat)
  /-- Of these ranges the first code point belongs to the set and then every second one. -/
  alternating : List (Nat × Nat)

/-- The first of the ascending ranges that ends at `n` or later, if it also begins there. -/
def rangeAt : List (Nat × Nat) → Nat → Option (Nat × Nat)
  | [], _ => none
  | (lo, hi) :: rest, n => if n < lo then none else if n ≤ hi then some (lo, hi) else rangeAt rest n

/-- Whether a code point belongs to the set. -/
def CodePointSet.containsCode (s : CodePointSet) (n : Nat) : Bool :=
  (rangeAt s.ranges n).isSome ||
    match rangeAt s.alternating n with
    | some (lo, _) => (n - lo) % 2 == 0
    | none => false

/-- Whether a character belongs to the set. -/
def CodePointSet.contains (s : CodePointSet) (c : Char) : Bool := s.containsCode c.toNat

end SchemaCompiler.Text

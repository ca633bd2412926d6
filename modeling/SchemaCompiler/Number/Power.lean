/-!
# Powers of two and of ten

The bases of the double and of its text.  Both are written with `Nat.pow`, so that a definition that
uses them is one and the same term whatever algebra is imported beside it.

* `twoTo`, `tenTo` — the powers.
-/

namespace SchemaCompiler

/-- Two to the `n`-th: the end of the naturals of `n` bits. -/
def twoTo (n : Nat) : Nat := Nat.pow 2 n

/-- Ten to the `n`-th: the end of the naturals of `n` digits. -/
def tenTo (n : Nat) : Nat := Nat.pow 10 n

end SchemaCompiler

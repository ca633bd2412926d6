import SchemaCompiler.Number.Power

/-!
# Double precision numbers, exactly

A number with a fraction or an exponent is kept as the double that is nearest to it.  All arithmetic
here is on naturals and integers: a double is `significand · 2 ^ exponent`, and rounding a quotient is
a division with a look at the remainder.

* `Binary64` — a finite double.
* `nearest` — the double nearest to a quotient, the even one of two that are equally near; there is
  none when the quotient is too large.
* `ofDecimal` — the double nearest to a decimal number.
-/

namespace SchemaCompiler

/-- A finite double: `significand · 2 ^ exponent` with a sign.  The significand has at most 53 bits,
and fewer only under the least exponent, so that equal numbers of one sign are equal values. -/
structure Binary64 where
  negative : Bool
  significand : Nat
  exponent : Int
  deriving DecidableEq, Repr

namespace Binary64

/-- The least exponent of a double. -/
def leastExponent : Int := -1074

/-- The largest exponent of a double. -/
def largestExponent : Int := 971

/-- Zero with a sign. -/
def zero (negative : Bool) : Binary64 := ⟨negative, 0, leastExponent⟩

/-- `num / (den · 2 ^ e)` as a quotient of naturals. -/
def scaleDown (num den : Nat) (e : Int) : Nat × Nat :=
  (num * twoTo (-e).toNat, den * twoTo e.toNat)

/-- The natural nearest to a quotient, the even one of two that are equally near. -/
def roundHalfEven (num den : Nat) : Nat :=
  let q := num / den
  let r := num % den
  if 2 * r < den then q else if 2 * r > den then q + 1 else q + q % 2

/-- The exponent under which the significand of a quotient has 53 bits, or the least one. -/
def exponentFor (num den : Nat) : Int :=
  let guess : Int := (Nat.log2 num : Int) - (Nat.log2 den : Int) - 52
  let (n, d) := scaleDown num den guess
  max leastExponent (if n / d < twoTo 52 then guess - 1 else guess)

/-- The double nearest to `num / den` with `den` positive, or `none` if it is too large. -/
def nearest (negative : Bool) (num den : Nat) : Option Binary64 :=
  if num = 0 then some (zero negative)
  else
    let e := exponentFor num den
    let (n, d) := scaleDown num den e
    let q := roundHalfEven n d
    let (q, e) := if q = twoTo 53 then (twoTo 52, e + 1) else (q, e)
    if e > largestExponent then none else some ⟨negative, q, e⟩

/-- The size of a double as a quotient of naturals. -/
def ratio (x : Binary64) : Nat × Nat :=
  (x.significand * twoTo x.exponent.toNat, twoTo (-x.exponent).toNat)

/-- Whether a double is a zero of either sign. -/
def isZero (x : Binary64) : Bool := x.significand == 0

/-- The double nearest to `digits · 10 ^ exponent`, or `none` if it is too large.  An exponent that
puts the number beyond all doubles is not expanded. -/
def ofDecimal (negative : Bool) (digits : Nat) (exponent : Int) : Option Binary64 :=
  let size : Int := (Nat.toDigits 10 digits).length + exponent
  if digits = 0 || size < -400 then some (zero negative)
  else if size > 400 then none
  else nearest negative (digits * tenTo exponent.toNat) (tenTo (-exponent).toNat)

end Binary64

end SchemaCompiler

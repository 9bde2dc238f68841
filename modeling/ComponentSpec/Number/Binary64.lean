import ComponentSpec.Number.Rounding

/-!
# Binary floating-point numbers

The numbers of the binary64 format as a type of their own, with the few operations that checks and
reports need.  A finite number is a sign and `significand * 2 ^ exponent`; every operation is exact
rational arithmetic rounded once, to the nearest number of the format with halves going to the even
significand.

Numbers produced here are normalised: the significand has 53 bits, or fewer at the least exponent.
-/

namespace ComponentSpec

/-- A number of the binary64 format; all not-a-number patterns are one. -/
inductive Binary64
  | nan
  | infinite (negative : Bool)
  | finite (negative : Bool) (significand : Nat) (exponent : Int)
  deriving DecidableEq, Repr, Inhabited

namespace Binary64

/-- The exponent of the least positive number. -/
def leastExponent : Int := -1074

/-- The greatest exponent of a normalised number. -/
def greatestExponent : Int := 971

/-- The zero of the given sign. -/
def zero (negative : Bool) : Binary64 :=
  .finite negative 0 leastExponent

/-! ## Rounding rationals -/

/-- The quotient `num / den` divided by a power of two, as numerator and denominator. -/
def scaleDown (num den : Nat) (e : Int) : Nat × Nat :=
  if 0 ≤ e then (num, den * Nat.pow 2 e.toNat) else (num * Nat.pow 2 (-e).toNat, den)

/-- The exponent at which the significand of `num / den` has 53 bits, or the least exponent. -/
def exponentOf (num den : Nat) : Int :=
  let e := (num.log2 : Int) - (den.log2 : Int) - 52
  let (n, d) := scaleDown num den e
  max (if n / d < Nat.pow 2 52 then e - 1 else e) leastExponent

/-- A number from its rounded significand: a carry into the 54th bit raises the exponent, and an
exponent beyond the format gives infinity. -/
def pack (negative : Bool) (significand : Nat) (e : Int) : Binary64 :=
  let (s, e) :=
    if significand == Nat.pow 2 53 then (Nat.pow 2 52, e + 1) else (significand, e)
  if greatestExponent < e then .infinite negative else .finite negative s e

/-- The number nearest to `num / den` with the given sign. -/
def ofRatio (negative : Bool) (num den : Nat) : Binary64 :=
  if num == 0 then zero negative
  else
    let e := exponentOf num den
    let (n, d) := scaleDown num den e
    pack negative (roundHalfEven n d) e

/-- The number nearest to an integer. -/
def ofInt (n : Int) : Binary64 :=
  ofRatio (n < 0) n.natAbs 1

/-- The number nearest to `coefficient * 10 ^ exponent` with the given sign.  Exponents far beyond
the format are decided without computing the power. -/
def ofDecimal (negative : Bool) (coefficient : Nat) (exponent : Int) : Binary64 :=
  -- `2 ^ bits` is at most the coefficient and more than half of it, and sixteen exceeds ten.
  let bits : Int := coefficient.log2
  if coefficient == 0 || bits + exponent < -400 then zero negative
  else if 400 < bits / 4 + exponent then .infinite negative
  else if 0 ≤ exponent then ofRatio negative (coefficient * Nat.pow 10 exponent.toNat) 1
  else ofRatio negative coefficient (Nat.pow 10 (-exponent).toNat)

/-! ## The rational value -/

/-- The magnitude of a finite number as numerator and denominator. -/
def magnitude (significand : Nat) (e : Int) : Nat × Nat :=
  if 0 ≤ e then (significand * Nat.pow 2 e.toNat, 1) else (significand, Nat.pow 2 (-e).toNat)

/-- The value of a finite number. -/
def finiteValue (negative : Bool) (significand : Nat) (e : Int) : Rat :=
  let (n, d) := magnitude significand e
  mkRat (if negative then -(n : Int) else n) d

/-- The number nearest to a rational; zero takes the given sign. -/
def ofRat (negativeZero : Bool) (q : Rat) : Binary64 :=
  if q.num == 0 then zero negativeZero else ofRatio (q.num < 0) q.num.natAbs q.den

/-! ## Arithmetic -/

/-- The number of the opposite sign. -/
def neg : Binary64 → Binary64
  | nan => nan
  | infinite negative => infinite (!negative)
  | finite negative s e => finite (!negative) s e

/-- The sum of two numbers. -/
def add : Binary64 → Binary64 → Binary64
  | nan, _ => nan
  | _, nan => nan
  | infinite a, infinite b => if a == b then infinite a else nan
  | infinite a, finite .. => infinite a
  | finite .., infinite b => infinite b
  | finite a s e, finite b t f =>
      ofRat (a && b) (finiteValue a s e + finiteValue b t f)

/-- The difference of two numbers. -/
def sub (x y : Binary64) : Binary64 :=
  add x y.neg

/-- The product of two numbers. -/
def mul : Binary64 → Binary64 → Binary64
  | nan, _ => nan
  | _, nan => nan
  | infinite a, infinite b => infinite (a != b)
  | infinite a, finite b s _ => if s == 0 then nan else infinite (a != b)
  | finite a s _, infinite b => if s == 0 then nan else infinite (a != b)
  | finite a s e, finite b t f => ofRat (a != b) (finiteValue a s e * finiteValue b t f)

/-- The quotient of a number by a positive natural number. -/
def divNat : Binary64 → Nat → Binary64
  | nan, _ => nan
  | infinite a, _ => infinite a
  | finite a s e, n =>
      let (num, den) := magnitude s e
      ofRatio a num (den * n)

/-- Whether the number is a zero of either sign. -/
def isZero : Binary64 → Bool
  | finite _ s _ => s == 0
  | _ => false

theorem neg_neg (x : Binary64) : x.neg.neg = x := by
  cases x <;> simp [neg]

theorem ofRatio_zero (negative : Bool) (den : Nat) : ofRatio negative 0 den = zero negative := rfl

example : ofRatio false 1 10 = .finite false 7205759403792794 (-56) := by decide +kernel

example : ofInt 9007199254740993 = .finite false 4503599627370496 1 := by decide +kernel

end Binary64
end ComponentSpec

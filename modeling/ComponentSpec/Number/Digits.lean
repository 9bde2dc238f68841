import ComponentSpec.Number.Binary64

/-!
# Decimal digits of binary numbers

Two ways to choose decimal digits for a positive number given as a quotient: the fewest digits that
read back as the same binary number, and a fixed count of leading digits.  Both give a `Significant`
value, which a `Layout` then writes positionally or with an exponent.

The shortest choice tests each candidate by reading it (`Significant.readsBack`), so its digits have
the value of the number whenever seventeen of them do.
-/

namespace ComponentSpec

/-- The digits of a natural number, most significant first. -/
def decimalDigits (n : Nat) : List Char :=
  Nat.toDigits 10 n

/-- Leading digits and the decimal exponent of the first of them. -/
structure Significant where
  digits : List Char
  exponent : Int
  deriving DecidableEq, Repr

namespace Significant

/-- The exponent `k` with `10 ^ k ≤ num / den < 10 ^ (k + 1)`, for a positive quotient. -/
def decimalExponent (num den : Nat) : Int :=
  if den ≤ num then ((decimalDigits (num / den)).length : Int) - 1
  else
    -- The least `m` with `den ≤ m * num`; the digits of `m - 1` count the powers of ten below it.
    let below := (den + num - 1) / num - 1
    Int.neg (decimalDigits below).length

/-- The quotient `num / den` in units of `10 ^ e`, as numerator and denominator. -/
def inUnits (num den : Nat) (e : Int) : Nat × Nat :=
  if 0 ≤ e then (num, den * Nat.pow 10 e.toNat) else (num * Nat.pow 10 (-e).toNat, den)

/-- Removes the zeros at the end, but not the first digit. -/
def stripZeros (digits : List Char) : List Char :=
  match digits with
  | [] => []
  | d :: rest => d :: (rest.reverse.dropWhile (· == '0')).reverse

/-- The digits of `coefficient * 10 ^ e` without zeros at the end. -/
def ofCoefficient (coefficient : Nat) (e : Int) : Significant :=
  let digits := decimalDigits coefficient
  { digits := stripZeros digits, exponent := e + digits.length - 1 }

/-- The quotient rounded to a count of leading digits. -/
def rounded (count num den : Nat) : Significant :=
  let e := decimalExponent num den - count + 1
  let (n, d) := inUnits num den e
  ofCoefficient (roundHalfEven n d) e

/-- The two neighbours of a quotient among the whole numbers, the nearer one first. -/
def neighbours (num den : Nat) : List Nat :=
  let below := num / den
  let nearest := roundHalfEven num den
  [nearest, if nearest == below then below + 1 else below]

/-- The neighbour with `count` digits that reads back as `x`, if there is one. -/
def readsBack (x : Binary64) (num den count : Nat) : Option Significant :=
  let e := decimalExponent num den - count + 1
  let (n, d) := inUnits num den e
  (neighbours n d).findSome? fun coefficient =>
    if Binary64.ofDecimal false coefficient e == x then some (ofCoefficient coefficient e)
    else none

/-- The fewest digits that read back as the positive number `significand * 2 ^ e`; seventeen always
suffice. -/
def shortest (significand : Nat) (e : Int) : Significant :=
  let (num, den) := Binary64.magnitude significand e
  let x := Binary64.finite false significand e
  ((List.range 16).findSome? fun i => readsBack x num den (i + 1)).getD (rounded 17 num den)

end Significant

/-! ## Writing digits -/

/-- How leading digits are written: positionally for the decimal exponents from `least` up to and
without `beyond`, else with an exponent of two digits at least; `wholeMark` adds a point and a zero
to whole numbers. -/
structure Layout where
  least : Int
  beyond : Int
  wholeMark : Bool

namespace Layout

/-- Numbers of data show every digit that matters, positionally below ten quadrillion, and a whole
number shows that it is not an integer. -/
def full : Layout := ⟨-4, 16, true⟩

/-- Numbers of messages show six digits, positionally below a million, and no needless point. -/
def brief : Layout := ⟨-4, 6, false⟩

/-- An exponent with its sign and two digits at least. -/
def exponentText (e : Int) : List Char :=
  let digits := decimalDigits e.natAbs
  'e' :: (if e < 0 then '-' else '+') :: (if digits.length < 2 then '0' :: digits else digits)

/-- The text of a positive number. -/
def write (layout : Layout) (s : Significant) : List Char :=
  if s.exponent < layout.least || layout.beyond ≤ s.exponent then
    match s.digits with
    | [] => []
    | [d] => d :: exponentText s.exponent
    | d :: rest => d :: '.' :: rest ++ exponentText s.exponent
  else if s.exponent < 0 then
    '0' :: '.' :: List.replicate (-s.exponent - 1).toNat '0' ++ s.digits
  else
    let count := s.exponent.toNat + 1
    let whole := (s.digits ++ List.replicate (count - s.digits.length) '0').take count
    let fraction := s.digits.drop count
    if fraction.isEmpty then
      if layout.wholeMark then whole ++ ['.', '0'] else whole
    else
      whole ++ '.' :: fraction

end Layout

namespace Binary64

/-- A number with the digits chosen by `choose` and written in a layout. -/
def writeWith (layout : Layout) (choose : Nat → Int → Significant) : Binary64 → String
  | nan => "nan"
  | infinite negative => if negative then "-inf" else "inf"
  | finite negative s e =>
      let digits : Significant := if s == 0 then ⟨['0'], 0⟩ else choose s e
      String.ofList ((if negative then ['-'] else []) ++ layout.write digits)

/-- The shortest text that reads back as the number. -/
def toText (x : Binary64) : String :=
  x.writeWith Layout.full Significant.shortest

/-- The number with six leading digits, as messages show it. -/
def toBriefText (x : Binary64) : String :=
  x.writeWith Layout.brief fun s e =>
    let (num, den) := magnitude s e
    Significant.rounded 6 num den

/-- The number with a fixed count of decimal places. -/
def toPlaces (places : Nat) : Binary64 → String
  | nan => "nan"
  | infinite negative => if negative then "-inf" else "inf"
  | finite negative s e =>
      let (num, den) := magnitude s e
      let digits := decimalDigits (roundHalfEven (num * Nat.pow 10 places) den)
      let digits := List.replicate (places + 1 - digits.length) '0' ++ digits
      let whole := digits.take (digits.length - places)
      let fraction := digits.drop (digits.length - places)
      let point := if places == 0 then [] else ['.']
      String.ofList ((if negative then ['-'] else []) ++ whole ++ point ++ fraction)

example : (ofDecimal false 1 (-1)).toText = "0.1" := by decide +kernel

example : (ofDecimal true 5 (-324)).toText = "-5e-324" := by decide +kernel

example : (ofDecimal false 1 16).toText = "1e+16" := by decide +kernel

example : (ofDecimal false 44 0).toBriefText = "44" := by decide +kernel

example : (ofDecimal false 1234567 0).toBriefText = "1.23457e+06" := by decide +kernel

example : (ofDecimal false 25 (-1)).toPlaces 0 = "2" := by decide +kernel

end Binary64
end ComponentSpec

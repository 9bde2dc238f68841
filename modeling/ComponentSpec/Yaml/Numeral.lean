import ComponentSpec.Number.Numeral
import ComponentSpec.Reading.Scalar
import ComponentSpec.Yaml.Cursor
import ComponentSpec.Yaml.Error

/-!
# Numerals of YAML

The numbers that scalars spell once their tag is known.  Low lines count for nothing.  An integer is
binary, octal, hexadecimal, decimal, or in parts of sixty between colons; its digits may be of any
script.  A number with a point may be in parts of sixty as well, and is then added up from its last
part on.
-/

namespace ComponentSpec
namespace Yaml
namespace Numeral

open Reading

/-- The text with the digits of all scripts as the usual ones. -/
def withUsualDigits (s : List Char) : List Char :=
  s.map fun c => ((Text.digitValue? c).map Nat.digitChar).getD c

/-- The letter that may announce a base after a zero. -/
def baseLetter? (base : Nat) : Option Char :=
  [(2, 'b'), (8, 'o'), (16, 'x')].lookup base

/-- The text without the announcement of a base. -/
def dropBase (base : Nat) : List Char → List Char
  | '0' :: c :: rest => if some c.toLower == baseLetter? base then rest else '0' :: c :: rest
  | s => s

/-- The value of a digit in a base. -/
def digitIn? (base : Nat) (c : Char) : Option Nat :=
  (hexDigit? c).bind fun d => if d < base then some d else none

/-- The integer that a text spells in a base.  Only decimal digits are limited in number. -/
def integerIn (base : Nat) (s : List Char) : Except Error Int :=
  let (negative, rest) := spanSign (stripSpaces (withUsualDigits s))
  match (dropBase base rest).mapM (digitIn? base) with
  | none => throw .noSuchValue
  | some digits =>
      if digits.isEmpty || (base == 10 && Fault.digitLimit < digits.length) then
        throw .noSuchValue
      else
        let n := digits.foldl (fun n d => base * n + d) 0
        return if negative then -(n : Int) else n

/-- The integer that a text without an outer sign spells. -/
def unsignedInteger (s : List Char) : Except Error Int :=
  match s with
  | [] => throw .emptyNumeral
  | ['0'] => return 0
  | '0' :: 'b' :: rest => integerIn 2 rest
  | '0' :: 'x' :: rest => integerIn 16 rest
  | '0' :: rest => integerIn 8 ('0' :: rest)
  | _ => do
      let parts ← (Text.pieces ':' s).mapM (integerIn 10)
      return parts.foldl (fun n part => 60 * n + part) 0

/-- The integer that a text spells. -/
def integer (s : List Char) : Except Error Int := do
  let s := s.filter (· != '_')
  if s.isEmpty then throw .emptyNumeral
  let (negative, rest) := spanSign s
  let n ← unsignedInteger rest
  return if negative then -n else n

/-- The number that a text spells as a decimal or by a word. -/
def plainReal (s : List Char) : Except Error Binary64 :=
  match spelledReal? (stripSpaces (withUsualDigits s)) with
  | some x => return x
  | none => throw .noSuchValue

/-- The sum of parts of sixty, of which the last comes first; `weight` is that of the first. -/
def addParts (sum : Binary64) (weight : Nat) : List Binary64 → Except Error Binary64
  | [] => return sum
  | part :: rest =>
      match Binary64.ofInt weight with
      | .infinite _ => throw .tooLarge
      | w => addParts (sum.add (part.mul w)) (60 * weight) rest

/-- The number that a text with a point spells; nothing for the word of not-a-number. -/
def real? (s : List Char) : Except Error (Option Binary64) := do
  let s := (s.filter (· != '_')).map Char.toLower
  if s.isEmpty then throw .emptyNumeral
  let (negative, rest) := spanSign s
  if rest == ".nan".toList then return none
  let x ←
    if rest == ".inf".toList then pure (.infinite false)
    else if rest.contains ':' then do
      let parts ← (Text.pieces ':' rest).mapM plainReal
      addParts (.zero false) 1 parts.reverse
    else plainReal rest
  return some (if negative then x.neg else x)

end Numeral
end Yaml
end ComponentSpec

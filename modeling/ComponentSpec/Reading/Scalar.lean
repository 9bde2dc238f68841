import ComponentSpec.Reading.Spelling

/-!
# Reading texts, numbers and flags

A text is read from texts only.  Numbers and flags are also read from each other and from texts that
spell them.
-/

namespace ComponentSpec
namespace Reading

/-- Reads a text. -/
def text : Datum → Reading String
  | .text s => pure s
  | _ => refuse .notText

/-- Reads a text that is one of the words of some options. -/
def option {α : Type} (options : List α) (word : α → String) : Datum → Reading α
  | .text s =>
      match options.find? fun a => word a == s with
      | some a => pure a
      | none => refuse .notOption
  | _ => refuse .notOption

/-! ## Numbers -/

/-- Reads a number of the binary format. -/
def real : Datum → Reading Binary64
  | .number (.real x) => pure x
  | .number (.whole n) =>
      -- An integer beyond the binary format is refused and not made infinite.
      match Binary64.ofInt n with
      | .infinite _ => refuse .notReal
      | x => pure x
  | .flag b => pure (Binary64.ofInt (if b then 1 else 0))
  | .text s =>
      match realOfText? s.toList with
      | some x => pure x
      | none => refuse .unreadableReal
  | _ => refuse .notReal

/-- The integer that a finite number is, if it is one. -/
def integerOfReal? (negative : Bool) (significand : Nat) (e : Int) : Option Int :=
  let q := Binary64.finiteValue negative significand e
  if q.den == 1 then some q.num else none

/-- Reads an integer. -/
def integer : Datum → Reading Int
  | .number (.whole n) => pure n
  | .number (.real (.finite negative s e)) =>
      match integerOfReal? negative s e with
      | some n => if n.natAbs < Nat.pow 2 63 then pure n else refuse .fractionalInteger
      | none => refuse .fractionalInteger
  | .number (.real _) => refuse .unboundedInteger
  | .flag b => pure (if b then 1 else 0)
  | .text s =>
      match integerOfText s.toList with
      | .ok n => pure n
      | .error defect => refuse defect
  | _ => refuse .notInteger

/-! ## Flags -/

/-- The words for true, in small letters. -/
def trueWords : List String := ["1", "true", "t", "yes", "y", "on"]

/-- The words for false, in small letters. -/
def falseWords : List String := ["0", "false", "f", "no", "n", "off"]

/-- The flag that an integer stands for. -/
def flagOfInteger (n : Int) : Reading Bool :=
  if n == 0 then pure false else if n == 1 then pure true else refuse .unreadableFlag

/-- Reads a flag. -/
def flag : Datum → Reading Bool
  | .flag b => pure b
  | .number (.whole n) =>
      match Binary64.ofInt n with
      | .infinite _ => refuse .notFlag
      | _ => flagOfInteger n
  | .number (.real (.finite negative s e)) =>
      match integerOfReal? negative s e with
      | some n => flagOfInteger n
      | none => refuse .notFlag
  | .text s =>
      let word := String.ofList (s.toList.map Char.toLower)
      if trueWords.contains word then pure true
      else if falseWords.contains word then pure false
      else refuse .unreadableFlag
  | _ => refuse .notFlag

end Reading
end ComponentSpec

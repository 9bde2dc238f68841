import ComponentSpec.Number.Numeral
import ComponentSpec.Reading.Basic
import ComponentSpec.Text.Scan

/-!
# Spelled numbers

A text spells a number with ASCII digits, between which single low lines may stand, and with spaces
around it.

A real number has digits on one side of the point at least, and perhaps an exponent; infinity and
what is no number are spelled by words.  An integer may have a point with at least one zero after it
and nothing else.  Zeros before its digits count for nothing, except that a minus sign allows none.

Main statement: taking away leading zeros lengthens no text (`length_of_withoutZeros?`).
-/

namespace ComponentSpec
namespace Reading

open Text

/-- Whether the character is a blank other than the four information separators. -/
def isSpace (c : Char) : Bool :=
  isBlank c && !(28 ≤ c.toNat && c.toNat ≤ 31)

/-- The text without spaces at its ends. -/
def stripSpaces (s : List Char) : List Char :=
  ((s.dropWhile isSpace).reverse.dropWhile isSpace).reverse

/-- The text without its low lines, which must be single and may not stand at an end. -/
def dropLowLines? (s : List Char) : Option (List Char) :=
  if s.head? == some '_' || s.getLast? == some '_' || occurs ['_', '_'] s then none
  else some (s.filter (· != '_'))

/-- The values of the ASCII digits at the beginning of a text, and the text after them. -/
def spanAsciiDigits (s : List Char) : List Nat × List Char :=
  ((s.takeWhile Char.isDigit).map fun c => c.toNat - 48, s.dropWhile Char.isDigit)

/-! ## Real numbers -/

/-- The exponent that a text consists of; no text is the exponent zero. -/
def exponent? : List Char → Option Int
  | [] => some 0
  | c :: rest =>
      if c.toLower == 'e' then
        let (negative, rest) := spanSign rest
        match spanAsciiDigits rest with
        | ([], _) => none
        | (digits, []) =>
            let n : Int := natOfDigits digits
            some (if negative then -n else n)
        | _ => none
      else none

/-- The number that a text without spaces and low lines spells. -/
def spelledReal? (s : List Char) : Option Binary64 :=
  let (negative, rest) := spanSign s
  let word := rest.map Char.toLower
  if word == "inf".toList || word == "infinity".toList then some (.infinite negative)
  else if word == "nan".toList then some .nan
  else
    let (whole, rest) := spanAsciiDigits rest
    let (fraction, rest) :=
      match rest with
      | '.' :: rest => spanAsciiDigits rest
      | _ => ([], rest)
    if whole.isEmpty && fraction.isEmpty then none
    else
      (exponent? rest).map fun e =>
        .ofDecimal negative (natOfDigits (whole ++ fraction)) (e - fraction.length)

/-- The number that a text spells. -/
def realOfText? (s : List Char) : Option Binary64 :=
  (spelledReal? (stripSpaces s)).or
    ((dropLowLines? s).bind fun s => spelledReal? (stripSpaces s))

/-! ## Integers -/

/-- The text after leading zeros, of which `last` is the latest character.  Low lines may stand
between them.  The latest character stays unless another digit follows. -/
def afterZeros? (last : Char) : List Char → Option (List Char)
  | [] => some [last]
  | c :: rest =>
      if c == '0' || c == '_' then afterZeros? c rest
      else if c == '.' then some (last :: c :: rest)
      else if c.isDigit then some (c :: rest)
      else none

/-- The text without leading zeros; it must begin with a digit or a minus sign. -/
def withoutZeros? : List Char → Option (List Char)
  | [] => none
  | c :: rest =>
      if c == '0' then afterZeros? c rest
      else if c == '-' || c.isDigit then some (c :: rest)
      else none

theorem length_of_afterZeros? {last : Char} {s t : List Char}
    (h : afterZeros? last s = some t) : t.length ≤ s.length + 1 := by
  induction s generalizing last with
  | nil =>
    simp only [afterZeros?, Option.some.injEq] at h
    simp [← h]
  | cons c rest ih =>
    rw [afterZeros?] at h
    split at h
    · have := ih h
      simp only [List.length_cons]
      omega
    · split at h
      · cases h
        simp
      · split at h
        · cases h
          simp
        · cases h

theorem length_of_withoutZeros? {s t : List Char} (h : withoutZeros? s = some t) :
    t.length ≤ s.length := by
  cases s with
  | nil => simp [withoutZeros?] at h
  | cons c rest =>
    rw [withoutZeros?] at h
    split at h
    · exact length_of_afterZeros? h
    · split at h
      · cases h
        exact Nat.le_refl _
      · cases h

/-- The text without a point that only zeros follow, one at least. -/
def withoutDecimals (s : List Char) : List Char :=
  match s.dropWhile (· != '.') with
  | _ :: '0' :: zeros => if zeros.all (· == '0') then s.takeWhile (· != '.') else s
  | _ => s

/-- The digits of a spelled integer, perhaps after a minus sign, without all that may be left
out. -/
def plainDigits? (s : List Char) : Option (List Char) := do
  let s ←
    match stripSpaces s with
    | '+' :: '-' :: _ => none
    | '+' :: rest => some rest
    | s => some s
  let s := withoutDecimals (← withoutZeros? s)
  return (dropLowLines? s).getD s

/-- The most characters of a spelled integer, with its sign. -/
def lengthLimit : Nat := 4300

/-- The integer that a text spells, or what is wrong with the text. -/
def integerOfText (s : List Char) : Except Defect Int := do
  let some s := plainDigits? s | throw .unreadableInteger
  let (negative, rest) := spanSign s
  let digits := rest.takeWhile Char.isDigit
  if rest == ['0'] then return 0
  else if digits.isEmpty || digits.head? == some '0' then throw .unreadableInteger
  else if lengthLimit < digits.length + (if negative then 1 else 0) then throw .oversizedInteger
  else if digits.length < rest.length then throw .unreadableInteger
  else
    let n : Int := natOfDigits (spanAsciiDigits digits).1
    return if negative then -n else n

end Reading
end ComponentSpec

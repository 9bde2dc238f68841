import ComponentSpec.Text.Blank
import ComponentSpec.Text.Digit
import ComponentSpec.Number.Basic

/-!
# Reading numerals

Decimal numerals in text, with the digits of any script: a number at the beginning of a text, as in
the size `48px`, and a text that is a decimal as a whole.

Main statement: the digits at the beginning of a text are exactly those before the first character
that is no digit (`spanDigits_append`).
-/

namespace ComponentSpec

open Text

/-- The values of the digits at the beginning of a text, and the text after them. -/
def spanDigits : List Char → List Nat × List Char
  | [] => ([], [])
  | c :: rest =>
      match digitValue? c with
      | some d => ((d :: (spanDigits rest).1), (spanDigits rest).2)
      | none => ([], c :: rest)

/-- The natural number with these digits. -/
def natOfDigits (digits : List Nat) : Nat :=
  digits.foldl (fun n d => 10 * n + d) 0

theorem spanDigits_append {s rest : List Char} (hs : ∀ c ∈ s, isDigit c = true)
    (hrest : ∀ c, rest.head? = some c → isDigit c = false) :
    spanDigits (s ++ rest) = (s.filterMap digitValue?, rest) := by
  induction s with
  | nil =>
      cases rest with
      | nil => rfl
      | cons c rest =>
          have hc := hrest c rfl
          rw [isDigit, Option.isSome_eq_false_iff, Option.isNone_iff_eq_none] at hc
          simp [spanDigits, hc]
  | cons c s ih =>
      have hc := hs c (List.mem_cons_self ..)
      obtain ⟨d, hd⟩ := Option.isSome_iff_exists.1 hc
      simp [spanDigits, hd, ih fun c hc => hs c (List.mem_cons_of_mem _ hc)]

/-- Whether a text begins with a minus sign, and the text after a sign of either kind. -/
def spanSign : List Char → Bool × List Char
  | '-' :: rest => (true, rest)
  | '+' :: rest => (false, rest)
  | s => (false, s)

/-- The number with these digits before and after the point. -/
def decimal (negative : Bool) (whole fraction : List Nat) : Binary64 :=
  .ofDecimal negative (natOfDigits (whole ++ fraction)) (-(fraction.length : Int))

/-! ## Numbers at the beginning of a text -/

/-- The integer that a text begins with, after blanks and a sign; too long a numeral is a fault. -/
def leadingInt (s : List Char) : Except Fault (Option Int) :=
  let (negative, rest) := spanSign (trimLeft s)
  let digits := (spanDigits rest).1
  if digits.isEmpty then pure none
  else if Fault.digitLimit < digits.length then throw (.numeralTooLong digits.length)
  else
    let n : Int := natOfDigits digits
    pure (some (if negative then -n else n))

/-- The decimal number that a text begins with, after blanks and a sign.  Digits may be missing on
one side of the point. -/
def leadingReal? (s : List Char) : Option Binary64 :=
  let (negative, rest) := spanSign (trimLeft s)
  match spanDigits rest with
  | ([], '.' :: rest) =>
      let fraction := (spanDigits rest).1
      if fraction.isEmpty then none else some (decimal negative [] fraction)
  | ([], _) => none
  | (whole, '.' :: rest) => some (decimal negative whole (spanDigits rest).1)
  | (whole, _) => some (decimal negative whole [])

/-! ## Texts that are decimals -/

/-- The value of a text of digits with one point at most and one digit at least. -/
def wholeReal? (s : List Char) : Option Binary64 :=
  match spanDigits s with
  | (whole, []) => if whole.isEmpty then none else some (decimal false whole [])
  | (whole, '.' :: rest) =>
      match spanDigits rest with
      | (fraction, []) =>
          if whole.isEmpty && fraction.isEmpty then none else some (decimal false whole fraction)
      | _ => none
  | _ => none

/-- The value of a text of digits, or of digits on both sides of a point. -/
def strictReal? (s : List Char) : Option Binary64 :=
  match spanDigits s with
  | ([], _) => none
  | (whole, []) => some (decimal false whole [])
  | (whole, '.' :: rest) =>
      match spanDigits rest with
      | ([], _) => none
      | (fraction, []) => some (decimal false whole fraction)
      | _ => none
  | _ => none

end ComponentSpec

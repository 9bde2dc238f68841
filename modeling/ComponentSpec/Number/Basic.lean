import ComponentSpec.Fault
import ComponentSpec.Number.Digits

/-!
# Numbers

A number of data is an integer of any size or a binary number, and the two kinds stay apart: an
integer limit is reported as an integer.  They are compared by their exact values, so an integer
beyond the binary range is still compared correctly; a comparison with not-a-number never holds.

Main statements: `le` and `lt` on integers are those of the integers (`le_whole`, `lt_whole`), and
not-a-number is in neither relation (`le_nan`, `nan_le`).
-/

namespace ComponentSpec

/-- An integer or a binary number. -/
inductive Number
  | whole (n : Int)
  | real (x : Binary64)
  deriving DecidableEq, Repr, Inhabited

/-- The place of a number on the line extended by its two ends. -/
inductive Place
  | start
  | at (q : Rat)
  | finish
  deriving DecidableEq

namespace Place

/-- The order of places. -/
def le : Place → Place → Bool
  | start, _ => true
  | _, finish => true
  | «at» p, «at» q => decide (p ≤ q)
  | _, _ => false

end Place

namespace Number

/-- The place of a number, which not-a-number has not. -/
def place? : Number → Option Place
  | whole n => some (.at n)
  | real .nan => none
  | real (.infinite negative) => some (if negative then .start else .finish)
  | real (.finite negative s e) => some (.at (Binary64.finiteValue negative s e))

/-- Whether the first number is at most the second. -/
def le (a b : Number) : Bool :=
  match a.place?, b.place? with
  | some p, some q => p.le q
  | _, _ => false

/-- Whether the first number is less than the second. -/
def lt (a b : Number) : Bool :=
  match a.place?, b.place? with
  | some p, some q => !q.le p
  | _, _ => false

/-- The smaller number; the first one unless the second is less. -/
def min (a b : Number) : Number :=
  if b.lt a then b else a

/-- Whether the number is zero. -/
def isZero : Number → Bool
  | whole n => n == 0
  | real x => x.isZero

/-- The number in the binary format. -/
def toBinary : Number → Binary64
  | whole n => Binary64.ofInt n
  | real x => x

/-- The binary form of a number that is to be shown; an integer beyond the format is a fault. -/
def toBinary? (a : Number) : Except Fault Binary64 :=
  match a, a.toBinary with
  | whole _, .infinite _ => throw .integerTooLarge
  | _, x => pure x

/-- The number divided by a positive natural number. -/
def divNat (a : Number) (n : Nat) : Except Fault Binary64 :=
  match a with
  | whole k =>
      match Binary64.ofRatio (k < 0) k.natAbs n with
      | .infinite _ => throw .quotientTooLarge
      | x => pure x
  | real x => pure (x.divNat n)

/-! ## Writing numbers -/

/-- The number with every digit that matters. -/
def toText : Number → String
  | whole n => toString n
  | real x => x.toText

/-- The number as messages show it, with six leading digits. -/
def brief (a : Number) : Except Fault String :=
  a.toBinary?.map Binary64.toBriefText

theorem le_whole (m n : Int) : (whole m).le (whole n) = decide (m ≤ n) := by
  have h : ((m : Rat) ≤ (n : Rat)) ↔ m ≤ n := Rat.intCast_le_intCast
  simp only [le, place?, Place.le, h]

theorem le_nan (a : Number) : a.le (real .nan) = false := by
  unfold le
  cases a.place? <;> rfl

theorem nan_le (a : Number) : (real .nan).le a = false := rfl

theorem lt_whole (m n : Int) : (whole m).lt (whole n) = decide (m < n) := by
  have h : ((n : Rat) ≤ (m : Rat)) ↔ n ≤ m := Rat.intCast_le_intCast
  simp only [lt, place?, Place.le, h]
  by_cases hmn : m < n
  · simp [hmn, Int.not_le.2 hmn]
  · simp [hmn, Int.not_lt.1 hmn]

end Number
end ComponentSpec

import ComponentSpec.Number.Numeral
import ComponentSpec.Yaml.Error

/-!
# Dates

A date is a day of the calendar, or a moment: a day with a time, and perhaps the offset of its time
zone in minutes.  Moments with an offset are the same when they are at the same time; a moment
without one is the same as none with one.

Main statements: the last day of a year is one day before the first of the next (`number_newYear`),
and a date is the same as itself (`isSame_self`).
-/

namespace ComponentSpec
namespace Yaml

/-- A day of the calendar. -/
structure Day where
  year : Nat
  month : Nat
  day : Nat
  deriving DecidableEq, Repr, Inhabited

namespace Day

/-- Whether the year has a day more than usual. -/
def isLeap (year : Nat) : Bool :=
  year % 4 == 0 && (year % 100 != 0 || year % 400 == 0)

/-- The number of days in each month of a year. -/
def monthLengths (year : Nat) : List Nat :=
  [31, if isLeap year then 29 else 28, 31, 30, 31, 30, 31, 31, 30, 31, 30, 31]

/-- Whether there is such a day. -/
def isValid (d : Day) : Bool :=
  1 ≤ d.year && 1 ≤ d.month && d.month ≤ 12 && 1 ≤ d.day &&
    d.day ≤ (monthLengths d.year).getD (d.month - 1) 0

/-- The number of days up to the end of a year. -/
def daysThrough (year : Nat) : Int :=
  365 * (year : Int) + (year / 4 : Nat) - (year / 100 : Nat) + (year / 400 : Nat)

/-- The number of days in the months before the day's month. -/
def daysBeforeMonth (d : Day) : Nat :=
  ((monthLengths d.year).take (d.month - 1)).foldl (· + ·) 0

/-- The number of the day in the calendar. -/
def number (d : Day) : Int :=
  daysThrough (d.year - 1) + d.daysBeforeMonth + d.day

theorem number_newYear {year : Nat} (h : 1 ≤ year) :
    number ⟨year + 1, 1, 1⟩ = number ⟨year, 12, 31⟩ + 1 := by
  obtain ⟨y, rfl⟩ : ∃ y, year = y + 1 := ⟨year - 1, by omega⟩
  by_cases hl : isLeap (y + 1) = true
  · have hl' := hl
    simp only [isLeap, Bool.and_eq_true, Bool.or_eq_true, beq_iff_eq, bne_iff_ne] at hl'
    simp [number, daysBeforeMonth, daysThrough, monthLengths, hl]
    omega
  · have hl' := hl
    simp only [isLeap, Bool.and_eq_true, Bool.or_eq_true, beq_iff_eq, bne_iff_ne] at hl'
    simp [number, daysBeforeMonth, daysThrough, monthLengths, hl]
    omega

end Day

/-- A date: a day, or a moment with the microseconds of its day and the offset in minutes. -/
inductive Date
  | day (d : Day)
  | moment (d : Day) (clock : Nat) (offset : Option Int)
  deriving DecidableEq, Repr, Inhabited

namespace Date

/-! ## Order -/

/-- The microseconds of a minute. -/
def minuteLength : Nat := 60000000

/-- The kind of a date; only dates of one kind are compared. -/
def kind : Date → Nat
  | day _ => 0
  | moment _ _ none => 1
  | moment _ _ (some _) => 2

/-- The place of a date among those of its kind. -/
def instant : Date → Int
  | day d => d.number
  | moment d clock offset => d.number * 1440 * minuteLength + clock - offset.getD 0 * minuteLength

/-- Whether two dates are the same. -/
def isSame (a b : Date) : Bool :=
  a.kind == b.kind && a.instant == b.instant

theorem isSame_self (a : Date) : a.isSame a = true := by
  simp [isSame]

/-! ## Writing -/

/-- A number with zeros before it up to a width. -/
def padded (width n : Nat) : List Char :=
  let digits := (toString n).toList
  List.replicate (width - digits.length) '0' ++ digits

/-- The text of a day. -/
def dayText (d : Day) : List Char :=
  padded 4 d.year ++ '-' :: padded 2 d.month ++ '-' :: padded 2 d.day

/-- The text of an offset. -/
def offsetText (offset : Int) : List Char :=
  (if offset < 0 then '-' else '+') :: padded 2 (offset.natAbs / 60) ++ ':' ::
    padded 2 (offset.natAbs % 60)

/-- The text of a time of day; a fraction is written in full or not at all. -/
def clockText (clock : Nat) : List Char :=
  let second := clock / 1000000
  let fraction := clock % 1000000
  padded 2 (second / 3600) ++ ':' :: padded 2 (second / 60 % 60) ++ ':' :: padded 2 (second % 60) ++
    if fraction == 0 then [] else '.' :: padded 6 fraction

/-- The text of a date. -/
def toText : Date → List Char
  | day d => dayText d
  | moment d clock offset =>
      dayText d ++ ' ' :: clockText clock ++ (offset.map offsetText).getD []

/-! ## Spellings -/

/-- The digits of a time of day, and its zone if it has one: the sign and the digits of an offset,
or nothing for the zone of the offset zero. -/
structure ClockSpelling where
  hour : List Char
  minute : List Char
  second : List Char
  fraction : List Char
  zone : Option (Option (Bool × List Char × List Char))

/-- The digits of a date. -/
structure Spelling where
  year : List Char
  month : List Char
  day : List Char
  clock : Option ClockSpelling

/-- The digits at the beginning of a text, whose count lies between two bounds, and the rest. -/
def takeDigits? (least most : Nat) (s : List Char) : Option (List Char × List Char) :=
  let digits := s.takeWhile Char.isDigit
  if least ≤ digits.length && digits.length ≤ most then some (digits, s.drop digits.length)
  else none

/-- The text after a given character. -/
def dropChar? (c : Char) : List Char → Option (List Char)
  | d :: rest => if d == c then some rest else none
  | [] => none

/-- Whether the character separates the parts of a date. -/
def isSpace (c : Char) : Bool := c == ' ' || c == '\t'

/-- The zone that a text spells as a whole. -/
def zoneOf? (s : List Char) : Option (Option (Option (Bool × List Char × List Char))) :=
  if s.isEmpty then some none
  else
    match s.dropWhile isSpace with
    | ['Z'] => some (some none)
    | sign :: rest => do
        guard (sign == '+' || sign == '-')
        let (hour, rest) ← takeDigits? 1 2 rest
        if rest.isEmpty then return some (some (sign == '-', hour, []))
        let (minute, rest) ← takeDigits? 2 2 (← dropChar? ':' rest)
        guard rest.isEmpty
        return some (some (sign == '-', hour, minute))
    | [] => none

/-- The time that a text spells as a whole. -/
def clockOf? (s : List Char) : Option ClockSpelling := do
  let (hour, s) ← takeDigits? 1 2 s
  let (minute, s) ← takeDigits? 2 2 (← dropChar? ':' s)
  let (second, s) ← takeDigits? 2 2 (← dropChar? ':' s)
  let (fraction, s) :=
    match s with
    | '.' :: rest => (rest.takeWhile Char.isDigit, rest.dropWhile Char.isDigit)
    | _ => ([], s)
  return { hour, minute, second, fraction, zone := ← zoneOf? s }

/-- The date that a text spells as a whole. -/
def spelling? (s : List Char) : Option Spelling := do
  let (year, s) ← takeDigits? 4 4 s
  let (month, s) ← takeDigits? 1 2 (← dropChar? '-' s)
  let (last, s) ← takeDigits? 1 2 (← dropChar? '-' s)
  match s with
  | [] => return { year, month, day := last, clock := none }
  | c :: rest =>
      if c == 'T' || c == 't' then
        return { year, month, day := last, clock := ← clockOf? rest }
      else
        guard (isSpace c)
        return { year, month, day := last, clock := ← clockOf? (rest.dropWhile isSpace) }

/-- Whether a text is a date without a tag: a day alone has two digits for its month and day. -/
def isSpelled (s : List Char) : Bool :=
  match spelling? s with
  | some spelling =>
      spelling.clock.isSome || (spelling.month.length == 2 && spelling.day.length == 2)
  | none => false

/-- The number with these digits. -/
def value (digits : List Char) : Nat :=
  natOfDigits (spanDigits digits).1

/-- The microseconds that the first six digits of a fraction of a second stand for. -/
def fractionValue (digits : List Char) : Nat :=
  let kept := digits.take 6
  value (kept ++ List.replicate (6 - kept.length) '0')

/-- The offset of a zone in minutes, which is less than a day. -/
def offsetOf (zone : Option (Bool × List Char × List Char)) : Except Error Int :=
  match zone with
  | none => pure 0
  | some (negative, hour, minute) =>
      let n := 60 * value hour + value minute
      if n < 1440 then pure (if negative then -(n : Int) else n) else throw .noSuchValue

/-- The moment of a time on a day. -/
def momentOf (d : Day) (clock : ClockSpelling) : Except Error Date := do
  let offset ← clock.zone.mapM offsetOf
  let hour := value clock.hour
  let minute := value clock.minute
  let second := value clock.second
  if hour < 24 && minute < 60 && second < 60 then
    let seconds := 3600 * hour + 60 * minute + second
    return moment d (1000000 * seconds + fractionValue clock.fraction) offset
  else throw .noSuchValue

/-- The text without a final line feed. -/
def dropLineFeed (s : List Char) : List Char :=
  if s.getLast? == some '\n' then s.dropLast else s

/-- The date that a text spells; a final line feed does not matter. -/
def ofText (s : List Char) : Except Error Date :=
  match spelling? (dropLineFeed s) with
  | none => throw .unknownDate
  | some spelling =>
      let d : Day := ⟨value spelling.year, value spelling.month, value spelling.day⟩
      if d.isValid then
        match spelling.clock with
        | none => pure (day d)
        | some clock => momentOf d clock
      else throw .noSuchValue

end Date
end Yaml
end ComponentSpec

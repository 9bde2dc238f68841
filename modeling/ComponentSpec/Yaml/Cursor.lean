/-!
# A place in a YAML text

The structure of a YAML text depends on columns and lines, so a reader keeps both beside the text
that is still to be read.  The end of the text counts as blank.
-/

namespace ComponentSpec
namespace Yaml

/-- Whether the character ends a line. -/
def isBreak (c : Char) : Bool :=
  c == '\n' || c == Char.ofNat 0x85 || c == Char.ofNat 0x2028 || c == Char.ofNat 0x2029

/-- Whether the character may stand in a YAML text at all. -/
def isAllowed (c : Char) : Bool :=
  let n := c.toNat
  n == 9 || n == 10 || n == 13 || (32 ≤ n && n ≤ 126) || n == 0x85 || (0xA0 ≤ n && n ≤ 0xFFFD) ||
    0x10000 ≤ n

/-- The value of a hexadecimal digit. -/
def hexDigit? (c : Char) : Option Nat :=
  if c.isDigit then some (c.toNat - 48)
  else
    let small := c.toLower
    if 'a' ≤ small && small ≤ 'f' then some (small.toNat - 87) else none

/-- The mark that may stand at the very beginning of a text and counts for nothing. -/
def orderMark : Char := Char.ofNat 0xFEFF

/-- Whether the character separates words, as the end of the text does. -/
def isGap : Option Char → Bool
  | none => true
  | some c => c == ' ' || c == '\t' || isBreak c

/-- A place in a text: what is still to be read, the length of the whole text, how many characters
were read, and where the place is. -/
structure Cursor where
  rest : List Char
  size : Nat
  index : Nat := 0
  line : Nat := 0
  column : Nat := 0

namespace Cursor

/-- The beginning of a text. -/
def ofText (text : List Char) : Cursor :=
  { rest := text, size := text.length }

/-- The number of characters that are still to be read. -/
def remaining (cursor : Cursor) : Nat :=
  cursor.size - cursor.index

/-- The character at a distance from the cursor. -/
def peek (cursor : Cursor) (distance : Nat) : Option Char :=
  cursor.rest[distance]?

/-- The cursor after its first character. -/
def next (cursor : Cursor) : Cursor :=
  match cursor.rest with
  | [] => cursor
  | c :: rest =>
      if isBreak c then
        { cursor with rest, index := cursor.index + 1, line := cursor.line + 1, column := 0 }
      else
        { cursor with
          rest
          index := cursor.index + 1
          column := if c == orderMark then cursor.column else cursor.column + 1 }

/-- The cursor after some characters. -/
def advance (cursor : Cursor) : Nat → Cursor
  | 0 => cursor
  | n + 1 => cursor.next.advance n

/-- The characters before the first that fails the test, and the cursor there. -/
def takeWhile (cursor : Cursor) (test : Char → Bool) : List Char × Cursor :=
  let taken := cursor.rest.takeWhile test
  (taken, cursor.advance taken.length)

/-- The cursor at the first character that fails the test. -/
def skipWhile (cursor : Cursor) (test : Char → Bool) : Cursor :=
  (cursor.takeWhile test).2

/-- The line break at the cursor, with the usual ones read as a line feed, and the cursor after it.
No character is read where there is none. -/
def lineBreak (cursor : Cursor) : List Char × Cursor :=
  match cursor.rest with
  | c :: _ =>
      if c == '\n' || c == Char.ofNat 0x85 then (['\n'], cursor.next)
      else if isBreak c then ([c], cursor.next)
      else ([], cursor)
  | [] => ([], cursor)

/-- Whether the character at a distance is blank, ends a line, or is missing. -/
def isGap (cursor : Cursor) (distance : Nat) : Bool :=
  Yaml.isGap (cursor.peek distance)

/-- Whether there is a line break at the cursor. -/
def atBreak (cursor : Cursor) : Bool :=
  (cursor.peek 0).any isBreak

/-- Whether three equal marks stand at the cursor with a gap after them. -/
def atTriple (cursor : Cursor) (mark : Char) : Bool :=
  cursor.rest.take 3 == [mark, mark, mark] && cursor.isGap 3

/-- Whether a document begins or ends at the cursor. -/
def atDocumentMark (cursor : Cursor) : Bool :=
  cursor.atTriple '-' || cursor.atTriple '.'

theorem length_next_le (cursor : Cursor) : cursor.next.rest.length ≤ cursor.rest.length := by
  unfold next
  split
  · exact Nat.le_refl _
  · split <;> simp_all

end Cursor
end Yaml
end ComponentSpec

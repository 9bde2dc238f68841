import ComponentSpec.Text.Quoted
import ComponentSpec.Yaml.Tag

/-!
# Styles of text

A text is written plain if it reads back as what it is, between single quotes if it has no special
characters, and between double quotes with escapes otherwise.  Bytes are written as a block.  Lines
are folded at a space once they are wider than eighty columns.
-/

namespace ComponentSpec
namespace Yaml

/-- How a text is written. -/
inductive TextStyle
  | plain
  | single
  | double
  | block
  deriving DecidableEq, Repr

namespace TextStyle

/-! ## The style of a text -/

/-- The column beyond which a line is folded. -/
def bestWidth : Nat := 80

/-- The characters that may not begin a plain text. -/
def leadingIndicators : List Char :=
  ['#', ',', '[', ']', '\x7b', '\x7d', '&', '*', '!', '|', '>', '\'', '"', '%', '@', '\x60']

/-- Whether a character after the first one makes a plain text unreadable, given its neighbours. -/
def breaksPlain (before c : Char) (after : Option Char) : Bool :=
  (c == ':' && isGap after) || (c == '#' && isGap (some before))

/-- Whether some character of the text after `before` makes a plain text unreadable. -/
def anyBreaksPlain (before : Char) : List Char → Bool
  | [] => false
  | c :: rest => breaksPlain before c rest.head? || anyBreaksPlain c rest

/-- Whether the marks in a text keep it from being plain. -/
def hasIndicators : List Char → Bool
  | [] => false
  | c :: rest =>
      let s := c :: rest
      s.take 3 == ['-', '-', '-'] || s.take 3 == ['.', '.', '.'] ||
        leadingIndicators.contains c ||
        (['?', ':', '-'].contains c && isGap rest.head?) || anyBreaksPlain c rest

/-- Whether a character is written as an escape. -/
def isSpecial (c : Char) : Bool :=
  let n := c.toNat
  !(c == '\n' || (0x20 ≤ n && n ≤ 0x7E) ||
    ((n == 0x85 || (0xA0 ≤ n && n ≤ 0xFFFD) || (0x10000 ≤ n && n < 0x10FFFF)) && n != 0xFEFF))

/-- Whether two characters with these properties follow each other in a text. -/
def hasNeighbours (first second : Char → Bool) (s : List Char) : Bool :=
  (s.zip s.tail).any fun (c, d) => first c && second d

/-- Whether a text may stand between single quotes. -/
def allowsSingle (s : List Char) : Bool :=
  !(s.any isSpecial || hasNeighbours isBreak (· == ' ') s || hasNeighbours (· == ' ') isBreak s)

/-- Whether a text may be plain in a block. -/
def allowsPlain (s : List Char) : Bool :=
  allowsSingle s && !s.any isBreak && !hasIndicators s && s.head? != some ' ' &&
    s.getLast? != some ' '

/-- The style of a text that is a scalar with a tag; a key has to stand on one line. -/
def ofScalar (tag : Tag) (isName : Bool) (s : List Char) : TextStyle :=
  let canStand := !isName || !(s.isEmpty || s.any isBreak)
  if tag == Tag.ofSpelling s && canStand && allowsPlain s then .plain
  else if tag == .binary && !isName && !s.isEmpty then .block
  else if allowsSingle s && !(isName && s.any isBreak) then .single
  else .double

/-! ## Folded lines -/

/-- A line break and the indentation of the next line. -/
def newLine (indent : Nat) : List Char :=
  '\n' :: List.replicate indent ' '

/-- Writes the rest of a plain text at a column, and folds it at single spaces. -/
def foldPlain (fold : Bool) (indent : Nat) : Nat → Nat → List Char → List Char
  | 0, _, _ => []
  | _, _, [] => []
  | fuel + 1, column, c :: rest =>
      if c == ' ' then
        let spaces := (c :: rest).takeWhile (· == ' ')
        let after := (c :: rest).dropWhile (· == ' ')
        if spaces.length == 1 && bestWidth < column && fold then
          newLine indent ++ foldPlain fold indent fuel indent after
        else spaces ++ foldPlain fold indent fuel (column + spaces.length) after
      else c :: foldPlain fold indent fuel (column + 1) rest

/-- Line breaks inside single quotes: one more than the text has, as a single one would be
folded. -/
def quotedBreaks (indent : Nat) (breaks : List Char) : List Char :=
  (if breaks.head? == some '\n' then ['\n'] else []) ++ breaks ++ List.replicate indent ' '

/-- Writes the rest of a text between single quotes at a column; `atStart` holds before the first
character. -/
def foldSingle (fold : Bool) (indent : Nat) : Nat → Bool → Nat → List Char → List Char
  | 0, _, _, _ => []
  | _, _, _, [] => []
  | fuel + 1, atStart, column, c :: rest =>
      if c == ' ' then
        let spaces := (c :: rest).takeWhile (· == ' ')
        let after := (c :: rest).dropWhile (· == ' ')
        if spaces.length == 1 && bestWidth < column && fold && !atStart && !after.isEmpty then
          newLine indent ++ foldSingle fold indent fuel false indent after
        else spaces ++ foldSingle fold indent fuel false (column + spaces.length) after
      else if isBreak c then
        let breaks := (c :: rest).takeWhile isBreak
        let after := (c :: rest).dropWhile isBreak
        quotedBreaks indent breaks ++ foldSingle fold indent fuel false indent after
      else if c == '\'' then
        '\'' :: '\'' :: foldSingle fold indent fuel false (column + 2) rest
      else c :: foldSingle fold indent fuel false (column + 1) rest

/-- The letters that escape a character between double quotes. -/
def escapeLetters : List (Nat × Char) := [
  (0, '0'), (7, 'a'), (8, 'b'), (9, 't'), (10, 'n'), (11, 'v'), (12, 'f'), (13, 'r'), (27, 'e'),
  (34, '"'), (92, '\\'), (0x85, 'N'), (0xA0, '_'), (0x2028, 'L'), (0x2029, 'P')]

/-- The last `count` hexadecimal digits of a number, with capital letters. -/
def capitalHex (count n : Nat) : List Char :=
  (Text.hexDigits count n).map Char.toUpper

/-- The escape of a character between double quotes, if it needs one. -/
def escape? (c : Char) : Option (List Char) :=
  let n := c.toNat
  let shown := c != '"' && c != '\\' && n != 0x2028 && n != 0x2029 && n != 0xFEFF &&
    ((0x20 ≤ n && n ≤ 0x7E) || (0xA0 ≤ n && n ≤ 0xFFFD))
  if shown then none
  else
    match escapeLetters.lookup n with
    | some letter => some ['\\', letter]
    | none =>
        if n ≤ 0xFF then some ('\\' :: 'x' :: capitalHex 2 n)
        else if n ≤ 0xFFFF then some ('\\' :: 'u' :: capitalHex 4 n)
        else some ('\\' :: 'U' :: capitalHex 8 n)

/-- The backslash that keeps a space at the beginning of a folded line. -/
def keptSpace (s : List Char) : List Char :=
  if s.head? == some ' ' then ['\\'] else []

/-- Writes the rest of a text between double quotes.  `pending` holds the reversed characters that
are not yet written, and `column` is where they begin. -/
def foldDouble (fold : Bool) (indent : Nat) :
    Bool → Nat → List Char → List Char → List Char
  | _, _, pending, [] => pending.reverse
  | atStart, column, pending, c :: rest =>
      let mayFold := fold && !atStart && !rest.isEmpty
      match escape? c with
      | some escape =>
          let column := column + pending.length + escape.length
          -- After an escape the line may be folded without a space.
          if mayFold && bestWidth + 1 < column then
            let kept := keptSpace rest
            pending.reverse ++ escape ++ '\\' :: newLine indent ++ kept ++
              foldDouble fold indent false (indent + kept.length) [] rest
          else pending.reverse ++ escape ++ foldDouble fold indent false column [] rest
      | none =>
          if mayFold && (c == ' ' || pending.isEmpty) && bestWidth < column + pending.length then
            let kept := keptSpace (c :: rest)
            pending.reverse ++ '\\' :: newLine indent ++ kept ++
              foldDouble fold indent false (indent + kept.length) [c] rest
          else foldDouble fold indent false column (c :: pending) rest

/-- The lines of a block, each at an indentation. -/
def blockLines (indent : Nat) (s : List Char) : List Char :=
  (Text.lines s).dropLast.flatMap fun line => newLine indent ++ line

/-- A text at a column, with the indentation of its further lines; a name is not folded. -/
def write (style : TextStyle) (isName : Bool) (indent column : Nat) (s : List Char) : List Char :=
  let fold := !isName
  match style with
  | .plain => foldPlain fold indent (s.length + 1) column s
  | .single => '\'' :: foldSingle fold indent (s.length + 1) true (column + 1) s ++ ['\'']
  | .double => '"' :: foldDouble fold indent true (column + 1) [] s ++ ['"']
  | .block => '|' :: blockLines indent s ++ ['\n']

end TextStyle
end Yaml
end ComponentSpec

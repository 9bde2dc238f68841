import ComponentSpec.Yaml.TextStyle

/-!
# Pages

A page is a text that is being written.  It knows the column of its end, whether a mark may follow
there without a space, and whether its last line has nothing but indentation and marks of entries,
so that a collection may begin on that line.

Main statement: a page that is indented to a column has that column at least (`le_column_indentTo`).
-/

namespace ComponentSpec
namespace Yaml

/-- A text that is being written, from its last character to its first. -/
structure Page where
  written : List Char := []
  column : Nat := 0
  isSpaced : Bool := true
  isFresh : Bool := true

namespace Page

/-- Writes some characters. -/
def put (page : Page) (s : List Char) : Page :=
  let reversed := s.reverse
  let lastLine := (reversed.takeWhile (!isBreak ·)).length
  { page with
    written := reversed ++ page.written
    column := if lastLine == s.length then page.column + s.length else lastLine }

/-- Ends the line. -/
def breakLine (page : Page) : Page :=
  { page with written := '\n' :: page.written, column := 0, isSpaced := true, isFresh := true }

/-- Writes spaces up to a column. -/
def padTo (page : Page) (column : Nat) : Page :=
  if page.column < column then
    { page with
      written := List.replicate (column - page.column) ' ' ++ page.written
      column, isSpaced := true }
  else page

/-- Brings the page to an indentation, on a new line if the last one is taken. -/
def indentTo (page : Page) (indent : Nat) : Page :=
  let isTaken := !page.isFresh || indent < page.column || (page.column == indent && !page.isSpaced)
  (if isTaken then page.breakLine else page).padTo indent

/-- Writes a mark that stands close to what is before it. -/
def attach (page : Page) (s : List Char) : Page :=
  { page.put s with isSpaced := false, isFresh := false }

/-- Separates the page from what comes next. -/
def space (page : Page) : Page :=
  if page.isSpaced then page else page.put [' ']

/-- Writes a mark. -/
def mark (page : Page) (s : List Char) : Page :=
  page.space.attach s

/-- Writes the mark of an entry, after which a collection may begin. -/
def entry (page : Page) (c : Char) : Page :=
  { page.mark [c] with isFresh := page.isFresh }

/-- Writes a scalar in a style. -/
def scalar (page : Page) (style : TextStyle) (isName : Bool) (indent : Nat) (s : List Char) :
    Page :=
  let page := page.space
  let endsLine := style == .block
  { page.put (style.write isName indent page.column s) with
    isSpaced := endsLine, isFresh := endsLine }

/-- The text of the page. -/
def toText (page : Page) : List Char :=
  page.written.reverse

theorem le_column_padTo (page : Page) (column : Nat) : column ≤ (page.padTo column).column := by
  unfold padTo
  split
  · exact Nat.le_refl _
  · omega

theorem le_column_indentTo (page : Page) (indent : Nat) :
    indent ≤ (page.indentTo indent).column :=
  le_column_padTo ..

end Page
end Yaml
end ComponentSpec

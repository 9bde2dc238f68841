import ComponentSpec.Value.Read

/-!
# Bodies of blocks

A block of a document holds one entry a line, a name and a value around a colon.  A name without a
value, or with an opening brace alone, begins a nested object: the lines after it that are indented
more deeply belong to it, at whatever depth, until the next line that is not.  Empty lines and lines
that begin with a number sign are comments.

The first line of a body loses its indentation, because the body is trimmed as a whole.
-/

namespace ComponentSpec
namespace Spec

open Text

/-- The lines of a body that are neither blank nor comments. -/
def significantLines (body : List Char) : List (List Char) :=
  (lines (trim body)).filter fun line =>
    match trim line with
    | [] => false
    | c :: _ => c != '#'

/-- The trimmed name and value of a line with a colon. -/
def namedValue? (line : List Char) : Option (List Char × List Char) :=
  (cut? ':' (trim line)).map fun (name, raw) => (trim name, trim raw)

/-- How far a body has been read: its entries, the name that waits for nested lines, the nested
object if one is open, and the indentation that nested lines must exceed. -/
structure BodyState where
  entries : Fields Value := []
  pending : Option String := none
  nested : Option (Fields Value) := none
  indent : Nat := 0

namespace BodyState

/-- Reads a line that belongs to the object of the pending name. -/
def readNested (st : BodyState) (name : String) (line : List Char) : BodyState :=
  let object := st.nested.getD []
  let object :=
    match namedValue? line with
    | some (key, raw) => object.set (String.ofList key) (Value.read raw)
    | none => object
  { st with entries := st.entries.set name (.object object), nested := some object }

/-- Reads a line of the outer level. -/
def readOuter (st : BodyState) (line : List Char) : BodyState :=
  match namedValue? line with
  -- A line without a colon closes the nested object; the name goes on waiting.
  | none => { st with nested := none }
  | some (key, raw) =>
      let name := String.ofList key
      if raw.isEmpty || raw == ['\x7b'] then
        -- An empty name cannot wait, so the lines below it belong to the outer level.
        { st with
          pending := if key.isEmpty then none else some name
          nested := none
          indent := indentation line }
      else
        { st with entries := st.entries.set name (Value.read raw), pending := none, nested := none }

/-- Reads one line. -/
def readLine (st : BodyState) (line : List Char) : BodyState :=
  match st.pending with
  | some name =>
      if st.indent < indentation line then st.readNested name line else st.readOuter line
  | none => st.readOuter line

end BodyState

/-- The entries of a body, with one level of nesting. -/
def readBody (body : List Char) : Fields Value :=
  ((significantLines body).foldl BodyState.readLine {}).entries

theorem readOuter_of_no_colon (st : BodyState) {line : List Char} (h : namedValue? line = none) :
    st.readOuter line = { st with nested := none } := by
  rw [BodyState.readOuter, h]

end Spec
end ComponentSpec

import ComponentSpec.Spec.Requirement
import ComponentSpec.Text.Caseless

/-!
# Requirements and recommendations

The lines of a document that begin with an exclamation or a question mark.  A header in any letter
case opens a section; in the section of requirements the lines with an exclamation mark count, in
that of recommendations those with a question mark.  Sections may be opened again, and lines before
the first header count for neither.
-/

namespace ComponentSpec
namespace Spec

open Text

/-- The two kinds of section. -/
inductive Section
  | requirements
  | recommendations
  deriving DecidableEq, Repr

/-- The section that a trimmed line opens. -/
def header? (line : List Char) : Option Section :=
  if (dropKeyword? "!requirements:".toList line).isSome then some .requirements
  else if (dropKeyword? "?recommendations:".toList line).isSome then some .recommendations
  else none

/-- The section that is open after some lines, and what they have given. -/
structure SectionState where
  current : Option Section := none
  requirements : List Requirement := []
  recommendations : List String := []

/-- Reads one line. -/
def SectionState.readLine (st : SectionState) (line : List Char) : SectionState :=
  let line := trim line
  match header? line with
  | some s => { st with current := some s }
  | none =>
      match line, st.current with
      -- The mark of a line must be the one of its section.
      | '!' :: _, some .requirements =>
          { st with requirements := st.requirements ++ [readRequirement line] }
      | '?' :: text, some .recommendations =>
          { st with recommendations := st.recommendations ++ [String.ofList (trim text)] }
      | _, _ => st

/-- The state after all lines of a document. -/
def readSections (document : List Char) : SectionState :=
  (lines document).foldl SectionState.readLine {}

end Spec
end ComponentSpec

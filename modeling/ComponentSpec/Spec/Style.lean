import ComponentSpec.Spec.Basic
import ComponentSpec.Spec.Body

/-!
# The style block

Of the entries of the block three are kept: the guidelines as a list, the design tokens, and the
naming convention.  An entry that is empty, false or zero counts as left out.
-/

namespace ComponentSpec
namespace Spec

/-- The entry of a style block unless it counts as left out. -/
def styleValue? (entries : Fields Value) (name : String) : Option Value :=
  (entries.get? name).filter (!·.isVoid)

/-- A value as a list of guidelines. -/
def guidelinesOf : Value → List Value
  | .list items => items
  | v => [v]

/-- The style guide of a style block. -/
def readStyle (body : List Char) : StyleGuide :=
  let entries := readBody body
  { guidelines := (styleValue? entries "guidelines").map guidelinesOf
    tokens := styleValue? entries "tokens"
    naming := styleValue? entries "naming" }

end Spec
end ComponentSpec

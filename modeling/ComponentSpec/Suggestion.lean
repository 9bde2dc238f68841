import ComponentSpec.Report

/-!
# Suggestions of style

A style guide gives up to three suggestions, in this order: to define its design tokens, to follow
its naming convention, and to follow its guidelines.
-/

namespace ComponentSpec
namespace Suggestion

/-- A value as a message shows it. -/
def shown (v : Value) : String :=
  v.toDatum.display

/-- The kinds of token that a style guide names: the fields of an object. -/
def tokenTypes : Value → List String
  | .object fields => Fields.names fields
  | _ => []

/-- The suggestion to define design tokens. -/
def ofTokens (tokens : Value) : Suggestion :=
  let types := tokenTypes tokens
  let line := fun t => "  /* " ++ t ++ " tokens */\n  --" ++ t ++ "-primary: value;"
  { kind := .tokens
    message := "Define design tokens for: " ++ ", ".intercalate types
    example? := some
      ("/* tokens.css */\n:root \x7b\n" ++ "\n".intercalate (types.map line) ++ "\n\x7d") }

/-- The example of a naming convention that gives none. -/
def usualExample : String := ".component--variant--state \x7b \x7d"

/-- The suggestion to follow a naming convention. -/
def ofNaming (naming : Value) : Suggestion :=
  let fields : Fields Value :=
    match naming with
    | .object fields => fields
    | v => [("pattern", v)]
  let pattern :=
    match fields.get? "pattern" with
    | some v => shown v
    | none => Datum.null.display
  let sample :=
    match fields.get? "example" with
    | some v => if v.toDatum.holds then shown v else usualExample
    | none => usualExample
  { kind := .naming
    message := "Follow " ++ pattern ++ " naming convention"
    example? := some sample }

/-- The suggestion to follow guidelines. -/
def ofGuidelines (guidelines : List Value) : Suggestion :=
  { kind := .pattern
    message := "Style guidelines to follow"
    example? := some ("\n".intercalate (guidelines.map fun v => "• " ++ shown v)) }

/-- The suggestions of a style guide. -/
def ofStyle (style : StyleGuide) : List Suggestion :=
  (style.tokens.map ofTokens).toList ++ (style.naming.map ofNaming).toList ++
    ((style.guidelines.filter fun guidelines => !guidelines.isEmpty).map ofGuidelines).toList

end Suggestion
end ComponentSpec

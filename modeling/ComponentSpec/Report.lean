import ComponentSpec.Spec.Basic

/-!
# Reports

What an inspection of an element found: the items that passed, those that failed, warnings, the
requirements that are left to a person, how much was automated, and suggestions of style.
-/

namespace ComponentSpec

/-- What was found for one rule or requirement. -/
structure Finding where
  rule : String
  passed : Bool
  message : String
  severity : Severity
  details : Option (Fields Datum) := none
  deriving Repr

/-- How many requirements there are, how many of them have a hint, and the share of these. -/
structure Coverage where
  total : Int := 0
  automated : Int := 0
  percentage : Int := 0
  deriving DecidableEq, Repr

/-- What a suggestion of style is about. -/
inductive SuggestionKind
  | tokens
  | naming
  | pattern
  deriving DecidableEq, Repr

/-- The word for a kind of suggestion. -/
def SuggestionKind.word : SuggestionKind → String
  | tokens => "tokens"
  | naming => "naming"
  | pattern => "pattern"

/-- The kinds of suggestion. -/
def SuggestionKind.all : List SuggestionKind := [.tokens, .naming, .pattern]

/-- A suggestion of style. -/
structure Suggestion where
  kind : SuggestionKind
  message : String
  example? : Option String := none
  deriving DecidableEq, Repr

/-- What an inspection found. -/
structure Report where
  component : String
  passed : List Finding := []
  failed : List Finding := []
  warnings : List Finding := []
  manual : List String := []
  coverage : Coverage := {}
  suggestions : Option (List Suggestion) := none
  deriving Repr

/-- Whether anything failed or gave a warning. -/
def Report.hasIssues (report : Report) : Bool :=
  !report.failed.isEmpty || !report.warnings.isEmpty

end ComponentSpec

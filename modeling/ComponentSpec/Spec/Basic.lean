import ComponentSpec.Value.Basic

/-!
# Component specifications

What a specification document says about a component: its metadata, the blocks of named values, the
rules that are checked, the properties it takes, its style guide, and the requirements and
recommendations in plain language.
-/

namespace ComponentSpec

/-- How serious it is when a requirement is not met. -/
inductive Severity
  | error
  | warning
  | info
  deriving DecidableEq, Repr

/-- The word for a severity. -/
def Severity.word : Severity → String
  | error => "error"
  | warning => "warning"
  | info => "info"

/-- The severities. -/
def Severity.all : List Severity := [.error, .warning, .info]

/-- What a requirement is about. -/
inductive Category
  | accessibility
  | performance
  | compatibility
  | quality
  deriving DecidableEq, Repr

/-- The word for a category. -/
def Category.word : Category → String
  | accessibility => "accessibility"
  | performance => "performance"
  | compatibility => "compatibility"
  | quality => "quality"

/-- The categories. -/
def Category.all : List Category := [.accessibility, .performance, .compatibility, .quality]

/-- Name, description and category of a component. -/
structure Metadata where
  name : String := "Component"
  description : Option String := none
  category : Option String := none
  deriving Repr

/-- A property that a component takes. -/
structure Property where
  type : String
  required : Bool := true
  default : Option Value := none
  options : Option (List String) := none
  deriving Repr

/-- Guidelines, design tokens and the naming convention of a component. -/
structure StyleGuide where
  guidelines : Option (List Value) := none
  tokens : Option Value := none
  naming : Option Value := none
  deriving Repr

/-- A requirement in plain language; a hint names the check that decides it. -/
structure Requirement where
  text : String
  hint : Option String := none
  category : Category := .quality
  severity : Severity := .error
  deriving DecidableEq, Repr

/-- A requirement has a hint when the hint is not empty. -/
def Requirement.hasHint (r : Requirement) : Bool :=
  match r.hint with
  | some hint => !hint.isEmpty
  | none => false

/-- The specification of a component. -/
structure Spec where
  metadata : Metadata := {}
  structureBlock : Option (Fields Value) := none
  rules : Option (Fields Value) := none
  properties : Option (Fields Property) := none
  style : Option StyleGuide := none
  requirements : List Requirement := []
  recommendations : List String := []
  otherBlocks : Fields (Fields Value) := []
  deriving Repr

end ComponentSpec

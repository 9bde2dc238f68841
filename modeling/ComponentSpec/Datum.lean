import ComponentSpec.Fields
import ComponentSpec.Number.Basic
import ComponentSpec.Text.Quoted

/-!
# Data

The open type of data that the library receives and reports: what the properties of an element, the
parameter of a check and the details of an outcome may hold.  A datum is displayed as a whole
(`Datum.display`), where a text stands for itself, or as part of another one
(`Datum.displayInside`), where a text is quoted.
-/

namespace ComponentSpec

/-- The relations of a comparison. -/
inductive Relation
  | atLeast
  | atMost
  | above
  | below
  deriving DecidableEq, Repr

/-- The sign of a relation. -/
def Relation.sign : Relation → String
  | atLeast => ">="
  | atMost => "<="
  | above => ">"
  | below => "<"

/-- A datum of any kind. -/
inductive Datum
  | null
  | flag (b : Bool)
  | number (a : Number)
  | text (s : String)
  | list (items : List Datum)
  | object (fields : List (String × Datum))
  | comparison (relation : Relation) (operand : Datum)
  deriving Inhabited, Repr

namespace Datum

/-- An integer as a datum. -/
def int (n : Int) : Datum := .number (.whole n)

/-- A binary number as a datum. -/
def real (x : Binary64) : Datum := .number (.real x)

/-- A text or nothing. -/
def text? : Option String → Datum
  | some s => .text s
  | none => .null

/-- The number that the datum is; flags are no numbers. -/
def number? : Datum → Option Number
  | number a => some a
  | _ => none

/-- The value of a field, of objects only. -/
def field? (d : Datum) (name : String) : Option Datum :=
  match d with
  | object fields => Fields.get? fields name
  | _ => none

/-- Whether the datum counts as true: not null, not false, not zero and not empty. -/
def holds : Datum → Bool
  | null => false
  | flag b => b
  | number a => !a.isZero
  | text s => !s.isEmpty
  | list items => !items.isEmpty
  | object fields => !fields.isEmpty
  | comparison _ _ => true

/-! ## Display -/

/-- A text between quotes. -/
def quoteText (s : String) : String :=
  String.ofList (Text.quoted s.toList)

mutual

/-- The display of a datum inside another one. -/
def displayInside : Datum → String
  | null => "None"
  | flag b => if b then "True" else "False"
  | number a => a.toText
  | text s => quoteText s
  | list items => "[" ++ ", ".intercalate (displayItems items) ++ "]"
  | object fields => "\x7b" ++ ", ".intercalate (displayFields fields) ++ "\x7d"
  | comparison relation operand =>
      "Comparison(operator=" ++ quoteText relation.sign ++ ", value=" ++ displayInside operand ++
        ")"

/-- The displays of the items of a list. -/
def displayItems : List Datum → List String
  | [] => []
  | d :: rest => displayInside d :: displayItems rest

/-- The displays of the fields of an object. -/
def displayFields : List (String × Datum) → List String
  | [] => []
  | (name, d) :: rest => (quoteText name ++ ": " ++ displayInside d) :: displayFields rest

end

/-- The display of a datum on its own. -/
def display : Datum → String
  | text s => s
  | comparison relation operand =>
      "operator=" ++ quoteText relation.sign ++ " value=" ++ displayInside operand
  | d => displayInside d

end Datum
end ComponentSpec

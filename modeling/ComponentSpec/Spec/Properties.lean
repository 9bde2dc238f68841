import ComponentSpec.Spec.Basic
import ComponentSpec.Spec.Body
import ComponentSpec.Text.Word

/-!
# The property block

Each line of the block declares a property: a name, a question mark if it is optional, a colon, a
type, and a default after an equality sign.  A type with bars lists the options of an enumeration.
-/

namespace ComponentSpec
namespace Spec

open Text

/-- The parts of a declaration as they stand in its line. -/
structure Declaration where
  name : List Char
  optional : Bool
  type : List Char
  default : Option (List Char)

/-- The type and the default after the colon of a declaration.  The type ends before the first
equality sign; only a colon and an equality sign without a blank between them leave no room for one.
An equality sign must be followed by a default. -/
def typeAndDefault? (rest : List Char) : Option (List Char × Option (List Char)) :=
  match cut? '=' rest with
  | none => if (trim rest).isEmpty then none else some (trim rest, none)
  | some (type, default) =>
      -- A type of blanks alone is still a type, which trimming makes empty.
      if type.isEmpty || default.isEmpty then none
      else some (trim type, some (trim default))

/-- The parts of a trimmed line that declares a property. -/
def declaration? (line : List Char) : Option Declaration :=
  let name := line.takeWhile isWord
  let rest := line.dropWhile isWord
  if name.isEmpty then none
  else
    let (optional, rest) :=
      match rest with
      | '?' :: rest => (true, rest)
      | _ => (false, rest)
    match trimLeft rest with
    | ':' :: rest =>
        (typeAndDefault? rest).map fun (type, default) => ⟨name, optional, type, default⟩
    | _ => none

/-- The property that a declaration describes. -/
def Declaration.property (d : Declaration) : Property :=
  let isChoice := d.type.contains '|'
  { type := if isChoice then "enum" else String.ofList d.type
    required := !d.optional
    default := d.default.map Value.read
    options :=
      if isChoice then some ((pieces '|' d.type).map fun option => String.ofList (trim option))
      else none }

/-- The properties of a property block. -/
def readProperties (body : List Char) : Fields Property :=
  (significantLines body).foldl (fun properties line =>
    match declaration? (trim line) with
    | some d => properties.set (String.ofList d.name) d.property
    | none => properties) []

end Spec
end ComponentSpec

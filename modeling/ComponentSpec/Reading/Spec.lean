import ComponentSpec.Reading.Scalar
import ComponentSpec.Spec.Basic

/-!
# Reading specifications

A specification can also be given as data.  Integers in its values become binary numbers, an object
stays an object, and null is no value.
-/

namespace ComponentSpec
namespace Reading

mutual

/-- Reads a value. -/
def value : Datum → Reading Value
  | .null => refuse .notValue
  | .flag b => pure (.flag b)
  | .number a => Value.number <$> real (.number a)
  | .text s => pure (.text s)
  | .list items => Value.list <$> values 0 items
  | .object fields => Value.object <$> valueFields fields
  | .comparison relation operand => Value.comparison relation <$> value operand

/-- Reads the items of a list of values. -/
def values : Nat → List Datum → Reading (List Value)
  | _, [] => pure []
  | i, d :: rest => List.cons <$> within (.index i) (value d) <*> values (i + 1) rest

/-- Reads the fields of an object of values. -/
def valueFields : List (String × Datum) → Reading (List (String × Value))
  | [] => pure []
  | (name, d) :: rest =>
      (fun v others => (name, v) :: others) <$> within (.field name) (value d) <*> valueFields rest

end

/-- Reads the metadata of a component. -/
def metadata : Datum → Reading Metadata :=
  record fun fields =>
    Metadata.mk <$> optional fields "name" "Component" text
      <*> optional fields "description" none (nullable text)
      <*> optional fields "category" none (nullable text)

/-- Reads a property. -/
def property : Datum → Reading Property :=
  record fun fields =>
    Property.mk <$> required fields "type" text
      <*> optional fields "required" true flag
      <*> optional fields "default" none (nullable value)
      <*> optional fields "enum" none (nullable (list text))

/-- Reads a style guide. -/
def styleGuide : Datum → Reading StyleGuide :=
  record fun fields =>
    StyleGuide.mk <$> optional fields "guidelines" none (nullable (list value))
      <*> optional fields "tokens" none (nullable value)
      <*> optional fields "naming" none (nullable value)

/-- Reads a requirement. -/
def requirement : Datum → Reading Requirement :=
  record fun fields =>
    Requirement.mk <$> required fields "text" text
      <*> optional fields "validation" none (nullable text)
      <*> optional fields "category" .quality (option Category.all Category.word)
      <*> optional fields "severity" .error (option Severity.all Severity.word)

/-- Reads a specification. -/
def spec : Datum → Reading Spec :=
  record fun fields =>
    Spec.mk <$> optional fields "metadata" {} metadata
      <*> optional fields "structure" none (nullable (Reading.fields value))
      <*> optional fields "validation" none (nullable (Reading.fields value))
      <*> optional fields "props" none (nullable (Reading.fields property))
      <*> optional fields "style" none (nullable styleGuide)
      <*> optional fields "requirements" [] (list requirement)
      <*> optional fields "recommendations" [] (list text)
      <*> optional fields "blocks" [] (Reading.fields (Reading.fields value))

end Reading
end ComponentSpec

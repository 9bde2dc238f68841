import ComponentSpec.Datum

/-!
# Values

The values that a specification document can hold: texts, flags, numbers, lists, objects, and
comparisons with a limit.  Every value is a datum (`Value.toDatum`); null and integers are data that
no document holds.
-/

namespace ComponentSpec

/-- A value of a specification. -/
inductive Value
  | text (s : String)
  | flag (b : Bool)
  | number (x : Binary64)
  | list (items : List Value)
  | object (fields : List (String × Value))
  | comparison (relation : Relation) (operand : Value)
  deriving Inhabited, Repr

namespace Value

mutual

/-- The value as a datum. -/
def toDatum : Value → Datum
  | text s => .text s
  | flag b => .flag b
  | number x => .real x
  | list items => .list (itemsToData items)
  | object fields => .object (fieldsToData fields)
  | comparison relation operand => .comparison relation operand.toDatum

/-- The items of a list as data. -/
def itemsToData : List Value → List Datum
  | [] => []
  | v :: rest => v.toDatum :: itemsToData rest

/-- The fields of an object as data. -/
def fieldsToData : List (String × Value) → List (String × Datum)
  | [] => []
  | (name, v) :: rest => (name, v.toDatum) :: fieldsToData rest

end

/-- Whether the value is an object with this field. -/
def hasField (v : Value) (name : String) : Bool :=
  match v with
  | object fields => (Fields.get? fields name).isSome
  | _ => false

/-- Whether the value is the empty text or the flag false or the number zero, all of which stand for
a part of a document that was left out. -/
def isVoid : Value → Bool
  | text s => s.isEmpty
  | flag b => !b
  | number x => x.isZero
  | _ => false

end Value
end ComponentSpec

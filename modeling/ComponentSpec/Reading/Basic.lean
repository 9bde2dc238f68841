import ComponentSpec.Datum

/-!
# Reading data

A datum that comes from outside is read into a type of the library, or refused with a list of
issues, each with the path to the part that is at fault.  Reading goes on after an issue, so that
one answer names them all, in the order in which the parts are declared.

Main statements: readings form a lawful functor (`map_id`), and what two readings find wrong is put
together in order (`issues_seq`).
-/

namespace ComponentSpec

/-- A step from a datum to a part of it. -/
inductive PathStep
  | field (name : String)
  | index (i : Nat)
  deriving DecidableEq, Repr

/-- What is wrong with a part. -/
inductive Defect
  | missing
  | unexpected
  | notText
  | notList
  | notObject
  | notRecord
  | notReal
  | unreadableReal
  | notInteger
  | unreadableInteger
  | oversizedInteger
  | fractionalInteger
  | unboundedInteger
  | notFlag
  | unreadableFlag
  | notOption
  | notPath
  | notValue
  deriving DecidableEq, Repr

/-- A defect with the path to the part that has it. -/
structure Issue where
  path : List PathStep
  defect : Defect
  deriving DecidableEq, Repr

/-- The result of reading a datum. -/
inductive Reading (α : Type)
  | accepted (a : α)
  | refused (issues : List Issue)

namespace Reading

variable {α β : Type}

/-- The issues of a reading. -/
def issues : Reading α → List Issue
  | accepted _ => []
  | refused issues => issues

/-- Applies a function to what was read. -/
def map (f : α → β) : Reading α → Reading β
  | accepted a => accepted (f a)
  | refused issues => refused issues

/-- Reads two parts; the issues of the first come first. -/
def seq (f : Reading (α → β)) (x : Reading α) : Reading β :=
  match f, x with
  | accepted f, accepted a => accepted (f a)
  | accepted _, refused issues => refused issues
  | refused issues, accepted _ => refused issues
  | refused issues, refused more => refused (issues ++ more)

instance : Functor Reading where
  map := map

instance : Applicative Reading where
  pure := accepted
  seq f x := seq f (x ())

/-- A single issue with the whole of the datum. -/
def refuse (defect : Defect) : Reading α :=
  refused [⟨[], defect⟩]

/-- A reading of the part at a step. -/
def within (step : PathStep) : Reading α → Reading α
  | accepted a => accepted a
  | refused issues => refused (issues.map fun issue => { issue with path := step :: issue.path })

/-- The result of a reading as an exception or a value. -/
def toExcept : Reading α → Except (List Issue) α
  | accepted a => .ok a
  | refused issues => .error issues

theorem map_id (x : Reading α) : map id x = x := by
  cases x <;> rfl

theorem issues_seq (f : Reading (α → β)) (x : Reading α) :
    (seq f x).issues = f.issues ++ x.issues := by
  cases f <;> cases x <;> simp [seq, issues]

/-! ## Parts of lists and objects -/

/-- Reads the items of a list, the first of which has index `i`. -/
def itemsFrom (read : α → Reading β) : Nat → List α → Reading (List β)
  | _, [] => pure []
  | i, a :: rest => List.cons <$> within (.index i) (read a) <*> itemsFrom read (i + 1) rest

/-- Reads the values of fields. -/
def fieldValues (read : α → Reading β) : Fields α → Reading (Fields β)
  | [] => pure []
  | (name, a) :: rest =>
      (fun b others => (name, b) :: others) <$> within (.field name) (read a) <*>
        fieldValues read rest

/-- Reads a datum that must be a list. -/
def list (read : Datum → Reading β) : Datum → Reading (List β)
  | .list items => itemsFrom read 0 items
  | _ => refuse .notList

/-- Reads a datum that must be an object. -/
def fields (read : Datum → Reading β) : Datum → Reading (Fields β)
  | .object fields => fieldValues read fields
  | _ => refuse .notObject

/-- Reads a datum that may be null. -/
def nullable (read : Datum → Reading β) : Datum → Reading (Option β)
  | .null => pure none
  | d => some <$> read d

/-- Reads a datum that must be a record, given by its fields. -/
def record (read : Fields Datum → Reading β) : Datum → Reading β
  | .object fields => read fields
  | _ => refuse .notRecord

/-- Reads a field that may be absent. -/
def optional (fields : Fields Datum) (name : String) (default : β) (read : Datum → Reading β) :
    Reading β :=
  match fields.get? name with
  | some d => within (.field name) (read d)
  | none => pure default

/-- Reads a field that must be present. -/
def required (fields : Fields Datum) (name : String) (read : Datum → Reading β) : Reading β :=
  match fields.get? name with
  | some d => within (.field name) (read d)
  | none => refused [⟨[.field name], .missing⟩]

end Reading
end ComponentSpec

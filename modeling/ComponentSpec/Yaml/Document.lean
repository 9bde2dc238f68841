import ComponentSpec.Datum
import ComponentSpec.Yaml.Content
import ComponentSpec.Yaml.Error

/-!
# Documents

A document holds its contents by numbers: what an anchor names stands in it once and may be
contained in several places, even in itself.  A mapping keeps the order of its keys, and a key that
is given again keeps its position and takes the new value.

Main statements: a content that was added is found under its number (`content_add`), and those
before it stay what they were (`content_add_of_lt`).
-/

namespace ComponentSpec
namespace Yaml

/-- The contents of a document by their numbers, and the number of the whole. -/
structure Document where
  contents : Array Content := #[]
  root : Nat := 0
  deriving Inhabited

namespace Document

/-- The content with a number. -/
def content (document : Document) (i : Nat) : Content :=
  document.contents.getD i .null

/-- Adds a content and gives its number. -/
def add (document : Document) (content : Content) : Nat × Document :=
  (document.contents.size, { document with contents := document.contents.push content })

/-- Puts a content in the place of another. -/
def set (document : Document) (i : Nat) (content : Content) : Document :=
  { document with contents := document.contents.setIfInBounds i content }

theorem content_add (document : Document) (content : Content) :
    (document.add content).2.content (document.add content).1 = content := by
  simp [Document.content, add]

theorem content_add_of_lt (document : Document) (content : Content) {i : Nat}
    (h : i < document.contents.size) :
    (document.add content).2.content i = document.content i := by
  simp [Document.content, add, h, Array.getElem?_push_lt]

/-- Whether two keys are the same: one and the same content, or equal ones. -/
def isSameKey (document : Document) (i j : Nat) : Bool :=
  i == j || (document.content i).isSame (document.content j)

/-- The value of a name in some pairs. -/
def get? (document : Document) (pairs : List (Nat × Nat)) (name : String) : Option Nat :=
  (pairs.find? fun (k, _) => (document.content k).isSame (.text name)).map (·.2)

/-- Gives a key its value, in place if the key is there. -/
def setKey {α : Type} (document : Document) (key : Nat) (value : α) :
    List (Nat × α) → List (Nat × α)
  | [] => [(key, value)]
  | (k, v) :: rest =>
      if document.isSameKey k key then (k, value) :: rest
      else (k, v) :: document.setKey key value rest

/-- The pairs given one after another, with each key once. -/
def distinctKeys {α : Type} (document : Document) (pairs : List (Nat × α)) : List (Nat × α) :=
  pairs.foldl (fun kept (k, v) => document.setKey k v kept) []

/-- Some pairs sorted by their keys; keys of several kinds stay in their order. -/
def sortPairs {α : Type} (document : Document) (pairs : List (Nat × α)) : List (Nat × α) :=
  let kinds := pairs.map fun (k, _) => (document.content k).keyKind
  if kinds.all fun kind => some kind == kinds.head? then
    pairs.mergeSort fun p q => (document.content p.1).keyLe (document.content q.1)
  else pairs

/-! ## Contents as data -/

/-- The display of a set. -/
def displaySet (document : Document) (keys : List Nat) : String :=
  if keys.isEmpty then "set()"
  else
    let sorted := document.sortPairs (keys.map fun k => (k, ()))
    "\x7b" ++ ", ".intercalate (sorted.map fun (k, _) => (document.content k).displayKey) ++ "\x7d"

/-- The content with a number as a datum, with the contents in it down to a depth. -/
def datumTo (document : Document) : Nat → Nat → Except Error Datum
  | 0, _ => throw .endless
  | depth + 1, i =>
      match document.content i with
      | .null => return .null
      | .flag b => return .flag b
      | .number a => return .number a
      | .notANumber => return .real .nan
      | .text s => return .text s
      | .binary bytes => return .text (String.ofList (Binary.display bytes))
      | .date d => return .text (String.ofList d.toText)
      | .sequence items => return .list (← items.mapM (document.datumTo depth))
      | .entries pairs => do
          let items ← pairs.mapM fun (k, v) => do
            return .list [← document.datumTo depth k, ← document.datumTo depth v]
          return .list items
      | .mapping pairs => do
          let fields ← pairs.mapM fun (k, v) => do
            return ((document.content k).keyName, ← document.datumTo depth v)
          return .object fields
      | .set keys => return .text (document.displaySet keys)

/-- The content with a number as a datum; one that contains itself is none.  A chain of contents
that are longer than the document has one of them twice. -/
def datum (document : Document) (i : Nat) : Except Error Datum :=
  document.datumTo (document.contents.size + 1) i

end Document
end Yaml
end ComponentSpec

import ComponentSpec.Yaml.Document
import ComponentSpec.Yaml.Node

/-!
# Outlines

The outline of a document is the graph of the nodes as which its contents are written.  A content
and its node have the same number.  The keys of a mapping are sorted if they are of one kind; an
entry of a list of pairs is a node of its own, and a set is a mapping to null.
-/

namespace ComponentSpec
namespace Yaml

/-- Adds a node to a graph and gives its number. -/
def Graph.add (graph : Graph) (node : Node) : Nat × Graph :=
  (graph.nodes.size, { graph with nodes := graph.nodes.push node })

/-- Puts a node in the place of another. -/
def Graph.set (graph : Graph) (i : Nat) (node : Node) : Graph :=
  { graph with nodes := graph.nodes.setIfInBounds i node }

namespace Outline

/-- A number.  An exponent follows a point in any case. -/
def numberText : Number → List Char
  | .whole n => (toString n).toList
  | .real .nan => ".nan".toList
  | .real (.infinite negative) => (if negative then "-.inf" else ".inf").toList
  | .real x =>
      let s := x.toText.toList
      match Text.cut? 'e' s with
      | some (digits, exponent) =>
          if digits.contains '.' then s else digits ++ '.' :: '0' :: 'e' :: exponent
      | none => s

/-- The tag of a number. -/
def numberTag : Number → Tag
  | .whole _ => .integer
  | .real _ => .real

/-- A scalar. -/
def scalar (tag : Tag) (s : List Char) : Node :=
  { tag, form := .scalar s }

/-- Adds a node for each of some pairs, and gives their numbers. -/
def addEntries (graph : Graph) : List (Nat × Nat) → List Nat × Graph
  | [] => ([], graph)
  | (k, v) :: rest =>
      let (i, graph) := graph.add { tag := .tuple, form := .sequence [k, v] }
      let (items, graph) := addEntries graph rest
      (i :: items, graph)

/-- Puts the node of a content in its place; `absent` is the node of null. -/
def place (document : Document) (absent : Nat) (graph : Graph) (i : Nat) : Graph :=
  match document.content i with
  | .null => graph.set i (scalar .null "null".toList)
  | .flag b => graph.set i (scalar .flag (if b then "true" else "false").toList)
  | .number a => graph.set i (scalar (numberTag a) (numberText a))
  | .notANumber => graph.set i (scalar .real ".nan".toList)
  | .text s => graph.set i (scalar .text s.toList)
  | .binary bytes => graph.set i (scalar .binary (Binary.toText bytes))
  | .date d => graph.set i (scalar .date d.toText)
  | .sequence items => graph.set i { tag := .sequence, form := .sequence items }
  | .entries pairs =>
      let (items, graph) := addEntries graph pairs
      graph.set i { tag := .sequence, form := .sequence items }
  | .mapping pairs =>
      graph.set i { tag := .mapping, form := .mapping (document.sortPairs pairs) }
  | .set keys =>
      let pairs := document.sortPairs (keys.map fun k => (k, absent))
      graph.set i { tag := .set, form := .mapping pairs }

end Outline

/-- The outline of a document. -/
def Document.outline (document : Document) : Graph :=
  let count := document.contents.size
  let places : Graph := { nodes := Array.replicate count default, root := document.root }
  let (absent, graph) := places.add (Outline.scalar .null "null".toList)
  (List.range count).foldl (Outline.place document absent) graph

end Yaml
end ComponentSpec

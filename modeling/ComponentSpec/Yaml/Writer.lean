import ComponentSpec.Yaml.Outline
import ComponentSpec.Yaml.Page

/-!
# Writing YAML

A document is written in block style from its outline.  A date or a collection that is contained in
several places is written in the first of them, under an anchor, and by an alias in the others.
Anchors are numbered in the order in which their nodes are met for the second time.

A key that is too long for a line of its own, empty or of several lines is announced by a question
mark.
-/

namespace ComponentSpec
namespace Yaml
namespace Writer

/-! ## Anchors -/

/-- Whether nodes with the tag are written only once. -/
def isShared (tag : Tag) : Bool :=
  tag ∉ [Tag.null, .flag, .integer, .real, .text, .binary]

/-- The nodes that were met, and those that were met again, in this order. -/
structure Survey where
  met : Array Bool
  again : List Nat := []

/-- The nodes in a node, in order. -/
def children (node : Node) : List Nat :=
  match node.form with
  | .scalar _ => []
  | .sequence items => items
  | .mapping pairs => pairs.flatMap fun (k, v) => [k, v]

/-- Whether the node is an integer of more digits than are written. -/
def isTooLong (node : Node) : Bool :=
  match node with
  | { tag := .integer, form := .scalar s } => Fault.digitLimit < (spanSign s).2.length
  | _ => false

/-- Meets a node and those in it, which are looked at once. -/
def survey (graph : Graph) : Nat → Nat → StateT Survey (Except Error) Unit
  | 0, _ => return
  | depth + 1, i => do
      let node := graph.nodes.getD i default
      if (← get).met.getD i true then
        if isShared node.tag && !(← get).again.contains i then
          modify fun st => { st with again := st.again ++ [i] }
      else
        if isTooLong node then throw .noSuchValue
        modify fun st => { st with met := st.met.setIfInBounds i true }
        (children node).forM (survey graph depth)

/-- The nodes that need an anchor, in the order of their anchors. -/
def anchored (graph : Graph) : Except Error (List Nat) := do
  let count := graph.nodes.size
  let (_, st) ← (survey graph (count + 1) graph.root).run { met := Array.replicate count false }
  return st.again

/-- The name of the anchor with an index. -/
def anchorName (index : Nat) : List Char :=
  'i' :: 'd' :: Date.padded 3 (index + 1)

/-! ## Nodes -/

/-- The page so far, and which nodes were begun. -/
structure Progress where
  page : Page := {}
  begun : Array Bool

/-- A step of writing. -/
abbrev Writing := StateM Progress

/-- Changes the page. -/
def onPage (f : Page → Page) : Writing Unit :=
  modify fun st => { st with page := f st.page }

/-- The greatest length of a key that no question mark announces. -/
def keyLimit : Nat := 128

/-- Whether a key is written before a colon alone. -/
def isSimpleKey (node : Node) (anchor : Option (List Char)) (isBegun : Bool) : Bool :=
  let length := (anchor.getD []).length
  if isBegun && isShared node.tag then length < keyLimit
  else
    let length := length + node.tag.shortForm.length
    match node.form with
    | .scalar s => length + s.length < keyLimit && !s.isEmpty && !s.any isBreak
    | .sequence items => length < keyLimit && items.isEmpty
    | .mapping pairs => length < keyLimit && pairs.isEmpty

/-- Writes the tag of a node unless it is implied. -/
def writeTag (tag : Tag) (isImplied : Bool) : Writing Unit :=
  if isImplied then return else onPage (·.mark tag.shortForm)

/-- Writes a scalar. -/
def writeScalar (tag : Tag) (isName : Bool) (indent : Nat) (s : List Char) : Writing Unit := do
  let style := TextStyle.ofScalar tag isName s
  writeTag tag (style == .plain || tag == .text)
  onPage (·.scalar style isName indent s)

/-- Writes a node.  `inMapping` holds for keys and values, `isName` for keys before a colon, and
`indent` is the indentation of what is in the node. -/
def writeNode (graph : Graph) (anchors : List Nat) :
    Nat → Bool → Bool → Nat → Nat → Writing Unit
  | 0, _, _, _, _ => return
  | depth + 1, inMapping, isName, indent, i => do
      let node := graph.nodes.getD i default
      let anchor := (anchors.idxOf? i).map anchorName
      if isShared node.tag && (← get).begun.getD i false then
        onPage (·.mark ('*' :: anchor.getD []))
      else
        modify fun st => { st with begun := st.begun.setIfInBounds i true }
        match anchor with
        | some name => onPage (·.mark ('&' :: name))
        | none => pure ()
        match node.form with
        | .scalar s => writeScalar node.tag isName indent s
        | .sequence items => do
            writeTag node.tag (node.tag == .sequence)
            if items.isEmpty then onPage (·.mark ['[', ']'])
            else
              -- The dashes of a value stand below its key.
              let indent := if inMapping && !(← get).page.isFresh then indent - 2 else indent
              items.forM fun item => do
                onPage fun page => (page.indentTo indent).entry '-'
                writeNode graph anchors depth false false (indent + 2) item
        | .mapping pairs => do
            writeTag node.tag (node.tag == .mapping)
            if pairs.isEmpty then onPage (·.mark ['\x7b', '\x7d'])
            else
              pairs.forM fun (k, v) => do
                onPage (·.indentTo indent)
                let key := graph.nodes.getD k default
                let keyAnchor := (anchors.idxOf? k).map anchorName
                if isSimpleKey key keyAnchor ((← get).begun.getD k false) then
                  writeNode graph anchors depth true true (indent + 2) k
                  onPage (·.attach [':'])
                else
                  onPage (·.entry '?')
                  writeNode graph anchors depth true false (indent + 2) k
                  onPage fun page => (page.indentTo indent).entry ':'
                writeNode graph anchors depth true false (indent + 2) v

end Writer

/-- The graph as a text. -/
def Graph.write (graph : Graph) : Except Error String := do
  let anchors ← Writer.anchored graph
  let count := graph.nodes.size
  -- A node in a node is written once, so no chain of them is longer than the graph.
  let writing := Writer.writeNode graph anchors (count + 1) false false 0 graph.root
  let (_, st) := writing.run { begun := Array.replicate count false }
  return String.ofList (st.page.indentTo 0).toText

/-- The document as a text. -/
def Document.write (document : Document) : Except Error String :=
  document.outline.write

end Yaml
end ComponentSpec

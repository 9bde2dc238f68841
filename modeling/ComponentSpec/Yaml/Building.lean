import ComponentSpec.Yaml.Document
import ComponentSpec.Yaml.Node
import ComponentSpec.Yaml.Numeral

/-!
# Reading documents

The contents of a document from its nodes.  Every node has one content, whose number is that of the
node.  Scalars get theirs at once; a collection is empty at first and waits until the nodes before
it are done, so a collection may be reached from itself.  Which of several errors is reported
follows from this order.

The key that merges takes the pairs of other mappings into its own mapping.  They come before its
own pairs, which therefore override them, and of several merged mappings the earlier ones override
the later ones.
-/

namespace ComponentSpec
namespace Yaml

/-- How far the contents of a document are made: its nodes, the document so far, which contents are
made, the collections that are still empty, the last one first, and the number of pairs that
merge. -/
structure Building where
  nodes : Array Node
  document : Document
  isMade : Array Bool
  waiting : List Nat := []
  mergers : Nat

/-- A step of making the contents of a document. -/
abbrev Build := StateT Building (Except Error)

namespace Build

/-- The node with a number. -/
def node (i : Nat) : Build Node := do
  return (← get).nodes.getD i default

/-- Gives a node its content. -/
def put (i : Nat) (content : Content) : Build Unit :=
  modify fun st =>
    { st with
      document := st.document.set i content
      isMade := st.isMade.setIfInBounds i true }

/-- Gives a collection its number before its contents. -/
def await (i : Nat) (empty : Content) : Build Unit := do
  put i empty
  modify fun st => { st with waiting := i :: st.waiting }

/-! ## Scalars -/

/-- The text of a scalar; that of a mapping is the text of its default. -/
def scalarText (nodes : Array Node) : Nat → Nat → Except Error (List Char)
  | 0, _ => throw .endless
  | depth + 1, i =>
      match (nodes.getD i default).form with
      | .scalar text => return text
      | .sequence _ => throw .malformed
      | .mapping pairs =>
          match pairs.find? fun (k, _) => (nodes.getD k default).tag == .default with
          | some (_, v) => scalarText nodes depth v
          | none => throw .malformed

/-- The flag that a word stands for. -/
def flagOf (s : List Char) : Except Error Bool :=
  let word := String.ofList (s.map Char.toLower)
  if ["yes", "true", "on"].contains word then return true
  else if ["no", "false", "off"].contains word then return false
  else throw .unknownFlag

/-- Whether the form is a text of its own. -/
def isScalar : Form → Bool
  | .scalar _ => true
  | _ => false

/-- The content of a node that is no collection. -/
def scalarContent (nodes : Array Node) (i : Nat) : Except Error Content := do
  let { tag, form } := nodes.getD i default
  let text := scalarText nodes (nodes.size + 1) i
  match tag with
  | .null =>
      let _ ← text
      return .null
  | .flag => return .flag (← flagOf (← text))
  | .integer => return .number (.whole (← Numeral.integer (← text)))
  | .real =>
      match ← Numeral.real? (← text) with
      | some x => return .number (.real x)
      | none => return .notANumber
  | .binary => return .binary (← Binary.ofText (← text))
  | .date =>
      let s ← text
      if isScalar form then return .date (← Date.ofText s) else throw .defaultedDate
  | .text => return .text (String.ofList (← text))
  | _ => throw .malformed

/-- Gives a node its content if it has none yet. -/
def construct (i : Nat) : Build Unit := do
  if !(← get).isMade.getD i true then
    match (← node i).tag with
    | .sequence => await i (.sequence [])
    | .mapping => await i (.mapping [])
    | .set => await i (.set [])
    | .orderedMapping => await i (.entries [])
    | .pairs => await i (.entries [])
    | _ => put i (← scalarContent (← get).nodes i)

/-! ## Merged mappings -/

/-- The pairs of a mapping. -/
def pairsOf (i : Nat) : Build (List (Nat × Nat)) := do
  match (← node i).form with
  | .mapping pairs => return pairs
  | _ => throw .malformed

/-- Gives a mapping other pairs. -/
def setPairs (i : Nat) (pairs : List (Nat × Nat)) : Build Unit :=
  modify fun st =>
    { st with nodes := st.nodes.modify i ({ · with form := .mapping pairs }) }

/-- The key of a default is a text where the mapping is no scalar. -/
def retagDefault (key : Nat) : Build Unit := do
  if (← node key).tag == .default then
    modify fun st => { st with nodes := st.nodes.modify key ({ · with tag := .text }) }

/-- Replaces the pairs of a mapping that merge, from a position on, by the pairs that they bring.
Each of them is taken out before the mappings that it names are looked at, so their number bounds
the depth, and a mapping may merge itself. -/
def flattenFrom : Nat → Nat → Nat → List (Nat × Nat) → Build Unit
  | fuel, i, position, merged => do
      let pairs ← pairsOf i
      let nodes := (← get).nodes
      let ahead := pairs.drop position
      let kept := ahead.takeWhile fun (k, _) => (nodes.getD k default).tag != .merge
      kept.forM fun (k, _) => retagDefault k
      match fuel, ahead.drop kept.length with
      | fuel + 1, (_, value) :: _ => do
          let position := position + kept.length
          setPairs i (pairs.eraseIdx position)
          let flattened := fun (j : Nat) => do
            let _ ← pairsOf j
            flattenFrom fuel j 0 []
            pairsOf j
          let more ←
            match (← node value).form with
            | .sequence items => pure (← items.mapM flattened).reverse.flatten
            | _ => flattened value
          flattenFrom fuel i position (merged ++ more)
      | _, _ => if merged.isEmpty then return else setPairs i (merged ++ pairs)

/-- The pairs of a mapping after merging. -/
def flattenedPairs (i : Nat) : Build (List (Nat × Nat)) := do
  let _ ← pairsOf i
  flattenFrom (← get).mergers i 0 []
  pairsOf i

/-! ## Collections -/

/-- Makes the contents of a pair, whose key must be fit for one. -/
def constructPair (pair : Nat × Nat) : Build Unit := do
  construct pair.1
  if !((← get).document.content pair.1).isKey then throw .malformed
  construct pair.2

/-- The pairs of a mapping with their contents made, with each key once. -/
def constructMapping (i : Nat) : Build (List (Nat × Nat)) := do
  let pairs ← flattenedPairs i
  pairs.forM constructPair
  return (← get).document.distinctKeys pairs

/-- The only pair of a mapping, with its contents made. -/
def constructEntry (i : Nat) : Build (Nat × Nat) := do
  match ← pairsOf i with
  | [(k, v)] => do
      construct k
      construct v
      return (k, v)
  | _ => throw .malformed

/-- The items of a sequence. -/
def itemsOf (i : Nat) : Build (List Nat) := do
  match (← node i).form with
  | .sequence items => return items
  | _ => throw .malformed

/-- Makes the contents of a waiting collection. -/
def complete (i : Nat) : Build Unit := do
  match (← node i).tag with
  | .sequence => do
      let items ← itemsOf i
      items.forM construct
      put i (.sequence items)
  | .mapping => put i (.mapping (← constructMapping i))
  | .set => put i (.set ((← constructMapping i).map (·.1)))
  | _ => put i (.entries (← (← itemsOf i).mapM constructEntry))

/-- Makes the contents of all waiting collections, and of those that begin to wait meanwhile. -/
def completeAll : Nat → Build Unit
  | 0 => return
  | fuel + 1 => do
      let waiting := (← get).waiting.reverse
      if !waiting.isEmpty then
        modify fun st => { st with waiting := [] }
        waiting.forM complete
        completeAll fuel

end Build

namespace Document

/-- The document with the contents of a graph. -/
def ofGraph (graph : Graph) : Except Error Document := do
  let isMerger := fun (pair : Nat × Nat) => (graph.nodes.getD pair.1 default).tag == .merge
  let mergersOf := fun (node : Node) =>
    match node.form with
    | .mapping pairs => pairs.countP isMerger
    | _ => 0
  let st : Building :=
    { nodes := graph.nodes
      document := { contents := Array.replicate graph.nodes.size .null, root := graph.root }
      isMade := Array.replicate graph.nodes.size false
      mergers := graph.nodes.foldl (fun n node => n + mergersOf node) 0 }
  -- In each round a collection is completed that will not wait again.
  let make : Build Unit := do
    Build.construct graph.root
    Build.completeAll (graph.nodes.size + 1)
  let (_, st) ← make.run st
  return st.document

/-- The document of a text: null if it has none. -/
def ofText (text : List Char) : Except Error Document := do
  match ← Graph.ofTokens (TokenStream.ofText text) with
  | some graph => ofGraph graph
  | none => return (({} : Document).add .null).2

end Document
end Yaml
end ComponentSpec

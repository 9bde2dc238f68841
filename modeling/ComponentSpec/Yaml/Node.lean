import ComponentSpec.Yaml.Tag
import ComponentSpec.Yaml.Token

/-!
# Nodes of YAML

The tokens of a text form one document: a graph of scalars, sequences and mappings, which name each
other by their numbers.  An alias is the number of the node that its anchor names.  The anchor of a
collection is known inside it, so a collection may contain itself.

Each token is looked at by a few functions of the reader; the fuel is four times the count of tokens
and some more, which no well-formed text exhausts.
-/

namespace ComponentSpec
namespace Yaml

/-- What a node consists of: a text, or the numbers of other nodes. -/
inductive Form
  | scalar (text : List Char)
  | sequence (items : List Nat)
  | mapping (pairs : List (Nat × Nat))
  deriving DecidableEq, Repr, Inhabited

/-- A node. -/
structure Node where
  tag : Tag
  form : Form
  deriving DecidableEq, Repr, Inhabited

/-- The nodes of a document and the number of the outermost one. -/
structure Graph where
  nodes : Array Node := #[]
  root : Nat := 0

namespace Node

/-- The tag of a node for which a name was given or not; the mark alone stands for none. -/
def tagOf (given : Option (List Char)) (implied : Tag) : Tag :=
  match given with
  | none => implied
  | some name => if name == ['!'] then implied else Tag.ofName name

/-- A scalar.  One in quotes is a text, unless the mark of a tag stands before it. -/
def ofScalar (given : Option (List Char)) (text : List Char) (plain : Bool) : Node :=
  let implied := if plain || given.isSome then Tag.ofSpelling text else .text
  { tag := tagOf given implied, form := .scalar text }

/-! ## The state of the reader -/

/-- The tokens that are still to be read and the error that ends them, the handles of tags, the
number of collections that are open, the anchors so far, and the nodes. -/
structure ReaderState where
  tokens : List Token
  error : Option Error
  handles : List (List Char × List Char)
  depth : Nat := 0
  anchors : List (List Char × Nat) := []
  nodes : Array Node := #[]

/-- A reader of tokens. -/
abbrev Reader := StateT ReaderState (Except Error)

/-- The next token. -/
def nextToken? : Reader (Option Token) := do
  match ← get with
  | { tokens := [], error := some e, .. } => throw e
  | st => return st.tokens.head?

/-- Takes the next token. -/
def skipToken : Reader Unit :=
  modify fun st => { st with tokens := st.tokens.tail }

/-- Takes the next token if it is the given one. -/
def accept (token : Token) : Reader Bool := do
  if (← nextToken?) == some token then
    skipToken
    return true
  else
    return false

/-- Takes the given token, which must be next. -/
def expect (token : Token) : Reader Unit := do
  if !(← accept token) then throw .malformed

/-- Whether the next token is one of the given ones or is missing. -/
def atOneOf (tokens : List Token) : Reader Bool := do
  match ← nextToken? with
  | some token => return tokens.contains token
  | none => return true

/-! ## Anchors and tags -/

/-- What stands before the content of a node: an anchor and the name of a tag. -/
structure Properties where
  anchor : Option (List Char)
  tag : Option (List Char)

namespace Properties

/-- Whether nothing stands before the content. -/
def isEmpty (properties : Properties) : Bool :=
  properties.anchor.isNone && properties.tag.isNone

end Properties

/-- Reads a tag if one is next. -/
def readTag : Reader (Option (Option (List Char) × List Char)) := do
  match ← nextToken? with
  | some (.tag handle suffix) =>
      skipToken
      return some (handle, suffix)
  | _ => return none

/-- Reads an anchor if one is next. -/
def readAnchor : Reader (Option (List Char)) := do
  match ← nextToken? with
  | some (.anchor name) =>
      skipToken
      return some name
  | _ => return none

/-- The name of a tag with a handle and a suffix. -/
def expandTag (tag : Option (List Char) × List Char) : Reader (List Char) := do
  match tag with
  | (none, suffix) => return suffix
  | (some handle, suffix) =>
      match (← get).handles.lookup handle with
      | some start => return start ++ suffix
      | none => throw .malformed

/-- Reads an anchor and a tag in either order. -/
def readProperties : Reader Properties := do
  match ← readAnchor with
  | some name => return { anchor := some name, tag := ← (← readTag).mapM expandTag }
  | none =>
      match ← readTag with
      | some tag => return { anchor := ← readAnchor, tag := ← expandTag tag }
      | none => return { anchor := none, tag := none }

/-- Adds a node under its anchor, which must be new, and gives its number. -/
def add (anchor : Option (List Char)) (node : Node) : Reader Nat := do
  match anchor with
  | some name => if ((← get).anchors.lookup name).isSome then throw .malformed
  | none => pure ()
  modifyGet fun st =>
    let number := st.nodes.size
    let anchors :=
      match anchor with
      | some name => (name, number) :: st.anchors
      | none => st.anchors
    (number, { st with nodes := st.nodes.push node, anchors })

/-- Adds a scalar that was left out after some properties. -/
def addAbsent (properties : Properties) : Reader Nat :=
  add properties.anchor (ofScalar properties.tag [] true)

/-- Adds a scalar that was left out. -/
def absent : Reader Nat :=
  addAbsent ⟨none, none⟩

/-- The greatest number of collections that may be open in each other. -/
def depthLimit : Nat := 487

/-- Adds a collection and reads what is in it. -/
def addCollection {α : Type} (anchor : Option (List Char)) (tag : Tag) (form : List α → Form)
    (content : Reader (List α)) : Reader Nat := do
  if depthLimit ≤ (← get).depth then throw .tooDeep
  let number ← add anchor { tag, form := form [] }
  modify fun st => { st with depth := st.depth + 1 }
  let items ← content
  modify fun st =>
    { st with
      depth := st.depth - 1
      nodes := st.nodes.modify number ({ · with form := form items }) }
  return number

/-- Adds a sequence whose items are read by a reader. -/
def addSequence (properties : Properties) (items : Reader (List Nat)) : Reader Nat :=
  addCollection properties.anchor (tagOf properties.tag .sequence) .sequence items

/-- Adds a mapping whose pairs are read by a reader. -/
def addMapping (properties : Properties) (pairs : Reader (List (Nat × Nat))) : Reader Nat :=
  addCollection properties.anchor (tagOf properties.tag .mapping) .mapping pairs

/-! ## The reader -/

mutual

/-- Reads a node.  `block` allows a block collection, and `indentless` a sequence whose dashes stand
at the indentation of their key. -/
def readNode (block indentless : Bool) : Nat → Reader Nat
  | 0 => throw .malformed
  | fuel + 1 => do
      match ← nextToken? with
      | some (.alias name) => do
          skipToken
          match (← get).anchors.lookup name with
          | some number => return number
          | none => throw .malformed
      | _ => readContent block indentless (← readProperties) fuel

/-- Reads a node after its properties. -/
def readContent (block indentless : Bool) (properties : Properties) : Nat → Reader Nat
  | 0 => throw .malformed
  | fuel + 1 => do
      let leftOut := if properties.isEmpty then throw .malformed else addAbsent properties
      match ← nextToken? with
      | some .blockEntry =>
          if indentless then addSequence properties (readIndentless fuel) else leftOut
      | some (.scalar text plain) => do
          skipToken
          add properties.anchor (ofScalar properties.tag text plain)
      | some .flowSequenceStart => do
          skipToken
          addSequence properties (readFlowItems true fuel)
      | some .flowMappingStart => do
          skipToken
          addMapping properties (readFlowPairs true fuel)
      | some .blockSequenceStart =>
          if block then do
            skipToken
            addSequence properties (readEntries fuel)
          else leftOut
      | some .blockMappingStart =>
          if block then do
            skipToken
            addMapping properties (readPairs fuel)
          else leftOut
      | _ => leftOut

/-- Reads a node unless one of some tokens is next, which leaves it out. -/
def readUnless (tokens : List Token) (block indentless : Bool) : Nat → Reader Nat
  | 0 => throw .malformed
  | fuel + 1 => do
      if ← atOneOf tokens then absent else readNode block indentless fuel

/-- Reads a value after its mark, if there is one; some tokens leave it out. -/
def readValue (tokens : List Token) (block indentless : Bool) : Nat → Reader Nat
  | 0 => throw .malformed
  | fuel + 1 => do
      if ← accept .value then readUnless tokens block indentless fuel else absent

/-- Reads the entries of a block sequence and its end. -/
def readEntries : Nat → Reader (List Nat)
  | 0 => throw .malformed
  | fuel + 1 => do
      if ← accept .blockEntry then
        let entry ← readUnless [.blockEntry, .blockEnd] true false fuel
        return entry :: (← readEntries fuel)
      else
        expect .blockEnd
        return []

/-- Reads the entries of a sequence that has no indentation of its own. -/
def readIndentless : Nat → Reader (List Nat)
  | 0 => throw .malformed
  | fuel + 1 => do
      if ← accept .blockEntry then
        let entry ← readUnless [.blockEntry, .key, .value, .blockEnd] true false fuel
        return entry :: (← readIndentless fuel)
      else
        return []

/-- Reads the pairs of a block mapping and its end. -/
def readPairs : Nat → Reader (List (Nat × Nat))
  | 0 => throw .malformed
  | fuel + 1 => do
      if ← accept .key then
        let name ← readUnless [.key, .value, .blockEnd] true true fuel
        let content ← readValue [.key, .value, .blockEnd] true true fuel
        return (name, content) :: (← readPairs fuel)
      else
        expect .blockEnd
        return []

/-- Reads the items of a sequence in brackets and its end; a pair among them is a mapping. -/
def readFlowItems (first : Bool) : Nat → Reader (List Nat)
  | 0 => throw .malformed
  | fuel + 1 => do
      if ← accept .flowSequenceEnd then return []
      if !first then
        expect .flowEntry
        if ← accept .flowSequenceEnd then return []
      let item ←
        if ← accept .key then addMapping ⟨none, none⟩ (readFlowPair fuel)
        else readNode false false fuel
      return item :: (← readFlowItems false fuel)

/-- Reads the pair that is an item of a sequence in brackets. -/
def readFlowPair : Nat → Reader (List (Nat × Nat))
  | 0 => throw .malformed
  | fuel + 1 => do
      let name ← readUnless [.value, .flowEntry, .flowSequenceEnd] false false fuel
      let content ← readValue [.flowEntry, .flowSequenceEnd] false false fuel
      return [(name, content)]

/-- Reads the pairs of a mapping in braces and its end. -/
def readFlowPairs (first : Bool) : Nat → Reader (List (Nat × Nat))
  | 0 => throw .malformed
  | fuel + 1 => do
      if ← accept .flowMappingEnd then return []
      if !first then
        expect .flowEntry
        if ← accept .flowMappingEnd then return []
      let pair : Nat × Nat ←
        if ← accept .key then
          let name ← readUnless [.value, .flowEntry, .flowMappingEnd] false false fuel
          pure (name, ← readValue [.flowEntry, .flowMappingEnd] false false fuel)
        else
          let name ← readNode false false fuel
          pure (name, ← absent)
      return pair :: (← readFlowPairs false fuel)

end

/-! ## Documents -/

/-- The versions among some tokens. -/
def versions (tokens : List Token) : List Nat :=
  tokens.filterMap fun token => match token with | .version major => some major | _ => none

/-- The handles of tags among some tokens. -/
def givenHandles (tokens : List Token) : List (List Char × List Char) :=
  tokens.filterMap fun token =>
    match token with
    | .handle name start => some (name, start)
    | _ => none

/-- The handles that every document has, unless it gives them another meaning. -/
def usualHandles : List (List Char × List Char) :=
  [(['!'], ['!']), (['!', '!'], Tag.usualStart.toList)]

/-- Whether a token is a directive. -/
def isDirective : Token → Bool
  | .version _ => true
  | .handle _ _ => true
  | .directive => true
  | _ => false

/-- The handles of the first document, and the tokens from its content on. -/
def openDocument (stream : TokenStream) :
    Except Error (List (List Char × List Char) × List Token) :=
  let tokens := stream.tokens
  match tokens with
  | .documentStart :: rest => return (usualHandles, rest)
  | token :: _ =>
      if isDirective token then
        let directives := tokens.takeWhile isDirective
        let majors := versions directives
        let handles := givenHandles directives
        if 1 < majors.length || majors.any (· != 1) || !(handles.map (·.1)).Nodup then
          throw .malformed
        else
          -- Directives must be followed by the mark of a document.
          match tokens.dropWhile isDirective with
          | .documentStart :: rest => return (handles ++ usualHandles, rest)
          | [] => throw (stream.error.getD .malformed)
          | _ => throw .malformed
      else return (usualHandles, tokens)
  | [] => return (usualHandles, [])

/-- Whether a document ends before the token. -/
def endsDocument : Token → Bool
  | .documentStart => true
  | .documentEnd => true
  | token => isDirective token

end Node

/-- The nodes of the only document, or nothing if there is none. -/
def Graph.ofTokens (stream : TokenStream) : Except Error (Option Graph) :=
  if stream.tokens.isEmpty && stream.error.isNone then return none
  else do
    let (handles, content) ← Node.openDocument stream
    let isEmpty := content.length != stream.tokens.length && content.head?.any Node.endsDocument ||
      content.isEmpty && stream.error.isNone
    let reader :=
      if isEmpty then Node.absent else Node.readNode true false (4 * content.length + 8)
    let (root, st) ← reader.run { tokens := content, error := stream.error, handles }
    let rest := st.tokens.dropWhile (· == .documentEnd)
    if rest.isEmpty && stream.error.isNone then return some { nodes := st.nodes, root }
    else do
      -- There may be one document only, but an error among the directives of another comes first.
      let _ ← Node.openDocument { stream with tokens := rest }
      throw (if rest.isEmpty then stream.error.getD .malformed else .malformed)

end Yaml
end ComponentSpec

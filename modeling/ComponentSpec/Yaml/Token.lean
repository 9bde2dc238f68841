import ComponentSpec.Number.Numeral
import ComponentSpec.Yaml.Scalar

/-!
# Tokens of YAML

A YAML text is a sequence of marks and scalars.  The indentation of a text shows in its tokens: a
block begins where the column of an entry or of a key grows, and ends where it falls back.

A key is recognised only by the colon after it.  Every place where a key could have begun is kept as
a candidate until its line ends; when the colon comes, the mark of the key is put in there.  Outside
brackets a candidate that stands at the indentation of its block has to become a key.

An error ends the tokens of a text.  Its last tokens count only up to the first candidate, for which
the error is met before the candidate is decided.
-/

namespace ComponentSpec
namespace Yaml

/-- The marks and scalars of a text. -/
inductive Token
  | version (major : Nat)
  | handle (name : List Char) (start : List Char)
  | directive
  | documentStart
  | documentEnd
  | blockSequenceStart
  | blockMappingStart
  | blockEnd
  | flowSequenceStart
  | flowSequenceEnd
  | flowMappingStart
  | flowMappingEnd
  | blockEntry
  | flowEntry
  | key
  | value
  | alias (name : List Char)
  | anchor (name : List Char)
  | tag (handle : Option (List Char)) (suffix : List Char)
  | scalar (text : List Char) (plain : Bool)
  deriving DecidableEq, Repr

/-- The tokens of a text, and the error that ends them if there is one. -/
structure TokenStream where
  tokens : List Token
  error : Option Error := none

/-- A place where a key may have begun. -/
structure Candidate where
  flow : Nat
  position : Nat
  required : Bool
  index : Nat
  line : Nat
  column : Nat

/-- How far a text has been read: the tokens so far from the last to the first and their number, the
depth of brackets, the indentations of the open blocks, whether a key may begin, and the candidates
for keys. -/
structure Scanner where
  cursor : Cursor
  tokens : List Token := []
  count : Nat := 0
  flow : Nat := 0
  indent : Int := -1
  outer : List Int := []
  keyAllowed : Bool := true
  candidates : List Candidate := []

namespace Scanner

/-! ## Candidates and indentation -/

/-- Adds a token. -/
def emit (st : Scanner) (token : Token) : Scanner :=
  { st with tokens := token :: st.tokens, count := st.count + 1 }

/-- Puts a token in before those from a position on. -/
def insert (st : Scanner) (position : Nat) (token : Token) : Scanner :=
  let after := st.count - position
  { st with
    tokens := st.tokens.take after ++ token :: st.tokens.drop after, count := st.count + 1 }

/-- Reads some characters. -/
def skip (st : Scanner) (n : Nat) : Scanner :=
  { st with cursor := st.cursor.advance n }

/-- The greatest length of a key that no question mark announces. -/
def keyLimit : Nat := 1024

/-- Whether the line of a candidate is over, or it has become too long. -/
def isStale (st : Scanner) (k : Candidate) : Bool :=
  k.line != st.cursor.line || keyLimit < st.cursor.index - k.index

/-- Gives up the candidates whose line is over. -/
def dropStale (st : Scanner) : Except Error Scanner :=
  if st.candidates.any fun k => st.isStale k && k.required then throw .malformed
  else return { st with candidates := st.candidates.filter (!st.isStale ·) }

/-- Gives up the candidate at the present depth of brackets. -/
def dropCandidate (st : Scanner) : Except Error Scanner :=
  if st.candidates.any fun k => k.flow == st.flow && k.required then throw .malformed
  else return { st with candidates := st.candidates.filter fun k => k.flow != st.flow }

/-- Makes the cursor a candidate if a key may begin here. -/
def saveCandidate (st : Scanner) : Except Error Scanner :=
  let required := st.flow == 0 && st.indent == st.cursor.column
  if st.keyAllowed then
    st.dropCandidate.map fun st =>
      { st with
        candidates := st.candidates ++ [{
          flow := st.flow, position := st.count, required, index := st.cursor.index
          line := st.cursor.line, column := st.cursor.column }] }
  else return st

/-- Closes the blocks that are indented more deeply than a column. -/
def unwindTo (column : Int) : Nat → Scanner → Scanner
  | 0, st => st
  | fuel + 1, st =>
      if column < st.indent then
        let st := st.emit .blockEnd
        unwindTo column fuel { st with indent := st.outer.headD (-1), outer := st.outer.tail }
      else st

/-- Closes blocks, which brackets keep open. -/
def unwind (st : Scanner) (column : Int) : Scanner :=
  if st.flow == 0 then unwindTo column (st.outer.length + 1) st else st

/-- Opens a block at a column if that is deeper than the present one. -/
def indentTo (st : Scanner) (column : Nat) : Bool × Scanner :=
  if st.indent < column then
    (true, { st with indent := column, outer := st.indent :: st.outer })
  else (false, st)

/-! ## Marks -/

/-- Reads spaces, comments and line ends before a token. -/
def skipToToken : Nat → Scanner → Scanner
  | 0, st => st
  | fuel + 1, st =>
      let cursor := st.cursor.skipWhile (· == ' ')
      let cursor := if cursor.peek 0 == some '#' then cursor.skipWhile (!isBreak ·) else cursor
      if cursor.atBreak then
        skipToToken fuel
          { st with cursor := cursor.lineBreak.2, keyAllowed := st.keyAllowed || st.flow == 0 }
      else { st with cursor }

/-- Ends everything before a directive or a mark of a document. -/
def endBlocks (st : Scanner) : Except Error Scanner :=
  (st.unwind (-1)).dropCandidate.map ({ · with keyAllowed := false })

/-- An opening bracket. -/
def openFlow (st : Scanner) (token : Token) : Except Error Scanner :=
  st.saveCandidate.map fun st =>
    { st.emit token with cursor := st.cursor.next, flow := st.flow + 1, keyAllowed := true }

/-- A closing bracket. -/
def closeFlow (st : Scanner) (token : Token) : Except Error Scanner :=
  if st.flow == 0 then throw .malformed
  else
    st.dropCandidate.map fun st =>
      { st.emit token with cursor := st.cursor.next, flow := st.flow - 1, keyAllowed := false }

/-- A comma between brackets. -/
def flowEntry (st : Scanner) : Except Error Scanner :=
  (dropCandidate { st with keyAllowed := true }).map fun st => (st.emit .flowEntry).skip 1

/-- A dash before an entry of a sequence. -/
def blockEntry (st : Scanner) : Except Error Scanner :=
  if st.flow == 0 && !st.keyAllowed then throw .malformed
  else
    let st :=
      if st.flow == 0 then
        let (opened, st) := st.indentTo st.cursor.column
        if opened then st.emit .blockSequenceStart else st
      else st
    (dropCandidate { st with keyAllowed := true }).map fun st => (st.emit .blockEntry).skip 1

/-- Opens a mapping for a key at the cursor. -/
def openMapping (st : Scanner) : Except Error Scanner :=
  if st.flow == 0 then
    if st.keyAllowed then
      let (opened, st) := st.indentTo st.cursor.column
      return if opened then st.emit .blockMappingStart else st
    else throw .malformed
  else return st

/-- A question mark before a key. -/
def explicitKey (st : Scanner) : Except Error Scanner := do
  let st ← st.openMapping
  let st ← dropCandidate { st with keyAllowed := st.flow == 0 }
  return (st.emit .key).skip 1

/-- A colon before a value: it makes the candidate a key, if there is one. -/
def valueMark (st : Scanner) : Except Error Scanner :=
  match st.candidates.find? fun k => k.flow == st.flow with
  | some k =>
      let st := { st with candidates := st.candidates.filter fun k => k.flow != st.flow }
      let (opened, st) := if st.flow == 0 then st.indentTo k.column else (false, st)
      -- The marks go in before what has been read since the key began.
      let st := st.insert k.position .key
      let st := if opened then st.insert k.position .blockMappingStart else st
      return (emit { st with keyAllowed := false } .value).skip 1
  | none => do
      let st ← st.openMapping
      let st ← dropCandidate { st with keyAllowed := st.flow == 0 }
      return (st.emit .value).skip 1

/-! ## Names, tags and directives -/

/-- Whether the character may be part of a name. -/
def isNameChar (c : Char) : Bool :=
  c.isAlphanum || c == '-' || c == '_'

/-- The name of an anchor or of an alias after its mark. -/
def nameToken (st : Scanner) (token : List Char → Token) : Except Error Scanner :=
  let (name, cursor) := st.cursor.next.takeWhile isNameChar
  let ends := cursor.isGap 0 ||
    (cursor.peek 0).any ['?', ':', ',', ']', '\x7d', '%', '@', '\x60'].contains
  if name.isEmpty || !ends then throw .malformed
  else
    st.saveCandidate.map fun st => { st.emit (token name) with cursor, keyAllowed := false }

/-- Whether the character may be part of a tag. -/
def isTagChar (c : Char) : Bool :=
  c.isAlphanum || "-;/?:@&=+$,_.!~*'()[]%".toList.contains c

/-- The bytes that percent signs spell at the beginning of a text, and the text after them. -/
def spanPercents : List Char → Except Error (List UInt8 × List Char)
  | '%' :: a :: b :: rest =>
      match hexDigit? a, hexDigit? b with
      | some x, some y => do
          let (bytes, rest) ← spanPercents rest
          return (UInt8.ofNat (16 * x + y) :: bytes, rest)
      | _, _ => throw .malformed
  | '%' :: _ => throw .malformed
  | rest => return ([], rest)

/-- The text with the characters that percent signs spell. -/
def withoutPercents : Nat → List Char → Except Error (List Char)
  | 0, _ => return []
  | _, [] => return []
  | fuel + 1, c :: rest =>
      if c == '%' then do
        let (bytes, rest) ← spanPercents (c :: rest)
        match String.fromUTF8? ⟨bytes.toArray⟩ with
        | some s => return s.toList ++ (← withoutPercents fuel rest)
        | none => throw .malformed
      else return c :: (← withoutPercents fuel rest)

/-- A part of a tag, which may not be empty. -/
def readTagPart (cursor : Cursor) : Except Error (List Char × Cursor) := do
  let (s, cursor) := cursor.takeWhile isTagChar
  if s.isEmpty then throw .malformed
  return (← withoutPercents s.length s, cursor)

/-- Whether the line ends at the cursor or goes on with a space. -/
def endsWord (cursor : Cursor) : Bool :=
  cursor.rest.isEmpty || cursor.peek 0 == some ' ' || cursor.atBreak

/-- A handle with a name between two marks. -/
def readNamedHandle (cursor : Cursor) : Except Error (List Char × Cursor) :=
  let (name, after) := cursor.next.takeWhile isNameChar
  if cursor.peek 0 == some '!' && after.peek 0 == some '!' then
    return ('!' :: name ++ ['!'], after.next)
  else throw .malformed

/-- A tag from its mark on. -/
def tagToken (st : Scanner) : Except Error Scanner := do
  let cursor := st.cursor
  let (handle, suffix, after) ←
    if cursor.peek 1 == some '<' then do
      let (name, after) ← readTagPart (cursor.advance 2)
      if after.peek 0 != some '>' then throw .malformed
      pure (none, name, after.next)
    else if cursor.isGap 1 then pure (none, ['!'], cursor.next)
    else do
      let word := cursor.rest.tail.takeWhile fun c => c != ' ' && !isBreak c
      let (handle, after) ←
        if word.contains '!' then readNamedHandle cursor else pure (['!'], cursor.next)
      let (suffix, after) ← readTagPart after
      pure (some handle, suffix, after)
  if endsWord after then
    let st ← st.saveCandidate
    return { st.emit (.tag handle suffix) with cursor := after, keyAllowed := false }
  else throw .malformed

/-- The number of a version at the cursor. -/
def readVersionNumber (cursor : Cursor) : Except Error (Nat × Cursor) :=
  let (digits, cursor) := cursor.takeWhile Char.isDigit
  if digits.isEmpty then throw .malformed
  else if Fault.digitLimit < digits.length then throw .noSuchValue
  else return (natOfDigits (spanDigits digits).1, cursor)

/-- The rest of the line of a directive, which holds a comment at most. -/
def endDirective (st : Scanner) (token : Token) (cursor : Cursor) : Except Error Scanner :=
  let cursor := cursor.skipWhile (· == ' ')
  let cursor := if cursor.peek 0 == some '#' then cursor.skipWhile (!isBreak ·) else cursor
  if cursor.rest.isEmpty || cursor.atBreak then
    return { st.emit token with cursor := cursor.lineBreak.2 }
  else throw .malformed

/-- A directive from its percent sign on. -/
def directiveToken (st : Scanner) : Except Error Scanner := do
  let (name, cursor) := st.cursor.next.takeWhile isNameChar
  if name.isEmpty || !endsWord cursor then throw .malformed
  if name == "YAML".toList then
    let (major, cursor) ← readVersionNumber (cursor.skipWhile (· == ' '))
    if cursor.peek 0 != some '.' then throw .malformed
    let (_, cursor) ← readVersionNumber cursor.next
    if !endsWord cursor then throw .malformed
    st.endDirective (.version major) cursor
  else if name == "TAG".toList then
    let cursor := cursor.skipWhile (· == ' ')
    let (name, cursor) ←
      if cursor.rest.take 2 == ['!', ' '] then pure (['!'], cursor.next) else readNamedHandle cursor
    if cursor.peek 0 != some ' ' then throw .malformed
    let (start, cursor) ← readTagPart (cursor.skipWhile (· == ' '))
    if !endsWord cursor then throw .malformed
    st.endDirective (.handle name start) cursor
  else st.endDirective .directive (cursor.skipWhile (!isBreak ·))

/-! ## The next token -/

/-- Reads the token at the cursor, which is not at the end of the text. -/
def readToken (st : Scanner) : Except Error Scanner :=
  let cursor := st.cursor
  let gapAfter := cursor.isGap 1
  let inFlow := st.flow != 0
  -- Directives and the marks of documents stand at the beginning of a line.
  if cursor.column == 0 && cursor.peek 0 == some '%' then
    st.endBlocks.bind directiveToken
  else if cursor.column == 0 && cursor.atTriple '-' then
    st.endBlocks.map fun st => (st.emit .documentStart).skip 3
  else if cursor.column == 0 && cursor.atTriple '.' then
    st.endBlocks.map fun st => (st.emit .documentEnd).skip 3
  else
    match cursor.rest with
    | [] => throw .malformed
    | c :: _ =>
        if c == '[' then st.openFlow .flowSequenceStart
        else if c == '\x7b' then st.openFlow .flowMappingStart
        else if c == ']' then st.closeFlow .flowSequenceEnd
        else if c == '\x7d' then st.closeFlow .flowMappingEnd
        else if c == ',' && inFlow then st.flowEntry
        else if c == '-' && gapAfter then st.blockEntry
        else if c == '?' && (inFlow || gapAfter) then st.explicitKey
        else if c == ':' && (inFlow || gapAfter) then st.valueMark
        else if c == '*' then st.nameToken .alias
        else if c == '&' then st.nameToken .anchor
        else if c == '!' then st.tagToken
        else if (c == '|' || c == '>') && !inFlow then do
          let st ← dropCandidate { st with keyAllowed := true }
          let (text, cursor) ← readBlock st.indent st.cursor
          return { st.emit (.scalar text false) with cursor }
        else if c == '\'' || c == '"' then do
          let st ← st.saveCandidate
          let (text, cursor) ← readQuoted st.cursor
          return { st.emit (.scalar text false) with cursor, keyAllowed := false }
        else if !"-?:,[]\x7b\x7d#&*!|>'\"%@\x60\t".toList.contains c ||
            (!gapAfter && (c == '-' || (!inFlow && (c == '?' || c == ':')))) then do
          let st ← st.saveCandidate
          let (text, ended, cursor) := plainScalar inFlow st.indent st.cursor
          return { st.emit (.scalar text true) with cursor, keyAllowed := ended }
        else throw .malformed

/-- The scanner after the next token, or after the marks at the end of the text. -/
def advance (st : Scanner) : Except Error Scanner := do
  let st := skipToToken (st.cursor.remaining + 1) st
  -- A new line ends the hope of the candidates before it, and a smaller column their blocks.
  let st ← st.dropStale
  let st := st.unwind st.cursor.column
  if st.cursor.rest.isEmpty then (st.unwind (-1)).dropCandidate else st.readToken

/-- The tokens before an error. -/
def stop (st : Scanner) (error : Error) : TokenStream :=
  let undecided := (st.candidates.filter (!st.isStale ·)).map (·.position)
  let count := undecided.foldl min st.count
  { tokens := (st.tokens.drop (st.count - count)).reverse, error := some error }

/-- Reads all tokens. -/
def readTokens : Nat → Scanner → TokenStream
  | 0, st => st.stop .malformed
  | fuel + 1, st =>
      match st.advance with
      | .error e => st.stop e
      | .ok after =>
          if after.cursor.rest.isEmpty && st.cursor.rest.isEmpty then
            { tokens := after.tokens.reverse }
          else readTokens fuel after

end Scanner

/-- The tokens of a text that has only characters that may stand in one. -/
def TokenStream.ofText (text : List Char) : TokenStream :=
  if text.all isAllowed then
    let text := if text.head? == some orderMark then text.tail else text
    Scanner.readTokens (text.length + 3) { cursor := .ofText text }
  else { tokens := [], error := some .malformed }

end Yaml
end ComponentSpec

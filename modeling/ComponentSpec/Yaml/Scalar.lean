import ComponentSpec.Yaml.Cursor
import ComponentSpec.Yaml.Error

/-!
# Scalars of YAML

The three ways to write a scalar: between quotes, as a block under a header line, and plain.  Each
scanner begins at the first character of the scalar and gives its text and the cursor after it.
Loops run at most once for each character that is left, which the fuel counts.
-/

namespace ComponentSpec
namespace Yaml

open Cursor

/-! ## Quoted scalars -/

/-- The characters that a letter after a backslash stands for. -/
def escapes : List (Char × Nat) := [
  ('0', 0), ('a', 7), ('b', 8), ('t', 9), ('\t', 9), ('n', 10), ('v', 11), ('f', 12), ('r', 13),
  ('e', 27), (' ', 32), ('"', 34), ('\\', 92), ('/', 47), ('N', 0x85), ('_', 0xA0),
  ('L', 0x2028), ('P', 0x2029)]

/-- The letters after a backslash that introduce a number, with its count of digits. -/
def numberEscapes : List (Char × Nat) := [('x', 2), ('u', 4), ('U', 8)]

/-- The line breaks between two parts of a quoted scalar, which no document mark may follow. -/
def quotedBreaks : Nat → Cursor → Except Error (List Char × Cursor)
  | 0, _ => throw .malformed
  | fuel + 1, cursor =>
      if cursor.atDocumentMark then throw .malformed
      else
        let cursor := cursor.skipWhile fun c => c == ' ' || c == '\t'
        if cursor.atBreak then do
          let (first, cursor) := cursor.lineBreak
          let (more, cursor) ← quotedBreaks fuel cursor
          return (first ++ more, cursor)
        else return ([], cursor)

/-- Blanks inside a quoted scalar: kept on a line, folded at its end. -/
def quotedSpaces (cursor : Cursor) : Except Error (List Char × Cursor) :=
  let (blanks, cursor) := cursor.takeWhile fun c => c == ' ' || c == '\t'
  if cursor.rest.isEmpty then throw .malformed
  else if cursor.atBreak then do
    let (first, cursor) := cursor.lineBreak
    let (more, cursor) ← quotedBreaks (cursor.remaining + 1) cursor
    if first != ['\n'] then return (first ++ more, cursor)
    else if more.isEmpty then return ([' '], cursor)
    else return (more, cursor)
  else return (blanks, cursor)

/-- The number beyond which a number of a character is not even looked up. -/
def codeLimit : Nat := 0x80000000

/-- The character with a number that an escape gives. -/
def charOf (n : Nat) : Except Error Char :=
  if codeLimit ≤ n then throw .tooLarge
  else if 0x110000 ≤ n then throw .noSuchValue
  else return Char.ofNat n

/-- An escape after a backslash. -/
def readEscape (cursor : Cursor) : Except Error (List Char × Cursor) :=
  match cursor.rest with
  | [] => throw .malformed
  | c :: _ =>
      match escapes.lookup c with
      | some n => return ([Char.ofNat n], cursor.next)
      | none =>
          match numberEscapes.lookup c with
          | some count =>
              let cursor := cursor.next
              let digits := (cursor.rest.take count).filterMap hexDigit?
              if digits.length == count then
                (charOf (digits.foldl (fun n d => 16 * n + d) 0)).map fun c =>
                  ([c], cursor.advance count)
              else throw .malformed
          | none =>
              if cursor.atBreak then
                let cursor := cursor.lineBreak.2
                quotedBreaks (cursor.remaining + 1) cursor
              else throw .malformed

/-- The characters of a quoted scalar up to its closing quote. -/
def quotedBody (double : Bool) : Nat → Cursor → Except Error (List Char × Cursor)
  | 0, _ => throw .malformed
  | fuel + 1, cursor =>
      let continueWith := fun (part : List Char × Cursor) =>
        (quotedBody double fuel part.2).map fun (more, cursor) => (part.1 ++ more, cursor)
      match cursor.rest with
      | [] => throw .malformed
      | '\'' :: rest =>
          if double then continueWith (['\''], cursor.next)
          else if rest.head? == some '\'' then continueWith (['\''], cursor.advance 2)
          else return ([], cursor.next)
      | '"' :: _ => if double then return ([], cursor.next) else continueWith (['"'], cursor.next)
      | '\\' :: _ =>
          if double then (readEscape cursor.next).bind continueWith
          else continueWith (['\\'], cursor.next)
      | c :: _ =>
          if c == ' ' || c == '\t' || isBreak c then (quotedSpaces cursor).bind continueWith
          else continueWith ([c], cursor.next)

/-- A scalar between quotes, from its opening quote on. -/
def readQuoted (cursor : Cursor) : Except Error (List Char × Cursor) :=
  match cursor.rest with
  | '"' :: _ => quotedBody true (cursor.remaining + 1) cursor.next
  | '\'' :: _ => quotedBody false (cursor.remaining + 1) cursor.next
  | _ => throw .malformed

/-! ## Block scalars -/

/-- What happens to the line breaks at the end of a block scalar. -/
inductive Chomping
  | strip
  | clip
  | keep
  deriving DecidableEq

/-- The header of a block scalar: its chomping and the indentation it gives, in either order. -/
def blockHeader? (cursor : Cursor) : Option (Chomping × Option Nat × Cursor) :=
  let chomping? := fun (c : Char) =>
    if c == '+' then some Chomping.keep else if c == '-' then some Chomping.strip else none
  let increment? := fun (c : Char) =>
    if c.isDigit then some (c.toNat - 48) else none
  let (chomping, increment, cursor) :=
    match (cursor.peek 0).bind chomping? with
    | some chomping =>
        let cursor := cursor.next
        match (cursor.peek 0).bind increment? with
        | some n => (chomping, some n, cursor.next)
        | none => (chomping, none, cursor)
    | none =>
        match (cursor.peek 0).bind increment? with
        | some n =>
            let cursor := cursor.next
            match (cursor.peek 0).bind chomping? with
            | some chomping => (chomping, some n, cursor.next)
            | none => (.clip, some n, cursor)
        | none => (.clip, none, cursor)
  let isOver := cursor.rest.isEmpty || cursor.peek 0 == some ' ' || cursor.atBreak
  let cursor := cursor.skipWhile (· == ' ')
  let cursor := if cursor.peek 0 == some '#' then cursor.skipWhile (!isBreak ·) else cursor
  if increment == some 0 || !isOver || !(cursor.rest.isEmpty || cursor.atBreak) then none
  else some (chomping, increment, cursor.lineBreak.2)

/-- The empty lines before a block scalar and the greatest indentation among them. -/
def blockIndentation : Nat → Cursor → List Char × Nat × Cursor
  | 0, cursor => ([], 0, cursor)
  | fuel + 1, cursor =>
      if cursor.peek 0 == some ' ' then
        let cursor := cursor.next
        let (breaks, deepest, after) := blockIndentation fuel cursor
        (breaks, max cursor.column deepest, after)
      else if cursor.atBreak then
        let (first, cursor) := cursor.lineBreak
        let (breaks, deepest, after) := blockIndentation fuel cursor
        (first ++ breaks, deepest, after)
      else ([], 0, cursor)

/-- The cursor after the spaces of an indentation. -/
def skipIndentation (indent : Nat) (cursor : Cursor) : Cursor :=
  cursor.advance ((cursor.rest.takeWhile (· == ' ')).length.min (indent - cursor.column))

/-- The empty lines inside a block scalar, and the cursor at the indentation of the next one. -/
def blockBreaks (indent : Nat) : Nat → Cursor → List Char × Cursor
  | 0, cursor => ([], cursor)
  | fuel + 1, cursor =>
      let cursor := skipIndentation indent cursor
      if cursor.atBreak then
        let (first, cursor) := cursor.lineBreak
        let (more, cursor) := blockBreaks indent fuel cursor
        (first ++ more, cursor)
      else ([], cursor)

/-- Whether the line at the cursor begins with a blank and is therefore not folded. -/
def beginsWithBlank (cursor : Cursor) : Bool :=
  cursor.peek 0 == some ' ' || cursor.peek 0 == some '\t'

/-- The lines of a block scalar after the empty lines `breaks`. -/
def blockLines (folded : Bool) (chomping : Chomping) (indent : Nat) :
    Nat → List Char → Cursor → List Char × Cursor
  | 0, _, cursor => ([], cursor)
  | fuel + 1, breaks, cursor =>
      let leadingBlank := beginsWithBlank cursor
      let (text, cursor) := cursor.takeWhile (!isBreak ·)
      let (lineEnd, cursor) := cursor.lineBreak
      let (more, cursor) := blockBreaks indent (cursor.remaining + 1) cursor
      if cursor.column == indent && !cursor.rest.isEmpty then
        -- Two lines are joined by a space only if neither is set off by a blank.
        let joint :=
          if folded && lineEnd == ['\n'] && !leadingBlank && !beginsWithBlank cursor then
            if more.isEmpty then [' '] else []
          else lineEnd
        let (rest, cursor) := blockLines folded chomping indent fuel more cursor
        (breaks ++ text ++ joint ++ rest, cursor)
      else
        let finish :=
          match chomping with
          | .strip => []
          | .clip => lineEnd
          | .keep => lineEnd ++ more
        (breaks ++ text ++ finish, cursor)

/-- A block scalar from its mark on; `parent` is the indentation of the block around it. -/
def readBlock (parent : Int) (cursor : Cursor) : Except Error (List Char × Cursor) :=
  let folded := cursor.peek 0 == some '>'
  match blockHeader? cursor.next with
  | none => throw .malformed
  | some (chomping, increment, cursor) =>
      -- The content of the outermost block is indented by one column at least.
      let least := (max (parent + 1) 1).toNat
      let fuel := cursor.remaining + 1
      let (indent, breaks, cursor) :=
        match increment with
        | some n =>
            let indent := least + n - 1
            let (breaks, cursor) := blockBreaks indent fuel cursor
            (indent, breaks, cursor)
        | none =>
            let (breaks, deepest, cursor) := blockIndentation fuel cursor
            (max least deepest, breaks, cursor)
      if cursor.column == indent && !cursor.rest.isEmpty then
        return blockLines folded chomping indent fuel breaks cursor
      else return (if chomping == .keep then breaks else [], cursor)

/-! ## Plain scalars -/

/-- Whether a plain scalar ends before a character that stands before another. -/
def endsPlain (inFlow : Bool) (c : Char) (after : Option Char) : Bool :=
  Yaml.isGap (some c) ||
  (c == ':' && (Yaml.isGap after ||
    (inFlow && after.any [',', '[', ']', '\x7b', '\x7d'].contains))) ||
  (inFlow && [',', '?', '[', ']', '\x7b', '\x7d'].contains c)

/-- The part of a plain scalar that holds no blank, at the beginning of a text. -/
def takePlain (inFlow : Bool) : List Char → List Char
  | [] => []
  | c :: rest => if endsPlain inFlow c rest.head? then [] else c :: takePlain inFlow rest

/-- The line breaks and spaces after the first break inside a plain scalar; nothing if a document
begins or ends there. -/
def plainBreaks : Nat → Cursor → Option (List Char) × Cursor
  | 0, cursor => (none, cursor)
  | fuel + 1, cursor =>
      if cursor.peek 0 == some ' ' then plainBreaks fuel cursor.next
      else if cursor.atBreak then
        let (first, cursor) := cursor.lineBreak
        if cursor.atDocumentMark then (none, cursor)
        else
          let (more, cursor) := plainBreaks fuel cursor
          (more.map (first ++ ·), cursor)
      else (some [], cursor)

/-- What stands between two parts of a plain scalar: spaces are kept on a line, and a single line
break is folded into one.  The flag tells whether a line has ended. -/
def plainSpaces (cursor : Cursor) : Option (List Char) × Bool × Cursor :=
  let (spaces, cursor) := cursor.takeWhile (· == ' ')
  if cursor.atBreak then
    let (first, cursor) := cursor.lineBreak
    if cursor.atDocumentMark then (none, true, cursor)
    else
      let (more, cursor) := plainBreaks (cursor.remaining + 1) cursor
      let folded := more.map fun more =>
        if first != ['\n'] then first ++ more
        else if more.isEmpty then [' ']
        else more
      (folded, true, cursor)
  else (if spaces.isEmpty then none else some spaces, false, cursor)

/-- The parts of a plain scalar; `between` stands before the next one.  The flag tells whether the
scalar was followed by the end of a line. -/
def plainParts (inFlow : Bool) (indent : Nat) :
    Nat → List Char → Bool → Cursor → List Char × Bool × Cursor
  | 0, _, ended, cursor => ([], ended, cursor)
  | fuel + 1, between, ended, cursor =>
      let part := takePlain inFlow cursor.rest
      if cursor.peek 0 == some '#' || part.isEmpty then ([], ended, cursor)
      else
        match plainSpaces (cursor.advance part.length) with
        | (none, ended, cursor) => (between ++ part, ended, cursor)
        | (some spaces, ended, cursor) =>
            if cursor.peek 0 == some '#' || (!inFlow && cursor.column < indent) then
              (between ++ part, ended, cursor)
            else
              let (more, ended, cursor) := plainParts inFlow indent fuel spaces ended cursor
              (between ++ part ++ more, ended, cursor)

/-- A plain scalar inside a block of indentation `parent`, and whether a line has ended after it. -/
def plainScalar (inFlow : Bool) (parent : Int) (cursor : Cursor) : List Char × Bool × Cursor :=
  plainParts inFlow (parent + 1).toNat (cursor.remaining + 1) [] false cursor

end Yaml
end ComponentSpec

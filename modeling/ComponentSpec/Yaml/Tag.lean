import ComponentSpec.Text.Scan
import ComponentSpec.Yaml.Cursor
import ComponentSpec.Yaml.Date

/-!
# Tags of YAML

A tag says what kind of thing a node is.  A scalar without a tag has the one that its spelling
implies (`Tag.ofSpelling`): plain words may be null or flags, and digits a number or a date.  The
patterns of spellings leave a final line feed out of account, which only a quoted scalar can have.
-/

namespace ComponentSpec
namespace Yaml

/-- The kinds of nodes. -/
inductive Tag
  | null
  | flag
  | integer
  | real
  | binary
  | date
  | text
  | sequence
  | mapping
  | set
  | orderedMapping
  | pairs
  | tuple
  /-- The key that merges other mappings into its own. -/
  | merge
  /-- The key of the default of a mapping. -/
  | default
  | other
  deriving DecidableEq, Repr, Inhabited

namespace Tag

/-! ## Spellings -/

/-- The spellings of flags. -/
def flagWords : List String := [
  "yes", "Yes", "YES", "no", "No", "NO", "true", "True", "TRUE", "false", "False", "FALSE",
  "on", "On", "ON", "off", "Off", "OFF"]

/-- The spellings of null. -/
def nullWords : List String := ["~", "null", "Null", "NULL"]

/-- The spellings that are kept for marks. -/
def markWords : List String := ["!", "&", "*"]

/-- The text without a sign. -/
def unsigned (s : List Char) : List Char :=
  (spanSign s).2

/-- Whether the character is a digit or a low line. -/
def isDigitOrLine (c : Char) : Bool := c.isDigit || c == '_'

/-- Whether the text is one or two digits for a sixtieth part. -/
def isSixtieth : List Char → Bool
  | [d] => d.isDigit
  | [t, d] => '0' ≤ t && t ≤ '5' && d.isDigit
  | _ => false

/-- Whether the text is digits followed by sixtieth parts after colons. -/
def isSexagesimal (s : List Char) : Bool :=
  match Text.pieces ':' s with
  | first :: parts =>
      !parts.isEmpty && first.head?.any Char.isDigit && first.all isDigitOrLine &&
        parts.all isSixtieth
  | [] => false

/-- Whether the text spells an integer. -/
def isInteger (s : List Char) : Bool :=
  match unsigned s with
  | '0' :: 'b' :: rest => !rest.isEmpty && rest.all fun c => c == '0' || c == '1' || c == '_'
  | '0' :: 'x' :: rest => !rest.isEmpty && rest.all fun c => (hexDigit? c).isSome || c == '_'
  | '0' :: rest => rest.all fun c => ('0' ≤ c && c ≤ '7') || c == '_'
  | c :: rest =>
      c.isDigit && (rest.all isDigitOrLine || isSexagesimal (c :: rest))
  | [] => false

/-- Whether the text is nothing or a signed exponent. -/
def isExponent : List Char → Bool
  | [] => true
  | e :: sign :: rest =>
      (e == 'e' || e == 'E') && (sign == '+' || sign == '-') && !rest.isEmpty &&
        rest.all Char.isDigit
  | _ => false

/-- The spellings of infinity after a sign. -/
def infinityWords : List String := [".inf", ".Inf", ".INF"]

/-- The spellings of not-a-number. -/
def nanWords : List String := [".nan", ".NaN", ".NAN"]

/-- Whether the text spells a number with a point. -/
def isReal (s : List Char) : Bool :=
  let u := unsigned s
  let isWord := fun (words : List String) (t : List Char) => words.contains (String.ofList t)
  match Text.cut? '.' u with
  | none => false
  | some (whole, fraction) =>
      let digits := fraction.takeWhile isDigitOrLine
      let rest := fraction.drop digits.length
      if whole.isEmpty then
        isWord infinityWords u || isWord nanWords s ||
          (u.length == s.length && digits.head?.any Char.isDigit && isExponent rest)
      else
        (whole.head?.any Char.isDigit && whole.all isDigitOrLine && isExponent rest) ||
          (isSexagesimal whole && rest.isEmpty)

/-- The tag that a spelling without a final line feed implies. -/
def ofWord (s : List Char) : Tag :=
  let word := String.ofList s
  -- The order matters: a text may have more than one of these forms.
  if flagWords.contains word then .flag
  else if isReal s then .real
  else if isInteger s then .integer
  else if word == "<<" then .merge
  else if nullWords.contains word then .null
  else if Date.isSpelled s then .date
  else if word == "=" then .default
  else if markWords.contains word then .other
  else .text

/-- The tag that a spelling implies. -/
def ofSpelling (s : List Char) : Tag :=
  if s.isEmpty then .null else ofWord (Date.dropLineFeed s)

/-! ## Written tags -/

/-- What the names of the usual tags begin with. -/
def usualStart : String := "tag:yaml.org,2002:"

/-- The usual tags by their names. -/
def names : List (String × Tag) := [
  ("null", .null), ("bool", .flag), ("int", .integer), ("float", .real), ("binary", .binary),
  ("timestamp", .date), ("str", .text), ("seq", .sequence), ("map", .mapping), ("set", .set),
  ("omap", .orderedMapping), ("pairs", .pairs), ("python/tuple", .tuple), ("merge", .merge),
  ("value", .default)]

/-- The tag with a full name. -/
def ofName (s : List Char) : Tag :=
  ((names.find? fun (name, _) => usualStart ++ name == String.ofList s).map (·.2)).getD .other

/-- The short form of a tag, if it has a name. -/
def shortForm (tag : Tag) : List Char :=
  match names.find? fun (_, t) => t == tag with
  | some (name, _) => '!' :: '!' :: name.toList
  | none => []

end Tag
end Yaml
end ComponentSpec

import ComponentSpec.Text.Case.Table
import ComponentSpec.Text.CodePoints

/-!
# Letter case

Full conversion of a text to small or to capital letters.  One character may become several (the
sharp s has the capital form SS), and the capital sigma has two small forms: the final one is taken
at the end of a word, that is, after a cased character and not before one, characters such as
accents and apostrophes being passed over on both sides.

Main statements: capitals of a joined text are the joined capitals (`capitals_append`), and both
conversions act character by character on ASCII (`capitalForm_ascii`, `smallForm_ascii`).
-/

namespace ComponentSpec
namespace Text

/-- The image of a code point in the first run that has it. -/
def mapByRuns (runs : List CaseRun) (x : Nat) : Nat :=
  (runs.findSome? (CaseRun.map? · x)).getD x

/-- The capital form of one character. -/
def capitalForm (c : Char) : List Char :=
  if c.toNat < 128 then [c.toUpper]
  else
    match longCapitals.lookup c.toNat with
    | some image => image.map Char.ofNat
    | none => [Char.ofNat (mapByRuns capitalLetters c.toNat)]

/-- The small form of one character that is not a capital sigma. -/
def smallForm (c : Char) : List Char :=
  if c.toNat < 128 then [c.toLower]
  else if c == 'İ' then ['i', Char.ofNat 0x307]
  else [Char.ofNat (mapByRuns smallLetters c.toNat)]

/-- Whether the nearest character that is not passed over has a letter case. -/
def touchesCased (s : List Char) : Bool :=
  match s.dropWhile fun c => insideRuns caseNeutralBoundaries c.toNat with
  | [] => false
  | c :: _ => insideRuns casedBoundaries c.toNat

/-- The small form of a character between the reversed text `before` and the text `after`. -/
def smallFormBetween (before : List Char) (c : Char) (after : List Char) : List Char :=
  -- The only letter whose small form depends on its neighbours.
  if c == 'Σ' then
    if touchesCased before && !touchesCased after then ['ς'] else ['σ']
  else
    smallForm c

/-- The small letters of a text whose reversed preceding text is given. -/
def smallsAfter : List Char → List Char → List Char
  | _, [] => []
  | before, c :: after => smallFormBetween before c after ++ smallsAfter (c :: before) after

/-- The text in small letters. -/
def smalls (s : List Char) : List Char :=
  smallsAfter [] s

/-- The text in capital letters. -/
def capitals (s : List Char) : List Char :=
  s.flatMap capitalForm

theorem capitals_append (s t : List Char) : capitals (s ++ t) = capitals s ++ capitals t := by
  simp [capitals]

theorem capitalForm_ascii {c : Char} (h : c.toNat < 128) : capitalForm c = [c.toUpper] := by
  simp [capitalForm, h]

theorem smallForm_ascii {c : Char} (h : c.toNat < 128) : smallForm c = [c.toLower] := by
  simp [smallForm, h]

end Text

/-- The text in small letters. -/
def lowercase (s : String) : String :=
  String.ofList (Text.smalls s.toList)

/-- The text in capital letters. -/
def uppercase (s : String) : String :=
  String.ofList (Text.capitals s.toList)

end ComponentSpec

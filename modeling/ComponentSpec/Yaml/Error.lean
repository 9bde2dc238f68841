/-!
# Errors of YAML

Why a text has no content.  Most errors are of the form of a text; the others are of scalars whose
tag asks for a value that their text does not spell.
-/

namespace ComponentSpec
namespace Yaml

/-- Why a text has no content. -/
inductive Error
  /-- The text is not well formed, or a tag stands before what it does not fit. -/
  | malformed
  /-- A number, a date or a character is spelled that does not exist. -/
  | noSuchValue
  /-- A number has nothing where its sign or its first digit should be. -/
  | emptyNumeral
  /-- A flag is spelled by no word for true or false. -/
  | unknownFlag
  /-- A date is not spelled as one. -/
  | unknownDate
  /-- A date is given as the default of a mapping. -/
  | defaultedDate
  /-- A number is too large to be computed with. -/
  | tooLarge
  /-- The nodes of the text are nested too deeply. -/
  | tooDeep
  /-- What contains itself has no end. -/
  | endless
  deriving DecidableEq, Repr

end Yaml
end ComponentSpec

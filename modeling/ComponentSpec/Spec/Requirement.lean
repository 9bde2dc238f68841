import ComponentSpec.Spec.Basic
import ComponentSpec.Text.Blank
import ComponentSpec.Text.Case
import ComponentSpec.Text.Scan

/-!
# Requirement lines

A requirement is a line of plain language.  Annotations in brackets name the check that decides it
and its severity; they are taken out of the text.  What a requirement is about follows from the
keywords in its text, the first group that has one deciding.
-/

namespace ComponentSpec
namespace Spec

open Text

/-! ## Annotations -/

/-- The content of an annotation with this keyword and the text after its closing bracket. -/
def annotationAt? (keyword : List Char) (s : List Char) : Option (List Char × List Char) :=
  match List.isPrefixOf? keyword s with
  | none => none
  | some rest => (cut? ']' rest).filter fun (content, _) => !content.isEmpty

/-- Drops an opening bracket at the end of a text. -/
def dropOpeningBracket (s : List Char) : List Char :=
  if s.getLast? == some '[' then s.dropLast else s

/-- The content of the first annotation with this keyword, and the trimmed text without it. -/
def takeAnnotation? (keyword s : List Char) : Option (List Char × List Char) :=
  (search (annotationAt? keyword) s).map fun (before, content, after) =>
    (trim content, trim (dropOpeningBracket before ++ after))

/-- The severity that an annotation at this place names; nothing may follow its word. -/
def severityAt? (s : List Char) : Option Severity :=
  match annotationAt? "@severity:".toList s with
  | none => none
  | some (content, _) => Severity.all.find? fun severity => trimLeft content == severity.word.toList

/-- The severity named by the first annotation that names one, and the trimmed text without the
first severity annotation of any content. -/
def takeSeverity (s : List Char) : Severity × List Char :=
  match search severityAt? s with
  | none => (.error, s)
  | some (_, severity) =>
      -- The annotation that is taken out may stand before the one that was read.
      match takeAnnotation? "@severity:".toList s with
      | some (_, rest) => (severity, rest)
      | none => (severity, s)

/-! ## Categories -/

/-- The keywords of the categories, in the order in which they decide. -/
def categoryKeywords : List (Category × List String) := [
  (.accessibility, ["contrast", "keyboard", "focus", "aria", "screen reader", "accessible"]),
  (.performance, ["performance", "render", "bundle", "load", "optimize"]),
  (.compatibility, ["browser", "compatibility", "support", "fallback"])]

/-- What a requirement with this text is about. -/
def categorize (text : List Char) : Category :=
  let small := smalls text
  match categoryKeywords.find? fun (_, words) => words.any fun w => occurs w.toList small with
  | some (category, _) => category
  | none => .quality

/-! ## Lines -/

/-- The requirement on a line; the first character is the mark of the line. -/
def readRequirement (line : List Char) : Requirement :=
  let text := trim (line.drop 1)
  let (hint, text) :=
    match takeAnnotation? "@validate:".toList text with
    | some (content, rest) => (some (String.ofList content), rest)
    | none => (none, text)
  let (severity, text) := takeSeverity text
  -- The category is that of the text alone: a hint may hold keywords of its own.
  { text := String.ofList text, hint, category := categorize text, severity }

end Spec
end ComponentSpec

import ComponentSpec.Reading.Spec
import ComponentSpec.Report

/-!
# Reading reports

A report that was stored can be read again.  Only the component must be there.
-/

namespace ComponentSpec
namespace Reading

/-- Reads a finding. -/
def finding : Datum → Reading Finding :=
  record fun fields =>
    Finding.mk <$> required fields "rule" text
      <*> required fields "passed" flag
      <*> required fields "message" text
      <*> required fields "severity" (option Severity.all Severity.word)
      <*> optional fields "details" none (nullable (Reading.fields pure))

/-- Reads a coverage. -/
def coverage : Datum → Reading Coverage :=
  record fun fields =>
    Coverage.mk <$> optional fields "total" 0 integer
      <*> optional fields "automated" 0 integer
      <*> optional fields "percentage" 0 integer

/-- Reads a suggestion. -/
def suggestion : Datum → Reading Suggestion :=
  record fun fields =>
    Suggestion.mk <$> required fields "type" (option SuggestionKind.all SuggestionKind.word)
      <*> required fields "message" text
      <*> optional fields "example" none (nullable text)

/-- Reads a report. -/
def report : Datum → Reading Report :=
  record fun fields =>
    Report.mk <$> required fields "component" text
      <*> optional fields "passed" [] (list finding)
      <*> optional fields "failed" [] (list finding)
      <*> optional fields "warnings" [] (list finding)
      <*> optional fields "manual" [] (list text)
      <*> optional fields "coverage" {} coverage
      <*> optional fields "suggestions" none (nullable (list suggestion))

end Reading
end ComponentSpec

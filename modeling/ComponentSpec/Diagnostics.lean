import ComponentSpec.Check.Table
import ComponentSpec.Report

/-!
# Diagnostics

A sink takes the reports of inspections.  It keeps the last one, and it writes a report to the log
if anything is wrong with the element or if it was told to be verbose.

Main statements: telling the sink to be verbose keeps the last report (`last_enableVerbose`), and
recording a report keeps the verbosity (`verbose_record`) and makes the report the last one
(`last_record`).
-/

namespace ComponentSpec

/-- The levels of the log. -/
inductive LogLevel
  | info
  | warning
  | error
  deriving DecidableEq, Repr

/-- The word for a level. -/
def LogLevel.word : LogLevel → String
  | info => "INFO"
  | warning => "WARNING"
  | error => "ERROR"

/-- A line of the log. -/
structure LogLine where
  level : LogLevel
  text : String
  deriving DecidableEq, Repr

namespace Diagnostics

/-! ## The lines of a report -/

/-- A finding with the group of its rule. -/
def findingText (finding : Finding) : String :=
  let group :=
    match CheckTable.groupOf? finding.rule with
    | some group => "[" ++ group.word ++ "] "
    | none => ""
  group ++ finding.rule ++ ": " ++ finding.message

/-- The heading of a report. -/
def headingLines (report : Report) : List LogLine :=
  let mark := if report.failed.isEmpty then "✅" else "❌"
  [⟨.info, mark ++ " Rubric Validation: " ++ report.component⟩,
    ⟨.info, "Passed: " ++ toString report.passed.length ++ " | Failed: " ++
      toString report.failed.length ++ " | Warnings: " ++ toString report.warnings.length⟩]

/-- The details of a finding, if it has any. -/
def detailLines (finding : Finding) : List LogLine :=
  match finding.details with
  | none => []
  | some fields =>
      if fields.isEmpty then []
      else [⟨.info, "Details: " ++ (Datum.object fields).display⟩]

/-- A failure, with its details if they are wanted. -/
def failureLines (verbose : Bool) (finding : Finding) : List LogLine :=
  ⟨.error, findingText finding⟩ :: (if verbose then detailLines finding else [])

/-- What is left to a person. -/
def manualLines (texts : List String) : List LogLine :=
  if texts.isEmpty then []
  else ⟨.info, "📋 Manual Checks Required"⟩ :: texts.map fun text => ⟨.info, "• " ++ text⟩

/-- A suggestion and its example. -/
def suggestionLines (suggestion : Suggestion) : List LogLine :=
  ⟨.info, "💡 " ++ suggestion.kind.word ++ ": " ++ suggestion.message⟩ ::
    match suggestion.example? with
    | some text => if text.isEmpty then [] else [⟨.info, text⟩]
    | none => []

/-- The coverage of a report. -/
def coverageLine (coverage : Coverage) : LogLine :=
  ⟨.info, "📊 Coverage: " ++ toString coverage.percentage ++ "% automated (" ++
    toString coverage.automated ++ "/" ++ toString coverage.total ++ ")"⟩

/-- The lines of a report.  What passed, and the details of what failed, are only for the
verbose. -/
def lines (report : Report) (verbose : Bool) : List LogLine :=
  headingLines report ++
    report.failed.flatMap (failureLines verbose) ++
    report.warnings.map (fun finding => ⟨.warning, findingText finding⟩) ++
    (if verbose then report.passed.map fun finding => ⟨.info, findingText finding⟩ else []) ++
    manualLines report.manual ++
    (report.suggestions.getD []).flatMap suggestionLines ++
    [coverageLine report.coverage]

/-! ## The sink -/

/-- Takes reports. -/
structure Sink where
  verbose : Bool := false
  last : Option Report := none

namespace Sink

/-- The sink told to be verbose from now on. -/
def enableVerbose (sink : Sink) : Sink :=
  { sink with verbose := true }

/-- The lines that the sink writes for a report. -/
def linesFor (sink : Sink) (report : Report) : List LogLine :=
  if report.hasIssues || sink.verbose then lines report sink.verbose else []

/-- The sink after it has taken a report, and the lines that it writes. -/
def record (sink : Sink) (report : Report) : Sink × List LogLine :=
  ({ sink with last := some report }, sink.linesFor report)

theorem last_enableVerbose (sink : Sink) : sink.enableVerbose.last = sink.last := rfl

theorem verbose_record (sink : Sink) (report : Report) :
    (sink.record report).1.verbose = sink.verbose := rfl

theorem last_record (sink : Sink) (report : Report) :
    (sink.record report).1.last = some report := rfl

end Sink
end Diagnostics
end ComponentSpec

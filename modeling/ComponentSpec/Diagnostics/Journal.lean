import ComponentSpec.Diagnostics
import ComponentSpec.Inspection

/-!
# Recorded inspections

A journal is a sink with the lines that it has written.  An inspection that has a journal hands its
report over when it is complete; an inspection that ends in a fault has no report to hand over.

Main statement: a report that was recorded is the last one of the sink (`last_record`).
-/

namespace ComponentSpec

namespace Diagnostics

/-- A sink with the lines that it has written. -/
structure Journal where
  sink : Sink := {}
  lines : List LogLine := []

namespace Journal

/-- The journal with its sink told to be verbose from now on. -/
def enableVerbose (journal : Journal) : Journal :=
  { journal with sink := journal.sink.enableVerbose }

/-- The journal after its sink has taken a report. -/
def record (journal : Journal) (report : Report) : Journal where
  sink := (journal.sink.record report).1
  lines := journal.lines ++ (journal.sink.record report).2

/-- The journal after a report was logged without being taken. -/
def log (journal : Journal) (report : Report) (verbose : Bool) : Journal :=
  { journal with lines := journal.lines ++ Diagnostics.lines report verbose }

theorem last_record (journal : Journal) (report : Report) :
    (journal.record report).sink.last = some report :=
  Sink.last_record journal.sink report

end Journal
end Diagnostics

namespace Inspection

open Diagnostics

/-- Inspects an element and hands the report to the journal. -/
def inspectInto (table : CheckTable) (e : Element) (plan : Plan) (journal : Journal) :
    StateM Clock (Except Fault Report × Journal) := do
  match ← (inspect table e plan).run with
  | .ok report => return (.ok report, journal.record report)
  | .error fault => return (.error fault, journal)

end Inspection
end ComponentSpec

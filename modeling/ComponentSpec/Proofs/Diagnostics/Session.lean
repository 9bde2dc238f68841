import ComponentSpec.Diagnostics.Session
import ComponentSpec.Proofs.Inspection.Exits

/-!
# What a sink holds

A sink holds a flag and a report.  One event can only raise the flag, and it replaces the report
only if it hands one over; which reports are handed over is told by the events and the clock alone,
without the sink.  Hence the state of the sink after a session, by induction on the events, and the
lines of a record, which depend on the report and on the flag of the moment.

Main statements: the flag and the last report after a session (`verbose_run`, `last_run`), the
lines of one record (`lines_record`), and the laws of a session from its start (`sinkLaws_start`).
-/

namespace ComponentSpec
namespace Diagnostics

/-! ## The lines of a record -/

theorem hasIssues_eq_false_iff {report : Report} :
    report.hasIssues = false ↔ report.failed = [] ∧ report.warnings = [] := by
  simp [Report.hasIssues]

theorem Sink.linesFor_eq_nil {sink : Sink} {report : Report} (hfailed : report.failed = [])
    (hwarnings : report.warnings = []) (hverbose : sink.verbose = false) :
    sink.linesFor report = [] := by
  have hissues := hasIssues_eq_false_iff.2 ⟨hfailed, hwarnings⟩
  simp [Sink.linesFor, hissues, hverbose]

theorem Sink.linesFor_eq_lines {sink : Sink} {report : Report}
    (h : ¬ (report.failed = [] ∧ report.warnings = [] ∧ sink.verbose = false)) :
    sink.linesFor report = lines report sink.verbose := by
  refine if_pos ?_
  cases hissues : report.hasIssues with
  | true => rfl
  | false =>
      rcases hasIssues_eq_false_iff.1 hissues with ⟨hfailed, hwarnings⟩
      exact eq_true_of_ne_false fun hquiet => h ⟨hfailed, hwarnings, hquiet⟩

namespace Session

variable {session : Session} {table : CheckTable} {e : Element} {plan : Plan} {report : Report}
  {fault : Fault} {after : Clock}

/-! ## What one event does -/

theorem step_inspect_of_ok
    (h : (Inspection.inspect table e plan).run.run session.clock = (.ok report, after)) :
    session.step (.inspect table e plan) = { session.step (.record report) with clock := after } := by
  simp only [step, inspect, Inspection.inspectInto_of_ok session.journal h]

theorem step_inspect_of_error
    (h : (Inspection.inspect table e plan).run.run session.clock = (.error fault, after)) :
    session.step (.inspect table e plan) = { session with clock := after } := by
  simp only [step, inspect, Inspection.inspectInto_of_error session.journal h]

/-- The report that an event hands to the sink.  That of an inspection is the one it has without a
sink; an inspection that ends in a fault has none. -/
def handed? (session : Session) : Event → Option Report
  | .record report => some report
  | .inspect table e plan =>
      ((Inspection.inspect table e plan).run.run session.clock).1.toOption
  | .enableVerbose => none
  | .log _ _ => none

theorem verbose_step (session : Session) (event : Event) :
    (session.step event).journal.sink.verbose = true ↔
      session.journal.sink.verbose = true ∨ event = .enableVerbose := by
  cases event with
  | enableVerbose => exact iff_of_true rfl (.inr rfl)
  | record report => simp [step, Journal.record, Sink.verbose_record]
  | log report verbose => simp [step, Journal.log]
  | inspect table e plan =>
      rcases hresult : (Inspection.inspect table e plan).run.run session.clock with
        ⟨fault | report, after⟩
      · rw [step_inspect_of_error hresult]
        simp
      · rw [step_inspect_of_ok hresult]
        simp [step, Journal.record, Sink.verbose_record]

theorem last_step (session : Session) (event : Event) :
    (session.step event).journal.sink.last =
      (session.handed? event).or session.journal.sink.last := by
  cases event with
  | enableVerbose => rfl
  | record report => rfl
  | log report verbose => rfl
  | inspect table e plan =>
      rcases hresult : (Inspection.inspect table e plan).run.run session.clock with
        ⟨fault | report, after⟩
      · rw [step_inspect_of_error hresult, handed?, hresult]
        rfl
      · rw [step_inspect_of_ok hresult, handed?, hresult]
        rfl

/-- A record adds the lines that its report has in the log at the verbosity of the sink, or none if
nothing is wrong and the sink is not verbose. -/
theorem lines_record (session : Session) (report : Report) :
    (session.step (.record report)).journal.lines =
      session.journal.lines ++ session.journal.sink.linesFor report :=
  rfl

/-! ## What a session does -/

theorem run_append (session : Session) (events later : List Event) :
    session.run (events ++ later) = (session.run events).run later :=
  List.foldl_append ..

/-- The reports that the events hand to the sink, in order. -/
def handed : Session → List Event → List Report
  | _, [] => []
  | session, event :: rest => (session.handed? event).toList ++ handed (session.step event) rest

theorem verbose_run (session : Session) (events : List Event) :
    (session.run events).journal.sink.verbose = true ↔
      session.journal.sink.verbose = true ∨ .enableVerbose ∈ events := by
  induction events generalizing session with
  | nil => simp [run]
  | cons event rest ih =>
      calc
        (session.run (event :: rest)).journal.sink.verbose = true
          ↔ (session.step event).journal.sink.verbose = true ∨ Event.enableVerbose ∈ rest :=
            ih (session.step event)
        _ ↔ (session.journal.sink.verbose = true ∨ event = .enableVerbose) ∨
              Event.enableVerbose ∈ rest := by rw [verbose_step]
        _ ↔ session.journal.sink.verbose = true ∨ Event.enableVerbose ∈ event :: rest := by
            rw [or_assoc, List.mem_cons, eq_comm (a := event)]

theorem last_run (session : Session) (events : List Event) :
    (session.run events).journal.sink.last =
      (session.handed events).getLast?.or session.journal.sink.last := by
  induction events generalizing session with
  | nil => rfl
  | cons event rest ih =>
      calc
        (session.run (event :: rest)).journal.sink.last
          = ((session.step event).handed rest).getLast?.or
              (session.step event).journal.sink.last := ih (session.step event)
        _ = ((session.step event).handed rest).getLast?.or
              ((session.handed? event).or session.journal.sink.last) := by rw [last_step]
        _ = (session.handed (event :: rest)).getLast?.or session.journal.sink.last := by
            rw [handed, List.getLast?_append, Option.or_assoc]
            cases session.handed? event <;> rfl

/-! ## The laws of a session -/

/-- The laws of a session that starts with a sink of this verbosity. -/
structure SinkLaws (verbose : Bool) (clock : Clock) : Prop where
  /-- The sink is verbose exactly if it was so at the start or has been told so. -/
  verbose_iff : ∀ events, ((start verbose clock).run events).journal.sink.verbose = true ↔
    verbose = true ∨ .enableVerbose ∈ events
  /-- A sink that is verbose stays so. -/
  verbose_stays : ∀ events later,
    ((start verbose clock).run events).journal.sink.verbose = true →
      ((start verbose clock).run (events ++ later)).journal.sink.verbose = true
  /-- The last report is the latest of those that were recorded or that an inspection ended with. -/
  last_eq : ∀ events, ((start verbose clock).run events).journal.sink.last =
    ((start verbose clock).handed events).getLast?
  /-- A report that is only logged leaves the sink as it is and adds its lines. -/
  log_writes : ∀ events report detailed, let session := (start verbose clock).run events
    (session.step (.log report detailed)).journal.sink = session.journal.sink ∧
      (session.step (.log report detailed)).journal.lines =
        session.journal.lines ++ lines report detailed
  /-- A report without issues that is recorded adds no line unless the sink is verbose. -/
  record_silent : ∀ events report, let session := (start verbose clock).run events
    report.failed = [] → report.warnings = [] → session.journal.sink.verbose = false →
      (session.step (.record report)).journal.lines = session.journal.lines
  /-- Any other report that is recorded adds what logging it at the verbosity of the sink adds. -/
  record_writes : ∀ events report, let session := (start verbose clock).run events
    ¬ (report.failed = [] ∧ report.warnings = [] ∧ session.journal.sink.verbose = false) →
      (session.step (.record report)).journal.lines =
        (session.step (.log report session.journal.sink.verbose)).journal.lines
  /-- An inspection that ends with a report records it, and one that ends in a fault does nothing to
  the journal. -/
  inspect_records : ∀ events table e plan, let session := (start verbose clock).run events
    (∀ report after,
        (Inspection.inspect table e plan).run.run session.clock = (.ok report, after) →
          (session.step (.inspect table e plan)).journal =
            (session.step (.record report)).journal) ∧
      ∀ fault after,
        (Inspection.inspect table e plan).run.run session.clock = (.error fault, after) →
          (session.step (.inspect table e plan)).journal = session.journal

/-- The laws hold of every session from its start. -/
theorem sinkLaws_start (verbose : Bool) (clock : Clock) : SinkLaws verbose clock where
  verbose_iff := verbose_run (start verbose clock)
  verbose_stays := by
    intro events later hverbose
    rw [run_append]
    exact (verbose_run _ later).2 (.inl hverbose)
  last_eq := by
    intro events
    rw [last_run]
    exact Option.or_none
  log_writes := fun events report detailed => ⟨rfl, rfl⟩
  record_silent := by
    intro events report session hfailed hwarnings hverbose
    rw [lines_record, Sink.linesFor_eq_nil hfailed hwarnings hverbose, List.append_nil]
  record_writes := by
    intro events report session hwritten
    rw [lines_record, Sink.linesFor_eq_lines hwritten]
    rfl
  inspect_records := by
    intro events table e plan session
    refine ⟨fun report after hreport => ?_, fun fault after hfault => ?_⟩
    · rw [step_inspect_of_ok hreport]
    · rw [step_inspect_of_error hfault]

end Session
end Diagnostics
end ComponentSpec

import ComponentSpec.Diagnostics.Journal

/-!
# Sessions of a sink

A session is a journal together with the clock of its inspections.  The sink is told to be verbose,
takes reports and logs others in any order, and inspections hand it their reports in between.
-/

namespace ComponentSpec
namespace Diagnostics

/-- What happens in a session. -/
inductive Event
  | enableVerbose
  | record (report : Report)
  | log (report : Report) (verbose : Bool)
  | inspect (table : CheckTable) (e : Element) (plan : Plan)

/-- A journal and the clock. -/
structure Session where
  journal : Journal := {}
  clock : Clock := {}

namespace Session

/-- The session at its start, when nothing was recorded or written. -/
def start (verbose : Bool) (clock : Clock) : Session :=
  { journal := { sink := { verbose } }, clock }

/-- The result of an inspection with the journal, and the session after it. -/
def inspect (session : Session) (table : CheckTable) (e : Element) (plan : Plan) :
    Except Fault Report × Session :=
  let ((result, journal), clock) :=
    (Inspection.inspectInto table e plan session.journal).run session.clock
  (result, { journal, clock })

/-- The session after an event. -/
def step (session : Session) : Event → Session
  | .enableVerbose => { session with journal := session.journal.enableVerbose }
  | .record report => { session with journal := session.journal.record report }
  | .log report verbose => { session with journal := session.journal.log report verbose }
  | .inspect table e plan => (session.inspect table e plan).2

/-- The session after several events. -/
def run (session : Session) (events : List Event) : Session :=
  events.foldl step session

end Session
end Diagnostics
end ComponentSpec

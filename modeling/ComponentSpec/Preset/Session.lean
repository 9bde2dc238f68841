import ComponentSpec.Inspection
import ComponentSpec.Preset.Service

/-!
# Sessions of the preset service

A session is a service together with the files that it reads and the clock.  Calls of the service
and changes of the files come in any order, and every call sees the files as they are then.
-/

namespace ComponentSpec
namespace Preset

/-- Inspects an element as the specification of a preset asks for. -/
def Service.inspect (table : CheckTable) (files : FileStore) (service : Service) (name : String)
    (e : Element) (clock : Clock) : Except Error (Except Fault Report) × Service × Clock :=
  match service.spec files name with
  | (.ok spec, service) =>
      let (result, clock) := (Inspection.inspect table e spec.plan).run.run clock
      (.ok result, service, clock)
  | (.error error, service) => (.error error, service, clock)

/-- What a service is asked for. -/
inductive Call
  | list
  | names
  | text (name : String)
  | spec (name : String)
  | inspect (name : String) (e : Element)

/-- What a call gives. -/
inductive Answer
  | list (result : Except Error Overview)
  | names (result : Except Error (List Datum))
  | text (result : Except Error String)
  | spec (result : Except Error Spec)
  | report (result : Except Error (Except Fault Report))

/-- What happens in a session. -/
inductive Event
  | call (call : Call)
  | write (place : List String) (entry : FileEntry)
  | delete (place : List String)

/-- A service, the files and the clock. -/
structure Session where
  files : FileStore := {}
  service : Service
  clock : Clock := {}

namespace Session

/-- The session at its start, when nothing is kept. -/
def start (directory : Path) (files : FileStore) (clock : Clock) : Session :=
  { files, service := { directory }, clock }

/-- The answer of a call and the session after it. -/
def call (table : CheckTable) (session : Session) : Call → Answer × Session
  | .list =>
      let (result, service) := session.service.list session.files
      (.list result, { session with service })
  | .names =>
      let (result, service) := session.service.names session.files
      (.names result, { session with service })
  | .text name =>
      let (result, service) := session.service.text session.files name
      (.text result, { session with service })
  | .spec name =>
      let (result, service) := session.service.spec session.files name
      (.spec result, { session with service })
  | .inspect name e =>
      let (result, service, clock) :=
        session.service.inspect table session.files name e session.clock
      (.report result, { session with service, clock })

/-- The session after an event. -/
def step (table : CheckTable) (session : Session) : Event → Session
  | .call call => (session.call table call).2
  | .write place entry => { session with files := session.files.write place entry }
  | .delete place => { session with files := session.files.delete place }

/-- The session after several events. -/
def run (table : CheckTable) (session : Session) (events : List Event) : Session :=
  events.foldl (step table) session

end Session
end Preset
end ComponentSpec

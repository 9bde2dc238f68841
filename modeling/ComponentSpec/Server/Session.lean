import ComponentSpec.Server

/-!
# Sessions of the server

A session is a server together with the files that it finds.  Requests and changes of the files come
in any order, and every request sees the files as they are then.
-/

namespace ComponentSpec
namespace Server

/-- What happens in a session. -/
inductive Event
  | request (request : Request)
  | write (place : List String) (entry : FileEntry)
  | delete (place : List String)

/-- A server and the files. -/
structure Session where
  files : FileStore := {}
  server : Server

namespace Session

/-- The session at its start, when nothing is kept and nothing was recorded. -/
def start (directory : Path) (verbose : Bool) (files : FileStore) (clock : Clock) : Session :=
  { files, server := { presets := { directory }, sink := { verbose }, clock } }

/-- The answer to a request and the session after it. -/
def answer (session : Session) (request : Request) : Except Failure Reply × Session :=
  let (reply, server) := session.server.serve session.files request
  (reply, { session with server })

/-- The session after an event. -/
def step (session : Session) : Event → Session
  | .request request => (session.answer request).2
  | .write place entry => { session with files := session.files.write place entry }
  | .delete place => { session with files := session.files.delete place }

/-- The session after several events. -/
def run (session : Session) (events : List Event) : Session :=
  events.foldl step session

end Session
end Server
end ComponentSpec

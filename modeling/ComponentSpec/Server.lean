import ComponentSpec.Diagnostics.Journal
import ComponentSpec.Preset.Service
import ComponentSpec.Reading.Element

/-!
# The server

The server answers requests one after another.  It keeps the preset service, a sink that records
every report, and the clock; the files are given anew with each request.  A preset that cannot be
found is an answer of its own and no failure of the tools.

Main statements: reading a specification leaves the server as it was (`serve_readSpec`), and so does
an inspection of a malformed element (`inspectWith_refused`).
-/

namespace ComponentSpec

/-- What can be asked of the server. -/
inductive Request
  | readSpec (document : String)
  | inspect (document : String) (element : Datum)
  | inspectWithPreset (preset : String) (element : Datum)
  | listPresets
  | presetCatalog
  | presetText (name : String)
  | health

/-- What the server answers. -/
inductive Reply
  | spec (spec : Spec)
  | report (report : Report)
  | presets (overview : Preset.Overview)
  | text (text : String)
  | healthy
  | presetMissing (error : Preset.Error)

/-- Why a request fails. -/
inductive Failure
  | element (issues : List Issue)
  | check (fault : Fault)
  | preset (error : Preset.Error)

/-- What the server keeps between requests. -/
structure Server where
  presets : Preset.Service
  sink : Diagnostics.Sink := {}
  clock : Clock := {}

namespace Server

/-- Whether the error is answered by the tools instead of failing them. -/
def isAnswered : Preset.Error → Bool
  | .notFound _ _ => true
  | .invalidCatalog _ => true
  | _ => false

/-- What a tool makes of an error of the preset service. -/
def presetFailure (error : Preset.Error) : Except Failure Reply :=
  if isAnswered error then .ok (.presetMissing error) else .error (.preset error)

/-- Inspects an element as a specification asks for and records the report. -/
def inspectElement (server : Server) (e : Element) (spec : Spec) :
    Except Failure Reply × Server :=
  let journal : Diagnostics.Journal := { sink := server.sink }
  let ((result, journal), clock) :=
    (Inspection.inspectInto CheckTable.usual e spec.plan journal).run server.clock
  let answer :=
    match result with
    | .ok report => .ok (.report report)
    | .error fault => .error (.check fault)
  -- A fault that ends the inspection leaves no report, but the clock has gone on.
  (answer, { server with clock, sink := journal.sink })

/-- Reads an element and inspects it with the specification that `specOf` gives. -/
def inspectWith (server : Server) (element : Datum)
    (specOf : Server → Except Preset.Error Spec × Server) : Except Failure Reply × Server :=
  match Reading.element element with
  -- A malformed element is refused before any preset is looked up.
  | .refused issues => (.error (.element issues), server)
  | .accepted e =>
      match specOf server with
      | (.ok spec, server) => server.inspectElement e spec
      | (.error error, server) => (presetFailure error, server)

/-- The specification of a preset, which the server keeps. -/
def presetSpec (files : FileStore) (name : String) (server : Server) :
    Except Preset.Error Spec × Server :=
  let (result, presets) := server.presets.spec files name
  (result, { server with presets })

/-- Answers a request. -/
def serve (files : FileStore) (server : Server) : Request → Except Failure Reply × Server
  | .readSpec document => (.ok (.spec (Spec.ofDocument document)), server)
  | .inspect document element =>
      server.inspectWith element fun server => (.ok (Spec.ofDocument document), server)
  | .inspectWithPreset preset element => server.inspectWith element (presetSpec files preset)
  | .listPresets =>
      let (result, presets) := server.presets.list files
      let answer :=
        match result with
        | .ok overview => .ok (.presets overview)
        | .error error => presetFailure error
      (answer, { server with presets })
  | .presetCatalog =>
      let (result, presets) := server.presets.list files
      let answer :=
        match result.bind Preset.Overview.toText with
        | .ok text => .ok (.text text)
        | .error error => .error (.preset error)
      (answer, { server with presets })
  | .presetText name =>
      let (result, presets) := server.presets.text files name
      let answer :=
        match result with
        | .ok text => .ok (.text text)
        | .error error => .error (.preset error)
      (answer, { server with presets })
  | .health => (.ok .healthy, server)

theorem serve_readSpec (files : FileStore) (server : Server) (document : String) :
    (server.serve files (.readSpec document)).2 = server := rfl

theorem inspectWith_refused (server : Server) {element : Datum} {issues : List Issue}
    (specOf : Server → Except Preset.Error Spec × Server)
    (h : Reading.element element = .refused issues) :
    server.inspectWith element specOf = (.error (.element issues), server) := by
  simp [inspectWith, h]

/-! ## Numbers in replies -/

mutual

/-- The datum with null for every number that is not finite, as the details of a reply show it. -/
def finiteOnly : Datum → Datum
  | .number (.real .nan) => .null
  | .number (.real (.infinite _)) => .null
  | .list items => .list (finiteItems items)
  | .object fields => .object (finiteFields fields)
  | d => d

/-- The items of a list with null for the numbers that are not finite. -/
def finiteItems : List Datum → List Datum
  | [] => []
  | d :: rest => finiteOnly d :: finiteItems rest

/-- The fields of an object with null for the numbers that are not finite. -/
def finiteFields : List (String × Datum) → List (String × Datum)
  | [] => []
  | (name, d) :: rest => (name, finiteOnly d) :: finiteFields rest

end

end Server
end ComponentSpec

import ComponentSpec.Proofs.Inspection.Exits
import ComponentSpec.Proofs.Preset.Caching
import ComponentSpec.Server.Session

/-!
# The two inspections of a session

An element can be inspected with a document or with a preset.  The first way reads the document
afresh; the second goes through what the preset service keeps.  They agree as long as the
specification that is kept was read from the text that the preset has now.

What a session does to the preset service is what a session of the service itself does
(`service_run`), so a specification that was read stays.

Main statements: the two ways give the same answer and the same record in one state
(`serve_inspectWithPreset_of_text`), an answer about a document depends on nothing but the clock
(`serve_inspect_congr`), and the laws of the tools in every state of a session (`toolLaws_run`).
-/

namespace ComponentSpec

namespace Inspection

open Diagnostics

/-- The journal has no part in the result of an inspection. -/
theorem result_inspectInto (table : CheckTable) (e : Element) (plan : Plan) (journal : Journal)
    (clock : Clock) :
    ((inspectInto table e plan journal).run clock).1.1 =
      ((inspect table e plan).run.run clock).1 := by
  rcases hresult : (inspect table e plan).run.run clock with ⟨fault | report, after⟩
  · rw [inspectInto_of_error journal hresult]
  · rw [inspectInto_of_ok journal hresult]

end Inspection

/-! ## Requests to the preset service -/

/-- The call by which a request reaches the preset service.  A malformed element stops a request
before that. -/
def Request.call? : Request → Option Preset.Call
  | .inspectWithPreset preset element =>
      match Reading.element element with
      | .accepted _ => some (.spec preset)
      | .refused _ => none
  | .listPresets => some .list
  | .presetCatalog => some .list
  | .presetText name => some (.text name)
  | .readSpec _ => none
  | .inspect _ _ => none
  | .health => none

namespace Server

variable {files : FileStore} {server other : Server} {preset document : String} {element : Datum}

theorem serve_inspect {e : Element} (hread : Reading.element element = .accepted e) :
    server.serve files (.inspect document element) =
      server.inspectElement e (Spec.ofDocument document) := by
  simp only [serve, inspectWith, hread]

theorem serve_inspect_of_refused {issues : List Issue}
    (hread : Reading.element element = .refused issues) :
    server.serve files (.inspect document element) = (.error (.element issues), server) := by
  rw [serve, inspectWith_refused server _ hread]

theorem serve_inspectWithPreset {e : Element} (hread : Reading.element element = .accepted e) :
    server.serve files (.inspectWithPreset preset element) =
      match server.presets.spec files preset with
      | (.ok spec, presets) => { server with presets }.inspectElement e spec
      | (.error error, presets) => (presetFailure error, { server with presets }) := by
  simp only [serve, inspectWith, hread, presetSpec]
  rcases server.presets.spec files preset with ⟨error | spec, presets⟩ <;> rfl

theorem serve_inspectWithPreset_of_refused {issues : List Issue}
    (hread : Reading.element element = .refused issues) :
    server.serve files (.inspectWithPreset preset element) =
      (.error (.element issues), server) := by
  rw [serve, inspectWith_refused server _ hread]

/-- A server's service with the files, as a session of the service whose clock stands still. -/
def serviceSession (server : Server) (files : FileStore) : Preset.Session :=
  { files, service := server.presets }

/-- A request does to the service what its call does. -/
theorem serviceSession_serve (files : FileStore) (server : Server) (request : Request) :
    (server.serve files request).2.serviceSession files =
      match request.call? with
      | none => server.serviceSession files
      | some call => ((server.serviceSession files).call CheckTable.usual call).2 := by
  cases request with
  | readSpec document => rfl
  | inspect document element =>
      cases hread : Reading.element element with
      | accepted e =>
          rw [serve_inspect hread]
          rfl
      | refused issues =>
          rw [serve_inspect_of_refused hread]
          rfl
  | inspectWithPreset preset element =>
      cases hread : Reading.element element with
      | accepted e =>
          rw [serve_inspectWithPreset hread]
          simp only [Request.call?, hread, Preset.Session.call, serviceSession]
          rcases server.presets.spec files preset with ⟨error | spec, presets⟩ <;> rfl
      | refused issues =>
          rw [serve_inspectWithPreset_of_refused hread]
          simp only [Request.call?, hread]
  | listPresets => rfl
  | presetCatalog => rfl
  | presetText name => rfl
  | health => rfl

/-! ## One state -/

/-- The preset service has no part in the inspection of an element. -/
theorem inspectElement_presets (server : Server) (presets : Preset.Service) (e : Element)
    (spec : Spec) :
    { server with presets }.inspectElement e spec =
      ((server.inspectElement e spec).1, { (server.inspectElement e spec).2 with presets }) := rfl

/-- The reply about an element is made of the result of its inspection. -/
theorem reply_inspectElement (server : Server) (e : Element) (spec : Spec) :
    (server.inspectElement e spec).1 =
      match ((Inspection.inspect CheckTable.usual e spec.plan).run.run server.clock).1 with
      | .ok report => .ok (.report report)
      | .error fault => .error (.check fault) := by
  rw [← Inspection.result_inspectInto _ _ _ { sink := server.sink }]
  rfl

theorem serve_inspect_congr (hclock : server.clock = other.clock) (files others : FileStore)
    (document : String) (element : Datum) :
    (server.serve files (.inspect document element)).1 =
      (other.serve others (.inspect document element)).1 := by
  cases hread : Reading.element element with
  | accepted e =>
      rw [serve_inspect hread, serve_inspect hread, reply_inspectElement, reply_inspectElement,
        hclock]
  | refused issues =>
      rw [serve_inspect_of_refused hread, serve_inspect_of_refused hread]

/-- With the text of a preset at hand and no other specification kept, the inspection with the
preset is the inspection with this text, apart from what the preset service keeps afterwards. -/
theorem serve_inspectWithPreset_of_text
    (htext : (server.presets.text files preset).1 = .ok document)
    (hkept : server.presets.specs.get? preset = none ∨
      server.presets.specs.get? preset = some (Spec.ofDocument document)) (element : Datum) :
    ∃ presets, server.serve files (.inspectWithPreset preset element) =
      ((server.serve files (.inspect document element)).1,
        { (server.serve files (.inspect document element)).2 with presets }) := by
  cases hread : Reading.element element with
  | accepted e =>
      have hspec : (server.presets.spec files preset).1 = .ok (Spec.ofDocument document) := by
        rcases hkept with hnone | hsome
        · rw [Preset.Service.spec_of_text hnone htext]
        · rw [Preset.Service.spec_of_kept files server.presets hsome]
      refine ⟨(server.presets.spec files preset).2, ?_⟩
      rw [serve_inspectWithPreset hread, serve_inspect hread]
      generalize server.presets.spec files preset = given at hspec ⊢
      rcases given with ⟨result, presets⟩
      cases hspec
      exact inspectElement_presets server presets e _
  | refused issues =>
      refine ⟨server.presets, ?_⟩
      rw [serve_inspectWithPreset_of_refused hread, serve_inspect_of_refused hread]

/-- A preset that cannot be found makes an answer and leaves no trace but the catalog. -/
theorem serve_inspectWithPreset_of_error {e : Element} {error : Preset.Error}
    (hread : Reading.element element = .accepted e)
    (hspec : (server.presets.spec files preset).1 = .error error) :
    (server.serve files (.inspectWithPreset preset element)).1 = presetFailure error ∧
      (server.serve files (.inspectWithPreset preset element)).2.sink = server.sink ∧
      (server.serve files (.inspectWithPreset preset element)).2.presets.specs =
        server.presets.specs := by
  have hspecs := Preset.Service.specs_of_refused hspec
  rw [serve_inspectWithPreset hread]
  generalize server.presets.spec files preset = given at hspec hspecs ⊢
  rcases given with ⟨result, presets⟩
  cases hspec
  exact ⟨rfl, rfl, hspecs⟩

/-! ## Sessions -/

namespace Session

variable {session : Session}

/-- What an event does to the preset service, as an event of the service. -/
def serviceEvent? : Event → Option Preset.Event
  | .request request => request.call?.map .call
  | .write place entry => some (.write place entry)
  | .delete place => some (.delete place)

/-- The session of the service inside a session. -/
def service (session : Session) : Preset.Session :=
  session.server.serviceSession session.files

theorem service_step (session : Session) (event : Event) :
    (session.step event).service =
      match serviceEvent? event with
      | none => session.service
      | some event => session.service.step CheckTable.usual event := by
  cases event with
  | request request =>
      have hserve := serviceSession_serve session.files session.server request
      cases hcall : request.call? with
      | none =>
          rw [hcall] at hserve
          simp only [serviceEvent?, hcall, Option.map_none]
          exact hserve
      | some call =>
          rw [hcall] at hserve
          simp only [serviceEvent?, hcall, Option.map_some]
          exact hserve
  | write place entry => rfl
  | delete place => rfl

/-- The service goes through a session as through a session of its own. -/
theorem service_run (session : Session) (events : List Event) :
    (session.run events).service =
      session.service.run CheckTable.usual (events.filterMap serviceEvent?) := by
  induction events generalizing session with
  | nil => rfl
  | cons event rest ih =>
      cases hevent : serviceEvent? event with
      | none =>
          have hstep : (session.step event).service = session.service := by
            rw [service_step, hevent]
          rw [List.filterMap_cons_none hevent, ← hstep]
          exact ih (session.step event)
      | some given =>
          have hstep : (session.step event).service =
              session.service.step CheckTable.usual given := by
            rw [service_step, hevent]
          rw [List.filterMap_cons_some hevent, Preset.Session.run, List.foldl_cons, ← hstep]
          exact ih (session.step event)

theorem run_append (session : Session) (events later : List Event) :
    session.run (events ++ later) = (session.run events).run later :=
  List.foldl_append ..

theorem spec_run {name : String} {spec : Spec}
    (h : session.server.presets.specs.get? name = some spec) (events : List Event) :
    (session.run events).server.presets.specs.get? name = some spec := by
  have hkept : session.service.service.specs.get? name = some spec := h
  have hrun : ((session.service.run CheckTable.usual
      (events.filterMap serviceEvent?)).service.specs.get? name) = some spec :=
    Preset.Session.spec_run hkept (events.filterMap serviceEvent?)
  rwa [← service_run] at hrun

/-- The specification of a preset was cached from a text if a request reached the service for it
while none was kept, and this was the text of the preset then. -/
def CachedFrom (first : Session) (events : List Event) (preset document : String) : Prop :=
  ∃ before request later, events = before ++ .request request :: later ∧
    request.call? = some (.spec preset) ∧
    (first.run before).server.presets.specs.get? preset = none ∧
    ((first.run before).server.presets.text (first.run before).files preset).1 = .ok document

theorem CachedFrom.kept {events : List Event} {preset document : String}
    (h : session.CachedFrom events preset document) :
    (session.run events).server.presets.specs.get? preset = some (Spec.ofDocument document) := by
  rcases h with ⟨before, request, later, rfl, hcall, hnone, htext⟩
  have hspec := congrArg Prod.fst (Preset.Service.spec_of_text hnone htext)
  have hservice := service_step (session.run before) (.request request)
  simp only [serviceEvent?, hcall, Option.map_some] at hservice
  have hpresets : ((session.run before).step (.request request)).server.presets =
      ((session.run before).server.presets.spec (session.run before).files preset).2 :=
    congrArg Preset.Session.service hservice
  have hkept : ((session.run before).step (.request request)).server.presets.specs.get? preset =
      some (Spec.ofDocument document) := by
    rw [hpresets]
    exact Preset.Service.kept_of_spec hspec
  rw [run_append]
  exact spec_run hkept later

/-! ## The laws of the tools -/

/-- The laws of the tools in the state after some events. -/
structure ToolLaws (first : Session) (events : List Event) : Prop where
  /-- An inspection with a preset and one with its text give the same answer, and the same report is
  the last of the sink, unless the specification was cached from another text. -/
  inspections_agree : ∀ preset document element, let session := first.run events
    (session.server.presets.text session.files preset).1 = .ok document →
    (session.server.presets.specs.get? preset = none ∨ first.CachedFrom events preset document) →
      let given := session.answer (.inspectWithPreset preset element)
      let fresh := session.answer (.inspect document element)
      given.1 = fresh.1 ∧ given.2.server.sink = fresh.2.server.sink ∧
        given.2.server.clock = fresh.2.server.clock
  /-- A malformed element is refused before the preset is looked up. -/
  malformed_refused : ∀ preset element issues, let session := first.run events
    Reading.element element = .refused issues →
      session.answer (.inspectWithPreset preset element) = (.error (.element issues), session)
  /-- A preset that is not found is an answer; nothing is recorded and no specification is kept. -/
  missing_answered : ∀ preset element e name available, let session := first.run events
    Reading.element element = .accepted e →
    (session.server.presets.spec session.files preset).1 = .error (.notFound name available) →
      let given := session.answer (.inspectWithPreset preset element)
      given.1 = .ok (.presetMissing (.notFound name available)) ∧
        (Preset.Error.notFound name available).message?.isSome ∧
        given.2.server.sink = session.server.sink ∧
        given.2.server.presets.specs = session.server.presets.specs
  /-- What is answered about a document depends on nothing that the server keeps but the clock. -/
  document_fresh : ∀ document element (other : Session), let session := first.run events
    (session.answer (.readSpec document)).1 = (other.answer (.readSpec document)).1 ∧
      (session.server.clock = other.server.clock →
        (session.answer (.inspect document element)).1 =
          (other.answer (.inspect document element)).1)

/-- The laws hold in every state that a server comes to. -/
theorem toolLaws_run (directory : Path) (verbose : Bool) (files : FileStore) (clock : Clock)
    (events : List Event) : ToolLaws (Session.start directory verbose files clock) events where
  inspections_agree := by
    intro preset document element session htext hcached given fresh
    have hkept : session.server.presets.specs.get? preset = none ∨
        session.server.presets.specs.get? preset = some (Spec.ofDocument document) :=
      hcached.imp_right CachedFrom.kept
    rcases serve_inspectWithPreset_of_text htext hkept element with ⟨presets, hserve⟩
    have hgiven : given = (fresh.1, { fresh.2 with server.presets := presets }) := by
      unfold given fresh
      simp only [answer, hserve]
    rw [hgiven]
    exact ⟨rfl, rfl, rfl⟩
  malformed_refused := by
    intro preset element issues session hread
    simp only [answer, serve_inspectWithPreset_of_refused hread]
  missing_answered := by
    intro preset element e name available session hread hspec given
    rcases serve_inspectWithPreset_of_error hread hspec with ⟨hanswer, hsink, hspecs⟩
    exact ⟨hanswer, rfl, hsink, hspecs⟩
  document_fresh := by
    intro document element other session
    refine ⟨rfl, fun hclock => ?_⟩
    exact serve_inspect_congr hclock session.files other.files document element

end Session
end Server
end ComponentSpec

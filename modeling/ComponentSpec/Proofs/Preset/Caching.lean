import ComponentSpec.Preset.Session

/-!
# What a session keeps

A service keeps two things: the catalog and the specifications.  One call does one of four things to
them, and an event that changes files does nothing to them; the laws of whole sessions follow by
induction on the events.

Main statements: what a call does to a service (`keeps_call`), where a kept specification comes from
(`kept_or_reads`), and the laws of a session from its start (`cacheLaws_start`).
-/

namespace ComponentSpec
namespace Preset

/-! ## What one call does -/

/-- The preset whose specification a call asks for. -/
def Call.preset? : Call → Option String
  | .spec name => some name
  | .inspect name _ => some name
  | _ => none

/-- A call needs the catalog unless the specification that it asks for is kept. -/
def Call.NeedsCatalog (service : Service) (call : Call) : Prop :=
  ∀ name, call.preset? = some name → service.specs.get? name = none

namespace Service

variable {files : FileStore} {service : Service}

theorem catalog_eq_load (files : FileStore) (h : service.kept = none) :
    (service.catalog files).1 = Catalog.load files service.catalogPath := by
  unfold catalog
  rw [h]
  cases Catalog.load files service.catalogPath <;> rfl

theorem catalog_snd (files : FileStore) (service : Service) :
    (service.catalog files).2 =
      { service with kept := (service.catalog files).1.toOption } := by
  cases hkept : service.kept with
  | some catalog =>
      rw [catalog_of_kept files service hkept]
      cases service
      cases hkept
      rfl
  | none =>
      cases service
      cases hkept
      unfold catalog
      cases Catalog.load files _ <;> rfl

theorem text_snd (files : FileStore) (service : Service) (name : String) :
    (service.text files name).2 = (service.catalog files).2 := by
  unfold text
  rcases service.catalog files with ⟨_ | _, _⟩ <;> rfl

theorem spec_of_text {name text : String} (hnone : service.specs.get? name = none)
    (htext : (service.text files name).1 = .ok text) :
    service.spec files name =
      (.ok (Spec.ofDocument text),
        { (service.catalog files).2 with
          specs := (service.catalog files).2.specs.set name (Spec.ofDocument text) }) := by
  rw [← text_snd files service name]
  unfold spec
  rw [hnone]
  generalize service.text files name = answer at htext ⊢
  obtain ⟨result, next⟩ := answer
  cases htext
  rfl

theorem spec_of_refused {name : String} {error : Error}
    (hnone : service.specs.get? name = none)
    (htext : (service.text files name).1 = .error error) :
    service.spec files name = (.error error, (service.catalog files).2) := by
  rw [← text_snd files service name]
  unfold spec
  rw [hnone]
  generalize service.text files name = answer at htext ⊢
  obtain ⟨result, next⟩ := answer
  cases htext
  rfl

theorem kept_of_spec {name : String} {spec : Spec}
    (h : (service.spec files name).1 = .ok spec) :
    (service.spec files name).2.specs.get? name = some spec := by
  cases hkept : service.specs.get? name with
  | some old =>
      rw [spec_of_kept files service hkept] at h ⊢
      cases h
      exact hkept
  | none =>
      cases htext : (service.text files name).1 with
      | ok text =>
          rw [spec_of_text hkept htext] at h ⊢
          cases h
          rw [Fields.get?_set, if_pos rfl]
      | error error =>
          rw [spec_of_refused hkept htext] at h
          cases h

theorem specs_of_refused {name : String} {error : Error}
    (h : (service.spec files name).1 = .error error) :
    (service.spec files name).2.specs = service.specs := by
  cases hkept : service.specs.get? name with
  | some old =>
      rw [spec_of_kept files service hkept]
  | none =>
      cases htext : (service.text files name).1 with
      | ok text =>
          rw [spec_of_text hkept htext] at h
          cases h
      | error =>
          rw [spec_of_refused hkept htext, catalog_snd]

theorem exists_spec_of_text {name text : String} (htext : (service.text files name).1 = .ok text) :
    ∃ spec, (service.spec files name).1 = .ok spec ∧
      (service.specs.get? name = none → spec = Spec.ofDocument text) := by
  cases hkept : service.specs.get? name with
  | some spec =>
      refine ⟨spec, ?_, nofun⟩
      rw [spec_of_kept files service hkept]
  | none =>
      refine ⟨Spec.ofDocument text, ?_, fun _ => rfl⟩
      rw [spec_of_text hkept htext]

end Service

/-- What a call does to a service: it finds a specification that is kept, it reads the catalog and
no specification, it finds no text for the specification, or it reads the specification. -/
inductive Keeps (files : FileStore) (service : Service) (call : Call) : Service → Prop
  | found {name : String} {spec : Spec} (hname : call.preset? = some name)
      (hkept : service.specs.get? name = some spec) : Keeps files service call service
  | catalog (hname : call.preset? = none) :
      Keeps files service call (service.catalog files).2
  | refused {name : String} {error : Error} (hname : call.preset? = some name)
      (hnone : service.specs.get? name = none)
      (htext : (service.text files name).1 = .error error) :
      Keeps files service call (service.catalog files).2
  | reading {name text : String} (hname : call.preset? = some name)
      (hnone : service.specs.get? name = none)
      (htext : (service.text files name).1 = .ok text) :
      Keeps files service call
        { (service.catalog files).2 with
          specs := (service.catalog files).2.specs.set name (Spec.ofDocument text) }

namespace Session

variable {table : CheckTable} {session : Session}

theorem service_call_of_preset {call : Call} {name : String} (h : call.preset? = some name) :
    (session.call table call).2.service = (session.service.spec session.files name).2 := by
  cases call with
  | spec other =>
      cases h
      rfl
  | inspect other e =>
      cases h
      simp only [Session.call, Service.inspect]
      rcases session.service.spec session.files name with ⟨_ | _, _⟩ <;> rfl
  | list => cases h
  | names => cases h
  | text => cases h

/-- A call does one of the four things to the service. -/
theorem keeps_call (table : CheckTable) (session : Session) (call : Call) :
    Keeps session.files session.service call (session.call table call).2.service := by
  cases hname : call.preset? with
  | none =>
      have hservice : (session.call table call).2.service =
          (session.service.catalog session.files).2 := by
        cases call with
        | list => rfl
        | names => rfl
        | text name => exact Service.text_snd session.files session.service name
        | spec => cases hname
        | inspect => cases hname
      rw [hservice]
      exact .catalog hname
  | some name =>
      rw [service_call_of_preset hname]
      cases hkept : session.service.specs.get? name with
      | some spec =>
          rw [Service.spec_of_kept session.files session.service hkept]
          exact .found hname hkept
      | none =>
          cases htext : (session.service.text session.files name).1 with
          | ok text =>
              rw [Service.spec_of_text hkept htext]
              exact .reading hname hkept htext
          | error error =>
              rw [Service.spec_of_refused hkept htext]
              exact .refused hname hkept htext

end Session

namespace Keeps

variable {files : FileStore} {service next : Service} {call : Call}

/-- The places of the files stay as they are. -/
theorem directory_eq (h : Keeps files service call next) :
    next.directory = service.directory := by
  cases h with
  | found => rfl
  | catalog => rw [Service.catalog_snd]
  | refused => rw [Service.catalog_snd]
  | reading => rw [Service.catalog_snd]

/-- A call that needs the catalog keeps it if it can be read, and nothing else. -/
theorem kept_of_needsCatalog (h : Keeps files service call next)
    (hneeds : call.NeedsCatalog service) :
    next.kept = (service.catalog files).1.toOption := by
  cases h with
  | found hname hkept =>
      rw [hneeds _ hname] at hkept
      cases hkept
  | catalog => rw [Service.catalog_snd]
  | refused => rw [Service.catalog_snd]
  | reading => rw [Service.catalog_snd]

theorem kept_of_kept (h : Keeps files service call next) {catalog : Catalog}
    (hkept : service.kept = some catalog) : next.kept = some catalog := by
  have hcatalog := Service.catalog_of_kept files service hkept
  cases h with
  | found => exact hkept
  | catalog => rw [hcatalog]; exact hkept
  | refused => rw [hcatalog]; exact hkept
  | reading => rw [hcatalog]; exact hkept

theorem spec_of_kept (h : Keeps files service call next) {name : String} {spec : Spec}
    (hkept : service.specs.get? name = some spec) : next.specs.get? name = some spec := by
  cases h with
  | found => exact hkept
  | catalog => rw [Service.catalog_snd]; exact hkept
  | refused => rw [Service.catalog_snd]; exact hkept
  | @reading other _ _ hnone =>
      have hne : other ≠ name := by
        rintro rfl
        rw [hkept] at hnone
        cases hnone
      rw [Service.catalog_snd, Fields.get?_set, if_neg hne]
      exact hkept

/-- A specification that is new after a call was read by this call. -/
theorem exists_text_of_new (h : Keeps files service call next) {name : String} {spec : Spec}
    (hnone : service.specs.get? name = none) (hkept : next.specs.get? name = some spec) :
    call.preset? = some name ∧
      ∃ text, (service.text files name).1 = .ok text ∧ spec = Spec.ofDocument text := by
  cases h with
  | found =>
      rw [hnone] at hkept
      cases hkept
  | catalog =>
      rw [Service.catalog_snd, hnone] at hkept
      cases hkept
  | refused =>
      rw [Service.catalog_snd, hnone] at hkept
      cases hkept
  | @reading other text hname _ htext =>
      rw [Service.catalog_snd, Fields.get?_set] at hkept
      by_cases hother : other = name
      · subst hother
        rw [if_pos rfl] at hkept
        exact ⟨hname, text, htext, (Option.some.inj hkept).symm⟩
      · rw [if_neg hother, hnone] at hkept
        cases hkept

end Keeps

/-! ## What a session does -/

namespace Session

variable {table : CheckTable} {session : Session}

theorem run_append (table : CheckTable) (session : Session) (events later : List Event) :
    session.run table (events ++ later) = (session.run table events).run table later :=
  List.foldl_append ..

theorem run_call (table : CheckTable) (session : Session) (events later : List Event)
    (call : Call) :
    session.run table (events ++ .call call :: later) =
      ((session.run table events).call table call).2.run table later :=
  run_append ..

/-- What every call leaves as it is, a session leaves as it is. -/
theorem run_induction {P : Service → Prop} (hstart : P session.service)
    (hcall : ∀ files service call next, Keeps files service call next → P service → P next)
    (events : List Event) : P (session.run table events).service := by
  induction events generalizing session with
  | nil => exact hstart
  | cons event rest ih =>
      apply ih
      cases event with
      | call call => exact hcall _ _ _ _ (keeps_call table session call) hstart
      | write => exact hstart
      | delete => exact hstart

theorem directory_run (table : CheckTable) (session : Session) (events : List Event) :
    (session.run table events).service.directory = session.service.directory :=
  run_induction (P := fun service => service.directory = session.service.directory) rfl
    (fun _ _ _ _ hkeeps h => hkeeps.directory_eq.trans h) events

theorem kept_run {catalog : Catalog} (h : session.service.kept = some catalog)
    (events : List Event) : (session.run table events).service.kept = some catalog :=
  run_induction h (fun _ _ _ _ hkeeps h => hkeeps.kept_of_kept h) events

theorem spec_run {name : String} {spec : Spec}
    (h : session.service.specs.get? name = some spec) (events : List Event) :
    (session.run table events).service.specs.get? name = some spec :=
  run_induction h (fun _ _ _ _ hkeeps h => hkeeps.spec_of_kept h) events

/-- A specification is read in a session if some call asks for it while it is not kept, and the text
of the preset is there. -/
def Reads (table : CheckTable) (session : Session) (events : List Event) (name : String)
    (spec : Spec) : Prop :=
  ∃ before call later text,
    events = before ++ .call call :: later ∧ call.preset? = some name ∧
      (session.run table before).service.specs.get? name = none ∧
      ((session.run table before).call table (.text name)).1 = .text (.ok text) ∧
      spec = Spec.ofDocument text

/-- A specification that is kept at the end was kept at the start or was read in between. -/
theorem kept_or_reads {events : List Event} {name : String} {spec : Spec}
    (h : (session.run table events).service.specs.get? name = some spec) :
    session.service.specs.get? name = some spec ∨ session.Reads table events name spec := by
  -- What the later events did not read was kept after the first one.
  induction events generalizing session with
  | nil => exact .inl h
  | cons event rest ih =>
      rcases ih h with hkept | ⟨before, call, later, text, rfl, hread⟩
      · cases event with
        | write => exact .inl hkept
        | delete => exact .inl hkept
        | call call =>
            cases hstart : session.service.specs.get? name with
            | some old =>
                have hold := (keeps_call table session call).spec_of_kept hstart
                exact .inl (hold.symm.trans hkept)
            | none =>
                rcases (keeps_call table session call).exists_text_of_new hstart hkept with
                  ⟨hname, text, htext, hspec⟩
                exact .inr ⟨[], call, rest, text, rfl, hname, hstart,
                  congrArg Answer.text htext, hspec⟩
      · exact .inr ⟨event :: before, call, later, text, rfl, hread⟩

end Session

/-! ## The laws of a session -/

/-- The laws of a session whose first state is `first`. -/
structure CacheLaws (table : CheckTable) (first : Session) : Prop where
  /-- As long as no catalog is kept, the files are read; a missing catalog has no presets. -/
  catalog_read : ∀ events, let session := first.run table events
    session.service.kept = none →
      (session.service.catalog session.files).1 =
          Catalog.load session.files first.service.catalogPath ∧
        (session.files.readText first.service.catalogPath = .ok none →
          (session.service.catalog session.files).1 = .ok {})
  /-- A catalog that could be read is the catalog from then on. -/
  catalog_stays : ∀ events call later catalog, let session := first.run table events
    call.NeedsCatalog session.service →
    (session.service.catalog session.files).1 = .ok catalog →
      let last := first.run table (events ++ .call call :: later)
      (∀ files, last.service.catalog files = (.ok catalog, last.service)) ∧
        (last.call table .list).1 = .list (.ok (Service.overviewOf catalog)) ∧
        (last.call table .names).1 =
          .names ((catalog.names.mapM catalog.document.datum).mapError Error.content)
  /-- If the catalog cannot be read, none is kept. -/
  catalog_retried : ∀ events call error, let session := first.run table events
    call.NeedsCatalog session.service →
    (session.service.catalog session.files).1 = .error error →
      (session.call table call).2.service.kept = none
  /-- The specification that a call was given is the one of its preset from then on. -/
  spec_stays : ∀ events call name spec later, let session := first.run table events
    call.preset? = some name →
    (session.call table (.spec name)).1 = .spec (.ok spec) →
      let last := first.run table (events ++ .call call :: later)
      (last.call table (.spec name)).1 = .spec (.ok spec) ∧
        ∀ e, (last.call table (.inspect name e)).1 =
          .report (.ok ((Inspection.inspect table e spec.plan).run.run last.clock).1)
  /-- A specification that cannot be given changes no specification that is kept. -/
  spec_refused : ∀ events name error, let session := first.run table events
    (session.call table (.spec name)).1 = .spec (.error error) →
      ∀ call, call.preset? = some name →
        (session.call table call).2.service.specs = session.service.specs
  /-- A specification is given whenever the text of its preset is, and it is the one in this text
  unless one is kept. -/
  spec_given : ∀ events name text, let session := first.run table events
    (session.call table (.text name)).1 = .text (.ok text) →
      ∃ spec, (session.call table (.spec name)).1 = .spec (.ok spec) ∧
        (session.service.specs.get? name = none → spec = Spec.ofDocument text)
  /-- A specification that is kept was read from the text of its preset by a call that did not find
  it kept. -/
  spec_read : ∀ events name spec,
    (first.run table events).service.specs.get? name = some spec →
      first.Reads table events name spec

namespace Session

variable {table : CheckTable} {session : Session}

theorem catalogPath_run (table : CheckTable) (session : Session) (events : List Event) :
    (session.run table events).service.catalogPath = session.service.catalogPath := by
  unfold Service.catalogPath Service.presetDirectory
  rw [directory_run]

/-- The answers that depend on the catalog alone. -/
theorem answers_of_kept {catalog : Catalog} (h : session.service.kept = some catalog) :
    (session.call table .list).1 = .list (.ok (Service.overviewOf catalog)) ∧
      (session.call table .names).1 =
        .names ((catalog.names.mapM catalog.document.datum).mapError Error.content) := by
  have hcatalog := Service.catalog_of_kept session.files session.service h
  simp only [Session.call, Service.list, Service.names, hcatalog]
  exact ⟨rfl, rfl⟩

/-- The answers that depend on a specification alone. -/
theorem answers_of_spec {name : String} {spec : Spec}
    (h : session.service.specs.get? name = some spec) :
    (session.call table (.spec name)).1 = .spec (.ok spec) ∧
      ∀ e, (session.call table (.inspect name e)).1 =
        .report (.ok ((Inspection.inspect table e spec.plan).run.run session.clock).1) := by
  have hspec := Service.spec_of_kept session.files session.service h
  simp only [Session.call, Service.inspect, hspec]
  exact ⟨trivial, fun _ => rfl⟩

/-- The laws hold of every session from its start. -/
theorem cacheLaws_start (table : CheckTable) (directory : Path) (files : FileStore)
    (clock : Clock) : CacheLaws table (Session.start directory files clock) where
  catalog_read := by
    intro events session hnone
    have hload := Service.catalog_eq_load session.files hnone
    rw [catalogPath_run] at hload
    refine ⟨hload, fun hmissing => ?_⟩
    rw [hload]
    simp only [Catalog.load, hmissing]
  catalog_stays := by
    intro events call later catalog session hneeds hcatalog last
    have hcall : (session.call table call).2.service.kept = some catalog := by
      rw [(keeps_call table session call).kept_of_needsCatalog hneeds, hcatalog]
      rfl
    have hlast : last.service.kept = some catalog := by
      unfold last
      rw [run_call]
      exact kept_run hcall later
    exact ⟨fun files => Service.catalog_of_kept files last.service hlast, answers_of_kept hlast⟩
  catalog_retried := by
    intro events call error session hneeds hcatalog
    rw [(keeps_call table session call).kept_of_needsCatalog hneeds, hcatalog]
    rfl
  spec_stays := by
    intro events call name spec later session hname hspec last
    have hcall : (session.call table call).2.service.specs.get? name = some spec := by
      rw [service_call_of_preset hname]
      exact Service.kept_of_spec (Answer.spec.inj hspec)
    have hlast : last.service.specs.get? name = some spec := by
      unfold last
      rw [run_call]
      exact spec_run hcall later
    exact answers_of_spec hlast
  spec_refused := by
    intro events name error session hrefused call hname
    rw [service_call_of_preset hname]
    exact Service.specs_of_refused (Answer.spec.inj hrefused)
  spec_given := by
    intro events name text session htext
    rcases Service.exists_spec_of_text (Answer.text.inj htext) with ⟨spec, hspec, hread⟩
    exact ⟨spec, congrArg Answer.spec hspec, hread⟩
  spec_read := by
    intro events name spec hkept
    rcases kept_or_reads hkept with hstart | hreads
    · cases hstart
    · exact hreads

end Session
end Preset
end ComponentSpec

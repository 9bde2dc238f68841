import ComponentSpec.Preset.Catalog
import ComponentSpec.Spec.Read
import ComponentSpec.Yaml.Writer

/-!
# The preset service

A preset is named by its entry in the catalog or by the path of its file.  The service reads the
catalog once, when it is first needed, and keeps it; a catalog that cannot be read is tried again
the next time.  It keeps each specification under the name by which it was asked for, and nothing of
one that could not be given.

Main statements: a catalog that is kept is given again whatever the files are
(`catalog_of_kept`), and so is a specification (`spec_of_kept`).
-/

namespace ComponentSpec
namespace Preset

open Yaml

/-- What a list of presets says about one of them, as numbers in the document of the list. -/
structure Listing where
  name : Nat
  component : Nat
  category : Nat
  description : Nat

/-- A list of presets. -/
structure Overview where
  document : Document
  listings : List Listing

namespace Overview

/-- The fields of a listing with their names. -/
def fields (listing : Listing) : List (String × Nat) :=
  [("name", listing.name), ("component", listing.component), ("category", listing.category),
    ("description", listing.description)]

/-- A listing as a datum. -/
def listingDatum (document : Document) (listing : Listing) : Except Error Datum :=
  let readField := fun (field : String × Nat) =>
    (document.datum field.2).map fun d => (field.1, d)
  (((fields listing).mapM readField).map Datum.object).mapError Error.content

/-- The listings as data. -/
def data (overview : Overview) : Except Error (List Datum) :=
  overview.listings.mapM (listingDatum overview.document)

/-- Adds a mapping whose keys are texts to a document. -/
def addMapping (document : Document) (fields : List (String × Nat)) : Nat × Document :=
  let (pairs, document) := fields.foldl (fun (pairs, document) (name, i) =>
    let (key, document) := document.add (.text name)
    (pairs ++ [(key, i)], document)) (([] : List (Nat × Nat)), document)
  document.add (.mapping pairs)

/-- The overview as a document: a mapping with the list of the presets. -/
def toDocument (overview : Overview) : Document :=
  let (items, document) := overview.listings.foldl (fun (items, document) listing =>
    let (item, document) := addMapping document (fields listing)
    (items ++ [item], document)) (([] : List Nat), overview.document)
  let (list, document) := document.add (.sequence items)
  let (root, document) := addMapping document [("presets", list)]
  { document with root }

/-- The overview as a text. -/
def toText (overview : Overview) : Except Error String :=
  overview.toDocument.write.mapError Error.content

end Overview

/-- The directory of the configuration, the catalog once it was read, and the specifications that
were asked for. -/
structure Service where
  directory : Path
  kept : Option Catalog := none
  specs : Fields Spec := []

namespace Service

/-- The directory of the presets. -/
def presetDirectory (service : Service) : Path :=
  service.directory.join ⟨"", ["presets"]⟩

/-- The path of the catalog. -/
def catalogPath (service : Service) : Path :=
  service.presetDirectory.join ⟨"", ["catalog.yaml"]⟩

/-- The catalog: the kept one, or the one in the files, which is kept from now on. -/
def catalog (files : FileStore) (service : Service) : Except Error Catalog × Service :=
  match service.kept with
  | some catalog => (.ok catalog, service)
  | none =>
      match Catalog.load files service.catalogPath with
      | .ok catalog => (.ok catalog, { service with kept := some catalog })
      -- Nothing is kept, so the next request reads the files again.
      | .error e => (.error e, service)

/-- What an entry of the catalog says; `empty` stands for fields that it has not. -/
def listingOf (document : Document) (empty name : Nat) (entry : CatalogEntry) : Listing :=
  let field := fun (field : String) => (document.get? entry field).getD empty
  { name, component := field "component", category := field "category"
    description := field "description" }

/-- The presets of a catalog. -/
def overviewOf (catalog : Catalog) : Overview :=
  let (empty, document) := catalog.document.add (.text "")
  { document
    listings := catalog.entries.map fun (name, entry) => listingOf document empty name entry }

/-- The presets of the catalog. -/
def list (files : FileStore) (service : Service) : Except Error Overview × Service :=
  let (result, service) := service.catalog files
  (result.map overviewOf, service)

/-- The names in the catalog as data. -/
def names (files : FileStore) (service : Service) : Except Error (List Datum) × Service :=
  let (result, service) := service.catalog files
  let namesOf := fun (catalog : Catalog) =>
    (catalog.names.mapM catalog.document.datum).mapError Error.content
  (result.bind namesOf, service)

/-- The ending of the name of a specification file. -/
def specSuffix : String := ".rux"

/-- The path of a preset: the file of its entry, or else its name as a path. -/
def pathOf (directory : Path) (catalog : Catalog) (name : String) : Except Error Path :=
  match catalog.entryOf? name with
  -- A name that the catalog does not know is a path from the working directory.
  | none => .ok (Path.ofText name)
  | some entry =>
      match (catalog.document.get? entry "file").map catalog.document.content with
      | some (.text file) => .ok (directory.join (Path.ofText file))
      | some _ => .error .wrongKind
      | none => .error .missingField

/-- The error for a name that leads nowhere; the names of the catalog are part of its wording. -/
def notFound (catalog : Catalog) (name : String) : Error :=
  match catalog.textNames? with
  | some available => .notFound name available
  | none => .wrongKind

/-- The text of a preset with the catalog at hand. -/
def textIn (files : FileStore) (directory : Path) (catalog : Catalog) (name : String) :
    Except Error String :=
  match pathOf directory catalog name with
  | .error e => .error e
  | .ok path =>
      if path.suffix == specSuffix then
        match files.isFile path with
        | .ok true =>
            match files.readText path with
            | .ok (some text) => .ok text
            | .ok none => .error (notFound catalog name)
            | .error e => .error (.ofFile e)
        | .ok false => .error (notFound catalog name)
        | .error e => .error (.ofFile e)
      else .error (notFound catalog name)

/-- The text of a preset. -/
def text (files : FileStore) (service : Service) (name : String) :
    Except Error String × Service :=
  let (result, service) := service.catalog files
  match result with
  | .ok catalog => (textIn files service.presetDirectory catalog name, service)
  | .error e => (.error e, service)

/-- The specification of a preset: the kept one, or the one in its text, which is kept from now
on. -/
def spec (files : FileStore) (service : Service) (name : String) : Except Error Spec × Service :=
  match service.specs.get? name with
  | some spec => (.ok spec, service)
  | none =>
      match service.text files name with
      | (.ok text, service) =>
          let spec := Spec.ofDocument text
          (.ok spec, { service with specs := service.specs.set name spec })
      | (.error e, service) => (.error e, service)

theorem catalog_of_kept (files : FileStore) (service : Service) {catalog : Catalog}
    (h : service.kept = some catalog) :
    service.catalog files = (.ok catalog, service) := by
  simp [Service.catalog, h]

theorem spec_of_kept (files : FileStore) (service : Service) {name : String} {spec : Spec}
    (h : service.specs.get? name = some spec) :
    service.spec files name = (.ok spec, service) := by
  simp [Service.spec, h]

end Service
end Preset
end ComponentSpec

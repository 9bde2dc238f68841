import ComponentSpec.Files.Store
import ComponentSpec.Yaml.Building

/-!
# The catalog of presets

A catalog is a YAML mapping whose field for presets is a list of entries.  An entry is a mapping
with a name, under which it is found, and mostly a file.  A name that comes again keeps its position
and takes the later entry.  A catalog without content has no presets.
-/

namespace ComponentSpec
namespace Preset

open Yaml

/-- Why a preset cannot be given. -/
inductive Error
  /-- No preset and no file has this name. -/
  | notFound (name : String) (available : List String)
  /-- The catalog at this path has no list of presets. -/
  | invalidCatalog (path : String)
  /-- An entry lacks a field that it must have. -/
  | missingField
  /-- An entry, a name or a file is of a kind that it cannot be. -/
  | wrongKind
  /-- The text of the catalog has no content, or its content has no end. -/
  | content (error : Yaml.Error)
  /-- A file has bytes that are no text. -/
  | notText
  /-- A directory stands where a file should be. -/
  | isDirectory
  /-- The path of a file or a name in it is too long to be looked for. -/
  | nameTooLong
  deriving DecidableEq, Repr

/-- The wording of an error, for those that have one of their own. -/
def Error.message? : Error → Option String
  | notFound name available =>
      some ("Preset \"" ++ name ++ "\" not found. Available presets: " ++
        ", ".intercalate available)
  | invalidCatalog path => some ("Invalid preset catalog: " ++ path)
  | _ => none

/-- The error of a file that cannot be read. -/
def Error.ofFile : FileError → Error
  | .isDirectory => isDirectory
  | .notText => notText
  | .nameTooLong => nameTooLong

/-- The fields of an entry. -/
abbrev CatalogEntry := List (Nat × Nat)

/-- The entries of a catalog by their names, in order, in the document that holds them. -/
structure Catalog where
  document : Document := {}
  entries : List (Nat × CatalogEntry) := []

namespace Catalog

/-- Reads the entries one after another; the first that is no entry is an error. -/
def addEntries (catalog : Catalog) : List Nat → Except Error Catalog
  | [] => .ok catalog
  | i :: rest =>
      let document := catalog.document
      match document.content i with
      | .mapping entry =>
          match document.get? entry "name" with
          | none => .error .missingField
          | some name =>
              if (document.content name).isKey then
                let entries := document.setKey name entry catalog.entries
                addEntries { catalog with entries } rest
              else .error .wrongKind
      | _ => .error .wrongKind

/-- The catalog in a document; `path` is where it was read. -/
def ofDocument (path : String) (document : Document) : Except Error Catalog :=
  let content := document.content document.root
  if content.holds then
    match content with
    | .mapping pairs =>
        match (document.get? pairs "presets").map document.content with
        | some (.sequence items) => addEntries { document } items
        -- No pair of a list of pairs is an entry.
        | some (.entries []) => .ok { document }
        | some (.entries _) => .error .wrongKind
        | _ => .error (.invalidCatalog path)
    | _ => .error (.invalidCatalog path)
  else .ok {}

/-- The names in order. -/
def names (catalog : Catalog) : List Nat :=
  catalog.entries.map (·.1)

/-- The entry of a name. -/
def entryOf? (catalog : Catalog) (name : String) : Option CatalogEntry :=
  let isNamed := fun (entry : Nat × CatalogEntry) =>
    (catalog.document.content entry.1).isSame (.text name)
  (catalog.entries.find? isNamed).map (·.2)

/-- The names as texts, if all of them are. -/
def textNames? (catalog : Catalog) : Option (List String) :=
  catalog.names.mapM fun name =>
    match catalog.document.content name with
    | .text s => some s
    | _ => none

end Catalog

/-- The catalog in the files, read from its path; a missing one has no presets. -/
def Catalog.load (files : FileStore) (path : Path) : Except Error Catalog :=
  match files.readText path with
  | .error e => .error (.ofFile e)
  | .ok none => .ok {}
  | .ok (some text) =>
      match Document.ofText text.toList with
      | .error e => .error (.content e)
      | .ok document => Catalog.ofDocument path.toText document

end Preset
end ComponentSpec

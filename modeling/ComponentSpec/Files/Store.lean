import ComponentSpec.Fields
import ComponentSpec.Files.Path

/-!
# Files

The files that a service reads, as a value: directories and files, each under the names that lead to
it from the working directory, or from a root, which is then the first of the names.  A path is
followed name by name, and two points lead back only from a directory that exists.

Main statements: a file that was written is read back (`read?_write`), and a deleted one is not
there (`read?_delete`).
-/

namespace ComponentSpec

/-- What stands at a place. -/
inductive FileEntry
  | directory
  | file (bytes : List UInt8)
  deriving DecidableEq, Repr

/-- The directories and files by their places. -/
structure FileStore where
  entries : List (List String × FileEntry) := []

/-- Why a file cannot be read as text, or not even be looked for. -/
inductive FileError
  | isDirectory
  | notText
  | nameTooLong
  deriving DecidableEq, Repr

namespace FileStore

/-- What stands at a place; the working directory is always there. -/
def read? (store : FileStore) (place : List String) : Option FileEntry :=
  if place.isEmpty then some .directory else store.entries.lookup place

/-- Deletes what stands at a place, with everything below it. -/
def delete (store : FileStore) (place : List String) : FileStore :=
  { entries := store.entries.filter fun (p, _) => !place.isPrefixOf p }

/-- Puts an entry at a place. -/
def put (store : FileStore) (place : List String) (entry : FileEntry) : FileStore :=
  { entries := (place, entry) :: store.entries }

/-- Makes the directories above a place. -/
def makeParents (store : FileStore) (place : List String) : FileStore :=
  (List.range place.length).foldl (fun store n =>
    let parent := place.take n
    if (store.read? parent).isSome then store else store.put parent .directory) store

/-- Writes an entry and makes the directories above it. -/
def write (store : FileStore) (place : List String) (entry : FileEntry) : FileStore :=
  (store.makeParents place).put place entry

theorem read?_put (store : FileStore) {place : List String} (entry : FileEntry)
    (h : place ≠ []) : (store.put place entry).read? place = some entry := by
  cases place with
  | nil => exact absurd rfl h
  | cons => simp [read?, put]

theorem read?_write (store : FileStore) {place : List String} (entry : FileEntry)
    (h : place ≠ []) : (store.write place entry).read? place = some entry :=
  read?_put _ entry h

theorem read?_delete (store : FileStore) {place : List String} (h : place ≠ []) :
    (store.delete place).read? place = none := by
  cases place with
  | nil => exact absurd rfl h
  | cons name rest =>
      simp only [read?, delete, List.isEmpty_cons, Bool.false_eq_true, if_false]
      generalize store.entries = entries
      induction entries with
      | nil => rfl
      | cons e entries ih =>
          obtain ⟨p, entry⟩ := e
          by_cases hp : (name :: rest).isPrefixOf p = true
          -- The entry stands at the place or below it, and goes.
          · simpa [hp] using ih
          · have hne : ((name :: rest) == p) = false := by
              apply Bool.eq_false_iff.2
              intro he
              have he : name :: rest = p := by simpa using he
              exact hp (by simp [← he])
            simp only [Bool.not_eq_true] at hp
            simp [hp, List.lookup_cons, hne, ih]

/-- The greatest length of a name in bytes. -/
def nameLimit : Nat := 255

/-- The greatest length of the text of a path in bytes. -/
def pathLimit : Nat := 4095

/-- The place that some names lead to from a place.  Nothing lies above the place of the start.  A
name that is too long is an error once it is looked for. -/
def follow (store : FileStore) :
    List String → List String → Except FileError (Option (List String))
  | place, [] => .ok (some place)
  | place, name :: rest =>
      if store.read? place == some .directory then
        if name == ".." then
          if place.isEmpty then .ok none else follow store place.dropLast rest
        else if nameLimit < name.utf8ByteSize then .error .nameTooLong
        else
          let next := place ++ [name]
          if (store.read? next).isSome then follow store next rest else .ok none
      else .ok none

/-- What a path leads to.  A path with the character zero leads nowhere. -/
def find (store : FileStore) (path : Path) : Except FileError (Option FileEntry) :=
  let start := if path.isAbsolute then [path.root] else []
  if path.parts.any fun name => name.toList.contains (Char.ofNat 0) then .ok none
  else if pathLimit < path.toText.utf8ByteSize then .error .nameTooLong
  else if (store.read? start).isSome then
    (store.follow start path.parts).map fun place => place.bind store.read?
  -- There is a root also where the store holds nothing below it.
  else if path.parts.head?.any fun name => nameLimit < name.utf8ByteSize then .error .nameTooLong
  else .ok none

/-- Whether a path leads to a file. -/
def isFile (store : FileStore) (path : Path) : Except FileError Bool :=
  (store.find path).map fun entry =>
    match entry with
    | some (.file _) => true
    | _ => false

/-- The text of a file with its line ends unified; nothing if the path leads nowhere. -/
def readText (store : FileStore) (path : Path) : Except FileError (Option String) :=
  match store.find path with
  | .error e => .error e
  | .ok none => .ok none
  | .ok (some .directory) => .error .isDirectory
  | .ok (some (.file bytes)) =>
      match String.fromUTF8? ⟨bytes.toArray⟩ with
      | some s => .ok (some (String.ofList (Text.unifyLineEnds s.toList)))
      | none => .error .notText

end FileStore
end ComponentSpec

import ComponentSpec.Files.Path
import ComponentSpec.Reading.Scalar
import ComponentSpec.Text.Case

/-!
# Settings

The settings of the service come from arguments and from the environment, and arguments win.  The
variables of the environment begin with the name of the service; letter case does not matter in
them, and those that name no setting are passed over.  An argument that names no setting is an
issue.
-/

namespace ComponentSpec

/-- The settings of the service; without a directory the usual one is meant. -/
structure Settings where
  directory : Option Path := none
  verbose : Bool := false
  host : String := "0.0.0.0"
  port : Int := 8000
  deriving Repr

namespace Settings

/-- What the variables of the environment begin with, in small letters. -/
def variableStart : String := "rubric_"

/-- The names of the settings, in order. -/
def names : List String := ["config_dir", "verbose", "host", "port"]

/-- The setting that a variable gives, if it gives one. -/
def settingOf? (given : String) : Option String :=
  names.find? fun name => lowercase given == variableStart ++ name

/-- The settings in the environment. -/
def ofEnvironment (environment : Fields String) : Fields Datum :=
  Fields.ofPairs (environment.filterMap fun (given, value) =>
    (settingOf? given).map fun name => (name, Datum.text value))

/-- Reads a path. -/
def path : Datum → Reading Path
  | .text s => pure (Path.ofText s)
  | _ => Reading.refuse .notPath

/-- The issues of the arguments that name no setting. -/
def unknownArguments (arguments : Fields Datum) : List Issue :=
  arguments.filterMap fun (name, _) =>
    if names.contains name then none else some ⟨[.field name], .unexpected⟩

/-- Adds issues to a reading. -/
def withIssues {α : Type} (issues : List Issue) (reading : Reading α) : Reading α :=
  if issues.isEmpty then reading else Reading.refused (reading.issues ++ issues)

/-- Reads the settings. -/
def read (environment : Fields String) (arguments : Fields Datum) : Reading Settings :=
  let given := arguments.foldl (fun given (name, d) => given.set name d) (ofEnvironment environment)
  withIssues (unknownArguments arguments)
    (Settings.mk <$> Reading.optional given "config_dir" none (some <$> path ·)
      <*> Reading.optional given "verbose" false Reading.flag
      <*> Reading.optional given "host" "0.0.0.0" Reading.text
      <*> Reading.optional given "port" 8000 Reading.integer)

end Settings
end ComponentSpec

import ComponentSpec.Check.Table
import ComponentSpec.Coverage
import ComponentSpec.Suggestion
import ComponentSpec.Text.Word

/-!
# Inspection of an element

An inspection goes through the items of a plan, first the rules and then the requirements, and makes
one entry for each.  A rule runs the check of its name.  The hint of a requirement names a check, or
a factory with a number in parentheses that builds one; a requirement without a hint, or with one
that names nothing, is left to a person.  A check that ends in a fault makes a warning and does not
end the inspection; a factory that ends in one does.

Main statement: every entry is in exactly one list of the report (`length_lists`).
-/

namespace ComponentSpec

/-- What an inspection goes through. -/
structure Plan where
  component : String
  rules : Fields Datum := []
  requirements : List Requirement := []
  style : Option StyleGuide := none

/-- The plan of a specification. -/
def Spec.plan (spec : Spec) : Plan where
  component := spec.metadata.name
  rules := Value.fieldsToData (spec.rules.getD [])
  requirements := spec.requirements
  style := spec.style

namespace Inspection

open Text

/-! ## Entries -/

/-- What the report says about one item, and where. -/
inductive Entry
  | passed (finding : Finding)
  | failed (finding : Finding)
  | warning (finding : Finding)
  | manual (text : String)

namespace Entry

/-- The finding of an item that passed. -/
def passed? : Entry → Option Finding
  | passed finding => some finding
  | _ => none

/-- The finding of an item that failed. -/
def failed? : Entry → Option Finding
  | failed finding => some finding
  | _ => none

/-- The finding of a warning. -/
def warning? : Entry → Option Finding
  | warning finding => some finding
  | _ => none

/-- The text of an item that is left to a person. -/
def manual? : Entry → Option String
  | manual text => some text
  | _ => none

end Entry

/-- The finding of an item from the outcome of its check. -/
def findingOf (rule : String) (severity : Severity) (outcome : Outcome) : Finding :=
  { rule, passed := outcome.passed, message := outcome.message, severity
    details := outcome.details }

/-- The entry of an item whose check ended in a fault. -/
def faultEntry (rule : String) (fault : Fault) : Entry :=
  .warning {
    rule, passed := false, message := "Error running validation: " ++ fault.message
    severity := .warning }

/-- Runs a check; `report` makes the entry of its outcome. -/
def run (check : Check) (e : Element) (parameter : Datum) (rule : String)
    (report : Outcome → Entry) : StateM Clock Entry := do
  match ← (check e parameter).run with
  | .ok outcome => return report outcome
  | .error fault => return faultEntry rule fault

/-! ## Rules -/

/-- The entry of a rule. -/
def examineRule (table : CheckTable) (e : Element) (name : String) (parameter : Datum) :
    StateM Clock Entry :=
  match table.checks.get? name with
  | none =>
      return .warning {
        rule := name, passed := false, message := "Unknown validation rule: " ++ name
        severity := .warning }
  | some check =>
      run check e parameter name fun outcome =>
        if outcome.passed then .passed (findingOf name .info outcome)
        else .failed (findingOf name .error outcome)

/-- Whether a parameter is null, which switches its rule off. -/
def isNull : Datum → Bool
  | .null => true
  | _ => false

/-- The entries of the rules. -/
def examineRules (table : CheckTable) (e : Element) : Fields Datum → StateM Clock (List Entry)
  | [] => return []
  | (name, parameter) :: rest => do
      if isNull parameter then examineRules table e rest
      else
        let entry ← examineRule table e name parameter
        let entries ← examineRules table e rest
        return entry :: entries

/-! ## Requirements -/

/-- The name and the argument of a hint with an argument in parentheses. -/
def parameterized? (hint : String) : Option (String × List Char) :=
  let s := hint.toList
  let name := s.takeWhile isWord
  match s.dropWhile isWord with
  | '(' :: rest =>
      match cut? ')' rest with
      | some (argument, after) =>
          -- Nothing may follow the parenthesis except a line feed at the very end.
          if name.isEmpty || argument.isEmpty || !(after.isEmpty || after == ['\n']) then none
          else some (String.ofList name, argument)
      | none => none
  | _ => none

/-- The entry of a requirement with the outcome of a check that a factory has built. -/
def builtEntry (r : Requirement) (outcome : Outcome) : Entry :=
  if outcome.passed then .passed (findingOf r.text r.severity outcome)
  else .failed (findingOf r.text r.severity outcome)

/-- The entry of a requirement with the outcome of the check that it names: of a requirement that is
only a warning the failure is a warning. -/
def namedEntry (r : Requirement) (outcome : Outcome) : Entry :=
  if outcome.passed then .passed (findingOf r.text r.severity outcome)
  else if r.severity == .warning then .warning (findingOf r.text r.severity outcome)
  else .failed (findingOf r.text r.severity outcome)

/-- How a requirement is decided. -/
inductive Method
  | manual
  | named (check : Check)
  | built (factory : Factory) (argument : Binary64)

/-- The method that the hint of a requirement names.  An argument that is not a number is passed on
as not-a-number. -/
def method (table : CheckTable) (r : Requirement) : Method :=
  match r.hint with
  | none => .manual
  | some hint =>
      if hint.isEmpty then .manual
      else
        match parameterized? hint with
        | some (name, argument) =>
            match table.factories.get? name with
            | some factory => .built factory ((leadingReal? argument).getD .nan)
            | none => .manual
        | none =>
            match table.checks.get? hint with
            | some check => .named check
            | none => .manual

/-- The entry of a requirement; only the building of a check can end in a fault. -/
def examineRequirement (table : CheckTable) (e : Element) (r : Requirement) : Checking Entry :=
  match method table r with
  | .manual => return .manual r.text
  -- A check that is only named runs without a limit; a built one has its number already.
  | .named check => run check e (.flag true) r.text (namedEntry r)
  | .built factory argument => do
      let check ← timeless (factory argument)
      run check e .null r.text (builtEntry r)

/-- The entries of the requirements. -/
def examineRequirements (table : CheckTable) (e : Element) :
    List Requirement → Checking (List Entry)
  | [] => return []
  | r :: rest => do
      let entry ← examineRequirement table e r
      let entries ← examineRequirements table e rest
      return entry :: entries

/-! ## Reports -/

/-- The report with the given entries. -/
def reportOf (plan : Plan) (entries : List Entry) : Report where
  component := plan.component
  passed := entries.filterMap Entry.passed?
  failed := entries.filterMap Entry.failed?
  warnings := entries.filterMap Entry.warning?
  manual := entries.filterMap Entry.manual?
  coverage := Coverage.ofRequirements plan.requirements
  suggestions := plan.style.map Suggestion.ofStyle

/-- Inspects an element. -/
def inspect (table : CheckTable) (e : Element) (plan : Plan) : Checking Report := do
  let ruleEntries ← examineRules table e plan.rules
  let requirementEntries ← examineRequirements table e plan.requirements
  return reportOf plan (ruleEntries ++ requirementEntries)

/-! ## Every entry has its list -/

theorem length_lists (plan : Plan) (entries : List Entry) :
    (reportOf plan entries).passed.length + (reportOf plan entries).failed.length +
      (reportOf plan entries).warnings.length + (reportOf plan entries).manual.length =
        entries.length := by
  simp only [reportOf]
  induction entries with
  | nil => rfl
  | cons entry rest ih =>
      cases entry <;>
        simp only [List.filterMap_cons, Entry.passed?, Entry.failed?, Entry.warning?,
          Entry.manual?, List.length_cons] <;>
        omega

end Inspection
end ComponentSpec

import ComponentSpec.Check.Performance
import ComponentSpec.Check.Security

/-!
# The tables of checks

Checks are found by name.  A hint of a requirement may also name a factory, which builds a check
from a number; the only usual one asks for a least size.
-/

namespace ComponentSpec

/-- Whether the shorter side of the element has the size. -/
def Check.minSize (size : Number) (e : Element) (_ : Datum) : Except Fault Outcome := do
  let shown ← size.brief
  let current ← e.shorterSide.brief
  return {
    passed := size.le e.shorterSide
    message := "Element must be at least " ++ shown ++ "px (currently " ++ current ++ "px)"
    details := some [("required", .number size), ("actual", .number e.shorterSide)] }

/-- The checks and the factories that can be named. -/
structure CheckTable where
  checks : Fields Check
  factories : Fields Factory

namespace CheckTable

open Check

/-- The groups of checks, in the order in which a report names them. -/
inductive Group
  | accessibility
  | performance
  | security
  deriving DecidableEq, Repr

/-- The word for a group. -/
def Group.word : Group → String
  | accessibility => "accessibility"
  | performance => "performance"
  | security => "security"

/-- The usual checks with their groups. -/
def usualEntries : List (String × Group × Check) := [
  ("contrast", .accessibility, ofExcept contrast),
  ("keyboard", .accessibility, ofExcept keyboard),
  ("focusVisible", .accessibility, ofFunction focusVisible),
  ("touchTarget", .accessibility, ofExcept touchTarget),
  ("motion", .accessibility, ofFunction motion),
  ("screenReader", .accessibility, ofFunction screenReader),
  ("xss", .security, ofFunction xss),
  ("clickjacking", .security, ofExcept clickjacking),
  ("externalLinks", .security, ofFunction externalLinks),
  ("bundleSize", .performance, ofExcept bundleSize),
  ("renderTime", .performance, renderTime),
  ("imageOptimization", .performance, ofFunction imageOptimization)]

/-- The group of a check. -/
def groupOf? (name : String) : Option Group :=
  (Fields.get? usualEntries name).map (·.1)

/-- The usual tables. -/
def usual : CheckTable where
  checks := usualEntries.map fun (name, _, check) => (name, check)
  factories := [("minSize", fun x => .ok (ofExcept (minSize (.real x))))]

end CheckTable
end ComponentSpec

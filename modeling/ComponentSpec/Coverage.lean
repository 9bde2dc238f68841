import ComponentSpec.Report

/-!
# Coverage

The share of requirements with a hint, in percent.  Quotient and product are rounded to the binary
format in turn, and the sum with one half is rounded down.
-/

namespace ComponentSpec
namespace Coverage

/-- The greatest integer that is not above a number; not-a-number and the infinities have none. -/
def floor? : Binary64 → Option Int
  | .finite negative s e => some (Binary64.finiteValue negative s e).floor
  | _ => none

/-- One half. -/
def half : Binary64 := Binary64.ofRatio false 1 2

/-- The share of `part` in `total` in percent, zero of nothing. -/
def percent (part total : Nat) : Int :=
  if total == 0 then 0
  else
    let share := (Binary64.ofRatio false part total).mul (.ofInt 100)
    (floor? (share.add half)).getD 0

/-- The coverage of some requirements. -/
def ofRequirements (requirements : List Requirement) : Coverage :=
  let total := requirements.length
  let automated := requirements.countP (·.hasHint)
  { total, automated, percentage := percent automated total }

example : percent 1 3 = 33 ∧ percent 2 3 = 67 ∧ percent 1 8 = 13 := by decide +kernel

end Coverage
end ComponentSpec

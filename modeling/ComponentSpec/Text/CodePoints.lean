/-!
# Sets of code points

A set of code points is written as the increasing list of its boundaries: the set begins at the
first boundary, ends before the second, begins again at the third, and so on.
-/

namespace ComponentSpec
namespace Text

/-- Membership in the set with these boundaries: an odd number of them lies at or below `x`. -/
def insideRuns : List Nat → Nat → Bool
  | [], _ => false
  | boundary :: rest, x => if x < boundary then false else !insideRuns rest x

@[simp] theorem insideRuns_nil (x : Nat) : insideRuns [] x = false := rfl

theorem insideRuns_of_lt {boundary x : Nat} (rest : List Nat) (h : x < boundary) :
    insideRuns (boundary :: rest) x = false := by
  simp [insideRuns, h]

theorem insideRuns_of_le {boundary x : Nat} (rest : List Nat) (h : boundary ≤ x) :
    insideRuns (boundary :: rest) x = !insideRuns rest x := by
  simp [insideRuns, Nat.not_lt.2 h]

end Text
end ComponentSpec

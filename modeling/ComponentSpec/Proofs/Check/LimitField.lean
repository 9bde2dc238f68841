import ComponentSpec.Proofs.Check.Answers
import ComponentSpec.Proofs.Number.Order

/-!
# The two spellings of a limit

A check that compares with a number takes the number by itself or in a field of an object.  Contrast,
touch targets and render time look for it in both places alike, so that the spelling makes no
difference.  The size of a bundle has a reading of its own for each spelling, and they come apart at
one value: zero by itself is a limit that only an empty element keeps, and zero in the field is taken
for a limit that was left out.

Main statements: what the check of bundle sizes answers (`exists_of_bundleSize`), and the laws of the
two spellings (`spellingLaws`).
-/

namespace ComponentSpec
namespace Check

variable (e : Element) (n : Number) (others : Fields Datum)

/-- An object with a number in a field, which may have any other fields. -/
def limitIn (field : String) (n : Number) (others : Fields Datum) : Datum :=
  .object (Fields.set field (.number n) others)

theorem field?_limitIn (field : String) : (limitIn field n others).field? field = some (.number n) := by
  rw [limitIn, Datum.field?, Fields.get?_set, if_pos rfl]

/-- A limit is found in either spelling. -/
theorem limit?_limitIn (field : String) :
    limit? (limitIn field n others) field = limit? (.number n) field := by
  rw [limit?, field?_limitIn]
  rfl

/-! ## Checks with one reading of a limit -/

theorem contrast_limitIn : contrast e (limitIn "ratio" n others) = contrast e (.number n) := by
  unfold contrast
  rw [limit?_limitIn]

theorem touchTarget_limitIn : touchTarget e (limitIn "min" n others) = touchTarget e (.number n) := by
  have hsize : touchSize (limitIn "min" n others) = touchSize (.number n) := by
    unfold touchSize
    rw [limit?_limitIn]
    rfl
  unfold touchTarget
  rw [hsize]

theorem renderTime_limitIn : renderTime e (limitIn "maxMs" n others) = renderTime e (.number n) := by
  unfold renderTime
  rw [limit?_limitIn]

/-! ## The size of a bundle -/

/-- What the check of bundle sizes answers, if it has an answer. -/
theorem exists_of_bundleSize {e : Element} {rule : Datum} {outcome : Outcome}
    (h : bundleSize e rule = .ok outcome) :
    ∃ message, outcome = {
      passed := (Number.whole (estimatedSize e)).le (bundleLimit rule)
      message
      details := some [
        ("estimatedSize", .number (.whole (estimatedSize e))),
        ("maxSize", .number (bundleLimit rule)), ("nodeCount", .int e.descendants.length),
        ("inlineStyles", .int (attributeLength e "style")),
        ("classNames", .int (attributeLength e "class"))] } := by
  unfold bundleSize at h
  dsimp only at h
  cases hshown : (Number.whole (estimatedSize e)).divNat kilobyte with
  | error fault =>
      rw [hshown] at h
      cases h
  | ok shown =>
      rw [hshown] at h
      cases hpassed : (Number.whole (estimatedSize e)).le (bundleLimit rule) with
      | true =>
          rw [hpassed] at h
          cases h
          exact ⟨_, rfl⟩
      | false =>
          rw [hpassed] at h
          -- The message of a failure shows the limit as well.
          cases hmost : (bundleLimit rule).divNat kilobyte with
          | error fault =>
              rw [hmost] at h
              cases h
          | ok most =>
              rw [hmost] at h
              cases h
              exact ⟨_, rfl⟩

/-- The check of bundle sizes compares the estimate with the limit. -/
theorem passed_of_bundleSize {e : Element} {rule : Datum} {outcome : Outcome}
    (h : bundleSize e rule = .ok outcome) :
    outcome.passed = (Number.whole (estimatedSize e)).le (bundleLimit rule) := by
  rcases exists_of_bundleSize h with ⟨message, rfl⟩
  rfl

/-- The outcome tells the limit. -/
theorem bundleLimit_congr {e : Element} {rule other : Datum} {outcome : Outcome}
    (h : bundleSize e rule = .ok outcome) (hother : bundleSize e other = .ok outcome) :
    bundleLimit rule = bundleLimit other := by
  rcases exists_of_bundleSize h with ⟨message, rfl⟩
  rcases exists_of_bundleSize hother with ⟨_, houtcome⟩
  simpa using congrArg Outcome.details houtcome

/-- A parameter counts for the limit that is read from it. -/
theorem bundleSize_eq (rule : Datum) : bundleSize e rule = bundleSize e (.number (bundleLimit rule)) :=
  rfl

theorem bundleLimit_limitIn :
    bundleLimit (limitIn "max" n others) = if n.isZero then unlimited else n := by
  have hmax : Fields.get? (Fields.set "max" (.number n) others) "max" = some (.number n) :=
    field?_limitIn n others "max"
  simp only [bundleLimit, limitIn, hmax]

theorem bundleSize_limitIn (hn : n.isZero = false) :
    bundleSize e (limitIn "max" n others) = bundleSize e (.number n) := by
  rw [bundleSize_eq, bundleLimit_limitIn, hn, if_neg Bool.false_ne_true]

theorem bundleSize_limitIn_of_isZero (hn : n.isZero = true) :
    bundleSize e (limitIn "max" n others) = bundleSize e (.number unlimited) := by
  rw [bundleSize_eq, bundleLimit_limitIn, hn, if_pos rfl]

end Check

/-! ## Zero -/

theorem Number.whole_le_unlimited (k : Int) : (whole k).le Check.unlimited = true := rfl

theorem Number.ne_unlimited_of_isZero {n : Number} (hn : n.isZero = true) : n ≠ Check.unlimited := by
  rintro rfl
  cases hn

namespace Check

/-- A document can ask for a limit of zero of either kind: a flag stands for the integer. -/
theorem exists_value_of_isZero {n : Number} (hn : n.isZero = true) :
    ∃ v : Value, bundleLimit v.toDatum = n := by
  cases n with
  | whole k =>
      cases beq_iff_eq.1 hn
      exact ⟨.flag false, rfl⟩
  | real x => exact ⟨.number x, rfl⟩

/-- Zero by itself is kept by the elements that weigh nothing, and zero in the field by all. -/
theorem exists_bundleSize_of_isZero {e : Element} (he : e.IsSnapshot) {n : Number}
    (hn : n.isZero = true) (others : Fields Datum) :
    ∃ strict lax, bundleSize e (.number n) = .ok strict ∧
      bundleSize e (limitIn "max" n others) = .ok lax ∧
        strict.passed = decide (estimatedSize e = 0) ∧ lax.passed = true ∧ strict ≠ lax := by
  rcases exists_value_of_isZero hn with ⟨v, hv⟩
  rcases isAnswer_bundleSize he v with ⟨strict, hstrict, -⟩
  rcases isAnswer_bundleSize he (.number (.infinite false)) with ⟨lax, hlax, -⟩
  rw [bundleSize_eq, hv] at hstrict
  refine ⟨strict, lax, hstrict, ?_, ?_, ?_, ?_⟩
  · rw [bundleSize_limitIn_of_isZero e n others hn]
    exact hlax
  · rw [passed_of_bundleSize hstrict, Bool.eq_iff_iff, decide_eq_true_iff]
    have hle := Number.whole_le_iff_of_isZero hn (estimatedSize e)
    exact hle.trans Int.natCast_nonpos_iff
  · rw [passed_of_bundleSize hlax]
    exact Number.whole_le_unlimited (estimatedSize e)
  · rintro rfl
    -- The details of an outcome name the limit, and the two limits are not the same.
    exact Number.ne_unlimited_of_isZero hn (bundleLimit_congr hstrict hlax)

/-! ## Both spellings -/

/-- What the spelling of a limit changes. -/
structure SpellingLaws (e : Element) (n : Number) (others : Fields Datum) : Prop where
  contrast : contrast e (limitIn "ratio" n others) = contrast e (.number n)
  touchTarget : touchTarget e (limitIn "min" n others) = touchTarget e (.number n)
  /-- The time is the same too, whatever the clock reads. -/
  renderTime : renderTime e (limitIn "maxMs" n others) = renderTime e (.number n)
  bundleSize : n.isZero = false →
    bundleSize e (limitIn "max" n others) = bundleSize e (.number n)
  /-- A zero in the field sets no limit, while zero by itself is one. -/
  bundleSize_zero : n.isZero = true → e.IsSnapshot →
    ∃ strict lax, Check.bundleSize e (.number n) = .ok strict ∧
      Check.bundleSize e (limitIn "max" n others) = .ok lax ∧
        strict.passed = decide (estimatedSize e = 0) ∧ lax.passed = true ∧ strict ≠ lax

theorem spellingLaws (e : Element) (n : Number) (others : Fields Datum) :
    SpellingLaws e n others where
  contrast := contrast_limitIn e n others
  touchTarget := touchTarget_limitIn e n others
  renderTime := renderTime_limitIn e n others
  bundleSize := fun hn => bundleSize_limitIn e n others hn
  bundleSize_zero := fun hn he => exists_bundleSize_of_isZero he hn others

/-- An element that weighs fifty bytes. -/
def oneChild : Element :=
  .node {} [.node {} []]

/-- The element is above a limit of zero, and within the same limit if it is given in the field. -/
theorem bundleSize_zero_oneChild :
    ∃ strict lax, bundleSize oneChild (.int 0) = .ok strict ∧
      bundleSize oneChild (.object [("max", .int 0)]) = .ok lax ∧
        strict.passed = false ∧ lax.passed = true := by
  have hone : oneChild.IsSnapshot := ⟨rfl, rfl, by decide, fun _ h => absurd h List.not_mem_nil⟩
  rcases exists_bundleSize_of_isZero hone (n := .whole 0) rfl [] with
    ⟨strict, lax, hstrict, hlax, hfails, hpasses, -⟩
  exact ⟨strict, lax, hstrict, hlax, hfails, hpasses⟩

end Check
end ComponentSpec

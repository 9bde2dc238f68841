import ComponentSpec.Proofs.Check.LimitField
import ComponentSpec.Proofs.Check.Sides
import ComponentSpec.Proofs.Element.Insertion
import Mathlib.Logic.Relation

/-!
# The size of a growing bundle

The estimate of a bundle counts the descendants of an element, and to this it adds what the element
has of its own.  An element that is put in anywhere adds the weight of its nodes and changes nothing
else, so that an element that is too large stays too large when it grows.  A limit can only help by
being raised.

The check divides the estimate and a limit that is exceeded in order to show them, and an integer
beyond the range of binary numbers cannot be divided; within the range the check always answers.

Main statements: when the check passes (`passes_bundleSize_iff`), that it goes on failing while an
element grows (`not_passes_bundleSize_of_grows`), and the laws of growing elements and limits
(`bundleSizeLaws`).
-/

namespace ComponentSpec

open Element

/-- A number that can be shown can be given in kilobytes. -/
theorem Number.IsShowable.exists_divNat {a : Number} (h : a.IsShowable) :
    ∃ x, a.divNat Check.kilobyte = .ok x := by
  cases a with
  | real x => exact ⟨_, divNat_real x _⟩
  | whole n =>
      have hlarge : n.natAbs < 2 ^ 1024 := Nat.lt_of_lt_of_le h (Nat.sub_le _ _)
      apply exists_divNat_whole
      by_cases hzero : n.natAbs = 0
      · rw [hzero]
        exact Nat.zero_le _
      · have hlog : ∀ k, n.natAbs < 2 ^ k → n.natAbs.log2 < k := fun _ => (Nat.log2_lt hzero).2
        exact Nat.le_trans (hlog 1024 hlarge).le (by decide)

namespace Check

variable {s e grown : Element} {rule : Datum}

/-- The check has an outcome, and the element does not pass. -/
def Fails (result : Except Fault Outcome) : Prop :=
  ∃ outcome, result = .ok outcome ∧ outcome.passed = false

/-! ## One element -/

theorem detail?_bundleSize {outcome : Outcome} (h : bundleSize e rule = .ok outcome) :
    outcome.detail? "estimatedSize" = some (.int (estimatedSize e)) ∧
      outcome.detail? "nodeCount" = some (.int e.descendants.length) := by
  rcases exists_of_bundleSize h with ⟨message, rfl⟩
  exact ⟨rfl, rfl⟩

/-- An element that passes needs no limit in its message, so only the estimate has to be divided. -/
theorem passes_bundleSize_iff :
    Passes (bundleSize e rule) ↔
      (∃ shown, (Number.whole (estimatedSize e)).divNat kilobyte = .ok shown) ∧
        (Number.whole (estimatedSize e)).le (bundleLimit rule) = true := by
  constructor
  · rintro ⟨outcome, houtcome, hpassed⟩
    rw [passed_of_bundleSize houtcome] at hpassed
    refine ⟨?_, hpassed⟩
    cases hshown : (Number.whole (estimatedSize e)).divNat kilobyte with
    | ok shown => exact ⟨shown, rfl⟩
    | error fault =>
        unfold bundleSize at houtcome
        dsimp only at houtcome
        rw [hshown] at houtcome
        cases houtcome
  · rintro ⟨⟨shown, hshown⟩, hle⟩
    unfold bundleSize
    dsimp only
    rw [hshown, hle]
    exact ⟨_, rfl, rfl⟩

theorem exists_bundleSize (hsize : (Number.whole (estimatedSize e)).IsShowable)
    (hlimit : (bundleLimit rule).IsShowable) : ∃ outcome, bundleSize e rule = .ok outcome := by
  rcases hsize.exists_divNat with ⟨shown, hshown⟩
  rcases hlimit.exists_divNat with ⟨most, hmost⟩
  rcases isAnswer_bundleSize_of_divNat hshown hmost with ⟨outcome, houtcome, -⟩
  exact ⟨outcome, houtcome⟩

/-! ## Growing elements -/

theorem estimatedSize_of_inserted (h : Inserted s e grown) :
    estimatedSize grown = estimatedSize e + nodeWeight * s.nodeCount := by
  have hattribute : ∀ name, attributeLength grown name = attributeLength e name := by
    intro name
    rw [attributeLength, attributeLength, attribute?, attribute?, h.own_eq]
  rw [estimatedSize, estimatedSize, h.length_descendants, hattribute, hattribute, Nat.add_mul,
    Nat.mul_comm s.nodeCount]
  omega

/-- The second element is the first one after any number of insertions. -/
def Grows : Element → Element → Prop :=
  Relation.ReflTransGen fun e grown => ∃ s, Inserted s e grown

theorem estimatedSize_le_of_grows (h : Grows e grown) : estimatedSize e ≤ estimatedSize grown := by
  induction h with
  | refl => exact Nat.le_refl _
  | tail _ hstep ih =>
      rcases hstep with ⟨s, hs⟩
      rw [estimatedSize_of_inserted hs]
      exact Nat.le_add_right_of_le ih

theorem not_passes_bundleSize_of_grows (h : Grows e grown) (hfails : Fails (bundleSize e rule)) :
    ¬ Passes (bundleSize grown rule) := by
  intro hpasses
  rcases hfails with ⟨outcome, houtcome, hfailed⟩
  rw [passed_of_bundleSize houtcome] at hfailed
  have hsizes : (Number.whole (estimatedSize e)).le (.whole (estimatedSize grown)) = true := by
    rw [Number.le_whole]
    exact decide_eq_true (Int.ofNat_le.2 (estimatedSize_le_of_grows h))
  have hle := Number.le_trans hsizes (passes_bundleSize_iff.1 hpasses).2
  rw [hfailed] at hle
  cases hle

/-! ## The laws -/

/-- What an insertion changes in the outcome. -/
structure OutcomeGrows (s : Element) (before after : Outcome) : Prop where
  size : ∃ size : Nat, before.detail? "estimatedSize" = some (.int size) ∧
    after.detail? "estimatedSize" = some (.int (size + 50 * s.nodeCount : Nat))
  nodes : ∃ nodes : Nat, before.detail? "nodeCount" = some (.int nodes) ∧
    after.detail? "nodeCount" = some (.int (nodes + s.nodeCount : Nat))
  passed : before.passed = false → after.passed = false

theorem outcomeGrows (h : Inserted s e grown) {before after : Outcome}
    (hbefore : bundleSize e rule = .ok before) (hafter : bundleSize grown rule = .ok after) :
    OutcomeGrows s before after := by
  have hearlier := detail?_bundleSize hbefore
  have hlater := detail?_bundleSize hafter
  rw [estimatedSize_of_inserted h, h.length_descendants] at hlater
  constructor
  case size => exact ⟨_, hearlier.1, hlater.1⟩
  case nodes => exact ⟨_, hearlier.2, hlater.2⟩
  case passed =>
    intro hfailed
    have hgrows : Grows e grown := .single ⟨s, h⟩
    have hfails := not_passes_bundleSize_of_grows hgrows ⟨before, hbefore, hfailed⟩
    exact Bool.eq_false_iff.2 fun hpassed => hfails ⟨after, hafter, hpassed⟩

/-- How the check of bundle sizes follows the element and the limit. -/
structure BundleSizeLaws (e : Element) : Prop where
  /-- Integers within the range of binary numbers can be divided and shown. -/
  answers : ∀ rule, (Number.whole (estimatedSize e)).IsShowable → (bundleLimit rule).IsShowable →
    ∃ outcome, bundleSize e rule = .ok outcome
  inserted : ∀ s grown rule before after, Inserted s e grown → bundleSize e rule = .ok before →
    bundleSize grown rule = .ok after → OutcomeGrows s before after
  /-- No number of insertions makes a failing element pass, whatever the limit. -/
  grows : ∀ grown rule, Grows e grown → Fails (bundleSize e rule) →
    ¬ Passes (bundleSize grown rule)
  /-- An element that keeps one limit keeps every greater one. -/
  raised : ∀ a b : Number, a.le b = true → Passes (bundleSize e (.number a)) →
    Passes (bundleSize e (.number b))

theorem bundleSizeLaws (e : Element) : BundleSizeLaws e where
  answers := fun _ hsize hlimit => exists_bundleSize hsize hlimit
  inserted := fun _ _ _ _ _ hs hbefore hafter => outcomeGrows hs hbefore hafter
  grows := fun _ _ hgrows hfails => not_passes_bundleSize_of_grows hgrows hfails
  raised := by
    intro a b hab hpasses
    rw [passes_bundleSize_iff] at hpasses ⊢
    exact ⟨hpasses.1, Number.le_trans hpasses.2 hab⟩

end Check
end ComponentSpec

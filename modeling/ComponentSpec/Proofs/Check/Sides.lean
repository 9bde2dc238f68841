import ComponentSpec.Proofs.Check.Answers
import ComponentSpec.Proofs.Number.Order
import Mathlib.Tactic.Tauto

/-!
# Two checks of the size of an element

The check of touch targets compares both sides with the least size; the check that a factory builds
compares the shorter side.  The shorter side is the width unless the height is less, and a height
that is not a number is less than no width.  So the second check passes over such a height, while the
first one fails.  It does not pass over such a width, and its answer can change when the element is
turned.

Main statements: when each check passes (`passes_touchTarget_iff`, `passes_minSize_iff`), and how the
two are related (`sizeLaws`).
-/

namespace ComponentSpec

/-! ## Numbers in messages -/

/-- A number that a message can show: a binary one, or an integer within the range. -/
def Number.IsShowable : Number → Prop
  | whole n => n.natAbs < 2 ^ 1024 - 2 ^ 970
  | real _ => True

instance (a : Number) : Decidable a.IsShowable :=
  match a with
  | .whole n => inferInstanceAs (Decidable (n.natAbs < 2 ^ 1024 - 2 ^ 970))
  | .real _ => .isTrue trivial

theorem Number.exists_brief_iff {a : Number} : (∃ shown, a.brief = .ok shown) ↔ a.IsShowable := by
  cases a with
  | real x => exact iff_of_true ⟨_, brief_real x⟩ trivial
  | whole n =>
      cases hbrief : (whole n).brief with
      | ok shown =>
          refine iff_of_true ⟨shown, rfl⟩ (Nat.lt_of_not_le fun hlarge => ?_)
          have herror := brief_whole_eq_error_iff.2 ⟨hlarge, rfl⟩
          rw [hbrief] at herror
          cases herror
      | error fault =>
          have hlarge := (brief_whole_eq_error_iff.1 hbrief).1
          exact iff_of_false nofun (Nat.not_lt.2 hlarge)

namespace Element

/-- The element with its two sides exchanged. -/
def turned : Element → Element
  | node own children => node { own with width := own.height, height := own.width } children

@[simp]
theorem width_turned (e : Element) : e.turned.own.width = e.own.height := by
  cases e
  rfl

@[simp]
theorem height_turned (e : Element) : e.turned.own.height = e.own.width := by
  cases e
  rfl

end Element

namespace Check

variable {e : Element} {n : Number}

/-- The check has an outcome, and the element passes. -/
def Passes (result : Except Fault Outcome) : Prop :=
  ∃ outcome, result = .ok outcome ∧ outcome.passed = true

/-! ## When the checks pass -/

theorem passes_touchTarget_iff :
    Passes (touchTarget e (.number n)) ↔
      n.IsShowable ∧ n.le e.own.width = true ∧ n.le e.own.height = true := by
  have hsize : touchSize (.number n) = .ok n := rfl
  rw [← Number.exists_brief_iff, ← Bool.and_eq_true]
  cases hshown : n.brief with
  | error fault =>
      rw [touchTarget_of_size_error hsize hshown]
      exact iff_of_false nofun fun h => nomatch h.1
  | ok shown =>
      simp only [touchTarget, hsize, hshown, bind, Except.bind, pure, Except.pure]
      cases n.le e.own.width && n.le e.own.height with
      | true => exact iff_of_true ⟨_, rfl, rfl⟩ ⟨⟨shown, rfl⟩, rfl⟩
      | false =>
          -- The message of a failure shows the shorter side, and the check has no outcome without it.
          refine iff_of_false ?_ fun h => Bool.false_ne_true h.2
          rintro ⟨outcome, houtcome, hpassed⟩
          cases hcurrent : e.shorterSide.brief with
          | error fault =>
              rw [hcurrent] at houtcome
              cases houtcome
          | ok current =>
              rw [hcurrent] at houtcome
              cases houtcome
              cases hpassed

theorem passes_minSize_iff (hwidth : e.own.width.IsMeasure) (hheight : e.own.height.IsMeasure)
    (parameter : Datum) :
    Passes (minSize n e parameter) ↔
      n.IsShowable ∧ n.le e.own.width = true ∧
        (n.le e.own.height = true ∨ e.own.height = .real .nan) := by
  have hside : e.shorterSide.IsMeasure := by
    unfold Element.shorterSide Number.min
    split
    · exact hheight
    · exact hwidth
  rcases Number.exists_brief hside with ⟨current, hcurrent⟩
  rw [← Number.exists_brief_iff, ← Number.le_min_iff]
  simp only [minSize, hcurrent, bind, Except.bind, pure, Except.pure]
  cases hshown : n.brief with
  | error fault => exact iff_of_false nofun fun h => nomatch h.1
  | ok shown =>
      constructor
      · rintro ⟨outcome, houtcome, hpassed⟩
        cases houtcome
        exact ⟨⟨shown, rfl⟩, hpassed⟩
      · rintro ⟨-, hle⟩
        exact ⟨_, rfl, hle⟩

/-! ## The two checks beside each other -/

/-- The width is large enough, and the height is not a number and is passed over. -/
def MissesHeight (n : Number) (e : Element) : Prop :=
  n.IsShowable ∧ n.le e.own.width = true ∧ e.own.height = .real .nan

/-- How the two checks of the size of an element are related. -/
structure SizeLaws (n : Number) (e : Element) : Prop where
  touchTarget : Passes (touchTarget e (.number n)) ↔
    n.IsShowable ∧ n.le e.own.width = true ∧ n.le e.own.height = true
  minSize : ∀ parameter, Passes (minSize n e parameter) ↔
    Passes (Check.touchTarget e (.number n)) ∨ MissesHeight n e
  /-- They agree exactly on the elements whose height is not missed. -/
  agree : ∀ parameter,
    (Passes (Check.minSize n e parameter) ↔ Passes (Check.touchTarget e (.number n))) ↔
      ¬ MissesHeight n e
  turned_touchTarget :
    Passes (Check.touchTarget e.turned (.number n)) ↔ Passes (Check.touchTarget e (.number n))
  /-- The check of the shorter side changes its answer when one of the sides is missed. -/
  turned_minSize : ∀ parameter,
    (Passes (Check.minSize n e.turned parameter) ↔ Passes (Check.minSize n e parameter)) ↔
      ¬ MissesHeight n e ∧ ¬ MissesHeight n e.turned

theorem not_passes_of_missesHeight (h : MissesHeight n e) :
    ¬ Passes (touchTarget e (.number n)) := by
  rw [passes_touchTarget_iff, h.2.2, Number.le_nan]
  exact fun h => Bool.false_ne_true h.2.2

theorem passes_minSize_iff_or (hwidth : e.own.width.IsMeasure) (hheight : e.own.height.IsMeasure)
    (parameter : Datum) :
    Passes (minSize n e parameter) ↔ Passes (touchTarget e (.number n)) ∨ MissesHeight n e := by
  rw [passes_minSize_iff hwidth hheight, passes_touchTarget_iff, MissesHeight, and_or_left,
    and_or_left]

theorem passes_touchTarget_turned_iff :
    Passes (touchTarget e.turned (.number n)) ↔ Passes (touchTarget e (.number n)) := by
  rw [passes_touchTarget_iff, passes_touchTarget_iff, Element.width_turned, Element.height_turned]
  exact and_congr_right fun _ => and_comm

theorem not_missesHeight_turned (h : MissesHeight n e) : ¬ MissesHeight n e.turned := by
  intro hturned
  rw [MissesHeight, Element.height_turned] at hturned
  exact Number.ne_nan_of_le h.2.1 hturned.2.2

theorem sizeLaws (hwidth : e.own.width.IsMeasure) (hheight : e.own.height.IsMeasure) :
    SizeLaws n e := by
  have hsizes : ∀ parameter, Passes (minSize n e parameter) ↔
      Passes (touchTarget e (.number n)) ∨ MissesHeight n e :=
    passes_minSize_iff_or hwidth hheight
  have hturned : ∀ parameter, Passes (minSize n e.turned parameter) ↔
      Passes (touchTarget e (.number n)) ∨ MissesHeight n e.turned := by
    rw [← passes_touchTarget_turned_iff]
    apply passes_minSize_iff_or
    · rwa [Element.width_turned]
    · rwa [Element.height_turned]
  have hfails : MissesHeight n e → ¬ Passes (touchTarget e (.number n)) :=
    not_passes_of_missesHeight
  have hfails_turned : MissesHeight n e.turned → ¬ Passes (touchTarget e (.number n)) := by
    rw [← passes_touchTarget_turned_iff]
    exact not_passes_of_missesHeight
  have hone : MissesHeight n e → ¬ MissesHeight n e.turned := not_missesHeight_turned
  constructor
  case touchTarget => exact passes_touchTarget_iff
  case minSize => exact hsizes
  case agree =>
    intro parameter
    rw [hsizes parameter]
    tauto
  case turned_touchTarget => exact passes_touchTarget_turned_iff
  case turned_minSize =>
    intro parameter
    rw [hsizes parameter, hturned parameter]
    tauto

/-- An element whose height is not a number. -/
def withoutHeight : Element :=
  .node { width := .real (.ofInt 50), height := .real .nan } []

theorem sizeLaws_withoutHeight :
    withoutHeight.own.width.IsMeasure ∧ withoutHeight.own.height.IsMeasure ∧
      SizeLaws (.whole 44) withoutHeight :=
  ⟨trivial, trivial, sizeLaws trivial trivial⟩

/-- A width of fifty is enough for one of the checks only, and not after the element was turned. -/
theorem passes_minSize_withoutHeight :
    Passes (minSize (.whole 44) withoutHeight .null) ∧
      ¬ Passes (touchTarget withoutHeight (.int 44)) ∧
        ¬ Passes (minSize (.whole 44) withoutHeight.turned .null) := by
  have hmissed : MissesHeight (.whole 44) withoutHeight :=
    ⟨by decide +kernel, by decide +kernel, rfl⟩
  have hwidth : withoutHeight.own.width.IsMeasure := trivial
  have hheight : withoutHeight.own.height.IsMeasure := trivial
  refine ⟨?_, not_passes_of_missesHeight hmissed, ?_⟩
  · exact (passes_minSize_iff_or hwidth hheight .null).2 (.inr hmissed)
  · intro h
    have hle := ((passes_minSize_iff (e := withoutHeight.turned) hheight hwidth .null).1 h).2.1
    cases hle

end Check
end ComponentSpec

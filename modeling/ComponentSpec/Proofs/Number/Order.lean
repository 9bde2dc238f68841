import ComponentSpec.Number.Basic
import Mathlib.Algebra.Order.Ring.Unbundled.Rat
import Mathlib.Order.WithBot

/-!
# The order of numbers

Numbers are compared by their places on the line, and not-a-number has no place.  Among numbers with
a place the order is total, so the smaller one of two is at least a bound exactly if both are.  With
not-a-number this fails on one side only: as the second of two numbers it is passed over, and as the
first it is kept.

Main statements: what is at most the smaller of two numbers (`le_min_iff`), and which whole numbers
are at most a zero (`whole_le_iff_of_isZero`).
-/

namespace ComponentSpec

namespace Place

variable {p q r : Place}

/-- The place among the rationals with two ends. -/
def bound : Place → WithBot (WithTop Rat)
  | start => ⊥
  | «at» a => ((a : WithTop Rat) : WithBot (WithTop Rat))
  | finish => ⊤

theorem le_iff_bound_le : p.le q = true ↔ p.bound ≤ q.bound := by
  cases p <;> cases q <;> simp [le, bound]

theorem le_trans (hpq : p.le q = true) (hqr : q.le r = true) : p.le r = true := by
  rw [le_iff_bound_le] at *
  exact hpq.trans hqr

theorem le_of_not_le (h : ¬ p.le q = true) : q.le p = true := by
  rw [le_iff_bound_le] at *
  exact le_of_not_ge h

end Place

theorem Binary64.finiteValue_zero (negative : Bool) (e : Int) : finiteValue negative 0 e = 0 := by
  unfold finiteValue magnitude
  by_cases he : 0 ≤ e <;> simp [he]

namespace Number

variable {a b n : Number}

/-- Only not-a-number has no place. -/
theorem place?_eq_none_iff : a.place? = none ↔ a = .real .nan := by
  cases a with
  | whole k => exact iff_of_false nofun nofun
  | real x =>
      cases x with
      | nan => exact iff_of_true rfl rfl
      | infinite negative => exact iff_of_false nofun nofun
      | finite negative s e => exact iff_of_false nofun nofun

theorem exists_place (h : a ≠ .real .nan) : ∃ p, a.place? = some p :=
  Option.ne_none_iff_exists'.1 fun hnone => h (place?_eq_none_iff.1 hnone)

theorem ne_nan_of_le (h : n.le a = true) : a ≠ .real .nan := by
  rintro rfl
  rw [le_nan] at h
  cases h

theorem le_trans (hna : n.le a = true) (hab : a.le b = true) : n.le b = true := by
  unfold le at *
  split at hna
  · rename_i p q hp hq
    rw [hq] at hab
    split at hab
    · rename_i q' r hq' hr
      cases hq'
      rw [hp, hr]
      exact Place.le_trans hna hab
    · cases hab
  · cases hna

/-- Numbers with a place are at most each other in one direction at least. -/
theorem le_of_lt_eq_false (ha : a ≠ .real .nan) (hb : b ≠ .real .nan) (h : b.lt a = false) :
    a.le b = true := by
  rcases exists_place ha with ⟨p, hp⟩
  rcases exists_place hb with ⟨q, hq⟩
  simp only [lt, hp, hq, Bool.not_eq_false'] at h
  simpa only [le, hp, hq] using h

theorem le_of_lt (h : b.lt a = true) : b.le a = true := by
  unfold lt at h
  split at h
  · rename_i q p hq hp
    simp only [le, hq, hp]
    exact Place.le_of_not_le (by simpa using h)
  · cases h

theorem min_nan_right (a : Number) : min a (.real .nan) = a := rfl

theorem min_nan_left (b : Number) : min (.real .nan) b = .real .nan := by
  have hlt : b.lt (.real .nan) = false := by
    unfold lt
    cases b.place? <;> rfl
  rw [min, hlt, if_neg Bool.false_ne_true]

/-- A bound is at most the smaller of two numbers if it is at most both, or if it is at most the
first and the second is not-a-number. -/
theorem le_min_iff :
    n.le (min a b) = true ↔ n.le a = true ∧ (n.le b = true ∨ b = .real .nan) := by
  by_cases hb : b = .real .nan
  · rw [hb, min_nan_right]
    exact ⟨fun h => ⟨h, .inr rfl⟩, fun h => h.1⟩
  · by_cases ha : a = .real .nan
    · rw [ha, min_nan_left, le_nan]
      exact iff_of_false Bool.false_ne_true fun h => Bool.false_ne_true h.1
    · cases hlt : b.lt a with
      | true =>
          rw [min, hlt, if_pos rfl]
          exact ⟨fun h => ⟨le_trans h (le_of_lt hlt), .inl h⟩, fun h => h.2.resolve_right hb⟩
      | false =>
          rw [min, hlt, if_neg Bool.false_ne_true]
          exact ⟨fun h => ⟨h, .inl (le_trans h (le_of_lt_eq_false ha hb hlt))⟩, fun h => h.1⟩

/-! ## Zero -/

theorem place?_of_isZero (h : a.isZero = true) : a.place? = some (.at 0) := by
  cases a with
  | whole k =>
      cases beq_iff_eq.1 h
      rfl
  | real x =>
      cases x with
      | nan => cases h
      | infinite negative => cases h
      | finite negative s e =>
          cases beq_iff_eq.1 h
          rw [place?, Binary64.finiteValue_zero]

theorem whole_le_iff_of_isZero (h : a.isZero = true) (k : Int) : (whole k).le a = true ↔ k ≤ 0 := by
  have hcast : ((k : Rat) ≤ 0) ↔ k ≤ 0 := Rat.intCast_nonpos
  rw [← hcast]
  simp only [le, place?_of_isZero h]
  exact decide_eq_true_iff

end Number
end ComponentSpec

import Mathlib.Algebra.Order.Field.Power
import Mathlib.Data.Int.Log
import Mathlib.Data.Rat.Floor
import Mathlib.Tactic.Linarith
import Mathlib.Tactic.NormNum
import Mathlib.Tactic.Positivity
import Mathlib.Tactic.Ring
import ComponentSpec.Number.Binary64

/-!
# How near a rounded number is

The exponent of a quotient is that of the power of two below it, less the 52 bits that follow the
leading one, so a quotient below `2 ^ m` is rounded by less than its last place.  What is computed
from rounded numbers stays near the exact result, with the errors of the steps added up.

Main statements: the exponent is read off the logarithm of the quotient (`exponentOf_eq`), the
rounded number depends on the quotient alone (`ofRatio_eq_of_mul_eq`), and it is off by half a unit
of its last place at most (`isNear_ofRatio`, `isNear_ofRat`).
-/

namespace ComponentSpec

theorem roundHalfEven_mul_right (num den : Nat) {c : Nat} (h : 0 < c) :
    roundHalfEven (num * c) (den * c) = roundHalfEven num den := by
  have hbelow : 2 * (num % den * c) < den * c ↔ 2 * (num % den) < den := by
    rw [← Nat.mul_assoc, Nat.mul_lt_mul_right h]
  have habove : den * c < 2 * (num % den * c) ↔ den < 2 * (num % den) := by
    rw [← Nat.mul_assoc, Nat.mul_lt_mul_right h]
  unfold roundHalfEven
  simp only [Nat.mul_div_mul_right _ _ h, Nat.mul_mod_mul_right, hbelow, habove]

theorem abs_roundHalfEven_sub_le (num : Nat) {den : Nat} (h : 0 < den) :
    |(roundHalfEven num den : Rat) - num / den| ≤ 1 / 2 := by
  have hden : (0 : Rat) < den := by exact_mod_cast h
  have hupper : (2 * (roundHalfEven num den * den) : Rat) ≤ 2 * num + den := by
    exact_mod_cast roundHalfEven_le num h
  have hlower : (2 * num : Rat) ≤ 2 * (roundHalfEven num den * den) + den := by
    exact_mod_cast le_roundHalfEven num h
  have hquotient : (num / den * den : Rat) = num := div_mul_cancel₀ _ hden.ne'
  rw [abs_le]
  constructor
  all_goals
    refine le_of_mul_le_mul_right ?_ hden
    linarith

namespace Binary64

/-! ## Values and scales -/

theorem finiteValue_false (s : Nat) (e : Int) : finiteValue false s e = s * (2 : Rat) ^ e := by
  unfold finiteValue magnitude
  simp only [Bool.false_eq_true, if_false]
  split
  case isTrue he =>
      rcases Int.eq_ofNat_of_zero_le he with ⟨k, rfl⟩
      simp [Rat.mkRat_eq_div]
  case isFalse he =>
      rcases Int.exists_eq_neg_ofNat (Int.not_le.1 he).le with ⟨k, rfl⟩
      simp [Rat.mkRat_eq_div, div_eq_mul_inv]

variable {num den : Nat}

theorem scaleDown_pos (num : Nat) (h : 0 < den) (e : Int) : 0 < (scaleDown num den e).2 := by
  unfold scaleDown
  split
  · exact Nat.mul_pos h (Nat.two_pow_pos _)
  · exact h

theorem scaleDown_mul_right (num den c : Nat) (e : Int) :
    scaleDown (num * c) (den * c) e =
      ((scaleDown num den e).1 * c, (scaleDown num den e).2 * c) := by
  unfold scaleDown
  split <;> simp [Nat.mul_right_comm]

/-- Scaling down is division by the power of two. -/
theorem scaleDown_div (num den : Nat) (e : Int) :
    ((scaleDown num den e).1 / (scaleDown num den e).2 : Rat) = num / den / 2 ^ e := by
  unfold scaleDown
  split
  case isTrue he =>
      rcases Int.eq_ofNat_of_zero_le he with ⟨k, rfl⟩
      simp [div_div]
  case isFalse he =>
      rcases Int.exists_eq_neg_ofNat (Int.not_le.1 he).le with ⟨k, rfl⟩
      simp [div_eq_mul_inv, mul_right_comm]

/-! ## The exponent -/

theorem zpow_log2_le (h : 0 < num) : (2 : Rat) ^ (num.log2 : Int) ≤ num := by
  exact_mod_cast Nat.log2_self_le h.ne'

theorem lt_zpow_log2_succ (num : Nat) : (num : Rat) < 2 ^ ((num.log2 : Int) + 1) := by
  exact_mod_cast Nat.lt_log2_self (n := num)

/-- The binary digits of numerator and denominator tell the logarithm of their quotient but for
one. -/
theorem log_div_bounds (hnum : 0 < num) (hden : 0 < den) :
    (num.log2 : Int) - den.log2 - 1 ≤ Int.log 2 (num / den : Rat) ∧
      Int.log 2 (num / den : Rat) ≤ num.log2 - den.log2 := by
  have hden' : (0 : Rat) < den := by exact_mod_cast hden
  have hquotient : (0 : Rat) < num / den := by positivity
  have htwo : (2 : Rat) ≠ 0 := by norm_num
  constructor
  · rw [← Int.zpow_le_iff_le_log Nat.one_lt_two hquotient, le_div_iff₀ hden']
    calc
      ((2 : Nat) : Rat) ^ ((num.log2 : Int) - den.log2 - 1) * den
        ≤ (2 : Rat) ^ ((num.log2 : Int) - den.log2 - 1) * 2 ^ ((den.log2 : Int) + 1) := by
          rw [Nat.cast_ofNat]
          gcongr
          exact (lt_zpow_log2_succ den).le
      _ = (2 : Rat) ^ (num.log2 : Int) := by
          rw [← zpow_add₀ htwo]
          congr 1
          omega
      _ ≤ num := zpow_log2_le hnum
  · rw [← Int.lt_add_one_iff, ← Int.lt_zpow_iff_log_lt Nat.one_lt_two hquotient,
      div_lt_iff₀ hden']
    calc
      (num : Rat) < 2 ^ ((num.log2 : Int) + 1) := lt_zpow_log2_succ num
      _ = 2 ^ ((num.log2 : Int) - den.log2 + 1) * 2 ^ (den.log2 : Int) := by
          rw [← zpow_add₀ htwo]
          congr 1
          omega
      _ ≤ ((2 : Nat) : Rat) ^ ((num.log2 : Int) - den.log2 + 1) * den := by
          rw [Nat.cast_ofNat]
          gcongr
          exact zpow_log2_le hden

/-- The exponent leaves 53 bits to the significand, unless it would be below the least one. -/
theorem exponentOf_eq (hnum : 0 < num) (hden : 0 < den) :
    exponentOf num den = max (Int.log 2 (num / den : Rat) - 52) leastExponent := by
  have hden' : (0 : Rat) < den := by exact_mod_cast hden
  have hquotient : (0 : Rat) < num / den := by positivity
  rcases log_div_bounds hnum hden with ⟨hlower, hupper⟩
  unfold exponentOf
  dsimp only
  -- The test is whether the first guess of the logarithm is too large.
  have htest : ∀ e : Int, (scaleDown num den e).1 / (scaleDown num den e).2 < Nat.pow 2 52 ↔
      Int.log 2 (num / den : Rat) < e + 52 := by
    intro e
    have hpos := scaleDown_pos num hden e
    have hpos' : (0 : Rat) < (scaleDown num den e).2 := by exact_mod_cast hpos
    calc
      (scaleDown num den e).1 / (scaleDown num den e).2 < Nat.pow 2 52
        ↔ ((scaleDown num den e).1 / (scaleDown num den e).2 : Rat) < 2 ^ (52 : Int) := by
          rw [Nat.div_lt_iff_lt_mul hpos, div_lt_iff₀ hpos']
          norm_cast
      _ ↔ (num / den : Rat) < ((2 : Nat) : Rat) ^ (e + 52) := by
          rw [scaleDown_div, div_lt_iff₀ (by positivity), ← zpow_add₀ (by norm_num), add_comm,
            Nat.cast_ofNat]
      _ ↔ Int.log 2 (num / den : Rat) < e + 52 :=
          Int.lt_zpow_iff_log_lt Nat.one_lt_two hquotient
  simp only [htest]
  split <;> omega

/-! ## Rounding depends on the quotient alone -/

theorem ofRatio_mul_right (negative : Bool) (num : Nat) (hden : 0 < den) {c : Nat} (hc : 0 < c) :
    ofRatio negative (num * c) (den * c) = ofRatio negative num den := by
  rcases Nat.eq_zero_or_pos num with rfl | hnum
  · simp [ofRatio]
  have hexponent : exponentOf (num * c) (den * c) = exponentOf num den := by
    have hc' : (c : Rat) ≠ 0 := by exact_mod_cast hc.ne'
    rw [exponentOf_eq (Nat.mul_pos hnum hc) (Nat.mul_pos hden hc), exponentOf_eq hnum hden,
      Nat.cast_mul, Nat.cast_mul, mul_div_mul_right _ _ hc']
  have hmul : (num * c == 0) = (num == 0) := by
    rw [beq_eq_false_iff_ne.2 hnum.ne', beq_eq_false_iff_ne.2 (Nat.mul_pos hnum hc).ne']
  unfold ofRatio
  simp only [hexponent, hmul, scaleDown_mul_right, roundHalfEven_mul_right _ _ hc]

/-- Equal quotients are rounded to the same number. -/
theorem ofRatio_eq_of_mul_eq {num' den' : Nat} (negative : Bool) (hden : 0 < den)
    (hden' : 0 < den') (h : num * den' = num' * den) :
    ofRatio negative num den = ofRatio negative num' den' := by
  rw [← ofRatio_mul_right negative num hden hden', h, Nat.mul_comm den den',
    ofRatio_mul_right negative num' hden' hden]

/-! ## The error -/

/-- A number without a negative sign that is off a rational by `ε` at most. -/
def IsNear (x : Binary64) (q ε : Rat) : Prop :=
  ∃ s e, x = .finite false s e ∧ |finiteValue false s e - q| ≤ ε

theorem IsNear.mono {x : Binary64} {q δ ε : Rat} (hx : x.IsNear q δ) (h : δ ≤ ε) :
    x.IsNear q ε := by
  rcases hx with ⟨s, e, hx, herror⟩
  exact ⟨s, e, hx, herror.trans h⟩

/-- The errors of two steps add up. -/
theorem IsNear.trans {x : Binary64} {p q δ ε : Rat} (hx : x.IsNear p δ) (hp : |p - q| ≤ ε) :
    x.IsNear q (δ + ε) := by
  rcases hx with ⟨s, e, rfl, herror⟩
  exact ⟨s, e, rfl, (abs_sub_le _ p _).trans (add_le_add herror hp)⟩

theorem isNear_pack {significand : Nat} {e : Int} {q ε : Rat} (he : e < greatestExponent)
    (h : |significand * (2 : Rat) ^ e - q| ≤ ε) : (pack false significand e).IsNear q ε := by
  by_cases hcarry : significand = 2 ^ 53
  · refine ⟨2 ^ 52, e + 1, ?_, ?_⟩
    · simp [pack, hcarry, Int.not_lt.2 (Int.add_one_le_of_lt he)]
    · -- The carry leaves the value as it is.
      have hvalue : finiteValue false (2 ^ 52) (e + 1) = significand * (2 : Rat) ^ e := by
        rw [finiteValue_false, hcarry, zpow_add₀ (by norm_num)]
        push_cast
        ring
      rwa [hvalue]
  · refine ⟨significand, e, ?_, ?_⟩
    · simp only [pack, Nat.pow_eq, beq_iff_eq, if_neg hcarry, if_neg (Int.not_lt.2 he.le)]
    · rwa [finiteValue_false]

theorem exponentOf_le_of_lt (hnum : 0 < num) (hden : 0 < den) {m : Int}
    (h : (num / den : Rat) < 2 ^ m) (hlower : -1021 ≤ m) : exponentOf num den ≤ m - 53 := by
  have hden' : (0 : Rat) < den := by exact_mod_cast hden
  have hquotient : (0 : Rat) < num / den := by positivity
  have hlog : Int.log 2 (num / den : Rat) < m := by
    rw [← Int.lt_zpow_iff_log_lt Nat.one_lt_two hquotient]
    exact_mod_cast h
  rw [exponentOf_eq hnum hden]
  unfold leastExponent
  omega

/-- At any exponent, the rounded significand is off the quotient by half a unit at most. -/
theorem abs_roundHalfEven_scaleDown_sub_le (num : Nat) (hden : 0 < den) (e : Int) :
    |(roundHalfEven (scaleDown num den e).1 (scaleDown num den e).2 : Rat) * 2 ^ e - num / den| ≤
      1 / 2 * 2 ^ e := by
  have hscale : (num / den : Rat) =
      (scaleDown num den e).1 / (scaleDown num den e).2 * 2 ^ e := by
    rw [scaleDown_div, div_mul_cancel₀ _ (by positivity)]
  have hround := abs_roundHalfEven_sub_le (scaleDown num den e).1 (scaleDown_pos num hden e)
  rw [hscale, ← sub_mul, abs_mul, abs_of_pos (a := (2 : Rat) ^ e) (by positivity)]
  gcongr

/-- A quotient below `2 ^ m` is rounded by half a unit of its last place at most. -/
theorem isNear_ofRatio (num : Nat) (hden : 0 < den) {m : Int} (h : (num / den : Rat) < 2 ^ m)
    (hlower : -1021 ≤ m) (hupper : m ≤ 1023) :
    (ofRatio false num den).IsNear (num / den) (2 ^ (m - 54)) := by
  rcases Nat.eq_zero_or_pos num with rfl | hnum
  · refine ⟨0, leastExponent, rfl, ?_⟩
    simp only [finiteValue_false, Nat.cast_zero, zero_mul, zero_div, sub_zero, abs_zero]
    positivity
  have hexponent := exponentOf_le_of_lt hnum hden h hlower
  rw [ofRatio, if_neg (by simpa using hnum.ne')]
  generalize exponentOf num den = e at hexponent
  refine isNear_pack (by unfold greatestExponent; omega) ?_
  calc
    _ ≤ 1 / 2 * (2 : Rat) ^ e := abs_roundHalfEven_scaleDown_sub_le num hden e
    _ ≤ 1 / 2 * 2 ^ (m - 53) := by
        gcongr
        norm_num
    _ = 2 ^ (m - 54) := by
        rw [show m - 53 = m - 54 + 1 by omega, zpow_add₀ (by norm_num)]
        ring

theorem isNear_ofRat {q : Rat} (hq : 0 ≤ q) {m : Int} (h : q < 2 ^ m) (hlower : -1021 ≤ m)
    (hupper : m ≤ 1023) : (ofRat false q).IsNear q (2 ^ (m - 54)) := by
  have hnum : (q.num.natAbs : Int) = q.num := Int.natAbs_of_nonneg (Rat.num_nonneg.2 hq)
  have hquotient : (q.num.natAbs / q.den : Rat) = q := by
    rw [← Int.cast_natCast q.num.natAbs, hnum, Rat.num_div_den]
  have hofRat : ofRat false q = ofRatio false q.num.natAbs q.den := by
    unfold ofRat
    split
    case isTrue hzero =>
      rw [beq_iff_eq] at hzero
      simp [hzero, ofRatio_zero]
    case isFalse => rw [decide_eq_false (Int.not_lt.2 (Rat.num_nonneg.2 hq))]
  have hnear := isNear_ofRatio q.num.natAbs q.den_pos (m := m) (by rwa [hquotient]) hlower hupper
  rwa [hquotient, ← hofRat] at hnear

/-! ## Sums and products -/

theorem finiteValue_nonneg (s : Nat) (e : Int) : 0 ≤ finiteValue false s e := by
  rw [finiteValue_false]
  positivity

variable {x y : Binary64} {p q δ ε : Rat} {m : Int}

theorem IsNear.add (hx : x.IsNear p δ) (hy : y.IsNear q ε) (h : p + δ + (q + ε) < 2 ^ m)
    (hlower : -1021 ≤ m) (hupper : m ≤ 1023) :
    (x.add y).IsNear (p + q) (2 ^ (m - 54) + (δ + ε)) := by
  rcases hx with ⟨s, e, rfl, hx⟩
  rcases hy with ⟨t, f, rfl, hy⟩
  have hnonneg := add_nonneg (finiteValue_nonneg s e) (finiteValue_nonneg t f)
  have hless : finiteValue false s e + finiteValue false t f < 2 ^ m := by
    have := (abs_le.1 hx).2
    have := (abs_le.1 hy).2
    linarith
  refine (isNear_ofRat hnonneg hless hlower hupper).trans ?_
  rw [add_sub_add_comm]
  exact (abs_add_le _ _).trans (add_le_add hx hy)

theorem IsNear.mul (hx : x.IsNear p δ) (hy : y.IsNear q ε) (hq : 0 ≤ q)
    (h : (p + δ) * (q + ε) < 2 ^ m) (hlower : -1021 ≤ m) (hupper : m ≤ 1023) :
    (x.mul y).IsNear (p * q) (2 ^ (m - 54) + ((p + δ) * ε + δ * q)) := by
  rcases hx with ⟨s, e, rfl, hx⟩
  rcases hy with ⟨t, f, rfl, hy⟩
  have hs := finiteValue_nonneg s e
  have ht := finiteValue_nonneg t f
  have hsle : finiteValue false s e ≤ p + δ := by
    have := (abs_le.1 hx).2
    linarith
  have htle : finiteValue false t f ≤ q + ε := by
    have := (abs_le.1 hy).2
    linarith
  have hbound := hs.trans hsle
  have hless : finiteValue false s e * finiteValue false t f < 2 ^ m :=
    (mul_le_mul hsle htle ht hbound).trans_lt h
  refine (isNear_ofRat (mul_nonneg hs ht) hless hlower hupper).trans ?_
  generalize finiteValue false s e = u at *
  generalize finiteValue false t f = v at *
  calc
    |u * v - p * q| = |u * (v - q) + (u - p) * q| := by ring_nf
    _ ≤ |u * (v - q)| + |(u - p) * q| := abs_add_le _ _
    _ = u * |v - q| + |u - p| * q := by rw [abs_mul, abs_mul, abs_of_nonneg hs, abs_of_nonneg hq]
    _ ≤ (p + δ) * ε + δ * q := by gcongr

end Binary64
end ComponentSpec

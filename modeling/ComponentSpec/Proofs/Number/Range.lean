import Mathlib.Algebra.Group.Nat.Defs
import ComponentSpec.Number.Basic

/-!
# The range of binary numbers

A number beyond the format is rounded to infinity.  Halves go to the even neighbour, so the first
integer beyond the range lies half a unit below the power of two that has no exponent any more.

Main statements: a quotient of moderate size is finite (`not_isInfinite_ofRatio`), and the integers
beyond the range are those from `2 ^ 1024 - 2 ^ 970` on (`isInfinite_ofInt_iff`); only these cannot
be shown (`brief_whole_eq_error_iff`).
-/

namespace ComponentSpec

/-- A number that lies just below an even one in units of `den` is rounded to it if it is within
half a unit. -/
theorem roundHalfEven_eq_iff {num den q : Nat} (hden : 0 < den) (heven : q % 2 = 0)
    (hlt : num < q * den) :
    roundHalfEven num den = q ↔ 2 * (q * den) ≤ 2 * num + den := by
  have hupper := roundHalfEven_le num hden
  have hlower := le_roundHalfEven num hden
  constructor
  · intro h
    rwa [h] at hupper
  · intro h
    have hle : roundHalfEven num den ≤ q := by
      refine Nat.le_of_not_lt fun hgt => ?_
      have := Nat.mul_le_mul_right den (Nat.succ_le_of_lt hgt)
      rw [Nat.succ_mul] at this
      omega
    rcases Nat.lt_or_eq_of_le hle with hbelow | heq
    · -- Only a half could stay below, and halves do not go to odd numbers.
      have hnext := Nat.mul_le_mul_right den (Nat.succ_le_of_lt hbelow)
      rw [Nat.succ_mul] at hnext
      have hq : roundHalfEven num den + 1 = q := by
        refine Nat.le_antisymm hbelow (Nat.le_of_not_lt fun hgap => ?_)
        have := Nat.mul_le_mul_right den (Nat.succ_le_of_lt hgap)
        rw [Nat.succ_mul, Nat.succ_mul] at this
        omega
      have hqden : q * den = roundHalfEven num den * den + den := by
        rw [← hq, Nat.succ_mul]
      have hnum : num = num - roundHalfEven num den * den + den * roundHalfEven num den := by
        rw [Nat.mul_comm den]
        omega
      have hhalf : 2 * (num % den) = den := by
        rw [hnum, Nat.add_mul_mod_self_left, Nat.mod_eq_of_lt (by omega)]
        omega
      have := roundHalfEven_half hhalf
      omega
    · exact heq

namespace Binary64

/-- Whether the number is one of the two infinities. -/
def IsInfinite : Binary64 → Prop
  | infinite _ => True
  | _ => False

theorem isInfinite_pack_iff (negative : Bool) (significand : Nat) (e : Int) :
    (pack negative significand e).IsInfinite ↔
      greatestExponent < if significand = 2 ^ 53 then e + 1 else e := by
  unfold pack
  simp only [beq_iff_eq, Nat.pow_eq]
  by_cases h : significand = 2 ^ 53
  all_goals
    simp only [h, if_true, if_false]
    split <;> simp_all [IsInfinite]

theorem isInfinite_ofRatio_iff {num : Nat} (h : num ≠ 0) (negative : Bool) (den : Nat) :
    (ofRatio negative num den).IsInfinite ↔
      greatestExponent <
        let e := exponentOf num den
        if roundHalfEven (scaleDown num den e).1 (scaleDown num den e).2 = 2 ^ 53 then e + 1
        else e := by
  have hzero : (num == 0) = false := beq_eq_false_iff_ne.2 h
  simp only [ofRatio, hzero, Bool.false_eq_true, if_false, isInfinite_pack_iff]

theorem exponentOf_le (num den : Nat) :
    exponentOf num den ≤ max ((num.log2 : Int) - den.log2 - 52) leastExponent := by
  unfold exponentOf
  dsimp only
  split <;> omega

theorem not_isInfinite_ofRatio {num den : Nat} (h : num.log2 ≤ den.log2 + 1022)
    (negative : Bool) : ¬ (ofRatio negative num den).IsInfinite := by
  by_cases hnum : num = 0
  · subst hnum
    exact id
  · rw [isInfinite_ofRatio_iff hnum]
    have hle := exponentOf_le num den
    unfold leastExponent at hle
    unfold greatestExponent
    dsimp only
    split <;> omega

/-! ## Integers -/

theorem scaleDown_natCast (num den k : Nat) : scaleDown num den k = (num, den * 2 ^ k) := by
  simp [scaleDown]

/-- The exponent of an integer with more than 52 bits. -/
theorem exponentOf_one {num k : Nat} (h : num.log2 = k + 52) : exponentOf num 1 = k := by
  have hpos : num ≠ 0 := by
    rintro rfl
    simp at h
  have hquotient : ¬ num / (1 * 2 ^ k) < 2 ^ 52 := by
    rw [Nat.not_lt, Nat.one_mul, Nat.le_div_iff_mul_le (Nat.two_pow_pos _), ← Nat.pow_add,
      Nat.add_comm, ← h]
    exact Nat.log2_self_le hpos
  have hexponent : (num.log2 : Int) - (Nat.log2 1 : Nat) - 52 = k := by
    have : Nat.log2 1 = 0 := rfl
    omega
  unfold exponentOf
  rw [hexponent]
  dsimp only
  rw [scaleDown_natCast]
  dsimp only
  rw [Nat.pow_eq, if_neg hquotient]
  unfold leastExponent
  omega

theorem isInfinite_ofRatio_one_iff (negative : Bool) (num : Nat) :
    (ofRatio negative num 1).IsInfinite ↔ 2 ^ 1024 - 2 ^ 970 ≤ num := by
  have hhalf : (2 : Nat) ^ 1024 = 2 * 2 ^ 1023 := by decide +kernel
  have hunits : (2 : Nat) ^ 1024 = 2 ^ 53 * 2 ^ 971 := by decide +kernel
  have hunit : (2 : Nat) ^ 971 = 2 * 2 ^ 970 := by decide +kernel
  have hpos : 0 < (2 : Nat) ^ 970 := by decide +kernel
  have heven : (2 : Nat) ^ 53 % 2 = 0 := by decide +kernel
  by_cases hnum : num = 0
  · subst hnum
    exact iff_of_false id (by omega)
  have hbits : ∀ k, num.log2 < k ↔ num < 2 ^ k := fun _ => Nat.log2_lt hnum
  rcases Nat.lt_trichotomy num.log2 1023 with hsmall | hlast | hlarge
  · -- Below the last binade every exponent is there.
    have hlt := (hbits 1023).1 hsmall
    exact iff_of_false (not_isInfinite_ofRatio (by omega) negative) (by omega)
  · -- In the last binade only what is rounded up to the power beyond it is lost.
    have hlt := Nat.lt_of_lt_of_eq ((hbits 1024).1 (by omega)) hunits
    have hunitpos : 0 < (2 : Nat) ^ 971 := by omega
    rw [isInfinite_ofRatio_iff hnum, exponentOf_one (k := 971) hlast]
    simp only [scaleDown_natCast, Nat.one_mul, roundHalfEven_eq_iff hunitpos heven hlt]
    unfold greatestExponent
    split <;> omega
  · -- Beyond it no exponent is left.
    have hge : ¬ num < 2 ^ 1024 := fun h => by
      have := (hbits 1024).2 h
      omega
    refine iff_of_true ?_ (by omega)
    rw [isInfinite_ofRatio_iff hnum, exponentOf_one (k := num.log2 - 52) (by omega)]
    unfold greatestExponent
    dsimp only
    split <;> omega

/-- An integer is beyond the range if it is at least as near to the first power of two beyond it as
to the greatest number. -/
theorem isInfinite_ofInt_iff (n : Int) :
    (ofInt n).IsInfinite ↔ 2 ^ 1024 - 2 ^ 970 ≤ n.natAbs :=
  isInfinite_ofRatio_one_iff _ _

end Binary64

namespace Number

theorem brief_real (x : Binary64) : (real x).brief = .ok x.toBriefText := rfl

theorem brief_whole_of_isInfinite {n : Int} (h : (Binary64.ofInt n).IsInfinite) :
    (whole n).brief = .error .integerTooLarge := by
  unfold brief toBinary? toBinary
  cases hn : Binary64.ofInt n with
  | infinite negative =>
      simp only [hn]
      rfl
  | nan =>
      rw [hn] at h
      cases h
  | finite negative s e =>
      rw [hn] at h
      cases h

theorem brief_whole_of_not_isInfinite {n : Int} (h : ¬ (Binary64.ofInt n).IsInfinite) :
    (whole n).brief = .ok (Binary64.ofInt n).toBriefText := by
  unfold brief toBinary? toBinary
  cases hn : Binary64.ofInt n with
  | infinite negative =>
      rw [hn] at h
      exact absurd trivial h
  | nan =>
      simp only [hn]
      rfl
  | finite negative s e =>
      simp only [hn]
      rfl

/-- An integer cannot be shown exactly if it is beyond the range. -/
theorem brief_whole_eq_error_iff {n : Int} {fault : Fault} :
    (whole n).brief = .error fault ↔
      2 ^ 1024 - 2 ^ 970 ≤ n.natAbs ∧ fault = .integerTooLarge := by
  rw [← Binary64.isInfinite_ofInt_iff]
  by_cases h : (Binary64.ofInt n).IsInfinite
  · rw [brief_whole_of_isInfinite h]
    simp [h, eq_comm]
  · rw [brief_whole_of_not_isInfinite h]
    simp [h]

theorem divNat_real (x : Binary64) (n : Nat) : (real x).divNat n = .ok (x.divNat n) := rfl

theorem exists_divNat_whole {k : Int} {n : Nat} (h : k.natAbs.log2 ≤ n.log2 + 1022) :
    ∃ x, (whole k).divNat n = .ok x := by
  have hfinite := Binary64.not_isInfinite_ofRatio h (k < 0)
  unfold divNat
  cases hx : Binary64.ofRatio (k < 0) k.natAbs n with
  | infinite negative =>
      rw [hx] at hfinite
      exact absurd trivial hfinite
  | nan => exact ⟨.nan, by simp only [hx]; rfl⟩
  | finite negative s e => exact ⟨.finite negative s e, by simp only [hx]; rfl⟩

end Number
end ComponentSpec

import ComponentSpec.Number.Numeral
import Mathlib.Algebra.Group.Nat.Defs

/-!
# Numerals of integers

An integer is written with the digits of its magnitude, after a minus sign if it is negative.  The
digits denote the magnitude, and their number is the least for which the power of ten exceeds it.

Main statements: how an integer is written (`toList_toString`), and what its digits denote
(`natOfDigits_decimalDigits`).
-/

namespace ComponentSpec

open Text

theorem toList_repr (n : Nat) : n.repr.toList = decimalDigits n := by
  rw [Nat.repr_eq_ofList_toDigits, String.toList_ofList, decimalDigits]

theorem toList_toString (n : Int) :
    (toString n).toList = (if n < 0 then ['-'] else []) ++ decimalDigits n.natAbs := by
  rw [Int.toString_eq_repr, Int.repr_eq_if]
  by_cases hn : n < 0
  · have habs : (-n).toNat = n.natAbs := by omega
    rw [if_neg (Int.not_le.2 hn), if_pos hn, habs, String.toList_append, toList_repr]
    rfl
  · have habs : n.toNat = n.natAbs := by omega
    rw [if_pos (Int.not_lt.1 hn), if_neg hn, habs, toList_repr, List.nil_append]

/-! ## The digits of a natural number -/

theorem natOfDigits_eq_ofDigitChars {s : List Char} (h : ∀ c ∈ s, c.isDigit = true) :
    natOfDigits (s.filterMap digitValue?) = Nat.ofDigitChars 10 s 0 := by
  have hvalues : s.filterMap digitValue? = s.map fun c => c.toNat - '0'.toNat := by
    induction s with
    | nil => rfl
    | cons c s ih =>
        rw [List.filterMap_cons_some (digitValue?_of_isDigit (h c (List.mem_cons_self ..))),
          ih fun d hd => h d (List.mem_cons_of_mem _ hd), List.map_cons]
  rw [hvalues, natOfDigits, List.foldl_map, Nat.ofDigitChars_eq_foldl]

theorem isDigit_decimalDigits (n : Nat) : ∀ c ∈ decimalDigits n, c.isDigit = true :=
  fun _ hc => Nat.isDigit_of_mem_toDigits (by decide) (by decide) hc

theorem mem_toString {n : Int} {c : Char} (h : c ∈ (toString n).toList) :
    c.isDigit = true ∨ c = '-' := by
  rw [toList_toString, List.mem_append] at h
  rcases h with hsign | hdigit
  · split at hsign
    · exact .inr (List.mem_singleton.1 hsign)
    · cases hsign
  · exact .inl (isDigit_decimalDigits _ c hdigit)

theorem ofDigitChars_decimalDigits (n : Nat) : Nat.ofDigitChars 10 (decimalDigits n) 0 = n :=
  Nat.ofDigitChars_ten_toDigits

theorem natOfDigits_decimalDigits (n : Nat) :
    natOfDigits ((decimalDigits n).filterMap digitValue?) = n := by
  rw [natOfDigits_eq_ofDigitChars (isDigit_decimalDigits n), ofDigitChars_decimalDigits]

theorem decimalDigits_injective {m n : Nat} (h : decimalDigits m = decimalDigits n) : m = n := by
  rw [← ofDigitChars_decimalDigits m, h, ofDigitChars_decimalDigits]

theorem length_decimalDigits_le_iff {n k : Nat} (hk : 0 < k) :
    (decimalDigits n).length ≤ k ↔ n < 10 ^ k :=
  Nat.length_toDigits_le_iff (by decide) hk

theorem decimalDigits_ne_nil (n : Nat) : decimalDigits n ≠ [] :=
  Nat.toDigits_ne_nil

theorem length_decimalDigits_pos (n : Nat) : 0 < (decimalDigits n).length :=
  Nat.length_toDigits_pos

theorem pow_le_of_length_decimalDigits {n k : Nat} (hn : 0 < n)
    (hk : k < (decimalDigits n).length) : 10 ^ k ≤ n := by
  rcases Nat.eq_zero_or_pos k with rfl | hpos
  · exact hn
  · refine Nat.le_of_not_lt fun hlt => ?_
    exact absurd ((length_decimalDigits_le_iff hpos).2 hlt) (Nat.not_le.2 hk)

/-- A power of ten adds zeros at the end. -/
theorem decimalDigits_mul_pow {n : Nat} (hn : 0 < n) (k : Nat) :
    decimalDigits (n * 10 ^ k) = decimalDigits n ++ List.replicate k '0' := by
  induction k with
  | zero => simp
  | succ k ih =>
      have hpos : 0 < n * 10 ^ k := Nat.mul_pos hn (Nat.pow_pos (by decide))
      have happend := Nat.toDigits_append_toDigits (b := 10) (d := 0) (by decide) hpos (by decide)
      have hnext : n * 10 ^ (k + 1) = 10 * (n * 10 ^ k) + 0 := by
        rw [Nat.pow_succ, Nat.add_zero, ← Nat.mul_assoc, Nat.mul_comm]
      calc
        decimalDigits (n * 10 ^ (k + 1)) = decimalDigits (n * 10 ^ k) ++ ['0'] := by
          rw [hnext]
          exact happend.symm
        _ = decimalDigits n ++ List.replicate (k + 1) '0' := by
          rw [ih, List.append_assoc, List.replicate_succ']

end ComponentSpec

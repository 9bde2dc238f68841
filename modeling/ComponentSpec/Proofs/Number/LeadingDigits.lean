import ComponentSpec.Proofs.Number.IntegerNumeral
import ComponentSpec.Proofs.Number.Nearest

/-!
# Rounding to leading digits

A whole number with more than six digits is rounded to the unit of the sixth one, and one with more
than 53 bits to the unit of the last of these; other whole numbers stay as they are.  The digits of
the result are kept without the zeros at their end, and the exponent tells how many these are, so
the rounded number is known from its digits and its exponent.

Main statements: a whole quotient has the digits of the rounded number (`rounded_mul_right`), and
digits and exponent determine a whole number (`ofCoefficient_injective`).
-/

namespace ComponentSpec

/-! ## Rounding to leading digits -/

theorem div_le_roundHalfEven (num den : Nat) : num / den ≤ roundHalfEven num den := by
  unfold roundHalfEven
  dsimp only
  split
  · exact Nat.le_refl _
  · split
    · exact Nat.le_succ _
    · split
      · exact Nat.le_refl _
      · exact Nat.le_succ _

/-- The multiple of the unit nearest to a natural number; of two equally near ones the even one. -/
def roundTo (unit n : Nat) : Nat :=
  roundHalfEven n unit * unit

theorem roundHalfEven_one (n : Nat) : roundHalfEven n 1 = n := by
  have hround := roundHalfEven_mul n Nat.one_pos
  rwa [Nat.mul_one] at hround

theorem roundTo_one (n : Nat) : roundTo 1 n = n := by
  rw [roundTo, roundHalfEven_one, Nat.mul_one]

/-- The natural number with six leading digits nearest to another one. -/
def sixDigits (n : Nat) : Nat :=
  roundTo (10 ^ ((decimalDigits n).length - 6)) n

theorem sixDigits_of_lt {n : Nat} (h : n < 10 ^ 6) : sixDigits n = n := by
  have hlength := (length_decimalDigits_le_iff (by decide)).2 h
  rw [sixDigits, Nat.sub_eq_zero_of_le hlength, Nat.pow_zero, roundTo_one]

/-- The rounded number is a multiple of its unit by a number with six digits at least. -/
theorem le_roundHalfEven_pow {n k : Nat} (hn : 0 < n) (hk : (decimalDigits n).length = 6 + k) :
    10 ^ 5 ≤ roundHalfEven n (10 ^ k) := by
  have hlarge : 10 ^ 5 * 10 ^ k ≤ n := by
    rw [← Nat.pow_add]
    exact pow_le_of_length_decimalDigits hn (by omega)
  -- The whole part of the quotient has six digits already, and it is never rounded away.
  exact Nat.le_trans ((Nat.le_div_iff_mul_le (Nat.pow_pos (by decide))).2 hlarge)
    (div_le_roundHalfEven _ _)

theorem exists_length_decimalDigits {n : Nat} (h : 10 ^ 6 ≤ n) :
    ∃ k, (decimalDigits n).length = 6 + (k + 1) := by
  have hlength : 6 < (decimalDigits n).length := by
    refine Nat.lt_of_not_le fun hle => ?_
    exact absurd ((length_decimalDigits_le_iff (by decide)).1 hle) (Nat.not_lt.2 h)
  exact ⟨(decimalDigits n).length - 7, by omega⟩

theorem sixDigits_eq {n k : Nat} (hk : (decimalDigits n).length = 6 + k) :
    sixDigits n = roundHalfEven n (10 ^ k) * 10 ^ k := by
  rw [sixDigits, roundTo, hk, Nat.add_sub_cancel_left]

theorem le_sixDigits {n : Nat} (h : 10 ^ 6 ≤ n) : 10 ^ 6 ≤ sixDigits n := by
  rcases exists_length_decimalDigits h with ⟨k, hk⟩
  have hn : 0 < n := Nat.lt_of_lt_of_le (by decide) h
  calc
    10 ^ 6 = 10 ^ 5 * 10 ^ 1 := by decide
    _ ≤ 10 ^ 5 * 10 ^ (k + 1) :=
      Nat.mul_le_mul_left _ (Nat.pow_le_pow_right (by decide) (Nat.succ_pos k))
    _ ≤ roundHalfEven n (10 ^ (k + 1)) * 10 ^ (k + 1) :=
      Nat.mul_le_mul_right _ (le_roundHalfEven_pow hn hk)
    _ = sixDigits n := (sixDigits_eq hk).symm

theorem sixDigits_pos {n : Nat} (h : 0 < n) : 0 < sixDigits n := by
  rcases Nat.lt_or_ge n (10 ^ 6) with hsmall | hlarge
  · rwa [sixDigits_of_lt hsmall]
  · exact Nat.lt_of_lt_of_le (by decide) (le_sixDigits hlarge)

/-- The natural number with 53 leading bits nearest to another one. -/
def leadingBits (n : Nat) : Nat :=
  roundTo (2 ^ (n.log2 - 52)) n

theorem leadingBits_of_lt {n : Nat} (h : n < 2 ^ 53) : leadingBits n = n := by
  have hlog : n.log2 ≤ 52 := by
    rcases Nat.eq_zero_or_pos n with rfl | hpos
    · decide
    · exact Nat.le_of_lt_succ ((Nat.log2_lt hpos.ne').2 h)
  rw [leadingBits, Nat.sub_eq_zero_of_le hlog, Nat.pow_zero, roundTo_one]

theorem le_leadingBits {n : Nat} (h : 2 ^ 53 ≤ n) : 2 ^ 52 ≤ leadingBits n := by
  have hn : n ≠ 0 := (Nat.lt_of_lt_of_le (Nat.two_pow_pos 53) h).ne'
  obtain ⟨k, hk⟩ : ∃ k, n.log2 = 52 + k :=
    ⟨n.log2 - 52, by have := (Nat.le_log2 hn).2 h; omega⟩
  have hlarge : 2 ^ 52 * 2 ^ k ≤ n := by
    rw [← Nat.pow_add, ← hk]
    exact Nat.log2_self_le hn
  have hleading : 2 ^ 52 ≤ roundHalfEven n (2 ^ k) :=
    Nat.le_trans ((Nat.le_div_iff_mul_le (Nat.two_pow_pos k)).2 hlarge) (div_le_roundHalfEven _ _)
  rw [leadingBits, roundTo, hk, Nat.add_sub_cancel_left]
  exact Nat.le_trans hleading (Nat.le_mul_of_pos_right _ (Nat.two_pow_pos k))

theorem leadingBits_pos {n : Nat} (h : 0 < n) : 0 < leadingBits n := by
  rcases Nat.lt_or_ge n (2 ^ 53) with hsmall | hlarge
  · rwa [leadingBits_of_lt hsmall]
  · exact Nat.lt_of_lt_of_le (Nat.two_pow_pos 52) (le_leadingBits hlarge)

namespace Significant

/-! ## Digits without the zeros at the end -/

theorem exists_stripZeros (digits : List Char) :
    ∃ k, digits = stripZeros digits ++ List.replicate k '0' := by
  cases digits with
  | nil => exact ⟨0, rfl⟩
  | cons d rest =>
      have hzeros : rest.reverse.takeWhile (· == '0') =
          List.replicate (rest.reverse.takeWhile (· == '0')).length '0' := by
        refine List.eq_replicate_iff.2 ⟨rfl, fun c hc => ?_⟩
        exact eq_of_beq (List.all_eq_true.1 List.all_takeWhile c hc)
      refine ⟨(rest.reverse.takeWhile (· == '0')).length, ?_⟩
      calc
        d :: rest = d :: (rest.reverse.takeWhile (· == '0') ++
            rest.reverse.dropWhile (· == '0')).reverse := by
          rw [List.takeWhile_append_dropWhile, List.reverse_reverse]
        _ = stripZeros (d :: rest) ++
            List.replicate (rest.reverse.takeWhile (· == '0')).length '0' := by
          rw [List.reverse_append, hzeros, List.reverse_replicate, List.length_replicate]
          rfl

theorem stripZeros_ne_nil {digits : List Char} (hne : digits ≠ []) : stripZeros digits ≠ [] := by
  cases digits with
  | nil => exact absurd rfl hne
  | cons d rest => exact List.cons_ne_nil _ _

theorem stripZeros_append_zeros {digits : List Char} (hne : digits ≠ []) (k : Nat) :
    stripZeros (digits ++ List.replicate k '0') = stripZeros digits := by
  cases digits with
  | nil => exact absurd rfl hne
  | cons d rest =>
      have hzeros : ∀ c ∈ List.replicate k '0', (c == '0') = true := by
        intro c hc
        rw [List.eq_of_mem_replicate hc]
        rfl
      rw [List.cons_append, stripZeros, stripZeros, List.reverse_append, List.reverse_replicate,
        List.dropWhile_append_of_pos hzeros]

/-- A text of digits is known from its length and its digits without the zeros at the end. -/
theorem eq_of_stripZeros_eq {s t : List Char} (hlength : s.length = t.length)
    (hstrip : stripZeros s = stripZeros t) : s = t := by
  rcases exists_stripZeros s with ⟨j, hs⟩
  rcases exists_stripZeros t with ⟨k, ht⟩
  have hjk : j = k := by
    rw [hs, ht, hstrip] at hlength
    simpa using hlength
  rw [hs, ht, hstrip, hjk]

theorem ofCoefficient_mul_pow {n : Nat} (hn : 0 < n) (k : Nat) (e : Int) :
    ofCoefficient (n * 10 ^ k) e = ofCoefficient n (e + k) := by
  unfold ofCoefficient
  dsimp only
  rw [decimalDigits_mul_pow hn, stripZeros_append_zeros (decimalDigits_ne_nil n), List.length_append,
    List.length_replicate]
  congr 1
  omega

theorem ofCoefficient_zero (n : Nat) : ofCoefficient n 0 =
    ⟨stripZeros (decimalDigits n), ((decimalDigits n).length - 1 : Nat)⟩ := by
  have hpos := length_decimalDigits_pos n
  unfold ofCoefficient
  dsimp only
  congr 1
  omega

theorem ofCoefficient_injective {m n : Nat} (h : ofCoefficient m 0 = ofCoefficient n 0) :
    m = n := by
  have hdigits : stripZeros (decimalDigits m) = stripZeros (decimalDigits n) :=
    congrArg Significant.digits h
  have hexponent : (0 : Int) + (decimalDigits m).length - 1 = 0 + (decimalDigits n).length - 1 :=
    congrArg Significant.exponent h
  exact decimalDigits_injective (eq_of_stripZeros_eq (by omega) hdigits)

/-! ## The digits of a whole quotient -/

theorem decimalExponent_mul_right {n d : Nat} (hn : 0 < n) (hd : 0 < d) :
    decimalExponent (n * d) d = (decimalDigits n).length - 1 := by
  have hle : d ≤ n * d := Nat.le_mul_of_pos_left d hn
  rw [decimalExponent, if_pos hle, Nat.mul_div_cancel n hd]

theorem inUnits_natCast (num den k : Nat) : inUnits num den k = (num, den * 10 ^ k) := by
  simp [inUnits]

theorem inUnits_neg_natCast (num den k : Nat) : inUnits num den (-k) = (num * 10 ^ k, den) := by
  cases k with
  | zero => simp [inUnits]
  | succ k =>
      have hneg : ¬ 0 ≤ -((k + 1 : Nat) : Int) := by omega
      rw [inUnits, if_neg hneg, Int.neg_neg, Int.toNat_natCast, Nat.pow_eq]

/-- A whole quotient is rounded to six leading digits. -/
theorem rounded_mul_right {n d : Nat} (hn : 0 < n) (hd : 0 < d) :
    rounded 6 (n * d) d = ofCoefficient (sixDigits n) 0 := by
  unfold rounded
  dsimp only
  rw [decimalExponent_mul_right hn hd]
  rcases Nat.lt_or_ge n (10 ^ 6) with hsmall | hlarge
  · -- The quotient has its own digits and zeros after them.
    have hshort := (length_decimalDigits_le_iff (by decide)).2 hsmall
    obtain ⟨k, hk⟩ : ∃ k, (decimalDigits n).length + k = 6 := ⟨_, Nat.add_sub_cancel' hshort⟩
    have hexponent : ((decimalDigits n).length : Int) - 1 - (6 : Nat) + 1 = -k := by omega
    rw [hexponent, inUnits_neg_natCast]
    dsimp only
    rw [Nat.mul_right_comm, roundHalfEven_mul _ hd, ofCoefficient_mul_pow hn,
      Int.add_left_neg, sixDigits_of_lt hsmall]
  · -- Digits beyond the sixth one are rounded off.
    rcases exists_length_decimalDigits hlarge with ⟨k, hk⟩
    have hexponent : ((decimalDigits n).length : Int) - 1 - (6 : Nat) + 1 = (k + 1 : Nat) := by
      omega
    have hpos : 0 < roundHalfEven n (10 ^ (k + 1)) :=
      Nat.lt_of_lt_of_le (by decide) (le_roundHalfEven_pow hn hk)
    rw [hexponent, inUnits_natCast]
    dsimp only
    rw [Nat.mul_comm d, roundHalfEven_mul_right n _ hd, sixDigits_eq hk, ofCoefficient_mul_pow hpos,
      Int.zero_add]

end Significant

end ComponentSpec

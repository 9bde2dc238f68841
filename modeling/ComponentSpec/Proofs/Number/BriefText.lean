import ComponentSpec.Proofs.Number.LeadingDigits
import ComponentSpec.Proofs.Number.Order
import ComponentSpec.Proofs.Number.Range
import ComponentSpec.Text.Scan
import Mathlib.Tactic.Tauto

/-!
# How messages show whole numbers

A message shows a number with six leading digits.  A whole number is rounded to them first, and the
rounded number is written as its numeral if it is below a million, else with an exponent.  Nothing
is lost when it is written, so two whole numbers look alike exactly if they are rounded to the same
one.  An integer has to become a number of the binary format before all that.

Main statements: integers are written differently if they differ (`integerText_injective`), what
becomes of an integer in the binary format (`isInteger_ofInt`), and how the two kinds of numbers are
shown (`brief_real_of_isInteger`, `brief_whole`).
-/

namespace ComponentSpec

/-! ## Writing whole numbers -/

/-- Leading digits with a point after the first one, if there are more. -/
def mantissa : List Char → List Char
  | [] => []
  | [d] => [d]
  | d :: rest => d :: '.' :: rest

theorem filter_mantissa {digits : List Char} (h : ∀ c ∈ digits, c.isDigit = true) :
    (mantissa digits).filter (· ≠ '.') = digits := by
  have hkeep : ∀ c ∈ digits, decide (c ≠ '.') = true := by
    intro c hc
    refine decide_eq_true ?_
    rintro rfl
    exact absurd (h _ hc) (by decide)
  cases digits with
  | nil => rfl
  | cons d rest =>
      rcases List.forall_mem_cons.1 hkeep with ⟨hd, hrest⟩
      cases rest with
      | nil => exact List.filter_eq_self.2 hkeep
      | cons d' rest =>
          rw [mantissa, List.filter_cons, if_pos hd, List.filter_cons, if_neg (by decide),
            List.filter_eq_self.2 hrest]
          exact nofun

theorem mem_mantissa {digits : List Char} {c : Char} (h : c ∈ mantissa digits) :
    c ∈ digits ∨ c = '.' := by
  cases digits with
  | nil => cases h
  | cons d rest =>
      cases rest with
      | nil => exact .inl h
      | cons d' rest =>
          simp only [mantissa, List.mem_cons] at h ⊢
          tauto

/-- An exponent with two digits at least. -/
def exponentDigits (k : Nat) : List Char :=
  if (decimalDigits k).length < 2 then '0' :: decimalDigits k else decimalDigits k

theorem isDigit_exponentDigits {k : Nat} {c : Char} (h : c ∈ exponentDigits k) :
    c.isDigit = true := by
  unfold exponentDigits at h
  split at h
  · rcases List.mem_cons.1 h with rfl | hdigit
    · decide
    · exact isDigit_decimalDigits k c hdigit
  · exact isDigit_decimalDigits k c h

theorem ofDigitChars_exponentDigits (k : Nat) : Nat.ofDigitChars 10 (exponentDigits k) 0 = k := by
  unfold exponentDigits
  split
  · rw [Nat.ofDigitChars_cons]
    exact ofDigitChars_decimalDigits k
  · exact ofDigitChars_decimalDigits k

namespace Layout

variable {digits : List Char} {k : Nat}

theorem write_brief_of_lt (hk : k < 6) (hlength : digits.length ≤ k + 1) :
    brief.write ⟨digits, k⟩ = digits ++ List.replicate (k + 1 - digits.length) '0' := by
  have hplain : ¬ ((k : Int) < brief.least || brief.beyond ≤ (k : Int)) = true := by
    rw [Bool.or_eq_true, decide_eq_true_iff, decide_eq_true_iff]
    dsimp only [brief]
    omega
  have hcount : (digits ++ List.replicate (k + 1 - digits.length) '0').length = k + 1 := by
    rw [List.length_append, List.length_replicate, Nat.add_sub_cancel' hlength]
  unfold write
  dsimp only
  rw [if_neg hplain, if_neg (Int.not_lt.2 (Int.natCast_nonneg k)), Int.toNat_natCast,
    List.drop_eq_nil_of_le hlength, if_pos List.isEmpty_nil]
  exact List.take_of_length_le (Nat.le_of_eq hcount)

theorem write_brief_of_le (hk : 6 ≤ k) (hne : digits ≠ []) :
    brief.write ⟨digits, k⟩ = mantissa digits ++ 'e' :: '+' :: exponentDigits k := by
  have hraised : ((k : Int) < brief.least || brief.beyond ≤ (k : Int)) = true := by
    rw [Bool.or_eq_true, decide_eq_true_iff, decide_eq_true_iff]
    dsimp only [brief]
    omega
  have hexponent : exponentText k = 'e' :: '+' :: exponentDigits k := by
    rw [exponentText, if_neg (Int.not_lt.2 (Int.natCast_nonneg k)), exponentDigits]
    rfl
  unfold write
  dsimp only
  rw [if_pos hraised, hexponent]
  cases digits with
  | nil => exact absurd rfl hne
  | cons d rest => cases rest <;> rfl

end Layout

/-- A natural number as a message writes it, with all its digits. -/
def wholeText (n : Nat) : List Char :=
  Layout.brief.write (Significant.ofCoefficient n 0)

theorem wholeText_of_lt {n : Nat} (h : n < 10 ^ 6) : wholeText n = decimalDigits n := by
  have hpos := length_decimalDigits_pos n
  have hshort := (length_decimalDigits_le_iff (by decide)).2 h
  -- The zeros that were taken off are written again, to the place of the units.
  rcases Significant.exists_stripZeros (decimalDigits n) with ⟨k, hzeros⟩
  have hlength : (decimalDigits n).length =
      (Significant.stripZeros (decimalDigits n)).length + k := by
    rw [← List.length_replicate (n := k) (a := '0'), ← List.length_append, ← hzeros]
  have hcount : (decimalDigits n).length - 1 + 1 -
      (Significant.stripZeros (decimalDigits n)).length = k := by
    omega
  rw [wholeText, Significant.ofCoefficient_zero,
    Layout.write_brief_of_lt (by omega) (by omega), hcount, ← hzeros]

theorem wholeText_of_le {n : Nat} (h : 10 ^ 6 ≤ n) :
    wholeText n = mantissa (Significant.stripZeros (decimalDigits n)) ++
      'e' :: '+' :: exponentDigits ((decimalDigits n).length - 1) := by
  rcases exists_length_decimalDigits h with ⟨k, hk⟩
  have hne := Significant.stripZeros_ne_nil (decimalDigits_ne_nil n)
  rw [wholeText, Significant.ofCoefficient_zero, Layout.write_brief_of_le (by omega) hne]

theorem isDigit_stripZeros {n : Nat} {c : Char}
    (hc : c ∈ Significant.stripZeros (decimalDigits n)) : c.isDigit = true := by
  rcases Significant.exists_stripZeros (decimalDigits n) with ⟨k, hzeros⟩
  refine isDigit_decimalDigits n c ?_
  rw [hzeros]
  exact List.mem_append_left _ hc

/-- What stands before the exponent and after its mark. -/
theorem cut?_wholeText {n : Nat} (h : 10 ^ 6 ≤ n) : Text.cut? 'e' (wholeText n) =
    some (mantissa (Significant.stripZeros (decimalDigits n)),
      '+' :: exponentDigits ((decimalDigits n).length - 1)) := by
  rw [wholeText_of_le h]
  refine Text.cut?_append (fun hmem => ?_) _
  rcases mem_mantissa hmem with hdigit | hpoint
  · exact absurd (isDigit_stripZeros hdigit) (by decide)
  · exact absurd hpoint (by decide)

theorem mem_wholeText_iff {n : Nat} : 'e' ∈ wholeText n ↔ 10 ^ 6 ≤ n := by
  constructor
  · intro hmem
    refine Nat.le_of_not_lt fun hlt => ?_
    rw [wholeText_of_lt hlt] at hmem
    exact absurd (isDigit_decimalDigits n _ hmem) (by decide)
  · intro hle
    rw [wholeText_of_le hle]
    exact List.mem_append_right _ (List.mem_cons_self ..)

/-- A whole number is written with digits, a point and an exponent. -/
theorem mem_wholeText {n : Nat} {c : Char} (h : c ∈ wholeText n) :
    c.isDigit = true ∨ c ∈ ['.', 'e', '+'] := by
  rcases Nat.lt_or_ge n (10 ^ 6) with hsmall | hlarge
  · rw [wholeText_of_lt hsmall] at h
    exact .inl (isDigit_decimalDigits n c h)
  · rw [wholeText_of_le hlarge, List.mem_append, List.mem_cons, List.mem_cons] at h
    rcases h with hmantissa | rfl | rfl | hexponent
    · rcases mem_mantissa hmantissa with hdigit | rfl
      · exact .inl (isDigit_stripZeros hdigit)
      · exact .inr (by decide)
    · exact .inr (by decide)
    · exact .inr (by decide)
    · exact .inl (isDigit_exponentDigits hexponent)

/-- Writing loses nothing. -/
theorem wholeText_injective {m n : Nat} (h : wholeText m = wholeText n) : m = n := by
  have hsame : 10 ^ 6 ≤ m ↔ 10 ^ 6 ≤ n := by rw [← mem_wholeText_iff, h, mem_wholeText_iff]
  rcases Nat.lt_or_ge n (10 ^ 6) with hsmall | hlarge
  · have hm : m < 10 ^ 6 := Nat.lt_of_not_le fun hle => absurd (hsame.1 hle) (Nat.not_le.2 hsmall)
    rw [wholeText_of_lt hm, wholeText_of_lt hsmall] at h
    exact decimalDigits_injective h
  · -- The exponent mark separates the digits from the exponent, and both are read back.
    have hcut := cut?_wholeText (hsame.2 hlarge)
    rw [h, cut?_wholeText hlarge] at hcut
    simp only [Option.some.injEq, Prod.mk.injEq, List.cons.injEq, true_and] at hcut
    rcases hcut with ⟨hmantissa, hexponent⟩
    refine Significant.ofCoefficient_injective ?_
    rw [Significant.ofCoefficient_zero, Significant.ofCoefficient_zero]
    congr 1
    · rw [← filter_mantissa fun c hc => isDigit_stripZeros (n := m) hc, ← hmantissa,
        filter_mantissa fun c hc => isDigit_stripZeros (n := n) hc]
    · rw [← ofDigitChars_exponentDigits ((decimalDigits m).length - 1), ← hexponent,
        ofDigitChars_exponentDigits]

/-! ## Writing integers -/

/-- The integer of this magnitude with the sign of another one. -/
def signedLike (n : Int) (magnitude : Nat) : Int :=
  if n < 0 then -(magnitude : Int) else magnitude

theorem natAbs_signedLike (n : Int) (magnitude : Nat) :
    (signedLike n magnitude).natAbs = magnitude := by
  unfold signedLike
  split <;> omega

theorem signedLike_natAbs (n : Int) : signedLike n n.natAbs = n := by
  unfold signedLike
  split <;> omega

theorem signedLike_neg_iff {n : Int} {magnitude : Nat} (h : n ≠ 0 → 0 < magnitude) :
    signedLike n magnitude < 0 ↔ n < 0 := by
  unfold signedLike
  split <;> omega

/-- The integer with six leading digits nearest to another one. -/
def shownInteger (n : Int) : Int :=
  signedLike n (sixDigits n.natAbs)

/-- The integer with 53 leading bits nearest to another one. -/
def binaryInteger (n : Int) : Int :=
  signedLike n (leadingBits n.natAbs)

/-- An integer as a message writes it, with all its digits. -/
def integerText (n : Int) : String :=
  String.ofList ((if n < 0 then ['-'] else []) ++ wholeText n.natAbs)

theorem shownInteger_of_lt {n : Int} (h : n.natAbs < 10 ^ 6) : shownInteger n = n := by
  rw [shownInteger, sixDigits_of_lt h, signedLike_natAbs]

theorem binaryInteger_of_lt {n : Int} (h : n.natAbs < 2 ^ 53) : binaryInteger n = n := by
  rw [binaryInteger, leadingBits_of_lt h, signedLike_natAbs]

theorem le_shownInteger {n : Int} (h : 10 ^ 6 ≤ n.natAbs) : 10 ^ 6 ≤ (shownInteger n).natAbs := by
  rw [shownInteger, natAbs_signedLike]
  exact le_sixDigits h

theorem le_binaryInteger {n : Int} (h : 10 ^ 6 ≤ n.natAbs) :
    10 ^ 6 ≤ (binaryInteger n).natAbs := by
  rcases Nat.lt_or_ge n.natAbs (2 ^ 53) with hsmall | hlarge
  · rwa [binaryInteger_of_lt hsmall]
  · rw [binaryInteger, natAbs_signedLike]
    exact Nat.le_trans (by decide) (le_leadingBits hlarge)

theorem integerText_of_lt {n : Int} (h : n.natAbs < 10 ^ 6) : integerText n = toString n := by
  rw [integerText, wholeText_of_lt h, ← toList_toString, String.ofList_toList]

theorem mem_integerText_iff {n : Int} : 'e' ∈ (integerText n).toList ↔ 10 ^ 6 ≤ n.natAbs := by
  rw [integerText, String.toList_ofList, List.mem_append, mem_wholeText_iff]
  refine or_iff_right ?_
  split <;> decide

theorem mem_integerText {n : Int} {c : Char} (h : c ∈ (integerText n).toList) :
    c.isDigit = true ∨ c ∈ ['-', '.', 'e', '+'] := by
  rw [integerText, String.toList_ofList, List.mem_append] at h
  rcases h with hsign | hwhole
  · split at hsign
    · rw [List.mem_singleton.1 hsign]
      exact .inr (by decide)
    · cases hsign
  · exact (mem_wholeText hwhole).imp_right (List.mem_cons_of_mem _)

theorem integerText_injective {m n : Int} (h : integerText m = integerText n) : m = n := by
  have hsign : ∀ k : Nat, '-' ∉ wholeText k := by
    intro k hmem
    rcases mem_wholeText hmem with hdigit | hmark
    · exact absurd hdigit (by decide)
    · exact absurd hmark (by decide)
  have htext := String.ofList_injective h
  -- The sign is known from the text, because no magnitude has a minus sign.
  by_cases hm : m < 0 <;> by_cases hn : n < 0
  · rw [if_pos hm, if_pos hn, List.append_cancel_left_eq] at htext
    have habs := wholeText_injective htext
    omega
  · rw [if_pos hm, if_neg hn, List.nil_append] at htext
    exact absurd (htext ▸ List.mem_cons_self ..) (hsign n.natAbs)
  · rw [if_neg hm, if_pos hn, List.nil_append] at htext
    exact absurd (htext ▸ List.mem_cons_self ..) (hsign m.natAbs)
  · rw [if_neg hm, if_neg hn, List.nil_append, List.nil_append] at htext
    have habs := wholeText_injective htext
    omega

/-! ## Whole numbers of the two kinds -/

/-- The number is this integer; the negative zero is none. -/
structure Number.IsInteger (a : Number) (n : Int) : Prop where
  place?_eq : a.place? = some (.at n)
  ne_negativeZero : ∀ e, a ≠ .real (.finite true 0 e)

namespace Binary64

theorem magnitude_pos (s : Nat) (e : Int) : 0 < (magnitude s e).2 := by
  unfold magnitude
  split
  · exact Nat.one_pos
  · exact Nat.two_pow_pos _

theorem magnitude_eq_zero_iff {s : Nat} {e : Int} : (magnitude s e).1 = 0 ↔ s = 0 := by
  unfold magnitude
  split
  · exact Nat.mul_eq_zero.trans (or_iff_left (Nat.two_pow_pos _).ne')
  · exact Iff.rfl

theorem signed_magnitude_eq {negative : Bool} {s : Nat} {e n : Int}
    (h : finiteValue negative s e = n) :
    (if negative then -((magnitude s e).1 : Int) else (magnitude s e).1) =
      n * (magnitude s e).2 := by
  have hcross := (Rat.mkRat_eq_iff (magnitude_pos s e).ne' Nat.one_ne_zero).1
    (h.trans (Rat.mkRat_one n).symm)
  rwa [Nat.cast_one, mul_one] at hcross

/-- The magnitude of a number that is an integer is a whole quotient, and its sign is that of the
integer. -/
theorem exists_magnitude_of_isInteger {x : Binary64} {n : Int}
    (h : (Number.real x).IsInteger n) : ∃ s e d, x = .finite (decide (n < 0)) s e ∧ 0 < d ∧
      magnitude s e = (n.natAbs * d, d) := by
  rcases x with _ | negative | ⟨negative, s, e⟩
  · cases h.place?_eq
  · cases negative <;> cases h.place?_eq
  · have hvalue : finiteValue negative s e = n :=
      Place.at.inj (Option.some.inj h.place?_eq)
    have hsigned := signed_magnitude_eq hvalue
    have hpos := magnitude_pos s e
    have hpos' : (0 : Int) < (magnitude s e).2 := by exact_mod_cast hpos
    have hscaled : n * (magnitude s e).2 < 0 ↔ n < 0 := by
      rw [mul_neg_iff]
      omega
    have hnegative : n < 0 ↔ negative = true := by
      rw [← hscaled, ← hsigned]
      cases negative with
      | false => simp
      | true =>
          -- The sign of a zero says nothing about the value, hence `ne_negativeZero`.
          have hmagnitude : (magnitude s e).1 ≠ 0 := by
            rw [ne_eq, magnitude_eq_zero_iff]
            rintro rfl
            exact h.ne_negativeZero e rfl
          refine iff_of_true ?_ rfl
          rw [if_pos rfl]
          omega
    have hmagnitude : (magnitude s e).1 = n.natAbs * (magnitude s e).2 := by
      have habs := congrArg Int.natAbs hsigned
      rw [Int.natAbs_mul, Int.natAbs_natCast] at habs
      rw [← habs]
      cases negative with
      | false => rfl
      | true => rw [if_pos rfl, Int.natAbs_neg, Int.natAbs_natCast]
    refine ⟨s, e, (magnitude s e).2, ?_, hpos, Prod.ext hmagnitude rfl⟩
    rw [Bool.eq_iff_iff.2 (decide_eq_true_iff.trans hnegative)]

/-- A number that is an integer is shown with six leading digits of the integer. -/
theorem toBriefText_of_isInteger {x : Binary64} {n : Int} (h : (Number.real x).IsInteger n) :
    x.toBriefText = integerText (shownInteger n) := by
  rcases exists_magnitude_of_isInteger h with ⟨s, e, d, rfl, hd, hmagnitude⟩
  have hzero := magnitude_eq_zero_iff (s := s) (e := e)
  rw [hmagnitude] at hzero
  unfold toBriefText writeWith
  dsimp only
  rw [hmagnitude]
  dsimp only
  rw [integerText, shownInteger, natAbs_signedLike]
  congr 2
  · have hsign : signedLike n (sixDigits n.natAbs) < 0 ↔ n < 0 :=
      signedLike_neg_iff fun hn => sixDigits_pos (Int.natAbs_pos.2 hn)
    simp only [hsign, decide_eq_true_eq]
  · -- Zero is not rounded but written at once.
    rcases Nat.eq_zero_or_pos n.natAbs with habs | habs
    · have hs : (s == 0) = true := beq_iff_eq.2 (hzero.1 (by rw [habs, Nat.zero_mul]))
      rw [hs, habs]
      rfl
    · have hs : ¬ (s == 0) = true := by
        rw [beq_iff_eq, ← hzero]
        exact (Nat.mul_pos habs hd).ne'
      rw [if_neg hs, Significant.rounded_mul_right habs hd]
      rfl

/-! ## Integers in the binary format -/

theorem finiteValue_true (s : Nat) (e : Int) : finiteValue true s e = -finiteValue false s e := by
  unfold finiteValue
  simp only [if_true, Bool.false_eq_true, if_false]
  exact (Rat.neg_mkRat _ _).symm

/-- A carry leaves the value as it is. -/
theorem exists_pack {negative : Bool} {significand : Nat} {e : Int}
    (h : ¬ (pack negative significand e).IsInfinite) :
    ∃ s f, pack negative significand e = .finite negative s f ∧
      s * (2 : Rat) ^ f = significand * 2 ^ e := by
  rw [isInfinite_pack_iff, Int.not_lt] at h
  by_cases hcarry : significand = 2 ^ 53
  · rw [if_pos hcarry] at h
    refine ⟨2 ^ 52, e + 1, ?_, ?_⟩
    · simp [pack, hcarry, Int.not_lt.2 h]
    · rw [hcarry, zpow_add₀ (by norm_num)]
      push_cast
      ring
  · rw [if_neg hcarry] at h
    refine ⟨significand, e, ?_, rfl⟩
    simp only [pack, Nat.pow_eq, beq_iff_eq, if_neg hcarry, if_neg (Int.not_lt.2 h)]

theorem exponentOf_natCast {num : Nat} (h : 0 < num) :
    exponentOf num 1 = (num.log2 : Int) - 52 := by
  have hlog : Int.log 2 ((num : Rat) / (1 : Nat)) = num.log2 := by
    rw [Nat.cast_one, div_one, Int.log_natCast, Nat.log2_eq_log_two]
  rw [exponentOf_eq h Nat.one_pos, hlog]
  unfold leastExponent
  omega

theorem scaleDown_neg_natCast (num den k : Nat) :
    scaleDown num den (-k) = (num * 2 ^ k, den) := by
  cases k with
  | zero => simp [scaleDown]
  | succ k =>
      have hneg : ¬ 0 ≤ -((k + 1 : Nat) : Int) := by omega
      rw [scaleDown, if_neg hneg, Int.neg_neg, Int.toNat_natCast, Nat.pow_eq]

/-- The significand of an integer in the binary format stands for its 53 leading bits. -/
theorem significand_natCast {num : Nat} (h : 0 < num) :
    (roundHalfEven (scaleDown num 1 (exponentOf num 1)).1 (scaleDown num 1 (exponentOf num 1)).2 *
      (2 : Rat) ^ exponentOf num 1) = leadingBits num := by
  rw [exponentOf_natCast h]
  -- With 52 bits or less the number is scaled up and stays exact, else it loses the last bits.
  rcases Nat.lt_or_ge num.log2 52 with hsmall | hlarge
  · obtain ⟨k, hk⟩ : ∃ k : Nat, (num.log2 : Int) - 52 = -k := ⟨52 - num.log2, by omega⟩
    have hexact : num < 2 ^ 53 := (Nat.log2_lt h.ne').1 (by omega)
    rw [hk, scaleDown_neg_natCast, roundHalfEven_one, leadingBits_of_lt hexact, Nat.cast_mul,
      Nat.cast_pow, Nat.cast_ofNat, zpow_neg, zpow_natCast, mul_assoc,
      mul_inv_cancel₀ (by positivity), mul_one]
  · obtain ⟨k, hk⟩ : ∃ k : Nat, num.log2 = 52 + k := ⟨num.log2 - 52, by omega⟩
    have hexponent : (num.log2 : Int) - 52 = k := by omega
    rw [hexponent, scaleDown_natCast, Nat.one_mul, leadingBits, roundTo, hk,
      Nat.add_sub_cancel_left, Nat.cast_mul, Nat.cast_pow, Nat.cast_ofNat, zpow_natCast]

/-- An integer within the range becomes the integer with its 53 leading bits. -/
theorem isInteger_ofInt {n : Int} (h : ¬ (ofInt n).IsInfinite) :
    (Number.real (ofInt n)).IsInteger (binaryInteger n) := by
  -- Zero is made at once, without a significand of 53 bits.
  rcases Nat.eq_zero_or_pos n.natAbs with habs | habs
  · rw [Int.natAbs_eq_zero.1 habs]
    refine ⟨?_, nofun⟩
    exact congrArg (fun q => some (Place.at q)) (finiteValue_zero false leastExponent)
  · have hne : ¬ (n.natAbs == 0) = true := by
      rw [beq_iff_eq]
      exact habs.ne'
    unfold ofInt ofRatio at h ⊢
    dsimp only at h ⊢
    rw [if_neg hne] at h ⊢
    rcases exists_pack h with ⟨s, e, hpack, hmagnitude⟩
    rw [significand_natCast habs, ← finiteValue_false] at hmagnitude
    rw [hpack]
    have hvalue : finiteValue (decide (n < 0)) s e = binaryInteger n := by
      unfold binaryInteger signedLike
      split
      case isTrue hn =>
        rw [decide_eq_true hn, finiteValue_true, hmagnitude, Int.cast_neg, Int.cast_natCast]
      case isFalse hn => rw [decide_eq_false hn, hmagnitude, Int.cast_natCast]
    refine ⟨?_, fun f hzero => ?_⟩
    · rw [Number.place?, hvalue]
    · -- A significand that is zero has no leading bits.
      have hs : s = 0 := (finite.inj (Number.real.inj hzero)).2.1
      rw [hs, finiteValue_zero] at hmagnitude
      have hpos := leadingBits_pos habs
      have hcast : (leadingBits n.natAbs : Rat) ≠ 0 := Nat.cast_ne_zero.2 hpos.ne'
      exact hcast hmagnitude.symm

end Binary64

namespace Number

theorem brief_real_of_isInteger {x : Binary64} {n : Int} (h : (real x).IsInteger n) :
    (real x).brief = .ok (integerText (shownInteger n)) := by
  rw [brief_real, Binary64.toBriefText_of_isInteger h]

theorem brief_whole {n : Int} (h : n.natAbs < 2 ^ 1024 - 2 ^ 970) :
    (whole n).brief = .ok (integerText (shownInteger (binaryInteger n))) := by
  have hfinite : ¬ (Binary64.ofInt n).IsInfinite := by
    rw [Binary64.isInfinite_ofInt_iff]
    exact Nat.not_le.2 h
  rw [brief_whole_of_not_isInfinite hfinite,
    Binary64.toBriefText_of_isInteger (Binary64.isInteger_ofInt hfinite)]

theorem isInteger_whole_iff {m n : Int} : (whole m).IsInteger n ↔ m = n := by
  constructor
  · intro h
    exact_mod_cast Place.at.inj (Option.some.inj h.place?_eq)
  · rintro rfl
    exact ⟨rfl, nofun⟩

end Number
end ComponentSpec

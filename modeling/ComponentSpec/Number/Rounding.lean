/-!
# Rounding a quotient to the nearest natural number

One rounding serves every conversion of numbers in this library: from decimal to binary, from
integers to the binary format, and from either to a limited number of decimal digits.  Halves go to
the even neighbour.

Main statements: the result is within half a unit of the quotient (`roundHalfEven_le`,
`le_roundHalfEven`), a quotient without remainder is kept (`roundHalfEven_mul`), and a half goes to
an even number (`roundHalfEven_half`).
-/

namespace ComponentSpec

/-- The natural number nearest to `num / den`; of two equally near ones the even one. -/
def roundHalfEven (num den : Nat) : Nat :=
  let q := num / den
  let r := num % den
  if 2 * r < den then q
  else if den < 2 * r then q + 1
  else if q % 2 == 0 then q else q + 1

theorem roundHalfEven_mul (q : Nat) {den : Nat} (h : 0 < den) :
    roundHalfEven (q * den) den = q := by
  simp [roundHalfEven, Nat.mul_div_cancel _ h, h]

/-- The result exceeds the quotient by half a unit at most. -/
theorem roundHalfEven_le (num : Nat) {den : Nat} (h : 0 < den) :
    2 * (roundHalfEven num den * den) ≤ 2 * num + den := by
  have hdiv := Nat.div_add_mod num den
  have hmod := Nat.mod_lt num h
  rw [Nat.mul_comm] at hdiv
  unfold roundHalfEven
  simp only []
  split
  · omega
  · split
    · rw [Nat.add_mul]; omega
    · split
      · omega
      · rw [Nat.add_mul]; omega

/-- The result falls short of the quotient by half a unit at most. -/
theorem le_roundHalfEven (num : Nat) {den : Nat} (h : 0 < den) :
    2 * num ≤ 2 * (roundHalfEven num den * den) + den := by
  have hdiv := Nat.div_add_mod num den
  have hmod := Nat.mod_lt num h
  rw [Nat.mul_comm] at hdiv
  unfold roundHalfEven
  simp only []
  split
  · omega
  · split
    · rw [Nat.add_mul]; omega
    · split
      · omega
      · rw [Nat.add_mul]; omega

theorem roundHalfEven_half {num den : Nat} (half : 2 * (num % den) = den) :
    roundHalfEven num den % 2 = 0 := by
  unfold roundHalfEven
  simp only [half, Nat.lt_irrefl, if_false]
  split
  · rename_i even; simpa using even
  · rename_i odd
    simp only [beq_iff_eq] at odd
    omega

end ComponentSpec

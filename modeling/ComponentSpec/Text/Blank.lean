/-!
# Blank characters

The characters that count as white space at the ends of a text and between the parts of a line: the
ASCII controls from tab to carriage return, the four information separators, the next-line control
and every Unicode space or line separator.

Main statements: every character that core calls white space is blank (`isBlank_of_isWhitespace`),
trimming removes nothing but blanks (`trim_subset`), and a trimmed text neither begins nor ends with
one (`head_trim`, `getLast_trim`).
-/

namespace ComponentSpec
namespace Text

/-- Whether the character counts as white space. -/
def isBlank (c : Char) : Bool :=
  let n := c.toNat
  (9 ≤ n && n ≤ 13) || (28 ≤ n && n ≤ 32) || n == 133 || n == 160 || n == 5760 ||
    (8192 ≤ n && n ≤ 8202) || n == 8232 || n == 8233 || n == 8239 || n == 8287 || n == 12288

theorem isBlank_of_isWhitespace {c : Char} (h : c.isWhitespace = true) : isBlank c = true := by
  simp only [Char.isWhitespace, Bool.or_eq_true, decide_eq_true_eq] at h
  rcases h with ((h | h) | h) | h <;> subst h <;> decide

/-! ## Trimming -/

/-- The text without the blanks it begins with. -/
def trimLeft (s : List Char) : List Char :=
  s.dropWhile isBlank

/-- The text without the blanks it ends with. -/
def trimRight (s : List Char) : List Char :=
  (s.reverse.dropWhile isBlank).reverse

/-- The text without the blanks at its ends. -/
def trim (s : List Char) : List Char :=
  trimRight (trimLeft s)

/-- The number of blanks that the text begins with. -/
def indentation (s : List Char) : Nat :=
  (s.takeWhile isBlank).length

theorem trimLeft_subset {s : List Char} {c : Char} (h : c ∈ trimLeft s) : c ∈ s :=
  (List.dropWhile_sublist _).subset h

theorem trimRight_subset {s : List Char} {c : Char} (h : c ∈ trimRight s) : c ∈ s := by
  have := (List.dropWhile_sublist (l := s.reverse) isBlank).subset (List.mem_reverse.1 h)
  exact List.mem_reverse.1 this

theorem trim_subset {s : List Char} {c : Char} (h : c ∈ trim s) : c ∈ s :=
  trimLeft_subset (trimRight_subset h)

theorem length_trimLeft_le (s : List Char) : (trimLeft s).length ≤ s.length :=
  (List.dropWhile_sublist _).length_le

theorem length_trimRight_le (s : List Char) : (trimRight s).length ≤ s.length := by
  have := (List.dropWhile_sublist (l := s.reverse) isBlank).length_le
  simpa [trimRight] using this

theorem length_trim_le (s : List Char) : (trim s).length ≤ s.length :=
  Nat.le_trans (length_trimRight_le _) (length_trimLeft_le _)

theorem not_isBlank_of_head?_trimLeft {s : List Char} {c : Char}
    (h : (trimLeft s).head? = some c) : isBlank c = false := by
  have := List.head?_dropWhile_not isBlank s
  rw [trimLeft] at h
  simpa [h] using this

/-- What remains of a text after its last blanks are dropped is a beginning of it. -/
theorem trimRight_isPrefix (s : List Char) : trimRight s <+: s := by
  have := List.dropWhile_suffix isBlank (l := s.reverse)
  simpa [trimRight] using List.reverse_prefix.2 this

theorem head_trim {s : List Char} {c : Char} (h : (trim s).head? = some c) :
    isBlank c = false := by
  obtain ⟨rest, hrest⟩ := trimRight_isPrefix (trimLeft s)
  cases ht : trimRight (trimLeft s) with
  | nil => simp [trim, ht] at h
  | cons d ds =>
      rw [ht] at hrest
      apply not_isBlank_of_head?_trimLeft (s := s)
      rw [← hrest]
      simpa [trim, ht] using h

theorem getLast_trim {s : List Char} {c : Char} (h : (trim s).getLast? = some c) :
    isBlank c = false := by
  have := List.head?_dropWhile_not isBlank (trimLeft s).reverse
  simp only [trim, trimRight, List.getLast?_reverse] at h
  simpa [h] using this

end Text
end ComponentSpec

import ComponentSpec.Number.Numeral
import ComponentSpec.Text.Scan
import ComponentSpec.Text.Word

/-!
# Fragments of texts

A scanner takes a text apart, so what it gives is a fragment of the text.  A bound on the numerals
of a text is a bound on the numerals of its fragments, and such a bound is all that the reading of
an integer at the beginning of a text needs.

Main statements: pieces and trimmed texts are fragments (`isInfix_of_mem_pieces`, `trim_isInfix`),
and an integer is read without a fault from a text without long numerals (`exists_leadingInt`).
-/

namespace ComponentSpec

namespace Text

theorem trimLeft_isInfix (s : List Char) : trimLeft s <:+: s :=
  (List.dropWhile_suffix isBlank).isInfix

theorem trim_isInfix (s : List Char) : trim s <:+: s :=
  (trimRight_isPrefix _).isInfix.trans (trimLeft_isInfix s)

theorem after_isInfix_of_cut? {mark : Char} {s before after : List Char}
    (h : cut? mark s = some (before, after)) : after <:+: s := by
  rw [eq_of_cut? h]
  exact ((List.suffix_cons _ _).trans (List.suffix_append _ _)).isInfix

theorem isInfix_of_enclosed? {opening closing : Char} {s inner : List Char}
    (h : enclosed? opening closing s = some inner) : inner <:+: s := by
  cases s with
  | nil => cases h
  | cons c rest =>
      simp only [enclosed?, Option.ite_none_right_eq_some, Option.some.injEq] at h
      rw [← h.2]
      exact (List.dropLast_prefix rest).isInfix.trans (List.suffix_cons c rest).isInfix

/-- The first piece begins the text, and the other pieces stand in it. -/
theorem pieces_isInfix (mark : Char) (s : List Char) :
    ∃ first others, pieces mark s = first :: others ∧ first <+: s ∧
      ∀ piece ∈ others, piece <:+: s := by
  induction s with
  | nil => exact ⟨[], [], rfl, List.prefix_refl _, fun _ h => absurd h List.not_mem_nil⟩
  | cons c rest ih =>
      rcases ih with ⟨first, others, hpieces, hfirst, hothers⟩
      have hcons : ∀ piece ∈ others, piece <:+: c :: rest :=
        fun piece hpiece => List.infix_cons (hothers piece hpiece)
      rw [pieces]
      split
      · refine ⟨[], first :: others, by rw [hpieces], List.nil_prefix, ?_⟩
        exact List.forall_mem_cons.2 ⟨List.infix_cons hfirst.isInfix, hcons⟩
      · rw [hpieces]
        exact ⟨c :: first, others, rfl, (List.prefix_cons_inj c).2 hfirst, hcons⟩

theorem isInfix_of_mem_pieces {mark : Char} {s piece : List Char} (h : piece ∈ pieces mark s) :
    piece <:+: s := by
  rcases pieces_isInfix mark s with ⟨first, others, hpieces, hfirst, hothers⟩
  rw [hpieces] at h
  rcases List.mem_cons.1 h with rfl | h
  · exact hfirst.isInfix
  · exact hothers piece h

end Text

/-! ## Numerals -/

namespace Text

theorem not_isDigit_of_mem_blankCodes : ∀ n ∈ blankCodes, isDigit (Char.ofNat n) = false := by
  decide +kernel

theorem isBlank_of_isDigit {c : Char} (h : isDigit c = true) : isBlank c = false := by
  refine Bool.eq_false_iff.2 ?_
  intro hblank
  have hcode := not_isDigit_of_mem_blankCodes c.toNat (mem_blankCodes hblank)
  rw [Char.ofNat_toNat, h] at hcode
  cases hcode

/-- No run of digits in the text is longer than an integer numeral may be. -/
def HasShortNumerals (s : List Char) : Prop :=
  ∀ run, run <:+: s → (∀ c ∈ run, isDigit c = true) → run.length ≤ Fault.digitLimit

theorem HasShortNumerals.of_isInfix {s t : List Char} (h : HasShortNumerals s) (ht : t <:+: s) :
    HasShortNumerals t :=
  fun run hrun hdigits => h run (hrun.trans ht) hdigits

theorem hasShortNumerals_of_length_le {s : List Char} (h : s.length ≤ Fault.digitLimit) :
    HasShortNumerals s :=
  fun _ hrun _ => Nat.le_trans hrun.length_le h

end Text

open Text

theorem length_spanDigits (s : List Char) :
    (spanDigits s).1.length = (s.takeWhile isDigit).length := by
  induction s with
  | nil => rfl
  | cons c rest ih =>
      cases hc : digitValue? c with
      | none => simp [spanDigits, isDigit, hc]
      | some d => simp [spanDigits, isDigit, hc, ih]

theorem spanSign_isInfix (s : List Char) : (spanSign s).2 <:+: s := by
  unfold spanSign
  split
  · exact (List.suffix_cons _ _).isInfix
  · exact (List.suffix_cons _ _).isInfix
  · exact List.infix_refl s

theorem exists_leadingInt {s : List Char} (h : HasShortNumerals s) :
    ∃ n?, leadingInt s = .ok n? := by
  have hrun : (spanSign (trimLeft s)).2.takeWhile isDigit <:+: s :=
    (List.takeWhile_prefix _).isInfix.trans ((spanSign_isInfix _).trans (trimLeft_isInfix s))
  have hlength := h _ hrun fun c hc => List.all_eq_true.1 List.all_takeWhile c hc
  rw [← length_spanDigits] at hlength
  unfold leadingInt
  dsimp only
  split
  · exact ⟨none, rfl⟩
  · rw [if_neg (Nat.not_lt.2 hlength)]
    exact ⟨_, rfl⟩

end ComponentSpec

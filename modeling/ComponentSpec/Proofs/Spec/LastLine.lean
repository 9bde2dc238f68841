import Mathlib.Data.List.Basic
import Mathlib.Data.List.Induction

/-!
# The last line that gives something

Some lines of a document give something and others do not.  Where a later line replaces what an
earlier one has given, only the last line that gives something counts.

Main statements: what one more line changes (`givesLast_concat_iff`), and that the last result of a
reader of single lines comes from this line (`getLast?_filterMap_eq_some_iff`).
-/

namespace ComponentSpec
namespace Spec

/-- Of the lines that give something, the last one gives this. -/
def GivesLast {α : Type} (gives : List Char → α → Prop) (given : List (List Char)) (a : α) : Prop :=
  ∃ before line after, given = before ++ line :: after ∧ gives line a ∧
    ∀ later ∈ after, ∀ b, ¬ gives later b

section

variable {α : Type} {gives : List Char → α → Prop} {given : List (List Char)} {a : α}

theorem not_givesLast_nil : ¬ GivesLast gives [] a := by
  rintro ⟨before, line, after, hgiven, -⟩
  exact absurd hgiven.symm (by simp)

theorem givesLast_concat_iff {line : List Char} :
    GivesLast gives (given ++ [line]) a ↔
      gives line a ∨ (∀ b, ¬ gives line b) ∧ GivesLast gives given a := by
  constructor
  · rintro ⟨before, first, after, hgiven, hfirst, hafter⟩
    -- The new line is the one that gives, or else it stands at the end of those after it.
    rcases List.eq_nil_or_concat after with rfl | ⟨others, last, rfl⟩
    · cases (List.append_inj' hgiven rfl).2
      exact .inl hfirst
    · rw [List.concat_eq_append, ← List.cons_append, ← List.append_assoc] at hgiven
      rcases List.append_inj' hgiven rfl with ⟨rfl, hlast⟩
      cases hlast
      simp only [List.concat_eq_append, List.mem_append, List.mem_singleton] at hafter
      exact .inr ⟨hafter line (.inr rfl),
        before, first, others, rfl, hfirst, fun later hlater => hafter later (.inl hlater)⟩
  · rintro (hline | ⟨hline, before, first, after, rfl, hfirst, hafter⟩)
    · exact ⟨given, line, [], rfl, hline, nofun⟩
    · refine ⟨before, first, after ++ [line], by simp, hfirst, fun later hlater => ?_⟩
      rcases List.mem_append.1 hlater with hlater | hlater
      · exact hafter later hlater
      · cases List.mem_singleton.1 hlater
        exact hline

/-- A reader of single lines that finds what they give finds what the last one gives. -/
theorem getLast?_filterMap_eq_some_iff {read? : List Char → Option α}
    (hread : ∀ line b, read? line = some b ↔ gives line b) :
    (given.filterMap read?).getLast? = some a ↔ GivesLast gives given a := by
  -- One more line either gives something, and is the last one, or leaves all as it is.
  induction given using List.reverseRecOn with
  | nil => exact iff_of_false nofun not_givesLast_nil
  | append_singleton given line ih =>
      rw [givesLast_concat_iff, List.filterMap_append]
      simp only [← hread] at ih ⊢
      cases hline : read? line with
      | none => simpa [hline] using ih
      | some b => simp [hline]

end

end Spec
end ComponentSpec

import ComponentSpec.Text.Case

/-!
# Marks in small letters

The brackets and the slash of markup have no letter case, and no letter has one of them for its
small form.  They stand below the letters in the order of characters, and a small form that stands
there is the character itself.

Main statements: a text has no mark in small letters that it did not have before
(`mem_of_mem_smalls`), also not at its beginning (`head?_of_head?_smalls`).
-/

namespace ComponentSpec
namespace Text

theorem CaseRun.bounds_of_map? {run : CaseRun} {x y : Nat} (h : run.map? x = some y) :
    run.image ≤ y ∧ y ≤ run.image + (run.last - run.first) := by
  rw [CaseRun.map?, Option.ite_none_right_eq_some] at h
  simp only [Bool.and_eq_true, decide_eq_true_eq, Option.some.injEq] at h
  omega

/-- The images of capital letters are characters, and none of them stands below the letters. -/
theorem smallLetters_images : ∀ run ∈ smallLetters, 'A'.toNat ≤ run.image ∧
    (run.image + (run.last - run.first) < 0xD800 ∨
      0xDFFF < run.image ∧ run.image + (run.last - run.first) < 0x110000) := by
  decide +kernel

/-- The image of a character in the runs of small letters is a character above the marks, or it is
the character itself. -/
theorem mapByRuns_smallLetters (x : Nat) :
    mapByRuns smallLetters x = x ∨
      'A'.toNat ≤ mapByRuns smallLetters x ∧ (mapByRuns smallLetters x).isValidChar := by
  unfold mapByRuns
  cases hfound : smallLetters.findSome? (CaseRun.map? · x) with
  | none => exact .inl rfl
  | some y =>
      rcases List.exists_of_findSome?_eq_some hfound with ⟨run, hrun, hy⟩
      have hbounds := CaseRun.bounds_of_map? hy
      have himages := smallLetters_images run hrun
      simp only [Option.getD_some]
      unfold Nat.isValidChar
      omega

variable {c m : Char} {s : List Char}

theorem eq_of_toLower (hm : m.toNat < 'A'.toNat) (h : c.toLower = m) : c = m := by
  unfold Char.toLower at h
  split at h
  · rename_i hcapital
    -- The small letter of a capital stands 32 places behind it.
    have hfirst : 65 ≤ c.val.toNat := UInt32.le_iff_toNat_le.1 hcapital.1
    have hlast : c.val.toNat ≤ 90 := UInt32.le_iff_toNat_le.1 hcapital.2
    have hlow : (c.val + 32).toNat < 65 := by
      rw [← h] at hm
      exact hm
    have hdistance : (32 : UInt32).toNat = 32 := rfl
    rw [UInt32.toNat_add, hdistance] at hlow
    omega
  · exact h

theorem toNat_ofNat_of_isValidChar {n : Nat} (h : n.isValidChar) : (Char.ofNat n).toNat = n := by
  rw [Char.ofNat, dif_pos h]
  rfl

theorem eq_of_mem_smallForm (hm : m.toNat < 'A'.toNat) (h : m ∈ smallForm c) : c = m := by
  unfold smallForm at h
  split at h
  · exact eq_of_toLower hm (List.mem_singleton.1 h).symm
  · split at h
    · rcases List.mem_cons.1 h with rfl | h
      · exact absurd hm (by decide)
      · rw [List.mem_singleton.1 h] at hm
        exact absurd hm (by decide)
    · have hm' := List.mem_singleton.1 h
      rcases mapByRuns_smallLetters c.toNat with hself | ⟨hlarge, hvalid⟩
      · rw [hm', hself, Char.ofNat_toNat]
      · rw [hm', toNat_ofNat_of_isValidChar hvalid] at hm
        omega

theorem smallForm_ne_nil : smallForm c ≠ [] := by
  unfold smallForm
  split
  · exact List.cons_ne_nil _ _
  · split <;> exact List.cons_ne_nil _ _

theorem eq_of_mem_smallFormBetween {before after : List Char} (hm : m.toNat < 'A'.toNat)
    (h : m ∈ smallFormBetween before c after) : c = m := by
  unfold smallFormBetween at h
  split at h
  · split at h
    all_goals
      rw [List.mem_singleton.1 h] at hm
      exact absurd hm (by decide)
  · exact eq_of_mem_smallForm hm h

theorem smallFormBetween_ne_nil {before after : List Char} :
    smallFormBetween before c after ≠ [] := by
  unfold smallFormBetween
  split
  · split <;> exact List.cons_ne_nil _ _
  · exact smallForm_ne_nil

theorem mem_of_mem_smallsAfter {before : List Char} (hm : m.toNat < 'A'.toNat)
    (h : m ∈ smallsAfter before s) : m ∈ s := by
  induction s generalizing before with
  | nil => exact h
  | cons c s ih =>
      rcases List.mem_append.1 h with h | h
      · exact eq_of_mem_smallFormBetween hm h ▸ List.mem_cons_self ..
      · exact List.mem_cons_of_mem c (ih h)

theorem mem_of_mem_smalls (hm : m.toNat < 'A'.toNat) (h : m ∈ smalls s) : m ∈ s :=
  mem_of_mem_smallsAfter hm h

theorem head?_of_head?_smalls (hm : m.toNat < 'A'.toNat) (h : (smalls s).head? = some m) :
    s.head? = some m := by
  cases s with
  | nil => cases h
  | cons c s =>
      have hfirst : m ∈ smallFormBetween [] c s := by
        apply List.mem_of_mem_head?
        rw [smalls, smallsAfter, List.head?_append] at h
        cases hfirst : (smallFormBetween [] c s).head? with
        | none => exact absurd (List.head?_eq_none_iff.1 hfirst) smallFormBetween_ne_nil
        | some d =>
            rw [hfirst] at h
            exact h
      rw [List.head?_cons, eq_of_mem_smallFormBetween hm hfirst]

end Text
end ComponentSpec

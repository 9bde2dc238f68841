import ComponentSpec.Text.Scan

/-!
# Comparison without regard to letter case

Headers and markup are recognised in any letter case.  Beside the capital of each ASCII letter, four
further characters count as a form of one: the long s, the Kelvin sign, the dotless i and the dotted
capital i.

Main statements: a mark has no other letter case (`eq_of_letterOf`), and which texts begin with a
keyword (`isSome_dropKeyword?_iff`).
-/

namespace ComponentSpec
namespace Text

/-- The small ASCII letter of which the character is a form, or else the character itself. -/
def letterOf (c : Char) : Char :=
  if c == 'ſ' then 's'
  else if c == Char.ofNat 0x212A then 'k'
  else if c == 'ı' || c == 'İ' then 'i'
  else c.toLower

/-- A mark below the letters has no other letter case. -/
theorem eq_of_letterOf {c k : Char} (hk : k.toNat < 'A'.toNat) (h : letterOf c = k) : c = k := by
  have hne : ∀ d : Char, 'A'.toNat ≤ d.toNat → d ≠ k := by
    rintro d hd rfl
    exact Nat.not_lt.2 hd hk
  unfold letterOf at h
  split at h
  · exact absurd h (hne 's' (by decide))
  · split at h
    · exact absurd h (hne 'k' (by decide))
    · split at h
      · exact absurd h (hne 'i' (by decide))
      · unfold Char.toLower at h
        split at h
        · -- A small letter stands further up than its capital.
          rename_i hcapital
          refine absurd h (hne _ ?_)
          have hlow : 'A'.val.toNat ≤ c.val.toNat := UInt32.le_iff_toNat_le.1 hcapital.1
          have hhigh : c.val.toNat ≤ 'Z'.val.toNat := UInt32.le_iff_toNat_le.1 hcapital.2
          have hA : 'A'.val.toNat = 65 := rfl
          have hZ : 'Z'.val.toNat = 90 := rfl
          have hshift : ('a'.val - 'A'.val).toNat = 32 := rfl
          simp only [Char.toNat, UInt32.toNat_add, hshift]
          omega
        · exact h

/-- What follows a keyword, given in small letters, at the beginning of the text. -/
def dropKeyword? : List Char → List Char → Option (List Char)
  | [], s => some s
  | _ :: _, [] => none
  | k :: keyword, c :: s => if letterOf c == k then dropKeyword? keyword s else none

theorem isSome_dropKeyword?_iff {keyword s : List Char} :
    (dropKeyword? keyword s).isSome ↔
      ∃ written rest, s = written ++ rest ∧ written.map letterOf = keyword := by
  induction keyword generalizing s with
  | nil => exact iff_of_true rfl ⟨[], s, rfl, rfl⟩
  | cons k keyword ih =>
      cases s with
      | nil =>
          refine iff_of_false Bool.false_ne_true ?_
          rintro ⟨written, rest, hs, hkeyword⟩
          rw [(List.append_eq_nil_iff.1 hs.symm).1] at hkeyword
          cases hkeyword
      | cons c s =>
          rw [dropKeyword?]
          constructor
          · intro h
            split at h
            · rename_i hc
              rcases ih.1 h with ⟨written, rest, rfl, hwritten⟩
              refine ⟨c :: written, rest, rfl, ?_⟩
              rw [List.map_cons, hwritten, beq_iff_eq.1 hc]
            · cases h
          · rintro ⟨written, rest, hs, hkeyword⟩
            cases written with
            | nil => cases hkeyword
            | cons d written =>
                rcases List.cons.inj hs with ⟨rfl, rfl⟩
                rcases List.cons.inj hkeyword with ⟨hk, hrest⟩
                rw [if_pos (beq_iff_eq.2 hk)]
                exact ih.2 ⟨written, rest, rfl, hrest⟩

end Text
end ComponentSpec

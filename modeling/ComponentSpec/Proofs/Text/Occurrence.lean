import ComponentSpec.Text.Scan
import Mathlib.Data.List.Basic

/-!
# Occurrences of a fragment

A search gives the first place of a text where its reader succeeds.  A fragment cannot stand across
a character that it does not have, and a mark, whose first character is not repeated in it, cannot
overlap another occurrence of itself.

Main statements: what a search finds (`search_eq_some_iff`), where a fragment occurs (`occurs_iff`),
and where it does not (`not_isInfix_append_cons`, `IsMark.length_le`).
-/

namespace ComponentSpec
namespace Text

/-! ## The first place -/

/-- A search finds the first place where its reader succeeds. -/
theorem search_eq_some_iff {α : Type} {read? : List Char → Option α} {s before : List Char}
    {a : α} :
    search read? s = some (before, a) ↔
      (∃ place, s = before ++ place ∧ read? place = some a) ∧
        ∀ earlier place, s = earlier ++ place → earlier.length < before.length →
          read? place = none := by
  induction s generalizing before with
  | nil =>
      constructor
      · intro h
        refine ⟨search_eq_some h, fun earlier place _ hlength => ?_⟩
        rcases search_eq_some h with ⟨place', heq, -⟩
        rw [(List.append_eq_nil_iff.1 heq.symm).1] at hlength
        exact absurd hlength (Nat.not_lt_zero _)
      · rintro ⟨⟨place, heq, hread⟩, -⟩
        rcases List.append_eq_nil_iff.1 heq.symm with ⟨rfl, rfl⟩
        rw [search, hread]
        rfl
  | cons c rest ih =>
      cases hhere : read? (c :: rest) with
      | some found =>
          rw [search, hhere]
          constructor
          · rintro ⟨⟩
            exact ⟨⟨_, rfl, hhere⟩, fun _ _ _ hlength => absurd hlength (Nat.not_lt_zero _)⟩
          · rintro ⟨⟨place, heq, hread⟩, hearlier⟩
            -- The reader succeeds at the very beginning, so nothing stands before its place.
            cases before with
            | nil =>
                rw [heq, List.nil_append, hread] at hhere
                cases hhere
                rfl
            | cons d before =>
                have hnone := hearlier [] (c :: rest) rfl (Nat.succ_pos _)
                rw [hhere] at hnone
                cases hnone
      | none =>
          rw [search, hhere]
          simp only [Option.map_eq_some_iff, Prod.exists, Prod.mk.injEq]
          constructor
          · rintro ⟨front, found, hfound, rfl, rfl⟩
            rcases ih.1 hfound with ⟨⟨place, rfl, hread⟩, hearlier⟩
            refine ⟨⟨place, rfl, hread⟩, fun earlier place' heq hlength => ?_⟩
            cases earlier with
            | nil =>
                rw [List.nil_append] at heq
                rwa [← heq]
            | cons d earlier =>
                have htail := (List.cons.inj heq).2
                exact hearlier earlier place' htail (Nat.lt_of_succ_lt_succ hlength)
          · rintro ⟨⟨place, heq, hread⟩, hearlier⟩
            cases before with
            | nil =>
                rw [heq, List.nil_append, hread] at hhere
                cases hhere
            | cons d before =>
                rcases List.cons.inj heq with ⟨rfl, htail⟩
                refine ⟨before, a, ih.2 ⟨⟨place, htail, hread⟩, ?_⟩, rfl, rfl⟩
                intro earlier place' heq' hlength
                exact hearlier (c :: earlier) place' (congrArg (c :: ·) heq')
                  (Nat.succ_lt_succ hlength)

/-- A reader succeeds somewhere if it succeeds at some place of the text. -/
theorem matchesSomewhere_iff {α : Type} {read? : List Char → Option α} {s : List Char} :
    matchesSomewhere read? s = true ↔ ∃ place, place <:+ s ∧ (read? place).isSome = true := by
  rw [matchesSomewhere, Option.isSome_iff_ne_none, Ne, search_eq_none_iff]
  simp [Option.isSome_iff_ne_none]

/-! ## Where a fragment occurs -/

/-- A fragment occurs in a text if it stands in it as one piece. -/
theorem occurs_iff {fragment s : List Char} : occurs fragment s = true ↔ fragment <:+: s := by
  rw [occurs, matchesSomewhere_iff, List.infix_iff_prefix_suffix]
  refine exists_congr fun place => ?_
  rw [List.isSome_isPrefixOf?_eq_isPrefixOf, List.isPrefixOf_iff_prefix, and_comm]

/-- A fragment does not stand across a character that it does not have. -/
theorem not_isInfix_append_cons {fragment s t : List Char} {c : Char} (hs : ¬ fragment <:+: s)
    (hc : c ∉ fragment) (ht : ¬ fragment <:+: t) : ¬ fragment <:+: s ++ c :: t := by
  -- What begins with the character is not a beginning of the fragment, and not an end of it.
  have hback : ∀ {front back}, fragment = front ++ back → back <+: c :: t → back = [] := by
    rintro front back rfl hback
    cases back with
    | nil => rfl
    | cons d back =>
        rw [(List.cons_prefix_cons.1 hback).1] at hc
        exact absurd (List.mem_append_right _ (List.mem_cons_self ..)) hc
  intro h
  rcases List.infix_append_iff.1 h with h | h | ⟨front, back, hfragment, hfront, hstarts⟩
  · exact hs h
  · rcases List.infix_cons_iff.1 h with h | h
    · rw [hback (List.nil_append fragment).symm h] at hs
      exact hs List.nil_infix
    · exact ht h
  · rw [hback hfragment hstarts, List.append_nil] at hfragment
    exact hs (hfragment ▸ hfront.isInfix)

theorem not_isInfix_append {fragment s t : List Char} (hs : ¬ fragment <:+: s)
    (ht : ∀ c ∈ t, c ∉ fragment) : ¬ fragment <:+: s ++ t := by
  induction t generalizing s with
  | nil => rwa [List.append_nil]
  | cons c t ih =>
      rw [List.forall_mem_cons] at ht
      have hnil : ¬ fragment <:+: [] := fun h => hs (h.trans List.nil_infix)
      have hconcat := ih (not_isInfix_append_cons hs ht.1 hnil) ht.2
      rwa [List.append_assoc, List.singleton_append] at hconcat

/-- A fragment whose first character is not repeated in it. -/
def IsMark (mark : List Char) : Prop :=
  ∃ first tail, mark = first :: tail ∧ first ∉ tail

/-- Where a mark has been written it begins at no earlier place, unless it occurs before. -/
theorem IsMark.length_le {mark front after before rest : List Char} (hmark : IsMark mark)
    (hfront : ¬ mark <:+: front) (heq : front ++ (mark ++ after) = before ++ (mark ++ rest)) :
    front.length ≤ before.length := by
  rcases List.append_eq_append_iff.1 heq with ⟨gap, rfl, -⟩ | ⟨gap, rfl, hgap⟩
  · simp
  · cases gap with
    | nil => simp
    | cons c gap =>
        refine absurd ?_ hfront
        rcases List.append_eq_append_iff.1 hgap with ⟨inner, hinner, -⟩ | ⟨inner, hinner, hafter⟩
        · rw [hinner]
          have hinside : mark <:+: mark ++ inner := (List.prefix_append mark inner).isInfix
          exact hinside.trans (List.suffix_append before _).isInfix
        · cases inner with
          | nil =>
              rw [List.append_nil] at hinner
              exact hinner ▸ (List.suffix_append before _).isInfix
          | cons d inner =>
              -- The two occurrences overlap, so the mark has its first character twice.
              rcases hmark with ⟨first, tail, hfirst, hnot⟩
              have hd : first = d := by
                rw [hfirst] at hafter
                exact (List.cons.inj hafter).1
              have htail : tail = gap ++ d :: inner := (List.cons.inj (hfirst.symm.trans hinner)).2
              exact absurd (by simp [htail, hd]) hnot

end Text
end ComponentSpec

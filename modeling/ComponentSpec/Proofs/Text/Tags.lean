import ComponentSpec.Text.Scan

/-!
# Tags in a text

A tag is what stands between an opening angle bracket and the next closing one.  A text with tags is
read from left to right as a list of parts: its tags, and the characters outside of them.  A bracket
that is never closed is a character like others.

Tags are properly nested if each closing tag closes the last one that is still open, and none stays
open at the end.

Main statements: how the parts of a text are found when it begins without a bracket
(`markupParts_append`) or with a tag (`markupParts_tag`).
-/

namespace ComponentSpec
namespace Text

/-- A character outside of all tags, or a tag without its brackets. -/
inductive MarkupPart
  | char (c : Char)
  | tag (inside : List Char)
  deriving DecidableEq, Repr

namespace MarkupPart

/-- The character that the part is. -/
def char? : MarkupPart → Option Char
  | char c => some c
  | tag _ => none

/-- The tag that the part is. -/
def tag? : MarkupPart → Option (List Char)
  | char _ => none
  | tag inside => some inside

end MarkupPart

/-- The parts of a text in order. -/
def markupParts : List Char → List MarkupPart
  | [] => []
  | c :: rest =>
      if c == '<' then
        match _ : cut? '>' rest with
        | some (inside, after) => .tag inside :: markupParts after
        | none => .char c :: markupParts rest
      else .char c :: markupParts rest
termination_by s => s.length
decreasing_by
  · have hlength := length_of_cut? ‹_›
    rw [List.length_cons]
    omega
  · exact Nat.lt_succ_self _
  · exact Nat.lt_succ_self _

/-- The text with all its tags deleted. -/
def withoutTags (s : List Char) : List Char :=
  (markupParts s).filterMap MarkupPart.char?

/-- The tags of a text in order. -/
def tagsIn (s : List Char) : List (List Char) :=
  (markupParts s).filterMap MarkupPart.tag?

theorem markupParts_append {s : List Char} (hs : '<' ∉ s) (rest : List Char) :
    markupParts (s ++ rest) = s.map .char ++ markupParts rest := by
  induction s with
  | nil => rfl
  | cons c s ih =>
      rw [List.mem_cons, not_or] at hs
      have hc : (c == '<') = false := beq_eq_false_iff_ne.2 (Ne.symm hs.1)
      rw [List.cons_append, markupParts, hc, ih hs.2]
      rfl

theorem markupParts_tag {inside : List Char} (hinside : '>' ∉ inside) (rest : List Char) :
    markupParts ('<' :: (inside ++ '>' :: rest)) = .tag inside :: markupParts rest := by
  have hcut := cut?_append hinside rest
  rw [markupParts, beq_self_eq_true, if_pos rfl]
  split
  · rename_i found after hfound
    rw [hcut] at hfound
    cases hfound
    rfl
  · rename_i hnone
    rw [hcut] at hnone
    cases hnone

/-! ## Nesting -/

/-- The name in a closing tag. -/
def closingName? : List Char → Option (List Char)
  | '/' :: name => some name
  | _ => none

/-- Whether a tag is no closing one. -/
def isOpeningTag (tag : List Char) : Bool :=
  (closingName? tag).isNone

/-- The opening tags of a text in order. -/
def openingTagsIn (s : List Char) : List (List Char) :=
  (tagsIn s).filter isOpeningTag

/-- Whether an opening tag has this name, alone or before a space and attributes. -/
def isNamed (name opening : List Char) : Bool :=
  opening == name || (name ++ [' ']).isPrefixOf opening

/-- Whether tags are properly nested after the tags that are still open, the last one first. -/
def nestedAfter : List (List Char) → List (List Char) → Bool
  | stillOpen, [] => stillOpen.isEmpty
  | stillOpen, tag :: rest =>
      match closingName? tag, stillOpen with
      | none, _ => nestedAfter (tag :: stillOpen) rest
      | some name, last :: outer => isNamed name last && nestedAfter outer rest
      | some _, [] => false

/-- Whether the opening and closing tags of a text are properly nested. -/
def isProperlyNested (s : List Char) : Bool :=
  nestedAfter [] (tagsIn s)

variable {stillOpen rest : List (List Char)} {tag name : List Char}

theorem closingName?_eq_none_iff : closingName? tag = none ↔ tag.head? ≠ some '/' := by
  cases tag with
  | nil => exact iff_of_true rfl nofun
  | cons c tag =>
      by_cases hc : c = '/'
      · rw [hc]
        exact iff_of_false nofun fun h => h rfl
      · simp [closingName?, hc]

theorem nestedAfter_opening (htag : closingName? tag = none) :
    nestedAfter stillOpen (tag :: rest) = nestedAfter (tag :: stillOpen) rest := by
  simp only [nestedAfter, htag]

theorem nestedAfter_closing (hname : isNamed name tag = true) :
    nestedAfter (tag :: stillOpen) (('/' :: name) :: rest) = nestedAfter stillOpen rest := by
  simp only [nestedAfter, closingName?, hname, Bool.true_and]

example : isProperlyNested "<p class=\"a\">x<b>y</b></p>".toList = true := by cbv

example : isProperlyNested "<p><b></p></b>".toList = false := by cbv

end Text
end ComponentSpec

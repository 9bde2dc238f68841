import ComponentSpec.Proofs.Spec.Layout

/-!
# What a body says

Blank lines and comments say nothing, wherever they stand and however they are indented.  A block of
rules or properties is read from what is left of its lines after trimming.  The entries of other
blocks also depend on indentation, and the body of the block is measured from its first line; below
any line that is not blank, blank lines and comments may come and go.

Main statements: a reader of trimmed lines reads what the body says (`foldl_significantLines`), the
entries of a body are read from the state after its first lines (`readBody_of_lines`), and the laws
of the layout (`layoutLaws`).
-/

namespace ComponentSpec
namespace Spec

open Text

/-! ## Lines with something to say -/

/-- The trimmed lines of a body that are neither blank nor comments. -/
def content (body : List Char) : List (List Char) :=
  ((lines body).filter isSignificant).map trim

example : content " \n a: 1\t\n\n  # b: 2\n    c".toList = ["a: 1".toList, ['c']] := by decide

/-- The lines of a text with some of them written anew, as `rewritten` allows, and with blank lines
and comments among them. -/
inductive Spaced (rewritten : List Char → List Char → Prop) :
    List (List Char) → List (List Char) → Prop
  | nil : Spaced rewritten [] []
  | keep {line other : List Char} {given others : List (List Char)}
      (hline : rewritten line other) (hrest : Spaced rewritten given others) :
      Spaced rewritten (line :: given) (other :: others)
  | add {line : List Char} {given others : List (List Char)}
      (hline : isSignificant line = false) (hrest : Spaced rewritten given others) :
      Spaced rewritten given (line :: others)

/-- What is read off each line is the same, if it is the same for each line that was kept. -/
theorem Spaced.map_filter_eq {α : Type} {rewritten : List Char → List Char → Prop}
    {view : List Char → α}
    (hview : ∀ line other, rewritten line other →
      isSignificant line = isSignificant other ∧ view line = view other)
    {given others : List (List Char)} (h : Spaced rewritten given others) :
    (given.filter isSignificant).map view = (others.filter isSignificant).map view := by
  induction h with
  | nil => rfl
  | keep hline _ ih =>
      rcases hview _ _ hline with ⟨hsignificant, hsame⟩
      rw [List.filter_cons, List.filter_cons, hsignificant]
      split
      · rw [List.map_cons, List.map_cons, hsame, ih]
      · exact ih
  | add hline _ ih => rw [ih, List.filter_cons_of_neg (Bool.eq_false_iff.1 hline)]

/-- Two lines differ in their indentation only. -/
def SameText (line other : List Char) : Prop :=
  trimLeft line = trimLeft other

theorem content_of_spaced {body other : List Char}
    (h : Spaced SameText (lines body) (lines other)) : content body = content other := by
  refine h.map_filter_eq fun line other (hsame : trimLeft line = trimLeft other) => ⟨?_, ?_⟩
  · rw [← isSignificant_trimLeft line, hsame, isSignificant_trimLeft]
  · rw [← trim_trimLeft line, hsame, trim_trimLeft]

theorem filter_of_spaced {given others : List (List Char)} (h : Spaced Eq given others) :
    given.filter isSignificant = others.filter isSignificant := by
  have hsame : (given.filter isSignificant).map id = (others.filter isSignificant).map id :=
    h.map_filter_eq fun _ _ heq => ⟨congrArg isSignificant heq, heq⟩
  simpa using hsame

/-! ## Readers of trimmed lines -/

/-- A reader of lines to which the blanks around a line are nothing. -/
def ReadsText {σ : Type} (readLine : σ → List Char → σ) : Prop :=
  ∀ st line, readLine st (trim line) = readLine st line

theorem map_trim_outdentFirst (given : List (List Char)) :
    ((outdentFirst given).filter isSignificant).map trim =
      (given.filter isSignificant).map trim := by
  cases given with
  | nil => rfl
  | cons first others =>
      rw [outdentFirst, List.filter_cons, List.filter_cons, isSignificant_trimLeft]
      split
      · rw [List.map_cons, List.map_cons, trim_trimLeft]
      · rfl

/-- What is left of the lines after trimming does not depend on where the body is trimmed. -/
theorem map_trim_significantLines (body : List Char) :
    (significantLines body).map trim = content body := by
  -- A reader that keeps what it is given shows what every reader is given.
  have hcollects : ReadsContent fun (texts : List (List Char)) line => texts ++ [trim line] :=
    fun texts _ _ htrim _ => congrArg (fun text => texts ++ [text]) htrim
  have hcollected : ∀ given : List (List Char),
      given.foldl (fun texts line => texts ++ [trim line]) [] = given.map trim := by
    intro given
    rw [List.foldl_append_eq_append, List.nil_append, ← List.flatMap_def, ← List.map_eq_flatMap]
  have hlines := foldl_significantLines_eq hcollects body []
  rw [hcollected, hcollected] at hlines
  rw [hlines, map_trim_outdentFirst, filter_isSignificant_filledLines, content]

/-- A reader of trimmed lines reads what the body says and nothing else. -/
theorem foldl_significantLines {σ : Type} {readLine : σ → List Char → σ} (h : ReadsText readLine)
    (body : List Char) (st : σ) :
    (significantLines body).foldl readLine st = (content body).foldl readLine st := by
  have htrim : readLine = fun st line => readLine st (trim line) := by
    funext st line
    exact (h st line).symm
  rw [← map_trim_significantLines, List.foldl_map, ← htrim]

theorem foldl_significantLines_congr {σ : Type} {readLine : σ → List Char → σ}
    (h : ReadsText readLine) {body other : List Char} (hcontent : content body = content other)
    (st : σ) :
    (significantLines body).foldl readLine st = (significantLines other).foldl readLine st := by
  rw [foldl_significantLines h, foldl_significantLines h, hcontent]

theorem readsText_readRule : ReadsText readRule := by
  intro rules line
  rw [readRule, readRule, namedValue?, namedValue?, trim_trim]

theorem readRules_eq_foldl (body : List Char) :
    readRules body = (content body).foldl readRule [] :=
  foldl_significantLines readsText_readRule body []

theorem readProperties_of_content {body other : List Char} (h : content body = content other) :
    readProperties body = readProperties other := by
  refine foldl_significantLines_congr ?_ h []
  intro properties line
  dsimp only
  rw [trim_trim]

/-! ## The state after the first lines -/

/-- The state after the first lines of a body. -/
def stateAfter (before : List (List Char)) : BodyState :=
  ((outdentFirst (before.filter isFilled)).filter isSignificant).foldl BodyState.readLine {}

/-- Below a line that is not blank, the lines of a body are read as they are. -/
theorem readBody_of_lines {body : List Char} {before after : List (List Char)}
    (hbody : lines body = before ++ after) (hfirst : ∃ line ∈ before, isFilled line = true) :
    readBody body =
      ((after.filter isSignificant).foldl BodyState.readLine (stateAfter before)).entries := by
  -- Trimming reaches no further than the first line that is not blank.
  have hne : before.filter isFilled ≠ [] := by
    rcases hfirst with ⟨line, hmem, hline⟩
    exact List.ne_nil_of_mem (List.mem_filter.2 ⟨hmem, hline⟩)
  rcases List.exists_cons_of_ne_nil hne with ⟨first, others, hbefore⟩
  have hafter : (after.filter isFilled).filter isSignificant = after.filter isSignificant :=
    filter_isSignificant_filter_isFilled after
  rw [readBody_eq, filledLines, hbody, List.filter_append, stateAfter, hbefore, List.cons_append,
    outdentFirst, outdentFirst, ← List.cons_append, List.filter_append, hafter, List.foldl_append]

theorem readBody_of_spaced {body other : List Char} {before given others : List (List Char)}
    (hbody : lines body = before ++ given) (hother : lines other = before ++ others)
    (hfirst : ∃ line ∈ before, isFilled line = true) (h : Spaced Eq given others) :
    readBody body = readBody other := by
  rw [readBody_of_lines hbody hfirst, readBody_of_lines hother hfirst, filter_of_spaced h]

/-! ## Layout -/

/-- The laws of the layout of bodies. -/
structure LayoutLaws : Prop where
  /-- Bodies that say the same have the same rules and the same properties. -/
  said : ∀ body other, content body = content other →
    readRules body = readRules other ∧ readProperties body = readProperties other
  /-- Indentation, blank lines and comments say nothing. -/
  unsaid : ∀ body other, Spaced SameText (lines body) (lines other) →
    content body = content other ∧
      readRules body = readRules other ∧ readProperties body = readProperties other
  /-- Below a line that is not blank, blank lines and comments change no entry. -/
  below : ∀ body other before given others, lines body = before ++ given →
    lines other = before ++ others → (∃ line ∈ before, isFilled line = true) →
    Spaced Eq given others → readBody body = readBody other

theorem layoutLaws : LayoutLaws := by
  have hsaid : ∀ body other, content body = content other →
      readRules body = readRules other ∧ readProperties body = readProperties other := by
    intro body other h
    exact ⟨foldl_significantLines_congr readsText_readRule h [], readProperties_of_content h⟩
  refine ⟨hsaid, fun body other h => ?_, fun body other before given others hbody hother => ?_⟩
  · exact ⟨content_of_spaced h, hsaid body other (content_of_spaced h)⟩
  · exact readBody_of_spaced hbody hother

/-- Also between a name that waits and the lines below it. -/
theorem layoutLaws_states :
    let given := ["  hover: 1".toList, "role: x".toList]
    let others := ["      # focus: 2".toList, [], "  hover: 1".toList, ['\t'], "role: x".toList]
    (∃ line ∈ ["states:".toList], isFilled line = true) ∧ Spaced Eq given others ∧
      readBody "states:\n  hover: 1\nrole: x".toList =
        readBody "states:\n      # focus: 2\n\n  hover: 1\n\t\nrole: x".toList := by
  have hspaced : Spaced Eq ["  hover: 1".toList, "role: x".toList]
      ["      # focus: 2".toList, [], "  hover: 1".toList, ['\t'], "role: x".toList] :=
    .add (by decide) (.add (by decide) (.keep rfl (.add (by decide) (.keep rfl .nil))))
  refine ⟨by decide, hspaced, ?_⟩
  exact layoutLaws.below _ _ ["states:".toList] _ _ (by decide) (by decide) (by decide) hspaced

end Spec
end ComponentSpec

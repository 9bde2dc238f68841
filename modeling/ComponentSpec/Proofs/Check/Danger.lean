import ComponentSpec.Check.Security
import ComponentSpec.Proofs.Element.Descendants
import ComponentSpec.Proofs.Text.Occurrence
import ComponentSpec.Proofs.Text.Pattern
import Mathlib.Data.List.Forall2

/-!
# Dangerous content in the tree

The scanners for dangerous markup find exactly what six patterns spell.  What occurs in a text
occurs in every text around it, so nothing put before or after dangerous content hides it.

The check reads the markup and the text of one element.  As the text of an element contains those of
all its descendants, and its markup those that no given markup stands in front of, dangerous content
cannot hide below it either.

Main statements: each form of danger is found where its pattern stands (`forall₂_finds`), when the
check passes (`passed_xss_iff`), and dangerous content fails it wherever it stands in the tree
(`treeDangerLaws`).
-/

namespace ComponentSpec
namespace Check

open Text Element

/-! ## The patterns -/

/-- What follows the keyword of a tag, up to its end. -/
def tagEnd : Pattern := [.any (.other '>'), .letter '>']

/-- A mark behind blanks. -/
def markAfterBlanks (mark : Char) : Pattern := [.any .blank, .letter mark]

/-- The name of an event and the equals sign after it. -/
def eventSetting : Pattern := .many .word :: markAfterBlanks '='

/-- The patterns of dangerous markup. -/
def dangerousPatterns : List Pattern := [
  Pattern.letters "<script".toList ++ tagEnd,
  Pattern.letters "javascript:".toList,
  Pattern.letters "on".toList ++ eventSetting,
  Pattern.letters "<iframe".toList ++ tagEnd,
  Pattern.letters "eval".toList ++ markAfterBlanks '(',
  Pattern.letters "document.write".toList]

/-- The form of danger is shown as the pattern is written, and found where the pattern stands. -/
structure Danger.Finds (danger : Danger) (pattern : Pattern) : Prop where
  shown : danger.shown = pattern.shown
  standsAt : ∀ place, danger.standsAt place = true ↔ pattern.Stands place

/-- A keyword alone is found by dropping it. -/
theorem isSome_dropKeyword?_iff_letters {keyword place : List Char} :
    (dropKeyword? keyword place).isSome = true ↔ (Pattern.letters keyword).Stands place := by
  rw [← List.append_nil (Pattern.letters keyword), Pattern.stands_letters_iff]
  simp [Option.isSome_iff_exists]

theorem head?_dropWhile_other_iff {mark : Char} {s : List Char} :
    (s.dropWhile (CharClass.other mark).has).head? = some mark ↔ mark ∈ s := by
  induction s with
  | nil => exact iff_of_false nofun List.not_mem_nil
  | cons c s ih =>
      by_cases hc : c = mark
      · simp [CharClass.has, hc]
      · have hskip : (CharClass.other mark).has c = true := bne_iff_ne.2 hc
        rw [List.dropWhile_cons_of_pos hskip, ih, List.mem_cons, or_iff_right (Ne.symm hc)]

theorem stands_tagEnd_iff {s : List Char} : tagEnd.Stands s ↔ s.contains '>' = true := by
  have hend : ∀ c, (CharClass.other '>').has c = true → ¬ Pattern.Begins [.letter '>'] c := by
    intro c hc h
    exact bne_iff_ne.1 hc (eq_of_letterOf (by decide) h)
  rw [tagEnd, Pattern.stands_any_iff hend, Pattern.stands_mark_iff (by decide) (by decide),
    head?_dropWhile_other_iff, List.contains_iff_mem]

/-- A mark that is no blank is found behind the blanks before it. -/
theorem stands_markAfterBlanks_iff {mark : Char} (hlow : mark.toNat < 'A'.toNat)
    (hsame : letterOf mark = mark) (hmark : isBlank mark = false) {s : List Char} :
    (markAfterBlanks mark).Stands s ↔ (trimLeft s).head? = some mark := by
  have hend : ∀ c, CharClass.blank.has c = true → ¬ Pattern.Begins [.letter mark] c := by
    intro c hc h
    rw [eq_of_letterOf hlow h] at hc
    exact absurd hc (Bool.eq_false_iff.1 hmark)
  rw [markAfterBlanks, Pattern.stands_any_iff hend, Pattern.stands_mark_iff hlow hsame]
  rfl

theorem stands_eventSetting_iff {s : List Char} :
    eventSetting.Stands s ↔
      s.takeWhile isWord ≠ [] ∧ (trimLeft (s.dropWhile isWord)).head? = some '=' := by
  -- The name of an event ends before a blank or an equals sign.
  have hend : ∀ c, CharClass.word.has c = true → ¬ (markAfterBlanks '=').Begins c := by
    rintro c hc (hblank | hequals)
    · exact absurd hc (Bool.eq_false_iff.1 (isWord_of_isBlank hblank))
    · rw [eq_of_letterOf (by decide) hequals] at hc
      exact absurd hc (by decide)
  rw [eventSetting, Pattern.stands_many_iff hend,
    stands_markAfterBlanks_iff (by decide) (by decide) (by decide)]
  rfl

theorem tagAt_iff {keyword : String} {place : List Char} :
    tagAt keyword place = true ↔ (Pattern.letters keyword.toList ++ tagEnd).Stands place := by
  simp only [Pattern.stands_letters_iff, stands_tagEnd_iff, tagAt]
  cases dropKeyword? keyword.toList place <;> simp

theorem handlerAt_iff {place : List Char} :
    handlerAt place = true ↔ (Pattern.letters "on".toList ++ eventSetting).Stands place := by
  simp only [Pattern.stands_letters_iff, stands_eventSetting_iff, handlerAt]
  cases dropKeyword? "on".toList place <;> simp

theorem evaluationAt_iff {place : List Char} :
    evaluationAt place = true ↔
      (Pattern.letters "eval".toList ++ markAfterBlanks '(').Stands place := by
  have hcall : ∀ {s}, (markAfterBlanks '(').Stands s ↔ (trimLeft s).head? = some '(' :=
    stands_markAfterBlanks_iff (by decide) (by decide) (by decide)
  simp only [Pattern.stands_letters_iff, hcall, evaluationAt]
  cases dropKeyword? "eval".toList place <;> simp

/-- The scanners find exactly what the patterns spell, form by form. -/
theorem forall₂_finds : List.Forall₂ Danger.Finds dangers dangerousPatterns :=
  .cons ⟨by decide, fun _ => tagAt_iff⟩ <|
  .cons ⟨by decide, fun _ => isSome_dropKeyword?_iff_letters⟩ <|
  .cons ⟨by decide, fun _ => handlerAt_iff⟩ <|
  .cons ⟨by decide, fun _ => tagAt_iff⟩ <|
  .cons ⟨by decide, fun _ => evaluationAt_iff⟩ <|
  .cons ⟨by decide, fun _ => isSome_dropKeyword?_iff_letters⟩ .nil

/-! ## Dangerous texts -/

/-- Something dangerous occurs in the text. -/
def IsDangerous (s : String) : Prop :=
  ∃ pattern ∈ dangerousPatterns, pattern.Occurs s.toList

theorem IsDangerous.mono {s t : String} (h : IsDangerous s) (hst : s.toList <:+: t.toList) :
    IsDangerous t := by
  rcases h with ⟨pattern, hpattern, hoccurs⟩
  exact ⟨pattern, hpattern, hoccurs.mono hst⟩

theorem Danger.occursIn_iff {danger : Danger} {s : String} :
    danger.occursIn s = true ↔ ∃ place, place <:+ s.toList ∧ danger.standsAt place = true := by
  rw [Danger.occursIn, matchesSomewhere_iff]
  simp

theorem Danger.Finds.occursIn_iff {danger : Danger} {pattern : Pattern}
    (h : danger.Finds pattern) {s : String} :
    danger.occursIn s = true ↔ pattern.Occurs s.toList := by
  rw [Danger.occursIn_iff, Pattern.occurs_iff_stands]
  simp only [h.standsAt]

theorem exists_occursIn_iff {forms : List Danger} {patterns : List Pattern}
    (h : List.Forall₂ Danger.Finds forms patterns) {s : String} :
    (∃ danger ∈ forms, danger.occursIn s = true) ↔
      ∃ pattern ∈ patterns, pattern.Occurs s.toList := by
  induction h with
  | nil => simp
  | cons hfirst _ ih =>
      rw [List.exists_mem_cons_iff, List.exists_mem_cons_iff, hfirst.occursIn_iff, ih]

theorem isDangerous_iff {s : String} :
    IsDangerous s ↔ ∃ danger ∈ dangers, danger.occursIn s = true :=
  (exists_occursIn_iff forall₂_finds).symm

/-! ## The check -/

/-- Whether the element asks for markup to be injected as it is. -/
def isUnescaped (e : Element) : Bool :=
  (e.own.props.get? "dangerouslySetInnerHTML").any Datum.holds

theorem passed_xss {e : Element} {rule : Datum} :
    (xss e rule).passed =
      (!(dangers.any fun danger =>
        danger.occursIn e.innerMarkup || danger.occursIn e.textContent) && !isUnescaped e) := by
  unfold xss isUnescaped
  cases e.own.props.get? "dangerouslySetInnerHTML" <;> rfl

/-- The check passes when neither the markup nor the text of the element is dangerous, and no markup
is injected as it is. -/
theorem passed_xss_iff {e : Element} {rule : Datum} :
    (xss e rule).passed = true ↔
      ¬ IsDangerous e.innerMarkup ∧ ¬ IsDangerous e.textContent ∧ isUnescaped e = false := by
  have hdangerous : (dangers.any fun danger =>
      danger.occursIn e.innerMarkup || danger.occursIn e.textContent) = true ↔
      IsDangerous e.innerMarkup ∨ IsDangerous e.textContent := by
    simp only [isDangerous_iff, List.any_eq_true, Bool.or_eq_true, and_or_left, exists_or]
  rw [passed_xss, Bool.and_eq_true, Bool.not_eq_true', Bool.not_eq_true', ← Bool.not_eq_true,
    hdangerous, not_or, and_assoc]

/-- What the check passes, and what it does not let hide in the tree. -/
structure TreeDangerLaws (e : Element) (rule : Datum) : Prop where
  passed : (xss e rule).passed = true ↔
    ¬ IsDangerous e.innerMarkup ∧ ¬ IsDangerous e.textContent ∧ isUnescaped e = false
  /-- The text of a descendant is read, whatever markup was given. -/
  text : ∀ d ∈ e.descendants, IsDangerous d.textContent → (xss e rule).passed = false
  /-- The markup of a descendant is read if none was given for an element on the way to it. -/
  markup : ∀ d, Below IsOpen d e → IsDangerous d.outerMarkup → (xss e rule).passed = false

theorem treeDangerLaws (e : Element) (rule : Datum) : TreeDangerLaws e rule where
  passed := passed_xss_iff
  text := by
    intro d hd hdanger
    have hbelow := below_iff_mem_descendants.2 hd
    have htext : IsDangerous e.textContent := hdanger.mono (textContent_isInfix_of_below hbelow)
    apply Bool.eq_false_iff.2
    intro hpassed
    exact (passed_xss_iff.1 hpassed).2.1 htext
  markup := by
    intro d hbelow hdanger
    have hmarkup : IsDangerous e.innerMarkup := hdanger.mono (outerMarkup_isInfix_of_below hbelow)
    apply Bool.eq_false_iff.2
    intro hpassed
    exact (passed_xss_iff.1 hpassed).1 hmarkup

/-- Given markup stands in front of what is below it. -/
example :
    (xss (.node { html := some "" } [.node { attributes := [("onclick", "run()")] } []])
      .null).passed = true := by
  decide

end Check
end ComponentSpec

import ComponentSpec.Proofs.Spec.Annotations
import ComponentSpec.Proofs.Text.Fragment

/-!
# Lines of requirements

The line of a requirement is written as a mark, a text, and after it a hint, a severity, both in
either order, or neither.  The text has neither of the two marks, so nothing of it is taken for an
annotation, and what is taken out leaves no mark behind: the blanks and brackets between two
annotations are no part of a mark.

Main statements: an annotation after a text is found and taken out (`exists_isFirst_trim`), and a
line is read as the requirement that was written (`readRequirement_line`).
-/

namespace ComponentSpec

namespace Spec

open Text

/-! ## One annotation after a text -/

/-- An annotation as it is written, with the text after it. -/
def annotated (mark content after : List Char) : List Char :=
  '[' :: (mark ++ (content ++ ']' :: after))

theorem annotated_append (mark content after : List Char) :
    annotated mark content [] ++ after = annotated mark content after := by
  simp [annotated]

section

variable {mark front content : List Char}

theorem not_isInfix_append_blanks {blanks : List Char} (hblanks : ∀ c ∈ blanks, isBlank c = true)
    (hmark : ∀ c ∈ mark, isBlank c = false) (hfront : ¬ mark <:+: front) :
    ¬ mark <:+: front ++ blanks := by
  refine not_isInfix_append hfront fun c hc hmem => ?_
  have hblank := hblanks c hc
  rw [hmark c hmem] at hblank
  cases hblank

theorem isEmpty_of_not_isInfix {s : List Char} (h : ¬ mark <:+: s) :
    IsEmpty (AnnotationIn mark s) :=
  ⟨fun a => h ⟨a.before ++ a.opening, a.content ++ ']' :: a.after, by
    rw [List.append_assoc, ← a.text_eq]⟩⟩

/-- After a text without the mark, the first annotation is the one that was written there, and
without it the text and what comes after it remain. -/
theorem exists_isFirst_trim (after : List Char) (hmark : IsMark mark) (hopening : '[' ∉ mark)
    (hfront : ¬ mark <:+: front) (hcontent : content ≠ []) (hbracket : ']' ∉ content) :
    ∃ a : AnnotationIn mark (trim (front ++ annotated mark content after)),
      a.IsFirst ∧ a.content = content ∧ a.without = trim (front ++ after) := by
  have htext : trim (front ++ annotated mark content after) =
      (trimLeft front ++ ['[']) ++ (mark ++ (content ++ ']' :: trimRight after)) := by
    have hright : trimRight ((mark ++ content) ++ ']' :: after) =
        (mark ++ content) ++ ']' :: trimRight after :=
      trimRight_append_cons (by decide) _ _
    rw [List.append_assoc, List.append_assoc] at hright
    rw [annotated, trim_append_cons (by decide), hright, List.append_assoc, List.singleton_append]
  refine ⟨⟨trimLeft front, ['['], content, trimRight after, htext, .inl rfl, hcontent, hbracket⟩,
    fun b => ?_, rfl, ?_⟩
  · have hclear : ¬ mark <:+: trimLeft front ++ ['['] := by
      refine not_isInfix_append (fun h => hfront (h.trans (trimLeft_isInfix front))) ?_
      exact List.forall_mem_singleton.2 hopening
    exact hmark.length_le hclear (htext.symm.trans b.text_eq)
  · rw [AnnotationIn.without, trim_trimLeft_append, trim_append_trimRight]

end

theorem isBlank_hintMark : ∀ c ∈ hintMark, isBlank c = false := by
  have hall : hintMark.all (fun c => !isBlank c) = true := by decide
  simpa using hall

theorem isBlank_severityMark : ∀ c ∈ severityMark, isBlank c = false := by
  have hall : severityMark.all (fun c => !isBlank c) = true := by decide
  simpa using hall

/-- The mark of a hint does not occur where the mark of a severity has been written. -/
theorem hintMark_not_isInfix_severityMark {rest : List Char} (hrest : '@' ∉ rest) :
    ¬ hintMark <:+: severityMark ++ rest := by
  intro h
  rcases List.infix_cons_iff.1 h with ⟨t, ht⟩ | htail
  · cases (List.cons.inj (List.cons.inj ht).2).1
  · have hmem : '@' ∈ "severity:".toList ++ rest := htail.subset (by decide)
    rcases List.mem_append.1 hmem with hword | hmem
    · exact absurd hword (by decide)
    · exact hrest hmem

theorem takesHint_trim {front content : List Char} (after : List Char)
    (hfront : ¬ hintMark <:+: front) (hcontent : content ≠ []) (hbracket : ']' ∉ content) :
    TakesHint (trim (front ++ annotated hintMark content after))
      (some (String.ofList (trim content))) (trim (front ++ after)) := by
  rcases exists_isFirst_trim after isMark_hintMark (by decide) hfront hcontent hbracket
    with ⟨a, hfirst, hsame, hwithout⟩
  have htaken := TakesHint.taken a hfirst
  rwa [hsame, hwithout] at htaken

theorem takeSeverity_trim {front blanks after : List Char} (hfront : ¬ severityMark <:+: front)
    (hblanks : ∀ c ∈ blanks, isBlank c = true) (v : Severity) :
    takeSeverity (trim (front ++ annotated severityMark (blanks ++ v.word.toList) after)) =
      (v, trim (front ++ after)) := by
  have hcontent : blanks ++ v.word.toList ≠ [] := by cases v <;> simp [Severity.word]
  have hbracket : ']' ∉ blanks ++ v.word.toList := by
    rw [List.mem_append, not_or]
    refine ⟨fun h => absurd (hblanks _ h) (by decide), ?_⟩
    cases v <;> decide
  rcases exists_isFirst_trim after isMark_severityMark (by decide) hfront hcontent
    hbracket with ⟨a, hfirst, hnames, hwithout⟩
  have hused : a.IsUsed v := ⟨⟨blanks, hblanks, hnames⟩, fun b _ _ => hfirst b⟩
  rw [takeSeverity_of_isUsed hused hfirst, hwithout]

/-! ## Requirements as they are written -/

/-- A requirement with the blanks around the parts of its line. -/
structure WrittenRequirement where
  text : List Char
  hint : Option (List Char) := none
  severity : Option Severity := none
  severityFirst : Bool := false
  beforeText : List Char := [' ']
  beforeHint : List Char := [' ']
  insideHint : List Char := [' ']
  beforeSeverity : List Char := [' ']
  insideSeverity : List Char := [' ']
  trim_text : trim text = text := by decide
  hintMark_not_isInfix : ¬ hintMark <:+: text := by decide +kernel
  severityMark_not_isInfix : ¬ severityMark <:+: text := by decide +kernel
  isRule_hint : ∀ rule ∈ hint, rule ≠ [] ∧ trim rule = rule ∧ ']' ∉ rule := by decide
  isBlank_beforeText : ∀ c ∈ beforeText, isBlank c = true := by
    exact List.all_eq_true.1 (by decide)
  isBlank_beforeHint : ∀ c ∈ beforeHint, isBlank c = true := by
    exact List.all_eq_true.1 (by decide)
  isBlank_insideHint : ∀ c ∈ insideHint, isBlank c = true := by
    exact List.all_eq_true.1 (by decide)
  isBlank_beforeSeverity : ∀ c ∈ beforeSeverity, isBlank c = true := by
    exact List.all_eq_true.1 (by decide)
  isBlank_insideSeverity : ∀ c ∈ insideSeverity, isBlank c = true := by
    exact List.all_eq_true.1 (by decide)

namespace WrittenRequirement

variable (r : WrittenRequirement)

def hintText : List Char :=
  match r.hint with
  | none => []
  | some rule => r.beforeHint ++ annotated hintMark (r.insideHint ++ rule) []

def severityText : List Char :=
  match r.severity with
  | none => []
  | some v => r.beforeSeverity ++ annotated severityMark (r.insideSeverity ++ v.word.toList) []

def line : List Char :=
  '!' :: (r.beforeText ++ (r.text ++
    if r.severityFirst then r.severityText ++ r.hintText else r.hintText ++ r.severityText))

def requirement : Requirement where
  text := String.ofList r.text
  hint := r.hint.map String.ofList
  category := categorize r.text
  severity := r.severity.getD .error

/-- The text and the annotation of the severity have no mark of a hint. -/
theorem hintMark_not_isInfix_severityText : ¬ hintMark <:+: r.text ++ r.severityText := by
  unfold severityText
  cases hseverity : r.severity with
  | none =>
      rw [List.append_nil]
      exact r.hintMark_not_isInfix
  | some v =>
      dsimp only
      have hbefore := not_isInfix_append_blanks r.isBlank_beforeSeverity isBlank_hintMark
        r.hintMark_not_isInfix
      have hat : '@' ∉ (r.insideSeverity ++ v.word.toList) ++ [']'] := by
        simp only [List.mem_append, not_or]
        refine ⟨⟨fun h => absurd (r.isBlank_insideSeverity _ h) (by decide), ?_⟩, by decide⟩
        cases v <;> decide
      rw [← List.append_assoc, annotated]
      exact not_isInfix_append_cons hbefore (by decide) (hintMark_not_isInfix_severityMark hat)

/-- The severity is taken out of what is left without the hint. -/
theorem takeSeverity_severityText {front : List Char} (htrim : trim front = r.text)
    (hfront : ¬ severityMark <:+: front) :
    takeSeverity (trim (front ++ r.severityText)) = (r.severity.getD .error, r.text) := by
  unfold severityText
  cases hseverity : r.severity with
  | none =>
      have hempty := isEmpty_of_not_isInfix r.severityMark_not_isInfix
      rw [List.append_nil, htrim, takeSeverity_of_forall_not_names fun a => hempty.elim a,
        Option.getD_none]
  | some v =>
      dsimp only
      have hbefore := not_isInfix_append_blanks r.isBlank_beforeSeverity isBlank_severityMark hfront
      rw [← List.append_assoc, takeSeverity_trim hbefore r.isBlank_insideSeverity,
        List.append_nil, trim_append_right r.isBlank_beforeSeverity, htrim, Option.getD_some]

/-- The hint is taken out of the line, and the text is left with the annotation of the severity. -/
theorem exists_takesHint_line :
    ∃ front, trim front = r.text ∧ ¬ severityMark <:+: front ∧
      TakesHint (trim (r.line.drop 1)) (r.hint.map String.ofList)
        (trim (front ++ r.severityText)) := by
  have hclear := r.hintMark_not_isInfix_severityText
  rw [line, List.drop_succ_cons, List.drop_zero, trim_append_left r.isBlank_beforeText]
  unfold hintText
  cases hhint : r.hint with
  | none =>
      refine ⟨r.text, r.trim_text, r.severityMark_not_isInfix, ?_⟩
      have hempty := isEmpty_of_not_isInfix fun h => hclear (h.trans (trim_isInfix _))
      simpa using TakesHint.absent hempty
  | some rule =>
      rcases r.isRule_hint rule hhint with ⟨hne, htrim, hbracket⟩
      have hcontent : r.insideHint ++ rule ≠ [] := by simp [hne]
      have hclosing : ']' ∉ r.insideHint ++ rule := by
        rw [List.mem_append, not_or]
        exact ⟨fun h => absurd (r.isBlank_insideHint _ h) (by decide), hbracket⟩
      have hrule : trim (r.insideHint ++ rule) = rule := by
        rw [trim_append_left r.isBlank_insideHint, htrim]
      cases r.severityFirst with
      | true =>
          refine ⟨r.text, r.trim_text, r.severityMark_not_isInfix, ?_⟩
          have hfront := not_isInfix_append_blanks r.isBlank_beforeHint isBlank_hintMark hclear
          have htaken := takesHint_trim [] hfront hcontent hclosing
          rw [List.append_nil, trim_append_right r.isBlank_beforeHint, hrule, List.append_assoc,
            List.append_assoc] at htaken
          exact htaken
      | false =>
          have hfront := not_isInfix_append_blanks r.isBlank_beforeHint isBlank_hintMark
            r.hintMark_not_isInfix
          have htaken := takesHint_trim r.severityText hfront hcontent hclosing
          rw [hrule, ← annotated_append, List.append_assoc, ← List.append_assoc r.beforeHint]
            at htaken
          refine ⟨r.text ++ r.beforeHint, ?_, ?_, htaken⟩
          · rw [trim_append_right r.isBlank_beforeHint, r.trim_text]
          · exact not_isInfix_append_blanks r.isBlank_beforeHint isBlank_severityMark
              r.severityMark_not_isInfix

/-- A line is read as the requirement that was written on it. -/
theorem readRequirement_line : readRequirement r.line = r.requirement := by
  rcases r.exists_takesHint_line with ⟨front, htrim, hfront, hhint⟩
  rw [readRequirement_eq_of_takesHint hhint, r.takeSeverity_severityText htrim hfront, requirement]

end WrittenRequirement

example :
    ({ text := "Fits [@2x]".toList, hint := some "minSize(48)".toList
       severity := some .info, severityFirst := true } : WrittenRequirement).line =
      "! Fits [@2x] [@severity: info] [@validate: minSize(48)]".toList := by
  decide +kernel

end Spec
end ComponentSpec

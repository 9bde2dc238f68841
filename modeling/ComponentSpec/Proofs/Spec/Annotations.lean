import ComponentSpec.Proofs.Text.Occurrence
import ComponentSpec.Proofs.Text.Padding
import ComponentSpec.Spec.Requirement

/-!
# Annotations of requirements

An annotation stands anywhere in the text of a requirement: a mark, a content and a closing bracket,
and before the mark an opening bracket or none.  The hint of a requirement is the content of the
first annotation with its mark, and this annotation is taken out.  The severity is named by the
first annotation that names one; what is taken out is the first annotation with the mark of
severities, whatever its content.

So a severity annotation with another content stays as long as no severity is named.  As soon as one
is named after it, the other one goes and the one that was read stays, or both go with all that
stands between them if the other one was not closed.

Main statements: what is taken out of a text (`takeAnnotation?_of_isFirst`, `takesSeverity`), and
what this means for the lines of requirements (`readRequirement_takes`, `not_takesOutUsed`).
-/

namespace ComponentSpec
namespace Spec

open Text

/-- The mark of an annotation that names a check. -/
def hintMark : List Char := "@validate:".toList

/-- The mark of an annotation that names a severity. -/
def severityMark : List Char := "@severity:".toList

/-! ## Annotations in a text -/

/-- An annotation in a text, with what stands before and after it. -/
structure AnnotationIn (mark s : List Char) where
  before : List Char
  opening : List Char
  content : List Char
  after : List Char
  text_eq : s = (before ++ opening) ++ (mark ++ (content ++ ']' :: after)) := by decide
  opening_eq : opening = ['['] ∨ opening = [] ∧ before.getLast? ≠ some '[' := by decide
  content_ne_nil : content ≠ [] := by decide
  bracket_not_mem_content : ']' ∉ content := by decide

namespace AnnotationIn

variable {mark s : List Char}

/-- Where the mark of the annotation begins. -/
def position (a : AnnotationIn mark s) : Nat :=
  (a.before ++ a.opening).length

/-- The trimmed text without the annotation and its opening bracket. -/
def without (a : AnnotationIn mark s) : List Char :=
  trim (a.before ++ a.after)

/-- No annotation with this mark begins before. -/
def IsFirst (a : AnnotationIn mark s) : Prop :=
  ∀ b : AnnotationIn mark s, a.position ≤ b.position

/-- The content is the word of a severity, with blanks before it at most. -/
def Names (a : AnnotationIn mark s) (v : Severity) : Prop :=
  ∃ blanks, (∀ c ∈ blanks, isBlank c = true) ∧ a.content = blanks ++ v.word.toList

/-- No annotation before this one names a severity. -/
def IsUsed (a : AnnotationIn mark s) (v : Severity) : Prop :=
  a.Names v ∧ ∀ (b : AnnotationIn mark s) (w : Severity), b.Names w → a.position ≤ b.position

theorem dropOpeningBracket_eq (a : AnnotationIn mark s) :
    dropOpeningBracket (a.before ++ a.opening) = a.before := by
  rcases a.opening_eq with h | ⟨h, hlast⟩
  · simp [dropOpeningBracket, h]
  · simp [dropOpeningBracket, h, hlast]

theorem exists_of_eq {front content after : List Char}
    (heq : s = front ++ (mark ++ (content ++ ']' :: after))) (hcontent : content ≠ [])
    (hbracket : ']' ∉ content) :
    ∃ a : AnnotationIn mark s, a.before ++ a.opening = front ∧ a.content = content ∧
      a.after = after := by
  by_cases hlast : front.getLast? = some '['
  · rcases List.getLast?_eq_some_iff.1 hlast with ⟨before, hbefore⟩
    have hfront : s = (before ++ ['[']) ++ (mark ++ (content ++ ']' :: after)) := by
      rw [heq, hbefore]
    exact ⟨⟨before, ['['], content, after, hfront, .inl rfl, hcontent, hbracket⟩, hbefore.symm,
      rfl, rfl⟩
  · have hfront : s = (front ++ []) ++ (mark ++ (content ++ ']' :: after)) := by
      rw [heq, List.append_nil]
    exact ⟨⟨front, [], content, after, hfront, .inr ⟨rfl, hlast⟩, hcontent, hbracket⟩,
      List.append_nil front, rfl, rfl⟩

/-- In a text there is one annotation at most at each place. -/
theorem eq_of_position {a b : AnnotationIn mark s} (h : a.position = b.position) : a = b := by
  have htext := a.text_eq.symm.trans b.text_eq
  rcases List.append_inj htext h with ⟨hfront, hrest⟩
  have hbefore : a.before = b.before := by
    rw [← a.dropOpeningBracket_eq, hfront, b.dropOpeningBracket_eq]
  have hcut : cut? ']' (a.content ++ ']' :: a.after) = cut? ']' (b.content ++ ']' :: b.after) :=
    congrArg (cut? ']') (List.append_cancel_left hrest)
  rw [cut?_append a.bracket_not_mem_content, cut?_append b.bracket_not_mem_content] at hcut
  rcases a with ⟨before, opening, content, after, _, _, _, _⟩
  rcases b with ⟨before', opening', content', after', _, _, _, _⟩
  cases hcut
  cases hbefore
  cases List.append_cancel_left hfront
  rfl

end AnnotationIn

/-! ## Reading annotations -/

theorem annotationAt?_eq_some_iff {mark s content after : List Char} :
    annotationAt? mark s = some (content, after) ↔
      s = mark ++ (content ++ ']' :: after) ∧ content ≠ [] ∧ ']' ∉ content := by
  unfold annotationAt?
  cases hstarts : List.isPrefixOf? mark s with
  | none =>
      refine iff_of_false nofun ?_
      rintro ⟨rfl, -⟩
      have hsome := List.isPrefixOf?_eq_some_iff_append_eq.2
        (rfl : mark ++ (content ++ ']' :: after) = mark ++ (content ++ ']' :: after))
      rw [hstarts] at hsome
      cases hsome
  | some rest =>
      rw [← List.isPrefixOf?_eq_some_iff_append_eq.1 hstarts]
      simp only [Option.filter_eq_some_iff, Bool.not_eq_true', List.isEmpty_eq_false_iff,
        List.append_cancel_left_eq]
      constructor
      · rintro ⟨hcut, hcontent⟩
        exact ⟨eq_of_cut? hcut, hcontent, not_mem_of_cut? hcut⟩
      · rintro ⟨rfl, hcontent, hbracket⟩
        exact ⟨cut?_append hbracket after, hcontent⟩

section

variable {α : Type} {mark s : List Char} {view : List Char × List Char → Option α}

/-- A reader that looks at the content of an annotation and at the text after it. -/
def readAnnotation? (mark : List Char) (view : List Char × List Char → Option α)
    (s : List Char) : Option α :=
  (annotationAt? mark s).bind view

theorem readAnnotation?_at (a : AnnotationIn mark s) :
    readAnnotation? mark view (mark ++ (a.content ++ ']' :: a.after)) =
      view (a.content, a.after) := by
  have hat : annotationAt? mark (mark ++ (a.content ++ ']' :: a.after)) =
      some (a.content, a.after) :=
    annotationAt?_eq_some_iff.2 ⟨rfl, a.content_ne_nil, a.bracket_not_mem_content⟩
  rw [readAnnotation?, hat, Option.bind_some]

theorem exists_of_readAnnotation? {front place : List Char} {x : α} (heq : s = front ++ place)
    (h : readAnnotation? mark view place = some x) :
    ∃ a : AnnotationIn mark s, a.before ++ a.opening = front ∧
      view (a.content, a.after) = some x := by
  rcases Option.bind_eq_some_iff.1 h with ⟨⟨content, after⟩, hat, hview⟩
  rcases annotationAt?_eq_some_iff.1 hat with ⟨rfl, hcontent, hbracket⟩
  rcases AnnotationIn.exists_of_eq heq hcontent hbracket with ⟨a, hfront, rfl, rfl⟩
  exact ⟨a, hfront, hview⟩

/-- A search finds the first annotation that is seen. -/
theorem search_readAnnotation?_eq_some_iff {front : List Char} {x : α} :
    search (readAnnotation? mark view) s = some (front, x) ↔
      ∃ a : AnnotationIn mark s, a.before ++ a.opening = front ∧
        view (a.content, a.after) = some x ∧
        ∀ b : AnnotationIn mark s, (view (b.content, b.after)).isSome →
          a.position ≤ b.position := by
  rw [search_eq_some_iff]
  constructor
  · rintro ⟨⟨place, heq, hread⟩, hearlier⟩
    rcases exists_of_readAnnotation? heq hread with ⟨a, hfront, hview⟩
    refine ⟨a, hfront, hview, fun b hb => Nat.le_of_not_lt fun hlt => ?_⟩
    rw [AnnotationIn.position, AnnotationIn.position, hfront] at hlt
    have hnone := hearlier _ _ b.text_eq hlt
    rw [readAnnotation?_at] at hnone
    rw [hnone] at hb
    cases hb
  · rintro ⟨a, rfl, hview, hfirst⟩
    refine ⟨⟨_, a.text_eq, (readAnnotation?_at a).trans hview⟩, fun earlier place heq hlt => ?_⟩
    cases hread : readAnnotation? mark view place with
    | none => rfl
    | some y =>
        rcases exists_of_readAnnotation? heq hread with ⟨b, hfront, hb⟩
        have hle := hfirst b (Option.isSome_of_eq_some hb)
        rw [AnnotationIn.position, AnnotationIn.position, hfront] at hle
        exact absurd hlt (Nat.not_lt.2 hle)

theorem search_readAnnotation?_eq_none_iff :
    search (readAnnotation? mark view) s = none ↔
      ∀ a : AnnotationIn mark s, view (a.content, a.after) = none := by
  rw [search_eq_none_iff]
  constructor
  · intro h a
    exact (readAnnotation?_at a).symm.trans (h _ ⟨_, a.text_eq.symm⟩)
  · rintro h place ⟨front, hplace⟩
    cases hread : readAnnotation? mark view place with
    | none => rfl
    | some x =>
        rcases exists_of_readAnnotation? hplace.symm hread with ⟨a, -, ha⟩
        rw [h a] at ha
        cases ha

end

/-! ## Taking annotations out -/

section

variable {mark s : List Char}

theorem search_annotationAt?_eq (mark s : List Char) :
    search (annotationAt? mark) s = search (readAnnotation? mark some) s := by
  have hreader : annotationAt? mark = readAnnotation? mark some := by
    funext place
    exact (Option.bind_fun_some _).symm
  rw [hreader]

theorem takeAnnotation?_of_isFirst {a : AnnotationIn mark s} (h : a.IsFirst) :
    takeAnnotation? mark s = some (trim a.content, a.without) := by
  have hsearch : search (annotationAt? mark) s =
      some (a.before ++ a.opening, (a.content, a.after)) := by
    rw [search_annotationAt?_eq, search_readAnnotation?_eq_some_iff]
    exact ⟨a, rfl, rfl, fun b _ => h b⟩
  have htext : trim (dropOpeningBracket (a.before ++ a.opening) ++ a.after) = a.without := by
    rw [a.dropOpeningBracket_eq, AnnotationIn.without]
  rw [takeAnnotation?, hsearch, ← htext]
  rfl

theorem takeAnnotation?_of_isEmpty (h : IsEmpty (AnnotationIn mark s)) :
    takeAnnotation? mark s = none := by
  have hsearch : search (annotationAt? mark) s = none := by
    rw [search_annotationAt?_eq, search_readAnnotation?_eq_none_iff]
    exact fun a => h.elim a
  rw [takeAnnotation?, hsearch, Option.map_none]

theorem isEmpty_or_exists_isFirst (mark s : List Char) :
    IsEmpty (AnnotationIn mark s) ∨ ∃ a : AnnotationIn mark s, a.IsFirst := by
  cases hsearch : search (readAnnotation? mark some) s with
  | none =>
      refine .inl ⟨fun a => ?_⟩
      cases search_readAnnotation?_eq_none_iff.1 hsearch a
  | some found =>
      rcases search_readAnnotation?_eq_some_iff.1 hsearch with ⟨a, -, -, hfirst⟩
      exact .inr ⟨a, fun b => hfirst b rfl⟩

end

/-! ## Severities -/

theorem find?_severity_eq_some_iff {content : List Char} {v : Severity} :
    (Severity.all.find? fun severity => trimLeft content == severity.word.toList) = some v ↔
      ∃ blanks, (∀ c ∈ blanks, isBlank c = true) ∧ content = blanks ++ v.word.toList := by
  constructor
  · intro h
    have hword : trimLeft content = v.word.toList := by simpa using List.find?_some h
    refine ⟨content.takeWhile isBlank, List.all_eq_true.1 List.all_takeWhile, ?_⟩
    rw [← hword, trimLeft, List.takeWhile_append_dropWhile]
  · rintro ⟨blanks, hblanks, rfl⟩
    rw [trimLeft_append hblanks]
    cases v <;> decide

/-- The severity that the content of an annotation names. -/
def severityIn? (parts : List Char × List Char) : Option Severity :=
  Severity.all.find? fun severity => trimLeft parts.1 == severity.word.toList

section

variable {s : List Char}

theorem severityIn?_eq_some_iff {a : AnnotationIn severityMark s} {v : Severity} :
    severityIn? (a.content, a.after) = some v ↔ a.Names v :=
  find?_severity_eq_some_iff

theorem search_severityAt?_eq (s : List Char) :
    search severityAt? s = search (readAnnotation? severityMark severityIn?) s := by
  have hreader : severityAt? = readAnnotation? severityMark severityIn? := by
    funext place
    unfold severityAt? readAnnotation? severityIn? severityMark
    generalize annotationAt? "@severity:".toList place = found
    cases found with
    | none => rfl
    | some parts => rfl
  rw [hreader]

theorem takeSeverity_of_isUsed {a first : AnnotationIn severityMark s} {v : Severity}
    (ha : a.IsUsed v) (hfirst : first.IsFirst) : takeSeverity s = (v, first.without) := by
  have hsearch : search severityAt? s = some (a.before ++ a.opening, v) := by
    rw [search_severityAt?_eq, search_readAnnotation?_eq_some_iff]
    refine ⟨a, rfl, severityIn?_eq_some_iff.2 ha.1, fun b hb => ?_⟩
    rcases Option.isSome_iff_exists.1 hb with ⟨w, hw⟩
    exact ha.2 b w (severityIn?_eq_some_iff.1 hw)
  have htake : takeAnnotation? "@severity:".toList s = some (trim first.content, first.without) :=
    takeAnnotation?_of_isFirst hfirst
  simp only [takeSeverity, hsearch, htake]

theorem search_severityAt?_eq_none_iff :
    search severityAt? s = none ↔
      ∀ (a : AnnotationIn severityMark s) (v : Severity), ¬ a.Names v := by
  rw [search_severityAt?_eq, search_readAnnotation?_eq_none_iff]
  refine forall_congr' fun a => ?_
  rw [Option.eq_none_iff_forall_ne_some]
  exact forall_congr' fun v => not_congr severityIn?_eq_some_iff

theorem takeSeverity_of_forall_not_names
    (h : ∀ (a : AnnotationIn severityMark s) (v : Severity), ¬ a.Names v) :
    takeSeverity s = (.error, s) := by
  simp only [takeSeverity, search_severityAt?_eq_none_iff.2 h]

theorem AnnotationIn.isUsed_of_search {a : AnnotationIn severityMark s} {v : Severity}
    (h : search severityAt? s = some (a.before ++ a.opening, v)) : a.IsUsed v := by
  rw [search_severityAt?_eq, search_readAnnotation?_eq_some_iff] at h
  rcases h with ⟨b, hfront, hname, hfirst⟩
  have hsame : b = a := AnnotationIn.eq_of_position (congrArg List.length hfront)
  rw [hsame] at hname hfirst
  refine ⟨severityIn?_eq_some_iff.1 hname, fun c w hc => hfirst c ?_⟩
  exact Option.isSome_of_eq_some (severityIn?_eq_some_iff.2 hc)

theorem forall_not_names_or_exists_isUsed (s : List Char) :
    (∀ (a : AnnotationIn severityMark s) (v : Severity), ¬ a.Names v) ∨
      ∃ (a : AnnotationIn severityMark s) (v : Severity), a.IsUsed v := by
  cases hsearch : search severityAt? s with
  | none => exact .inl (search_severityAt?_eq_none_iff.1 hsearch)
  | some found =>
      have hfound := hsearch
      rw [search_severityAt?_eq, search_readAnnotation?_eq_some_iff] at hfound
      rcases hfound with ⟨a, hfront, -, -⟩
      refine .inr ⟨a, found.2, AnnotationIn.isUsed_of_search ?_⟩
      rw [hsearch, hfront]

end

/-! ## Two annotations in one text -/

/-- Of two annotations with the same mark, the second stands whole after the first, or the first one
was not closed and ends where the second ends. -/
theorem AnnotationIn.stands_after_or_within {mark s : List Char} (hmark : IsMark mark)
    (hclosing : ']' ∉ mark) {first a : AnnotationIn mark s} (h : first.position < a.position) :
    (∃ between, first.after = between ++ (mark ++ (a.content ++ ']' :: a.after))) ∨
      ∃ between, first.content = between ++ (mark ++ a.content) ∧ first.after = a.after := by
  rcases List.append_eq_append_iff.1 (first.text_eq.symm.trans a.text_eq) with
    ⟨gap, hgap, hrest⟩ | ⟨gap, hgap, -⟩
  · have hne : gap ≠ [] := by
      rintro rfl
      rw [position, position, hgap, List.append_nil] at h
      exact absurd h (Nat.lt_irrefl _)
    -- The mark of the second annotation begins after the whole mark of the first.
    have hinner : ∃ inner, first.content ++ ']' :: first.after =
        inner ++ (mark ++ (a.content ++ ']' :: a.after)) := by
      rcases List.append_eq_append_iff.1 hrest with ⟨inner, -, htail⟩ | ⟨inner, hinner, -⟩
      · exact ⟨inner, htail⟩
      · have hoccurs : mark <:+: gap := by
          by_contra hnot
          have hle : gap.length ≤ ([] : List Char).length := hmark.length_le hnot hrest.symm
          exact hne (List.length_eq_zero_iff.1 (Nat.le_zero.1 hle))
        have hlength := hoccurs.length_le
        rw [hinner, List.length_append] at hlength
        have hnil : inner = [] := List.length_eq_zero_iff.1 (by omega)
        rw [hnil, List.append_nil] at hinner
        have hsame := congrArg (· ++ (mark ++ (a.content ++ ']' :: a.after))) hinner.symm
        exact ⟨[], List.append_cancel_left (hrest.trans hsame)⟩
    rcases hinner with ⟨inner, htail⟩
    rcases List.append_eq_append_iff.1 htail with ⟨between, -, hafter⟩ | ⟨rest, hcontent, hafter⟩
    · cases between with
      | nil =>
          rcases hmark with ⟨c, mark, rfl, -⟩
          exact absurd (List.cons.inj hafter).1 fun heq => hclosing (heq ▸ List.mem_cons_self ..)
      | cons c between => exact .inl ⟨between, (List.cons.inj hafter).2⟩
    · have hrestClosing : ']' ∉ rest := fun hmem =>
        first.bracket_not_mem_content (hcontent ▸ List.mem_append_right _ hmem)
      have hboth : ']' ∉ mark ++ a.content := by
        rw [List.mem_append, not_or]
        exact ⟨hclosing, a.bracket_not_mem_content⟩
      have hcut := congrArg (cut? ']') hafter
      rw [← List.append_assoc, cut?_append hboth, cut?_append hrestClosing] at hcut
      rcases Prod.mk.inj (Option.some.inj hcut) with ⟨hwhole, hafter⟩
      exact .inr ⟨inner, by rw [hcontent, hwhole], hafter.symm⟩
  · rw [position, position, hgap, List.length_append] at h
    omega

/-! ## What is taken out -/

/-- The hint of a text and the text that is left. -/
inductive TakesHint (s : List Char) : Option String → List Char → Prop
  | absent (h : IsEmpty (AnnotationIn hintMark s)) : TakesHint s none s
  | taken (a : AnnotationIn hintMark s) (h : a.IsFirst) :
      TakesHint s (some (String.ofList (trim a.content))) a.without

/-- The severity of a text and the text that is left. -/
inductive TakesSeverity (s : List Char) : Severity → List Char → Prop
  | absent (h : ∀ (a : AnnotationIn severityMark s) (v : Severity), ¬ a.Names v) :
      TakesSeverity s .error s
  | taken {v : Severity} (a : AnnotationIn severityMark s) (hused : a.IsUsed v) (h : a.IsFirst) :
      TakesSeverity s v a.without
  | passedOver {v : Severity} (a first : AnnotationIn severityMark s) (hused : a.IsUsed v)
      (h : first.IsFirst) (between : List Char)
      (hstays : first.after = between ++ (severityMark ++ (a.content ++ ']' :: a.after))) :
      TakesSeverity s v first.without
  | unclosed {v : Severity} (a first : AnnotationIn severityMark s) (hused : a.IsUsed v)
      (h : first.IsFirst) (between : List Char)
      (hwithin : first.content = between ++ (severityMark ++ a.content))
      (hafter : first.after = a.after) : TakesSeverity s v first.without

theorem isMark_hintMark : IsMark hintMark :=
  ⟨'@', "validate:".toList, by decide, by decide⟩

theorem isMark_severityMark : IsMark severityMark :=
  ⟨'@', "severity:".toList, by decide, by decide⟩

theorem takesSeverity (s : List Char) : TakesSeverity s (takeSeverity s).1 (takeSeverity s).2 := by
  rcases forall_not_names_or_exists_isUsed s with hnone | ⟨a, v, hused⟩
  · rw [takeSeverity_of_forall_not_names hnone]
    exact .absent hnone
  · rcases isEmpty_or_exists_isFirst severityMark s with hempty | ⟨first, hfirst⟩
    · exact hempty.elim a
    · rw [takeSeverity_of_isUsed hused hfirst]
      rcases Nat.lt_or_eq_of_le (hfirst a) with hlt | heq
      · have hclosing : ']' ∉ severityMark := by decide
        rcases AnnotationIn.stands_after_or_within isMark_severityMark hclosing hlt with
          ⟨between, hstays⟩ | ⟨between, hwithin, hafter⟩
        · exact .passedOver a first hused hfirst between hstays
        · exact .unclosed a first hused hfirst between hwithin hafter
      · rw [AnnotationIn.eq_of_position heq] at hfirst ⊢
        exact .taken a hused hfirst

theorem readRequirement_eq_of_takesHint {line rest : List Char} {hint : Option String}
    (h : TakesHint (trim (line.drop 1)) hint rest) :
    readRequirement line =
      { text := String.ofList (takeSeverity rest).2, hint
        category := categorize (takeSeverity rest).2, severity := (takeSeverity rest).1 } := by
  cases h with
  | absent h =>
      have htake : takeAnnotation? "@validate:".toList (trim (line.drop 1)) = none :=
        takeAnnotation?_of_isEmpty h
      simp only [readRequirement, htake]
  | taken a h =>
      have htake : takeAnnotation? "@validate:".toList (trim (line.drop 1)) =
          some (trim a.content, a.without) := takeAnnotation?_of_isFirst h
      simp only [readRequirement, htake]

theorem exists_takesHint (s : List Char) : ∃ hint rest, TakesHint s hint rest := by
  rcases isEmpty_or_exists_isFirst hintMark s with hempty | ⟨first, hfirst⟩
  · exact ⟨none, s, .absent hempty⟩
  · exact ⟨_, _, .taken first hfirst⟩

/-- The hint of a requirement is taken out of the text of its line, and then the severity out of
what is left. -/
theorem readRequirement_takes (line : List Char) :
    ∃ rest, TakesHint (trim (line.drop 1)) (readRequirement line).hint rest ∧
      TakesSeverity rest (readRequirement line).severity (readRequirement line).text.toList := by
  rcases exists_takesHint (trim (line.drop 1)) with ⟨hint, rest, hhint⟩
  refine ⟨rest, ?_, ?_⟩
  · rw [readRequirement_eq_of_takesHint hhint]
    exact hhint
  · rw [readRequirement_eq_of_takesHint hhint, String.toList_ofList]
    exact takesSeverity rest

/-- The annotation that gave the severity is the one that was taken out. -/
def TakesOutUsed (line : List Char) : Prop :=
  ∀ rest, TakesHint (trim (line.drop 1)) (readRequirement line).hint rest →
    ∀ (a : AnnotationIn severityMark rest) (v : Severity), a.IsUsed v →
      (readRequirement line).text.toList = a.without

/-- A line on which a severity annotation with another content comes first. -/
def passedOverLine : List Char :=
  "! a [@severity: high] b [@severity: warning]".toList

/-- The annotation of that line that names a severity. -/
def namedWarning : AnnotationIn severityMark (trim (passedOverLine.drop 1)) where
  before := "a [@severity: high] b ".toList
  opening := ['[']
  content := " warning".toList
  after := []

/-- What is taken out may be an annotation that was passed over. -/
theorem not_takesOutUsed : ¬ TakesOutUsed passedOverLine := by
  intro h
  have hused : namedWarning.IsUsed .warning := AnnotationIn.isUsed_of_search (by decide +kernel)
  have hnone : (readRequirement passedOverLine).hint = none := by decide +kernel
  rcases readRequirement_takes passedOverLine with ⟨rest, hhint, -⟩
  have htaken := h rest hhint
  rw [hnone] at hhint
  cases hhint with
  | absent => exact absurd (htaken namedWarning .warning hused) (by decide +kernel)

end Spec
end ComponentSpec

import ComponentSpec.Proofs.Spec.LastLine
import ComponentSpec.Proofs.Spec.Segmentation
import ComponentSpec.Proofs.Text.Padding
import Mathlib.Data.List.Basic
import Mathlib.Data.List.Induction

/-!
# The sections of a document

The lines of a document are read one after another.  Of what came before, a line depends only on the
section that is open, and this is the section of the last header.  So the requirements and the
recommendations can be given line by line, and a part of a document that begins with a header can be
read on its own.

Main statements: which lines are headers (`header?_eq_some_iff`), which section is open after some
lines (`sectionAfter_eq_some_iff`), what one line gives (`readLine_eq`), what several lines give
(`readLines_eq`), and the laws of the sections of a document (`sectionLaws`).
-/

namespace ComponentSpec

namespace Spec

open Text

/-! ## Headers -/

/-- The keyword that opens a section, in small letters. -/
def Section.keyword : Section → List Char
  | requirements => "!requirements:".toList
  | recommendations => "?recommendations:".toList

/-- The mark of the lines that count in a section. -/
def Section.mark : Section → Char
  | requirements => '!'
  | recommendations => '?'

theorem Section.head?_of_keyword {s : Section} {line written rest : List Char}
    (hline : line = written ++ rest) (hwritten : written.map letterOf = s.keyword) :
    line.head? = some s.mark := by
  have hmark : s.keyword.head? = some s.mark ∧ s.mark.toNat < 'A'.toNat := by
    cases s <;> decide
  rw [← hwritten] at hmark
  cases written with
  | nil => cases hmark.1
  | cons c written =>
      have hc : letterOf c = s.mark := Option.some.inj hmark.1
      rw [hline, List.cons_append, List.head?_cons, eq_of_letterOf hmark.2 hc]

/-- A header is a keyword in any letter case, whatever follows it. -/
theorem header?_eq_some_iff {line : List Char} {s : Section} :
    header? line = some s ↔
      ∃ written rest, line = written ++ rest ∧ written.map letterOf = s.keyword := by
  -- Both keywords are looked for at the beginning of the line, one after the other.
  have hrequirements : (dropKeyword? Section.requirements.keyword line).isSome ↔
      ∃ written rest, line = written ++ rest ∧
        written.map letterOf = Section.requirements.keyword := isSome_dropKeyword?_iff
  have hrecommendations : (dropKeyword? Section.recommendations.keyword line).isSome ↔
      ∃ written rest, line = written ++ rest ∧
        written.map letterOf = Section.recommendations.keyword := isSome_dropKeyword?_iff
  cases s with
  | requirements =>
      rw [← hrequirements]
      unfold header?
      constructor
      · intro h
        split at h
        · assumption
        · split at h <;> cases h
      · intro h
        exact if_pos h
  | recommendations =>
      rw [← hrecommendations]
      unfold header?
      constructor
      · intro h
        split at h
        · cases h
        · split at h
          · assumption
          · cases h
      · intro h
        -- The two keywords have different marks, so no line begins with both.
        have hother : ¬ (dropKeyword? Section.requirements.keyword line).isSome := by
          intro hother
          rcases hrequirements.1 hother with ⟨written, rest, hline, hwritten⟩
          rcases hrecommendations.1 h with ⟨written', rest', hline', hwritten'⟩
          have hmarks := (Section.head?_of_keyword hline hwritten).symm.trans
            (Section.head?_of_keyword hline' hwritten')
          cases hmarks
        exact (if_neg hother).trans (if_pos h)

theorem head?_of_header? {line : List Char} {s : Section} (h : header? line = some s) :
    line.head? = some s.mark := by
  rcases header?_eq_some_iff.1 h with ⟨written, rest, hline, hwritten⟩
  exact Section.head?_of_keyword hline hwritten

/-- A line opens a section if it is a header once it is trimmed. -/
def Opens (s : Section) (line : List Char) : Prop :=
  ∃ written rest, trim line = written ++ rest ∧ written.map letterOf = s.keyword

example : Opens .requirements "\t!rEQUIREMENTS: all".toList :=
  ⟨"!rEQUIREMENTS:".toList, " all".toList, by decide, by decide⟩

theorem header?_trim_eq_some_iff {s : Section} {line : List Char} :
    header? (trim line) = some s ↔ Opens s line :=
  header?_eq_some_iff

theorem header?_trim_eq_none_iff {line : List Char} :
    header? (trim line) = none ↔ ∀ s, ¬ Opens s line := by
  simp only [Option.eq_none_iff_forall_ne_some, ne_eq, header?_trim_eq_some_iff]

instance (s : Section) (line : List Char) : Decidable (Opens s line) :=
  decidable_of_iff _ header?_trim_eq_some_iff

/-! ## One line -/

/-- The line is an item of a section of this kind, if it stands in one: it begins with the mark of
the section and opens none itself. -/
def IsItem (s : Section) (line : List Char) : Prop :=
  (trim line).head? = some s.mark ∧ ∀ t, ¬ Opens t line

instance (s : Section) (line : List Char) : Decidable (IsItem s line) :=
  decidable_of_iff _ (and_congr_right fun _ => header?_trim_eq_none_iff)

/-- The trimmed line, if it is an item of the open section and this is of the kind. -/
def counted (s : Section) (current : Option Section) (line : List Char) : List (List Char) :=
  if current = some s ∧ IsItem s line then [trim line] else []

/-- The recommendation on a line; the first character is the mark of the line. -/
def readRecommendation (line : List Char) : String :=
  String.ofList (trim line.tail)

theorem Opens.not_isItem {s t : Section} {line : List Char} (h : Opens s line) :
    ¬ IsItem t line := by
  rintro ⟨-, hnone⟩
  exact hnone s h

theorem isItem_iff_of_not_opens {s : Section} {line : List Char} (h : ∀ t, ¬ Opens t line) :
    IsItem s line ↔ (trim line).head? = some s.mark :=
  and_iff_left h

theorem counted_none (s : Section) (line : List Char) : counted s none line = [] := by
  refine if_neg ?_
  rintro ⟨hopen, -⟩
  cases hopen

/-- What a line gives depends on the open section alone. -/
theorem readLine_eq (st : SectionState) (line : List Char) :
    st.readLine line =
      { current := (header? (trim line)).or st.current
        requirements := st.requirements ++
          (counted .requirements st.current line).map readRequirement
        recommendations := st.recommendations ++
          (counted .recommendations st.current line).map readRecommendation } := by
  rcases st with ⟨current, requirements, recommendations⟩
  cases hheader : header? (trim line) with
  | some s =>
      have hitem : ∀ t, ¬ IsItem t line := fun _ =>
        (header?_trim_eq_some_iff.1 hheader).not_isItem
      simp [SectionState.readLine, hheader, counted, hitem]
  | none =>
      have hitem : ∀ s, IsItem s line ↔ (trim line).head? = some s.mark := fun _ =>
        isItem_iff_of_not_opens (header?_trim_eq_none_iff.1 hheader)
      simp only [SectionState.readLine, hheader, counted, hitem]
      split
      · rename_i text hline
        simp [hline, Section.mark]
      · rename_i text hline
        simp [hline, Section.mark, readRecommendation]
      · rename_i current _ _ hrequirement hrecommendation
        -- The mark of the line is not that of the section.
        have hmark : ∀ s, ¬ (current = some s ∧ (trim line).head? = some s.mark) := by
          rintro s ⟨rfl, hhead⟩
          rcases List.head?_eq_some_iff.1 hhead with ⟨text, htext⟩
          cases s with
          | requirements => exact hrequirement text htext rfl
          | recommendations => exact hrecommendation text htext rfl
        simp [hmark]

/-! ## Several lines -/

/-- A section of this kind is open after some lines: the last header among them has opened it. -/
def IsOpenAfter (s : Section) (before : List (List Char)) : Prop :=
  GivesLast (fun line t => Opens t line) before s

/-- The section that is open after some lines. -/
def sectionAfter (before : List (List Char)) : Option Section :=
  (before.filterMap fun line => header? (trim line)).getLast?

theorem sectionAfter_eq_some_iff {s : Section} {before : List (List Char)} :
    sectionAfter before = some s ↔ IsOpenAfter s before :=
  getLast?_filterMap_eq_some_iff fun _ _ => header?_trim_eq_some_iff

instance (s : Section) (before : List (List Char)) : Decidable (IsOpenAfter s before) :=
  decidable_of_iff _ sectionAfter_eq_some_iff

/-- A line counts after these lines: it is an item of the section that is open there. -/
def Counts (s : Section) (before : List (List Char)) (line : List Char) : Prop :=
  IsOpenAfter s before ∧ IsItem s line

instance (s : Section) (before : List (List Char)) (line : List Char) :
    Decidable (Counts s before line) :=
  inferInstanceAs (Decidable (_ ∧ _))

/-- The lines, trimmed, that count in the sections of one kind. -/
def governed (s : Section) (ls : List (List Char)) : List (List Char) :=
  (ls.zipIdx.filter fun place => Counts s (ls.take place.2) place.1).map fun place => trim place.1

theorem counted_sectionAfter (s : Section) (before : List (List Char)) (line : List Char) :
    counted s (sectionAfter before) line = if Counts s before line then [trim line] else [] :=
  if_congr (and_congr_left fun _ => sectionAfter_eq_some_iff) rfl rfl

theorem sectionAfter_concat (ls : List (List Char)) (line : List Char) :
    sectionAfter (ls ++ [line]) = (header? (trim line)).or (sectionAfter ls) := by
  cases hheader : header? (trim line) <;> simp [sectionAfter, hheader]

theorem governed_concat (s : Section) (ls : List (List Char)) (line : List Char) :
    governed s (ls ++ [line]) = governed s ls ++ counted s (sectionAfter ls) line := by
  have hlast : (ls ++ [line]).take ls.length = ls := List.take_left
  -- A line that was there before has the same lines before it.
  have hkept : (ls.zipIdx.filter fun place => Counts s ((ls ++ [line]).take place.2) place.1) =
      ls.zipIdx.filter fun place => Counts s (ls.take place.2) place.1 := by
    refine List.filter_congr ?_
    intro place hplace
    have hlt : place.2 < ls.length := List.snd_lt_of_mem_zipIdx hplace
    rw [List.take_append_of_le_length (Nat.le_of_lt hlt)]
  unfold governed
  rw [counted_sectionAfter, List.zipIdx_append, List.filter_append, List.map_append, hkept]
  by_cases hcounts : Counts s ls line <;> simp [hlast, hcounts]

/-- The state after several lines from the first on. -/
theorem readLines_eq (ls : List (List Char)) :
    ls.foldl SectionState.readLine {} =
      { current := sectionAfter ls
        requirements := (governed .requirements ls).map readRequirement
        recommendations := (governed .recommendations ls).map readRecommendation } := by
  -- What governs a line is known from the lines before it, so lines are added at the end.
  induction ls using List.reverseRecOn with
  | nil => rfl
  | append_singleton ls line ih =>
      rw [List.foldl_append, ih, List.foldl_cons, List.foldl_nil, readLine_eq, sectionAfter_concat,
        governed_concat, governed_concat, List.map_append, List.map_append]

/-- Of what came before, the lines need only the open section. -/
theorem foldl_readLine (ls : List (List Char)) (st : SectionState) :
    ls.foldl SectionState.readLine st =
      { current := (ls.foldl SectionState.readLine { current := st.current }).current
        requirements := st.requirements ++
          (ls.foldl SectionState.readLine { current := st.current }).requirements
        recommendations := st.recommendations ++
          (ls.foldl SectionState.readLine { current := st.current }).recommendations } := by
  induction ls generalizing st with
  | nil => simp
  | cons line ls ih =>
      rw [List.foldl_cons, List.foldl_cons, ih (st.readLine line),
        ih (SectionState.readLine { current := st.current } line)]
      simp [readLine_eq]

/-- Lines that begin with a header are read as if nothing had come before. -/
theorem foldl_readLine_of_opens {s : Section} {line : List Char} (h : Opens s line)
    (ls : List (List Char)) (st : SectionState) :
    (line :: ls).foldl SectionState.readLine st =
      { current := ((line :: ls).foldl SectionState.readLine {}).current
        requirements := st.requirements ++
          ((line :: ls).foldl SectionState.readLine {}).requirements
        recommendations := st.recommendations ++
          ((line :: ls).foldl SectionState.readLine {}).recommendations } := by
  have hline : ∀ start : SectionState, start.readLine line = { start with current := some s } := by
    intro start
    simp [SectionState.readLine, header?_trim_eq_some_iff.2 h]
  rw [List.foldl_cons, List.foldl_cons, hline, hline, foldl_readLine]

theorem foldl_readLine_of_not_opens {ls : List (List Char)}
    (h : ∀ line ∈ ls, ∀ s, ¬ Opens s line) : ls.foldl SectionState.readLine {} = {} := by
  induction ls with
  | nil => rfl
  | cons line ls ih =>
      have hline : SectionState.readLine {} line = {} := by
        have hheader := header?_trim_eq_none_iff.2 (h line (List.mem_cons_self ..))
        simp [readLine_eq, hheader, counted_none]
      rw [List.foldl_cons, hline]
      exact ih fun other hother => h other (List.mem_cons_of_mem _ hother)

/-! ## Lines without a mark -/

/-- A line is marked if it begins, once it is trimmed, with the mark of a section. -/
def isMarked (line : List Char) : Bool :=
  match trim line with
  | c :: _ => c == '!' || c == '?'
  | [] => false

theorem isMarked_of_head? {s : Section} {line : List Char}
    (h : (trim line).head? = some s.mark) : isMarked line = true := by
  rcases List.head?_eq_some_iff.1 h with ⟨text, htext⟩
  cases s <;> simp [isMarked, htext, Section.mark]

theorem readLine_of_not_isMarked {line : List Char} (h : isMarked line = false)
    (st : SectionState) : st.readLine line = st := by
  have hmark : ∀ s : Section, (trim line).head? ≠ some s.mark := by
    intro s hs
    rw [isMarked_of_head? hs] at h
    cases h
  have hheader : header? (trim line) = none :=
    Option.eq_none_iff_forall_ne_some.2 fun s hs => hmark s (head?_of_header? hs)
  have hitem : ∀ s, ¬ IsItem s line := fun s hs => hmark s hs.1
  simp [readLine_eq, hheader, counted, hitem]

/-- Lines without a mark may be left out. -/
theorem foldl_readLine_filter (ls : List (List Char)) (st : SectionState) :
    (ls.filter isMarked).foldl SectionState.readLine st = ls.foldl SectionState.readLine st := by
  rw [List.foldl_filter]
  congr 1
  funext st line
  cases hline : isMarked line with
  | true => rfl
  | false => exact (readLine_of_not_isMarked hline st).symm

/-! ## Documents -/

theorem lines_append (first second : String) :
    lines (first ++ "\n" ++ second).toList = lines first.toList ++ lines second.toList := by
  have htext : (first ++ "\n" ++ second).toList = first.toList ++ '\n' :: second.toList := by
    simp
  rw [htext]
  exact pieces_append '\n' first.toList second.toList

/-- Two documents have the same requirements and the same recommendations. -/
def SameSections (document other : String) : Prop :=
  (ofDocument document).requirements = (ofDocument other).requirements ∧
    (ofDocument document).recommendations = (ofDocument other).recommendations

/-- The laws of the sections of documents. -/
structure SectionLaws : Prop where
  /-- A part of a document that begins with a header adds what it gives on its own. -/
  append : ∀ first second : String, ∀ line s, (lines second.toList).head? = some line →
    Opens s line →
      (ofDocument (first ++ "\n" ++ second)).requirements =
          (ofDocument first).requirements ++ (ofDocument second).requirements ∧
        (ofDocument (first ++ "\n" ++ second)).recommendations =
          (ofDocument first).recommendations ++ (ofDocument second).recommendations
  /-- Documents have the same sections if they differ in lines without a mark only. -/
  unmarked : ∀ document other : String,
    (lines document.toList).filter isMarked = (lines other.toList).filter isMarked →
      SameSections document other
  /-- Lines before the first header count for nothing. -/
  opening : ∀ first second : String, (∀ line ∈ lines first.toList, ∀ s, ¬ Opens s line) →
    (ofDocument first).requirements = [] ∧ (ofDocument first).recommendations = [] ∧
      SameSections (first ++ "\n" ++ second) second
  /-- The lines that count give one element each, in the order in which they stand. -/
  ordered : ∀ document : String,
    (ofDocument document).requirements =
        (governed .requirements (lines document.toList)).map readRequirement ∧
      (ofDocument document).recommendations =
        (governed .recommendations (lines document.toList)).map readRecommendation

theorem sectionLaws : SectionLaws where
  append := by
    intro first second line s hline hopens
    rcases List.head?_eq_some_iff.1 hline with ⟨rest, hrest⟩
    simp only [ofDocument, requirements_read, recommendations_read, readSections, lines_append,
      List.foldl_append, hrest]
    rw [foldl_readLine_of_opens hopens]
    exact ⟨rfl, rfl⟩
  unmarked := by
    intro document other hfilter
    have hstates : readSections document.toList = readSections other.toList := by
      unfold readSections
      rw [← foldl_readLine_filter (lines document.toList), hfilter, foldl_readLine_filter]
    unfold SameSections
    simp only [ofDocument, requirements_read, recommendations_read, hstates, and_self]
  opening := by
    intro first second hfirst
    have hstart : (lines first.toList).foldl SectionState.readLine {} = {} :=
      foldl_readLine_of_not_opens hfirst
    unfold SameSections
    simp only [ofDocument, requirements_read, recommendations_read, readSections, lines_append,
      List.foldl_append, hstart, and_self]
  ordered := by
    intro document
    simp only [ofDocument, requirements_read, recommendations_read, readSections, readLines_eq,
      and_self]

end Spec
end ComponentSpec

import ComponentSpec.Proofs.Spec.LineEnds
import ComponentSpec.Proofs.Text.Padding
import Mathlib.Data.List.Basic

/-!
# The layout of a body

A body is trimmed as a whole and then cut into lines.  Of the blanks at its ends this only takes
blank lines and the indentation of the first line that is not blank; a reader that looks at trimmed
lines and their indentation sees nothing else of it.

Below a name that waits, the lines that are indented more deeply make one object, whatever else they
are.

Main statements: the lines that trimming leaves (`filledLines_trimLeft`, `foldl_trimRight`), what a
reader of lines gets from a body (`foldl_significantLines_eq`), and what a run of nested lines does
to the entries (`foldl_readLine_of_deep`).
-/

namespace ComponentSpec
namespace Spec

open Text

/-- The name and the value of a line are the sides of its first colon. -/
theorem namedValue?_eq (line : List Char) : namedValue? line = sides? line :=
  sides?_trim line

/-! ## Lines that are not blank -/

/-- Whether a line has something besides blanks. -/
def isFilled (line : List Char) : Bool :=
  !(trim line).isEmpty

/-- The lines of a text that are not blank. -/
def filledLines (s : List Char) : List (List Char) :=
  (lines s).filter isFilled

/-- The lines with the first one moved to the margin. -/
def outdentFirst : List (List Char) → List (List Char)
  | [] => []
  | first :: others => trimLeft first :: others

theorem trimLeft_of_indentation {line : List Char} (h : indentation line = 0) :
    trimLeft line = line := by
  have hsplit := List.takeWhile_append_dropWhile (p := isBlank) (l := line)
  rwa [List.length_eq_zero_iff.1 h, List.nil_append] at hsplit

theorem indentation_trimLeft (line : List Char) : indentation (trimLeft line) = 0 := by
  rw [indentation, List.length_eq_zero_iff]
  cases hleft : trimLeft line with
  | nil => rfl
  | cons c rest =>
      have hc : isBlank c = false := not_isBlank_of_head?_trimLeft (s := line) (by rw [hleft]; rfl)
      exact List.takeWhile_cons_of_neg (Bool.eq_false_iff.1 hc)

theorem isSignificant_trimLeft (line : List Char) :
    isSignificant (trimLeft line) = isSignificant line := by
  rw [isSignificant, isSignificant, trim_trimLeft]

theorem namedValue?_trimLeft (line : List Char) :
    namedValue? (trimLeft line) = namedValue? line := by
  rw [namedValue?, namedValue?, trim_trimLeft]

theorem isFilled_cons_of_blank {c : Char} (hc : isBlank c = true) (line : List Char) :
    isFilled (c :: line) = isFilled line := by
  have htrim : trim ([c] ++ line) = trim line :=
    trim_append_left (List.forall_mem_singleton.2 hc) line
  rw [isFilled, isFilled, ← htrim, List.singleton_append]

theorem isFilled_cons_of_not_blank {c : Char} (hc : isBlank c = false) (line : List Char) :
    isFilled (c :: line) = true := by
  have htrim := trim_append_cons hc [] line
  rw [List.nil_append] at htrim
  simp [isFilled, htrim]

theorem isFilled_of_isSignificant {line : List Char} (h : isSignificant line = true) :
    isFilled line = true := by
  have hne := trim_ne_nil_of_isSignificant h
  simpa [isFilled] using hne

theorem filter_isSignificant_filter_isFilled (given : List (List Char)) :
    (given.filter isFilled).filter isSignificant = given.filter isSignificant := by
  rw [List.filter_filter]
  refine List.filter_congr fun line _ => ?_
  cases hline : isSignificant line with
  | false => rfl
  | true => rw [isFilled_of_isSignificant hline, Bool.and_self]

theorem filter_isSignificant_filledLines (s : List Char) :
    (filledLines s).filter isSignificant = (lines s).filter isSignificant :=
  filter_isSignificant_filter_isFilled (lines s)

theorem lines_cons {c : Char} (hc : c ≠ '\n') {s first : List Char} {others : List (List Char)}
    (hlines : lines s = first :: others) : lines (c :: s) = (c :: first) :: others :=
  pieces_append_of_not_mem (s := [c]) (by simpa using Ne.symm hc) hlines

/-- Lines that are joined are the lines of the text. -/
theorem lines_intercalate {given : List (List Char)} (hne : given ≠ [])
    (h : ∀ line ∈ given, '\n' ∉ line) : lines (['\n'].intercalate given) = given := by
  cases given with
  | nil => exact absurd rfl hne
  | cons first others =>
      have hjoined : lines (['\n'].intercalate (first :: others)) = first :: others.map ([] ++ ·) :=
        pieces_intercalate nofun h
      rw [List.map_id'' List.nil_append] at hjoined
      exact hjoined

/-- Without the blanks at its beginning a text has the same lines, and the first is at the margin. -/
theorem filledLines_trimLeft (s : List Char) :
    filledLines (trimLeft s) = outdentFirst (filledLines s) := by
  induction s with
  | nil => rfl
  | cons c s ih =>
      by_cases hc : isBlank c = true
      · have hleft : trimLeft (c :: s) = trimLeft s := List.dropWhile_cons_of_pos hc
        rw [hleft, ih]
        -- A line feed only ends a blank line; any other blank stands before the first line.
        by_cases hnewline : c = '\n'
        · subst hnewline
          rfl
        · rcases List.exists_cons_of_ne_nil (pieces_ne_nil '\n' s) with ⟨first, others, hlines⟩
          rw [filledLines, filledLines, lines_cons hnewline hlines, lines, hlines,
            List.filter_cons, List.filter_cons, isFilled_cons_of_blank hc]
          split
          · have hfirst : trimLeft (c :: first) = trimLeft first := List.dropWhile_cons_of_pos hc
            rw [outdentFirst, outdentFirst, hfirst]
          · rfl
      · rw [Bool.not_eq_true] at hc
        have hnewline : c ≠ '\n' := by
          rintro rfl
          cases hc
        have hleft : ∀ rest, trimLeft (c :: rest) = c :: rest :=
          fun rest => List.dropWhile_cons_of_neg (Bool.eq_false_iff.1 hc)
        rcases List.exists_cons_of_ne_nil (pieces_ne_nil '\n' s) with ⟨first, others, hlines⟩
        rw [hleft, filledLines, lines_cons hnewline hlines,
          List.filter_cons_of_pos (isFilled_cons_of_not_blank hc first), outdentFirst, hleft]

/-- A character at the end of a text, if it is no line feed, stands at the end of the last line. -/
theorem pieces_concat {c : Char} (hc : c ≠ '\n') (s : List Char) :
    List.Forall₂ (fun line other => line = other ∨ line = other ++ [c])
      (pieces '\n' (s ++ [c])) (pieces '\n' s) := by
  induction s with
  | nil =>
      rw [List.nil_append, pieces_of_not_mem (by simpa using Ne.symm hc)]
      exact .cons (.inr rfl) .nil
  | cons d s ih =>
      rw [List.cons_append, pieces, pieces]
      split
      · exact .cons (.inl rfl) ih
      · generalize pieces '\n' (s ++ [c]) = longer at ih ⊢
        generalize pieces '\n' s = kept at ih ⊢
        cases ih with
        | nil => exact .cons (.inl rfl) .nil
        | cons hlast hothers =>
            refine .cons ?_ hothers
            rcases hlast with rfl | rfl
            · exact .inl rfl
            · exact .inr rfl

theorem lines_concat_blank {c : Char} (hc : isBlank c = true) (hnewline : c ≠ '\n')
    (s : List Char) : List.Forall₂ SameContent (lines (s ++ [c])) (lines s) := by
  refine (pieces_concat hnewline s).imp ?_
  rintro line other (rfl | rfl)
  · exact ⟨rfl, fun _ => rfl⟩
  · exact sameContent_concat hc other

section

variable {σ : Type} {readLine : σ → List Char → σ}

/-- Blanks at the end of a text are nothing to a reader of lines. -/
theorem foldl_trimRight (h : ReadsContent readLine) (s : List Char) (st : σ) :
    ((lines (trimRight s)).filter isSignificant).foldl readLine st =
      ((lines s).filter isSignificant).foldl readLine st := by
  induction s using List.reverseRecOn with
  | nil => rfl
  | append_singleton s c ih =>
      rw [trimRight_concat]
      split
      · rename_i hc
        rw [ih]
        by_cases hnewline : c = '\n'
        · -- A line feed begins a blank line; any other blank ends the last line.
          have hlines : lines (s ++ ['\n']) = lines s ++ [[]] := pieces_append '\n' s []
          have hnil : [[]].filter isSignificant = [] := rfl
          rw [hnewline, hlines, List.filter_append, hnil, List.append_nil]
        · exact (foldl_isSignificant_congr h (lines_concat_blank hc hnewline s) st).symm
      · rfl

/-- A reader of lines gets the significant lines of a body, the first line that is not blank at the
margin and the others as they are. -/
theorem foldl_significantLines_eq (h : ReadsContent readLine) (body : List Char) (st : σ) :
    (significantLines body).foldl readLine st =
      ((outdentFirst (filledLines body)).filter isSignificant).foldl readLine st := by
  rw [significantLines_eq, trim, foldl_trimRight h, ← filter_isSignificant_filledLines,
    filledLines_trimLeft]

end

theorem readBody_eq (body : List Char) :
    readBody body = (((outdentFirst (filledLines body)).filter isSignificant).foldl
      BodyState.readLine {}).entries :=
  congrArg BodyState.entries (foldl_significantLines_eq readsContent_bodyLine body {})

/-! ## Nested lines -/

/-- The name and the value that a line gives to an object. -/
def lineField? (line : List Char) : Option (String × Value) :=
  (namedValue? line).map fun (name, raw) => (String.ofList name, Value.read raw)

/-- A line gives a name a value: the name stands before its first colon, and the value is read from
what stands after it. -/
def Gives (line : List Char) (name : String) (v : Value) : Prop :=
  ∃ key raw, line = key ++ ':' :: raw ∧ ':' ∉ key ∧ String.ofList (trim key) = name ∧
    Value.read (trim raw) = v

theorem lineField?_eq_some_iff {line : List Char} {name : String} {v : Value} :
    lineField? line = some (name, v) ↔ Gives line name v := by
  simp only [lineField?, namedValue?_eq, Option.map_eq_some_iff, Prod.exists, Prod.mk.injEq,
    sides?_eq_some_iff]
  constructor
  · rintro ⟨_, _, ⟨key, raw, hline, hkey, rfl, rfl⟩, hname, hv⟩
    exact ⟨key, raw, hline, hkey, hname, hv⟩
  · rintro ⟨key, raw, hline, hkey, hname, hv⟩
    exact ⟨_, _, ⟨key, raw, hline, hkey, rfl, rfl⟩, hname, hv⟩

/-- An object with the fields of more lines. -/
def addFields (object : Fields Value) (given : List (List Char)) : Fields Value :=
  (given.filterMap lineField?).foldl (fun fields (name, v) => fields.set name v) object

theorem addFields_cons (object : Fields Value) (line : List Char) (given : List (List Char)) :
    addFields object (line :: given) = addFields (addFields object [line]) given := by
  unfold addFields
  cases hline : lineField? line with
  | none => simp [hline]
  | some field => simp [hline]

namespace BodyState

variable {st : BodyState} {name : String} {line : List Char}

theorem readNested_eq (st : BodyState) (name : String) (line : List Char) :
    st.readNested name line =
      { st with
        entries := st.entries.set name (.object (addFields (st.nested.getD []) [line]))
        nested := some (addFields (st.nested.getD []) [line]) } := by
  unfold readNested addFields lineField?
  cases hnamed : namedValue? line with
  | none => simp [hnamed]
  | some parts => simp [hnamed]

theorem readLine_of_deep (hpending : st.pending = some name)
    (hdeep : st.indent < indentation line) : st.readLine line = st.readNested name line := by
  rw [readLine, hpending]
  exact if_pos hdeep

theorem readLine_of_no_pending (hpending : st.pending = none) :
    st.readLine line = st.readOuter line := by
  rw [readLine, hpending]

theorem readLine_of_not_deep (hdeep : ¬ st.indent < indentation line) :
    st.readLine line = st.readOuter line := by
  rw [readLine]
  split
  · exact if_neg hdeep
  · rfl

theorem readOuter_of_value {key raw : List Char} (hnamed : namedValue? line = some (key, raw))
    (hraw : raw ≠ []) (hbrace : raw ≠ ['\x7b']) :
    st.readOuter line =
      { st with
        entries := st.entries.set (String.ofList key) (Value.read raw)
        pending := none
        nested := none } := by
  simp [readOuter, hnamed, hraw, hbrace]

theorem readOuter_of_head {key raw : List Char} (hnamed : namedValue? line = some (key, raw))
    (hkey : key ≠ []) (hraw : raw = [] ∨ raw = ['\x7b']) :
    st.readOuter line =
      { st with
        pending := some (String.ofList key)
        nested := none
        indent := indentation line } := by
  rcases hraw with rfl | rfl <;> simp [readOuter, hnamed, hkey]

end BodyState

/-- Lines that are indented more deeply than a name that waits make one object of that name. -/
theorem foldl_readLine_of_deep {st : BodyState} {name : String} (hpending : st.pending = some name)
    {given : List (List Char)} (hne : given ≠ [])
    (hdeep : ∀ line ∈ given, st.indent < indentation line) :
    given.foldl BodyState.readLine st =
      { st with
        entries := st.entries.set name (.object (addFields (st.nested.getD []) given))
        nested := some (addFields (st.nested.getD []) given) } := by
  induction given generalizing st with
  | nil => exact absurd rfl hne
  | cons line rest ih =>
      rw [List.forall_mem_cons] at hdeep
      rw [List.foldl_cons, BodyState.readLine_of_deep hpending hdeep.1]
      cases rest with
      | nil => exact BodyState.readNested_eq st name line
      | cons next rest =>
          have hwaits : (st.readNested name line).pending = some name := hpending
          have hbelow : ∀ other ∈ next :: rest,
              (st.readNested name line).indent < indentation other := hdeep.2
          rw [ih hwaits (List.cons_ne_nil next rest) hbelow, BodyState.readNested_eq,
            Fields.set_set, Option.getD_some, ← addFields_cons]

end Spec
end ComponentSpec

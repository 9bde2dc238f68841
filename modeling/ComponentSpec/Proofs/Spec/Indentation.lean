import ComponentSpec.Proofs.Spec.Layout

/-!
# Indentation of a whole body

A body may stand indented, every line of it by the same number of spaces.  Trimming takes the
indentation of the first line that is not blank and leaves that of the others, so these move away
from it.

As long as no name waits after that line, this is nothing to the reader: the later names and what is
written below them move together.  A name that does wait stays at the margin, and then every later
line is deeper and belongs to its object, also a name that stood beside it.

Main statements: a line and its indented copy keep two states in step (`shifted_readLine`), what a
body is read as if a name waits and all other lines are deeper (`readBody_of_opening`), and what an
indented body is read as (`readBody_indented`).
-/

namespace ComponentSpec
namespace Spec

open Text

/-! ## Indented lines -/

section

variable (k : Nat)

def indentLine (line : List Char) : List Char :=
  List.replicate k ' ' ++ line

/-- The body with every line indented. -/
def indented (body : List Char) : List Char :=
  ['\n'].intercalate ((lines body).map (indentLine k))

theorem isBlank_of_mem_replicate : ∀ c ∈ List.replicate k ' ', isBlank c = true := by
  intro c hc
  rw [List.eq_of_mem_replicate hc]
  decide

theorem trimLeft_indentLine (line : List Char) : trimLeft (indentLine k line) = trimLeft line :=
  trimLeft_append (isBlank_of_mem_replicate k) line

theorem trim_indentLine (line : List Char) : trim (indentLine k line) = trim line :=
  trim_append_left (isBlank_of_mem_replicate k) line

theorem isFilled_indentLine (line : List Char) : isFilled (indentLine k line) = isFilled line := by
  rw [isFilled, isFilled, trim_indentLine]

theorem isSignificant_indentLine (line : List Char) :
    isSignificant (indentLine k line) = isSignificant line := by
  rw [isSignificant, isSignificant, trim_indentLine]

theorem namedValue?_indentLine (line : List Char) :
    namedValue? (indentLine k line) = namedValue? line := by
  rw [namedValue?, namedValue?, trim_indentLine]

theorem indentation_indentLine (line : List Char) :
    indentation (indentLine k line) = k + indentation line := by
  rw [indentation, indentLine, List.takeWhile_append_of_pos (isBlank_of_mem_replicate k),
    List.length_append, List.length_replicate, indentation]

theorem addFields_indentLine (object : Fields Value) (given : List (List Char)) :
    addFields object (given.map (indentLine k)) = addFields object given := by
  have hfields : lineField? ∘ indentLine k = lineField? := by
    funext line
    rw [Function.comp_apply, lineField?, lineField?, namedValue?_indentLine]
  rw [addFields, addFields, List.filterMap_map, hfields]

theorem addFields_singleton_indentLine (object : Fields Value) (line : List Char) :
    addFields object [indentLine k line] = addFields object [line] :=
  addFields_indentLine k object [line]

theorem lines_indented (body : List Char) :
    lines (indented k body) = (lines body).map (indentLine k) := by
  have hne : (lines body).map (indentLine k) ≠ [] :=
    fun hnil => pieces_ne_nil '\n' body (List.map_eq_nil_iff.1 hnil)
  refine lines_intercalate hne (List.forall_mem_map.2 fun line hline hmem => ?_)
  rcases List.mem_append.1 hmem with hspace | htext
  · cases List.eq_of_mem_replicate hspace
  · exact not_mem_of_mem_pieces hline htext

theorem filledLines_indented (body : List Char) :
    filledLines (indented k body) = (filledLines body).map (indentLine k) := by
  have hfilled : isFilled ∘ indentLine k = isFilled := funext (isFilled_indentLine k)
  rw [filledLines, filledLines, lines_indented, List.filter_map, hfilled]

end

/-! ## The first line and the later ones -/

/-- The name that a line lets wait. -/
def headName? (line : List Char) : Option String :=
  match namedValue? line with
  | some (key, raw) =>
      if key ≠ [] ∧ (raw = [] ∨ raw = ['\x7b']) then some (String.ofList key) else none
  | none => none

theorem exists_of_headName? {line : List Char} {name : String} (h : headName? line = some name) :
    ∃ key raw, name = String.ofList key ∧ namedValue? line = some (key, raw) ∧ key ≠ [] ∧
      (raw = [] ∨ raw = ['\x7b']) := by
  unfold headName? at h
  split at h
  · rename_i key raw hnamed
    split at h
    · rename_i hhead
      exact ⟨key, raw, (Option.some.inj h).symm, hnamed, hhead⟩
    · cases h
  · cases h

/-- The first line of the body that is not blank, if it is no comment. -/
def openingLine? (body : List Char) : Option (List Char) :=
  (filledLines body).head?.filter isSignificant

/-- The name that waits after the first line. -/
def opening? (body : List Char) : Option String :=
  (openingLine? body).bind headName?

/-- The state after the first line. -/
def openingState (body : List Char) : BodyState :=
  ((openingLine? body).map fun first => ({} : BodyState).readOuter (trimLeft first)).getD {}

/-- The significant lines of the body after the first line that is not blank. -/
def laterLines (body : List Char) : List (List Char) :=
  (filledLines body).tail.filter isSignificant

theorem readBody_eq_foldl_laterLines (body : List Char) :
    readBody body = ((laterLines body).foldl BodyState.readLine (openingState body)).entries := by
  rw [readBody_eq, laterLines, openingState, openingLine?]
  cases filledLines body with
  | nil => rfl
  | cons first others =>
      rw [outdentFirst, List.filter_cons, isSignificant_trimLeft, List.tail_cons, List.head?_cons,
        Option.filter_some]
      split
      · rw [List.foldl_cons, BodyState.readLine_of_no_pending rfl, Option.map_some, Option.getD_some]
      · rfl

theorem pending_readOuter {st : BodyState} (hpending : st.pending = none) (line : List Char) :
    (st.readOuter line).pending = headName? line := by
  unfold headName?
  cases hnamed : namedValue? line with
  | none => simpa [BodyState.readOuter, hnamed] using hpending
  | some parts =>
      rcases parts with ⟨key, raw⟩
      by_cases hraw : raw = [] ∨ raw = ['\x7b']
      · by_cases hkey : key = [] <;> simp [BodyState.readOuter, hnamed, hraw, hkey]
      · simp [BodyState.readOuter, hnamed, hraw]

theorem pending_openingState (body : List Char) : (openingState body).pending = opening? body := by
  rw [openingState, opening?]
  cases openingLine? body with
  | none => rfl
  | some first =>
      rw [Option.map_some, Option.getD_some, Option.bind_some, pending_readOuter rfl, headName?,
        namedValue?_trimLeft, headName?]

/-- A name that waits after the first line waits at the margin. -/
theorem openingState_of_some {body : List Char} {name : String} (h : opening? body = some name) :
    openingState body = { pending := some name } := by
  rcases Option.bind_eq_some_iff.1 h with ⟨first, hfirst, hname⟩
  rcases exists_of_headName? hname with ⟨key, raw, rfl, hnamed, hkey, hraw⟩
  rw [← namedValue?_trimLeft] at hnamed
  rw [openingState, hfirst, Option.map_some, Option.getD_some,
    BodyState.readOuter_of_head hnamed hkey hraw, indentation_trimLeft]

/-! ## Two readings in step -/

/-- States that agree, except that a name waits at an indentation that is deeper by `k`. -/
structure Shifted (k : Nat) (st other : BodyState) : Prop where
  entries_eq : other.entries = st.entries
  pending_eq : other.pending = st.pending
  nested_eq : other.nested = st.nested
  indent_eq : st.pending ≠ none → other.indent = k + st.indent

section

variable {k : Nat} {st other : BodyState}

theorem shifted_readOuter (h : Shifted k st other) (line : List Char) :
    Shifted k (st.readOuter line) (other.readOuter (indentLine k line)) := by
  unfold BodyState.readOuter
  rw [namedValue?_indentLine]
  cases namedValue? line with
  | none => exact ⟨h.entries_eq, h.pending_eq, rfl, h.indent_eq⟩
  | some parts =>
      rcases parts with ⟨key, raw⟩
      dsimp only
      split
      · exact ⟨h.entries_eq, rfl, rfl, fun _ => indentation_indentLine k line⟩
      · exact ⟨congrArg (Fields.set _ _) h.entries_eq, rfl, rfl, fun hwaits => absurd rfl hwaits⟩

theorem shifted_readLine (h : Shifted k st other) (line : List Char) :
    Shifted k (st.readLine line) (other.readLine (indentLine k line)) := by
  cases hpending : st.pending with
  | none =>
      have hother : other.pending = none := h.pending_eq.trans hpending
      rw [BodyState.readLine_of_no_pending hpending, BodyState.readLine_of_no_pending hother]
      exact shifted_readOuter h line
  | some name =>
      have hother : other.pending = some name := h.pending_eq.trans hpending
      have hwaits : st.pending ≠ none := by
        rw [hpending]
        nofun
      have hindent : other.indent = k + st.indent := h.indent_eq hwaits
      -- Both sides of the comparison are greater by `k`.
      have hdeep : other.indent < indentation (indentLine k line) ↔
          st.indent < indentation line := by
        rw [hindent, indentation_indentLine]
        exact Nat.add_lt_add_iff_left
      by_cases hline : st.indent < indentation line
      · rw [BodyState.readLine_of_deep hpending hline,
          BodyState.readLine_of_deep hother (hdeep.2 hline), BodyState.readNested_eq,
          BodyState.readNested_eq, h.entries_eq, h.nested_eq, addFields_singleton_indentLine]
        exact ⟨rfl, h.pending_eq, rfl, h.indent_eq⟩
      · rw [BodyState.readLine_of_not_deep hline, BodyState.readLine_of_not_deep (mt hdeep.1 hline)]
        exact shifted_readOuter h line

theorem shifted_foldl (h : Shifted k st other) (given : List (List Char)) :
    Shifted k (given.foldl BodyState.readLine st)
      ((given.map (indentLine k)).foldl BodyState.readLine other) := by
  rw [List.foldl_map]
  exact List.foldl_rel h fun line _ _ _ hstep => shifted_readLine hstep line

end

/-! ## Indented bodies -/

theorem openingLine?_indented (k : Nat) (body : List Char) :
    openingLine? (indented k body) = (openingLine? body).map (indentLine k) := by
  have hsignificant : isSignificant ∘ indentLine k = isSignificant :=
    funext (isSignificant_indentLine k)
  rw [openingLine?, openingLine?, filledLines_indented, List.head?_map, Option.filter_map,
    hsignificant]

theorem opening?_indented (k : Nat) (body : List Char) :
    opening? (indented k body) = opening? body := by
  rw [opening?, opening?, openingLine?_indented]
  cases openingLine? body with
  | none => rfl
  | some first =>
      rw [Option.map_some, Option.bind_some, Option.bind_some, headName?, headName?,
        namedValue?_indentLine]

theorem openingState_indented (k : Nat) (body : List Char) :
    openingState (indented k body) = openingState body := by
  rw [openingState, openingState, openingLine?_indented]
  cases openingLine? body with
  | none => rfl
  | some first => rw [Option.map_some, Option.map_some, Option.map_some, trimLeft_indentLine]

theorem laterLines_indented (k : Nat) (body : List Char) :
    laterLines (indented k body) = (laterLines body).map (indentLine k) := by
  have hsignificant : isSignificant ∘ indentLine k = isSignificant :=
    funext (isSignificant_indentLine k)
  rw [laterLines, laterLines, filledLines_indented, ← List.map_tail, List.filter_map, hsignificant]

/-- As long as no name waits after the first line, the later lines move together. -/
theorem readBody_indented_of_shifted {body : List Char} {k : Nat}
    (h : opening? body = none ∨ k = 0) : readBody (indented k body) = readBody body := by
  have hstart : Shifted k (openingState body) (openingState body) := by
    -- The first line is at the margin in both readings, so a name may not wait there.
    refine ⟨rfl, rfl, rfl, fun hwaits => ?_⟩
    rcases h with hnone | rfl
    · exact absurd ((pending_openingState body).trans hnone) hwaits
    · exact (Nat.zero_add _).symm
  calc
    readBody (indented k body)
      = ((laterLines (indented k body)).foldl BodyState.readLine
          (openingState (indented k body))).entries := readBody_eq_foldl_laterLines _
    _ = (((laterLines body).map (indentLine k)).foldl BodyState.readLine
          (openingState body)).entries := by rw [laterLines_indented, openingState_indented]
    _ = ((laterLines body).foldl BodyState.readLine (openingState body)).entries :=
        (shifted_foldl hstart (laterLines body)).entries_eq
    _ = readBody body := (readBody_eq_foldl_laterLines body).symm

/-- What becomes of lines that all belong to one name. -/
def gathered (name : String) (given : List (List Char)) : Fields Value :=
  if given.isEmpty then [] else [(name, .object (addFields [] given))]

theorem gathered_indentLine (k : Nat) (name : String) (given : List (List Char)) :
    gathered name (given.map (indentLine k)) = gathered name given := by
  rw [gathered, gathered, addFields_indentLine, List.isEmpty_map]

/-- If a name waits and the other lines are all deeper, they make one object. -/
theorem readBody_of_opening {body : List Char} {name : String} (h : opening? body = some name)
    (hdeep : ∀ line ∈ laterLines body, 0 < indentation line) :
    readBody body = gathered name (laterLines body) := by
  rw [readBody_eq_foldl_laterLines, openingState_of_some h]
  cases hlines : laterLines body with
  | nil => rfl
  | cons line rest =>
      rw [hlines] at hdeep
      rw [foldl_readLine_of_deep rfl (List.cons_ne_nil line rest) hdeep]
      rfl

theorem readBody_indented_of_opening {body : List Char} {name : String}
    (h : opening? body = some name) {k : Nat} (hk : 0 < k) :
    readBody (indented k body) = gathered name (laterLines body) := by
  have hopening : opening? (indented k body) = some name := (opening?_indented k body).trans h
  have hdeep : ∀ line ∈ laterLines (indented k body), 0 < indentation line := by
    rw [laterLines_indented]
    refine List.forall_mem_map.2 fun line _ => ?_
    rw [indentation_indentLine]
    exact Nat.add_pos_left hk _
  rw [readBody_of_opening hopening hdeep, laterLines_indented, gathered_indentLine]

/-- Indentation of a whole body is nothing to the reader, unless a name waits after the first line:
then all later lines belong to that name, also those that stood beside it. -/
theorem readBody_indented (body : List Char) (k : Nat) :
    (readBody (indented k body) =
      match opening? body with
      | none => readBody body
      | some name => if k = 0 then readBody body else gathered name (laterLines body)) ∧
    ((∀ line ∈ laterLines body, 0 < indentation line) →
      readBody (indented k body) = readBody body) := by
  cases hopening : opening? body with
  | none =>
      have hsame := readBody_indented_of_shifted (k := k) (.inl hopening)
      exact ⟨hsame, fun _ => hsame⟩
  | some name =>
      dsimp only
      split
      · rename_i hzero
        have hsame : readBody (indented k body) = readBody body :=
          readBody_indented_of_shifted (.inr hzero)
        exact ⟨hsame, fun _ => hsame⟩
      · rename_i hk
        have hgathered := readBody_indented_of_opening hopening (Nat.pos_of_ne_zero hk)
        exact ⟨hgathered, fun hdeep => hgathered.trans (readBody_of_opening hopening hdeep).symm⟩

theorem readBody_indented_nested :
    let body := "a:\n  b: 1\n c: 2".toList
    (∀ line ∈ laterLines body, 0 < indentation line) ∧
      readBody (indented 2 body) = readBody body := by
  have hdeep : ∀ line ∈ laterLines "a:\n  b: 1\n c: 2".toList, 0 < indentation line := by decide
  exact ⟨hdeep, (readBody_indented _ 2).2 hdeep⟩

/-- A name that stands beside the first one belongs to it after indentation. -/
theorem readBody_indented_siblings :
    let body := "a:\n  b: 1\nc: 2".toList
    let one := Value.read ['1']
    let two := Value.read ['2']
    readBody body = [("a", .object [("b", one)]), ("c", two)] ∧
      readBody (indented 2 body) = [("a", .object [("b", one), ("c", two)])] ∧
      readBody (indented 2 body) ≠ readBody body := by
  refine ⟨rfl, rfl, fun h => ?_⟩
  have hlength := congrArg List.length h
  cases hlength

end Spec
end ComponentSpec

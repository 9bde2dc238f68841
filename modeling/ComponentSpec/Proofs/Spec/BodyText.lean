import ComponentSpec.Proofs.Spec.Layout

/-!
# Bodies as they are written

A body is written entry by entry.  An entry is a name and a token on one line, or a name on a line
of its own, with an opening brace or without, and below it a name and a token on each of several
lines that are indented, each as it likes.

The reader keeps a name that waits, an object and an indentation.  Whatever the first two are after
an entry, the third is zero, because only names at the margin wait.  So a line at the margin always
begins a new entry, and the lines of a nested object are all below the name that waits.

Main statements: what the lines of one entry do (`isBetween_of_entry`), and that a body is read as
the entries that were written (`readBody_bodyOf`).
-/

namespace ComponentSpec
namespace Spec

open Text

/-! ## Lines as they are written -/

/-- Blanks that do not end the line. -/
def IsSpacing (s : List Char) : Prop :=
  ∀ c ∈ s, isBlank c = true ∧ c ≠ '\n'

instance : DecidablePred IsSpacing := fun s =>
  List.decidableBAll (fun c => isBlank c = true ∧ c ≠ '\n') s

/-- A name and a token around a colon; the blanks after the colon stay on the line. -/
structure WrittenPair where
  name : List Char
  gap : List Char
  token : List Char
  trim_name : trim name = name := by decide
  colon_not_mem_name : ':' ∉ name := by decide
  newline_not_mem_name : '\n' ∉ name := by decide
  head?_name : name.head? ≠ some '#' := by decide
  isSpacing_gap : IsSpacing gap := by decide
  trim_token : trim token = token := by decide
  newline_not_mem_token : '\n' ∉ token := by decide

namespace WrittenPair

variable (p : WrittenPair) (indent : List Char)

def key : String :=
  String.ofList p.name

def line : List Char :=
  p.name ++ ':' :: (p.gap ++ p.token)

def field : String × Value :=
  (p.key, Value.read p.token)

theorem newline_not_mem_line : '\n' ∉ p.line := by
  intro h
  simp only [line, List.mem_append, List.mem_cons] at h
  rcases h with hname | heq | hgap | htoken
  · exact p.newline_not_mem_name hname
  · cases heq
  · exact (p.isSpacing_gap _ hgap).2 rfl
  · exact p.newline_not_mem_token htoken

/-- The line begins with its name, or with the colon if the name is empty. -/
theorem exists_line : ∃ c rest, p.line = c :: rest ∧ isBlank c = false ∧ c ≠ '#' := by
  cases hname : p.name with
  | nil =>
      refine ⟨':', p.gap ++ p.token, ?_, by decide, by decide⟩
      rw [line, hname, List.nil_append]
  | cons c rest =>
      refine ⟨c, rest ++ ':' :: (p.gap ++ p.token), ?_, ?_, ?_⟩
      · rw [line, hname, List.cons_append]
      · refine head_trim (s := p.name) ?_
        rw [p.trim_name, hname]
        rfl
      · rintro rfl
        exact p.head?_name (by rw [hname]; rfl)

theorem indentation_line (hindent : ∀ c ∈ indent, isBlank c = true) :
    indentation (indent ++ p.line) = indent.length := by
  rcases p.exists_line with ⟨c, rest, hline, hc, -⟩
  rw [indentation, hline, List.takeWhile_append_of_pos hindent,
    List.takeWhile_cons_of_neg (Bool.eq_false_iff.1 hc), List.append_nil]

theorem isSignificant_line (hindent : ∀ c ∈ indent, isBlank c = true) :
    isSignificant (indent ++ p.line) = true := by
  rcases p.exists_line with ⟨c, rest, hline, hc, hcomment⟩
  have htrim : trim (indent ++ p.line) = c :: trimRight rest := by
    rw [trim_append_left hindent, hline]
    exact trim_append_cons hc [] rest
  rw [isSignificant, htrim]
  simpa using hcomment

theorem namedValue?_line (hindent : ∀ c ∈ indent, isBlank c = true) :
    namedValue? (indent ++ p.line) = some (p.name, p.token) := by
  have hcolon : ':' ∉ indent ++ p.name := by
    rw [List.mem_append, not_or]
    exact ⟨colon_not_mem_of_isBlank hindent, p.colon_not_mem_name⟩
  rw [namedValue?_eq, line, ← List.append_assoc, sides?_append hcolon, trim_append_left hindent,
    trim_append_left fun c hc => (p.isSpacing_gap c hc).1, p.trim_name, p.trim_token]

end WrittenPair

/-- A pair on a line that is indented. -/
structure NestedPair where
  indent : List Char
  pair : WrittenPair
  indent_ne_nil : indent ≠ [] := by decide
  isSpacing_indent : IsSpacing indent := by decide

namespace NestedPair

variable (p : NestedPair)

def line : List Char :=
  p.indent ++ p.pair.line

theorem indentation_pos : 0 < indentation p.line := by
  rw [line, p.pair.indentation_line p.indent fun c hc => (p.isSpacing_indent c hc).1]
  exact List.length_pos_iff.2 p.indent_ne_nil

theorem newline_not_mem_line : '\n' ∉ p.line := by
  intro h
  rcases List.mem_append.1 h with hindent | hpair
  · exact (p.isSpacing_indent _ hindent).2 rfl
  · exact p.pair.newline_not_mem_line hpair

theorem isSignificant_line : isSignificant p.line = true :=
  p.pair.isSignificant_line p.indent fun c hc => (p.isSpacing_indent c hc).1

theorem lineField?_line : lineField? p.line = some p.pair.field := by
  rw [lineField?, line, p.pair.namedValue?_line p.indent fun c hc => (p.isSpacing_indent c hc).1]
  rfl

end NestedPair

/-! ## Entries as they are written -/

/-- An entry of a body: a token, or an object of nested pairs below a name at the margin. -/
inductive WrittenEntry
  | plain (pair : WrittenPair) (name_ne_nil : pair.name ≠ []) (token_ne_nil : pair.token ≠ [])
      (token_ne_brace : pair.token ≠ ['\x7b'])
  | nested (head : WrittenPair) (name_ne_nil : head.name ≠ [])
      (token_eq : head.token = [] ∨ head.token = ['\x7b']) (pairs : List NestedPair)
      (pairs_ne_nil : pairs ≠ []) (nodup : (pairs.map fun p => p.pair.key).Nodup)

namespace WrittenEntry

def key : WrittenEntry → String
  | plain pair _ _ _ => pair.key
  | nested head _ _ _ _ _ => head.key

def lines : WrittenEntry → List (List Char)
  | plain pair _ _ _ => [pair.line]
  | nested head _ _ pairs _ _ => head.line :: pairs.map NestedPair.line

/-- The name of the entry with the value of its token, or with the values of its pairs in order. -/
def field : WrittenEntry → String × Value
  | plain pair _ _ _ => pair.field
  | nested head _ _ pairs _ _ => (head.key, .object (pairs.map fun p => p.pair.field))

theorem fst_field (entry : WrittenEntry) : entry.field.1 = entry.key := by
  cases entry <;> rfl

/-- The first line of an entry is at the margin. -/
theorem exists_lines (entry : WrittenEntry) :
    ∃ (p : WrittenPair) (others : List (List Char)), entry.lines = p.line :: others := by
  cases entry with
  | plain pair _ _ _ => exact ⟨pair, [], rfl⟩
  | nested head _ _ pairs _ _ => exact ⟨head, pairs.map NestedPair.line, rfl⟩

theorem lines_wellFormed (entry : WrittenEntry) :
    ∀ line ∈ entry.lines, '\n' ∉ line ∧ isSignificant line = true := by
  have hmargin : ∀ p : WrittenPair, '\n' ∉ p.line ∧ isSignificant p.line = true :=
    fun p => ⟨p.newline_not_mem_line, p.isSignificant_line [] nofun⟩
  cases entry with
  | plain pair _ _ _ => exact List.forall_mem_singleton.2 (hmargin pair)
  | nested head _ _ pairs _ _ =>
      refine List.forall_mem_cons.2 ⟨hmargin head, List.forall_mem_map.2 fun p _ => ?_⟩
      exact ⟨p.newline_not_mem_line, p.isSignificant_line⟩

end WrittenEntry

/-- The lines of the entries, one below the other. -/
def bodyOf (entries : List WrittenEntry) : List Char :=
  ['\n'].intercalate (entries.flatMap WrittenEntry.lines)

/-! ## What the lines of an entry do -/

/-- What is true of the state between two entries. -/
structure IsBetween (fields : Fields Value) (st : BodyState) : Prop where
  entries_eq : st.entries = fields
  indent_eq : st.indent = 0

theorem addFields_nested {pairs : List NestedPair}
    (hnodup : (pairs.map fun p => p.pair.key).Nodup) :
    addFields [] (pairs.map NestedPair.line) = pairs.map fun p => p.pair.field := by
  have hfields : (pairs.map NestedPair.line).filterMap lineField? =
      pairs.map fun p => p.pair.field := by
    rw [List.filterMap_map, List.filterMap_eq_map_iff_forall_eq_some]
    exact fun p _ => p.lineField?_line
  have hnames : (Fields.names (pairs.map fun p => p.pair.field)).Nodup := by
    rw [Fields.names, List.map_map]
    exact hnodup
  rw [addFields, hfields]
  exact Fields.ofPairs_of_nodup hnames

theorem readLine_margin {st : BodyState} (hindent : st.indent = 0) (p : WrittenPair) :
    st.readLine p.line = st.readOuter p.line := by
  have hmargin : indentation p.line = 0 := p.indentation_line [] nofun
  refine BodyState.readLine_of_not_deep ?_
  rw [hindent, hmargin]
  exact Nat.lt_irrefl 0

theorem isBetween_of_entry {fields : Fields Value} {st : BodyState} (h : IsBetween fields st)
    {entry : WrittenEntry} (hnew : entry.key ∉ fields.names) :
    IsBetween (fields ++ [entry.field]) (entry.lines.foldl BodyState.readLine st) := by
  cases entry with
  | plain pair hname htoken hbrace =>
      have hnamed : namedValue? pair.line = some (pair.name, pair.token) :=
        pair.namedValue?_line [] nofun
      rw [WrittenEntry.lines, List.foldl_cons, List.foldl_nil, readLine_margin h.indent_eq,
        BodyState.readOuter_of_value hnamed htoken hbrace]
      refine ⟨?_, h.indent_eq⟩
      dsimp only
      rw [h.entries_eq]
      exact Fields.set_of_not_mem hnew _
  | nested head hname htoken pairs hpairs hnodup =>
      -- The name waits at the margin, and every pair is deeper than that.
      have hnamed : namedValue? head.line = some (head.name, head.token) :=
        head.namedValue?_line [] nofun
      have hmargin : indentation head.line = 0 := head.indentation_line [] nofun
      have hdeep : ∀ line ∈ pairs.map NestedPair.line, 0 < indentation line :=
        List.forall_mem_map.2 fun p _ => p.indentation_pos
      have hne : pairs.map NestedPair.line ≠ [] := fun hnil => hpairs (List.map_eq_nil_iff.1 hnil)
      rw [WrittenEntry.lines, List.foldl_cons, readLine_margin h.indent_eq,
        BodyState.readOuter_of_head hnamed hname htoken, hmargin,
        foldl_readLine_of_deep rfl hne hdeep]
      refine ⟨?_, rfl⟩
      dsimp only
      rw [h.entries_eq, Option.getD_none, addFields_nested hnodup]
      exact Fields.set_of_not_mem hnew _

theorem isBetween_of_entries {fields : Fields Value} {st : BodyState} (h : IsBetween fields st)
    {entries : List WrittenEntry} (hnodup : (fields.names ++ entries.map WrittenEntry.key).Nodup) :
    IsBetween (fields ++ entries.map WrittenEntry.field)
      ((entries.flatMap WrittenEntry.lines).foldl BodyState.readLine st) := by
  induction entries generalizing fields st with
  | nil => simpa using h
  | cons entry rest ih =>
      have hnew : entry.key ∉ fields.names := by
        rw [List.map_cons, List.nodup_append] at hnodup
        exact fun hmem => hnodup.2.2 entry.key hmem entry.key (List.mem_cons_self ..) rfl
      have hnames : Fields.names (fields ++ [entry.field]) = fields.names ++ [entry.key] := by
        simp [Fields.names, entry.fst_field]
      -- The name of the entry moves over to the names that were read before.
      rw [List.map_cons, List.append_cons, ← hnames] at hnodup
      have hrest := ih (isBetween_of_entry h hnew) hnodup
      rw [List.map_cons, List.append_cons, List.flatMap_cons, List.foldl_append]
      exact hrest

/-! ## Reading back -/

/-- Blanks around a body are nothing to the reader. -/
theorem readBody_pad {before after : List Char} (hbefore : ∀ c ∈ before, isBlank c = true)
    (hafter : ∀ c ∈ after, isBlank c = true) (body : List Char) :
    readBody (before ++ (body ++ after)) = readBody body := by
  unfold readBody significantLines
  rw [trim_pad hbefore hafter]

theorem readBody_intercalate {given : List (List Char)}
    (hlines : ∀ line ∈ given, '\n' ∉ line ∧ isSignificant line = true)
    (hmargin : ∀ line, given.head? = some line → indentation line = 0) :
    readBody (['\n'].intercalate given) = (given.foldl BodyState.readLine {}).entries := by
  have hsignificant : given.filter isSignificant = given :=
    List.filter_eq_self.2 fun line hline => (hlines line hline).2
  have hfilled : filledLines (['\n'].intercalate given) = given := by
    cases given with
    | nil => rfl
    | cons first others =>
        rw [filledLines, lines_intercalate (List.cons_ne_nil first others)
          fun line hline => (hlines line hline).1]
        exact List.filter_eq_self.2 fun line hline => isFilled_of_isSignificant (hlines line hline).2
  have houtdent : outdentFirst given = given := by
    cases given with
    | nil => rfl
    | cons first others =>
        rw [outdentFirst, trimLeft_of_indentation (hmargin first rfl)]
  rw [readBody_eq, hfilled, houtdent, hsignificant]

/-- A body is read as the entries that were written. -/
theorem readBody_bodyOf {entries : List WrittenEntry}
    (hnodup : (entries.map WrittenEntry.key).Nodup) {before after : List Char}
    (hbefore : ∀ c ∈ before, isBlank c = true) (hafter : ∀ c ∈ after, isBlank c = true) :
    readBody (before ++ (bodyOf entries ++ after)) = entries.map WrittenEntry.field := by
  have hlines : ∀ line ∈ entries.flatMap WrittenEntry.lines,
      '\n' ∉ line ∧ isSignificant line = true := by
    intro line hline
    rcases List.mem_flatMap.1 hline with ⟨entry, -, hmem⟩
    exact entry.lines_wellFormed line hmem
  have hmargin : ∀ line, (entries.flatMap WrittenEntry.lines).head? = some line →
      indentation line = 0 := by
    intro line hline
    cases entries with
    | nil => cases hline
    | cons entry rest =>
        rcases entry.exists_lines with ⟨p, others, hfirst⟩
        rw [List.flatMap_cons, hfirst] at hline
        cases hline
        exact p.indentation_line [] nofun
  have hstart : IsBetween [] {} := ⟨rfl, rfl⟩
  rw [readBody_pad hbefore hafter, bodyOf, readBody_intercalate hlines hmargin]
  exact (isBetween_of_entries hstart hnodup).entries_eq

def buttonEntries : List WrittenEntry :=
  let states : WrittenPair := { name := "states".toList, gap := [' '], token := ['\x7b'] }
  let hover : WrittenPair := { name := "hover".toList, gap := ['\t'], token := "a: b".toList }
  let focus : WrittenPair := { name := "focus".toList, gap := [], token := [] }
  let role : WrittenPair := { name := "role".toList, gap := [' '], token := "button".toList }
  let size : WrittenPair := { name := "size".toList, gap := [], token := [] }
  let least : WrittenPair := { name := "min".toList, gap := [], token := ['\x7b'] }
  [.nested states (by decide) (by decide)
      [{ indent := "    ".toList, pair := hover }, { indent := ['\t'], pair := focus }]
      (by decide) (by decide),
    .plain role (by decide) (by decide) (by decide),
    .nested size (by decide) (by decide) [{ indent := [' '], pair := least }]
      (by decide) (by decide)]

theorem readBody_bodyOf_button :
    bodyOf buttonEntries =
        "states: \x7b\n    hover:\ta: b\n\tfocus:\nrole: button\nsize:\n min:\x7b".toList ∧
      readBody ("\n\n".toList ++ (bodyOf buttonEntries ++ "  \n".toList)) =
        [("states", .object [("hover", Value.read "a: b".toList), ("focus", Value.read [])]),
          ("role", Value.read "button".toList),
          ("size", .object [("min", Value.read ['\x7b'])])] :=
  ⟨by decide, readBody_bodyOf (by decide) (List.all_eq_true.1 (by decide))
    (List.all_eq_true.1 (by decide))⟩

end Spec
end ComponentSpec

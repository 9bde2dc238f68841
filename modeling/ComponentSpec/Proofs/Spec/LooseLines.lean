import ComponentSpec.Proofs.Spec.Content
import ComponentSpec.Proofs.Spec.Indentation

/-!
# Lines without a colon

A line without a colon gives no name a value, but it is not nothing to the reader of a body.  While
a name waits, such a line below it opens the object of the name, and such a line beside it closes
the object without ending the wait.  So the first makes an entry out of a name that had no value,
and after the second the lines further down begin a new object in the place of the old one.

Main statements: what a line without a colon does (`readLine_loose_of_deep`,
`readLine_loose_of_outer`), two readings that agree go on to agree (`alike_foldl`), and when such a
line may be taken out of a body (`readBody_without`).
-/

namespace ComponentSpec

/-! ## Some of the fields -/

namespace Fields

variable {α : Type}

/-- The fields whose names are kept, in order. -/
def only (keep : String → Bool) (fields : Fields α) : Fields α :=
  fields.filter fun field => keep field.1

theorem only_set (keep : String → Bool) (name : String) (value : α) (fields : Fields α) :
    only keep (set name value fields) =
      if keep name then set name value (only keep fields) else only keep fields := by
  induction fields with
  | nil => cases hkeep : keep name <;> simp [only, set, hkeep]
  | cons field rest ih =>
      rcases field with ⟨other, old⟩
      simp only [only] at ih ⊢
      by_cases heq : other = name
      · subst heq
        cases hkeep : keep other <;> simp [set, hkeep]
      · cases hkeep : keep other <;> cases hname : keep name <;> simp [set, heq, hkeep, hname, ih]

theorem only_true (fields : Fields α) : only (fun _ => true) fields = fields :=
  List.filter_eq_self.2 fun _ _ => rfl

/-- A name may be given the value that it has. -/
theorem set_of_get? {fields : Fields α} {name : String} {value : α}
    (h : fields.get? name = some value) : set name value fields = fields := by
  induction fields with
  | nil => cases h
  | cons field rest ih =>
      rcases field with ⟨other, old⟩
      by_cases heq : other = name
      · subst heq
        have hold : old = value := by simpa [get?] using h
        simp [set, hold]
      · have hrest : get? rest name = some value := by simpa [get?, heq] using h
        simp [set, heq, ih hrest]

end Fields

namespace Spec

open Text

theorem namedValue?_eq_none_iff {line : List Char} : namedValue? line = none ↔ ':' ∉ line := by
  rw [namedValue?_eq, sides?, Option.map_eq_none_iff, cut?_eq_none_iff]

/-! ## What a line without a colon does -/

/-- The object that the lines below the waiting name have made so far. -/
def BodyState.object (st : BodyState) : Fields Value :=
  st.nested.getD []

section

variable {st : BodyState} {name : String} {line : List Char}

/-- A line without a colon below the waiting name gives it the object as it stands. -/
theorem readLine_loose_of_deep (hcolon : ':' ∉ line) (hname : st.pending = some name)
    (hdeep : st.indent < indentation line) :
    st.readLine line =
      { st with
        entries := st.entries.set name (.object st.object)
        nested := some st.object } := by
  have hnamed : namedValue? line = none := namedValue?_eq_none_iff.2 hcolon
  rw [BodyState.readLine_of_deep hname hdeep, BodyState.readNested, hnamed]
  rfl

/-- Any other line without a colon closes the object, and a name that waits goes on waiting. -/
theorem readLine_loose_of_outer (hcolon : ':' ∉ line)
    (houter : st.pending = none ∨ ¬ st.indent < indentation line) :
    st.readLine line = { st with nested := none } := by
  have hread : st.readLine line = st.readOuter line := by
    rcases houter with hnone | hbeside
    · exact BodyState.readLine_of_no_pending hnone
    · exact BodyState.readLine_of_not_deep hbeside
  rw [hread, readOuter_of_no_colon st (namedValue?_eq_none_iff.2 hcolon)]

/-- The line changes nothing of what the entries are or come to be: no name waits, or the line is
below the name and the name has the object already, or it is beside the name and there is nothing in
the object. -/
def IsIdle (st : BodyState) (line : List Char) : Prop :=
  ∀ name, st.pending = some name →
    if st.indent < indentation line then st.entries.get? name = some (.object st.object)
    else st.object = []

theorem not_isIdle (h : ¬ IsIdle st line) :
    ∃ name, st.pending = some name ∧
      (st.indent < indentation line ∧ st.entries.get? name ≠ some (.object st.object) ∨
        ¬ st.indent < indentation line ∧ st.object ≠ []) := by
  unfold IsIdle at h
  push Not at h
  rcases h with ⟨name, hname, hline⟩
  refine ⟨name, hname, ?_⟩
  split at hline
  · exact .inl ⟨‹_›, hline⟩
  · exact .inr ⟨‹_›, hline⟩

/-! ## Two readings that agree -/

/-- The states agree on the names that are kept: on their entries, and on the object of the waiting
name if it is one of them. -/
structure Alike (keep : String → Bool) (st other : BodyState) : Prop where
  entries_eq : st.entries.only keep = other.entries.only keep
  pending_eq : st.pending = other.pending
  object_eq : ∀ name, st.pending = some name → keep name = true → st.object = other.object
  indent_eq : st.indent = other.indent

variable {keep : String → Bool} {other : BodyState}

theorem alike_readOuter (h : Alike keep st other) (line : List Char) :
    Alike keep (st.readOuter line) (other.readOuter line) := by
  unfold BodyState.readOuter
  cases namedValue? line with
  | none => exact ⟨h.entries_eq, h.pending_eq, fun _ _ _ => rfl, h.indent_eq⟩
  | some parts =>
      dsimp only
      split
      · exact ⟨h.entries_eq, rfl, fun _ _ _ => rfl, rfl⟩
      · refine ⟨?_, rfl, fun _ _ _ => rfl, h.indent_eq⟩
        rw [Fields.only_set, Fields.only_set, h.entries_eq]

theorem alike_readNested (h : Alike keep st other) (hname : st.pending = some name)
    (line : List Char) : Alike keep (st.readNested name line) (other.readNested name line) := by
  rw [BodyState.readNested_eq, BodyState.readNested_eq]
  cases hkeep : keep name with
  | false =>
      -- The two objects may differ, but they are only given to a name that is not kept.
      refine ⟨?_, h.pending_eq, fun other hother hkept => ?_, h.indent_eq⟩
      · simp only [Fields.only_set, hkeep, Bool.false_eq_true, if_false]
        exact h.entries_eq
      · cases hname.symm.trans hother
        rw [hkeep] at hkept
        cases hkept
  | true =>
      have hobject : st.nested.getD [] = other.nested.getD [] := h.object_eq name hname hkeep
      rw [hobject]
      refine ⟨?_, h.pending_eq, fun _ _ _ => rfl, h.indent_eq⟩
      simp only [Fields.only_set, hkeep, if_true, h.entries_eq]

theorem alike_readLine (h : Alike keep st other) (line : List Char) :
    Alike keep (st.readLine line) (other.readLine line) := by
  cases hname : st.pending with
  | none =>
      rw [BodyState.readLine_of_no_pending hname,
        BodyState.readLine_of_no_pending (h.pending_eq ▸ hname)]
      exact alike_readOuter h line
  | some name =>
      by_cases hdeep : st.indent < indentation line
      · rw [BodyState.readLine_of_deep hname hdeep,
          BodyState.readLine_of_deep (h.pending_eq ▸ hname) (h.indent_eq ▸ hdeep)]
        exact alike_readNested h hname line
      · rw [BodyState.readLine_of_not_deep hdeep,
          BodyState.readLine_of_not_deep (h.indent_eq ▸ hdeep)]
        exact alike_readOuter h line

/-- Two readings that agree go on to agree, whatever is read. -/
theorem alike_foldl (h : Alike keep st other) (given : List (List Char)) :
    Alike keep (given.foldl BodyState.readLine st) (given.foldl BodyState.readLine other) :=
  List.foldl_rel h fun line _ _ _ hstep => alike_readLine hstep line

theorem alike_of_isIdle (hcolon : ':' ∉ line) (h : IsIdle st line) :
    Alike (fun _ => true) (st.readLine line) st := by
  cases hname : st.pending with
  | none =>
      rw [readLine_loose_of_outer hcolon (.inl hname)]
      refine ⟨rfl, rfl, fun name (hwaits : st.pending = some name) => ?_, rfl⟩
      cases hname.symm.trans hwaits
  | some name =>
      have hidle := h name hname
      split at hidle
      · rename_i hdeep
        rw [readLine_loose_of_deep hcolon hname hdeep, Fields.set_of_get? hidle]
        exact ⟨rfl, rfl, fun _ _ _ => rfl, rfl⟩
      · rename_i hbeside
        rw [readLine_loose_of_outer hcolon (.inr hbeside)]
        exact ⟨rfl, rfl, fun _ _ _ => hidle.symm, rfl⟩

/-- The other names see nothing of the line, idle or not. -/
theorem alike_of_waiting (hcolon : ':' ∉ line) (hname : st.pending = some name) :
    Alike (· != name) (st.readLine line) st := by
  have hother : ∀ other, st.pending = some other → ¬ (other != name) = true := by
    intro other hwaits
    cases hname.symm.trans hwaits
    simp
  by_cases hdeep : st.indent < indentation line
  · rw [readLine_loose_of_deep hcolon hname hdeep]
    refine ⟨?_, rfl, fun _ _ _ => rfl, rfl⟩
    simp [Fields.only_set]
  · rw [readLine_loose_of_outer hcolon (.inr hdeep)]
    exact ⟨rfl, rfl, fun other hwaits hkept => absurd hkept (hother other hwaits), rfl⟩

/-! ## Lines that are not idle -/

/-- A line below the waiting name that gives it nothing. -/
def deepLine (st : BodyState) : List Char :=
  indentLine (st.indent + 1) ['x']

theorem colon_not_mem_deepLine (st : BodyState) : ':' ∉ deepLine st := by
  simp [deepLine, indentLine]

theorem newline_not_mem_deepLine (st : BodyState) : '\n' ∉ deepLine st := by
  simp [deepLine, indentLine]

theorem isSignificant_deepLine (st : BodyState) : isSignificant (deepLine st) = true := by
  rw [deepLine, isSignificant_indentLine]
  rfl

theorem indent_lt_deepLine (st : BodyState) : st.indent < indentation (deepLine st) := by
  rw [deepLine, indentation_indentLine]
  omega

theorem get?_readLine_of_deep (hcolon : ':' ∉ line) (hname : st.pending = some name)
    (hdeep : st.indent < indentation line) :
    (st.readLine line).entries.get? name = some (.object st.object) := by
  rw [readLine_loose_of_deep hcolon hname hdeep]
  dsimp only
  rw [Fields.get?_set, if_pos rfl]

/-- After a line that is not idle, there is a way to go on that shows it. -/
theorem exists_foldl_ne (hcolon : ':' ∉ line) (h : ¬ IsIdle st line) :
    ∃ after : List (List Char),
      (∀ given ∈ after, '\n' ∉ given ∧ isSignificant given = true) ∧
        (after.foldl BodyState.readLine (st.readLine line)).entries ≠
          (after.foldl BodyState.readLine st).entries := by
  rcases not_isIdle h with ⟨name, hname, ⟨hdeep, hother⟩ | ⟨hbeside, hsome⟩⟩
  · -- The line itself has changed what the name holds, so nothing need follow.
    refine ⟨[], nofun, fun heq => hother ?_⟩
    rw [← get?_readLine_of_deep hcolon hname hdeep]
    exact congrArg (Fields.get? · name) heq.symm
  · have hafter := And.intro (newline_not_mem_deepLine st) (isSignificant_deepLine st)
    refine ⟨[deepLine st], List.forall_mem_singleton.2 hafter, fun heq => ?_⟩
    have hcolon' := colon_not_mem_deepLine st
    have hdeep := indent_lt_deepLine st
    have hclosed := readLine_loose_of_outer hcolon (.inr hbeside)
    -- Without the line the object is kept, and with it a new one is begun.
    have hkept : (st.readLine (deepLine st)).entries.get? name = some (.object st.object) :=
      get?_readLine_of_deep hcolon' hname hdeep
    have hbegun : ((st.readLine line).readLine (deepLine st)).entries.get? name =
        some (.object []) := by
      rw [hclosed]
      exact get?_readLine_of_deep hcolon' hname hdeep
    rw [List.foldl_cons, List.foldl_nil, List.foldl_cons, List.foldl_nil] at heq
    rw [heq, hkept] at hbegun
    exact hsome (Value.object.inj (Option.some.inj hbegun))

end

/-! ## Taking a line out of a body -/

/-- The other body is the body without the line that comes after these lines. -/
def IsWithout (before : List (List Char)) (line body other : List Char) : Prop :=
  ∃ after, lines body = before ++ line :: after ∧ lines other = before ++ after

theorem only_readBody_of_alike {before : List (List Char)} {line body other : List Char}
    (hfirst : ∃ first ∈ before, isFilled first = true) (h : IsWithout before line body other)
    {keep : String → Bool}
    (halike : isSignificant line = true →
      Alike keep ((stateAfter before).readLine line) (stateAfter before)) :
    (readBody body).only keep = (readBody other).only keep := by
  rcases h with ⟨after, hbody, hother⟩
  rw [readBody_of_lines hbody hfirst, readBody_of_lines hother hfirst, List.filter_cons]
  split
  · rename_i hline
    exact (alike_foldl (halike hline) _).entries_eq
  · rfl

/-- Every line that is not idle can be seen in some body. -/
theorem exists_isWithout_ne {before : List (List Char)} {line : List Char}
    (hbefore : ∀ given ∈ before, '\n' ∉ given) (hline : '\n' ∉ line)
    (hfirst : ∃ first ∈ before, isFilled first = true) (hcolon : ':' ∉ line)
    (hsignificant : isSignificant line = true) (h : ¬ IsIdle (stateAfter before) line) :
    ∃ body other, IsWithout before line body other ∧ readBody body ≠ readBody other := by
  rcases exists_foldl_ne hcolon h with ⟨after, hafter, hne⟩
  have hgiven : ∀ given ∈ after, '\n' ∉ given := fun given hmem => (hafter given hmem).1
  have hne_nil : before ++ after ≠ [] := by
    rcases hfirst with ⟨first, hmem, -⟩
    exact List.append_ne_nil_of_left_ne_nil (List.ne_nil_of_mem hmem) after
  have hbody : lines (['\n'].intercalate (before ++ line :: after)) = before ++ line :: after :=
    lines_intercalate (by simp)
      (List.forall_mem_append.2 ⟨hbefore, List.forall_mem_cons.2 ⟨hline, hgiven⟩⟩)
  have hother : lines (['\n'].intercalate (before ++ after)) = before ++ after :=
    lines_intercalate hne_nil (List.forall_mem_append.2 ⟨hbefore, hgiven⟩)
  have hall : after.filter isSignificant = after :=
    List.filter_eq_self.2 fun given hmem => (hafter given hmem).2
  refine ⟨_, _, ⟨after, hbody, hother⟩, ?_⟩
  rw [readBody_of_lines hbody hfirst, readBody_of_lines hother hfirst,
    List.filter_cons_of_pos hsignificant, hall]
  exact hne

/-- A line without a colon may be taken out of every body that begins with the same lines, exactly
if it is blank or a comment or idle.  In any case only the waiting name can tell the difference. -/
theorem readBody_without {before : List (List Char)} {line : List Char}
    (hbefore : ∀ given ∈ before, '\n' ∉ given) (hline : '\n' ∉ line)
    (hfirst : ∃ first ∈ before, isFilled first = true) (hcolon : ':' ∉ line) :
    ((∀ body other, IsWithout before line body other → readBody body = readBody other) ↔
        (isSignificant line = true → IsIdle (stateAfter before) line)) ∧
      ∀ name body other, (stateAfter before).pending = some name →
        IsWithout before line body other →
          (readBody body).only (· != name) = (readBody other).only (· != name) := by
  refine ⟨⟨fun h hsignificant => ?_, fun hidle body other h => ?_⟩,
    fun name body other hname h => ?_⟩
  · by_contra hidle
    rcases exists_isWithout_ne hbefore hline hfirst hcolon hsignificant hidle with
      ⟨body, other, hwithout, hne⟩
    exact hne (h body other hwithout)
  · have hall := only_readBody_of_alike hfirst h fun hsignificant =>
      alike_of_isIdle hcolon (hidle hsignificant)
    rwa [Fields.only_true, Fields.only_true] at hall
  · exact only_readBody_of_alike hfirst h fun _ => alike_of_waiting hcolon hname

/-- A line below the waiting name is idle once the name has an object. -/
theorem readBody_without_note :
    let before := ["a:".toList, "  b: 1".toList]
    let note := "  note".toList
    (∀ given ∈ before, '\n' ∉ given) ∧ '\n' ∉ note ∧ (∃ first ∈ before, isFilled first = true) ∧
      ':' ∉ note ∧ IsIdle (stateAfter before) note ∧
      readBody "a:\n  b: 1\n  note\nc: 2".toList = readBody "a:\n  b: 1\nc: 2".toList := by
  have hidle : IsIdle (stateAfter ["a:".toList, "  b: 1".toList]) "  note".toList := by
    intro name hname
    cases hname
    rfl
  refine ⟨by decide, by decide, by decide, by decide, hidle, ?_⟩
  exact (readBody_without (by decide) (by decide) (by decide) (by decide)).1.2 (fun _ => hidle) _ _
    ⟨["c: 2".toList], by decide, by decide⟩

/-- Beside the waiting name a line loses what was read of its object, and below a waiting name
without an object a line makes an entry. -/
theorem readBody_without_ne :
    let body := "a:\n  b: 1\nnote\n  c: 2".toList
    let other := "a:\n  b: 1\n  c: 2".toList
    let one := Value.read ['1']
    let two := Value.read ['2']
    (IsWithout ["a:".toList, "  b: 1".toList] "note".toList body other ∧ ':' ∉ "note".toList ∧
      readBody body = [("a", .object [("c", two)])] ∧
      readBody other = [("a", .object [("b", one), ("c", two)])] ∧
      readBody body ≠ readBody other) ∧
    (IsWithout ["a:".toList] "  note".toList "a:\n  note".toList "a:".toList ∧
      readBody "a:\n  note".toList = [("a", .object [])] ∧ readBody "a:".toList = []) := by
  refine ⟨⟨⟨["  c: 2".toList], by decide, by decide⟩, by decide, rfl, rfl, fun h => ?_⟩,
    ⟨[], by decide, by decide⟩, rfl, rfl⟩
  have hlost := Value.object.inj (congrArg Prod.snd (List.cons.inj h).1)
  cases congrArg List.length hlost

end Spec
end ComponentSpec

import ComponentSpec.Proofs.Spec.RuleForm

/-!
# Bodies without nested objects

Rules and entries are read from a body by two readers.  One looks at each line on its own and knows
the rules whose parameter has a regular form; the other keeps a name that waits for nested lines and
looks at indentation.  On a body in which no line calls for either, no name ever waits, and the two
readers do the same line by line.

Main statements: what either reader does with a plain line (`readRule_of_isPlain`,
`isFlat_readLine`), and that they read the same (`readRules_eq_readBody`).
-/

namespace ComponentSpec
namespace Spec

open Text

/-- If the line has a colon, the name before the first one is that of a rule without a regular form,
and what stands after it begins no nested object. -/
def IsPlain (line : List Char) : Prop :=
  ∀ key raw, line = key ++ ':' :: raw → ':' ∉ key →
    String.ofList (trim key) ∉ shapedRules ∧ trim raw ≠ [] ∧ trim raw ≠ ['\x7b']

theorem isPlain_iff {line : List Char} :
    IsPlain line ↔ ∀ parts ∈ namedValue? line,
      String.ofList parts.1 ∉ shapedRules ∧ parts.2 ≠ [] ∧ parts.2 ≠ ['\x7b'] := by
  constructor
  · rintro h ⟨name, value⟩ hparts
    rw [Option.mem_def, namedValue?_eq, sides?_eq_some_iff] at hparts
    rcases hparts with ⟨key, raw, hline, hkey, rfl, rfl⟩
    exact h key raw hline hkey
  · intro h key raw hline hkey
    refine h (trim key, trim raw) ?_
    rw [Option.mem_def, namedValue?_eq, sides?_eq_some_iff]
    exact ⟨key, raw, hline, hkey, rfl, rfl⟩

instance : DecidablePred IsPlain := fun _ =>
  decidable_of_iff _ isPlain_iff.symm

theorem isPlain_trim_iff {line : List Char} : IsPlain (trim line) ↔ IsPlain line := by
  rw [isPlain_iff, isPlain_iff, namedValue?, namedValue?, trim_trim]

section

variable {line : List Char}

theorem readRule_of_isPlain (h : IsPlain line) (rules : Fields Value) :
    readRule rules line = addFields rules [line] := by
  unfold readRule addFields lineField?
  cases hnamed : namedValue? line with
  | none => simp [hnamed]
  | some parts =>
      have hname := (isPlain_iff.1 h parts hnamed).1
      have hfree := normalizeRule_of_regular (.free hname (Value.read parts.2))
      simp [hnamed, hfree]

/-- The state has these entries, and no name waits. -/
structure IsFlat (entries : Fields Value) (st : BodyState) : Prop where
  entries_eq : st.entries = entries
  pending_eq : st.pending = none

theorem isFlat_readLine (h : IsPlain line) {entries : Fields Value} {st : BodyState}
    (hflat : IsFlat entries st) : IsFlat (addFields entries [line]) (st.readLine line) := by
  rw [BodyState.readLine_of_no_pending hflat.pending_eq]
  cases hnamed : namedValue? line with
  | none =>
      rw [readOuter_of_no_colon st hnamed]
      refine ⟨?_, hflat.pending_eq⟩
      simp [addFields, lineField?, hnamed, hflat.entries_eq]
  | some parts =>
      rcases isPlain_iff.1 h parts hnamed with ⟨-, hraw, hbrace⟩
      rw [BodyState.readOuter_of_value hnamed hraw hbrace]
      refine ⟨?_, rfl⟩
      simp [addFields, lineField?, hnamed, hflat.entries_eq]

end

theorem foldl_readRule_of_isPlain {given : List (List Char)} (h : ∀ line ∈ given, IsPlain line)
    (rules : Fields Value) : given.foldl readRule rules = addFields rules given := by
  induction given generalizing rules with
  | nil => rfl
  | cons line rest ih =>
      rw [List.forall_mem_cons] at h
      rw [List.foldl_cons, readRule_of_isPlain h.1, ih h.2, ← addFields_cons]

theorem isFlat_foldl {given : List (List Char)} (h : ∀ line ∈ given, IsPlain line)
    {entries : Fields Value} {st : BodyState} (hflat : IsFlat entries st) :
    IsFlat (addFields entries given) (given.foldl BodyState.readLine st) := by
  induction given generalizing entries st with
  | nil => exact hflat
  | cons line rest ih =>
      rw [List.forall_mem_cons] at h
      rw [List.foldl_cons, addFields_cons]
      exact ih h.2 (isFlat_readLine h.1 hflat)

theorem isPlain_of_mem_significantLines {body : List Char}
    (h : ∀ line ∈ lines body, isSignificant line = true → IsPlain line) :
    ∀ line ∈ significantLines body, IsPlain line := by
  intro line hline
  have hcontent : trim line ∈ content body := by
    rw [← map_trim_significantLines]
    exact List.mem_map_of_mem hline
  rcases List.mem_map.1 hcontent with ⟨written, hwritten, htrim⟩
  rcases List.mem_filter.1 hwritten with ⟨hmem, hsignificant⟩
  rw [← isPlain_trim_iff, ← htrim, isPlain_trim_iff]
  exact h written hmem hsignificant

/-- A body of plain lines gives the same as rules and as entries, names in the same order. -/
theorem readRules_eq_readBody {body : List Char}
    (h : ∀ line ∈ lines body, isSignificant line = true → IsPlain line) :
    readRules body = readBody body := by
  have hplain := isPlain_of_mem_significantLines h
  have hstart : IsFlat [] {} := ⟨rfl, rfl⟩
  calc
    readRules body = addFields [] (significantLines body) := foldl_readRule_of_isPlain hplain []
    _ = readBody body := (isFlat_foldl hplain hstart).entries_eq.symm

theorem readRules_eq_readBody_keyboard :
    let body := "  keyboard: true\n      xss: strict\n # motion: on\nnote\n keyboard: false".toList
    (∀ line ∈ lines body, isSignificant line = true → IsPlain line) ∧
      readRules body = readBody body := by
  have hplain : ∀ line ∈ lines
      "  keyboard: true\n      xss: strict\n # motion: on\nnote\n keyboard: false".toList,
      isSignificant line = true → IsPlain line := by decide
  exact ⟨hplain, readRules_eq_readBody hplain⟩

end Spec
end ComponentSpec

import ComponentSpec.Number.Numeral
import ComponentSpec.Text.Scan
import ComponentSpec.Value.Basic

/-!
# Reading values

A token of a document is read as the first of these that it is: a text between equal quotes, a flag,
a number, a list in brackets, an object in braces, a comparison with a limit, or a plain text.
Lists and objects are split at every comma, so they do not nest.

The reader is total on all tokens: each item, each field and each operand is a shorter text than the
token that holds it (`length_of_listItems?`, `length_of_objectPairs?`, `length_of_operand?`).
-/

namespace ComponentSpec
namespace Value

open Text

/-! ## The parts of a token -/

/-- The trimmed items of a token in brackets. -/
def listItems? (s : List Char) : Option (List (List Char)) :=
  (enclosed? '[' ']' s).map fun inner => (pieces ',' inner).map trim

/-- The trimmed names and values of a token in braces; an item without a colon is no field. -/
def objectPairs? (s : List Char) : Option (List (List Char × List Char)) :=
  (enclosed? '\x7b' '\x7d' s).map fun inner =>
    (pieces ',' inner).filterMap fun piece =>
      (cut? ':' piece).map fun (name, raw) => (trim name, trim raw)

/-- The operand after the sign of a comparison: what follows the blanks, on one line.  Of an operand
that is blank as a whole its last character remains. -/
def operand? (s : List Char) : Option (List Char) :=
  let body := dropFinalNewline s
  match trimLeft body with
  | [] =>
      -- Nothing but blanks: an operand has one character at least, and it is no line feed.
      match body.getLast? with
      | some c => if c == '\n' then none else some [c]
      | none => none
  | rest => if rest.contains '\n' then none else some rest

/-- The relation and the operand of a comparison.  The longer signs are tried first. -/
def comparison? : List Char → Option (Relation × List Char)
  | '>' :: '=' :: rest =>
      -- Without an operand after it, the equality sign is the operand.
      ((operand? rest).map (.atLeast, ·)).or ((operand? ('=' :: rest)).map (.above, ·))
  | '<' :: '=' :: rest =>
      ((operand? rest).map (.atMost, ·)).or ((operand? ('=' :: rest)).map (.below, ·))
  | '>' :: rest => (operand? rest).map (.above, ·)
  | '<' :: rest => (operand? rest).map (.below, ·)
  | _ => none

/-- The text between equal quotes of either kind. -/
def unquoted? (s : List Char) : Option (List Char) :=
  (enclosed? '"' '"' s).or (enclosed? '\'' '\'' s)

/-- The flag that a token spells. -/
def flag? (s : List Char) : Option Bool :=
  if s == "true".toList then some true
  else if s == "false".toList then some false
  else none

/-- The number that a token spells, with a line feed at its end at most. -/
def numeral? (s : List Char) : Option Binary64 :=
  strictReal? (dropFinalNewline s)

/-! ## The parts are shorter -/

theorem length_of_listItems? {s item : List Char} {items : List (List Char)}
    (h : listItems? s = some items) (hi : item ∈ items) : item.length < s.length := by
  simp only [listItems?, Option.map_eq_some_iff] at h
  obtain ⟨inner, hinner, rfl⟩ := h
  obtain ⟨piece, hpiece, rfl⟩ := List.mem_map.1 hi
  have h1 := length_lt_of_enclosed? hinner
  have h2 := length_le_of_mem_pieces hpiece
  have h3 := length_trim_le piece
  omega

theorem length_of_objectPairs? {s name raw : List Char} {pairs : List (List Char × List Char)}
    (h : objectPairs? s = some pairs) (hp : (name, raw) ∈ pairs) : raw.length < s.length := by
  simp only [objectPairs?, Option.map_eq_some_iff] at h
  obtain ⟨inner, hinner, rfl⟩ := h
  obtain ⟨piece, hpiece, hcut⟩ := List.mem_filterMap.1 hp
  simp only [Option.map_eq_some_iff, Prod.exists, Prod.mk.injEq] at hcut
  obtain ⟨n, r, hcut, rfl, rfl⟩ := hcut
  have h1 := length_lt_of_enclosed? hinner
  have h2 := length_le_of_mem_pieces hpiece
  have h3 := length_of_cut? hcut
  have h4 := length_trim_le r
  omega

theorem length_of_operand? {s operand : List Char} (h : operand? s = some operand) :
    operand.length ≤ s.length := by
  have hlen := length_dropFinalNewline_le s
  unfold operand? at h
  simp only [] at h
  split at h
  · split at h
    · rename_i c hc
      split at h
      · simp at h
      · simp only [Option.some.injEq] at h
        have : (dropFinalNewline s) ≠ [] := by
          intro e
          simp [e] at hc
        have := List.length_pos_iff.2 this
        rw [← h]
        simp only [List.length_singleton]
        omega
    · simp at h
  · split at h
    · simp at h
    · simp only [Option.some.injEq] at h
      rw [← h]
      exact Nat.le_trans (length_trimLeft_le _) hlen

theorem length_of_comparison? {s operand : List Char} {relation : Relation}
    (h : comparison? s = some (relation, operand)) : operand.length < s.length := by
  unfold comparison? at h
  split at h
  all_goals
    simp only [Option.or_eq_some_iff, Option.map_eq_some_iff, Prod.mk.injEq, reduceCtorEq] at h
  · rcases h with ⟨o, ho, _, rfl⟩ | ⟨_, o, ho, _, rfl⟩
    · have := length_of_operand? ho
      simp only [List.length_cons]
      omega
    · have := length_of_operand? ho
      simp only [List.length_cons] at this ⊢
      omega
  · rcases h with ⟨o, ho, _, rfl⟩ | ⟨_, o, ho, _, rfl⟩
    · have := length_of_operand? ho
      simp only [List.length_cons]
      omega
    · have := length_of_operand? ho
      simp only [List.length_cons] at this ⊢
      omega
  · obtain ⟨o, ho, _, rfl⟩ := h
    have := length_of_operand? ho
    simp only [List.length_cons]
    omega
  · obtain ⟨o, ho, _, rfl⟩ := h
    have := length_of_operand? ho
    simp only [List.length_cons]
    omega

/-! ## The reader -/

/-- The value that a token denotes. -/
def read (s : List Char) : Value :=
  match unquoted? s with
  | some inner => .text (String.ofList inner)
  | none =>
  match flag? s with
  | some b => .flag b
  | none =>
  match numeral? s with
  | some x => .number x
  | none =>
  -- From here on the parts are read in turn, and each of them is shorter.
  match _ : listItems? s with
  | some items => .list (items.attach.map fun ⟨item, _⟩ => read item)
  | none =>
  match _ : objectPairs? s with
  | some pairs =>
      .object (Fields.ofPairs (pairs.attach.map fun ⟨(name, raw), _⟩ =>
        (String.ofList name, read raw)))
  | none =>
  match _ : comparison? s with
  | some (relation, operand) => .comparison relation (read operand)
  | none => .text (String.ofList s)
termination_by s.length
decreasing_by
  · exact length_of_listItems? ‹_› ‹_›
  · exact length_of_objectPairs? ‹_› ‹_›
  · exact length_of_comparison? ‹_›

end Value
end ComponentSpec

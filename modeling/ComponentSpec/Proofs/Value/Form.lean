import ComponentSpec.Proofs.Text.Fragment
import ComponentSpec.Proofs.Text.Padding
import ComponentSpec.Value.Read

/-!
# Forms of tokens

A token is looked at before its parts are read.  It is a value already, or its items, fields or
operand are tokens that the reader turns to next.  What has to be known of a token is said once, of
its form: each part is shorter than the token, and each part and each name is a fragment of it.  A
property of all values that are read then follows from what happens at one form (`read_induction`).

Main statements: the reader gives the value of the form (`read_eq_value`), the parts are shorter
(`Form.Of.length_lt`) and stand in the token (`Form.Of.isInfix_of_mem_parts`).
-/

namespace ComponentSpec

/-! ## Fields that were set -/

namespace Fields

variable {α : Type}

theorem mem_of_mem_set {fields : Fields α} {name other : String} {value a : α}
    (h : (other, a) ∈ set name value fields) :
    (other = name ∧ a = value) ∨ (other, a) ∈ fields := by
  induction fields with
  | nil =>
      rcases List.mem_singleton.1 h with ⟨rfl, rfl⟩
      exact .inl ⟨rfl, rfl⟩
  | cons field rest ih =>
      rcases field with ⟨n, b⟩
      rw [set] at h
      split at h
      · rename_i hn
        rcases List.mem_cons.1 h with heq | hmem
        · cases heq
          exact .inl ⟨beq_iff_eq.1 hn, rfl⟩
        · exact .inr (List.mem_cons_of_mem _ hmem)
      · rcases List.mem_cons.1 h with heq | hmem
        · cases heq
          exact .inr (List.mem_cons_self ..)
        · exact (ih hmem).imp_right (List.mem_cons_of_mem _)

theorem mem_of_mem_ofPairs {pairs : List (String × α)} {name : String} {a : α}
    (h : (name, a) ∈ ofPairs pairs) : (name, a) ∈ pairs := by
  -- The fields that were set before come first.
  have hfold : ∀ start : Fields α,
      (name, a) ∈ pairs.foldl (fun fields pair => fields.set pair.1 pair.2) start →
        (name, a) ∈ start ∨ (name, a) ∈ pairs := by
    clear h
    induction pairs with
    | nil => exact fun start h => .inl h
    | cons pair rest ih =>
        intro start h
        rcases ih _ h with hset | hrest
        · rcases mem_of_mem_set hset with ⟨rfl, rfl⟩ | hstart
          · exact .inr (List.mem_cons_self ..)
          · exact .inl hstart
        · exact .inr (List.mem_cons_of_mem _ hrest)
  exact (hfold [] h).resolve_left List.not_mem_nil

end Fields

namespace Value

open Text

/-! ## The parts stand in the token -/

theorem isInfix_of_unquoted? {s inner : List Char} (h : unquoted? s = some inner) :
    inner <:+: s := by
  rcases Option.or_eq_some_iff.1 h with h | ⟨-, h⟩ <;> exact isInfix_of_enclosed? h

theorem isInfix_of_listItems? {s item : List Char} {items : List (List Char)}
    (h : listItems? s = some items) (hmem : item ∈ items) : item <:+: s := by
  rcases Option.map_eq_some_iff.1 h with ⟨inner, hinner, rfl⟩
  rcases List.mem_map.1 hmem with ⟨piece, hpiece, rfl⟩
  exact (trim_isInfix piece).trans
    ((isInfix_of_mem_pieces hpiece).trans (isInfix_of_enclosed? hinner))

theorem objectPairs?_eq (s : List Char) :
    objectPairs? s = (enclosed? '\x7b' '\x7d' s).map fun inner =>
      (pieces ',' inner).filterMap sides? :=
  rfl

theorem isInfix_of_objectPairs? {s name raw : List Char} {pairs : List (List Char × List Char)}
    (h : objectPairs? s = some pairs) (hmem : (name, raw) ∈ pairs) :
    name <:+: s ∧ raw <:+: s := by
  rw [objectPairs?_eq] at h
  rcases Option.map_eq_some_iff.1 h with ⟨inner, hinner, rfl⟩
  rcases List.mem_filterMap.1 hmem with ⟨piece, hpiece, hsides⟩
  rcases Option.map_eq_some_iff.1 hsides with ⟨⟨before, after⟩, hparts, heq⟩
  cases heq
  have hinside : piece <:+: s := (isInfix_of_mem_pieces hpiece).trans (isInfix_of_enclosed? hinner)
  have hbefore : before <:+: piece := by
    rw [eq_of_cut? hparts]
    exact (List.prefix_append _ _).isInfix
  exact ⟨(trim_isInfix before).trans (hbefore.trans hinside),
    (trim_isInfix after).trans ((after_isInfix_of_cut? hparts).trans hinside)⟩

theorem isInfix_of_operand? {s operand : List Char} (h : operand? s = some operand) :
    operand <:+: s := by
  have hbody : dropFinalNewline s <:+: s := by
    unfold dropFinalNewline
    split
    · exact (List.dropLast_prefix s).isInfix
    · exact List.infix_refl s
  refine List.IsInfix.trans ?_ hbody
  unfold operand? at h
  dsimp only at h
  split at h
  · split at h
    · rename_i c hlast
      split at h
      · cases h
      · cases h
        rcases List.getLast?_eq_some_iff.1 hlast with ⟨front, hfront⟩
        rw [hfront]
        exact (List.suffix_append _ _).isInfix
    · cases h
  · split at h
    · cases h
    · cases h
      exact trimLeft_isInfix _

theorem isInfix_of_comparison? {s operand : List Char} {relation : Relation}
    (h : comparison? s = some (relation, operand)) : operand <:+: s := by
  have hcons : ∀ {c : Char} {rest : List Char}, operand? rest = some operand →
      operand <:+: c :: rest := fun h => List.infix_cons (isInfix_of_operand? h)
  unfold comparison? at h
  split at h
  all_goals
    simp only [Option.or_eq_some_iff, Option.map_eq_some_iff, Prod.mk.injEq, reduceCtorEq] at h
  · rcases h with ⟨o, ho, -, rfl⟩ | ⟨-, o, ho, -, rfl⟩
    · exact List.infix_cons (hcons ho)
    · exact hcons ho
  · rcases h with ⟨o, ho, -, rfl⟩ | ⟨-, o, ho, -, rfl⟩
    · exact List.infix_cons (hcons ho)
    · exact hcons ho
  · rcases h with ⟨o, ho, -, rfl⟩
    exact hcons ho
  · rcases h with ⟨o, ho, -, rfl⟩
    exact hcons ho

/-! ## Reading without proofs inside -/

/-- The reader without the proofs that its parts are shorter. -/
theorem read_eq (s : List Char) :
    read s =
      match unquoted? s, flag? s, numeral? s, listItems? s, objectPairs? s, comparison? s with
      | some inner, _, _, _, _, _ => .text (String.ofList inner)
      | none, some b, _, _, _, _ => .flag b
      | none, none, some x, _, _, _ => .number x
      | none, none, none, some items, _, _ => .list (items.map read)
      | none, none, none, none, some pairs, _ =>
          .object (Fields.ofPairs (pairs.map fun pair => (String.ofList pair.1, read pair.2)))
      | none, none, none, none, none, some (relation, operand) =>
          .comparison relation (read operand)
      | none, none, none, none, none, none => .text (String.ofList s) := by
  have hfields : ∀ pairs : List (List Char × List Char),
      (pairs.attach.map fun pair => (String.ofList pair.1.1, read pair.1.2)) =
        pairs.map fun pair => (String.ofList pair.1, read pair.2) := by
    intro pairs
    rw [← List.attach_map_val (l := pairs)]
  rw [read]
  repeat' split
  all_goals simp_all

/-! ## Forms -/

/-- What a token is before its parts are read. -/
inductive Form
  | plain (v : Value)
  | list (items : List (List Char))
  | object (pairs : List (List Char × List Char))
  | comparison (relation : Relation) (operand : List Char)

namespace Form

/-- The tokens that are read next. -/
def parts : Form → List (List Char)
  | plain _ => []
  | list items => items
  | object pairs => pairs.map (·.2)
  | comparison _ operand => [operand]

/-- The value whose parts are given by a reader. -/
def value (reader : List Char → Value) : Form → Value
  | plain v => v
  | list items => .list (items.map reader)
  | object pairs =>
      .object (Fields.ofPairs (pairs.map fun pair => (String.ofList pair.1, reader pair.2)))
  | comparison relation operand => .comparison relation (reader operand)

/-- No token but the parts is given to the reader. -/
theorem value_congr {form : Form} {reader other : List Char → Value}
    (h : ∀ t ∈ form.parts, reader t = other t) : form.value reader = form.value other := by
  cases form with
  | plain v => rfl
  | list items =>
      have hitems : items.map reader = items.map other := List.map_congr_left h
      rw [value, hitems, value]
  | object pairs =>
      have hpairs : (pairs.map fun pair => (String.ofList pair.1, reader pair.2)) =
          pairs.map fun pair => (String.ofList pair.1, other pair.2) := by
        apply List.map_congr_left
        intro pair hpair
        rw [h pair.2 (List.mem_map_of_mem hpair)]
      rw [value, hpairs, value]
  | comparison relation operand =>
      rw [value, h operand (List.mem_singleton_self operand), value]

end Form

/-- The form of a token. -/
def formOf (s : List Char) : Form :=
  match unquoted? s, flag? s, numeral? s, listItems? s, objectPairs? s, comparison? s with
  | some inner, _, _, _, _, _ => .plain (.text (String.ofList inner))
  | none, some b, _, _, _, _ => .plain (.flag b)
  | none, none, some x, _, _, _ => .plain (.number x)
  | none, none, none, some items, _, _ => .list items
  | none, none, none, none, some pairs, _ => .object pairs
  | none, none, none, none, none, some (relation, operand) => .comparison relation operand
  | none, none, none, none, none, none => .plain (.text (String.ofList s))

theorem read_eq_value (s : List Char) : read s = (formOf s).value read := by
  rw [read_eq, formOf]
  repeat' split
  all_goals simp_all [Form.value]

/-- How a token can have a form. -/
inductive Form.Of (s : List Char) : Form → Prop
  | text {inner : List Char} (h : inner <:+: s) : Of s (.plain (.text (String.ofList inner)))
  | flag (b : Bool) : Of s (.plain (.flag b))
  | number (x : Binary64) : Of s (.plain (.number x))
  | list {items : List (List Char)} (h : listItems? s = some items) : Of s (.list items)
  | object {pairs : List (List Char × List Char)} (h : objectPairs? s = some pairs) :
      Of s (.object pairs)
  | comparison {relation : Relation} {operand : List Char}
      (h : comparison? s = some (relation, operand)) : Of s (.comparison relation operand)

/-- Every token has its form in one of these ways. -/
theorem of_formOf (s : List Char) : Form.Of s (formOf s) := by
  unfold formOf
  split
  · exact .text (isInfix_of_unquoted? ‹_›)
  · exact .flag _
  · exact .number _
  · exact .list ‹_›
  · exact .object ‹_›
  · exact .comparison ‹_›
  · exact .text (List.infix_refl s)

theorem exists_form (s : List Char) : ∃ form, Form.Of s form ∧ read s = form.value read :=
  ⟨formOf s, of_formOf s, read_eq_value s⟩

namespace Form.Of

variable {s t : List Char} {form : Form}

theorem length_lt (h : Form.Of s form) (ht : t ∈ form.parts) : t.length < s.length := by
  cases h with
  | text | flag | number => cases ht
  | list h => exact length_of_listItems? h ht
  | object h =>
      rcases List.mem_map.1 ht with ⟨⟨name, raw⟩, hpair, rfl⟩
      exact length_of_objectPairs? h hpair
  | comparison h =>
      cases List.mem_singleton.1 ht
      exact length_of_comparison? h

theorem isInfix_of_mem_parts (h : Form.Of s form) (ht : t ∈ form.parts) : t <:+: s := by
  cases h with
  | text | flag | number => cases ht
  | list h => exact isInfix_of_listItems? h ht
  | object h =>
      rcases List.mem_map.1 ht with ⟨⟨name, raw⟩, hpair, rfl⟩
      exact (isInfix_of_objectPairs? h hpair).2
  | comparison h =>
      cases List.mem_singleton.1 ht
      exact isInfix_of_comparison? h

end Form.Of

/-- What holds of every token whose parts it holds of, holds of all tokens. -/
theorem read_induction {motive : List Char → Prop}
    (step : ∀ s form, Form.Of s form → read s = form.value read →
      (∀ t ∈ form.parts, motive t) → motive s)
    (s : List Char) : motive s := by
  apply step s (formOf s) (of_formOf s) (read_eq_value s)
  intro t ht
  exact read_induction step t
termination_by s.length
decreasing_by exact (of_formOf s).length_lt ht

/-! ## What stands in a value -/

/-- A value stands in another one if it is the other, or stands in an item, in the value of a field
or in the operand. -/
inductive Inside (w : Value) : Value → Prop
  | self : Inside w w
  | item {items : List Value} {v : Value} (hmem : v ∈ items) (h : Inside w v) :
      Inside w (.list items)
  | field {fields : List (String × Value)} {name : String} {v : Value}
      (hmem : (name, v) ∈ fields) (h : Inside w v) : Inside w (.object fields)
  | operand {relation : Relation} {v : Value} (h : Inside w v) :
      Inside w (.comparison relation v)

/-- A value that is read for a form stands in the value of the form only as this value itself or in
the value of a part. -/
theorem Form.Of.inside {s : List Char} {form : Form} (h : Form.Of s form) {w : Value}
    (hw : Inside w (form.value read)) :
    w = form.value read ∨ ∃ t ∈ form.parts, Inside w (read t) := by
  cases h with
  | text | flag | number =>
      cases hw
      exact .inl rfl
  | list =>
      cases hw with
      | self => exact .inl rfl
      | item hmem hw =>
          rcases List.mem_map.1 hmem with ⟨item, hitem, rfl⟩
          exact .inr ⟨item, hitem, hw⟩
  | object =>
      cases hw with
      | self => exact .inl rfl
      | field hmem hw =>
          rcases List.mem_map.1 (Fields.mem_of_mem_ofPairs hmem) with ⟨pair, hpair, heq⟩
          cases heq
          exact .inr ⟨pair.2, List.mem_map_of_mem hpair, hw⟩
  | comparison =>
      cases hw with
      | self => exact .inl rfl
      | operand hw => exact .inr ⟨_, List.mem_singleton_self _, hw⟩

/-- Whatever stands in a value that was read is the value of a fragment of the token. -/
theorem exists_read_of_inside {s : List Char} {w : Value} (h : Inside w (read s)) :
    ∃ t, t <:+: s ∧ read t = w := by
  revert h
  induction s using read_induction with
  | step s form hform hread ih =>
      intro h
      rw [hread] at h
      rcases hform.inside h with rfl | ⟨part, hpart, h⟩
      · exact ⟨s, List.infix_refl s, hread⟩
      · rcases ih part hpart h with ⟨t, ht, hw⟩
        exact ⟨t, ht.trans (hform.isInfix_of_mem_parts hpart), hw⟩

theorem isInfix_of_read_eq_text {s : List Char} {t : String} (h : read s = .text t) :
    t.toList <:+: s := by
  rcases exists_form s with ⟨form, hform, hread⟩
  rw [hread] at h
  cases hform with
  | text hinner =>
      cases h
      rwa [String.toList_ofList]
  | flag | number | list | object | comparison => cases h

theorem isInfix_of_read_eq_object {s : List Char} {fields : List (String × Value)}
    (h : read s = .object fields) {name : String} {v : Value} (hmem : (name, v) ∈ fields) :
    name.toList <:+: s := by
  rcases exists_form s with ⟨form, hform, hread⟩
  rw [hread] at h
  cases hform with
  | text | flag | number | list | comparison => cases h
  | object hpairs =>
      cases h
      rcases List.mem_map.1 (Fields.mem_of_mem_ofPairs hmem) with ⟨⟨key, raw⟩, hpair, heq⟩
      cases heq
      rw [String.toList_ofList]
      exact (isInfix_of_objectPairs? hpairs hpair).1

end Value
end ComponentSpec

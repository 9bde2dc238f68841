import ComponentSpec.Proofs.Value.Form
import Mathlib.Algebra.Order.BigOperators.Group.List
import Mathlib.Algebra.Order.Ring.Nat

/-!
# The size of what is read

The size of a value counts the values in it and the characters of its texts and names.  A list costs
one value for its brackets, and each comma pays for the item after it; a field pays for its value
with its colon, and a comparison with its sign.  So the size of what is read exceeds the length of
the token by one at most.  Fields without a colon and values that are given again only make it
smaller.

Main statements: the bound for one form (`Form.Of.size_value_le`) and for every token (`size_read`),
and all laws of reading a token together (`readingLaws`).
-/

namespace ComponentSpec
namespace Value

open Text

mutual

/-- The number of values in a value, comparisons included, and of characters in its texts and
names. -/
def size : Value → Nat
  | text s => 1 + s.length
  | flag _ => 1
  | number _ => 1
  | list items => 1 + itemsSize items
  | object fields => 1 + fieldsSize fields
  | comparison _ operand => 1 + operand.size

/-- The sizes of the items of a list together. -/
def itemsSize : List Value → Nat
  | [] => 0
  | v :: rest => v.size + itemsSize rest

/-- The sizes of the fields of an object together. -/
def fieldsSize : List (String × Value) → Nat
  | [] => 0
  | (name, v) :: rest => name.length + v.size + fieldsSize rest

end

/-! ## Fields that are set -/

/-- A name that is given again costs no more than a new one. -/
theorem fieldsSize_set_le (fields : Fields Value) (name : String) (v : Value) :
    fieldsSize (Fields.set name v fields) ≤ fieldsSize fields + (name.length + v.size) := by
  induction fields with
  | nil => simp [Fields.set, fieldsSize]
  | cons field rest ih =>
      rcases field with ⟨other, w⟩
      rw [Fields.set]
      split
      · rename_i hname
        have hlength : other.length = name.length := congrArg String.length (beq_iff_eq.1 hname)
        simp only [fieldsSize]
        omega
      · simp only [fieldsSize]
        omega

theorem fieldsSize_ofPairs_le (pairs : Fields Value) :
    fieldsSize (Fields.ofPairs pairs) ≤ fieldsSize pairs := by
  -- The fields that were set before keep what they cost.
  have hfold : ∀ start : Fields Value,
      fieldsSize (pairs.foldl (fun fields (name, v) => Fields.set name v fields) start) ≤
        fieldsSize start + fieldsSize pairs := by
    induction pairs with
    | nil => exact fun start => Nat.le_refl _
    | cons pair rest ih =>
        intro start
        rcases pair with ⟨name, v⟩
        calc
          _ ≤ fieldsSize (Fields.set name v start) + fieldsSize rest := ih _
          _ ≤ fieldsSize start + (name.length + v.size) + fieldsSize rest :=
            Nat.add_le_add_right (fieldsSize_set_le start name v) _
          _ = fieldsSize start + fieldsSize ((name, v) :: rest) := by rw [fieldsSize, Nat.add_assoc]
  have hstart : fieldsSize [] = 0 := rfl
  rw [Fields.ofPairs, ← Nat.zero_add (fieldsSize pairs), ← hstart]
  exact hfold []

/-! ## The lengths of the parts -/

/-- What the pieces of a text have together, with one mark for each. -/
theorem sum_pieces (mark : Char) (s : List Char) :
    ((pieces mark s).map (·.length + 1)).sum = s.length + 1 := by
  induction s with
  | nil => rfl
  | cons c rest ih =>
      rw [pieces]
      split
      · simp only [List.map_cons, List.sum_cons, ih, List.length_cons, List.length_nil]
        omega
      · split
        · rename_i hnil
          exact absurd hnil (pieces_ne_nil mark rest)
        · rename_i first others hcons
          rw [hcons] at ih
          simp only [List.map_cons, List.sum_cons, List.length_cons] at ih ⊢
          omega

theorem sum_listItems? {s : List Char} {items : List (List Char)} (h : listItems? s = some items) :
    (items.map (·.length + 1)).sum ≤ s.length := by
  rcases Option.map_eq_some_iff.1 h with ⟨inner, hinner, rfl⟩
  calc
    (((pieces ',' inner).map trim).map (·.length + 1)).sum
        = ((pieces ',' inner).map fun piece => (trim piece).length + 1).sum := by
          rw [List.map_map, Function.comp_def]
    _ ≤ ((pieces ',' inner).map (·.length + 1)).sum :=
          List.sum_le_sum fun piece _ => Nat.succ_le_succ (length_trim_le piece)
    _ = inner.length + 1 := sum_pieces ',' inner
    _ ≤ s.length := length_lt_of_enclosed? hinner

/-- The colon between the sides is paid for as well. -/
theorem length_of_sides? {piece name raw : List Char} (h : sides? piece = some (name, raw)) :
    name.length + (raw.length + 1) ≤ piece.length := by
  rcases Option.map_eq_some_iff.1 h with ⟨⟨before, after⟩, hcut, heq⟩
  cases heq
  have hlength := length_of_cut? hcut
  have hname := length_trim_le before
  have hraw := length_trim_le after
  omega

/-- A piece without a colon is no field, and any other piece is at least as long as its field. -/
theorem sum_filterMap_sides?_le (list : List (List Char)) :
    ((list.filterMap sides?).map fun pair => pair.1.length + (pair.2.length + 1)).sum ≤
      (list.map (·.length + 1)).sum := by
  induction list with
  | nil => exact Nat.le_refl _
  | cons piece rest ih =>
      cases hpiece : sides? piece with
      | none =>
          rw [List.filterMap_cons_none hpiece, List.map_cons, List.sum_cons]
          exact Nat.le_add_left_of_le ih
      | some pair =>
          have hlength := Nat.le_succ_of_le (length_of_sides? hpiece)
          rw [List.filterMap_cons_some hpiece, List.map_cons, List.sum_cons, List.map_cons,
            List.sum_cons]
          exact Nat.add_le_add hlength ih

theorem sum_objectPairs? {s : List Char} {pairs : List (List Char × List Char)}
    (h : objectPairs? s = some pairs) :
    (pairs.map fun pair => pair.1.length + (pair.2.length + 1)).sum ≤ s.length := by
  rw [objectPairs?_eq] at h
  rcases Option.map_eq_some_iff.1 h with ⟨inner, hinner, rfl⟩
  calc
    _ ≤ ((pieces ',' inner).map (·.length + 1)).sum := sum_filterMap_sides?_le _
    _ = inner.length + 1 := sum_pieces ',' inner
    _ ≤ s.length := length_lt_of_enclosed? hinner

/-! ## The size of a value that is read -/

theorem itemsSize_map_le {reader : List Char → Value} {items : List (List Char)}
    (h : ∀ t ∈ items, (reader t).size ≤ t.length + 1) :
    itemsSize (items.map reader) ≤ (items.map (·.length + 1)).sum := by
  induction items with
  | nil => exact Nat.le_refl _
  | cons item rest ih =>
      rw [List.forall_mem_cons] at h
      rw [List.map_cons, itemsSize, List.map_cons, List.sum_cons]
      exact Nat.add_le_add h.1 (ih h.2)

theorem fieldsSize_map_le {reader : List Char → Value} {pairs : List (List Char × List Char)}
    (h : ∀ pair ∈ pairs, (reader pair.2).size ≤ pair.2.length + 1) :
    fieldsSize (pairs.map fun pair => (String.ofList pair.1, reader pair.2)) ≤
      (pairs.map fun pair => pair.1.length + (pair.2.length + 1)).sum := by
  induction pairs with
  | nil => exact Nat.le_refl _
  | cons pair rest ih =>
      rw [List.forall_mem_cons] at h
      rw [List.map_cons, fieldsSize, List.map_cons, List.sum_cons, String.length_ofList]
      exact Nat.add_le_add (Nat.add_le_add_left h.1 _) (ih h.2)

/-- If the parts of a token keep within their lengths, so does the token. -/
theorem Form.Of.size_value_le {s : List Char} {form : Form} (h : Form.Of s form)
    {reader : List Char → Value} (hparts : ∀ t ∈ form.parts, (reader t).size ≤ t.length + 1) :
    (form.value reader).size ≤ s.length + 1 := by
  cases h with
  | text hinner =>
      rw [value, size, String.length_ofList, Nat.add_comm]
      exact Nat.succ_le_succ hinner.length_le
  | flag | number => exact Nat.le_add_left 1 s.length
  | list hitems =>
      rw [value, size, Nat.add_comm]
      exact Nat.succ_le_succ (Nat.le_trans (itemsSize_map_le hparts) (sum_listItems? hitems))
  | object hpairs =>
      have hvalues := fun pair hpair => hparts (Prod.snd pair) (List.mem_map_of_mem hpair)
      rw [value, size, Nat.add_comm]
      apply Nat.succ_le_succ
      calc
        _ ≤ _ := fieldsSize_ofPairs_le _
        _ ≤ _ := fieldsSize_map_le hvalues
        _ ≤ s.length := sum_objectPairs? hpairs
  | comparison hcomparison =>
      rw [value, size, Nat.add_comm]
      apply Nat.succ_le_succ
      exact Nat.le_trans (hparts _ (List.mem_singleton_self _)) (length_of_comparison? hcomparison)

theorem size_read (s : List Char) : (read s).size ≤ s.length + 1 := by
  induction s using read_induction with
  | step s form hform hread ih =>
      rw [hread]
      exact hform.size_value_le ih

/-! ## The laws of reading -/

/-- Reading a token invents nothing and multiplies nothing. -/
structure ReadingLaws (s : List Char) : Prop where
  /-- The value depends on the parts of the token alone, whatever a reader gives for other texts. -/
  parts : ∀ reader : List Char → Value, (∀ t ∈ (formOf s).parts, reader t = read t) →
    (formOf s).value reader = read s
  shorter : ∀ t ∈ (formOf s).parts, t.length < s.length
  texts : ∀ t : String, Inside (.text t) (read s) → t.toList <:+: s
  names : ∀ fields : Fields Value, Inside (.object fields) (read s) →
    ∀ name ∈ fields.names, name.toList <:+: s
  size : (read s).size ≤ s.length + 1

theorem readingLaws (s : List Char) : ReadingLaws s where
  parts := by
    intro reader hreader
    rw [Form.value_congr hreader, read_eq_value]
  shorter := fun t ht => (of_formOf s).length_lt ht
  texts := by
    intro t h
    rcases exists_read_of_inside h with ⟨fragment, hfragment, hread⟩
    exact (isInfix_of_read_eq_text hread).trans hfragment
  names := by
    intro fields h name hname
    rcases exists_read_of_inside h with ⟨fragment, hfragment, hread⟩
    rcases List.mem_map.1 hname with ⟨⟨key, v⟩, hmem, rfl⟩
    exact (isInfix_of_read_eq_object hread hmem).trans hfragment
  size := size_read s

end Value
end ComponentSpec

import ComponentSpec.Proofs.Spec.SingleRule
import ComponentSpec.Proofs.Text.Padding
import Mathlib.Data.List.Basic

/-!
# Values as they are written

Every value that can be read back has a written form: texts between double quotes, flags as words,
numbers as decimal numerals, lists in brackets, objects in braces, and comparisons as a sign and an
operand.  The reader tells the forms apart by the first character, since only quotations, flags and
numerals can begin with a quote, a letter or a digit.

Lists and objects are split at every comma, and an operand ends with its line.  So a comma may not
stand in the written form of an item or a field, and a line feed not in that of an operand; the
parts of a value may otherwise be nested to any depth.

Main statements: trimming does not cut into a written value (`trim_text`), a joined list and joined
fields are taken apart again (`listItems?_joined`, `objectPairs?_joined`), and a written value is
read as its value (`read_text`).
-/

namespace ComponentSpec

open Text

/-- A value as it is written. -/
inductive WrittenValue
  | quotation (s : String)
  | flag (b : Bool)
  | numeral (n : WrittenNumeral)
  | list (items : List WrittenValue)
  | object (fields : List (String × WrittenValue))
  | comparison (relation : Relation) (operand : WrittenValue)

/-- Parts with a comma and a space between them. -/
def joined (parts : List (List Char)) : List Char :=
  [',', ' '].intercalate parts

/-- A name and a part with a colon and a space between them. -/
def fieldText (name : String) (part : List Char) : List Char :=
  name.toList ++ ':' :: ' ' :: part

namespace WrittenValue

mutual

def text : WrittenValue → List Char
  | quotation s => '"' :: (s.toList ++ ['"'])
  | flag b => (if b then "true" else "false").toList
  | numeral n => n.text
  | list items => '[' :: (joined (itemTexts items) ++ [']'])
  | object fields => '\x7b' :: (joined (fieldTexts fields) ++ ['\x7d'])
  | comparison relation operand => relation.sign.toList ++ ' ' :: operand.text

def itemTexts : List WrittenValue → List (List Char)
  | [] => []
  | item :: rest => item.text :: itemTexts rest

def fieldTexts : List (String × WrittenValue) → List (List Char)
  | [] => []
  | (name, v) :: rest => fieldText name v.text :: fieldTexts rest

end

mutual

def value : WrittenValue → Value
  | quotation s => .text s
  | flag b => .flag b
  | numeral n => .number n.value
  | list items => .list (itemValues items)
  | object fields => .object (fieldValues fields)
  | comparison relation operand => .comparison relation operand.value

def itemValues : List WrittenValue → List Value
  | [] => []
  | item :: rest => item.value :: itemValues rest

def fieldValues : List (String × WrittenValue) → List (String × Value)
  | [] => []
  | (name, v) :: rest => (name, v.value) :: fieldValues rest

end

theorem itemTexts_eq_map (items : List WrittenValue) : itemTexts items = items.map text := by
  induction items with
  | nil => rfl
  | cons item rest ih => rw [itemTexts, ih, List.map_cons]

theorem fieldTexts_eq_map (fields : List (String × WrittenValue)) :
    fieldTexts fields = fields.map fun field => fieldText field.1 field.2.text := by
  induction fields with
  | nil => rfl
  | cons field rest ih => rw [fieldTexts, ih, List.map_cons]

theorem itemValues_eq_map (items : List WrittenValue) : itemValues items = items.map value := by
  induction items with
  | nil => rfl
  | cons item rest ih => rw [itemValues, ih, List.map_cons]

theorem fieldValues_eq_map (fields : List (String × WrittenValue)) :
    fieldValues fields = fields.map fun field => (field.1, field.2.value) := by
  induction fields with
  | nil => rfl
  | cons field rest ih => rw [fieldValues, ih, List.map_cons]

/-- A name that trimming keeps and that holds neither of the marks of an object. -/
structure IsFieldName (name : String) : Prop where
  trim_eq : trim name.toList = name.toList
  comma_not_mem : ',' ∉ name.toList
  colon_not_mem : ':' ∉ name.toList

instance (name : String) : Decidable (IsFieldName name) :=
  decidable_of_iff (trim name.toList = name.toList ∧ ',' ∉ name.toList ∧ ':' ∉ name.toList)
    ⟨fun h => ⟨h.1, h.2.1, h.2.2⟩, fun h => ⟨h.trim_eq, h.comma_not_mem, h.colon_not_mem⟩⟩

/-- The marks of every part of the value stand where the reader looks for them. -/
inductive IsPrintable : WrittenValue → Prop
  | quotation (s : String) : IsPrintable (.quotation s)
  | flag (b : Bool) : IsPrintable (.flag b)
  | numeral (n : WrittenNumeral) : IsPrintable (.numeral n)
  | list {items : List WrittenValue} (hne : items ≠ []) (hcomma : ∀ item ∈ items, ',' ∉ item.text)
      (hitems : ∀ item ∈ items, IsPrintable item) : IsPrintable (.list items)
  | object {fields : List (String × WrittenValue)} (hnodup : (fields.map (·.1)).Nodup)
      (hnames : ∀ field ∈ fields, IsFieldName field.1)
      (hcomma : ∀ field ∈ fields, ',' ∉ field.2.text)
      (hvalues : ∀ field ∈ fields, IsPrintable field.2) : IsPrintable (.object fields)
  | comparison {relation : Relation} {operand : WrittenValue} (hline : '\n' ∉ operand.text)
      (hoperand : IsPrintable operand) : IsPrintable (.comparison relation operand)

/-! ## The ends of a written value -/

theorem text_ne_nil (v : WrittenValue) : v.text ≠ [] := by
  cases v with
  | quotation s => exact List.cons_ne_nil _ _
  | flag b => cases b <;> decide
  | numeral n =>
      rcases n.exists_head_text with ⟨c, rest, htext, -⟩
      rw [text, htext]
      exact List.cons_ne_nil c rest
  | list items => exact List.cons_ne_nil _ _
  | object fields => exact List.cons_ne_nil _ _
  | comparison relation operand => cases relation <;> exact List.cons_ne_nil _ _

theorem isBlank_of_head?_text (v : WrittenValue) {c : Char} (h : v.text.head? = some c) :
    isBlank c = false := by
  cases v with
  | quotation s =>
      cases h
      decide
  | flag b =>
      cases b <;> cases h <;> decide
  | numeral n => exact n.isBlank_text c (List.mem_of_head? h)
  | list items =>
      cases h
      decide
  | object fields =>
      cases h
      decide
  | comparison relation operand =>
      cases relation <;> cases h <;> decide

theorem isBlank_of_getLast?_text : ∀ (v : WrittenValue) {c : Char},
    v.text.getLast? = some c → isBlank c = false
  | quotation s, c, h => by
      rw [text, ← List.cons_append, List.getLast?_concat] at h
      cases h
      decide
  | flag b, c, h => by
      cases b <;> cases h <;> decide
  | numeral n, c, h => n.isBlank_text c (List.mem_of_getLast? h)
  | list items, c, h => by
      rw [text, ← List.cons_append, List.getLast?_concat] at h
      cases h
      decide
  | object fields, c, h => by
      rw [text, ← List.cons_append, List.getLast?_concat] at h
      cases h
      decide
  | comparison relation operand, c, h => by
      -- A comparison ends where its operand does, and that is never empty.
      have hlast := List.getLast?_eq_some_getLast operand.text_ne_nil
      rw [text, List.append_cons, List.getLast?_append, hlast, Option.some_or] at h
      exact operand.isBlank_of_getLast?_text (hlast.trans h)

theorem trim_text (v : WrittenValue) : trim v.text = v.text :=
  trim_eq_self (fun _ h => v.isBlank_of_head?_text h) fun _ h => v.isBlank_of_getLast?_text h

end WrittenValue

namespace Value

/-! ## Telling the forms apart -/

theorem numeral?_of_not_isDigit {c : Char} (hc : isDigit c = false) (rest : List Char) :
    numeral? (c :: rest) = none := by
  have hdigit : digitValue? c = none := by
    rwa [isDigit, Option.isSome_eq_false_iff, Option.isNone_iff_eq_none] at hc
  have hstrict : ∀ s, strictReal? (c :: s) = none := by
    intro s
    simp [strictReal?, spanDigits, hdigit]
  rw [numeral?, dropFinalNewline]
  split
  · cases rest with
    | nil => rfl
    | cons d rest => exact hstrict _
  · exact hstrict rest

/-- The signs with which lists, objects and comparisons begin. -/
def marks : List Char := ['[', '\x7b', '>', '<']

/-- What begins with a mark is neither a quotation nor a flag nor a numeral. -/
theorem forms_of_mark {c : Char} (hc : c ∈ marks) (rest : List Char) :
    unquoted? (c :: rest) = none ∧ flag? (c :: rest) = none ∧ numeral? (c :: rest) = none := by
  have hmarks : c ≠ '"' ∧ c ≠ '\'' ∧ c ≠ 't' ∧ c ≠ 'f' ∧ isDigit c = false := by
    simp only [marks, List.mem_cons, List.not_mem_nil, or_false] at hc
    rcases hc with rfl | rfl | rfl | rfl <;> decide
  rcases hmarks with ⟨hdouble, hsingle, htrue, hfalse, hdigit⟩
  refine ⟨?_, ?_, numeral?_of_not_isDigit hdigit rest⟩
  · rw [unquoted?, enclosed?_of_ne hdouble, enclosed?_of_ne hsingle, Option.none_or]
  · simp [flag?, htrue, hfalse]

theorem read_quotation (s : String) : read ('"' :: (s.toList ++ ['"'])) = .text s := by
  -- Only the two outer quotes are looked at, so the text may hold others.
  have hunquoted : unquoted? ('"' :: (s.toList ++ ['"'])) = some s.toList := by
    rw [unquoted?, enclosed?_text, Option.some_or]
  rw [read_eq, hunquoted]
  exact congrArg Value.text String.ofList_toList

theorem read_flag (b : Bool) : read (if b then "true" else "false").toList = .flag b := by
  cases b <;> rw [read_eq] <;> rfl

theorem read_of_listItems? {rest : List Char} {items : List (List Char)}
    (h : listItems? ('[' :: rest) = some items) : read ('[' :: rest) = .list (items.map read) := by
  rcases forms_of_mark (by decide : '[' ∈ marks) rest with ⟨hunquoted, hflag, hnumeral⟩
  rw [read_eq, hunquoted, hflag, hnumeral, h]

theorem read_of_objectPairs? {rest : List Char} {pairs : List (List Char × List Char)}
    (h : objectPairs? ('\x7b' :: rest) = some pairs) :
    read ('\x7b' :: rest) =
      .object (Fields.ofPairs (pairs.map fun pair => (String.ofList pair.1, read pair.2))) := by
  rcases forms_of_mark (by decide : '\x7b' ∈ marks) rest with ⟨hunquoted, hflag, hnumeral⟩
  have hlist : listItems? ('\x7b' :: rest) = none := by
    rw [listItems?, enclosed?_of_ne (by decide), Option.map_none]
  rw [read_eq, hunquoted, hflag, hnumeral, hlist, h]

theorem read_of_comparison? {s operand : List Char} {relation : Relation}
    (h : comparison? s = some (relation, operand)) :
    read s = .comparison relation (read operand) := by
  -- Only the two signs begin a comparison.
  have hsign : ∃ c rest, s = c :: rest ∧ (c = '>' ∨ c = '<') := by
    unfold comparison? at h
    split at h
    · exact ⟨_, _, rfl, .inl rfl⟩
    · exact ⟨_, _, rfl, .inr rfl⟩
    · exact ⟨_, _, rfl, .inl rfl⟩
    · exact ⟨_, _, rfl, .inr rfl⟩
    · cases h
  rcases hsign with ⟨c, rest, rfl, hc⟩
  have hmark : c ∈ marks := by
    rcases hc with rfl | rfl <;> decide
  have hlist : listItems? (c :: rest) = none := by
    rw [listItems?, enclosed?_of_ne (by rcases hc with rfl | rfl <;> decide), Option.map_none]
  have hobject : objectPairs? (c :: rest) = none := by
    rw [objectPairs?, enclosed?_of_ne (by rcases hc with rfl | rfl <;> decide), Option.map_none]
  rcases forms_of_mark hmark rest with ⟨hunquoted, hflag, hnumeral⟩
  rw [read_eq, hunquoted, hflag, hnumeral, hlist, hobject, h]

/-! ## Parts between marks -/

theorem isBlank_space : ∀ c ∈ [' '], isBlank c = true :=
  List.forall_mem_singleton.2 (by decide)

theorem listItems?_joined {items : List (List Char)} (hne : items ≠ [])
    (hcomma : ∀ item ∈ items, ',' ∉ item) (htrim : ∀ item ∈ items, trim item = item) :
    listItems? ('[' :: (joined items ++ [']'])) = some items := by
  rcases List.exists_cons_of_ne_nil hne with ⟨first, others, rfl⟩
  have hothers : (others.map ([' '] ++ ·)).map trim = others := by
    rw [List.map_map]
    refine List.map_congr_left (g := id) (fun item hitem => ?_) |>.trans (List.map_id others)
    exact (trim_append_left isBlank_space item).trans (htrim item (List.mem_cons_of_mem _ hitem))
  rw [listItems?, enclosed?_text, Option.map_some, joined, pieces_intercalate (by decide) hcomma,
    List.map_cons, htrim first (List.mem_cons_self ..), hothers]

theorem sides?_fieldText (gap : List Char) (hgap : ∀ c ∈ gap, isBlank c = true) {name : String}
    {part : List Char} (hname : WrittenValue.IsFieldName name) (hpart : trim part = part) :
    sides? (gap ++ fieldText name part) = some (name.toList, part) := by
  have hcolon : ':' ∉ gap ++ name.toList := by
    rw [List.mem_append, not_or]
    exact ⟨colon_not_mem_of_isBlank hgap, hname.colon_not_mem⟩
  have hright : trim (' ' :: part) = part := (trim_append_left isBlank_space part).trans hpart
  rw [fieldText, ← List.append_assoc, sides?_append hcolon, trim_append_left hgap, hname.trim_eq,
    hright]

theorem objectPairs?_joined {fields : List (String × List Char)}
    (hnames : ∀ field ∈ fields, WrittenValue.IsFieldName field.1)
    (hcomma : ∀ field ∈ fields, ',' ∉ field.2) (htrim : ∀ field ∈ fields, trim field.2 = field.2) :
    objectPairs? ('\x7b' :: (joined (fields.map fun field => fieldText field.1 field.2) ++
      ['\x7d'])) = some (fields.map fun field => (field.1.toList, field.2)) := by
  rw [objectPairs?_eq, enclosed?_text, Option.map_some]
  cases fields with
  | nil => rfl
  | cons first others =>
      have hnot : ∀ s ∈ (first :: others).map (fun field => fieldText field.1 field.2),
          ',' ∉ s := by
        intro s hs
        rcases List.mem_map.1 hs with ⟨field, hfield, rfl⟩
        simp [fieldText, (hnames field hfield).comma_not_mem, hcomma field hfield]
      -- The first field follows the brace at once, the others a comma and a space.
      have hfirst := sides?_fieldText [] nofun
        (hnames first (List.mem_cons_self ..)) (htrim first (List.mem_cons_self ..))
      have hothers : (others.map ((([' '] ++ ·)) ∘ fun field =>
          fieldText field.1 field.2)).filterMap sides? =
            others.map fun field => (field.1.toList, field.2) := by
        rw [List.filterMap_map, List.filterMap_eq_map_iff_forall_eq_some]
        intro field hfield
        exact sides?_fieldText [' '] isBlank_space
          (hnames field (List.mem_cons_of_mem _ hfield))
          (htrim field (List.mem_cons_of_mem _ hfield))
      rw [List.map_cons] at hnot
      rw [List.nil_append] at hfirst
      rw [List.map_cons, joined, pieces_intercalate (by decide) hnot, List.filterMap_cons, hfirst,
        List.map_map, hothers]
      rfl

/-! ## Comparisons -/

theorem operand?_text {s : List Char} (hne : s ≠ []) (htrim : trim s = s) (hline : '\n' ∉ s) :
    operand? (' ' :: s) = some s := by
  rcases List.exists_cons_of_ne_nil hne with ⟨c, rest, rfl⟩
  have hlast : ¬ ((' ' :: c :: rest).getLast? == some '\n') = true := by
    intro h
    rw [List.getLast?_cons_cons] at h
    exact hline (List.mem_of_getLast? (beq_iff_eq.1 h))
  have hc : isBlank c = false := head_trim (s := c :: rest) (by rw [htrim]; rfl)
  have hleft : trimLeft (' ' :: c :: rest) = c :: rest := by
    rw [trimLeft, List.dropWhile_cons_of_pos (by decide),
      List.dropWhile_cons_of_neg (Bool.eq_false_iff.1 hc)]
  have hnot : ¬ (c :: rest).contains '\n' = true := by
    rwa [List.contains_iff_mem]
  rw [operand?, dropFinalNewline, if_neg hlast, hleft]
  exact if_neg hnot

theorem comparison?_text (relation : Relation) {s : List Char} (h : operand? (' ' :: s) = some s) :
    comparison? (relation.sign.toList ++ ' ' :: s) = some (relation, s) := by
  cases relation with
  | atLeast => simp [Relation.sign, comparison?, h]
  | atMost => simp [Relation.sign, comparison?, h]
  | above => exact congrArg (Option.map _) h
  | below => exact congrArg (Option.map _) h

/-! ## Reading back -/

theorem read_joined {items : List (List Char)} (hne : items ≠ [])
    (hcomma : ∀ item ∈ items, ',' ∉ item) (htrim : ∀ item ∈ items, trim item = item) :
    read ('[' :: (joined items ++ [']'])) = .list (items.map read) :=
  read_of_listItems? (listItems?_joined hne hcomma htrim)

theorem read_joined_fields {fields : List (String × List Char)}
    (hnodup : (fields.map (·.1)).Nodup)
    (hnames : ∀ field ∈ fields, WrittenValue.IsFieldName field.1)
    (hcomma : ∀ field ∈ fields, ',' ∉ field.2) (htrim : ∀ field ∈ fields, trim field.2 = field.2) :
    read ('\x7b' :: (joined (fields.map fun field => fieldText field.1 field.2) ++ ['\x7d'])) =
      .object (fields.map fun field => (field.1, read field.2)) := by
  have hvalues : (fields.map fun field => (field.1.toList, field.2)).map
      (fun pair => (String.ofList pair.1, read pair.2)) =
        fields.map fun field => (field.1, read field.2) := by
    rw [List.map_map]
    exact List.map_congr_left fun field _ => Prod.ext String.ofList_toList rfl
  have hdistinct : (Fields.names (fields.map fun field => (field.1, read field.2))).Nodup := by
    rw [Fields.names, List.map_map]
    exact hnodup
  rw [read_of_objectPairs? (objectPairs?_joined hnames hcomma htrim), hvalues,
    Fields.ofPairs_of_nodup hdistinct]

/-- A written value is read as its value. -/
theorem read_text {v : WrittenValue} (h : v.IsPrintable) : read v.text = v.value := by
  induction h with
  | quotation s => exact read_quotation s
  | flag b => exact read_flag b
  | numeral n => exact read_numeral n
  | @list items hne hcomma _ ih =>
      have htexts : items.map WrittenValue.text ≠ [] := fun hnil => hne (List.map_eq_nil_iff.1 hnil)
      have hread := read_joined htexts (List.forall_mem_map.2 hcomma)
        (List.forall_mem_map.2 fun item _ => item.trim_text)
      rw [WrittenValue.text, WrittenValue.itemTexts_eq_map, hread, WrittenValue.value,
        WrittenValue.itemValues_eq_map, List.map_map]
      exact congrArg Value.list (List.map_congr_left ih)
  | @object fields hnodup hnames hcomma _ ih =>
      have hdistinct : ((fields.map fun field => (field.1, field.2.text)).map (·.1)).Nodup := by
        rw [List.map_map]
        exact hnodup
      have hread := read_joined_fields hdistinct (List.forall_mem_map.2 hnames)
        (List.forall_mem_map.2 hcomma) (List.forall_mem_map.2 fun field _ => field.2.trim_text)
      rw [List.map_map, List.map_map] at hread
      rw [WrittenValue.text, WrittenValue.fieldTexts_eq_map, WrittenValue.value,
        WrittenValue.fieldValues_eq_map]
      refine hread.trans (congrArg Value.object (List.map_congr_left fun field hfield => ?_))
      exact Prod.ext rfl (ih field hfield)
  | @comparison relation operand hline _ ih =>
      have hoperand := operand?_text operand.text_ne_nil operand.trim_text hline
      rw [WrittenValue.text, read_of_comparison? (comparison?_text relation hoperand), ih,
        WrittenValue.value]

/-- An object of three fields: two comparisons in one another, an object between two lists, and a
quotation with the marks of an object after an empty name. -/
def nestedLimits : WrittenValue :=
  let limit : WrittenNumeral :=
    ⟨['4'], ['5'], by decide, List.all_eq_true.1 (by decide), List.all_eq_true.1 (by decide)⟩
  .object [
    ("limit", .comparison .above (.comparison .atMost (.numeral limit))),
    ("steps", .list [.object [("on", .list [.flag true])]]),
    ("", .quotation "a: \x7bb\x7d")]

theorem isPrintable_nestedLimits : nestedLimits.IsPrintable := by
  have hflags : (WrittenValue.list [.flag true]).IsPrintable :=
    .list (by decide) (by decide) (List.forall_mem_singleton.2 (.flag true))
  have hsteps : (WrittenValue.list [.object [("on", .list [.flag true])]]).IsPrintable :=
    .list (by decide) (by decide) (List.forall_mem_singleton.2
      (.object (by decide) (by decide) (by decide) (List.forall_mem_singleton.2 hflags)))
  refine .object (by decide) (by decide) (by decide) ?_
  refine List.forall_mem_cons.2 ⟨?_, List.forall_mem_cons.2 ⟨hsteps, ?_⟩⟩
  · exact .comparison (by decide) (.comparison (by decide) (.numeral _))
  · exact List.forall_mem_singleton.2 (.quotation _)

theorem read_text_nestedLimits :
    nestedLimits.IsPrintable ∧
      read nestedLimits.text = .object [
        ("limit", .comparison .above (.comparison .atMost (.number (decimal false [4] [5])))),
        ("steps", .list [.object [("on", .list [.flag true])]]), ("", .text "a: \x7bb\x7d")] :=
  ⟨isPrintable_nestedLimits, read_text isPrintable_nestedLimits⟩

end Value
end ComponentSpec

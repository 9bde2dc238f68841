import ComponentSpec.Proofs.Spec.Content
import ComponentSpec.Proofs.Spec.BodyText
import ComponentSpec.Proofs.Spec.SingleRule
import Mathlib.Data.List.Nodup

/-!
# Lines of properties

A property is written on a line of its own: a name, a question mark if the property is optional, a
colon, a type, and a default after an equality sign.  A type may have colons, question marks and
blanks inside, and a default may have equality signs, because a name ends at the first character
that is no word character and a type at the first equality sign.

Main statements: the parts of a line are found (`declaration?_line`), a type with bars lists what
stands between the bars (`pieces_eq_splitOn`), and a block of properties is read as what was written
(`readProperties_propertyBody`).
-/

namespace ComponentSpec

namespace Text

/-- The pieces of a text are those that the library's splitting gives. -/
theorem pieces_eq_splitOn (mark : Char) (s : List Char) : pieces mark s = s.splitOn mark := by
  induction s with
  | nil => rfl
  | cons c rest ih =>
      rw [List.splitOn_eq_splitOnP] at ih ⊢
      rw [pieces, ih, List.splitOnP_cons_eq_if_modifyHead]
      split
      · rfl
      · cases hpieces : rest.splitOnP (· == mark) with
        | nil => exact absurd hpieces (List.splitOnP_ne_nil _ _)
        | cons first others => rfl

end Text

namespace Spec

open Text

/-! ## Properties as they are written -/

/-- The blanks between the parts of a line. -/
structure Gaps where
  beforeColon : List Char
  beforeType : List Char
  afterType : List Char
  beforeDefault : List Char
  isSpacing_beforeColon : IsSpacing beforeColon
  isSpacing_beforeType : IsSpacing beforeType
  isSpacing_afterType : IsSpacing afterType
  isSpacing_beforeDefault : IsSpacing beforeDefault

theorem isSpacing_nil : IsSpacing [] := by
  decide

theorem isSpacing_space : IsSpacing [' '] := by
  decide

/-- No blanks at all. -/
def Gaps.tight : Gaps :=
  ⟨[], [], [], [], isSpacing_nil, isSpacing_nil, isSpacing_nil, isSpacing_nil⟩

/-- One blank after the colon and around the equality sign. -/
def Gaps.usual : Gaps :=
  ⟨[], [' '], [' '], [' '], isSpacing_nil, isSpacing_space, isSpacing_space, isSpacing_space⟩

/-- A property with the blanks between the parts of its line. -/
structure WrittenProperty extends Gaps where
  name : List Char
  optional : Bool := false
  type : List Char
  default : Option (List Char) := none
  name_ne_nil : name ≠ [] := by decide
  isWord_name : ∀ c ∈ name, isWord c = true := by exact List.all_eq_true.1 (by decide)
  type_ne_nil : type ≠ [] := by decide
  trim_type : trim type = type := by decide
  equality_not_mem_type : '=' ∉ type := by decide
  newline_not_mem_type : '\n' ∉ type := by decide
  isToken_default : ∀ token ∈ default, token ≠ [] ∧ trim token = token ∧ '\n' ∉ token := by decide

namespace WrittenProperty

variable (p : WrittenProperty)

def optionalMark : List Char :=
  if p.optional then ['?'] else []

def defaultText : List Char :=
  match p.default with
  | none => []
  | some token => p.afterType ++ '=' :: (p.beforeDefault ++ token)

def line : List Char :=
  p.name ++ (p.optionalMark ++
    (p.beforeColon ++ ':' :: (p.beforeType ++ (p.type ++ p.defaultText))))

/-- The property that the line declares; a type with bars is a choice between its parts. -/
def property : Property where
  type := if '|' ∈ p.type then "enum" else String.ofList p.type
  required := !p.optional
  default := p.default.map Value.read
  options :=
    if '|' ∈ p.type then
      some ((p.type.splitOn '|').map fun option => String.ofList (trim option))
    else none

def field : String × Property :=
  (String.ofList p.name, p.property)

theorem exists_line : ∃ c rest, p.line = c :: rest ∧ isWord c = true := by
  rcases List.exists_cons_of_ne_nil p.name_ne_nil with ⟨c, rest, hname⟩
  refine ⟨c, _, by rw [line, hname, List.cons_append], ?_⟩
  exact p.isWord_name c (hname ▸ List.mem_cons_self ..)

theorem newline_not_mem_line : '\n' ∉ p.line := by
  have hname : '\n' ∉ p.name := fun h => absurd (p.isWord_name _ h) (by decide)
  have hmark : '\n' ∉ p.optionalMark := by
    unfold optionalMark
    split <;> decide
  have hspacing : ∀ {s}, IsSpacing s → '\n' ∉ s := fun hs h => (hs _ h).2 rfl
  have hdefault : '\n' ∉ p.defaultText := by
    unfold defaultText
    split
    · exact List.not_mem_nil
    · rename_i token htoken
      simp [hspacing p.isSpacing_afterType, hspacing p.isSpacing_beforeDefault,
        (p.isToken_default token htoken).2.2]
  simp [line, hname, hmark, hspacing p.isSpacing_beforeColon, hspacing p.isSpacing_beforeType,
    p.newline_not_mem_type, hdefault]

/-- The line ends with its type or with its default. -/
theorem exists_line_eq_append :
    ∃ front last, p.line = p.name ++ (front ++ last) ∧ trim last = last ∧ last ≠ [] := by
  unfold line defaultText
  cases hdefault : p.default with
  | none =>
      refine ⟨p.optionalMark ++ (p.beforeColon ++ ':' :: p.beforeType), p.type, ?_, p.trim_type,
        p.type_ne_nil⟩
      simp
  | some token =>
      rcases p.isToken_default token hdefault with ⟨hne, htrim, -⟩
      refine ⟨p.optionalMark ++ (p.beforeColon ++ ':' :: (p.beforeType ++ (p.type ++
        (p.afterType ++ '=' :: p.beforeDefault)))), token, ?_, htrim, hne⟩
      simp

theorem trim_line : trim p.line = p.line := by
  rcases p.exists_line_eq_append with ⟨front, last, hline, htrim, hne⟩
  rcases List.exists_cons_of_ne_nil p.name_ne_nil with ⟨c, name, hname⟩
  have hc : isBlank c = false :=
    isBlank_of_isWord (p.isWord_name c (hname ▸ List.mem_cons_self ..))
  rw [hline, hname, List.cons_append, ← List.append_assoc]
  exact trim_cons_append hc (name ++ front) htrim hne

theorem isSignificant_line : isSignificant p.line = true := by
  rcases p.exists_line with ⟨c, rest, hline, hc⟩
  have hcomment : c ≠ '#' := by
    rintro rfl
    cases hc
  rw [isSignificant, p.trim_line, hline]
  simpa using hcomment

/-! ## The parts of a line -/

theorem typeAndDefault?_line :
    typeAndDefault? (p.beforeType ++ (p.type ++ p.defaultText)) = some (p.type, p.default) := by
  have hbefore : ∀ c ∈ p.beforeType, isBlank c = true := fun c hc => (p.isSpacing_beforeType c hc).1
  have hequality : ∀ {s}, IsSpacing s → '=' ∉ s := fun hs h => absurd (hs _ h).1 (by decide)
  unfold typeAndDefault? defaultText
  cases hdefault : p.default with
  | none =>
      have hnone : cut? '=' (p.beforeType ++ p.type) = none := by
        rw [cut?_eq_none_iff, List.mem_append, not_or]
        exact ⟨hequality p.isSpacing_beforeType, p.equality_not_mem_type⟩
      have htrim : trim (p.beforeType ++ p.type) = p.type := by
        rw [trim_append_left hbefore, p.trim_type]
      simp [hnone, htrim, p.type_ne_nil]
  | some token =>
      rcases p.isToken_default token hdefault with ⟨hne, htoken, -⟩
      have hsplit : p.beforeType ++ (p.type ++ (p.afterType ++ '=' :: (p.beforeDefault ++ token))) =
          (p.beforeType ++ (p.type ++ p.afterType)) ++ '=' :: (p.beforeDefault ++ token) := by
        simp
      have hnot : '=' ∉ p.beforeType ++ (p.type ++ p.afterType) := by
        simp [hequality p.isSpacing_beforeType, p.equality_not_mem_type,
          hequality p.isSpacing_afterType]
      have htype : trim (p.beforeType ++ (p.type ++ p.afterType)) = p.type := by
        rw [trim_pad hbefore fun c hc => (p.isSpacing_afterType c hc).1, p.trim_type]
      have htokenTrim : trim (p.beforeDefault ++ token) = token := by
        rw [trim_append_left fun c hc => (p.isSpacing_beforeDefault c hc).1, htoken]
      dsimp only
      rw [hsplit, cut?_append hnot]
      simp [htype, htokenTrim, p.type_ne_nil, hne]

/-- What follows the name and the question mark is a blank or the colon. -/
theorem exists_beforeColon_append (rest : List Char) :
    ∃ c tail, p.beforeColon ++ ':' :: rest = c :: tail ∧ isWord c = false ∧ c ≠ '?' := by
  cases hbefore : p.beforeColon with
  | nil => exact ⟨':', rest, rfl, isWord_delimiter (by decide), by decide⟩
  | cons c before =>
      have hc : isBlank c = true :=
        (p.isSpacing_beforeColon c (hbefore ▸ List.mem_cons_self ..)).1
      refine ⟨c, before ++ ':' :: rest, rfl, isWord_of_isBlank hc, ?_⟩
      rintro rfl
      cases hc

theorem declaration?_line :
    declaration? p.line = some ⟨p.name, p.optional, p.type, p.default⟩ := by
  have hcolon : ∀ rest, trimLeft (p.beforeColon ++ ':' :: rest) = ':' :: rest := fun rest =>
    (trimLeft_append (fun c hc => (p.isSpacing_beforeColon c hc).1) _).trans
      (List.dropWhile_cons_of_neg (by decide))
  have hname : p.name.isEmpty = false := List.isEmpty_eq_false_iff.2 p.name_ne_nil
  have hparts := p.typeAndDefault?_line
  rw [line]
  generalize p.beforeType ++ (p.type ++ p.defaultText) = rest at hparts ⊢
  rcases p.exists_beforeColon_append rest with ⟨c, tail, hrest, hword, hmark⟩
  have hcolon := hcolon rest
  rw [hrest] at hcolon ⊢
  unfold optionalMark declaration?
  cases hoptional : p.optional with
  | true =>
      have hhead : ∀ d, ('?' :: c :: tail).head? = some d → isWord d = false := by
        rintro d ⟨⟩
        exact isWord_delimiter (by decide)
      simp [takeWhile_append_of_head? p.isWord_name hhead,
        dropWhile_append_of_head? p.isWord_name hhead, hname, hcolon, hparts]
  | false =>
      have hhead : ∀ d, (c :: tail).head? = some d → isWord d = false := by
        rintro d ⟨⟩
        exact hword
      simp [takeWhile_append_of_head? p.isWord_name hhead,
        dropWhile_append_of_head? p.isWord_name hhead, hname, hmark, hcolon, hparts]

theorem property_declaration :
    Declaration.property ⟨p.name, p.optional, p.type, p.default⟩ = p.property := by
  unfold Declaration.property property
  simp only [List.contains_iff_mem, pieces_eq_splitOn]

end WrittenProperty

/-! ## Blocks of properties -/

/-- The name and the property that a line gives to a block. -/
def propertyField? (line : List Char) : Option (String × Property) :=
  (declaration? (trim line)).map fun d => (String.ofList d.name, d.property)

/-- The properties of a block are those of its lines, set one after another. -/
theorem readProperties_eq (body : List Char) :
    readProperties body = Fields.ofPairs ((content body).filterMap propertyField?) := by
  refine (foldl_significantLines ?_ body []).trans ?_
  · intro properties line
    dsimp only
    rw [trim_trim]
  rw [Fields.ofPairs, List.foldl_filterMap]
  congr 1
  funext properties line
  unfold propertyField?
  cases declaration? (trim line) with
  | none => rfl
  | some d => rfl

theorem WrittenProperty.propertyField?_line (p : WrittenProperty) :
    propertyField? p.line = some p.field := by
  rw [propertyField?, p.trim_line, p.declaration?_line, Option.map_some, p.property_declaration]
  rfl

/-- The lines of the properties, one below the other. -/
def propertyBody (properties : List WrittenProperty) : List Char :=
  ['\n'].intercalate (properties.map WrittenProperty.line)

theorem content_propertyBody (properties : List WrittenProperty) :
    content (propertyBody properties) = properties.map WrittenProperty.line := by
  cases properties with
  | nil => rfl
  | cons first others =>
      have hlines : ∀ line ∈ (first :: others).map WrittenProperty.line, '\n' ∉ line :=
        List.forall_mem_map.2 fun p _ => p.newline_not_mem_line
      have hsignificant :
          ((first :: others).map WrittenProperty.line).filter isSignificant =
            (first :: others).map WrittenProperty.line :=
        List.filter_eq_self.2 (List.forall_mem_map.2 fun p _ => p.isSignificant_line)
      rw [content, propertyBody, lines_intercalate (by simp) hlines, hsignificant, List.map_map]
      exact List.map_congr_left fun p _ => p.trim_line

/-- A block of properties is read as the properties that were written, in their order. -/
theorem readProperties_propertyBody {properties : List WrittenProperty}
    (hnodup : (properties.map WrittenProperty.name).Nodup) :
    readProperties (propertyBody properties) = properties.map WrittenProperty.field := by
  have hfields : (properties.map WrittenProperty.line).filterMap propertyField? =
      properties.map WrittenProperty.field := by
    rw [List.filterMap_map, List.filterMap_eq_map_iff_forall_eq_some]
    exact fun p _ => p.propertyField?_line
  have hnames : (Fields.names (properties.map WrittenProperty.field)).Nodup := by
    have hkeys := List.Nodup.map (f := String.ofList) (fun _ _ => String.ofList_inj.1) hnodup
    rw [List.map_map] at hkeys
    rw [Fields.names, List.map_map]
    exact hkeys
  rw [readProperties_eq, content_propertyBody, hfields, Fields.ofPairs_of_nodup hnames]

def buttonProperties : List WrittenProperty := [
  { Gaps.usual with name := "onPress".toList, optional := true, type := "(e: Event?) : void".toList },
  { Gaps.usual with name := "kind".toList, type := "\"a b\" | x:y".toList,
                    default := some "x = y".toList },
  { Gaps.tight with name := "_size".toList, optional := true, type := "number".toList,
                    default := some "= 3".toList }]

theorem readProperties_propertyBody_button :
    propertyBody buttonProperties =
        "onPress?: (e: Event?) : void\nkind: \"a b\" | x:y = x = y\n_size?:number== 3".toList ∧
      (buttonProperties.map WrittenProperty.name).Nodup ∧
      readProperties (propertyBody buttonProperties) = [
        ("onPress", { type := "(e: Event?) : void", required := false }),
        ("kind", { type := "enum", default := some (Value.read "x = y".toList)
                   options := some ["\"a b\"", "x:y"] }),
        ("_size", { type := "number", required := false
                    default := some (Value.read "= 3".toList) })] :=
  ⟨by decide, by decide, readProperties_propertyBody (by decide)⟩

end Spec
end ComponentSpec

import ComponentSpec.Element.Basic
import ComponentSpec.Proofs.Text.SmallLetters
import ComponentSpec.Proofs.Text.Tags
import Mathlib.Data.List.Basic
import Mathlib.Tactic.Tauto

/-!
# Reading the markup of an element

The text of an element, the list of its descendants and its markup are three recursions on the same
tree.  Where the markup is made from the tree alone, and nothing in the tree looks like a bracket of
markup, the other two can be read off the markup again: the text is what stands outside of its tags,
and the descendants are its opening tags in order.

The parts of the markup are given by a fourth recursion, `partsWithin`, that follows the tree; the
scanner of texts finds these parts, and each reading is proved from them by induction on the tree.

Main statements: the parts that a scanner finds in the markup (`markupParts_innerMarkup`), and the
agreement of the readings (`readings_agree`).
-/

namespace ComponentSpec

open Text

/-! ## Tags of an element -/

namespace Node

/-- What stands between the brackets of the opening tag. -/
def opening (own : Node) : String :=
  lowercase own.tag ++ Element.attributesMarkup own.attributes

/-- What stands between the brackets of the closing tag. -/
def closing (own : Node) : String :=
  "/" ++ lowercase own.tag

end Node

/-- The text has no angle bracket. -/
def IsUnbracketed (s : String) : Prop :=
  '<' ∉ s.toList ∧ '>' ∉ s.toList

instance (s : String) : Decidable (IsUnbracketed s) :=
  inferInstanceAs (Decidable (_ ∧ _))

/-- Nothing of an element can be taken for a bracket of markup, its opening tag cannot be taken for
a closing one, and no markup was given for it. -/
structure Node.IsPlain (own : Node) : Prop where
  html : own.html = none
  tag : IsUnbracketed own.tag
  tag_head : own.tag.toList.head? ≠ some '/'
  attributes : ∀ field ∈ own.attributes, IsUnbracketed field.1 ∧ IsUnbracketed field.2
  text : IsUnbracketed own.text

instance (own : Node) : Decidable own.IsPlain :=
  decidable_of_iff
    (own.html = none ∧ IsUnbracketed own.tag ∧ own.tag.toList.head? ≠ some '/' ∧
      (∀ field ∈ own.attributes, IsUnbracketed field.1 ∧ IsUnbracketed field.2) ∧
        IsUnbracketed own.text)
    ⟨fun ⟨html, tag, head, attributes, text⟩ => ⟨html, tag, head, attributes, text⟩,
      fun h => ⟨h.html, h.tag, h.tag_head, h.attributes, h.text⟩⟩

theorem not_mem_lowercase {m : Char} (hm : m.toNat < 'A'.toNat) {s : String} (h : m ∉ s.toList) :
    m ∉ (lowercase s).toList := by
  rw [lowercase, String.toList_ofList]
  exact fun hmem => h (mem_of_mem_smalls hm hmem)

namespace Element

theorem toList_attributesMarkup (attributes : Fields String) :
    (attributesMarkup attributes).toList = attributes.flatMap fun field =>
      ' ' :: (field.1.toList ++ '=' :: '"' :: (field.2.toList ++ ['"'])) := by
  rw [attributesMarkup, String.toList_join, List.flatMap_map]
  simp

theorem not_mem_attributesMarkup {m : Char} (hm : m ∉ [' ', '=', '"']) {attributes : Fields String}
    (h : ∀ field ∈ attributes, m ∉ field.1.toList ∧ m ∉ field.2.toList) :
    m ∉ (attributesMarkup attributes).toList := by
  rw [toList_attributesMarkup, List.mem_flatMap]
  rintro ⟨field, hfield, hmem⟩
  have hnames := h field hfield
  simp only [List.mem_cons, List.mem_append, List.not_mem_nil, or_false, not_or] at hm hmem
  tauto

end Element

namespace Node.IsPlain

variable {own : Node}

theorem bracket_not_mem_opening (h : own.IsPlain) : '>' ∉ own.opening.toList := by
  rw [opening, String.toList_append, List.mem_append, not_or]
  refine ⟨not_mem_lowercase (by decide) h.tag.2, ?_⟩
  apply Element.not_mem_attributesMarkup (by decide)
  exact fun field hfield => ⟨(h.attributes field hfield).1.2, (h.attributes field hfield).2.2⟩

theorem bracket_not_mem_closing (h : own.IsPlain) : '>' ∉ own.closing.toList := by
  rw [closing, String.toList_append, List.mem_append, not_or]
  exact ⟨by decide, not_mem_lowercase (by decide) h.tag.2⟩

/-- The opening tag is not taken for a closing one. -/
theorem closingName?_opening (h : own.IsPlain) : closingName? own.opening.toList = none := by
  rw [closingName?_eq_none_iff, opening, String.toList_append, List.head?_append]
  have hhead : (lowercase own.tag).toList.head? ≠ some '/' := by
    rw [lowercase, String.toList_ofList]
    exact fun hslash => h.tag_head (head?_of_head?_smalls (by decide) hslash)
  cases hfirst : (lowercase own.tag).toList.head? with
  | some c => rwa [hfirst] at hhead
  | none =>
      -- Without a tag the attributes come first, and they begin with a space.
      rw [Element.toList_attributesMarkup]
      cases own.attributes with
      | nil => exact nofun
      | cons field rest => exact fun hslash => absurd (Option.some.inj hslash) (by decide)

end Node.IsPlain

theorem Node.isNamed_opening (own : Node) :
    isNamed (lowercase own.tag).toList own.opening.toList = true := by
  rw [isNamed, opening, String.toList_append, Element.toList_attributesMarkup, Bool.or_eq_true]
  cases own.attributes with
  | nil => exact .inl (beq_iff_eq.2 (List.append_nil _))
  | cons field rest =>
      refine .inr (List.isPrefixOf_iff_prefix.2 ((List.prefix_append_right_inj _).2 ?_))
      exact List.cons_prefix_cons.2 ⟨rfl, List.nil_prefix⟩

namespace Element

/-! ## The parts of the markup -/

mutual

/-- The parts of the markup inside the element. -/
def partsWithin : Element → List MarkupPart
  | node own children => own.text.toList.map .char ++ partsOfAll children

/-- The parts of the markup of several elements with their tags. -/
def partsOfAll : List Element → List MarkupPart
  | [] => []
  | e :: rest =>
      .tag e.own.opening.toList ::
        (partsWithin e ++ .tag e.own.closing.toList :: partsOfAll rest)

end

/-- The element and all elements inside it are plain. -/
def IsPlain (e : Element) : Prop :=
  ∀ d ∈ e :: e.descendants, d.own.IsPlain

instance (e : Element) : Decidable e.IsPlain :=
  inferInstanceAs (Decidable (∀ d ∈ e :: e.descendants, d.own.IsPlain))

theorem toList_wrapMarkup (own : Node) (content : String) :
    (wrapMarkup own content).toList =
      '<' :: (own.opening.toList ++ '>' ::
        (content.toList ++ '<' :: (own.closing.toList ++ ['>']))) := by
  simp [wrapMarkup, Node.opening, Node.closing]

theorem markupParts_wrapMarkup {own : Node} (h : own.IsPlain) {content : String}
    {inside : List MarkupPart}
    (hcontent : ∀ rest, markupParts (content.toList ++ rest) = inside ++ markupParts rest)
    (rest : List Char) :
    markupParts ((wrapMarkup own content).toList ++ rest) =
      .tag own.opening.toList :: (inside ++ .tag own.closing.toList :: markupParts rest) := by
  simp only [toList_wrapMarkup, List.cons_append, List.append_assoc, List.nil_append]
  rw [markupParts_tag h.bracket_not_mem_opening, hcontent,
    markupParts_tag h.bracket_not_mem_closing]

mutual

theorem markupParts_innerMarkup : ∀ e : Element, e.IsPlain → ∀ rest,
    markupParts (e.innerMarkup.toList ++ rest) = e.partsWithin ++ markupParts rest
  | node own children, h, rest => by
      have hown : own.IsPlain := h _ (List.mem_cons_self ..)
      have hbelow : ∀ d ∈ descendantsOfAll children, d.own.IsPlain :=
        fun d hd => h d (List.mem_cons_of_mem _ hd)
      rw [innerMarkup, partsWithin, hown.html]
      dsimp only
      rw [String.toList_append, List.append_assoc, List.append_assoc,
        markupParts_append hown.text.1, markupParts_markupOfAll children hbelow]

theorem markupParts_markupOfAll : ∀ es : List Element,
    (∀ d ∈ descendantsOfAll es, d.own.IsPlain) → ∀ rest,
      markupParts ((markupOfAll es).toList ++ rest) = partsOfAll es ++ markupParts rest
  | [], _, _ => rfl
  | e :: es, h, rest => by
      rw [descendantsOfAll, ← List.cons_append] at h
      have hfirst : e.IsPlain := fun d hd => h d (List.mem_append_left _ hd)
      have hothers : ∀ d ∈ descendantsOfAll es, d.own.IsPlain :=
        fun d hd => h d (List.mem_append_right _ hd)
      rw [markupOfAll, partsOfAll, String.toList_append, List.append_assoc,
        markupParts_wrapMarkup (hfirst e (List.mem_cons_self ..))
          (markupParts_innerMarkup e hfirst),
        markupParts_markupOfAll es hothers]
      simp

end

/-! ## What the parts tell -/

mutual

/-- The characters outside of all tags are the text. -/
theorem chars_partsWithin : ∀ e : Element,
    e.partsWithin.filterMap MarkupPart.char? = e.textContent.toList
  | node own children => by
      rw [partsWithin, textContent, List.filterMap_append, List.filterMap_map,
        String.toList_append, chars_partsOfAll children]
      exact congrArg (· ++ _) List.filterMap_some

theorem chars_partsOfAll : ∀ es : List Element,
    (partsOfAll es).filterMap MarkupPart.char? = (textOfAll es).toList
  | [] => rfl
  | e :: es => by
      rw [partsOfAll, textOfAll, String.toList_append, List.filterMap_cons_none rfl,
        List.filterMap_append, List.filterMap_cons_none rfl, chars_partsWithin e,
        chars_partsOfAll es]

end

theorem tags_text (s : List Char) : (s.map MarkupPart.char).filterMap MarkupPart.tag? = [] := by
  rw [List.filterMap_map]
  exact List.filterMap_eq_nil_iff.2 fun _ _ => rfl

theorem tags_partsWithin (own : Node) (children : List Element) :
    (node own children).partsWithin.filterMap MarkupPart.tag? =
      (partsOfAll children).filterMap MarkupPart.tag? := by
  rw [partsWithin, List.filterMap_append, tags_text, List.nil_append]

/-- The tags of several elements are the opening tag, the inner tags and the closing tag of the
first, and then the tags of the others. -/
theorem tags_partsOfAll_cons (e : Element) (es : List Element) :
    (partsOfAll (e :: es)).filterMap MarkupPart.tag? =
      e.own.opening.toList :: (e.partsWithin.filterMap MarkupPart.tag? ++
        ('/' :: (lowercase e.own.tag).toList) :: (partsOfAll es).filterMap MarkupPart.tag?) := by
  have hclosing : e.own.closing.toList = '/' :: (lowercase e.own.tag).toList := by
    rw [Node.closing, String.toList_append]
    rfl
  simp only [partsOfAll, List.filterMap_cons, List.filterMap_append, MarkupPart.tag?, hclosing]

mutual

theorem openings_partsWithin : ∀ e : Element, (∀ d ∈ e.descendants, d.own.IsPlain) →
    (e.partsWithin.filterMap MarkupPart.tag?).filter isOpeningTag =
      e.descendants.map fun d => d.own.opening.toList
  | node own children, h => by
      rw [tags_partsWithin]
      exact openings_partsOfAll children h

theorem openings_partsOfAll : ∀ es : List Element, (∀ d ∈ descendantsOfAll es, d.own.IsPlain) →
    ((partsOfAll es).filterMap MarkupPart.tag?).filter isOpeningTag =
      (descendantsOfAll es).map fun d => d.own.opening.toList
  | [], _ => rfl
  | e :: es, h => by
      rw [descendantsOfAll] at h ⊢
      rw [List.forall_mem_cons, List.forall_mem_append] at h
      rcases h with ⟨hown, hbelow, hothers⟩
      have hopening : isOpeningTag e.own.opening.toList = true :=
        Option.isNone_iff_eq_none.2 hown.closingName?_opening
      have hclosing : ¬ isOpeningTag ('/' :: (lowercase e.own.tag).toList) = true :=
        Bool.false_ne_true
      rw [tags_partsOfAll_cons, List.filter_cons_of_pos hopening, List.filter_append,
        List.filter_cons_of_neg hclosing, openings_partsWithin e hbelow,
        openings_partsOfAll es hothers, List.map_cons, List.map_append]

end

mutual

/-- The tags inside an element close what they open, whatever is open around them. -/
theorem nestedAfter_partsWithin : ∀ e : Element, (∀ d ∈ e.descendants, d.own.IsPlain) →
    ∀ stillOpen rest, nestedAfter stillOpen (e.partsWithin.filterMap MarkupPart.tag? ++ rest) =
      nestedAfter stillOpen rest
  | node own children, h, stillOpen, rest => by
      rw [tags_partsWithin]
      exact nestedAfter_partsOfAll children h stillOpen rest

theorem nestedAfter_partsOfAll : ∀ es : List Element,
    (∀ d ∈ descendantsOfAll es, d.own.IsPlain) → ∀ stillOpen rest,
      nestedAfter stillOpen ((partsOfAll es).filterMap MarkupPart.tag? ++ rest) =
        nestedAfter stillOpen rest
  | [], _, _, _ => rfl
  | e :: es, h, stillOpen, rest => by
      rw [descendantsOfAll, List.forall_mem_cons, List.forall_mem_append] at h
      rcases h with ⟨hown, hbelow, hothers⟩
      rw [tags_partsOfAll_cons, List.cons_append, nestedAfter_opening hown.closingName?_opening,
        List.append_assoc, nestedAfter_partsWithin e hbelow, List.cons_append,
        nestedAfter_closing e.own.isNamed_opening, nestedAfter_partsOfAll es hothers]

end

/-! ## The readings -/

theorem markupParts_innerMarkup_self {e : Element} (h : e.IsPlain) :
    markupParts e.innerMarkup.toList = e.partsWithin := by
  have hparts := markupParts_innerMarkup e h []
  rwa [List.append_nil, markupParts, List.append_nil] at hparts

/-- What is read off the markup of an element. -/
structure MarkupTells (e : Element) : Prop where
  text : withoutTags e.innerMarkup.toList = e.textContent.toList
  openings : openingTagsIn e.innerMarkup.toList = e.descendants.map fun d => d.own.opening.toList
  nested : isProperlyNested e.innerMarkup.toList = true

/-- The text of an element is made of the own texts of its descendants in order, and the markup of a
plain element tells this text and these descendants. -/
theorem readings_agree (e : Element) :
    e.textContent = e.own.text ++ String.join (e.descendants.map fun d => d.own.text) ∧
      (e.IsPlain → MarkupTells e) := by
  refine ⟨textContent_eq_descendants e, fun h => ?_⟩
  have hparts : markupParts e.innerMarkup.toList = e.partsWithin := markupParts_innerMarkup_self h
  have hbelow : ∀ d ∈ e.descendants, d.own.IsPlain := fun d hd => h d (List.mem_cons_of_mem _ hd)
  constructor
  case text => rw [withoutTags, hparts, chars_partsWithin]
  case openings => rw [openingTagsIn, tagsIn, hparts, openings_partsWithin e hbelow]
  case nested =>
    have hnested := nestedAfter_partsWithin e hbelow [] []
    rw [List.append_nil] at hnested
    rw [isProperlyNested, tagsIn, hparts, hnested]
    rfl

/-- A figure with a picture in it and a text around and below the picture. -/
def figure : Element :=
  .node { tag := "FIGURE", text := "Fig. " } [
    .node { tag := "Img", attributes := [("src", "a.webp"), ("alt", "")] } [],
    .node { tag := "figcaption" } [.node { tag := "b", text := "One" } []]]

theorem readings_agree_figure : figure.IsPlain ∧ MarkupTells figure := by
  have hplain : figure.IsPlain := by decide
  exact ⟨hplain, (readings_agree figure).2 hplain⟩

end Element
end ComponentSpec

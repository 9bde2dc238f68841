import ComponentSpec.Element.Basic

/-!
# What an element shows of its descendants

The text of an element contains the texts of all its descendants, whatever markup was given for the
elements between them.  Its markup contains the markup of a descendant as long as no element on the
way down has markup of its own, which stands in place of what is below it.

Main statements: the two ways to be a descendant (`below_iff_mem_descendants`), and what of a
descendant stands in the text and in the markup of an element (`textContent_isInfix_of_below`,
`outerMarkup_isInfix_of_below`).
-/

namespace ComponentSpec
namespace Element

/-- An element `d` stands below `e`, and all elements on the way from `e` down to the parent of `d`
have a property. -/
inductive Below (p : Element → Prop) (d : Element) : Element → Prop
  | child {e : Element} (he : p e) (hd : d ∈ e.children) : Below p d e
  | deeper {e c : Element} (he : p e) (hc : c ∈ e.children) (h : Below p d c) : Below p d e

/-! ## Descendants -/

theorem mem_descendantsOfAll_iff {d : Element} {es : List Element} :
    d ∈ descendantsOfAll es ↔ ∃ c ∈ es, d = c ∨ d ∈ c.descendants := by
  induction es with
  | nil => exact iff_of_false List.not_mem_nil nofun
  | cons e rest ih =>
      rw [descendantsOfAll, List.mem_cons, List.mem_append, ih]
      constructor
      · rintro (hd | hd | ⟨c, hc, hd⟩)
        · exact ⟨e, List.mem_cons_self .., .inl hd⟩
        · exact ⟨e, List.mem_cons_self .., .inr hd⟩
        · exact ⟨c, List.mem_cons_of_mem _ hc, hd⟩
      · rintro ⟨c, hc, hd⟩
        rcases List.mem_cons.1 hc with rfl | hc
        · exact hd.imp_right .inl
        · exact .inr (.inr ⟨c, hc, hd⟩)

theorem mem_descendants_iff {d e : Element} :
    d ∈ e.descendants ↔ ∃ c ∈ e.children, d = c ∨ d ∈ c.descendants := by
  cases e with
  | node own children => exact mem_descendantsOfAll_iff

theorem Below.mem_descendants {p : Element → Prop} {d e : Element} (h : Below p d e) :
    d ∈ e.descendants := by
  induction h with
  | child _ hd => exact mem_descendants_iff.2 ⟨d, hd, .inl rfl⟩
  | deeper _ hc _ ih => exact mem_descendants_iff.2 ⟨_, hc, .inr ih⟩

theorem sizeOf_lt_of_mem_children {c e : Element} (hc : c ∈ e.children) : sizeOf c < sizeOf e := by
  cases e with
  | node own children =>
      have hsmaller : sizeOf c < sizeOf children := List.sizeOf_lt_of_mem hc
      rw [node.sizeOf_spec]
      exact Nat.lt_add_left _ hsmaller

theorem below_of_mem_descendants {d e : Element} (h : d ∈ e.descendants) :
    Below (fun _ => True) d e := by
  rcases mem_descendants_iff.1 h with ⟨c, hc, rfl | hd⟩
  · exact .child trivial hc
  · exact .deeper trivial hc (below_of_mem_descendants hd)
termination_by sizeOf e
decreasing_by exact sizeOf_lt_of_mem_children hc

/-- The descendants are the elements below, with nothing asked of the way to them. -/
theorem below_iff_mem_descendants {d e : Element} :
    Below (fun _ => True) d e ↔ d ∈ e.descendants :=
  ⟨Below.mem_descendants, below_of_mem_descendants⟩

/-! ## Text -/

/-- What is read of one element is a piece of what is read of several elements one after another. -/
theorem isInfix_of_mem {reading : Element → String} {readingOfAll : List Element → String}
    (hcons : ∀ e rest, readingOfAll (e :: rest) = reading e ++ readingOfAll rest) {c : Element}
    {es : List Element} (hc : c ∈ es) : (reading c).toList <:+: (readingOfAll es).toList := by
  induction es with
  | nil => cases hc
  | cons e rest ih =>
      rw [hcons, String.toList_append]
      rcases List.mem_cons.1 hc with rfl | hc
      · exact (List.prefix_append _ _).isInfix
      · exact (ih hc).trans (List.suffix_append _ _).isInfix

theorem textContent_isInfix_of_mem {c e : Element} (hc : c ∈ e.children) :
    c.textContent.toList <:+: e.textContent.toList := by
  cases e with
  | node own children =>
      have hall : c.textContent.toList <:+: (textOfAll children).toList :=
        isInfix_of_mem (fun _ _ => rfl) hc
      rw [textContent, String.toList_append]
      exact hall.trans (List.suffix_append _ _).isInfix

theorem textContent_isInfix_of_below {p : Element → Prop} {d e : Element} (h : Below p d e) :
    d.textContent.toList <:+: e.textContent.toList := by
  induction h with
  | child _ hd => exact textContent_isInfix_of_mem hd
  | deeper _ hc _ ih => exact ih.trans (textContent_isInfix_of_mem hc)

/-! ## Markup -/

/-- No markup was given for the element, so that its markup is made from its children. -/
def IsOpen (e : Element) : Prop :=
  e.own.html = none

theorem innerMarkup_isInfix_outerMarkup (e : Element) :
    e.innerMarkup.toList <:+: e.outerMarkup.toList := by
  simp only [outerMarkup, wrapMarkup, String.toList_append]
  apply List.IsInfix.trans _ (List.prefix_append _ _).isInfix
  apply List.IsInfix.trans _ (List.prefix_append _ _).isInfix
  apply List.IsInfix.trans _ (List.prefix_append _ _).isInfix
  exact (List.suffix_append _ _).isInfix

theorem outerMarkup_isInfix_of_mem {c e : Element} (he : e.IsOpen) (hc : c ∈ e.children) :
    c.outerMarkup.toList <:+: e.innerMarkup.toList := by
  cases e with
  | node own children =>
      have hall : c.outerMarkup.toList <:+: (markupOfAll children).toList :=
        isInfix_of_mem (fun _ _ => rfl) hc
      have hhtml : own.html = none := he
      rw [innerMarkup, hhtml, String.toList_append]
      exact hall.trans (List.suffix_append _ _).isInfix

theorem outerMarkup_isInfix_of_below {d e : Element} (h : Below IsOpen d e) :
    d.outerMarkup.toList <:+: e.innerMarkup.toList := by
  induction h with
  | child he hd => exact outerMarkup_isInfix_of_mem he hd
  | deeper he hc _ ih =>
      -- Each element on the way shows the one below it between its own tags.
      exact ih.trans ((innerMarkup_isInfix_outerMarkup _).trans (outerMarkup_isInfix_of_mem he hc))

end Element
end ComponentSpec

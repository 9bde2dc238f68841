import ComponentSpec.Element.Basic
import ComponentSpec.Reading.Scalar

/-!
# Reading elements

An element is read from an object whose fields are all optional.  Its children are elements in turn.
-/

namespace ComponentSpec
namespace Reading

/-- Reads the page of an element. -/
def page : Datum → Reading Page :=
  record fun fields =>
    Page.mk <$> optional fields "hostname" "localhost" text
      <*> optional fields "selectors" [] (list text)
      <*> optional fields "reduced_motion" false flag

/-- An element from the values of its fields, in the order in which they are read. -/
def elementOfFields (tag : String) (attributes style : Fields String) (width height : Number)
    (text : String) (html : Option String) (children : List Element) (props : Fields Datum)
    (page : Page) : Element :=
  .node { tag, attributes, style, width, height, text, html, props, page } children

theorem sizeOf_lt_of_get? {fields : Fields Datum} {name : String} {d : Datum}
    (h : fields.get? name = some d) : sizeOf d < sizeOf fields := by
  induction fields with
  | nil => simp [Fields.get?] at h
  | cons field rest ih =>
      obtain ⟨n, v⟩ := field
      rw [Fields.get?] at h
      split at h
      · simp only [Option.some.injEq] at h
        subst h
        simp only [List.cons.sizeOf_spec, Prod.mk.sizeOf_spec]
        omega
      · have := ih h
        simp only [List.cons.sizeOf_spec]
        omega

/-- Reads an element with all its children. -/
def element : Datum → Reading Element
  | .object fields =>
      let children : Reading (List Element) :=
        match _ : Fields.get? fields "children" with
        | none => pure []
        | some (.list items) =>
            within (.field "children") (itemsFrom (fun ⟨d, _⟩ => element d) 0 items.attach)
        | some _ => within (.field "children") (refuse .notList)
      elementOfFields <$> optional fields "tag" "div" text
        <*> optional fields "attributes" [] (Reading.fields text)
        <*> optional fields "style" [] (Reading.fields text)
        <*> optional fields "width" (.whole 0) (Number.real <$> real ·)
        <*> optional fields "height" (.whole 0) (Number.real <$> real ·)
        <*> optional fields "text" "" text
        <*> optional fields "html" none (nullable text)
        <*> children
        <*> optional fields "props" [] (Reading.fields pure)
        <*> optional fields "context" {} page
  | _ => refuse .notRecord
termination_by d => sizeOf d
decreasing_by
  have h1 := sizeOf_lt_of_get? ‹Fields.get? _ _ = _›
  have h2 := List.sizeOf_lt_of_mem ‹_›
  simp only [Datum.object.sizeOf_spec]
  simp only [Datum.list.sizeOf_spec] at h1
  omega

end Reading
end ComponentSpec

import ComponentSpec.Datum
import ComponentSpec.Text.Case
import ComponentSpec.Text.Scan

/-!
# Elements

A rendered element of a page as it was captured: its tag, attributes, style, size and text, the
page that it belongs to, and its children.  An element is a tree of nodes, and the readings of the
tree are recursions on it.

Main statement: the text of an element is its own text followed by the own texts of all its
descendants in document order (`textContent_eq_descendants`).
-/

namespace ComponentSpec

/-- The page that an element belongs to. -/
structure Page where
  hostname : String := "localhost"
  selectors : List String := []
  reducedMotion : Bool := false
  deriving Repr, Inhabited

/-- Whether some selector of the page's style sheets contains a fragment. -/
def Page.hasSelectorContaining (page : Page) (fragment : String) : Bool :=
  page.selectors.any fun selector => Text.occurs fragment.toList selector.toList

/-- What an element has of its own, apart from its children. -/
structure Node where
  tag : String := "div"
  attributes : Fields String := []
  style : Fields String := []
  width : Number := .whole 0
  height : Number := .whole 0
  text : String := ""
  html : Option String := none
  props : Fields Datum := []
  page : Page := {}
  deriving Repr, Inhabited

/-- An element with its children. -/
inductive Element
  | node (own : Node) (children : List Element)
  deriving Repr, Inhabited

/-- The style of an element for which nothing else is given. -/
def defaultStyle : Fields String := [
  ("color", "rgb(0, 0, 0)"),
  ("background-color", "rgba(0, 0, 0, 0)"),
  ("outline", "none"),
  ("box-shadow", "none"),
  ("transition", "none"),
  ("animation", "none"),
  ("opacity", "1"),
  ("visibility", "visible"),
  ("display", "block"),
  ("position", "static"),
  ("z-index", "auto")]

namespace Element

/-- What the element has of its own. -/
def own : Element → Node
  | node own _ => own

/-- The children in order. -/
def children : Element → List Element
  | node _ children => children

/-- The tag in capital letters. -/
def tagName (e : Element) : String :=
  uppercase e.own.tag

/-- The value of an attribute. -/
def attribute? (e : Element) (name : String) : Option String :=
  e.own.attributes.get? name

/-- Whether the element has an attribute, even an empty one. -/
def hasAttribute (e : Element) (name : String) : Bool :=
  (e.attribute? name).isSome

/-- The class names of the element. -/
def className (e : Element) : String :=
  (e.attribute? "class").getD ""

/-- The value of a style property: the element's own, or the usual one, or nothing. -/
def computedStyle (e : Element) (name : String) : String :=
  ((e.own.style.get? name).or (Fields.get? defaultStyle name)).getD ""

/-- The shorter side of the element. -/
def shorterSide (e : Element) : Number :=
  Number.min e.own.width e.own.height

/-! ## Readings of the tree -/

mutual

/-- The texts of the element and of everything in it. -/
def textContent : Element → String
  | node own children => own.text ++ textOfAll children

/-- The texts of several elements. -/
def textOfAll : List Element → String
  | [] => ""
  | e :: rest => textContent e ++ textOfAll rest

end

/-- The attributes as they stand in an opening tag. -/
def attributesMarkup (attributes : Fields String) : String :=
  String.join (attributes.map fun (name, value) => " " ++ name ++ "=\"" ++ value ++ "\"")

/-- Content between an opening and a closing tag. -/
def wrapMarkup (own : Node) (content : String) : String :=
  let tag := lowercase own.tag
  "<" ++ tag ++ attributesMarkup own.attributes ++ ">" ++ content ++ "</" ++ tag ++ ">"

mutual

/-- The markup inside the element: given for it, or made from its text and its children. -/
def innerMarkup : Element → String
  | node own children =>
      match own.html with
      | some html => html
      | none => own.text ++ markupOfAll children

/-- The markup of several elements. -/
def markupOfAll : List Element → String
  | [] => ""
  | e :: rest => wrapMarkup e.own (innerMarkup e) ++ markupOfAll rest

end

/-- The markup of the element with its tags. -/
def outerMarkup (e : Element) : String :=
  wrapMarkup e.own (innerMarkup e)

mutual

/-- All elements inside the element in document order. -/
def descendants : Element → List Element
  | node _ children => descendantsOfAll children

/-- Several elements, each followed by its descendants. -/
def descendantsOfAll : List Element → List Element
  | [] => []
  | e :: rest => e :: (descendants e ++ descendantsOfAll rest)

end

mutual

theorem textContent_eq_descendants :
    ∀ e : Element,
      e.textContent = e.own.text ++ String.join (e.descendants.map fun d => d.own.text)
  | node own children => by
      rw [textContent, descendants, textOfAll_eq_descendants children]
      rfl

/-- The texts of several elements are the own texts of all elements in them. -/
theorem textOfAll_eq_descendants :
    ∀ es : List Element,
      textOfAll es = String.join ((descendantsOfAll es).map fun d => d.own.text)
  | [] => rfl
  | e :: rest => by
      simp only [textOfAll, descendantsOfAll, List.map_cons, List.map_append, String.join_cons,
        String.join_append]
      rw [textContent_eq_descendants e, textOfAll_eq_descendants rest, String.append_assoc]

end

end Element
end ComponentSpec

import ComponentSpec.Element.Basic

/-!
# Inserting an element

An element can be put among the children of any node of a tree, before, between or after them.  The
own data of the tree stay as they are, and all nodes that are put in are new descendants.

Main statements: how many descendants there are after an insertion (`Inserted.length_descendants`),
that the root keeps its own data (`Inserted.own_eq`), and that the nodes of a last child come after
all others (`descendants_withLastChild`).
-/

namespace ComponentSpec
namespace Element

/-- The number of nodes of an element, itself included. -/
def nodeCount (e : Element) : Nat :=
  e.descendants.length + 1

/-- The second element is the first one with `s` as a new child of some node. -/
inductive Inserted (s : Element) : Element → Element → Prop
  | child (own : Node) (before after : List Element) :
      Inserted s (node own (before ++ after)) (node own (before ++ s :: after))
  | deeper (own : Node) (before after : List Element) {c grown : Element} (h : Inserted s c grown) :
      Inserted s (node own (before ++ c :: after)) (node own (before ++ grown :: after))

variable {s e grown : Element}

theorem descendantsOfAll_append (es rest : List Element) :
    descendantsOfAll (es ++ rest) = descendantsOfAll es ++ descendantsOfAll rest := by
  induction es with
  | nil => rfl
  | cons e es ih =>
      rw [List.cons_append, descendantsOfAll, descendantsOfAll, ih, List.cons_append,
        List.append_assoc]

/-- What is counted below a node with a certain child in the middle. -/
theorem length_descendants_node (own : Node) (before after : List Element) (c : Element) :
    (node own (before ++ c :: after)).descendants.length =
      (descendantsOfAll before).length + c.nodeCount + (descendantsOfAll after).length := by
  simp only [descendants, descendantsOfAll_append, descendantsOfAll, List.length_append,
    List.length_cons, nodeCount]
  omega

theorem Inserted.length_descendants (h : Inserted s e grown) :
    grown.descendants.length = e.descendants.length + s.nodeCount := by
  induction h with
  | child own before after =>
      rw [length_descendants_node, descendants, descendantsOfAll_append, List.length_append]
      omega
  | deeper own before after h ih =>
      rw [length_descendants_node, length_descendants_node, nodeCount, nodeCount, ih]
      omega

/-- The root keeps what it has of its own. -/
theorem Inserted.own_eq (h : Inserted s e grown) : grown.own = e.own := by
  cases h with
  | child => rfl
  | deeper => rfl

/-- The element with one more child after all others. -/
def withLastChild : Element → Element → Element
  | node own children, s => node own (children ++ [s])

theorem descendants_withLastChild (e s : Element) :
    (e.withLastChild s).descendants = e.descendants ++ s :: s.descendants := by
  cases e with
  | node own children =>
      rw [withLastChild, descendants, descendants, descendantsOfAll_append, descendantsOfAll,
        descendantsOfAll, List.append_nil]

end Element
end ComponentSpec

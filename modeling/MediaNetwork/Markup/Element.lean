/-
  Elements: the tree a document is read into.

  An element keeps its name, its attributes in the order they are written, its child elements and
  the line of its start tag; the schema puts everything into attributes, so no text is kept.

  1. `find?` searches the children, or all descendants, for the first one with a wanted name.
  2. `descendants` lists the proper descendants in document order; it is what a search through
     the whole subtree runs over.
-/

namespace MediaNetwork.Markup

/-- An element of a document. -/
structure Element where
  name : String
  attributes : List (String × String)
  children : List Element
  /-- The line of the start tag, counted from 1. -/
  line : Nat
  deriving Repr, BEq, Inhabited

/-- How far a search goes. -/
inductive Scan
  /-- The children, in document order. -/
  | siblings
  /-- Every descendant, an element before its own children. -/
  | subtree
  deriving DecidableEq, Repr

namespace Element

/-- The value of the first attribute with this key. -/
def attribute? (e : Element) (key : String) : Option String := e.attributes.lookup key

mutual

/-- The proper descendants in document order. -/
def descendants : Element → List Element
  | ⟨_, _, children, _⟩ => listDescendants children

/-- The elements of a list with their descendants, in document order. -/
def listDescendants : List Element → List Element
  | [] => []
  | e :: es => e :: (descendants e ++ listDescendants es)

end

mutual

/-- The first descendant in document order whose name is one of `names`. -/
def findBelow? (names : List String) : Element → Option Element
  | ⟨_, _, children, _⟩ => findAmong? names children

/-- The first element, of a list with its descendants, whose name is one of `names`. -/
def findAmong? (names : List String) : List Element → Option Element
  | [] => none
  | e :: es =>
    if names.contains e.name then some e
    else match findBelow? names e with
      | some found => some found
      | none => findAmong? names es

end

/-- The first element below `e` whose name is one of `names`. -/
def find? (e : Element) (names : List String) : Scan → Option Element
  | .siblings => e.children.find? fun c => names.contains c.name
  | .subtree => findBelow? names e

/-- The children with this name, in document order. -/
def childrenNamed (e : Element) (name : String) : List Element :=
  e.children.filter fun c => c.name == name

mutual

/-- The element and its descendants in document order, each with its depth below `depth`. -/
def outline (depth : Nat) : Element → List (Nat × Element)
  | ⟨name, attributes, children, line⟩ =>
    (depth, ⟨name, attributes, children, line⟩) :: outlineAll (depth + 1) children

/-- The outlines of a list of elements, one after the other. -/
def outlineAll (depth : Nat) : List Element → List (Nat × Element)
  | [] => []
  | e :: es => outline depth e ++ outlineAll depth es

end

end Element

end MediaNetwork.Markup

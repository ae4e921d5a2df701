/-
  Printed markup: a document as it is written out.

  A printed element is a leaf, closed in its own tag, or a block with a start tag, its children
  one below the other and an end tag.  Which of the two a childless element is belongs to the
  layout, so the printed form says it.  Two spaces indent a level.
-/
import MediaNetwork.Markup.Entity

namespace MediaNetwork.Markup

/-- An element as it is written out. -/
inductive Printed
  /-- A tag closed in itself. -/
  | leaf (name : String) (attributes : List (String × String))
  /-- A start tag, children and an end tag. -/
  | block (name : String) (attributes : List (String × String)) (children : List Printed)
  deriving Repr, Inhabited

namespace Printed

/-- One attribute, with the space before it. -/
def writeAttribute (a : String × String) : List Char :=
  ' ' :: a.1.toList ++ ['=', '"'] ++ escape a.2.toList ++ ['"']

/-- The two spaces of every level. -/
def indent (depth : Nat) : List Char := List.replicate (2 * depth) ' '

/-- A tag up to its bracket. -/
def writeHead (depth : Nat) (name : String) (attributes : List (String × String)) : List Char :=
  indent depth ++ '<' :: name.toList ++ attributes.flatMap writeAttribute

/-- The line of an end tag. -/
def writeEnd (depth : Nat) (name : String) : List Char :=
  indent depth ++ '<' :: '/' :: name.toList ++ ['>', '\n']

mutual

/-- The lines of an element `depth` levels deep. -/
def write (depth : Nat) : Printed → List Char
  | leaf name attributes => writeHead depth name attributes ++ ['/', '>', '\n']
  | block name attributes children =>
    writeHead depth name attributes ++ '>' :: '\n' :: writeAll (depth + 1) children ++
      writeEnd depth name

/-- The lines of several elements, one after the other. -/
def writeAll (depth : Nat) : List Printed → List Char
  | [] => []
  | p :: ps => write depth p ++ writeAll depth ps

end

/-- The declaration on the first line of every document. -/
def declaration : String := "<?xml version=\"1.0\" encoding=\"UTF-8\"?>\n"

/-- A whole document. -/
def document (p : Printed) : String := String.ofList (declaration.toList ++ write 0 p)

end Printed

end MediaNetwork.Markup

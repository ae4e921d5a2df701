/-
  Documents: the events of a text put together to one tree.

  A start tag opens an element, an end tag closes the innermost open one, a childless tag is both;
  a closed element becomes the last child of the one around it, or the root.  The text must hold
  exactly one root and close everything it opens.

  Faults come in the order of the text: the tree is built event by event, and the fault that
  stopped the reading comes after those of the events before it.
-/
import MediaNetwork.Markup.Element
import MediaNetwork.Markup.Event
import MediaNetwork.Markup.Line

namespace MediaNetwork.Markup

open MediaNetwork.Text

/-- An element whose end tag has not come yet. -/
structure OpenElement where
  name : String
  attributes : List (String × String)
  line : Nat
  /-- The children so far, the last one first. -/
  reversed : List Element

/-- The element, once its end tag has come. -/
def OpenElement.close (o : OpenElement) : Element :=
  ⟨o.name, o.attributes, o.reversed.reverse, o.line⟩

/-- A tree under construction. -/
structure Growth where
  /-- How far the lines have been counted. -/
  cursor : LineCursor
  /-- The open elements, innermost first. -/
  opened : List OpenElement
  root : Option Element

namespace Growth

/-- The empty tree over a text. -/
def start (text : List Char) : Growth := ⟨LineCursor.start text, [], none⟩

/-- Puts a finished element into the innermost open one, or makes it the root. -/
def attach (g : Growth) (e : Element) : Except MarkupFault Growth :=
  match g.opened with
  | top :: outer => .ok { g with opened := { top with reversed := e :: top.reversed } :: outer }
  | [] =>
    match g.root with
    | some _ => .error (.secondRoot e.name e.line)
    | none => .ok { g with root := some e }

/-- The element a start tag on `line` opens. -/
def openElement (line : Nat) (tag : Tag) : Except MarkupFault OpenElement :=
  match tag.attributes with
  | .error fault => .error (.tag line fault)
  | .ok attributes => .ok ⟨String.ofList tag.name, attributes, line, []⟩

/-- Takes in the event whose reading began at `offset`. -/
def add (g : Growth) : Nat × Event → Except MarkupFault Growth
  | (offset, event) =>
    let g := { g with cursor := g.cursor.seek offset }
    match event with
    | .start tag => do
      let o ← openElement g.cursor.line tag
      .ok { g with opened := o :: g.opened }
    | .childless tag => do
      let o ← openElement g.cursor.line tag
      g.attach o.close
    | .close _ =>
      match g.opened with
      | [] => .error (.unbalanced g.cursor.line)
      | top :: outer => { g with opened := outer }.attach top.close
    | .other => .ok g

/-- The root, if there is one and everything is closed. -/
def finish (g : Growth) : Except MarkupFault Element :=
  match g.opened with
  | top :: _ => .error (.unclosed top.name top.line)
  | [] =>
    match g.root with
    | none => .error .noRoot
    | some root => .ok root

end Growth

/-- The tree of a reading of `text`. -/
def Reading.toElement (text : List Char) (r : Reading) : Except MarkupFault Element := do
  let g ← r.events.foldlM Growth.add (Growth.start text)
  match r.fault with
  | some fault => .error (.reading fault)
  | none => g.finish

/-- The one element a text consists of. -/
def Element.ofText (text : String) : Except MarkupFault Element :=
  (scan text.toList).toElement text.toList

end MediaNetwork.Markup

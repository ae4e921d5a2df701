/-
  Lines: which line of the text an event begins on.

  The cursor walks the whole text once, byte order mark included, and never goes back.  For an
  offset it moves to that byte and on over the blanks there, since an event begins at the first
  character that is not blank; the line is one more than the line feeds it has passed.
-/
import MediaNetwork.Text.Blank

namespace MediaNetwork.Markup

open MediaNetwork.Text

/-- A place in the text: what lies ahead of it, its byte offset and its line. -/
structure LineCursor where
  ahead : List Char
  offset : Nat
  line : Nat
  deriving DecidableEq, Repr

namespace LineCursor

/-- The beginning of a text. -/
def start (text : List Char) : LineCursor := ⟨text, 0, 1⟩

/-- The line after a character. -/
def lineAfter (line : Nat) (c : Char) : Nat := if c = '\n' then line + 1 else line

/-- Moves over every character that begins before `position`. -/
def advance (position : Nat) : List Char → Nat → Nat → LineCursor
  | [], offset, line => ⟨[], offset, line⟩
  | c :: cs, offset, line =>
    if offset < position then advance position cs (offset + c.utf8Size) (lineAfter line c)
    else ⟨c :: cs, offset, line⟩

/-- Moves over blanks. -/
def skipBlanks : List Char → Nat → Nat → LineCursor
  | [], offset, line => ⟨[], offset, line⟩
  | c :: cs, offset, line =>
    if isLineBlank c then skipBlanks cs (offset + c.utf8Size) (lineAfter line c)
    else ⟨c :: cs, offset, line⟩

/-- The place where an event that was begun at `position` stands.  Between two characters the
    blanks are skipped; a position inside a character, or one already passed, has none. -/
def seek (k : LineCursor) (position : Nat) : LineCursor :=
  let k := advance position k.ahead k.offset k.line
  if k.offset = position then skipBlanks k.ahead k.offset k.line else k

end LineCursor

example : (LineCursor.start ['\n', ' ', '<']).seek 0 = ⟨['<'], 2, 2⟩ := by decide

end MediaNetwork.Markup

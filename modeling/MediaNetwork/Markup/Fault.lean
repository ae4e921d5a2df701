/-
  Faults of markup: every way in which a text fails to be one element, and its wording.

  1. `EntityFault`    — an entity in an attribute value that stands for no character.
  2. `AttributeFault` — a tag whose attributes cannot be told apart.
  3. `SyntaxFault`    — a piece of markup that does not end, or ends the wrong element.
  4. `MarkupFault`    — one of these in its place, or a text whose tags do not form one tree.

  Positions and ranges are byte offsets, inside the value for an entity and inside the tag for an
  attribute.
-/
import MediaNetwork.Text.Blank
import MediaNetwork.Text.Quoted

namespace MediaNetwork.Markup

open MediaNetwork.Text

/-- Why an entity of an attribute value stands for no character. -/
inductive EntityFault
  /-- No semicolon ends the entity that begins at `start`. -/
  | unterminated (start stop : Nat)
  /-- The name between `start` and `stop` is none of the five. -/
  | unknownName (start stop : Nat) (name : List Char)
  /-- More than seven decimal digits. -/
  | longDecimal
  /-- A character that is no decimal digit. -/
  | badDecimal (digit : Char)
  /-- More than six hexadecimal digits. -/
  | longHex
  /-- A character that is no hexadecimal digit. -/
  | badHex (digit : Char)
  /-- The number zero. -/
  | zero (start stop : Nat)
  /-- A number that no character has. -/
  | noCharacter (code : Nat)
  deriving DecidableEq, Repr

/-- Why the attributes of a tag cannot be told apart. -/
inductive AttributeFault
  /-- A key is followed by something other than an equals sign. -/
  | equalsExpected (position : Nat)
  /-- The tag ends after an equals sign. -/
  | valueExpected (position : Nat)
  /-- A value does not begin with a quote. -/
  | quoteExpected (position : Nat)
  /-- A value has no second quote. -/
  | quoteUnclosed (position : Nat) (quote : Char)
  /-- A key occurs a second time. -/
  | repeated (position previous : Nat)
  deriving DecidableEq, Repr

/-- What is wrong with the attributes of one tag. -/
inductive TagFault
  | keys (fault : AttributeFault)
  | entity (fault : EntityFault)
  deriving DecidableEq, Repr

/-- The pieces of markup that a text may break off in. -/
inductive Piece
  | bang | comment | cdata | doctype | instruction | tag
  deriving DecidableEq, Repr

/-- Why the next piece of markup cannot be read. -/
inductive SyntaxFault
  /-- The piece has no end. -/
  | unfinished (piece : Piece)
  /-- After `<!` stands a character that begins none of the three declarations. -/
  | unknownBang (found : Char)
  /-- A document type declaration holds nothing. -/
  | emptyDoctype
  /-- An end tag does not name the element that is open. -/
  | endMismatch (opened found : List Char)
  deriving DecidableEq, Repr

/-- Why a text is not one element. -/
inductive MarkupFault
  /-- A piece of markup cannot be read. -/
  | reading (fault : SyntaxFault)
  /-- The attributes of the tag on this line are wrong. -/
  | tag (line : Nat) (fault : TagFault)
  /-- An end tag has nothing to end. -/
  | unbalanced (line : Nat)
  /-- The text ends inside an element. -/
  | unclosed (name : String) (line : Nat)
  /-- An element follows the root element. -/
  | secondRoot (name : String) (line : Nat)
  /-- There is no element. -/
  | noRoot
  /-- A fault given by its wording alone. -/
  | other (text : String)
  deriving DecidableEq, Repr

/-! ## Wording -/

/-- A byte as the Latin-1 character of that number. -/
def leadByteText (c : Char) : String := String.singleton (Char.ofNat (leadByte c))

/-- The wording of a range of bytes. -/
def rangeText (start stop : Nat) : String := s!"{decimal start}..{decimal stop}"

/-- The wording of a fault that a range locates. -/
def escapeText (start stop : Nat) (rest : String) : String :=
  s!"Error while escaping character at range {rangeText start stop}: {rest}"

/-- The wording of an entity fault. -/
def EntityFault.message : EntityFault → String
  | .unterminated start stop => escapeText start stop "Cannot find ';' after '&'"
  | .unknownName start stop name =>
    escapeText start stop s!"Unrecognized escape symbol: {quoted name}"
  | .longDecimal => "Cannot convert decimal to utf8"
  | .badDecimal digit => s!"'{leadByteText digit}' is not a valid decimal character"
  | .longHex => "Cannot convert hexadecimal to utf8"
  | .badHex digit => s!"'{leadByteText digit}' is not a valid hexadecimal character"
  | .zero start stop => escapeText start stop "Null character entity not allowed"
  | .noCharacter code => s!"'{decimal code}' is not a valid codepoint"

/-- The wording of an attribute fault. -/
def AttributeFault.message : AttributeFault → String
  | .equalsExpected position =>
    s!"position {decimal position}: attribute key must be directly followed by `=` or space"
  | .valueExpected position =>
    s!"position {decimal position}: `=` must be followed by an attribute value"
  | .quoteExpected position =>
    s!"position {decimal position}: attribute value must be enclosed in `\"` or `'`"
  | .quoteUnclosed position quote =>
    s!"position {decimal position}: missing closing quote `{String.singleton quote}` in " ++
      "attribute value"
  | .repeated position previous =>
    s!"position {decimal position}: duplicated attribute, previous declaration at position " ++
      decimal previous

/-- The wording of what is wrong with a tag. -/
def TagFault.message : TagFault → String
  | .keys fault => fault.message
  | .entity fault => fault.message

/-- The name of a piece in a message. -/
def Piece.name : Piece → String
  | .bang => "Bang"
  | .comment => "Comment"
  | .cdata => "CData"
  | .doctype => "DOCTYPE"
  | .instruction => "XmlDecl"
  | .tag => "Element"

/-- The wording of a syntax fault. -/
def SyntaxFault.message : SyntaxFault → String
  | .unfinished piece => s!"Unexpected EOF during reading {piece.name}"
  | .unknownBang found =>
    "Only Comment (`--`), CDATA (`[CDATA[`) and DOCTYPE (`DOCTYPE`) nodes can start with a '!', " ++
      s!"but symbol `{leadByteText found}` found"
  | .emptyDoctype => "DOCTYPE declaration must not be empty"
  | .endMismatch opened found =>
    s!"Expecting </{String.ofList opened}> found </{String.ofList found}>"

/-- The wording of a markup fault. -/
def MarkupFault.message : MarkupFault → String
  | .reading fault => fault.message
  | .tag line fault => s!"line {decimal line}: {fault.message}"
  | .unbalanced line => s!"unbalanced end tag at line {decimal line}"
  | .unclosed name line => s!"element <{name}> opened at line {decimal line} is never closed"
  | .secondRoot name line => s!"second root element <{name}> at line {decimal line}"
  | .noRoot => "document has no root element"
  | .other text => text

end MediaNetwork.Markup

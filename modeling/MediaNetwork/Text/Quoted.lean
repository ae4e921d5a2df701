/-
  Quoted text: how a message shows a piece of the document between double quotes.

  The quote and the backslash get a backslash, the four common controls their letter, every other
  control and every hidden character its number in braces; all else stands for itself.
-/
import MediaNetwork.Text.Hidden
import MediaNetwork.Text.Numeral

namespace MediaNetwork.Text

/-- A character spelled out by its number in lower-case hexadecimal digits. -/
def spelledOut (c : Char) : List Char :=
  '\\' :: 'u' :: '\x7b' :: (hexLower 1 c.toNat).toList ++ ['\x7d']

/-- One character of a quoted text. -/
def quoteChar (c : Char) : List Char :=
  if c == '\x00' then ['\\', '0']
  else if c == '\t' then ['\\', 't']
  else if c == '\r' then ['\\', 'r']
  else if c == '\n' then ['\\', 'n']
  else if c == '\\' || c == '"' then ['\\', c]
  else if c.toNat < 0x20 || c.toNat == 0x7F then spelledOut c
  else if c.toNat < 0x7F then [c]
  else if isHidden c then spelledOut c
  else [c]

/-- The text between double quotes. -/
def quoted (cs : List Char) : String := String.ofList ('"' :: cs.flatMap quoteChar ++ ['"'])

example : quoted ['a', '"', '\n', '\x7f'] = "\"a\\\"\\n\\u\x7b7f\x7d\"" := by decide

end MediaNetwork.Text

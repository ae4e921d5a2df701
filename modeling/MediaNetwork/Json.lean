/-
  JSON: values and their indented text.

  1. `Json` holds what an export needs: null, truth values, natural numbers, texts, arrays and
     objects with their fields in order.
  2. `Json.pretty` puts every item on a line of its own, two spaces a level; an array or object of
     nothing is its two brackets.  In a text only quotes, backslashes and controls are escaped,
     so a quote that ends a text is always the first bare one.
-/
import MediaNetwork.Text.Numeral

namespace MediaNetwork

/-- A JSON value; an object keeps its fields in order. -/
inductive Json
  | null
  | bool (value : Bool)
  | nat (value : Nat)
  | text (value : String)
  | array (items : List Json)
  | object (fields : List (String × Json))
  deriving Repr, Inhabited

namespace Json

/-- What is written for one character of a text. -/
def escapeChar (c : Char) : List Char :=
  if c == '"' || c == '\\' then ['\\', c]
  else if c == '\x08' then ['\\', 'b']
  else if c == '\t' then ['\\', 't']
  else if c == '\n' then ['\\', 'n']
  else if c == '\x0c' then ['\\', 'f']
  else if c == '\r' then ['\\', 'r']
  else if c.toNat < 0x20 then '\\' :: 'u' :: (Text.hexLower 4 c.toNat).toList
  else [c]

/-- A text between its quotes. -/
def writeText (s : String) : List Char := '"' :: s.toList.flatMap escapeChar ++ ['"']

/-- A new line, indented by two spaces a level. -/
def newLine (depth : Nat) : List Char := '\n' :: List.replicate (2 * depth) ' '

mutual

/-- The text of a value whose brackets stand `depth` levels deep. -/
def write (depth : Nat) : Json → List Char
  | null => ['n', 'u', 'l', 'l']
  | bool true => ['t', 'r', 'u', 'e']
  | bool false => ['f', 'a', 'l', 's', 'e']
  | nat n => (Text.decimal n).toList
  | text s => writeText s
  | array [] => ['[', ']']
  | array (v :: vs) =>
    '[' :: newLine (depth + 1) ++ write (depth + 1) v ++ writeItems (depth + 1) vs ++
      newLine depth ++ [']']
  | object [] => ['\x7b', '\x7d']
  | object ((key, v) :: fields) =>
    '\x7b' :: newLine (depth + 1) ++ writeText key ++ ':' :: ' ' :: write (depth + 1) v ++
      writeFields (depth + 1) fields ++ newLine depth ++ ['\x7d']

/-- The items behind the first one. -/
def writeItems (depth : Nat) : List Json → List Char
  | [] => []
  | v :: vs => ',' :: newLine depth ++ write depth v ++ writeItems depth vs

/-- The fields behind the first one. -/
def writeFields (depth : Nat) : List (String × Json) → List Char
  | [] => []
  | (key, v) :: fields =>
    ',' :: newLine depth ++ writeText key ++ ':' :: ' ' :: write depth v ++
      writeFields depth fields

end

/-- The indented text of a value. -/
def pretty (v : Json) : String := String.ofList (write 0 v)

/-- A value or null. -/
def ofOption {α : Type} (f : α → Json) : Option α → Json
  | none => null
  | some a => f a

/-- The array of a list. -/
def ofList {α : Type} (f : α → Json) (l : List α) : Json := array (l.map f)

/-- An 8-bit number. -/
def byte (n : UInt8) : Json := nat n.toNat

/-- A 16-bit number. -/
def word (n : UInt16) : Json := nat n.toNat

end Json

example : Json.pretty (.object [("a", .array [.nat 1])]) =
    "\x7b\n  \"a\": [\n    1\n  ]\n\x7d" := by decide

end MediaNetwork

/-
  Literals: the values an attribute can be read as.

  1. Integers — decimal, or hexadecimal behind `0x`; white space around them does not count.  A
     literal of any length is valued exactly before it is compared with its largest value.
  2. Payloads — bytes of two hexadecimal digits, an optional `0x` before each, any number of
     delimiters between them; `writePayload` is the canonical way to write one.
  3. Keywords — a table from names to values, read in one direction by `value?` and printed in
     the other by `name`.
-/
import MediaNetwork.Text.Blank
import MediaNetwork.Text.Numeral

namespace MediaNetwork

open MediaNetwork.Text

/-! ## Integers -/

/-- Why a literal is not an integer of its range. -/
inductive LiteralFault
  /-- It is no numeral. -/
  | malformed
  /-- It is larger than its largest value. -/
  | outOfRange
  deriving DecidableEq, Repr

/-- The value of a numeral, a hexadecimal one behind `0x` or `0X`. -/
def numeralValue? : List Char → Option Nat
  | '0' :: 'x' :: digits => readHex digits
  | '0' :: 'X' :: digits => readHex digits
  | digits => readDecimal digits

/-- The integer a literal stands for, at most `max`. -/
def readInteger (literal : String) (max : Nat) : Except LiteralFault Nat :=
  match numeralValue? (trim literal.toList) with
  | none => .error .malformed
  | some n => if n ≤ max then .ok n else .error .outOfRange

/-! ## Payloads -/

/-- A character between two bytes of a payload. -/
def isDelimiter (c : Char) : Bool :=
  c == ' ' || c == ',' || c == '.' || c == '-' || c == '\t' || c == '\n' || c == '\r'

/-- The byte of two hexadecimal digits. -/
def byteOfDigits? (high low : Char) : Option UInt8 :=
  match hexDigit? high, hexDigit? low with
  | some h, some l => some (UInt8.ofNat (16 * h + l))
  | _, _ => none

/-- The byte of a piece between delimiters. -/
def pieceByte? : List Char → Option UInt8
  | [high, low] => byteOfDigits? high low
  | ['0', x, high, low] => if x = 'x' ∨ x = 'X' then byteOfDigits? high low else none
  | _ => none

/-- The pieces between delimiters, empty ones left out.  `piece` is the piece that is being read,
    backwards, and `done` those before it, backwards. -/
def piecesFrom (piece : List Char) (done : List (List Char)) : List Char → List (List Char)
  | [] => (if piece.isEmpty then done else piece.reverse :: done).reverse
  | c :: cs =>
    if isDelimiter c then
      piecesFrom [] (if piece.isEmpty then done else piece.reverse :: done) cs
    else piecesFrom (c :: piece) done cs

/-- The bytes of a payload. -/
def readPayload (text : String) : Option (List UInt8) :=
  (piecesFrom [] [] text.toList).mapM pieceByte?

/-- One byte as two upper-case digits. -/
def byteText (b : UInt8) : String := hexUpper 2 b.toNat

/-- The bytes of a payload as they are written out: two upper-case digits each, one space
    between. -/
def writePayload (bytes : List UInt8) : String := " ".intercalate (bytes.map byteText)

/-! ## Keywords -/

/-- The names of the values an attribute may have. -/
abbrev Keywords (α : Type) := List (String × α)

/-- The value a name stands for. -/
def Keywords.value? {α : Type} (table : Keywords α) (name : String) : Option α :=
  table.lookup name

/-- The first name of a value, or a question mark if it has none. -/
def Keywords.name {α : Type} [BEq α] (table : Keywords α) (value : α) : String :=
  match table.find? fun entry => entry.2 == value with
  | some entry => entry.1
  | none => "?"

example : readInteger " 0xFF\n" 255 = .ok 255 ∧ readInteger "256" 255 = .error .outOfRange ∧
    readInteger "0x" 255 = .error .malformed := ⟨rfl, rfl, rfl⟩
example : readPayload "01 0xFf,,2-" = none ∧ readPayload "01 0xFf,,2A-" = some [1, 255, 42] := by
  decide

end MediaNetwork

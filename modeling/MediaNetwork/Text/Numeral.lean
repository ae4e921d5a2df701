/-
  Numerals: numbers written in a document and in a message.

  1. Reading — `readNumeral` values a run of digits of any length; it refuses the empty run and
     every other character, so no sign and no separator is ever accepted.
  2. Writing — decimal without leading zeros, and hexadecimal with a least width, in either case.
-/

namespace MediaNetwork.Text

/-! ## Reading -/

/-- The value of an ASCII decimal digit. -/
def decimalDigit? (c : Char) : Option Nat :=
  if '0' ≤ c ∧ c ≤ '9' then some (c.toNat - '0'.toNat) else none

/-- The value of an ASCII hexadecimal digit, in either case. -/
def hexDigit? (c : Char) : Option Nat :=
  if '0' ≤ c ∧ c ≤ '9' then some (c.toNat - '0'.toNat)
  else if 'a' ≤ c ∧ c ≤ 'f' then some (c.toNat - 'a'.toNat + 10)
  else if 'A' ≤ c ∧ c ≤ 'F' then some (c.toNat - 'A'.toNat + 10)
  else none

/-- Continues a numeral of value `n` by the digits `cs`. -/
def extendNumeral (digit? : Char → Option Nat) (base : Nat) (n : Nat) : List Char → Option Nat
  | [] => some n
  | c :: cs =>
    match digit? c with
    | some d => extendNumeral digit? base (n * base + d) cs
    | none => none

/-- The value of a non-empty run of digits. -/
def readNumeral (digit? : Char → Option Nat) (base : Nat) (cs : List Char) : Option Nat :=
  if cs.isEmpty then none else extendNumeral digit? base 0 cs

/-- The value of a decimal numeral. -/
def readDecimal (cs : List Char) : Option Nat := readNumeral decimalDigit? 10 cs

/-- The value of a hexadecimal numeral, its prefix already taken off. -/
def readHex (cs : List Char) : Option Nat := readNumeral hexDigit? 16 cs

/-! ## Writing -/

/-- The decimal digits of a number, without leading zeros. -/
def decimal (n : Nat) : String := String.ofList (Nat.toDigits 10 n)

/-- A run of digits with zeros in front of it, up to the least width. -/
def padLeft (width : Nat) (digits : List Char) : List Char :=
  List.replicate (width - digits.length) '0' ++ digits

/-- Upper-case hexadecimal digits, at least `width` of them. -/
def hexUpper (width : Nat) (n : Nat) : String :=
  String.ofList ((padLeft width (Nat.toDigits 16 n)).map Char.toUpper)

/-- Lower-case hexadecimal digits, at least `width` of them. -/
def hexLower (width : Nat) (n : Nat) : String :=
  String.ofList (padLeft width (Nat.toDigits 16 n))

example : hexUpper 4 0x2F = "002F" ∧ hexUpper 0 0x2F = "2F" ∧ hexLower 2 0xA = "0a" := by decide
example : readHex ['f', 'F'] = some 255 ∧ readDecimal [] = none ∧
    readDecimal ['+', '1'] = none := by decide

end MediaNetwork.Text

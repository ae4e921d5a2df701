/-
  Atoms: the characters and escapes of a regular expression, each by itself.

  A backslash takes its meaning from any character: it makes a sign of the language a plain
  character, writes a character by its number, names a set of characters, or names a place in the
  text.  Back references do not exist.  Where blanks do not count they may stand between the parts
  of an escape too, but not behind the backslash.
-/
import MediaNetwork.Text.Numeral
import MediaNetwork.Text.Pattern.Flags

namespace MediaNetwork.Text.Pattern

/-- A character or an escape by itself. -/
inductive Atom
  /-- A character that stands for itself. -/
  | literal (c : Char)
  /-- A character written by two digits, which is a byte where bytes are matched. -/
  | octet (c : Char)
  /-- A set of characters, within ASCII or reaching beyond it where bytes are matched. -/
  | set (ascii : Bool)
  /-- A place where a word begins or ends, or does not. -/
  | wordEdge
  /-- The start or the end of the text. -/
  | textEdge
  deriving DecidableEq, Repr

/-- The letters that name the main categories of characters. -/
def categories : List Char := ['C', 'L', 'M', 'N', 'P', 'S', 'Z']

/-- The controls that an escape names by a letter. -/
def controls : List (Char × Char) :=
  [('a', '\x07'), ('f', '\x0c'), ('t', '\t'), ('n', '\n'), ('r', '\r'), ('v', '\x0b')]

/-- Reads so many hexadecimal digits on from a number. -/
def readDigits? (f : Flags) : (width number : Nat) → List Char → Option (Nat × List Char)
  | 0, n, cs => some (n, cs)
  | _ + 1, _, [] => none
  | width + 1, n, c :: cs =>
    match hexDigit? c with
    | some d => readDigits? f width (n * 16 + d) (f.skip cs)
    | none => none

/-- Reads a character that is written by its number, with so many digits. -/
def readNumbered? (f : Flags) (width : Nat) (cs : List Char) : Option (Char × List Char) :=
  match readDigits? f width 0 (f.skip cs) with
  | some (n, rest) => if n.isValidChar then some (Char.ofNat n, rest) else none
  | none => none

/-- Reads the letter of a category. -/
def readCategory? (f : Flags) (cs : List Char) : Option (List Char) :=
  match f.skip cs with
  | [] => none
  | c :: rest => if categories.contains c.toUpper then some (f.skip rest) else none

/-- Reads what stands behind a backslash. -/
def readEscape? (f : Flags) : List Char → Option (Atom × List Char)
  | [] => none
  | c :: cs =>
    if c == 'x' then (readNumbered? f 2 cs).map fun (c, rest) => (.octet c, rest)
    else if c == 'u' then (readNumbered? f 4 cs).map fun (c, rest) => (.literal c, rest)
    else if c == 'U' then (readNumbered? f 8 cs).map fun (c, rest) => (.literal c, rest)
    else if c == 'p' || c == 'P' then (readCategory? f cs).map fun rest => (.set false, rest)
    else if c == 'd' || c == 's' || c == 'w' then some (.set true, cs)
    else if c == 'D' || c == 'S' || c == 'W' then some (.set false, cs)
    else if c == 'b' || c == 'B' || c == '<' || c == '>' then some (.wordEdge, cs)
    else if c == 'A' || c == 'z' then some (.textEdge, cs)
    else match controls.lookup c with
      | some control => some (.literal control, cs)
      | none => if c.isAlphanum || c.toNat > 0x7F then none else some (.literal c, cs)

/-- Reads an atom. -/
def readAtom? (f : Flags) (c : Char) (rest : List Char) : Option (Atom × List Char) :=
  if c == '\\' then readEscape? f rest else some (.literal c, rest)

/-- Whether an atom stays within ASCII where bytes are matched. -/
def Atom.fits (f : Flags) : Atom → Bool
  | octet c => !f.bytes || c.toNat < 0x80
  | set ascii => !f.bytes || ascii
  | wordEdge => f.bytes
  | literal _ | textEdge => true

/-- The character an atom is. -/
def Atom.char? : Atom → Option Char
  | literal c | octet c => some c
  | set _ | wordEdge | textEdge => none

/-- Whether an atom may stand inside a set. -/
def Atom.isMember (f : Flags) (a : Atom) : Bool :=
  match a with
  | literal c | octet c => !f.bytes || c.toNat < 0x80
  | set ascii => !f.bytes || ascii
  | wordEdge | textEdge => false

/-- Whether two atoms are the ends of a range. -/
def isRange (f : Flags) (first last : Atom) : Bool :=
  match first.char?, last.char? with
  | some a, some b => a ≤ b && first.isMember f && last.isMember f
  | _, _ => false

example : readAtom? .initial '\\' ['x', '4', '1', '*'] = some (.octet 'A', ['*']) := by decide
example : readAtom? .initial '\\' [] = none ∧ readAtom? .initial '\\' ['1'] = none := by decide
example : readAtom? ⟨false, true⟩ '\\' ['x', ' ', '4', '1'] = some (.octet 'A', []) := by decide

end MediaNetwork.Text.Pattern

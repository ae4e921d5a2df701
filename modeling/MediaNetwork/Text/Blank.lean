/-
  Blanks: the three sets of white space that meet in a configuration document.

  1. `isBlank`     — the four blanks of markup; they part a tag's name from its attributes.
  2. `isLineBlank` — the same and form feed; the line count looks through these.
  3. `isSpace`     — the Unicode property White_Space; integer literals are trimmed of it.

  Each set is contained in the next.
-/

namespace MediaNetwork.Text

/-- A blank of markup: space, line feed, carriage return or tab. -/
def isBlank (c : Char) : Bool := c == ' ' || c == '\n' || c == '\r' || c == '\t'

/-- A blank the line count looks through: a blank of markup or a form feed. -/
def isLineBlank (c : Char) : Bool := isBlank c || c == '\x0c'

/-- A character of the Unicode property White_Space. -/
def isSpace (c : Char) : Bool :=
  let n := c.toNat
  (0x09 ≤ n && n ≤ 0x0D) || n == 0x20 || n == 0x85 || n == 0xA0 || n == 0x1680 ||
    (0x2000 ≤ n && n ≤ 0x200A) || n == 0x2028 || n == 0x2029 || n == 0x202F || n == 0x205F ||
    n == 0x3000

/-- The text without the characters of `p` at its end. -/
def dropEndWhile (p : Char → Bool) (cs : List Char) : List Char :=
  (cs.reverse.dropWhile p).reverse

/-- The text without white space at either end. -/
def trim (cs : List Char) : List Char := dropEndWhile isSpace (cs.dropWhile isSpace)

/-- The length of a text in bytes, as UTF-8 writes it. -/
def byteLength (cs : List Char) : Nat := cs.foldl (fun n c => n + c.utf8Size) 0

/-- The first byte of a character as UTF-8 writes it: the character's own number below 128, else
    a byte whose high bits tell how many bytes there are. -/
def leadByte (c : Char) : Nat :=
  let n := c.toNat
  if n < 0x80 then n
  else if n < 0x800 then 0xC0 + n / 0x40
  else if n < 0x10000 then 0xE0 + n / 0x1000
  else 0xF0 + n / 0x40000

/-- The line count looks through every blank of markup. -/
theorem isLineBlank_of_isBlank {c : Char} (h : isBlank c = true) : isLineBlank c = true := by
  simp [isLineBlank, h]

end MediaNetwork.Text

/-
  Flags of a regular expression: how its text is read from a place on.

  Two flags matter to the form of an expression.  Without `u` it matches bytes, so nothing in it
  may reach beyond ASCII.  With `x` blanks and comments do not count; a comment runs from a hash
  sign to the end of its line.
-/
import MediaNetwork.Text.Blank

namespace MediaNetwork.Text.Pattern

/-- The flags that matter to the form. -/
structure Flags where
  /-- Bytes are matched, not characters. -/
  bytes : Bool
  /-- Blanks and comments do not count. -/
  spaced : Bool
  deriving DecidableEq, Repr

/-- The text behind blanks and comments, from inside a comment or from outside. -/
def skipBlanks : (inComment : Bool) → List Char → List Char
  | _, [] => []
  | true, c :: cs => skipBlanks (c != '\n') cs
  | false, c :: cs =>
    if isSpace c then skipBlanks false cs
    else if c == '#' then skipBlanks true cs
    else c :: cs

/-- The first sign that is no blank and does not open a comment; what a comment says counts. -/
def firstSign? : (inComment : Bool) → List Char → Option Char
  | _, [] => none
  | inComment, c :: cs =>
    if isSpace c then firstSign? inComment cs
    else if c == '#' && !inComment then firstSign? true cs
    else some c

namespace Flags

/-- The flags at the start of an expression. -/
def initial : Flags := ⟨false, false⟩

/-- The text behind what does not count. -/
def skip (f : Flags) (cs : List Char) : List Char :=
  if f.spaced then skipBlanks false cs else cs

/-- The sign that follows. -/
def peek? (f : Flags) (cs : List Char) : Option Char :=
  if f.spaced then firstSign? false cs else cs.head?

/-- The letters of all flags. -/
def letters : List Char := ['i', 'm', 's', 'U', 'u', 'R', 'x']

/-- Whether letters switch flags, those behind a dash off: each once, and none missing. -/
def areSwitches (cs : List Char) : Bool :=
  cs.all (fun c => c == '-' || letters.contains c) && cs.Nodup && cs.getLast? != some '-'

/-- The state of a flag after switches that may name it. -/
def switched (switches : List Char) (letter : Char) (old : Bool) : Bool :=
  if (switches.takeWhile (· != '-')).contains letter then true
  else if switches.contains letter then false
  else old

/-- The flags after switches. -/
def switch (f : Flags) (switches : List Char) : Flags :=
  ⟨!switched switches 'u' !f.bytes, switched switches 'x' f.spaced⟩

example : initial.switch ['i', 'x', '-', 'u'] = ⟨true, true⟩ := by decide

end Flags

end MediaNetwork.Text.Pattern

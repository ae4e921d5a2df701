/-
  Entities: how an attribute value writes the characters that markup keeps for itself.

  1. Writing — `escape` replaces the five reserved characters by their named entities, so the
     result holds neither a quote nor an angle bracket and every `&` in it begins an entity.
  2. Reading — `unescape` replaces each named or numbered entity by its character and leaves all
     else alone; blanks are not normalised.  It reports the first entity that stands for nothing.
-/
import MediaNetwork.Markup.Fault

namespace MediaNetwork.Markup

open MediaNetwork.Text

/-! ## Writing -/

/-- What is written for one character of a value. -/
def escapeChar (c : Char) : List Char :=
  if c == '<' then ['&', 'l', 't', ';']
  else if c == '>' then ['&', 'g', 't', ';']
  else if c == '&' then ['&', 'a', 'm', 'p', ';']
  else if c == '\'' then ['&', 'a', 'p', 'o', 's', ';']
  else if c == '"' then ['&', 'q', 'u', 'o', 't', ';']
  else [c]

/-- A value as it is written between quotes. -/
def escape (cs : List Char) : List Char := cs.flatMap escapeChar

/-! ## Reading -/

/-- The character of a named entity. -/
def namedEntity? : List Char → Option Char
  | ['l', 't'] => some '<'
  | ['g', 't'] => some '>'
  | ['a', 'm', 'p'] => some '&'
  | ['a', 'p', 'o', 's'] => some '\''
  | ['q', 'u', 'o', 't'] => some '"'
  | _ => none

/-- Continues the number `n` by digits, or tells the first character that is no digit. -/
def digitsValue (digit? : Char → Option Nat) (base : Nat) : Nat → List Char → Except Char Nat
  | n, [] => .ok n
  | n, c :: cs =>
    match digit? c with
    | some d => digitsValue digit? base (n * base + d) cs
    | none => .error c

/-- The number of a numbered entity, given the text after its hash sign. -/
def entityCode : List Char → Except EntityFault Nat
  | 'x' :: digits =>
    if byteLength digits > 6 then .error .longHex
    else match digitsValue hexDigit? 16 0 digits with
      | .ok n => .ok n
      | .error c => .error (.badHex c)
  | digits =>
    if byteLength digits > 7 then .error .longDecimal
    else match digitsValue decimalDigit? 10 0 digits with
      | .ok n => .ok n
      | .error c => .error (.badDecimal c)

/-- The character of the entity `name`, whose `&` stands at `start` and whose semicolon stands at
    `stop`. -/
def entityChar (start stop : Nat) : List Char → Except EntityFault Char
  | '#' :: code =>
    match entityCode code with
    | .error fault => .error fault
    | .ok n =>
      if n = 0 then .error (.zero start stop)
      else if n.isValidChar then .ok (Char.ofNat n)
      else .error (.noCharacter n)
  | name =>
    match namedEntity? name with
    | some c => .ok c
    | none => .error (.unknownName (start + 1) stop name)

/-- A character that can stand inside an entity. -/
def inEntity (c : Char) : Bool := c != '&' && c != ';'

/-- Reads a value from `position` on; `total` is the length of the whole value and `done` what
    has been read, backwards. -/
def unescapeFrom (total position : Nat) (done : List Char) :
    List Char → Except EntityFault (List Char)
  | [] => .ok done.reverse
  | c :: cs =>
    if c = '&' then
      let name := cs.takeWhile inEntity
      let stop := position + 1 + byteLength name
      match _h : cs.dropWhile inEntity with
      | ';' :: rest =>
        match entityChar position stop name with
        | .ok d => unescapeFrom total (stop + 1) (d :: done) rest
        | .error fault => .error fault
      | _ => .error (.unterminated position total)
    else unescapeFrom total (position + c.utf8Size) (c :: done) cs
termination_by cs => cs.length
decreasing_by
  · have := (List.dropWhile_sublist inEntity (l := cs)).length_le
    simp only [_h, List.length_cons] at this ⊢
    omega
  · simp

/-- The value that stands between two quotes. -/
def unescape (cs : List Char) : Except EntityFault (List Char) :=
  unescapeFrom (byteLength cs) 0 [] cs

example : escape ['a', '&', '<'] = ['a', '&', 'a', 'm', 'p', ';', '&', 'l', 't', ';'] := by decide

end MediaNetwork.Markup

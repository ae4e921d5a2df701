/-
  Log filters: which events a log shows.

  1. **Text** — a filter is written as pieces between commas, and empty pieces do not count.  A
     piece names any of a target, a scope in brackets and a level behind an equals sign, in this
     order; a level or a target may stand alone.  The scope is a span's name, a field in braces
     or both, and the field may have a value.  Where no level stands, everything is shown.
  2. **Blanks** — the signs of a piece are found after its outer blanks are taken off, but its
     names are cut out of the piece with its blanks, at the same byte places.  So a blank at the
     start of a piece shifts its names, and one at its end belongs to the last of them.
  3. **Decision** — a rule covers the events whose target begins with its own and which have its
     field.  Of the rules that cover an event the most specific decides (`LogRule.yields`).  A
     rule that asks for a span or for a value decides nothing, as there are no spans; it is read
     and checked all the same.  The filter without pieces shows nothing.
-/
import MediaNetwork.Command.Journal
import MediaNetwork.Text.Pattern.Grammar

namespace MediaNetwork

open MediaNetwork.Text

/-- A rule of a filter: events up to `rank` are shown, none at zero. -/
structure LogRule where
  /-- How the target of an event must begin. -/
  target : Option String
  /-- The field an event must have. -/
  field : Option String
  rank : Nat
  deriving DecidableEq, Repr

namespace LogRule

/-- Whether a rule says anything about an event. -/
def covers (r : LogRule) (e : LogEvent) : Bool :=
  (match r.target with
    | some target => e.target.startsWith target
    | none => true) &&
  match r.field with
  | some field => field == "message" || e.fields.any fun (key, _) => key == field
  | none => true

/-- How much of an event's target a rule asks for; no target is less than any. -/
def weight (r : LogRule) : Nat :=
  match r.target with
  | some target => target.utf8ByteSize + 1
  | none => 0

/-- Whether a rule yields to a later one: the longer target decides, then the field, then the
    order of the field names, and last the place in the filter. -/
def yields (r later : LogRule) : Bool :=
  r.weight < later.weight ||
    r.weight == later.weight &&
      match r.field, later.field with
      | none, _ => true
      | some _, none => false
      | some a, some b => !decide (b < a)

end LogRule

/-- A filter, its rules in order. -/
structure LogFilter where
  rules : List LogRule
  deriving DecidableEq, Repr

namespace LogFilter

/-! ## Levels and values -/

/-- The words for levels, and the number of levels each lets through. -/
def levelNames : Keywords Nat :=
  [("off", 0), ("error", 1), ("warn", 2), ("info", 3), ("debug", 4), ("trace", 5)]

/-- The rank that lets everything through. -/
def everything : Nat := 5

/-- The text behind a plus sign, if there is one. -/
def afterPlus : List Char → List Char
  | '+' :: cs => cs
  | cs => cs

/-- The number of levels a text lets through: a word in any case, or the number itself. -/
def levelRank? (text : List Char) : Option Nat :=
  match readDecimal (afterPlus text) with
  | some n => if n ≤ everything then some n else none
  | none => levelNames.value? (String.ofList (text.map Char.toLower))

/-- Whether a text is empty or a decimal exponent. -/
def isExponent : List Char → Bool
  | [] => true
  | e :: cs =>
    (e == 'e' || e == 'E') &&
      (readDecimal (if cs.head? = some '-' then cs.drop 1 else afterPlus cs)).isSome

/-- Whether a text is a number without a sign: a decimal fraction, or a word for what is none. -/
def isNumber (cs : List Char) : Bool :=
  let whole := cs.takeWhile Char.isDigit
  let rest := cs.dropWhile Char.isDigit
  let places := if rest.head? = some '.' then (rest.drop 1).takeWhile Char.isDigit else []
  let rest := if rest.head? = some '.' then (rest.drop 1).dropWhile Char.isDigit else rest
  (!(whole ++ places).isEmpty && isExponent rest) ||
    ["inf", "infinity", "nan"].contains (String.ofList (cs.map Char.toLower))

/-- Whether a text can be the value of a field: a pattern, or a number behind a plus sign.  All
    other values are patterns too. -/
def isValue : List Char → Bool
  | '+' :: cs => isNumber cs
  | cs => Pattern.isPattern cs

/-! ## Pieces -/

/-- The text from a byte place on, or `none` inside a character or behind the end. -/
def fromByte? : Nat → List Char → Option (List Char)
  | 0, cs => some cs
  | _ + 1, [] => none
  | n + 1, c :: cs => if c.utf8Size ≤ n + 1 then fromByte? (n + 1 - c.utf8Size) cs else none

/-- The text up to a byte place, or `none` inside a character or behind the end. -/
def uptoByte? : Nat → List Char → Option (List Char)
  | 0, _ => some []
  | _ + 1, [] => none
  | n + 1, c :: cs =>
    if c.utf8Size ≤ n + 1 then (uptoByte? (n + 1 - c.utf8Size) cs).map (c :: ·) else none

/-- The text between two byte places. -/
def cut? (start stop : Nat) (cs : List Char) : Option (List Char) :=
  (fromByte? start cs).bind (uptoByte? (stop - start))

/-- Whether a character can begin a target. -/
def beginsTarget (c : Char) : Bool := c == '_' || c == ':' || c == '-' || isAlphanumeric c

/-- Whether a character of a piece still belongs to its target. -/
def inTarget (c : Char) : Bool := c != '=' && c != '['

/-- Whether a character of a scope still belongs to its span's name. -/
def inSpan (c : Char) : Bool := c != ']' && c != '\x7b'

/-- Whether a character of a scope still belongs to its field. -/
def inField (c : Char) : Bool := c != '\x7d'

/-- The rank behind an equals sign whose level begins at a byte place of the piece. -/
def rankFrom? (piece : List Char) (place : Nat) : Option Nat :=
  match fromByte? place piece with
  | some [] => some everything
  | some level => levelRank? level
  | none => none

/-- The rank at the end of a piece, its scope closed before a byte place. -/
def rankBehind? (piece : List Char) (place : Nat) : List Char → Option Nat
  | [] => some everything
  | '=' :: _ => rankFrom? piece (place + 1)
  | _ => none

/-- The name of a field and its value, if it has one. -/
def fieldParts (field : List Char) : List Char × Option (List Char) :=
  (field.takeWhile (· != '='),
    match field.dropWhile (· != '=') with
    | [] => none
    | _ :: rest => some (rest.takeWhile (· != '=')))

/-- The rules of a piece whose scope begins at a byte place, the text from there on given; one
    that asks for a span or for a value is no rule for events. -/
def readScope? (piece : List Char) (target : Option String) (place : Nat) (text : List Char) :
    Option (List LogRule) := do
  let close := place + byteLength (text.takeWhile inSpan)
  let span ← cut? place close piece
  match text.dropWhile inSpan with
  | ']' :: rest =>
    let _ ← rankBehind? piece (close + 1) rest
    return []
  | _ :: text =>
    let start := close + 1
    let stop := start + byteLength (text.takeWhile inField)
    let field ← cut? start stop piece
    let (name, value) := fieldParts field
    if field.isEmpty || !value.all isValue then none
    else match text.dropWhile inField with
      | _ :: ']' :: rest =>
        let rank ← rankBehind? piece (stop + 2) rest
        if span.isEmpty && value.isNone then
          return [⟨target, some (String.ofList name), rank⟩]
        else return []
      | _ => none
  | [] => none

/-- The rules of a piece between commas, or `none` if it cannot be read. -/
def readPiece? (piece : List Char) : Option (List LogRule) :=
  match trim piece with
  | [] => none
  | '[' :: text => readScope? piece none 1 text
  | c :: text =>
    let place := byteLength (c :: text.takeWhile inTarget)
    if !beginsTarget c then none
    else match text.dropWhile inTarget with
      | [] =>
        match levelRank? piece with
        | some rank => some [⟨none, none, rank⟩]
        | none => some [⟨some (String.ofList piece), none, everything⟩]
      | sign :: text => do
        let target ← cut? 0 place piece
        if sign == '=' then
          let rank ← rankFrom? piece (place + 1)
          return [⟨some (String.ofList target), none, rank⟩]
        else readScope? piece (some (String.ofList target)) (place + 1) text

/-! ## Filters -/

/-- The pieces between the commas of a text. -/
def piecesOf : List Char → List (List Char)
  | [] => [[]]
  | c :: cs =>
    match c == ',', piecesOf cs with
    | true, pieces => [] :: pieces
    | false, piece :: pieces => (c :: piece) :: pieces
    | false, [] => [[c]]

/-- The rules of pieces in order, or `none` if some piece cannot be read. -/
def readPieces? : List (List Char) → Option (List LogRule)
  | [] => some []
  | piece :: pieces => do return (← readPiece? piece) ++ (← readPieces? pieces)

/-- The filter of a text, or `none` if some piece cannot be read. -/
def read? (text : String) : Option LogFilter :=
  let pieces := (piecesOf text.toList).filter fun piece => !piece.isEmpty
  if pieces.isEmpty then some ⟨[⟨none, none, 0⟩]⟩
  else (readPieces? pieces).map LogFilter.mk

/-- The rule of two that decides, the second one later in the filter. -/
def better (best : Option LogRule) (rule : LogRule) : Option LogRule :=
  match best with
  | none => some rule
  | some b => if b.yields rule then some rule else some b

/-- The rule that decides an event. -/
def ruleFor? (f : LogFilter) (e : LogEvent) : Option LogRule :=
  (f.rules.filter fun r => r.covers e).foldl better none

/-- Whether a filter shows an event; what no rule covers is not shown. -/
def shows (f : LogFilter) (e : LogEvent) : Bool :=
  match f.ruleFor? e with
  | some rule => e.level.rank ≤ rule.rank
  | none => false

/-- The filter a user asks for by repeating the verbosity flag. -/
def ofVerbosity : Nat → LogFilter
  | 0 => ⟨[⟨none, none, 3⟩]⟩
  | 1 => ⟨[⟨none, none, 3⟩, ⟨some "most_config", none, 4⟩]⟩
  | _ => ⟨[⟨none, none, everything⟩]⟩

/-- The filter in force: the one the environment gives if it can be read, else the one of the
    verbosity. -/
def choose (environment : Option String) (verbosity : Nat) : LogFilter :=
  (environment.bind read?).getD (ofVerbosity verbosity)

example : read? "warn,net=debug" = some ⟨[⟨none, none, 2⟩, ⟨some "net", none, 4⟩]⟩ := by
  decide +kernel
example : read? " info" = some ⟨[⟨some " info", none, 5⟩]⟩ ∧ read? "net=high" = none := by
  decide +kernel

end LogFilter

end MediaNetwork

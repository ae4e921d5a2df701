/-
  Well-formed regular expressions.

  1. **Sets** in brackets may be nested, joined by a doubled `&`, `-` or `~`, and name a class of
     ASCII characters.  A range runs from one character to a later one.  A closing bracket at the
     start of a set, and dashes at its start or end, stand for themselves.
  2. **Groups** in parentheses may be named, each name once, or switch flags.  A switch holds to
     the end of its group.
  3. **Repetitions** need something to repeat.  Counted ones do not occur, since a filter ends its
     fields at a brace.
  4. **Depth** — sets, groups, repetitions, rows of several parts and choices between several may
     be nested up to `depthLimit`.

  A text is read sign by sign (`Place.pass?`), with what is open on a stack; `isPattern` says
  whether it can be read to its end.  Nothing is matched: no expression decides about an event.
-/
import MediaNetwork.Text.Alphanumeric
import MediaNetwork.Text.Pattern.Atom

namespace MediaNetwork.Text.Pattern

/-! ## Depths -/

/-- How deep expressions may be nested. -/
def depthLimit : Nat := 250

/-- The depth of parts that stand together; a single part is no row. -/
def rowDepth : List Nat → Nat
  | [] => 0
  | [depth] => depth
  | depths => depths.foldl max 0 + 1

/-! ## Places -/

/-- How far a set has come. -/
inductive SetPhase
  /-- Behind the opening bracket. -/
  | opened
  /-- Behind the caret that may follow it. -/
  | negated
  /-- Behind dashes that begin the set. -/
  | dashed
  /-- Behind any other member. -/
  | inside
  deriving DecidableEq, Repr

/-- A set that is open. -/
structure OpenSet where
  phase : SetPhase
  /-- The depth of what is joined to the members. -/
  joined : Option Nat
  /-- The depths of the members. -/
  members : List Nat
  deriving DecidableEq, Repr

namespace OpenSet

/-- A set behind its opening bracket. -/
def start : OpenSet := ⟨.opened, none, []⟩

/-- The set with a further member. -/
def add (s : OpenSet) (depth : Nat) : OpenSet :=
  { s with phase := .inside, members := depth :: s.members }

/-- The depth of what the set holds. -/
def depth (s : OpenSet) : Nat :=
  match s.joined with
  | none => rowDepth s.members
  | some joined => max joined (rowDepth s.members) + 1

/-- The set behind a joint. -/
def join (s : OpenSet) : OpenSet := ⟨.inside, some s.depth, []⟩

end OpenSet

/-- What stands before a group that is open. -/
structure Surroundings where
  flags : Flags
  branches : List Nat
  parts : List Nat
  deriving DecidableEq, Repr

/-- What is known at a place of an expression. -/
structure Place where
  flags : Flags
  /-- The depths of the finished branches of the innermost group. -/
  branches : List Nat
  /-- The depths of the parts of the branch, the last one first. -/
  parts : List Nat
  /-- Whether the last part can be repeated. -/
  operand : Bool
  /-- What stands before each open group, the innermost first. -/
  outer : List Surroundings
  names : List (List Char)
  /-- The open sets, the innermost first. -/
  sets : List OpenSet
  deriving DecidableEq, Repr

namespace Place

/-- The start of an expression. -/
def start : Place := ⟨.initial, [], [], false, [], [], []⟩

/-- The depth of the innermost group so far. -/
def depth (p : Place) : Nat := rowDepth (rowDepth p.parts :: p.branches)

/-- The place behind a part that can be repeated. -/
def add (p : Place) (depth : Nat) : Place :=
  { p with parts := depth :: p.parts, operand := true }

/-- Whether an expression can end here. -/
def isEnd (p : Place) : Bool := p.outer.isEmpty && p.sets.isEmpty && p.depth ≤ depthLimit

/-! ## Sets -/

/-- The names of the classes of ASCII characters. -/
def classNames : List String :=
  ["alnum", "alpha", "ascii", "blank", "cntrl", "digit", "graph", "lower", "print", "punct",
    "space", "upper", "word", "xdigit"]

/-- Reads a class behind its opening bracket; tells whether it is negated. -/
def readClass? (cs : List Char) : Option (Bool × List Char) :=
  match cs with
  | ':' :: cs =>
    let negated := cs.head? == some '^'
    let cs := if negated then cs.drop 1 else cs
    match cs.dropWhile (· != ':') with
    | ':' :: ']' :: rest =>
      if classNames.contains (String.ofList (cs.takeWhile (· != ':'))) then some (negated, rest)
      else none
    | _ => none
  | _ => none

/-- Whether a sign joins two sets if it is doubled. -/
def isJoint (c : Char) : Bool := c == '&' || c == '-' || c == '~'

/-- Passes a character or a range inside a set. -/
def passMember? (p : Place) (s : OpenSet) (sets : List OpenSet) (c : Char) (rest : List Char) :
    Option (Place × List Char) := do
  let behind := { p with sets := s.add 0 :: sets }
  let (first, rest) ← readAtom? p.flags c rest
  match p.flags.skip rest with
  | '-' :: dashed =>
    let next := p.flags.peek? dashed
    if next == some ']' || next == some '-' then
      if first.isMember p.flags then return (behind, '-' :: dashed) else none
    else match p.flags.skip dashed with
      | [] => none
      | c :: rest =>
        let (last, rest) ← readAtom? p.flags c rest
        if isRange p.flags first last then return (behind, rest) else none
  | rest => if first.isMember p.flags then return (behind, rest) else none

/-- Closes the innermost set. -/
def closeSet (p : Place) (s : OpenSet) (sets : List OpenSet) : Place :=
  match sets with
  | [] => { p.add (s.depth + 1) with sets := [] }
  | around :: sets => { p with sets := around.add (s.depth + 1) :: sets }

/-- Passes a sign inside the innermost set. -/
def passInSet? (p : Place) (s : OpenSet) (sets : List OpenSet) (c : Char) (rest : List Char) :
    Option (Place × List Char) :=
  if c == '^' && s.phase == .opened then
    if p.flags.bytes then none
    else some ({ p with sets := { s with phase := .negated } :: sets }, rest)
  else if c == '-' && s.phase != .inside then
    some ({ p with sets := { s.add 0 with phase := .dashed } :: sets }, rest)
  else if c == ']' && (s.phase == .opened || s.phase == .negated) then
    some ({ p with sets := s.add 0 :: sets }, rest)
  else if c == '[' then
    match readClass? rest with
    | some (negated, rest) =>
      if negated && p.flags.bytes then none else some ({ p with sets := s.add 0 :: sets }, rest)
    | none => some ({ p with sets := .start :: s :: sets }, rest)
  else if c == ']' then some (p.closeSet s sets, rest)
  else if isJoint c && rest.head? == some c then
    some ({ p with sets := s.join :: sets }, rest.drop 1)
  else p.passMember? s sets c rest

/-! ## Groups -/

/-- Whether a text can name a group. -/
def isGroupName : List Char → Bool
  | [] => false
  | c :: cs =>
    (c == '_' || isAlphabetic c) &&
      cs.all fun c => c == '_' || c == '.' || c == '[' || c == ']' || isAlphanumeric c

/-- The start of a group inside which other flags hold. -/
def enter (p : Place) (flags : Flags) : Place :=
  { p with
    flags := flags
    branches := []
    parts := []
    operand := false
    outer := ⟨p.flags, p.branches, p.parts⟩ :: p.outer }

/-- The start of a group whose name follows. -/
def enterNamed? (p : Place) (cs : List Char) : Option (Place × List Char) :=
  let name := cs.takeWhile (· != '>')
  match cs.dropWhile (· != '>') with
  | [] => none
  | _ :: rest =>
    if isGroupName name && !p.names.contains name then
      some ({ p.enter p.flags with names := name :: p.names }, rest)
    else none

/-- The place behind switches, in a group of their own or in the one around them. -/
def enterSwitched? (p : Place) (cs : List Char) : Option (Place × List Char) :=
  let inSwitches := fun c => c != ':' && c != ')'
  let switches := cs.takeWhile inSwitches
  let flags := p.flags.switch switches
  if !Flags.areSwitches switches then none
  else match cs.dropWhile inSwitches with
    | [] => none
    | ':' :: rest => some (p.enter flags, rest)
    | _ :: rest =>
      if switches.isEmpty then none
      else some ({ p.add 0 with flags := flags, operand := false }, rest)

/-- The place behind an opening parenthesis and what belongs to it. -/
def enterGroup? (p : Place) (rest : List Char) : Option (Place × List Char) :=
  match p.flags.skip rest with
  | '?' :: 'P' :: '<' :: rest => p.enterNamed? rest
  | '?' :: '<' :: rest => p.enterNamed? rest
  | '?' :: rest => p.enterSwitched? rest
  | rest => some (p.enter p.flags, rest)

/-- The place behind a closing parenthesis, if a group is open. -/
def leave? (p : Place) : Option Place :=
  match p.outer with
  | [] => none
  | s :: outer =>
    some { p with
      flags := s.flags
      branches := s.branches
      parts := (p.depth + 1) :: s.parts
      operand := true
      outer := outer }

/-! ## Expressions -/

/-- The place behind a repetition, if there is something to repeat. -/
def repeatPart? (p : Place) : Option Place :=
  match p.operand, p.parts with
  | true, depth :: parts => some { p with parts := (depth + 1) :: parts }
  | _, _ => none

/-- The place behind a bar. -/
def branch (p : Place) : Place :=
  { p with branches := rowDepth p.parts :: p.branches, parts := [], operand := false }

/-- Passes a sign outside sets. -/
def passOutside? (p : Place) (c : Char) (rest : List Char) : Option (Place × List Char) :=
  if c == '(' then p.enterGroup? rest
  else if c == ')' then p.leave?.map fun p => (p, rest)
  else if c == '|' then some (p.branch, rest)
  else if c == '?' || c == '*' || c == '+' then
    p.repeatPart?.map fun p => (p, if rest.head? == some '?' then rest.drop 1 else rest)
  else if c == '\x7b' then none
  else if c == '[' then some ({ p with sets := [.start] }, rest)
  else if c == '.' then if p.flags.bytes then none else some (p.add 0, rest)
  else match readAtom? p.flags c rest with
    | some (a, rest) => if a.fits p.flags then some (p.add 0, rest) else none
    | none => none

/-- Passes a sign and what belongs to it, or a blank or a comment that does not count. -/
def pass? (p : Place) (c : Char) (rest : List Char) : Option (Place × List Char) :=
  if p.flags.spaced && (isSpace c || c == '#') then some (p, p.flags.skip (c :: rest))
  else match p.sets with
    | s :: sets => p.passInSet? s sets c rest
    | [] => p.passOutside? c rest

/-- Whether an expression can go on from a place to its end, behind characters already passed. -/
def goesOn (p : Place) : (passed : Nat) → List Char → Bool
  | _, [] => p.isEnd
  | passed + 1, _ :: rest => p.goesOn passed rest
  | 0, c :: rest =>
    match p.pass? c rest with
    | some (q, left) => q.goesOn (rest.length - left.length) rest
    | none => false

end Place

/-- Whether a text is a well-formed regular expression. -/
def isPattern (cs : List Char) : Bool := Place.start.goesOn 0 cs

example : isPattern ['[', ']', 'a', '-', 'z', ']', '+', '?'] = true := by decide
example : isPattern ['('] = false ∧ isPattern ['a', '|', '*'] = false ∧
    isPattern ['[', 'z', '-', 'a', ']'] = false := by decide

end MediaNetwork.Text.Pattern

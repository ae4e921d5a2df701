/-
  Typed access: the attributes and children of an element as the values the schema wants.

  Every kind of value comes twice.  The form with a question mark answers `none` where the
  attribute is absent; the plain form makes absence an error.  An attribute that is there but
  wrong is an error in both, and the error carries its value as it was written.
-/
import MediaNetwork.Fault
import MediaNetwork.Literal
import MediaNetwork.Markup.Element

namespace MediaNetwork.Markup.Element

/-! ## Attributes -/

/-- The error for an attribute that is absent. -/
def missing (e : Element) (key : String) : CompileError := .missingAttribute e.name key e.line

/-- The error for an attribute whose value is none of those it may have. -/
def invalid (e : Element) (key value : String) : CompileError :=
  .invalidValue e.name key value e.line

/-- Makes the absence of an attribute an error. -/
def demand {α : Type} (e : Element) (key : String) :
    Except CompileError (Option α) → Except CompileError α
  | .error fault => .error fault
  | .ok none => .error (e.missing key)
  | .ok (some value) => .ok value

/-- An attribute that must be there is one that may be there, and is. -/
theorem demand_eq_ok {α : Type} {e : Element} {key : String}
    {x : Except CompileError (Option α)} {value : α} :
    e.demand key x = .ok value ↔ x = .ok (some value) := by
  rcases x with fault | _ | a <;> simp [demand]

/-- The text of an attribute. -/
def text (e : Element) (key : String) : Except CompileError String :=
  e.demand key (.ok (e.attribute? key))

/-- An integer of at most `max`. -/
def integer? (e : Element) (key : String) (max : Nat) : Except CompileError (Option Nat) :=
  match e.attribute? key with
  | none => .ok none
  | some raw =>
    match readInteger raw max with
    | .ok n => .ok (some n)
    | .error .malformed => .error (.invalidLiteral e.name key raw e.line)
    | .error .outOfRange => .error (.outOfRange e.name key raw max e.line)

/-- An integer of 8 bits. -/
def byte? (e : Element) (key : String) : Except CompileError (Option UInt8) :=
  (e.integer? key 255).map fun n? => n?.map UInt8.ofNat

/-- An integer of 8 bits that must be there. -/
def byte (e : Element) (key : String) : Except CompileError UInt8 := e.demand key (e.byte? key)

/-- An integer of 16 bits. -/
def word? (e : Element) (key : String) : Except CompileError (Option UInt16) :=
  (e.integer? key 65535).map fun n? => n?.map UInt16.ofNat

/-- An integer of 16 bits that must be there. -/
def word (e : Element) (key : String) : Except CompileError UInt16 := e.demand key (e.word? key)

/-- The four ways to write a truth value. -/
def flagNames : Keywords Bool := [("true", true), ("1", true), ("false", false), ("0", false)]

/-- A value of a keyword table. -/
def keyword? {α : Type} (e : Element) (key : String) (table : Keywords α) :
    Except CompileError (Option α) :=
  match e.attribute? key with
  | none => .ok none
  | some raw =>
    match table.value? raw with
    | some value => .ok (some value)
    | none => .error (e.invalid key raw)

/-- A value of a keyword table that must be there. -/
def keyword {α : Type} (e : Element) (key : String) (table : Keywords α) :
    Except CompileError α :=
  e.demand key (e.keyword? key table)

/-- A truth value. -/
def flag? (e : Element) (key : String) : Except CompileError (Option Bool) :=
  e.keyword? key flagNames

/-- A run of bytes. -/
def payload? (e : Element) (key : String) : Except CompileError (Option (List UInt8)) :=
  match e.attribute? key with
  | none => .ok none
  | some raw =>
    match readPayload raw with
    | some bytes => .ok (some bytes)
    | none => .error (e.invalid key raw)

/-- A run of bytes that must be there. -/
def payload (e : Element) (key : String) : Except CompileError (List UInt8) :=
  e.demand key (e.payload? key)

/-! ## Children -/

/-- Like `find?`, but an element that is not there is an error. -/
def require (e : Element) (names : List String) (scan : Scan) : Except CompileError Element :=
  match e.find? names scan with
  | some found => .ok found
  | none => .error (.missingElement e.name ("|".intercalate names) e.line)

/-- The number of children with a name; none at all is an error if there must be one. -/
def countChildren (e : Element) (name : String) (mandatory : Bool) : Except CompileError Nat :=
  let count := (e.childrenNamed name).length
  if count = 0 ∧ mandatory then .error (.missingElement e.name name e.line) else .ok count

end MediaNetwork.Markup.Element

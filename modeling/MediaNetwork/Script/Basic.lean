/-
  Scripts: the messages a node's controller exchanges at start-up.

  A script element lists actions and pauses.  Pauses add up and delay the next action; a step is
  an action with the delay before it.  Pauses behind the last action delay nothing and are
  dropped, which deserves a warning (`endsInPause`).
-/
import MediaNetwork.Script.Action

namespace MediaNetwork

open MediaNetwork.Markup

/-- A message to send and the message that completes it. -/
structure ScriptStep where
  /-- The delay before the message, in milliseconds. -/
  pauseMs : UInt16
  command : ControlMessage
  expected : ControlMessage
  deriving DecidableEq, Repr

/-- The steps a node takes at start-up. -/
structure Script where
  name : String
  steps : List ScriptStep
  deriving DecidableEq, Repr

namespace Script

/-- Whether an element is a pause. -/
def isPause (e : Element) : Bool := e.name == Schema.pause

/-- The delay after a pause that follows a delay of `pending`. -/
def addPause (pending : UInt16) (e : Element) : Except CompileError UInt16 := do
  let wait ← e.word Schema.waitTime
  let total := pending.toNat + wait.toNat
  if total ≤ 65535 then return UInt16.ofNat total
  else .error (.outOfRange e.name Schema.waitTime (Text.decimal total) 65535 e.line)

/-- The steps of a list of actions and pauses, after a delay of `pending`; `done` are the steps
    before, backwards. -/
def stepsFrom (pending : UInt16) (done : List ScriptStep) :
    List Element → Except CompileError (List ScriptStep)
  | [] => .ok done.reverse
  | e :: es =>
    if isPause e then
      match addPause pending e with
      | .error fault => .error fault
      | .ok total => stepsFrom total done es
    else
      match Action.ofElement e with
      | .error fault => .error fault
      | .ok action => stepsFrom 0 (⟨pending, action.command, action.expected⟩ :: done) es

/-- The script an element describes. -/
def ofElement (e : Element) : Except CompileError Script := do
  let name ← e.text Schema.name
  let steps ← stepsFrom 0 [] e.children
  return ⟨name, steps⟩

/-- Whether the last thing in a script is a pause. -/
def endsInPause (e : Element) : Bool := e.children.getLast?.any isPause

/-- Adds the script of an element to those before it; names must differ. -/
def addTo (scripts : List Script) (e : Element) : Except CompileError (List Script) := do
  let script ← ofElement e
  if scripts.any fun s => s.name == script.name then
    .error (.shape (.repeatedScript script.name) e.line)
  else return scripts ++ [script]

/-- The scripts of a list of elements, in order. -/
def ofElements (es : List Element) : Except CompileError (List Script) := es.foldlM addTo []

/-- The script with this name. -/
def named? (scripts : List Script) (name : String) : Option Script :=
  scripts.find? fun s => s.name == name

end Script

end MediaNetwork

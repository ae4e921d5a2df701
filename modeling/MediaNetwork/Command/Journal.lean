/-
  The journal: what a compilation tells a log while it runs.

  1. Every node is announced when its address is accepted, a script that ends in a pause gets a
     warning when it is compiled, the driver records and the whole configuration are counted when
     they are done, and a failure is reported once.
  2. The events follow the stages of the compilation and stop where it stops, so they are read
     off the same stages; the result itself does not depend on them.
  3. An event is written as one line.  A message may quote a document, so the controls that steer
     a terminal are spelled out in it; a line feed is not one of these and stays.
-/
import MediaNetwork.Compile
import MediaNetwork.Text.Quoted

namespace MediaNetwork

open MediaNetwork.Markup
open MediaNetwork.Text

/-- How much an event matters; a later one matters less. -/
inductive LogLevel
  | error | warn | info | debug | trace
  deriving DecidableEq, Repr

namespace LogLevel

/-- The place of a level: 1 for the one that matters most. -/
def rank : LogLevel → Nat
  | error => 1
  | warn => 2
  | info => 3
  | debug => 4
  | trace => 5

/-- The word for a level. -/
def name : LogLevel → String
  | error => "ERROR"
  | warn => "WARN"
  | info => "INFO"
  | debug => "DEBUG"
  | trace => "TRACE"

end LogLevel

/-- An event of a log. -/
structure LogEvent where
  level : LogLevel
  /-- The part of the program that speaks. -/
  target : String
  message : String
  /-- Further values by name, in order. -/
  fields : List (String × String)
  deriving DecidableEq, Repr

namespace LogEvent

/-- The ASCII controls that steer a terminal: bell, backspace, form feed, escape and delete. -/
def steeringControls : List Char := ['\x07', '\x08', '\x0c', '\x1b', '\x7f']

/-- One character of a message as a line shows it. -/
def messageChar (c : Char) : List Char :=
  if steeringControls.contains c then '\\' :: 'x' :: (hexLower 2 c.toNat).toList
  else if 0x80 ≤ c.toNat && c.toNat ≤ 0x9F then spelledOut c
  else [c]

/-- A message as a line shows it. -/
def shownMessage (message : String) : String :=
  String.ofList (message.toList.flatMap messageChar)

/-- The line of an event, the time left out. -/
def line (e : LogEvent) : String :=
  s!"{e.level.name} {e.target}: {shownMessage e.message}" ++
    String.join (e.fields.map fun (key, value) => s!" {key}={value}")

/-- A node begins: its address is good and its ports come next. -/
def nodeBegun (address : UInt16) : LogEvent :=
  ⟨.debug, "most_config::compile::graph", "building node", [("node", hexText 0 address)]⟩

/-- A pause at the end of a script delays nothing. -/
def pauseDropped (script : String) : LogEvent :=
  ⟨.warn, "most_config::diagnostics",
    s!"script '{script}' ends with a <Pause> that has no action to delay", []⟩

/-- All driver records are there. -/
def driversDerived (records : Nat) : LogEvent :=
  ⟨.debug, "most_config::compile::driver", "driver information derived",
    [("records", decimal records)]⟩

/-- The configuration is complete. -/
def compiled (c : Configuration) : LogEvent :=
  ⟨.info, "most_config::compile", "configuration compiled",
    [("nodes", decimal c.nodes.length), ("resources", decimal c.arena.size),
      ("routes", decimal c.routes.length), ("drivers", decimal c.drivers.length)]⟩

/-- The compilation has failed. -/
def failed (fault : CompileError) : LogEvent :=
  ⟨.error, "most_config::diagnostics", fault.report, [("kind", fault.kind.name)]⟩

end LogEvent

namespace Journal

/-- The events of building nodes; `done` are those before, backwards. -/
def ofNodes (b : Builder) (done : List LogEvent) : List Element → List LogEvent
  | [] => done.reverse
  | e :: es =>
    let done :=
      if e.name = Schema.node then
        match b.claimAddress e with
        | .ok address => .nodeBegun address :: done
        | .error _ => done
      else done
    match b.addRootChild e with
    | .ok b => ofNodes b done es
    | .error _ => done.reverse

/-- The events of compiling one script. -/
def ofScript (e : Element) : List LogEvent :=
  match Script.ofElement e with
  | .ok script => if Script.endsInPause e then [.pauseDropped script.name] else []
  | .error _ => []

/-- The events of compiling scripts behind those before. -/
def ofScripts (scripts : List Script) : List Element → List LogEvent
  | [] => []
  | e :: es =>
    match Script.addTo scripts e with
    | .ok scripts => ofScript e ++ ofScripts scripts es
    | .error _ => ofScript e

/-- The events of a compilation up to its end. -/
def ofStages (root : Element) : List LogEvent :=
  match readHeader root with
  | .error _ => []
  | .ok _ =>
    ofNodes Builder.empty [] root.children ++
      match buildNodes root with
      | .error _ => []
      | .ok _ => ofScripts [] (root.childrenNamed Schema.script)

/-- The events that end a compilation. -/
def ofResult : Except CompileError Configuration → List LogEvent
  | .ok c => [.driversDerived c.drivers.length, .compiled c]
  | .error fault => [.failed fault]

/-- Compiles a configuration document and keeps a journal. -/
def compile (text : String) : List LogEvent × Except CompileError Configuration :=
  match readTree text with
  | .error fault => ([.failed fault], .error fault)
  | .ok root =>
    let result := compileElement root
    (ofStages root ++ ofResult result, result)

/-- Compiles a script document and keeps a journal. -/
def compileScript (text : String) : List LogEvent × Except CompileError Script :=
  match readTree text with
  | .error fault => ([.failed fault], .error fault)
  | .ok root =>
    match compileScriptElement root with
    | .error fault => ([.failed fault], .error fault)
    | .ok script => ((root.childrenNamed Schema.script).flatMap ofScript, .ok script)

end Journal

end MediaNetwork

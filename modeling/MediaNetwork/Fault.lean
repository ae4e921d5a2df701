/-
  Faults: why a document is refused, and the one message that says so.

  1. `CompileError` has a case per kind of finding; a case that has a place carries the line of
     the element's start tag.
  2. The three open families — the shape of the document, references between its parts, and
     inconsistencies of the compiled graph itself — are types of their own, one constructor per
     cause, with an `other` for a caller that has only a wording.
  3. `message` is the wording of every cause, and `kind` the coarse class a report is sorted by.

  `allocation` is the error of an arena that has no handle left.  The bound of the arena is left out
  (see `Arena`), so no compilation raises it; it is here for its wording and for its class, which
  comes first in a sorted report.
-/
import MediaNetwork.Markup.Fault

namespace MediaNetwork

open MediaNetwork.Text

/-! ## Causes -/

/-- What is wrong with the shape of a document. -/
inductive ShapeFault
  /-- The root element has another name. -/
  | wrongRoot (found : String)
  /-- The root holds an element that does not belong there. -/
  | strayInRoot (found : String)
  /-- A script document holds more than one script. -/
  | manyScripts
  /-- Two nodes have one address. -/
  | repeatedAddress (address : UInt16)
  /-- A node declares a port twice. -/
  | repeatedPort (node : UInt16) (port : String)
  /-- A node holds an element that is no connection. -/
  | unknownConnection (found : String) (node : UInt16)
  /-- An element stands behind a splitter, or behind the output of a combiner. -/
  | afterFan (found : String)
  /-- A splitter has no input socket before it. -/
  | splitterAsInput
  /-- A combiner comes after a socket or another combiner. -/
  | combinerAsOutput
  /-- A connection has a third socket. -/
  | manySockets (found : String)
  /-- A combiner has no output socket behind it. -/
  | combinerAlone
  /-- A connection lacks a socket. -/
  | fewSockets (connection : String)
  /-- A splitter or combiner holds something other than network sockets. -/
  | notNetworkSocket (fan found : String)
  /-- An element is no socket. -/
  | unknownSocket (found connection : String)
  /-- A stream socket stands on a node without stream ports. -/
  | noStreamPort (node : UInt16)
  /-- A connection touches the network nowhere. -/
  | noNetworkSocket (connection : String) (node : UInt16)
  /-- Two connections have one driver link. -/
  | repeatedLink (link : String)
  /-- Two scripts have one name. -/
  | repeatedScript (name : String)
  /-- An element is no script action. -/
  | unknownAction (found : String)
  /-- A driver link belongs to a connection no driver can serve. -/
  | unservedLink (link : String) (node : UInt16)
  /-- A driver names a link no connection has. -/
  | unknownLink (link : String)
  /-- Two drivers name one link. -/
  | repeatedDriver (link : String)
  /-- An element is no driver interface. -/
  | unknownInterface (found : String)
  /-- A fault given by its wording alone. -/
  | other (text : String)
  deriving DecidableEq, Repr

/-- A name or number that two parts of a document do not agree on. -/
inductive ReferenceFault
  /-- A node names a script that is not there. -/
  | scriptNotFound (name : String) (node : UInt16)
  /-- No node names a script. -/
  | scriptUnused (name : String)
  /-- Two sources have one route. -/
  | manySources (route : String) (first second : UInt16)
  /-- A route leads nowhere. -/
  | noSink (route : String) (node : UInt16)
  /-- A route comes from nowhere. -/
  | noSource (route : String) (node : UInt16)
  /-- There are more routes without a declared id than ids to give them. -/
  | routeIdsExhausted
  /-- Two routes have one id. -/
  | repeatedRouteId (id : UInt16)
  /-- A script is asked for where there is none. -/
  | noScript
  /-- A fault given by its wording alone. -/
  | other (text : String)
  deriving DecidableEq, Repr

/-- An inconsistency of a compiled graph. -/
inductive GraphFault
  /-- A handle refers to no resource. -/
  | dangling (handle : Nat)
  /-- An endpoint does not face a network socket. -/
  | endpointSocket (handle : Nat)
  /-- A link belongs to something that is no connection. -/
  | linkConnection (link : String)
  /-- The connection of a link touches the network nowhere. -/
  | linkNetwork (link : String)
  /-- A side of a connection is neither socket nor splitter nor combiner. -/
  | oddSide (handle : Nat) (kind : String)
  /-- A handle that should be a port is none. -/
  | notPort (handle : Nat)
  /-- A handle that should be a connection is none. -/
  | notConnection (handle : Nat)
  /-- A handle that should be a socket is none. -/
  | notSocket (handle : Nat)
  /-- There are more or fewer routes than pairs of a source and a sink. -/
  | routeCount (assembled expected : Nat)
  /-- A script was found for a place where there is no node. -/
  | scriptNode (place : Nat)
  /-- The script of a script document was lost. -/
  | scriptLost
  /-- A fault given by its wording alone. -/
  | other (text : String)
  deriving DecidableEq, Repr

/-- Why a compilation fails. -/
inductive CompileError
  /-- There is no room for another resource. -/
  | allocation (what : String)
  /-- The text is not one element. -/
  | markup (fault : Markup.MarkupFault)
  /-- An element lacks a child; `child` names the possible ones. -/
  | missingElement (element child : String) (line : Nat)
  /-- An element lacks an attribute. -/
  | missingAttribute (element key : String) (line : Nat)
  /-- An attribute should be a number. -/
  | invalidLiteral (element key value : String) (line : Nat)
  /-- A number exceeds its largest value. -/
  | outOfRange (element key value : String) (max : Nat) (line : Nat)
  /-- An attribute has none of the values it may have. -/
  | invalidValue (element key value : String) (line : Nat)
  /-- The shape of the document is wrong. -/
  | shape (fault : ShapeFault) (line : Nat)
  /-- Two parts of the document do not fit together. -/
  | reference (fault : ReferenceFault)
  /-- The compiled graph is inconsistent. -/
  | internal (fault : GraphFault)
  deriving DecidableEq, Repr

/-- The coarse class of an error. -/
inductive ErrorKind
  | allocation | document | internal
  deriving DecidableEq, Repr

namespace ErrorKind

/-- The place of a class in a sorted report. -/
def rank : ErrorKind → Nat
  | allocation => 0
  | document => 1
  | internal => 2

/-- The order of a sorted report. -/
def le (a b : ErrorKind) : Bool := a.rank ≤ b.rank

/-- The name of a class in a log. -/
def name : ErrorKind → String
  | allocation => "Allocation"
  | document => "Document"
  | internal => "Internal"

end ErrorKind

/-! ## Wording -/

/-- A node address or route id as messages write it. -/
def hexText (width : Nat) (n : UInt16) : String := "0x" ++ hexUpper width n.toNat

/-- The wording of a fault of shape. -/
def ShapeFault.message : ShapeFault → String
  | .wrongRoot found => s!"root element must be <Unicens>, found <{found}>"
  | .strayInRoot found => s!"unexpected element <{found}> in <Unicens>"
  | .manyScripts => "single-script mode expects exactly one <Script>"
  | .repeatedAddress address => s!"node address {hexText 0 address} is declared twice"
  | .repeatedPort node port => s!"node {hexText 0 node} declares more than one <{port}>"
  | .unknownConnection found node => s!"unknown connection type <{found}> in node {hexText 0 node}"
  | .afterFan found => s!"<{found}> cannot follow a fan-out in the same connection"
  | .splitterAsInput => "a Splitter cannot be the input of a connection"
  | .combinerAsOutput => "a Combiner cannot be the output of a connection"
  | .manySockets found => s!"<{found}> exceeds the two sockets of a connection"
  | .combinerAlone => "a Combiner needs an output socket"
  | .fewSockets connection => s!"<{connection}> needs an input and an output socket"
  | .notNetworkSocket fan found => s!"<{fan}> may only contain <NetworkSocket>, found <{found}>"
  | .unknownSocket found connection => s!"unknown socket type <{found}> in <{connection}>"
  | .noStreamPort node => s!"<StreamSocket> on node {hexText 0 node} requires a <StreamPort>"
  | .noNetworkSocket connection node =>
    s!"<{connection}> on node {hexText 0 node} has no network socket"
  | .repeatedLink link => s!"driver link '{link}' is declared by more than one connection"
  | .repeatedScript name => s!"script '{name}' is declared twice"
  | .unknownAction found => s!"unknown script action <{found}>"
  | .unservedLink link node =>
    s!"link '{link}' on node {hexText 0 node} must face a USB or MediaLB socket"
  | .unknownLink link => s!"<Driver> refers to unknown link '{link}'"
  | .repeatedDriver link => s!"link '{link}' has more than one <Driver>"
  | .unknownInterface found => s!"unknown driver interface <{found}>"
  | .other text => text

/-- The wording of a fault of reference. -/
def ReferenceFault.message : ReferenceFault → String
  | .scriptNotFound name node => s!"script '{name}' referenced by node {hexText 0 node} not found"
  | .scriptUnused name => s!"script '{name}' is never referenced"
  | .manySources route first second =>
    s!"route '{route}' has more than one source (nodes {hexText 0 first} and " ++
      s!"{hexText 0 second})"
  | .noSink route node => s!"route '{route}' from node {hexText 0 node} has no sink"
  | .noSource route node => s!"route '{route}' into node {hexText 0 node} has no source"
  | .routeIdsExhausted => "automatic route ids are exhausted"
  | .repeatedRouteId id => s!"route id {hexText 4 id} is assigned to more than one route"
  | .noScript => "no script to compile"
  | .other text => text

/-- The wording of an inconsistency. -/
def GraphFault.message : GraphFault → String
  | .dangling handle => s!"dangling resource handle {decimal handle}"
  | .endpointSocket handle =>
    s!"endpoint refers to resource {decimal handle} which is not a network socket"
  | .linkConnection link => s!"link '{link}' has no connection"
  | .linkNetwork link => s!"link '{link}' has no network socket"
  | .oddSide handle kind => s!"connection side {decimal handle} is a {kind}"
  | .notPort handle => s!"node port {decimal handle} is not a port"
  | .notConnection handle => s!"resource {decimal handle} is not a connection"
  | .notSocket handle => s!"resource {decimal handle} is not a socket"
  | .routeCount assembled expected =>
    s!"assembled {decimal assembled} routes, expected {decimal expected}"
  | .scriptNode place => s!"script attached to unknown node #{decimal place}"
  | .scriptLost => "single-shot script was not resolved"
  | .other text => text

namespace CompileError

/-- The message of an error. -/
def message : CompileError → String
  | allocation what => s!"allocation of {what} failed"
  | markup fault => s!"malformed document: {fault.message}"
  | missingElement element child line =>
    s!"line {decimal line}: <{element}> is missing mandatory element <{child}>"
  | missingAttribute element key line =>
    s!"line {decimal line}: <{element}> is missing mandatory attribute '{key}'"
  | invalidLiteral element key value line =>
    s!"line {decimal line}: attribute '{key}' of <{element}> is not a number: '{value}'"
  | outOfRange element key value max line =>
    s!"line {decimal line}: attribute '{key}' of <{element}> is out of range: {value} > " ++
      decimal max
  | invalidValue element key value line =>
    s!"line {decimal line}: attribute '{key}' of <{element}> has invalid value '{value}'"
  | shape fault line => s!"line {decimal line}: {fault.message}"
  | reference fault => fault.message
  | internal fault => s!"internal error: {fault.message}"

/-- The coarse class of an error. -/
def kind : CompileError → ErrorKind
  | allocation _ => .allocation
  | internal _ => .internal
  | _ => .document

/-- The line an error names, if it names one. -/
def line? : CompileError → Option Nat
  | missingElement _ _ line | missingAttribute _ _ line | invalidLiteral _ _ _ line
  | outOfRange _ _ _ _ line | invalidValue _ _ _ line | shape _ line => some line
  | _ => none

/-- The line a user sees. -/
def report (e : CompileError) : String := s!"error: {e.message}"

end CompileError

end MediaNetwork

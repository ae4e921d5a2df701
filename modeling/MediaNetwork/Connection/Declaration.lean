/-
  Connection declarations: what a connection element asks for, before anything is created.

  1. A connection joins an input socket to an output socket; or one input socket, through a
     splitter, to several network sockets; or several network sockets, through a combiner, to one
     output socket.  `Wiring` has a case for each, and nothing else can be declared.
  2. `Site.readSocket` reads a socket.  A stream socket attaches to the stream port of its
     node, so its declaration names the port, and it is an error where there is none.
  3. `ConnectionDecl.atSite` reads the children of a connection one by one; `Progress` is what they
     amount to so far.  What is wrong with a single child is found here, in document order.  Whether
     the two sockets of a plain connection fit together is found when they are joined.

  The offset of a stream in its frame stands on the network socket.  In a fan of synchronous data
  it must be there; packets have none.
-/
import MediaNetwork.Configuration

namespace MediaNetwork

open MediaNetwork.Markup

/-! ## What is declared -/

/-- The kind of a connection, as far as it is known before its sockets are. -/
inductive ConnectionStyle
  | sync (muteMode : MuteMode)
  | avPacketized (packetSize : IsocPacketSize)
  deriving DecidableEq, Repr

namespace ConnectionStyle

/-- The type of data a connection of this style carries. -/
def dataType : ConnectionStyle → DataType
  | sync _ => .sync
  | avPacketized _ => .isochronous

/-- The name of the elements that declare connections of this style. -/
def element : ConnectionStyle → String
  | sync _ => Schema.syncConnection
  | avPacketized _ => Schema.avpConnection

/-- The kind of a connection whose network socket has this offset; without one it is zero. -/
def kind (offset : Option UInt16) : ConnectionStyle → ConnectionKind
  | sync muteMode => .sync muteMode (offset.getD 0)
  | avPacketized packetSize => .avPacketized packetSize

theorem dataType_kind (offset : Option UInt16) (s : ConnectionStyle) :
    (s.kind offset).dataType = s.dataType := by
  cases s <;> rfl

end ConnectionStyle

/-- A socket on the network. -/
structure NetworkDecl where
  bandwidth : UInt16
  route : RouteDecl
  /-- The offset of a synchronous stream in its frame. -/
  offset : Option UInt16
  deriving DecidableEq, Repr

/-- A socket of any kind. -/
inductive SocketDecl
  | network (decl : NetworkDecl)
  | usb (endpointAddress : UInt8) (framesPerTransaction : UInt16)
  | mediaLb (channelAddress bandwidth : UInt16)
  /-- A socket on the stream port with these two halves. -/
  | stream (ports : ResourceId × ResourceId) (pin : StreamPin) (bandwidth : UInt16)
  deriving DecidableEq, Repr

namespace SocketDecl

/-- Whether a socket is on the network. -/
def isNetwork : SocketDecl → Bool
  | network _ => true
  | _ => false

/-- The offset a socket declares. -/
def offset? : SocketDecl → Option UInt16
  | network decl => decl.offset
  | _ => none

/-- The kind of the socket to create. -/
def kind : SocketDecl → SocketKind
  | network decl => .network decl.bandwidth decl.route
  | usb endpointAddress framesPerTransaction => .usb endpointAddress framesPerTransaction
  | mediaLb channelAddress bandwidth => .mediaLb channelAddress bandwidth
  | stream _ pin bandwidth => .stream pin bandwidth

end SocketDecl

/-- How the sockets of a connection element are joined. -/
inductive Wiring
  | plain (input output : SocketDecl)
  | fanOut (input : SocketDecl) (bytesPerFrame : UInt16) (branches : List NetworkDecl)
  | fanIn (bytesPerFrame : UInt16) (branches : List NetworkDecl) (output : SocketDecl)
  deriving DecidableEq, Repr

/-- What a connection element declares. -/
structure ConnectionDecl where
  /-- The address of the node. -/
  node : UInt16
  style : ConnectionStyle
  link : Option String
  /-- The line of the element. -/
  line : Nat
  wiring : Wiring
  deriving DecidableEq, Repr

/-! ## Reading sockets -/

/-- Where a connection element stands: what its sockets have in common. -/
structure Site where
  /-- The connection element. -/
  element : Element
  /-- The address of the node. -/
  node : UInt16
  /-- The stream port of the node. -/
  stream : Option (ResourceId × ResourceId)
  style : ConnectionStyle
  /-- Whether an earlier connection element has the same driver link. -/
  linkTaken : Bool

namespace Site

/-- The driver link of the connection. -/
def link (site : Site) : Option String := site.element.attribute? Schema.link

/-- The error for a driver link that an earlier connection has. -/
def checkLink (site : Site) : Except CompileError Unit :=
  if site.linkTaken then
    .error (.shape (.repeatedLink (site.link.getD "")) site.element.line)
  else .ok ()

/-- Reads the offset of a network socket. -/
def readOffset (site : Site) (inFan : Bool) (e : Element) :
    Except CompileError (Option UInt16) :=
  match site.style with
  | .avPacketized _ => .ok none
  | .sync _ => if inFan then (e.word Schema.offset).map some else e.word? Schema.offset

/-- Reads a network socket. -/
def readNetwork (site : Site) (inFan : Bool) (e : Element) :
    Except CompileError NetworkDecl := do
  let bandwidth ← e.word Schema.bandwidth
  let name ← e.text Schema.route
  let active ← e.flag? Schema.isActive
  let routeId ← e.word? Schema.routeId
  let offset ← site.readOffset inFan e
  return ⟨bandwidth, ⟨name, active.getD true, routeId⟩, offset⟩

/-- Reads a socket that stands directly in its connection. -/
def readSocket (site : Site) (e : Element) : Except CompileError SocketDecl :=
  if e.name = Schema.networkSocket then do
    let decl ← site.readNetwork false e
    return .network decl
  else if e.name = Schema.usbSocket then do
    let endpointAddress ← e.byte Schema.endpointAddress
    let framesPerTransaction ← e.word Schema.framesPerTransaction
    return .usb endpointAddress framesPerTransaction
  else if e.name = Schema.mediaLbSocket then do
    let channelAddress ← e.word Schema.channelAddress
    let bandwidth ← e.word Schema.bandwidth
    return .mediaLb channelAddress bandwidth
  else if e.name = Schema.streamSocket then do
    let pin ← e.keyword Schema.streamPinId StreamPin.keywords
    let bandwidth ← e.word Schema.bandwidth
    match site.stream with
    | some ports => return .stream ports pin bandwidth
    | none => .error (.shape (.noStreamPort site.node) e.line)
  else .error (.shape (.unknownSocket e.name site.element.name) e.line)

/-- Reads one branch of a fan and claims the link for it. -/
def readBranch (site : Site) (fan e : Element) : Except CompileError NetworkDecl := do
  if e.name ≠ Schema.networkSocket then
    .error (.shape (.notNetworkSocket fan.name e.name) e.line)
  else
    let decl ← site.readNetwork true e
    site.checkLink
    return decl

/-- Reads the branches of a fan. -/
def readBranches (site : Site) (fan : Element) : Except CompileError (List NetworkDecl) :=
  fan.children.mapM (site.readBranch fan)

/-! ## Reading connections -/

/-- Reads a splitter behind its input socket. -/
def readFanOut (site : Site) (input : SocketDecl) (e : Element) : Except CompileError Wiring := do
  let bytesPerFrame ← e.word Schema.bytesPerFrame
  let _ ← e.countChildren Schema.networkSocket true
  let branches ← site.readBranches e
  return .fanOut input bytesPerFrame branches

/-- Reads a combiner together with the output socket behind it. -/
def readFanIn (site : Site) (combiner e : Element) : Except CompileError Wiring := do
  let output ← site.readSocket e
  let bytesPerFrame ← combiner.word Schema.bytesPerFrame
  let branches ← site.readBranches combiner
  return .fanIn bytesPerFrame branches output

end Site

/-- What the children of a connection read so far amount to. -/
inductive Progress
  /-- There were none. -/
  | empty
  /-- An input socket. -/
  | input (input : SocketDecl)
  /-- Both sockets. -/
  | both (input output : SocketDecl)
  /-- A combiner whose output socket is still to come. -/
  | combining (combiner : Element)
  /-- A complete fan. -/
  | fanned (wiring : Wiring)

namespace Progress

/-- Takes in a splitter. -/
def addSplitter (site : Site) (e : Element) : Progress → Except CompileError Progress
  | input i => do
    let wiring ← site.readFanOut i e
    return fanned wiring
  | both .. => .error (.shape (.manySockets e.name) e.line)
  | empty | combining _ => .error (.shape .splitterAsInput e.line)
  | fanned _ => .error (.shape (.afterFan e.name) e.line)

/-- Takes in a combiner. -/
def addCombiner (e : Element) : Progress → Except CompileError Progress
  | empty => do
    let _ ← e.countChildren Schema.networkSocket true
    return combining e
  | input _ | both .. | combining _ => .error (.shape .combinerAsOutput e.line)
  | fanned _ => .error (.shape (.afterFan e.name) e.line)

/-- Takes in a socket. -/
def addSocket (site : Site) (e : Element) : Progress → Except CompileError Progress
  | empty => do
    let i ← site.readSocket e
    return input i
  | input i => do
    let o ← site.readSocket e
    return both i o
  | combining combiner => do
    let wiring ← site.readFanIn combiner e
    return fanned wiring
  | both .. => .error (.shape (.manySockets e.name) e.line)
  | fanned _ => .error (.shape (.afterFan e.name) e.line)

/-- Takes in the next child of a connection. -/
def add (site : Site) (p : Progress) (e : Element) : Except CompileError Progress :=
  if e.name = Schema.splitter then p.addSplitter site e
  else if e.name = Schema.combiner then p.addCombiner e
  else p.addSocket site e

/-- The wiring, once all children are read. -/
def finish (site : Site) : Progress → Except CompileError Wiring
  | fanned wiring => .ok wiring
  | combining _ => .error (.shape .combinerAlone site.element.line)
  | both i o => .ok (.plain i o)
  | empty | input _ => .error (.shape (.fewSockets site.element.name) site.element.line)

end Progress

/-- What a connection element declares at its site. -/
def ConnectionDecl.atSite (site : Site) : Except CompileError ConnectionDecl := do
  let progress ← site.element.children.foldlM (Progress.add site) .empty
  let wiring ← progress.finish site
  return ⟨site.node, site.style, site.link, site.element.line, wiring⟩

/-- The style of a connection element, or `none` if an element is no connection. -/
def ConnectionStyle.ofElement? (e : Element) : Option (Except CompileError ConnectionStyle) :=
  if e.name = Schema.syncConnection then
    some ((e.keyword? Schema.muteMode MuteMode.keywords).map fun mode =>
      .sync (mode.getD .noMuting))
  else if e.name = Schema.avpConnection then
    some ((e.keyword? Schema.isocPacketSize IsocPacketSize.keywords).map fun size =>
      .avPacketized (size.getD .p188))
  else none

end MediaNetwork

/-
  The builder: creates the resources of nodes and connections in document order.

  1. Ports are created once for a node: the declared ones first, the others when a socket needs
     them.  A stream port is always declared.
  2. `addSocket` creates a socket and puts it, behind its port, on a job list.
  3. `facing` looks up which side of a connection faces the network; the endpoint is a source if
     the output side is a network socket, else a sink.  `finish` creates the connection that joins
     two sides and records its endpoint.
  4. `join` does all of this for a declared connection.  The branches of a fan start from copies of
     the job list that leads to the splitter, or to the combiner's output socket; the combiner
     itself goes on the list between the branch's port and its socket.

  Creating a resource cannot fail.  A plain connection is refused if neither of its sockets is on
  the network, or if an earlier one has its link; the link of a fan is looked at with its branches.
-/
import MediaNetwork.Connection.Declaration

namespace MediaNetwork

/-- A connection that has a driver link. -/
structure LinkCandidate where
  link : String
  /-- The address of the node. -/
  node : UInt16
  connection : ResourceId
  /-- The line of the connection element. -/
  line : Nat
  deriving DecidableEq, Repr

/-- What has been created so far. -/
structure Builder where
  arena : Arena
  /-- The ports of the node that is being built. -/
  ports : NodePorts
  /-- The finished nodes, without their scripts. -/
  nodes : Array Node
  endpoints : Array Endpoint
  links : Array LinkCandidate
  deriving DecidableEq, Repr

namespace Builder

/-- The builder before the first node. -/
def empty : Builder := ⟨Arena.empty, NodePorts.absent, #[], #[], #[]⟩

/-- Creates a resource. -/
def alloc (b : Builder) (r : Resource) : ResourceId × Builder :=
  (b.arena.next, { b with arena := b.arena.push r })

/-! ## Ports -/

/-- The network port of the node, created if it has none yet. -/
def networkPort (b : Builder) (node : UInt16) : ResourceId × Builder :=
  match b.ports.network with
  | some id => (id, b)
  | none =>
    let (id, b) := b.alloc (.port ⟨node, .default, .network⟩)
    (id, { b with ports := { b.ports with network := some id } })

/-- The USB port of the node, created if it has none yet. -/
def usbPort (b : Builder) (node : UInt16) : ResourceId × Builder :=
  match b.ports.usb with
  | some id => (id, b)
  | none =>
    let (id, b) := b.alloc (.port ⟨node, .default, .usb UsbSettings.default⟩)
    (id, { b with ports := { b.ports with usb := some id } })

/-- The MediaLB port of the node, created if it has none yet. -/
def mediaLbPort (b : Builder) (node : UInt16) : ResourceId × Builder :=
  match b.ports.mediaLb with
  | some id => (id, b)
  | none =>
    let (id, b) := b.alloc (.port ⟨node, .default, .mediaLb .fs256⟩)
    (id, { b with ports := { b.ports with mediaLb := some id } })

/-! ## Sockets -/

/-- The port of a socket, created if need be, and the job list with that port on it.  The socket
    of a combiner's branch has the combiner on its list before itself. -/
def attach (b : Builder) (node : UInt16) (combiner : Option ResourceId) (jobs : JobList) :
    SocketDecl → ResourceId × JobList × Builder
  | .network _ =>
    let (port, b) := b.networkPort node
    let jobs := jobs.push port
    match combiner with
    | some id => (port, jobs.push id, b)
    | none => (port, jobs, b)
  | .usb .. =>
    let (port, b) := b.usbPort node
    (port, jobs.push port, b)
  | .mediaLb .. =>
    let (port, b) := b.mediaLbPort node
    (port, jobs.push port, b)
  | .stream (portA, portB) _ _ => (portA, (jobs.push portA).push portB, b)

/-- Creates a socket; gives its handle and the job list with it. -/
def addSocket (b : Builder) (node : UInt16) (dataType : DataType) (direction : Direction)
    (combiner : Option ResourceId) (jobs : JobList) (decl : SocketDecl) :
    ResourceId × JobList × Builder :=
  let (port, jobs, b) := b.attach node combiner jobs decl
  let (id, b) := b.alloc (.socket ⟨port, direction, dataType, decl.kind⟩)
  (id, jobs.push id, b)

/-! ## Connections -/

/-- Creates the connection from `socketIn` to `socketOut` and records its endpoint, of which
    `networkSocket` faces the network. -/
def finish (b : Builder) (decl : ConnectionDecl) (jobs : JobList)
    (socketIn socketOut : ResourceId) (offset : Option UInt16) (kind : EndpointKind)
    (networkSocket : ResourceId) : Builder :=
  let (id, b) := b.alloc (.connection ⟨socketIn, socketOut, decl.style.kind offset⟩)
  let endpoint : Endpoint := ⟨kind, decl.node, jobs.push id, id, networkSocket, decl.link⟩
  match decl.link with
  | some link =>
    { b with
      links := b.links.push ⟨link, decl.node, id, decl.line⟩
      endpoints := b.endpoints.push endpoint }
  | none => { b with endpoints := b.endpoints.push endpoint }

/-- The kind of the endpoint between two sides and its socket that faces the network, as the arena
    has them: the output if that is a network socket, else the input. -/
def facing (b : Builder) (decl : ConnectionDecl) (socketIn socketOut : ResourceId) :
    Except CompileError (EndpointKind × ResourceId) := do
  let output ← b.arena.get socketOut
  let input ← b.arena.get socketIn
  if output.isNetworkSocket then return (.source, socketOut)
  else if input.isNetworkSocket then return (.sink, socketIn)
  else .error (.shape (.noNetworkSocket decl.style.element decl.node) decl.line)

/-- Whether a connection that came before has this link. -/
def hasLink (b : Builder) (link : Option String) : Bool :=
  match link with
  | some link => b.links.any fun l => l.link == link
  | none => false

/-- The error for a driver link that an earlier connection has. -/
def checkLink (b : Builder) (decl : ConnectionDecl) : Except CompileError Unit :=
  if b.hasLink decl.link then
    .error (.shape (.repeatedLink (decl.link.getD "")) decl.line)
  else .ok ()

/-- Creates a connection of two sockets.  The offset of the socket that faces the network counts. -/
def joinPlain (b : Builder) (decl : ConnectionDecl) (input output : SocketDecl) :
    Except CompileError Builder := do
  let dataType := decl.style.dataType
  let (i, jobs, b) := b.addSocket decl.node dataType .input none JobList.empty input
  let (o, jobs, b) := b.addSocket decl.node dataType .output none jobs output
  let created ← b.arena.get o
  let offset := if created.isNetworkSocket then output.offset? else input.offset?
  let (kind, networkSocket) ← b.facing decl i o
  b.checkLink decl
  return b.finish decl jobs i o offset kind networkSocket

/-- Creates one branch behind a splitter. -/
def joinOutput (decl : ConnectionDecl) (splitter : ResourceId) (shared : JobList)
    (b : Builder) (branch : NetworkDecl) : Except CompileError Builder := do
  let (o, jobs, b) :=
    b.addSocket decl.node decl.style.dataType .output none shared (.network branch)
  let (kind, networkSocket) ← b.facing decl splitter o
  return b.finish decl jobs splitter o branch.offset kind networkSocket

/-- Creates the connections of a splitter. -/
def joinFanOut (b : Builder) (decl : ConnectionDecl) (input : SocketDecl)
    (bytesPerFrame : UInt16) (branches : List NetworkDecl) : Except CompileError Builder :=
  let (i, jobs, b) := b.addSocket decl.node decl.style.dataType .input none JobList.empty input
  let (splitter, b) := b.alloc (.splitter ⟨i, bytesPerFrame⟩)
  branches.foldlM (joinOutput decl splitter (jobs.push splitter)) b

/-- Creates one branch before a combiner. -/
def joinInput (decl : ConnectionDecl) (combiner : ResourceId) (shared : JobList)
    (b : Builder) (branch : NetworkDecl) : Except CompileError Builder := do
  let (i, jobs, b) :=
    b.addSocket decl.node decl.style.dataType .input (some combiner) shared (.network branch)
  let (kind, networkSocket) ← b.facing decl i combiner
  return b.finish decl jobs i combiner branch.offset kind networkSocket

/-- Creates the connections of a combiner. -/
def joinFanIn (b : Builder) (decl : ConnectionDecl) (bytesPerFrame : UInt16)
    (branches : List NetworkDecl) (output : SocketDecl) : Except CompileError Builder :=
  let (o, jobs, b) := b.addSocket decl.node decl.style.dataType .output none JobList.empty output
  let (combiner, b) := b.alloc (.combiner ⟨o, bytesPerFrame⟩)
  branches.foldlM (joinInput decl combiner jobs) b

/-- Creates everything a connection element declares. -/
def join (b : Builder) (decl : ConnectionDecl) : Except CompileError Builder :=
  match decl.wiring with
  | .plain input output => b.joinPlain decl input output
  | .fanOut input bytesPerFrame branches => b.joinFanOut decl input bytesPerFrame branches
  | .fanIn bytesPerFrame branches output => b.joinFanIn decl bytesPerFrame branches output

end Builder

end MediaNetwork

/-
  Nodes: one node element, its ports and its connections.

  A node declares at most one port of each kind.  The declared ports are created first, in the
  order MediaLB, USB, stream, wherever their elements stand; then the connections are created in
  document order.  The node joins the others when it is complete.
-/
import MediaNetwork.Connection.Builder

namespace MediaNetwork

open MediaNetwork.Markup

/-- The only child with this name, if there is one; a second one is an error. -/
def onlyChild (node : UInt16) (e : Element) (name : String) :
    Except CompileError (Option Element) :=
  match e.childrenNamed name with
  | [] => .ok none
  | [child] => .ok (some child)
  | _ => .error (.shape (.repeatedPort node name) e.line)

namespace Builder

/-! ## Declared ports -/

/-- Creates the MediaLB port a node declares. -/
def declareMediaLb (b : Builder) (node : UInt16) (e : Element) : Except CompileError Builder := do
  match ← onlyChild node e Schema.mediaLbPort with
  | none => return b
  | some port =>
    let clock ← port.keyword Schema.clockConfig MlbClock.keywords
    let (id, b) := b.alloc (.port ⟨node, .declared, .mediaLb clock⟩)
    return { b with ports := { b.ports with mediaLb := some id } }

/-- Reads the settings of a USB port. -/
def readUsbSettings (e : Element) : Except CompileError UsbSettings := do
  let physicalLayer ← e.keyword Schema.physicalLayer UsbPhysicalLayer.keywords
  let deviceInterfaces ← e.word Schema.deviceInterfaces
  let outCount ← e.byte? Schema.streamingOutCount
  let inCount ← e.byte? Schema.streamingInCount
  return ⟨physicalLayer, deviceInterfaces, outCount.getD 0, inCount.getD 0⟩

/-- Creates the USB port a node declares. -/
def declareUsb (b : Builder) (node : UInt16) (e : Element) : Except CompileError Builder := do
  match ← onlyChild node e Schema.usbPort with
  | none => return b
  | some port =>
    let settings ← readUsbSettings port
    let (id, b) := b.alloc (.port ⟨node, .declared, .usb settings⟩)
    return { b with ports := { b.ports with usb := some id } }

/-- Reads the settings of a stream port. -/
def readStreamSettings (e : Element) : Except CompileError StreamSettings := do
  let clock ← e.keyword Schema.clockConfig StreamClock.keywords
  let alignment ← e.keyword Schema.dataAlignment DataAlignment.keywords
  return ⟨clock, alignment⟩

/-- Creates both halves of the stream port a node declares. -/
def declareStream (b : Builder) (node : UInt16) (e : Element) : Except CompileError Builder := do
  match ← onlyChild node e Schema.streamPort with
  | none => return b
  | some port =>
    let settings ← readStreamSettings port
    let (portA, b) := b.alloc (.port ⟨node, .declared, .stream .a settings⟩)
    let (portB, b) := b.alloc (.port ⟨node, .declared, .stream .b settings⟩)
    return { b with ports := { b.ports with stream := some (portA, portB) } }

/-- Creates every port a node declares. -/
def declarePorts (b : Builder) (node : UInt16) (e : Element) : Except CompileError Builder := do
  let b ← b.declareMediaLb node e
  let b ← b.declareUsb node e
  b.declareStream node e

/-! ## Children -/

/-- Whether an element declares a port. -/
def isPort (e : Element) : Bool :=
  e.name == Schema.mediaLbPort || e.name == Schema.usbPort || e.name == Schema.streamPort

/-- Creates what a connection element declares. -/
def addConnection (b : Builder) (node : UInt16) (style : ConnectionStyle) (e : Element) :
    Except CompileError Builder := do
  let taken := b.hasLink (e.attribute? Schema.link)
  let decl ← ConnectionDecl.atSite ⟨e, node, b.ports.stream, style, taken⟩
  b.join decl

/-- Takes in a child of a node; its ports were created before. -/
def addNodeChild (node : UInt16) (b : Builder) (e : Element) : Except CompileError Builder :=
  if isPort e then .ok b
  else match ConnectionStyle.ofElement? e with
    | some style => do
      let style ← style
      b.addConnection node style e
    | none => .error (.shape (.unknownConnection e.name node) e.line)

/-! ## Nodes -/

/-- The address of a node, which no other has. -/
def claimAddress (b : Builder) (e : Element) : Except CompileError UInt16 := do
  let address ← e.word Schema.address
  if b.nodes.any fun n => n.address == address then
    .error (.shape (.repeatedAddress address) e.line)
  else return address

/-- Creates the node with this address. -/
def buildNode (b : Builder) (address : UInt16) (e : Element) : Except CompileError Builder := do
  let b ← { b with ports := NodePorts.absent }.declarePorts address e
  let b ← e.children.foldlM (addNodeChild address) b
  return { b with
    nodes := b.nodes.push ⟨address, e.attribute? Schema.script, none, b.ports⟩ }

/-- Takes in a node element. -/
def addNode (b : Builder) (e : Element) : Except CompileError Builder := do
  let address ← b.claimAddress e
  b.buildNode address e

/-- Takes in a child of the root; scripts and drivers come later. -/
def addRootChild (b : Builder) (e : Element) : Except CompileError Builder :=
  if e.name = Schema.node then b.addNode e
  else if e.name = Schema.script ∨ e.name = Schema.driver then .ok b
  else .error (.shape (.strayInRoot e.name) e.line)

end Builder

end MediaNetwork

/-
  Resources: what a network controller is told to create.

  A port is a physical interface of a node, a socket an end of a stream on a port, a connection
  joins an input side to an output side.  A splitter lets several connections start from one
  input socket, a combiner lets several end in one output socket.

  Resources live in an arena and hold handles of each other; `handles` lists them.
-/
import MediaNetwork.Literal

namespace MediaNetwork

/-- A handle: the place of a resource in its arena. -/
structure ResourceId where
  index : Nat
  deriving DecidableEq, Repr, Inhabited

/-! ## Ports -/

/-- Whether a port was declared in the document or created because a socket needed it. -/
inductive PortOrigin
  | declared | default
  deriving DecidableEq, Repr

/-- The clock of a MediaLB port, in multiples of the frame rate. -/
inductive MlbClock
  | fs256 | fs512 | fs1024 | fs2048 | fs3072 | fs4096 | fs6144 | fs8192
  deriving DecidableEq, Repr

/-- How a document writes a MediaLB clock. -/
def MlbClock.keywords : Keywords MlbClock :=
  [("256Fs", .fs256), ("512Fs", .fs512), ("1024Fs", .fs1024), ("2048Fs", .fs2048),
    ("3072Fs", .fs3072), ("4096Fs", .fs4096), ("6144Fs", .fs6144), ("8192Fs", .fs8192)]

/-- The electrical interface of a USB port. -/
inductive UsbPhysicalLayer
  | standard | hsic
  deriving DecidableEq, Repr

/-- How a document writes the interface of a USB port. -/
def UsbPhysicalLayer.keywords : Keywords UsbPhysicalLayer :=
  [("Standard", .standard), ("HSIC", .hsic)]

/-- The two halves of a stream port. -/
inductive StreamPortIndex
  | a | b
  deriving DecidableEq, Repr

/-- The clock of a stream port, in multiples of the frame rate, or any. -/
inductive StreamClock
  | fs8 | fs16 | fs32 | fs64 | fs128 | fs256 | fs512 | wildcard
  deriving DecidableEq, Repr

/-- How a document writes a stream clock. -/
def StreamClock.keywords : Keywords StreamClock :=
  [("8Fs", .fs8), ("16Fs", .fs16), ("32Fs", .fs32), ("64Fs", .fs64), ("128Fs", .fs128),
    ("256Fs", .fs256), ("512Fs", .fs512), ("Wildcard", .wildcard)]

/-- How samples lie in the frame of a stream port. -/
inductive DataAlignment
  | left16Bit | left24Bit | right16Bit | right24Bit | seq
  deriving DecidableEq, Repr

/-- How a document writes an alignment. -/
def DataAlignment.keywords : Keywords DataAlignment :=
  [("Left16Bit", .left16Bit), ("Left24Bit", .left24Bit), ("Right16Bit", .right16Bit),
    ("Right24Bit", .right24Bit), ("Seq", .seq)]

/-- The settings of a USB port. -/
structure UsbSettings where
  physicalLayer : UsbPhysicalLayer
  deviceInterfaces : UInt16
  streamingOutCount : UInt8
  streamingInCount : UInt8
  deriving DecidableEq, Repr

/-- The settings of a USB port that no document declares. -/
def UsbSettings.default : UsbSettings := ⟨.standard, 0, 0, 0⟩

/-- The settings both halves of a stream port share. -/
structure StreamSettings where
  clock : StreamClock
  alignment : DataAlignment
  deriving DecidableEq, Repr

/-- What a port is connected to, with its settings. -/
inductive PortKind
  | network
  | mediaLb (clock : MlbClock)
  | usb (settings : UsbSettings)
  | stream (index : StreamPortIndex) (settings : StreamSettings)
  deriving DecidableEq, Repr

/-- A physical interface of a node. -/
structure Port where
  /-- The address of the node. -/
  node : UInt16
  origin : PortOrigin
  kind : PortKind
  deriving DecidableEq, Repr

/-! ## Sockets -/

/-- The direction of traffic as the network controller sees it. -/
inductive Direction
  | input | output
  deriving DecidableEq, Repr

/-- The type of data a connection carries. -/
inductive DataType
  | sync | isochronous
  deriving DecidableEq, Repr

/-- What a network socket says about its route. -/
structure RouteDecl where
  name : String
  active : Bool
  /-- The id the document asks for. -/
  routeId : Option UInt16
  deriving DecidableEq, Repr

/-- A pin of a stream port. -/
inductive StreamPin
  | srxA0 | srxA1 | srxB0 | srxB1
  deriving DecidableEq, Repr

/-- How a document writes a pin. -/
def StreamPin.keywords : Keywords StreamPin :=
  [("SRXA0", .srxA0), ("SRXA1", .srxA1), ("SRXB0", .srxB0), ("SRXB1", .srxB1)]

/-- What a socket stands on, with its settings. -/
inductive SocketKind
  | network (bandwidth : UInt16) (route : RouteDecl)
  | usb (endpointAddress : UInt8) (framesPerTransaction : UInt16)
  | mediaLb (channelAddress bandwidth : UInt16)
  | stream (pin : StreamPin) (bandwidth : UInt16)
  deriving DecidableEq, Repr

/-- The end of a stream on a port. -/
structure Socket where
  port : ResourceId
  direction : Direction
  dataType : DataType
  kind : SocketKind
  deriving DecidableEq, Repr

/-! ## Fans and connections -/

/-- Fans one input socket out to several connections. -/
structure Splitter where
  socketIn : ResourceId
  bytesPerFrame : UInt16
  deriving DecidableEq, Repr

/-- Fans several connections in to one output socket. -/
structure Combiner where
  socketOut : ResourceId
  bytesPerFrame : UInt16
  deriving DecidableEq, Repr

/-- Whether a synchronous connection falls silent when its data are not valid. -/
inductive MuteMode
  | noMuting | muteSignal
  deriving DecidableEq, Repr

/-- How a document writes a mute mode. -/
def MuteMode.keywords : Keywords MuteMode :=
  [("NoMuting", .noMuting), ("MuteSignal", .muteSignal)]

/-- The size of the packets of an isochronous connection. -/
inductive IsocPacketSize
  | p188 | p196 | p206
  deriving DecidableEq, Repr

/-- How a document writes a packet size. -/
def IsocPacketSize.keywords : Keywords IsocPacketSize :=
  [("188", .p188), ("196", .p196), ("206", .p206)]

/-- The size of a packet in bytes. -/
def IsocPacketSize.bytes : IsocPacketSize → UInt16
  | .p188 => 188
  | .p196 => 196
  | .p206 => 206

/-- How a connection carries its data. -/
inductive ConnectionKind
  | sync (muteMode : MuteMode) (offset : UInt16)
  | avPacketized (packetSize : IsocPacketSize)
  deriving DecidableEq, Repr

/-- The type of data a connection of this kind carries. -/
def ConnectionKind.dataType : ConnectionKind → DataType
  | sync .. => .sync
  | avPacketized _ => .isochronous

/-- Joins an input side to an output side; a side is a socket or a fan. -/
structure Connection where
  socketIn : ResourceId
  socketOut : ResourceId
  kind : ConnectionKind
  deriving DecidableEq, Repr

/-! ## Resources -/

/-- Anything a network controller creates. -/
inductive Resource
  | port (port : Port)
  | socket (socket : Socket)
  | splitter (splitter : Splitter)
  | combiner (combiner : Combiner)
  | connection (connection : Connection)
  deriving DecidableEq, Repr

namespace Resource

/-- The word for a resource of this kind. -/
def kindName : Resource → String
  | port _ => "port"
  | socket _ => "socket"
  | splitter _ => "splitter"
  | combiner _ => "combiner"
  | connection _ => "connection"

/-- The port, if a resource is one. -/
def port? : Resource → Option Port
  | port p => some p
  | _ => none

/-- The socket, if a resource is one. -/
def socket? : Resource → Option Socket
  | socket s => some s
  | _ => none

/-- The connection, if a resource is one. -/
def connection? : Resource → Option Connection
  | connection c => some c
  | _ => none

/-- Whether a resource is a socket on the network. -/
def isNetworkSocket : Resource → Bool
  | socket ⟨_, _, _, .network ..⟩ => true
  | _ => false

/-- Whether a resource is shared by the connections of a fan. -/
def isFan : Resource → Bool
  | splitter _ | combiner _ => true
  | _ => false

/-- The handles a resource holds. -/
def handles : Resource → List ResourceId
  | port _ => []
  | socket s => [s.port]
  | splitter s => [s.socketIn]
  | combiner c => [c.socketOut]
  | connection c => [c.socketIn, c.socketOut]

end Resource

end MediaNetwork

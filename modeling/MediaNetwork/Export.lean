/-
  Export: a configuration or script as a JSON value.

  A structure is an object of its fields, a handle the number of its place, an absent value null.
  A case without data is its name as a text, a case with data an object whose only field has that
  name.
-/
import MediaNetwork.Configuration
import MediaNetwork.Json

namespace MediaNetwork

/-- A case with data. -/
def Json.tagged (name : String) (fields : List (String × Json)) : Json :=
  .object [(name, .object fields)]

/-! ## Handles -/

/-- A handle is its number, without a name around it. -/
def ResourceId.toJson (id : ResourceId) : Json := .nat id.index

/-- So is the place of an endpoint. -/
def EndpointId.toJson (id : EndpointId) : Json := .nat id.index

/-- A job list is its handles, in order. -/
def JobList.toJson (l : JobList) : Json := .ofList ResourceId.toJson l.toList

/-! ## Resources -/

/-- Whether a port was declared. -/
def PortOrigin.toJson : PortOrigin → Json
  | declared => .text "Declared"
  | default => .text "Default"

/-- The clock of a MediaLB port. -/
def MlbClock.toJson : MlbClock → Json
  | fs256 => .text "Fs256"
  | fs512 => .text "Fs512"
  | fs1024 => .text "Fs1024"
  | fs2048 => .text "Fs2048"
  | fs3072 => .text "Fs3072"
  | fs4096 => .text "Fs4096"
  | fs6144 => .text "Fs6144"
  | fs8192 => .text "Fs8192"

/-- The physical layer of a USB port. -/
def UsbPhysicalLayer.toJson : UsbPhysicalLayer → Json
  | standard => .text "Standard"
  | hsic => .text "Hsic"

/-- Which half of the stream ports it is. -/
def StreamPortIndex.toJson : StreamPortIndex → Json
  | a => .text "A"
  | b => .text "B"

/-- The clock of a stream port. -/
def StreamClock.toJson : StreamClock → Json
  | fs8 => .text "Fs8"
  | fs16 => .text "Fs16"
  | fs32 => .text "Fs32"
  | fs64 => .text "Fs64"
  | fs128 => .text "Fs128"
  | fs256 => .text "Fs256"
  | fs512 => .text "Fs512"
  | wildcard => .text "Wildcard"

/-- How samples lie in a frame of a stream port. -/
def DataAlignment.toJson : DataAlignment → Json
  | left16Bit => .text "Left16Bit"
  | left24Bit => .text "Left24Bit"
  | right16Bit => .text "Right16Bit"
  | right24Bit => .text "Right24Bit"
  | seq => .text "Seq"

/-- A port of the network has no data; the others have their settings, those of a USB or stream port
    side by side with what else there is. -/
def PortKind.toJson : PortKind → Json
  | network => .text "Network"
  | mediaLb clock => .tagged "MediaLb" [("clock", clock.toJson)]
  | usb settings => .tagged "Usb"
      [("physical_layer", settings.physicalLayer.toJson),
        ("device_interfaces", .word settings.deviceInterfaces),
        ("streaming_out_count", .byte settings.streamingOutCount),
        ("streaming_in_count", .byte settings.streamingInCount)]
  | stream index settings => .tagged "Stream"
      [("index", index.toJson), ("clock", settings.clock.toJson),
        ("alignment", settings.alignment.toJson)]

/-- A port, with the address of its node. -/
def Port.toJson (p : Port) : Json :=
  .object [("node", .word p.node), ("origin", p.origin.toJson), ("kind", p.kind.toJson)]

/-- A direction, as the network controller sees it. -/
def Direction.toJson : Direction → Json
  | input => .text "Input"
  | output => .text "Output"

/-- The type of data. -/
def DataType.toJson : DataType → Json
  | sync => .text "Sync"
  | isochronous => .text "Isochronous"

/-- What a network socket says about its route; the id is null where none is asked for. -/
def RouteDecl.toJson (r : RouteDecl) : Json :=
  .object [("name", .text r.name), ("active", .bool r.active),
    ("route_id", .ofOption .word r.routeId)]

/-- The pin of a stream socket. -/
def StreamPin.toJson : StreamPin → Json
  | srxA0 => .text "SrxA0"
  | srxA1 => .text "SrxA1"
  | srxB0 => .text "SrxB0"
  | srxB1 => .text "SrxB1"

/-- What a socket has by its kind; every kind has data. -/
def SocketKind.toJson : SocketKind → Json
  | network bandwidth route => .tagged "Network"
      [("bandwidth", .word bandwidth), ("route", route.toJson)]
  | usb endpointAddress framesPerTransaction => .tagged "Usb"
      [("endpoint_address", .byte endpointAddress),
        ("frames_per_transaction", .word framesPerTransaction)]
  | mediaLb channelAddress bandwidth => .tagged "MediaLb"
      [("channel_address", .word channelAddress), ("bandwidth", .word bandwidth)]
  | stream pin bandwidth => .tagged "Stream"
      [("pin", pin.toJson), ("bandwidth", .word bandwidth)]

/-- A socket, with the handle of its port. -/
def Socket.toJson (s : Socket) : Json :=
  .object [("port", s.port.toJson), ("direction", s.direction.toJson),
    ("data_type", s.dataType.toJson), ("kind", s.kind.toJson)]

/-- Whether synchronous data are muted. -/
def MuteMode.toJson : MuteMode → Json
  | noMuting => .text "NoMuting"
  | muteSignal => .text "MuteSignal"

/-- The size of isochronous packets is named, not counted. -/
def IsocPacketSize.toJson : IsocPacketSize → Json
  | p188 => .text "P188"
  | p196 => .text "P196"
  | p206 => .text "P206"

/-- What a connection has by its kind. -/
def ConnectionKind.toJson : ConnectionKind → Json
  | sync muteMode offset => .tagged "Sync"
      [("mute_mode", muteMode.toJson), ("offset", .word offset)]
  | avPacketized packetSize => .tagged "AvPacketized" [("packet_size", packetSize.toJson)]

/-- A connection, with the handles of its two sides. -/
def Connection.toJson (c : Connection) : Json :=
  .object [("socket_in", c.socketIn.toJson), ("socket_out", c.socketOut.toJson),
    ("kind", c.kind.toJson)]

/-- A splitter, with the handle of the socket it wraps. -/
def Splitter.toJson (s : Splitter) : Json :=
  .object [("socket_in", s.socketIn.toJson), ("bytes_per_frame", .word s.bytesPerFrame)]

/-- A combiner, with the handle of the socket it wraps. -/
def Combiner.toJson (c : Combiner) : Json :=
  .object [("socket_out", c.socketOut.toJson), ("bytes_per_frame", .word c.bytesPerFrame)]

/-- A resource is an object whose only field is named for its kind. -/
def Resource.toJson : Resource → Json
  | port p => .object [("Port", p.toJson)]
  | socket s => .object [("Socket", s.toJson)]
  | splitter s => .object [("Splitter", s.toJson)]
  | combiner c => .object [("Combiner", c.toJson)]
  | connection c => .object [("Connection", c.toJson)]

/-- The arena is its resources in the order of handles, which do not stand there. -/
def Arena.toJson (a : Arena) : Json := .ofList Resource.toJson a.toList

/-! ## Scripts -/

/-- A message, with its payload as a list of bytes. -/
def ControlMessage.toJson (m : ControlMessage) : Json :=
  .object [("fblock_id", .byte m.fblockId), ("instance_id", .byte m.instanceId),
    ("function_id", .word m.functionId), ("op_type", .byte m.opType),
    ("payload", .ofList .byte m.payload)]

/-- One step: how long to wait, what to send, and the answer that is awaited. -/
def ScriptStep.toJson (s : ScriptStep) : Json :=
  .object [("pause_ms", .word s.pauseMs), ("command", s.command.toJson),
    ("expected", s.expected.toJson)]

/-- A script, with its steps in order. -/
def Script.toJson (s : Script) : Json :=
  .object [("name", .text s.name), ("steps", .ofList ScriptStep.toJson s.steps)]

/-! ## Drivers -/

/-- The interface of a host. -/
def HostInterface.toJson : HostInterface → Json
  | usb => .text "Usb"
  | mediaLb => .text "MediaLb"

/-- The direction of a channel, as the host sees it. -/
def ChannelDirection.toJson : ChannelDirection → Json
  | tx => .text "Tx"
  | rx => .text "Rx"

/-- The resolution of samples. -/
def AlsaResolution.toJson : AlsaResolution → Json
  | bits8 => .text "Bits8"
  | bits16 => .text "Bits16"
  | bits24 => .text "Bits24"
  | bits32 => .text "Bits32"

/-- How many buffers there are, and their size. -/
def BufferConfig.toJson (b : BufferConfig) : Json :=
  .object [("count", .word b.count), ("size", .word b.size)]

/-- The fields that set one kind of device apart. -/
def DeviceKind.fields : DeviceKind → List (String × Json)
  | alsa channels resolution =>
    [("channels", .byte channels), ("resolution", resolution.toJson)]
  | _ => []

/-- A binding is named for the kind of its device; the fields of the kind come last. -/
def DriverBinding.toJson (b : DriverBinding) : Json :=
  .tagged b.kind.tag
    ([("name", .ofOption .text b.name), ("buffers", b.buffers.toJson)] ++ b.kind.fields)

/-- A driver record; the binding is null where no driver names the link. -/
def DriverRecord.toJson (r : DriverRecord) : Json :=
  .object [("link", .text r.link), ("node_address", .word r.node),
    ("physical_layer", r.interface.toJson), ("channel_name", .text r.channelName),
    ("direction", r.direction.toJson), ("data_type", r.dataType.toJson),
    ("sub_buffer_size", .word r.subBufferSize),
    ("packets_per_transaction", .word r.packetsPerTransaction),
    ("binding", .ofOption DriverBinding.toJson r.binding)]

/-! ## Configurations -/

/-- The ports of a node; the two halves of the stream port are one field, a list of two. -/
def NodePorts.toJson (p : NodePorts) : Json :=
  .object [("network", .ofOption ResourceId.toJson p.network),
    ("media_lb", .ofOption ResourceId.toJson p.mediaLb),
    ("usb", .ofOption ResourceId.toJson p.usb),
    ("stream", .ofOption (fun s => .array [s.1.toJson, s.2.toJson]) p.stream)]

/-- A node, with its whole script, so that a script two nodes share stands there twice. -/
def Node.toJson (n : Node) : Json :=
  .object [("address", .word n.address), ("script_name", .ofOption .text n.scriptName),
    ("script", .ofOption Script.toJson n.script), ("ports", n.ports.toJson)]

/-- Which end of a stream it is. -/
def EndpointKind.toJson : EndpointKind → Json
  | source => .text "Source"
  | sink => .text "Sink"

/-- An endpoint; resources are told by their handles. -/
def Endpoint.toJson (e : Endpoint) : Json :=
  .object [("kind", e.kind.toJson), ("node_address", .word e.node), ("jobs", e.jobs.toJson),
    ("connection", e.connection.toJson), ("network_socket", e.networkSocket.toJson),
    ("link", .ofOption .text e.link)]

/-- A route, with the places of its two endpoints. -/
def Route.toJson (r : Route) : Json :=
  .object [("name", .text r.name), ("source", r.source.toJson), ("sink", r.sink.toJson),
    ("route_id", .word r.routeId), ("active", .bool r.active)]

/-- A whole configuration, the arena last. -/
def Configuration.toJson (c : Configuration) : Json :=
  .object [("packet_bandwidth", .word c.packetBandwidth), ("nodes", .ofList Node.toJson c.nodes),
    ("endpoints", .ofList Endpoint.toJson c.endpoints),
    ("routes", .ofList Route.toJson c.routes),
    ("drivers", .ofList DriverRecord.toJson c.drivers), ("resources", c.arena.toJson)]

/-- The exported text of a configuration. -/
def Configuration.exportText (c : Configuration) : String := c.toJson.pretty

/-- The exported text of a script. -/
def Script.exportText (s : Script) : String := s.toJson.pretty

end MediaNetwork

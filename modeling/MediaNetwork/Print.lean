/-
  Printing: a configuration written out as a document that compiles to it again.

  Only what a document has to say is written: declared ports, connections in the order of their
  endpoints, the scripts nodes ask for, and the drivers of bound records.  Endpoints of one node
  that stand next to each other and share a splitter or combiner are one connection element.
  Each script is written once, its steps as pauses and freely composed messages.

  A value that equals its default is left out where the schema allows it: the offset zero outside
  a fan, an active route, an empty payload, a pause of no length.
-/
import MediaNetwork.Configuration
import MediaNetwork.Markup.Printed

namespace MediaNetwork

open MediaNetwork.Markup

/-! ## Values -/

/-- An 8-bit value in hexadecimal. -/
def hexByte (n : UInt8) : String := "0x" ++ Text.hexUpper 2 n.toNat

/-- A 16-bit value in hexadecimal. -/
def hexWord (n : UInt16) : String := "0x" ++ Text.hexUpper 4 n.toNat

/-- An 8-bit value in decimal. -/
def decimalByte (n : UInt8) : String := Text.decimal n.toNat

/-- A 16-bit value in decimal. -/
def decimalWord (n : UInt16) : String := Text.decimal n.toNat

/-- An attribute that is written if it has a value. -/
def optional (key : String) (value : Option String) : List (String × String) :=
  match value with
  | some v => [(key, v)]
  | none => []

namespace Configuration

/-! ## Handles -/

/-- The connection of a handle. -/
def connection (c : Configuration) (id : ResourceId) : Except CompileError Connection := do
  match ← c.arena.get id with
  | .connection connection => return connection
  | _ => .error (.internal (.notConnection id.index))

/-- The splitter or combiner a connection shares with others. -/
def fan? (c : Configuration) (connection : Connection) :
    Except CompileError (Option ResourceId) := do
  let input ← c.arena.get connection.socketIn
  if input.isFan then return some connection.socketIn
  else
    let output ← c.arena.get connection.socketOut
    if output.isFan then return some connection.socketOut else return none

/-! ## Ports -/

/-- The element of a port, if it was declared. -/
def printPort (port : Port) : List Printed :=
  match port.origin, port.kind with
  | .declared, .mediaLb clock =>
    [.leaf Schema.mediaLbPort [(Schema.clockConfig, MlbClock.keywords.name clock)]]
  | .declared, .usb settings =>
    [.leaf Schema.usbPort
      [(Schema.physicalLayer, UsbPhysicalLayer.keywords.name settings.physicalLayer),
        (Schema.deviceInterfaces, hexWord settings.deviceInterfaces),
        (Schema.streamingOutCount, decimalByte settings.streamingOutCount),
        (Schema.streamingInCount, decimalByte settings.streamingInCount)]]
  | .declared, .stream _ settings =>
    [.leaf Schema.streamPort
      [(Schema.clockConfig, StreamClock.keywords.name settings.clock),
        (Schema.dataAlignment, DataAlignment.keywords.name settings.alignment)]]
  | _, _ => []

/-- The element of the port with this handle, if it was declared. -/
def printPortOf (c : Configuration) (id : ResourceId) : Except CompileError (List Printed) := do
  match ← c.arena.get id with
  | .port port => return printPort port
  | _ => .error (.internal (.notPort id.index))

/-- The elements of the ports a node declares. -/
def printPorts (c : Configuration) (ports : NodePorts) : Except CompileError (List Printed) := do
  let ids := [ports.mediaLb, ports.usb, ports.stream.map Prod.fst].filterMap id
  let printed ← ids.mapM c.printPortOf
  return printed.flatten

/-! ## Sockets -/

/-- The element of a socket; an offset stands on a network socket only. -/
def printSocketKind (offset : Option UInt16) : SocketKind → Printed
  | .network bandwidth route =>
    .leaf Schema.networkSocket
      ([(Schema.bandwidth, decimalWord bandwidth), (Schema.route, route.name)] ++
        (if route.active then [] else [(Schema.isActive, "false")]) ++
        optional Schema.routeId (route.routeId.map hexWord) ++
        optional Schema.offset (offset.map decimalWord))
  | .usb endpointAddress framesPerTransaction =>
    .leaf Schema.usbSocket
      [(Schema.endpointAddress, hexByte endpointAddress),
        (Schema.framesPerTransaction, decimalWord framesPerTransaction)]
  | .mediaLb channelAddress bandwidth =>
    .leaf Schema.mediaLbSocket
      [(Schema.channelAddress, hexWord channelAddress),
        (Schema.bandwidth, decimalWord bandwidth)]
  | .stream pin bandwidth =>
    .leaf Schema.streamSocket
      [(Schema.streamPinId, StreamPin.keywords.name pin),
        (Schema.bandwidth, decimalWord bandwidth)]

/-- The element of the socket with this handle. -/
def printSocket (c : Configuration) (id : ResourceId) (offset : Option UInt16) :
    Except CompileError Printed := do
  match ← c.arena.get id with
  | .socket socket => return printSocketKind offset socket.kind
  | _ => .error (.internal (.notSocket id.index))

/-! ## Connections -/

/-- The offset a branch of a fan is written with. -/
def branchOffset : ConnectionKind → Option UInt16
  | .sync _ offset => some offset
  | .avPacketized _ => none

/-- The offset a plain connection is written with: none if it is zero. -/
def plainOffset : ConnectionKind → Option UInt16
  | .sync _ offset => if offset = 0 then none else some offset
  | .avPacketized _ => none

/-- The name of a connection element and the attribute of its own kind. -/
def connectionHead : ConnectionKind → String × (String × String)
  | .sync muteMode _ =>
    (Schema.syncConnection, (Schema.muteMode, MuteMode.keywords.name muteMode))
  | .avPacketized packetSize =>
    (Schema.avpConnection, (Schema.isocPacketSize, IsocPacketSize.keywords.name packetSize))

/-- The network sockets of the branches of a splitter. -/
def printOutputs (c : Configuration) (group : List Endpoint) :
    Except CompileError (List Printed) :=
  group.mapM fun e => do
    let branch ← c.connection e.connection
    c.printSocket branch.socketOut (branchOffset branch.kind)

/-- The network sockets of the branches of a combiner. -/
def printInputs (c : Configuration) (group : List Endpoint) :
    Except CompileError (List Printed) :=
  group.mapM fun e => do
    let branch ← c.connection e.connection
    c.printSocket branch.socketIn (branchOffset branch.kind)

/-- The children of a connection element whose first connection is `head`. -/
def printWiring (c : Configuration) (head : Connection) (group : List Endpoint) :
    Except CompileError (List Printed) := do
  match ← c.arena.get head.socketIn with
  | .splitter splitter =>
    let input ← c.printSocket splitter.socketIn none
    let branches ← c.printOutputs group
    return [input,
      .block Schema.splitter [(Schema.bytesPerFrame, decimalWord splitter.bytesPerFrame)] branches]
  | _ =>
    match ← c.arena.get head.socketOut with
    | .combiner combiner =>
      let branches ← c.printInputs group
      let output ← c.printSocket combiner.socketOut none
      return [
        .block Schema.combiner [(Schema.bytesPerFrame, decimalWord combiner.bytesPerFrame)]
          branches,
        output]
    | out =>
      let offset := plainOffset head.kind
      let input ← c.printSocket head.socketIn (if out.isNetworkSocket then none else offset)
      let output ← c.printSocket head.socketOut (if out.isNetworkSocket then offset else none)
      return [input, output]

/-- The element of a group of endpoints, of which `first` is the first. -/
def printConnection (c : Configuration) (first : Endpoint) (rest : List Endpoint) :
    Except CompileError Printed := do
  let head ← c.connection first.connection
  let (name, own) := connectionHead head.kind
  let children ← c.printWiring head (first :: rest)
  return .block name (own :: optional Schema.link first.link) children

/-! ## Groups -/

/-- Splits off the endpoints at the front whose connections share the fan `shared`; `group` are
    those before, backwards. -/
def takeGroup (c : Configuration) (shared : ResourceId) (group : List Endpoint) :
    List Endpoint → Except CompileError (List Endpoint × List Endpoint)
  | [] => .ok (group.reverse, [])
  | e :: es => do
    let connection ← c.connection e.connection
    let fan ← c.fan? connection
    if fan = some shared then c.takeGroup shared (e :: group) es
    else return (group.reverse, e :: es)

theorem length_takeGroup {c : Configuration} {shared : ResourceId}
    {before es group rest : List Endpoint} (h : c.takeGroup shared before es = .ok (group, rest)) :
    rest.length ≤ es.length := by
  induction es generalizing before with
  | nil => cases h; exact Nat.le_refl _
  | cons e es ih =>
    simp only [takeGroup, bind, Except.bind, pure, Except.pure] at h
    split at h
    · cases h
    · split at h
      · cases h
      · split at h
        · have := ih h
          simp only [List.length_cons]
          omega
        · cases h
          exact Nat.le_refl _

/-- The connection elements of a list of endpoints; `done` are those before, backwards. -/
def printGroups (c : Configuration) (done : List Printed) (es : List Endpoint) :
    Except CompileError (List Printed) :=
  match es with
  | [] => .ok done.reverse
  | first :: es => do
    let connection ← c.connection first.connection
    match ← c.fan? connection with
    | none =>
      let printed ← c.printConnection first []
      c.printGroups (printed :: done) es
    | some shared =>
      match _h : c.takeGroup shared [] es with
      | .error fault => .error fault
      | .ok (group, rest) =>
        let printed ← c.printConnection first group
        c.printGroups (printed :: done) rest
termination_by es.length
decreasing_by
  · simp
  · have := length_takeGroup _h
    simp only [List.length_cons]
    omega

/-! ## Nodes, scripts and drivers -/

/-- The element of a node. -/
def printNode (c : Configuration) (node : Node) : Except CompileError Printed := do
  let ports ← c.printPorts node.ports
  let connections ← c.printGroups [] (c.endpoints.filter fun e => e.node == node.address)
  return .block Schema.node
    ((Schema.address, hexWord node.address) :: optional Schema.script node.scriptName)
    (ports ++ connections)

/-- The elements of a script step. -/
def printStep (step : ScriptStep) : List Printed :=
  let message := step.command
  (if step.pauseMs = 0 then [] else
    [.leaf Schema.pause [(Schema.waitTime, decimalWord step.pauseMs)]]) ++
  [.leaf Schema.msgSend
    ([(Schema.fblockId, hexByte message.fblockId),
      (Schema.instanceId, hexByte message.instanceId),
      (Schema.functionId, hexWord message.functionId),
      (Schema.opTypeRequest, hexByte message.opType),
      (Schema.opTypeResponse, hexByte step.expected.opType)] ++
      (if message.payload.isEmpty then [] else
        [(Schema.payloadHex, writePayload message.payload)]))]

/-- The element of a script. -/
def printScript (script : Script) : Printed :=
  .block Schema.script [(Schema.name, script.name)] (script.steps.flatMap printStep)

/-- The first script of every name; `seen` are the names before. -/
def distinctScripts (seen : List String) : List Script → List Script
  | [] => []
  | s :: ss =>
    if seen.contains s.name then distinctScripts seen ss
    else s :: distinctScripts (s.name :: seen) ss

/-- The element of a binding. -/
def printBinding (binding : DriverBinding) : Printed :=
  .leaf binding.kind.tag
    (optional Schema.name binding.name ++
      [(Schema.bufferCount, decimalWord binding.buffers.count),
        (Schema.bufferSize, decimalWord binding.buffers.size)] ++
      match binding.kind with
      | .alsa channels resolution =>
        [(Schema.channelCount, decimalByte channels),
          (Schema.resolution, AlsaResolution.keywords.name resolution)]
      | _ => [])

/-- The links of the bound records, each once; `seen` are the links before. -/
def boundLinks (seen : List String) : List DriverRecord → List String
  | [] => []
  | r :: rs =>
    if r.binding.isSome && !seen.contains r.link then r.link :: boundLinks (r.link :: seen) rs
    else boundLinks seen rs

/-- The element of the driver that serves a link. -/
def printDriver (records : List DriverRecord) (link : String) : Printed :=
  .block Schema.driver [(Schema.link, link)]
    (((records.filter fun r => r.link == link).filterMap fun r => r.binding).map printBinding)

/-! ## Documents -/

/-- The root element of a configuration. -/
def printed (c : Configuration) : Except CompileError Printed := do
  let nodes ← c.nodes.mapM c.printNode
  let scripts := distinctScripts [] (c.nodes.filterMap fun n => n.script)
  let drivers := (boundLinks [] c.drivers).map (printDriver c.drivers)
  return .block Schema.unicens [(Schema.asyncBandwidth, decimalWord c.packetBandwidth)]
    (nodes ++ scripts.map printScript ++ drivers)

/-- The document of a configuration. -/
def print (c : Configuration) : Except CompileError String := do
  let root ← c.printed
  return root.document

end Configuration

end MediaNetwork

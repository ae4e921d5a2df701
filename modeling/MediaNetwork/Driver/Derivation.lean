/-
  Driver derivation: the driver records of the connections that have a link.

  1. `infer` reads a record off a finished connection.  What matters is the side away from the
     network, followed through its splitter or combiner to the socket on a USB or MediaLB port;
     no other port can be served by a driver.
  2. `candidates` keeps the first connection of every link, since the branches of a fan share one
     link and one host side.
  3. `assign` hands every driver element its link; each link has at most one.
  4. `derive` puts the records in the order of the links: one without a binding if no driver
     names the link, else one for each interface the driver lists.

  `hostSocket` goes through one splitter or combiner.  To go on for as long as there is one comes to
  the same: in a compiled arena a splitter or combiner wraps a socket, and nothing is nested deeper.
-/
import MediaNetwork.Connection.Builder

namespace MediaNetwork

open MediaNetwork.Markup

namespace DriverRecord

/-! ## Inference -/

/-- The socket on a port that a side of a connection leads to. -/
def hostSocket (arena : Arena) (side : ResourceId) : Except CompileError Socket := do
  match ← arena.get side with
  | .socket s => return s
  | .splitter s => wrapped s.socketIn
  | .combiner c => wrapped c.socketOut
  | r => .error (.internal (.oddSide side.index r.kindName))
where
  /-- The socket a splitter or combiner wraps. -/
  wrapped (id : ResourceId) : Except CompileError Socket := do
    match ← arena.get id with
    | .socket s => return s
    | r => .error (.internal (.oddSide id.index r.kindName))

/-- The bandwidth of a network socket. -/
def networkBandwidth? : Resource → Option UInt16
  | .socket ⟨_, _, _, .network bandwidth _⟩ => some bandwidth
  | _ => none

/-- The interface, the channel name and the packets of a transaction, as the socket on the host's
    side has them. -/
def channel? : SocketKind → Option (HostInterface × String × UInt16)
  | .usb endpointAddress framesPerTransaction =>
    some (.usb, "ep" ++ Text.hexLower 2 endpointAddress.toNat, framesPerTransaction)
  | .mediaLb channelAddress _ => some (.mediaLb, "ca" ++ Text.decimal channelAddress.toNat, 0)
  | .stream .. | .network .. => none

/-- The direction of a channel: what enters the network controller leaves the host. -/
def hostDirection : Direction → ChannelDirection
  | .input => .tx
  | .output => .rx

/-- The size of a sub-buffer: the bandwidth of synchronous data, or one packet. -/
def subBuffer (bandwidth : UInt16) : ConnectionKind → UInt16
  | .sync .. => bandwidth
  | .avPacketized packetSize => packetSize.bytes

/-- The record of a connection that has a link. -/
def infer (arena : Arena) (candidate : LinkCandidate) : Except CompileError DriverRecord := do
  match ← arena.get candidate.connection with
  | .connection c =>
    let output ← arena.get c.socketOut
    let input ← arena.get c.socketIn
    match networkBandwidth? output <|> networkBandwidth? input with
    | none => .error (.internal (.linkNetwork candidate.link))
    | some bandwidth =>
      let host ← hostSocket arena (if output.isNetworkSocket then c.socketIn else c.socketOut)
      match channel? host.kind with
      | none => .error (.shape (.unservedLink candidate.link candidate.node) candidate.line)
      | some (interface, channelName, packets) =>
        return ⟨candidate.link, candidate.node, interface, channelName,
          hostDirection host.direction, c.kind.dataType, subBuffer bandwidth c.kind, packets,
          none⟩
  | _ => .error (.internal (.linkConnection candidate.link))

/-- The first candidate of every link; `seen` are the links before. -/
def candidates (seen : List String) : List LinkCandidate → List LinkCandidate
  | [] => []
  | c :: cs =>
    if seen.contains c.link then candidates seen cs else c :: candidates (c.link :: seen) cs

/-! ## Drivers -/

/-- Gives a driver element to the link it names, beside those given before. -/
def assign (links : List String) (given : List (String × Element)) (e : Element) :
    Except CompileError (List (String × Element)) := do
  let link ← e.text Schema.link
  if !links.contains link then .error (.shape (.unknownLink link) e.line)
  else if (given.lookup link).isSome then .error (.shape (.repeatedDriver link) e.line)
  else return given ++ [(link, e)]

/-- Reads how many buffers a channel has and their size. -/
def readBuffers (e : Element) : Except CompileError BufferConfig := do
  let count ← e.word Schema.bufferCount
  let size ← e.word Schema.bufferSize
  return ⟨count, size⟩

/-- The binding an interface element describes. -/
def readBinding (e : Element) : Except CompileError DriverBinding := do
  let name := e.attribute? Schema.name
  if e.name = Schema.cdev then
    let buffers ← readBuffers e
    return ⟨.cdev, name, buffers⟩
  else if e.name = Schema.v4l2 then
    let buffers ← readBuffers e
    return ⟨.v4l2, name, buffers⟩
  else if e.name = Schema.alsa then
    let buffers ← readBuffers e
    let channels ← e.byte Schema.channelCount
    let resolution ← e.keyword Schema.resolution AlsaResolution.keywords
    return ⟨.alsa channels resolution, name, buffers⟩
  else .error (.shape (.unknownInterface e.name) e.line)

/-- The records of one link, given the driver element that names it. -/
def expand (record : DriverRecord) : Option Element → Except CompileError (List DriverRecord)
  | none => .ok [record]
  | some driver => do
    let _ ← driver.require [Schema.cdev, Schema.v4l2, Schema.alsa] .siblings
    driver.children.mapM fun child => do
      let binding ← readBinding child
      return { record with binding := some binding }

/-- The driver records of a graph. -/
def derive (arena : Arena) (links : List LinkCandidate) (drivers : List Element) :
    Except CompileError (List DriverRecord) := do
  let inferred ← (candidates [] links).mapM (infer arena)
  let given ← drivers.foldlM (assign (inferred.map fun r => r.link)) []
  let records ← inferred.mapM fun r => expand r (given.lookup r.link)
  return records.flatten

end DriverRecord

end MediaNetwork

/-
  The configuration: what a document compiles to.

  Nodes with their ports and scripts, endpoints with the resources to create for them, routes
  from source to sink endpoints, driver records, and the arena all handles point into.
-/
import MediaNetwork.Arena
import MediaNetwork.Driver.Basic
import MediaNetwork.JobList
import MediaNetwork.Script.Basic

namespace MediaNetwork

/-- The place of an endpoint in its configuration. -/
structure EndpointId where
  index : Nat
  deriving DecidableEq, Repr

/-- The ports a node has. -/
structure NodePorts where
  network : Option ResourceId
  mediaLb : Option ResourceId
  usb : Option ResourceId
  /-- The two halves of the stream port, A and B. -/
  stream : Option (ResourceId × ResourceId)
  deriving DecidableEq, Repr

/-- No port at all. -/
def NodePorts.absent : NodePorts := ⟨none, none, none, none⟩

/-- A node of the network. -/
structure Node where
  address : UInt16
  /-- The script the node asks for. -/
  scriptName : Option String
  script : Option Script
  ports : NodePorts
  deriving DecidableEq, Repr

/-- Whether an endpoint puts a stream on the network or takes one off it. -/
inductive EndpointKind
  | source | sink
  deriving DecidableEq, Repr

/-- One end of the streams between nodes. -/
structure Endpoint where
  kind : EndpointKind
  /-- The address of the node. -/
  node : UInt16
  jobs : JobList
  connection : ResourceId
  /-- The socket that faces the network. -/
  networkSocket : ResourceId
  link : Option String
  deriving DecidableEq, Repr

/-- A stream from a source to a sink. -/
structure Route where
  name : String
  source : EndpointId
  sink : EndpointId
  routeId : UInt16
  active : Bool
  deriving DecidableEq, Repr

/-- A whole configuration; every handle in it points into `arena`. -/
structure Configuration where
  packetBandwidth : UInt16
  nodes : List Node
  endpoints : List Endpoint
  routes : List Route
  drivers : List DriverRecord
  arena : Arena
  deriving DecidableEq, Repr

namespace Configuration

/-- A configuration of nothing. -/
def empty : Configuration := ⟨0, [], [], [], [], Arena.empty⟩

/-- The endpoint with this place. -/
def endpoint? (c : Configuration) (id : EndpointId) : Option Endpoint := c.endpoints[id.index]?

/-- The node with this address. -/
def node? (c : Configuration) (address : UInt16) : Option Node :=
  c.nodes.find? fun n => n.address == address

end Configuration

end MediaNetwork

/-
  Driver records: the channels a host's drivers offer.

  A record says how the host reaches one connection that has a link: through which interface, in
  which direction and with what sizes.  A binding says under which kind of device a channel is
  offered; a record without one is inferred from the connection alone.
-/
import MediaNetwork.Resource

namespace MediaNetwork

/-- The interface between host and network controller. -/
inductive HostInterface
  | usb | mediaLb
  deriving DecidableEq, Repr

/-- The direction of a channel as the host sees it. -/
inductive ChannelDirection
  | tx | rx
  deriving DecidableEq, Repr

/-- The size of a sound sample. -/
inductive AlsaResolution
  | bits8 | bits16 | bits24 | bits32
  deriving DecidableEq, Repr

/-- How a document writes a sample size. -/
def AlsaResolution.keywords : Keywords AlsaResolution :=
  [("8bit", .bits8), ("16bit", .bits16), ("24bit", .bits24), ("32bit", .bits32)]

/-- How many buffers a channel has, and their size. -/
structure BufferConfig where
  count : UInt16
  size : UInt16
  deriving DecidableEq, Repr

/-- What sets one kind of device apart from the others. -/
inductive DeviceKind
  | cdev
  | v4l2
  | alsa (channels : UInt8) (resolution : AlsaResolution)
  deriving DecidableEq, Repr

/-- The device a channel is offered as. -/
structure DriverBinding where
  kind : DeviceKind
  name : Option String
  buffers : BufferConfig
  deriving DecidableEq, Repr

/-- The name of a kind of device. -/
def DeviceKind.tag : DeviceKind → String
  | cdev => "Cdev"
  | v4l2 => "V4l2"
  | alsa .. => "Alsa"

/-- A channel the host can open, for a connection that has a link. -/
structure DriverRecord where
  link : String
  /-- The address of the node. -/
  node : UInt16
  interface : HostInterface
  channelName : String
  direction : ChannelDirection
  dataType : DataType
  subBufferSize : UInt16
  /-- Frames of a USB transaction; zero for MediaLB. -/
  packetsPerTransaction : UInt16
  binding : Option DriverBinding
  deriving DecidableEq, Repr

end MediaNetwork

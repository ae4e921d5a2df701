/-
  Schema: the names of the elements and attributes of a configuration document.
-/

namespace MediaNetwork.Schema

/-! ## Elements -/

def unicens : String := "Unicens"
def node : String := "Node"
def script : String := "Script"
def driver : String := "Driver"

def mediaLbPort : String := "MediaLBPort"
def usbPort : String := "USBPort"
def streamPort : String := "StreamPort"

def syncConnection : String := "SyncConnection"
def avpConnection : String := "AVPConnection"
def networkSocket : String := "NetworkSocket"
def usbSocket : String := "USBSocket"
def mediaLbSocket : String := "MediaLBSocket"
def streamSocket : String := "StreamSocket"
def splitter : String := "Splitter"
def combiner : String := "Combiner"

def pause : String := "Pause"
def msgSend : String := "MsgSend"
def gpioPortCreate : String := "GPIOPortCreate"
def gpioPortPinMode : String := "GPIOPortPinMode"
def gpioPinState : String := "GPIOPinState"
def i2cPortCreate : String := "I2CPortCreate"
def i2cPortWrite : String := "I2CPortWrite"
def i2cPortRead : String := "I2CPortRead"

def cdev : String := "Cdev"
def v4l2 : String := "V4l2"
def alsa : String := "Alsa"

/-! ## Attributes

  A node refers to its script by an attribute of the script element's own name, `script`. -/

def asyncBandwidth : String := "AsyncBandwidth"
def address : String := "Address"

def clockConfig : String := "ClockConfig"
def physicalLayer : String := "PhysicalLayer"
def deviceInterfaces : String := "DeviceInterfaces"
def streamingOutCount : String := "StreamingIfEpOutCount"
def streamingInCount : String := "StreamingIfEpInCount"
def dataAlignment : String := "DataAlignment"

def muteMode : String := "MuteMode"
def isocPacketSize : String := "IsocPacketSize"
def link : String := "Link"
def bandwidth : String := "Bandwidth"
def route : String := "Route"
def isActive : String := "IsActive"
def routeId : String := "RouteId"
def offset : String := "Offset"
def endpointAddress : String := "EndpointAddress"
def framesPerTransaction : String := "FramesPerTransaction"
def channelAddress : String := "ChannelAddress"
def streamPinId : String := "StreamPinID"
def bytesPerFrame : String := "BytesPerFrame"

def name : String := "Name"
def waitTime : String := "WaitTime"
def fblockId : String := "FBlockId"
def instanceId : String := "InstanceId"
def functionId : String := "FunctionId"
def opTypeRequest : String := "OpTypeRequest"
def opTypeResponse : String := "OpTypeResponse"
def payloadHex : String := "PayloadHex"
def debounceTime : String := "DebounceTime"
def pinConfiguration : String := "PinConfiguration"
def mask : String := "Mask"
def data : String := "Data"
def speed : String := "Speed"
def mode : String := "Mode"
def blockCount : String := "BlockCount"
def timeout : String := "Timeout"
def length : String := "Length"

def bufferCount : String := "BufferCount"
def bufferSize : String := "BufferSize"
def channelCount : String := "ChannelCount"
def resolution : String := "Resolution"

end MediaNetwork.Schema

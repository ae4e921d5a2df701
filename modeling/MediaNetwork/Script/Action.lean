/-
  Script actions: what a script tells the network controller of a node to do.

  1. `Action` is an action with its parameters; `command` is the message that starts it and
     `expected` the message that completes it.
  2. All actions but a freely composed message go to the node's own controller: function block
     and instance zero, a request that starts an operation, any result of it expected.  Their
     parameters are packed into the payload, 16-bit values with the high byte first.
  3. `Action.ofElement` reads an action from its element.

  The port and the handle an action works on are fixed: each node has one port of either kind.
-/
import MediaNetwork.Markup.Access
import MediaNetwork.Schema

namespace MediaNetwork

open MediaNetwork.Markup

/-- A control message. -/
structure ControlMessage where
  fblockId : UInt8
  instanceId : UInt8
  functionId : UInt16
  opType : UInt8
  /-- In an expected message the empty payload matches every payload. -/
  payload : List UInt8
  deriving DecidableEq, Repr

/-! ## Operation types -/

/-- Starts an operation whose result is reported. -/
def opStartResult : UInt8 := 0x02

/-- Reports a result. -/
def opResult : UInt8 := 0x0C

/-- Stands for every operation type in an expected message. -/
def opAny : UInt8 := 0xFF

/-! ## Parameters -/

/-- The speed of an I2C port. -/
inductive I2cSpeed
  | slow | fast
  deriving DecidableEq, Repr

/-- How a document writes a speed. -/
def I2cSpeed.keywords : Keywords I2cSpeed := [("SlowMode", .slow), ("FastMode", .fast)]

/-- The byte a speed is sent as. -/
def I2cSpeed.code : I2cSpeed → UInt8
  | slow => 0
  | fast => 1

/-- How the blocks of an I2C transfer follow each other. -/
inductive I2cMode
  | default | repeatedStart | burst
  deriving DecidableEq, Repr

/-- How a document writes a transfer mode. -/
def I2cMode.keywords : Keywords I2cMode :=
  [("Default", .default), ("RepeatedStart", .repeatedStart), ("BurstMode", .burst)]

/-- The byte a mode is sent as. -/
def I2cMode.code : I2cMode → UInt8
  | default => 0
  | repeatedStart => 1
  | burst => 2

/-- A 16-bit value as two bytes, the high one first. -/
def wordBytes (n : UInt16) : List UInt8 :=
  [UInt8.ofNat (n.toNat / 256), UInt8.ofNat (n.toNat % 256)]

/-- The handle of the general-purpose port. -/
def gpioHandle : List UInt8 := [0x1D, 0x00]

/-- The handle of the I2C port. -/
def i2cHandle : List UInt8 := [0x0F, 0x00]

/-! ## Actions -/

/-- One thing a script does, with its parameters. -/
inductive Action
  /-- A freely composed message, and the operation type of its answer. -/
  | send (message : ControlMessage) (responseOpType : UInt8)
  | gpioPortCreate (debounceTime : UInt16)
  | gpioPortPinMode (configuration : List UInt8)
  | gpioPinState (mask data : UInt16)
  | i2cPortCreate (speed : I2cSpeed)
  | i2cPortWrite (mode : I2cMode) (blockCount address : UInt8) (timeout : UInt16)
      (data : List UInt8)
  | i2cPortRead (address length : UInt8) (timeout : UInt16)
  deriving DecidableEq, Repr

/-- A request to the node's own controller. -/
def controllerRequest (functionId : UInt16) (payload : List UInt8) : ControlMessage :=
  ⟨0, 0, functionId, opStartResult, payload⟩

namespace Action

/-- The message that starts an action. -/
def command : Action → ControlMessage
  | send message _ => message
  | gpioPortCreate debounceTime => controllerRequest 0x701 (0 :: wordBytes debounceTime)
  | gpioPortPinMode configuration => controllerRequest 0x703 (gpioHandle ++ configuration)
  | gpioPinState mask data =>
    controllerRequest 0x704 (gpioHandle ++ wordBytes mask ++ wordBytes data)
  | i2cPortCreate speed => controllerRequest 0x6C1 [0, 0, speed.code]
  | i2cPortWrite mode blockCount address timeout data =>
    controllerRequest 0x6C4
      (i2cHandle ++ [mode.code, blockCount, address] ++ wordBytes timeout ++
        [UInt8.ofNat data.length] ++ data)
  | i2cPortRead address length timeout =>
    controllerRequest 0x6C3 (i2cHandle ++ [address, length] ++ wordBytes timeout)

/-- The operation type of the message that completes an action. -/
def answerOpType : Action → UInt8
  | send _ responseOpType => responseOpType
  | _ => opResult

/-- The message that completes an action: the same function, any payload. -/
def expected (a : Action) : ControlMessage :=
  { a.command with opType := a.answerOpType, payload := [] }

/-! ## Reading -/

/-- Reads a freely composed message. -/
def readSend (e : Element) : Except CompileError Action := do
  let fblockId ← e.byte Schema.fblockId
  let instanceId ← e.byte? Schema.instanceId
  let functionId ← e.word Schema.functionId
  let opType ← e.byte Schema.opTypeRequest
  let payload ← e.payload? Schema.payloadHex
  let responseOpType ← e.byte? Schema.opTypeResponse
  return send ⟨fblockId, instanceId.getD 0, functionId, opType, payload.getD []⟩
    (responseOpType.getD opAny)

/-- Reads a pin configuration, which takes two bytes for a pin. -/
def readPinMode (e : Element) : Except CompileError Action := do
  let configuration ← e.payload Schema.pinConfiguration
  if configuration.length % 2 = 0 then
    return gpioPortPinMode configuration
  else
    .error (e.invalid Schema.pinConfiguration
      ((e.attribute? Schema.pinConfiguration).getD ""))

/-- Reads a write of at most 255 bytes. -/
def readI2cWrite (e : Element) : Except CompileError Action := do
  let mode ← e.keyword Schema.mode I2cMode.keywords
  let blockCount ← e.byte? Schema.blockCount
  let address ← e.byte Schema.address
  let timeout ← e.word Schema.timeout
  let data ← e.payload Schema.payloadHex
  if data.length ≤ 255 then
    return i2cPortWrite mode (blockCount.getD 0) address timeout data
  else
    .error (.outOfRange e.name Schema.payloadHex s!"{Text.decimal data.length} bytes" 255 e.line)

/-- The action an element describes. -/
def ofElement (e : Element) : Except CompileError Action :=
  if e.name = Schema.msgSend then readSend e
  else if e.name = Schema.gpioPortCreate then do
    let debounceTime ← e.word Schema.debounceTime
    return gpioPortCreate debounceTime
  else if e.name = Schema.gpioPortPinMode then readPinMode e
  else if e.name = Schema.gpioPinState then do
    let mask ← e.word Schema.mask
    let data ← e.word Schema.data
    return gpioPinState mask data
  else if e.name = Schema.i2cPortCreate then do
    let speed ← e.keyword Schema.speed I2cSpeed.keywords
    return i2cPortCreate speed
  else if e.name = Schema.i2cPortWrite then readI2cWrite e
  else if e.name = Schema.i2cPortRead then do
    let address ← e.byte Schema.address
    let length ← e.byte Schema.length
    let timeout ← e.word Schema.timeout
    return i2cPortRead address length timeout
  else .error (.shape (.unknownAction e.name) e.line)

end Action

end MediaNetwork

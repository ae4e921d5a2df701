/-
  Messages to the controller can be read back: no two actions are sent alike.

  1. Codes: a byte stands for at most one speed and one transfer mode, and two bytes for one 16-bit
     value (`wordOf_wordBytes`).
  2. `Action.decode?` reads an action from the function and the payload of its message.  It finds
     every action whose data fit the byte for their length (`decode?_command`), so their messages
     determine them (`eq_of_command_eq`).
  3. `Action.Describes` says which parameters the attributes of an element are, and an element of
     the controller's actions is accepted exactly as what it describes (`ofElement_eq_ok`).
  4. `Action.SameParameters` says that two elements have the same tag and the same values.  They
     have if they describe the same action, and then only.

  The length of the data of a write is one byte of its payload, so the message of more than 255
  bytes would lie about it.  That none is accepted is a field of `Describes`, and what
  `decode?_command` stands on.
-/
import MediaNetwork.Proofs.Outcome
import MediaNetwork.Script.Action

namespace MediaNetwork

open MediaNetwork.Markup MediaNetwork.Outcome

/-! ## Codes -/

/-- The speed that a byte is sent for. -/
def I2cSpeed.ofCode? (b : UInt8) : Option I2cSpeed := [slow, fast].find? fun s => s.code == b

theorem I2cSpeed.ofCode?_code (s : I2cSpeed) : ofCode? s.code = some s := by
  cases s <;> rfl

/-- The transfer mode that a byte is sent for. -/
def I2cMode.ofCode? (b : UInt8) : Option I2cMode :=
  [default, repeatedStart, burst].find? fun m => m.code == b

theorem I2cMode.ofCode?_code (m : I2cMode) : ofCode? m.code = some m := by
  cases m <;> rfl

/-- The 16-bit value of two bytes, the high one first. -/
def wordOf (high low : UInt8) : UInt16 := UInt16.ofNat (256 * high.toNat + low.toNat)

/-- A word is read back from its bytes. -/
theorem wordOf_wordBytes (n : UInt16) :
    wordOf (UInt8.ofNat (n.toNat / 256)) (UInt8.ofNat (n.toNat % 256)) = n := by
  have hhigh : n.toNat / 256 < 256 := Nat.div_lt_of_lt_mul n.toNat_lt
  have hlow : n.toNat % 256 < 256 := Nat.mod_lt _ (by decide)
  unfold wordOf
  rw [UInt8.toNat_ofNat_of_lt' hhigh, UInt8.toNat_ofNat_of_lt' hlow, Nat.div_add_mod,
    UInt16.ofNat_toNat]

/-! ## Reading a message back -/

namespace Action

/-- The action that a message to the controller starts, by its function and its payload. -/
def decode? : UInt16 → List UInt8 → Option Action
  | 0x701, [0, high, low] => some (gpioPortCreate (wordOf high low))
  | 0x703, 0x1D :: 0x00 :: configuration => some (gpioPortPinMode configuration)
  | 0x704, [0x1D, 0x00, maskHigh, maskLow, dataHigh, dataLow] =>
    some (gpioPinState (wordOf maskHigh maskLow) (wordOf dataHigh dataLow))
  | 0x6C1, [0, 0, speed] => (I2cSpeed.ofCode? speed).map i2cPortCreate
  | 0x6C4, 0x0F :: 0x00 :: mode :: blockCount :: address :: high :: low :: length :: data =>
    if data.length = length.toNat then
      (I2cMode.ofCode? mode).map fun mode =>
        i2cPortWrite mode blockCount address (wordOf high low) data
    else none
  | 0x6C3, [0x0F, 0x00, address, length, high, low] =>
    some (i2cPortRead address length (wordOf high low))
  | _, _ => none

/-- A request to the controller whose data fit the byte for their length. -/
def Sendable : Action → Prop
  | send _ _ => False
  | i2cPortWrite _ _ _ _ data => data.length ≤ 255
  | _ => True

/-- **Reading back** finds the action that was sent. -/
theorem decode?_command {a : Action} (ha : a.Sendable) :
    decode? a.command.functionId a.command.payload = some a := by
  cases a with
  | send message responseOpType => exact ha.elim
  | gpioPortCreate debounceTime =>
    simp only [command, controllerRequest, wordBytes, decode?, wordOf_wordBytes]
  | gpioPortPinMode configuration => rfl
  | gpioPinState mask data =>
    simp only [command, controllerRequest, gpioHandle, wordBytes, List.cons_append,
      List.nil_append, decode?, wordOf_wordBytes]
  | i2cPortCreate speed =>
    simp only [command, controllerRequest, decode?, I2cSpeed.ofCode?_code, Option.map_some]
  | i2cPortWrite mode blockCount address timeout data =>
    have hlength : (UInt8.ofNat data.length).toNat = data.length :=
      UInt8.toNat_ofNat_of_lt' (Nat.lt_succ_of_le ha)
    simp only [command, controllerRequest, i2cHandle, wordBytes, List.cons_append,
      List.nil_append, decode?, hlength, if_true, I2cMode.ofCode?_code, Option.map_some,
      wordOf_wordBytes]
  | i2cPortRead address length timeout =>
    simp only [command, controllerRequest, i2cHandle, wordBytes, List.cons_append,
      List.nil_append, decode?, wordOf_wordBytes]

/-- Different actions are sent as different messages. -/
theorem eq_of_command_eq {a a' : Action} (ha : a.Sendable) (ha' : a'.Sendable)
    (h : a.command = a'.command) : a = a' := by
  have hdecode := decode?_command ha
  rw [h, decode?_command ha'] at hdecode
  exact (Option.some.inj hdecode).symm

/-- The answer to a request comes from where the request went. -/
theorem expected_eq {a : Action} (ha : a.Sendable) : a.expected =
    ⟨a.command.fblockId, a.command.instanceId, a.command.functionId, opResult, []⟩ := by
  cases a with
  | send message responseOpType => exact ha.elim
  | _ => rfl

/-! ## Elements -/

/-- The tags of the actions of the node's own controller. -/
def controllerTags : List String :=
  [Schema.gpioPortCreate, Schema.gpioPortPinMode, Schema.gpioPinState, Schema.i2cPortCreate,
    Schema.i2cPortWrite, Schema.i2cPortRead]

/-- A byte that is zero where its attribute is absent. -/
def byteOrZero (e : Element) (key : String) : Except CompileError UInt8 :=
  (e.byte? key).map fun b => b.getD 0

/-- The element has the tag of the action, and its attributes are read as the parameters. -/
inductive Describes (e : Element) : Action → Prop
  | gpioPortCreate {debounceTime : UInt16} (tag : e.name = Schema.gpioPortCreate)
      (hdebounce : e.word Schema.debounceTime = .ok debounceTime) :
      Describes e (.gpioPortCreate debounceTime)
  | gpioPortPinMode {configuration : List UInt8} (tag : e.name = Schema.gpioPortPinMode)
      (hconfiguration : e.payload Schema.pinConfiguration = .ok configuration)
      (heven : configuration.length % 2 = 0) : Describes e (.gpioPortPinMode configuration)
  | gpioPinState {mask data : UInt16} (tag : e.name = Schema.gpioPinState)
      (hmask : e.word Schema.mask = .ok mask) (hdata : e.word Schema.data = .ok data) :
      Describes e (.gpioPinState mask data)
  | i2cPortCreate {speed : I2cSpeed} (tag : e.name = Schema.i2cPortCreate)
      (hspeed : e.keyword Schema.speed I2cSpeed.keywords = .ok speed) :
      Describes e (.i2cPortCreate speed)
  | i2cPortWrite {mode : I2cMode} {blockCount address : UInt8} {timeout : UInt16}
      {data : List UInt8} (tag : e.name = Schema.i2cPortWrite)
      (hmode : e.keyword Schema.mode I2cMode.keywords = .ok mode)
      (hblocks : byteOrZero e Schema.blockCount = .ok blockCount)
      (haddress : e.byte Schema.address = .ok address)
      (htimeout : e.word Schema.timeout = .ok timeout)
      (hdata : e.payload Schema.payloadHex = .ok data) (hfits : data.length ≤ 255) :
      Describes e (.i2cPortWrite mode blockCount address timeout data)
  | i2cPortRead {address length : UInt8} {timeout : UInt16} (tag : e.name = Schema.i2cPortRead)
      (haddress : e.byte Schema.address = .ok address)
      (hlength : e.byte Schema.length = .ok length)
      (htimeout : e.word Schema.timeout = .ok timeout) :
      Describes e (.i2cPortRead address length timeout)

variable {e e' : Element} {a a' : Action}

/-- What an element describes can be sent; the limit on the data is checked on reading. -/
theorem Describes.sendable (h : Describes e a) : a.Sendable := by
  cases h with
  | i2cPortWrite tag hmode hblocks haddress htimeout hdata hfits => exact hfits
  | _ => trivial

theorem readPinMode_eq_ok : readPinMode e = .ok a ↔
    ∃ configuration, e.payload Schema.pinConfiguration = .ok configuration ∧
      configuration.length % 2 = 0 ∧ a = gpioPortPinMode configuration := by
  unfold readPinMode
  simp only [bind_eq_ok]
  refine exists_congr fun configuration => and_congr_right fun _ => ?_
  split
  · rename_i heven
    simp [heven, eq_comm]
  · rename_i hodd
    simp [hodd]

theorem readI2cWrite_eq_ok : readI2cWrite e = .ok a ↔
    ∃ mode blockCount address timeout data,
      e.keyword Schema.mode I2cMode.keywords = .ok mode ∧
      byteOrZero e Schema.blockCount = .ok blockCount ∧
      e.byte Schema.address = .ok address ∧ e.word Schema.timeout = .ok timeout ∧
      e.payload Schema.payloadHex = .ok data ∧ data.length ≤ 255 ∧
      a = i2cPortWrite mode blockCount address timeout data := by
  unfold readI2cWrite
  simp only [bind_eq_ok]
  constructor
  · rintro ⟨mode, hmode, blockCount?, hblocks, address, haddress, timeout, htimeout, data, hdata,
      h⟩
    split at h
    · rename_i hfits
      cases h
      exact ⟨mode, _, address, timeout, data, hmode, map_eq_ok.mpr ⟨blockCount?, hblocks, rfl⟩,
        haddress, htimeout, hdata, hfits, rfl⟩
    · nomatch h
  · rintro ⟨mode, blockCount, address, timeout, data, hmode, hblocks, haddress, htimeout, hdata,
      hfits, rfl⟩
    obtain ⟨blockCount?, hbyte, rfl⟩ := map_eq_ok.mp hblocks
    refine ⟨mode, hmode, blockCount?, hbyte, address, haddress, timeout, htimeout, data, hdata, ?_⟩
    rw [if_pos hfits]
    rfl

/-- What is accepted is described. -/
theorem describes_of_ofElement (htag : e.name ∈ controllerTags) (h : ofElement e = .ok a) :
    Describes e a := by
  -- of the seven tags one is not the controller's own
  have hsend : e.name ≠ Schema.msgSend := by
    intro hname
    rw [hname] at htag
    exact absurd htag (by decide)
  unfold ofElement at h
  rw [if_neg hsend] at h
  split at h
  · rename_i tag
    obtain ⟨debounceTime, hdebounce, h⟩ := bind_eq_ok.mp h
    cases h
    exact .gpioPortCreate tag hdebounce
  split at h
  · rename_i tag
    obtain ⟨configuration, hconfiguration, heven, rfl⟩ := readPinMode_eq_ok.mp h
    exact .gpioPortPinMode tag hconfiguration heven
  split at h
  · rename_i tag
    obtain ⟨mask, hmask, h⟩ := bind_eq_ok.mp h
    obtain ⟨data, hdata, h⟩ := bind_eq_ok.mp h
    cases h
    exact .gpioPinState tag hmask hdata
  split at h
  · rename_i tag
    obtain ⟨speed, hspeed, h⟩ := bind_eq_ok.mp h
    cases h
    exact .i2cPortCreate tag hspeed
  split at h
  · rename_i tag
    obtain ⟨mode, blockCount, address, timeout, data, hmode, hblocks, haddress, htimeout, hdata,
      hfits, rfl⟩ := readI2cWrite_eq_ok.mp h
    exact .i2cPortWrite tag hmode hblocks haddress htimeout hdata hfits
  split at h
  · rename_i tag
    obtain ⟨address, haddress, h⟩ := bind_eq_ok.mp h
    obtain ⟨length, hlength, h⟩ := bind_eq_ok.mp h
    obtain ⟨timeout, htimeout, h⟩ := bind_eq_ok.mp h
    cases h
    exact .i2cPortRead tag haddress hlength htimeout
  · nomatch h

/-- What is described is accepted. -/
theorem Describes.ofElement (h : Describes e a) : ofElement e = .ok a := by
  unfold Action.ofElement
  cases h with
  | gpioPortCreate tag hdebounce =>
    rw [tag, hdebounce]
    rfl
  | gpioPortPinMode tag hconfiguration heven =>
    rw [tag, ← readPinMode_eq_ok.mpr ⟨_, hconfiguration, heven, rfl⟩]
    rfl
  | gpioPinState tag hmask hdata =>
    rw [tag, hmask, hdata]
    rfl
  | i2cPortCreate tag hspeed =>
    rw [tag, hspeed]
    rfl
  | i2cPortWrite tag hmode hblocks haddress htimeout hdata hfits =>
    rw [tag, ← readI2cWrite_eq_ok.mpr ⟨_, _, _, _, _, hmode, hblocks, haddress, htimeout, hdata,
      hfits, rfl⟩]
    rfl
  | i2cPortRead tag haddress hlength htimeout =>
    rw [tag, haddress, hlength, htimeout]
    rfl

/-- **Elements**: an element with such a tag is read as what it describes, and as nothing else. -/
theorem ofElement_eq_ok (htag : e.name ∈ controllerTags) : ofElement e = .ok a ↔ Describes e a :=
  ⟨describes_of_ofElement htag, Describes.ofElement⟩

/-- A write of more bytes than the byte for their number can tell is refused. -/
theorem not_succeeds_of_long (tag : e.name = Schema.i2cPortWrite) {data : List UInt8}
    (hdata : e.payload Schema.payloadHex = .ok data) (hlong : 255 < data.length) :
    ¬ Succeeds (ofElement e) := by
  rintro ⟨a, ha⟩
  have hread : readI2cWrite e = .ok a := by
    rw [← ha]
    unfold ofElement
    rw [tag]
    rfl
  obtain ⟨-, -, -, -, data', -, -, -, -, hdata', hfits, -⟩ := readI2cWrite_eq_ok.mp hread
  rw [hdata] at hdata'
  cases hdata'
  omega

/-! ## Elements that say the same -/

/-- Two elements have the same tag, and the attributes that this tag asks for have the same
    values. -/
structure SameParameters (e e' : Element) : Prop where
  tag : e.name = e'.name
  gpioPortCreate : e.name = Schema.gpioPortCreate →
    e.word Schema.debounceTime = e'.word Schema.debounceTime
  gpioPortPinMode : e.name = Schema.gpioPortPinMode →
    e.payload Schema.pinConfiguration = e'.payload Schema.pinConfiguration
  gpioPinState : e.name = Schema.gpioPinState →
    e.word Schema.mask = e'.word Schema.mask ∧ e.word Schema.data = e'.word Schema.data
  i2cPortCreate : e.name = Schema.i2cPortCreate →
    e.keyword Schema.speed I2cSpeed.keywords = e'.keyword Schema.speed I2cSpeed.keywords
  i2cPortWrite : e.name = Schema.i2cPortWrite →
    e.keyword Schema.mode I2cMode.keywords = e'.keyword Schema.mode I2cMode.keywords ∧
    byteOrZero e Schema.blockCount = byteOrZero e' Schema.blockCount ∧
    e.byte Schema.address = e'.byte Schema.address ∧
    e.word Schema.timeout = e'.word Schema.timeout ∧
    e.payload Schema.payloadHex = e'.payload Schema.payloadHex
  i2cPortRead : e.name = Schema.i2cPortRead →
    e.byte Schema.address = e'.byte Schema.address ∧
    e.byte Schema.length = e'.byte Schema.length ∧
    e.word Schema.timeout = e'.word Schema.timeout

/-- Elements that describe the same action say the same. -/
theorem Describes.same (h : Describes e a) (h' : Describes e' a) : SameParameters e e' := by
  -- the same constructor describes both; what the other tags ask for does not apply to this one
  cases h with
  | gpioPortCreate tag hdebounce =>
    cases h' with
    | gpioPortCreate tag' hdebounce' =>
      refine ⟨tag.trans tag'.symm, fun _ => hdebounce.trans hdebounce'.symm, ?_, ?_, ?_, ?_, ?_⟩
      all_goals exact fun hname => absurd (tag.symm.trans hname) (by decide)
  | gpioPortPinMode tag hconfiguration =>
    cases h' with
    | gpioPortPinMode tag' hconfiguration' =>
      refine ⟨tag.trans tag'.symm, ?_, fun _ => hconfiguration.trans hconfiguration'.symm, ?_, ?_,
        ?_, ?_⟩
      all_goals exact fun hname => absurd (tag.symm.trans hname) (by decide)
  | gpioPinState tag hmask hdata =>
    cases h' with
    | gpioPinState tag' hmask' hdata' =>
      refine ⟨tag.trans tag'.symm, ?_, ?_,
        fun _ => ⟨hmask.trans hmask'.symm, hdata.trans hdata'.symm⟩, ?_, ?_, ?_⟩
      all_goals exact fun hname => absurd (tag.symm.trans hname) (by decide)
  | i2cPortCreate tag hspeed =>
    cases h' with
    | i2cPortCreate tag' hspeed' =>
      refine ⟨tag.trans tag'.symm, ?_, ?_, ?_, fun _ => hspeed.trans hspeed'.symm, ?_, ?_⟩
      all_goals exact fun hname => absurd (tag.symm.trans hname) (by decide)
  | i2cPortWrite tag hmode hblocks haddress htimeout hdata =>
    cases h' with
    | i2cPortWrite tag' hmode' hblocks' haddress' htimeout' hdata' =>
      refine ⟨tag.trans tag'.symm, ?_, ?_, ?_, ?_,
        fun _ => ⟨hmode.trans hmode'.symm, hblocks.trans hblocks'.symm,
          haddress.trans haddress'.symm, htimeout.trans htimeout'.symm, hdata.trans hdata'.symm⟩,
        ?_⟩
      all_goals exact fun hname => absurd (tag.symm.trans hname) (by decide)
  | i2cPortRead tag haddress hlength htimeout =>
    cases h' with
    | i2cPortRead tag' haddress' hlength' htimeout' =>
      refine ⟨tag.trans tag'.symm, ?_, ?_, ?_, ?_, ?_, fun _ => ⟨haddress.trans haddress'.symm,
        hlength.trans hlength'.symm, htimeout.trans htimeout'.symm⟩⟩
      all_goals exact fun hname => absurd (tag.symm.trans hname) (by decide)

/-- An element that says the same describes the same action. -/
theorem SameParameters.describes (h : SameParameters e e') (ha : Describes e a) :
    Describes e' a := by
  cases ha with
  | gpioPortCreate tag hdebounce =>
    exact .gpioPortCreate (h.tag.symm.trans tag) ((h.gpioPortCreate tag).symm.trans hdebounce)
  | gpioPortPinMode tag hconfiguration heven =>
    exact .gpioPortPinMode (h.tag.symm.trans tag)
      ((h.gpioPortPinMode tag).symm.trans hconfiguration) heven
  | gpioPinState tag hmask hdata =>
    obtain ⟨hsameMask, hsameData⟩ := h.gpioPinState tag
    exact .gpioPinState (h.tag.symm.trans tag) (hsameMask.symm.trans hmask)
      (hsameData.symm.trans hdata)
  | i2cPortCreate tag hspeed =>
    exact .i2cPortCreate (h.tag.symm.trans tag) ((h.i2cPortCreate tag).symm.trans hspeed)
  | i2cPortWrite tag hmode hblocks haddress htimeout hdata hfits =>
    obtain ⟨hsameMode, hsameBlocks, hsameAddress, hsameTimeout, hsameData⟩ := h.i2cPortWrite tag
    exact .i2cPortWrite (h.tag.symm.trans tag) (hsameMode.symm.trans hmode)
      (hsameBlocks.symm.trans hblocks) (hsameAddress.symm.trans haddress)
      (hsameTimeout.symm.trans htimeout) (hsameData.symm.trans hdata) hfits
  | i2cPortRead tag haddress hlength htimeout =>
    obtain ⟨hsameAddress, hsameLength, hsameTimeout⟩ := h.i2cPortRead tag
    exact .i2cPortRead (h.tag.symm.trans tag) (hsameAddress.symm.trans haddress)
      (hsameLength.symm.trans hlength) (hsameTimeout.symm.trans htimeout)

/-! ## Payloads -/

/-- The message of a write has its data at the end, and their number just before. -/
theorem Describes.write_payload (h : Describes e a) (tag : e.name = Schema.i2cPortWrite) :
    ∃ data, e.payload Schema.payloadHex = .ok data ∧
      a.command.payload.length = 8 + data.length ∧
      a.command.payload.drop 8 = data ∧
      ∃ length, a.command.payload[7]? = some length ∧ length.toNat = data.length := by
  cases h with
  | @i2cPortWrite _ _ _ _ data _ _ _ _ _ hdata hfits =>
    refine ⟨data, hdata, ?_, rfl, UInt8.ofNat data.length, rfl,
      UInt8.toNat_ofNat_of_lt' (Nat.lt_succ_of_le hfits)⟩
    exact Nat.add_comm data.length 8
  | _ tag' => exact absurd (tag'.symm.trans tag) (by decide)

/-- The message of a pin configuration has two bytes for each pin behind the handle. -/
theorem Describes.pinMode_payload (h : Describes e a) (tag : e.name = Schema.gpioPortPinMode) :
    a.command.payload.length % 2 = 0 := by
  cases h with
  | @gpioPortPinMode configuration _ _ heven =>
    have hlength : (Action.gpioPortPinMode configuration).command.payload.length =
        configuration.length + 2 := rfl
    omega
  | _ tag' => exact absurd (tag'.symm.trans tag) (by decide)

/-- **Messages to the controller determine actions.**  For two accepted elements of the
    controller's actions, the messages are equal exactly if the elements say the same.  Both
    messages are read back by function and payload as what the elements describe; the data of a
    write stand at the end of its payload with their number before them, where more data than the
    number can tell are refused; pin configurations have two bytes a pin; and the answer is any
    result of the same function from the same place. -/
theorem commands_decodable {e e' : Element} {a a' : Action} (htag : e.name ∈ controllerTags)
    (htag' : e'.name ∈ controllerTags) (h : ofElement e = .ok a) (h' : ofElement e' = .ok a') :
    (a.command = a'.command ↔ SameParameters e e') ∧
    (decode? a.command.functionId a.command.payload = some a ∧ Describes e a) ∧
    (e.name = Schema.i2cPortWrite → ∃ data, e.payload Schema.payloadHex = .ok data ∧
      a.command.payload.length = 8 + data.length ∧ a.command.payload.drop 8 = data ∧
      ∃ length, a.command.payload[7]? = some length ∧ length.toNat = data.length) ∧
    (∀ w : Element, w.name = Schema.i2cPortWrite → ∀ data, w.payload Schema.payloadHex = .ok data →
      255 < data.length → ¬ Succeeds (ofElement w)) ∧
    (e.name = Schema.gpioPortPinMode → a.command.payload.length % 2 = 0) ∧
    a.expected =
      ⟨a.command.fblockId, a.command.instanceId, a.command.functionId, opResult, []⟩ := by
  have hdescribes : Describes e a := (ofElement_eq_ok htag).mp h
  have hdescribes' : Describes e' a' := (ofElement_eq_ok htag').mp h'
  refine ⟨⟨fun hcommand => ?_, fun hsame => ?_⟩,
    ⟨decode?_command hdescribes.sendable, hdescribes⟩, hdescribes.write_payload,
    fun w tag data => not_succeeds_of_long tag, hdescribes.pinMode_payload,
    expected_eq hdescribes.sendable⟩
  · have ha : a = a' := eq_of_command_eq hdescribes.sendable hdescribes'.sendable hcommand
    exact hdescribes.same (ha ▸ hdescribes')
  · have haction : ofElement e' = .ok a := (hsame.describes hdescribes).ofElement
    rw [h'] at haction
    rw [Except.ok.inj haction]

/-- A write of three bytes, with or without a number of blocks. -/
def threeByteWrite (blockCount : List (String × String)) (line : Nat) : Element :=
  ⟨"I2CPortWrite", [("Mode", "BurstMode"), ("Address", "0x2A"), ("Timeout", "300"),
    ("PayloadHex", "01 02 FF")] ++ blockCount, [], line⟩

/-- Without a number of blocks a write says the same as with zero, and not the same as with one. -/
theorem commands_decodable_threeByteWrite :
    SameParameters (threeByteWrite [] 1) (threeByteWrite [("BlockCount", "0x00")] 2) ∧
    ¬ SameParameters (threeByteWrite [] 1) (threeByteWrite [("BlockCount", "1")] 3) ∧
    decode? 0x6C4 [0x0F, 0x00, 0x02, 0x00, 0x2A, 0x01, 0x2C, 0x03, 0x01, 0x02, 0xFF] =
      some (i2cPortWrite .burst 0 0x2A 300 [0x01, 0x02, 0xFF]) := by
  have habsent : ofElement (threeByteWrite [] 1) =
      .ok (i2cPortWrite .burst 0 0x2A 300 [0x01, 0x02, 0xFF]) := by
    decide +kernel
  have hzero : ofElement (threeByteWrite [("BlockCount", "0x00")] 2) =
      .ok (i2cPortWrite .burst 0 0x2A 300 [0x01, 0x02, 0xFF]) := by
    decide +kernel
  have hone : ofElement (threeByteWrite [("BlockCount", "1")] 3) =
      .ok (i2cPortWrite .burst 1 0x2A 300 [0x01, 0x02, 0xFF]) := by
    decide +kernel
  have hsame := commands_decodable (by decide) (by decide) habsent hzero
  have hdiffer := commands_decodable (by decide) (by decide) habsent hone
  exact ⟨hsame.1.mp rfl, fun h => absurd (hdiffer.1.mpr h) (by decide), hsame.2.1.1⟩

end Action

end MediaNetwork

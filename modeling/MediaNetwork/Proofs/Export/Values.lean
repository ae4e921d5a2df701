/-
  An export loses nothing.

  1. Parts — numbers of a width, absent values and lists are told by their JSON values, and so are
     the cases of every type without data: no two have the same name (`toJson_inj` of each).
  2. Records — a record is told by its fields, if each field is told by its value; a case with data
     by its name and its fields.
  3. Texts — a value is told by its text (`Json.pretty_inj`), so a configuration is, and a script
     (`exportText_inj`).

  Every `toJson_inj` rests on those of the fields, in the order in which the types are built.
-/
import MediaNetwork.Export
import MediaNetwork.Proofs.Export.Writing

namespace MediaNetwork

/-! ## Numbers, absent values and lists -/

namespace Json

@[simp] theorem byte_inj {a b : UInt8} : byte a = byte b ↔ a = b := by
  rw [byte, byte, nat.injEq, UInt8.toNat_inj]

@[simp] theorem word_inj {a b : UInt16} : word a = word b ↔ a = b := by
  rw [word, word, nat.injEq, UInt16.toNat_inj]

@[simp] theorem tagged_inj {name name' : String} {fields fields' : List (String × Json)} :
    tagged name fields = tagged name' fields' ↔ name = name' ∧ fields = fields' := by
  simp [tagged]

section Containers

variable {α : Type} {f : α → Json} (hf : ∀ {a b : α}, f a = f b ↔ a = b)

include hf

/-- A value that is never null is told from its absence. -/
theorem ofOption_inj (hnull : ∀ a, f a ≠ null) {x y : Option α} :
    ofOption f x = ofOption f y ↔ x = y := by
  cases x with
  | none =>
    cases y with
    | none => simp
    | some b => simp [ofOption, (hnull b).symm]
  | some a =>
    cases y with
    | none => simp [ofOption, hnull a]
    | some b => simp [ofOption, hf]

theorem ofList_inj {l l' : List α} : ofList f l = ofList f l' ↔ l = l' := by
  rw [ofList, ofList, array.injEq, List.map_inj_right fun _ _ => hf.mp]

end Containers

@[simp] theorem ofOption_text_inj {x y : Option String} :
    ofOption text x = ofOption text y ↔ x = y :=
  ofOption_inj (by simp) (by simp)

@[simp] theorem ofOption_word_inj {x y : Option UInt16} :
    ofOption word x = ofOption word y ↔ x = y :=
  ofOption_inj word_inj (by simp [word])

end Json

/-! ## Handles -/

@[simp] theorem ResourceId.toJson_inj {x y : ResourceId} : x.toJson = y.toJson ↔ x = y := by
  cases x
  cases y
  simp [toJson]

@[simp] theorem EndpointId.toJson_inj {x y : EndpointId} : x.toJson = y.toJson ↔ x = y := by
  cases x
  cases y
  simp [toJson]

@[simp] theorem JobList.toJson_inj {x y : JobList} : x.toJson = y.toJson ↔ x = y := by
  cases x
  cases y
  simp [toJson, toList, Json.ofList_inj ResourceId.toJson_inj]

/-! ## Cases without data -/

@[simp] theorem PortOrigin.toJson_inj {x y : PortOrigin} : x.toJson = y.toJson ↔ x = y := by
  cases x <;> cases y <;> simp [toJson]

@[simp] theorem MlbClock.toJson_inj {x y : MlbClock} : x.toJson = y.toJson ↔ x = y := by
  cases x <;> cases y <;> simp [toJson]

@[simp] theorem UsbPhysicalLayer.toJson_inj {x y : UsbPhysicalLayer} :
    x.toJson = y.toJson ↔ x = y := by
  cases x <;> cases y <;> simp [toJson]

@[simp] theorem StreamPortIndex.toJson_inj {x y : StreamPortIndex} :
    x.toJson = y.toJson ↔ x = y := by
  cases x <;> cases y <;> simp [toJson]

@[simp] theorem StreamClock.toJson_inj {x y : StreamClock} : x.toJson = y.toJson ↔ x = y := by
  cases x <;> cases y <;> simp [toJson]

@[simp] theorem DataAlignment.toJson_inj {x y : DataAlignment} : x.toJson = y.toJson ↔ x = y := by
  cases x <;> cases y <;> simp [toJson]

@[simp] theorem Direction.toJson_inj {x y : Direction} : x.toJson = y.toJson ↔ x = y := by
  cases x <;> cases y <;> simp [toJson]

@[simp] theorem DataType.toJson_inj {x y : DataType} : x.toJson = y.toJson ↔ x = y := by
  cases x <;> cases y <;> simp [toJson]

@[simp] theorem StreamPin.toJson_inj {x y : StreamPin} : x.toJson = y.toJson ↔ x = y := by
  cases x <;> cases y <;> simp [toJson]

@[simp] theorem MuteMode.toJson_inj {x y : MuteMode} : x.toJson = y.toJson ↔ x = y := by
  cases x <;> cases y <;> simp [toJson]

@[simp] theorem IsocPacketSize.toJson_inj {x y : IsocPacketSize} : x.toJson = y.toJson ↔ x = y := by
  cases x <;> cases y <;> simp [toJson]

@[simp] theorem HostInterface.toJson_inj {x y : HostInterface} : x.toJson = y.toJson ↔ x = y := by
  cases x <;> cases y <;> simp [toJson]

@[simp] theorem ChannelDirection.toJson_inj {x y : ChannelDirection} :
    x.toJson = y.toJson ↔ x = y := by
  cases x <;> cases y <;> simp [toJson]

@[simp] theorem AlsaResolution.toJson_inj {x y : AlsaResolution} : x.toJson = y.toJson ↔ x = y := by
  cases x <;> cases y <;> simp [toJson]

@[simp] theorem EndpointKind.toJson_inj {x y : EndpointKind} : x.toJson = y.toJson ↔ x = y := by
  cases x <;> cases y <;> simp [toJson]

/-! ## Resources -/

@[simp] theorem PortKind.toJson_inj {x y : PortKind} : x.toJson = y.toJson ↔ x = y := by
  cases x with
  | network => cases y <;> simp [toJson, Json.tagged]
  | mediaLb clock => cases y <;> simp [toJson, Json.tagged]
  | usb settings =>
    cases settings
    cases y with
    | usb settings' =>
      cases settings'
      simp [toJson]
    | _ => simp [toJson, Json.tagged]
  | stream index settings =>
    cases settings
    cases y with
    | stream index' settings' =>
      cases settings'
      simp [toJson]
    | _ => simp [toJson, Json.tagged]

@[simp] theorem Port.toJson_inj {x y : Port} : x.toJson = y.toJson ↔ x = y := by
  cases x
  cases y
  simp [toJson]

@[simp] theorem RouteDecl.toJson_inj {x y : RouteDecl} : x.toJson = y.toJson ↔ x = y := by
  cases x
  cases y
  simp [toJson]

@[simp] theorem SocketKind.toJson_inj {x y : SocketKind} : x.toJson = y.toJson ↔ x = y := by
  cases x <;> cases y <;> simp [toJson]

@[simp] theorem Socket.toJson_inj {x y : Socket} : x.toJson = y.toJson ↔ x = y := by
  cases x
  cases y
  simp [toJson]

@[simp] theorem ConnectionKind.toJson_inj {x y : ConnectionKind} : x.toJson = y.toJson ↔ x = y := by
  cases x <;> cases y <;> simp [toJson]

@[simp] theorem Connection.toJson_inj {x y : Connection} : x.toJson = y.toJson ↔ x = y := by
  cases x
  cases y
  simp [toJson]

@[simp] theorem Splitter.toJson_inj {x y : Splitter} : x.toJson = y.toJson ↔ x = y := by
  cases x
  cases y
  simp [toJson]

@[simp] theorem Combiner.toJson_inj {x y : Combiner} : x.toJson = y.toJson ↔ x = y := by
  cases x
  cases y
  simp [toJson]

@[simp] theorem Resource.toJson_inj {x y : Resource} : x.toJson = y.toJson ↔ x = y := by
  cases x <;> cases y <;> simp [toJson]

@[simp] theorem Arena.toJson_inj {x y : Arena} : x.toJson = y.toJson ↔ x = y := by
  cases x
  cases y
  simp [toJson, toList, Json.ofList_inj Resource.toJson_inj]

/-! ## Scripts -/

@[simp] theorem ControlMessage.toJson_inj {x y : ControlMessage} : x.toJson = y.toJson ↔ x = y := by
  cases x
  cases y
  simp [toJson, Json.ofList_inj Json.byte_inj]

@[simp] theorem ScriptStep.toJson_inj {x y : ScriptStep} : x.toJson = y.toJson ↔ x = y := by
  cases x
  cases y
  simp [toJson]

@[simp] theorem Script.toJson_inj {x y : Script} : x.toJson = y.toJson ↔ x = y := by
  cases x
  cases y
  simp [toJson, Json.ofList_inj ScriptStep.toJson_inj]

/-! ## Drivers -/

@[simp] theorem BufferConfig.toJson_inj {x y : BufferConfig} : x.toJson = y.toJson ↔ x = y := by
  cases x
  cases y
  simp [toJson]

@[simp] theorem DriverBinding.toJson_inj {x y : DriverBinding} : x.toJson = y.toJson ↔ x = y := by
  obtain ⟨kind, name, buffers⟩ := x
  obtain ⟨kind', name', buffers'⟩ := y
  -- The fields of the kind are written after the others, so the equations come in another order.
  cases kind <;> cases kind' <;>
    simp [toJson, DeviceKind.tag, DeviceKind.fields, and_assoc, and_comm]

@[simp] theorem DriverRecord.toJson_inj {x y : DriverRecord} : x.toJson = y.toJson ↔ x = y := by
  cases x
  cases y
  simp [toJson, Json.ofOption_inj DriverBinding.toJson_inj fun _ => Json.noConfusion]

/-! ## Configurations -/

@[simp] theorem NodePorts.toJson_inj {x y : NodePorts} : x.toJson = y.toJson ↔ x = y := by
  have hport {p q : Option ResourceId} :
      Json.ofOption ResourceId.toJson p = Json.ofOption ResourceId.toJson q ↔ p = q :=
    Json.ofOption_inj ResourceId.toJson_inj fun _ => Json.noConfusion
  -- The stream ports of a node are written as a pair.
  have hpair {p q : Option (ResourceId × ResourceId)} :
      Json.ofOption (fun s => .array [s.1.toJson, s.2.toJson]) p =
        Json.ofOption (fun s => .array [s.1.toJson, s.2.toJson]) q ↔ p = q :=
    Json.ofOption_inj (by simp [Prod.ext_iff]) fun _ => Json.noConfusion
  cases x
  cases y
  simp [toJson, hport, hpair]

@[simp] theorem Node.toJson_inj {x y : Node} : x.toJson = y.toJson ↔ x = y := by
  cases x
  cases y
  simp [toJson, Json.ofOption_inj Script.toJson_inj fun _ => Json.noConfusion]

@[simp] theorem Endpoint.toJson_inj {x y : Endpoint} : x.toJson = y.toJson ↔ x = y := by
  cases x
  cases y
  simp [toJson]

@[simp] theorem Route.toJson_inj {x y : Route} : x.toJson = y.toJson ↔ x = y := by
  cases x
  cases y
  simp [toJson]

@[simp] theorem Configuration.toJson_inj {x y : Configuration} : x.toJson = y.toJson ↔ x = y := by
  cases x
  cases y
  simp [toJson, Json.ofList_inj Node.toJson_inj, Json.ofList_inj Endpoint.toJson_inj,
    Json.ofList_inj Route.toJson_inj, Json.ofList_inj DriverRecord.toJson_inj]

/-! ## Texts -/

/-- Two configurations of one text are the same, and so are two scripts. -/
theorem exportText_inj (c c' : Configuration) (s s' : Script) :
    (c.exportText = c'.exportText ↔ c = c') ∧ (s.exportText = s'.exportText ↔ s = s') := by
  constructor
  · rw [Configuration.exportText, Configuration.exportText, Json.pretty_inj,
      Configuration.toJson_inj]
  · rw [Script.exportText, Script.exportText, Json.pretty_inj, Script.toJson_inj]

end MediaNetwork

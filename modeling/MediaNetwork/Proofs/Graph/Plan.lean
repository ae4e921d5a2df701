/-
  Plans: what a node element asks for, apart from how it is written.

  A `NodePlan` holds the values of a node element, and `Builder.addPlan` is the builder on a plan.
  Other than on the element it cannot fail, so facts about a finished graph are inductions over
  plans:

  1. `Builder.Welcomes` says that a plan can be taken in, and `Built` is the builder after a list
     of plans taken in one after the other;
  2. a node element that is taken in is the plan that is read from it (`NodePlan.ReadFrom`), taken
     in whole (`addNode_plan`).
-/
import MediaNetwork.Connection.Node
import MediaNetwork.Proofs.Graph.Connect
import MediaNetwork.Proofs.Graph.Declared

namespace MediaNetwork

open MediaNetwork.Markup MediaNetwork.Outcome

/-- What a node element asks for. -/
structure NodePlan where
  address : UInt16
  /-- The script the node asks for. -/
  script : Option String
  ports : PortPlan
  connections : List ConnectionDecl

namespace Builder

/-! ## Declared ports -/

/-- Creates a declared MediaLB port. -/
def withMediaLb (b : Builder) (node : UInt16) : Option MlbClock → Builder
  | none => b
  | some clock =>
    let (id, b) := b.alloc (.port ⟨node, .declared, .mediaLb clock⟩)
    { b with ports := { b.ports with mediaLb := some id } }

/-- Creates a declared USB port. -/
def withUsb (b : Builder) (node : UInt16) : Option UsbSettings → Builder
  | none => b
  | some settings =>
    let (id, b) := b.alloc (.port ⟨node, .declared, .usb settings⟩)
    { b with ports := { b.ports with usb := some id } }

/-- Creates both halves of a declared stream port. -/
def withStream (b : Builder) (node : UInt16) : Option StreamSettings → Builder
  | none => b
  | some settings =>
    let (portA, b) := b.alloc (.port ⟨node, .declared, .stream .a settings⟩)
    let (portB, b) := b.alloc (.port ⟨node, .declared, .stream .b settings⟩)
    { b with ports := { b.ports with stream := some (portA, portB) } }

/-- Begins a node: no port but the declared ones. -/
def declare (b : Builder) (plan : NodePlan) : Builder :=
  ((({ b with ports := NodePorts.absent }).withMediaLb plan.address plan.ports.mediaLb).withUsb
    plan.address plan.ports.usb).withStream plan.address plan.ports.stream

/-- Declaring the ports of a node takes no link. -/
theorem links_declare (b : Builder) (plan : NodePlan) : (b.declare plan).links = b.links := by
  unfold declare
  cases plan.ports.mediaLb <;> cases plan.ports.usb <;> cases plan.ports.stream <;> rfl

/-- Takes in a whole node. -/
def addPlan (b : Builder) (plan : NodePlan) : Builder :=
  let b := plan.connections.foldl connect (b.declare plan)
  { b with nodes := b.nodes.push ⟨plan.address, plan.script, none, b.ports⟩ }

/-! ## Plans that can be taken in -/

/-- The connection can be created now: it belongs to the node, its stream sockets have a port, and
    no connection before it has its link. -/
def Accepts (node : UInt16) (b : Builder) (d : ConnectionDecl) : Prop :=
  d.node = node ∧ d.wiring.Fits b.ports.stream ∧ b.hasLink d.link = false

/-- The connections can be created one after the other. -/
def AcceptsAll (node : UInt16) : Builder → List ConnectionDecl → Prop
  | _, [] => True
  | b, d :: ds => b.Accepts node d ∧ AcceptsAll node (b.connect d) ds

/-- The node can be taken in: its address is free, and its connections can be created. -/
def Welcomes (b : Builder) (plan : NodePlan) : Prop :=
  (∀ n ∈ b.nodes.toList, n.address ≠ plan.address) ∧
    (b.declare plan).AcceptsAll plan.address plan.connections

/-- The builder after a list of plans, each of which could be taken in. -/
inductive Built : List NodePlan → Builder → Prop
  | empty : Built [] Builder.empty
  | node {plans : List NodePlan} {b : Builder} {plan : NodePlan} (before : Built plans b)
      (welcome : b.Welcomes plan) : Built (plans ++ [plan]) (b.addPlan plan)

/-! ## Reading a node is reading a plan -/

/-- The clock of the MediaLB port a node declares. -/
def readMediaLb (node : UInt16) (e : Element) : Except CompileError (Option MlbClock) := do
  match ← onlyChild node e Schema.mediaLbPort with
  | none => return none
  | some port =>
    let clock ← port.keyword Schema.clockConfig MlbClock.keywords
    return some clock

/-- The settings of the USB port a node declares. -/
def readUsb (node : UInt16) (e : Element) : Except CompileError (Option UsbSettings) := do
  match ← onlyChild node e Schema.usbPort with
  | none => return none
  | some port =>
    let settings ← readUsbSettings port
    return some settings

/-- The settings of the stream port a node declares. -/
def readStream (node : UInt16) (e : Element) : Except CompileError (Option StreamSettings) := do
  match ← onlyChild node e Schema.streamPort with
  | none => return none
  | some port =>
    let settings ← readStreamSettings port
    return some settings

/-- Whether an element declares connections. -/
def isConnection (e : Element) : Bool :=
  e.name == Schema.syncConnection || e.name == Schema.avpConnection

end Builder

/-- The declaration is what a connection element is read as, wherever it stands. -/
def ConnectionDecl.ReadAt (e : Element) (d : ConnectionDecl) : Prop :=
  ∃ site : Site, site.element = e ∧ ConnectionDecl.atSite site = .ok d

/-- The plan is what a node element is read as. -/
structure NodePlan.ReadFrom (e : Element) (plan : NodePlan) : Prop where
  address : e.word Schema.address = .ok plan.address
  script : plan.script = e.attribute? Schema.script
  mediaLb : Builder.readMediaLb plan.address e = .ok plan.ports.mediaLb
  usb : Builder.readUsb plan.address e = .ok plan.ports.usb
  stream : Builder.readStream plan.address e = .ok plan.ports.stream
  connections : List.Forall₂ ConnectionDecl.ReadAt (e.children.filter Builder.isConnection)
    plan.connections

namespace Builder

theorem declareMediaLb_eq (b : Builder) (node : UInt16) (e : Element) :
    b.declareMediaLb node e = (readMediaLb node e).map (b.withMediaLb node) := by
  unfold declareMediaLb readMediaLb
  rcases onlyChild node e Schema.mediaLbPort with fault | _ | port
  · rfl
  · rfl
  · simp only [ok_bind]
    cases port.keyword Schema.clockConfig MlbClock.keywords <;> rfl

theorem declareUsb_eq (b : Builder) (node : UInt16) (e : Element) :
    b.declareUsb node e = (readUsb node e).map (b.withUsb node) := by
  unfold declareUsb readUsb
  rcases onlyChild node e Schema.usbPort with fault | _ | port
  · rfl
  · rfl
  · simp only [ok_bind]
    cases readUsbSettings port <;> rfl

theorem declareStream_eq (b : Builder) (node : UInt16) (e : Element) :
    b.declareStream node e = (readStream node e).map (b.withStream node) := by
  unfold declareStream readStream
  rcases onlyChild node e Schema.streamPort with fault | _ | port
  · rfl
  · rfl
  · simp only [ok_bind]
    cases readStreamSettings port <;> rfl

/-- A connection that was read with the ports and links there are, and joined, can be created. -/
theorem accepts_of_join {b b' : Builder} {node : UInt16} {style : ConnectionStyle} {e : Element}
    {d : ConnectionDecl}
    (hd : ConnectionDecl.atSite ⟨e, node, b.ports.stream, style,
      b.hasLink (e.attribute? Schema.link)⟩ = .ok d)
    (h : b.join d = .ok b') : b.Accepts node d ∧ b' = b.connect d := by
  obtain ⟨hnode, hlink, hsane⟩ := ConnectionDecl.atSite_spec hd
  obtain ⟨hjoinable, hb'⟩ := join_eq_ok.mp h
  refine ⟨⟨hnode, ?_⟩, hb'⟩
  unfold Joinable at hjoinable
  cases hw : d.wiring with
  | plain input output =>
    rw [hw] at hsane hjoinable
    exact ⟨⟨hsane.1, hsane.2, hjoinable.1⟩, hjoinable.2⟩
  | fanOut input bytesPerFrame branches =>
    rw [hw] at hsane
    rw [hlink]
    exact hsane
  | fanIn bytesPerFrame branches output =>
    rw [hw] at hsane
    rw [hlink]
    exact hsane

/-- What can be created is joined. -/
theorem Accepts.join_eq {b : Builder} {node : UInt16} {d : ConnectionDecl}
    (h : b.Accepts node d) : b.join d = .ok (b.connect d) := by
  obtain ⟨-, hfits, hfree⟩ := h
  refine join_eq_ok.mpr ⟨?_, rfl⟩
  unfold Joinable
  cases hw : d.wiring with
  | plain input output =>
    rw [hw] at hfits
    exact ⟨hfits.2.2, hfree⟩
  | fanOut input bytesPerFrame branches => trivial
  | fanIn bytesPerFrame branches output => trivial

/-- The elements with a style are the connections. -/
theorem isConnection_iff {e : Element} :
    isConnection e = true ↔ ∃ style, ConnectionStyle.ofElement? e = some style := by
  unfold isConnection ConnectionStyle.ofElement?
  by_cases hsync : e.name = Schema.syncConnection
  · simp [hsync]
  · rw [if_neg hsync]
    by_cases havp : e.name = Schema.avpConnection
    · simp [havp]
    · simp [hsync, havp]

/-- No port is a connection. -/
theorem isConnection_of_isPort {e : Element} (h : isPort e = true) : isConnection e = false := by
  unfold isPort at h
  unfold isConnection
  rw [Bool.or_eq_true, Bool.or_eq_true] at h
  rcases h with (h | h) | h
  all_goals
    rw [beq_iff_eq.mp h]
    decide

/-- A child of a node is a port, or a connection that can be created and is. -/
theorem addNodeChild_spec {node : UInt16} {b b' : Builder} {e : Element}
    (h : addNodeChild node b e = .ok b') :
    (isConnection e = false ∧ b' = b) ∨
      (isConnection e = true ∧ ∃ d, d.ReadAt e ∧ b.Accepts node d ∧ b' = b.connect d) := by
  unfold addNodeChild at h
  split at h
  · rename_i hport
    cases h
    exact Or.inl ⟨isConnection_of_isPort hport, rfl⟩
  · split at h
    · rename_i hstyle
      obtain ⟨style, -, h⟩ := bind_eq_ok.mp h
      obtain ⟨d, hd, h⟩ := bind_eq_ok.mp h
      exact Or.inr ⟨isConnection_iff.mpr ⟨_, hstyle⟩, d, ⟨_, rfl, hd⟩, accepts_of_join hd h⟩
    · nomatch h

/-- The children of a node are a list of connections. -/
theorem foldlM_addNodeChild {node : UInt16} {es : List Element} {b b' : Builder}
    (h : es.foldlM (addNodeChild node) b = .ok b') :
    ∃ ds, b.AcceptsAll node ds ∧ b' = ds.foldl connect b ∧
      List.Forall₂ ConnectionDecl.ReadAt (es.filter isConnection) ds := by
  induction es generalizing b with
  | nil =>
    cases h
    exact ⟨[], trivial, rfl, List.Forall₂.nil⟩
  | cons e es ih =>
    rw [List.foldlM_cons] at h
    obtain ⟨c, hc, h⟩ := bind_eq_ok.mp h
    obtain ⟨ds, hds, hb', hread⟩ := ih h
    rw [List.filter_cons]
    rcases addNodeChild_spec hc with ⟨hport, rfl⟩ | ⟨hconnection, d, hd, haccepts, rfl⟩
    · rw [if_neg (by simp [hport])]
      exact ⟨ds, hds, hb', hread⟩
    · rw [if_pos hconnection]
      exact ⟨d :: ds, ⟨haccepts, hds⟩, hb', List.Forall₂.cons hd hread⟩

/-- Each port is declared with what was read of it, so the readings make up the ports of a plan,
    whatever its other parts are. -/
theorem declarePorts_plan {b b' : Builder} {address : UInt16} {e : Element}
    (h : ({ b with ports := NodePorts.absent } : Builder).declarePorts address e = .ok b') :
    ∃ ports : PortPlan, readMediaLb address e = .ok ports.mediaLb ∧
      readUsb address e = .ok ports.usb ∧ readStream address e = .ok ports.stream ∧
      ∀ script connections, b' = b.declare ⟨address, script, ports, connections⟩ := by
  unfold declarePorts at h
  rw [declareMediaLb_eq] at h
  obtain ⟨c₁, hc₁, h⟩ := bind_eq_ok.mp h
  obtain ⟨mediaLb, hmediaLb, rfl⟩ := map_eq_ok.mp hc₁
  rw [declareUsb_eq] at h
  obtain ⟨c₂, hc₂, h⟩ := bind_eq_ok.mp h
  obtain ⟨usb, husb, rfl⟩ := map_eq_ok.mp hc₂
  rw [declareStream_eq] at h
  obtain ⟨stream, hstream, rfl⟩ := map_eq_ok.mp h
  exact ⟨⟨mediaLb, usb, stream⟩, hmediaLb, husb, hstream, fun _ _ => rfl⟩

/-- **Reading**: a node element that is taken in is the plan that is read from it, taken in. -/
theorem addNode_plan {b b' : Builder} {e : Element} (h : b.addNode e = .ok b') :
    ∃ plan, b.Welcomes plan ∧ plan.ReadFrom e ∧ b' = b.addPlan plan := by
  obtain ⟨address, ha, h⟩ := bind_eq_ok.mp h
  obtain ⟨hword, hfresh⟩ : e.word Schema.address = .ok address ∧
      ∀ n ∈ b.nodes.toList, n.address ≠ address := by
    obtain ⟨word, hword, ha⟩ := bind_eq_ok.mp ha
    split at ha
    · nomatch ha
    · rename_i hany
      cases ha
      refine ⟨hword, fun n hn heq => hany (Array.any_eq_true'.mpr ⟨n, ?_, ?_⟩)⟩
      · exact Array.mem_toList_iff.mp hn
      · simpa using heq
  obtain ⟨c, hc, h⟩ := bind_eq_ok.mp h
  obtain ⟨c', hc', h⟩ := bind_eq_ok.mp h
  cases h
  obtain ⟨ports, hmediaLb, husb, hstream, hdeclare⟩ := declarePorts_plan hc
  obtain ⟨ds, hds, rfl, hread⟩ := foldlM_addNodeChild hc'
  obtain rfl := hdeclare (e.attribute? Schema.script) ds
  exact ⟨⟨address, e.attribute? Schema.script, ports, ds⟩, ⟨hfresh, hds⟩,
    ⟨hword, rfl, hmediaLb, husb, hstream, hread⟩, rfl⟩

end Builder

end MediaNetwork

/-
  The ports of a document that compiles.

  `Configuration.PortTable` says which ports there are and where: every port is in one slot of one
  node, the node whose address it carries, every slot holds a port of its own kind, and the ports of
  a node are those its element asks for (`Node.PortsOf`): the declared ones, and by default one for
  each kind of socket.  The theorem is `ports_of_compile`.

  What a node element asks for is read off its plan.  The plan says which ports are declared, and
  which slots its connections need (`exists_mem_needs_iff`); the slots of the node are filled with
  exactly these (`NodePlan.Furnished`).
-/
import Mathlib.Data.List.Nodup
import MediaNetwork.Proofs.Port.Asked
import MediaNetwork.Proofs.Port.Housing

namespace MediaNetwork

open MediaNetwork.Markup MediaNetwork.Outcome

/-! ## The ports of a node -/

/-- The port a slot leads to. -/
def Arena.portAt? (a : Arena) (slot : Option ResourceId) : Option Port :=
  slot.bind fun id => (a.get? id).bind Resource.port?

theorem Arena.portAt?_eq {a : Arena} {slot : Option ResourceId} {p : Port}
    (h : ∀ id, slot = some id → a.get? id = some (.port p)) :
    a.portAt? slot = if slot.isSome then some p else none := by
  cases slot with
  | none => rfl
  | some id => simp [portAt?, h id rfl, Resource.port?]

/-- The stream port the element of a node asks for: both halves, next to each other and with the
    declared settings, or none. -/
inductive Arena.StreamAsked (a : Arena) (e : Element) (node : UInt16) :
    Option (ResourceId × ResourceId) → Prop
  | declared {settings : StreamSettings} {portA portB : ResourceId}
      (declares : DeclaredBy e Schema.streamPort Builder.readStreamSettings (some settings))
      (readA : a.get? portA = some (.port ⟨node, .declared, .stream .a settings⟩))
      (readB : a.get? portB = some (.port ⟨node, .declared, .stream .b settings⟩))
      (adjacent : portB.index = portA.index + 1) : StreamAsked a e node (some (portA, portB))
  | absent (undeclared : DeclaredBy e Schema.streamPort Builder.readStreamSettings none) :
      StreamAsked a e node none

/-- The ports of the node are those its element asks for. -/
structure Node.PortsOf (a : Arena) (e : Element) (n : Node) : Prop where
  address : e.word Schema.address = .ok n.address
  /-- The network port is there if there is a connection, always by default. -/
  network : a.portAt? n.ports.network =
    if e.children.any Builder.isConnection then some ⟨n.address, .default, .network⟩ else none
  mediaLb : PortForm.mediaLb.Asked e n.address (a.portAt? n.ports.mediaLb)
  usb : PortForm.usb.Asked e n.address (a.portAt? n.ports.usb)
  stream : a.StreamAsked e n.address n.ports.stream
  order : a.DeclaredFirst n.address

/-- Every slot holds a port of its kind that carries the address of the node. -/
theorem NodePorts.On.port_at {a : Arena} {node : UInt16} {p : PortPlan} {ports : NodePorts}
    (h : ports.On a node p) {slot : PortSlot} {id : ResourceId} (hid : ports.at slot = some id) :
    ∃ q, a.get? id = some (.port q) ∧ q.node = node ∧ q.kind.slot = slot := by
  cases slot with
  | network => exact ⟨_, h.network id hid, rfl, rfl⟩
  | mediaLb =>
    refine ⟨_, h.mediaLb id hid, ?_⟩
    unfold PortPlan.mediaLbPort
    split <;> exact ⟨rfl, rfl⟩
  | usb =>
    refine ⟨_, h.usb id hid, ?_⟩
    unfold PortPlan.usbPort
    split <;> exact ⟨rfl, rfl⟩
  | streamA =>
    obtain ⟨⟨portA, portB⟩, hpair, rfl⟩ := Option.map_eq_some_iff.mp hid
    obtain ⟨settings, -, hA, -⟩ := h.stream portA portB hpair
    exact ⟨_, hA, rfl, rfl⟩
  | streamB =>
    obtain ⟨⟨portA, portB⟩, hpair, rfl⟩ := Option.map_eq_some_iff.mp hid
    obtain ⟨settings, -, -, hB⟩ := h.stream portA portB hpair
    exact ⟨_, hB, rfl, rfl⟩

namespace NodePlan.Furnished

variable {a : Arena} {plan : NodePlan} {n : Node} {e : Element} (h : plan.Furnished a n)
  (hread : plan.ReadFrom e)

include h hread

theorem network_asked : a.portAt? n.ports.network =
    if e.children.any Builder.isConnection then some ⟨n.address, .default, .network⟩
    else none := by
  have hfilled : n.ports.network.isSome = true ↔ e.children.any Builder.isConnection = true := by
    have hundeclared : .network ∉ plan.ports.kinds.map PortKind.slot := by
      simp [PortPlan.mem_slots]
    have hneeded : (∃ d ∈ plan.connections, .network ∈ d.wiring.needs) ↔
        ∃ d, d ∈ plan.connections :=
      exists_congr fun d => and_iff_left_of_imp fun hd => network_mem_needs (h.fits d hd)
    refine (h.filled .network).trans ?_
    rw [or_iff_right hundeclared, hneeded, List.any_eq_true]
    constructor
    · rintro ⟨d, hd⟩
      obtain ⟨c, hc, -⟩ := exists_of_forall₂ hread.connections hd
      exact ⟨c, List.mem_filter.mp hc⟩
    · rintro ⟨c, hc⟩
      obtain ⟨d, hd, -⟩ := exists_of_forall₂ hread.connections.flip (List.mem_filter.mpr hc)
      exact ⟨d, hd⟩
  rw [Arena.portAt?_eq h.ports.network]
  exact if_congr hfilled rfl rfl

/-- A port that may be created by default: its slot is filled if it is declared, or if there is a
    socket for it. -/
theorem form_asked {α : Type} (f : PortForm α) (slot : PortSlot) {value? : Option α}
    (hd : DeclaredBy e f.element f.read value?)
    (hport : ∀ id, n.ports.at slot = some id →
      a.get? id = some (.port (f.port n.address value?)))
    (hdeclared : slot ∈ plan.ports.kinds.map PortKind.slot ↔ value?.isSome = true)
    (hslot : ∀ s : SocketDecl, slot ∈ s.needs ↔ s.element = f.socket) :
    f.Asked e n.address (a.portAt? (n.ports.at slot)) := by
  rw [Arena.portAt?_eq hport]
  refine f.asked_of_filled hd ?_
  rw [h.filled, hdeclared, exists_mem_needs_iff hread.connections hslot]

theorem mediaLb_asked : PortForm.mediaLb.Asked e n.address (a.portAt? n.ports.mediaLb) := by
  have hport : plan.ports.mediaLbPort n.address =
      PortForm.mediaLb.port n.address plan.ports.mediaLb := by
    unfold PortPlan.mediaLbPort
    cases plan.ports.mediaLb <;> rfl
  have hslot : ∀ s : SocketDecl, .mediaLb ∈ s.needs ↔ s.element = PortForm.mediaLb.socket := by
    intro s
    cases s <;> simp [SocketDecl.needs, SocketDecl.element] <;> decide
  refine h.form_asked hread .mediaLb .mediaLb
    (Builder.declaredBy_readMediaLb hread.mediaLb) ?_ ?_ hslot
  · rw [← hport]
    exact h.ports.mediaLb
  · simp [PortPlan.mem_slots]

theorem usb_asked : PortForm.usb.Asked e n.address (a.portAt? n.ports.usb) := by
  have hport : plan.ports.usbPort n.address = PortForm.usb.port n.address plan.ports.usb := by
    unfold PortPlan.usbPort
    cases plan.ports.usb <;> rfl
  have hslot : ∀ s : SocketDecl, .usb ∈ s.needs ↔ s.element = PortForm.usb.socket := by
    intro s
    cases s <;> simp [SocketDecl.needs, SocketDecl.element] <;> decide
  refine h.form_asked hread .usb .usb (Builder.declaredBy_readUsb hread.usb) ?_ ?_ hslot
  · rw [← hport]
    exact h.ports.usb
  · simp [PortPlan.mem_slots]

theorem stream_asked : a.StreamAsked e n.address n.ports.stream := by
  have hdeclared := Builder.declaredBy_readStream hread.stream
  obtain ⟨first, hfirst⟩ := h.adjacent
  cases hsettings : plan.ports.stream with
  | none =>
    rw [hsettings] at hdeclared hfirst
    rw [hfirst]
    exact .absent hdeclared
  | some settings =>
    rw [hsettings] at hdeclared hfirst
    obtain ⟨settings', hsame, hA, hB⟩ := h.ports.stream _ _ hfirst
    rw [hsettings] at hsame
    cases hsame
    rw [hfirst]
    exact .declared hdeclared hA hB rfl

/-- **Nodes**: a node has the ports its element asks for. -/
theorem portsOf : n.PortsOf a e where
  address := by
    rw [h.address]
    exact hread.address
  network := h.network_asked hread
  mediaLb := h.mediaLb_asked hread
  usb := h.usb_asked hread
  stream := h.stream_asked hread
  order := h.order

end NodePlan.Furnished

/-! ## The ports of a configuration -/

/-- Which ports there are, and where. -/
structure Configuration.PortTable (c : Configuration) (root : Element) : Prop where
  addresses : (c.nodes.map Node.address).Nodup
  /-- Every port is in one slot of one node. -/
  cached : ∀ id p, c.arena.get? id = some (.port p) →
    ∃! place : Node × PortSlot, place.1 ∈ c.nodes ∧ place.1.ports.at place.2 = some id
  /-- What is in a slot is a port of that kind, which carries the address of the node. -/
  slots : ∀ n ∈ c.nodes, ∀ slot id, n.ports.at slot = some id →
    ∃ p, c.arena.get? id = some (.port p) ∧ p.node = n.address ∧ p.kind.slot = slot
  /-- A node has at most one port of each kind, and at most one of each half. -/
  unique : ∀ id p id' p', c.arena.get? id = some (.port p) → c.arena.get? id' = some (.port p') →
    p.node = p'.node → p.kind.slot = p'.kind.slot → id = id'
  /-- Every resource belongs to a node. -/
  owned : ∀ id r, c.arena.get? id = some r → ∃ n ∈ c.nodes, c.arena.owner? id = some n.address
  /-- The nodes are those of the node elements, and have the ports these ask for. -/
  nodes : List.Forall₂ (Node.PortsOf c.arena) (root.childrenNamed Schema.node) c.nodes

/-- Nodes in which every port is housed make up a table. -/
theorem Configuration.portTable_of_housed {c : Configuration} {root : Element}
    (htyped : c.arena.Typed) (haddresses : (c.nodes.map Node.address).Nodup)
    (hhoused : c.arena.Housed c.nodes)
    (hslots : ∀ n ∈ c.nodes, ∀ slot id, n.ports.at slot = some id →
      ∃ p, c.arena.get? id = some (.port p) ∧ p.node = n.address ∧ p.kind.slot = slot)
    (hnodes : List.Forall₂ (Node.PortsOf c.arena) (root.childrenNamed Schema.node) c.nodes) :
    c.PortTable root where
  addresses := haddresses
  slots := hslots
  nodes := hnodes
  cached := by
    intro id p hp
    obtain ⟨n, hn, haddress, hslot⟩ := hhoused id p hp
    refine ⟨(n, p.kind.slot), ⟨hn, hslot⟩, ?_⟩
    rintro ⟨m, slot⟩ ⟨hm, hmslot⟩
    -- the port says which node and which slot
    obtain ⟨q, hq, hnode, rfl⟩ := hslots m hm slot id hmslot
    cases Option.some.inj (hp.symm.trans hq)
    have hsame : m = n := List.inj_on_of_nodup_map haddresses hm hn (hnode.symm.trans haddress.symm)
    rw [hsame]
  unique := by
    intro id p id' p' hp hp' hnode hkind
    obtain ⟨n, hn, haddress, hslot⟩ := hhoused id p hp
    obtain ⟨m, hm, haddress', hslot'⟩ := hhoused id' p' hp'
    have hsame : n = m := List.inj_on_of_nodup_map haddresses hn hm
      (haddress.trans (hnode.trans haddress'.symm))
    rw [hkind, hsame, hslot'] at hslot
    exact (Option.some.inj hslot).symm
  owned := by
    intro id r hr
    obtain ⟨node, howner⟩ := htyped.exists_owner? hr
    obtain ⟨port, p, hp, rfl⟩ := Arena.exists_port_of_owner? howner
    obtain ⟨n, hn, haddress, -⟩ := hhoused port p hp
    exact ⟨n, hn, by rw [howner, haddress]⟩

/-- **Ports**: in a document that compiles every port is in one slot of the node whose address it
    carries, and the ports of a node are those its element asks for. -/
theorem ports_of_compile {text : String} {c : Configuration} (h : compile text = .ok c) :
    ∃ root, Element.ofText text = .ok root ∧ c.PortTable root := by
  obtain ⟨root, hroot, h⟩ := compile_eq_ok.mp h
  obtain ⟨b, scripts, -, hb, -, hlinked, -, -, -, harena⟩ := compileElement_eq_ok.mp h
  obtain ⟨plans, hbuilt, hread⟩ := Builder.built_of_buildNodes hb
  have hrelinked := linkScripts_keeps hlinked
  obtain ⟨hhoused, hfurnished⟩ := hbuilt.furnished
  have hgraph := hbuilt.graph.relink hrelinked
  rw [← harena] at hhoused hfurnished hgraph
  have hplans : List.Forall₂ (fun plan n => plan.Furnished c.arena n) plans c.nodes :=
    forall₂_comp (fun _ _ _ hn hm => hn.relink hm) hfurnished hrelinked
  refine ⟨root, hroot, Configuration.portTable_of_housed hgraph.typed hgraph.addresses
    (hhoused.relink hrelinked) (fun n hn slot id hid => ?_) ?_⟩
  · obtain ⟨plan, -, hplan⟩ := exists_of_forall₂ hplans hn
    exact hplan.ports.port_at hid
  · exact forall₂_comp (fun _ _ _ hplan hn => hn.portsOf hplan) hread hplans

/-- A document with a declared stream port and, by default, a MediaLB and a USB port. -/
theorem ports_sampleDocument : ∃ c, compile sampleDocument = .ok c ∧
    c.endpoints.length = 4 ∧ c.PortTable sampleRoot := by
  obtain ⟨c, hc, hcounts⟩ := compile_sampleDocument
  obtain ⟨root, hroot, htable⟩ := ports_of_compile hc
  rw [ofText_sampleDocument] at hroot
  cases hroot
  exact ⟨c, hc, congrArg Prod.fst hcounts, htable⟩

end MediaNetwork

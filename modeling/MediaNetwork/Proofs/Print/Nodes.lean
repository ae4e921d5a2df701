/-
  Printed nodes read back.

  A node is printed as its declared ports and then its connections (`NodePlan.printed`).  A builder
  that reads such an element stays alike to a builder that takes in the plan (`addNode_printed`):

  1. ports — among the children, those with the name of a port are the one that was printed
     (`shows_filter`), so the same ports are declared;
  2. connections — each is read as what its print declares, and taking that in keeps builders
     alike, so the induction is over the connections (`foldlM_addNodeChild_printed`).
-/
import MediaNetwork.Proofs.Graph.Plan
import MediaNetwork.Proofs.Keyed
import MediaNetwork.Proofs.Print.Connections

namespace MediaNetwork

open MediaNetwork.Markup MediaNetwork.Markup.Element MediaNetwork.Outcome

/-! ## Children by name -/

namespace Markup.Printed

/-- The name of a printed element. -/
def name : Printed → String
  | leaf name _ => name
  | block name _ _ => name

/-- What shows a print has its name. -/
theorem Shows.name_eq {p : Printed} {e : Element} (h : p.Shows e) : e.name = p.name := by
  cases p with
  | leaf name attributes => exact h.1
  | block name attributes children => exact h.1

/-- The elements with a name are those that the prints with this name show. -/
theorem shows_filter (name : String) {ps : List Printed} {es : List Element}
    (h : List.Forall₂ Shows ps es) :
    List.Forall₂ Shows (ps.filter fun p => p.name == name) (es.filter fun e => e.name == name) :=
  List.rel_filter (fun p e hp => by simp only [hp.name_eq]) h

end Markup.Printed

/-! ## Ports -/

namespace PortPlan

/-- The element of the MediaLB port, if it is declared. -/
def mediaLbPrinted (p : PortPlan) (node : UInt16) : List Printed :=
  Configuration.printPort (p.mediaLbPort node)

/-- The element of the USB port, if it is declared. -/
def usbPrinted (p : PortPlan) (node : UInt16) : List Printed :=
  Configuration.printPort (p.usbPort node)

/-- The element of the stream port, if it is declared. -/
def streamPrinted (p : PortPlan) (node : UInt16) : List Printed :=
  match p.stream with
  | some settings => Configuration.printPort ⟨node, .declared, .stream .a settings⟩
  | none => []

/-- The elements of the declared ports. -/
def printed (p : PortPlan) (node : UInt16) : List Printed :=
  p.mediaLbPrinted node ++ p.usbPrinted node ++ p.streamPrinted node

variable (p : PortPlan) (node : UInt16)

/-- Whatever is printed of a port's declaration is an element of that kind of port. -/
theorem name_of_mem_mediaLb : ∀ q ∈ p.mediaLbPrinted node, q.name = Schema.mediaLbPort := by
  unfold mediaLbPrinted mediaLbPort
  cases p.mediaLb with
  | none => exact fun _ h => nomatch h
  | some clock =>
    intro q hq
    rw [List.mem_singleton.mp hq]
    rfl

theorem name_of_mem_usb : ∀ q ∈ p.usbPrinted node, q.name = Schema.usbPort := by
  unfold usbPrinted usbPort
  cases p.usb with
  | none => exact fun _ h => nomatch h
  | some settings =>
    intro q hq
    rw [List.mem_singleton.mp hq]
    rfl

theorem name_of_mem_stream : ∀ q ∈ p.streamPrinted node, q.name = Schema.streamPort := by
  unfold streamPrinted
  cases p.stream with
  | none => exact fun _ h => nomatch h
  | some settings =>
    intro q hq
    rw [List.mem_singleton.mp hq]
    rfl

end PortPlan

/-- A printed connection is no port. -/
theorem name_of_connection (d : ConnectionDecl) :
    d.printed.name = Schema.syncConnection ∨ d.printed.name = Schema.avpConnection := by
  unfold ConnectionDecl.printed
  cases d.style with
  | sync muteMode => exact Or.inl rfl
  | avPacketized packetSize => exact Or.inr rfl

/-- The element of a planned node. -/
def NodePlan.printed (plan : NodePlan) : Printed :=
  .block Schema.node
    ((Schema.address, hexWord plan.address) :: optional Schema.script plan.script)
    (plan.ports.printed plan.address ++ plan.connections.map ConnectionDecl.printed)

/-- The ports by the names of their elements. -/
def PortPlan.parts (p : PortPlan) (node : UInt16) : List (String × List Printed) :=
  [(Schema.mediaLbPort, p.mediaLbPrinted node), (Schema.usbPort, p.usbPrinted node),
    (Schema.streamPort, p.streamPrinted node)]

/-- What is printed of all ports comes from one part after the other. -/
theorem PortPlan.printed_eq (p : PortPlan) (node : UInt16) :
    p.printed node = (p.parts node).flatMap Prod.snd := by
  simp [printed, parts]

/-- Among the children of a planned node, the ports are found by their names. -/
theorem filter_ports (plan : NodePlan) {part : String × List Printed}
    (h : part ∈ plan.ports.parts plan.address) :
    ((plan.ports.printed plan.address ++ plan.connections.map ConnectionDecl.printed).filter
        fun q => q.name == part.1) = part.2 := by
  have hkey : ∀ t ∈ plan.ports.parts plan.address, ∀ q ∈ t.2, q.name = t.1 := by
    simp only [PortPlan.parts, List.forall_mem_cons, List.not_mem_nil, false_implies, implies_true,
      and_true]
    exact ⟨plan.ports.name_of_mem_mediaLb _, plan.ports.name_of_mem_usb _,
      plan.ports.name_of_mem_stream _⟩
  have hdistinct : ((plan.ports.parts plan.address).map Prod.fst).Nodup := by
    show [Schema.mediaLbPort, Schema.usbPort, Schema.streamPort].Nodup
    decide
  have hport : part.1 ∈ [Schema.mediaLbPort, Schema.usbPort, Schema.streamPort] :=
    List.mem_map_of_mem h
  -- the connections are printed under other names
  have hconnections :
      ((plan.connections.map ConnectionDecl.printed).filter fun q => q.name == part.1) = [] := by
    rw [List.filter_eq_nil_iff]
    intro q hq
    obtain ⟨d, -, rfl⟩ := List.mem_map.mp hq
    rw [beq_iff_eq]
    intro hname
    rw [← hname] at hport
    rcases name_of_connection d with h | h
    · rw [h] at hport
      exact absurd hport (by decide)
    · rw [h] at hport
      exact absurd hport (by decide)
  rw [List.filter_append, hconnections, List.append_nil, PortPlan.printed_eq]
  exact Keyed.filter_of_key hdistinct hkey h

/-! ## Reading the ports -/

section Ports

variable {p : PortPlan} {node : UInt16} {e : Element} {name : String}

/-- No print, no child. -/
theorem onlyChild_eq_none (h : List.Forall₂ Printed.Shows [] (e.childrenNamed name)) :
    onlyChild node e name = .ok none := by
  rw [onlyChild, List.forall₂_nil_left_iff.mp h]

/-- One print, one child, which shows it. -/
theorem onlyChild_eq_some (node : UInt16) {q : Printed}
    (h : List.Forall₂ Printed.Shows [q] (e.childrenNamed name)) :
    ∃ child, onlyChild node e name = .ok (some child) ∧ q.Shows child := by
  obtain ⟨child, es, hshows, hnil, hchildren⟩ := List.forall₂_cons_left_iff.mp h
  obtain rfl := List.forall₂_nil_left_iff.mp hnil
  exact ⟨child, by rw [onlyChild, hchildren], hshows⟩

/-- **Ports**: the MediaLB port is read back from the elements that show it, or its absence is. -/
theorem readMediaLb_printed (h : List.Forall₂ Printed.Shows (p.mediaLbPrinted node)
    (e.childrenNamed Schema.mediaLbPort)) : Builder.readMediaLb node e = .ok p.mediaLb := by
  unfold PortPlan.mediaLbPrinted PortPlan.mediaLbPort at h
  cases hp : p.mediaLb with
  | none =>
    rw [hp] at h
    rw [Builder.readMediaLb, onlyChild_eq_none h]
    rfl
  | some clock =>
    rw [hp] at h
    obtain ⟨port, hport, -, hattributes, -⟩ := onlyChild_eq_some node h
    have hclock : port.keyword Schema.clockConfig MlbClock.keywords = .ok clock :=
      keyword_name readsBack_mlbClock (attribute?_of hattributes rfl)
    simp only [Builder.readMediaLb, hport, ok_bind, hclock, pure_eq_ok]

/-- Likewise the USB port. -/
theorem readUsb_printed (h : List.Forall₂ Printed.Shows (p.usbPrinted node)
    (e.childrenNamed Schema.usbPort)) : Builder.readUsb node e = .ok p.usb := by
  unfold PortPlan.usbPrinted PortPlan.usbPort at h
  cases hp : p.usb with
  | none =>
    rw [hp] at h
    rw [Builder.readUsb, onlyChild_eq_none h]
    rfl
  | some settings =>
    rw [hp] at h
    obtain ⟨port, hport, -, hattributes, -⟩ := onlyChild_eq_some node h
    have hsettings : Builder.readUsbSettings port = .ok settings := by
      unfold Builder.readUsbSettings
      rw [keyword_name readsBack_physicalLayer (attribute?_of hattributes rfl), ok_bind,
        word_hex (attribute?_of hattributes rfl), ok_bind,
        byte?_decimal (attribute?_of hattributes rfl), ok_bind,
        byte?_decimal (attribute?_of hattributes rfl)]
      rfl
    simp only [Builder.readUsb, hport, ok_bind, hsettings, pure_eq_ok]

/-- Likewise the stream port. -/
theorem readStream_printed (h : List.Forall₂ Printed.Shows (p.streamPrinted node)
    (e.childrenNamed Schema.streamPort)) : Builder.readStream node e = .ok p.stream := by
  unfold PortPlan.streamPrinted at h
  cases hp : p.stream with
  | none =>
    rw [hp] at h
    rw [Builder.readStream, onlyChild_eq_none h]
    rfl
  | some settings =>
    rw [hp] at h
    obtain ⟨port, hport, -, hattributes, -⟩ := onlyChild_eq_some node h
    have hsettings : Builder.readStreamSettings port = .ok settings := by
      unfold Builder.readStreamSettings
      rw [keyword_name readsBack_streamClock (attribute?_of hattributes rfl), ok_bind,
        keyword_name readsBack_alignment (attribute?_of hattributes rfl)]
      rfl
    simp only [Builder.readStream, hport, ok_bind, hsettings, pure_eq_ok]

end Ports

namespace Builder

/-- The printed ports are declared as the plan has them. -/
theorem declarePorts_printed {b : Builder} {plan : NodePlan} {e : Element}
    (h : List.Forall₂ Printed.Shows
      (plan.ports.printed plan.address ++ plan.connections.map ConnectionDecl.printed)
      e.children) :
    ({ b with ports := NodePorts.absent } : Builder).declarePorts plan.address e =
      .ok (b.declare plan) := by
  have hpart : ∀ part ∈ plan.ports.parts plan.address,
      List.Forall₂ Printed.Shows part.2 (e.childrenNamed part.1) := by
    intro part hpart
    rw [← filter_ports plan hpart]
    exact Printed.shows_filter part.1 h
  simp only [PortPlan.parts, List.forall_mem_cons] at hpart
  obtain ⟨hm, hu, hs, -⟩ := hpart
  unfold declarePorts
  rw [declareMediaLb_eq, readMediaLb_printed hm, map_ok, ok_bind, declareUsb_eq,
    readUsb_printed hu, map_ok, ok_bind, declareStream_eq, readStream_printed hs, map_ok]
  rfl

section Alike

variable {b b' : Builder} (h : b.Alike b') (node : UInt16)

include h

/-- A declared port keeps builders alike, here that of MediaLB. -/
theorem withMediaLb_alike (clock : Option MlbClock) :
    (b.withMediaLb node clock).Alike (b'.withMediaLb node clock) := by
  obtain ⟨links, rfl, hlinks⟩ := h.exists_links
  cases clock <;> exact ⟨rfl, rfl, rfl, rfl, hlinks⟩

theorem withUsb_alike (settings : Option UsbSettings) :
    (b.withUsb node settings).Alike (b'.withUsb node settings) := by
  obtain ⟨links, rfl, hlinks⟩ := h.exists_links
  cases settings <;> exact ⟨rfl, rfl, rfl, rfl, hlinks⟩

theorem withStream_alike (settings : Option StreamSettings) :
    (b.withStream node settings).Alike (b'.withStream node settings) := by
  obtain ⟨links, rfl, hlinks⟩ := h.exists_links
  cases settings <;> exact ⟨rfl, rfl, rfl, rfl, hlinks⟩

/-- The ports of the node before it are forgotten. -/
theorem Alike.withoutPorts : ({ b with ports := NodePorts.absent } : Builder).Alike
    { b' with ports := NodePorts.absent } :=
  ⟨h.arena, rfl, h.nodes, h.endpoints, h.links⟩

end Alike

/-- All declared ports of a node keep builders alike. -/
theorem declare_alike {b b' : Builder} (h : b.Alike b') (plan : NodePlan) :
    (b.declare plan).Alike (b'.declare plan) :=
  withStream_alike (withUsb_alike (withMediaLb_alike h.withoutPorts _ _) _ _) _ _

/-! ## Reading the connections -/

/-- The same links are taken in builders that are alike. -/
theorem hasLink_alike {b b' : Builder} (h : b.Alike b') (link : Option String) :
    b'.hasLink link = b.hasLink link := by
  have hkeys : ∀ c : Builder, ∀ link : String, (c.links.any fun l => l.link == link) =
      (c.links.toList.map LinkCandidate.key).any fun k => k.1 == link := by
    intro c link
    rw [List.any_map, ← Array.any_toList]
    rfl
  cases link with
  | none => rfl
  | some link => rw [hasLink, hasLink, hkeys, hkeys, h.links]

/-- A connection that can be created can be joined as it is read back. -/
theorem joinable_alike {b b' : Builder} (h : b.Alike b') {node : UInt16} {d : ConnectionDecl}
    (hd : b.Accepts node d) (line : Nat) : b'.Joinable (d.reprinted line) := by
  obtain ⟨hjoinable, -⟩ := join_eq_ok.mp hd.join_eq
  have hwiring : (d.reprinted line).wiring = d.wiring.reprinted d.style := rfl
  unfold Joinable at hjoinable ⊢
  rw [hwiring]
  cases hw : d.wiring with
  | plain input output =>
    rw [hw] at hjoinable
    simp only [Wiring.reprinted, SocketDecl.isNetwork_withOffset, hasLink_alike h]
    exact hjoinable
  | fanOut input bytesPerFrame branches => trivial
  | fanIn bytesPerFrame branches output => trivial

/-- A printed connection is taken in. -/
theorem addNodeChild_printed {b b' : Builder} (h : b.Alike b') {node : UInt16}
    {d : ConnectionDecl} (hd : b.Accepts node d) {e : Element} (he : d.printed.Shows e) :
    ∃ c', addNodeChild node b' e = .ok c' ∧ (b.connect d).Alike c' := by
  have hjoin := join_eq_ok.mpr ⟨joinable_alike h hd e.line, rfl⟩
  obtain ⟨hnode, hfits, hlink⟩ := hd
  have hport : isPort e = false := by
    unfold isPort
    rw [he.name_eq]
    rcases name_of_connection d with hname | hname <;> rw [hname] <;> rfl
  have hattribute : e.attribute? Schema.link = d.link := by
    rw [attribute?_of he.2.1 rfl]
    cases d.style <;>
      simp [Configuration.connectionHead, ConnectionStyle.kind, List.lookup_cons, lookup_optional,
        Schema.muteMode, Schema.isocPacketSize, Schema.link]
  have hsite : Site.Carries ⟨e, node, b'.ports.stream, d.style, b'.hasLink d.link⟩ d := by
    refine ⟨hnode.symm, rfl, ?_, ?_⟩
    · rw [h.ports]
      exact hfits
    · rw [hasLink_alike h]
      exact hlink
  refine ⟨b'.connect (d.reprinted e.line), ?_, connect_alike h d e.line⟩
  unfold addNodeChild addConnection
  rw [hport, ofElement?_printed he, hattribute]
  simp only [Bool.false_eq_true, if_false, ok_bind, atSite_printed hsite he, hjoin]

/-- So are all connections of a node, one after the other. -/
theorem foldlM_addNodeChild_printed {b b' : Builder} (h : b.Alike b') {node : UInt16}
    {ds : List ConnectionDecl} (hds : b.AcceptsAll node ds) {es : List Element}
    (hes : List.Forall₂ Printed.Shows (ds.map ConnectionDecl.printed) es) :
    ∃ c', es.foldlM (addNodeChild node) b' = .ok c' ∧ (ds.foldl connect b).Alike c' := by
  induction ds generalizing b b' es with
  | nil =>
    rw [List.forall₂_nil_left_iff.mp hes]
    exact ⟨b', rfl, h⟩
  | cons d ds ih =>
    obtain ⟨e, rest, he, hrest, rfl⟩ := List.forall₂_cons_left_iff.mp hes
    obtain ⟨c, hc, halike⟩ := addNodeChild_printed h hds.1 he
    obtain ⟨c', hc', halike'⟩ := ih halike hds.2 hrest
    refine ⟨c', ?_, halike'⟩
    rw [List.foldlM_cons, hc, ok_bind, hc']

/-- The ports of a node are passed over. -/
theorem foldlM_addNodeChild_ports {node : UInt16} {p : PortPlan} {es : List Element}
    (h : List.Forall₂ Printed.Shows (p.printed node) es) (b : Builder) :
    es.foldlM (addNodeChild node) b = .ok b := by
  have hport : ∀ e ∈ es, isPort e = true := by
    intro e he
    obtain ⟨q, hq, hshows⟩ := exists_of_forall₂ h he
    unfold isPort
    rw [hshows.name_eq]
    rcases List.mem_append.mp hq with hq | hq
    · rcases List.mem_append.mp hq with hq | hq
      · rw [p.name_of_mem_mediaLb node q hq]
        rfl
      · rw [p.name_of_mem_usb node q hq]
        rfl
    · rw [p.name_of_mem_stream node q hq]
      rfl
  clear h
  induction es with
  | nil => rfl
  | cons e es ih =>
    rw [List.foldlM_cons, addNodeChild, if_pos (hport e List.mem_cons_self), ok_bind]
    exact ih fun x hx => hport x (List.mem_cons_of_mem _ hx)

/-! ## Nodes -/

/-- **Nodes**: the element a printed node shows is taken in as the plan. -/
theorem addNode_printed {b b' : Builder} (h : b.Alike b') {plan : NodePlan}
    (hw : b.Welcomes plan) {e : Element} (he : plan.printed.Shows e) :
    ∃ c', b'.addNode e = .ok c' ∧ (b.addPlan plan).Alike c' := by
  obtain ⟨hname, hattributes, hchildren⟩ := he
  rw [Printed.allShow_iff] at hchildren
  have hclaim : b'.claimAddress e = .ok plan.address := by
    have hfree : (b'.nodes.any fun n => n.address == plan.address) = false := by
      rw [h.nodes, ← Array.any_toList, List.any_eq_false]
      intro n hn
      simpa using hw.1 n hn
    rw [claimAddress, word_hex (attribute?_of hattributes rfl), ok_bind, hfree]
    rfl
  have hscript : e.attribute? Schema.script = plan.script := by
    rw [attribute?_of hattributes rfl]
    simp [List.lookup_cons, lookup_optional, Schema.address, Schema.script]
  obtain ⟨ports, connections, hports, hconnections, hsplit⟩ := exists_append_of_forall₂ hchildren
  obtain ⟨c', hc', halike⟩ := foldlM_addNodeChild_printed (declare_alike h plan) hw.2 hconnections
  refine ⟨{ c' with nodes := c'.nodes.push ⟨plan.address, plan.script, none, c'.ports⟩ }, ?_,
    halike.arena, halike.ports, ?_, halike.endpoints, halike.links⟩
  · unfold addNode buildNode
    rw [hclaim, ok_bind, declarePorts_printed hchildren, ok_bind, hsplit, List.foldlM_append,
      foldlM_addNodeChild_ports hports, ok_bind, hc', ok_bind, hscript]
    rfl
  · rw [addPlan, halike.nodes, halike.ports]

end Builder

end MediaNetwork

/-
  Nodes do not depend on each other.

  Building a node behind others is building it alone and shifting its handles:

  1. the reader of a connection passes the handles of the stream port on, so reading at a shifted
     site is reading and shifting (`atSite_shift`);
  2. what an earlier node may take away from a later one is its address and its links, and only
     refusals come of that; so a node that is taken in behind others is taken in alone as well
     (`addNode_alone`).

  A document is built node by node, each behind those before (`foldlM_addRootChild_alone`); what
  it compiles to is the single graphs laid one behind the other (`Configuration.Stacks`).
-/
import MediaNetwork.Proofs.Graph.Plan
import MediaNetwork.Proofs.Graph.Shift
import MediaNetwork.Proofs.Stages

namespace MediaNetwork

open MediaNetwork.Markup MediaNetwork.Outcome

/-! ## Reading at a shifted site -/

/-- The same site on a stream port with shifted handles. -/
def Site.shift (n : Nat) (site : Site) : Site :=
  { site with stream := site.stream.map (shiftPair n) }

/-- What was read so far, with its declared sockets shifted. -/
def Progress.shift (n : Nat) : Progress → Progress
  | empty => empty
  | input i => input (i.shift n)
  | both i o => both (i.shift n) (o.shift n)
  | combining combiner => combining combiner
  | fanned wiring => fanned (wiring.shift n)

section Reading

variable (n : Nat) (site : Site)

/-- A socket that is read at a shifted site has the shifted handles of the stream port. -/
theorem Site.readSocket_shift (e : Element) :
    (site.shift n).readSocket e = (site.readSocket e).map (SocketDecl.shift n) := by
  unfold readSocket
  split_ifs
  · rw [map_bind]
    rfl
  · simp only [map_bind]
    rfl
  · simp only [map_bind]
    rfl
  · simp only [map_bind]
    obtain ⟨element, node, stream, style, linkTaken⟩ := site
    cases stream with
    | none => rfl
    | some ports => rfl
  · rfl

/-- So have splitters and combiners, in the socket beside their branches. -/
theorem Site.readFanOut_shift (input : SocketDecl) (e : Element) :
    (site.shift n).readFanOut (input.shift n) e =
      (site.readFanOut input e).map (Wiring.shift n) := by
  unfold readFanOut
  simp only [map_bind]
  rfl

theorem Site.readFanIn_shift (combiner e : Element) :
    (site.shift n).readFanIn combiner e = (site.readFanIn combiner e).map (Wiring.shift n) := by
  unfold readFanIn
  rw [readSocket_shift, bind_map]
  simp only [map_bind]
  rfl

/-- A child is taken in at a shifted site as at the site itself. -/
theorem Progress.add_shift (p : Progress) (e : Element) :
    (p.shift n).add (site.shift n) e = (p.add site e).map (Progress.shift n) := by
  unfold add
  split_ifs
  · cases p with
    | input i =>
      simp only [shift, addSplitter, site.readFanOut_shift, bind_map, map_bind]
      rfl
    | _ => rfl
  · cases p with
    | empty =>
      simp only [shift, addCombiner, map_bind]
      rfl
    | _ => rfl
  · cases p with
    | empty =>
      simp only [shift, addSocket, site.readSocket_shift, bind_map, map_bind]
      rfl
    | input i =>
      simp only [shift, addSocket, site.readSocket_shift, bind_map, map_bind]
      rfl
    | combining combiner =>
      simp only [shift, addSocket, site.readFanIn_shift, bind_map, map_bind]
      rfl
    | _ => rfl

theorem Progress.finish_shift (p : Progress) :
    (p.shift n).finish (site.shift n) = (p.finish site).map (Wiring.shift n) := by
  cases p <;> rfl

/-- **Reading**: a connection is read at a shifted site as at the site itself, shifted. -/
theorem ConnectionDecl.atSite_shift :
    atSite (site.shift n) = (atSite site).map (ConnectionDecl.shift n) := by
  have hchildren : site.element.children.foldlM (Progress.add (site.shift n)) .empty =
      (site.element.children.foldlM (Progress.add site) .empty).map (Progress.shift n) :=
    foldlM_image (Progress.shift n) (Progress.add_shift n site) _ .empty
  unfold atSite
  simp only [show (site.shift n).element = site.element from rfl, hchildren, bind_map, map_bind,
    Progress.finish_shift]
  rfl

end Reading

namespace Builder

/-! ## Nodes -/

variable (base b : Builder)

/-- A declared port is created behind other graphs as it is alone, here that of MediaLB. -/
theorem withMediaLb_andThen (node : UInt16) (clock? : Option MlbClock) :
    (base.andThen b).withMediaLb node clock? = base.andThen (b.withMediaLb node clock?) := by
  cases clock? with
  | none => rfl
  | some clock =>
    simp only [withMediaLb, alloc_port_andThen]
    rfl

theorem withUsb_andThen (node : UInt16) (settings? : Option UsbSettings) :
    (base.andThen b).withUsb node settings? = base.andThen (b.withUsb node settings?) := by
  cases settings? with
  | none => rfl
  | some settings =>
    simp only [withUsb, alloc_port_andThen]
    rfl

theorem withStream_andThen (node : UInt16) (settings? : Option StreamSettings) :
    (base.andThen b).withStream node settings? = base.andThen (b.withStream node settings?) := by
  cases settings? with
  | none => rfl
  | some settings =>
    simp only [withStream, alloc_port_andThen]
    rfl

/-- The declared ports of a node are the same behind other graphs. -/
theorem declarePorts_andThen (node : UInt16) (e : Element) :
    (base.andThen b).declarePorts node e = (b.declarePorts node e).map base.andThen := by
  have hstream : ∀ (b : Builder) (read : Except CompileError (Option StreamSettings)),
      read.map ((base.andThen b).withStream node) =
        (read.map (b.withStream node)).map base.andThen := by
    intro b read
    cases read with
    | error fault => rfl
    | ok settings? => exact congrArg Except.ok (withStream_andThen base b node settings?)
  unfold declarePorts
  simp only [declareMediaLb_eq, declareUsb_eq, declareStream_eq, bind_map, map_bind,
    withMediaLb_andThen, withUsb_andThen, hstream]

variable {base b}

/-- A link that is free behind other graphs is free. -/
theorem hasLink_of_andThen {link : Option String} (h : (base.andThen b).hasLink link = false) :
    b.hasLink link = false := by
  cases link with
  | none => rfl
  | some link =>
    simp only [hasLink, andThen, Array.any_append, Bool.or_eq_false_iff] at h
    have hany := h.2
    rw [Array.any_map] at hany
    exact hany

/-- What can be joined behind other graphs can be joined. -/
theorem joinable_of_andThen {d : ConnectionDecl}
    (h : (base.andThen b).Joinable (d.shift base.arena.size)) : b.Joinable d := by
  have hwiring : (d.shift base.arena.size).wiring = d.wiring.shift base.arena.size := rfl
  have hlink : (d.shift base.arena.size).link = d.link := rfl
  unfold Joinable at h ⊢
  rw [hwiring, hlink] at h
  cases hw : d.wiring with
  | plain input output =>
    simp only [hw, Wiring.shift, SocketDecl.isNetwork_shift] at h
    exact ⟨h.1, hasLink_of_andThen h.2⟩
  | fanOut input bytesPerFrame branches => trivial
  | fanIn bytesPerFrame branches output => trivial

/-- A child of a node that is taken in behind other graphs is taken in alone. -/
theorem addNodeChild_alone {node : UInt16} {e : Element} {b' : Builder}
    (h : addNodeChild node (base.andThen b) e = .ok b') :
    ∃ c, addNodeChild node b e = .ok c ∧ b' = base.andThen c := by
  unfold addNodeChild at h ⊢
  split at h
  · rename_i hport
    cases h
    exact ⟨b, if_pos hport, rfl⟩
  rename_i hport
  rw [if_neg hport]
  split at h
  · rename_i style? hstyle
    obtain ⟨style, hs, h⟩ := bind_eq_ok.mp h
    obtain ⟨d, hd, h⟩ := bind_eq_ok.mp h
    obtain ⟨⟨-, -, htaken⟩, hb'⟩ := accepts_of_join hd h
    obtain ⟨-, hlink, -⟩ := ConnectionDecl.atSite_spec hd
    rw [hlink] at htaken
    have hfree : b.hasLink (e.attribute? Schema.link) = false := hasLink_of_andThen htaken
    -- so the connection is read at the same site, shifted
    rw [show (base.andThen b).hasLink (e.attribute? Schema.link) = false from htaken] at hd
    have hsite : (⟨e, node, (base.andThen b).ports.stream, style, false⟩ : Site) =
        Site.shift base.arena.size ⟨e, node, b.ports.stream, style, false⟩ := rfl
    rw [hsite, ConnectionDecl.atSite_shift] at hd
    obtain ⟨d₀, hd₀, rfl⟩ := map_eq_ok.mp hd
    have hjoin := join_eq_ok.mpr ⟨joinable_of_andThen (join_eq_ok.mp h).1, rfl⟩
    refine ⟨b.connect d₀, ?_, hb'.trans (connect_andThen base b d₀)⟩
    rw [hs, ok_bind, addConnection, hfree, hd₀, ok_bind, hjoin]
  · nomatch h

/-- What a node adds behind other graphs it adds alone. -/
theorem foldlM_addNodeChild_alone {node : UInt16} {es : List Element} {b' : Builder}
    (h : es.foldlM (addNodeChild node) (base.andThen b) = .ok b') :
    ∃ c, es.foldlM (addNodeChild node) b = .ok c ∧ b' = base.andThen c := by
  induction es generalizing b with
  | nil =>
    cases h
    exact ⟨b, rfl, rfl⟩
  | cons e es ih =>
    rw [List.foldlM_cons] at h
    obtain ⟨next, hnext, h⟩ := bind_eq_ok.mp h
    obtain ⟨c, hc, rfl⟩ := addNodeChild_alone hnext
    obtain ⟨c', hc', hb'⟩ := ih h
    exact ⟨c', by rw [List.foldlM_cons, hc, ok_bind, hc'], hb'⟩

/-- A node begins behind other graphs as behind none. -/
theorem andThen_empty (base : Builder) :
    base.andThen Builder.empty = { base with ports := NodePorts.absent } := by
  simp [andThen, Builder.empty, Arena.andThen, Arena.empty, NodePorts.shift, NodePorts.absent]

/-- An address that is free behind other nodes is free. -/
theorem claimAddress_alone {e : Element} {address : UInt16}
    (h : base.claimAddress e = .ok address) : Builder.empty.claimAddress e = .ok address := by
  obtain ⟨word, hword, h⟩ := bind_eq_ok.mp h
  unfold claimAddress
  have hnone : (Builder.empty.nodes.any fun n => n.address == word) = false := by
    simp [Builder.empty]
  simp only [hword, ok_bind, hnone, Bool.false_eq_true, if_false]
  split at h
  · nomatch h
  · exact h

/-- **The step**: a node that is taken in behind others is taken in alone, and what is added is
    the graph of the node alone, shifted. -/
theorem addNode_alone {e : Element} {b' : Builder} (h : base.addNode e = .ok b') :
    ∃ b, Builder.empty.addNode e = .ok b ∧ b' = base.andThen b := by
  obtain ⟨address, ha, h⟩ := bind_eq_ok.mp h
  unfold buildNode at h
  -- to begin a node without ports is to put an empty builder behind the others
  rw [← andThen_empty, declarePorts_andThen] at h
  obtain ⟨c, hc, h⟩ := bind_eq_ok.mp h
  obtain ⟨b₀, hb₀, rfl⟩ := map_eq_ok.mp hc
  obtain ⟨c', hc', h⟩ := bind_eq_ok.mp h
  obtain ⟨b₁, hb₁, rfl⟩ := foldlM_addNodeChild_alone hc'
  cases h
  refine ⟨{ b₁ with
    nodes := b₁.nodes.push ⟨address, e.attribute? Schema.script, none, b₁.ports⟩ }, ?_, ?_⟩
  · have hstart : ({ Builder.empty with ports := NodePorts.absent } : Builder) = Builder.empty :=
      rfl
    simp only [addNode, claimAddress_alone ha, buildNode, hstart, hb₀, hb₁, ok_bind]
    rfl
  · simp only [andThen, append_map_push, Node.shift]

/-- **The run**: the nodes among the children of the root are taken in one behind the other. -/
theorem foldlM_addRootChild_alone {es : List Element} {b' : Builder}
    (h : es.foldlM addRootChild base = .ok b') :
    ∃ bs, List.Forall₂ (fun e b => Builder.empty.addNode e = .ok b)
        (es.filter fun e => e.name == Schema.node) bs ∧ b' = bs.foldl andThen base := by
  induction es generalizing base with
  | nil =>
    cases h
    exact ⟨[], List.Forall₂.nil, rfl⟩
  | cons e es ih =>
    rw [List.foldlM_cons] at h
    obtain ⟨next, hnext, h⟩ := bind_eq_ok.mp h
    unfold addRootChild at hnext
    split at hnext
    · rename_i hname
      obtain ⟨b, hb, rfl⟩ := addNode_alone hnext
      obtain ⟨bs, hbs, hb'⟩ := ih h
      refine ⟨b :: bs, ?_, hb'⟩
      rw [List.filter_cons_of_pos (by simpa using hname)]
      exact List.Forall₂.cons hb hbs
    · -- a script or a driver leaves the builder as it is
      rename_i hname
      rw [List.filter_cons_of_neg (by simpa using hname)]
      split at hnext
      · cases hnext
        exact ih h
      · nomatch hnext

/-! ## Graphs in a row -/

/-- What is taken from the graphs, one after the other, each with the number of resources in those
    before it and in `n` more. -/
def stacked {α : Type} (part : Nat → Builder → List α) (n : Nat) : List Builder → List α
  | [] => []
  | b :: bs => part n b ++ stacked part (n + b.arena.size) bs

/-- What is added graph by graph is the graphs in a row. -/
theorem stacked_of_andThen {α : Type} (all : Builder → List α) (part : Nat → Builder → List α)
    (step : ∀ base b, all (base.andThen b) = all base ++ part base.arena.size b) (base : Builder)
    (bs : List Builder) :
    all (bs.foldl andThen base) = all base ++ stacked part base.arena.size bs := by
  induction bs generalizing base with
  | nil => simp [stacked]
  | cons b bs ih =>
    rw [List.foldl_cons, ih, step, List.append_assoc, stacked]
    simp [andThen]

end Builder

/-! ## Documents -/

/-- The graph of the configuration is the graphs `bs` in a row, the handles of each shifted by the
    number of resources in those before it. -/
structure Configuration.Stacks (c : Configuration) (bs : List Builder) : Prop where
  arena : c.arena.toList =
    Builder.stacked (fun n b => b.arena.toList.map (Resource.shift n)) 0 bs
  endpoints : c.endpoints =
    Builder.stacked (fun n b => b.endpoints.toList.map (Endpoint.shift n)) 0 bs
  /-- The nodes are the same but for their scripts. -/
  nodes : List.Forall₂ Node.Relinked
    (Builder.stacked (fun n b => b.nodes.toList.map (Node.shift n)) 0 bs) c.nodes

/-- **Independence**: every node of a document that compiles is taken in alone, and the document
    compiles to the graphs of its nodes in a row. -/
theorem independent_of_compile {text : String} {c : Configuration} (h : compile text = .ok c) :
    ∃ root bs, Element.ofText text = .ok root ∧
      List.Forall₂ (fun e b => Builder.empty.addNode e = .ok b)
        (root.childrenNamed Schema.node) bs ∧ c.Stacks bs := by
  obtain ⟨root, hroot, h⟩ := compile_eq_ok.mp h
  obtain ⟨b, scripts, -, hb, -, hnodes, -, -, hends, harena⟩ := compileElement_eq_ok.mp h
  obtain ⟨bs, hbs, rfl⟩ := Builder.foldlM_addRootChild_alone hb
  refine ⟨root, bs, hroot, hbs, ?_, ?_, ?_⟩
  · rw [harena]
    exact Builder.stacked_of_andThen (fun b => b.arena.toList)
      (fun n b => b.arena.toList.map (Resource.shift n))
      (fun base b => Arena.toList_andThen base.arena b.arena) Builder.empty bs
  · rw [hends]
    exact Builder.stacked_of_andThen (fun b => b.endpoints.toList) _
      (fun base b => by simp [Builder.andThen]) Builder.empty bs
  · have hstacked := Builder.stacked_of_andThen (fun b => b.nodes.toList)
      (fun n b => b.nodes.toList.map (Node.shift n)) (fun base b => by simp [Builder.andThen])
      Builder.empty bs
    rw [hstacked] at hnodes
    exact linkScripts_keeps hnodes

/-- Two nodes, a source and a sink of one route. -/
def pairDocument : String :=
  String.ofList (["<Unicens AsyncBandwidth='0'>", "<Node Address='1'><AVPConnection>",
    "<MediaLBSocket ChannelAddress='10' ", "Bandwidth='4'/>",
    "<NetworkSocket Bandwidth='4' Route='a'/>", "</AVPConnection></Node>",
    "<Node Address='2'><AVPConnection>", "<NetworkSocket Bandwidth='4' Route='a'/>",
    "<MediaLBSocket ChannelAddress='12' ", "Bandwidth='4'/>",
    "</AVPConnection></Node></Unicens>"].flatMap String.toList)

/-- The tree of the document. -/
def pairRoot : Element :=
  ⟨"Unicens", [("AsyncBandwidth", "0")], [
    ⟨"Node", [("Address", "1")], [
      ⟨"AVPConnection", [], [
        ⟨"MediaLBSocket", [("ChannelAddress", "10"), ("Bandwidth", "4")], [], 1⟩,
        ⟨"NetworkSocket", [("Bandwidth", "4"), ("Route", "a")], [], 1⟩], 1⟩], 1⟩,
    ⟨"Node", [("Address", "2")], [
      ⟨"AVPConnection", [], [
        ⟨"NetworkSocket", [("Bandwidth", "4"), ("Route", "a")], [], 1⟩,
        ⟨"MediaLBSocket", [("ChannelAddress", "12"), ("Bandwidth", "4")], [], 1⟩], 1⟩], 1⟩], 1⟩

/-- The document compiles, to two nodes and ten resources. -/
theorem compile_pairDocument : ∃ c, compile pairDocument = .ok c ∧
    (c.nodes.length, c.arena.size) = (2, 10) := by
  have htext : Element.ofText pairDocument = .ok pairRoot := by
    unfold Element.ofText pairDocument
    simp only [String.toList_ofList]
    cbv
  have h : (compileElement pairRoot).map (fun c => (c.nodes.length, c.arena.size)) =
      .ok (2, 10) := by
    decide +kernel
  obtain ⟨c, hc, hcounts⟩ := map_eq_ok.mp h
  exact ⟨c, compile_eq_ok.mpr ⟨pairRoot, htext, hc⟩, hcounts⟩

theorem independent_pairDocument : ∃ c, compile pairDocument = .ok c ∧ c.nodes.length = 2 ∧
    ∃ root bs, Element.ofText pairDocument = .ok root ∧
      List.Forall₂ (fun e b => Builder.empty.addNode e = .ok b)
        (root.childrenNamed Schema.node) bs ∧ c.Stacks bs := by
  obtain ⟨c, hc, hcounts⟩ := compile_pairDocument
  exact ⟨c, hc, congrArg Prod.fst hcounts, independent_of_compile hc⟩

end MediaNetwork

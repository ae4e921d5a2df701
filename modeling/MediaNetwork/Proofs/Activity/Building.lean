/-
  Graphs without activity.

  The bare form of a graph differs from it in nothing but what network sockets say of their routes:
  the resources have the same handles, and ports, nodes, endpoints and links are the same.  No step
  of the builder looks at what is missing, so whatever is created from a declaration in a graph, its
  bare form is created from the bare declaration in the bare graph (`join_bare`).  With what is
  known of the readers this gives the graph of a bare document (`mirrors_buildNodes`).
-/
import MediaNetwork.Compile
import MediaNetwork.Proofs.Activity.Reading

namespace MediaNetwork

open MediaNetwork.Markup MediaNetwork.Markup.Element MediaNetwork.Outcome

/-! ## Bare graphs -/

/-- What a socket stands on, without what a network socket says of activity. -/
def SocketKind.bare (ids : Bool) : SocketKind → SocketKind
  | network bandwidth route => network bandwidth (route.bare ids)
  | usb endpointAddress framesPerTransaction => usb endpointAddress framesPerTransaction
  | mediaLb channelAddress bandwidth => mediaLb channelAddress bandwidth
  | stream pin bandwidth => stream pin bandwidth

/-- A resource without what it says of activity. -/
def Resource.bare (ids : Bool) : Resource → Resource
  | port p => port p
  | socket s => socket { s with kind := s.kind.bare ids }
  | splitter f => splitter f
  | combiner f => combiner f
  | connection k => connection k

/-- The resources in their bare forms, with the same handles. -/
def Arena.bare (ids : Bool) (a : Arena) : Arena := ⟨a.resources.map (Resource.bare ids)⟩

/-- A graph whose resources are in their bare forms. -/
def Builder.bare (ids : Bool) (b : Builder) : Builder := { b with arena := b.arena.bare ids }

variable {ids : Bool}

/-- What kind of socket it is does not depend on its route. -/
@[simp] theorem Resource.isNetworkSocket_bare (r : Resource) :
    (r.bare ids).isNetworkSocket = r.isNetworkSocket := by
  cases r with
  | socket s =>
    obtain ⟨port, direction, dataType, kind⟩ := s
    cases kind <;> rfl
  | _ => rfl

@[simp] theorem NetworkDecl.offset_bare (d : NetworkDecl) : (d.bare ids).offset = d.offset := rfl

namespace SocketDecl

variable (s : SocketDecl)

/-- The kind of a socket loses what its declaration does. -/
@[simp] theorem kind_bare : (s.bare ids).kind = s.kind.bare ids := by
  cases s <;> rfl

@[simp] theorem isNetwork_bare : (s.bare ids).isNetwork = s.isNetwork := by
  cases s <;> rfl

@[simp] theorem offset?_bare : (s.bare ids).offset? = s.offset? := by
  cases s <;> rfl

end SocketDecl

namespace ConnectionDecl

variable (d : ConnectionDecl)

@[simp] theorem node_bare : (d.bare ids).node = d.node := rfl

@[simp] theorem style_bare : (d.bare ids).style = d.style := rfl

@[simp] theorem link_bare : (d.bare ids).link = d.link := rfl

@[simp] theorem line_bare : (d.bare ids).line = d.line := rfl

end ConnectionDecl

namespace Arena

variable (a : Arena)

/-- An arena without activity is as long as before. -/
@[simp] theorem next_bare : (a.bare ids).next = a.next := by
  simp [next, bare, size]

/-- What is added without activity is what was added, without it. -/
theorem push_bare (r : Resource) : (a.bare ids).push (r.bare ids) = (a.push r).bare ids := by
  simp [push, bare]

/-- Reading a handle commutes with leaving activity out. -/
theorem get?_bare (id : ResourceId) :
    (a.bare ids).get? id = (a.get? id).map (Resource.bare ids) := by
  simp [get?, bare]

theorem get_bare (id : ResourceId) : (a.bare ids).get id = (a.get id).map (Resource.bare ids) := by
  unfold get
  rw [get?_bare]
  cases a.get? id <;> rfl

end Arena

/-! ## Building -/

namespace Builder

variable (b : Builder)

/-- A resource gets the same handle. -/
theorem alloc_bare (r : Resource) :
    (b.bare ids).alloc (r.bare ids) = ((b.alloc r).1, (b.alloc r).2.bare ids) := by
  simp only [alloc, bare, Arena.next_bare, Arena.push_bare]

theorem alloc_port_bare (p : Port) :
    (b.bare ids).alloc (.port p) = ((b.alloc (.port p)).1, (b.alloc (.port p)).2.bare ids) :=
  alloc_bare b (.port p)

/-- A port is found, or made, where it was. -/
theorem portIn_bare (slot : Option ResourceId) (p : Port) (fill : ResourceId → NodePorts) :
    (b.bare ids).portIn slot p fill =
      ((b.portIn slot p fill).1, (b.portIn slot p fill).2.bare ids) := by
  cases slot with
  | some id => rfl
  | none =>
    have hnext : (b.bare ids).arena.next = b.arena.next := Arena.next_bare b.arena
    simp only [portIn, alloc_port_bare, hnext]
    rfl

theorem networkPort_bare (node : UInt16) : (b.bare ids).networkPort node =
    ((b.networkPort node).1, (b.networkPort node).2.bare ids) := by
  rw [networkPort_eq, networkPort_eq]
  exact portIn_bare b _ _ _

theorem usbPort_bare (node : UInt16) : (b.bare ids).usbPort node =
    ((b.usbPort node).1, (b.usbPort node).2.bare ids) := by
  rw [usbPort_eq, usbPort_eq]
  exact portIn_bare b _ _ _

theorem mediaLbPort_bare (node : UInt16) : (b.bare ids).mediaLbPort node =
    ((b.mediaLbPort node).1, (b.mediaLbPort node).2.bare ids) := by
  rw [mediaLbPort_eq, mediaLbPort_eq]
  exact portIn_bare b _ _ _

/-- A socket is attached to the same port, through the same jobs. -/
theorem attach_bare (node : UInt16) (combiner : Option ResourceId) (jobs : JobList)
    (s : SocketDecl) : (b.bare ids).attach node combiner jobs (s.bare ids) =
      ((b.attach node combiner jobs s).1, (b.attach node combiner jobs s).2.1,
        (b.attach node combiner jobs s).2.2.bare ids) := by
  cases s with
  | network decl =>
    simp only [SocketDecl.bare, attach, networkPort_bare]
    cases combiner <;> rfl
  | usb endpointAddress framesPerTransaction =>
    simp only [SocketDecl.bare, attach, usbPort_bare]
  | mediaLb channelAddress bandwidth =>
    simp only [SocketDecl.bare, attach, mediaLbPort_bare]
  | stream ports pin bandwidth => rfl

/-- A socket gets the same handle and the same jobs, without its activity. -/
theorem addSocket_bare (node : UInt16) (dataType : DataType) (direction : Direction)
    (combiner : Option ResourceId) (jobs : JobList) (s : SocketDecl) :
    (b.bare ids).addSocket node dataType direction combiner jobs (s.bare ids) =
      ((b.addSocket node dataType direction combiner jobs s).1,
        (b.addSocket node dataType direction combiner jobs s).2.1,
        (b.addSocket node dataType direction combiner jobs s).2.2.bare ids) := by
  have halloc : (((b.attach node combiner jobs s).2.2).bare ids).alloc (.socket
      ⟨(b.attach node combiner jobs s).1, direction, dataType, s.kind.bare ids⟩) = _ :=
    alloc_bare _ (.socket ⟨_, direction, dataType, s.kind⟩)
  simp only [addSocket, attach_bare, SocketDecl.kind_bare, halloc]

/-! ## Connections -/

variable (d : ConnectionDecl)

/-- The connection and its endpoint are made of the same handles. -/
theorem finish_bare (jobs : JobList) (socketIn socketOut : ResourceId) (offset : Option UInt16)
    (kind : EndpointKind) (networkSocket : ResourceId) :
    (b.bare ids).finish (d.bare ids) jobs socketIn socketOut offset kind networkSocket =
      (b.finish d jobs socketIn socketOut offset kind networkSocket).bare ids := by
  have halloc : (b.bare ids).alloc (.connection ⟨socketIn, socketOut, d.style.kind offset⟩) = _ :=
    alloc_bare b (.connection ⟨socketIn, socketOut, d.style.kind offset⟩)
  simp only [finish, halloc, ConnectionDecl.style_bare, ConnectionDecl.node_bare,
    ConnectionDecl.link_bare, ConnectionDecl.line_bare]
  cases d.link <;> rfl

/-- **Plain connections** are created the same, without activity. -/
theorem connectPlain_bare (input output : SocketDecl) :
    (b.bare ids).connectPlain (d.bare ids) (input.bare ids) (output.bare ids) =
      (b.connectPlain d input output).bare ids := by
  simp only [connectPlain, addSocket_bare, ConnectionDecl.node_bare, ConnectionDecl.style_bare,
    SocketDecl.isNetwork_bare, SocketDecl.offset?_bare, finish_bare]
  split <;> rfl

/-- One branch behind a splitter. -/
theorem connectOutput_bare (splitter : ResourceId) (shared : JobList) (branch : NetworkDecl) :
    connectOutput (d.bare ids) splitter shared (b.bare ids) (branch.bare ids) =
      (connectOutput d splitter shared b branch).bare ids := by
  have hsocket : (b.bare ids).addSocket d.node d.style.dataType .output none shared
      (.network (branch.bare ids)) = _ := addSocket_bare b _ _ _ _ _ (.network branch)
  simp only [connectOutput, ConnectionDecl.node_bare, ConnectionDecl.style_bare, hsocket,
    NetworkDecl.offset_bare, finish_bare]

/-- One branch before a combiner. -/
theorem connectInput_bare (combiner : ResourceId) (shared : JobList) (branch : NetworkDecl) :
    connectInput (d.bare ids) combiner shared (b.bare ids) (branch.bare ids) =
      (connectInput d combiner shared b branch).bare ids := by
  have hsocket : (b.bare ids).addSocket d.node d.style.dataType .input (some combiner) shared
      (.network (branch.bare ids)) = _ := addSocket_bare b _ _ _ _ _ (.network branch)
  simp only [connectInput, ConnectionDecl.node_bare, ConnectionDecl.style_bare, hsocket,
    NetworkDecl.offset_bare, finish_bare]

/-- The branches of a fan, one after the other. -/
theorem foldl_bare {f f' : Builder → NetworkDecl → Builder}
    (step : ∀ b branch, f' (b.bare ids) (branch.bare ids) = (f b branch).bare ids)
    (branches : List NetworkDecl) :
    (branches.map (NetworkDecl.bare ids)).foldl f' (b.bare ids) =
      (branches.foldl f b).bare ids := by
  induction branches generalizing b with
  | nil => rfl
  | cons branch branches ih => rw [List.map_cons, List.foldl_cons, List.foldl_cons, step, ih]

/-- **Fans of outputs** are created the same, branch by branch. -/
theorem connectFanOut_bare (input : SocketDecl) (bytesPerFrame : UInt16)
    (branches : List NetworkDecl) :
    (b.bare ids).connectFanOut (d.bare ids) (input.bare ids) bytesPerFrame
        (branches.map (NetworkDecl.bare ids)) =
      (b.connectFanOut d input bytesPerFrame branches).bare ids := by
  have halloc : ∀ (b : Builder) (i : ResourceId),
      (b.bare ids).alloc (.splitter ⟨i, bytesPerFrame⟩) = _ :=
    fun b i => alloc_bare b (.splitter ⟨i, bytesPerFrame⟩)
  simp only [connectFanOut, addSocket_bare, ConnectionDecl.node_bare, ConnectionDecl.style_bare,
    halloc]
  exact foldl_bare _ (fun b branch => connectOutput_bare b d _ _ branch) branches

/-- **Fans of inputs** are created the same, branch by branch. -/
theorem connectFanIn_bare (bytesPerFrame : UInt16) (branches : List NetworkDecl)
    (output : SocketDecl) :
    (b.bare ids).connectFanIn (d.bare ids) bytesPerFrame (branches.map (NetworkDecl.bare ids))
        (output.bare ids) =
      (b.connectFanIn d bytesPerFrame branches output).bare ids := by
  have halloc : ∀ (b : Builder) (o : ResourceId),
      (b.bare ids).alloc (.combiner ⟨o, bytesPerFrame⟩) = _ :=
    fun b o => alloc_bare b (.combiner ⟨o, bytesPerFrame⟩)
  simp only [connectFanIn, addSocket_bare, ConnectionDecl.node_bare, ConnectionDecl.style_bare,
    halloc]
  exact foldl_bare _ (fun b branch => connectInput_bare b d _ _ branch) branches

/-- **Connections** are joined in the bare graph as in the graph, refusals included. -/
theorem join_bare : (b.bare ids).join (d.bare ids) = (b.join d).map (bare ids) := by
  have hcheck : (b.bare ids).checkLink (d.bare ids) = b.checkLink d := rfl
  have hwiring : (d.bare ids).wiring = d.wiring.bare ids := rfl
  unfold join
  rw [hwiring]
  cases d.wiring with
  | plain input output =>
    simp only [Wiring.bare, joinPlain_eq, SocketDecl.isNetwork_bare, hcheck, connectPlain_bare,
      ConnectionDecl.style_bare, ConnectionDecl.node_bare, ConnectionDecl.line_bare]
    split
    · cases b.checkLink d <;> rfl
    · rfl
  | fanOut input bytesPerFrame branches =>
    simp only [Wiring.bare, joinFanOut_eq, connectFanOut_bare, map_ok]
  | fanIn bytesPerFrame branches output =>
    simp only [Wiring.bare, joinFanIn_eq, connectFanIn_bare, map_ok]

/-! ## Ports -/

theorem withMediaLb_bare (node : UInt16) (clock? : Option MlbClock) :
    (b.bare ids).withMediaLb node clock? = (b.withMediaLb node clock?).bare ids := by
  cases clock? with
  | none => rfl
  | some clock =>
    simp only [withMediaLb, alloc_port_bare]
    rfl

theorem withUsb_bare (node : UInt16) (settings? : Option UsbSettings) :
    (b.bare ids).withUsb node settings? = (b.withUsb node settings?).bare ids := by
  cases settings? with
  | none => rfl
  | some settings =>
    simp only [withUsb, alloc_port_bare]
    rfl

theorem withStream_bare (node : UInt16) (settings? : Option StreamSettings) :
    (b.bare ids).withStream node settings? = (b.withStream node settings?).bare ids := by
  cases settings? with
  | none => rfl
  | some settings =>
    simp only [withStream, alloc_port_bare]
    rfl

/-- **Ports** are declared in the bare graph as in the graph. -/
theorem declarePorts_bare (node : UInt16) (e : Element) :
    (b.bare ids).declarePorts node (e.bare ids) = (b.declarePorts node e).map (bare ids) := by
  unfold declarePorts
  simp only [declareMediaLb_eq, declareUsb_eq, declareStream_eq, readMediaLb_bare, readUsb_bare,
    readStream_bare, bind_map, map_bind, withMediaLb_bare, withUsb_bare]
  congr 1
  funext clock?
  congr 1
  funext settings?
  cases readStream node e with
  | error fault => rfl
  | ok stream? => exact congrArg Except.ok (withStream_bare _ node stream?)

/-! ## Nodes -/

section Nodes

variable {sure : Prop} {root : Element} (hsure : sure → ids = false ∧ root.ValidActivity)
  {e : Element} (he : e ∈ root.members)

include hsure he

/-- **One connection** is refused for the same reason or created the same, without activity. -/
theorem mirrors_addConnection (node : UInt16) (style : ConnectionStyle) :
    Mirrors sure (bare ids) (b.addConnection node style e)
      ((b.bare ids).addConnection node style (e.bare ids)) := by
  have hlink : (e.bare ids).attribute? Schema.link = e.attribute? Schema.link :=
    attribute?_bare_of_kept e (by decide)
  unfold addConnection
  rw [hlink]
  have hread : Mirrors sure (ConnectionDecl.bare ids)
      (ConnectionDecl.atSite ⟨e, node, b.ports.stream, style, b.hasLink (e.attribute? Schema.link)⟩)
      (ConnectionDecl.atSite ⟨e.bare ids, node, b.ports.stream, style,
        b.hasLink (e.attribute? Schema.link)⟩) := ConnectionDecl.mirrors_atSite hsure he
  exact hread.bind fun d _ => Mirrors.of_eq_map (join_bare b d)

/-- A child of a node is taken in by the bare graph as by the graph. -/
theorem mirrors_addNodeChild (node : UInt16) : Mirrors sure (bare ids) (addNodeChild node b e)
    (addNodeChild node (b.bare ids) (e.bare ids)) := by
  have hport : isPort (e.bare ids) = isPort e := by
    unfold isPort
    rw [name_bare]
  have hstyle : ConnectionStyle.ofElement? (e.bare ids) = ConnectionStyle.ofElement? e := by
    simp (disch := decide) only [ConnectionStyle.ofElement?, name_bare, keyword?_bare]
  unfold addNodeChild
  rw [hport, hstyle, name_bare, line_bare]
  split
  · exact Mirrors.ok (bare ids) b
  · cases ConnectionStyle.ofElement? e with
    | none => exact Mirrors.of_eq_map rfl
    | some style =>
      exact Mirrors.bind_same style fun s _ => mirrors_addConnection b hsure he node s

/-- **Nodes** are taken in by the bare graph as by the graph. -/
theorem mirrors_addNode :
    Mirrors sure (bare ids) (b.addNode e) ((b.bare ids).addNode (e.bare ids)) := by
  have hclaim : (b.bare ids).claimAddress (e.bare ids) = b.claimAddress e := by
    simp (disch := decide) only [claimAddress, word_bare, line_bare]
    rfl
  have hscript : (e.bare ids).attribute? Schema.script = e.attribute? Schema.script :=
    attribute?_bare_of_kept e (by decide)
  unfold addNode
  rw [hclaim]
  refine Mirrors.bind_same _ fun address _ => ?_
  unfold buildNode
  rw [hscript, children_bare]
  have hports : Mirrors sure (bare ids)
      ({ b with ports := NodePorts.absent }.declarePorts address e)
      ({ b.bare ids with ports := NodePorts.absent }.declarePorts address (e.bare ids)) :=
    Mirrors.of_eq_map (declarePorts_bare { b with ports := NodePorts.absent } address e)
  refine hports.bind fun c _ => ?_
  have hloop : Mirrors sure (bare ids) (e.children.foldlM (addNodeChild address) c)
      ((e.children.map (Element.bare ids)).foldlM (addNodeChild address) (c.bare ids)) := by
    refine Mirrors.foldlM (fun _ => True) (fun _ _ _ _ _ _ => trivial) (fun d x hx _ => ?_) trivial
    exact mirrors_addNodeChild d hsure (child_mem_members he hx) address
  exact hloop.bind fun d _ => Mirrors.of_eq_map rfl

end Nodes

end Builder

/-- **Graphs**: the bare document has the bare graph. -/
theorem mirrors_buildNodes {sure : Prop} {root : Element}
    (hsure : sure → ids = false ∧ root.ValidActivity) :
    Mirrors sure (Builder.bare ids) (buildNodes root) (buildNodes (root.bare ids)) := by
  have hempty : Builder.empty.bare ids = Builder.empty := by
    simp [Builder.bare, Arena.bare, Builder.empty, Arena.empty]
  have hchild : ∀ b : Builder, ∀ e ∈ root.children, Mirrors sure (Builder.bare ids)
      (b.addRootChild e) ((b.bare ids).addRootChild (e.bare ids)) := by
    intro b e he
    unfold Builder.addRootChild
    rw [name_bare, line_bare]
    split
    · exact Builder.mirrors_addNode b hsure (child_mem_members root.mem_members_self he)
    split
    · exact Mirrors.ok (Builder.bare ids) b
    · exact Mirrors.of_eq_map rfl
  have hloop : Mirrors sure (Builder.bare ids)
      (root.children.foldlM Builder.addRootChild Builder.empty)
      ((root.children.map (bare ids)).foldlM Builder.addRootChild (Builder.empty.bare ids)) :=
    Mirrors.foldlM (fun _ => True) (fun _ _ _ _ _ _ => trivial) (fun b e he _ => hchild b e he)
      trivial
  unfold buildNodes
  rwa [hempty, ← children_bare] at hloop

end MediaNetwork

/-
  Graphs one behind the other.

  `base.andThen b` is the builder that holds everything of `base` and behind it everything of `b`,
  every handle of which is shifted by the number of resources in `base`.  The ports are those of
  `b`, since they are the ports of the node at work.

  Handles are only ever passed on and compared with each other, so whatever the builder does, doing
  it to `b` and shifting is the same as shifting and doing it to `base.andThen b`.  Each operation
  has one equation for this, from the creation of a resource (`alloc_andThen`) to that of a whole
  connection element (`connect_andThen`); what is compared is only whether a job is on a list
  already (`JobList.shift_push`).
-/
import MediaNetwork.Proofs.Graph.Joining

namespace MediaNetwork

/-! ## Shifted handles -/

/-- The handle behind `n` more resources. -/
def ResourceId.shift (n : Nat) (id : ResourceId) : ResourceId := ⟨n + id.index⟩

/-- Handles are shifted without falling together. -/
theorem ResourceId.shift_inj {n : Nat} {id id' : ResourceId} :
    id.shift n = id'.shift n ↔ id = id' := by
  obtain ⟨i⟩ := id
  obtain ⟨i'⟩ := id'
  simp [shift]

/-- A resource with the handles it holds shifted. -/
def Resource.shift (n : Nat) : Resource → Resource
  | port p => port p
  | socket s => socket { s with port := s.port.shift n }
  | splitter f => splitter { f with socketIn := f.socketIn.shift n }
  | combiner f => combiner { f with socketOut := f.socketOut.shift n }
  | connection k =>
    connection { k with socketIn := k.socketIn.shift n, socketOut := k.socketOut.shift n }

/-- A job list with its handles shifted. -/
def JobList.shift (n : Nat) (l : JobList) : JobList := ⟨l.jobs.map (ResourceId.shift n)⟩

/-- Shifting does not change which handles are equal. -/
theorem JobList.shift_push (n : Nat) (l : JobList) (id : ResourceId) :
    (l.push id).shift n = (l.shift n).push (id.shift n) := by
  have hcontains : (l.shift n).contains (id.shift n) = l.contains id := by
    rw [Bool.eq_iff_iff, contains_iff, contains_iff]
    simp [shift, toList, ResourceId.shift_inj]
  unfold push
  rw [hcontains]
  split
  · rfl
  · simp [shift]

/-- Both halves of a stream port, shifted. -/
def shiftPair (n : Nat) (pair : ResourceId × ResourceId) : ResourceId × ResourceId :=
  (pair.1.shift n, pair.2.shift n)

/-- Port slots with their handles shifted. -/
def NodePorts.shift (n : Nat) (ports : NodePorts) : NodePorts where
  network := ports.network.map (ResourceId.shift n)
  mediaLb := ports.mediaLb.map (ResourceId.shift n)
  usb := ports.usb.map (ResourceId.shift n)
  stream := ports.stream.map (shiftPair n)

/-- A node with its port handles shifted. -/
def Node.shift (n : Nat) (node : Node) : Node := { node with ports := node.ports.shift n }

/-- An endpoint with its handles shifted. -/
def Endpoint.shift (n : Nat) (e : Endpoint) : Endpoint :=
  { e with
    jobs := e.jobs.shift n
    connection := e.connection.shift n
    networkSocket := e.networkSocket.shift n }

/-- A link candidate with its handle shifted. -/
def LinkCandidate.shift (n : Nat) (l : LinkCandidate) : LinkCandidate :=
  { l with connection := l.connection.shift n }

/-! ## Shifted declarations -/

/-- A declared socket; that of a stream socket names the ports of its node. -/
def SocketDecl.shift (n : Nat) : SocketDecl → SocketDecl
  | stream ports pin bandwidth => stream (shiftPair n ports) pin bandwidth
  | network decl => network decl
  | usb endpointAddress framesPerTransaction => usb endpointAddress framesPerTransaction
  | mediaLb channelAddress bandwidth => mediaLb channelAddress bandwidth

/-- A wiring with its declared sockets shifted; branches are network sockets. -/
def Wiring.shift (n : Nat) : Wiring → Wiring
  | plain input output => plain (input.shift n) (output.shift n)
  | fanOut input bytesPerFrame branches => fanOut (input.shift n) bytesPerFrame branches
  | fanIn bytesPerFrame branches output => fanIn bytesPerFrame branches (output.shift n)

/-- A declared connection with its declared sockets shifted. -/
def ConnectionDecl.shift (n : Nat) (d : ConnectionDecl) : ConnectionDecl :=
  { d with wiring := d.wiring.shift n }

@[simp] theorem ConnectionDecl.node_shift (n : Nat) (d : ConnectionDecl) :
    (d.shift n).node = d.node := rfl

@[simp] theorem ConnectionDecl.style_shift (n : Nat) (d : ConnectionDecl) :
    (d.shift n).style = d.style := rfl

namespace SocketDecl

variable (n : Nat) (s : SocketDecl)

/-- What kind of socket a declaration is does not depend on handles. -/
@[simp] theorem kind_shift : (s.shift n).kind = s.kind := by
  cases s <;> rfl

@[simp] theorem isNetwork_shift : (s.shift n).isNetwork = s.isNetwork := by
  cases s <;> rfl

@[simp] theorem offset?_shift : (s.shift n).offset? = s.offset? := by
  cases s <;> rfl

end SocketDecl

/-! ## One graph behind another -/

/-- What is added at the end stays at the end. -/
theorem append_map_push {α : Type} (f : α → α) (xs ys : Array α) (y : α) :
    xs ++ (ys.push y).map f = (xs ++ ys.map f).push (f y) := by
  simp

/-- The resources of one arena and behind them those of another. -/
def Arena.andThen (base a : Arena) : Arena :=
  ⟨base.resources ++ a.resources.map (Resource.shift base.size)⟩

namespace Arena

variable (base a : Arena)

/-- The resources of the one graph, then those of the other with their handles shifted. -/
@[simp] theorem toList_andThen :
    (base.andThen a).toList = base.toList ++ a.toList.map (Resource.shift base.size) := by
  simp [andThen, toList]

@[simp] theorem size_andThen : (base.andThen a).size = base.size + a.size := by
  simp [andThen, size]

/-- The next handle, of the two graphs one after the other, is the shifted next handle of the
    latter. -/
theorem next_andThen : (base.andThen a).next = a.next.shift base.size := by
  simp [next, ResourceId.shift]

/-- A resource created in the latter graph is created in the whole, with its handles shifted. -/
theorem andThen_push (r : Resource) :
    base.andThen (a.push r) = (base.andThen a).push (r.shift base.size) :=
  congrArg Arena.mk (append_map_push _ _ _ _)

end Arena

namespace Builder

/-- Everything of `base` and behind it everything of `b`; the node at work is that of `b`. -/
def andThen (base b : Builder) : Builder where
  arena := base.arena.andThen b.arena
  ports := b.ports.shift base.arena.size
  nodes := base.nodes ++ b.nodes.map (Node.shift base.arena.size)
  endpoints := base.endpoints ++ b.endpoints.map (Endpoint.shift base.arena.size)
  links := base.links ++ b.links.map (LinkCandidate.shift base.arena.size)

variable (base b : Builder)

/-- Creating a resource behind another graph gives the shifted handle and the same graph behind. -/
theorem alloc_andThen (r : Resource) : (base.andThen b).alloc (r.shift base.arena.size) =
    ((b.alloc r).1.shift base.arena.size, base.andThen (b.alloc r).2) := by
  simp only [alloc, andThen, Arena.next_andThen, Arena.andThen_push]

/-- A port holds no handles, so the same port is created. -/
theorem alloc_port_andThen (p : Port) : (base.andThen b).alloc (.port p) =
    ((b.alloc (.port p)).1.shift base.arena.size, base.andThen (b.alloc (.port p)).2) :=
  alloc_andThen base b (.port p)

/-! ## Ports -/

/-- A slot is filled behind other graphs as it is filled alone, if it is filled in the same way. -/
theorem portIn_andThen (slot : Option ResourceId) (p : Port) {fill fill' : ResourceId → NodePorts}
    (hfill : ∀ id, fill' (id.shift base.arena.size) = (fill id).shift base.arena.size) :
    (base.andThen b).portIn (slot.map (ResourceId.shift base.arena.size)) p fill' =
      ((b.portIn slot p fill).1.shift base.arena.size,
        base.andThen (b.portIn slot p fill).2) := by
  cases slot with
  | some id => rfl
  | none =>
    have hnext : (base.andThen b).arena.next = b.arena.next.shift base.arena.size :=
      Arena.next_andThen base.arena b.arena
    simp only [portIn, Option.map_none, alloc_port_andThen, hnext, hfill]
    rfl

/-- **Network ports**: behind other graphs the port of a node is looked up or created as it is
    alone. -/
theorem networkPort_andThen (node : UInt16) : (base.andThen b).networkPort node =
    ((b.networkPort node).1.shift base.arena.size, base.andThen (b.networkPort node).2) := by
  rw [networkPort_eq, networkPort_eq]
  exact portIn_andThen base b _ _ fun _ => rfl

theorem usbPort_andThen (node : UInt16) : (base.andThen b).usbPort node =
    ((b.usbPort node).1.shift base.arena.size, base.andThen (b.usbPort node).2) := by
  rw [usbPort_eq, usbPort_eq]
  exact portIn_andThen base b _ _ fun _ => rfl

theorem mediaLbPort_andThen (node : UInt16) : (base.andThen b).mediaLbPort node =
    ((b.mediaLbPort node).1.shift base.arena.size, base.andThen (b.mediaLbPort node).2) := by
  rw [mediaLbPort_eq, mediaLbPort_eq]
  exact portIn_andThen base b _ _ fun _ => rfl

/-! ## Sockets -/

/-- **What a socket sits on** is found or created behind other graphs as it is alone, and the job
    list grows by the shifted handles. -/
theorem attach_andThen (node : UInt16) (combiner : Option ResourceId) (jobs : JobList)
    (s : SocketDecl) :
    (base.andThen b).attach node (combiner.map (ResourceId.shift base.arena.size))
        (jobs.shift base.arena.size) (s.shift base.arena.size) =
      ((b.attach node combiner jobs s).1.shift base.arena.size,
        (b.attach node combiner jobs s).2.1.shift base.arena.size,
        base.andThen (b.attach node combiner jobs s).2.2) := by
  cases s with
  | network decl =>
    simp only [SocketDecl.shift, attach, networkPort_andThen]
    cases combiner with
    | none => simp only [Option.map_none, JobList.shift_push]
    | some id => simp only [Option.map_some, JobList.shift_push]
  | usb endpointAddress framesPerTransaction =>
    simp only [SocketDecl.shift, attach, usbPort_andThen, JobList.shift_push]
  | mediaLb channelAddress bandwidth =>
    simp only [SocketDecl.shift, attach, mediaLbPort_andThen, JobList.shift_push]
  | stream ports pin bandwidth =>
    simp only [SocketDecl.shift, shiftPair, attach, JobList.shift_push]

/-- A socket is created behind other graphs as it is alone. -/
theorem addSocket_andThen (node : UInt16) (dataType : DataType) (direction : Direction)
    (combiner : Option ResourceId) (jobs : JobList) (s : SocketDecl) :
    (base.andThen b).addSocket node dataType direction
        (combiner.map (ResourceId.shift base.arena.size)) (jobs.shift base.arena.size)
        (s.shift base.arena.size) =
      ((b.addSocket node dataType direction combiner jobs s).1.shift base.arena.size,
        (b.addSocket node dataType direction combiner jobs s).2.1.shift base.arena.size,
        base.andThen (b.addSocket node dataType direction combiner jobs s).2.2) := by
  have halloc := alloc_andThen base (b.attach node combiner jobs s).2.2
    (.socket ⟨(b.attach node combiner jobs s).1, direction, dataType, s.kind⟩)
  simp only [Resource.shift] at halloc
  simp only [addSocket, attach_andThen, SocketDecl.kind_shift, halloc, JobList.shift_push]

/-- Likewise for a socket that is in no combiner. -/
theorem addSocket_free_andThen (node : UInt16) (dataType : DataType) (direction : Direction)
    (jobs : JobList) (s : SocketDecl) :
    (base.andThen b).addSocket node dataType direction none (jobs.shift base.arena.size)
        (s.shift base.arena.size) =
      ((b.addSocket node dataType direction none jobs s).1.shift base.arena.size,
        (b.addSocket node dataType direction none jobs s).2.1.shift base.arena.size,
        base.andThen (b.addSocket node dataType direction none jobs s).2.2) :=
  addSocket_andThen base b node dataType direction none jobs s

/-- Likewise for a socket that is the first on its job list. -/
theorem addSocket_first_andThen (node : UInt16) (dataType : DataType) (direction : Direction)
    (s : SocketDecl) :
    (base.andThen b).addSocket node dataType direction none JobList.empty
        (s.shift base.arena.size) =
      ((b.addSocket node dataType direction none JobList.empty s).1.shift base.arena.size,
        (b.addSocket node dataType direction none JobList.empty s).2.1.shift base.arena.size,
        base.andThen (b.addSocket node dataType direction none JobList.empty s).2.2) :=
  addSocket_free_andThen base b node dataType direction JobList.empty s

/-! ## Connections -/

variable (d : ConnectionDecl)

/-- **The last step**: the connection, its endpoint and its link are added behind other graphs as
    they are alone. -/
theorem finish_andThen (jobs : JobList) (socketIn socketOut : ResourceId)
    (offset : Option UInt16) (kind : EndpointKind) (networkSocket : ResourceId) :
    (base.andThen b).finish (d.shift base.arena.size) (jobs.shift base.arena.size)
        (socketIn.shift base.arena.size) (socketOut.shift base.arena.size) offset kind
        (networkSocket.shift base.arena.size) =
      base.andThen (b.finish d jobs socketIn socketOut offset kind networkSocket) := by
  have halloc := alloc_andThen base b
    (.connection ⟨socketIn, socketOut, d.style.kind offset⟩)
  simp only [Resource.shift] at halloc
  simp only [finish, ConnectionDecl.shift, halloc]
  cases d.link with
  | none =>
    simp only [andThen, append_map_push, Endpoint.shift, JobList.shift_push]
  | some link =>
    simp only [andThen, append_map_push, Endpoint.shift, LinkCandidate.shift, JobList.shift_push]

/-- A connection without a fan is built behind other graphs as it is alone. -/
theorem connectPlain_andThen (input output : SocketDecl) :
    (base.andThen b).connectPlain (d.shift base.arena.size) (input.shift base.arena.size)
        (output.shift base.arena.size) =
      base.andThen (b.connectPlain d input output) := by
  simp only [connectPlain, ConnectionDecl.node_shift, ConnectionDecl.style_shift,
    addSocket_first_andThen, addSocket_free_andThen, SocketDecl.isNetwork_shift,
    SocketDecl.offset?_shift, finish_andThen]
  split <;> rfl

/-- One branch behind a splitter. -/
theorem connectOutput_andThen (splitter : ResourceId) (shared : JobList) (branch : NetworkDecl) :
    connectOutput (d.shift base.arena.size) (splitter.shift base.arena.size)
        (shared.shift base.arena.size) (base.andThen b) branch =
      base.andThen (connectOutput d splitter shared b branch) := by
  have hsocket := addSocket_free_andThen base b d.node d.style.dataType .output shared
    (.network branch)
  simp only [SocketDecl.shift] at hsocket
  simp only [connectOutput, ConnectionDecl.node_shift, ConnectionDecl.style_shift, hsocket,
    finish_andThen]

/-- One branch before a combiner. -/
theorem connectInput_andThen (combiner : ResourceId) (shared : JobList) (branch : NetworkDecl) :
    connectInput (d.shift base.arena.size) (combiner.shift base.arena.size)
        (shared.shift base.arena.size) (base.andThen b) branch =
      base.andThen (connectInput d combiner shared b branch) := by
  have hsocket := addSocket_andThen base b d.node d.style.dataType .input (some combiner) shared
    (.network branch)
  simp only [Option.map_some, SocketDecl.shift] at hsocket
  simp only [connectInput, ConnectionDecl.node_shift, ConnectionDecl.style_shift, hsocket,
    finish_andThen]

/-- What holds of every step of a fold holds of the fold. -/
theorem foldl_andThen {α : Type} {f g : Builder → α → Builder}
    (step : ∀ b x, f (base.andThen b) x = base.andThen (g b x)) (xs : List α) :
    xs.foldl f (base.andThen b) = base.andThen (xs.foldl g b) := by
  induction xs generalizing b with
  | nil => rfl
  | cons x xs ih => rw [List.foldl_cons, List.foldl_cons, step, ih]

/-- A connection through a splitter is built behind other graphs as it is alone. -/
theorem connectFanOut_andThen (input : SocketDecl) (bytesPerFrame : UInt16)
    (branches : List NetworkDecl) :
    (base.andThen b).connectFanOut (d.shift base.arena.size) (input.shift base.arena.size)
        bytesPerFrame branches =
      base.andThen (b.connectFanOut d input bytesPerFrame branches) := by
  have halloc : ∀ (b : Builder) (i : ResourceId), (base.andThen b).alloc
      (.splitter ⟨i.shift base.arena.size, bytesPerFrame⟩) = _ :=
    fun b i => alloc_andThen base b (.splitter ⟨i, bytesPerFrame⟩)
  simp only [connectFanOut, ConnectionDecl.node_shift, ConnectionDecl.style_shift,
    addSocket_first_andThen, halloc, ← JobList.shift_push]
  exact foldl_andThen base _ (fun b branch => connectOutput_andThen base b d _ _ branch) branches

/-- A connection through a combiner is built behind other graphs as it is alone. -/
theorem connectFanIn_andThen (bytesPerFrame : UInt16) (branches : List NetworkDecl)
    (output : SocketDecl) :
    (base.andThen b).connectFanIn (d.shift base.arena.size) bytesPerFrame branches
        (output.shift base.arena.size) =
      base.andThen (b.connectFanIn d bytesPerFrame branches output) := by
  have halloc : ∀ (b : Builder) (o : ResourceId), (base.andThen b).alloc
      (.combiner ⟨o.shift base.arena.size, bytesPerFrame⟩) = _ :=
    fun b o => alloc_andThen base b (.combiner ⟨o, bytesPerFrame⟩)
  simp only [connectFanIn, ConnectionDecl.node_shift, ConnectionDecl.style_shift,
    addSocket_first_andThen, halloc]
  exact foldl_andThen base _ (fun b branch => connectInput_andThen base b d _ _ branch) branches

/-- **A connection element** creates the same behind other graphs, shifted. -/
theorem connect_andThen : (base.andThen b).connect (d.shift base.arena.size) =
    base.andThen (b.connect d) := by
  have hwiring : (d.shift base.arena.size).wiring = d.wiring.shift base.arena.size := rfl
  unfold connect
  rw [hwiring]
  cases d.wiring with
  | plain input output => exact connectPlain_andThen base b d input output
  | fanOut input bytesPerFrame branches =>
    exact connectFanOut_andThen base b d input bytesPerFrame branches
  | fanIn bytesPerFrame branches output =>
    exact connectFanIn_andThen base b d bytesPerFrame branches output

end Builder

end MediaNetwork

/-
  Declarations as they are printed.

  A connection is not printed as it was declared: a default that was spelled out is left out, and
  an offset on a socket that does not face the network is lost.  `ConnectionDecl.reprinted` is the
  declaration that the printed element makes.

  1. It asks for the same resources: `connect_alike` says that a builder that takes in the one and
     a builder that takes in the other stay alike.  Alike builders differ in the lines of their
     links at most, and no resource depends on a line.
  2. `ConnectionDecl.printed` is the printed element itself, written from the declaration.  That it
     is what is printed for the connection, and that it is read as `reprinted`, is shown elsewhere.
-/
import MediaNetwork.Print
import MediaNetwork.Proofs.Graph.Declared
import MediaNetwork.Proofs.Graph.Joining

namespace MediaNetwork

open MediaNetwork.Markup

/-! ## What is printed of a declaration, and what that declares -/

/-- The socket with another offset, if it has one. -/
def SocketDecl.withOffset (offset : Option UInt16) : SocketDecl → SocketDecl
  | network decl => network { decl with offset := offset }
  | s => s

/-- Another offset does not make a socket another one. -/
@[simp] theorem SocketDecl.isNetwork_withOffset (offset : Option UInt16) (s : SocketDecl) :
    (s.withOffset offset).isNetwork = s.isNetwork := by
  cases s <;> rfl

@[simp] theorem SocketDecl.kind_withOffset (offset : Option UInt16) (s : SocketDecl) :
    (s.withOffset offset).kind = s.kind := by
  cases s <;> rfl

/-- The element of a socket. -/
def SocketDecl.printed (offset : Option UInt16) (s : SocketDecl) : Printed :=
  Configuration.printSocketKind offset s.kind

namespace ConnectionStyle

/-- The offset that is printed for a plain connection between two sockets. -/
def plainOffset (style : ConnectionStyle) (input output : SocketDecl) : Option UInt16 :=
  Configuration.plainOffset
    (style.kind (if output.isNetwork then output.offset? else input.offset?))

/-- The offset that is printed for a branch of a fan. -/
def branchOffset (style : ConnectionStyle) (branch : NetworkDecl) : Option UInt16 :=
  Configuration.branchOffset (style.kind branch.offset)

/-- What the element of a branch declares. -/
def reprinted (style : ConnectionStyle) (branch : NetworkDecl) : NetworkDecl :=
  { branch with offset := style.branchOffset branch }

@[simp] theorem offset_reprinted (style : ConnectionStyle) (branch : NetworkDecl) :
    (style.reprinted branch).offset = style.branchOffset branch := rfl

/-- A branch is reprinted as the network socket with the offset that is printed of it. -/
theorem withOffset_network (style : ConnectionStyle) (branch : NetworkDecl) :
    (SocketDecl.network branch).withOffset (style.branchOffset branch) =
      .network (style.reprinted branch) := rfl

/-- Printing an offset and reading it keeps the kind of the connection. -/
theorem kind_plainOffset (style : ConnectionStyle) (offset : Option UInt16) :
    style.kind (Configuration.plainOffset (style.kind offset)) = style.kind offset := by
  cases style with
  | sync muteMode =>
    by_cases h : offset.getD 0 = 0
    · simp [kind, Configuration.plainOffset, h]
    · simp [kind, Configuration.plainOffset, h]
  | avPacketized packetSize => rfl

/-- So does the offset of a branch. -/
theorem kind_branchOffset (style : ConnectionStyle) (offset : Option UInt16) :
    style.kind (Configuration.branchOffset (style.kind offset)) = style.kind offset := by
  cases style <;> rfl

/-- So does a socket that is printed with its offset and read. -/
theorem kind_withOffset (style : ConnectionStyle) (s : SocketDecl) :
    style.kind (s.withOffset (Configuration.plainOffset (style.kind s.offset?))).offset? =
      style.kind s.offset? := by
  cases s with
  | network decl => exact style.kind_plainOffset decl.offset
  | _ => rfl

end ConnectionStyle

/-- What the children of the printed element declare. -/
def Wiring.reprinted (style : ConnectionStyle) : Wiring → Wiring
  | plain input output =>
    plain (input.withOffset (if output.isNetwork then none else style.plainOffset input output))
      (output.withOffset (if output.isNetwork then style.plainOffset input output else none))
  | fanOut input bytesPerFrame branches =>
    fanOut (input.withOffset none) bytesPerFrame (branches.map style.reprinted)
  | fanIn bytesPerFrame branches output =>
    fanIn bytesPerFrame (branches.map style.reprinted) (output.withOffset none)

/-- The children of the printed element. -/
def Wiring.printed (style : ConnectionStyle) : Wiring → List Printed
  | plain input output =>
    [input.printed (if output.isNetwork then none else style.plainOffset input output),
      output.printed (if output.isNetwork then style.plainOffset input output else none)]
  | fanOut input bytesPerFrame branches =>
    [input.printed none,
      .block Schema.splitter [(Schema.bytesPerFrame, decimalWord bytesPerFrame)]
        (branches.map fun b => (SocketDecl.network b).printed (style.branchOffset b))]
  | fanIn bytesPerFrame branches output =>
    [.block Schema.combiner [(Schema.bytesPerFrame, decimalWord bytesPerFrame)]
        (branches.map fun b => (SocketDecl.network b).printed (style.branchOffset b)),
      output.printed none]

namespace ConnectionDecl

/-- What the printed element declares, if it stands on this line. -/
def reprinted (line : Nat) (d : ConnectionDecl) : ConnectionDecl :=
  ⟨d.node, d.style, d.link, line, d.wiring.reprinted d.style⟩

@[simp] theorem node_reprinted (line : Nat) (d : ConnectionDecl) :
    (d.reprinted line).node = d.node := rfl

@[simp] theorem style_reprinted (line : Nat) (d : ConnectionDecl) :
    (d.reprinted line).style = d.style := rfl

/-- The printed element. -/
def printed (d : ConnectionDecl) : Printed :=
  .block (Configuration.connectionHead (d.style.kind none)).1
    ((Configuration.connectionHead (d.style.kind none)).2 :: optional Schema.link d.link)
    (d.wiring.printed d.style)

end ConnectionDecl

/-! ## Builders that differ in lines -/

/-- What a link candidate is, its line aside. -/
def LinkCandidate.key (l : LinkCandidate) : String × UInt16 × ResourceId :=
  (l.link, l.node, l.connection)

namespace Builder

/-- The builders are the same but for the lines of their links. -/
structure Alike (b b' : Builder) : Prop where
  arena : b'.arena = b.arena
  ports : b'.ports = b.ports
  nodes : b'.nodes = b.nodes
  endpoints : b'.endpoints = b.endpoints
  links : b'.links.toList.map LinkCandidate.key = b.links.toList.map LinkCandidate.key

theorem Alike.refl (b : Builder) : b.Alike b := ⟨rfl, rfl, rfl, rfl, rfl⟩

/-- A builder that is alike is the same builder with other links, of the same keys. -/
theorem Alike.exists_links {b b' : Builder} (h : b.Alike b') :
    ∃ links, b' = { b with links := links } ∧
      links.toList.map LinkCandidate.key = b.links.toList.map LinkCandidate.key := by
  obtain ⟨arena, ports, nodes, endpoints, links⟩ := b'
  obtain ⟨harena, hports, hnodes, hendpoints, hlinks⟩ := h
  cases harena
  cases hports
  cases hnodes
  cases hendpoints
  exact ⟨links, rfl, hlinks⟩

section Steps

variable {b b' : Builder} (h : b.Alike b')

include h

/-- The same handle is created in builders that are alike, and they stay alike. -/
theorem Alike.alloc (r : Resource) :
    ∃ id c c', b.alloc r = (id, c) ∧ b'.alloc r = (id, c') ∧ c.Alike c' := by
  obtain ⟨links, rfl, hlinks⟩ := h.exists_links
  exact ⟨_, _, _, rfl, rfl, rfl, rfl, rfl, rfl, hlinks⟩

/-- The same network port is looked up or created in builders that are alike. -/
theorem networkPort_alike (node : UInt16) : ∃ id c c', b.networkPort node = (id, c) ∧
    b'.networkPort node = (id, c') ∧ c.Alike c' := by
  obtain ⟨links, rfl, hlinks⟩ := h.exists_links
  unfold networkPort
  cases b.ports.network with
  | some id => exact ⟨_, _, _, rfl, rfl, h⟩
  | none => exact ⟨_, _, _, rfl, rfl, rfl, rfl, rfl, rfl, hlinks⟩

/-- Likewise the USB port of a node. -/
theorem usbPort_alike (node : UInt16) : ∃ id c c', b.usbPort node = (id, c) ∧
    b'.usbPort node = (id, c') ∧ c.Alike c' := by
  obtain ⟨links, rfl, hlinks⟩ := h.exists_links
  unfold usbPort
  cases b.ports.usb with
  | some id => exact ⟨_, _, _, rfl, rfl, h⟩
  | none => exact ⟨_, _, _, rfl, rfl, rfl, rfl, rfl, rfl, hlinks⟩

/-- Likewise the MediaLB port of a node. -/
theorem mediaLbPort_alike (node : UInt16) : ∃ id c c', b.mediaLbPort node = (id, c) ∧
    b'.mediaLbPort node = (id, c') ∧ c.Alike c' := by
  obtain ⟨links, rfl, hlinks⟩ := h.exists_links
  unfold mediaLbPort
  cases b.ports.mediaLb with
  | some id => exact ⟨_, _, _, rfl, rfl, h⟩
  | none => exact ⟨_, _, _, rfl, rfl, rfl, rfl, rfl, rfl, hlinks⟩

/-- A socket is created in the same way whatever its offset. -/
theorem addSocket_alike (node : UInt16) (dataType : DataType) (direction : Direction)
    (combiner : Option ResourceId) (jobs : JobList) (s : SocketDecl) (offset : Option UInt16) :
    ∃ id jobs' c c', b.addSocket node dataType direction combiner jobs s = (id, jobs', c) ∧
      b'.addSocket node dataType direction combiner jobs (s.withOffset offset) =
        (id, jobs', c') ∧ c.Alike c' := by
  have hattach : ∃ port jobs' c c', b.attach node combiner jobs s = (port, jobs', c) ∧
      b'.attach node combiner jobs (s.withOffset offset) = (port, jobs', c') ∧ c.Alike c' := by
    cases s with
    | network decl =>
      obtain ⟨id, c, c', hc, hc', halike⟩ := networkPort_alike h node
      simp only [SocketDecl.withOffset, attach, hc, hc']
      cases combiner <;> exact ⟨_, _, _, _, rfl, rfl, halike⟩
    | usb endpointAddress framesPerTransaction =>
      obtain ⟨id, c, c', hc, hc', halike⟩ := usbPort_alike h node
      simp only [SocketDecl.withOffset, attach, hc, hc']
      exact ⟨_, _, _, _, rfl, rfl, halike⟩
    | mediaLb channelAddress bandwidth =>
      obtain ⟨id, c, c', hc, hc', halike⟩ := mediaLbPort_alike h node
      simp only [SocketDecl.withOffset, attach, hc, hc']
      exact ⟨_, _, _, _, rfl, rfl, halike⟩
    | stream ports pin bandwidth => exact ⟨_, _, _, _, rfl, rfl, h⟩
  obtain ⟨port, jobs', c, c', hc, hc', halike⟩ := hattach
  obtain ⟨id, c₂, c₂', hc₂, hc₂', halike₂⟩ :=
    halike.alloc (.socket ⟨port, direction, dataType, s.kind⟩)
  simp only [addSocket, hc, hc', hc₂, hc₂', SocketDecl.kind_withOffset]
  exact ⟨_, _, _, _, rfl, rfl, halike₂⟩

/-- A connection is finished in the same way if its kind is the same. -/
theorem finish_alike (d : ConnectionDecl) (line : Nat) (jobs : JobList)
    (socketIn socketOut : ResourceId) {offset offset' : Option UInt16}
    (hkind : d.style.kind offset' = d.style.kind offset) (kind : EndpointKind)
    (networkSocket : ResourceId) :
    (b.finish d jobs socketIn socketOut offset kind networkSocket).Alike
      (b'.finish (d.reprinted line) jobs socketIn socketOut offset' kind networkSocket) := by
  obtain ⟨links, rfl, hlinks⟩ := h.exists_links
  simp only [finish, alloc, ConnectionDecl.reprinted, hkind]
  cases d.link with
  | none => exact ⟨rfl, rfl, rfl, rfl, hlinks⟩
  | some link =>
    refine ⟨rfl, rfl, rfl, rfl, ?_⟩
    simp [LinkCandidate.key, hlinks]

end Steps

/-! ## Connections -/

/-- **Connections without a fan**: what is printed of the two sockets, the offset with the one on
    the network, connects to the same graph. -/
theorem connectPlain_alike {b b' : Builder} (h : b.Alike b') (d : ConnectionDecl) (line : Nat)
    (input output : SocketDecl) :
    (b.connectPlain d input output).Alike
      (b'.connectPlain (d.reprinted line)
        (input.withOffset
          (if output.isNetwork then none else d.style.plainOffset input output))
        (output.withOffset
          (if output.isNetwork then d.style.plainOffset input output else none))) := by
  obtain ⟨i, jobs, c, c', hc, hc', halike⟩ := addSocket_alike h d.node d.style.dataType .input none
    JobList.empty input (if output.isNetwork then none else d.style.plainOffset input output)
  obtain ⟨o, jobs', c₂, c₂', hc₂, hc₂', halike₂⟩ := addSocket_alike halike d.node d.style.dataType
    .output none jobs output (if output.isNetwork then d.style.plainOffset input output else none)
  simp only [connectPlain, hc, hc₂, ConnectionDecl.node_reprinted, ConnectionDecl.style_reprinted,
    hc', hc₂', SocketDecl.isNetwork_withOffset]
  unfold ConnectionStyle.plainOffset
  by_cases hout : output.isNetwork = true
  · simp only [hout, if_true]
    exact finish_alike halike₂ d line jobs' i o (d.style.kind_withOffset output) .source o
  · simp only [hout, if_false, Bool.false_eq_true]
    exact finish_alike halike₂ d line jobs' i o (d.style.kind_withOffset input) .sink i

/-- The branches of a fan are created in the same way, one by one. -/
theorem foldl_alike {f g : Builder → NetworkDecl → Builder} {style : ConnectionStyle}
    (hstep : ∀ c c' branch, c.Alike c' → (f c branch).Alike (g c' (style.reprinted branch)))
    {b b' : Builder} (h : b.Alike b') (branches : List NetworkDecl) :
    (branches.foldl f b).Alike ((branches.map style.reprinted).foldl g b') := by
  induction branches generalizing b b' with
  | nil => exact h
  | cons branch branches ih => exact ih (hstep b b' branch h)

/-- A branch of a splitter connects as what is printed of it does. -/
theorem connectOutput_alike (d : ConnectionDecl) (line : Nat) (splitter : ResourceId)
    (shared : JobList) (b b' : Builder) (branch : NetworkDecl) (h : b.Alike b') :
    (connectOutput d splitter shared b branch).Alike
      (connectOutput (d.reprinted line) splitter shared b' (d.style.reprinted branch)) := by
  obtain ⟨o, jobs, c, c', hc, hc', halike⟩ := addSocket_alike h d.node d.style.dataType .output none
    shared (.network branch) (d.style.branchOffset branch)
  rw [ConnectionStyle.withOffset_network] at hc'
  simp only [connectOutput, hc, ConnectionDecl.node_reprinted, ConnectionDecl.style_reprinted, hc',
    ConnectionStyle.offset_reprinted]
  exact finish_alike halike d line jobs splitter o (d.style.kind_branchOffset branch.offset) _ o

/-- A branch of a combiner connects as what is printed of it does. -/
theorem connectInput_alike (d : ConnectionDecl) (line : Nat) (combiner : ResourceId)
    (shared : JobList) (b b' : Builder) (branch : NetworkDecl) (h : b.Alike b') :
    (connectInput d combiner shared b branch).Alike
      (connectInput (d.reprinted line) combiner shared b' (d.style.reprinted branch)) := by
  obtain ⟨i, jobs, c, c', hc, hc', halike⟩ := addSocket_alike h d.node d.style.dataType .input
    (some combiner) shared (.network branch) (d.style.branchOffset branch)
  rw [ConnectionStyle.withOffset_network] at hc'
  simp only [connectInput, hc, ConnectionDecl.node_reprinted, ConnectionDecl.style_reprinted, hc',
    ConnectionStyle.offset_reprinted]
  exact finish_alike halike d line jobs i combiner (d.style.kind_branchOffset branch.offset) _ i

/-- **What a printed connection asks for**: what was declared. -/
theorem connect_alike {b b' : Builder} (h : b.Alike b') (d : ConnectionDecl) (line : Nat) :
    (b.connect d).Alike (b'.connect (d.reprinted line)) := by
  have hwiring : (d.reprinted line).wiring = d.wiring.reprinted d.style := rfl
  unfold connect
  rw [hwiring]
  cases d.wiring with
  | plain input output => exact connectPlain_alike h d line input output
  | fanOut input bytesPerFrame branches =>
    obtain ⟨i, jobs, c, c', hc, hc', halike⟩ := addSocket_alike h d.node d.style.dataType .input
      none JobList.empty input none
    obtain ⟨splitter, c₂, c₂', hc₂, hc₂', halike₂⟩ :=
      halike.alloc (.splitter ⟨i, bytesPerFrame⟩)
    simp only [Wiring.reprinted, connectFanOut, hc, hc₂, ConnectionDecl.node_reprinted,
      ConnectionDecl.style_reprinted, hc', hc₂']
    exact foldl_alike (fun c c' branch => connectOutput_alike d line splitter _ c c' branch)
      halike₂ branches
  | fanIn bytesPerFrame branches output =>
    obtain ⟨o, jobs, c, c', hc, hc', halike⟩ := addSocket_alike h d.node d.style.dataType .output
      none JobList.empty output none
    obtain ⟨combiner, c₂, c₂', hc₂, hc₂', halike₂⟩ :=
      halike.alloc (.combiner ⟨o, bytesPerFrame⟩)
    simp only [Wiring.reprinted, connectFanIn, hc, hc₂, ConnectionDecl.node_reprinted,
      ConnectionDecl.style_reprinted, hc', hc₂']
    exact foldl_alike (fun c c' branch => connectInput_alike d line combiner _ c c' branch)
      halike₂ branches

end Builder

end MediaNetwork

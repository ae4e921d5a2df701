/-
  Joining the sides of connections.

  Joining looks both sides up in the arena, to see which of them faces the network.  Both were
  created just before, so the lookup finds what was declared, and what joining does is known
  beforehand: `connect` says it for a declared connection, without looking anything up.

  1. A socket that is created is found again, with its kind (`get?_addSocket`), and creating one
     touches nothing else (`quiet_addSocket`).
  2. A fan is always joined as `connect` says (`joinFanOut_eq`, `joinFanIn_eq`), by induction over
     its branches: the fan stays where it is, and the other side is on the network.
  3. A plain connection is, unless neither socket is on the network or the link is taken
     (`joinPlain_eq`).
  4. The links that are recorded name the line of the connection element
     (`linksOn_connect`).
-/
import MediaNetwork.Proofs.Graph.Sockets
import MediaNetwork.Proofs.Outcome

namespace MediaNetwork

open MediaNetwork.Outcome

namespace Builder

/-! ## What is joined -/

/-- What a connection of two sockets amounts to.  The output faces the network if it is a network
    socket, else the input does; the offset of that socket counts. -/
def connectPlain (b : Builder) (decl : ConnectionDecl) (input output : SocketDecl) : Builder :=
  let dataType := decl.style.dataType
  let (i, jobs, b) := b.addSocket decl.node dataType .input none JobList.empty input
  let (o, jobs, b) := b.addSocket decl.node dataType .output none jobs output
  if output.isNetwork then b.finish decl jobs i o output.offset? .source o
  else b.finish decl jobs i o input.offset? .sink i

/-- What one branch behind a splitter amounts to. -/
def connectOutput (decl : ConnectionDecl) (splitter : ResourceId) (shared : JobList)
    (b : Builder) (branch : NetworkDecl) : Builder :=
  let (o, jobs, b) :=
    b.addSocket decl.node decl.style.dataType .output none shared (.network branch)
  b.finish decl jobs splitter o branch.offset .source o

/-- What the connections of a splitter amount to. -/
def connectFanOut (b : Builder) (decl : ConnectionDecl) (input : SocketDecl)
    (bytesPerFrame : UInt16) (branches : List NetworkDecl) : Builder :=
  let (i, jobs, b) := b.addSocket decl.node decl.style.dataType .input none JobList.empty input
  let (splitter, b) := b.alloc (.splitter ⟨i, bytesPerFrame⟩)
  branches.foldl (connectOutput decl splitter (jobs.push splitter)) b

/-- What one branch before a combiner amounts to. -/
def connectInput (decl : ConnectionDecl) (combiner : ResourceId) (shared : JobList)
    (b : Builder) (branch : NetworkDecl) : Builder :=
  let (i, jobs, b) :=
    b.addSocket decl.node decl.style.dataType .input (some combiner) shared (.network branch)
  b.finish decl jobs i combiner branch.offset .sink i

/-- What the connections of a combiner amount to. -/
def connectFanIn (b : Builder) (decl : ConnectionDecl) (bytesPerFrame : UInt16)
    (branches : List NetworkDecl) (output : SocketDecl) : Builder :=
  let (o, jobs, b) := b.addSocket decl.node decl.style.dataType .output none JobList.empty output
  let (combiner, b) := b.alloc (.combiner ⟨o, bytesPerFrame⟩)
  branches.foldl (connectInput decl combiner jobs) b

/-- What everything a connection element declares amounts to. -/
def connect (b : Builder) (decl : ConnectionDecl) : Builder :=
  match decl.wiring with
  | .plain input output => b.connectPlain decl input output
  | .fanOut input bytesPerFrame branches => b.connectFanOut decl input bytesPerFrame branches
  | .fanIn bytesPerFrame branches output => b.connectFanIn decl bytesPerFrame branches output

/-! ## Ports -/

/-- The port in a slot of the node, created if there is none: what the network port, the USB port
    and the MediaLB port of a node have in common. -/
def portIn (b : Builder) (slot : Option ResourceId) (p : Port) (fill : ResourceId → NodePorts) :
    ResourceId × Builder :=
  match slot with
  | some id => (id, b)
  | none => ((b.alloc (.port p)).1, { (b.alloc (.port p)).2 with ports := fill b.arena.next })

section Ports

variable (b : Builder) (node : UInt16)

/-- Each of the three ports is the port in its slot, created with its own default. -/
theorem networkPort_eq : b.networkPort node =
    b.portIn b.ports.network ⟨node, .default, .network⟩
      fun id => { b.ports with network := some id } := by
  unfold networkPort portIn
  cases b.ports.network <;> rfl

theorem usbPort_eq : b.usbPort node =
    b.portIn b.ports.usb ⟨node, .default, .usb UsbSettings.default⟩
      fun id => { b.ports with usb := some id } := by
  unfold usbPort portIn
  cases b.ports.usb <;> rfl

theorem mediaLbPort_eq : b.mediaLbPort node =
    b.portIn b.ports.mediaLb ⟨node, .default, .mediaLb .fs256⟩
      fun id => { b.ports with mediaLb := some id } := by
  unfold mediaLbPort portIn
  cases b.ports.mediaLb <;> rfl

/-- A port touches nothing else, unless it is put in the slots of the stream port. -/
theorem quiet_portIn (slot : Option ResourceId) (p : Port) {fill : ResourceId → NodePorts}
    (hfill : ∀ id, (fill id).stream = b.ports.stream) : b.Quiet (b.portIn slot p fill).2 := by
  cases slot with
  | some id => exact Quiet.refl b
  | none => exact ⟨Arena.ExtendsTo.push _ _, rfl, rfl, rfl, hfill _⟩

end Ports

/-! ## Sockets are found again -/

section Sockets

variable (b : Builder) (node : UInt16) (dataType : DataType) (direction : Direction)
  (combiner : Option ResourceId) (jobs : JobList) (s : SocketDecl)

/-- What a socket sits on is found or created without touching anything else. -/
theorem quiet_attach : b.Quiet (b.attach node combiner jobs s).2.2 := by
  cases s with
  | network decl =>
    simp only [attach, networkPort_eq]
    cases combiner <;> exact quiet_portIn b _ _ fun _ => rfl
  | usb endpointAddress framesPerTransaction =>
    simp only [attach, usbPort_eq]
    exact quiet_portIn b _ _ fun _ => rfl
  | mediaLb channelAddress bandwidth =>
    simp only [attach, mediaLbPort_eq]
    exact quiet_portIn b _ _ fun _ => rfl
  | stream ports pin bandwidth => exact Quiet.refl b

/-- So is the socket itself. -/
theorem quiet_addSocket :
    b.Quiet (b.addSocket node dataType direction combiner jobs s).2.2 :=
  (quiet_attach b node combiner jobs s).trans (quiet_alloc _ _)

/-- A socket that was created is found again, and it is on the network if it was declared so. -/
theorem get?_addSocket :
    ∃ r, (b.addSocket node dataType direction combiner jobs s).2.2.arena.get?
        (b.addSocket node dataType direction combiner jobs s).1 = some r ∧
      r.isNetworkSocket = s.isNetwork := by
  refine ⟨_, Arena.get?_push_next _ _, ?_⟩
  cases s <;> rfl

end Sockets

/-! ## Facing the network -/

section Facing

variable {b : Builder} {d : ConnectionDecl} {socketIn socketOut : ResourceId}
  {input output : Resource}

/-- What faces the network, once both sides are known. -/
theorem facing_eq (ho : b.arena.get? socketOut = some output)
    (hi : b.arena.get? socketIn = some input) : b.facing d socketIn socketOut =
      if output.isNetworkSocket then .ok (.source, socketOut)
      else if input.isNetworkSocket then .ok (.sink, socketIn)
      else .error (.shape (.noNetworkSocket d.style.element d.node) d.line) := by
  unfold facing
  rw [Arena.get_eq_ok.mpr ho, Arena.get_eq_ok.mpr hi, ok_bind, ok_bind]
  rfl

end Facing

/-! ## Links -/

/-- A link that is recorded is an old one or that of the new connection. -/
theorem mem_links_finish {b : Builder} {d : ConnectionDecl} {jobs : JobList}
    {socketIn socketOut : ResourceId} {offset : Option UInt16} {kind : EndpointKind}
    {networkSocket : ResourceId} {l : LinkCandidate}
    (h : l ∈ (b.finish d jobs socketIn socketOut offset kind networkSocket).links.toList) :
    l ∈ b.links.toList ∨ (l.connection = b.arena.next ∧ l.line = d.line) := by
  simp only [finish, alloc] at h
  split at h
  · rw [Array.toList_push, List.mem_append, List.mem_singleton] at h
    exact h.imp_right fun heq => by rw [heq]; exact ⟨rfl, rfl⟩
  · exact Or.inl h

/-- What is created on a line adds no link of another line. -/
def LinksOn (line : Nat) (b b' : Builder) : Prop :=
  ∀ l ∈ b'.links.toList, l ∈ b.links.toList ∨ l.line = line

/-- A quiet step adds no link at all. -/
theorem linksOn_of_quiet {b b' : Builder} (h : b.Quiet b') (line : Nat) : LinksOn line b b' := by
  intro l hl
  rw [h.links] at hl
  exact Or.inl hl

/-- Links of the same line come together. -/
theorem LinksOn.trans {line : Nat} {b c d : Builder} (hbc : LinksOn line b c)
    (hcd : LinksOn line c d) : LinksOn line b d :=
  fun l hl => (hcd l hl).elim (hbc l) Or.inr

/-- **The link** of a connection is recorded with the line of its declaration. -/
theorem linksOn_finish {b : Builder} {d : ConnectionDecl} {jobs : JobList}
    {socketIn socketOut : ResourceId} {offset : Option UInt16} {kind : EndpointKind}
    {networkSocket : ResourceId} :
    LinksOn d.line b (b.finish d jobs socketIn socketOut offset kind networkSocket) :=
  fun _ hl => (mem_links_finish hl).imp_right And.right

theorem linksOn_connectOutput (d : ConnectionDecl) (splitter : ResourceId) (shared : JobList)
    (b : Builder) (branch : NetworkDecl) :
    LinksOn d.line b (connectOutput d splitter shared b branch) :=
  (linksOn_of_quiet (quiet_addSocket b d.node d.style.dataType .output none shared
    (.network branch)) _).trans linksOn_finish

theorem linksOn_connectInput (d : ConnectionDecl) (combiner : ResourceId) (shared : JobList)
    (b : Builder) (branch : NetworkDecl) :
    LinksOn d.line b (connectInput d combiner shared b branch) :=
  (linksOn_of_quiet (quiet_addSocket b d.node d.style.dataType .input (some combiner) shared
    (.network branch)) _).trans linksOn_finish

/-- The branches of a fan, by induction over them. -/
theorem linksOn_foldl {line : Nat} {create : Builder → NetworkDecl → Builder}
    (step : ∀ b branch, LinksOn line b (create b branch)) (branches : List NetworkDecl)
    (b : Builder) : LinksOn line b (branches.foldl create b) := by
  induction branches generalizing b with
  | nil => exact fun _ hl => Or.inl hl
  | cons branch branches ih => exact (step b branch).trans (ih _)

/-- A connection element adds links on its own line. -/
theorem linksOn_connect (b : Builder) (d : ConnectionDecl) : LinksOn d.line b (b.connect d) := by
  unfold connect
  cases d.wiring with
  | plain input output =>
    have hin := quiet_addSocket b d.node d.style.dataType .input none JobList.empty input
    simp only [connectPlain]
    generalize b.addSocket d.node d.style.dataType .input none JobList.empty input = made at *
    obtain ⟨i, jobs, b₁⟩ := made
    have hout := quiet_addSocket b₁ d.node d.style.dataType .output none jobs output
    refine (linksOn_of_quiet (hin.trans hout) _).trans ?_
    split <;> exact linksOn_finish
  | fanOut input bytesPerFrame branches =>
    have hin := quiet_addSocket b d.node d.style.dataType .input none JobList.empty input
    simp only [connectFanOut]
    generalize b.addSocket d.node d.style.dataType .input none JobList.empty input = made at *
    obtain ⟨i, jobs, b₁⟩ := made
    have hfan := hin.trans (quiet_alloc b₁ (.splitter ⟨i, bytesPerFrame⟩))
    exact (linksOn_of_quiet hfan _).trans (linksOn_foldl (linksOn_connectOutput d _ _) branches _)
  | fanIn bytesPerFrame branches output =>
    have hout := quiet_addSocket b d.node d.style.dataType .output none JobList.empty output
    simp only [connectFanIn]
    generalize b.addSocket d.node d.style.dataType .output none JobList.empty output = made at *
    obtain ⟨o, jobs, b₁⟩ := made
    have hfan := hout.trans (quiet_alloc b₁ (.combiner ⟨o, bytesPerFrame⟩))
    exact (linksOn_of_quiet hfan _).trans (linksOn_foldl (linksOn_connectInput d _ _) branches _)

/-! ## Plain connections -/

/-- A quiet step takes no link. -/
theorem hasLink_of_quiet {b b' : Builder} (h : b.Quiet b') (link : Option String) :
    b'.hasLink link = b.hasLink link := by
  unfold hasLink
  rw [h.links]

/-- A plain connection is joined if a socket is on the network and the link is free. -/
theorem joinPlain_eq (b : Builder) (d : ConnectionDecl) (input output : SocketDecl) :
    b.joinPlain d input output =
      if output.isNetwork || input.isNetwork then
        (b.checkLink d).map fun _ => b.connectPlain d input output
      else .error (.shape (.noNetworkSocket d.style.element d.node) d.line) := by
  obtain ⟨ri, hi, hin⟩ :=
    get?_addSocket b d.node d.style.dataType .input none JobList.empty input
  have hquiet := quiet_addSocket b d.node d.style.dataType .input none JobList.empty input
  simp only [joinPlain, connectPlain]
  generalize b.addSocket d.node d.style.dataType .input none JobList.empty input = first at *
  obtain ⟨i, jobs, b₁⟩ := first
  obtain ⟨ro, ho, hout⟩ := get?_addSocket b₁ d.node d.style.dataType .output none jobs output
  have hquiet₂ := quiet_addSocket b₁ d.node d.style.dataType .output none jobs output
  generalize b₁.addSocket d.node d.style.dataType .output none jobs output = second at *
  obtain ⟨o, jobs, b₂⟩ := second
  -- no link was added, so the link is free now if it was free before
  have hcheck : b₂.checkLink d = b.checkLink d := by
    unfold checkLink
    rw [hasLink_of_quiet (hquiet.trans hquiet₂)]
  simp only [Arena.get_eq_ok.mpr ho, facing_eq ho (hquiet₂.arena.get? hi), hout, hin, ok_bind,
    hcheck]
  -- one case for each way the two sockets can be on the network
  cases output.isNetwork with
  | true => cases b.checkLink d <;> rfl
  | false =>
    cases input.isNetwork with
    | true => cases b.checkLink d <;> rfl
    | false => rfl

/-! ## Fans -/

/-- A branch behind a splitter is joined, and the splitter stays where it is. -/
theorem joinOutput_eq {b : Builder} (d : ConnectionDecl) {splitter : ResourceId} {r : Resource}
    (hf : b.arena.get? splitter = some r) (shared : JobList) (branch : NetworkDecl) :
    joinOutput d splitter shared b branch = .ok (connectOutput d splitter shared b branch) ∧
      (connectOutput d splitter shared b branch).arena.get? splitter = some r := by
  obtain ⟨ro, ho, hout⟩ :=
    get?_addSocket b d.node d.style.dataType .output none shared (.network branch)
  have hquiet :=
    quiet_addSocket b d.node d.style.dataType .output none shared (.network branch)
  unfold joinOutput connectOutput
  generalize b.addSocket d.node d.style.dataType .output none shared (.network branch) = made at *
  obtain ⟨o, jobs, b₁⟩ := made
  have hf₁ := hquiet.arena.get? hf
  constructor
  · simp only [facing_eq ho hf₁, hout, SocketDecl.isNetwork, if_true, ok_bind]
    rfl
  · simp only [finish, alloc]
    split <;> exact (Arena.ExtendsTo.push _ _).get? hf₁

/-- A branch before a combiner is joined, and the combiner stays where it is. -/
theorem joinInput_eq {b : Builder} (d : ConnectionDecl) {combiner : ResourceId} {f : Combiner}
    (hf : b.arena.get? combiner = some (.combiner f)) (shared : JobList) (branch : NetworkDecl) :
    joinInput d combiner shared b branch = .ok (connectInput d combiner shared b branch) ∧
      (connectInput d combiner shared b branch).arena.get? combiner = some (.combiner f) := by
  obtain ⟨ri, hi, hin⟩ :=
    get?_addSocket b d.node d.style.dataType .input (some combiner) shared (.network branch)
  have hquiet :=
    quiet_addSocket b d.node d.style.dataType .input (some combiner) shared (.network branch)
  unfold joinInput connectInput
  generalize b.addSocket d.node d.style.dataType .input (some combiner) shared (.network branch) =
    made at *
  obtain ⟨i, jobs, b₁⟩ := made
  have hf₁ := hquiet.arena.get? hf
  constructor
  · simp only [facing_eq hf₁ hi, hin, SocketDecl.isNetwork, if_true]
    rfl
  · simp only [finish, alloc]
    split <;> exact (Arena.ExtendsTo.push _ _).get? hf₁

/-- Branches are joined one after the other, if each of them keeps what the next one needs. -/
theorem foldlM_branches {Known : Builder → Prop}
    {join : Builder → NetworkDecl → Except CompileError Builder}
    {connect : Builder → NetworkDecl → Builder}
    (step : ∀ b branch, Known b → join b branch = .ok (connect b branch) ∧ Known (connect b branch))
    (branches : List NetworkDecl) {b : Builder} (hb : Known b) :
    branches.foldlM join b = .ok (branches.foldl connect b) := by
  induction branches generalizing b with
  | nil => rfl
  | cons branch branches ih =>
    obtain ⟨hjoin, hnext⟩ := step b branch hb
    rw [List.foldlM_cons, hjoin, ok_bind, ih hnext, List.foldl_cons]

/-- **Splitters**: all branches are joined, since each is on the network. -/
theorem joinFanOut_eq (b : Builder) (d : ConnectionDecl) (input : SocketDecl)
    (bytesPerFrame : UInt16) (branches : List NetworkDecl) :
    b.joinFanOut d input bytesPerFrame branches =
      .ok (b.connectFanOut d input bytesPerFrame branches) :=
  foldlM_branches (fun _ branch hf => joinOutput_eq d hf _ branch) branches
    (Arena.get?_push_next _ _)

/-- **Combiners**: likewise. -/
theorem joinFanIn_eq (b : Builder) (d : ConnectionDecl) (bytesPerFrame : UInt16)
    (branches : List NetworkDecl) (output : SocketDecl) :
    b.joinFanIn d bytesPerFrame branches output =
      .ok (b.connectFanIn d bytesPerFrame branches output) :=
  foldlM_branches (fun _ branch hf => joinInput_eq d hf _ branch) branches
    (Arena.get?_push_next _ _)

/-! ## Connection elements -/

/-- The connection can be joined: the sockets of a plain one touch the network, and its link is
    free. -/
def Joinable (b : Builder) (d : ConnectionDecl) : Prop :=
  match d.wiring with
  | .plain input output =>
    (output.isNetwork = true ∨ input.isNetwork = true) ∧ b.hasLink d.link = false
  | _ => True

/-- The check passes exactly if no earlier connection has the link. -/
theorem checkLink_eq_ok {b : Builder} {d : ConnectionDecl} {u : Unit} :
    b.checkLink d = .ok u ↔ b.hasLink d.link = false := by
  unfold checkLink
  cases b.hasLink d.link <;> simp

/-- **Joining**: a connection is joined exactly if it can be, and then as `connect` says. -/
theorem join_eq_ok {b b' : Builder} {d : ConnectionDecl} :
    b.join d = .ok b' ↔ b.Joinable d ∧ b' = b.connect d := by
  unfold join Joinable connect
  cases d.wiring with
  | plain input output =>
    simp only [joinPlain_eq, ← Bool.or_eq_true]
    split
    · rename_i hnetwork
      rw [map_eq_ok]
      simp only [checkLink_eq_ok, hnetwork, true_and, eq_comm (a := b')]
      simp
    · rename_i hnetwork
      simp [hnetwork]
  | fanOut input bytesPerFrame branches => simp [joinFanOut_eq, eq_comm]
  | fanIn bytesPerFrame branches output => simp [joinFanIn_eq, eq_comm]

end Builder

end MediaNetwork

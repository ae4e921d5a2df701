/-
  What joining adds to a builder.

  `Builder.Yields b b' es` says that from `b` to `b'` exactly the endpoints `es` were added and
  exactly their links were taken.  It holds of every builder, whatever it was given before: nothing
  is asked of the ports it has.  Yields compose (`Yields.trans`), so a fan is an induction over its
  branches (`yields_foldl`).

  `Endpoint.Serves` says which network socket an endpoint was made for: the socket and the
  connection have what was declared for it, and it is the side of the connection that faces the
  network.  `Wiring.Faces` names the sockets of a wiring that face the network, and each of them is
  served by one endpoint, in order (`connect_serves`).
-/
import MediaNetwork.Proofs.Graph.Connect

namespace MediaNetwork

/-! ## Endpoints and their sockets -/

/-- The side of a connection through which an endpoint of this kind faces the network. -/
def Connection.side (k : Connection) : EndpointKind → ResourceId
  | .source => k.socketOut
  | .sink => k.socketIn

/-- The direction of the socket through which an endpoint of this kind faces the network. -/
def EndpointKind.direction : EndpointKind → Direction
  | .source => .output
  | .sink => .input

/-- The endpoint was made for this network socket of the connection `d`. -/
structure Endpoint.Serves (a : Arena) (d : ConnectionDecl) (side : EndpointKind)
    (facing : NetworkDecl) (e : Endpoint) : Prop where
  kind : e.kind = side
  node : e.node = d.node
  link : e.link = d.link
  socket : ∃ port, a.get? e.networkSocket = some (.socket
    ⟨port, side.direction, d.style.dataType, .network facing.bandwidth facing.route⟩)
  /-- Its connection faces the network through that socket and has its offset. -/
  connection : ∃ k, a.get? e.connection = some (.connection k) ∧
    k.side side = e.networkSocket ∧ k.kind = d.style.kind facing.offset

theorem Endpoint.Serves.extend {a a' : Arena} (h : a.ExtendsTo a') {d : ConnectionDecl}
    {kind : EndpointKind} {socket : NetworkDecl} {e : Endpoint} (he : e.Serves a d kind socket) :
    e.Serves a' d kind socket := by
  obtain ⟨port, hsocket⟩ := he.socket
  obtain ⟨k, hk, hside⟩ := he.connection
  exact ⟨he.kind, he.node, he.link, ⟨port, h.get? hsocket⟩, k, h.get? hk, hside⟩

/-- The sockets of a wiring that face the network, and the kind of their endpoints.  Of two sockets
    the output does if it is on the network, else the input. -/
inductive Wiring.Faces : Wiring → EndpointKind → List NetworkDecl → Prop
  | output (input : SocketDecl) (socket : NetworkDecl) :
      Faces (.plain input (.network socket)) .source [socket]
  | input (socket : NetworkDecl) {output : SocketDecl} (off : output.isNetwork = false) :
      Faces (.plain (.network socket) output) .sink [socket]
  | fanOut (input : SocketDecl) (bytesPerFrame : UInt16) (branches : List NetworkDecl) :
      Faces (.fanOut input bytesPerFrame branches) .source branches
  | fanIn (bytesPerFrame : UInt16) (branches : List NetworkDecl) (output : SocketDecl) :
      Faces (.fanIn bytesPerFrame branches output) .sink branches

namespace Builder

/-! ## Yields -/

/-- From `b` to `b'` exactly these endpoints are added, and exactly their links are taken.  The
    stream port is that of the node. -/
structure Yields (b b' : Builder) (es : List Endpoint) : Prop where
  arena : b.arena.ExtendsTo b'.arena
  stream : b'.ports.stream = b.ports.stream
  endpoints : b'.endpoints.toList = b.endpoints.toList ++ es
  links : ∀ link, b'.hasLink (some link) = true ↔
    b.hasLink (some link) = true ∨ ∃ e ∈ es, e.link = some link

theorem Yields.trans {b b' b'' : Builder} {es es' : List Endpoint} (h : Yields b b' es)
    (h' : Yields b' b'' es') : Yields b b'' (es ++ es') where
  arena := h.arena.trans h'.arena
  stream := h'.stream.trans h.stream
  endpoints := by rw [h'.endpoints, h.endpoints, List.append_assoc]
  links := by
    intro link
    rw [h'.links, h.links, or_assoc]
    simp only [List.mem_append, or_and_right, exists_or]

theorem Quiet.yields {b b' : Builder} (h : b.Quiet b') : Yields b b' [] where
  arena := h.arena
  stream := h.stream
  endpoints := by rw [h.endpoints, List.append_nil]
  links := by
    intro link
    rw [hasLink_of_quiet h]
    simp

section Finish

variable (b : Builder) (d : ConnectionDecl) (jobs : JobList) (socketIn socketOut : ResourceId)
  (offset : Option UInt16) (kind : EndpointKind) (networkSocket : ResourceId)

theorem hasLink_finish (link : String) :
    (b.finish d jobs socketIn socketOut offset kind networkSocket).hasLink (some link) = true ↔
      b.hasLink (some link) = true ∨ d.link = some link := by
  simp only [finish, alloc]
  cases hlink : d.link with
  | none => simp [hasLink]
  | some l => simp [hasLink]

/-- A connection that is finished yields its endpoint. -/
theorem yields_finish :
    Yields b (b.finish d jobs socketIn socketOut offset kind networkSocket)
      [⟨kind, d.node, jobs.push b.arena.next, b.arena.next, networkSocket, d.link⟩] where
  arena := by
    rw [arena_finish]
    exact Arena.ExtendsTo.push _ _
  stream := by rw [ports_finish]
  endpoints := by simp
  links := by
    intro link
    rw [hasLink_finish]
    simp

end Finish

/-! ## One connection -/

section Connections

variable (b : Builder) (d : ConnectionDecl)

/-- A socket that was created is found again, as it was declared. -/
theorem read_addSocket (direction : Direction) (combiner : Option ResourceId) (jobs : JobList)
    (s : SocketDecl) :
    ∃ port, (b.addSocket d.node d.style.dataType direction combiner jobs s).2.2.arena.get?
        (b.addSocket d.node d.style.dataType direction combiner jobs s).1 =
      some (.socket ⟨port, direction, d.style.dataType, s.kind⟩) :=
  ⟨_, Arena.get?_push_next _ _⟩

/-- The endpoint of a connection that faces the network through a socket that was created. -/
theorem serves_finish {jobs : JobList} {socketIn socketOut networkSocket : ResourceId}
    {kind : EndpointKind} {socket : NetworkDecl} {port : ResourceId}
    (hread : b.arena.get? networkSocket = some (.socket ⟨port, kind.direction, d.style.dataType,
      .network socket.bandwidth socket.route⟩))
    (hside : Connection.side ⟨socketIn, socketOut, d.style.kind socket.offset⟩ kind =
      networkSocket) :
    Endpoint.Serves (b.finish d jobs socketIn socketOut socket.offset kind networkSocket).arena d
      kind socket ⟨kind, d.node, jobs.push b.arena.next, b.arena.next, networkSocket, d.link⟩ := by
  rw [arena_finish]
  exact ⟨rfl, rfl, rfl, ⟨port, (Arena.ExtendsTo.push _ _).get? hread⟩, _, Arena.get?_push_next _ _,
    hside, rfl⟩

/-- The endpoint of one branch of a fan serves it. -/
def Branches (d : ConnectionDecl) (kind : EndpointKind)
    (create : Builder → NetworkDecl → Builder) : Prop :=
  ∀ b branch, ∃ e, Yields b (create b branch) [e] ∧ e.Serves (create b branch).arena d kind branch

theorem branches_connectOutput (splitter : ResourceId) (shared : JobList) :
    Branches d .source (connectOutput d splitter shared) := by
  intro b branch
  obtain ⟨port, hread⟩ := read_addSocket b d .output none shared (.network branch)
  have hquiet := quiet_addSocket b d.node d.style.dataType .output none shared (.network branch)
  unfold connectOutput
  generalize b.addSocket d.node d.style.dataType .output none shared (.network branch) = made at *
  obtain ⟨o, jobs, b₁⟩ := made
  exact ⟨_, hquiet.yields.trans (yields_finish ..), serves_finish b₁ d hread rfl⟩

theorem branches_connectInput (combiner : ResourceId) (shared : JobList) :
    Branches d .sink (connectInput d combiner shared) := by
  intro b branch
  obtain ⟨port, hread⟩ := read_addSocket b d .input (some combiner) shared (.network branch)
  have hquiet :=
    quiet_addSocket b d.node d.style.dataType .input (some combiner) shared (.network branch)
  unfold connectInput
  generalize b.addSocket d.node d.style.dataType .input (some combiner) shared (.network branch) =
    made at *
  obtain ⟨i, jobs, b₁⟩ := made
  exact ⟨_, hquiet.yields.trans (yields_finish ..), serves_finish b₁ d hread rfl⟩

/-- The branches of a fan, by induction over them. -/
theorem yields_foldl {d : ConnectionDecl} {kind : EndpointKind}
    {create : Builder → NetworkDecl → Builder} (h : Branches d kind create)
    (branches : List NetworkDecl) (b : Builder) :
    ∃ es, Yields b (branches.foldl create b) es ∧
      List.Forall₂ (Endpoint.Serves (branches.foldl create b).arena d kind) branches es := by
  induction branches generalizing b with
  | nil => exact ⟨[], (Quiet.refl b).yields, .nil⟩
  | cons branch branches ih =>
    obtain ⟨e, hfirst, he⟩ := h b branch
    obtain ⟨es, hrest, hes⟩ := ih (create b branch)
    exact ⟨e :: es, hfirst.trans hrest, .cons (he.extend hrest.arena) hes⟩

/-- Two sockets whose output is on the network. -/
theorem connectPlain_serves_output (input : SocketDecl) (socket : NetworkDecl) :
    ∃ e, Yields b (b.connectPlain d input (.network socket)) [e] ∧
      e.Serves (b.connectPlain d input (.network socket)).arena d .source socket := by
  have hin := quiet_addSocket b d.node d.style.dataType .input none JobList.empty input
  simp only [connectPlain]
  generalize b.addSocket d.node d.style.dataType .input none JobList.empty input = first at *
  obtain ⟨i, jobs, b₁⟩ := first
  have hout := quiet_addSocket b₁ d.node d.style.dataType .output none jobs (.network socket)
  obtain ⟨port, hread⟩ := read_addSocket b₁ d .output none jobs (.network socket)
  generalize b₁.addSocket d.node d.style.dataType .output none jobs (.network socket) =
    second at *
  obtain ⟨o, jobs, b₂⟩ := second
  exact ⟨_, (hin.trans hout).yields.trans (yields_finish ..), serves_finish b₂ d hread rfl⟩

/-- Two sockets of which only the input is on the network. -/
theorem connectPlain_serves_input (socket : NetworkDecl) {output : SocketDecl}
    (off : output.isNetwork = false) :
    ∃ e, Yields b (b.connectPlain d (.network socket) output) [e] ∧
      e.Serves (b.connectPlain d (.network socket) output).arena d .sink socket := by
  have hin := quiet_addSocket b d.node d.style.dataType .input none JobList.empty (.network socket)
  obtain ⟨port, hread⟩ := read_addSocket b d .input none JobList.empty (.network socket)
  simp only [connectPlain, off, Bool.false_eq_true, if_false]
  generalize b.addSocket d.node d.style.dataType .input none JobList.empty (.network socket) =
    first at *
  obtain ⟨i, jobs, b₁⟩ := first
  have hout := quiet_addSocket b₁ d.node d.style.dataType .output none jobs output
  generalize b₁.addSocket d.node d.style.dataType .output none jobs output = second at *
  obtain ⟨o, jobs, b₂⟩ := second
  -- the input is still there when the output is
  have hread₂ := hout.arena.get? hread
  exact ⟨_, (hin.trans hout).yields.trans (yields_finish ..), serves_finish b₂ d hread₂ rfl⟩

/-- **Joining** yields one endpoint for each socket that faces the network, in order. -/
theorem connect_serves {kind : EndpointKind} {facing : List NetworkDecl}
    (h : d.wiring.Faces kind facing) : ∃ es, Yields b (b.connect d) es ∧
      List.Forall₂ (Endpoint.Serves (b.connect d).arena d kind) facing es := by
  unfold connect
  generalize d.wiring = wiring at h
  cases h with
  | output input socket =>
    obtain ⟨e, hyields, he⟩ := connectPlain_serves_output b d input socket
    exact ⟨[e], hyields, .cons he .nil⟩
  | @input socket output off =>
    obtain ⟨e, hyields, he⟩ := connectPlain_serves_input b d socket off
    exact ⟨[e], hyields, .cons he .nil⟩
  | fanOut input bytesPerFrame =>
    -- the socket and its fan are quiet, so all endpoints come from the branches
    have hquiet := quiet_addSocket b d.node d.style.dataType .input none JobList.empty input
    simp only [connectFanOut]
    generalize b.addSocket d.node d.style.dataType .input none JobList.empty input = made at *
    obtain ⟨i, jobs, b₁⟩ := made
    have hfan := hquiet.trans (quiet_alloc b₁ (.splitter ⟨i, bytesPerFrame⟩))
    obtain ⟨es, hyields, hes⟩ := yields_foldl (branches_connectOutput d _ _) facing _
    exact ⟨es, hfan.yields.trans hyields, hes⟩
  | fanIn bytesPerFrame _ output =>
    have hquiet := quiet_addSocket b d.node d.style.dataType .output none JobList.empty output
    simp only [connectFanIn]
    generalize b.addSocket d.node d.style.dataType .output none JobList.empty output = made at *
    obtain ⟨o, jobs, b₁⟩ := made
    have hfan := hquiet.trans (quiet_alloc b₁ (.combiner ⟨o, bytesPerFrame⟩))
    obtain ⟨es, hyields, hes⟩ := yields_foldl (branches_connectInput d _ _) facing _
    exact ⟨es, hfan.yields.trans hyields, hes⟩

end Connections

end Builder

end MediaNetwork

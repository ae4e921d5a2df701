/-
  The grammar of a connection.

  A connection element has one of four shapes (`Markup.Element.Wired`): two sockets, of which the
  output or else the input is on the network; a socket and a splitter; a combiner and a socket.  The
  shape says which network sockets face the network, and on which side.

  1. `Builder.succeeds_addConnection` — an element is taken in exactly if it has a shape, its
     children are valid and its link is free.
  2. `Builder.serves_addConnection` — if it is, there is one more endpoint for each socket that
     faces the network, in order.

  Both hold of every builder.  The wiring stands between them: what it was read from is known from
  `Site.Wires`, and what becomes of it from `Wiring.Faces`.
-/
import MediaNetwork.Connection.Node
import MediaNetwork.Proofs.Connection.Reading
import MediaNetwork.Proofs.Connection.Serving

namespace MediaNetwork

open MediaNetwork.Markup MediaNetwork.Outcome

/-! ## Shapes -/

namespace Markup.Element

/-- A fan with this name, which holds one or more network sockets and nothing else. -/
structure IsFanNamed (tag : String) (fan : Element) : Prop where
  name : fan.name = tag
  holds : fan.children ≠ []
  only : ∀ branch ∈ fan.children, branch.name = Schema.networkSocket

/-- The shape of a connection element, with the kind of its endpoints and the network sockets that
    face the network. -/
inductive Wired (e : Element) : EndpointKind → List Element → Prop
  | output {i o : Element} (children : e.children = [i, o]) (input : i.name ∈ Schema.socketNames)
      (network : o.name = Schema.networkSocket) : Wired e .source [o]
  | input {i o : Element} (children : e.children = [i, o]) (network : i.name = Schema.networkSocket)
      (output : o.name ∈ Schema.socketNames) (off : o.name ≠ Schema.networkSocket) :
      Wired e .sink [i]
  | fanOut {i splitter : Element} (children : e.children = [i, splitter])
      (input : i.name ∈ Schema.socketNames) (fan : IsFanNamed Schema.splitter splitter) :
      Wired e .source splitter.children
  | fanIn {combiner o : Element} (children : e.children = [combiner, o])
      (fan : IsFanNamed Schema.combiner combiner) (output : o.name ∈ Schema.socketNames) :
      Wired e .sink combiner.children

/-- What faces the network can be told from the names of the two children. -/
def facing (first second : Element) : EndpointKind × List Element :=
  if first.name = Schema.combiner then (.sink, first.children)
  else if second.name = Schema.splitter then (.source, second.children)
  else if second.name = Schema.networkSocket then (.source, [second])
  else (.sink, [first])

theorem Wired.exists_facing {e : Element} {side : EndpointKind} {sockets : List Element}
    (h : e.Wired side sockets) :
    ∃ first second, e.children = [first, second] ∧ facing first second = (side, sockets) := by
  have ne : ∀ {c : Element} {name}, c.name ∈ Schema.socketNames → name ∉ Schema.socketNames →
      c.name ≠ name := by
    rintro c name hc hname rfl
    exact hname hc
  have hcombiner : Schema.combiner ∉ Schema.socketNames := by decide
  have hsplitter : Schema.splitter ∉ Schema.socketNames := by decide
  cases h with
  | @output i o children input network =>
    refine ⟨i, o, children, ?_⟩
    rw [facing, if_neg (ne input hcombiner), if_neg (by rw [network]; decide), if_pos network]
  | @input i o children network output off =>
    refine ⟨i, o, children, ?_⟩
    rw [facing, if_neg (by rw [network]; decide), if_neg (ne output hsplitter), if_neg off]
  | @fanOut i splitter children input fan =>
    refine ⟨i, splitter, children, ?_⟩
    rw [facing, if_neg (ne input hcombiner), if_pos fan.name]
  | @fanIn combiner o children fan output =>
    refine ⟨combiner, o, children, ?_⟩
    rw [facing, if_pos fan.name]

/-- A connection element has one shape at most. -/
theorem Wired.unique {e : Element} {side side' : EndpointKind} {sockets sockets' : List Element}
    (h : e.Wired side sockets) (h' : e.Wired side' sockets') :
    side = side' ∧ sockets = sockets' := by
  obtain ⟨first, second, hchildren, hfacing⟩ := h.exists_facing
  obtain ⟨first', second', hchildren', hfacing'⟩ := h'.exists_facing
  rw [hchildren] at hchildren'
  cases hchildren'
  rw [hfacing] at hfacing'
  cases hfacing'
  exact ⟨rfl, rfl⟩

/-- Something faces the network. -/
theorem Wired.ne_nil {e : Element} {side : EndpointKind} {facing : List Element}
    (h : e.Wired side facing) : facing ≠ [] := by
  cases h with
  | output => exact List.cons_ne_nil _ _
  | input => exact List.cons_ne_nil _ _
  | fanOut children input fan => exact fan.holds
  | fanIn children fan output => exact fan.holds

end Markup.Element

/-- The attributes of a child of a connection are valid. -/
inductive ChildValid (style : ConnectionStyle) (streamPort : Prop) (c : Element) : Prop
  | socket (valid : SocketValid style streamPort c)
  | fan (name : c.name = Schema.splitter ∨ c.name = Schema.combiner) (valid : FanValid style c)

namespace ChildValid

variable {style : ConnectionStyle} {streamPort : Prop} {c : Element}

theorem of_socket (h : ChildValid style streamPort c) (name : c.name ∈ Schema.socketNames) :
    SocketValid style streamPort c := by
  cases h with
  | socket valid => exact valid
  | fan hfan =>
    rcases hfan with hfan | hfan
    all_goals
      rw [hfan] at name
      exact absurd name (by decide)

theorem of_fan (h : ChildValid style streamPort c) (name : c.name ∉ Schema.socketNames) :
    FanValid style c := by
  cases h with
  | socket valid => exact absurd valid.name_mem name
  | fan _ valid => exact valid

end ChildValid

/-! ## From shapes to wirings -/

/-- A socket of the wiring touches the network. -/
def Wiring.OnNetwork : Wiring → Prop
  | .plain input output => output.isNetwork = true ∨ input.isNetwork = true
  | _ => True

namespace Site

variable {site : Site}

/-- The branches of a valid fan are read, unless the link is taken. -/
theorem succeeds_readBranches {fan : Element} (valid : FanValid site.style fan)
    (only : ∀ branch ∈ fan.children, branch.name = Schema.networkSocket)
    (free : site.linkTaken = false) : Succeeds (site.readBranches fan) := by
  refine succeeds_mapM fun branch hbranch => ?_
  obtain ⟨d, hd⟩ := succeeds_readNetwork.mpr (valid.branches branch hbranch)
  exact ⟨d, readBranch_eq_ok.mpr ⟨only branch hbranch, hd, free⟩⟩

/-- A connection element with a shape and valid children is wired. -/
theorem exists_wires {side : EndpointKind} {facing : List Element}
    (shape : site.element.Wired side facing)
    (valid : ∀ c ∈ site.element.children, ChildValid site.style (site.stream ≠ none) c)
    (free : site.linkTaken = false) : ∃ wiring, site.Wires wiring ∧ wiring.OnNetwork := by
  have socket : ∀ c ∈ site.element.children, c.name ∈ Schema.socketNames →
      Succeeds (site.readSocket c) := fun c hc name =>
    succeeds_readSocket.mpr ((valid c hc).of_socket name)
  -- valid children are read, so each shape gives the wiring of its own form
  cases shape with
  | @output i o children input network =>
    rw [children] at valid socket
    obtain ⟨d, hi⟩ := socket i (by simp) input
    obtain ⟨d', ho⟩ := socket o (by simp) (by rw [network]; decide)
    exact ⟨_, .plain children hi ho, .inl ((isNetwork_readSocket ho).mpr network)⟩
  | @input i o children network output off =>
    rw [children] at valid socket
    obtain ⟨d, hi⟩ := socket i (by simp) (by rw [network]; decide)
    obtain ⟨d', ho⟩ := socket o (by simp) output
    exact ⟨_, .plain children hi ho, .inr ((isNetwork_readSocket hi).mpr network)⟩
  | @fanOut i splitter children input fan =>
    rw [children] at valid socket
    obtain ⟨d, hi⟩ := socket i (by simp) input
    have hfan := (valid splitter (by simp)).of_fan (by rw [fan.name]; decide)
    obtain ⟨bytesPerFrame, hbytes⟩ := hfan.bytesPerFrame
    obtain ⟨branches, hbranches⟩ := succeeds_readBranches hfan fan.only free
    exact ⟨_, .fanOut children hi fan.name hbytes fan.holds hbranches, trivial⟩
  | @fanIn combiner o children fan output =>
    rw [children] at valid socket
    obtain ⟨d, ho⟩ := socket o (by simp) output
    have hfan := (valid combiner (by simp)).of_fan (by rw [fan.name]; decide)
    obtain ⟨bytesPerFrame, hbytes⟩ := hfan.bytesPerFrame
    obtain ⟨branches, hbranches⟩ := succeeds_readBranches hfan fan.only free
    exact ⟨_, .fanIn children fan.name fan.holds ho hbytes hbranches, trivial⟩

/-! ## From wirings to shapes -/

/-- The branches of a fan are valid network sockets, and the link is free if there are any. -/
theorem of_readBranches {fan : Element} {branches : List NetworkDecl}
    (h : site.readBranches fan = .ok branches) :
    (∀ branch ∈ fan.children, branch.name = Schema.networkSocket ∧
        NetworkValid site.style true branch ∧ site.linkTaken = false) ∧
      List.Forall₂ (fun branch d => ∃ inFan, site.readNetwork inFan branch = .ok d) fan.children
        branches := by
  have hall := readBranches_eq_ok.mp h
  refine ⟨fun branch hbranch => ?_, hall.imp fun _ _ hread => ⟨true, hread.2.1⟩⟩
  obtain ⟨d, -, hname, hread, hfree⟩ := exists_of_forall₂ hall.flip hbranch
  exact ⟨hname, succeeds_readNetwork.mp ⟨d, hread⟩, hfree⟩

/-- The wiring of a connection element says its shape, what faces the network, and what its
    children declare. -/
theorem Wires.wired {wiring : Wiring} (h : site.Wires wiring) (hnetwork : wiring.OnNetwork) :
    ∃ side facing decls, site.element.Wired side facing ∧ wiring.Faces side decls ∧
      List.Forall₂ (fun s d => ∃ inFan, site.readNetwork inFan s = .ok d) facing decls := by
  cases h with
  | @plain i o input output children readsInput readsOutput =>
    by_cases ho : o.name = Schema.networkSocket
    · obtain ⟨d, hd, rfl⟩ := (readSocket_network ho).mp readsOutput
      exact ⟨_, _, _, .output children (name_of_readSocket readsInput) ho, .output input d,
        .cons ⟨false, hd⟩ .nil⟩
    · -- the output is off the network, so the input is on it
      have hoff : ¬ output.isNetwork = true :=
        fun hon => ho ((isNetwork_readSocket readsOutput).mp hon)
      have hi := (isNetwork_readSocket readsInput).mp (hnetwork.resolve_left hoff)
      obtain ⟨d, hd, rfl⟩ := (readSocket_network hi).mp readsInput
      exact ⟨_, _, _, .input children hi (name_of_readSocket readsOutput) ho,
        .input d (Bool.eq_false_iff.mpr hoff), .cons ⟨false, hd⟩ .nil⟩
  | @fanOut i splitter input bytesPerFrame branches children readsInput name bytes holds
      readsBranches =>
    obtain ⟨hall, hdecls⟩ := of_readBranches readsBranches
    exact ⟨_, _, _, .fanOut children (name_of_readSocket readsInput)
      ⟨name, holds, fun branch hbranch => (hall branch hbranch).1⟩, .fanOut .., hdecls⟩
  | @fanIn combiner o output bytesPerFrame branches children name holds readsOutput bytes
      readsBranches =>
    obtain ⟨hall, hdecls⟩ := of_readBranches readsBranches
    exact ⟨_, _, _, .fanIn children ⟨name, holds, fun branch hbranch => (hall branch hbranch).1⟩
      (name_of_readSocket readsOutput), .fanIn .., hdecls⟩

/-- Children that are wired are valid. -/
theorem Wires.childValid {wiring : Wiring} (h : site.Wires wiring) :
    ∀ c ∈ site.element.children, ChildValid site.style (site.stream ≠ none) c := by
  have socket : ∀ {c s}, site.readSocket c = .ok s →
      ChildValid site.style (site.stream ≠ none) c := fun hread =>
    .socket (succeeds_readSocket.mp ⟨_, hread⟩)
  cases h with
  | plain children readsInput readsOutput =>
    rw [children]
    simp only [List.forall_mem_cons, List.not_mem_nil, false_implies, implies_true, and_true]
    exact ⟨socket readsInput, socket readsOutput⟩
  | fanOut children readsInput name bytes holds readsBranches =>
    rw [children]
    simp only [List.forall_mem_cons, List.not_mem_nil, false_implies, implies_true, and_true]
    refine ⟨socket readsInput, .fan (.inl name) ⟨⟨_, bytes⟩, fun branch hbranch => ?_⟩⟩
    exact ((of_readBranches readsBranches).1 branch hbranch).2.1
  | fanIn children name holds readsOutput bytes readsBranches =>
    rw [children]
    simp only [List.forall_mem_cons, List.not_mem_nil, false_implies, implies_true, and_true]
    refine ⟨.fan (.inr name) ⟨⟨_, bytes⟩, fun branch hbranch => ?_⟩, socket readsOutput⟩
    exact ((of_readBranches readsBranches).1 branch hbranch).2.1

/-- The link of a fan that is wired is free. -/
theorem Wires.free {wiring : Wiring} (h : site.Wires wiring) :
    (∃ input output, wiring = .plain input output) ∨ site.linkTaken = false := by
  have branch : ∀ {fan branches}, fan.children ≠ [] → site.readBranches fan = .ok branches →
      site.linkTaken = false := by
    intro fan branches hne hread
    obtain ⟨branch, hbranch⟩ := List.exists_mem_of_ne_nil _ hne
    exact ((of_readBranches hread).1 branch hbranch).2.2
  cases h with
  | plain => exact .inl ⟨_, _, rfl⟩
  | fanOut children readsInput name bytes holds readsBranches =>
    exact .inr (branch holds readsBranches)
  | fanIn children name holds readsOutput bytes readsBranches =>
    exact .inr (branch holds readsBranches)

end Site

/-! ## Connection elements -/

/-- The endpoint was made for this network socket of the connection element `e`. -/
structure Endpoint.MadeFor (a : Arena) (node : UInt16) (style : ConnectionStyle) (e : Element)
    (side : EndpointKind) (s : Element) (en : Endpoint) : Prop where
  kind : en.kind = side
  node : en.node = node
  link : en.link = e.attribute? Schema.link
  socket : ∃ (port : ResourceId) (d : NetworkDecl), d.AskedBy s ∧
    a.get? en.networkSocket = some (.socket
      ⟨port, side.direction, style.dataType, .network d.bandwidth d.route⟩)
  /-- Its connection faces the network through that socket.  The offset of synchronous data is that
      of the socket, and 0 if it has none. -/
  connection : ∃ k : Connection, a.get? en.connection = some (.connection k) ∧
    k.side side = en.networkSocket ∧
    match style with
    | .sync muteMode => ∃ offset?, s.word? Schema.offset = .ok offset? ∧
        k.kind = .sync muteMode (offset?.getD 0)
    | .avPacketized packetSize => k.kind = .avPacketized packetSize

namespace Builder

variable (b : Builder) (node : UInt16) (style : ConnectionStyle) (e : Element)

/-- Where the connection element stands. -/
def siteOf : Site := ⟨e, node, b.ports.stream, style, b.hasLink (e.attribute? Schema.link)⟩

variable {b node style e}

/-- A connection element is taken in exactly as it is wired. -/
theorem addConnection_eq_ok {b' : Builder} : b.addConnection node style e = .ok b' ↔
    ∃ wiring, (b.siteOf node style e).Wires wiring ∧ wiring.OnNetwork ∧
      b.hasLink (e.attribute? Schema.link) = false ∧
      b' = b.connect ⟨node, style, e.attribute? Schema.link, e.line, wiring⟩ := by
  have hjoinable : ∀ wiring, (b.siteOf node style e).Wires wiring →
      (b.Joinable ⟨node, style, e.attribute? Schema.link, e.line, wiring⟩ ↔
        wiring.OnNetwork ∧ b.hasLink (e.attribute? Schema.link) = false) := by
    intro wiring hwires
    -- a plain connection is joined if its link is free; the link of a fan was looked at before
    rcases hwires.free with ⟨input, output, rfl⟩ | hfree
    · exact Iff.rfl
    · cases hwires with
      | plain => exact Iff.rfl
      | fanOut => exact iff_of_true trivial ⟨trivial, hfree⟩
      | fanIn => exact iff_of_true trivial ⟨trivial, hfree⟩
  have hsite : b.addConnection node style e =
      ConnectionDecl.atSite (b.siteOf node style e) >>= b.join := rfl
  rw [hsite, bind_eq_ok]
  simp only [ConnectionDecl.atSite_eq_ok, join_eq_ok]
  constructor
  · rintro ⟨d, ⟨wiring, hwires, rfl⟩, hjoin, rfl⟩
    obtain ⟨hnetwork, hfree⟩ := (hjoinable wiring hwires).mp hjoin
    exact ⟨wiring, hwires, hnetwork, hfree, rfl⟩
  · rintro ⟨wiring, hwires, hnetwork, hfree, rfl⟩
    exact ⟨_, ⟨wiring, hwires, rfl⟩, (hjoinable wiring hwires).mpr ⟨hnetwork, hfree⟩, rfl⟩

/-- **Acceptance**: a connection element is taken in if it has a shape, its children are valid and
    its link is free, and in no other case. -/
theorem succeeds_addConnection : Succeeds (b.addConnection node style e) ↔
    (∃ side facing, e.Wired side facing) ∧
      (∀ c ∈ e.children, ChildValid style (b.ports.stream ≠ none) c) ∧
      b.hasLink (e.attribute? Schema.link) = false := by
  constructor
  · rintro ⟨b', h⟩
    obtain ⟨wiring, hwires, hnetwork, hfree, -⟩ := addConnection_eq_ok.mp h
    obtain ⟨side, facing, -, hshape, -⟩ := hwires.wired hnetwork
    exact ⟨⟨side, facing, hshape⟩, hwires.childValid, hfree⟩
  · rintro ⟨⟨side, facing, hshape⟩, hvalid, hfree⟩
    have hsite : (b.siteOf node style e).element.Wired side facing := hshape
    obtain ⟨wiring, hwires, hnetwork⟩ := Site.exists_wires hsite hvalid hfree
    exact ⟨_, addConnection_eq_ok.mpr ⟨wiring, hwires, hnetwork, hfree, rfl⟩⟩

/-- **Endpoints**: a connection element that is taken in adds one endpoint for each of the sockets
    that face the network, in order. -/
theorem serves_addConnection {b' : Builder} (h : b.addConnection node style e = .ok b') :
    ∃ side facing es, e.Wired side facing ∧ b.Yields b' es ∧
      List.Forall₂ (Endpoint.MadeFor b'.arena node style e side) facing es := by
  obtain ⟨wiring, hwires, hnetwork, -, rfl⟩ := addConnection_eq_ok.mp h
  obtain ⟨side, facing, decls, hshape, hfaces, hdecls⟩ := hwires.wired hnetwork
  obtain ⟨es, hyields, hes⟩ :=
    b.connect_serves ⟨node, style, e.attribute? Schema.link, e.line, wiring⟩ hfaces
  refine ⟨side, facing, es, hshape, hyields, forall₂_comp ?_ hdecls hes⟩
  rintro s d en ⟨inFan, hread⟩ hserves
  obtain ⟨hasked, hoffset⟩ := Site.readNetwork_eq_ok.mp hread
  obtain ⟨port, hsocket⟩ := hserves.socket
  obtain ⟨k, hk, hside, hkind⟩ := hserves.connection
  refine ⟨hserves.kind, hserves.node, hserves.link, ⟨port, d, hasked, hsocket⟩, k, hk, hside, ?_⟩
  cases style with
  | sync muteMode => exact ⟨d.offset, Site.word?_of_readOffset hoffset rfl, hkind⟩
  | avPacketized packetSize => exact hkind

end Builder

end MediaNetwork

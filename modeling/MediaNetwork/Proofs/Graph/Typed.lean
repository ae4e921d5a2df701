/-
  The typed resource graph.

  A resource of an arena is typed if every handle it holds leads back, to a resource created
  before it, and that resource is of the right kind (`Resource.TypedAt`):

  1. a socket stands on a port of its own kind, a stream socket on half A;
  2. a splitter wraps an input socket, a combiner an output socket;
  3. a connection joins an input side to an output side.  A side is a socket or a fan, at most one
     of the two is a fan, and opposite a fan stands a network socket.  Both sides lead to a socket
     with the connection's type of data, and both sockets stand on ports of one node.

  All of this only asks for resources that are there, so it survives every extension of the arena
  (`TypedAt.extend`), and an arena stays typed if what is added to it is typed (`Typed.push`).
-/
import MediaNetwork.Proofs.Graph.Extension

namespace MediaNetwork

/-! ## What each resource asks of the others -/

/-- Whether a socket of one kind stands on a port of another; a stream socket stands on half A. -/
def SocketKind.StandsOn : SocketKind → PortKind → Prop
  | .network .., .network => True
  | .usb .., .usb _ => True
  | .mediaLb .., .mediaLb _ => True
  | .stream .., .stream .a _ => True
  | _, _ => False

namespace Arena

/-- The socket with this handle, if it has one. -/
def socket? (a : Arena) (id : ResourceId) : Option Socket := (a.get? id).bind Resource.socket?

/-- The socket a side of a connection leads to: itself, or the one its fan wraps. -/
def sideSocket? (a : Arena) (id : ResourceId) : Option Socket :=
  match a.get? id with
  | some (.socket s) => some s
  | some (.splitter f) => a.socket? f.socketIn
  | some (.combiner f) => a.socket? f.socketOut
  | _ => none

/-- The address of the node whose port has this handle. -/
def portNode? (a : Arena) (id : ResourceId) : Option UInt16 :=
  ((a.get? id).bind Resource.port?).map fun p => p.node

/-- A handle of a socket with this direction. -/
def IsSocket (a : Arena) (direction : Direction) (id : ResourceId) : Prop :=
  ∃ s, a.get? id = some (.socket s) ∧ s.direction = direction

/-- A handle of a socket on the network. -/
def IsNetwork (a : Arena) (id : ResourceId) : Prop :=
  ∃ r, a.get? id = some r ∧ r.isNetworkSocket = true

/-- A handle on the network is that of a network socket. -/
theorem IsNetwork.exists_socket {a : Arena} {id : ResourceId} (h : a.IsNetwork id) :
    ∃ port direction dataType bandwidth decl,
      a.get? id = some (.socket ⟨port, direction, dataType, .network bandwidth decl⟩) := by
  obtain ⟨r, hr, hnetwork⟩ := h
  match r, hnetwork with
  | .socket ⟨port, direction, dataType, .network bandwidth decl⟩, _ =>
    exact ⟨port, direction, dataType, bandwidth, decl, hr⟩

/-- A handle of a splitter. -/
def IsSplitter (a : Arena) (id : ResourceId) : Prop := ∃ f, a.get? id = some (.splitter f)

/-- A handle of a combiner. -/
def IsCombiner (a : Arena) (id : ResourceId) : Prop := ∃ f, a.get? id = some (.combiner f)

/-- The side `id` leads to a socket with this type of data on a port of this node. -/
def LeadsTo (a : Arena) (id : ResourceId) (dataType : DataType) (node : UInt16) : Prop :=
  ∃ s, a.sideSocket? id = some s ∧ s.dataType = dataType ∧ a.portNode? s.port = some node

/-- A side that leads to a socket is there. -/
theorem LeadsTo.exists_get? {a : Arena} {id : ResourceId} {dataType : DataType} {node : UInt16}
    (h : a.LeadsTo id dataType node) : ∃ r, a.get? id = some r := by
  obtain ⟨s, hs, -, -⟩ := h
  cases hr : a.get? id with
  | none => simp [sideSocket?, hr] at hs
  | some r => exact ⟨r, rfl⟩

end Arena

/-- What a connection asks of its two sides. -/
structure Connection.TypedAt (a : Arena) (c : Connection) : Prop where
  input : a.IsSocket .input c.socketIn ∨ a.IsSplitter c.socketIn
  output : a.IsSocket .output c.socketOut ∨ a.IsCombiner c.socketOut
  /-- Not both sides are fans. -/
  oneFan : ¬ (a.IsSplitter c.socketIn ∧ a.IsCombiner c.socketOut)
  behindSplitter : a.IsSplitter c.socketIn → a.IsNetwork c.socketOut
  beforeCombiner : a.IsCombiner c.socketOut → a.IsNetwork c.socketIn
  /-- Both sides lead to sockets with the connection's type of data, on ports of one node. -/
  sides : ∃ node, a.LeadsTo c.socketIn c.kind.dataType node ∧
    a.LeadsTo c.socketOut c.kind.dataType node

/-- What a resource asks of the resources it holds handles of. -/
def Resource.Asks (a : Arena) : Resource → Prop
  | port _ => True
  | socket s => ∃ p, a.get? s.port = some (.port p) ∧ s.kind.StandsOn p.kind
  | splitter f => a.IsSocket .input f.socketIn
  | combiner f => a.IsSocket .output f.socketOut
  | connection c => c.TypedAt a

/-- A resource at place `i` of an arena is typed: its handles lead back, to what it asks for. -/
def Resource.TypedAt (a : Arena) (i : Nat) (r : Resource) : Prop :=
  (∀ id ∈ r.handles, id.index < i) ∧ r.Asks a

/-- Every resource of an arena is typed. -/
def Arena.Typed (a : Arena) : Prop := ∀ i r, a.get? ⟨i⟩ = some r → r.TypedAt a i

/-! ## Extension keeps it -/

section Extension

variable {a b : Arena} (h : a.ExtendsTo b)

include h

/-- What is found in an arena is found in any that extends it. -/
theorem Arena.ExtendsTo.socket? {id : ResourceId} {s : Socket} (hs : a.socket? id = some s) :
    b.socket? id = some s := by
  obtain ⟨r, hr, hs⟩ := Option.bind_eq_some_iff.mp hs
  exact Option.bind_eq_some_iff.mpr ⟨r, h.get? hr, hs⟩

theorem Arena.ExtendsTo.sideSocket? {id : ResourceId} {s : Socket}
    (hs : a.sideSocket? id = some s) : b.sideSocket? id = some s := by
  unfold Arena.sideSocket? at hs ⊢
  split at hs
  · rename_i t ht
    rw [h.get? ht]
    exact hs
  · rename_i f hf
    rw [h.get? hf]
    exact h.socket? hs
  · rename_i f hf
    rw [h.get? hf]
    exact h.socket? hs
  · nomatch hs

theorem Arena.ExtendsTo.portNode? {id : ResourceId} {node : UInt16}
    (hn : a.portNode? id = some node) : b.portNode? id = some node := by
  obtain ⟨p, hp, hnode⟩ := Option.map_eq_some_iff.mp hn
  obtain ⟨r, hr, hp⟩ := Option.bind_eq_some_iff.mp hp
  exact Option.map_eq_some_iff.mpr ⟨p, Option.bind_eq_some_iff.mpr ⟨r, h.get? hr, hp⟩, hnode⟩

theorem Arena.IsSocket.extend {direction : Direction} {id : ResourceId}
    (hs : a.IsSocket direction id) : b.IsSocket direction id := by
  obtain ⟨s, hs, hd⟩ := hs
  exact ⟨s, h.get? hs, hd⟩

theorem Arena.IsNetwork.extend {id : ResourceId} (hn : a.IsNetwork id) : b.IsNetwork id := by
  obtain ⟨r, hr, hn⟩ := hn
  exact ⟨r, h.get? hr, hn⟩

theorem Arena.LeadsTo.extend {id : ResourceId} {dataType : DataType} {node : UInt16}
    (hl : a.LeadsTo id dataType node) : b.LeadsTo id dataType node := by
  obtain ⟨s, hs, hd, hn⟩ := hl
  exact ⟨s, h.sideSocket? hs, hd, h.portNode? hn⟩

/-- What a side of a connection is does not change, whatever it is. -/
theorem Arena.ExtendsTo.get?_eq_of_leadsTo {id : ResourceId} {dataType : DataType}
    {node : UInt16} (hl : a.LeadsTo id dataType node) : b.get? id = a.get? id := by
  obtain ⟨r, hr⟩ := hl.exists_get?
  rw [hr, h.get? hr]

/-- A typed connection stays typed when the arena grows. -/
theorem Connection.TypedAt.extend {c : Connection} (hc : c.TypedAt a) : c.TypedAt b := by
  obtain ⟨node, hin, hout⟩ := hc.sides
  have hsplitter : b.IsSplitter c.socketIn → a.IsSplitter c.socketIn := by
    rintro ⟨f, hf⟩
    exact ⟨f, (h.get?_eq_of_leadsTo hin).symm.trans hf⟩
  have hcombiner : b.IsCombiner c.socketOut → a.IsCombiner c.socketOut := by
    rintro ⟨f, hf⟩
    exact ⟨f, (h.get?_eq_of_leadsTo hout).symm.trans hf⟩
  refine ⟨?_, ?_, ?_, ?_, ?_, node, hin.extend h, hout.extend h⟩
  · rcases hc.input with hs | ⟨f, hf⟩
    · exact Or.inl (hs.extend h)
    · exact Or.inr ⟨f, h.get? hf⟩
  · rcases hc.output with hs | ⟨f, hf⟩
    · exact Or.inl (hs.extend h)
    · exact Or.inr ⟨f, h.get? hf⟩
  · rintro ⟨hs, hf⟩
    exact hc.oneFan ⟨hsplitter hs, hcombiner hf⟩
  · intro hs
    exact (hc.behindSplitter (hsplitter hs)).extend h
  · intro hf
    exact (hc.beforeCombiner (hcombiner hf)).extend h

/-- **Growth**: so does any typed resource. -/
theorem Resource.TypedAt.extend {i : Nat} {r : Resource} (hr : r.TypedAt a i) :
    r.TypedAt b i := by
  refine ⟨hr.1, ?_⟩
  have hasks := hr.2
  cases r with
  | port p => trivial
  | socket s =>
    obtain ⟨p, hp, hstand⟩ := hasks
    exact ⟨p, h.get? hp, hstand⟩
  | splitter f => exact Arena.IsSocket.extend h hasks
  | combiner f => exact Arena.IsSocket.extend h hasks
  | connection c => exact Connection.TypedAt.extend h hasks

end Extension

/-! ## Typed arenas -/

/-- The empty arena holds nothing that is not typed. -/
theorem Arena.typed_empty : Arena.empty.Typed := by
  intro i r h
  rw [get?_empty] at h
  nomatch h

/-- An arena stays typed if what is added to it is typed at the next place. -/
theorem Arena.Typed.push {a : Arena} (ha : a.Typed) {r : Resource} (hr : r.TypedAt a a.size) :
    (a.push r).Typed := by
  intro i x hx
  rcases get?_push hx with hold | ⟨hid, rfl⟩
  · exact (ha i x hold).extend (ExtendsTo.push a r)
  · obtain rfl : i = a.size := congrArg ResourceId.index hid
    exact hr.extend (ExtendsTo.push a x)

/-- A port asks for nothing. -/
theorem Arena.Typed.push_port {a : Arena} (ha : a.Typed) (p : Port) :
    (a.push (.port p)).Typed :=
  ha.push ⟨fun _ h => (nomatch h), trivial⟩

end MediaNetwork

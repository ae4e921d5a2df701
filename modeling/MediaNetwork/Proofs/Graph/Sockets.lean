/-
  What the builder does for one socket.

  Three facts are kept apart, so that each operation has one lemma for all of them:

  1. `Builder.Sound` — the invariant while a node is built: the arena is typed, and the port slots
     hold ports of that node, each of its own kind;
  2. `Builder.Quiet` — the frame of creating a port or a socket: the arena only grows, and nodes,
     endpoints, links and the stream port are not touched;
  3. `Arena.Holds` — the result: a socket as its declaration asks for it, on a port it can stand
     on.

  `attach_spec` and `addSocket_spec` state all three, and with them the exact job list: the entries
  that lead to the socket (`SocketDecl.lead`), then the socket.
-/
import MediaNetwork.Connection.Builder
import MediaNetwork.Proofs.Graph.JobOrder
import MediaNetwork.Proofs.Graph.Typed

namespace MediaNetwork

/-! ## The invariant -/

/-- The ports a node declares. -/
structure PortPlan where
  mediaLb : Option MlbClock
  usb : Option UsbSettings
  stream : Option StreamSettings

/-- The MediaLB port of a node: the declared one, else the one its sockets get. -/
def PortPlan.mediaLbPort (p : PortPlan) (node : UInt16) : Port :=
  match p.mediaLb with
  | some clock => ⟨node, .declared, .mediaLb clock⟩
  | none => ⟨node, .default, .mediaLb .fs256⟩

/-- The USB port of a node: the declared one, else the one its sockets get. -/
def PortPlan.usbPort (p : PortPlan) (node : UInt16) : Port :=
  match p.usb with
  | some settings => ⟨node, .declared, .usb settings⟩
  | none => ⟨node, .default, .usb UsbSettings.default⟩

/-- The slots of a node's ports hold its ports, and every declared port has its slot filled. -/
structure NodePorts.On (a : Arena) (node : UInt16) (p : PortPlan) (ports : NodePorts) : Prop where
  network : ∀ id, ports.network = some id → a.get? id = some (.port ⟨node, .default, .network⟩)
  mediaLb : ∀ id, ports.mediaLb = some id → a.get? id = some (.port (p.mediaLbPort node))
  usb : ∀ id, ports.usb = some id → a.get? id = some (.port (p.usbPort node))
  /-- Both halves of a stream port have the same settings. -/
  stream : ∀ portA portB, ports.stream = some (portA, portB) →
    ∃ settings, p.stream = some settings ∧
      a.get? portA = some (.port ⟨node, .declared, .stream .a settings⟩) ∧
      a.get? portB = some (.port ⟨node, .declared, .stream .b settings⟩)
  mediaLb_declared : ports.mediaLb = none → p.mediaLb = none
  usb_declared : ports.usb = none → p.usb = none
  stream_declared : ports.stream = none → p.stream = none

theorem NodePorts.On.extend {a b : Arena} (h : a.ExtendsTo b) {node : UInt16} {p : PortPlan}
    {ports : NodePorts} (hp : ports.On a node p) : ports.On b node p where
  network := fun id hid => h.get? (hp.network id hid)
  mediaLb := fun id hid => h.get? (hp.mediaLb id hid)
  usb := fun id hid => h.get? (hp.usb id hid)
  stream := by
    intro portA portB hid
    obtain ⟨settings, hs, hA, hB⟩ := hp.stream portA portB hid
    exact ⟨settings, hs, h.get? hA, h.get? hB⟩
  mediaLb_declared := hp.mediaLb_declared
  usb_declared := hp.usb_declared
  stream_declared := hp.stream_declared

namespace Builder

/-- The invariant of a builder at work on a node that declares these ports. -/
structure Sound (node : UInt16) (p : PortPlan) (b : Builder) : Prop where
  typed : b.arena.Typed
  ports : b.ports.On b.arena node p

/-! ## The frame -/

/-- From `b` to `b'` the arena has grown and at most ports have been filled in. -/
structure Quiet (b b' : Builder) : Prop where
  arena : b.arena.ExtendsTo b'.arena
  nodes : b'.nodes = b.nodes
  endpoints : b'.endpoints = b.endpoints
  links : b'.links = b.links
  stream : b'.ports.stream = b.ports.stream

theorem Quiet.refl (b : Builder) : b.Quiet b := ⟨Arena.ExtendsTo.refl _, rfl, rfl, rfl, rfl⟩

theorem Quiet.trans {b c d : Builder} (hbc : b.Quiet c) (hcd : c.Quiet d) : b.Quiet d :=
  ⟨hbc.arena.trans hcd.arena, hcd.nodes.trans hbc.nodes, hcd.endpoints.trans hbc.endpoints,
    hcd.links.trans hbc.links, hcd.stream.trans hbc.stream⟩

theorem quiet_alloc (b : Builder) (r : Resource) : b.Quiet (b.alloc r).2 :=
  ⟨Arena.ExtendsTo.push _ _, rfl, rfl, rfl, rfl⟩

/-- A typed resource may be created at any time. -/
theorem Sound.alloc {node : UInt16} {p : PortPlan} {b : Builder} (hs : b.Sound node p)
    {r : Resource} (hr : r.TypedAt b.arena b.arena.size) : (b.alloc r).2.Sound node p :=
  ⟨hs.typed.push hr, hs.ports.extend (Arena.ExtendsTo.push _ _)⟩

/-! ## Ports -/

/-- The port `r` of a node is provided without disturbing anything. -/
def Provides (b : Builder) (node : UInt16) (p : PortPlan) (r : Port)
    (result : ResourceId × Builder) : Prop :=
  result.2.Sound node p ∧ b.Quiet result.2 ∧ result.2.arena.get? result.1 = some (.port r)

section Ports

variable {node : UInt16} {p : PortPlan} {b : Builder} (hs : b.Sound node p)

include hs

theorem provides_networkPort :
    b.Provides node p ⟨node, .default, .network⟩ (b.networkPort node) := by
  unfold networkPort
  split
  · rename_i id hid
    exact ⟨hs, Quiet.refl b, hs.ports.network id hid⟩
  · have hold := hs.ports.extend (Arena.ExtendsTo.push b.arena (.port ⟨node, .default, .network⟩))
    refine ⟨⟨hs.typed.push_port _, { hold with network := fun id hid => ?_ }⟩,
      ⟨Arena.ExtendsTo.push _ _, rfl, rfl, rfl, rfl⟩, Arena.get?_push_next _ _⟩
    cases hid
    exact Arena.get?_push_next _ _

theorem provides_usbPort : b.Provides node p (p.usbPort node) (b.usbPort node) := by
  unfold usbPort
  split
  · rename_i id hid
    exact ⟨hs, Quiet.refl b, hs.ports.usb id hid⟩
  · rename_i hnone
    have hport : p.usbPort node = ⟨node, .default, .usb UsbSettings.default⟩ := by
      rw [PortPlan.usbPort, hs.ports.usb_declared hnone]
    have hold := hs.ports.extend (Arena.ExtendsTo.push b.arena (.port (p.usbPort node)))
    rw [← hport]
    refine ⟨⟨hs.typed.push_port _, { hold with usb := fun id hid => ?_, usb_declared := ?_ }⟩,
      ⟨Arena.ExtendsTo.push _ _, rfl, rfl, rfl, rfl⟩, Arena.get?_push_next _ _⟩
    · cases hid
      exact Arena.get?_push_next _ _
    · intro h
      nomatch h

theorem provides_mediaLbPort :
    b.Provides node p (p.mediaLbPort node) (b.mediaLbPort node) := by
  unfold mediaLbPort
  split
  · rename_i id hid
    exact ⟨hs, Quiet.refl b, hs.ports.mediaLb id hid⟩
  · rename_i hnone
    have hport : p.mediaLbPort node = ⟨node, .default, .mediaLb .fs256⟩ := by
      rw [PortPlan.mediaLbPort, hs.ports.mediaLb_declared hnone]
    have hold := hs.ports.extend (Arena.ExtendsTo.push b.arena (.port (p.mediaLbPort node)))
    rw [← hport]
    refine ⟨⟨hs.typed.push_port _,
      { hold with mediaLb := fun id hid => ?_, mediaLb_declared := ?_ }⟩,
      ⟨Arena.ExtendsTo.push _ _, rfl, rfl, rfl, rfl⟩, Arena.get?_push_next _ _⟩
    · cases hid
      exact Arena.get?_push_next _ _
    · intro h
      nomatch h

end Ports

end Builder

/-! ## Sockets -/

/-- A stream socket is declared for the stream port of its node. -/
def SocketDecl.Fits (declared : Option (ResourceId × ResourceId)) : SocketDecl → Prop
  | stream ports _ _ => declared = some ports
  | _ => True

/-- What goes on a job list before a socket on port `port`: the port, the second half of a stream
    port, and for a branch of a combiner the combiner. -/
def SocketDecl.lead (port : ResourceId) (combiner : Option ResourceId) :
    SocketDecl → List ResourceId
  | network _ => port :: combiner.toList
  | stream ports _ _ => [port, ports.2]
  | _ => [port]

/-- The arena holds the socket `id` on the port `port`, as `socket` declares it for `d`. -/
structure Arena.Holds (a : Arena) (d : ConnectionDecl) (direction : Direction)
    (socket : SocketDecl) (port id : ResourceId) : Prop where
  read : a.get? id = some (.socket ⟨port, direction, d.style.dataType, socket.kind⟩)
  stands : ∃ origin kind, socket.kind.StandsOn kind ∧
    a.get? port = some (.port ⟨d.node, origin, kind⟩)
  /-- A stream socket stands on half A. -/
  half : ∀ ports pin bandwidth, socket = .stream ports pin bandwidth → port = ports.1

theorem Arena.Holds.extend {a b : Arena} (h : a.ExtendsTo b) {d : ConnectionDecl}
    {direction : Direction} {socket : SocketDecl} {port id : ResourceId}
    (hs : a.Holds d direction socket port id) : b.Holds d direction socket port id := by
  obtain ⟨origin, kind, hstand, hport⟩ := hs.stands
  exact ⟨h.get? hs.read, ⟨origin, kind, hstand, h.get? hport⟩, hs.half⟩

namespace Builder

variable {p : PortPlan} {b : Builder} {d : ConnectionDecl} {socket : SocketDecl}

/-- A socket finds a port it can stand on, and its job list leads there. -/
theorem attach_spec (hs : b.Sound d.node p) (hf : socket.Fits b.ports.stream)
    (combiner : Option ResourceId) (jobs : JobList) :
    ∃ port b', b.attach d.node combiner jobs socket =
        (port, jobs.pushAll (socket.lead port combiner), b') ∧
      b'.Sound d.node p ∧ b.Quiet b' ∧
      (∃ origin kind, socket.kind.StandsOn kind ∧
        b'.arena.get? port = some (.port ⟨d.node, origin, kind⟩)) ∧
      ∀ ports pin bandwidth, socket = .stream ports pin bandwidth → port = ports.1 := by
  cases socket with
  | network decl =>
    obtain ⟨hsound, hquiet, hport⟩ := provides_networkPort hs
    refine ⟨(b.networkPort d.node).1, (b.networkPort d.node).2, ?_, hsound, hquiet,
      ⟨.default, .network, trivial, hport⟩, fun _ _ _ h => nomatch h⟩
    cases combiner <;> rfl
  | usb endpointAddress framesPerTransaction =>
    obtain ⟨hsound, hquiet, hport⟩ := provides_usbPort hs
    refine ⟨_, _, rfl, hsound, hquiet, ?_, fun _ _ _ h => nomatch h⟩
    -- declared or by default, the port is a USB port
    unfold PortPlan.usbPort at hport
    split at hport
    · exact ⟨_, _, by trivial, hport⟩
    · exact ⟨_, _, by trivial, hport⟩
  | mediaLb channelAddress bandwidth =>
    obtain ⟨hsound, hquiet, hport⟩ := provides_mediaLbPort hs
    refine ⟨_, _, rfl, hsound, hquiet, ?_, fun _ _ _ h => nomatch h⟩
    unfold PortPlan.mediaLbPort at hport
    split at hport
    · exact ⟨_, _, by trivial, hport⟩
    · exact ⟨_, _, by trivial, hport⟩
  | stream ports pin bandwidth =>
    obtain ⟨portA, portB⟩ := ports
    obtain ⟨settings, -, hport, -⟩ := hs.ports.stream portA portB hf
    refine ⟨portA, b, rfl, hs, Quiet.refl b, ⟨.declared, .stream .a settings, trivial, hport⟩, ?_⟩
    intro ports' _ _ h
    cases h
    rfl

/-- A socket is created on its port, and its job list ends in it. -/
theorem addSocket_spec (hs : b.Sound d.node p) (hf : socket.Fits b.ports.stream)
    (direction : Direction) (combiner : Option ResourceId) (jobs : JobList) :
    ∃ port id b', b.addSocket d.node d.style.dataType direction combiner jobs socket =
        (id, jobs.pushAll (socket.lead port combiner ++ [id]), b') ∧
      b'.Sound d.node p ∧ b.Quiet b' ∧ b'.arena.Holds d direction socket port id ∧
      b.arena.size ≤ id.index := by
  obtain ⟨port, b', heq, hsound, hquiet, hstands, hhalf⟩ := attach_spec hs hf combiner jobs
  obtain ⟨origin, kind, hstand, hport⟩ := hstands
  have htyped : (Resource.socket ⟨port, direction, d.style.dataType, socket.kind⟩).TypedAt
      b'.arena b'.arena.size := by
    refine ⟨fun id hid => ?_, _, hport, hstand⟩
    rw [List.mem_singleton.mp hid]
    exact Arena.lt_size_of_get? hport
  refine ⟨port, b'.arena.next, (b'.alloc _).2, ?_, hsound.alloc htyped,
    hquiet.trans (quiet_alloc b' _), ?_, hquiet.arena.size_le⟩
  · simp only [addSocket, heq, JobList.pushAll_append]
    rfl
  · refine ⟨Arena.get?_push_next _ _, ⟨origin, kind, hstand, ?_⟩, hhalf⟩
    exact (Arena.ExtendsTo.push _ _).get? hport

end Builder

end MediaNetwork

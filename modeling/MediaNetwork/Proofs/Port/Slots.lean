/-
  Port slots and what fills them.

  A node has a slot for each kind of port, and two for the halves of a stream port.  The slots of
  declared ports are filled when the node begins, those of the network, MediaLB and USB port by the
  first socket that needs such a port; nothing the builder does empties or changes a slot.

  1. `Builder.Furnishes node origin needs b b'` — from `b` to `b'`, which may be any number of steps
     apart, the filled slots stay as they are, every new port belongs to `node`, has this origin and
     is in its slot, and the slots that are filled in the end are those that were and those in
     `needs`.
  2. It composes (`Furnishes.trans`), so it climbs from one port (`furnishes_portIn`) over sockets
     to whole connections (`furnishes_connect`), and to the declared ports of a node
     (`furnishes_declare`).
  3. The declared ports come one after the other, in their order (`toList_declare`).
-/
import MediaNetwork.Proofs.Graph.Plan

namespace MediaNetwork

open MediaNetwork.Markup MediaNetwork.Outcome

/-! ## Slots -/

/-- The places a node has for ports. -/
inductive PortSlot
  | network | mediaLb | usb | streamA | streamB
  deriving DecidableEq, Repr

/-- The slot of a port of this kind. -/
def PortKind.slot : PortKind → PortSlot
  | network => .network
  | mediaLb _ => .mediaLb
  | usb _ => .usb
  | stream .a _ => .streamA
  | stream .b _ => .streamB

/-- The port in a slot. -/
def NodePorts.at (ports : NodePorts) : PortSlot → Option ResourceId
  | .network => ports.network
  | .mediaLb => ports.mediaLb
  | .usb => ports.usb
  | .streamA => ports.stream.map Prod.fst
  | .streamB => ports.stream.map Prod.snd

/-- The slot a socket fills if it is empty.  A stream port is there before its sockets. -/
def SocketDecl.needs : SocketDecl → List PortSlot
  | network _ => [.network]
  | usb .. => [.usb]
  | mediaLb .. => [.mediaLb]
  | stream .. => []

namespace Wiring

/-- The sockets of a connection, in the order of their elements. -/
def sockets : Wiring → List SocketDecl
  | plain input output => [input, output]
  | fanOut input _ branches => input :: branches.map .network
  | fanIn _ branches output => branches.map .network ++ [output]

/-- The slots the sockets of a connection fill. -/
def needs (w : Wiring) : List PortSlot := w.sockets.flatMap SocketDecl.needs

end Wiring

/-- The kinds of the declared ports, in the order in which they are created. -/
def PortPlan.kinds (p : PortPlan) : List PortKind :=
  p.mediaLb.toList.map .mediaLb ++ (p.usb.toList.map .usb ++
    p.stream.toList.flatMap fun settings => [.stream .a settings, .stream .b settings])

/-- The slots that are filled from the start. -/
theorem PortPlan.mem_slots (p : PortPlan) (slot : PortSlot) :
    slot ∈ p.kinds.map PortKind.slot ↔ (slot = .mediaLb ∧ p.mediaLb.isSome) ∨
      (slot = .usb ∧ p.usb.isSome) ∨
      ((slot = .streamA ∨ slot = .streamB) ∧ p.stream.isSome) := by
  obtain ⟨_ | clock, _ | usb, _ | stream⟩ := p <;> simp [kinds, PortKind.slot]

/-- The declared ports of a node. -/
def PortPlan.declared (p : PortPlan) (node : UInt16) : List Port :=
  p.kinds.map fun kind => ⟨node, .declared, kind⟩

namespace Builder

/-! ## Filling slots -/

/-- From `b` to `b'` ports of the node were created, each in its slot: those in `needs` that were
    not there. -/
structure Furnishes (node : UInt16) (origin : PortOrigin) (needs : List PortSlot) (b b' : Builder) :
    Prop where
  arena : b.arena.ExtendsTo b'.arena
  kept : ∀ slot id, b.ports.at slot = some id → b'.ports.at slot = some id
  housed : ∀ id p, b'.arena.get? id = some (.port p) → b.arena.get? id = some (.port p) ∨
    (p.node = node ∧ p.origin = origin ∧ b'.ports.at p.kind.slot = some id)
  filled : ∀ slot, (b'.ports.at slot).isSome ↔ (b.ports.at slot).isSome ∨ slot ∈ needs

namespace Furnishes

variable {node : UInt16} {origin : PortOrigin} {needs needs' : List PortSlot} {b b' b'' : Builder}

/-- Nothing but other resources was created. -/
theorem of_ports_eq (arena : b.arena.ExtendsTo b'.arena) (hports : b'.ports = b.ports)
    (hold : ∀ id p, b'.arena.get? id = some (.port p) → b.arena.get? id = some (.port p)) :
    Furnishes node origin [] b b' where
  arena := arena
  kept := fun slot id h => by rwa [hports]
  housed := fun id p h => Or.inl (hold id p h)
  filled := fun slot => by simp [hports]

/-- Nothing happens, nothing is filled. -/
theorem refl (b : Builder) : Furnishes node origin [] b b :=
  of_ports_eq (Arena.ExtendsTo.refl _) rfl fun _ _ h => h

/-- **Composition**: the needs of two steps add up. -/
theorem trans (h : Furnishes node origin needs b b') (h' : Furnishes node origin needs' b' b'') :
    Furnishes node origin (needs ++ needs') b b'' where
  arena := h.arena.trans h'.arena
  kept := fun slot id hid => h'.kept slot id (h.kept slot id hid)
  housed := by
    intro id p hp
    rcases h'.housed id p hp with hold | hnew
    · exact (h.housed id p hold).imp_right fun hslot => ⟨hslot.1, hslot.2.1, h'.kept _ _ hslot.2.2⟩
    · exact Or.inr hnew
  filled := fun slot => by rw [h'.filled, h.filled, List.mem_append, or_assoc]

/-- Only which slots are needed counts. -/
theorem congr (h : Furnishes node origin needs b b')
    (hneeds : ∀ slot, slot ∈ needs ↔ slot ∈ needs') : Furnishes node origin needs' b b' :=
  ⟨h.arena, h.kept, h.housed, fun slot => by rw [h.filled, hneeds]⟩

/-- One step after the other. -/
theorem foldl {α : Type} {step : Builder → α → Builder} {needs : α → List PortSlot} {xs : List α}
    (hstep : ∀ b, ∀ x ∈ xs, Furnishes node origin (needs x) b (step b x)) (b : Builder) :
    Furnishes node origin (xs.flatMap needs) b (xs.foldl step b) := by
  induction xs generalizing b with
  | nil => exact refl b
  | cons x xs ih =>
    rw [List.foldl_cons, List.flatMap_cons]
    exact (hstep b x List.mem_cons_self).trans
      (ih (fun b y hy => hstep b y (List.mem_cons_of_mem _ hy)) _)

end Furnishes

/-- A resource that is no port fills no slot. -/
theorem Furnishes.alloc {node : UInt16} {origin : PortOrigin} {needs : List PortSlot}
    {b b' : Builder} (h : Furnishes node origin needs b b') {r : Resource} (hr : r.port? = none) :
    Furnishes node origin needs b (b'.alloc r).2 := by
  have halloc : Furnishes node origin [] b' (b'.alloc r).2 := by
    refine Furnishes.of_ports_eq (Arena.ExtendsTo.push _ _) rfl fun id p hp => ?_
    rcases Arena.get?_push hp with hold | ⟨-, rfl⟩
    · exact hold
    · nomatch hr
  have hboth := h.trans halloc
  rwa [List.append_nil] at hboth

section Sockets

variable (node : UInt16) (b : Builder)

/-- A port that is asked for is in its slot, whether it was there or not. -/
theorem furnishes_portIn (kind : PortKind) (origin : PortOrigin) (fill : ResourceId → NodePorts)
    (hslot : ∀ id, (fill id).at kind.slot = some id)
    (hother : ∀ id slot, slot ≠ kind.slot → (fill id).at slot = b.ports.at slot) :
    Furnishes node origin [kind.slot] b
      (b.portIn (b.ports.at kind.slot) ⟨node, origin, kind⟩ fill).2 := by
  cases hcached : b.ports.at kind.slot with
  | some id =>
    have hsame : (b.portIn (some id) ⟨node, origin, kind⟩ fill).2 = b := rfl
    rw [hsame]
    -- nothing is created, and the slot that is needed is one that is filled
    refine ⟨Arena.ExtendsTo.refl _, fun _ _ h => h, fun _ _ h => Or.inl h, fun slot => ?_⟩
    rw [List.mem_singleton, iff_self_or]
    rintro rfl
    rw [hcached]
    rfl
  | none =>
    -- `fill` cannot overwrite a port, since the only slot it changes was empty
    refine ⟨Arena.ExtendsTo.push _ _, fun slot id hid => ?_, fun id p hp => ?_, fun slot => ?_⟩
    · have hne : slot ≠ kind.slot := by
        rintro rfl
        rw [hcached] at hid
        nomatch hid
      exact (hother _ slot hne).trans hid
    · rcases Arena.get?_push hp with hold | ⟨rfl, hnew⟩
      · exact Or.inl hold
      · cases hnew
        exact Or.inr ⟨rfl, rfl, hslot _⟩
    · show ((fill b.arena.next).at slot).isSome ↔ _
      by_cases hkind : slot = kind.slot
      · simp [hkind, hslot]
      · simp [hkind, hother]

/-- The network port fills its slot; so do the USB and the MediaLB port. -/
theorem furnishes_networkPort : Furnishes node .default [.network] b (b.networkPort node).2 := by
  rw [networkPort_eq]
  refine furnishes_portIn node b .network _ _ (fun _ => rfl) fun id slot hne => ?_
  cases slot with
  | network => exact absurd rfl hne
  | _ => rfl

theorem furnishes_usbPort : Furnishes node .default [.usb] b (b.usbPort node).2 := by
  rw [usbPort_eq]
  refine furnishes_portIn node b (.usb UsbSettings.default) _ _ (fun _ => rfl) fun id slot hne => ?_
  cases slot with
  | usb => exact absurd rfl hne
  | _ => rfl

theorem furnishes_mediaLbPort : Furnishes node .default [.mediaLb] b (b.mediaLbPort node).2 := by
  rw [mediaLbPort_eq]
  refine furnishes_portIn node b (.mediaLb .fs256) _ _ (fun _ => rfl) fun id slot hne => ?_
  cases slot with
  | mediaLb => exact absurd rfl hne
  | _ => rfl

/-- **Sockets**: a socket fills the slot it needs. -/
theorem furnishes_addSocket (dataType : DataType) (direction : Direction)
    (combiner : Option ResourceId) (jobs : JobList) (socket : SocketDecl) :
    Furnishes node .default socket.needs b
      (b.addSocket node dataType direction combiner jobs socket).2.2 := by
  have hattach : Furnishes node .default socket.needs b
      (b.attach node combiner jobs socket).2.2 := by
    cases socket with
    | network decl =>
      simp only [attach]
      cases combiner <;> exact furnishes_networkPort node b
    | usb endpointAddress framesPerTransaction => exact furnishes_usbPort node b
    | mediaLb channelAddress bandwidth => exact furnishes_mediaLbPort node b
    | stream ports pin bandwidth => exact Furnishes.refl b
  have hsocket : ∀ s : Socket, (Resource.socket s).port? = none := fun _ => rfl
  exact hattach.alloc (hsocket _)

end Sockets

/-! ## Connections -/

section Connections

variable (b : Builder) (d : ConnectionDecl)

/-- The connection and its endpoint fill no slot. -/
theorem Furnishes.finish {node : UInt16} {origin : PortOrigin} {needs : List PortSlot}
    {b b' : Builder} (h : Furnishes node origin needs b b') (d : ConnectionDecl) (jobs : JobList)
    (socketIn socketOut : ResourceId) (offset : Option UInt16) (kind : EndpointKind)
    (networkSocket : ResourceId) :
    Furnishes node origin needs b
      (b'.finish d jobs socketIn socketOut offset kind networkSocket) := by
  have hconnection : ∀ c : Connection, (Resource.connection c).port? = none := fun _ => rfl
  have halloc := h.alloc (hconnection ⟨socketIn, socketOut, d.style.kind offset⟩)
  refine ⟨?_, ?_, ?_, ?_⟩
  · rw [arena_finish]
    exact halloc.arena
  · rw [ports_finish]
    exact halloc.kept
  · rw [arena_finish, ports_finish]
    exact halloc.housed
  · rw [ports_finish]
    exact halloc.filled

/-- Without a fan the two sockets fill what they need. -/
theorem furnishes_connectPlain (input output : SocketDecl) :
    Furnishes d.node .default (input.needs ++ output.needs) b (b.connectPlain d input output) := by
  have hin := furnishes_addSocket d.node b d.style.dataType .input none JobList.empty input
  simp only [connectPlain]
  generalize b.addSocket d.node d.style.dataType .input none JobList.empty input = first at hin ⊢
  obtain ⟨i, jobs, b₁⟩ := first
  have hout := furnishes_addSocket d.node b₁ d.style.dataType .output none jobs output
  simp only
  generalize b₁.addSocket d.node d.style.dataType .output none jobs output = second at hout ⊢
  obtain ⟨o, jobs', b₂⟩ := second
  split
  · exact (hin.trans hout).finish _ _ _ _ _ _ _
  · exact (hin.trans hout).finish _ _ _ _ _ _ _

/-- A branch is a network socket, in a splitter and in a combiner alike. -/
theorem furnishes_connectOutput (splitter : ResourceId) (shared : JobList)
    (branch : NetworkDecl) :
    Furnishes d.node .default [.network] b (connectOutput d splitter shared b branch) :=
  (furnishes_addSocket d.node b d.style.dataType .output none shared (.network branch)).finish ..

/-- A branch needs the network port. -/
theorem furnishes_connectInput (combiner : ResourceId) (shared : JobList) (branch : NetworkDecl) :
    Furnishes d.node .default [.network] b (connectInput d combiner shared b branch) :=
  (furnishes_addSocket d.node b d.style.dataType .input (some combiner) shared
    (.network branch)).finish ..

/-- **Splitters** need what their input does and, once there are branches, the network port. -/
theorem furnishes_connectFanOut (input : SocketDecl) (bytesPerFrame : UInt16)
    (branches : List NetworkDecl) :
    Furnishes d.node .default (input.needs ++ branches.flatMap fun _ => [.network]) b
      (b.connectFanOut d input bytesPerFrame branches) := by
  have hin := furnishes_addSocket d.node b d.style.dataType .input none JobList.empty input
  have hsplitter : ∀ f : Splitter, (Resource.splitter f).port? = none := fun _ => rfl
  simp only [connectFanOut]
  generalize b.addSocket d.node d.style.dataType .input none JobList.empty input = first at hin ⊢
  obtain ⟨i, jobs, b₁⟩ := first
  exact (hin.alloc (hsplitter _)).trans (Furnishes.foldl
    (fun b branch _ => furnishes_connectOutput b d _ _ branch) _)

/-- **Combiners** need what their output does and, once there are branches, the network port. -/
theorem furnishes_connectFanIn (bytesPerFrame : UInt16) (branches : List NetworkDecl)
    (output : SocketDecl) :
    Furnishes d.node .default (output.needs ++ branches.flatMap fun _ => [.network]) b
      (b.connectFanIn d bytesPerFrame branches output) := by
  have hout := furnishes_addSocket d.node b d.style.dataType .output none JobList.empty output
  have hcombiner : ∀ f : Combiner, (Resource.combiner f).port? = none := fun _ => rfl
  simp only [connectFanIn]
  generalize b.addSocket d.node d.style.dataType .output none JobList.empty output = first
    at hout ⊢
  obtain ⟨o, jobs, b₁⟩ := first
  exact (hout.alloc (hcombiner _)).trans (Furnishes.foldl
    (fun b branch _ => furnishes_connectInput b d _ _ branch) _)

/-- **Connections**: a connection fills the slots its sockets need. -/
theorem furnishes_connect : Furnishes d.node .default d.wiring.needs b (b.connect d) := by
  unfold connect
  cases d.wiring with
  | plain input output =>
    refine (furnishes_connectPlain b d input output).congr fun slot => ?_
    simp [Wiring.needs, Wiring.sockets]
  | fanOut input bytesPerFrame branches =>
    refine (furnishes_connectFanOut b d input bytesPerFrame branches).congr fun slot => ?_
    simp [Wiring.needs, Wiring.sockets, SocketDecl.needs, List.flatMap_map]
  | fanIn bytesPerFrame branches output =>
    refine (furnishes_connectFanIn b d bytesPerFrame branches output).congr fun slot => ?_
    simp [Wiring.needs, Wiring.sockets, SocketDecl.needs, List.flatMap_map, or_comm]

end Connections

/-! ## Declared ports -/

section Declared

variable (node : UInt16) {b : Builder}

/-- A port that is declared fills its slot, and one that is not fills none. -/
theorem furnishes_withMediaLb (h : b.ports.mediaLb = none) (clock? : Option MlbClock) :
    Furnishes node .declared ((clock?.toList.map PortKind.mediaLb).map PortKind.slot) b
      (b.withMediaLb node clock?) := by
  cases clock? with
  | none => exact Furnishes.refl b
  | some clock =>
    have hport := furnishes_portIn node b (.mediaLb clock) .declared
      (fun id => { b.ports with mediaLb := some id }) (fun _ => rfl) fun id slot hne => by
        cases slot with
        | mediaLb => exact absurd rfl hne
        | _ => rfl
    have hempty : b.ports.at (PortKind.mediaLb clock).slot = none := h
    rw [hempty] at hport
    exact hport

theorem furnishes_withUsb (h : b.ports.usb = none) (settings? : Option UsbSettings) :
    Furnishes node .declared ((settings?.toList.map PortKind.usb).map PortKind.slot) b
      (b.withUsb node settings?) := by
  cases settings? with
  | none => exact Furnishes.refl b
  | some settings =>
    have hport := furnishes_portIn node b (.usb settings) .declared
      (fun id => { b.ports with usb := some id }) (fun _ => rfl) fun id slot hne => by
        cases slot with
        | usb => exact absurd rfl hne
        | _ => rfl
    have hempty : b.ports.at (PortKind.usb settings).slot = none := h
    rw [hempty] at hport
    exact hport

/-- Both halves are created before their slots are filled. -/
theorem furnishes_withStream (h : b.ports.stream = none) (settings? : Option StreamSettings) :
    Furnishes node .declared ((settings?.toList.flatMap fun settings =>
      [.stream .a settings, .stream .b settings]).map PortKind.slot) b
      (b.withStream node settings?) := by
  cases settings? with
  | none => exact Furnishes.refl b
  | some settings =>
    refine ⟨(Arena.ExtendsTo.push _ _).trans (Arena.ExtendsTo.push _ _), fun slot id hid => ?_,
      fun id p hp => ?_, fun slot => ?_⟩
    · cases slot with
      | streamA | streamB => simp [NodePorts.at, h] at hid
      | _ => exact hid
    · rcases Arena.get?_push hp with hold | ⟨rfl, hB⟩
      · rcases Arena.get?_push hold with hold | ⟨rfl, hA⟩
        · exact Or.inl hold
        · cases hA
          exact Or.inr ⟨rfl, rfl, rfl⟩
      · cases hB
        exact Or.inr ⟨rfl, rfl, rfl⟩
    · cases slot <;> simp [NodePorts.at, PortKind.slot, withStream, alloc]

variable (b)

/-- There is no stream port before it is declared. -/
theorem stream_withUsb (plan : NodePlan) :
    ((({ b with ports := NodePorts.absent } : Builder).withMediaLb plan.address
      plan.ports.mediaLb).withUsb plan.address plan.ports.usb).ports.stream = none := by
  cases plan.ports.mediaLb <;> cases plan.ports.usb <;> rfl

/-- **Declared ports**: a node begins with its declared ports, each in its slot. -/
theorem furnishes_declare (plan : NodePlan) : Furnishes plan.address .declared
    (plan.ports.kinds.map PortKind.slot) { b with ports := NodePorts.absent }
    (b.declare plan) := by
  have husb : (({ b with ports := NodePorts.absent } : Builder).withMediaLb plan.address
      plan.ports.mediaLb).ports.usb = none := by
    cases plan.ports.mediaLb <;> rfl
  have hall := (furnishes_withMediaLb plan.address rfl plan.ports.mediaLb).trans
    ((furnishes_withUsb plan.address husb plan.ports.usb).trans
      (furnishes_withStream plan.address (stream_withUsb b plan) plan.ports.stream))
  rw [← List.map_append, ← List.map_append] at hall
  exact hall

/-- They come behind what was there, one after the other. -/
theorem toList_declare (plan : NodePlan) : (b.declare plan).arena.toList =
    b.arena.toList ++ (plan.ports.declared plan.address).map Resource.port := by
  have hmediaLb : ∀ (b : Builder) (clock? : Option MlbClock),
      (b.withMediaLb plan.address clock?).arena.toList = b.arena.toList ++
        (clock?.toList.map fun clock => .port ⟨plan.address, .declared, .mediaLb clock⟩) := by
    intro b clock?
    cases clock? <;> simp [withMediaLb, alloc]
  have husb : ∀ (b : Builder) (settings? : Option UsbSettings),
      (b.withUsb plan.address settings?).arena.toList = b.arena.toList ++
        (settings?.toList.map fun settings =>
          .port ⟨plan.address, .declared, .usb settings⟩) := by
    intro b settings?
    cases settings? <;> simp [withUsb, alloc]
  have hstream : ∀ (b : Builder) (settings? : Option StreamSettings),
      (b.withStream plan.address settings?).arena.toList = b.arena.toList ++
        settings?.toList.flatMap fun settings =>
          [.port ⟨plan.address, .declared, .stream .a settings⟩,
            .port ⟨plan.address, .declared, .stream .b settings⟩] := by
    intro b settings?
    cases settings? <;> simp [withStream, alloc]
  rw [declare, hstream, husb, hmediaLb]
  simp [PortPlan.declared, PortPlan.kinds, List.map_flatMap, Function.comp_def]

/-- The two halves of a stream port are next to each other. -/
theorem stream_declare (plan : NodePlan) : ∃ first : Nat, (b.declare plan).ports.stream =
    plan.ports.stream.map fun _ => (⟨first⟩, ⟨first + 1⟩) := by
  have hnone := stream_withUsb b plan
  unfold declare
  generalize (({ b with ports := NodePorts.absent } : Builder).withMediaLb plan.address
    plan.ports.mediaLb).withUsb plan.address plan.ports.usb = begun at hnone ⊢
  cases plan.ports.stream with
  | none => exact ⟨0, hnone⟩
  | some settings => exact ⟨begun.arena.size, by simp [withStream, alloc, Arena.next]⟩

end Declared

end Builder

end MediaNetwork

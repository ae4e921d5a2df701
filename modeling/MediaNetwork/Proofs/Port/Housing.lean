/-
  The ports of a graph that is built from plans.

  1. `NodePlan.Furnished` — the slots of a node are filled as its plan declares and its connections
     need, the halves of its stream port are next to each other, and its declared ports come first.
     Later nodes do not change that, since no port of theirs has its address (`Furnished.extend`).
  2. `Arena.Housed` — every port of the arena is in its slot of a node with its address.

  A node that is taken in brings its declared ports (`furnishes_declare`), then those its
  connections need (`furnishes_connect`); this is the step (`housed_addPlan`,
  `furnished_addPlan`).  The run is the induction over the plans (`Built.furnished`).
-/
import MediaNetwork.Proofs.Graph.Built
import MediaNetwork.Proofs.Port.Order

namespace MediaNetwork

open MediaNetwork.Outcome

/-! ## What is known of a node -/

/-- The node has the ports its plan asks for. -/
structure NodePlan.Furnished (a : Arena) (plan : NodePlan) (n : Node) : Prop where
  address : n.address = plan.address
  ports : n.ports.On a n.address plan.ports
  filled : ∀ slot, (n.ports.at slot).isSome ↔ slot ∈ plan.ports.kinds.map PortKind.slot ∨
    ∃ d ∈ plan.connections, slot ∈ d.wiring.needs
  fits : ∀ d ∈ plan.connections, d.wiring.Fits n.ports.stream
  adjacent : ∃ first : Nat,
    n.ports.stream = plan.ports.stream.map fun _ => (⟨first⟩, ⟨first + 1⟩)
  order : a.DeclaredFirst n.address

/-- Nodes that come later change nothing. -/
theorem NodePlan.Furnished.extend {a b : Arena} {plan : NodePlan} {n : Node}
    (h : plan.Furnished a n) (ha : a.Typed) (hab : a.ExtendsTo b)
    (hold : ∀ id p, b.get? id = some (.port p) → p.node = n.address →
      a.get? id = some (.port p)) : plan.Furnished b n :=
  ⟨h.address, h.ports.extend hab, h.filled, h.fits, h.adjacent, h.order.extend ha hab hold⟩

/-- Linking its script changes nothing. -/
theorem NodePlan.Furnished.relink {a : Arena} {plan : NodePlan} {n m : Node}
    (h : plan.Furnished a n) (hm : n.Relinked m) : plan.Furnished a m := by
  obtain ⟨haddress, -, hports⟩ := hm
  constructor
  · exact haddress.trans h.address
  · rw [haddress, hports]
    exact h.ports
  · rw [hports]
    exact h.filled
  · rw [hports]
    exact h.fits
  · rw [hports]
    exact h.adjacent
  · rw [haddress]
    exact h.order

/-- Every port is in its slot of a node with its address. -/
def Arena.Housed (a : Arena) (nodes : List Node) : Prop :=
  ∀ id p, a.get? id = some (.port p) →
    ∃ n ∈ nodes, n.address = p.node ∧ n.ports.at p.kind.slot = some id

theorem Arena.Housed.relink {a : Arena} {nodes linked : List Node} (h : a.Housed nodes)
    (hl : List.Forall₂ Node.Relinked nodes linked) : a.Housed linked := by
  intro id p hp
  obtain ⟨n, hn, haddress, hslot⟩ := h id p hp
  obtain ⟨m, hm, hnm, -, hports⟩ := exists_of_forall₂ hl.flip hn
  exact ⟨m, hm, hnm.trans haddress, by rw [hports, hslot]⟩

/-! ## One more node -/

namespace Builder

section Step

variable {b : Builder} {plan : NodePlan} (ht : b.arena.Typed) (hw : b.Welcomes plan)

include ht hw

/-- The connections of a node fill the slots they need. -/
theorem furnishes_connections : Furnishes plan.address .default
    (plan.connections.flatMap fun d => d.wiring.needs) (b.declare plan)
    (plan.connections.foldl connect (b.declare plan)) := by
  obtain ⟨hs, -⟩ := declare_spec ht plan
  obtain ⟨hdeclared, -⟩ := foldl_connect_spec hs hw.2
  refine Furnishes.foldl (fun b d hd => ?_) _
  rw [← (hdeclared d hd).1]
  exact furnishes_connect b d

/-- A port of the grown arena was there before, or it is the node's and in its slot. -/
theorem port_addPlan {id : ResourceId} {p : Port}
    (hp : (b.addPlan plan).arena.get? id = some (.port p)) :
    b.arena.get? id = some (.port p) ∨ (p.node = plan.address ∧
      (plan.connections.foldl connect (b.declare plan)).ports.at p.kind.slot = some id) := by
  have hconnections := furnishes_connections ht hw
  rcases hconnections.housed id p hp with hdeclared | ⟨hnode, -, hslot⟩
  · rcases (furnishes_declare b plan).housed id p hdeclared with hold | ⟨hnode, -, hslot⟩
    · exact Or.inl hold
    · exact Or.inr ⟨hnode, hconnections.kept _ _ hslot⟩
  · exact Or.inr ⟨hnode, hslot⟩

/-- **The step**, for the arena. -/
theorem housed_addPlan (hb : b.arena.Housed b.nodes.toList) :
    (b.addPlan plan).arena.Housed (b.addPlan plan).nodes.toList := by
  intro id p hp
  rw [nodes_addPlan ht hw]
  rcases port_addPlan ht hw hp with hold | ⟨hnode, hslot⟩
  · obtain ⟨n, hn, haddress, hslot⟩ := hb id p hold
    exact ⟨n, List.mem_append_left _ hn, haddress, hslot⟩
  · exact ⟨_, List.mem_append_right _ (List.mem_singleton_self _), hnode.symm, hslot⟩

/-- **The step**, for the node that is taken in. -/
theorem furnished_addPlan (hb : b.arena.Housed b.nodes.toList) :
    plan.Furnished (b.addPlan plan).arena
      ⟨plan.address, plan.script, none,
        (plan.connections.foldl connect (b.declare plan)).ports⟩ := by
  have hdeclare := furnishes_declare b plan
  have hconnections := furnishes_connections ht hw
  obtain ⟨hs, hbegin⟩ := declare_spec ht plan
  obtain ⟨hdeclared, ess, hadds, -⟩ := foldl_connect_spec hs hw.2
  obtain ⟨first, hfirst⟩ := stream_declare b plan
  have hfresh : ∀ id p, b.arena.get? id = some (.port p) → p.node ≠ plan.address := by
    intro id p hp hnode
    obtain ⟨n, hn, haddress, -⟩ := hb id p hp
    exact hw.1 n hn (haddress.trans hnode)
  -- what its connections create is there by default
  have hlater : ∀ id p, (b.addPlan plan).arena.get? id = some (.port p) →
      p.node = plan.address → p.origin = .declared →
      (b.declare plan).arena.get? id = some (.port p) := by
    intro id p hp _ horigin
    rcases hconnections.housed id p hp with hold | ⟨-, hdefault, -⟩
    · exact hold
    · rw [horigin] at hdefault
      nomatch hdefault
  refine ⟨rfl, hadds.sound.ports, fun slot => ?_, fun d hd => ?_, ⟨first, ?_⟩, ?_⟩
  · have habsent : (NodePorts.absent.at slot).isSome = false := by cases slot <;> rfl
    show ((plan.connections.foldl connect (b.declare plan)).ports.at slot).isSome ↔ _
    rw [hconnections.filled, hdeclare.filled, List.mem_flatMap]
    simp [habsent]
  · show d.wiring.Fits (plan.connections.foldl connect (b.declare plan)).ports.stream
    rw [hadds.stream]
    exact (hdeclared d hd).2
  · exact hadds.stream.trans hfirst
  · refine Arena.declaredFirst_of_layout ht hfresh (toList_declare b plan) hadds.arena
      (fun p hp => ?_) (plan.ports.sorted_declared plan.address) hlater
    obtain ⟨kind, -, rfl⟩ := List.mem_map.mp hp
    rfl

end Step

/-! ## All nodes -/

/-- **The run**: every port is in its slot, and every node has the ports its plan asks for. -/
theorem Built.furnished {plans : List NodePlan} {b : Builder} (h : Built plans b) :
    b.arena.Housed b.nodes.toList ∧
      List.Forall₂ (fun plan n => plan.Furnished b.arena n) plans b.nodes.toList := by
  induction h with
  | empty =>
    refine ⟨fun id p hp => ?_, List.Forall₂.nil⟩
    have hnone : Builder.empty.arena.get? id = none := Arena.get?_empty id
    rw [hnone] at hp
    nomatch hp
  | @node plans b plan before welcome ih =>
    obtain ⟨hhoused, hplans⟩ := ih
    have ht := before.graph.typed
    obtain ⟨hs, hbegin⟩ := declare_spec ht plan
    obtain ⟨-, ess, hadds, -⟩ := foldl_connect_spec hs welcome.2
    have hext : b.arena.ExtendsTo (b.addPlan plan).arena := hbegin.arena.trans hadds.arena
    refine ⟨housed_addPlan ht welcome hhoused, ?_⟩
    rw [nodes_addPlan ht welcome]
    refine List.rel_append ?_
      (List.Forall₂.cons (furnished_addPlan ht welcome hhoused) List.Forall₂.nil)
    -- the new ports have another address than the nodes before
    have hothers := (List.forall₂_and_left _ _).mpr ⟨welcome.1, hplans.flip⟩
    refine hothers.flip.imp fun plan' n hn => ?_
    obtain ⟨hne, hn⟩ := hn
    refine hn.extend ht hext fun id p hp hnode => ?_
    rcases port_addPlan ht welcome hp with hold | ⟨hnew, -⟩
    · exact hold
    · exact absurd (hnode.symm.trans hnew) hne

end Builder

end MediaNetwork

/-
  The invariant of a finished graph.

  `Graph` is what is known of a builder between two nodes, and of a configuration: the arena is
  typed, the addresses of the nodes differ, and every plan stands: its node has its ports, and its
  connections are laid out in the arena, in order, with the endpoints of the node.  So every
  endpoint has an `Origin`, one connection of one node.

  A step takes in one plan: its declared ports (`declare_spec`), then its connections one after the
  other (`foldl_connect_spec`).  The run is the induction over the plans (`Built.graph`), a document
  whose nodes are built is such a run (`built_of_buildNodes`), and linking scripts keeps what is
  known, so it holds of the configuration (`graph_of_compile`).
-/
import MediaNetwork.Proofs.Graph.Plan
import MediaNetwork.Proofs.Stages

namespace MediaNetwork

open MediaNetwork.Markup MediaNetwork.Outcome

namespace Builder

/-! ## Declared ports -/

/-- From `b` to `b'` a node was begun: resources were created, and nothing was finished. -/
structure Begins (b b' : Builder) : Prop where
  arena : b.arena.ExtendsTo b'.arena
  nodes : b'.nodes = b.nodes
  endpoints : b'.endpoints = b.endpoints
  links : b'.links = b.links

theorem Begins.trans {b c d : Builder} (hbc : b.Begins c) (hcd : c.Begins d) : b.Begins d :=
  ⟨hbc.arena.trans hcd.arena, hcd.nodes.trans hbc.nodes, hcd.endpoints.trans hbc.endpoints,
    hcd.links.trans hbc.links⟩

section Declared

variable {node : UInt16} {b : Builder}

theorem withMediaLb_spec {usb : Option UsbSettings} {stream : Option StreamSettings}
    (hs : b.Sound node ⟨none, usb, stream⟩) (clock? : Option MlbClock) :
    (b.withMediaLb node clock?).Sound node ⟨clock?, usb, stream⟩ ∧
      b.Begins (b.withMediaLb node clock?) := by
  cases clock? with
  | none => exact ⟨hs, Arena.ExtendsTo.refl _, rfl, rfl, rfl⟩
  | some clock =>
    have hpush := Arena.ExtendsTo.push b.arena (.port ⟨node, .declared, .mediaLb clock⟩)
    have hold := hs.ports.extend hpush
    refine ⟨⟨hs.typed.push_port _, hold.network, fun id hid => ?_, hold.usb, hold.stream, ?_,
      hold.usb_declared, hold.stream_declared⟩, hpush, rfl, rfl, rfl⟩
    · cases hid
      exact Arena.get?_push_next _ _
    · intro h
      nomatch h

theorem withUsb_spec {mediaLb : Option MlbClock} {stream : Option StreamSettings}
    (hs : b.Sound node ⟨mediaLb, none, stream⟩) (settings? : Option UsbSettings) :
    (b.withUsb node settings?).Sound node ⟨mediaLb, settings?, stream⟩ ∧
      b.Begins (b.withUsb node settings?) := by
  cases settings? with
  | none => exact ⟨hs, Arena.ExtendsTo.refl _, rfl, rfl, rfl⟩
  | some settings =>
    have hpush := Arena.ExtendsTo.push b.arena (.port ⟨node, .declared, .usb settings⟩)
    have hold := hs.ports.extend hpush
    refine ⟨⟨hs.typed.push_port _, hold.network, hold.mediaLb, fun id hid => ?_, hold.stream,
      hold.mediaLb_declared, ?_, hold.stream_declared⟩, hpush, rfl, rfl, rfl⟩
    · cases hid
      exact Arena.get?_push_next _ _
    · intro h
      nomatch h

theorem withStream_spec {mediaLb : Option MlbClock} {usb : Option UsbSettings}
    (hs : b.Sound node ⟨mediaLb, usb, none⟩) (settings? : Option StreamSettings) :
    (b.withStream node settings?).Sound node ⟨mediaLb, usb, settings?⟩ ∧
      b.Begins (b.withStream node settings?) := by
  cases settings? with
  | none => exact ⟨hs, Arena.ExtendsTo.refl _, rfl, rfl, rfl⟩
  | some settings =>
    have hA := Arena.ExtendsTo.push b.arena (.port ⟨node, .declared, .stream .a settings⟩)
    have hB := Arena.ExtendsTo.push (b.arena.push (.port ⟨node, .declared, .stream .a settings⟩))
      (.port ⟨node, .declared, .stream .b settings⟩)
    have hold := hs.ports.extend (hA.trans hB)
    refine ⟨⟨(hs.typed.push_port _).push_port _, hold.network, hold.mediaLb, hold.usb,
      fun portA portB hid => ?_, hold.mediaLb_declared, hold.usb_declared, ?_⟩,
      hA.trans hB, rfl, rfl, rfl⟩
    · cases hid
      exact ⟨settings, rfl, hB.get? (Arena.get?_push_next _ _), Arena.get?_push_next _ _⟩
    · intro h
      nomatch h

end Declared

/-- A node begins with its declared ports and no other. -/
theorem declare_spec {b : Builder} (h : b.arena.Typed) (plan : NodePlan) :
    (b.declare plan).Sound plan.address plan.ports ∧ b.Begins (b.declare plan) := by
  have habsent : NodePorts.absent.On b.arena plan.address ⟨none, none, none⟩ := by
    constructor <;> intros <;> first | contradiction | rfl
  have hstart : ({ b with ports := NodePorts.absent } : Builder).Sound plan.address
      ⟨none, none, none⟩ := ⟨h, habsent⟩
  obtain ⟨h₁, hb₁⟩ := withMediaLb_spec hstart plan.ports.mediaLb
  obtain ⟨h₂, hb₂⟩ := withUsb_spec h₁ plan.ports.usb
  obtain ⟨h₃, hb₃⟩ := withStream_spec h₂ plan.ports.stream
  have hb₀ : b.Begins { b with ports := NodePorts.absent } :=
    ⟨Arena.ExtendsTo.refl _, rfl, rfl, rfl⟩
  exact ⟨h₃, ((hb₀.trans hb₁).trans hb₂).trans hb₃⟩

/-! ## Connections -/

/-- The connections of a node are laid out one after the other. -/
theorem foldl_connect_spec {node : UInt16} {p : PortPlan} {b : Builder} {ds : List ConnectionDecl}
    (hs : b.Sound node p) (ha : b.AcceptsAll node ds) :
    (∀ d ∈ ds, d.node = node ∧ d.wiring.Fits b.ports.stream) ∧
      ∃ ess, Adds node p b (ds.foldl connect b) ess.flatten ∧
        (ds.foldl connect b).arena.LaysAll b.arena.size ds ess := by
  induction ds generalizing b with
  | nil =>
    refine ⟨fun x hx => ?_, [], (Quiet.refl b).adds hs, Arena.LaysAll.nil _⟩
    nomatch hx
  | cons d ds ih =>
    obtain ⟨⟨rfl, hfits, -⟩, hrest⟩ := ha
    obtain ⟨es, hadd, hlay⟩ := connect_spec hs hfits
    obtain ⟨hds, ess, hadds, hlays⟩ := ih hadd.sound hrest
    refine ⟨fun x hx => ?_, es :: ess, hadd.trans hadds, Arena.LaysAll.cons hlay hadds.arena hlays⟩
    rcases List.mem_cons.mp hx with rfl | hx
    · exact ⟨rfl, hfits⟩
    · rw [← hadd.stream]
      exact hds x hx

end Builder

/-! ## The invariant -/

/-- The plan was carried out: `n` is its node, the arena holds the ports and the connections, and
    `es` are the endpoints. -/
structure NodePlan.Stands (a : Arena) (plan : NodePlan) (n : Node) (es : List Endpoint) :
    Prop where
  address : n.address = plan.address
  script : n.scriptName = plan.script
  ports : n.ports.On a n.address plan.ports
  declared : ∀ d ∈ plan.connections, d.node = n.address ∧ d.wiring.Fits n.ports.stream
  layout : ∃ first ess, a.LaysAll first plan.connections ess ∧ es = ess.flatten

theorem NodePlan.Stands.extend {a b : Arena} (h : a.ExtendsTo b) {plan : NodePlan} {n : Node}
    {es : List Endpoint} (hs : plan.Stands a n es) : plan.Stands b n es := by
  obtain ⟨first, ess, hlays, hes⟩ := hs.layout
  exact ⟨hs.address, hs.script, hs.ports.extend h, hs.declared, first, ess, hlays.extend h, hes⟩

/-- What is known of the nodes and the endpoints of a graph that is built from plans: each plan has
    its node, and the endpoints of that node are a part of all. -/
structure Graph (a : Arena) (plans : List NodePlan) (nodes : List Node)
    (endpoints : List Endpoint) : Prop where
  typed : a.Typed
  addresses : (nodes.map Node.address).Nodup
  stands : ∃ parts : List (Node × List Endpoint), nodes = parts.map Prod.fst ∧
    endpoints = parts.flatMap Prod.snd ∧
    List.Forall₂ (fun plan part => plan.Stands a part.1 part.2) plans parts

/-- The endpoint comes from a connection of one of the nodes, laid out in the arena. -/
def Endpoint.Origin (a : Arena) (nodes : List Node) (e : Endpoint) : Prop :=
  ∃ n ∈ nodes, ∃ p first d es, n.ports.On a n.address p ∧ d.node = n.address ∧
    d.wiring.Fits n.ports.stream ∧ a.Lays first d es ∧ e ∈ es

/-- Every endpoint of a graph has an origin. -/
theorem Graph.origins {a : Arena} {plans : List NodePlan} {nodes : List Node}
    {endpoints : List Endpoint} (hg : Graph a plans nodes endpoints) :
    ∀ e ∈ endpoints, e.Origin a nodes := by
  obtain ⟨parts, rfl, rfl, hparts⟩ := hg.stands
  intro e he
  obtain ⟨part, hpart, hmem⟩ := List.mem_flatMap.mp he
  obtain ⟨plan, -, hstands⟩ := exists_of_forall₂ hparts hpart
  obtain ⟨first, ess, hlays, hes⟩ := hstands.layout
  rw [hes] at hmem
  obtain ⟨es, hin, hmem⟩ := List.mem_flatten.mp hmem
  obtain ⟨d, hd, start, hlay⟩ := hlays.exists_lays hin
  obtain ⟨hnode, hfits⟩ := hstands.declared d hd
  exact ⟨part.1, List.mem_map_of_mem hpart, plan.ports, start, d, es, hstands.ports, hnode, hfits,
    hlay, hmem⟩

namespace Builder

/-- What is known of a builder after some plans. -/
def Graph (b : Builder) (plans : List NodePlan) : Prop :=
  MediaNetwork.Graph b.arena plans b.nodes.toList b.endpoints.toList

theorem graph_empty : Builder.empty.Graph [] where
  typed := Arena.typed_empty
  addresses := List.nodup_nil
  stands := ⟨[], rfl, rfl, List.Forall₂.nil⟩

/-- A node that is taken in comes behind those before, still without its script. -/
theorem nodes_addPlan {b : Builder} {plan : NodePlan} (ht : b.arena.Typed)
    (hw : b.Welcomes plan) : (b.addPlan plan).nodes.toList = b.nodes.toList ++
      [⟨plan.address, plan.script, none, (plan.connections.foldl connect (b.declare plan)).ports⟩]
      := by
  obtain ⟨hs, hbegin⟩ := declare_spec ht plan
  obtain ⟨-, ess, hadds, -⟩ := foldl_connect_spec hs hw.2
  rw [addPlan, Array.toList_push, hadds.nodes, hbegin.nodes]

/-- **The step**: a node that is taken in keeps the invariant. -/
theorem graph_addPlan {b : Builder} {plans : List NodePlan} {plan : NodePlan} (hg : b.Graph plans)
    (hw : b.Welcomes plan) : (b.addPlan plan).Graph (plans ++ [plan]) := by
  obtain ⟨hs, hbegin⟩ := declare_spec hg.typed plan
  obtain ⟨hdeclared, ess, hadds, hlays⟩ := foldl_connect_spec hs hw.2
  obtain ⟨parts, hnodes, hends, hparts⟩ := hg.stands
  have hext : b.arena.ExtendsTo (b.addPlan plan).arena := hbegin.arena.trans hadds.arena
  let node : Node :=
    ⟨plan.address, plan.script, none, (plan.connections.foldl connect (b.declare plan)).ports⟩
  have hnodes' : (b.addPlan plan).nodes.toList = b.nodes.toList ++ [node] :=
    nodes_addPlan hg.typed hw
  have hends' : (b.addPlan plan).endpoints.toList = b.endpoints.toList ++ ess.flatten := by
    rw [← hbegin.endpoints]
    exact hadds.endpoints
  have hstands : plan.Stands (b.addPlan plan).arena node ess.flatten := by
    rw [← hadds.stream] at hdeclared
    exact ⟨rfl, rfl, hadds.sound.ports, hdeclared, _, ess, hlays, rfl⟩
  -- The parts before stand in the grown arena, and the node is one more part.
  refine ⟨hadds.sound.typed, ?_, parts ++ [(node, ess.flatten)], ?_, ?_, ?_⟩
  · rw [hnodes', List.map_append, List.nodup_append]
    refine ⟨hg.addresses, by simp, fun x hx y hy hxy => ?_⟩
    obtain ⟨n, hn, rfl⟩ := List.mem_map.mp hx
    exact hw.1 n hn (hxy.trans (by simpa using hy))
  · rw [hnodes', hnodes, List.map_append]
    rfl
  · rw [hends', hends, List.flatMap_append]
    simp
  · exact List.rel_append (hparts.imp fun _ _ h => h.extend hext)
      (List.Forall₂.cons hstands List.Forall₂.nil)

/-- **The run**: the invariant holds after any list of nodes. -/
theorem Built.graph {plans : List NodePlan} {b : Builder} (h : Built plans b) :
    b.Graph plans := by
  induction h with
  | empty => exact graph_empty
  | node before welcome ih => exact graph_addPlan ih welcome

/-- The nodes that are built have no scripts yet. -/
theorem Built.script_eq_none {plans : List NodePlan} {b : Builder} (h : Built plans b) :
    ∀ n ∈ b.nodes.toList, n.script = none := by
  induction h with
  | empty => exact fun _ h => nomatch h
  | node before welcome ih =>
    rw [nodes_addPlan before.graph.typed welcome]
    intro n hn
    rcases List.mem_append.mp hn with hn | hn
    · exact ih n hn
    · rw [List.mem_singleton.mp hn]

/-! ## Documents -/

/-- Going on over children of the root takes in one more plan for each node element. -/
theorem built_of_foldlM {plans : List NodePlan} {es : List Element} {b b' : Builder}
    (hb : Built plans b) (h : es.foldlM addRootChild b = .ok b') :
    ∃ more, Built (plans ++ more) b' ∧
      List.Forall₂ (fun e plan => NodePlan.ReadFrom e plan)
        (es.filter fun e => e.name == Schema.node) more := by
  -- on the children: a node goes on with its plan at the end, any other child leaves the graph as
  -- it is
  induction es generalizing plans b with
  | nil =>
    cases h
    exact ⟨[], by rwa [List.append_nil], List.Forall₂.nil⟩
  | cons e es ih =>
    rw [List.foldlM_cons] at h
    obtain ⟨c, hc, h⟩ := bind_eq_ok.mp h
    unfold addRootChild at hc
    split at hc
    · rename_i hname
      obtain ⟨plan, hw, hread, rfl⟩ := addNode_plan hc
      obtain ⟨more, hmore, hmoreRead⟩ := ih (hb.node hw) h
      refine ⟨plan :: more, ?_, ?_⟩
      · rw [List.append_assoc] at hmore
        exact hmore
      · rw [List.filter_cons, if_pos (beq_iff_eq.mpr hname)]
        exact List.Forall₂.cons hread hmoreRead
    · rename_i hname
      have hskip : ((e :: es).filter fun e => e.name == Schema.node) =
          es.filter fun e => e.name == Schema.node := by
        simp [hname]
      split at hc
      · cases hc
        rw [hskip]
        exact ih hb h
      · nomatch hc

/-- A document whose nodes are built is a run. -/
theorem built_of_buildNodes {root : Element} {b : Builder} (h : buildNodes root = .ok b) :
    ∃ plans, Built plans b ∧ List.Forall₂ (fun e plan => NodePlan.ReadFrom e plan)
      (root.childrenNamed Schema.node) plans := by
  obtain ⟨plans, hb, hread⟩ := built_of_foldlM Built.empty h
  exact ⟨plans, hb, hread⟩

end Builder

/-! ## Configurations -/

/-- Linking scripts keeps the graph. -/
theorem Graph.relink {a : Arena} {plans : List NodePlan} {nodes linked : List Node}
    {endpoints : List Endpoint} (hg : Graph a plans nodes endpoints)
    (hl : List.Forall₂ Node.Relinked nodes linked) : Graph a plans linked endpoints := by
  have haddresses : linked.map Node.address = nodes.map Node.address := by
    rw [map_eq_map_iff_forall₂]
    exact hl.flip.imp fun _ _ h => h.1
  obtain ⟨parts, rfl, rfl, hparts⟩ := hg.stands
  refine ⟨hg.typed, haddresses ▸ hg.addresses, ?_⟩
  clear haddresses hg
  -- The parts keep their endpoints and get the linked nodes.
  induction hparts generalizing linked with
  | nil =>
    rw [List.forall₂_nil_left_iff.mp hl]
    exact ⟨[], rfl, rfl, List.Forall₂.nil⟩
  | cons hstands _ ih =>
    obtain ⟨m, rest, ⟨haddress, hscript, hports⟩, hrest, rfl⟩ := List.forall₂_cons_left_iff.mp hl
    obtain ⟨parts, rfl, hends, hparts⟩ := ih hrest
    refine ⟨(m, _) :: parts, rfl, ?_, List.Forall₂.cons ⟨?_, ?_, ?_, ?_, hstands.layout⟩ hparts⟩
    · rw [List.flatMap_cons, List.flatMap_cons, hends]
    · exact haddress.trans hstands.address
    · exact hscript.trans hstands.script
    · rw [haddress, hports]
      exact hstands.ports
    · rw [haddress, hports]
      exact hstands.declared

/-- The graph of a document that compiles. -/
theorem graph_of_compile {text : String} {c : Configuration} (h : compile text = .ok c) :
    ∃ plans, Graph c.arena plans c.nodes c.endpoints := by
  obtain ⟨root, -, h⟩ := compile_eq_ok.mp h
  obtain ⟨b, scripts, -, hb, -, hnodes, -, -, hends, harena⟩ := compileElement_eq_ok.mp h
  obtain ⟨plans, hbuilt, -⟩ := Builder.built_of_buildNodes hb
  rw [hends, harena]
  exact ⟨plans, hbuilt.graph.relink (linkScripts_keeps hnodes)⟩

end MediaNetwork

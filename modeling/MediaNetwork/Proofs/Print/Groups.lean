/-
  How nodes are printed.

  A node of a graph is printed as its plan (`printNodes_of_graph`).  What takes work is that its
  endpoints are printed in groups, and that a group is the endpoints of one connection element.

  1. One element — the arena holds what was declared, so the first endpoint of the element leads to
     everything that is printed of it (`print_of_laysPlain`, `print_of_laysOutputs`,
     `print_of_laysInputs`), and all its endpoints are in the fan of the element, or the only one is
     in none (`group_of_lays`).
  2. The border — a fan is created behind everything that was created for the elements before, so
     the first endpoint of the next element is not in it (`starts_of_laysAll`).
  3. The run — hence the groups that are printed are those of the elements, one after the other
     (`printGroups_of_laysAll`).
-/
import MediaNetwork.Proofs.Graph.Facing
import MediaNetwork.Proofs.Keyed
import MediaNetwork.Proofs.Print.Nodes

namespace MediaNetwork

open MediaNetwork.Markup MediaNetwork.Outcome

namespace Configuration

variable {c : Configuration} {d : ConnectionDecl} {e : Endpoint}

/-! ## What is read back of one resource -/

theorem connection_of_get? {id : ResourceId} {k : Connection}
    (h : c.arena.get? id = some (.connection k)) : c.connection id = .ok k := by
  rw [connection, Arena.get_eq_ok.mpr h]
  rfl

/-- A socket is printed as it was declared, with the offset that is given. -/
theorem printSocket_of_holds {direction : Direction} {socket : SocketDecl}
    {port id : ResourceId} (h : c.arena.Holds d direction socket port id)
    (offset : Option UInt16) : c.printSocket id offset = .ok (socket.printed offset) := by
  rw [printSocket, Arena.get_eq_ok.mpr h.read]
  rfl

/-- The connection of the endpoint is in this fan, or in none. -/
def InFan (c : Configuration) (fan : Option ResourceId) (e : Endpoint) : Prop :=
  ∃ k, c.connection e.connection = .ok k ∧ c.fan? k = .ok fan

/-! ## Branches -/

/-- What a branch is printed as. -/
def printedBranch (style : ConnectionStyle) (branch : NetworkDecl) : Printed :=
  (SocketDecl.network branch).printed (style.branchOffset branch)

section Branches

variable {first : Nat} {shared : List ResourceId} {fan socket : ResourceId} {branch : NetworkDecl}
  {bytesPerFrame : UInt16}

/-- A branch that was laid behind a splitter is in this splitter. -/
theorem inFan_of_laysOutput (hs : c.arena.get? fan = some (.splitter ⟨socket, bytesPerFrame⟩))
    (h : c.arena.LaysOutput first d fan shared branch e) : c.InFan (some fan) e := by
  obtain ⟨port, o, id, -, hid, -, -, rfl⟩ := h
  refine ⟨_, connection_of_get? hid, ?_⟩
  rw [fan?, Arena.get_eq_ok.mpr hs]
  rfl

theorem inFan_of_laysInput (hs : c.arena.get? fan = some (.combiner ⟨socket, bytesPerFrame⟩))
    (h : c.arena.LaysInput first d fan shared branch e) : c.InFan (some fan) e := by
  obtain ⟨port, i, id, hsocket, hid, -, -, rfl⟩ := h
  refine ⟨_, connection_of_get? hid, ?_⟩
  rw [fan?, Arena.get_eq_ok.mpr hsocket.read, ok_bind]
  simp only [Resource.isFan, Bool.false_eq_true, if_false]
  rw [Arena.get_eq_ok.mpr hs]
  rfl

/-- **Splitters**: the branches are printed back from their endpoints, one by one. -/
theorem printOutputs_of_lays {branches : List NetworkDecl} {es : List Endpoint}
    (h : List.Forall₂ (c.arena.LaysOutput first d fan shared) branches es) :
    c.printOutputs es = .ok (branches.map (printedBranch d.style)) := by
  refine mapM_eq_ok.mpr (List.forall₂_map_right_iff.mpr (h.flip.imp fun e branch hlay => ?_))
  obtain ⟨port, o, id, hsocket, hid, -, -, rfl⟩ := hlay
  rw [connection_of_get? hid, ok_bind, printSocket_of_holds hsocket]
  rfl

/-- **Combiners** likewise. -/
theorem printInputs_of_lays {branches : List NetworkDecl} {es : List Endpoint}
    (h : List.Forall₂ (c.arena.LaysInput first d fan shared) branches es) :
    c.printInputs es = .ok (branches.map (printedBranch d.style)) := by
  refine mapM_eq_ok.mpr (List.forall₂_map_right_iff.mpr (h.flip.imp fun e branch hlay => ?_))
  obtain ⟨port, i, id, hsocket, hid, -, -, rfl⟩ := hlay
  rw [connection_of_get? hid, ok_bind, printSocket_of_holds hsocket]
  rfl

end Branches

/-! ## One connection element -/

/-- The head of an element depends on the style alone. -/
theorem connectionHead_kind (style : ConnectionStyle) (offset : Option UInt16) :
    connectionHead (style.kind offset) = connectionHead (style.kind none) := by
  cases style <;> rfl

/-- An element is printed as its head and its children. -/
theorem printConnection_eq {k : Connection} {offset : Option UInt16} {rest : List Endpoint}
    (hk : c.connection e.connection = .ok k) (hkind : k.kind = d.style.kind offset)
    (hlink : e.link = d.link)
    (hwiring : c.printWiring k (e :: rest) = .ok (d.wiring.printed d.style)) :
    c.printConnection e rest = .ok d.printed := by
  rw [printConnection, hk, ok_bind, hwiring, hkind, connectionHead_kind, hlink]
  rfl

/-- A plain connection is printed from its only endpoint, which is in no fan. -/
theorem print_of_laysPlain {first : Nat} {input output : SocketDecl}
    (hw : d.wiring = .plain input output)
    (h : c.arena.LaysPlain first d input output e) :
    c.InFan none e ∧ c.printConnection e [] = .ok d.printed := by
  obtain ⟨portIn, i, portOut, o, id, hi, ho, hid, -, -, -, rfl⟩ := h
  have hnetwork : (Resource.socket
      ⟨portOut, .output, d.style.dataType, output.kind⟩).isNetworkSocket = output.isNetwork := by
    cases output <;> rfl
  refine ⟨⟨_, connection_of_get? hid, ?_⟩, printConnection_eq (connection_of_get? hid) rfl rfl ?_⟩
  · rw [fan?, Arena.get_eq_ok.mpr hi.read, ok_bind]
    simp only [Resource.isFan, Bool.false_eq_true, if_false]
    rw [Arena.get_eq_ok.mpr ho.read]
    rfl
  · rw [printWiring, Arena.get_eq_ok.mpr hi.read, ok_bind]
    simp only
    rw [Arena.get_eq_ok.mpr ho.read, ok_bind]
    simp only [hnetwork, printSocket_of_holds hi, printSocket_of_holds ho, ok_bind, hw]
    rfl

/-- A splitter is printed from the first of its branches. -/
theorem print_of_laysOutputs {first : Nat} {shared : List ResourceId} {input : SocketDecl}
    {port socket splitter : ResourceId} {bytesPerFrame : UInt16} {branches : List NetworkDecl}
    {rest : List Endpoint} (hw : d.wiring = .fanOut input bytesPerFrame branches)
    (hs : c.arena.Holds d .input input port socket)
    (hf : c.arena.get? splitter = some (.splitter ⟨socket, bytesPerFrame⟩))
    (h : List.Forall₂ (c.arena.LaysOutput first d splitter shared) branches (e :: rest)) :
    c.printConnection e rest = .ok d.printed := by
  have hbranches := printOutputs_of_lays h
  obtain ⟨branch, more, hbranch, -, -⟩ := List.forall₂_cons_right_iff.mp h
  obtain ⟨portOut, o, id, -, hid, -, -, rfl⟩ := hbranch
  refine printConnection_eq (connection_of_get? hid) rfl rfl ?_
  rw [printWiring, Arena.get_eq_ok.mpr hf, ok_bind]
  simp only [printSocket_of_holds hs, ok_bind, hbranches, hw]
  rfl

/-- A combiner is printed from the first of its branches. -/
theorem print_of_laysInputs {first : Nat} {shared : List ResourceId} {output : SocketDecl}
    {port socket combiner : ResourceId} {bytesPerFrame : UInt16} {branches : List NetworkDecl}
    {rest : List Endpoint} (hw : d.wiring = .fanIn bytesPerFrame branches output)
    (hs : c.arena.Holds d .output output port socket)
    (hf : c.arena.get? combiner = some (.combiner ⟨socket, bytesPerFrame⟩))
    (h : List.Forall₂ (c.arena.LaysInput first d combiner shared) branches (e :: rest)) :
    c.printConnection e rest = .ok d.printed := by
  have hbranches := printInputs_of_lays h
  obtain ⟨branch, more, hbranch, -, -⟩ := List.forall₂_cons_right_iff.mp h
  obtain ⟨portIn, i, id, hi, hid, -, -, rfl⟩ := hbranch
  refine printConnection_eq (connection_of_get? hid) rfl rfl ?_
  rw [printWiring, Arena.get_eq_ok.mpr hi.read, ok_bind]
  simp only
  rw [Arena.get_eq_ok.mpr hf, ok_bind]
  simp only [printSocket_of_holds hs, ok_bind, hbranches, hw]
  rfl

/-- The endpoints of one element: one alone, or those of a fan that was created at a place from
    `first` on and before `last`. -/
inductive Group (c : Configuration) (first last : Nat) : List Endpoint → Prop
  | alone {e : Endpoint} (fan : c.InFan none e) : Group c first last [e]
  | fanned {shared : ResourceId} {e : Endpoint} {rest : List Endpoint}
      (above : first ≤ shared.index) (below : shared.index < last)
      (fan : ∀ x ∈ e :: rest, c.InFan (some shared) x) : Group c first last (e :: rest)

/-- **One element**: its endpoints are a group, and that group is printed as the element. -/
theorem group_of_lays {here : Arena} {first : Nat} {es : List Endpoint}
    {stream : Option (ResourceId × ResourceId)} (hfits : d.wiring.Fits stream)
    (hl : here.Lays first d es) (hgrown : here.ExtendsTo c.arena) :
    c.Group first here.size es ∧
      ∃ e rest, es = e :: rest ∧ c.printConnection e rest = .ok d.printed := by
  have hfinal := hl.extend hgrown (Nat.le_refl first)
  unfold Arena.Lays at hl hfinal
  cases hw : d.wiring with
  | plain input output =>
    simp only [hw] at hfinal
    obtain ⟨e, hlay, rfl⟩ := hfinal
    obtain ⟨hfan, hprint⟩ := print_of_laysPlain hw hlay
    exact ⟨Group.alone hfan, e, [], rfl, hprint⟩
  | fanOut input bytesPerFrame branches =>
    simp only [hw] at hl
    rw [hw] at hfits
    obtain ⟨port, socket, splitter, hs, hf, -, habove, hes⟩ := hl
    -- The splitter is older than the end of this element, the rest is read in the final arena.
    have hbelow := Arena.lt_size_of_get? hf
    have hes := hes.imp fun _ _ h => h.extend hgrown (Nat.le_refl first)
    obtain ⟨branch, more, rfl⟩ := List.exists_cons_of_ne_nil hfits.2
    obtain ⟨e, rest, -, -, rfl⟩ := List.forall₂_cons_left_iff.mp hes
    refine ⟨Group.fanned habove hbelow fun x hx => ?_, e, rest, rfl,
      print_of_laysOutputs hw (hs.extend hgrown) (hgrown.get? hf) hes⟩
    obtain ⟨y, -, hlay⟩ := exists_of_forall₂ hes hx
    exact inFan_of_laysOutput (hgrown.get? hf) hlay
  | fanIn bytesPerFrame branches output =>
    simp only [hw] at hl
    rw [hw] at hfits
    obtain ⟨port, socket, combiner, hs, hf, -, habove, hes⟩ := hl
    have hbelow := Arena.lt_size_of_get? hf
    have hes := hes.imp fun _ _ h => h.extend hgrown (Nat.le_refl first)
    obtain ⟨branch, more, rfl⟩ := List.exists_cons_of_ne_nil hfits.2
    obtain ⟨e, rest, -, -, rfl⟩ := List.forall₂_cons_left_iff.mp hes
    refine ⟨Group.fanned habove hbelow fun x hx => ?_, e, rest, rfl,
      print_of_laysInputs hw (hs.extend hgrown) (hgrown.get? hf) hes⟩
    obtain ⟨y, -, hlay⟩ := exists_of_forall₂ hes hx
    exact inFan_of_laysInput (hgrown.get? hf) hlay

/-! ## The border of a group -/

/-- The list is empty, or begins with an endpoint that is in no fan created before `first`. -/
def Starts (c : Configuration) (first : Nat) : List Endpoint → Prop
  | [] => True
  | e :: _ => ∃ fan, c.InFan fan e ∧ ∀ shared, fan = some shared → first ≤ shared.index

/-- The endpoints of further elements begin with a fan of their own, if with any. -/
theorem starts_of_laysAll {first : Nat} {ds : List ConnectionDecl} {ess : List (List Endpoint)}
    {stream : Option (ResourceId × ResourceId)} (hfits : ∀ d ∈ ds, d.wiring.Fits stream)
    (h : c.arena.LaysAll first ds ess) : c.Starts first ess.flatten := by
  cases h with
  | nil => trivial
  | cons lays grown rest =>
    obtain ⟨hgroup, -⟩ := group_of_lays (hfits _ List.mem_cons_self) lays grown
    cases hgroup with
    | alone hfan => exact ⟨none, hfan, fun _ h => nomatch h⟩
    | fanned habove _ hfan =>
      refine ⟨_, hfan _ List.mem_cons_self, fun shared h => ?_⟩
      cases h
      exact habove

/-- A group ends where the next one starts. -/
theorem takeGroup_of_fan {shared : ResourceId} {last : Nat} (hbelow : shared.index < last)
    {group rest : List Endpoint} (hgroup : ∀ x ∈ group, c.InFan (some shared) x)
    (hrest : c.Starts last rest) (before : List Endpoint) :
    c.takeGroup shared before (group ++ rest) = .ok (before.reverse ++ group, rest) := by
  induction group generalizing before with
  | nil =>
    cases rest with
    | nil => simp [takeGroup]
    | cons e rest =>
      obtain ⟨fan, ⟨k, hk, hfan⟩, hlast⟩ := hrest
      -- The next fan was created from `last` on, so it is not this one.
      have hother : fan ≠ some shared := by
        intro h
        have := hlast shared h
        omega
      rw [List.nil_append, takeGroup, hk, ok_bind, hfan, ok_bind, if_neg hother, List.append_nil]
      rfl
  | cons e group ih =>
    obtain ⟨k, hk, hfan⟩ := hgroup e List.mem_cons_self
    rw [List.cons_append, takeGroup, hk, ok_bind, hfan, ok_bind, if_pos rfl,
      ih fun x hx => hgroup x (List.mem_cons_of_mem _ hx)]
    simp

/-! ## The run -/

/-- **All elements of a node**: their endpoints are printed as the elements. -/
theorem printGroups_of_laysAll {first : Nat} {ds : List ConnectionDecl}
    {ess : List (List Endpoint)} {stream : Option (ResourceId × ResourceId)}
    (hfits : ∀ d ∈ ds, d.wiring.Fits stream) (h : c.arena.LaysAll first ds ess)
    (done : List Printed) :
    c.printGroups done ess.flatten = .ok (done.reverse ++ ds.map ConnectionDecl.printed) := by
  generalize ha : c.arena = a at h
  -- One element for each step of the run; what follows it starts with a fan of its own.
  induction h generalizing done with
  | nil => simp [printGroups]
  | cons lays grown rest ih =>
    subst ha
    have hlater := fun x hx => hfits x (List.mem_cons_of_mem _ hx)
    have hstarts := starts_of_laysAll hlater rest
    obtain ⟨hgroup, e, es, rfl, hprint⟩ := group_of_lays (hfits _ List.mem_cons_self) lays grown
    rw [List.flatten_cons, List.cons_append, printGroups]
    cases hgroup with
    | alone hfan =>
      obtain ⟨k, hk, hfan⟩ := hfan
      simp only [hk, ok_bind, hfan, hprint, List.nil_append, ih hlater]
      simp
    | fanned _ hbelow hfan =>
      obtain ⟨k, hk, hshared⟩ := hfan e List.mem_cons_self
      -- The first endpoint names the fan, and the group ends where the next element starts.
      have htake := takeGroup_of_fan hbelow (fun x hx => hfan x (List.mem_cons_of_mem _ hx)) hstarts
        []
      simp only [hk, ok_bind, hshared]
      split
      · rename_i fault hfault
        rw [htake] at hfault
        cases hfault
      · rename_i group later hsplit
        rw [htake] at hsplit
        cases hsplit
        simp only [List.reverse_nil, List.nil_append, hprint, ok_bind, ih hlater]
        simp

/-! ## Ports -/

/-- The slot holds a port that is printed as `q`, or it is empty and `q` is nothing. -/
def PrintsSlot (c : Configuration) (slot : Option ResourceId) (q : List Printed) : Prop :=
  match slot with
  | some id => c.printPortOf id = .ok q
  | none => q = []

theorem printPortOf_of_get? {id : ResourceId} {port : Port}
    (h : c.arena.get? id = some (.port port)) : c.printPortOf id = .ok (printPort port) := by
  rw [printPortOf, Arena.get_eq_ok.mpr h]
  rfl

/-- The slots of a node are printed in their order, without the empty ones. -/
theorem print_slots {slots : List (Option ResourceId)} {qs : List (List Printed)}
    (h : List.Forall₂ c.PrintsSlot slots qs) :
    ∃ ps, (slots.filterMap id).mapM c.printPortOf = .ok ps ∧ ps.flatten = qs.flatten := by
  induction h with
  | nil => exact ⟨[], rfl, rfl⟩
  | @cons slot q slots qs hslot _ ih =>
    obtain ⟨ps, hps, hflatten⟩ := ih
    cases slot with
    | none =>
      have hnil : q = [] := hslot
      exact ⟨ps, hps, by rw [hflatten, hnil, List.flatten_cons, List.nil_append]⟩
    | some port =>
      have hport : c.printPortOf port = .ok q := hslot
      refine ⟨q :: ps, ?_, by rw [List.flatten_cons, List.flatten_cons, hflatten]⟩
      have hcons : (some port :: slots).filterMap id = port :: slots.filterMap id := rfl
      rw [hcons, List.mapM_cons, hport, ok_bind, hps]
      rfl

/-- The ports of a node are printed as they were declared. -/
theorem printPorts_of_on {ports : NodePorts} {node : UInt16} {p : PortPlan}
    (h : ports.On c.arena node p) : c.printPorts ports = .ok (p.printed node) := by
  -- an empty slot prints nothing, and nothing was declared for it; a full one prints its port
  have hmediaLb : c.PrintsSlot ports.mediaLb (p.mediaLbPrinted node) := by
    cases hm : ports.mediaLb with
    | none =>
      show p.mediaLbPrinted node = []
      rw [PortPlan.mediaLbPrinted, PortPlan.mediaLbPort, h.mediaLb_declared hm]
      rfl
    | some id => exact printPortOf_of_get? (h.mediaLb id hm)
  have husb : c.PrintsSlot ports.usb (p.usbPrinted node) := by
    cases hu : ports.usb with
    | none =>
      show p.usbPrinted node = []
      rw [PortPlan.usbPrinted, PortPlan.usbPort, h.usb_declared hu]
      rfl
    | some id => exact printPortOf_of_get? (h.usb id hu)
  have hstream : c.PrintsSlot (ports.stream.map Prod.fst) (p.streamPrinted node) := by
    cases hs : ports.stream with
    | none =>
      show p.streamPrinted node = []
      rw [PortPlan.streamPrinted, h.stream_declared hs]
    | some pair =>
      obtain ⟨settings, hp, hport, -⟩ := h.stream pair.1 pair.2 hs
      rw [PortPlan.streamPrinted, hp]
      exact printPortOf_of_get? hport
  have hslots := List.Forall₂.cons hmediaLb
    (List.Forall₂.cons husb (List.Forall₂.cons hstream List.Forall₂.nil))
  obtain ⟨ps, hps, hflatten⟩ := print_slots hslots
  rw [printPorts]
  simp only [hps, ok_bind, hflatten]
  simp [PortPlan.printed]

/-! ## Nodes -/

/-- The endpoints of a plan are on the address of its node. -/
theorem node_of_stands {a : Arena} {plan : NodePlan} {n : Node} {es : List Endpoint}
    (h : plan.Stands a n es) : ∀ e ∈ es, e.node = n.address := by
  obtain ⟨first, ess, hlays, hes⟩ := h.layout
  intro e he
  rw [hes] at he
  obtain ⟨group, hgroup, hmem⟩ := List.mem_flatten.mp he
  obtain ⟨d, hd, start, hlay⟩ := hlays.exists_lays hgroup
  obtain ⟨hnode, hfits⟩ := h.declared d hd
  exact (hlay.typedAt hfits hmem).2.trans hnode

/-- **Nodes**: each node of a graph is printed as its plan. -/
theorem printNodes_of_graph {plans : List NodePlan}
    (hg : Graph c.arena plans c.nodes c.endpoints) :
    c.nodes.mapM c.printNode = .ok (plans.map NodePlan.printed) := by
  have hdistinct := hg.addresses
  obtain ⟨parts, hnodes, hends, hparts⟩ := hg.stands
  rw [hnodes, List.map_map] at hdistinct
  have hnode : ∀ p ∈ parts, ∀ e ∈ p.2, e.node = p.1.address := by
    intro p hp
    obtain ⟨plan, -, hstands⟩ := exists_of_forall₂ hparts hp
    exact node_of_stands hstands
  have hmem : List.Forall₂ (fun part plan => part ∈ parts ∧ plan.Stands c.arena part.1 part.2)
      parts plans := (List.forall₂_and_left parts plans).mpr ⟨fun _ h => h, hparts.flip⟩
  refine mapM_eq_ok.mpr ?_
  rw [hnodes, List.forall₂_map_left_iff, List.forall₂_map_right_iff]
  refine hmem.imp fun part plan h => ?_
  obtain ⟨hpart, hstands⟩ := h
  obtain ⟨first, ess, hlays, hes⟩ := hstands.layout
  -- No other node has the address, so the endpoints on it are those of this part.
  have hfilter : ((parts.flatMap Prod.snd).filter fun e => e.node == part.1.address) = part.2 :=
    Keyed.filter_of_key hdistinct hnode hpart
  rw [printNode, printPorts_of_on hstands.ports, ok_bind, hends, hfilter, hes,
    printGroups_of_laysAll (fun d hd => (hstands.declared d hd).2) hlays, ok_bind, hstands.address,
    hstands.script]
  rfl

end Configuration

end MediaNetwork

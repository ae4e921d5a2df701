/-
  How endpoints face the network.

  Every endpoint has one connection.  Both sides of it stand on ports of the endpoint's node, and
  one side is a network socket: the endpoint is a source if that is the output side, else a sink
  (`Endpoint.Faces`).  The three layouts of a connection element each show it for their endpoints
  (`Lays.typedAt`), and with the types of the resources it gives the theorem about documents,
  `typed_graph_of_compile`.
-/
import MediaNetwork.Proofs.Graph.Built

namespace MediaNetwork

/-! ## What an endpoint asks of its connection -/

/-- The endpoint faces the network: as a source through the output side of its connection if that
    is a network socket, else as a sink through the input side, which then is one. -/
def Endpoint.Faces (a : Arena) (e : Endpoint) (k : Connection) : Prop :=
  (a.IsNetwork k.socketOut ∧ e.kind = .source ∧ e.networkSocket = k.socketOut) ∨
    (¬ a.IsNetwork k.socketOut ∧ e.kind = .sink ∧ e.networkSocket = k.socketIn ∧
      a.IsNetwork k.socketIn)

/-- The endpoint has a connection between ports of its node, and faces the network. -/
def Endpoint.TypedAt (a : Arena) (e : Endpoint) : Prop :=
  ∃ k, a.get? e.connection = some (.connection k) ∧
    a.LeadsTo k.socketIn k.kind.dataType e.node ∧
    a.LeadsTo k.socketOut k.kind.dataType e.node ∧ e.Faces a k

/-! ## Each layout shows it -/

namespace Arena

variable {a : Arena} {d : ConnectionDecl} {e : Endpoint} {first : Nat}
  {shared : List ResourceId}

theorem Holds.not_isNetwork {direction : Direction} {socket : SocketDecl} {port id : ResourceId}
    (h : a.Holds d direction socket port id) (hn : ¬ socket.isNetwork = true) :
    ¬ a.IsNetwork id := by
  rintro ⟨r, hr, hnetwork⟩
  rw [h.read] at hr
  cases hr
  cases socket with
  | network decl => exact hn rfl
  | _ => nomatch hnetwork

theorem not_isNetwork_combiner {id : ResourceId} {f : Combiner}
    (h : a.get? id = some (.combiner f)) : ¬ a.IsNetwork id := by
  rintro ⟨r, hr, hnetwork⟩
  rw [h] at hr
  cases hr
  nomatch hnetwork

theorem LaysPlain.typedAt {input output : SocketDecl} (h : a.LaysPlain first d input output e)
    (hn : output.isNetwork = true ∨ input.isNetwork = true) :
    e.TypedAt a ∧ e.node = d.node := by
  obtain ⟨portIn, i, portOut, o, id, hi, ho, hid, -, -, -, rfl⟩ := h
  refine ⟨⟨_, hid, ?_, ?_, ?_⟩, rfl⟩
  · rw [d.style.dataType_kind]
    exact hi.leadsTo
  · rw [d.style.dataType_kind]
    exact ho.leadsTo
  · by_cases hout : output.isNetwork = true
    · exact Or.inl ⟨ho.isNetwork hout, if_pos hout, if_pos hout⟩
    · refine Or.inr ⟨ho.not_isNetwork hout, if_neg hout, if_neg hout, hi.isNetwork ?_⟩
      exact hn.resolve_left hout

theorem LaysOutput.typedAt {input : SocketDecl} {branch : NetworkDecl}
    {portIn i splitter : ResourceId} {bytesPerFrame : UInt16}
    (h : a.LaysOutput first d splitter shared branch e) (hi : a.Holds d .input input portIn i)
    (hf : a.get? splitter = some (.splitter ⟨i, bytesPerFrame⟩)) :
    e.TypedAt a ∧ e.node = d.node := by
  obtain ⟨port, o, id, ho, hid, -, -, rfl⟩ := h
  refine ⟨⟨_, hid, ?_, ?_, Or.inl ⟨ho.isNetwork rfl, rfl, rfl⟩⟩, rfl⟩
  · rw [d.style.dataType_kind]
    exact hi.leadsTo_splitter hf
  · rw [d.style.dataType_kind]
    exact ho.leadsTo

theorem LaysInput.typedAt {output : SocketDecl} {branch : NetworkDecl}
    {portOut o combiner : ResourceId} {bytesPerFrame : UInt16}
    (h : a.LaysInput first d combiner shared branch e) (ho : a.Holds d .output output portOut o)
    (hf : a.get? combiner = some (.combiner ⟨o, bytesPerFrame⟩)) :
    e.TypedAt a ∧ e.node = d.node := by
  obtain ⟨port, i, id, hi, hid, -, -, rfl⟩ := h
  refine ⟨⟨_, hid, ?_, ?_, ?_⟩, rfl⟩
  · rw [d.style.dataType_kind]
    exact hi.leadsTo
  · rw [d.style.dataType_kind]
    exact ho.leadsTo_combiner hf
  · exact Or.inr ⟨not_isNetwork_combiner hf, rfl, rfl, hi.isNetwork rfl⟩

/-- Every endpoint of a connection element is typed, on the node of the element. -/
theorem Lays.typedAt {es : List Endpoint} (hl : a.Lays first d es)
    {declared : Option (ResourceId × ResourceId)} (hf : d.wiring.Fits declared) (he : e ∈ es) :
    e.TypedAt a ∧ e.node = d.node := by
  unfold Lays at hl
  split at hl
  · rename_i input output hw
    obtain ⟨e', hlays, rfl⟩ := hl
    obtain rfl := List.mem_singleton.mp he
    rw [hw] at hf
    exact hlays.typedAt hf.2.2
  · obtain ⟨port, socket, splitter, hs, hfan, -, -, hes⟩ := hl
    obtain ⟨branch, -, hlays⟩ := Outcome.exists_of_forall₂ hes he
    exact hlays.typedAt hs hfan
  · obtain ⟨port, socket, combiner, hs, hfan, -, -, hes⟩ := hl
    obtain ⟨branch, -, hlays⟩ := Outcome.exists_of_forall₂ hes he
    exact hlays.typedAt hs hfan

end Arena

/-! ## Documents -/

theorem Graph.typedAt {a : Arena} {plans : List NodePlan} {nodes : List Node}
    {endpoints : List Endpoint} (hg : Graph a plans nodes endpoints) {e : Endpoint}
    (he : e ∈ endpoints) : e.TypedAt a := by
  obtain ⟨n, -, p, first, d, es, -, -, hfits, hlays, hmem⟩ := hg.origins e he
  exact (hlays.typedAt hfits hmem).1

/-- **Typed graphs**: in the configuration of any document that compiles, every handle leads back
    to a resource of the right kind, and every endpoint has a connection on its node and faces the
    network through a network socket. -/
theorem typed_graph_of_compile {text : String} {c : Configuration} (h : compile text = .ok c) :
    c.arena.Typed ∧ ∀ e ∈ c.endpoints, e.TypedAt c.arena := by
  obtain ⟨plans, hg⟩ := graph_of_compile h
  exact ⟨hg.typed, fun _ he => hg.typedAt he⟩

theorem typed_graph_sampleDocument : ∃ c, compile sampleDocument = .ok c ∧
    c.endpoints.length = 4 ∧ c.arena.Typed ∧ ∀ e ∈ c.endpoints, e.TypedAt c.arena := by
  obtain ⟨c, hc, hcounts⟩ := compile_sampleDocument
  exact ⟨c, hc, congrArg Prod.fst hcounts, typed_graph_of_compile hc⟩

end MediaNetwork

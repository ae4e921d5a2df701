/-
  The route table.

  `Configuration.RouteTable` says what the routes of a configuration are, in terms of its endpoints
  and of what their network sockets declare: the matching pairs of a source and a sink, each once
  and in order, with the name, the flag and the id their two declarations give.

  `Route.Assembled` collects what is known once a table was assembled: the pairs and their order
  come from the terminals, the ids from `assign_spec`.  That every sink has exactly one route and
  every source at least one follows from the checks on names (`count_sink`, `source_mem`).
-/
import MediaNetwork.Proofs.Graph.Typed
import MediaNetwork.Proofs.Route.Ids
import MediaNetwork.Proofs.Route.Terminals
import MediaNetwork.Proofs.Stages

namespace MediaNetwork

open MediaNetwork.Outcome

namespace Configuration

variable (c : Configuration)

/-- The endpoint with this place is of this kind, and its network socket declares this. -/
def Says (id : EndpointId) (kind : EndpointKind) (decl : RouteDecl) : Prop :=
  ∃ e, c.endpoint? id = some e ∧ e.kind = kind ∧ e.Declares c.arena decl

/-- A source and a sink that name the same route. -/
def Matches (source sink : EndpointId) : Prop :=
  ∃ decl decl', c.Says source .source decl ∧ c.Says sink .sink decl' ∧ decl.name = decl'.name

/-- The id of a route is that of its sink, else that of its source, else an automatic one. -/
def IdFrom (source sink : RouteDecl) (id : UInt16) : Prop :=
  match sink.routeId, source.routeId with
  | some declared, _ => id = declared
  | none, some declared => id = declared
  | none, none => 0x8000 ≤ id.toNat

/-- The route is as the declarations of its source and its sink ask for it. -/
def Joins (r : Route) : Prop :=
  ∃ source sink, c.Says r.source .source source ∧ c.Says r.sink .sink sink ∧
    r.name = source.name ∧ r.name = sink.name ∧ r.active = (source.active && sink.active) ∧
    IdFrom source sink r.routeId

/-- What the routes of a configuration are. -/
structure RouteTable : Prop where
  /-- Source by source, and for one source sink by sink; so no pair has two routes. -/
  ordered : c.routes.Pairwise fun r s => r.source.index < s.source.index ∨
    (r.source = s.source ∧ r.sink.index < s.sink.index)
  /-- The pairs with a route are the matching pairs. -/
  complete : ∀ source sink,
    (∃ r ∈ c.routes, r.source = source ∧ r.sink = sink) ↔ c.Matches source sink
  joins : ∀ r ∈ c.routes, c.Joins r
  ids : (c.routes.map Route.routeId).Nodup
  /-- Every sink is in exactly one route. -/
  sinks : ∀ id e, c.endpoint? id = some e → e.kind = .sink →
    (c.routes.map Route.sink).count id = 1
  /-- Every source is in a route. -/
  sources : ∀ id e, c.endpoint? id = some e → e.kind = .source →
    id ∈ c.routes.map Route.source
  length : c.routes.length = c.endpoints.countP fun e => e.kind == .sink

end Configuration

/-- A network socket declares a route. -/
theorem exists_declares {a : Arena} {e : Endpoint} (h : a.IsNetwork e.networkSocket) :
    ∃ decl, e.Declares a decl := by
  obtain ⟨port, direction, dataType, bandwidth, decl, hs⟩ := h.exists_socket
  exact ⟨decl, port, direction, dataType, bandwidth, hs⟩

namespace Route

/-! ## What is known of an assembled table -/

/-- The routes were assembled from these sources and sinks. -/
structure Assembled (a : Arena) (endpoints : List Endpoint) (routes : List Route)
    (reserved : List UInt16) (sources sinks : List Terminal) : Prop where
  mem_sources : ∀ t, t ∈ sources ↔ t.StandsFor a endpoints .source
  mem_sinks : ∀ t, t ∈ sinks ↔ t.StandsFor a endpoints .sink
  terminal : ∀ (id : EndpointId) e, endpoints[id.index]? = some e →
    ∃ t, Terminal.StandsFor a endpoints e.kind t ∧ t.endpoint = id
  sources_ordered : sources.Pairwise fun s t => s.endpoint.index < t.endpoint.index
  sinks_ordered : sinks.Pairwise fun s t => s.endpoint.index < t.endpoint.index
  sinks_length : sinks.length = endpoints.countP fun e => e.kind == .sink
  names : sources.Pairwise fun s t => t.decl.name ≠ s.decl.name
  source_partner : ∀ s ∈ sources, ∃ t ∈ sinks, s.decl.name = t.decl.name
  sink_partner : ∀ t ∈ sinks, ∃ s ∈ sources, s.decl.name = t.decl.name
  /-- What any terminal declares is reserved. -/
  reserves : ∀ t, t ∈ sources ∨ t ∈ sinks → ∀ id, t.decl.routeId = some id → id ∈ reserved
  gets : List.Forall₂ (Gets reserved) (pairs sources sinks) routes
  ids : (routes.map Route.routeId).Nodup

/-- What a pair of terminals declares is reserved. -/
theorem declaredId_mem {sources sinks : List Terminal} {s t : Terminal}
    (hpair : (s, t) ∈ pairs sources sinks) {id : UInt16} (hid : declaredId s t = some id) :
    id ∈ (sources ++ sinks).filterMap fun t => t.decl.routeId := by
  obtain ⟨hs, ht, -⟩ := mem_pairs.mp hpair
  rw [List.mem_filterMap]
  cases hsink : t.decl.routeId with
  | some declared =>
    refine ⟨t, List.mem_append_right _ ht, ?_⟩
    simpa [declaredId, hsink] using hid
  | none =>
    refine ⟨s, List.mem_append_left _ hs, ?_⟩
    simpa [declaredId, hsink] using hid

/-- There are as many routes as there are to be. -/
theorem length_of_assign {sources sinks : List Terminal} {routes : List Route}
    (h : assign ((sources ++ sinks).filterMap fun t => t.decl.routeId) automaticIds [] []
      (pairs sources sinks) = .ok routes) : routes.length = expectedCount sources sinks := by
  obtain ⟨more, rfl, hgets, -⟩ :=
    assign_spec (Nat.le_refl _) (fun _ hpair _ hid => declaredId_mem hpair hid) h
  rw [← hgets.length_eq, length_pairs]

/-- Whatever is assembled comes from the sources and the sinks among the endpoints. -/
theorem assemble_spec {a : Arena} {endpoints : List Endpoint} {routes : List Route}
    (h : assemble a endpoints = .ok routes) :
    ∃ reserved sources sinks, Assembled a endpoints routes reserved sources sinks := by
  obtain ⟨terminals, hterminals, h⟩ := bind_eq_ok.mp h
  obtain ⟨u, hcheck, h⟩ := bind_eq_ok.mp h
  obtain ⟨hnames, hsourcePartner, hsinkPartner⟩ := checkTerminals_eq_ok.mp hcheck
  obtain ⟨assigned, hassign, h⟩ := bind_eq_ok.mp h
  obtain ⟨-, -, h⟩ := bind_eq_ok.mp h
  cases h
  obtain ⟨more, hroutes, hgets, -, hnodup⟩ :=
    assign_spec (Nat.le_refl _) (fun _ hpair _ hid => declaredId_mem hpair hid) hassign
  obtain rfl : routes = more := hroutes
  exact ⟨_, _, _, fun _ => Terminal.mem_ofKind hterminals, fun _ => Terminal.mem_ofKind hterminals,
    fun _ _ he => Terminal.exists_standsFor hterminals he, Terminal.ofKind_ordered hterminals _,
    Terminal.ofKind_ordered hterminals _, Terminal.length_ofKind hterminals _, hnames,
    hsourcePartner, hsinkPartner,
    fun t ht _ hid => List.mem_filterMap.mpr ⟨t, List.mem_append.mpr ht, hid⟩, hgets, hnodup⟩

/-- The id a route gets is the one its declarations ask for. -/
theorem idFrom_of_gets {reserved : List UInt16} {source sink : Terminal} {r : Route}
    (h : Gets reserved (source, sink) r) :
    Configuration.IdFrom source.decl sink.decl r.routeId := by
  unfold Configuration.IdFrom
  have hid := h.2
  cases hsink : sink.decl.routeId with
  | some declared =>
    simp only [declaredId, hsink, Option.orElse_eq_orElse, Option.orElse_some] at hid
    simpa [eq_comm] using hid
  | none =>
    cases hsource : source.decl.routeId with
    | some declared =>
      simp only [declaredId, hsink, hsource, Option.orElse_eq_orElse, Option.orElse_none] at hid
      simpa [eq_comm] using hid
    | none =>
      simp only [declaredId, hsink, hsource, Option.orElse_eq_orElse, Option.orElse_none] at hid
      exact (hid.resolve_left (by simp)).2.2

namespace Assembled

variable {a : Arena} {endpoints : List Endpoint} {routes : List Route} {reserved : List UInt16}
  {sources sinks : List Terminal} (h : Assembled a endpoints routes reserved sources sinks)

include h

/-- The endpoints of the routes are those of the pairs, in this order. -/
theorem map_ends : routes.map (fun r => (r.source, r.sink)) =
    (pairs sources sinks).map fun p => (p.1.endpoint, p.2.endpoint) := by
  rw [← List.forall₂_eq_eq_eq, List.forall₂_map_left_iff, List.forall₂_map_right_iff]
  refine h.gets.flip.imp fun r p hr => ?_
  rw [hr.1]
  rfl

/-- The sinks of the routes are the sinks. -/
theorem sinks_perm : (routes.map Route.sink).Perm (sinks.map Terminal.endpoint) := by
  have hsinks : routes.map Route.sink =
      ((pairs sources sinks).map Prod.snd).map Terminal.endpoint := by
    have hsnd := congrArg (List.map Prod.snd) h.map_ends
    rw [List.map_map, List.map_map] at hsnd
    rw [List.map_map]
    exact hsnd
  rw [hsinks]
  exact (sinks_of_pairs h.sinks_ordered h.names h.sink_partner).map _

theorem ordered : routes.Pairwise fun r s => r.source.index < s.source.index ∨
    (r.source = s.source ∧ r.sink.index < s.sink.index) := by
  have hends : (routes.map fun r => (r.source, r.sink)).Pairwise fun p q =>
      p.1.index < q.1.index ∨ (p.1 = q.1 ∧ p.2.index < q.2.index) := by
    rw [h.map_ends, List.pairwise_map]
    exact pairs_ordered h.sinks_ordered h.sources_ordered
  exact List.pairwise_map.mp hends

/-- A route is that of a pair. -/
theorem exists_pair {r : Route} (hr : r ∈ routes) :
    ∃ s ∈ sources, ∃ t ∈ sinks, s.decl.name = t.decl.name ∧ Gets reserved (s, t) r := by
  obtain ⟨⟨s, t⟩, hp, hgets⟩ := exists_of_forall₂ h.gets hr
  obtain ⟨hs, ht, hname⟩ := mem_pairs.mp hp
  exact ⟨s, hs, t, ht, hname, hgets⟩

/-- A pair has a route. -/
theorem exists_route {s t : Terminal} (hs : s ∈ sources) (ht : t ∈ sinks)
    (hname : s.decl.name = t.decl.name) :
    ∃ r ∈ routes, r.source = s.endpoint ∧ r.sink = t.endpoint := by
  obtain ⟨r, hr, hgets⟩ := exists_of_forall₂ h.gets.flip (mem_pairs.mpr ⟨hs, ht, hname⟩)
  refine ⟨r, hr, ?_, ?_⟩
  · rw [hgets.1]
    rfl
  · rw [hgets.1]
    rfl

theorem count_sink {id : EndpointId} {e : Endpoint} (he : endpoints[id.index]? = some e)
    (hkind : e.kind = .sink) : (routes.map Route.sink).count id = 1 := by
  have hnodup : (routes.map Route.sink).Nodup := by
    rw [h.sinks_perm.nodup_iff, List.Nodup, List.pairwise_map]
    refine h.sinks_ordered.imp fun {s t} hlt heq => ?_
    rw [heq] at hlt
    exact Nat.lt_irrefl _ hlt
  obtain ⟨t, ht, rfl⟩ := h.terminal id e he
  rw [hkind] at ht
  have hmem : t.endpoint ∈ routes.map Route.sink := by
    rw [h.sinks_perm.mem_iff]
    exact List.mem_map_of_mem ((h.mem_sinks t).mpr ht)
  rw [hnodup.count, if_pos hmem]

theorem source_mem {id : EndpointId} {e : Endpoint} (he : endpoints[id.index]? = some e)
    (hkind : e.kind = .source) : id ∈ routes.map Route.source := by
  obtain ⟨s, hs, rfl⟩ := h.terminal id e he
  rw [hkind, ← h.mem_sources] at hs
  obtain ⟨t, ht, hname⟩ := h.source_partner s hs
  obtain ⟨r, hr, hsource, -⟩ := h.exists_route hs ht hname
  exact List.mem_map.mpr ⟨r, hr, hsource⟩

end Assembled

/-! ## The table -/

theorem says_of_standsFor {c : Configuration} {kind : EndpointKind} {t : Terminal}
    (h : t.StandsFor c.arena c.endpoints kind) : c.Says t.endpoint kind t.decl := by
  obtain ⟨e, he, hkind, -, hdecl⟩ := h
  exact ⟨e, he, hkind, hdecl⟩

/-- What an endpoint says is said by a terminal. -/
theorem exists_terminal {c : Configuration} {id : EndpointId} {kind : EndpointKind}
    {decl : RouteDecl} (h : c.Says id kind decl) :
    ∃ t : Terminal, t.StandsFor c.arena c.endpoints kind ∧ t.endpoint = id ∧ t.decl = decl := by
  obtain ⟨e, he, hkind, hdecl⟩ := h
  exact ⟨⟨id, e.node, decl⟩, ⟨e, he, hkind, rfl, hdecl⟩, rfl, rfl⟩

/-- **Tables**: the routes that are assembled of the endpoints are their table. -/
theorem table_of_assemble {c : Configuration}
    (h : assemble c.arena c.endpoints = .ok c.routes) : c.RouteTable := by
  obtain ⟨reserved, sources, sinks, h⟩ := assemble_spec h
  refine ⟨h.ordered, fun source sink => ⟨?_, ?_⟩, fun r hr => ?_, h.ids,
    fun id e he hkind => h.count_sink he hkind, fun id e he hkind => h.source_mem he hkind, ?_⟩
  · rintro ⟨r, hr, rfl, rfl⟩
    obtain ⟨s, hs, t, ht, hname, hgets⟩ := h.exists_pair hr
    rw [hgets.1]
    exact ⟨s.decl, t.decl, says_of_standsFor ((h.mem_sources s).mp hs),
      says_of_standsFor ((h.mem_sinks t).mp ht), hname⟩
  · rintro ⟨decl, decl', hsource, hsink, hname⟩
    obtain ⟨s, hs, rfl, rfl⟩ := exists_terminal hsource
    obtain ⟨t, ht, rfl, rfl⟩ := exists_terminal hsink
    exact h.exists_route ((h.mem_sources s).mpr hs) ((h.mem_sinks t).mpr ht) hname
  · obtain ⟨s, hs, t, ht, hname, hgets⟩ := h.exists_pair hr
    have hid := idFrom_of_gets hgets
    rw [hgets.1] at hid ⊢
    exact ⟨s.decl, t.decl, says_of_standsFor ((h.mem_sources s).mp hs),
      says_of_standsFor ((h.mem_sinks t).mp ht), rfl, hname, rfl, hid⟩
  · have hlength := h.sinks_perm.length_eq
    rw [List.length_map, List.length_map] at hlength
    rw [hlength, h.sinks_length]

end Route

/-! ## Documents -/

/-- **Route tables**: the routes of any document that compiles are the matching pairs of its
    endpoints, each once and in order, with the ids their declarations ask for and no id twice. -/
theorem routeTable_of_compile {text : String} {c : Configuration} (h : compile text = .ok c) :
    c.RouteTable := by
  obtain ⟨root, -, h⟩ := compile_eq_ok.mp h
  obtain ⟨b, scripts, -, -, -, -, hroutes, -, hends, harena⟩ := compileElement_eq_ok.mp h
  rw [← hends, ← harena] at hroutes
  exact Route.table_of_assemble hroutes

theorem routeTable_sampleDocument : ∃ c, compile sampleDocument = .ok c ∧ c.routes.length = 2 ∧
    c.RouteTable := by
  obtain ⟨c, hc, hcounts⟩ := compile_sampleDocument
  exact ⟨c, hc, congrArg (fun counts => counts.2.1) hcounts, routeTable_of_compile hc⟩

end MediaNetwork

/-
  Terminals: what the endpoints bring to the route table.

  1. `mem_ofKind` — the terminals of a kind are the endpoints of that kind, each with what its
     network socket declares, in the order of the endpoints (`ofKind_ordered`).
  2. `checkTerminals_eq_ok` — the checks ask for sources that differ in name, and for a partner on
     the other side for every terminal.
  3. `mem_pairs` and `pairs_ordered` — the pairs, source by source.  Because sources differ in
     name, every sink is in one pair and no more (`sinks_of_pairs`).
-/
import MediaNetwork.Proofs.Outcome
import MediaNetwork.Route.Assembly

namespace MediaNetwork

open MediaNetwork.Outcome

/-- What the socket that faces the network declares for an endpoint. -/
def Endpoint.Declares (a : Arena) (e : Endpoint) (decl : RouteDecl) : Prop :=
  ∃ port direction dataType bandwidth, a.get? e.networkSocket =
    some (.socket ⟨port, direction, dataType, .network bandwidth decl⟩)

theorem Endpoint.Declares.unique {a : Arena} {e : Endpoint} {decl decl' : RouteDecl}
    (h : e.Declares a decl) (h' : e.Declares a decl') : decl' = decl := by
  obtain ⟨port, direction, dataType, bandwidth, hget⟩ := h
  obtain ⟨port', direction', dataType', bandwidth', hget'⟩ := h'
  rw [hget] at hget'
  cases hget'
  rfl

namespace Terminal

/-- The terminal is that of an endpoint of this kind. -/
def StandsFor (a : Arena) (endpoints : List Endpoint) (kind : EndpointKind) (t : Terminal) : Prop :=
  ∃ e, endpoints[t.endpoint.index]? = some e ∧ e.kind = kind ∧ e.node = t.node ∧
    e.Declares a t.decl

/-! ## Reading terminals -/

theorem routeDecl_eq_ok {a : Arena} {e : Endpoint} {decl : RouteDecl} :
    routeDecl a e.networkSocket = .ok decl ↔ e.Declares a decl := by
  unfold routeDecl Arena.get Endpoint.Declares
  cases a.get? e.networkSocket with
  | none => simp
  | some r =>
    simp only [ok_bind, Option.some.injEq]
    constructor
    · intro h
      split at h
      · rename_i port direction dataType bandwidth decl'
        cases h
        exact ⟨port, direction, dataType, bandwidth, rfl⟩
      · nomatch h
    · rintro ⟨port, direction, dataType, bandwidth, rfl⟩
      rfl

section Reading

variable {a : Arena} {endpoints : List Endpoint} {terminals : List (EndpointKind × Terminal)}
  (h : ofEndpoints a endpoints = .ok terminals)

include h

/-- Endpoint by endpoint, the terminal with its kind. -/
theorem forall₂_of_ofEndpoints :
    List.Forall₂ (fun p t => t.1 = p.1.kind ∧ t.2.endpoint = ⟨p.2⟩ ∧ t.2.node = p.1.node ∧
      p.1.Declares a t.2.decl) endpoints.zipIdx terminals := by
  refine (mapM_eq_ok.mp h).imp fun p t ht => ?_
  obtain ⟨decl, hdecl, ht⟩ := bind_eq_ok.mp ht
  cases ht
  exact ⟨rfl, rfl, rfl, routeDecl_eq_ok.mp hdecl⟩

theorem mem_ofKind {kind : EndpointKind} {t : Terminal} :
    t ∈ ofKind kind terminals ↔ t.StandsFor a endpoints kind := by
  have hall := forall₂_of_ofEndpoints h
  have hmem : t ∈ ofKind kind terminals ↔ (kind, t) ∈ terminals := by
    simp [ofKind]
  rw [hmem]
  constructor
  · intro ht
    obtain ⟨⟨e, i⟩, hp, hkind, hid, hnode, hdecl⟩ := exists_of_forall₂ hall ht
    refine ⟨e, ?_, hkind.symm, hnode.symm, hdecl⟩
    rw [hid]
    exact List.mk_mem_zipIdx_iff_getElem?.mp hp
  · rintro ⟨e, he, hkind, hnode, hdecl⟩
    have hp : (e, t.endpoint.index) ∈ endpoints.zipIdx := List.mk_mem_zipIdx_iff_getElem?.mpr he
    obtain ⟨⟨kind', t'⟩, ht', hkind', hid, hnode', hdecl'⟩ := exists_of_forall₂ hall.flip hp
    have hsame : t'.decl = t.decl := hdecl.unique hdecl'
    have ht : (kind', t') = (kind, t) := by
      obtain ⟨endpoint, node, decl⟩ := t
      obtain ⟨endpoint', node', decl'⟩ := t'
      simp_all
    rwa [ht] at ht'

/-- Every endpoint has a terminal. -/
theorem exists_standsFor {id : EndpointId} {e : Endpoint} (he : endpoints[id.index]? = some e) :
    ∃ t, StandsFor a endpoints e.kind t ∧ t.endpoint = id := by
  have hp : (e, id.index) ∈ endpoints.zipIdx := List.mk_mem_zipIdx_iff_getElem?.mpr he
  obtain ⟨t, -, -, hid, hnode, hdecl⟩ := exists_of_forall₂ (forall₂_of_ofEndpoints h).flip hp
  refine ⟨t.2, ⟨e, ?_, rfl, hnode.symm, hdecl⟩, hid⟩
  rw [hid]
  exact he

/-- Terminals come in the order of their endpoints. -/
theorem ofKind_ordered (kind : EndpointKind) :
    (ofKind kind terminals).Pairwise fun s t => s.endpoint.index < t.endpoint.index := by
  have hindex : terminals.map (fun t => t.2.endpoint.index) = endpoints.zipIdx.map Prod.snd := by
    rw [map_eq_map_iff_forall₂]
    exact (forall₂_of_ofEndpoints h).flip.imp fun t p ht => congrArg EndpointId.index ht.2.1
  have hall : terminals.Pairwise fun s t => s.2.endpoint.index < t.2.endpoint.index := by
    rw [← List.pairwise_map, hindex, List.zipIdx_map_snd]
    exact List.pairwise_lt_range'
  unfold ofKind
  rw [List.pairwise_map]
  exact hall.filter _

/-- There are as many terminals of a kind as endpoints. -/
theorem length_ofKind (kind : EndpointKind) :
    (ofKind kind terminals).length = endpoints.countP fun e => e.kind == kind := by
  have hkinds : terminals.map Prod.fst = endpoints.map Endpoint.kind := by
    have hfst : endpoints.map Endpoint.kind =
        endpoints.zipIdx.map fun p => p.1.kind := by
      rw [← List.zipIdx_map_fst 0 endpoints, List.map_map]
      simp
    rw [hfst, map_eq_map_iff_forall₂]
    exact (forall₂_of_ofEndpoints h).flip.imp fun t p ht => ht.1
  have hcount := congrArg (List.countP fun k => k == kind) hkinds
  rw [List.countP_map, List.countP_map] at hcount
  rw [ofKind, List.length_map, ← List.countP_eq_length_filter]
  exact hcount

end Reading

end Terminal

namespace Route

/-! ## Checks -/

/-- No source repeats the name of another if they all differ in name, also from those before. -/
theorem repeatedSource?_eq_none {before sources : List Terminal} :
    repeatedSource? before sources = none ↔
      (∀ s ∈ before, ∀ t ∈ sources, t.decl.name ≠ s.decl.name) ∧
        sources.Pairwise fun s t => t.decl.name ≠ s.decl.name := by
  induction sources generalizing before with
  | nil => simp [repeatedSource?]
  | cons source sources ih =>
    have hfind : before.find? source.sameRoute = none ↔
        ∀ s ∈ before, source.decl.name ≠ s.decl.name := by
      simp [List.find?_eq_none, Terminal.sameRoute]
    rw [List.pairwise_cons]
    constructor
    · intro h
      unfold repeatedSource? at h
      split at h
      · nomatch h
      rename_i hnone
      obtain ⟨hbefore, hpairwise⟩ := ih.mp h
      refine ⟨fun s hs => List.forall_mem_cons.mpr ⟨hfind.mp hnone s hs, ?_⟩, ?_, hpairwise⟩
      · exact hbefore s (List.mem_append_left _ hs)
      · exact hbefore source (List.mem_append_right _ (List.mem_singleton_self _))
    · rintro ⟨hbefore, hsource, hpairwise⟩
      have hnone := hfind.mpr fun s hs => hbefore s hs source List.mem_cons_self
      unfold repeatedSource?
      simp only [hnone]
      refine ih.mpr ⟨fun s hs t ht => ?_, hpairwise⟩
      rcases List.mem_append.mp hs with hs | hs
      · exact hbefore s hs t (List.mem_cons_of_mem _ ht)
      · obtain rfl := List.mem_singleton.mp hs
        exact hsource t ht

/-- The checks ask for sources that differ in name, and for a partner for every terminal. -/
theorem checkTerminals_eq_ok {sources sinks : List Terminal} {u : Unit} :
    checkTerminals sources sinks = .ok u ↔
      (sources.Pairwise fun s t => t.decl.name ≠ s.decl.name) ∧
        (∀ s ∈ sources, ∃ t ∈ sinks, s.decl.name = t.decl.name) ∧
        ∀ t ∈ sinks, ∃ s ∈ sources, s.decl.name = t.decl.name := by
  have hrepeated : repeatedSource? [] sources = none ↔
      sources.Pairwise fun s t => t.decl.name ≠ s.decl.name := by
    rw [repeatedSource?_eq_none]
    exact and_iff_right fun _ hs => (nomatch hs)
  have hsinks : (sources.find? fun s => !sinks.any s.sameRoute) = none ↔
      ∀ s ∈ sources, ∃ t ∈ sinks, s.decl.name = t.decl.name := by
    simp [List.find?_eq_none, Terminal.sameRoute]
  have hsources : (sinks.find? fun t => !sources.any t.sameRoute) = none ↔
      ∀ t ∈ sinks, ∃ s ∈ sources, s.decl.name = t.decl.name := by
    simp only [List.find?_eq_none, Bool.not_eq_true, Bool.not_eq_false', List.any_eq_true,
      Terminal.sameRoute, beq_iff_eq]
    exact forall₂_congr fun t _ => exists_congr fun s => and_congr_right fun _ => eq_comm
  rw [← hrepeated, ← hsinks, ← hsources]
  unfold checkTerminals
  split
  · simp_all
  split
  · simp_all
  split
  · simp_all
  · simp_all

/-! ## Pairs -/

theorem mem_pairs {sources sinks : List Terminal} {s t : Terminal} :
    (s, t) ∈ pairs sources sinks ↔ s ∈ sources ∧ t ∈ sinks ∧ s.decl.name = t.decl.name := by
  simp [pairs, Terminal.sameRoute]

theorem length_pairs (sources sinks : List Terminal) :
    (pairs sources sinks).length = expectedCount sources sinks := by
  induction sources with
  | nil => rfl
  | cons source sources ih =>
    have hcount : (pairs (source :: sources) sinks).length =
        sinks.countP source.sameRoute + (pairs sources sinks).length := by
      simp [pairs, List.countP_eq_length_filter]
    rw [hcount, ih]
    rfl

section Ordered

variable {sources sinks : List Terminal}
  (hsinks : sinks.Pairwise fun s t => s.endpoint.index < t.endpoint.index)

include hsinks

/-- The pairs come source by source, and for one source sink by sink. -/
theorem pairs_ordered
    (hsources : sources.Pairwise fun s t => s.endpoint.index < t.endpoint.index) :
    (pairs sources sinks).Pairwise fun p q => p.1.endpoint.index < q.1.endpoint.index ∨
      (p.1.endpoint = q.1.endpoint ∧ p.2.endpoint.index < q.2.endpoint.index) := by
  unfold pairs
  rw [List.pairwise_flatMap]
  constructor
  · intro s _
    rw [List.pairwise_map]
    exact (hsinks.filter _).imp fun hlt => Or.inr ⟨rfl, hlt⟩
  · refine hsources.imp fun {s s'} hlt p hp q hq => ?_
    obtain ⟨t, -, rfl⟩ := List.mem_map.mp hp
    obtain ⟨t', -, rfl⟩ := List.mem_map.mp hq
    exact Or.inl hlt

/-- If sources differ in name and every sink has one, the sinks of the pairs are the sinks. -/
theorem sinks_of_pairs (hnames : sources.Pairwise fun s t => t.decl.name ≠ s.decl.name)
    (hpartner : ∀ t ∈ sinks, ∃ s ∈ sources, s.decl.name = t.decl.name) :
    ((pairs sources sinks).map Prod.snd).Perm sinks := by
  have hne : ∀ {s t : Terminal}, s.endpoint.index < t.endpoint.index → s ≠ t := by
    rintro s t hlt rfl
    exact Nat.lt_irrefl _ hlt
  -- A sink has one name, and no two sources share it.
  have honce : ((pairs sources sinks).map Prod.snd).Nodup := by
    unfold pairs List.Nodup
    rw [List.pairwise_map, List.pairwise_flatMap]
    constructor
    · intro s _
      rw [List.pairwise_map]
      exact (hsinks.filter _).imp fun hlt => hne hlt
    · refine hnames.imp fun {s s'} hdiffer p hp q hq hsame => hdiffer ?_
      obtain ⟨t, ht, rfl⟩ := List.mem_map.mp hp
      obtain ⟨t', ht', rfl⟩ := List.mem_map.mp hq
      obtain rfl : t = t' := hsame
      have hs : s.decl.name = t.decl.name := by
        simpa [Terminal.sameRoute] using (List.mem_filter.mp ht).2
      have hs' : s'.decl.name = t.decl.name := by
        simpa [Terminal.sameRoute] using (List.mem_filter.mp ht').2
      exact hs'.trans hs.symm
  rw [List.perm_ext_iff_of_nodup honce (hsinks.imp fun hlt => hne hlt)]
  intro t
  rw [List.mem_map]
  constructor
  · rintro ⟨⟨s, t'⟩, hp, rfl⟩
    exact (mem_pairs.mp hp).2.1
  · intro ht
    obtain ⟨s, hs, hname⟩ := hpartner t ht
    exact ⟨(s, t), mem_pairs.mpr ⟨hs, ht, hname⟩, rfl⟩

end Ordered

end Route

end MediaNetwork

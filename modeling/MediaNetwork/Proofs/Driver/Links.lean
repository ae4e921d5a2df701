/-
  Links of endpoints.

  The builder records a connection with a link twice: as an endpoint and as a link candidate.  Both
  lists come from the same place, so the candidates are the endpoints that have a link, in order
  (`Builder.Listed`, kept by every step of the builder).

  A connection element whose link is taken is refused, and what one element makes are the branches
  of one fan, or one connection alone.  So two endpoints have the same link only if they use the
  same fan (`Endpoint.Apart`, kept by every connection element, hence by every node).
-/
import MediaNetwork.Proofs.Graph.Sharing
import MediaNetwork.Proofs.Print.Declarations

namespace MediaNetwork

open MediaNetwork.Outcome

/-! ## Candidates are endpoints -/

/-- What the candidate of the endpoint is, its line aside, if the endpoint has a link. -/
def Endpoint.linkKey (e : Endpoint) : Option (String × UInt16 × ResourceId) :=
  e.link.map fun link => (link, e.node, e.connection)

namespace Builder

/-- The link candidates are the endpoints that have a link. -/
def Listed (b : Builder) : Prop :=
  b.links.toList.map LinkCandidate.key = b.endpoints.toList.filterMap Endpoint.linkKey

/-- A connection that is finished is listed. -/
theorem Listed.finish {b : Builder} (h : b.Listed) (d : ConnectionDecl) (jobs : JobList)
    (socketIn socketOut : ResourceId) (offset : Option UInt16) (kind : EndpointKind)
    (networkSocket : ResourceId) :
    (b.finish d jobs socketIn socketOut offset kind networkSocket).Listed := by
  have hbefore : b.links.toList.map LinkCandidate.key =
      b.endpoints.toList.filterMap Endpoint.linkKey := h
  unfold Listed
  rw [endpoints_finish, Array.toList_push, List.filterMap_append, ← hbefore]
  simp only [Builder.finish, alloc]
  cases hlink : d.link with
  | none => simp [Endpoint.linkKey]
  | some link => simp [Endpoint.linkKey, LinkCandidate.key]

theorem listed_step {x y : Bench} (h : x.builder.Listed) (hstep : Step x y) :
    y.builder.Listed := by
  cases hstep with
  | slots b w ports => exact h
  | node b w n => exact h
  | port b w p => exact h
  | socket w stands => exact h
  | fan b isFan holds => exact h
  | connection b d jobs offset kind networkSocket sides after => exact h.finish ..

/-- The candidates stay listed while a connection element is taken in. -/
theorem Listed.connect {b : Builder} (h : b.Listed) {d : ConnectionDecl} {p : PortPlan}
    (hs : b.Sound d.node p) (hf : d.wiring.Fits b.ports.stream) : (b.connect d).Listed :=
  (connect_steps hs hf).keeps (P := fun x => x.builder.Listed) (fun _ _ => listed_step) h

/-- The candidates of a graph are its endpoints that have a link. -/
theorem Built.listed {plans : List NodePlan} {b : Builder} (h : Built plans b) : b.Listed :=
  h.steps.keeps (P := fun x => x.builder.Listed) (fun _ _ => listed_step) rfl

/-- Where no candidate has a link, no endpoint has. -/
theorem Listed.link_ne {b : Builder} (h : b.Listed) {link : String}
    (hfree : b.hasLink (some link) = false) : ∀ e ∈ b.endpoints.toList, e.link ≠ some link := by
  intro e he hlink
  have hmem : (link, e.node, e.connection) ∈ b.links.toList.map LinkCandidate.key := by
    rw [h]
    exact List.mem_filterMap.mpr ⟨e, he, by rw [Endpoint.linkKey, hlink]; rfl⟩
  obtain ⟨l, hl, hkey⟩ := List.mem_map.mp hmem
  have hsame : l.link = link := congrArg Prod.fst hkey
  have htaken : b.hasLink (some link) = true :=
    Array.any_eq_true'.mpr ⟨l, Array.mem_toList_iff.mp hl, beq_iff_eq.mpr hsame⟩
  rw [hfree] at htaken
  nomatch htaken

end Builder

/-! ## Endpoints with the same link -/

/-- The endpoints have different links, unless they use the same fan. -/
def Endpoint.Apart (a : Arena) (e e' : Endpoint) : Prop :=
  ∀ link, e.link = some link → e'.link = some link → ∃ fan, e.Uses a fan ∧ e'.Uses a fan

theorem Endpoint.Uses.extend {a b : Arena} (h : a.ExtendsTo b) {e : Endpoint} {fan : ResourceId}
    (hu : e.Uses a fan) : e.Uses b fan := by
  obtain ⟨⟨f, hf, hfan⟩, r, hr, hmem⟩ := hu
  exact ⟨⟨f, h.get? hf, hfan⟩, r, h.get? hr, hmem⟩

theorem Endpoint.Apart.extend {a b : Arena} (h : a.ExtendsTo b) {e e' : Endpoint}
    (hap : e.Apart a e') : e.Apart b e' := by
  intro link hlink hlink'
  obtain ⟨fan, hfan, hfan'⟩ := hap link hlink hlink'
  exact ⟨fan, hfan.extend h, hfan'.extend h⟩

theorem Endpoint.Apart.symm {a : Arena} {e e' : Endpoint} (h : e.Apart a e') : e'.Apart a e := by
  intro link hlink hlink'
  obtain ⟨fan, hfan, hfan'⟩ := h link hlink' hlink
  exact ⟨fan, hfan', hfan⟩

namespace Arena.Lays

variable {a : Arena} {first : Nat} {d : ConnectionDecl} {es : List Endpoint}

/-- The endpoints of a connection element have the link of the element. -/
theorem link_eq (hl : a.Lays first d es) : ∀ e ∈ es, e.link = d.link := by
  unfold Lays at hl
  intro e he
  split at hl
  · obtain ⟨x, ⟨_, _, _, _, _, -, -, -, -, -, -, rfl⟩, rfl⟩ := hl
    rw [List.mem_singleton.mp he]
  · obtain ⟨_, _, _, -, -, -, -, hes⟩ := hl
    obtain ⟨branch, -, _, _, _, -, -, -, -, rfl⟩ := exists_of_forall₂ hes he
    rfl
  · obtain ⟨_, _, _, -, -, -, -, hes⟩ := hl
    obtain ⟨branch, -, _, _, _, -, -, -, -, rfl⟩ := exists_of_forall₂ hes he
    rfl

/-- A connection element has one endpoint, or its endpoints all use one fan. -/
theorem one_or_fan (hl : a.Lays first d es) :
    (∃ e, es = [e]) ∨ ∃ fan, ∀ e ∈ es, e.Uses a fan := by
  unfold Lays at hl
  split at hl
  · obtain ⟨e, -, rfl⟩ := hl
    exact Or.inl ⟨e, rfl⟩
  · obtain ⟨_, _, splitter, -, hfan, -, -, hes⟩ := hl
    refine Or.inr ⟨splitter, fun e he => ?_⟩
    obtain ⟨branch, -, _, _, _, -, hid, -, -, rfl⟩ := exists_of_forall₂ hes he
    exact ⟨⟨_, hfan, rfl⟩, _, hid, by simp [Resource.handles]⟩
  · obtain ⟨_, _, combiner, -, hfan, -, -, hes⟩ := hl
    refine Or.inr ⟨combiner, fun e he => ?_⟩
    obtain ⟨branch, -, _, _, _, -, hid, -, -, rfl⟩ := exists_of_forall₂ hes he
    exact ⟨⟨_, hfan, rfl⟩, _, hid, by simp [Resource.handles]⟩

theorem pairwise_apart (hl : a.Lays first d es) : es.Pairwise (Endpoint.Apart a) := by
  rcases hl.one_or_fan with ⟨e, rfl⟩ | ⟨fan, huses⟩
  · exact List.pairwise_singleton _ _
  · exact List.pairwise_of_forall_mem_list fun e he e' he' _ _ _ => ⟨fan, huses e he, huses e' he'⟩

end Arena.Lays

namespace Builder

/-- Any two endpoints so far have different links or use the same fan. -/
def Separate (b : Builder) : Prop := b.endpoints.toList.Pairwise (Endpoint.Apart b.arena)

theorem Separate.extend {b b' : Builder} (h : b.Separate) (harena : b.arena.ExtendsTo b'.arena)
    (hends : b'.endpoints = b.endpoints) : b'.Separate := by
  unfold Separate
  rw [hends]
  exact h.imp fun hap => hap.extend harena

/-- **The step**: a connection element whose link is free keeps links apart. -/
theorem Separate.connect {b : Builder} (h : b.Separate) (hlisted : b.Listed) {d : ConnectionDecl}
    {p : PortPlan} (hs : b.Sound d.node p) (ha : b.Accepts d.node d) : (b.connect d).Separate := by
  obtain ⟨-, hfits, hfree⟩ := ha
  obtain ⟨es, hadds, hlays⟩ := connect_spec hs hfits
  unfold Separate
  rw [hadds.endpoints, List.pairwise_append]
  refine ⟨h.imp fun hap => hap.extend hadds.arena, hlays.pairwise_apart, ?_⟩
  intro e he e' he' link hlink hlink'
  rw [hlays.link_eq e' he'] at hlink'
  rw [hlink'] at hfree
  exact absurd hlink (hlisted.link_ne hfree e he)

/-- The connections of a node, one after the other. -/
theorem Separate.foldl_connect {b : Builder} (h : b.Separate) (hlisted : b.Listed)
    {node : UInt16} {p : PortPlan} (hs : b.Sound node p) {ds : List ConnectionDecl}
    (ha : b.AcceptsAll node ds) : (ds.foldl Builder.connect b).Separate := by
  induction ds generalizing b with
  | nil => exact h
  | cons d ds ih =>
    obtain ⟨haccepts, hrest⟩ := ha
    obtain ⟨rfl, hfits, -⟩ := id haccepts
    obtain ⟨es, hadds, -⟩ := connect_spec hs hfits
    exact ih (h.connect hlisted hs haccepts) (hlisted.connect hs hfits) hadds.sound hrest

/-- **The run**: in a graph, endpoints with the same link use the same fan. -/
theorem Built.separate {plans : List NodePlan} {b : Builder} (h : Built plans b) :
    b.Separate := by
  induction h with
  | empty => exact List.Pairwise.nil
  | @node plans b plan before welcome ih =>
    obtain ⟨hs, hbegin⟩ := declare_spec before.graph.typed plan
    have hlisted : (b.declare plan).Listed := by
      unfold Listed
      rw [hbegin.links, hbegin.endpoints]
      exact before.listed
    have hstart := ih.extend hbegin.arena hbegin.endpoints
    exact hstart.foldl_connect hlisted hs welcome.2

end Builder

end MediaNetwork

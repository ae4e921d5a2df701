/-
  What endpoints share.

  A part is a resource other than a port.  `Configuration.Sharing` says that the parts of a
  configuration are spread over the job lists of its endpoints as the document asks for it: none is
  left out, and two endpoints have parts in common only if they are branches of one fan, and then
  the fan and the socket it wraps.

  1. `reaches_connection` — the parts a connection leads to: itself, its sides, and the socket
     behind a side that is a fan.  On a job list are these and ports (`Plans.mem_part_iff`).
  2. `exists_endpoint` — every socket and every fan is held (`Arena.Ledger`), so from every part one
     comes to a connection, and every connection has its endpoint (`Records`).
  3. `exists_fan_of_shared` — a socket is held once.  Followed from two connections to a common
     part, the ways must have met in a fan.
-/
import MediaNetwork.Proofs.Graph.BuildOrder
import MediaNetwork.Proofs.Graph.Ownership

namespace MediaNetwork

/-! ## Parts -/

namespace Arena

/-- A handle of a socket, a splitter, a combiner or a connection. -/
def IsPart (a : Arena) (id : ResourceId) : Prop := ∃ r, a.get? id = some r ∧ r.port? = none

/-- A handle of a splitter or a combiner. -/
def IsFan (a : Arena) (id : ResourceId) : Prop := ∃ r, a.get? id = some r ∧ r.isFan = true

/-- The fan `fan` wraps the socket `socket`. -/
def Wraps (a : Arena) (fan socket : ResourceId) : Prop :=
  (∃ r, a.get? fan = some r ∧ r.isFan = true ∧ r.handles = [socket]) ∧
    ∃ s, a.get? socket = some (.socket s)

section Kinds

variable {a : Arena} {id : ResourceId}

theorem IsFan.isPart (h : a.IsFan id) : a.IsPart id := by
  obtain ⟨r, hr, hfan⟩ := h
  refine ⟨r, hr, ?_⟩
  cases r with
  | port p => nomatch hfan
  | _ => rfl

theorem IsFan.not_socket (h : a.IsFan id) {s : Socket} (hs : a.get? id = some (.socket s)) :
    False := by
  obtain ⟨r, hr, hfan⟩ := h
  rw [hs] at hr
  cases hr
  nomatch hfan

theorem IsFan.not_connection (h : a.IsFan id) {k : Connection}
    (hk : a.get? id = some (.connection k)) : False := by
  obtain ⟨r, hr, hfan⟩ := h
  rw [hk] at hr
  cases hr
  nomatch hfan

/-- A part is a socket, a fan or a connection. -/
theorem IsPart.cases (h : a.IsPart id) : (∃ s, a.get? id = some (.socket s)) ∨ a.IsFan id ∨
    ∃ k, a.get? id = some (.connection k) := by
  obtain ⟨r, hr, hport⟩ := h
  cases r with
  | port p => nomatch hport
  | socket s => exact Or.inl ⟨s, hr⟩
  | splitter f => exact Or.inr (Or.inl ⟨_, hr, rfl⟩)
  | combiner f => exact Or.inr (Or.inl ⟨_, hr, rfl⟩)
  | connection k => exact Or.inr (Or.inr ⟨k, hr⟩)

end Kinds

/-- A fan refers to nothing but the socket it wraps. -/
theorem Wraps.refers_iff {a : Arena} {fan socket x : ResourceId} (h : a.Wraps fan socket) :
    a.Refers fan x ↔ x = socket := by
  obtain ⟨⟨r, hr, -, hhandles⟩, -⟩ := h
  simp [Refers, hr, hhandles]

/-! ## Ways through a typed arena -/

section Typed

variable {a : Arena} (ht : a.Typed) {id x : ResourceId}

include ht

/-- A fan wraps a socket. -/
theorem Typed.exists_wraps (h : a.IsFan id) : ∃ socket, a.Wraps id socket := by
  obtain ⟨r, hr, hfan⟩ := h
  have hasks := (ht id.index r hr).2
  cases r with
  | splitter f =>
    obtain ⟨s, hs, -⟩ := hasks
    exact ⟨f.socketIn, ⟨_, hr, hfan, rfl⟩, s, hs⟩
  | combiner f =>
    obtain ⟨s, hs, -⟩ := hasks
    exact ⟨f.socketOut, ⟨_, hr, hfan, rfl⟩, s, hs⟩
  | _ => nomatch hfan

/-- The sides of a connection are sockets and fans. -/
theorem Typed.side_cases {k : Connection} (hk : a.get? id = some (.connection k))
    (hx : a.Refers id x) : (∃ s, a.get? x = some (.socket s)) ∨ a.IsFan x := by
  obtain ⟨r, hr, hx⟩ := hx
  rw [hk] at hr
  cases hr
  have hasks : k.TypedAt a := (ht id.index _ hk).2
  rcases List.mem_pair.mp hx with rfl | rfl
  · rcases hasks.input with ⟨s, hs, -⟩ | ⟨f, hf⟩
    · exact Or.inl ⟨s, hs⟩
    · exact Or.inr ⟨_, hf, rfl⟩
  · rcases hasks.output with ⟨s, hs, -⟩ | ⟨f, hf⟩
    · exact Or.inl ⟨s, hs⟩
    · exact Or.inr ⟨_, hf, rfl⟩

/-- A part is held by a connection, or it is a socket and held by a fan. -/
theorem Typed.holder_cases (hx : a.IsPart x) (h : a.Refers id x) :
    (∃ k, a.get? id = some (.connection k)) ∨ (a.IsFan id ∧ ∃ s, a.get? x = some (.socket s)) := by
  obtain ⟨r, hr, hmem⟩ := h
  have hpart : r.port? = none := by
    cases r with
    | port p => nomatch hmem
    | _ => rfl
  rcases IsPart.cases ⟨r, hr, hpart⟩ with ⟨s, hs⟩ | hfan | hk
  · -- a socket holds its port
    obtain ⟨p, hp, -⟩ := (ht id.index _ hs).2
    rw [hr] at hs
    cases hs
    obtain ⟨y, hy, hport⟩ := hx
    rw [List.mem_singleton.mp hmem, hp] at hy
    cases hy
    nomatch hport
  · obtain ⟨socket, ⟨r', hr', -, hhandles⟩, hsocket⟩ := ht.exists_wraps hfan
    rw [hr] at hr'
    cases hr'
    rw [hhandles] at hmem
    exact Or.inr ⟨hfan, List.mem_singleton.mp hmem ▸ hsocket⟩
  · exact Or.inl hk

/-- The only part a socket leads to is itself. -/
theorem Typed.reaches_socket {s : Socket} (hs : a.get? id = some (.socket s)) (hx : a.IsPart x) :
    a.Reaches id x ↔ x = id := by
  obtain ⟨p, hp, -⟩ := (ht id.index _ hs).2
  rw [Arena.reaches_socket hs, reaches_port hp]
  refine ⟨fun h => h.resolve_right ?_, Or.inl⟩
  rintro rfl
  obtain ⟨r, hr, hport⟩ := hx
  rw [hp] at hr
  cases hr
  nomatch hport

/-- A fan leads to itself and to the socket it wraps. -/
theorem Typed.reaches_fan (hf : a.IsFan id) (hx : a.IsPart x) :
    a.Reaches id x ↔ x = id ∨ a.Refers id x := by
  obtain ⟨socket, ⟨r, hr, -, hhandles⟩, s, hs⟩ := ht.exists_wraps hf
  rw [reaches_iff hr, hhandles]
  simp [ht.reaches_socket hs hx, Refers, hr, hhandles]

/-- A connection leads to itself, to its sides, and through a fan to a socket. -/
theorem Typed.reaches_connection {k : Connection} (hk : a.get? id = some (.connection k))
    (hx : a.IsPart x) : a.Reaches id x ↔
      x = id ∨ a.Refers id x ∨ ∃ fan, a.IsFan fan ∧ a.Refers id fan ∧ a.Refers fan x := by
  rw [reaches_iff hk]
  constructor
  · rintro (rfl | ⟨side, hside, hreach⟩)
    · exact Or.inl rfl
    · have hrefers : a.Refers id side := ⟨_, hk, hside⟩
      rcases ht.side_cases hk hrefers with ⟨s, hs⟩ | hfan
      · rw [ht.reaches_socket hs hx] at hreach
        exact Or.inr (Or.inl (hreach ▸ hrefers))
      · rcases (ht.reaches_fan hfan hx).mp hreach with rfl | hwrapped
        · exact Or.inr (Or.inl hrefers)
        · exact Or.inr (Or.inr ⟨side, hfan, hrefers, hwrapped⟩)
  · rintro (rfl | ⟨r, hr, hside⟩ | ⟨fan, hfan, ⟨r, hr, hside⟩, hwrapped⟩)
    · exact Or.inl rfl
    · rw [hk] at hr
      cases hr
      exact Or.inr ⟨x, hside, Reaches.refl x⟩
    · rw [hk] at hr
      cases hr
      exact Or.inr ⟨fan, hside, (ht.reaches_fan hfan hx).mpr (Or.inr hwrapped)⟩

/-- A connection has one fan at most. -/
theorem Typed.fan_unique {k : Connection} (hk : a.get? id = some (.connection k))
    {f f' : ResourceId} (hf : a.IsFan f) (hf' : a.IsFan f') (h : a.Refers id f)
    (h' : a.Refers id f') : f = f' := by
  have hasks : k.TypedAt a := (ht id.index _ hk).2
  have hboth : ¬ (a.IsFan k.socketIn ∧ a.IsFan k.socketOut) := by
    rintro ⟨hin, hout⟩
    rcases hasks.input with ⟨s, hs, -⟩ | hsplitter
    · exact hin.not_socket hs
    rcases hasks.output with ⟨s, hs, -⟩ | hcombiner
    · exact hout.not_socket hs
    exact hasks.oneFan ⟨hsplitter, hcombiner⟩
  obtain ⟨r, hr, hside⟩ := h
  obtain ⟨r', hr', hside'⟩ := h'
  rw [hk] at hr hr'
  cases hr
  cases hr'
  rcases List.mem_pair.mp hside with rfl | rfl
  · rcases List.mem_pair.mp hside' with rfl | rfl
    · rfl
    · exact absurd ⟨hf, hf'⟩ hboth
  · rcases List.mem_pair.mp hside' with rfl | rfl
    · exact absurd ⟨hf', hf⟩ hboth
    · rfl

end Typed

section Ways

variable {a : Arena} (ht : a.Typed) {id x : ResourceId} {k : Connection}
  (hk : a.get? id = some (.connection k)) (h : a.Reaches id x)

include ht hk h

/-- A socket is a side of the connection that leads to it, or is wrapped by one. -/
theorem Typed.way_to_socket {s : Socket} (hs : a.get? x = some (.socket s)) :
    a.Refers id x ∨ ∃ fan, a.IsFan fan ∧ a.Refers id fan ∧ a.Refers fan x := by
  rcases (ht.reaches_connection hk ⟨_, hs, rfl⟩).mp h with rfl | hway
  · rw [hk] at hs
    nomatch hs
  · exact hway

/-- A fan is a side of the connection that leads to it. -/
theorem Typed.way_to_fan (hx : a.IsFan x) : a.Refers id x := by
  rcases (ht.reaches_connection hk hx.isPart).mp h with rfl | hside | ⟨fan, hfan, -, hwrapped⟩
  · exact (hx.not_connection hk).elim
  · exact hside
  · obtain ⟨socket, hwraps⟩ := ht.exists_wraps hfan
    obtain rfl := hwraps.refers_iff.mp hwrapped
    obtain ⟨s, hs⟩ := hwraps.2
    exact (hx.not_socket hs).elim

/-- No connection leads to another. -/
theorem Typed.way_to_connection {k' : Connection} (hx : a.get? x = some (.connection k')) :
    x = id := by
  rcases (ht.reaches_connection hk ⟨_, hx, rfl⟩).mp h with rfl | hside | ⟨fan, hfan, -, hwrapped⟩
  · rfl
  · rcases ht.side_cases hk hside with ⟨s, hs⟩ | hfan
    · rw [hx] at hs
      nomatch hs
    · exact (hfan.not_connection hx).elim
  · obtain ⟨socket, hwraps⟩ := ht.exists_wraps hfan
    obtain rfl := hwraps.refers_iff.mp hwrapped
    obtain ⟨s, hs⟩ := hwraps.2
    rw [hx] at hs
    nomatch hs

end Ways

end Arena

/-! ## Parts on job lists -/

namespace Endpoint

/-- The connection of the endpoint has the fan as a side. -/
def Uses (a : Arena) (e : Endpoint) (fan : ResourceId) : Prop :=
  a.IsFan fan ∧ a.Refers e.connection fan

/-- The part is on the job lists of both endpoints. -/
def Shared (a : Arena) (e e' : Endpoint) (id : ResourceId) : Prop :=
  a.IsPart id ∧ id ∈ e.jobs.toList ∧ id ∈ e'.jobs.toList

/-- The parts on a job list are those the connection leads to; half B is a port. -/
theorem Plans.mem_part_iff {a : Arena} {node : UInt16} {pair : Option (ResourceId × ResourceId)}
    {e : Endpoint} (h : e.Plans a pair) (hp : a.HasHalves node pair) {id : ResourceId}
    (hid : a.IsPart id) : id ∈ e.jobs.toList ↔ a.Reaches e.connection id := by
  rw [h.mem_iff]
  refine ⟨fun hbuilds => hbuilds.resolve_right ?_, Or.inl⟩
  rintro ⟨portA, -, hpair⟩
  obtain ⟨settings, -, hportB⟩ := hp portA id hpair
  obtain ⟨r, hr, hport⟩ := hid
  rw [hportB] at hr
  cases hr
  nomatch hport

end Endpoint

/-- A graph whose accounts are closed. -/
structure Closed (a : Arena) (endpoints : List Endpoint) : Prop where
  typed : a.Typed
  ledger : a.Ledger []
  records : Records a endpoints
  /-- The parts on a job list are those the connection leads to. -/
  mem_jobs : ∀ e ∈ endpoints, ∀ id, a.IsPart id →
    (id ∈ e.jobs.toList ↔ a.Reaches e.connection id)

namespace Closed

variable {a : Arena} {endpoints : List Endpoint} (h : Closed a endpoints)

include h

theorem exists_connection {e : Endpoint} (he : e ∈ endpoints) :
    ∃ k, a.get? e.connection = some (.connection k) :=
  (h.records.mem_iff _).mp (List.mem_map_of_mem he)

/-- **Nothing is lost**: every part is on the job list of an endpoint. -/
theorem exists_endpoint {id : ResourceId} (hid : a.IsPart id) :
    ∃ e ∈ endpoints, id ∈ e.jobs.toList := by
  have hconnection : ∀ {x k}, a.get? x = some (.connection k) → a.Reaches x id →
      ∃ e ∈ endpoints, id ∈ e.jobs.toList := by
    intro x k hk hreach
    obtain ⟨e, he, rfl⟩ := List.mem_map.mp ((h.records.mem_iff x).mpr ⟨k, hk⟩)
    exact ⟨e, he, (h.mem_jobs e he id hid).mpr hreach⟩
  have hfans : ∀ {f}, a.IsFan f → a.Reaches f id → ∃ e ∈ endpoints, id ∈ e.jobs.toList := by
    intro f hf hreach
    obtain ⟨r, hr, hfan⟩ := hf
    obtain ⟨holder, hholds⟩ := h.ledger.fans f r hr hfan List.not_mem_nil
    rcases h.typed.holder_cases (Arena.IsFan.isPart ⟨r, hr, hfan⟩) hholds with ⟨k, hk⟩ | ⟨-, s, hs⟩
    · obtain ⟨x, hx, hmem⟩ := hholds
      exact hconnection hk (Arena.Reaches.step hx hmem hreach)
    · exact (Arena.IsFan.not_socket ⟨r, hr, hfan⟩ hs).elim
  -- from a socket one goes to its holder, from a fan to its holder, until one is at a connection
  rcases hid.cases with ⟨s, hs⟩ | hfan | ⟨k, hk⟩
  · obtain ⟨holder, hholds, -⟩ := h.ledger.held id s hs List.not_mem_nil
    have hreach : a.Reaches holder id := by
      obtain ⟨x, hx, hmem⟩ := hholds
      exact Arena.Reaches.step hx hmem (Arena.Reaches.refl id)
    rcases h.typed.holder_cases hid hholds with ⟨k, hk⟩ | ⟨hfan, -⟩
    · exact hconnection hk hreach
    · exact hfans hfan hreach
  · exact hfans hfan (Arena.Reaches.refl id)
  · exact hconnection hk (Arena.Reaches.refl id)

/-- Endpoints at different places have different connections. -/
theorem connection_ne {i j : Nat} {e e' : Endpoint} (he : endpoints[i]? = some e)
    (he' : endpoints[j]? = some e') (hij : i ≠ j) : e.connection ≠ e'.connection := by
  intro heq
  have hnodup : (endpoints.map Endpoint.connection).Nodup := by
    refine h.records.ordered.imp ?_
    rintro x y hlt rfl
    exact Nat.lt_irrefl _ hlt
  have hlt : i < (endpoints.map Endpoint.connection).length := by
    rw [List.length_map]
    exact (List.getElem?_eq_some_iff.mp he).1
  refine hij ((List.getElem?_inj hlt hnodup).mp ?_)
  rw [List.getElem?_map, List.getElem?_map, he, he']
  exact congrArg some heq

section Shared

variable {e e' : Endpoint} (he : e ∈ endpoints) (he' : e' ∈ endpoints)
  (hne : e.connection ≠ e'.connection)

include he he' hne

/-- **What two endpoints share** is a fan that both use, or the socket behind it. -/
theorem exists_fan_of_shared {id : ResourceId} (hid : e.Shared a e' id) :
    ∃ fan, e.Uses a fan ∧ e'.Uses a fan ∧ (id = fan ∨ a.Refers fan id) := by
  obtain ⟨k, hk⟩ := h.exists_connection he
  obtain ⟨k', hk'⟩ := h.exists_connection he'
  obtain ⟨hpart, hmem, hmem'⟩ := hid
  have hreach := (h.mem_jobs e he id hpart).mp hmem
  have hreach' := (h.mem_jobs e' he' id hpart).mp hmem'
  rcases hpart.cases with ⟨s, hs⟩ | hfan | ⟨kx, hkx⟩
  · -- The socket is held once: both ways come through the same holder, which is no connection.
    obtain ⟨holder, -, honly⟩ := h.ledger.held id s hs List.not_mem_nil
    rcases h.typed.way_to_socket hk hreach hs with hside | ⟨fan, hfan, huses, hwrapped⟩
    · rcases h.typed.way_to_socket hk' hreach' hs with hside' | ⟨fan', hfan', -, hwrapped'⟩
      · exact absurd ((honly _ hside).trans (honly _ hside').symm) hne
      · obtain rfl := (honly _ hside).trans (honly _ hwrapped').symm
        exact (hfan'.not_connection hk).elim
    · rcases h.typed.way_to_socket hk' hreach' hs with hside' | ⟨fan', -, huses', hwrapped'⟩
      · obtain rfl := (honly _ hside').trans (honly _ hwrapped).symm
        exact (hfan.not_connection hk').elim
      · obtain rfl := (honly _ hwrapped).trans (honly _ hwrapped').symm
        exact ⟨fan, ⟨hfan, huses⟩, ⟨hfan, huses'⟩, Or.inr hwrapped⟩
  · exact ⟨id, ⟨hfan, h.typed.way_to_fan hk hreach hfan⟩,
      ⟨hfan, h.typed.way_to_fan hk' hreach' hfan⟩, Or.inl rfl⟩
  · -- a connection is on its own list only, and the two are not the same
    have hsame := (h.typed.way_to_connection hk hreach hkx).symm.trans
      (h.typed.way_to_connection hk' hreach' hkx)
    exact absurd hsame hne

/-- Endpoints that use one fan share it and the socket it wraps, and nothing else. -/
theorem shared_iff_of_uses {fan socket : ResourceId} (hwraps : a.Wraps fan socket)
    (huses : e.Uses a fan) (huses' : e'.Uses a fan) (id : ResourceId) :
    e.Shared a e' id ↔ id = fan ∨ id = socket := by
  obtain ⟨k, hk⟩ := h.exists_connection he
  obtain ⟨s, hs⟩ := hwraps.2
  constructor
  · intro hid
    obtain ⟨other, hother, -, hcase⟩ := h.exists_fan_of_shared he he' hne hid
    obtain rfl := h.typed.fan_unique hk hother.1 huses.1 hother.2 huses.2
    exact hcase.imp_right hwraps.refers_iff.mp
  · -- both connections lead to the fan, and through it to the socket
    have hmem : ∀ x, a.IsPart x → a.Reaches fan x → e.Shared a e' x := by
      intro x hx hreach
      obtain ⟨-, r, hr, hside⟩ := huses
      obtain ⟨-, r', hr', hside'⟩ := huses'
      exact ⟨hx, (h.mem_jobs e he x hx).mpr (Arena.Reaches.step hr hside hreach),
        (h.mem_jobs e' he' x hx).mpr (Arena.Reaches.step hr' hside' hreach)⟩
    rintro (rfl | rfl)
    · exact hmem id huses.1.isPart (Arena.Reaches.refl id)
    · have hpart : a.IsPart id := ⟨_, hs, rfl⟩
      exact hmem id hpart ((h.typed.reaches_fan huses.1 hpart).mpr
        (Or.inr (hwraps.refers_iff.mpr rfl)))

end Shared

end Closed

/-! ## Documents -/

/-- How the resources of a configuration are spread over the job lists of its endpoints. -/
structure Configuration.Sharing (c : Configuration) : Prop where
  /-- No socket, fan or connection is left out. -/
  covered : ∀ id, c.arena.IsPart id → ∃ e ∈ c.endpoints, id ∈ e.jobs.toList
  /-- The connections of the endpoints are the connections, each once and in order. -/
  connections : ∀ id, id ∈ c.endpoints.map Endpoint.connection ↔
    ∃ k, c.arena.get? id = some (.connection k)
  ordered : (c.endpoints.map Endpoint.connection).Pairwise fun x y => x.index < y.index
  /-- Two endpoints share a part only if they use one fan. -/
  shared_iff : ∀ i j e e', c.endpoint? i = some e → c.endpoint? j = some e' → i ≠ j →
    ((∃ id, e.Shared c.arena e' id) ↔ ∃ fan, e.Uses c.arena fan ∧ e'.Uses c.arena fan)
  /-- What they share is that fan and the one socket it wraps. -/
  shared : ∀ i j e e', c.endpoint? i = some e → c.endpoint? j = some e' → i ≠ j →
    ∀ fan, e.Uses c.arena fan → e'.Uses c.arena fan →
      ∃ socket, c.arena.Wraps fan socket ∧
        ∀ id, e.Shared c.arena e' id ↔ id = fan ∨ id = socket

/-- **Closed accounts** leave no part out, and let endpoints share nothing but a fan and its
    socket. -/
theorem sharing_of_closed {c : Configuration} (h : Closed c.arena c.endpoints) : c.Sharing := by
  have hne : ∀ {i j : EndpointId} {e e'}, c.endpoint? i = some e → c.endpoint? j = some e' →
      i ≠ j → e.connection ≠ e'.connection := by
    intro i j e e' he he' hij
    exact h.connection_ne he he' fun hindex => hij (congrArg EndpointId.mk hindex)
  refine ⟨fun id hid => h.exists_endpoint hid, h.records.mem_iff, h.records.ordered,
    fun i j e e' he he' hij => ?_, fun i j e e' he he' hij fan huses huses' => ?_⟩
  · have hmem := List.mem_of_getElem? he
    have hmem' := List.mem_of_getElem? he'
    constructor
    · rintro ⟨id, hid⟩
      obtain ⟨fan, huses, huses', -⟩ := h.exists_fan_of_shared hmem hmem' (hne he he' hij) hid
      exact ⟨fan, huses, huses'⟩
    · rintro ⟨fan, huses, huses'⟩
      obtain ⟨socket, hwraps⟩ := h.typed.exists_wraps huses.1
      exact ⟨fan, (h.shared_iff_of_uses hmem hmem' (hne he he' hij) hwraps huses huses' fan).mpr
        (Or.inl rfl)⟩
  · obtain ⟨socket, hwraps⟩ := h.typed.exists_wraps huses.1
    exact ⟨socket, hwraps, h.shared_iff_of_uses (List.mem_of_getElem? he)
      (List.mem_of_getElem? he') (hne he he' hij) hwraps huses huses'⟩

/-- On the job lists of a document that compiles are the parts the accounts speak of. -/
theorem closed_of_compile {text : String} {c : Configuration} (h : compile text = .ok c) :
    Closed c.arena c.endpoints := by
  obtain ⟨hledger, hrecords⟩ := accounts_of_compile h
  obtain ⟨plans, hg⟩ := graph_of_compile h
  refine ⟨hg.typed, hledger, hrecords, fun e he id hid => ?_⟩
  obtain ⟨n, -, p, first, d, es, hports, -, hfits, hlays, hmem⟩ := hg.origins e he
  exact (hlays.plans hfits hports.hasHalves hmem).mem_part_iff hports.hasHalves hid

/-- **Sharing**: in the configuration of any document that compiles, no resource is lost, and two
    endpoints have a fan and the socket it wraps in common, and else only ports. -/
theorem sharing_of_compile {text : String} {c : Configuration} (h : compile text = .ok c) :
    c.Sharing :=
  sharing_of_closed (closed_of_compile h)

theorem sharing_sampleDocument : ∃ c, compile sampleDocument = .ok c ∧ c.endpoints.length = 4 ∧
    c.Sharing := by
  obtain ⟨c, hc, hcounts⟩ := compile_sampleDocument
  exact ⟨c, hc, congrArg Prod.fst hcounts, sharing_of_compile hc⟩

end MediaNetwork

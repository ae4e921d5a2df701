/-
  Who holds what in a finished graph.

  1. `Arena.Ledger` — the accounts of an arena some resources of which wait to be held: a socket
     that waits is held by nobody, any other socket by exactly one resource, and a fan that no
     longer waits by at least one.
  2. `Records` — the endpoints are the connections, one by one in the order of creation, and every
     driver link is that of an endpoint.

  Each step of the builder keeps both (`accounted_step`).  Since nothing waits in a finished graph,
  the accounts of `Built.accounted` are closed: no socket and no fan is left out, and no socket is
  held twice.
-/
import Mathlib.Data.List.Nodup
import MediaNetwork.Proofs.Graph.Steps

namespace MediaNetwork

namespace Arena

/-! ## Holding -/

/-- The resource `holder` holds a handle of `id`. -/
def Refers (a : Arena) (holder id : ResourceId) : Prop :=
  ∃ r, a.get? holder = some r ∧ id ∈ r.handles

/-- A resource that is added holds its handles; nothing else changes. -/
theorem refers_push {a : Arena} {r : Resource} {holder id : ResourceId} :
    (a.push r).Refers holder id ↔ a.Refers holder id ∨ (holder = a.next ∧ id ∈ r.handles) := by
  constructor
  · rintro ⟨x, hx, hid⟩
    rcases get?_push hx with hold | ⟨rfl, rfl⟩
    · exact Or.inl ⟨x, hold, hid⟩
    · exact Or.inr ⟨rfl, hid⟩
  · rintro (⟨x, hx, hid⟩ | ⟨rfl, hid⟩)
    · exact ⟨x, (ExtendsTo.push a r).get? hx, hid⟩
    · exact ⟨r, get?_push_next a r, hid⟩

/-- The next handle is new. -/
theorem ne_next_of_get? {a : Arena} {id : ResourceId} {r : Resource} (h : a.get? id = some r) :
    id ≠ a.next := by
  rintro rfl
  exact Nat.lt_irrefl _ (lt_size_of_get? h)

/-! ## The accounts -/

/-- The accounts of an arena whose resources `waiting` are still to be held. -/
structure Ledger (a : Arena) (waiting : List ResourceId) : Prop where
  /-- Every handle that is held is that of a resource. -/
  closed : ∀ holder id, a.Refers holder id → id.index < a.size
  nodup : waiting.Nodup
  waits : ∀ id ∈ waiting, ∃ r, a.get? id = some r ∧ r.port? = none
  free : ∀ id s, a.get? id = some (.socket s) → id ∈ waiting → ∀ holder, ¬ a.Refers holder id
  held : ∀ id s, a.get? id = some (.socket s) → id ∉ waiting → ∃! holder, a.Refers holder id
  fans : ∀ id r, a.get? id = some r → r.isFan = true → id ∉ waiting → ∃ holder, a.Refers holder id

theorem ledger_empty : empty.Ledger [] where
  closed := by
    rintro holder id ⟨r, hr, -⟩
    rw [get?_empty] at hr
    nomatch hr
  nodup := List.nodup_nil
  waits := fun _ h => nomatch h
  free := fun _ _ _ h => nomatch h
  held := by
    intro id s hs
    rw [get?_empty] at hs
    nomatch hs
  fans := by
    intro id r hr
    rw [get?_empty] at hr
    nomatch hr

/-- What a resource that is added may do to those that wait. -/
structure TakesUp (a : Arena) (r : Resource) (waiting rest : List ResourceId) : Prop where
  nodup : rest.Nodup
  handles : ∀ id ∈ r.handles, id.index < a.size
  /-- What waits then did so before, or is the new resource, which must wait if it is to be held. -/
  waits : ∀ id ∈ rest, id ∈ waiting ∨ (id = a.next ∧ r.port? = none)
  self : r.socket?.isSome = true ∨ r.isFan = true → a.next ∈ rest
  /-- A socket that is taken up had been waiting, and no other socket is. -/
  socket : ∀ id s, a.get? id = some (.socket s) →
    (id ∈ r.handles → id ∈ waiting) ∧ (id ∈ rest ↔ id ∈ waiting ∧ id ∉ r.handles)
  /-- A fan that no longer waits is taken up. -/
  fan : ∀ id x, a.get? id = some x → x.isFan = true → id ∈ waiting → id ∉ rest → id ∈ r.handles

section Push

variable {a : Arena} {waiting rest : List ResourceId} {r : Resource} (h : a.Ledger waiting)
  (ht : a.TakesUp r waiting rest)

include h ht

/-- Nobody holds the resource that is added. -/
theorem Ledger.not_refers_next (holder : ResourceId) : ¬ (a.push r).Refers holder a.next := by
  intro hrefers
  rcases refers_push.mp hrefers with hold | ⟨-, hid⟩
  · exact Nat.lt_irrefl _ (h.closed _ _ hold)
  · exact Nat.lt_irrefl _ (ht.handles _ hid)

/-- A socket that was there and waits no longer is held once: by whoever held it before, or by the
    resource that takes it up. -/
theorem Ledger.held_push {id : ResourceId} {s : Socket} (hs : a.get? id = some (.socket s))
    (hid : id ∉ rest) : ∃! holder, (a.push r).Refers holder id := by
  by_cases hwait : id ∈ waiting
  · have hmem : id ∈ r.handles := by
      by_contra hnot
      exact hid ((ht.socket id s hs).2.mpr ⟨hwait, hnot⟩)
    refine ⟨a.next, refers_push.mpr (Or.inr ⟨rfl, hmem⟩), fun holder hrefers => ?_⟩
    rcases refers_push.mp hrefers with hbefore | ⟨hnext, -⟩
    · exact absurd hbefore (h.free id s hs hwait holder)
    · exact hnext
  · obtain ⟨holder, hholds, honly⟩ := h.held id s hs hwait
    refine ⟨holder, refers_push.mpr (Or.inl hholds), fun other hrefers => ?_⟩
    rcases refers_push.mp hrefers with hbefore | ⟨-, hmem⟩
    · exact honly other hbefore
    · exact absurd ((ht.socket id s hs).1 hmem) hwait

/-- The accounts are kept by a resource that takes up what waits. -/
theorem Ledger.push : (a.push r).Ledger rest where
  closed := by
    intro holder id hrefers
    rw [size_push]
    -- a handle is old, or it is one that the new resource holds
    rcases refers_push.mp hrefers with hold | ⟨-, hmem⟩
    · exact Nat.lt_succ_of_lt (h.closed _ _ hold)
    · exact Nat.lt_succ_of_lt (ht.handles _ hmem)
  nodup := ht.nodup
  waits := by
    intro id hid
    rcases ht.waits id hid with hwait | ⟨rfl, hport⟩
    · obtain ⟨x, hx, hport⟩ := h.waits id hwait
      exact ⟨x, (ExtendsTo.push a r).get? hx, hport⟩
    · exact ⟨r, get?_push_next a r, hport⟩
  free := by
    intro id s hs hid holder hrefers
    rcases get?_push hs with hold | ⟨rfl, -⟩
    · obtain ⟨hwait, hnot⟩ := (ht.socket id s hold).2.mp hid
      rcases refers_push.mp hrefers with hbefore | ⟨-, hmem⟩
      · exact h.free id s hold hwait holder hbefore
      · exact hnot hmem
    · exact h.not_refers_next ht holder hrefers
  held := by
    intro id s hs hid
    rcases get?_push hs with hold | ⟨rfl, rfl⟩
    · exact h.held_push ht hold hid
    · -- a new socket waits
      exact absurd (ht.self (Or.inl rfl)) hid
  fans := by
    intro id x hx hfan hid
    rcases get?_push hx with hold | ⟨rfl, rfl⟩
    · by_cases hwait : id ∈ waiting
      · exact ⟨a.next, refers_push.mpr (Or.inr ⟨rfl, ht.fan id x hold hfan hwait hid⟩)⟩
      · obtain ⟨holder, hholds⟩ := h.fans id x hold hfan hwait
        exact ⟨holder, refers_push.mpr (Or.inl hholds)⟩
    · exact absurd (ht.self (Or.inr hfan)) hid

end Push

/-! ## Taking up, step by step -/

section TakesUp

variable {a : Arena} {waiting : List ResourceId} (h : a.Ledger waiting)

include h

theorem Ledger.takesUp_port (p : Port) : a.TakesUp (.port p) waiting waiting where
  nodup := h.nodup
  handles := fun _ hid => nomatch hid
  waits := fun _ hid => Or.inl hid
  self := by simp [Resource.socket?, Resource.isFan]
  socket := by simp [Resource.handles]
  fan := fun _ _ _ _ hwait hnot => absurd hwait hnot

/-- What waits has a place in the arena, so the next resource is another. -/
theorem Ledger.next_not_mem : a.next ∉ waiting := by
  intro hid
  obtain ⟨r, hr, -⟩ := h.waits _ hid
  exact ne_next_of_get? hr rfl

theorem Ledger.takesUp_socket {s : Socket} {p : Port} (hp : a.get? s.port = some (.port p)) :
    a.TakesUp (.socket s) waiting (a.next :: waiting) where
  nodup := List.nodup_cons.mpr ⟨h.next_not_mem, h.nodup⟩
  handles := by
    intro id hid
    rw [List.mem_singleton.mp hid]
    exact lt_size_of_get? hp
  waits := by
    intro id hid
    rcases List.mem_cons.mp hid with rfl | hid
    · exact Or.inr ⟨rfl, rfl⟩
    · exact Or.inl hid
  self := fun _ => List.mem_cons_self
  socket := by
    -- the port of a socket is no socket
    intro id s' hs'
    have hport : id ∉ (Resource.socket s).handles := by
      intro hid
      rw [List.mem_singleton.mp hid, hp] at hs'
      nomatch hs'
    simp [hport, ne_next_of_get? hs']
  fan := fun _ _ _ _ hwait hnot => absurd (List.mem_cons_of_mem _ hwait) hnot

end TakesUp

theorem Ledger.takesUp_fan {a : Arena} {id : ResourceId} (h : a.Ledger [id]) {r : Resource}
    (hfan : r.isFan = true) (hr : r.handles = [id]) : a.TakesUp r [id] [a.next] where
  nodup := List.nodup_singleton _
  handles := by
    rw [hr]
    intro x hx
    obtain ⟨y, hy, -⟩ := h.waits x hx
    exact lt_size_of_get? hy
  waits := by
    intro x hx
    refine Or.inr ⟨List.mem_singleton.mp hx, ?_⟩
    cases r with
    | port p => nomatch hfan
    | _ => rfl
  self := fun _ => List.mem_singleton_self _
  socket := by
    intro x s hs
    simp [hr, ne_next_of_get? hs]
  fan := by
    intro x y _ _ hwait _
    rw [hr]
    exact hwait

theorem Ledger.takesUp_connection {a : Arena} {waiting rest : List ResourceId}
    (h : a.Ledger waiting) (k : Connection) (hsides : waiting.Perm [k.socketIn, k.socketOut])
    (hrest : rest = [] ∨ ∃ fan r, rest = [fan] ∧ fan ∈ [k.socketIn, k.socketOut] ∧
      a.get? fan = some r ∧ r.isFan = true) : a.TakesUp (.connection k) waiting rest where
  nodup := by
    rcases hrest with rfl | ⟨fan, r, rfl, -⟩
    · exact List.nodup_nil
    · exact List.nodup_singleton _
  handles := by
    intro id hid
    obtain ⟨r, hr, -⟩ := h.waits id (hsides.mem_iff.mpr hid)
    exact lt_size_of_get? hr
  waits := by
    intro id hid
    rcases hrest with rfl | ⟨fan, r, rfl, hfan, -⟩
    · exact absurd hid List.not_mem_nil
    · rw [List.mem_singleton.mp hid]
      exact Or.inl (hsides.mem_iff.mpr hfan)
  self := by simp [Resource.socket?, Resource.isFan]
  socket := by
    intro id s hs
    have hmem : id ∈ waiting ↔ id ∈ (Resource.connection k).handles := hsides.mem_iff
    -- what is left waiting is a fan, if it is anything, so it is not this socket
    have hnot : id ∉ rest := by
      rcases hrest with rfl | ⟨fan, r, rfl, -, hr, hfan⟩
      · simp
      · intro hid
        rw [List.mem_singleton.mp hid, hr] at hs
        cases hs
        exact absurd hfan Bool.false_ne_true
    simp [hmem, hnot]
  fan := fun _ _ _ _ hwait _ => hsides.mem_iff.mp hwait

end Arena

/-! ## Records -/

/-- The endpoints are the connections in the order of creation. -/
structure Records (a : Arena) (endpoints : List Endpoint) : Prop where
  mem_iff : ∀ id, id ∈ endpoints.map Endpoint.connection ↔ ∃ k, a.get? id = some (.connection k)
  ordered : (endpoints.map Endpoint.connection).Pairwise fun x y => x.index < y.index

theorem records_empty : Records Arena.empty [] where
  mem_iff := by simp [Arena.get?_empty]
  ordered := List.Pairwise.nil

/-- A resource that is no connection needs no record. -/
theorem Records.push {a : Arena} {endpoints : List Endpoint} (h : Records a endpoints)
    {r : Resource} (hr : ∀ k, r ≠ .connection k) : Records (a.push r) endpoints where
  mem_iff := by
    intro id
    rw [h.mem_iff]
    constructor
    · rintro ⟨k, hk⟩
      exact ⟨k, (Arena.ExtendsTo.push a r).get? hk⟩
    · rintro ⟨k, hk⟩
      rcases Arena.get?_push hk with hold | ⟨-, heq⟩
      · exact ⟨k, hold⟩
      · exact absurd heq.symm (hr k)
  ordered := h.ordered

/-- A connection is recorded behind all others. -/
theorem Records.push_connection {a : Arena} {endpoints : List Endpoint} (h : Records a endpoints)
    (k : Connection) {e : Endpoint} (he : e.connection = a.next) :
    Records (a.push (.connection k)) (endpoints ++ [e]) where
  mem_iff := by
    intro id
    rw [List.map_append, List.mem_append, h.mem_iff, List.map_singleton, List.mem_singleton, he]
    constructor
    · rintro (⟨k', hk'⟩ | rfl)
      · exact ⟨k', (Arena.ExtendsTo.push a _).get? hk'⟩
      · exact ⟨k, Arena.get?_push_next a _⟩
    · rintro ⟨k', hk'⟩
      rcases Arena.get?_push hk' with hold | ⟨hid, -⟩
      · exact Or.inl ⟨k', hold⟩
      · exact Or.inr hid
  ordered := by
    rw [List.map_append, List.pairwise_append]
    refine ⟨h.ordered, List.pairwise_singleton _ _, fun x hx y hy => ?_⟩
    obtain ⟨k', hk'⟩ := (h.mem_iff x).mp hx
    rw [List.map_singleton, List.mem_singleton, he] at hy
    rw [hy]
    exact Arena.lt_size_of_get? hk'

/-! ## Steps -/

namespace Builder

/-- The accounts of a builder at work. -/
structure Accounted (x : Bench) : Prop where
  ledger : x.builder.arena.Ledger x.waiting
  records : Records x.builder.arena x.builder.endpoints.toList
  /-- A driver link is that of an endpoint. -/
  links : ∀ l ∈ x.builder.links.toList, ∃ e ∈ x.builder.endpoints.toList,
    e.connection = l.connection

/-- **The step**: whatever the builder does, its accounts are kept. -/
theorem accounted_step {x y : Bench} (h : Accounted x) (hstep : Step x y) : Accounted y := by
  obtain ⟨hledger, hrecords, hlinks⟩ := h
  -- only sockets, fans and connections take up what waits, and only a connection adds records
  cases hstep with
  | slots b w ports => exact ⟨hledger, hrecords, hlinks⟩
  | node b w n => exact ⟨hledger, hrecords, hlinks⟩
  | port b w p =>
    exact ⟨hledger.push (hledger.takesUp_port p), hrecords.push (fun _ h => nomatch h), hlinks⟩
  | socket w stands =>
    exact ⟨hledger.push (hledger.takesUp_socket stands), hrecords.push (fun _ h => nomatch h),
      hlinks⟩
  | fan b isFan holds =>
    refine ⟨hledger.push (hledger.takesUp_fan isFan holds), hrecords.push ?_, hlinks⟩
    rintro k rfl
    nomatch isFan
  | @connection b d jobs i o offset kind networkSocket w rest sides after =>
    refine ⟨?_, ?_, fun l hl => ?_⟩
    · rw [arena_finish]
      exact hledger.push (hledger.takesUp_connection ⟨i, o, d.style.kind offset⟩ sides after)
    · rw [arena_finish, endpoints_finish, Array.toList_push]
      exact hrecords.push_connection _ rfl
    · rw [endpoints_finish, Array.toList_push]
      rcases mem_links_finish hl with hold | ⟨hnew, -⟩
      · obtain ⟨e, he, heq⟩ := hlinks l hold
        exact ⟨e, List.mem_append_left _ he, heq⟩
      · exact ⟨_, List.mem_append_right _ (List.mem_singleton_self _), hnew.symm⟩

/-- **The run**: the accounts of a graph that is built are closed. -/
theorem Built.accounted {plans : List NodePlan} {b : Builder} (h : Built plans b) :
    Accounted ⟨b, []⟩ :=
  h.steps.keeps (fun _ _ => accounted_step)
    ⟨Arena.ledger_empty, records_empty, fun _ hl => nomatch hl⟩

end Builder

/-! ## Documents -/

/-- The accounts of a document that compiles are closed. -/
theorem accounts_of_compile {text : String} {c : Configuration} (h : compile text = .ok c) :
    c.arena.Ledger [] ∧ Records c.arena c.endpoints := by
  obtain ⟨root, -, h⟩ := compile_eq_ok.mp h
  obtain ⟨b, scripts, -, hb, -, -, -, -, hends, harena⟩ := compileElement_eq_ok.mp h
  obtain ⟨plans, hbuilt, -⟩ := Builder.built_of_buildNodes hb
  rw [hends, harena]
  exact ⟨hbuilt.accounted.ledger, hbuilt.accounted.records⟩

end MediaNetwork

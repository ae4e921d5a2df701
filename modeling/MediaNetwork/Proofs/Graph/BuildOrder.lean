/-
  Job lists as build plans.

  An endpoint's job list is what a network controller creates for it, in order.  `Endpoint.Plans`
  says that the list is right: nothing is on it twice, every resource comes after those it holds
  handles of, half B of a stream port comes before every stream socket, the last entry is the
  connection, and on it is exactly what the connection reaches, with half B if it reaches half A.

  1. `Arena.Needs` — what must come before a resource.  Pushing the entries of a socket and then
     the socket keeps the order (`Holds.respects`), and so do fans and connections.
  2. `Arena.Builds` — what is created along with a resource.  For a socket it is its entries and
     itself (`Holds.builds_iff`); fans and connections add themselves.
  3. `plans_of_push` puts both together: a job list that leads to the two sides of a connection
     and ends in the connection is right.

  The three layouts of a connection element are then three lists of pushes.
-/
import MediaNetwork.Proofs.Graph.Facing
import MediaNetwork.Proofs.Keyed

namespace MediaNetwork

open MediaNetwork.Outcome

/-! ## What comes before and what comes along -/

namespace Arena

/-- A handle of a stream socket. -/
def IsStreamSocket (a : Arena) (id : ResourceId) : Prop :=
  ∃ s pin bandwidth, a.get? id = some (.socket s) ∧ s.kind = .stream pin bandwidth

/-- A handle of half A of a stream port. -/
def IsHalfA (a : Arena) (id : ResourceId) : Prop :=
  ∃ node origin settings, a.get? id = some (.port ⟨node, origin, .stream .a settings⟩)

/-- What must be there before a resource of a node with the stream port `pair`: what it holds
    handles of, and for a stream socket both halves of the port. -/
def Needs (a : Arena) (pair : Option (ResourceId × ResourceId)) (id x : ResourceId) : Prop :=
  (∃ r, a.get? id = some r ∧ x ∈ r.handles) ∨
    (a.IsStreamSocket id ∧ ∃ portA, pair = some (portA, x))

/-- What is created along with a resource: what it reaches, and half B if that is half A. -/
def Builds (a : Arena) (pair : Option (ResourceId × ResourceId)) (id x : ResourceId) : Prop :=
  a.Reaches id x ∨ ∃ portA, a.Reaches id portA ∧ pair = some (portA, x)

/-- Every half A that a resource reaches is the first of the pair. -/
def Paired (a : Arena) (pair : Option (ResourceId × ResourceId)) (id : ResourceId) : Prop :=
  ∀ portA, a.Reaches id portA → a.IsHalfA portA → ∃ portB, pair = some (portA, portB)

/-- The pair is the two halves of a stream port of the node. -/
def HasHalves (a : Arena) (node : UInt16) (pair : Option (ResourceId × ResourceId)) : Prop :=
  ∀ portA portB, pair = some (portA, portB) → ∃ settings,
    a.get? portA = some (.port ⟨node, .declared, .stream .a settings⟩) ∧
    a.get? portB = some (.port ⟨node, .declared, .stream .b settings⟩)

end Arena

/-- The job list of an endpoint of a node with the stream port `pair` is a build plan. -/
structure Endpoint.Plans (a : Arena) (pair : Option (ResourceId × ResourceId)) (e : Endpoint) :
    Prop where
  nodup : e.jobs.toList.Nodup
  /-- What a resource holds handles of, and half B before a stream socket, comes before it. -/
  ordered : e.jobs.Respects (a.Needs pair)
  last : e.jobs.toList.getLast? = some e.connection
  faces : e.networkSocket ∈ e.jobs.toList
  /-- On the list is what the connection reaches, and half B with half A; nothing else. -/
  mem_iff : ∀ id, id ∈ e.jobs.toList ↔ a.Builds pair e.connection id
  /-- A half A that the connection reaches is that of the node. -/
  paired : a.Paired pair e.connection

namespace Arena

variable {a : Arena} {node : UInt16} {pair : Option (ResourceId × ResourceId)}

/-! ## Ports, fans and connections -/

/-- A port needs nothing. -/
theorem not_needs_port {id x : ResourceId} {p : Port} (h : a.get? id = some (.port p)) :
    ¬ a.Needs pair id x := by
  rintro (⟨r, hr, hx⟩ | ⟨⟨s, pin, bandwidth, hs, -⟩, -⟩)
  · rw [h] at hr
    cases hr
    nomatch hx
  · rw [h] at hs
    nomatch hs

/-- What is not a socket needs what it holds handles of. -/
theorem needs_iff {id x : ResourceId} {r : Resource} (h : a.get? id = some r)
    (hr : r.socket? = none) : a.Needs pair id x ↔ x ∈ r.handles := by
  unfold Needs
  constructor
  · rintro (⟨r', hr', hx⟩ | ⟨⟨s, pin, bandwidth, hs, -⟩, -⟩)
    · rw [h] at hr'
      cases hr'
      exact hx
    · rw [h] at hs
      cases hs
      nomatch hr
  · intro hx
    exact Or.inl ⟨r, h, hx⟩

/-- What is not a port is created after all that comes along with what it holds handles of. -/
theorem builds_iff (hp : a.HasHalves node pair) {id x : ResourceId} {r : Resource}
    (h : a.get? id = some r) (hr : r.port? = none) :
    a.Builds pair id x ↔ x = id ∨ ∃ next ∈ r.handles, a.Builds pair next x := by
  unfold Builds
  constructor
  · rintro (hx | ⟨portA, hportA, hpair⟩)
    · rcases (reaches_iff h).mp hx with rfl | ⟨next, hnext, hx⟩
      · exact Or.inl rfl
      · exact Or.inr ⟨next, hnext, Or.inl hx⟩
    · rcases (reaches_iff h).mp hportA with rfl | ⟨next, hnext, hx⟩
      · -- half A is a port
        obtain ⟨settings, hport, -⟩ := hp portA x hpair
        rw [h] at hport
        cases hport
        nomatch hr
      · exact Or.inr ⟨next, hnext, Or.inr ⟨portA, hx, hpair⟩⟩
  · rintro (rfl | ⟨next, hnext, hx | ⟨portA, hx, hpair⟩⟩)
    · exact Or.inl (Reaches.refl _)
    · exact Or.inl ((reaches_iff h).mpr (Or.inr ⟨next, hnext, hx⟩))
    · exact Or.inr ⟨portA, (reaches_iff h).mpr (Or.inr ⟨next, hnext, hx⟩), hpair⟩

/-- Whatever is no port reaches half A through what it holds handles of. -/
theorem paired_of_handles {id : ResourceId} {r : Resource} (h : a.get? id = some r)
    (hr : r.port? = none) (hnext : ∀ next ∈ r.handles, a.Paired pair next) :
    a.Paired pair id := by
  intro portA hreach hhalf
  rcases (reaches_iff h).mp hreach with rfl | ⟨next, hmem, hreach⟩
  · obtain ⟨node, origin, settings, hport⟩ := hhalf
    rw [h] at hport
    cases hport
    nomatch hr
  · exact hnext next hmem portA hreach hhalf

section Fan

variable {fan socket : ResourceId} {r : Resource} (h : a.get? fan = some r)
  (hr : r.handles = [socket])

include h hr

/-- A fan needs the socket it holds. -/
theorem eq_of_needs_fan (hsocket : r.socket? = none) {x : ResourceId} (hx : a.Needs pair fan x) :
    x = socket := by
  rw [needs_iff h hsocket, hr] at hx
  exact List.mem_singleton.mp hx

/-- A fan is created after what comes along with its socket. -/
theorem builds_fan_iff (hp : a.HasHalves node pair) (hport : r.port? = none) (x : ResourceId) :
    a.Builds pair fan x ↔ x = fan ∨ a.Builds pair socket x := by
  rw [builds_iff hp h hport, hr]
  simp

/-- A fan reaches half A through the socket it wraps. -/
theorem paired_fan (hport : r.port? = none) (hsocket : a.Paired pair socket) :
    a.Paired pair fan := by
  refine paired_of_handles h hport fun next hnext => ?_
  rw [hr] at hnext
  rw [List.mem_singleton.mp hnext]
  exact hsocket

end Fan

/-! ## Sockets -/

namespace Holds

variable {d : ConnectionDecl} {direction : Direction} {socket : SocketDecl} {port id : ResourceId}

/-- A socket that is not on a stream port does not stand on half A. -/
theorem port_of_pair (h : a.Holds d direction socket port id) (hp : a.HasHalves node pair)
    {portB : ResourceId} (hpair : pair = some (port, portB)) :
    ∃ pin bandwidth, socket.kind = .stream pin bandwidth := by
  obtain ⟨settings, hport, -⟩ := hp port portB hpair
  obtain ⟨origin, kind, hstand, hstands⟩ := h.stands
  rw [hport] at hstands
  cases hstands
  cases socket with
  | stream ports pin bandwidth => exact ⟨pin, bandwidth, rfl⟩
  | network decl => exact hstand.elim
  | usb endpointAddress framesPerTransaction => exact hstand.elim
  | mediaLb channelAddress bandwidth => exact hstand.elim

/-- What a socket needs are the entries that lead to it. -/
theorem needs_iff (h : a.Holds d direction socket port id) (hf : socket.Fits pair)
    (x : ResourceId) : a.Needs pair id x ↔ x ∈ socket.lead port none := by
  have hhandles : (∃ r, a.get? id = some r ∧ x ∈ r.handles) ↔ x = port := by
    rw [h.read]
    simp [Resource.handles]
  have hstream : a.IsStreamSocket id ↔ ∃ pin bandwidth, socket.kind = .stream pin bandwidth := by
    unfold IsStreamSocket
    rw [h.read]
    simp
  unfold Needs
  rw [hhandles, hstream]
  cases socket with
  | stream ports pin bandwidth =>
    obtain rfl := h.half ports pin bandwidth rfl
    have hpair : pair = some ports := hf
    simp [SocketDecl.lead, SocketDecl.kind, hpair, Prod.ext_iff, eq_comm]
  | _ => simp [SocketDecl.lead, SocketDecl.kind]

/-- The entries that lead to a socket are ports. -/
theorem port_of_mem_lead (h : a.Holds d direction socket port id) (hf : socket.Fits pair)
    (hp : a.HasHalves node pair) {x : ResourceId} (hx : x ∈ socket.lead port none) :
    ∃ p, a.get? x = some (.port p) := by
  obtain ⟨origin, kind, -, hport⟩ := h.stands
  cases socket with
  | stream ports pin bandwidth =>
    obtain ⟨settings, -, hportB⟩ := hp ports.1 ports.2 hf
    rcases List.mem_pair.mp hx with rfl | rfl
    · exact ⟨_, hport⟩
    · exact ⟨_, hportB⟩
  | _ =>
    rw [List.mem_singleton.mp hx]
    exact ⟨_, hport⟩

/-- What comes along with a socket is its entries and itself. -/
theorem builds_iff (h : a.Holds d direction socket port id) (hf : socket.Fits pair)
    (hp : a.HasHalves node pair) (x : ResourceId) :
    a.Builds pair id x ↔ x ∈ socket.lead port none ∨ x = id := by
  obtain ⟨origin, kind, -, hport⟩ := h.stands
  rw [Arena.builds_iff hp h.read rfl]
  have hnext : a.Builds pair port x ↔ x ∈ socket.lead port none := by
    unfold Builds
    rw [reaches_port hport]
    simp only [reaches_port hport, exists_eq_left]
    -- Only a stream socket stands on half A, and only then half B comes along.
    cases socket with
    | stream ports pin bandwidth =>
      obtain rfl := h.half ports pin bandwidth rfl
      have hpair : pair = some ports := hf
      simp [SocketDecl.lead, hpair, Prod.ext_iff, eq_comm]
    | _ =>
      have hne : ¬ pair = some (port, x) := by
        intro hpair
        obtain ⟨pin, bandwidth, hkind⟩ := h.port_of_pair hp hpair
        cases hkind
      simp [SocketDecl.lead, hne]
  simp [Resource.handles, hnext, or_comm]

/-- Pushing the entries of a socket and the socket keeps the order. -/
theorem respects (h : a.Holds d direction socket port id) (hf : socket.Fits pair)
    (hp : a.HasHalves node pair) {l : JobList} (hl : l.Respects (a.Needs pair)) :
    (l.pushAll (socket.lead port none ++ [id])).Respects (a.Needs pair) := by
  -- Ports need nothing, so they can be pushed at any time.
  have hlead : ∀ ids, (∀ x ∈ ids, ∃ p, a.get? x = some (.port p)) →
      ∀ l : JobList, l.Respects (a.Needs pair) → (l.pushAll ids).Respects (a.Needs pair) := by
    intro ids
    induction ids with
    | nil => exact fun _ l hl => hl
    | cons x ids ih =>
      intro hports l hl
      obtain ⟨p, hx⟩ := hports x List.mem_cons_self
      refine ih (fun y hy => hports y (List.mem_cons_of_mem _ hy)) _ (hl.push fun y hy => ?_)
      exact absurd hy (not_needs_port hx)
  rw [JobList.pushAll_append]
  refine (hlead _ (fun x hx => h.port_of_mem_lead hf hp hx) l hl).push fun x hx => ?_
  exact JobList.mem_pushAll.mpr (Or.inr ((h.needs_iff hf x).mp hx))

/-- The socket reaches half A only if it is a stream socket, and then it is that of the pair. -/
theorem paired (h : a.Holds d direction socket port id) (hf : socket.Fits pair) :
    a.Paired pair id := by
  intro portA hreach hhalf
  obtain ⟨nodeA, originA, settings, hportA⟩ := hhalf
  obtain ⟨origin, kind, hstand, hport⟩ := h.stands
  rcases (reaches_socket h.read).mp hreach with rfl | hreach
  · rw [h.read] at hportA
    nomatch hportA
  · obtain rfl := (reaches_port hport).mp hreach
    rw [hport] at hportA
    cases hportA
    cases socket with
    | stream ports pin bandwidth => exact ⟨ports.2, h.half ports pin bandwidth rfl ▸ hf⟩
    | _ => exact hstand.elim

end Holds

/-! ## Endpoints -/

/-- A job list that leads to both sides of a connection and ends in it is a build plan. -/
theorem plans_of_push (hp : a.HasHalves node pair) {e : Endpoint} {k : Connection} {l : JobList}
    (hid : a.get? e.connection = some (.connection k)) (hjobs : e.jobs = l.push e.connection)
    (hnodup : l.toList.Nodup) (hordered : l.Respects (a.Needs pair))
    (hmem : ∀ x, x ∈ l.toList ↔ a.Builds pair k.socketIn x ∨ a.Builds pair k.socketOut x)
    (hnew : e.connection ∉ l.toList) (hfaces : e.networkSocket ∈ l.toList)
    (hin : a.Paired pair k.socketIn) (hout : a.Paired pair k.socketOut) : e.Plans a pair := by
  -- the two sides are all the connection needs, and both are on the list
  have hsides : k.socketIn ∈ l.toList ∧ k.socketOut ∈ l.toList :=
    ⟨(hmem _).mpr (Or.inl (Or.inl (Reaches.refl _))),
      (hmem _).mpr (Or.inr (Or.inl (Reaches.refl _)))⟩
  constructor
  · rw [hjobs]
    exact JobList.nodup_push _ hnodup
  · rw [hjobs]
    refine hordered.push fun x hx => ?_
    rcases List.mem_pair.mp ((needs_iff hid rfl).mp hx) with rfl | rfl
    · exact hsides.1
    · exact hsides.2
  · rw [hjobs]
    exact JobList.getLast?_push_of_not_mem hnew
  · rw [hjobs]
    exact JobList.mem_push.mpr (Or.inl hfaces)
  · intro x
    rw [hjobs, JobList.mem_push, hmem, builds_iff hp hid rfl, or_comm]
    simp [Resource.handles]
  · refine paired_of_handles hid rfl fun next hnext => ?_
    rcases List.mem_pair.mp hnext with rfl | rfl
    · exact hin
    · exact hout

variable {d : ConnectionDecl} {e : Endpoint} {first : Nat} {shared : List ResourceId}

/-- The entries before the connection of an endpoint are not connections. -/
theorem not_mem_of_builds {id i : ResourceId} {k : Connection}
    (hid : a.get? id = some (.connection k)) {direction : Direction} {socket : SocketDecl}
    {port : ResourceId} (hi : a.Holds d direction socket port i) (hf : socket.Fits pair)
    (hp : a.HasHalves node pair) : id ∉ socket.lead port none ++ [i] := by
  intro hmem
  rcases List.mem_append.mp hmem with hlead | hlast
  · obtain ⟨p, hport⟩ := hi.port_of_mem_lead hf hp hlead
    rw [hid] at hport
    nomatch hport
  · rw [List.mem_singleton] at hlast
    have hread := hi.read
    rw [← hlast, hid] at hread
    nomatch hread

/-- **Plans**: the job list of a connection without a fan is a build plan. -/
theorem LaysPlain.plans (hp : a.HasHalves node pair) {input output : SocketDecl}
    (h : a.LaysPlain first d input output e) (hin : input.Fits pair) (hout : output.Fits pair) :
    e.Plans a pair := by
  obtain ⟨portIn, i, portOut, o, id, hi, ho, hid, -, -, -, rfl⟩ := h
  have hlist : input.lead portIn none ++ i :: (output.lead portOut none ++ [o, id]) =
      (input.lead portIn none ++ [i]) ++ (output.lead portOut none ++ [o]) ++ [id] := by
    simp
  -- the connection is pushed last, on what was pushed for the input and then for the output
  refine plans_of_push hp
    (l := JobList.empty.pushAll
      ((input.lead portIn none ++ [i]) ++ (output.lead portOut none ++ [o])))
    hid ?_ (JobList.nodup_pushAll _ List.nodup_nil) ?_ ?_ ?_ ?_ (hi.paired hin) (ho.paired hout)
  · rw [hlist, JobList.pushAll_append _ _ [id]]
    rfl
  · rw [JobList.pushAll_append]
    exact ho.respects hout hp (hi.respects hin hp (JobList.respects_empty _))
  · intro x
    rw [hi.builds_iff hin hp, ho.builds_iff hout hp, JobList.mem_pushAll]
    simp [or_assoc]
  · -- the connection is new: on the list so far are ports and sockets
    intro hmem
    rcases JobList.mem_pushAll.mp hmem with hnil | hmem
    · nomatch hnil
    · rcases List.mem_append.mp hmem with hmem | hmem
      · exact not_mem_of_builds hid hi hin hp hmem
      · exact not_mem_of_builds hid ho hout hp hmem
  · rw [JobList.mem_pushAll]
    by_cases hnet : output.isNetwork = true
    · simp [hnet]
    · simp [hnet]

/-- So is that of a branch of a splitter, which shares the input and the splitter. -/
theorem LaysOutput.plans (hp : a.HasHalves node pair) {input : SocketDecl} {branch : NetworkDecl}
    {portIn i splitter : ResourceId} {bytesPerFrame : UInt16}
    (h : a.LaysOutput first d splitter (input.lead portIn none ++ [i, splitter]) branch e)
    (hi : a.Holds d .input input portIn i) (hin : input.Fits pair)
    (hf : a.get? splitter = some (.splitter ⟨i, bytesPerFrame⟩)) : e.Plans a pair := by
  obtain ⟨port, o, id, ho, hid, -, -, rfl⟩ := h
  have hout : (SocketDecl.network branch).Fits pair := trivial
  have hlist : input.lead portIn none ++ [i, splitter] ++ [port, o, id] =
      (input.lead portIn none ++ [i]) ++ [splitter] ++ ([port] ++ [o]) ++ [id] := by
    simp
  -- input, splitter and the socket of the branch, each behind what it needs
  refine plans_of_push hp
    (l := JobList.empty.pushAll ((input.lead portIn none ++ [i]) ++ [splitter] ++ ([port] ++ [o])))
    hid ?_ (JobList.nodup_pushAll _ List.nodup_nil) ?_ ?_ ?_ ?_
    (paired_fan hf rfl rfl (hi.paired hin)) (ho.paired hout)
  · rw [hlist, JobList.pushAll_append _ _ [id]]
    rfl
  · rw [JobList.pushAll_append _ _ ([port] ++ [o]), JobList.pushAll_append _ _ [splitter]]
    refine ho.respects hout hp ?_
    refine (hi.respects hin hp (JobList.respects_empty _)).push fun x hx => ?_
    obtain rfl := eq_of_needs_fan hf rfl rfl hx
    exact JobList.mem_pushAll.mpr (Or.inr (by simp))
  · intro x
    rw [builds_fan_iff hf rfl hp rfl, hi.builds_iff hin hp, ho.builds_iff hout hp,
      JobList.mem_pushAll]
    simp only [JobList.toList_empty, List.not_mem_nil, false_or, List.mem_append,
      List.mem_singleton, SocketDecl.lead, Option.toList_none]
    rw [or_comm (a := x = splitter)]
  · -- again the connection is none of what is on the list, the splitter included
    intro hmem
    rcases JobList.mem_pushAll.mp hmem with hnil | hmem
    · cases hnil
    rcases List.mem_append.mp hmem with hmem | hmem
    · rcases List.mem_append.mp hmem with hmem | hmem
      · exact not_mem_of_builds hid hi hin hp hmem
      · obtain rfl : id = splitter := List.mem_singleton.mp hmem
        rw [hid] at hf
        cases hf
    · exact not_mem_of_builds hid ho hout hp hmem
  · rw [JobList.mem_pushAll]
    simp

/-- So is that of a branch of a combiner, which shares the output. -/
theorem LaysInput.plans (hp : a.HasHalves node pair) {output : SocketDecl} {branch : NetworkDecl}
    {portOut o combiner : ResourceId} {bytesPerFrame : UInt16}
    (h : a.LaysInput first d combiner (output.lead portOut none ++ [o]) branch e)
    (ho : a.Holds d .output output portOut o) (hout : output.Fits pair)
    (hf : a.get? combiner = some (.combiner ⟨o, bytesPerFrame⟩)) : e.Plans a pair := by
  obtain ⟨port, i, id, hi, hid, -, -, rfl⟩ := h
  have hin : (SocketDecl.network branch).Fits pair := trivial
  have hlist : output.lead portOut none ++ [o] ++ [port, combiner, i, id] =
      (output.lead portOut none ++ [o]) ++ [port, combiner, i] ++ [id] := by
    simp
  obtain ⟨origin, kind, -, hport⟩ := hi.stands
  have hordered := ho.respects hout hp (JobList.respects_empty (a.Needs pair))
  refine plans_of_push hp
    (l := JobList.empty.pushAll ((output.lead portOut none ++ [o]) ++ [port, combiner, i]))
    hid ?_ (JobList.nodup_pushAll _ List.nodup_nil) ?_ ?_ ?_ ?_ (hi.paired hin)
    (paired_fan hf rfl rfl (ho.paired hout))
  · rw [hlist, JobList.pushAll_append _ _ [id]]
    rfl
  · -- the combiner stands between the port and the socket of the branch
    rw [JobList.pushAll_append]
    have hafterPort : ((JobList.empty.pushAll (output.lead portOut none ++ [o])).push
        port).Respects (a.Needs pair) :=
      hordered.push fun x hx => absurd hx (not_needs_port hport)
    have hafterFan : (((JobList.empty.pushAll (output.lead portOut none ++ [o])).push
        port).push combiner).Respects (a.Needs pair) := by
      apply hafterPort.push
      intro x hx
      obtain rfl := eq_of_needs_fan hf rfl rfl hx
      exact JobList.mem_push.mpr (Or.inl (JobList.mem_pushAll.mpr (Or.inr (by simp))))
    apply hafterFan.push
    intro x hx
    obtain rfl := List.mem_singleton.mp ((hi.needs_iff hin x).mp hx)
    simp [JobList.mem_push]
  · intro x
    rw [builds_fan_iff hf rfl hp rfl, ho.builds_iff hout hp, hi.builds_iff hin hp,
      JobList.mem_pushAll]
    simp only [JobList.toList_empty, List.not_mem_nil, false_or, List.mem_append, List.mem_cons,
      SocketDecl.lead, Option.toList_none, or_false]
    tauto
  · -- the connection is no port, combiner or socket
    intro hmem
    rcases JobList.mem_pushAll.mp hmem with hnil | hmem
    · cases hnil
    rcases List.mem_append.mp hmem with hmem | hmem
    · exact not_mem_of_builds hid ho hout hp hmem
    · have hread := hi.read
      simp only [List.mem_cons, List.not_mem_nil, or_false] at hmem
      rcases hmem with rfl | rfl | rfl
      · rw [hid] at hport
        cases hport
      · rw [hid] at hf
        cases hf
      · rw [hid] at hread
        cases hread
  · rw [JobList.mem_pushAll]
    simp

/-- Every endpoint of a connection element has a build plan. -/
theorem Lays.plans {es : List Endpoint} (hl : a.Lays first d es) (hf : d.wiring.Fits pair)
    (hp : a.HasHalves node pair) (he : e ∈ es) : e.Plans a pair := by
  unfold Lays at hl
  split at hl
  · rename_i input output hw
    obtain ⟨e', hlays, rfl⟩ := hl
    obtain rfl := List.mem_singleton.mp he
    rw [hw] at hf
    exact hlays.plans hp hf.1 hf.2.1
  · rename_i input bytesPerFrame branches hw
    obtain ⟨port, socket, splitter, hs, hfan, -, -, hes⟩ := hl
    obtain ⟨branch, -, hlays⟩ := exists_of_forall₂ hes he
    rw [hw] at hf
    exact hlays.plans hp hs hf.1 hfan
  · rename_i bytesPerFrame branches output hw
    obtain ⟨port, socket, combiner, hs, hfan, -, -, hes⟩ := hl
    obtain ⟨branch, -, hlays⟩ := exists_of_forall₂ hes he
    rw [hw] at hf
    exact hlays.plans hp hs hf.1 hfan

end Arena

/-! ## Documents -/

/-- The stream slots of a node hold the two halves of one port. -/
theorem NodePorts.On.hasHalves {a : Arena} {node : UInt16} {p : PortPlan} {ports : NodePorts}
    (h : ports.On a node p) : a.HasHalves node ports.stream := by
  intro portA portB hpair
  obtain ⟨settings, -, hA, hB⟩ := h.stream portA portB hpair
  exact ⟨settings, hA, hB⟩

/-- **Build plans**: in the configuration of any document that compiles, the job list of every
    endpoint has what its connection reaches and the second half of the stream port of the
    endpoint's node if it reaches the first, nothing else and nothing twice, each resource after
    those it needs and the connection last. -/
theorem plans_of_compile {text : String} {c : Configuration} (h : compile text = .ok c) :
    ∀ e ∈ c.endpoints, ∃ n, c.node? e.node = some n ∧
      c.arena.HasHalves e.node n.ports.stream ∧ e.Plans c.arena n.ports.stream := by
  intro e he
  obtain ⟨plans, hg⟩ := graph_of_compile h
  obtain ⟨n, hn, p, first, d, es, hports, hnode, hfits, hlays, hmem⟩ := hg.origins e he
  have haddress : e.node = n.address := (hlays.typedAt hfits hmem).2.trans hnode
  refine ⟨n, ?_, ?_, hlays.plans hfits hports.hasHalves hmem⟩
  · rw [haddress]
    exact Keyed.find?_of_key hg.addresses hn
  · rw [haddress]
    exact hports.hasHalves

theorem plans_sampleDocument : ∃ c, compile sampleDocument = .ok c ∧ c.endpoints.length = 4 ∧
    ∀ e ∈ c.endpoints, ∃ n, c.node? e.node = some n ∧
      c.arena.HasHalves e.node n.ports.stream ∧ e.Plans c.arena n.ports.stream := by
  obtain ⟨c, hc, hcounts⟩ := compile_sampleDocument
  exact ⟨c, hc, congrArg Prod.fst hcounts, plans_of_compile hc⟩

end MediaNetwork

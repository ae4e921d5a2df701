/-
  The spec of the builder on one connection element.

  `Builder.Adds node p b b' es` is what a step for a connection of `node` keeps: the invariant, the
  frame, and that exactly the endpoints `es` were added.  Steps compose (`Adds.trans`), so the spec
  of a fan is an induction over its branches from the spec of one branch, and `connect_spec` is the
  case distinction over the three wirings.
-/
import MediaNetwork.Proofs.Graph.Joining
import MediaNetwork.Proofs.Graph.Layout

namespace MediaNetwork.Builder

/-! ## The frame of a connection element -/

/-- From `b` to `b'` the invariant is kept and the endpoints `es` are added. -/
structure Adds (node : UInt16) (p : PortPlan) (b b' : Builder) (es : List Endpoint) : Prop where
  sound : b'.Sound node p
  arena : b.arena.ExtendsTo b'.arena
  nodes : b'.nodes = b.nodes
  stream : b'.ports.stream = b.ports.stream
  endpoints : b'.endpoints.toList = b.endpoints.toList ++ es

theorem Quiet.adds {node : UInt16} {p : PortPlan} {b b' : Builder} (h : b.Quiet b')
    (hs : b'.Sound node p) : Adds node p b b' [] :=
  ⟨hs, h.arena, h.nodes, h.stream, by rw [h.endpoints, List.append_nil]⟩

/-- Steps add up, and so do the endpoints they add. -/
theorem Adds.trans {node : UInt16} {p : PortPlan} {b b' b'' : Builder} {es es' : List Endpoint}
    (h : Adds node p b b' es) (h' : Adds node p b' b'' es') :
    Adds node p b b'' (es ++ es') :=
  ⟨h'.sound, h.arena.trans h'.arena, h'.nodes.trans h.nodes, h'.stream.trans h.stream,
    by rw [h'.endpoints, h.endpoints, List.append_assoc]⟩

/-! ## Finishing a connection -/

section Finish

variable {p : PortPlan} (b : Builder) (d : ConnectionDecl) (jobs : JobList)
  (socketIn socketOut : ResourceId) (offset : Option UInt16) (kind : EndpointKind)
  (networkSocket : ResourceId)

@[simp] theorem arena_finish :
    (b.finish d jobs socketIn socketOut offset kind networkSocket).arena =
      b.arena.push (.connection ⟨socketIn, socketOut, d.style.kind offset⟩) := by
  simp only [finish, alloc]
  split <;> rfl

@[simp] theorem ports_finish :
    (b.finish d jobs socketIn socketOut offset kind networkSocket).ports = b.ports := by
  simp only [finish, alloc]
  split <;> rfl

@[simp] theorem nodes_finish :
    (b.finish d jobs socketIn socketOut offset kind networkSocket).nodes = b.nodes := by
  simp only [finish, alloc]
  split <;> rfl

@[simp] theorem endpoints_finish :
    (b.finish d jobs socketIn socketOut offset kind networkSocket).endpoints =
      b.endpoints.push
        ⟨kind, d.node, jobs.push b.arena.next, b.arena.next, networkSocket, d.link⟩ := by
  simp only [finish, alloc]
  split <;> rfl

/-- A connection with typed sides is created together with its endpoint. -/
theorem finish_adds (hs : b.Sound d.node p)
    (ht : Connection.TypedAt b.arena ⟨socketIn, socketOut, d.style.kind offset⟩) :
    Adds d.node p b (b.finish d jobs socketIn socketOut offset kind networkSocket)
      [⟨kind, d.node, jobs.push b.arena.next, b.arena.next, networkSocket, d.link⟩] := by
  refine ⟨⟨?_, ?_⟩, ?_, nodes_finish .., by rw [ports_finish], by simp⟩
  · rw [arena_finish]
    exact hs.typed.push (Arena.typedAt_connection ht)
  · rw [arena_finish, ports_finish]
    exact hs.ports.extend (Arena.ExtendsTo.push _ _)
  · rw [arena_finish]
    exact Arena.ExtendsTo.push _ _

end Finish

/-! ## Plain connections -/

variable {p : PortPlan} {b : Builder} {d : ConnectionDecl}

/-- Two sockets are the sides of a plain connection. -/
theorem typedAt_plain {a : Arena} {input output : SocketDecl} {portIn i portOut o : ResourceId}
    (hi : a.Holds d .input input portIn i) (ho : a.Holds d .output output portOut o)
    (offset : Option UInt16) : Connection.TypedAt a ⟨i, o, d.style.kind offset⟩ where
  input := Or.inl hi.isSocket
  output := Or.inl ho.isSocket
  oneFan := fun h => hi.not_isSplitter h.1
  behindSplitter := fun h => absurd h hi.not_isSplitter
  beforeCombiner := fun h => absurd h ho.not_isCombiner
  sides := ⟨d.node, by rw [d.style.dataType_kind]; exact hi.leadsTo,
    by rw [d.style.dataType_kind]; exact ho.leadsTo⟩

/-- **Connections without a fan** keep the invariant and add one endpoint, laid out behind all there
    was. -/
theorem connectPlain_spec (hs : b.Sound d.node p) {input output : SocketDecl}
    (hin : input.Fits b.ports.stream) (hout : output.Fits b.ports.stream) :
    ∃ e, Adds d.node p b (b.connectPlain d input output) [e] ∧
      (b.connectPlain d input output).arena.LaysPlain b.arena.size d input output e := by
  obtain ⟨portIn, i, b₁, heq₁, hs₁, hq₁, hi, hile⟩ :=
    addSocket_spec hs hin .input none JobList.empty
  rw [← hq₁.stream] at hout
  obtain ⟨portOut, o, b₂, heq₂, hs₂, hq₂, ho, hole⟩ :=
    addSocket_spec hs₁ hout .output none
      (JobList.empty.pushAll (input.lead portIn none ++ [i]))
  have hi₂ := hi.extend hq₂.arena
  have hsize₂ := hq₂.arena.size_le
  have hsize₁ := hq₁.arena.size_le
  have hjobs : ((JobList.empty.pushAll (input.lead portIn none ++ [i])).pushAll
      (output.lead portOut none ++ [o])).push b₂.arena.next =
      JobList.empty.pushAll
        (input.lead portIn none ++ i :: (output.lead portOut none ++ [o, b₂.arena.next])) := by
    simp [JobList.pushAll_append]
  -- The two branches of the definition differ in what the endpoint is only.
  have hplain : b.connectPlain d input output =
      b₂.finish d ((JobList.empty.pushAll (input.lead portIn none ++ [i])).pushAll
        (output.lead portOut none ++ [o])) i o
        (if output.isNetwork then output.offset? else input.offset?)
        (if output.isNetwork then .source else .sink) (if output.isNetwork then o else i) := by
    simp only [connectPlain, heq₁, heq₂]
    split <;> rfl
  rw [hplain]
  refine ⟨_, ((hq₁.adds hs₁).trans (hq₂.adds hs₂)).trans
    (finish_adds b₂ d _ i o _ _ _ hs₂ (typedAt_plain hi₂ ho _)), ?_⟩
  rw [arena_finish]
  have hpush := Arena.ExtendsTo.push b₂.arena (.connection ⟨i, o,
    d.style.kind (if output.isNetwork then output.offset? else input.offset?)⟩)
  refine ⟨portIn, i, portOut, o, b₂.arena.next, hi₂.extend hpush, ho.extend hpush,
    Arena.get?_push_next _ _, hile, ?_, ?_, ?_⟩
  · exact Nat.le_trans hsize₁ hole
  · exact Nat.le_trans hsize₁ hsize₂
  · rw [hjobs]

/-! ## Branches -/

/-- A splitter and a network socket are the sides of a branch. -/
theorem typedAt_output {a : Arena} {input : SocketDecl} {branch : NetworkDecl}
    {portIn i splitter portOut o : ResourceId} {bytesPerFrame : UInt16}
    (hi : a.Holds d .input input portIn i)
    (hf : a.get? splitter = some (.splitter ⟨i, bytesPerFrame⟩))
    (ho : a.Holds d .output (.network branch) portOut o) :
    Connection.TypedAt a ⟨splitter, o, d.style.kind branch.offset⟩ where
  input := Or.inr ⟨_, hf⟩
  output := Or.inl ho.isSocket
  oneFan := fun h => ho.not_isCombiner h.2
  behindSplitter := fun _ => ho.isNetwork rfl
  beforeCombiner := fun h => absurd h ho.not_isCombiner
  sides := ⟨d.node, by rw [d.style.dataType_kind]; exact hi.leadsTo_splitter hf,
    by rw [d.style.dataType_kind]; exact ho.leadsTo⟩

/-- A network socket and a combiner are the sides of a branch. -/
theorem typedAt_input {a : Arena} {output : SocketDecl} {branch : NetworkDecl}
    {portIn i combiner portOut o : ResourceId} {bytesPerFrame : UInt16}
    (ho : a.Holds d .output output portOut o)
    (hf : a.get? combiner = some (.combiner ⟨o, bytesPerFrame⟩))
    (hi : a.Holds d .input (.network branch) portIn i) :
    Connection.TypedAt a ⟨i, combiner, d.style.kind branch.offset⟩ where
  input := Or.inl hi.isSocket
  output := Or.inr ⟨_, hf⟩
  oneFan := fun h => hi.not_isSplitter h.1
  behindSplitter := fun h => absurd h hi.not_isSplitter
  beforeCombiner := fun _ => hi.isNetwork rfl
  sides := ⟨d.node, by rw [d.style.dataType_kind]; exact hi.leadsTo,
    by rw [d.style.dataType_kind]; exact ho.leadsTo_combiner hf⟩

/-- One branch behind a splitter. -/
theorem connectOutput_spec (hs : b.Sound d.node p) {input : SocketDecl}
    {portIn i splitter : ResourceId} {bytesPerFrame : UInt16}
    (hi : b.arena.Holds d .input input portIn i)
    (hf : b.arena.get? splitter = some (.splitter ⟨i, bytesPerFrame⟩))
    (shared : List ResourceId) (branch : NetworkDecl) :
    ∃ e, Adds d.node p b (connectOutput d splitter (JobList.empty.pushAll shared) b branch) [e] ∧
      (connectOutput d splitter (JobList.empty.pushAll shared) b branch).arena.LaysOutput
        b.arena.size d splitter shared branch e := by
  have hfits : (SocketDecl.network branch).Fits b.ports.stream := trivial
  obtain ⟨portOut, o, b₁, heq, hs₁, hq, ho, hole⟩ :=
    addSocket_spec hs hfits .output none (JobList.empty.pushAll shared)
  have ht := typedAt_output (hi.extend hq.arena) (hq.arena.get? hf) ho
  simp only [connectOutput, heq]
  refine ⟨_, (hq.adds hs₁).trans (finish_adds b₁ d _ splitter o _ _ _ hs₁ ht), ?_⟩
  rw [arena_finish]
  refine ⟨portOut, o, b₁.arena.next, ho.extend (Arena.ExtendsTo.push _ _),
    Arena.get?_push_next _ _, hole, hq.arena.size_le, ?_⟩
  simp [JobList.pushAll_append, SocketDecl.lead]

/-- One branch before a combiner. -/
theorem connectInput_spec (hs : b.Sound d.node p) {output : SocketDecl}
    {portOut o combiner : ResourceId} {bytesPerFrame : UInt16}
    (ho : b.arena.Holds d .output output portOut o)
    (hf : b.arena.get? combiner = some (.combiner ⟨o, bytesPerFrame⟩))
    (shared : List ResourceId) (branch : NetworkDecl) :
    ∃ e, Adds d.node p b (connectInput d combiner (JobList.empty.pushAll shared) b branch) [e] ∧
      (connectInput d combiner (JobList.empty.pushAll shared) b branch).arena.LaysInput
        b.arena.size d combiner shared branch e := by
  have hfits : (SocketDecl.network branch).Fits b.ports.stream := trivial
  obtain ⟨portIn, i, b₁, heq, hs₁, hq, hi, hile⟩ :=
    addSocket_spec hs hfits .input (some combiner) (JobList.empty.pushAll shared)
  have ht := typedAt_input (ho.extend hq.arena) (hq.arena.get? hf) hi
  simp only [connectInput, heq]
  refine ⟨_, (hq.adds hs₁).trans (finish_adds b₁ d _ i combiner _ _ _ hs₁ ht), ?_⟩
  rw [arena_finish]
  refine ⟨portIn, i, b₁.arena.next, hi.extend (Arena.ExtendsTo.push _ _),
    Arena.get?_push_next _ _, hile, hq.arena.size_le, ?_⟩
  simp [JobList.pushAll_append, SocketDecl.lead]

/-- The branches behind a splitter, by induction over them. -/
theorem foldl_connectOutput_spec (hs : b.Sound d.node p) {input : SocketDecl}
    {portIn i splitter : ResourceId} {bytesPerFrame : UInt16}
    (hi : b.arena.Holds d .input input portIn i)
    (hf : b.arena.get? splitter = some (.splitter ⟨i, bytesPerFrame⟩))
    (shared : List ResourceId) (branches : List NetworkDecl) :
    ∃ es, Adds d.node p b
        (branches.foldl (connectOutput d splitter (JobList.empty.pushAll shared)) b) es ∧
      List.Forall₂ ((branches.foldl (connectOutput d splitter (JobList.empty.pushAll shared))
        b).arena.LaysOutput b.arena.size d splitter shared) branches es := by
  induction branches generalizing b with
  | nil => exact ⟨[], (Quiet.refl b).adds hs, List.Forall₂.nil⟩
  | cons branch branches ih =>
    obtain ⟨e, hadd, hlay⟩ := connectOutput_spec hs hi hf shared branch
    obtain ⟨es, hadds, hlays⟩ := ih hadd.sound (hi.extend hadd.arena) (hadd.arena.get? hf)
    refine ⟨e :: es, hadd.trans hadds, List.Forall₂.cons ?_ ?_⟩
    · exact hlay.extend hadds.arena (Nat.le_refl _)
    · exact hlays.imp fun _ _ h => h.extend (Arena.ExtendsTo.refl _) hadd.arena.size_le

/-- The branches before a combiner, by induction over them. -/
theorem foldl_connectInput_spec (hs : b.Sound d.node p) {output : SocketDecl}
    {portOut o combiner : ResourceId} {bytesPerFrame : UInt16}
    (ho : b.arena.Holds d .output output portOut o)
    (hf : b.arena.get? combiner = some (.combiner ⟨o, bytesPerFrame⟩))
    (shared : List ResourceId) (branches : List NetworkDecl) :
    ∃ es, Adds d.node p b
        (branches.foldl (connectInput d combiner (JobList.empty.pushAll shared)) b) es ∧
      List.Forall₂ ((branches.foldl (connectInput d combiner (JobList.empty.pushAll shared))
        b).arena.LaysInput b.arena.size d combiner shared) branches es := by
  induction branches generalizing b with
  | nil => exact ⟨[], (Quiet.refl b).adds hs, List.Forall₂.nil⟩
  | cons branch branches ih =>
    obtain ⟨e, hadd, hlay⟩ := connectInput_spec hs ho hf shared branch
    obtain ⟨es, hadds, hlays⟩ := ih hadd.sound (ho.extend hadd.arena) (hadd.arena.get? hf)
    refine ⟨e :: es, hadd.trans hadds, List.Forall₂.cons ?_ ?_⟩
    · exact hlay.extend hadds.arena (Nat.le_refl _)
    · exact hlays.imp fun _ _ h => h.extend (Arena.ExtendsTo.refl _) hadd.arena.size_le

/-! ## Fans -/

/-- An input, a splitter and its branches. -/
theorem connectFanOut_spec (hs : b.Sound d.node p) {input : SocketDecl} {bytesPerFrame : UInt16}
    {branches : List NetworkDecl} (hw : d.wiring = .fanOut input bytesPerFrame branches)
    (hin : input.Fits b.ports.stream) :
    ∃ es, Adds d.node p b (b.connectFanOut d input bytesPerFrame branches) es ∧
      (b.connectFanOut d input bytesPerFrame branches).arena.Lays b.arena.size d es := by
  obtain ⟨portIn, i, b₁, heq, hs₁, hq, hi, hile⟩ := addSocket_spec hs hin .input none JobList.empty
  have hs₂ : (b₁.alloc (.splitter ⟨i, bytesPerFrame⟩)).2.Sound d.node p := by
    refine hs₁.alloc ⟨fun id hid => ?_, hi.isSocket⟩
    rw [List.mem_singleton.mp hid]
    exact Arena.lt_size_of_get? hi.read
  have hq₂ := hq.trans (quiet_alloc b₁ (.splitter ⟨i, bytesPerFrame⟩))
  -- All branches share the jobs up to the splitter.
  obtain ⟨es, hadds, hlays⟩ := foldl_connectOutput_spec hs₂
    (hi.extend (Arena.ExtendsTo.push _ _)) (Arena.get?_push_next _ _)
    (input.lead portIn none ++ [i, b₁.arena.next]) branches
  have hjobs : (JobList.empty.pushAll (input.lead portIn none ++ [i])).push b₁.arena.next =
      JobList.empty.pushAll (input.lead portIn none ++ [i, b₁.arena.next]) := by
    simp [JobList.pushAll_append]
  unfold Arena.Lays
  rw [hw]
  simp only [connectFanOut, heq, alloc, hjobs]
  refine ⟨es, (hq₂.adds hs₂).trans hadds, portIn, i, b₁.arena.next, ?_, ?_, hile,
    hq.arena.size_le, ?_⟩
  · exact (hi.extend (Arena.ExtendsTo.push _ _)).extend hadds.arena
  · exact hadds.arena.get? (Arena.get?_push_next _ _)
  · exact hlays.imp fun _ _ h => h.extend (Arena.ExtendsTo.refl _) hq₂.arena.size_le

/-- An output, a combiner and its branches. -/
theorem connectFanIn_spec (hs : b.Sound d.node p) {bytesPerFrame : UInt16}
    {branches : List NetworkDecl} {output : SocketDecl}
    (hw : d.wiring = .fanIn bytesPerFrame branches output) (hout : output.Fits b.ports.stream) :
    ∃ es, Adds d.node p b (b.connectFanIn d bytesPerFrame branches output) es ∧
      (b.connectFanIn d bytesPerFrame branches output).arena.Lays b.arena.size d es := by
  obtain ⟨portOut, o, b₁, heq, hs₁, hq, ho, hole⟩ :=
    addSocket_spec hs hout .output none JobList.empty
  have hs₂ : (b₁.alloc (.combiner ⟨o, bytesPerFrame⟩)).2.Sound d.node p := by
    refine hs₁.alloc ⟨fun id hid => ?_, ho.isSocket⟩
    rw [List.mem_singleton.mp hid]
    exact Arena.lt_size_of_get? ho.read
  have hq₂ := hq.trans (quiet_alloc b₁ (.combiner ⟨o, bytesPerFrame⟩))
  -- Here the branches share the jobs up to the output; each branch puts the combiner on its own.
  obtain ⟨es, hadds, hlays⟩ := foldl_connectInput_spec hs₂
    (ho.extend (Arena.ExtendsTo.push _ _)) (Arena.get?_push_next _ _)
    (output.lead portOut none ++ [o]) branches
  unfold Arena.Lays
  rw [hw]
  simp only [connectFanIn, heq, alloc]
  refine ⟨es, (hq₂.adds hs₂).trans hadds, portOut, o, b₁.arena.next, ?_, ?_, hole,
    hq.arena.size_le, ?_⟩
  · exact (ho.extend (Arena.ExtendsTo.push _ _)).extend hadds.arena
  · exact hadds.arena.get? (Arena.get?_push_next _ _)
  · exact hlays.imp fun _ _ h => h.extend (Arena.ExtendsTo.refl _) hq₂.arena.size_le

/-! ## Connection elements -/

/-- **What a connection element adds.**  The invariant is kept, nothing but the arena, the ports
    and the endpoints changes, and the arena holds what was declared. -/
theorem connect_spec (hs : b.Sound d.node p) (hf : d.wiring.Fits b.ports.stream) :
    ∃ es, Adds d.node p b (b.connect d) es ∧ (b.connect d).arena.Lays b.arena.size d es := by
  unfold connect
  cases hw : d.wiring with
  | plain input output =>
    rw [hw] at hf
    obtain ⟨e, hadds, hlays⟩ := connectPlain_spec hs hf.1 hf.2.1
    refine ⟨[e], hadds, ?_⟩
    unfold Arena.Lays
    rw [hw]
    exact ⟨e, hlays, rfl⟩
  | fanOut input bytesPerFrame branches =>
    rw [hw] at hf
    exact connectFanOut_spec hs hw hf.1
  | fanIn bytesPerFrame branches output =>
    rw [hw] at hf
    exact connectFanIn_spec hs hw hf.1

end MediaNetwork.Builder

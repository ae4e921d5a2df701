/-
  What a builder does, one creation at a time.

  Every operation of the builder is a run of six kinds of steps (`Builder.Step`).  Along with the
  builder, a step knows which sockets and fans wait to be held by a resource that is still to come:

  1. creating a port, filling a port slot and finishing a node leave them alone;
  2. a socket that is created waits;
  3. a fan takes up the only socket that waits, and waits in its place;
  4. a connection takes up the two resources that wait; if one is a fan, it may go on waiting, for
     the next branch.

  Between two connection elements nothing waits (`connect_steps`), so a finished graph is the end
  of a run from the empty builder, nothing waiting at either end (`Built.steps`).  What holds at
  the start and is kept by every step holds of it (`Steps.keeps`).
-/
import Mathlib.Logic.Relation
import MediaNetwork.Proofs.Graph.Built

namespace MediaNetwork.Builder

/-! ## Steps -/

/-- A builder at work: `waiting` are the sockets and fans that are created to be held and that
    their last holder has not taken up yet. -/
structure Bench where
  builder : Builder
  waiting : List ResourceId

/-- What a builder does in one go. -/
inductive Step : Bench → Bench → Prop
  | slots (b : Builder) (w : List ResourceId) (ports : NodePorts) :
      Step ⟨b, w⟩ ⟨{ b with ports := ports }, w⟩
  | node (b : Builder) (w : List ResourceId) (n : Node) :
      Step ⟨b, w⟩ ⟨{ b with nodes := b.nodes.push n }, w⟩
  | port (b : Builder) (w : List ResourceId) (p : Port) :
      Step ⟨b, w⟩ ⟨(b.alloc (.port p)).2, w⟩
  | socket {b : Builder} (w : List ResourceId) {s : Socket} {p : Port}
      (stands : b.arena.get? s.port = some (.port p)) :
      Step ⟨b, w⟩ ⟨(b.alloc (.socket s)).2, b.arena.next :: w⟩
  | fan (b : Builder) {id : ResourceId} {r : Resource} (isFan : r.isFan = true)
      (holds : r.handles = [id]) :
      Step ⟨b, [id]⟩ ⟨(b.alloc r).2, [b.arena.next]⟩
  | connection (b : Builder) (d : ConnectionDecl) (jobs : JobList) {i o : ResourceId}
      (offset : Option UInt16) (kind : EndpointKind) (networkSocket : ResourceId)
      {w rest : List ResourceId} (sides : w.Perm [i, o])
      (after : rest = [] ∨ ∃ fan r, rest = [fan] ∧ fan ∈ [i, o] ∧
        b.arena.get? fan = some r ∧ r.isFan = true) :
      Step ⟨b, w⟩ ⟨b.finish d jobs i o offset kind networkSocket, rest⟩

/-- A run of steps. -/
def Steps : Bench → Bench → Prop := Relation.ReflTransGen Step

theorem Step.run {x y : Bench} (h : Step x y) : Steps x y := Relation.ReflTransGen.single h

theorem Steps.refl (x : Bench) : Steps x x := Relation.ReflTransGen.refl

theorem Steps.trans {x y z : Bench} (h : Steps x y) (h' : Steps y z) : Steps x z :=
  Relation.ReflTransGen.trans h h'

/-- What every step keeps, a run keeps. -/
theorem Steps.keeps {P : Bench → Prop} (step : ∀ x y, P x → Step x y → P y) {x y : Bench}
    (h : Steps x y) (hx : P x) : P y := by
  induction h with
  | refl => exact hx
  | tail _ hstep ih => exact step _ _ ih hstep

/-! ## Ports -/

section Ports

variable (b : Builder) (w : List ResourceId) (node : UInt16)

/-- A port is created and put in its slot. -/
theorem alloc_port_steps (p : Port) (ports : NodePorts) :
    Steps ⟨b, w⟩ ⟨{ (b.alloc (.port p)).2 with ports := ports }, w⟩ :=
  (Step.port b w p).run.trans (Step.slots _ w ports).run

theorem portIn_steps (slot : Option ResourceId) (p : Port) (fill : ResourceId → NodePorts) :
    Steps ⟨b, w⟩ ⟨(b.portIn slot p fill).2, w⟩ := by
  cases slot with
  | some id => exact Steps.refl _
  | none => exact alloc_port_steps b w p _

theorem attach_steps (combiner : Option ResourceId) (jobs : JobList) (socket : SocketDecl) :
    Steps ⟨b, w⟩ ⟨(b.attach node combiner jobs socket).2.2, w⟩ := by
  cases socket with
  | network decl =>
    simp only [attach, networkPort_eq]
    cases combiner <;> exact portIn_steps b w _ _ _
  | usb endpointAddress framesPerTransaction =>
    simp only [attach, usbPort_eq]
    exact portIn_steps b w _ _ _
  | mediaLb channelAddress bandwidth =>
    simp only [attach, mediaLbPort_eq]
    exact portIn_steps b w _ _ _
  | stream ports pin bandwidth => exact Steps.refl _

/-- The declared ports of a node are created. -/
theorem declare_steps (plan : NodePlan) : Steps ⟨b, w⟩ ⟨b.declare plan, w⟩ := by
  have hmediaLb : ∀ b : Builder,
      Steps ⟨b, w⟩ ⟨b.withMediaLb plan.address plan.ports.mediaLb, w⟩ := by
    intro b
    cases plan.ports.mediaLb with
    | none => exact Steps.refl _
    | some clock => exact alloc_port_steps b w _ _
  have husb : ∀ b : Builder, Steps ⟨b, w⟩ ⟨b.withUsb plan.address plan.ports.usb, w⟩ := by
    intro b
    cases plan.ports.usb with
    | none => exact Steps.refl _
    | some settings => exact alloc_port_steps b w _ _
  have hstream : ∀ b : Builder, Steps ⟨b, w⟩ ⟨b.withStream plan.address plan.ports.stream, w⟩ := by
    intro b
    cases plan.ports.stream with
    | none => exact Steps.refl _
    | some settings => exact (Step.port b w _).run.trans (alloc_port_steps _ w _ _)
  refine (Step.slots b w NodePorts.absent).run.trans ?_
  exact ((hmediaLb _).trans (husb _)).trans (hstream _)

end Ports

/-! ## Sockets -/

variable {p : PortPlan} {b : Builder} {d : ConnectionDecl}

/-- A socket is created on its port, and waits. -/
theorem addSocket_steps (hs : b.Sound d.node p) {socket : SocketDecl}
    (hf : socket.Fits b.ports.stream) (direction : Direction) (combiner : Option ResourceId)
    (jobs : JobList) (w : List ResourceId) :
    Steps ⟨b, w⟩
      ⟨(b.addSocket d.node d.style.dataType direction combiner jobs socket).2.2,
        (b.addSocket d.node d.style.dataType direction combiner jobs socket).1 :: w⟩ := by
  have hattach := attach_steps b w d.node combiner jobs socket
  obtain ⟨port, b', heq, -, -, ⟨origin, kind, -, hport⟩, -⟩ := attach_spec hs hf combiner jobs
  rw [heq] at hattach
  simp only [addSocket, heq]
  exact hattach.trans (Step.socket w hport).run

/-! ## Connections -/

/-- A plain connection takes up its two sockets. -/
theorem connectPlain_steps (hs : b.Sound d.node p) {input output : SocketDecl}
    (hin : input.Fits b.ports.stream) (hout : output.Fits b.ports.stream) :
    Steps ⟨b, []⟩ ⟨b.connectPlain d input output, []⟩ := by
  have hfirst := addSocket_steps hs hin .input none JobList.empty []
  obtain ⟨portIn, i, b₁, heq₁, hs₁, hq₁, -⟩ := addSocket_spec hs hin .input none JobList.empty
  rw [← hq₁.stream] at hout
  have hsecond := addSocket_steps hs₁ hout .output none
    (JobList.empty.pushAll (input.lead portIn none ++ [i])) [i]
  obtain ⟨portOut, o, b₂, heq₂, -⟩ := addSocket_spec hs₁ hout .output none
    (JobList.empty.pushAll (input.lead portIn none ++ [i]))
  rw [heq₁] at hfirst
  rw [heq₂] at hsecond
  -- both wait, the output in front, since it came last
  have hsides : [o, i].Perm [i, o] := List.Perm.swap i o []
  refine hfirst.trans (hsecond.trans (Step.run ?_))
  simp only [connectPlain, heq₁, heq₂]
  split
  · exact Step.connection b₂ d _ _ _ _ hsides (Or.inl rfl)
  · exact Step.connection b₂ d _ _ _ _ hsides (Or.inl rfl)

/-- What is known of a builder while the branches of a splitter are created. -/
def Splits (d : ConnectionDecl) (p : PortPlan) (splitter : ResourceId) (b : Builder) : Prop :=
  b.Sound d.node p ∧ ∃ input portIn i bytesPerFrame, b.arena.Holds d .input input portIn i ∧
    b.arena.get? splitter = some (.splitter ⟨i, bytesPerFrame⟩)

/-- What is known of a builder while the branches of a combiner are created. -/
def Combines (d : ConnectionDecl) (p : PortPlan) (combiner : ResourceId) (b : Builder) : Prop :=
  b.Sound d.node p ∧ ∃ output portOut o bytesPerFrame, b.arena.Holds d .output output portOut o ∧
    b.arena.get? combiner = some (.combiner ⟨o, bytesPerFrame⟩)

/-- A branch behind a splitter takes up its socket; the splitter may go on waiting. -/
theorem connectOutput_steps {splitter : ResourceId} (hs : b.Splits d p splitter)
    (shared : List ResourceId) (branch : NetworkDecl) {rest : List ResourceId}
    (hrest : rest = [] ∨ rest = [splitter]) :
    Splits d p splitter (connectOutput d splitter (JobList.empty.pushAll shared) b branch) ∧
      Steps ⟨b, [splitter]⟩
        ⟨connectOutput d splitter (JobList.empty.pushAll shared) b branch, rest⟩ := by
  obtain ⟨hsound, input, portIn, i, bytesPerFrame, hi, hf⟩ := hs
  obtain ⟨e, hadds, -⟩ := connectOutput_spec hsound hi hf shared branch
  refine ⟨⟨hadds.sound, input, portIn, i, bytesPerFrame, hi.extend hadds.arena,
    hadds.arena.get? hf⟩, ?_⟩
  have hfits : (SocketDecl.network branch).Fits b.ports.stream := trivial
  have hsocket := addSocket_steps hsound hfits .output none (JobList.empty.pushAll shared)
    [splitter]
  obtain ⟨portOut, o, b₁, heq, -, hq, -⟩ :=
    addSocket_spec hsound hfits .output none (JobList.empty.pushAll shared)
  rw [heq] at hsocket
  simp only [connectOutput, heq]
  -- the socket waits in front of the splitter and is taken up as the other side
  refine hsocket.trans (Step.connection b₁ d _ _ _ _ (List.Perm.swap splitter o []) ?_).run
  exact hrest.imp_right fun h => ⟨splitter, _, h, by simp, hq.arena.get? hf, rfl⟩

/-- A branch before a combiner takes up its socket; the combiner may go on waiting. -/
theorem connectInput_steps {combiner : ResourceId} (hs : b.Combines d p combiner)
    (shared : List ResourceId) (branch : NetworkDecl) {rest : List ResourceId}
    (hrest : rest = [] ∨ rest = [combiner]) :
    Combines d p combiner (connectInput d combiner (JobList.empty.pushAll shared) b branch) ∧
      Steps ⟨b, [combiner]⟩
        ⟨connectInput d combiner (JobList.empty.pushAll shared) b branch, rest⟩ := by
  obtain ⟨hsound, output, portOut, o, bytesPerFrame, ho, hf⟩ := hs
  obtain ⟨e, hadds, -⟩ := connectInput_spec hsound ho hf shared branch
  refine ⟨⟨hadds.sound, output, portOut, o, bytesPerFrame, ho.extend hadds.arena,
    hadds.arena.get? hf⟩, ?_⟩
  have hfits : (SocketDecl.network branch).Fits b.ports.stream := trivial
  have hsocket := addSocket_steps hsound hfits .input (some combiner)
    (JobList.empty.pushAll shared) [combiner]
  obtain ⟨portIn, i, b₁, heq, -, hq, -⟩ :=
    addSocket_spec hsound hfits .input (some combiner) (JobList.empty.pushAll shared)
  rw [heq] at hsocket
  simp only [connectInput, heq]
  refine hsocket.trans (Step.connection b₁ d _ _ _ _ (List.Perm.refl _) ?_).run
  exact hrest.imp_right fun h => ⟨combiner, _, h, by simp, hq.arena.get? hf, rfl⟩

/-- The branches of a fan: it goes on waiting after each of them but the last.  The induction is
    over the branches behind the first. -/
theorem foldl_branch_steps (Known : Builder → Prop) {fan : ResourceId}
    {create : Builder → NetworkDecl → Builder}
    (step : ∀ b branch rest, Known b → rest = [] ∨ rest = [fan] →
      Known (create b branch) ∧ Steps ⟨b, [fan]⟩ ⟨create b branch, rest⟩)
    (hb : Known b) {branches : List NetworkDecl} (hne : branches ≠ []) :
    Steps ⟨b, [fan]⟩ ⟨branches.foldl create b, []⟩ := by
  obtain ⟨branch, more, rfl⟩ := List.exists_cons_of_ne_nil hne
  clear hne
  induction more generalizing b branch with
  | nil => exact (step b branch [] hb (Or.inl rfl)).2
  | cons next more ih =>
    obtain ⟨hknown, hrun⟩ := step b branch [fan] hb (Or.inr rfl)
    exact hrun.trans (ih hknown next)

/-- A splitter takes up its input, and its branches take it up. -/
theorem connectFanOut_steps (hs : b.Sound d.node p) {input : SocketDecl} {bytesPerFrame : UInt16}
    {branches : List NetworkDecl} (hin : input.Fits b.ports.stream) (hne : branches ≠ []) :
    Steps ⟨b, []⟩ ⟨b.connectFanOut d input bytesPerFrame branches, []⟩ := by
  have hsocket := addSocket_steps hs hin .input none JobList.empty []
  obtain ⟨portIn, i, b₁, heq, hs₁, hq, hi, -⟩ := addSocket_spec hs hin .input none JobList.empty
  rw [heq] at hsocket
  have hknown : (b₁.alloc (.splitter ⟨i, bytesPerFrame⟩)).2.Splits d p b₁.arena.next := by
    refine ⟨hs₁.alloc ⟨fun id hid => ?_, hi.isSocket⟩, input, portIn, i, bytesPerFrame,
      hi.extend (Arena.ExtendsTo.push _ _), Arena.get?_push_next _ _⟩
    rw [List.mem_singleton.mp hid]
    exact Arena.lt_size_of_get? hi.read
  have hfan : Step ⟨b₁, [i]⟩
      ⟨(b₁.alloc (.splitter ⟨i, bytesPerFrame⟩)).2, [b₁.arena.next]⟩ := Step.fan b₁ rfl rfl
  have hjobs : (JobList.empty.pushAll (input.lead portIn none ++ [i])).push b₁.arena.next =
      JobList.empty.pushAll (input.lead portIn none ++ [i, b₁.arena.next]) := by
    simp [JobList.pushAll_append]
  simp only [connectFanOut, heq, alloc, hjobs]
  refine hsocket.trans (hfan.run.trans ?_)
  exact foldl_branch_steps (Splits d p b₁.arena.next)
    (fun _ branch _ hb hrest => connectOutput_steps hb _ branch hrest) hknown hne

/-- A combiner takes up its output, and its branches take it up. -/
theorem connectFanIn_steps (hs : b.Sound d.node p) {bytesPerFrame : UInt16}
    {branches : List NetworkDecl} {output : SocketDecl} (hout : output.Fits b.ports.stream)
    (hne : branches ≠ []) :
    Steps ⟨b, []⟩ ⟨b.connectFanIn d bytesPerFrame branches output, []⟩ := by
  have hsocket := addSocket_steps hs hout .output none JobList.empty []
  obtain ⟨portOut, o, b₁, heq, hs₁, hq, ho, -⟩ :=
    addSocket_spec hs hout .output none JobList.empty
  rw [heq] at hsocket
  have hknown : (b₁.alloc (.combiner ⟨o, bytesPerFrame⟩)).2.Combines d p b₁.arena.next := by
    refine ⟨hs₁.alloc ⟨fun id hid => ?_, ho.isSocket⟩, output, portOut, o, bytesPerFrame,
      ho.extend (Arena.ExtendsTo.push _ _), Arena.get?_push_next _ _⟩
    rw [List.mem_singleton.mp hid]
    exact Arena.lt_size_of_get? ho.read
  have hfan : Step ⟨b₁, [o]⟩
      ⟨(b₁.alloc (.combiner ⟨o, bytesPerFrame⟩)).2, [b₁.arena.next]⟩ := Step.fan b₁ rfl rfl
  simp only [connectFanIn, heq, alloc]
  refine hsocket.trans (hfan.run.trans ?_)
  exact foldl_branch_steps (Combines d p b₁.arena.next)
    (fun _ branch _ hb hrest => connectInput_steps hb _ branch hrest) hknown hne

/-- **A connection element** is a run after which nothing waits. -/
theorem connect_steps (hs : b.Sound d.node p) (hf : d.wiring.Fits b.ports.stream) :
    Steps ⟨b, []⟩ ⟨b.connect d, []⟩ := by
  unfold connect
  cases hw : d.wiring with
  | plain input output =>
    rw [hw] at hf
    exact connectPlain_steps hs hf.1 hf.2.1
  | fanOut input bytesPerFrame branches =>
    rw [hw] at hf
    exact connectFanOut_steps hs hf.1 hf.2
  | fanIn bytesPerFrame branches output =>
    rw [hw] at hf
    exact connectFanIn_steps hs hf.1 hf.2

/-! ## Nodes -/

/-- The connections of a node, one after the other. -/
theorem foldl_connect_steps {node : UInt16} {ds : List ConnectionDecl} (hs : b.Sound node p)
    (ha : b.AcceptsAll node ds) : Steps ⟨b, []⟩ ⟨ds.foldl connect b, []⟩ := by
  induction ds generalizing b with
  | nil => exact Steps.refl _
  | cons d ds ih =>
    obtain ⟨⟨rfl, hfits, -⟩, hrest⟩ := ha
    obtain ⟨es, hadds, -⟩ := connect_spec hs hfits
    exact (connect_steps hs hfits).trans (ih hadds.sound hrest)

/-- **A graph** that is built from plans is a run from the empty builder. -/
theorem Built.steps {plans : List NodePlan} (h : Built plans b) :
    Steps ⟨Builder.empty, []⟩ ⟨b, []⟩ := by
  induction h with
  | empty => exact Steps.refl _
  | @node plans b plan before welcome ih =>
    obtain ⟨hs, -⟩ := declare_spec before.graph.typed plan
    refine ih.trans ((declare_steps b [] plan).trans ?_)
    exact (foldl_connect_steps hs welcome.2).trans (Step.node _ _ _).run

end MediaNetwork.Builder

/-
  Connection elements of a document.

  A connection element is taken in behind others: those of the nodes before, and those before it in
  its own node.  `Builder.upTo` is the builder at that point of a run, and what counts there of all
  that came before is known from the elements (`upTo_spec`): the links that are taken are those of
  the connection elements before, and there is a stream port if the node declares one.  A step takes
  in a child of a node or of the root; the run is an induction over the children.

  So the grammar of a connection element (`connection_grammar`) speaks of nothing but elements, and
  in a document that is built every connection element is met by such a run
  (`exists_upTo_of_buildNodes`).
-/
import MediaNetwork.Compile
import MediaNetwork.Proofs.Connection.Grammar
import MediaNetwork.Proofs.Port.Asked

namespace MediaNetwork

open MediaNetwork.Markup MediaNetwork.Outcome

/-- The connection elements of the nodes among these children of the root, in order. -/
def connectionElements (es : List Element) : List Element :=
  es.flatMap fun e =>
    if e.name = Schema.node then e.children.filter Builder.isConnection else []

namespace Builder

/-- The run up to a child of the node element `n`: the children `before` of the root are taken in,
    the ports of the node are declared, and its children `earlier` are taken in.  Gives the address
    of the node, too. -/
def upTo (before : List Element) (n : Element) (earlier : List Element) :
    Except CompileError (UInt16 × Builder) := do
  let b ← before.foldlM addRootChild Builder.empty
  let address ← b.claimAddress n
  let b ← { b with ports := NodePorts.absent }.declarePorts address n
  let b ← earlier.foldlM (addNodeChild address) b
  return (address, b)

/-! ## Links -/

/-- The links that are taken are those of these connection elements. -/
def Linked (es : List Element) (b : Builder) : Prop :=
  ∀ link, b.hasLink (some link) = true ↔ ∃ e ∈ es, e.attribute? Schema.link = some link

theorem linked_empty : Linked [] Builder.empty := by
  intro link
  simp [hasLink, Builder.empty]

/-- Only the links that are recorded count. -/
theorem Linked.congr {es : List Element} {b b' : Builder} (h : Linked es b)
    (hlinks : b'.links = b.links) : Linked es b' := by
  intro link
  unfold hasLink
  rw [hlinks]
  exact h link

/-- A link is free if no connection element before has it. -/
theorem Linked.free_iff {es : List Element} {b : Builder} (h : Linked es b) (e : Element) :
    b.hasLink (e.attribute? Schema.link) = false ↔ ∀ c ∈ es, ∀ link,
      c.attribute? Schema.link = some link → e.attribute? Schema.link ≠ some link := by
  cases hlink : e.attribute? Schema.link with
  | none => simp [hasLink]
  | some link =>
    rw [← Bool.not_eq_true, h link]
    constructor
    · rintro hfree c hc link' hlink' heq
      cases heq
      exact hfree ⟨c, hc, hlink'⟩
    · rintro hfree ⟨c, hc, hlink'⟩
      exact hfree c hc link hlink' rfl

/-- A connection element adds its link: it has an endpoint, and each of its endpoints has it. -/
theorem Linked.addConnection {es : List Element} {b b' : Builder} {node : UInt16}
    {style : ConnectionStyle} {e : Element} (hb : Linked es b)
    (h : b.addConnection node style e = .ok b') : Linked (es ++ [e]) b' := by
  obtain ⟨side, facing, ends, hwired, hyields, hends⟩ := serves_addConnection h
  have hown : ∀ link,
      (∃ en ∈ ends, en.link = some link) ↔ e.attribute? Schema.link = some link := by
    intro link
    constructor
    · rintro ⟨en, hen, hlink⟩
      obtain ⟨s, -, hmade⟩ := exists_of_forall₂ hends hen
      rw [← hmade.link, hlink]
    · intro hlink
      obtain ⟨s, hs⟩ := List.exists_mem_of_ne_nil _ hwired.ne_nil
      obtain ⟨en, hen, hmade⟩ := exists_of_forall₂ hends.flip hs
      exact ⟨en, hen, hmade.link.trans hlink⟩
  intro link
  rw [hyields.links, hb link, hown]
  simp [or_and_right, exists_or]

/-! ## Children of a node -/

/-- What the next child of a node keeps. -/
theorem addNodeChild_keeps {node : UInt16} {es : List Element}
    {stream : Option (ResourceId × ResourceId)} {b b' : Builder} {e : Element}
    (hb : Linked es b ∧ b.ports.stream = stream) (h : addNodeChild node b e = .ok b') :
    Linked (es ++ [e].filter isConnection) b' ∧ b'.ports.stream = stream := by
  unfold addNodeChild at h
  split at h
  · rename_i hport
    cases h
    rw [List.filter_cons_of_neg (by simp [isConnection_of_isPort hport]), List.filter_nil,
      List.append_nil]
    exact hb
  · split at h
    · rename_i hstyle
      obtain ⟨style, -, h⟩ := bind_eq_ok.mp h
      obtain ⟨_, _, _, _, hyields, -⟩ := serves_addConnection h
      rw [List.filter_cons_of_pos (isConnection_iff.mpr ⟨_, hstyle⟩), List.filter_nil]
      exact ⟨hb.1.addConnection h, hyields.stream.trans hb.2⟩
    · nomatch h

/-- All children, one after the other. -/
theorem foldlM_addNodeChild_keeps {node : UInt16} {es : List Element}
    {stream : Option (ResourceId × ResourceId)} {b b' : Builder} {children : List Element}
    (hb : Linked es b ∧ b.ports.stream = stream)
    (h : children.foldlM (addNodeChild node) b = .ok b') :
    Linked (es ++ children.filter isConnection) b' ∧ b'.ports.stream = stream := by
  have hall := foldlM_collects (I := fun es b => Linked es b ∧ b.ports.stream = stream)
    (f := addNodeChild node) (fun _ _ _ _ hb h => addNodeChild_keeps hb h) hb h
  rwa [← List.filter_flatMap, List.flatMap_singleton'] at hall

/-! ## Nodes -/

/-- Once its ports are declared, a node has a stream port if its element declares one. -/
theorem declarePorts_keeps {es : List Element} {b b' : Builder} {address : UInt16} {n : Element}
    (hb : Linked es b)
    (h : ({ b with ports := NodePorts.absent } : Builder).declarePorts address n = .ok b') :
    Linked es b' ∧ (b'.ports.stream ≠ none ↔ n.childrenNamed Schema.streamPort ≠ []) := by
  obtain ⟨ports, -, -, hstream, hdeclare⟩ := declarePorts_plan h
  obtain rfl := hdeclare none []
  refine ⟨hb.congr (links_declare b _), ?_⟩
  obtain ⟨first, hfirst⟩ := b.stream_declare ⟨address, none, ports, []⟩
  rw [hfirst]
  generalize ports.stream = settings? at hstream ⊢
  cases declaredBy_readStream hstream with
  | absent missing => simp [missing]
  | present only reads => simp [only]

/-- What the next child of the root keeps. -/
theorem Linked.addRootChild {es : List Element} {b b' : Builder} {e : Element} (hb : Linked es b)
    (h : b.addRootChild e = .ok b') :
    Linked (es ++ if e.name = Schema.node then e.children.filter isConnection else []) b' := by
  unfold Builder.addRootChild at h
  split at h
  · rename_i hname
    rw [if_pos hname]
    obtain ⟨address, -, h⟩ := bind_eq_ok.mp h
    obtain ⟨b₁, hb₁, h⟩ := bind_eq_ok.mp h
    obtain ⟨b₂, hb₂, h⟩ := bind_eq_ok.mp h
    cases h
    obtain ⟨hlinked, -⟩ := declarePorts_keeps hb hb₁
    exact (foldlM_addNodeChild_keeps ⟨hlinked, rfl⟩ hb₂).1.congr rfl
  · rename_i hname
    rw [if_neg hname, List.append_nil]
    split at h
    · cases h
      exact hb
    · nomatch h

/-- **The run**: what is known of everything before a child of a node. -/
theorem upTo_spec {before : List Element} {n : Element} {earlier : List Element}
    {address : UInt16} {b : Builder} (h : upTo before n earlier = .ok (address, b)) :
    Linked (connectionElements before ++ earlier.filter isConnection) b ∧
      (b.ports.stream ≠ none ↔ n.childrenNamed Schema.streamPort ≠ []) := by
  obtain ⟨b₀, hb₀, h⟩ := bind_eq_ok.mp h
  obtain ⟨address', -, h⟩ := bind_eq_ok.mp h
  obtain ⟨b₁, hb₁, h⟩ := bind_eq_ok.mp h
  obtain ⟨b₂, hb₂, h⟩ := bind_eq_ok.mp h
  cases h
  have hbefore : Linked (connectionElements before) b₀ :=
    foldlM_collects (I := Linked) (f := addRootChild) (fun _ _ _ _ hb h => hb.addRootChild h)
      linked_empty hb₀
  obtain ⟨hlinked, hstream⟩ := declarePorts_keeps hbefore hb₁
  obtain ⟨hlinked₂, hstream₂⟩ := foldlM_addNodeChild_keeps ⟨hlinked, rfl⟩ hb₂
  exact ⟨hlinked₂, by rw [hstream₂, hstream]⟩

/-- In a document that is built, every connection element was taken in behind such a run. -/
theorem exists_upTo_of_buildNodes {root : Element} {b : Builder} (h : buildNodes root = .ok b)
    {before after : List Element} {n : Element} (hroot : root.children = before ++ n :: after)
    (hname : n.name = Schema.node) {earlier later : List Element} {e : Element}
    (hn : n.children = earlier ++ e :: later) (he : isConnection e = true) :
    ∃ address b₀ style, upTo before n earlier = .ok (address, b₀) ∧
      ConnectionStyle.ofElement? e = some (.ok style) ∧
      Succeeds (b₀.addConnection address style e) := by
  unfold buildNodes at h
  rw [hroot, List.foldlM_append] at h
  -- the loop over the root's children comes to the node, and that over its children to `e`
  obtain ⟨b₁, hb₁, h⟩ := bind_eq_ok.mp h
  rw [List.foldlM_cons, addRootChild, if_pos hname] at h
  obtain ⟨_, h, -⟩ := bind_eq_ok.mp h
  obtain ⟨address, haddress, h⟩ := bind_eq_ok.mp h
  obtain ⟨b₂, hb₂, h⟩ := bind_eq_ok.mp h
  obtain ⟨_, h, -⟩ := bind_eq_ok.mp h
  rw [hn, List.foldlM_append] at h
  obtain ⟨b₀, hb₀, h⟩ := bind_eq_ok.mp h
  rw [List.foldlM_cons] at h
  obtain ⟨b₃, hb₃, -⟩ := bind_eq_ok.mp h
  have hport : ¬ isPort e = true := by
    intro hport
    rw [isConnection_of_isPort hport] at he
    exact Bool.false_ne_true he
  obtain ⟨read, hread⟩ := isConnection_iff.mp he
  unfold addNodeChild at hb₃
  rw [if_neg hport, hread] at hb₃
  obtain ⟨style, rfl, hb₃⟩ := bind_eq_ok.mp hb₃
  refine ⟨address, b₀, style, ?_, hread, b₃, hb₃⟩
  rw [upTo, hb₁, ok_bind, haddress, ok_bind, hb₂, ok_bind, hb₀]
  rfl

end Builder

/-! ## The grammar -/

/-- **The grammar of a connection**: behind any others, a connection element is taken in exactly if
    it has a shape, its children are valid and no connection element before has its link.  It then
    adds one endpoint for each network socket that faces the network, in order. -/
theorem connection_grammar {before : List Element} {n : Element} {earlier : List Element}
    {address : UInt16} {b : Builder} (h : Builder.upTo before n earlier = .ok (address, b))
    (style : ConnectionStyle) (e : Element) :
    (Succeeds (b.addConnection address style e) ↔
      (∃ side sockets, e.Wired side sockets) ∧
      (∀ c ∈ e.children, ChildValid style (n.childrenNamed Schema.streamPort ≠ []) c) ∧
      ∀ c ∈ connectionElements before ++ earlier.filter Builder.isConnection, ∀ link,
        c.attribute? Schema.link = some link → e.attribute? Schema.link ≠ some link) ∧
    ∀ b', b.addConnection address style e = .ok b' → ∃ side sockets es, e.Wired side sockets ∧
      b'.endpoints.toList = b.endpoints.toList ++ es ∧
      List.Forall₂ (Endpoint.MadeFor b'.arena address style e side) sockets es := by
  obtain ⟨hlinked, hstream⟩ := Builder.upTo_spec h
  constructor
  · rw [Builder.succeeds_addConnection, hlinked.free_iff, hstream]
  · intro b' hb'
    obtain ⟨side, sockets, es, hwired, hyields, hes⟩ := Builder.serves_addConnection hb'
    exact ⟨side, sockets, es, hwired, hyields.endpoints, hes⟩

/-- A connection with a link. -/
def linkedConnection : Element :=
  ⟨"AVPConnection", [("Link", "l")], [
    ⟨"NetworkSocket", [("Bandwidth", "4"), ("Route", "a")], [], 4⟩,
    ⟨"USBSocket", [("EndpointAddress", "0x81"), ("FramesPerTransaction", "2")], [], 5⟩], 3⟩

/-- A node with a stream port and that connection. -/
def linkedNode : Element :=
  ⟨"Node", [("Address", "512")], [
    ⟨"StreamPort", [("ClockConfig", "64Fs"), ("DataAlignment", "Seq")], [], 2⟩,
    linkedConnection], 1⟩

/-- The two branches of a splitter, the second with an offset. -/
def splitBranches : List Element :=
  [⟨"NetworkSocket", [("Bandwidth", "4"), ("Route", "a"), ("Offset", "0")], [], 9⟩,
    ⟨"NetworkSocket", [("Bandwidth", "4"), ("Route", "b"), ("Offset", "9")], [], 10⟩]

/-- A connection with a splitter. -/
def splitConnection (link : String) : Element :=
  ⟨"SyncConnection", [("Link", link)], [
    ⟨"StreamSocket", [("StreamPinID", "SRXA0"), ("Bandwidth", "4")], [], 7⟩,
    ⟨"Splitter", [("BytesPerFrame", "4")], splitBranches, 8⟩], 6⟩

theorem wired_splitConnection (link : String) :
    (splitConnection link).Wired .source splitBranches := by
  have hfan : Element.IsFanNamed Schema.splitter
      ⟨"Splitter", [("BytesPerFrame", "4")], splitBranches, 8⟩ := by
    refine ⟨rfl, ?_, ?_⟩ <;> decide
  exact .fanOut rfl (by decide) hfan

/-- Behind a connection with the link `l`, a splitter with another link has an endpoint for each of
    its branches; one with the same link is refused. -/
theorem connection_grammar_splitConnection : ∃ address b b' es,
    Builder.upTo [] linkedNode linkedNode.children = .ok (address, b) ∧
    b.addConnection address (.sync .noMuting) (splitConnection "m") = .ok b' ∧
    b'.endpoints.toList = b.endpoints.toList ++ es ∧
    List.Forall₂ (Endpoint.MadeFor b'.arena address (.sync .noMuting) (splitConnection "m") .source)
      splitBranches es ∧
    ¬ Succeeds (b.addConnection address (.sync .noMuting) (splitConnection "l")) := by
  have hrun : (Builder.upTo [] linkedNode linkedNode.children >>= fun run =>
      (run.2.addConnection run.1 (.sync .noMuting) (splitConnection "m")).map
        fun b' => b'.endpoints.size) = .ok 3 := by
    decide +kernel
  obtain ⟨⟨address, b⟩, hb, hrun⟩ := bind_eq_ok.mp hrun
  obtain ⟨b', hb', -⟩ := map_eq_ok.mp hrun
  obtain ⟨side, sockets, es, hwired, hends, hes⟩ := (connection_grammar hb _ _).2 b' hb'
  obtain ⟨rfl, rfl⟩ := hwired.unique (wired_splitConnection "m")
  refine ⟨address, b, b', es, hb, hb', hends, hes, fun hagain => ?_⟩
  obtain ⟨-, -, hfree⟩ := (connection_grammar hb _ _).1.mp hagain
  have hbefore : connectionElements [] ++ linkedNode.children.filter Builder.isConnection =
      [linkedConnection] := rfl
  rw [hbefore] at hfree
  exact hfree linkedConnection List.mem_cons_self "l" rfl rfl

end MediaNetwork

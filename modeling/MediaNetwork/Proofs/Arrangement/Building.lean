/-
  Similar elements are built alike.

  The builder takes in a node element child by child.  Over a similar element it does the same, as
  far as it can be seen: the builders stay alike, that is, they differ in the lines of their links
  at most, or they stop at errors that differ in their lines at most.

  1. Ports and connections — `agree_addNodeChild` is the step, and `agree_addNode` the loop over the
     children of a node.
  2. Roots — two roots whose children are built alike (`BuiltAlike`) compile to the same
     configuration, or both do not compile (`agree_compileElement`).  What is known of their errors
     is as much as is known of those of the nodes; all other errors differ in their lines at most.

  Documents that are the same but for their lines have similar children at every depth, so they are
  compiled alike (`concur_compileElement`).
-/
import MediaNetwork.Compile
import MediaNetwork.Proofs.Arrangement.Reading
import MediaNetwork.Proofs.Print.Nodes

namespace MediaNetwork

open MediaNetwork.Markup MediaNetwork.Markup.Element MediaNetwork.Outcome

namespace Builder

/-! ## Connections -/

section Joining

variable {b b' : Builder} (h : b.Alike b')

include h

/-- Which of two builders comes first does not matter. -/
theorem Alike.symm : b'.Alike b :=
  ⟨h.arena.symm, h.ports.symm, h.nodes.symm, h.endpoints.symm, h.links.symm⟩

theorem Alike.trans {c : Builder} (h' : b'.Alike c) : b.Alike c where
  arena := h'.arena.trans h.arena
  ports := h'.ports.trans h.ports
  nodes := h'.nodes.trans h.nodes
  endpoints := h'.endpoints.trans h.endpoints
  links := h'.links.trans h.links

/-- The line of a connection element is kept beside its link and nowhere else. -/
theorem Alike.connect_line (d : ConnectionDecl) (line : Nat) :
    (b.connect d).Alike (b'.connect { d with line := line }) := by
  -- Printed and read back, the two declarations are the same one.
  have hfirst : (b.connect d).Alike (b'.connect (d.reprinted 0)) := connect_alike h d 0
  have hsecond : (b'.connect { d with line := line }).Alike (b'.connect (d.reprinted 0)) :=
    connect_alike (Alike.refl b') { d with line := line } 0
  exact hfirst.trans hsecond.symm

/-- **Connections**: a declaration on another line is joined alike. -/
theorem agree_join {d d' : ConnectionDecl} (hd : d.SameButLine d') :
    Agree CompileError.SameButLine Alike (b.join d) (b'.join d') := by
  have hconnect : (b.connect d).Alike (b'.connect d') := by
    rw [hd]
    exact h.connect_line d d'.line
  have hwiring : d'.wiring = d.wiring := by rw [hd]
  unfold join
  unfold connect at hconnect
  rw [hwiring] at hconnect ⊢
  cases hw : d.wiring with
  | plain input output =>
    rw [hw] at hconnect
    have hcheck : Concur (b.checkLink d) (b'.checkLink d') := by
      unfold checkLink
      rw [hasLink_alike h, hd]
      split
      · exact .error rfl
      · exact .ok rfl
    simp only [joinPlain_eq]
    split
    · exact hcheck.map fun _ => hconnect
    · rw [hd]
      exact .error rfl
  | fanOut input bytesPerFrame branches =>
    rw [hw] at hconnect
    simp only [joinFanOut_eq]
    exact .ok hconnect
  | fanIn bytesPerFrame branches output =>
    rw [hw] at hconnect
    simp only [joinFanIn_eq]
    exact .ok hconnect

end Joining

/-- The elements of connections are not those of nodes. -/
theorem name_ne_node {e : Element} {style : Except CompileError ConnectionStyle}
    (h : ConnectionStyle.ofElement? e = some style) : e.name ≠ Schema.node := by
  intro hname
  unfold ConnectionStyle.ofElement? at h
  rw [hname, if_neg (by decide), if_neg (by decide)] at h
  nomatch h

section Nodes

variable {b b' : Builder} (h : b.Alike b') {e e' : Element} (he : e.Similar e')

include h he

/-- **Connections**: alike builders stay alike over similar connections. -/
theorem agree_addConnection (node : UInt16) (style : ConnectionStyle)
    (hname : e.name ≠ Schema.node) : Agree CompileError.SameButLine Alike
      (b.addConnection node style e) (b'.addConnection node style e') := by
  have hsite : Site.Similar ⟨e, node, b.ports.stream, style, b.hasLink (e.attribute? Schema.link)⟩
      ⟨e', node, b'.ports.stream, style, b'.hasLink (e'.attribute? Schema.link)⟩ := by
    refine ⟨he, rfl, ?_, rfl, ?_⟩
    · show b'.ports.stream = b.ports.stream
      rw [h.ports]
    · show b'.hasLink (e'.attribute? Schema.link) = b.hasLink (e.attribute? Schema.link)
      rw [he.attribute?_eq, hasLink_alike h]
  unfold addConnection
  exact (ConnectionDecl.agree_atSite hsite hname).bind fun d d' hd => agree_join h hd

/-- A child of a node keeps the builders alike. -/
theorem agree_addNodeChild (node : UInt16) :
    Agree CompileError.SameButLine Alike (addNodeChild node b e) (addNodeChild node b' e') := by
  have hport : isPort e' = isPort e := by
    unfold isPort
    rw [he.name_eq]
  have hstyle := ConnectionStyle.rel_ofElement? he
  unfold addNodeChild
  rw [hport, he.name_eq]
  split
  · exact .ok h
  · cases hx : ConnectionStyle.ofElement? e with
    | none =>
      rw [hx] at hstyle
      generalize ConnectionStyle.ofElement? e' = found at hstyle
      cases hstyle
      exact .error rfl
    | some style =>
      rw [hx] at hstyle
      generalize ConnectionStyle.ofElement? e' = found at hstyle
      cases hstyle with
      | some hconcur =>
        exact hconcur.bind fun s => agree_addConnection h he node s (name_ne_node hx)

end Nodes

/-! ## Ports -/

section Ports

variable {e e' : Element} (hchildren : List.Forall₂ Similar e.children e'.children) (node : UInt16)

include hchildren

/-- The only child of a name is similar, or there is none in either element. -/
theorem agree_onlyChild (name : String) :
    Agree CompileError.SameButLine (Option.Rel Similar) (onlyChild node e name)
      (onlyChild node e' name) := by
  have hnamed := similar_childrenNamed name hchildren
  unfold onlyChild
  generalize e.childrenNamed name = cs at hnamed
  generalize e'.childrenNamed name = es at hnamed
  cases hnamed with
  | nil => exact .ok .none
  | cons hc hrest =>
    cases hrest with
    | nil => exact .ok (.some hc)
    | cons _ _ => exact .error rfl

/-- **Ports** are read alike from similar nodes, here that of MediaLB. -/
theorem concur_readMediaLb : Concur (readMediaLb node e) (readMediaLb node e') := by
  unfold readMediaLb
  refine (agree_onlyChild hchildren node _).bind fun found found' hfound => ?_
  cases hfound with
  | none => exact .ok rfl
  | some hc => exact (hc.keyword _ _).bind fun _ => .ok rfl

theorem concur_readUsb : Concur (readUsb node e) (readUsb node e') := by
  unfold readUsb
  refine (agree_onlyChild hchildren node _).bind fun found found' hfound => ?_
  cases hfound with
  | none => exact .ok rfl
  | some hc =>
    refine Concur.bind ?_ fun _ => .ok rfl
    unfold readUsbSettings
    refine (hc.keyword _ _).bind fun _ => (hc.word _).bind fun _ => ?_
    exact (hc.byte? _).bind fun _ => (hc.byte? _).bind fun _ => .ok rfl

theorem concur_readStream : Concur (readStream node e) (readStream node e') := by
  unfold readStream
  refine (agree_onlyChild hchildren node _).bind fun found found' hfound => ?_
  cases hfound with
  | none => exact .ok rfl
  | some hc =>
    refine Concur.bind ?_ fun _ => .ok rfl
    unfold readStreamSettings
    exact (hc.keyword _ _).bind fun _ => (hc.keyword _ _).bind fun _ => .ok rfl

/-- **Ports**: similar children declare the same ports. -/
theorem agree_declarePorts {b b' : Builder} (h : b.Alike b') :
    Agree CompileError.SameButLine Alike (b.declarePorts node e) (b'.declarePorts node e') := by
  unfold declarePorts
  simp only [declareMediaLb_eq, declareUsb_eq, declareStream_eq]
  refine ((concur_readMediaLb hchildren node).map fun clock =>
    withMediaLb_alike h node clock).bind fun c c' hc => ?_
  refine ((concur_readUsb hchildren node).map fun settings =>
    withUsb_alike hc node settings).bind fun d d' hd => ?_
  exact (concur_readStream hchildren node).map fun settings => withStream_alike hd node settings

end Ports

/-! ## Nodes -/

/-- **Nodes**: similar nodes with similar children keep the builders alike. -/
theorem agree_addNode {b b' : Builder} (h : b.Alike b') {e e' : Element} (he : e.Similar e')
    (hchildren : List.Forall₂ Similar e.children e'.children) :
    Agree CompileError.SameButLine Alike (b.addNode e) (b'.addNode e') := by
  have hclaim : Concur (b.claimAddress e) (b'.claimAddress e') := by
    unfold claimAddress
    refine (he.word _).bind fun address => ?_
    rw [h.nodes]
    split
    · exact .error rfl
    · exact .ok rfl
  unfold addNode
  refine hclaim.bind fun address => ?_
  unfold buildNode
  refine (agree_declarePorts hchildren address h.withoutPorts).bind fun c c' hc => ?_
  have hloop : Agree CompileError.SameButLine Alike (e.children.foldlM (addNodeChild address) c)
      (e'.children.foldlM (addNodeChild address) c') := by
    refine Agree.foldlM ?_ hchildren hc
    intro d d' x x' hd hx
    exact agree_addNodeChild hd hx address
  refine hloop.bind fun d d' hd => .ok ?_
  refine ⟨hd.arena, hd.ports, ?_, hd.endpoints, hd.links⟩
  rw [hd.nodes, hd.ports, he.attribute?_eq]

/-- The elements are similar; if they are nodes, alike builders stay alike over them, or stop at
    errors that are related. -/
structure BuiltAlike (E : CompileError → CompileError → Prop) (e e' : Element) : Prop where
  similar : e.Similar e'
  node : e.name = Schema.node → ∀ b b' : Builder, b.Alike b' →
    Agree E Alike (b.addNode e) (b'.addNode e')

section Root

variable {E : CompileError → CompileError → Prop}
  (hE : ∀ f f' : CompileError, f.SameButLine f' → E f f')

include hE

/-- What is known of errors may be weakened. -/
theorem agree_weaken {α β : Type} {R : α → β → Prop} {x : Except CompileError α}
    {y : Except CompileError β} (h : Agree CompileError.SameButLine R x y) : Agree E R x y :=
  h.mono hE fun _ _ hab => hab

/-- The children of the roots are added alike. -/
theorem agree_addRootChild {b b' : Builder} (h : b.Alike b') {e e' : Element}
    (he : BuiltAlike E e e') : Agree E Alike (b.addRootChild e) (b'.addRootChild e') := by
  unfold addRootChild
  rw [he.similar.name_eq]
  split
  · rename_i hname
    exact he.node hname b b' h
  split
  · exact .ok h
  · exact .error (hE _ _ rfl)

end Root

end Builder

/-! ## Documents -/

section Documents

variable {r r' : Element} (h : r.Similar r')

include h

/-- Roots of the same name are accepted alike. -/
theorem concur_checkRoot : Concur (checkRoot r) (checkRoot r') := by
  unfold checkRoot
  rw [h.name_eq]
  split
  · exact .ok rfl
  · exact .error rfl

/-- The header is read from the root's attributes and the names of its children. -/
theorem concur_readHeader (hnames : r'.children.map Element.name = r.children.map Element.name) :
    Concur (readHeader r) (readHeader r') := by
  unfold readHeader
  refine (concur_checkRoot h).bind fun _ => (h.word _).bind fun _ => ?_
  exact (h.countChildren _ true hnames).bind fun _ => .ok rfl

/-- **Roots**: over children that are built alike two compilations agree. -/
theorem agree_compileElement {E : CompileError → CompileError → Prop}
    (hE : ∀ f f' : CompileError, f.SameButLine f' → E f f')
    (hchildren : List.Forall₂ (Builder.BuiltAlike E) r.children r'.children) :
    Agree E Eq (compileElement r) (compileElement r') := by
  have hsimilar : List.Forall₂ Similar r.children r'.children :=
    hchildren.imp fun _ _ hc => hc.similar
  have hnamed : ∀ name : String, name ≠ Schema.node →
      List.Forall₂ DriverRecord.Likewise (r.childrenNamed name) (r'.childrenNamed name) := by
    intro name hname
    refine (List.forall₂_and_left _ _).mpr ⟨?_, similar_childrenNamed name hsimilar⟩
    intro e he
    rw [beq_iff_eq.mp (List.mem_filter.mp he).2]
    exact hname
  have hscripts := hnamed Schema.script (by decide)
  have hdrivers := hnamed Schema.driver (by decide)
  unfold compileElement
  refine Agree.bind (Builder.agree_weaken hE (concur_readHeader h
    (map_name_of_forall₂ (fun _ _ hc => hc.name_eq) hsimilar))) fun bandwidth bandwidth' hband => ?_
  cases hband
  have hbuild : Agree E Builder.Alike (buildNodes r) (buildNodes r') := by
    refine Agree.foldlM ?_ hchildren (Builder.Alike.refl Builder.empty)
    intro b b' e e' hb he
    exact Builder.agree_addRootChild hE hb he
  refine hbuild.bind fun b b' hb => ?_
  refine Builder.agree_weaken hE ?_
  refine (Script.concur_ofElements (hscripts.imp fun _ _ hc => hc.2) fun e he =>
    ((List.forall₂_and_left _ _).mp hscripts).1 e he).bind fun scripts => ?_
  unfold assemble
  rw [hb.nodes, hb.endpoints, hb.arena]
  refine (Concur.refl _).bind fun nodes => (Concur.refl _).bind fun routes => ?_
  exact (DriverRecord.concur_derive b.arena hb.links hdrivers).bind fun _ => .ok rfl

/-- A script that stands alone is read alike. -/
theorem concur_compileScriptElement (hchildren : List.Forall₂ Similar r.children r'.children) :
    Concur (compileScriptElement r) (compileScriptElement r') := by
  have hscripts := similar_childrenNamed Schema.script hchildren
  have hnames : ∀ e ∈ r.childrenNamed Schema.script, e.name ≠ Schema.node := by
    intro e he
    rw [beq_iff_eq.mp (List.mem_filter.mp he).2]
    decide
  unfold compileScriptElement
  refine (concur_checkRoot h).bind fun _ => ?_
  refine (h.countChildren _ true (map_name_of_forall₂ (fun _ _ hc => hc.name_eq)
    hchildren)).bind fun count => ?_
  split
  · exact .error rfl
  · exact (Script.concur_ofElements hscripts hnames).bind fun scripts => Concur.refl _

end Documents

/-! ## Lines -/

section Lines

variable {r r' : Element} (h : r.SameButLines r')

include h

/-- **Lines**: on other lines the same is compiled, or refused for the same reason. -/
theorem concur_compileElement : Concur (compileElement r) (compileElement r') := by
  have hchildren : List.Forall₂ (Builder.BuiltAlike CompileError.SameButLine) r.children
      r'.children := by
    refine h.children.imp fun e e' he => ⟨he.similar, fun _ b b' hb => ?_⟩
    exact Builder.agree_addNode hb he.similar (he.children.imp fun _ _ hc => hc.similar)
  exact agree_compileElement h.similar (fun _ _ fault => fault) hchildren

/-- **Script documents**: similar roots are the same script. -/
theorem concur_scriptElement : Concur (compileScriptElement r) (compileScriptElement r') :=
  concur_compileScriptElement h.similar (h.children.imp fun _ _ hc => hc.similar)

end Lines

end MediaNetwork

/-
  Similar elements are read alike.

  One lemma for each reader, of its shape: over similar elements two runs end in the same value, or
  in the same error but for its line.  What a reader takes besides its element must be the same on
  both sides; the connection reader takes a `Site`, and keeps a `Progress` that may hold an element,
  so these are compared as well (`Site.Similar`, `Progress.Like`).
-/
import MediaNetwork.Driver.Derivation
import MediaNetwork.Proofs.Arrangement.Elements
import MediaNetwork.Proofs.Print.Drivers
import MediaNetwork.Script.Basic

namespace MediaNetwork

open MediaNetwork.Markup MediaNetwork.Markup.Element MediaNetwork.Outcome

/-! ## Scripts -/

namespace Action

section Read

variable {e e' : Element} (h : e.Similar e')

include h

/-- A message is read by the values of its attributes. -/
theorem concur_readSend : Concur (readSend e) (readSend e') := by
  unfold readSend
  refine (h.byte _).bind fun _ => (h.byte? _).bind fun _ => (h.word _).bind fun _ => ?_
  refine (h.byte _).bind fun _ => (h.payload? _).bind fun _ => (h.byte? _).bind fun _ => ?_
  exact .ok rfl

theorem concur_readPinMode : Concur (readPinMode e) (readPinMode e') := by
  unfold readPinMode
  rw [h.attribute?_eq]
  refine (h.payload _).bind fun configuration => ?_
  split
  · exact .ok rfl
  · exact .error (h.invalid _ _)

theorem concur_readI2cWrite : Concur (readI2cWrite e) (readI2cWrite e') := by
  unfold readI2cWrite
  rw [h.name_eq]
  refine (h.keyword _ _).bind fun _ => (h.byte? _).bind fun _ => (h.byte _).bind fun _ => ?_
  refine (h.word _).bind fun _ => (h.payload _).bind fun data => ?_
  split
  · exact .ok rfl
  · exact .error rfl

/-- **Actions**: similar elements are the same action. -/
theorem concur_ofElement : Concur (ofElement e) (ofElement e') := by
  unfold ofElement
  rw [h.name_eq]
  split
  · exact concur_readSend h
  split
  · exact (h.word _).bind fun _ => .ok rfl
  split
  · exact concur_readPinMode h
  split
  · exact (h.word _).bind fun _ => (h.word _).bind fun _ => .ok rfl
  split
  · exact (h.keyword _ _).bind fun _ => .ok rfl
  split
  · exact concur_readI2cWrite h
  split
  · exact (h.byte _).bind fun _ => (h.byte _).bind fun _ => (h.word _).bind fun _ => .ok rfl
  · exact .error rfl

end Read

end Action

namespace Script

/-- Similar pauses are added up alike. -/
theorem concur_addPause {e e' : Element} (h : e.Similar e') (pending : UInt16) :
    Concur (addPause pending e) (addPause pending e') := by
  unfold addPause
  rw [h.name_eq]
  refine (h.word _).bind fun wait => ?_
  simp only
  split
  · exact .ok rfl
  · exact .error rfl

/-- **Steps**: similar children make the same steps. -/
theorem concur_stepsFrom {es es' : List Element} (h : List.Forall₂ Similar es es')
    (pending : UInt16) (done : List ScriptStep) :
    Concur (stepsFrom pending done es) (stepsFrom pending done es') := by
  induction h generalizing pending done with
  | nil => exact .ok rfl
  | @cons e e' es es' he _ ih =>
    have hpause : isPause e' = isPause e := by
      unfold isPause
      rw [he.name_eq]
    unfold stepsFrom
    rw [hpause]
    split
    · rcases (concur_addPause he pending).cases with ⟨total, hx, hy⟩ | ⟨f, f', hx, hy, hfault⟩
      · rw [hx, hy]
        exact ih _ _
      · rw [hx, hy]
        exact .error hfault
    · rcases (Action.concur_ofElement he).cases with ⟨action, hx, hy⟩ | ⟨f, f', hx, hy, hfault⟩
      · rw [hx, hy]
        exact ih _ _
      · rw [hx, hy]
        exact .error hfault

theorem concur_ofElement {e e' : Element} (h : e.Similar e') (hname : e.name ≠ Schema.node) :
    Concur (ofElement e) (ofElement e') := by
  unfold ofElement
  refine (h.text _).bind fun _ => ?_
  exact (concur_stepsFrom (h.children hname) 0 []).bind fun _ => .ok rfl

theorem concur_addTo {e e' : Element} (h : e.Similar e') (hname : e.name ≠ Schema.node)
    (scripts : List Script) : Concur (addTo scripts e) (addTo scripts e') := by
  unfold addTo
  refine (concur_ofElement h hname).bind fun script => ?_
  split
  · exact .error rfl
  · exact .ok rfl

/-- Similar script elements are read alike. -/
theorem concur_ofElements {es es' : List Element} (h : List.Forall₂ Similar es es')
    (hnames : ∀ e ∈ es, e.name ≠ Schema.node) : Concur (ofElements es) (ofElements es') := by
  refine Agree.foldlM (Q := fun e e' => e.name ≠ Schema.node ∧ e.Similar e') ?_
    ((List.forall₂_and_left es es').mpr ⟨hnames, h⟩) rfl
  rintro scripts - e e' rfl ⟨hname, he⟩
  exact concur_addTo he hname scripts

end Script

/-! ## Connections -/

/-- The sites have similar elements and else the same. -/
structure Site.Similar (site site' : Site) : Prop where
  element : site.element.Similar site'.element
  node : site'.node = site.node
  stream : site'.stream = site.stream
  style : site'.style = site.style
  linkTaken : site'.linkTaken = site.linkTaken

namespace Site

variable {site site' : Site} (hs : site.Similar site')

include hs

theorem Similar.link_eq : site'.link = site.link := hs.element.attribute?_eq Schema.link

/-- The same links are taken at similar sites. -/
theorem concur_checkLink : Concur site.checkLink site'.checkLink := by
  unfold checkLink
  rw [hs.linkTaken, hs.link_eq]
  split
  · exact .error rfl
  · exact .ok rfl

section Read

variable {e e' : Element} (h : e.Similar e')

include h

theorem concur_readOffset (inFan : Bool) :
    Concur (site.readOffset inFan e) (site'.readOffset inFan e') := by
  unfold readOffset
  rw [hs.style]
  split
  · exact .ok rfl
  · split
    · exact (h.word _).map fun _ => rfl
    · exact h.word? _

/-- Network sockets are read alike at similar sites. -/
theorem concur_readNetwork (inFan : Bool) :
    Concur (site.readNetwork inFan e) (site'.readNetwork inFan e') := by
  unfold readNetwork
  refine (h.word _).bind fun _ => (h.text _).bind fun _ => ?_
  refine (h.keyword? _ _).bind fun _ => (h.word? _).bind fun _ => ?_
  exact (concur_readOffset hs h inFan).bind fun _ => .ok rfl

/-- So are the sockets of the host. -/
theorem concur_readSocket : Concur (site.readSocket e) (site'.readSocket e') := by
  unfold readSocket
  rw [h.name_eq, hs.stream, hs.node, hs.element.name_eq]
  split
  · exact (concur_readNetwork hs h false).bind fun _ => .ok rfl
  split
  · exact (h.byte _).bind fun _ => (h.word _).bind fun _ => .ok rfl
  split
  · exact (h.word _).bind fun _ => (h.word _).bind fun _ => .ok rfl
  split
  · refine (h.keyword _ _).bind fun _ => (h.word _).bind fun _ => ?_
    cases site.stream with
    | some ports => exact .ok rfl
    | none => exact .error rfl
  · exact .error rfl

end Read

/-- Fans whose branches are similar are read alike. -/
theorem concur_readBranches {fan fan' : Element} (h : fan.Similar fan')
    (hname : fan.name ≠ Schema.node) :
    Concur (site.readBranches fan) (site'.readBranches fan') := by
  have hbranch : ∀ e e', e.Similar e' →
      Concur (site.readBranch fan e) (site'.readBranch fan' e') := by
    intro e e' he
    unfold readBranch
    rw [he.name_eq, h.name_eq]
    split
    · exact .error rfl
    · refine (concur_readNetwork hs he true).bind fun _ => ?_
      exact (concur_checkLink hs).bind fun _ => .ok rfl
  exact Concur.mapM hbranch (h.children hname)

/-- **Splitters**: similar splitters have the same branches. -/
theorem concur_readFanOut {e e' : Element} (h : e.Similar e') (hname : e.name ≠ Schema.node)
    (input : SocketDecl) : Concur (site.readFanOut input e) (site'.readFanOut input e') := by
  unfold readFanOut
  refine (h.word _).bind fun _ => ?_
  refine (h.countChildren _ true (map_name_of_forall₂ (fun _ _ hc => hc.name_eq)
    (h.children hname))).bind fun _ => ?_
  exact (concur_readBranches hs h hname).bind fun _ => .ok rfl

/-- **Combiners**: likewise with the output that follows. -/
theorem concur_readFanIn {combiner combiner' e e' : Element} (hc : combiner.Similar combiner')
    (hname : combiner.name ≠ Schema.node) (h : e.Similar e') :
    Concur (site.readFanIn combiner e) (site'.readFanIn combiner' e') := by
  unfold readFanIn
  refine (concur_readSocket hs h).bind fun _ => (hc.word _).bind fun _ => ?_
  exact (concur_readBranches hs hc hname).bind fun _ => .ok rfl

end Site

namespace Progress

/-- The same was read so far; a combiner that waits for its output is similar. -/
inductive Like : Progress → Progress → Prop
  | empty : Like .empty .empty
  | input (i : SocketDecl) : Like (.input i) (.input i)
  | both (i o : SocketDecl) : Like (.both i o) (.both i o)
  | combining {c c' : Element} (similar : c.Similar c') (name : c.name ≠ Schema.node) :
      Like (.combining c) (.combining c')
  | fanned (wiring : Wiring) : Like (.fanned wiring) (.fanned wiring)

/-- The next child keeps it. -/
theorem agree_add {site site' : Site} (hs : site.Similar site') {p p' : Progress} (hp : p.Like p')
    {e e' : Element} (h : e.Similar e') :
    Agree CompileError.SameButLine Like (p.add site e) (p'.add site' e') := by
  -- similar elements have one name, so both are taken in the same way, by states of the same form
  unfold add
  rw [h.name_eq]
  split
  · rename_i hsplitter
    have hname : e.name ≠ Schema.node := by
      rw [hsplitter]
      decide
    unfold addSplitter
    rw [h.name_eq]
    cases hp with
    | input i =>
      exact (Site.concur_readFanOut hs h hname i).bind fun w => .ok (.fanned w)
    | _ => exact .error rfl
  split
  · rename_i hcombiner
    have hname : e.name ≠ Schema.node := by
      rw [hcombiner]
      decide
    unfold addCombiner
    rw [h.name_eq]
    cases hp with
    | empty =>
      refine (h.countChildren _ true (map_name_of_forall₂ (fun _ _ hc => hc.name_eq)
        (h.children hname))).bind fun _ => ?_
      exact .ok (.combining h hname)
    | _ => exact .error rfl
  · unfold addSocket
    rw [h.name_eq]
    cases hp with
    | empty =>
      exact (Site.concur_readSocket hs h).bind fun i => .ok (.input i)
    | input i =>
      exact (Site.concur_readSocket hs h).bind fun o => .ok (.both i o)
    | combining hc hname =>
      exact (Site.concur_readFanIn hs hc hname h).bind fun w => .ok (.fanned w)
    | both i o => exact .error rfl
    | fanned w => exact .error rfl

/-- What was read alike is declared alike in the end. -/
theorem concur_finish {site site' : Site} (hs : site.Similar site') {p p' : Progress}
    (hp : p.Like p') : Concur (p.finish site) (p'.finish site') := by
  unfold finish
  rw [hs.element.name_eq]
  cases hp with
  | both i o => exact .ok rfl
  | fanned w => exact .ok rfl
  | _ => exact .error rfl

end Progress

/-- The declarations are the same but for the lines of their elements. -/
def ConnectionDecl.SameButLine (d d' : ConnectionDecl) : Prop := d' = { d with line := d'.line }

/-- **Connections**: at similar sites the same is declared. -/
theorem ConnectionDecl.agree_atSite {site site' : Site} (hs : site.Similar site')
    (hname : site.element.name ≠ Schema.node) :
    Agree CompileError.SameButLine ConnectionDecl.SameButLine (ConnectionDecl.atSite site)
      (ConnectionDecl.atSite site') := by
  unfold ConnectionDecl.atSite
  have hprogress : Agree CompileError.SameButLine Progress.Like
      (site.element.children.foldlM (Progress.add site) .empty)
      (site'.element.children.foldlM (Progress.add site') .empty) := by
    refine Agree.foldlM ?_ (hs.element.children hname) Progress.Like.empty
    exact fun _ _ _ _ hp he => Progress.agree_add hs hp he
  refine hprogress.bind fun p p' hp => ?_
  refine (Progress.concur_finish hs hp).bind fun w => .ok ?_
  unfold SameButLine
  rw [hs.node, hs.style, hs.link_eq]

/-- Similar elements are connections of the same style, or neither is a connection. -/
theorem ConnectionStyle.rel_ofElement? {e e' : Element} (h : e.Similar e') :
    Option.Rel Concur (ConnectionStyle.ofElement? e) (ConnectionStyle.ofElement? e') := by
  unfold ConnectionStyle.ofElement?
  rw [h.name_eq]
  split
  · exact .some ((h.keyword? _ _).map fun _ => rfl)
  split
  · exact .some ((h.keyword? _ _).map fun _ => rfl)
  · exact .none

/-! ## Drivers -/

namespace DriverRecord

/-- Similar bindings are the same. -/
theorem concur_readBinding {e e' : Element} (h : e.Similar e') :
    Concur (readBinding e) (readBinding e') := by
  have hbuffers : Concur (readBuffers e) (readBuffers e') := by
    unfold readBuffers
    exact (h.word _).bind fun _ => (h.word _).bind fun _ => .ok rfl
  unfold readBinding
  rw [h.name_eq, h.attribute?_eq]
  simp only
  split
  · exact hbuffers.bind fun _ => .ok rfl
  split
  · exact hbuffers.bind fun _ => .ok rfl
  split
  · refine hbuffers.bind fun _ => (h.byte _).bind fun _ => ?_
    exact (h.keyword _ _).bind fun _ => .ok rfl
  · exact .error rfl

/-- The elements are similar and not those of nodes. -/
def Likewise (e e' : Element) : Prop := e.name ≠ Schema.node ∧ e.Similar e'

/-- **Expansion**: the record is bound by similar drivers to the same names. -/
theorem concur_expand (record : DriverRecord) {driver driver' : Option Element}
    (h : Option.Rel Likewise driver driver') :
    Concur (expand record driver) (expand record driver') := by
  cases h with
  | none => exact .ok rfl
  | some hd =>
    obtain ⟨hname, hd⟩ := hd
    have hchildren := hd.children hname
    unfold expand
    refine Agree.bind (hd.require _ hchildren) fun _ _ _ => ?_
    refine Concur.mapM (fun c c' hc => ?_) hchildren
    exact (concur_readBinding hc).bind fun _ => .ok rfl

/-- Drivers that were given to links: the same links, and similar elements. -/
abbrev GivenAlike (given given' : List (String × Element)) : Prop :=
  List.Forall₂ (fun g g' => g'.1 = g.1 ∧ Likewise g.2 g'.2) given given'

/-- A link has a driver in both lists or in neither. -/
theorem rel_lookup {given given' : List (String × Element)} (h : GivenAlike given given')
    (link : String) : Option.Rel Likewise (given.lookup link) (given'.lookup link) := by
  induction h with
  | nil => exact .none
  | @cons g g' given given' hg _ ih =>
    obtain ⟨k, e⟩ := g
    obtain ⟨k', e'⟩ := g'
    obtain ⟨rfl, he⟩ := hg
    rw [List.lookup_cons, List.lookup_cons]
    cases link == k' with
    | true => exact .some he
    | false => exact ih

/-- Similar drivers are given to links alike. -/
theorem agree_assign (links : List String) {given given' : List (String × Element)}
    (hg : GivenAlike given given') {e e' : Element} (h : Likewise e e') :
    Agree CompileError.SameButLine GivenAlike (assign links given e) (assign links given' e') := by
  unfold assign
  refine (h.2.text _).bind fun link => ?_
  have hsome : (given'.lookup link).isSome = (given.lookup link).isSome := by
    have hfound := rel_lookup hg link
    generalize given.lookup link = found at hfound ⊢
    generalize given'.lookup link = found' at hfound ⊢
    cases hfound <;> rfl
  rw [hsome]
  split
  · exact .error rfl
  split
  · exact .error rfl
  · exact .ok (List.rel_append hg (List.Forall₂.cons ⟨rfl, h⟩ List.Forall₂.nil))

/-- The line of a candidate is only named in an error. -/
theorem concur_infer {arena : Arena} {c c' : LinkCandidate} (hkey : c'.key = c.key) :
    Concur (infer arena c) (infer arena c') := by
  obtain ⟨link, node, connection, line⟩ := c
  obtain ⟨link', node', connection', line'⟩ := c'
  cases hkey
  unfold infer
  refine (Concur.refl _).bind fun r => ?_
  split
  · refine (Concur.refl _).bind fun output => (Concur.refl _).bind fun input => ?_
    split
    · exact .error rfl
    · refine (Concur.refl _).bind fun host => ?_
      split
      · exact .error rfl
      · exact .ok rfl
  · exact .error rfl

/-- **Drivers**: similar driver elements and candidates on other lines give the same records. -/
theorem concur_derive (arena : Arena) {links links' : List LinkCandidate}
    (hkeys : links'.map LinkCandidate.key = links.map LinkCandidate.key)
    {drivers drivers' : List Element} (hdrivers : List.Forall₂ Likewise drivers drivers') :
    Concur (derive arena links drivers) (derive arena links' drivers') := by
  have hcandidates : List.Forall₂ (fun c c' => LinkCandidate.key c' = LinkCandidate.key c)
      (candidates [] links) (candidates [] links') := by
    have hsame := candidates_of_key hkeys []
    rw [map_eq_map_iff_forall₂] at hsame
    exact hsame.flip
  have hinferred : Concur ((candidates [] links).mapM (infer arena))
      ((candidates [] links').mapM (infer arena)) :=
    Concur.mapM (fun _ _ hkey => concur_infer hkey) hcandidates
  unfold derive
  refine hinferred.bind fun rs => ?_
  have hgiven : Agree CompileError.SameButLine GivenAlike
      (drivers.foldlM (assign (rs.map fun r => r.link)) [])
      (drivers'.foldlM (assign (rs.map fun r => r.link)) []) := by
    refine Agree.foldlM ?_ hdrivers List.Forall₂.nil
    exact fun _ _ _ _ hg he => agree_assign _ hg he
  refine hgiven.bind fun given given' hg => ?_
  have hexpand : Concur (rs.mapM fun r => expand r (given.lookup r.link))
      (rs.mapM fun r => expand r (given'.lookup r.link)) := by
    refine Concur.mapM (Q := Eq) ?_ (List.forall₂_refl rs)
    rintro r - rfl
    exact concur_expand r (rel_lookup hg r.link)
  exact hexpand.bind fun _ => .ok rfl

end DriverRecord

end MediaNetwork

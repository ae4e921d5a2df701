/-
  What is read from bare elements.

  Scripts, ports and drivers are read from other attributes than those that are taken away, so bare
  elements give the same.  A network socket gives the same as well, apart from what it says of its
  route (`RouteDecl.bare`): whatever is read from it in full can be read from its bare form.  The
  converse holds if only the activity is taken away and it is valid (`ValidActivity`).  Both are
  taken through the readers of connections, up to `mirrors_atSite`.
-/
import MediaNetwork.Proofs.Activity.Elements
import MediaNetwork.Proofs.Agreement
import MediaNetwork.Proofs.Graph.Plan
import MediaNetwork.Proofs.Refusal.Reading

namespace MediaNetwork

open MediaNetwork.Markup MediaNetwork.Markup.Element MediaNetwork.Outcome

variable {ids : Bool}

/-! ## Scripts -/

/-- No action is about activity. -/
theorem Action.ofElement_bare (e : Element) : ofElement (e.bare ids) = ofElement e := by
  simp (disch := decide) only [ofElement, readSend, readPinMode, readI2cWrite, invalid, name_bare,
    line_bare, attribute?_bare_of_kept, byte_bare, byte?_bare, word_bare, payload_bare,
    payload?_bare, keyword_bare]

namespace Script

theorem addPause_bare (pending : UInt16) (e : Element) :
    addPause pending (e.bare ids) = addPause pending e := by
  simp (disch := decide) only [addPause, word_bare, name_bare, line_bare]

/-- **Scripts** are read as before. -/
theorem stepsFrom_bare (pending : UInt16) (done : List ScriptStep) (es : List Element) :
    stepsFrom pending done (es.map (bare ids)) = stepsFrom pending done es := by
  induction es generalizing pending done with
  | nil => rfl
  | cons e es ih =>
    have hpause : isPause (e.bare ids) = isPause e := by
      unfold isPause
      rw [name_bare]
    rw [List.map_cons, stepsFrom, stepsFrom, hpause, addPause_bare, Action.ofElement_bare]
    simp only [ih]

/-- **Scripts** are the same. -/
theorem ofElements_bare (es : List Element) :
    ofElements (es.map (bare ids)) = ofElements es := by
  have hadd : ∀ scripts e, addTo scripts (e.bare ids) = addTo scripts e := by
    intro scripts e
    simp (disch := decide) only [addTo, ofElement, text_bare, children_bare, line_bare,
      stepsFrom_bare]
  unfold ofElements
  rw [List.foldlM_map]
  simp only [hadd]

end Script

/-! ## Ports -/

/-- The only child of a name is the bare one. -/
theorem onlyChild_bare (node : UInt16) (e : Element) (name : String) :
    onlyChild node (e.bare ids) name = (onlyChild node e name).map (Option.map (bare ids)) := by
  unfold onlyChild
  rw [childrenNamed_bare, line_bare]
  match e.childrenNamed name with
  | [] => rfl
  | [_] => rfl
  | _ :: _ :: _ => rfl

namespace Builder

/-- The ports of a node are read as before, here that of MediaLB. -/
theorem readMediaLb_bare (node : UInt16) (e : Element) :
    readMediaLb node (e.bare ids) = readMediaLb node e := by
  unfold readMediaLb
  rw [onlyChild_bare, bind_map]
  congr 1
  funext found
  cases found with
  | none => rfl
  | some port => simp (disch := decide) only [Option.map_some, keyword_bare]

theorem readUsb_bare (node : UInt16) (e : Element) :
    readUsb node (e.bare ids) = readUsb node e := by
  unfold readUsb
  rw [onlyChild_bare, bind_map]
  congr 1
  funext found
  cases found with
  | none => rfl
  | some port =>
    simp (disch := decide) only [Option.map_some, readUsbSettings, keyword_bare, word_bare,
      byte?_bare]

theorem readStream_bare (node : UInt16) (e : Element) :
    readStream node (e.bare ids) = readStream node e := by
  unfold readStream
  rw [onlyChild_bare, bind_map]
  congr 1
  funext found
  cases found with
  | none => rfl
  | some port => simp (disch := decide) only [Option.map_some, readStreamSettings, keyword_bare]

end Builder

/-! ## Declarations without activity -/

/-- What a network socket says about its route, without the activity and, if `ids`, the id. -/
def RouteDecl.bare (ids : Bool) (d : RouteDecl) : RouteDecl :=
  ⟨d.name, true, if ids then none else d.routeId⟩

/-- A network socket without what it says of activity. -/
def NetworkDecl.bare (ids : Bool) (d : NetworkDecl) : NetworkDecl :=
  { d with route := d.route.bare ids }

/-- A declared socket without what it says of activity. -/
def SocketDecl.bare (ids : Bool) : SocketDecl → SocketDecl
  | network decl => network (decl.bare ids)
  | usb endpointAddress framesPerTransaction => usb endpointAddress framesPerTransaction
  | mediaLb channelAddress bandwidth => mediaLb channelAddress bandwidth
  | stream ports pin bandwidth => stream ports pin bandwidth

/-- A wiring of sockets in their bare forms. -/
def Wiring.bare (ids : Bool) : Wiring → Wiring
  | plain input output => plain (input.bare ids) (output.bare ids)
  | fanOut input bytesPerFrame branches =>
    fanOut (input.bare ids) bytesPerFrame (branches.map (NetworkDecl.bare ids))
  | fanIn bytesPerFrame branches output =>
    fanIn bytesPerFrame (branches.map (NetworkDecl.bare ids)) (output.bare ids)

/-- A declared connection of sockets in their bare forms. -/
def ConnectionDecl.bare (ids : Bool) (d : ConnectionDecl) : ConnectionDecl :=
  { d with wiring := d.wiring.bare ids }

/-- A site whose element is in its bare form. -/
def Site.bare (ids : Bool) (site : Site) : Site :=
  { site with element := site.element.bare ids }

/-- What was read so far, in its bare form. -/
def Progress.bare (ids : Bool) : Progress → Progress
  | empty => empty
  | input i => input (i.bare ids)
  | both i o => both (i.bare ids) (o.bare ids)
  | combining c => combining (c.bare ids)
  | fanned w => fanned (w.bare ids)

/-! ## Connections -/

/-- Every network socket of the document that says whether its route is active does so by one of the
    words for it. -/
def Markup.Element.ValidActivity (root : Element) : Prop :=
  ∀ e ∈ root.members, e.name = Schema.networkSocket → (e.flag? Schema.isActive).isOk = true

instance (root : Element) : Decidable root.ValidActivity :=
  inferInstanceAs (Decidable (∀ e ∈ root.members, e.name = Schema.networkSocket →
    (e.flag? Schema.isActive).isOk = true))

section Connections

-- only where the activity alone is taken away, and is valid, do both sides fail together
variable {sure : Prop} {root : Element} (hsure : sure → ids = false ∧ root.ValidActivity)

namespace Site

variable (site : Site)

/-- A connection keeps its link. -/
theorem link_bare : (site.bare ids).link = site.link :=
  attribute?_bare_of_kept site.element (by decide)

theorem checkLink_bare : (site.bare ids).checkLink = site.checkLink := by
  unfold checkLink
  rw [link_bare]
  simp only [bare, line_bare]

/-- A network socket keeps its offset. -/
theorem readOffset_bare (inFan : Bool) (e : Element) :
    (site.bare ids).readOffset inFan (e.bare ids) = site.readOffset inFan e := by
  simp (disch := decide) only [readOffset, bare, word_bare, word?_bare]

include hsure

/-- **Network sockets** give the same but for what they say of their route. -/
theorem mirrors_readNetwork (inFan : Bool) {e : Element} (he : e ∈ root.members)
    (hname : e.name = Schema.networkSocket) :
    Mirrors sure (NetworkDecl.bare ids) (site.readNetwork inFan e)
      ((site.bare ids).readNetwork inFan (e.bare ids)) := by
  -- the activity is always taken away, so only a flag that is no truth value is told apart
  have hactive : Mirrors sure (fun _ => none) (e.flag? Schema.isActive)
      ((e.bare ids).flag? Schema.isActive) := by
    have habsent : (e.bare ids).flag? Schema.isActive = .ok none := by
      simp [flag?, keyword?, attribute?_bare, hname, isTaken]
    rw [habsent]
    refine ⟨fun a h => rfl, fun h f hf => ?_⟩
    have hvalid := (hsure h).2 e he hname
    rw [hf] at hvalid
    nomatch hvalid
  have hid : Mirrors sure (fun id => if ids then none else id) (e.word? Schema.routeId)
      ((e.bare ids).word? Schema.routeId) := by
    cases ids with
    | true =>
      have habsent : (e.bare true).word? Schema.routeId = .ok none := by
        simp [word?, integer?, attribute?_bare, hname, isTaken]
      rw [habsent]
      exact ⟨fun a h => rfl, fun h => nomatch (hsure h).1⟩
    | false =>
      have hsame : (e.bare false).word? Schema.routeId = e.word? Schema.routeId := by
        have hkept : isTaken false Schema.routeId = false := by decide
        simp [word?, integer?, attribute?_bare, hkept]
      rw [hsame]
      refine Mirrors.of_eq_map ?_
      cases e.word? Schema.routeId <;> rfl
  unfold readNetwork
  rw [word_bare e _ (by decide), text_bare e (by decide), readOffset_bare]
  refine Mirrors.bind_same _ fun bandwidth _ => Mirrors.bind_same _ fun name _ => ?_
  refine hactive.bind fun active _ => hid.bind fun id _ => ?_
  exact Mirrors.bind_same _ fun offset _ => Mirrors.ok (NetworkDecl.bare ids) _

/-- A socket is read as the bare one, if its activity is valid. -/
theorem mirrors_readSocket {e : Element} (he : e ∈ root.members) :
    Mirrors sure (SocketDecl.bare ids) (site.readSocket e)
      ((site.bare ids).readSocket (e.bare ids)) := by
  unfold readSocket
  rw [name_bare]
  split
  · rename_i hname
    refine (mirrors_readNetwork hsure site false he hname).bind fun decl _ => ?_
    exact Mirrors.ok (SocketDecl.bare ids) (.network decl)
  -- a socket of any other kind says nothing of activity
  · refine Mirrors.of_eq_map ?_
    simp (disch := decide) only [byte_bare, word_bare, keyword_bare, line_bare, bare, name_bare]
    split
    · cases e.byte Schema.endpointAddress with
      | error f => rfl
      | ok endpointAddress => cases e.word Schema.framesPerTransaction <;> rfl
    split
    · cases e.word Schema.channelAddress with
      | error f => rfl
      | ok channelAddress => cases e.word Schema.bandwidth <;> rfl
    split
    · cases e.keyword Schema.streamPinId StreamPin.keywords with
      | error f => rfl
      | ok pin =>
        cases e.word Schema.bandwidth with
        | error f => rfl
        | ok bandwidth => cases site.stream <;> rfl
    · rfl

/-- The branches of a fan give the same but for what they say of their routes. -/
theorem mirrors_readBranches {fan : Element} (hfan : fan ∈ root.members) :
    Mirrors sure (List.map (NetworkDecl.bare ids)) (site.readBranches fan)
      ((site.bare ids).readBranches (fan.bare ids)) := by
  unfold readBranches
  rw [children_bare]
  refine Mirrors.mapM fun e he => ?_
  unfold readBranch
  rw [name_bare, name_bare, line_bare, checkLink_bare]
  split
  · exact Mirrors.of_eq_map rfl
  · rename_i hname
    refine (mirrors_readNetwork hsure site true (child_mem_members hfan he)
      (not_not.mp hname)).bind fun decl _ => ?_
    exact Mirrors.bind_same _ fun _ _ => Mirrors.ok (NetworkDecl.bare ids) decl

/-- **Splitters** are read with bare branches. -/
theorem mirrors_readFanOut (input : SocketDecl) {e : Element} (he : e ∈ root.members) :
    Mirrors sure (Wiring.bare ids) (site.readFanOut input e)
      ((site.bare ids).readFanOut (input.bare ids) (e.bare ids)) := by
  unfold readFanOut
  rw [word_bare e _ (by decide), countChildren_bare]
  refine Mirrors.bind_same _ fun bytesPerFrame _ => Mirrors.bind_same _ fun _ _ => ?_
  refine (mirrors_readBranches hsure site he).bind fun branches _ => ?_
  exact Mirrors.ok (Wiring.bare ids) (.fanOut input bytesPerFrame branches)

/-- **Combiners** likewise. -/
theorem mirrors_readFanIn {combiner e : Element} (hcombiner : combiner ∈ root.members)
    (he : e ∈ root.members) : Mirrors sure (Wiring.bare ids) (site.readFanIn combiner e)
      ((site.bare ids).readFanIn (combiner.bare ids) (e.bare ids)) := by
  unfold readFanIn
  rw [word_bare combiner _ (by decide)]
  refine (mirrors_readSocket hsure site he).bind fun output _ => ?_
  refine Mirrors.bind_same _ fun bytesPerFrame _ => ?_
  refine (mirrors_readBranches hsure site hcombiner).bind fun branches _ => ?_
  exact Mirrors.ok (Wiring.bare ids) (.fanIn bytesPerFrame branches output)

end Site

include hsure

/-- The next child keeps what was read the same but for what it says of routes. -/
theorem Progress.mirrors_add (site : Site) {p : Progress} {e : Element}
    (hp : p.InDocument root) (he : e ∈ root.members) : Mirrors sure (Progress.bare ids)
      (p.add site e) ((p.bare ids).add (site.bare ids) (e.bare ids)) := by
  -- making an element bare keeps its name, so both runs go the same way
  unfold add
  rw [name_bare]
  split
  · unfold addSplitter
    rw [name_bare, line_bare]
    cases p with
    | input i =>
      refine (Site.mirrors_readFanOut hsure site i he).bind fun wiring _ => ?_
      exact Mirrors.ok (Progress.bare ids) (fanned wiring)
    | _ => exact Mirrors.of_eq_map rfl
  split
  · unfold addCombiner
    rw [name_bare, line_bare, countChildren_bare]
    cases p with
    | empty => exact Mirrors.bind_same _ fun _ _ => Mirrors.ok (Progress.bare ids) (combining e)
    | _ => exact Mirrors.of_eq_map rfl
  · unfold addSocket
    rw [name_bare, line_bare]
    cases p with
    | empty =>
      refine (Site.mirrors_readSocket hsure site he).bind fun i _ => ?_
      exact Mirrors.ok (Progress.bare ids) (input i)
    | input i =>
      refine (Site.mirrors_readSocket hsure site he).bind fun o _ => ?_
      exact Mirrors.ok (Progress.bare ids) (both i o)
    | combining combiner =>
      refine (Site.mirrors_readFanIn hsure site hp he).bind fun wiring _ => ?_
      exact Mirrors.ok (Progress.bare ids) (fanned wiring)
    | _ => exact Mirrors.of_eq_map rfl

/-- **Connections** declare the same but for what their network sockets say of routes. -/
theorem ConnectionDecl.mirrors_atSite {site : Site} (hsite : site.element ∈ root.members) :
    Mirrors sure (ConnectionDecl.bare ids) (atSite site) (atSite (site.bare ids)) := by
  have hchild : ∀ e ∈ site.element.children, e ∈ root.members :=
    fun e he => child_mem_members hsite he
  have hprogress : Mirrors sure (Progress.bare ids)
      (site.element.children.foldlM (Progress.add site) .empty)
      ((site.bare ids).element.children.foldlM (Progress.add (site.bare ids)) .empty) := by
    have hempty : Progress.empty.InDocument root := trivial
    have hloop := Mirrors.foldlM (Progress.InDocument root)
      (fun p e p' he _ h => Progress.inDocument_add (hchild e he) h)
      (fun p e he hp => Progress.mirrors_add hsure site hp (hchild e he)) hempty
    rw [← children_bare] at hloop
    exact hloop
  have hfinish : ∀ p : Progress,
      (p.bare ids).finish (site.bare ids) = (p.finish site).map (Wiring.bare ids) := by
    intro p
    unfold Progress.finish Site.bare
    rw [name_bare, line_bare]
    cases p <;> rfl
  unfold atSite
  refine hprogress.bind fun p _ => (Mirrors.of_eq_map (hfinish p)).bind fun wiring _ => ?_
  rw [Site.link_bare]
  refine Mirrors.of_eq_map ?_
  simp only [Site.bare, line_bare]
  rfl

end Connections

end MediaNetwork

/-
  Refusals while reading.

  A reader of an element of the document blames the document, and what its errors say of a place is
  true (`Blames root`).  The property goes along with the way computations are put together (`bind`,
  `mapM`, `foldlM`), so it climbs from the readers of attributes over scripts and connections to the
  nodes, always with the shape of the reader it is about.

  1. Scripts — the pauses before an action are carried along as `PauseFor`, so the sum that
     overflows is that of the last consecutive pauses (`blames_stepsFrom`).
  2. Connections — a reader blames the child it reads, the fan around it or the connection element.
  3. Nodes — of the builder it has to be known that joining a connection finds the sides it looks up
     (`Builder.join_eq_ok`); the error of a connection that cannot be joined names the line that its
     declaration took from its element.
-/
import MediaNetwork.Proofs.Connection.Reading
import MediaNetwork.Proofs.Graph.Joining
import MediaNetwork.Proofs.Refusal.Located

namespace MediaNetwork

open MediaNetwork.Markup MediaNetwork.Outcome

/-- Whatever stops the computation is a fault of the document. -/
def BlamesDocument {α : Type} (x : Except CompileError α) : Prop :=
  ∀ e, x = .error e → e.kind = .document

/-- What blames the document blames it whatever its root is. -/
theorem Blames.document {root : Element} {α : Type} {x : Except CompileError α}
    (h : Blames root x) : BlamesDocument x := fun e he => (h e he).document

/-! ## Scripts -/

namespace Action

variable {root e : Element} (he : e ∈ root.members)

include he

/-- A message is refused for one of its attributes. -/
theorem blames_readSend (hname : e.name = Schema.msgSend) : Blames root (readSend e) := by
  unfold readSend
  refine .bind (e.blames_byte he _) fun _ _ => .bind (e.blames_byte? he _) fun _ _ => ?_
  refine .bind (e.blames_word he _) fun _ _ => .bind (e.blames_byte he _) fun _ _ => ?_
  refine .bind (e.blames_payload? he (by rw [hname]; rfl) fun value h => ?_) fun _ _ => ?_
  · rw [h]
    rfl
  · exact .bind (e.blames_byte? he _) fun _ _ => .ok _

omit he in
/-- A payload that is read is written in the attribute. -/
theorem exists_of_payload {key : String} {bytes : List UInt8} (h : e.payload key = .ok bytes) :
    ∃ text, e.attribute? key = some text ∧ readPayload text = some bytes := by
  unfold Element.payload Element.payload? at h
  cases hattribute : e.attribute? key with
  | none =>
    rw [hattribute] at h
    nomatch h
  | some text =>
    rw [hattribute] at h
    refine ⟨text, rfl, ?_⟩
    cases hread : readPayload text with
    | none =>
      simp only [hread] at h
      nomatch h
    | some read =>
      simp only [hread] at h
      cases h
      rfl

/-- So is the configuration of pins; an odd number of bytes is a value the rule of the attribute
    rejects. -/
theorem blames_readPinMode (hname : e.name = Schema.gpioPortPinMode) :
    Blames root (readPinMode e) := by
  have hrule : Schema.valueRule? e.name Schema.pinConfiguration =
      some fun value => (readPayload value).any fun bytes => bytes.length % 2 == 0 := by
    rw [hname]
    rfl
  unfold readPinMode
  refine .bind (e.blames_payload he hrule fun value h => ?_) fun configuration hread => ?_
  · simp only [h, Option.any_none]
  split
  · exact .ok _
  · rename_i hodd
    obtain ⟨text, hattribute, htext⟩ := exists_of_payload hread
    rw [hattribute]
    refine e.blames_invalid he hattribute hrule ?_
    simpa [htext] using hodd

/-- A write is refused for one of its attributes, or for having too many bytes. -/
theorem blames_readI2cWrite (hname : e.name = Schema.i2cPortWrite) :
    Blames root (readI2cWrite e) := by
  unfold readI2cWrite
  refine .bind (e.blames_keyword he (by rw [hname]; rfl) rfl) fun _ _ => ?_
  refine .bind (e.blames_byte? he _) fun _ _ => .bind (e.blames_byte he _) fun _ _ => ?_
  refine .bind (e.blames_word he _) fun _ _ => ?_
  refine .bind (e.blames_payload he (by rw [hname]; rfl) fun value h => ?_) fun data hread => ?_
  · rw [h]
    rfl
  split
  · exact .ok _
  · rename_i hlong
    obtain ⟨text, hattribute, htext⟩ := exists_of_payload hread
    refine .error (.at he rfl rfl ⟨rfl, Or.inr (Or.inr ⟨rfl, rfl, hname, text, data, hattribute,
      htext, ?_, rfl⟩)⟩)
    omega

/-- **Actions**: whatever is wrong with an action is said of its element. -/
theorem blames_ofElement : Blames root (ofElement e) := by
  unfold ofElement
  split
  · exact blames_readSend he ‹_›
  split
  · exact .bind (e.blames_word he _) fun _ _ => .ok _
  split
  · exact blames_readPinMode he ‹_›
  split
  · exact .bind (e.blames_word he _) fun _ _ => .bind (e.blames_word he _) fun _ _ => .ok _
  split
  · rename_i hname
    exact .bind (e.blames_keyword he (by rw [hname]; rfl) rfl) fun _ _ => .ok _
  split
  · exact blames_readI2cWrite he ‹_›
  split
  · refine .bind (e.blames_byte he _) fun _ _ => .bind (e.blames_byte he _) fun _ _ => ?_
    exact .bind (e.blames_word he _) fun _ _ => .ok _
  · refine e.blames_shape he fun name h => ?_
    exact Option.some.inj h

end Action

namespace Script

variable {root script : Element}

/-- No pause takes no time. -/
theorem pauseFor_nil : PauseFor [] (0 : UInt16).toNat :=
  ⟨fun _ h => (nomatch h), [], List.Forall₂.nil, rfl⟩

/-- One more pause takes its own time longer. -/
theorem PauseFor.append {es : List Element} {total : Nat} (h : PauseFor es total) {e : Element}
    (he : isPause e = true) {wait : UInt16} (hwait : e.word Schema.waitTime = .ok wait) :
    PauseFor (es ++ [e]) (total + wait.toNat) := by
  obtain ⟨hall, waits, hwaits, rfl⟩ := h
  refine ⟨?_, waits ++ [wait], ?_, by simp⟩
  · intro p hp
    rcases List.mem_append.mp hp with hp | hp
    · exact hall p hp
    · rwa [List.mem_singleton.mp hp]
  · exact List.rel_append hwaits (List.Forall₂.cons hwait List.Forall₂.nil)

/-- A pause that adds too much is the last of consecutive pauses that take too long together. -/
theorem blames_addPause {before run es : List Element} {pending : UInt16} {e : Element}
    (hscript : script ∈ root.members) (hchildren : script.children = before ++ run ++ e :: es)
    (hbefore : ∀ p, before.getLast? = some p → isPause p = false)
    (hrun : PauseFor run pending.toNat) (he : isPause e = true) :
    Blames root (addPause pending e) := by
  have hmem : e ∈ root.members := by
    refine Element.child_mem_members hscript ?_
    rw [hchildren]
    exact List.mem_append_right _ List.mem_cons_self
  unfold addPause
  refine .bind (e.blames_word hmem _) fun wait hwait => ?_
  simp only
  split
  · exact .ok _
  · rename_i hlong
    refine .error (.at hmem rfl rfl ⟨rfl, Or.inr (Or.inl ⟨rfl, rfl, ?_⟩)⟩)
    have hsum := hrun.append he hwait
    have hbound := pending.toNat_lt
    refine ⟨script, hscript, before, run, es, _, _, ?_, hbefore, hrun, by omega, hsum, by omega,
      rfl⟩
    rw [hchildren]
    simp

/-- A sum that fits a word is the sum. -/
theorem addPause_eq_ok {pending total : UInt16} {e : Element} (h : addPause pending e = .ok total) :
    ∃ wait, e.word Schema.waitTime = .ok wait ∧ total.toNat = pending.toNat + wait.toNat := by
  obtain ⟨wait, hwait, h⟩ := bind_eq_ok.mp h
  simp only at h
  split at h
  · rename_i hle
    cases h
    refine ⟨wait, hwait, ?_⟩
    show (pending.toNat + wait.toNat) % 2 ^ 16 = pending.toNat + wait.toNat
    omega
  · nomatch h

/-- The steps fail where a pause or an action does.  The induction goes over the children, of which
    `run` are the pauses just before the next one. -/
theorem blames_stepsFrom (hscript : script ∈ root.members) (before run : List Element)
    {es : List Element} {pending : UInt16} (hchildren : script.children = before ++ run ++ es)
    (hbefore : ∀ p, before.getLast? = some p → isPause p = false)
    (hrun : PauseFor run pending.toNat) (done : List ScriptStep) :
    Blames root (stepsFrom pending done es) := by
  -- on the children that are left; `run` are the pauses just before them, `before` what stands
  -- before
  induction es generalizing before run pending done with
  | nil => exact .ok _
  | cons e es ih =>
    unfold stepsFrom
    split
    · rename_i hpause
      split
      · rename_i fault hfault
        exact .error (blames_addPause hscript hchildren hbefore hrun hpause fault hfault)
      · rename_i total htotal
        obtain ⟨wait, hwait, hsum⟩ := addPause_eq_ok htotal
        have hnext := hrun.append hpause hwait
        rw [← hsum] at hnext
        refine ih before (run ++ [e]) ?_ hbefore hnext done
        rw [hchildren]
        simp
    · rename_i hpause
      split
      · rename_i fault hfault
        refine .error (Action.blames_ofElement (Element.child_mem_members hscript ?_) fault hfault)
        rw [hchildren]
        exact List.mem_append_right _ List.mem_cons_self
      · refine ih (before ++ run ++ [e]) [] ?_ (fun p hp => ?_) pauseFor_nil _
        · rw [hchildren]
          simp
        · rw [List.getLast?_append] at hp
          cases hp
          simpa using hpause

/-- A script is refused for its name or for one of its children. -/
theorem blames_ofElement (he : script ∈ root.members) : Blames root (ofElement script) := by
  unfold ofElement
  refine .bind (script.blames_text he _) fun _ _ => ?_
  refine .bind (blames_stepsFrom he [] [] rfl ?_ pauseFor_nil []) fun _ _ => ?_
  · intro p hp
    nomatch hp
  · exact .ok _

/-- A script whose name came before is refused on its own line. -/
theorem blames_addTo (he : script ∈ root.members) (scripts : List Script) :
    Blames root (addTo scripts script) := by
  unfold addTo
  refine .bind (blames_ofElement he) fun _ _ => ?_
  split
  · exact script.blames_shape he fun _ h => nomatch h
  · exact .ok _

theorem blames_ofElements {es : List Element} (hes : ∀ e ∈ es, e ∈ root.members) :
    Blames root (ofElements es) :=
  .foldlM (fun _ => True) (fun _ _ _ _ _ _ => trivial)
    (fun scripts e he _ => blames_addTo (hes e he) scripts) trivial

end Script

/-! ## Connections -/

namespace Site

variable {root : Element} {site : Site} (hsite : site.element ∈ root.members)

include hsite in
/-- A link is refused for being on another connection. -/
theorem blames_checkLink : Blames root site.checkLink := by
  unfold checkLink
  split
  · exact site.element.blames_shape hsite fun _ h => nomatch h
  · exact .ok _

section Sockets

variable {e : Element} (he : e ∈ root.members)

include he

theorem blames_readOffset (inFan : Bool) : Blames root (site.readOffset inFan e) := by
  unfold readOffset
  split
  · exact .ok _
  · split
    · exact (e.blames_word he _).map _
    · exact e.blames_word? he _

/-- A network socket is refused for one of its own attributes. -/
theorem blames_readNetwork (hname : e.name = Schema.networkSocket) (inFan : Bool) :
    Blames root (site.readNetwork inFan e) := by
  unfold readNetwork
  refine .bind (e.blames_word he _) fun _ _ => .bind (e.blames_text he _) fun _ _ => ?_
  refine .bind (e.blames_keyword? he (by rw [hname]; rfl) rfl) fun _ _ => ?_
  refine .bind (e.blames_word? he _) fun _ _ => ?_
  exact .bind (blames_readOffset he inFan) fun _ _ => .ok _

/-- A socket is refused for one of its own attributes, or for its name. -/
theorem blames_readSocket : Blames root (site.readSocket e) := by
  unfold readSocket
  split
  · exact .bind (blames_readNetwork he ‹_› false) fun _ _ => .ok _
  split
  · exact .bind (e.blames_byte he _) fun _ _ => .bind (e.blames_word he _) fun _ _ => .ok _
  split
  · exact .bind (e.blames_word he _) fun _ _ => .bind (e.blames_word he _) fun _ _ => .ok _
  split
  · rename_i hname
    refine .bind (e.blames_keyword he (by rw [hname]; rfl) rfl) fun _ _ => ?_
    refine .bind (e.blames_word he _) fun _ _ => ?_
    split
    · exact .ok _
    · refine e.blames_shape he fun name h => ?_
      exact hname.trans (Option.some.inj h)
  · refine e.blames_shape he fun name h => ?_
    exact Option.some.inj h

end Sockets

include hsite

/-- What a fan holds is refused branch by branch; a stranger among the branches is named. -/
theorem blames_readBranches {fan : Element} (hfan : fan ∈ root.members) :
    Blames root (site.readBranches fan) := by
  refine .mapM fun e hmem => ?_
  have he : e ∈ root.members := Element.child_mem_members hfan hmem
  unfold readBranch
  split
  · refine e.blames_shape he fun name h => ?_
    exact Option.some.inj h
  · rename_i hname
    refine .bind (blames_readNetwork he (not_not.mp hname) true) fun _ _ => ?_
    exact .bind (blames_checkLink hsite) fun _ _ => .ok _

theorem blames_readFanOut {e : Element} (he : e ∈ root.members) (input : SocketDecl) :
    Blames root (site.readFanOut input e) := by
  unfold readFanOut
  refine .bind (e.blames_word he _) fun _ _ => ?_
  refine .bind (e.blames_countChildren he rfl _) fun _ _ => ?_
  exact .bind (blames_readBranches hsite he) fun _ _ => .ok _

theorem blames_readFanIn {combiner e : Element} (hcombiner : combiner ∈ root.members)
    (he : e ∈ root.members) : Blames root (site.readFanIn combiner e) := by
  unfold readFanIn
  refine .bind (blames_readSocket he) fun _ _ => ?_
  refine .bind (combiner.blames_word hcombiner _) fun _ _ => ?_
  exact .bind (blames_readBranches hsite hcombiner) fun _ _ => .ok _

end Site

namespace Progress

variable {root : Element} {site : Site}

/-- A combiner that was read is an element of the document. -/
def InDocument (root : Element) : Progress → Prop
  | combining combiner => combiner ∈ root.members
  | _ => True

/-- What has been read of a connection stays within the document with each child. -/
theorem inDocument_add {p p' : Progress} {e : Element} (he : e ∈ root.members)
    (h : p.add site e = .ok p') : p'.InDocument root := by
  -- only a combiner is kept as an element, and it is the child itself
  cases add_eq_ok.mp h with
  | combiner name counted => exact he
  | _ => trivial

section Add

variable {p : Progress} {e : Element} (hsite : site.element ∈ root.members)
  (hp : p.InDocument root) (he : e ∈ root.members)

include he

theorem blames_addCombiner (hname : e.name = Schema.combiner) : Blames root (p.addCombiner e) := by
  have hmisplaced : Blames root (.error (.shape .combinerAsOutput e.line) : Except _ Progress) :=
    e.blames_shape he fun name h => hname.trans (Option.some.inj h)
  cases p with
  | empty => exact .bind (e.blames_countChildren he rfl _) fun _ _ => .ok _
  | fanned wiring => exact e.blames_shape he fun name h => Option.some.inj h
  | _ => exact hmisplaced

include hsite

theorem blames_addSplitter (hname : e.name = Schema.splitter) :
    Blames root (p.addSplitter site e) := by
  have hmisplaced : Blames root (.error (.shape .splitterAsInput e.line) : Except _ Progress) :=
    e.blames_shape he fun name h => hname.trans (Option.some.inj h)
  cases p with
  | input i => exact .bind (Site.blames_readFanOut hsite he i) fun _ _ => .ok _
  | both i o => exact e.blames_shape he fun name h => Option.some.inj h
  | fanned wiring => exact e.blames_shape he fun name h => Option.some.inj h
  | _ => exact hmisplaced

include hp

theorem blames_addSocket : Blames root (p.addSocket site e) := by
  cases p with
  | empty => exact .bind (Site.blames_readSocket he) fun _ _ => .ok _
  | input i => exact .bind (Site.blames_readSocket he) fun _ _ => .ok _
  | combining combiner => exact .bind (Site.blames_readFanIn hsite hp he) fun _ _ => .ok _
  | _ => exact e.blames_shape he fun name h => Option.some.inj h

/-- **One child** of a connection is refused on its own line, whatever was read before it. -/
theorem blames_add : Blames root (p.add site e) := by
  unfold add
  split
  · exact blames_addSplitter hsite he ‹_›
  split
  · exact blames_addCombiner he ‹_›
  · exact blames_addSocket hsite hp he

end Add

/-- What a connection lacks at its end is said of the connection. -/
theorem blames_finish (hsite : site.element ∈ root.members) (p : Progress) :
    Blames root (p.finish site) := by
  cases p with
  | fanned wiring => exact .ok _
  | both i o => exact .ok _
  | combining combiner => exact site.element.blames_shape hsite fun _ h => nomatch h
  | _ => exact site.element.blames_shape hsite fun name h => Option.some.inj h

end Progress

/-- **Connections**: whatever is wrong with a connection is said of it, of one of its children or of
    a branch. -/
theorem ConnectionDecl.blames_atSite {root : Element} {site : Site}
    (hsite : site.element ∈ root.members) : Blames root (ConnectionDecl.atSite site) := by
  have hchild : ∀ e ∈ site.element.children, e ∈ root.members :=
    fun e he => Element.child_mem_members hsite he
  unfold atSite
  refine .bind ?_ fun progress _ => .bind (Progress.blames_finish hsite progress) fun _ _ => .ok _
  exact .foldlM (Progress.InDocument root)
    (fun p e p' he _ h => Progress.inDocument_add (hchild e he) h)
    (fun p e he hp => Progress.blames_add hsite hp (hchild e he)) trivial

/-- The style of a connection element goes with its name. -/
theorem ConnectionStyle.blames_ofElement? {root e : Element} (he : e ∈ root.members)
    {style : Except CompileError ConnectionStyle} (h : ofElement? e = some style) :
    Blames root style ∧ ∀ s, style = .ok s → e.name = s.element := by
  unfold ofElement? at h
  split at h
  · rename_i hname
    cases h
    refine ⟨(e.blames_keyword? he (by rw [hname]; rfl) rfl).map _, fun s hs => ?_⟩
    obtain ⟨mode, -, rfl⟩ := map_eq_ok.mp hs
    exact hname
  · split at h
    · rename_i hname
      cases h
      refine ⟨(e.blames_keyword? he (by rw [hname]; rfl) rfl).map _, fun s hs => ?_⟩
      obtain ⟨size, -, rfl⟩ := map_eq_ok.mp hs
      exact hname
    · nomatch h

/-! ## Nodes -/

theorem blames_onlyChild {root e : Element} (he : e ∈ root.members) (node : UInt16)
    (name : String) : Blames root (onlyChild node e name) := by
  unfold onlyChild
  split
  · exact .ok _
  · exact .ok _
  · exact e.blames_shape he fun _ h => nomatch h

/-- The only child of a name is a child of that name. -/
theorem mem_of_onlyChild {node : UInt16} {e port : Element} {name : String}
    (h : onlyChild node e name = .ok (some port)) : port ∈ e.children ∧ port.name = name := by
  unfold onlyChild at h
  split at h
  · nomatch h
  · rename_i child hchild
    cases h
    refine Element.mem_childrenNamed.mp ?_
    rw [hchild]
    exact List.mem_singleton_self _
  · nomatch h

namespace Builder

variable {root e : Element} (he : e ∈ root.members) (b : Builder)

include he

theorem blames_declareMediaLb (node : UInt16) : Blames root (b.declareMediaLb node e) := by
  unfold declareMediaLb
  refine .bind (blames_onlyChild he _ _) fun port hport => ?_
  cases port with
  | none => exact .ok _
  | some port =>
    obtain ⟨hmem, hname⟩ := mem_of_onlyChild hport
    have hp : port ∈ root.members := Element.child_mem_members he hmem
    exact .bind (port.blames_keyword hp (by rw [hname]; rfl) rfl) fun _ _ => .ok _

theorem blames_readUsbSettings (hname : e.name = Schema.usbPort) :
    Blames root (readUsbSettings e) := by
  unfold readUsbSettings
  refine .bind (e.blames_keyword he (by rw [hname]; rfl) rfl) fun _ _ => ?_
  refine .bind (e.blames_word he _) fun _ _ => ?_
  exact .bind (e.blames_byte? he _) fun _ _ => .bind (e.blames_byte? he _) fun _ _ => .ok _

theorem blames_declareUsb (node : UInt16) : Blames root (b.declareUsb node e) := by
  unfold declareUsb
  refine .bind (blames_onlyChild he _ _) fun port hport => ?_
  cases port with
  | none => exact .ok _
  | some port =>
    obtain ⟨hmem, hname⟩ := mem_of_onlyChild hport
    have hp : port ∈ root.members := Element.child_mem_members he hmem
    exact .bind (blames_readUsbSettings hp hname) fun _ _ => .ok _

theorem blames_readStreamSettings (hname : e.name = Schema.streamPort) :
    Blames root (readStreamSettings e) := by
  unfold readStreamSettings
  refine .bind (e.blames_keyword he (by rw [hname]; rfl) rfl) fun _ _ => ?_
  exact .bind (e.blames_keyword he (by rw [hname]; rfl) rfl) fun _ _ => .ok _

theorem blames_declareStream (node : UInt16) : Blames root (b.declareStream node e) := by
  unfold declareStream
  refine .bind (blames_onlyChild he _ _) fun port hport => ?_
  cases port with
  | none => exact .ok _
  | some port =>
    obtain ⟨hmem, hname⟩ := mem_of_onlyChild hport
    have hp : port ∈ root.members := Element.child_mem_members he hmem
    exact .bind (blames_readStreamSettings hp hname) fun _ _ => .ok _

/-- The ports of a node are refused for being there twice, or for one of their attributes. -/
theorem blames_declarePorts (node : UInt16) : Blames root (b.declarePorts node e) := by
  unfold declarePorts
  refine .bind (blames_declareMediaLb he b node) fun b₁ _ => ?_
  exact .bind (blames_declareUsb he b₁ node) fun b₂ _ => blames_declareStream he b₂ node

omit he in
/-- The declaration was read from an element of the document. -/
def ReadFrom (root : Element) (d : ConnectionDecl) : Prop :=
  ∃ e ∈ root.members, e.line = d.line ∧ e.name = d.style.element

omit he in
/-- A link that an earlier connection has is refused on the line of the connection that was read. -/
theorem blames_checkLink {d : ConnectionDecl} (hd : ReadFrom root d) :
    Blames root (b.checkLink d) := by
  obtain ⟨e, he, hline, -⟩ := hd
  unfold checkLink
  split
  · rw [← hline]
    exact e.blames_shape he fun _ h => nomatch h
  · exact .ok _

omit he in
/-- The sides of a connection are found where they were created. -/
theorem blames_join {d : ConnectionDecl} (hd : ReadFrom root d) : Blames root (b.join d) := by
  unfold join
  cases d.wiring with
  | plain input output =>
    simp only [joinPlain_eq]
    split
    · exact (b.blames_checkLink hd).map _
    · obtain ⟨e, he, hline, hname⟩ := hd
      rw [← hline]
      refine e.blames_shape he fun name h => ?_
      exact hname.trans (Option.some.inj h)
  | fanOut input bytesPerFrame branches =>
    simp only [joinFanOut_eq]
    exact .ok _
  | fanIn bytesPerFrame branches output =>
    simp only [joinFanIn_eq]
    exact .ok _

omit he in
/-- A declaration keeps the line and the style of its element. -/
theorem readFrom_of_atSite {site : Site} {d : ConnectionDecl}
    (hsite : site.element ∈ root.members) (hname : site.element.name = site.style.element)
    (h : ConnectionDecl.atSite site = .ok d) : ReadFrom root d := by
  obtain ⟨progress, -, h⟩ := bind_eq_ok.mp h
  obtain ⟨wiring, -, h⟩ := bind_eq_ok.mp h
  cases h
  exact ⟨site.element, hsite, rfl, hname⟩

/-- A child of a node is a port, which is passed over here, a connection or a stranger. -/
theorem blames_addNodeChild (node : UInt16) : Blames root (addNodeChild node b e) := by
  unfold addNodeChild
  split
  · exact .ok _
  · split
    · rename_i style hstyle
      obtain ⟨hblames, hname⟩ := ConnectionStyle.blames_ofElement? he hstyle
      refine .bind hblames fun s hs => ?_
      unfold addConnection
      refine .bind (ConnectionDecl.blames_atSite he) fun d hd => ?_
      exact b.blames_join (readFrom_of_atSite he (hname s hs) hd)
    · refine e.blames_shape he fun name h => ?_
      exact Option.some.inj h

/-- **Nodes**: whatever is wrong with a node is said of it or of what it holds. -/
theorem blames_addNode : Blames root (b.addNode e) := by
  unfold addNode claimAddress buildNode
  refine .bind (.bind (e.blames_word he _) fun address _ => ?_) fun address _ => ?_
  · split
    · exact e.blames_shape he fun _ h => nomatch h
    · exact .ok _
  · refine .bind (blames_declarePorts he _ _) fun b' _ => .bind ?_ fun _ _ => .ok _
    exact .foldlM (fun _ => True) (fun _ _ _ _ _ _ => trivial)
      (fun b c hc _ => blames_addNodeChild (Element.child_mem_members he hc) b address) trivial

theorem blames_addRootChild : Blames root (b.addRootChild e) := by
  unfold addRootChild
  split
  · exact blames_addNode he b
  · split
    · exact .ok _
    · refine e.blames_shape he fun name h => ?_
      exact Option.some.inj h

end Builder

/-- The children of the root are all in the document, so each of them is refused on a line of its
    own. -/
theorem blames_buildNodes (root : Element) : Blames root (buildNodes root) :=
  .foldlM (fun _ => True) (fun _ _ _ _ _ _ => trivial)
    (fun b _ he _ => Builder.blames_addRootChild
      (Element.child_mem_members root.mem_members_self he) b) trivial

/-! ## Documents -/

theorem blames_checkRoot (root : Element) : Blames root (checkRoot root) := by
  unfold checkRoot
  split
  · exact .ok _
  · refine root.blames_shape root.mem_members_self fun name h => ?_
    exact Option.some.inj h

/-- The root is refused for its name, for its bandwidth or for want of a node. -/
theorem blames_readHeader (root : Element) : Blames root (readHeader root) := by
  have hroot := root.mem_members_self
  unfold readHeader
  refine .bind (blames_checkRoot root) fun _ _ => .bind (root.blames_word hroot _) fun _ _ => ?_
  exact .bind (root.blames_countChildren hroot rfl _) fun _ _ => .ok _

end MediaNetwork

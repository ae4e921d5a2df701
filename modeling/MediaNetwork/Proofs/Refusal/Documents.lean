/-
  Refusals of documents.

  Behind the readers, every stage checks again what the stages before it promise: that an endpoint
  faces a network socket, that the sides of a connection lead to sockets, that there are as many
  routes as pairs, that a script has its node.  These checks never fail on a graph that was built:

  1. scripts — linking is linking each node (`linkScripts_eq`), which only fails to find a script;
  2. routes — endpoints face the network (`Endpoint.TypedAt`), and every pair gets one route;
  3. drivers — a link is that of an endpoint (`Builder.Accounted`), whose connection is typed, and
     it is recorded with the line of its connection element (`Builder.LinksIn`).

  So whatever the text, either it compiles and the reporter hears nothing, or it is refused for a
  fault of its own, and the reporter hears of it once (`refusal_blames_document`).  And if the
  refusal names a line, what it says of the element there is true (`refusal_describes`).
-/
import MediaNetwork.Proofs.Graph.Facing
import MediaNetwork.Proofs.Graph.Ownership
import MediaNetwork.Proofs.Refusal.Reading
import MediaNetwork.Proofs.Route.Acceptance

namespace MediaNetwork

open MediaNetwork.Markup MediaNetwork.Outcome

/-! ## Scripts -/

/-- A node that refers to a script that is not there is to blame. -/
theorem blames_linkScript (root : Element) (scripts : List Script) (n : Node) :
    Blames root (linkScript scripts n) := by
  unfold linkScript
  split
  · exact .ok _
  · split
    · exact .ok _
    · exact .error (.reference root _)

/-- So is a script that no node refers to. -/
theorem blames_linkScripts (root : Element) (scripts : List Script) (nodes : List Node) :
    Blames root (linkScripts scripts nodes) := by
  rw [linkScripts_eq]
  refine .bind (.mapM fun n _ => blames_linkScript root scripts n) fun linked _ => ?_
  split
  · exact .error (.reference root _)
  · exact .ok _

/-! ## Routes -/

/-- What faces the network is a network socket. -/
theorem Endpoint.TypedAt.isNetwork {a : Arena} {e : Endpoint} (h : e.TypedAt a) :
    a.IsNetwork e.networkSocket := by
  obtain ⟨k, -, -, -, ⟨hnetwork, -, hfaces⟩ | ⟨-, -, hfaces, hnetwork⟩⟩ := h
  · rwa [hfaces]
  · rwa [hfaces]

/-- Endpoints that face the network are refused for a reference only. -/
theorem Route.blames_assemble (root : Element) {a : Arena} {endpoints : List Endpoint}
    (h : ∀ e ∈ endpoints, a.IsNetwork e.networkSocket) : Blames root (assemble a endpoints) := by
  refine (assemble_error h).mono fun fault hfault => ?_
  obtain ⟨reference, rfl⟩ := hfault
  exact .reference root reference

/-! ## Drivers -/

namespace DriverRecord

/-- **The host's socket** of a side is the one the side leads to. -/
theorem hostSocket_eq_ok {a : Arena} {side : ResourceId} {s : Socket} :
    hostSocket a side = .ok s ↔ a.sideSocket? side = some s := by
  have hwrapped : ∀ id, hostSocket.wrapped a id = .ok s ↔ a.socket? id = some s := by
    intro id
    unfold hostSocket.wrapped Arena.socket? Arena.get
    cases a.get? id with
    | none => simp
    | some r => cases r <;> simp [Resource.socket?]
  unfold hostSocket Arena.sideSocket? Arena.get
  cases a.get? side with
  | none => simp
  | some r =>
    cases r with
    | socket t => simp
    | splitter f => exact hwrapped f.socketIn
    | combiner f => exact hwrapped f.socketOut
    | port p => simp
    | connection k => simp

/-- One side of the connection of an endpoint has a bandwidth on the network. -/
theorem exists_bandwidth {a : Arena} {e : Endpoint} {k : Connection} (h : e.Faces a k)
    {output input : Resource} (ho : a.get? k.socketOut = some output)
    (hi : a.get? k.socketIn = some input) :
    ∃ bandwidth, (networkBandwidth? output <|> networkBandwidth? input) = some bandwidth := by
  rcases h with ⟨hnetwork, -⟩ | ⟨-, -, -, hnetwork⟩
  · obtain ⟨port, direction, dataType, bandwidth, decl, hs⟩ := hnetwork.exists_socket
    obtain rfl := Option.some.inj (ho.symm.trans hs)
    exact ⟨bandwidth, rfl⟩
  · obtain ⟨port, direction, dataType, bandwidth, decl, hs⟩ := hnetwork.exists_socket
    obtain rfl := Option.some.inj (hi.symm.trans hs)
    cases hout : networkBandwidth? output with
    | none => exact ⟨bandwidth, rfl⟩
    | some other => exact ⟨other, rfl⟩

/-- All that is looked up for a record is there: the connection of the endpoint with its two sides,
    a bandwidth on the network, and the socket of the host. -/
theorem exists_host {a : Arena} {e : Endpoint} (he : e.TypedAt a) :
    ∃ k output input bandwidth host, a.get e.connection = .ok (.connection k) ∧
      a.get k.socketOut = .ok output ∧ a.get k.socketIn = .ok input ∧
      (networkBandwidth? output <|> networkBandwidth? input) = some bandwidth ∧
      hostSocket a (if output.isNetworkSocket then k.socketIn else k.socketOut) = .ok host := by
  obtain ⟨k, hk, hin, hout, hfaces⟩ := he
  obtain ⟨output, ho⟩ := hout.exists_get?
  obtain ⟨input, hi⟩ := hin.exists_get?
  obtain ⟨bandwidth, hb⟩ := exists_bandwidth hfaces ho hi
  -- the host is looked for on the side that does not face the network; both lead to a socket
  obtain ⟨host, hhost⟩ : ∃ s, hostSocket a
      (if output.isNetworkSocket then k.socketIn else k.socketOut) = .ok s := by
    split
    · obtain ⟨host, hhost, -, -⟩ := hin
      exact ⟨host, hostSocket_eq_ok.mpr hhost⟩
    · obtain ⟨host, hhost, -, -⟩ := hout
      exact ⟨host, hostSocket_eq_ok.mpr hhost⟩
  exact ⟨k, output, input, bandwidth, host, Arena.get_eq_ok.mpr hk, Arena.get_eq_ok.mpr ho,
    Arena.get_eq_ok.mpr hi, hb, hhost⟩

/-- The record of a link fails to be inferred only if no driver can serve the link. -/
theorem blames_infer {root : Element} {a : Arena} {candidate : LinkCandidate} {e : Endpoint}
    (he : e.TypedAt a) (hconnection : e.connection = candidate.connection)
    (hline : ∃ x ∈ root.members, x.line = candidate.line) : Blames root (infer a candidate) := by
  obtain ⟨k, output, input, bandwidth, host, hk, ho, hi, hb, hhost⟩ := exists_host he
  rw [hconnection] at hk
  simp only [infer, hk, ho, hi, hb, hhost, ok_bind]
  split
  · obtain ⟨x, hx, hline⟩ := hline
    rw [← hline]
    exact x.blames_shape hx fun _ h => nomatch h
  · exact .ok _

/-- The first candidates of the links are among the candidates, in their order. -/
theorem candidates_sublist (seen : List String) (links : List LinkCandidate) :
    (candidates seen links).Sublist links := by
  induction links generalizing seen with
  | nil => exact List.Sublist.slnil
  | cons l links ih =>
    unfold candidates
    split
    · exact (ih _).cons _
    · exact (ih _).cons_cons _

section Elements

variable {root e : Element} (he : e ∈ root.members)

include he

/-- A driver without a link, with one that nobody declares or with one that is taken is to blame. -/
theorem blames_assign (hname : e.name = Schema.driver) (links : List String)
    (given : List (String × Element)) : Blames root (assign links given e) := by
  unfold assign
  refine .bind (e.blames_text he _) fun _ _ => ?_
  split
  · exact e.blames_shape he fun name h => hname.trans (Option.some.inj h)
  split
  · exact e.blames_shape he fun name h => hname.trans (Option.some.inj h)
  · exact .ok _

/-- A binding is to blame for its name and its attributes. -/
theorem blames_readBinding : Blames root (readBinding e) := by
  have hbuffers : Blames root (readBuffers e) := by
    unfold readBuffers
    exact .bind (e.blames_word he _) fun _ _ => .bind (e.blames_word he _) fun _ _ => .ok _
  unfold readBinding
  split
  · exact .bind hbuffers fun _ _ => .ok _
  split
  · exact .bind hbuffers fun _ _ => .ok _
  split
  · rename_i hname
    refine .bind hbuffers fun _ _ => .bind (e.blames_byte he _) fun _ _ => ?_
    exact .bind (e.blames_keyword he (by rw [hname]; rfl) rfl) fun _ _ => .ok _
  · refine e.blames_shape he fun name h => ?_
    exact Option.some.inj h

end Elements

theorem blames_expand {root : Element} (record : DriverRecord) {driver : Option Element}
    (hdriver : ∀ e, driver = some e → e ∈ root.members) : Blames root (expand record driver) := by
  cases driver with
  | none => exact .ok _
  | some driver =>
    have he : driver ∈ root.members := hdriver driver rfl
    refine .bind (driver.blames_require he (by decide)) fun _ _ => .mapM fun child hchild => ?_
    exact .bind (blames_readBinding (Element.child_mem_members he hchild)) fun _ _ => .ok _

/-- A driver that was given to a link is one of the driver elements. -/
theorem mem_of_assign {links : List String} {given given' : List (String × Element)} {e : Element}
    (h : assign links given e = .ok given') :
    ∀ p ∈ given', p ∈ given ∨ p.2 = e := by
  obtain ⟨link, -, h⟩ := bind_eq_ok.mp h
  split at h
  · nomatch h
  split at h
  · nomatch h
  · cases h
    intro p hp
    refine (List.mem_append.mp hp).imp_right fun hp => ?_
    rw [List.mem_singleton.mp hp]

/-- **Drivers**: over typed endpoints whose links are on lines of the document nothing but the
    drivers is to blame. -/
theorem blames_derive {root : Element} {a : Arena} {links : List LinkCandidate}
    (h : ∀ l ∈ links, (∃ e : Endpoint, e.TypedAt a ∧ e.connection = l.connection) ∧
      ∃ x ∈ root.members, x.line = l.line) :
    Blames root (derive a links (root.childrenNamed Schema.driver)) := by
  have hdrivers : ∀ e ∈ root.childrenNamed Schema.driver,
      e ∈ root.members ∧ e.name = Schema.driver := by
    intro e he
    obtain ⟨hchild, hname⟩ := Element.mem_childrenNamed.mp he
    exact ⟨Element.child_mem_members root.mem_members_self hchild, hname⟩
  unfold derive
  refine .bind (.mapM fun l hl => ?_) fun inferred _ => .bind ?_ fun given hgiven => ?_
  · obtain ⟨⟨e, he, hconnection⟩, hline⟩ := h l ((candidates_sublist [] links).subset hl)
    exact blames_infer he hconnection hline
  · refine .foldlM (fun _ => True) (fun _ _ _ _ _ _ => trivial) (fun given e he _ => ?_) trivial
    exact blames_assign (hdrivers e he).1 (hdrivers e he).2 _ given
  · have hnone : ∀ p ∈ ([] : List (String × Element)), p.2 ∈ root.members :=
      fun _ hp => nomatch hp
    have hmem : ∀ p ∈ given, p.2 ∈ root.members := by
      refine foldlM_keeps (fun given => ∀ p ∈ given, p.2 ∈ root.members)
        (fun before e after he hbefore hassign p hp => ?_) hnone hgiven
      rcases mem_of_assign hassign p hp with hp | rfl
      · exact hbefore p hp
      · exact (hdrivers _ he).1
    refine .bind (.mapM fun record _ => blames_expand record fun e he => ?_) fun _ _ => .ok _
    obtain ⟨before, after, hsplit, -⟩ := List.lookup_eq_some_iff.mp he
    refine hmem (record.link, e) ?_
    rw [hsplit]
    exact List.mem_append_right _ List.mem_cons_self

end DriverRecord

/-! ## Lines of links -/

namespace Builder

variable {root : Element}

/-- Every link that is recorded names the line of an element of the document. -/
def LinksIn (root : Element) (b : Builder) : Prop :=
  ∀ l ∈ b.links.toList, ∃ e ∈ root.members, e.line = l.line

/-- What the builder's links say does not depend on the rest of it. -/
theorem LinksIn.of_eq {b b' : Builder} (h : b.LinksIn root) (hlinks : b'.links = b.links) :
    b'.LinksIn root := by
  intro l hl
  rw [hlinks] at hl
  exact h l hl

/-- A connection adds no link but its own, on its own line. -/
theorem LinksIn.connect {b : Builder} (h : b.LinksIn root) {d : ConnectionDecl}
    (hd : ReadFrom root d) : (b.connect d).LinksIn root := by
  intro l hl
  rcases linksOn_connect b d l hl with hold | hline
  · exact h l hold
  · obtain ⟨e, he, heline, -⟩ := hd
    exact ⟨e, he, heline.trans hline.symm⟩

/-- What a child of a node adds is on the line of the child. -/
theorem LinksIn.addNodeChild {b b' : Builder} (h : b.LinksIn root) {node : UInt16} {e : Element}
    (he : e ∈ root.members) (hadd : Builder.addNodeChild node b e = .ok b') :
    b'.LinksIn root := by
  unfold Builder.addNodeChild at hadd
  split at hadd
  · cases hadd
    exact h
  split at hadd
  · rename_i style hstyle
    obtain ⟨s, hs, hadd⟩ := bind_eq_ok.mp hadd
    obtain ⟨d, hd, hadd⟩ := bind_eq_ok.mp hadd
    obtain ⟨-, rfl⟩ := join_eq_ok.mp hadd
    have hname := (ConnectionStyle.blames_ofElement? he hstyle).2 s hs
    exact h.connect (readFrom_of_atSite he hname hd)
  · nomatch hadd

theorem LinksIn.addRootChild {b b' : Builder} (h : b.LinksIn root) {e : Element}
    (he : e ∈ root.members) (hadd : b.addRootChild e = .ok b') : b'.LinksIn root := by
  unfold Builder.addRootChild at hadd
  split at hadd
  · obtain ⟨address, -, hadd⟩ := bind_eq_ok.mp hadd
    obtain ⟨b₁, h₁, hadd⟩ := bind_eq_ok.mp hadd
    obtain ⟨b₂, h₂, hadd⟩ := bind_eq_ok.mp hadd
    cases hadd
    have hstart : b₁.LinksIn root := by
      obtain ⟨ports, -, -, -, hdeclare⟩ := declarePorts_plan h₁
      rw [hdeclare none []]
      exact h.of_eq (links_declare b _)
    have hend : b₂.LinksIn root := foldlM_keeps (LinksIn root) (fun _ c _ hc hbefore hchild =>
      hbefore.addNodeChild (Element.child_mem_members he hc) hchild) hstart h₂
    exact hend.of_eq rfl
  · split at hadd
    · cases hadd
      exact h
    · nomatch hadd

/-- **Lines of links**: every link of the graph is on the line of an element. -/
theorem linksIn_of_buildNodes {b : Builder} (h : buildNodes root = .ok b) : b.LinksIn root := by
  have hstart : Builder.empty.LinksIn root := fun _ hl => nomatch hl
  exact foldlM_keeps (LinksIn root) (fun _ _ _ he hbefore hchild =>
    hbefore.addRootChild (Element.child_mem_members root.mem_members_self he) hchild) hstart h

end Builder

/-! ## Documents -/

/-- **Assembly**: over a graph that was built, scripts, routes and drivers end well or blame the
    document. -/
theorem blames_assemble {root : Element} {b : Builder} (hb : buildNodes root = .ok b)
    (packetBandwidth : UInt16) (scripts : List Script) :
    Blames root (assemble packetBandwidth root b scripts) := by
  obtain ⟨plans, hbuilt, -⟩ := Builder.built_of_buildNodes hb
  have htyped : ∀ e ∈ b.endpoints.toList, e.TypedAt b.arena := fun e => hbuilt.graph.typedAt
  unfold assemble
  refine .bind (blames_linkScripts _ _ _) fun _ _ => ?_
  refine .bind (Route.blames_assemble root fun e he => (htyped e he).isNetwork) fun _ _ => ?_
  refine .bind (DriverRecord.blames_derive fun l hl => ⟨?_, ?_⟩) fun _ _ => .ok _
  · obtain ⟨e, he, hconnection⟩ := hbuilt.accounted.links l hl
    exact ⟨e, htyped e he, hconnection⟩
  · exact Builder.linksIn_of_buildNodes hb l hl

theorem mem_members_of_childrenNamed {root e : Element} {name : String}
    (h : e ∈ root.childrenNamed name) : e ∈ root.members :=
  Element.child_mem_members root.mem_members_self (Element.mem_childrenNamed.mp h).1

/-- **Configurations**: whatever the tree, its compilation ends well or blames the document. -/
theorem blames_compileElement (root : Element) : Blames root (compileElement root) := by
  unfold compileElement
  refine .bind (blames_readHeader root) fun _ _ => ?_
  refine .bind (blames_buildNodes root) fun b hb => ?_
  refine .bind (Script.blames_ofElements fun e he => mem_members_of_childrenNamed he) ?_
  exact fun scripts _ => blames_assemble hb _ scripts

/-- Whoever takes any script gets one, unless there is none. -/
theorem anyScript_eq (scripts : List Script) : anyScript scripts = .error (.reference .noScript) ∨
    ∃ script, anyScript scripts = .ok (some script) := by
  cases scripts with
  | nil => exact Or.inl rfl
  | cons script scripts => exact Or.inr ⟨script, rfl⟩

/-- **Scripts**: likewise for the document of one script. -/
theorem blames_compileScriptElement (root : Element) : Blames root (compileScriptElement root) := by
  have hroot := root.mem_members_self
  unfold compileScriptElement
  refine .bind (blames_checkRoot root) fun _ _ => ?_
  refine .bind (root.blames_countChildren hroot rfl _) fun count _ => ?_
  split
  · exact root.blames_shape hroot fun _ h => nomatch h
  · refine .bind (Script.blames_ofElements fun e he => mem_members_of_childrenNamed he) ?_
    intro scripts _
    rcases anyScript_eq scripts with hnone | ⟨script, hscript⟩
    · rw [hnone, error_bind]
      exact .error (.reference root _)
    · rw [hscript, ok_bind]
      exact .ok script

/-- A document is to blame if its tree is, and a text that has no tree is to blame itself. -/
theorem blames_readTree_bind {α : Type} {compile : Element → Except CompileError α}
    (h : ∀ root, Blames root (compile root)) (text : String) :
    BlamesDocument (readTree text >>= compile) := by
  unfold readTree
  cases Element.ofText text with
  | ok root => exact (h root).document
  | error fault =>
    intro e he
    cases he
    rfl

/-- From the text: an unreadable one is to blame itself. -/
theorem blames_compile (text : String) : BlamesDocument (compile text) :=
  blames_readTree_bind blames_compileElement text

theorem blames_compileScript (text : String) : BlamesDocument (compileScript text) :=
  blames_readTree_bind blames_compileScriptElement text

/-! ## Reporting -/

/-- The outcome is good and the reporter, in `state`, has heard nothing; or it is a refusal for a
    fault of the document, and the reporter has heard of exactly this. -/
def Reported {α σ : Type} (report : σ → CompileError → σ) (state : σ)
    (outcome : σ × Except CompileError α) : Prop :=
  (∃ value, outcome = (state, .ok value)) ∨
    ∃ e : CompileError, e.kind = .document ∧ outcome = (report state e, .error e)

/-- A reporter hears of a fault of the document once, and of nothing after a success. -/
theorem reported_of_blames {α σ : Type} {x : Except CompileError α} (hx : BlamesDocument x)
    (report : σ → CompileError → σ) (state : σ) :
    Reported report state (reporting report state x) := by
  cases hvalue : x with
  | ok value => exact Or.inl ⟨value, rfl⟩
  | error e => exact Or.inr ⟨e, hx e hvalue, rfl⟩

/-- **Refusals**: whatever the text and whoever listens, a configuration document or a script
    document compiles unheard, or is refused for a fault of the document that is reported once. -/
theorem refusal_blames_document {σ : Type} (report : σ → CompileError → σ) (state : σ)
    (text : String) :
    Reported report state (compileWith report state text) ∧
      Reported report state (compileScriptWith report state text) :=
  ⟨reported_of_blames (blames_compile text) report state,
    reported_of_blames (blames_compileScript text) report state⟩

/-! ## Places -/

/-- **Places**: whatever the tree, if a configuration document or a script document is refused and
    the refusal names a line, then an element of the tree is on that line, and what the refusal says
    of it is true. -/
theorem refusal_describes {root : Element} {fault : CompileError}
    (h : compileElement root = .error fault ∨ compileScriptElement root = .error fault)
    {line : Nat} (hline : fault.line? = some line) :
    ∃ e ∈ root.members, e.line = line ∧ fault.Describes root e := by
  have hfault : fault.FaultOf root := by
    rcases h with h | h
    · exact blames_compileElement root fault h
    · exact blames_compileScriptElement root fault h
  exact hfault.described line hline

/-- A script whose second pause is one too many. -/
def overlongRoot : Element :=
  ⟨"Unicens", [], [⟨"Script", [("Name", "s")], [⟨"Pause", [("WaitTime", "65000")], [], 3⟩,
    ⟨"Pause", [("WaitTime", "600")], [], 4⟩], 2⟩], 1⟩

theorem refusal_describes_overlongRoot :
    compileScriptElement overlongRoot =
        .error (.outOfRange "Pause" "WaitTime" "65600" 65535 4) ∧
      ∃ e ∈ overlongRoot.members, e.line = 4 ∧
        (CompileError.outOfRange "Pause" "WaitTime" "65600" 65535 4).Describes overlongRoot e := by
  have h : compileScriptElement overlongRoot =
      .error (.outOfRange "Pause" "WaitTime" "65600" 65535 4) := by
    decide +kernel
  exact ⟨h, refusal_describes (Or.inr h) rfl⟩

end MediaNetwork

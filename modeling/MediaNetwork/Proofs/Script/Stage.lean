/-
  The script stage: what linking scripts to nodes comes to.

  A reference is noted with the place its node will get, scripts are read later, and the two meet
  at the end.  Seen from the document there is less to it:

  1. Nodes — the nodes that are built are the node elements, in order, each with the address and
     the reference its element has, and no script yet (`nodes_of_buildNodes`).
  2. Names — scripts that can be read one by one are read together exactly if their names differ
     (`ofElements_eq_ok`); if not, the first one whose name came before is blamed
     (`foldlM_addTo_repeated`).
  3. References — the first node whose reference has no script is blamed, and after that the first
     script that has no reference (`mapM_linkScript_unresolved`, `linkScripts_of_resolved`).
  4. Success — a node has a script exactly if it asks for one, and then it has what the script
     element gives in a document of its own (`Node.Served`).
-/
import Mathlib.Data.Option.Basic
import MediaNetwork.Proofs.Graph.Built
import MediaNetwork.Proofs.Keyed
import MediaNetwork.Proofs.Print.Scripts

namespace MediaNetwork

open MediaNetwork.Markup MediaNetwork.Outcome

/-- The script stage of a compilation: the scripts are read and linked to the nodes. -/
def scriptStage (root : Element) (nodes : List Node) : Except CompileError (List Node) := do
  let scripts ← Script.ofElements (root.childrenNamed Schema.script)
  linkScripts scripts nodes

/-- It stands between the nodes and the routes. -/
theorem compileElement_eq_scriptStage (root : Element) :
    compileElement root = do
      let packetBandwidth ← readHeader root
      let b ← buildNodes root
      let nodes ← scriptStage root b.nodes.toList
      let routes ← Route.assemble b.arena b.endpoints.toList
      let drivers ←
        DriverRecord.derive b.arena b.links.toList (root.childrenNamed Schema.driver)
      return ⟨packetBandwidth, nodes, b.endpoints.toList, routes, drivers, b.arena⟩ := by
  unfold compileElement assemble scriptStage
  simp only [bind_assoc]

/-! ## Nodes -/

/-- The node was built from the element; it has no script yet. -/
structure Node.FromElement (e : Element) (n : Node) : Prop where
  address : e.word Schema.address = .ok n.address
  asked : n.scriptName = e.attribute? Schema.script
  unlinked : n.script = none

namespace Builder

/-- A node element that is taken in puts one node behind those before. -/
theorem nodes_addNode {b b' : Builder} {e : Element} (ht : b.arena.Typed)
    (h : b.addNode e = .ok b') :
    ∃ n, b'.nodes.toList = b.nodes.toList ++ [n] ∧ n.FromElement e := by
  obtain ⟨plan, hwelcome, hread, rfl⟩ := addNode_plan h
  exact ⟨_, nodes_addPlan ht hwelcome, hread.address, hread.script, rfl⟩

/-- Going on over children of the root adds one node for each node element. -/
theorem nodes_of_foldlM {plans : List NodePlan} {es : List Element} {b b' : Builder}
    (hb : Built plans b) (h : es.foldlM addRootChild b = .ok b') :
    ∃ nodes, b'.nodes.toList = b.nodes.toList ++ nodes ∧
      List.Forall₂ Node.FromElement (es.filter fun e => e.name == Schema.node) nodes := by
  induction es generalizing plans b with
  | nil =>
    cases h
    exact ⟨[], (List.append_nil _).symm, List.Forall₂.nil⟩
  | cons e es ih =>
    rw [List.foldlM_cons] at h
    obtain ⟨c, hc, h⟩ := bind_eq_ok.mp h
    unfold addRootChild at hc
    split at hc
    · rename_i hname
      obtain ⟨plan, hwelcome, -, rfl⟩ := addNode_plan hc
      obtain ⟨n, hn, hfrom⟩ := nodes_addNode hb.graph.typed hc
      obtain ⟨nodes, hnodes, hall⟩ := ih (hb.node hwelcome) h
      refine ⟨n :: nodes, ?_, ?_⟩
      · rw [hnodes, hn, List.append_assoc, List.singleton_append]
      · have hkeep : (e.name == Schema.node) = true := beq_iff_eq.mpr hname
        rw [List.filter_cons, if_pos hkeep]
        exact List.Forall₂.cons hfrom hall
    · rename_i hname
      split at hc
      · cases hc
        have hdrop : ¬(e.name == Schema.node) = true := fun h => hname (beq_iff_eq.mp h)
        rw [List.filter_cons, if_neg hdrop]
        exact ih hb h
      · nomatch hc

/-- **Nodes**: the nodes of a document are its node elements, in order. -/
theorem nodes_of_buildNodes {root : Element} {b : Builder} (h : buildNodes root = .ok b) :
    List.Forall₂ Node.FromElement (root.childrenNamed Schema.node) b.nodes.toList := by
  obtain ⟨nodes, hnodes, hall⟩ := nodes_of_foldlM Built.empty h
  have hb : b.nodes.toList = nodes := hnodes
  rw [hb]
  exact hall

end Builder

/-! ## Names -/

namespace Script

theorem name_of_ofElement {e : Element} {s : Script} (h : ofElement e = .ok s) :
    e.attribute? Schema.name = some s.name := by
  obtain ⟨name, hname, h⟩ := bind_eq_ok.mp h
  obtain ⟨steps, -, h⟩ := bind_eq_ok.mp h
  cases h
  unfold Element.text at hname
  cases hattribute : e.attribute? Schema.name with
  | none =>
    rw [hattribute] at hname
    nomatch hname
  | some value =>
    rw [hattribute] at hname
    cases hname
    rfl

/-- Adding a script to others looks at its name only. -/
theorem addTo_eq {before : List Script} {e : Element} {s : Script} (h : ofElement e = .ok s) :
    addTo before e = if s.name ∈ before.map name then
      .error (.shape (.repeatedScript s.name) e.line) else .ok (before ++ [s]) := by
  have hany : (before.any fun t => t.name == s.name) = true ↔ s.name ∈ before.map name := by
    simp
  unfold addTo
  rw [h, ok_bind]
  simp only [hany]
  rfl

section Register

variable {es : List Element} {scripts : List Script}
  (h : List.Forall₂ (fun e s => ofElement e = .ok s) es scripts)

include h

/-- Where names repeat, the first script whose name came before is blamed. -/
theorem foldlM_addTo_repeated (before : List Script) (hbefore : (before.map name).Nodup)
    (hnames : ¬((before ++ scripts).map name).Nodup) :
    ∃ earlier s later e, scripts = earlier ++ s :: later ∧
      ((before ++ earlier).map name).Nodup ∧ s.name ∈ (before ++ earlier).map name ∧
      es[earlier.length]? = some e ∧
      es.foldlM addTo before = .error (.shape (.repeatedScript s.name) e.line) := by
  -- on the scripts that are read; `before` are those accepted so far, whose names are distinct
  induction h generalizing before with
  | nil =>
    rw [List.append_nil] at hnames
    exact absurd hbefore hnames
  | @cons e s es scripts hread _ ih =>
    rw [List.foldlM_cons, addTo_eq hread]
    by_cases hmem : s.name ∈ before.map name
    · refine ⟨[], s, scripts, e, rfl, ?_, ?_, rfl, ?_⟩
      · rwa [List.append_nil]
      · rwa [List.append_nil]
      · rw [if_pos hmem, error_bind]
    · have hlonger : ((before ++ [s]).map name).Nodup := by
        rw [List.map_append, List.nodup_append]
        refine ⟨hbefore, by simp, fun x hx y hy hxy => ?_⟩
        rw [List.map_singleton, List.mem_singleton] at hy
        exact hmem (hy ▸ hxy ▸ hx)
      rw [List.append_cons] at hnames
      obtain ⟨earlier, t, later, d, rfl, hdistinct, hrepeat, hat, hfault⟩ :=
        ih (before ++ [s]) hlonger hnames
      rw [← List.append_cons] at hdistinct hrepeat
      rw [if_neg hmem, ok_bind]
      exact ⟨s :: earlier, t, later, d, rfl, hdistinct, hrepeat, hat, hfault⟩

end Register

end Script

/-! ## References -/

/-- The names of scripts that the node elements of a document ask for. -/
def referencedScripts (root : Element) : List String :=
  (root.childrenNamed Schema.node).filterMap fun e => e.attribute? Schema.script

/-- A script is asked for, and none of these has its name. -/
def unresolved (scripts : List Script) (asked : Option String) : Bool :=
  asked.any fun name => !(scripts.map Script.name).contains name

theorem named?_isSome {scripts : List Script} {name : String} :
    (Script.named? scripts name).isSome = (scripts.map Script.name).contains name := by
  unfold Script.named?
  rw [Bool.eq_iff_iff, List.find?_isSome, List.contains_iff_mem, List.mem_map]
  simp only [beq_iff_eq]

/-- A node that asks for nothing, or for what there is, is linked. -/
theorem linkScript_of_resolved {scripts : List Script} {n : Node}
    (h : unresolved scripts n.scriptName = false) : ∃ m, linkScript scripts n = .ok m := by
  cases hname : n.scriptName with
  | none => exact ⟨n, by rw [linkScript, hname]⟩
  | some name =>
    have hsome : (Script.named? scripts name).isSome := by
      rw [named?_isSome]
      simpa [unresolved, hname] using h
    obtain ⟨s, hs⟩ := Option.isSome_iff_exists.mp hsome
    refine ⟨{ n with script := some s }, ?_⟩
    rw [linkScript, hname]
    simp only [hs]

/-- A node that asks for what is not there is blamed. -/
theorem linkScript_of_unresolved {scripts : List Script} {n : Node}
    (h : unresolved scripts n.scriptName = true) : ∃ name, n.scriptName = some name ∧
      linkScript scripts n = .error (.reference (.scriptNotFound name n.address)) := by
  cases hname : n.scriptName with
  | none =>
    rw [hname] at h
    nomatch h
  | some name =>
    have hnone : Script.named? scripts name = none := by
      rw [← Option.not_isSome_iff_eq_none, named?_isSome]
      simpa [unresolved, hname] using h
    refine ⟨name, rfl, ?_⟩
    rw [linkScript, hname]
    simp only [hnone]

/-- Nodes whose references resolve are linked, all of them. -/
theorem mapM_linkScript_of_resolved {scripts : List Script} {nodes : List Node}
    (h : ∀ n ∈ nodes, unresolved scripts n.scriptName = false) :
    ∃ linked, nodes.mapM (linkScript scripts) = .ok linked := by
  induction nodes with
  | nil => exact ⟨[], rfl⟩
  | cons n nodes ih =>
    obtain ⟨m, hm⟩ := linkScript_of_resolved (h n List.mem_cons_self)
    obtain ⟨linked, hlinked⟩ := ih fun n hn => h n (List.mem_cons_of_mem _ hn)
    exact ⟨m :: linked, by rw [List.mapM_cons, hm, ok_bind, hlinked]; rfl⟩

/-- The first node that asks for what is not there is blamed. -/
theorem mapM_linkScript_unresolved {scripts : List Script} {nodes : List Node} {n : Node}
    (h : (nodes.find? fun n => unresolved scripts n.scriptName) = some n) :
    ∃ name, n.scriptName = some name ∧
      nodes.mapM (linkScript scripts) = .error (.reference (.scriptNotFound name n.address)) := by
  obtain ⟨hn, before, after, rfl, hbefore⟩ := List.find?_eq_some_iff_append.mp h
  obtain ⟨name, hname, hfault⟩ := linkScript_of_unresolved hn
  obtain ⟨linked, hlinked⟩ := mapM_linkScript_of_resolved fun n hn => by simpa using hbefore n hn
  refine ⟨name, hname, ?_⟩
  rw [List.mapM_append, hlinked, ok_bind, List.mapM_cons, hfault]
  rfl

/-- Where every reference has its script, linking fails only for a script without a reference. -/
theorem linkScripts_of_resolved {scripts : List Script} {nodes : List Node}
    (h : ∀ n ∈ nodes, unresolved scripts n.scriptName = false) :
    (∀ s, (scripts.find? fun s => !(nodes.filterMap Node.scriptName).contains s.name) = some s →
      linkScripts scripts nodes = .error (.reference (.scriptUnused s.name))) ∧
    ((scripts.find? fun s => !(nodes.filterMap Node.scriptName).contains s.name) = none →
      ∃ linked, linkScripts scripts nodes = .ok linked) := by
  have hused : (fun s : Script => !nodes.any fun n => n.scriptName == some s.name) =
      fun s => !(nodes.filterMap Node.scriptName).contains s.name := by
    funext s
    rw [Bool.eq_iff_iff]
    simp
  obtain ⟨linked, hlinked⟩ := mapM_linkScript_of_resolved h
  rw [linkScripts_eq, hlinked, ok_bind, hused]
  constructor
  · intro s hs
    simp only [hs]
  · intro hnone
    simp only [hnone]
    exact ⟨linked, rfl⟩

/-! ## Success -/

/-- A document with one script element, and no other, compiles to the script of the element. -/
theorem compileScriptElement_alone {alone child : Element} {s : Script}
    (hname : alone.name = Schema.unicens) (hchild : alone.childrenNamed Schema.script = [child])
    (h : Script.ofElement child = .ok s) : compileScriptElement alone = .ok s := by
  have hread : Script.ofElements [child] = .ok [s] :=
    Script.ofElements_eq_ok.mpr ⟨List.Forall₂.cons h List.Forall₂.nil, List.nodup_singleton _⟩
  have hcount : alone.countChildren Schema.script true = .ok 1 := by
    rw [Element.countChildren, hchild]
    rfl
  unfold compileScriptElement checkRoot
  rw [if_pos hname, ok_bind, hcount, ok_bind, hchild, if_neg (by decide), hread]
  rfl

/-- What a linked node is to its element and to the scripts of the document: it has a script
    exactly if it asks for one, and then the one of this name, which is what its element is
    compiled to where it is the only script. -/
structure Node.Served (root e : Element) (n : Node) : Prop where
  address : e.word Schema.address = .ok n.address
  asked : n.scriptName = e.attribute? Schema.script
  served : n.script.isSome = n.scriptName.isSome
  own : ∀ s, n.script = some s → n.scriptName = some s.name ∧ ∃ child,
    ((root.childrenNamed Schema.script).filter fun d => d.attribute? Schema.name == some s.name) =
      [child] ∧
    ∀ alone : Element, alone.name = Schema.unicens → alone.childrenNamed Schema.script = [child] →
      compileScriptElement alone = .ok s

/-- Where the names of scripts differ, a script is found at the only element of its name. -/
theorem exists_scriptElement {es : List Element} {scripts : List Script}
    (h : List.Forall₂ (fun e s => Script.ofElement e = .ok s) es scripts)
    (hnames : (scripts.map Script.name).Nodup) {s : Script} (hs : s ∈ scripts) :
    ∃ child, (es.filter fun d => d.attribute? Schema.name == some s.name) = [child] ∧
      Script.ofElement child = .ok s := by
  have hkeys : es.map (fun d => d.attribute? Schema.name) =
      scripts.map fun s => some s.name := by
    rw [map_eq_map_iff_forall₂]
    exact h.imp fun _ _ => Script.name_of_ofElement
  have hdistinct : (es.map fun d => d.attribute? Schema.name).Nodup := by
    have hsome : (scripts.map fun s => some s.name) = (scripts.map Script.name).map some := by
      rw [List.map_map]
      rfl
    rw [hkeys, hsome]
    exact hnames.map (Option.some_injective _)
  obtain ⟨child, hmem, hchild⟩ := exists_of_forall₂ h hs
  have honly := Keyed.filter_of_key (f := fun d : Element => [d]) hdistinct
    (fun d _ x hx => by rw [List.mem_singleton.mp hx]) hmem
  rw [List.flatMap_singleton', Script.name_of_ofElement hchild] at honly
  exact ⟨child, honly, hchild⟩

/-- **Success**: every node of a document whose scripts are linked is served. -/
theorem served_of_linkScripts {root : Element} {es : List Element} {nodes linked : List Node}
    {scripts : List Script} (hnodes : List.Forall₂ Node.FromElement es nodes)
    (hscripts : List.Forall₂ (fun e s => Script.ofElement e = .ok s)
      (root.childrenNamed Schema.script) scripts)
    (hnames : (scripts.map Script.name).Nodup) (h : linkScripts scripts nodes = .ok linked) :
    List.Forall₂ (Node.Served root) es linked := by
  have hlinked := linkScripts_eq_ok h
  clear h
  induction hnodes generalizing linked with
  | nil =>
    rw [List.forall₂_nil_left_iff.mp hlinked]
    exact List.Forall₂.nil
  | @cons e n es nodes hfrom _ ih =>
    obtain ⟨m, rest, hm, hrest, rfl⟩ := List.forall₂_cons_left_iff.mp hlinked
    refine List.Forall₂.cons ?_ (ih hrest)
    rcases linkScript_spec hfrom.unlinked hm with ⟨hnone, rfl, hno⟩ | ⟨s, hname, hfound, rfl⟩
    · refine ⟨hfrom.address, hfrom.asked, by rw [hno, hnone]; rfl, fun s hs => ?_⟩
      rw [hno] at hs
      nomatch hs
    · have hmem : s ∈ scripts := List.mem_of_find?_eq_some hfound
      -- a script that is found comes from an element, and this one is also read alone
      obtain ⟨child, honly, hchild⟩ := exists_scriptElement hscripts hnames hmem
      refine ⟨hfrom.address, hfrom.asked, by rw [hname]; rfl, fun t ht => ?_⟩
      cases ht
      exact ⟨hname, child, honly, fun alone hroot halone =>
        compileScriptElement_alone hroot halone hchild⟩

/-! ## Failure -/

/-- Which fault ends the script stage of a document: a name that repeats comes first, then the
    first node in document order whose reference has no script, then the first script that no node
    asks for. -/
structure ScriptFaults (root : Element) (scripts : List Script)
    (result : Except CompileError (List Node)) : Prop where
  repeated : ¬(scripts.map Script.name).Nodup → ∃ earlier s later e,
    scripts = earlier ++ s :: later ∧ (earlier.map Script.name).Nodup ∧
    s.name ∈ earlier.map Script.name ∧
    (root.childrenNamed Schema.script)[earlier.length]? = some e ∧
    result = .error (.shape (.repeatedScript s.name) e.line)
  missing : (scripts.map Script.name).Nodup → ∀ e,
    ((root.childrenNamed Schema.node).find? fun e =>
      unresolved scripts (e.attribute? Schema.script)) = some e →
    ∃ name address, e.attribute? Schema.script = some name ∧
      e.word Schema.address = .ok address ∧
      result = .error (.reference (.scriptNotFound name address))
  unused : (scripts.map Script.name).Nodup →
    ((root.childrenNamed Schema.node).find? fun e =>
      unresolved scripts (e.attribute? Schema.script)) = none →
    ∀ s, (scripts.find? fun s => !(referencedScripts root).contains s.name) = some s →
      result = .error (.reference (.scriptUnused s.name))

/-- Every reference is resolved if the names asked for are among those declared. -/
theorem find?_unresolved_eq_none {root : Element} {scripts : List Script} :
    ((root.childrenNamed Schema.node).find? fun e =>
      unresolved scripts (e.attribute? Schema.script)) = none ↔
    ∀ name ∈ referencedScripts root, name ∈ scripts.map Script.name := by
  rw [List.find?_eq_none]
  constructor
  · intro h name hname
    obtain ⟨e, he, hasked⟩ := List.mem_filterMap.mp hname
    have hnot := h e he
    rw [hasked] at hnot
    simpa [unresolved] using hnot
  · intro h e he hun
    cases hasked : e.attribute? Schema.script with
    | none =>
      rw [hasked] at hun
      nomatch hun
    | some name =>
      have hmem : name ∈ scripts.map Script.name :=
        h name (List.mem_filterMap.mpr ⟨e, he, hasked⟩)
      rw [hasked] at hun
      simp only [unresolved, Option.any_some, Bool.not_eq_true', ← Bool.not_eq_true,
        List.contains_iff_mem] at hun
      exact hun hmem

/-- Every script is asked for if the names declared are among those asked for. -/
theorem find?_unused_eq_none {root : Element} {scripts : List Script} :
    (scripts.find? fun s => !(referencedScripts root).contains s.name) = none ↔
      ∀ name ∈ scripts.map Script.name, name ∈ referencedScripts root := by
  rw [List.find?_eq_none, List.forall_mem_map]
  simp

section Stage

variable {root : Element} {b : Builder} {scripts : List Script}

/-- The nodes ask for what their elements ask for. -/
theorem filterMap_scriptName (hb : buildNodes root = .ok b) :
    b.nodes.toList.filterMap Node.scriptName = referencedScripts root := by
  have hnodes := Builder.nodes_of_buildNodes hb
  unfold referencedScripts
  generalize root.childrenNamed Schema.node = es at hnodes ⊢
  generalize b.nodes.toList = nodes at hnodes ⊢
  induction hnodes with
  | nil => rfl
  | cons hfrom _ ih => rw [List.filterMap_cons, List.filterMap_cons, hfrom.asked, ih]

/-- Where the elements ask only for what there is, so do the nodes. -/
theorem resolved_nodes (hb : buildNodes root = .ok b)
    (h : ((root.childrenNamed Schema.node).find? fun e =>
      unresolved scripts (e.attribute? Schema.script)) = none) :
    ∀ n ∈ b.nodes.toList, unresolved scripts n.scriptName = false := by
  intro n hn
  obtain ⟨e, he, hfrom⟩ := exists_of_forall₂ (Builder.nodes_of_buildNodes hb) hn
  rw [hfrom.asked, ← Bool.not_eq_true]
  exact List.find?_eq_none.mp h e he

/-- With distinct names the stage is linking. -/
theorem scriptStage_of_nodup {nodes : List Node}
    (hscripts : List.Forall₂ (fun e s => Script.ofElement e = .ok s)
      (root.childrenNamed Schema.script) scripts)
    (hnames : (scripts.map Script.name).Nodup) :
    scriptStage root nodes = linkScripts scripts nodes := by
  unfold scriptStage
  rw [Script.ofElements_eq_ok.mpr ⟨hscripts, hnames⟩, ok_bind]

variable (hb : buildNodes root = .ok b)
  (hscripts : List.Forall₂ (fun e s => Script.ofElement e = .ok s)
    (root.childrenNamed Schema.script) scripts)

include hb hscripts

/-- **Failure**: the fault of the stage, if it fails. -/
theorem scriptFaults_scriptStage :
    ScriptFaults root scripts (scriptStage root b.nodes.toList) := by
  refine ⟨fun hnames => ?_, fun hnames e he => ?_, fun hnames hall s hs => ?_⟩
  · obtain ⟨earlier, s, later, e, hsplit, hdistinct, hrepeat, hat, hfault⟩ :=
      Script.foldlM_addTo_repeated hscripts [] List.nodup_nil hnames
    refine ⟨earlier, s, later, e, hsplit, hdistinct, hrepeat, hat, ?_⟩
    unfold scriptStage Script.ofElements
    rw [hfault, error_bind]
  · -- The first element that asks in vain has the first node that asks in vain.
    have hfirst := find?_of_forall₂ (Builder.nodes_of_buildNodes hb)
      (p := fun e => unresolved scripts (e.attribute? Schema.script))
      (q := fun n => unresolved scripts n.scriptName) fun e n hfrom => by rw [hfrom.asked]
    rw [he] at hfirst
    cases hn : b.nodes.toList.find? fun n => unresolved scripts n.scriptName with
    | none =>
      rw [hn] at hfirst
      nomatch hfirst
    | some n =>
      rw [hn] at hfirst
      cases hfirst with
      | some hfrom =>
        obtain ⟨name, hname, hfault⟩ := mapM_linkScript_unresolved hn
        refine ⟨name, n.address, hfrom.asked.symm.trans hname, hfrom.address, ?_⟩
        rw [scriptStage_of_nodup hscripts hnames, linkScripts_eq, hfault, error_bind]
  · rw [← filterMap_scriptName hb] at hs
    rw [scriptStage_of_nodup hscripts hnames]
    exact (linkScripts_of_resolved (resolved_nodes hb hall)).1 s hs

/-- The stage succeeds exactly if the names differ and are those that are asked for. -/
theorem scriptStage_succeeds :
    (∃ linked, scriptStage root b.nodes.toList = .ok linked) ↔
      (scripts.map Script.name).Nodup ∧
        ∀ name, name ∈ scripts.map Script.name ↔ name ∈ referencedScripts root := by
  have hfaults := scriptFaults_scriptStage hb hscripts
  constructor
  · rintro ⟨linked, hlinked⟩
    rw [hlinked] at hfaults
    -- a success leaves no room for any of the three faults, taken in their order
    have hnames : (scripts.map Script.name).Nodup := by
      by_contra hnames
      obtain ⟨_, _, _, _, _, _, _, _, hfault⟩ := hfaults.repeated hnames
      nomatch hfault
    have hall : ((root.childrenNamed Schema.node).find? fun e =>
        unresolved scripts (e.attribute? Schema.script)) = none := by
      rw [Option.eq_none_iff_forall_ne_some]
      intro e he
      obtain ⟨_, _, _, _, hfault⟩ := hfaults.missing hnames e he
      nomatch hfault
    have hused : (scripts.find? fun s => !(referencedScripts root).contains s.name) = none := by
      rw [Option.eq_none_iff_forall_ne_some]
      intro s hs
      nomatch hfaults.unused hnames hall s hs
    exact ⟨hnames, fun name => ⟨find?_unused_eq_none.mp hused name,
      find?_unresolved_eq_none.mp hall name⟩⟩
  · rintro ⟨hnames, hsame⟩
    have hall := find?_unresolved_eq_none.mpr fun name => (hsame name).mpr
    have hused := find?_unused_eq_none.mpr fun name => (hsame name).mp
    rw [← filterMap_scriptName hb] at hused
    rw [scriptStage_of_nodup hscripts hnames]
    exact (linkScripts_of_resolved (resolved_nodes hb hall)).2 hused

/-- **Script linking is exact**: where the nodes are built and each script can be read, the stage
    succeeds exactly if the names of scripts differ and are those that nodes ask for; then every
    node is served, and otherwise the fault names the first of what is wrong and is that of the
    whole compilation. -/
theorem scriptStage_exact :
    ((∃ linked, scriptStage root b.nodes.toList = .ok linked) ↔
      (scripts.map Script.name).Nodup ∧
        ∀ name, name ∈ scripts.map Script.name ↔ name ∈ referencedScripts root) ∧
    (∀ linked, scriptStage root b.nodes.toList = .ok linked →
      List.Forall₂ (Node.Served root) (root.childrenNamed Schema.node) linked) ∧
    ScriptFaults root scripts (scriptStage root b.nodes.toList) ∧
    (∀ packetBandwidth fault, readHeader root = .ok packetBandwidth →
      scriptStage root b.nodes.toList = .error fault → compileElement root = .error fault) := by
  refine ⟨scriptStage_succeeds hb hscripts, fun linked hlinked => ?_,
    scriptFaults_scriptStage hb hscripts, fun packetBandwidth fault hheader hfault => ?_⟩
  · obtain ⟨hnames, -⟩ := (scriptStage_succeeds hb hscripts).mp ⟨linked, hlinked⟩
    rw [scriptStage_of_nodup hscripts hnames] at hlinked
    exact served_of_linkScripts (Builder.nodes_of_buildNodes hb) hscripts hnames hlinked
  · rw [compileElement_eq_scriptStage, hheader, ok_bind, hb, ok_bind, hfault, error_bind]

end Stage

/-- Four nodes and two scripts: the first node and the last ask for the second script, the second
    node for the first one, and the third node for none. -/
def twoScriptRoot : Element :=
  ⟨"Unicens", [("AsyncBandwidth", "5")], [
    ⟨"Node", [("Address", "512"), ("Script", "late")], [], 1⟩,
    ⟨"Script", [("Name", "early")], [
      ⟨"GPIOPortCreate", [("DebounceTime", "0")], [], 3⟩], 2⟩,
    ⟨"Node", [("Script", "early"), ("Address", "513")], [], 4⟩,
    ⟨"Node", [("Address", "514")], [], 5⟩,
    ⟨"Script", [("Name", "late")], [
      ⟨"Pause", [("WaitTime", "7")], [], 7⟩,
      ⟨"GPIOPortCreate", [("DebounceTime", "9")], [], 8⟩], 6⟩,
    ⟨"Node", [("Address", "515"), ("Script", "late")], [], 9⟩], 1⟩

/-- The first of its scripts. -/
def earlyScript : Script :=
  ⟨"early", [⟨0, ⟨0, 0, 0x701, 2, [0, 0, 0]⟩, ⟨0, 0, 0x701, 0x0C, []⟩⟩]⟩

/-- The second of its scripts, which waits before it sends. -/
def lateScript : Script :=
  ⟨"late", [⟨7, ⟨0, 0, 0x701, 2, [0, 0, 9]⟩, ⟨0, 0, 0x701, 0x0C, []⟩⟩]⟩

/-- Two of its nodes get one script, one node gets the other, and one gets none. -/
theorem scriptStage_twoScriptRoot : ∃ b linked, buildNodes twoScriptRoot = .ok b ∧
    List.Forall₂ (fun e s => Script.ofElement e = .ok s)
      (twoScriptRoot.childrenNamed Schema.script) [earlyScript, lateScript] ∧
    scriptStage twoScriptRoot b.nodes.toList = .ok linked ∧
    linked.map Node.script = [some lateScript, some earlyScript, none, some lateScript] ∧
    List.Forall₂ (Node.Served twoScriptRoot) (twoScriptRoot.childrenNamed Schema.node)
      linked := by
  have hbuilt : (buildNodes twoScriptRoot).map (fun b => b.nodes.toList) =
      .ok [⟨512, some "late", none, .absent⟩, ⟨513, some "early", none, .absent⟩,
        ⟨514, none, none, .absent⟩, ⟨515, some "late", none, .absent⟩] := by
    decide +kernel
  obtain ⟨b, hb, hnodes⟩ := map_eq_ok.mp hbuilt
  have hscripts : List.Forall₂ (fun e s => Script.ofElement e = .ok s)
      (twoScriptRoot.childrenNamed Schema.script) [earlyScript, lateScript] := by
    refine List.Forall₂.cons ?_ (List.Forall₂.cons ?_ List.Forall₂.nil)
    · decide +kernel
    · decide +kernel
  have hexact := scriptStage_exact hb hscripts
  have hsame : ∀ name, name ∈ [earlyScript, lateScript].map Script.name ↔
      name ∈ referencedScripts twoScriptRoot := by
    have hasked : referencedScripts twoScriptRoot = ["late", "early", "late"] := by
      decide +kernel
    have hnames : [earlyScript, lateScript].map Script.name = ["early", "late"] := rfl
    intro name
    rw [hasked, hnames]
    simp only [List.mem_cons, List.not_mem_nil, or_false]
    tauto
  obtain ⟨linked, hlinked⟩ := hexact.1.mpr ⟨by decide, hsame⟩
  refine ⟨b, linked, hb, hscripts, hlinked, ?_, hexact.2.1 linked hlinked⟩
  have hgiven : (scriptStage twoScriptRoot b.nodes.toList).map (List.map Node.script) =
      .ok [some lateScript, some earlyScript, none, some lateScript] := by
    rw [hnodes]
    decide +kernel
  rw [hlinked] at hgiven
  exact Except.ok.inj hgiven

end MediaNetwork

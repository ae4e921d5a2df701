/-
  Printing and compiling again.

  A configuration that was compiled can be printed, and the document that is printed compiles to
  it (`compile_print`).  The two halves meet at `Content`: what a document says, part by part.

  1. Printing — a compiled configuration is printed as its content, whose parts are the plans of
     the nodes, the scripts that are used and the drivers of bound records (`printed_of_graph`).
  2. Reading — in an element that content shows, the children of each name are those of one part
     (`Content.shows_parts`).  So every stage gives what it gave before: the header, the builder up
     to the lines of its links, the scripts and their links to nodes, and with these the routes and
     the drivers (`compileElement_printed`).
-/
import MediaNetwork.Proofs.Print.Groups
import MediaNetwork.Proofs.Print.Names

namespace MediaNetwork

open MediaNetwork.Markup MediaNetwork.Markup.Element MediaNetwork.Outcome MediaNetwork.Configuration

/-! ## What a document says -/

/-- The content of a document that is printed. -/
structure Content where
  packetBandwidth : UInt16
  plans : List NodePlan
  scripts : List Script
  drivers : List Printed

namespace Content

/-- The root element. -/
def printed (k : Content) : Printed :=
  .block Schema.unicens [(Schema.asyncBandwidth, decimalWord k.packetBandwidth)]
    (k.plans.map NodePlan.printed ++ k.scripts.map printScript ++ k.drivers)

section Names

variable {k : Content}

theorem name_of_mem_plans : ∀ p ∈ k.plans.map NodePlan.printed, p.name = Schema.node := by
  intro p hp
  obtain ⟨plan, -, rfl⟩ := List.mem_map.mp hp
  rfl

theorem name_of_mem_scripts : ∀ p ∈ k.scripts.map printScript, p.name = Schema.script := by
  intro p hp
  obtain ⟨s, -, rfl⟩ := List.mem_map.mp hp
  rfl

/-- The parts by the names of their elements. -/
def parts (k : Content) : List (String × List Printed) :=
  [(Schema.node, k.plans.map NodePlan.printed), (Schema.script, k.scripts.map printScript),
    (Schema.driver, k.drivers)]

/-- The children of each name are those of one part. -/
theorem shows_parts (hdrivers : ∀ p ∈ k.drivers, p.name = Schema.driver) {e : Element}
    (h : k.printed.Shows e) {part : String × List Printed} (hpart : part ∈ k.parts) :
    List.Forall₂ Printed.Shows part.2 (e.childrenNamed part.1) := by
  obtain ⟨-, -, hchildren⟩ := h
  rw [Printed.allShow_iff] at hchildren
  have hflat : k.plans.map NodePlan.printed ++ k.scripts.map printScript ++ k.drivers =
      k.parts.flatMap Prod.snd := by
    simp [parts]
  have hkey : ∀ t ∈ k.parts, ∀ p ∈ t.2, p.name = t.1 := by
    simp only [parts, List.forall_mem_cons, List.not_mem_nil, false_implies, implies_true, and_true]
    exact ⟨name_of_mem_plans, name_of_mem_scripts, hdrivers⟩
  have hdistinct : (k.parts.map Prod.fst).Nodup := by
    show [Schema.node, Schema.script, Schema.driver].Nodup
    decide
  rw [hflat] at hchildren
  rw [← Keyed.filter_of_key hdistinct hkey hpart]
  exact Printed.shows_filter part.1 hchildren

end Names

end Content

/-! ## Reading each stage -/

/-- The header is read, since there is a node. -/
theorem readHeader_printed {k : Content} (hdrivers : ∀ p ∈ k.drivers, p.name = Schema.driver)
    (hplans : k.plans ≠ []) {e : Element} (h : k.printed.Shows e) :
    readHeader e = .ok k.packetBandwidth := by
  have hnodes := Content.shows_parts hdrivers h List.mem_cons_self
  have hcount : ∃ n, e.countChildren Schema.node true = .ok n := by
    have hsome : (e.childrenNamed Schema.node).length ≠ 0 := by
      rw [← hnodes.length_eq, List.length_map]
      exact fun hzero => hplans (List.length_eq_zero_iff.mp hzero)
    refine ⟨(e.childrenNamed Schema.node).length, ?_⟩
    rw [countChildren]
    simp [hsome]
  obtain ⟨n, hn⟩ := hcount
  obtain ⟨hname, hattributes, -⟩ := h
  rw [readHeader, checkRoot, if_pos hname, ok_bind, word_decimal (attribute?_of hattributes rfl),
    ok_bind, hn]
  rfl

namespace Builder

/-- Nodes that are printed are built as before, up to the lines of their links. -/
theorem foldlM_nodes_printed {plans : List NodePlan} {b : Builder} (hb : Built plans b)
    {es : List Element} (hes : List.Forall₂ Printed.Shows (plans.map NodePlan.printed) es) :
    ∃ b', es.foldlM addRootChild Builder.empty = .ok b' ∧ b.Alike b' := by
  induction hb generalizing es with
  | empty =>
    rw [List.forall₂_nil_left_iff.mp hes]
    exact ⟨Builder.empty, rfl, Alike.refl _⟩
  | @node plans b plan before welcome ih =>
    rw [List.map_append] at hes
    obtain ⟨first, last, hfirst, hlast, rfl⟩ := exists_append_of_forall₂ hes
    obtain ⟨e, rest, he, hrest, rfl⟩ := List.forall₂_cons_left_iff.mp hlast
    obtain rfl := List.forall₂_nil_left_iff.mp hrest
    obtain ⟨c, hc, halike⟩ := ih hfirst
    obtain ⟨c', hc', halike'⟩ := addNode_printed halike welcome he
    refine ⟨c', ?_, halike'⟩
    have hname : e.name = Schema.node := he.name_eq
    rw [List.foldlM_append, hc, ok_bind, List.foldlM_cons, addRootChild, if_pos hname, hc']
    rfl

/-- Scripts and drivers build nothing. -/
theorem foldlM_others {es : List Element}
    (h : ∀ e ∈ es, e.name = Schema.script ∨ e.name = Schema.driver) (b : Builder) :
    es.foldlM addRootChild b = .ok b := by
  induction es with
  | nil => rfl
  | cons e es ih =>
    have hname := h e List.mem_cons_self
    have hnode : ¬ e.name = Schema.node := by
      rcases hname with hname | hname
      · rw [hname]
        decide
      · rw [hname]
        decide
    rw [List.foldlM_cons, addRootChild, if_neg hnode, if_pos hname, ok_bind]
    exact ih fun x hx => h x (List.mem_cons_of_mem _ hx)

/-- The builder of a printed document is the one before, up to the lines of its links. -/
theorem buildNodes_printed {k : Content} (hdrivers : ∀ p ∈ k.drivers, p.name = Schema.driver)
    {b : Builder} (hb : Built k.plans b) {e : Element} (h : k.printed.Shows e) :
    ∃ b', buildNodes e = .ok b' ∧ b.Alike b' := by
  obtain ⟨-, -, hchildren⟩ := h
  rw [Printed.allShow_iff, List.append_assoc] at hchildren
  obtain ⟨nodes, others, hnodes, hothers, hsplit⟩ := exists_append_of_forall₂ hchildren
  obtain ⟨b', hb', halike⟩ := foldlM_nodes_printed hb hnodes
  refine ⟨b', ?_, halike⟩
  have hnames : ∀ e ∈ others, e.name = Schema.script ∨ e.name = Schema.driver := by
    intro e he
    obtain ⟨p, hp, hshows⟩ := exists_of_forall₂ hothers he
    rw [hshows.name_eq]
    rcases List.mem_append.mp hp with hp | hp
    · exact Or.inl (Content.name_of_mem_scripts p hp)
    · exact Or.inr (hdrivers p hp)
  rw [buildNodes, hsplit, List.foldlM_append, hb', ok_bind, foldlM_others hnames]

end Builder

/-! ## Printing -/

namespace Configuration

/-- The content of a configuration whose nodes come from these plans. -/
def content (c : Configuration) (plans : List NodePlan) : Content :=
  ⟨c.packetBandwidth, plans, distinctScripts [] (c.nodes.filterMap fun n => n.script),
    (boundLinks [] c.drivers).map (printDriver c.drivers)⟩

variable {c : Configuration} {plans : List NodePlan}

/-- **Printing**: a configuration is printed as its content. -/
theorem printed_of_graph (hg : Graph c.arena plans c.nodes c.endpoints) :
    c.printed = .ok (c.content plans).printed := by
  rw [Configuration.printed, printNodes_of_graph hg]
  rfl

theorem name_of_mem_drivers : ∀ p ∈ (c.content plans).drivers, p.name = Schema.driver := by
  intro p hp
  obtain ⟨link, -, rfl⟩ := List.mem_map.mp hp
  rfl

theorem wellNamed_content (c : Configuration) (plans : List NodePlan) :
    (c.content plans).printed.WellNamed := by
  refine ⟨?_, Printed.allWellNamed_iff.mpr fun p hp => ?_⟩
  · exact headOk_of_keys [Schema.asyncBandwidth] (by decide) (List.Sublist.refl _)
  rcases List.mem_append.mp hp with hp | hp
  · rcases List.mem_append.mp hp with hp | hp
    · obtain ⟨plan, -, rfl⟩ := List.mem_map.mp hp
      exact wellNamed_node plan
    · obtain ⟨s, -, rfl⟩ := List.mem_map.mp hp
      exact wellNamed_script s
  · obtain ⟨link, -, rfl⟩ := List.mem_map.mp hp
    exact wellNamed_driver c.drivers link

end Configuration

/-! ## The round trip -/

/-- **Reading**: whatever element the content of a compiled configuration shows, it compiles to the
    configuration. -/
theorem compileElement_printed {root : Element} {c : Configuration}
    (h : compileElement root = .ok c) :
    ∃ plans, c.printed = .ok (c.content plans).printed ∧
      ∀ e, (c.content plans).printed.Shows e → compileElement e = .ok c := by
  obtain ⟨b, scripts, hheader, hb, hscripts, hnodes, hroutes, hdrivers, hends, harena⟩ :=
    compileElement_eq_ok.mp h
  obtain ⟨plans, hbuilt, hread⟩ := Builder.built_of_buildNodes hb
  have hlength := hread.length_eq.symm
  have hgraph : Graph c.arena plans c.nodes c.endpoints := by
    rw [hends, harena]
    exact hbuilt.graph.relink (linkScripts_keeps hnodes)
  have hplans : plans ≠ [] := by
    -- The header has counted the nodes.
    rintro rfl
    obtain ⟨u, -, hheader⟩ := bind_eq_ok.mp hheader
    obtain ⟨bandwidth, -, hheader⟩ := bind_eq_ok.mp hheader
    obtain ⟨n, hn, -⟩ := bind_eq_ok.mp hheader
    rw [List.length_nil] at hlength
    simp [countChildren, ← hlength] at hn
  refine ⟨plans, printed_of_graph hgraph, fun e he => ?_⟩
  have hparts : ∀ part ∈ (c.content plans).parts,
      List.Forall₂ Printed.Shows part.2 (e.childrenNamed part.1) :=
    fun _ => Content.shows_parts name_of_mem_drivers he
  simp only [Content.parts, List.forall_mem_cons] at hparts
  obtain ⟨-, hes, hed, -⟩ := hparts
  obtain ⟨b', hb', halike⟩ := Builder.buildNodes_printed name_of_mem_drivers hbuilt he
  -- Before linking no node has a script, so what the nodes have comes from the document.
  have hnone := hbuilt.script_eq_none
  have hanswered := answered_of_linkScripts (Script.answered_ofElements hscripts) hnone hnodes
  refine compileElement_eq_ok.mpr ⟨b', (c.content plans).scripts,
    readHeader_printed name_of_mem_drivers hplans he, hb', Script.ofElements_printed hanswered hes,
    ?_, ?_, ?_, ?_, ?_⟩
  · rw [halike.nodes]
    exact linkScripts_printed hnone hnodes
  · rw [halike.arena, halike.endpoints]
    exact hroutes
  · rw [halike.arena]
    exact DriverRecord.derive_printed hdrivers halike.links hed
  · rw [hends, halike.endpoints]
  · rw [harena, halike.arena]

/-- **The round trip**: a configuration that was compiled can be printed, the document that is
    printed compiles to the same configuration, and that is printed as the same document. -/
theorem compile_print {text : String} {c : Configuration} (h : compile text = .ok c) :
    ∃ document, c.print = .ok document ∧ compile document = .ok c ∧
      (compile document).bind Configuration.print = .ok document := by
  obtain ⟨root, -, h⟩ := compile_eq_ok.mp h
  obtain ⟨plans, hprinted, hagain⟩ := compileElement_printed h
  obtain ⟨e, htext, hshows⟩ := Printed.ofText_document (wellNamed_content c plans)
  have hprint : c.print = .ok (c.content plans).printed.document := by
    rw [Configuration.print, hprinted]
    rfl
  have hcompile : compile (c.content plans).printed.document = .ok c :=
    compile_eq_ok.mpr ⟨e, htext, hagain e hshows⟩
  refine ⟨(c.content plans).printed.document, hprint, hcompile, ?_⟩
  rw [hcompile]
  exact hprint

theorem compile_print_sampleDocument : ∃ c document, compile sampleDocument = .ok c ∧
    c.print = .ok document ∧ compile document = .ok c ∧
    (compile document).bind Configuration.print = .ok document := by
  obtain ⟨c, hc, -⟩ := compile_sampleDocument
  obtain ⟨document, hdocument⟩ := compile_print hc
  exact ⟨c, document, hc, hdocument⟩

end MediaNetwork

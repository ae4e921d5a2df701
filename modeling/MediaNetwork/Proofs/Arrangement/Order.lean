/-
  The order of children.

  Some children are taken in as they come, and of the others only what they are called or which
  names they have counts.  `Rearranged keep cs ds` says that `ds` is `cs` in another order in which
  those that are kept stand as before.

  1. Nodes — the connections are kept: they are created one after the other, while a port is found
     by its name and created first (`addNode_rearranged`).
  2. Roots — the nodes are kept: scripts and drivers are found by names and links, of which each
     occurs once (`compileElement_rearranged`).

  Whether a run ends well, and in what, is the same then.  Which error it ends in is not: it is the
  first one, and the order has changed.
-/
import MediaNetwork.Proofs.Collection
import MediaNetwork.Proofs.Stages
import MediaNetwork.Proofs.Graph.Plan

namespace MediaNetwork

open MediaNetwork.Markup MediaNetwork.Outcome

/-- The second list is the first one in another order, in which what is kept stands as before. -/
structure Rearranged {α : Type} (keep : α → Bool) (cs ds : List α) : Prop where
  perm : cs.Perm ds
  kept : ds.filter keep = cs.filter keep

theorem Rearranged.symm {α : Type} {keep : α → Bool} {cs ds : List α} (h : Rearranged keep cs ds) :
    Rearranged keep ds cs :=
  ⟨h.perm.symm, h.kept.symm⟩

/-- A loop that is idle over everything else ends in the same. -/
theorem Rearranged.foldlM_eq_ok {ε α β : Type} {f : β → α → Except ε β} {keep : α → Bool}
    {idle : α → Prop} (step : ∀ a, keep a = false → ∀ b c, f b a = .ok c ↔ idle a ∧ c = b)
    {cs ds : List α} (h : Rearranged keep cs ds) {b c : β} :
    cs.foldlM f b = .ok c ↔ ds.foldlM f b = .ok c :=
  calc cs.foldlM f b = .ok c
    _ ↔ (∀ a ∈ cs, keep a = false → idle a) ∧ (cs.filter keep).foldlM f b = .ok c :=
      foldlM_eq_ok_iff_filter step
    _ ↔ (∀ a ∈ ds, keep a = false → idle a) ∧ (ds.filter keep).foldlM f b = .ok c := by
      simp only [h.perm.mem_iff, h.kept]
    _ ↔ ds.foldlM f b = .ok c := (foldlM_eq_ok_iff_filter step).symm

/-- Elements with a name are as many as before. -/
theorem length_childrenNamed_of_perm {e : Element} {cs : List Element} (h : e.children.Perm cs)
    (name : String) : (({ e with children := cs } : Element).childrenNamed name).length =
      (e.childrenNamed name).length :=
  (h.symm.filter _).length_eq

namespace Builder

/-! ## Nodes -/

/-- Over any other child of a node the builder is idle, if it is a port. -/
theorem addNodeChild_eq_ok {e : Element} (h : isConnection e = false) (node : UInt16)
    (b c : Builder) : addNodeChild node b e = .ok c ↔ isPort e = true ∧ c = b := by
  unfold isConnection at h
  rw [Bool.or_eq_false_iff, beq_eq_false_iff_ne, beq_eq_false_iff_ne] at h
  have hstyle : ConnectionStyle.ofElement? e = none := by
    unfold ConnectionStyle.ofElement?
    rw [if_neg h.1, if_neg h.2]
  unfold addNodeChild
  rw [hstyle]
  cases isPort e with
  | true => simp [eq_comm]
  | false => simp

section Ports

variable {e : Element} {cs : List Element} (h : e.children.Perm cs) (node : UInt16)

include h

/-- The only child with a name is found wherever it stands. -/
theorem onlyChild_of_perm (name : String) :
    onlyChild node { e with children := cs } name = onlyChild node e name := by
  have hnamed : (({ e with children := cs } : Element).childrenNamed name).Perm
      (e.childrenNamed name) := h.symm.filter _
  unfold onlyChild
  generalize ({ e with children := cs } : Element).childrenNamed name = found' at hnamed
  generalize e.childrenNamed name = found at hnamed
  match found with
  | [] => rw [hnamed.eq_nil]
  | [c] => rw [hnamed.eq_singleton]
  | c :: d :: rest =>
    match found', hnamed.length_eq with
    | _ :: _ :: _, _ => rfl

theorem declarePorts_of_perm (b : Builder) :
    b.declarePorts node { e with children := cs } = b.declarePorts node e := by
  simp only [declarePorts, declareMediaLb, declareUsb, declareStream, onlyChild_of_perm h]

end Ports

/-- **Nodes**: a node with its children in another order is the same node, if its connections stand
    as before. -/
theorem addNode_rearranged {b : Builder} {e : Element} {cs : List Element}
    (h : Rearranged isConnection e.children cs) {c : Builder} :
    b.addNode e = .ok c ↔ b.addNode { e with children := cs } = .ok c := by
  have hloop : ∀ (node : UInt16) (b c : Builder), e.children.foldlM (addNodeChild node) b = .ok c ↔
      cs.foldlM (addNodeChild node) b = .ok c :=
    fun node b c => h.foldlM_eq_ok fun a ha => addNodeChild_eq_ok ha node
  have hclaim : b.claimAddress { e with children := cs } = b.claimAddress e := rfl
  unfold addNode buildNode
  simp only [hclaim, declarePorts_of_perm h.perm, bind_eq_ok, hloop]
  rfl

/-! ## Roots -/

/-- Whether an element is a node. -/
def isNode (e : Element) : Bool := e.name == Schema.node

/-- Over any other child of the root the builder is idle, if it may be there. -/
theorem addRootChild_eq_ok {e : Element} (h : isNode e = false) (b c : Builder) :
    b.addRootChild e = .ok c ↔ (e.name = Schema.script ∨ e.name = Schema.driver) ∧ c = b := by
  have hname : e.name ≠ Schema.node := beq_eq_false_iff_ne.mp h
  unfold addRootChild
  rw [if_neg hname]
  by_cases hother : e.name = Schema.script ∨ e.name = Schema.driver
  · rw [if_pos hother, Except.ok.injEq]
    exact ⟨fun h => ⟨hother, h.symm⟩, fun h => h.2.symm⟩
  · rw [if_neg hother]
    exact ⟨fun h => (nomatch h), fun h => absurd h.1 hother⟩

end Builder

/-! ## Scripts -/

/-- Scripts are linked if every reference has its script and every script a reference. -/
theorem linkScripts_eq_ok_iff {scripts : List Script} {nodes linked : List Node} :
    linkScripts scripts nodes = .ok linked ↔ nodes.mapM (linkScript scripts) = .ok linked ∧
      ∀ s ∈ scripts, (nodes.any fun n => n.scriptName == some s.name) = true := by
  rw [linkScripts_eq, bind_eq_ok]
  constructor
  · rintro ⟨result, hresult, h⟩
    split at h
    · nomatch h
    · rename_i hunused
      cases h
      refine ⟨hresult, fun s hs => ?_⟩
      simpa using List.find?_eq_none.mp hunused s hs
  · rintro ⟨hlinked, hused⟩
    have hunused : (scripts.find? fun s => !nodes.any fun n => n.scriptName == some s.name) =
        none := by
      rw [List.find?_eq_none]
      intro s hs
      rw [hused s hs]
      decide
    exact ⟨linked, hlinked, by rw [hunused]; rfl⟩

/-- Scripts with names of their own are linked in whatever order they come. -/
theorem linkScripts_of_perm {scripts scripts' : List Script} (hperm : scripts.Perm scripts')
    (hdistinct : (scripts.map Script.name).Nodup) {nodes linked : List Node}
    (h : linkScripts scripts nodes = .ok linked) : linkScripts scripts' nodes = .ok linked := by
  have hfound : linkScript scripts' = linkScript scripts := by
    funext n
    unfold linkScript Script.named?
    simp only [Keyed.find?_perm hdistinct hperm]
  rw [linkScripts_eq_ok_iff] at h ⊢
  rw [hfound]
  exact ⟨h.1, fun s hs => h.2 s (hperm.mem_iff.mpr hs)⟩

/-! ## Drivers -/

/-- Drivers may come in whatever order. -/
theorem DriverRecord.derive_of_perm {arena : Arena} {links : List LinkCandidate}
    {drivers drivers' : List Element} (hperm : drivers.Perm drivers') {records : List DriverRecord}
    (h : DriverRecord.derive arena links drivers = .ok records) :
    DriverRecord.derive arena links drivers' = .ok records := by
  obtain ⟨inferred, hinferred, h⟩ := bind_eq_ok.mp h
  obtain ⟨given, hgiven, h⟩ := bind_eq_ok.mp h
  obtain ⟨given', hgiven', hpairs, hdistinct⟩ :=
    Keyed.collect_perm (DriverRecord.assign_eq_ok (inferred.map fun r => r.link)) hperm hgiven
  unfold DriverRecord.derive
  rw [hinferred, ok_bind, hgiven', ok_bind]
  simp only [Keyed.lookup_perm hdistinct hpairs]
  exact h

/-! ## Documents -/

theorem readHeader_of_perm {r : Element} {cs : List Element} (h : r.children.Perm cs) :
    readHeader { r with children := cs } = readHeader r := by
  unfold readHeader Element.countChildren
  rw [length_childrenNamed_of_perm h]
  rfl

/-- **Roots**: a document with the children of its root in another order is the same document, if
    its nodes stand as before. -/
theorem compileElement_rearranged {r : Element} {cs : List Element}
    (h : Rearranged Builder.isNode r.children cs) {c : Configuration}
    (hc : compileElement r = .ok c) : compileElement { r with children := cs } = .ok c := by
  obtain ⟨b, scripts, hheader, hbuild, hscripts, hnodes, hroutes, hdrivers, hrest⟩ :=
    compileElement_eq_ok.mp hc
  have hnamed : ∀ name : String, (r.childrenNamed name).Perm
      (({ r with children := cs } : Element).childrenNamed name) := fun _ => h.perm.filter _
  obtain ⟨scripts', hscripts', hpairs, hdistinct⟩ :=
    Keyed.collect_perm Script.addTo_eq_ok (hnamed Schema.script) hscripts
  refine compileElement_eq_ok.mpr ⟨b, scripts', ?_, ?_, hscripts', ?_, hroutes, ?_, hrest⟩
  · rw [readHeader_of_perm h.perm, hheader]
  · exact (h.foldlM_eq_ok fun a ha b c => Builder.addRootChild_eq_ok ha b c).mp hbuild
  · exact linkScripts_of_perm hpairs hdistinct hnodes
  · exact DriverRecord.derive_of_perm (hnamed Schema.driver) hdrivers

end MediaNetwork

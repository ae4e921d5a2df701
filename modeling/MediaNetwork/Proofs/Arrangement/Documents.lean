/-
  The layout of documents.

  A change of layout moves an element to another line, puts attributes in another order, or puts
  the children of a node or of the root in another order in which what is built in order,
  connections and nodes, stands as before.  `Element.Relaid` and `Element.RelaidRoot` are one such
  change, anywhere in a document.

  Changes of layout do not count: compilation ends well on both documents or on neither, and in the
  same configuration (`compileElement_relaid`).  A change may be deep in the document, so the
  induction is on where it is: from the place of the change up to a child of the root the elements
  are similar, and a node that is similar is built alike (`BuiltAlike.of_relaid`).
-/
import Mathlib.Logic.Relation
import MediaNetwork.Proofs.Arrangement.Building
import MediaNetwork.Proofs.Arrangement.Order

namespace MediaNetwork

open MediaNetwork.Markup MediaNetwork.Outcome

/-! ## Changes of layout -/

namespace Markup.Element

/-- One change of layout, in an element or somewhere below it. -/
inductive Relaid : Element → Element → Prop
  /-- An element is moved to another line. -/
  | line (name : String) (attributes : List (String × String)) (children : List Element)
      (line line' : Nat) :
      Relaid ⟨name, attributes, children, line⟩ ⟨name, attributes, children, line'⟩
  /-- Attributes with keys of their own are put in another order. -/
  | attributes (name : String) {attributes attributes' : List (String × String)}
      (children : List Element) (line : Nat) (keys : (attributes.map Prod.fst).Nodup)
      (order : attributes.Perm attributes') :
      Relaid ⟨name, attributes, children, line⟩ ⟨name, attributes', children, line⟩
  /-- The children of a node are put in another order; its connections stand as before. -/
  | node (attributes : List (String × String)) {children children' : List Element} (line : Nat)
      (order : Rearranged Builder.isConnection children children') :
      Relaid ⟨Schema.node, attributes, children, line⟩ ⟨Schema.node, attributes, children', line⟩
  /-- The change is in a child. -/
  | child (name : String) (attributes : List (String × String)) (before : List Element)
      {c c' : Element} (after : List Element) (line : Nat) (inside : Relaid c c') :
      Relaid ⟨name, attributes, before ++ c :: after, line⟩
        ⟨name, attributes, before ++ c' :: after, line⟩

/-- One change of layout in a document. -/
inductive RelaidRoot : Element → Element → Prop
  /-- A change that any element allows. -/
  | inside {r r' : Element} (change : Relaid r r') : RelaidRoot r r'
  /-- The children of the root are put in another order; its nodes stand as before. -/
  | root (name : String) (attributes : List (String × String)) {children children' : List Element}
      (line : Nat) (order : Rearranged Builder.isNode children children') :
      RelaidRoot ⟨name, attributes, children, line⟩ ⟨name, attributes, children', line⟩

/-- Lists that are the same but for one related member are related. -/
theorem forall₂_around {R : Element → Element → Prop} (hrefl : ∀ e, R e e) {c c' : Element}
    (h : R c c') (before after : List Element) :
    List.Forall₂ R (before ++ c :: after) (before ++ c' :: after) :=
  List.rel_append (List.forall₂_same.mpr fun e _ => hrefl e)
    (List.Forall₂.cons h (List.forall₂_same.mpr fun e _ => hrefl e))

theorem forall₂_similar_refl (es : List Element) : List.Forall₂ Similar es es :=
  List.forall₂_same.mpr fun e _ => Element.Similar.refl e

/-- A change of layout leaves the element similar. -/
theorem Relaid.similar {e e' : Element} (h : e.Relaid e') : e.Similar e' := by
  induction h with
  | line name attributes children line line' =>
    exact similar_of rfl (fun _ => rfl) fun _ => forall₂_similar_refl children
  | attributes name children line keys order =>
    exact similar_of rfl (Keyed.lookup_perm keys order) fun _ => forall₂_similar_refl children
  | node attributes line order =>
    exact similar_of rfl (fun _ => rfl) fun hname => absurd rfl hname
  | child name attributes before after line inside ih =>
    exact similar_of rfl (fun _ => rfl) fun _ => forall₂_around Element.Similar.refl ih before after

end Markup.Element

open Markup.Element

/-! ## Nodes are built alike -/

namespace Builder

/-- Nothing is asked of errors. -/
abbrev AnyError : CompileError → CompileError → Prop := fun _ _ => True

theorem builtAlike_of_similar {e e' : Element} (h : e.Similar e')
    (hchildren : List.Forall₂ Similar e.children e'.children) : BuiltAlike AnyError e e' where
  similar := h
  node _ _ _ hb := agree_weaken (fun _ _ _ => trivial) (agree_addNode hb h hchildren)

theorem BuiltAlike.refl (e : Element) : BuiltAlike AnyError e e :=
  builtAlike_of_similar (Element.Similar.refl e) (forall₂_similar_refl e.children)

/-- **Nodes**: an element whose layout was changed is built alike. -/
theorem BuiltAlike.of_relaid {e e' : Element} (h : e.Relaid e') : BuiltAlike AnyError e e' := by
  have hsimilar := h.similar
  cases h with
  | line name attributes children line line' =>
    exact builtAlike_of_similar hsimilar (forall₂_similar_refl children)
  | attributes name children line keys order =>
    exact builtAlike_of_similar hsimilar (forall₂_similar_refl children)
  | node attributes line order =>
    refine ⟨hsimilar, fun _ b b' hb => ?_⟩
    -- With its children put in order a node is no other, if it is a node at all.
    refine Agree.of_eq_ok_iff (fun c => addNode_rearranged order) ?_
    exact (BuiltAlike.refl _).node rfl b b' hb
  | child name attributes before after line inside =>
    exact builtAlike_of_similar hsimilar
      (forall₂_around Element.Similar.refl inside.similar before after)

end Builder

/-! ## Documents -/

open Builder

/-- A document whose root is no root does not compile. -/
theorem compileElement_ne_ok {r : Element} (hname : r.name ≠ Schema.unicens) (c : Configuration) :
    compileElement r ≠ .ok c := by
  intro h
  obtain ⟨b, scripts, hheader, -⟩ := compileElement_eq_ok.mp h
  unfold readHeader checkRoot at hheader
  rw [if_neg hname, error_bind] at hheader
  nomatch hheader

/-- One change of layout does not count. -/
theorem Markup.Element.RelaidRoot.compileElement_iff {r r' : Element} (h : r.RelaidRoot r')
    (c : Configuration) : compileElement r = .ok c ↔ compileElement r' = .ok c := by
  have hsame : ∀ es : List Element, List.Forall₂ (BuiltAlike AnyError) es es :=
    fun es => List.forall₂_same.mpr fun e _ => BuiltAlike.refl e
  have hagree : ∀ {d d' : Element}, d.Similar d' →
      List.Forall₂ (BuiltAlike AnyError) d.children d'.children →
      (compileElement d = .ok c ↔ compileElement d' = .ok c) :=
    fun hsimilar hchildren =>
      (agree_compileElement hsimilar (fun _ _ _ => trivial) hchildren).eq_ok_iff c
  cases h with
  | inside change =>
    have hsimilar := change.similar
    cases change with
    | line name attributes children line line' => exact hagree hsimilar (hsame children)
    | attributes name children line keys order => exact hagree hsimilar (hsame children)
    | node attributes line order =>
      have hroot : Schema.node ≠ Schema.unicens := by decide
      exact iff_of_false (compileElement_ne_ok hroot c) (compileElement_ne_ok hroot c)
    | child name attributes before after line inside =>
      exact hagree hsimilar (forall₂_around BuiltAlike.refl (.of_relaid inside) before after)
  | root name attributes line order =>
    exact ⟨compileElement_rearranged order, compileElement_rearranged order.symm⟩

/-- **Layout does not count.**  Documents that differ in layout compile to the same configuration,
    or both do not compile.  If they differ in lines only, they are refused for the same reason, on
    whatever line. -/
theorem compileElement_relaid (r r' : Element) :
    (Relation.ReflTransGen RelaidRoot r r' →
      ∀ c, compileElement r = .ok c ↔ compileElement r' = .ok c) ∧
    (r.SameButLines r' → Concur (compileElement r) (compileElement r')) := by
  refine ⟨fun h c => ?_, concur_compileElement⟩
  induction h with
  | refl => exact Iff.rfl
  | tail _ hstep ih => exact ih.trans (hstep.compileElement_iff c)

/-- A connection that sends into a route. -/
def sampleSource : Element :=
  ⟨"SyncConnection", [], [
    ⟨"MediaLBSocket", [("ChannelAddress", "10"), ("Bandwidth", "4")], [], 5⟩,
    ⟨"NetworkSocket", [("Bandwidth", "4"), ("Route", "a")], [], 6⟩], 4⟩

/-- A connection that receives from it. -/
def sampleSink : Element :=
  ⟨"SyncConnection", [], [
    ⟨"NetworkSocket", [("Bandwidth", "4"), ("Route", "a")], [], 8⟩,
    ⟨"MediaLBSocket", [("ChannelAddress", "12"), ("Bandwidth", "4")], [], 9⟩], 7⟩

/-- The port that both of them use. -/
def samplePort : Element := ⟨"MediaLBPort", [("ClockConfig", "256Fs")], [], 3⟩

/-- A script, on any line. -/
def sampleScript (line : Nat) : Element :=
  ⟨"Script", [("Name", "s")], [⟨"GPIOPortCreate", [("DebounceTime", "0")], [], 11⟩], line⟩

/-- A document in the usual order. -/
def orderedDocument : Element :=
  ⟨"Unicens", [("AsyncBandwidth", "5")], [
    ⟨"Node", [("Address", "512"), ("Script", "s")], [samplePort, sampleSource, sampleSink], 2⟩,
    sampleScript 10], 1⟩

/-- The same document in another layout. -/
def relaidDocument : Element :=
  ⟨"Unicens", [("AsyncBandwidth", "5")], [
    sampleScript 2,
    ⟨"Node", [("Script", "s"), ("Address", "512")], [sampleSource, samplePort, sampleSink], 2⟩], 1⟩

/-- Both compile, and to the same.  A bandwidth that is no number is refused on whatever line. -/
theorem compileElement_relaidDocument :
    Relation.ReflTransGen RelaidRoot orderedDocument relaidDocument ∧
    (∃ c, compileElement orderedDocument = .ok c ∧ compileElement relaidDocument = .ok c) ∧
    Concur (compileElement ⟨"Unicens", [("AsyncBandwidth", "x")], [], 1⟩)
      (compileElement ⟨"Unicens", [("AsyncBandwidth", "x")], [], 7⟩) := by
  have hchange : Relation.ReflTransGen RelaidRoot orderedDocument relaidDocument := by
    refine .head (.inside (.child _ _ [] [sampleScript 10] 1 (.attributes _ _ _ ?_ (.swap ..)))) ?_
    · decide
    refine .head (.inside (.child _ _ [] [sampleScript 10] 1 (.node _ _ ⟨.swap .., rfl⟩))) ?_
    refine .head (.root _ _ _ ⟨.swap .., rfl⟩) ?_
    exact .single (.inside (.child _ _ [] _ 1 (.line _ _ _ 10 2)))
  have hcompiles : (compileElement orderedDocument).toOption.isSome = true := by decide +kernel
  obtain ⟨c, hc⟩ : ∃ c, compileElement orderedDocument = .ok c := by
    generalize compileElement orderedDocument = result at hcompiles
    cases result with
    | ok c => exact ⟨c, rfl⟩
    | error fault => nomatch hcompiles
  exact ⟨hchange, ⟨c, hc, ((compileElement_relaid _ _).1 hchange c).mp hc⟩,
    (compileElement_relaid _ _).2 rfl⟩

end MediaNetwork

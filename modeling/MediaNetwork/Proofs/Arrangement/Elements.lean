/-
  Elements that say the same.

  Two elements are similar if they have the same name, the same value for every attribute key and,
  one for one, similar children (`Element.Similar`).  Of a node element the children are left out,
  because a document may rearrange them; they are compared where nodes are built.  Elements that are
  the same but for their lines are similar (`SameButLines.similar`).

  Whatever is read from an attribute is read alike from similar elements: the values are the same,
  and the errors are the same but for their lines.  So is what is looked for among children.
-/
import MediaNetwork.Markup.Access
import MediaNetwork.Proofs.Agreement
import MediaNetwork.Proofs.Keyed
import MediaNetwork.Schema

namespace MediaNetwork.Markup.Element

open MediaNetwork.Outcome

/-! ## Similar elements -/

mutual

/-- The elements have the same name, attribute values and, if they are no nodes, similar
    children. -/
def Similar : Element → Element → Prop
  | ⟨name, attributes, children, _⟩, e =>
    e.name = name ∧ (∀ key, e.attribute? key = attributes.lookup key) ∧
      (name ≠ Schema.node → AllSimilar children e.children)

/-- The elements are similar, one for one. -/
def AllSimilar : List Element → List Element → Prop
  | [], es => es = []
  | c :: cs, es => ∃ e rest, es = e :: rest ∧ Similar c e ∧ AllSimilar cs rest

end

/-- Lists of similar elements are similar one for one. -/
theorem allSimilar_iff {cs es : List Element} :
    AllSimilar cs es ↔ List.Forall₂ Similar cs es := by
  induction cs generalizing es with
  | nil =>
    rw [AllSimilar, List.forall₂_nil_left_iff]
  | cons c cs ih =>
    rw [AllSimilar, List.forall₂_cons_left_iff]
    constructor
    · rintro ⟨e, rest, rfl, he, hrest⟩
      exact ⟨e, rest, he, ih.mp hrest, rfl⟩
    · rintro ⟨e, rest, he, hrest, rfl⟩
      exact ⟨e, rest, rfl, he, ih.mpr hrest⟩

namespace Similar

variable {e e' : Element} (h : e.Similar e')

include h

/-- Similar elements have one name. -/
theorem name_eq : e'.name = e.name := by
  obtain ⟨name, attributes, children, line⟩ := e
  exact h.1

/-- A key has one value in both, wherever it stands. -/
theorem attribute?_eq (key : String) : e'.attribute? key = e.attribute? key := by
  obtain ⟨name, attributes, children, line⟩ := e
  exact h.2.1 key

/-- Similar elements have similar children in the same order, unless they are nodes. -/
theorem children (hname : e.name ≠ Schema.node) :
    List.Forall₂ Similar e.children e'.children := by
  obtain ⟨name, attributes, children, line⟩ := e
  exact allSimilar_iff.mp (h.2.2 hname)

end Similar

/-- Elements are similar if what is read of them is the same. -/
theorem similar_of {e e' : Element} (hname : e'.name = e.name)
    (hattributes : ∀ key, e'.attribute? key = e.attribute? key)
    (hchildren : e.name ≠ Schema.node → List.Forall₂ Similar e.children e'.children) :
    e.Similar e' := by
  obtain ⟨name, attributes, children, line⟩ := e
  exact ⟨hname, hattributes, fun h => allSimilar_iff.mpr (hchildren h)⟩

mutual

/-- Every element is similar to itself, by induction over the tree. -/
theorem Similar.refl : ∀ e : Element, e.Similar e
  | ⟨_, _, children, _⟩ => ⟨rfl, fun _ => rfl, fun _ => AllSimilar.refl children⟩

theorem AllSimilar.refl : ∀ es : List Element, AllSimilar es es
  | [] => rfl
  | e :: es => ⟨e, es, rfl, Similar.refl e, AllSimilar.refl es⟩

end

/-! ## Lines -/

mutual

/-- The element without its lines. -/
def unlined : Element → Element
  | ⟨name, attributes, children, _⟩ => ⟨name, attributes, unlinedAll children, 0⟩

/-- The elements without their lines. -/
def unlinedAll : List Element → List Element
  | [] => []
  | e :: es => unlined e :: unlinedAll es

end

theorem unlinedAll_eq_map (es : List Element) : unlinedAll es = es.map unlined := by
  induction es with
  | nil => rfl
  | cons e es ih => rw [unlinedAll, ih, List.map_cons]

/-- The elements are the same but for their lines. -/
def SameButLines (e e' : Element) : Prop := e'.unlined = e.unlined

/-- So are then their children, one for one. -/
theorem SameButLines.children {e e' : Element} (h : e.SameButLines e') :
    List.Forall₂ SameButLines e.children e'.children := by
  obtain ⟨name, attributes, children, line⟩ := e
  obtain ⟨name', attributes', children', line'⟩ := e'
  have hchildren : unlinedAll children' = unlinedAll children := by
    injection h
  rw [unlinedAll_eq_map, unlinedAll_eq_map, map_eq_map_iff_forall₂] at hchildren
  exact hchildren.flip

/-- Elements are the same but for their lines if what they hold is. -/
theorem sameButLines_of {e e' : Element} (hname : e'.name = e.name)
    (hattributes : e'.attributes = e.attributes)
    (hchildren : List.Forall₂ SameButLines e.children e'.children) : e.SameButLines e' := by
  obtain ⟨name, attributes, children, line⟩ := e
  obtain ⟨name', attributes', children', line'⟩ := e'
  have hall : unlinedAll children' = unlinedAll children := by
    rw [unlinedAll_eq_map, unlinedAll_eq_map, map_eq_map_iff_forall₂]
    exact hchildren.flip
  cases hname
  cases hattributes
  show unlined _ = unlined _
  rw [unlined, unlined, hall]

mutual

/-- Elements that differ in lines only are similar. -/
theorem SameButLines.similar : ∀ {e e' : Element}, e.SameButLines e' → e.Similar e'
  | ⟨name, attributes, children, line⟩, ⟨name', attributes', children', line'⟩, h => by
    injection h with hname hattributes hchildren
    refine ⟨hname, fun key => ?_, fun _ => allSimilar_of_unlined hchildren⟩
    show attributes'.lookup key = attributes.lookup key
    rw [hattributes]

/-- To differ in lines only is a case of being similar. -/
theorem allSimilar_of_unlined : ∀ {cs es : List Element}, unlinedAll es = unlinedAll cs →
    AllSimilar cs es
  | [], [], _ => rfl
  | c :: cs, e :: es, h => by
    injection h with he hrest
    exact ⟨e, es, rfl, SameButLines.similar he, allSimilar_of_unlined hrest⟩

end

/-! ## Among several elements -/

section Related

variable {R : Element → Element → Prop} (hR : ∀ c e, R c e → e.name = c.name)
  {cs es : List Element} (h : List.Forall₂ R cs es)

include hR h

/-- Similar elements have the same names in the same order. -/
theorem map_name_of_forall₂ : es.map name = cs.map name := by
  induction h with
  | nil => rfl
  | cons hc _ ih => rw [List.map_cons, List.map_cons, hR _ _ hc, ih]

/-- Related elements are picked by their names alike. -/
theorem filter_of_forall₂ (p : String → Bool) :
    List.Forall₂ R (cs.filter fun c => p c.name) (es.filter fun e => p e.name) :=
  List.rel_filter (fun c e hce => by simp only [hR c e hce]) h

end Related

/-- The children with a name are similar if the children are. -/
theorem similar_childrenNamed {e e' : Element} (name : String)
    (h : List.Forall₂ Similar e.children e'.children) :
    List.Forall₂ Similar (e.childrenNamed name) (e'.childrenNamed name) :=
  filter_of_forall₂ (fun _ _ hc => hc.name_eq) h fun n => n == name

/-! ## Reading attributes -/

section Attributes

variable {e e' : Element} (h : e.Similar e') (key : String)

include h

/-- What is demanded of one is there in the other too, or both lack it on their own lines. -/
theorem Similar.demand {α : Type} {x y : Except CompileError (Option α)}
    (hxy : Concur x y) :
    Concur (e.demand key x) (e'.demand key y) := by
  cases hxy with
  | error fault => exact .error fault
  | @ok value value' hvalue =>
    cases hvalue
    cases value with
    | none =>
      refine .error ?_
      unfold missing
      rw [h.name_eq]
      rfl
    | some value => exact .ok rfl

theorem Similar.text : Concur (e.text key) (e'.text key) :=
  h.demand key (by rw [h.attribute?_eq key]; exact .ok rfl)

/-- **Numbers** are read alike: the fault is the same, but for its line. -/
theorem Similar.integer? (max : Nat) :
    Concur (e.integer? key max) (e'.integer? key max) := by
  unfold Element.integer?
  rw [h.attribute?_eq key, h.name_eq]
  cases e.attribute? key with
  | none => exact .ok rfl
  | some raw =>
    simp only
    cases readInteger raw max with
    | ok n => exact .ok rfl
    | error fault =>
      cases fault with
      | malformed => exact .error rfl
      | outOfRange => exact .error rfl

theorem Similar.byte? : Concur (e.byte? key) (e'.byte? key) :=
  (h.integer? key 255).map fun _ => rfl

theorem Similar.byte : Concur (e.byte key) (e'.byte key) :=
  h.demand key (h.byte? key)

theorem Similar.word? : Concur (e.word? key) (e'.word? key) :=
  (h.integer? key 65535).map fun _ => rfl

theorem Similar.word : Concur (e.word key) (e'.word key) :=
  h.demand key (h.word? key)

/-- A value is invalid in both for the same reason. -/
theorem Similar.invalid (value : String) :
    (e.invalid key value).SameButLine (e'.invalid key value) := by
  unfold Element.invalid
  rw [h.name_eq]
  rfl

/-- **Keywords** are read alike. -/
theorem Similar.keyword? {α : Type} (table : Keywords α) :
    Concur (e.keyword? key table) (e'.keyword? key table) := by
  unfold Element.keyword?
  rw [h.attribute?_eq key]
  cases e.attribute? key with
  | none => exact .ok rfl
  | some raw =>
    simp only
    cases table.value? raw with
    | some value => exact .ok rfl
    | none => exact .error (h.invalid key raw)

theorem Similar.keyword {α : Type} (table : Keywords α) :
    Concur (e.keyword key table) (e'.keyword key table) :=
  h.demand key (h.keyword? key table)

/-- **Payloads** are read alike. -/
theorem Similar.payload? : Concur (e.payload? key) (e'.payload? key) := by
  unfold Element.payload?
  rw [h.attribute?_eq key]
  cases e.attribute? key with
  | none => exact .ok rfl
  | some raw =>
    simp only
    cases readPayload raw with
    | some bytes => exact .ok rfl
    | none => exact .error (h.invalid key raw)

theorem Similar.payload : Concur (e.payload key) (e'.payload key) :=
  h.demand key (h.payload? key)

end Attributes

/-! ## Reading children -/

section Children

variable {e e' : Element} (h : e.Similar e')

include h

/-- Children that are related by name are counted alike. -/
theorem Similar.countChildren (name : String) (mandatory : Bool)
    (hnames : e'.children.map Element.name = e.children.map Element.name) :
    Concur (e.countChildren name mandatory)
      (e'.countChildren name mandatory) := by
  have hlength : ∀ d : Element, (d.childrenNamed name).length =
      ((d.children.map Element.name).filter fun n => n == name).length := by
    intro d
    rw [List.filter_map, List.length_map]
    rfl
  unfold Element.countChildren
  simp only [hlength, hnames, h.name_eq]
  split
  · exact .error rfl
  · exact .ok rfl

/-- One of several names is found alike among the children. -/
theorem Similar.require (names : List String)
    (hchildren : List.Forall₂ Similar e.children e'.children) :
    Agree CompileError.SameButLine Similar (e.require names .siblings)
      (e'.require names .siblings) := by
  have hfound := find?_of_forall₂ hchildren (p := fun c => names.contains c.name)
    (q := fun c => names.contains c.name) fun c d hcd => by rw [hcd.name_eq]
  unfold Element.require find?
  rw [h.name_eq]
  simp only
  generalize e.children.find? (fun c => names.contains c.name) = x at hfound ⊢
  generalize e'.children.find? (fun c => names.contains c.name) = y at hfound ⊢
  cases hfound with
  | some hcd => exact .ok hcd
  | none => exact .error rfl

end Children

end MediaNetwork.Markup.Element

/-
  Elements without activity.

  A network socket says by two attributes whether its route is active and which id it has.
  `bare false` takes the first of them away from every network socket of an element, `bare true`
  both; two elements differ in nothing else if their bare forms are equal.

  Every other attribute has the same value in the bare element, and every child is the bare form of
  the child, so whatever is read from other attributes is read in the same way, errors included.
  The reading lemmas ask for a key that is not taken away, which is decided for each key.
-/
import MediaNetwork.Proofs.Refusal.Located

namespace MediaNetwork.Markup.Element

open MediaNetwork.Outcome

/-! ## Bare elements -/

/-- Whether a key is taken away from network sockets. -/
def isTaken (ids : Bool) (key : String) : Bool :=
  key == Schema.isActive || (ids && key == Schema.routeId)

/-- The attributes an element with this name keeps. -/
def bareAttributes (ids : Bool) (name : String) (attributes : List (String × String)) :
    List (String × String) :=
  if name = Schema.networkSocket then attributes.filter fun a => !isTaken ids a.1 else attributes

mutual

/-- The element without the activity of its network sockets and, if `ids`, without their ids. -/
def bare (ids : Bool) : Element → Element
  | ⟨name, attributes, children, line⟩ =>
    ⟨name, bareAttributes ids name attributes, bareAll ids children, line⟩

/-- The elements in their bare forms. -/
def bareAll (ids : Bool) : List Element → List Element
  | [] => []
  | e :: es => bare ids e :: bareAll ids es

end

variable {ids : Bool}

/-- All elements of a list are made bare one by one. -/
theorem bareAll_eq_map (es : List Element) : bareAll ids es = es.map (bare ids) := by
  induction es with
  | nil => rfl
  | cons e es ih => rw [bareAll, ih, List.map_cons]

section Parts

variable (e : Element)

@[simp] theorem name_bare : (e.bare ids).name = e.name := by
  obtain ⟨name, attributes, children, line⟩ := e
  rfl

@[simp] theorem line_bare : (e.bare ids).line = e.line := by
  obtain ⟨name, attributes, children, line⟩ := e
  rfl

@[simp] theorem children_bare : (e.bare ids).children = e.children.map (bare ids) := by
  obtain ⟨name, attributes, children, line⟩ := e
  exact bareAll_eq_map children

/-- The children of a name are found among the bare children. -/
@[simp] theorem childrenNamed_bare (name : String) :
    (e.bare ids).childrenNamed name = (e.childrenNamed name).map (bare ids) := by
  unfold childrenNamed
  rw [children_bare, List.filter_map]
  refine congrArg (List.map (bare ids)) (List.filter_congr fun c _ => ?_)
  show ((c.bare ids).name == name) = (c.name == name)
  rw [name_bare]

/-- What is filtered out is not found, and hides nothing else. -/
theorem lookup_filter_fst (p : String → Bool) (attributes : List (String × String))
    (key : String) : (attributes.filter fun a => p a.1).lookup key =
      if p key then attributes.lookup key else none := by
  induction attributes with
  | nil => simp
  | cons a attributes ih =>
    obtain ⟨k, v⟩ := a
    by_cases hkey : key = k
    · subst hkey
      cases hp : p key with
      | true => simp [hp]
      | false => simpa [hp] using ih
    · have hne : (key == k) = false := by simpa using hkey
      cases hp : p k with
      | true => simpa [hp, List.lookup_cons, hne] using ih
      | false => simpa [hp, List.lookup_cons, hne] using ih

/-- **Attributes**: those that are taken away are absent, and all others are the same. -/
theorem attribute?_bare (key : String) : (e.bare ids).attribute? key =
    if e.name = Schema.networkSocket ∧ isTaken ids key then none else e.attribute? key := by
  obtain ⟨name, attributes, children, line⟩ := e
  show (bareAttributes ids name attributes).lookup key = _
  unfold bareAttributes
  by_cases hname : name = Schema.networkSocket
  · rw [if_pos hname, lookup_filter_fst fun k => !isTaken ids k]
    cases hkey : isTaken ids key with
    | true => simp [hname]
    | false => simp [attribute?]
  · rw [if_neg hname, if_neg fun h => hname h.1]
    rfl

end Parts

/-! ## Reading other attributes -/

section Attributes

variable (e : Element) {key : String} (hkey : isTaken true key = false)

include hkey

/-- A key that nobody takes away is looked up as before. -/
@[simp] theorem attribute?_bare_of_kept : (e.bare ids).attribute? key = e.attribute? key := by
  have hkept : isTaken ids key = false := by
    cases ids with
    | true => exact hkey
    | false => exact Bool.or_eq_false_iff.mpr ⟨(Bool.or_eq_false_iff.mp hkey).1, rfl⟩
  rw [attribute?_bare, hkept]
  simp

/-- What is read under such a key is read as before: texts, and by the lemmas below numbers,
    keywords and payloads. -/
@[simp] theorem text_bare : (e.bare ids).text key = e.text key := by
  unfold text
  rw [attribute?_bare_of_kept e hkey]
  cases e.attribute? key with
  | none => simp [demand, missing]
  | some value => rfl

@[simp] theorem integer?_bare (max : Nat) : (e.bare ids).integer? key max = e.integer? key max := by
  unfold integer?
  rw [attribute?_bare_of_kept e hkey, name_bare, line_bare]

@[simp] theorem byte?_bare : (e.bare ids).byte? key = e.byte? key := by
  unfold byte?
  rw [integer?_bare e hkey]

@[simp] theorem word?_bare : (e.bare ids).word? key = e.word? key := by
  unfold word?
  rw [integer?_bare e hkey]

@[simp] theorem keyword?_bare {α : Type} (table : Keywords α) :
    (e.bare ids).keyword? key table = e.keyword? key table := by
  unfold keyword? invalid
  rw [attribute?_bare_of_kept e hkey, name_bare, line_bare]

@[simp] theorem payload?_bare : (e.bare ids).payload? key = e.payload? key := by
  unfold payload? invalid
  rw [attribute?_bare_of_kept e hkey, name_bare, line_bare]

end Attributes

section Demanded

variable (e : Element) (key : String)

/-- An attribute is missed in the same way. -/
@[simp] theorem demand_bare {α : Type} (x : Except CompileError (Option α)) :
    (e.bare ids).demand key x = e.demand key x := by
  unfold demand missing
  rw [name_bare, line_bare]

@[simp] theorem byte_bare (hkey : isTaken true key = false) :
    (e.bare ids).byte key = e.byte key := by
  rw [byte, demand_bare, byte?_bare e hkey, byte]

@[simp] theorem word_bare (hkey : isTaken true key = false) :
    (e.bare ids).word key = e.word key := by
  rw [word, demand_bare, word?_bare e hkey, word]

@[simp] theorem keyword_bare {α : Type} (table : Keywords α) (hkey : isTaken true key = false) :
    (e.bare ids).keyword key table = e.keyword key table := by
  rw [keyword, demand_bare, keyword?_bare e hkey, keyword]

@[simp] theorem payload_bare (hkey : isTaken true key = false) :
    (e.bare ids).payload key = e.payload key := by
  rw [payload, demand_bare, payload?_bare e hkey, payload]

@[simp] theorem countChildren_bare (name : String) (mandatory : Bool) :
    (e.bare ids).countChildren name mandatory = e.countChildren name mandatory := by
  unfold countChildren
  rw [childrenNamed_bare, List.length_map, name_bare, line_bare]

end Demanded

end MediaNetwork.Markup.Element

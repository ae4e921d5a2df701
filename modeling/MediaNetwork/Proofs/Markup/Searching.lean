/-
  Searching finds what comes first in the document.

  1. Paths — `at?` goes down from an element by the places of children among their siblings.  In
     the order of paths, which is the order of words in a dictionary, an element comes before what
     is below it, and that before its later siblings.
  2. Document order — `located` lists the descendants with their paths.  Each path that leads
     somewhere is there (`mem_located`), and the paths rise (`pairwise_located`), so `descendants`
     is the listing in the order of paths (`inOrder_descendants`).
  3. Searching — a search through the children or the subtree finds the first element of the list
     of those it goes through (`find?_eq`).  The recursion tests a child and goes below it before
     it takes the next one, as the listing does.

  The inductions are over elements and lists of elements at once, as the listing is.
-/
import MediaNetwork.Markup.Access

namespace MediaNetwork.Markup.Element

/-! ## Paths -/

/-- The element a path leads to.  A path tells which child to go to, counted from 0, then which
    child of that, and so on. -/
def at? : Element → List Nat → Option Element
  | e, [] => some e
  | e, i :: path =>
    match e.children[i]? with
    | some child => child.at? path
    | none => none

mutual

/-- The proper descendants with their paths. -/
def located : Element → List (List Nat × Element)
  | ⟨_, _, children, _⟩ => locatedFrom 0 children

/-- The elements of a list and their descendants with their paths, the elements counted from
    `i`. -/
def locatedFrom (i : Nat) : List Element → List (List Nat × Element)
  | [] => []
  | e :: es =>
    ([i], e) :: ((located e).map fun x => (i :: x.1, x.2)) ++ locatedFrom (i + 1) es

end

/-- These are the proper descendants of an element in document order: those its paths lead to, in
    the order of the paths. -/
def InOrder (e : Element) (es : List Element) : Prop :=
  ∃ places : List (List Nat × Element), places.map Prod.snd = es ∧
    (∀ path d, (path, d) ∈ places ↔ path ≠ [] ∧ e.at? path = some d) ∧
    places.Pairwise fun x y => x.1 < y.1

/-! ## Document order -/

mutual

/-- The elements that are listed with their paths are the descendants. -/
theorem map_snd_located : ∀ e : Element, (located e).map Prod.snd = descendants e
  | ⟨_, _, children, _⟩ => map_snd_locatedFrom 0 children

theorem map_snd_locatedFrom (i : Nat) :
    ∀ es : List Element, (locatedFrom i es).map Prod.snd = listDescendants es
  | [] => rfl
  | e :: es => by
    have hbelow : ((located e).map fun x => (i :: x.1, x.2)).map Prod.snd = descendants e := by
      rw [List.map_map, ← map_snd_located e]
      rfl
    rw [locatedFrom, listDescendants, List.map_append, List.map_cons, hbelow,
      map_snd_locatedFrom (i + 1) es]
    rfl

end

mutual

/-- The listed paths are those that lead below the element, with where they lead. -/
theorem mem_located : ∀ (e : Element) (path : List Nat) (d : Element),
    (path, d) ∈ located e ↔ path ≠ [] ∧ e.at? path = some d
  | ⟨name, attributes, children, line⟩, path, d => by
    rw [located, mem_locatedFrom 0 children]
    constructor
    · rintro ⟨j, rest, c, rfl, hc, hd⟩
      refine ⟨List.cons_ne_nil _ _, ?_⟩
      rw [at?, Nat.zero_add, hc]
      exact hd
    · rintro ⟨hne, hd⟩
      obtain ⟨j, rest, rfl⟩ := List.exists_cons_of_ne_nil hne
      rw [at?] at hd
      split at hd
      · rename_i c hc
        exact ⟨j, rest, c, by rw [Nat.zero_add], hc, hd⟩
      · nomatch hd

theorem mem_locatedFrom (i : Nat) : ∀ (es : List Element) (path : List Nat) (d : Element),
    (path, d) ∈ locatedFrom i es ↔
      ∃ j rest c, path = (i + j) :: rest ∧ es[j]? = some c ∧ c.at? rest = some d
  | [], path, d => by simp [locatedFrom]
  | e :: es, path, d => by
    rw [locatedFrom, List.cons_append, List.mem_cons, List.mem_append, mem_locatedFrom (i + 1) es]
    constructor
    · rintro (hself | hbelow | ⟨j, rest, c, rfl, hc, hd⟩)
      · cases hself
        exact ⟨0, [], e, rfl, rfl, rfl⟩
      · obtain ⟨⟨rest, below⟩, hrest, heq⟩ := List.mem_map.mp hbelow
        cases heq
        exact ⟨0, rest, e, rfl, rfl, ((mem_located e rest below).mp hrest).2⟩
      · exact ⟨j + 1, rest, c, by rw [Nat.add_right_comm, Nat.add_assoc], hc, hd⟩
    · rintro ⟨j, rest, c, rfl, hc, hd⟩
      cases j with
      | zero =>
        cases hc
        cases rest with
        | nil =>
          cases hd
          exact .inl rfl
        | cons j rest =>
          have hrest := (mem_located e (j :: rest) d).mpr ⟨List.cons_ne_nil _ _, hd⟩
          exact .inr (.inl (List.mem_map_of_mem hrest))
      | succ j =>
        exact .inr (.inr ⟨j, rest, c, by rw [Nat.add_right_comm, Nat.add_assoc], hc, hd⟩)

end

mutual

/-- The listed paths rise. -/
theorem pairwise_located : ∀ e : Element, (located e).Pairwise fun x y => x.1 < y.1
  | ⟨_, _, children, _⟩ => pairwise_locatedFrom 0 children

/-- The paths are listed in increasing order, the children being counted from `i`. -/
theorem pairwise_locatedFrom (i : Nat) :
    ∀ es : List Element, (locatedFrom i es).Pairwise fun x y => x.1 < y.1
  | [] => .nil
  | e :: es => by
    have hbelow : ((located e).map fun x => (i :: x.1, x.2)).Pairwise fun x y => x.1 < y.1 := by
      rw [List.pairwise_map]
      exact (pairwise_located e).imp fun hlt => List.cons_lt_cons_iff.mpr (.inr ⟨rfl, hlt⟩)
    -- the paths of later elements begin with a larger number
    have hlater : ∀ rest : List Nat, ∀ y ∈ locatedFrom (i + 1) es, i :: rest < y.1 := by
      rintro rest ⟨path, d⟩ hy
      obtain ⟨j, below, c, rfl, -, -⟩ := (mem_locatedFrom (i + 1) es path d).mp hy
      exact List.cons_lt_cons_iff.mpr (.inl (by omega))
    rw [locatedFrom, List.cons_append, List.pairwise_cons, List.pairwise_append]
    refine ⟨fun y hy => ?_, hbelow, pairwise_locatedFrom (i + 1) es, fun x hx y hy => ?_⟩
    · rcases List.mem_append.mp hy with hy | hy
      · obtain ⟨⟨path, d⟩, hpath, rfl⟩ := List.mem_map.mp hy
        obtain ⟨j, rest, rfl⟩ := List.exists_cons_of_ne_nil ((mem_located e path d).mp hpath).1
        exact List.cons_lt_cons_iff.mpr (.inr ⟨rfl, List.nil_lt_cons _ _⟩)
      · exact hlater [] y hy
    · obtain ⟨x, -, rfl⟩ := List.mem_map.mp hx
      exact hlater _ y hy

end

/-- **Document order**: the descendants are listed in the order of their paths. -/
theorem inOrder_descendants (e : Element) : InOrder e e.descendants :=
  ⟨located e, map_snd_located e, mem_located e, pairwise_located e⟩

/-! ## Searching -/

/-- The elements a search goes through, in document order. -/
def scanned (e : Element) : Scan → List Element
  | .siblings => e.children
  | .subtree => e.descendants

mutual

/-- **Searching** below an element finds the first descendant that has one of the names. -/
theorem findBelow?_eq (names : List String) :
    ∀ e : Element, findBelow? names e = (descendants e).find? fun d => names.contains d.name
  | ⟨_, _, children, _⟩ => findAmong?_eq names children

theorem findAmong?_eq (names : List String) :
    ∀ es : List Element, findAmong? names es =
      (listDescendants es).find? fun d => names.contains d.name
  | [] => rfl
  | e :: es => by
    rw [findAmong?, listDescendants, List.find?_cons, List.find?_append, findBelow?_eq names e,
      findAmong?_eq names es]
    cases names.contains e.name with
    | true => rfl
    | false =>
      cases (descendants e).find? fun d => names.contains d.name with
      | none => rfl
      | some found => rfl

end

/-- Either way of searching finds the first of the elements it goes through. -/
theorem find?_eq (e : Element) (names : List String) (scan : Scan) :
    e.find? names scan = (e.scanned scan).find? fun d => names.contains d.name := by
  cases scan with
  | siblings => rfl
  | subtree => exact findBelow?_eq names e

/-- An element stands in a list, and it is the first there with one of these names. -/
def FirstNamed (names : List String) (es : List Element) (found : Element) : Prop :=
  ∃ before after, es = before ++ found :: after ∧ found.name ∈ names ∧
    ∀ d ∈ before, d.name ∉ names

/-- A search finds what comes first. -/
theorem find?_eq_some {e found : Element} {names : List String} {scan : Scan} :
    e.find? names scan = some found ↔ FirstNamed names (e.scanned scan) found := by
  rw [find?_eq, List.find?_eq_some_iff_append]
  constructor
  · rintro ⟨hfound, before, after, hsplit, hbefore⟩
    exact ⟨before, after, hsplit, by simpa using hfound, fun d hd => by simpa using hbefore d hd⟩
  · rintro ⟨before, after, hsplit, hfound, hbefore⟩
    exact ⟨by simpa using hfound, before, after, hsplit, fun d hd => by simpa using hbefore d hd⟩

/-- A search finds nothing if there is nothing to be found. -/
theorem find?_eq_none {e : Element} {names : List String} {scan : Scan} :
    e.find? names scan = none ↔ ∀ d ∈ e.scanned scan, d.name ∉ names := by
  rw [find?_eq, List.find?_eq_none]
  simp

/-- A required element is the one that is found. -/
theorem require_eq_ok {e found : Element} {names : List String} {scan : Scan} :
    e.require names scan = .ok found ↔ e.find? names scan = some found := by
  unfold require
  cases e.find? names scan with
  | none => simp
  | some d => simp

/-- It is missed exactly if none is found, on the line of the element that was searched. -/
theorem require_eq_error {e : Element} {names : List String} {scan : Scan}
    {fault : CompileError} : e.require names scan = .error fault ↔
      e.find? names scan = none ∧
        fault = .missingElement e.name ("|".intercalate names) e.line := by
  unfold require
  cases e.find? names scan with
  | none => simp [eq_comm]
  | some d => simp

/-- **Searching finds what comes first.**  The descendants are listed in document order, and a
    search through the subtree finds the first of them with one of the names, a search through the
    siblings the first such child, and nothing exactly if there is none.  To require what a search
    finds gives it, and fails exactly if the search finds nothing, for want of an element with one
    of the names. -/
theorem find?_first (e : Element) (names : List String) :
    InOrder e e.descendants ∧
    (∀ found, e.find? names .subtree = some found ↔ FirstNamed names e.descendants found) ∧
    (e.find? names .subtree = none ↔ ∀ d ∈ e.descendants, d.name ∉ names) ∧
    (∀ found, e.find? names .siblings = some found ↔ FirstNamed names e.children found) ∧
    (e.find? names .siblings = none ↔ ∀ c ∈ e.children, c.name ∉ names) ∧
    ∀ scan, (∀ found, e.require names scan = .ok found ↔ e.find? names scan = some found) ∧
      ∀ fault, e.require names scan = .error fault ↔ e.find? names scan = none ∧
        fault = .missingElement e.name ("|".intercalate names) e.line :=
  ⟨inOrder_descendants e, fun _ => find?_eq_some, find?_eq_none, fun _ => find?_eq_some,
    find?_eq_none, fun _ => ⟨fun _ => require_eq_ok, fun _ => require_eq_error⟩⟩

example : (find? ⟨"Node", [], [⟨"Splitter", [], [⟨"USBSocket", [], [], 3⟩], 2⟩,
    ⟨"USBSocket", [], [], 4⟩], 1⟩ ["USBSocket"] .subtree).map line = some 3 := rfl

end MediaNetwork.Markup.Element

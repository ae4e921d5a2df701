/-
  The tree of a text.

  `Traversal lineOf e events` says that the events are the tags of the element `e` in the order of a
  depth-first walk: a childless tag for an element without children, or its start tag, the walks of
  its children one behind the other, and an end tag that fits.  It speaks of the tree only and knows
  of no stack.

  Reading gives a tree exactly for such events (`build_eq_ok`), in two directions.

  1. What the builder has after some events is told by these events (`Grown`): every open element
     has its start tag there and behind it the walks of the children it has so far.  Each event
     keeps this (`Grown.addAt`), so the run does (`Grown.run`), and when nothing is open any more
     the events are the walk of the root.
  2. A walk puts its element into what is open, whatever that is (`foldlM_traversal`, an induction
     over the walk together with the walks of the children).

  The two together are `readTree_exact`.
-/
import MediaNetwork.Compile
import MediaNetwork.Proofs.Markup.Attributes
import MediaNetwork.Proofs.Markup.Lines

namespace MediaNetwork

open MediaNetwork.Markup MediaNetwork.Outcome MediaNetwork.Text

namespace Markup

/-- Whether an event is a tag. -/
def Event.isTag : Event → Bool
  | .start _ | .childless _ | .close _ => true
  | .other => false

/-- The tags of a reading, each with the offset at which its reading began. -/
def Reading.tags (r : Reading) : List (Nat × Event) := r.events.filter fun x => x.2.isTag

/-! ## Walks -/

mutual

/-- The events are the depth-first walk of the element, each tag on the line of its offset. -/
inductive Traversal (lineOf : Nat → Nat) : Element → List (Nat × Event) → Prop
  /-- A childless tag is an element without children. -/
  | childless (offset : Nat) {tag : Tag} {attributes : List (String × String)}
      (declares : tag.Declares attributes) :
      Traversal lineOf ⟨String.ofList tag.name, attributes, [], lineOf offset⟩
        [(offset, .childless tag)]
  /-- A start tag and the end tag that names it are an element; between them is the walk of its
      children. -/
  | block (offset stop : Nat) {tag : Tag} {name : List Char} {attributes : List (String × String)}
      {children : List Element} {inside : List (Nat × Event)} (declares : tag.Declares attributes)
      (fits : closingName name = tag.name) (walk : Traversals lineOf children inside) :
      Traversal lineOf ⟨String.ofList tag.name, attributes, children, lineOf offset⟩
        ((offset, .start tag) :: (inside ++ [(stop, .close name)]))

/-- The events are the walks of the elements, one behind the other. -/
inductive Traversals (lineOf : Nat → Nat) : List Element → List (Nat × Event) → Prop
  | nil : Traversals lineOf [] []
  | cons {e : Element} {es : List Element} {first others : List (Nat × Event)}
      (head : Traversal lineOf e first) (tail : Traversals lineOf es others) :
      Traversals lineOf (e :: es) (first ++ others)

end

variable {lineOf : Nat → Nat}

/-- Another walk comes behind those there are. -/
theorem Traversals.concat {es : List Element} {events : List (Nat × Event)}
    (h : Traversals lineOf es events) {e : Element} {last : List (Nat × Event)}
    (he : Traversal lineOf e last) : Traversals lineOf (es ++ [e]) (events ++ last) := by
  induction es generalizing events with
  | nil =>
    cases h
    have hlast : Traversals lineOf [e] (last ++ []) := .cons he .nil
    rw [List.append_nil] at hlast
    exact hlast
  | cons e' es ih =>
    cases h with
    | cons head tail =>
      rw [List.append_assoc]
      exact .cons head (ih tail)

theorem openElement_eq_ok {line : Nat} {tag : Tag} {o : OpenElement} :
    Growth.openElement line tag = .ok o ↔
      ∃ attributes, tag.Declares attributes ∧
        o = ⟨String.ofList tag.name, attributes, line, []⟩ := by
  unfold Growth.openElement
  constructor
  · intro h
    split at h
    · nomatch h
    · rename_i attributes hread
      cases h
      exact ⟨attributes, Tag.attributes_eq_ok.mp hread, rfl⟩
  · rintro ⟨attributes, hdeclares, rfl⟩
    rw [Tag.attributes_eq_ok.mpr hdeclares]

/-! ## From events to a tree -/

/-- What is open and what is finished after these events, and the names of the open elements,
    innermost first. -/
inductive Grown (lineOf : Nat → Nat) :
    List (Nat × Event) → List (List Char) → List OpenElement → Option Element → Prop
  | start : Grown lineOf [] [] [] none
  /-- The root is finished. -/
  | rooted {root : Element} {events : List (Nat × Event)} (walk : Traversal lineOf root events) :
      Grown lineOf events [] [] (some root)
  /-- An element is open and has some of its children. -/
  | opened (offset : Nat) {tag : Tag} {attributes : List (String × String)}
      {children : List Element} {before inside : List (Nat × Event)} {names : List (List Char)}
      {outer : List OpenElement} {root : Option Element}
      (around : Grown lineOf before names outer root)
      (declares : tag.Declares attributes) (walk : Traversals lineOf children inside) :
      Grown lineOf (before ++ (offset, .start tag) :: inside) (tag.name :: names)
        (⟨String.ofList tag.name, attributes, lineOf offset, children.reverse⟩ :: outer) root

namespace Grown

variable {events last : List (Nat × Event)} {names : List (List Char)} {g g' : Growth}

/-- A finished element goes behind the children there are, or becomes the root. -/
theorem attach (h : Grown lineOf events names g.opened g.root) {e : Element}
    (he : Traversal lineOf e last) (hattach : g.attach e = .ok g') :
    Grown lineOf (events ++ last) names g'.opened g'.root := by
  obtain ⟨cursor, opened, root⟩ := g
  cases h with
  | start =>
    cases hattach
    exact .rooted he
  | rooted walk => nomatch hattach
  | @opened offset tag attributes children before inside names outer _ around declares walk =>
    cases hattach
    have hinside := walk.concat he
    have hopened := Grown.opened offset around declares hinside
    rw [List.reverse_append, List.reverse_singleton, List.singleton_append] at hopened
    rw [List.append_assoc, List.cons_append]
    exact hopened

/-- **One event** more is told by the events as well. -/
theorem addAt (h : Grown lineOf events names g.opened g.root) {x : Nat × Event}
    (htag : x.2.isTag = true) {names' : List (List Char)} (hnest : nest names x.2 = .ok names')
    (hadd : Growth.addAt (lineOf x.1) g x.2 = .ok g') :
    Grown lineOf (events ++ [x]) names' g'.opened g'.root := by
  obtain ⟨offset, event⟩ := x
  cases event with
  | start tag =>
    obtain ⟨o, ho, hadd⟩ := bind_eq_ok.mp hadd
    obtain ⟨attributes, hdeclares, rfl⟩ := openElement_eq_ok.mp ho
    cases hadd
    cases hnest
    exact .opened offset h hdeclares .nil
  | childless tag =>
    obtain ⟨o, ho, hadd⟩ := bind_eq_ok.mp hadd
    obtain ⟨attributes, hdeclares, rfl⟩ := openElement_eq_ok.mp ho
    cases hnest
    exact h.attach (.childless offset hdeclares) hadd
  | close name =>
    obtain ⟨cursor, opened, root⟩ := g
    cases h with
    | start => cases hadd
    | rooted walk => cases hadd
    | @opened start tag attributes children before inside names outer _ around declares walk =>
      -- The end tag names the innermost element, which it finishes.
      simp only [nest] at hnest
      split at hnest
      · rename_i hfits
        cases hnest
        have hclosed : Traversal lineOf
            (OpenElement.close ⟨String.ofList tag.name, attributes, lineOf start, children.reverse⟩)
            ((start, .start tag) :: (inside ++ [(offset, .close name)])) := by
          unfold OpenElement.close
          rw [List.reverse_reverse]
          exact .block start offset declares hfits walk
        rw [List.append_assoc, List.cons_append]
        exact attach (g := ⟨cursor, outer, root⟩) around hclosed hadd
      · cases hnest
  | other => cases htag

/-- **A run** of events is told by the events. -/
theorem run {more : List (Nat × Event)} (htags : ∀ x ∈ more, x.2.isTag = true)
    (h : Grown lineOf events names g.opened g.root) (hnests : Nests names more)
    (hrun : more.foldlM (fun g x => Growth.addAt (lineOf x.1) g x.2) g = .ok g') :
    ∃ names', Grown lineOf (events ++ more) names' g'.opened g'.root := by
  induction more generalizing events names g with
  | nil =>
    cases hrun
    rw [List.append_nil]
    exact ⟨names, h⟩
  | cons x more ih =>
    obtain ⟨names', hnest, hnests⟩ := nests_cons.mp hnests
    rw [List.foldlM_cons] at hrun
    obtain ⟨g₁, hadd, hrun⟩ := bind_eq_ok.mp hrun
    have hstep := h.addAt (htags x List.mem_cons_self) hnest hadd
    rw [← List.singleton_append, ← List.append_assoc]
    exact ih (fun y hy => htags y (List.mem_cons_of_mem _ hy)) hstep hnests hrun

/-- When all is closed, the events are the walk of the root. -/
theorem finish (h : Grown lineOf events names g.opened g.root) {r : Element}
    (hfinish : g.finish = .ok r) : Traversal lineOf r events := by
  obtain ⟨cursor, opened, root⟩ := g
  cases h with
  | start => nomatch hfinish
  | rooted walk =>
    cases hfinish
    exact walk
  | opened => nomatch hfinish

end Grown

/-! ## From a tree to events -/

mutual

/-- The walk of an element puts it into what is open, or makes it the root. -/
theorem foldlM_traversal : {e : Element} → {events : List (Nat × Event)} →
    Traversal lineOf e events → ∀ g : Growth,
    events.foldlM (fun g x => Growth.addAt (lineOf x.1) g x.2) g = g.attach e
  | _, _, .childless offset declares, g => by
    rw [List.foldlM_cons]
    show (Growth.openElement _ _ >>= fun o => g.attach o.close) >>= _ = _
    rw [openElement_eq_ok.mpr ⟨_, declares, rfl⟩, ok_bind]
    show (g.attach _ >>= pure) = _
    exact bind_pure _
  | _, _, @Traversal.block _ offset stop tag name attributes children inside declares fits walk,
      g => by
    -- the start tag opens the element, the children fill it, and the end tag attaches it
    have hchildren := foldlM_traversals walk g.cursor
      ⟨String.ofList tag.name, attributes, lineOf offset, []⟩ g.opened g.root
    have hclose : OpenElement.close
        ⟨String.ofList tag.name, attributes, lineOf offset, children.reverse ++ []⟩ =
          ⟨String.ofList tag.name, attributes, children, lineOf offset⟩ := by
      rw [OpenElement.close, List.append_nil, List.reverse_reverse]
    rw [List.foldlM_cons]
    show (Growth.openElement _ _ >>= fun o =>
      Except.ok { g with opened := o :: g.opened }) >>= _ = _
    rw [openElement_eq_ok.mpr ⟨_, declares, rfl⟩, ok_bind, ok_bind, List.foldlM_append, hchildren,
      ok_bind, List.foldlM_cons]
    show (g.attach (OpenElement.close _) >>= pure) = _
    rw [hclose]
    exact bind_pure _

/-- The walks of several elements put them into the innermost open element. -/
theorem foldlM_traversals : {es : List Element} → {events : List (Nat × Event)} →
    Traversals lineOf es events → ∀ (cursor : LineCursor) (top : OpenElement)
      (outer : List OpenElement) (root : Option Element),
    events.foldlM (fun g x => Growth.addAt (lineOf x.1) g x.2) ⟨cursor, top :: outer, root⟩ =
      .ok ⟨cursor, { top with reversed := es.reverse ++ top.reversed } :: outer, root⟩
  | _, _, .nil, cursor, top, outer, root => rfl
  | _, _, .cons head tail, cursor, top, outer, root => by
    rw [List.foldlM_append, foldlM_traversal head]
    show List.foldlM _ _ _ = _
    rw [foldlM_traversals tail]
    simp

end

/-! ## Reading -/

/-- Only tags matter to a loop whose steps pass over everything else. -/
theorem foldlM_tags {σ ε : Type} {f : σ → Nat × Event → Except ε σ}
    (hpass : ∀ x, x.2.isTag = false → ∀ s, f s x = .ok s) {events : List (Nat × Event)} {s s' : σ} :
    events.foldlM f s = .ok s' ↔ (events.filter fun x => x.2.isTag).foldlM f s = .ok s' := by
  have hfilter : events.foldlM f s = .ok s' ↔
      (∀ x ∈ events, x.2.isTag = false → True) ∧
        (events.filter fun x => x.2.isTag).foldlM f s = .ok s' := by
    refine foldlM_eq_ok_iff_filter fun x hx b c => ?_
    rw [hpass x hx b]
    constructor
    · intro h
      exact ⟨trivial, (Except.ok.inj h).symm⟩
    · rintro ⟨-, rfl⟩
      rfl
  rw [hfilter]
  exact and_iff_right fun _ _ _ => trivial

theorem addAt_of_not_isTag {x : Nat × Event} (h : x.2.isTag = false) (line : Nat) (g : Growth) :
    Growth.addAt line g x.2 = .ok g := by
  obtain ⟨offset, event⟩ := x
  cases event with
  | other => rfl
  | start tag => nomatch h
  | childless tag => nomatch h
  | close name => nomatch h

theorem nest_of_not_isTag {x : Nat × Event} (h : x.2.isTag = false) (names : List (List Char)) :
    nest names x.2 = .ok names := by
  obtain ⟨offset, event⟩ := x
  cases event with
  | other => rfl
  | start tag => nomatch h
  | childless tag => nomatch h
  | close name => nomatch h

/-- **Trees**: a reading whose end tags fit gives a tree exactly if it has no fault and its tags are
    the walk of that tree. -/
theorem Reading.build_eq_ok {reading : Reading} (hnests : Nests [] reading.events) {r : Element} :
    reading.build lineOf = .ok r ↔ reading.fault = none ∧ Traversal lineOf r reading.tags := by
  -- events that are no tags change nothing, so the tags alone make the tree
  have hbuild : reading.build lineOf = .ok r ↔ reading.fault = none ∧ ∃ g : Growth,
      reading.tags.foldlM (fun g x => Growth.addAt (lineOf x.1) g x.2) (Growth.start []) = .ok g ∧
        g.finish = .ok r := by
    have hrun : ∀ g, reading.events.foldlM (fun g x => Growth.addAt (lineOf x.1) g x.2)
          (Growth.start []) = .ok g ↔
        reading.tags.foldlM (fun g x => Growth.addAt (lineOf x.1) g x.2) (Growth.start []) =
          .ok g :=
      fun g => foldlM_tags fun x hx g => addAt_of_not_isTag hx (lineOf x.1) g
    unfold Reading.build
    simp only [bind_eq_ok, hrun]
    cases reading.fault with
    | some fault => simp
    | none => simp
  rw [hbuild]
  refine and_congr_right fun _ => ?_
  constructor
  · rintro ⟨g, hrun, hfinish⟩
    obtain ⟨names, hnests⟩ := hnests
    have htags : Nests [] reading.tags :=
      ⟨names, (foldlM_tags fun x hx names => nest_of_not_isTag hx names).mp hnests⟩
    have hstart : Grown lineOf [] [] (Growth.start []).opened (Growth.start []).root := .start
    obtain ⟨names', hgrown⟩ := hstart.run (fun x hx => (List.mem_filter.mp hx).2) htags hrun
    exact hgrown.finish hfinish
  · intro hwalk
    exact ⟨⟨LineCursor.start [], [], some r⟩, foldlM_traversal hwalk _, rfl⟩

/-- A text is read as an element exactly if its reading gives this tree. -/
theorem ofText_eq_ok {text : String} {r : Element} :
    Element.ofText text = .ok r ↔ (scan text.toList).fault = none ∧
      Traversal (lineAt text.toList) r (scan text.toList).tags := by
  rw [ofText_eq_build]
  exact Reading.build_eq_ok (scan_spec text.toList).2

end Markup

theorem readTree_eq_ok {text : String} {r : Element} :
    readTree text = .ok r ↔ Element.ofText text = .ok r := by
  unfold readTree
  cases Element.ofText text with
  | ok root => simp
  | error fault => simp

/-- **Reading a text**: it is read as an element exactly if nothing in it is at fault and its tags
    are the depth-first walk of that element, each tag with the attributes it declares; every other
    text is refused as markup. -/
theorem readTree_exact (text : String) :
    (∀ r, readTree text = .ok r ↔ (scan text.toList).fault = none ∧
      Traversal (lineAt text.toList) r (scan text.toList).tags) ∧
    ((∃ r, readTree text = .ok r) ∨ ∃ fault, readTree text = .error (.markup fault)) := by
  constructor
  · intro r
    rw [readTree_eq_ok, ofText_eq_ok]
  · unfold readTree
    cases Element.ofText text with
    | ok root => exact .inl ⟨root, rfl⟩
    | error fault => exact .inr ⟨fault, rfl⟩

end MediaNetwork

/-
  Printed documents read back.

  `Printed.Shows p e` says that the element `e` is what `p` is a print of; the line of an element
  is the only thing a print does not fix.  A document that is printed reads as an element that it
  shows (`ofText_document`), in two steps, each an induction over the printed element together
  with the list of its children:

  1. its lines are cut into its events (`scan_write`), whatever stands before and behind them;
  2. its events are the walk of an element that it shows (`traversal_events`), whatever their
     offsets; and the tree of a walk is its element.
-/
import MediaNetwork.Proofs.Markup.Steps
import MediaNetwork.Proofs.Markup.Trees

namespace MediaNetwork.Markup

open MediaNetwork.Text MediaNetwork.Outcome

namespace Printed

/-! ## Prints and elements -/

/-- The names of an element that is printed are words, and no key is there twice. -/
def HeadOk (name : String) (attributes : List (String × String)) : Prop :=
  isWord name = true ∧ (∀ a ∈ attributes, isWord a.1 = true) ∧ (attributes.map Prod.fst).Nodup

mutual

/-- All names of a print are words, and no key is there twice. -/
def WellNamed : Printed → Prop
  | leaf name attributes => HeadOk name attributes
  | block name attributes children => HeadOk name attributes ∧ AllWellNamed children

/-- All names of several prints are words, and no key is there twice. -/
def AllWellNamed : List Printed → Prop
  | [] => True
  | p :: ps => WellNamed p ∧ AllWellNamed ps

end

mutual

/-- The element is what this is a print of, its lines aside. -/
def Shows : Printed → Element → Prop
  | leaf name attributes, e => e.name = name ∧ e.attributes = attributes ∧ e.children = []
  | block name attributes children, e =>
    e.name = name ∧ e.attributes = attributes ∧ AllShow children e.children

/-- The elements are what these are prints of, one for one. -/
def AllShow : List Printed → List Element → Prop
  | [], es => es = []
  | p :: ps, es => ∃ e rest, es = e :: rest ∧ Shows p e ∧ AllShow ps rest

end

theorem allWellNamed_iff {ps : List Printed} : AllWellNamed ps ↔ ∀ p ∈ ps, p.WellNamed := by
  induction ps with
  | nil => simp [AllWellNamed]
  | cons p ps ih => simp [AllWellNamed, ih]

theorem allShow_iff {ps : List Printed} {es : List Element} :
    AllShow ps es ↔ List.Forall₂ Shows ps es := by
  induction ps generalizing es with
  | nil =>
    rw [AllShow]
    constructor
    · rintro rfl
      exact List.Forall₂.nil
    · intro h
      cases h
      rfl
  | cons p ps ih =>
    rw [AllShow]
    constructor
    · rintro ⟨e, rest, rfl, he, hrest⟩
      exact List.Forall₂.cons he (ih.mp hrest)
    · intro h
      cases h with
      | cons he hrest => exact ⟨_, _, rfl, he, ih.mpr hrest⟩

/-! ## Cutting -/

mutual

/-- The events of a print. -/
def events : Printed → List Event
  | leaf name attributes => [.childless (Tag.written name attributes)]
  | block name attributes children =>
    .start (Tag.written name attributes) :: (eventsAll children ++ [.close name.toList])

/-- The events of several prints, one after the other. -/
def eventsAll : List Printed → List Event
  | [] => []
  | p :: ps => events p ++ eventsAll ps

end

/-- One step of the scan, by its outcome. -/
theorem scanFrom_step {opened opened' : List (List Char)} {offset length : Nat}
    {done : List (Nat × Event)} {cs rest : List Char} {event : Event}
    (hstep : step cs = .event event length rest) (hnest : nest opened event = .ok opened') :
    scanFrom opened offset done cs =
      scanFrom opened' (offset + length) ((offset, event) :: done) rest := by
  rw [scanFrom]
  split
  · rename_i h
    rw [hstep] at h
    cases h
  · rename_i h
    rw [hstep] at h
    cases h
  · rename_i h
    rw [hstep] at h
    cases h
    rw [hnest]

theorem allBlank_indent {blanks : List Char} (hblanks : AllBlank blanks) (depth : Nat) :
    AllBlank (blanks ++ indent depth) := by
  intro x hx
  rcases List.mem_append.mp hx with hx | hx
  · exact hblanks x hx
  · rw [List.eq_of_mem_replicate hx]
    decide

/-- A line feed between two tags is blank. -/
theorem allBlank_lineFeed : AllBlank ['\n'] := by
  intro x hx
  rw [List.mem_singleton.mp hx]
  rfl

theorem closingName_word {name : String} (hname : isWord name = true) :
    closingName name.toList = name.toList := by
  obtain ⟨c, cs, heq, hc, -⟩ := exists_cons_of_isWord hname
  have hnot : ∀ x ∈ name.toList, isBlank x = false :=
    fun x hx => (plain_of_isAlphanum (isAlphanum_of_mem hname x hx)).1
  have hall : ¬ name.toList.all isBlank = true := by
    rw [heq]
    simp [(plain_of_isAlphanum hc).1]
  have hdrop : name.toList.reverse.dropWhile isBlank = name.toList.reverse := by
    cases hrev : name.toList.reverse with
    | nil => rfl
    | cons x xs =>
      have hx : x ∈ name.toList := List.mem_reverse.mp (hrev ▸ List.mem_cons_self)
      rw [List.dropWhile_cons_of_neg]
      simp [hnot x hx]
  rw [closingName, if_neg hall, dropEndWhile, hdrop, List.reverse_reverse]

/-- What the scan makes of a text: these events, and then it goes on with the rest. -/
def Cuts (opened : List (List Char)) (cs : List Char) (es : List Event) (rest : List Char) :
    Prop :=
  ∀ (offset : Nat) (done : List (Nat × Event)), ∃ (offset' : Nat) (numbered : List (Nat × Event)),
    numbered.map Prod.snd = es ∧ scanFrom opened offset done cs =
      scanFrom opened offset' (numbered.reverse ++ done) rest

theorem Cuts.trans {opened : List (List Char)} {cs middle rest : List Char}
    {es more : List Event} (h : Cuts opened cs es middle) (h' : Cuts opened middle more rest) :
    Cuts opened cs (es ++ more) rest := by
  intro offset done
  obtain ⟨offset₁, numbered, hnumbered, h⟩ := h offset done
  obtain ⟨offset₂, numbered', hnumbered', h'⟩ := h' offset₁ (numbered.reverse ++ done)
  refine ⟨offset₂, numbered ++ numbered', ?_, ?_⟩
  · rw [List.map_append, hnumbered, hnumbered']
  · rw [h, h', List.reverse_append, List.append_assoc]

/-- The lines of an element are cut into its events, if what is between its tags is. -/
theorem cuts_block {name : String} {attributes : List (String × String)}
    (hhead : HeadOk name attributes) {inner inner' : List Char} {es : List Event}
    {blanks blanks' : List Char} (hblanks : AllBlank blanks)
    (hblanks' : AllBlank blanks') (opened : List (List Char)) (rest : List Char)
    (hinner : Cuts (name.toList :: opened) inner es
      (blanks' ++ '<' :: '/' :: (name.toList ++ '>' :: rest)))
    (htext : inner' = blanks ++ '<' :: ((Tag.written name attributes).content ++ '>' :: inner)) :
    Cuts opened inner'
      (.start (Tag.written name attributes) :: (es ++ [.close name.toList])) rest := by
  intro offset done
  obtain ⟨length, hstart⟩ := step_start hhead.1 inner hblanks hhead.2.1
  obtain ⟨length', hclose⟩ := step_close hhead.1 rest hblanks'
  have hnest : nest opened (.start (Tag.written name attributes)) =
      .ok (name.toList :: opened) := by
    rw [nest, (Tag.span_name hhead.1 attributes).1]
  have hnest' : nest (name.toList :: opened) (.close name.toList) = .ok opened := by
    simp [nest, closingName_word hhead.1]
  obtain ⟨offset', numbered, hnumbered, hscan⟩ :=
    hinner (offset + length) ((offset, .start (Tag.written name attributes)) :: done)
  refine ⟨offset' + length', (offset, .start (Tag.written name attributes)) ::
    (numbered ++ [(offset', .close name.toList)]), ?_, ?_⟩
  · simp [hnumbered]
  · rw [htext, scanFrom_step hstart hnest, hscan, scanFrom_step hclose hnest']
    simp

mutual

/-- The lines of an element are cut into its events; the last line feed is left. -/
theorem scan_write : (p : Printed) → p.WellNamed → ∀ (depth : Nat) (opened : List (List Char))
    {blanks : List Char} (_ : AllBlank blanks) (rest : List Char),
    Cuts opened (blanks ++ (write depth p ++ rest)) p.events ('\n' :: rest)
  | leaf name attributes, hp, depth, opened, blanks, hblanks, rest => by
    intro offset done
    obtain ⟨length, hstep⟩ := step_childless hp.1 ('\n' :: rest)
      (allBlank_indent hblanks depth) hp.2.1
    have htext : blanks ++ (write depth (leaf name attributes) ++ rest) = blanks ++ indent depth ++
        '<' :: ((Tag.written name attributes).content ++ '/' :: '>' :: '\n' :: rest) := by
      simp [write, writeHead, Tag.written]
    refine ⟨offset + length, [(offset, .childless (Tag.written name attributes))], rfl, ?_⟩
    rw [htext, scanFrom_step hstep rfl]
    rfl
  | block name attributes children, hp, depth, opened, blanks, hblanks, rest => by
    obtain ⟨blanks', hblanks', hinner⟩ := scan_writeAll children hp.2 (depth + 1)
      (name.toList :: opened) allBlank_lineFeed
      (indent depth ++ '<' :: '/' :: (name.toList ++ '>' :: '\n' :: rest))
    have hbetween : Cuts (name.toList :: opened)
        ('\n' :: (writeAll (depth + 1) children ++
          (indent depth ++ '<' :: '/' :: (name.toList ++ '>' :: '\n' :: rest))))
        (eventsAll children)
        (blanks' ++ indent depth ++ '<' :: '/' :: (name.toList ++ '>' :: '\n' :: rest)) := by
      rw [List.append_assoc]
      exact hinner
    refine cuts_block hp.1 (allBlank_indent hblanks depth) (allBlank_indent hblanks' depth) opened
      ('\n' :: rest) hbetween ?_
    simp [write, writeHead, writeEnd, Tag.written]

/-- The lines of several elements are cut into their events, up to a few blanks. -/
theorem scan_writeAll : (ps : List Printed) → AllWellNamed ps → ∀ (depth : Nat)
    (opened : List (List Char)) {blanks : List Char} (_ : AllBlank blanks)
    (rest : List Char), ∃ blanks', AllBlank blanks' ∧
      Cuts opened (blanks ++ (writeAll depth ps ++ rest)) (eventsAll ps) (blanks' ++ rest)
  | [], _, _, opened, blanks, hblanks, rest =>
    ⟨blanks, hblanks, fun offset _ => ⟨offset, [], rfl, rfl⟩⟩
  | p :: ps, hps, depth, opened, blanks, hblanks, rest => by
    obtain ⟨blanks', hblanks', hrest⟩ := scan_writeAll ps hps.2 depth opened allBlank_lineFeed rest
    have hfirst := scan_write p hps.1 depth opened hblanks (writeAll depth ps ++ rest)
    refine ⟨blanks', hblanks', ?_⟩
    rw [writeAll, List.append_assoc]
    exact hfirst.trans hrest

end

/-! ## Building -/

theorem declares_written {name : String} {attributes : List (String × String)}
    (hhead : HeadOk name attributes) : (Tag.written name attributes).Declares attributes ∧
      String.ofList (Tag.written name attributes).name = name := by
  constructor
  · exact Tag.attributes_eq_ok.mp (Tag.attributes_written hhead.1 hhead.2.1 hhead.2.2)
  · rw [(Tag.span_name hhead.1 attributes).1, String.ofList_toList]

mutual

/-- The events of a print are the walk of an element that it shows, wherever they stand. -/
theorem traversal_events (lineOf : Nat → Nat) : (p : Printed) → p.WellNamed →
    ∀ {numbered : List (Nat × Event)} (_ : numbered.map Prod.snd = p.events),
      ∃ e, p.Shows e ∧ Traversal lineOf e numbered
  | leaf name attributes, hp, numbered, hevents => by
    obtain ⟨⟨offset, event⟩, rfl, hevent⟩ : ∃ x, numbered = [x] ∧
        x.2 = .childless (Tag.written name attributes) := by
      simpa [events, List.map_eq_cons_iff] using hevents
    obtain rfl : event = .childless (Tag.written name attributes) := hevent
    obtain ⟨hdeclares, hname⟩ := declares_written hp
    exact ⟨_, ⟨hname, rfl, rfl⟩, .childless offset hdeclares⟩
  | block name attributes children, hp, numbered, hevents => by
    rw [events, List.map_eq_cons_iff] at hevents
    obtain ⟨⟨offset, event⟩, others, rfl, hevent, hothers⟩ := hevents
    rw [List.map_eq_append_iff] at hothers
    obtain ⟨inner, last, rfl, hinner, hlast⟩ := hothers
    obtain ⟨⟨stop, event'⟩, rfl, hevent'⟩ : ∃ x, last = [x] ∧ x.2 = .close name.toList := by
      simpa [List.map_eq_cons_iff] using hlast
    obtain rfl : event = .start (Tag.written name attributes) := hevent
    obtain rfl : event' = .close name.toList := hevent'
    obtain ⟨hdeclares, hname⟩ := declares_written hp.1
    have hfits : closingName name.toList = (Tag.written name attributes).name := by
      rw [closingName_word hp.1.1, (Tag.span_name hp.1.1 attributes).1]
    obtain ⟨es, hes, hwalk⟩ := traversals_eventsAll lineOf children hp.2 hinner
    exact ⟨_, ⟨hname, rfl, hes⟩, .block offset stop hdeclares hfits hwalk⟩

/-- The events of several prints are the walks of elements that they show. -/
theorem traversals_eventsAll (lineOf : Nat → Nat) : (ps : List Printed) → AllWellNamed ps →
    ∀ {numbered : List (Nat × Event)} (_ : numbered.map Prod.snd = eventsAll ps),
      ∃ es, AllShow ps es ∧ Traversals lineOf es numbered
  | [], _, numbered, hevents => by
    obtain rfl : numbered = [] := List.map_eq_nil_iff.mp hevents
    exact ⟨[], rfl, .nil⟩
  | p :: ps, hps, numbered, hevents => by
    rw [eventsAll, List.map_eq_append_iff] at hevents
    obtain ⟨first, others, rfl, hfirst, hothers⟩ := hevents
    obtain ⟨e, he, hhead⟩ := traversal_events lineOf p hps.1 hfirst
    obtain ⟨es, hes, htail⟩ := traversals_eventsAll lineOf ps hps.2 hothers
    exact ⟨e :: es, ⟨e, es, rfl, he, hes⟩, .cons hhead htail⟩

end

/-! ## Documents -/

/-- **Printed documents**: a document that is printed is read as an element that it shows. -/
theorem ofText_document {p : Printed} (hp : p.WellNamed) :
    ∃ e, Element.ofText p.document = .ok e ∧ p.Shows e := by
  obtain ⟨length, hdeclaration⟩ := step_declaration (write 0 p)
  obtain ⟨offset, numbered, hnumbered, hscan⟩ :=
    scan_write p hp 0 [] allBlank_lineFeed [] (0 + length) [(0, .other)]
  -- Behind the root only the last line feed is left.
  have hend : ∀ done, scanFrom [] offset done ['\n'] = ⟨done.reverse, none⟩ := by
    intro done
    have hfinished : step ['\n'] = .finished := rfl
    rw [scanFrom]
    split
    · rfl
    · rename_i h
      rw [hfinished] at h
      cases h
    · rename_i h
      rw [hfinished] at h
      cases h
  have hreading : scan p.document.toList = ⟨(0, .other) :: numbered, none⟩ := by
    have hmark : withoutMark p.document.toList = declaration.toList ++ write 0 p := by
      rw [document, String.toList_ofList]
      rfl
    rw [scan, hmark, scanFrom_step hdeclaration rfl]
    rw [List.append_nil] at hscan
    rw [List.singleton_append] at hscan
    rw [hscan, hend]
    simp
  obtain ⟨e, he, hwalk⟩ := traversal_events (lineAt p.document.toList) p hp hnumbered
  refine ⟨e, ?_, he⟩
  rw [ofText_eq_build, hreading, Reading.build, List.foldlM_cons]
  show numbered.foldlM _ (Growth.start []) >>= _ = _
  rw [foldlM_traversal hwalk]
  rfl

end Printed

end MediaNetwork.Markup

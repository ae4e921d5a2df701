/-
  The line of a place.

  The cursor goes through a text once and remembers how far it got.  It need not: to seek two
  places, of which the second is not before the first, is to seek the second (`seek_seek`), and the
  events of a text come in order (`scan_spec`).  So every event is on the line of its offset
  (`lineAt`), and the tree of a text is what its events make with these lines (`ofText_eq_build`).

  Events make a tree with any lines.  With other lines it is the same tree but for its lines, or the
  same fault but for its line (`agree_build`): no decision is taken on a line.
-/
import MediaNetwork.Markup.Document
import MediaNetwork.Proofs.Arrangement.Elements

namespace MediaNetwork.Markup

open MediaNetwork.Text MediaNetwork.Outcome

namespace LineCursor

/-! ## Going on and skipping -/

/-- Blanks are single bytes. -/
theorem utf8Size_of_isLineBlank {c : Char} (h : isLineBlank c = true) : c.utf8Size = 1 := by
  simp only [isLineBlank, isBlank, Bool.or_eq_true, beq_iff_eq] at h
  rcases h with (((rfl | rfl) | rfl) | rfl) | rfl <;> rfl

section Equations

variable {p offset line : Nat} {c : Char} {cs : List Char}

/-- Before the place one goes on by a character. -/
theorem advance_of_lt (h : offset < p) : advance p (c :: cs) offset line =
    advance p cs (offset + c.utf8Size) (lineAfter line c) := if_pos h

/-- A place that is reached is stayed at. -/
theorem advance_of_le (h : p ≤ offset) (cs : List Char) :
    advance p cs offset line = ⟨cs, offset, line⟩ := by
  cases cs with
  | nil => rfl
  | cons c cs => exact if_neg (Nat.not_lt_of_le h)

/-- A blank is skipped. -/
theorem skipBlanks_of_blank (h : isLineBlank c = true) : skipBlanks (c :: cs) offset line =
    skipBlanks cs (offset + c.utf8Size) (lineAfter line c) := if_pos h

/-- Any other character ends the skipping. -/
theorem skipBlanks_of_other (h : isLineBlank c = false) :
    skipBlanks (c :: cs) offset line = ⟨c :: cs, offset, line⟩ :=
  if_neg (by rw [h]; exact Bool.false_ne_true)

end Equations

/-- Skipping blanks does not go back. -/
theorem le_offset_skipBlanks (cs : List Char) (offset line : Nat) :
    offset ≤ (skipBlanks cs offset line).offset := by
  induction cs generalizing offset line with
  | nil => exact Nat.le_refl _
  | cons c cs ih =>
    cases hblank : isLineBlank c with
    | true =>
      rw [skipBlanks_of_blank hblank]
      exact Nat.le_trans (Nat.le_add_right _ _) (ih _ _)
    | false => exact Nat.le_of_eq (congrArg LineCursor.offset (skipBlanks_of_other hblank).symm)

/-! ## Seeking twice -/

variable {p q : Nat}

/-- To go to a place and on to one that is not before it is to go there. -/
theorem advance_advance (h : p ≤ q) (cs : List Char) (offset line : Nat) :
    advance q (advance p cs offset line).ahead (advance p cs offset line).offset
        (advance p cs offset line).line = advance q cs offset line := by
  induction cs generalizing offset line with
  | nil => rfl
  | cons c cs ih =>
    by_cases hoffset : offset < p
    · rw [advance_of_lt hoffset, advance_of_lt (Nat.lt_of_lt_of_le hoffset h), ih]
    · rw [advance_of_le (Nat.le_of_not_lt hoffset)]

/-- Behind the blanks one gets as if they had not been skipped. -/
theorem advance_skipBlanks {cs : List Char} {offset line : Nat}
    (h : (skipBlanks cs offset line).offset ≤ q) :
    advance q (skipBlanks cs offset line).ahead (skipBlanks cs offset line).offset
      (skipBlanks cs offset line).line = advance q cs offset line := by
  induction cs generalizing offset line with
  | nil => rfl
  | cons c cs ih =>
    cases hblank : isLineBlank c with
    | true =>
      rw [skipBlanks_of_blank hblank] at h ⊢
      have hle := le_offset_skipBlanks cs (offset + c.utf8Size) (lineAfter line c)
      have hpos : 0 < c.utf8Size := c.utf8Size_pos
      rw [advance_of_lt (by omega), ih h]
    | false => rw [skipBlanks_of_other hblank]

/-- Amid the blanks one stands between two of them, and the others are skipped. -/
theorem skipBlanks_advance {cs : List Char} {offset line : Nat} (hle : offset ≤ q)
    (h : q ≤ (skipBlanks cs offset line).offset) :
    (advance q cs offset line).offset = q ∧
      skipBlanks (advance q cs offset line).ahead (advance q cs offset line).offset
        (advance q cs offset line).line = skipBlanks cs offset line := by
  induction cs generalizing offset line with
  | nil => exact ⟨Nat.le_antisymm hle h, rfl⟩
  | cons c cs ih =>
    rcases Nat.lt_or_eq_of_le hle with hlt | rfl
    · cases hblank : isLineBlank c with
      | true =>
        have hsize := utf8Size_of_isLineBlank hblank
        rw [skipBlanks_of_blank hblank] at h ⊢
        rw [advance_of_lt hlt]
        exact ih (by omega) h
      | false =>
        rw [skipBlanks_of_other hblank] at h
        exact absurd h (Nat.not_le_of_lt hlt)
    · rw [advance_of_le (Nat.le_refl offset)]
      exact ⟨rfl, rfl⟩

/-- **Seeking** two places in order is seeking the second. -/
theorem seek_seek (h : p ≤ q) (k : LineCursor) : (k.seek p).seek q = k.seek q := by
  have hgo := advance_advance h k.ahead k.offset k.line
  unfold seek
  simp only [← hgo]
  generalize advance p k.ahead k.offset k.line = a
  by_cases hp : a.offset = p
  · rw [if_pos hp]
    rcases Nat.lt_or_ge q (skipBlanks a.ahead a.offset a.line).offset with hq | hq
    · -- The second place is amid the blanks that were skipped for the first.
      obtain ⟨hoffset, hskip⟩ := skipBlanks_advance (hp ▸ h) (Nat.le_of_lt hq)
      rw [advance_of_le (Nat.le_of_lt hq), if_neg (Nat.ne_of_gt hq), if_pos hoffset, hskip]
    · rw [advance_skipBlanks hq]
  · rw [if_neg hp]

end LineCursor

/-- The line on which an event stands that begins at an offset. -/
def lineAt (text : List Char) (offset : Nat) : Nat := ((LineCursor.start text).seek offset).line

/-! ## Events in order -/

/-- Read inside some open elements, each end tag of the events fits its start tag. -/
def Nests (opened : List (List Char)) (events : List (Nat × Event)) : Prop :=
  ∃ opened', events.foldlM (fun opened x => nest opened x.2) opened = .ok opened'

/-- Events nest if the first does and the others do inside what it leaves open. -/
theorem nests_cons {opened : List (List Char)} {x : Nat × Event} {events : List (Nat × Event)} :
    Nests opened (x :: events) ↔
      ∃ opened', nest opened x.2 = .ok opened' ∧ Nests opened' events := by
  unfold Nests
  simp only [List.foldlM_cons, bind_eq_ok]
  constructor
  · rintro ⟨last, opened', hnest, hrest⟩
    exact ⟨opened', hnest, last, hrest⟩
  · rintro ⟨opened', hnest, last, hrest⟩
    exact ⟨last, opened', hnest, hrest⟩

/-- A scan goes on from where it is: the events it adds come in order, and their tags fit. -/
theorem events_scanFrom (opened : List (List Char)) (offset : Nat) (done : List (Nat × Event))
    (cs : List Char) : ∃ more, (scanFrom opened offset done cs).events = done.reverse ++ more ∧
      (∀ x ∈ more, offset ≤ x.1) ∧ (more.Pairwise fun x y => x.1 ≤ y.1) ∧ Nests opened more := by
  have hstop : ∀ (opened : List (List Char)) (offset : Nat) (done : List (Nat × Event)),
      ∃ more, done.reverse = done.reverse ++ more ∧ (∀ x ∈ more, offset ≤ x.1) ∧
        (more.Pairwise fun x y => x.1 ≤ y.1) ∧ Nests opened more := fun opened _ _ =>
    ⟨[], (List.append_nil _).symm, fun _ h => (nomatch h), List.Pairwise.nil, opened, rfl⟩
  fun_induction scanFrom opened offset done cs with
  | case1 => exact hstop _ _ _
  | case2 => exact hstop _ _ _
  | case3 => exact hstop _ _ _
  | case4 opened offset done cs event length rest _ opened' hnest ih =>
    obtain ⟨more, hevents, hle, hpairwise, hnests⟩ := ih
    have hlater : ∀ x ∈ more, offset ≤ x.1 := fun x hx =>
      Nat.le_trans (Nat.le_add_right offset length) (hle x hx)
    refine ⟨(offset, event) :: more, ?_, ?_, ?_, nests_cons.mpr ⟨opened', hnest, hnests⟩⟩
    · rw [hevents, List.reverse_cons, List.append_assoc, List.singleton_append]
    · rw [List.forall_mem_cons]
      exact ⟨Nat.le_refl offset, hlater⟩
    · rw [List.pairwise_cons]
      exact ⟨hlater, hpairwise⟩

/-- **Events** come in the order of their offsets, and their tags nest. -/
theorem scan_spec (text : List Char) : ((scan text).events.Pairwise fun x y => x.1 ≤ y.1) ∧
    Nests [] (scan text).events := by
  obtain ⟨more, hevents, -, hpairwise, hnests⟩ := events_scanFrom [] 0 [] (withoutMark text)
  have hscan : (scan text).events = more := hevents
  rw [hscan]
  exact ⟨hpairwise, hnests⟩

/-- A text that does not begin with the mark loses nothing. -/
theorem withoutMark_eq_self {text : List Char} (h : text.head? ≠ some byteOrderMark) :
    withoutMark text = text := by
  cases text with
  | nil => rfl
  | cons c cs =>
    rw [List.head?_cons, Ne, Option.some.injEq] at h
    exact if_neg h

/-! ## Lines from outside -/

namespace Growth

/-- Takes in an event that stands on a line. -/
def addAt (line : Nat) (g : Growth) : Event → Except MarkupFault Growth
  | .start tag => do
    let o ← openElement line tag
    .ok { g with opened := o :: g.opened }
  | .childless tag => do
    let o ← openElement line tag
    g.attach o.close
  | .close _ =>
    match g.opened with
    | [] => .error (.unbalanced line)
    | top :: outer => { g with opened := outer }.attach top.close
  | .other => .ok g

/-- The growth with its cursor elsewhere. -/
def withCursor (k : LineCursor) (g : Growth) : Growth := { g with cursor := k }

/-- Where an element is attached does not depend on the cursor. -/
theorem attach_withCursor (k : LineCursor) (g : Growth) (e : Element) :
    (g.withCursor k).attach e = (g.attach e).map (withCursor k) := by
  unfold attach withCursor
  cases g.opened with
  | cons top outer => rfl
  | nil => cases g.root <;> rfl

/-- Given its line, an event is taken in wherever the cursor is. -/
theorem addAt_withCursor (line : Nat) (k : LineCursor) (g : Growth) (event : Event) :
    addAt line (g.withCursor k) event = (addAt line g event).map (withCursor k) := by
  cases event with
  | start tag =>
    simp only [addAt]
    cases openElement line tag <;> rfl
  | childless tag =>
    simp only [addAt]
    cases openElement line tag with
    | error fault => rfl
    | ok o => exact attach_withCursor k g o.close
  | close name =>
    have hopened : (g.withCursor k).opened = g.opened := rfl
    simp only [addAt, hopened]
    cases g.opened with
    | nil => rfl
    | cons top outer => exact attach_withCursor k { g with opened := outer } top.close
  | other => rfl

/-- What is taken in stands where the cursor finds it. -/
theorem add_eq (g : Growth) (offset : Nat) (event : Event) : g.add (offset, event) =
    (addAt (g.cursor.seek offset).line g event).map (withCursor (g.cursor.seek offset)) := by
  rw [← addAt_withCursor]
  cases event <;> rfl

/-- Over events in order the cursor finds each of them where the whole text has it. -/
theorem foldlM_add {text : List Char} {events : List (Nat × Event)}
    (horder : events.Pairwise fun x y => x.1 ≤ y.1) {g : Growth}
    (hcursor : ∀ x ∈ events, g.cursor.seek x.1 = (LineCursor.start text).seek x.1)
    (k : LineCursor) : (events.foldlM add g).map (withCursor k) =
      events.foldlM (fun g x => addAt (lineAt text x.1) g x.2) (g.withCursor k) := by
  induction events generalizing g with
  | nil => rfl
  | cons x events ih =>
    obtain ⟨offset, event⟩ := x
    rw [List.pairwise_cons] at horder
    have hseek : g.cursor.seek offset = (LineCursor.start text).seek offset :=
      hcursor (offset, event) List.mem_cons_self
    rw [List.foldlM_cons, List.foldlM_cons, add_eq, hseek, addAt_withCursor]
    show _ = (addAt (lineAt text offset) g event).map (withCursor k) >>= _
    unfold lineAt
    cases addAt ((LineCursor.start text).seek offset).line g event with
    | error fault => rfl
    | ok g' =>
      refine ih horder.2 fun y hy => ?_
      exact LineCursor.seek_seek (horder.1 y hy) (LineCursor.start text)

end Growth

/-- The tree of a reading whose events stand on these lines. -/
def Reading.build (lineOf : Nat → Nat) (r : Reading) : Except MarkupFault Element := do
  let g ← r.events.foldlM (fun g x => Growth.addAt (lineOf x.1) g x.2) (Growth.start [])
  match r.fault with
  | some fault => .error (.reading fault)
  | none => g.finish

/-- **Lines**: every event of a text stands on the line of its offset. -/
theorem ofText_eq_build (text : String) :
    Element.ofText text = (scan text.toList).build (lineAt text.toList) := by
  have hfold : ((scan text.toList).events.foldlM Growth.add (Growth.start text.toList)).map
        (Growth.withCursor (LineCursor.start [])) =
      (scan text.toList).events.foldlM
        (fun g x => Growth.addAt (lineAt text.toList x.1) g x.2) (Growth.start []) :=
    Growth.foldlM_add (scan_spec text.toList).1 (fun _ _ => rfl) (LineCursor.start [])
  unfold Element.ofText Reading.toElement Reading.build
  rw [← hfold, bind_map]
  rfl

/-! ## The lines of tags -/

/-- Whether an event opens an element. -/
def Event.opens : Event → Bool
  | .start _ | .childless _ => true
  | .close _ | .other => false

namespace Growth

/-- Attaching an element opens and closes nothing. -/
theorem length_opened_attach {g g' : Growth} {e : Element} (h : g.attach e = .ok g') :
    g'.opened.length = g.opened.length := by
  unfold attach at h
  split at h
  · rename_i hopened
    cases h
    rw [hopened]
    rfl
  · split at h
    · nomatch h
    · cases h
      rfl

/-- As many elements are open as there are names of open elements. -/
theorem length_opened_addAt {line : Nat} {g g' : Growth} {event : Event}
    {opened opened' : List (List Char)} (h : addAt line g event = .ok g')
    (hnest : nest opened event = .ok opened') (hlength : g.opened.length = opened.length) :
    g'.opened.length = opened'.length := by
  cases event with
  | start tag =>
    obtain ⟨o, -, h⟩ := bind_eq_ok.mp h
    cases h
    cases hnest
    rw [List.length_cons, List.length_cons, hlength]
  | childless tag =>
    obtain ⟨o, -, h⟩ := bind_eq_ok.mp h
    cases hnest
    rw [length_opened_attach h, hlength]
  | close name =>
    simp only [nest, addAt] at hnest h
    cases opened with
    | nil => nomatch hnest
    | cons top outer =>
      simp only at hnest
      split at hnest
      · cases hnest
        cases hopened : g.opened with
        | nil =>
          rw [hopened] at hlength
          nomatch hlength
        | cons o others =>
          simp only [hopened] at h
          rw [length_opened_attach h]
          rw [hopened] at hlength
          exact Nat.succ.inj hlength
      · nomatch hnest
  | other =>
    cases h
    cases hnest
    exact hlength

/-- The line of an event that opens no element is not looked at. -/
theorem addAt_eq_of_opens {line line' : Nat} {g : Growth} {event : Event}
    {opened opened' : List (List Char)} (hline : event.opens = true → line = line')
    (hnest : nest opened event = .ok opened') (hlength : g.opened.length = opened.length) :
    addAt line g event = addAt line' g event := by
  cases event with
  | start tag => rw [hline rfl]
  | childless tag => rw [hline rfl]
  | close name =>
    -- An end tag that fits finds an open element, so it is not refused on its line.
    cases hopened : g.opened with
    | nil =>
      rw [hopened] at hlength
      rw [List.eq_nil_of_length_eq_zero hlength.symm] at hnest
      nomatch hnest
    | cons o others => simp only [addAt, hopened]
  | other => rfl

end Growth

/-- **The lines of tags** that open elements are all that a tree shows of lines. -/
theorem Reading.build_congr {r : Reading} (hnests : Nests [] r.events) {lineOf lineOf' : Nat → Nat}
    (h : ∀ x ∈ r.events, x.2.opens = true → lineOf x.1 = lineOf' x.1) :
    r.build lineOf = r.build lineOf' := by
  have hfold : ∀ (events : List (Nat × Event)) (opened : List (List Char)) (g : Growth),
      Nests opened events → g.opened.length = opened.length →
      (∀ x ∈ events, x.2.opens = true → lineOf x.1 = lineOf' x.1) →
      events.foldlM (fun g x => Growth.addAt (lineOf x.1) g x.2) g =
        events.foldlM (fun g x => Growth.addAt (lineOf' x.1) g x.2) g := by
    intro events
    induction events with
    | nil => exact fun _ _ _ _ _ => rfl
    | cons x events ih =>
      intro opened g hnests hlength hsame
      obtain ⟨opened', hnest, hnests⟩ := nests_cons.mp hnests
      rw [List.foldlM_cons, List.foldlM_cons,
        Growth.addAt_eq_of_opens (hsame x List.mem_cons_self) hnest hlength]
      cases hadd : Growth.addAt (lineOf' x.1) g x.2 with
      | error fault => rfl
      | ok g' =>
        refine ih opened' g' hnests (Growth.length_opened_addAt hadd hnest hlength) ?_
        exact fun y hy => hsame y (List.mem_cons_of_mem _ hy)
  unfold build
  rw [hfold r.events [] (Growth.start []) hnests rfl h]

/-! ## Other lines -/

/-- The open elements are the same but for lines. -/
structure OpenElement.Like (o o' : OpenElement) : Prop where
  name : o'.name = o.name
  attributes : o'.attributes = o.attributes
  reversed : List.Forall₂ Element.SameButLines o.reversed o'.reversed

theorem OpenElement.Like.close {o o' : OpenElement} (h : o.Like o') :
    o.close.SameButLines o'.close :=
  Element.sameButLines_of h.name h.attributes (List.forall₂_reverse_iff.mpr h.reversed)

namespace Growth

/-- The growths are the same but for lines. -/
structure Like (g g' : Growth) : Prop where
  opened : List.Forall₂ OpenElement.Like g.opened g'.opened
  root : Option.Rel Element.SameButLines g.root g'.root

/-- Elements that are the same but for lines are attached alike. -/
theorem agree_attach {g g' : Growth} (h : g.Like g') {e e' : Element} (he : e.SameButLines e') :
    Agree MarkupFault.SameButLine Like (g.attach e) (g'.attach e') := by
  obtain ⟨k, opened, root⟩ := g
  obtain ⟨k', opened', root'⟩ := g'
  obtain ⟨hopened, hroot⟩ := h
  unfold attach
  cases hopened with
  | cons htop houter =>
    refine .ok ⟨List.Forall₂.cons ?_ houter, hroot⟩
    exact ⟨htop.name, htop.attributes, List.Forall₂.cons he htop.reversed⟩
  | nil =>
    cases hroot with
    | none => exact .ok ⟨List.Forall₂.nil, .some he⟩
    | some _ =>
      refine .error ?_
      rw [he.similar.name_eq]
      rfl

/-- A tag opens the same element on any line. -/
theorem agree_openElement (line line' : Nat) (tag : Tag) :
    Agree MarkupFault.SameButLine OpenElement.Like (openElement line tag)
      (openElement line' tag) := by
  unfold openElement
  cases tag.attributes with
  | error fault => exact .error rfl
  | ok attributes => exact .ok ⟨rfl, rfl, List.Forall₂.nil⟩

/-- An event is taken in alike on other lines. -/
theorem agree_addAt {g g' : Growth} (h : g.Like g') (line line' : Nat) (event : Event) :
    Agree MarkupFault.SameButLine Like (addAt line g event) (addAt line' g' event) := by
  cases event with
  | start tag =>
    refine (agree_openElement line line' tag).bind fun o o' ho => ?_
    exact .ok ⟨List.Forall₂.cons ho h.opened, h.root⟩
  | childless tag =>
    exact (agree_openElement line line' tag).bind fun o o' ho => agree_attach h ho.close
  | close name =>
    obtain ⟨k, opened, root⟩ := g
    obtain ⟨k', opened', root'⟩ := g'
    obtain ⟨hopened, hroot⟩ := h
    cases hopened with
    | nil => exact .error rfl
    | @cons top top' outer outer' htop houter =>
      have houtside : Like ⟨k, outer, root⟩ ⟨k', outer', root'⟩ := ⟨houter, hroot⟩
      exact agree_attach houtside htop.close
  | other => exact .ok h

/-- Growths that are the same but for lines end in such trees. -/
theorem agree_finish {g g' : Growth} (h : g.Like g') :
    Agree MarkupFault.SameButLine Element.SameButLines g.finish g'.finish := by
  obtain ⟨k, opened, root⟩ := g
  obtain ⟨k', opened', root'⟩ := g'
  obtain ⟨hopened, hroot⟩ := h
  unfold finish
  cases hopened with
  | nil =>
    cases hroot with
    | none => exact .error rfl
    | some he => exact .ok he
  | cons htop _ =>
    refine .error ?_
    rw [htop.name]
    rfl

end Growth

/-- **Other lines** make the same tree but for its lines. -/
theorem Reading.agree_build (r : Reading) (lineOf lineOf' : Nat → Nat) :
    Agree MarkupFault.SameButLine Element.SameButLines (r.build lineOf) (r.build lineOf') := by
  have hstart : (Growth.start []).Like (Growth.start []) := ⟨List.Forall₂.nil, .none⟩
  have hfold : Agree MarkupFault.SameButLine Growth.Like
      (r.events.foldlM (fun g x => Growth.addAt (lineOf x.1) g x.2) (Growth.start []))
      (r.events.foldlM (fun g x => Growth.addAt (lineOf' x.1) g x.2) (Growth.start [])) := by
    refine Agree.foldlM (Q := Eq) ?_ (List.forall₂_refl r.events) hstart
    rintro g g' x - hg rfl
    exact Growth.agree_addAt hg _ _ x.2
  unfold build
  refine hfold.bind fun g g' hg => ?_
  cases r.fault with
  | some fault => exact .error rfl
  | none => exact Growth.agree_finish hg

end MediaNetwork.Markup

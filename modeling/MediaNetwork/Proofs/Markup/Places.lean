/-
  The lines of elements.

  An element is on the line of the `<` that opens its tag: one more than the line feeds before it.
  The line is found before the tag is read, from the offset at which its reading begins, so four
  things have to fit.

  1. Offsets count bytes.  A step takes a piece off the text and tells its bytes (`takes_step`).
  2. A step that finds an opening tag took blanks and that tag (`opens_step`).  So before the offset
     of its event stands a text of so many bytes, behind it blanks, and then the tag
     (`standsBehind_scan`).
  3. Sent to that offset, the cursor goes over just that text and over just these blanks, and it has
     met every line feed of both (`lineAt_of_standsBehind`).
  4. The opening tags are the elements of the tree in document order (`Traversal.begins`).

  `lines_exact` is the four together.
-/
import Mathlib
import MediaNetwork.Proofs.Markup.Trees

namespace MediaNetwork

open MediaNetwork.Markup MediaNetwork.Outcome MediaNetwork.Text

namespace Markup

/-! ## Bytes -/

/-- Counting bytes can start anywhere. -/
theorem foldl_utf8Size (n : Nat) (cs : List Char) :
    cs.foldl (fun n c => n + c.utf8Size) n = n + byteLength cs := by
  unfold byteLength
  induction cs generalizing n with
  | nil => rfl
  | cons c cs ih =>
    rw [List.foldl_cons, List.foldl_cons, ih (n + c.utf8Size), ih (0 + c.utf8Size)]
    omega

@[simp] theorem byteLength_nil : byteLength [] = 0 := rfl

@[simp] theorem byteLength_cons (c : Char) (cs : List Char) :
    byteLength (c :: cs) = c.utf8Size + byteLength cs := by
  rw [byteLength, List.foldl_cons, foldl_utf8Size, Nat.zero_add]

/-- The bytes of two texts add up. -/
@[simp] theorem byteLength_append (cs more : List Char) :
    byteLength (cs ++ more) = byteLength cs + byteLength more := by
  rw [byteLength, List.foldl_append, foldl_utf8Size]
  rfl

/-- A letter is as long as its capital. -/
theorem utf8Size_toUpper (c : Char) : c.toUpper.utf8Size = c.utf8Size := by
  have hone : ∀ d : Char, d.toNat ≤ 127 → d.utf8Size = 1 := fun d hd =>
    Char.utf8Size_eq_one_iff.mpr (UInt32.le_iff_toNat_le.mpr hd)
  unfold Char.toUpper
  split
  · rename_i h
    have hlow : 97 ≤ c.toNat := UInt32.le_iff_toNat_le.mp h.1
    have hhigh : c.toNat ≤ 122 := UInt32.le_iff_toNat_le.mp h.2
    have hshift : ('A'.val - 'a'.val).toNat = 2 ^ 32 - 32 := by decide
    have hcapital : (c.val + ('A'.val - 'a'.val)).toNat = c.toNat - 32 := by
      rw [UInt32.toNat_add, hshift]
      show (c.toNat + _) % _ = _
      omega
    rw [hone c (by omega), hone]
    show UInt32.toNat _ ≤ _
    rw [hcapital]
    omega
  · rfl

/-- Upper case changes letters of one byte only, to letters of one byte. -/
theorem byteLength_map_toUpper (cs : List Char) :
    byteLength (cs.map Char.toUpper) = byteLength cs := by
  induction cs with
  | nil => rfl
  | cons c cs ih => rw [List.map_cons, byteLength_cons, byteLength_cons, utf8Size_toUpper, ih]

/-! ## Pieces -/

/-- A step behind something else tells more bytes, and nothing else is different. -/
theorem after_eq_event {s : Step} {event : Event} {bytes length : Nat} {rest : List Char} :
    s.after bytes = .event event length rest ↔
      ∃ length', s = .event event length' rest ∧ bytes + length' = length := by
  cases s with
  | finished => simp [Step.after]
  | fault fault => simp [Step.after]
  | event event' length' rest' => simp [Step.after, and_assoc, and_comm, and_left_comm]

/-- Two pieces before a step are one longer piece. -/
theorem after_after (s : Step) (m n : Nat) : (s.after m).after n = s.after (n + m) := by
  cases s with
  | event event length rest => simp [Step.after, Nat.add_assoc]
  | finished => rfl
  | fault fault => rfl

/-- An event that comes of a text takes a piece off it and tells the bytes of the piece. -/
def Takes (cs : List Char) (s : Step) : Prop :=
  ∀ event length rest, s = .event event length rest →
    ∃ piece, cs = piece ++ rest ∧ byteLength piece = length

theorem Takes.fault (cs : List Char) (fault : SyntaxFault) : Takes cs (.fault fault) := by
  intro event length rest h
  nomatch h

/-- To take something is to tell the bytes of what was taken off. -/
theorem Takes.event {cs rest : List Char} {length : Nat}
    (h : ∃ piece, cs = piece ++ rest ∧ byteLength piece = length) (event : Event) :
    Takes cs (.event event length rest) := by
  intro event' length' rest' heq
  cases heq
  exact h

/-- A step that is taken behind some text takes that text as well. -/
theorem Takes.after {cs : List Char} {s : Step} (h : Takes cs s) (before : List Char) :
    Takes (before ++ cs) (s.after (byteLength before)) := by
  intro event length rest heq
  obtain ⟨length', hs, rfl⟩ := after_eq_event.mp heq
  obtain ⟨piece, rfl, rfl⟩ := h _ _ _ hs
  exact ⟨before ++ piece, (List.append_assoc ..).symm, byteLength_append before piece⟩

/-- The mark that is sought ends the piece. -/
theorem takes_seek {mark cs rest : List Char} {passed length : Nat}
    (h : seek mark passed cs = some (length, rest)) :
    ∃ piece, cs = piece ++ rest ∧ length = passed + byteLength piece := by
  induction cs generalizing passed with
  | nil => nomatch h
  | cons c cs ih =>
    rw [seek] at h
    split at h
    · rename_i hmark
      obtain ⟨behind, hbehind⟩ := List.isPrefixOf_iff_prefix.mp hmark
      cases h
      refine ⟨mark, ?_, rfl⟩
      rw [← hbehind, List.drop_left]
    · obtain ⟨piece, rfl, rfl⟩ := ih h
      exact ⟨c :: piece, rfl, by rw [byteLength_cons, Nat.add_assoc]⟩

/-- Brackets are counted while bytes add up; what was passed before stays in the sum. -/
theorem takes_seekDoctypeEnd {cs rest : List Char} {depth passed length : Nat}
    (h : seekDoctypeEnd depth passed cs = some (length, rest)) :
    ∃ piece, cs = piece ++ rest ∧ length = passed + byteLength piece := by
  have hone : '>'.utf8Size = 1 ∧ '<'.utf8Size = 1 := by decide
  induction cs generalizing depth passed with
  | nil => nomatch h
  | cons c cs ih =>
    have hnext : ∀ {depth passed' : Nat}, passed' = passed + c.utf8Size →
        seekDoctypeEnd depth passed' cs = some (length, rest) →
        ∃ piece, c :: cs = piece ++ rest ∧ length = passed + byteLength piece := by
      rintro depth passed' rfl h
      obtain ⟨piece, rfl, rfl⟩ := ih h
      exact ⟨c :: piece, rfl, by rw [byteLength_cons, Nat.add_assoc]⟩
    unfold seekDoctypeEnd at h
    split at h
    · rename_i hc
      split at h
      · cases h
        exact ⟨[c], rfl, by simp [hc, hone.1]⟩
      · exact hnext (by rw [hc, hone.1]) h
    · split at h
      · rename_i hc
        exact hnext (by rw [hc, hone.2]) h
      · exact hnext rfl h

/-- A word that is found in any case is as long as it is written. -/
theorem byteLength_take_of_startsWithAnyCase {word cs : List Char}
    (h : startsWithAnyCase word cs = true) :
    byteLength (cs.take word.length) = byteLength word := by
  have hprefix := List.isPrefixOf_iff_prefix.mp h
  have hword : word = (cs.take word.length).map Char.toUpper := by
    refine hprefix.eq_of_length_le ?_
    rw [List.length_map]
    exact List.length_take_le word.length cs
  rw [← byteLength_map_toUpper, ← hword]

/-- What stands before a closing bracket is taken with the bracket, if there is one. -/
theorem takes_upToBracket (cs : List Char) : ∃ piece, cs = piece ++ (upToBracket cs).2.2 ∧
    byteLength piece = (upToBracket cs).2.1 := by
  have hone : '>'.utf8Size = 1 := by decide
  unfold upToBracket
  split
  · rename_i hdrop
    have hall : cs = cs.takeWhile (· != '>') := by
      have hsplit := List.takeWhile_append_dropWhile (p := (· != '>')) (l := cs)
      rw [hdrop, List.append_nil] at hsplit
      exact hsplit.symm
    exact ⟨_, by rw [List.append_nil]; exact hall, rfl⟩
  · rename_i c rest hdrop
    obtain ⟨hcs, hc⟩ := span_of_dropWhile hdrop
    have hbracket : c = '>' := by simpa using hc
    refine ⟨cs.takeWhile (· != '>') ++ [c], ?_, ?_⟩
    · rw [List.append_assoc, List.singleton_append]
      exact hcs
    · simp [hbracket, hone]

/-- A piece that begins with a word and goes on to where the search behind it stops. -/
theorem takes_behind {cs rest : List Char} {n length : Nat} (hn : byteLength (cs.take n) = n)
    (h : ∃ piece, cs.drop n = piece ++ rest ∧ length = n + byteLength piece) (event : Event) :
    Takes cs (.event event length rest) := by
  obtain ⟨piece, hdrop, rfl⟩ := h
  refine .event ⟨cs.take n ++ piece, ?_, ?_⟩ event
  · rw [List.append_assoc, ← hdrop, List.take_append_drop]
  · rw [byteLength_append, hn]

/-- A comment, a data section or a document type tells its bytes. -/
theorem takes_bangStep (cs : List Char) : Takes cs (bangStep cs) := by
  unfold bangStep
  -- two marks are matched exactly, the two words in any case; the rest is sought up to a mark
  split
  · exact .fault _ _
  · rename_i tail
    split
    · rename_i hmark
      split
      · rename_i hseek
        obtain ⟨behind, hbehind⟩ := List.isPrefixOf_iff_prefix.mp hmark
        refine takes_behind ?_ (takes_seek hseek) _
        rw [← hbehind]
        rfl
      · exact .fault _ _
    · exact .fault _ _
  · split
    · rename_i hword
      split
      · rename_i hseek
        exact takes_behind (byteLength_take_of_startsWithAnyCase hword) (takes_seek hseek) _
      · exact .fault _ _
    · exact .fault _ _
  · split
    · split
      · rename_i hword
        split
        · rename_i hseek
          split
          · exact .fault _ _
          · exact takes_behind (byteLength_take_of_startsWithAnyCase hword)
              (takes_seekDoctypeEnd hseek) _
        · exact .fault _ _
      · exact .fault _ _
    · exact .fault _ _

/-! ## Tags -/

/-- The text of a tag that opens an element, brackets and closing slash included. -/
def Event.tagText : Event → List Char
  | .start tag => '<' :: (tag.content ++ ['>'])
  | .childless tag => '<' :: (tag.content ++ ['/', '>'])
  | .close _ | .other => []

/-- The content of a tag and the bracket behind it are taken. -/
theorem eq_of_tagContent {quote : Option Char} {done cs content rest : List Char}
    (h : tagContent quote done cs = some (content, rest)) :
    ∃ inside, content = done.reverse ++ inside ∧ cs = inside ++ '>' :: rest := by
  induction cs generalizing quote done with
  | nil => nomatch h
  | cons c cs ih =>
    have hnext : ∀ {quote : Option Char}, tagContent quote (c :: done) cs = some (content, rest) →
        ∃ inside, content = done.reverse ++ inside ∧ c :: cs = inside ++ '>' :: rest := by
      intro quote h
      obtain ⟨inside, rfl, rfl⟩ := ih h
      exact ⟨c :: inside, by simp, rfl⟩
    unfold tagContent at h
    split at h
    · exact hnext h
    · split at h
      · rename_i hc
        cases h
        exact ⟨[], (List.append_nil _).symm, by rw [hc]; rfl⟩
      · exact hnext h

/-- Behind a bracket a tag is read as what it is, to its own bracket. -/
theorem tagStep_eq_event {cs rest : List Char} {event : Event} {length : Nat}
    (h : tagStep cs = .event event length rest) :
    '<' :: cs = event.tagText ++ rest ∧ length + 1 = byteLength event.tagText := by
  have hone : '<'.utf8Size = 1 ∧ '>'.utf8Size = 1 ∧ '/'.utf8Size = 1 := by decide
  unfold tagStep at h
  split at h
  · nomatch h
  · rename_i content behind hcontent
    obtain ⟨inside, rfl, rfl⟩ := eq_of_tagContent hcontent
    simp only at h
    -- the slash of a childless tag belongs to its content, and is cut off from it
    split at h
    · rename_i hslash
      obtain ⟨body, hbody⟩ := List.getLast?_eq_some_iff.mp hslash
      subst hbody
      cases h
      rw [List.dropLast_concat]
      constructor
      · simp [Event.tagText]
      · simp [Event.tagText, hone]
        omega
    · cases h
      constructor
      · simp [Event.tagText]
      · simp [Event.tagText, hone]
        omega

/-- The bracket that opens a tag has been read when the step begins, so one byte is added. -/
theorem takes_tagStep (cs : List Char) : Takes ('<' :: cs) ((tagStep cs).after 1) := by
  intro event length rest h
  obtain ⟨length', hstep, rfl⟩ := after_eq_event.mp h
  obtain ⟨hcs, hlength⟩ := tagStep_eq_event hstep
  exact ⟨event.tagText, hcs, by omega⟩

theorem takes_closeStep (cs : List Char) : Takes cs (closeStep cs) :=
  .event (takes_upToBracket cs) _

theorem takes_instructionStep (cs : List Char) : Takes cs (instructionStep cs) := by
  simp only [instructionStep]
  split
  · exact .event (takes_upToBracket cs) _
  · exact .fault _ _

/-! ## Steps -/

/-- **Markup** of any sort tells its bytes, the bracket that opens it included. -/
theorem takes_markupStep (cs : List Char) : Takes ('<' :: cs) ((markupStep cs).after 1) := by
  unfold markupStep
  split
  · intro event length rest h
    nomatch h
  · exact ((takes_bangStep _).after ['!']).after ['<']
  · exact ((takes_closeStep _).after ['/']).after ['<']
  · exact ((takes_instructionStep _).after ['?']).after ['<']
  · exact takes_tagStep cs

/-- **A step** takes a piece off the text and tells its bytes. -/
theorem takes_step (cs : List Char) : Takes cs (step cs) := by
  simp only [step]
  split
  · intro event length rest h
    nomatch h
  · rename_i c tail hdrop
    obtain ⟨hcs, -⟩ := span_of_dropWhile hdrop
    split
    · rename_i hc
      have hmarkup := (takes_markupStep tail).after (cs.takeWhile isBlank)
      rw [after_after, ← hc, ← hcs] at hmarkup
      exact hmarkup
    · refine .event ⟨cs.takeWhile isBlank ++ (c :: tail).takeWhile (· != '<'), ?_, ?_⟩ _
      · rw [List.append_assoc, List.takeWhile_append_dropWhile]
        exact hcs
      · exact byteLength_append _ _

/-- The step finds no tag that opens an element. -/
def OpensNothing (s : Step) : Prop :=
  ∀ event length rest, s = .event event length rest → event.opens = false

theorem OpensNothing.after {s : Step} (h : OpensNothing s) (bytes : Nat) :
    OpensNothing (s.after bytes) := by
  intro event length rest heq
  obtain ⟨length', hs, -⟩ := after_eq_event.mp heq
  exact h _ _ _ hs

/-- What begins with an exclamation mark opens no element. -/
theorem opensNothing_bangStep (cs : List Char) : OpensNothing (bangStep cs) := by
  intro event length rest h
  unfold bangStep at h
  repeat' split at h
  all_goals first | (cases h; rfl) | cases h

theorem opensNothing_closeStep (cs : List Char) : OpensNothing (closeStep cs) := by
  intro event length rest h
  cases h
  rfl

theorem opensNothing_instructionStep (cs : List Char) : OpensNothing (instructionStep cs) := by
  intro event length rest h
  simp only [instructionStep] at h
  split at h
  · cases h
    rfl
  · cases h

/-- Markup that opens an element is just the tag, without a blank before it. -/
theorem opens_markupStep {cs rest : List Char} {event : Event} {length : Nat}
    (h : markupStep cs = .event event length rest) (hopens : event.opens = true) :
    '<' :: cs = event.tagText ++ rest := by
  have hnone : ∀ {s : Step}, OpensNothing s → ∀ {length : Nat}, s ≠ .event event length rest := by
    intro s hs length heq
    rw [hs _ _ _ heq] at hopens
    nomatch hopens
  unfold markupStep at h
  split at h
  · nomatch h
  · exact absurd h (hnone ((opensNothing_bangStep _).after 1))
  · exact absurd h (hnone ((opensNothing_closeStep _).after 1))
  · exact absurd h (hnone ((opensNothing_instructionStep _).after 1))
  · exact (tagStep_eq_event h).1

/-- **An opening tag** that a step finds stands behind blanks. -/
theorem opens_step {cs rest : List Char} {event : Event} {length : Nat}
    (h : step cs = .event event length rest) (hopens : event.opens = true) :
    ∃ blanks, AllBlank blanks ∧ cs = blanks ++ (event.tagText ++ rest) := by
  simp only [step] at h
  split at h
  · nomatch h
  · rename_i c tail hdrop
    obtain ⟨hcs, -⟩ := span_of_dropWhile hdrop
    split at h
    · rename_i hc
      obtain ⟨length', hmarkup, -⟩ := after_eq_event.mp h
      refine ⟨cs.takeWhile isBlank, allBlank_takeWhile cs, ?_⟩
      rw [← opens_markupStep hmarkup hopens, ← hc]
      exact hcs
    · cases h
      nomatch hopens

/-! ## Where the tags are -/

/-- In this text the tag of an event stands behind `before`: what was read before the event, and
    the blanks that follow it. -/
def StandsBehind (text : List Char) (x : Nat × Event) (before : List Char) : Prop :=
  ∃ done blanks rest, before = done ++ blanks ∧ byteLength done = x.1 ∧ AllBlank blanks ∧
    text = before ++ (x.2.tagText ++ rest)

/-- A scan goes on from where it is: every opening tag that it adds stands where its event began. -/
theorem standsBehind_scanFrom {text : List Char} (opened : List (List Char)) (offset : Nat)
    (done : List (Nat × Event)) (cs : List Char) {read : List Char} (htext : text = read ++ cs)
    (hread : byteLength read = offset) :
    ∀ x ∈ (scanFrom opened offset done cs).events, x ∉ done → x.2.opens = true →
      ∃ before, StandsBehind text x before := by
  have hdone : ∀ (done : List (Nat × Event)), ∀ x ∈ done.reverse, x ∉ done → x.2.opens = true →
      ∃ before, StandsBehind text x before :=
    fun done x hx hnot => absurd (List.mem_reverse.mp hx) hnot
  -- on the scan; `read` is the text in front of what is still to be scanned
  fun_induction scanFrom opened offset done cs generalizing read with
  | case1 => exact hdone _
  | case2 => exact hdone _
  | case3 => exact hdone _
  | case4 opened offset done cs event length rest hstep opened' hnest ih =>
    obtain ⟨piece, rfl, rfl⟩ := takes_step cs event length rest hstep
    intro x hx hnot hopens
    by_cases hfirst : x = (offset, event)
    · have htag : event.opens = true := by
        rw [hfirst] at hopens
        exact hopens
      obtain ⟨blanks, hblanks, hpiece⟩ := opens_step hstep htag
      refine ⟨read ++ blanks, read, blanks, rest, rfl, ?_, hblanks, ?_⟩
      · rw [hfirst]
        exact hread
      · rw [htext, hpiece, hfirst, List.append_assoc]
    · have htext' : text = (read ++ piece) ++ rest := by rw [htext, List.append_assoc]
      have hnot' : x ∉ (offset, event) :: done := by
        rw [List.mem_cons, not_or]
        exact ⟨hfirst, hnot⟩
      refine ih htext' ?_ x hx hnot' hopens
      rw [byteLength_append, hread]

/-- **Before a tag** stands what its offset counts, and then blanks. -/
theorem standsBehind_scan {text : List Char} (h : text.head? ≠ some byteOrderMark) :
    ∀ x ∈ (scan text).events, x.2.opens = true → ∃ before, StandsBehind text x before := by
  intro x hx
  unfold scan at hx
  rw [withoutMark_eq_self h] at hx
  exact standsBehind_scanFrom [] 0 [] text (List.nil_append text).symm rfl x hx List.not_mem_nil

/-! ## The line there -/

namespace LineCursor

/-- A character leads to the next line if it is a line feed. -/
theorem lineAfter_eq (line : Nat) (c : Char) : lineAfter line c = line + [c].count '\n' := by
  unfold lineAfter
  by_cases h : c = '\n'
  · rw [if_pos h, h]
    rfl
  · rw [if_neg h]
    simp [h]

/-- The cursor goes over a text that it is sent to the end of, and counts its line feeds. -/
theorem advance_over (read rest : List Char) (offset line : Nat) :
    advance (offset + byteLength read) (read ++ rest) offset line =
      ⟨rest, offset + byteLength read, line + read.count '\n'⟩ := by
  induction read generalizing offset line with
  | nil => exact advance_of_le (Nat.le_refl _) rest
  | cons c read ih =>
    have hpos := c.utf8Size_pos
    have hnext : offset + byteLength (c :: read) = offset + c.utf8Size + byteLength read := by
      rw [byteLength_cons, Nat.add_assoc]
    have hcount : line + (c :: read).count '\n' = lineAfter line c + read.count '\n' := by
      rw [lineAfter_eq, ← List.singleton_append, List.count_append, Nat.add_assoc]
    rw [List.cons_append, advance_of_lt (by omega), hnext, hcount, ih]

/-- Over blanks before a bracket it counts their line feeds. -/
theorem skipBlanks_over {blanks : List Char} (h : AllBlank blanks) (rest : List Char)
    (offset line : Nat) : skipBlanks (blanks ++ '<' :: rest) offset line =
      ⟨'<' :: rest, offset + byteLength blanks, line + blanks.count '\n'⟩ := by
  induction blanks generalizing offset line with
  | nil => exact skipBlanks_of_other rfl
  | cons c blanks ih =>
    have hblank := isLineBlank_of_isBlank (h c List.mem_cons_self)
    have hcount : line + (c :: blanks).count '\n' = lineAfter line c + blanks.count '\n' := by
      rw [lineAfter_eq, ← List.singleton_append, List.count_append, Nat.add_assoc]
    have hrest : AllBlank blanks := fun x hx => h x (List.mem_cons_of_mem _ hx)
    rw [List.cons_append, skipBlanks_of_blank hblank, ih hrest, byteLength_cons, hcount,
      Nat.add_assoc]

end LineCursor

/-- **The line of a tag** is told by the line feeds before its bracket. -/
theorem lineAt_of_standsBehind {text before : List Char} {x : Nat × Event}
    (h : StandsBehind text x before) (hopens : x.2.opens = true) :
    lineAt text x.1 = 1 + before.count '\n' := by
  obtain ⟨offset, event⟩ := x
  obtain ⟨done, blanks, rest, rfl, hdone, hblanks, htext⟩ := h
  obtain rfl : byteLength done = offset := hdone
  obtain ⟨inside, hinside⟩ : ∃ inside, event.tagText = '<' :: inside := by
    cases event with
    | start tag => exact ⟨_, rfl⟩
    | childless tag => exact ⟨_, rfl⟩
    | close name => nomatch hopens
    | other => nomatch hopens
  have hsplit : text = done ++ (blanks ++ '<' :: (inside ++ rest)) := by
    rw [htext, hinside, List.append_assoc]
    rfl
  have hgo := LineCursor.advance_over done (blanks ++ '<' :: (inside ++ rest)) 0 1
  rw [Nat.zero_add] at hgo
  unfold lineAt LineCursor.start LineCursor.seek
  simp only
  rw [hsplit, hgo, if_pos rfl, LineCursor.skipBlanks_over hblanks, List.count_append,
    Nat.add_assoc]

/-! ## The elements in document order -/

/-- The event is the tag that opens the element. -/
def Event.Begins (event : Event) (e : Element) : Prop :=
  ∃ tag, (event = .start tag ∨ event = .childless tag) ∧ e.name = String.ofList tag.name ∧
    tag.Declares e.attributes

variable {lineOf : Nat → Nat}

mutual

/-- The opening tags of a walk begin the element and its descendants, in document order. -/
theorem Traversal.begins : {e : Element} → {events : List (Nat × Event)} →
    Traversal lineOf e events →
    List.Forall₂ (fun x e => x.2.Begins e ∧ e.line = lineOf x.1)
      (events.filter fun x => x.2.opens) (e :: e.descendants)
  | _, _, .childless offset declares =>
    .cons ⟨⟨_, .inr rfl, rfl, declares⟩, rfl⟩ .nil
  | _, _, @Traversal.block _ offset stop tag name attributes children inside declares fits
      walk => by
    have hopens : (((offset, Event.start tag) :: (inside ++ [(stop, .close name)])).filter
        fun x => x.2.opens) = (offset, .start tag) :: inside.filter fun x => x.2.opens := by
      simp [Event.opens]
    rw [hopens]
    exact .cons ⟨⟨tag, .inl rfl, rfl, declares⟩, rfl⟩ walk.begins

/-- The opening tags of several walks begin the elements and their descendants. -/
theorem Traversals.begins : {es : List Element} → {events : List (Nat × Event)} →
    Traversals lineOf es events →
    List.Forall₂ (fun x e => x.2.Begins e ∧ e.line = lineOf x.1)
      (events.filter fun x => x.2.opens) (Element.listDescendants es)
  | _, _, .nil => .nil
  | _, _, @Traversals.cons _ e es first others head tail => by
    rw [List.filter_append, Element.listDescendants, ← List.cons_append]
    exact List.rel_append head.begins tail.begins

end

end Markup

/-- No element of a text that is read has an attribute twice. -/
theorem nodup_keys_of_readTree {text : String} {r : Element} (h : readTree text = .ok r) :
    ∀ e ∈ r :: r.descendants, (e.attributes.map Prod.fst).Nodup := by
  intro e he
  obtain ⟨-, hwalk⟩ := ofText_eq_ok.mp (readTree_eq_ok.mp h)
  obtain ⟨x, -, ⟨tag, -, -, hdeclares⟩, -⟩ := exists_of_forall₂ hwalk.begins he
  exact hdeclares.nodup_keys

/-- **Lines are exact**: in a text without a byte order mark every element is begun by one of the
    opening tags, in document order, and its line is one more than the line feeds before the bracket
    of that tag. -/
theorem lines_exact {text : String} (hmark : text.toList.head? ≠ some byteOrderMark) {r : Element}
    (h : readTree text = .ok r) :
    List.Forall₂ (fun x e => x.2.Begins e ∧ ∃ before, StandsBehind text.toList x before ∧
        e.line = 1 + before.count '\n')
      ((scan text.toList).events.filter fun x => x.2.opens) (r :: r.descendants) := by
  obtain ⟨-, hwalk⟩ := ofText_eq_ok.mp (readTree_eq_ok.mp h)
  -- only tags open an element, so nothing is lost between the two lists
  have hopening : (scan text.toList).tags.filter (fun x => x.2.opens) =
      (scan text.toList).events.filter fun x => x.2.opens := by
    unfold Reading.tags
    rw [List.filter_filter]
    refine List.filter_congr fun x _ => ?_
    obtain ⟨offset, event⟩ := x
    cases event <;> rfl
  have hbegins := hwalk.begins
  rw [hopening] at hbegins
  have hplaces : ∀ x ∈ (scan text.toList).events.filter (fun x => x.2.opens),
      ∃ before, StandsBehind text.toList x before ∧
        lineAt text.toList x.1 = 1 + before.count '\n' := by
    intro x hx
    obtain ⟨hevent, hopens⟩ := List.mem_filter.mp hx
    obtain ⟨before, hbefore⟩ := standsBehind_scan hmark x hevent hopens
    exact ⟨before, hbefore, lineAt_of_standsBehind hbefore hopens⟩
  refine ((List.forall₂_and_left _ _).mpr ⟨hplaces, hbegins⟩).imp ?_
  rintro x e ⟨⟨before, hbefore, hline⟩, hbegins, he⟩
  exact ⟨hbegins, before, hbefore, he.trans hline⟩

/-- A document with line feeds in every kind of piece, two of them next to form feeds. -/
def scatteredDocument : String :=
  String.ofList (["<?xml version='1.0'?>\n<!DOCTYPE A\n[<!ELEMENT A>]>\x0c\n<!-- <A>\n -->",
    "<A B='1\n2'\n>text\n\x0c\n<![CDATA[<\n]]><B\n  C='3\n'/>\n\x0c<C>\n</C\n></A>\n"].flatMap
      String.toList)

/-- The lines of its elements. -/
theorem lines_scatteredDocument :
    scatteredDocument.toList.head? ≠ some byteOrderMark ∧
    readTree scatteredDocument = .ok ⟨"A", [("B", "1\n2")],
      [⟨"B", [("C", "3\n")], [], 10⟩, ⟨"C", [], [], 13⟩], 5⟩ ∧
    List.Forall₂ (fun x e => x.2.Begins e ∧ ∃ before,
        StandsBehind scatteredDocument.toList x before ∧ e.line = 1 + before.count '\n')
      ((scan scatteredDocument.toList).events.filter fun x => x.2.opens)
      [⟨"A", [("B", "1\n2")], [⟨"B", [("C", "3\n")], [], 10⟩, ⟨"C", [], [], 13⟩], 5⟩,
        ⟨"B", [("C", "3\n")], [], 10⟩, ⟨"C", [], [], 13⟩] := by
  have hmark : scatteredDocument.toList.head? ≠ some byteOrderMark := by
    unfold scatteredDocument
    rw [String.toList_ofList]
    decide
  have hread : readTree scatteredDocument = .ok ⟨"A", [("B", "1\n2")],
      [⟨"B", [("C", "3\n")], [], 10⟩, ⟨"C", [], [], 13⟩], 5⟩ := by
    unfold readTree Element.ofText scatteredDocument
    simp only [String.toList_ofList]
    cbv
  exact ⟨hmark, hread, lines_exact hmark hread⟩

end MediaNetwork

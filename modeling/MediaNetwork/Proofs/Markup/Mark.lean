/-
  A byte order mark before the text.

  The mark is dropped before a text is read, and offsets are counted behind it; the cursor counts
  the whole text.  So in a marked text every line is looked up three bytes too early
  (`lineAt_behindMark`), and everything else is as without the mark.

  What comes of it (`agree_ofText_marked`): the same tree but for its lines, or the same fault but
  for its line.  The lines are right as well if no line feed is missed, that is, if three bytes
  before a tag the line is that of the tag (`LinesHold`, `ofText_marked_of_linesHold`).  A tag that begins a line right behind another
  one is on the line before in a marked text (`marked_moves_line`).
-/
import Mathlib
import MediaNetwork.Proofs.Arrangement.Building
import MediaNetwork.Proofs.Markup.Lines

namespace MediaNetwork

open MediaNetwork.Markup MediaNetwork.Outcome MediaNetwork.Text

namespace Markup

/-! ## Three bytes too early -/

namespace LineCursor

/-- The cursor in a text that begins some bytes later. -/
def later (n : Nat) (k : LineCursor) : LineCursor := { k with offset := k.offset + n }

theorem advance_later (n p : Nat) (cs : List Char) (offset line : Nat) :
    advance (p + n) cs (offset + n) line = (advance p cs offset line).later n := by
  induction cs generalizing offset line with
  | nil => rfl
  | cons c cs ih =>
    by_cases h : offset < p
    · have hnext : offset + n + c.utf8Size = offset + c.utf8Size + n := by omega
      rw [advance_of_lt h, advance_of_lt (by omega), hnext, ih]
    · rw [advance_of_le (Nat.le_of_not_lt h), advance_of_le (by omega)]
      rfl

theorem skipBlanks_later (n : Nat) (cs : List Char) (offset line : Nat) :
    skipBlanks cs (offset + n) line = (skipBlanks cs offset line).later n := by
  induction cs generalizing offset line with
  | nil => rfl
  | cons c cs ih =>
    cases hblank : isLineBlank c with
    | true =>
      have hnext : offset + n + c.utf8Size = offset + c.utf8Size + n := by omega
      rw [skipBlanks_of_blank hblank, skipBlanks_of_blank hblank, hnext, ih]
    | false =>
      rw [skipBlanks_of_other hblank, skipBlanks_of_other hblank]
      rfl

/-- A place is sought later by as much. -/
theorem seek_later (n p : Nat) (k : LineCursor) :
    (k.later n).seek (p + n) = (k.seek p).later n := by
  have hgo : advance (p + n) (k.later n).ahead (k.later n).offset (k.later n).line =
      (advance p k.ahead k.offset k.line).later n := advance_later n p k.ahead k.offset k.line
  unfold seek
  simp only [hgo]
  generalize advance p k.ahead k.offset k.line = a
  by_cases hp : a.offset = p
  · have hp' : (a.later n).offset = p + n := congrArg (· + n) hp
    rw [if_pos hp, if_pos hp']
    exact skipBlanks_later n a.ahead a.offset a.line
  · have hp' : (a.later n).offset ≠ p + n := fun h => hp (Nat.add_right_cancel h)
    rw [if_neg hp, if_neg hp']

/-- A place that is passed is not gone back to. -/
theorem seek_of_lt {p : Nat} {k : LineCursor} (h : p < k.offset) : k.seek p = k := by
  unfold seek
  rw [advance_of_le (Nat.le_of_lt h)]
  exact if_neg (Nat.ne_of_gt h)

/-- Behind the mark the cursor is at the beginning, three bytes later. -/
theorem seek_behindMark (text : List Char) {p : Nat} (h : 0 < p) :
    (start (byteOrderMark :: text)).seek p = ((start text).later 3).seek p := by
  have hgo : advance p (start (byteOrderMark :: text)).ahead 0 1 =
      advance p ((start text).later 3).ahead 3 1 := advance_of_lt h
  unfold seek
  exact congrArg (fun k => if k.offset = p then skipBlanks k.ahead k.offset k.line else k) hgo

end LineCursor

/-- The line three bytes before a place, or the first line if there are not so many. -/
def lineEarly (text : List Char) (offset : Nat) : Nat :=
  if offset < 3 then 1 else lineAt text (offset - 3)

/-- **Lines** of a marked text are those three bytes earlier. -/
theorem lineAt_behindMark (text : List Char) (offset : Nat) :
    lineAt (byteOrderMark :: text) offset = lineEarly text offset := by
  unfold lineEarly lineAt
  rcases Nat.eq_zero_or_pos offset with rfl | hpos
  · rfl
  · rw [LineCursor.seek_behindMark text hpos]
    by_cases h : offset < 3
    · rw [if_pos h, LineCursor.seek_of_lt h]
      rfl
    · obtain ⟨p, rfl⟩ : ∃ p, offset = p + 3 := ⟨offset - 3, by omega⟩
      rw [if_neg h, LineCursor.seek_later, Nat.add_sub_cancel]
      rfl

/-! ## Documents behind a mark -/

/-- The text with a byte order mark before it. -/
def marked (text : String) : String := String.ofList (byteOrderMark :: text.toList)

/-- No line feed is missed: three bytes before a tag that opens an element the line is its own. -/
def LinesHold (text : String) : Prop :=
  ∀ x ∈ (scan text.toList).events, x.2.opens = true →
    lineEarly text.toList x.1 = lineAt text.toList x.1

section Marked

variable {text : String} (h : text.toList.head? ≠ some byteOrderMark)

include h

/-- The same events are read behind a mark. -/
theorem scan_marked : scan (marked text).toList = scan text.toList := by
  have hmark : withoutMark (byteOrderMark :: text.toList) = text.toList := by
    rw [withoutMark, if_pos rfl]
  unfold scan marked
  rw [String.toList_ofList, hmark, withoutMark_eq_self h]

/-- They make the tree with early lines. -/
theorem ofText_marked_eq_build :
    Element.ofText (marked text) = (scan text.toList).build (lineEarly text.toList) := by
  have hlines : lineAt (marked text).toList = lineEarly text.toList := by
    funext offset
    unfold marked
    rw [String.toList_ofList, lineAt_behindMark]
  rw [ofText_eq_build, scan_marked h, hlines]

theorem agree_ofText_marked : Agree MarkupFault.SameButLine Element.SameButLines
    (Element.ofText text) (Element.ofText (marked text)) := by
  rw [ofText_eq_build text, ofText_marked_eq_build h]
  exact (scan text.toList).agree_build _ _

theorem ofText_marked_of_linesHold (hlines : LinesHold text) :
    Element.ofText (marked text) = Element.ofText text := by
  rw [ofText_eq_build text, ofText_marked_eq_build h]
  exact Reading.build_congr (scan_spec text.toList).2 hlines

end Marked

end Markup

open Markup

/-- Readings that agree are compiled alike. -/
theorem agree_readTree {text text' : String} (h : Agree MarkupFault.SameButLine Element.SameButLines
    (Element.ofText text) (Element.ofText text')) :
    Agree CompileError.SameButLine Element.SameButLines (readTree text) (readTree text') := by
  unfold readTree
  generalize Element.ofText text = x at h
  generalize Element.ofText text' = y at h
  cases h with
  | ok value => exact .ok value
  | error fault => exact .error (congrArg CompileError.markup fault)

/-- **A byte order mark** before a text changes nothing but lines, and none of these if no line feed
    is missed. -/
theorem compile_marked {text : String} (h : text.toList.head? ≠ some byteOrderMark) :
    Agree MarkupFault.SameButLine Element.SameButLines (Element.ofText text)
      (Element.ofText (marked text)) ∧
    Concur (compile text) (compile (marked text)) ∧
    Concur (compileScript text) (compileScript (marked text)) ∧
    (LinesHold text → Element.ofText (marked text) = Element.ofText text ∧
      compile (marked text) = compile text ∧ compileScript (marked text) = compileScript text) := by
  have htree := agree_readTree (agree_ofText_marked h)
  refine ⟨agree_ofText_marked h, ?_, ?_, fun hlines => ?_⟩
  · exact htree.bind fun r r' hr => concur_compileElement hr
  · exact htree.bind fun r r' hr => concur_scriptElement hr
  · have hread := ofText_marked_of_linesHold h hlines
    unfold compile compileScript readTree
    rw [hread]
    exact ⟨rfl, rfl, rfl⟩

/-- A document whose second tag is on a line of its own only by what is inside the first. -/
def longTagDocument : String :=
  String.ofList (["<Unicens\n AsyncBandwidth='5'>", "<Node Address='x'/></Unicens>"].flatMap
    String.toList)

/-- With a mark it is refused on the same line. -/
theorem compile_marked_longTagDocument :
    longTagDocument.toList.head? ≠ some byteOrderMark ∧ LinesHold longTagDocument ∧
    compile (marked longTagDocument) = compile longTagDocument ∧
    Concur (compileScript longTagDocument) (compileScript (marked longTagDocument)) := by
  have hhead : longTagDocument.toList.head? ≠ some byteOrderMark := by
    unfold longTagDocument
    rw [String.toList_ofList]
    decide
  have hall : ((scan longTagDocument.toList).events.all fun x => !x.2.opens ||
      lineEarly longTagDocument.toList x.1 == lineAt longTagDocument.toList x.1) = true := by
    unfold longTagDocument
    simp only [String.toList_ofList]
    cbv
  have hlines : LinesHold longTagDocument := by
    intro x hx hopens
    simpa [hopens] using List.all_eq_true.mp hall x hx
  obtain ⟨-, -, hscript, hsame⟩ := compile_marked hhead
  exact ⟨hhead, hlines, (hsame hlines).2.1, hscript⟩

/-- A document whose second tag begins a line. -/
def twoLineDocument : String := String.ofList "<A>\n<B/></A>".toList

/-- With a mark its second tag is on the first line. -/
theorem marked_moves_line :
    twoLineDocument.toList.head? ≠ some byteOrderMark ∧
    Element.ofText twoLineDocument = .ok ⟨"A", [], [⟨"B", [], [], 2⟩], 1⟩ ∧
    Element.ofText (marked twoLineDocument) = .ok ⟨"A", [], [⟨"B", [], [], 1⟩], 1⟩ ∧
    Element.ofText (marked twoLineDocument) ≠ Element.ofText twoLineDocument := by
  have hplain : Element.ofText twoLineDocument = .ok ⟨"A", [], [⟨"B", [], [], 2⟩], 1⟩ := by
    unfold Element.ofText twoLineDocument
    simp only [String.toList_ofList]
    cbv
  have hmarked : Element.ofText (marked twoLineDocument) =
      .ok ⟨"A", [], [⟨"B", [], [], 1⟩], 1⟩ := by
    unfold Element.ofText marked twoLineDocument
    simp only [String.toList_ofList]
    cbv
  refine ⟨?_, hplain, hmarked, ?_⟩
  · unfold twoLineDocument
    rw [String.toList_ofList]
    decide
  · rw [hplain, hmarked]
    intro h
    injection h with h
    injection h with _ _ hchildren
    injection hchildren with hchild
    injection hchild with _ _ _ hline
    exact absurd hline (by decide)

end MediaNetwork

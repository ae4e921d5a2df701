/-
  Events: a text cut into pieces of markup.

  1. `step` takes the next piece off a text: character data up to the next `<`, or one tag,
     comment, CDATA section, document type declaration or processing instruction.  What it leaves
     is strictly shorter, which is what ends the reading.
  2. `scan` repeats it, remembering the names of the elements that are open, and gives every
     event with the byte offset at which its reading began.  It stops at the end of the text or
     at the first fault; the events before a fault are kept, because a fault of the tree among
     them comes first.

  Only start tags, childless tags and end tags matter to the tree; every other piece is `other`.
  The text is not validated: names may hold anything, and quotes protect `>` anywhere in a tag.
-/
import MediaNetwork.Markup.Tag

namespace MediaNetwork.Markup

open MediaNetwork.Text

/-- One piece of markup. -/
inductive Event
  /-- A start tag. -/
  | start (tag : Tag)
  /-- A tag closed in itself. -/
  | childless (tag : Tag)
  /-- An end tag; the text between its slash and its bracket. -/
  | close (name : List Char)
  /-- Character data, a comment, a CDATA section, a declaration or an instruction. -/
  | other
  deriving DecidableEq, Repr

/-- What stands at the beginning of a text. -/
inductive Step
  /-- Nothing more. -/
  | finished
  /-- A piece that cannot be read. -/
  | fault (fault : SyntaxFault)
  /-- An event of so many bytes, and the text after it. -/
  | event (event : Event) (length : Nat) (rest : List Char)

/-- A step whose event comes so many bytes later. -/
def Step.after (bytes : Nat) : Step → Step
  | .event e length rest => .event e (bytes + length) rest
  | s => s

/-! ## Finding the end of a piece -/

/-- The first place where `mark` stands: the bytes up to its end and the text after it. -/
def seek (mark : List Char) (passed : Nat) : List Char → Option (Nat × List Char)
  | [] => none
  | c :: cs =>
    if mark.isPrefixOf (c :: cs) then
      some (passed + byteLength mark, (c :: cs).drop mark.length)
    else seek mark (passed + c.utf8Size) cs

/-- The end of a document type declaration: the first `>` that closes no `<` opened in it. -/
def seekDoctypeEnd (depth passed : Nat) : List Char → Option (Nat × List Char)
  | [] => none
  | c :: cs =>
    if c = '>' then
      match depth with
      | 0 => some (passed + 1, cs)
      | d + 1 => seekDoctypeEnd d (passed + 1) cs
    else if c = '<' then seekDoctypeEnd (depth + 1) (passed + 1) cs
    else seekDoctypeEnd depth (passed + c.utf8Size) cs

/-- The content of a tag: everything before the first `>` outside quotes.  `quote` is the quote
    that is open and `done` the content so far, backwards. -/
def tagContent (quote : Option Char) (done : List Char) :
    List Char → Option (List Char × List Char)
  | [] => none
  | c :: cs =>
    match quote with
    | some q => tagContent (if c = q then none else some q) (c :: done) cs
    | none =>
      if c = '>' then some (done.reverse, cs)
      else tagContent (if c = '"' ∨ c = '\'' then some c else none) (c :: done) cs

/-- Whether a text begins with a word, letters compared without regard to case. -/
def startsWithAnyCase (word cs : List Char) : Bool :=
  word.isPrefixOf ((cs.take word.length).map Char.toUpper)

/-! ## The pieces -/

/-- Reads a comment, CDATA section or document type declaration; the text begins after `<!`. -/
def bangStep (cs : List Char) : Step :=
  match cs with
  | [] => .fault (.unfinished .bang)
  | '-' :: _ =>
    if ['-', '-'].isPrefixOf cs then
      match seek ['-', '-', '>'] 2 (cs.drop 2) with
      | some (length, rest) => .event .other length rest
      | none => .fault (.unfinished .comment)
    else .fault (.unfinished .comment)
  | '[' :: _ =>
    if startsWithAnyCase ['[', 'C', 'D', 'A', 'T', 'A', '['] cs then
      match seek [']', ']', '>'] 7 (cs.drop 7) with
      | some (length, rest) => .event .other length rest
      | none => .fault (.unfinished .cdata)
    else .fault (.unfinished .cdata)
  | c :: _ =>
    if c = 'D' ∨ c = 'd' then
      if startsWithAnyCase ['D', 'O', 'C', 'T', 'Y', 'P', 'E'] cs then
        match seekDoctypeEnd 0 7 (cs.drop 7) with
        | some (length, rest) =>
          if (cs.drop 7).dropWhile isBlank = '>' :: rest then .fault .emptyDoctype
          else .event .other length rest
        | none => .fault (.unfinished .doctype)
      else .fault (.unfinished .doctype)
    else .fault (.unknownBang c)

/-- The text before the first `>`, or all of it if there is none; its length with the bracket, and
    the text after the bracket. -/
def upToBracket (cs : List Char) : List Char × Nat × List Char :=
  let content := cs.takeWhile (· != '>')
  match cs.dropWhile (· != '>') with
  | [] => (content, byteLength content, [])
  | _ :: rest => (content, byteLength content + 1, rest)

/-- Reads an end tag; the text begins after `</`.  A missing bracket is not missed. -/
def closeStep (cs : List Char) : Step :=
  let (content, length, rest) := upToBracket cs
  .event (.close content) length rest

/-- Reads a processing instruction; the text begins after `<?`.  Its last character must be a
    question mark, and that mark not the only character. -/
def instructionStep (cs : List Char) : Step :=
  let (content, length, rest) := upToBracket cs
  if content.length ≥ 2 ∧ content.getLast? = some '?' then .event .other length rest
  else .fault (.unfinished .instruction)

/-- Reads a start tag or a childless tag; the text begins after `<`. -/
def tagStep (cs : List Char) : Step :=
  match tagContent none [] cs with
  | none => .fault (.unfinished .tag)
  | some (content, rest) =>
    let length := byteLength content + 1
    if content.getLast? = some '/' then .event (.childless ⟨content.dropLast⟩) length rest
    else .event (.start ⟨content⟩) length rest

/-- Reads what follows a `<`.  A `<` with nothing behind it ends the text. -/
def markupStep (cs : List Char) : Step :=
  match cs with
  | [] => .finished
  | '!' :: rest => (bangStep rest).after 1
  | '/' :: rest => (closeStep rest).after 1
  | '?' :: rest => (instructionStep rest).after 1
  | _ => tagStep cs

/-- Takes the next event off a text, blanks before it skipped. -/
def step (cs : List Char) : Step :=
  let blanks := byteLength (cs.takeWhile isBlank)
  match cs.dropWhile isBlank with
  | [] => .finished
  | c :: rest =>
    if c = '<' then (markupStep rest).after (blanks + 1)
    else
      let data := (c :: rest).takeWhile (· != '<')
      .event .other (blanks + byteLength data) ((c :: rest).dropWhile (· != '<'))

/-! ## Every step shortens the text -/

/-- Seeking a mark leaves no more than there was; so do the other readers of this section. -/
theorem length_seek {mark cs rest : List Char} {passed n : Nat}
    (h : seek mark passed cs = some (n, rest)) : rest.length ≤ cs.length := by
  induction cs generalizing passed with
  | nil => simp [seek] at h
  | cons c cs ih =>
    unfold seek at h
    split at h
    · cases h
      simp
    · have := ih h
      simp only [List.length_cons]
      omega

theorem length_seekDoctypeEnd {cs rest : List Char} {depth passed n : Nat}
    (h : seekDoctypeEnd depth passed cs = some (n, rest)) : rest.length ≤ cs.length := by
  induction cs generalizing depth passed with
  | nil => simp [seekDoctypeEnd] at h
  | cons c cs ih =>
    have hle : rest.length ≤ cs.length := by
      unfold seekDoctypeEnd at h
      split at h
      · cases depth with
        | zero => cases h; exact Nat.le_refl _
        | succ d => exact ih h
      · split at h <;> exact ih h
    simp only [List.length_cons]
    omega

/-- A tag takes at least the character that ends it. -/
theorem length_tagContent {cs content rest done : List Char} {quote : Option Char}
    (h : tagContent quote done cs = some (content, rest)) : rest.length < cs.length := by
  induction cs generalizing quote done with
  | nil => simp [tagContent] at h
  | cons c cs ih =>
    have hle : rest.length ≤ cs.length := by
      unfold tagContent at h
      split at h
      · exact Nat.le_of_lt (ih h)
      · split at h
        · cases h; exact Nat.le_refl _
        · exact Nat.le_of_lt (ih h)
    simp only [List.length_cons]
    omega

theorem length_upToBracket (cs : List Char) : (upToBracket cs).2.2.length ≤ cs.length := by
  have hle := (List.dropWhile_sublist (· != '>') (l := cs)).length_le
  unfold upToBracket
  split
  · simp
  · rename_i heq
    rw [heq] at hle
    simp only [List.length_cons] at hle
    simp only
    omega

/-- A step that gives an event leaves at most `n` characters. -/
def Step.Leaves (n : Nat) (s : Step) : Prop :=
  ∀ event length rest, s = .event event length rest → rest.length ≤ n

/-- What was passed before a step takes nothing from what it leaves. -/
theorem Step.Leaves.after {n bytes : Nat} {s : Step} (h : s.Leaves n) :
    (s.after bytes).Leaves n := by
  intro event length rest heq
  cases s with
  | finished => simp [Step.after] at heq
  | fault f => simp [Step.after] at heq
  | event e l r =>
    cases heq
    exact h _ _ _ rfl

/-- A larger bound holds as well. -/
theorem Step.Leaves.mono {m n : Nat} {s : Step} (h : s.Leaves m) (hmn : m ≤ n) : s.Leaves n :=
  fun event length rest heq => Nat.le_trans (h event length rest heq) hmn

theorem leaves_bangStep (cs : List Char) : (bangStep cs).Leaves cs.length := by
  intro event length rest heq
  unfold bangStep at heq
  split at heq
  · cases heq
  · split at heq
    · split at heq
      · rename_i h
        cases heq
        exact Nat.le_trans (length_seek h) (List.drop_sublist ..).length_le
      · cases heq
    · cases heq
  · split at heq
    · split at heq
      · rename_i h
        cases heq
        exact Nat.le_trans (length_seek h) (List.drop_sublist ..).length_le
      · cases heq
    · cases heq
  · split at heq
    · split at heq
      · split at heq
        · rename_i h
          split at heq
          · cases heq
          · cases heq
            exact Nat.le_trans (length_seekDoctypeEnd h) (List.drop_sublist ..).length_le
        · cases heq
      · cases heq
    · cases heq

theorem leaves_closeStep (cs : List Char) : (closeStep cs).Leaves cs.length := by
  intro event length rest heq
  simp only [closeStep, Step.event.injEq] at heq
  exact heq.2.2 ▸ length_upToBracket cs

theorem leaves_instructionStep (cs : List Char) : (instructionStep cs).Leaves cs.length := by
  intro event length rest heq
  simp only [instructionStep] at heq
  split at heq
  · simp only [Step.event.injEq] at heq
    exact heq.2.2 ▸ length_upToBracket cs
  · cases heq

theorem leaves_tagStep (cs : List Char) : (tagStep cs).Leaves cs.length := by
  intro event length rest heq
  unfold tagStep at heq
  split at heq
  · cases heq
  · rename_i h
    have hlt := length_tagContent h
    simp only at heq
    split at heq <;> (cases heq; omega)

/-- Whatever begins with the opening mark, its step leaves no more than what follows the mark. -/
theorem leaves_markupStep (cs : List Char) : (markupStep cs).Leaves cs.length := by
  unfold markupStep
  split
  · intro event length rest heq
    cases heq
  · exact (leaves_bangStep _).after.mono (by simp)
  · exact (leaves_closeStep _).after.mono (by simp)
  · exact (leaves_instructionStep _).after.mono (by simp)
  · exact leaves_tagStep _

/-- **Progress**: an event takes at least one character, so the events of a text come to an end. -/
theorem length_lt_of_step {cs rest : List Char} {event : Event} {length : Nat}
    (h : step cs = .event event length rest) : rest.length < cs.length := by
  have hle := (List.dropWhile_sublist isBlank (l := cs)).length_le
  simp only [step] at h
  split at h
  · cases h
  · rename_i c tail heq
    rw [heq, List.length_cons] at hle
    split at h
    · have := (leaves_markupStep tail).after _ _ _ h
      omega
    · rename_i hc
      cases h
      have hdrop : (c :: tail).dropWhile (· != '<') = tail.dropWhile (· != '<') := by
        simp [hc]
      have htail := (List.dropWhile_sublist (· != '<') (l := tail)).length_le
      rw [hdrop]
      omega

/-! ## The events of a text -/

/-- The name an end tag is compared by: blanks at its end do not count, unless it has nothing
    else. -/
def closingName (name : List Char) : List Char :=
  if name.all isBlank then name else dropEndWhile isBlank name

/-- The names of the open elements after an event, innermost first. -/
def nest (opened : List (List Char)) : Event → Except SyntaxFault (List (List Char))
  | .start tag => .ok (tag.name :: opened)
  | .close name =>
    match opened with
    | [] => .error (.endMismatch [] name)
    | top :: outer =>
      if closingName name = top then .ok outer else .error (.endMismatch top (closingName name))
  | _ => .ok opened

/-- The events of a text: each with the offset at which its reading began, and the fault that
    stopped the reading, if one did. -/
structure Reading where
  events : List (Nat × Event)
  fault : Option SyntaxFault
  deriving DecidableEq, Repr

/-- Continues a reading at `offset`, inside the elements `opened`; `done` are the events before,
    backwards. -/
def scanFrom (opened : List (List Char)) (offset : Nat) (done : List (Nat × Event))
    (cs : List Char) : Reading :=
  match _h : step cs with
  | .finished => ⟨done.reverse, none⟩
  | .fault fault => ⟨done.reverse, some fault⟩
  | .event event length rest =>
    match nest opened event with
    | .error fault => ⟨done.reverse, some fault⟩
    | .ok opened => scanFrom opened (offset + length) ((offset, event) :: done) rest
termination_by cs.length
decreasing_by exact length_lt_of_step _h

/-- The byte order mark. -/
def byteOrderMark : Char := '\ufeff'

/-- The text without a byte order mark at its beginning. -/
def withoutMark : List Char → List Char
  | c :: cs => if c = byteOrderMark then cs else c :: cs
  | [] => []

/-- The events of a document.  A leading byte order mark is dropped and not counted: offsets
    begin behind it. -/
def scan (text : List Char) : Reading := scanFrom [] 0 [] (withoutMark text)

end MediaNetwork.Markup

/-
  Written markup cut into events.

  1. Each of the three tags that are written is one step of the reader: blanks before it are
     skipped, and what is left begins behind its bracket (`step_start`, `step_childless`,
     `step_close`).  A `>` inside a value is written as an entity, and quotes are balanced, so the
     first bracket outside quotes is that of the tag (`tagContent_written`).
  2. So the lines of an element are read as its events, whatever comes before and after
     (`scan_write`, by induction over the element together with `scan_writeAll`).  Only the line
     feed behind the last tag is left; it is one more blank before what follows.
-/
import MediaNetwork.Markup.Event
import MediaNetwork.Proofs.Markup.Tags

namespace MediaNetwork.Markup

open MediaNetwork.Text

/-! ## The content of a tag -/

theorem tagContent_plain (done : List Char) {body : List Char}
    (hbody : ∀ x ∈ body, x ≠ '>' ∧ x ≠ '"' ∧ x ≠ '\'') (rest : List Char) :
    tagContent none done (body ++ rest) = tagContent none (body.reverse ++ done) rest := by
  induction body generalizing done with
  | nil => rfl
  | cons c body ih =>
    obtain ⟨hbracket, hquot, hapos⟩ := hbody c List.mem_cons_self
    rw [List.cons_append, tagContent]
    simp only [hbracket, hquot, hapos, if_false, or_self]
    rw [ih _ fun x hx => hbody x (List.mem_cons_of_mem _ hx)]
    simp

/-- Up to its closing quote a value may hold anything but that quote. -/
theorem tagContent_quoted (done : List Char) {value : List Char} (hvalue : ∀ x ∈ value, x ≠ '"')
    (rest : List Char) :
    tagContent (some '"') done (value ++ '"' :: rest) =
      tagContent none ('"' :: (value.reverse ++ done)) rest := by
  induction value generalizing done with
  | nil =>
    rw [List.nil_append, tagContent]
    simp
  | cons c value ih =>
    rw [List.cons_append, tagContent]
    simp only [hvalue c List.mem_cons_self, if_false]
    rw [ih _ fun x hx => hvalue x (List.mem_cons_of_mem _ hx)]
    simp

theorem tagContent_attribute (done : List Char) {a : String × String} (ha : isWord a.1 = true)
    (rest : List Char) :
    tagContent none done (Printed.writeAttribute a ++ rest) =
      tagContent none ((Printed.writeAttribute a).reverse ++ done) rest := by
  have hkey : ∀ x ∈ ' ' :: a.1.toList ++ ['='], x ≠ '>' ∧ x ≠ '"' ∧ x ≠ '\'' := by
    intro x hx
    rcases List.mem_append.mp hx with hx | hx
    · rcases List.mem_cons.mp hx with rfl | hx
      · decide
      · obtain ⟨-, -, hbracket, -, -, hquot, hapos, -⟩ :=
          plain_of_isAlphanum (isAlphanum_of_mem ha x hx)
        exact ⟨hbracket, hquot, hapos⟩
    · rw [List.mem_singleton.mp hx]
      decide
  have htext : Printed.writeAttribute a ++ rest =
      (' ' :: a.1.toList ++ ['=']) ++ '"' :: (escape a.2.toList ++ '"' :: rest) := by
    simp [Printed.writeAttribute]
  rw [htext, tagContent_plain _ hkey, tagContent]
  simp only [show ¬ ('"' = '>') by decide, if_false, true_or, if_true]
  rw [tagContent_quoted _ (quote_not_mem _)]
  simp [Printed.writeAttribute]

/-- The content of a written tag runs to its bracket. -/
theorem tagContent_written {name : String} {attributes : List (String × String)}
    (hname : isWord name = true) (hword : ∀ a ∈ attributes, isWord a.1 = true)
    (rest : List Char) :
    tagContent none [] ((Tag.written name attributes).content ++ rest) =
      tagContent none (Tag.written name attributes).content.reverse rest := by
  have hattributes : ∀ done : List Char,
      tagContent none done (attributes.flatMap Printed.writeAttribute ++ rest) =
        tagContent none ((attributes.flatMap Printed.writeAttribute).reverse ++ done) rest := by
    induction attributes with
    | nil => exact fun _ => rfl
    | cons a attributes ih =>
      intro done
      rw [List.flatMap_cons, List.append_assoc,
        tagContent_attribute _ (hword a List.mem_cons_self),
        ih fun x hx => hword x (List.mem_cons_of_mem _ hx)]
      simp
  have hplain : ∀ x ∈ name.toList, x ≠ '>' ∧ x ≠ '"' ∧ x ≠ '\'' := by
    intro x hx
    obtain ⟨-, -, hbracket, -, -, hquot, hapos, -⟩ :=
      plain_of_isAlphanum (isAlphanum_of_mem hname x hx)
    exact ⟨hbracket, hquot, hapos⟩
  rw [Tag.written, List.append_assoc, tagContent_plain _ hplain, hattributes]
  simp

/-- A written tag does not end in a slash. -/
theorem getLast?_written {name : String} (hname : isWord name = true)
    (attributes : List (String × String)) :
    (Tag.written name attributes).content.getLast? ≠ some '/' := by
  rcases List.eq_nil_or_concat attributes with rfl | ⟨before, a, rfl⟩
  · intro h
    have hmem : '/' ∈ name.toList := by
      simpa [Tag.written] using List.mem_of_getLast? h
    exact (plain_of_isAlphanum (isAlphanum_of_mem hname _ hmem)).2.2.2.2.1 rfl
  · have hlast : (Tag.written name (before ++ [a])).content =
        name.toList ++ before.flatMap Printed.writeAttribute ++
          (' ' :: a.1.toList ++ ['=', '"'] ++ escape a.2.toList) ++ ['"'] := by
      simp [Tag.written, Printed.writeAttribute]
    rw [List.concat_eq_append, hlast, List.getLast?_concat]
    decide

/-! ## Steps -/

/-- Blanks before a piece of markup are skipped. -/
theorem step_blanks {blanks : List Char} (hblanks : AllBlank blanks) (rest : List Char) :
    step (blanks ++ '<' :: rest) = (markupStep rest).after (byteLength blanks + 1) := by
  have hstop : isBlank '<' = false := by decide
  obtain ⟨htake, hdrop⟩ := span_stop hblanks hstop rest
  unfold step
  rw [htake, hdrop]
  exact if_pos rfl

section Written

variable {name : String} {attributes : List (String × String)} {blanks : List Char}
  (hname : isWord name = true) (rest : List Char)

include hname

theorem markupStep_written : markupStep ((Tag.written name attributes).content ++ rest) =
    tagStep ((Tag.written name attributes).content ++ rest) := by
  obtain ⟨c, cs, heq, hc, -⟩ := exists_cons_of_isWord hname
  obtain ⟨-, -, -, -, hslash, -, -, hbang, hquestion⟩ := plain_of_isAlphanum hc
  have htext : (Tag.written name attributes).content ++ rest =
      c :: (cs ++ attributes.flatMap Printed.writeAttribute ++ rest) := by
    simp [Tag.written, heq]
  rw [htext]
  unfold markupStep
  split
  · rename_i h
    nomatch h
  · rename_i h
    exact absurd (List.cons.inj h).1 hbang
  · rename_i h
    exact absurd (List.cons.inj h).1 hslash
  · rename_i h
    exact absurd (List.cons.inj h).1 hquestion
  · rfl

variable (hblanks : AllBlank blanks)

include hblanks

/-- **Start tags** are read as they are written. -/
theorem step_start (hword : ∀ a ∈ attributes, isWord a.1 = true) : ∃ length,
    step (blanks ++ '<' :: ((Tag.written name attributes).content ++ '>' :: rest)) =
      .event (.start (Tag.written name attributes)) length rest := by
  rw [step_blanks hblanks, markupStep_written hname]
  unfold tagStep
  rw [tagContent_written hname hword, tagContent]
  simp only [if_true, List.reverse_reverse, getLast?_written hname attributes, if_false]
  exact ⟨_, rfl⟩

theorem step_childless (hword : ∀ a ∈ attributes, isWord a.1 = true) : ∃ length,
    step (blanks ++ '<' :: ((Tag.written name attributes).content ++ '/' :: '>' :: rest)) =
      .event (.childless (Tag.written name attributes)) length rest := by
  rw [step_blanks hblanks, markupStep_written hname]
  unfold tagStep
  rw [tagContent_written hname hword, tagContent]
  simp only [show ¬ ('/' = '>') by decide, show ¬ ('/' = '"') by decide,
    show ¬ ('/' = '\'') by decide, if_false, or_self]
  rw [tagContent]
  simp only [if_true, List.reverse_cons, List.reverse_reverse]
  rw [if_pos (by simp)]
  exact ⟨_, by rw [List.dropLast_concat]; rfl⟩

/-- **End tags** likewise. -/
theorem step_close : ∃ length,
    step (blanks ++ '<' :: '/' :: (name.toList ++ '>' :: rest)) =
      .event (.close name.toList) length rest := by
  have hin : ∀ x ∈ name.toList, (x != '>') = true := by
    intro x hx
    simpa using (plain_of_isAlphanum (isAlphanum_of_mem hname x hx)).2.2.1
  have hstop : ('>' != '>') = false := by decide
  obtain ⟨htake, hdrop⟩ := span_stop hin hstop rest
  rw [step_blanks hblanks, markupStep]
  unfold closeStep upToBracket
  simp only [htake, hdrop]
  exact ⟨_, rfl⟩

end Written

theorem step_instruction {body : List Char} (hbody : ∀ x ∈ body, (x != '>') = true)
    (hend : body.length ≥ 2 ∧ body.getLast? = some '?') (rest : List Char) : ∃ length,
    step ('<' :: '?' :: (body ++ '>' :: rest)) = .event .other length rest := by
  have hstop : ('>' != '>') = false := by decide
  have hnone : AllBlank [] := fun _ h => nomatch h
  obtain ⟨htake, hdrop⟩ := span_stop hbody hstop rest
  have hstep := step_blanks hnone ('?' :: (body ++ '>' :: rest))
  rw [List.nil_append] at hstep
  rw [hstep, markupStep]
  unfold instructionStep upToBracket
  simp only [htake, hdrop, if_pos hend]
  exact ⟨_, rfl⟩

/-- The declaration of a document is a piece of no matter. -/
theorem step_declaration (rest : List Char) : ∃ length,
    step (Printed.declaration.toList ++ rest) = .event .other length ('\n' :: rest) := by
  show ∃ length, step ('<' :: '?' ::
    (['x', 'm', 'l', ' ', 'v', 'e', 'r', 's', 'i', 'o', 'n', '=', '"', '1', '.', '0', '"', ' ',
      'e', 'n', 'c', 'o', 'd', 'i', 'n', 'g', '=', '"', 'U', 'T', 'F', '-', '8', '"', '?'] ++
      '>' :: '\n' :: rest)) = _
  exact step_instruction (List.all_eq_true.mp rfl) (by decide) _

end MediaNetwork.Markup

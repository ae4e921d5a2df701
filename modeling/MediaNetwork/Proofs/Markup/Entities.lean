/-
  Escaped values.

  1. What is written for a value holds no quote, so it can stand between quotes (`quote_not_mem`).
  2. It is read as the value it was written for, whatever that is (`unescape_escape`).  The
     induction is over the value: what is written for one character is read as that character
     (`unescapeFrom_escapeChar`), and reading goes on behind it.
-/
import MediaNetwork.Markup.Entity

namespace MediaNetwork.Markup

/-- A character is kept as it is, or it is one of the five that have an entity. -/
theorem escapeChar_cases (c : Char) :
    (escapeChar c = [c] ∧ c ≠ '&' ∧ c ≠ '"') ∨
      ∃ name, escapeChar c = '&' :: (name ++ [';']) ∧ namedEntity? name = some c ∧
        name.head? ≠ some '#' ∧ ∀ x ∈ name, inEntity x = true ∧ x ≠ '"' := by
  -- The names are closed, so what holds of all their characters is computed.
  have hplain : ∀ name : List Char, name.all (fun x => inEntity x && x != '"') = true →
      ∀ x ∈ name, inEntity x = true ∧ x ≠ '"' := by
    intro name hname x hx
    simpa using List.all_eq_true.mp hname x hx
  by_cases hlt : c = '<'
  · subst hlt
    exact Or.inr ⟨['l', 't'], rfl, rfl, by decide, hplain _ rfl⟩
  by_cases hgt : c = '>'
  · subst hgt
    exact Or.inr ⟨['g', 't'], rfl, rfl, by decide, hplain _ rfl⟩
  by_cases hamp : c = '&'
  · subst hamp
    exact Or.inr ⟨['a', 'm', 'p'], rfl, rfl, by decide, hplain _ rfl⟩
  by_cases hapos : c = '\''
  · subst hapos
    exact Or.inr ⟨['a', 'p', 'o', 's'], rfl, rfl, by decide, hplain _ rfl⟩
  by_cases hquot : c = '"'
  · subst hquot
    exact Or.inr ⟨['q', 'u', 'o', 't'], rfl, rfl, by decide, hplain _ rfl⟩
  refine Or.inl ⟨?_, hamp, hquot⟩
  simp [escapeChar, hlt, hgt, hamp, hapos, hquot]

/-- A written value holds no quote. -/
theorem quote_not_mem (cs : List Char) : ∀ x ∈ escape cs, x ≠ '"' := by
  intro x hx
  obtain ⟨c, -, hx⟩ := List.mem_flatMap.mp hx
  rcases escapeChar_cases c with ⟨heq, -, hquot⟩ | ⟨name, heq, -, -, hname⟩
  · rw [heq, List.mem_singleton] at hx
    rw [hx]
    exact hquot
  · rw [heq] at hx
    rcases List.mem_cons.mp hx with rfl | hx
    · decide
    rcases List.mem_append.mp hx with hx | hx
    · exact (hname x hx).2
    · rw [List.mem_singleton.mp hx]
      decide

/-- A run of characters is told from what follows by the first character that stops it. -/
theorem span_stop {p : Char → Bool} {body : List Char} (hbody : ∀ x ∈ body, p x = true)
    {stop : Char} (hstop : p stop = false) (rest : List Char) :
    (body ++ stop :: rest).takeWhile p = body ∧
      (body ++ stop :: rest).dropWhile p = stop :: rest := by
  constructor
  · rw [List.takeWhile_append_of_pos hbody]
    simp [hstop]
  · rw [List.dropWhile_append_of_pos hbody]
    simp [hstop]

/-- What stops a run of characters stands behind it. -/
theorem span_of_dropWhile {p : Char → Bool} {cs rest : List Char} {stop : Char}
    (h : cs.dropWhile p = stop :: rest) : cs = cs.takeWhile p ++ stop :: rest ∧ p stop = false := by
  have hsplit : cs.takeWhile p ++ stop :: rest = cs := by
    rw [← h, List.takeWhile_append_dropWhile]
  have hhead := List.head?_dropWhile_not p cs
  rw [h] at hhead
  exact ⟨hsplit.symm, by simpa using hhead⟩

/-- What is written for a character is read as that character. -/
theorem unescapeFrom_escapeChar (total position : Nat) (done : List Char) (c : Char)
    (rest : List Char) : ∃ position',
    unescapeFrom total position done (escapeChar c ++ rest) =
      unescapeFrom total position' (c :: done) rest := by
  rcases escapeChar_cases c with ⟨heq, hamp, -⟩ | ⟨name, heq, hentity, hhash, hname⟩
  · refine ⟨position + c.utf8Size, ?_⟩
    rw [heq, List.singleton_append, unescapeFrom, if_neg hamp]
  · have hsemicolon : inEntity ';' = false := by decide
    obtain ⟨htake, hdrop⟩ := span_stop (fun x hx => (hname x hx).1) hsemicolon rest
    have hchar : ∀ start stop, entityChar start stop name = .ok c := by
      intro start stop
      unfold entityChar
      split
      · exact absurd rfl hhash
      · rw [hentity]
    refine ⟨position + 1 + Text.byteLength name + 1, ?_⟩
    have htext : escapeChar c ++ rest = '&' :: (name ++ ';' :: rest) := by
      rw [heq]
      simp
    rw [htext, unescapeFrom, if_pos rfl, htake]
    split
    · rename_i rest' h
      rw [hdrop] at h
      cases h
      simp only [hchar]
    · rename_i h
      exact absurd hdrop (h rest)

theorem unescapeFrom_escape (total position : Nat) (done cs : List Char) :
    unescapeFrom total position done (escape cs) = .ok (done.reverse ++ cs) := by
  induction cs generalizing position done with
  | nil =>
    show unescapeFrom total position done [] = _
    rw [unescapeFrom, List.append_nil]
  | cons c cs ih =>
    show unescapeFrom total position done (escapeChar c ++ escape cs) = _
    obtain ⟨position', h⟩ := unescapeFrom_escapeChar total position done c (escape cs)
    rw [h, ih, List.reverse_cons, List.append_assoc]
    rfl

/-- **Values**: a value that is written is read back. -/
theorem unescape_escape (cs : List Char) : unescape (escape cs) = .ok cs :=
  unescapeFrom_escape _ _ [] cs

end MediaNetwork.Markup

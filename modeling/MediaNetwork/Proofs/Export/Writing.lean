/-
  What is written of a value determines it, also with other text behind it.

  Each lemma cuts the same text twice: if what is written of two values, with something behind it,
  is the same text, then the values are the same and so is what is behind them.  Nothing has to be
  read for that; it is enough that each piece tells where it ends.

  1. Characters — an escaped character is a character of its own, one letter behind a backslash or
     four digits behind a backslash (`escaped_escapeChar`), and none of them begins as another one
     goes on (`Escaped.append_inj`).
  2. Texts — no escaped character begins with a quote, so the first bare quote ends a text
     (`writeText_append_inj`).
  3. Numbers — they end where no digit follows (`decimal_append_inj`).
  4. Values — the first character tells the kind of a value (`kind_of_write`), and behind an item
     stands a comma or the end of its line, which is no digit (`write_append_inj`, by induction
     over the first value, its items and its fields).
-/
import MediaNetwork.Json
import MediaNetwork.Proofs.Text.Literals
import MediaNetwork.Proofs.Text.Numerals

namespace MediaNetwork

open MediaNetwork.Text

namespace Text

theorem readHex_hexLower (width n : Nat) : readHex (hexLower width n).toList = some n := by
  have hvalue : extendNumeral hexDigit? 16 0 ((padLeft width (Nat.toDigits 16 n)).map id) =
      some n :=
    extendNumeral_padded (by decide) (fun d hd => hexDigit?_eq_some.mpr ⟨hd, .inl rfl⟩) width n
  have hne : padLeft width (Nat.toDigits 16 n) ≠ [] := by simp [padLeft, Nat.toDigits_ne_nil]
  rw [List.map_id] at hvalue
  unfold readHex readNumeral hexLower
  rw [String.toList_ofList, if_neg (by simpa using hne)]
  exact hvalue

/-- No numeral goes on into this text. -/
def EndsNumeral (rest : List Char) : Prop := ∀ c, rest.head? = some c → decimalDigit? c = none

/-- A number is cut off where its digits end. -/
theorem decimal_append_inj {n m : Nat} {rest rest' : List Char} (hrest : EndsNumeral rest)
    (hrest' : EndsNumeral rest')
    (h : (decimal n).toList ++ rest = (decimal m).toList ++ rest') : n = m ∧ rest = rest' := by
  -- The digits are what can be taken before the first other character.
  have hcut : ∀ (k : Nat) (more : List Char), EndsNumeral more →
      ((decimal k).toList ++ more).takeWhile (fun c => (decimalDigit? c).isSome) =
        (decimal k).toList := by
    intro k more hmore
    have hdigits : ∀ c ∈ (decimal k).toList, (decimalDigit? c).isSome = true := by
      intro c hc
      rw [decimal, String.toList_ofList] at hc
      obtain ⟨d, hd, rfl⟩ := exists_digit_of_mem (by decide) hc
      rw [decimalDigit?_digitChar d hd]
      rfl
    rw [List.takeWhile_append_of_pos hdigits]
    cases more with
    | nil => simp
    | cons c more => simp [hmore c rfl]
  have hsame : (decimal n).toList = (decimal m).toList := by
    rw [← hcut n rest hrest, h, hcut m rest' hrest']
  have hvalue := readDecimal_toDigits n
  rw [decimal, decimal, String.toList_ofList, String.toList_ofList] at hsame
  rw [hsame, readDecimal_toDigits] at hvalue
  obtain rfl : m = n := Option.some.inj hvalue
  exact ⟨rfl, List.append_cancel_left h⟩

end Text

namespace Json

/-! ## Characters -/

/-- The characters that are escaped by a letter, with the letter. -/
def letterEscapes : List (Char × Char) :=
  [('"', '"'), ('\\', '\\'), ('\x08', 'b'), ('\t', 't'), ('\n', 'n'), ('\x0c', 'f'), ('\r', 'r')]

/-- The three ways a character is written in a text. -/
inductive Escaped (c : Char) : List Char → Prop
  | plain (hquote : c ≠ '"') (hslash : c ≠ '\\') : Escaped c [c]
  | letter {l : Char} (hl : (c, l) ∈ letterEscapes) : Escaped c ['\\', l]
  | digits (hc : c.toNat < 32) : Escaped c ('\\' :: 'u' :: (hexLower 4 c.toNat).toList)

/-- Every character is written in one of these ways. -/
theorem escaped_escapeChar (c : Char) : Escaped c (escapeChar c) := by
  have hletter : ∀ x l, (c == x) = true → (x, l) ∈ letterEscapes → Escaped c ['\\', l] :=
    fun x l hc hl => .letter (eq_of_beq hc ▸ hl)
  unfold escapeChar
  split
  · rename_i hc
    rcases Bool.or_eq_true_iff.mp hc with hc | hc
    · rw [eq_of_beq hc]
      exact .letter (by decide)
    · rw [eq_of_beq hc]
      exact .letter (by decide)
  rename_i hplain
  split
  · exact hletter '\x08' 'b' ‹_› (by decide)
  split
  · exact hletter '\t' 't' ‹_› (by decide)
  split
  · exact hletter '\n' 'n' ‹_› (by decide)
  split
  · exact hletter '\x0c' 'f' ‹_› (by decide)
  split
  · exact hletter '\r' 'r' ‹_› (by decide)
  split
  · exact .digits ‹_›
  · simp only [Bool.or_eq_true, beq_iff_eq, not_or] at hplain
    exact .plain hplain.1 hplain.2

/-- An escaped character is cut off where it ends. -/
theorem Escaped.append_inj {c c' : Char} {w w' rest rest' : List Char} (h : Escaped c w)
    (h' : Escaped c' w') (heq : w ++ rest = w' ++ rest') : c = c' ∧ rest = rest' := by
  have hnone : ∀ e ∈ letterEscapes, e.2 ≠ 'u' := by decide
  have hone : ∀ e ∈ letterEscapes, ∀ e' ∈ letterEscapes, e.2 = e'.2 → e.1 = e'.1 := by decide
  have hfour : ∀ n < 32, (hexLower 4 n).toList.length = 4 := by decide
  -- the ways are told apart by the first two characters: no plain backslash, no escape by letter u
  cases h with
  | plain _ hslash =>
    cases h' with
    | plain => exact List.cons.inj heq
    | letter => exact absurd (List.cons.inj heq).1 hslash
    | digits => exact absurd (List.cons.inj heq).1 hslash
  | @letter l hl =>
    cases h' with
    | plain _ hslash => exact absurd (List.cons.inj heq).1.symm hslash
    | @letter l' hl' =>
      obtain ⟨hsame, hrest⟩ := List.cons.inj (List.cons.inj heq).2
      exact ⟨hone (c, l) hl (c', l') hl' hsame, hrest⟩
    | digits => exact absurd (List.cons.inj (List.cons.inj heq).2).1 (hnone (c, l) hl)
  | digits hc =>
    cases h' with
    | plain _ hslash => exact absurd (List.cons.inj heq).1.symm hslash
    | @letter l' hl' =>
      exact absurd (List.cons.inj (List.cons.inj heq).2).1.symm (hnone (c', l') hl')
    | digits hc' =>
      obtain ⟨hdigits, hrest⟩ := List.append_inj (List.cons.inj (List.cons.inj heq).2).2
        ((hfour _ hc).trans (hfour _ hc').symm)
      have hvalue := readHex_hexLower 4 c.toNat
      rw [hdigits, readHex_hexLower] at hvalue
      exact ⟨Char.toNat_inj.mp (Option.some.inj hvalue).symm, hrest⟩

/-- No escaped character begins with a quote. -/
theorem Escaped.ne_quote {c : Char} {w : List Char} (h : Escaped c w) (rest rest' : List Char) :
    w ++ rest ≠ '"' :: rest' := by
  intro heq
  cases h with
  | plain hquote hslash => exact hquote (List.cons.inj heq).1
  | letter hl => exact absurd (List.cons.inj heq).1 (by decide)
  | digits hc => exact absurd (List.cons.inj heq).1 (by decide)

/-! ## Texts -/

/-- A text is cut off at the first bare quote.  The induction is over its characters. -/
theorem escaped_append_inj {cs cs' : List Char} {rest rest' : List Char}
    (h : cs.flatMap escapeChar ++ '"' :: rest = cs'.flatMap escapeChar ++ '"' :: rest') :
    cs = cs' ∧ rest = rest' := by
  induction cs generalizing cs' with
  | nil =>
    cases cs' with
    | nil => exact ⟨rfl, (List.cons.inj h).2⟩
    | cons c' cs' =>
      rw [List.flatMap_cons, List.append_assoc] at h
      exact absurd h.symm ((escaped_escapeChar c').ne_quote _ _)
  | cons c cs ih =>
    rw [List.flatMap_cons, List.append_assoc] at h
    cases cs' with
    | nil => exact absurd h ((escaped_escapeChar c).ne_quote _ _)
    | cons c' cs' =>
      rw [List.flatMap_cons, List.append_assoc] at h
      obtain ⟨rfl, hmore⟩ := (escaped_escapeChar c).append_inj (escaped_escapeChar c') h
      obtain ⟨rfl, hrest⟩ := ih hmore
      exact ⟨rfl, hrest⟩

/-- **Texts** are cut off at their closing quote. -/
theorem writeText_append_inj {s s' : String} {rest rest' : List Char}
    (h : writeText s ++ rest = writeText s' ++ rest') : s = s' ∧ rest = rest' := by
  have hinner : s.toList.flatMap escapeChar ++ '"' :: rest =
      s'.toList.flatMap escapeChar ++ '"' :: rest' := by
    simpa [writeText] using h
  obtain ⟨hcs, hrest⟩ := escaped_append_inj hinner
  exact ⟨String.toList_inj.mp hcs, hrest⟩

/-! ## Values -/

/-- The kinds of values. -/
inductive Kind
  | null | bool | nat | text | array | object
  deriving DecidableEq

/-- The kind of a value. -/
def kind : Json → Kind
  | .null => .null
  | .bool _ => .bool
  | .nat _ => .nat
  | .text _ => .text
  | .array _ => .array
  | .object _ => .object

/-- The kind of the values that begin with a character. -/
def kindOf (c : Char) : Kind :=
  if c = 'n' then .null
  else if c = 't' ∨ c = 'f' then .bool
  else if c = '"' then .text
  else if c = '[' then .array
  else if c = '\x7b' then .object
  else .nat

/-- A value begins with a character that tells its kind. -/
theorem kind_of_write (depth : Nat) (v : Json) :
    ∃ c cs, write depth v = c :: cs ∧ kindOf c = v.kind := by
  cases v with
  | null => exact ⟨_, _, rfl, rfl⟩
  | bool b => cases b <;> exact ⟨_, _, rfl, rfl⟩
  | nat n =>
    have hdigit : ∀ d < 10, kindOf (Nat.digitChar d) = .nat := by decide
    obtain ⟨c, cs, hcs⟩ := List.exists_cons_of_ne_nil (Nat.toDigits_ne_nil (b := 10) (n := n))
    have hc : c ∈ Nat.toDigits 10 n := by
      rw [hcs]
      exact List.mem_cons_self
    obtain ⟨d, hd, rfl⟩ := exists_digit_of_mem (by decide) hc
    refine ⟨_, cs, ?_, hdigit d hd⟩
    rw [write, decimal, String.toList_ofList, hcs]
  | text s => exact ⟨_, _, rfl, rfl⟩
  | array items => cases items <;> exact ⟨_, _, rfl, rfl⟩
  | object fields => cases fields <;> exact ⟨_, _, rfl, rfl⟩

/-- The first character of a value tells its kind. -/
theorem kind_eq_of_write {depth : Nat} {v v' : Json} {rest rest' : List Char}
    (h : write depth v ++ rest = write depth v' ++ rest') : v.kind = v'.kind := by
  obtain ⟨c, cs, hcs, hc⟩ := kind_of_write depth v
  obtain ⟨c', cs', hcs', hc'⟩ := kind_of_write depth v'
  rw [hcs, hcs'] at h
  rw [← hc, ← hc', (List.cons.inj h).1]

/-- Behind its bracket an array goes on as items do behind a comma. -/
theorem write_array_cons (depth : Nat) (v : Json) (vs : List Json) (rest : List Char) :
    ',' :: (write depth (array (v :: vs)) ++ rest).tail =
      writeItems (depth + 1) (v :: vs) ++
        '\n' :: (List.replicate (2 * depth) ' ' ++ ']' :: rest) := by
  simp [write, writeItems, newLine]

/-- Behind its bracket an object goes on as fields do behind a comma. -/
theorem write_object_cons (depth : Nat) (f : String × Json) (fs : List (String × Json))
    (rest : List Char) :
    ',' :: (write depth (object (f :: fs)) ++ rest).tail =
      writeFields (depth + 1) (f :: fs) ++
        '\n' :: (List.replicate (2 * depth) ' ' ++ '\x7d' :: rest) := by
  simp [write, writeFields, newLine]

/-- No number goes on behind an item. -/
theorem endsNumeral_items (depth : Nat) (vs : List Json) (rest : List Char) :
    EndsNumeral (writeItems depth vs ++ '\n' :: rest) := by
  intro c hc
  cases vs with
  | nil =>
    cases hc
    decide
  | cons v vs =>
    cases hc
    decide

/-- No number goes on behind a field. -/
theorem endsNumeral_fields (depth : Nat) (fs : List (String × Json)) (rest : List Char) :
    EndsNumeral (writeFields depth fs ++ '\n' :: rest) := by
  intro c hc
  cases fs with
  | nil =>
    cases hc
    decide
  | cons f fs =>
    cases hc
    decide

/-- What stands behind the last line of an array or object begins alike. -/
theorem closing_inj {depth : Nat} {bracket : Char} {rest rest' : List Char}
    (h : List.replicate (2 * depth) ' ' ++ bracket :: rest =
      List.replicate (2 * depth) ' ' ++ bracket :: rest') : rest = rest' :=
  (List.cons.inj (List.append_cancel_left h)).2

mutual

/-- **Values** are cut off where they end. -/
theorem write_append_inj (depth : Nat) : ∀ (v v' : Json) {rest rest' : List Char},
    EndsNumeral rest → EndsNumeral rest' →
    write depth v ++ rest = write depth v' ++ rest' → v = v' ∧ rest = rest'
  | .null, v', _, _, _, _, h => by
    cases v' with
    | null => exact ⟨rfl, List.append_cancel_left h⟩
    | _ => nomatch kind_eq_of_write h
  | .bool b, v', _, _, _, _, h => by
    cases v' with
    | bool b' =>
      cases b with
      | true =>
        cases b' with
        | true => exact ⟨rfl, List.append_cancel_left h⟩
        | false => exact absurd (List.cons.inj h).1 (by decide)
      | false =>
        cases b' with
        | true => exact absurd (List.cons.inj h).1 (by decide)
        | false => exact ⟨rfl, List.append_cancel_left h⟩
    | _ => nomatch kind_eq_of_write h
  | .nat n, v', _, _, hrest, hrest', h => by
    cases v' with
    | nat m =>
      obtain ⟨rfl, htail⟩ := decimal_append_inj hrest hrest' h
      exact ⟨rfl, htail⟩
    | _ => nomatch kind_eq_of_write h
  | .text s, v', _, _, _, _, h => by
    cases v' with
    | text s' =>
      obtain ⟨rfl, htail⟩ := writeText_append_inj h
      exact ⟨rfl, htail⟩
    | _ => nomatch kind_eq_of_write h
  | .array items, v', rest, rest', _, _, h => by
    cases v' with
    | array items' =>
      cases items with
      | nil =>
        cases items' with
        | nil => exact ⟨rfl, List.append_cancel_left h⟩
        | cons v' vs' => exact absurd (List.cons.inj (List.cons.inj h).2).1 (by decide)
      | cons v vs =>
        cases items' with
        | nil => exact absurd (List.cons.inj (List.cons.inj h).2).1 (by decide)
        | cons v' vs' =>
          -- the bracket in front of the first item does the work of a comma
          have hitems := write_array_cons depth v vs rest
          rw [h, write_array_cons depth v' vs' rest'] at hitems
          obtain ⟨hsame, hclosing⟩ :=
            writeItems_append_inj (depth + 1) (v :: vs) (v' :: vs') hitems.symm
          exact ⟨congrArg array hsame, closing_inj hclosing⟩
    | _ => nomatch kind_eq_of_write h
  | .object fields, v', rest, rest', _, _, h => by
    cases v' with
    | object fields' =>
      cases fields with
      | nil =>
        cases fields' with
        | nil => exact ⟨rfl, List.append_cancel_left h⟩
        | cons f' fs' => exact absurd (List.cons.inj (List.cons.inj h).2).1 (by decide)
      | cons f fs =>
        cases fields' with
        | nil => exact absurd (List.cons.inj (List.cons.inj h).2).1 (by decide)
        | cons f' fs' =>
          have hfields := write_object_cons depth f fs rest
          rw [h, write_object_cons depth f' fs' rest'] at hfields
          obtain ⟨hsame, hclosing⟩ :=
            writeFields_append_inj (depth + 1) (f :: fs) (f' :: fs') hfields.symm
          exact ⟨congrArg object hsame, closing_inj hclosing⟩
    | _ => nomatch kind_eq_of_write h

/-- **Items** are cut off where their lines end. -/
theorem writeItems_append_inj (depth : Nat) : ∀ (vs vs' : List Json) {rest rest' : List Char},
    writeItems depth vs ++ '\n' :: rest = writeItems depth vs' ++ '\n' :: rest' →
      vs = vs' ∧ rest = rest'
  | [], [], _, _, h => ⟨rfl, (List.cons.inj h).2⟩
  | [], _ :: _, _, _, h => absurd (List.cons.inj h).1 (by decide)
  | _ :: _, [], _, _, h => absurd (List.cons.inj h).1 (by decide)
  | v :: vs, v' :: vs', rest, rest', h => by
    have hvalue : write depth v ++ (writeItems depth vs ++ '\n' :: rest) =
        write depth v' ++ (writeItems depth vs' ++ '\n' :: rest') := by
      simpa [writeItems] using h
    obtain ⟨rfl, hmore⟩ := write_append_inj depth v v' (endsNumeral_items depth vs rest)
      (endsNumeral_items depth vs' rest') hvalue
    obtain ⟨rfl, hrest⟩ := writeItems_append_inj depth vs vs' hmore
    exact ⟨rfl, hrest⟩

/-- **Fields** are cut off where their lines end. -/
theorem writeFields_append_inj (depth : Nat) :
    ∀ (fs fs' : List (String × Json)) {rest rest' : List Char},
      writeFields depth fs ++ '\n' :: rest = writeFields depth fs' ++ '\n' :: rest' →
        fs = fs' ∧ rest = rest'
  | [], [], _, _, h => ⟨rfl, (List.cons.inj h).2⟩
  | [], _ :: _, _, _, h => absurd (List.cons.inj h).1 (by decide)
  | _ :: _, [], _, _, h => absurd (List.cons.inj h).1 (by decide)
  | (key, v) :: fs, (key', v') :: fs', rest, rest', h => by
    have hkey : writeText key ++ ':' :: ' ' :: (write depth v ++
          (writeFields depth fs ++ '\n' :: rest)) =
        writeText key' ++ ':' :: ' ' :: (write depth v' ++
          (writeFields depth fs' ++ '\n' :: rest')) := by
      simpa [writeFields] using h
    obtain ⟨rfl, hcolon⟩ := writeText_append_inj hkey
    have hvalue := (List.cons.inj (List.cons.inj hcolon).2).2
    obtain ⟨rfl, hmore⟩ := write_append_inj depth v v' (endsNumeral_fields depth fs rest)
      (endsNumeral_fields depth fs' rest') hvalue
    obtain ⟨rfl, hrest⟩ := writeFields_append_inj depth fs fs' hmore
    exact ⟨rfl, hrest⟩

end

/-- **Texts of values**: different values are written as different texts. -/
theorem pretty_inj {v v' : Json} : v.pretty = v'.pretty ↔ v = v' := by
  constructor
  · intro h
    have hwrite : write 0 v = write 0 v' := String.ofList_inj.mp h
    have hnil : EndsNumeral [] := fun c hc => nomatch hc
    exact (write_append_inj 0 v v' hnil hnil (by rw [hwrite])).1
  · rintro rfl
    rfl

end Json

end MediaNetwork

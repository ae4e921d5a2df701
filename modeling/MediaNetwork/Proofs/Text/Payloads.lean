/-
  Payloads: which texts they are, and which bytes each of them stands for.

  1. Pieces — `pieces` splits a text at every delimiter and drops what is empty.  The reader, which
     goes through the characters with a piece in its hands, comes to the same (`piecesFrom_eq`).  A
     piece is a stretch without delimiters that cannot be made longer (`mem_pieces_iff`).
  2. Bytes — `StandsForByte` says which byte a piece stands for: two hexadecimal digits, maybe
     behind a mark (`pieceByte?_eq_some`).
  3. Payloads — a text is read as the bytes its pieces stand for, one for one
     (`readPayload_eq_some`).  The pieces of two texts with a delimiter between them are those of
     the one and those of the other (`pieces_join`), so their bytes are too.
-/
import MediaNetwork.Proofs.Outcome
import MediaNetwork.Proofs.Text.Literals
import MediaNetwork.Proofs.Text.Numerals

namespace MediaNetwork

open MediaNetwork.Outcome MediaNetwork.Text

/-! ## Pieces -/

/-- The characters that can stand between bytes. -/
def delimiters : List Char := [' ', ',', '.', '-', '\t', '\n', '\r']

theorem isDelimiter_iff {c : Char} : isDelimiter c = true ↔ c ∈ delimiters := by
  simp [isDelimiter, delimiters, or_assoc]

theorem isDelimiter_eq_false {c : Char} : isDelimiter c = false ↔ c ∉ delimiters := by
  rw [← isDelimiter_iff, Bool.not_eq_true]

/-- What stands between the delimiters of a text, unless it is nothing. -/
def pieces (text : List Char) : List (List Char) :=
  (text.splitOnP isDelimiter).filter fun piece => !piece.isEmpty

/-- A stretch of the text without delimiters, which ends on both sides at a delimiter or with the
    text. -/
def IsPiece (text piece : List Char) : Prop :=
  ∃ before after, text = before ++ piece ++ after ∧ piece ≠ [] ∧ (∀ c ∈ piece, c ∉ delimiters) ∧
    (∀ c, before.getLast? = some c → c ∈ delimiters) ∧
    ∀ c, after.head? = some c → c ∈ delimiters

/-- A text without delimiters is one piece, unless it is empty. -/
theorem pieces_of_free {text : List Char} (h : ∀ c ∈ text, c ∉ delimiters) :
    pieces text = if text.isEmpty then [] else [text] := by
  unfold pieces
  rw [List.splitOnP_eq_singleton fun c hc => isDelimiter_eq_false.mpr (h c hc)]
  cases text <;> rfl

/-- A delimiter parts the pieces before it from those behind it. -/
theorem pieces_join (a b : List Char) {d : Char} (hd : d ∈ delimiters) :
    pieces (a ++ d :: b) = pieces a ++ pieces b := by
  unfold pieces
  rw [List.splitOnP_append_cons a b (isDelimiter_iff.mpr hd), List.filter_append]

/-- **Splitting**: the reader finds the pieces.  The piece in its hands is the beginning of what it
    still has to split. -/
theorem piecesFrom_eq {piece : List Char} (hpiece : ∀ c ∈ piece, c ∉ delimiters)
    (done : List (List Char)) (text : List Char) :
    piecesFrom piece done text = done.reverse ++ pieces (piece.reverse ++ text) := by
  have hfree : ∀ {piece : List Char}, (∀ c ∈ piece, c ∉ delimiters) →
      ∀ c ∈ piece.reverse, c ∉ delimiters := fun h c hc => h c (List.mem_reverse.mp hc)
  induction text generalizing piece done with
  | nil =>
    rw [piecesFrom, List.append_nil, pieces_of_free (hfree hpiece), List.isEmpty_reverse]
    cases piece.isEmpty <;> simp
  | cons c text ih =>
    rw [piecesFrom]
    split
    · -- the piece ends here, unless it has not begun
      rename_i hc
      have hd : c ∈ delimiters := isDelimiter_iff.mp hc
      rw [ih (List.forall_mem_nil _), pieces_join _ _ hd, pieces_of_free (hfree hpiece),
        List.isEmpty_reverse]
      cases piece.isEmpty <;> simp
    · rename_i hc
      have hd : c ∉ delimiters := isDelimiter_eq_false.mp (Bool.not_eq_true _ ▸ hc)
      rw [ih fun x hx => (List.mem_cons.mp hx).elim (fun h => h ▸ hd) (hpiece x)]
      simp

/-- What is a piece before a delimiter is one of the whole text. -/
theorem IsPiece.before {a piece : List Char} (h : IsPiece a piece) {d : Char}
    (hd : d ∈ delimiters) (b : List Char) : IsPiece (a ++ d :: b) piece := by
  obtain ⟨before, after, rfl, hne, hfree, hbefore, hafter⟩ := h
  refine ⟨before, after ++ d :: b, by simp, hne, hfree, hbefore, fun c hc => ?_⟩
  cases after with
  | nil =>
    cases hc
    exact hd
  | cons x after => exact hafter c hc

/-- So is what is a piece behind it. -/
theorem IsPiece.behind {b piece : List Char} (h : IsPiece b piece) {d : Char}
    (hd : d ∈ delimiters) (a : List Char) : IsPiece (a ++ d :: b) piece := by
  obtain ⟨before, after, rfl, hne, hfree, hbefore, hafter⟩ := h
  refine ⟨a ++ d :: before, after, by simp, hne, hfree, fun c hc => ?_, hafter⟩
  rw [List.getLast?_append, List.getLast?_cons, Option.some_or] at hc
  cases hlast : before.getLast? with
  | none =>
    rw [hlast] at hc
    cases hc
    exact hd
  | some x =>
    rw [hlast] at hc
    cases hc
    exact hbefore x hlast

/-- **Pieces** are the longest stretches without delimiters. -/
theorem mem_pieces_iff {text piece : List Char} : piece ∈ pieces text ↔ IsPiece text piece := by
  constructor
  · intro h
    induction hlength : text.length using Nat.strongRecOn generalizing text with
    | ind n ih =>
      by_cases hfree : ∀ c ∈ text, c ∉ delimiters
      · rw [pieces_of_free hfree] at h
        split at h
        · nomatch h
        · rename_i hne
          obtain rfl : piece = text := List.mem_singleton.mp h
          exact ⟨[], [], by simp, by simpa using hne, hfree, by simp, by simp⟩
      · -- both sides of a delimiter are shorter
        simp only [not_forall, not_not] at hfree
        obtain ⟨d, hmem, hd⟩ := hfree
        obtain ⟨a, b, rfl⟩ := List.append_of_mem hmem
        rw [pieces_join a b hd, List.mem_append] at h
        rw [List.length_append, List.length_cons] at hlength
        rcases h with h | h
        · exact (ih _ (by omega) h rfl).before hd b
        · exact (ih _ (by omega) h rfl).behind hd a
  · -- the delimiters on both sides, where there are any, part the stretch from the rest
    rintro ⟨before, after, rfl, hne, hfree, hbefore, hafter⟩
    have hself : pieces piece = [piece] := by
      rw [pieces_of_free hfree, if_neg (by simpa using hne)]
    have hfirst : piece ∈ pieces (piece ++ after) := by
      cases after with
      | nil =>
        rw [List.append_nil, hself]
        exact List.mem_singleton_self piece
      | cons d after =>
        rw [pieces_join piece after (hafter d rfl), hself]
        exact List.mem_append_left _ (List.mem_singleton_self piece)
    rw [List.append_assoc]
    rcases List.eq_nil_or_concat before with rfl | ⟨front, d, rfl⟩
    · exact hfirst
    · rw [List.concat_append, pieces_join front _ (hbefore d (by simp))]
      exact List.mem_append_right _ hfirst

/-! ## Bytes -/

/-- The piece is two hexadecimal digits, maybe behind a mark, and their value is the byte. -/
def StandsForByte (piece : List Char) (b : UInt8) : Prop :=
  ∃ mark digits, (mark = [] ∨ mark = ['0', 'x'] ∨ mark = ['0', 'X']) ∧ piece = mark ++ digits ∧
    digits.length = 2 ∧ Numeral 16 digits b.toNat

/-- Two digits make the byte that they are a numeral of. -/
theorem byteOfDigits?_eq_some {high low : Char} {b : UInt8} :
    byteOfDigits? high low = some b ↔ Numeral 16 [high, low] b.toNat := by
  rw [← readHex_eq_some]
  cases hhigh : hexDigit? high with
  | none => simp [byteOfDigits?, readHex, readNumeral, extendNumeral, hhigh]
  | some h =>
    cases hlow : hexDigit? low with
    | none => simp [byteOfDigits?, readHex, readNumeral, extendNumeral, hhigh, hlow]
    | some l =>
      have hh : h < 16 := (hexDigit?_eq_some.mp hhigh).1
      have hl : l < 16 := (hexDigit?_eq_some.mp hlow).1
      have hbyte : 16 * h + l < 256 := by omega
      have hvalue : (UInt8.ofNat (16 * h + l)).toNat = 16 * h + l :=
        UInt8.toNat_ofNat_of_lt' hbyte
      have hread : readHex [high, low] = some (16 * h + l) := by
        simp [readHex, readNumeral, extendNumeral, hhigh, hlow, Nat.mul_comm]
      simp only [byteOfDigits?, hhigh, hlow]
      rw [hread, Option.some.injEq, Option.some.injEq, ← UInt8.toNat_inj, hvalue]

/-- **Bytes**: a piece is read exactly if it stands for a byte, and then as this byte. -/
theorem pieceByte?_eq_some {piece : List Char} {b : UInt8} :
    pieceByte? piece = some b ↔ StandsForByte piece b := by
  constructor
  · intro h
    unfold pieceByte? at h
    split at h
    · exact ⟨[], _, .inl rfl, rfl, rfl, byteOfDigits?_eq_some.mp h⟩
    · split at h
      · rename_i hmark
        rcases hmark with rfl | rfl
        · exact ⟨_, _, .inr (.inl rfl), rfl, rfl, byteOfDigits?_eq_some.mp h⟩
        · exact ⟨_, _, .inr (.inr rfl), rfl, rfl, byteOfDigits?_eq_some.mp h⟩
      · nomatch h
    · nomatch h
  · rintro ⟨mark, digits, hmark, rfl, hlength, hvalue⟩
    obtain ⟨high, low, rfl⟩ := List.length_eq_two.mp hlength
    have hbyte : byteOfDigits? high low = some b := byteOfDigits?_eq_some.mpr hvalue
    rcases hmark with rfl | rfl | rfl
    · exact hbyte
    · exact hbyte
    · exact hbyte

/-! ## Payloads -/

theorem mapM_eq_some {α β : Type} {f : α → Option β} {as : List α} {bs : List β} :
    as.mapM f = some bs ↔ List.Forall₂ (fun a b => f a = some b) as bs := by
  induction as generalizing bs with
  | nil => simp [eq_comm]
  | cons a as ih =>
    simp only [List.mapM_cons, Option.bind_eq_bind, Option.bind_eq_some_iff, Option.pure_def,
      Option.some.injEq, ih, List.forall₂_cons_left_iff, exists_and_left, eq_comm (b := bs)]

/-- **Reading**: the bytes of a text are what its pieces stand for, one for one. -/
theorem readPayload_eq_some {text : String} {bytes : List UInt8} :
    readPayload text = some bytes ↔ List.Forall₂ StandsForByte (pieces text.toList) bytes := by
  unfold readPayload
  rw [piecesFrom_eq (List.forall_mem_nil _), mapM_eq_some]
  simp only [pieceByte?_eq_some]
  rfl

/-- The bytes of two texts with a delimiter between them are those of the one and those of the
    other. -/
theorem readPayload_join (a b : String) {d : Char} (hd : d ∈ delimiters) {bytes : List UInt8} :
    readPayload (a ++ String.singleton d ++ b) = some bytes ↔
      ∃ front back, readPayload a = some front ∧ readPayload b = some back ∧
        bytes = front ++ back := by
  have hpieces : pieces (a ++ String.singleton d ++ b).toList =
      pieces a.toList ++ pieces b.toList := by
    rw [String.toList_append, String.toList_append, String.toList_singleton, List.append_assoc,
      List.singleton_append, pieces_join _ _ hd]
  simp only [readPayload_eq_some, hpieces]
  constructor
  · exact exists_append_of_forall₂
  · rintro ⟨front, back, hfront, hback, rfl⟩
    exact List.rel_append hfront hback

/-- There are values for all elements of a list if each has one. -/
theorem exists_forall₂_iff {α β : Type} {r : α → β → Prop} {as : List α} :
    (∃ bs, List.Forall₂ r as bs) ↔ ∀ a ∈ as, ∃ b, r a b := by
  induction as with
  | nil => simp
  | cons a as ih => simp [List.forall₂_cons_left_iff, ← ih]

/-- **Payloads are read exactly.**  A text is read as a payload exactly if each of its pieces, which
    are the longest stretches without delimiters, is two hexadecimal digits, maybe behind a mark;
    and then as the values of its pieces in order.  So two texts with a delimiter between them are
    read exactly if both are, as the bytes of the one and those of the other, and what is written of
    bytes is read as these bytes. -/
theorem readPayload_exact {d : Char} (hd : d ∈ delimiters) (a b text : String) :
    ((∃ bytes, readPayload text = some bytes) ↔
      ∀ piece, IsPiece text.toList piece → ∃ byte, StandsForByte piece byte) ∧
    (∀ piece, piece ∈ pieces text.toList ↔ IsPiece text.toList piece) ∧
    (∀ bytes, readPayload text = some bytes ↔
      List.Forall₂ StandsForByte (pieces text.toList) bytes) ∧
    (∀ bytes, readPayload (a ++ String.singleton d ++ b) = some bytes ↔
      ∃ front back, readPayload a = some front ∧ readPayload b = some back ∧
        bytes = front ++ back) ∧
    ∀ bytes, readPayload (writePayload bytes) = some bytes := by
  refine ⟨?_, fun _ => mem_pieces_iff, fun _ => readPayload_eq_some,
    fun _ => readPayload_join a b hd, readPayload_writePayload⟩
  simp only [readPayload_eq_some, exists_forall₂_iff, mem_pieces_iff]

/-- A comma between a marked byte and pieces with other delimiters around them. -/
theorem readPayload_commaBetween : ',' ∈ delimiters ∧
    readPayload ("0x0A" ++ String.singleton ',' ++ " 0X0b-\n00.") = some [0x0A, 0x0B, 0x00] ∧
    (∀ piece, IsPiece " 0X0b-\n00.".toList piece → ∃ byte, StandsForByte piece byte) := by
  have hcomma : ',' ∈ delimiters := by decide
  have hback : readPayload " 0X0b-\n00." = some [0x0B, 0x00] := by decide
  obtain ⟨hpieces, -, -, hjoin, -⟩ := readPayload_exact hcomma "0x0A" " 0X0b-\n00." " 0X0b-\n00."
  exact ⟨hcomma, (hjoin _).mpr ⟨[0x0A], [0x0B, 0x00], by decide, hback, rfl⟩,
    hpieces.mp ⟨_, hback⟩⟩

end MediaNetwork

/-
  Literals read back.

  What is written of a number, of a run of bytes or of a keyword is read as the same value:

  1. numerals — the digits of `n` continue any numeral by `n` (`extendNumeral_toDigits`, by the
     recursion of `Nat.toDigits`), zeros in front do not count, and none of these characters is
     white space, so decimal and hexadecimal literals read back (`readInteger_decimal`,
     `readInteger_hexUpper`);
  2. payloads — two digits and a space for each byte (`readPayload_writePayload`);
  3. keywords — the name of a value of a table stands for that value.
-/
import MediaNetwork.Print

namespace MediaNetwork

namespace Text

/-! ## Numerals -/

/-- A numeral in two parts is read from the value of the first. -/
theorem extendNumeral_append (digit? : Char → Option Nat) (base n : Nat) (cs more : List Char) :
    extendNumeral digit? base n (cs ++ more) =
      (extendNumeral digit? base n cs).bind fun m => extendNumeral digit? base m more := by
  induction cs generalizing n with
  | nil => rfl
  | cons c cs ih =>
    rw [List.cons_append, extendNumeral, extendNumeral]
    cases digit? c with
    | none => rfl
    | some d => exact ih _

section Digits

variable {digit? : Char → Option Nat} {base : Nat} {write : Char → Char} (hbase : 1 < base)
  (hdigit : ∀ d < base, digit? (write (Nat.digitChar d)) = some d)

include hbase hdigit

/-- The digits of a number are valued as the number. -/
theorem extendNumeral_toDigits (n : Nat) :
    extendNumeral digit? base 0 ((Nat.toDigits base n).map write) = some n := by
  induction n using Nat.strongRecOn with
  | ind n ih =>
    rcases Nat.lt_or_ge n base with hlt | hge
    · rw [Nat.toDigits_of_lt_base hlt]
      simp [extendNumeral, hdigit n hlt]
    · have hdiv : n / base < n := Nat.div_lt_self (by omega) hbase
      have hmod : n % base < base := Nat.mod_lt n (by omega)
      rw [Nat.toDigits_of_base_le hbase hge, List.map_append, extendNumeral_append, ih _ hdiv]
      show extendNumeral digit? base (n / base) [write (Nat.digitChar (n % base))] = some n
      simp only [extendNumeral, hdigit _ hmod]
      rw [Nat.mul_comm, Nat.div_add_mod]

/-- Zeros in front of a numeral do not count. -/
theorem extendNumeral_padded (width n : Nat) :
    extendNumeral digit? base 0 ((padLeft width (Nat.toDigits base n)).map write) = some n := by
  have hzeros : ∀ k, extendNumeral digit? base 0 ((List.replicate k '0').map write) = some 0 := by
    intro k
    induction k with
    | zero => rfl
    | succ k ih =>
      have hzero : digit? (write '0') = some 0 := hdigit 0 (by omega)
      rw [List.replicate_succ, List.map_cons, extendNumeral, hzero]
      simpa using ih
  rw [padLeft, List.map_append, extendNumeral_append, hzeros]
  exact extendNumeral_toDigits hbase hdigit n

end Digits

/-- A decimal digit stands for what it is written for. -/
theorem decimalDigit?_digitChar (d : Nat) (hd : d < 10) :
    decimalDigit? (Nat.digitChar d) = some d := by
  revert d
  decide

/-- A hexadecimal digit, in upper case, stands for what it is written for. -/
theorem hexDigit?_digitChar (d : Nat) (hd : d < 16) :
    hexDigit? (Nat.digitChar d).toUpper = some d := by
  revert d
  decide

/-- **Decimal numerals** are read back. -/
theorem readDecimal_toDigits (n : Nat) : readDecimal (Nat.toDigits 10 n) = some n := by
  have hvalue : extendNumeral decimalDigit? 10 0 ((Nat.toDigits 10 n).map id) = some n :=
    extendNumeral_toDigits (by decide) decimalDigit?_digitChar n
  rw [List.map_id] at hvalue
  unfold readDecimal readNumeral
  rw [if_neg (by simp [Nat.toDigits_ne_nil])]
  exact hvalue

/-- **Hexadecimal numerals** are read back, whatever they are padded to. -/
theorem readHex_hexUpper (width n : Nat) : readHex (hexUpper width n).toList = some n := by
  have hne : (padLeft width (Nat.toDigits 16 n)).map Char.toUpper ≠ [] := by
    simp [padLeft, Nat.toDigits_ne_nil]
  unfold readHex readNumeral hexUpper
  rw [String.toList_ofList, if_neg (by simpa using hne)]
  exact extendNumeral_padded (by decide) hexDigit?_digitChar width n

/-! ## Trimming -/

/-- A text without white space is its own trimmed text. -/
theorem trim_of_forall {cs : List Char} (h : ∀ c ∈ cs, isSpace c = false) : trim cs = cs := by
  have hdrop : ∀ ds : List Char, (∀ c ∈ ds, isSpace c = false) → ds.dropWhile isSpace = ds := by
    intro ds hds
    cases ds with
    | nil => rfl
    | cons d ds =>
      rw [List.dropWhile_cons_of_neg]
      simp [hds d List.mem_cons_self]
  unfold trim dropEndWhile
  rw [hdrop cs h, hdrop cs.reverse fun c hc => h c (List.mem_reverse.mp hc), List.reverse_reverse]

/-- Nothing but digits is written of a number. -/
theorem exists_digit_of_mem {base n : Nat} (hbase : 1 < base) {c : Char}
    (hc : c ∈ Nat.toDigits base n) : ∃ d < base, c = Nat.digitChar d := by
  induction n using Nat.strongRecOn with
  | ind n ih =>
    rcases Nat.lt_or_ge n base with hlt | hge
    · rw [Nat.toDigits_of_lt_base hlt] at hc
      exact ⟨n, hlt, List.mem_singleton.mp hc⟩
    · rw [Nat.toDigits_of_base_le hbase hge, List.mem_append] at hc
      rcases hc with hc | hc
      · exact ih _ (Nat.div_lt_self (by omega) hbase) hc
      · exact ⟨n % base, Nat.mod_lt n (by omega), List.mem_singleton.mp hc⟩

/-- No digit is a space. -/
theorem isSpace_digitChar (d : Nat) (hd : d < 16) :
    isSpace (Nat.digitChar d) = false ∧ isSpace (Nat.digitChar d).toUpper = false := by
  revert d
  decide

theorem isSpace_of_mem_hexUpper {width n : Nat} {c : Char} (hc : c ∈ (hexUpper width n).toList) :
    isSpace c = false := by
  rw [hexUpper, String.toList_ofList, List.mem_map] at hc
  obtain ⟨x, hx, rfl⟩ := hc
  rcases List.mem_append.mp hx with hx | hx
  · rw [List.eq_of_mem_replicate hx]
    decide
  · obtain ⟨d, hd, rfl⟩ := exists_digit_of_mem (by decide) hx
    exact (isSpace_digitChar d hd).2

end Text

open Text

/-! ## Integers -/

/-- A decimal numeral is read as decimal. -/
theorem numeralValue?_decimal (n : Nat) : numeralValue? (Nat.toDigits 10 n) = some n := by
  have hx : ∀ c ∈ Nat.toDigits 10 n, c ≠ 'x' ∧ c ≠ 'X' := by
    intro c hc
    obtain ⟨d, hd, rfl⟩ := exists_digit_of_mem (by decide) hc
    clear hc
    revert d
    decide
  unfold numeralValue?
  split
  · rename_i h
    rw [h] at hx
    exact absurd rfl (hx 'x' (by simp)).1
  · rename_i h
    rw [h] at hx
    exact absurd rfl (hx 'X' (by simp)).2
  · exact readDecimal_toDigits n

/-- **Integers** within the bound are read back from decimals. -/
theorem readInteger_decimal {n max : Nat} (h : n ≤ max) : readInteger (decimal n) max = .ok n := by
  have htrim : trim (decimal n).toList = Nat.toDigits 10 n := by
    rw [decimal, String.toList_ofList]
    apply trim_of_forall
    intro c hc
    obtain ⟨d, hd, rfl⟩ := exists_digit_of_mem (by decide) hc
    exact (isSpace_digitChar d (by omega)).1
  unfold readInteger
  rw [htrim, numeralValue?_decimal]
  exact if_pos h

theorem readInteger_hexUpper (width : Nat) {n max : Nat} (h : n ≤ max) :
    readInteger ("0x" ++ hexUpper width n) max = .ok n := by
  have htext : ("0x" ++ hexUpper width n).toList = '0' :: 'x' :: (hexUpper width n).toList := by
    rw [String.toList_append]
    rfl
  have htrim : trim ('0' :: 'x' :: (hexUpper width n).toList) =
      '0' :: 'x' :: (hexUpper width n).toList := by
    apply trim_of_forall
    intro c hc
    rcases List.mem_cons.mp hc with rfl | hc
    · decide
    rcases List.mem_cons.mp hc with rfl | hc
    · decide
    exact isSpace_of_mem_hexUpper hc
  unfold readInteger
  rw [htext, htrim, numeralValue?, readHex_hexUpper]
  exact if_pos h

/-! ## Payloads -/

/-- A byte is written as the two digits of its value. -/
theorem exists_digits (b : UInt8) : ∃ high low, (byteText b).toList = [high, low] ∧
    byteOfDigits? high low = some b ∧ isDelimiter high = false ∧ isDelimiter low = false := by
  have hdelimiter : ∀ d < 16, isDelimiter (Nat.digitChar d).toUpper = false := by decide
  have hlt : b.toNat < 256 := b.toNat_lt
  have hhigh : b.toNat / 16 < 16 := by omega
  have hlow : b.toNat % 16 < 16 := by omega
  refine ⟨(Nat.digitChar (b.toNat / 16)).toUpper, (Nat.digitChar (b.toNat % 16)).toUpper, ?_, ?_,
    hdelimiter _ hhigh, hdelimiter _ hlow⟩
  · rw [byteText, hexUpper, String.toList_ofList]
    rcases Nat.lt_or_ge b.toNat 16 with hsmall | hlarge
    · have hzero : b.toNat / 16 = 0 := by omega
      have hself : b.toNat % 16 = b.toNat := by omega
      rw [Nat.toDigits_of_lt_base hsmall, hzero, hself]
      rfl
    · rw [Nat.toDigits_of_base_le (by decide) hlarge, Nat.toDigits_of_lt_base hhigh]
      rfl
  · unfold byteOfDigits?
    rw [hexDigit?_digitChar _ hhigh, hexDigit?_digitChar _ hlow]
    show some (UInt8.ofNat (16 * (b.toNat / 16) + b.toNat % 16)) = some b
    rw [Nat.div_add_mod, UInt8.ofNat_toNat]

/-- A piece of two digits is taken off the text, and the delimiter after it, if there is one. -/
theorem piecesFrom_digits {high low : Char} (done : List (List Char))
    (hhigh : isDelimiter high = false) (hlow : isDelimiter low = false) :
    piecesFrom [] done [high, low] = ([high, low] :: done).reverse ∧
      ∀ rest, piecesFrom [] done (high :: low :: ' ' :: rest) =
        piecesFrom [] ([high, low] :: done) rest := by
  have hspace : isDelimiter ' ' = true := by decide
  constructor
  · simp [piecesFrom, hhigh, hlow]
  · intro rest
    simp [piecesFrom, hhigh, hlow, hspace]

/-- The bytes of a payload, joined by spaces, fall into their pieces again. -/
theorem piecesFrom_bytes (bytes : List UInt8) (done : List (List Char)) :
    piecesFrom [] done ([' '].intercalate (bytes.map fun b => (byteText b).toList)) =
      done.reverse ++ bytes.map fun b => (byteText b).toList := by
  induction bytes generalizing done with
  | nil => simp [piecesFrom]
  | cons b bytes ih =>
    obtain ⟨high, low, htext, -, hhigh, hlow⟩ := exists_digits b
    obtain ⟨hlast, hmore⟩ := piecesFrom_digits done hhigh hlow
    cases bytes with
    | nil =>
      rw [List.map_cons, List.map_nil, List.intercalate_singleton, htext, hlast]
      simp
    | cons b' bytes =>
      rw [List.map_cons, List.map_cons, List.intercalate_cons_cons, htext]
      show piecesFrom [] done (high :: low :: ' ' :: [' '].intercalate
        (((b' :: bytes).map fun b => (byteText b).toList))) = _
      rw [hmore, ih, ← htext]
      simp

/-- **Payloads** are read back byte by byte. -/
theorem readPayload_writePayload (bytes : List UInt8) :
    readPayload (writePayload bytes) = some bytes := by
  have hpieces : (bytes.map fun b => (byteText b).toList).mapM pieceByte? = some bytes := by
    induction bytes with
    | nil => rfl
    | cons b bytes ih =>
      obtain ⟨high, low, htext, hbyte, -, -⟩ := exists_digits b
      rw [List.map_cons, List.mapM_cons, ih, htext]
      simp [pieceByte?, hbyte]
  unfold readPayload writePayload
  rw [String.toList_intercalate, List.map_map]
  show (piecesFrom [] [] ([' '].intercalate (bytes.map fun b => (byteText b).toList))).mapM
    pieceByte? = some bytes
  rw [piecesFrom_bytes]
  exact hpieces

/-! ## Keywords -/

/-- Every value of the table has a name, and the name stands for it. -/
def Keywords.ReadsBack {α : Type} [BEq α] (table : Keywords α) : Prop :=
  ∀ value, table.value? (table.name value) = some value

/-- The clock configurations of a MediaLB port are read back; so are the keywords of the other
    tables below. -/
theorem readsBack_mlbClock : MlbClock.keywords.ReadsBack := by
  intro value
  cases value <;> rfl

theorem readsBack_physicalLayer : UsbPhysicalLayer.keywords.ReadsBack := by
  intro value
  cases value <;> rfl

theorem readsBack_streamClock : StreamClock.keywords.ReadsBack := by
  intro value
  cases value <;> rfl

theorem readsBack_alignment : DataAlignment.keywords.ReadsBack := by
  intro value
  cases value <;> rfl

theorem readsBack_streamPin : StreamPin.keywords.ReadsBack := by
  intro value
  cases value <;> rfl

theorem readsBack_muteMode : MuteMode.keywords.ReadsBack := by
  intro value
  cases value <;> rfl

theorem readsBack_packetSize : IsocPacketSize.keywords.ReadsBack := by
  intro value
  cases value <;> rfl

theorem readsBack_resolution : AlsaResolution.keywords.ReadsBack := by
  intro value
  cases value <;> rfl

end MediaNetwork

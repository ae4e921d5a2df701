/-
  Attributes read back.

  An attribute that is written for a value is read as that value; one that is left out is read as
  absent.  The lemmas go from what `attribute?` finds to what each typed reader gives, so that the
  readers of whole elements need only look their attributes up.
-/
import MediaNetwork.Markup.Access
import MediaNetwork.Proofs.Outcome
import MediaNetwork.Proofs.Text.Literals

namespace MediaNetwork.Markup.Element

open MediaNetwork.Text MediaNetwork.Outcome

variable {e : Element} {key : String}

/-! ## Texts -/

/-- A text is read as it stands in the attribute. -/
theorem text_eq_ok {value : String} :
    e.text key = .ok value ↔ e.attribute? key = some value := by
  rw [text, demand_eq_ok, Except.ok.injEq]

/-! ## Integers -/

/-- A number is read from an attribute that holds a numeral of it. -/
theorem integer?_of_some {raw : String} {n max : Nat} (h : e.attribute? key = some raw)
    (hraw : readInteger raw max = .ok n) : e.integer? key max = .ok (some n) := by
  rw [integer?, h]
  simp only [hraw]

/-- No attribute, no number. -/
theorem integer?_of_none {max : Nat} (h : e.attribute? key = none) :
    e.integer? key max = .ok none := by
  rw [integer?, h]

/-- Words and bytes are read back from either form of a numeral, whether they are optional or
    not. -/
theorem word?_decimal {n : UInt16} (h : e.attribute? key = some (decimalWord n)) :
    e.word? key = .ok (some n) := by
  have hmax : n.toNat ≤ 65535 := Nat.le_of_lt_succ n.toNat_lt
  rw [word?, integer?_of_some h (readInteger_decimal hmax), map_ok, Option.map_some,
    UInt16.ofNat_toNat]

theorem word?_hex {n : UInt16} (h : e.attribute? key = some (hexWord n)) :
    e.word? key = .ok (some n) := by
  have hmax : n.toNat ≤ 65535 := Nat.le_of_lt_succ n.toNat_lt
  rw [word?, integer?_of_some h (readInteger_hexUpper 4 hmax), map_ok, Option.map_some,
    UInt16.ofNat_toNat]

theorem byte?_decimal {n : UInt8} (h : e.attribute? key = some (decimalByte n)) :
    e.byte? key = .ok (some n) := by
  have hmax : n.toNat ≤ 255 := Nat.le_of_lt_succ n.toNat_lt
  rw [byte?, integer?_of_some h (readInteger_decimal hmax), map_ok, Option.map_some,
    UInt8.ofNat_toNat]

theorem byte?_hex {n : UInt8} (h : e.attribute? key = some (hexByte n)) :
    e.byte? key = .ok (some n) := by
  have hmax : n.toNat ≤ 255 := Nat.le_of_lt_succ n.toNat_lt
  rw [byte?, integer?_of_some h (readInteger_hexUpper 2 hmax), map_ok, Option.map_some,
    UInt8.ofNat_toNat]

theorem word?_of_none (h : e.attribute? key = none) : e.word? key = .ok none := by
  rw [word?, integer?_of_none h]
  rfl

theorem word_decimal {n : UInt16} (h : e.attribute? key = some (decimalWord n)) :
    e.word key = .ok n := by
  rw [word, word?_decimal h]
  rfl

theorem word_hex {n : UInt16} (h : e.attribute? key = some (hexWord n)) :
    e.word key = .ok n := by
  rw [word, word?_hex h]
  rfl

theorem byte_decimal {n : UInt8} (h : e.attribute? key = some (decimalByte n)) :
    e.byte key = .ok n := by
  rw [byte, byte?_decimal h]
  rfl

theorem byte_hex {n : UInt8} (h : e.attribute? key = some (hexByte n)) :
    e.byte key = .ok n := by
  rw [byte, byte?_hex h]
  rfl

/-- An optional integer of 16 bits, in decimal. -/
theorem word?_decimal_map {n : Option UInt16}
    (h : e.attribute? key = n.map decimalWord) : e.word? key = .ok n := by
  cases n with
  | none => exact word?_of_none h
  | some n => exact word?_decimal h

/-- An optional integer of 16 bits, in hexadecimal. -/
theorem word?_hex_map {n : Option UInt16} (h : e.attribute? key = n.map hexWord) :
    e.word? key = .ok n := by
  cases n with
  | none => exact word?_of_none h
  | some n => exact word?_hex h

/-! ## Keywords and payloads -/

/-- A value that has a keyword is read back from it. -/
theorem keyword?_name {α : Type} [BEq α] {table : Keywords α} (ht : table.ReadsBack) {value : α}
    (h : e.attribute? key = some (table.name value)) :
    e.keyword? key table = .ok (some value) := by
  rw [keyword?, h]
  simp only [ht value]

theorem keyword_name {α : Type} [BEq α] {table : Keywords α} (ht : table.ReadsBack) {value : α}
    (h : e.attribute? key = some (table.name value)) : e.keyword key table = .ok value := by
  rw [keyword, keyword?_name ht h]
  rfl

/-- A flag that is written if it is off. -/
theorem flag?_written {flag : Bool}
    (h : e.attribute? key = if flag then none else some "false") :
    ∃ f, e.flag? key = .ok f ∧ f.getD true = flag := by
  cases flag with
  | true => exact ⟨none, by rw [flag?, keyword?, h]; rfl, rfl⟩
  | false => exact ⟨some false, by rw [flag?, keyword?, h]; rfl, rfl⟩

/-- A payload that is written if it is not empty. -/
theorem payload?_written {bytes : List UInt8}
    (h : e.attribute? key = if bytes.isEmpty then none else some (writePayload bytes)) :
    ∃ p, e.payload? key = .ok p ∧ p.getD [] = bytes := by
  rw [payload?, h]
  cases bytes with
  | nil => exact ⟨none, rfl, rfl⟩
  | cons b bytes =>
    refine ⟨some (b :: bytes), ?_, rfl⟩
    simp only [List.isEmpty_cons, Bool.false_eq_true, if_false, readPayload_writePayload]

/-! ## Looking up -/

/-- An attribute is looked up in the attributes that are known. -/
theorem attribute?_of {attributes : List (String × String)} {value : Option String}
    (h : e.attributes = attributes) (hvalue : attributes.lookup key = value) :
    e.attribute? key = value := by
  rw [attribute?, h, hvalue]

/-- An optional attribute is found under its key, if it is there. -/
theorem lookup_optional (key' : String) (value : Option String) :
    (optional key value).lookup key' = if key' = key then value else none := by
  cases value with
  | none => simp [optional]
  | some v =>
    by_cases h : key' = key
    · simp [optional, h]
    · simp [optional, h, List.lookup_cons, beq_eq_false_iff_ne.mpr h]

end MediaNetwork.Markup.Element

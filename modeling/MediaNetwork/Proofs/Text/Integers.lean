/-
  Integers of a width.

  Numbers are read without a bound and compared with their largest value at the end.  A machine has
  words of 64 bits, and attributes have bytes and words of 16 bits.

  1. Words of 64 bits — the digits of a literal may as well be added up in such words, where every
     step can overflow (`extendWord_spec`).  A partial value never exceeds the value, so the steps
     overflow only if no word holds the value, and then it exceeds every largest value a word can
     hold (`readInWords_eq`).
  2. Attributes — reading a byte or a word gives the number itself (`byte?_eq_ok`, `word?_eq_ok`):
     what does not fit was refused before it is cut to its width.
-/
import MediaNetwork.Markup.Access
import MediaNetwork.Proofs.Outcome
import MediaNetwork.Proofs.Text.Numerals

namespace MediaNetwork

open MediaNetwork.Markup MediaNetwork.Outcome MediaNetwork.Text

/-! ## Words of 64 bits -/

/-- The product of two words, if a word holds it. -/
def checkedMul (a b : UInt64) : Option UInt64 :=
  if a.toNat * b.toNat < 2 ^ 64 then some (a * b) else none

/-- The sum of two words, if a word holds it. -/
def checkedAdd (a b : UInt64) : Option UInt64 :=
  if a.toNat + b.toNat < 2 ^ 64 then some (a + b) else none

/-- A numeral of value `n` goes on by the digit `d`. -/
def stepWord (base n : UInt64) (d : Nat) : Option UInt64 :=
  (checkedMul n base).bind fun product => checkedAdd product (UInt64.ofNat d)

/-- Why digits have no value in a word. -/
inductive WordFault
  | noDigit | overflow
  deriving DecidableEq, Repr

/-- Continues a numeral of value `n` by the digits `cs`, in words.  Every step is checked. -/
def extendWord (digit? : Char → Option Nat) (base n : UInt64) :
    List Char → Except WordFault UInt64
  | [] => .ok n
  | c :: cs =>
    match digit? c with
    | none => .error .noDigit
    | some d =>
      match stepWord base n d with
      | none => .error .overflow
      | some m => extendWord digit? base m cs

/-- How the digits of a literal are read. -/
inductive Radix
  | decimal | hex

/-- The value of a digit. -/
def Radix.digit? : Radix → Char → Option Nat
  | decimal => decimalDigit?
  | hex => hexDigit?

/-- The number of digits there are. -/
def Radix.base : Radix → UInt64
  | decimal => 10
  | hex => 16

/-- Takes the mark off a literal. -/
def withoutMark : List Char → Radix × List Char
  | '0' :: 'x' :: digits => (.hex, digits)
  | '0' :: 'X' :: digits => (.hex, digits)
  | digits => (.decimal, digits)

/-- Whether the digits of a literal are digits, and one at least. -/
def hasForm (r : Radix) (digits : List Char) : Bool :=
  !digits.isEmpty && digits.all fun c => (r.digit? c).isSome

/-- The integer a literal stands for, found in words: the form is looked at first, then the digits
    are added up, and what has come out is compared with the largest value. -/
def readInWords (literal : String) (max : UInt64) : Except LiteralFault UInt64 :=
  let (r, digits) := withoutMark (trim literal.toList)
  if hasForm r digits then
    match extendWord r.digit? r.base 0 digits with
    | .error .overflow => .error .outOfRange
    | .error .noDigit => .error .malformed
    | .ok n => if max < n then .error .outOfRange else .ok n
  else .error .malformed

/-- One step in words gives what the step gives in numbers, or overflows because no word holds
    it. -/
theorem stepWord_spec (base n : UInt64) {d : Nat} (hd : d < 2 ^ 64) :
    (∃ m, stepWord base n d = some m ∧ m.toNat = n.toNat * base.toNat + d) ∨
      (stepWord base n d = none ∧ 2 ^ 64 ≤ n.toNat * base.toNat + d) := by
  have hdigit : (UInt64.ofNat d).toNat = d := UInt64.toNat_ofNat_of_lt' hd
  unfold stepWord checkedMul
  by_cases hmul : n.toNat * base.toNat < 2 ^ 64
  · have hproduct : (n * base).toNat = n.toNat * base.toNat := by
      rw [UInt64.toNat_mul, Nat.mod_eq_of_lt hmul]
    rw [if_pos hmul, Option.bind_some]
    unfold checkedAdd
    rw [hproduct, hdigit]
    by_cases hadd : n.toNat * base.toNat + d < 2 ^ 64
    · refine Or.inl ⟨_, if_pos hadd, ?_⟩
      rw [UInt64.toNat_add, hproduct, hdigit, Nat.mod_eq_of_lt hadd]
    · exact Or.inr ⟨if_neg hadd, Nat.le_of_not_lt hadd⟩
  · rw [if_neg hmul]
    refine Or.inr ⟨rfl, ?_⟩
    omega

/-- More digits make no numeral smaller. -/
theorem le_of_extendNumeral {digit? : Char → Option Nat} {base : Nat} (hbase : 0 < base)
    {n m : Nat} {cs : List Char} (h : extendNumeral digit? base n cs = some m) : n ≤ m := by
  obtain ⟨digits, -, rfl⟩ := extendNumeral_eq_some.mp h
  have hpow : 0 < base ^ digits.length := Nat.pow_pos hbase
  calc n ≤ n * base ^ digits.length := Nat.le_mul_of_pos_right n hpow
    _ ≤ _ := Nat.le_add_right _ _

/-- **Words**: adding digits up in words gives the value of the numeral, if a word holds it, and
    overflows if none does.  The induction is over the digits. -/
theorem extendWord_spec {digit? : Char → Option Nat} {base : UInt64} (hbase : 0 < base.toNat)
    (hdigit : ∀ c d, digit? c = some d → d < 2 ^ 64) {cs : List Char} {n : UInt64} {m : Nat}
    (h : extendNumeral digit? base.toNat n.toNat cs = some m) :
    (m < 2 ^ 64 → ∃ w, extendWord digit? base n cs = .ok w ∧ w.toNat = m) ∧
      (2 ^ 64 ≤ m → extendWord digit? base n cs = .error .overflow) := by
  induction cs generalizing n with
  | nil =>
    cases h
    exact ⟨fun _ => ⟨n, rfl, rfl⟩, fun hm => absurd n.toNat_lt (Nat.not_lt_of_le hm)⟩
  | cons c cs ih =>
    unfold extendNumeral at h
    unfold extendWord
    split at h
    · rename_i d hd
      simp only [hd]
      rcases stepWord_spec base n (hdigit c d hd) with ⟨next, hnext, hvalue⟩ | ⟨hnext, hlarge⟩
      · rw [← hvalue] at h
        simp only [hnext]
        exact ih h
      · -- the value only grows from here, so no word holds it
        have hle := le_of_extendNumeral hbase h
        simp only [hnext]
        refine ⟨fun hm => ?_, fun _ => trivial⟩
        omega
    · nomatch h

theorem extendNumeral_isSome {digit? : Char → Option Nat} {base n : Nat} {cs : List Char} :
    (extendNumeral digit? base n cs).isSome = cs.all fun c => (digit? c).isSome := by
  induction cs generalizing n with
  | nil => simp [extendNumeral]
  | cons c cs ih =>
    unfold extendNumeral
    rw [List.all_cons]
    cases digit? c with
    | none => rfl
    | some d =>
      rw [Option.isSome_some, Bool.true_and]
      exact ih

theorem numeralValue?_eq (cs : List Char) : numeralValue? cs =
    readNumeral (withoutMark cs).1.digit? (withoutMark cs).1.base.toNat (withoutMark cs).2 := by
  unfold numeralValue?
  split
  · rfl
  · rfl
  · rename_i hx hX
    have hmark : withoutMark cs = (.decimal, cs) := by
      unfold withoutMark
      split
      · exact absurd rfl (hx _)
      · exact absurd rfl (hX _)
      · rfl
    rw [hmark]
    rfl

/-- A literal has the form of one exactly if it has a value. -/
theorem hasForm_eq (r : Radix) (digits : List Char) :
    hasForm r digits = (readNumeral r.digit? r.base.toNat digits).isSome := by
  unfold hasForm readNumeral
  cases digits with
  | nil => rfl
  | cons c digits => exact extendNumeral_isSome.symm

theorem Radix.digit?_lt (r : Radix) {c : Char} {d : Nat} (h : r.digit? c = some d) :
    d < 2 ^ 64 := by
  have hsmall : d < 16 := by
    cases r with
    | decimal => exact Nat.lt_of_lt_of_le (decimalDigit?_eq_some.mp h).1 (by decide)
    | hex => exact (hexDigit?_eq_some.mp h).1
  omega

theorem Radix.base_pos (r : Radix) : 0 < r.base.toNat := by
  cases r <;> decide

/-- **Words are enough**: reading in words gives what reading gives, for literals of any length. -/
theorem readInWords_eq (literal : String) (max : UInt64) :
    (readInWords literal max).map UInt64.toNat = readInteger literal max.toNat := by
  unfold readInWords readInteger
  rw [numeralValue?_eq]
  generalize withoutMark (trim literal.toList) = parts
  obtain ⟨r, digits⟩ := parts
  simp only [hasForm_eq]
  cases hvalue : readNumeral r.digit? r.base.toNat digits with
  | none => rfl
  | some m =>
    have hextend : extendNumeral r.digit? r.base.toNat (0 : UInt64).toNat digits = some m := by
      unfold readNumeral at hvalue
      split at hvalue
      · nomatch hvalue
      · exact hvalue
    obtain ⟨hsmall, hlarge⟩ := extendWord_spec r.base_pos (fun _ _ => r.digit?_lt) hextend
    simp only [Option.isSome_some, if_true]
    -- a value that fits a word is compared in words, any other is over the bound anyway
    rcases Nat.lt_or_ge m (2 ^ 64) with hm | hm
    · obtain ⟨w, hw, rfl⟩ := hsmall hm
      simp only [hw, UInt64.lt_iff_toNat_lt]
      by_cases hle : w.toNat ≤ max.toNat
      · rw [if_neg (Nat.not_lt_of_le hle), if_pos hle, map_ok]
      · rw [if_pos (Nat.lt_of_not_le hle), if_neg hle, map_error]
    · have hmax : ¬ m ≤ max.toNat := Nat.not_le_of_lt (Nat.lt_of_lt_of_le max.toNat_lt hm)
      simp only [hlarge hm]
      rw [if_neg hmax, map_error]

/-! ## Attributes -/

namespace Markup.Element

variable {e : Element} {key : String}

theorem integer?_eq_ok {max n : Nat} : e.integer? key max = .ok (some n) ↔
    ∃ literal, e.attribute? key = some literal ∧ StandsFor literal n ∧ n ≤ max := by
  unfold integer?
  cases hattribute : e.attribute? key with
  | none => simp
  | some literal =>
    obtain ⟨-, hok, -⟩ := readInteger_cases literal max
    simp only [Option.some.injEq, exists_eq_left', ← hok]
    split
    · rename_i hread
      simp [hread]
    · rename_i hread
      simp [hread]
    · rename_i hread
      simp [hread]

/-- Where every number up to the largest value fits a width, it is cut to that width unchanged. -/
theorem map_integer?_eq_ok {α : Type} {max : Nat} {cut : Nat → α} {value : α → Nat}
    (hvalue : ∀ a, value a ≤ max ∧ cut (value a) = a) (hcut : ∀ n ≤ max, value (cut n) = n)
    {a : α} :
    (e.integer? key max).map (fun n? => n?.map cut) = .ok (some a) ↔
      ∃ literal, e.attribute? key = some literal ∧ StandsFor literal (value a) := by
  rw [map_eq_ok]
  constructor
  · rintro ⟨n?, hn, hmap⟩
    obtain ⟨n, rfl, rfl⟩ := Option.map_eq_some_iff.mp hmap
    obtain ⟨literal, hattribute, hstands, hle⟩ := integer?_eq_ok.mp hn
    refine ⟨literal, hattribute, ?_⟩
    rwa [hcut n hle]
  · rintro ⟨literal, hattribute, hstands⟩
    obtain ⟨hle, hback⟩ := hvalue a
    refine ⟨some (value a), integer?_eq_ok.mpr ⟨literal, hattribute, hstands, hle⟩, ?_⟩
    rw [Option.map_some, hback]

/-- **Bytes**: what is read is the number that is written. -/
theorem byte?_eq_ok {b : UInt8} : e.byte? key = .ok (some b) ↔
    ∃ literal, e.attribute? key = some literal ∧ StandsFor literal b.toNat :=
  map_integer?_eq_ok (fun b => ⟨Nat.le_of_lt_succ b.toNat_lt, UInt8.ofNat_toNat⟩)
    fun _ hn => UInt8.toNat_ofNat_of_lt' (Nat.lt_succ_of_le hn)

/-- **Words** of 16 bits: what is read is the number that is written. -/
theorem word?_eq_ok {w : UInt16} : e.word? key = .ok (some w) ↔
    ∃ literal, e.attribute? key = some literal ∧ StandsFor literal w.toNat :=
  map_integer?_eq_ok (fun w => ⟨Nat.le_of_lt_succ w.toNat_lt, UInt16.ofNat_toNat⟩)
    fun _ hn => UInt16.toNat_ofNat_of_lt' (Nat.lt_succ_of_le hn)

end Markup.Element

/-- **Integers are read exactly.**  A literal is refused as malformed exactly if it is no numeral;
    else it is read as the number it stands for, or refused because that is larger than the largest
    value, and in words of 64 bits the same comes out.  So an attribute is read as a byte or as a
    word exactly if its text stands for this number. -/
theorem readInteger_exact (literal : String) (max : UInt64) (e : Markup.Element) (key : String) :
    (readInteger literal max.toNat = .error .malformed ↔ ¬ ∃ n, StandsFor literal n) ∧
    (∀ n, readInteger literal max.toNat = .ok n ↔ StandsFor literal n ∧ n ≤ max.toNat) ∧
    (readInteger literal max.toNat = .error .outOfRange ↔
      ∃ n, StandsFor literal n ∧ max.toNat < n) ∧
    (readInWords literal max).map UInt64.toNat = readInteger literal max.toNat ∧
    (∀ b, (e.byte? key = .ok (some b) ↔
        ∃ text, e.attribute? key = some text ∧ StandsFor text b.toNat) ∧
      (e.byte key = .ok b ↔ ∃ text, e.attribute? key = some text ∧ StandsFor text b.toNat)) ∧
    (∀ w, (e.word? key = .ok (some w) ↔
        ∃ text, e.attribute? key = some text ∧ StandsFor text w.toNat) ∧
      (e.word key = .ok w ↔ ∃ text, e.attribute? key = some text ∧ StandsFor text w.toNat)) := by
  obtain ⟨hmalformed, hok, hlarge⟩ := readInteger_cases literal max.toNat
  exact ⟨hmalformed, hok, hlarge, readInWords_eq literal max,
    fun b => ⟨Element.byte?_eq_ok, Element.demand_eq_ok.trans Element.byte?_eq_ok⟩,
    fun w => ⟨Element.word?_eq_ok, Element.demand_eq_ok.trans Element.word?_eq_ok⟩⟩

end MediaNetwork

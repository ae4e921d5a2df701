/-
  Integer literals: which texts they are, and which number each stands for.

  1. White space — what `trim` takes off is the white space at both ends and no more
     (`trimmed_iff`).
  2. Digits — a character is a digit of a base in the sense of `IsDigit` exactly if the reader
     takes it for that digit (`hexDigit?_eq_some`, `decimalDigit?_eq_some`).
  3. Numerals — a run of digits has the positional value of its digits, however long it is
     (`extendNumeral_eq_some`, by induction over the digits; hence `numeralValue?_eq_some`).
  4. Literals — a literal is malformed, too large, or read as its number (`readInteger_cases`).

  Of the library modules the last has positional values.
-/
import Mathlib.Data.List.Forall2
import Mathlib.Data.List.TakeWhile
import Mathlib.Data.Nat.Digits.Defs
import MediaNetwork.Literal

namespace MediaNetwork

namespace Text

/-! ## White space -/

/-- `core` is the text without the white space around it. -/
def Trimmed (text core : List Char) : Prop :=
  ∃ left right, text = left ++ core ++ right ∧ (∀ c ∈ left, isSpace c = true) ∧
    (∀ c ∈ right, isSpace c = true) ∧ (∀ c, core.head? = some c → isSpace c = false) ∧
    ∀ c, core.getLast? = some c → isSpace c = false

/-- Behind white space a text is dropped down to its first other character. -/
theorem dropWhile_space {left : List Char} (h : ∀ c ∈ left, isSpace c = true) {rest : List Char}
    (hrest : ∀ c, rest.head? = some c → isSpace c = false) :
    (left ++ rest).dropWhile isSpace = rest := by
  rw [List.dropWhile_append_of_pos h]
  cases rest with
  | nil => rfl
  | cons c rest => exact List.dropWhile_cons_of_neg (by simp [hrest c rfl])

theorem head?_dropWhile_space (text : List Char) :
    ∀ c, (text.dropWhile isSpace).head? = some c → isSpace c = false := by
  intro c hc
  have hnot := List.head?_dropWhile_not isSpace text
  rw [hc] at hnot
  exact hnot

/-- **White space**: trimming takes off what stands around the core of a text. -/
theorem trimmed_iff {text core : List Char} : Trimmed text core ↔ core = trim text := by
  constructor
  · rintro ⟨left, right, rfl, hleft, hright, hfirst, hlast⟩
    have hback : ∀ c ∈ right.reverse, isSpace c = true :=
      fun c hc => hright c (List.mem_reverse.mp hc)
    have hend : ∀ c, core.reverse.head? = some c → isSpace c = false := by
      rwa [List.head?_reverse]
    unfold trim dropEndWhile
    -- if nothing is left, the first trimming has taken everything and the second finds nothing
    cases core with
    | nil =>
      have hall : ∀ c ∈ left ++ right, isSpace c = true :=
        fun c hc => (List.mem_append.mp hc).elim (hleft c) (hright c)
      rw [List.append_nil, List.dropWhile_eq_nil_iff.mpr hall]
      rfl
    | cons c core =>
      have hrest : ∀ d, (c :: core ++ right).head? = some d → isSpace d = false := hfirst
      rw [List.append_assoc, dropWhile_space hleft hrest, List.reverse_append,
        dropWhile_space hback hend, List.reverse_reverse]
  · rintro rfl
    have htail : text.dropWhile isSpace =
        trim text ++ ((text.dropWhile isSpace).reverse.takeWhile isSpace).reverse := by
      unfold trim dropEndWhile
      rw [← List.reverse_append, List.takeWhile_append_dropWhile, List.reverse_reverse]
    refine ⟨text.takeWhile isSpace, ((text.dropWhile isSpace).reverse.takeWhile isSpace).reverse,
      ?_, fun c hc => List.mem_takeWhile_imp hc,
      fun c hc => List.mem_takeWhile_imp (List.mem_reverse.mp hc), fun c hc => ?_, fun c hc => ?_⟩
    · rw [List.append_assoc, ← htail, List.takeWhile_append_dropWhile]
    · refine head?_dropWhile_space text c ?_
      rw [htail, List.head?_append, hc]
      rfl
    · unfold trim dropEndWhile at hc
      rw [List.getLast?_reverse] at hc
      exact head?_dropWhile_space _ c hc

/-! ## Digits -/

/-- The character is the digit `d` of this base; a letter counts in either case. -/
def IsDigit (base : Nat) (c : Char) (d : Nat) : Prop :=
  d < base ∧ (c = Nat.digitChar d ∨ c = (Nat.digitChar d).toUpper)

theorem hexDigit?_eq_some {c : Char} {d : Nat} : hexDigit? c = some d ↔ IsDigit 16 c d := by
  constructor
  · intro h
    have hascii : c.toNat < 128 := by
      have hbelow : ∀ last : Char, c ≤ last → last.toNat < 128 → c.toNat < 128 :=
        fun last hle hlast => Nat.lt_of_le_of_lt hle hlast
      unfold hexDigit? at h
      split at h
      · exact hbelow '9' (And.right ‹_›) (by decide)
      split at h
      · exact hbelow 'f' (And.right ‹_›) (by decide)
      split at h
      · exact hbelow 'F' (And.right ‹_›) (by decide)
      · nomatch h
    -- there are few such characters, and each of them is told by its digit
    have hall : ∀ n < 128, ∀ d ∈ hexDigit? (Char.ofNat n),
        d < 16 ∧ (Char.ofNat n = Nat.digitChar d ∨ Char.ofNat n = (Nat.digitChar d).toUpper) := by
      decide
    have hdigit := hall c.toNat hascii d
    rw [Char.ofNat_toNat] at hdigit
    exact hdigit h
  · rintro ⟨hd, rfl | rfl⟩
    · revert d
      decide
    · revert d
      decide

/-- The decimal digits are the hexadecimal digits below ten. -/
theorem decimalDigit?_eq_some {c : Char} {d : Nat} :
    decimalDigit? c = some d ↔ IsDigit 10 c d := by
  have hsame : decimalDigit? c = some d ↔ hexDigit? c = some d ∧ d < 10 := by
    unfold decimalDigit? hexDigit?
    split
    · rename_i hc
      have hle : c.toNat ≤ '9'.toNat := hc.2
      have hnine : '9'.toNat = '0'.toNat + 9 := by decide
      constructor
      · intro h
        cases h
        exact ⟨rfl, by omega⟩
      · exact fun h => h.1
    · refine ⟨fun h => (nomatch h), fun ⟨h, hd⟩ => ?_⟩
      split at h
      · cases h
        omega
      split at h
      · cases h
        omega
      · nomatch h
  have hten : IsDigit 10 c d ↔ IsDigit 16 c d ∧ d < 10 := by
    unfold IsDigit
    exact ⟨fun ⟨hd, hc⟩ => ⟨⟨by omega, hc⟩, hd⟩, fun ⟨⟨_, hc⟩, hd⟩ => ⟨hd, hc⟩⟩
  rw [hsame, hten, hexDigit?_eq_some]

/-! ## Numerals -/

/-- The text is a run of one or more digits of this base, whose value is `n`. -/
def Numeral (base : Nat) (cs : List Char) (n : Nat) : Prop :=
  cs ≠ [] ∧ ∃ digits, List.Forall₂ (IsDigit base) cs digits ∧
    n = Nat.ofDigits base digits.reverse

section Numerals

variable {digit? : Char → Option Nat} {base : Nat}

/-- A numeral goes on by the positional value of its further digits. -/
theorem extendNumeral_eq_some {n m : Nat} {cs : List Char} :
    extendNumeral digit? base n cs = some m ↔
      ∃ digits, List.Forall₂ (fun c d => digit? c = some d) cs digits ∧
        m = n * base ^ digits.length + Nat.ofDigits base digits.reverse := by
  induction cs generalizing n with
  | nil =>
    constructor
    · intro h
      cases h
      exact ⟨[], List.Forall₂.nil, by simp⟩
    · rintro ⟨digits, hdigits, rfl⟩
      rw [List.forall₂_nil_left_iff.mp hdigits]
      simp [extendNumeral]
  | cons c cs ih =>
    -- a digit behind what is read multiplies it by the base
    have hvalue : ∀ d : Nat, ∀ digits : List Nat,
        (n * base + d) * base ^ digits.length + Nat.ofDigits base digits.reverse =
          n * base ^ (d :: digits).length + Nat.ofDigits base (d :: digits).reverse := by
      intro d digits
      rw [List.reverse_cons, Nat.ofDigits_append, List.length_reverse, Nat.ofDigits_singleton,
        List.length_cons, Nat.pow_succ]
      ring
    unfold extendNumeral
    constructor
    · intro h
      split at h
      · rename_i d hd
        obtain ⟨digits, hdigits, rfl⟩ := ih.mp h
        exact ⟨d :: digits, List.Forall₂.cons hd hdigits, hvalue d digits⟩
      · nomatch h
    · rintro ⟨_, hall, rfl⟩
      obtain ⟨d, digits, hd, hdigits, rfl⟩ := List.forall₂_cons_left_iff.mp hall
      rw [hd]
      exact ih.mpr ⟨digits, hdigits, (hvalue d digits).symm⟩

theorem readNumeral_eq_some (hdigit : ∀ c d, digit? c = some d ↔ IsDigit base c d)
    {cs : List Char} {n : Nat} : readNumeral digit? base cs = some n ↔ Numeral base cs n := by
  have hdigits : (fun c d => digit? c = some d) = IsDigit base := by
    funext c d
    exact propext (hdigit c d)
  unfold readNumeral Numeral
  cases cs with
  | nil => simp
  | cons c cs =>
    rw [if_neg (by simp), extendNumeral_eq_some, hdigits]
    simp

end Numerals

/-- **Decimal numerals** are read with the value of their digits. -/
theorem readDecimal_eq_some {cs : List Char} {n : Nat} :
    readDecimal cs = some n ↔ Numeral 10 cs n :=
  readNumeral_eq_some fun _ _ => decimalDigit?_eq_some

/-- **Hexadecimal numerals** are read with the value of their digits. -/
theorem readHex_eq_some {cs : List Char} {n : Nat} : readHex cs = some n ↔ Numeral 16 cs n :=
  readNumeral_eq_some fun _ _ => hexDigit?_eq_some

end Text

open Text

/-! ## Literals -/

/-- The text is an integer literal without white space, which stands for `n`: a decimal numeral, or
    a hexadecimal one behind its mark. -/
inductive Denotes : List Char → Nat → Prop
  | decimal {digits : List Char} {n : Nat} (value : Numeral 10 digits n) : Denotes digits n
  | hex {mark : Char} {digits : List Char} {n : Nat} (marked : mark = 'x' ∨ mark = 'X')
      (value : Numeral 16 digits n) : Denotes ('0' :: mark :: digits) n

/-- The literal stands for `n`, whatever white space is around it. -/
def StandsFor (literal : String) (n : Nat) : Prop :=
  ∃ core, Trimmed literal.toList core ∧ Denotes core n

/-- A mark is no decimal digit. -/
theorem not_numeral_of_mark {mark : Char} (h : mark = 'x' ∨ mark = 'X') (digits : List Char)
    (n : Nat) : ¬ Numeral 10 ('0' :: mark :: digits) n := by
  rw [← readDecimal_eq_some]
  rcases h with rfl | rfl
  · exact fun h => nomatch h
  · exact fun h => nomatch h

theorem numeralValue?_eq_some {cs : List Char} {n : Nat} :
    numeralValue? cs = some n ↔ Denotes cs n := by
  unfold numeralValue?
  split
  · rename_i digits
    rw [readHex_eq_some]
    constructor
    · exact .hex (.inl rfl)
    · rintro (value | value)
      · exact absurd value (not_numeral_of_mark (.inl rfl) digits n)
      · assumption
  · rename_i digits
    rw [readHex_eq_some]
    constructor
    · exact .hex (.inr rfl)
    · rintro (value | value)
      · exact absurd value (not_numeral_of_mark (.inr rfl) digits n)
      · assumption
  · rename_i hx hX
    rw [readDecimal_eq_some]
    constructor
    · exact .decimal
    · rintro (value | ⟨rfl | rfl, value⟩)
      · exact value
      · exact absurd rfl (hx _)
      · exact absurd rfl (hX _)

theorem standsFor_iff {literal : String} {n : Nat} :
    StandsFor literal n ↔ numeralValue? (trim literal.toList) = some n := by
  simp only [StandsFor, trimmed_iff, exists_eq_left, numeralValue?_eq_some]

/-- **Reading**: which of its three results reading a literal has. -/
theorem readInteger_cases (literal : String) (max : Nat) :
    (readInteger literal max = .error .malformed ↔ ¬ ∃ n, StandsFor literal n) ∧
      (∀ n, readInteger literal max = .ok n ↔ StandsFor literal n ∧ n ≤ max) ∧
      (readInteger literal max = .error .outOfRange ↔ ∃ n, StandsFor literal n ∧ max < n) := by
  simp only [standsFor_iff]
  unfold readInteger
  cases numeralValue? (trim literal.toList) with
  | none => simp
  | some m =>
    by_cases hm : m ≤ max
    · have hsame : ∀ n, m = n → n ≤ max := fun n h => h ▸ hm
      simp only [hm, if_true]
      refine ⟨by simp, fun n => ?_, by simp [hm]⟩
      simp only [Except.ok.injEq, Option.some.injEq]
      exact ⟨fun h => ⟨h, hsame n h⟩, fun h => h.1⟩
    · have hlarge : max < m := Nat.lt_of_not_le hm
      simp only [hm, if_false]
      refine ⟨by simp, fun n => ?_, by simp [hlarge]⟩
      simp only [reduceCtorEq, Option.some.injEq, false_iff]
      exact fun ⟨h, hle⟩ => hm (h ▸ hle)

end MediaNetwork

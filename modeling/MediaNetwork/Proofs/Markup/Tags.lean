/-
  Written tags.

  A tag is written as its name and its attributes, one space before each.  The names that are
  written are words of letters and digits (`isWord`), so no character of a name can be taken for
  anything else, and no key is written twice.  Reading such a tag gives its name
  (`span_name`) and its attributes (`attributes_written`): the induction is over the attributes, and
  one of them is taken off by `attributesFrom_writeAttribute`.
-/
import MediaNetwork.Markup.Printed
import MediaNetwork.Markup.Tag
import MediaNetwork.Proofs.Markup.Entities

namespace MediaNetwork.Markup

open MediaNetwork.Text

/-- All characters are blanks of markup. -/
def AllBlank (cs : List Char) : Prop := ∀ c ∈ cs, isBlank c = true

/-! ## Words -/

/-- A name of letters and digits. -/
def isWord (name : String) : Bool := !name.toList.isEmpty && name.toList.all Char.isAlphanum

/-- A character of a word is none of those that end a name. -/
theorem plain_of_isAlphanum {c : Char} (h : c.isAlphanum = true) :
    isBlank c = false ∧ c ≠ '=' ∧ c ≠ '>' ∧ c ≠ '<' ∧ c ≠ '/' ∧ c ≠ '"' ∧ c ≠ '\'' ∧ c ≠ '!' ∧
      c ≠ '?' := by
  have hne : ∀ d : Char, d.isAlphanum = false → c ≠ d := by
    rintro d hd rfl
    rw [h] at hd
    nomatch hd
  refine ⟨?_, hne _ (by decide), hne _ (by decide), hne _ (by decide), hne _ (by decide),
    hne _ (by decide), hne _ (by decide), hne _ (by decide), hne _ (by decide)⟩
  simp [isBlank, hne ' ' (by decide), hne '\n' (by decide), hne '\r' (by decide),
    hne '\t' (by decide)]

theorem exists_cons_of_isWord {name : String} (h : isWord name = true) :
    ∃ c cs, name.toList = c :: cs ∧ c.isAlphanum = true ∧ ∀ x ∈ cs, x.isAlphanum = true := by
  unfold isWord at h
  cases hname : name.toList with
  | nil => simp [hname] at h
  | cons c cs =>
    rw [hname] at h
    simp only [List.isEmpty_cons, Bool.not_false, Bool.true_and, List.all_cons, Bool.and_eq_true,
      List.all_eq_true] at h
    exact ⟨c, cs, rfl, h.1, h.2⟩

theorem isAlphanum_of_mem {name : String} (h : isWord name = true) :
    ∀ x ∈ name.toList, x.isAlphanum = true := by
  obtain ⟨c, cs, heq, hc, hcs⟩ := exists_cons_of_isWord h
  rw [heq]
  intro x hx
  rcases List.mem_cons.mp hx with rfl | hx
  · exact hc
  · exact hcs x hx

/-! ## One attribute -/

namespace Tag

/-- One step of reading attributes, by the outcomes of its parts; positions do not matter. -/
theorem attributesFrom_step {total position : Nat} {seen : List (List Char × Nat)}
    {done : List (String × String)} {first : Char}
    {cs more key middle afterKey value rest text : List Char}
    (hblank : cs.dropWhile isBlank = first :: more)
    (hkey : first :: more.takeWhile inKey = key) (hmiddle : more.dropWhile inKey = middle)
    (hequals : ∀ p, ∃ q, afterEquals total p middle = .ok (q, afterKey))
    (hseen : seen.lookup key = none)
    (hvalue : ∀ p, ∃ q, quotedValue total p afterKey = .ok (value, q, rest))
    (htext : unescape value = .ok text) : ∃ next start,
    attributesFrom total position seen done cs =
      attributesFrom total next (seen ++ [(key, start)])
        ((String.ofList key, String.ofList text) :: done) rest := by
  subst hkey hmiddle
  obtain ⟨valueAt, hvalueAt⟩ := hequals
    (position + byteLength (cs.takeWhile isBlank) + byteLength (first :: more.takeWhile inKey))
  obtain ⟨next, hnext⟩ := hvalue valueAt
  refine ⟨next, position + byteLength (cs.takeWhile isBlank), ?_⟩
  -- The reader splits on each part; the outcomes that are given leave one case.
  rw [attributesFrom]
  split
  · rename_i h
    rw [hblank] at h
    cases h
  rename_i first' more' h
  rw [hblank] at h
  cases h
  simp only
  split
  · rename_i h
    rw [hvalueAt] at h
    cases h
  rename_i valueAt' afterKey' h
  rw [hvalueAt] at h
  cases h
  rw [hseen]
  simp only
  split
  · rename_i h
    rw [hnext] at h
    cases h
  rename_i value' next' rest' h
  rw [hnext] at h
  cases h
  rw [htext]

/-- A value between double quotes. -/
theorem quotedValue_written (total position : Nat) (value rest : List Char) :
    ∃ next, quotedValue total position ('"' :: (escape value ++ '"' :: rest)) =
      .ok (escape value, next, rest) := by
  have hin : ∀ x ∈ escape value, (x != '"') = true := by
    intro x hx
    simpa using quote_not_mem value x hx
  have hquote : ('"' != '"') = false := by decide
  obtain ⟨htake, hdrop⟩ := span_stop hin hquote rest
  have hblank : isBlank '"' = false := by decide
  refine ⟨position + 1 + byteLength (escape value) + 1, ?_⟩
  unfold quotedValue
  simp [hblank, htake, hdrop, byteLength]

/-- One written attribute is taken off, if its key was not there before. -/
theorem attributesFrom_writeAttribute (total position : Nat) {seen : List (List Char × Nat)}
    (done : List (String × String)) {a : String × String} (ha : isWord a.1 = true)
    (hseen : a.1.toList ∉ seen.map Prod.fst) (rest : List Char) : ∃ next start,
    attributesFrom total position seen done (Printed.writeAttribute a ++ rest) =
      attributesFrom total next (seen ++ [(a.1.toList, start)]) (a :: done) rest := by
  obtain ⟨c, cs, hname, hc, hcs⟩ := exists_cons_of_isWord ha
  have hblank : isBlank c = false := (plain_of_isAlphanum hc).1
  have hspace : isBlank ' ' = true := by decide
  have hequal : isBlank '=' = false := by decide
  have hstop : inKey '=' = false := by decide
  have hin : ∀ x ∈ cs, inKey x = true := by
    intro x hx
    obtain ⟨hb, he, -⟩ := plain_of_isAlphanum (hcs x hx)
    simp [inKey, hb, he]
  -- the key ends at the equals sign, and the value at its quote, which escaping keeps out of it
  obtain ⟨htake, hdrop⟩ := span_stop hin hstop ('"' :: (escape a.2.toList ++ '"' :: rest))
  have htext : Printed.writeAttribute a ++ rest =
      ' ' :: c :: (cs ++ '=' :: '"' :: (escape a.2.toList ++ '"' :: rest)) := by
    simp [Printed.writeAttribute, hname]
  have hlookup : seen.lookup (c :: cs) = none := by
    rw [List.lookup_eq_none_iff]
    intro p hp
    rw [← hname, bne_iff_ne]
    rintro heq
    exact hseen (heq ▸ List.mem_map_of_mem hp)
  have hdropBlank : (' ' :: c :: (cs ++ '=' :: '"' :: (escape a.2.toList ++ '"' :: rest))).dropWhile
      isBlank = c :: (cs ++ '=' :: '"' :: (escape a.2.toList ++ '"' :: rest)) := by
    simp [hspace, hblank]
  have hequals : ∀ p, ∃ q, afterEquals total p
      ('=' :: '"' :: (escape a.2.toList ++ '"' :: rest)) =
        .ok (q, '"' :: (escape a.2.toList ++ '"' :: rest)) := by
    intro p
    exact ⟨p + 1, by simp [afterEquals, hequal, byteLength]⟩
  obtain ⟨next, start, hstep⟩ : ∃ next start, attributesFrom total position seen done
      (' ' :: c :: (cs ++ '=' :: '"' :: (escape a.2.toList ++ '"' :: rest))) =
        attributesFrom total next (seen ++ [(c :: cs, start)])
          ((String.ofList (c :: cs), String.ofList a.2.toList) :: done) rest :=
    attributesFrom_step hdropBlank (by rw [htake]) hdrop hequals hlookup
      (fun p => quotedValue_written total p a.2.toList rest) (unescape_escape _)
  refine ⟨next, start, ?_⟩
  rw [htext, hstep, ← hname, String.ofList_toList, String.ofList_toList]

/-! ## All attributes -/

theorem attributesFrom_written (total position : Nat) {seen : List (List Char × Nat)}
    (done : List (String × String)) {attributes : List (String × String)}
    (hword : ∀ a ∈ attributes, isWord a.1 = true) (hnodup : (attributes.map Prod.fst).Nodup)
    (hseen : ∀ a ∈ attributes, a.1.toList ∉ seen.map Prod.fst) :
    attributesFrom total position seen done (attributes.flatMap Printed.writeAttribute) =
      .ok (done.reverse ++ attributes) := by
  induction attributes generalizing position seen done with
  | nil =>
    rw [List.flatMap_nil, attributesFrom]
    simp
  | cons a attributes ih =>
    rw [List.map_cons, List.nodup_cons] at hnodup
    obtain ⟨next, start, hstep⟩ := attributesFrom_writeAttribute total position done
      (hword a List.mem_cons_self) (hseen a List.mem_cons_self)
      (attributes.flatMap Printed.writeAttribute)
    rw [List.flatMap_cons, hstep, ih _ _ (fun x hx => hword x (List.mem_cons_of_mem _ hx))
      hnodup.2 fun x hx => ?_]
    · rw [List.reverse_cons, List.append_assoc]
      rfl
    · rw [List.map_append, List.mem_append, not_or]
      refine ⟨hseen x (List.mem_cons_of_mem _ hx), fun hlast => hnodup.1 ?_⟩
      have hsame : x.1.toList = a.1.toList := by simpa using hlast
      rw [← String.toList_inj.mp hsame]
      exact List.mem_map_of_mem hx

/-- The text of a tag that is written out. -/
def written (name : String) (attributes : List (String × String)) : Tag :=
  ⟨name.toList ++ attributes.flatMap Printed.writeAttribute⟩

/-- The text behind the name of a written tag begins with a blank, if there is any. -/
theorem span_name {name : String} (hname : isWord name = true)
    (attributes : List (String × String)) :
    (written name attributes).name = name.toList ∧
      ((written name attributes).content.dropWhile fun c => !isBlank c) =
        attributes.flatMap Printed.writeAttribute := by
  have hin : ∀ x ∈ name.toList, (!isBlank x) = true := by
    intro x hx
    rw [(plain_of_isAlphanum (isAlphanum_of_mem hname x hx)).1]
    rfl
  unfold written Tag.name
  cases attributes with
  | nil =>
    constructor
    · rw [List.flatMap_nil, List.takeWhile_append_of_pos hin]
      simp
    · rw [List.flatMap_nil, List.dropWhile_append_of_pos hin]
      simp
  | cons a attributes => exact span_stop hin (by decide) _

/-- **Tags**: a written tag has its attributes, if its names are words and its keys differ. -/
theorem attributes_written {name : String} {attributes : List (String × String)}
    (hname : isWord name = true) (hword : ∀ a ∈ attributes, isWord a.1 = true)
    (hnodup : (attributes.map Prod.fst).Nodup) :
    (written name attributes).attributes = .ok attributes := by
  unfold Tag.attributes
  rw [(span_name hname attributes).2]
  exact attributesFrom_written _ _ [] hword hnodup fun _ _ h => nomatch h

end Tag

end MediaNetwork.Markup

/-
  The attributes of a tag.

  `Tag.Declares t attributes` says what a tag has for attributes without saying how they are read:
  behind the name the text is a run of attributes (`Spells`), no key stands there twice, and each
  value is what was written for it.

  The reader finds exactly that (`attributes_eq_ok`).  Each of its two parts, the equals sign and
  the quoted value, is told by the text it takes (`afterEquals_eq_ok`, `quotedValue_eq_ok`); then
  the reader is followed call by call.  Its positions are for messages only, and its table of keys
  keeps a key from coming twice.
-/
import Mathlib.Data.List.Nodup
import Mathlib.Data.List.TakeWhile
import MediaNetwork.Proofs.Markup.Tags
import MediaNetwork.Proofs.Outcome

namespace MediaNetwork.Markup

open MediaNetwork.Text MediaNetwork.Outcome

/-! ## Blanks -/

theorem allBlank_takeWhile (cs : List Char) : AllBlank (cs.takeWhile isBlank) := by
  intro c hc
  exact List.mem_takeWhile_imp hc

/-- Blanks in front of another character are dropped, and nothing else. -/
theorem dropWhile_blanks {blanks : List Char} (h : AllBlank blanks) {c : Char}
    (hc : isBlank c = false) (rest : List Char) :
    (blanks ++ c :: rest).dropWhile isBlank = c :: rest := (span_stop h hc rest).2

namespace Tag

/-! ## What a tag declares -/

/-- The text is a run of attributes, and these are their keys and values as they are written. -/
inductive Spells : List Char → List (List Char × List Char) → Prop
  | blanks {blanks : List Char} (blank : AllBlank blanks) : Spells blanks []
  /-- A key, an equals sign and a value between two equal quotes that does not hold that quote;
      before each of the three there may be blanks. -/
  | cons {blanks before after more value rest : List Char} {first quote : Char}
      {others : List (List Char × List Char)} (blank : AllBlank blanks)
      (begins : isBlank first = false) (goesOn : ∀ c ∈ more, inKey c = true)
      (blankBefore : AllBlank before) (blankAfter : AllBlank after)
      (quotes : quote = '"' ∨ quote = '\'') (inside : quote ∉ value) (behind : Spells rest others) :
      Spells (blanks ++ first :: (more ++ (before ++ '=' :: (after ++ quote :: (value ++ quote ::
        rest))))) ((first :: more, value) :: others)

/-- An attribute and how it is written. -/
def Writes (w : List Char × List Char) (a : String × String) : Prop :=
  a.1 = String.ofList w.1 ∧ unescape w.2 = .ok a.2.toList

/-- The attributes of a tag, in the order in which they are written: no key comes twice. -/
def Declares (t : Tag) (attributes : List (String × String)) : Prop :=
  ∃ written, Spells (t.content.dropWhile fun c => !isBlank c) written ∧
    (written.map Prod.fst).Nodup ∧ List.Forall₂ Writes written attributes

/-- No attribute has the key of another one. -/
theorem Declares.nodup_keys {t : Tag} {attributes : List (String × String)}
    (h : t.Declares attributes) : (attributes.map Prod.fst).Nodup := by
  obtain ⟨written, -, hnodup, hwrites⟩ := h
  have hkeys : attributes.map Prod.fst = (written.map Prod.fst).map String.ofList := by
    rw [List.map_map, map_eq_map_iff_forall₂]
    exact hwrites.flip.imp fun _ _ h => h.1
  rw [hkeys]
  refine List.Nodup.map (fun k k' h => ?_) hnodup
  rw [← String.toList_ofList (l := k), h, String.toList_ofList]

/-! ## The parts of an attribute -/

theorem afterEquals_eq_ok {total position at_ : Nat} {cs rest : List Char}
    (h : afterEquals total position cs = .ok (at_, rest)) :
    ∃ before, AllBlank before ∧ cs = before ++ '=' :: rest := by
  unfold afterEquals at h
  split at h
  · cases h
  · rename_i c tail hdrop
    split at h
    · rename_i hc
      cases h
      obtain ⟨hcs, -⟩ := span_of_dropWhile hdrop
      rw [hc] at hcs
      exact ⟨_, allBlank_takeWhile cs, hcs⟩
    · cases h

theorem afterEquals_of_blanks {before : List Char} (h : AllBlank before) (total position : Nat)
    (rest : List Char) : ∃ at_, afterEquals total position (before ++ '=' :: rest) =
      .ok (at_, rest) := by
  unfold afterEquals
  rw [dropWhile_blanks h (by decide)]
  exact ⟨_, rfl⟩

theorem quotedValue_eq_ok {total position next : Nat} {cs value rest : List Char}
    (h : quotedValue total position cs = .ok (value, next, rest)) :
    ∃ after quote, AllBlank after ∧ (quote = '"' ∨ quote = '\'') ∧ quote ∉ value ∧
      cs = after ++ quote :: (value ++ quote :: rest) := by
  unfold quotedValue at h
  split at h
  · cases h
  · rename_i q tail hdrop
    obtain ⟨hcs, -⟩ := span_of_dropWhile hdrop
    split at h
    · rename_i hquote
      split at h
      · cases h
      · rename_i stop behind hbehind
        cases h
        obtain ⟨htail, hstop⟩ := span_of_dropWhile hbehind
        -- the value goes up to the next quote of the same kind
        have hinside : q ∉ tail.takeWhile (· != q) := by
          intro hq
          simpa using List.mem_takeWhile_imp hq
        have hsame : stop = q := by simpa using hstop
        rw [hsame] at htail
        refine ⟨_, q, allBlank_takeWhile cs, hquote, hinside, ?_⟩
        rw [← htail]
        exact hcs
    · cases h

theorem quotedValue_of_quotes {after value : List Char} {quote : Char} (h : AllBlank after)
    (hquote : quote = '"' ∨ quote = '\'') (hinside : quote ∉ value) (total position : Nat)
    (rest : List Char) :
    ∃ next, quotedValue total position (after ++ quote :: (value ++ quote :: rest)) =
      .ok (value, next, rest) := by
  have hblank : isBlank quote = false := by
    rcases hquote with rfl | rfl <;> decide
  have hvalue : ∀ c ∈ value, (c != quote) = true := by
    intro c hc
    rw [bne_iff_ne]
    rintro rfl
    exact hinside hc
  have hstop : (quote != quote) = false := by simp
  obtain ⟨htake, hdrop⟩ := span_stop hvalue hstop rest
  unfold quotedValue
  rw [dropWhile_blanks h hblank]
  simp only [if_pos hquote, htake, hdrop]
  exact ⟨_, rfl⟩

/-- A key ends at the first blank or equals sign. -/
theorem span_key {more before : List Char} (hmore : ∀ c ∈ more, inKey c = true)
    (hbefore : AllBlank before) (tail : List Char) :
    (more ++ (before ++ '=' :: tail)).takeWhile inKey = more ∧
      (more ++ (before ++ '=' :: tail)).dropWhile inKey = before ++ '=' :: tail := by
  cases before with
  | nil => exact span_stop hmore (by decide) tail
  | cons b before =>
    have hstop : inKey b = false := by
      simp [inKey, hbefore b List.mem_cons_self]
    exact span_stop hmore hstop (before ++ '=' :: tail)

/-! ## The reader -/

/-- What the reader finds is a run of attributes, none of whose keys was seen before. -/
theorem spells_of_attributesFrom {total position : Nat} {seen : List (List Char × Nat)}
    {done attributes : List (String × String)} {cs : List Char}
    (h : attributesFrom total position seen done cs = .ok attributes) :
    ∃ written more, Spells cs written ∧ (written.map Prod.fst).Nodup ∧
      (∀ w ∈ written, w.1 ∉ seen.map Prod.fst) ∧ List.Forall₂ Writes written more ∧
      attributes = done.reverse ++ more := by
  -- the first five cases end the reading: nothing but blanks is left, or the attribute is faulty
  fun_induction attributesFrom total position seen done cs with
  | case1 position seen done cs hdrop =>
    cases h
    refine ⟨[], [], .blanks ?_, List.nodup_nil, fun _ hw => (nomatch hw), .nil, by simp⟩
    intro c hc
    exact List.dropWhile_eq_nil_iff.mp hdrop c hc
  | case2 => nomatch h
  | case3 => nomatch h
  | case4 => nomatch h
  | case5 => nomatch h
  | case6 position seen done cs start first tail hdrop key valueAt afterKey hequals hseen value next
      rest hvalue text htext ih =>
    obtain ⟨others, more, hspells, hnodup, hfresh, hwrites, rfl⟩ := ih h
    obtain ⟨hcs, hfirst⟩ := span_of_dropWhile hdrop
    obtain ⟨before, hbefore, hmiddle⟩ := afterEquals_eq_ok hequals
    obtain ⟨after, quote, hafter, hquote, hinside, rfl⟩ := quotedValue_eq_ok hvalue
    have htail : tail = tail.takeWhile inKey ++ tail.dropWhile inKey :=
      List.takeWhile_append_dropWhile.symm
    have hkey : key ∉ seen.map Prod.fst := by
      intro hmem
      obtain ⟨p, hp, hpkey⟩ := List.mem_map.mp hmem
      have hne := List.lookup_eq_none_iff.mp hseen p hp
      rw [hpkey] at hne
      simp at hne
    refine ⟨(key, value) :: others, (String.ofList key, String.ofList text) :: more, ?_, ?_, ?_,
      .cons ⟨rfl, ?_⟩ hwrites, ?_⟩
    · rw [hcs, htail, hmiddle]
      exact .cons (allBlank_takeWhile cs) hfirst (fun c hc => List.mem_takeWhile_imp hc)
        hbefore hafter hquote hinside hspells
    · -- the others avoid what was seen, and this key is seen by then
      rw [List.map_cons, List.nodup_cons]
      refine ⟨fun hmem => ?_, hnodup⟩
      obtain ⟨w, hw, hwkey⟩ := List.mem_map.mp hmem
      apply hfresh w hw
      rw [hwkey]
      simp
    · intro w hw
      rcases List.mem_cons.mp hw with rfl | hw
      · exact hkey
      · intro hmem
        exact hfresh w hw (by simp [hmem])
    · rw [htext, String.toList_ofList]
    · rw [List.reverse_cons, List.append_assoc]
      rfl

/-- A run of attributes with new keys is read, attribute by attribute. -/
theorem attributesFrom_of_spells {cs : List Char} {written : List (List Char × List Char)}
    (h : Spells cs written) (hnodup : (written.map Prod.fst).Nodup)
    {attributes : List (String × String)} (hwrites : List.Forall₂ Writes written attributes)
    {total position : Nat} {seen : List (List Char × Nat)}
    (hfresh : ∀ w ∈ written, w.1 ∉ seen.map Prod.fst) (done : List (String × String)) :
    attributesFrom total position seen done cs = .ok (done.reverse ++ attributes) := by
  induction h generalizing position seen done attributes with
  | blanks hblank =>
    cases hwrites
    rw [attributesFrom, List.append_nil]
    split
    · rfl
    · rename_i hdrop
      rw [List.dropWhile_eq_nil_iff.mpr hblank] at hdrop
      nomatch hdrop
  | @cons blanks before after more value rest first quote others hblank hfirst hmore hbefore
      hafter hquote hinside _ ih =>
    rw [List.map_cons, List.nodup_cons] at hnodup
    obtain ⟨⟨k, v⟩, attributes, ⟨hk, hv⟩, hrest, rfl⟩ := List.forall₂_cons_left_iff.mp hwrites
    have hdrop := dropWhile_blanks hblank hfirst
      (more ++ (before ++ '=' :: (after ++ quote :: (value ++ quote :: rest))))
    obtain ⟨htake, hmiddle⟩ := span_key hmore hbefore
      (after ++ quote :: (value ++ quote :: rest))
    have hseen : seen.lookup (first :: more) = none := by
      rw [List.lookup_eq_none_iff]
      intro p hp
      rw [bne_iff_ne]
      intro heq
      exact hfresh (first :: more, value) List.mem_cons_self (heq ▸ List.mem_map_of_mem hp)
    obtain ⟨next, start, hstep⟩ : ∃ next start, attributesFrom total position seen done _ =
        attributesFrom total next (seen ++ [(first :: more, start)])
          ((String.ofList (first :: more), String.ofList v.toList) :: done) rest :=
      attributesFrom_step hdrop (by rw [htake]) hmiddle
        (fun p => afterEquals_of_blanks hbefore total p _) hseen
        (fun p => quotedValue_of_quotes hafter hquote hinside total p rest) hv
    -- the later keys are not among those seen so far, nor this one, since no key is there twice
    have hothers : ∀ w ∈ others, w.1 ∉ (seen ++ [(first :: more, start)]).map Prod.fst := by
      intro w hw
      rw [List.map_append, List.mem_append, not_or]
      refine ⟨hfresh w (List.mem_cons_of_mem _ hw), fun hlast => hnodup.1 ?_⟩
      have hsame : w.1 = first :: more := by simpa using hlast
      exact List.mem_map.mpr ⟨w, hw, hsame⟩
    rw [hstep, ih hnodup.2 hrest hothers, List.reverse_cons, List.append_assoc,
      List.singleton_append, String.ofList_toList, ← hk]

/-- **Attributes**: reading a tag succeeds exactly with the attributes it declares. -/
theorem attributes_eq_ok {t : Tag} {attributes : List (String × String)} :
    t.attributes = .ok attributes ↔ t.Declares attributes := by
  unfold Tag.attributes Declares
  constructor
  · intro h
    obtain ⟨written, more, hspells, hnodup, -, hwrites, rfl⟩ := spells_of_attributesFrom h
    exact ⟨written, hspells, hnodup, hwrites⟩
  · rintro ⟨written, hspells, hnodup, hwrites⟩
    refine attributesFrom_of_spells hspells hnodup hwrites (fun w _ hw => ?_) []
    nomatch hw

end Tag

end MediaNetwork.Markup

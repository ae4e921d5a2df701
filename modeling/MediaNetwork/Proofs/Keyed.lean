/-
  Lists whose members have keys of their own.

  Nodes have addresses, scripts have names and drivers have links, each of them once.  So what was
  put together from parts comes apart again by key (`filter_of_key`), and what is stored under a
  key is found there (`lookup_of_key`), in whatever order it stands (`find?_perm`, `lookup_perm`).

  Such a list is collected by a loop that refuses a key it has (`collect_nil_eq_ok`).  Where keys
  may repeat, the first members of each key are such a list (`firsts_spec`, `map_firsts`), and its
  members are those that are found (`find?_of_mem_firsts`).
-/
import Mathlib.Data.List.Perm.Basic
import MediaNetwork.Proofs.Outcome

namespace MediaNetwork.Keyed

variable {α β κ : Type} [BEq κ] [LawfulBEq κ] {key : α → κ} {parts : List α} {part : α}

/-- The member with a key is found by it. -/
theorem find?_of_key (hdistinct : (parts.map key).Nodup) (hpart : part ∈ parts) :
    (parts.find? fun p => key p == key part) = some part := by
  induction parts with
  | nil => nomatch hpart
  | cons p parts ih =>
    rw [List.map_cons, List.nodup_cons] at hdistinct
    rcases List.mem_cons.mp hpart with rfl | hpart
    · exact List.find?_cons_of_pos (beq_self_eq_true _)
    · have hother : key p ≠ key part := by
        intro h
        exact hdistinct.1 (List.mem_map.mpr ⟨part, hpart, h.symm⟩)
      rw [List.find?_cons_of_neg (by simpa using hother)]
      exact ih hdistinct.2 hpart

/-- It is found in whatever order the members stand. -/
theorem find?_perm {parts' : List α} (hdistinct : (parts.map key).Nodup)
    (hperm : parts.Perm parts') (k : κ) :
    (parts'.find? fun p => key p == k) = parts.find? fun p => key p == k := by
  cases hfound : parts.find? fun p => key p == k with
  | none =>
    rw [List.find?_eq_none] at hfound ⊢
    intro p hp
    exact hfound p (hperm.mem_iff.mpr hp)
  | some p =>
    have hp : p ∈ parts := List.mem_of_find?_eq_some hfound
    have hk : key p = k := by simpa using List.find?_some hfound
    rw [← hk]
    exact find?_of_key ((hperm.map key).nodup_iff.mp hdistinct) (hperm.mem_iff.mp hp)

/-- If everything that comes from a part has its key, the key picks what comes from the part. -/
theorem filter_of_key {f : α → List β} {keyOf : β → κ} (hdistinct : (parts.map key).Nodup)
    (hkey : ∀ p ∈ parts, ∀ x ∈ f p, keyOf x = key p) (hpart : part ∈ parts) :
    ((parts.flatMap f).filter fun x => keyOf x == key part) = f part := by
  -- on the parts: the one that is picked gives all it has, every other one nothing
  induction parts with
  | nil => nomatch hpart
  | cons p parts ih =>
    rw [List.map_cons, List.nodup_cons] at hdistinct
    have hlater := fun q hq => hkey q (List.mem_cons_of_mem _ hq)
    rw [List.flatMap_cons, List.filter_append]
    rcases List.mem_cons.mp hpart with rfl | hpart
    · have hall : ((f part).filter fun x => keyOf x == key part) = f part := by
        rw [List.filter_eq_self]
        intro x hx
        exact beq_iff_eq.mpr (hkey part List.mem_cons_self x hx)
      have hnone : ((parts.flatMap f).filter fun x => keyOf x == key part) = [] := by
        rw [List.filter_eq_nil_iff]
        intro x hx
        obtain ⟨q, hq, hmem⟩ := List.mem_flatMap.mp hx
        rw [hlater q hq x hmem, beq_iff_eq]
        intro h
        exact hdistinct.1 (List.mem_map.mpr ⟨q, hq, h⟩)
      rw [hall, hnone, List.append_nil]
    · have hnone : ((f p).filter fun x => keyOf x == key part) = [] := by
        rw [List.filter_eq_nil_iff]
        intro x hx
        rw [hkey p List.mem_cons_self x hx, beq_iff_eq]
        intro h
        exact hdistinct.1 (List.mem_map.mpr ⟨part, hpart, h.symm⟩)
      rw [hnone, List.nil_append]
      exact ih hdistinct.2 hlater hpart

section Lookup

variable {r : α → β → Prop} {given : List (κ × β)}
  (h : List.Forall₂ (fun p g => g.1 = key p ∧ r p g.2) parts given)

include h

/-- What is stored for a part is found under its key. -/
theorem lookup_of_key (hdistinct : (parts.map key).Nodup) (hpart : part ∈ parts) :
    ∃ x, given.lookup (key part) = some x ∧ r part x := by
  induction h with
  | nil => nomatch hpart
  | @cons p g parts given hp _ ih =>
    obtain ⟨k, x⟩ := g
    obtain ⟨rfl, hx⟩ := hp
    rw [List.map_cons, List.nodup_cons] at hdistinct
    rcases List.mem_cons.mp hpart with rfl | hpart
    · exact ⟨x, List.lookup_cons_self, hx⟩
    · have hother : (key part == key p) = false := by
        rw [beq_eq_false_iff_ne]
        intro h
        exact hdistinct.1 (List.mem_map.mpr ⟨part, hpart, h⟩)
      rw [List.lookup_cons, hother]
      exact ih hdistinct.2 hpart

/-- Nothing is found under another key. -/
theorem lookup_eq_none {k : κ} (hk : k ∉ parts.map key) : given.lookup k = none := by
  induction h with
  | nil => rfl
  | @cons p g parts given hp _ ih =>
    obtain ⟨k', x⟩ := g
    obtain ⟨rfl, -⟩ := hp
    rw [List.map_cons, List.mem_cons, not_or] at hk
    rw [List.lookup_cons, beq_eq_false_iff_ne.mpr hk.1]
    exact ih hk.2

end Lookup

/-- What is stored under keys of their own is found in whatever order it stands. -/
theorem lookup_perm {given given' : List (κ × β)} (hdistinct : (given.map Prod.fst).Nodup)
    (hperm : given.Perm given') (k : κ) : given'.lookup k = given.lookup k := by
  have hself : ∀ pairs : List (κ × β),
      List.Forall₂ (fun p g => g.1 = p.1 ∧ g.2 = p.2) pairs pairs :=
    fun pairs => List.forall₂_same.mpr fun _ _ => ⟨rfl, rfl⟩
  have hdistinct' : (given'.map Prod.fst).Nodup := (hperm.map Prod.fst).nodup_iff.mp hdistinct
  by_cases hk : k ∈ given.map Prod.fst
  · obtain ⟨p, hp, rfl⟩ := List.mem_map.mp hk
    obtain ⟨x, hx, rfl⟩ := lookup_of_key (r := fun p x => x = p.2) (hself given) hdistinct hp
    obtain ⟨y, hy, rfl⟩ := lookup_of_key (r := fun p x => x = p.2) (hself given') hdistinct'
      (hperm.mem_iff.mp hp)
    rw [hx, hy]
  · have hk' : k ∉ given'.map Prod.fst := by rwa [← (hperm.map Prod.fst).mem_iff]
    rw [lookup_eq_none (r := fun p x => x = p.2) (hself given) hk,
      lookup_eq_none (r := fun p x => x = p.2) (hself given') hk']

/-! ## Collecting -/

section Collecting

omit [BEq κ] [LawfulBEq κ]

variable {ε σ : Type} {item : σ → α → Prop} {f : List α → σ → Except ε (List α)}
  (step : ∀ before s after, f before s = .ok after ↔
    ∃ x, item s x ∧ key x ∉ before.map key ∧ after = before ++ [x])

include step

/-- A loop that adds one item after the other, each with a key that is new, ends well exactly if
    there are items with keys of their own. -/
theorem collect_eq_ok {ss : List σ} {before after : List α} (hbefore : (before.map key).Nodup) :
    ss.foldlM f before = .ok after ↔
      ∃ xs, List.Forall₂ item ss xs ∧ ((before ++ xs).map key).Nodup ∧ after = before ++ xs := by
  induction ss generalizing before with
  | nil =>
    constructor
    · intro h
      cases h
      exact ⟨[], List.Forall₂.nil, by rwa [List.append_nil], (List.append_nil _).symm⟩
    · rintro ⟨xs, hxs, -, rfl⟩
      rw [List.forall₂_nil_left_iff.mp hxs, List.append_nil]
      rfl
  | cons s ss ih =>
    -- an item with a new key keeps the keys distinct, which is what the induction needs to go on
    have hlonger : ∀ x, key x ∉ before.map key → ((before ++ [x]).map key).Nodup := by
      intro x hx
      rw [List.map_append, List.map_singleton, List.nodup_append]
      refine ⟨hbefore, by simp, fun k hk l hl hkl => ?_⟩
      rw [List.mem_singleton.mp hl] at hkl
      exact hx (hkl ▸ hk)
    rw [List.foldlM_cons, Outcome.bind_eq_ok]
    constructor
    · rintro ⟨next, hnext, h⟩
      obtain ⟨x, hx, hnew, rfl⟩ := (step before s next).mp hnext
      obtain ⟨xs, hxs, hdistinct, rfl⟩ := (ih (hlonger x hnew)).mp h
      rw [← List.append_cons] at hdistinct
      exact ⟨x :: xs, List.Forall₂.cons hx hxs, hdistinct, (List.append_cons _ _ _).symm⟩
    · rintro ⟨_, hxs, hdistinct, rfl⟩
      obtain ⟨x, xs, hx, hrest, rfl⟩ := List.forall₂_cons_left_iff.mp hxs
      have hnew : key x ∉ before.map key := by
        intro hmem
        rw [List.map_append, List.nodup_append] at hdistinct
        exact hdistinct.2.2 _ hmem (key x) (by simp) rfl
      refine ⟨before ++ [x], (step _ _ _).mpr ⟨x, hx, hnew, rfl⟩, ?_⟩
      rw [List.append_cons] at hdistinct
      exact (ih (hlonger x hnew)).mpr ⟨xs, hrest, hdistinct, List.append_cons _ _ _⟩

/-- From nothing, what is collected is the items. -/
theorem collect_nil_eq_ok {ss : List σ} {xs : List α} :
    ss.foldlM f [] = .ok xs ↔ List.Forall₂ item ss xs ∧ (xs.map key).Nodup := by
  have hnone : (([] : List α).map key).Nodup := List.nodup_nil
  rw [collect_eq_ok step hnone]
  constructor
  · rintro ⟨xs, hitems, hdistinct, rfl⟩
    exact ⟨hitems, hdistinct⟩
  · rintro ⟨hitems, hdistinct⟩
    exact ⟨xs, hitems, hdistinct, rfl⟩

/-- In another order the same is collected, in another order. -/
theorem collect_perm {ss ss' : List σ} (hperm : ss.Perm ss') {xs : List α}
    (h : ss.foldlM f [] = .ok xs) :
    ∃ xs', ss'.foldlM f [] = .ok xs' ∧ xs.Perm xs' ∧ (xs.map key).Nodup := by
  obtain ⟨hitems, hdistinct⟩ := (collect_nil_eq_ok step).mp h
  obtain ⟨xs', hitems', hxs⟩ := List.perm_comp_forall₂ hperm.symm hitems
  have hdistinct' : (xs'.map key).Nodup := (hxs.map key).nodup_iff.mpr hdistinct
  exact ⟨xs', (collect_nil_eq_ok step).mpr ⟨hitems', hdistinct'⟩, hxs.symm, hdistinct⟩

end Collecting

/-- The first member of each key, but for the keys that were seen. -/
def firsts (key : α → κ) (seen : List κ) : List α → List α
  | [] => []
  | x :: xs =>
    if seen.contains (key x) then firsts key seen xs
    else x :: firsts key (key x :: seen) xs

/-- They have keys of their own, other than those that were seen. -/
theorem firsts_spec (key : α → κ) (seen : List κ) (xs : List α) :
    ((firsts key seen xs).map key).Nodup ∧
      ∀ x ∈ firsts key seen xs, key x ∉ seen ∧ x ∈ xs := by
  induction xs generalizing seen with
  | nil => exact ⟨List.nodup_nil, fun _ h => nomatch h⟩
  | cons y xs ih =>
    unfold firsts
    by_cases hseen : seen.contains (key y) = true
    · rw [if_pos hseen]
      obtain ⟨hnodup, hnew⟩ := ih seen
      refine ⟨hnodup, fun x hx => ?_⟩
      exact ⟨(hnew x hx).1, List.mem_cons_of_mem _ (hnew x hx).2⟩
    · rw [if_neg hseen, List.map_cons, List.nodup_cons]
      obtain ⟨hnodup, hnew⟩ := ih (key y :: seen)
      refine ⟨⟨fun hmem => ?_, hnodup⟩, fun x hx => ?_⟩
      · obtain ⟨x, hx, hkey⟩ := List.mem_map.mp hmem
        exact (hnew x hx).1 (hkey ▸ List.mem_cons_self)
      · rcases List.mem_cons.mp hx with rfl | hx
        · exact ⟨fun h => hseen (List.contains_iff_mem.mpr h), List.mem_cons_self⟩
        · obtain ⟨hfresh, hmem⟩ := hnew x hx
          exact ⟨fun h => hfresh (List.mem_cons_of_mem _ h), List.mem_cons_of_mem _ hmem⟩

/-- A first member is what is found by its key. -/
theorem find?_of_mem_firsts {seen : List κ} {xs : List α} {x : α} (hx : x ∈ firsts key seen xs) :
    (xs.find? fun y => key y == key x) = some x := by
  induction xs generalizing seen with
  | nil => nomatch hx
  | cons y xs ih =>
    unfold firsts at hx
    split at hx
    · rename_i hseen
      have hother : key y ≠ key x := by
        intro h
        rw [h] at hseen
        exact ((firsts_spec key seen xs).2 x hx).1 (List.contains_iff_mem.mp hseen)
      rw [List.find?_cons_of_neg (by simpa using hother)]
      exact ih hx
    · rcases List.mem_cons.mp hx with rfl | hx
      · exact List.find?_cons_of_pos (beq_self_eq_true _)
      · have hother : key y ≠ key x := by
          intro h
          refine ((firsts_spec key (key y :: seen) xs).2 x hx).1 ?_
          rw [h]
          exact List.mem_cons_self
        rw [List.find?_cons_of_neg (by simpa using hother)]
        exact ih hx

/-- The keys of the first members are the keys, each once, in the order they come up. -/
theorem map_firsts (key : α → κ) (seen : List κ) (xs : List α) :
    (firsts key seen xs).map key = ((xs.map key).filter fun k => !seen.contains k).eraseDups := by
  induction xs generalizing seen with
  | nil => rfl
  | cons x xs ih =>
    unfold firsts
    rw [List.map_cons, List.filter_cons]
    by_cases hseen : seen.contains (key x) = true
    · rw [if_pos hseen, hseen, ih seen]
      rfl
    · rw [Bool.not_eq_true] at hseen
      rw [hseen, if_neg Bool.false_ne_true, List.map_cons, ih (key x :: seen), Bool.not_false,
        if_pos rfl, List.eraseDups_cons, List.filter_filter]
      simp

end MediaNetwork.Keyed

/-
  How routes get their ids.

  Every pair of terminals gets the id it declares or the next automatic one.  No id is given twice,
  for a reason that has two halves:

  1. declared ids are reserved, and each is checked against the ids used before;
  2. automatic ids count up from `automaticIds` places below 0x10000, and pass over reserved ones.
     Whatever was used before is reserved or was passed (`Passed`), so an automatic id can never
     fail the check (`Passed.drawn`).

  So the ids of the routes still to come are, each of them, either reserved and not used yet, or
  not reserved and at least as far as the count is (`Pending`).  That is the invariant of
  `assign_spec`: a declared id is taken out of the first half, an automatic one out of the second.
-/
import MediaNetwork.Proofs.Outcome
import MediaNetwork.Route.Assembly

namespace MediaNetwork.Route

open MediaNetwork.Outcome

variable {reserved : List UInt16}

/-! ## Automatic ids -/

/-- The id that is drawn is not reserved, and it is the one just before those that are left. -/
theorem drawId_spec {left : Nat} (hleft : left ≤ automaticIds) {id : UInt16} {rest : Nat}
    (h : drawId reserved left = some (id, rest)) :
    id ∉ reserved ∧ rest < left ∧ id.toNat = 0xFFFF - rest := by
  -- Each reserved id that is passed over leaves one place less.
  induction left with
  | zero => nomatch h
  | succ left ih =>
    have hid : (UInt16.ofNat (0xFFFF - left)).toNat = 0xFFFF - left := by
      show (0xFFFF - left) % 2 ^ 16 = 0xFFFF - left
      apply Nat.mod_eq_of_lt
      omega
    unfold drawId at h
    by_cases hres : reserved.contains (UInt16.ofNat (0xFFFF - left)) = true
    · rw [if_pos hres] at h
      obtain ⟨hnot, hlt, hval⟩ := ih (by omega) h
      exact ⟨hnot, by omega, hval⟩
    · rw [if_neg hres] at h
      cases h
      refine ⟨?_, by omega, hid⟩
      simpa using hres

/-! ## One pair -/

section Step

variable {source sink : Terminal} {used : List UInt16} {left rest : Nat} {id : UInt16}

/-- The id of a pair is the one it asks for, or it asks for none and one is drawn. -/
theorem pickId_eq_ok : pickId reserved left source sink = .ok (id, rest) ↔
    (declaredId source sink = some id ∧ rest = left) ∨
      (declaredId source sink = none ∧ drawId reserved left = some (id, rest)) := by
  unfold pickId
  cases declaredId source sink with
  | some asked => simp [eq_comm]
  | none =>
    cases drawId reserved left with
    | none => simp
    | some drawn => simp

/-- **One pair** gets an id that no route before has, and the others come after it. -/
theorem assign_cons_eq_ok {pairs : List (Terminal × Terminal)} {done routes : List Route} :
    assign reserved left used done ((source, sink) :: pairs) = .ok routes ↔
      ∃ id rest, pickId reserved left source sink = .ok (id, rest) ∧ id ∉ used ∧
        assign reserved rest (id :: used) (ofPair source sink id :: done) pairs = .ok routes := by
  rw [assign, bind_eq_ok]
  constructor
  · rintro ⟨⟨id, rest⟩, hpick, h⟩
    dsimp only at h
    split at h
    · nomatch h
    · rename_i hfresh
      exact ⟨id, rest, hpick, by simpa using hfresh, h⟩
  · rintro ⟨id, rest, hpick, hfresh, h⟩
    refine ⟨(id, rest), hpick, ?_⟩
    dsimp only
    rw [if_neg (by simpa using hfresh)]
    exact h

/-- Every id that was given is declared somewhere, or an automatic one that has been passed. -/
def Passed (reserved used : List UInt16) (left : Nat) : Prop :=
  ∀ id ∈ used, id ∈ reserved ∨ id.toNat < 0x10000 - left

theorem passed_nil : Passed reserved [] left := fun _ h => nomatch h

/-- A declared id can be given at any time. -/
theorem Passed.declared (h : Passed reserved used left) (hid : id ∈ reserved) :
    Passed reserved (id :: used) left := by
  intro x hx
  rcases List.mem_cons.mp hx with rfl | hx
  · exact Or.inl hid
  · exact h x hx

/-- **An automatic id is new**: what is drawn was not given before, so the check of it passes. -/
theorem Passed.drawn (h : Passed reserved used left) (hleft : left ≤ automaticIds)
    (hdraw : drawId reserved left = some (id, rest)) :
    id ∉ used ∧ Passed reserved (id :: used) rest := by
  obtain ⟨hnot, hlt, hval⟩ := drawId_spec hleft hdraw
  have hbound : left ≤ 0x8000 := hleft
  constructor
  · intro hused
    rcases h id hused with hres | hpassed
    · exact hnot hres
    · omega
  · intro x hx
    rcases List.mem_cons.mp hx with rfl | hx
    · exact Or.inr (by omega)
    · exact (h x hx).imp_right fun hpassed => by omega

/-! ## The invariant -/

/-- What an id that is still to be given can be: a declared one that is not used, or an automatic
    one that has not been passed. -/
def Pending (reserved used : List UInt16) (left : Nat) (id : UInt16) : Prop :=
  (id ∈ reserved ∧ id ∉ used) ∨ (id ∉ reserved ∧ 0x10000 - left ≤ id.toNat)

/-- The route of a pair, with the id the pair declares or an automatic one. -/
def Gets (reserved : List UInt16) (pair : Terminal × Terminal) (r : Route) : Prop :=
  r = ofPair pair.1 pair.2 r.routeId ∧
    (declaredId pair.1 pair.2 = some r.routeId ∨
      (declaredId pair.1 pair.2 = none ∧ r.routeId ∉ reserved ∧ 0x8000 ≤ r.routeId.toNat))

/-- The id of a pair was pending before, and it is not pending any more after. -/
theorem pickId_spec (hleft : left ≤ automaticIds)
    (hreserved : ∀ asked, declaredId source sink = some asked → asked ∈ reserved)
    (hpick : pickId reserved left source sink = .ok (id, rest)) (hfresh : id ∉ used) :
    rest ≤ left ∧ Gets reserved (source, sink) (ofPair source sink id) ∧
      Pending reserved used left id ∧
      ∀ x, Pending reserved (id :: used) rest x → Pending reserved used left x ∧ x ≠ id := by
  rcases pickId_eq_ok.mp hpick with ⟨hid, rfl⟩ | ⟨hnone, hdraw⟩
  · -- a declared id leaves the reserved ids that are not used
    have hmem : id ∈ reserved := hreserved id hid
    refine ⟨Nat.le_refl _, ⟨rfl, Or.inl hid⟩, Or.inl ⟨hmem, hfresh⟩, fun x hx => ?_⟩
    rcases hx with ⟨hres, hnot⟩ | ⟨hres, hle⟩
    · rw [List.mem_cons, not_or] at hnot
      exact ⟨Or.inl ⟨hres, hnot.2⟩, hnot.1⟩
    · refine ⟨Or.inr ⟨hres, hle⟩, ?_⟩
      rintro rfl
      exact hres hmem
  · -- an automatic id leaves those that the count has not passed
    obtain ⟨hnot, hlt, hval⟩ := drawId_spec hleft hdraw
    have hbound : left ≤ 0x8000 := hleft
    have hupper : 0x8000 ≤ id.toNat := by omega
    refine ⟨Nat.le_of_lt hlt, ⟨rfl, Or.inr ⟨hnone, hnot, hupper⟩⟩, Or.inr ⟨hnot, by omega⟩,
      fun x hx => ?_⟩
    rcases hx with ⟨hres, hused⟩ | ⟨hres, hle⟩
    · rw [List.mem_cons, not_or] at hused
      exact ⟨Or.inl ⟨hres, hused.2⟩, hused.1⟩
    · refine ⟨Or.inr ⟨hres, by omega⟩, ?_⟩
      rintro rfl
      omega

end Step

/-- A route goes in front of routes whose ids were still pending after it. -/
theorem pending_cons {used used' : List UInt16} {left left' : Nat} {first : Route}
    {more : List Route} (hfirst : Pending reserved used left first.routeId)
    (hlater : ∀ x, Pending reserved used' left' x →
      Pending reserved used left x ∧ x ≠ first.routeId)
    (hpending : ∀ r ∈ more, Pending reserved used' left' r.routeId)
    (hnodup : (more.map Route.routeId).Nodup) :
    (∀ r ∈ first :: more, Pending reserved used left r.routeId) ∧
      ((first :: more).map Route.routeId).Nodup := by
  constructor
  · intro r hr
    rcases List.mem_cons.mp hr with rfl | hr
    · exact hfirst
    · exact (hlater _ (hpending r hr)).1
  · rw [List.map_cons, List.nodup_cons]
    refine ⟨fun hin => ?_, hnodup⟩
    obtain ⟨r, hr, hsame⟩ := List.mem_map.mp hin
    exact (hlater _ (hpending r hr)).2 hsame

/-- **Ids**: every pair gets a route with its id, every id was pending, and no id is given twice.
    The induction is over the pairs; the declared ids of all pairs are reserved throughout. -/
theorem assign_spec {pairs : List (Terminal × Terminal)} {used : List UInt16} {left : Nat}
    {done routes : List Route} (hleft : left ≤ automaticIds)
    (hreserved : ∀ pair ∈ pairs, ∀ id, declaredId pair.1 pair.2 = some id → id ∈ reserved)
    (h : assign reserved left used done pairs = .ok routes) :
    ∃ more, routes = done.reverse ++ more ∧ List.Forall₂ (Gets reserved) pairs more ∧
      (∀ r ∈ more, Pending reserved used left r.routeId) ∧ (more.map Route.routeId).Nodup := by
  induction pairs generalizing used left done with
  | nil =>
    cases h
    exact ⟨[], by simp, List.Forall₂.nil, fun _ hr => (nomatch hr), List.nodup_nil⟩
  | cons pair pairs ih =>
    obtain ⟨source, sink⟩ := pair
    obtain ⟨id, rest, hpick, hfresh, h⟩ := assign_cons_eq_ok.mp h
    obtain ⟨hle, hfirst, hpends, hlater⟩ :=
      pickId_spec hleft (hreserved _ List.mem_cons_self) hpick hfresh
    obtain ⟨more, hroutes, hgets, hpending, hnodup⟩ := ih (Nat.le_trans hle hleft)
      (fun pair hpair => hreserved pair (List.mem_cons_of_mem _ hpair)) h
    have hfront : (ofPair source sink id :: done).reverse ++ more =
        done.reverse ++ ofPair source sink id :: more := by
      rw [List.reverse_cons, ← List.append_cons]
    exact ⟨ofPair source sink id :: more, hroutes.trans hfront, List.Forall₂.cons hfirst hgets,
      pending_cons hpends hlater hpending hnodup⟩

end MediaNetwork.Route

/-
  Outcomes: computations that end in a value or in an error.

  Every reader is a chain of such computations.  The lemmas open a chain that ended well
  (`bind_eq_ok`, `map_eq_ok`), a list of them (`mapM_eq_ok`, with lemmas about `Forall₂`), and a
  loop whose every step keeps an invariant (`foldlM_keeps`), or many of whose steps change nothing
  (`foldlM_eq_ok_iff_filter`).  What is known of the errors of a chain (`FailsWith`) is known of
  the errors of its parts.
-/
import Mathlib.Data.List.Forall2

namespace MediaNetwork.Outcome

variable {ε α β γ : Type}

/-- A pure computation ends well. -/
@[simp] theorem pure_eq_ok (a : α) : (pure a : Except ε α) = .ok a := rfl

@[simp] theorem ok_bind (a : α) (f : α → Except ε β) : (Except.ok a >>= f) = f a := rfl

@[simp] theorem error_bind (e : ε) (f : α → Except ε β) :
    ((Except.error e : Except ε α) >>= f) = .error e := rfl

@[simp] theorem map_ok (f : α → β) (a : α) : Except.map f (.ok a : Except ε α) = .ok (f a) := rfl

@[simp] theorem map_error (f : α → β) (e : ε) :
    Except.map f (.error e : Except ε α) = .error e := rfl

/-- A chain ends well if each of its two parts does. -/
theorem bind_eq_ok {x : Except ε α} {f : α → Except ε β} {b : β} :
    x >>= f = .ok b ↔ ∃ a, x = .ok a ∧ f a = .ok b := by
  cases x with
  | error e => simp
  | ok a => simp

/-- A mapped computation ends well with the image of what the computation ends with. -/
theorem map_eq_ok {x : Except ε α} {f : α → β} {b : β} :
    x.map f = .ok b ↔ ∃ a, x = .ok a ∧ f a = b := by
  cases x with
  | error e => simp
  | ok a => simp

/-- Where the images of two outcomes are the same, both end well or neither does. -/
theorem exists_ok_of_map_eq {x : Except ε α} {y : Except ε β} {f : α → γ} {g : β → γ}
    (h : x.map f = y.map g) {a : α} (ha : x = .ok a) : ∃ b, y = .ok b ∧ g b = f a := by
  rw [ha, map_ok] at h
  exact map_eq_ok.mp h.symm

/-- What is done to the value of a chain is done behind its last part. -/
theorem map_bind (x : Except ε α) (f : α → Except ε β) (g : β → γ) :
    (x >>= f).map g = x >>= fun a => (f a).map g := by
  cases x <;> rfl

/-- What is done to a value is done before the next part of the chain. -/
theorem bind_map (x : Except ε α) (f : α → β) (g : β → Except ε γ) :
    x.map f >>= g = x >>= fun a => g (f a) := by
  cases x <;> rfl

/-- A list of computations ends well if each of them does. -/
theorem mapM_eq_ok {f : α → Except ε β} {as : List α} {bs : List β} :
    as.mapM f = .ok bs ↔ List.Forall₂ (fun a b => f a = .ok b) as bs := by
  induction as generalizing bs with
  | nil =>
    constructor
    · intro h
      cases h
      exact List.Forall₂.nil
    · intro h
      cases h
      rfl
  | cons a as ih =>
    rw [List.mapM_cons, bind_eq_ok]
    constructor
    · rintro ⟨b, hb, h⟩
      obtain ⟨rest, hrest, h⟩ := bind_eq_ok.mp h
      cases h
      exact List.Forall₂.cons hb (ih.mp hrest)
    · intro h
      cases h with
      | cons hb hrest => exact ⟨_, hb, bind_eq_ok.mpr ⟨_, ih.mpr hrest, rfl⟩⟩

/-- What is related to the members of a list is related to one of them. -/
theorem exists_of_forall₂ {r : α → β → Prop} {as : List α} {bs : List β}
    (h : List.Forall₂ r as bs) {b : β} (hb : b ∈ bs) : ∃ a ∈ as, r a b := by
  induction h with
  | nil => nomatch hb
  | cons hr _ ih =>
    rcases List.mem_cons.mp hb with rfl | hb
    · exact ⟨_, List.mem_cons_self, hr⟩
    · obtain ⟨a, ha, hr⟩ := ih hb
      exact ⟨a, List.mem_cons_of_mem _ ha, hr⟩

/-- Lists that are related to the same list are related to each other. -/
theorem forall₂_comp {r : α → β → Prop} {s : β → γ → Prop} {t : α → γ → Prop}
    (h : ∀ a b c, r a b → s b c → t a c) {as : List α} {bs : List β} {cs : List γ}
    (hr : List.Forall₂ r as bs) (hs : List.Forall₂ s bs cs) : List.Forall₂ t as cs := by
  induction hr generalizing cs with
  | nil =>
    cases hs
    exact List.Forall₂.nil
  | cons hab _ ih =>
    cases hs with
    | cons hbc hrest => exact List.Forall₂.cons (h _ _ _ hab hbc) (ih hrest)

/-- Two lists have the same keys if their members have, one for one. -/
theorem map_eq_map_iff_forall₂ {f : α → γ} {g : β → γ} {as : List α} {bs : List β} :
    as.map f = bs.map g ↔ List.Forall₂ (fun a b => f a = g b) as bs := by
  rw [← List.forall₂_eq_eq_eq, List.forall₂_map_left_iff, List.forall₂_map_right_iff]

/-- Where a condition treats related members alike, the first ones it picks are related. -/
theorem find?_of_forall₂ {r : α → β → Prop} {as : List α} {bs : List β}
    (h : List.Forall₂ r as bs) {p : α → Bool} {q : β → Bool}
    (halike : ∀ a b, r a b → p a = q b) : Option.Rel r (as.find? p) (bs.find? q) := by
  induction h with
  | nil => exact Option.Rel.none
  | @cons a b as bs hab _ ih =>
    rw [List.find?_cons, List.find?_cons, halike a b hab]
    cases q b with
    | true => exact Option.Rel.some hab
    | false => exact ih

/-- What is related to two lists, one behind the other, is two lists as well. -/
theorem exists_append_of_forall₂ {r : α → β → Prop} {as more : List α} {bs : List β}
    (h : List.Forall₂ r (as ++ more) bs) :
    ∃ bs₁ bs₂, List.Forall₂ r as bs₁ ∧ List.Forall₂ r more bs₂ ∧ bs = bs₁ ++ bs₂ := by
  induction as generalizing bs with
  | nil => exact ⟨[], bs, List.Forall₂.nil, h, rfl⟩
  | cons a as ih =>
    rw [List.cons_append] at h
    obtain ⟨b, rest, hr, hrest, rfl⟩ := List.forall₂_cons_left_iff.mp h
    obtain ⟨bs₁, bs₂, h₁, h₂, rfl⟩ := ih hrest
    exact ⟨b :: bs₁, bs₂, List.Forall₂.cons hr h₁, h₂, rfl⟩

/-- What every step of a loop keeps, the loop keeps. -/
theorem foldlM_keeps {f : β → α → Except ε β} (P : β → Prop) {as : List α}
    (step : ∀ b a b', a ∈ as → P b → f b a = .ok b' → P b') {b b' : β} (hb : P b)
    (h : as.foldlM f b = .ok b') : P b' := by
  induction as generalizing b with
  | nil =>
    cases h
    exact hb
  | cons a as ih =>
    rw [List.foldlM_cons] at h
    obtain ⟨c, hc, h⟩ := bind_eq_ok.mp h
    exact ih (fun b a b' ha => step b a b' (List.mem_cons_of_mem _ ha))
      (step b a c List.mem_cons_self hb hc) h

/-- Where every step of a loop adds its part to what is known, the loop adds the parts of all its
    steps. -/
theorem foldlM_collects {f : β → α → Except ε β} {part : α → List γ} {I : List γ → β → Prop}
    (step : ∀ known b a b', I known b → f b a = .ok b' → I (known ++ part a) b') {as : List α}
    {known : List γ} {b b' : β} (hb : I known b) (h : as.foldlM f b = .ok b') :
    I (known ++ as.flatMap part) b' := by
  induction as generalizing known b with
  | nil =>
    cases h
    rwa [List.flatMap_nil, List.append_nil]
  | cons a as ih =>
    rw [List.foldlM_cons] at h
    obtain ⟨c, hc, h⟩ := bind_eq_ok.mp h
    rw [List.flatMap_cons, ← List.append_assoc]
    exact ih (step known b a c hb hc) h

/-- Where the steps on some members change nothing, if they do not fail, the loop ends well exactly
    if these do not fail and the loop over the other members ends well. -/
theorem foldlM_eq_ok_iff_filter {f : β → α → Except ε β} {keep : α → Bool} {idle : α → Prop}
    (step : ∀ a, keep a = false → ∀ b c, f b a = .ok c ↔ idle a ∧ c = b) {as : List α} {b c : β} :
    as.foldlM f b = .ok c ↔
      (∀ a ∈ as, keep a = false → idle a) ∧ (as.filter keep).foldlM f b = .ok c := by
  induction as generalizing b with
  | nil => simp
  | cons a as ih =>
    rw [List.foldlM_cons, bind_eq_ok, List.filter_cons, List.forall_mem_cons]
    cases hkeep : keep a with
    | true =>
      rw [if_pos rfl, List.foldlM_cons, bind_eq_ok]
      constructor
      · rintro ⟨d, hd, h⟩
        obtain ⟨hidle, h⟩ := ih.mp h
        exact ⟨⟨fun h => (nomatch h), hidle⟩, d, hd, h⟩
      · rintro ⟨⟨-, hidle⟩, d, hd, h⟩
        exact ⟨d, hd, ih.mpr ⟨hidle, h⟩⟩
    | false =>
      rw [if_neg Bool.false_ne_true]
      constructor
      · rintro ⟨d, hd, h⟩
        obtain ⟨ha, rfl⟩ := (step a hkeep b d).mp hd
        obtain ⟨hidle, h⟩ := ih.mp h
        exact ⟨⟨fun _ => ha, hidle⟩, h⟩
      · rintro ⟨⟨ha, hidle⟩, h⟩
        exact ⟨b, (step a hkeep b b).mpr ⟨ha rfl, rfl⟩, ih.mpr ⟨hidle, h⟩⟩

/-- If each of a list of computations gives the image of what another gives, the list does. -/
theorem mapM_image {f : γ → Except ε α} {g : γ → Except ε β} (image : α → β)
    (step : ∀ c, g c = (f c).map image) (cs : List γ) :
    cs.mapM g = (cs.mapM f).map (List.map image) := by
  induction cs with
  | nil => rfl
  | cons c cs ih =>
    rw [List.mapM_cons, List.mapM_cons, step, ih, bind_map, map_bind]
    simp only [bind_map, map_bind]
    rfl

/-- If a step on images is the image of a step, a loop on images is the image of a loop. -/
theorem foldlM_image {f : β → α → Except ε β} {g : γ → α → Except ε γ} (image : β → γ)
    (step : ∀ b a, g (image b) a = (f b a).map image) (as : List α) (b : β) :
    as.foldlM g (image b) = (as.foldlM f b).map image := by
  induction as generalizing b with
  | nil => rfl
  | cons a as ih =>
    rw [List.foldlM_cons, List.foldlM_cons, step, bind_map, map_bind]
    simp only [ih]

/-! ## Successes -/

/-- The computation ends well. -/
def Succeeds (x : Except ε α) : Prop := ∃ a, x = .ok a

theorem succeeds_ok (a : α) : Succeeds (.ok a : Except ε α) := ⟨a, rfl⟩

/-- An error is no success. -/
theorem not_succeeds_error (e : ε) : ¬ Succeeds (.error e : Except ε α) := by
  rintro ⟨a, h⟩
  nomatch h

/-- Mapping the value of a computation leaves its success as it is. -/
theorem succeeds_map {x : Except ε α} (f : α → β) : Succeeds (x.map f) ↔ Succeeds x := by
  cases x with
  | ok a => exact iff_of_true (succeeds_ok (f a)) (succeeds_ok a)
  | error e => exact iff_of_false (not_succeeds_error e) (not_succeeds_error e)

/-- A list of computations that each end well ends well. -/
theorem succeeds_mapM {f : α → Except ε β} {as : List α} (h : ∀ a ∈ as, Succeeds (f a)) :
    Succeeds (as.mapM f) := by
  induction as with
  | nil => exact succeeds_ok []
  | cons a as ih =>
    obtain ⟨b, hb⟩ := h a List.mem_cons_self
    obtain ⟨bs, hbs⟩ := ih fun a ha => h a (List.mem_cons_of_mem _ ha)
    exact ⟨b :: bs, mapM_eq_ok.mpr (.cons hb (mapM_eq_ok.mp hbs))⟩

/-! ## Failures -/

/-- Every error the computation can end in is of this kind. -/
def FailsWith (P : ε → Prop) (x : Except ε α) : Prop := ∀ e, x = .error e → P e

namespace FailsWith

variable {P Q : ε → Prop}

theorem ok (a : α) : FailsWith P (.ok a : Except ε α) := by
  intro e h
  nomatch h

/-- The error that stops a computation is of the kind it is shown to be of. -/
theorem error {e : ε} (h : P e) : FailsWith P (.error e : Except ε α) := by
  intro e' he
  cases he
  exact h

/-- A kind of errors may be replaced by a wider one. -/
theorem mono {x : Except ε α} (hx : FailsWith P x) (h : ∀ e, P e → Q e) : FailsWith Q x :=
  fun e he => h e (hx e he)

/-- **Sequencing**: the first computation and, on what it may end with, the second. -/
theorem bind {x : Except ε α} {f : α → Except ε β} (hx : FailsWith P x)
    (hf : ∀ a, x = .ok a → FailsWith P (f a)) : FailsWith P (x >>= f) := by
  intro e he
  cases hxe : x with
  | error e' =>
    rw [hxe, error_bind] at he
    cases he
    exact hx e hxe
  | ok a =>
    rw [hxe, ok_bind] at he
    exact hf a hxe e he

/-- Mapping the value adds no errors. -/
theorem map {x : Except ε α} (hx : FailsWith P x) (f : α → β) : FailsWith P (x.map f) := by
  intro e he
  cases hxe : x with
  | error e' =>
    rw [hxe, map_error] at he
    cases he
    exact hx e hxe
  | ok a =>
    rw [hxe, map_ok] at he
    nomatch he

/-- **Lists**: the errors of a traversal are those of its steps. -/
theorem mapM {f : α → Except ε β} {as : List α} (h : ∀ a ∈ as, FailsWith P (f a)) :
    FailsWith P (as.mapM f) := by
  induction as with
  | nil => exact ok _
  | cons a as ih =>
    rw [List.mapM_cons]
    refine bind (h a List.mem_cons_self) fun b _ => ?_
    exact bind (ih fun a' ha' => h a' (List.mem_cons_of_mem _ ha')) fun bs _ => ok _

/-- A loop fails as its steps do; `I` is what the steps before keep. -/
theorem foldlM {f : β → α → Except ε β} (I : β → Prop) {as : List α}
    (hkeep : ∀ b a b', a ∈ as → I b → f b a = .ok b' → I b')
    (hfail : ∀ b a, a ∈ as → I b → FailsWith P (f b a)) {b : β} (hb : I b) :
    FailsWith P (as.foldlM f b) := by
  induction as generalizing b with
  | nil => exact ok _
  | cons a as ih =>
    rw [List.foldlM_cons]
    refine bind (hfail b a List.mem_cons_self hb) fun b' hb' => ?_
    exact ih (fun b a b' ha => hkeep b a b' (List.mem_cons_of_mem _ ha))
      (fun b a ha => hfail b a (List.mem_cons_of_mem _ ha)) (hkeep b a b' List.mem_cons_self hb hb')

end FailsWith

end MediaNetwork.Outcome

/-
  Two runs that agree.

  `Agree E R x y` says of two computations that both end well, with values related by `R`, or both
  in an error, with errors related by `E`.  It goes along with the way computations are put together
  (`bind`, `mapM`, `foldlM`), so two runs over related documents agree as soon as their readers do.

  Of errors it is either asked that they are the same but for the line they name
  (`CompileError.SameButLine`), or nothing.  Runs that end in the same value or in the same error
  but for its line concur (`Concur`).

  `Mirrors sure f x y` says that `y` ends in the image under `f` of what `x` ends in.  It allows `y`
  to end well where `x` does not, unless `sure`, and goes along with chains and loops as well.
-/
import MediaNetwork.Fault
import MediaNetwork.Proofs.Outcome

namespace MediaNetwork

namespace Outcome

/-- Both end well with values related by `R`, or both in errors related by `E`. -/
inductive Agree {ε ε' α β : Type} (E : ε → ε' → Prop) (R : α → β → Prop) :
    Except ε α → Except ε' β → Prop
  | ok {a : α} {b : β} (value : R a b) : Agree E R (.ok a) (.ok b)
  | error {e : ε} {e' : ε'} (fault : E e e') : Agree E R (.error e) (.error e')

namespace Agree

variable {ε ε' α β γ δ : Type} {E : ε → ε' → Prop} {R : α → β → Prop} {S : γ → δ → Prop}
  {x : Except ε α} {y : Except ε' β}

/-- Wider relations hold of the same runs. -/
theorem mono {E' : ε → ε' → Prop} {R' : α → β → Prop} (h : Agree E R x y)
    (hE : ∀ e e', E e e' → E' e e') (hR : ∀ a b, R a b → R' a b) : Agree E' R' x y := by
  cases h with
  | ok value => exact .ok (hR _ _ value)
  | error fault => exact .error (hE _ _ fault)

/-- **Sequencing**: runs agree if their beginnings do and, on related values, their
    continuations. -/
theorem bind {f : α → Except ε γ} {g : β → Except ε' δ} (h : Agree E R x y)
    (hf : ∀ a b, R a b → Agree E S (f a) (g b)) : Agree E S (x >>= f) (y >>= g) := by
  cases h with
  | ok value => exact hf _ _ value
  | error fault => exact .error fault

/-- Mapped runs agree if the maps keep values related. -/
theorem map {f : α → γ} {g : β → δ} (h : Agree E R x y) (hf : ∀ a b, R a b → S (f a) (g b)) :
    Agree E S (x.map f) (y.map g) := by
  cases h with
  | ok value => exact .ok (hf _ _ value)
  | error fault => exact .error fault

/-- Lists of computations agree if they do one by one. -/
theorem mapM {σ τ : Type} {Q : σ → τ → Prop} {f : σ → Except ε α} {g : τ → Except ε' β}
    (h : ∀ s t, Q s t → Agree E R (f s) (g t)) {ss : List σ} {ts : List τ}
    (hs : List.Forall₂ Q ss ts) : Agree E (List.Forall₂ R) (ss.mapM f) (ts.mapM g) := by
  induction hs with
  | nil => exact .ok List.Forall₂.nil
  | cons hst _ ih =>
    rw [List.mapM_cons, List.mapM_cons]
    refine (h _ _ hst).bind fun a b hab => ih.bind fun as bs habs => ?_
    exact .ok (List.Forall₂.cons hab habs)

/-- Loops agree if their steps keep the states related. -/
theorem foldlM {σ τ : Type} {Q : σ → τ → Prop} {f : α → σ → Except ε α} {g : β → τ → Except ε' β}
    (h : ∀ a b s t, R a b → Q s t → Agree E R (f a s) (g b t)) {ss : List σ} {ts : List τ}
    (hs : List.Forall₂ Q ss ts) {a : α} {b : β} (hab : R a b) :
    Agree E R (ss.foldlM f a) (ts.foldlM g b) := by
  induction hs generalizing a b with
  | nil => exact .ok hab
  | cons hst _ ih =>
    rw [List.foldlM_cons, List.foldlM_cons]
    exact (h _ _ _ _ hab hst).bind fun a b hab => ih hab

/-- What agrees on equal values ends well together, and then with the same value. -/
theorem eq_ok_iff {E : ε → ε' → Prop} {y : Except ε' α} (h : Agree E Eq x y) (a : α) :
    x = .ok a ↔ y = .ok a := by
  cases h with
  | ok value =>
    cases value
    simp
  | error fault => simp

end Agree

/-- Of two computations that end well together, and in the same, one agrees with whatever the other
    agrees with, if nothing is asked of errors. -/
theorem Agree.of_eq_ok_iff {ε ε' α β : Type} {R : α → β → Prop} {x x' : Except ε α}
    {y : Except ε' β} (h : ∀ a, x = .ok a ↔ x' = .ok a) (hxy : Agree (fun _ _ => True) R x' y) :
    Agree (fun _ _ => True) R x y := by
  cases hxy with
  | ok value =>
    rw [(h _).mpr rfl]
    exact .ok value
  | error fault =>
    cases x with
    | ok a => nomatch (h a).mp rfl
    | error e => exact .error trivial

/-! ## Images -/

/-- The second run ends in the image of what the first one ends in; if `sure`, it also ends in its
    error. -/
structure Mirrors {ε α β : Type} (sure : Prop) (f : α → β) (x : Except ε α) (y : Except ε β) :
    Prop where
  value : ∀ a, x = .ok a → y = .ok (f a)
  fault : sure → ∀ e, x = .error e → y = .error e

namespace Mirrors

variable {ε α β γ δ σ τ : Type} {sure : Prop} {f : α → β} {x : Except ε α} {y : Except ε β}

theorem ok (f : α → β) (a : α) : Mirrors sure f (.ok a : Except ε α) (.ok (f a)) := by
  refine ⟨fun a' h => ?_, fun _ e h => (nomatch h)⟩
  cases h
  rfl

/-- The image of a run mirrors it, errors included. -/
theorem of_eq_map (h : y = x.map f) : Mirrors sure f x y := by
  subst h
  refine ⟨fun a h => ?_, fun _ e h => ?_⟩
  · rw [h, map_ok]
  · rw [h, map_error]

/-- What surely mirrors a run is its image, errors included. -/
theorem eq_map (h : Mirrors sure f x y) (hsure : sure) : y = x.map f := by
  cases x with
  | ok a => exact h.value a rfl
  | error e => exact h.fault hsure e rfl

/-- Runs in a row mirror each other if the first do and the others do on images. -/
theorem bind {g : γ → δ} {k : α → Except ε γ} {l : β → Except ε δ} (h : Mirrors sure f x y)
    (hk : ∀ a, x = .ok a → Mirrors sure g (k a) (l (f a))) :
    Mirrors sure g (x >>= k) (y >>= l) := by
  cases x with
  | ok a =>
    rw [h.value a rfl]
    exact hk a rfl
  | error e =>
    refine ⟨fun c hc => (nomatch hc), fun hsure e' he => ?_⟩
    rw [h.fault hsure e rfl]
    cases he
    rfl

/-- Runs that begin with the same mirror each other if their continuations do. -/
theorem bind_same {g : γ → δ} {k : α → Except ε γ} {l : α → Except ε δ} (x : Except ε α)
    (hk : ∀ a, x = .ok a → Mirrors sure g (k a) (l a)) : Mirrors sure g (x >>= k) (x >>= l) := by
  have hx : Mirrors sure id x x := of_eq_map (by cases x <;> rfl)
  exact hx.bind hk

/-- Lists of runs mirror each other if they do one by one. -/
theorem mapM {g : σ → τ} {k : σ → Except ε α} {l : τ → Except ε β} {ss : List σ}
    (h : ∀ s ∈ ss, Mirrors sure f (k s) (l (g s))) :
    Mirrors sure (List.map f) (ss.mapM k) ((ss.map g).mapM l) := by
  induction ss with
  | nil => exact ok _ []
  | cons s ss ih =>
    rw [List.map_cons, List.mapM_cons, List.mapM_cons]
    refine (h s List.mem_cons_self).bind fun a _ => ?_
    refine (ih fun t ht => h t (List.mem_cons_of_mem _ ht)).bind fun as _ => ?_
    exact ok (List.map f) (a :: as)

/-- A loop mirrors another if its steps do; `I` is what the steps before keep. -/
theorem foldlM {g : σ → τ} {k : α → σ → Except ε α} {l : β → τ → Except ε β} (I : α → Prop)
    {ss : List σ} (hkeep : ∀ a s a', s ∈ ss → I a → k a s = .ok a' → I a')
    (hstep : ∀ a s, s ∈ ss → I a → Mirrors sure f (k a s) (l (f a) (g s))) {a : α} (ha : I a) :
    Mirrors sure f (ss.foldlM k a) ((ss.map g).foldlM l (f a)) := by
  induction ss generalizing a with
  | nil => exact ok f a
  | cons s ss ih =>
    rw [List.map_cons, List.foldlM_cons, List.foldlM_cons]
    refine (hstep a s List.mem_cons_self ha).bind fun b hb => ?_
    exact ih (fun a t a' ht => hkeep a t a' (List.mem_cons_of_mem _ ht))
      (fun a t ht => hstep a t (List.mem_cons_of_mem _ ht)) (hkeep a s b List.mem_cons_self ha hb)

end Mirrors

end Outcome

/-! ## Errors -/

/-- The fault with another line in the place of its own. -/
def Markup.MarkupFault.atLine (line : Nat) : Markup.MarkupFault → Markup.MarkupFault
  | .tag _ fault => .tag line fault
  | .unbalanced _ => .unbalanced line
  | .unclosed name _ => .unclosed name line
  | .secondRoot name _ => .secondRoot name line
  | fault => fault

/-- The faults are the same but for their lines. -/
def Markup.MarkupFault.SameButLine (f f' : Markup.MarkupFault) : Prop := f.atLine 0 = f'.atLine 0

namespace CompileError

/-- The error with another line in the place of its own. -/
def atLine (line : Nat) : CompileError → CompileError
  | markup fault => markup (fault.atLine line)
  | missingElement element child _ => missingElement element child line
  | missingAttribute element key _ => missingAttribute element key line
  | invalidLiteral element key value _ => invalidLiteral element key value line
  | outOfRange element key value max _ => outOfRange element key value max line
  | invalidValue element key value _ => invalidValue element key value line
  | shape fault _ => shape fault line
  | e => e

/-- The errors are the same but for their lines. -/
def SameButLine (e e' : CompileError) : Prop := e.atLine 0 = e'.atLine 0

end CompileError

/-- Two runs end in the same value, or in the same error but for its line. -/
abbrev Concur {α : Type} (x y : Except CompileError α) : Prop :=
  Outcome.Agree CompileError.SameButLine Eq x y

namespace Concur

open MediaNetwork.Outcome

variable {α β γ : Type} {x y : Except CompileError α}

theorem refl (x : Except CompileError α) : Concur x x := by
  cases x with
  | ok a => exact .ok rfl
  | error e => exact .error rfl

/-- Two runs that concur end in the same value, or in two errors. -/
theorem cases (h : Concur x y) : (∃ a, x = .ok a ∧ y = .ok a) ∨
    ∃ e e' : CompileError, x = .error e ∧ y = .error e' ∧ e.SameButLine e' := by
  cases h with
  | @ok a b value =>
    cases value
    exact Or.inl ⟨a, rfl, rfl⟩
  | @error e e' fault => exact Or.inr ⟨e, e', rfl, rfl, fault⟩

/-- Runs that concur may be continued: they end in the same, so only its continuations count. -/
theorem bind {R : β → γ → Prop} {f : α → Except CompileError β} {g : α → Except CompileError γ}
    (h : Concur x y) (hf : ∀ a, Agree CompileError.SameButLine R (f a) (g a)) :
    Agree CompileError.SameButLine R (x >>= f) (y >>= g) := by
  refine Agree.bind h fun a b hab => ?_
  cases hab
  exact hf a

/-- What is made of the same value is related by whatever the two maps are. -/
theorem map {R : β → γ → Prop} {f : α → β} {g : α → γ} (h : Concur x y)
    (hf : ∀ a, R (f a) (g a)) : Agree CompileError.SameButLine R (x.map f) (y.map g) := by
  refine Agree.map h fun a b hab => ?_
  cases hab
  exact hf a

/-- Lists of runs concur if they do one by one. -/
theorem mapM {σ τ : Type} {Q : σ → τ → Prop} {f : σ → Except CompileError α}
    {g : τ → Except CompileError α} (h : ∀ s t, Q s t → Concur (f s) (g t)) {ss : List σ}
    {ts : List τ} (hs : List.Forall₂ Q ss ts) : Concur (ss.mapM f) (ts.mapM g) := by
  refine (Agree.mapM h hs).mono (fun _ _ fault => fault) fun as bs hab => ?_
  rwa [← List.forall₂_eq_eq_eq]

end Concur

end MediaNetwork

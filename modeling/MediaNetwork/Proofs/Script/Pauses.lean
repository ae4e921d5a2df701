/-
  Pauses of a script.

  Pauses add up before the next action, up to what a step can wait for.  The reader carries the sum
  along; seen from the document there is no sum to carry:

  1. `delayBefore` is how long the pauses take that stand just before a place of a script.  It is a
     function of what stands before the place, and grows or starts again with every further child.
  2. `Timed` says which steps a script has: one for each action, with the delay before its place.
     It is kept by every child (`timed_nil`, `Timed.add_pause`, `Timed.add_action`).
  3. The run (`stepsFrom_run`): what is carried along is the delay before the place reached, so the
     reader gets to the end, or to the first pause with which the delay is too long.  The induction
     is over the children that are left.
  4. Runs of pauses — no delay is too long exactly if no maximal run of pauses takes too long
     (`inTime_iff`), since the delays within a run grow up to that of the whole run.
-/
import Mathlib.Algebra.Ring.Nat
import Mathlib.Data.List.DropRight
import MediaNetwork.Proofs.Print.Attributes
import MediaNetwork.Script.Basic

namespace MediaNetwork

open MediaNetwork.Markup MediaNetwork.Outcome

namespace Script

variable (wait : Element → UInt16) (action : Element → Action)

/-! ## Delays -/

/-- How long these pauses take together. -/
def totalWait (pauses : List Element) : Nat := (pauses.map fun p => (wait p).toNat).sum

/-- How long the pauses take that stand just before a place, if `before` is what stands before. -/
def delayBefore (before : List Element) : Nat := totalWait wait (before.rtakeWhile isPause)

/-- Nowhere in the script is the delay longer than a step can wait. -/
def InTime (children : List Element) : Prop :=
  ∀ before, before <+: children → delayBefore wait before ≤ 65535

variable {wait} {action}

theorem delayBefore_pause {before : List Element} {p : Element} (hp : isPause p = true) :
    delayBefore wait (before ++ [p]) = delayBefore wait before + (wait p).toNat := by
  unfold delayBefore totalWait
  rw [List.rtakeWhile_concat_pos isPause before p hp]
  simp

theorem delayBefore_action {before : List Element} {c : Element} (hc : isPause c = false) :
    delayBefore wait (before ++ [c]) = 0 := by
  unfold delayBefore
  rw [List.rtakeWhile_concat_neg isPause before c (by simp [hc])]
  rfl

theorem inTime_nil : InTime wait [] := by
  intro before hbefore
  rw [List.prefix_nil.mp hbefore]
  exact Nat.zero_le _

/-- One more place is in time if all before are and the delay there is. -/
theorem InTime.concat {before : List Element} {c : Element} (h : InTime wait before)
    (hc : delayBefore wait (before ++ [c]) ≤ 65535) : InTime wait (before ++ [c]) := by
  intro earlier hearlier
  rcases List.prefix_concat_iff.mp hearlier with heq | hprefix
  · rw [heq]
    exact hc
  · exact h earlier hprefix

/-! ## Steps -/

/-- The actions among the children of a script. -/
def actions (children : List Element) : List Element := children.filter fun c => !isPause c

variable (wait action) in
/-- The steps are those of the actions, one for each and in order; each has the message and the
    answer of its action and is delayed by the pauses just before it. -/
structure Timed (children : List Element) (steps : List ScriptStep) : Prop where
  length : steps.length = (actions children).length
  step : ∀ before c after, children = before ++ c :: after → isPause c = false →
    ∃ step, steps[(actions before).length]? = some step ∧
      step.command = (action c).command ∧ step.expected = (action c).expected ∧
      step.pauseMs.toNat = delayBefore wait before

theorem timed_nil : Timed wait action [] [] := by
  refine ⟨rfl, fun before c after h => ?_⟩
  simp at h

/-- A place of a list with one more member is the last one or a place of the list. -/
theorem place_of_concat {before earlier later : List Element} {x c : Element}
    (h : before ++ [x] = earlier ++ c :: later) :
    (earlier = before ∧ c = x) ∨ ∃ rest, before = earlier ++ c :: rest := by
  rcases List.eq_nil_or_concat' later with rfl | ⟨rest, y, rfl⟩
  · obtain ⟨hbefore, hx⟩ := List.append_inj' h rfl
    exact Or.inl ⟨hbefore.symm, (List.singleton_inj.mp hx).symm⟩
  · rw [← List.cons_append, ← List.append_assoc] at h
    exact Or.inr ⟨rest, (List.append_inj' h rfl).1⟩

theorem actions_concat_pause {before : List Element} {p : Element} (hp : isPause p = true) :
    actions (before ++ [p]) = actions before := by
  simp [actions, hp]

theorem actions_concat_action {before : List Element} {c : Element} (hc : isPause c = false) :
    actions (before ++ [c]) = actions before ++ [c] := by
  simp [actions, hc]

/-- A pause behind the steps is no step. -/
theorem Timed.add_pause {before : List Element} {steps : List ScriptStep}
    (h : Timed wait action before steps) {p : Element} (hp : isPause p = true) :
    Timed wait action (before ++ [p]) steps := by
  refine ⟨by rw [actions_concat_pause hp, h.length], fun earlier c later hplace hc => ?_⟩
  rcases place_of_concat hplace with ⟨-, rfl⟩ | ⟨rest, hrest⟩
  · rw [hp] at hc
    nomatch hc
  · exact h.step earlier c rest hrest hc

/-- An action behind the steps is one more step, with the delay of its place. -/
theorem Timed.add_action {before : List Element} {steps : List ScriptStep}
    (h : Timed wait action before steps) {c : Element} (hc : isPause c = false) {pending : UInt16}
    (hpending : pending.toNat = delayBefore wait before) :
    Timed wait action (before ++ [c])
      (steps ++ [⟨pending, (action c).command, (action c).expected⟩]) := by
  refine ⟨?_, fun earlier d later hplace hd => ?_⟩
  · rw [actions_concat_action hc, List.length_append, List.length_append, h.length]
    rfl
  rcases place_of_concat hplace with ⟨rfl, rfl⟩ | ⟨rest, hrest⟩
  · refine ⟨⟨pending, (action d).command, (action d).expected⟩, ?_, rfl, rfl, hpending⟩
    rw [← h.length]
    exact List.getElem?_concat_length
  · obtain ⟨step, hstep, hsays⟩ := h.step earlier d rest hrest hd
    refine ⟨step, ?_, hsays⟩
    rw [List.getElem?_append_left (List.getElem?_eq_some_iff.mp hstep).1]
    exact hstep

/-! ## The run -/

theorem addPause_of_word {pending : UInt16} {e : Element} {w : UInt16}
    (h : e.word Schema.waitTime = .ok w) : addPause pending e =
      if pending.toNat + w.toNat ≤ 65535 then .ok (UInt16.ofNat (pending.toNat + w.toNat))
      else .error (.outOfRange e.name Schema.waitTime
        (toString (pending.toNat + w.toNat)) 65535 e.line) := by
  unfold addPause
  rw [h, ok_bind]
  rfl

variable (wait) in
/-- The first pause with which the delay is too long, and what stands before it. -/
structure Overlong (children before : List Element) (p : Element) : Prop where
  place : ∃ after, children = before ++ p :: after
  pause : isPause p = true
  late : 65535 < delayBefore wait (before ++ [p])
  first : InTime wait before

/-- **The run**: from a place that was reached in time the reader gets to the end, and has the steps
    of the whole script, or it stops at the first pause with which the delay is too long.  The
    induction is over the children that are left. -/
theorem stepsFrom_run {es : List Element}
    (hwait : ∀ e ∈ es, isPause e = true → e.word Schema.waitTime = .ok (wait e))
    (haction : ∀ e ∈ es, isPause e = false → Action.ofElement e = .ok (action e))
    {before : List Element} {pending : UInt16} {done : List ScriptStep}
    (hpending : pending.toNat = delayBefore wait before)
    (hdone : Timed wait action before done.reverse) (htime : InTime wait before) :
    (∃ steps, stepsFrom pending done es = .ok steps ∧ Timed wait action (before ++ es) steps ∧
        InTime wait (before ++ es)) ∨
      ∃ earlier p, Overlong wait (before ++ es) earlier p ∧ stepsFrom pending done es =
        .error (.outOfRange p.name Schema.waitTime
          (toString (delayBefore wait (earlier ++ [p]))) 65535 p.line) := by
  induction es generalizing before pending done with
  | nil =>
    rw [List.append_nil]
    exact Or.inl ⟨done.reverse, rfl, hdone, htime⟩
  | cons e es ih =>
    have hwait' := fun x hx => hwait x (List.mem_cons_of_mem e hx)
    have haction' := fun x hx => haction x (List.mem_cons_of_mem e hx)
    rw [List.append_cons]
    unfold stepsFrom
    cases hpause : isPause e with
    | true =>
      -- a pause lengthens the delay; what is pending stays the delay as long as it fits
      have hsum : delayBefore wait (before ++ [e]) = pending.toNat + (wait e).toNat := by
        rw [delayBefore_pause hpause, hpending]
      rw [if_pos rfl, addPause_of_word (hwait e List.mem_cons_self hpause), ← hsum]
      by_cases hle : delayBefore wait (before ++ [e]) ≤ 65535
      · rw [if_pos hle]
        exact ih hwait' haction' (UInt16.toNat_ofNat_of_lt' (Nat.lt_succ_of_le hle))
          (hdone.add_pause hpause) (htime.concat hle)
      · rw [if_neg hle]
        refine Or.inr ⟨before, e, ⟨⟨es, ?_⟩, hpause, Nat.lt_of_not_le hle, htime⟩, rfl⟩
        rw [← List.append_cons]
    | false =>
      -- an action takes what is pending, and behind it the delay begins anew
      have hzero : delayBefore wait (before ++ [e]) = 0 := delayBefore_action hpause
      rw [if_neg Bool.false_ne_true, haction e List.mem_cons_self hpause]
      have hdone' := hdone.add_action hpause hpending
      rw [← List.reverse_cons] at hdone'
      exact ih hwait' haction' hzero.symm hdone' (htime.concat (by omega))

/-- Pauses with nothing behind them make no step. -/
theorem stepsFrom_pauses {trailing : List Element} (h : ∀ p ∈ trailing, isPause p = true)
    {pending : UInt16} {done steps : List ScriptStep}
    (hsteps : stepsFrom pending done trailing = .ok steps) : steps = done.reverse := by
  induction trailing generalizing pending with
  | nil =>
    cases hsteps
    rfl
  | cons p trailing ih =>
    unfold stepsFrom at hsteps
    rw [if_pos (h p List.mem_cons_self)] at hsteps
    split at hsteps
    · nomatch hsteps
    · exact ih (fun q hq => h q (List.mem_cons_of_mem p hq)) hsteps

/-- So they may as well be left out. -/
theorem stepsFrom_of_append {kept trailing : List Element} (h : ∀ p ∈ trailing, isPause p = true)
    {pending : UInt16} {done steps : List ScriptStep}
    (hsteps : stepsFrom pending done (kept ++ trailing) = .ok steps) :
    stepsFrom pending done kept = .ok steps := by
  induction kept generalizing pending done with
  | nil =>
    rw [stepsFrom_pauses h hsteps]
    rfl
  | cons e kept ih =>
    rw [List.cons_append] at hsteps
    unfold stepsFrom at hsteps ⊢
    split at hsteps
    · rename_i hpause
      rw [if_pos hpause]
      split at hsteps
      · nomatch hsteps
      · exact ih hsteps
    · rename_i haction
      rw [if_neg haction]
      split at hsteps
      · nomatch hsteps
      · exact ih hsteps

/-! ## Runs of pauses -/

/-- The pauses follow each other in the script, and no other stands next to them. -/
def IsRun (children run : List Element) : Prop :=
  ∃ before after, children = before ++ run ++ after ∧ run ≠ [] ∧
    (∀ p ∈ run, isPause p = true) ∧ (∀ p, before.getLast? = some p → isPause p = false) ∧
    ∀ p, after.head? = some p → isPause p = false

/-- Just before the end of a run stand the pauses of the run. -/
theorem delayBefore_run {before run : List Element} (hrun : ∀ p ∈ run, isPause p = true)
    (hbefore : ∀ p, before.getLast? = some p → isPause p = false) :
    delayBefore wait (before ++ run) = totalWait wait run := by
  have hback : ∀ p ∈ run.reverse, isPause p = true :=
    fun p hp => hrun p (List.mem_reverse.mp hp)
  have hnone : before.reverse.takeWhile isPause = [] := by
    rw [← List.head?_reverse] at hbefore
    cases hreverse : before.reverse with
    | nil => rfl
    | cons p rest =>
      rw [hreverse] at hbefore
      exact List.takeWhile_cons_of_neg (by simp [hbefore p rfl])
  unfold delayBefore List.rtakeWhile
  rw [List.reverse_append, List.takeWhile_append_of_pos hback, hnone, List.append_nil,
    List.reverse_reverse]

/-- **Runs of pauses**: no delay is too long exactly if no run takes too long. -/
theorem inTime_iff {children : List Element} :
    InTime wait children ↔ ∀ run, IsRun children run → totalWait wait run ≤ 65535 := by
  constructor
  · rintro h run ⟨before, after, rfl, -, hrun, hbefore, -⟩
    rw [← delayBefore_run hrun hbefore]
    exact h _ (List.prefix_append _ _)
  · rintro h before ⟨after, rfl⟩
    -- The pauses just before the place are the beginning of a run.
    have hdelay : delayBefore wait before ≤
        totalWait wait (before.rtakeWhile isPause ++ after.takeWhile isPause) := by
      unfold delayBefore totalWait
      rw [List.map_append, List.sum_append]
      exact Nat.le_add_right _ _
    by_cases hnone : before.rtakeWhile isPause ++ after.takeWhile isPause = []
    · rw [hnone] at hdelay
      exact Nat.le_trans hdelay (Nat.zero_le _)
    · refine Nat.le_trans hdelay (h _ ⟨before.rdropWhile isPause, after.dropWhile isPause, ?_,
        hnone, ?_, ?_, ?_⟩)
      · rw [← List.append_assoc, List.rdropWhile_append_rtakeWhile, List.append_assoc,
          List.takeWhile_append_dropWhile]
      · intro p hp
        rcases List.mem_append.mp hp with hp | hp
        · exact List.mem_rtakeWhile_imp hp
        · exact List.mem_takeWhile_imp hp
      · intro p hp
        have hne : before.rdropWhile isPause ≠ [] := by
          intro hnil
          rw [hnil] at hp
          nomatch hp
        have hnot := List.rdropWhile_last_not isPause before hne
        rw [List.getLast?_eq_some_getLast hne, Option.some.injEq] at hp
        rwa [hp, Bool.not_eq_true] at hnot
      · intro p hp
        have hnot := List.head?_dropWhile_not isPause after
        rw [hp] at hnot
        exact hnot

/-! ## Scripts -/

/-- **Pauses are neither lost nor moved.**  A script is given whose pauses can be read, as `wait`,
    and whose other children can be read, as `action`.  It is compiled exactly if no run of pauses
    takes longer than a step can wait.  Then its steps are those of its actions, each delayed by the
    pauses just before it, and pauses behind the last action change nothing; else the first pause
    with which the delay is too long is blamed, with that delay. -/
theorem pauses_exact {e : Element} {name : String} {wait : Element → UInt16}
    {action : Element → Action} (hname : e.attribute? Schema.name = some name)
    (hwait : ∀ c ∈ e.children, isPause c = true → c.word Schema.waitTime = .ok (wait c))
    (haction : ∀ c ∈ e.children, isPause c = false → Action.ofElement c = .ok (action c)) :
    (Succeeds (ofElement e) ↔
      ∀ run, IsRun e.children run → totalWait wait run ≤ 65535) ∧
    (∀ s, ofElement e = .ok s → s.name = name ∧ Timed wait action e.children s.steps ∧
      ∀ kept trailing, e.children = kept ++ trailing → (∀ p ∈ trailing, isPause p = true) →
        ofElement { e with children := kept } = .ok s) ∧
    (¬ Succeeds (ofElement e) → ∃ before p, Overlong wait e.children before p ∧
      ofElement e = .error (.outOfRange p.name Schema.waitTime
        (toString (delayBefore wait (before ++ [p]))) 65535 p.line)) := by
  have hread : ∀ children, ofElement { e with children := children } =
      (stepsFrom 0 [] children).map fun steps => ⟨name, steps⟩ := by
    intro children
    have htext : ({ e with children := children } : Element).text Schema.name = .ok name :=
      Element.text_eq_ok.mpr hname
    unfold ofElement
    rw [htext, ok_bind]
    rfl
  have hself : ofElement e = (stepsFrom 0 [] e.children).map fun steps => ⟨name, steps⟩ :=
    hread e.children
  have hdelay : (0 : UInt16).toNat = delayBefore wait [] := rfl
  have hstart : Timed wait action [] ([] : List ScriptStep).reverse := timed_nil
  have hrun := stepsFrom_run hwait haction hdelay hstart inTime_nil
  rw [List.nil_append] at hrun
  rw [hself, succeeds_map, ← inTime_iff]
  rcases hrun with ⟨steps, hsteps, htimed, htime⟩ | ⟨before, p, hlong, hfault⟩
  · rw [hsteps]
    refine ⟨iff_of_true (succeeds_ok steps) htime, fun s hs => ?_,
      fun hnot => absurd (succeeds_ok steps) hnot⟩
    cases hs
    refine ⟨rfl, htimed, fun kept trailing hchildren htrailing => ?_⟩
    rw [hchildren] at hsteps
    rw [hread, stepsFrom_of_append htrailing hsteps]
    rfl
  · rw [hfault]
    refine ⟨iff_of_false (not_succeeds_error _) fun htime => ?_, fun s hs => (nomatch hs),
      fun _ => ⟨before, p, hlong, rfl⟩⟩
    -- the place behind the pause is a place of the script
    obtain ⟨after, hafter⟩ := hlong.place
    have hplace : before ++ [p] <+: e.children := by
      rw [hafter, List.append_cons before p after]
      exact List.prefix_append (before ++ [p]) after
    exact absurd (htime _ hplace) (Nat.not_le_of_lt hlong.late)

/-- A script with a run of two pauses before its action and with a pause behind it. -/
def pausingScript (second : String) : Element :=
  ⟨"Script", [("Name", "s")], [⟨"Pause", [("WaitTime", "65000")], [], 2⟩,
    ⟨"Pause", [("WaitTime", second)], [], 3⟩, ⟨"GPIOPortCreate", [("DebounceTime", "1")], [], 4⟩,
    ⟨"Pause", [("WaitTime", "7")], [], 5⟩], 1⟩

/-- How long its pauses are, if this is how long the second one is. -/
def pausingWait (second : UInt16) (e : Element) : UInt16 :=
  if e.line = 2 then 65000 else if e.line = 3 then second else 7

/-- The script at its limit has a step with the longest delay; with one more it is refused. -/
theorem pauses_pausingScript :
    (∃ s, ofElement (pausingScript "535") = .ok s ∧ s.steps.length = 1 ∧
      Timed (pausingWait 535) (fun _ => .gpioPortCreate 1) (pausingScript "535").children s.steps ∧
      delayBefore (pausingWait 535) ((pausingScript "535").children.take 2) = 65535) ∧
    ∃ before p, Overlong (pausingWait 536) (pausingScript "536").children before p ∧
      ofElement (pausingScript "536") = .error (.outOfRange p.name "WaitTime"
        (toString (delayBefore (pausingWait 536) (before ++ [p]))) 65535 p.line) := by
  have hwait : ∀ pause ∈ [("535", (535 : UInt16)), ("536", 536)],
      ∀ c ∈ (pausingScript pause.1).children, isPause c = true →
        c.word Schema.waitTime = .ok (pausingWait pause.2 c) := by
    decide +kernel
  have haction : ∀ text ∈ ["535", "536"], ∀ c ∈ (pausingScript text).children,
      isPause c = false → Action.ofElement c = .ok (.gpioPortCreate 1) := by
    decide +kernel
  have hname : ∀ text, (pausingScript text).attribute? Schema.name = some "s" := fun _ => rfl
  have hfits := pauses_exact (hname "535") (hwait ("535", 535) (by simp))
    (haction "535" (by simp))
  have hlong := pauses_exact (hname "536") (hwait ("536", 536) (by simp))
    (haction "536" (by simp))
  constructor
  · have hscript : ofElement (pausingScript "535") =
        .ok ⟨"s", [⟨65535, ⟨0, 0, 0x701, 2, [0, 0, 1]⟩, ⟨0, 0, 0x701, 0x0C, []⟩⟩]⟩ := by
      decide +kernel
    exact ⟨_, hscript, rfl, (hfits.2.1 _ hscript).2.1, by decide +kernel⟩
  · refine hlong.2.2 fun ⟨s, hs⟩ => ?_
    have hfails : (ofElement (pausingScript "536")).toOption = none := by decide +kernel
    rw [hs] at hfails
    nomatch hfails

end Script

end MediaNetwork

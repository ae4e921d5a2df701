/-
  Printed scripts read back.

  A script is printed as pauses and freely composed messages, whatever actions it came from.

  1. One step — a compiled step expects the answer to its own message (`ScriptStep.Answered`), so
     nothing is lost when the message is all that is written (`stepsFrom_printStep`).
  2. One script — the steps are read one after the other (`ofElement_printScript`).
  3. All scripts — each script is printed once, under a name of its own, so they are read without
     a clash (`ofElements_printed`).
  4. Linking — the scripts that are printed are those the nodes have, hence every node finds its
     script again and no script is left over (`linkScripts_printed`).
-/
import MediaNetwork.Proofs.Collection
import MediaNetwork.Proofs.Print.Nodes
import MediaNetwork.Proofs.Stages

namespace MediaNetwork

open MediaNetwork.Markup MediaNetwork.Markup.Element MediaNetwork.Outcome MediaNetwork.Configuration

/-! ## Compiled steps -/

/-- The step expects the answer to its own message, with any payload. -/
def ScriptStep.Answered (step : ScriptStep) : Prop :=
  step.expected = { step.command with opType := step.expected.opType, payload := [] }

/-- Every step of the script expects the answer to its own message. -/
def Script.Answered (s : Script) : Prop := ∀ step ∈ s.steps, step.Answered

namespace Script

theorem answered_stepsFrom {es : List Element} {pending : UInt16} {done steps : List ScriptStep}
    (hdone : ∀ step ∈ done, step.Answered) (h : stepsFrom pending done es = .ok steps) :
    ∀ step ∈ steps, step.Answered := by
  induction es generalizing pending done with
  | nil =>
    cases h
    intro step hstep
    exact hdone step (List.mem_reverse.mp hstep)
  | cons e es ih =>
    unfold stepsFrom at h
    split at h
    · split at h
      · nomatch h
      · exact ih hdone h
    · split at h
      · nomatch h
      · rename_i action _
        refine ih (fun step hstep => ?_) h
        rcases List.mem_cons.mp hstep with rfl | hstep
        · rfl
        · exact hdone step hstep

theorem answered_ofElement {e : Element} {s : Script} (h : ofElement e = .ok s) : s.Answered := by
  obtain ⟨name, -, h⟩ := bind_eq_ok.mp h
  obtain ⟨steps, hsteps, h⟩ := bind_eq_ok.mp h
  cases h
  have hnone : ∀ step ∈ ([] : List ScriptStep), step.Answered := fun _ h => nomatch h
  exact answered_stepsFrom hnone hsteps

/-- All scripts of a document are such. -/
theorem answered_ofElements {es : List Element} {scripts : List Script}
    (h : ofElements es = .ok scripts) : ∀ s ∈ scripts, s.Answered := by
  intro s hs
  obtain ⟨e, -, he⟩ := exists_of_forall₂ (ofElements_eq_ok.mp h).1 hs
  exact answered_ofElement he

/-! ## One step -/

/-- The element of the message of a step. -/
def printedMessage (step : ScriptStep) : Printed :=
  .leaf Schema.msgSend
    ([(Schema.fblockId, hexByte step.command.fblockId),
      (Schema.instanceId, hexByte step.command.instanceId),
      (Schema.functionId, hexWord step.command.functionId),
      (Schema.opTypeRequest, hexByte step.command.opType),
      (Schema.opTypeResponse, hexByte step.expected.opType)] ++
      (if step.command.payload.isEmpty then [] else
        [(Schema.payloadHex, writePayload step.command.payload)]))

/-- The element of the pause before a step, if there is one. -/
def printedPause (step : ScriptStep) : List Printed :=
  if step.pauseMs = 0 then [] else
    [.leaf Schema.pause [(Schema.waitTime, decimalWord step.pauseMs)]]

theorem printStep_eq (step : ScriptStep) :
    printStep step = printedPause step ++ [printedMessage step] := rfl

/-- A printed message is read as a message that asks for the same answer. -/
theorem action_printed {step : ScriptStep} (hstep : step.Answered) {e : Element}
    (h : (printedMessage step).Shows e) :
    ∃ action, Action.ofElement e = .ok action ∧ action.command = step.command ∧
      action.expected = step.expected := by
  obtain ⟨hname, hattributes, -⟩ := h
  obtain ⟨payload, hpayload, hbytes⟩ : ∃ p, e.payload? Schema.payloadHex = .ok p ∧
      p.getD [] = step.command.payload := by
    refine payload?_written (attribute?_of hattributes ?_)
    cases step.command.payload <;> rfl
  refine ⟨.send step.command step.expected.opType, ?_, rfl, hstep.symm⟩
  rw [Action.ofElement, if_pos hname, Action.readSend,
    byte_hex (attribute?_of hattributes rfl), ok_bind,
    byte?_hex (attribute?_of hattributes rfl), ok_bind,
    word_hex (attribute?_of hattributes rfl), ok_bind,
    byte_hex (attribute?_of hattributes rfl), ok_bind, hpayload, ok_bind,
    byte?_hex (attribute?_of hattributes rfl), ok_bind, hbytes]
  rfl

/-- A printed step is read as the step. -/
theorem stepsFrom_printStep {step : ScriptStep} (hstep : step.Answered) {es : List Element}
    (h : List.Forall₂ Printed.Shows (printStep step) es) (done : List ScriptStep)
    (more : List Element) :
    stepsFrom 0 done (es ++ more) = stepsFrom 0 (step :: done) more := by
  -- With the pause of the step pending, its message completes the step.
  have hmessage : ∀ e, (printedMessage step).Shows e →
      stepsFrom step.pauseMs done (e :: more) = stepsFrom 0 (step :: done) more := by
    intro e he
    obtain ⟨action, haction, hcommand, hexpected⟩ := action_printed hstep he
    have hpause : isPause e = false := by
      unfold isPause
      rw [he.name_eq]
      rfl
    rw [stepsFrom, hpause, if_neg Bool.false_ne_true, haction]
    show stepsFrom 0 (⟨step.pauseMs, action.command, action.expected⟩ :: done) more = _
    rw [hcommand, hexpected]
  rw [printStep_eq, printedPause] at h
  by_cases hzero : step.pauseMs = 0
  · rw [if_pos hzero, List.nil_append] at h
    obtain ⟨e, rest, he, hrest, rfl⟩ := List.forall₂_cons_left_iff.mp h
    obtain rfl := List.forall₂_nil_left_iff.mp hrest
    rw [hzero] at hmessage
    exact hmessage e he
  · rw [if_neg hzero, List.singleton_append] at h
    obtain ⟨pause, es, hpause, hes, rfl⟩ := List.forall₂_cons_left_iff.mp h
    obtain ⟨e, rest, he, hrest, rfl⟩ := List.forall₂_cons_left_iff.mp hes
    obtain rfl := List.forall₂_nil_left_iff.mp hrest
    -- One pause alone stays within what a step can wait for.
    have hwait : addPause 0 pause = .ok step.pauseMs := by
      have hmax : step.pauseMs.toNat ≤ 65535 := Nat.le_of_lt_succ step.pauseMs.toNat_lt
      rw [addPause, word_decimal (attribute?_of hpause.2.1 rfl), ok_bind]
      simp [hmax]
    have hname : isPause pause = true := by
      unfold isPause
      rw [hpause.name_eq]
      rfl
    rw [List.cons_append, stepsFrom, if_pos hname, hwait]
    exact hmessage e he

/-! ## One script -/

/-- Printed steps are read as the steps, by induction over them. -/
theorem stepsFrom_printed {steps : List ScriptStep} (hsteps : ∀ step ∈ steps, step.Answered)
    {es : List Element} (h : List.Forall₂ Printed.Shows (steps.flatMap printStep) es)
    (done : List ScriptStep) : stepsFrom 0 done es = .ok (done.reverse ++ steps) := by
  induction steps generalizing es done with
  | nil =>
    rw [List.forall₂_nil_left_iff.mp h, List.append_nil]
    rfl
  | cons step steps ih =>
    rw [List.flatMap_cons] at h
    obtain ⟨first, rest, hfirst, hrest, rfl⟩ := exists_append_of_forall₂ h
    rw [stepsFrom_printStep (hsteps step List.mem_cons_self) hfirst,
      ih (fun s hs => hsteps s (List.mem_cons_of_mem _ hs)) hrest]
    simp

/-- **One script**: a printed script is read as the script. -/
theorem ofElement_printScript {s : Script} (hs : s.Answered) {e : Element}
    (h : (printScript s).Shows e) : ofElement e = .ok s := by
  obtain ⟨-, hattributes, hchildren⟩ := h
  rw [Printed.allShow_iff] at hchildren
  rw [ofElement, text_eq_ok.mpr (attribute?_of hattributes rfl), ok_bind,
    stepsFrom_printed hs hchildren]
  rfl

/-! ## All scripts -/

theorem distinctScripts_eq_firsts (seen : List String) (scripts : List Script) :
    distinctScripts seen scripts = Keyed.firsts Script.name seen scripts := by
  induction scripts generalizing seen with
  | nil => rfl
  | cons s scripts ih =>
    unfold distinctScripts Keyed.firsts
    rw [ih, ih]

theorem mem_of_mem_distinctScripts {scripts : List Script} :
    ∀ s ∈ distinctScripts [] scripts, s ∈ scripts := by
  rw [distinctScripts_eq_firsts]
  exact fun s hs => ((Keyed.firsts_spec _ _ _).2 s hs).2

/-- **All scripts**: what is printed of a list of compiled scripts is read. -/
theorem ofElements_printed {scripts : List Script} (hanswered : ∀ s ∈ scripts, s.Answered)
    {es : List Element}
    (h : List.Forall₂ Printed.Shows ((distinctScripts [] scripts).map printScript) es) :
    ofElements es = .ok (distinctScripts [] scripts) := by
  have hnodup : ((distinctScripts [] scripts).map Script.name).Nodup := by
    rw [distinctScripts_eq_firsts]
    exact (Keyed.firsts_spec _ _ _).1
  have hshows := (List.forall₂_and_left (distinctScripts [] scripts) es).mpr
    ⟨fun s hs => hanswered s (mem_of_mem_distinctScripts s hs), List.forall₂_map_left_iff.mp h⟩
  have hread := hshows.imp fun s e he => ofElement_printScript he.1 he.2
  exact ofElements_eq_ok.mpr ⟨hread.flip, hnodup⟩

/-! ## Linking -/

/-- Where a name tells the script, the script is found among those that are printed. -/
theorem named?_distinctScripts {find : String → Option Script} {seen : List String}
    {scripts : List Script} (hfind : ∀ s ∈ scripts, find s.name = some s) {s : Script}
    (hs : s ∈ scripts) (hseen : s.name ∉ seen) :
    named? (distinctScripts seen scripts) s.name = some s := by
  induction scripts generalizing seen with
  | nil => nomatch hs
  | cons t scripts ih =>
    have hlater : ∀ x ∈ scripts, find x.name = some x :=
      fun x hx => hfind x (List.mem_cons_of_mem _ hx)
    unfold distinctScripts
    by_cases hname : t.name = s.name
    · -- The first script of this name is printed, and it is this one.
      have hsame : t = s := by
        have := hfind t List.mem_cons_self
        rw [hname, hfind s hs] at this
        exact (Option.some.inj this).symm
      subst hsame
      simp [hseen, named?]
    · have hmem : s ∈ scripts := by
        rcases List.mem_cons.mp hs with rfl | hs
        · exact absurd rfl hname
        · exact hs
      split
      · exact ih hlater hmem hseen
      · have hskip : s.name ∉ t.name :: seen := by
          intro h
          rcases List.mem_cons.mp h with h | h
          · exact hname h.symm
          · exact hseen h
        rw [named?, List.find?_cons_of_neg (by simpa using hname)]
        exact ih hlater hmem hskip

theorem name_of_named? {scripts : List Script} {name : String} {s : Script}
    (h : named? scripts name = some s) : s.name = name := by
  simpa using List.find?_some h

end Script

/-- A node without a script gets the script it asks for, if it asks for one. -/
theorem linkScript_spec {scripts : List Script} {n m : Node} (hnone : n.script = none)
    (h : linkScript scripts n = .ok m) :
    (n.scriptName = none ∧ m = n ∧ m.script = none) ∨
      ∃ s, n.scriptName = some s.name ∧ Script.named? scripts s.name = some s ∧
        m = { n with script := some s } := by
  unfold linkScript at h
  split at h
  · rename_i hname
    cases h
    exact Or.inl ⟨hname, rfl, hnone⟩
  · rename_i name hname
    split at h
    · rename_i s hs
      cases h
      obtain rfl := Script.name_of_named? hs
      exact Or.inr ⟨s, hname, hs, rfl⟩
    · nomatch h

/-- The scripts that linked nodes have are asked for, and found by their names. -/
theorem used_of_linkScripts {scripts : List Script} {nodes linked : List Node}
    (hnone : ∀ n ∈ nodes, n.script = none)
    (h : List.Forall₂ (fun n m => linkScript scripts n = .ok m) nodes linked) :
    ∀ s ∈ linked.filterMap fun n => n.script,
      (∃ n ∈ nodes, n.scriptName = some s.name) ∧ Script.named? scripts s.name = some s := by
  intro s hs
  obtain ⟨m, hm, hscript⟩ := List.mem_filterMap.mp hs
  obtain ⟨n, hn, hlink⟩ := exists_of_forall₂ h hm
  rcases linkScript_spec (hnone n hn) hlink with ⟨-, -, hno⟩ | ⟨t, hname, ht, rfl⟩
  · rw [hno] at hscript
    nomatch hscript
  · cases hscript
    exact ⟨⟨n, hn, hname⟩, ht⟩

/-- So they are scripts of the document. -/
theorem answered_of_linkScripts {scripts : List Script} {nodes linked : List Node}
    (hanswered : ∀ s ∈ scripts, s.Answered) (hnone : ∀ n ∈ nodes, n.script = none)
    (h : linkScripts scripts nodes = .ok linked) :
    ∀ s ∈ linked.filterMap fun n => n.script, s.Answered := by
  intro s hs
  obtain ⟨-, hfound⟩ := used_of_linkScripts hnone (linkScripts_eq_ok h) s hs
  exact hanswered s (List.mem_of_find?_eq_some hfound)

/-- **Linking**: the scripts of the linked nodes, each once, are linked to the nodes as before. -/
theorem linkScripts_printed {scripts : List Script} {nodes linked : List Node}
    (hnone : ∀ n ∈ nodes, n.script = none) (h : linkScripts scripts nodes = .ok linked) :
    linkScripts (distinctScripts [] (linked.filterMap fun n => n.script)) nodes = .ok linked := by
  have hlinked := linkScripts_eq_ok h
  have hused := used_of_linkScripts hnone hlinked
  -- every node finds the script it was linked to among the printed ones
  have hagain : nodes.mapM (linkScript
      (distinctScripts [] (linked.filterMap fun n => n.script))) = .ok linked := by
    have hmem := (List.forall₂_and_left nodes linked).mpr ⟨fun n hn => hn, hlinked⟩
    have hmem' := (List.forall₂_and_left linked nodes).mpr ⟨fun m hm => hm, hmem.flip⟩
    refine mapM_eq_ok.mpr (hmem'.flip.imp fun n m hpair => ?_)
    obtain ⟨hm, hn, hlink⟩ := hpair
    rcases linkScript_spec (hnone n hn) hlink with ⟨hname, rfl, -⟩ | ⟨s, hname, -, rfl⟩
    · rw [linkScript, hname]
    · have hs : s ∈ linked.filterMap fun n => n.script := List.mem_filterMap.mpr ⟨_, hm, rfl⟩
      have hfound := Script.named?_distinctScripts (fun t ht => (hused t ht).2) hs
        (List.not_mem_nil (a := s.name))
      rw [linkScript, hname]
      simp only [hfound]
  -- and each printed script was found by some node
  have hunused : (distinctScripts [] (linked.filterMap fun n => n.script)).find?
      (fun s => !nodes.any fun n => n.scriptName == some s.name) = none := by
    rw [List.find?_eq_none]
    intro s hs
    obtain ⟨n, hn, hname⟩ := (hused s (Script.mem_of_mem_distinctScripts s hs)).1
    have hany : (nodes.any fun n => n.scriptName == some s.name) = true :=
      List.any_eq_true.mpr ⟨n, hn, by rw [hname]; exact beq_self_eq_true _⟩
    rw [hany]
    exact Bool.false_ne_true
  rw [linkScripts_eq, hagain, ok_bind]
  simp only [hunused]
  rfl

end MediaNetwork

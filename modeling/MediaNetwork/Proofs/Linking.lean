/-
  Linking node by node.

  The compiler looks up the scripts of all references first and hands them to the places of their
  nodes afterwards.  `linkScript` is the same thing for one node: the node with the script it asks
  for.  Every reference leads to a node, so handing out cannot fail, and linking all nodes is
  linking each of them, unless a script is left over (`linkScripts_eq`).
-/
import MediaNetwork.Compile
import MediaNetwork.Proofs.Outcome

namespace MediaNetwork

open MediaNetwork.Outcome

/-- A node with the script it asks for. -/
def linkScript (scripts : List Script) (node : Node) : Except CompileError Node :=
  match node.scriptName with
  | none => .ok node
  | some name =>
    match Script.named? scripts name with
    | some script => .ok { node with script := some script }
    | none => .error (.reference (.scriptNotFound name node.address))

namespace ScriptReference

/-- A script is asked for by a reference if a node asks for it. -/
theorem any_ofNodes (place : Nat) (nodes : List Node) (name : String) :
    ((ofNodes place nodes).any fun r => r.name == name) =
      nodes.any fun n => n.scriptName == some name := by
  induction nodes generalizing place with
  | nil => rfl
  | cons n nodes ih =>
    unfold ofNodes
    cases hname : n.scriptName with
    | none => simp [ih, hname]
    | some asked => simp [ih, hname]

end ScriptReference

/-- The place behind the nodes that are done is the next node's. -/
theorem attachScript_next (done : List Node) (n : Node) (nodes : List Node) (script : Script) :
    attachScript (done ++ n :: nodes) (done.length, script) =
      .ok (done ++ { n with script := some script } :: nodes) := by
  simp [attachScript]

/-- Looking up the references of nodes fails as linking the nodes does; if it does not fail, the
    scripts it finds turn the nodes into the linked ones, wherever the nodes stand. -/
theorem resolve_ofNodes (scripts : List Script) (place : Nat) (nodes : List Node) :
    (∃ e, (ScriptReference.ofNodes place nodes).mapM (ScriptReference.resolve scripts) = .error e ∧
      nodes.mapM (linkScript scripts) = .error e) ∨
    ∃ found linked,
      (ScriptReference.ofNodes place nodes).mapM (ScriptReference.resolve scripts) = .ok found ∧
      nodes.mapM (linkScript scripts) = .ok linked ∧
      ∀ done : List Node, done.length = place →
        found.foldlM attachScript (done ++ nodes) = .ok (done ++ linked) := by
  -- on the nodes; `place` moves on, as the nodes that are done are in front
  induction nodes generalizing place with
  | nil => exact Or.inr ⟨[], [], rfl, rfl, fun done _ => by simp⟩
  | cons n nodes ih =>
    unfold ScriptReference.ofNodes
    cases hname : n.scriptName with
    | none =>
      -- a node without a reference is passed over, by both
      have hlink : linkScript scripts n = .ok n := by rw [linkScript, hname]
      simp only [List.mapM_cons, hlink, ok_bind]
      rcases ih (place + 1) with ⟨e, hfound, hlinked⟩ | ⟨found, linked, hfound, hlinked, hattach⟩
      · exact Or.inl ⟨e, hfound, by rw [hlinked, error_bind]⟩
      · refine Or.inr ⟨found, n :: linked, hfound, by rw [hlinked, ok_bind]; rfl, ?_⟩
        intro done hdone
        have hrest := hattach (done ++ [n]) (by simp [hdone])
        simpa using hrest
    | some name =>
      simp only [List.mapM_cons]
      cases hscript : Script.named? scripts name with
      | none =>
        have hresolve : ScriptReference.resolve scripts ⟨place, n.address, name⟩ =
            .error (.reference (.scriptNotFound name n.address)) := by
          simp only [ScriptReference.resolve, hscript]
        have hlink : linkScript scripts n =
            .error (.reference (.scriptNotFound name n.address)) := by
          simp only [linkScript, hname, hscript]
        exact Or.inl ⟨_, by rw [hresolve, error_bind], by rw [hlink, error_bind]⟩
      | some script =>
        have hresolve : ScriptReference.resolve scripts ⟨place, n.address, name⟩ =
            .ok (place, script) := by
          simp only [ScriptReference.resolve, hscript]
        have hlink : linkScript scripts n = .ok { n with script := some script } := by
          simp only [linkScript, hname, hscript]
        rw [hresolve, hlink, ok_bind, ok_bind]
        rcases ih (place + 1) with ⟨e, hfound, hlinked⟩ | ⟨found, linked, hfound, hlinked, hattach⟩
        · exact Or.inl ⟨e, by rw [hfound, error_bind], by rw [hlinked, error_bind]⟩
        · refine Or.inr ⟨(place, script) :: found, { n with script := some script } :: linked,
            by rw [hfound, ok_bind]; rfl, by rw [hlinked, ok_bind]; rfl, ?_⟩
          rintro done rfl
          rw [List.foldlM_cons, attachScript_next, ok_bind]
          have hrest := hattach (done ++ [{ n with script := some script }]) (by simp)
          simpa using hrest

/-- **Linking is linking each node**, unless a script is left over. -/
theorem linkScripts_eq (scripts : List Script) (nodes : List Node) :
    linkScripts scripts nodes = do
      let linked ← nodes.mapM (linkScript scripts)
      match scripts.find? fun s => !nodes.any fun n => n.scriptName == some s.name with
      | some unused => .error (.reference (.scriptUnused unused.name))
      | none => return linked := by
  unfold linkScripts
  simp only [ScriptReference.any_ofNodes]
  rcases resolve_ofNodes scripts 0 nodes with ⟨e, hfound, hlinked⟩ |
    ⟨found, linked, hfound, hlinked, hattach⟩
  · rw [hfound, hlinked, error_bind, error_bind]
  · rw [hfound, hlinked, ok_bind, ok_bind]
    cases scripts.find? fun s => !nodes.any fun n => n.scriptName == some s.name with
    | some unused => rfl
    | none => exact hattach [] rfl

end MediaNetwork

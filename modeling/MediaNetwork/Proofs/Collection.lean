/-
  What is read one after the other, under names of its own.

  Scripts have names and drivers have links.  Both are read by a loop that refuses a name it has,
  so both lists are collections (`Keyed.collect_nil_eq_ok`): each element can be read by itself, and
  the names differ.

  1. Scripts — the elements are read as these scripts (`Script.ofElements_eq_ok`).
  2. Drivers — each element is given to a link that is known (`DriverRecord.assign_eq_ok`).
-/
import MediaNetwork.Driver.Derivation
import MediaNetwork.Script.Basic
import MediaNetwork.Proofs.Keyed

namespace MediaNetwork

open MediaNetwork.Markup MediaNetwork.Outcome

/-! ## Scripts -/

/-- Adding a script to others looks at its name only. -/
theorem Script.addTo_eq_ok (before : List Script) (e : Element) (after : List Script) :
    Script.addTo before e = .ok after ↔
      ∃ s, Script.ofElement e = .ok s ∧ s.name ∉ before.map Script.name ∧
        after = before ++ [s] := by
  unfold Script.addTo
  rw [bind_eq_ok]
  refine exists_congr fun s => and_congr_right fun _ => ?_
  by_cases hmem : s.name ∈ before.map Script.name
  · have hany : (before.any fun t => t.name == s.name) = true := by simpa using hmem
    simp [hany, hmem]
  · have hany : (before.any fun t => t.name == s.name) = false := by simpa using hmem
    rw [hany]
    simp [hmem, eq_comm]

/-- **Scripts** are read together exactly if each can be read and their names differ. -/
theorem Script.ofElements_eq_ok {es : List Element} {scripts : List Script} :
    Script.ofElements es = .ok scripts ↔
      List.Forall₂ (fun e s => Script.ofElement e = .ok s) es scripts ∧
        (scripts.map Script.name).Nodup :=
  Keyed.collect_nil_eq_ok Script.addTo_eq_ok

/-! ## Drivers -/

/-- **Drivers**: one more is given to its link if the link is known and has none. -/
theorem DriverRecord.assign_eq_ok (links : List String) (before : List (String × Element))
    (e : Element) (after : List (String × Element)) :
    DriverRecord.assign links before e = .ok after ↔
      ∃ g : String × Element, (e.text Schema.link = .ok g.1 ∧ g.1 ∈ links ∧ g.2 = e) ∧
        g.1 ∉ before.map Prod.fst ∧ after = before ++ [g] := by
  have hgiven : ∀ link, (before.lookup link).isSome = true ↔ link ∈ before.map Prod.fst := by
    intro link
    rw [List.lookup_isSome_iff, List.mem_map]
    simp only [beq_iff_eq, eq_comm (b := link)]
  unfold DriverRecord.assign
  rw [bind_eq_ok]
  constructor
  · rintro ⟨link, hlink, h⟩
    split at h
    · nomatch h
    split at h
    · nomatch h
    · rename_i hknown hnew
      cases h
      refine ⟨(link, e), ⟨hlink, by simpa using hknown, rfl⟩, ?_, rfl⟩
      rwa [hgiven] at hnew
  · rintro ⟨⟨link, d⟩, ⟨hlink, hknown, hd⟩, hnew, hafter⟩
    refine ⟨link, hlink, ?_⟩
    cases hd
    rw [if_neg (by simpa using hknown), if_neg (by rwa [hgiven]), hafter]
    rfl

end MediaNetwork

/-
  Arenas as they grow, and what a resource of an arena depends on.

  1. `Arena.ExtendsTo` — one arena is the beginning of another.  Resources are only ever added, so
     every arena a builder has held extends to the final one, and a handle that was good stays
     good (`ExtendsTo.get?`).  It is what lets a fact about a resource be recorded when the
     resource is created and read off at the end.

  2. `Arena.Reaches` — from one resource, by handles, to another.  For a resource that is known the
     relation unfolds once (`reaches_iff`): a port leads nowhere, a socket to its port.
-/
import MediaNetwork.Arena

namespace MediaNetwork.Arena

/-! ## Extension -/

/-- `a` is the beginning of `b`. -/
def ExtendsTo (a b : Arena) : Prop := a.toList <+: b.toList

theorem ExtendsTo.refl (a : Arena) : a.ExtendsTo a := List.prefix_rfl

theorem ExtendsTo.trans {a b c : Arena} (hab : a.ExtendsTo b) (hbc : b.ExtendsTo c) :
    a.ExtendsTo c :=
  List.IsPrefix.trans hab hbc

theorem ExtendsTo.push (a : Arena) (r : Resource) : a.ExtendsTo (a.push r) :=
  ⟨[r], (toList_push a r).symm⟩

theorem ExtendsTo.size_le {a b : Arena} (h : a.ExtendsTo b) : a.size ≤ b.size := by
  rw [← length_toList, ← length_toList]
  exact List.IsPrefix.length_le h

/-- A handle with a resource lies below the size of its arena. -/
theorem lt_size_of_get? {a : Arena} {id : ResourceId} {r : Resource} (h : a.get? id = some r) :
    id.index < a.size := by
  rw [get?_eq] at h
  rw [← length_toList]
  exact (List.getElem?_eq_some_iff.mp h).1

/-- What an arena holds stays where it is. -/
theorem ExtendsTo.get? {a b : Arena} (h : a.ExtendsTo b) {id : ResourceId} {r : Resource}
    (hr : a.get? id = some r) : b.get? id = some r := by
  obtain ⟨rest, hrest⟩ := h
  have hlt : id.index < a.toList.length := by
    rw [length_toList]
    exact lt_size_of_get? hr
  rw [get?_eq] at hr ⊢
  rw [← hrest, List.getElem?_append_left hlt]
  exact hr

/-- A resource of a grown arena is an old one or the one that was added. -/
theorem get?_push {a : Arena} {id : ResourceId} {r x : Resource}
    (h : (a.push r).get? id = some x) : a.get? id = some x ∨ (id = a.next ∧ x = r) := by
  have hlt := lt_size_of_get? h
  rw [size_push] at hlt
  rcases Nat.lt_or_ge id.index a.size with hold | hnew
  · rw [get?_push_of_lt r hold] at h
    exact Or.inl h
  · have hindex : id.index = a.size := by omega
    have hid : id = a.next := congrArg ResourceId.mk hindex
    rw [hid, get?_push_next] at h
    exact Or.inr ⟨hid, (Option.some.inj h).symm⟩

theorem get?_empty (id : ResourceId) : empty.get? id = none := by
  rw [get?_eq, toList_empty]
  rfl

/-! ## Dependence -/

/-- A resource depends on itself, on the resources it holds handles of, and on theirs. -/
inductive Reaches (a : Arena) : ResourceId → ResourceId → Prop
  | refl (id : ResourceId) : Reaches a id id
  | step {id next target : ResourceId} {r : Resource} (read : a.get? id = some r)
      (handle : next ∈ r.handles) (rest : Reaches a next target) : Reaches a id target

/-- The first step from a resource that is known. -/
theorem reaches_iff {a : Arena} {id target : ResourceId} {r : Resource} (h : a.get? id = some r) :
    a.Reaches id target ↔ target = id ∨ ∃ next ∈ r.handles, a.Reaches next target := by
  constructor
  · intro hr
    cases hr with
    | refl => exact Or.inl rfl
    | step read handle rest =>
      rw [h] at read
      cases read
      exact Or.inr ⟨_, handle, rest⟩
  · rintro (rfl | ⟨next, handle, rest⟩)
    · exact Reaches.refl _
    · exact Reaches.step h handle rest

theorem reaches_port {a : Arena} {id target : ResourceId} {p : Port}
    (h : a.get? id = some (.port p)) : a.Reaches id target ↔ target = id := by
  simp [reaches_iff h, Resource.handles]

theorem reaches_socket {a : Arena} {id target : ResourceId} {s : Socket}
    (h : a.get? id = some (.socket s)) :
    a.Reaches id target ↔ target = id ∨ a.Reaches s.port target := by
  simp [reaches_iff h, Resource.handles]

end MediaNetwork.Arena

/-
  Job lists as orders of creation.

  A job list is only ever made by pushing handles, so what holds of a list of jobs is what one
  `push` keeps:

  1. what is on it (`mem_push`, `mem_pushAll`) and that nothing is on it twice (`nodup_push`);
  2. what ends it (`getLast?_push_of_not_mem`): a handle pushed for the first time;
  3. what comes first (`Respects.push`): if a handle is pushed only after all it needs, then on the
     finished list every entry comes after all it needs.  The needs are any relation: the handles
     a resource holds, or the second half of a stream port before a stream socket.
-/
import MediaNetwork.JobList

namespace MediaNetwork.JobList

/-- Puts resources at the end one after the other. -/
def pushAll (l : JobList) (ids : List ResourceId) : JobList := ids.foldl push l

@[simp] theorem pushAll_nil (l : JobList) : l.pushAll [] = l := rfl

@[simp] theorem pushAll_cons (l : JobList) (id : ResourceId) (ids : List ResourceId) :
    l.pushAll (id :: ids) = (l.push id).pushAll ids := rfl

theorem pushAll_append (l : JobList) (ids more : List ResourceId) :
    l.pushAll (ids ++ more) = (l.pushAll ids).pushAll more := by
  simp [pushAll]

/-! ## What is on a list -/

/-- A push adds the handle, if it is not there, and nothing else. -/
theorem mem_push {l : JobList} {id x : ResourceId} :
    x ∈ (l.push id).toList ↔ x ∈ l.toList ∨ x = id := by
  rw [toList_push]
  split
  · rename_i h
    constructor
    · exact Or.inl
    · rintro (hx | rfl)
      · exact hx
      · exact h
  · rw [List.mem_append, List.mem_singleton]

theorem mem_pushAll {l : JobList} {ids : List ResourceId} {x : ResourceId} :
    x ∈ (l.pushAll ids).toList ↔ x ∈ l.toList ∨ x ∈ ids := by
  induction ids generalizing l with
  | nil => simp
  | cons id ids ih => rw [pushAll_cons, ih, mem_push, List.mem_cons, or_assoc]

/-- No handle is on a list twice, however it was pushed. -/
theorem nodup_push {l : JobList} (id : ResourceId) (h : l.toList.Nodup) :
    (l.push id).toList.Nodup := by
  rw [toList_push]
  split
  · exact h
  · rename_i hid
    rw [List.nodup_append]
    refine ⟨h, by simp, fun x hx y hy hxy => hid ?_⟩
    rw [← List.mem_singleton.mp hy, ← hxy]
    exact hx

theorem nodup_pushAll {l : JobList} (ids : List ResourceId) (h : l.toList.Nodup) :
    (l.pushAll ids).toList.Nodup := by
  induction ids generalizing l with
  | nil => exact h
  | cons id ids ih => exact ih (nodup_push id h)

/-- A handle that was not on the list ends it. -/
theorem getLast?_push_of_not_mem {l : JobList} {id : ResourceId} (h : id ∉ l.toList) :
    (l.push id).toList.getLast? = some id := by
  rw [toList_push, if_neg h, List.getLast?_append]
  rfl

/-! ## What comes before what -/

/-- Every entry of a list comes after all it needs. -/
def Respects (needs : ResourceId → ResourceId → Prop) (l : JobList) : Prop :=
  ∀ before id after, l.toList = before ++ id :: after → ∀ x, needs id x → x ∈ before

theorem respects_empty (needs : ResourceId → ResourceId → Prop) : Respects needs empty := by
  intro before id after h
  simp at h

/-- A handle may be pushed once all it needs is there. -/
theorem Respects.push {needs : ResourceId → ResourceId → Prop} {l : JobList} {id : ResourceId}
    (h : l.Respects needs) (hid : ∀ x, needs id x → x ∈ l.toList) :
    (l.push id).Respects needs := by
  intro before y after hsplit x hx
  rw [toList_push] at hsplit
  split at hsplit
  · exact h before y after hsplit x hx
  · rcases List.eq_nil_or_concat after with rfl | ⟨rest, last, rfl⟩
    · -- the entry is the one that was pushed
      have hparts := List.append_inj' hsplit rfl
      obtain rfl : id = y := by simpa using hparts.2
      rw [← hparts.1]
      exact hid x hx
    · have hlist : l.toList ++ [id] = (before ++ y :: rest) ++ [last] := by
        rw [hsplit]
        simp
      exact h before y rest (List.append_inj' hlist rfl).1 x hx

end MediaNetwork.JobList

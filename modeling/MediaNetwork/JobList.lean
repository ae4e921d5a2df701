/-
  Job lists: the resources to create for one endpoint, in order and each once.

  A list only grows at its end.  A branch of a fan starts from a copy of the list before it; the
  copy shares the handles, so the shared resources are created once.
-/
import MediaNetwork.Resource

namespace MediaNetwork

/-- A list of resources to create, none of them twice. -/
structure JobList where
  jobs : List ResourceId
  deriving DecidableEq, Repr

namespace JobList

/-- The list of no resource. -/
def empty : JobList := ⟨[]⟩

/-- Whether a resource is on the list. -/
def contains (l : JobList) (id : ResourceId) : Bool := l.jobs.contains id

/-- Puts a resource at the end, unless it is on the list already. -/
def push (l : JobList) (id : ResourceId) : JobList :=
  if l.contains id then l else ⟨l.jobs ++ [id]⟩

/-- The resources in the order of creation. -/
def toList (l : JobList) : List ResourceId := l.jobs

/-- The number of resources to create. -/
def length (l : JobList) : Nat := l.jobs.length

/-- Whether nothing is to be created. -/
def isEmpty (l : JobList) : Bool := l.jobs.isEmpty

@[simp] theorem toList_empty : empty.toList = [] := rfl

theorem contains_iff {l : JobList} {id : ResourceId} : l.contains id = true ↔ id ∈ l.toList := by
  simp [contains, toList]

theorem toList_push (l : JobList) (id : ResourceId) :
    (l.push id).toList = if id ∈ l.toList then l.toList else l.toList ++ [id] := by
  unfold push
  split <;> simp_all [contains, toList]

/-- What was on the list stays where it is. -/
theorem push_extends (l : JobList) (id : ResourceId) : l.toList <+: (l.push id).toList := by
  rw [toList_push]
  split
  · exact ⟨[], by simp⟩
  · exact ⟨[id], rfl⟩

end JobList

example : ((JobList.empty.push ⟨1⟩).push ⟨2⟩ |>.push ⟨1⟩).toList = [⟨1⟩, ⟨2⟩] := by decide

end MediaNetwork

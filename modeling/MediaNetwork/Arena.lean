/-
  The arena: every resource of a configuration, in the order of creation.

  A handle is the place of its resource, so the first free handle is the number of resources
  there are.  Nothing is ever removed: a handle once given stays good and keeps its resource.

  A handle that is kept in 32 bits would leave room for 2^32 resources, and the next one would have
  to be refused (`CompileError.allocation`).  This bound is left out: handles are natural numbers,
  and creation is total.
-/
import MediaNetwork.Fault
import MediaNetwork.Resource

namespace MediaNetwork

/-- The resources of a configuration by handle. -/
structure Arena where
  resources : Array Resource
  deriving DecidableEq, Repr

namespace Arena

/-- The arena without resources, whose next handle is 0. -/
def empty : Arena := ⟨#[]⟩

/-- The number of resources. -/
def size (a : Arena) : Nat := a.resources.size

/-- The handle the next resource will have. -/
def next (a : Arena) : ResourceId := ⟨a.size⟩

/-- Adds a resource, whose handle is `next`. -/
def push (a : Arena) (r : Resource) : Arena := ⟨a.resources.push r⟩

/-- Adds a resource and gives its handle. -/
def alloc (a : Arena) (r : Resource) : ResourceId × Arena := (a.next, a.push r)

/-- The resource of a handle. -/
def get? (a : Arena) (id : ResourceId) : Option Resource := a.resources[id.index]?

/-- The resource of a handle; a handle without one is an inconsistency. -/
def get (a : Arena) (id : ResourceId) : Except CompileError Resource :=
  match a.get? id with
  | some r => .ok r
  | none => .error (.internal (.dangling id.index))

/-- The resources in the order of creation. -/
def toList (a : Arena) : List Resource := a.resources.toList

/-- The resources with their handles. -/
def entries (a : Arena) : List (ResourceId × Resource) :=
  a.toList.zipIdx.map fun (r, i) => (⟨i⟩, r)

/-! ## Each operation through the list of resources -/

@[simp] theorem toList_empty : empty.toList = [] := rfl

@[simp] theorem toList_push (a : Arena) (r : Resource) : (a.push r).toList = a.toList ++ [r] := by
  simp [push, toList]

@[simp] theorem length_toList (a : Arena) : a.toList.length = a.size := by simp [toList, size]

@[simp] theorem size_push (a : Arena) (r : Resource) : (a.push r).size = a.size + 1 := by
  simp [push, size]

/-- Reading a handle succeeds where the handle has a resource. -/
theorem get_eq_ok {a : Arena} {id : ResourceId} {r : Resource} :
    a.get id = .ok r ↔ a.get? id = some r := by
  unfold get
  cases a.get? id with
  | none => simp
  | some x => simp

theorem get?_eq (a : Arena) (id : ResourceId) : a.get? id = a.toList[id.index]? := by
  simp [get?, toList]

/-- The handle of a resource that was just added leads to it. -/
@[simp] theorem get?_push_next (a : Arena) (r : Resource) : (a.push r).get? a.next = some r := by
  simp [get?, push, next, size]

/-- Adding a resource moves no other. -/
theorem get?_push_of_lt {a : Arena} {id : ResourceId} (r : Resource) (h : id.index < a.size) :
    (a.push r).get? id = a.get? id := by
  simp only [get?, push]
  exact Array.getElem?_push_lt h |>.trans (Array.getElem?_eq_getElem h).symm

end Arena

end MediaNetwork

/-
  Job lists that are copied.

  The branches of a fan start from copies of one list and grow apart.  Here any number of lists is
  copied and pushed to in any order, starting from one empty list:

  1. `step` does one operation to a collection of lists, and `run` all of them.
  2. `Pushed` says what was pushed to a list in the end: what was pushed to the list it was copied
     from until it was copied, and then what was pushed to itself.  It looks at the operations
     only.
  3. A list that is there grows by what is pushed to it and by nothing else (`step_of_get?`, and by
     induction over the operations `run_append_of_get?`).  A copy is a list like its origin, so by
     induction over its origins a list has what was pushed to it, each handle once
     (`get?_run_iff`).

  An operation on a list that is not there does nothing.
-/
import Mathlib.Data.List.Induction
import MediaNetwork.Proofs.Graph.JobOrder

namespace MediaNetwork.JobList

/-! ## Collections of lists -/

/-- What is done to a collection of lists, which are counted from 0. -/
inductive Op
  /-- Pushes a resource to a list. -/
  | push (list : Nat) (id : ResourceId)
  /-- Puts a copy of a list at the end of the collection. -/
  | clone (list : Nat)
  deriving DecidableEq, Repr

/-- One operation. -/
def step (lists : List JobList) : Op → List JobList
  | .push i id => lists.modify i fun l => l.push id
  | .clone i => lists ++ lists[i]?.toList

/-- The collection after these operations, which start from one empty list. -/
def run (ops : List Op) : List JobList := ops.foldl step [empty]

theorem run_append (ops later : List Op) : run (ops ++ later) = later.foldl step (run ops) :=
  List.foldl_append

/-- What is pushed to the `i`-th list itself. -/
def pushesTo (i : Nat) (ops : List Op) : List ResourceId :=
  ops.filterMap fun
    | .push j id => if j = i then some id else none
    | .clone _ => none

theorem pushesTo_append (i : Nat) (ops later : List Op) :
    pushesTo i (ops ++ later) = pushesTo i ops ++ pushesTo i later :=
  List.filterMap_append

/-- These handles were pushed to the `i`-th list or, before it was copied, to the list it is a copy
    of. -/
inductive Pushed : List Op → Nat → List ResourceId → Prop
  | first (ops : List Op) : Pushed ops 0 (pushesTo 0 ops)
  | copy {ops : List Op} {origin : Nat} {ids : List ResourceId} (before : Pushed ops origin ids)
      (later : List Op) : Pushed (ops ++ .clone origin :: later) (run ops).length
        (ids ++ pushesTo (run ops).length later)

/-! ## Growing -/

/-- **One operation** on a collection pushes to a list what it is told to push there. -/
theorem step_of_get? {lists : List JobList} {i : Nat} {l : JobList} (h : lists[i]? = some l)
    (op : Op) : (step lists op)[i]? = some (l.pushAll (pushesTo i [op])) := by
  cases op with
  | push j id =>
    rw [step, List.getElem?_modify, h]
    by_cases hj : j = i
    · simp [pushesTo, hj]
    · simp [pushesTo, hj]
  | clone j =>
    rw [step, List.getElem?_append_left (List.getElem?_eq_some_iff.mp h).1, h]
    rfl

/-- **All operations** push to a list what they are told to push there.  The induction is over the
    operations. -/
theorem foldl_step_of_get? {lists : List JobList} {i : Nat} {l : JobList} (h : lists[i]? = some l)
    (later : List Op) : (later.foldl step lists)[i]? = some (l.pushAll (pushesTo i later)) := by
  induction later generalizing lists l with
  | nil => exact h
  | cons op later ih =>
    have hsplit := pushesTo_append i [op] later
    rw [List.singleton_append] at hsplit
    rw [List.foldl_cons, ih (step_of_get? h op), hsplit, pushAll_append]

theorem run_append_of_get? {ops : List Op} {i : Nat} {l : JobList} (h : (run ops)[i]? = some l)
    (later : List Op) : (run (ops ++ later))[i]? = some (l.pushAll (pushesTo i later)) := by
  rw [run_append]
  exact foldl_step_of_get? h later

/-- A copy stands behind all lists there were. -/
theorem run_clone {ops : List Op} {i : Nat} {l : JobList} (h : (run ops)[i]? = some l) :
    run (ops ++ [.clone i]) = run ops ++ [l] := by
  rw [run_append, List.foldl_cons, List.foldl_nil, step, h]
  rfl

/-! ## What was pushed -/

/-- A list has what was pushed to it. -/
theorem Pushed.get? {ops : List Op} {i : Nat} {ids : List ResourceId} (h : Pushed ops i ids) :
    (run ops)[i]? = some (empty.pushAll ids) := by
  induction h with
  | first ops => exact foldl_step_of_get? rfl ops
  | @copy ops origin ids before later ih =>
    have hcopy : (run (ops ++ [.clone origin]))[(run ops).length]? =
        some (empty.pushAll ids) := by
      rw [run_clone ih]
      exact List.getElem?_concat_length
    rw [List.append_cons, run_append_of_get? hcopy, pushAll_append]

/-- What is pushed later comes behind what was pushed before. -/
theorem Pushed.extend {ops : List Op} {i : Nat} {ids : List ResourceId} (h : Pushed ops i ids)
    (more : List Op) : Pushed (ops ++ more) i (ids ++ pushesTo i more) := by
  cases h with
  | first =>
    rw [← pushesTo_append]
    exact .first _
  | @copy ops origin ids before later =>
    rw [List.append_assoc, List.append_assoc, ← pushesTo_append]
    exact .copy before _

/-- Of every list it can be said what was pushed to it.  The induction is over the operations, the
    last one taken first. -/
theorem exists_pushed {ops : List Op} {i : Nat} (hi : i < (run ops).length) :
    ∃ ids, Pushed ops i ids := by
  induction ops using List.reverseRecOn generalizing i with
  | nil =>
    obtain rfl : i = 0 := Nat.lt_one_iff.mp hi
    exact ⟨_, .first []⟩
  | append_singleton ops op ih =>
    rcases Nat.lt_or_ge i (run ops).length with hlt | hge
    · obtain ⟨ids, hids⟩ := ih hlt
      exact ⟨_, hids.extend [op]⟩
    · -- only a copy is a new list
      cases op with
      | push j id =>
        rw [run_append, List.foldl_cons, List.foldl_nil, step, List.length_modify] at hi
        omega
      | clone j =>
        cases horigin : (run ops)[j]? with
        | none =>
          rw [run_append, List.foldl_cons, List.foldl_nil, step, horigin, Option.toList_none,
            List.append_nil] at hi
          omega
        | some l =>
          rw [run_clone horigin, List.length_append, List.length_singleton] at hi
          obtain rfl : i = (run ops).length := by omega
          obtain ⟨ids, hids⟩ := ih (List.getElem?_eq_some_iff.mp horigin).1
          exact ⟨_, .copy hids []⟩

/-- **Contents**: a list is what was pushed to it, from the empty list. -/
theorem get?_run_iff {ops : List Op} {i : Nat} {l : JobList} :
    (run ops)[i]? = some l ↔ ∃ ids, Pushed ops i ids ∧ l = empty.pushAll ids := by
  constructor
  · intro h
    obtain ⟨ids, hids⟩ := exists_pushed (List.getElem?_eq_some_iff.mp h).1
    rw [hids.get?] at h
    exact ⟨ids, hids, (Option.some.inj h).symm⟩
  · rintro ⟨ids, hids, rfl⟩
    exact hids.get?

/-- Pushed from the empty list, every handle stands where it came first, and there only. -/
theorem toList_pushAll_empty (ids : List ResourceId) :
    (empty.pushAll ids).toList = ids.eraseDups := by
  induction ids using List.reverseRecOn with
  | nil => rfl
  | append_singleton ids id ih =>
    rw [pushAll_append, pushAll_cons, pushAll_nil, toList_push, ih, List.eraseDups_append]
    by_cases hid : id ∈ ids
    · rw [if_pos (List.mem_eraseDups.mpr hid)]
      simp [List.removeAll, hid]
    · rw [if_neg fun h => hid (List.mem_eraseDups.mp h)]
      simp [List.removeAll, hid, List.eraseDups_cons]

/-- A list that more is pushed to keeps its entries in their places. -/
theorem pushAll_extends (l : JobList) (ids : List ResourceId) :
    l.toList <+: (l.pushAll ids).toList := by
  induction ids generalizing l with
  | nil => exact List.prefix_refl _
  | cons id ids ih => exact (push_extends l id).trans (ih (l.push id))

/-- **Job lists are independent.**  After any operations, a list holds what was pushed to it and,
    before it was copied, to the list it is a copy of: each handle once, where it came first.  It is
    changed by a push to itself only; a copy of it starts as the same list and changes no other;
    and whatever is done later, the entries it has, and those its copy starts with, stay where they
    are. -/
theorem histories_exact {ops : List Op} {i : Nat} {l : JobList} (h : (run ops)[i]? = some l)
    (later : List Op) :
    (∃ ids, Pushed ops i ids ∧ l.toList = ids.eraseDups ∧
      ∀ id, l.contains id = true ↔ id ∈ ids) ∧
    (∀ ids, Pushed ops i ids → l.toList = ids.eraseDups) ∧
    l.toList.Nodup ∧
    (∀ j id, (run (ops ++ [.push j id]))[i]? = some (if j = i then l.push id else l)) ∧
    run (ops ++ [.clone i]) = run ops ++ [l] ∧
    (∃ grown, (run (ops ++ later))[i]? = some grown ∧ l.toList <+: grown.toList) ∧
    ∃ copy, (run (ops ++ .clone i :: later))[(run ops).length]? = some copy ∧
      l.toList <+: copy.toList := by
  obtain ⟨ids, hids, rfl⟩ := get?_run_iff.mp h
  refine ⟨⟨ids, hids, toList_pushAll_empty ids, fun id => ?_⟩, fun ids' hids' => ?_, ?_,
    fun j id => ?_, run_clone h, ?_, ?_⟩
  · rw [contains_iff, mem_pushAll]
    simp
  · -- any other account of what was pushed leads to the same list
    have hsame := hids'.get?
    rw [h] at hsame
    rw [Option.some.inj hsame, toList_pushAll_empty]
  · exact nodup_pushAll ids List.nodup_nil
  · rw [run_append_of_get? h]
    by_cases hj : j = i
    · simp [pushesTo, hj]
    · simp [pushesTo, hj]
  · exact ⟨_, run_append_of_get? h later, pushAll_extends _ _⟩
  · refine ⟨_, (hids.copy later).get?, ?_⟩
    rw [pushAll_append]
    exact pushAll_extends _ _

/-- A list, a copy of it and a copy of the copy, each pushed to after it was copied. -/
def nestedCopies : List Op :=
  [.push 0 ⟨1⟩, .clone 0, .push 1 ⟨2⟩, .push 0 ⟨3⟩, .clone 1, .push 2 ⟨1⟩, .push 2 ⟨3⟩, .push 1 ⟨3⟩,
    .push 2 ⟨2⟩]

/-- The second copy has what came first of its own, of the first copy and of the first list. -/
theorem histories_nestedCopies : (run nestedCopies)[2]? = some ⟨[⟨1⟩, ⟨2⟩, ⟨3⟩]⟩ ∧
    Pushed nestedCopies 2 [⟨1⟩, ⟨2⟩, ⟨1⟩, ⟨3⟩, ⟨2⟩] ∧
    [⟨1⟩, ⟨2⟩, ⟨3⟩] = [⟨1⟩, ⟨2⟩, ⟨1⟩, ⟨3⟩, (⟨2⟩ : ResourceId)].eraseDups := by
  have hlist : (run nestedCopies)[2]? = some ⟨[⟨1⟩, ⟨2⟩, ⟨3⟩]⟩ := by decide
  have hpushed : Pushed nestedCopies 2 [⟨1⟩, ⟨2⟩, ⟨1⟩, ⟨3⟩, ⟨2⟩] :=
    .copy (.copy (.first [.push 0 ⟨1⟩]) [.push 1 ⟨2⟩, .push 0 ⟨3⟩])
      [.push 2 ⟨1⟩, .push 2 ⟨3⟩, .push 1 ⟨3⟩, .push 2 ⟨2⟩]
  exact ⟨hlist, hpushed, (histories_exact hlist []).2.1 _ hpushed⟩

end MediaNetwork.JobList

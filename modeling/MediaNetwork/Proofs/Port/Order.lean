/-
  Which node a resource belongs to, and which of its resources come first.

  1. `Arena.owner?` — the address of the node a resource belongs to, which is that of the port it
     stands on.  In a typed arena every resource has an owner (`Typed.exists_owner?`), it is the
     node of some port (`exists_port_of_owner?`), and it stays as the arena grows.
  2. `Arena.DeclaredFirst` — of the resources of a node the declared ports come first, in the order
     MediaLB, USB, stream.  It holds where a node begins with its declared ports and creates no
     other later (`declaredFirst_of_layout`), and what comes after the node does not change it
     (`DeclaredFirst.extend`).
-/
import MediaNetwork.Proofs.Port.Slots

namespace MediaNetwork

namespace Arena

/-! ## Owners -/

/-- The address of the node a resource belongs to: that of the port it is or stands on, for a
    connection that of its input side. -/
def owner? (a : Arena) (id : ResourceId) : Option UInt16 :=
  match a.get? id with
  | some (.port p) => some p.node
  | some (.connection c) => (a.sideSocket? c.socketIn).bind fun s => a.portNode? s.port
  | _ => (a.sideSocket? id).bind fun s => a.portNode? s.port

section Owner

variable {a : Arena} {id : ResourceId} {node : UInt16}

theorem owner?_port {p : Port} (h : a.get? id = some (.port p)) : a.owner? id = some p.node := by
  rw [owner?, h]

theorem owner?_connection {c : Connection} (h : a.get? id = some (.connection c)) :
    a.owner? id = (a.sideSocket? c.socketIn).bind fun s => a.portNode? s.port := by
  rw [owner?, h]

/-- The owner of a socket or a fan is that of a side of a connection. -/
theorem owner?_side {s : Socket} (h : a.sideSocket? id = some s) :
    a.owner? id = a.portNode? s.port := by
  unfold owner?
  split
  · rename_i p hp
    simp [sideSocket?, hp] at h
  · rename_i c hc
    simp [sideSocket?, hc] at h
  · rw [h]
    rfl

/-- A socket stands on a port of a node. -/
theorem Typed.exists_portNode? (ha : a.Typed) {s : Socket} (h : a.get? id = some (.socket s)) :
    ∃ node, a.portNode? s.port = some node := by
  obtain ⟨-, p, hp, -⟩ := ha id.index _ h
  exact ⟨p.node, by simp [portNode?, hp, Resource.port?]⟩

/-- **Owners**: every resource belongs to a node. -/
theorem Typed.exists_owner? (ha : a.Typed) {r : Resource} (h : a.get? id = some r) :
    ∃ node, a.owner? id = some node := by
  obtain ⟨-, hasks⟩ := ha id.index r h
  -- a fan leads to the socket it wraps
  have hfan : ∀ wrapped s, a.get? wrapped = some (.socket s) →
      a.sideSocket? id = a.socket? wrapped → ∃ node, a.owner? id = some node := by
    intro wrapped s hs hside
    obtain ⟨node, hnode⟩ := ha.exists_portNode? hs
    have hsocket : a.socket? wrapped = some s := by simp [socket?, hs, Resource.socket?]
    exact ⟨node, (owner?_side (hside.trans hsocket)).trans hnode⟩
  cases r with
  | port p => exact ⟨p.node, owner?_port h⟩
  | socket s =>
    obtain ⟨node, hnode⟩ := ha.exists_portNode? h
    exact ⟨node, (owner?_side (by rw [sideSocket?, h])).trans hnode⟩
  | splitter f =>
    obtain ⟨s, hs, -⟩ := hasks
    exact hfan f.socketIn s hs (by rw [sideSocket?, h])
  | combiner f =>
    obtain ⟨s, hs, -⟩ := hasks
    exact hfan f.socketOut s hs (by rw [sideSocket?, h])
  | connection c =>
    obtain ⟨node, ⟨s, hs, -, hnode⟩, -⟩ := hasks.sides
    exact ⟨node, by rw [owner?_connection h, hs]; exact hnode⟩

/-- A node that owns anything has a port. -/
theorem exists_port_of_owner? (h : a.owner? id = some node) :
    ∃ port p, a.get? port = some (.port p) ∧ p.node = node := by
  have hport : ∀ side, (a.sideSocket? side).bind (fun s => a.portNode? s.port) = some node →
      ∃ port p, a.get? port = some (.port p) ∧ p.node = node := by
    intro side hside
    obtain ⟨s, -, hs⟩ := Option.bind_eq_some_iff.mp hside
    obtain ⟨p, hp, hnode⟩ := Option.map_eq_some_iff.mp hs
    obtain ⟨r, hr, hp⟩ := Option.bind_eq_some_iff.mp hp
    cases r with
    | port q =>
      cases hp
      exact ⟨s.port, p, hr, hnode⟩
    | _ => nomatch hp
  unfold owner? at h
  split at h
  · rename_i p hp
    exact ⟨id, p, hp, Option.some.inj h⟩
  · exact hport _ h
  · exact hport _ h

/-- The owner of a resource stays. -/
theorem ExtendsTo.owner? {b : Arena} (hab : a.ExtendsTo b) (h : a.owner? id = some node) :
    b.owner? id = some node := by
  have hside : ∀ side, (a.sideSocket? side).bind (fun s => a.portNode? s.port) = some node →
      (b.sideSocket? side).bind (fun s => b.portNode? s.port) = some node := by
    intro side hside
    obtain ⟨s, hs, hnode⟩ := Option.bind_eq_some_iff.mp hside
    exact Option.bind_eq_some_iff.mpr ⟨s, hab.sideSocket? hs, hab.portNode? hnode⟩
  unfold Arena.owner? at h
  split at h
  · rename_i p hp
    rw [owner?_port (hab.get? hp)]
    exact h
  · rename_i c hc
    rw [owner?_connection (hab.get? hc)]
    exact hside _ h
  · obtain ⟨s, hs, hnode⟩ := Option.bind_eq_some_iff.mp h
    rw [owner?_side (hab.sideSocket? hs)]
    exact hab.portNode? hnode

/-- What owns a resource in a grown arena owned it before. -/
theorem Typed.owner?_of_extendsTo {b : Arena} (ha : a.Typed) (hab : a.ExtendsTo b)
    (hlt : id.index < a.size) (h : b.owner? id = some node) : a.owner? id = some node := by
  have hread : a.get? id = some a.resources[id.index] := Array.getElem?_eq_getElem hlt
  obtain ⟨other, hother⟩ := ha.exists_owner? hread
  rw [hab.owner? hother] at h
  rw [← h, hother]

end Owner

end Arena

/-! ## Declared ports come first -/

/-- The place of a port among the declared ports of its node; a network port is never declared. -/
def PortSlot.rank : PortSlot → Nat
  | mediaLb => 0
  | usb => 1
  | streamA => 2
  | streamB => 3
  | network => 4

/-- What comes before a declared port and belongs to the same node is a declared port of a lower
    rank. -/
def Arena.DeclaredFirst (a : Arena) (node : UInt16) : Prop :=
  ∀ id p, a.get? id = some (.port p) → p.node = node → p.origin = .declared →
    ∀ other, a.owner? other = some node → other.index < id.index →
      ∃ q, a.get? other = some (.port q) ∧ q.origin = .declared ∧
        q.kind.slot.rank < p.kind.slot.rank

theorem PortPlan.sorted_declared (p : PortPlan) (node : UInt16) :
    (p.declared node).Pairwise fun q q' => q.kind.slot.rank < q'.kind.slot.rank := by
  obtain ⟨_ | clock, _ | usb, _ | stream⟩ := p <;>
    simp [PortPlan.declared, PortPlan.kinds, PortKind.slot, PortSlot.rank]

namespace Arena

/-- The resources of other nodes do not come between. -/
theorem DeclaredFirst.extend {a b : Arena} {node : UInt16} (h : a.DeclaredFirst node)
    (ha : a.Typed) (hab : a.ExtendsTo b)
    (hold : ∀ id p, b.get? id = some (.port p) → p.node = node → a.get? id = some (.port p)) :
    b.DeclaredFirst node := by
  intro id p hp hnode horigin other howner hlt
  have hread := hold id p hp hnode
  have howned := ha.owner?_of_extendsTo hab (Nat.lt_trans hlt (lt_size_of_get? hread)) howner
  obtain ⟨q, hq, hdeclared, hrank⟩ := h id p hread hnode horigin other howned hlt
  exact ⟨q, hab.get? hq, hdeclared, hrank⟩

/-- **The order**: a node that begins with its declared ports, and creates no other declared port,
    has them first. -/
theorem declaredFirst_of_layout {before begun a : Arena} {node : UInt16} {ps : List Port}
    (htyped : before.Typed)
    (hfresh : ∀ id p, before.get? id = some (.port p) → p.node ≠ node)
    (hbegun : begun.toList = before.toList ++ ps.map Resource.port) (hext : begun.ExtendsTo a)
    (hdeclared : ∀ p ∈ ps, p.origin = .declared)
    (hsorted : ps.Pairwise fun q q' => q.kind.slot.rank < q'.kind.slot.rank)
    (hlater : ∀ id p, a.get? id = some (.port p) → p.node = node → p.origin = .declared →
      begun.get? id = some (.port p)) : a.DeclaredFirst node := by
  have hbefore : before.ExtendsTo begun := ⟨_, hbegun.symm⟩
  -- behind the old resources stand the declared ports
  have hget : ∀ id : ResourceId, before.size ≤ id.index →
      begun.get? id = (ps[id.index - before.size]?).map Resource.port := by
    intro id hle
    rw [get?_eq, hbegun, List.getElem?_append_right (by rwa [length_toList]), length_toList,
      List.getElem?_map]
  -- and nothing of the node stands before them: its owner would have a port there
  have hnew : ∀ id, a.owner? id = some node → before.size ≤ id.index := by
    intro id howner
    by_contra hlt
    have howned := htyped.owner?_of_extendsTo (hbefore.trans hext) (Nat.lt_of_not_le hlt) howner
    obtain ⟨port, p, hp, hnode⟩ := exists_port_of_owner? howned
    exact hfresh port p hp hnode
  intro id p hp hnode horigin other howner hlt
  have hid := hnew id (by rw [owner?_port hp, hnode])
  have hother := hnew other howner
  have hreadP := hlater id p hp hnode horigin
  rw [hget id hid] at hreadP
  obtain ⟨p', hp', hsame⟩ := Option.map_eq_some_iff.mp hreadP
  cases hsame
  obtain ⟨hk, hp'⟩ := List.getElem?_eq_some_iff.mp hp'
  have hl : other.index - before.size < ps.length := by omega
  have hreadQ : begun.get? other = some (.port ps[other.index - before.size]) := by
    rw [hget other hother, List.getElem?_eq_getElem hl, Option.map_some]
  refine ⟨ps[other.index - before.size], hext.get? hreadQ, hdeclared _ (List.getElem_mem hl), ?_⟩
  rw [← hp']
  exact List.pairwise_iff_getElem.mp hsorted _ _ hl hk (by omega)

end Arena

end MediaNetwork

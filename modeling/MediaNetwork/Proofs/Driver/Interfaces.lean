/-
  Interfaces of a driver.

  A driver element lists interfaces, and each is read as one binding of the inferred record.

  1. `Carries` says which binding an interface element carries, and it is read as that binding
     (`readBinding_eq_ok`); `IsInterface` says it of the element alone (`isInterface_iff`).
  2. A driver expands to the inferred record with each of its bindings, in order, exactly if it has
     children and all of them are interfaces (`expand_eq_ok`, `succeeds_expand`).
-/
import MediaNetwork.Driver.Derivation
import MediaNetwork.Proofs.Outcome

namespace MediaNetwork

open MediaNetwork.Markup MediaNetwork.Outcome

theorem DeviceKind.tag_cases (k : DeviceKind) :
    k.tag = Schema.cdev ∨ k.tag = Schema.v4l2 ∨ k.tag = Schema.alsa := by
  cases k with
  | cdev => exact Or.inl rfl
  | v4l2 => exact Or.inr (Or.inl rfl)
  | alsa channels resolution => exact Or.inr (Or.inr rfl)

/-- Only a sound device has the name of one. -/
theorem DeviceKind.exists_alsa {k : DeviceKind} (h : k.tag = Schema.alsa) :
    ∃ channels resolution, k = .alsa channels resolution := by
  cases k with
  | cdev => exact absurd h (by decide)
  | v4l2 => exact absurd h (by decide)
  | alsa channels resolution => exact ⟨channels, resolution, rfl⟩

namespace DriverRecord

/-! ## One interface -/

/-- A child of a driver that describes an interface. -/
structure IsInterface (e : Element) : Prop where
  kind : e.name = Schema.cdev ∨ e.name = Schema.v4l2 ∨ e.name = Schema.alsa
  count : Succeeds (e.word Schema.bufferCount)
  size : Succeeds (e.word Schema.bufferSize)
  channels : e.name = Schema.alsa → Succeeds (e.byte Schema.channelCount)
  resolution : e.name = Schema.alsa →
    Succeeds (e.keyword Schema.resolution AlsaResolution.keywords)

/-- The binding is what the interface element says. -/
structure Carries (e : Element) (b : DriverBinding) : Prop where
  kind : b.kind.tag = e.name
  name : b.name = e.attribute? Schema.name
  count : e.word Schema.bufferCount = .ok b.buffers.count
  size : e.word Schema.bufferSize = .ok b.buffers.size
  alsa : ∀ channels resolution, b.kind = .alsa channels resolution →
    e.byte Schema.channelCount = .ok channels ∧
    e.keyword Schema.resolution AlsaResolution.keywords = .ok resolution

variable {e : Element} {b : DriverBinding}

theorem readBuffers_eq_ok {buffers : BufferConfig} : readBuffers e = .ok buffers ↔
    e.word Schema.bufferCount = .ok buffers.count ∧
      e.word Schema.bufferSize = .ok buffers.size := by
  unfold readBuffers
  simp only [bind_eq_ok]
  constructor
  · rintro ⟨count, hcount, size, hsize, h⟩
    cases h
    exact ⟨hcount, hsize⟩
  · rintro ⟨hcount, hsize⟩
    exact ⟨_, hcount, _, hsize, rfl⟩

/-- **Interfaces** are read as what they say. -/
theorem readBinding_eq_ok : readBinding e = .ok b ↔ Carries e b := by
  constructor
  · intro h
    unfold readBinding at h
    split at h
    · rename_i hname
      obtain ⟨buffers, hbuffers, h⟩ := bind_eq_ok.mp h
      cases h
      obtain ⟨hcount, hsize⟩ := readBuffers_eq_ok.mp hbuffers
      exact ⟨hname.symm, rfl, hcount, hsize, fun _ _ h => nomatch h⟩
    split at h
    · rename_i hname
      obtain ⟨buffers, hbuffers, h⟩ := bind_eq_ok.mp h
      cases h
      obtain ⟨hcount, hsize⟩ := readBuffers_eq_ok.mp hbuffers
      exact ⟨hname.symm, rfl, hcount, hsize, fun _ _ h => nomatch h⟩
    split at h
    · rename_i hname
      obtain ⟨buffers, hbuffers, h⟩ := bind_eq_ok.mp h
      obtain ⟨channels, hchannels, h⟩ := bind_eq_ok.mp h
      obtain ⟨resolution, hresolution, h⟩ := bind_eq_ok.mp h
      cases h
      obtain ⟨hcount, hsize⟩ := readBuffers_eq_ok.mp hbuffers
      refine ⟨hname.symm, rfl, hcount, hsize, fun _ _ h => ?_⟩
      cases h
      exact ⟨hchannels, hresolution⟩
    · nomatch h
  · -- the kind of the binding is the name of the element, so it decides which attributes are read
    rintro ⟨hkind, hname, hcount, hsize, halsa⟩
    obtain ⟨kind, name, buffers⟩ := b
    have hbuffers : readBuffers e = .ok buffers := readBuffers_eq_ok.mpr ⟨hcount, hsize⟩
    unfold readBinding
    rw [← hkind, hbuffers, ← hname]
    cases kind with
    | cdev => rfl
    | v4l2 => rfl
    | alsa channels resolution =>
      obtain ⟨hchannels, hresolution⟩ := halsa channels resolution rfl
      rw [hchannels, hresolution]
      rfl

/-- An element carries a binding exactly if it describes an interface. -/
theorem isInterface_iff : IsInterface e ↔ ∃ b, Carries e b := by
  constructor
  · rintro ⟨hkind, ⟨count, hcount⟩, ⟨size, hsize⟩, hchannels, hresolution⟩
    rcases hkind with hname | hname | hname
    · exact ⟨⟨.cdev, _, ⟨count, size⟩⟩, hname.symm, rfl, hcount, hsize, fun _ _ h => nomatch h⟩
    · exact ⟨⟨.v4l2, _, ⟨count, size⟩⟩, hname.symm, rfl, hcount, hsize, fun _ _ h => nomatch h⟩
    · obtain ⟨channels, hchannels⟩ := hchannels hname
      obtain ⟨resolution, hresolution⟩ := hresolution hname
      refine ⟨⟨.alsa channels resolution, _, ⟨count, size⟩⟩, hname.symm, rfl, hcount, hsize,
        fun _ _ h => ?_⟩
      cases h
      exact ⟨hchannels, hresolution⟩
  · rintro ⟨b, hb⟩
    have halsa : e.name = Schema.alsa → Succeeds (e.byte Schema.channelCount) ∧
        Succeeds (e.keyword Schema.resolution AlsaResolution.keywords) := by
      intro hname
      obtain ⟨channels, resolution, hkind⟩ := DeviceKind.exists_alsa (hb.kind.trans hname)
      obtain ⟨hchannels, hresolution⟩ := hb.alsa channels resolution hkind
      exact ⟨⟨_, hchannels⟩, ⟨_, hresolution⟩⟩
    have hkind := b.kind.tag_cases
    rw [hb.kind] at hkind
    exact ⟨hkind, ⟨_, hb.count⟩, ⟨_, hb.size⟩, fun h => (halsa h).1, fun h => (halsa h).2⟩

/-! ## All interfaces of a driver -/

/-- The record with a binding. -/
def bound (r : DriverRecord) (b : DriverBinding) : DriverRecord :=
  { r with binding := some b }

/-- The driver lists interfaces, and nothing else. -/
def ListsInterfaces (d : Element) : Prop :=
  d.children ≠ [] ∧ ∀ child ∈ d.children, IsInterface child

/-- The records are the inferred one with the bindings that the children of the driver carry. -/
def BoundTo (d : Element) (r : DriverRecord) (group : List DriverRecord) : Prop :=
  ∃ bindings, List.Forall₂ Carries d.children bindings ∧ group = bindings.map r.bound

variable {r : DriverRecord} {d : Element} {group : List DriverRecord}

/-- The children of a driver are read as their bindings, whatever else is not looked at. -/
theorem mapM_readBinding_eq_ok : (d.children.mapM fun child => do
      let binding ← readBinding child
      return { r with binding := some binding }) = .ok group ↔ BoundTo d r group := by
  have hchild : ∀ child, (do
      let binding ← readBinding child
      return { r with binding := some binding }) = (readBinding child).map r.bound := by
    intro child
    cases readBinding child <;> rfl
  rw [mapM_image r.bound hchild, map_eq_ok]
  refine exists_congr fun bindings => and_congr ?_ eq_comm
  rw [mapM_eq_ok]
  simp only [readBinding_eq_ok]

/-- **A driver** expands to the records with its bindings, if it has any. -/
theorem expand_eq_ok :
    expand r (some d) = .ok group ↔ d.children ≠ [] ∧ BoundTo d r group := by
  rw [expand, bind_eq_ok]
  simp only [mapM_readBinding_eq_ok]
  constructor
  · rintro ⟨found, hfound, h⟩
    refine ⟨fun hnil => ?_, h⟩
    simp [Element.require, Element.find?, hnil] at hfound
  · rintro ⟨hchildren, h⟩
    -- the first child is an interface, so one is found
    obtain ⟨bindings, hbindings, -⟩ := id h
    obtain ⟨child, rest, hrest⟩ := List.exists_cons_of_ne_nil hchildren
    obtain ⟨b, -, hb⟩ := exists_of_forall₂ hbindings.flip (hrest ▸ List.mem_cons_self)
    have hkind : [Schema.cdev, Schema.v4l2, Schema.alsa].contains child.name = true := by
      rcases (isInterface_iff.mpr ⟨b, hb⟩).kind with hname | hname | hname <;> rw [hname] <;> rfl
    have hfound : (child :: rest).find? (fun c =>
        [Schema.cdev, Schema.v4l2, Schema.alsa].contains c.name) = some child :=
      List.find?_cons_of_pos hkind
    refine ⟨child, ?_, h⟩
    rw [Element.require, Element.find?, hrest, hfound]

/-- Whether it expands does not depend on the record. -/
theorem succeeds_expand : Succeeds (expand r (some d)) ↔ ListsInterfaces d := by
  constructor
  · rintro ⟨group, h⟩
    obtain ⟨hchildren, bindings, hbindings, -⟩ := expand_eq_ok.mp h
    refine ⟨hchildren, fun child hchild => ?_⟩
    obtain ⟨b, -, hb⟩ := exists_of_forall₂ hbindings.flip hchild
    exact isInterface_iff.mpr ⟨b, hb⟩
  · rintro ⟨hchildren, hinterfaces⟩
    have hread : Succeeds (d.children.mapM readBinding) := by
      refine succeeds_mapM fun child hchild => ?_
      obtain ⟨b, hb⟩ := isInterface_iff.mp (hinterfaces child hchild)
      exact ⟨b, readBinding_eq_ok.mpr hb⟩
    obtain ⟨bindings, hbindings⟩ := hread
    have hcarries := (mapM_eq_ok.mp hbindings).imp fun child b => readBinding_eq_ok.mp
    exact ⟨_, expand_eq_ok.mpr ⟨hchildren, bindings, hcarries, rfl⟩⟩

end DriverRecord

end MediaNetwork

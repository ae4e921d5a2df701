/-
  Driver elements and the records they expand to.

  The drivers are gone through twice: once to give each to the link it names, and once, link by
  link, to expand what was given.  Neither pass shows in the result:

  1. Inferring — every first candidate of a link has a record exactly if it faces a USB or MediaLB
     socket; that the rest is there is what the graph promises (`succeeds_inferring`).
  2. Giving — the drivers can be given exactly if they name links that are known, each another one
     (`succeeds_giving`), and what is found for a link then is the driver that names it
     (`lookup_given`).
  3. Expanding — the records of a link are read off its driver, wherever that stands
     (`expand_lookup`), so the records are those of the links in order (`derived_of_derive`).
-/
import Mathlib.Data.Option.Basic
import MediaNetwork.Proofs.Arrangement.Order
import MediaNetwork.Proofs.Driver.Records

namespace MediaNetwork

open MediaNetwork.Markup MediaNetwork.Outcome

/-! ## Links -/

namespace LinkCandidate

/-- The links of candidates, each once, in the order they come up. -/
def links (cs : List LinkCandidate) : List String := (cs.map link).eraseDups

/-- The first candidate of a link. -/
def firstOf? (cs : List LinkCandidate) (link : String) : Option LinkCandidate :=
  cs.find? fun c => c.link == link

/-- The socket that a connection has on the side away from the network, behind its fan if there
    is one. -/
def FacesSocket (a : Arena) (c : LinkCandidate) (s : Socket) : Prop :=
  ∃ k, a.get? c.connection = some (.connection k) ∧
    ((a.IsNetwork k.socketOut ∧ a.sideSocket? k.socketIn = some s) ∨
      (¬ a.IsNetwork k.socketOut ∧ a.sideSocket? k.socketOut = some s))

variable {cs : List LinkCandidate}

theorem map_link_candidates : (DriverRecord.candidates [] cs).map link = links cs := by
  rw [DriverRecord.candidates_eq_firsts, Keyed.map_firsts]
  simp [links]

/-- What is kept of the candidates are the first ones of their links. -/
theorem firstOf?_of_mem {c : LinkCandidate} (hc : c ∈ DriverRecord.candidates [] cs) :
    firstOf? cs c.link = some c := by
  rw [DriverRecord.candidates_eq_firsts] at hc
  exact Keyed.find?_of_mem_firsts hc

/-- Every link has a first candidate, and that is kept. -/
theorem exists_candidate {link : String} (hlink : link ∈ links cs) :
    ∃ c ∈ DriverRecord.candidates [] cs, firstOf? cs link = some c := by
  rw [← map_link_candidates] at hlink
  obtain ⟨c, hc, rfl⟩ := List.mem_map.mp hlink
  exact ⟨c, hc, firstOf?_of_mem hc⟩

end LinkCandidate

/-- A driver can serve a socket of the host on USB or MediaLB. -/
def SocketKind.HasDriver : SocketKind → Prop
  | .usb .. | .mediaLb .. => True
  | .stream .. | .network .. => False

namespace DriverRecord

/-! ## Inferring -/

section Inferring

variable {a : Arena} {links : List LinkCandidate}
  (htyped : ∀ c ∈ links, ∃ e : Endpoint, e.TypedAt a ∧ e.connection = c.connection)

/-- A channel can be named exactly for the sockets that a driver serves. -/
theorem channel?_isSome {kind : SocketKind} : (channel? kind).isSome = true ↔ kind.HasDriver := by
  cases kind <;> simp [channel?, SocketKind.HasDriver]

/-- Where the drivers look for the host is the side away from the network. -/
theorem facesSocket_of_get {c : LinkCandidate} {k : Connection} {output : Resource} {host : Socket}
    (hk : a.get c.connection = .ok (.connection k)) (ho : a.get k.socketOut = .ok output)
    (hhost : hostSocket a (if output.isNetworkSocket then k.socketIn else k.socketOut) = .ok host) :
    c.FacesSocket a host := by
  refine ⟨k, Arena.get_eq_ok.mp hk, ?_⟩
  have hside := hostSocket_eq_ok.mp hhost
  cases hnetwork : output.isNetworkSocket with
  | true =>
    rw [hnetwork, if_pos rfl] at hside
    exact Or.inl ⟨⟨output, Arena.get_eq_ok.mp ho, hnetwork⟩, hside⟩
  | false =>
    rw [hnetwork, if_neg Bool.false_ne_true] at hside
    refine Or.inr ⟨?_, hside⟩
    rintro ⟨r, hr, hon⟩
    cases (Arena.get_eq_ok.mp ho).symm.trans hr
    rw [hnetwork] at hon
    nomatch hon

/-- A connection faces one socket. -/
theorem facesSocket_unique {c : LinkCandidate} {s t : Socket} (hs : c.FacesSocket a s)
    (ht : c.FacesSocket a t) : s = t := by
  obtain ⟨k, hk, hs⟩ := hs
  obtain ⟨k', hk', ht⟩ := ht
  cases hk.symm.trans hk'
  rcases hs with ⟨hon, hs⟩ | ⟨hoff, hs⟩ <;> rcases ht with ⟨hon', ht⟩ | ⟨hoff', ht⟩
  · exact Option.some.inj (hs.symm.trans ht)
  · exact absurd hon hoff'
  · exact absurd hon' hoff
  · exact Option.some.inj (hs.symm.trans ht)

/-- A record is inferred for a connection of the graph exactly if a driver can serve it. -/
theorem succeeds_infer {c : LinkCandidate} {e : Endpoint} (he : e.TypedAt a)
    (hconnection : e.connection = c.connection) :
    Succeeds (infer a c) ↔ ∃ s, c.FacesSocket a s ∧ s.kind.HasDriver := by
  obtain ⟨k, output, input, bandwidth, host, hk, ho, hi, hb, hhost⟩ := exists_host he
  rw [hconnection] at hk
  have hfaces : c.FacesSocket a host := facesSocket_of_get hk ho hhost
  constructor
  · rintro ⟨r, hr⟩
    obtain ⟨k', output', -, -, host', interface, channelName, packets, hk', ho', -, -, hhost',
      hchannel, -⟩ := infer_eq_ok.mp hr
    refine ⟨host', facesSocket_of_get hk' ho' hhost', channel?_isSome.mp ?_⟩
    rw [hchannel]
    rfl
  · rintro ⟨s, hs, hdriver⟩
    cases facesSocket_unique hs hfaces
    obtain ⟨⟨interface, channelName, packets⟩, hchannel⟩ :=
      Option.isSome_iff_exists.mp (channel?_isSome.mpr hdriver)
    exact ⟨_, infer_eq_ok.mpr ⟨k, output, input, bandwidth, host, interface, channelName, packets,
      hk, ho, hi, hb, hhost, hchannel, rfl⟩⟩

include htyped

/-- **Inferring** ends well exactly if drivers can serve the first candidates of all links. -/
theorem succeeds_inferring : Succeeds ((candidates [] links).mapM (infer a)) ↔
    ∀ link ∈ LinkCandidate.links links, ∃ c s, LinkCandidate.firstOf? links link = some c ∧
      c.FacesSocket a s ∧ s.kind.HasDriver := by
  have hinfer : ∀ c ∈ candidates [] links,
      (Succeeds (infer a c) ↔ ∃ s, c.FacesSocket a s ∧ s.kind.HasDriver) := by
    intro c hc
    obtain ⟨e, he, hconnection⟩ := htyped c ((candidates_sublist [] links).subset hc)
    exact succeeds_infer he hconnection
  constructor
  · rintro ⟨inferred, h⟩ link hlink
    obtain ⟨c, hc, hfirst⟩ := LinkCandidate.exists_candidate hlink
    obtain ⟨r, -, hr⟩ := exists_of_forall₂ (mapM_eq_ok.mp h).flip hc
    obtain ⟨s, hs, hdriver⟩ := (hinfer c hc).mp ⟨r, hr⟩
    exact ⟨c, s, hfirst, hs, hdriver⟩
  · intro h
    refine succeeds_mapM fun c hc => (hinfer c hc).mpr ?_
    have hlink : c.link ∈ LinkCandidate.links links := by
      rw [← LinkCandidate.map_link_candidates]
      exact List.mem_map_of_mem hc
    obtain ⟨c', s, hfirst, hs, hdriver⟩ := h c.link hlink
    cases (LinkCandidate.firstOf?_of_mem hc).symm.trans hfirst
    exact ⟨s, hs, hdriver⟩

end Inferring

/-! ## Giving -/

/-- A driver with the link that it was given to: a known one, and the one it names. -/
def GivenTo (known : List String) (d : Element) (g : String × Element) : Prop :=
  d.attribute? Schema.link = some g.1 ∧ g.1 ∈ known ∧ g.2 = d

section Giving

variable {known : List String} {drivers : List Element} {given : List (String × Element)}

/-- What is given to links: the drivers, each to the link that it names. -/
theorem giving_eq_ok : drivers.foldlM (assign known) [] = .ok given ↔
    List.Forall₂ (GivenTo known) drivers given ∧ (given.map Prod.fst).Nodup := by
  refine Keyed.collect_nil_eq_ok fun before d after => ?_
  rw [assign_eq_ok]
  simp only [GivenTo, Element.text_eq_ok]

/-- The links that drivers were given to are those they name. -/
theorem map_link_of_given (hgiven : List.Forall₂ (GivenTo known) drivers given) :
    (drivers.map fun d => d.attribute? Schema.link) = (given.map Prod.fst).map some := by
  rw [List.map_map, map_eq_map_iff_forall₂]
  exact hgiven.imp fun _ _ h => h.1

/-- **Giving** ends well exactly if every driver names a link that is known, each another one. -/
theorem succeeds_giving : Succeeds (drivers.foldlM (assign known) []) ↔
    (∀ d ∈ drivers, ∃ link ∈ known, d.attribute? Schema.link = some link) ∧
      (drivers.map fun d => d.attribute? Schema.link).Nodup := by
  constructor
  · rintro ⟨given, h⟩
    obtain ⟨hgiven, hdistinct⟩ := giving_eq_ok.mp h
    constructor
    · intro d hd
      obtain ⟨g, -, hlink, hknown, -⟩ := exists_of_forall₂ hgiven.flip hd
      exact ⟨g.1, hknown, hlink⟩
    · rw [map_link_of_given hgiven]
      exact hdistinct.map (Option.some_injective _)
  · rintro ⟨hnamed, honce⟩
    have hgiven : List.Forall₂ (GivenTo known) drivers
        (drivers.map fun d => ((d.attribute? Schema.link).getD "", d)) := by
      rw [List.forall₂_map_right_iff, List.forall₂_same]
      intro d hd
      obtain ⟨link, hknown, hlink⟩ := hnamed d hd
      rw [hlink]
      exact ⟨hlink, hknown, rfl⟩
    rw [map_link_of_given hgiven] at honce
    exact ⟨_, giving_eq_ok.mpr ⟨hgiven, honce.of_map some⟩⟩

/-- What is found for a link is a driver that names it, if there is one. -/
theorem lookup_given (hgiven : List.Forall₂ (GivenTo known) drivers given) (link : String) :
    (given.lookup link = none ∧ ∀ d ∈ drivers, d.attribute? Schema.link ≠ some link) ∨
      ∃ d ∈ drivers, given.lookup link = some d ∧ d.attribute? Schema.link = some link := by
  cases hfound : given.lookup link with
  | none =>
    refine Or.inl ⟨rfl, fun d hd hlink => ?_⟩
    obtain ⟨g, hg, hname, -⟩ := exists_of_forall₂ hgiven.flip hd
    have hother := List.lookup_eq_none_iff.mp hfound g hg
    rw [Option.some.inj (hlink.symm.trans hname)] at hother
    simp at hother
  | some d =>
    obtain ⟨before, after, rfl, -⟩ := List.lookup_eq_some_iff.mp hfound
    obtain ⟨d', hd', hlink, -, hsame⟩ := exists_of_forall₂ hgiven
      (List.mem_append_right before List.mem_cons_self)
    cases hsame
    exact Or.inr ⟨d, hd', rfl, hlink⟩

end Giving

/-! ## Expanding -/

/-- The records of a link whose inferred record is `r`: this alone if no driver names the link, else
    those of the driver that does. -/
def Expands (drivers : List Element) (r : DriverRecord) (group : List DriverRecord) : Prop :=
  ((∀ d ∈ drivers, d.attribute? Schema.link ≠ some r.link) ∧ group = [r]) ∨
    ∃ d ∈ drivers, d.attribute? Schema.link = some r.link ∧ BoundTo d r group

/-- **Expanding**: the records of a link do not depend on where its driver stands. -/
theorem expand_lookup {known : List String} {drivers : List Element}
    {given : List (String × Element)} (hgiven : List.Forall₂ (GivenTo known) drivers given)
    {r : DriverRecord} {group : List DriverRecord}
    (h : expand r (given.lookup r.link) = .ok group) : Expands drivers r group := by
  rcases lookup_given hgiven r.link with ⟨hnone, hfree⟩ | ⟨d, hd, hfound, hlink⟩
  · rw [hnone] at h
    cases h
    exact Or.inl ⟨hfree, rfl⟩
  · rw [hfound] at h
    exact Or.inr ⟨d, hd, hlink, (expand_eq_ok.mp h).2⟩

/-! ## Deriving -/

variable {a : Arena} {links : List LinkCandidate} {drivers : List Element}

/-- What makes driver records derivable: drivers can serve the first candidates of all links, the
    drivers name links, each another one, and list interfaces. -/
structure Drivable (a : Arena) (links : List LinkCandidate) (drivers : List Element) : Prop where
  served : ∀ link ∈ LinkCandidate.links links, ∃ c s, LinkCandidate.firstOf? links link = some c ∧
    c.FacesSocket a s ∧ s.kind.HasDriver
  named : ∀ d ∈ drivers, ∃ link ∈ LinkCandidate.links links,
    d.attribute? Schema.link = some link
  once : (drivers.map fun d => d.attribute? Schema.link).Nodup
  listed : ∀ d ∈ drivers, ListsInterfaces d

/-- The records come link by link, each link with what its inferred record expands to. -/
def Derived (a : Arena) (links : List LinkCandidate) (drivers : List Element)
    (records : List DriverRecord) : Prop :=
  ∃ groups : List (List DriverRecord), records = groups.flatten ∧
    List.Forall₂ (fun link group => ∃ c r, LinkCandidate.firstOf? links link = some c ∧
        infer a c = .ok r ∧ r.link = link ∧ r.binding = none ∧ Expands drivers r group)
      (LinkCandidate.links links) groups

/-- The links of what was inferred are those of the candidates. -/
theorem map_link_inferred {inferred : List DriverRecord}
    (h : (candidates [] links).mapM (infer a) = .ok inferred) :
    (inferred.map fun r => r.link) = LinkCandidate.links links := by
  rw [← LinkCandidate.map_link_candidates, map_eq_map_iff_forall₂]
  exact (mapM_eq_ok.mp h).flip.imp fun r c hr => (infer_spec hr).1

theorem derive_eq_ok {records : List DriverRecord} : derive a links drivers = .ok records ↔
    ∃ inferred given groups, (candidates [] links).mapM (infer a) = .ok inferred ∧
      drivers.foldlM (assign (LinkCandidate.links links)) [] = .ok given ∧
      inferred.mapM (fun r => expand r (given.lookup r.link)) = .ok groups ∧
      records = groups.flatten := by
  unfold derive
  simp only [bind_eq_ok]
  constructor
  · rintro ⟨inferred, hinferred, given, hgiven, groups, hgroups, h⟩
    rw [map_link_inferred hinferred] at hgiven
    cases h
    exact ⟨inferred, given, groups, hinferred, hgiven, hgroups, rfl⟩
  · rintro ⟨inferred, given, groups, hinferred, hgiven, hgroups, rfl⟩
    rw [← map_link_inferred hinferred] at hgiven
    exact ⟨inferred, hinferred, given, hgiven, groups, hgroups, rfl⟩

/-- What is derived comes link by link. -/
theorem derived_of_derive {records : List DriverRecord}
    (h : derive a links drivers = .ok records) : Derived a links drivers records := by
  obtain ⟨inferred, given, groups, hinferred, hgiven, hgroups, rfl⟩ := derive_eq_ok.mp h
  have hgiven := (giving_eq_ok.mp hgiven).1
  refine ⟨groups, rfl, ?_⟩
  rw [← LinkCandidate.map_link_candidates, List.forall₂_map_left_iff]
  have hinferred := (List.forall₂_and_left (candidates [] links) inferred).mpr
    ⟨fun c hc => LinkCandidate.firstOf?_of_mem hc, mapM_eq_ok.mp hinferred⟩
  refine forall₂_comp (fun c r group hr hgroup => ?_) hinferred (mapM_eq_ok.mp hgroups)
  obtain ⟨hfirst, hinfer⟩ := hr
  obtain ⟨hlink, hunbound⟩ := infer_spec hinfer
  exact ⟨c, r, hfirst, hinfer, hlink, hunbound, expand_lookup hgiven hgroup⟩

/-- Where records are derived, every driver was expanded, so it lists interfaces. -/
theorem listsInterfaces_of_derive {records : List DriverRecord}
    (h : derive a links drivers = .ok records) : ∀ d ∈ drivers, ListsInterfaces d := by
  obtain ⟨inferred, given, groups, hinferred, hgiven, hgroups, -⟩ := derive_eq_ok.mp h
  obtain ⟨-, honce⟩ := succeeds_giving.mp ⟨given, hgiven⟩
  have hgiven := (giving_eq_ok.mp hgiven).1
  intro d hd
  obtain ⟨g, -, hlink, hknown, -⟩ := exists_of_forall₂ hgiven.flip hd
  rw [← map_link_inferred hinferred] at hknown
  obtain ⟨r, hr, hname⟩ := List.mem_map.mp hknown
  obtain ⟨group, -, hgroup⟩ := exists_of_forall₂ (mapM_eq_ok.mp hgroups).flip hr
  rw [← hname] at hlink
  rcases lookup_given hgiven r.link with ⟨-, hfree⟩ | ⟨d', hd', hfound, hlink'⟩
  · exact absurd hlink (hfree d hd)
  · -- drivers that name one link are one driver
    have hsame : d' = d := List.inj_on_of_nodup_map honce hd' hd (hlink'.trans hlink.symm)
    rw [hfound, hsame] at hgroup
    exact succeeds_expand.mp ⟨group, hgroup⟩

/-- **Deriving** ends well exactly if the records are derivable. -/
theorem succeeds_derive
    (htyped : ∀ c ∈ links, ∃ e : Endpoint, e.TypedAt a ∧ e.connection = c.connection) :
    Succeeds (derive a links drivers) ↔ Drivable a links drivers := by
  constructor
  · rintro ⟨records, h⟩
    obtain ⟨inferred, given, groups, hinferred, hgiven, hgroups, -⟩ := derive_eq_ok.mp h
    obtain ⟨hnamed, honce⟩ := succeeds_giving.mp ⟨given, hgiven⟩
    exact ⟨(succeeds_inferring htyped).mp ⟨inferred, hinferred⟩, hnamed, honce,
      listsInterfaces_of_derive h⟩
  · rintro ⟨hserved, hnamed, honce, hlisted⟩
    obtain ⟨inferred, hinferred⟩ := (succeeds_inferring htyped).mpr hserved
    obtain ⟨given, hgiven⟩ := succeeds_giving.mpr ⟨hnamed, honce⟩
    have hexpand : Succeeds (inferred.mapM fun r => expand r (given.lookup r.link)) := by
      refine succeeds_mapM fun r _ => ?_
      rcases lookup_given (giving_eq_ok.mp hgiven).1 r.link with ⟨hnone, -⟩ | ⟨d, hd, hfound, -⟩
      · rw [hnone]
        exact ⟨[r], rfl⟩
      · rw [hfound]
        exact succeeds_expand.mpr (hlisted d hd)
    obtain ⟨groups, hgroups⟩ := hexpand
    exact ⟨_, derive_eq_ok.mpr ⟨inferred, given, groups, hinferred, hgiven, hgroups, rfl⟩⟩

/-- **Drivers expand link by link.**  For the graph of any document and for any driver elements,
    records are derived exactly if drivers can serve the first connection of every link, and the
    drivers name links, each another one, and list interfaces only.  The records come in the order
    of the links: for a link that no driver names the inferred record, else one copy of it for each
    interface of the driver, with the binding that the interface carries.  The order of the drivers
    changes nothing. -/
theorem derive_exact {root : Element} {b : Builder} (hb : buildNodes root = .ok b)
    (drivers : List Element) :
    (Succeeds (derive b.arena b.links.toList drivers) ↔
      Drivable b.arena b.links.toList drivers) ∧
    (∀ records, derive b.arena b.links.toList drivers = .ok records →
      Derived b.arena b.links.toList drivers records) ∧
    ∀ drivers', drivers.Perm drivers' → ∀ records,
      derive b.arena b.links.toList drivers = .ok records ↔
        derive b.arena b.links.toList drivers' = .ok records := by
  obtain ⟨plans, hbuilt, -⟩ := Builder.built_of_buildNodes hb
  have htyped : ∀ c ∈ b.links.toList, ∃ e : Endpoint,
      e.TypedAt b.arena ∧ e.connection = c.connection := by
    intro c hc
    obtain ⟨e, he, hconnection⟩ := hbuilt.accounted.links c hc
    exact ⟨e, hbuilt.graph.typedAt he, hconnection⟩
  exact ⟨succeeds_derive htyped, fun records => derived_of_derive, fun drivers' hperm records =>
    ⟨derive_of_perm hperm, derive_of_perm hperm.symm⟩⟩

/-- A document with a link on both branches of a splitter and a link on a connection alone. -/
def linkedRoot : Element :=
  ⟨"Unicens", [("AsyncBandwidth", "0")], [⟨"Node", [("Address", "512")], [
    ⟨"SyncConnection", [("Link", "tx")], [
      ⟨"USBSocket", [("EndpointAddress", "0x01"), ("FramesPerTransaction", "2")], [], 3⟩,
      ⟨"Splitter", [("BytesPerFrame", "4")], [
        ⟨"NetworkSocket", [("Bandwidth", "4"), ("Route", "a"), ("Offset", "0")], [], 5⟩,
        ⟨"NetworkSocket", [("Bandwidth", "4"), ("Route", "b"), ("Offset", "4")], [], 6⟩], 4⟩], 2⟩,
    ⟨"AVPConnection", [("Link", "rx")], [
      ⟨"NetworkSocket", [("Bandwidth", "4"), ("Route", "c")], [], 8⟩,
      ⟨"MediaLBSocket", [("ChannelAddress", "10"), ("Bandwidth", "4")], [], 9⟩], 7⟩], 1⟩], 0⟩

/-- A driver with two interfaces for the link of the splitter. -/
def splitterDriver : Element :=
  ⟨"Driver", [("Link", "tx")], [
    ⟨"Cdev", [("Name", "inic"), ("BufferCount", "8"), ("BufferSize", "4096")], [], 11⟩,
    ⟨"Alsa", [("BufferCount", "4"), ("BufferSize", "2048"), ("ChannelCount", "2"),
      ("Resolution", "16bit")], [], 12⟩], 10⟩

/-- The link of the splitter has two records and the other link one. -/
theorem derive_linkedRoot : ∃ b, buildNodes linkedRoot = .ok b ∧
    Drivable b.arena b.links.toList [splitterDriver] ∧
    ∃ records, (records.map fun r : DriverRecord => (r.link, r.binding.isSome)) =
        [("tx", true), ("tx", true), ("rx", false)] ∧
      Derived b.arena b.links.toList [splitterDriver] records := by
  have h : (do
      let b ← buildNodes linkedRoot
      let records ← derive b.arena b.links.toList [splitterDriver]
      return records.map fun r : DriverRecord => (r.link, r.binding.isSome)) =
        .ok [("tx", true), ("tx", true), ("rx", false)] := by
    decide +kernel
  obtain ⟨b, hb, h⟩ := bind_eq_ok.mp h
  obtain ⟨records, hrecords, h⟩ := bind_eq_ok.mp h
  obtain ⟨hsucceeds, hderived, -⟩ := derive_exact hb [splitterDriver]
  exact ⟨b, hb, hsucceeds.mp ⟨records, hrecords⟩, records, Except.ok.inj h,
    hderived records hrecords⟩

end DriverRecord

end MediaNetwork

/-
  Driver records and the graph.

  Endpoints and driver records are computed on two ways: the builder decides which side of a
  connection faces the network when it creates it, the drivers decide it again from the finished
  arena.  Both see the same.

  1. One record — what is inferred for an endpoint says what the graph says of it: its node, its
     direction, the type of data, the bandwidth of its network socket or the size of a packet, and
     the socket at the other end, behind its fan if there is one (`describes_of_infer`).  Behind a
     fan there is never another one (`hostSocket_unwraps`).
  2. Which endpoint — a record is inferred for the first endpoint of its link
     (`Builder.Listed.find?`).
  3. All records — link by link, in the order the links come up among the endpoints, with one
     record without a binding or some that all have one (`Service.shape_records`).
-/
import MediaNetwork.Proofs.Driver.Links
import MediaNetwork.Proofs.Print.Drivers
import MediaNetwork.Proofs.Refusal.Documents

namespace MediaNetwork

open MediaNetwork.Outcome

/-! ## What a record says of an endpoint -/

/-- The direction of the channel to an endpoint: the host sends to a source. -/
def EndpointKind.channelDirection : EndpointKind → ChannelDirection
  | source => .tx
  | sink => .rx

/-- The side of the connection that faces away from the network. -/
def EndpointKind.hostSide (k : Connection) : EndpointKind → ResourceId
  | source => k.socketIn
  | sink => k.socketOut

/-- The record names the channel that ends at a socket of this kind: a USB endpoint by the two
    hexadecimal digits of its address, a MediaLB channel by its number. -/
def DriverRecord.EndsAt (r : DriverRecord) : SocketKind → Prop
  | .usb address frames =>
    r.interface = .usb ∧
      r.channelName = "ep" ++ String.ofList [Nat.digitChar (address.toNat / 16),
        Nat.digitChar (address.toNat % 16)] ∧
      r.packetsPerTransaction = frames
  | .mediaLb address _ =>
    r.interface = .mediaLb ∧ r.channelName = "ca" ++ toString address.toNat ∧
      r.packetsPerTransaction = 0
  | .stream .. | .network .. => False

/-- The size of a sub-buffer is the bandwidth on the network for synchronous data, else the size of
    a packet. -/
def DriverRecord.Sized (r : DriverRecord) (bandwidth : UInt16) : ConnectionKind → Prop
  | .sync .. => r.dataType = .sync ∧ r.subBufferSize = bandwidth
  | .avPacketized packetSize => r.dataType = .isochronous ∧ r.subBufferSize = packetSize.bytes

/-- The record describes the channel to the endpoint. -/
structure DriverRecord.Describes (a : Arena) (r : DriverRecord) (e : Endpoint) : Prop where
  node : r.node = e.node
  direction : r.direction = e.kind.channelDirection
  /-- The rest is that of its connection, whose network side is the network socket of the
      endpoint and whose other side leads to a socket of the host. -/
  channel : ∃ k port direction dataType bandwidth decl host,
    a.get? e.connection = some (.connection k) ∧
    a.get? e.networkSocket = some (.socket ⟨port, direction, dataType, .network bandwidth decl⟩) ∧
    a.sideSocket? (e.kind.hostSide k) = some host ∧
    r.Sized bandwidth k.kind ∧ r.EndsAt host.kind

/-- A binding adds nothing to it. -/
theorem DriverRecord.Describes.bound {a : Arena} {r : DriverRecord} {e : Endpoint}
    (h : r.Describes a e) (b : DriverBinding) : (r.bound b).Describes a e :=
  ⟨h.node, h.direction, h.channel⟩

/-! ## One record -/

/-- A number below 256 has two hexadecimal digits. -/
theorem hexLower_two {n : Nat} (h : n < 256) : Text.hexLower 2 n =
    String.ofList [Nat.digitChar (n / 16), Nat.digitChar (n % 16)] := by
  have hdigit : n % 16 < 16 := Nat.mod_lt n (by decide)
  have hhigh : n / 16 < 16 := by omega
  unfold Text.hexLower
  by_cases hsmall : n < 16
  · have hzero : n / 16 = 0 := by omega
    have hsame : n % 16 = n := by omega
    rw [Nat.toDigits_of_lt_base hsmall, hzero, hsame]
    rfl
  · have hpos : 0 < n / 16 := by omega
    have hsplit : 16 * (n / 16) + n % 16 = n := by omega
    have hdigits : Nat.toDigits 16 n = [Nat.digitChar (n / 16), Nat.digitChar (n % 16)] := by
      rw [← congrArg (Nat.toDigits 16) hsplit,
        ← Nat.toDigits_append_toDigits (by decide) hpos hdigit, Nat.toDigits_of_lt_base hhigh,
        Nat.toDigits_of_lt_base hdigit]
      rfl
    rw [hdigits]
    rfl

namespace DriverRecord

variable {a : Arena}

/-- A side leads to this socket through splitters and combiners, however many there are. -/
inductive Unwraps (a : Arena) (s : Socket) : ResourceId → Prop
  | socket {id : ResourceId} (h : a.get? id = some (.socket s)) : Unwraps a s id
  | splitter {id : ResourceId} {f : Splitter} (h : a.get? id = some (.splitter f))
      (inner : Unwraps a s f.socketIn) : Unwraps a s id
  | combiner {id : ResourceId} {f : Combiner} (h : a.get? id = some (.combiner f))
      (inner : Unwraps a s f.socketOut) : Unwraps a s id

/-- A socket leads to itself. -/
theorem Unwraps.of_socket? {id : ResourceId} {s : Socket} (h : a.socket? id = some s) :
    Unwraps a s id := by
  obtain ⟨r, hr, hsocket⟩ := Option.bind_eq_some_iff.mp h
  match r, hsocket with
  | .socket t, hsocket =>
    cases hsocket
    exact .socket hr

/-- And a socket leads nowhere else. -/
theorem Unwraps.socket?_of_isSocket {id : ResourceId} {direction : Direction} {s : Socket}
    (h : Unwraps a s id) (hid : a.IsSocket direction id) : a.socket? id = some s := by
  obtain ⟨t, hget, -⟩ := hid
  unfold Arena.socket?
  rw [hget]
  cases h with
  | socket h => exact congrArg (Option.bind · Resource.socket?) (hget.symm.trans h)
  | splitter h => nomatch hget.symm.trans h
  | combiner h => nomatch hget.symm.trans h

/-- **Nothing is nested deeper**: in a typed arena the drivers find the socket that going on for as
    long as there is a splitter or combiner leads to. -/
theorem hostSocket_unwraps (ht : a.Typed) {side : ResourceId} {s : Socket} :
    hostSocket a side = .ok s ↔ Unwraps a s side := by
  rw [hostSocket_eq_ok]
  unfold Arena.sideSocket?
  constructor
  · intro h
    split at h
    · rename_i t hget
      cases h
      exact .socket hget
    · rename_i f hget
      exact .splitter hget (.of_socket? h)
    · rename_i f hget
      exact .combiner hget (.of_socket? h)
    · nomatch h
  · -- what a splitter or combiner wraps is a socket, so the second step is the last one
    intro h
    cases h with
    | socket h => rw [h]
    | splitter h inner =>
      rw [h]
      exact inner.socket?_of_isSocket (ht _ _ h).2
    | combiner h inner =>
      rw [h]
      exact inner.socket?_of_isSocket (ht _ _ h).2

/-- What the drivers say of a socket is what `EndsAt` asks for. -/
theorem endsAt_of_channel? {kind : SocketKind} {r : DriverRecord}
    (h : channel? kind = some (r.interface, r.channelName, r.packetsPerTransaction)) :
    r.EndsAt kind := by
  cases kind with
  | usb address frames =>
    have haddress : address.toNat < 256 := address.toNat_lt
    simp only [channel?, Option.some.injEq, Prod.mk.injEq] at h
    obtain ⟨hinterface, hname, hframes⟩ := h
    rw [hexLower_two haddress] at hname
    exact ⟨hinterface.symm, hname.symm, hframes.symm⟩
  | mediaLb address bandwidth =>
    simp only [channel?, Option.some.injEq, Prod.mk.injEq] at h
    obtain ⟨hinterface, hname, hzero⟩ := h
    exact ⟨hinterface.symm, hname.symm, hzero.symm⟩
  | stream pin bandwidth => nomatch h
  | network bandwidth decl => nomatch h

/-- The size is what `Sized` asks for. -/
theorem sized_of_subBuffer {kind : ConnectionKind} {bandwidth : UInt16} {r : DriverRecord}
    (htype : r.dataType = kind.dataType) (hsize : r.subBufferSize = subBuffer bandwidth kind) :
    r.Sized bandwidth kind := by
  cases kind with
  | sync muteMode offset => exact ⟨htype, hsize⟩
  | avPacketized packetSize => exact ⟨htype, hsize⟩

/-- The host's socket has the direction of its side: a fan wraps a socket of its own direction. -/
theorem direction_of_hostSide {k : Connection} (ht : a.Typed) (hk : k.TypedAt a) {s : Socket} :
    (a.sideSocket? k.socketIn = some s → s.direction = .input) ∧
      (a.sideSocket? k.socketOut = some s → s.direction = .output) := by
  have hsocket : ∀ {direction id}, a.IsSocket direction id → a.socket? id = some s →
      s.direction = direction := by
    rintro direction id ⟨t, hget, rfl⟩ hs
    rw [Arena.socket?, hget] at hs
    cases hs
    rfl
  unfold Arena.sideSocket?
  constructor
  · intro hs
    rcases hk.input with ⟨t, hget, hdirection⟩ | ⟨f, hget⟩
    · rw [hget] at hs
      cases hs
      exact hdirection
    · rw [hget] at hs
      exact hsocket (ht _ _ hget).2 hs
  · intro hs
    rcases hk.output with ⟨t, hget, hdirection⟩ | ⟨f, hget⟩
    · rw [hget] at hs
      cases hs
      exact hdirection
    · rw [hget] at hs
      exact hsocket (ht _ _ hget).2 hs

/-- The drivers and the builder agree on the network side: the bandwidth found there is that of the
    network socket of the endpoint, and the host is looked for on the other side. -/
theorem network_side {k : Connection} {e : Endpoint} (h : e.Faces a k) {output input : Resource}
    (hout : a.get? k.socketOut = some output) (hin : a.get? k.socketIn = some input)
    {bandwidth : UInt16}
    (hbandwidth : (networkBandwidth? output <|> networkBandwidth? input) = some bandwidth) :
    (∃ port direction dataType decl, a.get? e.networkSocket =
      some (.socket ⟨port, direction, dataType, .network bandwidth decl⟩)) ∧
    (if output.isNetworkSocket then k.socketIn else k.socketOut) = e.kind.hostSide k := by
  rcases h with ⟨hnetwork, hsource, hsocket⟩ | ⟨hnot, hsink, hsocket, hnetwork⟩
  · obtain ⟨port, direction, dataType, found, decl, hs⟩ := hnetwork.exists_socket
    cases hs.symm.trans hout
    have hsame : found = bandwidth := Option.some.inj hbandwidth
    rw [hsocket, hsource, ← hsame]
    exact ⟨⟨port, direction, dataType, decl, hs⟩, rfl⟩
  · obtain ⟨port, direction, dataType, found, decl, hs⟩ := hnetwork.exists_socket
    cases hs.symm.trans hin
    -- an output that is not on the network has no bandwidth there
    have hoff : output.isNetworkSocket = false := by
      rw [← Bool.not_eq_true]
      exact fun hon => hnot ⟨output, hout, hon⟩
    have hnone : networkBandwidth? output = none := by
      unfold networkBandwidth?
      split
      · nomatch hoff
      · rfl
    rw [hnone] at hbandwidth
    have hsame : found = bandwidth := Option.some.inj hbandwidth
    rw [hsocket, hsink, hoff, ← hsame]
    exact ⟨⟨port, direction, dataType, decl, hs⟩, rfl⟩

/-- **One record**: what is inferred for the connection of an endpoint describes the endpoint. -/
theorem describes_of_infer (ht : a.Typed) {c : LinkCandidate} {r : DriverRecord} {e : Endpoint}
    (he : e.TypedAt a) (hnode : c.node = e.node) (hconnection : c.connection = e.connection)
    (h : infer a c = .ok r) : r.Describes a e := by
  obtain ⟨k, output, input, bandwidth, host, interface, channelName, packets, hk, hout, hin,
    hbandwidth, hhost, hchannel, rfl⟩ := infer_eq_ok.mp h
  obtain ⟨k', hk', -, -, hfaces⟩ := he
  rw [hconnection] at hk
  cases hk'.symm.trans (Arena.get_eq_ok.mp hk)
  obtain ⟨⟨port, direction, dataType, decl, hsocket⟩, hside⟩ :=
    network_side hfaces (Arena.get_eq_ok.mp hout) (Arena.get_eq_ok.mp hin) hbandwidth
  rw [hside] at hhost
  have hhost := hostSocket_eq_ok.mp hhost
  -- the host's socket is an input where the endpoint is a source, else an output
  have hdirection := direction_of_hostSide ht (ht _ _ hk').2 (s := host)
  refine ⟨hnode, ?_, k, port, direction, dataType, bandwidth, decl, host, hk', hsocket, hhost,
    sized_of_subBuffer rfl rfl, endsAt_of_channel? hchannel⟩
  show hostDirection host.direction = e.kind.channelDirection
  cases hkind : e.kind with
  | source =>
    rw [hkind] at hhost
    rw [hdirection.1 hhost]
    rfl
  | sink =>
    rw [hkind] at hhost
    rw [hdirection.2 hhost]
    rfl

end DriverRecord

/-! ## Which endpoint -/

/-- The first endpoint with this link. -/
def Configuration.firstOf? (c : Configuration) (link : String) : Option Endpoint :=
  c.endpoints.find? fun e => e.link == some link

/-- The first candidate of a link comes from the first endpoint of the link. -/
theorem Builder.Listed.find? {b : Builder} (h : b.Listed) {c : LinkCandidate}
    (hc : (b.links.toList.find? fun l => l.link == c.link) = some c) :
    ∃ e, (b.endpoints.toList.find? fun e => e.link == some c.link) = some e ∧
      c.node = e.node ∧ c.connection = e.connection := by
  have hkeys : (b.links.toList.map LinkCandidate.key).find? (fun k => k.1 == c.link) =
      some c.key := by
    have hfun : ((fun k : String × UInt16 × ResourceId => k.1 == c.link) ∘ LinkCandidate.key) =
        fun l => l.link == c.link := rfl
    rw [List.find?_map, hfun, hc]
    rfl
  have hfun : (fun e : Endpoint => e.linkKey.any fun k => k.1 == c.link) =
      fun e => e.link == some c.link := by
    funext e
    unfold Endpoint.linkKey
    cases e.link with
    | none => rfl
    | some link => rfl
  unfold Listed at h
  rw [h, List.find?_filterMap, hfun] at hkeys
  obtain ⟨e, he, hkey⟩ := Option.bind_eq_some_iff.mp hkeys
  obtain ⟨link, -, hsame⟩ := Option.map_eq_some_iff.mp hkey
  have hrest : (e.node, e.connection) = (c.node, c.connection) := congrArg Prod.snd hsame
  exact ⟨e, he, (congrArg Prod.fst hrest).symm, (congrArg Prod.snd hrest).symm⟩

/-- The links of the candidates are the links of the endpoints. -/
theorem Builder.Listed.map_link {b : Builder} (h : b.Listed) :
    b.links.toList.map LinkCandidate.link = b.endpoints.toList.filterMap Endpoint.link := by
  have hkeys : (b.links.toList.map LinkCandidate.key).map Prod.fst =
      (b.endpoints.toList.filterMap Endpoint.linkKey).map Prod.fst := congrArg _ h
  rw [List.map_map, List.map_filterMap] at hkeys
  have hfun : (fun e : Endpoint => e.linkKey.map Prod.fst) = Endpoint.link := by
    funext e
    unfold Endpoint.linkKey
    cases e.link with
    | none => rfl
    | some link => rfl
  rw [hfun] at hkeys
  exact hkeys

/-! ## All records -/

namespace Service

/-- The records of one link: one without a binding, or one or more that all have one. -/
def Shape (records : List DriverRecord) : Prop :=
  (∃ r, records = [r] ∧ r.binding = none) ∨
    (records ≠ [] ∧ ∀ r ∈ records, r.binding.isSome = true)

theorem shape_records {s : Service} (h : s.record.binding = none) : Shape s.records := by
  obtain ⟨r, bindings⟩ := s
  cases bindings with
  | nil => exact Or.inl ⟨r, rfl, h⟩
  | cons b bs =>
    refine Or.inr ⟨List.cons_ne_nil _ _, fun x hx => ?_⟩
    obtain ⟨b', -, rfl⟩ := List.mem_map.mp (hx : x ∈ (b :: bs).map r.bound)
    rfl

/-- There is a record for each link. -/
theorem exists_record (s : Service) : ∃ r, r ∈ s.records := by
  obtain ⟨r, bindings⟩ := s
  cases bindings with
  | nil => exact ⟨r, List.mem_cons_self⟩
  | cons b bs => exact ⟨r.bound b, List.mem_cons_self⟩

/-- The records of a service describe what its inferred record describes. -/
theorem describes {a : Arena} {s : Service} {e : Endpoint} (h : s.record.Describes a e) :
    ∀ r ∈ s.records, r.Describes a e := by
  intro r hr
  unfold records at hr
  split at hr
  · rw [List.mem_singleton.mp hr]
    exact h
  · obtain ⟨b, -, rfl⟩ := List.mem_map.mp hr
    exact h.bound b

end Service

/-- How the driver records of a configuration and its endpoints agree. -/
structure Configuration.DriversAgree (c : Configuration) : Prop where
  /-- The links that have records are the links of endpoints. -/
  links : ∀ link, (∃ r ∈ c.drivers, r.link = link) ↔ ∃ e ∈ c.endpoints, e.link = some link
  /-- Two endpoints have the same link only if they are branches of the same fan. -/
  apart : ∀ i j e e', c.endpoint? i = some e → c.endpoint? j = some e' → i ≠ j →
    e.Apart c.arena e'
  /-- The records come link by link, in the order the links come up among the endpoints. -/
  grouped : ∃ groups : List (List DriverRecord), c.drivers = groups.flatten ∧
    List.Forall₂ (fun link group => (∀ r ∈ group, r.link = link) ∧ Service.Shape group)
      (c.endpoints.filterMap Endpoint.link).eraseDups groups
  /-- A record describes the first endpoint of its link. -/
  described : ∀ r ∈ c.drivers, ∃ e, c.firstOf? r.link = some e ∧ r.Describes c.arena e

/-- What is derived for a graph that was built agrees with it. -/
theorem driversAgree_of_derive {plans : List NodePlan} {b : Builder}
    (hb : Builder.Built plans b) {elements : List Markup.Element} {c : Configuration}
    (hends : c.endpoints = b.endpoints.toList) (harena : c.arena = b.arena)
    (h : DriverRecord.derive b.arena b.links.toList elements = .ok c.drivers) :
    c.DriversAgree := by
  obtain ⟨services, hinferred, hrecords, -, hunbound⟩ := DriverRecord.derive_spec h
  rw [DriverRecord.candidates_eq_firsts] at hinferred
  have hinferred := mapM_eq_ok.mp hinferred
  -- there is one service for each link of an endpoint, in the order of the links
  have hlinks : services.map Service.link = (c.endpoints.filterMap Endpoint.link).eraseDups := by
    have hsame : services.map Service.link =
        (Keyed.firsts LinkCandidate.link [] b.links.toList).map LinkCandidate.link := by
      rw [List.forall₂_map_right_iff] at hinferred
      rw [map_eq_map_iff_forall₂]
      exact hinferred.flip.imp fun s l hs => (DriverRecord.infer_spec hs).1
    rw [hsame, Keyed.map_firsts, hb.listed.map_link, hends]
    simp
  have hdescribed : ∀ s ∈ services, ∃ e, c.firstOf? s.link = some e ∧
      s.record.Describes c.arena e := by
    intro s hs
    obtain ⟨l, hl, hinfer⟩ := exists_of_forall₂ hinferred (List.mem_map_of_mem hs)
    obtain ⟨e, he, hnode, hconnection⟩ := hb.listed.find? (Keyed.find?_of_mem_firsts hl)
    have hlink : s.link = l.link := (DriverRecord.infer_spec hinfer).1
    have htyped : e.TypedAt b.arena := hb.graph.typedAt (List.mem_of_find?_eq_some he)
    unfold Configuration.firstOf?
    rw [hlink, hends, harena]
    exact ⟨e, he, DriverRecord.describes_of_infer hb.graph.typed htyped hnode hconnection hinfer⟩
  refine ⟨fun link => ?_, fun i j e e' he he' hij => ?_, ?_, fun r hr => ?_⟩
  · -- the links of records are the links of services, none of which is without a record
    have hmem : link ∈ services.map Service.link ↔ ∃ e ∈ c.endpoints, e.link = some link := by
      rw [hlinks, List.mem_eraseDups, List.mem_filterMap]
    rw [← hmem, hrecords]
    constructor
    · rintro ⟨r, hr, rfl⟩
      obtain ⟨s, hs, hr⟩ := List.mem_flatMap.mp hr
      rw [s.link_of_mem r hr]
      exact List.mem_map_of_mem hs
    · intro hlink
      obtain ⟨s, hs, rfl⟩ := List.mem_map.mp hlink
      obtain ⟨r, hr⟩ := s.exists_record
      exact ⟨r, List.mem_flatMap.mpr ⟨s, hs, hr⟩, s.link_of_mem r hr⟩
  · -- the graph keeps endpoints of one link in one fan, stated for the earlier and the later one
    unfold Configuration.endpoint? at he he'
    rw [hends] at he he'
    obtain ⟨hi, rfl⟩ := List.getElem?_eq_some_iff.mp he
    obtain ⟨hj, rfl⟩ := List.getElem?_eq_some_iff.mp he'
    have hseparate := List.pairwise_iff_getElem.mp hb.separate
    have hne : i.index ≠ j.index := fun h => hij (congrArg EndpointId.mk h)
    rw [harena]
    rcases Nat.lt_or_gt_of_ne hne with hlt | hlt
    · exact hseparate i.index j.index hi hj hlt
    · exact (hseparate j.index i.index hj hi hlt).symm
  · refine ⟨services.map Service.records, ?_, ?_⟩
    · rw [hrecords, List.flatMap_def]
    · rw [← hlinks, List.forall₂_map_left_iff, List.forall₂_map_right_iff, List.forall₂_same]
      exact fun s hs => ⟨s.link_of_mem, Service.shape_records (hunbound s hs)⟩
  · rw [hrecords] at hr
    obtain ⟨s, hs, hr⟩ := List.mem_flatMap.mp hr
    obtain ⟨e, he, hdescribes⟩ := hdescribed s hs
    rw [s.link_of_mem r hr]
    exact ⟨e, he, Service.describes hdescribes r hr⟩

/-! ## Documents -/

/-- **Drivers agree with the graph**: in the configuration of any document that compiles, the
    driver records are those of the links of endpoints, in the order of the endpoints, and each
    describes the first endpoint of its link. -/
theorem driversAgree_of_compile {text : String} {c : Configuration} (h : compile text = .ok c) :
    c.DriversAgree := by
  obtain ⟨root, -, h⟩ := compile_eq_ok.mp h
  obtain ⟨b, scripts, -, hb, -, -, -, hdrivers, hends, harena⟩ := compileElement_eq_ok.mp h
  obtain ⟨plans, hbuilt, -⟩ := Builder.built_of_buildNodes hb
  exact driversAgree_of_derive hbuilt hends harena hdrivers

theorem driversAgree_sampleDocument : ∃ c, compile sampleDocument = .ok c ∧
    c.drivers.length = 1 ∧ c.DriversAgree := by
  obtain ⟨c, hc, hcounts⟩ := compile_sampleDocument
  have hcount : c.drivers.length = 1 := congrArg (fun n => n.2.2) hcounts
  exact ⟨c, hc, hcount, driversAgree_of_compile hc⟩

end MediaNetwork

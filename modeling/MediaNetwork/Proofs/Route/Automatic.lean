/-
  What automatic ids keep clear of.

  An automatic id skips the reserved ids, and reserved is what the sockets declare that face the
  network for an endpoint.  Not every network socket does: one that a fan wraps, or that is the
  input of a connection whose output is on the network too, is passed over (`Arena.PassedOver`).

  1. `faces_or_passedOver` — every network socket is held (`Arena.Ledger`), so it faces the network
     for an endpoint or is passed over.
  2. `automatic_ids_of_compile` — an automatic id can only be declared by sockets passed over.
  3. `automatic_id_clash` — and it can be: in `clashDocument` the only route gets the id 0x8000,
     which the input of a connection between two network sockets declares.
-/
import MediaNetwork.Proofs.Graph.Sharing
import MediaNetwork.Proofs.Route.Table

namespace MediaNetwork

open MediaNetwork.Markup MediaNetwork.Outcome

namespace Arena

/-- The network socket declares this route id. -/
def DeclaresId (a : Arena) (socket : ResourceId) (id : UInt16) : Prop :=
  ∃ port direction dataType bandwidth decl,
    a.get? socket = some (.socket ⟨port, direction, dataType, .network bandwidth decl⟩) ∧
      decl.routeId = some id

/-- A fan wraps the socket, or it is the input of a connection whose output is on the network. -/
def PassedOver (a : Arena) (socket : ResourceId) : Prop :=
  (∃ fan, a.Wraps fan socket) ∨
    ∃ id k, a.get? id = some (.connection k) ∧ k.socketIn = socket ∧ a.IsNetwork k.socketOut

theorem DeclaresId.isNetwork {a : Arena} {socket : ResourceId} {id : UInt16}
    (h : a.DeclaresId socket id) : a.IsNetwork socket := by
  obtain ⟨port, direction, dataType, bandwidth, decl, hget, -⟩ := h
  exact ⟨_, hget, rfl⟩

end Arena

/-- A network socket that faces the network for no endpoint is passed over: whoever holds it is a
    fan, or a connection that faces the network on its other side. -/
theorem faces_or_passedOver {a : Arena} {endpoints : List Endpoint} (h : Closed a endpoints)
    (htyped : ∀ e ∈ endpoints, e.TypedAt a) {socket : ResourceId} (hs : a.IsNetwork socket) :
    (∃ e ∈ endpoints, e.networkSocket = socket) ∨ a.PassedOver socket := by
  obtain ⟨port, direction, dataType, bandwidth, decl, hget⟩ := hs.exists_socket
  obtain ⟨holder, hholds, -⟩ := h.ledger.held socket _ hget List.not_mem_nil
  rcases h.typed.holder_cases ⟨_, hget, rfl⟩ hholds with ⟨k, hk⟩ | ⟨hfan, -⟩
  · obtain ⟨e, he, rfl⟩ := List.mem_map.mp ((h.records.mem_iff holder).mpr ⟨k, hk⟩)
    obtain ⟨k', hk', -, -, hfaces⟩ := htyped e he
    rw [hk] at hk'
    cases hk'
    obtain ⟨r, hr, hside⟩ := hholds
    rw [hk] at hr
    cases hr
    -- of the two sides one faces the network for the endpoint
    rcases hfaces with ⟨hout, -, hnetwork⟩ | ⟨hout, -, hnetwork, -⟩
    · rcases List.mem_pair.mp hside with rfl | rfl
      · exact Or.inr (Or.inr ⟨_, k, hk, rfl, hout⟩)
      · exact Or.inl ⟨e, he, hnetwork⟩
    · rcases List.mem_pair.mp hside with rfl | rfl
      · exact Or.inl ⟨e, he, hnetwork⟩
      · exact absurd hs hout
  · obtain ⟨wrapped, hwraps⟩ := h.typed.exists_wraps hfan
    obtain rfl := hwraps.refers_iff.mp hholds
    exact Or.inr (Or.inl ⟨holder, hwraps⟩)

/-! ## Automatic ids -/

namespace Configuration

/-- Neither of the sockets that face the network at the ends of the route declares an id. -/
def Automatic (c : Configuration) (r : Route) : Prop :=
  ∃ source sink, c.Says r.source .source source ∧ c.Says r.sink .sink sink ∧
    source.routeId = none ∧ sink.routeId = none

theorem Says.unique {c : Configuration} {id : EndpointId} {kind kind' : EndpointKind}
    {decl decl' : RouteDecl} (h : c.Says id kind decl) (h' : c.Says id kind' decl') :
    decl' = decl := by
  obtain ⟨e, he, -, hdecl⟩ := h
  obtain ⟨e', he', -, hdecl'⟩ := h'
  rw [he] at he'
  cases he'
  exact hdecl.unique hdecl'

end Configuration

namespace Route

variable {c : Configuration} {reserved : List UInt16} {sources sinks : List Terminal}
  (h : Assembled c.arena c.endpoints c.routes reserved sources sinks)

include h

/-- What faces the network for an endpoint declares reserved ids only. -/
theorem Assembled.reserved_of_declares {e : Endpoint} (he : e ∈ c.endpoints) {decl : RouteDecl}
    (hdecl : e.Declares c.arena decl) {id : UInt16} (hid : decl.routeId = some id) :
    id ∈ reserved := by
  obtain ⟨i, hi⟩ := List.mem_iff_getElem?.mp he
  obtain ⟨t, ht, htindex⟩ := h.terminal ⟨i⟩ e hi
  have hside : t ∈ sources ∨ t ∈ sinks := by
    cases hkind : e.kind with
    | source => exact Or.inl ((h.mem_sources t).mpr (hkind ▸ ht))
    | sink => exact Or.inr ((h.mem_sinks t).mpr (hkind ▸ ht))
  obtain ⟨e', he', -, -, hdecl'⟩ := ht
  rw [htindex, hi] at he'
  cases he'
  refine h.reserves t hside id ?_
  rw [hdecl.unique hdecl', hid]

/-- An id that no declaration asks for is not reserved. -/
theorem Assembled.not_reserved_of_automatic {r : Route} (hr : r ∈ c.routes)
    (hauto : c.Automatic r) : r.routeId ∉ reserved := by
  obtain ⟨s, hs, t, ht, -, hroute, hid⟩ := h.exists_pair hr
  obtain ⟨source, sink, hsource, hsink, hnone, hnone'⟩ := hauto
  rw [hroute] at hsource hsink
  have hsame : s.decl = source := hsource.unique (says_of_standsFor ((h.mem_sources s).mp hs))
  have hsame' : t.decl = sink := hsink.unique (says_of_standsFor ((h.mem_sinks t).mp ht))
  rcases hid with hdeclared | ⟨-, hfree, -⟩
  · rw [declaredId, hsame, hsame', hnone, hnone'] at hdeclared
    exact absurd hdeclared (Option.some_ne_none _).symm
  · exact hfree

end Route

/-! ## Documents -/

/-- **Automatic ids**: in the configuration of any document that compiles, the id of a route whose
    ends declare none is declared by no socket that faces the network for an endpoint, but at most
    by sockets passed over. -/
theorem automatic_ids_of_compile {text : String} {c : Configuration} (h : compile text = .ok c)
    {r : Route} (hr : r ∈ c.routes) (hauto : c.Automatic r) {socket : ResourceId}
    (hid : c.arena.DeclaresId socket r.routeId) :
    (∀ e ∈ c.endpoints, e.networkSocket ≠ socket) ∧ c.arena.PassedOver socket := by
  obtain ⟨plans, hg⟩ := graph_of_compile h
  have hfaces : ∀ e ∈ c.endpoints, e.networkSocket ≠ socket := by
    rintro e he rfl
    obtain ⟨root, -, h⟩ := compile_eq_ok.mp h
    obtain ⟨b, scripts, -, -, -, -, hroutes, -, hends, harena⟩ := compileElement_eq_ok.mp h
    rw [← hends, ← harena] at hroutes
    obtain ⟨reserved, sources, sinks, hassembled⟩ := Route.assemble_spec hroutes
    obtain ⟨port, direction, dataType, bandwidth, decl, hget, hdecl⟩ := hid
    exact hassembled.not_reserved_of_automatic hr hauto
      (hassembled.reserved_of_declares he ⟨port, direction, dataType, bandwidth, hget⟩ hdecl)
  refine ⟨hfaces, ?_⟩
  rcases faces_or_passedOver (closed_of_compile h) (fun _ => hg.typedAt) hid.isNetwork with
    ⟨e, he, hsocket⟩ | hpassed
  · exact absurd hsocket (hfaces e he)
  · exact hpassed

/-- A connection between two network sockets, whose input declares the first automatic id, and a
    sink for its output. -/
def clashDocument : String :=
  String.ofList (["<Unicens AsyncBandwidth='0'>", "<Node Address='512'><AVPConnection>",
    "<NetworkSocket Bandwidth='4' Route='x' ", "RouteId='0x8000'/>",
    "<NetworkSocket Bandwidth='4' Route='a'/>", "</AVPConnection><AVPConnection>",
    "<NetworkSocket Bandwidth='4' Route='a'/>", "<USBSocket EndpointAddress='1' ",
    "FramesPerTransaction='1'/>", "</AVPConnection></Node></Unicens>"].flatMap String.toList)

/-- The tree of the document. -/
def clashRoot : Element :=
  ⟨"Unicens", [("AsyncBandwidth", "0")], [
    ⟨"Node", [("Address", "512")], [
      ⟨"AVPConnection", [], [
        ⟨"NetworkSocket", [("Bandwidth", "4"), ("Route", "x"), ("RouteId", "0x8000")], [], 1⟩,
        ⟨"NetworkSocket", [("Bandwidth", "4"), ("Route", "a")], [], 1⟩], 1⟩,
      ⟨"AVPConnection", [], [
        ⟨"NetworkSocket", [("Bandwidth", "4"), ("Route", "a")], [], 1⟩,
        ⟨"USBSocket", [("EndpointAddress", "1"), ("FramesPerTransaction", "1")], [], 1⟩], 1⟩],
      1⟩], 1⟩

/-- What the document compiles to: the input of the first connection is the resource 1. -/
def clashConfiguration : Configuration where
  packetBandwidth := 0
  nodes := [⟨512, none, none, ⟨some ⟨0⟩, none, some ⟨5⟩, none⟩⟩]
  endpoints := [
    ⟨.source, 512, ⟨[⟨0⟩, ⟨1⟩, ⟨2⟩, ⟨3⟩]⟩, ⟨3⟩, ⟨2⟩, none⟩,
    ⟨.sink, 512, ⟨[⟨0⟩, ⟨4⟩, ⟨5⟩, ⟨6⟩, ⟨7⟩]⟩, ⟨7⟩, ⟨4⟩, none⟩]
  routes := [⟨"a", ⟨0⟩, ⟨1⟩, 0x8000, true⟩]
  drivers := []
  arena := ⟨#[
    .port ⟨512, .default, .network⟩,
    .socket ⟨⟨0⟩, .input, .isochronous, .network 4 ⟨"x", true, some 0x8000⟩⟩,
    .socket ⟨⟨0⟩, .output, .isochronous, .network 4 ⟨"a", true, none⟩⟩,
    .connection ⟨⟨1⟩, ⟨2⟩, .avPacketized .p188⟩,
    .socket ⟨⟨0⟩, .input, .isochronous, .network 4 ⟨"a", true, none⟩⟩,
    .port ⟨512, .default, .usb UsbSettings.default⟩,
    .socket ⟨⟨5⟩, .output, .isochronous, .usb 1 1⟩,
    .connection ⟨⟨4⟩, ⟨6⟩, .avPacketized .p188⟩]⟩

theorem compile_clashDocument : compile clashDocument = .ok clashConfiguration := by
  have htext : Element.ofText clashDocument = .ok clashRoot := by
    unfold Element.ofText clashDocument
    simp only [String.toList_ofList]
    cbv
  have hroot : compileElement clashRoot = .ok clashConfiguration := by decide +kernel
  exact compile_eq_ok.mpr ⟨clashRoot, htext, hroot⟩

/-- The ends of its route declare no id. -/
theorem automatic_clashRoute :
    clashConfiguration.Automatic ⟨"a", ⟨0⟩, ⟨1⟩, 0x8000, true⟩ :=
  ⟨⟨"a", true, none⟩, ⟨"a", true, none⟩, ⟨_, rfl, rfl, _, _, _, _, rfl⟩,
    ⟨_, rfl, rfl, _, _, _, _, rfl⟩, rfl, rfl⟩

/-- The input of its first connection declares the id of its route. -/
theorem declaresId_clash : clashConfiguration.arena.DeclaresId ⟨1⟩ 0x8000 :=
  ⟨_, _, _, _, _, rfl, rfl⟩

theorem automatic_ids_clashDocument : compile clashDocument = .ok clashConfiguration ∧
    (∀ e ∈ clashConfiguration.endpoints, e.networkSocket ≠ ⟨1⟩) ∧
      clashConfiguration.arena.PassedOver ⟨1⟩ :=
  ⟨compile_clashDocument, automatic_ids_of_compile compile_clashDocument
    (List.mem_singleton_self _) automatic_clashRoute declaresId_clash⟩

/-- **A clash**: automatic ids do not keep clear of every id that a network socket declares. -/
theorem automatic_id_clash : ¬ ∀ text c, compile text = .ok c → ∀ r ∈ c.routes, c.Automatic r →
    ∀ socket, ¬ c.arena.DeclaresId socket r.routeId := by
  intro h
  exact h clashDocument clashConfiguration compile_clashDocument _ (List.mem_singleton_self _)
    automatic_clashRoute ⟨1⟩ declaresId_clash

end MediaNetwork

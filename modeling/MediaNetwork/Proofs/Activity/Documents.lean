/-
  What activity and ids are good for: routes, and nothing else.

  1. Driver records — an endpoint's side away from the network is no network socket, and of one that
     is only the bandwidth is read (`infer_bare`), so a bare graph has the same (`derive_bare`).
  2. Routes — pairs are made by names, so a bare graph has the same pairs.  Without ids nothing is
     known of the ids of the routes, but that is all (`bare_of_assemble`); with ids the routes are
     the same but for their activity, and refusals are the same (`assemble_bare`).
  3. Documents — two documents with the same bare form are compared through it
     (`activity_confined`).
-/
import MediaNetwork.Proofs.Activity.Building
import MediaNetwork.Proofs.Route.Table

namespace MediaNetwork

open MediaNetwork.Markup MediaNetwork.Markup.Element MediaNetwork.Outcome

variable {ids : Bool}

/-! ## Driver records -/

namespace DriverRecord

/-- The bandwidth of a resource is not about activity. -/
theorem networkBandwidth?_bare (r : Resource) :
    networkBandwidth? (r.bare ids) = networkBandwidth? r := by
  cases r with
  | socket s =>
    obtain ⟨port, direction, dataType, kind⟩ := s
    cases kind <;> rfl
  | _ => rfl

/-- Nor is the channel of a socket. -/
theorem channel?_bare (kind : SocketKind) : channel? (kind.bare ids) = channel? kind := by
  cases kind <;> rfl

/-- The socket that a fan wraps is found without activity as with it. -/
theorem wrapped_bare (a : Arena) (id : ResourceId) : hostSocket.wrapped (a.bare ids) id =
    (hostSocket.wrapped a id).map fun s => { s with kind := s.kind.bare ids } := by
  simp only [hostSocket.wrapped, Arena.get_bare, bind_map, map_bind]
  congr 1
  funext r
  cases r <;> rfl

/-- **The host's socket** of a side is the same but for its activity. -/
theorem hostSocket_bare (a : Arena) (side : ResourceId) : hostSocket (a.bare ids) side =
    (hostSocket a side).map fun s => { s with kind := s.kind.bare ids } := by
  simp only [hostSocket, Arena.get_bare, bind_map, map_bind]
  congr 1
  funext r
  cases r with
  | splitter f => exact wrapped_bare a f.socketIn
  | combiner f => exact wrapped_bare a f.socketOut
  | _ => rfl

/-- A record that is inferred is the same. -/
theorem infer_bare (a : Arena) (c : LinkCandidate) : infer (a.bare ids) c = infer a c := by
  simp only [infer, Arena.get_bare, bind_map]
  congr 1
  funext r
  cases r with
  | connection k =>
    have hself : (Resource.connection k).bare ids = .connection k := rfl
    simp only [hself, networkBandwidth?_bare, Resource.isNetworkSocket_bare, hostSocket_bare,
      bind_map, channel?_bare]
  | _ => rfl

/-- Bindings are no network sockets and keep all attributes. -/
theorem readBinding_bare (e : Element) : readBinding (e.bare ids) = readBinding e := by
  simp (disch := decide) only [readBinding, readBuffers, name_bare, line_bare, word_bare, byte_bare,
    keyword_bare, attribute?_bare_of_kept]

/-- A driver that was given to a link, in its bare form. -/
def bareGiven (ids : Bool) (g : String × Element) : String × Element := (g.1, g.2.bare ids)

/-- The driver of a link is the bare one. -/
theorem lookup_bareGiven (given : List (String × Element)) (link : String) :
    (given.map (bareGiven ids)).lookup link = (given.lookup link).map (bare ids) := by
  induction given with
  | nil => rfl
  | cons g given ih =>
    obtain ⟨key, e⟩ := g
    rw [List.map_cons, bareGiven, List.lookup_cons, List.lookup_cons, ih]
    cases link == key <;> rfl

/-- Drivers are given to links by names, which stay. -/
theorem assign_bare (links : List String) (given : List (String × Element)) (e : Element) :
    assign links (given.map (bareGiven ids)) (e.bare ids) =
      (assign links given e).map (List.map (bareGiven ids)) := by
  unfold assign
  rw [text_bare e (by decide), line_bare, map_bind]
  congr 1
  funext link
  rw [lookup_bareGiven, Option.isSome_map]
  split
  · rfl
  split
  · rfl
  · simp [bareGiven]

theorem expand_bare (record : DriverRecord) (driver : Option Element) :
    expand record (driver.map (bare ids)) = expand record driver := by
  cases driver with
  | none => rfl
  | some d =>
    have hrequire : (d.bare ids).require [Schema.cdev, Schema.v4l2, Schema.alsa] .siblings =
        (d.require [Schema.cdev, Schema.v4l2, Schema.alsa] .siblings).map (bare ids) := by
      unfold require find?
      simp only [children_bare, List.find?_map, Function.comp_def, name_bare, line_bare]
      cases d.children.find? fun c => [Schema.cdev, Schema.v4l2, Schema.alsa].contains c.name
      · rfl
      · rfl
    simp only [Option.map_some, expand, hrequire, bind_map, children_bare, List.mapM_map,
      Function.comp_def, readBinding_bare]

/-- **Drivers**: the records of a bare graph are the same. -/
theorem derive_bare (a : Arena) (links : List LinkCandidate) (drivers : List Element) :
    derive (a.bare ids) links (drivers.map (bare ids)) = derive a links drivers := by
  have hgiven : ∀ links : List String, (drivers.map (bare ids)).foldlM (assign links) [] =
      (drivers.foldlM (assign links) []).map (List.map (bareGiven ids)) := by
    intro links
    rw [List.foldlM_map]
    exact foldlM_image (List.map (bareGiven ids)) (fun given e => assign_bare links given e) _ []
  have hinfer : infer (a.bare ids) = infer a := funext (infer_bare a)
  simp only [derive, hinfer, hgiven, bind_map, lookup_bareGiven, expand_bare]

end DriverRecord

/-! ## Terminals -/

/-- A terminal without what it says of activity. -/
def Terminal.bare (ids : Bool) (t : Terminal) : Terminal := { t with decl := t.decl.bare ids }

namespace Terminal

/-- A socket declares the same route but for its activity and, if `ids`, its id. -/
theorem routeDecl_bare (a : Arena) (id : ResourceId) :
    routeDecl (a.bare ids) id = (routeDecl a id).map (RouteDecl.bare ids) := by
  simp only [routeDecl, Arena.get_bare, bind_map, map_bind]
  congr 1
  funext r
  cases r with
  | socket s =>
    obtain ⟨port, direction, dataType, kind⟩ := s
    cases kind <;> rfl
  | _ => rfl

/-- **Terminals** are those of the graph, bare. -/
theorem ofEndpoints_bare (a : Arena) (endpoints : List Endpoint) :
    ofEndpoints (a.bare ids) endpoints =
      (ofEndpoints a endpoints).map (List.map (Prod.map id (bare ids))) := by
  refine mapM_image (Prod.map id (bare ids)) ?_ endpoints.zipIdx
  rintro ⟨e, i⟩
  simp only [routeDecl_bare, bind_map, map_bind]
  rfl

theorem ofKind_bare (kind : EndpointKind) (terminals : List (EndpointKind × Terminal)) :
    ofKind kind (terminals.map (Prod.map id (bare ids))) =
      (ofKind kind terminals).map (bare ids) := by
  unfold ofKind
  rw [List.filter_map, List.map_map, List.map_map]
  rfl

end Terminal

namespace Route

/-- Names of routes repeat themselves, or not, as before. -/
theorem repeatedSource?_bare (before sources : List Terminal) :
    repeatedSource? (before.map (Terminal.bare ids)) (sources.map (Terminal.bare ids)) =
      (repeatedSource? before sources).map (Prod.map (Terminal.bare ids) (Terminal.bare ids)) := by
  induction sources generalizing before with
  | nil => rfl
  | cons s sources ih =>
    have hsame : (before.map (Terminal.bare ids)).find? (s.bare ids).sameRoute =
        (before.find? s.sameRoute).map (Terminal.bare ids) := List.find?_map
    have hnext := ih (before ++ [s])
    rw [List.map_append, List.map_singleton] at hnext
    rw [List.map_cons, repeatedSource?, repeatedSource?, hsame, hnext]
    cases before.find? s.sameRoute <;> rfl

/-- **Checks** look at names only. -/
theorem checkTerminals_bare (sources sinks : List Terminal) :
    checkTerminals (sources.map (Terminal.bare ids)) (sinks.map (Terminal.bare ids)) =
      checkTerminals sources sinks := by
  have hlonely : ∀ these those : List Terminal,
      ((these.map (Terminal.bare ids)).find? fun s =>
        !(those.map (Terminal.bare ids)).any s.sameRoute) =
        (these.find? fun s => !those.any s.sameRoute).map (Terminal.bare ids) := by
    intro these those
    rw [List.find?_map]
    refine congrArg (Option.map _) (congrArg (List.find? · these) (funext fun s => ?_))
    simp only [Function.comp_apply, List.any_map]
    rfl
  have hrepeated : repeatedSource? [] (sources.map (Terminal.bare ids)) = _ :=
    repeatedSource?_bare [] sources
  unfold checkTerminals
  rw [hrepeated, hlonely, hlonely]
  cases repeatedSource? [] sources with
  | some pair => rfl
  | none =>
    cases sources.find? fun s => !sinks.any s.sameRoute with
    | some s => rfl
    | none => cases sinks.find? fun s => !sources.any s.sameRoute <;> rfl

/-- The sources and sinks are paired as before. -/
theorem pairs_bare (sources sinks : List Terminal) :
    pairs (sources.map (Terminal.bare ids)) (sinks.map (Terminal.bare ids)) =
      (pairs sources sinks).map (Prod.map (Terminal.bare ids) (Terminal.bare ids)) := by
  unfold pairs
  rw [List.flatMap_map, List.map_flatMap]
  refine congrArg (List.flatMap · sources) (funext fun source => ?_)
  rw [List.filter_map, List.map_map, List.map_map]
  rfl

theorem expectedCount_bare (sources sinks : List Terminal) :
    expectedCount (sources.map (Terminal.bare ids)) (sinks.map (Terminal.bare ids)) =
      expectedCount sources sinks := by
  unfold expectedCount
  rw [List.foldr_map]
  refine congrArg (List.foldr · 0 sources) (funext fun source => funext fun count => ?_)
  rw [List.countP_map]
  rfl

/-! ## Routes -/

/-- A route without its activity and, if `ids`, without its id. -/
def bare (ids : Bool) (r : Route) : Route :=
  { r with active := true, routeId := if ids then 0 else r.routeId }

/-- Ids are given to pairs whatever their activity. -/
theorem assign_bare (reserved : List UInt16) (left : Nat) (used : List UInt16) (done : List Route)
    (pairs : List (Terminal × Terminal)) :
    assign reserved left used (done.map (bare false))
        (pairs.map (Prod.map (Terminal.bare false) (Terminal.bare false))) =
      (assign reserved left used done pairs).map (List.map (bare false)) := by
  induction pairs generalizing left used done with
  | nil => simp [assign]
  | cons pair pairs ih =>
    obtain ⟨source, sink⟩ := pair
    have hpick : pickId reserved left (source.bare false) (sink.bare false) =
        pickId reserved left source sink := rfl
    have hdone : ∀ id, ofPair (source.bare false) (sink.bare false) id :: done.map (bare false) =
        (ofPair source sink id :: done).map (bare false) := fun id => rfl
    rw [List.map_cons, Prod.map_apply, assign, assign, hpick, map_bind]
    simp only [hdone, ih]
    congr 1
    funext drawn
    split <;> rfl

/-- **Activity**: the routes of a graph without activity are the same but for theirs, refusals
    included. -/
theorem assemble_bare (a : Arena) (endpoints : List Endpoint) :
    assemble (a.bare false) endpoints = (assemble a endpoints).map (List.map (bare false)) := by
  have hreserved : ∀ terminals : List Terminal,
      ((terminals.map (Terminal.bare false)).filterMap fun t => t.decl.routeId) =
        terminals.filterMap fun t => t.decl.routeId := by
    intro terminals
    rw [List.filterMap_map]
    rfl
  have hassign : ∀ reserved pairs, assign reserved automaticIds [] []
      (pairs.map (Prod.map (Terminal.bare false) (Terminal.bare false))) =
        (assign reserved automaticIds [] [] pairs).map (List.map (bare false)) :=
    fun reserved pairs => assign_bare reserved automaticIds [] [] pairs
  simp only [assemble, Terminal.ofEndpoints_bare, bind_map, map_bind, Terminal.ofKind_bare,
    checkTerminals_bare, ← List.map_append, hreserved, pairs_bare, hassign, expectedCount_bare,
    checkCount, List.length_map]
  rfl

/-- **Ids**: without activity and ids, the routes are the pairs of what is left. -/
theorem bare_of_assemble {a : Arena} {endpoints : List Endpoint} {routes : List Route}
    (h : assemble a endpoints = .ok routes) :
    ∃ terminals, Terminal.ofEndpoints (a.bare true) endpoints = .ok terminals ∧
      routes.map (bare true) = (pairs (Terminal.ofKind .source terminals)
        (Terminal.ofKind .sink terminals)).map fun p => ofPair p.1 p.2 0 := by
  obtain ⟨terminals, hterminals, h⟩ := bind_eq_ok.mp h
  obtain ⟨-, -, h⟩ := bind_eq_ok.mp h
  obtain ⟨assigned, hassign, h⟩ := bind_eq_ok.mp h
  obtain ⟨-, -, h⟩ := bind_eq_ok.mp h
  cases h
  obtain ⟨more, hroutes, hgets, -, -⟩ :=
    assign_spec (Nat.le_refl _) (fun _ hpair _ hid => declaredId_mem hpair hid) hassign
  obtain rfl : routes = more := hroutes
  refine ⟨terminals.map (Prod.map id (Terminal.bare true)), ?_, ?_⟩
  · rw [Terminal.ofEndpoints_bare, hterminals, map_ok]
  · rw [Terminal.ofKind_bare, Terminal.ofKind_bare, pairs_bare, List.map_map, eq_comm,
      map_eq_map_iff_forall₂]
    refine hgets.imp fun p r hr => ?_
    rw [hr.1]
    rfl

end Route

/-! ## Documents -/

/-- A configuration without the activity of its routes and, if `ids`, without their ids. -/
def Configuration.bare (ids : Bool) (c : Configuration) : Configuration :=
  { c with routes := c.routes.map (Route.bare ids), arena := c.arena.bare ids }

section Documents

variable (root : Element)

/-- The root's own attributes are read as before. -/
theorem readHeader_bare : readHeader (root.bare ids) = readHeader root := by
  simp (disch := decide) only [readHeader, checkRoot, name_bare, line_bare, word_bare,
    countChildren_bare]

/-- A document with valid activity and one without any compile to the same but for the activity of
    their routes, or are refused for the same reason. -/
theorem compileElement_bare (hvalid : root.ValidActivity) :
    compileElement (root.bare false) = (compileElement root).map (Configuration.bare false) := by
  have hmirrors : Mirrors True (Builder.bare false) (buildNodes root)
      (buildNodes (root.bare false)) := mirrors_buildNodes fun _ => ⟨rfl, hvalid⟩
  simp only [compileElement, assemble, readHeader_bare, hmirrors.eq_map trivial, childrenNamed_bare,
    Script.ofElements_bare, Builder.bare, Route.assemble_bare, DriverRecord.derive_bare, bind_map,
    map_bind]
  rfl

/-- What a configuration is without activity and ids can be told from the bare document. -/
theorem bare_of_compileElement {c : Configuration} (h : compileElement root = .ok c) :
    ∃ b scripts terminals, readHeader (root.bare true) = .ok c.packetBandwidth ∧
      buildNodes (root.bare true) = .ok b ∧
      Script.ofElements ((root.bare true).childrenNamed Schema.script) = .ok scripts ∧
      linkScripts scripts b.nodes.toList = .ok c.nodes ∧
      Terminal.ofEndpoints b.arena b.endpoints.toList = .ok terminals ∧
      DriverRecord.derive b.arena b.links.toList ((root.bare true).childrenNamed Schema.driver) =
        .ok c.drivers ∧
      c.bare true = ⟨c.packetBandwidth, c.nodes, b.endpoints.toList,
        (Route.pairs (Terminal.ofKind .source terminals) (Terminal.ofKind .sink terminals)).map
          fun p => Route.ofPair p.1 p.2 0, c.drivers, b.arena⟩ := by
  obtain ⟨b, scripts, hheader, hb, hscripts, hnodes, hroutes, hdrivers, hends, harena⟩ :=
    compileElement_eq_ok.mp h
  have hmirrors : Mirrors False (Builder.bare true) (buildNodes root)
      (buildNodes (root.bare true)) := mirrors_buildNodes False.elim
  obtain ⟨terminals, hterminals, hbare⟩ := Route.bare_of_assemble hroutes
  refine ⟨b.bare true, scripts, terminals, ?_, hmirrors.value b hb, ?_, hnodes, hterminals, ?_, ?_⟩
  · rw [readHeader_bare, hheader]
  · rw [childrenNamed_bare, Script.ofElements_bare, hscripts]
  · rw [childrenNamed_bare]
    exact (DriverRecord.derive_bare b.arena _ _).trans hdrivers
  · rw [Configuration.bare, hbare, hends, harena]
    rfl

variable {root} {root' : Element}

/-- Two documents with the same bare form compile to the same but for activity and ids. -/
theorem bare_eq_of_bare_eq (hsame : root'.bare true = root.bare true) {c c' : Configuration}
    (h : compileElement root = .ok c) (h' : compileElement root' = .ok c') :
    c'.bare true = c.bare true := by
  obtain ⟨b, scripts, terminals, hheader, hb, hscripts, hnodes, hterminals, hdrivers, hbare⟩ :=
    bare_of_compileElement root h
  obtain ⟨b', scripts', terminals', hheader', hb', hscripts', hnodes', hterminals', hdrivers',
    hbare'⟩ := bare_of_compileElement root' h'
  -- both are told from the one bare document, stage by stage
  rw [hsame] at hheader' hb' hscripts' hdrivers'
  cases hb.symm.trans hb'
  cases hscripts.symm.trans hscripts'
  cases hterminals.symm.trans hterminals'
  have hbandwidth := Except.ok.inj (hheader.symm.trans hheader')
  have hnode := Except.ok.inj (hnodes.symm.trans hnodes')
  have hdriver := Except.ok.inj (hdrivers.symm.trans hdrivers')
  rw [hbare, hbare', hbandwidth, hnode, hdriver]

/-- Two documents that differ in valid activity only compile alike. -/
theorem map_bare_eq_of_bare_eq (hsame : root'.bare false = root.bare false)
    (hvalid : root.ValidActivity) (hvalid' : root'.ValidActivity) :
    (compileElement root').map (Configuration.bare false) =
      (compileElement root).map (Configuration.bare false) := by
  rw [← compileElement_bare root hvalid, ← compileElement_bare root' hvalid', hsame]

/-- Without activity all ids are there. -/
theorem Configuration.map_routeId_bare (c : Configuration) :
    (c.bare false).routes.map Route.routeId = c.routes.map Route.routeId := by
  simp only [Configuration.bare, List.map_map]
  rfl

end Documents

/-- **Activity and ids do not leak**: if two documents differ in what their network sockets say of
    activity and ids only, and both compile, then so do their configurations.  If they differ in
    activity only, and it is valid, then both compile or neither does, and all ids are equal. -/
theorem activity_confined (r r' : Element) :
    (r'.bare true = r.bare true → ∀ c c', compileElement r = .ok c → compileElement r' = .ok c' →
      c'.bare true = c.bare true) ∧
    (r'.bare false = r.bare false → r.ValidActivity → r'.ValidActivity →
      ((∃ c, compileElement r = .ok c) ↔ ∃ c', compileElement r' = .ok c') ∧
      ∀ c c', compileElement r = .ok c → compileElement r' = .ok c' →
        c'.bare false = c.bare false ∧
          c'.routes.map Route.routeId = c.routes.map Route.routeId) := by
  refine ⟨fun hsame c c' hc hc' => bare_eq_of_bare_eq hsame hc hc', fun hsame hvalid hvalid' => ?_⟩
  have himage := map_bare_eq_of_bare_eq hsame hvalid hvalid'
  refine ⟨⟨fun ⟨c, hc⟩ => ?_, fun ⟨c', hc'⟩ => ?_⟩, fun c c' hc hc' => ?_⟩
  · obtain ⟨c', hc', -⟩ := exists_ok_of_map_eq himage.symm hc
    exact ⟨c', hc'⟩
  · obtain ⟨c, hc, -⟩ := exists_ok_of_map_eq himage hc'
    exact ⟨c, hc⟩
  · obtain ⟨d, hd, hbare⟩ := exists_ok_of_map_eq himage.symm hc
    cases hc'.symm.trans hd
    exact ⟨hbare, by rw [← c'.map_routeId_bare, hbare, c.map_routeId_bare]⟩

/-- A stream from a node to itself, whose two ends say more of it by these attributes. -/
def switchRoot (source sink : List (String × String)) : Element :=
  ⟨"Unicens", [("AsyncBandwidth", "0")], [
    ⟨"Node", [("Address", "512")], [
      ⟨"SyncConnection", [("Link", "l")], [
        ⟨"MediaLBSocket", [("ChannelAddress", "2"), ("Bandwidth", "4")], [], 1⟩,
        ⟨"NetworkSocket", [("Bandwidth", "4"), ("Route", "a")] ++ source, [], 1⟩], 1⟩,
      ⟨"SyncConnection", [], [
        ⟨"NetworkSocket", [("Bandwidth", "4"), ("Route", "a")] ++ sink, [], 1⟩,
        ⟨"MediaLBSocket", [("ChannelAddress", "10"), ("Bandwidth", "4")], [], 1⟩], 1⟩], 1⟩], 1⟩

/-- What the route of a stream is told by its ends: its id and its activity. -/
def Configuration.told (c : Configuration) : List (UInt16 × Bool) :=
  c.routes.map fun r => (r.routeId, r.active)

/-- Three such documents compile to the same but for the id and the activity of the route. -/
theorem activity_confined_switchRoot : ∃ c c' c'',
    compileElement (switchRoot [] [("RouteId", "5")]) = .ok c ∧
    compileElement (switchRoot [("IsActive", "0"), ("RouteId", "9")] []) = .ok c' ∧
    compileElement (switchRoot [("IsActive", "false")] [("RouteId", "5")]) = .ok c'' ∧
    c.told = [(5, true)] ∧ c'.told = [(9, false)] ∧ c''.told = [(5, false)] ∧
    c'.bare true = c.bare true ∧ c''.bare false = c.bare false ∧
    c''.routes.map Route.routeId = c.routes.map Route.routeId := by
  have h : (compileElement (switchRoot [] [("RouteId", "5")])).map Configuration.told =
      .ok [(5, true)] := by decide +kernel
  have h' : (compileElement (switchRoot [("IsActive", "0"), ("RouteId", "9")] [])).map
      Configuration.told = .ok [(9, false)] := by decide +kernel
  have h'' : (compileElement (switchRoot [("IsActive", "false")] [("RouteId", "5")])).map
      Configuration.told = .ok [(5, false)] := by decide +kernel
  obtain ⟨c, hc, htold⟩ := map_eq_ok.mp h
  obtain ⟨c', hc', htold'⟩ := map_eq_ok.mp h'
  obtain ⟨c'', hc'', htold''⟩ := map_eq_ok.mp h''
  have hids := (activity_confined (switchRoot [] [("RouteId", "5")])
    (switchRoot [("IsActive", "0"), ("RouteId", "9")] [])).1 rfl c c' hc hc'
  have hactivity := ((activity_confined (switchRoot [] [("RouteId", "5")])
    (switchRoot [("IsActive", "false")] [("RouteId", "5")])).2 rfl (by decide +kernel)
    (by decide +kernel)).2 c c'' hc hc''
  exact ⟨c, c', c'', hc, hc', hc'', htold, htold', htold'', hids, hactivity.1, hactivity.2⟩

end MediaNetwork
